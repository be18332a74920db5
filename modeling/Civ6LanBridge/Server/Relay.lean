/-
`server/src/relay.rs`: what the server does with a datagram. The result is the datagrams to send and
the state left behind, also when the datagram is refused.
-/
import Civ6LanBridge.Server.State

namespace Civ6LanBridge

open Std FinMap Bytes

/-! ## Addresses, datagrams, errors -/

/-- `std::net::IpAddr`; nothing here looks inside an IPv6 address. -/
inductive IpAddr
  | v4 (address : Ipv4Addr)
  | v6 (octets : List UInt8)
deriving DecidableEq

structure SocketAddr where
  ip : IpAddr
  port : UInt16
deriving DecidableEq

structure OutboundDatagram where
  destination : SocketAddr
  message : RelayMessage
  «meta» : RelayEnvelopeMeta
deriving DecidableEq

inductive RelayError
  | invalidPacket (what : String)
  | codec (e : RelayCodecError)
  | invalidSource (source : SocketAddr)
  | unknownSource (ip : Ipv4Addr)
  | staleConnectionEpoch (received current : UInt64)
  | rateLimited
  | duplicateSequence (sequence : UInt64)
  | sourcePeerMismatch (hostSessionId : HostSessionId) (sourcePeerId : PeerId)
  | router (e : RouterError)
deriving DecidableEq

def relayDestination (ip : VirtualIp) (port : UInt16) : SocketAddr := { ip := .v4 ip.address, port }

theorem relayDestination_ip {ip ip' : VirtualIp} {port : UInt16} (h : (relayDestination ip port).ip = .v4 ip'.address) :
    ip = ip' := by
  cases ip
  cases ip'
  cases h
  rfl

/-! ## From an action of the router to datagrams -/

def actionToDatagrams (relayPort : UInt16) (r : RoomRouter) (action : RelayAction) («meta» : RelayEnvelopeMeta) :
    Except RelayError (List OutboundDatagram) :=
  match action with
  | .discoveryFanout requestId sourcePeerId destinationPort targets payload =>
    match r.peerVirtualIp sourcePeerId with
    | none => .error (.unknownSource .unspecified)
    | some sourceVirtualIp => .ok (targets.map fun target =>
        { destination := relayDestination target.hostVirtualIp relayPort
          message := .discoveryToHost requestId sourceVirtualIp destinationPort payload
          «meta» })
  | .discoveryUnicast requestId destinationPeerId sourceVirtualIp sourcePort payload =>
    match r.peerVirtualIp destinationPeerId with
    | none => .error (.unknownSource .unspecified)
    | some destination => .ok [
        { destination := relayDestination destination relayPort
          message := .discoveryToClient requestId sourceVirtualIp sourcePort payload
          «meta» }]
  | .gameplayUnicast route destinationPort payload =>
    match r.peerVirtualIp route.sourcePeerId with
    | none => .error (.unknownSource .unspecified)
    | some sourceVirtualIp => .ok [
        { destination := relayDestination route.destinationVirtualIp relayPort
          message := .gameplayToPeer route.sessionId sourceVirtualIp destinationPort payload
          «meta» }]

/-! ## Handling a datagram -/

/-- What a message from a peer asks of the router: for a discovery response the host session has to
be the peer's own. -/
def ingressOf (r : RoomRouter) (sourcePeerId : PeerId) (now : Instant) : RelayMessage → Except RelayError RelayIngress
  | .discoveryRequest requestId destinationPort payload =>
    .ok (.discovery sourcePeerId requestId destinationPort payload now)
  | .discoveryResponse requestId hostSessionId sourcePort payload =>
    match r.hostSnapshot hostSessionId with
    | .error e => .error (.router e)
    | .ok host =>
      if host.peerId ≠ sourcePeerId then .error (.sourcePeerMismatch hostSessionId sourcePeerId)
      else .ok (.discoveryResponse hostSessionId requestId sourcePort payload now)
  | .gameplayPacket sessionId sourcePort payload => .ok (.gameplay sessionId sourcePeerId sourcePort payload now)
  -- the messages that only the server sends
  | .discoveryToHost .. | .discoveryToClient .. | .gameplayToPeer .. | .relayProbe _ | .relayProbeAck _ =>
    .error (.invalidPacket "server received an outbound relay envelope")

/-- The datagrams a request sends out, or the error. -/
abbrev Handled := Except (Fault RelayError) (List OutboundDatagram) × AppState

/-- The end of `handle_datagram`, once the datagram counts as new. -/
def route (o : WalkOrder) (relayPort : UInt16) (s : AppState) (sourcePeerId : PeerId) (envelope : RelayEnvelope)
    (now : Instant) : Handled :=
  match ingressOf s.router sourcePeerId now envelope.message with
  | .error e => (.error (.error e), s)
  | .ok ingress =>
    match RoomRouter.dispatch o s.router ingress with
    | (.error e, router) => (.error (e.map .router), { s with router })
    | (.ok action, router) =>
      ((actionToDatagrams relayPort router action envelope.meta).mapError .error, { s with router })

/-- `handle_datagram` for a message other than a probe, from a peer whose epoch is right. -/
def handleMessage (o : WalkOrder) (relayPort : UInt16) (s : AppState) (sourcePeerId : PeerId)
    (envelope : RelayEnvelope) (now : Instant) : Handled :=
  match s.router.markPeerSeen sourcePeerId now with
  | (.error e, router) => (.error (e.map .router), { s with router })
  | (.ok (), router) =>
    match s.sequenceTracker.recordSequence sourcePeerId envelope.meta.sequence with
    | (.duplicate, sequenceTracker) =>
      (.error (.error (.duplicateSequence envelope.meta.sequence)), { s with router, sequenceTracker })
    -- new, reordered and unnumbered messages are routed alike
    | (_, sequenceTracker) => route o relayPort { s with router, sequenceTracker } sourcePeerId envelope now

/-- A probe is answered to the address it came from. -/
def handleProbe (s : AppState) (source : SocketAddr) (sourcePeerId : PeerId) (requestId : DiscoveryRequestId)
    («meta» : RelayEnvelopeMeta) (now : Instant) : Handled :=
  match s.router.markPeerSeen sourcePeerId now with
  | (.error e, router) => (.error (e.map .router), { s with router })
  | (.ok (), router) => (.ok [{ destination := source, message := .relayProbeAck requestId, «meta» }],
      { s with router })

/-- `handle_datagram` from the write lock of the router on. -/
def handleEnvelope (o : WalkOrder) (relayPort : UInt16) (s : AppState) (source : SocketAddr) (sourceIp : Ipv4Addr)
    (envelope : RelayEnvelope) (now : Instant) : Handled :=
  match s.router.peerForVirtualIp ⟨sourceIp⟩ with
  | none => (.error (.error (.unknownSource sourceIp)), s)
  | some sourcePeerId =>
    match s.router.peerConnectionEpoch sourcePeerId with
    | .error e => (.error (.error (.router e)), s)
    | .ok currentEpoch =>
      let received := envelope.meta.connectionEpoch
      -- epoch 0 is that of a client that does not stamp its datagrams, and is not checked
      if received ≠ 0 ∧ received ≠ currentEpoch then
        (.error (.error (.staleConnectionEpoch received currentEpoch)), s)
      else
        match envelope.message with
        | .relayProbe requestId => handleProbe s source sourcePeerId requestId envelope.meta now
        | _ => handleMessage o relayPort s sourcePeerId envelope now

/-- `limiterNow` is the reading of the clock inside the rate limiter, `now` the one under the lock. -/
def handleDatagram (o : WalkOrder) (relayPort : UInt16) (s : AppState) (source : SocketAddr) (packet : List UInt8)
    (limiterNow now : Instant) : Handled :=
  match RelayEnvelope.decode packet with
  | .error e => (.error (e.map .codec), s)
  | .ok envelope =>
    match source.ip with
    | .v6 _ => (.error (.error (.invalidSource source)), s)
    | .v4 sourceIp =>
      -- the limiter counts the address also of who is not registered
      match s.udpRateLimiter.allow sourceIp.toString limiterNow with
      | (false, udpRateLimiter) => (.error (.error .rateLimited), { s with udpRateLimiter })
      | (true, udpRateLimiter) => handleEnvelope o relayPort { s with udpRateLimiter } source sourceIp envelope now

end Civ6LanBridge

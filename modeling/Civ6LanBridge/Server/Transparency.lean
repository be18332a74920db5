/-
What the relay does to a message on its way: the kind and the address in it change, and what the games
see of it does not. Whatever the server sends on encodes, so encoding never fails where it sends.
-/
import Civ6LanBridge.Server.Gate

namespace Civ6LanBridge

open Std FinMap Bytes

/-! ## What a message is about -/

namespace RelayMessage

def requestId? : RelayMessage → Option DiscoveryRequestId
  | discoveryRequest requestId _ _ | discoveryToHost requestId _ _ _ | discoveryResponse requestId _ _ _ =>
    some requestId
  | discoveryToClient requestId _ _ _ | relayProbe requestId | relayProbeAck requestId => some requestId
  | gameplayPacket .. | gameplayToPeer .. => none

def sessionId? : RelayMessage → Option GameplaySessionId
  | gameplayPacket sessionId _ _ | gameplayToPeer sessionId _ _ _ => some sessionId
  | _ => none

/-- The Civ VI port a message is from or for. -/
def port? : RelayMessage → Option Civ6UdpPort
  | discoveryRequest _ port _ | discoveryToHost _ _ port _ | discoveryResponse _ _ port _ => some port
  | discoveryToClient _ _ port _ | gameplayPacket _ port _ | gameplayToPeer _ _ port _ => some port
  | relayProbe _ | relayProbeAck _ => none

/-- What the server makes of a message: the sender goes by the address in place of its host session. -/
inductive Forwards (ip : VirtualIp) : RelayMessage → RelayMessage → Prop
  | request {requestId port payload} :
      Forwards ip (.discoveryRequest requestId port payload) (.discoveryToHost requestId ip port payload)
  | response {requestId hostId port payload} :
      Forwards ip (.discoveryResponse requestId hostId port payload) (.discoveryToClient requestId ip port payload)
  | gameplay {sessionId port payload} :
      Forwards ip (.gameplayPacket sessionId port payload) (.gameplayToPeer sessionId ip port payload)
  | probe {requestId} : Forwards ip (.relayProbe requestId) (.relayProbeAck requestId)

/-- The two messages are about the same request or session, from or for the same port, with one payload. -/
structure Matches (m m' : RelayMessage) : Prop where
  payload : m'.payload? = m.payload?
  request : m'.requestId? = m.requestId?
  session : m'.sessionId? = m.sessionId?
  port : m'.port? = m.port?

theorem Forwards.matches {ip : VirtualIp} {m m' : RelayMessage} (h : Forwards ip m m') : Matches m m' := by
  cases h <;> constructor <;> rfl

/-- The server relays the message: it comes from a peer, is from or for a Civ VI port of its kind, and its
payload is within the limits. -/
def Relayable (config : RouterConfig) : RelayMessage → Prop
  | discoveryRequest _ port payload | discoveryResponse _ _ port payload =>
    isDiscoveryPort port.port = true ∧ payload.length ≤ min maxCiv6DatagramSize config.safePayloadSize
  | gameplayPacket _ port payload =>
    port.port = gameplayPort ∧ payload.length ≤ min maxCiv6DatagramSize config.safePayloadSize
  | relayProbe _ => True
  | _ => False

variable {config : RouterConfig} {m : RelayMessage}

theorem Relayable.payload (h : m.Relayable config) {payload : List UInt8} (hp : m.payload? = some payload) :
    payload.length ≤ min maxCiv6DatagramSize config.safePayloadSize := by
  cases m <;> simp only [payload?, Option.some.injEq, reduceCtorEq] at hp
  all_goals subst hp
  all_goals first
    | exact h.2
    | exact h.elim

theorem Relayable.discoveryPort (h : m.Relayable config) {requestId : DiscoveryRequestId} {port : Civ6UdpPort}
    (hr : m.requestId? = some requestId) (hp : m.port? = some port) : 62900 ≤ port.port ∧ port.port ≤ 62999 := by
  have hport : ∀ port : Civ6UdpPort, isDiscoveryPort port.port = true → 62900 ≤ port.port ∧ port.port ≤ 62999 := by
    intro port h
    unfold isDiscoveryPort at h
    rw [Bool.and_eq_true, decide_eq_true_eq, decide_eq_true_eq] at h
    exact h
  cases m <;> simp only [port?, requestId?, Option.some.injEq, reduceCtorEq] at hr hp
  all_goals subst hp
  all_goals first
    | exact hport _ h.1
    | exact h.elim

theorem Relayable.gameplayPort (h : m.Relayable config) {sessionId : GameplaySessionId} {port : Civ6UdpPort}
    (hs : m.sessionId? = some sessionId) (hp : m.port? = some port) : port.port = 62056 := by
  cases m <;> simp only [port?, sessionId?, Option.some.injEq, reduceCtorEq] at hs hp
  all_goals subst hp
  all_goals first
    | exact h.1
    | exact h.elim

/-- Whatever is sent on encodes. -/
theorem Relayable.fits (h : m.Relayable config) {m' : RelayMessage} (hm : Matches m m') : m'.PayloadFits := by
  intro payload hp
  have hle := h.payload (hm.payload ▸ hp)
  omega

end RelayMessage

/-! ## What is dispatched -/

namespace RoomRouter

variable {r r' : RoomRouter} {o : WalkOrder} {action : RelayAction} {now : Instant}

theorem validatePayload_ok {payload : List UInt8} (h : r.validatePayload payload = .ok ()) :
    payload.length ≤ min maxCiv6DatagramSize r.config.safePayloadSize := by
  unfold validatePayload at h
  split at h
  · cases h
  · omega

theorem dispatch_discovery_ok {p : PeerId} {requestId : DiscoveryRequestId} {port : Civ6UdpPort} {payload : List UInt8}
    (h : dispatch o r (.discovery p requestId port payload now) = (.ok action, r')) :
    isDiscoveryPort port.port = true ∧ payload.length ≤ min maxCiv6DatagramSize r.config.safePayloadSize := by
  simp only [dispatch] at h
  split at h
  · cases h
  rename_i hv
  split at h
  · cases h
  constructor
  · by_contra hp
    unfold beginDiscovery at h
    rw [if_pos (by simpa using hp)] at h
    cases h
  · exact validatePayload_ok hv

theorem dispatch_discoveryResponse_ok {hostId : HostSessionId} {requestId : DiscoveryRequestId} {port : Civ6UdpPort}
    {payload : List UInt8}
    (h : dispatch o r (.discoveryResponse hostId requestId port payload now) = (.ok action, r')) :
    isDiscoveryPort port.port = true ∧ payload.length ≤ min maxCiv6DatagramSize r.config.safePayloadSize := by
  simp only [dispatch] at h
  split at h
  · cases h
  rename_i hv
  split at h
  · cases h
  rename_i hp
  constructor
  · simpa using hp
  · exact validatePayload_ok hv

theorem dispatch_gameplay_ok {sessionId : GameplaySessionId} {p : PeerId} {port : Civ6UdpPort} {payload : List UInt8}
    (h : dispatch o r (.gameplay sessionId p port payload now) = (.ok action, r')) :
    port.port = Civ6LanBridge.gameplayPort ∧ payload.length ≤ min maxCiv6DatagramSize r.config.safePayloadSize := by
  simp only [dispatch] at h
  split at h
  · cases h
  rename_i hv
  split at h
  · cases h
  rename_i hp
  constructor
  · exact not_not.1 hp
  · exact validatePayload_ok hv

end RoomRouter

/-! ## What is sent on -/

section

variable {s : AppState} {o : WalkOrder} {relayPort : UInt16} {source : SocketAddr} {packet : List UInt8} {p : PeerId}
  {peer : PeerState} {envelope : RelayEnvelope} {limiterNow now : Instant} {out : List OutboundDatagram}
  {r r' : RoomRouter}

theorem route_relayable (h : (route o relayPort s p envelope now).1 = .ok out) :
    envelope.message.Relayable s.router.config := by
  unfold route at h
  split at h
  · cases h
  rename_i ingress hin
  split at h
  · cases h
  rename_i action router hd
  unfold ingressOf at hin
  split at hin
  · rename_i hmsg
    cases hin
    rw [hmsg]
    exact RoomRouter.dispatch_discovery_ok hd
  · rename_i hmsg
    split at hin
    · cases hin
    split at hin
    · cases hin
    cases hin
    rw [hmsg]
    exact RoomRouter.dispatch_discoveryResponse_ok hd
  · rename_i hmsg
    cases hin
    rw [hmsg]
    exact RoomRouter.dispatch_gameplay_ok hd
  all_goals cases hin

theorem Routed.forwards (h : Routed o relayPort r p peer envelope now out r') :
    ∀ d ∈ out, d.meta = envelope.meta ∧ ∃ ip, RelayMessage.Forwards ip envelope.message d.message := by
  intro d hd
  cases h with
  | request hmsg =>
    rcases List.mem_map.1 hd with ⟨target, -, rfl⟩
    exact ⟨rfl, _, by rw [hmsg]; exact .request⟩
  | response hmsg =>
    rcases List.mem_singleton.1 hd with rfl
    exact ⟨rfl, _, by rw [hmsg]; exact .response⟩
  | gameplay hmsg =>
    rcases List.mem_singleton.1 hd with rfl
    exact ⟨rfl, _, by rw [hmsg]; exact .gameplay⟩

/-- What is accepted is an envelope around a message that the server relays, and is sent on as what the
server makes of the message, with the same metadata. -/
theorem handleDatagram_forwards (h : s.router.WF)
    (hok : (handleDatagram o relayPort s source packet limiterNow now).1 = .ok out) :
    ∃ envelope, RelayEnvelope.decode packet = .ok envelope ∧ envelope.message.Relayable s.router.config ∧
      ∀ d ∈ out, d.meta = envelope.meta ∧ ∃ ip, RelayMessage.Forwards ip envelope.message d.message := by
  have hh := handleDatagram_handles o relayPort h source packet limiterNow now
  generalize hx : handleDatagram o relayPort s source packet limiterNow now = x at hh hok
  cases hh with
  | refused => cases hok
  | duplicate => cases hok
  | failed => cases hok
  | answered hp hmsg =>
    cases hok
    refine ⟨_, hp.decoded, by rw [hmsg]; trivial, fun d hd => ?_⟩
    rcases List.mem_singleton.1 hd with rfl
    exact ⟨rfl, ⟨.unspecified⟩, by rw [hmsg]; exact .probe⟩
  | routed hp hmsg hrec hnew hr =>
    cases hok
    refine ⟨_, hp.decoded, ?_, hr.forwards⟩
    have hroute := hp.routes o relayPort now h hmsg hrec hnew
    rw [hx] at hroute
    exact route_relayable (s := { s.hearing _ limiterNow _ now with sequenceTracker := _ }) (by rw [← hroute])

end

/-! ## The relay is transparent -/

variable {config : RouterConfig} {s : AppState} {o : WalkOrder} {relayPort : UInt16} {source : SocketAddr}
  {packet : List UInt8} {limiterNow now : Instant} {out : List OutboundDatagram}

/-- Every datagram the server sends for one that it accepts encodes as a v2 packet within the datagram limit.
The receiver decodes the metadata and a message that matches the one accepted, with a payload within the
limits, of a discovery port if it is about a discovery request, of the gameplay port if it is about a
gameplay session. -/
theorem relay_transparent (h : AppState.Reachable config s)
    (hok : (handleDatagram o relayPort s source packet limiterNow now).1 = .ok out) :
    ∃ envelope, RelayEnvelope.decode packet = .ok envelope ∧ ∀ d ∈ out, ∃ sent received,
      RelayEnvelope.encode { «meta» := d.meta, message := d.message } = .ok sent ∧
        sent.length ≤ maxRelayDatagramSize ∧ sent[4]? = some relayProtocolVersion ∧
        RelayEnvelope.decode sent = .ok received ∧ received.meta = envelope.meta ∧
        envelope.message.Matches received.message ∧
        (∀ payload, received.message.payload? = some payload → payload.length ≤ min 4096 config.safePayloadSize) ∧
        (∀ requestId port, received.message.requestId? = some requestId → received.message.port? = some port →
          62900 ≤ port.port ∧ port.port ≤ 62999) ∧
        ∀ sessionId port, received.message.sessionId? = some sessionId → received.message.port? = some port →
          port.port = 62056 := by
  rcases handleDatagram_forwards h.router.wf hok with ⟨envelope, hdec, hrel, hout⟩
  rw [h.router.config_eq] at hrel
  refine ⟨envelope, hdec, fun d hd => ?_⟩
  rcases hout d hd with ⟨hmeta, ip, hf⟩
  have hm := hf.matches
  rcases encode_fits (e := { «meta» := d.meta, message := d.message }) (hrel.fits hm) with
    ⟨sent, henc, hframe, hlen, hdec'⟩
  refine ⟨sent, _, henc, hlen, by rw [hframe]; rfl, hdec', hmeta, hm, ?_, ?_, ?_⟩
  · intro payload hp
    exact hrel.payload (hm.payload ▸ hp)
  · intro requestId port hr hp
    exact hrel.discoveryPort (hm.request ▸ hr) (hm.port ▸ hp)
  · intro sessionId port hs hp
    exact hrel.gameplayPort (hm.session ▸ hs) (hm.port ▸ hp)

/-- The request of the peer becomes a packet for the host. -/
theorem RoomRouter.Example.request_transparent : ∃ sent,
    RelayEnvelope.encode { «meta» := toHost.meta, message := toHost.message } = .ok sent ∧
      sent.length ≤ maxRelayDatagramSize := by
  rcases relay_transparent server_reachable
    (show (handleDatagram .sorted 32000 server ⟨.v4 ip.address, 32000⟩ request 0 0).1 =
    .ok [toHost] by decide +kernel) with ⟨envelope, -, hout⟩
  rcases hout toHost List.mem_cons_self with ⟨sent, received, henc, hlen, -⟩
  exact ⟨sent, henc, hlen⟩

end Civ6LanBridge

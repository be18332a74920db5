/-
`server/src/metrics.rs` and `server/src/relay.rs`: the counters of a server, and the loop of the relay as it keeps
them. The counters never change what the loop does, and at any time they are the exact tallies of what it has been
through, modulo 2^64.
-/
import Civ6LanBridge.Router.Census
import Civ6LanBridge.Server.Loop
import Civ6LanBridge.Server.Metrics

namespace Civ6LanBridge

open Std FinMap Bytes

/-! ## The counters -/

/-- All the counters of `RelayMetrics`. The table of the sequence numbers is in `AppState`. -/
structure RelayCounters extends RelayMetrics where
  sentPackets : UInt64
  droppedPackets : UInt64
  authenticationFailures : UInt64
  bytesOut : UInt64
  reorderedPackets : UInt64
  sequenceDuplicates : UInt64
  rateLimitedPackets : UInt64
  oversizedPackets : UInt64
  probeSuccesses : UInt64
  probeFailures : UInt64
  lastProbeAtMs : UInt64

structure RelayMetricsSnapshot where
  sentPackets : UInt64
  receivedPackets : UInt64
  droppedPackets : UInt64
  duplicatedPackets : UInt64
  reorderedPackets : UInt64
  sequenceDuplicates : UInt64
  rateLimitedPackets : UInt64
  oversizedPackets : UInt64
  probeSuccesses : UInt64
  probeFailures : UInt64
  lastProbeAtMs : UInt64
  bytesIn : UInt64
  bytesOut : UInt64
  activePeers : Nat
  suspendedPeers : Nat
  activeRooms : Nat
  activeHosts : Nat
  activeGameplaySessions : Nat
  authenticationFailures : UInt64
deriving DecidableEq

namespace RelayCounters

def default (now : Instant) : RelayCounters :=
  { RelayMetrics.default now with
    sentPackets := 0, droppedPackets := 0, authenticationFailures := 0, bytesOut := 0, reorderedPackets := 0
    sequenceDuplicates := 0, rateLimitedPackets := 0, oversizedPackets := 0, probeSuccesses := 0, probeFailures := 0
    lastProbeAtMs := 0 }

def recordReceived (fingerprint : List UInt8 → UInt64) (metrics : RelayCounters) (packet : List UInt8) (now : Instant) :
    RelayCounters :=
  { metrics with toRelayMetrics := metrics.toRelayMetrics.recordReceived fingerprint packet now }

def recordSent (metrics : RelayCounters) (packetLen : Nat) : RelayCounters :=
  { metrics with
    sentPackets := metrics.sentPackets + 1
    bytesOut := metrics.bytesOut + UInt64.ofNat packetLen }

/-- What `record_sequence` counts, once it has looked at its table. -/
def recordSequence (metrics : RelayCounters) : SequenceDisposition → RelayCounters
  | .duplicate => { metrics with sequenceDuplicates := metrics.sequenceDuplicates + 1 }
  | .reordered => { metrics with reorderedPackets := metrics.reorderedPackets + 1 }
  | .legacy | .new => metrics

def recordRateLimited (metrics : RelayCounters) : RelayCounters :=
  { metrics with rateLimitedPackets := metrics.rateLimitedPackets + 1 }

def recordOversized (metrics : RelayCounters) : RelayCounters :=
  { metrics with oversizedPackets := metrics.oversizedPackets + 1 }

/-- `unixTimeMs` is what the function of that name returns. -/
def recordProbe (metrics : RelayCounters) (success : Bool) (unixTimeMs : UInt64) : RelayCounters :=
  let metrics :=
    if success then { metrics with probeSuccesses := metrics.probeSuccesses + 1 }
    else { metrics with probeFailures := metrics.probeFailures + 1 }
  { metrics with lastProbeAtMs := unixTimeMs }

def recordAuthenticationFailure (metrics : RelayCounters) : RelayCounters :=
  { metrics with authenticationFailures := metrics.authenticationFailures + 1 }

def recordDrop (metrics : RelayCounters) (authenticationFailure : Bool) : RelayCounters :=
  let metrics := { metrics with droppedPackets := metrics.droppedPackets + 1 }
  if authenticationFailure then metrics.recordAuthenticationFailure else metrics

def snapshot (metrics : RelayCounters) (router : RouterStats) : RelayMetricsSnapshot where
  sentPackets := metrics.sentPackets
  receivedPackets := metrics.receivedPackets
  droppedPackets := metrics.droppedPackets
  duplicatedPackets := metrics.duplicatedPackets
  reorderedPackets := metrics.reorderedPackets
  sequenceDuplicates := metrics.sequenceDuplicates
  rateLimitedPackets := metrics.rateLimitedPackets
  oversizedPackets := metrics.oversizedPackets
  probeSuccesses := metrics.probeSuccesses
  probeFailures := metrics.probeFailures
  lastProbeAtMs := metrics.lastProbeAtMs
  bytesIn := metrics.bytesIn
  bytesOut := metrics.bytesOut
  activePeers := router.activePeers
  suspendedPeers := router.suspendedPeers
  activeRooms := router.activeRooms
  activeHosts := router.activeHosts
  activeGameplaySessions := router.activeGameplaySessions
  authenticationFailures := metrics.authenticationFailures

end RelayCounters

namespace RelayError

/-- The errors that `run` counts as failures of authentication. -/
def authenticationFailure : RelayError → Bool
  | unknownSource _ | sourcePeerMismatch .. | staleConnectionEpoch .. => true
  | router (.peerDisconnected _) | router (.unauthorizedGameplayPeer ..) => true
  | _ => false

def oversized : RelayError → Bool
  | router (.datagramTooLarge _) => true
  | _ => false

def duplicate : RelayError → Bool
  | duplicateSequence _ => true
  | _ => false

/-- The causes that have counters of their own exclude each other. -/
theorem one_cause (error : RelayError) : (decide (error = rateLimited)).toNat + error.duplicate.toNat +
    error.oversized.toNat + error.authenticationFailure.toNat ≤ 1 := by
  cases error with
  | router error => cases error <;> simp [duplicate, oversized, authenticationFailure]
  | _ => simp [duplicate, oversized, authenticationFailure]

end RelayError

/-! ## Handling a datagram, with the counters -/

/-- The server with its counters. -/
structure Metered where
  app : AppState
  metrics : RelayCounters

abbrev Metered.Handled := Except (Fault RelayError) (List OutboundDatagram) × Metered

namespace Metered

def handleMessage (o : WalkOrder) (relayPort : UInt16) (m : Metered) (sourcePeerId : PeerId) (envelope : RelayEnvelope)
    (now : Instant) : Handled :=
  match m.app.router.markPeerSeen sourcePeerId now with
  | (.error e, router) => (.error (e.map .router), { m with app := { m.app with router } })
  | (.ok (), router) =>
    match m.app.sequenceTracker.recordSequence sourcePeerId envelope.meta.sequence with
    | (.duplicate, sequenceTracker) =>
      (.error (.error (.duplicateSequence envelope.meta.sequence)),
        { app := { m.app with router, sequenceTracker }, metrics := m.metrics.recordSequence .duplicate })
    | (disposition, sequenceTracker) =>
      let (result, app) := route o relayPort { m.app with router, sequenceTracker } sourcePeerId envelope now
      (result, { app, metrics := m.metrics.recordSequence disposition })

def handleProbe (m : Metered) (source : SocketAddr) (sourcePeerId : PeerId) (requestId : DiscoveryRequestId)
    («meta» : RelayEnvelopeMeta) (now : Instant) (unixTimeMs : UInt64) : Handled :=
  match m.app.router.markPeerSeen sourcePeerId now with
  | (.error e, router) => (.error (e.map .router), { m with app := { m.app with router } })
  | (.ok (), router) =>
    (.ok [{ destination := source, message := .relayProbeAck requestId, «meta» }],
      { app := { m.app with router }, metrics := m.metrics.recordProbe true unixTimeMs })

def handleEnvelope (o : WalkOrder) (relayPort : UInt16) (m : Metered) (source : SocketAddr) (sourceIp : Ipv4Addr)
    (envelope : RelayEnvelope) (now : Instant) (unixTimeMs : UInt64) : Handled :=
  match m.app.router.peerForVirtualIp ⟨sourceIp⟩ with
  | none => (.error (.error (.unknownSource sourceIp)), m)
  | some sourcePeerId =>
    match m.app.router.peerConnectionEpoch sourcePeerId with
    | .error e => (.error (.error (.router e)), m)
    | .ok currentEpoch =>
      let received := envelope.meta.connectionEpoch
      if received ≠ 0 ∧ received ≠ currentEpoch then
        (.error (.error (.staleConnectionEpoch received currentEpoch)), m)
      else
        match envelope.message with
        | .relayProbe requestId => handleProbe m source sourcePeerId requestId envelope.meta now unixTimeMs
        | _ => handleMessage o relayPort m sourcePeerId envelope now

def handleDatagram (o : WalkOrder) (relayPort : UInt16) (m : Metered) (source : SocketAddr) (packet : List UInt8)
    (limiterNow now : Instant) (unixTimeMs : UInt64) : Handled :=
  match RelayEnvelope.decode packet with
  | .error e => (.error (e.map .codec), m)
  | .ok envelope =>
    match source.ip with
    | .v6 _ => (.error (.error (.invalidSource source)), m)
    | .v4 sourceIp =>
      match m.app.udpRateLimiter.allow sourceIp.toString limiterNow with
      | (false, udpRateLimiter) =>
        (.error (.error .rateLimited),
          { app := { m.app with udpRateLimiter }, metrics := m.metrics.recordRateLimited })
      | (true, udpRateLimiter) =>
        handleEnvelope o relayPort { m with app := { m.app with udpRateLimiter } } source sourceIp envelope
          now unixTimeMs

/-! ## The loop, with the counters -/

/-- `for datagram in outbound`, with what is counted for each datagram that is sent. -/
def sendOutbound (accepts : Nat → Bool) (metrics : RelayCounters) : Nat → List OutboundDatagram →
    RelayCounters × List SendTo × Option RunError
  | _, [] => (metrics, [], none)
  | i, datagram :: outbound =>
    match RelayEnvelope.encode { «meta» := datagram.meta, message := datagram.message } with
    | .error e => (metrics, [], some (.codec e))
    | .ok packet =>
      let call := { packet, destination := datagram.destination }
      if accepts i then
        let (metrics, calls, ended) := sendOutbound accepts (metrics.recordSent packet.length) (i + 1) outbound
        (metrics, call :: calls, ended)
      else (metrics, [call], some .io)

/-- What the loop has done, with its counters. -/
structure Progress where
  server : Metered
  calls : List SendTo
  ended : Option RunError

/-- A turn of the loop; `receivedNow` is the reading of the clock in `record_received`. -/
def turn (fingerprint : List UInt8 → UInt64) (relayPort : UInt16) (m : Metered) (receivedNow : Instant)
    (unixTimeMs : UInt64) :
    Wake → Progress
  | .received o source datagram limiterNow now accepts =>
    let packet := datagram.take maxRelayDatagramSize
    let m := { m with metrics := m.metrics.recordReceived fingerprint packet receivedNow }
    match m.handleDatagram o relayPort source packet limiterNow now unixTimeMs with
    | (.ok outbound, m) =>
      let (metrics, calls, ended) := sendOutbound accepts m.metrics 0 outbound
      { server := { m with metrics }, calls, ended }
    | (.error (.error e), m) =>
      let metrics := if e.oversized then m.metrics.recordOversized else m.metrics
      { server := { m with metrics := metrics.recordDrop e.authenticationFailure }, calls := [], ended := none }
    | (.error .panic, m) => { server := m, calls := [], ended := some .panic }
  | .receiveFailed => { server := m, calls := [], ended := some .io }
  | .tick o now =>
    { server := { m with app := { m.app with router := (RoomRouter.expire o m.app.router now).2 } }, calls := [],
      ended := none }

end Metered

/-- What happens to a server: its relay loop is woken, an HTTP request operates on the router, or one is turned away
for want of a valid bearer token. -/
inductive Incident
  | wake (wake : Wake) (receivedNow : Instant) (unixTimeMs : UInt64)
  | request (o : WalkOrder) (op : RouterOp)
  | refusal

namespace Metered

/-- The loop among the requests, up to where it ends. -/
def run (fingerprint : List UInt8 → UInt64) (relayPort : UInt16) (m : Metered) : List Incident → Progress
  | [] => { server := m, calls := [], ended := none }
  | .wake wake receivedNow unixTimeMs :: rest =>
    let turn := m.turn fingerprint relayPort receivedNow unixTimeMs wake
    if turn.ended = none then
      let rest := run fingerprint relayPort turn.server rest
      { rest with calls := turn.calls ++ rest.calls }
    else turn
  | .request o op :: rest =>
    run fingerprint relayPort { m with app := { m.app with router := (op.exec o m.app.router).2 } } rest
  | .refusal :: rest => run fingerprint relayPort { m with metrics := m.metrics.recordAuthenticationFailure } rest

/-! ## The counters do not change what the loop does -/

/-- The result without the counters. -/
def Handled.forget (x : Handled) : Civ6LanBridge.Handled := (x.1, x.2.app)

section

variable {m : Metered} {o : WalkOrder} {relayPort : UInt16} {source : SocketAddr} {ip : Ipv4Addr} {packet : List UInt8}
  {p : PeerId} {envelope : RelayEnvelope} {limiterNow now : Instant} {unixTimeMs : UInt64}

theorem handleMessage_forget : (m.handleMessage o relayPort p envelope now).forget =
    Civ6LanBridge.handleMessage o relayPort m.app p envelope now := by
  unfold handleMessage Civ6LanBridge.handleMessage
  rcases m.app.router.markPeerSeen p now with ⟨_ | _, router⟩
  · rfl
  · dsimp only
    rcases m.app.sequenceTracker.recordSequence p envelope.meta.sequence with ⟨_ | _ | _ | _, tracker⟩ <;> rfl

theorem handleProbe_forget {requestId : DiscoveryRequestId} {«meta» : RelayEnvelopeMeta} :
    (m.handleProbe source p requestId «meta» now unixTimeMs).forget =
      Civ6LanBridge.handleProbe m.app source p requestId «meta» now := by
  unfold handleProbe Civ6LanBridge.handleProbe
  rcases m.app.router.markPeerSeen p now with ⟨_ | _, router⟩ <;> rfl

theorem handleEnvelope_forget : (m.handleEnvelope o relayPort source ip envelope now unixTimeMs).forget =
    Civ6LanBridge.handleEnvelope o relayPort m.app source ip envelope now := by
  unfold handleEnvelope Civ6LanBridge.handleEnvelope
  cases m.app.router.peerForVirtualIp ⟨ip⟩ with
  | none => rfl
  | some p =>
    dsimp only
    cases m.app.router.peerConnectionEpoch p with
    | error e => rfl
    | ok current =>
      dsimp only
      split
      · rfl
      · cases envelope.message with
        | relayProbe requestId => exact handleProbe_forget
        | _ => exact handleMessage_forget

theorem handleDatagram_forget : (m.handleDatagram o relayPort source packet limiterNow now unixTimeMs).forget =
    Civ6LanBridge.handleDatagram o relayPort m.app source packet limiterNow now := by
  unfold handleDatagram Civ6LanBridge.handleDatagram
  cases RelayEnvelope.decode packet with
  | error e => rfl
  | ok envelope =>
    dsimp only
    cases source.ip with
    | v6 octets => rfl
    | v4 ip =>
      dsimp only
      rcases m.app.udpRateLimiter.allow ip.toString limiterNow with ⟨_ | _, limiter⟩
      · rfl
      · exact handleEnvelope_forget

end

/-! ## Running -/

section

variable {accepts : Nat → Bool} {metrics : RelayCounters} {i : Nat} {outbound : List OutboundDatagram} {m : Metered}
  {relayPort : UInt16} {fingerprint : List UInt8 → UInt64} {receivedNow : Instant} {unixTimeMs : UInt64} {wake : Wake}

/-- Sending goes as it does without the counters. -/
theorem sendOutbound_forget : (sendOutbound accepts metrics i outbound).2 =
    Civ6LanBridge.sendOutbound accepts i outbound := by
  induction outbound generalizing metrics i with
  | nil => rfl
  | cons datagram outbound ih =>
    unfold sendOutbound Civ6LanBridge.sendOutbound
    cases RelayEnvelope.encode { «meta» := datagram.meta, message := datagram.message } with
    | error e => rfl
    | ok packet =>
      dsimp only
      split
      · rw [← @ih (metrics.recordSent packet.length)]
      · rfl

/-- A turn goes as it does without the counters. -/
theorem turn_forget :
    (m.turn fingerprint relayPort receivedNow unixTimeMs wake).server.app = (wake.turn relayPort m.app).state ∧
    (m.turn fingerprint relayPort receivedNow unixTimeMs wake).calls = (wake.turn relayPort m.app).calls ∧
    (m.turn fingerprint relayPort receivedNow unixTimeMs wake).ended = (wake.turn relayPort m.app).ended := by
  cases wake with
  | receiveFailed => exact ⟨rfl, rfl, rfl⟩
  | tick o now => exact ⟨rfl, rfl, rfl⟩
  | received o source datagram limiterNow now accepts =>
    unfold turn Wake.turn
    dsimp only
    rw [← handleDatagram_forget (m := { m with metrics := m.metrics.recordReceived fingerprint _ receivedNow })]
    generalize handleDatagram o relayPort _ source _ limiterNow now unixTimeMs = x
    rcases x with ⟨(_ | error) | outbound, m'⟩
    · exact ⟨rfl, rfl, rfl⟩
    · exact ⟨rfl, rfl, rfl⟩
    · dsimp only [Handled.forget]
      rw [← @sendOutbound_forget accepts m'.metrics]
      exact ⟨rfl, rfl, rfl⟩

end

end Metered

/-- What a run does without the counters. -/
def Metered.Progress.forget (x : Metered.Progress) : Civ6LanBridge.Progress :=
  { state := x.server.app, calls := x.calls, ended := x.ended }

/-- The loop among the requests, up to where it ends, without the counters. -/
def unmetered (relayPort : UInt16) (s : AppState) : List Incident → Progress
  | [] => { state := s, calls := [], ended := none }
  | .wake wake _ _ :: rest =>
    let turn := wake.turn relayPort s
    if turn.ended = none then
      let rest := unmetered relayPort turn.state rest
      { rest with calls := turn.calls ++ rest.calls }
    else turn
  | .request o op :: rest => unmetered relayPort { s with router := (op.exec o s.router).2 } rest
  | .refusal :: rest => unmetered relayPort s rest

section

variable {fingerprint : List UInt8 → UInt64} {relayPort : UInt16} {m : Metered} {incidents : List Incident}

theorem Metered.run_forget : (m.run fingerprint relayPort incidents).forget = unmetered relayPort m.app incidents := by
  induction incidents generalizing m with
  | nil => rfl
  | cons incident rest ih =>
    unfold run unmetered
    cases incident with
    | request o op => exact ih
    | refusal => exact ih
    | wake w receivedNow unixTimeMs =>
      rcases @turn_forget m relayPort fingerprint receivedNow unixTimeMs w with ⟨hstate, hcalls, hended⟩
      have hrest := @ih (m.turn fingerprint relayPort receivedNow unixTimeMs w).server
      dsimp only
      rw [← hstate, ← hcalls, ← hended, ← hrest]
      split
      · rfl
      · rw [Progress.forget, hstate, hcalls, hended]

/-- By itself it is the loop of the relay. -/
theorem unmetered_wakes {s : AppState} (wakes : List (Wake × Instant × UInt64)) :
    unmetered relayPort s (wakes.map fun w => .wake w.1 w.2.1 w.2.2) = run relayPort s (wakes.map Prod.fst) := by
  induction wakes generalizing s with
  | nil => rfl
  | cons wake rest ih =>
    rw [List.map_cons, List.map_cons]
    unfold unmetered run
    dsimp only
    rw [ih]

end

/-- The counters change nothing of what the loop does: among any other incidents it does what it would do with any
other counters, and what it would do without counters, where by itself it is the loop of the relay. -/
theorem counters_do_not_interfere (fingerprint : List UInt8 → UInt64) (relayPort : UInt16) (s : AppState)
    (metrics metrics' : RelayCounters) (incidents : List Incident) (wakes : List (Wake × Instant × UInt64)) :
    (Metered.run fingerprint relayPort { app := s, metrics } incidents).forget =
      (Metered.run fingerprint relayPort { app := s, metrics := metrics' } incidents).forget ∧
    (Metered.run fingerprint relayPort { app := s, metrics } incidents).forget = unmetered relayPort s incidents ∧
    (Metered.run fingerprint relayPort { app := s, metrics } (wakes.map fun w => .wake w.1 w.2.1 w.2.2)).forget =
      run relayPort s (wakes.map Prod.fst) := by
  refine ⟨?_, Metered.run_forget, Metered.run_forget.trans (unmetered_wakes wakes)⟩
  rw [Metered.run_forget, Metered.run_forget]

end Civ6LanBridge

/-
What the counters of a server say. However its relay loop runs among the HTTP requests, they are the exact tallies,
modulo 2^64, of the datagrams that have arrived and of the requests that were turned away.
-/
import Civ6LanBridge.Server.Counters
import Civ6LanBridge.Server.Rejection

namespace Civ6LanBridge

open Std FinMap Bytes

namespace Metered

section

variable {m : Metered} {o : WalkOrder} {relayPort : UInt16} {source : SocketAddr} {packet : List UInt8}
  {p : PeerId} {envelope : RelayEnvelope} {limiterNow now : Instant} {unixTimeMs : UInt64}

/-! ## What a datagram counts as -/

/-- The datagram is a probe that gets past the checks of its sender. -/
def Probes (s : AppState) (source : SocketAddr) (packet : List UInt8) (limiterNow : Instant) : Prop :=
  ∃ p peer envelope requestId, Passes s source packet limiterNow p peer envelope ∧
    envelope.message = .relayProbe requestId

/-- The datagram is a message that gets past the checks of its sender, and this is what its number makes it. -/
def Disposed (s : AppState) (source : SocketAddr) (packet : List UInt8) (limiterNow : Instant)
    (disposition : SequenceDisposition) : Prop :=
  ∃ p peer envelope, Passes s source packet limiterNow p peer envelope ∧
    (∀ requestId, envelope.message ≠ .relayProbe requestId) ∧
    (s.sequenceTracker.recordSequence p envelope.meta.sequence).1 = disposition

/-- A datagram past the gate passes the checks of `handle_datagram` one by one. -/
theorem checks_pass {s : AppState} {peer : PeerState} (h : s.router.WF)
    (hpass : Passes s source packet limiterNow p peer envelope) :
    (∃ limiter, s.udpRateLimiter.allow peer.virtualIp.address.toString limiterNow = (true, limiter)) ∧
      s.router.peerForVirtualIp ⟨peer.virtualIp.address⟩ = some p ∧
      s.router.peerConnectionEpoch p = .ok peer.connectionEpoch ∧
      ¬ (envelope.meta.connectionEpoch ≠ 0 ∧ envelope.meta.connectionEpoch ≠ peer.connectionEpoch) := by
  refine ⟨⟨_, Prod.ext hpass.allowed rfl⟩, (h.addresses _ p).2 ⟨peer, hpass.registered, rfl⟩, ?_, ?_⟩
  · unfold RoomRouter.peerConnectionEpoch
    rw [hpass.registered]
  · rintro ⟨h0, hne⟩
    exact hpass.epoch.elim h0 hne

theorem handleDatagram_probe (h : m.app.router.WF) (hprobe : Probes m.app source packet limiterNow) :
    (m.handleDatagram o relayPort source packet limiterNow now unixTimeMs).2.metrics =
      m.metrics.recordProbe true unixTimeMs := by
  obtain ⟨p, peer, envelope, requestId, hpass, hmsg⟩ := hprobe
  obtain ⟨⟨limiter, hallow⟩, hlook, hepoch, hfresh⟩ := checks_pass h hpass
  unfold handleDatagram handleEnvelope
  simp only [hpass.decoded, hpass.source, hallow, hlook, hepoch, if_neg hfresh, hmsg]
  unfold handleProbe
  rw [RoomRouter.markPeerSeen_connected hpass.registered hpass.connected]
  rfl

theorem handleDatagram_disposed (h : m.app.router.WF) {disposition : SequenceDisposition}
    (hd : Disposed m.app source packet limiterNow disposition) :
    (m.handleDatagram o relayPort source packet limiterNow now unixTimeMs).2.metrics =
      m.metrics.recordSequence disposition := by
  obtain ⟨p, peer, envelope, hpass, hmsg, rfl⟩ := hd
  obtain ⟨⟨limiter, hallow⟩, hlook, hepoch, hfresh⟩ := checks_pass h hpass
  unfold handleDatagram handleEnvelope
  simp only [hpass.decoded, hpass.source, hallow, hlook, hepoch, if_neg hfresh]
  unfold handleMessage
  rw [RoomRouter.markPeerSeen_connected hpass.registered hpass.connected]
  dsimp only [Outcome.ok]
  rcases m.app.sequenceTracker.recordSequence p envelope.meta.sequence with ⟨_ | _ | _ | _, tracker⟩ <;> rfl

/-- A datagram that is refused at the gate counts as nothing but being over the rate limit. -/
theorem handleDatagram_stopped (h : m.app.router.WF)
    (hno : ∀ p peer envelope, ¬ Passes m.app source packet limiterNow p peer envelope) :
    let x := m.handleDatagram o relayPort source packet limiterNow now unixTimeMs
    (x.1 = .error (.error .rateLimited) ∧ x.2.metrics = m.metrics.recordRateLimited) ∨
      (x.1 ≠ .error (.error .rateLimited) ∧ x.2.metrics = m.metrics) := by
  unfold handleDatagram
  cases hdec : RelayEnvelope.decode packet with
  | error f =>
    refine Or.inr ⟨fun e => ?_, rfl⟩
    cases f <;> cases e
  | ok envelope =>
    dsimp only
    cases hip : source.ip with
    | v6 octets => exact Or.inr ⟨by simp, rfl⟩
    | v4 ip =>
      dsimp only
      rcases hallow : m.app.udpRateLimiter.allow ip.toString limiterNow with ⟨_ | _, limiter⟩
      · exact Or.inl ⟨rfl, rfl⟩
      refine Or.inr ?_
      unfold handleEnvelope
      dsimp only
      cases hlook : m.app.router.peerForVirtualIp ⟨ip⟩ with
      | none => exact ⟨by simp, rfl⟩
      | some p =>
        dsimp only
        obtain ⟨peer, hp, hpeer⟩ := (h.addresses ⟨ip⟩ p).1 hlook
        have hepoch : m.app.router.peerConnectionEpoch p = .ok peer.connectionEpoch := by
          unfold RoomRouter.peerConnectionEpoch
          rw [hp]
        rw [hepoch]
        dsimp only
        split
        · exact ⟨by simp, rfl⟩
        rename_i hfresh
        -- nothing but being suspended is left to keep the sender from passing
        have hd : peer.disconnectedAt ≠ none := by
          intro hd
          refine hno p peer envelope ⟨hdec, by rw [hpeer]; exact hip, by rw [hpeer, hallow], hp, hd, ?_⟩
          by_cases h0 : envelope.meta.connectionEpoch = 0
          · exact Or.inl h0
          · exact Or.inr (not_not.1 fun hne => hfresh ⟨h0, hne⟩)
        have hmark : m.app.router.markPeerSeen p now = .err (.peerDisconnected p) m.app.router := by
          unfold RoomRouter.markPeerSeen
          rw [hp]
          simp only [Option.isSome_iff_ne_none.2 hd, if_true]
        split
        · unfold handleProbe
          rw [hmark]
          exact ⟨by simp [Outcome.err, Fault.map], rfl⟩
        · unfold handleMessage
          rw [hmark]
          exact ⟨by simp [Outcome.err, Fault.map], rfl⟩

end

end Metered

/-! ## What the loop has been through -/

/-- A datagram that has arrived, and what has come of it. -/
structure Arrival where
  packet : List UInt8
  -- the readings of the clocks when it is received, and when it is answered if it is a probe
  receivedNow : Instant
  unixTimeMs : UInt64
  outcome : Except (Fault RelayError) (List OutboundDatagram)
  -- it is a probe that is answered
  probe : Bool
  -- it is a message with a number below the highest of its sender
  late : Bool
  sent : List SendTo

namespace Arrival

/-- The datagram is dropped with an error of a kind. -/
def failsWith (kind : RelayError → Bool) (e : Arrival) : Bool :=
  match e.outcome with
  | .error (.error error) => kind error
  | _ => false

def answered (e : Arrival) : Bool := e.outcome.isOk

def receipt (e : Arrival) : Receipt := { packet := e.packet, now := e.receivedNow }

variable {e : Arrival} {kind : RelayError → Bool}

theorem failsWith_error {error : RelayError} (h : e.outcome = .error (.error error)) :
    e.failsWith kind = kind error := by
  rw [failsWith, h]

theorem failsWith_eq_false (h : ∀ error, e.outcome = .error (.error error) → kind error = false) :
    e.failsWith kind = false := by
  unfold failsWith
  split
  · rename_i error he
    exact h error he
  · rfl

end Arrival

/-- The calls that have succeeded: the last call of a loop that ends with a failure of the socket has not. -/
def sentOf (calls : List SendTo) (ended : Option RunError) : List SendTo :=
  if ended = some .io then calls.dropLast else calls

open Classical in
/-- The datagram that wakes the loop, if one does. -/
noncomputable def Wake.arrivals (relayPort : UInt16) (s : AppState) (receivedNow : Instant) (unixTimeMs : UInt64)
    (wake : Wake) : List Arrival :=
  match wake with
  | received o source datagram limiterNow now _ =>
    let packet := datagram.take maxRelayDatagramSize
    [{ packet, receivedNow, unixTimeMs
       outcome := (handleDatagram o relayPort s source packet limiterNow now).1
       probe := decide (Metered.Probes s source packet limiterNow)
       late := decide (Metered.Disposed s source packet limiterNow .reordered)
       sent := sentOf (wake.turn relayPort s).calls (wake.turn relayPort s).ended }]
  | receiveFailed | tick .. => []

/-- What an incident makes of the server. -/
def Incident.next (relayPort : UInt16) (s : AppState) : Incident → AppState
  | wake w _ _ => (w.turn relayPort s).state
  | request o op => { s with router := (op.exec o s.router).2 }
  | refusal => s

/-- The incident ends the loop. -/
def Incident.ends (relayPort : UInt16) (s : AppState) : Incident → Bool
  | wake w _ _ => (w.turn relayPort s).ended.isSome
  | request .. | refusal => false

noncomputable def Incident.arrivals (relayPort : UInt16) (s : AppState) : Incident → List Arrival
  | wake w receivedNow unixTimeMs => w.arrivals relayPort s receivedNow unixTimeMs
  | request .. | refusal => []

def Incident.turnedAway : Incident → Nat
  | refusal => 1
  | wake .. | request .. => 0

/-- The datagrams of the loop, up to where it ends. -/
noncomputable def arrivals (relayPort : UInt16) (s : AppState) : List Incident → List Arrival
  | [] => []
  | incident :: rest =>
    incident.arrivals relayPort s ++
      if incident.ends relayPort s then [] else arrivals relayPort (incident.next relayPort s) rest

/-- The requests that are turned away, up to where the loop ends. -/
def turnedAway (relayPort : UInt16) (s : AppState) : List Incident → Nat
  | [] => 0
  | incident :: rest =>
    incident.turnedAway + if incident.ends relayPort s then 0 else turnedAway relayPort (incident.next relayPort s) rest

/-- The identifiers that the requests generate are fresh. -/
def Incident.AllPermitted (relayPort : UInt16) (s : AppState) : List Incident → Prop
  | [] => True
  | incident :: rest => (∀ o op, incident = .request o op → op.Fresh s.router) ∧
      Incident.AllPermitted relayPort (incident.next relayPort s) rest

/-- What the datagrams do to the cache, the latest first. -/
def receptions (fingerprint : List UInt8 → UInt64) (created : Instant) (log : List Arrival) :
    List (Past.Move RelayMetrics Receipt) :=
  RelayMetrics.history fingerprint created (log.map (·.receipt)).reverse

/-- The cache that they leave. -/
def cacheAfter (fingerprint : List UInt8 → UInt64) (created : Instant) (log : List Arrival) : SeenPacketCache :=
  (Past.final (RelayMetrics.apply fingerprint) (.default created) (log.map (·.receipt)).reverse).seenPackets

/-- The counters say, modulo 2^64, what has happened: to the datagrams, and to the requests that were turned away. -/
structure Tallies (fingerprint : List UInt8 → UInt64) (created : Instant) (metrics : RelayCounters) (log : List Arrival)
    (refused : Nat) : Prop where
  received : metrics.receivedPackets = UInt64.ofNat log.length
  bytesIn : metrics.bytesIn = UInt64.ofNat (log.map (·.packet.length)).sum
  duplicated : metrics.duplicatedPackets =
    UInt64.ofNat ((receptions fingerprint created log).countP (RelayMetrics.known fingerprint))
  cached : metrics.seenPackets = cacheAfter fingerprint created log
  dropped : metrics.droppedPackets = UInt64.ofNat (log.countP (·.failsWith fun _ => true))
  authenticationFailures : metrics.authenticationFailures =
    UInt64.ofNat (refused + log.countP (·.failsWith RelayError.authenticationFailure))
  rateLimited : metrics.rateLimitedPackets = UInt64.ofNat (log.countP (·.failsWith (decide <| · = .rateLimited)))
  oversized : metrics.oversizedPackets = UInt64.ofNat (log.countP (·.failsWith RelayError.oversized))
  sequenceDuplicates : metrics.sequenceDuplicates = UInt64.ofNat (log.countP (·.failsWith RelayError.duplicate))
  reordered : metrics.reorderedPackets = UInt64.ofNat (log.countP Arrival.late)
  probeSuccesses : metrics.probeSuccesses = UInt64.ofNat (log.countP Arrival.probe)
  probeFailures : metrics.probeFailures = 0
  lastProbe : metrics.lastProbeAtMs = ((log.reverse.find? (·.probe)).map (·.unixTimeMs)).getD 0
  sent : metrics.sentPackets = UInt64.ofNat (log.map (·.sent.length)).sum
  bytesOut : metrics.bytesOut = UInt64.ofNat (log.map fun e => (e.sent.map (·.packet.length)).sum).sum

namespace Metered

/-! ## One datagram -/

/-- The counters that handling a datagram moves, and those it leaves. -/
structure Marks (before after : RelayCounters) (e : Arrival) : Prop where
  rateLimited : after.rateLimitedPackets =
    before.rateLimitedPackets + UInt64.ofNat (e.failsWith (decide <| · = .rateLimited)).toNat
  sequenceDuplicates : after.sequenceDuplicates =
    before.sequenceDuplicates + UInt64.ofNat (e.failsWith RelayError.duplicate).toNat
  reordered : after.reorderedPackets = before.reorderedPackets + UInt64.ofNat e.late.toNat
  probeSuccesses : after.probeSuccesses = before.probeSuccesses + UInt64.ofNat e.probe.toNat
  probeFailures : after.probeFailures = before.probeFailures
  lastProbe : after.lastProbeAtMs = if e.probe then e.unixTimeMs else before.lastProbeAtMs
  arrivals : after.toRelayMetrics = before.toRelayMetrics
  dropped : after.droppedPackets = before.droppedPackets
  authenticationFailures : after.authenticationFailures = before.authenticationFailures
  oversized : after.oversizedPackets = before.oversizedPackets
  sent : after.sentPackets = before.sentPackets
  bytesOut : after.bytesOut = before.bytesOut

section

variable {m : Metered} {o : WalkOrder} {relayPort : UInt16} {source : SocketAddr} {packet : List UInt8}
  {limiterNow now : Instant} {unixTimeMs : UInt64}

theorem Disposed.unique (h : m.app.router.WF) {d d' : SequenceDisposition}
    (hd : Disposed m.app source packet limiterNow d) (hd' : Disposed m.app source packet limiterNow d') : d = d' := by
  obtain ⟨p, peer, envelope, hpass, -, rfl⟩ := hd
  obtain ⟨q, peer', envelope', hpass', -, rfl⟩ := hd'
  obtain ⟨rfl, rfl, rfl⟩ := hpass.sender h hpass'.registered hpass'.source hpass'.decoded
  rfl

theorem Disposed.notProbes (h : m.app.router.WF) {d : SequenceDisposition}
    (hd : Disposed m.app source packet limiterNow d) :
    ¬ Probes m.app source packet limiterNow := by
  rintro ⟨q, peer', envelope', requestId, hpass', hmsg'⟩
  obtain ⟨p, peer, envelope, hpass, hmsg, -⟩ := hd
  obtain ⟨rfl, rfl, rfl⟩ := hpass.sender h hpass'.registered hpass'.source hpass'.decoded
  exact hmsg requestId hmsg'

variable {e : Arrival}

/-- What is marked when the datagram is a message that gets past the checks of its sender. -/
theorem marks_disposed {metrics : RelayCounters} {d : SequenceDisposition}
    (hlimited : e.failsWith (decide <| · = .rateLimited) = false)
    (hdup : e.failsWith RelayError.duplicate = decide (d = .duplicate)) (hlate : e.late = decide (d = .reordered))
    (hprobe : e.probe = false) : Marks metrics (metrics.recordSequence d) e := by
  cases d <;> constructor <;> simp [RelayCounters.recordSequence, hlimited, hdup, hlate, hprobe]

/-- Past the gate no message fails for coming too fast. -/
theorem notLimited {disposition : SequenceDisposition} {f : Fault RelayError} (h : m.app.router.WF)
    (hd : Disposed m.app source packet limiterNow disposition) (hnew : disposition ≠ .duplicate)
    (hf : (Civ6LanBridge.handleDatagram o relayPort m.app source packet limiterNow now).1 = .error f) :
    f ≠ .error .rateLimited := by
  rintro rfl
  obtain ⟨p, peer, envelope, hpass, hmsg, hrec⟩ := hd
  rw [hpass.routes o relayPort now h hmsg (Prod.ext hrec rfl) hnew] at hf
  exact route_error (s := { m.app.hearing _ limiterNow _ now with sequenceTracker := _ }) (h.hearing _ now)
    (RoomRouter.hearing_peer hpass.registered) hf trivial

/-- Handling a datagram counts what has become of it, and nothing else. -/
theorem handleDatagram_marks (h : m.app.router.WF)
    (htime : e.unixTimeMs = unixTimeMs)
    (houtcome : e.outcome = (Civ6LanBridge.handleDatagram o relayPort m.app source packet limiterNow now).1)
    (hprobe : e.probe = true ↔ Probes m.app source packet limiterNow)
    (hlate : e.late = true ↔ Disposed m.app source packet limiterNow .reordered) :
    Marks m.metrics (m.handleDatagram o relayPort source packet limiterNow now unixTimeMs).2.metrics e := by
  have hforget : (m.handleDatagram o relayPort source packet limiterNow now unixTimeMs).1 = e.outcome :=
    (congrArg Prod.fst handleDatagram_forget).trans houtcome.symm
  have hh := handleDatagram_handles o relayPort h source packet limiterNow now
  generalize hx : Civ6LanBridge.handleDatagram o relayPort m.app source packet limiterNow now = x at hh houtcome
  -- what a message that gets past the gate is marked with
  have hmessage : ∀ {p : PeerId} {peer : PeerState} {envelope : RelayEnvelope} {d : SequenceDisposition},
      Passes m.app source packet limiterNow p peer envelope → (∀ requestId, envelope.message ≠ .relayProbe requestId) →
      (m.app.sequenceTracker.recordSequence p envelope.meta.sequence).1 = d →
      e.failsWith (decide <| · = .rateLimited) = false → e.failsWith RelayError.duplicate = decide (d = .duplicate) →
      Marks m.metrics (m.handleDatagram o relayPort source packet limiterNow now unixTimeMs).2.metrics e := by
    intro p peer envelope d hpass hmsg hrec hlimited hdup
    have hd : Disposed m.app source packet limiterNow d := ⟨p, peer, envelope, hpass, hmsg, hrec⟩
    rw [handleDatagram_disposed h hd]
    refine marks_disposed hlimited hdup ?_ ?_
    · rw [Bool.eq_iff_iff, hlate, decide_eq_true_iff]
      constructor
      · exact fun hd' => Disposed.unique h hd hd'
      · rintro rfl
        exact hd
    · rw [Bool.eq_false_iff, ne_eq, hprobe]
      exact Disposed.notProbes h hd
  cases hh with
  | refused hnd hno =>
    have hp : e.probe = false := by
      rw [Bool.eq_false_iff, ne_eq, hprobe]
      rintro ⟨p, peer, envelope, -, hpass, -⟩
      exact hno p peer envelope hpass
    have hl : e.late = false := by
      rw [Bool.eq_false_iff, ne_eq, hlate]
      rintro ⟨p, peer, envelope, hpass, -⟩
      exact hno p peer envelope hpass
    have hdup : e.failsWith RelayError.duplicate = false := by
      refine Arrival.failsWith_eq_false fun error he => ?_
      cases error with
      | duplicateSequence n => exact absurd (Except.error.inj (houtcome.symm.trans he)) (hnd n)
      | _ => rfl
    rcases handleDatagram_stopped (o := o) h hno with ⟨hout, hmetrics⟩ | ⟨hout, hmetrics⟩
    · rw [hforget] at hout
      have hlimited : e.failsWith (decide <| · = .rateLimited) = true :=
        (Arrival.failsWith_error hout).trans (decide_eq_true rfl)
      rw [hmetrics]
      constructor <;> simp [RelayCounters.recordRateLimited, hlimited, hdup, hp, hl]
    · rw [hforget] at hout
      have hlimited : e.failsWith (decide <| · = .rateLimited) = false :=
        Arrival.failsWith_eq_false fun error he => decide_eq_false fun hrate => hout (hrate ▸ he)
      rw [hmetrics]
      constructor <;> simp [hlimited, hdup, hp, hl]
  | answered hpass hmsg =>
    have hpr : Probes m.app source packet limiterNow := ⟨_, _, _, _, hpass, hmsg⟩
    have hl : e.late = false := by
      rw [Bool.eq_false_iff, ne_eq, hlate]
      exact fun hd => Disposed.notProbes h hd hpr
    have hnone : ∀ kind, e.failsWith kind = false := fun kind => by rw [Arrival.failsWith, houtcome]
    rw [handleDatagram_probe h hpr]
    constructor <;> simp [RelayCounters.recordProbe, hnone, hprobe.2 hpr, hl, htime]
  | duplicate hpass hmsg hrec =>
    refine hmessage hpass hmsg (congrArg Prod.fst hrec) ?_ ?_
    · rw [Arrival.failsWith, houtcome]
      rfl
    · rw [Arrival.failsWith, houtcome]
      rfl
  | @failed p peer envelope f disposition tracker hpass hmsg hrec hnew hnd =>
    have hd : Disposed m.app source packet limiterNow disposition := ⟨_, _, _, hpass, hmsg, congrArg Prod.fst hrec⟩
    refine hmessage hpass hmsg (congrArg Prod.fst hrec) ?_ ?_
    · refine Arrival.failsWith_eq_false fun error he => decide_eq_false fun hrate => ?_
      exact notLimited h hd hnew (congrArg Prod.fst hx) (Except.error.inj (houtcome.symm.trans (hrate ▸ he)))
    · rw [decide_eq_false hnew]
      refine Arrival.failsWith_eq_false fun error he => ?_
      cases error with
      | duplicateSequence n => exact absurd (Except.error.inj (houtcome.symm.trans he)) (hnd n)
      | _ => rfl
  | routed hpass hmsg hrec hnew =>
    refine hmessage hpass hmsg (congrArg Prod.fst hrec) ?_ ?_
    · rw [Arrival.failsWith, houtcome]
    · rw [Arrival.failsWith, houtcome]
      simp [hnew]

end

/-! ## Sending -/

section

variable {accepts : Nat → Bool} {metrics : RelayCounters} {i : Nat} {outbound : List OutboundDatagram}

/-- The counters, once some packets have been sent. -/
def counting (metrics : RelayCounters) (sent : List SendTo) : RelayCounters :=
  { metrics with
    sentPackets := metrics.sentPackets + UInt64.ofNat sent.length
    bytesOut := metrics.bytesOut + UInt64.ofNat (sent.map (·.packet.length)).sum }

theorem sentOf_cons {call : SendTo} {calls : List SendTo} {ended : Option RunError}
    (h : ended = some .io → calls ≠ []) :
    sentOf (call :: calls) ended = call :: sentOf calls ended := by
  unfold sentOf
  split
  · rename_i hio
    exact List.dropLast_cons_of_ne_nil (h hio)
  · rfl

/-- A loop that ends with a failure of the socket has made the call that failed. -/
theorem sendOutbound_io (h : (Civ6LanBridge.sendOutbound accepts i outbound).2 = some .io) :
    (Civ6LanBridge.sendOutbound accepts i outbound).1 ≠ [] := by
  cases outbound with
  | nil => cases h
  | cons datagram outbound =>
    unfold Civ6LanBridge.sendOutbound at h ⊢
    cases henc : RelayEnvelope.encode { «meta» := datagram.meta, message := datagram.message } with
    | error e =>
      rw [henc] at h
      cases h
    | ok packet =>
      dsimp only
      split <;> simp

/-- What is sent is counted, packet by packet. -/
theorem sendOutbound_metrics : (sendOutbound accepts metrics i outbound).1 = counting metrics
    (sentOf (Civ6LanBridge.sendOutbound accepts i outbound).1 (Civ6LanBridge.sendOutbound accepts i outbound).2) := by
  induction outbound generalizing metrics i with
  | nil => simp [sendOutbound, Civ6LanBridge.sendOutbound, sentOf, counting]
  | cons datagram outbound ih =>
    unfold sendOutbound Civ6LanBridge.sendOutbound
    cases RelayEnvelope.encode { «meta» := datagram.meta, message := datagram.message } with
    | error e => simp [sentOf, counting]
    | ok packet =>
      dsimp only
      split
      · dsimp only
        rw [ih, sentOf_cons sendOutbound_io]
        simp [counting, RelayCounters.recordSent, UInt64.ofNat_add, UInt64.add_assoc, UInt64.add_comm]
      · simp [sentOf, counting]

end

/-! ## One turn of the loop -/

/-- The counters that the end of a turn moves, and those it leaves. -/
structure Closes (before after : RelayCounters) (e : Arrival) : Prop where
  dropped : after.droppedPackets = before.droppedPackets + UInt64.ofNat (e.failsWith fun _ => true).toNat
  authenticationFailures : after.authenticationFailures =
    before.authenticationFailures + UInt64.ofNat (e.failsWith RelayError.authenticationFailure).toNat
  oversized : after.oversizedPackets = before.oversizedPackets + UInt64.ofNat (e.failsWith RelayError.oversized).toNat
  sent : after.sentPackets = before.sentPackets + UInt64.ofNat e.sent.length
  bytesOut : after.bytesOut = before.bytesOut + UInt64.ofNat (e.sent.map (·.packet.length)).sum
  arrivals : after.toRelayMetrics = before.toRelayMetrics
  rateLimited : after.rateLimitedPackets = before.rateLimitedPackets
  sequenceDuplicates : after.sequenceDuplicates = before.sequenceDuplicates
  reordered : after.reorderedPackets = before.reorderedPackets
  probeSuccesses : after.probeSuccesses = before.probeSuccesses
  probeFailures : after.probeFailures = before.probeFailures
  lastProbe : after.lastProbeAtMs = before.lastProbeAtMs

/-- The counters that a turn of the loop moves, by how much. -/
structure Adds (fingerprint : List UInt8 → UInt64) (before after : RelayCounters) (e : Arrival) : Prop where
  arrivals : after.toRelayMetrics = before.toRelayMetrics.apply fingerprint e.receipt
  dropped : after.droppedPackets = before.droppedPackets + UInt64.ofNat (e.failsWith fun _ => true).toNat
  authenticationFailures : after.authenticationFailures =
    before.authenticationFailures + UInt64.ofNat (e.failsWith RelayError.authenticationFailure).toNat
  rateLimited : after.rateLimitedPackets =
    before.rateLimitedPackets + UInt64.ofNat (e.failsWith (decide <| · = .rateLimited)).toNat
  oversized : after.oversizedPackets = before.oversizedPackets + UInt64.ofNat (e.failsWith RelayError.oversized).toNat
  sequenceDuplicates : after.sequenceDuplicates =
    before.sequenceDuplicates + UInt64.ofNat (e.failsWith RelayError.duplicate).toNat
  reordered : after.reorderedPackets = before.reorderedPackets + UInt64.ofNat e.late.toNat
  probeSuccesses : after.probeSuccesses = before.probeSuccesses + UInt64.ofNat e.probe.toNat
  probeFailures : after.probeFailures = before.probeFailures
  lastProbe : after.lastProbeAtMs = if e.probe then e.unixTimeMs else before.lastProbeAtMs
  sent : after.sentPackets = before.sentPackets + UInt64.ofNat e.sent.length
  bytesOut : after.bytesOut = before.bytesOut + UInt64.ofNat (e.sent.map (·.packet.length)).sum

section

variable {m : Metered} {relayPort : UInt16} {fingerprint : List UInt8 → UInt64} {created receivedNow : Instant}
  {unixTimeMs : UInt64} {wake : Wake} {metrics metrics' : RelayCounters} {log : List Arrival} {refused : Nat}
  {e : Arrival}

/-- Receiving, handling and the end of the turn, one after the other. -/
theorem Marks.adds (hmarks : Marks (metrics.recordReceived fingerprint e.packet e.receivedNow) metrics' e)
    {after : RelayCounters} (hcloses : Closes metrics' after e) : Adds fingerprint metrics after e := by
  constructor
  · rw [hcloses.arrivals, hmarks.arrivals]
    rfl
  · rw [hcloses.dropped, hmarks.dropped]
    rfl
  · rw [hcloses.authenticationFailures, hmarks.authenticationFailures]
    rfl
  · rw [hcloses.rateLimited, hmarks.rateLimited]
    rfl
  · rw [hcloses.oversized, hmarks.oversized]
    rfl
  · rw [hcloses.sequenceDuplicates, hmarks.sequenceDuplicates]
    rfl
  · rw [hcloses.reordered, hmarks.reordered]
    rfl
  · rw [hcloses.probeSuccesses, hmarks.probeSuccesses]
    rfl
  · rw [hcloses.probeFailures, hmarks.probeFailures]
    rfl
  · rw [hcloses.lastProbe, hmarks.lastProbe]
    rfl
  · rw [hcloses.sent, hmarks.sent]
    rfl
  · rw [hcloses.bytesOut, hmarks.bytesOut]
    rfl

/-- The end of a turn that sends what comes of the datagram. -/
theorem closes_counting (hnone : ∀ kind, e.failsWith kind = false) : Closes metrics (counting metrics e.sent) e := by
  constructor <;> simp [counting, hnone]

/-- The end of a turn that drops the datagram. -/
theorem closes_drop {error : RelayError} (houtcome : e.outcome = .error (.error error)) (hsent : e.sent = []) :
    Closes metrics
      ((if error.oversized then metrics.recordOversized else metrics).recordDrop error.authenticationFailure) e := by
  have hkind : ∀ kind, e.failsWith kind = kind error := fun kind => Arrival.failsWith_error houtcome
  cases ho : error.oversized <;> cases ha : error.authenticationFailure <;> constructor <;>
    simp [RelayCounters.recordDrop, RelayCounters.recordOversized, RelayCounters.recordAuthenticationFailure,
      hkind, ho, ha, hsent]

/-- A datagram that wakes the loop is counted as what it comes to. -/
theorem turn_adds (h : m.app.router.WF) (he : e ∈ wake.arrivals relayPort m.app receivedNow unixTimeMs) :
    Adds fingerprint m.metrics (m.turn fingerprint relayPort receivedNow unixTimeMs wake).server.metrics e := by
  cases wake with
  | receiveFailed => cases he
  | tick o now => cases he
  | received o source datagram limiterNow now accepts =>
    rw [Wake.arrivals, List.mem_singleton] at he
    let packet := datagram.take maxRelayDatagramSize
    let m₁ : Metered := { m with metrics := m.metrics.recordReceived fingerprint packet receivedNow }
    have houtcome : e.outcome = (Civ6LanBridge.handleDatagram o relayPort m.app source packet limiterNow now).1 := by
      rw [he]
    have hprobe : e.probe = true ↔ Probes m.app source packet limiterNow := by
      simp only [he, decide_eq_true_iff, packet]
    have hlate : e.late = true ↔ Disposed m.app source packet limiterNow .reordered := by
      simp only [he, decide_eq_true_iff, packet]
    have hmarks : Marks m₁.metrics (m₁.handleDatagram o relayPort source packet limiterNow now unixTimeMs).2.metrics
        e :=
      handleDatagram_marks (m := m₁) h (by rw [he]) houtcome hprobe hlate
    have hforget := @handleDatagram_forget m₁ o relayPort source packet limiterNow now unixTimeMs
    have hsent : e.sent = sentOf ((Wake.received o source datagram limiterNow now accepts).turn relayPort m.app).calls
        ((Wake.received o source datagram limiterNow now accepts).turn relayPort m.app).ended := by
      rw [he]
    have hreceived : m₁.metrics = m.metrics.recordReceived fingerprint e.packet e.receivedNow := by rw [he]
    rw [hreceived] at hmarks
    refine hmarks.adds ?_
    clear he hmarks hreceived
    unfold turn
    unfold Wake.turn at hsent
    dsimp only [m₁, packet] at hforget houtcome hsent ⊢
    rw [← hforget] at houtcome hsent
    generalize handleDatagram o relayPort _ source _ limiterNow now unixTimeMs = x at houtcome hsent ⊢
    rcases x with ⟨(_ | error) | outbound, m₂⟩
    all_goals dsimp only [Handled.forget] at houtcome hsent ⊢
    · have hnone : ∀ kind, e.failsWith kind = false := fun kind => by rw [Arrival.failsWith, houtcome]
      have hs : e.sent = [] := hsent
      constructor <;> simp [hnone, hs]
    · exact closes_drop houtcome hsent
    · have hnone : ∀ kind, e.failsWith kind = false := fun kind => by rw [Arrival.failsWith, houtcome]
      rw [sendOutbound_metrics, ← hsent]
      exact closes_counting hnone

/-! ## Any number of turns -/

theorem countP_snoc (q : Arrival → Bool) : (log ++ [e]).countP q = log.countP q + (q e).toNat := by
  rw [List.countP_append, List.countP_singleton]
  cases q e <;> rfl

/-- One more datagram is known, or it is not, to the cache that the others have left. -/
theorem receptions_snoc (hcached : metrics.seenPackets = cacheAfter fingerprint created log) {after : RelayMetrics} :
    UInt64.ofNat ((receptions fingerprint created (log ++ [e])).countP (RelayMetrics.known fingerprint)) =
      UInt64.ofNat ((receptions fingerprint created log).countP (RelayMetrics.known fingerprint)) +
        UInt64.ofNat
          (RelayMetrics.known fingerprint { before := metrics.toRelayMetrics, event := e.receipt, after }).toNat := by
  have hknown : RelayMetrics.known fingerprint { before := metrics.toRelayMetrics, event := e.receipt, after } =
      ((cacheAfter fingerprint created log).cleanUp e.receivedNow).entries.contains (fingerprint e.packet) := by
    rw [← hcached]
    rfl
  unfold receptions
  rw [List.map_append, List.reverse_append, hknown]
  show UInt64.ofNat ((_ :: RelayMetrics.history fingerprint created _).countP _) = _
  rw [List.countP_cons, UInt64.ofNat_add]
  congr 2
  show (if ((cacheAfter fingerprint created log).cleanUp e.receivedNow).entries.contains (fingerprint e.packet) = true
    then 1 else 0) = _
  cases ((cacheAfter fingerprint created log).cleanUp e.receivedNow).entries.contains (fingerprint e.packet) <;> rfl

theorem tallies_add (ht : Tallies fingerprint created metrics log refused) (ha : Adds fingerprint metrics metrics' e) :
    Tallies fingerprint created metrics' (log ++ [e]) refused where
  received := by
    rw [ha.arrivals, List.length_append, UInt64.ofNat_add, ← ht.received]
    rfl
  bytesIn := by
    rw [ha.arrivals, List.map_append, List.sum_append, UInt64.ofNat_add, ← ht.bytesIn]
    simp [RelayMetrics.apply, RelayMetrics.recordReceived, Arrival.receipt]
  duplicated := by
    rw [ha.arrivals, RelayMetrics.apply_duplicatedPackets, receptions_snoc ht.cached, ht.duplicated]
  cached := by
    have hcached : cacheAfter fingerprint created (log ++ [e]) =
        ((cacheAfter fingerprint created log).see (fingerprint e.packet) e.receivedNow).2 := by
      unfold cacheAfter
      rw [List.map_append, List.reverse_append]
      rfl
    rw [hcached, ha.arrivals, ← ht.cached]
    rfl
  dropped := by rw [ha.dropped, ht.dropped, countP_snoc, UInt64.ofNat_add]
  authenticationFailures := by
    rw [ha.authenticationFailures, ht.authenticationFailures, countP_snoc, ← Nat.add_assoc, ← UInt64.ofNat_add]
  rateLimited := by rw [ha.rateLimited, ht.rateLimited, countP_snoc, UInt64.ofNat_add]
  oversized := by rw [ha.oversized, ht.oversized, countP_snoc, UInt64.ofNat_add]
  sequenceDuplicates := by rw [ha.sequenceDuplicates, ht.sequenceDuplicates, countP_snoc, UInt64.ofNat_add]
  reordered := by rw [ha.reordered, ht.reordered, countP_snoc, UInt64.ofNat_add]
  probeSuccesses := by rw [ha.probeSuccesses, ht.probeSuccesses, countP_snoc, UInt64.ofNat_add]
  probeFailures := by rw [ha.probeFailures, ht.probeFailures]
  lastProbe := by
    rw [ha.lastProbe, List.reverse_append]
    show _ = ((List.find? _ (e :: log.reverse)).map _).getD 0
    rw [List.find?_cons]
    cases e.probe
    · exact ht.lastProbe
    · rfl
  sent := by simp [ha.sent, ht.sent, UInt64.ofNat_add]
  bytesOut := by simp [ha.bytesOut, ht.bytesOut, UInt64.ofNat_add]

/-- A request that is turned away counts as a failure of authentication. -/
theorem tallies_refuse (ht : Tallies fingerprint created metrics log refused) :
    Tallies fingerprint created metrics.recordAuthenticationFailure log (refused + 1) :=
  { ht with
    authenticationFailures := by
      show metrics.authenticationFailures + 1 = _
      rw [ht.authenticationFailures, Nat.add_right_comm, UInt64.ofNat_add _ 1]
      rfl }

theorem turn_tallies (h : m.app.router.WF) (ht : Tallies fingerprint created m.metrics log refused) :
    Tallies fingerprint created (m.turn fingerprint relayPort receivedNow unixTimeMs wake).server.metrics
      (log ++ wake.arrivals relayPort m.app receivedNow unixTimeMs) refused := by
  cases wake with
  | receiveFailed => simpa [Wake.arrivals, turn] using ht
  | tick o now => simpa [Wake.arrivals, turn] using ht
  | received o source datagram limiterNow now accepts => exact tallies_add ht (turn_adds h List.mem_cons_self)

/-- A run adds what it has been through to the tallies. -/
theorem run_tallies {config : RouterConfig} {incidents : List Incident} (h : AppState.Reachable config m.app)
    (hp : Incident.AllPermitted relayPort m.app incidents) (ht : Tallies fingerprint created m.metrics log refused) :
    Tallies fingerprint created (run fingerprint relayPort m incidents).server.metrics
      (log ++ arrivals relayPort m.app incidents) (refused + turnedAway relayPort m.app incidents) := by
  induction incidents generalizing m log refused with
  | nil => simpa [run, arrivals, turnedAway] using ht
  | cons incident rest ih =>
    rcases hp with ⟨hfresh, hp⟩
    unfold run arrivals turnedAway
    cases incident with
    | wake w receivedNow unixTimeMs =>
      have htallies := @turn_tallies m relayPort fingerprint created receivedNow unixTimeMs w log refused h.router.wf ht
      rcases @turn_forget m relayPort fingerprint receivedNow unixTimeMs w with ⟨hstate, -, hended⟩
      have hnext : AppState.Reachable config (m.turn fingerprint relayPort receivedNow unixTimeMs w).server.app := by
        rw [hstate, Wake.turn_state]
        exact w.next_reachable relayPort h
      have hends : (Incident.wake w receivedNow unixTimeMs).ends relayPort m.app =
        (w.turn relayPort m.app).ended.isSome := rfl
      dsimp only
      rw [hended, hends]
      show Tallies _ _ _ (log ++ (w.arrivals relayPort m.app receivedNow unixTimeMs ++ _)) (refused + (0 + _))
      by_cases hnone : (w.turn relayPort m.app).ended = none
      · rw [if_pos hnone, hnone]
        have hrest := ih hnext (by rw [hstate]; exact hp) htallies
        rw [hstate, List.append_assoc] at hrest
        simpa [Incident.next] using hrest
      · rw [if_neg hnone, Option.isSome_iff_ne_none.2 hnone]
        simpa using htallies
    | request o op =>
      have hnext : AppState.Reachable config { m.app with router := (op.exec o m.app.router).2 } :=
        .step h (.control o op (hfresh o op rfl))
      simpa [Incident.arrivals, Incident.turnedAway, Incident.ends, Incident.next] using
        @ih { m with app := { m.app with router := (op.exec o m.app.router).2 } } log refused hnext hp ht
    | refusal =>
      have := @ih { m with metrics := m.metrics.recordAuthenticationFailure } log (refused + 1) h hp (tallies_refuse ht)
      simpa [Incident.arrivals, Incident.turnedAway, Incident.ends, Incident.next, Nat.add_assoc] using this

end

end Metered

/-! ## What the counters say -/

section

variable {config : RouterConfig} {s : AppState} {fingerprint : List UInt8 → UInt64} {relayPort : UInt16}
  {created : Instant} {incidents : List Incident} {e : Arrival}

/-- A datagram that the loop has been through arrived at a server in a state it can reach. -/
theorem mem_arrivals (h : AppState.Reachable config s) (hp : Incident.AllPermitted relayPort s incidents)
    (he : e ∈ arrivals relayPort s incidents) : ∃ s' receivedNow unixTimeMs wake, AppState.Reachable config s' ∧
      e ∈ Wake.arrivals relayPort s' receivedNow unixTimeMs wake := by
  induction incidents generalizing s with
  | nil => cases he
  | cons incident rest ih =>
    rcases hp with ⟨hfresh, hp⟩
    unfold arrivals at he
    rcases List.mem_append.1 he with he | he
    · cases incident with
      | wake w receivedNow unixTimeMs => exact ⟨s, receivedNow, unixTimeMs, w, h, he⟩
      | request o op => cases he
      | refusal => cases he
    · split at he
      · cases he
      · refine ih ?_ hp he
        cases incident with
        | wake w receivedNow unixTimeMs =>
          rw [Incident.next, Wake.turn_state]
          exact w.next_reachable relayPort h
        | request o op => exact .step h (.control o op (hfresh o op rfl))
        | refusal => exact h

/-- What arrives is answered or dropped, and only what is answered can be a probe. -/
theorem arrivals_settled (h : AppState.Reachable config s) {receivedNow : Instant} {unixTimeMs : UInt64} {wake : Wake}
    (he : e ∈ Wake.arrivals relayPort s receivedNow unixTimeMs wake) :
    e.answered = !e.failsWith (fun _ => true) ∧ (e.probe = true → e.answered = true) := by
  cases wake with
  | receiveFailed => cases he
  | tick o now => cases he
  | received o source datagram limiterNow now accepts =>
    rw [Wake.arrivals, List.mem_singleton] at he
    have houtcome : e.outcome =
        (handleDatagram o relayPort s source (datagram.take maxRelayDatagramSize) limiterNow now).1 := by
      rw [he]
    have hprobe : e.probe = true ↔ Metered.Probes s source (datagram.take maxRelayDatagramSize) limiterNow := by
      simp only [he, decide_eq_true_iff]
    constructor
    · have hnp := handleDatagram_noPanic o relayPort source (datagram.take maxRelayDatagramSize) limiterNow
        now h.router.wf
      rw [← houtcome] at hnp
      unfold Arrival.answered Arrival.failsWith
      generalize e.outcome = outcome at hnp
      rcases outcome with (_ | error) | outbound
      · exact absurd rfl hnp
      · rfl
      · rfl
    · intro hp
      have hh := handleDatagram_handles o relayPort h.router.wf source (datagram.take maxRelayDatagramSize)
        limiterNow now
      rcases hprobe.1 hp with ⟨p, peer, envelope, requestId, hpass, hmsg⟩
      generalize handleDatagram o relayPort s source (datagram.take maxRelayDatagramSize) limiterNow now =
        x at hh houtcome
      unfold Arrival.answered
      rw [houtcome]
      cases hh with
      | refused _ hno => exact absurd hpass (hno _ _ _)
      | answered => rfl
      | routed => rfl
      | duplicate hpass' hmsg' =>
        rcases hpass.sender h.router.wf hpass'.registered hpass'.source hpass'.decoded with ⟨rfl, rfl, rfl⟩
        exact absurd hmsg (hmsg' requestId)
      | failed hpass' hmsg' =>
        rcases hpass.sender h.router.wf hpass'.registered hpass'.source hpass'.decoded with ⟨rfl, rfl, rfl⟩
        exact absurd hmsg (hmsg' requestId)

theorem default_tallies : Tallies fingerprint created (.default created) [] 0 := by
  constructor <;> rfl

/-- However the loop runs among the requests, the counters of a server are the exact tallies, modulo 2^64, of the
datagrams that have arrived and of the requests that were turned away. -/
theorem counters_exact (h : AppState.Reachable config s) (hp : Incident.AllPermitted relayPort s incidents) :
    Tallies fingerprint created
      (Metered.run fingerprint relayPort { app := s, metrics := .default created } incidents).server.metrics
      (arrivals relayPort s incidents) (turnedAway relayPort s incidents) := by
  simpa using Metered.run_tallies (m := { app := s, metrics := .default created }) h hp default_tallies

/-- Every incident is one datagram, or one request turned away, or neither. -/
theorem turnedAway_add_arrivals_le :
    turnedAway relayPort s incidents + (arrivals relayPort s incidents).length ≤ incidents.length := by
  induction incidents generalizing s with
  | nil => exact le_rfl
  | cons incident rest ih =>
    have ih := @ih (incident.next relayPort s)
    have hone : incident.turnedAway + (incident.arrivals relayPort s).length ≤ 1 := by
      cases incident with
      | wake w receivedNow unixTimeMs => cases w <;> simp [Incident.turnedAway, Incident.arrivals, Wake.arrivals]
      | request o op => exact Nat.zero_le 1
      | refusal => exact le_rfl
    unfold turnedAway arrivals
    rw [List.length_append, List.length_cons]
    split
    · simp only [List.length_nil]
      omega
    · omega

/-- As long as fewer than 2^64 things have happened, what the counters say adds up: what is received is answered or
dropped, every probe that counts as a success is answered, and the causes for which datagrams are dropped exclude each
other. -/
theorem counters_add_up (h : AppState.Reachable config s) (hp : Incident.AllPermitted relayPort s incidents)
    (hfew : incidents.length < 2 ^ 64) :
    let metrics :=
      (Metered.run fingerprint relayPort { app := s, metrics := .default created } incidents).server.metrics
    let answered := (arrivals relayPort s incidents).countP Arrival.answered
    metrics.receivedPackets.toNat = answered + metrics.droppedPackets.toNat ∧
    metrics.probeSuccesses.toNat ≤ answered ∧
    metrics.rateLimitedPackets.toNat + metrics.sequenceDuplicates.toNat + metrics.oversizedPackets.toNat +
      metrics.authenticationFailures.toNat ≤ metrics.droppedPackets.toNat + turnedAway relayPort s incidents := by
  have ht := Metered.run_tallies (m := { app := s, metrics := .default created }) h hp
    (@default_tallies fingerprint created)
  rw [List.nil_append, Nat.zero_add] at ht
  dsimp only at ht
  generalize hm :
    (Metered.run fingerprint relayPort { app := s, metrics := .default created } incidents).server.metrics = metrics
    at ht
  have hsettled : ∀ e ∈ arrivals relayPort s incidents,
      e.answered = !e.failsWith (fun _ => true) ∧ (e.probe = true → e.answered = true) := by
    intro e he
    rcases mem_arrivals h hp he with ⟨s', receivedNow, unixTimeMs, wake, hs', he⟩
    exact arrivals_settled hs' he
  have hfew := (@turnedAway_add_arrivals_le s relayPort incidents).trans_lt hfew
  generalize arrivals relayPort s incidents = log at ht hfew hsettled
  generalize turnedAway relayPort s incidents = refused at ht hfew
  have hsmall : ∀ n, n ≤ refused + log.length → (UInt64.ofNat n).toNat = n := by
    intro n hn
    rw [UInt64.toNat_ofNat']
    omega
  have hcount : ∀ kind : Arrival → Bool, (UInt64.ofNat (log.countP kind)).toNat = log.countP kind := by
    intro kind
    exact hsmall _ (List.countP_le_length.trans (Nat.le_add_left _ _))
  have hsplit : log.length = log.countP Arrival.answered + log.countP (·.failsWith fun _ => true) := by
    rw [List.length_eq_countP_add_countP (·.failsWith fun _ => true), Nat.add_comm]
    congr 1
    refine List.countP_congr fun e he => ?_
    rw [(hsettled e he).1]
    simp
  have hprobe : log.countP Arrival.probe ≤ log.countP Arrival.answered :=
    List.countP_mono_left fun e he => (hsettled e he).2
  -- an error has one cause
  have hcauses : (([(·.failsWith (decide <| · = .rateLimited)), (·.failsWith RelayError.duplicate),
      (·.failsWith RelayError.oversized), (·.failsWith RelayError.authenticationFailure)] : List (Arrival → Bool)).map
        fun kind => log.countP kind).sum ≤ log.countP (·.failsWith fun _ => true) := by
    refine List.sum_countP_le fun e _ => ?_
    by_cases hf : ∃ error, e.outcome = .error (.error error)
    · rcases hf with ⟨error, hf⟩
      have hone := error.one_cause
      simp only [List.map_cons, List.map_nil, List.sum_cons, List.sum_nil, Arrival.failsWith_error hf, Bool.toNat_true]
      omega
    · have hnone : ∀ kind, e.failsWith kind = false := fun kind =>
        Arrival.failsWith_eq_false fun error he => absurd ⟨error, he⟩ hf
      simp [hnone]
  simp only [List.map_cons, List.map_nil, List.sum_cons, List.sum_nil] at hcauses
  have hauth := hsmall (refused + log.countP (·.failsWith RelayError.authenticationFailure))
    (Nat.add_le_add_left List.countP_le_length _)
  have hreceived := hsmall log.length (Nat.le_add_left _ _)
  dsimp only
  rw [ht.received, ht.dropped, ht.probeSuccesses, ht.rateLimited, ht.sequenceDuplicates, ht.oversized,
    ht.authenticationFailures, hauth, hreceived, hcount, hcount, hcount, hcount, hcount]
  exact ⟨hsplit, hprobe, by omega⟩

/-! ## A busy server -/

namespace RoomRouter.Example

/-- A datagram comes from an address, at a time. -/
def comes (ip : VirtualIp) (packet : List UInt8) (time : Nat) : Incident :=
  .wake (.received .sorted ⟨.v4 ip.address, 32000⟩ packet 0 time fun _ => true) time (UInt64.ofNat time)

def busyProbe : List UInt8 := frame 1 MessageKind.relayProbe (Uuid.ofByte 9).bytes

/-- A discovery request with a number. -/
def search (n : UInt64) : List UInt8 :=
  frame relayProtocolVersion MessageKind.discoveryRequest
    (({ sequence := n } : RelayEnvelopeMeta).fields ++ pathBytes none 0 ++ (Uuid.ofByte 9).bytes ++ [0xf5, 0xb4, 7])

/-- The peer probes and looks for hosts, with a copy and with one that comes late; a stranger does the same, and
somebody asks for the metrics without a token. -/
def busy : List Incident :=
  [comes ip busyProbe 5, comes ip (search 2) 6, comes ip (search 2) 7, comes ip (search 1) 8,
    comes visitorIp (search 2) 9, .refusal]

theorem busy_permitted : Incident.AllPermitted 32000 server busy := by
  refine ⟨?_, ?_, ?_, ?_, ?_, ?_, trivial⟩ <;> (intro o op h; cases h)

def counted : RelayCounters :=
  (Metered.run RelayMetrics.Example.digest 32000 { app := server, metrics := .default 0 } busy).server.metrics

theorem busy_counted : Tallies RelayMetrics.Example.digest 0 counted (arrivals 32000 server busy)
    (turnedAway 32000 server busy) ∧ counted.snapshot server.router.stats =
      { sentPackets := 3, receivedPackets := 5, droppedPackets := 2, duplicatedPackets := 2, reorderedPackets := 1
        sequenceDuplicates := 1, rateLimitedPackets := 0, oversizedPackets := 0, probeSuccesses := 1, probeFailures := 0
        lastProbeAtMs := 5, bytesIn := 236, bytesOut := 164, activePeers := 1, suspendedPeers := 0, activeRooms := 1
        activeHosts := 1, activeGameplaySessions := 0, authenticationFailures := 2 } :=
  ⟨counters_exact server_reachable busy_permitted, by decide +kernel⟩

/-- Three of the five datagrams are answered. -/
theorem busy_adds_up : (arrivals 32000 server busy).countP Arrival.answered = 3 := by
  obtain ⟨hreceived, -, -⟩ := @counters_add_up _ server RelayMetrics.Example.digest 32000 0 busy server_reachable
    busy_permitted (by decide)
  have hcounted : counted.receivedPackets.toNat = 5 ∧ counted.droppedPackets.toNat = 2 := by decide +kernel
  rw [show (Metered.run _ 32000 _ busy).server.metrics = counted from rfl] at hreceived
  omega

end RoomRouter.Example

end

end Civ6LanBridge

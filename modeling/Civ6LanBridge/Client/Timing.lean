/-
`crates/client-core/src/lib.rs`: how long a session waits, the round-trip times that it measures, and
`run_with_reconnect`, taken from one wait to the next.
-/
import Civ6LanBridge.Client.Session
import Civ6LanBridge.Lib.Samples

namespace Civ6LanBridge

namespace Duration

def fromMillis (millis : Nat) : Duration := millis * 1000000

def asMillis (d : Duration) : Nat := d / 1000000

/-- `Duration::MAX`: the seconds are a `u64`, and the rest is less than another second. -/
def max : Duration := fromSecs (2 ^ 64) - 1

def saturatingMul (d : Duration) (n : UInt32) : Duration := min (d * n.toNat) max

end Duration

/-- The waits of a `RelaySessionConfig`. -/
structure RelaySessionWaits where
  probeInterval : Duration := .fromSecs 2
  reconnectInitialBackoff : Duration := .fromMillis 250
  reconnectMaxBackoff : Duration := .fromSecs 8
  inRange : reconnectMaxBackoff ≤ Duration.max := by decide

/-- What a `RelaySessionSnapshot` says about round-trip times. -/
structure RttSnapshot where
  lastRttMs : Option UInt64 := none
  rttP50Ms : Option UInt64 := none
  rttP95Ms : Option UInt64 := none
deriving DecidableEq

/-- A `RelaySession` with its waits and its round-trip times. -/
structure TimedSession extends RelaySession where
  waits : RelaySessionWaits
  rttSamplesMs : List UInt64
  rtts : RttSnapshot

/-- `rtt.as_millis().min(u128::from(u64::MAX)) as u64`. -/
def rttMs (rtt : Duration) : UInt64 := UInt64.ofNat (min rtt.asMillis (2 ^ 64 - 1))

namespace TimedSession

def withConfig (transportPathId : Option UInt8) (connectionEpoch : UInt64) (config : RelaySessionConfig)
    (waits : RelaySessionWaits) : TimedSession :=
  { RelaySession.withConfig transportPathId connectionEpoch config with waits, rttSamplesMs := [], rtts := {} }

variable (session : TimedSession)

/-- What leaves the waits and the round-trip times alone. -/
def change (f : RelaySession → RelaySession) : TimedSession :=
  { session with toRelaySession := f session.toRelaySession }

def recordProbeSuccess (rtt : Duration) : TimedSession :=
  let rttSamplesMs :=
    (if 128 ≤ session.rttSamplesMs.length then session.rttSamplesMs.tail else session.rttSamplesMs) ++ [rttMs rtt]
  let samples := rttSamplesMs.mergeSort (· ≤ ·)
  { session.change .recordProbeSuccess with
    rttSamplesMs
    rtts.lastRttMs := some (rttMs rtt)
    rtts.rttP50Ms := samples[(samples.length - 1) * 50 / 100]?
    rtts.rttP95Ms := samples[(samples.length - 1) * 95 / 100]? }

def reconnectDelay : Duration :=
  let attempt := min session.snapshot.reconnectAttempts 5
  let multiplier := 1 <<< attempt
  min (session.waits.reconnectInitialBackoff.saturatingMul multiplier) session.waits.reconnectMaxBackoff

/-- `probe_once` up to its wait for the answer: the envelope that it sends. -/
def startProbe (requestId : DiscoveryRequestId) (sentAtMs : UInt64) : RelayEnvelope × TimedSession :=
  let session := if session.snapshot.state = .disconnected then session.change (·.setState .connecting) else session
  let («meta», rest) := session.nextEnvelopeMeta sentAtMs
  ({ «meta», message := .relayProbe requestId }, { session with toRelaySession := rest })

/-- The transport gets the envelope as bytes, if it can be encoded. -/
theorem startProbe_toRelaySession (requestId : DiscoveryRequestId) (sentAtMs : UInt64) :
    session.toRelaySession.startProbe requestId sentAtMs =
      ((session.startProbe requestId sentAtMs).1.encode.mapError .relayCodec,
        (session.startProbe requestId sentAtMs).2.toRelaySession) := by
  unfold RelaySession.startProbe startProbe RelaySession.sendEnvelope
  split <;> rfl

/-- A call of the callback is about to be made. -/
def attempt : TimedSession :=
  session.change fun s =>
    { s with snapshot := { s.snapshot with reconnectAttempts := saturatingAddU32 s.snapshot.reconnectAttempts 1 } }

end TimedSession

/-! ## `run_with_reconnect` -/

/-- What the loop waits for: the outcome of its probe, or of its callback. -/
inductive Awaits
  | probe
  | callback
deriving DecidableEq

/-- How the wait ends. Any failure is `none`, since the loop does not look at the error. -/
inductive Reply
  | probed (rtt : Option Duration)
  | called (connectionEpoch : Option UInt64)
deriving DecidableEq

def Reply.to : Reply → Awaits
  | probed _ => .probe
  | called _ => .callback

/-- An answer, and what the probe that may follow is sent with. -/
structure Turn where
  answer : Reply
  requestId : DiscoveryRequestId
  sentAtMs : UInt64

inductive Action
  | sleep (d : Duration)
  | send (envelope : RelayEnvelope)
  | reconnect (snapshot : RelaySessionSnapshot) (rtts : RttSnapshot)
deriving DecidableEq

structure ReconnectLoop where
  session : TimedSession
  awaits : Awaits

namespace ReconnectLoop

/-- The outer loop up to the answer to its probe. -/
def probe (session : TimedSession) (requestId : DiscoveryRequestId) (sentAtMs : UInt64) : List Action × ReconnectLoop :=
  let (envelope, session) := session.startProbe requestId sentAtMs
  ([.send envelope], { session, awaits := .probe })

/-- The inner loop up to the outcome of its callback. -/
def callback (session : TimedSession) : List Action × ReconnectLoop :=
  let session := session.change (·.setState .reconnecting)
  let delay := session.reconnectDelay
  let session := session.attempt
  ([.sleep delay, .reconnect session.snapshot session.rtts], { session, awaits := .callback })

/-- What the loop does when its wait is over, up to the next one. -/
def resume (loop : ReconnectLoop) (turn : Turn) : List Action × ReconnectLoop :=
  match turn.answer with
  | .probed (some rtt) =>
    let session := (loop.session.recordProbeSuccess rtt).change .settle
    let (actions, loop) := probe session turn.requestId turn.sentAtMs
    (.sleep session.waits.probeInterval :: actions, loop)
  | .probed none =>
    let (degraded, rest) := loop.session.recordProbeFailure
    let session := { loop.session with toRelaySession := rest }
    if degraded then callback session
    else
      let (actions, loop) := probe session turn.requestId turn.sentAtMs
      (.sleep session.waits.probeInterval :: actions, loop)
  | .called (some connectionEpoch) =>
    probe (loop.session.change (·.reconnected connectionEpoch)) turn.requestId turn.sentAtMs
  | .called none => callback loop.session

variable {loop : ReconnectLoop} {rest : RelaySession} (requestId : DiscoveryRequestId) (sentAtMs : UInt64)

theorem resume_tolerates (h : loop.session.recordProbeFailure = (false, rest)) :
    loop.resume { answer := .probed none, requestId, sentAtMs } =
      (.sleep loop.session.waits.probeInterval ::
        (probe { loop.session with toRelaySession := rest } requestId sentAtMs).1,
        (probe { loop.session with toRelaySession := rest } requestId sentAtMs).2) := by
  unfold resume
  dsimp only
  rw [h]
  rfl

theorem resume_degrades (h : loop.session.recordProbeFailure = (true, rest)) :
    loop.resume { answer := .probed none, requestId, sentAtMs } =
      callback { loop.session with toRelaySession := rest } := by
  unfold resume
  dsimp only
  rw [h]
  rfl

end ReconnectLoop

/-! ## The client in the loop -/

/-- The session with another number of attempts. -/
def RelaySession.counting (session : RelaySession) (reconnectAttempts : UInt32) : RelaySession :=
  { session with snapshot := { session.snapshot with reconnectAttempts } }

/-- The client while the loop waits. It counts an attempt when its callback has failed, not before the call. -/
def ReconnectLoop.user (loop : ReconnectLoop) (reconnectAttempts : UInt32) : RelayUser :=
  { session := loop.session.counting reconnectAttempts
    activity := match loop.awaits with
      | .probe => .probing true
      | .callback => .resuming }

def Action.sends? : Action → Option RelayEnvelope
  | send envelope => some envelope
  | _ => none

/-- The bytes that the transport gets. -/
def sentBytes (actions : List Action) : Option (List UInt8) :=
  (actions.filterMap Action.sends?).head?.bind fun envelope => envelope.encode.toOption

/-- A turn of the loop as events of the client. -/
def Turn.act (turn : Turn) (user : RelayUser) : Option (List UInt8) × RelayUser :=
  match turn.answer with
  | .probed (some _) => (user.apply .probeAnswered).2.apply (.wake turn.requestId turn.sentAtMs)
  | .probed none =>
    let user := (user.apply .probeFailed).2
    if user.activity = .sleeping then user.apply (.wake turn.requestId turn.sentAtMs) else (none, user)
  | .called (some connectionEpoch) => user.reconnected connectionEpoch turn.requestId turn.sentAtMs
  | .called none => user.apply .reconnectFailed

variable {loop : ReconnectLoop} {turn : Turn}

theorem RelaySession.settle_counting (session : RelaySession) (a : UInt32) :
    (session.counting a).settle = session.settle.counting a := by
  unfold settle
  exact (apply_ite (counting · a) (session.snapshot.state = .resynced ∨ session.snapshot.state = .roomJoined)
    (session.setState .healthy) session).symm

theorem RelaySession.recordProbeFailure_counting (session : RelaySession) (a : UInt32) :
    (session.counting a).recordProbeFailure =
      (session.recordProbeFailure.1, session.recordProbeFailure.2.counting a) := by
  by_cases h : session.config.degradedAfterFailures ≤ saturatingAddU32 session.snapshot.consecutiveProbeFailures 1
  · have hc : (session.counting a).config.degradedAfterFailures ≤
        saturatingAddU32 (session.counting a).snapshot.consecutiveProbeFailures 1 := h
    unfold recordProbeFailure
    dsimp only
    rw [if_pos h, if_pos hc]
    rfl
  · have hc : ¬ (session.counting a).config.degradedAfterFailures ≤
        saturatingAddU32 (session.counting a).snapshot.consecutiveProbeFailures 1 := h
    unfold recordProbeFailure
    dsimp only
    rw [if_neg h, if_neg hc]
    rfl

theorem RelaySession.startProbe_counting (session : RelaySession) (a : UInt32) (requestId : DiscoveryRequestId)
    (sentAtMs : UInt64) :
    (session.counting a).startProbe requestId sentAtMs =
      ((session.startProbe requestId sentAtMs).1, (session.startProbe requestId sentAtMs).2.counting a) := by
  by_cases hs : session.snapshot.state = .disconnected
  · have hc : (session.counting a).snapshot.state = .disconnected := hs
    unfold startProbe
    rw [if_pos hs, if_pos hc]
    rfl
  · have hc : (session.counting a).snapshot.state ≠ .disconnected := hs
    unfold startProbe
    rw [if_neg hs, if_neg hc]
    rfl

theorem ReconnectLoop.probe_user (session : TimedSession) (a : UInt32) (activity : Activity)
    (requestId : DiscoveryRequestId) (sentAtMs : UInt64) :
    RelayUser.probe { session := session.counting a, activity } true requestId sentAtMs =
      (sentBytes (probe session requestId sentAtMs).1, (probe session requestId sentAtMs).2.user a) := by
  unfold RelayUser.probe
  rw [RelaySession.startProbe_counting, TimedSession.startProbe_toRelaySession]
  exact Prod.ext (toOption_mapError _ _) rfl

/-- The client of a loop does what the loop does, and sends the envelope of the loop as bytes. -/
theorem ReconnectLoop.resume_act (h : turn.answer.to = loop.awaits) (a : UInt32) :
    ∃ a', turn.act (loop.user a) = (sentBytes (loop.resume turn).1, (loop.resume turn).2.user a') := by
  obtain ⟨session, awaits⟩ := loop
  obtain ⟨answer, requestId, sentAtMs⟩ := turn
  rcases answer with (_ | rtt) | (_ | epoch) <;> cases h
  · rcases hf : session.toRelaySession.recordProbeFailure with ⟨degraded, rest⟩
    have hfc : (session.toRelaySession.counting a).recordProbeFailure = (degraded, rest.counting a) := by
      rw [RelaySession.recordProbeFailure_counting, hf]
    have hu : ((ReconnectLoop.mk session .probe).user a).failed =
        if degraded then { session := (rest.setState .reconnecting).counting a, activity := .resuming }
        else { session := rest.counting a, activity := .sleeping } := by
      unfold RelayUser.failed
      rw [if_pos (show ((ReconnectLoop.mk session .probe).user a).activity = .probing true from rfl)]
      rw [show ((ReconnectLoop.mk session .probe).user a).session.recordProbeFailure = _ from hfc]
      cases degraded <;> rfl
    unfold Turn.act
    dsimp only [RelayUser.apply]
    rw [hu]
    cases degraded with
    | true =>
      rw [resume_degrades requestId sentAtMs hf]
      exact ⟨a, rfl⟩
    | false =>
      rw [resume_tolerates requestId sentAtMs hf]
      exact ⟨a, probe_user { session with toRelaySession := rest } a .sleeping requestId sentAtMs⟩
  · refine ⟨a, ?_⟩
    show RelayUser.probe
      { session := (session.toRelaySession.recordProbeSuccess.counting a).settle, activity := .sleeping }
      true requestId sentAtMs = _
    rw [RelaySession.settle_counting]
    exact probe_user ((session.recordProbeSuccess rtt).change .settle) a .sleeping requestId sentAtMs
  · exact ⟨_, rfl⟩
  · exact ⟨0, probe_user (session.change (·.reconnected epoch)) 0 .resuming requestId sentAtMs⟩

end Civ6LanBridge

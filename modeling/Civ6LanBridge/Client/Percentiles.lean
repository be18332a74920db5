/-
`crates/client-core/src/lib.rs`: whatever is done with a session, its samples are the latest round-trip
times, and its snapshot reports order statistics of them.
-/
import Civ6LanBridge.Client.Timing
import Civ6LanBridge.Lib.Past

namespace Civ6LanBridge

open Past Samples

/-- The ways in which a session changes: in one of its methods, or between two waits of `run_with_reconnect`. -/
inductive SessionChange
  | markAuthenticated (connectionEpoch : UInt64)
  | markRoomJoined
  | markDisconnected
  | recordProbeFailure
  | nextEnvelopeMeta (sentAtMs : UInt64)
  | startProbe (requestId : DiscoveryRequestId) (sentAtMs : UInt64)
  | recordProbeSuccess (rtt : Duration)
  | settle
  | reconnecting
  | attempt
  | reconnected (connectionEpoch : UInt64)

/-- The round-trip time of a probe that was answered. -/
def SessionChange.rtt? : SessionChange → Option Duration
  | recordProbeSuccess rtt => some rtt
  | _ => none

namespace TimedSession

def apply (session : TimedSession) : SessionChange → TimedSession
  | .markAuthenticated connectionEpoch => session.change (·.markAuthenticated connectionEpoch)
  | .markRoomJoined => session.change .markRoomJoined
  | .markDisconnected => session.change .markDisconnected
  | .recordProbeFailure => session.change (·.recordProbeFailure.2)
  | .nextEnvelopeMeta sentAtMs => session.change fun s => (s.nextEnvelopeMeta sentAtMs).2
  | .startProbe requestId sentAtMs => (session.startProbe requestId sentAtMs).2
  | .recordProbeSuccess rtt => session.recordProbeSuccess rtt
  | .settle => session.change .settle
  | .reconnecting => session.change (·.setState .reconnecting)
  | .attempt => session.attempt
  | .reconnected connectionEpoch => session.change (·.reconnected connectionEpoch)

/-- The round-trip times that were measured, in the order of their arrival; the changes have the latest one first. -/
def measured (changes : List SessionChange) : List UInt64 := ((changes.filterMap SessionChange.rtt?).map rttMs).reverse

variable {session : TimedSession} {c : SessionChange} {changes : List SessionChange}

theorem measured_cons (c : SessionChange) (changes : List SessionChange) :
    measured (c :: changes) = measured changes ++ (c.rtt?.map rttMs).toList := by
  unfold measured
  rw [List.filterMap_cons]
  cases c.rtt? <;> simp

/-! ## One change -/

/-- The place in `m` sorted samples where the percentile is read. -/
def percentileIndex (m q : Nat) : Nat := (m - 1) * q / 100

theorem percentileIndex_lt {m q : Nat} (hm : 0 < m) (hq : q ≤ 100) : percentileIndex m q < m := by
  have hle : percentileIndex m q ≤ m - 1 := by
    rw [percentileIndex, Nat.div_le_iff_le_mul_add_pred (by decide)]
    have := Nat.mul_le_mul_left (m - 1) hq
    omega
  omega

/-- The samples are a window over the round-trip times, and the snapshot agrees with them. -/
structure Reports (rtts : List UInt64) (session : TimedSession) : Prop where
  samples : session.rttSamplesMs = rtts.rtake 128
  last : session.rtts.lastRttMs = rtts.getLast?
  p50 : session.rtts.rttP50Ms = orderStat? session.rttSamplesMs (percentileIndex session.rttSamplesMs.length 50)
  p95 : session.rtts.rttP95Ms = orderStat? session.rttSamplesMs (percentileIndex session.rttSamplesMs.length 95)

/-- Only a successful probe changes what is known of round-trip times. -/
theorem apply_frame (h : c.rtt? = none) (session : TimedSession) :
    (session.apply c).rttSamplesMs = session.rttSamplesMs ∧ (session.apply c).rtts = session.rtts := by
  cases c with
  | recordProbeSuccess rtt => cases h
  | startProbe requestId sentAtMs =>
    show (session.startProbe requestId sentAtMs).2.rttSamplesMs = _ ∧ (session.startProbe requestId sentAtMs).2.rtts = _
    unfold startProbe
    split <;> exact ⟨rfl, rfl⟩
  | _ => exact ⟨rfl, rfl⟩

theorem Reports.recordProbeSuccess {rtts : List UInt64} (h : Reports rtts session) (rtt : Duration) :
    Reports (rtts ++ [rttMs rtt]) (session.recordProbeSuccess rtt) := by
  have hpush : (session.recordProbeSuccess rtt).rttSamplesMs = push 128 session.rttSamplesMs (rttMs rtt) := rfl
  have hstat (q : Nat) (samples : List UInt64) :
      (samples.mergeSort (· ≤ ·))[((samples.mergeSort (· ≤ ·)).length - 1) * q / 100]? =
        orderStat? samples (percentileIndex samples.length q) := by
    rw [List.length_mergeSort]
    rfl
  constructor
  · rw [hpush, h.samples, push_rtake (by decide)]
  · rw [List.getLast?_concat]
    rfl
  · exact hstat 50 _
  · exact hstat 95 _

theorem Reports.apply (h : Reports (measured changes) session) (c : SessionChange) :
    Reports (measured (c :: changes)) (session.apply c) := by
  rw [measured_cons]
  cases hc : c.rtt? with
  | none =>
    rcases apply_frame hc session with ⟨hsamples, hrtts⟩
    simp only [Option.map_none, Option.toList_none, List.append_nil]
    exact ⟨hsamples ▸ h.samples, hrtts ▸ h.last, hsamples ▸ hrtts ▸ h.p50, hsamples ▸ hrtts ▸ h.p95⟩
  | some rtt =>
    cases c with
    | recordProbeSuccess rtt' =>
      cases hc
      exact h.recordProbeSuccess rtt
    | _ => cases hc

/-! ## A run -/

/-- The session after the changes. -/
def changed (transportPathId : Option UInt8) (connectionEpoch : UInt64) (config : RelaySessionConfig)
    (waits : RelaySessionWaits) (changes : List SessionChange) : TimedSession :=
  final apply (withConfig transportPathId connectionEpoch config waits) changes

theorem changed_reports (transportPathId : Option UInt8) (connectionEpoch : UInt64) (config : RelaySessionConfig)
    (waits : RelaySessionWaits) : (changes : List SessionChange) →
    Reports (measured changes) (changed transportPathId connectionEpoch config waits changes)
  | [] => ⟨rfl, rfl, (orderStat?_nil _).symm, (orderStat?_nil _).symm⟩
  | c :: changes => (changed_reports transportPathId connectionEpoch config waits changes).apply c

/-- The samples are the latest `min n 128` of `n` round-trip times, and the percentiles stand at their ranks among
them. -/
structure ReportsRecent (rtts : List UInt64) (session : TimedSession) : Prop where
  length : session.rttSamplesMs.length = min rtts.length 128
  recent : session.rttSamplesMs = rtts.rtake (min rtts.length 128)
  inRange : ∀ q ∈ [50, 95], percentileIndex (min rtts.length 128) q < (session.rttSamplesMs.mergeSort (· ≤ ·)).length
  percentiles : ∃ p50 p95, session.rtts.rttP50Ms = some p50 ∧ session.rtts.rttP95Ms = some p95 ∧
    Ranks session.rttSamplesMs (percentileIndex (min rtts.length 128) 50) p50 ∧
    Ranks session.rttSamplesMs (percentileIndex (min rtts.length 128) 95) p95 ∧ p50 ≤ p95

theorem Reports.recent {rtts : List UInt64} (h : Reports rtts session) (hne : rtts ≠ []) :
    ReportsRecent rtts session := by
  have hlen : session.rttSamplesMs.length = min rtts.length 128 := by rw [h.samples, length_rtake]
  have hpos : 0 < session.rttSamplesMs.length := by
    have := List.length_pos_iff.2 hne
    omega
  have hle : percentileIndex session.rttSamplesMs.length 50 ≤ percentileIndex session.rttSamplesMs.length 95 :=
    Nat.div_le_div_right (Nat.mul_le_mul_left _ (by decide))
  rcases orderStat?_isSome (percentileIndex_lt hpos (q := 50) (by decide)) with ⟨p50, h50⟩
  rcases orderStat?_isSome (percentileIndex_lt hpos (q := 95) (by decide)) with ⟨p95, h95⟩
  refine ⟨hlen, ?_, ?_, p50, p95, h.p50.trans h50, h.p95.trans h95, ?_, ?_, orderStat?_mono hle h50 h95⟩
  · rw [h.samples, List.rtake, List.rtake, show rtts.length - min rtts.length 128 = rtts.length - 128 by omega]
  · intro q hq
    rw [List.length_mergeSort, ← hlen]
    exact percentileIndex_lt hpos (by fin_cases hq <;> decide)
  · rw [← hlen]
    exact orderStat?_ranks h50
  · rw [← hlen]
    exact orderStat?_ranks h95

/-- After one successful probe or more, in whatever else is done with the session. -/
theorem reports_recent_rtts (transportPathId : Option UInt8) (connectionEpoch : UInt64) (config : RelaySessionConfig)
    (waits : RelaySessionWaits) (changes : List SessionChange) (hne : measured changes ≠ []) :
    ReportsRecent (measured changes) (changed transportPathId connectionEpoch config waits changes) :=
  (changed_reports transportPathId connectionEpoch config waits changes).recent hne

/-- Two probes are answered, and a third one fails. -/
def probing : List SessionChange :=
  [.recordProbeFailure, .recordProbeSuccess (.fromMillis 10), .recordProbeSuccess (.fromMillis 20)]

theorem probing_reported : measured probing = [20, 10] ∧
    ReportsRecent (measured probing) (changed none 1 {} {} probing) :=
  ⟨by decide +kernel, reports_recent_rtts none 1 {} {} probing (by simp [measured, probing, SessionChange.rtt?])⟩

end TimedSession

/-! ## The loop -/

def Reply.rtt? : Reply → Option Duration
  | probed rtt => rtt
  | called _ => none

/-- A turn of the loop is some changes of its session, and the probe that it was answered is one of them. -/
theorem ReconnectLoop.resume_changes (loop : ReconnectLoop) (turn : Turn) : ∃ changes,
    (loop.resume turn).2.session = final TimedSession.apply loop.session changes ∧
      changes.filterMap SessionChange.rtt? = turn.answer.rtt?.toList := by
  obtain ⟨answer, requestId, sentAtMs⟩ := turn
  rcases answer with (_ | rtt) | (_ | epoch)
  · rcases hf : loop.session.recordProbeFailure with ⟨_ | _, rest⟩
    · rw [resume_tolerates requestId sentAtMs hf]
      refine ⟨[.startProbe requestId sentAtMs, .recordProbeFailure], ?_, rfl⟩
      have hrest : rest = loop.session.recordProbeFailure.2 := by rw [hf]
      subst hrest
      rfl
    · rw [resume_degrades requestId sentAtMs hf]
      refine ⟨[.attempt, .reconnecting, .recordProbeFailure], ?_, rfl⟩
      have hrest : rest = loop.session.recordProbeFailure.2 := by rw [hf]
      subst hrest
      rfl
  · exact ⟨[.startProbe requestId sentAtMs, .settle, .recordProbeSuccess rtt], rfl, rfl⟩
  · exact ⟨[.attempt, .reconnecting], rfl, rfl⟩
  · exact ⟨[.startProbe requestId sentAtMs, .reconnected epoch], rfl, rfl⟩

end Civ6LanBridge

/-
`crates/client-core/src/lib.rs`: `run_with_reconnect` over a whole run. Enough failed probes in a row begin
an outage, in which the callback is called again and again, after longer and longer waits, until it returns
an epoch; then everything is counted from the start again.
-/
import Civ6LanBridge.Client.Timing
import Civ6LanBridge.Lib.Past

namespace Civ6LanBridge

open Past

theorem toNat_saturatingAddU32 (a b : UInt32) :
    (saturatingAddU32 a b).toNat = min (a.toNat + b.toNat) (2 ^ 32 - 1) := by
  unfold saturatingAddU32
  rw [UInt32.toNat_ofNat']
  omega

/-! ## The waits -/

/-- How long an outage waits for the `k`-th call, counted from zero. -/
def RelaySessionWaits.backoff (waits : RelaySessionWaits) (k : Nat) : Duration :=
  min (waits.reconnectInitialBackoff * 2 ^ min k 5) waits.reconnectMaxBackoff

theorem RelaySessionWaits.backoff_mono (waits : RelaySessionWaits) {k k' : Nat} (h : k ≤ k') :
    waits.backoff k ≤ waits.backoff k' := by
  unfold backoff
  have hpow : 2 ^ min k 5 ≤ 2 ^ min k' 5 := Nat.pow_le_pow_right (by decide) (by omega)
  exact min_le_min_right _ (Nat.mul_le_mul_left _ hpow)

theorem RelaySessionWaits.backoff_le (waits : RelaySessionWaits) (k : Nat) :
    waits.backoff k ≤ waits.reconnectMaxBackoff :=
  min_le_right _ _

/-- The shift does not overflow, and a product that does is cut off at the longest wait anyway. -/
theorem TimedSession.reconnectDelay_eq {session : TimedSession} {k : Nat}
    (hk : session.snapshot.reconnectAttempts.toNat = min k (2 ^ 32 - 1)) :
    session.reconnectDelay = session.waits.backoff k := by
  have hmin : (min session.snapshot.reconnectAttempts 5).toNat = min k 5 := by
    show (if session.snapshot.reconnectAttempts ≤ 5 then session.snapshot.reconnectAttempts else 5).toNat = _
    split <;> rename_i hle <;> rw [UInt32.le_iff_toNat_le, hk] at hle
    · rw [hk]
      have : (5 : UInt32).toNat = 5 := rfl
      omega
    · have : (5 : UInt32).toNat = 5 := rfl
      omega
  have hshift : (1 <<< min session.snapshot.reconnectAttempts 5 : UInt32).toNat = 2 ^ min k 5 := by
    have hlt : 2 ^ min k 5 < 2 ^ 32 := Nat.pow_lt_pow_right (by decide) (by omega)
    rw [UInt32.toNat_shiftLeft, hmin, UInt32.toNat_one, Nat.one_shiftLeft,
      Nat.mod_eq_of_lt (show min k 5 < 32 by omega), Nat.mod_eq_of_lt hlt]
  unfold reconnectDelay RelaySessionWaits.backoff Duration.saturatingMul
  dsimp only
  rw [hshift, min_assoc, min_eq_right session.waits.inRange]

/-! ## Between two waits -/

namespace ReconnectLoop

/-- A probe draws a number for its envelope, and apart from that only ends the state `Disconnected`. -/
theorem probe_eq (session : TimedSession) (requestId : DiscoveryRequestId) (sentAtMs : UInt64) :
    probe session requestId sentAtMs =
      ([.send
          { «meta» :=
              { sequence := max (saturatingAdd session.nextSequence 1) 1
                connectionEpoch := session.snapshot.connectionEpoch
                sentAtMs
                pathId := session.config.pathId.or session.transportPathId }
            message := .relayProbe requestId }],
        { session :=
            { session with
              snapshot := { session.snapshot with
                state := if session.snapshot.state = .disconnected then .connecting else session.snapshot.state }
              nextSequence := max (saturatingAdd session.nextSequence 1) 1 }
          awaits := .probe }) := by
  unfold probe TimedSession.startProbe
  by_cases hs : session.snapshot.state = .disconnected
  · rw [if_pos hs, if_pos hs]
    rfl
  · rw [if_neg hs, if_neg hs]
    rfl

variable {config : RelaySessionConfig} {waits : RelaySessionWaits} {session : TimedSession}
  {rest : RelaySession} {n : Nat}

theorem settle_snapshot (session : RelaySession) : session.settle.snapshot =
    { session.snapshot with
      state :=
        if session.snapshot.state = .resynced ∨ session.snapshot.state = .roomJoined then .healthy
        else session.snapshot.state } := by
  unfold RelaySession.settle
  split <;> rfl

theorem settle_frame (session : RelaySession) :
    session.settle.config = session.config ∧ session.settle.nextSequence = session.nextSequence := by
  unfold RelaySession.settle
  split <;> exact ⟨rfl, rfl⟩

theorem recordProbeFailure_frame (session : RelaySession) :
    session.recordProbeFailure.2.snapshot.connectionEpoch = session.snapshot.connectionEpoch ∧
      session.recordProbeFailure.2.nextSequence = session.nextSequence := by
  unfold RelaySession.recordProbeFailure
  dsimp only
  split <;> exact ⟨rfl, rfl⟩

/-- Up to the threshold the count of failures does not overflow. -/
theorem toNat_failed {session : RelaySession} (hn : session.snapshot.consecutiveProbeFailures.toNat = n)
    (h : n + 1 ≤ max 1 session.config.degradedAfterFailures.toNat) :
    (saturatingAddU32 session.snapshot.consecutiveProbeFailures 1).toNat = n + 1 := by
  have hlt := session.config.degradedAfterFailures.toNat_lt
  rw [toNat_saturatingAddU32, UInt32.toNat_one, hn]
  omega

/-- Below the threshold a failure is only counted. -/
theorem recordProbeFailure_tolerates {session : RelaySession} (hn : session.snapshot.consecutiveProbeFailures.toNat = n)
    (h : n + 1 < max 1 session.config.degradedAfterFailures.toNat) : ∃ failures : UInt32, failures.toNat = n + 1 ∧
      session.recordProbeFailure =
        (false, { session with snapshot := { session.snapshot with consecutiveProbeFailures := failures } }) := by
  have hadd := toNat_failed hn h.le
  refine ⟨_, hadd, ?_⟩
  unfold RelaySession.recordProbeFailure
  refine if_neg fun hle => ?_
  have hle' : session.config.degradedAfterFailures.toNat ≤
    (saturatingAddU32 session.snapshot.consecutiveProbeFailures 1).toNat := hle
  omega

theorem recordProbeFailure_degrades {session : RelaySession} (hn : session.snapshot.consecutiveProbeFailures.toNat = n)
    (h : n + 1 = max 1 session.config.degradedAfterFailures.toNat) :
    ∃ failures : UInt32, session.recordProbeFailure =
      (true,
        { session with
          snapshot := { session.snapshot with state := .degraded, consecutiveProbeFailures := failures } }) := by
  have hadd := toNat_failed hn h.le
  refine ⟨saturatingAddU32 session.snapshot.consecutiveProbeFailures 1, ?_⟩
  unfold RelaySession.recordProbeFailure
  refine if_pos ?_
  show session.config.degradedAfterFailures.toNat ≤ (saturatingAddU32 session.snapshot.consecutiveProbeFailures 1).toNat
  omega

theorem recordProbeFailure_state {session : RelaySession} (h : session.recordProbeFailure = (false, rest)) :
    rest.snapshot.state = session.snapshot.state := by
  unfold RelaySession.recordProbeFailure at h
  dsimp only at h
  split at h <;> cases h
  rfl

/-- A call of the callback is made after the wait for it, in the state `Reconnecting`. -/
theorem callback_spec {k : Nat} (hk : session.snapshot.reconnectAttempts.toNat = min k (2 ^ 32 - 1)) :
    (∃ snapshot rtts, (callback session).1 = [.sleep (session.waits.backoff k), .reconnect snapshot rtts] ∧
      snapshot.state = .reconnecting) ∧
    (callback session).2.session.snapshot.reconnectAttempts.toNat = min (k + 1) (2 ^ 32 - 1) := by
  have hdelay : (session.change (·.setState .reconnecting)).reconnectDelay = session.waits.backoff k :=
    TimedSession.reconnectDelay_eq hk
  constructor
  · rw [← hdelay]
    exact ⟨_, _, rfl, rfl⟩
  · show (saturatingAddU32 session.snapshot.reconnectAttempts 1).toNat = _
    rw [toNat_saturatingAddU32, UInt32.toNat_one, hk]
    omega

/-! ## A run -/

/-- `run_with_reconnect` has started its first probe. Until then no probe has failed, and nothing was tried about it. -/
def Starts (config : RelaySessionConfig) (waits : RelaySessionWaits) (loop : ReconnectLoop) : Prop :=
  ∃ session requestId sentAtMs, session.config = config ∧ session.waits = waits ∧
    session.snapshot.consecutiveProbeFailures = 0 ∧ session.snapshot.reconnectAttempts = 0 ∧
    loop = (probe session requestId sentAtMs).2

/-- The loop gets the answer that it waits for. -/
def Resumes (loop : ReconnectLoop) (turn : Turn) (loop' : ReconnectLoop) : Prop :=
  turn.answer.to = loop.awaits ∧ loop' = (loop.resume turn).2

abbrev Moves := List (Move ReconnectLoop Turn)

/-- What the loop does between two waits. -/
def acts (m : Move ReconnectLoop Turn) : List Action := (m.before.resume m.event).1

/-- The loop calls its callback. -/
def Calls (m : Move ReconnectLoop Turn) : Prop := ∃ snapshot rtts, .reconnect snapshot rtts ∈ acts m

/-- The callback has returned an epoch. -/
def Reconnected (m : Move ReconnectLoop Turn) : Prop :=
  ∃ connectionEpoch, m.event.answer = .called (some connectionEpoch)

/-- Failed probes since the last one that was answered, or since the last reconnect. -/
def failures : Moves → Nat
  | [] => 0
  | m :: h =>
    match m.event.answer with
    | .probed none => failures h + 1
    | .called none => failures h
    | .probed (some _) | .called (some _) => 0

/-- Calls that have failed since the last one that returned an epoch, which is the end of an outage. -/
def calls : Moves → Nat
  | [] => 0
  | m :: h =>
    match m.event.answer with
    | .called none => calls h + 1
    | .called (some _) => 0
    | .probed _ => calls h

theorem pos_threshold (config : RelaySessionConfig) : 0 < max 1 config.degradedAfterFailures.toNat := by omega

/-- The counters of the session, as far as they are still looked at. -/
structure Tracks (config : RelaySessionConfig) (waits : RelaySessionWaits) (h : Moves) (loop : ReconnectLoop) :
    Prop where
  config_eq : loop.session.config = config
  waits_eq : loop.session.waits = waits
  probing : loop.awaits = .probe → loop.session.snapshot.consecutiveProbeFailures.toNat = failures h ∧
    failures h < max 1 config.degradedAfterFailures.toNat ∧ loop.session.snapshot.reconnectAttempts = 0 ∧ calls h = 0
  calling : loop.awaits = .callback → loop.session.snapshot.reconnectAttempts.toNat = min (calls h + 1) (2 ^ 32 - 1)

/-- When the move calls the callback, and after which wait. -/
structure Paces (config : RelaySessionConfig) (waits : RelaySessionWaits) (m : Move ReconnectLoop Turn)
    (h : Moves) : Prop where
  begins : Calls m ∧ calls (m :: h) = 0 ↔
    m.event.answer = .probed none ∧ failures (m :: h) = max 1 config.degradedAfterFailures.toNat
  waits : Calls m → ∃ snapshot rtts, acts m = [.sleep (waits.backoff (calls (m :: h))), .reconnect snapshot rtts] ∧
    snapshot.state = .reconnecting

variable {h : Moves} {m : Move ReconnectLoop Turn} {loop loop' : ReconnectLoop} {turn : Turn}
  {requestId : DiscoveryRequestId} {sentAtMs : UInt64}

theorem Tracks.probe (requestId : DiscoveryRequestId) (sentAtMs : UInt64) (hc : session.config = config)
    (hw : session.waits = waits) (hf : session.snapshot.consecutiveProbeFailures.toNat = failures h)
    (hlt : failures h < max 1 config.degradedAfterFailures.toNat) (ha : session.snapshot.reconnectAttempts = 0)
    (hcalls : calls h = 0) : Tracks config waits h (probe session requestId sentAtMs).2 := by
  rw [probe_eq]
  exact ⟨hc, hw, fun _ => ⟨hf, hlt, ha, hcalls⟩, nofun⟩

theorem Tracks.callback (hc : session.config = config) (hw : session.waits = waits)
    (hk : session.snapshot.reconnectAttempts.toNat = min (calls h) (2 ^ 32 - 1)) :
    Tracks config waits h (callback session).2 :=
  ⟨hc, hw, nofun, fun _ => (callback_spec hk).2⟩

/-- A move that only probes. -/
theorem Paces.quiet (hacts : acts m = (probe session requestId sentAtMs).1 ∨
    ∃ d, acts m = .sleep d :: (ReconnectLoop.probe session requestId sentAtMs).1)
    (hno : m.event.answer = .probed none → failures (m :: h) ≠ max 1 config.degradedAfterFailures.toNat) :
    Paces config waits m h := by
  have hcalls : ¬ Calls m := by
    rintro ⟨snapshot, rtts, hmem⟩
    rw [probe_eq] at hacts
    rcases hacts with hacts | ⟨d, hacts⟩ <;> rw [hacts] at hmem <;> simp at hmem
  exact ⟨⟨fun hm => (hcalls hm.1).elim, fun hm => (hno hm.1 hm.2).elim⟩, fun hm => (hcalls hm).elim⟩

/-- A move that calls the callback. -/
theorem Paces.calling (hacts : acts m = (callback session).1) (hw : session.waits = waits)
    (hk : session.snapshot.reconnectAttempts.toNat = min (calls (m :: h)) (2 ^ 32 - 1))
    (hfirst : calls (m :: h) = 0 ↔
      m.event.answer = .probed none ∧
        failures (m :: h) = max 1 config.degradedAfterFailures.toNat) : Paces config waits m h := by
  rcases (callback_spec hk).1 with ⟨snapshot, rtts, hspec, hstate⟩
  rw [← hacts, hw] at hspec
  have hcalls : Calls m := ⟨snapshot, rtts, by rw [hspec]; simp⟩
  exact ⟨(and_iff_right hcalls).trans hfirst, fun _ => ⟨snapshot, rtts, hspec, hstate⟩⟩

theorem Tracks.step (ht : Tracks config waits h loop) (hs : Resumes loop turn loop') :
    Tracks config waits ({ before := loop, event := turn, after := loop' } :: h) loop' ∧
      Paces config waits { before := loop, event := turn, after := loop' } h := by
  obtain ⟨hfits, rfl⟩ := hs
  obtain ⟨answer, requestId, sentAtMs⟩ := turn
  rcases answer with (_ | rtt) | (_ | epoch)
  · rcases ht.probing hfits.symm with ⟨hfailures, hlt, hattempts, hcalls⟩
    by_cases hmore : failures h + 1 < max 1 config.degradedAfterFailures.toNat
    · rcases recordProbeFailure_tolerates hfailures (ht.config_eq ▸ hmore) with ⟨failures', hfailures', hrec⟩
      have hres := resume_tolerates requestId sentAtMs hrec
      constructor
      · rw [hres]
        exact Tracks.probe requestId sentAtMs ht.config_eq ht.waits_eq hfailures' hmore hattempts hcalls
      · exact Paces.quiet (Or.inr ⟨_, congrArg Prod.fst hres⟩) fun _ => hmore.ne
    · have heq : failures h + 1 = max 1 config.degradedAfterFailures.toNat := by omega
      rcases recordProbeFailure_degrades hfailures (ht.config_eq ▸ heq) with ⟨failures', hrec⟩
      have hres := resume_degrades requestId sentAtMs hrec
      have hk : loop.session.snapshot.reconnectAttempts.toNat = min (calls h) (2 ^ 32 - 1) := by
        rw [hattempts, hcalls]
        rfl
      constructor
      · rw [hres]
        exact Tracks.callback ht.config_eq ht.waits_eq hk
      · exact Paces.calling (congrArg Prod.fst hres) ht.waits_eq hk (iff_of_true hcalls ⟨rfl, heq⟩)
  -- an answer to the probe ends the count of failures
  · rcases ht.probing hfits.symm with ⟨-, -, hattempts, hcalls⟩
    constructor
    · refine Tracks.probe requestId sentAtMs ?_ ht.waits_eq ?_ (pos_threshold config) ?_ hcalls
      · exact (settle_frame _).1.trans ht.config_eq
      · show (RelaySession.settle _).snapshot.consecutiveProbeFailures.toNat = 0
        rw [settle_snapshot]
        rfl
      · show (RelaySession.settle _).snapshot.reconnectAttempts = 0
        rw [settle_snapshot]
        exact hattempts
    · exact Paces.quiet (Or.inr ⟨_, rfl⟩) nofun
  · have hk := ht.calling hfits.symm
    constructor
    · exact Tracks.callback ht.config_eq ht.waits_eq hk
    · exact Paces.calling rfl ht.waits_eq hk (iff_of_false (Nat.succ_ne_zero _) fun hm => nomatch hm.1)
  · constructor
    · exact Tracks.probe requestId sentAtMs ht.config_eq ht.waits_eq rfl (pos_threshold config) rfl rfl
    · exact Paces.quiet (Or.inl rfl) nofun

theorem Starts.tracks (hs : Starts config waits loop) : Tracks config waits [] loop := by
  obtain ⟨session, requestId, sentAtMs, hc, hw, hf, ha, rfl⟩ := hs
  exact Tracks.probe requestId sentAtMs hc hw (congrArg UInt32.toNat hf) (pos_threshold config) ha rfl

theorem Run.tracks (hr : Run (Starts config waits) Resumes h loop) : Tracks config waits h loop := by
  induction hr with
  | init hs => exact hs.tracks
  | step _ hs ih => exact (ih.step hs).1

theorem Run.paces (hr : Run (Starts config waits) Resumes (m :: h) loop) : Paces config waits m h := by
  cases hr with
  | step hr hs => exact ((Run.tracks hr).step hs).2

/-! ## Since the callback has returned an epoch -/

/-- The envelopes that the loop has sent, in order. -/
def sent (h : Moves) : List RelayEnvelope := (h.reverse.flatMap acts).filterMap Action.sends?

theorem sent_cons (m : Move ReconnectLoop Turn) (h : Moves) :
    sent (m :: h) = sent h ++ (acts m).filterMap Action.sends? := by
  simp [sent, List.flatMap_append, List.filterMap_append]

/-- The envelopes carry the epoch, and are numbered from one on. -/
def Numbered (connectionEpoch : UInt64) (envelopes : List RelayEnvelope) : Prop :=
  ∀ i envelope, envelopes[i]? = some envelope →
    envelope.meta.connectionEpoch = connectionEpoch ∧ envelope.meta.sequence.toNat = min (i + 1) (2 ^ 64 - 1)

/-- The session of a loop that has sent the envelopes since its callback returned the epoch. -/
structure Renewed (connectionEpoch : UInt64) (envelopes : List RelayEnvelope) (session : TimedSession) : Prop where
  epoch : session.snapshot.connectionEpoch = connectionEpoch
  next : session.nextSequence.toNat = min envelopes.length (2 ^ 64 - 1)
  numbered : Numbered connectionEpoch envelopes

theorem Renewed.probe {connectionEpoch : UInt64} {envelopes : List RelayEnvelope}
    (hn : Renewed connectionEpoch envelopes session) (requestId : DiscoveryRequestId) (sentAtMs : UInt64) :
    Renewed connectionEpoch (envelopes ++ (ReconnectLoop.probe session requestId sentAtMs).1.filterMap Action.sends?)
      (ReconnectLoop.probe session requestId sentAtMs).2.session := by
  have hseq := toNat_next hn.next
  rw [probe_eq]
  refine ⟨hn.epoch, ?_, ?_⟩
  · rw [hseq, List.length_append]
    rfl
  · intro i envelope hi
    rcases lt_or_ge i envelopes.length with hlt | hge
    · exact hn.numbered i envelope ((List.getElem?_append_left hlt).symm.trans hi)
    -- the new envelope stands at the end
    · rw [List.getElem?_append_right hge] at hi
      rcases List.getElem?_eq_some_iff.1 hi with ⟨hlast, rfl⟩
      have hi' : i = envelopes.length := by
        have hlast' : i - envelopes.length < 1 := hlast
        omega
      subst hi'
      simp only [Nat.sub_self]
      exact ⟨hn.epoch, hseq⟩

theorem Renewed.of_frame {connectionEpoch : UInt64} {envelopes : List RelayEnvelope} {session' : TimedSession}
    (hn : Renewed connectionEpoch envelopes session)
    (he : session'.snapshot.connectionEpoch = session.snapshot.connectionEpoch)
    (hs : session'.nextSequence = session.nextSequence) : Renewed connectionEpoch envelopes session' :=
  ⟨he.trans hn.epoch, hs ▸ hn.next, hn.numbered⟩

theorem Renewed.step {connectionEpoch : UInt64} {envelopes : List RelayEnvelope}
    (hn : Renewed connectionEpoch envelopes loop.session) (hno : ∀ epoch, turn.answer ≠ .called (some epoch)) :
    Renewed connectionEpoch (envelopes ++ (loop.resume turn).1.filterMap Action.sends?)
      (loop.resume turn).2.session := by
  obtain ⟨answer, requestId, sentAtMs⟩ := turn
  -- the callback changes neither the epoch nor the numbers, and sends nothing
  have hcallback (session : TimedSession) (hs : Renewed connectionEpoch envelopes session) :
      Renewed connectionEpoch (envelopes ++ (callback session).1.filterMap Action.sends?)
        (callback session).2.session := by
    rw [show (callback session).1.filterMap Action.sends? = [] from rfl, List.append_nil]
    exact hs.of_frame rfl rfl
  rcases answer with (_ | rtt) | (_ | epoch)
  · rcases hf : loop.session.recordProbeFailure with ⟨degraded, rest⟩
    have hrest : Renewed connectionEpoch envelopes { loop.session with toRelaySession := rest } := by
      have hframe := recordProbeFailure_frame loop.session.toRelaySession
      rw [hf] at hframe
      exact hn.of_frame hframe.1 hframe.2
    cases degraded with
    | false =>
      rw [resume_tolerates requestId sentAtMs hf]
      exact hrest.probe requestId sentAtMs
    | true =>
      rw [resume_degrades requestId sentAtMs hf]
      exact hcallback _ hrest
  · have hsettled : Renewed connectionEpoch envelopes ((loop.session.recordProbeSuccess rtt).change .settle) := by
      refine hn.of_frame ?_ (settle_frame _).2
      show (RelaySession.settle _).snapshot.connectionEpoch = _
      rw [settle_snapshot]
      rfl
    exact hsettled.probe requestId sentAtMs
  · exact hcallback _ hn
  · exact (hno epoch rfl).elim

/-- The first envelope is the one of the probe that is sent at once. -/
theorem renewed {connectionEpoch : UInt64} (h : turn.answer = .called (some connectionEpoch)) :
    Renewed connectionEpoch ((loop.resume turn).1.filterMap Action.sends?) (loop.resume turn).2.session := by
  obtain ⟨_, requestId, sentAtMs⟩ := turn
  subst h
  have hfresh : Renewed connectionEpoch [] (loop.session.change (·.reconnected connectionEpoch)) :=
    ⟨rfl, rfl, fun i envelope hi => nomatch hi⟩
  exact hfresh.probe requestId sentAtMs

theorem Run.renewed {recent old : Moves} {connectionEpoch : UInt64}
    (hr : Run (Starts config waits) Resumes (recent ++ m :: old) loop)
    (hm : m.event.answer = .called (some connectionEpoch)) (hno : ∀ x ∈ recent, ¬ Reconnected x) :
    Renewed connectionEpoch (sent (recent ++ [m])) loop.session := by
  induction recent generalizing loop with
  | nil =>
    cases hr with
    | step _ hs =>
      rcases hs with ⟨-, rfl⟩
      rw [List.nil_append, sent_cons]
      exact ReconnectLoop.renewed hm
  | cons x recent ih =>
    cases hr with
    | step hr hs =>
      rcases hs with ⟨-, rfl⟩
      rw [List.cons_append, sent_cons]
      exact (ih hr fun y hy => hno y (List.mem_cons_of_mem _ hy)).step fun epoch he =>
        hno _ List.mem_cons_self ⟨epoch, he⟩

/-- Until a probe is answered, failures below the threshold leave the session `Resynced`. -/
theorem Run.resynced {mid old : Moves} (hr : Run (Starts config waits) Resumes (mid ++ m :: old) loop)
    (hm : Reconnected m)
    (hno : ∀ x ∈ mid, ¬ Reconnected x ∧ ∀ rtt, x.event.answer ≠ .probed (some rtt)) (ha : loop.awaits = .probe) :
    loop.session.snapshot.state = .resynced := by
  induction mid generalizing loop with
  | nil =>
    rcases hm with ⟨epoch, hm⟩
    cases hr with
    | @step _ before _ turn _ hs =>
      obtain ⟨_, requestId, sentAtMs⟩ := turn
      obtain ⟨-, rfl⟩ := hs
      cases hm
      show
        (ReconnectLoop.probe (before.session.change (·.reconnected epoch))
          requestId sentAtMs).2.session.snapshot.state = _
      rw [probe_eq]
      rfl
  | cons x mid ih =>
    rcases hno x List.mem_cons_self with ⟨hnot, hunanswered⟩
    cases hr with
    | @step _ before _ turn hr hs =>
      obtain ⟨answer, requestId, sentAtMs⟩ := turn
      obtain ⟨hfits, rfl⟩ := hs
      rcases answer with (_ | rtt) | (_ | epoch)
      · have hstate := ih hr (fun y hy => hno y (List.mem_cons_of_mem _ hy)) hfits.symm
        rcases hf : before.session.recordProbeFailure with ⟨_ | _, rest⟩
        · rw [resume_tolerates requestId sentAtMs hf, probe_eq]
          show (if rest.snapshot.state = .disconnected then _ else rest.snapshot.state) = _
          rw [recordProbeFailure_state hf, hstate]
          rfl
        · rw [resume_degrades requestId sentAtMs hf] at ha
          cases ha
      · exact (hunanswered rtt rfl).elim
      · cases ha
      · exact (hnot ⟨epoch, rfl⟩).elim

theorem calls_mono {recent : Moves} (hno : ∀ x ∈ recent, ¬ Reconnected x) : calls h ≤ calls (recent ++ h) := by
  induction recent with
  | nil => exact Nat.le_refl _
  | cons x recent ih =>
    have hle := ih fun y hy => hno y (List.mem_cons_of_mem _ hy)
    obtain ⟨_, ⟨answer, _, _⟩, _⟩ := x
    rcases answer with _ | (_ | epoch)
    · exact hle
    · exact Nat.le_succ_of_le hle
    · exact (hno _ List.mem_cons_self ⟨epoch, rfl⟩).elim

/-! ## The whole run -/

/-- When the callback is called, after which waits, and what its success is followed by. -/
structure BacksOff (config : RelaySessionConfig) (waits : RelaySessionWaits) (h : Moves) : Prop where
  paces : ∀ recent m old, h = recent ++ m :: old → Paces config waits m old
  rises : ∀ recent m mid m' old d d', h = recent ++ m :: (mid ++ m' :: old) → (∀ x ∈ m :: mid, ¬ Reconnected x) →
    Calls m → Calls m' → .sleep d ∈ acts m → .sleep d' ∈ acts m' → d' ≤ d
  bounded : ∀ m ∈ h, Calls m → ∀ d, .sleep d ∈ acts m → d ≤ waits.reconnectMaxBackoff
  resets : ∀ m ∈ h, Reconnected m →
    m.after.session.snapshot.consecutiveProbeFailures = 0 ∧ m.after.session.snapshot.reconnectAttempts = 0
  numbers : ∀ late recent m old connectionEpoch, h = late ++ (recent ++ m :: old) →
    m.event.answer = .called (some connectionEpoch) → (∀ x ∈ recent, ¬ Reconnected x) →
      Numbered connectionEpoch (sent (recent ++ [m]))
  heals : ∀ late m mid m' old, h = late ++ m :: (mid ++ m' :: old) → Reconnected m' →
    (∀ x ∈ mid, ¬ Reconnected x ∧ ∀ rtt, x.event.answer ≠ .probed (some rtt)) →
      (∃ rtt, m.event.answer = .probed (some rtt)) →
    m.after.session.snapshot.state = .healthy

theorem Paces.slept (hp : Paces config waits m h) (hm : Calls m) {d : Duration} (hd : .sleep d ∈ acts m) :
    d = waits.backoff (calls (m :: h)) := by
  rcases hp.waits hm with ⟨_, _, hacts, -⟩
  simpa [hacts] using hd

theorem Run.latest_paces {recent old : Moves} (hr : Run (Starts config waits) Resumes (recent ++ m :: old) loop) :
    Paces config waits m old := by
  rcases hr.earlier with ⟨_, hr⟩
  exact Run.paces hr

theorem resume_reconnected {connectionEpoch : UInt64} (h : turn.answer = .called (some connectionEpoch)) :
    (loop.resume turn).2.session.snapshot.consecutiveProbeFailures = 0 ∧
      (loop.resume turn).2.session.snapshot.reconnectAttempts = 0 := by
  obtain ⟨_, requestId, sentAtMs⟩ := turn
  subst h
  show
    (probe (loop.session.change (·.reconnected connectionEpoch))
      requestId sentAtMs).2.session.snapshot.consecutiveProbeFailures = 0 ∧
    (probe (loop.session.change (·.reconnected connectionEpoch))
      requestId sentAtMs).2.session.snapshot.reconnectAttempts = 0
  rw [probe_eq]
  exact ⟨rfl, rfl⟩

theorem resume_healthy {rtt : Duration} (h : turn.answer = .probed (some rtt))
    (hs : loop.session.snapshot.state = .resynced) :
    (loop.resume turn).2.session.snapshot.state = .healthy := by
  obtain ⟨_, requestId, sentAtMs⟩ := turn
  subst h
  have hstate : ((loop.session.recordProbeSuccess rtt).change .settle).snapshot.state = .healthy := by
    show (RelaySession.settle _).snapshot.state = _
    rw [settle_snapshot]
    exact if_pos (Or.inl hs)
  show (probe ((loop.session.recordProbeSuccess rtt).change .settle) requestId sentAtMs).2.session.snapshot.state = _
  rw [probe_eq]
  show (if ((loop.session.recordProbeSuccess rtt).change .settle).snapshot.state = .disconnected then _ else _) = _
  rw [hstate]
  rfl

theorem run_backs_off (hr : Run (Starts config waits) Resumes h loop) : BacksOff config waits h := by
  constructor
  · rintro recent m old rfl
    exact Run.latest_paces hr
  · rintro recent m mid m' old d d' rfl hno hm hm' hd hd'
    rcases hr.earlier with ⟨_, hr⟩
    have hp' : Paces config waits m' old := Run.latest_paces (show Run _ _ ((m :: mid) ++ m' :: old) _ from hr)
    rw [(Run.paces hr).slept hm hd, hp'.slept hm' hd']
    exact waits.backoff_mono (calls_mono hno)
  · intro m hmem hm d hd
    obtain ⟨recent, old, rfl⟩ := List.append_of_mem hmem
    rw [(Run.latest_paces hr).slept hm hd]
    exact waits.backoff_le _
  · rintro m hmem ⟨epoch, hm⟩
    rw [(hr.mem hmem).2.2]
    exact resume_reconnected hm
  · rintro late recent m old epoch rfl hm hno
    rcases hr.earlier with ⟨_, hr⟩
    exact (Run.renewed hr hm hno).numbered
  · rintro late m mid m' old rfl hm' hno ⟨rtt, hm⟩
    rcases hr.earlier with ⟨_, hr'⟩
    cases hr' with
    | step hr' hs =>
      obtain ⟨hfits, rfl⟩ := hs
      exact resume_healthy hm (Run.resynced hr' hm' hno (hfits.symm.trans (congrArg Reply.to hm)))

end ReconnectLoop

namespace ReconnectLoop.Example

def config : RelaySessionConfig := { degradedAfterFailures := 1 }

def started : ReconnectLoop := (probe (.withConfig none 1 config {}) ⟨.ofByte 1⟩ 0).2

/-- The first probe fails, and so does the first call; then the callback returns an epoch, and a probe is answered. -/
def turns : List Turn :=
  [⟨.probed (some (.fromMillis 10)), ⟨.ofByte 4⟩, 3⟩, ⟨.called (some 7), ⟨.ofByte 3⟩, 2⟩,
    ⟨.called none, ⟨.ofByte 2⟩, 1⟩, ⟨.probed none, ⟨.ofByte 2⟩, 0⟩]

theorem started_starts : Starts config {} started :=
  ⟨.withConfig none 1 config {}, ⟨.ofByte 1⟩, 0, rfl, rfl, rfl, rfl, rfl⟩

def respond (loop : ReconnectLoop) (turn : Turn) : ReconnectLoop := (loop.resume turn).2

theorem turns_permitted : Permitted respond (fun loop turn => turn.answer.to = loop.awaits) started turns :=
  ⟨rfl, rfl, rfl, rfl, trivial⟩

theorem turns_back_off : BacksOff config {} (replay respond started turns) :=
  run_backs_off (run_replay _ _ started_starts turns_permitted)

end ReconnectLoop.Example

end Civ6LanBridge

/-
The rate limiter of `server/src/state.rs`: what its windows let through, for each key as if it had a limiter to itself.
-/
import Civ6LanBridge.Lib.Past
import Civ6LanBridge.Lib.Window
import Civ6LanBridge.Server.State

namespace Civ6LanBridge

open Std FinMap Past

/-! ## One call -/

/-- The window of a key as that of a limiter for one caller. -/
def RateWindow.toOpen (entry : RateWindow) : Window.Open := { startedAt := entry.startedAt, count := entry.count }

namespace FixedWindowRateLimiter

variable {limiter : FixedWindowRateLimiter} {key key' : String} {now now' : Instant}

/-- The window of a key at a time, unless it is over by then. -/
def openWindow (limiter : FixedWindowRateLimiter) (key : String) (now : Instant) : Option Window.Open :=
  ((limiter.entries[key]?).map RateWindow.toOpen).filter fun w => now < w.startedAt + limiter.window

@[simp] theorem allow_limit : (limiter.allow key now).2.limit = limiter.limit := by
  unfold allow
  dsimp only
  split <;> split <;> rfl

@[simp] theorem allow_window : (limiter.allow key now).2.window = limiter.window := by
  unfold allow
  dsimp only
  split <;> split <;> rfl

/-- The table after a call: what was stale is gone, and the key of the call has its window. -/
theorem allow_entries : ∃ entry, (limiter.allow key now).2.entries =
    (limiter.entries.filter fun _ entry => now - entry.startedAt < limiter.window).insert key entry := by
  unfold allow
  dsimp only
  split <;> split <;> exact ⟨_, rfl⟩

/-- A call is answered, and its window kept, as by a limiter of this key alone. -/
theorem allow_eq (hwin : 0 < limiter.window) :
    (limiter.allow key now).1 = (Window.call limiter.limit limiter.window (limiter.openWindow key now) now).1 ∧
      ((limiter.allow key now).2.entries[key]?).map RateWindow.toOpen =
        some (Window.call limiter.limit limiter.window (limiter.openWindow key now) now).2 := by
  have hentry : ∀ entry : RateWindow,
    (((limiter.entries.filter fun _ entry => now - entry.startedAt < limiter.window)[key]?).getD
      { startedAt := now, count := 0 }) = entry →
        ¬ limiter.window ≤ now - entry.startedAt ∧
          Window.covering limiter.window (limiter.openWindow key now) now = entry.toOpen := by
    rintro entry rfl
    rw [openWindow, Window.covering_filter, ExtTreeMap.getElem?_filter']
    cases hk : limiter.entries[key]? with
    | none => exact ⟨by simpa [Nat.pos_iff_ne_zero] using hwin, rfl⟩
    | some entry =>
      by_cases h : now - entry.startedAt < limiter.window
      · rw [Option.filter_some_pos (by simpa using h)]
        exact ⟨Nat.not_le.2 h, if_pos ((Window.stale_iff hwin).1 h)⟩
      · rw [Option.filter_some_neg (by simpa using h)]
        exact ⟨by simpa [Nat.pos_iff_ne_zero] using hwin, if_neg fun hn => h ((Window.stale_iff hwin).2 hn)⟩
  unfold allow Window.call
  dsimp only
  generalize hget : ((limiter.entries.filter fun _ entry => now - entry.startedAt < limiter.window)[key]?).getD
    { startedAt := now, count := 0 } = entry
  rcases hentry entry hget with ⟨hlive, hcov⟩
  rw [if_neg hlive, hcov]
  by_cases hfull : limiter.limit ≤ entry.count
  · rw [if_pos hfull, if_neg (show ¬ entry.toOpen.count < limiter.limit from Nat.not_lt.2 hfull)]
    exact ⟨rfl, by simp⟩
  · rw [if_neg hfull, if_pos (show entry.toOpen.count < limiter.limit from Nat.not_le.1 hfull)]
    refine ⟨rfl, ?_⟩
    dsimp only
    rw [ExtTreeMap.getElem?_insert_self]
    rfl

theorem allow_other (hne : key ≠ key') : (limiter.allow key now).2.entries[key']? =
    (limiter.entries[key']?).filter fun entry => now - entry.startedAt < limiter.window := by
  rcases @allow_entries limiter key now with ⟨entry, h⟩
  rw [h, getElem?_insert_ne hne, ExtTreeMap.getElem?_filter']

/-- Nobody else notices the call. -/
theorem allow_openWindow (hwin : 0 < limiter.window) (hne : key ≠ key') (hle : now ≤ now') :
    (limiter.allow key now).2.openWindow key' now' = limiter.openWindow key' now' := by
  unfold openWindow
  rw [allow_other hne, allow_window]
  cases limiter.entries[key']? with
  | none => rfl
  | some entry =>
    by_cases h : now - entry.startedAt < limiter.window
    · rw [Option.filter_some_pos (by simpa using h)]
    · rw [Option.filter_some_neg (by simpa using h)]
      -- a window that is over stays over
      have hover : ¬ now' < entry.toOpen.startedAt + limiter.window := fun hlt =>
        h ((Window.stale_iff hwin).2 (hle.trans_lt hlt))
      exact (Option.filter_some_neg (by simpa using hover)).symm

/-- What a call leaves in the table is not over. -/
theorem allow_live (hwin : 0 < limiter.window) {entry : RateWindow}
    (h : (limiter.allow key now).2.entries[key']? = some entry) :
    now - entry.startedAt < limiter.window := by
  by_cases e : key = key'
  · subst e
    have hown := (@allow_eq limiter key now hwin).2
    rw [h, Option.map_some, Option.some.injEq] at hown
    have hstart : entry.startedAt = _ := (congrArg Window.Open.startedAt hown).trans (Window.call_startedAt _ _)
    rcases @Window.covering_startedAt limiter.window (limiter.openWindow key now) now with e | ⟨w, -, e, hlt⟩
    · rw [hstart, e, Nat.sub_self]
      exact hwin
    · rw [hstart, e]
      exact (Window.stale_iff hwin).2 hlt
  · rw [allow_other e] at h
    exact of_decide_eq_true (Option.filter_eq_some_iff.1 h).2

/-! ## Any number of calls -/

/-- A call of `allow`, with the reading of the clock. -/
structure RateCall where
  key : String
  now : Instant

/-- The times at which a key was called. -/
def RateCall.timesOf (key : String) (calls : List RateCall) : List Nat := (calls.filter (·.key = key)).map (·.now)

def apply (limiter : FixedWindowRateLimiter) (call : RateCall) : FixedWindowRateLimiter :=
  (limiter.allow call.key call.now).2

/-- The limiter after some calls. -/
def served (limit : Nat) (window : Duration) (calls : List RateCall) : FixedWindowRateLimiter :=
  final apply (new limit window) calls

/-- What becomes of a new limiter under some calls, the latest first. -/
def history (limit : Nat) (window : Duration) (calls : List RateCall) : List (Move FixedWindowRateLimiter RateCall) :=
  replay apply (new limit window) calls

/-- The call is let through. -/
def Allowed (m : Move FixedWindowRateLimiter RateCall) : Bool := (m.before.allow m.event.key m.event.now).1

/-- The answers that a key gets. -/
def answers (key : String) (h : List (Move FixedWindowRateLimiter RateCall)) : List Bool :=
  (h.filter (·.event.key = key)).map Allowed

/-- How many calls of a key are let through from `a` on and before `b`. -/
def allowedWithin (key : String) (a b : Instant) (h : List (Move FixedWindowRateLimiter RateCall)) : Nat :=
  h.countP fun m => m.event.key = key ∧ Allowed m ∧ a ≤ m.event.now ∧ m.event.now < b

/-- At some time the key had a window with this start. -/
def Started (key : String) (start : Instant) (h : List (Move FixedWindowRateLimiter RateCall)) : Prop :=
  ∃ m ∈ h, ∃ entry, m.after.entries[key]? = some entry ∧ entry.startedAt = start

section

variable {limit : Nat} {window : Duration} {calls : List RateCall} {c : RateCall}

@[simp] theorem served_limit : (served limit window calls).limit = limit := by
  induction calls with
  | nil => rfl
  | cons c calls ih => exact allow_limit.trans ih

@[simp] theorem served_window : (served limit window calls).window = window := by
  induction calls with
  | nil => rfl
  | cons c calls ih => exact allow_window.trans ih

theorem timesOf_cons_self : RateCall.timesOf c.key (c :: calls) = c.now :: RateCall.timesOf c.key calls := by
  simp [RateCall.timesOf]

theorem timesOf_cons_ne (hne : c.key ≠ key) : RateCall.timesOf key (c :: calls) = RateCall.timesOf key calls := by
  simp [RateCall.timesOf, hne]

/-- The window of a key that is not over is the one that the key would have in a limiter to itself. -/
theorem served_openWindow (hwin : 0 < window) (hcalls : calls.Pairwise fun later earlier => earlier.now ≤ later.now)
    (hnow : ∀ c ∈ calls, c.now ≤ now) : (served limit window calls).openWindow key now =
      (Window.after limit window (RateCall.timesOf key calls)).filter fun w => now < w.startedAt + window := by
  induction calls generalizing now with
  | nil => simp [served, final, openWindow, new, RateCall.timesOf, Window.after]
  | cons c calls ih =>
    rcases List.pairwise_cons.1 hcalls with ⟨hle, hcalls⟩
    have hc : c.now ≤ now := hnow c List.mem_cons_self
    have hwin' : 0 < (served limit window calls).window := by rwa [served_window]
    show ((served limit window calls).allow c.key c.now).2.openWindow key now = _
    by_cases e : c.key = key
    · subst e
      rw [openWindow, (allow_eq hwin').2, ih hcalls hle, allow_window, served_limit, served_window, timesOf_cons_self]
      rw [Window.call, Window.covering_filter]
      rfl
    · rw [allow_openWindow hwin' e hc, ih hcalls fun x hx => (hle x hx).trans hc, timesOf_cons_ne e]

/-- The next call of a key is answered as by a limiter of this key alone. -/
theorem served_allow (hwin : 0 < window) (hcalls : calls.Pairwise fun later earlier => earlier.now ≤ later.now)
    (hnow : ∀ c ∈ calls, c.now ≤ now) :
    ((served limit window calls).allow key now).1 =
        (Window.call limit window (Window.after limit window (RateCall.timesOf key calls)) now).1 ∧
      (((served limit window calls).allow key now).2.entries[key]?).map RateWindow.toOpen =
        some (Window.call limit window (Window.after limit window (RateCall.timesOf key calls)) now).2 := by
  have heq := @allow_eq (served limit window calls) key now (by rwa [served_window])
  rw [served_openWindow hwin hcalls hnow, served_limit, served_window, Window.call, Window.covering_filter] at heq
  exact heq

theorem history_cons : history limit window (c :: calls) =
    { before := served limit window calls, event := c, after := served limit window (c :: calls) } ::
      history limit window calls := rfl

theorem history_allowedWithin (hwin : 0 < window) (hcalls : calls.Pairwise fun later earlier => earlier.now ≤ later.now)
    (key : String) (a b : Instant) : allowedWithin key a b (history limit window calls) =
      Window.inside a b (Window.granted limit window (RateCall.timesOf key calls)) := by
  induction calls with
  | nil => rfl
  | cons c calls ih =>
    rcases List.pairwise_cons.1 hcalls with ⟨hle, hcalls⟩
    have ih := ih hcalls
    by_cases e : c.key = key
    · subst e
      have hanswer := (@served_allow c.key c.now limit window calls hwin hcalls hle).1
      rw [history_cons, timesOf_cons_self, Window.granted, ← hanswer]
      unfold allowedWithin Window.inside Allowed at *
      rw [List.countP_cons, ih]
      cases ((served limit window calls).allow c.key c.now).1 <;> simp [List.countP_cons]
    · rw [timesOf_cons_ne e, ← ih, history_cons]
      exact List.countP_cons_of_neg (by simp [e])

theorem history_answers (hwin : 0 < window) (hcalls : calls.Pairwise fun later earlier => earlier.now ≤ later.now)
    (key : String) : answers key (history limit window calls) =
      Window.answers limit window (RateCall.timesOf key calls) := by
  induction calls with
  | nil => rfl
  | cons c calls ih =>
    rcases List.pairwise_cons.1 hcalls with ⟨hle, hcalls⟩
    have ih := ih hcalls
    unfold answers Allowed at *
    by_cases e : c.key = key
    · subst e
      rw [history_cons, List.filter_cons_of_pos (by simp), List.map_cons, ih, timesOf_cons_self]
      exact congrArg (· :: _) (served_allow hwin hcalls hle).1
    · rw [history_cons, List.filter_cons_of_neg (by simpa using e), ih, timesOf_cons_ne e]

/-- A window of the table covered a call of its key. -/
theorem served_startedAt (hwin : 0 < window) (hcalls : calls.Pairwise fun later earlier => earlier.now ≤ later.now)
    {key : String} {entry : RateWindow} (h : (served limit window calls).entries[key]? = some entry) :
    entry.startedAt ∈ Window.starts limit window (RateCall.timesOf key calls) := by
  induction calls with
  | nil => simp [served, final, new] at h
  | cons c calls ih =>
    rcases List.pairwise_cons.1 hcalls with ⟨hle, hcalls⟩
    by_cases e : c.key = key
    · subst e
      have hown := (@served_allow c.key c.now limit window calls hwin hcalls hle).2
      rw [show ((served limit window calls).allow c.key c.now).2.entries[c.key]? = some entry from h, Option.map_some,
        Option.some.injEq] at hown
      rw [timesOf_cons_self, Window.starts, ← hown]
      exact List.mem_cons_self
    · have hother := @allow_other (served limit window calls) c.key key c.now e
      rw [show ((served limit window calls).allow c.key c.now).2.entries[key]? = some entry from h] at hother
      rw [timesOf_cons_ne e]
      exact ih hcalls (Option.filter_eq_some_iff.1 hother.symm).1

theorem history_started (hwin : 0 < window) (hcalls : calls.Pairwise fun later earlier => earlier.now ≤ later.now)
    {key : String} {start : Instant} (h : Started key start (history limit window calls)) :
    start ∈ Window.starts limit window (RateCall.timesOf key calls) := by
  rcases h with ⟨m, hm, entry, hentry, rfl⟩
  rcases List.append_of_mem hm with ⟨recent, old, hsplit⟩
  rcases replay_split hsplit with ⟨calls₁, c, calls₀, rfl, -, rfl⟩
  have hmem := served_startedAt hwin (hcalls.sublist (List.sublist_append_right _ _)) hentry
  -- more calls only add to the windows
  have hmore : ∀ cs : List RateCall, Window.starts limit window (RateCall.timesOf key (c :: calls₀)) <:+
      Window.starts limit window (RateCall.timesOf key (cs ++ c :: calls₀)) := by
    intro cs
    induction cs with
    | nil => exact List.suffix_rfl
    | cons c' cs ih =>
      by_cases e : c'.key = key
      · subst e
        rw [List.cons_append, timesOf_cons_self]
        exact ih.trans (List.suffix_cons _ _)
      · rwa [List.cons_append, timesOf_cons_ne e]
  exact (hmore calls₁).subset hmem

/-! ## What the limiter keeps to -/

/-- Each key gets at most `limit` calls through in each of its windows, and at most twice as many in any other span of
that length; a refusal comes after `limit` calls that its window has let through; and the table holds nothing that is
over. -/
structure Limits (limit : Nat) (window : Duration) (h : List (Move FixedWindowRateLimiter RateCall)) : Prop where
  windows : ∀ (key : String) (start : Instant), Started key start h → allowedWithin key start (start + window) h ≤ limit
  spans : ∀ (key : String) (a : Instant), allowedWithin key a (a + window) h ≤ 2 * limit
  refused : ∀ (recent : List (Move FixedWindowRateLimiter RateCall)) m old, h = recent ++ m :: old → Allowed m = false →
    ∃ entry : RateWindow, m.after.entries[m.event.key]? = some entry ∧
      allowedWithin m.event.key entry.startedAt (entry.startedAt + window) old = limit
  thinned : ∀ m ∈ h, ∀ (key : String) (entry : RateWindow), m.after.entries[key]? = some entry →
    entry.startedAt ≤ m.event.now ∧ m.event.now < entry.startedAt + window

theorem timesOf_pairwise (hcalls : calls.Pairwise fun later earlier => earlier.now ≤ later.now) (key : String) :
    (RateCall.timesOf key calls).Pairwise fun later earlier => earlier ≤ later :=
  List.pairwise_map.2 (hcalls.filter _)

/-- Calls at times that never go back meet the limits, and each key is answered as if nobody else had called. -/
theorem limiter_keeps_limits (hwin : 0 < window)
    (hcalls : calls.Pairwise fun later earlier => earlier.now ≤ later.now) :
    Limits limit window (history limit window calls) ∧ ∀ key, answers key (history limit window calls) =
      answers key (history limit window (calls.filter (·.key = key))) := by
  have hthinned : ∀ m ∈ history limit window calls, ∀ (key : String) (entry : RateWindow),
      m.after.entries[key]? = some entry → entry.startedAt ≤ m.event.now ∧ m.event.now < entry.startedAt + window := by
    intro m hm key entry hentry
    rcases List.append_of_mem hm with ⟨recent, old, hsplit⟩
    rcases replay_split hsplit with ⟨_, c, calls₀, rfl, -, rfl⟩
    have hsuffix := hcalls.sublist (List.sublist_append_right _ _)
    have hlive := @allow_live (served limit window calls₀) c.key key c.now (by rwa [served_window]) entry hentry
    rw [served_window, Window.stale_iff hwin] at hlive
    refine ⟨?_, hlive⟩
    -- the window was opened by a call
    have htime := Window.starts_sub (served_startedAt hwin hsuffix hentry)
    rcases List.mem_map.1 htime with ⟨c', hc', hnow⟩
    rw [← hnow]
    rcases List.mem_cons.1 (List.mem_filter.1 hc').1 with rfl | hc'
    · exact le_rfl
    · exact (List.pairwise_cons.1 hsuffix).1 c' hc'
  refine ⟨⟨?_, ?_, ?_, hthinned⟩, fun key => ?_⟩
  · intro key start hstart
    rw [history_allowedWithin hwin hcalls]
    exact Window.window_le hwin (timesOf_pairwise hcalls key) (history_started hwin hcalls hstart)
  · intro key a
    rw [history_allowedWithin hwin hcalls]
    exact Window.span_le hwin (timesOf_pairwise hcalls key) a
  · intro recent m old hsplit hrefused
    rcases replay_split hsplit with ⟨calls₁, c, calls₀, rfl, rfl, rfl⟩
    rcases List.pairwise_cons.1 (hcalls.sublist (List.sublist_append_right _ _)) with ⟨hle, hcalls₀⟩
    have hcall := @served_allow c.key c.now limit window calls₀ hwin hcalls₀ hle
    rcases Option.map_eq_some_iff.1 hcall.2 with ⟨entry, hentry, hopen⟩
    have hlimit := Window.refused hwin (timesOf_pairwise hcalls₀ c.key) (hcall.1.symm.trans hrefused)
    rw [← hopen, ← history_allowedWithin hwin hcalls₀] at hlimit
    exact ⟨entry, hentry, hlimit⟩
  · have htimes : RateCall.timesOf key (calls.filter (·.key = key)) = RateCall.timesOf key calls := by
      simp [RateCall.timesOf, List.filter_filter]
    rw [history_answers hwin hcalls, history_answers hwin (hcalls.filter _), htimes]

end

/-! ## Two addresses -/

namespace Example

/-- Calls for two keys, the latest first. -/
def knocks : List RateCall :=
  [⟨"10.240.0.2", 12⟩, ⟨"10.240.0.3", 11⟩, ⟨"10.240.0.2", 9⟩, ⟨"10.240.0.2", 3⟩, ⟨"10.240.0.2", 0⟩]

end Example

open FixedWindowRateLimiter.Example in
/-- Of the three calls of one of them that are less than a window apart, not all need be let through. -/
theorem knocks_limited : allowedWithin "10.240.0.2" 3 13 (history 2 10 knocks) ≤ 2 * 2 := by
  have hlimits : Limits 2 10 (history 2 10 knocks) := (limiter_keeps_limits (by decide) (by decide)).1
  exact hlimits.spans "10.240.0.2" 3

end FixedWindowRateLimiter

end Civ6LanBridge

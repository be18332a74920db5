/-
Limiting by fixed windows, for one caller: a call that no open window covers opens one, and each window lets through so
many calls and no more. Each window keeps to the limit, and every other span of the same length to twice the limit,
since it meets at most two windows. Times are listed with the latest first.
-/
import Mathlib

namespace Window

/-! ## One caller -/

/-- A window that is open: when it was opened, and how many calls it has let through. -/
structure Open where
  startedAt : Nat
  count : Nat
deriving DecidableEq

variable (limit window : Nat)

/-- The window that covers a call at `now`. -/
def covering (w : Option Open) (now : Nat) : Open :=
  match w with
  | none => { startedAt := now, count := 0 }
  | some w => if now < w.startedAt + window then w else { startedAt := now, count := 0 }

/-- Whether a call is let through, and the open window afterwards. -/
def call (w : Option Open) (now : Nat) : Bool × Open :=
  let w := covering window w now
  if w.count < limit then (true, { w with count := w.count + 1 }) else (false, w)

/-- The window open after calls at the given times. -/
def after : List Nat → Option Open
  | [] => none
  | t :: ts => some (call limit window (after ts) t).2

/-- Which calls are let through. -/
def answers : List Nat → List Bool
  | [] => []
  | t :: ts => (call limit window (after limit window ts) t).1 :: answers ts

/-- The times of the calls that are let through. -/
def granted : List Nat → List Nat
  | [] => []
  | t :: ts => if (call limit window (after limit window ts) t).1 then t :: granted ts else granted ts

/-- When the windows were opened that covered the calls. -/
def starts : List Nat → List Nat
  | [] => []
  | t :: ts => (call limit window (after limit window ts) t).2.startedAt :: starts ts

/-- How many of the times are from `a` on and before `b`. -/
def inside (a b : Nat) (ts : List Nat) : Nat := ts.countP fun t => a ≤ t ∧ t < b

/-! ## Counting -/

section Inside

variable {limit window} {a b c d t : Nat} {ts : List Nat}

theorem inside_cons_of_mem (ha : a ≤ t) (hb : t < b) : inside a b (t :: ts) = inside a b ts + 1 :=
  List.countP_cons_of_pos (by simp [ha, hb])

theorem inside_cons_of_notMem (h : t < a ∨ b ≤ t) : inside a b (t :: ts) = inside a b ts :=
  List.countP_cons_of_neg (by simp only [decide_eq_true_eq]; omega)

/-- Fewer times are counted by fewer. -/
theorem inside_mono (h : ∀ x ∈ ts, a ≤ x → x < b → c ≤ x ∧ x < d) : inside a b ts ≤ inside c d ts :=
  List.countP_mono_left fun x hx hab => by
    simp only [decide_eq_true_eq] at hab ⊢
    exact h x hx hab.1 hab.2

theorem inside_split (a b c : Nat) (ts : List Nat) : inside a b ts ≤ inside a c ts + inside c b ts := by
  induction ts with
  | nil => simp [inside]
  | cons t ts ih =>
    simp only [inside, List.countP_cons, decide_eq_true_eq] at ih ⊢
    split <;> split <;> split <;> omega

theorem inside_eq_zero (h : ∀ x ∈ ts, x < a ∨ b ≤ x) : inside a b ts = 0 :=
  List.countP_eq_zero.2 fun x hx => by
    have := h x hx
    simp only [decide_eq_true_eq]
    omega

end Inside

/-! ## The bounds -/

/-- The calls let through at the times `g`, by windows opened at the times `σ`, of which `w` is the last. -/
structure Bounds (w : Open) (g σ : List Nat) : Prop where
  count_le : w.count ≤ limit
  count : inside w.startedAt (w.startedAt + window) g = w.count
  below : ∀ t ∈ g, t < w.startedAt + window
  before : ∀ a, a < w.startedAt → w.startedAt < a + window → inside a w.startedAt g ≤ limit
  apart : ∀ s ∈ σ, s = w.startedAt ∨ s + window ≤ w.startedAt
  windows : ∀ s ∈ σ, inside s (s + window) g ≤ limit
  spans : ∀ a, inside a (a + window) g ≤ 2 * limit

variable {limit window} {w : Open} {g σ : List Nat} {t : Nat}

/-- A span that reaches into the open window meets it and the window before. -/
theorem reach_le (hle : w.count ≤ limit) (hcount : inside w.startedAt (w.startedAt + window) g = w.count)
    (hbelow : ∀ t ∈ g, t < w.startedAt + window)
    (hbefore : ∀ a, a < w.startedAt → w.startedAt < a + window → inside a w.startedAt g ≤ limit) {a : Nat}
    (ha : w.startedAt < a + window) : inside a (a + window) g ≤ 2 * limit := by
  have hopen : ∀ b c, w.startedAt ≤ b → inside b c g ≤ limit := by
    intro b c hb
    have hsub : inside b c g ≤ inside w.startedAt (w.startedAt + window) g :=
      inside_mono fun x hx hbx _ => ⟨hb.trans hbx, hbelow x hx⟩
    omega
  by_cases h : a < w.startedAt
  · have hsplit := inside_split a (a + window) w.startedAt g
    have hb := hbefore a h ha
    have ho := hopen w.startedAt (a + window) le_rfl
    omega
  · have ho := hopen a (a + window) (by omega)
    omega

theorem Bounds.fresh (t : Nat) : Bounds limit window { startedAt := t, count := 0 } [] [t] where
  count_le := Nat.zero_le _
  count := rfl
  below := by simp
  before := fun _ _ _ => Nat.zero_le _
  apart := by simp
  windows := fun _ _ => Nat.zero_le _
  spans := fun _ => Nat.zero_le _

/-- A new window is opened once the last one is over. -/
theorem Bounds.reopen (h : Bounds limit window w g σ) (ht : w.startedAt + window ≤ t) :
    Bounds limit window { startedAt := t, count := 0 } g (t :: σ) := by
  have hzero : inside t (t + window) g = 0 := inside_eq_zero fun x hx => Or.inl ((h.below x hx).trans_le ht)
  refine ⟨Nat.zero_le _, hzero, fun x hx => ?_, fun a ha hat => ?_, ?_, ?_, h.spans⟩
  · have := h.below x hx
    show x < t + window
    omega
  · -- what is counted lies in the window that is over
    change t < a + window at hat
    have hsub : inside a t g ≤ inside w.startedAt (w.startedAt + window) g :=
      inside_mono fun x hx hax _ => ⟨by omega, h.below x hx⟩
    have := h.count
    have := h.count_le
    show inside a t g ≤ limit
    omega
  · intro s hs
    rcases List.mem_cons.1 hs with rfl | hs
    · exact Or.inl rfl
    · rcases h.apart s hs with rfl | h' <;> exact Or.inr (by show _ ≤ t; omega)
  · intro s hs
    rcases List.mem_cons.1 hs with rfl | hs
    · omega
    · exact h.windows s hs

/-- The open window covers another call. -/
theorem Bounds.cover (h : Bounds limit window w g σ) : Bounds limit window w g (w.startedAt :: σ) := by
  refine ⟨h.count_le, h.count, h.below, h.before, ?_, ?_, h.spans⟩
  · intro s hs
    rcases List.mem_cons.1 hs with rfl | hs
    · exact Or.inl rfl
    · exact h.apart s hs
  · intro s hs
    rcases List.mem_cons.1 hs with rfl | hs
    · rw [h.count]
      exact h.count_le
    · exact h.windows s hs

/-- The open window lets a call through. -/
theorem Bounds.grant (h : Bounds limit window w g σ) (hs : w.startedAt ≤ t) (ht : t < w.startedAt + window)
    (hn : w.count < limit) : Bounds limit window { w with count := w.count + 1 } (t :: g) σ := by
  have hcount : inside w.startedAt (w.startedAt + window) (t :: g) = w.count + 1 := by
    rw [inside_cons_of_mem hs ht, h.count]
  have hbelow : ∀ x ∈ t :: g, x < w.startedAt + window := by
    intro x hx
    rcases List.mem_cons.1 hx with rfl | hx
    · exact ht
    · exact h.below x hx
  have hbefore : ∀ a, a < w.startedAt → w.startedAt < a + window → inside a w.startedAt (t :: g) ≤ limit := by
    intro a ha hat
    rw [inside_cons_of_notMem (Or.inr hs)]
    exact h.before a ha hat
  refine ⟨hn, hcount, hbelow, hbefore, h.apart, fun s hs' => ?_, fun a => ?_⟩
  · rcases h.apart s hs' with rfl | hover
    · rw [hcount]
      exact hn
    · rw [inside_cons_of_notMem (Or.inr (hover.trans hs))]
      exact h.windows s hs'
  · by_cases ha : w.startedAt < a + window
    · exact reach_le (w := { w with count := w.count + 1 }) hn hcount hbelow hbefore ha
    · rw [inside_cons_of_notMem (Or.inr (by omega))]
      exact h.spans a

/-- With a positive window it does not matter on which side of a comparison the span is added. -/
theorem stale_iff {now start : Nat} (hwin : 0 < window) : now - start < window ↔ now < start + window := by omega

/-! ## Any number of calls -/

theorem covering_startedAt (w : Option Open) (now : Nat) :
    (covering window w now).startedAt = now ∨ ∃ w', w = some w' ∧ covering window w now = w' ∧
      now < w'.startedAt + window := by
  unfold covering
  split
  · exact Or.inl rfl
  · rename_i w'
    split
    · rename_i h
      exact Or.inr ⟨w', rfl, rfl, h⟩
    · exact Or.inl rfl

/-- A window that is over might as well not be there. -/
theorem covering_filter (window : Nat) (w : Option Open) (now : Nat) :
    covering window (w.filter fun w => now < w.startedAt + window) now = covering window w now := by
  cases w with
  | none => rfl
  | some w =>
    by_cases h : now < w.startedAt + window
    · rw [Option.filter_some_pos (by simpa using h)]
    · rw [Option.filter_some_neg (by simpa using h)]
      exact (if_neg h).symm

@[simp] theorem call_startedAt (w : Option Open) (now : Nat) :
    (call limit window w now).2.startedAt = (covering window w now).startedAt := by
  unfold call
  dsimp only
  split <;> rfl

/-- A window is opened by a call. -/
theorem after_startedAt {ts : List Nat} (h : after limit window ts = some w) : w.startedAt ∈ ts := by
  induction ts generalizing w with
  | nil => cases h
  | cons t ts ih =>
    rw [after, Option.some.injEq] at h
    subst h
    rw [call_startedAt]
    rcases @covering_startedAt window (after limit window ts) t with e | ⟨w', hw, e, -⟩
    · rw [e]
      exact List.mem_cons_self
    · rw [e]
      exact List.mem_cons_of_mem _ (ih hw)

theorem starts_sub {ts : List Nat} {s : Nat} (h : s ∈ starts limit window ts) : s ∈ ts := by
  induction ts with
  | nil => cases h
  | cons t ts ih =>
    rcases List.mem_cons.1 h with rfl | h
    · exact @after_startedAt limit window _ (t :: ts) rfl
    · exact List.mem_cons_of_mem _ (ih h)

/-- The window that covers the next call, before the call is answered. -/
theorem covering_bounds {ts : List Nat}
    (ih : ∀ w, after limit window ts = some w →
      Bounds limit window w (granted limit window ts) (starts limit window ts))
    (t : Nat) : Bounds limit window (covering window (after limit window ts) t) (granted limit window ts)
      ((covering window (after limit window ts) t).startedAt :: starts limit window ts) := by
  cases hw : after limit window ts with
  | none =>
    cases ts with
    | nil => exact .fresh t
    | cons t ts => cases hw
  | some w =>
    have hb := ih w hw
    by_cases h : t < w.startedAt + window
    · rw [show covering window (some w) t = w from if_pos h]
      exact hb.cover
    · rw [show covering window (some w) t = { startedAt := t, count := 0 } from if_neg h]
      exact hb.reopen (by omega)

/-- After calls at times that never go back, the bounds hold of what has been let through. -/
theorem bounds (hwin : 0 < window) : ∀ {ts : List Nat}, ts.Pairwise (fun later earlier => earlier ≤ later) →
    ∀ w, after limit window ts = some w → Bounds limit window w (granted limit window ts) (starts limit window ts)
  | [], _, w, h => by cases h
  | t :: ts, hts, w, h => by
    rcases List.pairwise_cons.1 hts with ⟨hle, hts⟩
    have hb := covering_bounds (fun w hw => bounds hwin hts w hw) t
    -- the call is inside the window that covers it
    have hin : (covering window (after limit window ts) t).startedAt ≤ t ∧
        t < (covering window (after limit window ts) t).startedAt + window := by
      rcases @covering_startedAt window (after limit window ts) t with e | ⟨w', hw, e, hlt⟩
      · rw [e]
        omega
      · rw [e]
        exact ⟨hle _ (after_startedAt hw), hlt⟩
    rw [after, Option.some.injEq] at h
    subst h
    rw [starts, granted, call_startedAt]
    unfold call
    dsimp only
    by_cases hn : (covering window (after limit window ts) t).count < limit
    · rw [if_pos hn]
      exact hb.grant hin.1 hin.2 hn
    · rw [if_neg hn]
      exact hb

/-- No window lets more through than it may. -/
theorem window_le (hwin : 0 < window) {ts : List Nat} (hts : ts.Pairwise fun later earlier => earlier ≤ later) {s : Nat}
    (hs : s ∈ starts limit window ts) : inside s (s + window) (granted limit window ts) ≤ limit := by
  cases ts with
  | nil => cases hs
  | cons t ts => exact (bounds hwin hts _ rfl).windows s hs

/-- Nor does any other span of that length let more than twice as many through. -/
theorem span_le (hwin : 0 < window) {ts : List Nat} (hts : ts.Pairwise fun later earlier => earlier ≤ later) (a : Nat) :
    inside a (a + window) (granted limit window ts) ≤ 2 * limit := by
  cases ts with
  | nil => exact Nat.zero_le _
  | cons t ts => exact (bounds hwin hts _ rfl).spans a

/-- A call is refused only when its window has let through as many calls as it may. -/
theorem refused (hwin : 0 < window) {ts : List Nat} (hts : ts.Pairwise fun later earlier => earlier ≤ later) {t : Nat}
    (h : (call limit window (after limit window ts) t).1 = false) :
    inside (call limit window (after limit window ts) t).2.startedAt
      ((call limit window (after limit window ts) t).2.startedAt + window) (granted limit window ts) = limit := by
  have hb : Bounds limit window _ _ _ := covering_bounds (bounds hwin hts) t
  rw [call_startedAt, hb.count]
  unfold call at h
  dsimp only at h
  split at h
  · cases h
  · have := hb.count_le
    omega

end Window

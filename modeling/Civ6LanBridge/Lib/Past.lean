/-
Runs with their history, and the past-time operator `Since`. A fact about the present state is traced
back to the move that established it and to what no move has done from then on (`Run.since`); the
other way round, what was established and never undone still holds (`Run.of_since`).
-/
import Mathlib

namespace Past

variable {σ ε : Type*}

/-- One step of a run: the states before and after it, and what happened. -/
structure Move (σ ε : Type*) where
  before : σ
  event : ε
  after : σ

/-- Runs from an initial state, with their moves, the latest first. -/
inductive Run (init : σ → Prop) (step : σ → ε → σ → Prop) : List (Move σ ε) → σ → Prop
  | init {s : σ} : init s → Run init step [] s
  | step {h : List (Move σ ε)} {s s' : σ} {e : ε} : Run init step h s → step s e s' →
      Run init step ({ before := s, event := e, after := s' } :: h) s'

variable {init : σ → Prop} {step : σ → ε → σ → Prop} {h : List (Move σ ε)} {m : Move σ ε} {s : σ} {P : σ → Prop}

/-! ## Invariants -/

/-- What holds initially and is preserved by every step holds at the end of every run. -/
theorem Run.invariant (h0 : ∀ s, init s → P s) (hs : ∀ s e s', P s → step s e s' → P s') (hr : Run init step h s) :
    P s := by
  induction hr with
  | init hi => exact h0 _ hi
  | step _ hst ih => exact hs _ _ _ ih hst

/-- The state before a move of a run is reached by a run, from which the move is a step. -/
theorem Run.mem (hr : Run init step h s) (hm : m ∈ h) :
    (∃ old, Run init step old m.before) ∧ step m.before m.event m.after := by
  induction hr with
  | init => cases hm
  | step hr hst ih =>
    rcases List.mem_cons.1 hm with rfl | hm
    · exact ⟨⟨_, hr⟩, hst⟩
    · exact ih hm

/-- What comes before the last moves of a run is a run. -/
theorem Run.earlier {recent old : List (Move σ ε)} (hr : Run init step (recent ++ old) s) :
    ∃ s', Run init step old s' := by
  induction recent generalizing s with
  | nil => exact ⟨s, hr⟩
  | cons m recent ih =>
    cases hr with
    | step hr _ => exact ih hr

/-- What holds initially, and which every move keeps that is not of one kind, holds throughout a run without such
moves. -/
theorem Run.kept {X : Move σ ε → Prop} (h0 : ∀ s, init s → P s)
    (hkeep : ∀ h s e s', Run init step h s → step s e s' → P s → ¬ X { before := s, event := e, after := s' } → P s')
    (hr : Run init step h s) (hm : ∀ m ∈ h, ¬ X m) : P s ∧ ∀ m ∈ h, P m.after := by
  induction hr with
  | init hi => exact ⟨h0 _ hi, by simp⟩
  | step hr hst ih =>
    rcases ih fun m hin => hm m (List.mem_cons_of_mem _ hin) with ⟨hp, hall⟩
    have hp' := hkeep _ _ _ _ hr hst hp (hm _ List.mem_cons_self)
    refine ⟨hp', fun m hin => ?_⟩
    rcases List.mem_cons.1 hin with rfl | hin
    · exact hp'
    · exact hall m hin

/-- If moves of that kind break it, it holds throughout exactly the runs without them. -/
theorem Run.kept_iff {X : Move σ ε → Prop} (h0 : ∀ s, init s → P s)
    (hkeep : ∀ h s e s', Run init step h s → step s e s' → P s → ¬ X { before := s, event := e, after := s' } → P s')
    (hbreak : ∀ h s e s', Run init step h s → step s e s' → X { before := s, event := e, after := s' } → ¬ P s')
    (hr : Run init step h s) : (∀ m ∈ h, P m.after) ↔ ∀ m ∈ h, ¬ X m := by
  constructor
  · intro hall m hin hx
    rcases hr.mem hin with ⟨⟨old, hold⟩, hst⟩
    exact hbreak _ _ _ _ hold hst hx (hall m hin)
  · exact fun hm => (hr.kept h0 hkeep hm).2

/-! ## Runs of given events -/

section Replay

variable (apply : σ → ε → σ) (allowed : σ → ε → Prop)

/-- The state after a list of events, the latest first. -/
def final (s : σ) : List ε → σ
  | [] => s
  | e :: es => apply (final s es) e

/-- The history of a list of events. -/
def replay (s : σ) : List ε → List (Move σ ε)
  | [] => []
  | e :: es => { before := final apply s es, event := e, after := final apply s (e :: es) } :: replay s es

/-- Each event is allowed when it happens. -/
def Permitted (s : σ) : List ε → Prop
  | [] => True
  | e :: es => allowed (final apply s es) e ∧ Permitted s es

instance decidablePermitted [hd : ∀ s e, Decidable (allowed s e)] (s : σ) :
    (es : List ε) → Decidable (Permitted apply allowed s es)
  | [] => .isTrue trivial
  | e :: es => @instDecidableAnd _ _ (hd _ e) (decidablePermitted s es)

theorem run_replay (h0 : init s) : ∀ {es : List ε}, Permitted apply allowed s es →
    Run init (fun s e s' => allowed s e ∧ s' = apply s e) (replay apply s es) (final apply s es)
  | [], _ => .init h0
  | _ :: _, hp => .step (run_replay h0 hp.2) ⟨hp.1, rfl⟩

variable {apply} {es : List ε} {recent old : List (Move σ ε)}

/-- Each of the events has its move. -/
theorem replay_mem {e : ε} (h : e ∈ es) : ∃ m ∈ replay apply s es, m.event = e := by
  induction es with
  | nil => cases h
  | cons e' es ih =>
    rcases List.mem_cons.1 h with rfl | h
    · exact ⟨_, List.mem_cons_self, rfl⟩
    · rcases ih h with ⟨m, hm, he⟩
      exact ⟨m, List.mem_cons_of_mem _ hm, he⟩

/-- A move of the history of a list of events belongs to one of them. -/
theorem replay_split (h : replay apply s es = recent ++ m :: old) : ∃ es₁ e es₀, es = es₁ ++ e :: es₀ ∧
    old = replay apply s es₀ ∧ m = { before := final apply s es₀, event := e, after := final apply s (e :: es₀) } := by
  induction es generalizing recent with
  | nil => simp [replay] at h
  | cons e es ih =>
    cases recent with
    | nil =>
      cases h
      exact ⟨[], e, es, rfl, rfl, rfl⟩
    | cons x recent =>
      rcases ih (List.cons.inj h).2 with ⟨es₁, e', es₀, rfl, hold, hm⟩
      exact ⟨e :: es₁, e', es₀, rfl, hold, hm⟩

end Replay

/-! ## Since -/

/-- `A` at some move, and `B` at every later one. -/
def Since (A B : Move σ ε → Prop) : List (Move σ ε) → Prop
  | [] => False
  | m :: h => A m ∨ B m ∧ Since A B h

variable {A B X : Move σ ε → Prop}

theorem since_iff : Since A B h ↔ ∃ recent m old, h = recent ++ m :: old ∧ A m ∧ ∀ x ∈ recent, B x := by
  induction h with
  | nil => simp [Since]
  | cons m h ih =>
    rw [Since, ih]
    constructor
    · rintro (hA | ⟨hB, recent, x, old, rfl, hA, hBs⟩)
      · exact ⟨[], m, h, rfl, hA, by simp⟩
      · refine ⟨m :: recent, x, old, rfl, hA, ?_⟩
        rintro y (_ | ⟨_, hy⟩)
        · exact hB
        · exact hBs y hy
    -- the move is the latest one, or it comes before that
    · rintro ⟨_ | ⟨y, recent⟩, x, old, e, hA, hBs⟩
      · cases e; exact Or.inl hA
      · cases e
        exact Or.inr ⟨hBs _ List.mem_cons_self, recent, x, old, rfl, hA, fun y hy => hBs y (List.mem_cons_of_mem _ hy)⟩

/-- Where some fact was established, it was established for some value. -/
theorem since_exists {α : Type*} {A : α → Move σ ε → Prop} (hs : Since (fun m => ∃ a, A a m) B h) :
    ∃ a, Since (A a) B h := by
  induction h with
  | nil => exact hs.elim
  | cons m h ih =>
    obtain ⟨a, ha⟩ | ⟨hb, hs⟩ := hs
    · exact ⟨a, Or.inl ha⟩
    · obtain ⟨a, ha⟩ := ih hs
      exact ⟨a, Or.inr ⟨hb, ha⟩⟩

theorem Since.imp {A' B' : Move σ ε → Prop} (hA : ∀ m, A m → A' m) (hB : ∀ m, B m → B' m) (hs : Since A B h) :
    Since A' B' h := by
  induction h with
  | nil => exact hs.elim
  | cons m h ih => exact Or.imp (hA m) (fun hs => ⟨hB m hs.1, ih hs.2⟩) hs

/-- What was established was established at some move. -/
theorem Since.mem (hs : Since A B h) : ∃ m ∈ h, A m := by
  obtain ⟨recent, m, old, rfl, ha, -⟩ := since_iff.1 hs
  exact ⟨m, by simp, ha⟩

/-- What cannot hold initially, and holds after a step only if the step established it or left it as it
was, was established at some move and left alone from then on. -/
theorem Run.since (h0 : ∀ s, init s → ¬ P s)
    (hs : ∀ h s e s', Run init step h s → step s e s' → P s' → A { before := s, event := e, after := s' } ∨
      B { before := s, event := e, after := s' } ∧ P s)
    (hr : Run init step h s) (hp : P s) : Since A B h := by
  induction hr with
  | init hi => exact h0 _ hi hp
  | step hr hst ih =>
    obtain hA | ⟨hB, hp'⟩ := hs _ _ _ _ hr hst hp
    · exact Or.inl hA
    · exact Or.inr ⟨hB, ih hp'⟩

/-- What was established and left alone from then on still holds, or else some move undid it in the one
way that is allowed to. -/
theorem Run.of_since
    (hA : ∀ h s e s', Run init step h s → step s e s' → A { before := s, event := e, after := s' } → P s')
    (hB : ∀ h s e s', Run init step h s → step s e s' → B { before := s, event := e, after := s' } → P s →
      P s' ∨ X { before := s, event := e, after := s' })
    (hr : Run init step h s) (hp : Since A B h) : P s ∨ ∃ m ∈ h, X m := by
  induction hr with
  | init => exact hp.elim
  | step hr hst ih =>
    obtain ha | ⟨hb, hp⟩ := hp
    · exact Or.inl (hA _ _ _ _ hr hst ha)
    · obtain hp | ⟨m, hm, hx⟩ := ih hp
      · exact (hB _ _ _ _ hr hst hb hp).imp_right fun hx => ⟨_, List.mem_cons_self, hx⟩
      · exact Or.inr ⟨m, List.mem_cons_of_mem _ hm, hx⟩

/-! ## Until -/

/-- What holds initially still holds, or there is the move that ended it. -/
theorem Run.until (h0 : ∀ s, init s → P s) (hr : Run init step h s) :
    P s ∨ ∃ recent m old, h = recent ++ m :: old ∧ step m.before m.event m.after ∧ P m.before ∧ ¬ P m.after := by
  induction hr with
  | init hi => exact Or.inl (h0 _ hi)
  | @step h s s' e _ hst ih =>
    obtain hp | ⟨recent, m, old, rfl, hm⟩ := ih
    · by_cases hp' : P s'
      · exact Or.inl hp'
      · exact Or.inr ⟨[], _, h, rfl, hst, hp, hp'⟩
    · exact Or.inr ⟨_ :: recent, m, old, rfl, hm⟩

end Past

/-
A run of a pool seen from one of its programs: the moves that are its own are the steps of the program one after
another, whatever happens in between. And a run seen from the shared state, where the labels of the programs say what
their steps do.
-/
import Civ6LanBridge.Lib.Outline

namespace Past

variable {σ ε : Type*} {init : σ → Prop} {step : σ → ε → σ → Prop} {h : List (Move σ ε)} {s : σ} {P : σ → Prop}
  {A B : Move σ ε → Prop}

/-- What holds after a step exactly if the step establishes it or leaves it as it was. -/
theorem Run.since_iff (h0 : ∀ s, init s → ¬ P s)
    (hs : ∀ h s e s', Run init step h s → step s e s' → (P s' ↔ A { before := s, event := e, after := s' } ∨
      B { before := s, event := e, after := s' } ∧ P s))
    (hr : Run init step h s) : P s ↔ Since A B h := by
  induction hr with
  | init hi => exact iff_of_false (h0 _ hi) id
  | step hr hst ih => rw [hs _ _ _ _ hr hst, Since, ih]

/-- A run may be continued by another. -/
theorem Run.append {h' : List (Move σ ε)} {s' : σ} (hr : Run init step h s) (hr' : Run (· = s) step h' s') :
    Run init step (h' ++ h) s' := by
  induction hr' with
  | init hs => subst hs; exact hr
  | step _ hst ih => exact .step ih hst

end Past

namespace Prog

variable {ι σ α β : Type} {perform : ι → σ → σ} {p q : Prog ι σ α} {label : ι} {s s' : σ} {steps : List (ι × σ × σ)}

/-! ## The steps of a program -/

/-- Steps of the program, the first one first, each with its label and the states before and after it, and what is
left. -/
inductive Performs : Prog ι σ α → List (ι × σ × σ) → Prog ι σ α → Prop
  | refl {p : Prog ι σ α} : Performs p [] p
  | snoc {p q : Prog ι σ α} {steps : List (ι × σ × σ)} {label : ι} {s : σ} : Performs p steps q →
      q.label? = some label → Performs p (steps ++ [(label, s, q.act s)]) (q.rest s)

/-- The first of the steps is the first that the program makes. -/
theorem Performs.inv (h : p.Performs steps q) : (steps = [] ∧ q = p) ∨
    ∃ label s steps', steps = (label, s, p.act s) :: steps' ∧ p.label? = some label ∧ (p.rest s).Performs steps' q := by
  induction h with
  | refl => exact Or.inl ⟨rfl, rfl⟩
  | @snoc q steps label s _ hl ih =>
    rcases ih with ⟨rfl, rfl⟩ | ⟨label₀, s₀, steps', rfl, hl₀, h⟩
    · exact Or.inr ⟨label, s, [], rfl, hl, .refl⟩
    · exact Or.inr ⟨label₀, s₀, steps' ++ [(label, s, q.act s)], rfl, hl₀, .snoc h hl⟩

/-- A program that is done makes no step. -/
theorem Performs.done {a : α} (h : (Prog.done a : Prog ι σ α).Performs steps q) : steps = [] ∧ q = .done a := by
  rcases h.inv with h | ⟨_, _, _, _, hl, _⟩
  · exact h
  · cases hl

/-- A program that has a step to make has made it, or is where it was. -/
theorem Performs.atomically {act : σ → β × σ} {next : β → Prog ι σ α}
    (h : (atomically label act next).Performs steps q) :
    (steps = [] ∧ q = Prog.atomically label act next) ∨
      ∃ s steps', steps = (label, s, (act s).2) :: steps' ∧ (next (act s).1).Performs steps' q := by
  rcases h.inv with h | ⟨l, s, steps', he, hl, h⟩
  · exact Or.inl h
  · cases hl
    exact Or.inr ⟨s, steps', he, h⟩

/-- The result, if the program is done. -/
def result? : Prog ι σ α → Option α
  | .done result => some result
  | .step _ _ _ => none

theorem result?_eq_some {a : α} : p.result? = some a ↔ p = .done a := by
  cases p <;> simp [result?]

/-! ## Labels that say what a step does -/

/-- Each step does what its label says. -/
def Follows (perform : ι → σ → σ) : Prog ι σ α → Prop
  | .done _ => True
  | .step label act next => ∀ s, act s = perform label s ∧ (next s).Follows perform

theorem follows_done (result : α) : (.done result : Prog ι σ α).Follows perform := trivial

theorem follows_atomically {act : σ → β × σ} {next : β → Prog ι σ α} (hact : ∀ s, (act s).2 = perform label s)
    (hnext : ∀ c, (next c).Follows perform) : (Prog.atomically label act next).Follows perform :=
  fun s => ⟨hact s, hnext _⟩

theorem Follows.act (h : p.Follows perform) (hl : p.label? = some label) (s : σ) : p.act s = perform label s := by
  cases p with
  | done result => cases hl
  | step l act next =>
    cases hl
    exact (h s).1

theorem Follows.rest (h : p.Follows perform) (s : σ) : (p.rest s).Follows perform := by
  cases p with
  | done result => trivial
  | step l act next => exact (h s).2

/-- Whatever happens, the labels of the program are of a kind. -/
def Speaks (kind : ι → Prop) : Prog ι σ α → Prop
  | .done _ => True
  | .step label _ next => kind label ∧ ∀ s, (next s).Speaks kind

variable {kind : ι → Prop}

theorem speaks_done (result : α) : (.done result : Prog ι σ α).Speaks kind := trivial

theorem speaks_atomically {act : σ → β × σ} {next : β → Prog ι σ α} (hl : kind label)
    (hnext : ∀ c, (next c).Speaks kind) :
    (Prog.atomically label act next).Speaks kind := ⟨hl, fun _ => hnext _⟩

theorem Speaks.of_label (h : p.Speaks kind) (hl : p.label? = some label) : kind label := by
  cases p with
  | done result => cases hl
  | step l act next =>
    cases hl
    exact h.1

theorem Speaks.performs (h : p.Speaks kind) (hp : p.Performs steps q) : q.Speaks kind := by
  induction hp with
  | refl => exact h
  | @snoc q steps l s _ _ ih =>
    cases q with
    | done result => trivial
    | step l act next => exact ih.2 s

end Prog

namespace Pool

open Past Prog

variable {ι σ α : Type} {ε : Type*} {env : ε → σ → σ} {perform : ι → σ → σ} {P Q Q' : Pool ι σ α}
  {h : List (Move (Pool ι σ α) (Turn ε))} {i j : Nat} {p : Prog ι σ α} {turn : Turn ε}

/-! ## Seen from a program -/

/-- The program at the index makes the move. -/
def By (i : Nat) (m : Move (Pool ι σ α) (Turn ε)) : Bool :=
  match m.event with
  | .program j => i == j
  | .environment _ => false

theorem by_iff {m : Move (Pool ι σ α) (Turn ε)} : By i m = true ↔ m.event = .program i := by
  unfold By
  cases m.event with
  | program j =>
    rw [beq_iff_eq, Turn.program.injEq]
    exact eq_comm
  | environment e => simp

/-- The moves of the program at the index, the first one first. -/
def own (i : Nat) (h : List (Move (Pool ι σ α) (Turn ε))) : List (ι × σ × σ) :=
  (h.filterMap fun m =>
    if By i m then (m.before.label i).map fun label => (label, m.before.shared, m.after.shared)
    else none).reverse

/-- A step of the program is a move of the run. -/
theorem mem_own {label : ι} {s s' : σ} : (label, s, s') ∈ own i h ↔
    ∃ m ∈ h, m.event = .program i ∧ m.before.label i = some label ∧ m.before.shared = s ∧ m.after.shared = s' := by
  simp [own, by_iff]

theorem take_other (hne : ∀ j, turn = .program j → j ≠ i) : (P.take env turn).programs[i]? = P.programs[i]? := by
  cases turn with
  | environment e => rfl
  | program j =>
    cases hp : P.programs[j]? with
    | none => simp only [take, hp]
    | some p =>
      rw [take_program hp]
      exact List.getElem?_set_ne (hne j rfl)

theorem take_self (env : ε → σ → σ) (hp : P.programs[i]? = some p) :
    (P.take env (.program i)).programs[i]? = some (p.rest P.shared) ∧
      (P.take env (.program i)).shared = p.act P.shared := by
  rw [take_program hp]
  exact ⟨List.getElem?_set_self (List.getElem?_eq_some_iff.1 hp).1, rfl⟩

/-- Each program has made its own moves, and nothing else has happened to it. -/
theorem run_performs (hr : Run (· = P) (Takes env) h Q) (hp : P.programs[i]? = some p) :
    ∃ q, Q.programs[i]? = some q ∧ p.Performs (own i h) q := by
  induction hr with
  | init hs => subst hs; exact ⟨p, hp, .refl⟩
  | @step h Q _ turn _ ht ih =>
    rcases ht with ⟨hready, rfl⟩
    rcases ih with ⟨q, hq, hperf⟩
    cases hby : By i ({ before := Q, event := turn, after := Q.take env turn } : Move (Pool ι σ α) (Turn ε)) with
    | false =>
      refine ⟨q, ?_, ?_⟩
      · rw [take_other, hq]
        rintro j rfl rfl
        simp [By] at hby
      · rw [own, List.filterMap_cons_none (by simp [hby])]
        exact hperf
    | true =>
      obtain rfl : turn = .program i := by_iff.1 hby
      rcases take_self env hq with ⟨hrest, hact⟩
      rcases Option.isSome_iff_exists.1 hready with ⟨label, hl⟩
      refine ⟨_, hrest, ?_⟩
      rw [own, List.filterMap_cons_some (by simp only [hby, if_true, hl]; rfl), List.reverse_cons, hact]
      rw [label_eq hq] at hl
      exact .snoc hperf hl

/-- What a program does is of the kind of its labels. -/
theorem run_speaks {kind : ι → Prop} {label : ι} (hr : Run (· = P) (Takes env) h Q) (hp : P.programs[i]? = some p)
    (hs : p.Speaks kind) (hl : Q.label i = some label) : kind label := by
  rcases run_performs hr hp with ⟨q, hq, hperf⟩
  rw [label_eq hq] at hl
  exact (hs.performs hperf).of_label hl

theorem run_programs (hr : Run (· = P) (Takes env) h Q) (hnone : P.programs[i]? = none) : Q.programs[i]? = none := by
  induction hr with
  | init hs => subst hs; exact hnone
  | @step h Q _ turn _ ht ih =>
    rcases ht with ⟨-, rfl⟩
    rw [List.getElem?_eq_none_iff] at ih ⊢
    cases turn with
    | environment e => exact ih
    | program j =>
      cases hq : Q.programs[j]? with
      | none => simpa only [take, hq] using ih
      | some q =>
        rw [take_program hq]
        simpa using ih

/-! ## Seen from the shared state -/

/-- What a move does to the shared state: what the label of a program says, or what the environment does. -/
inductive Deed (perform : ι → σ → σ) (env : ε → σ → σ) (m : Move (Pool ι σ α) (Turn ε)) : Prop
  | program {i : Nat} {label : ι} : m.event = .program i → m.before.label i = some label →
      m.after.shared = perform label m.before.shared → Deed perform env m
  | environment {e : ε} : m.event = .environment e → m.after.shared = env e m.before.shared → Deed perform env m

/-- Some program does what the label says. -/
def Does (label : ι) (m : Move (Pool ι σ α) (Turn ε)) : Prop :=
  ∃ i, m.event = .program i ∧ m.before.label i = some label

theorem Takes.deed (hfollow : ∀ p ∈ Q.programs, p.Follows perform) (ht : Takes env Q turn Q') :
    Deed perform env ⟨Q, turn, Q'⟩ ∧ ∀ p ∈ Q'.programs, p.Follows perform := by
  rcases ht with ⟨hready, rfl⟩
  cases turn with
  | environment e => exact ⟨.environment rfl rfl, hfollow⟩
  | program i =>
    rcases Option.isSome_iff_exists.1 hready with ⟨label, hl⟩
    cases hp : Q.programs[i]? with
    | none => simp [Pool.label, hp] at hl
    | some p =>
      have hpf := hfollow p (List.mem_of_getElem? hp)
      refine ⟨.program rfl hl ?_, fun q hq => ?_⟩
      · rw [label_eq hp] at hl
        exact (take_self env hp).2.trans (hpf.act hl _)
      · rw [take_program hp] at hq
        rcases List.mem_or_eq_of_mem_set hq with hq | rfl
        · exact hfollow q hq
        · exact hpf.rest _

theorem run_follows (hr : Run (· = P) (Takes env) h Q) (hfollow : ∀ p ∈ P.programs, p.Follows perform) :
    ∀ p ∈ Q.programs, p.Follows perform := by
  induction hr with
  | init hs => subst hs; exact hfollow
  | step _ ht ih => exact (Takes.deed ih ht).2

/-- A move has one label. -/
theorem Does.unique {label label' : ι} {m : Move (Pool ι σ α) (Turn ε)} (hd : Does label m) (hd' : Does label' m) :
    label = label' := by
  rcases hd with ⟨i, he, hl⟩
  rcases hd' with ⟨i', he', hl'⟩
  cases he.symm.trans he'
  exact Option.some.inj (hl.symm.trans hl')

theorem not_does {label : ι} {m : Move (Pool ι σ α) (Turn ε)} {e : ε} (he : m.event = .environment e) :
    ¬ Does label m := by
  rintro ⟨i, he', _⟩
  cases he.symm.trans he'

/-! ## What is never taken back -/

/-- What every move keeps is kept from any move to any later one, and to the end. -/
theorem run_keeps {R : σ → σ → Prop} (hrefl : ∀ s, R s s) (htrans : ∀ s t u, R s t → R t u → R s u)
    (hstep : ∀ old Q turn Q', Run (· = P) (Takes env) old Q → Takes env Q turn Q' → R Q.shared Q'.shared)
    (hr : Run (· = P) (Takes env) h Q) :
    R P.shared Q.shared ∧ (∀ m ∈ h, R P.shared m.before.shared ∧ R m.after.shared Q.shared) ∧
      h.Pairwise fun later earlier => R earlier.after.shared later.before.shared := by
  induction hr with
  | init hs => subst hs; exact ⟨hrefl _, by simp, .nil⟩
  | @step h Q Q' turn hr ht ih =>
    rcases ih with ⟨hstart, hmoves, hpair⟩
    have hlast := hstep _ _ _ _ hr ht
    refine ⟨htrans _ _ _ hstart hlast, fun m hm => ?_, List.pairwise_cons.2 ⟨fun m hm => (hmoves m hm).2, hpair⟩⟩
    rcases List.mem_cons.1 hm with rfl | hm
    · exact ⟨hstart, hrefl _⟩
    · exact ⟨(hmoves m hm).1, htrans _ _ _ (hmoves m hm).2 hlast⟩

/-- Of two moves, one is the other or comes before it. -/
theorem pairwise_or {M : Type*} {S : M → M → Prop} {h : List M} (hpair : h.Pairwise S) {m m' : M} (hm : m ∈ h)
    (hm' : m' ∈ h) :
    m = m' ∨ S m m' ∨ S m' m := by
  induction hpair with
  | nil => cases hm
  | @cons x h hx _ ih =>
    rcases List.mem_cons.1 hm with e | hmem
    · rcases List.mem_cons.1 hm' with e' | hmem'
      · exact Or.inl (e.trans e'.symm)
      · subst e
        exact Or.inr (Or.inl (hx _ hmem'))
    · rcases List.mem_cons.1 hm' with e' | hmem'
      · subst e'
        exact Or.inr (Or.inr (hx _ hmem))
      · exact ih hmem hmem'

end Pool

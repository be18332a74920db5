/-
Proof outlines for pools of programs. Each program is at some stage of its outline; a step takes one program to its next
stage and keeps an invariant of the shared state, the stages and the history. What a step may find in its way is left to
a condition on the history.
-/
import Civ6LanBridge.Lib.Atomic
import Civ6LanBridge.Lib.Past

namespace Prog

variable {ι σ α β : Type}

/-- The program with another result. -/
def map (f : α → β) : Prog ι σ α → Prog ι σ β
  | .done result => .done (f result)
  | .step label act next => .step label act fun s => (next s).map f

/-! ## One step -/

def label? : Prog ι σ α → Option ι
  | .done _ => none
  | .step label _ _ => some label

/-- The shared state after the next step, if there is one. -/
def act : Prog ι σ α → σ → σ
  | .done _, s => s
  | .step _ act _, s => act s

/-- What is left of the program after it. -/
def rest : Prog ι σ α → σ → Prog ι σ α
  | .done result, _ => .done result
  | .step _ _ next, s => next s

/-! ## Programs that keep a relation -/

/-- Every step of the program, in whatever state it is taken, is in the relation. -/
def Keeps (R : σ → σ → Prop) : Prog ι σ α → Prop
  | .done _ => True
  | .step _ act next => ∀ s, R s (act s) ∧ (next s).Keeps R

variable {R : σ → σ → Prop} {p : Prog ι σ α}

theorem keeps_done (result : α) : (.done result : Prog ι σ α).Keeps R := trivial

theorem keeps_atomically {label : ι} {act : σ → β × σ} {next : β → Prog ι σ α} (hact : ∀ s, R s (act s).2)
    (hnext : ∀ c, (next c).Keeps R) : (atomically label act next).Keeps R := fun s => ⟨hact s, hnext _⟩

theorem Keeps.map (f : α → β) (h : p.Keeps R) : (p.map f).Keeps R := by
  induction p with
  | done result => trivial
  | step label act next ih => exact fun s => ⟨(h s).1, ih s (h s).2⟩

theorem Keeps.rest (h : p.Keeps R) (s : σ) : (p.rest s).Keeps R := by
  cases p with
  | done result => trivial
  | step label act next => exact (h s).2

theorem Keeps.act (h : p.Keeps R) (hrefl : ∀ s, R s s) (s : σ) : R s (p.act s) := by
  cases p with
  | done result => exact hrefl s
  | step label act next => exact (h s).1

end Prog

namespace Pool

open Past

variable {ι σ α S : Type} {ε : Type*}

/-- Whose turn it is. -/
inductive Turn (ε : Type*)
  | program (i : Nat)
  | environment (e : ε)

/-- What the program at the index is about to do. -/
def label (P : Pool ι σ α) (i : Nat) : Option ι := (P.programs[i]?).bind Prog.label?

/-- The pool after one turn. -/
def take (env : ε → σ → σ) (P : Pool ι σ α) : Turn ε → Pool ι σ α
  | .program i =>
    match P.programs[i]? with
    | none => P
    | some p => ⟨p.act P.shared, P.programs.set i (p.rest P.shared)⟩
  | .environment e => ⟨env e P.shared, P.programs⟩

/-- A program whose turn it is has a step to make. -/
def Ready (P : Pool ι σ α) : Turn ε → Prop
  | .program i => (P.label i).isSome
  | .environment _ => True

instance (P : Pool ι σ α) : (turn : Turn ε) → Decidable (P.Ready turn)
  | .program i => inferInstanceAs (Decidable ((P.label i).isSome = true))
  | .environment _ => .isTrue trivial

def Takes (env : ε → σ → σ) (P : Pool ι σ α) (turn : Turn ε) (P' : Pool ι σ α) : Prop :=
  P.Ready turn ∧ P' = P.take env turn

variable {env : ε → σ → σ} {P Q : Pool ι σ α} {h : List (Move (Pool ι σ α) (Turn ε))} {i : Nat} {p : Prog ι σ α}

theorem take_program (hp : P.programs[i]? = some p) :
    P.take env (.program i) = ⟨p.act P.shared, P.programs.set i (p.rest P.shared)⟩ := by
  unfold take
  simp only [hp]

theorem label_eq (hp : P.programs[i]? = some p) : P.label i = p.label? := by
  unfold label
  rw [hp, Option.bind_some]

/-! ## The rule -/

/-- A condition on each move of a history, in view of the moves before it. -/
def Throughout {M : Type*} (ok : List M → M → Prop) : List M → Prop
  | [] => True
  | m :: h => ok h m ∧ Throughout ok h

/-- If the programs start at some stages at which the invariant holds, and every turn that meets the condition leads to
stages at which it holds, then it holds after every run. -/
theorem outline (at' : Nat → Prog ι σ α → S → Prop) (Inv : List (Move (Pool ι σ α) (Turn ε)) → σ → (Nat → S) → Prop)
    {ok : List (Move (Pool ι σ α) (Turn ε)) → Move (Pool ι σ α) (Turn ε) → Prop}
    {st₀ : Nat → S} (hat₀ : ∀ i p, P.programs[i]? = some p → at' i p (st₀ i)) (hinv₀ : Inv [] P.shared st₀)
    (hprogram : ∀ h (Q : Pool ι σ α) st i p, Q.programs[i]? = some p → p.label?.isSome → at' i p (st i) →
      Inv h Q.shared st → ok h ⟨Q, .program i, Q.take env (.program i)⟩ → ∃ t, at' i (p.rest Q.shared) t ∧
        Inv (⟨Q, .program i, Q.take env (.program i)⟩ :: h) (p.act Q.shared) (Function.update st i t))
    (henv : ∀ h (Q : Pool ι σ α) st e, Inv h Q.shared st → ok h ⟨Q, .environment e, Q.take env (.environment e)⟩ →
      Inv (⟨Q, .environment e, Q.take env (.environment e)⟩ :: h) (env e Q.shared) st)
    (hr : Run (· = P) (Takes env) h Q) (hok : Throughout ok h) :
    ∃ st, (∀ i p, Q.programs[i]? = some p → at' i p (st i)) ∧
      (∀ i, Q.programs[i]? = none → P.programs[i]? = none ∧ st i = st₀ i) ∧ Inv h Q.shared st := by
  induction hr with
  | init hs => subst hs; exact ⟨st₀, hat₀, fun _ hi => ⟨hi, rfl⟩, hinv₀⟩
  | @step h Q _ turn _ ht ih =>
    rcases ht with ⟨hready, rfl⟩
    rcases ih hok.2 with ⟨st, hat, hout, hinv⟩
    cases turn with
    | environment e => exact ⟨st, hat, hout, henv h Q st e hinv hok.1⟩
    | program i =>
      have hsome : ∃ p, Q.programs[i]? = some p := by
        cases hp : Q.programs[i]? with
        | none => simp [Ready, label, hp] at hready
        | some p => exact ⟨p, rfl⟩
      rcases hsome with ⟨p, hp⟩
      have hlabel : p.label?.isSome := by
        rw [← label_eq hp]
        exact hready
      rcases hprogram h Q st i p hp hlabel (hat i p hp) hinv hok.1 with ⟨t, ht, hinv'⟩
      rw [take_program hp] at hinv' ⊢
      refine ⟨Function.update st i t, fun j q hq => ?_, fun j hj => ?_, hinv'⟩
      · by_cases e : j = i
        · subst e
          have hlt : j < Q.programs.length := (List.getElem?_eq_some_iff.1 hp).1
          have hq' : some (p.rest Q.shared) = some q := (List.getElem?_set_self hlt).symm.trans hq
          rw [Function.update_self, ← Option.some.inj hq']
          exact ht
        · rw [Function.update_of_ne e]
          exact hat j q ((List.getElem?_set_ne (Ne.symm e)).symm.trans hq)
      · have hj' : Q.programs[j]? = none := by simpa using hj
        have hne : j ≠ i := by
          rintro rfl
          rw [hp] at hj'
          cases hj'
        rw [Function.update_of_ne hne]
        exact hout j hj'

end Pool

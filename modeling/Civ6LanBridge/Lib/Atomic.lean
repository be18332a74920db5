/-
Programs made of atomic steps on a shared state: what one does when it runs alone, and what a pool of
them does when their steps are interleaved with one another and with an environment. The rule for
pools is rely and guarantee with one relation for both: a program whose steps advance the state, as
long as everything in between advances it, goes together with all others of the kind.
-/
import Civ6LanBridge.Lib.Transition

/-- A program whose steps, each under a label, read and write the shared state at once. -/
inductive Prog (ι σ α : Type) where
  | done (result : α)
  | step (label : ι) (act : σ → σ) (next : σ → Prog ι σ α)

namespace Prog

variable {ι σ α β : Type}

/-- One step, whose result the rest of the program depends on. -/
def atomically (label : ι) (act : σ → β × σ) (next : β → Prog ι σ α) : Prog ι σ α :=
  .step label (fun s => (act s).2) fun s => next (act s).1

/-! ## Alone -/

/-- The program run to its end with nothing in between. -/
def run : Prog ι σ α → σ → α × σ
  | .done result, s => (result, s)
  | .step _ act next, s => run (next s) (act s)

@[simp] theorem run_done (result : α) (s : σ) : run (.done result : Prog ι σ α) s = (result, s) := rfl

@[simp] theorem run_atomically (label : ι) (act : σ → β × σ) (next : β → Prog ι σ α) (s : σ) :
    (atomically label act next).run s = (next (act s).1).run (act s).2 := rfl

/-! ## Among others -/

def Finished : Prog ι σ α → Prop
  | .done _ => True
  | .step _ _ _ => False

instance : DecidablePred (Finished : Prog ι σ α → Prop)
  | .done _ => .isTrue trivial
  | .step _ _ _ => .isFalse id

/-- Whatever happens in between, as long as it advances `R`, the steps of the program advance `R` too,
if they are allowed in the state they are taken in. -/
def Guarantees (allowed : σ → ι → Prop) (R : σ → σ → Prop) : Prog ι σ α → σ → Prop
  | .done _, _ => True
  | .step label act next, s => ∀ s', R s s' → allowed s' label → R s' (act s') ∧ Guarantees allowed R (next s') (act s')

variable {allowed : σ → ι → Prop} {R : σ → σ → Prop}

theorem guarantees_done (result : α) (s : σ) : (.done result : Prog ι σ α).Guarantees allowed R s := trivial

theorem guarantees_atomically {label : ι} {act : σ → β × σ} {next : β → Prog ι σ α} {s : σ}
    (h : ∀ s', R s s' → allowed s' label →
      R s' (act s').2 ∧ (next (act s').1).Guarantees allowed R (act s').2) :
    (atomically label act next).Guarantees allowed R s := h

/-- What others do does not take the guarantee away. -/
theorem Guarantees.mono (htrans : ∀ s t u, R s t → R t u → R s u) {p : Prog ι σ α} {s s' : σ} (hR : R s s')
    (h : p.Guarantees allowed R s) : p.Guarantees allowed R s' := by
  cases p with
  | done result => trivial
  | step label act next => exact fun t ht => h t (htrans _ _ _ hR ht)

end Prog

/-- A shared state and the programs that work on it. -/
structure Pool (ι σ α : Type) where
  shared : σ
  programs : List (Prog ι σ α)

/-- What happens in one step of a pool: a program makes a step, or the environment does. -/
inductive Pool.Event (ι : Type) (ε : Type*) where
  | program (label : ι)
  | environment (e : ε)

namespace Pool

variable {ι σ α : Type} {ε : Type*}

/-- One step of a pool in an environment that acts on the shared state by `env`. -/
inductive Step (env : ε → σ → σ) (P : Pool ι σ α) : Event ι ε → Pool ι σ α → Prop
  | program {i : Nat} {label : ι} {act : σ → σ} {next : σ → Prog ι σ α} : P.programs[i]? = some (.step label act next) →
      Step env P (.program label) ⟨act P.shared, P.programs.set i (next P.shared)⟩
  | environment (e : ε) : Step env P (.environment e) ⟨env e P.shared, P.programs⟩

/-- The pools that runs from `P` reach whose steps are all allowed in the state they are taken in. -/
def Reachable (env : ε → σ → σ) (allowed : σ → Event ι ε → Prop) (P : Pool ι σ α) : Pool ι σ α → Prop :=
  Transition.Reachable (· = P) fun Q Q' => ∃ e, allowed Q.shared e ∧ Step env Q e Q'

variable {env : ε → σ → σ} {allowed : σ → Event ι ε → Prop} {R : σ → σ → Prop} {P Q : Pool ι σ α}

/-- The rule for pools: if the programs guarantee to advance the state, and the environment does, then
every run does. -/
theorem Reachable.advances (hrefl : ∀ s, R s s) (htrans : ∀ s t u, R s t → R t u → R s u)
    (hprograms : ∀ p ∈ P.programs, p.Guarantees (fun s label => allowed s (.program label)) R P.shared)
    (henv : ∀ s e, R P.shared s → allowed s (.environment e) → R s (env e s)) (h : Reachable env allowed P Q) :
    R P.shared Q.shared := by
  -- the programs that are still to run guarantee the same from the state reached so far
  let I (Q : Pool ι σ α) : Prop := R P.shared Q.shared ∧
    ∀ p ∈ Q.programs, p.Guarantees (fun s label => allowed s (.program label)) R Q.shared
  suffices hI : I Q from hI.1
  refine Transition.Reachable.invariant (P := I) ?_ ?_ h
  · rintro _ rfl; exact ⟨hrefl _, hprograms⟩
  rintro Q Q' - ⟨hR, hQ⟩ ⟨e, hallowed, hst⟩
  cases hst with
  | @program i label act next hi =>
    obtain ⟨hact, hnext⟩ := hQ _ (List.mem_of_getElem? hi) Q.shared (hrefl _) hallowed
    refine ⟨htrans _ _ _ hR hact, fun p hp => ?_⟩
    rcases List.mem_or_eq_of_mem_set hp with hp | rfl
    · exact (hQ p hp).mono htrans hact
    · exact hnext
  | environment e =>
    have hact := henv _ e hR hallowed
    exact ⟨htrans _ _ _ hR hact, fun p hp => (hQ p hp).mono htrans hact⟩

/-! ## Runs on which programs take turns -/

/-- The pool after the program at index `i` has made its next step, if it is allowed to. -/
def turn (may : σ → ι → Prop) [∀ s label, Decidable (may s label)] (P : Pool ι σ α) (i : Nat) : Pool ι σ α :=
  match P.programs[i]? with
  | some (.step label act next) =>
    if may P.shared label then ⟨act P.shared, P.programs.set i (next P.shared)⟩ else P
  | _ => P

theorem Reachable.turns {may : σ → ι → Prop} [∀ s label, Decidable (may s label)]
    (hmay : ∀ s label, may s label → allowed s (.program label)) (schedule : List Nat) (h : Reachable env allowed P Q) :
    Reachable env allowed P (schedule.foldl (turn may) Q) := by
  induction schedule generalizing Q with
  | nil => exact h
  | cons i schedule ih =>
    refine ih ?_
    unfold turn
    split
    · rename_i hi
      split
      · rename_i hm
        exact .step h ⟨_, hmay _ _ hm, .program hi⟩
      · exact h
    · exact h

end Pool

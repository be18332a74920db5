/-
Pools that crash. Programs join a pool while it runs; a crash takes every program with it and all of the shared state
that does not outlive it, and the pool starts again from a state that a restart makes of what is left. An invariant of
the shared state that programs guarantee, wherever in their steps they are interrupted, holds over any number of
crashes.
-/
import Civ6LanBridge.Lib.Outline

/-- The step keeps the invariant. -/
def Prog.Preserves {σ : Type} (I : σ → Prop) (s s' : σ) : Prop := I s → I s'

namespace Prog

variable {ι σ α β : Type} {R : σ → σ → Prop} {I : σ → Prop} {allowed : σ → ι → Prop} {p : Prog ι σ α} {s : σ}

/-! ## Guarantees -/

/-- What every step of a program keeps in whatever state it is taken, the program guarantees. -/
theorem Keeps.guarantees (h : p.Keeps R) (s : σ) : p.Guarantees allowed R s := by
  induction p generalizing s with
  | done result => trivial
  | step label act next ih => exact fun s' _ _ => ⟨(h s').1, ih s' (h s').2 _⟩

theorem Guarantees.map (f : α → β) (h : p.Guarantees allowed R s) : (p.map f).Guarantees allowed R s := by
  induction p generalizing s with
  | done result => trivial
  | step label act next ih => exact fun s' hR ha => ⟨(h s' hR ha).1, ih s' (h s' hR ha).2⟩

/-- An invariant that holds may be assumed at each step. -/
theorem preserves_atomically {label : ι} {act : σ → β × σ} {next : β → Prog ι σ α} (hs : I s)
    (h : ∀ s', I s' → I (act s').2 ∧ (next (act s').1).Guarantees allowed (Preserves I) (act s').2) :
    (atomically label act next).Guarantees allowed (Preserves I) s :=
  guarantees_atomically fun s' hI _ => ⟨fun _ => (h s' (hI hs)).1, (h s' (hI hs)).2⟩

end Prog

namespace Pool

open Prog

variable {ι σ α : Type}

/-- One step in the life of a pool. -/
inductive LifeStep (env : σ → σ → Prop) (arrives : Prog ι σ α → Prop) (restarts : σ → σ → Prop) (P : Pool ι σ α) :
    Pool ι σ α → Prop
  | program {i : Nat} {label : ι} {act : σ → σ} {next : σ → Prog ι σ α} : P.programs[i]? = some (.step label act next) →
      LifeStep env arrives restarts P ⟨act P.shared, P.programs.set i (next P.shared)⟩
  | environment {s : σ} : env P.shared s → LifeStep env arrives restarts P ⟨s, P.programs⟩
  | arrival {p : Prog ι σ α} : arrives p → LifeStep env arrives restarts P ⟨P.shared, P.programs ++ [p]⟩
  | crash {s : σ} : restarts P.shared s → LifeStep env arrives restarts P ⟨s, []⟩

/-- The pools that a life leads to from a state on in which no program is under way. -/
def Life (env : σ → σ → Prop) (arrives : Prog ι σ α → Prop) (restarts : σ → σ → Prop) (s : σ) : Pool ι σ α → Prop :=
  Transition.Reachable (· = ⟨s, []⟩) (LifeStep env arrives restarts)

variable {env : σ → σ → Prop} {arrives : Prog ι σ α → Prop} {restarts : σ → σ → Prop} {I : σ → Prop} {s : σ}
  {Q : Pool ι σ α}

/-- The rule for pools that crash: what the programs guarantee, the environment keeps and a restart brings back, holds
for life. -/
theorem Life.preserves (hI : I s) (henv : ∀ s s', env s s' → I s → I s')
    (hrestarts : ∀ s s', restarts s s' → I s → I s')
    (harrives : ∀ p s, arrives p → I s → p.Guarantees (fun _ _ => True) (Preserves I) s)
    (h : Life env arrives restarts s Q) :
    I Q.shared := by
  let J (Q : Pool ι σ α) : Prop := I Q.shared ∧ ∀ p ∈ Q.programs, p.Guarantees (fun _ _ => True) (Preserves I) Q.shared
  suffices hJ : J Q from hJ.1
  -- programs guarantee the same from any state on in which the invariant holds
  have hmono : ∀ {p : Prog ι σ α} {t t' : σ}, I t' → p.Guarantees (fun _ _ => True) (Preserves I) t →
      p.Guarantees (fun _ _ => True) (Preserves I) t' := fun ht' hp =>
    hp.mono (fun _ _ _ hst htu hs => htu (hst hs)) fun _ => ht'
  refine Transition.Reachable.invariant (P := J) ?_ ?_ h
  · rintro _ rfl
    exact ⟨hI, nofun⟩
  rintro Q Q' - ⟨hQ, hprograms⟩ hst
  cases hst with
  | @program i label act next hi =>
    rcases hprograms _ (List.mem_of_getElem? hi) Q.shared id trivial with ⟨hact, hnext⟩
    refine ⟨hact hQ, fun p hp => ?_⟩
    rcases List.mem_or_eq_of_mem_set hp with hp | rfl
    · exact hmono (hact hQ) (hprograms p hp)
    · exact hnext
  | environment he =>
    have hs := henv _ _ he hQ
    exact ⟨hs, fun p hp => hmono hs (hprograms p hp)⟩
  | arrival hp =>
    refine ⟨hQ, fun p hm => ?_⟩
    rcases List.mem_append.1 hm with hm | hm
    · exact hprograms p hm
    · obtain rfl := List.mem_singleton.1 hm
      exact harrives _ _ hp hQ
  | crash hc => exact ⟨hrestarts _ _ hc hQ, nofun⟩

end Pool

/-
Transition systems: the states reachable from the initial ones, the invariant rule over every run,
and the transfer of reachability along a simulation.
-/
import Mathlib

namespace Transition

variable {σ τ : Type}

/-- The states a run of `step` from an initial state can be in. -/
inductive Reachable (init : σ → Prop) (step : σ → σ → Prop) : σ → Prop
  | init {s : σ} : init s → Reachable init step s
  | step {s s' : σ} : Reachable init step s → step s s' → Reachable init step s'

variable {init : σ → Prop} {step : σ → σ → Prop}

/-- The invariant rule: what holds initially and is preserved by every step from a reachable state
holds in every reachable state. -/
theorem Reachable.invariant {P : σ → Prop} (h0 : ∀ s, init s → P s)
    (hs : ∀ s s', Reachable init step s → P s → step s s' → P s') {s : σ} (h : Reachable init step s) : P s := by
  induction h with
  | init hi => exact h0 _ hi
  | step hr hst ih => exact hs _ _ hr ih hst

/-- A run of fewer steps, or of steps another system matches through `f`, stays reachable. -/
theorem Reachable.map {init' : τ → Prop} {step' : τ → τ → Prop} (f : σ → τ) (h0 : ∀ s, init s → init' (f s))
    (hs : ∀ s s', Reachable init step s → step s s' → step' (f s) (f s') ∨ f s = f s') {s : σ}
    (h : Reachable init step s) : Reachable init' step' (f s) := by
  induction h with
  | init hi => exact .init (h0 _ hi)
  | step hr hst ih =>
    rcases hs _ _ hr hst with h | h
    · exact .step ih h
    · rw [← h]; exact ih

end Transition

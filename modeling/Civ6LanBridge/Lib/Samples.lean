/-
A window over the last samples of a stream, and order statistics: what stands at an index of the sorted
samples, described by how many samples lie on either side of it.
-/
import Mathlib

namespace Samples

variable {α : Type*} {window xs : List α} {limit : ℕ}

/-! ## The window -/

/-- A sample comes in at the back, and at the limit the oldest one goes. -/
def push (limit : ℕ) (window : List α) (x : α) : List α :=
  (if limit ≤ window.length then window.tail else window) ++ [x]

/-- The window over a stream moves on with it. -/
theorem push_rtake (hpos : 0 < limit) (xs : List α) (x : α) :
    push limit (xs.rtake limit) x = (xs ++ [x]).rtake limit := by
  have hdrop : (xs ++ [x]).rtake limit = xs.drop (xs.length + 1 - limit) ++ [x] := by
    rw [List.rtake, List.length_append, List.length_singleton, List.drop_append_of_le_length (by omega)]
  rw [hdrop, push, List.rtake, List.length_drop]
  split
  · rename_i hfull
    rw [List.tail_drop, show xs.length - limit + 1 = xs.length + 1 - limit by omega]
  -- a window that is not full has the whole stream
  · rename_i hfull
    rw [show xs.length - limit = 0 by omega, show xs.length + 1 - limit = 0 by omega]

theorem length_rtake (xs : List α) (limit : ℕ) : (xs.rtake limit).length = min xs.length limit := by
  rw [List.rtake, List.length_drop]
  omega

/-! ## Order statistics -/

variable [LE α] [DecidableLE α] {k k' : ℕ} {x x' : α}

/-- The sample at an index of the sorted samples. -/
def orderStat? (xs : List α) (k : ℕ) : Option α := (xs.mergeSort (· ≤ ·))[k]?

theorem orderStat?_nil (k : ℕ) : orderStat? ([] : List α) k = none := by
  rw [orderStat?, List.mergeSort_nil, List.getElem?_nil]

theorem orderStat?_isSome (hk : k < xs.length) : ∃ x, orderStat? xs k = some x :=
  ⟨_, List.getElem?_eq_getElem (by rwa [List.length_mergeSort])⟩

/-- Samples up to `x` fill the places up to the index, and samples from `x` on those from it on. -/
structure Ranks (xs : List α) (k : ℕ) (x : α) : Prop where
  mem : x ∈ xs
  below : k + 1 ≤ xs.countP (· ≤ x)
  above : xs.length - k ≤ xs.countP (x ≤ ·)

variable [Std.IsLinearPreorder α]

theorem pairwise_sorted (xs : List α) : (xs.mergeSort (· ≤ ·)).Pairwise (· ≤ ·) := by
  have hs := @List.pairwise_mergeSort α (fun a b => decide (a ≤ b)) (fun a b c hab hbc => by
    simp only [decide_eq_true_eq] at hab hbc ⊢
    exact Std.le_trans hab hbc) (fun a b => by simpa using Std.le_total) xs
  simpa using hs

/-- In a sorted list the places up to an index hold what is at most the sample there. -/
theorem sorted_below (hs : xs.Pairwise (· ≤ ·)) (hx : xs[k]? = some x) : k + 1 ≤ xs.countP (· ≤ x) := by
  rcases List.getElem?_eq_some_iff.1 hx with ⟨hk, rfl⟩
  have hall : (xs.take (k + 1)).countP (· ≤ xs[k]) = (xs.take (k + 1)).length := by
    rw [List.countP_eq_length]
    intro y hy
    rcases List.mem_take_iff_getElem.1 hy with ⟨i, hi, rfl⟩
    have hik : i ≤ k := by omega
    simpa using hs.rel_get_of_le (a := ⟨i, by omega⟩) (b := ⟨k, hk⟩) hik
  have hle := (List.take_sublist (k + 1) xs).countP_le (p := (· ≤ xs[k]))
  rw [hall, List.length_take] at hle
  omega

theorem sorted_above (hs : xs.Pairwise (· ≤ ·)) (hx : xs[k]? = some x) : xs.length - k ≤ xs.countP (x ≤ ·) := by
  rcases List.getElem?_eq_some_iff.1 hx with ⟨hk, rfl⟩
  have hall : (xs.drop k).countP (xs[k] ≤ ·) = (xs.drop k).length := by
    rw [List.countP_eq_length]
    intro y hy
    rcases List.mem_drop_iff_getElem.1 hy with ⟨i, hi, rfl⟩
    have hki : k ≤ k + i := Nat.le_add_right k i
    simpa using hs.rel_get_of_le (a := ⟨k, hk⟩) (b := ⟨k + i, by omega⟩) hki
  have hle := (List.drop_sublist k xs).countP_le (p := (xs[k] ≤ ·))
  rwa [hall, List.length_drop] at hle

theorem orderStat?_ranks (hx : orderStat? xs k = some x) : Ranks xs k x := by
  have hs := pairwise_sorted xs
  have hp := List.mergeSort_perm xs (· ≤ ·)
  refine ⟨List.mem_mergeSort.1 (List.mem_of_getElem? hx), ?_, ?_⟩
  · rw [← hp.countP_eq]
    exact sorted_below hs hx
  · rw [← hp.countP_eq, ← hp.length_eq]
    exact sorted_above hs hx

theorem orderStat?_mono (hle : k ≤ k') (hx : orderStat? xs k = some x) (hx' : orderStat? xs k' = some x') : x ≤ x' := by
  have hs := pairwise_sorted xs
  rcases List.getElem?_eq_some_iff.1 hx with ⟨hk, rfl⟩
  rcases List.getElem?_eq_some_iff.1 hx' with ⟨hk', rfl⟩
  exact hs.rel_get_of_le (a := ⟨k, hk⟩) (b := ⟨k', hk'⟩) hle

end Samples

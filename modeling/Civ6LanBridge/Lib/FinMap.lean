/-
Finite maps with extensional equality (`Std.ExtTreeMap`), and the ways a program walks one whose
iteration order is not specified: collecting the keys whose entry passes a test, and erasing a
list of collected keys one by one. Erasing what was collected is a filter, whatever the order.
-/
import Mathlib

open Std

/-- The order in which walking a hash map or hash set yields its entries: some rearrangement of
them. -/
structure WalkOrder where
  arrange : {α : Type} → List α → List α
  perm : ∀ {α : Type} (l : List α), (arrange l).Perm l

namespace WalkOrder

/-- The walk in key order. -/
def sorted : WalkOrder := ⟨fun l => l, fun l => List.Perm.refl l⟩

@[simp] theorem mem_arrange (o : WalkOrder) {α : Type} (l : List α) (a : α) : a ∈ o.arrange l ↔ a ∈ l :=
  (o.perm l).mem_iff

end WalkOrder

namespace FinMap

section Walk

variable {K V : Type} [Ord K] [TransOrd K] [LawfulEqOrd K]

/-- The keys whose entry passes `p`, in the order of the walk. -/
def keysWhere (o : WalkOrder) (p : K → V → Bool) (m : ExtTreeMap K V) : List K :=
  (o.arrange m.toList).filterMap fun e => if p e.1 e.2 then some e.1 else none

theorem mem_keysWhere {o : WalkOrder} {p : K → V → Bool} {m : ExtTreeMap K V} {k : K} :
    k ∈ keysWhere o p m ↔ ∃ v, m[k]? = some v ∧ p k v = true := by
  unfold keysWhere
  simp only [List.mem_filterMap, WalkOrder.mem_arrange, Option.ite_none_right_eq_some, Option.some.injEq,
    Prod.exists, ExtTreeMap.mem_toList_iff_getElem?_eq_some]
  constructor
  · rintro ⟨a, v, hm, hp, rfl⟩; exact ⟨v, hm, hp⟩
  · rintro ⟨v, hm, hp⟩; exact ⟨k, v, hm, hp, rfl⟩

/-- Some row passes `p`. -/
def anyRow (p : V → Bool) (m : ExtTreeMap K V) : Bool := m.toList.any fun e => p e.2

theorem anyRow_eq_true {p : V → Bool} {m : ExtTreeMap K V} :
    anyRow p m = true ↔ ∃ (k : K) (v : V), m[k]? = some v ∧ p v = true := by
  simp only [anyRow, List.any_eq_true, Prod.exists, ExtTreeMap.mem_toList_iff_getElem?_eq_some]

theorem keysWhere_eq_nil {o : WalkOrder} {p : K → V → Bool} {m : ExtTreeMap K V} :
    keysWhere o p m = [] ↔ ∀ (k : K) (v : V), m[k]? = some v → p k v = false := by
  rw [List.eq_nil_iff_forall_not_mem]
  simp only [mem_keysWhere, not_exists, not_and, Bool.not_eq_true]

/-- Erase the keys of a list one by one. -/
def eraseAll (ks : List K) (m : ExtTreeMap K V) : ExtTreeMap K V :=
  ks.foldl (fun m k => m.erase k) m

theorem getElem?_eraseAll_of_mem {ks : List K} {k : K} (h : k ∈ ks) :
    ∀ m : ExtTreeMap K V, (eraseAll ks m)[k]? = none := by
  induction ks with
  | nil => cases h
  | cons a ks ih =>
    intro m
    by_cases hk : k ∈ ks
    · exact ih hk (m.erase a)
    · obtain rfl : k = a := by simpa [hk] using h
      have keep : ∀ (l : List K) (m : ExtTreeMap K V), m[k]? = none → (eraseAll l m)[k]? = none := by
        intro l
        induction l with
        | nil => exact fun m h => h
        | cons b l ih => exact fun m h => ih (m.erase b) (by grind)
      exact keep ks (m.erase k) (by grind)

theorem getElem?_eraseAll_of_notMem {ks : List K} {k : K} (h : k ∉ ks) :
    ∀ m : ExtTreeMap K V, (eraseAll ks m)[k]? = m[k]? := by
  induction ks with
  | nil => exact fun m => rfl
  | cons a ks ih =>
    intro m
    rw [List.mem_cons, not_or] at h
    exact (ih h.2 (m.erase a)).trans (by grind)

/-- Erasing the collected keys keeps exactly the entries that fail the test, in any order. -/
theorem eraseAll_keysWhere (o : WalkOrder) (p : K → V → Bool) (m : ExtTreeMap K V) :
    eraseAll (keysWhere o p m) m = m.filter fun k v => !p k v := by
  refine ExtTreeMap.ext_getElem? fun k => ?_
  rw [ExtTreeMap.getElem?_filter']
  by_cases hk : k ∈ keysWhere o p m
  · rw [getElem?_eraseAll_of_mem hk]
    obtain ⟨v, hv, hp⟩ := mem_keysWhere.1 hk
    rw [hv, Option.filter_some_neg (by simp [hp])]
  · rw [getElem?_eraseAll_of_notMem hk]
    cases hv : m[k]? with
    | none => rfl
    | some v =>
      have hp : p k v = false := by
        by_contra h
        exact hk (mem_keysWhere.2 ⟨v, hv, by simpa using h⟩)
      rw [Option.filter_some_pos (by simp [hp])]

/-- What is left after erasing was there before. -/
theorem eraseAll_sub {ks : List K} {m : ExtTreeMap K V} {k : K} {v : V} (h : (eraseAll ks m)[k]? = some v) :
    m[k]? = some v := by
  by_cases hk : k ∈ ks
  · rw [getElem?_eraseAll_of_mem hk] at h; cases h
  · rwa [getElem?_eraseAll_of_notMem hk] at h

end Walk

/-! ## Lookups -/

section Lookup

variable {K V : Type} [Ord K] [TransOrd K] [LawfulEqOrd K] {m : ExtTreeMap K V} {k k' : K} {v : V}

theorem getElem?_filter_eq_some {p : K → V → Bool} : (m.filter p)[k]? = some v ↔ m[k]? = some v ∧ p k v = true := by
  rw [ExtTreeMap.getElem?_filter', Option.filter_eq_some_iff]

theorem getElem?_modify_ne {f : V → V} (h : k ≠ k') : (m.modify k f)[k']? = m[k']? := by
  rw [ExtTreeMap.getElem?_modify, if_neg (by simpa using h)]

theorem getElem?_insert_ne (h : k ≠ k') : (m.insert k v)[k']? = m[k']? := by
  rw [ExtTreeMap.getElem?_insert, if_neg (by simpa using h)]

theorem getElem?_erase_ne (h : k ≠ k') : (m.erase k)[k']? = m[k']? := by
  rw [ExtTreeMap.getElem?_erase, if_neg (by simpa using h)]

/-- The keys after an insertion, and after an erasure. -/
theorem insert_has : (m.insert k v)[k']? ≠ none ↔ k' = k ∨ m[k']? ≠ none := by
  by_cases e : k = k'
  · subst e
    simp
  · rw [getElem?_insert_ne e]
    simp [Ne.symm e]

theorem erase_has : (m.erase k)[k']? ≠ none ↔ m[k']? ≠ none ∧ k' ≠ k := by
  by_cases e : k = k'
  · subst e
    simp
  · rw [getElem?_erase_ne e]
    simp [Ne.symm e]

/-- What is left after an erasure was there before. -/
theorem erase_sub (h : (m.erase k)[k']? = some v) : m[k']? = some v := by
  by_cases e : k = k'
  · subst e
    rw [ExtTreeMap.getElem?_erase_self] at h
    cases h
  · rwa [getElem?_erase_ne e] at h

/-- A row after an insertion is as it was, or it is the new one; and so on for the other edits. -/
theorem insert_row {P : Option V → Prop} (hother : P m[k']?) (hrow : k = k' → P (some v)) : P (m.insert k v)[k']? := by
  by_cases e : k = k'
  · subst e
    rw [ExtTreeMap.getElem?_insert_self]
    exact hrow rfl
  · rw [getElem?_insert_ne e]
    exact hother

theorem modify_row {P : Option V → Prop} {f : V → V} (hv : m[k]? = some v) (hother : P m[k']?)
    (hrow : k = k' → P (some (f v))) : P (m.modify k f)[k']? := by
  by_cases e : k = k'
  · subst e
    rw [ExtTreeMap.getElem?_modify_self, hv]
    exact hrow rfl
  · rw [getElem?_modify_ne e]
    exact hother

theorem erase_row {P : Option V → Prop} (hother : P m[k']?) (hrow : k = k' → P none) : P (m.erase k)[k']? := by
  by_cases e : k = k'
  · subst e
    rw [ExtTreeMap.getElem?_erase_self]
    exact hrow rfl
  · rw [getElem?_erase_ne e]
    exact hother

omit [LawfulEqOrd K] in
theorem contains_eq_false : m.contains k = false ↔ m[k]? = none := by
  rw [ExtTreeMap.contains_eq_isSome_getElem?, Option.isSome_eq_false_iff, Option.isNone_iff_eq_none]

end Lookup

end FinMap

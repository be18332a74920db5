/-
Objects that two tables share: a heap of objects, and two tables that refer to them, each under one of
their columns. An object changes through either table and is seen to have changed through the other.
-/
import Civ6LanBridge.Lib.FinMap

open Std

set_option linter.unusedSectionVars false

namespace FinMap

variable {R V K I : Type} [Ord R] [TransOrd R] [LawfulEqOrd R] [Ord K] [TransOrd K] [LawfulEqOrd K]
  [Ord I] [TransOrd I] [LawfulEqOrd I]

/-- Both tables refer to the same objects, each object under its own columns. -/
structure Shared (heap : ExtTreeMap R V) (f : V → K) (g : V → I) (byKey : ExtTreeMap K R) (byIndex : ExtTreeMap I R) :
    Prop where
  ofKey : ∀ (k : K) (r : R), byKey[k]? = some r → ∃ v : V, heap[r]? = some v ∧ f v = k ∧ byIndex[g v]? = some r
  ofIndex : ∀ (i : I) (r : R), byIndex[i]? = some r → ∃ v : V, heap[r]? = some v ∧ g v = i ∧ byKey[f v]? = some r

variable {heap : ExtTreeMap R V} {f : V → K} {g : V → I} {byKey : ExtTreeMap K R} {byIndex : ExtTreeMap I R}
  {k k' : K} {i i' : I} {r : R} {v : V}

namespace Shared

theorem empty (heap : ExtTreeMap R V) : Shared heap f g ∅ ∅ := by
  constructor
  · intro k r h
    simp at h
  · intro i r h
    simp at h

/-- No object is twice in a table. -/
theorem key_unique (h : Shared heap f g byKey byIndex) (hk : byKey[k]? = some r) (hk' : byKey[k']? = some r) :
    k = k' := by
  obtain ⟨v, hv, rfl, -⟩ := h.ofKey k r hk
  obtain ⟨v', hv', rfl, -⟩ := h.ofKey k' r hk'
  rw [Option.some.inj (hv.symm.trans hv')]

theorem index_unique (h : Shared heap f g byKey byIndex) (hi : byIndex[i]? = some r) (hi' : byIndex[i']? = some r) :
    i = i' := by
  obtain ⟨v, hv, rfl, -⟩ := h.ofIndex i r hi
  obtain ⟨v', hv', rfl, -⟩ := h.ofIndex i' r hi'
  rw [Option.some.inj (hv.symm.trans hv')]

/-- A new object under new columns. -/
theorem insert (h : Shared heap f g byKey byIndex) (hr : heap[r]? = none) (hk : byKey[f v]? = none)
    (hi : byIndex[g v]? = none) :
    Shared (heap.insert r v) f g (byKey.insert (f v) r) (byIndex.insert (g v) r) := by
  constructor
  · intro k r' hk'
    by_cases e : f v = k
    · rw [e, ExtTreeMap.getElem?_insert_self] at hk'
      cases hk'
      exact ⟨v, ExtTreeMap.getElem?_insert_self, e, ExtTreeMap.getElem?_insert_self⟩
    · rw [getElem?_insert_ne e] at hk'
      obtain ⟨w, hw, hf, hg⟩ := h.ofKey k r' hk'
      have hne : r ≠ r' := by
        rintro rfl
        cases hr.symm.trans hw
      have hgne : g v ≠ g w := by
        intro eg
        rw [← eg, hi] at hg
        cases hg
      exact ⟨w, (getElem?_insert_ne hne).trans hw, hf, (getElem?_insert_ne hgne).trans hg⟩
  · intro i r' hi'
    by_cases e : g v = i
    · rw [e, ExtTreeMap.getElem?_insert_self] at hi'
      cases hi'
      exact ⟨v, ExtTreeMap.getElem?_insert_self, e, ExtTreeMap.getElem?_insert_self⟩
    · rw [getElem?_insert_ne e] at hi'
      obtain ⟨w, hw, hg, hf⟩ := h.ofIndex i r' hi'
      have hne : r ≠ r' := by
        rintro rfl
        cases hr.symm.trans hw
      have hfne : f v ≠ f w := by
        intro ef
        rw [← ef, hk] at hf
        cases hf
      exact ⟨w, (getElem?_insert_ne hne).trans hw, hg, (getElem?_insert_ne hfne).trans hf⟩

/-- An object changes in other columns. -/
theorem modify (h : Shared heap f g byKey byIndex) {e : V → V} (hf : ∀ v, f (e v) = f v) (hg : ∀ v, g (e v) = g v) :
    Shared (heap.modify r e) f g byKey byIndex := by
  have hrow (r' : R) (v : V) (hv : heap[r']? = some v) : ∃ w : V, (heap.modify r e)[r']? = some w ∧ f w = f v ∧
      g w = g v := by
    by_cases er : r = r'
    · subst er
      rw [ExtTreeMap.getElem?_modify_self, hv]
      exact ⟨e v, rfl, hf v, hg v⟩
    · rw [getElem?_modify_ne er]
      exact ⟨v, hv, rfl, rfl⟩
  constructor
  · intro k r' hk
    obtain ⟨v, hv, hfv, hgv⟩ := h.ofKey k r' hk
    obtain ⟨w, hw, hfw, hgw⟩ := hrow r' v hv
    exact ⟨w, hw, hfw.trans hfv, hgw ▸ hgv⟩
  · intro i r' hi
    obtain ⟨v, hv, hgv, hfv⟩ := h.ofIndex i r' hi
    obtain ⟨w, hw, hfw, hgw⟩ := hrow r' v hv
    exact ⟨w, hw, hgw.trans hgv, hfw ▸ hfv⟩

/-- An object leaves both tables. -/
theorem erase (h : Shared heap f g byKey byIndex) (hv : heap[r]? = some v) (hk : byKey[f v]? = some r) :
    Shared heap f g (byKey.erase (f v)) (byIndex.erase (g v)) := by
  have hi : byIndex[g v]? = some r := by
    obtain ⟨w, hw, -, hg⟩ := h.ofKey _ _ hk
    cases hv.symm.trans hw
    exact hg
  constructor
  · intro k r' hk'
    by_cases e : f v = k
    · rw [e, ExtTreeMap.getElem?_erase_self] at hk'
      cases hk'
    · rw [getElem?_erase_ne e] at hk'
      obtain ⟨w, hw, hf, hg⟩ := h.ofKey k r' hk'
      refine ⟨w, hw, hf, ?_⟩
      rw [getElem?_erase_ne]
      · exact hg
      -- the same index would be the same object, under the same key
      · intro eg
        rw [← eg, hi] at hg
        cases hg
        exact e (h.key_unique hk hk')
  · intro i r' hi'
    by_cases e : g v = i
    · rw [e, ExtTreeMap.getElem?_erase_self] at hi'
      cases hi'
    · rw [getElem?_erase_ne e] at hi'
      obtain ⟨w, hw, hg, hf⟩ := h.ofIndex i r' hi'
      refine ⟨w, hw, hg, ?_⟩
      rw [getElem?_erase_ne]
      · exact hf
      · intro ef
        rw [← ef, hk] at hf
        cases hf
        exact e (h.index_unique hi hi')

end Shared

end FinMap

/-
Several finite maps kept in agreement by hand: an inverse index of a table by a column
(`IsIndex`), groups that list the keys of their members (`IsGrouping`), and rows of one table that
refer to rows of another (`Refers`). Each notion comes with one lemma for each way a program edits
the tables together.
-/
import Civ6LanBridge.Lib.FinMap

open Std

set_option linter.unusedSectionVars false

namespace FinMap

/-! ## Inverse indexes -/

section Index

variable {K V I : Type} [Ord K] [TransOrd K] [LawfulEqOrd K] [Ord I] [TransOrd I] [LawfulEqOrd I]
  {m : ExtTreeMap K V} {f : V → I} {idx : ExtTreeMap I K} {k : K} {v : V}

/-- `idx` finds the row of `m` that has a given value of the column `f`, and nothing else. -/
def IsIndex (m : ExtTreeMap K V) (f : V → I) (idx : ExtTreeMap I K) : Prop :=
  ∀ i k, idx[i]? = some k ↔ ∃ v, m[k]? = some v ∧ f v = i

theorem IsIndex.empty : IsIndex (∅ : ExtTreeMap K V) f ∅ := by
  intro i k; simp

theorem IsIndex.find (h : IsIndex m f idx) (hk : m[k]? = some v) : idx[f v]? = some k :=
  (h _ _).2 ⟨v, hk, rfl⟩

theorem IsIndex.none_iff (h : IsIndex m f idx) (i : I) :
    idx[i]? = none ↔ ∀ (k : K) (v : V), m[k]? = some v → f v ≠ i := by
  constructor
  · intro hi k v hk e
    have := h.find hk
    rw [e, hi] at this; cases this
  · intro hn
    cases hi : idx[i]? with
    | none => rfl
    | some k =>
      obtain ⟨v, hk, e⟩ := (h i k).1 hi
      exact absurd e (hn k v hk)

/-- An indexed column has no value twice. -/
theorem IsIndex.unique (h : IsIndex m f idx) {k' : K} {v' : V} (hk : m[k]? = some v) (hk' : m[k']? = some v')
    (e : f v = f v') : k = k' := by
  have h1 := h.find hk
  have h2 := h.find hk'
  rw [e, h2] at h1
  exact (Option.some.inj h1).symm

theorem IsIndex.insert (h : IsIndex m f idx) (hk : m[k]? = none) (hi : idx[f v]? = none) :
    IsIndex (m.insert k v) f (idx.insert (f v) k) := by
  intro i k'
  have hfree := (h.none_iff (f v)).1 hi
  have hik := h i k'
  by_cases hki : k = k'
  · subst hki
    by_cases hfi : f v = i <;> grind
  · by_cases hfi : f v = i <;> grind

theorem IsIndex.erase (h : IsIndex m f idx) (hk : m[k]? = some v) : IsIndex (m.erase k) f (idx.erase (f v)) := by
  intro i k'
  have hik := h i k'
  by_cases hki : k = k'
  · subst hki; by_cases hfi : f v = i <;> grind
  · have hne : ∀ v' : V, m[k']? = some v' → f v ≠ f v' := fun v' hk' e => hki (h.unique hk hk' e)
    by_cases hfi : f v = i <;> grind

/-- Editing a row leaves an index alone when the column keeps its value. -/
theorem IsIndex.modify (h : IsIndex m f idx) {g : V → V} (hg : ∀ v : V, m[k]? = some v → f (g v) = f v) :
    IsIndex (m.modify k g) f idx := by
  intro i k'
  have hik := h i k'
  rw [hik]
  by_cases hki : k = k'
  · subst hki
    cases hk : m[k]? with
    | none => simp [hk]
    | some v => simp [hk, hg v hk]
  · simp [ExtTreeMap.getElem?_modify, hki]

end Index

/-! ## Groups that list their members -/

section Grouping

variable {G S K V : Type} [Ord G] [TransOrd G] [LawfulEqOrd G] [Ord K] [TransOrd K] [LawfulEqOrd K]
  {groups : ExtTreeMap G S} {list : S → ExtTreeSet K} {m : ExtTreeMap K V} {g : V → G} {γ : G} {s : S}
  {k : K} {v : V}

/-- Every row of `m` names a group that exists, and each group lists exactly the rows naming it. -/
structure IsGrouping (groups : ExtTreeMap G S) (list : S → ExtTreeSet K) (m : ExtTreeMap K V) (g : V → G) :
    Prop where
  home : ∀ (k : K) (v : V), m[k]? = some v → ∃ s, groups[g v]? = some s
  mem_iff : ∀ (γ : G) (s : S), groups[γ]? = some s → ∀ k, k ∈ list s ↔ ∃ v, m[k]? = some v ∧ g v = γ

theorem IsGrouping.empty : IsGrouping (∅ : ExtTreeMap G S) list (∅ : ExtTreeMap K V) g :=
  ⟨fun k v h => by simp at h, fun γ s h => by simp at h⟩

theorem IsGrouping.addGroup (h : IsGrouping groups list m g) (hγ : groups[γ]? = none) (hs : list s = ∅) :
    IsGrouping (groups.insert γ s) list m g := by
  refine ⟨fun k v hk => ?_, fun γ' s' hs' k => ?_⟩
  · obtain ⟨s', hs'⟩ := h.home k v hk
    exact ⟨s', by grind⟩
  · by_cases hγ' : γ = γ'
    · subst hγ'
      have : s = s' := by grind
      subst this
      simp only [hs, ExtTreeSet.not_mem_empty, false_iff, not_exists, not_and]
      intro v hv e
      obtain ⟨s', hs'⟩ := h.home k v hv
      grind
    · exact h.mem_iff γ' s' (by grind) k

theorem IsGrouping.dropGroup (h : IsGrouping groups list m g) (hγ : groups[γ]? = some s) (hs : list s = ∅) :
    IsGrouping (groups.erase γ) list m g := by
  have hempty : ∀ (k : K) (v : V), m[k]? = some v → g v ≠ γ := by
    intro k v hk e
    have := (h.mem_iff γ s hγ k).2 ⟨v, hk, e⟩
    rw [hs] at this; simp at this
  refine ⟨fun k v hk => ?_, fun γ' s' hs' k => ?_⟩
  · obtain ⟨s', hs'⟩ := h.home k v hk
    have := hempty k v hk
    exact ⟨s', by grind⟩
  · exact h.mem_iff γ' s' (by grind) k

/-- A new row is listed by the group it names. -/
theorem IsGrouping.insert (h : IsGrouping groups list m g) (hk : m[k]? = none) (hγ : groups[g v]? = some s)
    {add : S → S} (ha : ∀ s, list (add s) = (list s).insert k) :
    IsGrouping (groups.modify (g v) add) list (m.insert k v) g := by
  refine ⟨fun k' v' hk' => ?_, fun γ' s' hs' k' => ?_⟩
  · have : ∃ s, groups[g v']? = some s := by
      by_cases e : k = k'
      · subst e
        have : v = v' := by grind
        subst this; exact ⟨s, hγ⟩
      · exact h.home k' v' (by grind)
    obtain ⟨s', hs'⟩ := this
    by_cases e : g v = g v'
    · exact ⟨add s', by grind⟩
    · exact ⟨s', by grind⟩
  · by_cases e : g v = γ'
    · subst e
      have : s' = add s := by grind
      subst this
      rw [ha, ExtTreeSet.mem_insert, Std.compare_eq_iff_eq, h.mem_iff _ s hγ k']
      by_cases ek : k = k' <;> grind
    · rw [h.mem_iff γ' s' (by grind) k']
      by_cases ek : k = k' <;> grind

/-- Erasing a row strikes it off its group's list. -/
theorem IsGrouping.erase (h : IsGrouping groups list m g) (hk : m[k]? = some v)
    {drop : S → S} (hd : ∀ s, list (drop s) = (list s).erase k) :
    IsGrouping (groups.modify (g v) drop) list (m.erase k) g := by
  refine ⟨fun k' v' hk' => ?_, fun γ' s' hs' k' => ?_⟩
  · obtain ⟨s', hs'⟩ := h.home k' v' (by grind)
    by_cases e : g v = g v'
    · exact ⟨drop s', by grind⟩
    · exact ⟨s', by grind⟩
  · by_cases e : g v = γ'
    · subst e
      obtain ⟨s, hs, rfl⟩ : ∃ s, groups[g v]? = some s ∧ s' = drop s := by grind
      rw [hd, ExtTreeSet.mem_erase, ne_eq, Std.compare_eq_iff_eq, h.mem_iff _ s hs k']
      by_cases ek : k = k' <;> grind
    · rw [h.mem_iff γ' s' (by grind) k']
      by_cases ek : k = k' <;> grind

/-- Editing a row leaves the lists alone when it keeps naming the same group. -/
theorem IsGrouping.modify (h : IsGrouping groups list m g) {f : V → V} (hf : ∀ v, g (f v) = g v) :
    IsGrouping groups list (m.modify k f) g := by
  have look : ∀ (k' : K) (v' : V), (m.modify k f)[k']? = some v' → ∃ v, m[k']? = some v ∧ g v = g v' := by
    intro k' v' hk'
    by_cases e : k = k'
    · subst e
      obtain ⟨v, hv, rfl⟩ : ∃ v, m[k]? = some v ∧ f v = v' := by grind
      exact ⟨v, hv, (hf v).symm⟩
    · exact ⟨v', by grind, rfl⟩
  refine ⟨fun k' v' hk' => ?_, fun γ' s' hs' k' => ?_⟩
  · obtain ⟨v, hv, e⟩ := look k' v' hk'
    rw [← e]; exact h.home k' v hv
  · rw [h.mem_iff γ' s' hs' k']
    by_cases e : k = k'
    · subst e
      cases hv : m[k]? with
      | none => simp [hv]
      | some v => simp [hv, hf]
    · simp [ExtTreeMap.getElem?_modify, e]

/-- Editing groups leaves the lists alone when the edit touches something else of the group. -/
theorem IsGrouping.modifyGroup (h : IsGrouping groups list m g) {f : S → S} (hf : ∀ s, list (f s) = list s) :
    IsGrouping (groups.modify γ f) list m g := by
  refine ⟨fun k v hk => ?_, fun γ' s' hs' k => ?_⟩
  · obtain ⟨s', hs'⟩ := h.home k v hk
    by_cases e : γ = g v
    · exact ⟨f s', by grind⟩
    · exact ⟨s', by grind⟩
  · by_cases e : γ = γ'
    · subst e
      obtain ⟨s, hs, rfl⟩ : ∃ s, groups[γ]? = some s ∧ s' = f s := by grind
      rw [hf]; exact h.mem_iff γ s hs k
    · exact h.mem_iff γ' s' (by grind) k

end Grouping

/-! ## References from one table to another -/

section Refers

variable {K V J W : Type} [Ord K] [TransOrd K] [LawfulEqOrd K] [Ord J] [TransOrd J] [LawfulEqOrd J]
  {m : ExtTreeMap K V} {key : V → J} {n : ExtTreeMap J W} {rel : V → W → Prop} {k : K} {v : V} {j : J}

/-- Every row of `m` refers, by `key`, to a row of `n` that matches it. -/
def Refers (m : ExtTreeMap K V) (key : V → J) (n : ExtTreeMap J W) (rel : V → W → Prop) : Prop :=
  ∀ (k : K) (v : V), m[k]? = some v → ∃ w, n[key v]? = some w ∧ rel v w

theorem Refers.empty : Refers (∅ : ExtTreeMap K V) key n rel := fun k v h => by simp at h

/-- Rows that were there before still refer. -/
theorem Refers.mono (h : Refers m key n rel) {m' : ExtTreeMap K V}
    (hs : ∀ (k : K) (v : V), m'[k]? = some v → ∃ v', m[k]? = some v' ∧ key v = key v' ∧ ∀ w, rel v' w → rel v w) :
    Refers m' key n rel := by
  intro k v hk
  obtain ⟨v', hv', ek, hr⟩ := hs k v hk
  obtain ⟨w, hw, hrel⟩ := h k v' hv'
  exact ⟨w, by rw [ek]; exact hw, hr w hrel⟩

theorem Refers.sub (h : Refers m key n rel) {m' : ExtTreeMap K V}
    (hs : ∀ (k : K) (v : V), m'[k]? = some v → m[k]? = some v) :
    Refers m' key n rel :=
  fun k v hk => h k v (hs k v hk)

theorem Refers.insert (h : Refers m key n rel) {w : W} (hw : n[key v]? = some w) (hr : rel v w) :
    Refers (m.insert k v) key n rel := by
  intro k' v' hk'
  by_cases e : k = k'
  · subst e
    have : v = v' := by grind
    subst this; exact ⟨w, hw, hr⟩
  · exact h k' v' (by grind)

/-- A row that is new in the referred table breaks nothing. -/
theorem Refers.insertTarget (h : Refers m key n rel) {w : W} (hj : n[j]? = none) :
    Refers m key (n.insert j w) rel := by
  intro k v hk
  obtain ⟨w', hw', hr⟩ := h k v hk
  exact ⟨w', by grind, hr⟩

theorem Refers.modifyTarget (h : Refers m key n rel) {f : W → W} (hf : ∀ v w, rel v w → rel v (f w)) :
    Refers m key (n.modify j f) rel := by
  intro k v hk
  obtain ⟨w, hw, hr⟩ := h k v hk
  by_cases e : j = key v
  · exact ⟨f w, by grind, hf v w hr⟩
  · exact ⟨w, by grind, hr⟩

/-- A row nothing refers to may be erased. -/
theorem Refers.eraseTarget (h : Refers m key n rel) (hj : ∀ (k : K) (v : V), m[k]? = some v → key v ≠ j) :
    Refers m key (n.erase j) rel := by
  intro k v hk
  obtain ⟨w, hw, hr⟩ := h k v hk
  have := hj k v hk
  exact ⟨w, by grind, hr⟩

end Refers

end FinMap

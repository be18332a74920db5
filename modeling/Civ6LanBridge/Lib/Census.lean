/-
Counting the rows of finite maps: a map whose keys come from another has no more rows, an inverse
index has as many rows as the table it inverts, and groups that list the rows naming them list as
many as there are.
-/
import Civ6LanBridge.Lib.Index

open Std

set_option linter.unusedSectionVars false

/-! ## Entries of a list -/

/-- Of kinds that exclude each other and all fall under one, there are no more entries than of that one. -/
theorem List.sum_countP_le {α : Type} {p : α → Bool} {kinds : List (α → Bool)} {l : List α}
    (h : ∀ a ∈ l, (kinds.map fun kind => (kind a).toNat).sum ≤ (p a).toNat) :
    (kinds.map fun kind => l.countP kind).sum ≤ l.countP p := by
  induction l with
  | nil => simp
  | cons a l ih =>
    have ih := ih fun b hb => h b (List.mem_cons_of_mem a hb)
    have ha := h a List.mem_cons_self
    have hcons : ∀ kind : α → Bool, (a :: l).countP kind = l.countP kind + (kind a).toNat := by
      intro kind
      rw [List.countP_cons]
      cases kind a <;> rfl
    simp only [hcons, List.sum_map_add]
    omega

/-! ## Rows of tables -/

namespace FinMap

section Census

variable {K J V W : Type} [Ord K] [TransOrd K] [LawfulEqOrd K] [Ord J] [TransOrd J] [LawfulEqOrd J]
  {m : ExtTreeMap K V} {n : ExtTreeMap J W} {f : V → J}

theorem mem_keys_iff {k : K} : k ∈ m.keys ↔ ∃ v, m[k]? = some v := by
  rw [ExtTreeMap.mem_keys, ExtTreeMap.mem_iff_isSome_getElem?, Option.isSome_iff_exists]

/-- The values of a column that has none twice are as many as there are rows, none of them twice. -/
theorem nodup_column (hinj : ∀ (k k' : K) (v v' : V), m[k]? = some v → m[k']? = some v' → f v = f v' → k = k') :
    (m.toList.map fun e => f e.2).Nodup := by
  have hkeys : (m.toList.map Prod.fst).Nodup := by
    rw [ExtTreeMap.map_fst_toList_eq_keys]
    exact ExtTreeMap.nodup_keys
  refine (List.nodup_map_iff_inj_on (List.Nodup.of_map _ hkeys)).2 ?_
  rintro ⟨k, v⟩ hk ⟨k', v'⟩ hk' e
  rw [ExtTreeMap.mem_toList_iff_getElem?_eq_some] at hk hk'
  obtain rfl := hinj k k' v v' hk hk' e
  rw [hk] at hk'
  cases hk'
  rfl

/-- Rows that name different rows of another table are no more than those. -/
theorem size_le_of_column (hinj : ∀ (k k' : K) (v v' : V), m[k]? = some v → m[k']? = some v' → f v = f v' → k = k')
    (hsub : ∀ (k : K) (v : V), m[k]? = some v → ∃ w, n[f v]? = some w) : m.size ≤ n.size := by
  have hsubset : (m.toList.map fun e => f e.2) ⊆ n.keys := by
    intro j hj
    obtain ⟨⟨k, v⟩, hk, rfl⟩ := List.mem_map.1 hj
    exact mem_keys_iff.2 (hsub k v (ExtTreeMap.mem_toList_iff_getElem?_eq_some.1 hk))
  have hle := (List.subperm_of_subset (nodup_column hinj) hsubset).length_le
  rwa [List.length_map, ExtTreeMap.length_toList, ExtTreeMap.length_keys] at hle

/-- An edit of a row leaves the keys. -/
theorem modify_has {k k' : K} {f : V → V} : (m.modify k f)[k']? ≠ none ↔ m[k']? ≠ none := by
  by_cases e : k = k'
  · subst e
    rw [ExtTreeMap.getElem?_modify_self, ne_eq, ne_eq, Option.map_eq_none_iff]
  · rw [getElem?_modify_ne e]

theorem size_le_of_keys {n : ExtTreeMap K W} (hsub : ∀ k : K, m[k]? ≠ none → n[k]? ≠ none) : m.size ≤ n.size := by
  have hsubset : m.keys ⊆ n.keys := by
    intro k hk
    rw [mem_keys_iff, ← Option.ne_none_iff_exists'] at hk ⊢
    exact hsub k hk
  have hle := (List.subperm_of_subset ExtTreeMap.nodup_keys hsubset).length_le
  rwa [ExtTreeMap.length_keys, ExtTreeMap.length_keys] at hle

theorem size_le_of_mem {s t : ExtTreeSet K} (hsub : ∀ k, k ∈ s → k ∈ t) : s.size ≤ t.size := by
  have hsubset : s.toList ⊆ t.toList := by
    intro k hk
    rw [ExtTreeSet.mem_toList] at hk ⊢
    exact hsub k hk
  have hnodup : s.toList.Nodup := ExtTreeSet.distinct_toList.imp fun h e => h (Std.compare_eq_iff_eq.2 e)
  have hle := (List.subperm_of_subset hnodup hsubset).length_le
  rwa [ExtTreeSet.length_toList, ExtTreeSet.length_toList] at hle

/-- An inverse index has as many rows as the table. -/
theorem IsIndex.size_eq {idx : ExtTreeMap J K} (h : IsIndex m f idx) : idx.size = m.size := by
  have hperm : idx.keys.Perm (m.toList.map fun e => f e.2) := by
    refine (List.perm_ext_iff_of_nodup ExtTreeMap.nodup_keys (nodup_column ?_)).2 fun i => ?_
    · intro k k' v v' hk hk' e
      exact h.unique hk hk' e
    · rw [mem_keys_iff, List.mem_map]
      constructor
      · rintro ⟨k, hk⟩
        obtain ⟨v, hv, rfl⟩ := (h i k).1 hk
        exact ⟨(k, v), ExtTreeMap.mem_toList_iff_getElem?_eq_some.2 hv, rfl⟩
      · rintro ⟨⟨k, v⟩, hk, rfl⟩
        exact ⟨k, h.find (ExtTreeMap.mem_toList_iff_getElem?_eq_some.1 hk)⟩
  rw [← ExtTreeMap.length_keys, hperm.length_eq, List.length_map, ExtTreeMap.length_toList]

/-- Every row is on the list of one group, once. -/
theorem IsGrouping.total {S : Type} {groups : ExtTreeMap J S} {list : S → ExtTreeSet K}
    (h : IsGrouping groups list m f) :
    (groups.toList.map fun e => (list e.2).size).sum = m.size := by
  have hgroup : ∀ e ∈ groups.toList, ∀ k, k ∈ (list e.2).toList ↔ ∃ v, m[k]? = some v ∧ f v = e.1 := by
    rintro ⟨j, s⟩ he k
    rw [ExtTreeSet.mem_toList]
    exact h.mem_iff j s (ExtTreeMap.mem_toList_iff_getElem?_eq_some.1 he) k
  have hnodup : (groups.toList.flatMap fun e => (list e.2).toList).Nodup := by
    refine List.nodup_flatMap.2 ⟨fun e _ => ?_, ?_⟩
    · exact ExtTreeSet.distinct_toList.imp fun h e => h (Std.compare_eq_iff_eq.2 e)
    · refine ExtTreeMap.distinct_keys_toList.imp_of_mem fun {a b} ha hb hne k hk hk' => ?_
      obtain ⟨v, hv, e⟩ := (hgroup a ha k).1 hk
      obtain ⟨v', hv', e'⟩ := (hgroup b hb k).1 hk'
      rw [hv] at hv'
      cases hv'
      exact hne (Std.compare_eq_iff_eq.2 (e.symm.trans e'))
  have hperm : (groups.toList.flatMap fun e => (list e.2).toList).Perm m.keys := by
    refine (List.perm_ext_iff_of_nodup hnodup ExtTreeMap.nodup_keys).2 fun k => ?_
    rw [List.mem_flatMap, mem_keys_iff]
    constructor
    · rintro ⟨e, he, hk⟩
      obtain ⟨v, hv, -⟩ := (hgroup e he k).1 hk
      exact ⟨v, hv⟩
    · rintro ⟨v, hv⟩
      obtain ⟨s, hs⟩ := h.home k v hv
      have he : (f v, s) ∈ groups.toList := ExtTreeMap.mem_toList_iff_getElem?_eq_some.2 hs
      exact ⟨_, he, (hgroup _ he k).2 ⟨v, hv, rfl⟩⟩
  have hlen := hperm.length_eq
  rw [List.length_flatMap, ExtTreeMap.length_keys] at hlen
  simpa only [ExtTreeSet.length_toList] using hlen

end Census

end FinMap

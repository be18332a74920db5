/-
Tables as partial functions: keeping the rows that satisfy a property (`keep`), what keeping
commutes with, and the finite maps (`FinMap.look`) that represent such tables: every edit of a map is
the edit of its table, and an edit of one group leaves the rows of the others alone (`rowsOf`).
-/
import Civ6LanBridge.Lib.FinMap

open Std

set_option linter.unusedSectionVars false

/-- A table with keys `K` and rows `V`. -/
abbrev Table (K V : Type) := K → Option V

namespace Table

variable {K V : Type} {P Q : V → Prop} {t u : Table K V} {k : K} {v : V}

open Classical in
/-- The rows that satisfy `P`. -/
noncomputable def keep (P : V → Prop) (t : Table K V) : Table K V := fun k => (t k).filter fun v => decide (P v)

theorem keep_eq_some : keep P t k = some v ↔ t k = some v ∧ P v := by
  simp [keep, Option.filter_eq_some_iff]

/-- Two tables are equal when they hold the same rows. -/
theorem ext_rows (h : ∀ k v, t k = some v ↔ u k = some v) : t = u := funext fun k => Option.ext fun v => h k v

theorem keep_comm : keep P (keep Q t) = keep Q (keep P t) := by
  refine ext_rows fun k v => ?_
  simp only [keep_eq_some]
  tauto

theorem keep_keep : keep P (keep Q t) = keep (fun v => Q v ∧ P v) t := by
  refine ext_rows fun k v => ?_
  simp only [keep_eq_some]
  tauto

/-- Only the rows that are there matter. -/
theorem keep_congr (h : ∀ k v, t k = some v → (P v ↔ Q v)) : keep P t = keep Q t := by
  refine ext_rows fun k v => ?_
  simp only [keep_eq_some]
  constructor
  · rintro ⟨ht, hp⟩; exact ⟨ht, (h k v ht).1 hp⟩
  · rintro ⟨ht, hq⟩; exact ⟨ht, (h k v ht).2 hq⟩

theorem keep_all (h : ∀ k v, t k = some v → P v) : keep P t = t := by
  refine ext_rows fun k v => ?_
  rw [keep_eq_some]
  exact ⟨And.left, fun ht => ⟨ht, h k v ht⟩⟩

/-- Editing rows by their keys commutes with keeping the rows of a property the edit respects. -/
theorem keep_bind {f : K → V → Option V} (hf : ∀ k v w, f k v = some w → (P w ↔ P v)) :
    keep P (fun k => (t k).bind (f k)) = fun k => (keep P t k).bind (f k) := by
  refine ext_rows fun k w => ?_
  simp only [keep_eq_some, Option.bind_eq_some_iff]
  constructor
  · rintro ⟨⟨v, hv, hw⟩, hp⟩; exact ⟨v, ⟨hv, (hf k v w hw).1 hp⟩, hw⟩
  · rintro ⟨v, ⟨hv, hp⟩, hw⟩; exact ⟨⟨v, hv, hw⟩, (hf k v w hw).2 hp⟩

end Table

namespace FinMap

open Table

variable {K V G : Type} [Ord K] [TransOrd K] [LawfulEqOrd K] {m : ExtTreeMap K V} {k : K} {v : V} {g : V → G} {γ : G}

/-- The table a finite map represents. -/
def look (m : ExtTreeMap K V) : Table K V := fun k => m[k]?

theorem look_filter (p : K → V → Bool) {P : V → Prop} (h : ∀ k v, m[k]? = some v → (p k v = true ↔ P v)) :
    look (m.filter p) = keep P (look m) := by
  refine ext_rows fun k v => ?_
  rw [keep_eq_some, look, getElem?_filter_eq_some]
  exact ⟨fun ⟨hk, hp⟩ => ⟨hk, (h k v hk).1 hp⟩, fun ⟨hk, hp⟩ => ⟨hk, (h k v hk).2 hp⟩⟩

theorem look_eraseAll (o : WalkOrder) (p : K → V → Bool) {P : V → Prop}
    (h : ∀ k v, m[k]? = some v → (p k v = false ↔ P v)) : look (eraseAll (keysWhere o p m) m) = keep P (look m) := by
  rw [eraseAll_keysWhere]
  exact look_filter _ fun k v hk => by rw [Bool.not_eq_true']; exact h k v hk

/-- The rows of one group. -/
noncomputable def rowsOf (g : V → G) (γ : G) (m : ExtTreeMap K V) : Table K V := keep (fun v => g v = γ) (look m)

theorem rowsOf_eq_some : rowsOf g γ m k = some v ↔ m[k]? = some v ∧ g v = γ := keep_eq_some

/-- An edit of a row of another group, or one that makes it a row of another group. -/
theorem rowsOf_congr {m' : ExtTreeMap K V} (hother : ∀ k' : K, k ≠ k' → m'[k']? = m[k']?)
    (hold : ∀ v : V, m[k]? = some v → g v ≠ γ) (hnew : ∀ v : V, m'[k]? = some v → g v ≠ γ) :
    rowsOf g γ m' = rowsOf g γ m := by
  refine ext_rows fun k' v => ?_
  rw [rowsOf_eq_some, rowsOf_eq_some]
  by_cases e : k = k'
  · subst e
    exact ⟨fun ⟨hv, hg⟩ => absurd hg (hnew v hv), fun ⟨hv, hg⟩ => absurd hg (hold v hv)⟩
  · rw [hother k' e]

theorem rowsOf_insert (hk : ∀ w : V, m[k]? = some w → g w ≠ γ) (hv : g v ≠ γ) :
    rowsOf g γ (m.insert k v) = rowsOf g γ m := by
  refine rowsOf_congr (fun k' e => getElem?_insert_ne e) hk fun w hw => ?_
  rw [ExtTreeMap.getElem?_insert_self] at hw
  cases hw
  exact hv

theorem rowsOf_erase (hk : ∀ w : V, m[k]? = some w → g w ≠ γ) : rowsOf g γ (m.erase k) = rowsOf g γ m := by
  refine rowsOf_congr (fun k' e => getElem?_erase_ne e) hk fun w hw => ?_
  rw [ExtTreeMap.getElem?_erase_self] at hw
  cases hw

theorem rowsOf_modify {f : V → V} (hf : ∀ w, g (f w) = g w) (hk : ∀ w : V, m[k]? = some w → g w ≠ γ) :
    rowsOf g γ (m.modify k f) = rowsOf g γ m := by
  refine rowsOf_congr (fun k' e => getElem?_modify_ne e) hk fun w hw => ?_
  rw [ExtTreeMap.getElem?_modify_self] at hw
  obtain ⟨v, hv, rfl⟩ := Option.map_eq_some_iff.1 hw
  rw [hf]
  exact hk v hv

/-- Filtering that spares a group. -/
theorem rowsOf_filter {p : K → V → Bool} (hp : ∀ (k : K) (v : V), m[k]? = some v → g v = γ → p k v = true) :
    rowsOf g γ (m.filter p) = rowsOf g γ m := by
  refine ext_rows fun k v => ?_
  rw [rowsOf_eq_some, rowsOf_eq_some, getElem?_filter_eq_some]
  exact ⟨fun ⟨⟨hv, _⟩, hg⟩ => ⟨hv, hg⟩, fun ⟨hv, hg⟩ => ⟨⟨hv, hp k v hv hg⟩, hg⟩⟩

end FinMap

/-
Two sets that are to have the same keys, and actors that work on them side by side. A key that is entered is published
in the first set and then recorded in the second, or withdrawn when that fails; a key that is removed is struck off the
second set and then dropped from the first. A key that only the first set has is owed by an actor that is still at work.
-/
import Mathlib

namespace Mirror

variable {K ι : Type*}

/-- How far an actor has come. -/
inductive Stage (K : Type*)
  | idle
  | entering (x : K)
  | recording (x : K)
  | withdrawing (x : K)
  | failed (x : K)
  | looking
  | striking (x : K)
  | dropping (x : K) (struck : Bool)
  | refused

namespace Stage

/-- Nothing is left to do. -/
def AtRest : Stage K → Prop
  | idle | failed _ | refused => True
  | _ => False

/-- The actor is there to enter the key, and has not recorded it. -/
def Enters (x : K) : Stage K → Prop
  | entering y | recording y | withdrawing y | failed y => y = x
  | _ => False

/-- The actor will see to it that the sets agree on the key again. -/
def Owes (x : K) : Stage K → Prop
  | recording y | withdrawing y | dropping y true => y = x
  | _ => False

/-- The actor stands for it that the first set does not have the key. -/
def Excludes (x : K) : Stage K → Prop
  | entering y | failed y => y = x
  | _ => False

theorem Excludes.enters {st : Stage K} {x : K} (h : st.Excludes x) : st.Enters x := by
  cases st <;> simp_all [Excludes, Enters]

end Stage

open Stage

/-- The steps of an actor that go well. -/
inductive Acts (A B : Set K) : Stage K → Stage K → Set K → Set K → Prop
  | rest : Acts A B idle idle A B
  | wait {x : K} : Acts A B (entering x) (entering x) A B
  | decline {x : K} : Acts A B (entering x) (failed x) A B
  | publish {x : K} : Acts A B (entering x) (recording x) (insert x A) B
  | record {x : K} : x ∈ A → Acts A B (recording x) idle A (insert x B)
  | lose {x : K} : Acts A B (recording x) (withdrawing x) A B
  | withdraw {x : K} : Acts A B (withdrawing x) (failed x) (A \ {x}) B
  | look : Acts A B looking looking A B
  | find {x : K} : Acts A B looking (striking x) A B
  | leave {st st' : Stage K} : (∀ x, ¬ st.Enters x ∧ ¬ st.Owes x) → st' = idle ∨ st' = refused → Acts A B st st' A B
  | strike {x : K} {struck : Bool} : (x ∈ B → struck = true) → Acts A B (striking x) (dropping x struck) A (B \ {x})
  | drop {x : K} {struck : Bool} : x ∉ B → Acts A B (dropping x struck) idle (A \ {x}) B

/-- What the actors keep between them. -/
structure Inv (A B : Set K) (st : ι → Stage K) : Prop where
  sub : B ⊆ A
  owed : ∀ x ∈ A, x ∉ B → ∃ i, (st i).Owes x
  unrecorded : ∀ i x, (st i).Enters x → x ∉ B
  excluded : ∀ i x, (st i).Excludes x → x ∉ A
  single : ∀ i j x, (st i).Enters x → (st j).Enters x → i = j

namespace Inv

variable {A B A' B' : Set K} {st : ι → Stage K} {i : ι} {t : Stage K}

/-- A step enters no key but those its actor enters, and takes over what the actor owes. -/
theorem update [DecidableEq ι] (h : Inv A B st) (hsub : B' ⊆ A')
    (howed : ∀ x ∈ A', x ∉ B' → t.Owes x ∨ x ∈ A ∧ x ∉ B ∧ ¬ (st i).Owes x)
    (henters : ∀ x, t.Enters x → (st i).Enters x ∧ x ∉ B') (hexcludes : ∀ x, t.Excludes x → x ∉ A')
    (hpublished : ∀ x ∈ A', x ∈ A ∨ (st i).Enters x) (hrecorded : ∀ x ∈ B', x ∈ B ∨ (st i).Enters x) :
    Inv A' B' (Function.update st i t) where
  sub := hsub
  owed := fun x hA hB => by
    rcases howed x hA hB with ht | ⟨hA₀, hB₀, hi⟩
    · exact ⟨i, by rw [Function.update_self]; exact ht⟩
    · rcases h.owed x hA₀ hB₀ with ⟨j, hj⟩
      have hne : j ≠ i := by
        rintro rfl
        exact hi hj
      exact ⟨j, by rw [Function.update_of_ne hne]; exact hj⟩
  unrecorded := fun j x hj hB => by
    by_cases e : j = i
    · subst e
      rw [Function.update_self] at hj
      exact (henters x hj).2 hB
    · rw [Function.update_of_ne e] at hj
      rcases hrecorded x hB with hB₀ | hi
      · exact h.unrecorded j x hj hB₀
      · exact e (h.single j i x hj hi)
  excluded := fun j x hj hA => by
    by_cases e : j = i
    · subst e
      rw [Function.update_self] at hj
      exact hexcludes x hj hA
    · rw [Function.update_of_ne e] at hj
      rcases hpublished x hA with hA₀ | hi
      · exact h.excluded j x hj hA₀
      · exact e (h.single j i x hj.enters hi)
  single := by
    have hback : ∀ j x, (Function.update st i t j).Enters x → (st j).Enters x := by
      intro j x hj
      by_cases e : j = i
      · subst e
        rw [Function.update_self] at hj
        exact (henters x hj).1
      · rwa [Function.update_of_ne e] at hj
    exact fun j k x hj hk => h.single j k x (hback j x hj) (hback k x hk)

theorem step [DecidableEq ι] (h : Inv A B st) {st₀ : Stage K} (hi : st i = st₀) (ha : Acts A B st₀ t A' B') :
    Inv A' B' (Function.update st i t) := by
  have howed : ∀ x ∈ A, x ∉ B → (st i).Owes x ∨ x ∈ A ∧ x ∉ B ∧ ¬ (st i).Owes x := by
    intro x hA hB
    by_cases ho : (st i).Owes x
    · exact Or.inl ho
    · exact Or.inr ⟨hA, hB, ho⟩
  have hunrecorded := h.unrecorded i
  have hexcluded := h.excluded i
  rw [hi] at howed hunrecorded hexcluded
  cases ha with
  | rest | look =>
    refine h.update h.sub (by rwa [hi]) ?_ ?_ (fun x => Or.inl) fun x => Or.inl <;> simp [Enters, Excludes]
  | find =>
    refine h.update h.sub ?_ ?_ ?_ (fun x => Or.inl) fun x => Or.inl
    · rw [hi]
      exact fun x hA hB => Or.inr ⟨hA, hB, id⟩
    all_goals simp [Enters, Excludes]
  | wait =>
    refine h.update h.sub (by rwa [hi]) ?_ hexcluded (fun x => Or.inl) fun x => Or.inl
    rw [hi]
    exact fun x hx => ⟨hx, hunrecorded x hx⟩
  | decline =>
    refine h.update h.sub ?_ ?_ hexcluded (fun x => Or.inl) fun x => Or.inl
    · rw [hi]
      exact fun x hA hB => Or.inr ⟨hA, hB, id⟩
    · rw [hi]
      exact fun x hx => ⟨hx, hunrecorded x hx⟩
  | @publish x =>
    refine h.update (fun y hy => Or.inr (h.sub hy)) ?_ ?_ (by simp [Excludes]) ?_ fun y => Or.inl
    · rw [hi]
      rintro y (rfl | hA) hB
      · exact Or.inl rfl
      · exact Or.inr ⟨hA, hB, id⟩
    · rw [hi]
      exact fun y hy => ⟨hy, hunrecorded y hy⟩
    · rw [hi]
      rintro y (rfl | hA)
      · exact Or.inr rfl
      · exact Or.inl hA
  | @record x hx =>
    refine h.update ?_ ?_ (by simp [Enters]) (by simp [Excludes]) (fun y => Or.inl) ?_
    · rintro y (rfl | hB)
      · exact hx
      · exact h.sub hB
    · rw [hi]
      intro y hA hB
      rw [Set.mem_insert_iff, not_or] at hB
      exact Or.inr ⟨hA, hB.2, Ne.symm hB.1⟩
    · rw [hi]
      rintro y (rfl | hB)
      · exact Or.inr rfl
      · exact Or.inl hB
  | lose =>
    refine h.update h.sub (by rw [hi]; exact howed) ?_ (by simp [Excludes]) (fun x => Or.inl) fun x => Or.inl
    rw [hi]
    exact fun x hx => ⟨hx, hunrecorded x hx⟩
  | @withdraw x =>
    refine h.update ?_ ?_ ?_ ?_ (fun y hy => Or.inl hy.1) fun y => Or.inl
    · exact fun y hB => ⟨h.sub hB, by rintro rfl; exact hunrecorded _ rfl hB⟩
    · rw [hi]
      exact fun y hA hB => Or.inr ⟨hA.1, hB, fun e => hA.2 e.symm⟩
    · rw [hi]
      exact fun y hy => ⟨hy, hunrecorded y hy⟩
    · rintro y rfl hA
      exact hA.2 rfl
  | leave hnone hrest =>
    have hquiet : ∀ x, ¬ t.Enters x ∧ ¬ t.Excludes x := by
      rcases hrest with rfl | rfl <;> simp [Enters, Excludes]
    refine h.update h.sub ?_ (fun x hx => absurd hx (hquiet x).1) (fun x hx => absurd hx (hquiet x).2)
      (fun x => Or.inl) fun x => Or.inl
    rw [hi]
    exact fun x hA hB => Or.inr ⟨hA, hB, (hnone x).2⟩
  | @strike x struck hstruck =>
    refine h.update (fun y hB => h.sub hB.1) ?_ (by simp [Enters]) (by simp [Excludes]) (fun y => Or.inl)
      fun y hB => Or.inl hB.1
    rw [hi]
    intro y hA hB
    by_cases hy : y ∈ B
    · obtain rfl : y = x := by simpa [hy] using hB
      rw [hstruck hy]
      exact Or.inl rfl
    · exact Or.inr ⟨hA, hy, id⟩
  | @drop x struck hx =>
    refine h.update ?_ ?_ (by simp [Enters]) (by simp [Excludes]) (fun y hA => Or.inl hA.1) fun y => Or.inl
    · exact fun y hB => ⟨h.sub hB, by rintro rfl; exact hx hB⟩
    · rw [hi]
      intro y hA hB
      refine Or.inr ⟨hA.1, hB, fun ho => hA.2 ?_⟩
      cases struck with
      | true => exact ho.symm
      | false => exact ho.elim

/-- When every actor is at rest, the sets are the same. -/
theorem settled (h : Inv A B st) (hrest : ∀ i, (st i).AtRest) : A = B := by
  refine Set.Subset.antisymm (fun x hA => ?_) h.sub
  by_contra hB
  rcases h.owed x hA hB with ⟨i, hi⟩
  have hr := hrest i
  cases hst : st i <;> simp_all [AtRest, Owes]

end Inv

end Mirror

/-
Byte strings on the wire: big-endian numbers, programs that read a byte slice from the front and
can panic on an index out of range (`Reader`), and when a reader reads back exactly what a writer
writes (`Exact`).
-/
import Mathlib

namespace Bytes

/-! ## Big-endian numbers -/

/-- The low `n` bytes of a number, most significant first. -/
def toBe : Nat → Nat → List UInt8
  | 0, _ => []
  | n + 1, x => UInt8.ofNat (x / 256 ^ n) :: toBe n x

/-- The number a big-endian byte string spells. -/
def ofBe : List UInt8 → Nat
  | [] => 0
  | b :: bs => b.toNat * 256 ^ bs.length + ofBe bs

@[simp] theorem length_toBe (n x : Nat) : (toBe n x).length = n := by
  induction n with
  | zero => rfl
  | succ n ih => simp [toBe, ih]

theorem ofBe_lt (bs : List UInt8) : ofBe bs < 256 ^ bs.length := by
  induction bs with
  | nil => simp [ofBe]
  | cons b bs ih =>
    have hb : b.toNat ≤ 255 := by have := b.toNat_lt; omega
    calc ofBe (b :: bs) < b.toNat * 256 ^ bs.length + 256 ^ bs.length := by simpa [ofBe] using ih
      _ ≤ 255 * 256 ^ bs.length + 256 ^ bs.length := by gcongr
      _ = 256 ^ (b :: bs).length := by rw [List.length_cons, pow_succ]; ring

theorem ofBe_toBe (n x : Nat) : ofBe (toBe n x) = x % 256 ^ n := by
  induction n with
  | zero => simp [toBe, ofBe, Nat.mod_one]
  | succ n ih =>
    have hb : (UInt8.ofNat (x / 256 ^ n)).toNat = x / 256 ^ n % 256 := by simp
    rw [toBe, ofBe, ih, length_toBe, hb, Nat.pow_succ, Nat.mod_mul, Nat.mul_comm, Nat.add_comm]

theorem ofBe_toBe_of_lt {n x : Nat} (h : x < 256 ^ n) : ofBe (toBe n x) = x := by
  rw [ofBe_toBe, Nat.mod_eq_of_lt h]

/-- Byte strings of one length spell different numbers. -/
theorem ofBe_inj : ∀ {as bs : List UInt8}, as.length = bs.length → ofBe as = ofBe bs → as = bs
  | [], [], _, _ => rfl
  | a :: as, b :: bs, hl, h => by
    have hl' : as.length = bs.length := by simpa using hl
    have ha := ofBe_lt as
    have hb := ofBe_lt bs
    rw [← hl'] at hb
    simp only [ofBe, ← hl'] at h
    have hpos : 0 < 256 ^ as.length := by positivity
    have hab : a.toNat = b.toNat := by
      have h1 : (a.toNat * 256 ^ as.length + ofBe as) / 256 ^ as.length = a.toNat := by
        rw [Nat.mul_comm, Nat.mul_add_div hpos, Nat.div_eq_of_lt ha, Nat.add_zero]
      have h2 : (b.toNat * 256 ^ as.length + ofBe bs) / 256 ^ as.length = b.toNat := by
        rw [Nat.mul_comm, Nat.mul_add_div hpos, Nat.div_eq_of_lt hb, Nat.add_zero]
      rw [← h1, h, h2]
    rw [hab] at h
    rw [UInt8.toNat_inj.1 hab, ofBe_inj hl' (by omega)]

theorem toBe_ofBe (bs : List UInt8) : toBe bs.length (ofBe bs) = bs :=
  ofBe_inj (length_toBe _ _) (ofBe_toBe_of_lt (ofBe_lt bs))

/-! ## Slices -/

/-- What a computation over slices can do instead of returning a value: panic on an index out of
range, or fail with an error of its own. -/
inductive Fault (ε : Type) where
  | panic
  | error (e : ε)
deriving DecidableEq

variable {ε δ α β : Type}

/-- `?` on an error of another type. -/
def Fault.map (f : ε → δ) : Fault ε → Fault δ
  | .panic => .panic
  | .error e => .error (f e)

/-- `slice[i]`. -/
def index (bs : List UInt8) (i : Nat) : Except (Fault ε) UInt8 :=
  match bs[i]? with
  | some b => .ok b
  | none => .error .panic

/-- `&slice[..n]`. -/
def prefixTo (bs : List UInt8) (n : Nat) : Except (Fault ε) (List UInt8) :=
  if n ≤ bs.length then .ok (bs.take n) else .error .panic

/-- `&slice[n..]`. -/
def suffixFrom (bs : List UInt8) (n : Nat) : Except (Fault ε) (List UInt8) :=
  if n ≤ bs.length then .ok (bs.drop n) else .error .panic

/-! ## Readers -/

/-- A program that consumes a byte slice from the front. -/
abbrev Reader (ε α : Type) := StateT (List UInt8) (Except (Fault ε)) α

namespace Reader

theorem run_bind (x : Reader ε α) (f : α → Reader ε β) (s : List UInt8) :
    (x >>= f).run s = match x.run s with
      | .ok (a, s') => (f a).run s'
      | .error e => .error e := by
  rw [StateT.run_bind]
  cases x.run s <;> rfl

theorem bind_ok {x : Reader ε α} {f : α → Reader ε β} {s : List UInt8} {r : β × List UInt8}
    (h : (x >>= f).run s = .ok r) : ∃ a s', x.run s = .ok (a, s') ∧ (f a).run s' = .ok r := by
  rw [run_bind] at h
  split at h
  · rename_i a s' hx; exact ⟨a, s', hx, h⟩
  · cases h

theorem pure_ok {a b : α} {s s' : List UInt8} (h : (pure a : Reader ε α).run s = .ok (b, s')) : a = b ∧ s = s' := by
  cases h; exact ⟨rfl, rfl⟩

/-- A reader that never panics, whatever the input. -/
def NoPanic (r : Reader ε α) : Prop := ∀ s, r.run s ≠ .error .panic

theorem NoPanic.pure (a : α) : NoPanic (pure a : Reader ε α) := fun s h => by cases h

theorem NoPanic.bind {x : Reader ε α} {f : α → Reader ε β} (hx : NoPanic x) (hf : ∀ a, NoPanic (f a)) :
    NoPanic (x >>= f) := by
  intro s h
  rw [run_bind] at h
  split at h
  · exact hf _ _ h
  · rename_i e he; cases h; exact hx s he

/-- The reader `r` reads back what `w` writes whatever follows it, accepts nothing else, and never
panics. -/
structure Exact (w : α → List UInt8) (r : Reader ε α) : Prop where
  read : ∀ a rest, r.run (w a ++ rest) = .ok (a, rest)
  image : ∀ {s a rest}, r.run s = .ok (a, rest) → s = w a ++ rest
  noPanic : NoPanic r

/-- A reader of a fixed number of bytes is exact when its decoding inverts the writer both ways. -/
theorem Exact.fixed {n : Nat} {w : α → List UInt8} {d : List UInt8 → α} {r : Reader ε α}
    (hlen : ∀ a, (w a).length = n) (hdec : ∀ a, d (w a) = a) (henc : ∀ bs, bs.length = n → w (d bs) = bs)
    (hshort : ∀ s, s.length < n → ∃ e, r.run s = .error (.error e))
    (hrun : ∀ bs rest, bs.length = n → r.run (bs ++ rest) = .ok (d bs, rest)) : Exact w r := by
  have split : ∀ s : List UInt8, n ≤ s.length → r.run s = .ok (d (s.take n), s.drop n) := by
    intro s hs
    have := hrun (s.take n) (s.drop n) (by rw [List.length_take]; omega)
    rwa [List.take_append_drop] at this
  refine ⟨fun a rest => ?_, fun {s a rest} h => ?_, fun s h => ?_⟩
  · rw [hrun _ _ (hlen a), hdec]
  · by_cases hs : s.length < n
    · obtain ⟨e, he⟩ := hshort s hs
      rw [he] at h; cases h
    · rw [split s (by omega)] at h
      cases h
      rw [henc _ (by rw [List.length_take]; omega), List.take_append_drop]
  · by_cases hs : s.length < n
    · obtain ⟨e, he⟩ := hshort s hs
      rw [he] at h; cases h
    · rw [split s (by omega)] at h; cases h

/-- Reading two values one after the other. -/
theorem Exact.seq {w : α → List UInt8} {v : β → List UInt8} {r : Reader ε α} {q : Reader ε β} (hr : Exact w r)
    (hq : Exact v q) : Exact (fun ab : α × β => w ab.1 ++ v ab.2) (do return (← r, ← q)) := by
  refine ⟨fun ab rest => ?_, fun {s ab rest} h => ?_, hr.noPanic.bind fun a => hq.noPanic.bind fun b => .pure _⟩
  · rw [List.append_assoc, run_bind, hr.read]
    simp only [run_bind, hq.read]; rfl
  · obtain ⟨a, s', ha, h⟩ := bind_ok h
    obtain ⟨b, s'', hb, h⟩ := bind_ok h
    obtain ⟨rfl, rfl⟩ := pure_ok h
    rw [hr.image ha, hq.image hb, List.append_assoc]

end Reader

end Bytes

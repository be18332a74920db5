/-
`server/src/metrics.rs`: what the counters of a server make of the packets that arrive. A packet counts as a duplicate
when its fingerprint is in a cache, which is cleaned up now and then and emptied when it is full. Clock readings are
arguments, and so is the hash function. The sequence numbers are in `Server.State`.
-/
import Civ6LanBridge.Lib.Past
import Civ6LanBridge.Protocol.Ids

namespace Civ6LanBridge

open Std FinMap Past

/-! ## The cache -/

structure SeenPacketCache where
  entries : ExtTreeMap UInt64 Instant
  lastCleanup : Instant

namespace SeenPacketCache

def maxSeenPackets : Nat := 65536
def seenPacketTtl : Duration := Duration.fromSecs 60
def seenPacketCleanupInterval : Duration := Duration.fromSecs 1

/-- `Default`, at the given time. -/
def default (now : Instant) : SeenPacketCache := { entries := ∅, lastCleanup := now }

def cleanUp (seen : SeenPacketCache) (now : Instant) : SeenPacketCache :=
  if seenPacketCleanupInterval ≤ now - seen.lastCleanup then
    { entries := seen.entries.filter fun _ timestamp => now - timestamp ≤ seenPacketTtl, lastCleanup := now }
  else seen

/-- The cache has no room for the fingerprint. -/
def full (seen : SeenPacketCache) (fingerprint : UInt64) : Bool :=
  !seen.entries.contains fingerprint && maxSeenPackets ≤ seen.entries.size

/-- Whether the fingerprint is in the cache, which then has it as of now. -/
def see (seen : SeenPacketCache) (fingerprint : UInt64) (now : Instant) : Bool × SeenPacketCache :=
  let seen := seen.cleanUp now
  let duplicate := seen.entries.contains fingerprint
  -- a full cache is emptied, not thinned
  let entries := if seen.full fingerprint then ∅ else seen.entries
  (duplicate, { seen with entries := entries.insert fingerprint now })

end SeenPacketCache

/-! ## The counters -/

/-- `RelayMetrics`, with the counters of what arrives. -/
structure RelayMetrics where
  receivedPackets : UInt64
  bytesIn : UInt64
  duplicatedPackets : UInt64
  seenPackets : SeenPacketCache

namespace RelayMetrics

def default (now : Instant) : RelayMetrics :=
  { receivedPackets := 0, bytesIn := 0, duplicatedPackets := 0, seenPackets := .default now }

/-- `fingerprint` is what the default hasher makes of the bytes of a packet. -/
def recordReceived (fingerprint : List UInt8 → UInt64) (metrics : RelayMetrics) (packet : List UInt8) (now : Instant) :
    RelayMetrics :=
  let (duplicate, seenPackets) := metrics.seenPackets.see (fingerprint packet) now
  { receivedPackets := metrics.receivedPackets + 1
    bytesIn := metrics.bytesIn + UInt64.ofNat packet.length
    duplicatedPackets := if duplicate then metrics.duplicatedPackets + 1 else metrics.duplicatedPackets
    seenPackets }

end RelayMetrics

/-! ## One packet -/

namespace SeenPacketCache

variable {seen : SeenPacketCache} {f g : UInt64} {now t : Instant}

/-- What a clean-up leaves was there before. -/
theorem cleanUp_sub (h : (seen.cleanUp now).entries[f]? = some t) : seen.entries[f]? = some t := by
  unfold cleanUp at h
  split at h
  · exact (getElem?_filter_eq_some.1 h).1
  · exact h

/-- Nor does it remove what is not too old. -/
theorem cleanUp_keeps (h : seen.entries[f]? = some t) (hage : now - t ≤ seenPacketTtl) :
    (seen.cleanUp now).entries[f]? = some t := by
  unfold cleanUp
  split
  · exact getElem?_filter_eq_some.2 ⟨h, decide_eq_true hage⟩
  · exact h

theorem cleanUp_last : (seen.cleanUp now).lastCleanup = now ∨ (seen.cleanUp now).lastCleanup = seen.lastCleanup := by
  unfold cleanUp
  split
  · exact Or.inl rfl
  · exact Or.inr rfl

theorem cleanUp_size (h : seen.entries.size ≤ maxSeenPackets) : (seen.cleanUp now).entries.size ≤ maxSeenPackets := by
  unfold cleanUp
  split
  · exact ExtTreeMap.size_filter_le_size.trans h
  · exact h

theorem see_size (h : seen.entries.size ≤ maxSeenPackets) : (seen.see f now).2.entries.size ≤ maxSeenPackets := by
  have hsize := @cleanUp_size seen now h
  unfold see full
  dsimp only
  by_cases hf : (seen.cleanUp now).entries.contains f = true
  · rw [hf, Bool.not_true, Bool.false_and, if_neg Bool.false_ne_true, ExtTreeMap.size_insert, if_pos hf]
    exact hsize
  · rw [Bool.eq_false_iff.2 hf, Bool.not_false, Bool.true_and]
    split
    · rw [ExtTreeMap.size_insert]
      simp [maxSeenPackets]
    · rename_i hroom
      rw [ExtTreeMap.size_insert, if_neg hf]
      exact Nat.not_le.1 fun hle => hroom (decide_eq_true hle)

/-- What is in the cache after a packet is the packet itself, or was there before it. -/
theorem see_sub (h : (seen.see f now).2.entries[g]? = some t) :
    f = g ∧ t = now ∨ (seen.cleanUp now).entries[g]? = some t := by
  unfold see at h
  dsimp only at h
  by_cases e : f = g
  · subst e
    rw [ExtTreeMap.getElem?_insert_self] at h
    exact Or.inl ⟨rfl, (Option.some.inj h).symm⟩
  · rw [getElem?_insert_ne e] at h
    split at h
    · rw [ExtTreeMap.getElem?_empty] at h
      cases h
    · exact Or.inr h

/-- Unless the cache is emptied, a packet leaves the others in it. -/
theorem see_keeps (hroom : (seen.cleanUp now).full f = false) (hne : f ≠ g) :
    (seen.see f now).2.entries[g]? = (seen.cleanUp now).entries[g]? := by
  unfold see
  dsimp only
  rw [hroom, if_neg Bool.false_ne_true, getElem?_insert_ne hne]

@[simp] theorem see_self : (seen.see f now).2.entries[f]? = some now := ExtTreeMap.getElem?_insert_self

/-- The entries are no older than the last clean-up allows. -/
def Tidy (seen : SeenPacketCache) : Prop :=
  ∀ (f : UInt64) (t : Instant), seen.entries[f]? = some t → seen.lastCleanup ≤ t + seenPacketTtl

theorem age_lt {now t last ttl interval : Nat} (hage : now - last < interval) (hlast : last ≤ t + ttl) :
    now < t + (ttl + interval) := by
  omega

/-- Just after the clean-up that comes with a packet an entry is at most as old as the time to live and the time between
two clean-ups. -/
theorem Tidy.recent (h : seen.Tidy) (hf : (seen.cleanUp now).entries[f]? = some t) :
    now < t + (seenPacketTtl + seenPacketCleanupInterval) := by
  unfold cleanUp at hf
  split at hf
  · have hage := of_decide_eq_true (getElem?_filter_eq_some.1 hf).2
    exact age_lt (by rw [Nat.sub_self]; decide : now - now < seenPacketCleanupInterval) (Nat.sub_le_iff_le_add'.1 hage)
  · rename_i hsoon
    exact age_lt (Nat.not_le.1 hsoon) (h f t hf)

theorem Tidy.see (h : seen.Tidy) (hlast : seen.lastCleanup ≤ now) : (seen.see f now).2.Tidy := by
  intro g t hg
  show (seen.cleanUp now).lastCleanup ≤ t + seenPacketTtl
  rcases see_sub hg with ⟨-, rfl⟩ | hg
  · unfold cleanUp
    split
    · exact Nat.le_add_right _ _
    · exact hlast.trans (Nat.le_add_right _ _)
  · unfold cleanUp at hg ⊢
    split at hg
    · rename_i hdue
      rw [if_pos hdue]
      exact Nat.sub_le_iff_le_add'.1 (of_decide_eq_true (getElem?_filter_eq_some.1 hg).2)
    · rename_i hsoon
      rw [if_neg hsoon]
      exact h g t hg

end SeenPacketCache

/-! ## Any number of packets -/

/-- A packet that arrives. -/
structure Receipt where
  packet : List UInt8
  now : Instant

namespace RelayMetrics

variable (fingerprint : List UInt8 → UInt64)

def apply (metrics : RelayMetrics) (receipt : Receipt) : RelayMetrics :=
  metrics.recordReceived fingerprint receipt.packet receipt.now

/-- What becomes of the counters under some packets, the latest first. -/
def history (created : Instant) (receipts : List Receipt) : List (Move RelayMetrics Receipt) :=
  replay (apply fingerprint) (default created) receipts

/-- The packet is counted as a duplicate. -/
def CountsDuplicate (m : Move RelayMetrics Receipt) : Prop := m.after.duplicatedPackets = m.before.duplicatedPackets + 1

/-- The cache has the fingerprint of the packet. -/
def known (m : Move RelayMetrics Receipt) : Bool :=
  (m.before.seenPackets.cleanUp m.event.now).entries.contains (fingerprint m.event.packet)

/-- The packet has the cache emptied, because it is full. -/
def Empties (m : Move RelayMetrics Receipt) : Prop :=
  (m.before.seenPackets.cleanUp m.event.now).full (fingerprint m.event.packet) = true

/-- The two packets have the same fingerprint. -/
def SameFingerprint (m m' : Move RelayMetrics Receipt) : Prop :=
  fingerprint m.event.packet = fingerprint m'.event.packet

/-- The cache is bounded; what counts as a duplicate was there a short while ago; and what was there not longer ago than
the time to live counts as a duplicate, unless the cache has been emptied since. -/
structure Recognizes (h : List (Move RelayMetrics Receipt)) : Prop where
  bounded : ∀ m ∈ h, m.after.seenPackets.entries.size ≤ SeenPacketCache.maxSeenPackets
  recent : ∀ recent m old, h = recent ++ m :: old → CountsDuplicate m → ∃ x ∈ old, SameFingerprint fingerprint x m ∧
    m.event.now < x.event.now + (SeenPacketCache.seenPacketTtl + SeenPacketCache.seenPacketCleanupInterval)
  caught : ∀ recent m old, h = recent ++ m :: old →
    Since (fun x => SameFingerprint fingerprint x m ∧ m.event.now - x.event.now ≤ SeenPacketCache.seenPacketTtl)
      (fun x => ¬ Empties fingerprint x) old → CountsDuplicate m

section

variable {fingerprint} {created now : Instant} {receipts : List Receipt}

/-- What is counted when a packet arrives. -/
theorem apply_duplicatedPackets (metrics : RelayMetrics) (r : Receipt) :
    (metrics.apply fingerprint r).duplicatedPackets = metrics.duplicatedPackets +
      UInt64.ofNat
        (known fingerprint { before := metrics, event := r, after := metrics.apply fingerprint r }).toNat := by
  show (if (metrics.seenPackets.cleanUp r.now).entries.contains (fingerprint r.packet) = true then
    metrics.duplicatedPackets + 1 else metrics.duplicatedPackets) = _
  unfold known
  cases (metrics.seenPackets.cleanUp r.now).entries.contains (fingerprint r.packet) <;> simp

theorem countsDuplicate_iff {metrics : RelayMetrics} {r : Receipt} :
    CountsDuplicate { before := metrics, event := r, after := metrics.apply fingerprint r } ↔
      ∃ t, (metrics.seenPackets.cleanUp r.now).entries[fingerprint r.packet]? = some t := by
  rw [← Option.isSome_iff_exists, ExtTreeMap.isSome_getElem?_eq_contains]
  show (metrics.apply fingerprint r).duplicatedPackets = metrics.duplicatedPackets + 1 ↔
    known fingerprint { before := metrics, event := r, after := metrics.apply fingerprint r } = true
  rw [apply_duplicatedPackets]
  cases known fingerprint { before := metrics, event := r, after := metrics.apply fingerprint r } <;> simp

/-- What the cache is like after packets at times that never go back. -/
structure Kept (fingerprint : List UInt8 → UInt64) (created : Instant) (receipts : List Receipt)
    (seen : SeenPacketCache) : Prop where
  size : seen.entries.size ≤ SeenPacketCache.maxSeenPackets
  tidy : seen.Tidy
  cleanup : seen.lastCleanup = created ∨ ∃ r ∈ receipts, seen.lastCleanup = r.now
  entries : ∀ (f : UInt64) (t : Instant), seen.entries[f]? = some t → ∃ r ∈ receipts,
    fingerprint r.packet = f ∧ r.now = t

theorem kept (hreceipts : (receipts.map (·.now) ++ [created]).Pairwise fun later earlier => earlier ≤ later) :
    Kept fingerprint created receipts (final (apply fingerprint) (default created) receipts).seenPackets := by
  induction receipts with
  | nil =>
    have hnone : ∀ f : UInt64, (∅ : ExtTreeMap UInt64 Instant)[f]? = none := fun f => ExtTreeMap.getElem?_empty
    exact ⟨ExtTreeMap.size_empty.trans_le (Nat.zero_le _), fun f t hf => (nomatch (hnone f).symm.trans hf), Or.inl rfl,
      fun f t hf => (nomatch (hnone f).symm.trans hf)⟩
  | cons r receipts ih =>
    rcases List.pairwise_cons.1 hreceipts with ⟨hle, hreceipts⟩
    have h := ih hreceipts
    generalize hseen : (final (apply fingerprint) (default created) receipts).seenPackets = seen at h
    have hlast : seen.lastCleanup ≤ r.now := by
      rcases h.cleanup with e | ⟨x, hx, e⟩
      · rw [e]
        exact hle created (List.mem_append_right _ List.mem_cons_self)
      · rw [e]
        exact hle x.now (List.mem_append_left _ (List.mem_map_of_mem hx))
    show Kept fingerprint created (r :: receipts)
      ((final (apply fingerprint) (default created) receipts).seenPackets.see _ r.now).2
    rw [hseen]
    refine ⟨SeenPacketCache.see_size h.size, h.tidy.see hlast, ?_, fun f t hf => ?_⟩
    · rcases @SeenPacketCache.cleanUp_last seen r.now with e | e
      · exact Or.inr ⟨r, List.mem_cons_self, e⟩
      · exact h.cleanup.imp e.trans fun ⟨x, hx, hlast⟩ => ⟨x, List.mem_cons_of_mem _ hx, e.trans hlast⟩
    · rcases SeenPacketCache.see_sub hf with ⟨rfl, rfl⟩ | hf
      · exact ⟨r, List.mem_cons_self, rfl, rfl⟩
      · rcases h.entries f t (SeenPacketCache.cleanUp_sub hf) with ⟨x, hx, e⟩
        exact ⟨x, List.mem_cons_of_mem _ hx, e⟩

/-- What was seen a while ago is still there, if the cache has not been emptied since. -/
theorem since_entry (hreceipts : (receipts.map (·.now) ++ [created]).Pairwise fun later earlier => earlier ≤ later)
    {f : UInt64} (hnow : ∀ r ∈ receipts, r.now ≤ now)
    (h : Since (fun x => fingerprint x.event.packet = f ∧ now - x.event.now ≤ SeenPacketCache.seenPacketTtl)
      (fun x => ¬ Empties fingerprint x) (history fingerprint created receipts)) :
    ∃ t, (final (apply fingerprint) (default created) receipts).seenPackets.entries[f]? = some t ∧
      now - t ≤ SeenPacketCache.seenPacketTtl := by
  induction receipts with
  | nil => exact h.elim
  | cons r receipts ih =>
    have hkept := @kept fingerprint created receipts (List.pairwise_cons.1 hreceipts).2
    generalize hseen : (final (apply fingerprint) (default created) receipts).seenPackets = seen at hkept ih
    show ∃ t, ((final (apply fingerprint) (default created) receipts).seenPackets.see _ r.now).2.entries[f]? =
      some t ∧ _
    rw [hseen]
    rcases h with ⟨rfl, hage⟩ | ⟨hroom, h⟩
    · exact ⟨r.now, SeenPacketCache.see_self, hage⟩
    rcases ih (List.pairwise_cons.1 hreceipts).2 (fun x hx => hnow x (List.mem_cons_of_mem _ hx)) h with ⟨t, ht, hage⟩
    have hr : r.now ≤ now := hnow r List.mem_cons_self
    by_cases e : fingerprint r.packet = f
    · -- the same fingerprint again, and later
      subst e
      rcases hkept.entries _ t ht with ⟨x, hx, -, rfl⟩
      have hle : x.now ≤ r.now :=
        (List.pairwise_cons.1 hreceipts).1 x.now (List.mem_append_left _ (List.mem_map_of_mem hx))
      exact ⟨r.now, SeenPacketCache.see_self, (Nat.sub_le_sub_left hle now).trans hage⟩
    · have hroom : (seen.cleanUp r.now).full (fingerprint r.packet) = false := by
        rw [← hseen]
        exact Bool.eq_false_iff.2 hroom
      rw [SeenPacketCache.see_keeps hroom e]
      exact ⟨t, SeenPacketCache.cleanUp_keeps ht ((Nat.sub_le_sub_right hr t).trans hage), hage⟩

/-- Packets that arrive at times that never go back are recognized. -/
theorem history_recognizes
    (hreceipts : (receipts.map (·.now) ++ [created]).Pairwise fun later earlier => earlier ≤ later) :
    Recognizes fingerprint (history fingerprint created receipts) := by
  -- a packet of the history comes after the receipts that are older
  have hsplit : ∀ recent m old, history fingerprint created receipts = recent ++ m :: old → ∃ r receipts₀,
      old = history fingerprint created receipts₀ ∧
      m = { before := final (apply fingerprint) (default created) receipts₀, event := r,
            after := final (apply fingerprint) (default created) (r :: receipts₀) } ∧
      ((r :: receipts₀).map (·.now) ++ [created]).Pairwise fun later earlier => earlier ≤ later := by
    intro recent m old h
    rcases replay_split h with ⟨receipts₁, r, receipts₀, rfl, hold, hm⟩
    refine ⟨r, receipts₀, hold, hm, hreceipts.sublist ?_⟩
    exact ((List.sublist_append_right receipts₁ _).map _).append_right _
  constructor
  · intro m hm
    rcases List.append_of_mem hm with ⟨recent, old, h⟩
    rcases hsplit recent m old h with ⟨r, receipts₀, -, rfl, hle⟩
    exact (kept hle).size
  · intro recent m old h hdup
    rcases hsplit recent m old h with ⟨r, receipts₀, rfl, rfl, hle⟩
    have hkept := @kept fingerprint created receipts₀ (List.pairwise_cons.1 hle).2
    rcases countsDuplicate_iff.1 hdup with ⟨t, ht⟩
    have hage := hkept.tidy.recent ht
    rcases hkept.entries _ t (SeenPacketCache.cleanUp_sub ht) with ⟨x, hx, hfp, rfl⟩
    have hmem : ∃ mx ∈ history fingerprint created receipts₀, mx.event = x := replay_mem hx
    rcases hmem with ⟨mx, hmx, he⟩
    exact ⟨mx, hmx, by rw [SameFingerprint, he]; exact hfp, by rw [he]; exact hage⟩
  · intro recent m old h hsince
    rcases hsplit recent m old h with ⟨r, receipts₀, rfl, rfl, hle⟩
    have hnow : ∀ x ∈ receipts₀, x.now ≤ r.now := fun x hx =>
      (List.pairwise_cons.1 hle).1 x.now (List.mem_append_left _ (List.mem_map_of_mem hx))
    rcases since_entry (List.pairwise_cons.1 hle).2 hnow hsince with ⟨t, ht, hage⟩
    exact countsDuplicate_iff.2 ⟨t, SeenPacketCache.cleanUp_keeps ht hage⟩

end

/-! ## A packet that arrives twice -/

namespace Example

/-- Some hash of the bytes of a packet. -/
def digest (packet : List UInt8) : UInt64 := packet.foldl (fun h b => 31 * h + b.toUInt64) 7

/-- The same packet a minute after the first time, with another in between; the latest first. -/
def packets : List Receipt := [⟨[1, 2], 60000000000⟩, ⟨[3], 59000000000⟩, ⟨[1, 2], 0⟩]

end Example

open Example in
theorem copy_counted : ∃ m old, history digest 0 packets = m :: old ∧ CountsDuplicate m := by
  have hrecognizes : Recognizes digest (history digest 0 packets) := history_recognizes (by decide)
  refine ⟨_, _, rfl, hrecognizes.caught [] _ _ rfl ?_⟩
  refine Or.inr ⟨?_, Or.inl ⟨rfl, by decide⟩⟩
  show ¬ (_ = true)
  decide +kernel

end RelayMetrics

end Civ6LanBridge

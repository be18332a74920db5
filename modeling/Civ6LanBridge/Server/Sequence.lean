/-
Sequence numbers over a run. For each peer the tracker holds one number, the largest that has reached
the check since the tracker was last emptied; a copy of a datagram is recognised by that number only,
so it is recognised exactly as long as no larger number has come in between and the tracker was kept.
-/
import Civ6LanBridge.Server.History

namespace Civ6LanBridge

open Std FinMap Past AppState

/-! ## One check -/

namespace SequenceTracker

variable {tracker : SequenceTracker} {p q : PeerId} {n k : UInt64}

/-- What a check of a number other than zero does to the tracker. -/
theorem recordSequence_cases (tracker : SequenceTracker) (p : PeerId) (hn : n ≠ 0) :
    (tracker.lastSeen[p]? = none ∧ (tracker.recordSequence p n).2.lastSeen =
      (if maxSequenceTrackers ≤ tracker.lastSeen.size then ∅ else tracker.lastSeen).insert p n) ∨
    ∃ k, tracker.lastSeen[p]? = some k ∧
      (n ≤ k ∧ (tracker.recordSequence p n).2 = tracker ∨
        k < n ∧ (tracker.recordSequence p n).2.lastSeen = tracker.lastSeen.insert p n) := by
  unfold recordSequence
  rw [if_neg hn]
  cases hk : tracker.lastSeen[p]? with
  | none => exact Or.inl ⟨rfl, rfl⟩
  | some k =>
    refine Or.inr ⟨k, rfl, ?_⟩
    dsimp only
    by_cases he : n = k
    · rw [if_pos he]
      exact Or.inl ⟨he ▸ UInt64.le_refl n, rfl⟩
    by_cases hlt : n < k
    · rw [if_neg he, if_pos hlt]
      exact Or.inl ⟨UInt64.le_of_lt hlt, rfl⟩
    · rw [if_neg he, if_neg hlt]
      refine Or.inr ⟨?_, rfl⟩
      rw [UInt64.lt_iff_toNat_lt] at hlt ⊢
      have hne : n.toNat ≠ k.toNat := fun e => he (UInt64.toNat_inj.1 e)
      omega

/-- Only the number that is checked is new in the tracker. -/
theorem recordSequence_sub (hn : n ≠ 0) (hk : (tracker.recordSequence p n).2.lastSeen[q]? = some k) :
    (q = p ∧ k = n) ∨ tracker.lastSeen[q]? = some k := by
  have hinsert : ∀ {m : ExtTreeMap PeerId UInt64}, (m.insert p n)[q]? = some k → (q = p ∧ k = n) ∨ m[q]? = some k := by
    intro m hm
    by_cases e : p = q
    · subst e
      rw [ExtTreeMap.getElem?_insert_self] at hm
      cases hm
      exact Or.inl ⟨rfl, rfl⟩
    · rw [getElem?_insert_ne e] at hm
      exact Or.inr hm
  rcases recordSequence_cases tracker p hn with ⟨-, e⟩ | ⟨j, -, ⟨-, e⟩ | ⟨-, e⟩⟩
  · rw [e] at hk
    refine (hinsert hk).imp_right fun hq => ?_
    split at hq
    · simp at hq
    · exact hq
  · rw [e] at hk
    exact Or.inr hk
  · rw [e] at hk
    exact hinsert hk

end SequenceTracker

/-! ## Checks in the history -/

/-- A discovery or gameplay datagram of the peer, with a number other than zero, gets to the check. -/
def Checks (p : PeerId) (n : UInt64) (m : Move AppState Event) : Prop :=
  ∃ o relayPort source packet limiterNow now peer envelope,
    m.event = .datagram o relayPort source packet limiterNow now ∧
    Passes m.before source packet limiterNow p peer envelope ∧ (∀ requestId, envelope.message ≠ .relayProbe requestId) ∧
    envelope.meta.sequence = n ∧ n ≠ 0

/-- The tracker is full and is emptied for a new peer. -/
def Empties (m : Move AppState Event) : Prop :=
  ∃ p n, Checks p n m ∧ m.before.sequenceTracker.lastSeen[p]? = none ∧
    SequenceTracker.maxSequenceTrackers ≤ m.before.sequenceTracker.lastSeen.size

open Classical in
/-- The history from the move on that last emptied the tracker; the number checked in that move stays. -/
noncomputable def sinceEmptied : Moves → Moves
  | [] => []
  | m :: h => if Empties m then [m] else m :: sinceEmptied h

/-- The largest number of the peer that has been checked, if any has. -/
inductive Highest (p : PeerId) (h : Moves) : Option UInt64 → Prop
  | unseen : (∀ m ∈ h, ∀ j, ¬ Checks p j m) → Highest p h none
  | seen {m k} : m ∈ h → Checks p k m → (∀ m ∈ h, ∀ j, Checks p j m → j ≤ k) → Highest p h (some k)

section

variable {config : RouterConfig} {s s' : AppState} {e : Event} {h : Moves} {m : Move AppState Event} {p : PeerId}
  {n k : UInt64} {x : Option UInt64}

theorem Highest.skip (hx : Highest p h x) (hm : ∀ j, ¬ Checks p j m) : Highest p (m :: h) x := by
  cases hx with
  | unseen hnone =>
    refine .unseen fun m' hm' => ?_
    rcases List.mem_cons.1 hm' with rfl | hm'
    · exact hm
    · exact hnone m' hm'
  | seen hin hc hall =>
    refine .seen (List.mem_cons_of_mem m hin) hc fun m' hm' j hj => ?_
    rcases List.mem_cons.1 hm' with rfl | hm'
    · exact absurd hj (hm j)
    · exact hall m' hm' j hj

/-- A number that is at least as large as all before it is the largest. -/
theorem Highest.rise (hx : Highest p h x) (hle : ∀ k, x = some k → k ≤ n) (hm : ∀ j, Checks p j m ↔ j = n) :
    Highest p (m :: h) (some n) := by
  refine .seen List.mem_cons_self ((hm n).2 rfl) fun m' hm' j hj => ?_
  rcases List.mem_cons.1 hm' with rfl | hm'
  · exact ((hm j).1 hj) ▸ UInt64.le_refl j
  · cases hx with
    | unseen hnone => exact absurd hj (hnone m' hm' j)
    | seen _ _ hall => exact UInt64.le_trans (hall m' hm' j hj) (hle _ rfl)

theorem Highest.keep (hx : Highest p h (some k)) (hle : n ≤ k) (hm : ∀ j, Checks p j m ↔ j = n) :
    Highest p (m :: h) (some k) := by
  cases hx with
  | seen hin hc hall =>
    refine .seen (List.mem_cons_of_mem m hin) hc fun m' hm' j hj => ?_
    rcases List.mem_cons.1 hm' with rfl | hm'
    · exact ((hm j).1 hj) ▸ hle
    · exact hall m' hm' j hj

theorem Highest.unique {y : Option UInt64} (hx : Highest p h x) (hy : Highest p h y) : x = y := by
  cases hx with
  | unseen hnone =>
    cases hy with
    | unseen => rfl
    | seen hin hc => exact absurd hc (hnone _ hin _)
  | seen hin hc hall =>
    cases hy with
    | unseen hnone => exact absurd hc (hnone _ hin _)
    | seen hin' hc' hall' => rw [UInt64.le_antisymm (hall' _ hin _ hc) (hall _ hin' _ hc')]

/-- An event checks no number, or one number, which the tracker records. -/
theorem tracker_step (hw : s.router.WF) (he : Happens s e s') :
    let m : Move AppState Event := { before := s, event := e, after := s' }
    s'.sequenceTracker = s.sequenceTracker ∧ (∀ p n, ¬ Checks p n m) ∨
      ∃ p n, n ≠ 0 ∧ (∀ q k, Checks q k m ↔ q = p ∧ k = n) ∧
        s'.sequenceTracker = (s.sequenceTracker.recordSequence p n).2 := by
  intro m
  obtain ⟨-, rfl⟩ := he
  cases e with
  | control =>
    refine Or.inl ⟨rfl, ?_⟩
    rintro p n ⟨_, _, _, _, _, _, _, _, hev, -⟩
    cases hev
  | datagram o relayPort source packet limiterNow now =>
    have hh := handleDatagram_handles o relayPort hw source packet limiterNow now
    change (handleDatagram o relayPort s source packet limiterNow now).2.sequenceTracker = _ ∧ _ ∨
      ∃ p n, _ ∧ _ ∧ (handleDatagram o relayPort s source packet limiterNow now).2.sequenceTracker = _
    generalize hx : handleDatagram o relayPort s source packet limiterNow now = x at hh
    -- all checks in this move are of the message of the sender
    have hchecks : ∀ {p peer envelope}, Passes s source packet limiterNow p peer envelope → ∀ q k, Checks q k m →
        q = p ∧ (∀ requestId, envelope.message ≠ .relayProbe requestId) ∧ envelope.meta.sequence = k ∧ k ≠ 0 := by
      rintro p peer envelope hpass q k ⟨_, _, _, _, _, _, _, _, hev, hpass', hmsg, hseq, hk⟩
      cases hev
      obtain ⟨rfl, rfl⟩ := (hpass.fromPeer hw).passes hw hpass'
      exact ⟨rfl, hmsg, hseq, hk⟩
    have hrecorded : ∀ {p peer envelope tracker}, Passes s source packet limiterNow p peer envelope →
        (∀ requestId, envelope.message ≠ .relayProbe requestId) →
        tracker = (s.sequenceTracker.recordSequence p envelope.meta.sequence).2 →
        tracker = s.sequenceTracker ∧ (∀ p n, ¬ Checks p n m) ∨ ∃ p n, n ≠ 0 ∧ (∀ q k, Checks q k m ↔ q = p ∧ k = n) ∧
          tracker = (s.sequenceTracker.recordSequence p n).2 := by
      intro p peer envelope tracker hpass hmsg htracker
      by_cases hzero : envelope.meta.sequence = 0
      · refine Or.inl ⟨?_, fun q k hc => ?_⟩
        · rw [htracker, SequenceTracker.recordSequence, if_pos hzero]
        · obtain ⟨-, -, hseq, hk⟩ := hchecks hpass q k hc
          exact hk (hseq.symm.trans hzero)
      · refine Or.inr ⟨p, _, hzero, fun q k => ⟨fun hc => ?_, ?_⟩, htracker⟩
        · obtain ⟨hq, -, hseq, -⟩ := hchecks hpass q k hc
          exact ⟨hq, hseq.symm⟩
        · rintro ⟨rfl, rfl⟩
          exact ⟨o, relayPort, source, packet, limiterNow, now, peer, envelope, rfl, hpass, hmsg, rfl, hzero⟩
    cases hh with
    | refused _ hno =>
      refine Or.inl ⟨rfl, ?_⟩
      rintro p n ⟨_, _, _, _, _, _, peer, envelope, hev, hpass, -⟩
      cases hev
      exact hno p peer envelope hpass
    | answered hpass hprobe =>
      refine Or.inl ⟨rfl, fun p n hc => ?_⟩
      obtain ⟨-, hmsg, -⟩ := hchecks hpass p n hc
      exact hmsg _ hprobe
    | duplicate hpass hmsg hrec => exact hrecorded hpass hmsg (by rw [hrec]; rfl)
    | failed hpass hmsg hrec => exact hrecorded hpass hmsg (by rw [hrec])
    | routed hpass hmsg hrec => exact hrecorded hpass hmsg (by rw [hrec])

/-- The tracker holds the largest number of each peer that has been checked since it was emptied. -/
theorem tracker_highest (hr : Run (Starts config) Happens h s) (p : PeerId) :
    Highest p (sinceEmptied h) (s.sequenceTracker.lastSeen[p]?) := by
  induction hr with
  | init hs =>
    rw [hs.sequenceTracker, ExtTreeMap.getElem?_empty]
    exact .unseen (by simp [sinceEmptied])
  | @step h s s' e hr he ih =>
    rw [sinceEmptied]
    -- no check leaves the tracker alone; a check starts a row, raises it or leaves it
    rcases tracker_step (starts_router hr).wf he with ⟨hsame, hno⟩ | ⟨q, n, hn, hchecks, htracker⟩
    · rw [if_neg fun ⟨q, n, hc, _⟩ => hno q n hc, hsame]
      exact ih.skip (hno p)
    have hempties : Empties { before := s, event := e, after := s' } ↔ s.sequenceTracker.lastSeen[q]? = none ∧
        SequenceTracker.maxSequenceTrackers ≤ s.sequenceTracker.lastSeen.size := by
      constructor
      · rintro ⟨q', n', hc, hnone, hsize⟩
        obtain ⟨rfl, -⟩ := (hchecks q' n').1 hc
        exact ⟨hnone, hsize⟩
      · exact fun ⟨hnone, hsize⟩ => ⟨q, n, (hchecks q n).2 ⟨rfl, rfl⟩, hnone, hsize⟩
    -- the number goes into the table of those that were checked before it, or into an empty one
    have hinsert : ∀ (h' : Moves) {m : ExtTreeMap PeerId UInt64}, Highest p h' (m[p]?) →
        (∀ k, m[q]? = some k → k ≤ n) →
        Highest p ({ before := s, event := e, after := s' } :: h') ((m.insert q n)[p]?) := by
      intro h' m hx hle
      by_cases hpq : q = p
      · subst hpq
        rw [ExtTreeMap.getElem?_insert_self]
        exact hx.rise hle (by simp [hchecks])
      · rw [getElem?_insert_ne hpq]
        exact hx.skip fun j hj => hpq ((hchecks p j).1 hj).1.symm
    have hkept : ∀ {k}, s.sequenceTracker.lastSeen[q]? = some k →
        ¬ Empties { before := s, event := e, after := s' } := by
      intro k hk hm
      rw [(hempties.1 hm).1] at hk
      cases hk
    rw [htracker]
    rcases SequenceTracker.recordSequence_cases s.sequenceTracker q hn with ⟨hnone, e'⟩ | ⟨k, hk, ⟨hle, e'⟩ | ⟨hlt, e'⟩⟩
    · rw [e']
      by_cases hsize : SequenceTracker.maxSequenceTrackers ≤ s.sequenceTracker.lastSeen.size
      · rw [if_pos (hempties.2 ⟨hnone, hsize⟩), if_pos hsize]
        refine hinsert [] ?_ (by simp)
        rw [ExtTreeMap.getElem?_empty]
        exact .unseen (by simp)
      · rw [if_neg fun hm => hsize (hempties.1 hm).2, if_neg hsize]
        exact hinsert _ ih (by rw [hnone]; simp)
    · rw [if_neg (hkept hk), e']
      by_cases hpq : q = p
      · subst hpq
        rw [hk] at ih ⊢
        exact ih.keep hle (by simp [hchecks])
      · exact ih.skip fun j hj => hpq ((hchecks p j).1 hj).1.symm
    · rw [if_neg (hkept hk), e']
      refine hinsert _ ih fun j hj => ?_
      rw [hk] at hj
      cases hj
      exact UInt64.le_of_lt hlt

/-! ## Copies -/

/-- A discovery or gameplay datagram of the peer with the number is accepted. -/
def Accepts (p : PeerId) (n : UInt64) (m : Move AppState Event) : Prop :=
  ∃ o relayPort source packet limiterNow now envelope out,
    m.event = .datagram o relayPort source packet limiterNow now ∧
    FromPeer m.before source packet p envelope ∧ (∀ requestId, envelope.message ≠ .relayProbe requestId) ∧
    envelope.meta.sequence = n ∧ (handleDatagram o relayPort m.before source packet limiterNow now).1 = .ok out

/-- What is accepted has been checked. -/
theorem Accepts.checks (hw : m.before.router.WF) (ha : Accepts p n m) (hn : n ≠ 0) : Checks p n m := by
  obtain ⟨o, relayPort, source, packet, limiterNow, now, envelope, out, hev, hfrom, hmsg, hseq, hok⟩ := ha
  obtain ⟨q, peer, envelope', hpass⟩ := accepted_passes hw hok
  obtain ⟨rfl, rfl⟩ := hfrom.passes hw hpass
  exact ⟨o, relayPort, source, packet, limiterNow, now, peer, envelope', hev, hpass, hmsg, hseq, hn⟩

/-- A copy of a datagram that was accepted is refused at the gate, or it is checked; and then it is refused
as a duplicate exactly if its number is the largest of the peer that has been checked since the tracker
was emptied. If the tracker was not emptied after the acceptance, only a larger number can prevent that. -/
theorem duplicate_iff (hr : Run (Starts config) Happens h s) (hm : m ∈ h) (ha : Accepts p n m) (hn : n ≠ 0)
    {source : SocketAddr} {packet : List UInt8} {envelope : RelayEnvelope} (hfrom : FromPeer s source packet p envelope)
    (hmsg : ∀ requestId, envelope.message ≠ .relayProbe requestId) (hseq : envelope.meta.sequence = n)
    (o : WalkOrder) (relayPort : UInt16) (limiterNow now : Instant) :
    ((∀ peer, ¬ Passes s source packet limiterNow p peer envelope) →
        ∃ f, (handleDatagram o relayPort s source packet limiterNow now).1 = .error f) ∧
      (∀ peer, Passes s source packet limiterNow p peer envelope →
        ((handleDatagram o relayPort s source packet limiterNow now).1 = .error (.error (.duplicateSequence n)) ↔
          Highest p (sinceEmptied h) (some n))) ∧
      (m ∈ sinceEmptied h →
        (Highest p (sinceEmptied h) (some n) ↔ ∀ x ∈ sinceEmptied h, ∀ k, Checks p k x → k ≤ n)) := by
  have hw := (starts_router hr).wf
  -- the row of the tracker is the largest number, so the two agree on `n`
  have hlast : s.sequenceTracker.lastSeen[p]? = some n ↔ Highest p (sinceEmptied h) (some n) := by
    constructor
    · intro e
      rw [← e]
      exact tracker_highest hr p
    · exact (tracker_highest hr p).unique
  have hother : ∀ {q peer' envelope' disposition tracker}, Passes s source packet limiterNow q peer' envelope' →
      s.sequenceTracker.recordSequence q envelope'.meta.sequence = (disposition, tracker) → disposition ≠ .duplicate →
      ¬ Highest p (sinceEmptied h) (some n) := by
    intro q peer' envelope' disposition tracker hpass hrec hdup hx
    obtain ⟨rfl, rfl⟩ := hfrom.passes hw hpass
    rw [hseq, SequenceTracker.recordSequence, if_neg hn, hlast.2 hx] at hrec
    simp only [if_true] at hrec
    cases hrec
    exact hdup rfl
  have hh := handleDatagram_handles o relayPort hw source packet limiterNow now
  generalize handleDatagram o relayPort s source packet limiterNow now = x at hh ⊢
  refine ⟨fun hno => ?_, fun peer' hpass => ?_, fun hin => ⟨fun hx => ?_, fun hall => ?_⟩⟩
  · cases hh with
    | refused => exact ⟨_, rfl⟩
    | duplicate => exact ⟨_, rfl⟩
    | failed => exact ⟨_, rfl⟩
    | answered hpass =>
      obtain ⟨rfl, rfl⟩ := hfrom.passes hw hpass
      exact absurd hpass (hno _)
    | routed hpass =>
      obtain ⟨rfl, rfl⟩ := hfrom.passes hw hpass
      exact absurd hpass (hno _)
  · cases hh with
    | refused _ hno => exact absurd hpass (hno _ _ _)
    | answered hpass' hprobe =>
      obtain ⟨rfl, rfl⟩ := hfrom.passes hw hpass'
      exact absurd hprobe (hmsg _)
    | duplicate hpass' _ hrec =>
      obtain ⟨rfl, rfl⟩ := hfrom.passes hw hpass'
      have hseen := (recordSequence_duplicate hrec).2
      rw [hseq] at hseen ⊢
      exact iff_of_true rfl (hlast.1 hseen)
    | failed hpass' _ hrec hdup hf =>
      refine iff_of_false (fun e => ?_) (hother hpass' hrec hdup)
      cases e
      exact hf n rfl
    | routed hpass' _ hrec hdup => exact iff_of_false nofun (hother hpass' hrec hdup)
  · cases hx with
    | seen _ _ hall => exact hall
  · obtain ⟨⟨old, hold⟩, -⟩ := hr.mem hm
    exact .seen hin (ha.checks (starts_router hold).wf hn) hall

end

namespace RoomRouter.Example

/-- A gameplay packet on the session with a sequence number. -/
def numbered (n : UInt64) : List UInt8 :=
  frame relayProtocolVersion MessageKind.gameplayPacket
    (({ sequence := n } : RelayEnvelopeMeta).fields ++ pathBytes none 0 ++ (Uuid.ofByte 5).bytes ++ [0xf2, 0x68, 7])

def numberedEnvelope (n : UInt64) : RelayEnvelope :=
  { message := .gameplayPacket session ⟨62056⟩ [7], «meta» := { sequence := n } }

/-- The guest plays its packets with the numbers, the latest first. -/
def playing (numbers : List UInt64) : List Event :=
  numbers.map (fun n => .datagram .sorted 32000 (sender guestIp) (numbered n) 0 0) ++ selecting

theorem playing_permitted : ∀ numbers : List UInt64, booted.Permitted (playing numbers)
  | [] => selecting_permitted
  | _ :: numbers => ⟨trivial, playing_permitted numbers⟩

def played (n : UInt64) : OutboundDatagram :=
  { destination := relayDestination ip 32000, message := .gameplayToPeer session guestIp ⟨62056⟩ [7],
    «meta» := { sequence := n } }

theorem numbered_decodes : RelayEnvelope.decode (numbered 5) = .ok (numberedEnvelope 5) := by decide +kernel

/-- Packet 5 of the guest is accepted when nothing has been played. -/
theorem five_accepted :
    Accepts guest 5
      { before := booted.final selecting, event := .datagram .sorted 32000 (sender guestIp) (numbered 5) 0 0,
        after := booted.final (playing [5]) } :=
  ⟨.sorted, 32000, sender guestIp, numbered 5, 0, 0, numberedEnvelope 5, [played 5], rfl,
    ⟨numbered_decodes, _, rfl, by decide +kernel⟩, nofun, rfl, by decide +kernel⟩

end RoomRouter.Example

open RoomRouter in
/-- A copy of packet 5 is refused, and so 5 is the largest number that has been checked. -/
theorem copy_refused : Highest Example.guest (sinceEmptied (Example.booted.replay (Example.playing [5]))) (some 5) := by
  have hpass : Passes (Example.booted.final (Example.playing [5])) (Example.sender Example.guestIp)
      (Example.numbered 5) 0 Example.guest Example.connectedGuest (Example.numberedEnvelope 5) :=
    ⟨Example.numbered_decodes, rfl, by decide +kernel, by decide +kernel, rfl, Or.inl rfl⟩
  have hrun := replay_run Example.booted_starts (Example.playing_permitted [5])
  have hcopy := duplicate_iff hrun List.mem_cons_self Example.five_accepted (by decide)
    (hpass.fromPeer (starts_router hrun).wf) nofun rfl .sorted 32000 0 0
  exact (hcopy.2.1 _ hpass).1 (by decide +kernel)

open RoomRouter in
/-- Packet 5 is accepted once more after packet 6. -/
theorem accepted_twice : ¬ ∀ h s, Run (Starts {}) Happens h s → ∀ m ∈ h, ∀ p n, Accepts p n m → n ≠ 0 →
    ∀ (o : WalkOrder) (relayPort : UInt16) (source : SocketAddr) (packet : List UInt8) (limiterNow now : Instant)
      (peer : PeerState) (envelope : RelayEnvelope), Passes s source packet limiterNow p peer envelope →
      (∀ requestId, envelope.message ≠ .relayProbe requestId) → envelope.meta.sequence = n →
      (handleDatagram o relayPort s source packet limiterNow now).1 = .error (.error (.duplicateSequence n)) := by
  intro hall
  have hpass : Passes (Example.booted.final (Example.playing [6, 5])) (Example.sender Example.guestIp)
      (Example.numbered 5) 0 Example.guest Example.connectedGuest (Example.numberedEnvelope 5) :=
    ⟨Example.numbered_decodes, rfl, by decide +kernel, by decide +kernel, rfl, Or.inl rfl⟩
  have hrefused := hall _ _ (replay_run Example.booted_starts (Example.playing_permitted [6, 5])) _
    (List.mem_cons_of_mem _ List.mem_cons_self) _ _ Example.five_accepted
      (by decide) .sorted 32000 _ _ 0 0 _ _ hpass nofun rfl
  have hok : (handleDatagram .sorted 32000 (Example.booted.final (Example.playing [6, 5]))
      (Example.sender Example.guestIp) (Example.numbered 5) 0 0).1 = .ok [Example.played 5] := by
    decide +kernel
  rw [hok] at hrefused
  cases hrefused

end Civ6LanBridge

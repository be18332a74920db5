/-
What becomes of a peer is up to itself. One whose datagrams arrive often enough keeps its place, its address and
its epoch through every sweep, and one that has fallen silent is forgotten after two sweeps, whatever the others do.
-/
import Civ6LanBridge.Router.Departure
import Civ6LanBridge.Server.Suspension

namespace Civ6LanBridge

open Std FinMap Past AppState

/-! ## What is left of a peer -/

namespace RoomRouter

/-- The entry is about the peer. -/
def Entry.Concerns (p : PeerId) : Entry → Prop
  | .room _ _ | .roomByCode _ _ | .hostSession _ _ => False
  | .member _ peerId | .peer peerId _ | .virtualIp _ peerId => peerId = p
  | .host _ state => state.peerId = p
  | .hostByPeer owner _ => owner.2 = p
  | .discovery _ state => state.clientPeerId = p
  | .gameplay _ state => state.clientPeerId = p ∨ state.hostPeerId = p

/-- No entry of any table is about the peer. -/
def Forgot (r : RoomRouter) (p : PeerId) : Prop := ∀ e, r.Holds e → ¬ e.Concerns p

variable {r r' : RoomRouter} {o : WalkOrder} {op : RouterOp} {p : PeerId} {peer : PeerState}

/-- Whom the router does not have as a peer it does not have in any other way. -/
theorem WF.forgot (h : r.WF) (hp : r.peers[p]? = none) : r.Forgot p := by
  have hgone : ∀ {q : PeerId} {w : PeerState}, r.peers[q]? = some w → q ≠ p := by
    rintro q w hq rfl
    rw [hp] at hq
    cases hq
  intro e he
  cases e with
  | room | roomByCode | hostSession => exact id
  | member roomId q =>
    obtain ⟨w, hq, -⟩ := h.holds_member.1 he
    exact hgone hq
  | peer q state => exact hgone he
  | virtualIp ip q =>
    obtain ⟨w, hq, -⟩ := (h.addresses ip q).1 he
    exact hgone hq
  | host hostId state =>
    obtain ⟨w, hq, -⟩ := h.hostPeer hostId state he
    exact hgone hq
  | hostByPeer owner hostId =>
    obtain ⟨host, hh, rfl⟩ := (h.owners owner hostId).1 he
    obtain ⟨w, hq, -⟩ := h.hostPeer hostId host hh
    exact hgone hq
  | discovery requestId state =>
    obtain ⟨w, hq, -⟩ := h.discoveryClient requestId state he
    exact hgone hq
  | gameplay sessionId state =>
    obtain ⟨c, hc, -⟩ := h.gameplayClient sessionId state he
    obtain ⟨w, hq, -⟩ := h.gameplayHost sessionId state he
    exact not_or.2 ⟨hgone hc, hgone hq⟩

/-! ## One operation -/

/-- A resume only refreshes a peer that is connected. -/
theorem resumed_connected {now : Instant} (hc : peer.disconnectedAt = none) :
    resumed peer now = { peer with lastSeen := now } := by
  unfold resumed
  split
  · rename_i d hd
    rw [hc] at hd
    cases hd
  · rfl

/-- What an operation of the control plane does to a peer that is registered: only a resume refreshes it. -/
theorem effect_registered (he : Effect o r op r') (hop : op.OfControl) (hp : r.peers[p]? = some peer) :
    r'.peers[p]? = some peer ∨ op = .leaveRoom peer.roomId p ∨
      (∃ now, op = .resumePeer peer.roomId p now ∧ r'.peers[p]? = some (resumed peer now)) ∨
      ∃ now, op = .expire now := by
  have hjoin : ∀ {roomId q ip now r'}, Effect o r (.joinRoom roomId q ip now) r' → r'.peers[p]? = some peer := by
    intro roomId q ip now r' he
    cases he with
    | join _ _ _ hq _ =>
      refine insert_row (P := (· = some peer)) hp ?_
      rintro rfl
      rw [hp] at hq
      cases hq
  cases he with
  | join hr hm ht hq hip => exact Or.inl (hjoin (.join hr hm ht hq hip))
  | restore he => exact Or.inl (hjoin he)
  | @leave q peer' hq =>
    by_cases e : q = p
    · subst e
      rw [hp] at hq
      cases hq
      exact Or.inr (Or.inl rfl)
    · rw [without_peers, getElem?_erase_ne e]
      exact Or.inl hp
  | @resume q peer' now hq =>
    by_cases e : q = p
    · subst e
      rw [hp] at hq
      cases hq
      refine Or.inr (Or.inr (Or.inl ⟨now, rfl, ?_⟩))
      show (r.peers.modify q _)[q]? = _
      rw [ExtTreeMap.getElem?_modify_self, hp]
      rfl
    · refine Or.inl ?_
      show (r.peers.modify q _)[p]? = _
      rw [getElem?_modify_ne e]
      exact hp
  | @expire now => exact Or.inr (Or.inr (Or.inr ⟨now, rfl⟩))
  | @rehost hostId =>
    refine Or.inl ?_
    show (r.removeHost hostId).peers[p]? = _
    rw [removeHost_peers]
    exact hp
  | unhost =>
    rw [removeHost_peers]
    exact Or.inl hp
  | beatForRoom _ he => cases he; exact Or.inl hp
  | seen | discover | discoverAgain | play | dispatchDiscovery | dispatchResponse | dispatchGameplay => exact hop.elim
  | _ => exact Or.inl hp

end RoomRouter

/-! ## One event -/

/-- A datagram of the peer gets past the gate. -/
def Speaks (p : PeerId) (t : Instant) (m : Move AppState Event) : Prop :=
  ∃ o relayPort source packet limiterNow peer envelope, m.event = .datagram o relayPort source packet limiterNow t ∧
    Passes m.before source packet limiterNow p peer envelope

/-- The peer is given up, by itself or by whoever deletes it. A leave that is refused, since the peer is not in the
room, gives up nobody. -/
def Deletes (p : PeerId) (m : Move AppState Event) : Prop :=
  ∃ o roomId, m.event = .control o (.leaveRoom roomId p) ∧
    ((RouterOp.leaveRoom roomId p).exec o m.before.router).1 = .ok ()

/-- The peer enters a room or resumes, with success. -/
def Returns (p : PeerId) (m : Move AppState Event) : Prop :=
  ∃ o op, m.event = .control o op ∧ (op.exec o m.before.router).1 = .ok () ∧
    ((∃ roomId ip now, op.enters = some (roomId, p, ip, now)) ∨ ∃ roomId now, op = .resumePeer roomId p now)

section

variable {config : RouterConfig} {s s' : AppState} {e : Event} {h : Moves} {p : PeerId} {peer : PeerState} {t : Instant}

/-- A datagram is heard from one peer, or from none. -/
theorem datagram_peers (hw : s.router.WF) (o : WalkOrder) (relayPort : UInt16) (source : SocketAddr)
    (packet : List UInt8) (limiterNow now : Instant) :
    ((∀ q peer envelope, ¬ Passes s source packet limiterNow q peer envelope) ∧
        (handleDatagram o relayPort s source packet limiterNow now).2.router.peers = s.router.peers) ∨
      ∃ q peer envelope, Passes s source packet limiterNow q peer envelope ∧
        (handleDatagram o relayPort s source packet limiterNow now).2.router.peers =
          (s.router.hearing q now).peers := by
  have hh := handleDatagram_handles o relayPort hw source packet limiterNow now
  generalize handleDatagram o relayPort s source packet limiterNow now = x at hh ⊢
  cases hh with
  | refused _ hno => exact Or.inl ⟨hno, rfl⟩
  | answered hpass => exact Or.inr ⟨_, _, _, hpass, rfl⟩
  | duplicate hpass => exact Or.inr ⟨_, _, _, hpass, rfl⟩
  | failed hpass => exact Or.inr ⟨_, _, _, hpass, rfl⟩
  | routed hpass _ _ _ hr =>
    obtain ⟨discoveries, gameplay, rfl⟩ := hr.frame
    exact Or.inr ⟨_, _, _, hpass, rfl⟩

/-- A peer that speaks was last seen then. -/
theorem speaks_refreshes (hw : s.router.WF) (he : Happens s e s') (hp : s.router.peers[p]? = some peer)
    (hh : Speaks p t { before := s, event := e, after := s' }) :
    s'.router.peers[p]? = some { peer with lastSeen := t } := by
  obtain ⟨o, relayPort, source, packet, limiterNow, peer', envelope, rfl, hpass⟩ := hh
  obtain ⟨-, rfl⟩ := he
  rcases datagram_peers hw o relayPort source packet limiterNow t with ⟨hno, -⟩ | ⟨q, w, envelope', hpass', hpeers⟩
  · exact absurd hpass (hno p peer' envelope)
  · obtain ⟨rfl, -, -⟩ := hpass'.sender hw hpass.registered hpass.source hpass.decoded
    show (handleDatagram o relayPort s source packet limiterNow t).2.router.peers[q]? = _
    rw [hpeers]
    exact RoomRouter.hearing_peer hp

/-- An event refreshes a connected peer, has it leave, is a sweep that finds it silent, or leaves it as it is. -/
theorem connected_step (hw : s.router.WF) (he : Happens s e s') (hp : s.router.peers[p]? = some peer)
    (hc : peer.disconnectedAt = none) :
    s'.router.peers[p]? = some peer ∨ (∃ t, e.now? = some t ∧ s'.router.peers[p]? = some { peer with lastSeen := t }) ∨
      (∃ o, e = .control o (.leaveRoom peer.roomId p) ∧
        ((RouterOp.leaveRoom peer.roomId p).exec o s.router).1 = .ok ()) ∨
      ∃ o now, e = .control o (.expire now) ∧ peer.lastSeen + s.router.config.peerTtl ≤ now := by
  cases e with
  | datagram o relayPort source packet limiterNow now =>
    obtain ⟨-, rfl⟩ := he
    show (handleDatagram o relayPort s source packet limiterNow now).2.router.peers[p]? = _ ∨ _
    rcases datagram_peers hw o relayPort source packet limiterNow now with ⟨-, hpeers⟩ | ⟨q, w, envelope, hpass, hpeers⟩
    · rw [hpeers]
      exact Or.inl hp
    · by_cases hq : q = p
      · subst hq
        refine Or.inr (Or.inl ⟨now, rfl, ?_⟩)
        show (handleDatagram o relayPort s source packet limiterNow now).2.router.peers[q]? = _
        rw [hpeers]
        exact RoomRouter.hearing_peer hp
      · rw [hpeers, RoomRouter.hearing_peer_ne hq]
        exact Or.inl hp
  | control o op =>
    obtain ⟨⟨hop, hfresh⟩, rfl⟩ := he
    rcases RoomRouter.exec_does o hw op with ⟨err, herr⟩ | ⟨r', hok, heff⟩
    · refine Or.inl ?_
      show (op.exec o s.router).2.peers[p]? = _
      rw [herr]
      exact hp
    show (op.exec o s.router).2.peers[p]? = _ ∨ (∃ t, _ ∧ (op.exec o s.router).2.peers[p]? = _) ∨ _
    rw [hok]
    rcases RoomRouter.effect_registered heff hop hp with hsame | rfl | ⟨now, rfl, hres⟩ | ⟨now, rfl⟩
    · exact Or.inl hsame
    · exact Or.inr (Or.inr (Or.inl ⟨o, rfl, congrArg Prod.fst hok⟩))
    · refine Or.inr (Or.inl ⟨now, rfl, ?_⟩)
      rw [RoomRouter.resumed_connected hc] at hres
      exact hres
    · cases heff
      show (RoomRouter.expire o s.router now).2.peers[p]? = _ ∨ _
      by_cases hle : peer.lastSeen + s.router.config.peerTtl ≤ now
      · exact Or.inr (Or.inr (Or.inr ⟨o, now, rfl, hle⟩))
      -- neither silent nor, being connected, past its grace period
      · refine Or.inl ?_
        have hl : ¬ peer.Lapses s.router.config now := by
          rw [PeerState.lapses_iff]
          rintro (⟨d, hd, -⟩ | ⟨-, hle', -⟩)
          · rw [hc] at hd
            cases hd
          · exact hle hle'
        have hsilent : RoomRouter.silent s.router.config peer now = false := by
          unfold RoomRouter.silent
          rw [decide_eq_false hle, Bool.and_false]
        rw [RoomRouter.expire_peers o hw, hp, Option.bind_some, if_neg hl, PeerState.afterSilence, hsilent]
        rfl

/-- A peer that is not there comes only by entering. -/
theorem absent_step (hw : s.router.WF) (he : Happens s e s') (hp : s.router.peers[p]? = none)
    (hno : ¬ Returns p { before := s, event := e, after := s' }) : s'.router.peers[p]? = none := by
  rcases happening_peer hw (he.happening hw) p with e' | ⟨w, now, hold, -⟩ | ⟨o, op, rfl, -, hok, hc⟩
  · rw [e', hp]
  · rw [hp] at hold
    cases hold
  · rw [hp] at hc
    generalize s'.router.peers[p]? = y at hc
    cases hc with
    | same => rfl
    | entered hop => exact absurd ⟨o, op, rfl, congrArg Prod.fst hok, Or.inl ⟨_, _, _, hop⟩⟩ hno

/-! ## A peer that is heard -/

theorem readings_cons (m : Move AppState Event) (h : Moves) :
    readings (m :: h) = m.event.now?.toList ++ readings h := by
  unfold readings
  rw [List.filterMap_cons]
  cases m.event.now? <;> rfl

/-- Over a run, a sweep comes at a time when the peer has been heard, or was last seen before the run, within its
lease. -/
def InTime (config : RouterConfig) (p : PeerId) (lastSeen : Instant) (h : Moves) : Prop :=
  ∀ recent m old o now, h = recent ++ m :: old → m.event = .control o (.expire now) →
    now < lastSeen + config.peerTtl ∨ ∃ m' ∈ old, ∃ t, Speaks p t m' ∧ now < t + config.peerTtl

/-- The entry of the peer is the one it had, but for when it was last seen: not before it was heard. -/
structure Talks (p : PeerId) (peer : PeerState) (h : Moves) (s : AppState) (lastSeen : Instant) : Prop where
  row : s.router.peers[p]? = some { peer with lastSeen }
  reading : lastSeen ∈ readings h ++ [peer.lastSeen]
  since : peer.lastSeen ≤ lastSeen
  heard : ∀ m ∈ h, ∀ t, Speaks p t m → t ≤ lastSeen

theorem Talks.step {lastSeen : Instant} (hw : s.router.WF) (he : Happens s e s') (htalks : Talks p peer h s lastSeen)
    (hc : peer.disconnectedAt = none)
    (hclock : ∀ t ∈ e.now?, ∀ t' ∈ readings h ++ [peer.lastSeen], t' ≤ t)
    (hstays : ¬ Deletes p { before := s, event := e, after := s' })
    (htime : ∀ o now, e = .control o (.expire now) → now < lastSeen + s.router.config.peerTtl) :
    ∃ lastSeen', Talks p peer ({ before := s, event := e, after := s' } :: h) s' lastSeen' := by
  have hsub : ∀ {t}, t ∈ readings h ++ [peer.lastSeen] →
      t ∈ readings ({ before := s, event := e, after := s' } :: h) ++ [peer.lastSeen] := by
    intro t ht
    rw [List.mem_append] at ht ⊢
    rw [readings_cons]
    exact ht.imp_left (List.mem_append_right _)
  rcases connected_step hw he htalks.row hc with hsame | ⟨t, ht, hrow⟩ | ⟨o, rfl, hok⟩ | ⟨o, now, rfl, hle⟩
  · refine ⟨lastSeen, hsame, hsub htalks.reading, htalks.since, List.forall_mem_cons.2 ⟨fun t hh => ?_, htalks.heard⟩⟩
    -- whoever speaks was last seen then
    have hrow := speaks_refreshes hw he htalks.row hh
    rw [hsame] at hrow
    exact (congrArg PeerState.lastSeen (Option.some.inj hrow)).ge
  · have hle := hclock t ht
    refine ⟨t, hrow, ?_, hle _ (List.mem_append_right _ List.mem_cons_self),
      List.forall_mem_cons.2 ⟨fun t' hh => ?_,
        fun m hm t' hh => Nat.le_trans (htalks.heard m hm t' hh) (hle _ htalks.reading)⟩⟩
    · rw [readings_cons, show (_ : Option Instant) = some t from ht]
      exact List.mem_append_left _ List.mem_cons_self
    · have hrow' := speaks_refreshes hw he htalks.row hh
      rw [hrow] at hrow'
      exact (congrArg PeerState.lastSeen (Option.some.inj hrow')).ge
  · exact absurd ⟨o, _, rfl, hok⟩ hstays
  · exact absurd (htime o now rfl) (Nat.not_lt.2 hle)

/-- A connected peer that is heard within its lease before every sweep stays connected, in its room, at its address
and in its epoch, until it is given up. -/
theorem talking_peer_kept (hs : RoomRouter.Reachable config s.router) (hp : s.router.peers[p]? = some peer)
    (hc : peer.disconnectedAt = none) (hr : Run (· = s) Happens h s')
    (hclock : (readings h ++ [peer.lastSeen]).Pairwise fun t t' => t' ≤ t) (hstays : ∀ m ∈ h, ¬ Deletes p m)
    (htime : InTime config p peer.lastSeen h) : ∃ lastSeen, s'.router.peers[p]? = some { peer with lastSeen } := by
  suffices htalks : ∃ lastSeen, Talks p peer h s' lastSeen from htalks.imp fun _ htalks => htalks.row
  induction hr with
  | init hs =>
    cases hs
    exact ⟨peer.lastSeen, hp, List.mem_cons_self, Nat.le_refl _, by simp⟩
  | @step h s₁ s₂ e hr he ih =>
    have hreach : RoomRouter.Reachable config s₁.router := run_router (by rintro _ rfl; exact hs) hr
    have hearlier : (readings h ++ [peer.lastSeen]).Pairwise fun t t' => t' ≤ t := by
      refine hclock.sublist (List.Sublist.append_right ?_ _)
      rw [readings_cons]
      exact List.sublist_append_right ..
    obtain ⟨lastSeen, htalks⟩ := ih hearlier (fun m hm => hstays m (List.mem_cons_of_mem _ hm))
      fun recent m old o now hsplit => htime (_ :: recent) m old o now (congrArg (List.cons _) hsplit)
    refine htalks.step hreach.wf he hc (fun t ht => ?_) (hstays _ List.mem_cons_self) fun o now hev => ?_
    · rw [readings_cons, show e.now? = some t from ht] at hclock
      exact (List.pairwise_cons.1 hclock).1
    · rw [hreach.config_eq]
      rcases htime [] _ h o now rfl hev with hlt | ⟨m, hm, t, hh, hlt⟩
      · exact Nat.lt_of_lt_of_le hlt (Nat.add_le_add_right htalks.since _)
      · exact Nat.lt_of_lt_of_le hlt (Nat.add_le_add_right (htalks.heard m hm t hh) _)

/-! ## A peer that is not heard -/

/-- A sweep at the time finds the peer silent, if it does not find it suspended. -/
def Overdue (config : RouterConfig) (p : PeerId) (t : Instant) (r : RoomRouter) : Prop :=
  ∀ peer, r.peers[p]? = some peer →
    peer.disconnectedAt = none ∧ peer.lastSeen + config.peerTtl ≤ t ∨ ∃ d, peer.disconnectedAt = some d ∧ d ≤ t

/-- If the peer is there it has been suspended, at the time or before. -/
def Away (p : PeerId) (t : Instant) (r : RoomRouter) : Prop :=
  ∀ peer, r.peers[p]? = some peer → ∃ d, peer.disconnectedAt = some d ∧ d ≤ t

theorem sweep_away (hw : s.router.WF) (o : WalkOrder) (hover : Overdue s.router.config p t s.router) :
    Away p t (RoomRouter.expire o s.router t).2 := by
  intro peer' hp'
  rw [RoomRouter.expire_peers o hw] at hp'
  obtain ⟨peer, hp, hif⟩ := Option.bind_eq_some_iff.1 hp'
  split at hif
  · cases hif
  cases hif
  unfold PeerState.afterSilence
  split
  · exact ⟨t, rfl, Nat.le_refl t⟩
  · rename_i hheard
    rcases hover peer hp with ⟨hc, hle⟩ | haway
    · exact absurd (by rw [RoomRouter.silent, hc, decide_eq_true hle]; rfl) hheard
    · exact haway

/-- The next sweep after the grace period removes a peer that is still away. -/
theorem sweep_gone (hw : s.router.WF) (o : WalkOrder) {t' : Instant} (haway : Away p t s.router)
    (hle : t + s.router.config.peerGraceTtl ≤ t') : (RoomRouter.expire o s.router t').2.peers[p]? = none := by
  rw [RoomRouter.expire_peers o hw]
  cases hp : s.router.peers[p]? with
  | none => rfl
  | some peer =>
    obtain ⟨d, hd, hdt⟩ := haway peer hp
    exact if_pos (PeerState.lapses_iff.2 (Or.inl ⟨d, hd, Nat.le_trans (Nat.add_le_add_right hdt _) hle⟩))

/-- A peer that is away stays away until it returns. -/
theorem away_step (hw : s.router.WF) (hw' : s'.router.WF) (he : Happens s e s') (haway : Away p t s.router)
    (hno : ¬ Returns p { before := s, event := e, after := s' }) : Away p t s'.router := by
  intro peer' hp'
  cases hp : s.router.peers[p]? with
  | none =>
    rw [absent_step hw he hp hno] at hp'
    cases hp'
  | some peer =>
    obtain ⟨d, hd, hdt⟩ := haway peer hp
    rcases suspended_step hw hw' he hp hd with hsame | ⟨o, now, _, rfl, -⟩ | ⟨_, -, hgone⟩ | ⟨_, _, -, -, hgone, -⟩
    · rw [hsame] at hp'
      cases hp'
      exact ⟨d, hd, hdt⟩
    · rcases RoomRouter.exec_does o hw (.resumePeer peer.roomId p now) with ⟨err, herr⟩ | ⟨r', hok, -⟩
      -- a resume that is refused changes nothing
      · obtain ⟨-, rfl⟩ := he
        have hrow : (RouterOp.exec o s.router (.resumePeer peer.roomId p now)).2.peers[p]? = some peer := by
          rw [herr]
          exact hp
        cases hp'.symm.trans hrow
        exact ⟨d, hd, hdt⟩
      · exact absurd ⟨o, _, rfl, congrArg Prod.fst hok, Or.inr ⟨_, now, rfl⟩⟩ hno
    · rw [show s'.router.peers[p]? = none from hgone] at hp'
      cases hp'
    · rw [show s'.router.peers[p]? = none from hgone] at hp'
      cases hp'

/-- What a peer that does not return keeps being, it is at the end of a run. -/
theorem run_keeps_away {P : RoomRouter → Prop} {recent old : Moves} {m : Move AppState Event}
    (hr : Run (Starts config) Happens (recent ++ m :: old) s)
    (hkeep : ∀ s e s', s.router.WF → s'.router.WF → Happens s e s' →
      ¬ Returns p { before := s, event := e, after := s' } → P s.router → P s'.router)
    (hno : ∀ m ∈ recent, ¬ Returns p m) (hp : P m.after.router) : P s.router := by
  have hsince : Since (· = m) (fun m => ¬ Returns p m) (recent ++ m :: old) :=
    since_iff.2 ⟨recent, m, old, rfl, rfl, hno⟩
  have hall := hr.of_since (P := fun s => P s.router) (X := fun _ => False) ?_ ?_ hsince
  · exact hall.resolve_right fun ⟨_, _, hx⟩ => hx
  · rintro h s e s' - - rfl
    exact hp
  · intro h s e s' hr he hno hp
    exact Or.inl (hkeep s e s' (starts_router hr).wf (starts_router (.step hr he)).wf he hno hp)

/-- A peer that a sweep finds silent is forgotten by the next sweep after its grace period, unless it has entered
a room or resumed by then, and stays so until it enters one. -/
theorem silent_peer_forgotten {recent between old : Moves} {m₁ m₂ : Move AppState Event} {o₁ o₂ : WalkOrder}
    {t₁ t₂ : Instant} (hr : Run (Starts config) Happens (recent ++ m₂ :: (between ++ m₁ :: old)) s)
    (h₁ : m₁.event = .control o₁ (.expire t₁)) (hover : Overdue config p t₁ m₁.before.router)
    (h₂ : m₂.event = .control o₂ (.expire t₂)) (hle : t₁ + config.peerGraceTtl ≤ t₂)
    (hno : ∀ m ∈ recent ++ between, ¬ Returns p m) : s.router.Forgot p := by
  obtain ⟨s₂, hr₂⟩ := hr.earlier
  rcases hr₂ with _ | ⟨hr₂, he₂⟩
  obtain ⟨s₁, hr₁⟩ := hr₂.earlier
  rcases hr₁ with _ | ⟨hr₁, he₁⟩
  rw [List.forall_mem_append] at hno
  -- the peer is away after the first sweep, up to the second one, and then it is gone
  have hconfig {h s} (hr : Run (Starts config) Happens h s) : s.router.config = config := (starts_router hr).config_eq
  cases h₁
  cases h₂
  have haway :=
    run_keeps_away hr₂ (P := Away p t₁) (fun s e s' hw hw' he hno haway => away_step hw hw' he haway hno) hno.2 <| by
    obtain ⟨-, rfl⟩ := he₁
    refine sweep_away (starts_router hr₁).wf o₁ ?_
    rw [hconfig hr₁]
    exact hover
  have hgone := run_keeps_away hr (P := fun r => r.peers[p]? = none)
    (fun s e s' hw _ he hno hp => absent_step hw he hp hno) hno.1 <| by
      obtain ⟨-, rfl⟩ := he₂
      exact sweep_gone (starts_router hr₂).wf o₂ haway (by rw [hconfig hr₂]; exact hle)
  exact (starts_router hr).wf.forgot hgone

end

/-! ## The guest -/

namespace RoomRouter.Example

def elsewhere : RoomId := .ofByte 99

/-- A packet of the guest arrives, somebody has it leave a room in which it is not, and five seconds after its first
lease would have ended comes a sweep. -/
def speaking : List Event :=
  [.control .sorted (.expire (Duration.fromSecs 20)), .control .sorted (.leaveRoom elsewhere guest),
    .datagram .sorted 32000 (sender guestIp) packet 0 (Duration.fromSecs 10)]

theorem gathered_guest : (booted.final gathering).router.peers[guest]? = some connectedGuest := by decide +kernel

theorem speaking_permitted : (booted.final gathering).Permitted speaking :=
  ⟨⟨trivial, trivial⟩, ⟨trivial, trivial⟩, trivial, trivial⟩

theorem guest_passes : Passes (booted.final gathering) (sender guestIp) packet 0 guest connectedGuest
    { «meta» := {}, message := .gameplayPacket session ⟨62056⟩ [7] } :=
  ⟨by decide +kernel, rfl, by decide +kernel, gathered_guest, rfl, Or.inl rfl⟩

/-- Nobody plays, and two sweeps come. After the first one the guest resumes in a room in which it is not, and after the
second one in its own. -/
def leaving : List Event :=
  .control .sorted (.resumePeer room guest (Duration.fromSecs 61)) ::
  .control .sorted (.expire (Duration.fromSecs 60)) ::
  .control .sorted (.resumePeer elsewhere guest (Duration.fromSecs 16)) ::
  .control .sorted (.expire (Duration.fromSecs 15)) :: gathering

theorem leaving_permitted : booted.Permitted leaving :=
  ⟨⟨trivial, trivial⟩, ⟨trivial, trivial⟩, ⟨trivial, trivial⟩, ⟨trivial, trivial⟩, gathering_permitted⟩

/-- A resume of the guest that is refused does not count. -/
theorem refused_resume {s s' : AppState} {o : WalkOrder} {roomId : RoomId} {now : Instant}
    (hrefused : ((RouterOp.resumePeer roomId guest now).exec o s.router).1 ≠ .ok ()) :
    ¬ Returns guest { before := s, event := .control o (.resumePeer roomId guest now), after := s' } := by
  rintro ⟨o', op, hev, hok, -⟩
  cases hev
  exact hrefused hok

end RoomRouter.Example

open RoomRouter in
theorem guest_kept : ∃ lastSeen,
    ((Example.booted.final Example.gathering).final Example.speaking).router.peers[Example.guest]? =
    some { Example.connectedGuest with lastSeen } := by
  have hreach : Reachable {} (Example.booted.final Example.gathering).router :=
    starts_router (replay_run Example.booted_starts Example.gathering_permitted)
  have hr : Run (· = Example.booted.final Example.gathering) Happens
      ((Example.booted.final Example.gathering).replay Example.speaking)
      ((Example.booted.final Example.gathering).final Example.speaking) :=
        replay_run (by rfl) Example.speaking_permitted
  refine talking_peer_kept hreach Example.gathered_guest rfl hr (by decide) ?_ ?_
  · rintro m hm ⟨o, roomId, hev, hok⟩
    simp only [Example.speaking, AppState.replay, Past.replay, List.mem_cons, List.not_mem_nil, or_false] at hm
    rcases hm with rfl | rfl | rfl
    · cases hev
    -- the leave is refused
    · cases hev
      exact absurd hok (by decide +kernel)
    · cases hev
  · rintro (_ | ⟨x, _ | ⟨y, _ | ⟨z, recent⟩⟩⟩) m old o now hsplit hev
    · cases hsplit
      cases hev
      exact Or.inr ⟨_, List.mem_cons_of_mem _ List.mem_cons_self, Duration.fromSecs 10,
        ⟨_, _, _, _, _, _, _, rfl, Example.guest_passes⟩, by decide⟩
    · cases hsplit
      cases hev
    · cases hsplit
      cases hev
    · have hlen := congrArg List.length hsplit
      simp [Example.speaking, Past.replay] at hlen

open RoomRouter in
theorem guest_forgotten : (Example.booted.final Example.leaving).router.Forgot Example.guest := by
  have hr : Run (Starts {}) Happens ([_] ++ _ :: ([_] ++ _ :: _)) (Example.booted.final Example.leaving) :=
    replay_run Example.booted_starts Example.leaving_permitted
  refine silent_peer_forgotten hr rfl (fun peer hp => ?_) rfl (by decide) ?_
  · rw [show (Example.booted.final Example.gathering).router.peers[Example.guest]? = _ from
      Example.gathered_guest] at hp
    cases hp
    exact Or.inl ⟨rfl, by decide⟩
  · simp only [List.cons_append, List.nil_append, List.forall_mem_cons]
    exact ⟨Example.refused_resume (by decide +kernel), Example.refused_resume (by decide +kernel),
      List.forall_mem_nil _⟩

end Civ6LanBridge

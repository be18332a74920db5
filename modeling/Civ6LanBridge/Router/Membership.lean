/-
Who is a peer, in which room and at which address: what joining, leaving and a sweep do to it. Leaving
right after joining puts everything back.
-/
import Civ6LanBridge.Router.Sweep

namespace Civ6LanBridge

open Std FinMap Table Bytes

/-- A connected peer that the sweep finds silent, as the sweep's last loop finds it. -/
def PeerState.afterSilence (peer : PeerState) (config : RouterConfig) (now : Instant) : PeerState :=
  if RoomRouter.silent config peer now then { peer with disconnectedAt := some now } else peer

/-- The sweep removes the peer. -/
def PeerState.Lapses (peer : PeerState) (config : RouterConfig) (now : Instant) : Prop :=
  RoomRouter.graceOver config (peer.afterSilence config now) now = true

namespace PeerState

variable {peer : PeerState} {config : RouterConfig} {now : Instant}

instance : Decidable (peer.Lapses config now) := inferInstanceAs (Decidable (_ = true))

@[simp] theorem afterSilence_roomId : (peer.afterSilence config now).roomId = peer.roomId := by
  unfold afterSilence; split <;> rfl

@[simp] theorem afterSilence_virtualIp : (peer.afterSilence config now).virtualIp = peer.virtualIp := by
  unfold afterSilence; split <;> rfl

/-- A peer lapses when its grace period is over, or there is none and it has been silent. -/
theorem lapses_iff : peer.Lapses config now ↔ (∃ t, peer.disconnectedAt = some t ∧ t + config.peerGraceTtl ≤ now) ∨
    peer.disconnectedAt = none ∧ peer.lastSeen + config.peerTtl ≤ now ∧ config.peerGraceTtl = 0 := by
  unfold Lapses afterSilence RoomRouter.silent RoomRouter.graceOver
  cases hd : peer.disconnectedAt with
  | some t => simp [hd]
  | none =>
    by_cases hs : peer.lastSeen + config.peerTtl ≤ now
    · simp [hs]
    · simp [hs, hd]

end PeerState

namespace RoomRouter

variable {r : RoomRouter} {o : WalkOrder} {roomId : RoomId} {peerId : PeerId} {peer : PeerState} {ip : VirtualIp}
  {now : Instant}

/-- Where a peer sits. -/
def place (r : RoomRouter) (peerId : PeerId) : Option (RoomId × VirtualIp) :=
  (r.peers[peerId]?).map fun peer => (peer.roomId, peer.virtualIp)

theorem place_eq_some : r.place peerId = some (roomId, ip) ↔ ∃ peer, r.peers[peerId]? = some peer ∧
    peer.Sits roomId ip := by
  simp [place, PeerState.Sits]

theorem place_eq_none : r.place peerId = none ↔ r.peers[peerId]? = none := Option.map_eq_none_iff

/-! ## Joining -/

/-- The router after a peer has joined. -/
def joined (r : RoomRouter) (roomId : RoomId) (peerId : PeerId) (virtualIp : VirtualIp) (now : Instant) : RoomRouter :=
  { r with
    rooms := r.rooms.modify roomId fun room => { room with members := room.members.insert peerId }
    peers := r.peers.insert peerId { roomId, virtualIp, lastSeen := now, disconnectedAt := none, connectionEpoch := 1 }
    virtualIps := r.virtualIps.insert virtualIp peerId }

/-- Joining fails and changes nothing, or enters a new peer at a free address of a room that exists. -/
theorem joinRoom_cases (r : RoomRouter) (roomId : RoomId) (peerId : PeerId) (ip : VirtualIp) (now : Instant) :
    (∃ e, r.joinRoom roomId peerId ip now = .err e r) ∨
      (∃ room, r.rooms[roomId]? = some room) ∧ r.peers[peerId]? = none ∧ r.virtualIps[ip]? = none ∧
        r.joinRoom roomId peerId ip now = .ok () (r.joined roomId peerId ip now) := by
  obtain ⟨e, he⟩ | ⟨r', he, heff⟩ := joinRoom_does (o := .sorted) (r := r) roomId peerId ip now
  · exact Or.inl ⟨e, he⟩
  · cases heff with
    | join hr _ _ hp hip => exact Or.inr ⟨⟨_, hr⟩, hp, hip, he⟩

theorem WF.joined (h : r.WF) {room : RoomState} (hr : r.rooms[roomId]? = some room) (hp : r.peers[peerId]? = none)
    (hip : r.virtualIps[ip]? = none) : (r.joined roomId peerId ip now).WF :=
  h.addPeer { roomId, virtualIp := ip, lastSeen := now, disconnectedAt := none, connectionEpoch := 1 } hr hp hip

theorem joined_peer : (r.joined roomId peerId ip now).peers[peerId]? =
    some { roomId, virtualIp := ip, lastSeen := now, disconnectedAt := none, connectionEpoch := 1 } :=
  ExtTreeMap.getElem?_insert_self

theorem place_joined : (r.joined roomId peerId ip now).place = Function.update r.place peerId (some (roomId, ip)) := by
  funext q
  by_cases e : q = peerId
  · subst e
    rw [Function.update_self, place, joined_peer]
    rfl
  · rw [Function.update_of_ne e]
    show ((r.peers.insert peerId _)[q]?).map _ = _
    rw [getElem?_insert_ne (Ne.symm e)]
    rfl

/-- An edit of what a room lists leaves the room codes as they are. -/
theorem code_joined : (r.joined roomId peerId ip now).ledger.code = r.ledger.code :=
  funext fun _ => code_modify fun _ => rfl

/-! ## Leaving -/

theorem place_without (h : r.WF) (hp : r.peers[peerId]? = some peer) :
    (without o r peerId peer).place = Function.update r.place peerId none := by
  have hl := congrArg Ledger.peer (ledger_without o h hp)
  funext q
  have hq : (without o r peerId peer).peers[q]? = _ := congrFun hl q
  rw [place, hq]
  by_cases e : q = peerId
  · subst e
    simp [Ledger.dismiss, ledger, look, hp]
  · rw [Function.update_of_ne e]
    cases hr : r.peers[q]? <;> simp [Ledger.dismiss, ledger, look, place, hr, e]

theorem code_without (h : r.WF) (hp : r.peers[peerId]? = some peer) :
    (without o r peerId peer).ledger.code = r.ledger.code := by
  rw [ledger_without o h hp]; rfl

/-- A peer that nothing refers to has no sessions to remove. -/
theorem removePeerSessions_unused (o : WalkOrder) (roomId : RoomId)
    (hhosts : ∀ (k : HostSessionId) (v : HostState), r.hosts[k]? = some v → v.peerId ≠ peerId)
    (hdisc : ∀ (k : DiscoveryRequestId) (v : DiscoveryState), r.discoveries[k]? = some v → v.clientPeerId ≠ peerId)
    (hgame : ∀ (k : GameplaySessionId) (v : GameplayState), r.gameplay[k]? = some v →
      v.clientPeerId ≠ peerId ∧ v.hostPeerId ≠ peerId) : removePeerSessions o r roomId peerId = r := by
  have h1 : keysWhere o (fun _ host => host.roomId = roomId && host.peerId = peerId) r.hosts = [] :=
    keysWhere_eq_nil.2 fun k v hk => by simp [hhosts k v hk]
  have h2 : keysWhere o (fun _ session => session.roomId = roomId &&
      (session.clientPeerId = peerId || session.hostPeerId = peerId)) r.gameplay = [] :=
    keysWhere_eq_nil.2 fun k v hk => by simp [hgame k v hk]
  have h3 : keysWhere o (fun _ discovery => discovery.roomId = roomId && discovery.clientPeerId = peerId)
      r.discoveries = [] :=
    keysWhere_eq_nil.2 fun k v hk => by simp [hdisc k v hk]
  unfold removePeerSessions
  rw [h1]
  show ({ r with gameplay := eraseAll (keysWhere o _ r.gameplay) r.gameplay
                 discoveries := eraseAll (keysWhere o _ r.discoveries) r.discoveries } : RoomRouter) = r
  rw [h2, h3]
  rfl

/-- Leaving right after joining restores the router. -/
theorem leaveRoom_joined (o : WalkOrder) (h : r.WF) {room : RoomState} (hr : r.rooms[roomId]? = some room)
    (hp : r.peers[peerId]? = none) (hip : r.virtualIps[ip]? = none) :
    leaveRoom o (r.joined roomId peerId ip now) roomId peerId = .ok () r := by
  have absent : ∀ {id : PeerId} {w : PeerState}, r.peers[id]? = some w → id ≠ peerId := by
    rintro id w hw rfl
    rw [hp] at hw
    cases hw
  rw [leaveRoom_peer o (h.joined hr hp hip) joined_peer, without,
    removePeerSessions_unused o roomId (fun k v hk => ?_) (fun k v hk => ?_) fun k v hk => ?_]
  · -- what was inserted is erased again, table by table
    have hmember : peerId ∉ room.members := fun hm => by
      obtain ⟨peer, hpeer, -⟩ := (h.member_iff hr).1 hm
      exact absent hpeer rfl
    have hmembers : (room.members.insert peerId).erase peerId = room.members := by
      refine ExtTreeSet.ext_mem fun q => ?_
      rw [ExtTreeSet.mem_erase, ExtTreeSet.mem_insert, Std.compare_eq_iff_eq]
      by_cases e : peerId = q
      · subst e; simp [hmember]
      · simp [e]
    have hrooms : ((r.rooms.modify roomId fun room => { room with members := room.members.insert peerId }).modify roomId
        fun room => { room with members := room.members.erase peerId }) = r.rooms := by
      refine ExtTreeMap.ext_getElem? fun id => ?_
      by_cases e : roomId = id
      · subst e
        simp only [ExtTreeMap.getElem?_modify_self, hr, Option.map_some, hmembers]
      · rw [getElem?_modify_ne e, getElem?_modify_ne e]
    have back : ∀ {K V : Type} [Ord K] [TransOrd K] [LawfulEqOrd K] {m : ExtTreeMap K V} {k : K} {v : V},
        m[k]? = none → (m.insert k v).erase k = m := by
      intro K V _ _ _ m k v hk
      refine ExtTreeMap.ext_getElem? fun k' => ?_
      by_cases e : k = k'
      · subst e; rw [ExtTreeMap.getElem?_erase_self, hk]
      · rw [getElem?_erase_ne e, getElem?_insert_ne e]
    exact congrArg (Outcome.ok ()) (RoomRouter.ext rfl hrooms rfl (back hp) (back hip) rfl rfl rfl rfl)
  · obtain ⟨w, hw, -⟩ := h.hostPeer k v hk
    exact absent hw
  · obtain ⟨w, hw, -⟩ := h.discoveryClient k v hk
    exact absent hw
  · obtain ⟨c, hc, -⟩ := h.gameplayClient k v hk
    obtain ⟨w, hw, -⟩ := h.gameplayHost k v hk
    exact ⟨absent hc, absent hw⟩

/-! ## Resuming -/

/-- The router after a peer has resumed. -/
def resuming (r : RoomRouter) (peerId : PeerId) (now : Instant) : RoomRouter :=
  { r with peers := r.peers.modify peerId fun peer => resumed peer now }

theorem resumePeer_cases (r : RoomRouter) (roomId : RoomId) (peerId : PeerId) (now : Instant) :
    (∃ e, r.resumePeer roomId peerId now = .err e r) ∨
      ∃ snapshot, r.resumePeer roomId peerId now = .ok snapshot (r.resuming peerId now) := by
  unfold resumePeer
  split
  · exact Or.inl ⟨_, rfl⟩
  split
  · exact Or.inl ⟨_, rfl⟩
  split
  · exact Or.inl ⟨_, rfl⟩
  · exact Or.inr ⟨_, rfl⟩

theorem WF.resuming (h : r.WF) (peerId : PeerId) (now : Instant) : (r.resuming peerId now).WF :=
  h.editPeer (fun peer => resumed_roomId peer now) fun peer => resumed_virtualIp peer now

theorem place_resuming : (r.resuming peerId now).place = r.place := by
  funext q
  show ((r.peers.modify peerId _)[q]?).map _ = (r.peers[q]?).map _
  by_cases e : peerId = q
  · subst e
    rw [ExtTreeMap.getElem?_modify_self, Option.map_map]
    refine congrArg (Option.map · _) (funext fun peer => ?_)
    exact Prod.ext (resumed_roomId peer now) (resumed_virtualIp peer now)
  · rw [getElem?_modify_ne e]

/-! ## Sweeping -/

/-- A sweep removes the peers that lapse, and suspends the others that have been silent. -/
theorem expire_peers (o : WalkOrder) (h : r.WF) (now : Instant) (peerId : PeerId) :
    (expire o r now).2.peers[peerId]? = (r.peers[peerId]?).bind fun peer =>
      if peer.Lapses r.config now then none else some (peer.afterSilence r.config now) := by
  have hl : (expire o r now).2.peers[peerId]? = _ := congrFun (congrArg Ledger.peer (ledger_expire o h now)) peerId
  rw [hl]
  cases hp : r.peers[peerId]? with
  | none => simp [Ledger.expire, Ledger.dismiss, Ledger.suspend, Ledger.endSessions, ledger, look, hp]
  | some peer =>
    have hsilent : (r.ledger.endSessions now).which (fun peer => silent r.config peer now) peerId ↔
        silent r.config peer now = true := by
      simp [Ledger.which, Ledger.endSessions, ledger, look, hp]
    have hsuspended : ((r.ledger.endSessions now).suspend
        ((r.ledger.endSessions now).which fun peer => silent r.config peer now) now).peer peerId =
          some (peer.afterSilence r.config now) := by
      show ((r.ledger.peer peerId).bind _) = _
      rw [show r.ledger.peer peerId = some peer from hp, Option.bind_some, PeerState.afterSilence]
      simp only [hsilent]
    show (Option.bind (Ledger.peer _ peerId) _) = _
    rw [hsuspended]
    simp only [Ledger.which, hsuspended, Option.bind_some, Option.some.injEq, exists_eq_left']
    exact if_congr Iff.rfl rfl rfl

theorem code_expire (o : WalkOrder) (h : r.WF) (now : Instant) : (expire o r now).2.ledger.code = r.ledger.code := by
  rw [ledger_expire o h now]; rfl

/-- A sweep moves nobody: who stays, stays where it was. -/
theorem place_expire (o : WalkOrder) (h : r.WF) (now : Instant) (peerId : PeerId) :
    (expire o r now).2.place peerId = (r.peers[peerId]?).bind fun peer =>
      if peer.Lapses r.config now then none else some (peer.roomId, peer.virtualIp) := by
  rw [place, expire_peers o h]
  cases r.peers[peerId]? with
  | none => rfl
  | some peer => by_cases hl : peer.Lapses r.config now <;> simp [hl]

/-- Who is in a place after a sweep was there before. -/
theorem place_expire_sub (o : WalkOrder) (h : r.WF) (now : Instant) (peerId : PeerId) (at' : RoomId × VirtualIp)
    (hp : (expire o r now).2.place peerId = some at') : r.place peerId = some at' := by
  have he := (place_expire o h now peerId).symm.trans hp
  rcases Option.bind_eq_some_iff.1 he with ⟨peer, hpeer, hsome⟩
  split at hsome
  · cases hsome
  · rw [place, hpeer]
    exact hsome

/-- A sweep in which nobody lapses leaves everybody in place. -/
theorem place_expire_of_none (o : WalkOrder) (h : r.WF)
    (hnone : ∀ (p : PeerId) (peer : PeerState), r.peers[p]? = some peer → ¬ peer.Lapses r.config now) :
    (expire o r now).2.place = r.place := by
  funext p
  rw [place_expire o h, place]
  cases hp : r.peers[p]? with
  | none => rfl
  | some peer => simp [hnone p peer hp]

end RoomRouter

end Civ6LanBridge

/-
`crates/router/src/lib.rs`: the statistics of the router, and the limits of its configuration. The
counts that a room reports add up to those of the whole router, and no run takes any table past its
limit.
-/
import Civ6LanBridge.Lib.Census
import Civ6LanBridge.Router.Runs
import Civ6LanBridge.Router.Sweep

namespace Civ6LanBridge

open Std FinMap Table

structure RouterStats where
  activeRooms : Nat
  activePeers : Nat
  suspendedPeers : Nat
  activeHosts : Nat
  activeGameplaySessions : Nat
deriving DecidableEq

namespace RoomRouter

def roomCode (r : RoomRouter) (roomId : RoomId) : Except RouterError RoomCode :=
  match r.rooms[roomId]? with
  | none => .error (.roomNotFound roomId)
  | some room => .ok room.code

def hostCount (r : RoomRouter) (roomId : RoomId) : Except RouterError Nat :=
  match r.rooms[roomId]? with
  | none => .error (.roomNotFound roomId)
  | some room => .ok room.hostSessions.size

def stats (r : RoomRouter) : RouterStats where
  activeRooms := r.rooms.size
  activePeers := r.peers.size
  suspendedPeers := (r.peers.toList.filter fun e => e.2.disconnectedAt.isSome).length
  activeHosts := r.hosts.size
  activeGameplaySessions := r.gameplay.size

/-- The rooms, as `room_snapshot` reports them. -/
def roomSnapshots (r : RoomRouter) : List RoomSnapshot :=
  r.rooms.toList.filterMap fun e => (r.roomSnapshot e.1).toOption

variable {config : RouterConfig} {r r' : RoomRouter} {o : WalkOrder}

/-! ## The census -/

theorem roomSnapshots_eq (r : RoomRouter) : r.roomSnapshots = r.rooms.toList.map fun e =>
    { roomId := e.1, code := e.2.code, memberCount := e.2.members.size, hostCount := e.2.hostSessions.size } := by
  unfold roomSnapshots
  rw [← List.filterMap_eq_map, List.filterMap_congr]
  intro e he
  have hr : r.rooms[e.1]? = some e.2 := ExtTreeMap.mem_toList_iff_getElem?_eq_some.1 he
  simp only [roomSnapshot, hr, Except.toOption, Function.comp_apply]

/-- A peer has one host session at most, so there are no more hosts than peers. -/
theorem WF.hosts_le_peers (h : r.WF) : r.hosts.size ≤ r.peers.size := by
  refine size_le_of_column (f := HostState.peerId) (fun k k' host host' hk hk' e => ?_) fun k host hk => ?_
  · obtain ⟨peer, hp, hs⟩ := h.hostPeer k host hk
    obtain ⟨peer', hp', hs'⟩ := h.hostPeer k' host' hk'
    rw [e, hp'] at hp
    cases hp
    exact h.owners.unique hk hk' (Prod.ext (hs.1.symm.trans hs'.1) e)
  · obtain ⟨peer, hp, -⟩ := h.hostPeer k host hk
    exact ⟨peer, hp⟩

/-- In every reachable state the members and the hosts that the rooms report add up to the totals of
`stats`, every index has one row for each row of its table, and hosts and suspended peers are no more
than the peers. -/
theorem reachable_census (h : Reachable config r) :
    r.roomSnapshots.length = r.stats.activeRooms ∧
    (r.roomSnapshots.map RoomSnapshot.memberCount).sum = r.stats.activePeers ∧
    (r.roomSnapshots.map RoomSnapshot.hostCount).sum = r.stats.activeHosts ∧
    r.roomsByCode.size = r.stats.activeRooms ∧
    r.virtualIps.size = r.stats.activePeers ∧
    r.hostByPeer.size = r.stats.activeHosts ∧
    r.stats.activeHosts ≤ r.stats.activePeers ∧
    r.stats.suspendedPeers ≤ r.stats.activePeers := by
  have hw := h.wf
  rw [roomSnapshots_eq]
  refine ⟨?_, ?_, ?_, hw.codes.size_eq, hw.addresses.size_eq, hw.owners.size_eq, hw.hosts_le_peers, ?_⟩
  · rw [List.length_map, ExtTreeMap.length_toList]
    rfl
  · rw [List.map_map]
    exact hw.members.total
  · rw [List.map_map]
    exact hw.sessions.total
  · exact (List.length_filter_le _ _).trans_eq ExtTreeMap.length_toList

/-- One room, one peer, one host. -/
theorem hosting_census : Example.hosting.stats.activeHosts = 1 ∧
    (Example.hosting.roomSnapshots.map RoomSnapshot.memberCount).sum = 1 := by
  obtain ⟨-, hmembers, -⟩ := reachable_census Example.hosting_reachable
  exact ⟨by decide +kernel, hmembers.trans (by decide +kernel)⟩

/-! ## The limits -/

/-- Every table is within its limit. The discoveries have none. -/
structure Within (config : RouterConfig) (r : RoomRouter) : Prop where
  rooms : r.rooms.size ≤ config.maxRooms
  peers : r.peers.size ≤ config.maxTotalPeers
  members : ∀ (id : RoomId) (room : RoomState), r.rooms[id]? = some room → room.members.size ≤ config.maxPeersPerRoom
  gameplay : r.gameplay.size ≤ config.maxGameplaySessions

/-- Nothing has come in: no room, no peer, no gameplay session, and nobody has moved. -/
structure Shrinks (r r' : RoomRouter) : Prop where
  rooms : ∀ id : RoomId, r'.rooms[id]? ≠ none → r.rooms[id]? ≠ none
  peers : ∀ (p : PeerId) (peer' : PeerState), r'.peers[p]? = some peer' →
    ∃ peer, r.peers[p]? = some peer ∧ peer.roomId = peer'.roomId
  gameplay : ∀ k : GameplaySessionId, r'.gameplay[k]? ≠ none → r.gameplay[k]? ≠ none

theorem Shrinks.trans {r'' : RoomRouter} (h : Shrinks r r') (h' : Shrinks r' r'') : Shrinks r r'' where
  rooms := fun id hr => h.rooms id (h'.rooms id hr)
  peers := fun p peer'' hp'' => by
    obtain ⟨peer', hp', e'⟩ := h'.peers p peer'' hp''
    obtain ⟨peer, hp, e⟩ := h.peers p peer' hp'
    exact ⟨peer, hp, e.trans e'⟩
  gameplay := fun k hk => h.gameplay k (h'.gameplay k hk)

theorem Shrinks.within (hs : Shrinks r r') (hw : r.WF) (hw' : r'.WF) (h : r.Within config) : r'.Within config where
  rooms := (size_le_of_keys hs.rooms).trans h.rooms
  peers := by
    refine (size_le_of_keys fun p hp => ?_).trans h.peers
    obtain ⟨peer', hp'⟩ := Option.ne_none_iff_exists'.1 hp
    obtain ⟨peer, hp, -⟩ := hs.peers p peer' hp'
    rw [hp]
    exact Option.some_ne_none peer
  members := fun id room' hr' => by
    obtain ⟨room, hr⟩ := Option.ne_none_iff_exists'.1 (hs.rooms id (hr' ▸ Option.some_ne_none room'))
    refine (size_le_of_mem fun p hp => ?_).trans (h.members id room hr)
    -- a member of the room is registered in it, and was before
    obtain ⟨peer', hp', rfl⟩ := (hw'.member_iff hr').1 hp
    obtain ⟨peer, hp, e⟩ := hs.peers p peer' hp'
    exact (hw.member_iff hr).2 ⟨peer, hp, e⟩
  gameplay := (size_le_of_keys hs.gameplay).trans h.gameplay

/-- Whatever the ledger only loses, the router only loses. -/
theorem Shrinks.of_ledger (hcode : ∀ id, r'.ledger.code id ≠ none → r.ledger.code id ≠ none)
    (hpeer : ∀ p peer', r'.ledger.peer p = some peer' → ∃ peer, r.ledger.peer p = some peer ∧
      peer.roomId = peer'.roomId)
    (hgame : ∀ k session, r'.ledger.gameplay k = some session → r.ledger.gameplay k = some session) : Shrinks r r' where
  rooms := fun id hr => by
    have hc := hcode id (by simpa [ledger] using hr)
    simpa [ledger] using hc
  peers := hpeer
  gameplay := fun k hk => by
    obtain ⟨session, hs⟩ := Option.ne_none_iff_exists'.1 hk
    have hg : r.gameplay[k]? = some session := hgame k session hs
    rw [hg]
    exact Option.some_ne_none session

end RoomRouter

namespace Ledger

variable {L : Ledger} {D : PeerId → Prop} {now : Instant} {p : PeerId}

theorem suspend_peer {peer' : PeerState} (h : (L.suspend D now).peer p = some peer') :
    ∃ peer, L.peer p = some peer ∧ peer.roomId = peer'.roomId := by
  obtain ⟨peer, hp, he⟩ := Option.bind_eq_some_iff.1 h
  refine ⟨peer, hp, ?_⟩
  cases he
  split <;> rfl

theorem dismiss_peer {peer : PeerState} (h : (L.dismiss D).peer p = some peer) : L.peer p = some peer := by
  obtain ⟨peer', hp, he⟩ := Option.bind_eq_some_iff.1 h
  split at he
  · cases he
  · cases he
    exact hp

end Ledger

namespace RoomRouter

variable {config : RouterConfig} {r r' : RoomRouter} {o : WalkOrder}

theorem WF.shrinks_without (o : WalkOrder) (h : r.WF) {peerId : PeerId} {peer : PeerState}
    (hp : r.peers[peerId]? = some peer) :
    Shrinks r (RoomRouter.without o r peerId peer) := by
  refine .of_ledger ?_ ?_ ?_
  · rw [ledger_without o h hp]
    exact fun _ hc => hc
  · rw [ledger_without o h hp]
    exact fun p peer' hp' => ⟨peer', Ledger.dismiss_peer hp', rfl⟩
  · rw [ledger_without o h hp]
    exact fun k session hk => (keep_eq_some.1 hk).1

theorem WF.shrinks_expire (o : WalkOrder) (h : r.WF) (now : Instant) :
    Shrinks r (RoomRouter.expire o r now).2 := by
  refine .of_ledger ?_ ?_ ?_
  · rw [ledger_expire o h now]
    exact fun _ hc => hc
  · rw [ledger_expire o h now]
    exact fun p peer' hp' => Ledger.suspend_peer (Ledger.dismiss_peer hp')
  · rw [ledger_expire o h now]
    exact fun k session hk => (keep_eq_some.1 (keep_eq_some.1 (keep_eq_some.1 hk).1).1).1

theorem shrinks_removeHost (r : RoomRouter) (id : HostSessionId) : Shrinks r (r.removeHost id) where
  rooms := fun room hr => by
    obtain ⟨f, hf⟩ := removeHost_rooms r id room
    rwa [hf, ne_eq, Option.map_eq_none_iff] at hr
  peers := fun p peer' hp => ⟨peer', by rwa [removeHost_peers] at hp, rfl⟩
  gameplay := fun k hk => by
    obtain ⟨session, hs⟩ := Option.ne_none_iff_exists'.1 hk
    have hs' : look (r.removeHost id).gameplay k = some session := hs
    rw [removeHost_gameplay] at hs'
    have hg : r.gameplay[k]? = some session := (keep_eq_some.1 hs').1
    rw [hg]
    exact Option.some_ne_none session

theorem shrinks_hosted (r : RoomRouter) (peerId : PeerId) (peer : PeerState) (now : Instant) (fresh : HostSessionId) :
    Shrinks r (hosted r peerId peer now fresh) where
  rooms := fun _ => modify_has.1
  peers := fun _ peer' hp => ⟨peer', hp, rfl⟩
  gameplay := fun _ hk => hk

/-- An edit of a peer that leaves it in its room. -/
theorem shrinks_editPeer {peerId : PeerId} {f : PeerState → PeerState} (hroom : ∀ peer, (f peer).roomId = peer.roomId) :
    Shrinks r { r with peers := r.peers.modify peerId f } where
  rooms := fun _ hr => hr
  peers := fun p peer' hp => by
    by_cases e : peerId = p
    · subst e
      rw [ExtTreeMap.getElem?_modify_self] at hp
      obtain ⟨peer, hpeer, rfl⟩ := Option.map_eq_some_iff.1 hp
      exact ⟨peer, hpeer, (hroom peer).symm⟩
    · rw [getElem?_modify_ne e] at hp
      exact ⟨peer', hp, rfl⟩
  gameplay := fun _ hk => hk

/-! ## No effect takes a table past its limit -/

theorem Within.createRoom (h : r.Within r.config) {roomId : RoomId} {code : RoomCode}
    (hlt : r.rooms.size < r.config.maxRooms) :
    Within r.config { r with
      rooms := r.rooms.insert roomId { code, members := ∅, hostSessions := ∅ }
      roomsByCode := r.roomsByCode.insert code roomId } where
  rooms := ExtTreeMap.size_insert_le.trans hlt
  peers := h.peers
  members := fun id room hr => by
    by_cases e : roomId = id
    · subst e
      rw [ExtTreeMap.getElem?_insert_self] at hr
      cases hr
      exact Nat.zero_le _
    · rw [getElem?_insert_ne e] at hr
      exact h.members id room hr
  gameplay := h.gameplay

theorem Within.join (h : r.Within r.config) {roomId : RoomId} {room : RoomState} (hr : r.rooms[roomId]? = some room)
    (hroom : room.members.size < r.config.maxPeersPerRoom) (hall : r.peers.size < r.config.maxTotalPeers)
    (peerId : PeerId) (peer : PeerState) (virtualIp : VirtualIp) : Within r.config { r with
      rooms := r.rooms.modify roomId fun room => { room with members := room.members.insert peerId }
      peers := r.peers.insert peerId peer
      virtualIps := r.virtualIps.insert virtualIp peerId } where
  rooms := by
    refine (size_le_of_keys fun id hid => ?_).trans h.rooms
    exact modify_has.1 hid
  peers := ExtTreeMap.size_insert_le.trans hall
  members := fun id room' hr' => by
    by_cases e : roomId = id
    · subst e
      rw [ExtTreeMap.getElem?_modify_self, hr] at hr'
      cases hr'
      exact ExtTreeSet.size_insert_le.trans hroom
    · rw [getElem?_modify_ne e] at hr'
      exact h.members id room' hr'
  gameplay := h.gameplay

theorem Within.select (h : r.Within r.config) (hlt : r.gameplay.size < r.config.maxGameplaySessions)
    (k : GameplaySessionId) (session : GameplayState) :
    Within r.config { r with gameplay := r.gameplay.insert k session } :=
  { h with gameplay := ExtTreeMap.size_insert_le.trans hlt }

theorem Within.effect {op : RouterOp} (h : r.Within r.config) (hw : r.WF) (hf : op.Fresh r) (he : Effect o r op r') :
    r'.Within r.config := by
  have hw' := hw.effect hf he
  induction he with
  | createRoom hlt => exact h.createRoom hlt
  | removeRoom =>
    exact { h with
      rooms := ExtTreeMap.size_erase_le.trans h.rooms
      members := fun id room hr => h.members id room (erase_sub hr) }
  | join hr hroom hall => exact h.join hr hroom hall _ _ _
  | restore _ ih => exact ih trivial hw'
  | leave hp => exact (hw.shrinks_without o hp).within hw hw' h
  | @seen peerId _ now =>
    have hs : Shrinks r { r with peers := r.peers.modify peerId fun peer => { peer with lastSeen := now } } :=
      shrinks_editPeer fun _ => rfl
    exact hs.within hw hw' h
  | resume => exact (shrinks_editPeer fun peer => resumed_roomId peer _).within hw hw' h
  | host => exact (shrinks_hosted r _ _ _ _).within hw hw' h
  | hostAgain => exact ⟨h.rooms, h.peers, h.members, h.gameplay⟩
  | rehost => exact ((shrinks_removeHost r _).trans (shrinks_hosted _ _ _ _ _)).within hw hw' h
  | beat => exact ⟨h.rooms, h.peers, h.members, h.gameplay⟩
  | beatForRoom _ _ ih => exact ih trivial hw'
  | unhost => exact (shrinks_removeHost r _).within hw hw' h
  | discover => exact { h with }
  | discoverAgain => exact { h with }
  | select _ _ _ _ hlt => exact h.select hlt _ _
  | play => exact { h with gameplay := (size_le_of_keys fun _ => modify_has.1).trans h.gameplay }
  | endGameplay => exact { h with gameplay := ExtTreeMap.size_erase_le.trans h.gameplay }
  | dispatchDiscovery _ _ ih => exact ih trivial hw'
  | dispatchResponse => exact h
  | dispatchGameplay _ ih => exact ih trivial hw'
  | expire => exact (hw.shrinks_expire o _).within hw hw' h

/-- In every reachable state every table is within its limit: the rooms, the peers of the server and of
each room, the hosts of each room and the gameplay sessions. -/
theorem reachable_within_limits (h : Reachable config r) :
    r.stats.activeRooms ≤ config.maxRooms ∧ r.stats.activePeers ≤ config.maxTotalPeers ∧
    r.stats.activeGameplaySessions ≤ config.maxGameplaySessions ∧
    ∀ snapshot ∈ r.roomSnapshots,
      snapshot.memberCount ≤ config.maxPeersPerRoom ∧ snapshot.hostCount ≤ config.maxHostsPerRoom := by
  have hwithin : r.Within config := by
    refine Transition.Reachable.invariant (P := fun s => s.Within config) ?_ ?_ h
    · rintro _ rfl
      exact ⟨Nat.zero_le _, Nat.zero_le _, fun id room hr => by simp [new] at hr, Nat.zero_le _⟩
    · rintro s _ hreach hs ⟨o, op, hf, rfl⟩
      obtain ⟨e, he⟩ | ⟨s', he, heff⟩ := exec_does o (Reachable.wf hreach) op
      · rw [he]
        exact hs
      · rw [he, ← Reachable.config_eq hreach]
        rw [← Reachable.config_eq hreach] at hs
        exact hs.effect (Reachable.wf hreach) hf heff
  refine ⟨hwithin.rooms, hwithin.peers, hwithin.gameplay, fun snapshot hs => ?_⟩
  rw [roomSnapshots_eq, List.mem_map] at hs
  obtain ⟨⟨id, room⟩, hr, rfl⟩ := hs
  rw [ExtTreeMap.mem_toList_iff_getElem?_eq_some] at hr
  have hhosts := h.wf.hostLimit id room hr
  rw [h.config_eq] at hhosts
  exact ⟨hwithin.members id room hr, hhosts⟩

theorem hosting_within_limits : Example.hosting.stats.activePeers ≤ 4096 :=
  (reachable_within_limits Example.hosting_reachable).2.1

end RoomRouter

end Civ6LanBridge

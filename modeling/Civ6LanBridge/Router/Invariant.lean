/-
The representation invariant of the router: its indexes invert its tables, each room lists its
peers and its hosts, and every cached copy of a peer is current. Each edit of the tables keeps it,
every operation is a sequence of such edits, so it holds in every reachable state.
-/
import Civ6LanBridge.Lib.Index
import Civ6LanBridge.Router.Ops

namespace Civ6LanBridge

open Std FinMap Bytes

/-! ## The invariant -/

/-- The peer is in the room, at the address. -/
def PeerState.Sits (peer : PeerState) (roomId : RoomId) (virtualIp : VirtualIp) : Prop :=
  peer.roomId = roomId ∧ peer.virtualIp = virtualIp

/-- The key under which `host_by_peer` finds a host. -/
def HostState.owner (host : HostState) : RoomId × PeerId := (host.roomId, host.peerId)

namespace RoomRouter

structure WF (r : RoomRouter) : Prop where
  codes : IsIndex r.rooms RoomState.code r.roomsByCode
  members : IsGrouping r.rooms RoomState.members r.peers PeerState.roomId
  addresses : IsIndex r.peers PeerState.virtualIp r.virtualIps
  sessions : IsGrouping r.rooms RoomState.hostSessions r.hosts HostState.roomId
  owners : IsIndex r.hosts HostState.owner r.hostByPeer
  hostPeer : Refers r.hosts HostState.peerId r.peers fun host peer => peer.Sits host.roomId host.virtualIp
  discoveryClient : Refers r.discoveries DiscoveryState.clientPeerId r.peers fun discovery peer =>
    peer.roomId = discovery.roomId
  gameplayClient : Refers r.gameplay GameplayState.clientPeerId r.peers fun session peer =>
    peer.Sits session.roomId session.clientVirtualIp
  gameplayHost : Refers r.gameplay GameplayState.hostPeerId r.peers fun session peer =>
    peer.Sits session.roomId session.hostVirtualIp
  hostLimit : ∀ (roomId : RoomId) (room : RoomState), r.rooms[roomId]? = some room →
    room.hostSessions.size ≤ r.config.maxHostsPerRoom

theorem new_wf (config : RouterConfig) : (new config).WF where
  codes := .empty
  members := .empty
  addresses := .empty
  sessions := .empty
  owners := .empty
  hostPeer := .empty
  discoveryClient := .empty
  gameplayClient := .empty
  gameplayHost := .empty
  hostLimit := fun roomId room h => by simp [new] at h

variable {r : RoomRouter} {roomId : RoomId} {peerId : PeerId} {hostId : HostSessionId}

/-! ## Edits of the tables -/

/-- A limit on the hosts of each room survives an edit of one room that respects it. -/
theorem WF.hostLimit_modify (h : r.WF) {f : RoomState → RoomState}
    (hf : ∀ room, r.rooms[roomId]? = some room → (f room).hostSessions.size ≤ r.config.maxHostsPerRoom)
    (id : RoomId) (room : RoomState) (hr : (r.rooms.modify roomId f)[id]? = some room) :
    room.hostSessions.size ≤ r.config.maxHostsPerRoom := by
  by_cases e : roomId = id
  · subst e
    rw [ExtTreeMap.getElem?_modify_self] at hr
    obtain ⟨room', hr', rfl⟩ := Option.map_eq_some_iff.1 hr
    exact hf room' hr'
  · rw [getElem?_modify_ne e] at hr
    exact h.hostLimit id room hr

theorem WF.addRoom (h : r.WF) {code : RoomCode} (hid : r.rooms[roomId]? = none) (hcode : r.roomsByCode[code]? = none) :
    WF { r with
      rooms := r.rooms.insert roomId { code, members := ∅, hostSessions := ∅ }
      roomsByCode := r.roomsByCode.insert code roomId } where
  codes := h.codes.insert (v := { code, members := ∅, hostSessions := ∅ }) hid hcode
  members := h.members.addGroup hid rfl
  addresses := h.addresses
  sessions := h.sessions.addGroup hid rfl
  owners := h.owners
  hostPeer := h.hostPeer
  discoveryClient := h.discoveryClient
  gameplayClient := h.gameplayClient
  gameplayHost := h.gameplayHost
  hostLimit := by
    intro id room hr
    rw [ExtTreeMap.getElem?_insert] at hr
    split at hr
    · cases hr; simp
    · exact h.hostLimit id room hr

theorem WF.dropRoom (h : r.WF) {room : RoomState} (hr : r.rooms[roomId]? = some room) (hm : room.members = ∅)
    (hs : room.hostSessions = ∅) :
    WF { r with rooms := r.rooms.erase roomId, roomsByCode := r.roomsByCode.erase room.code } where
  codes := h.codes.erase hr
  members := h.members.dropGroup hr hm
  addresses := h.addresses
  sessions := h.sessions.dropGroup hr hs
  owners := h.owners
  hostPeer := h.hostPeer
  discoveryClient := h.discoveryClient
  gameplayClient := h.gameplayClient
  gameplayHost := h.gameplayHost
  hostLimit := by
    intro id room hr
    rw [ExtTreeMap.getElem?_erase] at hr
    split at hr
    · cases hr
    · exact h.hostLimit id room hr

theorem WF.addPeer (h : r.WF) {room : RoomState} (peer : PeerState) (hroom : r.rooms[peer.roomId]? = some room)
    (hpeer : r.peers[peerId]? = none) (hip : r.virtualIps[peer.virtualIp]? = none) :
    WF { r with
      rooms := r.rooms.modify peer.roomId fun room => { room with members := room.members.insert peerId }
      peers := r.peers.insert peerId peer
      virtualIps := r.virtualIps.insert peer.virtualIp peerId } where
  codes := h.codes.modify fun _ _ => rfl
  members := h.members.insert hpeer hroom fun _ => rfl
  addresses := h.addresses.insert hpeer hip
  sessions := h.sessions.modifyGroup fun _ => rfl
  owners := h.owners
  hostPeer := h.hostPeer.insertTarget hpeer
  discoveryClient := h.discoveryClient.insertTarget hpeer
  gameplayClient := h.gameplayClient.insertTarget hpeer
  gameplayHost := h.gameplayHost.insertTarget hpeer
  hostLimit := h.hostLimit_modify fun room hr => h.hostLimit _ room hr

/-- An edit of a peer that leaves it in its room, at its address. -/
theorem WF.editPeer (h : r.WF) {f : PeerState → PeerState} (hroom : ∀ peer, (f peer).roomId = peer.roomId)
    (hip : ∀ peer, (f peer).virtualIp = peer.virtualIp) : WF { r with peers := r.peers.modify peerId f } := by
  have sits : ∀ (peer : PeerState) roomId ip, peer.Sits roomId ip → (f peer).Sits roomId ip :=
    fun peer _ _ hs => ⟨(hroom peer).trans hs.1, (hip peer).trans hs.2⟩
  exact {
    codes := h.codes
    members := h.members.modify hroom
    addresses := h.addresses.modify fun peer _ => hip peer
    sessions := h.sessions
    owners := h.owners
    hostPeer := h.hostPeer.modifyTarget fun _ peer => sits peer _ _
    discoveryClient := h.discoveryClient.modifyTarget fun _ peer hs => (hroom peer).trans hs
    gameplayClient := h.gameplayClient.modifyTarget fun _ peer => sits peer _ _
    gameplayHost := h.gameplayHost.modifyTarget fun _ peer => sits peer _ _
    hostLimit := h.hostLimit }

/-- A peer nothing refers to may go. -/
theorem WF.dropPeer (h : r.WF) {peer : PeerState} (hpeer : r.peers[peerId]? = some peer)
    (hhosts : ∀ (k : HostSessionId) (v : HostState), r.hosts[k]? = some v → v.peerId ≠ peerId)
    (hdisc : ∀ (k : DiscoveryRequestId) (v : DiscoveryState), r.discoveries[k]? = some v → v.clientPeerId ≠ peerId)
    (hgame : ∀ (k : GameplaySessionId) (v : GameplayState), r.gameplay[k]? = some v →
      v.clientPeerId ≠ peerId ∧ v.hostPeerId ≠ peerId) :
    WF { r with
      rooms := r.rooms.modify peer.roomId fun room => { room with members := room.members.erase peerId }
      peers := r.peers.erase peerId
      virtualIps := r.virtualIps.erase peer.virtualIp } where
  codes := h.codes.modify fun _ _ => rfl
  members := h.members.erase hpeer fun _ => rfl
  addresses := h.addresses.erase hpeer
  sessions := h.sessions.modifyGroup fun _ => rfl
  owners := h.owners
  hostPeer := h.hostPeer.eraseTarget hhosts
  discoveryClient := h.discoveryClient.eraseTarget hdisc
  gameplayClient := h.gameplayClient.eraseTarget fun k v hk => (hgame k v hk).1
  gameplayHost := h.gameplayHost.eraseTarget fun k v hk => (hgame k v hk).2
  hostLimit := h.hostLimit_modify fun room hr => h.hostLimit _ room hr

theorem WF.insertHost (h : r.WF) {room : RoomState} {peer : PeerState} (host : HostState)
    (hroom : r.rooms[host.roomId]? = some room) (hpeer : r.peers[host.peerId]? = some peer)
    (hsits : peer.Sits host.roomId host.virtualIp) (hfresh : r.hosts[hostId]? = none)
    (howner : r.hostByPeer[host.owner]? = none) (hlimit : room.hostSessions.size < r.config.maxHostsPerRoom) :
    WF { r with
      hosts := r.hosts.insert hostId host
      hostByPeer := r.hostByPeer.insert host.owner hostId
      rooms := r.rooms.modify host.roomId fun room =>
        { room with hostSessions := room.hostSessions.insert hostId } } where
  codes := h.codes.modify fun _ _ => rfl
  members := h.members.modifyGroup fun _ => rfl
  addresses := h.addresses
  sessions := h.sessions.insert hfresh hroom fun _ => rfl
  owners := h.owners.insert hfresh howner
  hostPeer := h.hostPeer.insert hpeer hsits
  discoveryClient := h.discoveryClient
  gameplayClient := h.gameplayClient
  gameplayHost := h.gameplayHost
  hostLimit := h.hostLimit_modify fun room' hr => by
    rw [hroom] at hr
    cases hr
    have : (room.hostSessions.insert hostId).size ≤ room.hostSessions.size + 1 := ExtTreeSet.size_insert_le
    show (room.hostSessions.insert hostId).size ≤ _
    omega

/-- An edit of a host that leaves it its owner and its address. -/
theorem WF.editHost (h : r.WF) {f : HostState → HostState} (howner : ∀ host, (f host).owner = host.owner)
    (hip : ∀ host, (f host).virtualIp = host.virtualIp) : WF { r with hosts := r.hosts.modify hostId f } where
  codes := h.codes
  members := h.members
  addresses := h.addresses
  sessions := h.sessions.modify fun host => congrArg Prod.fst (howner host)
  owners := h.owners.modify fun host _ => howner host
  hostPeer := h.hostPeer.mono fun k host hk => by
    by_cases e : hostId = k
    · subst e
      rw [ExtTreeMap.getElem?_modify_self] at hk
      obtain ⟨host', hk', rfl⟩ := Option.map_eq_some_iff.1 hk
      have hroom : (f host').roomId = host'.roomId := congrArg Prod.fst (howner host')
      refine ⟨host', hk', congrArg Prod.snd (howner host'), fun peer hs => ?_⟩
      rw [hroom, hip]; exact hs
    · rw [getElem?_modify_ne e] at hk
      exact ⟨host, hk, rfl, fun _ hs => hs⟩
  discoveryClient := h.discoveryClient
  gameplayClient := h.gameplayClient
  gameplayHost := h.gameplayHost
  hostLimit := h.hostLimit

/-- Discoveries may be replaced by ones whose clients are members. -/
theorem WF.setDiscoveries (h : r.WF) {discoveries : ExtTreeMap DiscoveryRequestId DiscoveryState}
    (hd : Refers discoveries DiscoveryState.clientPeerId r.peers fun discovery peer => peer.roomId = discovery.roomId) :
    WF { r with discoveries } :=
  { h with discoveryClient := hd }

/-- Gameplay sessions may be replaced by ones whose ends are members at the addresses they hold. -/
theorem WF.setGameplay (h : r.WF) {gameplay : ExtTreeMap GameplaySessionId GameplayState}
    (hc : Refers gameplay GameplayState.clientPeerId r.peers fun session peer =>
      peer.Sits session.roomId session.clientVirtualIp)
    (hh : Refers gameplay GameplayState.hostPeerId r.peers fun session peer =>
      peer.Sits session.roomId session.hostVirtualIp) : WF { r with gameplay } :=
  { h with gameplayClient := hc, gameplayHost := hh }

/-- Discoveries and gameplay sessions may go. -/
theorem WF.thinDiscoveries (h : r.WF) {discoveries : ExtTreeMap DiscoveryRequestId DiscoveryState}
    (hs : ∀ (k : DiscoveryRequestId) (v : DiscoveryState), discoveries[k]? = some v → r.discoveries[k]? = some v) :
    WF { r with discoveries } :=
  h.setDiscoveries (h.discoveryClient.sub hs)

theorem WF.thinGameplay (h : r.WF) {gameplay : ExtTreeMap GameplaySessionId GameplayState}
    (hs : ∀ (k : GameplaySessionId) (v : GameplayState), gameplay[k]? = some v → r.gameplay[k]? = some v) :
    WF { r with gameplay } :=
  h.setGameplay (h.gameplayClient.sub hs) (h.gameplayHost.sub hs)

/-! ## Removing hosts -/

theorem removeHost_none (h : r.hosts[hostId]? = none) : r.removeHost hostId = r := by
  unfold removeHost; rw [h]

theorem removeHost_some {host : HostState} (h : r.hosts[hostId]? = some host) : r.removeHost hostId = { r with
    hosts := r.hosts.erase hostId
    hostByPeer := r.hostByPeer.erase host.owner
    rooms := r.rooms.modify host.roomId fun room => { room with hostSessions := room.hostSessions.erase hostId }
    gameplay := r.gameplay.filter fun _ session =>
      session.hostPeerId ≠ host.peerId || session.roomId ≠ host.roomId } := by
  unfold removeHost; rw [h]; rfl

@[simp] theorem removeHost_config (r : RoomRouter) (id : HostSessionId) : (r.removeHost id).config = r.config := by
  unfold removeHost; split <;> rfl

@[simp] theorem removeHost_peers (r : RoomRouter) (id : HostSessionId) : (r.removeHost id).peers = r.peers := by
  unfold removeHost; split <;> rfl

@[simp] theorem removeHost_discoveries (r : RoomRouter) (id : HostSessionId) :
    (r.removeHost id).discoveries = r.discoveries := by
  unfold removeHost; split <;> rfl

theorem removeHost_hosts (r : RoomRouter) (id : HostSessionId) : (r.removeHost id).hosts = r.hosts.erase id := by
  unfold removeHost
  split
  -- erasing an identifier that is not there changes nothing
  · rename_i h
    refine ExtTreeMap.ext_getElem? fun k => ?_
    rw [ExtTreeMap.getElem?_erase]
    split
    · rename_i e
      rw [← Std.compare_eq_iff_eq.1 e, h]
    · rfl
  · rfl

/-- Removing a host changes nothing of a room but the list of its hosts. -/
theorem removeHost_rooms (r : RoomRouter) (id : HostSessionId) (room : RoomId) :
    ∃ f : ExtTreeSet HostSessionId → ExtTreeSet HostSessionId, (r.removeHost id).rooms[room]? =
      (r.rooms[room]?).map fun s => { s with hostSessions := f s.hostSessions } := by
  cases h : r.hosts[id]? with
  | none => exact ⟨fun s => s, by rw [removeHost_none h]; simp⟩
  | some host =>
    rw [removeHost_some h]
    by_cases e : host.roomId = room
    · subst e
      exact ⟨fun s => s.erase id, by rw [ExtTreeMap.getElem?_modify_self]⟩
    · refine ⟨fun s => s, ?_⟩
      rw [getElem?_modify_ne e]
      simp

theorem WF.removeHost (h : r.WF) (id : HostSessionId) : (r.removeHost id).WF := by
  cases hh : r.hosts[id]? with
  | none => rwa [removeHost_none hh]
  | some host =>
    rw [removeHost_some hh]
    refine WF.thinGameplay (r := { r with
      hosts := r.hosts.erase id
      hostByPeer := r.hostByPeer.erase host.owner
      rooms := r.rooms.modify host.roomId fun room =>
        { room with hostSessions := room.hostSessions.erase id } }) ?_ fun k v hk => ?_
    · exact {
        codes := h.codes.modify fun _ _ => rfl
        members := h.members.modifyGroup fun _ => rfl
        addresses := h.addresses
        sessions := h.sessions.erase hh fun _ => rfl
        owners := h.owners.erase hh
        hostPeer := h.hostPeer.sub fun k v hk => by
          rw [ExtTreeMap.getElem?_erase] at hk
          split at hk
          · cases hk
          · exact hk
        discoveryClient := h.discoveryClient
        gameplayClient := h.gameplayClient
        gameplayHost := h.gameplayHost
        hostLimit := h.hostLimit_modify fun room hr =>
          Nat.le_trans ExtTreeSet.size_erase_le (h.hostLimit _ room hr) }
    · exact (getElem?_filter_eq_some.1 hk).1

/-- What a loop of `remove_host` keeps. -/
theorem removeHosts_induction {P : RoomRouter → Prop} (hP : ∀ r id, P r → P (r.removeHost id)) :
    ∀ (ids : List HostSessionId) (r : RoomRouter), P r → P (r.removeHosts ids)
  | [], _, h => h
  | id :: ids, r, h => removeHosts_induction hP ids (r.removeHost id) (hP r id h)

theorem WF.removeHosts (h : r.WF) (ids : List HostSessionId) : (r.removeHosts ids).WF :=
  removeHosts_induction (fun _ id hr => hr.removeHost id) ids r h

@[simp] theorem removeHosts_config (r : RoomRouter) (ids : List HostSessionId) :
    (r.removeHosts ids).config = r.config :=
  removeHosts_induction (P := fun s => s.config = r.config) (fun s id hs => by rw [removeHost_config, hs]) ids r rfl

@[simp] theorem removeHosts_peers (r : RoomRouter) (ids : List HostSessionId) : (r.removeHosts ids).peers = r.peers :=
  removeHosts_induction (P := fun s => s.peers = r.peers) (fun s id hs => by rw [removeHost_peers, hs]) ids r rfl

@[simp] theorem removeHosts_discoveries (r : RoomRouter) (ids : List HostSessionId) :
    (r.removeHosts ids).discoveries = r.discoveries :=
  removeHosts_induction (P := fun s => s.discoveries = r.discoveries)
    (fun s id hs => by rw [removeHost_discoveries, hs]) ids r rfl

theorem removeHosts_hosts (ids : List HostSessionId) :
    ∀ r : RoomRouter, (r.removeHosts ids).hosts = eraseAll ids r.hosts := by
  induction ids with
  | nil => exact fun r => rfl
  | cons id ids ih =>
    intro r
    show ((r.removeHost id).removeHosts ids).hosts = eraseAll ids (r.hosts.erase id)
    rw [ih, removeHost_hosts]

/-- Removing hosts changes nothing of a room but the list of its hosts. -/
theorem removeHosts_rooms (ids : List HostSessionId) (r : RoomRouter) (room : RoomId) :
    ∃ f : ExtTreeSet HostSessionId → ExtTreeSet HostSessionId, (r.removeHosts ids).rooms[room]? =
      (r.rooms[room]?).map fun s => { s with hostSessions := f s.hostSessions } := by
  refine removeHosts_induction (P := fun s => ∃ f : ExtTreeSet HostSessionId → ExtTreeSet HostSessionId,
    s.rooms[room]? = (r.rooms[room]?).map fun s => { s with hostSessions := f s.hostSessions })
    (fun s id hs => ?_) ids r ⟨fun s => s, by simp⟩
  obtain ⟨f, hf⟩ := hs
  obtain ⟨g, hg⟩ := removeHost_rooms s id room
  exact ⟨g ∘ f, by rw [hg, hf, Option.map_map]; rfl⟩

/-! ## Removing peers -/

theorem WF.disconnectPeer (o : WalkOrder) (h : r.WF) (peerId : PeerId) (now : Instant) :
    (disconnectPeer o r peerId now).WF := by
  unfold RoomRouter.disconnectPeer
  split
  · exact h
  have h1 : WF { r with peers := r.peers.modify peerId fun peer => { peer with disconnectedAt := some now } } :=
    h.editPeer (fun _ => rfl) fun _ => rfl
  have h2 := h1.removeHosts (keysWhere o (fun _ host => host.peerId = peerId) r.hosts)
  exact (h2.thinGameplay fun k v hk => (getElem?_filter_eq_some.1 hk).1).thinDiscoveries
    fun k v hk => (getElem?_filter_eq_some.1 hk).1

@[simp] theorem removePeerSessions_config (o : WalkOrder) (r : RoomRouter) (roomId : RoomId) (peerId : PeerId) :
    (removePeerSessions o r roomId peerId).config = r.config := by
  unfold removePeerSessions; simp

@[simp] theorem removePeerSessions_peers (o : WalkOrder) (r : RoomRouter) (roomId : RoomId) (peerId : PeerId) :
    (removePeerSessions o r roomId peerId).peers = r.peers := by
  unfold removePeerSessions; simp

theorem WF.removePeerSessions (o : WalkOrder) (h : r.WF) (roomId : RoomId) (peerId : PeerId) :
    (removePeerSessions o r roomId peerId).WF :=
  ((h.removeHosts _).thinGameplay fun _ _ hk => eraseAll_sub hk).thinDiscoveries fun _ _ hk => eraseAll_sub hk

/-- A member of a room is a registered peer of that room. -/
theorem WF.member_iff (h : r.WF) {room : RoomState} (hr : r.rooms[roomId]? = some room) :
    peerId ∈ room.members ↔ ∃ peer, r.peers[peerId]? = some peer ∧ peer.roomId = roomId :=
  h.members.mem_iff roomId room hr peerId

/-- The router after a registered peer has left. -/
def without (o : WalkOrder) (r : RoomRouter) (peerId : PeerId) (peer : PeerState) : RoomRouter :=
  let s := removePeerSessions o r peer.roomId peerId
  { s with
    rooms := s.rooms.modify peer.roomId fun room => { room with members := room.members.erase peerId }
    peers := s.peers.erase peerId
    virtualIps := s.virtualIps.erase peer.virtualIp }

/-- A registered peer can always leave its room. -/
theorem leaveRoom_peer (o : WalkOrder) (h : r.WF) {peer : PeerState} (hp : r.peers[peerId]? = some peer) :
    leaveRoom o r peer.roomId peerId = .ok () (without o r peerId peer) := by
  obtain ⟨room, hr⟩ := h.members.home peerId peer hp
  have hmem : peerId ∈ room.members := (h.member_iff hr).2 ⟨peer, hp, rfl⟩
  unfold leaveRoom
  simp only [hr, hmem, not_true_eq_false, if_false, removePeerSessions_peers, hp]
  rw [without, removePeerSessions_peers]

/-- Leaving fails and changes nothing, or removes a registered peer of the room. -/
theorem leaveRoom_cases (o : WalkOrder) (h : r.WF) (roomId : RoomId) (peerId : PeerId) :
    (∃ e, leaveRoom o r roomId peerId = .err e r) ∨ ∃ peer, r.peers[peerId]? = some peer ∧ peer.roomId = roomId ∧
      leaveRoom o r roomId peerId = .ok () (without o r peerId peer) := by
  cases hr : r.rooms[roomId]? with
  | none => left; unfold leaveRoom; rw [hr]; exact ⟨_, rfl⟩
  | some room =>
    by_cases hm : peerId ∈ room.members
    · obtain ⟨peer, hp, rfl⟩ := (h.member_iff hr).1 hm
      exact Or.inr ⟨peer, hp, rfl, leaveRoom_peer o h hp⟩
    · left
      unfold leaveRoom
      simp only [hr, hm, not_false_eq_true, if_true]
      exact ⟨_, rfl⟩

/-- Once a peer's sessions are removed, nothing refers to it: all its hosts, discoveries and gameplay
sessions are in its room. -/
theorem WF.without (o : WalkOrder) (h : r.WF) {peer : PeerState} (hp : r.peers[peerId]? = some peer) :
    (without o r peerId peer).WF := by
  have h' := h.removePeerSessions o peer.roomId peerId
  refine h'.dropPeer (by rw [removePeerSessions_peers]; exact hp) ?_ ?_ ?_
  · intro k v hk e
    have hk' : (eraseAll (keysWhere o (fun _ host => host.roomId = peer.roomId && host.peerId = peerId) r.hosts)
        r.hosts)[k]? = some v := by rwa [← removeHosts_hosts]
    rw [eraseAll_keysWhere, getElem?_filter_eq_some] at hk'
    obtain ⟨peer', hp', hsits⟩ := h.hostPeer k v hk'.1
    rw [e, hp] at hp'
    cases hp'
    simp [hsits.1, e] at hk'
  · intro k v hk e
    have hk' : (eraseAll (keysWhere o (fun _ discovery => discovery.roomId = peer.roomId &&
        discovery.clientPeerId = peerId) r.discoveries) r.discoveries)[k]? = some v := by
      rwa [← removeHosts_discoveries r]
    rw [eraseAll_keysWhere, getElem?_filter_eq_some] at hk'
    obtain ⟨peer', hp', hroom⟩ := h.discoveryClient k v hk'.1
    rw [e, hp] at hp'
    cases hp'
    simp [hroom, e] at hk'
  · intro k v hk
    have hr := h.removeHosts (keysWhere o (fun _ host => host.roomId = peer.roomId && host.peerId = peerId) r.hosts)
    change (eraseAll (keysWhere o _ _) _)[k]? = some v at hk
    rw [eraseAll_keysWhere, getElem?_filter_eq_some] at hk
    have inRoom : ∀ {id : PeerId} {ip : VirtualIp} {w : PeerState}, id = peerId → r.peers[id]? = some w →
        w.Sits v.roomId ip → v.roomId = peer.roomId := by
      intro id ip w e hw hs
      rw [e, hp] at hw
      cases hw
      exact hs.1.symm
    constructor
    · intro e
      obtain ⟨w, hw, hs⟩ := hr.gameplayClient k v hk.1
      rw [removeHosts_peers] at hw
      simp [inRoom e hw hs, e] at hk
    · intro e
      obtain ⟨w, hw, hs⟩ := hr.gameplayHost k v hk.1
      rw [removeHosts_peers] at hw
      simp [inRoom e hw hs, e] at hk

theorem WF.leaveRoom (o : WalkOrder) (h : r.WF) (roomId : RoomId) (peerId : PeerId) :
    (leaveRoom o r roomId peerId).2.WF := by
  obtain ⟨e, he⟩ | ⟨peer, hp, -, he⟩ := leaveRoom_cases o h roomId peerId
  · rw [he]; exact h
  · rw [he]; exact h.without o hp

theorem WF.expirePeer (o : WalkOrder) (h : r.WF) (peerId : PeerId) : (expirePeer o r peerId).WF := by
  unfold RoomRouter.expirePeer
  split
  · exact h
  · exact h.leaveRoom o _ _

/-- What every round of a loop keeps, the loop keeps. -/
theorem WF.foldl {α : Type} {f : RoomRouter → α → RoomRouter} (hf : ∀ r a, WF r → (f r a).WF) :
    ∀ (l : List α) (r : RoomRouter), WF r → (l.foldl f r).WF
  | [], _, h => h
  | a :: l, r, h => WF.foldl hf l (f r a) (hf r a h)

theorem WF.expireHosts (o : WalkOrder) (h : r.WF) (now : Instant) : (expireHosts o r now).WF := h.removeHosts _

theorem WF.expireDiscoveries (o : WalkOrder) (h : r.WF) (now : Instant) : (expireDiscoveries o r now).WF :=
  h.thinDiscoveries fun _ _ => eraseAll_sub

theorem WF.expireGameplay (o : WalkOrder) (h : r.WF) (now : Instant) : (expireGameplay o r now).WF :=
  h.thinGameplay fun _ _ => eraseAll_sub

theorem WF.disconnectPeers (o : WalkOrder) (h : r.WF) (now : Instant) : (disconnectPeers o r now).WF :=
  WF.foldl (fun _ id hr => hr.disconnectPeer o id now) _ _ h

theorem WF.expirePeers (o : WalkOrder) (h : r.WF) (now : Instant) : (expirePeers o r now).WF :=
  WF.foldl (fun _ id hr => hr.expirePeer o id) _ _ h

theorem WF.expire (o : WalkOrder) (h : r.WF) (now : Instant) : (expire o r now).2.WF :=
  ((((h.expireHosts o now).expireDiscoveries o now).expireGameplay o now).disconnectPeers o now).expirePeers o now

end RoomRouter

end Civ6LanBridge

/-
What one operation can do to a well-formed router: fail and leave it as it was, or have one of the
effects listed here. Every property of the router over its runs is a case analysis of the effects.
-/
import Civ6LanBridge.Router.Invariant

namespace Civ6LanBridge

open Std FinMap Bytes

/-! ## Effects -/

namespace RoomRouter

/-- The router with a new host of a peer. -/
def hosted (r : RoomRouter) (peerId : PeerId) (peer : PeerState) (now : Instant) (fresh : HostSessionId) :
    RoomRouter :=
  let host : HostState := { roomId := peer.roomId, peerId, virtualIp := peer.virtualIp, lastHeartbeat := now,
                            expiresAt := now + r.config.hostTtl }
  { r with
    hosts := r.hosts.insert fresh host
    hostByPeer := r.hostByPeer.insert host.owner fresh
    rooms := r.rooms.modify host.roomId fun room => { room with hostSessions := room.hostSessions.insert fresh } }

end RoomRouter

open RoomRouter

/-- The ways an operation that succeeds changes the router. -/
inductive Effect (o : WalkOrder) (r : RoomRouter) : RouterOp → RoomRouter → Prop
  | createRoom {roomId code} : r.rooms.size < r.config.maxRooms → r.roomsByCode[code]? = none →
      r.rooms[roomId]? = none → Effect o r (.createRoomWithId roomId code) { r with
        rooms := r.rooms.insert roomId { code, members := ∅, hostSessions := ∅ }
        roomsByCode := r.roomsByCode.insert code roomId }
  | removeRoom {roomId room} : r.rooms[roomId]? = some room → room.members = ∅ → room.hostSessions = ∅ →
      Effect o r (.removeEmptyRoom roomId)
        { r with rooms := r.rooms.erase roomId, roomsByCode := r.roomsByCode.erase room.code }
  | join {roomId room peerId virtualIp now} : r.rooms[roomId]? = some room →
      room.members.size < r.config.maxPeersPerRoom → r.peers.size < r.config.maxTotalPeers →
      r.peers[peerId]? = none → r.virtualIps[virtualIp]? = none →
      Effect o r (.joinRoom roomId peerId virtualIp now) { r with
        rooms := r.rooms.modify roomId fun room => { room with members := room.members.insert peerId }
        peers := r.peers.insert peerId
          { roomId, virtualIp, lastSeen := now, disconnectedAt := none, connectionEpoch := 1 }
        virtualIps := r.virtualIps.insert virtualIp peerId }
  | restore {roomId peerId virtualIp now r'} : Effect o r (.joinRoom roomId peerId virtualIp now) r' →
      Effect o r (.restorePeer roomId peerId virtualIp now) r'
  | leave {peerId peer} : r.peers[peerId]? = some peer →
      Effect o r (.leaveRoom peer.roomId peerId) (without o r peerId peer)
  | seen {peerId peer now} : r.peers[peerId]? = some peer → peer.disconnectedAt = none →
      Effect o r (.markPeerSeen peerId now)
        { r with peers := r.peers.modify peerId fun peer => { peer with lastSeen := now } }
  | resume {peerId peer now} : r.peers[peerId]? = some peer → graceOver r.config peer now = false →
      Effect o r (.resumePeer peer.roomId peerId now)
        { r with peers := r.peers.modify peerId fun peer => resumed peer now }
  | host {peerId peer room now fresh} : r.peers[peerId]? = some peer → r.rooms[peer.roomId]? = some room →
      r.hostByPeer[(peer.roomId, peerId)]? = none → room.hostSessions.size < r.config.maxHostsPerRoom →
      Effect o r (.registerHost peer.roomId peerId now fresh) (hosted r peerId peer now fresh)
  | hostAgain {hostId host now fresh} : r.hosts[hostId]? = some host → now < host.expiresAt →
      Effect o r (.registerHost host.roomId host.peerId now fresh) (r.beat hostId now)
  | rehost {hostId host peer now fresh} : r.hosts[hostId]? = some host → host.expiresAt ≤ now →
      r.peers[host.peerId]? = some peer → peer.roomId = host.roomId →
      Effect o r (.registerHost host.roomId host.peerId now fresh)
        (hosted (r.removeHost hostId) host.peerId peer now fresh)
  | beat {hostId host now} : r.hosts[hostId]? = some host → now < host.expiresAt →
      Effect o r (.heartbeatHost hostId now) (r.beat hostId now)
  | beatForRoom {hostId host now r'} : r.hosts[hostId]? = some host → Effect o r (.heartbeatHost hostId now) r' →
      Effect o r (.heartbeatHostForRoom host.roomId host.peerId hostId now) r'
  | unhost {hostId host} : r.hosts[hostId]? = some host → Effect o r (.unregisterHost hostId) (r.removeHost hostId)
  | discover {peerId peer requestId port now} : r.peers[peerId]? = some peer → r.discoveries[requestId]? = none →
      Effect o r (.beginDiscovery peer.roomId peerId requestId port now)
        { r with
          discoveries := r.discoveries.insert requestId
            { roomId := peer.roomId, clientPeerId := peerId, destinationPort := port,
              expiresAt := now + r.config.discoveryTtl } }
  | discoverAgain {requestId discovery now} : r.discoveries[requestId]? = some discovery →
      Effect o r (.beginDiscovery discovery.roomId discovery.clientPeerId requestId discovery.destinationPort now)
        { r with
          discoveries := r.discoveries.modify requestId fun discovery =>
            { discovery with expiresAt := now + r.config.discoveryTtl } }
  | select {peerId peer hostId host now fresh} : r.peers[peerId]? = some peer → r.hosts[hostId]? = some host →
      host.roomId = peer.roomId → now < host.expiresAt → r.gameplay.size < r.config.maxGameplaySessions →
      Effect o r (.selectHost peer.roomId peerId hostId now fresh)
        { r with
          gameplay := r.gameplay.insert fresh
            { roomId := peer.roomId, clientPeerId := peerId, hostPeerId := host.peerId,
              hostVirtualIp := host.virtualIp, clientVirtualIp := peer.virtualIp, lastActivity := now,
              expiresAt := now + r.config.gameplayIdleTtl } }
  | play {sessionId session peerId now} : r.gameplay[sessionId]? = some session → now < session.expiresAt →
      peerId = session.clientPeerId ∨ peerId = session.hostPeerId →
      Effect o r (.routeGameplayDatagram sessionId peerId now)
        { r with
          gameplay := r.gameplay.modify sessionId fun session =>
            { session with lastActivity := now, expiresAt := now + r.config.gameplayIdleTtl } }
  | endGameplay {sessionId session} : r.gameplay[sessionId]? = some session →
      Effect o r (.removeGameplaySession sessionId) { r with gameplay := r.gameplay.erase sessionId }
  | dispatchDiscovery {peerId peer requestId port payload now r'} : r.peers[peerId]? = some peer →
      Effect o r (.beginDiscovery peer.roomId peerId requestId port now) r' →
      Effect o r (.dispatch (.discovery peerId requestId port payload now)) r'
  | dispatchResponse {hostId requestId port payload now} :
      Effect o r (.dispatch (.discoveryResponse hostId requestId port payload now)) r
  | dispatchGameplay {sessionId peerId port payload now r'} : Effect o r
      (.routeGameplayDatagram sessionId peerId now) r' →
      Effect o r (.dispatch (.gameplay sessionId peerId port payload now)) r'
  | expire {now} : Effect o r (.expire now) (expire o r now).2

namespace RoomRouter

variable {r : RoomRouter} {o : WalkOrder} {roomId : RoomId} {peerId : PeerId} {hostId : HostSessionId}
  {now : Instant}

/-! ## Each operation has its effect or none -/

/-- The members of a room are the peers registered in it. -/
theorem memberState_ok (h : r.WF) {peer : PeerState} (hp : r.peers[peerId]? = some peer) :
    r.memberState peer.roomId peerId = .ok peer := by
  obtain ⟨room, hr⟩ := h.members.home peerId peer hp
  have hm : peerId ∈ room.members := (h.member_iff hr).2 ⟨peer, hp, rfl⟩
  unfold memberState
  simp [hr, hm, hp]

theorem memberState_cases (r : RoomRouter) (roomId : RoomId) (peerId : PeerId) :
    (∃ e, r.memberState roomId peerId = .error e) ∨ ∃ peer room, r.peers[peerId]? = some peer ∧
      peer.roomId = roomId ∧ r.rooms[roomId]? = some room ∧ r.memberState roomId peerId = .ok peer := by
  unfold memberState
  split
  · exact Or.inl ⟨_, rfl⟩
  rename_i room hr
  split
  · exact Or.inl ⟨_, rfl⟩
  split
  · exact Or.inl ⟨_, rfl⟩
  rename_i peer hp
  split
  · exact Or.inl ⟨_, rfl⟩
  rename_i he
  exact Or.inr ⟨peer, room, hp, not_not.1 he, hr, rfl⟩

/-- The outcome is an error and the router as it was, or a success with an effect of the operation. -/
def Does (o : WalkOrder) (r : RoomRouter) (op : RouterOp) (x : Outcome Unit) : Prop :=
  (∃ e, x = .err e r) ∨ ∃ r', x = .ok () r' ∧ Effect o r op r'

theorem createRoomWithId_does (roomId : RoomId) (code : RoomCode) :
    Does o r (.createRoomWithId roomId code) (r.createRoomWithId roomId code) := by
  unfold createRoomWithId
  split
  · exact Or.inl ⟨_, rfl⟩
  rename_i hmax
  split
  · exact Or.inl ⟨_, rfl⟩
  rename_i hcode
  split
  · exact Or.inl ⟨_, rfl⟩
  rename_i hroom
  exact Or.inr ⟨_, rfl, .createRoom (by omega) (contains_eq_false.1 (Bool.eq_false_iff.2 hcode))
    (contains_eq_false.1 (Bool.eq_false_iff.2 hroom))⟩

theorem removeEmptyRoom_does (roomId : RoomId) : Does o r (.removeEmptyRoom roomId) (r.removeEmptyRoom roomId) := by
  unfold removeEmptyRoom
  split
  · exact Or.inl ⟨_, rfl⟩
  rename_i room hr
  split
  · exact Or.inl ⟨_, rfl⟩
  rename_i he
  simp only [Bool.or_eq_true, Bool.not_eq_true', not_or, Bool.not_eq_false, ExtTreeSet.isEmpty_iff] at he
  exact Or.inr ⟨_, rfl, .removeRoom hr he.1 he.2⟩

theorem joinRoom_does (roomId : RoomId) (peerId : PeerId) (virtualIp : VirtualIp) (now : Instant) :
    Does o r (.joinRoom roomId peerId virtualIp now) (r.joinRoom roomId peerId virtualIp now) := by
  unfold joinRoom
  split
  · exact Or.inl ⟨_, rfl⟩
  rename_i room hr
  split
  · exact Or.inl ⟨_, rfl⟩
  rename_i hroom
  split
  · exact Or.inl ⟨_, rfl⟩
  rename_i htotal
  split
  · exact Or.inl ⟨_, rfl⟩
  split
  · exact Or.inl ⟨_, rfl⟩
  rename_i hpeer
  split
  · exact Or.inl ⟨_, rfl⟩
  rename_i hip
  exact Or.inr ⟨_, rfl, .join hr (by omega) (by omega) (contains_eq_false.1 (Bool.eq_false_iff.2 hpeer))
    (contains_eq_false.1 (Bool.eq_false_iff.2 hip))⟩

theorem leaveRoom_does (h : r.WF) (roomId : RoomId) (peerId : PeerId) :
    Does o r (.leaveRoom roomId peerId) (leaveRoom o r roomId peerId) := by
  obtain ⟨e, he⟩ | ⟨peer, hp, rfl, he⟩ := leaveRoom_cases o h roomId peerId
  · exact Or.inl ⟨e, he⟩
  · exact Or.inr ⟨_, he, .leave hp⟩

theorem markPeerSeen_does (peerId : PeerId) (now : Instant) :
    Does o r (.markPeerSeen peerId now) (r.markPeerSeen peerId now) := by
  unfold markPeerSeen
  split
  · exact Or.inl ⟨_, rfl⟩
  rename_i peer hp
  split
  · exact Or.inl ⟨_, rfl⟩
  rename_i hd
  exact Or.inr ⟨_, rfl, .seen hp (by simpa using hd)⟩

theorem resumePeer_does (roomId : RoomId) (peerId : PeerId) (now : Instant) :
    Does o r (.resumePeer roomId peerId now) ((r.resumePeer roomId peerId now).map fun _ => ()) := by
  unfold resumePeer
  split
  · exact Or.inl ⟨_, rfl⟩
  rename_i peer hp
  split
  · exact Or.inl ⟨_, rfl⟩
  rename_i hroom
  rw [not_not] at hroom
  subst hroom
  split
  · exact Or.inl ⟨_, rfl⟩
  rename_i hg
  exact Or.inr ⟨_, rfl, .resume hp (by simpa using hg)⟩

theorem addHost_cases (r : RoomRouter) {peer : PeerState} {room : RoomState} (hr : r.rooms[peer.roomId]? = some room)
    (peerId : PeerId) (now : Instant) (fresh : HostSessionId) :
    (r.config.maxHostsPerRoom ≤ room.hostSessions.size ∧
        r.addHost peer.roomId peerId peer now fresh = .err (.hostLimitReached peer.roomId) r) ∨
      (room.hostSessions.size < r.config.maxHostsPerRoom ∧
        r.addHost peer.roomId peerId peer now fresh = .ok fresh (hosted r peerId peer now fresh)) := by
  unfold addHost
  rw [hr]
  dsimp only
  split
  · rename_i hle; exact Or.inl ⟨hle, rfl⟩
  · rename_i hlt; exact Or.inr ⟨by omega, rfl⟩

/-- Removing a room's host leaves room for another: the host was on the room's list, and the list was
within the limit. -/
theorem WF.removeHost_leaves_room (h : r.WF) {host : HostState} (hh : r.hosts[hostId]? = some host) :
    ∃ room, (r.removeHost hostId).rooms[host.roomId]? = some room ∧
      room.hostSessions.size < r.config.maxHostsPerRoom := by
  obtain ⟨room, hr⟩ := h.sessions.home hostId host hh
  have hmem : hostId ∈ room.hostSessions := (h.sessions.mem_iff _ room hr hostId).2 ⟨host, hh, rfl⟩
  have hlimit := h.hostLimit _ room hr
  refine ⟨{ room with hostSessions := room.hostSessions.erase hostId }, ?_, ?_⟩
  · rw [removeHost_some hh, ExtTreeMap.getElem?_modify_self, hr]; rfl
  · show (room.hostSessions.erase hostId).size < _
    have hpos : 0 < room.hostSessions.size := by
      rw [Nat.pos_iff_ne_zero, ne_eq, ← ExtTreeSet.eq_empty_iff_size_eq_zero]
      intro he
      rw [he] at hmem
      exact ExtTreeSet.not_mem_empty hmem
    rw [ExtTreeSet.size_erase, if_pos (ExtTreeSet.contains_iff_mem.2 hmem)]
    omega

/-- Registering a host when the peer has one never meets the host limit. -/
theorem registerHost_owned (h : r.WF) (hb : r.hostByPeer[(roomId, peerId)]? = some hostId) (now : Instant)
    (fresh : HostSessionId) : ∃ host peer, r.hosts[hostId]? = some host ∧ host.roomId = roomId ∧ host.peerId = peerId ∧
      r.peers[peerId]? = some peer ∧ peer.roomId = roomId ∧
      ((now < host.expiresAt ∧ r.registerHost roomId peerId now fresh = .ok hostId (r.beat hostId now)) ∨
        (host.expiresAt ≤ now ∧ r.registerHost roomId peerId now fresh =
          .ok fresh (hosted (r.removeHost hostId) peerId peer now fresh))) := by
  obtain ⟨host, hh, howner⟩ := (h.owners _ _).1 hb
  obtain ⟨rfl, rfl⟩ : host.roomId = roomId ∧ host.peerId = peerId := by
    simpa [HostState.owner] using howner
  obtain ⟨peer, hp, hroom, -⟩ := h.hostPeer hostId host hh
  refine ⟨host, peer, hh, rfl, rfl, hp, hroom, ?_⟩
  unfold registerHost
  rw [← hroom, memberState_ok h hp]
  dsimp only
  rw [hroom, hb]
  dsimp only
  rw [hh]
  dsimp only
  split
  · rename_i hlt; exact Or.inl ⟨hlt, rfl⟩
  · rename_i hge
    refine Or.inr ⟨Nat.not_lt.1 hge, ?_⟩
    obtain ⟨room, hr, hlt⟩ := h.removeHost_leaves_room hh
    rw [← hroom] at hr ⊢
    obtain ⟨hle, -⟩ | ⟨-, he⟩ := addHost_cases (r.removeHost hostId) hr host.peerId now fresh
    · rw [removeHost_config] at hle; omega
    · exact he

theorem registerHost_does (h : r.WF) (roomId : RoomId) (peerId : PeerId) (now : Instant) (fresh : HostSessionId) :
    Does o r (.registerHost roomId peerId now fresh) ((r.registerHost roomId peerId now fresh).map fun _ => ()) := by
  cases hb : r.hostByPeer[(roomId, peerId)]? with
  | some hostId =>
    obtain ⟨host, peer, hh, rfl, rfl, hp, hroom, ⟨hlt, he⟩ | ⟨hle, he⟩⟩ := registerHost_owned h hb now fresh
    · rw [he]; exact Or.inr ⟨_, rfl, .hostAgain hh hlt⟩
    · rw [he]; exact Or.inr ⟨_, rfl, .rehost hh hle hp hroom⟩
  | none =>
    unfold registerHost
    obtain ⟨e, he⟩ | ⟨peer, room, hp, rfl, hr, he⟩ := memberState_cases r roomId peerId
    · rw [he]; exact Or.inl ⟨_, rfl⟩
    · rw [he, hb]
      dsimp only
      obtain ⟨-, he⟩ | ⟨hlt, he⟩ := addHost_cases r hr peerId now fresh
      · rw [he]; exact Or.inl ⟨_, rfl⟩
      · rw [he]; exact Or.inr ⟨_, rfl, .host hp hr hb hlt⟩

theorem heartbeatHost_does (hostId : HostSessionId) (now : Instant) :
    Does o r (.heartbeatHost hostId now) (r.heartbeatHost hostId now) := by
  unfold heartbeatHost
  split
  · exact Or.inl ⟨_, rfl⟩
  rename_i host hh
  split
  · exact Or.inl ⟨_, rfl⟩
  rename_i hlt
  exact Or.inr ⟨_, rfl, .beat hh (Nat.not_le.1 hlt)⟩

theorem heartbeatHostForRoom_does (roomId : RoomId) (peerId : PeerId) (hostId : HostSessionId) (now : Instant) :
    Does o r (.heartbeatHostForRoom roomId peerId hostId now) (r.heartbeatHostForRoom roomId peerId hostId now) := by
  unfold heartbeatHostForRoom
  split
  · exact Or.inl ⟨_, rfl⟩
  rename_i host hh
  split
  · exact Or.inl ⟨_, rfl⟩
  rename_i hne
  obtain ⟨rfl, rfl⟩ : host.roomId = roomId ∧ host.peerId = peerId := by tauto
  obtain ⟨e, he⟩ | ⟨r', he, heff⟩ := heartbeatHost_does (o := o) (r := r) hostId now
  · exact Or.inl ⟨e, he⟩
  · exact Or.inr ⟨r', he, .beatForRoom hh heff⟩

theorem unregisterHost_does (hostId : HostSessionId) :
    Does o r (.unregisterHost hostId) (r.unregisterHost hostId) := by
  unfold unregisterHost
  split
  · rename_i hc
    rw [ExtTreeMap.contains_eq_isSome_getElem?, Option.isSome_iff_exists] at hc
    obtain ⟨host, hh⟩ := hc
    exact Or.inr ⟨_, rfl, .unhost hh⟩
  · exact Or.inl ⟨_, rfl⟩

/-- The fan-out does not depend on the requests recorded. -/
theorem fanOut_eq {room : RoomState} {discoveries : ExtTreeMap DiscoveryRequestId DiscoveryState}
    (hr : r.rooms[roomId]? = some room) : fanOut o { r with discoveries } roomId now =
      .ok (discoveryTargets o r room now) { r with discoveries } := by
  unfold fanOut
  rw [hr]
  rfl

/-- What `begin_discovery` returns to its callers. -/
theorem beginDiscovery_cases (o : WalkOrder) (r : RoomRouter) (roomId : RoomId) (peerId : PeerId)
    (requestId : DiscoveryRequestId) (port : Civ6UdpPort) (now : Instant) :
    (∃ e, beginDiscovery o r roomId peerId requestId port now = .err e r) ∨
      ∃ room r', r.rooms[roomId]? = some room ∧ r'.rooms = r.rooms ∧ r'.hosts = r.hosts ∧ r'.peers = r.peers ∧
        Effect o r (.beginDiscovery roomId peerId requestId port now) r' ∧
        beginDiscovery o r roomId peerId requestId port now = .ok (discoveryTargets o r room now) r' := by
  unfold beginDiscovery
  split
  · exact Or.inl ⟨_, rfl⟩
  obtain ⟨e, he⟩ | ⟨peer, room, hp, rfl, hr, he⟩ := memberState_cases r roomId peerId
  · rw [he]; exact Or.inl ⟨_, rfl⟩
  rw [he]
  dsimp only
  split
  · rename_i existing hd
    split
    · exact Or.inl ⟨_, rfl⟩
    rename_i hne
    obtain ⟨hroom, rfl, rfl⟩ : existing.roomId = peer.roomId ∧ existing.clientPeerId = peerId ∧
        existing.destinationPort = port := by tauto
    have heff :
        Effect o r (.beginDiscovery existing.roomId existing.clientPeerId requestId existing.destinationPort now) _ :=
      .discoverAgain hd
    rw [hroom] at heff
    refine Or.inr ⟨room, _, hr, ?_, ?_, ?_, heff, fanOut_eq hr⟩ <;> rfl
  · rename_i hd
    refine Or.inr ⟨room, _, hr, ?_, ?_, ?_, .discover hp hd, fanOut_eq hr⟩ <;> rfl

theorem beginDiscovery_does (roomId : RoomId) (peerId : PeerId) (requestId : DiscoveryRequestId)
    (port : Civ6UdpPort) (now : Instant) : Does o r (.beginDiscovery roomId peerId requestId port now)
      ((beginDiscovery o r roomId peerId requestId port now).map fun _ => ()) := by
  obtain ⟨e, he⟩ | ⟨room, r', -, -, -, -, heff, he⟩ := beginDiscovery_cases o r roomId peerId requestId port now
  · rw [he]; exact Or.inl ⟨e, rfl⟩
  · rw [he]; exact Or.inr ⟨r', rfl, heff⟩

theorem selectHost_does (roomId : RoomId) (peerId : PeerId) (hostId : HostSessionId) (now : Instant)
    (fresh : GameplaySessionId) : Does o r (.selectHost roomId peerId hostId now fresh)
      ((r.selectHost roomId peerId hostId now fresh).map fun _ => ()) := by
  unfold selectHost
  obtain ⟨e, he⟩ | ⟨peer, room, hp, rfl, hr, he⟩ := memberState_cases r roomId peerId
  · rw [he]; exact Or.inl ⟨_, rfl⟩
  rw [he]
  dsimp only
  split
  · exact Or.inl ⟨_, rfl⟩
  rename_i host hh
  split
  · exact Or.inl ⟨_, rfl⟩
  rename_i hroom
  split
  · exact Or.inl ⟨_, rfl⟩
  rename_i hexp
  split
  · exact Or.inl ⟨_, rfl⟩
  rename_i hmax
  exact Or.inr ⟨_, rfl, .select hp hh (not_not.1 hroom) (Nat.not_le.1 hexp) (by omega)⟩

theorem otherEnd_some {session : GameplayState} {dest : PeerId × VirtualIp} (h : otherEnd session peerId = some dest) :
    (peerId = session.clientPeerId ∧ dest = (session.hostPeerId, session.hostVirtualIp)) ∨
      (peerId = session.hostPeerId ∧ dest = (session.clientPeerId, session.clientVirtualIp)) := by
  unfold otherEnd at h
  split at h
  · rename_i e; cases h; exact Or.inl ⟨e, rfl⟩
  · split at h
    · rename_i e; cases h; exact Or.inr ⟨e, rfl⟩
    · cases h

/-- What `route_gameplay_datagram` returns to its callers. -/
theorem routeGameplayDatagram_cases (o : WalkOrder) (r : RoomRouter) (sessionId : GameplaySessionId) (peerId : PeerId)
    (now : Instant) : (∃ e, r.routeGameplayDatagram sessionId peerId now = .err e r) ∨
      ∃ session dest r', r.gameplay[sessionId]? = some session ∧ otherEnd session peerId = some dest ∧
        r'.peers = r.peers ∧ Effect o r (.routeGameplayDatagram sessionId peerId now) r' ∧
        r.routeGameplayDatagram sessionId peerId now =
          .ok { sessionId, roomId := session.roomId, sourcePeerId := peerId, destinationPeerId := dest.1,
                destinationVirtualIp := dest.2 } r' := by
  unfold routeGameplayDatagram
  split
  · exact Or.inl ⟨_, rfl⟩
  rename_i session hs
  split
  · exact Or.inl ⟨_, rfl⟩
  rename_i hexp
  split
  · exact Or.inl ⟨_, rfl⟩
  rename_i a b hd
  refine Or.inr ⟨session, (a, b), _, hs, hd, ?_,
    .play hs (Nat.not_le.1 hexp) ((otherEnd_some hd).imp And.left And.left), ?_⟩ <;> rfl

theorem routeGameplayDatagram_does (sessionId : GameplaySessionId) (peerId : PeerId) (now : Instant) :
    Does o r (.routeGameplayDatagram sessionId peerId now)
      ((r.routeGameplayDatagram sessionId peerId now).map fun _ => ()) := by
  obtain ⟨e, he⟩ | ⟨session, dest, r', -, -, -, heff, he⟩ := routeGameplayDatagram_cases o r sessionId peerId now
  · rw [he]; exact Or.inl ⟨e, rfl⟩
  · rw [he]; exact Or.inr ⟨r', rfl, heff⟩

theorem removeGameplaySession_does (sessionId : GameplaySessionId) :
    Does o r (.removeGameplaySession sessionId) (r.removeGameplaySession sessionId) := by
  unfold removeGameplaySession
  split
  · rename_i hc
    rw [ExtTreeMap.contains_eq_isSome_getElem?, Option.isSome_iff_exists] at hc
    obtain ⟨session, hs⟩ := hc
    exact Or.inr ⟨_, rfl, .endGameplay hs⟩
  · exact Or.inl ⟨_, rfl⟩

theorem dispatch_does (ingress : RelayIngress) :
    Does o r (.dispatch ingress) ((dispatch o r ingress).map fun _ => ()) := by
  unfold dispatch
  split
  · rename_i peerId requestId port payload now
    split
    · exact Or.inl ⟨_, rfl⟩
    split
    · exact Or.inl ⟨_, rfl⟩
    rename_i roomId hroom
    obtain ⟨peer, hp, rfl⟩ := Option.map_eq_some_iff.1 hroom
    obtain ⟨e, he⟩ | ⟨room, r', -, -, -, -, heff, he⟩ := beginDiscovery_cases o r peer.roomId peerId requestId port now
    · rw [he]; exact Or.inl ⟨e, rfl⟩
    · rw [he]; exact Or.inr ⟨r', rfl, .dispatchDiscovery hp heff⟩
  · rename_i hostId requestId port payload now
    split
    · exact Or.inl ⟨_, rfl⟩
    split
    · exact Or.inl ⟨_, rfl⟩
    split
    · exact Or.inl ⟨_, rfl⟩
    split
    · exact Or.inl ⟨_, rfl⟩
    · exact Or.inr ⟨r, rfl, .dispatchResponse⟩
  · rename_i sessionId peerId port payload now
    split
    · exact Or.inl ⟨_, rfl⟩
    split
    · exact Or.inl ⟨_, rfl⟩
    obtain ⟨e, he⟩ | ⟨session, dest, r', -, -, -, heff, he⟩ := routeGameplayDatagram_cases o r sessionId peerId now
    · rw [he]; exact Or.inl ⟨e, rfl⟩
    · rw [he]; exact Or.inr ⟨r', rfl, .dispatchGameplay heff⟩

/-- Every operation on a well-formed router fails and changes nothing, or has one of its effects; in
particular none panics. -/
theorem exec_does (o : WalkOrder) (h : r.WF) (op : RouterOp) : Does o r op (op.exec o r) := by
  cases op with
  | createRoomWithId roomId code => exact createRoomWithId_does roomId code
  | removeEmptyRoom roomId => exact removeEmptyRoom_does roomId
  | joinRoom roomId peerId virtualIp now => exact joinRoom_does roomId peerId virtualIp now
  | restorePeer roomId peerId virtualIp now =>
    exact (joinRoom_does roomId peerId virtualIp now).imp id fun ⟨r', he, heff⟩ => ⟨r', he, .restore heff⟩
  | leaveRoom roomId peerId => exact leaveRoom_does h roomId peerId
  | markPeerSeen peerId now => exact markPeerSeen_does peerId now
  | resumePeer roomId peerId now => exact resumePeer_does roomId peerId now
  | registerHost roomId peerId now fresh => exact registerHost_does h roomId peerId now fresh
  | heartbeatHost hostId now => exact heartbeatHost_does hostId now
  | heartbeatHostForRoom roomId peerId hostId now => exact heartbeatHostForRoom_does roomId peerId hostId now
  | unregisterHost hostId => exact unregisterHost_does hostId
  | beginDiscovery roomId peerId requestId port now => exact beginDiscovery_does roomId peerId requestId port now
  | selectHost roomId peerId hostId now fresh => exact selectHost_does roomId peerId hostId now fresh
  | routeGameplayDatagram sessionId peerId now => exact routeGameplayDatagram_does sessionId peerId now
  | removeGameplaySession sessionId => exact removeGameplaySession_does sessionId
  | dispatch ingress => exact dispatch_does ingress
  | expire now => exact Or.inr ⟨_, rfl, .expire⟩

/-- What succeeds has one of its effects. -/
theorem exec_ok (o : WalkOrder) (h : r.WF) {op : RouterOp} (hok : (op.exec o r).1 = .ok ()) :
    ∃ r', op.exec o r = .ok () r' ∧ Effect o r op r' := by
  rcases exec_does o h op with ⟨e, he⟩ | hdone
  · rw [he] at hok
    cases hok
  · exact hdone

/-! ## Every effect keeps the invariant -/

/-- A new host keeps the invariant when the owner has none and the room's list has space. -/
theorem WF.hosted (h : r.WF) {peer : PeerState} {room : RoomState} (hp : r.peers[peerId]? = some peer)
    (hr : r.rooms[peer.roomId]? = some room) (howner : r.hostByPeer[(peer.roomId, peerId)]? = none)
    (hlimit : room.hostSessions.size < r.config.maxHostsPerRoom) {fresh : HostSessionId}
    (hfresh : r.hosts[fresh]? = none) (now : Instant) : (hosted r peerId peer now fresh).WF :=
  h.insertHost ⟨peer.roomId, peerId, peer.virtualIp, now, now + r.config.hostTtl⟩ hr hp ⟨rfl, rfl⟩ hfresh howner hlimit

theorem WF.beat (h : r.WF) (hostId : HostSessionId) (now : Instant) : (r.beat hostId now).WF :=
  h.editHost (fun _ => rfl) fun _ => rfl

theorem resumed_roomId (peer : PeerState) (now : Instant) : (resumed peer now).roomId = peer.roomId := by
  unfold resumed; split <;> rfl

theorem resumed_virtualIp (peer : PeerState) (now : Instant) : (resumed peer now).virtualIp = peer.virtualIp := by
  unfold resumed; split <;> rfl

/-- After an expired host is removed its owner has none, and the fresh identifier is still fresh. -/
theorem WF.rehosted (h : r.WF) {host : HostState} {peer : PeerState} (hh : r.hosts[hostId]? = some host)
    (hp : r.peers[host.peerId]? = some peer) (hroom : peer.roomId = host.roomId) {fresh : HostSessionId}
    (hfresh : r.hosts[fresh]? = none) (now : Instant) :
    (RoomRouter.hosted (r.removeHost hostId) host.peerId peer now fresh).WF := by
  obtain ⟨room, hr, hlt⟩ := h.removeHost_leaves_room hh
  refine (h.removeHost hostId).hosted (by rw [removeHost_peers]; exact hp) (by rw [hroom]; exact hr) ?_
    (by rw [removeHost_config]; exact hlt) ?_ now
  · rw [hroom, removeHost_some hh]
    exact ExtTreeMap.getElem?_erase_self
  · rw [removeHost_hosts, ExtTreeMap.getElem?_erase]
    split
    · rfl
    · exact hfresh

theorem WF.effect {op : RouterOp} {r' : RoomRouter} (h : r.WF) (hf : op.Fresh r) (he : Effect o r op r') : r'.WF := by
  induction he with
  | createRoom _ hcode hroom => exact h.addRoom hroom hcode
  | removeRoom hr hm hs => exact h.dropRoom hr hm hs
  | @join roomId room peerId virtualIp now hr _ _ hp hip =>
    exact h.addPeer { roomId, virtualIp, lastSeen := now, disconnectedAt := none, connectionEpoch := 1 } hr hp hip
  | restore _ ih => exact ih trivial
  | leave hp => exact h.without o hp
  | seen => exact h.editPeer (fun _ => rfl) fun _ => rfl
  | resume => exact h.editPeer (fun peer => resumed_roomId peer _) fun peer => resumed_virtualIp peer _
  | host hp hr howner hlt => exact h.hosted hp hr howner hlt hf _
  | hostAgain => exact h.beat _ _
  | rehost hh _ hp hroom => exact h.rehosted hh hp hroom hf _
  | beat => exact h.beat _ _
  | beatForRoom _ _ ih => exact ih trivial
  | unhost => exact h.removeHost _
  | discover hp => exact h.setDiscoveries (h.discoveryClient.insert hp rfl)
  | @discoverAgain requestId discovery now hd =>
    refine h.setDiscoveries (h.discoveryClient.mono fun k v hk => ?_)
    by_cases e : requestId = k
    · subst e
      rw [ExtTreeMap.getElem?_modify_self, hd] at hk
      cases hk
      exact ⟨discovery, hd, rfl, fun _ hr => hr⟩
    · rw [getElem?_modify_ne e] at hk
      exact ⟨v, hk, rfl, fun _ hr => hr⟩
  | @select _ _ hostId host _ _ hp hh hroom _ _ =>
    obtain ⟨w, hw, hs⟩ := h.hostPeer hostId host hh
    rw [hroom] at hs
    exact h.setGameplay (h.gameplayClient.insert hp ⟨rfl, rfl⟩) (h.gameplayHost.insert hw hs)
  | @play sessionId session _ now hs _ _ =>
    have row : ∀ (k : GameplaySessionId) (v : GameplayState), (r.gameplay.modify sessionId fun session =>
        { session with lastActivity := now, expiresAt := now + r.config.gameplayIdleTtl })[k]? = some v →
        ∃ v', r.gameplay[k]? = some v' ∧ v'.roomId = v.roomId ∧ v'.clientPeerId = v.clientPeerId ∧
          v'.clientVirtualIp = v.clientVirtualIp ∧ v'.hostPeerId = v.hostPeerId ∧
            v'.hostVirtualIp = v.hostVirtualIp := by
      intro k v hk
      by_cases e : sessionId = k
      · subst e
        rw [ExtTreeMap.getElem?_modify_self, hs] at hk
        cases hk
        exact ⟨session, hs, rfl, rfl, rfl, rfl, rfl⟩
      · rw [getElem?_modify_ne e] at hk
        exact ⟨v, hk, rfl, rfl, rfl, rfl, rfl⟩
    refine h.setGameplay (h.gameplayClient.mono fun k v hk => ?_) (h.gameplayHost.mono fun k v hk => ?_)
    · obtain ⟨v', hv', e1, e2, e3, -, -⟩ := row k v hk
      exact ⟨v', hv', e2.symm, fun w hw => by rw [← e1, ← e3]; exact hw⟩
    · obtain ⟨v', hv', e1, -, -, e2, e3⟩ := row k v hk
      exact ⟨v', hv', e2.symm, fun w hw => by rw [← e1, ← e3]; exact hw⟩
  | endGameplay =>
    refine h.thinGameplay fun k v hk => ?_
    rw [ExtTreeMap.getElem?_erase] at hk
    split at hk
    · cases hk
    · exact hk
  | dispatchDiscovery _ _ ih => exact ih trivial
  | dispatchResponse => exact h
  | dispatchGameplay _ ih => exact ih trivial
  | expire => exact h.expire o _

/-! ## No effect changes the configuration -/

@[simp] theorem disconnectPeer_config (o : WalkOrder) (r : RoomRouter) (peerId : PeerId) (now : Instant) :
    (disconnectPeer o r peerId now).config = r.config := by
  unfold disconnectPeer; split <;> simp

@[simp] theorem leaveRoom_config (o : WalkOrder) (r : RoomRouter) (roomId : RoomId) (peerId : PeerId) :
    (leaveRoom o r roomId peerId).2.config = r.config := by
  unfold leaveRoom
  split
  · rfl
  split
  · rfl
  dsimp only
  split <;> simp [Outcome.panic, Outcome.ok]

@[simp] theorem expirePeer_config (o : WalkOrder) (r : RoomRouter) (peerId : PeerId) :
    (expirePeer o r peerId).config = r.config := by
  unfold expirePeer; split <;> simp

theorem foldl_config {α : Type} {f : RoomRouter → α → RoomRouter} (hf : ∀ r a, (f r a).config = r.config) :
    ∀ (l : List α) (r : RoomRouter), (l.foldl f r).config = r.config
  | [], _ => rfl
  | a :: l, r => (foldl_config hf l (f r a)).trans (hf r a)

@[simp] theorem disconnectPeers_config (o : WalkOrder) (r : RoomRouter) (now : Instant) :
    (disconnectPeers o r now).config = r.config :=
  foldl_config (fun r peerId => disconnectPeer_config o r peerId now) _ r

@[simp] theorem expirePeers_config (o : WalkOrder) (r : RoomRouter) (now : Instant) :
    (expirePeers o r now).config = r.config :=
  foldl_config (fun r peerId => expirePeer_config o r peerId) _ r

@[simp] theorem expire_config (o : WalkOrder) (r : RoomRouter) (now : Instant) :
    (expire o r now).2.config = r.config := by
  simp [expire, expireGameplay, expireDiscoveries, expireHosts]

theorem effect_config {op : RouterOp} {r' : RoomRouter} (he : Effect o r op r') : r'.config = r.config := by
  induction he with
  | leave => simp [without]
  | rehost => simp [RoomRouter.hosted]
  | unhost => exact removeHost_config r _
  | expire => exact expire_config o r _
  | restore _ ih => exact ih
  | beatForRoom _ _ ih => exact ih
  | dispatchDiscovery _ _ ih => exact ih
  | dispatchGameplay _ ih => exact ih
  | _ => rfl

/-! ## Runs -/

theorem WF.exec (o : WalkOrder) (h : r.WF) {op : RouterOp} (hf : op.Fresh r) : (op.exec o r).2.WF := by
  obtain ⟨e, he⟩ | ⟨r', he, heff⟩ := exec_does o h op
  · rw [he]; exact h
  · rw [he]; exact h.effect hf heff

theorem exec_config (o : WalkOrder) (h : r.WF) (op : RouterOp) : (op.exec o r).2.config = r.config := by
  obtain ⟨e, he⟩ | ⟨r', he, heff⟩ := exec_does o h op
  · rw [he]; rfl
  · rw [he]; exact effect_config heff

theorem Reachable.wf {config : RouterConfig} (h : Reachable config r) : r.WF := by
  refine Transition.Reachable.invariant (P := WF) ?_ ?_ h
  · rintro _ rfl; exact new_wf config
  · rintro s _ - hs ⟨o, op, hf, rfl⟩; exact hs.exec o hf

theorem Reachable.config_eq {config : RouterConfig} (h : Reachable config r) : r.config = config := by
  refine Transition.Reachable.invariant (P := fun s => s.config = config) ?_ ?_ h
  · rintro _ rfl; rfl
  · rintro s _ hreach hs ⟨o, op, -, rfl⟩
    rw [exec_config o (Reachable.wf hreach), hs]

end RoomRouter

end Civ6LanBridge

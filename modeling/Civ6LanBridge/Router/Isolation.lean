/-
Rooms do not interfere: what an operation addressed to one room does, and what a sweep does to a room,
is invisible from every other room.
-/
import Civ6LanBridge.Router.Runs
import Civ6LanBridge.Router.Sweep

namespace Civ6LanBridge

open Std FinMap Table

/-! ## The view of a room -/

/-- Everything the router holds about one room. -/
@[ext] structure RoomView where
  room : Option RoomState
  codes : RoomCode → Prop
  peers : Table PeerId PeerState
  addresses : VirtualIp → PeerId → Prop
  owners : Table PeerId HostSessionId
  hosts : Table HostSessionId HostState
  discoveries : Table DiscoveryRequestId DiscoveryState
  gameplay : Table GameplaySessionId GameplayState

namespace RoomRouter

/-- The room itself with the codes that lead to it, its members with their full state and their
entries in the address index, its entries in the host index, and the hosts, the discoveries and the
gameplay sessions of the room. -/
noncomputable def view (r : RoomRouter) (room : RoomId) : RoomView where
  room := r.rooms[room]?
  codes := fun code => r.roomsByCode[code]? = some room
  peers := rowsOf PeerState.roomId room r.peers
  addresses := fun ip p => r.virtualIps[ip]? = some p ∧ r.HasPeer room p
  owners := fun p => r.hostByPeer[(room, p)]?
  hosts := rowsOf HostState.roomId room r.hosts
  discoveries := rowsOf DiscoveryState.roomId room r.discoveries
  gameplay := rowsOf GameplayState.roomId room r.gameplay

variable {r r' : RoomRouter} {room : RoomId} {config : RouterConfig} {o : WalkOrder}

theorem ledger_of_eq_of_view (h : r.view room = r'.view room) : r.ledger.of room = r'.ledger.of room := by
  have hroom := congrArg RoomView.room h
  refine Ledger.ext (funext fun id => ?_) (congrArg RoomView.peers h) (congrArg RoomView.hosts h)
    (congrArg RoomView.discoveries h) (congrArg RoomView.gameplay h)
  show (if id = room then (r.rooms[id]?).map RoomState.code else none) =
    if id = room then (r'.rooms[id]?).map RoomState.code else none
  split
  · rename_i e
    subst e
    rw [show r.rooms[id]? = r'.rooms[id]? from hroom]
  · rfl

/-- Well-formed routers look alike from a room when their ledgers do: lists and indexes follow the
ledger. -/
theorem WF.view_eq (h : r.WF) (h' : r'.WF) (he : r.ledger.of room = r'.ledger.of room) :
    r.view room = r'.view room := by
  have hcode : (r.rooms[room]?).map RoomState.code = (r'.rooms[room]?).map RoomState.code := by
    have := congrFun (congrArg Ledger.code he) room
    simpa [Ledger.of, ledger] using this
  have hpeers : rowsOf PeerState.roomId room r.peers = rowsOf PeerState.roomId room r'.peers := congrArg Ledger.peer he
  have hhosts : rowsOf HostState.roomId room r.hosts = rowsOf HostState.roomId room r'.hosts := congrArg Ledger.host he
  have peer_iff : ∀ (p : PeerId) (peer : PeerState), r.peers[p]? = some peer ∧ peer.roomId = room ↔
      r'.peers[p]? = some peer ∧ peer.roomId = room := by
    intro p peer
    rw [← rowsOf_eq_some, hpeers, rowsOf_eq_some]
  have host_iff : ∀ (k : HostSessionId) (host : HostState), r.hosts[k]? = some host ∧ host.roomId = room ↔
      r'.hosts[k]? = some host ∧ host.roomId = room := by
    intro k host
    rw [← rowsOf_eq_some, hhosts, rowsOf_eq_some]
  refine RoomView.ext ?_ ?_ hpeers ?_ ?_ hhosts (congrArg Ledger.discovery he) (congrArg Ledger.gameplay he)
  · show r.rooms[room]? = r'.rooms[room]?
    cases hs : r.rooms[room]? with
    | none =>
      rw [hs] at hcode
      exact (Option.map_eq_none_iff.1 hcode.symm).symm
    | some s =>
      rw [hs] at hcode
      obtain ⟨s', hs', ec⟩ := Option.map_eq_some_iff.1 hcode.symm
      rw [hs']
      have em : s.members = s'.members := by
        refine ExtTreeSet.ext_mem fun p => ?_
        rw [h.members.mem_iff room s hs, h'.members.mem_iff room s' hs']
        exact exists_congr fun peer => peer_iff p peer
      have eh : s.hostSessions = s'.hostSessions := by
        refine ExtTreeSet.ext_mem fun k => ?_
        rw [h.sessions.mem_iff room s hs, h'.sessions.mem_iff room s' hs']
        exact exists_congr fun host => host_iff k host
      cases s
      cases s'
      cases ec
      cases em
      cases eh
      rfl
  · refine funext fun code => propext ?_
    show r.roomsByCode[code]? = some room ↔ r'.roomsByCode[code]? = some room
    rw [h.codes, h'.codes]
    simpa [Option.map_eq_some_iff] using congrArg (· = some code) hcode
  · refine funext fun ip => funext fun p => propext ?_
    show (r.virtualIps[ip]? = some p ∧ _) ↔ (r'.virtualIps[ip]? = some p ∧ _)
    rw [h.addresses, h'.addresses]
    constructor
    · rintro ⟨⟨peer, hp, rfl⟩, peer', hp', hr⟩
      rw [hp] at hp'
      cases hp'
      have := (peer_iff p peer).1 ⟨hp, hr⟩
      exact ⟨⟨peer, this.1, rfl⟩, peer, this⟩
    · rintro ⟨⟨peer, hp, rfl⟩, peer', hp', hr⟩
      rw [hp] at hp'
      cases hp'
      have := (peer_iff p peer).2 ⟨hp, hr⟩
      exact ⟨⟨peer, this.1, rfl⟩, peer, this⟩
  · refine funext fun p => Option.ext fun k => ?_
    show r.hostByPeer[(room, p)]? = some k ↔ r'.hostByPeer[(room, p)]? = some k
    rw [h.owners, h'.owners]
    have row := host_iff k
    constructor
    · rintro ⟨host, hh, ho⟩
      exact ⟨host, ((row host).1 ⟨hh, congrArg Prod.fst ho⟩).1, ho⟩
    · rintro ⟨host, hh, ho⟩
      exact ⟨host, ((row host).2 ⟨hh, congrArg Prod.fst ho⟩).1, ho⟩

end RoomRouter

/-! ## What an operation is addressed to -/

namespace RouterOp

/-- The room an operation names. -/
def room? : RouterOp → Option RoomId
  | createRoomWithId roomId _ => some roomId
  | removeEmptyRoom roomId => some roomId
  | joinRoom roomId _ _ _ => some roomId
  | restorePeer roomId _ _ _ => some roomId
  | leaveRoom roomId _ => some roomId
  | resumePeer roomId _ _ => some roomId
  | registerHost roomId _ _ _ => some roomId
  | heartbeatHostForRoom roomId _ _ _ => some roomId
  | beginDiscovery roomId _ _ _ _ => some roomId
  | selectHost roomId _ _ _ _ => some roomId
  | _ => none

/-- The peer an operation names. -/
def peer? : RouterOp → Option PeerId
  | joinRoom _ peerId _ _ => some peerId
  | restorePeer _ peerId _ _ => some peerId
  | leaveRoom _ peerId => some peerId
  | markPeerSeen peerId _ => some peerId
  | resumePeer _ peerId _ => some peerId
  | registerHost _ peerId _ _ => some peerId
  | heartbeatHostForRoom _ peerId _ _ => some peerId
  | beginDiscovery _ peerId _ _ _ => some peerId
  | selectHost _ peerId _ _ _ => some peerId
  | routeGameplayDatagram _ peerId _ => some peerId
  | dispatch (.discovery peerId _ _ _ _) => some peerId
  | dispatch (.gameplay _ peerId _ _ _) => some peerId
  | _ => none

/-- The host session an operation names. -/
def host? : RouterOp → Option HostSessionId
  | heartbeatHost hostId _ => some hostId
  | heartbeatHostForRoom _ _ hostId _ => some hostId
  | unregisterHost hostId => some hostId
  | selectHost _ _ hostId _ _ => some hostId
  | dispatch (.discoveryResponse hostId _ _ _ _) => some hostId
  | _ => none

/-- The gameplay session an operation names. -/
def session? : RouterOp → Option GameplaySessionId
  | routeGameplayDatagram sessionId _ _ => some sessionId
  | removeGameplaySession sessionId => some sessionId
  | dispatch (.gameplay sessionId _ _ _ _) => some sessionId
  | _ => none

/-- The operation names the room, or a peer, a host session or a gameplay session of it. -/
def AddressedTo (r : RoomRouter) (op : RouterOp) (room : RoomId) : Prop :=
  op.room? = some room ∨ (∃ p, op.peer? = some p ∧ r.HasPeer room p) ∨
    (∃ k host, op.host? = some k ∧ r.hosts[k]? = some host ∧ host.roomId = room) ∨
    ∃ k session, op.session? = some k ∧ r.gameplay[k]? = some session ∧ session.roomId = room

/-- All an operation names is in one room. -/
theorem AddressedTo.eq {r : RoomRouter} {op : RouterOp} {room home : RoomId} (ha : op.AddressedTo r room)
    (hroom : ∀ id, op.room? = some id → id = home)
    (hpeer : ∀ p, op.peer? = some p → ∀ peer : PeerState, r.peers[p]? = some peer → peer.roomId = home)
    (hhost : ∀ k, op.host? = some k → ∀ host : HostState, r.hosts[k]? = some host → host.roomId = home)
    (hsession : ∀ k, op.session? = some k → ∀ session : GameplayState, r.gameplay[k]? = some session →
      session.roomId = home) : room = home := by
  rcases ha with h | ⟨p, h, peer, hp, rfl⟩ | ⟨k, host, h, hh, rfl⟩ | ⟨k, session, h, hs, rfl⟩
  · exact hroom room h
  · exact hpeer p h peer hp
  · exact hhost k h host hh
  · exact hsession k h session hs

end RouterOp

/-! ## Effects stay in their room -/

namespace RoomRouter

variable {r r' : RoomRouter} {room : RoomId} {config : RouterConfig} {o : WalkOrder} {hostId : HostSessionId}

theorem ledger_of_congr (hc : (r'.rooms[room]?).map RoomState.code = (r.rooms[room]?).map RoomState.code)
    (hp : rowsOf PeerState.roomId room r'.peers = rowsOf PeerState.roomId room r.peers)
    (hh : rowsOf HostState.roomId room r'.hosts = rowsOf HostState.roomId room r.hosts)
    (hd : rowsOf DiscoveryState.roomId room r'.discoveries = rowsOf DiscoveryState.roomId room r.discoveries)
    (hg : rowsOf GameplayState.roomId room r'.gameplay = rowsOf GameplayState.roomId room r.gameplay) :
    r'.ledger.of room = r.ledger.of room := by
  refine Ledger.ext (funext fun id => ?_) hp hh hd hg
  show (if id = room then (r'.rooms[id]?).map RoomState.code else none) =
    if id = room then (r.rooms[id]?).map RoomState.code else none
  split
  · rename_i e; rw [e]; exact hc
  · rfl

theorem ledger_of_removeHost {host : HostState} (hh : r.hosts[hostId]? = some host) (hr : host.roomId ≠ room) :
    (r.removeHost hostId).ledger.of room = r.ledger.of room := by
  rw [removeHost_some hh]
  refine ledger_of_congr (code_modify fun _ => rfl) rfl (rowsOf_erase fun w hw => ?_) rfl
    (rowsOf_filter fun k session hs e => ?_)
  · rw [hh] at hw; cases hw; exact hr
  · rw [← e] at hr
    simp [Ne.symm hr]

theorem ledger_of_hosted {peer : PeerState} {p : PeerId} {now : Instant} {fresh : HostSessionId}
    (hfresh : r.hosts[fresh]? = none) (hr : peer.roomId ≠ room) :
    (hosted r p peer now fresh).ledger.of room = r.ledger.of room := by
  refine ledger_of_congr (code_modify fun _ => rfl) rfl (rowsOf_insert (fun w hw => ?_) hr) rfl rfl
  rw [hfresh] at hw
  cases hw

theorem ledger_of_beat {host : HostState} {now : Instant} (hh : r.hosts[hostId]? = some host)
    (hr : host.roomId ≠ room) :
    (r.beat hostId now).ledger.of room = r.ledger.of room := by
  refine ledger_of_congr rfl rfl (rowsOf_modify (fun _ => rfl) fun w hw => ?_) rfl rfl
  rw [hh] at hw; cases hw; exact hr

theorem ledger_of_editPeer {p : PeerId} {peer : PeerState} {f : PeerState → PeerState} (hp : r.peers[p]? = some peer)
    (hf : ∀ peer, (f peer).roomId = peer.roomId) (hr : peer.roomId ≠ room) :
    (ledger { r with peers := r.peers.modify p f }).of room = r.ledger.of room := by
  refine ledger_of_congr rfl (rowsOf_modify hf fun w hw => ?_) rfl rfl rfl
  rw [hp] at hw; cases hw; exact hr

theorem ledger_of_without (o : WalkOrder) (h : r.WF) {p : PeerId} {peer : PeerState} (hp : r.peers[p]? = some peer)
    (hr : peer.roomId ≠ room) : (without o r p peer).ledger.of room = r.ledger.of room := by
  rw [ledger_without o h hp, Ledger.of_dismiss]
  refine (h.homed.of room).dismiss_absent ?_
  cases hq : (r.ledger.of room).peer p with
  | none => rfl
  | some peer' =>
    obtain ⟨hp', he⟩ := keep_eq_some.1 hq
    rw [show r.ledger.peer p = r.peers[p]? from rfl, hp] at hp'
    cases hp'
    exact absurd he hr

/-- An effect other than a sweep changes the ledger of one room at most, and everything the operation
names is in that room. -/
theorem effect_home {op : RouterOp} (h : r.WF) (hf : op.Fresh r) (hne : ∀ now, op ≠ .expire now)
    (he : Effect o r op r') : ∃ home, (∀ room, room ≠ home → r'.ledger.of room = r.ledger.of room) ∧
      ∀ room, op.AddressedTo r room → room = home := by
  induction he with
  | @createRoom roomId code _ _ hroom =>
    refine ⟨roomId, fun room hr => ledger_of_congr ?_ rfl rfl rfl rfl, fun room ha => ha.eq ?_ ?_ ?_ ?_⟩
    · rw [getElem?_insert_ne hr.symm]
    all_goals simp [RouterOp.room?, RouterOp.peer?, RouterOp.host?, RouterOp.session?]
  | @removeRoom roomId s hs _ _ =>
    refine ⟨roomId, fun room hr => ledger_of_congr ?_ rfl rfl rfl rfl, fun room ha => ha.eq ?_ ?_ ?_ ?_⟩
    · rw [getElem?_erase_ne hr.symm]
    all_goals simp [RouterOp.room?, RouterOp.peer?, RouterOp.host?, RouterOp.session?]
  | @join roomId s p ip now hs _ _ hp _ =>
    refine ⟨roomId, fun room hr => ledger_of_congr (code_modify fun _ => rfl) (rowsOf_insert ?_ hr.symm) rfl rfl rfl,
      fun room ha => ha.eq ?_ ?_ ?_ ?_⟩
    · intro w hw; rw [hp] at hw; cases hw
    all_goals simp [RouterOp.room?, RouterOp.peer?, RouterOp.host?, RouterOp.session?, hp]
  | restore _ ih => exact ih trivial (fun now => by simp)
  | @leave p peer hp =>
    refine ⟨peer.roomId, fun room hr => ledger_of_without o h hp hr.symm, fun room ha => ha.eq ?_ ?_ ?_ ?_⟩
    all_goals simp [RouterOp.room?, RouterOp.peer?, RouterOp.host?, RouterOp.session?, hp]
  | @seen p peer now hp _ =>
    refine ⟨peer.roomId, fun room hr => ledger_of_editPeer hp (fun _ => rfl) hr.symm, fun room ha => ha.eq ?_ ?_ ?_ ?_⟩
    all_goals simp [RouterOp.room?, RouterOp.peer?, RouterOp.host?, RouterOp.session?, hp]
  | @resume p peer now hp _ =>
    refine ⟨peer.roomId, fun room hr => ledger_of_editPeer hp (fun w => resumed_roomId w now) hr.symm,
      fun room ha => ha.eq ?_ ?_ ?_ ?_⟩
    all_goals simp [RouterOp.room?, RouterOp.peer?, RouterOp.host?, RouterOp.session?, hp]
  | @host p peer s now fresh hp hs howner _ =>
    refine ⟨peer.roomId, fun room hr => ledger_of_hosted hf hr.symm, fun room ha => ha.eq ?_ ?_ ?_ ?_⟩
    all_goals simp [RouterOp.room?, RouterOp.peer?, RouterOp.host?, RouterOp.session?, hp]
  | @hostAgain k host now fresh hh _ =>
    obtain ⟨peer, hp, hs⟩ := h.hostPeer k host hh
    refine ⟨host.roomId, fun room hr => ledger_of_beat hh hr.symm, fun room ha => ha.eq ?_ ?_ ?_ ?_⟩
    all_goals simp [RouterOp.room?, RouterOp.peer?, RouterOp.host?, RouterOp.session?, hp, hs.1]
  | @rehost k host peer now fresh hh _ hp hroom =>
    refine ⟨host.roomId, fun room hr => ?_, fun room ha => ha.eq ?_ ?_ ?_ ?_⟩
    · have hgone : (r.removeHost k).hosts[fresh]? = none := by
        rw [removeHost_hosts, ExtTreeMap.getElem?_erase]
        split
        · rfl
        · exact hf
      rw [ledger_of_hosted hgone (by rw [hroom]; exact hr.symm), ledger_of_removeHost hh hr.symm]
    all_goals simp [RouterOp.room?, RouterOp.peer?, RouterOp.host?, RouterOp.session?, hp, hroom]
  | @beat k host now hh _ =>
    refine ⟨host.roomId, fun room hr => ledger_of_beat hh hr.symm, fun room ha => ha.eq ?_ ?_ ?_ ?_⟩
    all_goals simp [RouterOp.room?, RouterOp.peer?, RouterOp.host?, RouterOp.session?, hh]
  -- the heartbeat proper names only the host session, which is in the room that is checked
  | @beatForRoom k host now r' hh _ ih =>
    obtain ⟨home, hsame, hhome⟩ := ih trivial (fun now => by simp)
    obtain ⟨peer, hp, hs⟩ := h.hostPeer k host hh
    obtain rfl : host.roomId = home := hhome _ (Or.inr (Or.inr (Or.inl ⟨k, host, rfl, hh, rfl⟩)))
    refine ⟨host.roomId, hsame, fun room ha => ha.eq ?_ ?_ ?_ ?_⟩
    all_goals simp [RouterOp.room?, RouterOp.peer?, RouterOp.host?, RouterOp.session?, hp, hh, hs.1]
  | @unhost k host hh =>
    refine ⟨host.roomId, fun room hr => ledger_of_removeHost hh hr.symm, fun room ha => ha.eq ?_ ?_ ?_ ?_⟩
    all_goals simp [RouterOp.room?, RouterOp.peer?, RouterOp.host?, RouterOp.session?, hh]
  | @discover p peer requestId port now hp hd =>
    refine ⟨peer.roomId, fun room hr => ledger_of_congr rfl rfl rfl (rowsOf_insert ?_ hr.symm) rfl,
      fun room ha => ha.eq ?_ ?_ ?_ ?_⟩
    · intro w hw; rw [hd] at hw; cases hw
    all_goals simp [RouterOp.room?, RouterOp.peer?, RouterOp.host?, RouterOp.session?, hp]
  | @discoverAgain requestId discovery now hd =>
    obtain ⟨peer, hp, hs⟩ := h.discoveryClient requestId discovery hd
    refine ⟨discovery.roomId, fun room hr => ledger_of_congr rfl rfl rfl (rowsOf_modify (fun _ => rfl) ?_) rfl,
      fun room ha => ha.eq ?_ ?_ ?_ ?_⟩
    · intro w hw; rw [hd] at hw; cases hw; exact hr.symm
    all_goals simp [RouterOp.room?, RouterOp.peer?, RouterOp.host?, RouterOp.session?, hp, hs]
  | @select p peer k host now fresh hp hh hroom _ _ =>
    refine ⟨peer.roomId, fun room hr => ledger_of_congr rfl rfl rfl rfl (rowsOf_insert ?_ hr.symm),
      fun room ha => ha.eq ?_ ?_ ?_ ?_⟩
    · intro w hw; rw [show r.gameplay[fresh]? = none from hf] at hw; cases hw
    all_goals simp [RouterOp.room?, RouterOp.peer?, RouterOp.host?, RouterOp.session?, hp, hh, hroom]
  | @play k session p now hs _ hend =>
    obtain ⟨client, hc, hcs⟩ := h.gameplayClient k session hs
    obtain ⟨server, hv, hvs⟩ := h.gameplayHost k session hs
    refine ⟨session.roomId, fun room hr => ledger_of_congr rfl rfl rfl rfl (rowsOf_modify (fun _ => rfl) ?_),
      fun room ha => ha.eq ?_ ?_ ?_ ?_⟩
    · intro w hw; rw [hs] at hw; cases hw; exact hr.symm
    · simp [RouterOp.room?]
    · rintro q hq peer hp
      cases hq
      rcases hend with rfl | rfl
      · rw [hc] at hp; cases hp; exact hcs.1
      · rw [hv] at hp; cases hp; exact hvs.1
    all_goals simp [RouterOp.host?, RouterOp.session?, hs]
  | @endGameplay k session hs =>
    refine ⟨session.roomId, fun room hr => ledger_of_congr rfl rfl rfl rfl (rowsOf_erase ?_),
      fun room ha => ha.eq ?_ ?_ ?_ ?_⟩
    · intro w hw; rw [hs] at hw; cases hw; exact hr.symm
    all_goals simp [RouterOp.room?, RouterOp.peer?, RouterOp.host?, RouterOp.session?, hs]
  | @dispatchDiscovery p peer requestId port payload now r' hp _ ih =>
    obtain ⟨home, hsame, hhome⟩ := ih trivial (fun now => by simp)
    obtain rfl : peer.roomId = home := hhome _ (Or.inl rfl)
    refine ⟨peer.roomId, hsame, fun room ha => ha.eq ?_ ?_ ?_ ?_⟩
    all_goals simp [RouterOp.room?, RouterOp.peer?, RouterOp.host?, RouterOp.session?, hp]
  -- a response changes no row, so any room will do; it names at most that of its host
  | @dispatchResponse k requestId port payload now =>
    refine ⟨(r.hosts[k]?).elim (.ofByte 0) HostState.roomId, fun room _ => rfl, fun room ha => ha.eq ?_ ?_ ?_ ?_⟩
    · simp [RouterOp.room?]
    · simp [RouterOp.peer?]
    · rintro k' hk host hh; cases hk; rw [hh]; rfl
    · simp [RouterOp.session?]
  | @dispatchGameplay k p port payload now r' _ ih =>
    obtain ⟨home, hsame, hhome⟩ := ih trivial (fun now => by simp)
    exact ⟨home, hsame, fun room ha => hhome room (ha.imp (by simp [RouterOp.room?]) id)⟩
  | expire => exact absurd rfl (hne _)

/-- In every reachable state an operation addressed to a room, or to a peer, a host session or a
gameplay session of it, leaves all other rooms as they were; and what a sweep leaves of a room is
determined by that room. -/
theorem rooms_do_not_interfere (h : Reachable config r) :
    (∀ (o : WalkOrder) (op : RouterOp) (room : RoomId), (∀ now, op ≠ .expire now) → op.Fresh r →
      op.AddressedTo r room → ∀ room', room' ≠ room → (op.exec o r).2.view room' = r.view room') ∧
    ∀ (r' : RoomRouter) (o o' : WalkOrder) (now : Instant) (room : RoomId), Reachable config r' →
      r.view room = r'.view room → (expire o r now).2.view room = (expire o' r' now).2.view room := by
  refine ⟨fun o op room hne hf ha room' hr => ?_, fun r' o o' now room h' hv => ?_⟩
  · have hwf := h.wf.exec o hf
    obtain ⟨e, he⟩ | ⟨s, he, heff⟩ := exec_does o h.wf op
    · rw [he]; rfl
    · rw [he] at hwf ⊢
      obtain ⟨home, hsame, hhome⟩ := effect_home h.wf hf hne heff
      obtain rfl := hhome room ha
      exact WF.view_eq hwf h.wf (hsame room' hr)
  · refine WF.view_eq (h.wf.expire o now) (h'.wf.expire o' now) ?_
    -- a sweep drops rows one by one, and so what it leaves of a room is a sweep of that room
    rw [ledger_expire o h.wf now, ledger_expire o' h'.wf now, h.wf.homed.of_expire, h'.wf.homed.of_expire,
      h.config_eq, h'.config_eq, ledger_of_eq_of_view hv]

namespace Example

/-- The peer of the first room leaves. -/
def departed : RoomRouter := ((RouterOp.leaveRoom Example.room peer).exec .sorted visited).2

theorem departed_reachable : Reachable {} departed :=
  .step visited_reachable ⟨_, .leaveRoom Example.room peer, trivial, rfl⟩

end Example

open Example in
/-- The leave spares the other room, where two peers play, and so a sweep does there what it would have done. -/
theorem leaving_spares_other_room : departed.gameplay[visit]?.map GameplayState.roomId = some other ∧
    departed.view other = visited.view other ∧
    ∀ now, (expire .sorted departed now).2.view other = (expire .sorted visited now).2.view other := by
  have hleave : departed.view other = visited.view other :=
    (rooms_do_not_interfere visited_reachable).1 .sorted (.leaveRoom Example.room peer) Example.room (fun _ => by simp)
      trivial (Or.inl rfl) other (by decide)
  exact ⟨by decide +kernel, hleave, fun now => (rooms_do_not_interfere departed_reachable).2 visited .sorted .sorted now
    other visited_reachable hleave⟩

end RoomRouter

end Civ6LanBridge

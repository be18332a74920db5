/-
What leaving a room erases: the entries that mention the leaver, its address or one of its host sessions, in
whichever table they stand, and no others. So joining and leaving again restores the router.
-/
import Civ6LanBridge.Router.Change
import Civ6LanBridge.Router.Runs

namespace Civ6LanBridge

open Std FinMap

namespace RoomRouter

/-! ## Entries -/

/-- An entry of one of the router's tables. -/
inductive Entry
  | room (roomId : RoomId) (code : RoomCode)
  | roomByCode (code : RoomCode) (roomId : RoomId)
  | member (roomId : RoomId) (peerId : PeerId)
  | hostSession (roomId : RoomId) (hostId : HostSessionId)
  | peer (peerId : PeerId) (state : PeerState)
  | virtualIp (virtualIp : VirtualIp) (peerId : PeerId)
  | host (hostId : HostSessionId) (state : HostState)
  | hostByPeer (owner : RoomId × PeerId) (hostId : HostSessionId)
  | discovery (requestId : DiscoveryRequestId) (state : DiscoveryState)
  | gameplay (sessionId : GameplaySessionId) (state : GameplayState)

/-- The entry is in its table. -/
def Holds (r : RoomRouter) : Entry → Prop
  | .room roomId code => ∃ room, r.rooms[roomId]? = some room ∧ room.code = code
  | .roomByCode code roomId => r.roomsByCode[code]? = some roomId
  | .member roomId peerId => ∃ room, r.rooms[roomId]? = some room ∧ peerId ∈ room.members
  | .hostSession roomId hostId => ∃ room, r.rooms[roomId]? = some room ∧ hostId ∈ room.hostSessions
  | .peer peerId state => r.peers[peerId]? = some state
  | .virtualIp ip peerId => r.virtualIps[ip]? = some peerId
  | .host hostId state => r.hosts[hostId]? = some state
  | .hostByPeer owner hostId => r.hostByPeer[owner]? = some hostId
  | .discovery requestId state => r.discoveries[requestId]? = some state
  | .gameplay sessionId state => r.gameplay[sessionId]? = some state

/-- What a peer goes by: its id, its address and its host sessions. -/
structure Names where
  peerId : PeerId
  virtualIp : VirtualIp
  hosts : HostSessionId → Prop

def names (r : RoomRouter) (peerId : PeerId) (peer : PeerState) : Names where
  peerId := peerId
  virtualIp := peer.virtualIp
  hosts := fun hostId => ∃ host, r.hosts[hostId]? = some host ∧ host.peerId = peerId

/-- The entry mentions the peer by one of its names. -/
def Entry.Mentions (n : Names) : Entry → Prop
  | .room _ _ => False
  | .roomByCode _ _ => False
  | .member _ peerId => peerId = n.peerId
  | .hostSession _ hostId => n.hosts hostId
  | .peer peerId state => peerId = n.peerId ∨ state.virtualIp = n.virtualIp
  | .virtualIp ip peerId => ip = n.virtualIp ∨ peerId = n.peerId
  | .host hostId state => n.hosts hostId ∨ state.peerId = n.peerId ∨ state.virtualIp = n.virtualIp
  | .hostByPeer owner hostId => owner.2 = n.peerId ∨ n.hosts hostId
  | .discovery _ state => state.clientPeerId = n.peerId
  | .gameplay _ state => (state.clientPeerId = n.peerId ∨ state.clientVirtualIp = n.virtualIp) ∨
      state.hostPeerId = n.peerId ∨ state.hostVirtualIp = n.virtualIp

variable {r : RoomRouter} {o : WalkOrder} {roomId : RoomId} {p q : PeerId} {peer other : PeerState}

/-! ## The tables that are derived from others -/

theorem holds_room {code : RoomCode} :
    r.Holds (.room roomId code) ↔ (r.rooms[roomId]?).map RoomState.code = some code :=
  Option.map_eq_some_iff.symm

theorem WF.holds_roomByCode (h : r.WF) {code : RoomCode} :
    r.Holds (.roomByCode code roomId) ↔ r.Holds (.room roomId code) :=
  h.codes code roomId

theorem WF.holds_member (h : r.WF) :
    r.Holds (.member roomId q) ↔ ∃ other, r.peers[q]? = some other ∧ other.roomId = roomId := by
  constructor
  · rintro ⟨room, hr, hm⟩
    exact (h.member_iff hr).1 hm
  · rintro ⟨other, hq, rfl⟩
    rcases h.members.home q other hq with ⟨room, hr⟩
    exact ⟨room, hr, (h.member_iff hr).2 ⟨other, hq, rfl⟩⟩

theorem WF.holds_hostSession (h : r.WF) {hostId : HostSessionId} :
    r.Holds (.hostSession roomId hostId) ↔ ∃ host, r.hosts[hostId]? = some host ∧ host.roomId = roomId := by
  constructor
  · rintro ⟨room, hr, hk⟩
    exact (h.sessions.mem_iff _ room hr hostId).1 hk
  · rintro ⟨host, hk, rfl⟩
    rcases h.sessions.home hostId host hk with ⟨room, hr⟩
    exact ⟨room, hr, (h.sessions.mem_iff _ room hr hostId).2 ⟨host, hk, rfl⟩⟩

/-- Whoever sits at the address of a peer is that peer. -/
theorem WF.sits_iff (h : r.WF) (hp : r.peers[p]? = some peer) {room : RoomId} {ip : VirtualIp}
    (hq : r.peers[q]? = some other ∧ other.Sits room ip) : ip = peer.virtualIp ↔ q = p := by
  rcases hq with ⟨hq, -, rfl⟩
  constructor
  · exact fun e => h.addresses.unique hq hp e
  · rintro rfl
    rw [hp] at hq
    cases hq
    rfl

/-! ## Leaving -/

theorem without_holds (o : WalkOrder) (h : r.WF) (hp : r.peers[p]? = some peer) (e : Entry) :
    (without o r p peer).Holds e ↔ r.Holds e ∧ ¬ e.Mentions (r.names p peer) := by
  have h' := h.without o hp
  have hroom : ∀ roomId code, (without o r p peer).Holds (.room roomId code) ↔ r.Holds (.room roomId code) := by
    intro roomId code
    rw [holds_room, holds_room]
    have hcode := congrFun (code_without (o := o) h hp) roomId
    exact iff_of_eq (congrArg (· = some code) hcode)
  have hpeer : ∀ q other, (without o r p peer).peers[q]? = some other ↔ r.peers[q]? = some other ∧ q ≠ p := by
    intro q other
    rw [without_peers]
    by_cases e : q = p
    · subst e; simp
    · rw [getElem?_erase_ne (Ne.symm e)]
      simp [e]
  have hmine : ∀ {k : HostSessionId} {host : HostState}, r.hosts[k]? = some host →
      ((r.names p peer).hosts k ↔ host.peerId = p) := by
    intro k host hk
    simp [names, hk]
  cases e with
  | room roomId code => simpa [Entry.Mentions] using hroom roomId code
  | roomByCode code roomId =>
    rw [h'.holds_roomByCode, h.holds_roomByCode]
    simpa [Entry.Mentions] using hroom roomId code
  | member roomId q =>
    rw [h'.holds_member, h.holds_member]
    simp only [hpeer, Entry.Mentions]
    constructor
    · rintro ⟨other, ⟨hq, hne⟩, hr⟩
      exact ⟨⟨other, hq, hr⟩, hne⟩
    · rintro ⟨⟨other, hq, hr⟩, hne⟩
      exact ⟨other, ⟨hq, hne⟩, hr⟩
  | hostSession roomId k =>
    rw [h'.holds_hostSession, h.holds_hostSession]
    simp only [without_hosts h hp, Entry.Mentions]
    constructor
    · rintro ⟨host, ⟨hk, hne⟩, hr⟩
      exact ⟨⟨host, hk, hr⟩, fun hm => hne ((hmine hk).1 hm)⟩
    · rintro ⟨⟨host, hk, hr⟩, hne⟩
      exact ⟨host, ⟨hk, fun hm => hne ((hmine hk).2 hm)⟩, hr⟩
  | peer q other =>
    refine (hpeer q other).trans (and_congr_right fun hq => not_congr ?_)
    have hsits := h.sits_iff hp ⟨hq, rfl, rfl⟩
    show q = p ↔ q = p ∨ other.virtualIp = peer.virtualIp
    rw [hsits, or_self]
  | virtualIp ip q =>
    show (without o r p peer).virtualIps[ip]? = some q ↔ r.virtualIps[ip]? = some q ∧ ¬ (ip = peer.virtualIp ∨ q = p)
    rw [h'.addresses ip q, h.addresses ip q]
    simp only [hpeer]
    constructor
    · rintro ⟨other, ⟨hq, hne⟩, rfl⟩
      have hsits := h.sits_iff hp ⟨hq, rfl, rfl⟩
      exact ⟨⟨other, hq, rfl⟩, by rw [hsits, or_self]; exact hne⟩
    · rintro ⟨⟨other, hq, rfl⟩, hne⟩
      exact ⟨other, ⟨hq, fun e => hne (.inr e)⟩, rfl⟩
  | host k host =>
    refine (without_hosts h hp).trans (and_congr_right fun hk => not_congr ?_)
    rcases h.hostPeer k host hk with ⟨other, hq⟩
    have hsits := h.sits_iff hp hq
    show host.peerId = p ↔ (r.names p peer).hosts k ∨ host.peerId = p ∨ host.virtualIp = peer.virtualIp
    rw [hsits, hmine hk, or_self, or_self]
  | hostByPeer owner k =>
    show (without o r p peer).hostByPeer[owner]? = some k ↔
      r.hostByPeer[owner]? = some k ∧ ¬ (owner.2 = p ∨ (r.names p peer).hosts k)
    rw [h'.owners owner k, h.owners owner k]
    simp only [without_hosts h hp]
    constructor
    · rintro ⟨host, ⟨hk, hne⟩, rfl⟩
      refine ⟨⟨host, hk, rfl⟩, ?_⟩
      rw [hmine hk]
      exact fun hm => hne ((or_self_iff).1 hm)
    · rintro ⟨⟨host, hk, rfl⟩, hne⟩
      exact ⟨host, ⟨hk, fun e => hne (.inl e)⟩, rfl⟩
  | discovery k discovery => exact without_discoveries h hp
  | gameplay k session =>
    refine (without_gameplay h hp).trans (and_congr_right fun hk => ?_)
    rcases h.gameplayClient k session hk with ⟨client, hc⟩
    rcases h.gameplayHost k session hk with ⟨server, hs⟩
    have hclient := h.sits_iff hp hc
    have hserver := h.sits_iff hp hs
    show _ ↔ ¬ ((session.clientPeerId = p ∨ session.clientVirtualIp = peer.virtualIp) ∨
      session.hostPeerId = p ∨ session.hostVirtualIp = peer.virtualIp)
    rw [hclient, hserver, or_self, or_self, not_or]

/-! ## Leaving erases exactly the leaver -/

/-- After a peer has left, the entries are those that did not mention it. If it leaves right after it has joined,
the router is the one it joined. -/
theorem leaving_erases_leaver {config : RouterConfig} (h : Reachable config r) (o : WalkOrder) (roomId : RoomId)
    (p : PeerId) :
    ((leaveRoom o r roomId p).1 = .ok () → ∃ peer, r.peers[p]? = some peer ∧ peer.roomId = roomId ∧
      ∀ e, (leaveRoom o r roomId p).2.Holds e ↔ r.Holds e ∧ ¬ e.Mentions (r.names p peer)) ∧
    ∀ ip now, (r.joinRoom roomId p ip now).1 = .ok () →
      leaveRoom o (r.joinRoom roomId p ip now).2 roomId p = .ok () r := by
  constructor
  · intro hok
    rcases leaveRoom_cases o h.wf roomId p with ⟨e, he⟩ | ⟨peer, hp, hr, he⟩
    · rw [he] at hok
      cases hok
    · refine ⟨peer, hp, hr, fun e => ?_⟩
      rw [he]
      exact without_holds o h.wf hp e
  · intro ip now hok
    rcases joinRoom_cases r roomId p ip now with ⟨e, he⟩ | ⟨⟨room, hr⟩, hp, hip, he⟩
    · rw [he] at hok
      cases hok
    · rw [he]
      exact leaveRoom_joined o h.wf hr hp hip

/-- The one member of a room is not listed any more after it has left. -/
theorem host_unlisted : ¬ (leaveRoom .sorted Example.hosting Example.room Example.peer).2.Holds
    (.member Example.room Example.peer) := by
  intro hlisted
  rcases (leaving_erases_leaver Example.hosting_reachable .sorted Example.room Example.peer).1 (by decide +kernel) with
    ⟨peer, -, -, hall⟩
  exact ((hall _).1 hlisted).2 rfl

end RoomRouter

end Civ6LanBridge

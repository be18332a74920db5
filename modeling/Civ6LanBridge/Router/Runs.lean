/-
What holds in every state the router can reach: its tables agree, and an operation that fails leaves
all of them as they were.
-/
import Civ6LanBridge.Router.Effect

namespace Civ6LanBridge

open Std FinMap Bytes

namespace RoomRouter

variable {config : RouterConfig} {r : RoomRouter}

/-- The peer is registered, in the room. -/
def HasPeer (r : RoomRouter) (roomId : RoomId) (peerId : PeerId) : Prop :=
  ∃ peer, r.peers[peerId]? = some peer ∧ peer.roomId = roomId

/-- A table that groups its rows lists them exactly. -/
theorem listed_iff {S K V : Type} [Ord K] [TransOrd K] [LawfulEqOrd K] {groups : ExtTreeMap RoomId S}
    {list : S → ExtTreeSet K} {m : ExtTreeMap K V} {g : V → RoomId} (h : IsGrouping groups list m g)
    (id : RoomId) (k : K) :
    (∃ s, groups[id]? = some s ∧ k ∈ list s) ↔ ∃ v, m[k]? = some v ∧ g v = id := by
  constructor
  · rintro ⟨s, hs, hk⟩; exact (h.mem_iff id s hs k).1 hk
  · rintro ⟨v, hv, rfl⟩
    obtain ⟨s, hs⟩ := h.home k v hv
    exact ⟨s, hs, (h.mem_iff _ s hs k).2 ⟨v, hv, rfl⟩⟩

/-- In every reachable state rooms and codes are mutually inverse, rooms list exactly their peers and
their hosts, no two peers share an address, hosts are found under their room and peer, and whoever a
host, a discovery or a gameplay session names is a member of its room. -/
theorem reachable_tables_agree (h : Reachable config r) :
    (∀ (code : RoomCode) (id : RoomId), r.roomsByCode[code]? = some id ↔
      ∃ room : RoomState, r.rooms[id]? = some room ∧ room.code = code) ∧
    (∀ (id : RoomId) (p : PeerId), (∃ room : RoomState, r.rooms[id]? = some room ∧ p ∈ room.members) ↔
      r.HasPeer id p) ∧
    (∀ (ip : VirtualIp) (p : PeerId), r.virtualIps[ip]? = some p ↔
      ∃ peer : PeerState, r.peers[p]? = some peer ∧ peer.virtualIp = ip) ∧
    (∀ (p p' : PeerId) (peer peer' : PeerState), r.peers[p]? = some peer → r.peers[p']? = some peer' →
      peer.virtualIp = peer'.virtualIp → p = p') ∧
    (∀ (id : RoomId) (k : HostSessionId),
      (∃ room : RoomState, r.rooms[id]? = some room ∧ k ∈ room.hostSessions) ↔
        ∃ host : HostState, r.hosts[k]? = some host ∧ host.roomId = id) ∧
    (∀ (id : RoomId) (p : PeerId) (k : HostSessionId), r.hostByPeer[(id, p)]? = some k ↔
      ∃ host : HostState, r.hosts[k]? = some host ∧ host.roomId = id ∧ host.peerId = p) ∧
    (∀ (k : HostSessionId) (host : HostState), r.hosts[k]? = some host → r.HasPeer host.roomId host.peerId) ∧
    (∀ (k : DiscoveryRequestId) (discovery : DiscoveryState), r.discoveries[k]? = some discovery →
      r.HasPeer discovery.roomId discovery.clientPeerId) ∧
    (∀ (k : GameplaySessionId) (session : GameplayState), r.gameplay[k]? = some session →
      r.HasPeer session.roomId session.clientPeerId ∧ r.HasPeer session.roomId session.hostPeerId) := by
  have hw := h.wf
  refine ⟨hw.codes, listed_iff hw.members, hw.addresses, ?_, listed_iff hw.sessions, ?_, ?_, ?_, ?_⟩
  · intro p p' peer peer' hp hp' e
    exact hw.addresses.unique hp hp' e
  · intro id p k
    simpa [HostState.owner] using hw.owners (id, p) k
  · intro k host hk
    obtain ⟨peer, hp, hs⟩ := hw.hostPeer k host hk
    exact ⟨peer, hp, hs.1⟩
  · exact hw.discoveryClient
  · intro k session hk
    obtain ⟨client, hc, hcs⟩ := hw.gameplayClient k session hk
    obtain ⟨host, hh, hhs⟩ := hw.gameplayHost k session hk
    exact ⟨⟨client, hc, hcs.1⟩, host, hh, hhs.1⟩

/-! ## Runs to instantiate the results at -/

namespace Example

def code : RoomCode := ⟨"RMAAAA", by decide +kernel, by simp [RoomCode.alphabet]⟩
def room : RoomId := .ofByte 1
def peer : PeerId := .ofByte 2
def host : HostSessionId := .ofByte 3
def ip : VirtualIp := ⟨⟨10, 240, 0, 2⟩⟩

/-- A room with one peer. -/
def joined : RoomRouter := (RouterOp.exec .sorted (RouterOp.exec .sorted (new {}) (.createRoomWithId room code)).2
  (.joinRoom room peer ip 0)).2

/-- The peer hosts. -/
def hosting : RoomRouter := (RouterOp.exec .sorted joined (.registerHost room peer 0 host)).2

theorem joined_reachable : Reachable {} joined :=
  .step (.step (.init rfl) ⟨_, .createRoomWithId room code, trivial, rfl⟩) ⟨_, .joinRoom room peer ip 0, trivial, rfl⟩

theorem hosting_reachable : Reachable {} hosting :=
  .step joined_reachable ⟨_, .registerHost room peer 0 host, show joined.hosts[host]? = none by decide +kernel, rfl⟩

def otherCode : RoomCode := ⟨"RMBBBB", by decide +kernel, by simp [RoomCode.alphabet]⟩
def other : RoomId := .ofByte 4

/-- A second room besides the one with a host. -/
def twoRooms : RoomRouter := (RouterOp.exec .sorted hosting (.createRoomWithId other otherCode)).2

theorem twoRooms_reachable : Reachable {} twoRooms :=
  .step hosting_reachable ⟨_, .createRoomWithId other otherCode, trivial, rfl⟩

def neighbour : PeerId := .ofByte 11
def visitor : PeerId := .ofByte 12
def neighbourIp : VirtualIp := ⟨⟨10, 240, 0, 3⟩⟩
def visitorIp : VirtualIp := ⟨⟨10, 240, 0, 4⟩⟩
def neighbourHost : HostSessionId := .ofByte 13
def visit : GameplaySessionId := .ofByte 14

/-- Two peers have joined the second room, and one of them hosts. -/
def settled : RoomRouter :=
  (RouterOp.exec .sorted
    (RouterOp.exec .sorted
      (RouterOp.exec .sorted twoRooms (.joinRoom other neighbour neighbourIp 0)).2
      (.joinRoom other visitor visitorIp 0)).2
    (.registerHost other neighbour 0 neighbourHost)).2

/-- The other one plays with it. -/
def visited : RoomRouter := (RouterOp.exec .sorted settled (.selectHost other visitor neighbourHost 0 visit)).2

theorem settled_reachable : Reachable {} settled :=
  .step (.step (.step twoRooms_reachable ⟨_, .joinRoom other neighbour neighbourIp 0, trivial, rfl⟩)
    ⟨_, .joinRoom other visitor visitorIp 0, trivial, rfl⟩)
    ⟨_, .registerHost other neighbour 0 neighbourHost, show _ = none by decide +kernel, rfl⟩

theorem visited_reachable : Reachable {} visited :=
  .step settled_reachable ⟨_, .selectHost other visitor neighbourHost 0 visit, show settled.gameplay[visit]? = none by
    decide +kernel, rfl⟩

end Example

theorem hosting_tables_agree : Example.hosting.HasPeer Example.room Example.peer ∧
    ∃ host : HostState, Example.hosting.hosts[Example.host]? = some host ∧ host.peerId = Example.peer := by
  obtain ⟨-, hmembers, -, -, -, howner, -⟩ := reachable_tables_agree Example.hosting_reachable
  refine ⟨?_, ?_⟩
  · exact ⟨_, rfl, rfl⟩
  · obtain ⟨host, hh, -, hp⟩ := (howner Example.room Example.peer Example.host).1 (by decide +kernel)
    exact ⟨host, hh, hp⟩

/-- In every reachable state an operation that fails leaves the router exactly as it was, and none
panics; a peer that has a host session never meets the host limit when it registers again. -/
theorem failed_op_changes_nothing (h : Reachable config r) :
    (∀ (o : WalkOrder) (op : RouterOp) (f : Fault RouterError) (r' : RoomRouter),
      op.exec o r = (.error f, r') → r' = r ∧ f ≠ .panic) ∧
    ∀ (roomId : RoomId) (peerId : PeerId) (hostId : HostSessionId), r.hostByPeer[(roomId, peerId)]? = some hostId →
      ∀ now fresh room, (r.registerHost roomId peerId now fresh).1 ≠ .error (.error (.hostLimitReached room)) := by
  refine ⟨fun o op f r' he => ?_, fun roomId peerId hostId hb now fresh room he => ?_⟩
  · obtain ⟨e, herr⟩ | ⟨r'', hok, -⟩ := exec_does o h.wf op
    · rw [he] at herr
      cases herr
      exact ⟨rfl, by simp⟩
    · rw [he] at hok; cases hok
  · obtain ⟨host, peer, -, -, -, -, -, ⟨-, hr⟩ | ⟨-, hr⟩⟩ := registerHost_owned h.wf hb now fresh
    · rw [hr] at he; cases he
    · rw [hr] at he; cases he

/-- The room cannot be removed while the peer is in it, and stays. -/
theorem hosting_not_removed : ((RouterOp.removeEmptyRoom Example.room).exec .sorted Example.hosting).2 =
    Example.hosting := by
  have hfail : ((RouterOp.removeEmptyRoom Example.room).exec .sorted Example.hosting).1 =
      .error (.error (.roomNotEmpty Example.room)) := by decide +kernel
  exact ((failed_op_changes_nothing Example.hosting_reachable).1 .sorted _ _ _ (Prod.ext hfail rfl)).1

end RoomRouter

end Civ6LanBridge

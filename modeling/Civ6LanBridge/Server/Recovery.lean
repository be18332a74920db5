/-
What a start recovers: the rooms and peers that the database has, a tunnel for each peer, and no session. Whatever a
server left behind, the next one opens on it.
-/
import Civ6LanBridge.Server.SessionRooms
import Civ6LanBridge.Server.Startup

namespace Civ6LanBridge

open Std FinMap Bytes RoomRouter

/-! ## Rooms -/

/-- The router has the rooms in addition, and nothing else has changed. -/
structure RoomsRestored (rooms : List PersistedRoom) (r r' : RoomRouter) : Prop where
  wf : r'.WF
  others : r' = { r with rooms := r'.rooms, roomsByCode := r'.roomsByCode }
  code : ∀ (x : RoomId) (roomCode : RoomCode), r'.ledger.code x = some roomCode ↔
    r.ledger.code x = some roomCode ∨ ∃ room ∈ rooms, room.roomId = x ∧ room.roomCode = roomCode

theorem createRoomWithId_cases (r : RoomRouter) (x : RoomId) (roomCode : RoomCode) :
    (∃ e, r.createRoomWithId x roomCode = .err e r) ∨ r.rooms[x]? = none ∧ r.roomsByCode[roomCode]? = none ∧
      r.createRoomWithId x roomCode = .ok () (r.founded x roomCode) := by
  rcases createRoomWithId_does (o := .sorted) (r := r) x roomCode with ⟨e, he⟩ | ⟨r', he, heff⟩
  · exact Or.inl ⟨e, he⟩
  · cases heff with
    | createRoom _ hcode hroom => exact Or.inr ⟨hroom, hcode, he⟩

theorem restoreRooms_does : ∀ {rooms : List PersistedRoom} {r r' : RoomRouter}, r.WF →
    restoreRooms r rooms = .ok () r' → RoomsRestored rooms r r'
  | [], r, r', hw, h => by
    cases h
    exact ⟨hw, rfl, by simp⟩
  | room :: rooms, r, r', hw, h => by
    unfold restoreRooms at h
    rcases createRoomWithId_cases r room.roomId room.roomCode with ⟨e, he⟩ | ⟨hroom, hcode, he⟩
    · rw [he] at h
      cases h
    rw [he] at h
    have hrest : RoomsRestored rooms (r.founded room.roomId room.roomCode) r' :=
      restoreRooms_does (hw.addRoom hroom hcode) h
    refine ⟨hrest.wf, ?_, fun x roomCode => ?_⟩
    · have hothers := hrest.others
      rw [hothers]
      rfl
    rw [hrest.code, founded_code]
    -- the room that is restored first was not there
    have hnone : r.ledger.code room.roomId = none := by
      show (r.rooms[room.roomId]?).map RoomState.code = none
      rw [hroom]
      rfl
    by_cases e : x = room.roomId
    · subst e
      simp [hnone]
    · rw [if_neg e]
      simp [Ne.symm e]

/-! ## Peers -/

/-- A peer as it is restored. -/
def PersistedPeer.restored (peer : PersistedPeer) (now : Instant) : PeerState :=
  { roomId := peer.roomId, virtualIp := peer.virtualIp, lastSeen := now, disconnectedAt := none, connectionEpoch := 1 }

/-- The server has the peers and their keys in addition, and nothing else has changed. -/
structure PeersRestored (clock : PeerId → Instant) (peers : List PersistedPeer) (s s' : AppState) : Prop where
  wf : s'.router.WF
  code : s'.router.ledger.code = s.router.ledger.code
  others : s' = { s with router := s'.router, peerKeys := s'.peerKeys }
  sessions : s'.router.hosts = s.router.hosts ∧ s'.router.discoveries = s.router.discoveries ∧
    s'.router.gameplay = s.router.gameplay
  peer : ∀ (p : PeerId) (peer : PeerState), s'.router.peers[p]? = some peer ↔
    s.router.peers[p]? = some peer ∨ ∃ q ∈ peers, q.peerId = p ∧ peer = q.restored (clock p)
  key : ∀ (p : PeerId) (k : String), s'.peerKeys[p]? = some k ↔
    s.peerKeys[p]? = some k ∨ ∃ q ∈ peers, q.peerId = p ∧ q.wireguardPublicKey = k

/-- Each key belongs to a peer of the router. -/
def AppState.Keyed (s : AppState) : Prop := ∀ p : PeerId, s.router.peers[p]? = none → s.peerKeys[p]? = none

theorem getElem?_insert_new {K V : Type} [Ord K] [TransOrd K] [LawfulEqOrd K] {m : ExtTreeMap K V} {k : K}
    (hk : m[k]? = none)
    (v : V) (k' : K) (v' : V) : (m.insert k v)[k']? = some v' ↔ m[k']? = some v' ∨ k = k' ∧ v = v' := by
  by_cases e : k = k'
  · subst e
    rw [ExtTreeMap.getElem?_insert_self, hk]
    simp
  · rw [getElem?_insert_ne e]
    simp [e]

theorem restorePeers_does {clock : PeerId → Instant} : ∀ {peers : List PersistedPeer} {s s' : AppState}, s.router.WF →
    s.Keyed → restorePeers clock s peers = (.ok (), s') → PeersRestored clock peers s s'
  | [], s, s', hw, _, h => by
    cases h
    exact ⟨hw, rfl, rfl, ⟨rfl, rfl, rfl⟩, by simp, by simp⟩
  | peer :: peers, s, s', hw, hkeyed, h => by
    unfold restorePeers at h
    rcases joinRoom_cases s.router peer.roomId peer.peerId peer.virtualIp (clock peer.peerId) with
      ⟨e, he⟩ | ⟨⟨room, hroom⟩, hp, hip, he⟩
    · rw [restorePeer, he] at h
      cases h
    rw [restorePeer, he] at h
    have hkeyed' : AppState.Keyed { s with
        router := s.router.joined peer.roomId peer.peerId peer.virtualIp (clock peer.peerId)
        peerKeys := s.peerKeys.insert peer.peerId peer.wireguardPublicKey } := by
      intro q hq
      change (s.router.peers.insert peer.peerId _)[q]? = none at hq
      have hne : peer.peerId ≠ q := by
        rintro rfl
        rw [ExtTreeMap.getElem?_insert_self] at hq
        cases hq
      rw [getElem?_insert_ne hne] at hq
      exact (getElem?_insert_ne hne).trans (hkeyed q hq)
    have hrest := restorePeers_does (s := { s with
      router := s.router.joined peer.roomId peer.peerId peer.virtualIp (clock peer.peerId)
      peerKeys := s.peerKeys.insert peer.peerId peer.wireguardPublicKey }) (hw.joined hroom hp hip) hkeyed' h
    refine ⟨hrest.wf, hrest.code.trans code_joined, ?_, hrest.sessions, fun p st => ?_, fun p k => ?_⟩
    · have hothers := hrest.others
      rw [hothers]
    · rw [hrest.peer]
      show (s.router.peers.insert peer.peerId (peer.restored (clock peer.peerId)))[p]? = some st ∨ _ ↔ _
      rw [getElem?_insert_new hp, or_assoc]
      refine or_congr Iff.rfl ?_
      rw [List.exists_mem_cons_iff]
      refine or_congr (and_congr_right fun e => ?_) Iff.rfl
      subst e
      exact eq_comm
    · rw [hrest.key]
      show (s.peerKeys.insert peer.peerId peer.wireguardPublicKey)[p]? = some k ∨ _ ↔ _
      rw [getElem?_insert_new (hkeyed _ hp), or_assoc, List.exists_mem_cons_iff]

/-! ## Rows -/

/-- A traversal that succeeds has succeeded everywhere. -/
theorem forall₂_of_mapM {α β ε : Type} {f : α → Except ε β} : ∀ {l : List α} {bs : List β}, l.mapM f = .ok bs →
    List.Forall₂ (fun a b => f a = .ok b) l bs
  | [], bs, h => by
    cases h
    exact .nil
  | a :: l, bs, h => by
    rw [List.mapM_cons] at h
    cases ha : f a with
    | error e =>
      rw [ha] at h
      cases h
    | ok b =>
      rw [ha] at h
      cases hl : l.mapM f with
      | error e =>
        rw [hl] at h
        cases h
      | ok bs' =>
        rw [hl] at h
        cases h
        exact .cons ha (forall₂_of_mapM hl)

namespace Database

variable {inetText : VirtualIp → String} {o : WalkOrder} {db : Database} {now : Timestamp} {persisted : PersistedState}

/-- The row is of a room that has not expired, under the code. -/
def ShowsRoom (db : Database) (now : Timestamp) (x : RoomId) (roomCode : RoomCode) : Prop :=
  ∃ row : RoomRow, db.rooms[x]? = some row ∧ row.expiresAt.all (now < ·) = true ∧
    RoomCode.parse row.roomCode = .ok roomCode

/-- The row is of a peer that has not left, at the address that its text is read as. -/
def ShowsPeer (db : Database) (inetText : VirtualIp → String) (q : PersistedPeer) : Prop :=
  ∃ row : PeerRow, db.peers[q.peerId]? = some row ∧ row.leftAt = none ∧ row.roomId = q.roomId ∧
    Ipv4Addr.parse (inetText row.virtualIp) = some q.virtualIp.address ∧ row.wireguardPublicKey = q.wireguardPublicKey

theorem loadState_ok (h : db.loadState inetText o now = .ok persisted) :
    (∀ x roomCode, (∃ room ∈ persisted.rooms, room.roomId = x ∧ room.roomCode = roomCode) ↔
      db.ShowsRoom now x roomCode) ∧ ∀ q, q ∈ persisted.peers ↔ db.ShowsPeer inetText q := by
  unfold loadState at h
  split at h
  · cases h
  rename_i rooms hrooms
  split at h
  · cases h
  rename_i peers hpeers
  cases h
  rcases mem_of_forall₂ (forall₂_of_mapM hrooms) with ⟨hrow, hroom⟩
  rcases mem_of_forall₂ (forall₂_of_mapM hpeers) with ⟨hrow', hpeer⟩
  refine ⟨fun x roomCode => ⟨?_, ?_⟩, fun q => ⟨fun hq => ?_, ?_⟩⟩
  · rintro ⟨room, hm, rfl, rfl⟩
    rcases hroom room hm with ⟨row, hsel, hload⟩
    rcases mem_select.1 hsel with ⟨hget, hexp⟩
    unfold loadRoom at hload
    split at hload
    · cases hload
    · rename_i code hparse
      cases hload
      exact ⟨row.2, hget, hexp, hparse⟩
  · rintro ⟨row, hget, hexp, hparse⟩
    rcases hrow (x, row) (mem_select.2 ⟨hget, hexp⟩) with ⟨room, hm, hload⟩
    unfold loadRoom at hload
    rw [hparse] at hload
    cases hload
    exact ⟨_, hm, rfl, rfl⟩
  · rcases hpeer q hq with ⟨row, hsel, hload⟩
    rcases mem_select.1 hsel with ⟨hget, hleft⟩
    unfold loadPeer at hload
    split at hload
    · cases hload
    · rename_i address hparse
      cases hload
      exact ⟨row.2, hget, Option.isNone_iff_eq_none.1 hleft, rfl, hparse, rfl⟩
  · rintro ⟨row, hget, hleft, hroomId, hparse, hkey⟩
    rcases hrow' (q.peerId, row) (mem_select.2 ⟨hget, by rw [hleft]; rfl⟩) with ⟨q', hm, hload⟩
    unfold loadPeer at hload
    rw [hparse] at hload
    cases hload
    cases q
    cases hroomId
    cases hkey
    exact hm

end Database

/-! ## Tunnels -/

namespace WireGuard

/-- Setting the peers one after the other. -/
def setPeers (wg : WireGuard) (tunnels : List (String × VirtualIp)) : WireGuard :=
  tunnels.foldl (fun wg tunnel => wg.setPeer tunnel.1 tunnel.2) wg

theorem getElem?_setPeer {wg : WireGuard} {key k : String} {ip : VirtualIp} : (wg.setPeer key ip).allowedIp[k]? =
    if key = k then some (some ip) else (wg.allowedIp[k]?).map fun a => a.filter (· ≠ ip) := by
  show ((wg.allowedIp.map _).insert key _)[k]? = _
  by_cases e : key = k
  · subst e
    rw [ExtTreeMap.getElem?_insert_self, if_pos rfl]
  · rw [getElem?_insert_ne e, if_neg e, ExtTreeMap.getElem?_map]

/-- Where neither a key nor an address comes twice, each key gets its address, and the others lose what addresses are
taken. -/
theorem getElem?_setPeers {tunnels : List (String × VirtualIp)} {k : String} : ∀ {wg : WireGuard},
    tunnels.Pairwise (fun t t' => t.1 ≠ t'.1 ∧ t.2 ≠ t'.2) →
      (∀ ip, (k, ip) ∈ tunnels → (wg.setPeers tunnels).allowedIp[k]? = some (some ip)) ∧
        ((∀ ip, (k, ip) ∉ tunnels) → (wg.setPeers tunnels).allowedIp[k]? =
          (wg.allowedIp[k]?).map fun a => a.filter fun ip => decide (∀ t ∈ tunnels, t.2 ≠ ip)) := by
  induction tunnels with
  | nil =>
    intro wg _
    refine ⟨nofun, fun _ => ?_⟩
    have hid : (fun a : Option VirtualIp => a.filter fun ip =>
        decide (∀ t ∈ ([] : List (String × VirtualIp)), t.2 ≠ ip)) = id :=
      funext fun a => by cases a <;> simp
    rw [hid, Option.map_id]
    rfl
  | cons t tunnels ih =>
    intro wg hpair
    obtain ⟨key, ip₀⟩ := t
    rcases List.pairwise_cons.1 hpair with ⟨hhead, htail⟩
    rcases @ih (wg.setPeer key ip₀) htail with ⟨hin, hout⟩
    constructor
    · intro ip hm
      rcases List.mem_cons.1 hm with e | hm
      · cases e
        -- the key of the first tunnel is none of the others, and neither is its address
        rw [show (wg.setPeers ((k, ip₀) :: tunnels)) = (wg.setPeer k ip₀).setPeers tunnels from rfl,
          hout fun ip' hm' => (hhead _ hm').1 rfl, getElem?_setPeer, if_pos rfl, Option.map_some, Option.filter_some,
          if_pos (decide_eq_true fun t ht => Ne.symm (hhead t ht).2)]
      · exact hin ip hm
    · intro hnot
      have hne : key ≠ k := fun e => hnot ip₀ (by rw [e]; exact List.mem_cons_self)
      rw [show (wg.setPeers ((key, ip₀) :: tunnels)) = (wg.setPeer key ip₀).setPeers tunnels from rfl,
        hout fun ip hm => hnot ip (List.mem_cons_of_mem _ hm), getElem?_setPeer, if_neg hne, Option.map_map]
      refine congrArg (Option.map · _) (funext fun a => ?_)
      cases a with
      | none => rfl
      | some ip =>
        by_cases e : ip = ip₀
        · simp [Option.filter, e]
        · have hfree : (∀ t ∈ (key, ip₀) :: tunnels, t.2 ≠ ip) ↔ ∀ t ∈ tunnels, t.2 ≠ ip := by
            rw [List.forall_mem_cons]
            exact and_iff_right (Ne.symm e)
          rw [Function.comp_apply, Option.filter_some, if_pos (decide_eq_true e), Option.filter_some,
            Option.filter_some]
          exact if_congr (by rw [decide_eq_true_iff, decide_eq_true_iff, hfree]) rfl rfl

end WireGuard

namespace AppState

variable {base64 : String → Option (List UInt8)} {c : Conditions} {s s' : AppState} {wg : WireGuard}

/-- The tunnels of peers that the router has. -/
def tunnels (r : RoomRouter) (peerKeys : List (PeerId × String)) : List (String × VirtualIp) :=
  peerKeys.filterMap fun e => (r.peerVirtualIp e.1).map fun virtualIp => (e.2, virtualIp)

theorem wgAddPeer_inv {weather : Weather} {key : String} {ip : VirtualIp} (hwg : s.wireguard = some wg)
    (h : s.wgAddPeer base64 weather key ip = (.ok (), s')) :
    WireGuard.validatePublicKey base64 key = .ok () ∧ s' = { s with wireguard := some (wg.setPeer key ip) } := by
  unfold wgAddPeer command at h
  rw [hwg] at h
  dsimp only at h
  split at h
  · cases h
  rename_i wg' he
  cases h
  unfold WireGuard.addPeer at he
  split at he
  · cases he
  · cases he
  · rename_i hvalid _
    cases he
    exact ⟨hvalid, rfl⟩

/-- The loop sets a peer for each tunnel, or fails. -/
theorem restoreTunnels_ok : ∀ {peerKeys : List (PeerId × String)} {s s' : AppState} {wg : WireGuard} {restored n : Nat},
    s.wireguard = some wg → s.restoreTunnels base64 c restored peerKeys = (.ok n, s') →
      n = restored + (tunnels s.router peerKeys).length ∧
        s' = { s with wireguard := some (wg.setPeers (tunnels s.router peerKeys)) } ∧
          ∀ t ∈ tunnels s.router peerKeys, WireGuard.validatePublicKey base64 t.1 = .ok ()
  | [], s, s', wg, restored, n, hwg, h => by
    cases h
    refine ⟨rfl, ?_, nofun⟩
    show s = { s with wireguard := some wg }
    rw [← hwg]
  | (p, key) :: peerKeys, s, s', wg, restored, n, hwg, h => by
    unfold restoreTunnels at h
    cases hip : s.router.peerVirtualIp p with
    | none =>
      rw [hip] at h
      have htunnels : tunnels s.router ((p, key) :: peerKeys) = tunnels s.router peerKeys :=
        List.filterMap_cons_none (by rw [hip]; rfl)
      rw [htunnels]
      exact restoreTunnels_ok hwg h
    | some ip =>
      rw [hip] at h
      have htunnels : tunnels s.router ((p, key) :: peerKeys) = (key, ip) :: tunnels s.router peerKeys :=
        List.filterMap_cons_some (by rw [hip]; rfl)
      dsimp only at h
      split at h
      · cases h
      rename_i s₁ hadd
      rcases wgAddPeer_inv hwg hadd with ⟨hvalid, rfl⟩
      rcases restoreTunnels_ok (s := { s with wireguard := some (wg.setPeer key ip) }) rfl h with ⟨hn, hs, hall⟩
      rw [htunnels]
      refine ⟨by rw [hn, List.length_cons]; ac_rfl, hs, ?_⟩
      exact List.forall_mem_cons.2 ⟨hvalid, hall⟩

/-- Each peer has its tunnel, and of the others each keeps what address no peer has. -/
structure Tunnelled (base64 : String → Option (List UInt8)) (s : AppState) (wg wg' : WireGuard) : Prop where
  peer : ∀ (p : PeerId) (peer : PeerState) (k : String), s.router.peers[p]? = some peer → s.peerKeys[p]? = some k →
    wg'.allowedIp[k]? = some (some peer.virtualIp) ∧ WireGuard.validatePublicKey base64 k = .ok ()
  kept : ∀ k : String, (∀ p : PeerId, s.peerKeys[p]? ≠ some k) →
    wg'.allowedIp[k]? = (wg.allowedIp[k]?).map fun a => a.filter s.router.isVirtualIpAvailable

/-- Every peer has a key, and each key has one peer. -/
structure KeysMatch (s : AppState) : Prop where
  wf : s.router.WF
  has : ∀ p : PeerId, (∃ peer : PeerState, s.router.peers[p]? = some peer) ↔ ∃ k : String, s.peerKeys[p]? = some k
  unique : ∀ (p p' : PeerId) (k : String), s.peerKeys[p]? = some k → s.peerKeys[p']? = some k → p = p'

theorem peerVirtualIp_eq_some {r : RoomRouter} {p : PeerId} {ip : VirtualIp} :
    r.peerVirtualIp p = some ip ↔ ∃ peer : PeerState, r.peers[p]? = some peer ∧ peer.virtualIp = ip :=
  Option.map_eq_some_iff

theorem mem_tunnels {o : WalkOrder} {k : String} {ip : VirtualIp} :
    (k, ip) ∈ tunnels s.router (o.arrange s.peerKeys.toList) ↔
    ∃ (p : PeerId) (peer : PeerState), s.peerKeys[p]? = some k ∧ s.router.peers[p]? = some peer ∧
      peer.virtualIp = ip := by
  unfold tunnels
  simp only [List.mem_filterMap, WalkOrder.mem_arrange, Option.map_eq_some_iff, Prod.exists,
    ExtTreeMap.mem_toList_iff_getElem?_eq_some, Prod.mk.injEq, peerVirtualIp_eq_some]
  constructor
  · rintro ⟨p, k', hk, ip', ⟨peer, hp, rfl⟩, rfl, rfl⟩
    exact ⟨p, peer, hk, hp, rfl⟩
  · rintro ⟨p, peer, hk, hp, rfl⟩
    exact ⟨p, k, hk, _, ⟨peer, hp, rfl⟩, rfl, rfl⟩

theorem KeysMatch.tunnels_distinct (h : s.KeysMatch) (o : WalkOrder) :
    (tunnels s.router (o.arrange s.peerKeys.toList)).Pairwise fun t t' => t.1 ≠ t'.1 ∧ t.2 ≠ t'.2 := by
  have hkeys : (o.arrange s.peerKeys.toList).Pairwise fun x y => x.1 ≠ y.1 :=
    (o.perm _).symm.pairwise (ExtTreeMap.distinct_keys_toList.imp fun h e => h (by rw [e]; exact ReflCmp.compare_self))
      fun h => h.symm
  refine List.Pairwise.filterMap _ ?_
    (hkeys.imp_of_mem (S := fun x y => x.1 ≠ y.1 ∧ x.2 ≠ y.2) fun {x y} hx hy hne => ⟨hne, fun e => ?_⟩)
  · rintro ⟨p, k⟩ ⟨p', k'⟩ ⟨hne, hkey⟩ t ht t' ht'
    rcases Option.map_eq_some_iff.1 ht with ⟨ip, hip, rfl⟩
    rcases Option.map_eq_some_iff.1 ht' with ⟨ip', hip', rfl⟩
    rcases peerVirtualIp_eq_some.1 hip with ⟨peer, hp, rfl⟩
    rcases peerVirtualIp_eq_some.1 hip' with ⟨peer', hp', rfl⟩
    exact ⟨hkey, fun e => hne (h.wf.addresses.unique hp hp' e)⟩
  · obtain ⟨p, k⟩ := x
    obtain ⟨p', k'⟩ := y
    obtain rfl : k = k' := e
    simp only [WalkOrder.mem_arrange, ExtTreeMap.mem_toList_iff_getElem?_eq_some] at hx hy
    exact hne (h.unique _ _ _ hx hy)

/-- What the tunnels are once they have been restored. -/
theorem KeysMatch.tunnelled (h : s.KeysMatch) (hwg : s.wireguard = some wg) {n : Nat}
    (hr : s.restoreWireguardPeers base64 c = (.ok n, s')) :
    ∃ wg', s' = { s with wireguard := some wg' } ∧ s.Tunnelled base64 wg wg' := by
  unfold restoreWireguardPeers at hr
  rw [hwg] at hr
  rcases restoreTunnels_ok hwg hr with ⟨-, rfl, hvalid⟩
  refine ⟨_, rfl, ⟨fun p peer k hp hk => ?_, fun k hk => ?_⟩⟩
  · have hm : (k, peer.virtualIp) ∈ tunnels s.router (c.order.arrange s.peerKeys.toList) :=
      mem_tunnels.2 ⟨p, peer, hk, hp, rfl⟩
    exact ⟨(WireGuard.getElem?_setPeers (h.tunnels_distinct c.order)).1 _ hm, hvalid _ hm⟩
  · rw [(WireGuard.getElem?_setPeers (h.tunnels_distinct c.order)).2 fun ip hm => by
      rcases mem_tunnels.1 hm with ⟨p, peer, hkey, -, -⟩
      exact hk p hkey]
    refine congrArg (Option.map · _) (funext fun a => congrArg (Option.filter · a) (funext fun ip => ?_))
    -- the addresses that are taken are those of the peers
    rw [Bool.eq_iff_iff, decide_eq_true_eq, isVirtualIpAvailable, Bool.not_eq_true', contains_eq_false]
    constructor
    · intro hfree
      rw [← Option.not_isSome_iff_eq_none, Option.isSome_iff_exists]
      rintro ⟨p, hp⟩
      rcases (h.wf.addresses ip p).1 hp with ⟨peer, hpeer, rfl⟩
      rcases (h.has p).1 ⟨peer, hpeer⟩ with ⟨key, hkey⟩
      exact hfree _ (mem_tunnels.2 ⟨p, peer, hkey, hpeer, rfl⟩) rfl
    · rintro hnone ⟨key, ip'⟩ hm rfl
      rcases mem_tunnels.1 hm with ⟨p, peer, -, hpeer, rfl⟩
      rw [(h.wf.addresses _ p).2 ⟨peer, hpeer, rfl⟩] at hnone
      cases hnone

theorem restoreTunnels_database (base64 : String → Option (List UInt8)) (c : Conditions) :
    ∀ (peerKeys : List (PeerId × String)) (s : AppState) (restored : Nat),
      (s.restoreTunnels base64 c restored peerKeys).2.database = s.database
  | [], _, _ => rfl
  | (p, key) :: peerKeys, s, restored => by
    have hadd : ∀ ip, (s.wgAddPeer base64 { addPeer := c.addPeer p } key ip).2.database = s.database := fun ip =>
      (SessionServer.command_leaves s _).2
    unfold restoreTunnels
    split
    · exact restoreTunnels_database base64 c peerKeys s restored
    · rename_i ip _
      have hadd := hadd ip
      split <;> rename_i he <;> rw [he] at hadd
      · exact hadd
      · exact (restoreTunnels_database base64 c peerKeys _ _).trans hadd

end AppState

/-! ## Starting -/

/-- The constraint `UNIQUE` on public keys. -/
def Database.UniqueKeys (db : Database) : Prop :=
  ∀ (p p' : PeerId) (row row' : PeerRow), db.peers[p]? = some row → db.peers[p']? = some row' →
    row.wireguardPublicKey = row'.wireguardPublicKey → p = p'

theorem Database.Written.uniqueKeys {db : Database} (h : db.Written) : db.UniqueKeys := by
  induction h with
  | empty =>
    intro q q' row row' hq
    change (∅ : ExtTreeMap PeerId PeerRow)[q]? = some row at hq
    simp at hq
  | room _ hi ih =>
    rcases insertRoom_ok hi with ⟨-, rfl⟩
    exact ih
  | @peer db db' roomId peerId virtualIp key now _ hi ih =>
    rcases insertPeer_ok hi with ⟨hkey, rfl⟩
    have hrow : ∀ (q : PeerId) (row : PeerRow), (db.peers.insert peerId
        { roomId, virtualIp, wireguardPublicKey := key, joinedAt := now, leftAt := none })[q]? = some row →
        peerId = q ∧ row.wireguardPublicKey = key ∨ db.peers[q]? = some row := by
      intro q row hq
      by_cases e : peerId = q
      · subst e
        rw [ExtTreeMap.getElem?_insert_self] at hq
        cases hq
        exact Or.inl ⟨rfl, rfl⟩
      · exact Or.inr ((getElem?_insert_ne e).symm.trans hq)
    intro q q' row row' hq hq' e
    rcases hrow q row hq with ⟨rfl, hk⟩ | hq <;> rcases hrow q' row' hq' with ⟨rfl, hk'⟩ | hq'
    · rfl
    · exact absurd (e.symm.trans hk) (hkey q' row' hq')
    · exact absurd (e.trans hk') (hkey q row hq)
    · exact ih q q' row row' hq hq' e

/-- What the server is once it has started, and what it has made of what it found. -/
structure Recovers (base64 : String → Option (List UInt8)) (inetText : VirtualIp → String) (c : Conditions)
    (env : Environment) (estate estate' : Estate) (s : AppState) : Prop where
  matched : s.KeysMatch
  rooms : ∀ (x : RoomId) (roomCode : RoomCode), s.router.ledger.code x = some roomCode ↔
    env.databaseUrl.ok.isSome ∧ estate.database.ShowsRoom c.dbNow x roomCode
  peers : ∀ (p : PeerId) (peer : PeerState) (k : String), s.router.peers[p]? = some peer ∧ s.peerKeys[p]? = some k ↔
    env.databaseUrl.ok.isSome ∧ ∃ q : PersistedPeer, estate.database.ShowsPeer inetText q ∧ q.peerId = p ∧
      q.wireguardPublicKey = k ∧ peer = q.restored (c.clock p)
  sessions : s.router.hosts = ∅ ∧ s.router.discoveries = ∅ ∧ s.router.gameplay = ∅
  database : s.database = if env.databaseUrl.ok.isSome then some estate.database else none
  cleared : estate'.sessions = if env.databaseUrl.ok.isSome then .clearEphemeralSessions else estate.sessions
  tunnels : if env.wireguardInterface.ok.isSome then s.wireguard = some estate'.wireguard ∧
      s.Tunnelled base64 estate.wireguard estate'.wireguard
    else s.wireguard = none ∧ estate'.wireguard = estate.wireguard

section

variable {base64 : String → Option (List UInt8)} {inetText : VirtualIp → String} {c : Conditions} {env : Environment}
  {estate estate' : Estate} {s s' : AppState} {bearerToken : String} {p : IpPrefix}

/-- A server that has nothing yet. -/
def blank (bearerToken : String) (p : IpPrefix) : AppState := (AppState.new bearerToken).withVirtualIpPrefix p

/-- What the part of a start that reads the database does, if it succeeds. -/
theorem openDatabase_restores (h : (blank bearerToken p).openDatabase inetText c estate = (.ok s, estate')) :
    ∃ persisted r s₁, estate.database.loadState inetText c.order c.dbNow = .ok persisted ∧
      RoomsRestored persisted.rooms (RoomRouter.new {}) r ∧
      PeersRestored c.clock persisted.peers { blank bearerToken p with router := r } s₁ ∧
      s = s₁.withDatabase estate.database ∧ estate' = { estate with sessions := .clearEphemeralSessions } := by
  unfold AppState.openDatabase at h
  split at h
  · cases h
  · cases h
  · cases h
  rename_i persisted _ _ hload
  split at h
  · cases h
  dsimp only at h
  split at h
  · cases h
  rename_i s₁ hrestore
  cases h
  unfold AppState.restorePersistedState at hrestore
  split at hrestore
  · cases hrestore
  rename_i r hr
  have hfounded : RoomsRestored persisted.rooms (RoomRouter.new {}) r := restoreRooms_does (new_wf {}) hr
  exact ⟨persisted, r, s₁, hload, hfounded,
    restorePeers_does hfounded.wf (fun q _ => ExtTreeMap.getElem?_empty) hrestore, rfl, rfl⟩

/-- The rooms it restores. -/
theorem openDatabase_rooms (h : (blank bearerToken p).openDatabase inetText c estate = (.ok s, estate')) :
    s.router.WF ∧ (∀ x roomCode, s.router.ledger.code x = some roomCode ↔
      estate.database.ShowsRoom c.dbNow x roomCode) ∧ s.database = some estate.database := by
  rcases openDatabase_restores h with ⟨persisted, r, s₁, hload, hfounded, hdone, rfl, -⟩
  refine ⟨hdone.wf, fun x roomCode => ?_, rfl⟩
  rw [← (Database.loadState_ok hload).1]
  show s₁.router.ledger.code x = some roomCode ↔ _
  rw [hdone.code]
  show r.ledger.code x = some roomCode ↔ _
  rw [hfounded.code]
  have hempty : (RoomRouter.new {}).ledger.code x = none := rfl
  rw [hempty]
  simp

/-- The part of the start that reads the database. -/
theorem openDatabase_recovers (hunique : estate.database.UniqueKeys)
    (h : (blank bearerToken p).openDatabase inetText c estate = (.ok s, estate')) :
    s.KeysMatch ∧ (∀ x roomCode, s.router.ledger.code x = some roomCode ↔
      estate.database.ShowsRoom c.dbNow x roomCode) ∧
      (∀ (p : PeerId) (peer : PeerState) (k : String), s.router.peers[p]? = some peer ∧ s.peerKeys[p]? = some k ↔
        ∃ q : PersistedPeer, estate.database.ShowsPeer inetText q ∧ q.peerId = p ∧ q.wireguardPublicKey = k ∧
          peer = q.restored (c.clock p)) ∧
      (s.router.hosts = ∅ ∧ s.router.discoveries = ∅ ∧ s.router.gameplay = ∅) ∧ s.database = some estate.database ∧
      s.wireguard = none ∧ estate' = { estate with sessions := .clearEphemeralSessions } := by
  have hrooms := (openDatabase_rooms h).2.1
  rcases openDatabase_restores h with ⟨persisted, r, s₁, hload, hfounded, hdone, rfl, rfl⟩
  have hpeers := (Database.loadState_ok hload).2
  have hothers := hfounded.others
  have hnopeer : ∀ q : PeerId, r.peers[q]? = none := fun q => by
    rw [hothers]
    exact ExtTreeMap.getElem?_empty
  have hpeer : ∀ (q : PeerId) (peer : PeerState), s₁.router.peers[q]? = some peer ↔
      ∃ x ∈ persisted.peers, x.peerId = q ∧ peer = x.restored (c.clock q) := fun q peer => by
    rw [hdone.peer]
    show r.peers[q]? = some peer ∨ _ ↔ _
    rw [hnopeer]
    simp
  have hkey : ∀ (q : PeerId) (k : String), s₁.peerKeys[q]? = some k ↔
      ∃ x ∈ persisted.peers, x.peerId = q ∧ x.wireguardPublicKey = k := fun q k => by
    rw [hdone.key]
    show (∅ : ExtTreeMap PeerId String)[q]? = some k ∨ _ ↔ _
    rw [ExtTreeMap.getElem?_empty]
    simp
  -- rows of one peer are one row
  have hone : ∀ x ∈ persisted.peers, ∀ y ∈ persisted.peers, x.peerId = y.peerId → x = y := by
    intro x hx y hy e
    rcases (hpeers x).1 hx with ⟨row, hrow, -, hroom, hip, hk⟩
    rcases (hpeers y).1 hy with ⟨row', hrow', -, hroom', hip', hk'⟩
    rw [← e, hrow] at hrow'
    cases hrow'
    rw [hip] at hip'
    cases x; cases y
    simp only [PersistedPeer.mk.injEq]
    exact ⟨hroom.symm.trans hroom', e, congrArg VirtualIp.mk (Option.some.inj hip'), hk.symm.trans hk'⟩
  refine ⟨⟨hdone.wf, fun q => ?_, fun q q' k hk hk' => ?_⟩, hrooms, fun q peer k => ?_, ?_, rfl, ?_, rfl⟩
  · constructor
    · rintro ⟨peer, hq⟩
      rcases (hpeer q peer).1 hq with ⟨x, hx, rfl, -⟩
      exact ⟨_, (hkey _ _).2 ⟨x, hx, rfl, rfl⟩⟩
    · rintro ⟨k, hk⟩
      rcases (hkey q k).1 hk with ⟨x, hx, rfl, -⟩
      exact ⟨_, (hpeer _ _).2 ⟨x, hx, rfl, rfl⟩⟩
  · rcases (hkey q k).1 hk with ⟨x, hx, rfl, rfl⟩
    rcases (hkey q' _).1 hk' with ⟨y, hy, rfl, hxy⟩
    rcases (hpeers x).1 hx with ⟨row, hrow, -, -, -, hrowKey⟩
    rcases (hpeers y).1 hy with ⟨row', hrow', -, -, -, hrowKey'⟩
    exact hunique _ _ row row' hrow hrow' (hrowKey.trans (hxy.symm.trans hrowKey'.symm))
  · constructor
    · rintro ⟨hq, hk⟩
      rcases (hpeer q peer).1 hq with ⟨x, hx, rfl, rfl⟩
      rcases (hkey _ k).1 hk with ⟨y, hy, hxy, rfl⟩
      obtain rfl := hone y hy x hx hxy
      exact ⟨y, (hpeers y).1 hx, rfl, rfl, rfl⟩
    · rintro ⟨x, hx, rfl, rfl, rfl⟩
      have hm := (hpeers x).2 hx
      exact ⟨(hpeer _ _).2 ⟨x, hm, rfl, rfl⟩, (hkey _ _).2 ⟨x, hm, rfl, rfl⟩⟩
  · rcases hdone.sessions with ⟨hhosts, hdiscoveries, hgameplay⟩
    refine ⟨hhosts.trans ?_, hdiscoveries.trans ?_, hgameplay.trans ?_⟩ <;> (show _ = _; rw [hothers]; rfl)
  · show s₁.wireguard = none
    rw [hdone.others]
    rfl

/-- The part of the start that sets up the tunnels. -/
theorem openTunnels_recovers (hmatch : s.KeysMatch) (h : s.openTunnels base64 c estate = (.ok s', estate')) :
    ∃ wg, s' = { s with wireguard := some wg } ∧ s.Tunnelled base64 estate.wireguard wg ∧
      estate' = estate.leftBy s' := by
  unfold AppState.openTunnels at h
  split at h
  · cases h
  rename_i n s₁ hrestore
  cases h
  have hmatch' : (s.withWireguard estate.wireguard).KeysMatch := ⟨hmatch.wf, hmatch.has, hmatch.unique⟩
  rcases hmatch'.tunnelled rfl hrestore with ⟨wg, rfl, htunnelled⟩
  exact ⟨wg, rfl, ⟨htunnelled.peer, htunnelled.kept⟩, rfl⟩

theorem blank_match (bearerToken : String) (p : IpPrefix) : (blank bearerToken p).KeysMatch where
  wf := new_wf {}
  has := fun q => by
    show (∃ peer, (∅ : ExtTreeMap PeerId PeerState)[q]? = some peer) ↔ ∃ k, (∅ : ExtTreeMap PeerId String)[q]? = some k
    simp
  unique := fun q q' k hk => by
    change (∅ : ExtTreeMap PeerId String)[q]? = some k at hk
    simp at hk

/-! ## The two parts of a start -/

/-- The server before tunnels are set up. -/
def opened (inetText : VirtualIp → String) (c : Conditions) (env : Environment) (estate : Estate) (bearerToken : String)
    (p : IpPrefix) : Except StartError AppState × Estate :=
  if env.databaseUrl.ok.isSome then
    (blank bearerToken p).openDatabase inetText c estate else (.ok (blank bearerToken p), estate)

theorem start_opened (base64 : String → Option (List UInt8)) (inetText : VirtualIp → String) (c : Conditions)
    (estate : Estate)
    (hbearer : env.bearerToken = .ok bearerToken) (hip : env.ipPrefix = .ok p) : start base64 inetText c env estate =
      match opened inetText c env estate bearerToken p with
      | (.error e, estate) => (.error e, estate)
      | (.ok s, estate) => if env.wireguardInterface.ok.isSome then
          s.openTunnels base64 c estate else (.ok s, estate) := by
  unfold Civ6LanBridge.start
  rw [hbearer, hip]
  rfl

/-- A start fails and has changed nothing, fails with the database, or goes on to the tunnels. -/
theorem start_cases (base64 : String → Option (List UInt8)) (inetText : VirtualIp → String) (c : Conditions)
    (env : Environment) (estate : Estate) : (∃ e, start base64 inetText c env estate = (.error e, estate)) ∨
      ∃ bearerToken p, (∃ e estate₁, opened inetText c env estate bearerToken p = (.error e, estate₁) ∧
          start base64 inetText c env estate = (.error e, estate₁)) ∨
        ∃ s estate₁, opened inetText c env estate bearerToken p = (.ok s, estate₁) ∧
          start base64 inetText c env estate =
          if env.wireguardInterface.ok.isSome then s.openTunnels base64 c estate₁ else (.ok s, estate₁) := by
  cases hbearer : env.bearerToken with
  | error e => exact Or.inl ⟨e, by unfold Civ6LanBridge.start; rw [hbearer]⟩
  | ok bearerToken =>
    cases hip : env.ipPrefix with
    | error e => exact Or.inl ⟨e, by unfold Civ6LanBridge.start; rw [hbearer, hip]⟩
    | ok p =>
      refine Or.inr ⟨bearerToken, p, ?_⟩
      rw [start_opened base64 inetText c estate hbearer hip]
      rcases opened inetText c env estate bearerToken p with ⟨e | s, estate₁⟩
      · exact Or.inl ⟨e, estate₁, rfl, rfl⟩
      · exact Or.inr ⟨s, estate₁, rfl, rfl⟩

/-- What the first part has recovered. -/
theorem Recovers.start (base64 : String → Option (List UInt8)) (hunique : estate.database.UniqueKeys)
    (h : opened inetText c env estate bearerToken p = (.ok s, estate')) :
    Recovers base64 inetText c { env with wireguardInterface := .notPresent } estate estate' s ∧
      estate'.database = estate.database ∧ estate'.wireguard = estate.wireguard := by
  unfold opened at h
  split at h
  · rename_i hdb
    rcases openDatabase_recovers hunique h with ⟨hmatch, hrooms, hpeers, hsessions, hdatabase, hwireguard, rfl⟩
    refine ⟨⟨hmatch, fun x roomCode => ?_, fun q peer k => ?_, hsessions, ?_, ?_, ⟨hwireguard, rfl⟩⟩, rfl, rfl⟩
    · rw [hrooms]
      exact (and_iff_right hdb).symm
    · rw [hpeers]
      exact (and_iff_right hdb).symm
    · exact hdatabase.trans (if_pos hdb).symm
    · exact (if_pos hdb).symm
  · rename_i hdb
    cases h
    refine ⟨⟨blank_match _ _, fun x roomCode => iff_of_false nofun fun hx => hdb hx.1,
      fun q peer k => iff_of_false (fun hq => ?_) fun hq => hdb hq.1, ⟨rfl, rfl, rfl⟩, ?_, ?_, ⟨rfl, rfl⟩⟩, rfl, rfl⟩
    · have hnone : (∅ : ExtTreeMap PeerId PeerState)[q]? = some peer := hq.1
      simp at hnone
    · exact (if_neg hdb).symm
    · exact (if_neg hdb).symm

/-- What the first part leaves of what it found, however it goes. -/
theorem opened_estate (inetText : VirtualIp → String) (c : Conditions) (env : Environment) (estate : Estate)
    (bearerToken : String) (p : IpPrefix) : (opened inetText c env estate bearerToken p).2 = estate ∨
      (opened inetText c env estate bearerToken p).2 = { estate with sessions := .clearEphemeralSessions } := by
  unfold opened
  split
  swap
  · exact Or.inl rfl
  unfold AppState.openDatabase
  split
  · exact Or.inl rfl
  · exact Or.inl rfl
  · exact Or.inl rfl
  split
  · exact Or.inl rfl
  · dsimp only
    split <;> exact Or.inr rfl

theorem openTunnels_estate (base64 : String → Option (List UInt8)) (s : AppState) (c : Conditions) (estate : Estate)
    (hdb : s.database.getD estate.database = estate.database) :
    (s.openTunnels base64 c estate).2.database = estate.database ∧
      (s.openTunnels base64 c estate).2.sessions = estate.sessions := by
  have hkept : ((s.withWireguard estate.wireguard).restoreWireguardPeers base64 c).2.database = s.database := by
    unfold AppState.restoreWireguardPeers
    split
    · rfl
    · exact AppState.restoreTunnels_database base64 c _ _ _
  unfold AppState.openTunnels
  split <;> rename_i he <;> rw [he] at hkept <;> refine ⟨?_, rfl⟩ <;>
    (show Option.getD _ _ = _; rw [hkept]; exact hdb)

/-- A server that starts with a database opens on it: its sessions are recorded from then on. -/
theorem Recovers.opens (h : Recovers base64 inetText c env estate estate' s) (hdb : env.databaseUrl.ok.isSome) :
    SessionServer.Opens { app := s, tables := estate'.sessions } where
  wf := h.matched.wf
  hosts := h.sessions.1
  gameplay := h.sessions.2.2
  rooms := by
    refine ⟨estate.database, h.database.trans (if_pos hdb), fun x hx => ?_, fun p peer hp => ?_⟩
    · rcases Option.ne_none_iff_exists'.1 hx with ⟨room, hroom⟩
      have hcode : s.router.ledger.code x = some room.code := by
        show (s.router.rooms[x]?).map RoomState.code = _
        rw [hroom]
        rfl
      rcases (h.rooms x _).1 hcode with ⟨-, row, hrow, -⟩
      rw [hrow]
      exact Option.some_ne_none _
    · rcases (h.matched.has p).1 ⟨peer, hp⟩ with ⟨k, hk⟩
      rcases (h.peers p peer k).1 ⟨hp, hk⟩ with ⟨-, q, ⟨row, hrow, -, hroom, -⟩, rfl, -, rfl⟩
      exact ⟨row, hrow, hroom⟩
  tables := h.cleared.trans (if_pos hdb)

/-- A server that has started on a database has the rooms of its rows, whatever else there is. -/
theorem start_rooms (hdb : env.databaseUrl.ok.isSome) (h : (start base64 inetText c env estate).1 = .ok s) :
    s.router.WF ∧ (∀ x roomCode, s.router.ledger.code x = some roomCode ↔
      estate.database.ShowsRoom c.dbNow x roomCode) ∧ s.database = some estate.database := by
  rcases start_cases base64 inetText c env estate with ⟨e, he⟩
    | ⟨bearerToken, p, ⟨e, estate₁, -, he⟩ | ⟨s₁, estate₁, hopen, he⟩⟩
  · rw [he] at h
    cases h
  · rw [he] at h
    cases h
  unfold opened at hopen
  rw [if_pos hdb] at hopen
  have hrooms := openDatabase_rooms hopen
  rw [he] at h
  split at h
  swap
  · cases h
    exact hrooms
  -- the tunnels change nothing but the interface
  unfold AppState.openTunnels at h
  split at h
  · cases h
  rename_i n s₂ hrestore
  cases h
  unfold AppState.restoreWireguardPeers at hrestore
  rw [show (s₁.withWireguard estate₁.wireguard).wireguard = some estate₁.wireguard from rfl] at hrestore
  rcases AppState.restoreTunnels_ok rfl hrestore with ⟨-, rfl, -⟩
  exact hrooms

/-! ## Starting well -/

/-- Calls of a start that go well. -/
def Conditions.Calm (c : Conditions) : Prop := c.connect = none ∧ c.load = none ∧ c.clear = none

theorem openDatabase_ok (inetText : VirtualIp → String) (hcalm : c.Calm) (hw : estate.database.Written)
    (hlimit : estate.database.rooms.size ≤ ({} : RouterConfig).maxRooms) (hnone : estate.database.peers = ∅) :
    ∃ s, (blank bearerToken p).openDatabase inetText c estate =
      (.ok s, { estate with sessions := .clearEphemeralSessions }) ∧ s.peerKeys = ∅ := by
  obtain ⟨hconnect, hload, hclear⟩ := hcalm
  obtain ⟨rooms, hrooms, hlen, hdistinct, -⟩ := hw.loadState_rooms hnone inetText c.order c.dbNow
  obtain ⟨r, hr, -⟩ : ∃ r, restoreRooms (blank bearerToken p).router rooms = .ok () r ∧ _ :=
    restoreRooms_new (hlen.trans hlimit) hdistinct
  have hrestore : (blank bearerToken p).restorePersistedState c.clock { rooms, peers := [] } =
      (.ok (), { blank bearerToken p with router := r }) := by
    rw [AppState.restorePersistedState, hr]
    rfl
  refine ⟨{ blank bearerToken p with router := r, database := some estate.database }, ?_, rfl⟩
  unfold AppState.openDatabase
  rw [hconnect, hload, hrooms, hclear]
  dsimp only
  rw [hrestore]
  rfl

theorem openTunnels_ok (base64 : String → Option (List UInt8)) (c : Conditions) (estate : Estate)
    (hkeys : s.peerKeys = ∅) :
    s.openTunnels base64 c estate =
      (.ok (s.withWireguard estate.wireguard), estate.leftBy (s.withWireguard estate.wireguard)) := by
  have hnone : c.order.arrange (s.withWireguard estate.wireguard).peerKeys.toList = [] := by
    refine List.eq_nil_iff_forall_not_mem.2 fun e he => ?_
    rw [WalkOrder.mem_arrange, ExtTreeMap.mem_toList_iff_getElem?_eq_some] at he
    change s.peerKeys[e.1]? = some e.2 at he
    simp [hkeys] at he
  unfold AppState.openTunnels AppState.restoreWireguardPeers
  rw [show (s.withWireguard estate.wireguard).wireguard = some estate.wireguard from rfl]
  dsimp only
  rw [hnone]
  rfl

/-- On tables without peers a server starts where the calls go well and its environment is in order. -/
theorem start_ok (base64 : String → Option (List UInt8)) (inetText : VirtualIp → String) (hcalm : c.Calm)
    (hbearer : env.bearerToken = .ok bearerToken) (hip : env.ipPrefix = .ok p) (hw : estate.database.Written)
    (hlimit : estate.database.rooms.size ≤ ({} : RouterConfig).maxRooms) (hnone : estate.database.peers = ∅) :
    ∃ s, (start base64 inetText c env estate).1 = .ok s := by
  have hopen : ∃ s estate', opened inetText c env estate bearerToken p = (.ok s, estate') ∧ s.peerKeys = ∅ := by
    unfold opened
    split
    · rcases openDatabase_ok inetText hcalm hw hlimit hnone with ⟨s, hs, hkeys⟩
      exact ⟨s, _, hs, hkeys⟩
    · exact ⟨_, _, rfl, rfl⟩
  rcases hopen with ⟨s, estate', hs, hkeys⟩
  rw [start_opened base64 inetText c estate hbearer hip, hs]
  dsimp only
  split
  · rw [openTunnels_ok base64 c estate' hkeys]
    exact ⟨_, rfl⟩
  · exact ⟨_, rfl⟩

/-! ## Every start -/

/-- Where the database writes addresses with their netmask, a start does not get past a peer that has not left. -/
theorem start_error (base64 : String → Option (List UInt8)) (c : Conditions) (hdb : env.databaseUrl.ok.isSome)
    (hinet : ∀ ip, inetText ip = ip.address.toString ++ "/32") {q : PeerId} {row : PeerRow}
    (hq : estate.database.peers[q]? = some row) (hstays : row.leftAt = none) :
    ∃ e, (start base64 inetText c env estate).1 = .error e := by
  rcases start_cases base64 inetText c env estate with ⟨e, he⟩
    | ⟨bearerToken, p, ⟨e, estate₁, -, he⟩ | ⟨s₁, estate₁, hopen, -⟩⟩
  · exact ⟨e, by rw [he]⟩
  · exact ⟨e, by rw [he]⟩
  · unfold opened at hopen
    rw [if_pos hdb] at hopen
    rcases openDatabase_restores hopen with ⟨persisted, r, s, hload, -⟩
    rcases Database.loadState_error hinet hq hstays c.order c.dbNow with ⟨e, he⟩
    rw [hload] at he
    cases he

/-- A start never touches the rows of rooms and peers, and of the rows of sessions it deletes all or none. A server that
has started has the rooms and peers of the rows and no others, each peer in its first epoch and with a tunnel of its
own; it has no session, and with a database it opens on it, so that sessions are recorded from then on. What peers there
are depends on how the database writes their addresses: with netmasks no start gets past a peer that has not left. -/
theorem start_recovers (base64 : String → Option (List UInt8)) (inetText : VirtualIp → String) (c : Conditions)
    (env : Environment) (hunique : estate.database.UniqueKeys) :
    (start base64 inetText c env estate).2.database = estate.database ∧
      ((start base64 inetText c env estate).2.sessions = estate.sessions ∨
        (start base64 inetText c env estate).2.sessions = .clearEphemeralSessions) ∧
      (∀ s, (start base64 inetText c env estate).1 = .ok s →
        Recovers base64 inetText c env estate (start base64 inetText c env estate).2 s ∧
          (env.databaseUrl.ok.isSome →
            SessionServer.Opens { app := s, tables := (start base64 inetText c env estate).2.sessions })) ∧
      (env.databaseUrl.ok.isSome → (∀ ip, inetText ip = ip.address.toString ++ "/32") →
        (∃ (q : PeerId) (row : PeerRow), estate.database.peers[q]? = some row ∧ row.leftAt = none) →
        ∃ e, (start base64 inetText c env estate).1 = .error e) := by
  rw [← and_assoc, ← and_assoc]
  refine ⟨?_, fun hdb hinet ⟨q, row, hq, hstays⟩ => start_error base64 c hdb hinet hq hstays⟩
  rw [and_assoc]
  rcases start_cases base64 inetText c env estate with ⟨e, he⟩ | ⟨bearerToken, p, hopened⟩
  · rw [he]
    exact ⟨rfl, Or.inl rfl, nofun⟩
  have hestate := opened_estate inetText c env estate bearerToken p
  rcases hopened with ⟨e, estate₁, hopen, he⟩ | ⟨s₁, estate₁, hopen, he⟩
  · rw [hopen] at hestate
    rw [he]
    rcases hestate with rfl | rfl
    · exact ⟨rfl, Or.inl rfl, nofun⟩
    · exact ⟨rfl, Or.inr rfl, nofun⟩
  rw [hopen] at hestate
  rw [he]
  rcases Recovers.start base64 hunique hopen with ⟨hrecovers, hdb₁, hwg₁⟩
  have hsessions : estate₁.sessions = estate.sessions ∨ estate₁.sessions = .clearEphemeralSessions :=
    hestate.imp (congrArg Estate.sessions) (congrArg Estate.sessions)
  split
  · rename_i hwg
    have hdatabase : s₁.database.getD estate₁.database = estate₁.database := by
      rw [hrecovers.database, hdb₁]
      split <;> rfl
    rcases openTunnels_estate base64 s₁ c estate₁ hdatabase with ⟨hdb₂, hsessions₂⟩
    refine ⟨hdb₂.trans hdb₁, by rwa [hsessions₂], fun s hs => ?_⟩
    have he₂ : s₁.openTunnels base64 c estate₁ = (.ok s, (s₁.openTunnels base64 c estate₁).2) := Prod.ext hs rfl
    rcases openTunnels_recovers hrecovers.matched he₂ with ⟨wg, hs', htunnelled, hleft⟩
    have hall : Recovers base64 inetText c env estate (s₁.openTunnels base64 c estate₁).2 s := by
      subst hs'
      refine ⟨⟨hrecovers.matched.wf, hrecovers.matched.has, hrecovers.matched.unique⟩, hrecovers.rooms, hrecovers.peers,
        hrecovers.sessions, hrecovers.database, hsessions₂.trans hrecovers.cleared, ?_⟩
      rw [if_pos hwg, hleft]
      rw [hwg₁] at htunnelled
      exact ⟨rfl, htunnelled.peer, htunnelled.kept⟩
    exact ⟨hall, hall.opens⟩
  · rename_i hwg
    refine ⟨hdb₁, hsessions, fun s hs => ?_⟩
    cases hs
    have hall : Recovers base64 inetText c env estate estate₁ s₁ := by
      refine ⟨hrecovers.matched, hrecovers.rooms, hrecovers.peers, hrecovers.sessions, hrecovers.database,
        hrecovers.cleared, ?_⟩
      rw [if_neg hwg]
      exact hrecovers.tunnels
    exact ⟨hall, hall.opens⟩

end

/-! ## A room that is still there -/

namespace RoomRouter.Example

def environment : Environment where
  controlBearerToken := .value Civ6LanBridge.Example.bearerToken
  virtualIpPrefix := .value "10.66.7"
  databaseUrl := .value "postgres://localhost/civ6"
  wireguardInterface := .value "wg0"

/-- What is left behind of a room whose members have gone. -/
def deserted : Estate where
  database := emptyRoom
  sessions := .clearEphemeralSessions
  wireguard := .empty

/-- And of one with a peer in it. -/
def inhabited : Estate := { deserted with database := onePeer }

/-- A cast that writes no netmasks. -/
def plainText (ip : VirtualIp) : String := ip.address.toString

theorem onePeer_row : onePeer.peers[peer]? = some
    { roomId := room, virtualIp := ip, wireguardPublicKey := Civ6LanBridge.Example.zeros, joinedAt := 0,
      leftAt := none } :=
  ExtTreeMap.getElem?_insert_self

/-- The one row of a table. -/
theorem select_one {K V : Type} [Ord K] [TransOrd K] [LawfulEqOrd K] (o : WalkOrder) {p : V → Bool}
    (time : V → Timestamp)
    (k : K) {v : V} (hv : p v = true) : Database.select o p time ((∅ : ExtTreeMap K V).insert k v) = [(k, v)] := by
  have hlen : ((∅ : ExtTreeMap K V).insert k v).toList.length = 1 := by simp [ExtTreeMap.size_insert]
  obtain ⟨x, hx⟩ := List.length_eq_one_iff.1 hlen
  have hmem : (k, v) ∈ ((∅ : ExtTreeMap K V).insert k v).toList :=
    ExtTreeMap.mem_toList_iff_getElem?_eq_some.2 ExtTreeMap.getElem?_insert_self
  rw [hx, List.mem_singleton] at hmem
  subst hmem
  unfold Database.select
  rw [hx, List.perm_singleton.1 (o.perm _)]
  simp [hv]

theorem onePeer_loads : onePeer.loadState plainText .sorted 0 = .ok
    { rooms := [{ roomId := room, roomCode := code }]
      peers :=
        [{ roomId := room, peerId := peer, virtualIp := ip, wireguardPublicKey := Civ6LanBridge.Example.zeros }] } := by
  have hroom : Database.loadRoom (room, { roomCode := code.value, createdAt := 0, expiresAt := none }) =
      .ok { roomId := room, roomCode := code } := by
    unfold Database.loadRoom
    rw [RoomCode.parse_value]
  have hpeer : ∀ row : PeerRow, Database.loadPeer plainText (peer, row) = .ok
      { roomId := row.roomId, peerId := peer, virtualIp := row.virtualIp,
        wireguardPublicKey := row.wireguardPublicKey } := by
    intro row
    unfold Database.loadPeer plainText
    rw [Ipv4Addr.parse_toString]
  unfold Database.loadState onePeer emptyRoom
  rw [select_one _ _ _ rfl, select_one _ _ _ rfl]
  simp only [List.mapM_cons, List.mapM_nil, hroom, hpeer]
  rfl

theorem inhabited_starts : ∃ s, (start Civ6LanBridge.Example.base64 plainText {} environment inhabited).1 = .ok s := by
  have hbearer : environment.bearerToken = .ok Civ6LanBridge.Example.bearerToken := by decide +kernel
  have hip : environment.ipPrefix = .ok { a := 10, b := 66, c := 7 } := by decide +kernel
  rw [start_opened _ _ _ _ hbearer hip]
  unfold opened AppState.openDatabase
  rw [show inhabited.database.loadState plainText ({} : Conditions).order
    ({} : Conditions).dbNow = _ from onePeer_loads]
  exact ⟨_, rfl⟩

end RoomRouter.Example

open RoomRouter.Example in
/-- The peer is back with its key and its tunnel, unless the database writes addresses with their netmask. -/
theorem inhabited_recovered :
    (∃ s, (start Civ6LanBridge.Example.base64 plainText {} environment inhabited).1 = .ok s ∧
      s.router.ledger.code room = some code ∧
      (∃ state, s.router.peers[peer]? = some state ∧ state.roomId = room ∧ state.virtualIp = ip ∧
        state.connectionEpoch = 1) ∧
      s.peerKeys[peer]? = some Civ6LanBridge.Example.zeros ∧
      (∃ wg, s.wireguard = some wg ∧ wg.allowedIp[Civ6LanBridge.Example.zeros]? = some (some ip)) ∧
      SessionServer.Opens
        { app := s, tables := (start Civ6LanBridge.Example.base64 plainText {} environment inhabited).2.sessions }) ∧
    ∃ e, (start Civ6LanBridge.Example.base64 inetText {} environment inhabited).1 = .error e := by
  have hunique : inhabited.database.UniqueKeys := onePeer_written.uniqueKeys
  constructor
  · rcases inhabited_starts with ⟨s, hs⟩
    rcases (start_recovers Civ6LanBridge.Example.base64 plainText {} environment hunique).2.2.1 s hs with
      ⟨hrecovers, hopens⟩
    have hroom : s.router.ledger.code room = some code :=
      (hrecovers.rooms room code).2 ⟨rfl, _, ExtTreeMap.getElem?_insert_self, rfl, RoomCode.parse_value code⟩
    have hpeer := (hrecovers.peers peer _ Civ6LanBridge.Example.zeros).2 ⟨rfl,
      { roomId := room, peerId := peer, virtualIp := ip, wireguardPublicKey := Civ6LanBridge.Example.zeros },
      ⟨_, onePeer_row, rfl, rfl, Ipv4Addr.parse_toString _, rfl⟩, rfl, rfl, rfl⟩
    have htunnel := hrecovers.tunnels.2.peer peer _ _ hpeer.1 hpeer.2
    exact ⟨s, hs, hroom, ⟨_, hpeer.1, rfl, rfl, rfl⟩, hpeer.2, ⟨_, hrecovers.tunnels.1, htunnel.1⟩, hopens rfl⟩
  · exact (start_recovers Civ6LanBridge.Example.base64 inetText {} environment hunique).2.2.2 rfl (fun _ => rfl)
      ⟨peer, _, onePeer_row, rfl⟩

end Civ6LanBridge

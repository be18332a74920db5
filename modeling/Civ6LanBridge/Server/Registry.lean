/-
One registry of peers, kept in four places: who is in which room, at which address, under which public
key. Each request that succeeds is one move of the registry, made in the router, the database, WireGuard
and the table of public keys.
-/
import Civ6LanBridge.Server.Stores

namespace Civ6LanBridge

open Std FinMap Bytes Table RoomRouter

/-! ## The registry -/

structure Member where
  roomId : RoomId
  virtualIp : VirtualIp
  publicKey : String

/-- The peers the server has admitted. -/
abbrev Registry := Table PeerId Member

namespace Registry

variable {R : Registry} {p : PeerId} {m : Member}

/-- A peer is entered. -/
def enrol (R : Registry) (p : PeerId) (m : Member) : Registry := Function.update R p (some m)

/-- A peer is struck off. -/
def strike (R : Registry) (p : PeerId) : Registry := Function.update R p none

/-- Every public key in the registry is on the list. -/
def KeysIn (R : Registry) (used : List String) : Prop := ∀ p m, R p = some m → m.publicKey ∈ used

theorem enrol_eq_some {q : PeerId} {n : Member} : R.enrol p m q = some n ↔ q = p ∧ n = m ∨ q ≠ p ∧ R q = some n := by
  unfold enrol
  by_cases e : q = p
  · subst e; simp [eq_comm]
  · simp [e]

theorem strike_eq_some {q : PeerId} {n : Member} : R.strike p q = some n ↔ q ≠ p ∧ R q = some n := by
  unfold strike
  by_cases e : q = p
  · subst e; simp
  · simp [e]

theorem KeysIn.enrol {used : List String} (h : R.KeysIn used) : (R.enrol p m).KeysIn (m.publicKey :: used) := by
  intro q n hq
  rcases enrol_eq_some.1 hq with ⟨-, rfl⟩ | ⟨-, hq⟩
  · exact List.mem_cons_self
  · exact List.mem_cons_of_mem _ (h q n hq)

theorem KeysIn.strike {used : List String} (h : R.KeysIn used) : (R.strike p).KeysIn used :=
  fun q n hq => h q n (strike_eq_some.1 hq).2

theorem KeysIn.mono {used more : List String} (h : R.KeysIn used) : R.KeysIn (more ++ used) :=
  fun p m hp => List.mem_append_right _ (h p m hp)

end Registry

/-! ## The stores that keep it -/

def PeerRow.member (row : PeerRow) : Member :=
  { roomId := row.roomId, virtualIp := row.virtualIp, publicKey := row.wireguardPublicKey }

/-- The row that `insert_peer` writes. -/
def Member.row (m : Member) (joinedAt : Timestamp) : PeerRow :=
  { roomId := m.roomId, virtualIp := m.virtualIp, wireguardPublicKey := m.publicKey, joinedAt, leftAt := none }

/-- The four stores agree on the registry, and router and database on the rooms. -/
structure Represents (base64 : String → Option (List UInt8)) (r : RoomRouter) (db : Database) (wg : WireGuard)
    (keys : ExtTreeMap PeerId String) (R : Registry) : Prop where
  router : r.WF
  places : ∀ p, r.place p = (R p).map fun m => (m.roomId, m.virtualIp)
  rooms : ∀ id : RoomId, (db.rooms[id]?).map RoomRow.roomCode = (r.ledger.code id).map RoomCode.value
  rows : ∀ p : PeerId, (db.peers[p]?).map PeerRow.member = R p
  present : ∀ (p : PeerId) (row : PeerRow), db.peers[p]? = some row → row.leftAt = none
  keys : ∀ p : PeerId, keys[p]? = (R p).map Member.publicKey
  tunnels : ∀ (k : String) (a : Option VirtualIp), wg.allowedIp[k]? = some a ↔
    ∃ p m, R p = some m ∧ m.publicKey = k ∧ a = some m.virtualIp
  distinct : ∀ p q m n, R p = some m → R q = some n → m.publicKey = n.publicKey → p = q
  valid : ∀ p m, R p = some m → WireGuard.validatePublicKey base64 m.publicKey = .ok ()

namespace Represents

variable {base64 : String → Option (List UInt8)} {r r' : RoomRouter} {db : Database} {wg : WireGuard}
  {keys : ExtTreeMap PeerId String} {R : Registry} {p : PeerId} {m : Member} {peer : PeerState} {o : WalkOrder}
  {now : Instant} {dbNow : Timestamp}

theorem empty {config : RouterConfig} : Represents base64 (RoomRouter.new config) .empty .empty ∅ fun _ => none where
  router := new_wf config
  places := fun p => by simp [place, RoomRouter.new]
  rooms := fun id => by simp [Database.empty, ledger, RoomRouter.new]
  rows := fun p => by simp [Database.empty]
  present := fun p row h => by simp [Database.empty] at h
  keys := fun p => by simp
  tunnels := fun k a => by simp [WireGuard.empty]
  distinct := fun p q m n h => by simp at h
  valid := fun p m h => by simp at h

theorem member (h : Represents base64 r db wg keys R) (hp : r.peers[p]? = some peer) :
    ∃ m, R p = some m ∧ m.roomId = peer.roomId ∧ m.virtualIp = peer.virtualIp := by
  have hplace := h.places p
  rw [place, hp, Option.map_some] at hplace
  obtain ⟨m, hm, e⟩ := Option.map_eq_some_iff.1 hplace.symm
  rw [Prod.mk.injEq] at e
  exact ⟨m, hm, e⟩

theorem absent (h : Represents base64 r db wg keys R) (hp : r.peers[p]? = none) : R p = none := by
  have hplace := h.places p
  rw [place_eq_none.2 hp] at hplace
  exact Option.map_eq_none_iff.1 hplace.symm

theorem row (h : Represents base64 r db wg keys R) {row : PeerRow} (hrow : db.peers[p]? = some row) :
    R p = some row.member := by
  rw [← h.rows, hrow]; rfl

theorem room (h : Represents base64 r db wg keys R) {id : RoomId} {room : RoomState} (hr : r.rooms[id]? = some room) :
    ∃ row : RoomRow, db.rooms[id]? = some row ∧ row.roomCode = room.code.value := by
  have hid : _ = ((r.rooms[id]?).map RoomState.code).map RoomCode.value := h.rooms id
  rw [hr] at hid
  exact Option.map_eq_some_iff.1 hid

/-! ## Moves of the router alone -/

/-- The router may change as long as everybody stays in place and the rooms keep their codes. -/
theorem edit (h : Represents base64 r db wg keys R) (hw : r'.WF) (hplace : r'.place = r.place)
    (hcode : r'.ledger.code = r.ledger.code) : Represents base64 r' db wg keys R where
  router := hw
  places := fun p => by rw [hplace]; exact h.places p
  rooms := fun id => by rw [hcode]; exact h.rooms id
  rows := h.rows
  present := h.present
  keys := h.keys
  tunnels := h.tunnels
  distinct := h.distinct
  valid := h.valid

/-! ## Rooms -/

/-- The database takes the room that the router took. -/
theorem insertRoom (h : Represents base64 r db wg keys R) {id : RoomId} {code : RoomCode}
    (dbNow : Timestamp) (hid : r.rooms[id]? = none) (hcode : r.roomsByCode[code]? = none) :
    ∃ db', db.insertRoom id code dbNow = .ok db' ∧
      Represents base64 { r with
        rooms := r.rooms.insert id { code, members := ∅, hostSessions := ∅ }
        roomsByCode := r.roomsByCode.insert code id } db' wg keys R := by
  have hnone : db.rooms[id]? = none := by
    have hrow : _ = ((r.rooms[id]?).map RoomState.code).map RoomCode.value := h.rooms id
    rw [hid] at hrow
    exact Option.map_eq_none_iff.1 hrow
  have hfree : anyRow (fun row => row.roomCode = code.value) db.rooms = false := by
    rw [Bool.eq_false_iff]
    intro hany
    obtain ⟨k, row, hk, he⟩ := anyRow_eq_true.1 hany
    have hrow := h.rooms k
    rw [hk, Option.map_some] at hrow
    obtain ⟨code', hcode', e⟩ := Option.map_eq_some_iff.1 hrow.symm
    obtain ⟨room, hroom, rfl⟩ := Option.map_eq_some_iff.1 hcode'
    have hsame : room.code = code := by
      have hv := of_decide_eq_true he
      rw [← e] at hv
      cases hc : room.code; cases code; rw [hc] at hv; cases hv; rfl
    have hfind := h.router.codes.find hroom
    rw [hsame, hcode] at hfind
    cases hfind
  refine
    ⟨{ db with rooms := db.rooms.insert id { roomCode := code.value, createdAt := dbNow, expiresAt := none } }, ?_, ?_⟩
  · unfold Database.insertRoom
    rw [contains_eq_false.2 hnone, hfree]
    rfl
  · exact {
      router := h.router.addRoom hid hcode
      places := h.places
      rooms := fun id' => by
        show ((db.rooms.insert id _)[id']?).map _ = (((r.rooms.insert id _)[id']?).map RoomState.code).map _
        by_cases e : id = id'
        · subst e
          rw [ExtTreeMap.getElem?_insert_self, ExtTreeMap.getElem?_insert_self]
          rfl
        · rw [getElem?_insert_ne e, getElem?_insert_ne e]
          exact h.rooms id'
      rows := h.rows
      present := h.present
      keys := h.keys
      tunnels := h.tunnels
      distinct := h.distinct
      valid := h.valid }

/-- An empty room has no rows to cascade to. -/
theorem deleteRoom (h : Represents base64 r db wg keys R) {id : RoomId} {room : RoomState}
    (hr : r.rooms[id]? = some room) (hm : room.members = ∅) (hs : room.hostSessions = ∅) :
    Represents base64 { r with rooms := r.rooms.erase id, roomsByCode := r.roomsByCode.erase room.code }
      (db.deleteRoom id) wg keys R := by
  have hother : ∀ (p : PeerId) (row : PeerRow), db.peers[p]? = some row → row.roomId ≠ id := by
    rintro p row hrow rfl
    have hplace := h.places p
    rw [h.row hrow, Option.map_some] at hplace
    obtain ⟨peer, hp, hroom, -⟩ := place_eq_some.1 hplace
    have hmem := (h.router.member_iff hr).2 ⟨peer, hp, hroom⟩
    rw [hm] at hmem
    exact ExtTreeSet.not_mem_empty hmem
  have hpeers : (db.deleteRoom id).peers = db.peers := by
    refine ExtTreeMap.ext_getElem? fun p => Option.ext fun row => ?_
    show (db.peers.filter _)[p]? = some row ↔ _
    rw [getElem?_filter_eq_some]
    exact ⟨And.left, fun hrow => ⟨hrow, decide_eq_true (hother p row hrow)⟩⟩
  exact {
    router := h.router.dropRoom hr hm hs
    places := h.places
    rooms := fun id' => by
      show ((db.rooms.erase id)[id']?).map _ = (((r.rooms.erase id)[id']?).map RoomState.code).map _
      by_cases e : id = id'
      · subst e
        rw [ExtTreeMap.getElem?_erase_self, ExtTreeMap.getElem?_erase_self]
        rfl
      · rw [getElem?_erase_ne e, getElem?_erase_ne e]
        exact h.rooms id'
    rows := by rw [hpeers]; exact h.rows
    present := by rw [hpeers]; exact h.present
    keys := h.keys
    tunnels := h.tunnels
    distinct := h.distinct
    valid := h.valid }

/-! ## Peers -/

/-- Nobody else in the registry has the address of a peer that is about to be entered. -/
theorem address_free (h : Represents base64 r db wg keys R) {ip : VirtualIp} (hip : r.virtualIps[ip]? = none)
    (hp : R p = some m) : m.virtualIp ≠ ip := by
  have hplace := h.places p
  rw [hp, Option.map_some] at hplace
  obtain ⟨peer, hpeer, -, e⟩ := place_eq_some.1 hplace
  rw [← e]
  exact (h.router.addresses.none_iff ip).1 hip p peer hpeer

/-- The database takes a peer that the router took, under a public key it does not have. -/
theorem insertPeer (h : Represents base64 r db wg keys R) (dbNow : Timestamp) {room : RoomState}
    (hr : r.rooms[m.roomId]? = some room) (hp : r.peers[p]? = none) (hip : r.virtualIps[m.virtualIp]? = none)
    (hkey : ∀ q n, R q = some n → n.publicKey ≠ m.publicKey) :
    db.insertPeer m.roomId p m.virtualIp m.publicKey dbNow =
      .ok { db with peers := db.peers.insert p (m.row dbNow) } := by
  have h1 : db.peers[p]? = none := by
    have hrow := h.rows p
    rw [h.absent hp] at hrow
    exact Option.map_eq_none_iff.1 hrow
  have h2 : anyRow (fun row => row.virtualIp = m.virtualIp) db.peers = false := by
    rw [Bool.eq_false_iff]
    intro hany
    obtain ⟨q, row, hq, he⟩ := anyRow_eq_true.1 hany
    exact h.address_free hip (h.row hq) (of_decide_eq_true he)
  have h3 : anyRow (fun row => row.wireguardPublicKey = m.publicKey) db.peers = false := by
    rw [Bool.eq_false_iff]
    intro hany
    obtain ⟨q, row, hq, he⟩ := anyRow_eq_true.1 hany
    exact hkey q _ (h.row hq) (of_decide_eq_true he)
  obtain ⟨row, hrow, -⟩ := h.room hr
  have h4 : db.rooms.contains m.roomId = true := by
    rw [ExtTreeMap.contains_eq_isSome_getElem?, hrow]; rfl
  unfold Database.insertPeer
  rw [contains_eq_false.2 h1, h2, h3, h4]
  rfl

/-- What WireGuard lists once a peer at a free address is added under a key it does not have. -/
theorem setPeer (h : Represents base64 r db wg keys R) (hp : R p = none) (hip : r.virtualIps[m.virtualIp]? = none)
    (hkey : ∀ q n, R q = some n → n.publicKey ≠ m.publicKey) (k : String) (a : Option VirtualIp) :
    (wg.setPeer m.publicKey m.virtualIp).allowedIp[k]? = some a ↔
      ∃ q n, R.enrol p m q = some n ∧ n.publicKey = k ∧ a = some n.virtualIp := by
  have hkeep : ∀ b : Option VirtualIp, wg.allowedIp[k]? = some b → b.filter (fun ip => ip ≠ m.virtualIp) = b := by
    intro b hb
    obtain ⟨q, n, hq, -, rfl⟩ := (h.tunnels k b).1 hb
    exact Option.filter_some_pos (decide_eq_true (h.address_free hip hq))
  unfold WireGuard.setPeer
  by_cases e : m.publicKey = k
  · subst e
    rw [ExtTreeMap.getElem?_insert_self, Option.some.injEq]
    constructor
    · rintro rfl
      exact ⟨p, m, Registry.enrol_eq_some.2 (Or.inl ⟨rfl, rfl⟩), rfl, rfl⟩
    · rintro ⟨q, n, hq, hk, rfl⟩
      rcases Registry.enrol_eq_some.1 hq with ⟨-, rfl⟩ | ⟨-, hq⟩
      · rfl
      · exact absurd hk (hkey q n hq)
  · rw [getElem?_insert_ne e, ExtTreeMap.getElem?_map]
    constructor
    · intro ha
      obtain ⟨b, hb, rfl⟩ := Option.map_eq_some_iff.1 ha
      rw [hkeep b hb]
      obtain ⟨q, n, hq, hk, rfl⟩ := (h.tunnels k b).1 hb
      refine ⟨q, n, Registry.enrol_eq_some.2 (Or.inr ⟨?_, hq⟩), hk, rfl⟩
      rintro rfl
      rw [hp] at hq
      cases hq
    · rintro ⟨q, n, hq, hk, rfl⟩
      rcases Registry.enrol_eq_some.1 hq with ⟨-, rfl⟩ | ⟨-, hq⟩
      · exact absurd hk e
      · have hb := (h.tunnels k (some n.virtualIp)).2 ⟨q, n, hq, hk, rfl⟩
        rw [hb, Option.map_some, hkeep _ hb]

/-- A peer is entered in all four stores. -/
theorem enrol (h : Represents base64 r db wg keys R) {room : RoomState} (hr : r.rooms[m.roomId]? = some room)
    (hp : r.peers[p]? = none) (hip : r.virtualIps[m.virtualIp]? = none)
    (hkey : ∀ q n, R q = some n → n.publicKey ≠ m.publicKey)
    (hvalid : WireGuard.validatePublicKey base64 m.publicKey = .ok ()) :
    Represents base64 (r.joined m.roomId p m.virtualIp now) { db with peers := db.peers.insert p (m.row dbNow) }
      (wg.setPeer m.publicKey m.virtualIp) (keys.insert p m.publicKey) (R.enrol p m) where
  router := h.router.joined hr hp hip
  places := fun q => by
    rw [place_joined, Registry.enrol]
    by_cases e : q = p
    · subst e; simp
    · simp only [Function.update_of_ne e]; exact h.places q
  rooms := fun id => by rw [code_joined]; exact h.rooms id
  rows := fun q => by
    rw [Registry.enrol]
    by_cases e : q = p
    · subst e
      rw [ExtTreeMap.getElem?_insert_self, Function.update_self]
      rfl
    · rw [getElem?_insert_ne (Ne.symm e), Function.update_of_ne e]
      exact h.rows q
  present := fun q row hq => by
    rw [ExtTreeMap.getElem?_insert] at hq
    split at hq
    · cases hq; rfl
    · exact h.present q row hq
  keys := fun q => by
    rw [Registry.enrol]
    by_cases e : q = p
    · subst e
      rw [ExtTreeMap.getElem?_insert_self, Function.update_self]
      rfl
    · rw [getElem?_insert_ne (Ne.symm e), Function.update_of_ne e]
      exact h.keys q
  tunnels := h.setPeer (h.absent hp) hip hkey
  distinct := fun q q' n n' hq hq' he => by
    rcases Registry.enrol_eq_some.1 hq with ⟨e₁, e₂⟩ | ⟨-, hR⟩ <;>
      rcases Registry.enrol_eq_some.1 hq' with ⟨e₁', e₂'⟩ | ⟨-, hR'⟩
    · rw [e₁, e₁']
    · rw [e₂] at he; exact absurd he.symm (hkey q' n' hR')
    · rw [e₂'] at he; exact absurd he (hkey q n hR)
    · exact h.distinct q q' n n' hR hR' he
  valid := fun q n hq => by
    rcases Registry.enrol_eq_some.1 hq with ⟨-, rfl⟩ | ⟨-, hq⟩
    · exact hvalid
    · exact h.valid q n hq

/-- A peer is struck off in all four stores. -/
theorem strike (h : Represents base64 r db wg keys R) (hp : r.peers[p]? = some peer) (hm : R p = some m) :
    Represents base64 (without o r p peer) (db.deletePeer p) (wg.unsetPeer m.publicKey) (keys.erase p)
      (R.strike p) where
  router := h.router.without o hp
  places := fun q => by
    rw [place_without h.router hp, Registry.strike]
    by_cases e : q = p
    · subst e; simp
    · simp only [Function.update_of_ne e]; exact h.places q
  rooms := fun id => by rw [code_without h.router hp]; exact h.rooms id
  rows := fun q => by
    show ((db.peers.erase p)[q]?).map _ = _
    rw [Registry.strike]
    by_cases e : q = p
    · subst e
      rw [ExtTreeMap.getElem?_erase_self, Function.update_self]
      rfl
    · rw [getElem?_erase_ne (Ne.symm e), Function.update_of_ne e]
      exact h.rows q
  present := fun q row hq => by
    have hq' : (db.peers.erase p)[q]? = some row := hq
    rw [ExtTreeMap.getElem?_erase] at hq'
    split at hq'
    · cases hq'
    · exact h.present q row hq'
  keys := fun q => by
    rw [Registry.strike]
    by_cases e : q = p
    · subst e
      rw [ExtTreeMap.getElem?_erase_self, Function.update_self]
      rfl
    · rw [getElem?_erase_ne (Ne.symm e), Function.update_of_ne e]
      exact h.keys q
  tunnels := fun k a => by
    show (wg.allowedIp.erase m.publicKey)[k]? = some a ↔ _
    by_cases e : m.publicKey = k
    · subst e
      rw [ExtTreeMap.getElem?_erase_self]
      refine ⟨nofun, ?_⟩
      rintro ⟨q, n, hq, hk, -⟩
      obtain ⟨hne, hq⟩ := Registry.strike_eq_some.1 hq
      exact absurd (h.distinct q p n m hq hm hk) hne
    · rw [getElem?_erase_ne e, h.tunnels]
      constructor
      · rintro ⟨q, n, hq, hk, ha⟩
        refine ⟨q, n, Registry.strike_eq_some.2 ⟨?_, hq⟩, hk, ha⟩
        rintro rfl
        rw [hm] at hq
        cases hq
        exact e hk
      · rintro ⟨q, n, hq, hk, ha⟩
        exact ⟨q, n, (Registry.strike_eq_some.1 hq).2, hk, ha⟩
  distinct := fun q q' n n' hq hq' he =>
    h.distinct q q' n n' (Registry.strike_eq_some.1 hq).2 (Registry.strike_eq_some.1 hq').2 he
  valid := fun q n hq => h.valid q n (Registry.strike_eq_some.1 hq).2

end Represents

end Civ6LanBridge

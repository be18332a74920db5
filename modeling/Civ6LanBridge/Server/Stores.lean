/-
The four places where the server keeps its peers (router, database, WireGuard and public keys), and
what each call of a handler does to them.
-/
import Civ6LanBridge.Router.Membership
import Civ6LanBridge.Router.Runs
import Civ6LanBridge.Server.Api

namespace Civ6LanBridge

open Std FinMap Bytes RoomRouter

@[ext] structure Stores where
  router : RoomRouter
  database : Option Database
  wireguard : Option WireGuard
  peerKeys : ExtTreeMap PeerId String

theorem rel_eq_map {α β : Type} {r : α → β → Prop} {f : α → β} (hf : ∀ a b, r a b → b = f a) {x : Option α}
    {y : Option β} (h : Option.Rel r x y) : y = x.map f := by
  cases h with
  | some hr => exact congrArg some (hf _ _ hr)
  | none => rfl

namespace AppState

variable {s : AppState} {caller : Caller} {code : String} {roomId : RoomId} {peerId : PeerId} {ip : VirtualIp}
  {roomCode : RoomCode} {now : Instant} {base64 : String → Option (List UInt8)} {weather : Weather} {o : WalkOrder}

def stores (s : AppState) : Stores :=
  { router := s.router, database := s.database, wireguard := s.wireguard, peerKeys := s.peerKeys }

/-- The call yields the result and leaves a state with these stores. -/
def Leaves {α : Type} (x : α × AppState) (a : α) (stores : Stores) : Prop := ∃ s', x = (a, s') ∧ s'.stores = stores

/-! ## Authorization touches no store -/

theorem limitToken_stores (s : AppState) (token : String) (now : Instant) :
    (s.limitToken token now).2.stores = s.stores := by
  unfold limitToken; split <;> rfl

theorem requireBearer_leaves (s : AppState) (caller : Caller) :
    ∃ res, Leaves (s.requireBearer caller) res s.stores := by
  unfold requireBearer
  split
  · exact ⟨_, s, rfl, rfl⟩
  split
  · exact ⟨_, _, rfl, limitToken_stores s _ _⟩
  dsimp only
  split
  · exact ⟨_, _, rfl, rfl⟩
  · exact ⟨_, _, rfl, limitToken_stores _ _ _⟩

theorem authorizeRoom_leaves (s : AppState) (caller : Caller) (code : String) :
    ∃ res, Leaves (s.authorizeRoom caller code) res s.stores := by
  obtain ⟨res, s', hb, hs⟩ := requireBearer_leaves s caller
  unfold authorizeRoom
  rw [hb]
  cases res with
  | error e => exact ⟨_, s', rfl, hs⟩
  | ok _ => exact ⟨_, s', rfl, hs⟩

theorem checkJoin_leaves (base64 : String → Option (List UInt8)) (s : AppState) (caller : Caller) (code : String)
    (payload : JoinRoomRequest) : ∃ res, Leaves (s.checkJoin base64 caller code payload) res s.stores := by
  obtain ⟨res, s', hb, hs⟩ := authorizeRoom_leaves s caller code
  unfold checkJoin
  rw [hb]
  cases res with
  | error e => exact ⟨_, s', rfl, hs⟩
  | ok roomCode =>
    dsimp only
    split
    · split <;> exact ⟨_, s', rfl, hs⟩
    · split <;> exact ⟨_, s', rfl, hs⟩

/-- A join passes its checks with a public key that is valid, or with none where none is required. -/
theorem checkJoin_ok {payload : JoinRoomRequest} {s' : AppState}
    (h : s.checkJoin base64 caller code payload = (.ok roomCode, s')) :
    (∃ key, payload.wireguardPublicKey = some key ∧ WireGuard.validatePublicKey base64 key = .ok ()) ∨
      payload.wireguardPublicKey = none ∧ s'.database = none ∧ s'.wireguard = none := by
  unfold checkJoin at h
  split at h
  · cases h
  split at h
  · rename_i hkey
    split at h
    · cases h
    rename_i hreq
    cases h
    simp only [keyRequired, Bool.or_eq_true, not_or, Bool.not_eq_true, Option.isSome_eq_false_iff,
      Option.isNone_iff_eq_none] at hreq
    exact Or.inr ⟨hkey, hreq⟩
  · rename_i key hkey
    split at h
    · cases h
    · rename_i hvalid
      exact Or.inl ⟨key, hkey, hvalid⟩

/-! ## Calls to the router -/

theorem routed_err {α : Type} {e : RouterError} (s : AppState) (call : RoomRouter → Outcome α)
    (h : call s.router = .err e s.router) : s.routed call = (.error (.error (.ofRouter e)), s) := by
  unfold routed; rw [h]; rfl

theorem routed_ok {α : Type} {a : α} {r : RoomRouter} (s : AppState) (call : RoomRouter → Outcome α)
    (h : call s.router = .ok a r) : Leaves (s.routed call) (.ok a) { s.stores with router := r } := by
  unfold routed; rw [h]; exact ⟨_, rfl, rfl⟩

/-- Creating a room fails and changes nothing, or adds a room with a new identifier and a new code. -/
theorem createRoom_cases (s : AppState) (roomCode : RoomCode) (fresh : RoomId) :
    (∃ e, s.createRoom roomCode fresh = (.error e, s)) ∨
      s.router.roomsByCode[roomCode]? = none ∧ s.router.rooms[fresh]? = none ∧ Leaves (s.createRoom roomCode fresh)
        (.ok { roomId := fresh, code := roomCode, memberCount := 0, hostCount := 0 })
          { s.stores with router := { s.router with
          rooms := s.router.rooms.insert fresh { code := roomCode, members := ∅, hostSessions := ∅ }
          roomsByCode := s.router.roomsByCode.insert roomCode fresh } } := by
  unfold AppState.createRoom
  obtain ⟨e, he⟩ | ⟨r', he, heff⟩ := createRoomWithId_does (o := .sorted) (r := s.router) fresh roomCode
  · have hc : s.router.createRoom roomCode fresh = .err e s.router := by rw [RoomRouter.createRoom, he]; rfl
    rw [routed_err s (·.createRoom roomCode fresh) hc]
    exact Or.inl ⟨_, rfl⟩
  · have hc : s.router.createRoom roomCode fresh = .ok fresh r' := by rw [RoomRouter.createRoom, he]; rfl
    obtain ⟨s', hs', hstores⟩ := routed_ok s (·.createRoom roomCode fresh) hc
    cases heff with
    | createRoom _ hcode hroom =>
      refine Or.inr ⟨hcode, hroom, s', ?_, hstores⟩
      have hr : s'.router = _ := congrArg Stores.router hstores
      rw [hs']
      simp only [hr, roomSnapshot, ExtTreeMap.getElem?_insert_self, Except.mapError]
      rfl

/-- The room exists, the address can be had, and the router takes the peer in. -/
structure Admits (s : AppState) (roomCode : RoomCode) (peerId : PeerId) (requested : Option VirtualIp) (now : Instant)
    (roomId : RoomId) (ip : VirtualIp) : Prop where
  room : s.router.roomIdForCode roomCode = some roomId
  address : s.chooseAddress requested = .ok ip
  joins : (s.router.joinRoom roomId peerId ip now).1 = .ok ()

theorem Admits.joined {requested : Option VirtualIp} (h : s.Admits roomCode peerId requested now roomId ip) :
    (∃ room, s.router.rooms[roomId]? = some room) ∧ s.router.peers[peerId]? = none ∧ s.router.virtualIps[ip]? = none ∧
      s.router.joinRoom roomId peerId ip now = .ok () (s.router.joined roomId peerId ip now) := by
  obtain ⟨e, he⟩ | hj := joinRoom_cases s.router roomId peerId ip now
  · have hjoins := h.joins
    rw [he] at hjoins
    cases hjoins
  · exact hj

theorem Admits.enterRoom {requested : Option VirtualIp} (h : s.Admits roomCode peerId requested now roomId ip) :
    Leaves (s.enterRoom roomCode peerId requested now) (.ok { roomId, peerId, virtualIp := ip, connectionEpoch := 1 })
      { s.stores with router := s.router.joined roomId peerId ip now } := by
  obtain ⟨-, -, -, hj⟩ := h.joined
  obtain ⟨s', hs', hstores⟩ := routed_ok s (·.joinRoom roomId peerId ip now) hj
  have hr : s'.router = _ := congrArg Stores.router hstores
  have hroom : s.roomOfCode roomCode = .ok roomId := by unfold roomOfCode; rw [h.room]
  refine ⟨s', ?_, hstores⟩
  unfold AppState.enterRoom
  simp only [hroom, h.address, hs', hr, peerConnectionEpoch, joined_peer]

/-- Admission fails and changes nothing, or admits. -/
theorem enterRoom_cases (s : AppState) (roomCode : RoomCode) (peerId : PeerId) (requested : Option VirtualIp)
    (now : Instant) :
    (∃ e, s.enterRoom roomCode peerId requested now = (.error e, s)) ∨
      ∃ roomId ip, s.Admits roomCode peerId requested now roomId ip := by
  unfold enterRoom roomOfCode
  split
  · exact Or.inl ⟨_, rfl⟩
  rename_i roomId hroom
  split at hroom
  · cases hroom
  rename_i hcode
  cases hroom
  split
  · exact Or.inl ⟨_, rfl⟩
  rename_i ip hip
  obtain ⟨e, he⟩ | ⟨-, -, -, he⟩ := joinRoom_cases s.router roomId peerId ip now
  · rw [routed_err s (·.joinRoom roomId peerId ip now) he]
    exact Or.inl ⟨_, rfl⟩
  · exact Or.inr ⟨roomId, ip, hcode, hip, by rw [he]; rfl⟩

/-- Resuming fails and changes nothing, or resumes some peer. -/
theorem resume_cases (s : AppState) (roomCode : RoomCode) (peerId : Option PeerId) (now : Instant) :
    (∃ e, s.resume roomCode peerId now = (.error e, s)) ∨
      ∃ peer p, Leaves (s.resume roomCode peerId now) (.ok peer)
        { s.stores with router := s.router.resuming p now } := by
  unfold resume
  split
  · exact Or.inl ⟨_, rfl⟩
  · exact Or.inl ⟨_, rfl⟩
  rename_i roomId p _
  obtain ⟨e, he⟩ | ⟨snapshot, he⟩ := resumePeer_cases s.router roomId p now
  · rw [routed_err s (·.resumePeer roomId p now) he]; exact Or.inl ⟨_, rfl⟩
  · obtain ⟨s', hs', hstores⟩ := routed_ok s (·.resumePeer roomId p now) he
    rw [hs']
    exact Or.inr ⟨_, p, s', rfl, hstores⟩

/-- Leaving fails and changes nothing, or removes a peer of the room. -/
theorem leave_cases (h : s.router.WF) (o : WalkOrder) (roomId : RoomId) (peerId : PeerId) :
    (∃ e, s.routed (fun r => leaveRoom o r roomId peerId) = (.error (.error e), s)) ∨
      ∃ peer, s.router.peers[peerId]? = some peer ∧ peer.roomId = roomId ∧
        Leaves (s.routed fun r => leaveRoom o r roomId peerId) (.ok ())
          { s.stores with router := without o s.router peerId peer } := by
  obtain ⟨e, he⟩ | ⟨peer, hp, hroom, he⟩ := leaveRoom_cases o h roomId peerId
  · exact Or.inl ⟨_, routed_err s _ he⟩
  · exact Or.inr ⟨peer, hp, hroom, routed_ok s _ he⟩

/-- Whoever is found to be deleted is registered in the room, at the address. -/
theorem findPeer_ok {found : RoomId × VirtualIp} (h : s.findPeer roomCode peerId = .ok found) :
    s.router.place peerId = some found := by
  unfold findPeer at h
  split at h
  · cases h
  split at h
  · cases h
  rename_i roomId' hroom
  split at h
  · cases h
  rename_i he
  split at h
  · cases h
  rename_i ip hip
  cases h
  obtain ⟨peer, hp, rfl⟩ := Option.map_eq_some_iff.1 hroom
  obtain ⟨peer', hp', rfl⟩ := Option.map_eq_some_iff.1 hip
  rw [hp] at hp'
  cases hp'
  rw [place, hp, ← not_not.1 he]
  rfl

theorem findEmptyRoom_ok (h : s.findEmptyRoom roomCode = .ok roomId) :
    ∃ room, s.router.rooms[roomId]? = some room ∧ room.members = ∅ ∧ room.hostSessions = ∅ := by
  unfold findEmptyRoom at h
  split at h
  · cases h
  split at h
  · cases h
  rename_i snapshot hs
  split at h
  · cases h
  rename_i hzero
  cases h
  unfold roomSnapshot at hs
  split at hs
  · cases hs
  rename_i room hr
  cases hs
  rw [not_or, not_not, not_not] at hzero
  exact ⟨room, hr, ExtTreeSet.eq_empty_iff_size_eq_zero.2 hzero.1, ExtTreeSet.eq_empty_iff_size_eq_zero.2 hzero.2⟩

/-! ## Calls to the database and to `wg` -/

theorem execute_ok {failure : Option SqlError} {statement : Database → Except SqlError Database} {db db' : Database}
    (hdb : s.stores.database = some db) (hf : failure = none) (hs : statement db = .ok db') :
    Leaves (s.execute failure statement) (.ok ()) { s.stores with database := some db' } := by
  have hdb' : s.database = some db := hdb
  unfold execute
  rw [hdb', hf]
  simp only [hs]
  exact ⟨_, rfl, rfl⟩

theorem command_ok {run : WireGuard → Except WireGuardError WireGuard} {wg wg' : WireGuard}
    (hwg : s.stores.wireguard = some wg) (hr : run wg = .ok wg') :
    Leaves (s.command run) (.ok ()) { s.stores with wireguard := some wg' } := by
  have hwg' : s.wireguard = some wg := hwg
  unfold command
  rw [hwg']
  simp only [hr]
  exact ⟨_, rfl, rfl⟩

theorem execute_none {failure : Option SqlError} {statement : Database → Except SqlError Database}
    (hdb : s.stores.database = none) : s.execute failure statement = (.ok (), s) := by
  have hdb' : s.database = none := hdb
  unfold execute; rw [hdb']

theorem command_none {run : WireGuard → Except WireGuardError WireGuard} (hwg : s.stores.wireguard = none) :
    s.command run = (.ok (), s) := by
  have hwg' : s.wireguard = none := hwg
  unfold command; rw [hwg']

/-- A statement that fails changes nothing. -/
theorem execute_error {failure : Option SqlError} {statement : Database → Except SqlError Database} {e : SqlError}
    {s' : AppState} (h : s.execute failure statement = (.error e, s')) : s' = s := by
  unfold execute at h
  split at h
  · cases h
  · cases h; rfl
  · split at h
    · cases h; rfl
    · cases h

/-- What a call that went through has done. -/
theorem execute_done {failure : Option SqlError} {statement : Database → Except SqlError Database} {s' : AppState}
    (h : s.execute failure statement = (.ok (), s')) : s'.stores = { s.stores with database := s'.database } ∧
      Option.Rel (fun db db' => statement db = .ok db') s.database s'.database := by
  unfold execute at h
  split at h
  · rename_i hdb
    cases h
    rw [hdb]
    exact ⟨by rw [← hdb]; rfl, .none⟩
  · cases h
  · rename_i db hdb
    split at h
    · cases h
    · rename_i db' hs
      cases h
      rw [hdb]
      exact ⟨rfl, .some hs⟩

theorem command_done {run : WireGuard → Except WireGuardError WireGuard} {s' : AppState}
    (h : s.command run = (.ok (), s')) :
    s'.stores = { s.stores with wireguard := s'.wireguard } ∧
      Option.Rel (fun wg wg' => run wg = .ok wg') s.wireguard s'.wireguard := by
  unfold command at h
  split at h
  · rename_i hwg
    cases h
    rw [hwg]
    exact ⟨by rw [← hwg]; rfl, .none⟩
  · rename_i wg hwg
    split at h
    · cases h
    · rename_i wg' hr
      cases h
      rw [hwg]
      exact ⟨rfl, .some hr⟩

/-- A statement that cannot be refused. -/
theorem execute_done_total {failure : Option SqlError} {f : Database → Database} {s' : AppState}
    (h : s.execute failure (fun db => .ok (f db)) = (.ok (), s')) :
    s'.stores = { s.stores with database := s.stores.database.map f } := by
  rcases execute_done h with ⟨hs, hrel⟩
  rw [hs, rel_eq_map (fun _ _ e => (Except.ok.inj e).symm) hrel]
  rfl

end AppState

theorem WireGuard.addPeer_ok {base64 : String → Option (List UInt8)} {wg : WireGuard} {key : String} {ip : VirtualIp}
    (h : validatePublicKey base64 key = .ok ()) : wg.addPeer base64 none key ip = .ok (wg.setPeer key ip) := by
  unfold addPeer; rw [h]

theorem WireGuard.removePeer_ok {base64 : String → Option (List UInt8)} {wg : WireGuard} {key : String}
    (h : validatePublicKey base64 key = .ok ()) : wg.removePeer base64 none key = .ok (wg.unsetPeer key) := by
  unfold removePeer; rw [h]

/-! ## Calls that go through -/

namespace AppState

variable {s : AppState} {db db' : Database} {wg : WireGuard} {roomId : RoomId} {peerId : PeerId} {ip : VirtualIp}
  {key : String} {base64 : String → Option (List UInt8)} (weather : Weather)

theorem dbInsertRoom_ok {roomCode : RoomCode} (hdb : s.stores.database = some db) (hw : weather.insertRoom = none)
    (hi : db.insertRoom roomId roomCode weather.dbNow = .ok db') :
    Leaves (s.dbInsertRoom weather roomId roomCode) (.ok ()) { s.stores with database := some db' } :=
  execute_ok hdb hw hi

theorem dbDeleteRoom_ok (roomId : RoomId) (hdb : s.stores.database = some db) (hw : weather.deleteRoom = none) :
    Leaves (s.dbDeleteRoom weather roomId) (.ok ()) { s.stores with database := some (db.deleteRoom roomId) } :=
  execute_ok hdb hw rfl

theorem dbInsertPeer_ok (hdb : s.stores.database = some db) (hw : weather.insertPeer = none)
    (hi : db.insertPeer roomId peerId ip key weather.dbNow = .ok db') :
    Leaves (s.dbInsertPeer weather roomId peerId ip key) (.ok ()) { s.stores with database := some db' } :=
  execute_ok hdb hw hi

theorem dbDeletePeer_ok (peerId : PeerId) (hdb : s.stores.database = some db) (hw : weather.deletePeer = none) :
    Leaves (s.dbDeletePeer weather peerId) (.ok ()) { s.stores with database := some (db.deletePeer peerId) } :=
  execute_ok hdb hw rfl

theorem wgAddPeer_ok (ip : VirtualIp) (hwg : s.stores.wireguard = some wg) (hw : weather.addPeer = none)
    (hvalid : WireGuard.validatePublicKey base64 key = .ok ()) :
    Leaves (s.wgAddPeer base64 weather key ip) (.ok ()) { s.stores with wireguard := some (wg.setPeer key ip) } :=
  command_ok hwg (by rw [hw]; exact WireGuard.addPeer_ok hvalid)

theorem wgRemovePeer_ok (hwg : s.stores.wireguard = some wg) (hw : weather.removePeer = none)
    (hvalid : WireGuard.validatePublicKey base64 key = .ok ()) :
    Leaves (s.wgRemovePeer base64 weather key) (.ok ()) { s.stores with wireguard := some (wg.unsetPeer key) } :=
  command_ok hwg (by rw [hw]; exact WireGuard.removePeer_ok hvalid)

end AppState

/-! ## A state to instantiate the results at -/

namespace Example

open RoomRouter.Example (code room peer ip)

/-- A server with one peer. -/
def serving : AppState :=
  { AppState.fresh bearerToken subnet with
    router := RoomRouter.Example.joined
    database := some {
      rooms := (∅ : ExtTreeMap RoomId RoomRow).insert room { roomCode := code.value, createdAt := 0, expiresAt := none }
      peers := (∅ : ExtTreeMap PeerId PeerRow).insert peer
        { roomId := room, virtualIp := ip, wireguardPublicKey := zeros, joinedAt := 0, leftAt := none } }
    wireguard := some { allowedIp := (∅ : ExtTreeMap String (Option VirtualIp)).insert zeros (some ip) }
    peerKeys := (∅ : ExtTreeMap PeerId String).insert peer zeros }

end Example

end Civ6LanBridge

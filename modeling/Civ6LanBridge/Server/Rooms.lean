/-
The rooms of the router and the rooms of the database, under requests that run side by side. Creating a room publishes
it in the router before it is written to the database, and deleting one takes it out of the database before the router
has the last word; other requests and sweeps leave the rooms alone.
-/
import Civ6LanBridge.Lib.Mirror
import Civ6LanBridge.Lib.Outline
import Civ6LanBridge.Server.Agreement

namespace Civ6LanBridge

open Std FinMap Bytes Past RoomRouter Prog Handler Mirror

namespace AppState

/-- The rooms that the router has. -/
def rooms (s : AppState) : Set RoomId := fun x => s.router.rooms[x]? ≠ none

/-- The rows of the table of rooms. -/
def rows (s : AppState) : Set RoomId := fun x => ∃ db, s.database = some db ∧ db.rooms[x]? ≠ none

variable {s s' : AppState} {x : RoomId}

theorem rooms_of_code (h : s'.router.ledger.code = s.router.ledger.code) : s'.rooms = s.rooms := by
  funext x
  have hx : (s'.router.rooms[x]?).map RoomState.code = (s.router.rooms[x]?).map RoomState.code := congrFun h x
  have hnone : s'.router.rooms[x]? = none ↔ s.router.rooms[x]? = none := by
    rw [← Option.map_eq_none_iff (f := RoomState.code), hx, Option.map_eq_none_iff]
  exact propext (not_congr hnone)

theorem rows_of_database (h : s'.database = s.database) : s'.rows = s.rows := by
  unfold rows
  rw [h]

theorem rows_eq {db : Database} (hdb : s.database = some db) : s.rows = fun x => db.rooms[x]? ≠ none := by
  funext x
  unfold rows
  rw [hdb]
  simp

end AppState

open AppState

/-! ## What spares the rooms -/

/-- The step leaves every room under its code, and every row of the table of rooms as it is. -/
structure Retains (s s' : AppState) : Prop where
  router : s.router.WF → s'.router.WF ∧ s'.router.ledger.code = s.router.ledger.code
  rows : s'.database.map Database.rooms = s.database.map Database.rooms

namespace Retains

variable {s s' : AppState}

theorem refl (s : AppState) : Retains s s := ⟨fun h => ⟨h, rfl⟩, rfl⟩

theorem of_router (hdb : s'.database = s.database)
    (hr : s.router.WF → s'.router.WF ∧ s'.router.ledger.code = s.router.ledger.code) : Retains s s' where
  router := hr
  rows := by rw [hdb]

theorem of_stores (h : s'.stores = s.stores) : Retains s s' := by
  have hr : s'.router = s.router := congrArg Stores.router h
  refine of_router (congrArg Stores.database h) ?_
  rw [hr]
  exact fun hw => ⟨hw, rfl⟩

/-- A statement about another table. -/
theorem execute {failure : Option SqlError} {statement : Database → Except SqlError Database}
    (hst : ∀ db db', statement db = .ok db' → db'.rooms = db.rooms) (s : AppState) :
    Retains s (s.execute failure statement).2 := by
  unfold AppState.execute
  split
  · exact .refl s
  · exact .refl s
  · rename_i db hdb
    split
    · exact .refl s
    · rename_i db' hdb'
      refine ⟨fun h => ⟨h, rfl⟩, ?_⟩
      rw [hdb]
      exact congrArg some (hst db db' hdb')

theorem command {run : WireGuard → Except WireGuardError WireGuard} (s : AppState) : Retains s (s.command run).2 := by
  unfold AppState.command
  split
  · exact .refl s
  split
  · exact .refl s
  · exact .of_router rfl fun hw => ⟨hw, rfl⟩

variable (s) (o : WalkOrder)

theorem leaveRoom (roomId : RoomId) (p : PeerId) :
    Retains s (s.routed fun r => RoomRouter.leaveRoom o r roomId p).2 := by
  refine of_router ?_ fun hw => ?_
  · unfold routed
    split <;> rfl
  rcases leave_cases (s := s) hw o roomId p with ⟨e, he⟩ | ⟨peer, hp, -, s', he, hs⟩
  · rw [he]
    exact ⟨hw, rfl⟩
  · rw [he]
    rw [show s'.router = _ from congrArg Stores.router hs]
    exact ⟨hw.without o hp, code_without hw hp⟩

theorem enterRoom (roomCode : RoomCode) (p : PeerId) (requested : Option VirtualIp) (now : Instant) :
    Retains s (s.enterRoom roomCode p requested now).2 := by
  rcases enterRoom_cases s roomCode p requested now with ⟨e, he⟩ | ⟨roomId, ip, hadmits⟩
  · rw [he]
    exact .refl s
  · rcases hadmits.joined with ⟨⟨room, hr⟩, hp, hip, -⟩
    rcases hadmits.enterRoom with ⟨s', he, hs⟩
    rw [he]
    refine of_router (congrArg Stores.database hs) fun hw => ?_
    rw [show s'.router = _ from congrArg Stores.router hs]
    exact ⟨hw.joined hr hp hip, code_joined⟩

theorem resume (roomCode : RoomCode) (p : Option PeerId) (now : Instant) : Retains s (s.resume roomCode p now).2 := by
  rcases resume_cases s roomCode p now with ⟨e, he⟩ | ⟨peer, q, s', he, hs⟩
  · rw [he]
    exact .refl s
  · rw [he]
    refine of_router (congrArg Stores.database hs) fun hw => ?_
    rw [show s'.router = _ from congrArg Stores.router hs]
    exact ⟨hw.resuming q now, rfl⟩

theorem sweep (now : Instant) : Retains s (s.sweep o now) :=
  of_router rfl fun hw => ⟨hw.expire o now, code_expire o hw now⟩

end Retains

/-- The step neither makes nor removes a room, in the router or in the database. -/
structure Spares (s s' : AppState) : Prop where
  router : s.router.WF → s'.router.WF ∧ s'.rooms = s.rooms
  rows : s'.rows = s.rows
  database : s'.database.isSome = s.database.isSome

theorem Retains.spares {s s' : AppState} (h : Retains s s') : Spares s s' where
  router := fun hw => (h.router hw).imp id rooms_of_code
  rows := by
    funext x
    have hmap : ∀ s : AppState, s.rows x = ∃ rooms, s.database.map Database.rooms = some rooms ∧ rooms[x]? ≠ none :=
      fun s => by
      unfold AppState.rows
      cases s.database <;> simp
    rw [hmap, hmap, h.rows]
  database := by rw [← Option.isSome_map (f := Database.rooms), h.rows, Option.isSome_map]

theorem Spares.refl (s : AppState) : Spares s s := (Retains.refl s).spares

theorem Spares.enterRoom (s : AppState) (roomCode : RoomCode) (p : PeerId) (requested : Option VirtualIp)
    (now : Instant) :
    Spares s (s.enterRoom roomCode p requested now).2 := (Retains.enterRoom s roomCode p requested now).spares

theorem Spares.sweep (s : AppState) (o : WalkOrder) (now : Instant) : Spares s (s.sweep o now) :=
  (Retains.sweep s o now).spares

/-! ## Requests all of whose calls are in a relation -/

/-- The relation has the calls that concern a peer that is in already, its row, its tunnel and its key. -/
structure Suits (R : AppState → AppState → Prop) : Prop where
  refl : ∀ s, R s s
  requireBearer : ∀ (s : AppState) (caller : Caller), R s (s.requireBearer caller).2
  execute : ∀ {failure : Option SqlError} {statement : Database → Except SqlError Database},
    (∀ db db', statement db = .ok db' → db'.rooms = db.rooms) → ∀ s : AppState, R s (s.execute failure statement).2
  command : ∀ {run : WireGuard → Except WireGuardError WireGuard} (s : AppState), R s (s.command run).2
  leaveRoom : ∀ (s : AppState) (o : WalkOrder) (roomId : RoomId) (p : PeerId),
    R s (s.routed fun r => RoomRouter.leaveRoom o r roomId p).2
  resume : ∀ (s : AppState) (roomCode : RoomCode) (p : Option PeerId) (now : Instant), R s (s.resume roomCode p now).2
  peerKeys : ∀ (s : AppState) (peerKeys : ExtTreeMap PeerId String), R s { s with peerKeys }

theorem Suits.mono {R R' : AppState → AppState → Prop} (h : Suits R) (hsub : ∀ {s s'}, R s s' → R' s s') :
    Suits R' where
  refl := fun s => hsub (h.refl s)
  requireBearer := fun s caller => hsub (h.requireBearer s caller)
  execute := fun hst s => hsub (h.execute hst s)
  command := fun s => hsub (h.command s)
  leaveRoom := fun s o roomId p => hsub (h.leaveRoom s o roomId p)
  resume := fun s roomCode p now => hsub (h.resume s roomCode p now)
  peerKeys := fun s peerKeys => hsub (h.peerKeys s peerKeys)

theorem Retains.suits : Suits Retains where
  refl := .refl
  requireBearer := fun s caller => by
    rcases requireBearer_leaves s caller with ⟨res, s', he, hs⟩
    rw [he]
    exact .of_stores hs
  execute := .execute
  command := .command
  leaveRoom := .leaveRoom
  resume := .resume
  peerKeys := fun _ _ => .of_router rfl fun hw => ⟨hw, rfl⟩

theorem Spares.suits : Suits Spares := Retains.suits.mono Retains.spares

namespace Suits

variable {R : AppState → AppState → Prop} {base64 : String → Option (List UInt8)} {weather : Weather} {o : WalkOrder}
  {s : AppState} {caller : Caller} {code : String} {payload : JoinRoomRequest} {now : Instant} {p : PeerId}

theorem authorizeRoom (hR : Suits R) (s : AppState) : R s (s.authorizeRoom caller code).2 := by
  have hb := hR.requireBearer s caller
  unfold AppState.authorizeRoom
  rcases he : s.requireBearer caller with ⟨_ | _, s'⟩ <;> rw [he] at hb <;> exact hb

theorem checkJoin (hR : Suits R) (s : AppState) : R s (s.checkJoin base64 caller code payload).2 := by
  have hb : R s (s.authorizeRoom caller code).2 := hR.authorizeRoom s
  unfold AppState.checkJoin
  rcases he : s.authorizeRoom caller code with ⟨_ | _, s'⟩ <;> rw [he] at hb
  · exact hb
  dsimp only
  split
  · split <;> exact hb
  · split <;> exact hb

theorem expectKey {ε : Type} {configured : Bool} {publicKey : Option String} {call : String → Except ε Unit × AppState}
    (hR : Suits R) (hcall : ∀ key, R s (call key).2) : R s (s.expectKey configured publicKey call).2 := by
  unfold AppState.expectKey
  split
  · exact hR.refl s
  · exact hR.refl s
  · exact hcall _

theorem withKey {ε : Type} {publicKey : Option String} {call : String → Except ε Unit × AppState}
    (hR : Suits R) (hcall : ∀ key, R s (call key).2) : R s (s.withKey publicKey call).2 := by
  unfold AppState.withKey
  split
  · exact hR.refl s
  · exact hcall _

theorem dbInsertPeer (hR : Suits R) {roomId : RoomId} {ip : VirtualIp} {key : String} (s : AppState) :
    R s (s.dbInsertPeer weather roomId p ip key).2 := by
  refine hR.execute (fun db db' h => ?_) s
  rcases Database.insertPeer_ok h with ⟨-, rfl⟩
  rfl

theorem dbDeletePeer (hR : Suits R) (s : AppState) : R s (s.dbDeletePeer weather p).2 :=
  hR.execute (fun db db' h => by cases h; rfl) s

/-- A request to join, once the router has the peer. -/
theorem joinTunnel (hR : Suits R) (publicKey : Option String) (peer : PeerResponse) :
    (Civ6LanBridge.joinTunnel base64 weather o publicKey peer).Keeps R := by
  have hleave : ∀ e : ApiError,
      (atomically .leaveRoom
        (fun s : AppState => s.routed fun r => RoomRouter.leaveRoom o r peer.roomId peer.peerId) fun _ =>
          (fail e : Handler PeerResponse)).Keeps R :=
    fun e => keeps_atomically (fun s => hR.leaveRoom s o _ _) fun _ => keeps_done _
  refine keeps_atomically (fun s => hR.expectKey fun key => hR.command s) fun res => ?_
  rcases res with (_ | e) | _
  · exact keeps_done _
  · exact hleave _
  refine keeps_atomically (fun s => hR.expectKey fun key => hR.dbInsertPeer s) fun res => ?_
  rcases res with (_ | e) | _
  · exact keeps_done _
  · exact keeps_atomically (fun s => hR.withKey fun key => hR.command s) fun _ => hleave _
  show (joinKey publicKey peer).Keeps R
  unfold joinKey
  split
  · exact keeps_done _
  · exact keeps_atomically (fun s => hR.peerKeys s _) fun _ => keeps_done _

theorem joinRoom (hR : Suits R)
    (henter : ∀ (s : AppState) (roomCode : RoomCode) (p : PeerId) (requested : Option VirtualIp) (now : Instant),
      R s (s.enterRoom roomCode p requested now).2) (fresh : PeerId) :
    (Civ6LanBridge.joinRoom base64 weather o caller code payload fresh now).Keeps R := by
  refine keeps_atomically hR.checkJoin fun res => ?_
  rcases res with e | roomCode
  · exact keeps_done _
  refine keeps_atomically (fun s => henter s _ _ _ _) fun res => ?_
  rcases res with e | peer
  · exact keeps_done _
  · exact hR.joinTunnel _ peer

theorem resumeRoom (hR : Suits R) : (Civ6LanBridge.resumeRoom caller code payload now).Keeps R := by
  refine keeps_atomically hR.authorizeRoom fun res => ?_
  rcases res with e | roomCode
  · exact keeps_done _
  · exact keeps_atomically (fun s => hR.resume s _ _ _) fun _ => keeps_done _

theorem deletePeer (hR : Suits R) : (Civ6LanBridge.deletePeer base64 weather o p caller code).Keeps R := by
  refine keeps_atomically hR.authorizeRoom fun res => ?_
  rcases res with e | roomCode
  · exact keeps_done _
  refine keeps_atomically hR.refl fun found => ?_
  rcases found with e | ⟨roomId, ip⟩
  · exact keeps_done _
  refine keeps_atomically hR.refl fun key => ?_
  rcases key with e | publicKey
  · exact keeps_done _
  refine keeps_atomically (fun s => hR.withKey fun key => hR.command s) fun res => ?_
  rcases res with e | _
  · exact keeps_done _
  refine keeps_atomically hR.dbDeletePeer fun res => ?_
  rcases res with e | _
  · exact keeps_atomically (fun s => hR.withKey fun key => hR.command s) fun _ => keeps_done _
  refine keeps_atomically (fun s => hR.leaveRoom s o _ _) fun res => ?_
  rcases res with (_ | e) | _
  · exact keeps_done _
  · refine keeps_atomically (fun s => hR.withKey fun key => hR.dbInsertPeer s) fun _ => ?_
    exact keeps_atomically (fun s => hR.withKey fun key => hR.command s) fun _ => keeps_done _
  · exact keeps_atomically (fun s => hR.peerKeys s _) fun _ => keeps_done _

end Suits

/-! ## What the calls do to the rooms -/

namespace AppState

variable {s s' : AppState} {x : RoomId} {roomCode : RoomCode} {weather : Weather}

theorem createRoom_rooms (s : AppState) (roomCode : RoomCode) (x : RoomId) :
    (∃ e, s.createRoom roomCode x = (.error e, s)) ∨
      ∃ s', s.createRoom roomCode x = (.ok { roomId := x, code := roomCode, memberCount := 0, hostCount := 0 }, s') ∧
        (s.router.WF → s'.router.WF) ∧ s'.database = s.database ∧ s'.rooms = insert x s.rooms := by
  rcases createRoom_cases s roomCode x with he | ⟨hcode, hroom, s', he, hs⟩
  · exact Or.inl he
  refine Or.inr ⟨s', he, fun hw => ?_, congrArg Stores.database hs, ?_⟩
  · rw [show s'.router = _ from congrArg Stores.router hs]
    exact hw.addRoom hroom hcode
  · ext y
    show s'.router.rooms[y]? ≠ none ↔ y = x ∨ s.router.rooms[y]? ≠ none
    rw [show s'.router = _ from congrArg Stores.router hs]
    exact insert_has

theorem dbInsertRoom_rows (hdb : s.database.isSome) (weather : Weather) (x : RoomId) (roomCode : RoomCode) :
    (∃ e, s.dbInsertRoom weather x roomCode = (.error e, s)) ∨
      ∃ s', s.dbInsertRoom weather x roomCode = (.ok (), s') ∧ s'.router = s.router ∧ s'.database.isSome ∧
        s'.rows = insert x s.rows := by
  rcases hx : s.dbInsertRoom weather x roomCode with ⟨e | _, s'⟩
  · obtain rfl := execute_error hx
    exact Or.inl ⟨e, rfl⟩
  rcases execute_done hx with ⟨hs, hrel⟩
  rcases Option.isSome_iff_exists.1 hdb with ⟨db, hd⟩
  rw [hd] at hrel
  generalize hd' : s'.database = database at hrel
  cases hrel with
  | some hi =>
    rcases Database.insertRoom_ok hi with ⟨-, rfl⟩
    refine Or.inr ⟨s', rfl, congrArg Stores.router hs, by rw [hd']; rfl, ?_⟩
    rw [rows_eq hd', rows_eq hd]
    exact Set.ext fun y => insert_has

theorem dbDeleteRoom_rows (hdb : s.database.isSome) (weather : Weather) (x : RoomId) :
    (∃ e, s.dbDeleteRoom weather x = (.error e, s)) ∨
      ∃ s', s.dbDeleteRoom weather x = (.ok (), s') ∧ s'.router = s.router ∧ s'.database.isSome ∧
        s'.rows = s.rows \ {x} := by
  rcases hx : s.dbDeleteRoom weather x with ⟨e | _, s'⟩
  · obtain rfl := execute_error hx
    exact Or.inl ⟨e, rfl⟩
  have hs := execute_done_total hx
  rcases Option.isSome_iff_exists.1 hdb with ⟨db, hd⟩
  have hd' : s'.database = some (db.deleteRoom x) := by
    rw [show s'.database = s.database.map _ from congrArg Stores.database hs, hd]
    rfl
  refine Or.inr ⟨s', rfl, congrArg Stores.router hs, by rw [hd']; rfl, ?_⟩
  rw [rows_eq hd', rows_eq hd]
  exact Set.ext fun y => erase_has

/-- The router has the room, with somebody in it. -/
def Occupied (s : AppState) (x : RoomId) : Prop :=
  ∃ room : RoomState, s.router.rooms[x]? = some room ∧ (!room.members.isEmpty || !room.hostSessions.isEmpty) = true

/-- Removing a room finds it gone or occupied and changes nothing, or removes it. -/
theorem removeEmptyRoom_rooms (s : AppState) (x : RoomId) :
    (s.routed fun r => r.removeEmptyRoom x) = (.error (.error (.ofRouter (.roomNotFound x))), s) ∧ x ∉ s.rooms ∨
      (s.routed fun r => r.removeEmptyRoom x) = (.error (.error (.ofRouter (.roomNotEmpty x))), s) ∧ s.Occupied x ∨
        ∃ s', (s.routed fun r => r.removeEmptyRoom x) = (.ok (), s') ∧ (s.router.WF → s'.router.WF) ∧
          s'.database = s.database ∧ ¬ s.Occupied x ∧ x ∈ s.rooms ∧ s'.rooms = s.rooms \ {x} := by
  cases hr : s.router.rooms[x]? with
  | none =>
    refine Or.inl ⟨routed_err s _ ?_, fun h => h hr⟩
    unfold RoomRouter.removeEmptyRoom
    simp [hr]
  | some room =>
    cases hsize : !room.members.isEmpty || !room.hostSessions.isEmpty with
    | true =>
      refine Or.inr (Or.inl ⟨routed_err s _ ?_, room, hr, hsize⟩)
      unfold RoomRouter.removeEmptyRoom
      simp only [hr, hsize, if_true]
    | false =>
      have hempty : room.members = ∅ ∧ room.hostSessions = ∅ := by simpa using hsize
      have hremove : s.router.removeEmptyRoom x = .ok () { s.router with
          rooms := s.router.rooms.erase x, roomsByCode := s.router.roomsByCode.erase room.code } := by
        unfold RoomRouter.removeEmptyRoom
        simp only [hr, hsize, Bool.false_eq_true, if_false]
      rcases routed_ok s (·.removeEmptyRoom x) hremove with ⟨s', he, hs⟩
      refine Or.inr (Or.inr ⟨s', he, fun hw => ?_, congrArg Stores.database hs, ?_, ?_, ?_⟩)
      · rw [show s'.router = _ from congrArg Stores.router hs]
        exact hw.dropRoom hr hempty.1 hempty.2
      · rintro ⟨room', hr', hsize'⟩
        rw [hr] at hr'
        cases hr'
        rw [hsize] at hsize'
        cases hsize'
      · exact fun hnone => by simp [hr] at hnone
      · ext y
        show s'.router.rooms[y]? ≠ none ↔ s.router.rooms[y]? ≠ none ∧ ¬ y = x
        rw [show s'.router = _ from congrArg Stores.router hs]
        exact erase_has

theorem authorizeRoom_code {caller : Caller} {code : String} (h : (s.authorizeRoom caller code).1 = .ok roomCode) :
    parseRoomCode code = .ok roomCode := by
  unfold authorizeRoom at h
  split at h
  · cases h
  · exact h

end AppState

end Civ6LanBridge

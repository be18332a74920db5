/-
A room that the server has and the database has a row of stays, through requests that run side by side, failures of the
database and of `wg`, datagrams and sweeps, and through crashes in the midst of all this, until it is deleted by its
code.
-/
import Civ6LanBridge.Lib.Crash
import Civ6LanBridge.Server.Concord
import Civ6LanBridge.Server.Recovery

namespace Civ6LanBridge

open Std FinMap Bytes Prog Handler RoomRouter AppState

/-! ## Operations that leave the rooms alone -/

/-- The operations that make or remove a room. -/
def RouterOp.OnRooms : RouterOp → Prop
  | .createRoomWithId .. | .removeEmptyRoom .. => True
  | _ => False

namespace RoomRouter

variable {r r' : RoomRouter} {o : WalkOrder}

theorem code_removeHost (r : RoomRouter) (id : HostSessionId) : (r.removeHost id).ledger.code = r.ledger.code :=
  removeHosts_code [id] r

theorem effect_code {op : RouterOp} (h : r.WF) (heff : Effect o r op r') (hop : ¬ op.OnRooms) :
    r'.ledger.code = r.ledger.code := by
  induction heff with
  | createRoom | removeRoom => exact absurd trivial hop
  | join => exact code_joined
  | restore _ ih => exact ih id
  | leave hp => exact code_without h hp
  | seen | resume | hostAgain | beat | discover | discoverAgain | select | play | endGameplay | dispatchResponse => rfl
  | host => exact hosted_code _ _ _ _ _
  | rehost => exact (hosted_code _ _ _ _ _).trans (code_removeHost _ _)
  | beatForRoom _ _ ih => exact ih id
  | unhost => exact code_removeHost _ _
  | dispatchDiscovery _ _ ih => exact ih id
  | dispatchGameplay _ ih => exact ih id
  | expire => exact code_expire o h _

theorem exec_code (o : WalkOrder) (h : r.WF) (op : RouterOp) (hf : op.Fresh r) (hop : ¬ op.OnRooms) :
    (op.exec o r).2.WF ∧ (op.exec o r).2.ledger.code = r.ledger.code := by
  rcases exec_does o h op with ⟨e, he⟩ | ⟨r', he, heff⟩
  · rw [he]
    exact ⟨h, rfl⟩
  · rw [he]
    exact ⟨h.effect hf heff, effect_code h heff hop⟩

end RoomRouter

/-! ## A room with its row -/

/-- The server has the room, under its code, and the database has its row, which never expires. -/
structure AppState.Houses (x : RoomId) (roomCode : RoomCode) (s : AppState) : Prop where
  wf : s.router.WF
  code : s.router.ledger.code x = some roomCode
  row : ∃ (db : Database) (row : RoomRow), s.database = some db ∧ db.rooms[x]? = some row ∧
    row.roomCode = roomCode.value ∧ row.expiresAt = none

namespace AppState.Houses

variable {x y : RoomId} {roomCode code' : RoomCode} {s s' : AppState} {allowed : AppState → Call → Prop}
  {weather : Weather} {caller : Caller} {base64 : String → Option (List UInt8)}

theorem retained (h : s.Houses x roomCode) (hr : Retains s s') : s'.Houses x roomCode := by
  rcases h.row with ⟨db, row, hdb, hrow, hcode, hexpires⟩
  have hrows := hr.rows
  rw [hdb] at hrows
  rcases Option.map_eq_some_iff.1 hrows with ⟨db', hdb', hsame⟩
  refine ⟨(hr.router h.wf).1, ?_, db', row, hdb', ?_, hcode, hexpires⟩
  · rw [(hr.router h.wf).2]
    exact h.code
  · rwa [hsame]

/-- The router changes where it has other rooms. -/
theorem of_router (h : s.Houses x roomCode) (hw : s'.router.WF)
    (hcode : s'.router.ledger.code x = s.router.ledger.code x)
    (hdb : s'.database = s.database) : s'.Houses x roomCode :=
  ⟨hw, hcode.trans h.code, by rw [hdb]; exact h.row⟩

/-- The database changes where it has other rows. -/
theorem of_rows (h : s.Houses x roomCode) (hr : s'.router = s.router)
    (hrows : ∀ db, s.database = some db → ∃ db', s'.database = some db' ∧ db'.rooms[x]? = db.rooms[x]?) :
    s'.Houses x roomCode := by
  rcases h.row with ⟨db, row, hdb, hrow, hcode, hexpires⟩
  rcases hrows db hdb with ⟨db', hdb', hsame⟩
  exact ⟨by rw [hr]; exact h.wf, by rw [hr]; exact h.code, db', row, hdb', hsame.trans hrow, hcode, hexpires⟩

theorem room (h : s.Houses x roomCode) : ∃ room : RoomState, s.router.rooms[x]? = some room ∧ room.code = roomCode :=
  Option.map_eq_some_iff.1 h.code

/-! ## Creating and deleting other rooms -/

theorem removeEmptyRoom (h : s.Houses x roomCode) (hne : y ≠ x) :
    (s.routed fun r => r.removeEmptyRoom y).2.Houses x roomCode := by
  rcases removeEmptyRoom_does (o := .sorted) (r := s.router) y with ⟨e, he⟩ | ⟨r', he, heff⟩
  · rw [routed_err s _ he]
    exact h
  rcases routed_ok s (·.removeEmptyRoom y) he with ⟨s', hs, hs'⟩
  rw [hs]
  cases heff with
  | removeRoom hr hm hsess =>
    have hrouter : s'.router = _ := congrArg Stores.router hs'
    refine h.of_router ?_ ?_ (congrArg Stores.database hs')
    · rw [hrouter]
      exact h.wf.dropRoom hr hm hsess
    · rw [hrouter]
      show ((s.router.rooms.erase y)[x]?).map RoomState.code = _
      rw [getElem?_erase_ne hne]
      rfl

theorem withdrawRoom (h : s.Houses x roomCode) (hne : y ≠ x) :
    (Civ6LanBridge.withdrawRoom y).Guarantees allowed (Preserves (Houses x roomCode)) s :=
  preserves_atomically h fun _ hs => ⟨hs.removeEmptyRoom hne, guarantees_done _ _⟩

theorem recordRoom (h : s.Houses x roomCode) (snapshot : RoomSnapshot) (hne : snapshot.roomId ≠ x) :
    (Civ6LanBridge.recordRoom weather snapshot).Guarantees allowed (Preserves (Houses x roomCode)) s := by
  refine preserves_atomically h fun s hs => ?_
  rcases hx : s.dbInsertRoom weather snapshot.roomId snapshot.code with ⟨e | _, s'⟩
  · obtain rfl := execute_error hx
    exact ⟨hs, hs.withdrawRoom hne⟩
  rcases execute_done hx with ⟨hs', hrel⟩
  refine ⟨hs.of_rows (congrArg Stores.router hs') fun db hdb => ?_, guarantees_done _ _⟩
  rw [hdb] at hrel
  generalize hd' : s'.database = database at hrel
  cases hrel with
  | some hi =>
    rcases Database.insertRoom_ok hi with ⟨-, rfl⟩
    exact ⟨_, rfl, getElem?_insert_ne hne⟩

/-- Whatever room is created, under whatever identifier is drawn. -/
theorem createRoom (h : s.Houses x roomCode) :
    (Civ6LanBridge.createRoom weather caller code' y).Guarantees allowed (Preserves (Houses x roomCode)) s := by
  rw [createRoom_eq]
  refine preserves_atomically h fun s hs => ?_
  have hb : (s.requireBearer caller).2.Houses x roomCode := hs.retained (Retains.suits.requireBearer s caller)
  refine ⟨hb, ?_⟩
  cases (s.requireBearer caller).1 with
  | error e => exact guarantees_done _ _
  | ok _ =>
    refine preserves_atomically hb fun s hs => ?_
    rcases createRoom_cases s code' y with ⟨e, he⟩ | ⟨hcode, hroom, s', he, hs'⟩
    · rw [he]
      exact ⟨hs, guarantees_done _ _⟩
    -- the identifier is that of no room, so it is not that of this one
    have hne : y ≠ x := by
      rintro rfl
      rcases hs.room with ⟨room, hr, -⟩
      rw [hr] at hroom
      cases hroom
    have hrouter : s'.router = _ := congrArg Stores.router hs'
    have hs₁ : s'.Houses x roomCode := by
      refine hs.of_router ?_ ?_ (congrArg Stores.database hs')
      · rw [hrouter]
        exact hs.wf.addRoom hroom hcode
      · rw [hrouter]
        exact (founded_code s.router y code' x).trans (if_neg (Ne.symm hne))
    rw [he]
    exact ⟨hs₁, hs₁.recordRoom _ hne⟩

theorem strikeRoom (h : s.Houses x roomCode) (hne : y ≠ x) :
    (Civ6LanBridge.strikeRoom weather y).Guarantees allowed (Preserves (Houses x roomCode)) s := by
  refine preserves_atomically h fun s hs => ?_
  rcases hx : s.dbDeleteRoom weather y with ⟨e | _, s'⟩
  · obtain rfl := execute_error hx
    exact ⟨hs, guarantees_done _ _⟩
  have hs' := execute_done_total hx
  have hs₁ : s'.Houses x roomCode := by
    refine hs.of_rows (congrArg Stores.router hs') fun db hdb => ⟨db.deleteRoom y, ?_, getElem?_erase_ne hne⟩
    rw [show s'.database = s.database.map _ from congrArg Stores.database hs', hdb]
    rfl
  exact ⟨hs₁, preserves_atomically hs₁ fun _ hs => ⟨hs.removeEmptyRoom hne, guarantees_done _ _⟩⟩

/-- A room that is found to be deleted has the code that it is looked for by. -/
theorem findEmptyRoom_ne (h : s.Houses x roomCode) (hfind : s.findEmptyRoom code' = .ok y) (hne : code' ≠ roomCode) :
    y ≠ x := by
  rintro rfl
  have hcode : s.router.roomsByCode[code']? = some y := by
    unfold findEmptyRoom at hfind
    split at hfind
    · cases hfind
    rename_i z hfound
    have hz : z = y := by
      split at hfind
      · cases hfind
      · split at hfind
        · cases hfind
        · exact Except.ok.inj hfind
    unfold roomOfCode at hfound
    split at hfound
    · cases hfound
    · rename_i hid
      cases hfound
      exact hz ▸ hid
  rcases (h.wf.codes code' y).1 hcode with ⟨room, hr, rfl⟩
  rcases h.room with ⟨room', hr', rfl⟩
  rw [hr] at hr'
  cases hr'
  exact hne rfl

/-- Whatever room is deleted, as long as it is by another code. -/
theorem deleteRoom {code : String} (h : s.Houses x roomCode)
    (hcode : ∀ code', parseRoomCode code = .ok code' → code' ≠ roomCode) :
    (Civ6LanBridge.deleteRoom weather caller code).Guarantees allowed (Preserves (Houses x roomCode)) s := by
  rw [deleteRoom_eq]
  refine preserves_atomically h fun s hs => ?_
  have hb : (s.authorizeRoom caller code).2.Houses x roomCode := hs.retained (Retains.suits.authorizeRoom s)
  refine ⟨hb, ?_⟩
  cases hres : (s.authorizeRoom caller code).1 with
  | error e => exact guarantees_done _ _
  | ok code' =>
    refine preserves_atomically hb fun s hs => ⟨hs, ?_⟩
    cases hfind : s.findEmptyRoom code' with
    | error e => exact guarantees_done _ _
    | ok y => exact hs.strikeRoom (hs.findEmptyRoom_ne hfind (hcode code' (authorizeRoom_code hres)))

/-! ## Every request -/

/-- A request leaves the room, at whatever points it is interrupted, unless it is to delete it. -/
theorem program (h : s.Houses x roomCode) {q : Job} (hq : ¬ q.Deletes roomCode) :
    (q.program base64).Guarantees allowed (Preserves (Houses x roomCode)) s := by
  have hsuits : Suits (Preserves (Houses x roomCode)) := Retains.suits.mono fun hr hs => hs.retained hr
  unfold Job.program
  split
  · exact Guarantees.map _ h.createRoom
  · exact ((hsuits.joinRoom (fun s c p ip now hs => hs.retained (Retains.enterRoom s c p ip now)) _).guarantees s).map _
  · exact (hsuits.resumeRoom.guarantees s).map _
  · exact hsuits.deletePeer.guarantees s
  · rename_i caller code hreq
    refine h.deleteRoom fun code' hcode => ?_
    rintro rfl
    exact hq ⟨caller, code, hreq, hcode⟩

end AppState.Houses

/-! ## The rest of the server, and crashes -/

/-- The calls that requests on sessions make to the router. -/
def RouterOp.OnSessions : RouterOp → Prop
  | .registerHost .. | .heartbeatHostForRoom .. | .unregisterHost .. => True
  | .selectHost .. | .removeGameplaySession .. => True
  | _ => False

theorem RouterOp.OnSessions.spares {op : RouterOp} (h : op.OnSessions) : ¬ op.OnRooms := by
  cases op <;> first | exact id | exact absurd h id

/-- What happens to the server beside requests on rooms: a turn of the relay loop, or a call on a session. -/
inductive Aside (s : AppState) : AppState → Prop
  | wake (relayPort : UInt16) (wake : Wake) : Aside s (wake.turn relayPort s).state
  | session (o : WalkOrder) {op : RouterOp} : op.OnSessions → op.Fresh s.router →
      Aside s { s with router := (op.exec o s.router).2 }

/-- After a crash the server starts again on the database it has left behind, in whatever environment. Starts that fail
in between leave the rows of rooms as they are. -/
def Restarts (base64 : String → Option (List UInt8)) (inetText : VirtualIp → String) (s s' : AppState) : Prop :=
  ∃ c env estate, s.database = some estate.database ∧ env.databaseUrl.ok.isSome = true ∧
    (start base64 inetText c env estate).1 = .ok s'

namespace AppState.Houses

variable {x : RoomId} {roomCode : RoomCode} {s s' : AppState} {base64 : String → Option (List UInt8)}
  {inetText : VirtualIp → String}

theorem aside (h : s.Houses x roomCode) (ha : Aside s s') : s'.Houses x roomCode := by
  cases ha with
  | session o hop hf =>
    rcases exec_code o h.wf _ hf hop.spares with ⟨hw, hcode⟩
    exact h.of_router hw (congrFun hcode x) rfl
  | wake relayPort wake =>
    cases wake with
    | receiveFailed => exact h
    | tick o now => exact h.retained (Retains.sweep s o now)
    | received o source datagram limiterNow now accepts =>
      rw [Wake.turn_state]
      have hop : ∀ (r : RoomRouter) (op : RouterOp), op.Fresh r → ¬ op.OnRooms →
          r.WF ∧ r.ledger.code = s.router.ledger.code →
          (op.exec o r).2.WF ∧ (op.exec o r).2.ledger.code = s.router.ledger.code := fun r op hf hrooms hr =>
        (exec_code o hr.1 op hf hrooms).imp id fun hcode => hcode.trans hr.2
      rcases handleDatagram_router (P := fun r => r.WF ∧ r.ledger.code = s.router.ledger.code) (o := o) (s := s)
        (datagram.take maxRelayDatagramSize) ⟨h.wf, rfl⟩ (fun r p t => hop r (.markPeerSeen p t) trivial id)
          (fun r ingress hr => by
          have hd := hop r (.dispatch ingress) trivial id hr
          rwa [RouterOp.exec, Outcome.map_snd] at hd) with ⟨hw, hcode⟩
      exact h.of_router hw (congrFun hcode x) (SessionServer.handleDatagram_database relayPort h.wf source _ limiterNow)

theorem restarts (h : s.Houses x roomCode) (hr : Restarts base64 inetText s s') : s'.Houses x roomCode := by
  rcases hr with ⟨c, env, estate, hdb, hurl, hstart⟩
  rcases h.row with ⟨db, row, hdb', hrow, hcode, hexpires⟩
  obtain rfl : db = estate.database := Option.some.inj (hdb'.symm.trans hdb)
  rcases start_rooms hurl hstart with ⟨hw, hrooms, hdatabase⟩
  refine ⟨hw, (hrooms x roomCode).2 ⟨row, hrow, by rw [hexpires]; rfl, ?_⟩, _, row, hdatabase, hrow, hcode, hexpires⟩
  rw [hcode]
  exact RoomCode.parse_value roomCode

end AppState.Houses

/-! ## Where it begins -/

/-- Once the creation of a room has been answered with success, the server has the room and the database its row. -/
theorem createRoom_records {s s' : AppState} {db : Database} {weather : Weather} {caller : Caller} {x : RoomId}
    {roomCode : RoomCode} {snapshot : RoomSnapshot} (hw : s.router.WF) (hdb : s.database = some db)
    (h : (createRoom weather caller roomCode x).run s = (.ok snapshot, s')) :
    ∃ db', db.insertRoom x roomCode weather.dbNow = .ok db' ∧ s'.database = some db' ∧ s'.Houses x roomCode := by
  rw [createRoom_eq, run_atomically] at h
  rcases requireBearer_leaves s caller with ⟨res, s₁, he₁, hs₁⟩
  rw [he₁] at h
  cases res with
  | error e => cases h
  | ok _ =>
    dsimp only at h
    unfold publishRoom at h
    rw [run_atomically] at h
    rcases createRoom_cases s₁ roomCode x with ⟨e, he⟩ | ⟨hcode, hroom, s₂, he, hs₂⟩
    · rw [he] at h
      cases h
    rw [he] at h
    dsimp only at h
    unfold recordRoom at h
    rw [run_atomically] at h
    dsimp only at h
    rcases hx : s₂.dbInsertRoom weather x roomCode with ⟨e | _, s₃⟩
    · rw [hx] at h
      cases h
    rw [hx] at h
    cases h
    rcases execute_done hx with ⟨hs₃, hrel⟩
    have hdb₂ : s₂.database = some db := by
      rw [show s₂.database = s₁.database from congrArg Stores.database hs₂,
        show s₁.database = s.database from congrArg Stores.database hs₁, hdb]
    rw [hdb₂] at hrel
    generalize hd' : s₃.database = database at hrel
    cases hrel with
    | @some _ db' hi =>
      have hrouter : s₃.router = s.router.founded x roomCode := by
        rw [show s₃.router = s₂.router from congrArg Stores.router hs₃,
          show s₂.router = _ from congrArg Stores.router hs₂]
        exact congrArg (fun r => RoomRouter.founded r x roomCode) (congrArg Stores.router hs₁)
      have hr₁ : s₁.router = s.router := congrArg Stores.router hs₁
      rw [hr₁] at hcode hroom
      refine ⟨db', hi, rfl, ?_, ?_, db',
        { roomCode := roomCode.value, createdAt := weather.dbNow, expiresAt := none }, hd', ?_, rfl, rfl⟩
      · rw [hrouter]
        exact hw.addRoom hroom hcode
      · rw [hrouter, founded_code, if_pos rfl]
      · rcases Database.insertRoom_ok hi with ⟨-, rfl⟩
        exact ExtTreeMap.getElem?_insert_self

/-! ## For life -/

/-- A room that the server has and the database has a row of is there, under its code, in every state of the server's
life: whatever requests run side by side, however their calls to the database and to `wg` go, whatever datagrams and
sweeps come in between, and whenever the server crashes and starts again, as long as no request is to delete the room by
its code. -/
theorem rooms_endure (base64 : String → Option (List UInt8)) (inetText : VirtualIp → String) {x : RoomId}
    {roomCode : RoomCode} {s : AppState} {Q : Pool Call AppState (Answer Unit)} (h : s.Houses x roomCode)
    (hlife : Pool.Life Aside (fun p => ∃ q : Job, ¬ q.Deletes roomCode ∧ p = q.program base64)
      (Restarts base64 inetText) s Q) :
    Q.shared.Houses x roomCode := by
  refine Pool.Life.preserves h (fun s s' ha hs => hs.aside ha) (fun s s' hr hs => hs.restarts hr) ?_ hlife
  rintro _ s ⟨q, hq, rfl⟩ hs
  exact hs.program hq

/-! ## A room that outlives its server -/

namespace RoomRouter.Example

open Civ6LanBridge.Example (bearerToken subnet caller base64)

/-- A server on which a room has been created. -/
def housing : AppState := ((Civ6LanBridge.createRoom {} caller code room).run (.fresh bearerToken subnet)).2

theorem housing_records : ∃ db, Database.empty.insertRoom room code 0 = .ok db ∧ housing.database = some db ∧
    housing.Houses room code := by
  have hrun : (Civ6LanBridge.createRoom {} caller code room).run (.fresh bearerToken subnet) =
      (.ok { roomId := room, code, memberCount := 0, hostCount := 0 }, housing) := Prod.ext rfl rfl
  exact createRoom_records (new_wf {}) rfl hrun

end RoomRouter.Example

open RoomRouter.Example in
/-- The server crashes and starts again, and has the room. -/
theorem housing_endures : ∃ s, Restarts Civ6LanBridge.Example.base64 inetText housing s ∧ s.Houses room code := by
  rcases housing_records with ⟨db, hinsert, hdb, hhouses⟩
  rcases Database.insertRoom_ok hinsert with ⟨-, hrows⟩
  have hlimit : db.rooms.size ≤ ({} : RouterConfig).maxRooms := by
    rw [hrows]
    exact ExtTreeMap.size_insert_le.trans (by decide +kernel)
  have hbearer : environment.bearerToken = .ok Civ6LanBridge.Example.bearerToken := by decide +kernel
  have hip : environment.ipPrefix = .ok { a := 10, b := 66, c := 7 } := by decide +kernel
  rcases start_ok Civ6LanBridge.Example.base64 inetText (show Conditions.Calm {} from ⟨rfl, rfl, rfl⟩) hbearer hip
    (show ({ deserted with database := db } : Estate).database.Written from .room .empty hinsert) hlimit
      (by rw [hrows]; rfl)
    with ⟨s, hs⟩
  have hrestarts : Restarts Civ6LanBridge.Example.base64 inetText housing s := ⟨{}, environment, _, hdb, rfl, hs⟩
  exact ⟨s, hrestarts, rooms_endure _ _ hhouses (.step (.init rfl) (.crash hrestarts))⟩

end Civ6LanBridge

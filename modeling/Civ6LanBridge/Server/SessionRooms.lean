/-
Requests on rooms and the tables of sessions: deleting a peer or a room takes with it the rows of its sessions, and the
router has none of these sessions afterwards. So sessions are recorded over every run of requests that come one at a
time.
-/
import Civ6LanBridge.Server.SessionRows

namespace Civ6LanBridge

open Std FinMap Table Bytes Prog RoomRouter AppState

/-! ## A room that is created and removed again -/

namespace RoomRouter

variable {r : RoomRouter} {x : RoomId} {roomCode : RoomCode}

/-- The router with a new room. -/
def founded (r : RoomRouter) (x : RoomId) (roomCode : RoomCode) : RoomRouter :=
  { r with
    rooms := r.rooms.insert x { code := roomCode, members := ∅, hostSessions := ∅ }
    roomsByCode := r.roomsByCode.insert roomCode x }

theorem founded_code (r : RoomRouter) (x : RoomId) (roomCode : RoomCode) (y : RoomId) :
    (r.founded x roomCode).ledger.code y = if y = x then some roomCode else r.ledger.code y := by
  show ((r.rooms.insert x _)[y]?).map RoomState.code = _
  by_cases e : x = y
  · subst e
    rw [ExtTreeMap.getElem?_insert_self, if_pos rfl]
    rfl
  · rw [getElem?_insert_ne e, if_neg (Ne.symm e)]
    rfl

theorem removeEmptyRoom_ok {room : RoomState} (hr : r.rooms[x]? = some room) (hm : room.members = ∅)
    (hs : room.hostSessions = ∅) : r.removeEmptyRoom x =
      .ok () { r with rooms := r.rooms.erase x, roomsByCode := r.roomsByCode.erase room.code } := by
  unfold RoomRouter.removeEmptyRoom
  simp [hr, hm, hs]

theorem erase_insert {K V : Type} [Ord K] [TransOrd K] [LawfulEqOrd K] {m : ExtTreeMap K V} {k : K} {v : V}
    (h : m[k]? = none) :
    (m.insert k v).erase k = m := by
  refine ExtTreeMap.ext_getElem? fun k' => ?_
  by_cases e : k = k'
  · subst e
    rw [ExtTreeMap.getElem?_erase_self, h]
  · rw [getElem?_erase_ne e, getElem?_insert_ne e]

theorem removeEmptyRoom_founded (hroom : r.rooms[x]? = none) (hcode : r.roomsByCode[roomCode]? = none) :
    (r.founded x roomCode).removeEmptyRoom x = .ok () r := by
  rw [removeEmptyRoom_ok (r := r.founded x roomCode) ExtTreeMap.getElem?_insert_self rfl rfl]
  exact congrArg (Outcome.ok ()) (RoomRouter.ext rfl (erase_insert hroom) (erase_insert hcode) rfl rfl rfl rfl rfl rfl)

end RoomRouter

/-! ## Steps of a handler -/

theorem run_cascading {α β : Type} (label : Call) (act : AppState → β × AppState) (next : β → Handler α)
    (S : SessionServer) :
    (cascading (atomically label act next)).run S = (cascading (next (act S.app).1)).run (S.after (act S.app).2) := rfl

theorem Database.Covers.grow {db db' : Database} {L : Ledger} (h : db.Covers L)
    (hrooms : ∀ x : RoomId, db.rooms[x]? ≠ none → db'.rooms[x]? ≠ none)
    (hpeers : ∀ (p : PeerId) (row : PeerRow), db.peers[p]? = some row → db'.peers[p]? = some row) : db'.Covers L where
  room := fun x hx => hrooms x (h.room x hx)
  peer := fun p peer hp => by
    rcases h.peer p peer hp with ⟨row, hrow, hroom⟩
    exact ⟨row, hpeers p row hrow, hroom⟩

namespace SessionServer

variable {S : SessionServer} {s : AppState} {r r' r₀ r₁ : RoomRouter} {db db' : Database}

/-- The server on the way through a handler: the tables cover `r₀`, which the router is to be left as. -/
structure Bound (S : SessionServer) (r : RoomRouter) (db : Database) (r₀ : RoomRouter) : Prop where
  router : S.app.router = r
  database : S.app.database = some db
  wf : r₀.WF
  covers : db.Covers r₀.ledger
  tables : S.tables.Covers r₀.ledger

theorem Recorded.bound (h : S.Recorded) :
    ∃ db, S.Bound S.app.router db S.app.router ∧ db.Covers S.app.router.ledger := by
  rcases h.database with ⟨db, hdb, hcovers⟩
  exact ⟨db, ⟨rfl, hdb, h.wf, hcovers, h.tables⟩, hcovers⟩

theorem Bound.recorded (h : S.Bound r db r) : S.Recorded := by
  rcases h with ⟨rfl, hdb, hw, hcovers, htables⟩
  exact ⟨hw, ⟨db, hdb, hcovers⟩, htables⟩

theorem Bound.after (h : S.Bound r db r₀) (hr : s.router = r') (hdb : s.database = some db')
    (hcovers : db'.Covers r₀.ledger) :
    (S.after s).Bound r' db' r₀ := by
  refine ⟨hr, hdb, h.wf, hcovers, ?_⟩
  show (SessionServer.after S s).tables.Covers _
  unfold SessionServer.after
  dsimp only
  rw [hdb]
  exact h.tables.cascade h.wf hcovers

/-- A step that touches neither the router nor the database. -/
theorem Bound.same (h : S.Bound r db r₀) (hr : s.router = S.app.router) (hdb : s.database = S.app.database) :
    (S.after s).Bound r db r₀ :=
  h.after (hr.trans h.router) (hdb.trans h.database) h.covers

theorem Bound.of_stores (h : S.Bound r db r₀) (hs : s.stores = S.app.stores) : (S.after s).Bound r db r₀ :=
  h.same (congrArg Stores.router hs) (congrArg Stores.database hs)

/-- The router may be left with less. -/
theorem Bound.sheds (h : S.Bound r db r₀) (hw : r₁.WF) (hs : r₀.ledger.Sheds r₁.ledger) : S.Bound r db r₁ :=
  ⟨h.router, h.database, hw, h.covers.sheds hs, h.tables.sheds hs⟩

/-- The router is left with what it has, and that has the sessions it was bound to keep. -/
theorem Bound.kept (h : S.Bound r db r₀) (hw : r.WF) (hcovers : db.Covers r.ledger)
    (hhost : r.ledger.host = r₀.ledger.host) (hgameplay : r.ledger.gameplay = r₀.ledger.gameplay) : S.Recorded := by
  rcases h with ⟨rfl, hdb, -, -, htables⟩
  refine ⟨hw, ⟨db, hdb, hcovers⟩, fun k host hk => htables.host k host (by rwa [← hhost]), fun k session hk => ?_⟩
  rw [hhost]
  exact htables.gameplay k session (by rwa [← hgameplay])

/-! ## Creating and resuming -/

variable {weather : Weather} {caller : Caller} {code : String} {o : WalkOrder} {now : Instant}
  {base64 : String → Option (List UInt8)}

/-- The statement has failed and nothing has changed, or it has gone through and only the database has changed. -/
theorem execute_cases (s : AppState) (failure : Option SqlError) (statement : Database → Except SqlError Database)
    (hdb : s.database = some db) : (∃ e, s.execute failure statement = (.error e, s)) ∨
      ∃ s' db', s.execute failure statement = (.ok (), s') ∧ statement db = .ok db' ∧ s'.router = s.router ∧
        s'.database = some db' := by
  unfold AppState.execute
  rw [hdb]
  cases failure with
  | some e => exact Or.inl ⟨e, rfl⟩
  | none =>
    dsimp only
    cases hs : statement db with
    | error e => exact Or.inl ⟨e, rfl⟩
    | ok db' => exact Or.inr ⟨_, db', rfl, rfl, rfl, rfl⟩

theorem Recorded.createRoom (h : S.Recorded) (roomCode : RoomCode) (x : RoomId) :
    ((cascading (Civ6LanBridge.createRoom weather caller roomCode x)).run S).2.Recorded := by
  rcases h.bound with ⟨db, hb, hcovers⟩
  unfold Civ6LanBridge.createRoom
  rcases requireBearer_leaves S.app caller with ⟨res, s₁, he₁, hs₁⟩
  have hb₁ := hb.of_stores hs₁
  rw [run_cascading, he₁]
  cases res with
  | error e => exact hb₁.recorded
  | ok _ =>
    dsimp only
    rw [run_cascading]
    rcases createRoom_cases s₁ roomCode x with ⟨e, he₂⟩ | ⟨hcode, hnone, s₂, he₂, hs₂⟩
    · rw [show (S.after s₁).app.createRoom roomCode x = _ from he₂]
      exact (hb₁.of_stores rfl).recorded
    rw [show (S.after s₁).app.createRoom roomCode x = _ from he₂]
    dsimp only
    have hr₁ : s₁.router = S.app.router := hb₁.router
    rw [hr₁] at hcode hnone hs₂
    have hr₂ : s₂.router = S.app.router.founded x roomCode := congrArg Stores.router hs₂
    have hb₂ := hb₁.after hr₂ ((congrArg Stores.database hs₂).trans hb₁.database) hcovers
    have hfounded : (S.app.router.founded x roomCode).WF := h.wf.addRoom hnone hcode
    rw [run_cascading]
    rcases execute_cases s₂ weather.insertRoom (fun database => database.insertRoom x roomCode weather.dbNow)
      hb₂.database with ⟨e, he₃⟩ | ⟨s₃, db', he₃, hinsert, hr₃, hdb₃⟩
    · rw [show ((S.after s₁).after s₂).app.dbInsertRoom weather x roomCode = _ from he₃]
      dsimp only
      rw [run_cascading]
      -- the statement has failed, and the room goes again
      have hb₃ := hb₂.of_stores (s := s₂) rfl
      refine (hb₃.after ?_ ((routed_database _ _).trans hb₂.database) hcovers).recorded
      rw [routed_router, hb₂.router, removeEmptyRoom_founded hnone hcode]
      rfl
    · rw [show ((S.after s₁).after s₂).app.dbInsertRoom weather x roomCode = _ from he₃]
      obtain ⟨-, rfl⟩ := Database.insertRoom_ok hinsert
      have hb₃ := hb₂.after (hr₃.trans hr₂) hdb₃ (hcovers.grow (fun y hy => insert_has.2 (Or.inr hy)) fun _ _ hp => hp)
      refine hb₃.kept hfounded ⟨fun y hy => insert_has.2 ?_, hcovers.peer⟩ rfl rfl
      rw [founded_code] at hy
      split at hy
      · rename_i e
        exact Or.inl e
      · exact Or.inr (hcovers.room y hy)

theorem Recorded.resumeRoom (h : S.Recorded) (payload : JoinRoomRequest) :
    ((cascading (Civ6LanBridge.resumeRoom caller code payload now)).run S).2.Recorded := by
  rcases h.bound with ⟨db, hb, hcovers⟩
  unfold Civ6LanBridge.resumeRoom
  rcases authorizeRoom_leaves S.app caller code with ⟨res, s₁, he₁, hs₁⟩
  have hb₁ := hb.of_stores hs₁
  rw [run_cascading, he₁]
  cases res with
  | error e => exact hb₁.recorded
  | ok roomCode =>
    dsimp only
    rw [run_cascading]
    rcases resume_cases s₁ roomCode payload.peerId now with ⟨e, he₂⟩ | ⟨peer, p, s₂, he₂, hs₂⟩
    · rw [show (S.after s₁).app.resume roomCode payload.peerId now = _ from he₂]
      exact (hb₁.of_stores rfl).recorded
    · rw [show (S.after s₁).app.resume roomCode payload.peerId now = _ from he₂]
      have hr₁ : s₁.router = S.app.router := hb₁.router
      have hr₂ : s₂.router = S.app.router.resuming p now := by
        rw [← hr₁]
        exact congrArg Stores.router hs₂
      have hsheds : S.app.router.ledger.Sheds (S.app.router.resuming p now).ledger :=
        sheds_editPeer fun peer => resumed_roomId peer now
      have hb₂ := hb₁.after hr₂ ((congrArg Stores.database hs₂).trans hb₁.database) hcovers
      exact (hb₂.sheds (h.wf.resuming p now) hsheds).recorded

/-! ## Deleting -/

/-- The router without an empty room. -/
theorem deleteRoom_covers {x : RoomId} {room : RoomState} (hw : r.WF) (hr : r.rooms[x]? = some room)
    (hm : room.members = ∅) (h : db.Covers r.ledger) : (db.deleteRoom x).Covers
      (ledger { r with rooms := r.rooms.erase x, roomsByCode := r.roomsByCode.erase room.code }) where
  room := fun y hy => by
    have hne : y ≠ x := by
      rintro rfl
      refine hy ?_
      show ((r.rooms.erase y)[y]?).map RoomState.code = none
      rw [ExtTreeMap.getElem?_erase_self]
      rfl
    exact erase_has.2 ⟨h.room y (sheds_dropRoom.code y hy), hne⟩
  peer := fun p peer hp => by
    rcases h.peer p peer hp with ⟨row, hrow, hroom⟩
    refine ⟨row, getElem?_filter_eq_some.2 ⟨hrow, decide_eq_true fun e => ?_⟩, hroom⟩
    have hmem : p ∈ room.members := (hw.member_iff hr).2 ⟨peer, hp, hroom.symm.trans e⟩
    rw [hm] at hmem
    exact ExtTreeSet.not_mem_empty hmem

theorem Recorded.deleteRoom (h : S.Recorded) :
    ((cascading (Civ6LanBridge.deleteRoom weather caller code)).run S).2.Recorded := by
  rcases h.bound with ⟨db, hb, hcovers⟩
  unfold Civ6LanBridge.deleteRoom
  rcases authorizeRoom_leaves S.app caller code with ⟨res, s₁, he₁, hs₁⟩
  have hb₁ := hb.of_stores hs₁
  rw [run_cascading, he₁]
  cases res with
  | error e => exact hb₁.recorded
  | ok roomCode =>
    dsimp only
    rw [run_cascading]
    have hb₂ := hb₁.of_stores (s := s₁) rfl
    cases hfind : (S.after s₁).app.findEmptyRoom roomCode with
    | error e => exact hb₂.recorded
    | ok x =>
      dsimp only
      rw [run_cascading]
      rcases findEmptyRoom_ok hfind with ⟨room, hr, hm, hs⟩
      rw [hb₁.router] at hr
      rcases execute_cases s₁ weather.deleteRoom (fun database => .ok (database.deleteRoom x)) hb₁.database with
        ⟨e, he₃⟩ | ⟨s₃, db', he₃, hdelete, hr₃, hdb₃⟩
      · rw [show ((S.after s₁).after (S.after s₁).app).app.dbDeleteRoom weather x = _ from he₃]
        exact (hb₂.of_stores rfl).recorded
      · rw [show ((S.after s₁).after (S.after s₁).app).app.dbDeleteRoom weather x = _ from he₃]
        dsimp only
        rw [run_cascading]
        cases hdelete
        have hleft := deleteRoom_covers h.wf hr hm hcovers
        have hb₃ := (hb₂.sheds (h.wf.dropRoom hr hm hs) sheds_dropRoom).after (hr₃.trans hb₁.router) hdb₃ hleft
        refine (hb₃.after ?_ ((routed_database _ _).trans hb₃.database) hleft).recorded
        rw [routed_router, hb₃.router, removeEmptyRoom_ok hr hm hs]
        rfl

/-- A command leaves the router and the database alone. -/
theorem command_leaves (s : AppState) (run : WireGuard → Except WireGuardError WireGuard) :
    (s.command run).2.router = s.router ∧ (s.command run).2.database = s.database := by
  unfold AppState.command
  split
  · exact ⟨rfl, rfl⟩
  · split <;> exact ⟨rfl, rfl⟩

theorem withKey_command (s : AppState) (publicKey : Option String)
    (run : String → WireGuard → Except WireGuardError WireGuard) :
    (s.withKey publicKey fun key => s.command (run key)).2.router = s.router ∧
      (s.withKey publicKey fun key => s.command (run key)).2.database = s.database := by
  cases publicKey with
  | none => exact ⟨rfl, rfl⟩
  | some key => exact command_leaves s (run key)

theorem Bound.withKey (h : S.Bound r db r₀) (publicKey : Option String)
    (run : String → WireGuard → Except WireGuardError WireGuard) :
    (S.after (S.app.withKey publicKey fun key => S.app.command (run key)).2).Bound r db r₀ :=
  h.same (withKey_command _ _ _).1 (withKey_command _ _ _).2

theorem deletePeer_covers (o : WalkOrder) {p : PeerId} {peer : PeerState} (hw : r.WF) (hp : r.peers[p]? = some peer)
    (h : db.Covers r.ledger) : (db.deletePeer p).Covers (without o r p peer).ledger where
  room := (h.sheds (sheds_without o hw hp)).room
  peer := fun q peer' hq => by
    have hne : p ≠ q := by
      rintro rfl
      change ((removePeerSessions o r peer.roomId p).peers.erase p)[p]? = some peer' at hq
      rw [ExtTreeMap.getElem?_erase_self] at hq
      cases hq
    rcases (h.sheds (sheds_without o hw hp)).peer q peer' hq with ⟨row, hrow, hroom⟩
    exact ⟨row, (getElem?_erase_ne hne).trans hrow, hroom⟩

/-- `delete_peer` from the database on. -/
theorem Bound.deletePeerRow {p : PeerId} {peer : PeerState} {publicKey : Option String} (hb : S.Bound r db r)
    (hp : r.peers[p]? = some peer) :
    ((cascading (deletePeerRow base64 weather o p peer.roomId peer.virtualIp publicKey)).run S).2.Recorded := by
  unfold Civ6LanBridge.deletePeerRow
  rw [run_cascading]
  rcases execute_cases S.app weather.deletePeer (fun database => .ok (database.deletePeer p)) hb.database with ⟨e, he⟩
    | ⟨s, db', he, hdelete, hr, hdb⟩
  · rw [show S.app.dbDeletePeer weather p = _ from he]
    dsimp only
    rw [run_cascading]
    exact ((hb.of_stores (s := S.app) rfl).withKey publicKey _).recorded
  · rw [show S.app.dbDeletePeer weather p = _ from he]
    dsimp only
    cases hdelete
    have hleft := deletePeer_covers o hb.wf hp hb.covers
    have hb₁ := (hb.sheds (hb.wf.without o hp) (sheds_without o hb.wf hp)).after (hr.trans hb.router) hdb hleft
    unfold deletePeerLeave
    have hleave : leaveRoom o s.router peer.roomId p = .ok () (without o r p peer) := by
      rw [hr, hb.router]
      exact leaveRoom_peer o hb.wf hp
    rcases routed_ok s (fun r => leaveRoom o r peer.roomId p) hleave with ⟨s', he', hs'⟩
    rw [run_cascading, show (S.after s).app.routed _ = _ from he']
    dsimp only
    unfold deletePeerForget
    rw [run_cascading]
    have hb₂ := hb₁.after (congrArg Stores.router hs') ((congrArg Stores.database hs').trans hb₁.database) hleft
    refine Bound.recorded (hb₂.same ?_ ?_) <;> rfl

theorem Recorded.deletePeer (h : S.Recorded) (p : PeerId) :
    ((cascading (Civ6LanBridge.deletePeer base64 weather o p caller code)).run S).2.Recorded := by
  rcases h.bound with ⟨db, hb, hcovers⟩
  unfold Civ6LanBridge.deletePeer
  rcases authorizeRoom_leaves S.app caller code with ⟨res, s₁, he₁, hs₁⟩
  have hb₁ := hb.of_stores hs₁
  rw [run_cascading, he₁]
  cases res with
  | error e => exact hb₁.recorded
  | ok roomCode =>
    dsimp only
    unfold deletePeerFind
    rw [run_cascading]
    have hb₂ := hb₁.of_stores (s := s₁) rfl
    cases hfind : (S.after s₁).app.findPeer roomCode p with
    | error e => exact hb₂.recorded
    | ok found =>
      obtain ⟨roomId, ip⟩ := found
      obtain ⟨peer, hp, rfl, rfl⟩ := place_eq_some.1 (findPeer_ok hfind)
      rw [hb₁.router] at hp
      dsimp only
      unfold deletePeerKey
      rw [run_cascading]
      have hb₃ := hb₂.of_stores (s := s₁) rfl
      cases hkey : ((S.after s₁).after (S.after s₁).app).app.readPeerKey p with
      | error e => exact hb₃.recorded
      | ok publicKey =>
        dsimp only
        unfold deletePeerTunnel
        rw [run_cascading]
        have hb₄ := hb₃.withKey publicKey fun key wireguard => wireguard.removePeer base64 weather.removePeer key
        split
        · exact hb₄.recorded
        · exact hb₄.deletePeerRow hp

/-! ## Joining -/

/-- A peer enters the router, at a free address of a room that exists. -/
structure Enters (r : RoomRouter) (room : RoomState) (peer : PeerResponse) : Prop where
  room : r.rooms[peer.roomId]? = some room
  new : r.peers[peer.peerId]? = none
  free : r.virtualIps[peer.virtualIp]? = none

variable {room : RoomState} {peer : PeerResponse} {key : String} {α : Type}

/-- The peer leaves again. -/
theorem Bound.leave (hb : S.Bound (r.joined peer.roomId peer.peerId peer.virtualIp now) db r) (he : Enters r room peer)
    (e : ApiError) :
    ((cascading
      (atomically .leaveRoom (fun s => s.routed fun r => RoomRouter.leaveRoom o r peer.roomId peer.peerId) fun _ =>
        (Handler.fail e : Handler α))).run S).2.Recorded := by
  rw [run_cascading]
  refine (hb.after ?_ ((routed_database _ _).trans hb.database) hb.covers).recorded
  rw [routed_router, hb.router, leaveRoom_joined o hb.wf he.room he.new he.free]
  rfl

theorem joined_covers (h : db.Covers r.ledger) {db' : Database}
    (hinsert : db.insertPeer peer.roomId peer.peerId peer.virtualIp key weather.dbNow = .ok db') :
    db'.Covers r.ledger ∧ db'.Covers (r.joined peer.roomId peer.peerId peer.virtualIp now).ledger := by
  have hnew : db.peers[peer.peerId]? = none := by
    unfold Database.insertPeer at hinsert
    split at hinsert
    · cases hinsert
    · rename_i hnot
      exact contains_eq_false.1 (Bool.eq_false_iff.2 hnot)
  obtain ⟨-, rfl⟩ := Database.insertPeer_ok hinsert
  have hgrown : ∀ (q : PeerId) (row row' : PeerRow), db.peers[q]? = some row →
      (db.peers.insert peer.peerId row')[q]? = some row := by
    intro q row row' hq
    by_cases e : peer.peerId = q
    · subst e
      rw [hnew] at hq
      cases hq
    · exact (getElem?_insert_ne e).trans hq
  refine ⟨h.grow (fun _ hx => hx) fun q row hq => hgrown q row _ hq, fun x hx => h.room x ?_, fun q peer' hq => ?_⟩
  · intro hnone
    exact hx
      ((code_modify (f := fun room => { room with members := room.members.insert peer.peerId }) fun _ => rfl).trans
      hnone)
  · change (r.peers.insert peer.peerId _)[q]? = some peer' at hq
    by_cases e : peer.peerId = q
    · subst e
      rw [ExtTreeMap.getElem?_insert_self] at hq
      cases hq
      exact ⟨_, ExtTreeMap.getElem?_insert_self, rfl⟩
    · rw [getElem?_insert_ne e] at hq
      rcases h.peer q peer' hq with ⟨row, hrow, hroom⟩
      exact ⟨row, hgrown q row _ hrow, hroom⟩

/-- `join_room` from the database on. -/
theorem Bound.joinRow (hb : S.Bound (r.joined peer.roomId peer.peerId peer.virtualIp now) db r)
    (he : Enters r room peer) :
    ((cascading (joinRow base64 weather o (some key) peer)).run S).2.Recorded := by
  unfold Civ6LanBridge.joinRow
  rw [run_cascading, hb.database, Option.isSome_some, expectKey]
  rcases execute_cases S.app weather.insertPeer
    (fun database => database.insertPeer peer.roomId peer.peerId peer.virtualIp key
    weather.dbNow) hb.database with ⟨e, he'⟩ | ⟨s, db', he', hinsert, hr, hdb⟩
  · rw [show S.app.dbInsertPeer weather peer.roomId peer.peerId peer.virtualIp key = _ from he']
    simp only [Except.mapError]
    rw [run_cascading]
    exact Bound.leave ((hb.of_stores (s := S.app) rfl).withKey (some key) _) he _
  · rw [show S.app.dbInsertPeer weather peer.roomId peer.peerId peer.virtualIp key = _ from he']
    simp only [Except.mapError]
    unfold joinKey
    rw [run_cascading]
    rcases joined_covers hb.covers hinsert with ⟨hcovers, hjoined⟩
    have hb₁ := hb.after (hr.trans hb.router) hdb hcovers
    refine Bound.kept (hb₁.same ?_ ?_) (hb.wf.joined he.room he.new he.free) hjoined ?_ ?_ <;> rfl

theorem expectKey_command (s : AppState) (configured : Bool) (key : String)
    (run : String → WireGuard → Except WireGuardError WireGuard) :
    ∃ (res : Except WireGuardError Unit) (s' : AppState),
      (s.expectKey configured (some key) fun key => s.command (run key)) = (res.mapError .error, s') ∧
        s'.router = s.router ∧ s'.database = s.database := by
  cases configured with
  | false => exact ⟨.ok (), s, rfl, rfl, rfl⟩
  | true => exact ⟨_, _, rfl, command_leaves s (run key)⟩

/-- `join_room` from WireGuard on. -/
theorem Bound.joinTunnel (hb : S.Bound (r.joined peer.roomId peer.peerId peer.virtualIp now) db r)
    (he : Enters r room peer) :
    ((cascading (joinTunnel base64 weather o (some key) peer)).run S).2.Recorded := by
  unfold Civ6LanBridge.joinTunnel
  rcases expectKey_command S.app S.app.wireguard.isSome key
    (fun key wireguard => wireguard.addPeer base64 weather.addPeer key peer.virtualIp) with ⟨res, s, he', hr, hdb⟩
  have hb₁ := hb.same hr hdb
  change (S.app.expectKey _ _ fun key => S.app.wgAddPeer base64 weather key peer.virtualIp) = _ at he'
  rw [run_cascading, he']
  cases res with
  | error e => exact hb₁.leave he _
  | ok _ => exact hb₁.joinRow he

theorem Recorded.joinRoom (h : S.Recorded) (payload : JoinRoomRequest) (fresh : PeerId) :
    ((cascading (Civ6LanBridge.joinRoom base64 weather o caller code payload fresh now)).run S).2.Recorded := by
  rcases h.bound with ⟨db, hb, hcovers⟩
  unfold Civ6LanBridge.joinRoom
  rcases checkJoin_leaves base64 S.app caller code payload with ⟨res, s₁, he₁, hs₁⟩
  have hb₁ := hb.of_stores hs₁
  rw [run_cascading, he₁]
  cases res with
  | error e => exact hb₁.recorded
  | ok roomCode =>
    dsimp only
    have hkey : ∃ key, payload.wireguardPublicKey = some key := by
      rcases checkJoin_ok he₁ with ⟨key, hkey, -⟩ | ⟨-, hnone, -⟩
      · exact ⟨key, hkey⟩
      · rw [show s₁.database = some db from hb₁.database] at hnone
        cases hnone
    rcases hkey with ⟨key, hkey⟩
    rw [run_cascading, hkey]
    rcases enterRoom_cases s₁ roomCode (payload.peerId.getD fresh) payload.requestedVirtualIp now with ⟨e, he₂⟩
      | ⟨roomId, ip, hadmits⟩
    · rw [show (S.after s₁).app.enterRoom _ _ _ _ = _ from he₂]
      exact (hb₁.of_stores rfl).recorded
    rcases hadmits.joined with ⟨⟨room, hr⟩, hp, hip, -⟩
    rcases hadmits.enterRoom with ⟨s₂, he₂, hs₂⟩
    rw [show (S.after s₁).app.enterRoom _ _ _ _ = _ from he₂]
    have hr₁ : s₁.router = S.app.router := hb₁.router
    rw [hr₁] at hr hp hip hs₂
    have hb₂ := hb₁.after (congrArg Stores.router hs₂) ((congrArg Stores.database hs₂).trans hb₁.database) hcovers
    let peer : PeerResponse := { roomId, peerId := payload.peerId.getD fresh, virtualIp := ip, connectionEpoch := 1 }
    exact @Bound.joinTunnel _ S.app.router db weather o now base64 room peer key hb₂ ⟨hr, hp, hip⟩

/-! ## Runs -/

/-- A room request, however the calls it makes go. -/
theorem Recorded.cascade (h : S.Recorded) (q : Request) : (q.cascade base64 o weather S).Recorded := by
  cases q with
  | createRoom caller roomCode fresh => exact h.createRoom roomCode fresh
  | joinRoom caller code payload fresh now => exact h.joinRoom payload fresh
  | resumeRoom caller code payload now => exact h.resumeRoom payload
  | deletePeer caller code p => exact h.deletePeer p
  | deleteRoom caller code => exact h.deleteRoom

theorem Recorded.serve (h : S.Recorded) {failure : Option SqlError} {dbNow : Timestamp} {q : SessionRequest}
    (hf : q.Fresh S) :
    Stored failure (q.serve failure caller code now dbNow S) (q.plain failure caller code now S.app) := by
  cases q with
  | registerHost payload fresh => exact (h.registerHost hf.1 hf.2).map
  | heartbeatHost payload => exact h.heartbeatHost.map
  | createGameplaySession payload fresh => exact (h.createGameplaySession hf.1 hf.2).map
  | deleteHost id => exact h.deleteHost

theorem handleDatagram_database (relayPort : UInt16) (h : s.router.WF) (source : SocketAddr) (packet : List UInt8)
    (limiterNow : Instant) : (handleDatagram o relayPort s source packet limiterNow now).2.database = s.database := by
  have hd := handleDatagram_handles o relayPort h source packet limiterNow now
  generalize handleDatagram o relayPort s source packet limiterNow now = x at hd
  cases hd <;> rfl

/-- A call to the router that adds nothing takes something away or leaves it as it was. -/
theorem exec_sheds (o : WalkOrder) (h : r.WF) (op : RouterOp) (hf : op.Fresh r) (hadds : ¬ op.Adds) :
    (op.exec o r).2.WF ∧ r.ledger.Sheds (op.exec o r).2.ledger := by
  rcases exec_does o h op with ⟨e, he⟩ | ⟨r', he, heff⟩
  · rw [he]
    exact ⟨h, .refl _⟩
  · rw [he]
    exact ⟨h.effect hf heff, effect_sheds h heff hadds⟩

/-- A turn of the relay loop only takes away. -/
theorem Recorded.wake (h : S.Recorded) (relayPort : UInt16) (wake : Wake) :
    SessionServer.Recorded { S with app := (wake.turn relayPort S.app).state } := by
  cases wake with
  | receiveFailed => exact h
  | tick o now =>
    rcases exec_sheds o h.wf (.expire now) trivial id with ⟨hw, hs⟩
    exact h.of_router hw hs rfl rfl
  | received o source datagram limiterNow now accepts =>
    rw [Wake.turn_state]
    have hseen : ∀ (r : RoomRouter) (p : PeerId) (t : Instant), r.WF ∧ S.app.router.ledger.Sheds r.ledger →
        (r.markPeerSeen p t).2.WF ∧ S.app.router.ledger.Sheds (r.markPeerSeen p t).2.ledger := fun r p t hr =>
      (exec_sheds o hr.1 (.markPeerSeen p t) trivial id).imp id hr.2.trans
    have hdispatch : ∀ (r : RoomRouter) (ingress : RelayIngress), r.WF ∧ S.app.router.ledger.Sheds r.ledger →
        (dispatch o r ingress).2.WF ∧ S.app.router.ledger.Sheds (dispatch o r ingress).2.ledger := by
      intro r ingress hr
      have hd := exec_sheds o hr.1 (.dispatch ingress) trivial id
      rw [RouterOp.exec, Outcome.map_snd] at hd
      exact hd.imp id hr.2.trans
    rcases handleDatagram_router (P := fun r => r.WF ∧ S.app.router.ledger.Sheds r.ledger) (o := o) (s := S.app)
      (datagram.take maxRelayDatagramSize) ⟨h.wf, .refl _⟩ hseen hdispatch with ⟨hw, hs⟩
    exact h.of_router hw hs rfl (handleDatagram_database relayPort h.wf source _ limiterNow)

theorem Opens.recorded (h : S.Opens) : S.Recorded := by
  rcases h.rooms with ⟨db, hdb, hrooms, hpeers⟩
  refine ⟨h.wf, ⟨db, hdb, fun x hx => hrooms x fun hnone => hx ?_, hpeers⟩, fun k host hk => ?_, fun k session hk => ?_⟩
  · show (S.app.router.rooms[x]?).map RoomState.code = none
    rw [hnone]
    rfl
  · change S.app.router.hosts[k]? = some host at hk
    rw [h.hosts] at hk
    simp at hk
  · change S.app.router.gameplay[k]? = some session at hk
    rw [h.gameplay] at hk
    simp at hk

theorem Reachable.recorded (h : Reachable base64 S) : S.Recorded := by
  refine Transition.Reachable.invariant (P := Recorded) (fun S hS => hS.recorded) ?_ h
  rintro S S' _ hS hst
  cases hst with
  | session failure caller code now dbNow q hf => exact (hS.serve hf).recorded
  | room o weather q => exact hS.cascade q
  | wake relayPort wake => exact hS.wake relayPort wake

/-- As long as requests come one at a time, every host session of the router has its row, for the same room and peer,
and every gameplay session has its row, for the same room and client and on the host session that the session is on. So
no statement on a session violates a constraint, no heartbeat misses its row, and a request on sessions is never
answered with an internal error unless its statement fails by itself. -/
theorem sessions_are_recorded (h : Reachable base64 S) :
    (∀ (k : HostSessionId) (host : HostState), S.app.router.hosts[k]? = some host →
      ∃ row : HostSessionRow, S.tables.hosts[k]? = some row ∧ row.roomId = host.roomId ∧ row.peerId = host.peerId) ∧
    (∀ (k : GameplaySessionId) (session : GameplayState), S.app.router.gameplay[k]? = some session →
      ∃ (row : GameplaySessionRow) (host : HostState), S.tables.gameplay[k]? = some row ∧ row.roomId = session.roomId ∧
        row.clientPeerId = session.clientPeerId ∧ S.app.router.hosts[row.hostSessionId]? = some host ∧
        host.roomId = session.roomId ∧ host.peerId = session.hostPeerId) ∧
    ∀ (q : SessionRequest) (caller : Caller) (code : String) (now : Instant) (dbNow : Timestamp), q.Fresh S →
      Faultless (q.serve none caller code now dbNow S).1 := by
  have hS := h.recorded
  refine ⟨fun k host hk => ?_, fun k session hk => ?_, fun q caller code now dbNow hf => (hS.serve hf).faultless rfl⟩
  · rcases hS.tables.host k host hk with ⟨row, hrow, howner⟩
    exact ⟨row, hrow, congrArg Prod.fst howner, congrArg Prod.snd howner⟩
  · rcases hS.tables.gameplay k session hk with ⟨row, host, hrow, hroom, hclient, hid, hon⟩
    exact ⟨row, host, hrow, hroom, hclient, hid, congrArg Prod.fst hon, congrArg Prod.snd hon⟩

/-! ## The server without the tables -/

theorem cascading_app {α : Type} (p : Handler α) :
    ∀ S : SessionServer, ((cascading p).run S).2.app = (p.run S.app).2 := by
  induction p with
  | done => exact fun _ => rfl
  | step label act next ih => exact fun S => ih (S.app) (S.after (act S.app))

theorem cascade_app (q : Request) : (q.cascade base64 o weather S).app = q.serve base64 o weather S.app := by
  cases q <;> exact cascading_app _ _

/-- A step of the server where the tables of sessions are left out. -/
inductive PlainStep (base64 : String → Option (List UInt8)) (s : AppState) : AppState → Prop
  | session (failure : Option SqlError) (caller : Caller) (code : String) (now : Instant) (q : SessionRequest) :
      PlainStep base64 s (q.plain failure caller code now s).2
  | room (o : WalkOrder) (weather : Weather) (q : Request) : PlainStep base64 s (q.serve base64 o weather s)
  | wake (relayPort : UInt16) (wake : Wake) : PlainStep base64 s (wake.turn relayPort s).state

/-- A server with the tables is never seen to do what one without them does not: what it comes to is what the other can
come to, and each of its requests on sessions has the answer and the effect that the request has there with the same
failure. -/
theorem tables_go_unnoticed (h : Reachable base64 S) :
    Transition.Reachable (fun s => ∃ S₀ : SessionServer, S₀.Opens ∧ S₀.app = s) (PlainStep base64) S.app ∧
      ∀ (failure : Option SqlError) (q : SessionRequest) (caller : Caller) (code : String) (now : Instant)
        (dbNow : Timestamp),
        q.Fresh S → ((q.serve failure caller code now dbNow S).1, (q.serve failure caller code now dbNow S).2.app) =
          q.plain failure caller code now S.app := by
  refine ⟨Transition.Reachable.map SessionServer.app (fun S₀ hS₀ => ⟨S₀, hS₀, rfl⟩) (fun S S' hS hst => Or.inl ?_) h,
    fun failure q caller code now dbNow hf => Prod.ext (h.recorded.serve hf).answer (h.recorded.serve hf).app⟩
  cases hst with
  | session failure caller code now dbNow q hf =>
    rw [(Reachable.recorded hS |>.serve hf).app]
    exact .session failure caller code now q
  | room o weather q =>
    rw [cascade_app]
    exact .room o weather q
  | wake relayPort wake => exact .wake relayPort wake

end SessionServer

/-! ## A peer that hosts -/

namespace SessionServer

namespace Example

open Civ6LanBridge.Example (bearerToken subnet caller joining zeros base64)
open RoomRouter.Example (code room peer host)

def opened : SessionServer := { app := .fresh bearerToken subnet, tables := .clearEphemeralSessions }

theorem opened_opens : opened.Opens where
  wf := new_wf {}
  hosts := rfl
  gameplay := rfl
  rooms := ⟨.empty, rfl, fun x hx => absurd ExtTreeMap.getElem?_empty hx, fun p peer hp => by
    change (∅ : ExtTreeMap PeerId PeerState)[p]? = some peer at hp
    rw [ExtTreeMap.getElem?_empty] at hp
    cases hp⟩
  tables := rfl

/-- A room with one peer. -/
def joined : SessionServer :=
  Request.cascade base64 .sorted {} (Request.cascade base64 .sorted {} opened (.createRoom caller code room))
    (.joinRoom caller "RMAAAA" (joining peer zeros) peer 0)

/-- The peer hosts. -/
def hosting : SessionServer :=
  (SessionRequest.serve none caller "RMAAAA" 0 0 joined (.registerHost { peerId := peer } host)).2

theorem hosts_fresh : joined.app.router.hosts[host]? = none := by decide +kernel

theorem tables_fresh : joined.tables.hosts[host]? = none := by decide +kernel

theorem hosting_reachable : Reachable base64 hosting :=
  .step (.step (.step (.init opened_opens) (.room .sorted {} _)) (.room .sorted {} _))
    (.session none caller "RMAAAA" 0 0 (.registerHost { peerId := peer } host) ⟨hosts_fresh, tables_fresh⟩)

end Example

open RoomRouter.Example (room peer host)

theorem hosting_is_recorded : ∃ row : HostSessionRow, Example.hosting.tables.hosts[host]? = some row ∧
    row.peerId = peer := by
  have hhost : (Example.hosting.app.router.hosts[host]?).map HostState.peerId = some peer := by decide +kernel
  rcases Option.map_eq_some_iff.1 hhost with ⟨state, hk, hpeer⟩
  rcases (sessions_are_recorded Example.hosting_reachable).1 host state hk with ⟨row, hrow, -, hrowPeer⟩
  exact ⟨row, hrow, hrowPeer.trans hpeer⟩

theorem hosting_unnoticed :
    (SessionRequest.serve (some .unavailable) Civ6LanBridge.Example.caller "RMAAAA" 1 1 Example.hosting
      (.heartbeatHost { peerId := peer, hostSessionId := host })).1 =
    (SessionRequest.plain (some .unavailable) Civ6LanBridge.Example.caller "RMAAAA" 1 Example.hosting.app
      (.heartbeatHost { peerId := peer, hostSessionId := host })).1 :=
  congrArg Prod.fst ((tables_go_unnoticed Example.hosting_reachable).2 (some .unavailable)
    (.heartbeatHost { peerId := peer, hostSessionId := host }) Civ6LanBridge.Example.caller "RMAAAA" 1 1 trivial)

end SessionServer

end Civ6LanBridge

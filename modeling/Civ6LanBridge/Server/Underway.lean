/-
Requests under way, and the rooms they create and delete: the stages of `create_room` and of `delete_room`, the races
that they may lose, and what is kept from one turn to the next when none is lost.
-/
import Civ6LanBridge.Server.Deletion
import Civ6LanBridge.Server.Rooms

namespace Civ6LanBridge

open Std FinMap Bytes Past RoomRouter Prog Handler AppState Mirror

/-! ## Requests that are under way -/

/-- A request, with how its calls to the database and to `wg` go and the order in which the server walks its tables. -/
structure Job where
  order : WalkOrder
  weather : Weather
  request : Request

namespace Job

/-- The answer without what it says of the peer or the room. -/
def plain {α : Type} (p : Handler α) : Handler Unit := p.map fun answer => answer.map fun _ => ()

/-- The handler of the request. -/
def program (base64 : String → Option (List UInt8)) (q : Job) : Handler Unit :=
  match q.request with
  | .createRoom caller roomCode fresh => plain (createRoom q.weather caller roomCode fresh)
  | .joinRoom caller code payload fresh now => plain (joinRoom base64 q.weather q.order caller code payload fresh now)
  | .resumeRoom caller code payload now => plain (resumeRoom caller code payload now)
  | .deletePeer caller code peerId => deletePeer base64 q.weather q.order peerId caller code
  | .deleteRoom caller code => deleteRoom q.weather caller code

/-- The request is to create the room, under the identifier drawn for it. -/
def Creates (q : Job) (x : RoomId) : Prop := ∃ caller roomCode, q.request = .createRoom caller roomCode x

/-- The request is to delete the room with the code. -/
def Deletes (q : Job) (roomCode : RoomCode) : Prop :=
  ∃ caller code, q.request = .deleteRoom caller code ∧ parseRoomCode code = .ok roomCode

end Job

/-! The rest of `create_room` and of `delete_room`, from each of their steps on. -/

section

variable (weather : Weather) (roomCode : RoomCode) (x : RoomId)

def withdrawRoom : Handler RoomSnapshot :=
  atomically .removeEmptyRoom (fun s => s.routed fun r => r.removeEmptyRoom x) fun _ =>
    fail (.internal (.text "database write failed"))

def recordRoom (snapshot : RoomSnapshot) : Handler RoomSnapshot :=
  atomically .dbInsertRoom (fun s => s.dbInsertRoom weather snapshot.roomId snapshot.code) fun
    | .ok () => answer snapshot
    | .error _ => withdrawRoom snapshot.roomId

def publishRoom : Handler RoomSnapshot :=
  atomically .createRoom (fun s => s.createRoom roomCode x) fun
    | .error e => stop e
    | .ok snapshot => recordRoom weather snapshot

theorem createRoom_eq (caller : Caller) : createRoom weather caller roomCode x =
    atomically .requireBearer (fun s => s.requireBearer caller) fun
      | .error e => fail e
      | .ok () => publishRoom weather roomCode x := rfl

def dropRoom : Handler Unit := atomically .removeEmptyRoom (fun s => s.routed fun r => r.removeEmptyRoom x) .done

def strikeRoom : Handler Unit :=
  atomically .dbDeleteRoom (fun s => s.dbDeleteRoom weather x) fun
    | .error _ => fail (.internal (.text "database delete failed"))
    | .ok () => dropRoom x

def locateRoom : Handler Unit :=
  atomically .findEmptyRoom (fun s => (s.findEmptyRoom roomCode, s)) fun
    | .error e => fail e
    | .ok roomId => strikeRoom weather roomId

theorem deleteRoom_eq (caller : Caller) (code : String) : deleteRoom weather caller code =
    atomically .requireBearer (fun s => s.authorizeRoom caller code) fun
      | .error e => fail e
      | .ok roomCode => locateRoom weather roomCode := rfl

end

/-- The answer is that the room cannot be deleted now. -/
def IsConflict (answer : Answer Unit) : Prop := ∃ message, answer = .error (.error (.conflict message))

/-- How far a request has come: what is left of it, and what that means for the rooms. -/
inductive Doing (q : Job) : Handler Unit → Stage RoomId → Prop
  | sparing {p : Handler Unit} : (∀ x, ¬ q.Creates x) → (∀ caller code, q.request ≠ .deleteRoom caller code) →
      p.Keeps Spares → Doing q p .idle
  | creating {caller : Caller} {roomCode : RoomCode} {x : RoomId} : q.request = .createRoom caller roomCode x →
      Doing q (Job.plain (createRoom q.weather caller roomCode x)) (.entering x)
  | publishing {caller : Caller} {roomCode : RoomCode} {x : RoomId} : q.request = .createRoom caller roomCode x →
      Doing q (Job.plain (publishRoom q.weather roomCode x)) (.entering x)
  | recording {caller : Caller} {snapshot : RoomSnapshot} : q.request =
      .createRoom caller snapshot.code snapshot.roomId →
      Doing q (Job.plain (recordRoom q.weather snapshot)) (.recording snapshot.roomId)
  | withdrawing {x : RoomId} : q.Creates x → Doing q (Job.plain (withdrawRoom x)) (.withdrawing x)
  | created {x : RoomId} : q.Creates x → Doing q (.done (.ok ())) .idle
  | failed {x : RoomId} {e : Fault ApiError} : q.Creates x → Doing q (.done (.error e)) (.failed x)
  | deleting {caller : Caller} {code : String} : q.request = .deleteRoom caller code →
      Doing q (deleteRoom q.weather caller code) .looking
  | locating {roomCode : RoomCode} : q.Deletes roomCode → Doing q (locateRoom q.weather roomCode) .looking
  | striking {x : RoomId} {roomCode : RoomCode} : q.Deletes roomCode → Doing q (strikeRoom q.weather x) (.striking x)
  | dropping {x : RoomId} {roomCode : RoomCode} {struck : Bool} : q.Deletes roomCode →
      Doing q (dropRoom x) (.dropping x struck)
  | deleted {answer : Answer Unit} : (∀ x, ¬ q.Creates x) → ¬ IsConflict answer → Doing q (.done answer) .idle
  | refused {answer : Answer Unit} : (∀ x, ¬ q.Creates x) → Doing q (.done answer) .refused

/-! ## Races -/

/-- One turn of a server on which requests run side by side with one another and with sweeps. -/
abbrev RoomMove := Move (Pool Call AppState (Answer Unit)) (Pool.Turn (WalkOrder × Instant))

/-- The move leaves router and database as they are. -/
def Untouched (m : RoomMove) : Prop :=
  m.after.shared.router = m.before.shared.router ∧ m.after.shared.database = m.before.shared.database

section

variable (requests : List Job) (h : List RoomMove) (i : Nat) (x : RoomId)

/-- The request has found the room it is to delete. -/
def Located : Prop :=
  ∃ m ∈ h, ∃ q roomCode, m.event = .program i ∧ m.before.label i = some .findEmptyRoom ∧ requests[i]? = some q ∧
    q.Deletes roomCode ∧ m.before.shared.findEmptyRoom roomCode = .ok x

/-- The request has changed something. -/
def Touched : Prop := ∃ m ∈ h, m.event = .program i ∧ ¬ Untouched m

end

/-- The ways in which a request loses a race, in view of what has happened before. -/
inductive Races (requests : List Job) (h : List RoomMove) (m : RoomMove) : Prop
  /-- The row of a room is written that has been deleted in the meantime. -/
  | lateRow {i : Nat} {q : Job} {caller : Caller} {x : RoomId} {roomCode : RoomCode} : m.event = .program i →
      m.before.label i = some .dbInsertRoom → requests[i]? = some q → q.request = .createRoom caller roomCode x →
      (m.before.shared.dbInsertRoom q.weather x roomCode).1 = .ok () → x ∉ m.before.shared.rooms → Races requests h m
  /-- A room is to be taken back, because its row could not be written, and somebody has joined it. -/
  | lateUndo {i : Nat} {q : Job} {x : RoomId} : m.event = .program i → m.before.label i = some .removeEmptyRoom →
      requests[i]? = some q → q.Creates x → m.before.shared.Occupied x → Races requests h m
  /-- A room is to be removed whose row has been deleted, and somebody has joined it. -/
  | lateGuest {i : Nat} {x : RoomId} : m.event = .program i → m.before.label i = some .removeEmptyRoom →
      Located requests h i x → Touched h i → m.before.shared.Occupied x → Races requests h m
  /-- A room is removed whose row has been written after it was to be deleted. -/
  | lateDelete {i : Nat} {x : RoomId} : m.event = .program i → m.before.label i = some .removeEmptyRoom →
      Located requests h i x → x ∈ m.before.shared.rooms → ¬ m.before.shared.Occupied x → x ∈ m.before.shared.rows →
      Races requests h m

/-! ## The outline -/

/-- The request has changed nothing so far, and if it is over it has been refused. -/
def Spotless : Stage RoomId → Prop
  | .looking | .striking _ | .dropping _ false | .refused => True
  | _ => False

/-- The request has found the room. -/
def Locates (x : RoomId) : Stage RoomId → Prop
  | .striking y | .dropping y _ => y = x
  | _ => False

/-- What requests and sweeps keep between them. -/
structure Upkeep (requests : List Job) (h : List RoomMove) (s : AppState) (st : Nat → Stage RoomId) : Prop where
  router : s.router.WF
  database : s.database.isSome
  mirror : Mirror.Inv s.rooms s.rows st
  located : ∀ i x, Locates x (st i) → Located requests h i x
  spotless : ∀ i, Spotless (st i) → ¬ Touched h i
  touched : ∀ i x, st i = .dropping x true → Touched h i

section

variable {requests : List Job} {h : List RoomMove} {s s' : AppState} {st : Nat → Stage RoomId} {m : RoomMove} {i : Nat}
  {t : Stage RoomId}

theorem Located.cons {x : RoomId} (hl : Located requests h i x) : Located requests (m :: h) i x := by
  rcases hl with ⟨m', hm', hrest⟩
  exact ⟨m', List.mem_cons_of_mem _ hm', hrest⟩

theorem touched_cons : Touched (m :: h) i ↔ m.event = .program i ∧ ¬ Untouched m ∨ Touched h i := by
  unfold Touched
  simp

/-- One turn of a request. -/
theorem Upkeep.turn (hu : Upkeep requests h s st) (hm : m.event = .program i) (hrouter : s'.router.WF)
    (hdb : s'.database.isSome) {st₀ : Stage RoomId} (hst : st i = st₀)
    (hacts : Acts s.rooms s.rows st₀ t s'.rooms s'.rows) (hlocated : ∀ x, Locates x t → Located requests (m :: h) i x)
    (hspotless : Spotless t → Spotless st₀ ∧ Untouched m) (htouched : ∀ x, t = .dropping x true → ¬ Untouched m) :
    Upkeep requests (m :: h) s' (Function.update st i t) where
  router := hrouter
  database := hdb
  mirror := hu.mirror.step hst hacts
  located := fun j x hj => by
    by_cases e : j = i
    · subst e
      rw [Function.update_self] at hj
      exact hlocated x hj
    · rw [Function.update_of_ne e] at hj
      exact (hu.located j x hj).cons
  spotless := fun j hj => by
    rw [touched_cons]
    by_cases e : j = i
    · subst e
      rw [Function.update_self] at hj
      rcases hspotless hj with ⟨h₀, hun⟩
      rintro (⟨-, hm'⟩ | ht)
      · exact hm' hun
      · exact hu.spotless j (by rw [hst]; exact h₀) ht
    · rw [Function.update_of_ne e] at hj
      rintro (⟨hm', -⟩ | ht)
      · rw [hm] at hm'
        cases hm'
        exact e rfl
      · exact hu.spotless j hj ht
  touched := fun j x hj => by
    rw [touched_cons]
    by_cases e : j = i
    · subst e
      rw [Function.update_self] at hj
      exact Or.inl ⟨hm, htouched x hj⟩
    · rw [Function.update_of_ne e] at hj
      exact Or.inr (hu.touched j x hj)

/-- One turn of the environment. -/
theorem Upkeep.spare (hu : Upkeep requests h s st) (hm : ∀ i, m.event ≠ .program i) (hs : Spares s s') :
    Upkeep requests (m :: h) s' st where
  router := (hs.router hu.router).1
  database := by
    rw [hs.database]
    exact hu.database
  mirror := by
    rw [(hs.router hu.router).2, hs.rows]
    exact hu.mirror
  located := fun j x hj => (hu.located j x hj).cons
  spotless := fun j hj => by
    rw [touched_cons]
    rintro (⟨hm', -⟩ | ht)
    · exact hm j hm'
    · exact hu.spotless j hj ht
  touched := fun j x hj => touched_cons.2 (Or.inr (hu.touched j x hj))

end

/-! ## One step of a request -/

section

variable {requests : List Job} {h : List RoomMove} {Q : Pool Call AppState (Answer Unit)} {st : Nat → Stage RoomId}
  {i : Nat} {q : Job} {p : Handler Unit}

/-- The move that the request makes next. -/
def nextMove (Q : Pool Call AppState (Answer Unit)) (i : Nat) : RoomMove :=
  { before := Q, event := .program i, after := Q.take sweeps (.program i) }

/-- The request gets to another stage, and what is kept stays kept. -/
def Proceeds (requests : List Job) (h : List RoomMove) (Q : Pool Call AppState (Answer Unit)) (st : Nat → Stage RoomId)
    (i : Nat) (q : Job) (p : Handler Unit) : Prop :=
  ∃ t, Doing q (p.rest Q.shared) t ∧ Upkeep requests (nextMove Q i :: h) (p.act Q.shared) (Function.update st i t)

theorem nextMove_untouched (hp : Q.programs[i]? = some p) : Untouched (nextMove Q i) ↔
    (p.act Q.shared).router = Q.shared.router ∧ (p.act Q.shared).database = Q.shared.database := by
  unfold Untouched nextMove
  rw [Pool.take_program hp]

/-- A step that leaves the stores alone. -/
theorem Upkeep.stay (hu : Upkeep requests h Q.shared st) (hp : Q.programs[i]? = some p) {st₀ t : Stage RoomId}
    (hst : st i = st₀) (hstores : (p.act Q.shared).stores = Q.shared.stores)
    (hacts : Acts Q.shared.rooms Q.shared.rows st₀ t Q.shared.rooms Q.shared.rows)
    (hlocated : ∀ x, Locates x t → Located requests (nextMove Q i :: h) i x) (hspotless : Spotless t → Spotless st₀)
    (htouched : ∀ x, t ≠ .dropping x true) :
    Upkeep requests (nextMove Q i :: h) (p.act Q.shared) (Function.update st i t) := by
  have hr : (p.act Q.shared).router = Q.shared.router := congrArg Stores.router hstores
  have hdb : (p.act Q.shared).database = Q.shared.database := congrArg Stores.database hstores
  refine hu.turn rfl (by rw [hr]; exact hu.router) (by rw [hdb]; exact hu.database) hst ?_ hlocated
    (fun ht => ⟨hspotless ht, (nextMove_untouched hp).2 ⟨hr, hdb⟩⟩) fun x hx => absurd hx (htouched x)
  rw [rooms_of_code (congrArg (fun r => r.ledger.code) hr), rows_of_database hdb]
  exact hacts

theorem creating_proceeds {caller : Caller} {roomCode : RoomCode} {x : RoomId} (hu : Upkeep requests h Q.shared st)
    (hst : st i = .entering x) (hq : q.request = .createRoom caller roomCode x)
    (hp : Q.programs[i]? = some (Job.plain (createRoom q.weather caller roomCode x))) :
    Proceeds requests h Q st i q (Job.plain (createRoom q.weather caller roomCode x)) := by
  have hrest : (Job.plain (createRoom q.weather caller roomCode x)).rest Q.shared =
      Job.plain (match (Q.shared.requireBearer caller).1 with
        | .error e => fail e
        | .ok () => publishRoom q.weather roomCode x) := by
    rw [createRoom_eq]
    rfl
  rcases requireBearer_leaves Q.shared caller with ⟨res, s', he, hs⟩
  have hstores : ((Job.plain (createRoom q.weather caller roomCode x)).act Q.shared).stores = Q.shared.stores := by
    show (Q.shared.requireBearer caller).2.stores = _
    rw [he]
    exact hs
  unfold Proceeds
  rw [hrest, he]
  cases res with
  | error e => exact ⟨.failed x, .failed ⟨caller, roomCode, hq⟩, hu.stay hp hst hstores .decline nofun nofun nofun⟩
  | ok _ => exact ⟨.entering x, .publishing hq, hu.stay hp hst hstores .wait nofun nofun nofun⟩

theorem publishing_proceeds {caller : Caller} {roomCode : RoomCode} {x : RoomId} (hu : Upkeep requests h Q.shared st)
    (hst : st i = .entering x) (hq : q.request = .createRoom caller roomCode x)
    (hp : Q.programs[i]? = some (Job.plain (publishRoom q.weather roomCode x))) :
    Proceeds requests h Q st i q (Job.plain (publishRoom q.weather roomCode x)) := by
  unfold Proceeds
  have hact : (Job.plain (publishRoom q.weather roomCode x)).act Q.shared = (Q.shared.createRoom roomCode x).2 := rfl
  have hrest : (Job.plain (publishRoom q.weather roomCode x)).rest Q.shared =
      Job.plain (match (Q.shared.createRoom roomCode x).1 with
        | .error e => stop e
        | .ok snapshot => recordRoom q.weather snapshot) := rfl
  rcases createRoom_rooms Q.shared roomCode x with ⟨e, he⟩ | ⟨s', he, hw, hdb, hrooms⟩
  · refine ⟨.failed x, ?_, hu.stay hp hst (by rw [hact, he]) .decline nofun nofun nofun⟩
    rw [hrest, he]
    exact .failed ⟨caller, roomCode, hq⟩
  · refine ⟨.recording x, ?_, ?_⟩
    · rw [hrest, he]
      exact @Doing.recording q caller { roomId := x, code := roomCode, memberCount := 0, hostCount := 0 } hq
    rw [hact, he]
    refine hu.turn rfl (hw hu.router) (by rw [hdb]; exact hu.database) hst ?_ nofun nofun nofun
    rw [hrooms, rows_of_database hdb]
    exact .publish

theorem recording_proceeds {caller : Caller} {snapshot : RoomSnapshot} (hu : Upkeep requests h Q.shared st)
    (hst : st i = .recording snapshot.roomId) (hi : requests[i]? = some q)
    (hq : q.request = .createRoom caller snapshot.code snapshot.roomId)
    (hp : Q.programs[i]? = some (Job.plain (recordRoom q.weather snapshot))) (hok : ¬ Races requests h (nextMove Q i)) :
    Proceeds requests h Q st i q (Job.plain (recordRoom q.weather snapshot)) := by
  unfold Proceeds
  have hact : (Job.plain (recordRoom q.weather snapshot)).act Q.shared =
      (Q.shared.dbInsertRoom q.weather snapshot.roomId snapshot.code).2 := rfl
  have hrest : (Job.plain (recordRoom q.weather snapshot)).rest Q.shared =
      Job.plain (match (Q.shared.dbInsertRoom q.weather snapshot.roomId snapshot.code).1 with
        | .ok () => answer snapshot
        | .error _ => withdrawRoom snapshot.roomId) := rfl
  have hlabel : Q.label i = some .dbInsertRoom := Pool.label_eq hp
  rcases dbInsertRoom_rows hu.database q.weather snapshot.roomId snapshot.code with ⟨e, he⟩ | ⟨s', he, hr, hdb, hrows⟩
  · refine ⟨.withdrawing snapshot.roomId, ?_, hu.stay hp hst (by rw [hact, he]) .lose nofun nofun nofun⟩
    rw [hrest, he]
    exact .withdrawing ⟨caller, snapshot.code, hq⟩
  · -- the router still has the room, or else the race is lost
    have hroom : snapshot.roomId ∈ Q.shared.rooms := by
      by_contra hgone
      exact hok (.lateRow rfl hlabel hi hq (congrArg Prod.fst he) hgone)
    refine ⟨.idle, ?_, ?_⟩
    · rw [hrest, he]
      exact .created ⟨caller, snapshot.code, hq⟩
    rw [hact, he]
    refine hu.turn rfl (by rw [hr]; exact hu.router) hdb hst ?_ nofun nofun nofun
    rw [hrows, rooms_of_code (congrArg (fun r => r.ledger.code) hr)]
    exact .record hroom

theorem withdrawing_proceeds {x : RoomId} (hu : Upkeep requests h Q.shared st) (hst : st i = .withdrawing x)
    (hi : requests[i]? = some q) (hq : q.Creates x) (hp : Q.programs[i]? = some (Job.plain (withdrawRoom x)))
    (hok : ¬ Races requests h (nextMove Q i)) : Proceeds requests h Q st i q (Job.plain (withdrawRoom x)) := by
  refine ⟨.failed x, .failed hq, ?_⟩
  have hact : (Job.plain (withdrawRoom x)).act Q.shared = (Q.shared.routed fun r => r.removeEmptyRoom x).2 := rfl
  have hlabel : Q.label i = some .removeEmptyRoom := Pool.label_eq hp
  rw [hact]
  rcases removeEmptyRoom_rooms Q.shared x with ⟨he, hgone⟩ | ⟨-, hocc⟩ | ⟨s', he, hw, hdb, -, -, hrooms⟩
  · rw [he]
    refine hu.turn rfl hu.router hu.database hst ?_ nofun nofun nofun
    have hacts := Acts.withdraw (A := Q.shared.rooms) (B := Q.shared.rows) (x := x)
    rwa [Set.sdiff_singleton_eq_self hgone] at hacts
  · exact absurd (.lateUndo rfl hlabel hi hq hocc) hok
  · rw [he]
    refine hu.turn rfl (hw hu.router) (by rw [hdb]; exact hu.database) hst ?_ nofun nofun nofun
    rw [hrooms, rows_of_database hdb]
    exact .withdraw

theorem Job.Deletes.not_creates {roomCode : RoomCode} (hq : q.Deletes roomCode) (x : RoomId) : ¬ q.Creates x := by
  rcases hq with ⟨caller, code, hq, -⟩
  rintro ⟨caller', roomCode', hq'⟩
  rw [hq] at hq'
  cases hq'

/-- A request to delete a room that is answered before it has changed anything. -/
theorem Upkeep.answered (hu : Upkeep requests h Q.shared st) (hp : Q.programs[i]? = some p) {st₀ : Stage RoomId}
    (hst : st i = st₀) (hstores : (p.act Q.shared).stores = Q.shared.stores) {answer : Answer Unit}
    (hrest : p.rest Q.shared = .done answer) (hq : ∀ x, ¬ q.Creates x) (hspotless : IsConflict answer → Spotless st₀)
    (hleave : ∀ t, t = .idle ∨ t = .refused → Acts Q.shared.rooms Q.shared.rows st₀ t Q.shared.rooms Q.shared.rows) :
    Proceeds requests h Q st i q p := by
  unfold Proceeds
  rw [hrest]
  by_cases hconflict : IsConflict answer
  · exact ⟨.refused, .refused hq,
      hu.stay hp hst hstores (hleave _ (.inr rfl)) nofun (fun _ => hspotless hconflict) nofun⟩
  · exact ⟨.idle, .deleted hq hconflict, hu.stay hp hst hstores (hleave _ (.inl rfl)) nofun nofun nofun⟩

theorem deleting_proceeds {caller : Caller} {code : String} (hu : Upkeep requests h Q.shared st) (hst : st i = .looking)
    (hq : q.request = .deleteRoom caller code) (hp : Q.programs[i]? = some (deleteRoom q.weather caller code)) :
    Proceeds requests h Q st i q (deleteRoom q.weather caller code) := by
  have hrest : (deleteRoom q.weather caller code).rest Q.shared =
      match (Q.shared.authorizeRoom caller code).1 with
      | .error e => fail e
      | .ok roomCode => locateRoom q.weather roomCode := by
    rw [deleteRoom_eq]
    rfl
  rcases authorizeRoom_leaves Q.shared caller code with ⟨res, s', he, hs⟩
  have hstores : ((deleteRoom q.weather caller code).act Q.shared).stores = Q.shared.stores := by
    show (Q.shared.authorizeRoom caller code).2.stores = _
    rw [he]
    exact hs
  cases res with
  | error e =>
    rw [he] at hrest
    refine hu.answered hp hst hstores hrest ?_ (fun _ => trivial) fun t ht => .leave (fun x => ⟨id, id⟩) ht
    rintro x ⟨caller', roomCode', hq'⟩
    rw [hq] at hq'
    cases hq'
  | ok roomCode =>
    refine ⟨.looking, ?_, hu.stay hp hst hstores .look nofun (fun _ => trivial) nofun⟩
    rw [hrest, he]
    exact .locating ⟨caller, code, hq, authorizeRoom_code (congrArg Prod.fst he)⟩

theorem locating_proceeds {roomCode : RoomCode} (hu : Upkeep requests h Q.shared st) (hst : st i = .looking)
    (hi : requests[i]? = some q) (hq : q.Deletes roomCode)
    (hp : Q.programs[i]? = some (locateRoom q.weather roomCode)) :
    Proceeds requests h Q st i q (locateRoom q.weather roomCode) := by
  have hrest : (locateRoom q.weather roomCode).rest Q.shared =
      match Q.shared.findEmptyRoom roomCode with
      | .error e => fail e
      | .ok roomId => strikeRoom q.weather roomId := rfl
  cases hfind : Q.shared.findEmptyRoom roomCode with
  | error e =>
    rw [hfind] at hrest
    exact hu.answered hp hst rfl hrest hq.not_creates (fun _ => trivial) fun t ht => .leave (fun x => ⟨id, id⟩) ht
  | ok x =>
    refine ⟨.striking x, ?_, hu.stay hp hst rfl .find ?_ (fun _ => trivial) nofun⟩
    · rw [hrest, hfind]
      exact .striking hq
    · rintro y rfl
      exact ⟨_, List.mem_cons_self, q, roomCode, rfl, Pool.label_eq hp, hi, hq, hfind⟩

theorem striking_proceeds {roomCode : RoomCode} {x : RoomId} (hu : Upkeep requests h Q.shared st)
    (hst : st i = .striking x) (hq : q.Deletes roomCode) (hp : Q.programs[i]? = some (strikeRoom q.weather x)) :
    Proceeds requests h Q st i q (strikeRoom q.weather x) := by
  have hact : (strikeRoom q.weather x).act Q.shared = (Q.shared.dbDeleteRoom q.weather x).2 := rfl
  have hrest : (strikeRoom q.weather x).rest Q.shared =
      match (Q.shared.dbDeleteRoom q.weather x).1 with
      | .error _ => fail (.internal (.text "database delete failed"))
      | .ok () => dropRoom x := rfl
  rcases dbDeleteRoom_rows hu.database q.weather x with ⟨e, he⟩ | ⟨s', he, hr, hdb, hrows⟩
  · rw [he] at hrest
    exact hu.answered hp hst (by rw [hact, he]) hrest hq.not_creates (fun _ => trivial) fun t ht =>
      .leave (fun y => ⟨id, id⟩) ht
  have hlocated : ∀ y, x = y → Located requests (nextMove Q i :: h) i y := by
    rintro y rfl
    exact (hu.located i x (by rw [hst]; exact rfl)).cons
  have hrooms : s'.rooms = Q.shared.rooms := rooms_of_code (congrArg (fun r => r.ledger.code) hr)
  unfold Proceeds
  rw [hrest, hact, he]
  have hun : Untouched (nextMove Q i) ↔ s'.router = Q.shared.router ∧ s'.database = Q.shared.database := by
    rw [nextMove_untouched hp, hact, he]
  by_cases hsame : s'.database = Q.shared.database
  · refine ⟨.dropping x false, .dropping hq, hu.turn rfl (by rw [hr]; exact hu.router) hdb hst ?_ hlocated
      (fun _ => ⟨trivial, hun.2 ⟨hr, hsame⟩⟩) nofun⟩
    rw [hrooms, hrows]
    refine .strike fun hx => ?_
    -- a row that was there has been deleted
    rw [← rows_of_database hsame, hrows] at hx
    exact absurd rfl hx.2
  · refine ⟨.dropping x true, .dropping hq, hu.turn rfl (by rw [hr]; exact hu.router) hdb hst ?_ hlocated nofun
      fun _ _ hm => hsame (hun.1 hm).2⟩
    rw [hrooms, hrows]
    exact .strike fun _ => rfl

theorem dropping_proceeds {roomCode : RoomCode} {x : RoomId} {struck : Bool} (hu : Upkeep requests h Q.shared st)
    (hst : st i = .dropping x struck) (hq : q.Deletes roomCode) (hp : Q.programs[i]? = some (dropRoom x))
    (hok : ¬ Races requests h (nextMove Q i)) : Proceeds requests h Q st i q (dropRoom x) := by
  have hact : (dropRoom x).act Q.shared = (Q.shared.routed fun r => r.removeEmptyRoom x).2 := rfl
  have hrest : (dropRoom x).rest Q.shared = .done (Q.shared.routed fun r => r.removeEmptyRoom x).1 := rfl
  have hlabel : Q.label i = some .removeEmptyRoom := Pool.label_eq hp
  have hlocated : Located requests h i x := hu.located i x (by rw [hst]; exact rfl)
  rcases removeEmptyRoom_rooms Q.shared x with ⟨he, hgone⟩ | ⟨he, hocc⟩ | ⟨s', he, hw, hdb, hfree, hin, hrooms⟩
  · -- somebody else has removed the room
    refine ⟨.idle, ?_, hu.stay hp hst (by rw [hact, he]) ?_ nofun nofun nofun⟩
    · rw [hrest, he]
      exact .deleted hq.not_creates (by rintro ⟨message, hm⟩; cases hm)
    · have hacts : Acts Q.shared.rooms Q.shared.rows (.dropping x struck) .idle (Q.shared.rooms \ {x}) Q.shared.rows :=
        .drop fun hx => hgone (hu.mirror.sub hx)
      rwa [Set.sdiff_singleton_eq_self hgone] at hacts
  · have hclean : struck = false := by
      cases struck with
      | false => rfl
      | true => exact absurd (.lateGuest rfl hlabel hlocated (hu.touched i x hst) hocc) hok
    subst hclean
    rw [he] at hrest
    refine hu.answered hp hst (by rw [hact, he]) hrest hq.not_creates (fun _ => trivial) fun t ht => ?_
    exact .leave (fun y => ⟨id, id⟩) ht
  · have hrow : x ∉ Q.shared.rows := fun hrow => hok (.lateDelete rfl hlabel hlocated hin hfree hrow)
    refine ⟨.idle, ?_, ?_⟩
    · rw [hrest, he]
      exact .deleted hq.not_creates (by rintro ⟨message, hm⟩; cases hm)
    rw [hact, he]
    refine hu.turn rfl (hw hu.router) (by rw [hdb]; exact hu.database) hst ?_ nofun nofun nofun
    rw [hrooms, rows_of_database hdb]
    exact .drop hrow

/-- A step of a request that meets no race. -/
theorem proceeds (hu : Upkeep requests h Q.shared st) (hi : requests[i]? = some q) (hp : Q.programs[i]? = some p)
    (hlabel : p.label?.isSome) (hd : Doing q p (st i)) (hok : ¬ Races requests h (nextMove Q i)) :
    Proceeds requests h Q st i q p := by
  generalize hst : st i = st₀ at hd
  cases hd with
  | sparing hc hdel hkeeps =>
    refine ⟨.idle, .sparing hc hdel (hkeeps.rest Q.shared), ?_⟩
    have hs := hkeeps.act Spares.refl Q.shared
    refine hu.turn rfl (hs.router hu.router).1 (by rw [hs.database]; exact hu.database) hst ?_ nofun nofun nofun
    rw [(hs.router hu.router).2, hs.rows]
    exact .rest
  | creating hq => exact creating_proceeds hu hst hq hp
  | publishing hq => exact publishing_proceeds hu hst hq hp
  | recording hq => exact recording_proceeds hu hst hi hq hp hok
  | withdrawing hq => exact withdrawing_proceeds hu hst hi hq hp hok
  | created | failed | deleted | refused => cases hlabel
  | deleting hq => exact deleting_proceeds hu hst hq hp
  | locating hq => exact locating_proceeds hu hst hi hq hp
  | striking hq => exact striking_proceeds hu hst hq hp
  | dropping hq => exact dropping_proceeds hu hst hq hp hok

end

end Civ6LanBridge

/-
`server/src/db.rs` and `server/migrations/0001_control_plane.sql`: the tables of host and gameplay sessions, the
statements that write them, and the handlers that make these statements, one request at a time.
-/
import Civ6LanBridge.Server.Agreement
import Civ6LanBridge.Server.Loop
import Civ6LanBridge.Server.Undo

namespace Civ6LanBridge

open Std FinMap Bytes Prog

/-! ## Tables -/

structure HostSessionRow where
  roomId : RoomId
  peerId : PeerId
  createdAt : Timestamp
  lastHeartbeatAt : Timestamp
  expiresAt : Timestamp
deriving DecidableEq

structure GameplaySessionRow where
  roomId : RoomId
  clientPeerId : PeerId
  hostSessionId : HostSessionId
  createdAt : Timestamp
  lastActivityAt : Timestamp
  expiresAt : Timestamp
deriving DecidableEq

structure SessionTables where
  hosts : ExtTreeMap HostSessionId HostSessionRow
  gameplay : ExtTreeMap GameplaySessionId GameplaySessionRow

/-- Why a statement on them fails: the constraint it violates, `RowNotFound`, or what befalls any statement. -/
inductive SessionSqlError
  | hostSessionsRoomIdPeerIdKey
  | hostSessionsRoomIdFkey
  | hostSessionsPeerIdFkey
  | gameplaySessionsPkey
  | gameplaySessionsRoomIdFkey
  | gameplaySessionsClientPeerIdFkey
  | gameplaySessionsHostSessionIdFkey
  | rowNotFound
  | failed (e : SqlError)
deriving DecidableEq

namespace SessionTables

variable (db : Database) (t : SessionTables)

/-- The gameplay sessions on a host that is not there go with it, `ON DELETE CASCADE`. -/
def cascadeHosts : SessionTables :=
  { t with gameplay := t.gameplay.filter fun _ row => t.hosts.contains row.hostSessionId }

/-- What the cascades leave when rooms and peers have been deleted. -/
def cascade : SessionTables :=
  cascadeHosts {
    hosts := t.hosts.filter fun _ row => db.rooms.contains row.roomId && db.peers.contains row.peerId
    gameplay := t.gameplay.filter fun _ row => db.rooms.contains row.roomId && db.peers.contains row.clientPeerId }

/-- `ttlSeconds` is the time that a row is to live, in the unit of the timestamps. -/
def upsertHost (roomId : RoomId) (peerId : PeerId) (hostSessionId : HostSessionId) (ttlSeconds : Nat)
    (now : Timestamp) :
    Except SessionSqlError SessionTables :=
  let others := cascadeHosts { t with hosts := t.hosts.filter fun id row =>
    !(row.roomId = roomId && row.peerId = peerId && id ≠ hostSessionId) }
  if others.hosts.contains hostSessionId then
    .ok { others with hosts := others.hosts.modify hostSessionId fun row =>
      { row with lastHeartbeatAt := now, expiresAt := now + ttlSeconds } }
  else if anyRow (fun row => row.roomId = roomId && row.peerId = peerId) others.hosts then
    .error .hostSessionsRoomIdPeerIdKey
  else if !db.rooms.contains roomId then .error .hostSessionsRoomIdFkey
  else if !db.peers.contains peerId then .error .hostSessionsPeerIdFkey
  else .ok { others with
    hosts := others.hosts.insert hostSessionId
      { roomId, peerId, createdAt := now, lastHeartbeatAt := now, expiresAt := now + ttlSeconds } }

def heartbeatHost (roomId : RoomId) (peerId : PeerId) (hostSessionId : HostSessionId) (ttlSeconds : Nat)
    (now : Timestamp) :
    Except SessionSqlError SessionTables :=
  match t.hosts[hostSessionId]? with
  | none => .error .rowNotFound
  | some row =>
    if row.roomId = roomId ∧ row.peerId = peerId then
      .ok
        { t with
          hosts :=
            t.hosts.insert hostSessionId { row with lastHeartbeatAt := now, expiresAt := now + ttlSeconds } }
    else .error .rowNotFound

def deleteHost (hostSessionId : HostSessionId) : SessionTables :=
  cascadeHosts { t with hosts := t.hosts.erase hostSessionId }

def insertGameplay (roomId : RoomId) (clientPeerId : PeerId) (hostSessionId : HostSessionId)
    (gameplaySessionId : GameplaySessionId)
    (ttlSeconds : Nat) (now : Timestamp) : Except SessionSqlError SessionTables :=
  if t.gameplay.contains gameplaySessionId then .error .gameplaySessionsPkey
  else if !db.rooms.contains roomId then .error .gameplaySessionsRoomIdFkey
  else if !db.peers.contains clientPeerId then .error .gameplaySessionsClientPeerIdFkey
  else if !t.hosts.contains hostSessionId then .error .gameplaySessionsHostSessionIdFkey
  else .ok { t with
    gameplay := t.gameplay.insert gameplaySessionId
      { roomId, clientPeerId, hostSessionId, createdAt := now, lastActivityAt := now, expiresAt := now + ttlSeconds } }

/-- What is left of them after a restart. -/
def clearEphemeralSessions : SessionTables := { hosts := ∅, gameplay := ∅ }

end SessionTables

/-! ## The server with these tables -/

/-- `AppState`, with the rows of host and gameplay sessions. -/
structure SessionServer where
  app : AppState
  tables : SessionTables

namespace SessionServer

/-- A step that knows nothing of the tables, in a handler that deletes rooms or peers. -/
def after (S : SessionServer) (app : AppState) : SessionServer :=
  { app, tables := match app.database with
      | none => S.tables
      | some database => S.tables.cascade database }

/-- One statement on the tables, unless it fails. -/
def execute (S : SessionServer) (failure : Option SqlError)
    (statement : Database → SessionTables → Except SessionSqlError SessionTables) :
    Except SessionSqlError Unit × SessionServer :=
  match S.app.database, failure with
  | none, _ => (.ok (), S)
  | some _, some e => (.error (.failed e), S)
  | some database, none =>
    match statement database S.tables with
    | .error e => (.error e, S)
    | .ok tables => (.ok (), { S with tables })

/-- A call that has nothing to do with the tables. -/
def calling {α : Type} (S : SessionServer) (call : AppState → α × AppState) : α × SessionServer :=
  ((call S.app).1, { S with app := (call S.app).2 })

end SessionServer

/-- A handler of rooms, with what its statements do to the tables of sessions. -/
def cascading {α : Type} : Handler α → Prog Call SessionServer (Answer α)
  | .done result => .done result
  | .step label act next => .step label (fun S => S.after (act S.app)) fun S => cascading (next S.app)

/-- A room request run to its end. -/
def Request.cascade (base64 : String → Option (List UInt8)) (o : WalkOrder) (weather : Weather) (S : SessionServer) :
    Request → SessionServer
  | createRoom caller roomCode fresh => ((cascading (Civ6LanBridge.createRoom weather caller roomCode fresh)).run S).2
  | joinRoom caller code payload fresh now =>
    ((cascading (Civ6LanBridge.joinRoom base64 weather o caller code payload fresh now)).run S).2
  | resumeRoom caller code payload now => ((cascading (Civ6LanBridge.resumeRoom caller code payload now)).run S).2
  | deletePeer caller code peerId =>
    ((cascading (Civ6LanBridge.deletePeer base64 weather o peerId caller code)).run S).2
  | deleteRoom caller code => ((cascading (Civ6LanBridge.deleteRoom weather caller code)).run S).2

/-! ## The handlers of sessions -/

/-- A call to the router for the room of the code, the room, and a snapshot of what the call has made. -/
def AppState.within {α β : Type} (s : AppState) (roomCode : RoomCode) (call : RoomId → RoomRouter → Outcome α)
    (snapshot : RoomRouter → α → Except RouterError β) : Answer (RoomId × β) × AppState :=
  s.inRoom roomCode (fun roomId r => (call roomId r).map fun a => (roomId, a)) fun r x => (snapshot r x.2).map (x.1, ·)

section

variable (failure : Option SqlError) (caller : Caller) (code : String) (now : Instant) (dbNow : Timestamp)

/-- A handler that does something in a room, writes it to the tables, and takes it back if the write fails. -/
def storing {α β γ : Type} (doing store : SessionCall) (call : RoomId → RoomRouter → Outcome α)
    (snapshot : RoomRouter → α → Except RouterError β)
    (statement : RoomId → β → Database → SessionTables → Except SessionSqlError SessionTables) (response : β → γ)
    (undo : β → Prog SessionCall SessionServer (Answer γ)) : Prog SessionCall SessionServer (Answer γ) :=
  atomically .requireBearer (fun S => S.calling fun s => s.authorizeRoom caller code) fun
    | .error e => .done (.error (.error e))
    | .ok roomCode => atomically doing (fun S => S.calling fun s => s.within roomCode call snapshot) fun
      | .error e => .done (.error e)
      | .ok (roomId, b) => atomically store (fun S => S.execute failure (statement roomId b)) fun
        | .ok () => .done (.ok (response b))
        | .error _ => undo b

def registerHostRow (payload : RegisterHostRequest) (fresh : HostSessionId) :
    Prog SessionCall SessionServer (Answer HostResponse) :=
  storing failure caller code .registerHost .dbUpsertHost
    (fun roomId r => r.registerHost roomId payload.peerId now fresh)
    (fun r hostSessionId => r.hostSnapshot hostSessionId)
    (fun roomId snapshot db t => t.upsertHost db roomId payload.peerId snapshot.hostSessionId 15 dbNow)
    (fun snapshot => hostResponse snapshot 15) fun snapshot =>
      atomically .unregisterHost (fun S => S.calling fun s => s.routed fun r => r.unregisterHost snapshot.hostSessionId)
        fun _ =>
        .done (.error (.error writeFailed))

def heartbeatHostRow (payload : HeartbeatRequest) : Prog SessionCall SessionServer (Answer HostResponse) :=
  storing failure caller code .heartbeatHost .dbHeartbeatHost
    (fun roomId r => r.heartbeatHostForRoom roomId payload.peerId payload.hostSessionId now)
    (fun r _ => r.hostSnapshot payload.hostSessionId)
    (fun roomId _ _ t => t.heartbeatHost roomId payload.peerId payload.hostSessionId 15 dbNow)
    (fun snapshot => hostResponse snapshot 15) fun _ => .done (.error (.error writeFailed))

def createGameplaySessionRow (payload : CreateGameplayRequest) (fresh : GameplaySessionId) :
    Prog SessionCall SessionServer (Answer GameplayResponse) :=
  storing failure caller code .selectHost .dbInsertGameplay
    (fun roomId r => r.selectHost roomId payload.clientPeerId payload.hostSessionId now fresh)
    (fun r sessionId => r.gameplaySnapshot sessionId)
    (fun roomId snapshot db t =>
      t.insertGameplay db roomId payload.clientPeerId payload.hostSessionId snapshot.sessionId 30 dbNow)
    gameplayResponse fun snapshot =>
      atomically .removeGameplaySession
        (fun S => S.calling fun s => s.routed fun r => r.removeGameplaySession snapshot.sessionId)
        fun _ => .done (.error (.error writeFailed))

def deleteHostRow (hostSessionId : HostSessionId) : Prog SessionCall SessionServer (Answer Unit) :=
  atomically .requireBearer (fun S => S.calling fun s => s.authorizeRoom caller code) fun
    | .error e => .done (.error (.error e))
    | .ok roomCode => atomically .findHost (fun S => (S.app.findHost roomCode hostSessionId, S)) fun
      | .error e => .done (.error (.error e))
      | .ok () => atomically .dbDeleteHost (fun S => S.execute failure fun _ t => .ok (t.deleteHost hostSessionId)) fun
        | .error _ => .done (.error (.error (.internal (.text "database delete failed"))))
        | .ok () => atomically .unregisterHost
            (fun S => S.calling fun s => s.routed fun r => r.unregisterHost hostSessionId) .done

end

/-! ## Requests -/

/-- A request on sessions, with what the server reads from the clocks and draws at random for it. -/
inductive SessionRequest
  | registerHost (payload : RegisterHostRequest) (fresh : HostSessionId)
  | heartbeatHost (payload : HeartbeatRequest)
  | createGameplaySession (payload : CreateGameplayRequest) (fresh : GameplaySessionId)
  | deleteHost (hostSessionId : HostSessionId)

namespace SessionRequest

/-- The request run to its end. -/
def serve (failure : Option SqlError) (caller : Caller) (code : String) (now : Instant) (dbNow : Timestamp)
    (S : SessionServer) :
    SessionRequest → Answer Unit × SessionServer
  | registerHost payload fresh =>
    ((registerHostRow failure caller code now dbNow payload fresh).run S).map (·.map fun _ => ()) id
  | heartbeatHost payload => ((heartbeatHostRow failure caller code now dbNow payload).run S).map (·.map fun _ => ()) id
  | createGameplaySession payload fresh =>
    ((createGameplaySessionRow failure caller code now dbNow payload fresh).run S).map (·.map fun _ => ()) id
  | deleteHost hostSessionId => (deleteHostRow failure caller code hostSessionId).run S

/-- The request where of its statement only how it goes is known. -/
def plain (failure : Option SqlError) (caller : Caller) (code : String) (now : Instant) (s : AppState) :
    SessionRequest → Answer Unit × AppState
  | registerHost payload fresh =>
    ((Civ6LanBridge.registerHost failure caller code now payload fresh).run s).map (·.map fun _ => ()) id
  | heartbeatHost payload => ((Civ6LanBridge.heartbeatHost failure caller code now payload).run s).map
      (·.map fun _ => ()) id
  | createGameplaySession payload fresh =>
    ((Civ6LanBridge.createGameplaySession failure caller code now payload fresh).run s).map (·.map fun _ => ()) id
  | deleteHost hostSessionId => (Civ6LanBridge.deleteHost failure caller code hostSessionId).run s

/-- The identifier drawn is new. -/
def Fresh (S : SessionServer) : SessionRequest → Prop
  | registerHost _ fresh => S.app.router.hosts[fresh]? = none ∧ S.tables.hosts[fresh]? = none
  | createGameplaySession _ fresh => S.app.router.gameplay[fresh]? = none ∧ S.tables.gameplay[fresh]? = none
  | heartbeatHost _ | deleteHost _ => True

end SessionRequest

namespace SessionServer

/-- A request on sessions or on rooms, however its statements go, or a turn of the relay loop. -/
inductive Step (base64 : String → Option (List UInt8)) (S : SessionServer) : SessionServer → Prop
  | session (failure : Option SqlError) (caller : Caller) (code : String) (now : Instant) (dbNow : Timestamp)
      (q : SessionRequest) :
      q.Fresh S → Step base64 S (q.serve failure caller code now dbNow S).2
  | room (o : WalkOrder) (weather : Weather) (q : Request) : Step base64 S (q.cascade base64 o weather S)
  | wake (relayPort : UInt16) (wake : Wake) : Step base64 S { S with app := (wake.turn relayPort S.app).state }

/-- The router has no sessions, and what rooms and peers it has are in the database. -/
structure Opens (S : SessionServer) : Prop where
  wf : S.app.router.WF
  hosts : S.app.router.hosts = ∅
  gameplay : S.app.router.gameplay = ∅
  rooms : ∃ db, S.app.database = some db ∧
    (∀ x : RoomId, S.app.router.rooms[x]? ≠ none → db.rooms[x]? ≠ none) ∧
      ∀ (p : PeerId) (peer : PeerState), S.app.router.peers[p]? = some peer → ∃ row : PeerRow, db.peers[p]? = some row ∧
        row.roomId = peer.roomId
  tables : S.tables = SessionTables.clearEphemeralSessions

/-- The states that requests, one at a time, and the relay loop bring a server to. -/
def Reachable (base64 : String → Option (List UInt8)) : SessionServer → Prop := Transition.Reachable Opens (Step base64)

end SessionServer

end Civ6LanBridge

/-
`server/src/api.rs`: the handlers of host and gameplay sessions. Their rows in the database are written and
never read while the server runs, so of a statement on them only how it goes is modelled.
-/
import Civ6LanBridge.Server.Stores

namespace Civ6LanBridge

open Std FinMap Prog Handler AppState

/-! ## Requests and responses -/

structure RegisterHostRequest where
  peerId : PeerId

structure HeartbeatRequest where
  peerId : PeerId
  hostSessionId : HostSessionId

structure CreateGameplayRequest where
  clientPeerId : PeerId
  hostSessionId : HostSessionId

structure HostResponse where
  roomId : RoomId
  hostSessionId : HostSessionId
  peerId : PeerId
  virtualIp : VirtualIp
  expiresInSeconds : Nat
deriving DecidableEq

structure GameplayResponse where
  gameplaySessionId : GameplaySessionId
  roomId : RoomId
  clientPeerId : PeerId
  hostPeerId : PeerId
  clientVirtualIp : VirtualIp
  hostVirtualIp : VirtualIp
deriving DecidableEq

def hostResponse (snapshot : HostSnapshot) (expiresInSeconds : Nat) : HostResponse where
  roomId := snapshot.roomId
  hostSessionId := snapshot.hostSessionId
  peerId := snapshot.peerId
  virtualIp := snapshot.virtualIp
  expiresInSeconds := expiresInSeconds

def gameplayResponse (snapshot : GameplaySnapshot) : GameplayResponse where
  gameplaySessionId := snapshot.sessionId
  roomId := snapshot.roomId
  clientPeerId := snapshot.clientPeerId
  hostPeerId := snapshot.hostPeerId
  clientVirtualIp := snapshot.clientVirtualIp
  hostVirtualIp := snapshot.hostVirtualIp

/-- What a handler of sessions does in one step. -/
inductive SessionCall
  | requireBearer
  | registerHost
  | heartbeatHost
  | selectHost
  | findHost
  | unregisterHost
  | removeGameplaySession
  | dbUpsertHost
  | dbHeartbeatHost
  | dbInsertGameplay
  | dbDeleteHost
deriving DecidableEq

abbrev SessionHandler (α : Type) := Prog SessionCall AppState (Answer α)

/-! ## Calls to the router and the database -/

namespace AppState

variable (s : AppState)

/-- One statement on the tables of sessions, unless it fails. -/
def writeSession (failure : Option SqlError) : Except SqlError Unit × AppState :=
  s.execute failure fun database => .ok database

/-- A call to the router for the room of the code, and a snapshot of what it has made. -/
def inRoom {α β : Type} (roomCode : RoomCode) (call : RoomId → RoomRouter → Outcome α)
    (snapshot : RoomRouter → α → Except RouterError β) : Answer β × AppState :=
  match s.roomOfCode roomCode with
  | .error e => (.error (.error e), s)
  | .ok roomId =>
    match s.routed (call roomId) with
    | (.error e, s) => (.error e, s)
    | (.ok a, s) => ((snapshot s.router a).mapError fun e => .error (.ofRouter e), s)

def registerHost (roomCode : RoomCode) (payload : RegisterHostRequest) (now : Instant) (fresh : HostSessionId) :
    Answer HostSnapshot × AppState :=
  s.inRoom roomCode (fun roomId r => r.registerHost roomId payload.peerId now fresh) fun r hostSessionId =>
    r.hostSnapshot hostSessionId

def heartbeatHost (roomCode : RoomCode) (payload : HeartbeatRequest) (now : Instant) : Answer HostSnapshot × AppState :=
  s.inRoom roomCode (fun roomId r => r.heartbeatHostForRoom roomId payload.peerId payload.hostSessionId now) fun r _ =>
    r.hostSnapshot payload.hostSessionId

def selectHost (roomCode : RoomCode) (payload : CreateGameplayRequest) (now : Instant) (fresh : GameplaySessionId) :
    Answer GameplaySnapshot × AppState :=
  s.inRoom roomCode (fun roomId r => r.selectHost roomId payload.clientPeerId payload.hostSessionId now fresh)
    fun r sessionId => r.gameplaySnapshot sessionId

/-- `delete_host` under the first lock of the router. -/
def findHost (roomCode : RoomCode) (hostSessionId : HostSessionId) : Except ApiError Unit :=
  match s.roomOfCode roomCode with
  | .error e => .error e
  | .ok roomId =>
    match s.router.hostSnapshot hostSessionId with
    | .error e => .error (.ofRouter e)
    | .ok host =>
      if host.roomId ≠ roomId then .error (.forbidden (.text "host session belongs to another room")) else .ok ()

end AppState

/-! ## Handlers: the outcome of the one statement each makes is an argument -/

section

variable (failure : Option SqlError) (caller : Caller) (code : String) (now : Instant)

/-- A handler that does something in a room, writes it to the database, and takes it back if the write fails. -/
def writing {α β : Type} (doing storing : SessionCall) (act : RoomCode → AppState → Answer β × AppState)
    (response : β → α) (undo : β → SessionHandler α) : SessionHandler α :=
  atomically .requireBearer (fun s => s.authorizeRoom caller code) fun
    | .error e => .done (.error (.error e))
    | .ok roomCode => atomically doing (act roomCode) fun
      | .error e => .done (.error e)
      | .ok snapshot => atomically storing (fun s => s.writeSession failure) fun
        | .ok () => .done (.ok (response snapshot))
        | .error _ => undo snapshot

/-- What every request whose write fails answers. -/
def writeFailed : ApiError := .internal (.text "database write failed")

/-- The session is unregistered also when it is not new. -/
def registerHost (payload : RegisterHostRequest) (fresh : HostSessionId) : SessionHandler HostResponse :=
  writing failure caller code .registerHost .dbUpsertHost (fun roomCode s => s.registerHost roomCode payload now fresh)
    (fun snapshot => hostResponse snapshot 15) fun snapshot =>
      atomically .unregisterHost (fun s => s.routed fun r => r.unregisterHost snapshot.hostSessionId) fun _ =>
        .done (.error (.error writeFailed))

def heartbeatHost (payload : HeartbeatRequest) : SessionHandler HostResponse :=
  writing failure caller code .heartbeatHost .dbHeartbeatHost (fun roomCode s => s.heartbeatHost roomCode payload now)
    (fun snapshot => hostResponse snapshot 15) fun _ => .done (.error (.error writeFailed))

def createGameplaySession (payload : CreateGameplayRequest) (fresh : GameplaySessionId) :
    SessionHandler GameplayResponse :=
  writing failure caller code .selectHost .dbInsertGameplay (fun roomCode s => s.selectHost roomCode payload now fresh)
    gameplayResponse fun snapshot =>
      atomically .removeGameplaySession (fun s => s.routed fun r => r.removeGameplaySession snapshot.sessionId) fun _ =>
        .done (.error (.error writeFailed))

def deleteHost (hostSessionId : HostSessionId) : SessionHandler Unit :=
  atomically .requireBearer (fun s => s.authorizeRoom caller code) fun
    | .error e => .done (.error (.error e))
    | .ok roomCode => atomically .findHost (fun s => (s.findHost roomCode hostSessionId, s)) fun
      | .error e => .done (.error (.error e))
      | .ok () => atomically .dbDeleteHost (fun s => s.writeSession failure) fun
        | .error _ => .done (.error (.error (.internal (.text "database delete failed"))))
        | .ok () => atomically .unregisterHost (fun s => s.routed fun r => r.unregisterHost hostSessionId) .done

end

end Civ6LanBridge

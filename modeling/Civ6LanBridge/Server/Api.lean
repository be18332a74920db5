/-
`server/src/api.rs`: the handlers that create, join, resume, leave and delete rooms. A handler is a
program whose steps are what it does between two points at which other requests may run. Clock
readings, freshly generated identifiers and how the calls to the database and to `wg` go are arguments.
-/
import Civ6LanBridge.Lib.Atomic
import Civ6LanBridge.Server.State

namespace Civ6LanBridge

open Std FinMap Bytes Prog

/-! ## Errors -/

/-- The text of an error: one of the handler's own, or what another error displays as. -/
inductive Message
  | text (s : String)
  | router (e : RouterError)
  | roomCode (e : RoomCodeError)
  | wireguard (e : WireGuardError)
deriving DecidableEq

inductive ApiError
  | unauthorized
  | rateLimited
  | forbidden (message : Message)
  | badRequest (message : Message)
  | notFound (message : Message)
  | conflict (message : Message)
  | internal (message : Message)
deriving DecidableEq

namespace ApiError

/-- `From<RouterError>`. -/
def ofRouter (e : RouterError) : ApiError :=
  match e with
  | .roomNotFound _ | .peerNotInRoom _ _ | .peerNotFound _ | .hostNotFound _ | .discoveryNotFound _
  | .gameplayNotFound _ => .notFound (.router e)
  | .duplicateRoomCode _ | .duplicateRoomId _ | .roomNotEmpty _ | .peerAlreadyInRoom _ | .virtualIpInUse _
  | .roomLimitReached | .roomPeerLimitReached _ | .peerLimitReached | .hostLimitReached _ | .peerDisconnected _
  | .peerGraceExpired _ | .gameplayLimitReached | .discoveryRequestConflict _ => .conflict (.router e)
  | .hostNotInRoom _ _ | .unauthorizedGameplayPeer _ _ => .forbidden (.router e)
  | .hostExpired _ | .discoveryExpired _ | .invalidDiscoveryPort _ | .invalidGameplayPort _ | .datagramTooLarge _ =>
    .badRequest (.router e)

/-- `From<WireGuardError>`. -/
def ofWireGuard (e : WireGuardError) : ApiError :=
  match e with
  | .invalidPublicKey => .badRequest (.wireguard e)
  | .commandFailed _ | .io | .invalidOutput => .internal (.text "WireGuard peer operation failed")

end ApiError

/-! ## Requests and responses -/

/-- What comes with every request, and the readings of the clock while the request is authorized. -/
structure Caller where
  authorization : Option String
  sessionNow : Instant
  limiterNow : Instant

structure JoinRoomRequest where
  peerId : Option PeerId
  wireguardPublicKey : Option String
  requestedVirtualIp : Option VirtualIp

structure PeerResponse where
  roomId : RoomId
  peerId : PeerId
  virtualIp : VirtualIp
  connectionEpoch : UInt64
deriving DecidableEq

/-- How the calls of one request to the database and to `wg` go. A call that does not fail may still be
refused by a constraint; a handler makes each call at most once. -/
structure Weather where
  insertRoom : Option SqlError := none
  deleteRoom : Option SqlError := none
  insertPeer : Option SqlError := none
  deletePeer : Option SqlError := none
  addPeer : Option WireGuardError := none
  removePeer : Option WireGuardError := none
  dbNow : Timestamp := 0

/-- What a handler does in one step. -/
inductive Call
  | requireBearer
  | createRoom
  | findEmptyRoom
  | removeEmptyRoom
  | enterRoom
  | resumePeer
  | findPeer
  | leaveRoom
  | readPeerKey
  | insertPeerKey
  | removePeerKey
  | dbInsertRoom
  | dbDeleteRoom
  | dbInsertPeer
  | dbDeletePeer
  | wgAddPeer
  | wgRemovePeer
deriving DecidableEq

/-- What a handler answers; a panic answers nothing. -/
abbrev Answer (α : Type) := Except (Fault ApiError) α

abbrev Handler (α : Type) := Prog Call AppState (Answer α)

/-! ## Authorization -/

/-- `str::strip_prefix`. -/
def stripPrefix (p s : String) : Option String :=
  if p.toList.isPrefixOf s.toList then some (String.ofList (s.toList.drop p.toList.length)) else none

namespace AppState

/-- The last check of `require_bearer`. -/
def limitToken (s : AppState) (token : String) (now : Instant) : Except ApiError Unit × AppState :=
  match s.apiRateLimiter.allow token now with
  | (true, apiRateLimiter) => (.ok (), { s with apiRateLimiter })
  | (false, apiRateLimiter) => (.error .rateLimited, { s with apiRateLimiter })

def requireBearer (s : AppState) (caller : Caller) : Except ApiError Unit × AppState :=
  match caller.authorization.bind (stripPrefix "Bearer ") with
  | none => (.error .unauthorized, s)
  | some token =>
    if token = s.bearerToken then s.limitToken token caller.limiterNow
    else
      let s :=
        { s with clientSessions := s.clientSessions.filter fun _ session => caller.sessionNow < session.expiresAt }
      if !s.clientSessions.contains token then (.error .unauthorized, s)
      else s.limitToken token caller.limiterNow

def parseRoomCode (code : String) : Except ApiError RoomCode :=
  (RoomCode.parse code).mapError fun e => .badRequest (.roomCode e)

/-- The first step of a handler for a room. -/
def authorizeRoom (s : AppState) (caller : Caller) (code : String) : Except ApiError RoomCode × AppState :=
  match s.requireBearer caller with
  | (.error e, s) => (.error e, s)
  | (.ok (), s) => (parseRoomCode code, s)

/-! ## Calls to the database and to `wg`: nothing happens where they are not configured -/

variable (base64 : String → Option (List UInt8)) (weather : Weather) (s : AppState)

/-- One statement, unless it fails. -/
def execute (failure : Option SqlError) (statement : Database → Except SqlError Database) :
    Except SqlError Unit × AppState :=
  match s.database, failure with
  | none, _ => (.ok (), s)
  | some _, some e => (.error e, s)
  | some database, none =>
    match statement database with
    | .error e => (.error e, s)
    | .ok database => (.ok (), { s with database := some database })

def dbInsertRoom (roomId : RoomId) (roomCode : RoomCode) : Except SqlError Unit × AppState :=
  s.execute weather.insertRoom fun database => database.insertRoom roomId roomCode weather.dbNow

def dbDeleteRoom (roomId : RoomId) : Except SqlError Unit × AppState :=
  s.execute weather.deleteRoom fun database => .ok (database.deleteRoom roomId)

def dbInsertPeer (roomId : RoomId) (peerId : PeerId) (virtualIp : VirtualIp) (publicKey : String) :
    Except SqlError Unit × AppState :=
  s.execute weather.insertPeer fun database => database.insertPeer roomId peerId virtualIp publicKey weather.dbNow

def dbDeletePeer (peerId : PeerId) : Except SqlError Unit × AppState :=
  s.execute weather.deletePeer fun database => .ok (database.deletePeer peerId)

/-- One command, unless it fails. -/
def command (run : WireGuard → Except WireGuardError WireGuard) : Except WireGuardError Unit × AppState :=
  match s.wireguard with
  | none => (.ok (), s)
  | some wireguard =>
    match run wireguard with
    | .error e => (.error e, s)
    | .ok wireguard => (.ok (), { s with wireguard := some wireguard })

def wgAddPeer (publicKey : String) (virtualIp : VirtualIp) : Except WireGuardError Unit × AppState :=
  s.command fun wireguard => wireguard.addPeer base64 weather.addPeer publicKey virtualIp

def wgRemovePeer (publicKey : String) : Except WireGuardError Unit × AppState :=
  s.command fun wireguard => wireguard.removePeer base64 weather.removePeer publicKey

/-! ## Calls to the router -/

/-- A call to the router under its lock. -/
def routed {α : Type} (call : RoomRouter → Outcome α) : Answer α × AppState :=
  match call s.router with
  | (.error e, router) => (.error (e.map .ofRouter), { s with router })
  | (.ok a, router) => (.ok a, { s with router })

def roomOfCode (roomCode : RoomCode) : Except ApiError RoomId :=
  match s.router.roomIdForCode roomCode with
  | none => .error (.notFound (.text "room does not exist"))
  | some roomId => .ok roomId

end AppState

namespace Handler

variable {α : Type}

def answer (a : α) : Handler α := .done (.ok a)
def fail (e : ApiError) : Handler α := .done (.error (.error e))
def stop (e : Fault ApiError) : Handler α := .done (.error e)

end Handler

open Handler AppState

/-! ## Creating a room -/

/-- `room_code` is the one requested or else a random one, `fresh` the identifier of the room. -/
def AppState.createRoom (s : AppState) (roomCode : RoomCode) (fresh : RoomId) : Answer RoomSnapshot × AppState :=
  match s.routed fun r => r.createRoom roomCode fresh with
  | (.error e, s) => (.error e, s)
  | (.ok roomId, s) => ((s.router.roomSnapshot roomId).mapError fun e => .error (.ofRouter e), s)

def createRoom (weather : Weather) (caller : Caller) (roomCode : RoomCode) (fresh : RoomId) : Handler RoomSnapshot :=
  atomically .requireBearer (fun s => s.requireBearer caller) fun
    | .error e => fail e
    | .ok () => atomically .createRoom (fun s => s.createRoom roomCode fresh) fun
      | .error e => stop e
      | .ok snapshot =>
        atomically .dbInsertRoom (fun s => s.dbInsertRoom weather snapshot.roomId snapshot.code) fun
          | .ok () => answer snapshot
          | .error _ =>
            atomically .removeEmptyRoom (fun s => s.routed fun r => r.removeEmptyRoom snapshot.roomId) fun _ =>
              fail (.internal (.text "database write failed"))

/-! ## Joining a room -/

def IpPrefix.has (p : IpPrefix) (ip : VirtualIp) : Bool :=
  ip.address.a = p.a && ip.address.b = p.b && ip.address.c = p.c

namespace AppState

/-- The address that was asked for, if it may be had, or a free one. -/
def chooseAddress (s : AppState) (requestedVirtualIp : Option VirtualIp) : Except ApiError VirtualIp :=
  match requestedVirtualIp with
  | some requested =>
    if !s.virtualIpPrefix.has requested || requested.address.d < 2 then
      .error (.badRequest (.text "requested virtual IP is outside the configured WireGuard subnet"))
    else if !s.router.isVirtualIpAvailable requested then
      .error (.conflict (.text "requested virtual IP is already assigned"))
    else .ok requested
  | none =>
    match allocateVirtualIp s.router s.virtualIpPrefix with
    | none => .error (.conflict (.text "virtual IP pool is exhausted"))
    | some virtualIp => .ok virtualIp

def keyRequired (s : AppState) : Bool := s.database.isSome || s.wireguard.isSome

/-- `join_room` up to the lock of the router. -/
def checkJoin (base64 : String → Option (List UInt8)) (s : AppState) (caller : Caller) (code : String)
    (payload : JoinRoomRequest) : Except ApiError RoomCode × AppState :=
  match s.authorizeRoom caller code with
  | (.error e, s) => (.error e, s)
  | (.ok roomCode, s) =>
    match payload.wireguardPublicKey with
    | none =>
      if s.keyRequired then
        (.error (.badRequest
          (.text "wireguard_public_key is required when persistent or WireGuard mode is enabled")), s)
      else (.ok roomCode, s)
    | some publicKey =>
      match WireGuard.validatePublicKey base64 publicKey with
      | .error e => (.error (.ofWireGuard e), s)
      | .ok () => (.ok roomCode, s)

/-- `join_room` under the lock of the router. -/
def enterRoom (s : AppState) (roomCode : RoomCode) (peerId : PeerId) (requestedVirtualIp : Option VirtualIp)
    (now : Instant) : Answer PeerResponse × AppState :=
  match s.roomOfCode roomCode with
  | .error e => (.error (.error e), s)
  | .ok roomId =>
    match s.chooseAddress requestedVirtualIp with
    | .error e => (.error (.error e), s)
    | .ok virtualIp =>
      match s.routed fun r => r.joinRoom roomId peerId virtualIp now with
      | (.error e, s) => (.error e, s)
      | (.ok (), s) =>
        match s.router.peerConnectionEpoch peerId with
        | .error e => (.error (.error (.ofRouter e)), s)
        | .ok connectionEpoch => (.ok { roomId, peerId, virtualIp, connectionEpoch }, s)

/-- The calls of `join_room` that `expect` a public key where the database or WireGuard is configured. -/
def expectKey {ε : Type} (s : AppState) (configured : Bool) (publicKey : Option String)
    (call : String → Except ε Unit × AppState) : Except (Fault ε) Unit × AppState :=
  match configured, publicKey with
  | false, _ => (.ok (), s)
  | true, none => (.error .panic, s)
  | true, some publicKey => ((call publicKey).1.mapError .error, (call publicKey).2)

/-- A call for a public key, if there is one. -/
def withKey {ε : Type} (s : AppState) (publicKey : Option String) (call : String → Except ε Unit × AppState) :
    Except ε Unit × AppState :=
  match publicKey with
  | none => (.ok (), s)
  | some publicKey => call publicKey

end AppState

section Join

variable (base64 : String → Option (List UInt8)) (weather : Weather) (o : WalkOrder) (publicKey : Option String)
  (peer : PeerResponse)

/-- `join_room` once the stores have the peer. -/
def joinKey : Handler PeerResponse :=
  match publicKey with
  | none => answer peer
  | some publicKey =>
    atomically .insertPeerKey (fun s => ((), { s with peerKeys := s.peerKeys.insert peer.peerId publicKey })) fun _ =>
      answer peer

/-- `join_room` from the database on. -/
def joinRow : Handler PeerResponse :=
  atomically .dbInsertPeer
    (fun s => s.expectKey s.database.isSome publicKey fun key =>
      s.dbInsertPeer weather peer.roomId peer.peerId peer.virtualIp key) fun
    | .ok () => joinKey publicKey peer
    | .error .panic => stop .panic
    | .error (.error _) =>
      atomically .wgRemovePeer (fun s => s.withKey publicKey fun key => s.wgRemovePeer base64 weather key) fun _ =>
        atomically .leaveRoom (fun s => s.routed fun r => RoomRouter.leaveRoom o r peer.roomId peer.peerId) fun _ =>
          fail (.internal (.text "database write failed"))

/-- `join_room` from WireGuard on. -/
def joinTunnel : Handler PeerResponse :=
  atomically .wgAddPeer
    (fun s => s.expectKey s.wireguard.isSome publicKey fun key => s.wgAddPeer base64 weather key peer.virtualIp) fun
    | .ok () => joinRow base64 weather o publicKey peer
    | .error .panic => stop .panic
    | .error (.error e) =>
      atomically .leaveRoom (fun s => s.routed fun r => RoomRouter.leaveRoom o r peer.roomId peer.peerId) fun _ =>
        fail (.ofWireGuard e)

end Join

/-- `fresh` is the identifier of a peer that does not bring its own. -/
def joinRoom (base64 : String → Option (List UInt8)) (weather : Weather) (o : WalkOrder) (caller : Caller)
    (code : String) (payload : JoinRoomRequest) (fresh : PeerId) (now : Instant) : Handler PeerResponse :=
  atomically .requireBearer (fun s => s.checkJoin base64 caller code payload) fun
    | .error e => fail e
    | .ok roomCode =>
      atomically .enterRoom
        (fun s => s.enterRoom roomCode (payload.peerId.getD fresh) payload.requestedVirtualIp now) fun
        | .error e => stop e
        | .ok peer => joinTunnel base64 weather o payload.wireguardPublicKey peer

/-! ## Resuming -/

def AppState.resume (s : AppState) (roomCode : RoomCode) (peerId : Option PeerId) (now : Instant) :
    Answer PeerResponse × AppState :=
  match s.roomOfCode roomCode, peerId with
  | .error e, _ => (.error (.error e), s)
  | .ok _, none => (.error (.error (.badRequest (.text "peer_id is required to resume a room"))), s)
  | .ok roomId, some peerId =>
    match s.routed fun r => r.resumePeer roomId peerId now with
    | (.error e, s) => (.error e, s)
    | (.ok p, s) =>
      (.ok { roomId := p.roomId, peerId := p.peerId, virtualIp := p.virtualIp, connectionEpoch := p.connectionEpoch },
        s)

def resumeRoom (caller : Caller) (code : String) (payload : JoinRoomRequest) (now : Instant) : Handler PeerResponse :=
  atomically .requireBearer (fun s => s.authorizeRoom caller code) fun
    | .error e => fail e
    | .ok roomCode => atomically .resumePeer (fun s => s.resume roomCode payload.peerId now) .done

/-! ## Deleting a peer -/

namespace AppState

/-- `delete_peer` under the read lock of the router. -/
def findPeer (s : AppState) (roomCode : RoomCode) (peerId : PeerId) : Except ApiError (RoomId × VirtualIp) :=
  match s.roomOfCode roomCode with
  | .error e => .error e
  | .ok roomId =>
    match s.router.roomForPeer peerId with
    | none => .error (.notFound (.text "peer does not exist"))
    | some peerRoomId =>
      if peerRoomId ≠ roomId then .error (.forbidden (.text "peer belongs to another room"))
      else
        match s.router.peerVirtualIp peerId with
        | none => .error (.notFound (.text "peer does not exist"))
        | some virtualIp => .ok (roomId, virtualIp)

def readPeerKey (s : AppState) (peerId : PeerId) : Except ApiError (Option String) :=
  let publicKey := s.peerKeys[peerId]?
  if s.keyRequired && publicKey.isNone then
    .error (.internal (.text "peer has no persisted WireGuard public key"))
  else .ok publicKey

end AppState

section Delete

variable (base64 : String → Option (List UInt8)) (weather : Weather) (o : WalkOrder) (peerId : PeerId)
  (roomId : RoomId) (virtualIp : VirtualIp) (publicKey : Option String)

/-- `delete_peer` once the peer has left. -/
def deletePeerForget : Handler Unit :=
  atomically .removePeerKey (fun s => ((), { s with peerKeys := s.peerKeys.erase peerId })) fun _ => answer ()

/-- `delete_peer` after the router has refused: the row and the tunnel are put back. -/
def deletePeerUndo (e : ApiError) : Handler Unit :=
  atomically .dbInsertPeer
    (fun s => s.withKey publicKey fun key => s.dbInsertPeer weather roomId peerId virtualIp key) fun _ =>
      atomically .wgAddPeer (fun s => s.withKey publicKey fun key => s.wgAddPeer base64 weather key virtualIp) fun _ =>
        fail e

/-- `delete_peer` from the router's `leave_room` on. -/
def deletePeerLeave : Handler Unit :=
  atomically .leaveRoom (fun s => s.routed fun r => RoomRouter.leaveRoom o r roomId peerId) fun
    | .ok () => deletePeerForget peerId
    | .error .panic => stop .panic
    | .error (.error e) => deletePeerUndo base64 weather peerId roomId virtualIp publicKey e

/-- `delete_peer` from the database on. -/
def deletePeerRow : Handler Unit :=
  atomically .dbDeletePeer (fun s => s.dbDeletePeer weather peerId) fun
    | .ok () => deletePeerLeave base64 weather o peerId roomId virtualIp publicKey
    | .error _ =>
      atomically .wgAddPeer (fun s => s.withKey publicKey fun key => s.wgAddPeer base64 weather key virtualIp) fun _ =>
        fail (.internal (.text "database delete failed"))

/-- `delete_peer` from WireGuard on. -/
def deletePeerTunnel : Handler Unit :=
  atomically .wgRemovePeer (fun s => s.withKey publicKey fun key => s.wgRemovePeer base64 weather key) fun
    | .error e => fail (.ofWireGuard e)
    | .ok () => deletePeerRow base64 weather o peerId roomId virtualIp publicKey

/-- `delete_peer` from the public key on. -/
def deletePeerKey : Handler Unit :=
  atomically .readPeerKey (fun s => (s.readPeerKey peerId, s)) fun
    | .error e => fail e
    | .ok publicKey => deletePeerTunnel base64 weather o peerId roomId virtualIp publicKey

/-- `delete_peer` once authorized. -/
def deletePeerFind (roomCode : RoomCode) : Handler Unit :=
  atomically .findPeer (fun s => (s.findPeer roomCode peerId, s)) fun
    | .error e => fail e
    | .ok (roomId, virtualIp) => deletePeerKey base64 weather o peerId roomId virtualIp

def deletePeer (caller : Caller) (code : String) : Handler Unit :=
  atomically .requireBearer (fun s => s.authorizeRoom caller code) fun
    | .error e => fail e
    | .ok roomCode => deletePeerFind base64 weather o peerId roomCode

end Delete

/-! ## Deleting a room -/

def AppState.findEmptyRoom (s : AppState) (roomCode : RoomCode) : Except ApiError RoomId :=
  match s.roomOfCode roomCode with
  | .error e => .error e
  | .ok roomId =>
    match s.router.roomSnapshot roomId with
    | .error e => .error (.ofRouter e)
    | .ok snapshot =>
      if snapshot.memberCount ≠ 0 ∨ snapshot.hostCount ≠ 0 then .error (.conflict (.text "room is not empty"))
      else .ok roomId

def deleteRoom (weather : Weather) (caller : Caller) (code : String) : Handler Unit :=
  atomically .requireBearer (fun s => s.authorizeRoom caller code) fun
    | .error e => fail e
    | .ok roomCode => atomically .findEmptyRoom (fun s => (s.findEmptyRoom roomCode, s)) fun
      | .error e => fail e
      | .ok roomId => atomically .dbDeleteRoom (fun s => s.dbDeleteRoom weather roomId) fun
        | .error _ => fail (.internal (.text "database delete failed"))
        | .ok () => atomically .removeEmptyRoom (fun s => s.routed fun r => r.removeEmptyRoom roomId) .done

/-! ## Requests to instantiate the results at -/

namespace Example

def bearerToken : String := "0123456789abcdef0123456789abcdef"

def caller : Caller :=
  { authorization := some "Bearer 0123456789abcdef0123456789abcdef", sessionNow := 0, limiterNow := 0 }

def subnet : IpPrefix := { a := 10, b := 240, c := 0 }

/-- The keys of thirty-two zeros and of thirty-two ones. -/
def zeros : String := "AAAAAAAAAAAAAAAAAAAAAAAAAAAAAAAAAAAAAAAAAAA="
def ones : String := "AQEBAQEBAQEBAQEBAQEBAQEBAQEBAQEBAQEBAQEBAQE="

/-- Decoding, of these two keys. -/
def base64 (s : String) : Option (List UInt8) :=
  if s = zeros then some (List.replicate 32 0) else if s = ones then some (List.replicate 32 1) else none

def joining (peerId : PeerId) (publicKey : String) : JoinRoomRequest :=
  { peerId := some peerId, wireguardPublicKey := some publicKey, requestedVirtualIp := none }

end Example

end Civ6LanBridge

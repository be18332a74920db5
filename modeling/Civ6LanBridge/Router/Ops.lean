/-
`crates/router/src/lib.rs`: the operations of `RoomRouter`. An operation returns its result together
with the state it leaves behind, also when it fails; a failing `expect` is a panic. Clock readings
and freshly generated identifiers are arguments, and an operation that walks a hash map or a hash
set takes the order of the walk.
-/
import Civ6LanBridge.Lib.Transition
import Civ6LanBridge.Router.State

namespace Civ6LanBridge

open Std FinMap Bytes

/-- The result of an operation and the router it leaves behind. -/
abbrev Outcome (α : Type) := Except (Fault RouterError) α × RoomRouter

namespace Outcome

variable {α β : Type}

def ok (a : α) (r : RoomRouter) : Outcome α := (.ok a, r)
def err (e : RouterError) (r : RoomRouter) : Outcome α := (.error (.error e), r)
def panic (r : RoomRouter) : Outcome α := (.error .panic, r)

def map (f : α → β) : Outcome α → Outcome β
  | (.ok a, r) => (.ok (f a), r)
  | (.error e, r) => (.error e, r)

end Outcome

/-- `u64::saturating_add`. -/
def saturatingAdd (a b : UInt64) : UInt64 := UInt64.ofNat (min (a.toNat + b.toNat) (2 ^ 64 - 1))

theorem toNat_saturatingAdd (a b : UInt64) : (saturatingAdd a b).toNat = min (a.toNat + b.toNat) (2 ^ 64 - 1) := by
  unfold saturatingAdd
  rw [UInt64.toNat_ofNat']
  omega

namespace RoomRouter

/-! ## Lookups -/

def roomIdForCode (r : RoomRouter) (code : RoomCode) : Option RoomId := r.roomsByCode[code]?

def roomForPeer (r : RoomRouter) (peerId : PeerId) : Option RoomId := (r.peers[peerId]?).map (·.roomId)

def peerVirtualIp (r : RoomRouter) (peerId : PeerId) : Option VirtualIp := (r.peers[peerId]?).map (·.virtualIp)

def peerForVirtualIp (r : RoomRouter) (virtualIp : VirtualIp) : Option PeerId := r.virtualIps[virtualIp]?

def isVirtualIpAvailable (r : RoomRouter) (virtualIp : VirtualIp) : Bool := !r.virtualIps.contains virtualIp

def peerConnectionEpoch (r : RoomRouter) (peerId : PeerId) : Except RouterError UInt64 :=
  match r.peers[peerId]? with
  | none => .error (.peerNotFound peerId)
  | some peer => .ok peer.connectionEpoch

def roomSnapshot (r : RoomRouter) (roomId : RoomId) : Except RouterError RoomSnapshot :=
  match r.rooms[roomId]? with
  | none => .error (.roomNotFound roomId)
  | some room =>
    .ok { roomId, code := room.code, memberCount := room.members.size, hostCount := room.hostSessions.size }

def hostSnapshot (r : RoomRouter) (hostSessionId : HostSessionId) : Except RouterError HostSnapshot :=
  match r.hosts[hostSessionId]? with
  | none => .error (.hostNotFound hostSessionId)
  | some host => .ok { hostSessionId, roomId := host.roomId, peerId := host.peerId, virtualIp := host.virtualIp }

def peerSnapshot (r : RoomRouter) (peerId : PeerId) : Except RouterError PeerSnapshot :=
  match r.peers[peerId]? with
  | none => .error (.peerNotFound peerId)
  | some peer =>
    .ok { roomId := peer.roomId, peerId, virtualIp := peer.virtualIp, connectionEpoch := peer.connectionEpoch }

def gameplaySnapshot (r : RoomRouter) (sessionId : GameplaySessionId) : Except RouterError GameplaySnapshot :=
  match r.gameplay[sessionId]? with
  | none => .error (.gameplayNotFound sessionId)
  | some session =>
    .ok { sessionId, roomId := session.roomId, clientPeerId := session.clientPeerId,
          hostPeerId := session.hostPeerId, clientVirtualIp := session.clientVirtualIp,
          hostVirtualIp := session.hostVirtualIp }

def memberState (r : RoomRouter) (roomId : RoomId) (peerId : PeerId) : Except RouterError PeerState :=
  match r.rooms[roomId]? with
  | none => .error (.roomNotFound roomId)
  | some room =>
    if peerId ∉ room.members then .error (.peerNotInRoom peerId roomId)
    else
      match r.peers[peerId]? with
      | none => .error (.peerNotInRoom peerId roomId)
      | some peer => if peer.roomId ≠ roomId then .error (.peerNotInRoom peerId roomId) else .ok peer

def validatePayload (r : RoomRouter) (payload : List UInt8) : Except RouterError Unit :=
  if maxCiv6DatagramSize < payload.length ∨ r.config.safePayloadSize < payload.length then
    .error (.datagramTooLarge payload.length)
  else .ok ()

/-! ## Rooms -/

def createRoomWithId (r : RoomRouter) (roomId : RoomId) (code : RoomCode) : Outcome Unit :=
  if r.config.maxRooms ≤ r.rooms.size then .err .roomLimitReached r
  else if r.roomsByCode.contains code then .err (.duplicateRoomCode code) r
  else if r.rooms.contains roomId then .err (.duplicateRoomId roomId) r
  else
    .ok () { r with
      rooms := r.rooms.insert roomId { code, members := ∅, hostSessions := ∅ }
      roomsByCode := r.roomsByCode.insert code roomId }

/-- `fresh` is the identifier that `RoomId::new()` generates. -/
def createRoom (r : RoomRouter) (code : RoomCode) (fresh : RoomId) : Outcome RoomId :=
  (r.createRoomWithId fresh code).map fun _ => fresh

def removeEmptyRoom (r : RoomRouter) (roomId : RoomId) : Outcome Unit :=
  match r.rooms[roomId]? with
  | none => .err (.roomNotFound roomId) r
  | some room =>
    if !room.members.isEmpty || !room.hostSessions.isEmpty then .err (.roomNotEmpty roomId) r
    else .ok () { r with rooms := r.rooms.erase roomId, roomsByCode := r.roomsByCode.erase room.code }

/-! ## Removal cascades -/

def removeHost (r : RoomRouter) (hostSessionId : HostSessionId) : RoomRouter :=
  match r.hosts[hostSessionId]? with
  | none => r
  | some host => { r with
      hosts := r.hosts.erase hostSessionId
      hostByPeer := r.hostByPeer.erase (host.roomId, host.peerId)
      rooms := r.rooms.modify host.roomId fun room =>
        { room with hostSessions := room.hostSessions.erase hostSessionId }
      -- every session of the peer as a host in the room, through whichever host session it was selected
      gameplay := r.gameplay.filter fun _ session =>
        session.hostPeerId ≠ host.peerId || session.roomId ≠ host.roomId }

/-- `for host_id in host_ids { self.remove_host(host_id) }`. -/
def removeHosts (r : RoomRouter) (hostIds : List HostSessionId) : RoomRouter := hostIds.foldl removeHost r

def disconnectPeer (o : WalkOrder) (r : RoomRouter) (peerId : PeerId) (now : Instant) : RoomRouter :=
  match r.peers[peerId]? with
  | none => r
  | some _ =>
    -- the peer keeps its room, its address and its epoch
    let r := { r with peers := r.peers.modify peerId fun peer => { peer with disconnectedAt := some now } }
    let r := r.removeHosts (keysWhere o (fun _ host => host.peerId = peerId) r.hosts)
    { r with
      gameplay := r.gameplay.filter fun _ session => session.clientPeerId ≠ peerId && session.hostPeerId ≠ peerId
      discoveries := r.discoveries.filter fun _ discovery => discovery.clientPeerId ≠ peerId }

/-- What `leave_room` removes on behalf of a peer before the peer itself. -/
def removePeerSessions (o : WalkOrder) (r : RoomRouter) (roomId : RoomId) (peerId : PeerId) : RoomRouter :=
  let r := r.removeHosts (keysWhere o (fun _ host => host.roomId = roomId && host.peerId = peerId) r.hosts)
  let gameplayIds := keysWhere o (fun _ session => session.roomId = roomId &&
    (session.clientPeerId = peerId || session.hostPeerId = peerId)) r.gameplay
  let r := { r with gameplay := eraseAll gameplayIds r.gameplay }
  let discoveryIds := keysWhere o (fun _ discovery => discovery.roomId = roomId &&
    discovery.clientPeerId = peerId) r.discoveries
  { r with discoveries := eraseAll discoveryIds r.discoveries }

def leaveRoom (o : WalkOrder) (r : RoomRouter) (roomId : RoomId) (peerId : PeerId) : Outcome Unit :=
  match r.rooms[roomId]? with
  | none => .err (.roomNotFound roomId) r
  | some room =>
    if peerId ∉ room.members then .err (.peerNotInRoom peerId roomId) r
    else
      let r := removePeerSessions o r roomId peerId
      let r := { r with
        rooms := r.rooms.modify roomId fun room => { room with members := room.members.erase peerId } }
      match r.peers[peerId]? with
      -- the failing `expect`: a member that is not registered
      | none => .panic r
      | some peer => .ok () { r with peers := r.peers.erase peerId, virtualIps := r.virtualIps.erase peer.virtualIp }

/-! ## Peers -/

def joinRoom (r : RoomRouter) (roomId : RoomId) (peerId : PeerId) (virtualIp : VirtualIp) (now : Instant) :
    Outcome Unit :=
  match r.rooms[roomId]? with
  | none => .err (.roomNotFound roomId) r
  | some room =>
    if r.config.maxPeersPerRoom ≤ room.members.size then .err (.roomPeerLimitReached roomId) r
    else if r.config.maxTotalPeers ≤ r.peers.size then .err .peerLimitReached r
    -- the source looks the room up a second time
    else if !r.rooms.contains roomId then .err (.roomNotFound roomId) r
    else if r.peers.contains peerId then .err (.peerAlreadyInRoom peerId) r
    else if r.virtualIps.contains virtualIp then .err (.virtualIpInUse virtualIp) r
    else
      .ok () { r with
        rooms := r.rooms.modify roomId fun room => { room with members := room.members.insert peerId }
        peers := r.peers.insert peerId
          { roomId, virtualIp, lastSeen := now, disconnectedAt := none, connectionEpoch := 1 }
        virtualIps := r.virtualIps.insert virtualIp peerId }

def restorePeer (r : RoomRouter) (roomId : RoomId) (peerId : PeerId) (virtualIp : VirtualIp) (now : Instant) :
    Outcome Unit :=
  r.joinRoom roomId peerId virtualIp now

def markPeerSeen (r : RoomRouter) (peerId : PeerId) (now : Instant) : Outcome Unit :=
  match r.peers[peerId]? with
  | none => .err (.peerNotFound peerId) r
  | some peer =>
    if peer.disconnectedAt.isSome then .err (.peerDisconnected peerId) r
    else .ok () { r with peers := r.peers.modify peerId fun peer => { peer with lastSeen := now } }

/-- A disconnected peer that is outside its grace period. -/
def graceOver (config : RouterConfig) (peer : PeerState) (now : Instant) : Bool :=
  peer.disconnectedAt.any fun disconnectedAt => disconnectedAt + config.peerGraceTtl ≤ now

/-- What `resume_peer` makes of a peer inside its grace period. -/
def resumed (peer : PeerState) (now : Instant) : PeerState :=
  match peer.disconnectedAt with
  | some _ => { peer with
      connectionEpoch := max (saturatingAdd peer.connectionEpoch 1) 1
      disconnectedAt := none
      lastSeen := now }
  -- the epoch moves on only with a peer that was disconnected
  | none => { peer with lastSeen := now }

def resumePeer (r : RoomRouter) (roomId : RoomId) (peerId : PeerId) (now : Instant) : Outcome PeerSnapshot :=
  match r.peers[peerId]? with
  | none => .err (.peerNotFound peerId) r
  | some peer =>
    if peer.roomId ≠ roomId then .err (.peerNotInRoom peerId roomId) r
    else if graceOver r.config peer now then .err (.peerGraceExpired peerId) r
    else
      let peer := resumed peer now
      .ok { roomId := peer.roomId, peerId, virtualIp := peer.virtualIp, connectionEpoch := peer.connectionEpoch }
        { r with peers := r.peers.modify peerId fun peer => resumed peer now }

/-! ## Hosts -/

/-- The end of `register_host`; `fresh` is the identifier that `HostSessionId::new()` generates. -/
def addHost (r : RoomRouter) (roomId : RoomId) (peerId : PeerId) (peer : PeerState) (now : Instant)
    (fresh : HostSessionId) : Outcome HostSessionId :=
  match r.rooms[roomId]? with
  -- the failing `expect`: `member_state` has just found the room
  | none => .panic r
  | some room =>
    if r.config.maxHostsPerRoom ≤ room.hostSessions.size then .err (.hostLimitReached roomId) r
    else
      .ok fresh { r with
        hosts := r.hosts.insert fresh
          { roomId, peerId, virtualIp := peer.virtualIp, lastHeartbeat := now, expiresAt := now + r.config.hostTtl }
        hostByPeer := r.hostByPeer.insert (roomId, peerId) fresh
        rooms := r.rooms.modify roomId fun room =>
          { room with hostSessions := room.hostSessions.insert fresh } }

/-- A heartbeat from a host. -/
def beat (r : RoomRouter) (hostSessionId : HostSessionId) (now : Instant) : RoomRouter :=
  { r with
    hosts := r.hosts.modify hostSessionId fun host =>
      { host with lastHeartbeat := now, expiresAt := now + r.config.hostTtl } }

def registerHost (r : RoomRouter) (roomId : RoomId) (peerId : PeerId) (now : Instant) (fresh : HostSessionId) :
    Outcome HostSessionId :=
  match r.memberState roomId peerId with
  | .error e => .err e r
  | .ok peer =>
    match r.hostByPeer[(roomId, peerId)]? with
    | none => r.addHost roomId peerId peer now fresh
    -- a host that registers again keeps its session as long as it has not expired
    | some existingId =>
      match r.hosts[existingId]? with
      | none => (r.removeHost existingId).addHost roomId peerId peer now fresh
      | some existing =>
        if now < existing.expiresAt then .ok existingId (r.beat existingId now)
        else (r.removeHost existingId).addHost roomId peerId peer now fresh

def heartbeatHost (r : RoomRouter) (hostSessionId : HostSessionId) (now : Instant) : Outcome Unit :=
  match r.hosts[hostSessionId]? with
  | none => .err (.hostNotFound hostSessionId) r
  | some host =>
    if host.expiresAt ≤ now then .err (.hostExpired hostSessionId) r
    else .ok () (r.beat hostSessionId now)

def heartbeatHostForRoom (r : RoomRouter) (roomId : RoomId) (peerId : PeerId) (hostSessionId : HostSessionId)
    (now : Instant) : Outcome Unit :=
  match r.hosts[hostSessionId]? with
  | none => .err (.hostNotFound hostSessionId) r
  | some host =>
    if host.roomId ≠ roomId ∨ host.peerId ≠ peerId then .err (.hostNotInRoom hostSessionId roomId) r
    else r.heartbeatHost hostSessionId now

def unregisterHost (r : RoomRouter) (hostSessionId : HostSessionId) : Outcome Unit :=
  if r.hosts.contains hostSessionId then .ok () (r.removeHost hostSessionId)
  else .err (.hostNotFound hostSessionId) r

/-! ## Discovery -/

/-- The hosts of a room that have not expired. -/
def discoveryTargets (o : WalkOrder) (r : RoomRouter) (room : RoomState) (now : Instant) : List DiscoveryTarget :=
  (o.arrange room.hostSessions.toList).filterMap fun hostSessionId =>
    match r.hosts[hostSessionId]? with
    | none => none
    | some host =>
      if now < host.expiresAt then
        some { hostSessionId, hostPeerId := host.peerId, hostVirtualIp := host.virtualIp }
      else none

/-- The end of `begin_discovery`, once the request is recorded. -/
def fanOut (o : WalkOrder) (r : RoomRouter) (roomId : RoomId) (now : Instant) : Outcome (List DiscoveryTarget) :=
  match r.rooms[roomId]? with
  | none => .panic r
  | some room => .ok (discoveryTargets o r room now) r

def beginDiscovery (o : WalkOrder) (r : RoomRouter) (roomId : RoomId) (clientPeerId : PeerId)
    (requestId : DiscoveryRequestId) (destinationPort : Civ6UdpPort) (now : Instant) :
    Outcome (List DiscoveryTarget) :=
  if !isDiscoveryPort destinationPort.port then .err (.invalidDiscoveryPort destinationPort.port) r
  else
    match r.memberState roomId clientPeerId with
    | .error e => .err e r
    | .ok _ =>
      match r.discoveries[requestId]? with
      | some existing =>
        if existing.roomId ≠ roomId ∨ existing.clientPeerId ≠ clientPeerId ∨
            existing.destinationPort ≠ destinationPort then
          .err (.discoveryRequestConflict requestId) r
        else
          -- a retry refreshes the short cache window
          fanOut o { r with
            discoveries := r.discoveries.modify requestId fun discovery =>
              { discovery with expiresAt := now + r.config.discoveryTtl } } roomId now
      | none =>
        fanOut o { r with
          discoveries := r.discoveries.insert requestId
            { roomId, clientPeerId, destinationPort, expiresAt := now + r.config.discoveryTtl } } roomId now

def routeDiscoveryResponse (r : RoomRouter) (requestId : DiscoveryRequestId) (hostSessionId : HostSessionId)
    (now : Instant) : Except RouterError PeerId :=
  match r.discoveries[requestId]? with
  | none => .error (.discoveryNotFound requestId)
  | some discovery =>
    if discovery.expiresAt ≤ now then .error (.discoveryExpired requestId)
    else
      match r.hosts[hostSessionId]? with
      | none => .error (.hostNotFound hostSessionId)
      | some host =>
        if host.expiresAt ≤ now then .error (.hostExpired hostSessionId)
        else if host.roomId ≠ discovery.roomId then .error (.hostNotInRoom hostSessionId discovery.roomId)
        else .ok discovery.clientPeerId

/-! ## Gameplay -/

/-- `fresh` is the identifier that `GameplaySessionId::new()` generates. -/
def selectHost (r : RoomRouter) (roomId : RoomId) (clientPeerId : PeerId) (hostSessionId : HostSessionId)
    (now : Instant) (fresh : GameplaySessionId) : Outcome GameplaySessionId :=
  match r.memberState roomId clientPeerId with
  | .error e => .err e r
  | .ok client =>
    match r.hosts[hostSessionId]? with
    | none => .err (.hostNotFound hostSessionId) r
    | some host =>
      if host.roomId ≠ roomId then .err (.hostNotInRoom hostSessionId roomId) r
      else if host.expiresAt ≤ now then .err (.hostExpired hostSessionId) r
      else if r.config.maxGameplaySessions ≤ r.gameplay.size then .err .gameplayLimitReached r
      else
        .ok fresh { r with
          gameplay := r.gameplay.insert fresh
            { roomId, clientPeerId, hostPeerId := host.peerId, hostVirtualIp := host.virtualIp,
              clientVirtualIp := client.virtualIp, lastActivity := now,
              expiresAt := now + r.config.gameplayIdleTtl } }

/-- The other end of a gameplay session, as peer and address. -/
def otherEnd (session : GameplayState) (sourcePeerId : PeerId) : Option (PeerId × VirtualIp) :=
  if sourcePeerId = session.clientPeerId then some (session.hostPeerId, session.hostVirtualIp)
  else if sourcePeerId = session.hostPeerId then some (session.clientPeerId, session.clientVirtualIp)
  else none

def routeGameplayDatagram (r : RoomRouter) (sessionId : GameplaySessionId) (sourcePeerId : PeerId)
    (now : Instant) : Outcome GameplayRoute :=
  match r.gameplay[sessionId]? with
  | none => .err (.gameplayNotFound sessionId) r
  | some session =>
    -- the deadline of the session alone, not that of the host session under it
    if session.expiresAt ≤ now then .err (.gameplayNotFound sessionId) r
    else
      match otherEnd session sourcePeerId with
      | none => .err (.unauthorizedGameplayPeer sourcePeerId sessionId) r
      | some (destinationPeerId, destinationVirtualIp) =>
        .ok { sessionId, roomId := session.roomId, sourcePeerId, destinationPeerId, destinationVirtualIp }
          { r with
            gameplay := r.gameplay.modify sessionId fun session =>
              { session with lastActivity := now, expiresAt := now + r.config.gameplayIdleTtl } }

def removeGameplaySession (r : RoomRouter) (sessionId : GameplaySessionId) : Outcome Unit :=
  if r.gameplay.contains sessionId then .ok () { r with gameplay := r.gameplay.erase sessionId }
  else .err (.gameplayNotFound sessionId) r

/-! ## Dispatch -/

def dispatch (o : WalkOrder) (r : RoomRouter) : RelayIngress → Outcome RelayAction
  | .discovery sourcePeerId requestId destinationPort payload now =>
    match r.validatePayload payload with
    | .error e => .err e r
    | .ok () =>
      match r.roomForPeer sourcePeerId with
      | none => .err (.peerNotFound sourcePeerId) r
      | some roomId =>
        (beginDiscovery o r roomId sourcePeerId requestId destinationPort now).map fun targets =>
          .discoveryFanout requestId sourcePeerId destinationPort targets payload
  | .discoveryResponse hostSessionId requestId sourcePort payload now =>
    match r.validatePayload payload with
    | .error e => .err e r
    | .ok () =>
      if !isDiscoveryPort sourcePort.port then .err (.invalidDiscoveryPort sourcePort.port) r
      else
        match r.routeDiscoveryResponse requestId hostSessionId now with
        | .error e => .err e r
        | .ok destinationPeerId =>
          match r.hosts[hostSessionId]? with
          | none => .err (.hostNotFound hostSessionId) r
          | some host => .ok (.discoveryUnicast requestId destinationPeerId host.virtualIp sourcePort payload) r
  | .gameplay sessionId sourcePeerId sourcePort payload now =>
    match r.validatePayload payload with
    | .error e => .err e r
    | .ok () =>
      if sourcePort.port ≠ gameplayPort then .err (.invalidGameplayPort sourcePort.port) r
      else
        (r.routeGameplayDatagram sessionId sourcePeerId now).map fun route =>
          .gameplayUnicast route sourcePort payload

/-! ## Expiry: the loops of `expire`, one after the other -/

def expiredHosts (o : WalkOrder) (r : RoomRouter) (now : Instant) : List HostSessionId :=
  keysWhere o (fun _ host => host.expiresAt ≤ now) r.hosts

def expireHosts (o : WalkOrder) (r : RoomRouter) (now : Instant) : RoomRouter := r.removeHosts (expiredHosts o r now)

def expiredDiscoveries (o : WalkOrder) (r : RoomRouter) (now : Instant) : List DiscoveryRequestId :=
  keysWhere o (fun _ discovery => discovery.expiresAt ≤ now) r.discoveries

def expireDiscoveries (o : WalkOrder) (r : RoomRouter) (now : Instant) : RoomRouter :=
  { r with discoveries := eraseAll (expiredDiscoveries o r now) r.discoveries }

def expiredGameplay (o : WalkOrder) (r : RoomRouter) (now : Instant) : List GameplaySessionId :=
  keysWhere o (fun _ session => session.expiresAt ≤ now) r.gameplay

def expireGameplay (o : WalkOrder) (r : RoomRouter) (now : Instant) : RoomRouter :=
  { r with gameplay := eraseAll (expiredGameplay o r now) r.gameplay }

/-- A connected peer that has been silent for `peer_ttl`. -/
def silent (config : RouterConfig) (peer : PeerState) (now : Instant) : Bool :=
  peer.disconnectedAt.isNone && peer.lastSeen + config.peerTtl ≤ now

def disconnectPeers (o : WalkOrder) (r : RoomRouter) (now : Instant) : RoomRouter :=
  (keysWhere o (fun _ peer => silent r.config peer now) r.peers).foldl (fun r peerId => disconnectPeer o r peerId now) r

/-- One round of the last loop. The lookup makes the `expect` inside `leave_room` safe. -/
def expirePeer (o : WalkOrder) (r : RoomRouter) (peerId : PeerId) : RoomRouter :=
  match r.peers[peerId]? with
  | none => r
  | some peer => (leaveRoom o r peer.roomId peerId).2

def expirePeers (o : WalkOrder) (r : RoomRouter) (now : Instant) : RoomRouter :=
  (keysWhere o (fun _ peer => graceOver r.config peer now) r.peers).foldl (expirePeer o) r

def expire (o : WalkOrder) (r : RoomRouter) (now : Instant) : ExpirationReport × RoomRouter :=
  -- each loop sees what the one before it has left
  let hostsExpired := expireHosts o r now
  let discoveriesExpired := expireDiscoveries o hostsExpired now
  let gameplayExpired := expireGameplay o discoveriesExpired now
  let disconnected := disconnectPeers o gameplayExpired now
  ({ expiredHosts := (expiredHosts o r now).length
     expiredDiscoveries := (expiredDiscoveries o hostsExpired now).length
     expiredGameplaySessions := (expiredGameplay o discoveriesExpired now).length },
   expirePeers o disconnected now)

end RoomRouter

/-! ## Operations as data -/

/-- The public operations that may change the router, with their arguments. -/
inductive RouterOp
  | createRoomWithId (roomId : RoomId) (code : RoomCode)
  | removeEmptyRoom (roomId : RoomId)
  | joinRoom (roomId : RoomId) (peerId : PeerId) (virtualIp : VirtualIp) (now : Instant)
  | restorePeer (roomId : RoomId) (peerId : PeerId) (virtualIp : VirtualIp) (now : Instant)
  | leaveRoom (roomId : RoomId) (peerId : PeerId)
  | markPeerSeen (peerId : PeerId) (now : Instant)
  | resumePeer (roomId : RoomId) (peerId : PeerId) (now : Instant)
  | registerHost (roomId : RoomId) (peerId : PeerId) (now : Instant) (fresh : HostSessionId)
  | heartbeatHost (hostSessionId : HostSessionId) (now : Instant)
  | heartbeatHostForRoom (roomId : RoomId) (peerId : PeerId) (hostSessionId : HostSessionId) (now : Instant)
  | unregisterHost (hostSessionId : HostSessionId)
  | beginDiscovery (roomId : RoomId) (clientPeerId : PeerId) (requestId : DiscoveryRequestId)
      (destinationPort : Civ6UdpPort) (now : Instant)
  | selectHost (roomId : RoomId) (clientPeerId : PeerId) (hostSessionId : HostSessionId) (now : Instant)
      (fresh : GameplaySessionId)
  | routeGameplayDatagram (sessionId : GameplaySessionId) (sourcePeerId : PeerId) (now : Instant)
  | removeGameplaySession (sessionId : GameplaySessionId)
  | dispatch (ingress : RelayIngress)
  | expire (now : Instant)

namespace RouterOp

/-- Run an operation and forget what it returns on success. -/
def exec (o : WalkOrder) (r : RoomRouter) : RouterOp → Outcome Unit
  | createRoomWithId roomId code => r.createRoomWithId roomId code
  | removeEmptyRoom roomId => r.removeEmptyRoom roomId
  | joinRoom roomId peerId virtualIp now => r.joinRoom roomId peerId virtualIp now
  | restorePeer roomId peerId virtualIp now => r.restorePeer roomId peerId virtualIp now
  | leaveRoom roomId peerId => RoomRouter.leaveRoom o r roomId peerId
  | markPeerSeen peerId now => r.markPeerSeen peerId now
  | resumePeer roomId peerId now => (r.resumePeer roomId peerId now).map fun _ => ()
  | registerHost roomId peerId now fresh => (r.registerHost roomId peerId now fresh).map fun _ => ()
  | heartbeatHost hostSessionId now => r.heartbeatHost hostSessionId now
  | heartbeatHostForRoom roomId peerId hostSessionId now => r.heartbeatHostForRoom roomId peerId hostSessionId now
  | unregisterHost hostSessionId => r.unregisterHost hostSessionId
  | beginDiscovery roomId clientPeerId requestId destinationPort now =>
    (RoomRouter.beginDiscovery o r roomId clientPeerId requestId destinationPort now).map fun _ => ()
  | selectHost roomId clientPeerId hostSessionId now fresh =>
    (r.selectHost roomId clientPeerId hostSessionId now fresh).map fun _ => ()
  | routeGameplayDatagram sessionId sourcePeerId now =>
    (r.routeGameplayDatagram sessionId sourcePeerId now).map fun _ => ()
  | removeGameplaySession sessionId => r.removeGameplaySession sessionId
  | dispatch ingress => (RoomRouter.dispatch o r ingress).map fun _ => ()
  | expire now => .ok () (RoomRouter.expire o r now).2

/-- The identifiers an operation generates are not in use. -/
def Fresh (r : RoomRouter) : RouterOp → Prop
  | registerHost _ _ _ fresh => r.hosts[fresh]? = none
  | selectHost _ _ _ _ fresh => r.gameplay[fresh]? = none
  | _ => True

end RouterOp

/-- One operation with fresh identifiers, walking its maps in any order. -/
def RoomRouter.Step (r r' : RoomRouter) : Prop := ∃ o op, RouterOp.Fresh r op ∧ r' = (RouterOp.exec o r op).2

/-- The states that operations reach from `RoomRouter::new`. -/
def RoomRouter.Reachable (config : RouterConfig) : RoomRouter → Prop :=
  Transition.Reachable (· = RoomRouter.new config) RoomRouter.Step

end Civ6LanBridge

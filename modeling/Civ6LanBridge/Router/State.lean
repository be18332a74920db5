/-
`crates/router/src/lib.rs`: the configuration, the errors and the tables of the in-memory router.
-/
import Civ6LanBridge.Lib.Bytes
import Civ6LanBridge.Protocol.Envelope

namespace Civ6LanBridge

open Std

structure RouterConfig where
  hostTtl : Duration := Duration.fromSecs 15
  discoveryTtl : Duration := Duration.fromSecs 5
  gameplayIdleTtl : Duration := Duration.fromSecs 30
  peerTtl : Duration := Duration.fromSecs 15
  peerGraceTtl : Duration := Duration.fromSecs 45
  safePayloadSize : Nat := defaultSafeRelayPayloadSize
  maxRooms : Nat := 1024
  maxPeersPerRoom : Nat := 64
  maxTotalPeers : Nat := 4096
  maxHostsPerRoom : Nat := 64
  maxGameplaySessions : Nat := 4096
deriving DecidableEq

inductive RouterError
  | roomNotFound (room : RoomId)
  | duplicateRoomCode (code : RoomCode)
  | duplicateRoomId (room : RoomId)
  | roomNotEmpty (room : RoomId)
  | roomLimitReached
  | roomPeerLimitReached (room : RoomId)
  | peerLimitReached
  | peerAlreadyInRoom (peer : PeerId)
  | peerNotInRoom (peer : PeerId) (room : RoomId)
  | peerNotFound (peer : PeerId)
  | virtualIpInUse (ip : VirtualIp)
  | hostNotFound (host : HostSessionId)
  | hostNotInRoom (host : HostSessionId) (room : RoomId)
  | hostExpired (host : HostSessionId)
  | hostLimitReached (room : RoomId)
  | peerDisconnected (peer : PeerId)
  | peerGraceExpired (peer : PeerId)
  | discoveryNotFound (request : DiscoveryRequestId)
  | discoveryExpired (request : DiscoveryRequestId)
  | discoveryRequestConflict (request : DiscoveryRequestId)
  | gameplayNotFound (session : GameplaySessionId)
  | unauthorizedGameplayPeer (peer : PeerId) (session : GameplaySessionId)
  | gameplayLimitReached
  | invalidDiscoveryPort (port : UInt16)
  | invalidGameplayPort (port : UInt16)
  | datagramTooLarge (size : Nat)
deriving DecidableEq

/-! ## Values the router takes and returns -/

structure DiscoveryTarget where
  hostSessionId : HostSessionId
  hostPeerId : PeerId
  hostVirtualIp : VirtualIp
deriving DecidableEq

structure RoomSnapshot where
  roomId : RoomId
  code : RoomCode
  memberCount : Nat
  hostCount : Nat
deriving DecidableEq

structure HostSnapshot where
  hostSessionId : HostSessionId
  roomId : RoomId
  peerId : PeerId
  virtualIp : VirtualIp
deriving DecidableEq

structure PeerSnapshot where
  roomId : RoomId
  peerId : PeerId
  virtualIp : VirtualIp
  connectionEpoch : UInt64
deriving DecidableEq

structure GameplaySnapshot where
  sessionId : GameplaySessionId
  roomId : RoomId
  clientPeerId : PeerId
  hostPeerId : PeerId
  clientVirtualIp : VirtualIp
  hostVirtualIp : VirtualIp
deriving DecidableEq

inductive RelayIngress
  | discovery (sourcePeerId : PeerId) (requestId : DiscoveryRequestId) (destinationPort : Civ6UdpPort)
      (payload : List UInt8) (now : Instant)
  | discoveryResponse (hostSessionId : HostSessionId) (requestId : DiscoveryRequestId) (sourcePort : Civ6UdpPort)
      (payload : List UInt8) (now : Instant)
  | gameplay (sessionId : GameplaySessionId) (sourcePeerId : PeerId) (sourcePort : Civ6UdpPort)
      (payload : List UInt8) (now : Instant)

structure GameplayRoute where
  sessionId : GameplaySessionId
  roomId : RoomId
  sourcePeerId : PeerId
  destinationPeerId : PeerId
  destinationVirtualIp : VirtualIp
deriving DecidableEq

inductive RelayAction
  | discoveryFanout (requestId : DiscoveryRequestId) (sourcePeerId : PeerId) (destinationPort : Civ6UdpPort)
      (targets : List DiscoveryTarget) (payload : List UInt8)
  | discoveryUnicast (requestId : DiscoveryRequestId) (destinationPeerId : PeerId) (sourceVirtualIp : VirtualIp)
      (sourcePort : Civ6UdpPort) (payload : List UInt8)
  | gameplayUnicast (route : GameplayRoute) (destinationPort : Civ6UdpPort) (payload : List UInt8)
deriving DecidableEq

structure ExpirationReport where
  expiredHosts : Nat
  expiredDiscoveries : Nat
  expiredGameplaySessions : Nat
deriving DecidableEq

/-! ## Tables -/

structure RoomState where
  code : RoomCode
  members : ExtTreeSet PeerId
  hostSessions : ExtTreeSet HostSessionId

structure PeerState where
  roomId : RoomId
  virtualIp : VirtualIp
  lastSeen : Instant
  disconnectedAt : Option Instant
  connectionEpoch : UInt64
deriving DecidableEq

structure HostState where
  roomId : RoomId
  peerId : PeerId
  virtualIp : VirtualIp
  lastHeartbeat : Instant
  expiresAt : Instant
deriving DecidableEq

structure DiscoveryState where
  roomId : RoomId
  clientPeerId : PeerId
  destinationPort : Civ6UdpPort
  expiresAt : Instant
deriving DecidableEq

structure GameplayState where
  roomId : RoomId
  clientPeerId : PeerId
  hostPeerId : PeerId
  hostVirtualIp : VirtualIp
  clientVirtualIp : VirtualIp
  lastActivity : Instant
  expiresAt : Instant
deriving DecidableEq

section RoomPeer

/-! The key of `host_by_peer` is a pair, ordered by its components one after the other. -/

instance : Ord (RoomId × PeerId) := lexOrd

instance : TransOrd (RoomId × PeerId) :=
  inferInstanceAs (TransCmp (compareLex (compareOn (Prod.fst : RoomId × PeerId → RoomId)) (compareOn Prod.snd)))

instance : LawfulEqOrd (RoomId × PeerId) where
  eq_of_compare {x y} h := by
    have h' : (compareLex (compareOn Prod.fst) (compareOn Prod.snd)) x y = .eq := h
    rw [compareLex_eq_eq] at h'
    exact Prod.ext (LawfulEqOrd.eq_of_compare h'.1) (LawfulEqOrd.eq_of_compare h'.2)

end RoomPeer

/-- Authoritative in-memory routing state for one relay process. -/
@[ext] structure RoomRouter where
  config : RouterConfig
  rooms : ExtTreeMap RoomId RoomState
  roomsByCode : ExtTreeMap RoomCode RoomId
  peers : ExtTreeMap PeerId PeerState
  virtualIps : ExtTreeMap VirtualIp PeerId
  hosts : ExtTreeMap HostSessionId HostState
  hostByPeer : ExtTreeMap (RoomId × PeerId) HostSessionId
  discoveries : ExtTreeMap DiscoveryRequestId DiscoveryState
  gameplay : ExtTreeMap GameplaySessionId GameplayState

def RoomRouter.new (config : RouterConfig) : RoomRouter :=
  { config, rooms := ∅, roomsByCode := ∅, peers := ∅, virtualIps := ∅, hosts := ∅, hostByPeer := ∅,
    discoveries := ∅, gameplay := ∅ }

end Civ6LanBridge

/-
`server/src/state.rs` and the sequence numbers of `server/src/metrics.rs`: what the server holds, and
the rate limiter and the duplicate check that packets and requests pass. Clock readings are arguments.
-/
import Civ6LanBridge.Router.Ops
import Civ6LanBridge.Server.Db
import Civ6LanBridge.Server.WireGuard

namespace Civ6LanBridge

open Std FinMap Bytes

/-! ## Rate limiting -/

structure RateWindow where
  startedAt : Instant
  count : Nat
deriving DecidableEq

structure FixedWindowRateLimiter where
  limit : Nat
  window : Duration
  entries : ExtTreeMap String RateWindow

namespace FixedWindowRateLimiter

def new (limit : Nat) (window : Duration) : FixedWindowRateLimiter := { limit, window, entries := ∅ }

def allow (limiter : FixedWindowRateLimiter) (key : String) (now : Instant) : Bool × FixedWindowRateLimiter :=
  let entries := limiter.entries.filter fun _ entry => now - entry.startedAt < limiter.window
  let entry := (entries[key]?).getD { startedAt := now, count := 0 }
  let entry := if limiter.window ≤ now - entry.startedAt then { startedAt := now, count := 0 } else entry
  if limiter.limit ≤ entry.count then (false, { limiter with entries := entries.insert key entry })
  else (true, { limiter with entries := entries.insert key { entry with count := entry.count + 1 } })

end FixedWindowRateLimiter

/-! ## Sequence numbers -/

inductive SequenceDisposition
  | legacy
  | new
  | duplicate
  | reordered
deriving DecidableEq

structure SequenceTracker where
  lastSeen : ExtTreeMap PeerId UInt64

namespace SequenceTracker

def maxSequenceTrackers : Nat := 65536

/-- `RelayMetrics::record_sequence`. -/
def recordSequence (tracker : SequenceTracker) (peerId : PeerId) (sequence : UInt64) :
    SequenceDisposition × SequenceTracker :=
  if sequence = 0 then (.legacy, tracker)
  else
    match tracker.lastSeen[peerId]? with
    | none =>
      -- a full table is emptied, not thinned
      let lastSeen := if maxSequenceTrackers ≤ tracker.lastSeen.size then ∅ else tracker.lastSeen
      (.new, { lastSeen := lastSeen.insert peerId sequence })
    | some previous =>
      if sequence = previous then (.duplicate, tracker)
      -- an older number is let through and not remembered
      else if sequence < previous then (.reordered, tracker)
      else (.new, { lastSeen := tracker.lastSeen.insert peerId sequence })

end SequenceTracker

/-! ## The state of the server -/

structure ClientSession where
  expiresAt : Instant
deriving DecidableEq

/-- The first three octets of the addresses of the WireGuard subnet. -/
structure IpPrefix where
  a : UInt8
  b : UInt8
  c : UInt8
deriving DecidableEq

/-- `AppState`, with the tables of the database and the peers of the WireGuard interface in place of
the handles to them. -/
structure AppState where
  router : RoomRouter
  bearerToken : String
  database : Option Database
  wireguard : Option WireGuard
  peerKeys : ExtTreeMap PeerId String
  clientSessions : ExtTreeMap String ClientSession
  sequenceTracker : SequenceTracker
  apiRateLimiter : FixedWindowRateLimiter
  udpRateLimiter : FixedWindowRateLimiter
  virtualIpPrefix : IpPrefix

def apiRequestsPerSecond : Nat := 120
def udpPacketsPerSecond : Nat := 2000

namespace AppState

def new (bearerToken : String) : AppState where
  router := RoomRouter.new {}
  bearerToken
  database := none
  wireguard := none
  peerKeys := ∅
  clientSessions := ∅
  sequenceTracker := { lastSeen := ∅ }
  apiRateLimiter := .new apiRequestsPerSecond (Duration.fromSecs 1)
  udpRateLimiter := .new udpPacketsPerSecond (Duration.fromSecs 1)
  virtualIpPrefix := { a := 10, b := 240, c := 0 }

def withDatabase (s : AppState) (database : Database) : AppState := { s with database := some database }

def withWireguard (s : AppState) (wireguard : WireGuard) : AppState := { s with wireguard := some wireguard }

def withVirtualIpPrefix (s : AppState) (virtualIpPrefix : IpPrefix) : AppState := { s with virtualIpPrefix }

/-- A server that starts with an empty database and an empty WireGuard interface. -/
def fresh (bearerToken : String) (p : IpPrefix) : AppState :=
  (((AppState.new bearerToken).withVirtualIpPrefix p).withDatabase .empty).withWireguard .empty

end AppState

/-- The address of the subnet with the given last octet. -/
def IpPrefix.address (p : IpPrefix) (lastOctet : UInt8) : VirtualIp := ⟨⟨p.a, p.b, p.c, lastOctet⟩⟩

def allocateVirtualIp (r : RoomRouter) (p : IpPrefix) : Option VirtualIp :=
  ((List.range' 2 253).map fun lastOctet => p.address (UInt8.ofNat lastOctet)).find? r.isVirtualIpAvailable

end Civ6LanBridge

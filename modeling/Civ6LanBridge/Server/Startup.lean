/-
`server/src/main.rs`: how the server starts, from its environment to where it listens, and what outlives it: the tables
in PostgreSQL and the peers of the WireGuard interface. Sockets and logging are left out.
-/
import Civ6LanBridge.Server.Restore
import Civ6LanBridge.Server.SessionDb

namespace Civ6LanBridge

open Std FinMap Bytes

/-! ## The environment -/

/-- What `env::var` finds. -/
inductive EnvVar
  | value (text : String)
  | notPresent
  | notUnicode
deriving DecidableEq

namespace EnvVar

/-- `Result::ok`. -/
def ok : EnvVar → Option String
  | value text => some text
  | notPresent | notUnicode => none

end EnvVar

/-- The variables `CIV6_…` that the server reads. -/
structure Environment where
  controlBearerToken : EnvVar := .notPresent
  virtualIpPrefix : EnvVar := .notPresent
  databaseUrl : EnvVar := .notPresent
  wireguardInterface : EnvVar := .notPresent
  relayPort : EnvVar := .notPresent

/-- Why the server does not start. -/
inductive StartError
  | text (s : String)
  /-- `VarError::NotUnicode`. -/
  | notUnicode
  /-- `ParseIntError`. -/
  | parseInt
  | sql (e : SqlError)
  | load (e : LoadError)
  | router (e : Fault RouterError)
  | wireguard (e : WireGuardError)
deriving DecidableEq

/-- `str::parse` of an unsigned integer below the bound. -/
def parseUnsigned (bound : Nat) (text : String) : Option Nat :=
  let digits := match text.toList with
    | '+' :: digits => digits
    | digits => digits
  if digits = [] ∨ ¬ digits.all Char.isDigit then none
  else
    let n := digits.foldl (fun n c => 10 * n + (c.toNat - '0'.toNat)) 0
    if n < bound then some n else none

def parseIpv4Prefix (value : String) : Except StartError IpPrefix :=
  match (value.toList.splitOn '.').mapM fun digits => parseUnsigned 256 (String.ofList digits) with
  | none => .error .parseInt
  | some [first, second, third] => .ok { a := UInt8.ofNat first, b := UInt8.ofNat second, c := UInt8.ofNat third }
  | some _ => .error (.text "CIV6_VIRTUAL_IP_PREFIX must contain exactly three IPv4 octets")

namespace Environment

variable (env : Environment)

def bearerToken : Except StartError String :=
  match env.controlBearerToken.ok with
  | none => .error (.text "CIV6_CONTROL_BEARER_TOKEN must be set")
  | some bearerToken =>
    if bearerToken.utf8ByteSize < 32 then .error (.text "CIV6_CONTROL_BEARER_TOKEN must be at least 32 characters")
    else .ok bearerToken

def ipPrefix : Except StartError IpPrefix :=
  match env.virtualIpPrefix with
  | .value value => parseIpv4Prefix value
  | .notPresent => .ok { a := 10, b := 240, c := 0 }
  | .notUnicode => .error .notUnicode

def defaultRelayPort : UInt16 := 32000

/-- The port that the relay is told to send to, once `CIV6_RELAY_BIND` is read. -/
def relayPortFor (relayBind : SocketAddr) : Except StartError UInt16 :=
  match env.relayPort.ok with
  | some value =>
    match parseUnsigned 65536 value with
    | none => .error .parseInt
    | some relayPort => .ok (UInt16.ofNat relayPort)
  | none => .ok (if relayBind.port = 0 then defaultRelayPort else relayBind.port)

/-- Where the relay is bound, and the port it is told to send to. -/
def relayEndpoint (relayBind : SocketAddr) : Except StartError (SocketAddr × UInt16) :=
  match env.relayPortFor relayBind with
  | .error e => .error e
  | .ok relayPort =>
    if relayBind.port = 0 then .ok ({ relayBind with port := relayPort }, relayPort)
    else if relayBind.port ≠ relayPort then
      .error (.text s!"CIV6_RELAY_BIND port {relayBind.port} does not match CIV6_RELAY_PORT {relayPort}")
    else .ok (relayBind, relayPort)

/-- The relay is bound to the port that it is told of, at the address that was asked for. -/
theorem relayEndpoint_port {relayBind bound : SocketAddr} {relayPort : UInt16} {env : Environment}
    (h : env.relayEndpoint relayBind = .ok (bound, relayPort)) :
    bound.port = relayPort ∧ bound.ip = relayBind.ip ∧ (relayBind.port = 0 ∨ bound = relayBind) := by
  unfold relayEndpoint at h
  split at h
  · cases h
  split at h
  · rename_i hzero
    cases h
    exact ⟨rfl, rfl, Or.inl hzero⟩
  split at h
  · cases h
  · rename_i hsame
    cases h
    exact ⟨not_not.1 hsame, rfl, Or.inr rfl⟩

end Environment

/-! ## What outlives the server -/

/-- What a server finds when it starts, and leaves behind when it stops. -/
structure Estate where
  database : Database
  sessions : SessionTables
  wireguard : WireGuard

/-- What is left behind of the state of a server. -/
def Estate.leftBy (estate : Estate) (s : AppState) : Estate :=
  { estate with database := s.database.getD estate.database, wireguard := s.wireguard.getD estate.wireguard }

/-- How the calls of a start to the database and to `wg` go, and what the clocks read. -/
structure Conditions where
  order : WalkOrder := .sorted
  connect : Option SqlError := none
  load : Option SqlError := none
  clear : Option SqlError := none
  addPeer : PeerId → Option WireGuardError := fun _ => none
  dbNow : Timestamp := 0
  clock : PeerId → Instant := fun _ => 0

/-! ## Starting -/

section

variable (base64 : String → Option (List UInt8)) (inetText : VirtualIp → String) (c : Conditions)

namespace AppState

/-- The loop of `restore_wireguard_peers`, with the number of peers restored so far. -/
def restoreTunnels (s : AppState) (restored : Nat) : List (PeerId × String) → Except WireGuardError Nat × AppState
  | [] => (.ok restored, s)
  | (peerId, publicKey) :: peerKeys =>
    match s.router.peerVirtualIp peerId with
    | none => restoreTunnels s restored peerKeys
    | some virtualIp =>
      match s.wgAddPeer base64 { addPeer := c.addPeer peerId } publicKey virtualIp with
      | (.error e, s) => (.error e, s)
      | (.ok (), s) => restoreTunnels s (restored + 1) peerKeys

def restoreWireguardPeers (s : AppState) : Except WireGuardError Nat × AppState :=
  match s.wireguard with
  | none => (.ok 0, s)
  | some _ => s.restoreTunnels base64 c 0 (c.order.arrange s.peerKeys.toList)

/-- `main` where the database is configured. -/
def openDatabase (s : AppState) (estate : Estate) : Except StartError AppState × Estate :=
  match c.connect, c.load, estate.database.loadState inetText c.order c.dbNow with
  | some e, _, _ => (.error (.sql e), estate)
  | none, some e, _ => (.error (.sql e), estate)
  | none, none, .error e => (.error (.load e), estate)
  | none, none, .ok persisted =>
    match c.clear with
    | some e => (.error (.sql e), estate)
    | none =>
      let estate := { estate with sessions := .clearEphemeralSessions }
      match s.restorePersistedState c.clock persisted with
      | (.error e, _) => (.error (.router e), estate)
      | (.ok (), s) => (.ok (s.withDatabase estate.database), estate)

/-- `main` where WireGuard is configured. -/
def openTunnels (s : AppState) (estate : Estate) : Except StartError AppState × Estate :=
  match (s.withWireguard estate.wireguard).restoreWireguardPeers base64 c with
  | (.error e, s) => (.error (.wireguard e), estate.leftBy s)
  | (.ok _, s) => (.ok s, estate.leftBy s)

end AppState

/-- `main` up to where the server listens. -/
def start (env : Environment) (estate : Estate) : Except StartError AppState × Estate :=
  match env.bearerToken, env.ipPrefix with
  | .error e, _ => (.error e, estate)
  | .ok _, .error e => (.error e, estate)
  | .ok bearerToken, .ok p =>
    let s := (AppState.new bearerToken).withVirtualIpPrefix p
    match if env.databaseUrl.ok.isSome then s.openDatabase inetText c estate else (.ok s, estate) with
    | (.error e, estate) => (.error e, estate)
    | (.ok s, estate) => if env.wireguardInterface.ok.isSome then s.openTunnels base64 c estate else (.ok s, estate)

end

end Civ6LanBridge

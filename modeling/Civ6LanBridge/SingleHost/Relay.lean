/-
`server/civ6-relay.py`: the relay between the clients and one configured host, without rooms and without
a control plane. Each client gets a socket of its own towards the host, for each kind of traffic.
-/
import Civ6LanBridge.Lib.Shared
import Civ6LanBridge.Lib.Past
import Civ6LanBridge.Protocol.Envelope

namespace Civ6LanBridge.SingleHost

open Std FinMap

structure Address where
  ip : Ipv4Addr
  port : Nat
deriving DecidableEq

/-- What a client's packets are about. -/
inductive Kind
  | discovery
  | gameplay
deriving DecidableEq

/-- The key of a session. -/
structure Key where
  kind : Kind
  client : Address
deriving DecidableEq

/-! ## Keys -/

/-- Equal codes are equal keys. -/
def Key.code (key : Key) : List Nat :=
  [match key.kind with
    | .discovery => 0
    | .gameplay => 1,
    key.client.ip.a.toNat, key.client.ip.b.toNat, key.client.ip.c.toNat, key.client.ip.d.toNat, key.client.port]

theorem Key.code_inj {x y : Key} (h : x.code = y.code) : x = y := by
  obtain ⟨kind, ⟨⟨a, b, c, d⟩, port⟩⟩ := x
  obtain ⟨kind', ⟨⟨a', b', c', d'⟩, port'⟩⟩ := y
  simp only [code, List.cons.injEq, UInt8.toNat_inj, and_true] at h
  obtain ⟨hkind, rfl, rfl, rfl, rfl, rfl⟩ := h
  cases kind <;> cases kind' <;> first | rfl | cases hkind

instance : Ord Key := ⟨fun x y => compare x.code y.code⟩

instance : TransOrd Key := inferInstanceAs (TransCmp (compareOn Key.code))

instance : LawfulEqOrd Key where
  eq_of_compare h := Key.code_inj (LawfulEqOrd.eq_of_compare (α := List Nat) h)

/-! ## The configuration -/

/-- `ipaddress.ip_network(network, strict=False)`. A network of another version contains no IPv4 address. -/
inductive IpNetwork
  | v4 (address : Ipv4Addr) (prefixLength : Fin 33)
  | v6 (address : List UInt8) (prefixLength : Fin 129)
deriving DecidableEq

def IpNetwork.contains (network : IpNetwork) (ip : Ipv4Addr) : Bool :=
  match network with
  | v4 address prefixLength =>
    ip.toU32.toNat / 2 ^ (32 - prefixLength.val) = address.toU32.toNat / 2 ^ (32 - prefixLength.val)
  | v6 _ _ => false

/-- `_validate_port`. -/
def validatePort (value : Int) (name : String) : Except String { port : Nat // 1 ≤ port ∧ port ≤ 65535 } :=
  if h : 1 ≤ value ∧ value ≤ 65535 then .ok ⟨value.toNat, by omega⟩ else .error s!"{name} must be between 1 and 65535"

-- a reading of the clock and a span of time are floats; nothing here depends on how those are rounded
variable {Time : Type} [Zero Time] [LE Time] [DecidableLE Time]

structure Config (Time : Type) [Zero Time] [LE Time] where
  listenIp : Ipv4Addr
  hostIp : Ipv4Addr
  discoveryStart : { port : Nat // 1 ≤ port ∧ port ≤ 65535 }
  discoveryEnd : { port : Nat // 1 ≤ port ∧ port ≤ 65535 }
  gameplayPort : { port : Nat // 1 ≤ port ∧ port ≤ 65535 }
  idleTimeout : Time
  allowedNetworks : List IpNetwork
  bufferSize : Nat
  ordered : ¬ discoveryEnd.val < discoveryStart.val
  apart : ¬ (discoveryStart.val ≤ gameplayPort.val ∧ gameplayPort.val ≤ discoveryEnd.val)
  timesOut : ¬ idleTimeout ≤ 0

/-- The checks of `Civ6Relay.__init__`, after those of the addresses and the networks. -/
def Config.new (listenIp hostIp : Ipv4Addr) (discoveryStart discoveryEnd gameplayPort : Int) (idleTimeout : Time)
    (allowedNetworks : List IpNetwork) (bufferSize : Nat) : Except String (Config Time) := do
  let discoveryStart ← validatePort discoveryStart "discovery_start"
  let discoveryEnd ← validatePort discoveryEnd "discovery_end"
  let gameplayPort ← validatePort gameplayPort "gameplay_port"
  if ordered : discoveryEnd.val < discoveryStart.val then
    .error "discovery_start must not be greater than discovery_end"
  else if apart : discoveryStart.val ≤ gameplayPort.val ∧ gameplayPort.val ≤ discoveryEnd.val then
    .error "gameplay_port must not overlap the discovery range"
  else if timesOut : idleTimeout ≤ 0 then .error "idle_timeout must be greater than zero"
  else
    .ok
      { listenIp, hostIp, discoveryStart, discoveryEnd, gameplayPort, idleTimeout, allowedNetworks, bufferSize,
        ordered, apart, timesOut }

theorem validatePort_val (port : { port : Nat // 1 ≤ port ∧ port ≤ 65535 }) (name : String) :
    validatePort port.val name = .ok port := by
  obtain ⟨port, hport⟩ := port
  unfold validatePort
  rw [dif_pos (show 1 ≤ (port : Int) ∧ (port : Int) ≤ 65535 by omega)]
  rfl

/-- The checks pass for every configuration, and only there, since they build it. -/
theorem Config.new_self (config : Config Time) :
    Config.new config.listenIp config.hostIp config.discoveryStart.val config.discoveryEnd.val config.gameplayPort.val
      config.idleTimeout config.allowedNetworks config.bufferSize = .ok config := by
  unfold Config.new
  rw [validatePort_val, validatePort_val, validatePort_val]
  show (if ordered : config.discoveryEnd.val < config.discoveryStart.val then _ else _) = _
  rw [dif_neg config.ordered, dif_neg config.apart, dif_neg config.timesOut]

/-! ## The relay -/

/-- What a socket is registered with: `("upstream", 0)`, or the kind and the port of a public socket. -/
inductive Metadata
  | upstream
  | front (kind : Kind) (port : Nat)
deriving DecidableEq

/-- The identity of a socket, or of a session object. -/
abbrev ObjectId := Nat

structure Session (Time : Type) where
  client : Address
  upstream : ObjectId
  kind : Kind
  lastSeen : Time
  returnPort : Nat

def Session.key (session : Session Time) : Key := { kind := session.kind, client := session.client }

/-- `Civ6Relay`. Its selector has the sockets that are open, since a socket is registered when it is opened
and closed when it is no longer registered. The heap has the session objects, which both tables refer to. -/
structure Civ6Relay (Time : Type) [Zero Time] [LE Time] where
  config : Config Time
  selector : ExtTreeMap ObjectId Metadata
  frontSockets : ExtTreeMap Nat ObjectId
  heap : ExtTreeMap ObjectId (Session Time)
  sessions : ExtTreeMap Key ObjectId
  upstreamSessions : ExtTreeMap ObjectId ObjectId
  running : Bool
  nextId : ObjectId

/-- A datagram that has left a socket. -/
structure Sent where
  socket : ObjectId
  data : List UInt8
  dest : Address
deriving DecidableEq

/-- What happens outside while a socket is handled: what `recvfrom` returns, whether a socket can be opened,
whether `sendto` succeeds, and the time. -/
structure Io (Time : Type) where
  received : Option (List UInt8 × Address)
  opens : Bool
  sends : Bool
  now : Time

namespace Civ6Relay

/-- `__init__`, once the configuration has been checked. -/
def new (config : Config Time) : Civ6Relay Time :=
  { config, selector := ∅, frontSockets := ∅, heap := ∅, sessions := ∅, upstreamSessions := ∅, running := false,
    nextId := 0 }

variable (relay : Civ6Relay Time)

def bindFrontSocket (port : Nat) (kind : Kind) : Civ6Relay Time :=
  { relay with
    selector := relay.selector.insert relay.nextId (.front kind port)
    frontSockets := relay.frontSockets.insert port relay.nextId
    nextId := relay.nextId + 1 }

/-- A bind that fails ends the program before it takes a packet. -/
def start : Civ6Relay Time :=
  let ports := List.range' relay.config.discoveryStart (relay.config.discoveryEnd + 1 - relay.config.discoveryStart)
  let bound := ports.foldl (fun relay port => relay.bindFrontSocket port .discovery) relay
  { bound.bindFrontSocket relay.config.gameplayPort .gameplay with running := true }

def closeSocket (sock : ObjectId) : Civ6Relay Time := { relay with selector := relay.selector.erase sock }

def close : Civ6Relay Time :=
  if relay.running = false ∧ relay.frontSockets = ∅ ∧ relay.upstreamSessions = ∅ then relay
  else
    let relay := { relay with running := false }
    let relay := (relay.frontSockets.toList.map Prod.snd).foldl closeSocket relay
    let relay := (relay.upstreamSessions.toList.map Prod.fst).foldl closeSocket relay
    { relay with frontSockets := ∅, upstreamSessions := ∅, sessions := ∅ }

def isAllowed (address : Ipv4Addr) : Bool :=
  relay.config.allowedNetworks.isEmpty || relay.config.allowedNetworks.any (·.contains address)

def dropSession (key : Key) (session : Session Time) : Civ6Relay Time :=
  { relay with
    sessions := relay.sessions.erase key
    upstreamSessions := relay.upstreamSessions.erase session.upstream }.closeSocket session.upstream

/-- `_new_session`, and the entries that its caller makes for it. It raises if there is no socket for it. -/
def newSession (kind : Kind) (client : Address) (returnPort : Nat) (io : Io Time) :
    Option (ObjectId × Civ6Relay Time) :=
  let upstream := relay.nextId
  let session := relay.nextId + 1
  if io.opens then
    some (session,
      { relay with
        selector := relay.selector.insert upstream .upstream
        heap := relay.heap.insert session { client, upstream, kind, lastSeen := io.now, returnPort }
        sessions := relay.sessions.insert { kind, client } session
        upstreamSessions := relay.upstreamSessions.insert upstream session
        nextId := relay.nextId + 2 })
  else none

def handleClientPacket (kind : Kind) (returnPort : Nat) (data : List UInt8) (client : Address) (io : Io Time) :
    Option (List Sent × Civ6Relay Time) :=
  if relay.isAllowed client.ip = false then some ([], relay)
  else if client.ip = relay.config.hostIp then some ([], relay)
  else
    let key : Key := { kind, client }
    let found :=
      match relay.sessions[key]? with
      | none => relay.newSession kind client returnPort io
      | some session =>
        some (session,
          { relay with heap := relay.heap.modify session fun object => { object with lastSeen := io.now, returnPort } })
    found.map fun (session, relay) =>
      match relay.heap[session]? with
      -- a table never refers to an object that is not there
      | none => ([], relay)
      | some session =>
        if io.sends then
          ([{ socket := session.upstream, data, dest := { ip := relay.config.hostIp, port := returnPort } }], relay)
        else ([], relay.dropSession key session)

def handleHostPacket (upstream : ObjectId) (data : List UInt8) (sender : Address) (io : Io Time) :
    List Sent × Civ6Relay Time :=
  match relay.upstreamSessions[upstream]? with
  | none => ([], relay)
  | some session =>
    if sender.ip ≠ relay.config.hostIp then ([], relay)
    else
      let relay := { relay with heap := relay.heap.modify session fun object => { object with lastSeen := io.now } }
      match relay.heap[session]? with
      | none => ([], relay)
      | some session =>
        let returnPort := if relay.frontSockets.contains sender.port then sender.port else session.returnPort
        match relay.frontSockets[returnPort]? with
        | none => ([], relay)
        | some frontSocket =>
          if io.sends then ([{ socket := frontSocket, data, dest := session.client }], relay)
          else ([], relay.dropSession session.key session)

/-- `none` is an exception that ends the run. -/
def handleReadable (sock : ObjectId) (metadata : Metadata) (io : Io Time) : Option (List Sent × Civ6Relay Time) :=
  match io.received with
  | none => some ([], relay)
  | some (datagram, sender) =>
    let data := datagram.take relay.config.bufferSize
    match metadata with
    | .upstream => some (relay.handleHostPacket sock data sender io)
    | .front kind port => relay.handleClientPacket kind port data sender io

variable [Sub Time] [LT Time] [DecidableLT Time]

def expireSessions (o : WalkOrder) (now : Time) : Civ6Relay Time :=
  let cutoff := now - relay.config.idleTimeout
  (o.arrange relay.sessions.toList).foldl (fun relay (key, session) =>
    match relay.heap[session]? with
    | none => relay
    | some session => if session.lastSeen < cutoff then relay.dropSession key session else relay) relay

end Civ6Relay

/-! ## `run` -/

/-- Where `run` is: in `select`, in the batch of sockets that it has returned, or past its end. -/
inductive Phase
  | selecting
  | handling (batch : List (ObjectId × Metadata))
  | over

structure Loop (Time : Type) [Zero Time] [LE Time] where
  relay : Civ6Relay Time
  phase : Phase

/-- `select` returns; the next socket of the batch is handled; the batch is done, and idle sessions expire; or a
signal has the relay stop. -/
inductive Event (Time : Type)
  | select (ready : List ObjectId)
  | handle (io : Io Time)
  | expire (o : WalkOrder) (now : Time)
  | stop

namespace Loop

variable (loop : Loop Time)

/-- The next socket of the batch. -/
def next? : Option (ObjectId × Metadata) :=
  match loop.phase with
  | .handling (next :: _) => some next
  | _ => none

/-- A closed socket receives nothing, and `select` returns open ones. -/
def Allows : Event Time → Prop
  | .select ready => loop.phase = .selecting ∧ ∀ sock ∈ ready, sock ∈ loop.relay.selector
  | .handle io => ∃ sock metadata, loop.next? = some (sock, metadata) ∧
      (io.received ≠ none → sock ∈ loop.relay.selector)
  | .expire _ _ => loop.phase = .handling []
  | .stop => True

variable [Sub Time] [LT Time] [DecidableLT Time]

/-- What is sent, and the loop afterwards. -/
def apply : Event Time → List Sent × Loop Time
  | .select ready =>
    ([], { loop with
      phase :=
        .handling (ready.filterMap fun sock => loop.relay.selector[sock]?.map fun metadata => (sock, metadata)) })
  | .handle io =>
    match loop.phase with
    | .handling ((sock, metadata) :: batch) =>
      match loop.relay.handleReadable sock metadata io with
      | some (sent, relay) => (sent, { relay, phase := .handling batch })
      | none => ([], { relay := loop.relay.close, phase := .over })
    | _ => ([], loop)
  | .expire o now =>
    let relay := loop.relay.expireSessions o now
    ([], if relay.running then { relay, phase := .selecting } else { relay := relay.close, phase := .over })
  | .stop => ([], { loop with relay := { loop.relay with running := false } })

end Loop

end Civ6LanBridge.SingleHost

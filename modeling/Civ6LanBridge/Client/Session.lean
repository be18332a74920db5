/-
`crates/client-core/src/lib.rs`: the session of a client with the relay. It numbers what it sends, keeps
the path alive with probes and reconnects after repeated failures. How long it waits is left out, and so
are round-trip times; the clock reading in an envelope is an argument.
-/
import Civ6LanBridge.Protocol.RoundTrip
import Civ6LanBridge.Router.Ops

namespace Civ6LanBridge

inductive ClientError
  | relayCodec (e : RelayCodecError)
  | relayPayloadTooLarge (size limit : Nat)
  | invalidResponse (what : String)
deriving DecidableEq

/-! ## The session -/

inductive RelayConnectionState
  | disconnected
  | connecting
  | authenticated
  | roomJoined
  | healthy
  | degraded
  | reconnecting
  | resynced
deriving DecidableEq

structure RelaySessionConfig where
  degradedAfterFailures : UInt32 := 3
  safePayloadSize : Nat := defaultSafeRelayPayloadSize
  pathId : Option UInt8 := none
deriving DecidableEq

structure RelaySessionSnapshot where
  state : RelayConnectionState
  consecutiveProbeFailures : UInt32
  reconnectAttempts : UInt32
  connectionEpoch : UInt64
deriving DecidableEq

def RelaySessionSnapshot.new (connectionEpoch : UInt64) : RelaySessionSnapshot :=
  { state := .disconnected, consecutiveProbeFailures := 0, reconnectAttempts := 0, connectionEpoch }

/-- `RelaySession`, with the path that its transport reports in place of the relay client. -/
structure RelaySession where
  transportPathId : Option UInt8
  config : RelaySessionConfig
  snapshot : RelaySessionSnapshot
  nextSequence : UInt64
deriving DecidableEq

/-- `u32::saturating_add`. -/
def saturatingAddU32 (a b : UInt32) : UInt32 := UInt32.ofNat (min (a.toNat + b.toNat) (2 ^ 32 - 1))

def RelayMessage.payloadSize : RelayMessage → Nat
  | discoveryRequest _ _ payload | discoveryToHost _ _ _ payload | discoveryResponse _ _ _ payload
  | discoveryToClient _ _ _ payload | gameplayPacket _ _ payload | gameplayToPeer _ _ _ payload => payload.length
  | relayProbe _ | relayProbeAck _ => 0

theorem payloadFits_iff (message : RelayMessage) : message.PayloadFits ↔ message.payloadSize ≤ maxCiv6DatagramSize := by
  cases message <;> simp [RelayMessage.PayloadFits, RelayMessage.payload?, RelayMessage.payloadSize]

namespace RelaySession

def withConfig (transportPathId : Option UInt8) (connectionEpoch : UInt64) (config : RelaySessionConfig) :
    RelaySession :=
  { transportPathId, config, snapshot := .new connectionEpoch, nextSequence := 0 }

def new (transportPathId : Option UInt8) (connectionEpoch : UInt64) : RelaySession :=
  withConfig transportPathId connectionEpoch {}

variable (session : RelaySession)

def setState (state : RelayConnectionState) : RelaySession :=
  { session with snapshot := { session.snapshot with state } }

def markAuthenticated (connectionEpoch : UInt64) : RelaySession :=
  { session with snapshot := { session.snapshot with connectionEpoch, state := .authenticated } }

def markRoomJoined : RelaySession := session.setState .roomJoined

def markDisconnected : RelaySession := session.setState .disconnected

/-- `record_probe_failure`: whether the session is now degraded. -/
def recordProbeFailure : Bool × RelaySession :=
  let failures := saturatingAddU32 session.snapshot.consecutiveProbeFailures 1
  let session := { session with snapshot := { session.snapshot with consecutiveProbeFailures := failures } }
  if session.config.degradedAfterFailures ≤ failures then (true, session.setState .degraded) else (false, session)

def recordProbeSuccess : RelaySession :=
  { session with snapshot := { session.snapshot with consecutiveProbeFailures := 0 } }

/-! ## Sending -/

def nextEnvelopeMeta (sentAtMs : UInt64) : RelayEnvelopeMeta × RelaySession :=
  let session := { session with nextSequence := max (saturatingAdd session.nextSequence 1) 1 }
  ({ sequence := session.nextSequence, connectionEpoch := session.snapshot.connectionEpoch, sentAtMs,
     pathId := session.config.pathId.or session.transportPathId }, session)

/-- A number is drawn, and the envelope is encoded for the transport. -/
def sendEnvelope (message : RelayMessage) (sentAtMs : UInt64) : Except ClientError (List UInt8) × RelaySession :=
  let («meta», session) := session.nextEnvelopeMeta sentAtMs
  ((RelayEnvelope.encode { «meta», message }).mapError .relayCodec, session)

def ensureSafePayload (message : RelayMessage) : Except ClientError Unit :=
  if session.config.safePayloadSize < message.payloadSize then
    .error (.relayPayloadTooLarge message.payloadSize session.config.safePayloadSize)
  else .ok ()

def sendGameplay (message : RelayMessage) (sentAtMs : UInt64) : Except ClientError (List UInt8) × RelaySession :=
  match session.ensureSafePayload message with
  | .error e => (.error e, session)
  | .ok () => session.sendEnvelope message sentAtMs

/-- One round of `send_discovery_with_retry`. -/
def sendDiscovery (message : RelayMessage) (sentAtMs : UInt64) : Except ClientError (List UInt8) × RelaySession :=
  match message with
  | .discoveryRequest .. =>
    match session.ensureSafePayload message with
    | .error e => (.error e, session)
    | .ok () => session.sendEnvelope message sentAtMs
  | _ => (.error (.invalidResponse "discovery retry requires a DiscoveryRequest"), session)

/-! ## Probing and reconnecting -/

/-- `probe_once` up to its wait for the answer. -/
def startProbe (requestId : DiscoveryRequestId) (sentAtMs : UInt64) : Except ClientError (List UInt8) × RelaySession :=
  let session := if session.snapshot.state = .disconnected then session.setState .connecting else session
  session.sendEnvelope (.relayProbe requestId) sentAtMs

/-- `run_with_reconnect` after a probe that was answered. -/
def settle : RelaySession :=
  if session.snapshot.state = .resynced ∨ session.snapshot.state = .roomJoined then session.setState .healthy
  else session

/-- The callback of `run_with_reconnect` fails, and the session goes on reconnecting. -/
def reconnectFailed : RelaySession :=
  { session with
    snapshot := { session.snapshot with
      state := .reconnecting
      reconnectAttempts := saturatingAddU32 session.snapshot.reconnectAttempts 1 } }

/-- The callback of `run_with_reconnect` returns an epoch. -/
def reconnected (connectionEpoch : UInt64) : RelaySession :=
  { session with
    snapshot := { state := .resynced, consecutiveProbeFailures := 0, reconnectAttempts := 0, connectionEpoch }
    nextSequence := 0 }

end RelaySession

/-! ## The client -/

/-- What the owner of the session is in: no call, `probe_once`, or a wait of `run_with_reconnect`. Each
call has the session to itself until it returns or is dropped. -/
inductive Activity
  | idle
  | probing (looping : Bool)
  | sleeping
  | resuming
deriving DecidableEq

structure RelayUser where
  session : RelaySession
  activity : Activity
deriving DecidableEq

/-- What happens to the client. A probe may be answered or fail at any time, whether or not the network
has lost it; calls other than `run_with_reconnect` and `probe_once` do not wait between their steps. -/
inductive ClientEvent
  | markAuthenticated (connectionEpoch : UInt64)
  | markRoomJoined
  | markDisconnected
  | recordProbeFailure
  | sendGameplay (message : RelayMessage) (sentAtMs : UInt64)
  | sendDiscovery (message : RelayMessage) (sentAtMs : UInt64)
  | probeOnce (requestId : DiscoveryRequestId) (sentAtMs : UInt64)
  | runWithReconnect (requestId : DiscoveryRequestId) (sentAtMs : UInt64)
  | probeAnswered
  | probeFailed
  | wake (requestId : DiscoveryRequestId) (sentAtMs : UInt64)
  | reconnectFailed
  | cancel

/-- What the client may be in when the event happens. -/
def ClientEvent.during : ClientEvent → List Activity
  | probeAnswered | probeFailed => [.probing false, .probing true]
  | wake .. => [.sleeping]
  | reconnectFailed => [.resuming]
  | cancel => [.probing false, .probing true, .sleeping, .resuming]
  | _ => [.idle]

namespace RelayUser

variable (user : RelayUser)

/-- The user starts a probe, which the transport gets if it can be encoded. -/
def probe (looping : Bool) (requestId : DiscoveryRequestId) (sentAtMs : UInt64) : Option (List UInt8) × RelayUser :=
  let (packet, session) := user.session.startProbe requestId sentAtMs
  (packet.toOption, { session, activity := .probing looping })

/-- `run_with_reconnect` takes up its loop again, after its callback has returned an epoch. -/
def reconnected (connectionEpoch : UInt64) (requestId : DiscoveryRequestId) (sentAtMs : UInt64) :
    Option (List UInt8) × RelayUser :=
  { user with session := user.session.reconnected connectionEpoch }.probe true requestId sentAtMs

def answered : RelayUser :=
  let session := user.session.recordProbeSuccess
  -- only the loop settles the session and then waits
  if user.activity = .probing true then { session := session.settle, activity := .sleeping }
  else { session, activity := .idle }

/-- `probe_once` reports the failure to its caller; the loop records it, and reconnects if it has to. -/
def failed : RelayUser :=
  if user.activity = .probing true then
    match user.session.recordProbeFailure with
    | (true, session) => { session := session.setState .reconnecting, activity := .resuming }
    | (false, session) => { session, activity := .sleeping }
  else { user with activity := .idle }

/-- The packet that goes to the transport, if any, and the user afterwards. -/
def apply : ClientEvent → Option (List UInt8) × RelayUser
  | .markAuthenticated connectionEpoch =>
    (none, { user with session := user.session.markAuthenticated connectionEpoch })
  | .markRoomJoined => (none, { user with session := user.session.markRoomJoined })
  | .markDisconnected => (none, { user with session := user.session.markDisconnected })
  | .recordProbeFailure => (none, { user with session := user.session.recordProbeFailure.2 })
  | .sendGameplay message sentAtMs =>
    let (packet, session) := user.session.sendGameplay message sentAtMs
    (packet.toOption, { user with session })
  | .sendDiscovery message sentAtMs =>
    let (packet, session) := user.session.sendDiscovery message sentAtMs
    (packet.toOption, { user with session })
  | .probeOnce requestId sentAtMs => user.probe false requestId sentAtMs
  | .runWithReconnect requestId sentAtMs | .wake requestId sentAtMs => user.probe true requestId sentAtMs
  | .probeAnswered => (none, user.answered)
  | .probeFailed => (none, user.failed)
  | .reconnectFailed => (none, { user with session := user.session.reconnectFailed })
  | .cancel => (none, { user with activity := .idle })

end RelayUser

/-! ## Numbers -/

/-- The message for which an event draws a number, if it does. -/
def ClientEvent.message? (session : RelaySession) : ClientEvent → Option RelayMessage
  | sendGameplay message _ => if message.payloadSize ≤ session.config.safePayloadSize then some message else none
  | sendDiscovery message _ =>
    match message with
    | .discoveryRequest .. => if message.payloadSize ≤ session.config.safePayloadSize then some message else none
    | _ => none
  | probeOnce requestId _ | runWithReconnect requestId _ | wake requestId _ => some (.relayProbe requestId)
  | _ => none

/-- An event draws no number and sends nothing, or it draws the next number for a message and sends the
message with it, unless the message cannot be encoded. -/
inductive Draws (n : UInt64) : Option RelayMessage → Option (List UInt8) → UInt64 → Prop
  | nothing : Draws n none none n
  | number {message «meta»} : «meta».sequence = max (saturatingAdd n 1) 1 →
      Draws n (some message) (RelayEnvelope.encode { «meta», message }).toOption «meta».sequence

/-- The next number is the number of those drawn so far. -/
theorem toNat_next {n : UInt64} {d : Nat} (hn : n.toNat = min d (2 ^ 64 - 1)) :
    (max (saturatingAdd n 1) 1).toNat = min (d + 1) (2 ^ 64 - 1) := by
  have hadd : (saturatingAdd n 1).toNat = min (d + 1) (2 ^ 64 - 1) := by
    rw [toNat_saturatingAdd, UInt64.toNat_one, hn]
    omega
  show (if saturatingAdd n 1 ≤ 1 then (1 : UInt64) else saturatingAdd n 1).toNat = _
  split
  · rename_i hle
    rw [UInt64.le_iff_toNat_le, UInt64.toNat_one] at hle
    rw [UInt64.toNat_one]
    omega
  · exact hadd

variable {session : RelaySession} {message : RelayMessage}

theorem toOption_mapError {α ε ε' : Type} (f : ε → ε') (x : Except ε α) : (x.mapError f).toOption = x.toOption := by
  cases x <;> rfl

theorem RelaySession.sendEnvelope_draws (session : RelaySession) (message : RelayMessage) (sentAtMs : UInt64) :
    Draws session.nextSequence (some message) (session.sendEnvelope message sentAtMs).1.toOption
      (session.sendEnvelope message sentAtMs).2.nextSequence := by
  unfold sendEnvelope
  rw [toOption_mapError]
  exact .number rfl

theorem RelaySession.startProbe_draws (session : RelaySession) (requestId : DiscoveryRequestId) (sentAtMs : UInt64) :
    Draws session.nextSequence (some (.relayProbe requestId)) (session.startProbe requestId sentAtMs).1.toOption
      (session.startProbe requestId sentAtMs).2.nextSequence := by
  unfold startProbe
  split
  · exact sendEnvelope_draws (session.setState .connecting) _ sentAtMs
  · exact sendEnvelope_draws session _ sentAtMs

theorem RelaySession.sendGameplay_draws (session : RelaySession) (message : RelayMessage) (sentAtMs : UInt64) :
    Draws session.nextSequence (if message.payloadSize ≤ session.config.safePayloadSize then some message else none)
      (session.sendGameplay message sentAtMs).1.toOption (session.sendGameplay message sentAtMs).2.nextSequence := by
  unfold sendGameplay ensureSafePayload
  by_cases h : session.config.safePayloadSize < message.payloadSize
  · rw [if_pos h, if_neg (Nat.not_le.2 h)]
    exact .nothing
  · rw [if_neg h, if_pos (Nat.not_lt.1 h)]
    exact session.sendEnvelope_draws message sentAtMs

theorem RelayUser.apply_draws (user : RelayUser) (e : ClientEvent) :
    Draws user.session.nextSequence (e.message? user.session) (user.apply e).1
      (user.apply e).2.session.nextSequence := by
  cases e with
  | sendGameplay message sentAtMs => exact user.session.sendGameplay_draws message sentAtMs
  | sendDiscovery message sentAtMs =>
    cases message with
    | discoveryRequest requestId port payload =>
      exact user.session.sendGameplay_draws (.discoveryRequest requestId port payload) sentAtMs
    | _ => exact .nothing
  | probeOnce requestId sentAtMs => exact user.session.startProbe_draws requestId sentAtMs
  | runWithReconnect requestId sentAtMs => exact user.session.startProbe_draws requestId sentAtMs
  | wake requestId sentAtMs => exact user.session.startProbe_draws requestId sentAtMs
  | recordProbeFailure =>
    show Draws _ none none user.session.recordProbeFailure.2.nextSequence
    unfold RelaySession.recordProbeFailure
    dsimp only
    split <;> exact .nothing
  | probeAnswered =>
    show Draws _ none none user.answered.session.nextSequence
    unfold answered RelaySession.settle
    dsimp only
    split
    · split <;> exact .nothing
    · exact .nothing
  | probeFailed =>
    show Draws _ none none user.failed.session.nextSequence
    unfold failed RelaySession.recordProbeFailure
    dsimp only
    split
    · split <;> rename_i h <;> split at h <;> cases h <;> exact .nothing
    · exact .nothing
  | _ => exact .nothing

/-- The numbers start over when the session has reconnected. -/
theorem RelayUser.reconnected_draws (user : RelayUser) (connectionEpoch : UInt64) (requestId : DiscoveryRequestId)
    (sentAtMs : UInt64) : Draws 0 (some (.relayProbe requestId)) (user.reconnected connectionEpoch requestId sentAtMs).1
      (user.reconnected connectionEpoch requestId sentAtMs).2.session.nextSequence :=
  (user.session.reconnected connectionEpoch).startProbe_draws requestId sentAtMs

end Civ6LanBridge

/-
`crates/protocol/src/relay.rs`: the binary envelope that the desktop adapters and the server relay
exchange, its encoder and its decoder. The decoder indexes byte slices, so its model can panic.
-/
import Civ6LanBridge.Lib.Bytes
import Civ6LanBridge.Protocol.Ids

namespace Civ6LanBridge

open Bytes

def legacyRelayProtocolVersion : UInt8 := 1
def relayProtocolVersion : UInt8 := 2
def relayHeaderSize : Nat := 8
def maxRelayDatagramSize : Nat := relayHeaderSize + maxCiv6DatagramSize + 64
def defaultSafeRelayPayloadSize : Nat := 1200

/-- `b"C6LB"`. -/
def magic : List UInt8 := [0x43, 0x36, 0x4c, 0x42]

namespace MessageKind

@[match_pattern] def discoveryRequest : UInt8 := 1
@[match_pattern] def discoveryToHost : UInt8 := 2
@[match_pattern] def discoveryResponse : UInt8 := 3
@[match_pattern] def discoveryToClient : UInt8 := 4
@[match_pattern] def gameplayPacket : UInt8 := 5
@[match_pattern] def gameplayToPeer : UInt8 := 6
@[match_pattern] def relayProbe : UInt8 := 7
@[match_pattern] def relayProbeAck : UInt8 := 8

end MessageKind

/-! ## Messages -/

inductive RelayMessage
  | discoveryRequest (requestId : DiscoveryRequestId) (destinationPort : Civ6UdpPort) (payload : List UInt8)
  | discoveryToHost (requestId : DiscoveryRequestId) (sourceVirtualIp : VirtualIp) (destinationPort : Civ6UdpPort)
      (payload : List UInt8)
  | discoveryResponse (requestId : DiscoveryRequestId) (hostSessionId : HostSessionId) (sourcePort : Civ6UdpPort)
      (payload : List UInt8)
  | discoveryToClient (requestId : DiscoveryRequestId) (hostVirtualIp : VirtualIp) (sourcePort : Civ6UdpPort)
      (payload : List UInt8)
  | gameplayPacket (sessionId : GameplaySessionId) (sourcePort : Civ6UdpPort) (payload : List UInt8)
  | gameplayToPeer (sessionId : GameplaySessionId) (sourceVirtualIp : VirtualIp) (destinationPort : Civ6UdpPort)
      (payload : List UInt8)
  | relayProbe (requestId : DiscoveryRequestId)
  | relayProbeAck (requestId : DiscoveryRequestId)
deriving DecidableEq

/-- The metadata of a v2 envelope; `RelayEnvelopeMeta::default()` has every field zero or absent. -/
structure RelayEnvelopeMeta where
  sequence : UInt64 := 0
  connectionEpoch : UInt64 := 0
  sentAtMs : UInt64 := 0
  pathId : Option UInt8 := none
deriving DecidableEq

structure RelayEnvelope where
  «meta» : RelayEnvelopeMeta
  message : RelayMessage
deriving DecidableEq

inductive RelayCodecError
  | invalidPacket (what : String)
  | unexpectedMessageKind (kind : UInt8)
deriving DecidableEq

/-! ## Writing -/

/-- `u32::from(Ipv4Addr)`: the octets as a big-endian number. -/
def Ipv4Addr.toU32 (ip : Ipv4Addr) : UInt32 := UInt32.ofNat (ofBe ip.octets)

def writeMeta (buffer : List UInt8) (m : RelayEnvelopeMeta) : List UInt8 :=
  let buffer := buffer ++ toBe 8 m.sequence.toNat
  let buffer := buffer ++ toBe 8 m.connectionEpoch.toNat
  let buffer := buffer ++ toBe 8 m.sentAtMs.toNat
  match m.pathId with
  | some pathId => buffer ++ [1] ++ [pathId]
  | none => buffer ++ [0, 0]

def writeId (buffer : List UInt8) (value : Uuid) : List UInt8 := buffer ++ value.bytes

def writeIp (buffer : List UInt8) (value : VirtualIp) : List UInt8 := buffer ++ toBe 4 value.address.toU32.toNat

def writePort (buffer : List UInt8) (value : Civ6UdpPort) : List UInt8 := buffer ++ toBe 2 value.port.toNat

def writePayload (buffer payload : List UInt8) : Except RelayCodecError (List UInt8) :=
  if maxCiv6DatagramSize < payload.length then
    .error (.invalidPacket "Civ VI payload exceeds the maximum datagram size")
  else .ok (buffer ++ payload)

/-- The `match message` of `encode_packet`: the body after `message` is written, and its kind. -/
def writeMessage (body : List UInt8) : RelayMessage → Except RelayCodecError (UInt8 × List UInt8)
  | .discoveryRequest requestId destinationPort payload => do
    let body := writeId body requestId.uuid
    let body := writePort body destinationPort
    return (MessageKind.discoveryRequest, ← writePayload body payload)
  | .discoveryToHost requestId sourceVirtualIp destinationPort payload => do
    let body := writeId body requestId.uuid
    let body := writeIp body sourceVirtualIp
    let body := writePort body destinationPort
    return (MessageKind.discoveryToHost, ← writePayload body payload)
  | .discoveryResponse requestId hostSessionId sourcePort payload => do
    let body := writeId body requestId.uuid
    let body := writeId body hostSessionId.uuid
    let body := writePort body sourcePort
    return (MessageKind.discoveryResponse, ← writePayload body payload)
  | .discoveryToClient requestId hostVirtualIp sourcePort payload => do
    let body := writeId body requestId.uuid
    let body := writeIp body hostVirtualIp
    let body := writePort body sourcePort
    return (MessageKind.discoveryToClient, ← writePayload body payload)
  | .gameplayPacket sessionId sourcePort payload => do
    let body := writeId body sessionId.uuid
    let body := writePort body sourcePort
    return (MessageKind.gameplayPacket, ← writePayload body payload)
  | .gameplayToPeer sessionId sourceVirtualIp destinationPort payload => do
    let body := writeId body sessionId.uuid
    let body := writeIp body sourceVirtualIp
    let body := writePort body destinationPort
    return (MessageKind.gameplayToPeer, ← writePayload body payload)
  | .relayProbe requestId => .ok (MessageKind.relayProbe, writeId body requestId.uuid)
  | .relayProbeAck requestId => .ok (MessageKind.relayProbeAck, writeId body requestId.uuid)

/-- `if let Some(meta) = meta` of `encode_packet`, on the empty body. -/
def writeOptionalMeta : Option RelayEnvelopeMeta → List UInt8
  | some m => writeMeta [] m
  | none => []

def encodePacket (message : RelayMessage) (meta? : Option RelayEnvelopeMeta) (version : UInt8) :
    Except RelayCodecError (List UInt8) := do
  let (kind, body) ← writeMessage (writeOptionalMeta meta?) message
  if 65535 < body.length then .error (.invalidPacket "relay envelope body is too large")
  else return magic ++ [version] ++ [kind] ++ toBe 2 (UInt16.ofNat body.length).toNat ++ body

def RelayEnvelope.encode (e : RelayEnvelope) : Except RelayCodecError (List UInt8) :=
  encodePacket e.message (some e.«meta») relayProtocolVersion

def RelayMessage.encode (m : RelayMessage) : Except RelayCodecError (List UInt8) :=
  encodePacket m none legacyRelayProtocolVersion

def RelayMessage.encodeWithMeta (m : RelayMessage) («meta» : RelayEnvelopeMeta) : Except RelayCodecError (List UInt8) :=
  encodePacket m (some «meta») relayProtocolVersion

/-! ## Reading -/

abbrev BodyReader := Reader RelayCodecError

def BodyReader.fail {α : Type} (what : String) : BodyReader α := throw (.error (.invalidPacket what))

def readExact (size : Nat) : BodyReader (List UInt8) := do
  let input ← get
  if input.length < size then BodyReader.fail "relay envelope body is truncated"
  else do
    -- `split_at(size)`
    let head ← StateT.lift (prefixTo input size)
    let tail ← StateT.lift (suffixFrom input size)
    set tail
    return head

/-- `u64::from_be_bytes(read_exact(input, 8)?.try_into()..)`. -/
def readU64 (what : String) : BodyReader UInt64 := do
  let bytes ← readExact 8
  if bytes.length = 8 then return UInt64.ofNat (ofBe bytes) else BodyReader.fail what

def readByte : BodyReader UInt8 := do
  let bytes ← readExact 1
  StateT.lift (index bytes 0)

def readMeta : BodyReader RelayEnvelopeMeta := do
  let sequence ← readU64 "relay sequence is truncated"
  let connectionEpoch ← readU64 "relay connection epoch is truncated"
  let sentAtMs ← readU64 "relay timestamp is truncated"
  let hasPath ← readByte
  let pathId ← readByte
  match hasPath with
  | 0 => return { sequence, connectionEpoch, sentAtMs, pathId := none }
  | 1 => return { sequence, connectionEpoch, sentAtMs, pathId := some pathId }
  | other => BodyReader.fail s!"invalid relay path marker {other}"

def readId : BodyReader Uuid := do
  let bytes ← readExact 16
  -- `copy_from_slice` panics when the lengths differ
  if h : bytes.length = 16 then return ⟨bytes, h⟩ else throw .panic

def readIp : BodyReader VirtualIp := do
  let bytes ← readExact 4
  let a ← StateT.lift (index bytes 0)
  let b ← StateT.lift (index bytes 1)
  let c ← StateT.lift (index bytes 2)
  let d ← StateT.lift (index bytes 3)
  return ⟨⟨a, b, c, d⟩⟩

def readPort : BodyReader Civ6UdpPort := do
  let bytes ← readExact 2
  let hi ← StateT.lift (index bytes 0)
  let lo ← StateT.lift (index bytes 1)
  return ⟨UInt16.ofNat (ofBe [hi, lo])⟩

def readPayload : BodyReader (List UInt8) := do
  let input ← get
  if maxCiv6DatagramSize < input.length then BodyReader.fail "Civ VI payload exceeds the maximum datagram size"
  else do
    set ([] : List UInt8)
    return input

/-- The `match kind` of `decode_packet`. -/
def readMessage (kind : UInt8) : BodyReader RelayMessage :=
  match kind with
  | MessageKind.discoveryRequest => do
    return .discoveryRequest ⟨← readId⟩ (← readPort) (← readPayload)
  | MessageKind.discoveryToHost => do
    return .discoveryToHost ⟨← readId⟩ (← readIp) (← readPort) (← readPayload)
  | MessageKind.discoveryResponse => do
    return .discoveryResponse ⟨← readId⟩ ⟨← readId⟩ (← readPort) (← readPayload)
  | MessageKind.discoveryToClient => do
    return .discoveryToClient ⟨← readId⟩ (← readIp) (← readPort) (← readPayload)
  | MessageKind.gameplayPacket => do
    return .gameplayPacket ⟨← readId⟩ (← readPort) (← readPayload)
  | MessageKind.gameplayToPeer => do
    return .gameplayToPeer ⟨← readId⟩ (← readIp) (← readPort) (← readPayload)
  | MessageKind.relayProbe => do
    return .relayProbe ⟨← readId⟩
  | MessageKind.relayProbeAck => do
    return .relayProbeAck ⟨← readId⟩
  | other => throw (.error (.unexpectedMessageKind other))

def invalidPacket {α : Type} (what : String) : Except (Fault RelayCodecError) α := .error (.error (.invalidPacket what))

/-- v1 packets carry no metadata. -/
def readVersionMeta (version : UInt8) : BodyReader RelayEnvelopeMeta :=
  if version = relayProtocolVersion then readMeta else return {}

/-- The end of `decode_packet`, from the body on. -/
def readBody (version kind : UInt8) : BodyReader RelayEnvelope := do
  let «meta» ← readVersionMeta version
  let message ← readMessage kind
  let body ← get
  if body ≠ [] then BodyReader.fail "relay envelope contains trailing bytes"
  else return { «meta», message }

def decodePacket (packet : List UInt8) : Except (Fault RelayCodecError) RelayEnvelope := do
  if maxRelayDatagramSize < packet.length then invalidPacket "relay envelope exceeds the maximum datagram size"
  else if packet.length < relayHeaderSize then invalidPacket "relay envelope header is truncated"
  else if (← prefixTo packet 4) ≠ magic then invalidPacket "invalid relay magic"
  else
    let version ← index packet 4
    if version ≠ legacyRelayProtocolVersion ∧ version ≠ relayProtocolVersion then
      invalidPacket s!"unsupported relay version {version}"
    else
      let declaredBodyLen := ofBe [← index packet 6, ← index packet 7]
      if declaredBodyLen ≠ packet.length - relayHeaderSize then
        invalidPacket "relay envelope length does not match its header"
      else
        let kind ← index packet 5
        let body ← suffixFrom packet relayHeaderSize
        let (envelope, _) ← (readBody version kind).run body
        return envelope

def RelayEnvelope.decode (packet : List UInt8) : Except (Fault RelayCodecError) RelayEnvelope := decodePacket packet

def RelayMessage.decode (packet : List UInt8) : Except (Fault RelayCodecError) RelayMessage := do
  return (← RelayEnvelope.decode packet).message

end Civ6LanBridge

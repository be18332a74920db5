/-
`crates/protocol/src/lib.rs`: the identifiers, the room codes, the virtual addresses and the Civ VI
ports that the router, the server and the clients agree on.
-/
import Civ6LanBridge.Lib.FinMap

namespace Civ6LanBridge

open Std

/-- A reading of the monotonic clock, in nanoseconds. -/
abbrev Instant := Nat
/-- A span of time, in nanoseconds. -/
abbrev Duration := Nat

def Duration.fromSecs (secs : Nat) : Duration := secs * 1000000000

/-! ## Identifiers -/

/-- A UUID: the sixteen bytes `as_bytes` gives and `from_bytes` takes. -/
structure Uuid where
  bytes : List UInt8
  size : bytes.length = 16
deriving DecidableEq

namespace Uuid

theorem ext_bytes {a b : Uuid} (h : a.bytes = b.bytes) : a = b := by
  cases a; cases b; cases h; rfl

instance : Ord Uuid := ⟨fun a b => compare a.bytes b.bytes⟩

instance : TransOrd Uuid := inferInstanceAs (TransCmp (compareOn Uuid.bytes))

instance : LawfulEqOrd Uuid where
  eq_of_compare h := ext_bytes (LawfulEqOrd.eq_of_compare (α := List UInt8) h)

/-- The UUID whose bytes are zero up to the last one. -/
def ofByte (b : UInt8) : Uuid := ⟨List.replicate 15 0 ++ [b], rfl⟩

end Uuid

/-- What a UUID identifies: one member for each use of the macro `uuid_id!`. -/
inductive IdKind
  | room
  | peer
  | hostSession
  | discoveryRequest
  | gameplaySession
deriving DecidableEq

/-- The newtype that `uuid_id!` declares for a kind of identifier. -/
structure Id (kind : IdKind) where
  uuid : Uuid
deriving DecidableEq

namespace Id

variable {kind : IdKind}

instance : Ord (Id kind) := ⟨fun a b => compare a.uuid b.uuid⟩

instance : TransOrd (Id kind) := inferInstanceAs (TransCmp (compareOn Id.uuid))

instance : LawfulEqOrd (Id kind) where
  eq_of_compare {a b} h := by
    have : a.uuid = b.uuid := LawfulEqOrd.eq_of_compare (α := Uuid) h
    cases a; cases b; cases this; rfl

def ofByte (b : UInt8) : Id kind := ⟨Uuid.ofByte b⟩

theorem ofByte_inj {a b : UInt8} (h : (ofByte a : Id kind) = ofByte b) : a = b := by
  have hlast : (ofByte a : Id kind).uuid.bytes.getLast? = (ofByte b : Id kind).uuid.bytes.getLast? := by rw [h]
  exact Option.some.inj hlast

end Id

abbrev RoomId := Id .room
abbrev PeerId := Id .peer
abbrev HostSessionId := Id .hostSession
abbrev DiscoveryRequestId := Id .discoveryRequest
abbrev GameplaySessionId := Id .gameplaySession

/-! ## Room codes -/

inductive RoomCodeError
  | invalidLength (min max : Nat)
  | invalidCharacter (c : Char)
deriving DecidableEq

namespace RoomCode

def minLen : Nat := 6
def maxLen : Nat := 12
def alphabet : List Char := ['A', 'B', 'C', 'D', 'E', 'F', 'G', 'H', 'J', 'K', 'L', 'M', 'N', 'P', 'Q', 'R',
  'S', 'T', 'U', 'V', 'W', 'X', 'Y', 'Z', '2', '3', '4', '5', '6', '7', '8', '9']

end RoomCode

/-- A room code: upper-case characters of the alphabet, six to twelve of them. -/
structure RoomCode where
  value : String
  len : RoomCode.minLen ≤ value.utf8ByteSize ∧ value.utf8ByteSize ≤ RoomCode.maxLen
  chars : ∀ c ∈ value.toList, c ∈ RoomCode.alphabet
deriving DecidableEq

namespace RoomCode

instance : Ord RoomCode := ⟨fun a b => compare a.value b.value⟩

instance : TransOrd RoomCode := inferInstanceAs (TransCmp (compareOn RoomCode.value))

instance : LawfulEqOrd RoomCode where
  eq_of_compare {a b} h := by
    have : a.value = b.value := LawfulEqOrd.eq_of_compare (α := String) h
    cases a; cases b; cases this; rfl

/-- `RoomCode::parse`: ASCII upper-casing, then the length in bytes, then the first character outside
the alphabet. -/
def parse (value : String) : Except RoomCodeError RoomCode :=
  let value := value.map Char.toUpper
  if hl : minLen ≤ value.utf8ByteSize ∧ value.utf8ByteSize ≤ maxLen then
    match hc : value.toList.find? (· ∉ alphabet) with
    | some c => .error (.invalidCharacter c)
    | none => .ok ⟨value, hl, by simpa [List.find?_eq_none] using hc⟩
  else .error (.invalidLength minLen maxLen)

/-- Every character of the alphabet is its own upper-case form, so parsing a code gives it back. -/
theorem parse_value (code : RoomCode) : parse code.value = .ok code := by
  have hup : ∀ c ∈ alphabet, c.toUpper = c := by simp [alphabet]
  have hmap : code.value.map Char.toUpper = code.value := by
    apply String.toList_inj.1
    rw [String.toList_map, List.map_congr_left (fun c hc => hup c (code.chars c hc)), List.map_id']
  have hfind : code.value.toList.find? (· ∉ alphabet) = none := by
    simpa [List.find?_eq_none] using code.chars
  unfold parse
  simp only [hmap, dif_pos code.len]
  split
  · rename_i c hc; rw [hmap, hfind] at hc; cases hc
  · rfl

end RoomCode

/-! ## Virtual addresses -/

/-- `std::net::Ipv4Addr`: four octets. -/
structure Ipv4Addr where
  a : UInt8
  b : UInt8
  c : UInt8
  d : UInt8
deriving DecidableEq

namespace Ipv4Addr

def octets (ip : Ipv4Addr) : List UInt8 := [ip.a, ip.b, ip.c, ip.d]

theorem octets_inj {x y : Ipv4Addr} (h : x.octets = y.octets) : x = y := by
  cases x; cases y; simp only [octets, List.cons.injEq, and_true] at h
  obtain ⟨rfl, rfl, rfl, rfl⟩ := h; rfl

def unspecified : Ipv4Addr := ⟨0, 0, 0, 0⟩

/-- `Display`: the octets in decimal. -/
def toString (ip : Ipv4Addr) : String := s!"{ip.a}.{ip.b}.{ip.c}.{ip.d}"

end Ipv4Addr

structure VirtualIp where
  address : Ipv4Addr
deriving DecidableEq

namespace VirtualIp

instance : Ord VirtualIp := ⟨fun x y => compare x.address.octets y.address.octets⟩

instance : TransOrd VirtualIp := inferInstanceAs (TransCmp (compareOn fun x : VirtualIp => x.address.octets))

instance : LawfulEqOrd VirtualIp where
  eq_of_compare {x y} h := by
    have := Ipv4Addr.octets_inj (LawfulEqOrd.eq_of_compare (α := List UInt8) h)
    cases x; cases y; cases this; rfl

end VirtualIp

/-! ## Ports -/

structure Civ6UdpPort where
  port : UInt16
deriving DecidableEq

def discoveryPortStart : UInt16 := 62900
def discoveryPortEnd : UInt16 := 62999
def gameplayPort : UInt16 := 62056
def maxCiv6DatagramSize : Nat := 4 * 1024

def isDiscoveryPort (port : UInt16) : Bool := discoveryPortStart ≤ port && port ≤ discoveryPortEnd

end Civ6LanBridge

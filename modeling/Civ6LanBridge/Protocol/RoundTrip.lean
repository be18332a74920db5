/-
The wire format of the relay envelope, both ways: what the encoder writes the decoder reads back
with the same metadata, at every size the encoder accepts; and what the decoder accepts is what the
encoder writes, up to the path id it skips when the path marker is zero.
-/
import Civ6LanBridge.Protocol.Envelope

namespace Civ6LanBridge

open Bytes Reader

/-! ## Fields -/

theorem readExact_short {n : Nat} {s : List UInt8} (h : s.length < n) :
    (readExact n).run s = .error (.error (.invalidPacket "relay envelope body is truncated")) := by
  unfold readExact BodyReader.fail
  simp only [StateT.run_bind, StateT.run_get, pure_bind, if_pos h]
  rfl

theorem readExact_append {n : Nat} {bs rest : List UInt8} (h : bs.length = n) :
    (readExact n).run (bs ++ rest) = .ok (bs, rest) := by
  subst h
  unfold readExact prefixTo suffixFrom
  simp [StateT.run_bind, StateT.run_lift]
  rfl

theorem length_eq_one {bs : List UInt8} (h : bs.length = 1) : bs = [bs.headD 0] := by
  obtain ⟨b, rfl⟩ := List.length_eq_one_iff.1 h; rfl

theorem readByte_exact : Exact (fun b => [b]) readByte := by
  refine Exact.fixed (n := 1) (d := fun bs => bs.headD 0) (fun _ => rfl) (fun _ => rfl)
    (fun bs h => (length_eq_one h).symm) (fun s h => ?_) (fun bs rest h => ?_)
  · exact ⟨_, by unfold readByte; rw [run_bind, readExact_short h]⟩
  · unfold readByte; rw [run_bind, readExact_append h]
    obtain ⟨b, rfl⟩ := List.length_eq_one_iff.1 h; rfl

theorem readU64_exact (what : String) : Exact (fun x : UInt64 => toBe 8 x.toNat) (readU64 what) := by
  refine Exact.fixed (n := 8) (d := fun bs => UInt64.ofNat (ofBe bs)) (fun _ => length_toBe _ _) (fun x => ?_)
    (fun bs h => ?_) (fun s h => ?_) (fun bs rest h => ?_)
  · have := x.toNat_lt
    rw [ofBe_toBe_of_lt (by omega), UInt64.ofNat_toNat]
  · have := ofBe_lt bs
    rw [h] at this
    rw [UInt64.toNat_ofNat_of_lt' (by omega), ← h, toBe_ofBe]
  · exact ⟨_, by unfold readU64; rw [run_bind, readExact_short h]⟩
  · unfold readU64; rw [run_bind, readExact_append h]
    simp only [if_pos h]; rfl

theorem readId_exact : Exact Uuid.bytes readId := by
  refine Exact.fixed (n := 16) (d := fun bs => if h : bs.length = 16 then ⟨bs, h⟩ else Uuid.ofByte 0)
    (fun u => u.size) (fun u => ?_) (fun bs h => ?_) (fun s h => ?_) (fun bs rest h => ?_)
  · rw [dif_pos u.size]
  · rw [dif_pos h]
  · exact ⟨_, by unfold readId; rw [run_bind, readExact_short h]⟩
  · unfold readId; rw [run_bind, readExact_append h]
    simp only [dif_pos h]; rfl

/-- `u32::from` and `to_be_bytes` give the octets of an address back. -/
theorem toBe_toU32 (ip : Ipv4Addr) : toBe 4 ip.toU32.toNat = ip.octets := by
  have := ofBe_lt ip.octets
  unfold Ipv4Addr.toU32
  rw [UInt32.toNat_ofNat_of_lt' (by simpa [Ipv4Addr.octets] using this)]
  exact toBe_ofBe ip.octets

theorem length_eq_four {bs : List UInt8} (h : bs.length = 4) : ∃ a b c d, bs = [a, b, c, d] := by
  match bs, h with
  | [a, b, c, d], _ => exact ⟨a, b, c, d, rfl⟩

theorem readIp_exact : Exact (fun ip : VirtualIp => toBe 4 ip.address.toU32.toNat) readIp := by
  simp only [toBe_toU32]
  refine Exact.fixed (n := 4) (d := fun bs => ⟨⟨bs[0]?.getD 0, bs[1]?.getD 0, bs[2]?.getD 0, bs[3]?.getD 0⟩⟩)
    (fun _ => rfl) (fun _ => rfl) (fun bs h => ?_) (fun s h => ?_) (fun bs rest h => ?_)
  · obtain ⟨a, b, c, d, rfl⟩ := length_eq_four h; rfl
  · exact ⟨_, by unfold readIp; rw [run_bind, readExact_short h]⟩
  · unfold readIp; rw [run_bind, readExact_append h]
    obtain ⟨a, b, c, d, rfl⟩ := length_eq_four h; rfl

theorem readPort_exact : Exact (fun p : Civ6UdpPort => toBe 2 p.port.toNat) readPort := by
  refine Exact.fixed (n := 2) (d := fun bs => ⟨UInt16.ofNat (ofBe [bs[0]?.getD 0, bs[1]?.getD 0])⟩)
    (fun _ => length_toBe _ _) (fun p => ?_) (fun bs h => ?_) (fun s h => ?_) (fun bs rest h => ?_)
  · have hlt := p.port.toNat_lt
    obtain ⟨x, y, hxy⟩ : ∃ x y, toBe 2 p.port.toNat = [x, y] := ⟨_, _, rfl⟩
    have := ofBe_toBe_of_lt (n := 2) (x := p.port.toNat) (by omega)
    rw [hxy] at this ⊢
    simp only [List.getElem?_cons_zero, List.getElem?_cons_succ, Option.getD_some, this]
    rw [UInt16.ofNat_toNat]
  · obtain ⟨x, y, rfl⟩ := List.length_eq_two.1 h
    have := ofBe_lt [x, y]
    simp only [List.getElem?_cons_zero, List.getElem?_cons_succ, Option.getD_some]
    rw [UInt16.toNat_ofNat_of_lt' (by simpa using this)]
    exact toBe_ofBe [x, y]
  · exact ⟨_, by unfold readPort; rw [run_bind, readExact_short h]⟩
  · unfold readPort; rw [run_bind, readExact_append h]
    obtain ⟨x, y, rfl⟩ := List.length_eq_two.1 h; rfl

theorem readPayload_run (s : List UInt8) : readPayload.run s =
    if maxCiv6DatagramSize < s.length then
      .error (.error (.invalidPacket "Civ VI payload exceeds the maximum datagram size"))
    else .ok (s, []) := by
  unfold readPayload BodyReader.fail
  simp only [StateT.run_bind, StateT.run_get, pure_bind]
  split <;> rfl

theorem readPayload_noPanic : NoPanic readPayload := by
  intro s h
  rw [readPayload_run] at h
  split at h <;> cases h

/-! ## Messages -/

namespace RelayMessage

/-- The kind byte of a message. -/
def kind : RelayMessage → UInt8
  | discoveryRequest .. => MessageKind.discoveryRequest
  | discoveryToHost .. => MessageKind.discoveryToHost
  | discoveryResponse .. => MessageKind.discoveryResponse
  | discoveryToClient .. => MessageKind.discoveryToClient
  | gameplayPacket .. => MessageKind.gameplayPacket
  | gameplayToPeer .. => MessageKind.gameplayToPeer
  | relayProbe .. => MessageKind.relayProbe
  | relayProbeAck .. => MessageKind.relayProbeAck

/-- The Civ VI payload a message carries, if its kind carries one. -/
def payload? : RelayMessage → Option (List UInt8)
  | discoveryRequest _ _ payload => some payload
  | discoveryToHost _ _ _ payload => some payload
  | discoveryResponse _ _ _ payload => some payload
  | discoveryToClient _ _ _ payload => some payload
  | gameplayPacket _ _ payload => some payload
  | gameplayToPeer _ _ _ payload => some payload
  | relayProbe _ => none
  | relayProbeAck _ => none

/-- The body fields before the payload. -/
def fields : RelayMessage → List UInt8
  | discoveryRequest requestId port _ => requestId.uuid.bytes ++ toBe 2 port.port.toNat
  | discoveryToHost requestId ip port _ =>
    requestId.uuid.bytes ++ (toBe 4 ip.address.toU32.toNat ++ toBe 2 port.port.toNat)
  | discoveryResponse requestId hostId port _ =>
    requestId.uuid.bytes ++ (hostId.uuid.bytes ++ toBe 2 port.port.toNat)
  | discoveryToClient requestId ip port _ =>
    requestId.uuid.bytes ++ (toBe 4 ip.address.toU32.toNat ++ toBe 2 port.port.toNat)
  | gameplayPacket sessionId port _ => sessionId.uuid.bytes ++ toBe 2 port.port.toNat
  | gameplayToPeer sessionId ip port _ =>
    sessionId.uuid.bytes ++ (toBe 4 ip.address.toU32.toNat ++ toBe 2 port.port.toNat)
  | relayProbe requestId => requestId.uuid.bytes
  | relayProbeAck requestId => requestId.uuid.bytes

/-- The payload, if the kind carries one, is within the Civ VI datagram limit. -/
def PayloadFits (m : RelayMessage) : Prop := ∀ payload ∈ m.payload?, payload.length ≤ maxCiv6DatagramSize

/-- The body of a message: its fields, then whatever payload it carries. -/
def body (m : RelayMessage) : List UInt8 := m.fields ++ m.payload?.getD []

theorem length_fields (m : RelayMessage) : m.fields.length ≤ 34 := by
  cases m <;> simp [fields, Uuid.size]

theorem length_body (m : RelayMessage) (h : m.PayloadFits) : m.body.length ≤ 34 + maxCiv6DatagramSize := by
  have hf := m.length_fields
  unfold body
  rw [List.length_append]
  cases hp : m.payload? with
  | none => simp; omega
  | some payload =>
    have := h payload (by rw [hp]; rfl)
    simp; omega

end RelayMessage

theorem writePayload_ok {buffer payload : List UInt8} (h : payload.length ≤ maxCiv6DatagramSize) :
    writePayload buffer payload = .ok (buffer ++ payload) := by
  unfold writePayload; rw [if_neg (by omega)]

theorem writePayload_error {buffer payload : List UInt8} (h : ¬ payload.length ≤ maxCiv6DatagramSize) :
    writePayload buffer payload = .error (.invalidPacket "Civ VI payload exceeds the maximum datagram size") := by
  unfold writePayload; rw [if_pos (by omega)]

/-- Writing a message whose payload fits appends its body. -/
theorem writeMessage_ok (buffer : List UInt8) {m : RelayMessage} (h : m.PayloadFits) :
    writeMessage buffer m = .ok (m.kind, buffer ++ m.body) := by
  cases m <;> simp only [RelayMessage.PayloadFits, RelayMessage.payload?, Option.mem_def, Option.some.injEq,
    forall_eq'] at h <;>
    simp [writeMessage, writePayload_ok, h, writeId, writeIp, writePort, RelayMessage.body, RelayMessage.fields,
      RelayMessage.payload?, RelayMessage.kind, bind, Except.bind, pure, Except.pure]

/-- Writing a message whose payload does not fit fails. -/
theorem writeMessage_error (buffer : List UInt8) {m : RelayMessage} (h : ¬ m.PayloadFits) :
    writeMessage buffer m = .error (.invalidPacket "Civ VI payload exceeds the maximum datagram size") := by
  cases m <;> simp only [RelayMessage.PayloadFits, RelayMessage.payload?, Option.mem_def, Option.some.injEq,
    forall_eq', reduceCtorEq, false_imp_iff, implies_true, not_true] at h <;>
    simp only [writeMessage, writePayload_error h] <;> rfl

/-! The three layouts of the fields before a payload. -/

def readIdPort : BodyReader (Uuid × Civ6UdpPort) := do return (← readId, ← readPort)

def readIdIpPort : BodyReader (Uuid × VirtualIp × Civ6UdpPort) := do
  return (← readId, ← (do return (← readIp, ← readPort)))

def readIdIdPort : BodyReader (Uuid × Uuid × Civ6UdpPort) := do
  return (← readId, ← (do return (← readId, ← readPort)))

theorem readIdPort_exact :
    Exact (fun f : Uuid × Civ6UdpPort => f.1.bytes ++ toBe 2 f.2.port.toNat) readIdPort :=
  readId_exact.seq readPort_exact

theorem readIdIpPort_exact : Exact (fun f : Uuid × VirtualIp × Civ6UdpPort =>
    f.1.bytes ++ (toBe 4 f.2.1.address.toU32.toNat ++ toBe 2 f.2.2.port.toNat)) readIdIpPort :=
  readId_exact.seq (readIp_exact.seq readPort_exact)

theorem readIdIdPort_exact : Exact (fun f : Uuid × Uuid × Civ6UdpPort =>
    f.1.bytes ++ (f.2.1.bytes ++ toBe 2 f.2.2.port.toNat)) readIdIdPort :=
  readId_exact.seq (readId_exact.seq readPort_exact)

section Tail

variable {α : Type} {w : α → List UInt8} {r : BodyReader α} {f : α → List UInt8 → RelayMessage}

/-- Fields and then the payload that is whatever remains. -/
theorem readTail_read (h : Exact w r) (a : α) {payload : List UInt8} (hp : payload.length ≤ maxCiv6DatagramSize) :
    (do return f (← r) (← readPayload)).run (w a ++ payload) = .ok (f a payload, []) := by
  rw [run_bind, h.read]
  simp only [run_bind, readPayload_run, if_neg (Nat.not_lt.2 hp)]
  rfl

theorem readTail_image (h : Exact w r) {s rest : List UInt8} {m : RelayMessage}
    (hr : (do return f (← r) (← readPayload)).run s = .ok (m, rest)) :
    ∃ a payload, m = f a payload ∧ payload.length ≤ maxCiv6DatagramSize ∧ s = w a ++ payload ∧ rest = [] := by
  obtain ⟨a, s', ha, hr⟩ := bind_ok hr
  obtain ⟨payload, s'', hp, hr⟩ := bind_ok hr
  obtain ⟨rfl, rfl⟩ := pure_ok hr
  rw [readPayload_run] at hp
  split at hp
  · cases hp
  · cases hp
    exact ⟨a, s', rfl, by omega, h.image ha, rfl⟩

end Tail

theorem readMessage_discoveryRequest : readMessage MessageKind.discoveryRequest =
    (do let a ← readIdPort; return .discoveryRequest ⟨a.1⟩ a.2 (← readPayload)) := by
  simp only [readIdPort, bind_assoc, pure_bind]; rfl

theorem readMessage_discoveryToHost : readMessage MessageKind.discoveryToHost =
    (do let a ← readIdIpPort; return .discoveryToHost ⟨a.1⟩ a.2.1 a.2.2 (← readPayload)) := by
  simp only [readIdIpPort, bind_assoc, pure_bind]; rfl

theorem readMessage_discoveryResponse : readMessage MessageKind.discoveryResponse =
    (do let a ← readIdIdPort; return .discoveryResponse ⟨a.1⟩ ⟨a.2.1⟩ a.2.2 (← readPayload)) := by
  simp only [readIdIdPort, bind_assoc, pure_bind]; rfl

theorem readMessage_discoveryToClient : readMessage MessageKind.discoveryToClient =
    (do let a ← readIdIpPort; return .discoveryToClient ⟨a.1⟩ a.2.1 a.2.2 (← readPayload)) := by
  simp only [readIdIpPort, bind_assoc, pure_bind]; rfl

theorem readMessage_gameplayPacket : readMessage MessageKind.gameplayPacket =
    (do let a ← readIdPort; return .gameplayPacket ⟨a.1⟩ a.2 (← readPayload)) := by
  simp only [readIdPort, bind_assoc, pure_bind]; rfl

theorem readMessage_gameplayToPeer : readMessage MessageKind.gameplayToPeer =
    (do let a ← readIdIpPort; return .gameplayToPeer ⟨a.1⟩ a.2.1 a.2.2 (← readPayload)) := by
  simp only [readIdIpPort, bind_assoc, pure_bind]; rfl

/-- Reading the body of a message gives the message and consumes the body. -/
theorem readMessage_body {m : RelayMessage} (h : m.PayloadFits) :
    (readMessage m.kind).run m.body = .ok (m, []) := by
  cases m with
  | discoveryRequest requestId port payload =>
    rw [RelayMessage.kind, readMessage_discoveryRequest]
    exact readTail_read (f := fun a p => .discoveryRequest ⟨a.1⟩ a.2 p) readIdPort_exact (requestId.uuid, port)
      (h payload rfl)
  | discoveryToHost requestId ip port payload =>
    rw [RelayMessage.kind, readMessage_discoveryToHost]
    exact readTail_read (f := fun a p => .discoveryToHost ⟨a.1⟩ a.2.1 a.2.2 p) readIdIpPort_exact
      (requestId.uuid, ip, port) (h payload rfl)
  | discoveryResponse requestId hostId port payload =>
    rw [RelayMessage.kind, readMessage_discoveryResponse]
    exact readTail_read (f := fun a p => .discoveryResponse ⟨a.1⟩ ⟨a.2.1⟩ a.2.2 p) readIdIdPort_exact
      (requestId.uuid, hostId.uuid, port) (h payload rfl)
  | discoveryToClient requestId ip port payload =>
    rw [RelayMessage.kind, readMessage_discoveryToClient]
    exact readTail_read (f := fun a p => .discoveryToClient ⟨a.1⟩ a.2.1 a.2.2 p) readIdIpPort_exact
      (requestId.uuid, ip, port) (h payload rfl)
  | gameplayPacket sessionId port payload =>
    rw [RelayMessage.kind, readMessage_gameplayPacket]
    exact readTail_read (f := fun a p => .gameplayPacket ⟨a.1⟩ a.2 p) readIdPort_exact (sessionId.uuid, port)
      (h payload rfl)
  | gameplayToPeer sessionId ip port payload =>
    rw [RelayMessage.kind, readMessage_gameplayToPeer]
    exact readTail_read (f := fun a p => .gameplayToPeer ⟨a.1⟩ a.2.1 a.2.2 p) readIdIpPort_exact
      (sessionId.uuid, ip, port) (h payload rfl)
  | relayProbe requestId =>
    show (do return .relayProbe ⟨← readId⟩ : BodyReader RelayMessage).run _ = _
    rw [run_bind, RelayMessage.body, RelayMessage.fields, RelayMessage.payload?]
    simp only [Option.getD_none, readId_exact.read]; rfl
  | relayProbeAck requestId =>
    show (do return .relayProbeAck ⟨← readId⟩ : BodyReader RelayMessage).run _ = _
    rw [run_bind, RelayMessage.body, RelayMessage.fields, RelayMessage.payload?]
    simp only [Option.getD_none, readId_exact.read]; rfl

/-- A message that was read has the kind it was read as, a payload that fits, and as its body what was
consumed; after a payload nothing remains. -/
theorem readMessage_image {k : UInt8} {s rest : List UInt8} {m : RelayMessage}
    (h : (readMessage k).run s = .ok (m, rest)) : m.kind = k ∧ m.PayloadFits ∧ s = m.body ++ rest := by
  have tail : ∀ {α : Type} {w : α → List UInt8} {r : BodyReader α} {f : α → List UInt8 → RelayMessage},
      Exact w r → (∀ a p, (f a p).fields = w a ∧ (f a p).payload? = some p) →
      (do let a ← r; return f a (← readPayload)).run s = .ok (m, rest) →
      m.PayloadFits ∧ s = m.body ++ rest ∧ ∃ a p, m = f a p := by
    intro α w r f hx hf hr
    obtain ⟨a, payload, rfl, hp, rfl, rfl⟩ := readTail_image hx hr
    obtain ⟨h1, h2⟩ := hf a payload
    refine ⟨fun p hp' => ?_, by simp [RelayMessage.body, h1, h2], a, payload, rfl⟩
    rw [h2, Option.mem_def, Option.some.injEq] at hp'
    rw [← hp']; exact hp
  unfold readMessage at h
  split at h
  · change (readMessage MessageKind.discoveryRequest).run s = _ at h
    rw [readMessage_discoveryRequest] at h
    obtain ⟨h1, h2, a, p, rfl⟩ := tail (f := fun a p => .discoveryRequest ⟨a.1⟩ a.2 p) readIdPort_exact
      (fun _ _ => ⟨rfl, rfl⟩) h
    exact ⟨rfl, h1, h2⟩
  · change (readMessage MessageKind.discoveryToHost).run s = _ at h
    rw [readMessage_discoveryToHost] at h
    obtain ⟨h1, h2, a, p, rfl⟩ := tail (f := fun a p => .discoveryToHost ⟨a.1⟩ a.2.1 a.2.2 p) readIdIpPort_exact
      (fun _ _ => ⟨rfl, rfl⟩) h
    exact ⟨rfl, h1, h2⟩
  · change (readMessage MessageKind.discoveryResponse).run s = _ at h
    rw [readMessage_discoveryResponse] at h
    obtain ⟨h1, h2, a, p, rfl⟩ := tail (f := fun a p => .discoveryResponse ⟨a.1⟩ ⟨a.2.1⟩ a.2.2 p) readIdIdPort_exact
      (fun _ _ => ⟨rfl, rfl⟩) h
    exact ⟨rfl, h1, h2⟩
  · change (readMessage MessageKind.discoveryToClient).run s = _ at h
    rw [readMessage_discoveryToClient] at h
    obtain ⟨h1, h2, a, p, rfl⟩ := tail (f := fun a p => .discoveryToClient ⟨a.1⟩ a.2.1 a.2.2 p) readIdIpPort_exact
      (fun _ _ => ⟨rfl, rfl⟩) h
    exact ⟨rfl, h1, h2⟩
  · change (readMessage MessageKind.gameplayPacket).run s = _ at h
    rw [readMessage_gameplayPacket] at h
    obtain ⟨h1, h2, a, p, rfl⟩ := tail (f := fun a p => .gameplayPacket ⟨a.1⟩ a.2 p) readIdPort_exact
      (fun _ _ => ⟨rfl, rfl⟩) h
    exact ⟨rfl, h1, h2⟩
  · change (readMessage MessageKind.gameplayToPeer).run s = _ at h
    rw [readMessage_gameplayToPeer] at h
    obtain ⟨h1, h2, a, p, rfl⟩ := tail (f := fun a p => .gameplayToPeer ⟨a.1⟩ a.2.1 a.2.2 p) readIdIpPort_exact
      (fun _ _ => ⟨rfl, rfl⟩) h
    exact ⟨rfl, h1, h2⟩
  · obtain ⟨u, s', hu, h⟩ := bind_ok h
    obtain ⟨rfl, rfl⟩ := pure_ok h
    refine ⟨rfl, fun p hp => ?_, ?_⟩
    · simp [RelayMessage.payload?] at hp
    · rw [readId_exact.image hu]
      simp [RelayMessage.body, RelayMessage.fields, RelayMessage.payload?]
  · obtain ⟨u, s', hu, h⟩ := bind_ok h
    obtain ⟨rfl, rfl⟩ := pure_ok h
    refine ⟨rfl, fun p hp => ?_, ?_⟩
    · simp [RelayMessage.payload?] at hp
    · rw [readId_exact.image hu]
      simp [RelayMessage.body, RelayMessage.fields, RelayMessage.payload?]
  · cases h

theorem readMessage_noPanic (k : UInt8) : NoPanic (readMessage k) := by
  have idThen : ∀ {α : Type} {f : Uuid → BodyReader α}, (∀ u, NoPanic (f u)) → NoPanic (readId >>= f) :=
    fun hf => readId_exact.noPanic.bind hf
  have portPayload : ∀ {α : Type} {f : Civ6UdpPort → List UInt8 → α},
      NoPanic (do return f (← readPort) (← readPayload)) :=
    readPort_exact.noPanic.bind fun _ => readPayload_noPanic.bind fun _ => .pure _
  unfold readMessage
  split
  · exact idThen fun _ => portPayload
  · exact idThen fun _ => readIp_exact.noPanic.bind fun _ => portPayload
  · exact idThen fun _ => idThen fun _ => portPayload
  · exact idThen fun _ => readIp_exact.noPanic.bind fun _ => portPayload
  · exact idThen fun _ => portPayload
  · exact idThen fun _ => readIp_exact.noPanic.bind fun _ => portPayload
  · exact idThen fun _ => .pure _
  · exact idThen fun _ => .pure _
  · intro s h; cases h

end Civ6LanBridge

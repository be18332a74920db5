/-
Whole packets: the encoder frames the metadata and the body of a message, the decoder accepts
exactly the frames of both versions, up to the path id it skips when the path marker is zero.
-/
import Civ6LanBridge.Protocol.RoundTrip

namespace Civ6LanBridge

open Bytes Reader

/-! ## Metadata -/

/-- The three numbers of the metadata. -/
def RelayEnvelopeMeta.fields (m : RelayEnvelopeMeta) : List UInt8 :=
  toBe 8 m.sequence.toNat ++ (toBe 8 m.connectionEpoch.toNat ++ toBe 8 m.sentAtMs.toNat)

/-- The path marker and the path id; without a path the id byte is free. -/
def pathBytes (pathId : Option UInt8) (ignored : UInt8) : List UInt8 :=
  match pathId with
  | some pathId => [1, pathId]
  | none => [0, ignored]

@[simp] theorem length_pathBytes (pathId : Option UInt8) (ignored : UInt8) : (pathBytes pathId ignored).length = 2 := by
  cases pathId <;> rfl

theorem writeMeta_eq (buffer : List UInt8) (m : RelayEnvelopeMeta) :
    writeMeta buffer m = buffer ++ (m.fields ++ pathBytes m.pathId 0) := by
  obtain ⟨_, _, _, path⟩ := m
  cases path <;> simp [writeMeta, RelayEnvelopeMeta.fields, pathBytes]

@[simp] theorem length_meta_fields (m : RelayEnvelopeMeta) : m.fields.length = 24 := by
  simp [RelayEnvelopeMeta.fields]

/-- The three numbers, then the two path bytes. -/
def readMetaFields : BodyReader ((UInt64 × UInt64 × UInt64) × UInt8 × UInt8) := do
  return (← (do return (← readU64 "relay sequence is truncated",
      ← (do return (← readU64 "relay connection epoch is truncated", ← readU64 "relay timestamp is truncated")))),
    ← (do return (← readByte, ← readByte)))

theorem readMetaFields_exact : Exact (fun f : (UInt64 × UInt64 × UInt64) × UInt8 × UInt8 =>
    (toBe 8 f.1.1.toNat ++ (toBe 8 f.1.2.1.toNat ++ toBe 8 f.1.2.2.toNat)) ++ ([f.2.1] ++ [f.2.2])) readMetaFields :=
  ((readU64_exact _).seq ((readU64_exact _).seq (readU64_exact _))).seq (readByte_exact.seq readByte_exact)

/-- How `read_meta` reads the path marker. -/
def metaOf (f : (UInt64 × UInt64 × UInt64) × UInt8 × UInt8) : BodyReader RelayEnvelopeMeta :=
  match f.2.1 with
  | 0 => return { sequence := f.1.1, connectionEpoch := f.1.2.1, sentAtMs := f.1.2.2, pathId := none }
  | 1 => return { sequence := f.1.1, connectionEpoch := f.1.2.1, sentAtMs := f.1.2.2, pathId := some f.2.2 }
  | other => BodyReader.fail s!"invalid relay path marker {other}"

theorem readMeta_eq : readMeta = readMetaFields >>= metaOf := by
  simp only [readMetaFields, bind_assoc, pure_bind]; rfl

theorem readMeta_read (m : RelayEnvelopeMeta) (ignored : UInt8) (rest : List UInt8) :
    readMeta.run (m.fields ++ pathBytes m.pathId ignored ++ rest) = .ok (m, rest) := by
  obtain ⟨sequence, epoch, sent, path⟩ := m
  rw [readMeta_eq, run_bind]
  cases path with
  | none =>
    have := readMetaFields_exact.read ((sequence, epoch, sent), 0, ignored) rest
    simp only [RelayEnvelopeMeta.fields, pathBytes]
    rw [show [(0 : UInt8), ignored] = [0] ++ [ignored] from rfl, this]
    rfl
  | some pathId =>
    have := readMetaFields_exact.read ((sequence, epoch, sent), 1, pathId) rest
    simp only [RelayEnvelopeMeta.fields, pathBytes]
    rw [show [(1 : UInt8), pathId] = [1] ++ [pathId] from rfl, this]
    rfl

theorem readMeta_image {s rest : List UInt8} {m : RelayEnvelopeMeta} (h : readMeta.run s = .ok (m, rest)) :
    ∃ ignored, s = m.fields ++ pathBytes m.pathId ignored ++ rest := by
  rw [readMeta_eq] at h
  obtain ⟨⟨⟨sequence, epoch, sent⟩, marker, pathId⟩, s', hf, h⟩ := bind_ok h
  rw [readMetaFields_exact.image hf]
  unfold metaOf at h
  refine ⟨pathId, ?_⟩
  split at h
  · rename_i h0
    obtain ⟨rfl, rfl⟩ := pure_ok h
    dsimp only at h0
    subst h0; rfl
  · rename_i h1
    obtain ⟨rfl, rfl⟩ := pure_ok h
    dsimp only at h1
    subst h1; rfl
  · cases h

theorem readMeta_noPanic : NoPanic readMeta := by
  rw [readMeta_eq]
  refine readMetaFields_exact.noPanic.bind fun f => ?_
  unfold metaOf
  split
  · exact .pure _
  · exact .pure _
  · intro s h; cases h

/-! ## Framing -/

/-- A packet of a version and a kind around a body. -/
def frame (version kind : UInt8) (body : List UInt8) : List UInt8 :=
  magic ++ [version] ++ [kind] ++ toBe 2 (UInt16.ofNat body.length).toNat ++ body

@[simp] theorem length_frame (version kind : UInt8) (body : List UInt8) :
    (frame version kind body).length = relayHeaderSize + body.length := by
  simp [frame, magic, relayHeaderSize]; omega

@[simp] theorem writeOptionalMeta_some (m : RelayEnvelopeMeta) :
    writeOptionalMeta (some m) = m.fields ++ pathBytes m.pathId 0 := by
  simp [writeOptionalMeta, writeMeta_eq]

@[simp] theorem writeOptionalMeta_none : writeOptionalMeta none = [] := rfl

theorem length_writeOptionalMeta (meta? : Option RelayEnvelopeMeta) : (writeOptionalMeta meta?).length ≤ 26 := by
  cases meta? <;> simp

theorem length_body_le (meta? : Option RelayEnvelopeMeta) {m : RelayMessage} (h : m.PayloadFits) :
    (writeOptionalMeta meta? ++ m.body).length + relayHeaderSize ≤ maxRelayDatagramSize := by
  have h1 := length_writeOptionalMeta meta?
  have h2 := m.length_body h
  rw [List.length_append]
  unfold maxRelayDatagramSize
  omega

theorem maxRelayDatagramSize_le : maxRelayDatagramSize ≤ 65535 := by decide

theorem encodePacket_ok (meta? : Option RelayEnvelopeMeta) (version : UInt8) {m : RelayMessage} (h : m.PayloadFits) :
    encodePacket m meta? version = .ok (frame version m.kind (writeOptionalMeta meta? ++ m.body)) := by
  have hlen := length_body_le meta? h
  have hmax := maxRelayDatagramSize_le
  unfold encodePacket
  rw [writeMessage_ok _ h]
  simp only [bind, Except.bind]
  rw [if_neg (by omega)]
  rfl

theorem encodePacket_error (meta? : Option RelayEnvelopeMeta) (version : UInt8) {m : RelayMessage}
    (h : ¬ m.PayloadFits) :
    encodePacket m meta? version = .error (.invalidPacket "Civ VI payload exceeds the maximum datagram size") := by
  unfold encodePacket
  rw [writeMessage_error _ h]
  rfl

/-- The encoder succeeds exactly when the payload fits, and then its packet is a frame. -/
theorem encodePacket_eq_ok {meta? : Option RelayEnvelopeMeta} {version : UInt8} {m : RelayMessage} {b : List UInt8} :
    encodePacket m meta? version = .ok b ↔
      m.PayloadFits ∧ b = frame version m.kind (writeOptionalMeta meta? ++ m.body) := by
  by_cases h : m.PayloadFits
  · rw [encodePacket_ok _ _ h]
    constructor
    · intro hb; cases hb; exact ⟨h, rfl⟩
    · rintro ⟨-, rfl⟩; rfl
  · rw [encodePacket_error _ _ h]
    constructor
    · intro hb; cases hb
    · rintro ⟨hm, -⟩; exact absurd hm h

/-! ## Bodies -/

theorem readVersionMeta_noPanic (version : UInt8) : NoPanic (readVersionMeta version) := by
  unfold readVersionMeta
  split
  · exact readMeta_noPanic
  · exact .pure _

theorem readBody_noPanic (version kind : UInt8) : NoPanic (readBody version kind) := by
  refine (readVersionMeta_noPanic version).bind fun m => (readMessage_noPanic kind).bind fun message => ?_
  intro s h
  rw [run_bind, StateT.run_get] at h
  simp only [pure, Except.pure] at h
  split at h <;> cases h

/-- What a body that was read looks like. -/
theorem readBody_image {version kind : UInt8} {s rest : List UInt8} {e : RelayEnvelope}
    (h : (readBody version kind).run s = .ok (e, rest)) :
    e.message.kind = kind ∧ e.message.PayloadFits ∧
      ((version = relayProtocolVersion ∧
          ∃ ignored, s = e.meta.fields ++ pathBytes e.meta.pathId ignored ++ e.message.body) ∨
        (version ≠ relayProtocolVersion ∧ e.meta = {} ∧ s = e.message.body)) := by
  unfold readBody at h
  obtain ⟨m, s₁, hm, h⟩ := bind_ok h
  obtain ⟨message, s₂, hmsg, h⟩ := bind_ok h
  obtain ⟨body, s₃, hb, h⟩ := bind_ok h
  rw [StateT.run_get] at hb
  cases hb
  split at h
  · cases h
  rename_i hnil
  obtain ⟨rfl, rfl⟩ := pure_ok h
  obtain ⟨hk, hp, rfl⟩ := readMessage_image hmsg
  rw [not_not.1 hnil, List.append_nil] at hm
  refine ⟨hk, hp, ?_⟩
  unfold readVersionMeta at hm
  split at hm
  · rename_i hv
    obtain ⟨ignored, rfl⟩ := readMeta_image hm
    exact Or.inl ⟨hv, ignored, rfl⟩
  · rename_i hv
    obtain ⟨rfl, rfl⟩ := pure_ok hm
    exact Or.inr ⟨hv, rfl, rfl⟩

theorem readBody_v2 (m : RelayEnvelopeMeta) (ignored : UInt8) {message : RelayMessage} (h : message.PayloadFits) :
    (readBody relayProtocolVersion message.kind).run (m.fields ++ pathBytes m.pathId ignored ++ message.body) =
      .ok (⟨m, message⟩, []) := by
  unfold readBody readVersionMeta
  rw [run_bind, if_pos rfl, readMeta_read]
  simp only [run_bind, readMessage_body h]
  rfl

theorem readBody_v1 {message : RelayMessage} (h : message.PayloadFits) :
    (readBody legacyRelayProtocolVersion message.kind).run message.body = .ok (⟨{}, message⟩, []) := by
  unfold readBody readVersionMeta
  rw [if_neg (by decide), pure_bind, run_bind, readMessage_body h]
  rfl

/-! ## Decoding a packet -/

/-- Decoding past the header, byte by byte. -/
theorem decodePacket_header (b₀ b₁ b₂ b₃ version kind hi lo : UInt8) (body : List UInt8) :
    decodePacket (b₀ :: b₁ :: b₂ :: b₃ :: version :: kind :: hi :: lo :: body) =
      if maxRelayDatagramSize < relayHeaderSize + body.length then
        invalidPacket "relay envelope exceeds the maximum datagram size"
      else if [b₀, b₁, b₂, b₃] ≠ magic then invalidPacket "invalid relay magic"
      else if version ≠ legacyRelayProtocolVersion ∧ version ≠ relayProtocolVersion then
        invalidPacket s!"unsupported relay version {version}"
      else if ofBe [hi, lo] ≠ body.length then invalidPacket "relay envelope length does not match its header"
      else ((readBody version kind).run body).map Prod.fst := by
  have hlen : (b₀ :: b₁ :: b₂ :: b₃ :: version :: kind :: hi :: lo :: body).length = relayHeaderSize + body.length := by
    simp [relayHeaderSize]; omega
  unfold decodePacket
  rw [hlen, if_neg (by omega : ¬ relayHeaderSize + body.length < relayHeaderSize)]
  rw [Nat.add_sub_cancel_left]
  simp only [prefixTo, suffixFrom, index, hlen, List.getElem?_cons_succ, List.getElem?_cons_zero]
  rw [if_pos (by unfold relayHeaderSize; omega : 4 ≤ relayHeaderSize + body.length),
    if_pos (Nat.le_add_right relayHeaderSize body.length)]
  have hmap : ∀ x : Except (Fault RelayCodecError) (RelayEnvelope × List UInt8),
      (x >>= fun y => pure y.1) = x.map Prod.fst := by
    rintro (_ | _) <;> rfl
  simp only [hmap]
  rfl

theorem decodePacket_short {b : List UInt8} (h : b.length < relayHeaderSize) :
    ∃ e, decodePacket b = .error (.error e) := by
  unfold decodePacket
  have : relayHeaderSize ≤ maxRelayDatagramSize := by decide
  rw [if_neg (by omega), if_pos h]
  exact ⟨_, rfl⟩

/-- A byte string is too short for a header or starts with one. -/
theorem header_cases (b : List UInt8) : b.length < relayHeaderSize ∨
    ∃ b₀ b₁ b₂ b₃ version kind hi lo body, b = b₀ :: b₁ :: b₂ :: b₃ :: version :: kind :: hi :: lo :: body := by
  rcases b with _ | ⟨b₀, _ | ⟨b₁, _ | ⟨b₂, _ | ⟨b₃, _ | ⟨version, _ | ⟨kind, _ | ⟨hi, _ | ⟨lo, body⟩⟩⟩⟩⟩⟩⟩⟩
  all_goals first
    | exact Or.inr ⟨_, _, _, _, _, _, _, _, _, rfl⟩
    | exact Or.inl (by simp [relayHeaderSize])

theorem decodePacket_noPanic (b : List UInt8) : decodePacket b ≠ .error .panic := by
  intro h
  obtain hs | ⟨b₀, b₁, b₂, b₃, version, kind, hi, lo, body, rfl⟩ := header_cases b
  · obtain ⟨e, he⟩ := decodePacket_short hs
    rw [he] at h; cases h
  · rw [decodePacket_header] at h
    split at h; · cases h
    split at h; · cases h
    split at h; · cases h
    split at h; · cases h
    cases hr : (readBody version kind).run body with
    | ok r => rw [hr] at h; cases h
    | error e =>
      rw [hr] at h
      cases h
      exact readBody_noPanic version kind body hr

/-- Every packet the decoder accepts is a frame of one of the two versions whose body is read whole. -/
theorem decodePacket_frame_of_ok {b : List UInt8} {e : RelayEnvelope} (h : decodePacket b = .ok e) :
    b.length ≤ maxRelayDatagramSize ∧ ∃ version kind body rest,
      (version = legacyRelayProtocolVersion ∨ version = relayProtocolVersion) ∧ b = frame version kind body ∧
      (readBody version kind).run body = .ok (e, rest) := by
  obtain hs | ⟨b₀, b₁, b₂, b₃, version, kind, hi, lo, body, rfl⟩ := header_cases b
  · obtain ⟨e, he⟩ := decodePacket_short hs
    rw [he] at h; cases h
  rw [decodePacket_header] at h
  split at h
  · cases h
  rename_i hmax
  split at h
  · cases h
  rename_i hmagic
  split at h
  · cases h
  rename_i hver
  split at h
  · cases h
  rename_i hlen
  rw [not_not] at hmagic hlen
  cases hr : (readBody version kind).run body with
  | error e => rw [hr] at h; cases h
  | ok r =>
    obtain ⟨e', rest⟩ := r
    rw [hr] at h
    cases h
    refine ⟨by simp [relayHeaderSize] at hmax ⊢; omega, version, kind, body, rest, ?_, ?_, hr⟩
    · by_cases h1 : version = legacyRelayProtocolVersion
      · exact Or.inl h1
      · exact Or.inr (not_not.1 fun h2 => hver ⟨h1, h2⟩)
    -- two bytes are determined by the number they spell
    · have hbe : toBe 2 (UInt16.ofNat body.length).toNat = [hi, lo] := by
        have := ofBe_lt [hi, lo]
        rw [hlen] at this
        rw [UInt16.toNat_ofNat_of_lt' (by simpa using this), ← hlen]
        exact toBe_ofBe [hi, lo]
      rw [frame, hbe, ← hmagic]
      rfl

/-- The decoder reads the body of a frame of either version that is not too large. -/
theorem decodePacket_frame {version kind : UInt8} {body : List UInt8}
    (hv : version = legacyRelayProtocolVersion ∨ version = relayProtocolVersion)
    (hmax : body.length + relayHeaderSize ≤ maxRelayDatagramSize) :
    decodePacket (frame version kind body) = ((readBody version kind).run body).map Prod.fst := by
  have h65 := maxRelayDatagramSize_le
  obtain ⟨hi, lo, hhl⟩ : ∃ hi lo, toBe 2 (UInt16.ofNat body.length).toNat = [hi, lo] := ⟨_, _, rfl⟩
  have hlen : ofBe [hi, lo] = body.length := by
    rw [← hhl, UInt16.toNat_ofNat_of_lt' (show body.length < 65536 by omega)]
    exact ofBe_toBe_of_lt (by omega)
  have hframe : frame version kind body = 0x43 :: 0x36 :: 0x4c :: 0x42 :: version :: kind :: hi :: lo :: body := by
    rw [frame, hhl]; rfl
  rw [hframe, decodePacket_header, if_neg (by omega), if_neg (by decide), if_neg (by tauto),
    if_neg (not_not.2 hlen)]

/-- What the decoder accepts: the v1 frame of a message, or a v2 frame with any byte in place of an
absent path id. -/
theorem decodePacket_ok_iff {b : List UInt8} {e : RelayEnvelope} :
    decodePacket b = .ok e ↔ e.message.PayloadFits ∧
      ((e.meta = {} ∧ b = frame legacyRelayProtocolVersion e.message.kind e.message.body) ∨
        ∃ ignored, b = frame relayProtocolVersion e.message.kind
          (e.meta.fields ++ pathBytes e.meta.pathId ignored ++ e.message.body)) := by
  constructor
  · intro h
    obtain ⟨-, version, kind, body, rest, hv, rfl, hr⟩ := decodePacket_frame_of_ok h
    obtain ⟨rfl, hp, ⟨rfl, ignored, rfl⟩ | ⟨hne, hm, rfl⟩⟩ := readBody_image hr
    · exact ⟨hp, Or.inr ⟨ignored, rfl⟩⟩
    · obtain rfl : version = legacyRelayProtocolVersion := hv.resolve_right hne
      exact ⟨hp, Or.inl ⟨hm, rfl⟩⟩
  · obtain ⟨m, message⟩ := e
    rintro ⟨hp, ⟨rfl, rfl⟩ | ⟨ignored, rfl⟩⟩
    · have hlen := length_body_le none hp
      rw [decodePacket_frame (Or.inl rfl) (by simpa using hlen), readBody_v1 hp]
      rfl
    · have hlen := length_body_le (some m) hp
      rw [decodePacket_frame (Or.inr rfl) (by simpa using hlen), readBody_v2 m ignored hp]
      rfl

/-- A v2 envelope whose payload fits encodes to a packet within the datagram limit, and the packet decodes to
the envelope. -/
theorem encode_fits {e : RelayEnvelope} (h : e.message.PayloadFits) :
    ∃ b, e.encode = .ok b ∧ b = frame relayProtocolVersion e.message.kind
      (e.meta.fields ++ pathBytes e.meta.pathId 0 ++ e.message.body) ∧
      b.length ≤ maxRelayDatagramSize ∧ RelayEnvelope.decode b = .ok e := by
  have hlen := length_body_le (some e.meta) h
  rw [writeOptionalMeta_some] at hlen
  have hdec := (decodePacket_ok_iff (e := e)).2 ⟨h, Or.inr ⟨0, rfl⟩⟩
  refine ⟨_, ?_, rfl, by rw [length_frame]; omega, hdec⟩
  rw [RelayEnvelope.encode, encodePacket_ok _ _ h, writeOptionalMeta_some]

/-- Encoding succeeds, in either version, exactly when the payload fits, the packet is within the
datagram limit, and decoding it gives the message with its metadata, or the default ones in v1. -/
theorem envelope_round_trip (message : RelayMessage) (m : RelayEnvelopeMeta) :
    ((∃ b, RelayEnvelope.encode ⟨m, message⟩ = .ok b) ↔ message.PayloadFits) ∧
      ((∃ b, message.encodeWithMeta m = .ok b) ↔ message.PayloadFits) ∧
      ((∃ b, message.encode = .ok b) ↔ message.PayloadFits) ∧
      (∀ b, RelayEnvelope.encode ⟨m, message⟩ = .ok b ∨ message.encodeWithMeta m = .ok b →
        b.length ≤ maxRelayDatagramSize ∧ RelayEnvelope.decode b = .ok ⟨m, message⟩ ∧
          RelayMessage.decode b = .ok message) ∧
      ∀ b, message.encode = .ok b →
        b.length ≤ maxRelayDatagramSize ∧ RelayEnvelope.decode b = .ok ⟨{}, message⟩ ∧
          RelayMessage.decode b = .ok message := by
  have ok_iff : ∀ meta? version, (∃ b, encodePacket message meta? version = .ok b) ↔ message.PayloadFits := by
    intro meta? version
    simp only [encodePacket_eq_ok, exists_and_left, exists_eq, and_true]
  have decoded : ∀ {b e}, decodePacket b = .ok e → RelayMessage.decode b = .ok e.message := by
    intro b e h
    unfold RelayMessage.decode RelayEnvelope.decode
    rw [h]; rfl
  have v2 : ∀ b, encodePacket message (some m) relayProtocolVersion = .ok b →
      b.length ≤ maxRelayDatagramSize ∧ RelayEnvelope.decode b = .ok ⟨m, message⟩ ∧
        RelayMessage.decode b = .ok message := by
    intro b h
    obtain ⟨b', hb', -, hlen, hd⟩ := encode_fits (e := ⟨m, message⟩) (encodePacket_eq_ok.1 h).1
    obtain rfl : b' = b := Except.ok.inj (hb'.symm.trans h)
    exact ⟨hlen, hd, decoded hd⟩
  refine ⟨ok_iff _ _, ok_iff _ _, ok_iff _ _, fun b h => v2 b (h.elim id id), fun b h => ?_⟩
  obtain ⟨hp, rfl⟩ := encodePacket_eq_ok.1 h
  have hlen := length_body_le none hp
  have hd := (decodePacket_ok_iff (e := ⟨{}, message⟩)).2 ⟨hp, Or.inl ⟨rfl, rfl⟩⟩
  rw [writeOptionalMeta_none] at hlen ⊢
  exact ⟨by rw [length_frame]; omega, hd, decoded hd⟩

/-! ## The bytes of an accepted packet -/

/-- The shape of a packet: a full header with the magic, a known version, the length of what
follows it and a known kind, within the datagram limit, and in v2 a path marker that is zero or one. -/
structure WellFormed (b : List UInt8) : Prop where
  header : relayHeaderSize ≤ b.length
  size : b.length ≤ maxRelayDatagramSize
  magic : b.take 4 = magic
  version : b[4]? = some legacyRelayProtocolVersion ∨ b[4]? = some relayProtocolVersion
  kind : ∃ k, b[5]? = some k ∧ 1 ≤ k ∧ k ≤ 8
  length : ∃ hi lo, b[6]? = some hi ∧ b[7]? = some lo ∧ ofBe [hi, lo] = b.length - relayHeaderSize
  marker : b[4]? = some relayProtocolVersion → b[32]? = some 0 ∨ b[32]? = some 1

theorem frame_eq_cons (version kind : UInt8) (body : List UInt8) : ∃ hi lo,
    toBe 2 (UInt16.ofNat body.length).toNat = [hi, lo] ∧
      frame version kind body = 0x43 :: 0x36 :: 0x4c :: 0x42 :: version :: kind :: hi :: lo :: body :=
  ⟨_, _, rfl, rfl⟩

theorem kind_bounds (m : RelayMessage) : 1 ≤ m.kind ∧ m.kind ≤ 8 := by
  cases m <;> simp only [RelayMessage.kind] <;> decide

/-- The path marker of a v2 frame is its byte 32. -/
theorem getElem?_frame_marker (m : RelayEnvelopeMeta) (kind ignored : UInt8) (body : List UInt8) :
    (frame relayProtocolVersion kind (m.fields ++ pathBytes m.pathId ignored ++ body))[32]? =
      some (if m.pathId = none then 0 else 1) := by
  have h : ∀ body', (frame relayProtocolVersion kind body')[32]? = body'[24]? := fun _ => rfl
  rw [h, List.append_assoc, List.getElem?_append_right (by simp), length_meta_fields]
  cases m.pathId <;> rfl

theorem wellFormed_of_ok {b : List UInt8} {e : RelayEnvelope} (h : decodePacket b = .ok e) : WellFormed b := by
  have hframe := decodePacket_frame_of_ok h
  obtain ⟨hmax, version, kind, body, rest, hv, rfl, hr⟩ := hframe
  obtain ⟨hk, hp, hb⟩ := readBody_image hr
  have hlen : relayHeaderSize + body.length ≤ maxRelayDatagramSize := by rwa [length_frame] at hmax
  have h65 := maxRelayDatagramSize_le
  refine ⟨by simp, hmax, rfl, ?_, ⟨kind, rfl, hk ▸ kind_bounds e.message⟩, ?_, ?_⟩
  · exact hv.imp (congrArg some) (congrArg some)
  · obtain ⟨hi, lo, hhl, hcons⟩ := frame_eq_cons version kind body
    refine ⟨hi, lo, by rw [hcons]; rfl, by rw [hcons]; rfl, ?_⟩
    rw [← hhl, UInt16.toNat_ofNat_of_lt' (show body.length < 65536 by omega), length_frame,
      ofBe_toBe_of_lt (show body.length < 65536 by omega)]
    omega
  · intro h2
    obtain rfl : version = relayProtocolVersion := Option.some.inj h2
    obtain ⟨-, ignored, rfl⟩ | ⟨hne, -, -⟩ := hb
    · rw [getElem?_frame_marker]
      split
      · exact Or.inl rfl
      · exact Or.inr rfl
    · exact absurd rfl hne

/-- Two lists that agree around one element differ there only. -/
theorem getElem?_append_cons_ne {α : Type} {l r : List α} {x y : α} {i : Nat}
    (h : (l ++ x :: r)[i]? ≠ (l ++ y :: r)[i]?) : i = l.length := by
  rcases Nat.lt_trichotomy i l.length with hlt | heq | hgt
  · rw [List.getElem?_append_left hlt, List.getElem?_append_left hlt] at h
    exact absurd rfl h
  · exact heq
  · rw [List.getElem?_append_right (by omega), List.getElem?_append_right (by omega)] at h
    obtain ⟨k, hk⟩ : ∃ k, i - l.length = k + 1 := ⟨i - l.length - 1, by omega⟩
    rw [hk] at h
    exact absurd rfl h

/-- Two v2 frames of one envelope differ in byte 33 only, and only without a path. -/
theorem frame_ignored {m : RelayEnvelopeMeta} {kind x y : UInt8} {body : List UInt8} {i : Nat}
    (h : (frame relayProtocolVersion kind (m.fields ++ pathBytes m.pathId x ++ body))[i]? ≠
      (frame relayProtocolVersion kind (m.fields ++ pathBytes m.pathId y ++ body))[i]?) :
    i = 33 ∧ m.pathId = none := by
  cases hpath : m.pathId with
  | some pathId => rw [hpath] at h; exact absurd rfl h
  | none =>
    refine ⟨?_, rfl⟩
    rw [hpath] at h
    -- both frames with the skipped byte singled out
    have split : ∀ z, frame relayProtocolVersion kind (m.fields ++ pathBytes none z ++ body) =
        (magic ++ [relayProtocolVersion] ++ [kind] ++ toBe 2 (UInt16.ofNat (m.fields.length + 2 + body.length)).toNat ++
          m.fields ++ [0]) ++ z :: body := by
      intro z
      have hl : (m.fields ++ pathBytes none z ++ body).length = m.fields.length + 2 + body.length := by
        simp; omega
      rw [frame, hl]
      simp [pathBytes]
    rw [split, split] at h
    have := getElem?_append_cons_ne h
    simpa [magic] using this

/-- The decoder never panics and accepts only what the encoder writes: a v1 encoding, or a v2
encoding except for the byte it skips. An accepted packet is well formed, none is a proper prefix
of another, and two v2 packets of one envelope differ in the skipped byte only. -/
theorem decode_only_encodings (b : List UInt8) :
    decodePacket b ≠ .error .panic ∧
      ∀ e, decodePacket b = .ok e →
        ((b[4]? = some 1 ∧ e.meta = {} ∧ e.message.encode = .ok b) ∨
          (b[4]? = some 2 ∧ ∃ p, e.encode = .ok p ∧ p.length = b.length ∧
            ∀ i, b[i]? ≠ p[i]? → i = 33 ∧ b[32]? = some 0)) ∧
        WellFormed b ∧
        (∀ t, t ≠ [] → ∀ e', decodePacket (b ++ t) ≠ .ok e') ∧
        (∀ n, n < b.length → ∀ e', decodePacket (b.take n) ≠ .ok e') ∧
        ∀ b', decodePacket b' = .ok e → b[4]? = some 2 → b'[4]? = some 2 →
          ∀ i, b[i]? ≠ b'[i]? → i = 33 ∧ b[32]? = some 0 ∧ b'[32]? = some 0 := by
  refine ⟨decodePacket_noPanic b, fun e h => ?_⟩
  have hwf := wellFormed_of_ok h
  -- the length in the header says where the packet ends
  have header_fixes : ∀ {x t}, WellFormed x → WellFormed (x ++ t) → t = [] := by
    intro x t hx hxt
    obtain ⟨hi, lo, h6, h7, hl⟩ := hx.length
    obtain ⟨hi', lo', h6', h7', hl'⟩ := hxt.length
    have h8 : 8 ≤ x.length := hx.header
    rw [List.getElem?_append_left (by omega), h6] at h6'
    rw [List.getElem?_append_left (by omega), h7] at h7'
    cases h6'; cases h7'
    rw [hl, List.length_append] at hl'
    exact List.length_eq_zero_iff.1 (by unfold relayHeaderSize at hl'; omega)
  refine ⟨?_, hwf, fun t ht e' h' => ht (header_fixes hwf (wellFormed_of_ok h')), fun n hn e' h' => ?_, ?_⟩
  · obtain ⟨hp, ⟨hm, hb⟩ | ⟨ignored, hb⟩⟩ := decodePacket_ok_iff.1 h
    · refine Or.inl ⟨by rw [hb]; rfl, hm, ?_⟩
      rw [hb]
      exact encodePacket_ok none _ hp
    · refine Or.inr ⟨by rw [hb]; rfl, _, encodePacket_ok (some e.meta) _ hp, ?_, fun i hi => ?_⟩
      · rw [hb, writeOptionalMeta_some]; simp
      · rw [hb, writeOptionalMeta_some] at hi
        obtain ⟨rfl, hpath⟩ := frame_ignored hi
        rw [hb, getElem?_frame_marker, if_pos hpath]
        exact ⟨rfl, rfl⟩
  · have hdrop := header_fixes (t := b.drop n) (wellFormed_of_ok h') (by rwa [List.take_append_drop])
    rw [List.drop_eq_nil_iff] at hdrop
    omega
  · intro b' h' h2 h2' i hi
    obtain ⟨-, ⟨-, hb⟩ | ⟨x, hb⟩⟩ := decodePacket_ok_iff.1 h
    · rw [hb] at h2; cases h2
    obtain ⟨-, ⟨-, hb'⟩ | ⟨y, hb'⟩⟩ := decodePacket_ok_iff.1 h'
    · rw [hb'] at h2'; cases h2'
    rw [hb, hb'] at hi
    obtain ⟨rfl, hpath⟩ := frame_ignored hi
    rw [hb, hb', getElem?_frame_marker, getElem?_frame_marker, if_pos hpath]
    exact ⟨rfl, rfl, rfl⟩

end Civ6LanBridge

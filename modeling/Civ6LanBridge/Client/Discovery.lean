/-
`crates/client-core/src/lib.rs`: `send_discovery_with_retry`. A discovery is the one kind of traffic that a
client sends again. How late each round begins and whether the transport takes its packet are arguments; the sleep
between two rounds is in the loop.
-/
import Civ6LanBridge.Client.Health

namespace Civ6LanBridge

/-- How long a `RelaySessionConfig` repeats a discovery, and how often. -/
structure DiscoveryRetries where
  discoveryRetryInterval : Duration := .fromMillis 250
  discoveryRetryWindow : Duration := .fromSecs 5

/-- A round of the loop: how much later it begins than the call, or than an interval after the round before it, the
time in its envelope, and whether the transport takes the packet. The time that sending takes is part of the delay. -/
structure Attempt where
  late : Duration
  sentAtMs : UInt64
  accepts : Bool

inductive SendError
  | client (e : ClientError)
  | io
deriving DecidableEq

/-- A packet that is sent, and the reading of the clock at the head of its round. -/
structure Sending where
  now : Instant
  packet : List UInt8

/-- What the call has returned, if it has, and what it has sent. -/
structure Retried where
  result : Option (Except SendError UInt32)
  sent : List Sending
  session : RelaySession

/-- The loop up to the deadline, from a time before which its next round does not begin; `attempts` may be all that
have been made so far. -/
def retryLoop (interval : Duration) (deadline : Instant) (message : RelayMessage) (clock : Instant) (sends : UInt32)
    (lastError : Option SendError) (session : RelaySession) : List Attempt → Retried
  | [] => { result := none, sent := [], session }
  | attempt :: attempts =>
    let now := clock + attempt.late
    if now < deadline then
      match session.ensureSafePayload message with
      | .error e => { result := some (.error (.client e)), sent := [], session }
      | .ok () =>
        let (packet, session) := session.sendEnvelope message attempt.sentAtMs
        -- `tokio::time::sleep`, whether the packet was sent or not
        let woken := now + interval
        match packet with
        | .error e => retryLoop interval deadline message woken sends (some (.client e)) session attempts
        | .ok packet =>
          if attempt.accepts then
            let rest := retryLoop interval deadline message woken (sends + 1) none session attempts
            { rest with sent := { now, packet } :: rest.sent }
          else retryLoop interval deadline message woken sends (some .io) session attempts
    else
      match lastError with
      | some e => { result := some (.error e), sent := [], session }
      | none => { result := some (.ok sends), sent := [], session }

def sendDiscoveryWithRetry (retries : DiscoveryRetries) (started : Instant) (session : RelaySession)
    (message : RelayMessage) (attempts : List Attempt) : Retried :=
  match message with
  | .discoveryRequest .. =>
    retryLoop retries.discoveryRetryInterval (started + retries.discoveryRetryWindow) message started 0 none
      session attempts
  | _ =>
    { result := some (.error (.client (.invalidResponse "discovery retry requires a DiscoveryRequest"))),
      sent := [], session }

/-! ## What the loop does -/

/-- The rounds that begin before the deadline. -/
def made (interval : Duration) (deadline clock : Instant) : List Attempt → List Attempt
  | [] => []
  | attempt :: attempts =>
    if clock + attempt.late < deadline then attempt :: made interval deadline (clock + attempt.late + interval) attempts
    else []

/-- How an attempt fails, if it does. -/
def Attempt.error? (message : RelayMessage) (attempt : Attempt) : Option SendError :=
  if maxCiv6DatagramSize < message.payloadSize then
    some (.client (.relayCodec (.invalidPacket "Civ VI payload exceeds the maximum datagram size")))
  else if attempt.accepts then none
  else some .io

/-- How the last attempt has failed, if it has. -/
def lastError (message : RelayMessage) (attempts : List Attempt) (before : Option SendError) : Option SendError :=
  match attempts.getLast? with
  | some attempt => attempt.error? message
  | none => before

/-- The packets carry the message under the epoch of the session, with numbers above the last one drawn and up to
another, and the later a packet the larger its number. -/
structure Numbered (session : RelaySession) (message : RelayMessage) (last : Nat) (packets : List (List UInt8)) :
    Prop where
  carries : ∀ packet ∈ packets, ∃ envelope, receiveEnvelope packet = .ok envelope ∧ envelope.message = message ∧
    envelope.meta.connectionEpoch = session.snapshot.connectionEpoch ∧
    session.nextSequence.toNat < envelope.meta.sequence.toNat ∧ envelope.meta.sequence.toNat ≤ last
  ordered : packets.Pairwise fun a b => ∀ x y, receiveEnvelope a = .ok x → receiveEnvelope b = .ok y →
    x.meta.sequence.toNat < y.meta.sequence.toNat

/-- The packets are sent from a time on, before the deadline, and at most one in an interval. -/
structure Paced (interval : Duration) (deadline clock : Instant) (sent : List Sending) : Prop where
  within : ∀ s ∈ sent, clock ≤ s.now ∧ s.now < deadline
  apart : sent.Pairwise fun a b => a.now + interval ≤ b.now

/-- What has been sent, and what is returned. -/
structure Repeats (session : RelaySession) (message : RelayMessage) (sends : UInt32) (before : Option SendError)
    (attempts rounds : List Attempt) (r : Retried) : Prop where
  numbered : Numbered session message (session.nextSequence.toNat + rounds.length) (r.sent.map (·.packet))
  sent : r.sent.length = rounds.countP fun a => (a.error? message).isNone
  session : ∃ n : UInt64, n.toNat = session.nextSequence.toNat + rounds.length ∧
    r.session = { session with nextSequence := n }
  result : r.result =
    if rounds.length = attempts.length then none
    else some ((lastError message rounds before).elim (.ok (sends + .ofNat r.sent.length)) .error)

section

variable {session : RelaySession} {message : RelayMessage} {deadline : Instant} {sends : UInt32}
  {before : Option SendError} {attempt : Attempt} {attempts : List Attempt}

/-- An attempt draws the next number, and its envelope has it. -/
theorem RelaySession.sendEnvelope_spec (session : RelaySession) (message : RelayMessage) (sentAtMs : UInt64)
    (hroom : session.nextSequence.toNat + 1 < 2 ^ 64) :
    ∃ n : UInt64, n.toNat = session.nextSequence.toNat + 1 ∧
      (session.sendEnvelope message sentAtMs).2 = { session with nextSequence := n } ∧
      (message.payloadSize ≤ maxCiv6DatagramSize → ∃ packet envelope,
        (session.sendEnvelope message sentAtMs).1 = .ok packet ∧
        receiveEnvelope packet = .ok envelope ∧ envelope.message = message ∧
        envelope.meta.connectionEpoch = session.snapshot.connectionEpoch ∧ envelope.meta.sequence = n) ∧
      (maxCiv6DatagramSize < message.payloadSize → (session.sendEnvelope message sentAtMs).1 =
        .error (.relayCodec (.invalidPacket "Civ VI payload exceeds the maximum datagram size"))) := by
  refine ⟨max (saturatingAdd session.nextSequence 1) 1, ?_, rfl, fun hfits => ?_, fun hlarge => ?_⟩
  · rw [toNat_next (d := session.nextSequence.toNat) (by omega)]
    omega
  · obtain ⟨packet, henc, -⟩ := encode_fits (e := { «meta» := (session.nextEnvelopeMeta sentAtMs).1, message })
      ((payloadFits_iff message).2 hfits)
    refine ⟨packet, _, ?_, receiveEnvelope_encode henc, rfl, rfl, rfl⟩
    unfold sendEnvelope
    dsimp only
    rw [henc]
    rfl
  · have hno : ¬ message.PayloadFits := fun hfits => absurd ((payloadFits_iff message).1 hfits) (Nat.not_le.2 hlarge)
    unfold sendEnvelope RelayEnvelope.encode
    dsimp only
    rw [encodePacket_error _ _ hno]
    rfl

theorem lastError_cons (message : RelayMessage) (attempt : Attempt) (attempts : List Attempt)
    (before : Option SendError) :
    lastError message (attempt :: attempts) before = lastError message attempts (attempt.error? message) := by
  unfold lastError
  cases attempts with
  | nil => rfl
  | cons a attempts =>
    rw [List.getLast?_cons_cons]
    cases h : (a :: attempts).getLast? with
    | none => simp at h
    | some b => rfl

/-- Nothing is sent in the round, and the rest is done with the next number. -/
theorem Repeats.skip {rounds : List Attempt} {n : UInt64} {r : Retried} {e : SendError}
    (hn : n.toNat = session.nextSequence.toNat + 1) (he : attempt.error? message = some e)
    (hr : Repeats { session with nextSequence := n } message sends (some e) attempts rounds r) :
    Repeats session message sends before (attempt :: attempts) (attempt :: rounds) r := by
  obtain ⟨⟨hcarries, hordered⟩, hsent, ⟨n', hn', hsession⟩, hresult⟩ := hr
  refine ⟨⟨fun packet hp => ?_, hordered⟩, ?_, ⟨n', ?_, hsession⟩, ?_⟩
  · obtain ⟨envelope, henv, hmsg, hepoch, hlo, hhi⟩ := hcarries packet hp
    rw [hn] at hlo hhi
    rw [List.length_cons]
    exact ⟨envelope, henv, hmsg, hepoch, by omega, by omega⟩
  · rw [hsent, List.countP_cons_of_neg (by rw [he]; nofun)]
  · rw [hn', hn, List.length_cons]
    omega
  · rw [hresult, lastError_cons, he, List.length_cons, List.length_cons]
    simp only [Nat.add_right_cancel_iff]

/-- The packet of the round is sent before the rest, with the next number. -/
theorem Repeats.send {rounds : List Attempt} {n : UInt64} {r : Retried} {packet : List UInt8} {now : Instant}
    {envelope : RelayEnvelope} (hn : n.toNat = session.nextSequence.toNat + 1) (he : attempt.error? message = none)
    (henv : receiveEnvelope packet = .ok envelope) (hmsg : envelope.message = message)
    (hepoch : envelope.meta.connectionEpoch = session.snapshot.connectionEpoch) (hseq : envelope.meta.sequence = n)
    (hr : Repeats { session with nextSequence := n } message (sends + 1) none attempts rounds r) :
    Repeats session message sends before (attempt :: attempts) (attempt :: rounds)
      { r with sent := { now, packet } :: r.sent } := by
  obtain ⟨⟨hcarries, hordered⟩, hsent, ⟨n', hn', hsession⟩, hresult⟩ := hr
  refine ⟨⟨fun p hp => ?_, ?_⟩, ?_, ⟨n', ?_, hsession⟩, ?_⟩
  · rw [List.length_cons]
    rcases List.mem_cons.1 hp with rfl | hp
    · refine ⟨envelope, henv, hmsg, hepoch, ?_, ?_⟩ <;> rw [hseq] <;> omega
    · obtain ⟨envelope', henv', hmsg', hepoch', hlo, hhi⟩ := hcarries p hp
      rw [hn] at hlo hhi
      exact ⟨envelope', henv', hmsg', hepoch', by omega, by omega⟩
  · refine List.pairwise_cons.2 ⟨fun p hp x y hx hy => ?_, hordered⟩
    obtain ⟨envelope', henv', -, -, hlo, -⟩ := hcarries p hp
    rw [henv] at hx
    rw [henv'] at hy
    cases hx
    cases hy
    rw [hseq]
    exact hlo
  · rw [List.length_cons, hsent, List.countP_cons_of_pos (by rw [he]; rfl)]
  · rw [hn', hn, List.length_cons]
    omega
  · rw [hresult, lastError_cons, he, List.length_cons, List.length_cons, List.length_cons]
    simp only [Nat.add_right_cancel_iff]
    rw [show sends + 1 + UInt32.ofNat r.sent.length = sends + UInt32.ofNat (r.sent.length + 1) by
      rw [UInt32.ofNat_add, add_assoc, add_comm (1 : UInt32)]; rfl]

variable {interval : Duration} {clock : Instant}

theorem made_cons (h : clock + attempt.late < deadline) : made interval deadline clock (attempt :: attempts) =
    attempt :: made interval deadline (clock + attempt.late + interval) attempts := if_pos h

theorem made_late (h : ¬ clock + attempt.late < deadline) : made interval deadline clock (attempt :: attempts) = [] :=
  if_neg h

theorem retryLoop_repeats (hsafe : message.payloadSize ≤ session.config.safePayloadSize)
    (hroom : session.nextSequence.toNat + (made interval deadline clock attempts).length < 2 ^ 64) :
    Repeats session message sends before attempts (made interval deadline clock attempts)
      (retryLoop interval deadline message clock sends before session attempts) := by
  induction attempts generalizing session sends before clock with
  | nil => exact ⟨⟨nofun, .nil⟩, rfl, ⟨_, rfl, rfl⟩, rfl⟩
  | cons attempt attempts ih =>
    by_cases hnow : clock + attempt.late < deadline
    · rw [made_cons hnow, List.length_cons] at hroom
      have hcheck : session.ensureSafePayload message = .ok () := if_neg (Nat.not_lt.2 hsafe)
      obtain ⟨n, hn, hsession, hfits, hlarge⟩ := session.sendEnvelope_spec message attempt.sentAtMs (by omega)
      have ih {sends before} :=
        @ih { session with nextSequence := n } sends before (clock + attempt.late + interval) hsafe
        (by rw [hn]; omega)
      rw [made_cons hnow]
      unfold retryLoop
      dsimp only
      rw [if_pos hnow, hcheck]
      dsimp only
      rw [hsession]
      by_cases hsize : message.payloadSize ≤ maxCiv6DatagramSize
      · obtain ⟨packet, envelope, hpacket, henv, hmsg, hepoch, hseq⟩ := hfits hsize
        rw [hpacket]
        dsimp only
        cases hacc : attempt.accepts with
        | true =>
          have he : attempt.error? message = none := by
            unfold Attempt.error?
            rw [if_neg (Nat.not_lt.2 hsize), if_pos hacc]
          exact ih.send hn he henv hmsg hepoch hseq
        | false =>
          have he : attempt.error? message = some .io := by
            unfold Attempt.error?
            rw [if_neg (Nat.not_lt.2 hsize), hacc]
            rfl
          exact ih.skip hn he
      · rw [hlarge (Nat.not_le.1 hsize)]
        exact ih.skip hn (if_pos (Nat.not_le.1 hsize))
    · rw [made_late hnow]
      unfold retryLoop
      dsimp only
      rw [if_neg hnow]
      cases before with
      | none =>
        refine ⟨⟨nofun, .nil⟩, rfl, ⟨_, rfl, rfl⟩, ?_⟩
        simp [lastError]
      | some e =>
        refine ⟨⟨nofun, .nil⟩, rfl, ⟨_, rfl, rfl⟩, ?_⟩
        simp [lastError]

/-! ## When the packets are sent -/

/-- A later start is an earlier one too. -/
theorem Paced.mono {sent : List Sending} {clock' : Instant} (hle : clock' ≤ clock)
    (h : Paced interval deadline clock sent) :
    Paced interval deadline clock' sent :=
  ⟨fun s hs => ⟨Nat.le_trans hle (h.within s hs).1, (h.within s hs).2⟩, h.apart⟩

/-- What is sent after the sleep of a round is sent an interval after it. -/
theorem Paced.cons {sent : List Sending} {s : Sending} (hle : clock ≤ s.now) (hlt : s.now < deadline)
    (h : Paced interval deadline (s.now + interval) sent) : Paced interval deadline clock (s :: sent) where
  within := List.forall_mem_cons.2 ⟨⟨hle, hlt⟩, (h.mono (Nat.le_trans hle (Nat.le_add_right _ _))).within⟩
  apart := List.pairwise_cons.2 ⟨fun b hb => (h.within b hb).1, h.apart⟩

/-- Since it sleeps after every round, the loop never sends twice in an interval, and it never begins to after the
deadline. -/
theorem retryLoop_paced :
    Paced interval deadline clock (retryLoop interval deadline message clock sends before session attempts).sent := by
  induction attempts generalizing session sends before clock with
  | nil => exact ⟨nofun, .nil⟩
  | cons attempt attempts ih =>
    have hle : clock ≤ clock + attempt.late := Nat.le_add_right _ _
    have hwoken : clock ≤ clock + attempt.late + interval := Nat.le_trans hle (Nat.le_add_right _ _)
    unfold retryLoop
    dsimp only
    split
    · rename_i hnow
      cases session.ensureSafePayload message with
      | error e => exact ⟨nofun, .nil⟩
      | ok =>
        cases (session.sendEnvelope message attempt.sentAtMs).1 with
        | error e => exact ih.mono hwoken
        | ok packet =>
          dsimp only
          split
          · exact ih.cons hle hnow
          · exact ih.mono hwoken
    · cases before with
      | none => exact ⟨nofun, .nil⟩
      | some e => exact ⟨nofun, .nil⟩

/-- Between any two of its rounds the loop has slept. -/
theorem made_length (hmade : made interval deadline clock attempts ≠ []) :
    clock + ((made interval deadline clock attempts).length - 1) * interval < deadline := by
  induction attempts generalizing clock with
  | nil => exact absurd rfl hmade
  | cons attempt attempts ih =>
    by_cases hnow : clock + attempt.late < deadline
    · have hle : clock ≤ clock + attempt.late := Nat.le_add_right _ _
      rw [made_cons hnow, List.length_cons, Nat.add_sub_cancel]
      by_cases hrest : made interval deadline (clock + attempt.late + interval) attempts = []
      · rw [hrest, List.length_nil, Nat.zero_mul]
        exact Nat.lt_of_le_of_lt hle hnow
      · have hlt := ih hrest
        obtain ⟨k, hk⟩ : ∃ k, (made interval deadline (clock + attempt.late + interval) attempts).length = k + 1 :=
          ⟨_, (Nat.succ_pred_eq_of_pos (List.length_pos_iff.2 hrest)).symm⟩
        rw [hk, Nat.add_sub_cancel] at hlt
        rw [hk, Nat.succ_mul]
        refine Nat.lt_of_le_of_lt ?_ hlt
        rw [Nat.add_comm (k * interval), ← Nat.add_assoc]
        exact Nat.add_le_add_right (Nat.add_le_add_right hle interval) _
    · exact absurd (made_late hnow) hmade

/-! ## The call -/

/-- A call of `send_discovery_with_retry` repeats one request under the epoch of the session, each time with a new
and larger number, at most once in an interval and not after its window; it returns how often it was sent, unless
the last attempt has failed. A request that is too large is not sent at all. -/
theorem discovery_retry (retries : DiscoveryRetries) (started : Instant) (session : RelaySession)
    (attempts : List Attempt) (requestId : DiscoveryRequestId) (port : Civ6UdpPort) (payload : List UInt8) :
    let message := .discoveryRequest requestId port payload
    let interval := retries.discoveryRetryInterval
    let rounds := made interval (started + retries.discoveryRetryWindow) started attempts
    let call := sendDiscoveryWithRetry retries started session message attempts
    (payload.length ≤ session.config.safePayloadSize → session.nextSequence.toNat + rounds.length < 2 ^ 64 →
      Repeats session message 0 none attempts rounds call) ∧
      (session.config.safePayloadSize < payload.length → rounds ≠ [] → call =
        { result := some (.error (.client (.relayPayloadTooLarge payload.length session.config.safePayloadSize)))
          sent := [], session }) ∧
      Paced interval (started + retries.discoveryRetryWindow) started call.sent ∧
      (rounds ≠ [] → (rounds.length - 1) * interval < retries.discoveryRetryWindow) := by
  intro message interval rounds call
  refine ⟨fun hsafe hroom => retryLoop_repeats hsafe hroom, fun hlarge hrounds => ?_, retryLoop_paced,
    fun hrounds => ?_⟩
  · show retryLoop interval _ message started 0 none session attempts = _
    cases attempts with
    | nil => exact absurd rfl hrounds
    | cons a attempts =>
      unfold retryLoop
      dsimp only
      split
      · rw [show session.ensureSafePayload message = _ from if_pos hlarge]
        rfl
      · rename_i hnow
        exact absurd (made_late hnow) hrounds
  · exact Nat.lt_of_add_lt_add_left (made_length hrounds)

end

namespace RoomRouter.Example

/-- Three rounds, of which the transport takes the last two, and the end of the window. -/
def attempts : List Attempt :=
  [{ late := 1, sentAtMs := 1, accepts := false }, { late := 0, sentAtMs := 4, accepts := true },
    { late := 2, sentAtMs := 9, accepts := true }, { late := 0, sentAtMs := 12, accepts := true }]

/-- The peer asks for games. -/
def asks : Retried :=
  sendDiscoveryWithRetry { discoveryRetryInterval := 3, discoveryRetryWindow := 10 } 0 talking.user.session
    (.discoveryRequest (.ofByte 9) ⟨62900⟩ [7]) attempts

end RoomRouter.Example

open RoomRouter in
/-- It does so three times, and two packets are sent. -/
theorem attempts_repeat : Example.asks.result = some (.ok 2) ∧ Paced 3 10 0 Example.asks.sent ∧
    Example.asks.sent.map (·.now) = [4, 9] := by
  obtain ⟨hrepeats, -, hpaced, -⟩ := discovery_retry { discoveryRetryInterval := 3, discoveryRetryWindow := 10 } 0
    Example.talking.user.session Example.attempts (.ofByte 9) ⟨62900⟩ [7]
  have hr := hrepeats (by decide) (by decide)
  refine ⟨?_, hpaced, by decide +kernel⟩
  unfold Example.asks
  rw [hr.result, hr.sent]
  decide

end Civ6LanBridge

/-
`crates/client-core/src/lib.rs`: how a client waits for the answer to a probe, in `probe_once` of the session
and in `probe` of the relay client. What the clock and the transport give is an argument.
-/
import Civ6LanBridge.Client.Timing

namespace Civ6LanBridge

open Bytes

/-! ## One wait -/

/-- What a wait can end with in place of an answer. -/
inductive WaitError
  | relayTimeout
  | io
  | relayCodec (e : RelayCodecError)
deriving DecidableEq

/-- What comes first in `timeout(remaining, transport.receive())`. -/
inductive Polled
  | elapsed
  | failed
  | datagram (bytes : List UInt8)
deriving DecidableEq

/-- The buffer of `receive_envelope` cuts off what is longer than the longest envelope. -/
def receiveEnvelope (bytes : List UInt8) : Except (Fault RelayCodecError) RelayEnvelope :=
  RelayEnvelope.decode (bytes.take maxRelayDatagramSize)

/-- `timeout(remaining, receive_envelope())`. -/
def Polled.envelope : Polled → Except (Fault WaitError) RelayEnvelope
  | elapsed => .error (.error .relayTimeout)
  | failed => .error (.error .io)
  | datagram bytes => (receiveEnvelope bytes).mapError (Fault.map .relayCodec)

/-- A round of the loop: what `started.elapsed()` is at its head, and what comes of the wait. -/
structure Poll where
  elapsed : Duration
  polled : Polled
deriving DecidableEq

/-- The loop ends in this round, or it goes on. -/
def Poll.round (timeout : Duration) (requestId : DiscoveryRequestId) (poll : Poll) :
    Option (Except (Fault WaitError) Unit) :=
  -- `checked_sub`
  if timeout < poll.elapsed then some (.error (.error .relayTimeout))
  else
    match poll.polled.envelope with
    | .error e => some (.error e)
    | .ok envelope => if envelope.message = .relayProbeAck requestId then some (.ok ()) else none

/-- The loop over its rounds; it may not have ended yet. -/
def awaitAck (timeout : Duration) (requestId : DiscoveryRequestId) : List Poll → Option (Except (Fault WaitError) Unit)
  | [] => none
  | poll :: polls =>
    match poll.round timeout requestId with
    | none => awaitAck timeout requestId polls
    | some result => some result

/-- The bytes are an acknowledgement of the probe. -/
def Acks (requestId : DiscoveryRequestId) (bytes : List UInt8) : Prop :=
  ∃ «meta», receiveEnvelope bytes = .ok { «meta», message := .relayProbeAck requestId }

section

variable {timeout : Duration} {requestId : DiscoveryRequestId} {poll : Poll} {polls : List Poll} {bytes : List UInt8}

theorem round_ok : poll.round timeout requestId = some (.ok ()) ↔
    poll.elapsed ≤ timeout ∧ ∃ bytes, poll.polled = .datagram bytes ∧ Acks requestId bytes := by
  obtain ⟨elapsed, polled⟩ := poll
  unfold Poll.round Acks
  dsimp only
  by_cases ht : timeout < elapsed
  · rw [if_pos ht]
    exact ⟨nofun, fun h => absurd ht (Nat.not_lt.2 h.1)⟩
  rw [if_neg ht]
  cases polled with
  | elapsed => exact ⟨nofun, nofun⟩
  | failed => exact ⟨nofun, nofun⟩
  | datagram bytes =>
    simp only [Polled.envelope, Polled.datagram.injEq, exists_eq_left', Nat.not_lt.1 ht, true_and]
    rcases receiveEnvelope bytes with e | ⟨«meta», message⟩
    · simp [Except.mapError]
    · simp [Except.mapError]

/-- A probe succeeds exactly if its acknowledgement comes in time, and only other envelopes before it. -/
theorem awaitAck_ok : awaitAck timeout requestId polls = some (.ok ()) ↔
    ∃ before poll after, polls = before ++ poll :: after ∧ (∀ p ∈ before, p.round timeout requestId = none) ∧
      poll.round timeout requestId = some (.ok ()) := by
  induction polls with
  | nil => simp [awaitAck]
  | cons poll polls ih =>
    unfold awaitAck
    cases hround : poll.round timeout requestId with
    | none =>
      rw [show (awaitAck timeout requestId polls = some (.ok ())) ↔ _ from ih]
      constructor
      · rintro ⟨before, p, after, rfl, hbefore, hp⟩
        exact ⟨poll :: before, p, after, rfl, List.forall_mem_cons.2 ⟨hround, hbefore⟩, hp⟩
      · rintro ⟨_ | ⟨p', before⟩, p, after, e, hbefore, hp⟩
        · cases e
          rw [hround] at hp
          cases hp
        · cases e
          exact ⟨before, p, after, rfl, fun x hx => hbefore x (List.mem_cons_of_mem _ hx), hp⟩
    | some result =>
      dsimp only
      constructor
      · intro h
        exact ⟨[], poll, polls, rfl, nofun, hround.trans h⟩
      · rintro ⟨_ | ⟨p', before⟩, p, after, e, hbefore, hp⟩
        · cases e
          exact hround.symm.trans hp
        · cases e
          rw [hbefore poll List.mem_cons_self] at hround
          cases hround

end

/-! ## `probe_once` and `probe` -/

/-- What `send` of the transport makes of the packet. -/
def sendPacket (accepts : Bool) (packet : Except RelayCodecError (List UInt8)) : Except (Fault WaitError) Unit :=
  match packet with
  | .error e => .error (.error (.relayCodec e))
  | .ok _ => if accepts then .ok () else .error (.error .io)

/-- `probe_once`, if it has returned, and the session; `rtt` is what `started.elapsed()` is at its end. -/
def TimedSession.probeOnce (session : TimedSession) (probeTimeout : Duration) (requestId : DiscoveryRequestId)
    (sentAtMs : UInt64) (accepts : Bool) (polls : List Poll) (rtt : Duration) :
    Option (Except (Fault WaitError) Duration) × TimedSession :=
  let (envelope, session) := session.startProbe requestId sentAtMs
  match sendPacket accepts envelope.encode with
  | .error e => (some (.error e), session)
  | .ok () =>
    match awaitAck probeTimeout requestId polls with
    | none => (none, session)
    | some (.error e) => (some (.error e), session)
    | some (.ok ()) => (some (.ok rtt), session.recordProbeSuccess rtt)

/-- `RelayClient::probe`: the message has no metadata, and nothing is recorded. -/
def probeClient (timeout : Duration) (requestId : DiscoveryRequestId) (accepts : Bool) (polls : List Poll) :
    Option (Except (Fault WaitError) Unit) :=
  match sendPacket accepts (RelayMessage.encode (.relayProbe requestId)) with
  | .error e => some (.error e)
  | .ok () => awaitAck timeout requestId polls

end Civ6LanBridge

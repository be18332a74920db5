/-
The loop of `RelayServer::run`. It waits for a datagram or for the tick of a timer, and sends what comes of a
datagram one packet after the other. What the socket makes of each call is an argument; the counters of the
metrics are left out.
-/
import Civ6LanBridge.Server.Transparency

namespace Civ6LanBridge

open Std FinMap Bytes

/-! ## One turn of the loop -/

/-- How the loop ends. -/
inductive RunError
  | codec (e : RelayCodecError)
  | io
  | panic
deriving DecidableEq

/-- A call of `send_to`. -/
structure SendTo where
  packet : List UInt8
  destination : SocketAddr
deriving DecidableEq

/-- `for datagram in outbound`, from the `i`-th on: the calls that are made, and how the loop ends if it does. The
`i`-th call succeeds if `accepts i`. -/
def sendOutbound (accepts : Nat → Bool) : Nat → List OutboundDatagram → List SendTo × Option RunError
  | _, [] => ([], none)
  | i, datagram :: outbound =>
    match RelayEnvelope.encode { «meta» := datagram.meta, message := datagram.message } with
    | .error e => ([], some (.codec e))
    | .ok packet =>
      let call := { packet, destination := datagram.destination }
      if accepts i then
        let (calls, ended) := sendOutbound accepts (i + 1) outbound
        (call :: calls, ended)
      -- the `?` behind `send_to` leaves both loops
      else ([call], some .io)

/-- What the loop waits for: a datagram and what becomes of the calls of `send_to` it leads to, a failure of
`recv_from`, or a tick. -/
inductive Wake
  | received (o : WalkOrder) (source : SocketAddr) (datagram : List UInt8) (limiterNow now : Instant)
      (accepts : Nat → Bool)
  | receiveFailed
  | tick (o : WalkOrder) (now : Instant)

/-- What the loop has done. -/
structure Progress where
  state : AppState
  calls : List SendTo
  ended : Option RunError

def Wake.turn (relayPort : UInt16) (s : AppState) : Wake → Progress
  | received o source datagram limiterNow now accepts =>
    -- the buffer cuts off what is longer than the longest envelope
    match handleDatagram o relayPort s source (datagram.take maxRelayDatagramSize) limiterNow now with
    | (.ok outbound, state) =>
      let (calls, ended) := sendOutbound accepts 0 outbound
      { state, calls, ended }
    -- a datagram that is not accepted is counted and dropped
    | (.error (.error _), state) => { state, calls := [], ended := none }
    | (.error .panic, state) => { state, calls := [], ended := some .panic }
  | receiveFailed => { state := s, calls := [], ended := some .io }
  | tick o now => { state := { s with router := (RoomRouter.expire o s.router now).2 }, calls := [], ended := none }

/-- `RelayServer::run` over what it is woken by, up to where it ends. -/
def run (relayPort : UInt16) (s : AppState) : List Wake → Progress
  | [] => { state := s, calls := [], ended := none }
  | wake :: wakes =>
    let turn := wake.turn relayPort s
    if turn.ended = none then
      let rest := run relayPort turn.state wakes
      { rest with calls := turn.calls ++ rest.calls }
    else turn

/-! ## What the loop is for -/

/-- What is to be sent. -/
def Wake.outbound (relayPort : UInt16) (s : AppState) : Wake → List OutboundDatagram
  | received o source datagram limiterNow now _ =>
    (handleDatagram o relayPort s source (datagram.take maxRelayDatagramSize) limiterNow now).1.toOption.getD []
  | receiveFailed | tick .. => []

/-- The state of the server afterwards. -/
def Wake.next (relayPort : UInt16) (s : AppState) : Wake → AppState
  | received o source datagram limiterNow now _ =>
    (handleDatagram o relayPort s source (datagram.take maxRelayDatagramSize) limiterNow now).2
  | receiveFailed => s
  | tick o now => { s with router := (RoomRouter.expire o s.router now).2 }

theorem Wake.turn_state (relayPort : UInt16) (s : AppState) (wake : Wake) :
    (wake.turn relayPort s).state = wake.next relayPort s := by
  cases wake with
  | receiveFailed | tick => rfl
  | received o source datagram limiterNow now accepts =>
    unfold Wake.turn Wake.next
    dsimp only
    split <;> rename_i hx <;> rw [hx]

/-- Every call of `send_to` that the datagram leads to succeeds. -/
def Wake.Accepted (relayPort : UInt16) (s : AppState) (wake : Wake) : Prop :=
  match wake with
  | received _ _ _ _ _ accepts => ∀ i < (wake.outbound relayPort s).length, accepts i = true
  | receiveFailed | tick .. => True

/-- The state after all that the loop is woken by, and all that is to be sent. -/
def served (relayPort : UInt16) (s : AppState) : List Wake → AppState × List OutboundDatagram
  | [] => (s, [])
  | wake :: wakes =>
    let (state, outbound) := served relayPort (wake.next relayPort s) wakes
    (state, wake.outbound relayPort s ++ outbound)

/-- Every call of `send_to` succeeds. -/
def AllAccepted (relayPort : UInt16) (s : AppState) : List Wake → Prop
  | [] => True
  | wake :: wakes => wake.Accepted relayPort s ∧ AllAccepted relayPort (wake.next relayPort s) wakes

/-- The call is for the datagram. -/
def SendTo.Carries (call : SendTo) (datagram : OutboundDatagram) : Prop :=
  RelayEnvelope.encode { «meta» := datagram.meta, message := datagram.message } = .ok call.packet ∧
    call.destination = datagram.destination

/-- The loop goes on, has seen to all it was woken by, and has tried to send all that was to be sent. -/
structure Undeterred (relayPort : UInt16) (s : AppState) (wakes : List Wake) : Prop where
  looping : (run relayPort s wakes).ended = none
  state : (run relayPort s wakes).state = (served relayPort s wakes).1
  calls : List.Forall₂ SendTo.Carries (run relayPort s wakes).calls (served relayPort s wakes).2

/-! ## Sending -/

section

variable {accepts : Nat → Bool} {i : Nat} {outbound : List OutboundDatagram}

theorem sendOutbound_ended (accepts : Nat → Bool) (i : Nat) (hfits : ∀ d ∈ outbound, d.message.PayloadFits) :
    (sendOutbound accepts i outbound).2 = none ↔ ∀ j < outbound.length, accepts (i + j) = true := by
  induction outbound generalizing i with
  | nil => simp [sendOutbound]
  | cons d outbound ih =>
    rcases encode_fits (e := { «meta» := d.meta, message := d.message }) (hfits d List.mem_cons_self) with
      ⟨packet, henc, -⟩
    have ih := ih (i + 1) fun d hd => hfits d (List.mem_cons_of_mem _ hd)
    unfold sendOutbound
    rw [henc]
    dsimp only
    by_cases hi : accepts i = true
    · rw [if_pos hi, ih]
      constructor
      · intro h j hj
        cases j with
        | zero => exact hi
        | succ j =>
          rw [← Nat.add_assoc, Nat.add_right_comm]
          exact h j (by simpa using hj)
      · intro h j hj
        have := h (j + 1) (by simpa using hj)
        rwa [← Nat.add_assoc, Nat.add_right_comm] at this
    · rw [if_neg hi]
      constructor
      · intro h
        cases h
      · intro h
        exact absurd (h 0 (by simp)) hi

/-- A loop that has not ended has tried every datagram. -/
theorem sendOutbound_calls (h : (sendOutbound accepts i outbound).2 = none) :
    List.Forall₂ SendTo.Carries (sendOutbound accepts i outbound).1 outbound := by
  induction outbound generalizing i with
  | nil => exact .nil
  | cons d outbound ih =>
    unfold sendOutbound at h ⊢
    cases henc : RelayEnvelope.encode { «meta» := d.meta, message := d.message } with
    | error e => rw [henc] at h; cases h
    | ok packet =>
      rw [henc] at h
      dsimp only at h ⊢
      split at h
      · rename_i hi
        rw [if_pos hi]
        exact .cons ⟨henc, rfl⟩ (ih h)
      · cases h

end

/-! ## Handling does not panic -/

section

variable {s : AppState} {o : WalkOrder} {relayPort : UInt16} {now : Instant}

theorem Fault.map_eq_panic {α β : Type} {f : α → β} {x : Fault α} : x.map f = .panic ↔ x = .panic := by
  cases x <;> simp [Fault.map]

theorem markPeerSeen_noPanic (r : RoomRouter) (p : PeerId) (now : Instant) :
    (r.markPeerSeen p now).1 ≠ .error .panic := by
  intro hx
  unfold RoomRouter.markPeerSeen at hx
  split at hx
  · cases hx
  split at hx <;> cases hx

theorem route_noPanic (h : s.router.WF) {p : PeerId} {peer : PeerState} (hp : s.router.peers[p]? = some peer)
    (envelope : RelayEnvelope) : (route o relayPort s p envelope now).1 ≠ .error .panic := by
  intro hx
  unfold route at hx
  split at hx
  · cases hx
  rename_i ingress hin
  split at hx
  · rename_i f router hd
    rcases RoomRouter.exec_does o h (.dispatch ingress) with ⟨e, he⟩ | ⟨r', he, -⟩
    all_goals rw [RouterOp.exec, hd] at he
    · cases he
      cases hx
    · cases he
  · rename_i action router hd
    rcases route_dispatched relayPort h hp hin hd with ⟨out, hout, -⟩
    dsimp only at hx
    rw [hout] at hx
    cases hx

theorem handleMessage_noPanic (h : s.router.WF) {p : PeerId} {peer : PeerState} (hp : s.router.peers[p]? = some peer)
    (envelope : RelayEnvelope) : (handleMessage o relayPort s p envelope now).1 ≠ .error .panic := by
  intro hx
  unfold handleMessage at hx
  split at hx
  · rename_i f router hseen
    exact markPeerSeen_noPanic s.router p now
      (by rw [hseen]; exact congrArg _ (Fault.map_eq_panic.1 (Except.error.inj hx)))
  rename_i router hseen
  split at hx
  · cases hx
  · rcases RoomRouter.markPeerSeen_does (o := .sorted) (r := s.router) p now with ⟨e, he⟩ | ⟨r', he, heff⟩
    · rw [hseen] at he; cases he
    rw [hseen] at he
    cases he
    have hw' : router.WF := h.effect (show (RouterOp.markPeerSeen p now).Fresh s.router from trivial) heff
    have hp' : ∃ peer', router.peers[p]? = some peer' := by
      cases heff
      rw [ExtTreeMap.getElem?_modify_self, hp]
      exact ⟨_, rfl⟩
    rcases hp' with ⟨peer', hp'⟩
    exact route_noPanic (s := { s with router, sequenceTracker := _ }) hw' hp' envelope hx

theorem handleDatagram_noPanic (o : WalkOrder) (relayPort : UInt16) (source : SocketAddr) (packet : List UInt8)
    (limiterNow now : Instant) (h : s.router.WF) :
    (handleDatagram o relayPort s source packet limiterNow now).1 ≠ .error .panic := by
  intro hx
  unfold handleDatagram at hx
  split at hx
  · rename_i f hdec
    exact decodePacket_noPanic packet (hdec.trans (congrArg _ (Fault.map_eq_panic.1 (Except.error.inj hx))))
  split at hx
  · cases hx
  rename_i ip hip
  split at hx
  · cases hx
  rename_i limiter hallow
  unfold handleEnvelope at hx
  split at hx
  · cases hx
  rename_i p hlook
  rcases (h.addresses ⟨ip⟩ p).1 hlook with ⟨peer, hp, -⟩
  split at hx
  · cases hx
  dsimp only at hx
  split at hx
  · cases hx
  split at hx
  · unfold handleProbe at hx
    split at hx
    · rename_i f router hseen
      exact markPeerSeen_noPanic s.router p now
        (by rw [hseen]; exact congrArg _ (Fault.map_eq_panic.1 (Except.error.inj hx)))
    · cases hx
  · exact handleMessage_noPanic (s := { s with udpRateLimiter := limiter }) h hp _ hx

end

/-! ## The loop -/

variable {config : RouterConfig} {s : AppState} {relayPort : UInt16} {wake : Wake} {wakes : List Wake}

theorem Wake.next_reachable (relayPort : UInt16) (h : AppState.Reachable config s) (wake : Wake) :
    AppState.Reachable config (wake.next relayPort s) := by
  cases wake with
  | received o source datagram limiterNow now accepts => exact .step h (.datagram o relayPort source _ limiterNow now)
  | receiveFailed => exact h
  | tick o now => exact .step h (.control o (.expire now) trivial)

/-- One turn of a loop that can receive: it ends exactly if a call of `send_to` fails. -/
theorem Wake.turn_spec (relayPort : UInt16) (h : AppState.Reachable config s) (hr : wake ≠ .receiveFailed) :
    ((wake.turn relayPort s).ended = none ↔ wake.Accepted relayPort s) ∧
      ((wake.turn relayPort s).ended = none → (wake.turn relayPort s).state = wake.next relayPort s ∧
        List.Forall₂ SendTo.Carries (wake.turn relayPort s).calls (wake.outbound relayPort s)) := by
  cases wake with
  | receiveFailed => exact absurd rfl hr
  | tick o now => exact ⟨⟨fun _ => trivial, fun _ => rfl⟩, fun _ => ⟨rfl, .nil⟩⟩
  | received o source datagram limiterNow now accepts =>
    have hnp := handleDatagram_noPanic o relayPort source (datagram.take maxRelayDatagramSize) limiterNow
      now h.router.wf
    unfold Wake.turn Wake.Accepted Wake.outbound Wake.next
    dsimp only
    cases hx : handleDatagram o relayPort s source (datagram.take maxRelayDatagramSize) limiterNow now with
    | mk result state =>
      rw [hx] at hnp
      rcases result with (_ | e) | outbound
      · exact absurd rfl hnp
      · simp [Except.toOption]
      · have hok :
            (handleDatagram o relayPort s source (datagram.take maxRelayDatagramSize) limiterNow now).1 =
              .ok outbound := by
          rw [hx]
        rcases handleDatagram_forwards h.router.wf hok with ⟨envelope, -, hrel, hout⟩
        have hfits : ∀ d ∈ outbound, d.message.PayloadFits := by
          intro d hd
          rcases hout d hd with ⟨-, ip, hf⟩
          exact hrel.fits hf.matches
        have hended := sendOutbound_ended accepts 0 hfits
        simp only [Nat.zero_add] at hended
        exact ⟨hended, fun hnone => ⟨rfl, sendOutbound_calls hnone⟩⟩

/-- The loop goes on exactly if every call of `send_to` succeeds. -/
theorem run_ended (h : AppState.Reachable config s) (hr : Wake.receiveFailed ∉ wakes) :
    (run relayPort s wakes).ended = none ↔ AllAccepted relayPort s wakes := by
  induction wakes generalizing s with
  | nil => exact ⟨fun _ => trivial, fun _ => rfl⟩
  | cons wake wakes ih =>
    rw [List.mem_cons, not_or] at hr
    rcases Wake.turn_spec relayPort h (Ne.symm hr.1) with ⟨hended, hturn⟩
    have ih := ih (wake.next_reachable relayPort h) hr.2
    unfold run AllAccepted
    dsimp only
    rw [← hended, ← ih]
    by_cases hnone : (wake.turn relayPort s).ended = none
    · rw [if_pos hnone, (hturn hnone).1]
      simp [hnone]
    · rw [if_neg hnone]
      simp [hnone]

/-- A loop that goes on has seen to everything. -/
theorem run_serves (h : AppState.Reachable config s) (hr : Wake.receiveFailed ∉ wakes)
    (hnone : (run relayPort s wakes).ended = none) : (run relayPort s wakes).state = (served relayPort s wakes).1 ∧
      List.Forall₂ SendTo.Carries (run relayPort s wakes).calls (served relayPort s wakes).2 := by
  induction wakes generalizing s with
  | nil => exact ⟨rfl, .nil⟩
  | cons wake wakes ih =>
    rw [List.mem_cons, not_or] at hr
    rcases Wake.turn_spec relayPort h (Ne.symm hr.1) with ⟨-, hturn⟩
    unfold run at hnone ⊢
    dsimp only at hnone ⊢
    split at hnone
    · rename_i hfirst
      rcases hturn hfirst with ⟨hstate, hcalls⟩
      rw [if_pos hfirst]
      rw [hstate] at hnone ⊢
      rcases ih (wake.next_reachable relayPort h) hr.2 hnone with ⟨h1, h2⟩
      exact ⟨h1, List.rel_append hcalls h2⟩
    · rename_i hfirst
      exact absurd hnone hfirst

/-- The loop is undeterred by what it is woken by exactly if every call of `send_to` succeeds. -/
theorem undeterred_iff (h : AppState.Reachable config s) (hr : Wake.receiveFailed ∉ wakes) :
    Undeterred relayPort s wakes ↔ AllAccepted relayPort s wakes := by
  rw [← run_ended h hr]
  constructor
  · exact fun hu => hu.looping
  · intro hnone
    rcases run_serves h hr hnone with ⟨hstate, hcalls⟩
    exact ⟨hnone, hstate, hcalls⟩

/-! ## A peer that cannot be reached -/

namespace RoomRouter.Example

/-- The request of the guest, sent on to the host, and a tick. -/
def asked (accepts : Nat → Bool) : List Wake :=
  [.received .sorted ⟨.v4 ip.address, 32000⟩ request 0 0 accepts, .tick .sorted 1]

end RoomRouter.Example

open RoomRouter in
theorem asked_undeterred : Undeterred 32000 Example.server (Example.asked fun _ => true) :=
  (undeterred_iff Example.server_reachable (by simp [Example.asked])).2 ⟨fun _ _ => rfl, trivial, trivial⟩

open RoomRouter in
/-- One call that fails ends the loop. -/
theorem unreachable_peer_ends_loop : ¬ ∀ config s relayPort wakes, AppState.Reachable config s →
    Wake.receiveFailed ∉ wakes → Undeterred relayPort s wakes := by
  intro hall
  have hu := hall {} Example.server 32000 (Example.asked fun _ => false) Example.server_reachable
    (by simp [Example.asked])
  have hended : (run 32000 Example.server (Example.asked fun _ => false)).ended = some .io := by decide +kernel
  rw [hu.looping] at hended
  cases hended

end Civ6LanBridge

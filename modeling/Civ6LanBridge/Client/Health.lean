/-
One client and the relay, with a network between them that loses, reorders and copies datagrams both ways. What
the client takes for the answer to its probe is one: the relay has heard the probe, from a peer at the address
of the client and of the epoch of its session.
-/
import Civ6LanBridge.Client.Exchange
import Civ6LanBridge.Client.Reconnect
import Civ6LanBridge.Server.Loop

namespace Civ6LanBridge

open Std FinMap Bytes Past

/-! ## The client and the relay -/

/-- The probe for which an event begins to wait. -/
def ClientEvent.probes? : ClientEvent → Option DiscoveryRequestId
  | probeOnce requestId _ | runWithReconnect requestId _ | wake requestId _ => some requestId
  | _ => none

/-- A round of the wait for the acknowledgement, as an event of the client if it is the last one. -/
def RelayUser.polled (user : RelayUser) (timeout : Duration) (requestId : DiscoveryRequestId) (poll : Poll) :
    RelayUser :=
  match poll.round timeout requestId with
  | none => user
  | some (.ok ()) => user.answered
  | some (.error (.error _)) => user.failed
  | some (.error .panic) => { user with activity := .idle }

/-- What the client and the relay have sent to each other stays in the network. -/
structure Conversation where
  server : AppState
  user : RelayUser
  awaited : DiscoveryRequestId
  outbound : List (List UInt8)
  inbound : List (List UInt8)

namespace Conversation

variable (ip : VirtualIp) (port : UInt16) (probeTimeout : Duration)

/-- The client acts, or its callback has returned an epoch, whatever the relay thinks of it; it waits for an
acknowledgement; the loop of the relay is woken; or the control plane acts. -/
inductive Event
  | client (e : ClientEvent)
  | reconnected (connectionEpoch : UInt64) (requestId : DiscoveryRequestId) (sentAtMs : UInt64)
  | poll (poll : Poll)
  | relay (relayPort : UInt16) (wake : Wake)
  | control (o : WalkOrder) (op : RouterOp)

/-- The client has acted, and its packet is in the network. -/
def sent (l : Conversation) (act : Option (List UInt8) × RelayUser) (awaited : DiscoveryRequestId) : Conversation :=
  { l with user := act.2, awaited, outbound := act.1.toList ++ l.outbound }

/-- The calls of `send_to` with the address of the client. -/
def delivered (calls : List SendTo) : List (List UInt8) :=
  (calls.filter (·.destination = relayDestination ip port)).map (·.packet)

def Event.apply (l : Conversation) : Event → Conversation
  | client e => l.sent (l.user.apply e) (e.probes?.getD l.awaited)
  | reconnected connectionEpoch requestId sentAtMs =>
    l.sent (l.user.reconnected connectionEpoch requestId sentAtMs) requestId
  | poll p => { l with user := l.user.polled probeTimeout l.awaited p }
  | relay relayPort wake =>
    let turn := wake.turn relayPort l.server
    { l with server := turn.state, inbound := delivered ip port turn.calls ++ l.inbound }
  | control o op => { l with server := { l.server with router := (op.exec o l.server.router).2 } }

/-- No probe in the network has the id. -/
def Fresh (l : Conversation) (requestId : DiscoveryRequestId) : Prop :=
  ∀ packet ∈ l.outbound, ∀ envelope, receiveEnvelope packet = .ok envelope → envelope.message ≠ .relayProbe requestId

/-- Ids of probes are new. The network makes nothing up: what the client receives the relay has sent to it, and
what the relay receives from the address of the client the client has sent. -/
def Event.Allowed (l : Conversation) : Event → Prop
  | client e => l.user.activity ∈ e.during ∧ e ≠ .probeAnswered ∧ ∀ requestId, e.probes? = some requestId →
      l.Fresh requestId
  | reconnected _ requestId _ => l.user.activity = .resuming ∧ l.Fresh requestId
  | poll p => (∃ looping, l.user.activity = .probing looping) ∧ ∀ bytes, p.polled = .datagram bytes → bytes ∈ l.inbound
  | relay _ wake => ∀ o datagram limiterNow now accepts,
      wake = .received o (relayDestination ip port) datagram limiterNow now accepts → datagram ∈ l.outbound
  | control _ op => op.Fresh l.server.router

def Happens (l : Conversation) (e : Event) (l' : Conversation) : Prop :=
  e.Allowed ip port l ∧ l' = e.apply ip port probeTimeout l

/-- A new session with a relay in any state. -/
structure Starts (config : RouterConfig) (l : Conversation) : Prop where
  server : AppState.Reachable config l.server
  session : ∃ transportPathId epoch sessionConfig, l.user =
    { session := .withConfig transportPathId epoch sessionConfig, activity := .idle }
  outbound : l.outbound = []
  inbound : l.inbound = []

abbrev Moves := List (Move Conversation Event)

/-- The epoch that the session stamps. -/
def epoch (l : Conversation) : UInt64 := l.user.session.snapshot.connectionEpoch

/-! ## What an answer is for -/

/-- The relay hears the probe of a peer at the address, with the epoch. -/
def Hears (requestId : DiscoveryRequestId) (connectionEpoch : UInt64) (m : Move Conversation Event) : Prop :=
  ∃ relayPort o packet limiterNow now accepts q peer envelope,
    m.event = .relay relayPort (.received o (relayDestination ip port) packet limiterNow now accepts) ∧
    Passes m.before.server (relayDestination ip port) (packet.take maxRelayDatagramSize) limiterNow q peer envelope ∧
    envelope.message = .relayProbe requestId ∧ envelope.meta.connectionEpoch = connectionEpoch ∧
    m.after.server.router = m.before.server.router.hearing q now

/-- The client does something other than wait. -/
def Acts (m : Move Conversation Event) : Prop :=
  (∃ e, m.event = .client e) ∨ ∃ connectionEpoch requestId sentAtMs,
    m.event = .reconnected connectionEpoch requestId sentAtMs

/-- The session is given an epoch. -/
def Renews (m : Move Conversation Event) : Prop :=
  (∃ connectionEpoch, m.event = .client (.markAuthenticated connectionEpoch)) ∨
    ∃ connectionEpoch requestId sentAtMs, m.event = .reconnected connectionEpoch requestId sentAtMs

/-- The client takes what it has received for the answer to its probe. -/
def Answers (m : Move Conversation Event) : Prop :=
  ∃ p, m.event = .poll p ∧ p.round probeTimeout m.before.awaited = some (.ok ())

/-- The relay has heard the client since the session was given its epoch, under that epoch. -/
def Heard (h : Moves) (connectionEpoch : UInt64) : Prop :=
  Since (fun m => ∃ requestId, Hears ip port requestId connectionEpoch m) (fun m => ¬ Renews m) h

/-- What is known of the probe that is waited for, of what was received, and of the state of the session. -/
structure Sound (h : Moves) (l : Conversation) : Prop where
  acked : ∀ bytes ∈ l.inbound, ∀ requestId, Acks requestId bytes → ¬ l.Fresh requestId
  stamped : ∀ looping, l.user.activity = .probing looping → ∀ packet ∈ l.outbound, ∀ envelope,
    receiveEnvelope packet = .ok envelope → envelope.message = .relayProbe l.awaited →
      envelope.meta.connectionEpoch = l.epoch
  heard : ∀ looping, l.user.activity = .probing looping → ∀ bytes ∈ l.inbound, Acks l.awaited bytes →
    Since (Hears ip port l.awaited l.epoch) (fun m => ¬ Acts m) h
  healthy : l.user.session.snapshot.state = .healthy → Heard ip port h l.epoch

end Conversation

/-! ## What is sent -/

/-- What encodes is received as it was. -/
theorem receiveEnvelope_encode {e : RelayEnvelope} {packet : List UInt8} (henc : e.encode = .ok packet) :
    receiveEnvelope packet = .ok e := by
  by_cases hfits : e.message.PayloadFits
  · obtain ⟨b, hb, -, hlen, hdec⟩ := encode_fits hfits
    rw [henc] at hb
    cases hb
    unfold receiveEnvelope
    rw [List.take_of_length_le hlen]
    exact hdec
  · obtain ⟨message, he⟩ : ∃ what, e.encode = .error what := ⟨_, encodePacket_error _ _ hfits⟩
    rw [he] at henc
    cases henc

/-- A message without metadata is received with the default ones. -/
theorem receiveEnvelope_message (message : RelayMessage) (hfits : message.PayloadFits) :
    ∃ packet, message.encode = .ok packet ∧ receiveEnvelope packet = .ok { «meta» := {}, message } := by
  have hlen := length_body_le none hfits
  have hdec := (decodePacket_ok_iff (e := { «meta» := {}, message })).2 ⟨hfits, Or.inl ⟨rfl, rfl⟩⟩
  refine ⟨_, encodePacket_ok none _ hfits, ?_⟩
  rw [writeOptionalMeta_none] at hlen ⊢
  unfold receiveEnvelope
  rw [List.take_of_length_le (by rw [length_frame]; omega)]
  exact hdec

theorem SendTo.Carries.received {call : SendTo} {d : OutboundDatagram} (h : call.Carries d) :
    receiveEnvelope call.packet = .ok { «meta» := d.meta, message := d.message } := receiveEnvelope_encode h.1

/-- A probe is stamped with the epoch of the session, which it leaves alone. -/
theorem RelayUser.probe_spec (user : RelayUser) (looping : Bool) (requestId : DiscoveryRequestId) (sentAtMs : UInt64) :
    (∀ packet ∈ (user.probe looping requestId sentAtMs).1.toList, ∀ envelope, receiveEnvelope packet = .ok envelope →
      envelope.meta.connectionEpoch = user.session.snapshot.connectionEpoch) ∧
    (user.probe looping requestId sentAtMs).2.session.snapshot.connectionEpoch = user.session.snapshot.connectionEpoch ∧
    (user.probe looping requestId sentAtMs).2.session.snapshot.state =
      if user.session.snapshot.state = .disconnected then .connecting else user.session.snapshot.state := by
  unfold RelayUser.probe RelaySession.startProbe RelaySession.sendEnvelope
  dsimp only
  refine ⟨fun packet hp envelope henv => ?_, ?_, ?_⟩
  · rw [toOption_mapError, Option.mem_toList] at hp
    generalize hx : RelayEnvelope.encode _ = x at hp
    cases x with
    | error e => cases hp
    | ok b =>
      cases hp
      rw [receiveEnvelope_encode hx] at henv
      cases henv
      split <;> rfl
  · split <;> rfl
  · split <;> rfl

theorem recordProbeFailure_healthy (session : RelaySession)
    (h : session.recordProbeFailure.2.snapshot.state = .healthy) :
    session.snapshot.state = .healthy ∧
      session.recordProbeFailure.2.snapshot.connectionEpoch = session.snapshot.connectionEpoch := by
  refine ⟨?_, (ReconnectLoop.recordProbeFailure_frame session).1⟩
  unfold RelaySession.recordProbeFailure at h
  dsimp only at h
  split at h
  · cases h
  · exact h

theorem RelayUser.failed_healthy (user : RelayUser) (h : user.failed.session.snapshot.state = .healthy) :
    user.session.snapshot.state = .healthy ∧
      user.failed.session.snapshot.connectionEpoch = user.session.snapshot.connectionEpoch := by
  unfold failed at h ⊢
  split
  · rename_i hloop
    rw [if_pos hloop] at h
    cases hf : user.session.recordProbeFailure with
    | mk degraded rest =>
      rw [hf] at h
      have hrest := recordProbeFailure_healthy user.session
      rw [hf] at hrest
      cases degraded with
      | true => cases h
      | false => exact hrest h
  · rename_i hloop
    rw [if_neg hloop] at h
    exact ⟨h, rfl⟩

/-- Apart from an answer, no event makes a session healthy that was not, and such a one keeps its epoch. -/
theorem RelayUser.apply_healthy {user : RelayUser} {e : ClientEvent} (he : e ≠ .probeAnswered)
    (h : (user.apply e).2.session.snapshot.state = .healthy) : user.session.snapshot.state = .healthy ∧
      (user.apply e).2.session.snapshot.connectionEpoch = user.session.snapshot.connectionEpoch ∧
      ∀ connectionEpoch, e ≠ .markAuthenticated connectionEpoch := by
  have hprobe : ∀ looping requestId sentAtMs,
      (user.probe looping requestId sentAtMs).2.session.snapshot.state = .healthy →
        user.session.snapshot.state = .healthy := by
    intro looping requestId sentAtMs h
    rw [(user.probe_spec looping requestId sentAtMs).2.2] at h
    split at h
    · cases h
    · exact h
  cases e with
  | markAuthenticated | markRoomJoined | markDisconnected | reconnectFailed => cases h
  | probeAnswered => exact absurd rfl he
  | cancel => exact ⟨h, rfl, nofun⟩
  | probeOnce requestId sentAtMs => exact ⟨hprobe _ _ _ h, (user.probe_spec _ _ _).2.1, nofun⟩
  | runWithReconnect requestId sentAtMs => exact ⟨hprobe _ _ _ h, (user.probe_spec _ _ _).2.1, nofun⟩
  | wake requestId sentAtMs => exact ⟨hprobe _ _ _ h, (user.probe_spec _ _ _).2.1, nofun⟩
  | recordProbeFailure =>
    obtain ⟨hs, hepoch⟩ := recordProbeFailure_healthy user.session h
    exact ⟨hs, hepoch, nofun⟩
  | sendGameplay message sentAtMs =>
    unfold RelayUser.apply RelaySession.sendGameplay at h ⊢
    dsimp only at h ⊢
    split at h <;> exact ⟨h, rfl, nofun⟩
  | sendDiscovery message sentAtMs =>
    unfold RelayUser.apply RelaySession.sendDiscovery at h ⊢
    dsimp only at h ⊢
    split at h
    · split at h <;> exact ⟨h, rfl, nofun⟩
    · exact ⟨h, rfl, nofun⟩
  | probeFailed =>
    obtain ⟨hs, hepoch⟩ := user.failed_healthy h
    exact ⟨hs, hepoch, nofun⟩

theorem RelayUser.failed_activity (user : RelayUser) (looping : Bool) : user.failed.activity ≠ .probing looping := by
  unfold failed
  split
  · split <;> nofun
  · nofun

theorem RelayUser.answered_activity (user : RelayUser) (looping : Bool) :
    user.answered.activity ≠ .probing looping := by
  unfold answered
  dsimp only
  split <;> nofun

theorem RelayUser.answered_epoch (user : RelayUser) :
    user.answered.session.snapshot.connectionEpoch = user.session.snapshot.connectionEpoch := by
  unfold answered RelaySession.settle
  dsimp only
  split
  · split <;> rfl
  · rfl

/-- The client waits for an answer after an event only if the event has sent a probe. -/
theorem RelayUser.apply_probing {user : RelayUser} {e : ClientEvent} {looping : Bool}
    (hduring : user.activity ∈ e.during) (h : (user.apply e).2.activity = .probing looping) :
    ∃ requestId sentAtMs, e.probes? = some requestId ∧ user.apply e = user.probe looping requestId sentAtMs := by
  have hidle : user.activity ∈ [Activity.idle] → user.activity ≠ .probing looping := by
    intro hm
    rw [List.mem_singleton.1 hm]
    nofun
  cases e with
  | probeOnce requestId sentAtMs =>
    obtain rfl : false = looping := Activity.probing.inj h
    exact ⟨requestId, sentAtMs, rfl, rfl⟩
  | runWithReconnect requestId sentAtMs =>
    obtain rfl : true = looping := Activity.probing.inj h
    exact ⟨requestId, sentAtMs, rfl, rfl⟩
  | wake requestId sentAtMs =>
    obtain rfl : true = looping := Activity.probing.inj h
    exact ⟨requestId, sentAtMs, rfl, rfl⟩
  | probeAnswered => exact absurd h (user.answered_activity looping)
  | probeFailed => exact absurd h (user.failed_activity looping)
  | reconnectFailed =>
    have h : user.activity = .probing looping := h
    rw [List.mem_singleton.1 hduring] at h
    cases h
  | cancel => cases h
  | markAuthenticated => exact absurd h (hidle hduring)
  | markRoomJoined => exact absurd h (hidle hduring)
  | markDisconnected => exact absurd h (hidle hduring)
  | recordProbeFailure => exact absurd h (hidle hduring)
  | sendGameplay => exact absurd h (hidle hduring)
  | sendDiscovery => exact absurd h (hidle hduring)

/-! ## What the relay sends -/

theorem sendOutbound_mem {accepts : Nat → Bool} {i : Nat} {outbound : List OutboundDatagram} {call : SendTo}
    (h : call ∈ (sendOutbound accepts i outbound).1) : ∃ d ∈ outbound, call.Carries d := by
  induction outbound generalizing i with
  | nil => cases h
  | cons d outbound ih =>
    unfold sendOutbound at h
    split at h
    · cases h
    rename_i packet henc
    dsimp only at h
    split at h
    · rcases List.mem_cons.1 h with rfl | h
      · exact ⟨d, List.mem_cons_self, henc, rfl⟩
      · obtain ⟨d', hd', hc⟩ := ih h
        exact ⟨d', List.mem_cons_of_mem _ hd', hc⟩
    · obtain rfl := List.mem_singleton.1 h
      exact ⟨d, List.mem_cons_self, henc, rfl⟩

/-- Nothing that is forwarded is an acknowledgement. -/
theorem Routed.not_ack {o : WalkOrder} {relayPort : UInt16} {r r' : RoomRouter} {p : PeerId} {peer : PeerState}
    {envelope : RelayEnvelope} {now : Instant} {out : List OutboundDatagram}
    (h : Routed o relayPort r p peer envelope now out r')
    (requestId : DiscoveryRequestId) : ∀ d ∈ out, d.message ≠ .relayProbeAck requestId := by
  intro d hd
  cases h with
  | request =>
    obtain ⟨target, -, rfl⟩ := List.mem_map.1 hd
    nofun
  | response =>
    obtain rfl := List.mem_singleton.1 hd
    nofun
  | gameplay =>
    obtain rfl := List.mem_singleton.1 hd
    nofun

/-- The relay sends an acknowledgement only for a probe that it hears, and only to where the probe came from. -/
theorem Wake.turn_acks {relayPort : UInt16} {s : AppState} {wake : Wake} {call : SendTo}
    {requestId : DiscoveryRequestId}
    (hw : s.router.WF) (hcall : call ∈ (wake.turn relayPort s).calls) (hack : Acks requestId call.packet) :
    ∃ o datagram limiterNow now accepts q peer envelope,
      wake = .received o call.destination datagram limiterNow now accepts ∧
      Passes s call.destination (datagram.take maxRelayDatagramSize) limiterNow q peer envelope ∧
      envelope.message = .relayProbe requestId ∧ (wake.turn relayPort s).state.router = s.router.hearing q now := by
  rw [turn_state]
  cases wake with
  | receiveFailed => cases hcall
  | tick => cases hcall
  | received o source datagram limiterNow now accepts =>
    have hh := handleDatagram_handles o relayPort hw source (datagram.take maxRelayDatagramSize) limiterNow now
    unfold Wake.turn at hcall
    dsimp only at hcall
    have hnext : (Wake.received o source datagram limiterNow now accepts).next relayPort s =
      (handleDatagram o relayPort s source (datagram.take maxRelayDatagramSize) limiterNow now).2 := rfl
    rw [hnext]
    split at hcall
    · rename_i outbound state hx
      rw [hx] at hh ⊢
      obtain ⟨d, hd, hc⟩ := sendOutbound_mem hcall
      obtain ⟨«meta», hack⟩ := hack
      rw [hc.received] at hack
      have hmessage : d.message = .relayProbeAck requestId := congrArg RelayEnvelope.message (Except.ok.inj hack)
      cases hh with
      | answered hpass hmsg =>
        obtain rfl := List.mem_singleton.1 hd
        cases hmessage
        rw [hc.2]
        exact ⟨o, datagram, limiterNow, now, accepts, _, _, _, rfl, hpass, hmsg, rfl⟩
      | routed _ _ _ _ hroute => exact absurd hmessage (hroute.not_ack requestId d hd)
    · cases hcall
    · cases hcall

/-! ## One event -/

namespace Conversation

variable {ip : VirtualIp} {port : UInt16} {probeTimeout : Duration} {config : RouterConfig} {h : Moves}
  {l l' : Conversation} {m : Move Conversation Event} {e : Event}

theorem Renews.acts (hm : Renews m) : Acts m := by
  obtain ⟨connectionEpoch, he⟩ | hm := hm
  · exact Or.inl ⟨_, he⟩
  · exact Or.inr hm

/-- What was heard while the client only waited was heard since its session was given the epoch. -/
theorem heard_of_since {requestId : DiscoveryRequestId} {connectionEpoch : UInt64}
    (hs : Since (Hears ip port requestId connectionEpoch) (fun m => ¬ Acts m) h) : Heard ip port h connectionEpoch :=
  hs.imp (fun _ hm => ⟨requestId, hm⟩) fun _ hno hm => hno hm.acts

/-- What the client does leaves what was heard of a session that is still healthy. -/
theorem Sound.kept (hsound : Sound ip port h m.before) (hno : ¬ Renews m)
    (hs : m.before.user.session.snapshot.state = .healthy) {connectionEpoch : UInt64}
    (he : connectionEpoch = m.before.epoch) :
    Heard ip port (m :: h) connectionEpoch := by
  rw [he]
  exact Or.inr ⟨hno, hsound.healthy hs⟩

/-- The client has acted. If it waits for an answer now, then to a probe that nobody has heard of yet. -/
theorem Sound.sent (hsound : Sound ip port h m.before) {act : Option (List UInt8) × RelayUser}
    {awaited : DiscoveryRequestId} (hprobe : ∀ looping, act.2.activity = .probing looping → m.before.Fresh awaited ∧
      ∀ packet ∈ act.1.toList, ∀ envelope, receiveEnvelope packet = .ok envelope →
        envelope.meta.connectionEpoch = act.2.session.snapshot.connectionEpoch)
    (hhealthy : act.2.session.snapshot.state = .healthy →
      ¬ Renews m ∧ m.before.user.session.snapshot.state = .healthy ∧
        act.2.session.snapshot.connectionEpoch = m.before.epoch) :
    Sound ip port (m :: h) (m.before.sent act awaited) where
  acked bytes hb requestId hack hf :=
    hsound.acked bytes hb requestId hack fun packet hp => hf packet (List.mem_append_right _ hp)
  stamped looping hl packet hp envelope henv hmsg := by
    obtain ⟨hfresh, hstamp⟩ := hprobe looping hl
    rcases List.mem_append.1 hp with hp | hp
    · exact hstamp packet hp envelope henv
    · exact absurd hmsg (hfresh packet hp envelope henv)
  heard looping hl bytes hb hack := absurd (hprobe looping hl).1 (hsound.acked bytes hb awaited hack)
  healthy hs :=
    have ⟨hno, hs, he⟩ := hhealthy hs
    hsound.kept hno hs he

/-- A round of the wait: either the loop goes on, or the client waits no longer. -/
theorem Sound.polled (hsound : Sound ip port h m.before) {p : Poll} (hm : m.event = .poll p)
    (hactivity : ∃ looping, m.before.user.activity = .probing looping)
    (hin : ∀ bytes, p.polled = .datagram bytes → bytes ∈ m.before.inbound) :
    Sound ip port (m :: h) { m.before with user := m.before.user.polled probeTimeout m.before.awaited p } := by
  have hacts : ¬ Acts m := by
    rintro (⟨e, he⟩ | ⟨connectionEpoch, requestId, sentAtMs, he⟩) <;> rw [hm] at he <;> cases he
  have hno : ¬ Renews m := fun hr => hacts hr.acts
  -- once the client waits no longer, only its state and its epoch matter
  have hended : ∀ user : RelayUser, (∀ looping, user.activity ≠ .probing looping) →
      (user.session.snapshot.state = .healthy → Heard ip port (m :: h) user.session.snapshot.connectionEpoch) →
      Sound ip port (m :: h) { m.before with user } := fun user hactivity hhealthy =>
    ⟨hsound.acked, fun looping hl => absurd hl (hactivity looping),
      fun looping hl => absurd hl (hactivity looping), hhealthy⟩
  unfold RelayUser.polled
  split
  · exact ⟨hsound.acked, hsound.stamped,
      fun looping hl bytes hb hack => Or.inr ⟨hacts, hsound.heard looping hl bytes hb hack⟩,
      fun hs => hsound.kept hno hs rfl⟩
  · rename_i hround
    obtain ⟨-, bytes, hp, hack⟩ := round_ok.1 hround
    obtain ⟨looping, hl⟩ := hactivity
    have hheard := heard_of_since (hsound.heard looping hl bytes (hin bytes hp) hack)
    refine hended _ m.before.user.answered_activity fun _ => ?_
    rw [m.before.user.answered_epoch]
    exact Or.inr ⟨hno, hheard⟩
  · refine hended _ m.before.user.failed_activity fun hs => ?_
    obtain ⟨hs, he⟩ := m.before.user.failed_healthy hs
    exact hsound.kept hno hs he
  · exact hended _ nofun fun hs => hsound.kept hno hs rfl

/-- The relay has been woken: what is new to the client and acknowledges its probe, it has just heard. -/
theorem Sound.relayed (hsound : Sound ip port h m.before) (hw : m.before.server.router.WF) {relayPort : UInt16}
    {wake : Wake} (hm : m.event = .relay relayPort wake) (hafter : m.after =
      { m.before with
        server := (wake.turn relayPort m.before.server).state
        inbound := delivered ip port (wake.turn relayPort m.before.server).calls ++ m.before.inbound })
    (hin : ∀ o datagram limiterNow now accepts,
      wake = .received o (relayDestination ip port) datagram limiterNow now accepts → datagram ∈ m.before.outbound) :
    Sound ip port (m :: h) m.after := by
  have hacts : ¬ Acts m := by
    rintro (⟨e, he⟩ | ⟨connectionEpoch, requestId, sentAtMs, he⟩) <;> rw [hm] at he <;> cases he
  -- an acknowledgement that is new to the client is for a probe from its address
  have hnew : ∀ bytes ∈ delivered ip port (wake.turn relayPort m.before.server).calls, ∀ requestId,
      Acks requestId bytes →
        ∃ datagram ∈ m.before.outbound, ∃ envelope, receiveEnvelope datagram = .ok envelope ∧
          envelope.message = .relayProbe requestId ∧ Hears ip port requestId envelope.meta.connectionEpoch m := by
    intro bytes hb requestId hack
    obtain ⟨call, hcall, rfl⟩ := List.mem_map.1 hb
    obtain ⟨hcall, hdest⟩ := List.mem_filter.1 hcall
    obtain ⟨o, datagram, limiterNow, now, accepts, q, peer, envelope, hwake, hpass, hmsg, hrouter⟩ :=
      Wake.turn_acks hw hcall hack
    rw [of_decide_eq_true hdest] at hwake hpass
    refine ⟨datagram, hin o datagram limiterNow now accepts hwake, envelope, hpass.decoded, hmsg,
      relayPort, o, datagram, limiterNow, now, accepts, q, peer, envelope, ?_, hpass, hmsg, rfl, ?_⟩
    · rw [hm, hwake]
    · rw [hafter]
      exact hrouter
  rw [hafter]
  refine ⟨fun bytes hb requestId hack => ?_, hsound.stamped, fun looping hl bytes hb hack => ?_, fun hs => ?_⟩
  · rcases List.mem_append.1 hb with hb | hb
    · obtain ⟨datagram, hd, envelope, henv, hmsg, -⟩ := hnew bytes hb requestId hack
      exact fun hf => hf datagram hd envelope henv hmsg
    · exact hsound.acked bytes hb requestId hack
  · rcases List.mem_append.1 hb with hb | hb
    · obtain ⟨datagram, hd, envelope, henv, hmsg, hhears⟩ := hnew bytes hb _ hack
      rw [hsound.stamped looping hl datagram hd envelope henv hmsg] at hhears
      exact Or.inl hhears
    · exact Or.inr ⟨hacts, hsound.heard looping hl bytes hb hack⟩
  · exact hsound.kept (fun hr => hacts hr.acts) hs rfl

theorem sound_step (hw : l.server.router.WF) (he : Happens ip port probeTimeout l e l') (hsound : Sound ip port h l) :
    Sound ip port ({ before := l, event := e, after := l' } :: h) l' := by
  obtain ⟨hallowed, rfl⟩ := he
  cases e with
  | client e =>
    obtain ⟨hduring, hne, hfresh⟩ := hallowed
    refine hsound.sent (fun looping hl => ?_) fun hs => ?_
    · obtain ⟨requestId, sentAtMs, hprobes, happly⟩ := RelayUser.apply_probing hduring hl
      obtain ⟨hstamp, hepoch, -⟩ := l.user.probe_spec looping requestId sentAtMs
      rw [happly, hprobes, hepoch]
      exact ⟨hfresh requestId hprobes, hstamp⟩
    · obtain ⟨hs, hepoch, hno⟩ := RelayUser.apply_healthy hne hs
      refine ⟨?_, hs, hepoch⟩
      rintro (⟨connectionEpoch, he⟩ | ⟨_, _, _, he⟩) <;> cases he
      exact hno connectionEpoch rfl
  | reconnected connectionEpoch requestId sentAtMs =>
    obtain ⟨hstamp, hepoch, hstate⟩ := RelayUser.probe_spec
      { l.user with session := l.user.session.reconnected connectionEpoch } true requestId sentAtMs
    refine hsound.sent (fun looping _ => ⟨hallowed.2, ?_⟩) fun hs => ?_
    · rw [show (l.user.reconnected connectionEpoch requestId sentAtMs).2.session.snapshot.connectionEpoch = _
        from hepoch]
      exact hstamp
    -- the session is in the state `Resynced`
    · rw [show (l.user.reconnected connectionEpoch requestId sentAtMs).2.session.snapshot.state = _ from hstate] at hs
      cases hs
  | poll p => exact hsound.polled rfl hallowed.1 hallowed.2
  | relay relayPort wake => exact hsound.relayed hw rfl rfl hallowed
  | control o op =>
    have hacts :
        ¬ Acts
          { before := l, event := .control o op, after := Event.apply ip port probeTimeout l (.control o op) } := by
      rintro (⟨e, he⟩ | ⟨_, _, _, he⟩) <;> cases he
    exact ⟨hsound.acked, hsound.stamped,
      fun looping hl bytes hb hack => Or.inr ⟨hacts, hsound.heard looping hl bytes hb hack⟩,
      fun hs => hsound.kept (fun hr => hacts hr.acts) hs rfl⟩

theorem server_step (he : Happens ip port probeTimeout l e l') (hr : AppState.Reachable config l.server) :
    AppState.Reachable config l'.server := by
  obtain ⟨hallowed, rfl⟩ := he
  cases e with
  | client | reconnected | poll => exact hr
  | relay relayPort wake =>
    show AppState.Reachable config (wake.turn relayPort l.server).state
    rw [Wake.turn_state]
    exact wake.next_reachable relayPort hr
  | control o op => exact .step hr (.control o op hallowed)

/-! ## Runs -/

theorem run_sound (hr : Run (Starts config) (Happens ip port probeTimeout) h l) :
    AppState.Reachable config l.server ∧ Sound ip port h l := by
  induction hr with
  | init hs =>
    refine ⟨hs.server, ?_, ?_, ?_, ?_⟩
    · rw [hs.inbound]
      nofun
    · rw [hs.outbound]
      nofun
    · rw [hs.inbound]
      nofun
    · obtain ⟨transportPathId, epoch, sessionConfig, hsession⟩ := hs.session
      rw [hsession]
      nofun
  | step _ he ih => exact ⟨server_step he ih.1, sound_step ih.1.router.wf he ih.2⟩

variable (ip port probeTimeout) in
/-- Every probe that counts as answered was heard by the relay while the client waited for the answer, from a
registered peer at its address and under the epoch of the session; and a session that counts as healthy has been
heard under its epoch since it was given that epoch. -/
structure Trusted (h : Moves) (l : Conversation) : Prop where
  answered : ∀ recent m old, h = recent ++ m :: old → Answers probeTimeout m →
    Since (Hears ip port m.before.awaited m.before.epoch) (fun m => ¬ Acts m) old
  healthy : l.user.session.snapshot.state = .healthy → Heard ip port h l.epoch

/-- No client takes itself for connected that the relay has not heard. -/
theorem no_false_health (hr : Run (Starts config) (Happens ip port probeTimeout) h l) :
    Trusted ip port probeTimeout h l := by
  refine ⟨?_, (run_sound hr).2.healthy⟩
  induction hr with
  | init => simp
  | @step h l l' e hr he ih =>
    rintro (_ | ⟨x, recent⟩) m old hsplit hanswers
    · cases hsplit
      obtain ⟨p, rfl, hround⟩ := hanswers
      obtain ⟨-, bytes, hp, hack⟩ := round_ok.1 hround
      obtain ⟨⟨looping, hl⟩, hin⟩ := he.1
      exact (run_sound hr).2.heard looping hl bytes (hin bytes hp) hack
    · exact ih recent m old (List.cons.inj hsplit).2 hanswers

end Conversation

/-! ## A probe that arrives -/

/-- The relay answers the packet, and a client that waits for the answer succeeds if it comes in time, whatever
other envelopes come before. -/
def Acknowledged (relayPort : UInt16) (s : AppState) (o : WalkOrder) (source : SocketAddr) (packet : List UInt8)
    (limiterNow now : Instant) (accepts : Nat → Bool) (state : AppState) (timeout : Duration)
    (requestId : DiscoveryRequestId) (succeeds : List Poll → Prop) : Prop :=
  ∃ ack, (Wake.received o source packet limiterNow now accepts).turn relayPort s =
      { state, calls := [{ packet := ack, destination := source }], ended := none } ∧
    ∀ before after elapsed, (∀ p ∈ before, Poll.round timeout requestId p = none) → elapsed ≤ timeout →
      succeeds (before ++ { elapsed, polled := .datagram ack } :: after)

section

variable {config : RouterConfig} {s : AppState} {relayPort : UInt16} {o : WalkOrder} {source : SocketAddr}
  {packet : List UInt8} {limiterNow now : Instant} {accepts : Nat → Bool} {q : PeerId} {peer : PeerState}
  {envelope : RelayEnvelope} {requestId : DiscoveryRequestId}

/-- A probe that gets past the gate is acknowledged, if the acknowledgement can be sent. -/
theorem Passes.acknowledged (hw : s.router.WF)
    (hpass : Passes s source (packet.take maxRelayDatagramSize) limiterNow q peer envelope)
    (hmsg : envelope.message = .relayProbe requestId) (haccepts : accepts 0 = true) {timeout : Duration}
    {succeeds : List Poll → Prop}
    (hsucceeds : ∀ polls, awaitAck timeout requestId polls = some (.ok ()) → succeeds polls) :
    Acknowledged relayPort s o source packet limiterNow now accepts (s.hearing peer.virtualIp limiterNow q now)
      timeout requestId succeeds := by
  obtain ⟨ack, henc, -⟩ := encode_fits (e := { «meta» := envelope.meta, message := .relayProbeAck requestId }) nofun
  have hround : ∀ elapsed ≤ timeout, Poll.round timeout requestId { elapsed, polled := .datagram ack } =
      some (.ok ()) :=
    fun elapsed ht => round_ok.2 ⟨ht, ack, rfl, envelope.meta, receiveEnvelope_encode henc⟩
  refine ⟨ack, ?_, fun before after elapsed hbefore ht =>
    hsucceeds _ (awaitAck_ok.2 ⟨before, _, after, rfl, hbefore, hround elapsed ht⟩)⟩
  have hh := handleDatagram_handles o relayPort hw source (packet.take maxRelayDatagramSize) limiterNow now
  unfold Wake.turn
  dsimp only
  generalize handleDatagram o relayPort s source (packet.take maxRelayDatagramSize) limiterNow now = x at hh
  have hother : ∀ {q' peer' envelope'},
    Passes s source (packet.take maxRelayDatagramSize) limiterNow q' peer' envelope' →
      q' = q ∧ peer' = peer ∧ envelope' = envelope := fun hpass' =>
    hpass'.sender hw hpass.registered hpass.source hpass.decoded
  cases hh with
  | refused _ hno => exact absurd hpass (hno q peer envelope)
  | answered hpass' hmsg' =>
    obtain ⟨rfl, rfl, rfl⟩ := hother hpass'
    rw [hmsg] at hmsg'
    cases hmsg'
    unfold sendOutbound
    dsimp only
    rw [henc]
    dsimp only
    rw [if_pos haccepts]
    rfl
  | duplicate hpass' hno =>
    obtain ⟨-, -, rfl⟩ := hother hpass'
    exact absurd hmsg (hno requestId)
  | failed hpass' hno =>
    obtain ⟨-, -, rfl⟩ := hother hpass'
    exact absurd hmsg (hno requestId)
  | routed hpass' hno =>
    obtain ⟨-, -, rfl⟩ := hother hpass'
    exact absurd hmsg (hno requestId)

/-- A packet that carries an envelope of the right epoch, from a peer that is there. -/
theorem passes_carried (hdec : receiveEnvelope packet = .ok envelope) (hsource : source.ip = .v4 peer.virtualIp.address)
    (hp : s.router.peers[q]? = some peer) (hconnected : peer.disconnectedAt = none)
    (hallow : (s.udpRateLimiter.allow peer.virtualIp.address.toString limiterNow).1 = true)
    (hepoch : envelope.meta.connectionEpoch = 0 ∨ envelope.meta.connectionEpoch = peer.connectionEpoch) :
    Passes s source (packet.take maxRelayDatagramSize) limiterNow q peer envelope :=
  ⟨hdec, hsource, hallow, hp, hconnected, hepoch⟩

/-- In every state of the server: the probe of a session under the epoch of a connected peer is answered, and so is
the probe of a client without a session whatever the epoch, and the wait for the answer succeeds if it comes in time. -/
theorem probe_round_trip (h : AppState.Reachable config s) (hsource : source.ip = .v4 peer.virtualIp.address)
    (hp : s.router.peers[q]? = some peer) (hconnected : peer.disconnectedAt = none)
    (hallow : (s.udpRateLimiter.allow peer.virtualIp.address.toString limiterNow).1 = true)
    (haccepts : accepts 0 = true) (timeout : Duration) (requestId : DiscoveryRequestId) :
    (∀ (session : TimedSession) sentAtMs,
      session.snapshot.connectionEpoch = 0 ∨ session.snapshot.connectionEpoch = peer.connectionEpoch →
      ∃ packet, (session.startProbe requestId sentAtMs).1.encode = .ok packet ∧
        Acknowledged relayPort s o source packet limiterNow now accepts
          (s.hearing peer.virtualIp limiterNow q now) timeout
          requestId fun polls => ∀ rtt, session.probeOnce timeout requestId sentAtMs true polls rtt =
            (some (.ok rtt), (session.startProbe requestId sentAtMs).2.recordProbeSuccess rtt)) ∧
    ∃ packet, RelayMessage.encode (.relayProbe requestId) = .ok packet ∧
      Acknowledged relayPort s o source packet limiterNow now accepts
        (s.hearing peer.virtualIp limiterNow q now) timeout
        requestId fun polls => probeClient timeout requestId true polls = some (.ok ()) := by
  have hw := h.router.wf
  constructor
  · intro session sentAtMs hepoch
    have hmsg : (session.startProbe requestId sentAtMs).1.message = .relayProbe requestId := rfl
    have hstamp : (session.startProbe requestId sentAtMs).1.meta.connectionEpoch =
        session.snapshot.connectionEpoch := by
      unfold TimedSession.startProbe
      dsimp only
      split <;> rfl
    obtain ⟨packet, henc, -⟩ := encode_fits (e := (session.startProbe requestId sentAtMs).1) (by rw [hmsg]; nofun)
    rw [← hstamp] at hepoch
    refine ⟨packet, henc,
      (passes_carried (receiveEnvelope_encode henc) hsource hp hconnected hallow hepoch).acknowledged hw
      hmsg haccepts fun polls hpolls rtt => ?_⟩
    unfold TimedSession.probeOnce
    dsimp only
    rw [henc]
    unfold sendPacket
    dsimp only
    rw [if_pos rfl]
    dsimp only
    rw [hpolls]
  · obtain ⟨packet, henc, hdec⟩ := receiveEnvelope_message (.relayProbe requestId) nofun
    refine ⟨packet, henc, (passes_carried hdec hsource hp hconnected hallow (Or.inl rfl)).acknowledged hw rfl haccepts
      fun polls hpolls => ?_⟩
    unfold probeClient sendPacket
    rw [henc]
    dsimp only
    rw [if_pos rfl]
    exact hpolls

end

/-! ## The peer of the example -/

namespace RoomRouter.Example

open Conversation

/-- The peer has a session with the server that has its address, under the epoch in which it joined. -/
def talking : Conversation :=
  { server, user := { session := .new (some 1) 1, activity := .idle }, awaited := .ofByte 8, outbound := [],
    inbound := [] }

/-- The probe of the session and its acknowledgement: in this exchange they differ in their kind. -/
def probePacket (kind : UInt8) : List UInt8 :=
  frame relayProtocolVersion kind
    (({ sequence := 1, connectionEpoch := 1, sentAtMs := 0 } : RelayEnvelopeMeta).fields ++ pathBytes (some 1) 0 ++
      (Uuid.ofByte 8).bytes)

/-- The client is in the room and probes, the relay hears it, and the answer comes after three seconds. -/
def exchanged : List Conversation.Event :=
  [.poll { elapsed := 3, polled := .datagram (probePacket MessageKind.relayProbeAck) },
    .relay 32000 (.received .sorted (relayDestination ip 32000) (probePacket MessageKind.relayProbe) 0 0 fun _ => true),
    .client (.runWithReconnect (.ofByte 8) 0), .client .markRoomJoined]

theorem talking_starts : Conversation.Starts {} talking := ⟨server_reachable, ⟨_, _, _, rfl⟩, rfl, rfl⟩

theorem exchanged_permitted :
    Past.Permitted (Event.apply ip 32000 5) (fun l e => e.Allowed ip 32000 l) talking exchanged := by
  refine ⟨⟨⟨true, by decide +kernel⟩, ?_⟩, ?_, ⟨by decide +kernel, nofun, fun _ _ => nofun⟩,
    ⟨by decide +kernel, nofun, nofun⟩, trivial⟩
  · rintro _ ⟨⟩
    decide +kernel
  · rintro _ _ _ _ _ ⟨⟩
    decide +kernel

end RoomRouter.Example

open RoomRouter Conversation in
/-- The peer counts as healthy, and the server has heard it. -/
theorem healthy_peer : Heard Example.ip 32000
    (Past.replay (Event.apply Example.ip 32000 5) Example.talking Example.exchanged) 1 := by
  have hepoch : (Past.final (Event.apply Example.ip 32000 5) Example.talking Example.exchanged).epoch = 1 := by
    decide +kernel
  have htrusted := no_false_health (run_replay _ _ Example.talking_starts Example.exchanged_permitted)
  rw [← hepoch]
  exact htrusted.healthy (by decide +kernel)

open RoomRouter in
theorem peer_answered : ∃ packet, RelayMessage.encode (.relayProbe (.ofByte 8)) = .ok packet ∧
    Acknowledged 32000 Example.server .sorted (relayDestination Example.ip 32000) packet 0 0 (fun _ => true)
      (Example.server.hearing Example.ip 0 Example.peer 0) 5 (.ofByte 8)
      fun polls => probeClient 5 (.ofByte 8) true polls = some (.ok ()) :=
  (probe_round_trip Example.server_reachable rfl (show Example.server.router.peers[Example.peer]? = some _ from rfl) rfl
    (by decide +kernel) rfl 5 (.ofByte 8)).2

end Civ6LanBridge

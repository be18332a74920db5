/-
What `handle_datagram` does, by cases: a datagram is refused at the gate, or it gets past the checks of
its sender and is answered, found to be a duplicate, refused by the router, or routed.
-/
import Civ6LanBridge.Server.Forwarding

namespace Civ6LanBridge

open Std FinMap Bytes

/-! ## The gate -/

/-- The datagram gets past the checks of its sender: it is an envelope, within the rate limit, from the
address of a connected peer, and of the peer's epoch or of none. -/
structure Passes (s : AppState) (source : SocketAddr) (packet : List UInt8) (limiterNow : Instant) (p : PeerId)
    (peer : PeerState) (envelope : RelayEnvelope) : Prop where
  decoded : RelayEnvelope.decode packet = .ok envelope
  source : source.ip = .v4 peer.virtualIp.address
  allowed : (s.udpRateLimiter.allow peer.virtualIp.address.toString limiterNow).1 = true
  registered : s.router.peers[p]? = some peer
  connected : peer.disconnectedAt = none
  epoch : envelope.meta.connectionEpoch = 0 ∨ envelope.meta.connectionEpoch = peer.connectionEpoch

namespace RoomRouter

/-- The router after a sign of life from a peer. -/
def hearing (r : RoomRouter) (p : PeerId) (now : Instant) : RoomRouter :=
  { r with peers := r.peers.modify p fun peer => { peer with lastSeen := now } }

variable {r : RoomRouter} {p q : PeerId} {peer : PeerState} {now : Instant}

theorem hearing_peer (hp : r.peers[p]? = some peer) :
    (r.hearing p now).peers[p]? = some { peer with lastSeen := now } := by
  show (r.peers.modify p _)[p]? = _
  rw [ExtTreeMap.getElem?_modify_self, hp]
  rfl

theorem hearing_peer_ne (h : p ≠ q) : (r.hearing p now).peers[q]? = r.peers[q]? := getElem?_modify_ne h

theorem WF.hearing (h : r.WF) (p : PeerId) (now : Instant) : (r.hearing p now).WF :=
  h.editPeer (fun _ => rfl) fun _ => rfl

theorem markPeerSeen_connected (hp : r.peers[p]? = some peer) (hc : peer.disconnectedAt = none) :
    r.markPeerSeen p now = .ok () (r.hearing p now) := by
  unfold markPeerSeen
  rw [hp]
  simp only [hc, Option.isSome_none, Bool.false_eq_true, if_false]
  rfl

end RoomRouter

/-- The server after a datagram has got past the checks of its sender. -/
def AppState.hearing (s : AppState) (ip : VirtualIp) (limiterNow : Instant) (p : PeerId) (now : Instant) : AppState :=
  { s with
    udpRateLimiter := (s.udpRateLimiter.allow ip.address.toString limiterNow).2
    router := s.router.hearing p now }

/-! ## Routing -/

section

variable {s : AppState} {o : WalkOrder} {relayPort : UInt16} {source : SocketAddr} {packet : List UInt8}
  {p : PeerId} {peer : PeerState} {envelope : RelayEnvelope} {limiterNow now : Instant}

/-- The ways a message of a peer is routed: what is sent, and the router afterwards. -/
inductive Routed (o : WalkOrder) (relayPort : UInt16) (r : RoomRouter) (p : PeerId) (peer : PeerState)
    (envelope : RelayEnvelope) (now : Instant) : List OutboundDatagram → RoomRouter → Prop
  | request {requestId port payload room r'} : envelope.message = .discoveryRequest requestId port payload →
      r.rooms[peer.roomId]? = some room → Effect o r (.beginDiscovery peer.roomId p requestId port now) r' →
      Routed o relayPort r p peer envelope now
        ((RoomRouter.discoveryTargets o r room now).map fun target =>
          { destination := relayDestination target.hostVirtualIp relayPort
            message := .discoveryToHost requestId peer.virtualIp port payload
            «meta» := envelope.meta }) r'
  | response {requestId hostId port payload host discovery client} :
      envelope.message = .discoveryResponse requestId hostId port payload → r.hosts[hostId]? = some host →
      host.peerId = p → now < host.expiresAt → r.discoveries[requestId]? = some discovery →
      now < discovery.expiresAt → host.roomId = discovery.roomId → r.peers[discovery.clientPeerId]? = some client →
      Routed o relayPort r p peer envelope now
        [{ destination := relayDestination client.virtualIp relayPort
           message := .discoveryToClient requestId host.virtualIp port payload
           «meta» := envelope.meta }] r
  | gameplay {sessionId port payload session q ip r'} : envelope.message = .gameplayPacket sessionId port payload →
      r.gameplay[sessionId]? = some session → now < session.expiresAt → RoomRouter.otherEnd session p = some (q, ip) →
      Effect o r (.routeGameplayDatagram sessionId p now) r' →
      Routed o relayPort r p peer envelope now
        [{ destination := relayDestination ip relayPort
           message := .gameplayToPeer sessionId peer.virtualIp port payload
           «meta» := envelope.meta }] r'

/-- An error that is not about the sequence number. -/
def NotDuplicate (f : Fault RelayError) : Prop := ∀ n, f ≠ .error (.duplicateSequence n)

theorem notDuplicate_router (f : Fault RouterError) : NotDuplicate (f.map .router) := by
  intro n
  cases f <;> simp [Fault.map]

theorem notDuplicate_relay {e : RelayError} (h : ∀ n, e ≠ .duplicateSequence n) : NotDuplicate (.error e) := by
  intro n hn
  cases hn
  exact h n rfl

end

namespace RoomRouter

variable {r : RoomRouter} {p : PeerId} {peer : PeerState} {hostId : HostSessionId} {host : HostState}

theorem dispatch_request (o : WalkOrder) (hp : r.peers[p]? = some peer) (requestId : DiscoveryRequestId)
    (port : Civ6UdpPort) (payload : List UInt8) (now : Instant) :
    (∃ e, dispatch o r (.discovery p requestId port payload now) = .err e r) ∨
      ∃ room r', r.rooms[peer.roomId]? = some room ∧ r'.peers = r.peers ∧
        Effect o r (.beginDiscovery peer.roomId p requestId port now) r' ∧
        dispatch o r (.discovery p requestId port payload now) =
          .ok (.discoveryFanout requestId p port (discoveryTargets o r room now) payload) r' := by
  have hroom : r.roomForPeer p = some peer.roomId := by rw [roomForPeer, hp]; rfl
  simp only [dispatch, hroom]
  split
  · exact Or.inl ⟨_, rfl⟩
  obtain ⟨e, he⟩ | ⟨room, r', hr, -, -, hpeers, heff, he⟩ := beginDiscovery_cases o r peer.roomId p requestId port now
  · rw [he]; exact Or.inl ⟨e, rfl⟩
  · rw [he]; exact Or.inr ⟨room, r', hr, hpeers, heff, rfl⟩

theorem dispatch_response (o : WalkOrder) (hh : r.hosts[hostId]? = some host) (requestId : DiscoveryRequestId)
    (port : Civ6UdpPort) (payload : List UInt8) (now : Instant) :
    (∃ e, dispatch o r (.discoveryResponse hostId requestId port payload now) = .err e r) ∨
      ∃ discovery, r.discoveries[requestId]? = some discovery ∧ now < discovery.expiresAt ∧ now < host.expiresAt ∧
        host.roomId = discovery.roomId ∧
        dispatch o r (.discoveryResponse hostId requestId port payload now) =
          .ok (.discoveryUnicast requestId discovery.clientPeerId host.virtualIp port payload) r := by
  simp only [dispatch, hh]
  split
  · exact Or.inl ⟨_, rfl⟩
  split
  · exact Or.inl ⟨_, rfl⟩
  unfold routeDiscoveryResponse
  cases hd : r.discoveries[requestId]? with
  | none => exact Or.inl ⟨_, rfl⟩
  | some discovery =>
    simp only [hh]
    by_cases h1 : discovery.expiresAt ≤ now
    · rw [if_pos h1]; exact Or.inl ⟨_, rfl⟩
    by_cases h2 : host.expiresAt ≤ now
    · rw [if_neg h1, if_pos h2]; exact Or.inl ⟨_, rfl⟩
    by_cases h3 : host.roomId = discovery.roomId
    · rw [if_neg h1, if_neg h2, if_neg (not_not.2 h3)]
      exact Or.inr ⟨discovery, rfl, Nat.not_le.1 h1, Nat.not_le.1 h2, h3, rfl⟩
    · rw [if_neg h1, if_neg h2, if_pos h3]; exact Or.inl ⟨_, rfl⟩

theorem dispatch_gameplay (o : WalkOrder) (r : RoomRouter) (sessionId : GameplaySessionId) (p : PeerId)
    (port : Civ6UdpPort) (payload : List UInt8) (now : Instant) :
    (∃ e, dispatch o r (.gameplay sessionId p port payload now) = .err e r) ∨
      ∃ session q ip r', r.gameplay[sessionId]? = some session ∧ now < session.expiresAt ∧
        otherEnd session p = some (q, ip) ∧
        r'.peers = r.peers ∧ Effect o r (.routeGameplayDatagram sessionId p now) r' ∧
        dispatch o r (.gameplay sessionId p port payload now) =
          .ok (.gameplayUnicast { sessionId, roomId := session.roomId, sourcePeerId := p, destinationPeerId := q,
                                  destinationVirtualIp := ip } port payload) r' := by
  simp only [dispatch]
  split
  · exact Or.inl ⟨_, rfl⟩
  split
  · exact Or.inl ⟨_, rfl⟩
  obtain ⟨e, he⟩ | ⟨session, ⟨q, ip⟩, r', hs, hend, hpeers, heff, he⟩ := routeGameplayDatagram_cases o r sessionId p now
  · rw [he]; exact Or.inl ⟨e, rfl⟩
  · have hlt : now < session.expiresAt := by
      cases heff with
      | play hs' hlt _ =>
        rw [hs] at hs'
        cases hs'
        exact hlt
    rw [he]; exact Or.inr ⟨session, q, ip, r', hs, hlt, hend, hpeers, heff, rfl⟩

end RoomRouter

section

variable {s : AppState} {o : WalkOrder} {relayPort : UInt16} {source : SocketAddr} {packet : List UInt8}
  {p : PeerId} {peer : PeerState} {envelope : RelayEnvelope} {limiterNow now : Instant}

open RoomRouter in
/-- A message of a registered peer is refused and changes nothing, or it is routed. -/
theorem route_cases (o : WalkOrder) (relayPort : UInt16) (h : s.router.WF) (hp : s.router.peers[p]? = some peer)
    (envelope : RelayEnvelope) (now : Instant) :
    (∃ f, NotDuplicate f ∧ route o relayPort s p envelope now = (.error f, s)) ∨
      ∃ out r', Routed o relayPort s.router p peer envelope now out r' ∧
        route o relayPort s p envelope now = (.ok out, { s with router := r' }) := by
  have hip : ∀ {r' : RoomRouter} {q : PeerId} {w : PeerState}, r'.peers = s.router.peers → s.router.peers[q]? = some w →
      r'.peerVirtualIp q = some w.virtualIp := by
    intro r' q w e hw
    rw [peerVirtualIp, e, hw]
    rfl
  have hrefused : ∀ {e : RelayError}, ingressOf s.router p now envelope.message = .error e →
      (∀ n, e ≠ .duplicateSequence n) → ∃ f, NotDuplicate f ∧ route o relayPort s p envelope now = (.error f, s) := by
    intro e hin he
    exact ⟨_, notDuplicate_relay he, by rw [route, hin]⟩
  cases hmsg : envelope.message with
  | discoveryRequest requestId port payload =>
    have hin : ingressOf s.router p now envelope.message = .ok (.discovery p requestId port payload now) := by
      rw [hmsg]; rfl
    obtain ⟨e, he⟩ | ⟨room, r', hr, hpeers, heff, he⟩ :=
      dispatch_request o hp requestId port payload now
    · exact Or.inl ⟨_, notDuplicate_router _, by rw [route, hin]; dsimp only; rw [he]; rfl⟩
    · refine Or.inr ⟨_, r', .request hmsg hr heff, ?_⟩
      rw [route, hin]
      dsimp only
      rw [he]
      simp only [Outcome.ok, actionToDatagrams, hip hpeers hp]
      rfl
  | discoveryResponse requestId hostId port payload =>
    cases hh : s.router.hosts[hostId]? with
    | none =>
      refine Or.inl (hrefused (e := .router (.hostNotFound hostId)) ?_ (by simp))
      simp only [hmsg, ingressOf, hostSnapshot, hh]
    | some host =>
      by_cases hown : host.peerId = p
      · have hin : ingressOf s.router p now envelope.message =
            .ok (.discoveryResponse hostId requestId port payload now) := by
          simp only [hmsg, ingressOf, hostSnapshot, hh, hown, ne_eq, not_true_eq_false, if_false]
        obtain ⟨e, he⟩ | ⟨discovery, hd, hdlt, hhlt, hroom, he⟩ :=
          dispatch_response o hh requestId port payload now
        · exact Or.inl ⟨_, notDuplicate_router _, by rw [route, hin]; dsimp only; rw [he]; rfl⟩
        · obtain ⟨client, hc, -⟩ := h.discoveryClient requestId discovery hd
          refine Or.inr ⟨_, s.router, .response hmsg hh hown hhlt hd hdlt hroom hc, ?_⟩
          rw [route, hin]
          dsimp only
          rw [he]
          simp only [Outcome.ok, actionToDatagrams, hip rfl hc]
          rfl
      · refine Or.inl (hrefused (e := .sourcePeerMismatch hostId p) ?_ (by simp))
        simp only [hmsg, ingressOf, hostSnapshot, hh, ne_eq, hown, not_false_eq_true, if_true]
  | gameplayPacket sessionId port payload =>
    have hin : ingressOf s.router p now envelope.message = .ok (.gameplay sessionId p port payload now) := by
      rw [hmsg]; rfl
    obtain ⟨e, he⟩ | ⟨session, q, ip, r', hs, hlt, hend, hpeers, heff, he⟩ :=
      dispatch_gameplay o s.router sessionId p port payload now
    · exact Or.inl ⟨_, notDuplicate_router _, by rw [route, hin]; dsimp only; rw [he]; rfl⟩
    · refine Or.inr ⟨_, r', .gameplay hmsg hs hlt hend heff, ?_⟩
      rw [route, hin]
      dsimp only
      rw [he]
      simp only [Outcome.ok, actionToDatagrams, hip hpeers hp]
      rfl
  | _ =>
    exact Or.inl (hrefused (e := .invalidPacket "server received an outbound relay envelope")
      (by rw [hmsg]; rfl) (by simp))

variable {r' : RoomRouter} {ip : VirtualIp} {roomId : RoomId}

/-- What stays within a room concerns registered peers, and their addresses are found. -/
theorem actionToDatagrams_ok (relayPort : UInt16) {action : RelayAction} (m : RelayEnvelopeMeta) (h : s.router.WF)
    (hpeers : r'.peers = s.router.peers) (hp : s.router.peers[p]? = some peer)
    (ha : action.Within s.router roomId p ip) : ∃ out, actionToDatagrams relayPort r' action m = .ok out := by
  have hip : ∀ {q : PeerId} {w : PeerState}, s.router.peers[q]? = some w → r'.peerVirtualIp q = some w.virtualIp := by
    intro q w hw
    rw [RoomRouter.peerVirtualIp, hpeers, hw]
    rfl
  cases action with
  | discoveryFanout requestId source port targets payload =>
    rcases ha with ⟨rfl, -⟩
    simp [actionToDatagrams, hip hp]
  | discoveryUnicast requestId destination source port payload =>
    rcases ha with ⟨rfl, destinationIp, hs⟩
    rcases h.seat_iff.1 hs with ⟨w, hw, -⟩
    simp [actionToDatagrams, hip hw]
  | gameplayUnicast route port payload =>
    rcases ha with ⟨rfl, -⟩
    simp [actionToDatagrams, hip hp]

/-- What is dispatched is sent. -/
theorem route_dispatched (relayPort : UInt16) (h : s.router.WF) (hp : s.router.peers[p]? = some peer)
    {ingress : RelayIngress} {action : RelayAction} (hin : ingressOf s.router p now envelope.message = .ok ingress)
    (hd : RoomRouter.dispatch o s.router ingress = (.ok action, r')) :
    ∃ out, actionToDatagrams relayPort r' action envelope.meta = .ok out ∧
      route o relayPort s p envelope now = (.ok out, { s with router := r' }) := by
  rcases RoomRouter.dispatch_within h hp (ingressOf_by hin) hd with ⟨hpeers, hwithin⟩
  rcases actionToDatagrams_ok relayPort envelope.meta h hpeers hp hwithin with ⟨out, hout⟩
  refine ⟨out, hout, ?_⟩
  unfold route
  rw [hin]
  dsimp only
  rw [hd]
  dsimp only
  rw [hout]
  rfl

end

/-! ## Handling -/

/-- The ways `handle_datagram` deals with a datagram. -/
inductive Handles (o : WalkOrder) (relayPort : UInt16) (s : AppState) (source : SocketAddr) (packet : List UInt8)
    (limiterNow now : Instant) : Handled → Prop
  | refused {f limiter} : NotDuplicate f → (∀ p peer envelope, ¬ Passes s source packet limiterNow p peer envelope) →
      Handles o relayPort s source packet limiterNow now (.error f, { s with udpRateLimiter := limiter })
  | answered {p peer envelope requestId} : Passes s source packet limiterNow p peer envelope →
      envelope.message = .relayProbe requestId →
      Handles o relayPort s source packet limiterNow now
        (.ok [{ destination := source, message := .relayProbeAck requestId, «meta» := envelope.meta }],
          s.hearing peer.virtualIp limiterNow p now)
  | duplicate {p peer envelope} : Passes s source packet limiterNow p peer envelope →
      (∀ requestId, envelope.message ≠ .relayProbe requestId) →
      s.sequenceTracker.recordSequence p envelope.meta.sequence = (.duplicate, s.sequenceTracker) →
      Handles o relayPort s source packet limiterNow now
        (.error (.error (.duplicateSequence envelope.meta.sequence)), s.hearing peer.virtualIp limiterNow p now)
  | failed {p peer envelope f disposition sequenceTracker} : Passes s source packet limiterNow p peer envelope →
      (∀ requestId, envelope.message ≠ .relayProbe requestId) →
      s.sequenceTracker.recordSequence p envelope.meta.sequence = (disposition, sequenceTracker) →
      disposition ≠ .duplicate → NotDuplicate f →
      Handles o relayPort s source packet limiterNow now
        (.error f, { s.hearing peer.virtualIp limiterNow p now with sequenceTracker })
  | routed {p peer envelope disposition sequenceTracker out r'} : Passes s source packet limiterNow p peer envelope →
      (∀ requestId, envelope.message ≠ .relayProbe requestId) →
      s.sequenceTracker.recordSequence p envelope.meta.sequence = (disposition, sequenceTracker) →
      disposition ≠ .duplicate →
      Routed o relayPort (s.router.hearing p now) p { peer with lastSeen := now } envelope now out r' →
      Handles o relayPort s source packet limiterNow now
        (.ok out, { s.hearing peer.virtualIp limiterNow p now with sequenceTracker, router := r' })

section

variable {s : AppState} {source : SocketAddr} {packet : List UInt8} {p : PeerId} {peer : PeerState}
  {envelope : RelayEnvelope} {limiterNow : Instant}

theorem recordSequence_duplicate {tracker tracker' : SequenceTracker} {n : UInt64}
    (h : tracker.recordSequence p n = (.duplicate, tracker')) : tracker' = tracker ∧ tracker.lastSeen[p]? = some n := by
  unfold SequenceTracker.recordSequence at h
  split at h
  · cases h
  split at h
  · cases h
  rename_i hprev
  split at h
  · rename_i e
    cases h
    exact ⟨rfl, e ▸ hprev⟩
  split at h <;> cases h

/-- A peer that the address belongs to can get past the gate with no other sender and no other message. -/
theorem Passes.sender (h : s.router.WF) {q : PeerId} {peer' : PeerState} {envelope' : RelayEnvelope}
    (hq : s.router.peers[q]? = some peer') (hs : source.ip = .v4 peer'.virtualIp.address)
    (hdec : RelayEnvelope.decode packet = .ok envelope') (hp : Passes s source packet limiterNow p peer envelope) :
    p = q ∧ peer = peer' ∧ envelope = envelope' := by
  have he := hp.decoded.symm.trans hdec
  have hs := hp.source.symm.trans hs
  cases he
  have hip : peer.virtualIp = peer'.virtualIp := by
    cases hp' : peer.virtualIp
    cases hq' : peer'.virtualIp
    rw [hp', hq'] at hs
    cases hs
    rfl
  obtain rfl := h.addresses.unique hp.registered hq hip
  have hr := hp.registered.symm.trans hq
  cases hr
  exact ⟨rfl, rfl, rfl⟩

/-- `handle_datagram` for a message other than a probe that gets past the checks of its sender. -/
theorem handleMessage_handles (o : WalkOrder) (relayPort : UInt16) (h : s.router.WF) (now : Instant)
    (hpass : Passes s source packet limiterNow p peer envelope)
    (hmsg : ∀ requestId, envelope.message ≠ .relayProbe requestId) :
    Handles o relayPort s source packet limiterNow now
      (handleMessage o relayPort
        { s with udpRateLimiter := (s.udpRateLimiter.allow peer.virtualIp.address.toString limiterNow).2 }
        p envelope now) := by
  unfold handleMessage
  rw [RoomRouter.markPeerSeen_connected hpass.registered hpass.connected]
  dsimp only [Outcome.ok]
  cases hrec : s.sequenceTracker.recordSequence p envelope.meta.sequence with
  | mk disposition tracker =>
    by_cases hdup : disposition = .duplicate
    · subst hdup
      obtain ⟨rfl, -⟩ := recordSequence_duplicate hrec
      exact .duplicate hpass hmsg hrec
    · have h' : (s.router.hearing p now).WF := h.hearing p now
      have hp' : (s.router.hearing p now).peers[p]? = _ := RoomRouter.hearing_peer hpass.registered
      let s' : AppState := { s.hearing peer.virtualIp limiterNow p now with sequenceTracker := tracker }
      have hroute : ∀ x, x = route o relayPort s' p envelope now →
          Handles o relayPort s source packet limiterNow now x := by
        rintro x rfl
        obtain ⟨f, hf, he⟩ | ⟨out, r', hr, he⟩ := route_cases (s := s') o relayPort h' hp' envelope now
        · rw [he]; exact .failed hpass hmsg hrec hdup hf
        · rw [he]; exact .routed hpass hmsg hrec hdup hr
      cases disposition with
      | duplicate => exact absurd rfl hdup
      | _ => exact hroute _ rfl

/-- `handle_datagram` from the lookup of the sender on, once the rate limiter has let the datagram through. -/
theorem handleEnvelope_handles (o : WalkOrder) (relayPort : UInt16) (h : s.router.WF) (limiterNow now : Instant)
    {ip : Ipv4Addr} (hdec : RelayEnvelope.decode packet = .ok envelope) (hsource : source.ip = .v4 ip)
    (hallow : (s.udpRateLimiter.allow ip.toString limiterNow).1 = true) :
    Handles o relayPort s source packet limiterNow now (handleEnvelope o relayPort
      { s with udpRateLimiter := (s.udpRateLimiter.allow ip.toString limiterNow).2 } source ip envelope now) := by
  unfold handleEnvelope
  dsimp only
  cases hlook : s.router.peerForVirtualIp ⟨ip⟩ with
  | none =>
    refine .refused (notDuplicate_relay (by simp)) fun p peer envelope hp => ?_
    have hip : peer.virtualIp = ⟨ip⟩ := by
      have := hp.source.symm.trans hsource
      cases hv : peer.virtualIp
      rw [hv] at this
      cases this
      rfl
    rw [show s.router.peerForVirtualIp ⟨ip⟩ = some p from (h.addresses _ p).2 ⟨peer, hp.registered, hip⟩] at hlook
    cases hlook
  | some p =>
    obtain ⟨peer, hp, hip⟩ := (h.addresses ⟨ip⟩ p).1 hlook
    have hsource' : source.ip = .v4 peer.virtualIp.address := by rw [hip]; exact hsource
    -- a datagram that would get past the gate is this one, from this peer
    have hno : (peer.disconnectedAt ≠ none ∨ ¬ (envelope.meta.connectionEpoch = 0 ∨
        envelope.meta.connectionEpoch = peer.connectionEpoch)) → ∀ q peer' envelope',
        ¬ Passes s source packet limiterNow q peer' envelope' := by
      intro hbad q peer' envelope' hpass
      obtain ⟨rfl, rfl, rfl⟩ := hpass.sender h hp hsource' hdec
      exact hbad.elim (fun hd => hd hpass.connected) fun he => he hpass.epoch
    have hepoch : s.router.peerConnectionEpoch p = .ok peer.connectionEpoch := by
      unfold RoomRouter.peerConnectionEpoch; rw [hp]
    dsimp only
    rw [hepoch]
    dsimp only
    split
    · rename_i hstale
      exact .refused (notDuplicate_relay (by simp)) (hno (Or.inr (by tauto)))
    rename_i hfresh
    by_cases hd : peer.disconnectedAt = none
    swap
    · have hmark : s.router.markPeerSeen p now = .err (.peerDisconnected p) s.router := by
        unfold RoomRouter.markPeerSeen
        rw [hp]
        simp only [Option.isSome_iff_ne_none.2 hd, if_true]
      split
      · unfold handleProbe
        rw [hmark]
        exact .refused (notDuplicate_router _) (hno (Or.inl hd))
      · unfold handleMessage
        rw [hmark]
        exact .refused (notDuplicate_router _) (hno (Or.inl hd))
    have hpass : Passes s source packet limiterNow p peer envelope :=
      ⟨hdec, hsource', by rw [hip]; exact hallow, hp, hd, by tauto⟩
    have hhearing : s.hearing peer.virtualIp limiterNow p now =
        { s with
          udpRateLimiter := (s.udpRateLimiter.allow ip.toString limiterNow).2
          router := s.router.hearing p now } := by rw [AppState.hearing, hip]
    split
    · rename_i requestId hmsg
      unfold handleProbe
      rw [RoomRouter.markPeerSeen_connected hp hd]
      have hans : Handles o relayPort s source packet limiterNow now _ := .answered hpass hmsg
      rwa [hhearing] at hans
    · rename_i hmsg
      have := handleMessage_handles o relayPort h now hpass fun requestId e => hmsg requestId e
      rwa [hip] at this

theorem handleDatagram_handles (o : WalkOrder) (relayPort : UInt16) (h : s.router.WF) (source : SocketAddr)
    (packet : List UInt8) (limiterNow now : Instant) : Handles o relayPort s source packet limiterNow now
      (handleDatagram o relayPort s source packet limiterNow now) := by
  unfold handleDatagram
  cases hdec : RelayEnvelope.decode packet with
  | error e =>
    refine .refused ?_ fun p peer envelope hp => ?_
    · intro n
      cases e <;> simp [Fault.map]
    · rw [hp.decoded] at hdec; cases hdec
  | ok envelope =>
    dsimp only
    cases hip : source.ip with
    | v6 octets =>
      refine .refused (notDuplicate_relay (by simp)) fun p peer envelope hp => ?_
      rw [hp.source] at hip; cases hip
    | v4 ip =>
      dsimp only
      split
      · rename_i limiter hallow
        refine .refused (notDuplicate_relay (by simp)) fun p peer envelope hp => ?_
        have hsource := hp.source.symm.trans hip
        have hallowed := hp.allowed
        rw [IpAddr.v4.inj hsource, hallow] at hallowed
        cases hallowed
      · rename_i limiter hallow
        have := handleEnvelope_handles o relayPort h limiterNow now hdec hip (by rw [hallow])
        rwa [hallow] at this

/-- A message that gets past the gate and counts as new is routed, after the sign of life of its sender. -/
theorem Passes.routes (o : WalkOrder) (relayPort : UInt16) (now : Instant) (h : s.router.WF)
    (hpass : Passes s source packet limiterNow p peer envelope)
    (hmsg : ∀ requestId, envelope.message ≠ .relayProbe requestId) {disposition : SequenceDisposition}
    {tracker : SequenceTracker}
    (hrec : s.sequenceTracker.recordSequence p envelope.meta.sequence = (disposition, tracker))
    (hnew : disposition ≠ .duplicate) :
    handleDatagram o relayPort s source packet limiterNow now =
      route o relayPort { s.hearing peer.virtualIp limiterNow p now with sequenceTracker := tracker } p
        envelope now := by
  obtain ⟨limiter, hallow⟩ : ∃ limiter,
      s.udpRateLimiter.allow peer.virtualIp.address.toString limiterNow = (true, limiter) :=
    ⟨_, Prod.ext hpass.allowed rfl⟩
  have hlook : s.router.peerForVirtualIp ⟨peer.virtualIp.address⟩ = some p :=
    (h.addresses _ p).2 ⟨peer, hpass.registered, rfl⟩
  have hepoch : s.router.peerConnectionEpoch p = .ok peer.connectionEpoch := by
    unfold RoomRouter.peerConnectionEpoch; rw [hpass.registered]
  have hmessage : handleMessage o relayPort { s with udpRateLimiter := limiter } p envelope now =
      route o relayPort { s.hearing peer.virtualIp limiterNow p now with sequenceTracker := tracker } p
        envelope now := by
    unfold handleMessage AppState.hearing
    rw [RoomRouter.markPeerSeen_connected hpass.registered hpass.connected]
    simp only [Outcome.ok, hrec, hallow]
  rw [← hmessage]
  unfold handleDatagram
  rw [hpass.decoded]
  dsimp only
  rw [hpass.source]
  dsimp only
  rw [hallow]
  dsimp only
  unfold handleEnvelope
  dsimp only
  rw [hlook]
  dsimp only
  rw [hepoch]
  dsimp only
  rw [if_neg (by have := hpass.epoch; tauto)]
  split
  · rename_i requestId e
    exact absurd e (hmsg requestId)
  · rfl

end

end Civ6LanBridge

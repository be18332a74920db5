/-
Datagrams the server rejects: they leave at most a sign of life of their sender, and those that are
turned away before the server takes note of the sender leave nothing.
-/
import Civ6LanBridge.Server.Gate

namespace Civ6LanBridge

open Std FinMap Bytes

/-! ## Errors of the gate -/

/-- The errors of a datagram that is turned away before the server takes note of its sender: it is no
envelope, or not from an IPv4 address, too many come from the address, nobody has the address, it is of
another epoch, or the peer is suspended. -/
def RelayError.AtGate : RelayError → Prop
  | .codec _ | .invalidSource _ | .rateLimited | .unknownSource _ | .staleConnectionEpoch _ _ => True
  | .router (.peerDisconnected _) => True
  | _ => False

@[simp] theorem RelayError.atGate_router {e : RouterError} :
    (RelayError.router e).AtGate ↔ ∃ p, e = .peerDisconnected p := by
  cases e <;> simp [RelayError.AtGate]

namespace RoomRouter

variable {r : RoomRouter} {o : WalkOrder} {roomId : RoomId} {p : PeerId} {now : Instant} {e : RouterError}

theorem memberState_error (h : r.memberState roomId p = .error e) (q : PeerId) : e ≠ .peerDisconnected q := by
  rintro rfl
  unfold memberState at h
  split at h
  · cases h
  split at h
  · cases h
  split at h
  · cases h
  split at h <;> cases h

theorem beginDiscovery_error {requestId : DiscoveryRequestId} {port : Civ6UdpPort}
    (h : (beginDiscovery o r roomId p requestId port now).1 = .error (.error e)) (q : PeerId) :
    e ≠ .peerDisconnected q := by
  have hfan : ∀ {r : RoomRouter}, (fanOut o r roomId now).1 ≠ .error (.error e) := by
    intro r hf
    unfold fanOut at hf
    split at hf <;> cases hf
  unfold beginDiscovery at h
  split at h
  · cases h; simp
  split at h
  · rename_i e' he
    cases h
    exact memberState_error he q
  split at h
  · split at h
    · cases h; simp
    · exact absurd h hfan
  · exact absurd h hfan

theorem routeDiscoveryResponse_error {requestId : DiscoveryRequestId} {hostId : HostSessionId}
    (h : r.routeDiscoveryResponse requestId hostId now = .error e) (q : PeerId) : e ≠ .peerDisconnected q := by
  rintro rfl
  unfold routeDiscoveryResponse at h
  split at h
  · cases h
  split at h
  · cases h
  split at h
  · cases h
  split at h
  · cases h
  split at h <;> cases h

theorem routeGameplayDatagram_error {sessionId : GameplaySessionId}
    (h : (r.routeGameplayDatagram sessionId p now).1 = .error (.error e)) (q : PeerId) : e ≠ .peerDisconnected q := by
  rintro rfl
  unfold routeGameplayDatagram at h
  split at h
  · cases h
  split at h
  · cases h
  split at h <;> cases h

theorem validatePayload_error {payload : List UInt8} (h : r.validatePayload payload = .error e) (q : PeerId) :
    e ≠ .peerDisconnected q := by
  rintro rfl
  unfold validatePayload at h
  split at h <;> cases h

/-- A dispatch does not look at whether a peer is suspended. -/
theorem dispatch_error {ingress : RelayIngress} (h : (dispatch o r ingress).1 = .error (.error e)) (q : PeerId) :
    e ≠ .peerDisconnected q := by
  cases ingress with
  | discovery source requestId port payload t =>
    simp only [dispatch] at h
    split at h
    · rename_i he
      cases h
      exact validatePayload_error he q
    split at h
    · cases h; simp
    · exact beginDiscovery_error (Outcome.map_error.1 h) q
  | discoveryResponse hostId requestId port payload t =>
    simp only [dispatch] at h
    split at h
    · rename_i he
      cases h
      exact validatePayload_error he q
    split at h
    · cases h; simp
    split at h
    · rename_i he
      cases h
      exact routeDiscoveryResponse_error he q
    split at h
    · cases h; simp
    · cases h
  | gameplay sessionId source port payload t =>
    simp only [dispatch] at h
    split at h
    · rename_i he
      cases h
      exact validatePayload_error he q
    split at h
    · cases h; simp
    · exact routeGameplayDatagram_error (Outcome.map_error.1 h) q

end RoomRouter

/-! ## Beyond the gate -/

section

variable {s : AppState} {o : WalkOrder} {relayPort : UInt16} {p : PeerId} {peer : PeerState} {envelope : RelayEnvelope}
  {now : Instant} {e : RelayError}

theorem ingressOf_error (h : ingressOf s.router p now envelope.message = .error e) : ¬ e.AtGate := by
  unfold ingressOf at h
  split at h
  · cases h
  · split at h
    · rename_i e' he
      cases h
      unfold RoomRouter.hostSnapshot at he
      split at he <;> cases he
      simp
    · split at h
      · cases h; simp [RelayError.AtGate]
      · cases h
  · cases h
  all_goals cases h; simp [RelayError.AtGate]

/-- Of a registered peer no message is rejected with an error of the gate. -/
theorem route_error (h : s.router.WF) (hp : s.router.peers[p]? = some peer)
    (he : (route o relayPort s p envelope now).1 = .error (.error e)) : ¬ e.AtGate := by
  unfold route at he
  split at he
  · rename_i e' hin
    cases he
    exact ingressOf_error hin
  rename_i ingress hin
  split at he
  · rename_i f router hd
    cases f with
    | panic => cases he
    | error e' =>
      cases he
      rw [RelayError.atGate_router]
      rintro ⟨q, rfl⟩
      exact RoomRouter.dispatch_error (show (RoomRouter.dispatch o s.router ingress).1 = _ by rw [hd]) q rfl
  · rename_i action router hd
    rcases route_dispatched relayPort h hp hin hd with ⟨out, hout, -⟩
    dsimp only at he
    rw [hout] at he
    cases he

end

/-! ## Rejected datagrams -/

variable {config : RouterConfig} {s : AppState} {o : WalkOrder} {relayPort : UInt16} {source : SocketAddr}
  {packet : List UInt8} {limiterNow now : Instant} {f : Fault RelayError}

/-- A datagram that is rejected leaves the router as it is, but for the time its sender was last heard. An
error of the gate leaves the router and the sequence numbers as they are. -/
theorem rejected_changes_nothing (h : AppState.Reachable config s)
    (hrej : (handleDatagram o relayPort s source packet limiterNow now).1 = .error f) :
    let s' := (handleDatagram o relayPort s source packet limiterNow now).2
    (s'.router = s.router ∨ ∃ ip p, source.ip = .v4 ip ∧ s.router.peerForVirtualIp ⟨ip⟩ = some p ∧
        s'.router = { s.router with peers := s.router.peers.modify p fun peer => { peer with lastSeen := now } }) ∧
      ∀ e, f = .error e → e.AtGate → s'.router = s.router ∧ s'.sequenceTracker = s.sequenceTracker := by
  have hw := h.router.wf
  have hh := handleDatagram_handles o relayPort hw source packet limiterNow now
  have hlook : ∀ {p peer envelope}, Passes s source packet limiterNow p peer envelope →
      s.router.peerForVirtualIp ⟨peer.virtualIp.address⟩ = some p :=
    fun hp => (hw.addresses _ _).2 ⟨_, hp.registered, rfl⟩
  generalize hx : handleDatagram o relayPort s source packet limiterNow now = x at hh hrej
  cases hh with
  | refused => exact ⟨Or.inl rfl, fun _ _ _ => ⟨rfl, rfl⟩⟩
  | answered => cases hrej
  | routed => cases hrej
  | duplicate hp =>
    refine ⟨Or.inr ⟨_, _, hp.source, hlook hp, rfl⟩, fun e he hg => ?_⟩
    cases hrej
    cases he
    exact absurd hg id
  | failed hp hmsg hrec hnew =>
    refine ⟨Or.inr ⟨_, _, hp.source, hlook hp, rfl⟩, fun e he hg => ?_⟩
    -- past the gate no message fails with an error of the gate
    cases hrej
    subst he
    have hroute := hp.routes o relayPort now hw hmsg hrec hnew
    rw [hx] at hroute
    exact absurd hg (route_error (s := { s.hearing _ limiterNow _ now with sequenceTracker := _ }) (hw.hearing _ now)
      (RoomRouter.hearing_peer hp.registered) (by rw [← hroute]))

namespace RoomRouter.Example

/-- The request of the peer, from an address that nobody has. -/
theorem strange_request_changes_nothing :
    (handleDatagram .sorted 32000 server ⟨.v4 ⟨10, 240, 0, 99⟩, 32000⟩ request 0 0).2.router = server.router ∧
      (handleDatagram .sorted 32000 server ⟨.v4 ⟨10, 240, 0, 99⟩, 32000⟩ request 0 0).2.sequenceTracker =
        server.sequenceTracker :=
  (rejected_changes_nothing server_reachable
    (show (handleDatagram .sorted 32000 server ⟨.v4 ⟨10, 240, 0, 99⟩, 32000⟩ request 0 0).1 =
      .error (.error (.unknownSource ⟨10, 240, 0, 99⟩)) by decide +kernel)).2 _ rfl trivial

end RoomRouter.Example

end Civ6LanBridge

/-
Peers that have been suspended. Nothing gets in from their address and nobody takes their place until
they resume, leave or are swept away; and nothing goes out to them, as long as none of them registers
as a host or selects one while suspended.
-/
import Civ6LanBridge.Server.Lease

namespace Civ6LanBridge

open Std FinMap Past AppState

/-! ## How a suspension ends -/

section

variable (config : RouterConfig) (p : PeerId) (peer : PeerState) (since : Instant) (m : Move AppState Event)

/-- The peer resumes in its room, within its grace period, and keeps its room and its address. -/
def Resumes : Prop :=
  ∃ o now connectionEpoch, m.event = .control o (.resumePeer peer.roomId p now) ∧ now < since + config.peerGraceTtl ∧
    m.after.router.peers[p]? = some { peer with connectionEpoch, disconnectedAt := none, lastSeen := now }

/-- The peer leaves its room. -/
def Leaves : Prop := ∃ o, m.event = .control o (.leaveRoom peer.roomId p) ∧ m.after.router.peers[p]? = none

/-- A sweep after the grace period removes the peer and frees its address. -/
def SweptAway : Prop :=
  ∃ o now, m.event = .control o (.expire now) ∧ since + config.peerGraceTtl ≤ now ∧ m.after.router.peers[p]? = none ∧
    m.after.router.isVirtualIpAvailable peer.virtualIp = true

end

section

variable {config : RouterConfig} {s s' : AppState} {e : Event} {h : Moves} {p : PeerId} {peer : PeerState}
  {since : Instant}

/-- A suspended peer does not get past the gate, and so a datagram from its address changes nothing. -/
theorem suspended_gate (hw : s.router.WF) (hp : s.router.peers[p]? = some peer) (hd : peer.disconnectedAt ≠ none)
    (o : WalkOrder) (relayPort : UInt16) {source : SocketAddr} (hsource : source.ip = .v4 peer.virtualIp.address)
    (packet : List UInt8) (limiterNow now : Instant) :
    (∃ f, (handleDatagram o relayPort s source packet limiterNow now).1 = .error f) ∧
      (handleDatagram o relayPort s source packet limiterNow now).2.router = s.router ∧
      (handleDatagram o relayPort s source packet limiterNow now).2.sequenceTracker = s.sequenceTracker := by
  have hno : ∀ {q peer' envelope}, ¬ Passes s source packet limiterNow q peer' envelope := by
    intro q peer' envelope hpass
    obtain ⟨rfl, rfl, -⟩ := hpass.sender hw hp hsource hpass.decoded
    exact hd hpass.connected
  have hh := handleDatagram_handles o relayPort hw source packet limiterNow now
  generalize handleDatagram o relayPort s source packet limiterNow now = x at hh ⊢
  cases hh with
  | refused => exact ⟨⟨_, rfl⟩, rfl, rfl⟩
  | answered hpass => exact absurd hpass hno
  | duplicate hpass => exact absurd hpass hno
  | failed hpass => exact absurd hpass hno
  | routed hpass => exact absurd hpass hno

/-- Nobody enters a room in the place of a registered peer. -/
theorem enters_taken (hw : s.router.WF) (hp : s.router.peers[p]? = some peer) (o : WalkOrder) {op : RouterOp}
    {roomId : RoomId} {q : PeerId} {ip : VirtualIp} {now : Instant} (hop : op.enters = some (roomId, q, ip, now))
    (htaken : q = p ∨ ip = peer.virtualIp) : ∃ e, op.exec o s.router = .err e s.router := by
  rcases RoomRouter.exec_does o hw op with he | ⟨r', -, heff⟩
  · exact he
  exfalso
  have hjoin : ∀ {r'}, ¬ Effect o s.router (.joinRoom roomId q ip now) r' := by
    rintro r' (_ | _)
    rename_i hq hip
    rcases htaken with rfl | rfl
    · rw [hp] at hq
      cases hq
    · rw [(hw.addresses _ p).2 ⟨peer, hp, rfl⟩] at hip
      cases hip
  cases op with
  | joinRoom => cases hop; exact hjoin heff
  | restorePeer => cases hop; cases heff; exact hjoin ‹_›
  | _ => cases hop

/-- A sweep that removes a peer frees its address. -/
theorem swept_address (hw : s.router.WF) (hp : s.router.peers[p]? = some peer) (o : WalkOrder) {now : Instant}
    (hgone : (RoomRouter.expire o s.router now).2.peers[p]? = none) (hw' : (RoomRouter.expire o s.router now).2.WF) :
    (RoomRouter.expire o s.router now).2.isVirtualIpAvailable peer.virtualIp = true := by
  unfold RoomRouter.isVirtualIpAvailable
  rw [Bool.not_eq_true', contains_eq_false]
  refine (hw'.addresses.none_iff _).2 fun q peer' hq e => ?_
  rw [RoomRouter.expire_peers o hw] at hq
  obtain ⟨peer₀, hq₀, hif⟩ := Option.bind_eq_some_iff.1 hq
  split at hif
  · cases hif
  · cases hif
    rw [PeerState.afterSilence_virtualIp] at e
    obtain rfl := hw.addresses.unique hq₀ hp e
    rw [RoomRouter.expire_peers o hw, hq] at hgone
    cases hgone

/-- One event leaves a suspended peer as it is or ends its suspension in one of the three ways. -/
theorem suspended_step (hw : s.router.WF) (hw' : s'.router.WF) (he : Happens s e s')
    (hp : s.router.peers[p]? = some peer) (hd : peer.disconnectedAt = some since) :
    let m : Move AppState Event := { before := s, event := e, after := s' }
    s'.router.peers[p]? = some peer ∨ Resumes s.router.config p peer since m ∨ Leaves p peer m ∨
      SweptAway s.router.config p peer since m := by
  intro m
  rcases happening_peer hw (he.happening hw) p with e' | ⟨peer', now, hp', hc, -⟩ | ⟨o, op, rfl, -, hok, hchange⟩
  · exact Or.inl (e'.trans hp)
  · rw [hp] at hp'
    cases hp'
    rw [hd] at hc
    cases hc
  rw [hp] at hchange
  generalize hy : s'.router.peers[p]? = y at hchange
  cases hchange with
  | same => exact Or.inl rfl
  | seen hc => rw [hd] at hc; cases hc
  | left hop => subst hop; exact Or.inr (Or.inr (Or.inl ⟨o, rfl, hy⟩))
  | @resumed _ now hop hgrace =>
    subst hop
    refine Or.inr (Or.inl ⟨o, now, max (saturatingAdd peer.connectionEpoch 1) 1, rfl, ?_, ?_⟩)
    · simp only [RoomRouter.graceOver, hd, Option.any_some, decide_eq_false_iff_not, Nat.not_le] at hgrace
      exact hgrace
    · rw [show m.after.router.peers[p]? = _ from hy, RoomRouter.resumed, hd]
  | @swept _ now hop =>
    subst hop
    by_cases hl : peer.Lapses s.router.config now
    · rw [if_pos hl] at hy
      have hle : since + s.router.config.peerGraceTtl ≤ now := by
        rcases PeerState.lapses_iff.1 hl with ⟨t, ht, hle⟩ | ⟨hnone, -⟩
        · rw [hd] at ht
          cases ht
          exact hle
        · rw [hd] at hnone
          cases hnone
      refine Or.inr (Or.inr (Or.inr ⟨o, now, rfl, hle, hy, ?_⟩))
      obtain ⟨-, rfl⟩ := he
      exact swept_address hw hp o hy hw'
    · rw [if_neg hl, PeerState.afterSilence, RoomRouter.silent, hd]
      exact Or.inl rfl

/-- A suspended peer is cut off and keeps its place: datagrams from its address are refused and change
nothing, nobody joins under its identifier or address, and its entry stays as it is until it resumes
in its room in time, leaves, or is swept away after its grace period. -/
theorem suspension (hr : Run (Starts config) Happens h s) (hp : s.router.peers[p]? = some peer)
    (hd : peer.disconnectedAt = some since) :
    (∀ (o : WalkOrder) (relayPort : UInt16) (source : SocketAddr) (packet : List UInt8) (limiterNow now : Instant),
      source.ip = .v4 peer.virtualIp.address →
        (∃ f, (handleDatagram o relayPort s source packet limiterNow now).1 = .error f) ∧
          (handleDatagram o relayPort s source packet limiterNow now).2.router = s.router ∧
          (handleDatagram o relayPort s source packet limiterNow now).2.sequenceTracker = s.sequenceTracker) ∧
    (∀ (o : WalkOrder) (op : RouterOp) (roomId : RoomId) (q : PeerId) (ip : VirtualIp) (now : Instant),
      op.enters = some (roomId, q, ip, now) → q = p ∨ ip = peer.virtualIp → ∃ e, op.exec o s.router = .err e s.router) ∧
    ∀ (later : Moves) (s' : AppState), Run (· = s) Happens later s' → s'.router.peers[p]? = some peer ∨
      ∃ recent m old, later = recent ++ m :: old ∧ m.before.router.peers[p]? = some peer ∧
        (Resumes config p peer since m ∨ Leaves p peer m ∨ SweptAway config p peer since m) := by
  have hreach := starts_router hr
  have hw := hreach.wf
  refine ⟨fun o relayPort source packet limiterNow now hsource => ?_,
    fun o op roomId q ip now => enters_taken hw hp o, ?_⟩
  · exact suspended_gate hw hp (by rw [hd]; simp) o relayPort hsource packet limiterNow now
  intro later s' hlater
  have hreached : ∀ {later s'}, Run (· = s) Happens later s' → RoomRouter.Reachable config s'.router := by
    intro later s' hl
    exact run_router (by rintro _ rfl; exact hreach) hl
  have huntil := hlater.until (P := fun s => s.router.peers[p]? = some peer) (by rintro _ rfl; exact hp)
  rcases huntil with hp' | ⟨recent, m, old, rfl, hstep, hp', hnot⟩
  · exact Or.inl hp'
  refine Or.inr ⟨recent, m, old, rfl, hp', ?_⟩
  obtain ⟨⟨old', hold⟩, -⟩ := hlater.mem (m := m) (by simp)
  have hbefore := hreached hold
  rcases suspended_step hbefore.wf (hreached (.step hold hstep)).wf hstep hp' hd with hsame | hends
  · exact absurd hsame hnot
  · rwa [hbefore.config_eq] at hends

end

namespace RoomRouter.Example

/-- A sweep has suspended the guest and its host. -/
def suspending : List Event := .control .sorted (.expire (Duration.fromSecs 15)) :: gathering

theorem suspending_permitted : booted.Permitted suspending := ⟨⟨trivial, trivial⟩, gathering_permitted⟩

def suspendedGuest : PeerState :=
  { roomId := room, virtualIp := guestIp, lastSeen := 0, disconnectedAt := some (Duration.fromSecs 15),
    connectionEpoch := 1 }

theorem guest_suspended : (booted.final suspending).router.peers[guest]? = some suspendedGuest := by decide +kernel

end RoomRouter.Example

open RoomRouter in
/-- The guest plays no more. -/
theorem guest_cut_off : ∃ f, (handleDatagram .sorted 32000 (Example.booted.final Example.suspending)
    (Example.sender Example.guestIp) Example.packet 0 0).1 = .error f :=
  ((suspension (replay_run Example.booted_starts Example.suspending_permitted) Example.guest_suspended rfl).1
    .sorted 32000 _ _ 0 0 rfl).1

/-! ## What a suspended peer owns -/

/-- The peer owns no host session, waits for no answer and is no end of a gameplay session. -/
def RoomRouter.OwnsNothing (r : RoomRouter) (q : PeerId) : Prop :=
  (∀ (k : HostSessionId) (host : HostState), r.hosts[k]? = some host → host.peerId ≠ q) ∧
    (∀ (k : DiscoveryRequestId) (discovery : DiscoveryState), r.discoveries[k]? = some discovery →
      discovery.clientPeerId ≠ q) ∧
    ∀ (k : GameplaySessionId) (session : GameplayState), r.gameplay[k]? = some session →
      session.clientPeerId ≠ q ∧ session.hostPeerId ≠ q

/-- No suspended peer owns anything. -/
def RoomRouter.Quiet (r : RoomRouter) : Prop :=
  ∀ (q : PeerId) (peer : PeerState), r.peers[q]? = some peer → peer.disconnectedAt ≠ none → r.OwnsNothing q

/-- The operation registers the peer as a host or has it select one. -/
def RouterOp.enlists (q : PeerId) : RouterOp → Prop
  | registerHost _ peerId _ _ => peerId = q
  | selectHost _ clientPeerId _ _ _ => clientPeerId = q
  | _ => False

/-- A suspended peer registers as a host or selects one, with success. -/
def Enlists (m : Move AppState Event) : Prop :=
  ∃ o op q peer, m.event = .control o op ∧ op.enlists q ∧ (op.exec o m.before.router).1 = .ok () ∧
    m.before.router.peers[q]? = some peer ∧ peer.disconnectedAt ≠ none

section

variable {config : RouterConfig} {s s' : AppState} {e : Event} {h : Moves} {p : PeerId} {peer : PeerState}

/-- A peer that is suspended after an event was so before, or was connected before. -/
theorem suspended_before (hw : s.router.WF) (he : Happens s e s') (hp : s'.router.peers[p]? = some peer)
    (hd : peer.disconnectedAt ≠ none) :
    s.router.peers[p]? = some peer ∨ Suspends p { before := s, event := e, after := s' } := by
  rcases happening_peer hw (he.happening hw) p with e' | ⟨peer', now, hp', hc, e'⟩ | ⟨o, op, rfl, -, hok, hchange⟩
  · exact Or.inl (e' ▸ hp)
  · rw [hp] at e'
    cases e'
    exact absurd hc hd
  rw [hp] at hchange
  generalize hx : s.router.peers[p]? = x at hchange
  cases x with
  | none =>
    cases hchange
    exact absurd rfl hd
  | some peer₀ =>
    by_cases hc : peer₀.disconnectedAt = none
    · exact Or.inr ⟨peer₀, peer, hx, hc, hp, hd⟩
    left
    congr 1
    generalize hy : some peer = y at hchange
    cases hchange with
    | same => cases hy; rfl
    | left => cases hy
    | seen hn => exact absurd hn hc
    | resumed =>
      cases hy
      refine absurd ?_ hd
      unfold RoomRouter.resumed
      split <;> first | rfl | assumption
    | @swept _ now =>
      have hsame : peer₀.afterSilence s.router.config now = peer₀ := by
        rw [PeerState.afterSilence, RoomRouter.silent, Option.isNone_eq_false_iff.2 (Option.isSome_iff_ne_none.2 hc)]
        rfl
      split at hy
      · cases hy
      · rw [hsame] at hy
        cases hy
        rfl

/-- A suspended peer that no request enlists stays without anything. -/
theorem quiet_step (hw : s.router.WF) (he : Happens s e s') (hq : s.router.Quiet)
    (hm : ¬ Enlists { before := s, event := e, after := s' }) : s'.router.Quiet := by
  have hhappen := he.happening hw
  intro q peer hp hd
  rcases suspended_before hw he hp hd with hp₀ | ⟨peer₀, peer', hp₀, hc, hp', hd'⟩
  swap
  · exact happening_suspends hw hhappen hp₀ hc hp' hd'
  -- the peer was suspended before and owned nothing, and only what enlists it would change that
  obtain ⟨hhosts, hdiscoveries, hgameplay⟩ := hq q peer hp₀ hd
  refine ⟨fun k host hk hv => ?_, fun k discovery hk hv => ?_, fun k session hk => ?_⟩
  · rcases happening_host hw hhappen k with e' | ⟨op, hperf, hchange⟩
    · exact hhosts k host (e' ▸ hk) hv
    rw [hk] at hchange
    generalize hx : s.router.hosts[k]? = x at hchange
    cases hchange with
    | same => exact hhosts k host hx hv
    | renewed => exact hhosts k _ hx hv
    | registered hop =>
      subst hop
      cases hperf with
      | control hev _ hok => exact hm ⟨_, _, q, peer, hev, hv, hok, hp₀, hd⟩
  · rcases happening_discovery hw hhappen k with e' | ⟨op, hperf, hchange⟩
    · exact hdiscoveries k discovery (e' ▸ hk) hv
    rw [hk] at hchange
    generalize hx : s.router.discoveries[k]? = x at hchange
    cases hchange with
    | same => exact hdiscoveries k discovery hx hv
    | asked hop =>
      cases hperf with
      | control _ hctl => cases op <;> simp [RouterOp.asks, RouterOp.OfControl] at hop hctl
      | plays => cases hop
      | asks hb =>
        cases hop
        obtain ⟨_, _, _, _, _, _, _, _, -, hpass, -, -⟩ := hb.routed hw he (by simp)
        have hp' := hpass.registered
        obtain rfl := hv
        rw [hp₀] at hp'
        cases hp'
        exact hd hpass.connected
  · rcases happening_gameplay hw hhappen k with e' | ⟨op, hperf, hchange⟩
    · exact hgameplay k session (e' ▸ hk)
    rw [hk] at hchange
    generalize hx : s.router.gameplay[k]? = x at hchange
    cases hchange with
    | same => exact hgameplay k session hx
    | @played session₀ => exact hgameplay k session₀ hx
    | selected hop _ hhost =>
      subst hop
      refine ⟨fun hv => ?_, hhosts _ _ hhost⟩
      cases hperf with
      | control hev _ hok => exact hm ⟨_, _, q, peer, hev, hv, hok, hp₀, hd⟩

/-- A suspended peer that is enlisted owns something. -/
theorem enlists_breaks (hw : s.router.WF) (he : Happens s e s')
    (hm : Enlists { before := s, event := e, after := s' }) :
    ¬ s'.router.Quiet := by
  obtain ⟨o, op, q, peer, rfl, hop, hok, hp, hd⟩ := hm
  obtain ⟨⟨-, hfresh⟩, rfl⟩ := he
  intro hquiet
  change (op.exec o s.router).2.Quiet at hquiet
  obtain ⟨r', he, heff⟩ := RoomRouter.exec_ok o hw hok
  rw [he] at hquiet
  change r'.Quiet at hquiet
  -- the operation leaves the peer as suspended as it was
  have hp' : r'.peers[q]? = some peer := by
    have hchange := RoomRouter.effect_peer hw heff q
    rw [show s.router.peers[q]? = some peer from hp] at hchange
    generalize r'.peers[q]? = y at hchange
    cases hchange with
    | same => rfl
    | left hop' => subst hop'; exact hop.elim
    | seen hc => exact absurd hc hd
    | resumed hop' => subst hop'; exact hop.elim
    | swept hop' => subst hop'; exact hop.elim
  obtain ⟨hhosts, -, hgameplay⟩ := hquiet q peer hp' hd
  cases op with
  | registerHost roomId peerId now fresh =>
    obtain rfl : peerId = q := hop
    obtain ⟨id, host, hk, hv, -⟩ := RoomRouter.renews_row heff rfl
    exact hhosts id host hk hv
  | selectHost roomId client hostId now fresh =>
    obtain rfl : client = q := hop
    cases heff with
    | select => exact (hgameplay fresh _ ExtTreeMap.getElem?_insert_self).1 rfl
  | _ => exact hop.elim

/-- What is sent goes back to the sender of a probe, to a host, to a client that waits for an answer or to
an end of a gameplay session: while no suspended peer owns anything, nothing is sent to one. -/
theorem quiet_sends (hw : s.router.WF) (hq : s.router.Quiet) {o : WalkOrder} {relayPort : UInt16} {source : SocketAddr}
    {packet : List UInt8} {limiterNow now : Instant} {out : List OutboundDatagram}
    (hok : (handleDatagram o relayPort s source packet limiterNow now).1 = .ok out) {d : OutboundDatagram}
    (hd : d ∈ out) (hp : s.router.peers[p]? = some peer) (hsuspended : peer.disconnectedAt ≠ none) :
    d.destination.ip ≠ .v4 peer.virtualIp.address := by
  obtain ⟨hhosts, hdiscoveries, hgameplay⟩ := hq p peer hp hsuspended
  have hh := handleDatagram_handles o relayPort hw source packet limiterNow now
  generalize handleDatagram o relayPort s source packet limiterNow now = x at hh hok
  cases hh with
  | refused => cases hok
  | duplicate => cases hok
  | failed => cases hok
  | answered hpass =>
    cases hok
    rw [List.mem_singleton.1 hd]
    intro hsource
    obtain ⟨rfl, rfl, -⟩ := hpass.sender hw hp hsource hpass.decoded
    exact hsuspended hpass.connected
  | @routed sender peer₀ _ _ _ _ _ hpass _ _ _ hrouted =>
    cases hok
    cases hrouted with
    | request =>
      obtain ⟨target, ht, rfl⟩ := List.mem_map.1 hd
      obtain ⟨host, -, hhost, -, -, e⟩ := RoomRouter.mem_discoveryTargets ht
      intro hdest
      obtain ⟨owner, ho, hs⟩ := hw.hostPeer _ host hhost
      exact hhosts _ host hhost (hw.addresses.unique ho hp (by rw [hs.2, ← e]; exact relayDestination_ip hdest))
    | @response _ _ _ _ host discovery client _ _ _ _ hdisc _ _ hclient =>
      rw [List.mem_singleton.1 hd]
      intro hdest
      refine hdiscoveries _ discovery hdisc
        ((hw.hearing sender now).addresses.unique hclient ?_ (relayDestination_ip hdest))
      rw [RoomRouter.hearing_peer_ne fun e => ?_, hp]
      subst e
      rw [hpass.registered] at hp
      cases hp
      exact hsuspended hpass.connected
    | gameplay _ hk _ hend =>
      rw [List.mem_singleton.1 hd]
      intro hdest
      obtain ⟨client, hc, hcs⟩ := hw.gameplayClient _ _ hk
      obtain ⟨server, hs, hss⟩ := hw.gameplayHost _ _ hk
      rcases RoomRouter.otherEnd_some hend with ⟨-, e⟩ | ⟨-, e⟩
      · cases e
        exact (hgameplay _ _ hk).2 (hw.addresses.unique hs hp (by rw [hss.2]; exact relayDestination_ip hdest))
      · cases e
        exact (hgameplay _ _ hk).1 (hw.addresses.unique hc hp (by rw [hcs.2]; exact relayDestination_ip hdest))

/-- In a run in which no suspended peer is enlisted, no suspended peer ever owns anything, and nothing is
sent to one; and a suspended peer that is enlisted owns something at once. -/
theorem quiet_iff (hr : Run (Starts config) Happens h s) :
    ((∀ m ∈ h, m.after.router.Quiet) ↔ ∀ m ∈ h, ¬ Enlists m) ∧
      ((∀ m ∈ h, ¬ Enlists m) → s.router.Quiet ∧
        ∀ (o : WalkOrder) (relayPort : UInt16) (source : SocketAddr) (packet : List UInt8) (limiterNow now : Instant)
          (out : List OutboundDatagram), (handleDatagram o relayPort s source packet limiterNow now).1 = .ok out →
          ∀ d ∈ out, ∀ (p : PeerId) (peer : PeerState), s.router.peers[p]? = some peer → peer.disconnectedAt ≠ none →
            d.destination.ip ≠ .v4 peer.virtualIp.address) := by
  have h0 : ∀ s, Starts config s → s.router.Quiet := by
    intro s hs q peer hq
    rw [hs.router] at hq
    simp [RoomRouter.new] at hq
  have hkeep : ∀ h s e s', Run (Starts config) Happens h s → Happens s e s' → s.router.Quiet →
      ¬ Enlists { before := s, event := e, after := s' } → s'.router.Quiet :=
    fun _ _ _ _ hr he hs hm => quiet_step (starts_router hr).wf he hs hm
  constructor
  · exact hr.kept_iff (P := fun s => s.router.Quiet) h0 hkeep fun _ _ _ _ hr he hm =>
      enlists_breaks (starts_router hr).wf he hm
  · intro hm
    have hquiet := (hr.kept (P := fun s => s.router.Quiet) h0 hkeep hm).1
    exact ⟨hquiet, fun _ _ _ _ _ _ _ hok _ hd _ _ hp hsuspended =>
      quiet_sends (starts_router hr).wf hquiet hok hd hp hsuspended⟩

end

namespace RoomRouter.Example

def guestHost : HostSessionId := .ofByte 6

/-- The guest registers as a host while suspended. -/
def enlisting : List Event := .control .sorted (.registerHost room guest (Duration.fromSecs 15) guestHost) :: suspending

theorem enlisting_permitted : booted.Permitted enlisting :=
  ⟨⟨trivial, show (booted.final suspending).router.hosts[guestHost]? = none by decide +kernel⟩, suspending_permitted⟩

/-- The suspended guest hosts. -/
theorem enlisting_not_quiet : ¬ (booted.final enlisting).router.Quiet := by
  have hp : (booted.final enlisting).router.peers[guest]? = some suspendedGuest := by decide +kernel
  have hh : ((booted.final enlisting).router.hosts[guestHost]?).map HostState.peerId = some guest := by decide +kernel
  obtain ⟨host, hk, hv⟩ := Option.map_eq_some_iff.1 hh
  intro hquiet
  exact (hquiet _ _ hp (by simp [suspendedGuest])).1 _ host hk hv

end RoomRouter.Example

open RoomRouter in
/-- Where a suspended peer has come to own something, it was enlisted. -/
theorem guest_enlisted : ∃ m ∈ Example.booted.replay Example.enlisting, Enlists m := by
  by_contra hno
  push Not at hno
  have hquiet := (quiet_iff (replay_run Example.booted_starts Example.enlisting_permitted)).2 hno
  exact Example.enlisting_not_quiet hquiet.1

open RoomRouter in
/-- A suspended guest can come to host. -/
theorem suspended_guest_hosts : ¬ ∀ h s, Run (Starts {}) Happens h s → s.router.Quiet := fun hall =>
  Example.enlisting_not_quiet (hall _ _ (replay_run Example.booted_starts Example.enlisting_permitted))

end Civ6LanBridge

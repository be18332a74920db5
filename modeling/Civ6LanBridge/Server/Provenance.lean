/-
Where a forwarded packet has its right to be forwarded from: each gameplay packet goes back to the
selection of a host and each discovery response to a discovery request, and nothing has come in between
that would have ended it.
-/
import Civ6LanBridge.Server.History

namespace Civ6LanBridge

open Std FinMap Past AppState

/-! ## What the history of a session knows -/

/-- The client selects the host session, which is the peer's, as the gameplay session. -/
def Selects (k : GameplaySessionId) (c : PeerId) (hostId : HostSessionId) (q : PeerId) (m : Move AppState Event) :
    Prop :=
  ∃ o roomId now, m.event = .control o (.selectHost roomId c hostId now k) ∧
    ((RouterOp.selectHost roomId c hostId now k).exec o m.before.router).1 = .ok () ∧
    ∃ host : HostState, m.before.router.hosts[hostId]? = some host ∧ host.peerId = q

/-- The gameplay session of the client is on the host session, which is the peer's. -/
def RoomRouter.PlaysOn (r : RoomRouter) (k : GameplaySessionId) (c : PeerId) (hostId : HostSessionId)
    (q : PeerId) : Prop :=
  ∃ (session : GameplayState) (host : HostState), r.gameplay[k]? = some session ∧ session.clientPeerId = c ∧
    session.hostPeerId = q ∧ r.hosts[hostId]? = some host ∧ host.peerId = q ∧ host.roomId = session.roomId

/-- The gameplay session is created, or a packet on it is accepted. -/
def Touches (k : GameplaySessionId) (t : Instant) (m : Move AppState Event) : Prop :=
  (∃ o roomId c hostId, m.event = .control o (.selectHost roomId c hostId t k) ∧
    ((RouterOp.selectHost roomId c hostId t k).exec o m.before.router).1 = .ok ()) ∨
  ∃ p port payload, m.event.Brings m.before p (.gameplayPacket k port payload) t

/-- The host session is removed. -/
def Drops (hostId : HostSessionId) (m : Move AppState Event) : Prop :=
  m.before.router.hosts[hostId]? ≠ none ∧ m.after.router.hosts[hostId]? = none

/-- Nothing ends the gameplay session or creates another in its place: its ends stay and are not
suspended, and the host session stays. -/
structure Unbroken (k : GameplaySessionId) (c : PeerId) (hostId : HostSessionId) (q : PeerId)
    (m : Move AppState Event) : Prop where
  clientStays : ¬ Departs c m
  hostStays : ¬ Departs q m
  clientConnected : ¬ Suspends c m
  hostConnected : ¬ Suspends q m
  hostSession : ¬ Drops hostId m
  selection : ∀ c' hostId' q', ¬ Selects k c' hostId' q' m

/-- The client's request for discovery is accepted. -/
def Asks (k : DiscoveryRequestId) (c : PeerId) (t : Instant) (m : Move AppState Event) : Prop :=
  ∃ port payload, m.event.Brings m.before c (.discoveryRequest k port payload) t

/-! ## Accepted messages are routed -/

section

variable {config : RouterConfig} {s s' : AppState} {e : Event} {h : Moves} {p c q : PeerId} {k : GameplaySessionId}
  {hostId : HostSessionId} {t : Instant} {init : AppState → Prop}

/-- An accepted message other than a probe has been routed. -/
theorem AppState.Event.Brings.routed {message : RelayMessage} (hw : s.router.WF) (he : Happens s e s')
    (hb : e.Brings s p message t) (hmsg : ∀ requestId, message ≠ .relayProbe requestId) :
    ∃ o relayPort source packet limiterNow peer envelope out, e = .datagram o relayPort source packet limiterNow t ∧
      Passes s source packet limiterNow p peer envelope ∧ envelope.message = message ∧
      Routed o relayPort (s.router.hearing p t) p { peer with lastSeen := t } envelope t out s'.router := by
  obtain ⟨-, rfl⟩ := he
  cases e with
  | control => exact hb.elim
  | datagram o relayPort source packet limiterNow now =>
    obtain ⟨rfl, envelope, out, hfrom, rfl, hok⟩ := hb
    have hh := handleDatagram_handles o relayPort hw source packet limiterNow now
    show ∃ _ _ _ _ _ _ _ _, _ ∧ _ ∧ _ ∧
      Routed _ _ _ _ _ _ _ _ (handleDatagram o relayPort s source packet limiterNow now).2.router
    generalize handleDatagram o relayPort s source packet limiterNow now = x at hh hok ⊢
    cases hh with
    | refused => cases hok
    | answered hpass hprobe =>
      obtain ⟨-, rfl⟩ := hfrom.passes hw hpass
      exact absurd hprobe (hmsg _)
    | duplicate => cases hok
    | failed => cases hok
    | routed hpass _ _ _ hr =>
      obtain ⟨rfl, rfl⟩ := hfrom.passes hw hpass
      exact ⟨o, relayPort, source, packet, limiterNow, _, _, _, rfl, hpass, rfl, hr⟩

/-- A session that is created or carries a packet now has been active now. -/
theorem touches_row (hw : s.router.WF) (he : Happens s e s')
    (ht : Touches k t { before := s, event := e, after := s' }) :
    ∃ session : GameplayState, s'.router.gameplay[k]? = some session ∧ session.lastActivity = t ∧
      session.expiresAt = t + s.router.config.gameplayIdleTtl := by
  obtain ⟨o, roomId, c, hostId, rfl, hok⟩ | ⟨p, port, payload, hb⟩ := ht
  · obtain ⟨-, rfl⟩ := he
    show ∃ session : GameplayState, (RouterOp.exec o s.router _).2.gameplay[k]? = some session ∧ _
    obtain ⟨r', he, heff⟩ := RoomRouter.exec_ok o hw hok
    rw [he]
    cases heff with
    | select => exact ⟨_, ExtTreeMap.getElem?_insert_self, rfl, rfl⟩
  · obtain ⟨o, relayPort, source, packet, limiterNow, peer, envelope, out, rfl, hpass, hmsg, hr⟩ :=
      hb.routed hw he (by simp)
    generalize s'.router = r' at hr ⊢
    cases hr with
    | request hmsg' => rw [hmsg] at hmsg'; cases hmsg'
    | response hmsg' => rw [hmsg] at hmsg'; cases hmsg'
    | gameplay hmsg' _ _ _ heff =>
      rw [hmsg] at hmsg'
      cases hmsg'
      cases heff with
      | @play _ session _ _ hs =>
        refine ⟨{ session with lastActivity := t, expiresAt := t + s.router.config.gameplayIdleTtl }, ?_, rfl, rfl⟩
        show (ExtTreeMap.modify _ _ _)[k]? = _
        rw [ExtTreeMap.getElem?_modify_self, hs]
        rfl

/-- A request that is accepted now is recorded for its client, until a `discovery_ttl` from now. -/
theorem asks_row {k : DiscoveryRequestId} (hw : s.router.WF) (he : Happens s e s')
    (ha : Asks k c t { before := s, event := e, after := s' }) :
    ∃ discovery : DiscoveryState, s'.router.discoveries[k]? = some discovery ∧ discovery.clientPeerId = c ∧
      discovery.expiresAt = t + s.router.config.discoveryTtl := by
  obtain ⟨port, payload, hb⟩ := ha
  obtain ⟨o, relayPort, source, packet, limiterNow, peer, envelope, out, rfl, hpass, hmsg, hr⟩ :=
    hb.routed hw he (by simp)
  generalize s'.router = r' at hr ⊢
  cases hr with
  | response hmsg' => rw [hmsg] at hmsg'; cases hmsg'
  | gameplay hmsg' => rw [hmsg] at hmsg'; cases hmsg'
  | request hmsg' _ heff =>
    rw [hmsg] at hmsg'
    cases hmsg'
    generalize PeerState.roomId _ = roomId at heff
    cases heff with
    | discover => exact ⟨_, ExtTreeMap.getElem?_insert_self, rfl, rfl⟩
    | @discoverAgain _ discovery _ hd =>
      refine ⟨{ discovery with expiresAt := t + s.router.config.discoveryTtl }, ?_, rfl, rfl⟩
      show (ExtTreeMap.modify _ _ _)[k]? = _
      rw [ExtTreeMap.getElem?_modify_self, hd]
      rfl

/-! ## Sessions and requests traced back -/

/-- Who hosts, asks or plays in a state after an event was neither removed nor suspended by it. -/
theorem named_stays (hw : s.router.WF) (he : Happens s e s') (hstay : s'.router.peers[p]? ≠ none)
    (hnamed : (∃ (k : HostSessionId) (v : HostState), s'.router.hosts[k]? = some v ∧ v.peerId = p) ∨
      (∃ (k : DiscoveryRequestId) (v : DiscoveryState), s'.router.discoveries[k]? = some v ∧ v.clientPeerId = p) ∨
      ∃ (k : GameplaySessionId) (v : GameplayState), s'.router.gameplay[k]? = some v ∧
        (v.clientPeerId = p ∨ v.hostPeerId = p)) :
    ¬ Departs p { before := s, event := e, after := s' } ∧ ¬ Suspends p { before := s, event := e, after := s' } := by
  refine ⟨fun hd => hstay hd.2, ?_⟩
  rintro ⟨peer, peer', hp, hc, hp', hd⟩
  obtain ⟨hhosts, hdisc, hgame⟩ := happening_suspends hw (he.happening hw) hp hc hp' hd
  obtain ⟨k, v, hk, e⟩ | ⟨k, v, hk, e⟩ | ⟨k, v, hk, e | e⟩ := hnamed
  · exact hhosts k v hk e
  · exact hdisc k v hk e
  · exact (hgame k v hk).1 e
  · exact (hgame k v hk).2 e

/-- A gameplay session that is on a host session after an event was on it before, or has just been selected. -/
theorem playsOn_before (hreach : RoomRouter.Reachable config s.router) (he : Happens s e s')
    (hon : s'.router.PlaysOn k c hostId q) :
    Selects k c hostId q { before := s, event := e, after := s' } ∨ s.router.PlaysOn k c hostId q := by
  rcases hon with ⟨session', host', hk', rfl, rfl, hh', howner, hroom⟩
  have hw := hreach.wf
  have hw' := (he.router hreach).wf
  have hhappen := he.happening hw
  -- a host session under the gameplay session is still there after the event, and so it is this one
  have hunder : ∀ {id : HostSessionId} {host₀ : HostState}, s.router.hosts[id]? = some host₀ →
      host₀.peerId = session'.hostPeerId → host₀.roomId = session'.roomId → id = hostId := by
    intro id host₀ hi hp hr
    obtain ⟨host₁, hi', e1, e2⟩ := happening_under hw hhappen hi hk' ⟨hp, hr⟩
    refine hw'.owners.unique hi' hh' ?_
    unfold HostState.owner
    rw [e1, e2, hp, hr, howner, hroom]
  -- a session that was there before with the same ends was on a host session, too
  have hold : ∀ {session₀ : GameplayState}, s.router.gameplay[k]? = some session₀ →
      session₀.clientPeerId = session'.clientPeerId → session₀.hostPeerId = session'.hostPeerId →
      session₀.roomId = session'.roomId → s.router.PlaysOn k session'.clientPeerId hostId session'.hostPeerId := by
    intro session₀ hk₀ e1 e2 e3
    rcases hreach.served k session₀ hk₀ with ⟨id, host₀, hi, hp, hr⟩
    obtain rfl := hunder hi (hp.trans e2) (hr.trans e3)
    exact ⟨session₀, host₀, hk₀, e1, e2, hi, hp.trans e2, hr⟩
  rcases happening_gameplay hw hhappen k with e' | ⟨op, hperf, hchange⟩
  · exact Or.inr (hold (e' ▸ hk') rfl rfl rfl)
  · rw [hk'] at hchange
    generalize hx : s.router.gameplay[k]? = x at hchange
    cases hchange with
    | same => exact Or.inr (hold hx rfl rfl rfl)
    | played => exact Or.inr (hold hx rfl rfl rfl)
    | selected hop _ hhost hsame =>
      subst hop
      obtain rfl := hunder hhost rfl hsame
      cases hperf with
      | control hev _ hok => exact Or.inl ⟨_, _, _, hev, hok, _, hhost, rfl⟩

/-- A gameplay session goes back to the selection of the host session it is on, undisturbed since. -/
theorem session_selected (hr : Run (Starts config) Happens h s) {session : GameplayState} {host : HostState}
    (hk : s.router.gameplay[k]? = some session) (hh : s.router.hosts[hostId]? = some host)
    (ho : host.peerId = session.hostPeerId ∧ host.roomId = session.roomId) :
    Since (Selects k session.clientPeerId hostId session.hostPeerId)
      (Unbroken k session.clientPeerId hostId session.hostPeerId) h := by
  refine hr.since (P := fun s => s.router.PlaysOn k session.clientPeerId hostId session.hostPeerId) ?_ ?_
    ⟨session, host, hk, rfl, rfl, hh, ho.1, ho.2⟩
  · rintro s hs ⟨session, -, hk, -⟩
    rw [hs.router] at hk
    simp [RoomRouter.new] at hk
  intro h s e s' hr he hon
  have hreach := starts_router hr
  have hw' := (he.router hreach).wf
  rcases playsOn_before hreach he hon with hnew | hbefore
  · exact Or.inl hnew
  · refine Or.inr ⟨?_, hbefore⟩
    rcases hon with ⟨session', host', hk', hc, hq, hh', -⟩
    rcases hbefore with ⟨session₀, -, hk₀, -⟩
    obtain ⟨client, hclient, -⟩ := hw'.gameplayClient k session' hk'
    obtain ⟨server, hserver, -⟩ := hw'.gameplayHost k session' hk'
    rw [hc] at hclient
    rw [hq] at hserver
    obtain ⟨hcd, hcs⟩ :=
      named_stays hreach.wf he (by rw [hclient]; simp) (Or.inr (Or.inr ⟨k, session', hk', Or.inl hc⟩))
    obtain ⟨hqd, hqs⟩ :=
      named_stays hreach.wf he (by rw [hserver]; simp) (Or.inr (Or.inr ⟨k, session', hk', Or.inr hq⟩))
    refine ⟨hcd, hqd, hcs, hqs, fun hd => ?_, ?_⟩
    · rw [hd.2] at hh'
      cases hh'
    · rintro c' hostId' q' ⟨o, roomId, now, rfl, -⟩
      have hfresh : s.router.gameplay[k]? = none := he.1.2
      rw [hk₀] at hfresh
      cases hfresh

/-- A gameplay session was last active when it was created or carried its last packet. -/
theorem session_touched (hr : Run (Starts config) Happens h s) {session : GameplayState}
    (hk : s.router.gameplay[k]? = some session) :
    session.expiresAt = session.lastActivity + config.gameplayIdleTtl ∧
      Since (Touches k session.lastActivity) (fun m => ∀ t, ¬ Touches k t m) h := by
  have hexpires : ∀ {h s}, Run (Starts config) Happens h s → ∀ (k : GameplaySessionId) (session : GameplayState),
      s.router.gameplay[k]? = some session → session.expiresAt = session.lastActivity + config.gameplayIdleTtl := by
    intro h s hr
    induction hr with
    | init hs =>
      intro k session hk
      rw [hs.router] at hk
      simp [RoomRouter.new] at hk
    | @step h s s' e hr he ih =>
      intro k session hk
      have hreach := starts_router hr
      obtain e' | ⟨op, -, hchange⟩ := happening_gameplay hreach.wf (he.happening hreach.wf) k
      · exact ih k session (e' ▸ hk)
      · rw [hk] at hchange
        generalize hx : s.router.gameplay[k]? = x at hchange
        cases hchange with
        | same => exact ih k session hx
        | played => rw [hreach.config_eq]
        | selected => rw [hreach.config_eq]
  refine ⟨hexpires hr k session hk, ?_⟩
  -- since the last touch: what changes a row touches it
  generalize ht : session.lastActivity = t
  refine hr.since (P := fun s => ∃ session : GameplayState, s.router.gameplay[k]? = some session ∧
    session.lastActivity = t)
    ?_ ?_ ⟨session, hk, ht⟩
  · rintro s hs ⟨session, hk, -⟩
    rw [hs.router] at hk
    simp [RoomRouter.new] at hk
  rintro h s e s' hr he ⟨session', hk', rfl⟩
  have hw := (starts_router hr).wf
  by_cases htouch : ∃ t, Touches k t { before := s, event := e, after := s' }
  · obtain ⟨t, ht⟩ := htouch
    obtain ⟨session₁, hk₁, rfl, -⟩ := touches_row hw he ht
    rw [hk'] at hk₁
    cases hk₁
    exact Or.inl ht
  · refine Or.inr ⟨fun t ht => htouch ⟨t, ht⟩, session', ?_, rfl⟩
    obtain e' | ⟨op, hperf, hchange⟩ := happening_gameplay hw (he.happening hw) k
    · exact e' ▸ hk'
    · rw [hk'] at hchange
      generalize hx : s.router.gameplay[k]? = x at hchange
      cases hchange with
      | same => rfl
      | selected hop =>
        subst hop
        cases hperf with
        | control hev _ hok => exact absurd ⟨_, Or.inl ⟨_, _, _, _, hev, hok⟩⟩ htouch
      | played hop =>
        cases hperf with
        | control _ hctl => cases op <;> simp [RouterOp.plays, RouterOp.OfControl] at hop hctl
        | asks => cases hop
        | plays hb => cases hop; exact absurd ⟨_, Or.inr ⟨_, _, _, hb⟩⟩ htouch

/-- A discovery request is recorded for the client that asked last, which has not gone since. -/
theorem discovery_asked {k : DiscoveryRequestId} (hr : Run (Starts config) Happens h s) {discovery : DiscoveryState}
    (hk : s.router.discoveries[k]? = some discovery) :
    ∃ t, discovery.expiresAt = t + config.discoveryTtl ∧ Since (Asks k discovery.clientPeerId t)
      (fun m => (∀ c t, ¬ Asks k c t m) ∧ ¬ Departs discovery.clientPeerId m ∧
        ¬ Suspends discovery.clientPeerId m) h := by
  generalize hc : discovery.clientPeerId = c
  generalize hx : discovery.expiresAt = x
  -- the time of the request is read off the deadline, which determines it
  have hsince : Since (fun m => ∃ t, x = t + config.discoveryTtl ∧ Asks k c t m)
      (fun m => (∀ c t, ¬ Asks k c t m) ∧ ¬ Departs c m ∧ ¬ Suspends c m) h := by
    refine hr.since (P := fun s => ∃ discovery : DiscoveryState, s.router.discoveries[k]? = some discovery ∧
      discovery.clientPeerId = c ∧ discovery.expiresAt = x) ?_ ?_ ⟨discovery, hk, hc, hx⟩
    · rintro s hs ⟨discovery, hk, -⟩
      rw [hs.router] at hk
      simp [RoomRouter.new] at hk
    rintro h s e s' hr he ⟨discovery', hk', rfl, rfl⟩
    have hreach := starts_router hr
    have hw := hreach.wf
    by_cases hask : ∃ c t, Asks k c t { before := s, event := e, after := s' }
    · obtain ⟨c, t, ha⟩ := hask
      obtain ⟨discovery₁, hk₁, rfl, hexp⟩ := asks_row hw he ha
      rw [hk'] at hk₁
      cases hk₁
      exact Or.inl ⟨t, by rw [hexp, hreach.config_eq], ha⟩
    · obtain ⟨client, hclient, -⟩ := (he.router hreach).wf.discoveryClient k discovery' hk'
      obtain ⟨hdeparts, hsuspends⟩ :=
        named_stays hw he (by rw [hclient]; simp) (Or.inr (Or.inl ⟨k, discovery', hk', rfl⟩))
      refine Or.inr ⟨⟨fun c t ha => hask ⟨c, t, ha⟩, hdeparts, hsuspends⟩, discovery', ?_, rfl, rfl⟩
      obtain e' | ⟨op, hperf, hchange⟩ := happening_discovery hw (he.happening hw) k
      · exact e' ▸ hk'
      · rw [hk'] at hchange
        generalize hx : s.router.discoveries[k]? = x at hchange
        cases hchange with
        | same => rfl
        | asked hop =>
          cases hperf with
          | control _ hctl => cases op <;> simp [RouterOp.asks, RouterOp.OfControl] at hop hctl
          | asks hb => cases hop; exact absurd ⟨_, _, _, _, hb⟩ hask
          | plays => cases hop
  obtain ⟨t, ht⟩ := since_exists hsince
  obtain ⟨m, -, hexp, -⟩ := ht.mem
  exact ⟨t, hexp, ht.imp (fun m hm => hm.2) fun m hm => hm⟩

/-! ## Packets traced back -/

/-- A gameplay packet that is forwarded goes between the two ends that the selection of a host joined:
neither has left or been suspended since, the host session is still there, and the session has been
idle for less than its time. A packet on a session from anybody else is refused and leaves it as it is. -/
theorem gameplay_provenance (hr : Run (Starts config) Happens h s) (o : WalkOrder) (relayPort : UInt16)
    (source : SocketAddr) (packet : List UInt8) (limiterNow now : Instant) :
    (∀ out d k sourceIp port payload, (handleDatagram o relayPort s source packet limiterNow now).1 =
      .ok out → d ∈ out → d.message = .gameplayToPeer k sourceIp port payload → ∃ c hostId q t p p' ip envelope,
        Since (Selects k c hostId q) (Unbroken k c hostId q) h ∧
        Since (Touches k t) (fun m => ∀ t', ¬ Touches k t' m) h ∧ now < t + config.gameplayIdleTtl ∧
        FromPeer s source packet p envelope ∧ (p = c ∧ p' = q ∨ p = q ∧ p' = c) ∧
        s.router.peerVirtualIp p' = some ip ∧ d.destination = relayDestination ip relayPort) ∧
    ∀ p envelope k port payload, FromPeer s source packet p envelope →
      envelope.message = .gameplayPacket k port payload →
      (∀ session : GameplayState, s.router.gameplay[k]? = some session → p ≠ session.clientPeerId ∧
        p ≠ session.hostPeerId) →
      (∃ f, (handleDatagram o relayPort s source packet limiterNow now).1 = .error f) ∧
        (handleDatagram o relayPort s source packet limiterNow now).2.router.gameplay[k]? = s.router.gameplay[k]? := by
  have hreach := starts_router hr
  have hw := hreach.wf
  have hh := handleDatagram_handles o relayPort hw source packet limiterNow now
  generalize handleDatagram o relayPort s source packet limiterNow now = x at hh ⊢
  constructor
  · intro out d k sourceIp port payload hok hd hmsg
    cases hh with
    | refused => cases hok
    | duplicate => cases hok
    | failed => cases hok
    | answered =>
      cases hok
      rw [List.mem_singleton.1 hd] at hmsg
      cases hmsg
    | routed hpass _ _ _ hrouted =>
      cases hok
      cases hrouted with
      | request =>
        obtain ⟨target, -, rfl⟩ := List.mem_map.1 hd
        cases hmsg
      | response =>
        rw [List.mem_singleton.1 hd] at hmsg
        cases hmsg
      | gameplay _ hk hlt hend =>
        rw [List.mem_singleton.1 hd] at hmsg ⊢
        cases hmsg
        obtain ⟨id, host, hhost, ho⟩ := hreach.served k _ hk
        obtain ⟨hexp, htouch⟩ := session_touched hr hk
        obtain ⟨client, hclient, hcs⟩ := hw.gameplayClient k _ hk
        obtain ⟨server, hserver, hss⟩ := hw.gameplayHost k _ hk
        rw [hexp] at hlt
        obtain ⟨hp, hdest⟩ | ⟨hp, hdest⟩ := RoomRouter.otherEnd_some hend
        · cases hdest
          refine ⟨_, id, _, _, _, _, _, _, session_selected hr hk hhost ho, htouch, hlt, hpass.fromPeer hw,
            Or.inl ⟨hp, rfl⟩, ?_, rfl⟩
          rw [RoomRouter.peerVirtualIp, hserver, Option.map_some, hss.2]
        · cases hdest
          refine ⟨_, id, _, _, _, _, _, _, session_selected hr hk hhost ho, htouch, hlt, hpass.fromPeer hw,
            Or.inr ⟨hp, rfl⟩, ?_, rfl⟩
          rw [RoomRouter.peerVirtualIp, hclient, Option.map_some, hcs.2]
  · intro p envelope k port payload hfrom hmsg hother
    cases hh with
    | refused => exact ⟨⟨_, rfl⟩, rfl⟩
    | duplicate => exact ⟨⟨_, rfl⟩, rfl⟩
    | failed => exact ⟨⟨_, rfl⟩, rfl⟩
    | answered hpass hprobe =>
      obtain ⟨-, rfl⟩ := hfrom.passes hw hpass
      rw [hmsg] at hprobe
      cases hprobe
    | routed hpass _ _ _ hrouted =>
      obtain ⟨rfl, rfl⟩ := hfrom.passes hw hpass
      exfalso
      cases hrouted with
      | request hmsg' => rw [hmsg] at hmsg'; cases hmsg'
      | response hmsg' => rw [hmsg] at hmsg'; cases hmsg'
      | gameplay hmsg' hk _ hend =>
        rw [hmsg] at hmsg'
        cases hmsg'
        obtain ⟨hc, hq⟩ := hother _ hk
        exact (RoomRouter.otherEnd_some hend).elim (fun h => hc h.1) fun h => hq h.1

end

namespace RoomRouter.Example

/-- What the guest's packet becomes on its way to the host. -/
def toPeer : OutboundDatagram :=
  { destination := relayDestination ip 32000, message := .gameplayToPeer session guestIp ⟨62056⟩ [7], «meta» := {} }

end RoomRouter.Example

open RoomRouter in
/-- The guest's packet goes back to its selection of the host. -/
theorem guest_plays : ∃ c hostId q, Since (Selects Example.session c hostId q) (Unbroken Example.session c hostId q)
    (Example.booted.replay Example.selecting) := by
  obtain ⟨hforwarded, -⟩ := gameplay_provenance (replay_run Example.booted_starts Example.selecting_permitted)
    .sorted 32000
    (Example.sender Example.guestIp) Example.packet 0 1
  have hok : (handleDatagram .sorted 32000 (Example.booted.final Example.selecting) (Example.sender Example.guestIp)
      Example.packet 0 1).1 = .ok [Example.toPeer] := by decide +kernel
  obtain ⟨c, hostId, q, -, -, -, -, -, hs, -⟩ := hforwarded _ Example.toPeer _ _ _ _ hok List.mem_cons_self rfl
  exact ⟨c, hostId, q, hs⟩

section

variable {config : RouterConfig} {s : AppState} {h : Moves}

/-- A discovery response that is forwarded answers the last accepted request under its identifier: it
goes to the client of that request, which has not left or been suspended since, it is in time, and it
comes from a host of the client's room and names that host's own address. -/
theorem response_provenance (hr : Run (Starts config) Happens h s) {o : WalkOrder} {relayPort : UInt16}
    {source : SocketAddr}
    {packet : List UInt8} {limiterNow now : Instant} (hclock : ∀ t ∈ readings h, t ≤ now) {out : List OutboundDatagram}
    (hok : (handleDatagram o relayPort s source packet limiterNow now).1 = .ok out) {d : OutboundDatagram}
    (hd : d ∈ out) {k : DiscoveryRequestId} {hostIp : VirtualIp} {port : Civ6UdpPort} {payload : List UInt8}
    (hmsg : d.message = .discoveryToClient k hostIp port payload) :
    ∃ c t ip p envelope, ∃ (hostId : HostSessionId) (host : HostState),
      Since (Asks k c t) (fun m => (∀ c' t', ¬ Asks k c' t' m) ∧ ¬ Departs c m ∧ ¬ Suspends c m) h ∧
      t ≤ now ∧ now < t + config.discoveryTtl ∧
      s.router.peerVirtualIp c = some ip ∧ d.destination = relayDestination ip relayPort ∧
      FromPeer s source packet p envelope ∧ s.router.hosts[hostId]? = some host ∧ host.peerId = p ∧
        now < host.expiresAt ∧
      s.router.roomForPeer c = some host.roomId ∧ s.router.peerVirtualIp p = some hostIp := by
  have hreach := starts_router hr
  have hw := hreach.wf
  have hh := handleDatagram_handles o relayPort hw source packet limiterNow now
  generalize handleDatagram o relayPort s source packet limiterNow now = x at hh hok
  cases hh with
  | refused => cases hok
  | duplicate => cases hok
  | failed => cases hok
  | answered =>
    cases hok
    rw [List.mem_singleton.1 hd] at hmsg
    cases hmsg
  | @routed p peer _ _ _ _ _ hpass _ _ _ hrouted =>
    cases hok
    cases hrouted with
    | request =>
      obtain ⟨target, -, rfl⟩ := List.mem_map.1 hd
      cases hmsg
    | gameplay =>
      rw [List.mem_singleton.1 hd] at hmsg
      cases hmsg
    | @response _ _ _ _ host discovery client _ hhost howner hlive hdisc hlt hroom hclient =>
      rw [List.mem_singleton.1 hd] at hmsg ⊢
      cases hmsg
      obtain ⟨t, hexp, hsince⟩ := discovery_asked hr hdisc
      obtain ⟨asker, hasker, hasked⟩ := hw.discoveryClient k discovery hdisc
      obtain ⟨owner, howner', hos⟩ := hw.hostPeer _ host hhost
      have ht : t ≤ now := by
        obtain ⟨m, hm, _, _, hb⟩ := hsince.mem
        refine hclock t (List.mem_filterMap.2 ⟨m, hm, ?_⟩)
        cases hev : m.event with
        | control => rw [hev] at hb; exact hb.elim
        | datagram => rw [hev] at hb; exact congrArg some hb.1
      refine ⟨_, t, asker.virtualIp, p, _, _, host, hsince, ht, by rw [← hexp]; exact hlt, ?_, ?_,
        hpass.fromPeer hw, hhost, howner, hlive, ?_, ?_⟩
      · rw [RoomRouter.peerVirtualIp, hasker]; rfl
      · by_cases hne : p = discovery.clientPeerId
        · subst hne
          rw [RoomRouter.hearing_peer hasker] at hclient
          cases hclient
          rfl
        · rw [RoomRouter.hearing_peer_ne hne, hasker] at hclient
          cases hclient
          rfl
      · rw [RoomRouter.roomForPeer, hasker, hroom, ← hasked]; rfl
      · rw [howner] at howner'
        rw [RoomRouter.peerVirtualIp, howner', Option.map_some, hos.2]

end

namespace RoomRouter.Example

/-- The guest has asked for the hosts of its room. -/
def asking : List Event := .datagram .sorted 32000 (sender guestIp) request 0 0 :: gathering

theorem asking_permitted : booted.Permitted asking := ⟨trivial, gathering_permitted⟩

/-- The answer of the host. -/
def response : List UInt8 :=
  frame 1 MessageKind.discoveryResponse ((Uuid.ofByte 9).bytes ++ (Uuid.ofByte 3).bytes ++ [0xf5, 0xb4, 8])

/-- What the answer becomes on its way to the guest. -/
def toClient : OutboundDatagram :=
  { destination := relayDestination guestIp 32000, message := .discoveryToClient (.ofByte 9) ip ⟨62900⟩ [8],
    «meta» := {} }

end RoomRouter.Example

open RoomRouter in
/-- The answer of the host goes back to the request of the guest. -/
theorem guest_answered : ∃ c t, Since (Asks (.ofByte 9) c t) (fun m => (∀ c' t', ¬ Asks (.ofByte 9) c' t' m) ∧
    ¬ Departs c m ∧ ¬ Suspends c m) (Example.booted.replay Example.asking) := by
  have hclock : ∀ t ∈ readings (Example.booted.replay Example.asking), t ≤ 1 := by decide
  have hok : (handleDatagram .sorted 32000 (Example.booted.final Example.asking) (Example.sender Example.ip)
      Example.response 1 1).1 = .ok [Example.toClient] := by decide +kernel
  obtain ⟨c, t, -, -, -, -, -, hs, -⟩ := response_provenance (replay_run Example.booted_starts Example.asking_permitted)
    hclock hok List.mem_cons_self (rfl : Example.toClient.message = _)
  exact ⟨c, t, hs⟩

end Civ6LanBridge

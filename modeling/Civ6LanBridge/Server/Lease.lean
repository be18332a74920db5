/-
What the lease of a host is good for. A discovery request reaches exactly the hosts of the room whose
lease runs, which the history of their registrations and heartbeats decides and no sweep. A gameplay
session has a deadline of its own, and outlives the lease under it until a sweep.
-/
import Civ6LanBridge.Server.Provenance

namespace Civ6LanBridge

open Std FinMap Past AppState

/-! ## The lease in the history -/

/-- The peer registers as a host or its host session is kept alive. -/
def Renews (q : PeerId) (t : Instant) (m : Move AppState Event) : Prop :=
  ∃ o op, m.event = .control o op ∧ op.OfControl ∧ op.renews m.before.router = some (q, t) ∧
    (op.exec o m.before.router).1 = .ok ()

/-- The host session of the peer is unregistered. -/
def Unregisters (q : PeerId) (m : Move AppState Event) : Prop :=
  ∃ o id, m.event = .control o (.unregisterHost id) ∧ ∃ host : HostState, m.before.router.hosts[id]? = some host ∧
    host.peerId = q

/-- The lease of the peer neither starts over nor ends early. -/
structure Keeps (q : PeerId) (m : Move AppState Event) : Prop where
  renewed : ∀ t, ¬ Renews q t m
  unregistered : ¬ Unregisters q m
  stays : ¬ Departs q m
  connected : ¬ Suspends q m

namespace RoomRouter

variable {r r' : RoomRouter} {o : WalkOrder} {op : RouterOp} {q : PeerId} {t : Instant}

/-- Who is renewed has a host session for `host_ttl` from now. -/
theorem renews_row (he : Effect o r op r') (hop : op.renews r = some (q, t)) :
    ∃ (id : HostSessionId) (host : HostState), r'.hosts[id]? = some host ∧ host.peerId = q ∧
      host.expiresAt = t + r.config.hostTtl := by
  have hbeat : ∀ {id : HostSessionId} {host : HostState} {now : Instant}, r.hosts[id]? = some host →
      ∃ (id' : HostSessionId) (host' : HostState), (r.beat id now).hosts[id']? = some host' ∧
        host'.peerId = host.peerId ∧ host'.expiresAt = now + r.config.hostTtl := by
    intro id host now hh
    refine ⟨id, { host with lastHeartbeat := now, expiresAt := now + r.config.hostTtl }, ?_, rfl, rfl⟩
    show (r.hosts.modify id _)[id]? = _
    rw [ExtTreeMap.getElem?_modify_self, hh]
    rfl
  cases he with
  | host => cases hop; exact ⟨_, _, ExtTreeMap.getElem?_insert_self, rfl, rfl⟩
  | hostAgain hh => cases hop; exact hbeat hh
  | rehost =>
    cases hop
    refine ⟨_, _, ExtTreeMap.getElem?_insert_self, rfl, ?_⟩
    rw [removeHost_config]
  | beat hh =>
    simp only [RouterOp.renews, hh, Option.map_some] at hop
    cases hop
    exact hbeat hh
  | beatForRoom hh he =>
    cases he
    simp only [RouterOp.renews, hh, Option.map_some] at hop
    cases hop
    exact hbeat hh
  | _ => cases hop

/-- A peer that the sweep does not spare is removed, or it was connected and is suspended. -/
theorem not_spared (o : WalkOrder) (h : r.WF) {peer : PeerState} (hp : r.peers[q]? = some peer)
    (hs : ¬ peer.Spared r.config t) : (expire o r t).2.peers[q]? = none ∨ peer.disconnectedAt = none ∧
      ∃ peer', (expire o r t).2.peers[q]? = some peer' ∧ peer'.disconnectedAt ≠ none := by
  rw [expire_peers o h, hp, Option.bind_some]
  by_cases hl : peer.Lapses r.config t
  · rw [if_pos hl]
    exact Or.inl rfl
  rw [if_neg hl]
  -- a peer that stays and yet is not spared has just been found silent
  have hsilent : silent r.config peer t = true := by
    by_contra hheard
    rw [Bool.not_eq_true] at hheard
    refine hs ⟨hheard, ?_⟩
    unfold PeerState.Lapses PeerState.afterSilence at hl
    rwa [hheard, if_neg (by simp), Bool.not_eq_true] at hl
  have hconnected : peer.disconnectedAt = none := by
    unfold silent at hsilent
    simp only [Bool.and_eq_true, Option.isNone_iff_eq_none] at hsilent
    exact hsilent.1
  refine Or.inr ⟨hconnected, _, rfl, ?_⟩
  rw [PeerState.afterSilence, if_pos hsilent]
  simp

/-- Who leaves is gone. -/
theorem leaveRoom_gone (h : r.WF) {roomId : RoomId} (hok : ((RouterOp.leaveRoom roomId q).exec o r).1 = .ok ()) :
    ((RouterOp.leaveRoom roomId q).exec o r).2.peers[q]? = none := by
  obtain ⟨r', he, heff⟩ := exec_ok o h hok
  rw [he]
  cases heff
  show (without _ _ _ _).peers[q]? = none
  rw [without_peers, ExtTreeMap.getElem?_erase_self]

/-- Every host of the room whose lease runs is a target. -/
theorem discoveryTargets_mem {room : RoomState} {id : HostSessionId} {host : HostState} {now : Instant}
    (hm : id ∈ room.hostSessions) (hh : r.hosts[id]? = some host) (hlt : now < host.expiresAt) :
    { hostSessionId := id, hostPeerId := host.peerId, hostVirtualIp := host.virtualIp : DiscoveryTarget } ∈
      discoveryTargets o r room now := by
  refine List.mem_filterMap.2 ⟨id, by simpa using hm, ?_⟩
  simp only [hh, if_pos hlt]

/-- No peer is a target twice. -/
theorem discoveryTargets_nodup (o : WalkOrder) (h : r.WF) (room : RoomState) (now : Instant) :
    ((discoveryTargets o r room now).map DiscoveryTarget.hostPeerId).Nodup := by
  have hids : (o.arrange room.hostSessions.toList).Nodup := by
    refine (o.perm _).nodup_iff.2 ?_
    exact ExtTreeSet.distinct_toList.imp fun hne e => hne (by rw [e]; exact ReflCmp.compare_self)
  have htargets : (discoveryTargets o r room now).Nodup := by
    refine hids.filterMap fun id id' target ht ht' => ?_
    -- either target has the identifier it is made of
    split at ht
    · cases ht
    split at ht
    · split at ht'
      · cases ht'
      split at ht'
      · have hid := congrArg DiscoveryTarget.hostSessionId (Option.mem_some_iff.1 ht)
        exact hid.trans (congrArg DiscoveryTarget.hostSessionId (Option.mem_some_iff.1 ht')).symm
      · cases ht'
    · cases ht
  refine List.Nodup.map_on ?_ htargets
  intro target ht target' ht' e
  obtain ⟨host, -, hh, -, hp, hip⟩ := mem_discoveryTargets ht
  obtain ⟨host', -, hh', -, hp', hip'⟩ := mem_discoveryTargets ht'
  have hid := h.host_unique hh hh' (by rw [← hp, ← hp', e])
  rw [hid, hh'] at hh
  cases hh
  cases target
  cases target'
  simp_all

/-- The targets in the room of a peer are the hosts of that room whose lease runs, at their addresses. -/
theorem discoveryTargets_iff (o : WalkOrder) (h : r.WF) {p : PeerId} {peer : PeerState} (hp : r.peers[p]? = some peer)
    {room : RoomState} (hr : r.rooms[peer.roomId]? = some room) {hostIp : VirtualIp} {now : Instant} :
    (q, hostIp) ∈ (discoveryTargets o r room now).map (fun target => (target.hostPeerId, target.hostVirtualIp)) ↔
      r.peerVirtualIp q = some hostIp ∧ r.roomForPeer q = r.roomForPeer p ∧
        ∃ (id : HostSessionId) (host : HostState), r.hosts[id]? = some host ∧ host.peerId = q ∧
          now < host.expiresAt := by
  have hroom : r.roomForPeer p = some peer.roomId := by rw [roomForPeer, hp]; rfl
  rw [hroom]
  constructor
  · intro hm
    obtain ⟨target, ht, e⟩ := List.mem_map.1 hm
    obtain ⟨host, hid, hhost, hlt, e1, e2⟩ := mem_discoveryTargets ht
    cases e
    rw [e1, e2]
    obtain ⟨owner, ho, hs⟩ := h.hostPeer _ host hhost
    obtain ⟨host', hhost', hsame⟩ := (h.sessions.mem_iff _ room hr _).1 hid
    rw [hhost] at hhost'
    cases hhost'
    refine ⟨?_, ?_, _, host, hhost, rfl, hlt⟩
    · rw [peerVirtualIp, ho, Option.map_some, hs.2]
    · rw [roomForPeer, ho, Option.map_some, hs.1, hsame]
  · rintro ⟨hip, hsame, id, host, hhost, rfl, hlt⟩
    obtain ⟨owner, ho, hs⟩ := h.hostPeer id host hhost
    rw [peerVirtualIp, ho, Option.map_some, hs.2] at hip
    rw [roomForPeer, ho, Option.map_some, hs.1] at hsame
    cases hip
    have hid := (h.sessions.mem_iff _ room hr _).2 ⟨host, hhost, Option.some.inj hsame⟩
    exact List.mem_map.2 ⟨_, discoveryTargets_mem hid hhost hlt, rfl⟩

end RoomRouter

/-! ## Leases traced back -/

section

variable {config : RouterConfig} {s s' : AppState} {e : Event} {h : Moves} {q : PeerId} {t x : Instant}
  {id : HostSessionId} {host : HostState}

theorem Renews.row (hw : s.router.WF) (he : Happens s e s') (hr : Renews q t { before := s, event := e, after := s' }) :
    ∃ (id : HostSessionId) (host : HostState), s'.router.hosts[id]? = some host ∧ host.peerId = q ∧
      host.expiresAt = t + s.router.config.hostTtl := by
  obtain ⟨o, op, rfl, -, hop, hok⟩ := hr
  obtain ⟨-, rfl⟩ := he
  show ∃ (id : HostSessionId) (host : HostState), (op.exec o s.router).2.hosts[id]? = some host ∧ _
  obtain ⟨r', he, heff⟩ := RoomRouter.exec_ok o hw hok
  rw [he]
  exact RoomRouter.renews_row heff hop

theorem Unregisters.row (he : Happens s e s')
    (hu : Unregisters q { before := s, event := e, after := s' }) :
    ∃ (id : HostSessionId) (host : HostState), s.router.hosts[id]? = some host ∧ host.peerId = q ∧
      s'.router.hosts[id]? = none := by
  obtain ⟨o, id, rfl, host, hh, hq⟩ := hu
  obtain ⟨-, rfl⟩ := he
  refine ⟨id, host, hh, hq, ?_⟩
  show ((RouterOp.unregisterHost id).exec o s.router).2.hosts[id]? = none
  have hun : (RouterOp.unregisterHost id).exec o s.router = .ok () (s.router.removeHost id) := by
    have hc : s.router.hosts.contains id = true := by
      rw [ExtTreeMap.contains_eq_isSome_getElem?, show s.router.hosts[id]? = some host from hh]
      rfl
    simp only [RouterOp.exec, RoomRouter.unregisterHost, hc, if_true]
  rw [hun]
  show (s.router.removeHost id).hosts[id]? = none
  rw [RoomRouter.removeHost_hosts, ExtTreeMap.getElem?_erase_self]

/-- A host session is as old as the last renewal of its lease, and nothing has ended it since. -/
theorem host_renewed (hr : Run (Starts config) Happens h s) (hi : s.router.hosts[id]? = some host) :
    ∃ t, host.expiresAt = t + config.hostTtl ∧ Since (Renews host.peerId t) (Keeps host.peerId) h := by
  generalize hq : host.peerId = q
  generalize hx : host.expiresAt = x
  have hsince : Since (fun m => ∃ t, x = t + config.hostTtl ∧ Renews q t m) (Keeps q) h := by
    refine hr.since (P := fun s => ∃ (id : HostSessionId) (host : HostState), s.router.hosts[id]? = some host ∧
      host.peerId = q ∧ host.expiresAt = x) ?_ ?_ ⟨id, host, hi, hq, hx⟩
    · rintro s hs ⟨id, host, hi, -⟩
      rw [hs.router] at hi
      simp [RoomRouter.new] at hi
    rintro h s e s' hr he ⟨id, host', hi', rfl, rfl⟩
    have hreach := starts_router hr
    have hw := hreach.wf
    have hw' := (he.router hreach).wf
    -- a renewal sets the deadline; any other event has left the row as it was
    by_cases hrenew : ∃ t, Renews host'.peerId t { before := s, event := e, after := s' }
    · obtain ⟨t, ht⟩ := hrenew
      obtain ⟨id₁, host₁, hi₁, hq₁, hx₁⟩ := ht.row hw he
      obtain rfl := hw'.host_unique hi₁ hi' hq₁
      rw [hi'] at hi₁
      cases hi₁
      exact Or.inl ⟨t, by rw [hx₁, hreach.config_eq], ht⟩
    have hi : s.router.hosts[id]? = some host' := by
      rcases happening_host hw (he.happening hw) id with e' | ⟨op, hperf, hchange⟩
      · exact e' ▸ hi'
      · rw [hi'] at hchange
        generalize hx : s.router.hosts[id]? = x at hchange
        cases hperf with
        | asks => cases hchange <;> [rfl; contradiction; contradiction]
        | plays => cases hchange <;> [rfl; contradiction; contradiction]
        | control hev hctl hok =>
          cases hchange with
          | same => rfl
          | registered hop => subst hop; exact absurd ⟨_, _, _, hev, hctl, rfl, hok⟩ hrenew
          | renewed hop => exact absurd ⟨_, _, _, hev, hctl, hop, hok⟩ hrenew
    obtain ⟨peer, hp, -⟩ := hw'.hostPeer id host' hi'
    obtain ⟨hdeparts, hsuspends⟩ := named_stays hw he (by rw [hp]; simp) (Or.inl ⟨id, host', hi', rfl⟩)
    refine Or.inr ⟨⟨fun t ht => hrenew ⟨t, ht⟩, fun hu => ?_, hdeparts, hsuspends⟩, id, host', hi, rfl, rfl⟩
    obtain ⟨id₁, host₁, hi₁, hq₁, hnone⟩ := hu.row he
    obtain rfl := hw.host_unique hi₁ hi hq₁
    rw [hi'] at hnone
    cases hnone
  obtain ⟨t, ht⟩ := since_exists hsince
  obtain ⟨m, -, hexp, -⟩ := ht.mem
  exact ⟨t, hexp, ht.imp (fun m hm => hm.2) fun m hm => hm⟩

/-- The sweep has come at or after the deadline. -/
def SweptAfter (x : Instant) (m : Move AppState Event) : Prop := ∃ o t, m.event = .control o (.expire t) ∧ x ≤ t

/-- A lease that has been renewed and kept since still stands, or else a sweep has come after its end. -/
theorem host_held (hr : Run (Starts config) Happens h s) (hs : Since (Renews q t) (Keeps q) h) :
    (∃ (id : HostSessionId) (host : HostState), s.router.hosts[id]? = some host ∧ host.peerId = q ∧
      host.expiresAt = t + config.hostTtl) ∨ ∃ m ∈ h, SweptAfter (t + config.hostTtl) m := by
  refine hr.of_since (P := fun s => ∃ (id : HostSessionId) (host : HostState), s.router.hosts[id]? = some host ∧
    host.peerId = q ∧ host.expiresAt = t + config.hostTtl) ?_ ?_ hs
  · intro h s e s' hr he ht
    have hreach := starts_router hr
    rw [← hreach.config_eq]
    exact ht.row hreach.wf he
  rintro h s e s' hr he hkeeps ⟨id, host, hi, rfl, hx⟩
  have hreach := starts_router hr
  have hw := hreach.wf
  have hhappen := he.happening hw
  rcases happening_host hw hhappen id with e' | ⟨op, hperf, hchange⟩
  · exact Or.inl ⟨id, host, e' ▸ hi, rfl, hx⟩
  rw [hi] at hchange
  generalize hy : s'.router.hosts[id]? = y at hchange
  -- each way to lose the row contradicts `Keeps`, the sweep at the deadline apart
  cases hperf with
  | asks => cases hchange <;> first | exact Or.inl ⟨id, host, hy, rfl, hx⟩ | contradiction
  | plays => cases hchange <;> first | exact Or.inl ⟨id, host, hy, rfl, hx⟩ | contradiction
  | @control o op hev hctl hok =>
    subst hev
    cases hchange with
    | same => exact Or.inl ⟨id, host, hy, rfl, hx⟩
    | renewed hop => exact absurd ⟨_, _, rfl, hctl, hop, hok⟩ (hkeeps.renewed _)
    | replaced hop => exact absurd ⟨_, _, rfl, hctl, hop, hok⟩ (hkeeps.renewed _)
    | unregistered hop => subst hop; exact absurd ⟨_, _, rfl, _, hi, rfl⟩ hkeeps.unregistered
    | left hop =>
      subst hop
      obtain ⟨peer, hp, -⟩ := hw.hostPeer id host hi
      refine absurd ⟨?_, ?_⟩ hkeeps.stays
      · rw [hp]; simp
      · rw [he.2]; exact RoomRouter.leaveRoom_gone hw hok
    | swept hop hp hswept =>
      subst hop
      rcases hswept with hle | hspared
      · exact Or.inr ⟨_, _, rfl, hx ▸ hle⟩
      · have hrow := RoomRouter.not_spared o hw hp hspared
        obtain ⟨-, rfl⟩ := he
        rcases hrow with hnone | ⟨hconnected, peer', hp', hd⟩
        · exact absurd ⟨by rw [hp]; simp, hnone⟩ hkeeps.stays
        · exact absurd ⟨_, peer', hp, hconnected, hp', hd⟩ hkeeps.connected

/-! ## Fan-out -/

/-- The lease of the peer runs: it was renewed last less than `host_ttl` ago, and kept since. -/
def Leases (config : RouterConfig) (h : Moves) (q : PeerId) (now : Instant) : Prop :=
  ∃ t, now < t + config.hostTtl ∧ Since (Renews q t) (Keeps q) h

/-- Where no sweep has seen the future, who has a host session in time is whose lease runs. -/
theorem leases_iff (hr : Run (Starts config) Happens h s) {now : Instant} (hclock : ∀ t ∈ readings h, t ≤ now) :
    Leases config h q now ↔ ∃ (id : HostSessionId) (host : HostState), s.router.hosts[id]? = some host ∧
      host.peerId = q ∧ now < host.expiresAt := by
  constructor
  · rintro ⟨t, hlt, hs⟩
    rcases host_held hr hs with ⟨id, host, hi, hq, hx⟩ | ⟨m, hm, o, t', hev, hle⟩
    · exact ⟨id, host, hi, hq, by rw [hx]; exact hlt⟩
    -- a sweep after the deadline would have been a reading of the clock later than now
    · have ht' : t' ≤ now := hclock t' (List.mem_filterMap.2 ⟨m, hm, by rw [hev]; rfl⟩)
      exact absurd (hle.trans ht') (Nat.not_le.2 hlt)
  · rintro ⟨id, host, hi, rfl, hlt⟩
    obtain ⟨t, hx, hs⟩ := host_renewed hr hi
    exact ⟨t, by rw [← hx]; exact hlt, hs⟩

/-- A discovery request that is accepted goes to exactly the peers of the room whose lease runs, once to
each, at their own addresses, and carries the address of the peer that asks. -/
theorem discovery_fanout (hr : Run (Starts config) Happens h s) {o : WalkOrder} {relayPort : UInt16}
    {source : SocketAddr}
    {packet : List UInt8} {limiterNow now : Instant} (hclock : ∀ t ∈ readings h, t ≤ now) {out : List OutboundDatagram}
    (hok : (handleDatagram o relayPort s source packet limiterNow now).1 = .ok out) {p : PeerId}
    {envelope : RelayEnvelope}
    (hfrom : FromPeer s source packet p envelope) {requestId : DiscoveryRequestId} {port : Civ6UdpPort}
    {payload : List UInt8} (hmsg : envelope.message = .discoveryRequest requestId port payload) :
    ∃ ip, s.router.peerVirtualIp p = some ip ∧ ∃ hosts : List (PeerId × VirtualIp), (hosts.map Prod.fst).Nodup ∧
      (∀ q hostIp, (q, hostIp) ∈ hosts ↔ s.router.peerVirtualIp q = some hostIp ∧
        s.router.roomForPeer q = s.router.roomForPeer p ∧ Leases config h q now) ∧
      out = hosts.map fun host =>
        { destination := relayDestination host.2 relayPort
          message := .discoveryToHost requestId ip port payload
          «meta» := envelope.meta } := by
  have hw := (starts_router hr).wf
  have hh := handleDatagram_handles o relayPort hw source packet limiterNow now
  generalize handleDatagram o relayPort s source packet limiterNow now = x at hh hok
  cases hh with
  | refused => cases hok
  | duplicate => cases hok
  | failed => cases hok
  | answered hpass hprobe =>
    obtain ⟨-, rfl⟩ := hfrom.passes hw hpass
    rw [hmsg] at hprobe
    cases hprobe
  | routed hpass _ _ _ hrouted =>
    obtain ⟨rfl, rfl⟩ := hfrom.passes hw hpass
    have hp := hpass.registered
    cases hok
    cases hrouted with
    | response hmsg' => rw [hmsg] at hmsg'; cases hmsg'
    | gameplay hmsg' => rw [hmsg] at hmsg'; cases hmsg'
    | @request _ _ _ room _ hmsg' hroom =>
      rw [hmsg] at hmsg'
      cases hmsg'
      change s.router.rooms[_]? = some room at hroom
      refine ⟨_, by rw [RoomRouter.peerVirtualIp, hp, Option.map_some],
        (RoomRouter.discoveryTargets o s.router room now).map fun target => (target.hostPeerId, target.hostVirtualIp),
        ?_, fun q hostIp => ?_, ?_⟩
      · rw [List.map_map]
        exact RoomRouter.discoveryTargets_nodup o hw room now
      · rw [leases_iff hr hclock]
        exact RoomRouter.discoveryTargets_iff o hw hp hroom
      · rw [List.map_map]
        rfl

end

open RoomRouter in
/-- The request of the guest goes to a peer at the address of the host, whose lease runs. -/
theorem guest_reaches_host : ∃ q, (Example.booted.final Example.gathering).router.peerVirtualIp q = some Example.ip ∧
    Leases {} (Example.booted.replay Example.gathering) q 1 := by
  have hclock : ∀ t ∈ readings (Example.booted.replay Example.gathering), t ≤ 1 := by decide
  have hok : (handleDatagram .sorted 32000 (Example.booted.final Example.gathering) (Example.sender Example.guestIp)
      Example.request 1 1).1 =
        .ok [{ Example.toHost with message := .discoveryToHost (.ofByte 9) Example.guestIp ⟨62900⟩ [7] }] := by
    decide +kernel
  have hfrom : FromPeer (Example.booted.final Example.gathering) (Example.sender Example.guestIp) Example.request
      Example.guest { message := .discoveryRequest (.ofByte 9) ⟨62900⟩ [7], «meta» := {} } :=
    ⟨by decide +kernel, _, rfl, by decide +kernel⟩
  obtain ⟨ip, -, hosts, -, hmem, hout⟩ :=
    discovery_fanout (replay_run Example.booted_starts Example.gathering_permitted) hclock hok hfrom rfl
  rcases hosts with _ | ⟨⟨q, hostIp⟩, rest⟩
  · cases hout
  · obtain ⟨hq, -, hlease⟩ := (hmem q hostIp).1 List.mem_cons_self
    simp only [List.map_cons, List.cons.injEq, OutboundDatagram.mk.injEq] at hout
    obtain rfl := relayDestination_ip (congrArg SocketAddr.ip hout.1.1)
    exact ⟨q, hq, hlease⟩

/-! ## Gameplay after the lease -/

namespace RoomRouter

variable {config : RouterConfig} {r : RoomRouter}

/-- The host of the session has a host session in the room of the session, and its lease runs. -/
def Leased (r : RoomRouter) (k : GameplaySessionId) (now : Instant) : Prop :=
  ∃ (session : GameplayState) (id : HostSessionId) (host : HostState), r.gameplay[k]? = some session ∧
    r.hosts[id]? = some host ∧ host.peerId = session.hostPeerId ∧ host.roomId = session.roomId ∧ now < host.expiresAt

/-- The lease of the host session under the session is over and no sweep has come since, while the
session, which the peer is an end of, has been active of late. -/
def Overdue (r : RoomRouter) (k : GameplaySessionId) (p : PeerId) (now : Instant) : Prop :=
  ∃ (session : GameplayState) (id : HostSessionId) (host : HostState), r.gameplay[k]? = some session ∧
    now < session.expiresAt ∧ (p = session.clientPeerId ∨ p = session.hostPeerId) ∧ r.hosts[id]? = some host ∧
    host.peerId = session.hostPeerId ∧ host.roomId = session.roomId ∧ host.expiresAt ≤ now

/-- A packet of an end of a session is routed as long as the session has been active of late. -/
theorem routes_iff (r : RoomRouter) (k : GameplaySessionId) (p : PeerId) (now : Instant) :
    (∃ route r', r.routeGameplayDatagram k p now = .ok route r') ↔ ∃ session : GameplayState,
      r.gameplay[k]? = some session ∧ now < session.expiresAt ∧
        (p = session.clientPeerId ∨ p = session.hostPeerId) := by
  unfold routeGameplayDatagram otherEnd
  constructor
  · rintro ⟨route, r', h⟩
    split at h
    · cases h
    rename_i session hs
    split at h
    · cases h
    rename_i hlt
    refine ⟨session, hs, Nat.not_le.1 hlt, ?_⟩
    by_cases hc : p = session.clientPeerId
    · exact Or.inl hc
    by_cases hq : p = session.hostPeerId
    · exact Or.inr hq
    rw [if_neg hc, if_neg hq] at h
    cases h
  · rintro ⟨session, hs, hlt, hp⟩
    rw [hs]
    dsimp only
    rw [if_neg (Nat.not_le.2 hlt)]
    by_cases hc : p = session.clientPeerId
    · rw [if_pos hc]; exact ⟨_, _, rfl⟩
    · rw [if_neg hc, if_pos (hp.resolve_left hc)]; exact ⟨_, _, rfl⟩

/-- Gameplay needs a running lease exactly where no lease is over with the sweep still to come, which is
so whenever a sweep has just been. -/
theorem gameplay_leased_iff (h : Reachable config r) (k : GameplaySessionId) (p : PeerId) (now : Instant) :
    (((∃ route r', r.routeGameplayDatagram k p now = .ok route r') → r.Leased k now) ↔ ¬ r.Overdue k p now) ∧
      ∀ o, ¬ (expire o r now).2.Overdue k p now := by
  have hw := h.wf
  refine ⟨⟨?_, ?_⟩, ?_⟩
  · rintro hleased ⟨session, id, host, hk, hlt, hp, hi, hq, -, hle⟩
    obtain ⟨session', id', host', hk', hi', hq', -, hlt'⟩ := hleased ((routes_iff r k p now).2 ⟨session, hk, hlt, hp⟩)
    rw [hk] at hk'
    cases hk'
    obtain rfl := hw.host_unique hi hi' (hq.trans hq'.symm)
    rw [hi] at hi'
    cases hi'
    exact absurd hlt' (Nat.not_lt.2 hle)
  -- the session has a host session under it, so its lease either runs or is overdue
  · intro hnot hroutes
    obtain ⟨session, hk, hlt, hp⟩ := (routes_iff r k p now).1 hroutes
    obtain ⟨id, host, hi, hq, hroom⟩ := h.served k session hk
    refine ⟨session, id, host, hk, hi, hq, hroom, ?_⟩
    by_contra hle
    exact hnot ⟨session, id, host, hk, hlt, hp, hi, hq, hroom, Nat.not_lt.1 hle⟩
  · rintro o ⟨session, id, host, hk, -, -, hi, hq, hroom, hle⟩
    obtain ⟨-, -, hlive, -⟩ := (expire_gameplay o hw now).1 hk
    obtain ⟨hi, -⟩ := (expire_hosts o hw now).1 hi
    exact absurd (hlive id host hi hq hroom) (Nat.not_lt.2 hle)

namespace Example

/-- The lease of the host is over. -/
def later : Instant := Duration.fromSecs 15

end Example

/-- The guest plays while the lease of the host runs. -/
theorem guest_leased : (Example.booted.final Example.selecting).router.Leased Example.session 1 := by
  have hreach : Reachable {} (Example.booted.final Example.selecting).router :=
    starts_router (replay_run Example.booted_starts Example.selecting_permitted)
  have hroutes : ∃ route r', (Example.booted.final Example.selecting).router.routeGameplayDatagram Example.session
      Example.guest 1 = .ok route r' := ⟨_, _, rfl⟩
  have hleases : ∀ x ∈ (Example.booted.final Example.selecting).router.hosts.toList, ¬ x.2.expiresAt ≤ 1 := by
    decide +kernel
  refine (gameplay_leased_iff hreach Example.session Example.guest 1).1.2 ?_ hroutes
  rintro ⟨-, id, host, -, -, -, hi, -, -, hle⟩
  exact hleases (id, host) (ExtTreeMap.mem_toList_iff_getElem?_eq_some.2 hi) hle

/-- Without a sweep the guest plays on when the lease of the host is over. -/
theorem outlived_lease : ¬ ∀ r, Reachable {} r → ∀ k p now,
    (∃ route r', r.routeGameplayDatagram k p now = .ok route r') → r.Leased k now := by
  intro hall
  have hreach : Reachable {} (Example.booted.final Example.selecting).router :=
    starts_router (replay_run Example.booted_starts Example.selecting_permitted)
  have hroutes : ∃ route r', (Example.booted.final Example.selecting).router.routeGameplayDatagram Example.session
      Example.guest Example.later = .ok route r' := ⟨_, _, rfl⟩
  obtain ⟨session, id, host, hk, hi, hq, -, hlt⟩ := hall _ hreach _ _ _ hroutes
  have hserver : ((Example.booted.final Example.selecting).router.gameplay[Example.session]?).map
    GameplayState.hostPeerId =
      some Example.peer := by decide +kernel
  have hlease : ((Example.booted.final Example.selecting).router.hosts[Example.host]?).map
      (fun host => (host.peerId, host.expiresAt)) = some (Example.peer, Example.later) := by decide +kernel
  obtain ⟨host', hi', e⟩ := Option.map_eq_some_iff.1 hlease
  obtain ⟨hpeer, hexpires⟩ := Prod.mk.inj e
  rw [hk] at hserver
  obtain rfl := hreach.wf.host_unique hi hi' ((hq.trans (Option.some.inj hserver)).trans hpeer.symm)
  rw [hi] at hi'
  cases hi'
  rw [hexpires] at hlt
  exact absurd hlt (Nat.lt_irrefl _)

end RoomRouter

end Civ6LanBridge

/-
What an operation does to one row: each table has its own few ways in which a row appears, changes and
goes, and the histories of peers, hosts, discoveries and gameplay sessions are read off them.
-/
import Civ6LanBridge.Router.Membership

namespace Civ6LanBridge

open Std FinMap Table RoomRouter

/-! ## Operations by what they ask for -/

namespace RouterOp

/-- The peer that is to enter a room, and when; restoring is joining. -/
def enters : RouterOp → Option (RoomId × PeerId × VirtualIp × Instant)
  | joinRoom roomId peerId virtualIp now | restorePeer roomId peerId virtualIp now =>
    some (roomId, peerId, virtualIp, now)
  | _ => none

/-- The peer whose host session is to be created or renewed, and when. -/
def renews (r : RoomRouter) : RouterOp → Option (PeerId × Instant)
  | registerHost _ peerId now _ => some (peerId, now)
  | heartbeatHost hostSessionId now | heartbeatHostForRoom _ _ hostSessionId now =>
    (r.hosts[hostSessionId]?).map fun host => (host.peerId, now)
  | _ => none

/-- The discovery request that is to be recorded, its client, and when. -/
def asks : RouterOp → Option (DiscoveryRequestId × PeerId × Instant)
  | beginDiscovery _ clientPeerId requestId _ now => some (requestId, clientPeerId, now)
  | dispatch (.discovery sourcePeerId requestId _ _ now) => some (requestId, sourcePeerId, now)
  | _ => none

/-- The gameplay session that is to carry a packet, the sender, and when. -/
def plays : RouterOp → Option (GameplaySessionId × PeerId × Instant)
  | routeGameplayDatagram sessionId sourcePeerId now => some (sessionId, sourcePeerId, now)
  | dispatch (.gameplay sessionId sourcePeerId _ _ now) => some (sessionId, sourcePeerId, now)
  | _ => none

end RouterOp

/-! ## Rows -/

/-- What happens to the row of a peer. -/
inductive PeerChange (config : RouterConfig) (op : RouterOp) (p : PeerId) : Option PeerState → Option PeerState → Prop
  | same {x} : PeerChange config op p x x
  | entered {roomId ip now} : op.enters = some (roomId, p, ip, now) →
      PeerChange config op p none
        (some { roomId, virtualIp := ip, lastSeen := now, disconnectedAt := none, connectionEpoch := 1 })
  | left {peer} : op = .leaveRoom peer.roomId p → PeerChange config op p (some peer) none
  | seen {peer now} : peer.disconnectedAt = none →
      PeerChange config op p (some peer) (some { peer with lastSeen := now })
  | resumed {peer now} : op = .resumePeer peer.roomId p now → graceOver config peer now = false →
      PeerChange config op p (some peer) (some (resumed peer now))
  | swept {peer now} : op = .expire now →
      PeerChange config op p (some peer)
        (if peer.Lapses config now then none else some (peer.afterSilence config now))

/-- The sweep leaves the peer as it is. -/
structure PeerState.Spared (peer : PeerState) (config : RouterConfig) (now : Instant) : Prop where
  heard : silent config peer now = false
  inGrace : graceOver config peer now = false

/-- What happens to the row of a host session. -/
inductive HostChange (r : RoomRouter) (op : RouterOp) (k : HostSessionId) : Option HostState → Option HostState → Prop
  | same {x} : HostChange r op k x x
  | registered {peerId peer now} : op = .registerHost peer.roomId peerId now k → r.peers[peerId]? = some peer →
      HostChange r op k none
        (some { roomId := peer.roomId, peerId, virtualIp := peer.virtualIp, lastHeartbeat := now,
                expiresAt := now + r.config.hostTtl })
  | renewed {host now} : op.renews r = some (host.peerId, now) → now < host.expiresAt →
      HostChange r op k (some host) (some { host with lastHeartbeat := now, expiresAt := now + r.config.hostTtl })
  | replaced {host now} : op.renews r = some (host.peerId, now) → host.expiresAt ≤ now →
      HostChange r op k (some host) none
  | unregistered {host} : op = .unregisterHost k → HostChange r op k (some host) none
  | left {host} : op = .leaveRoom host.roomId host.peerId → HostChange r op k (some host) none
  | swept {host peer now} : op = .expire now → r.peers[host.peerId]? = some peer →
      host.expiresAt ≤ now ∨ ¬ peer.Spared r.config now → HostChange r op k (some host) none

/-- What happens to the row of a discovery request. -/
inductive DiscoveryChange (r : RoomRouter) (op : RouterOp) (k : DiscoveryRequestId) :
    Option DiscoveryState → Option DiscoveryState → Prop
  | same {x} : DiscoveryChange r op k x x
  | asked {x p peer roomId port now} : op.asks = some (k, p, now) → r.peers[p]? = some peer → peer.roomId = roomId →
      (∀ discovery, x = some discovery → discovery.clientPeerId = p ∧ discovery.roomId = roomId) →
      DiscoveryChange r op k x
        (some { roomId, clientPeerId := p, destinationPort := port, expiresAt := now + r.config.discoveryTtl })
  | ended {x} : DiscoveryChange r op k x none

/-- What happens to the row of a gameplay session. -/
inductive GameplayChange (r : RoomRouter) (op : RouterOp) (k : GameplaySessionId) :
    Option GameplayState → Option GameplayState → Prop
  | same {x} : GameplayChange r op k x x
  | selected {p peer hostId host now} : op = .selectHost peer.roomId p hostId now k → r.peers[p]? = some peer →
      r.hosts[hostId]? = some host → host.roomId = peer.roomId → now < host.expiresAt →
      GameplayChange r op k none
        (some { roomId := peer.roomId, clientPeerId := p, hostPeerId := host.peerId, hostVirtualIp := host.virtualIp,
                clientVirtualIp := peer.virtualIp, lastActivity := now, expiresAt := now + r.config.gameplayIdleTtl })
  | played {session p now} : op.plays = some (k, p, now) → now < session.expiresAt →
      p = session.clientPeerId ∨ p = session.hostPeerId →
      GameplayChange r op k (some session)
        (some { session with lastActivity := now, expiresAt := now + r.config.gameplayIdleTtl })
  | ended {x} : GameplayChange r op k x none

namespace RoomRouter

variable {r r' : RoomRouter} {o : WalkOrder} {op : RouterOp} {p : PeerId} {peer : PeerState} {now : Instant}

/-! ## The sweep -/

/-- A registered peer is among those the sweep suspends or removes exactly if it is not spared. -/
theorem swept_iff (hp : r.peers[p]? = some peer) :
    let L := r.ledger.endSessions now
    let D : PeerId → Prop := L.which fun peer => silent r.config peer now
    (¬ D p ∧ ¬ (L.suspend D now).which (fun peer => graceOver r.config peer now) p) ↔ peer.Spared r.config now := by
  intro L D
  have hD : D p ↔ silent r.config peer now = true := by
    simp [D, L, Ledger.which, Ledger.endSessions, ledger, look, hp]
  have hpeer : L.peer p = some peer := hp
  by_cases hs : silent r.config peer now = true
  · exact ⟨fun h => absurd (hD.2 hs) h.1, fun h => absurd h.heard (by simp [hs])⟩
  · have hnD : ¬ D p := fun h => hs (hD.1 h)
    have hgrace : (L.suspend D now).which (fun peer => graceOver r.config peer now) p ↔
        graceOver r.config peer now = true := by
      simp [Ledger.which, Ledger.suspend, hpeer, hnD]
    rw [hgrace, Bool.not_eq_true]
    exact ⟨fun h => ⟨Bool.not_eq_true _ ▸ hs, h.2⟩, fun h => ⟨hnD, h.inGrace⟩⟩

theorem expire_hosts (o : WalkOrder) (h : r.WF) (now : Instant) {k : HostSessionId} {host : HostState} :
    (expire o r now).2.hosts[k]? = some host ↔ r.hosts[k]? = some host ∧ now < host.expiresAt ∧
      ∃ peer, r.peers[host.peerId]? = some peer ∧ peer.Spared r.config now := by
  have hl : (expire o r now).2.hosts[k]? = _ := congrFun (congrArg Ledger.host (ledger_expire o h now)) k
  rw [hl]
  show keep _ (keep _ (keep _ (look r.hosts))) k = _ ↔ _
  rw [keep_eq_some, keep_eq_some, keep_eq_some, and_assoc, and_assoc]
  refine and_congr_right fun hk => and_congr_right fun _ => ?_
  obtain ⟨peer, hp, -⟩ := h.hostPeer k host hk
  simp only [hp, Option.some.injEq, exists_eq_left']
  exact swept_iff hp

theorem expire_discoveries (o : WalkOrder) (h : r.WF) (now : Instant) {k : DiscoveryRequestId}
    {discovery : DiscoveryState} :
    (expire o r now).2.discoveries[k]? = some discovery ↔ r.discoveries[k]? = some discovery ∧
      now < discovery.expiresAt ∧ ∃ peer, r.peers[discovery.clientPeerId]? = some peer ∧ peer.Spared r.config now := by
  have hl : (expire o r now).2.discoveries[k]? = _ := congrFun (congrArg Ledger.discovery (ledger_expire o h now)) k
  rw [hl]
  show keep _ (keep _ (keep _ (look r.discoveries))) k = _ ↔ _
  rw [keep_eq_some, keep_eq_some, keep_eq_some, and_assoc, and_assoc]
  refine and_congr_right fun hk => and_congr_right fun _ => ?_
  obtain ⟨peer, hp, -⟩ := h.discoveryClient k discovery hk
  simp only [hp, Option.some.injEq, exists_eq_left']
  exact swept_iff hp

theorem expire_gameplay (o : WalkOrder) (h : r.WF) (now : Instant) {k : GameplaySessionId} {session : GameplayState} :
    (expire o r now).2.gameplay[k]? = some session ↔ r.gameplay[k]? = some session ∧ now < session.expiresAt ∧
      (∀ (id : HostSessionId) (host : HostState), r.hosts[id]? = some host → host.peerId = session.hostPeerId →
        host.roomId = session.roomId → now < host.expiresAt) ∧
      (∃ peer, r.peers[session.clientPeerId]? = some peer ∧ peer.Spared r.config now) ∧
      ∃ peer, r.peers[session.hostPeerId]? = some peer ∧ peer.Spared r.config now := by
  have hl : (expire o r now).2.gameplay[k]? = _ := congrFun (congrArg Ledger.gameplay (ledger_expire o h now)) k
  rw [hl]
  show keep _ (keep _ (keep _ (look r.gameplay))) k = _ ↔ _
  rw [keep_eq_some, keep_eq_some, keep_eq_some]
  constructor
  · rintro ⟨⟨⟨hk, hhost, he⟩, hc, hs⟩, hc', hs'⟩
    obtain ⟨client, hp, -⟩ := h.gameplayClient k session hk
    obtain ⟨server, hq, -⟩ := h.gameplayHost k session hk
    refine ⟨hk, he, fun id host hi ho hr => ?_, ⟨client, hp, (swept_iff hp).1 ⟨hc, hc'⟩⟩,
      server, hq, (swept_iff hq).1 ⟨hs, hs'⟩⟩
    by_contra hle
    exact hhost ⟨id, host, hi, Nat.not_lt.1 hle, ho, hr⟩
  · rintro ⟨hk, he, hhost, ⟨client, hp, hc⟩, server, hq, hs⟩
    obtain ⟨hc, hc'⟩ := (swept_iff hp).2 hc
    obtain ⟨hs, hs'⟩ := (swept_iff hq).2 hs
    refine ⟨⟨⟨hk, ?_, he⟩, hc, hs⟩, hc', hs'⟩
    rintro ⟨id, host, hi, hle, ho, hr⟩
    exact absurd (hhost id host hi ho hr) (Nat.not_lt.2 hle)

/-! ## A departure -/

theorem without_peers : (without o r p peer).peers = r.peers.erase p := by
  show (removePeerSessions o r _ p).peers.erase p = _
  rw [removePeerSessions_peers]

theorem without_hosts (h : r.WF) (hp : r.peers[p]? = some peer) {k : HostSessionId} {host : HostState} :
    (without o r p peer).hosts[k]? = some host ↔ r.hosts[k]? = some host ∧ host.peerId ≠ p := by
  have hl : (without o r p peer).hosts[k]? = _ := congrFun (congrArg Ledger.host (ledger_without o h hp)) k
  rw [hl]
  exact keep_eq_some

theorem without_discoveries (h : r.WF) (hp : r.peers[p]? = some peer) {k : DiscoveryRequestId}
    {discovery : DiscoveryState} :
    (without o r p peer).discoveries[k]? = some discovery ↔ r.discoveries[k]? = some discovery ∧
      discovery.clientPeerId ≠ p := by
  have hl : (without o r p peer).discoveries[k]? = _ := congrFun (congrArg Ledger.discovery (ledger_without o h hp)) k
  rw [hl]
  exact keep_eq_some

theorem without_gameplay (h : r.WF) (hp : r.peers[p]? = some peer) {k : GameplaySessionId} {session : GameplayState} :
    (without o r p peer).gameplay[k]? = some session ↔
      r.gameplay[k]? = some session ∧ session.clientPeerId ≠ p ∧ session.hostPeerId ≠ p := by
  have hl : (without o r p peer).gameplay[k]? = _ := congrFun (congrArg Ledger.gameplay (ledger_without o h hp)) k
  rw [hl]
  exact keep_eq_some

/-! ## Peers -/

theorem effect_peer (h : r.WF) (he : Effect o r op r') (p : PeerId) :
    PeerChange r.config op p (r.peers[p]?) (r'.peers[p]?) := by
  -- a restored peer enters as one that joins
  have hjoin : ∀ {op roomId q ip now r'}, Effect o r (.joinRoom roomId q ip now) r' →
      op.enters = some (roomId, q, ip, now) → PeerChange r.config op p (r.peers[p]?) (r'.peers[p]?) := by
    intro op roomId q ip now r' he hop
    cases he with
    | join _ _ _ hq _ =>
      refine insert_row (P := PeerChange _ _ _ _) .same ?_
      rintro rfl
      rw [hq]
      exact .entered hop
  cases he with
  | join hr hm ht hp hip => exact hjoin (.join hr hm ht hp hip) rfl
  | restore he => exact hjoin he rfl
  | @leave q peer hq =>
    rw [without_peers]
    refine erase_row (P := PeerChange _ _ _ _) .same ?_
    rintro rfl
    rw [hq]
    exact .left rfl
  | @seen q peer now hq hd =>
    refine modify_row (P := PeerChange _ _ _ _) hq .same ?_
    rintro rfl
    rw [hq]
    exact .seen hd
  | @resume q peer now hq hg =>
    refine modify_row (P := PeerChange _ _ _ _) hq .same ?_
    rintro rfl
    rw [hq]
    exact .resumed rfl hg
  | @rehost hostId =>
    show PeerChange _ _ _ _ ((r.removeHost hostId).peers[p]?)
    rw [removeHost_peers]
    exact .same
  | unhost =>
    rw [removeHost_peers]
    exact .same
  | beatForRoom _ he => cases he; exact .same
  | @dispatchDiscovery _ peer _ _ _ _ _ _ he =>
    generalize peer.roomId = roomId at he
    cases he <;> exact .same
  | dispatchGameplay he => cases he; exact .same
  | @expire now =>
    rw [expire_peers o h]
    cases r.peers[p]? with
    | none => exact .same
    | some peer => exact .swept rfl
  | _ => exact .same

/-! ## Hosts -/

/-- A row of which some are kept is kept or goes. -/
theorem kept_cases {V : Type} {x y : Option V} {Q : V → Prop} (h : ∀ v, y = some v ↔ x = some v ∧ Q v) :
    y = x ∨ ∃ v, x = some v ∧ ¬ Q v ∧ y = none := by
  cases hx : x with
  | none =>
    refine Or.inl (Option.eq_none_iff_forall_ne_some.2 fun v hv => ?_)
    rw [((h v).1 hv).1] at hx
    cases hx
  | some v =>
    by_cases hq : Q v
    · exact Or.inl ((h v).2 ⟨hx, hq⟩)
    · refine Or.inr ⟨v, rfl, hq, Option.eq_none_iff_forall_ne_some.2 fun w hw => ?_⟩
      obtain ⟨hw, hqw⟩ := (h w).1 hw
      rw [hx] at hw
      cases hw
      exact hq hqw

theorem beat_change {hostId k : HostSessionId} {host : HostState} (hh : r.hosts[hostId]? = some host)
    (hlt : now < host.expiresAt) (hop : op.renews r = some (host.peerId, now)) :
    HostChange r op k (r.hosts[k]?) ((r.beat hostId now).hosts[k]?) := by
  refine modify_row (P := HostChange _ _ _ _) hh .same ?_
  rintro rfl
  rw [hh]
  exact .renewed hop hlt

theorem effect_host (h : r.WF) (hf : op.Fresh r) (he : Effect o r op r') (k : HostSessionId) :
    HostChange r op k (r.hosts[k]?) (r'.hosts[k]?) := by
  cases he with
  | @leave q peer hq =>
    obtain e | ⟨host, hk, hne, e⟩ := kept_cases (y := (without o r q peer).hosts[k]?) fun host => without_hosts h hq
    · rw [e]; exact .same
    · rw [hk, e]
      obtain ⟨peer', hp', hs⟩ := h.hostPeer k host hk
      obtain rfl : host.peerId = q := not_not.1 hne
      rw [hq] at hp'
      cases hp'
      exact .left (by rw [hs.1])
  | @host q peer room now fresh hq =>
    refine insert_row (P := HostChange _ _ _ _) .same ?_
    rintro rfl
    rw [show r.hosts[fresh]? = none from hf]
    exact .registered rfl hq
  | hostAgain hh hlt => exact beat_change hh hlt rfl
  -- two rows change: the expired session goes and a fresh one comes
  | @rehost hostId host peer now fresh hh hle hq hroom =>
    refine insert_row (P := HostChange _ _ _ _) ?_ ?_
    · rw [removeHost_hosts]
      refine erase_row (P := HostChange _ _ _ _) .same ?_
      rintro rfl
      rw [hh]
      exact .replaced rfl hle
    · rintro rfl
      rw [show r.hosts[fresh]? = none from hf, removeHost_config]
      exact .registered (by rw [hroom]) hq
  | beat hh hlt => exact beat_change hh hlt (by simp [RouterOp.renews, hh])
  | beatForRoom hh he =>
    cases he with
    | beat hh hlt => exact beat_change hh hlt (by simp [RouterOp.renews, hh])
  | @unhost hostId host hh =>
    rw [removeHost_hosts]
    refine erase_row (P := HostChange _ _ _ _) .same ?_
    rintro rfl
    rw [hh]
    exact .unregistered rfl
  | restore he => cases he; exact .same
  | @dispatchDiscovery _ peer _ _ _ _ _ _ he =>
    generalize peer.roomId = roomId at he
    cases he <;> exact .same
  | dispatchGameplay he => cases he; exact .same
  | @expire now =>
    obtain e | ⟨host, hk, hne, e⟩ := kept_cases (y := (expire o r now).2.hosts[k]?) fun host => expire_hosts o h now
    · rw [e]; exact .same
    · rw [hk, e]
      obtain ⟨peer, hp, -⟩ := h.hostPeer k host hk
      refine .swept rfl hp ?_
      by_contra hkeep
      simp only [not_or, Nat.not_le, not_not] at hkeep
      exact hne ⟨hkeep.1, peer, hp, hkeep.2⟩
  | _ => exact .same

/-! ## Discoveries -/

theorem effect_discovery (h : r.WF) (he : Effect o r op r') (k : DiscoveryRequestId) :
    DiscoveryChange r op k (r.discoveries[k]?) (r'.discoveries[k]?) := by
  -- a request enters by an operation of its own and by the dispatch of a datagram
  have hbegin : ∀ {op roomId q id port now r'}, Effect o r (.beginDiscovery roomId q id port now) r' →
      op.asks = some (id, q, now) → DiscoveryChange r op k (r.discoveries[k]?) (r'.discoveries[k]?) := by
    intro op roomId q id port now r' he hop
    cases he with
    | @discover _ peer _ _ _ hq hd =>
      refine insert_row (P := DiscoveryChange _ _ _ _) .same ?_
      rintro rfl
      exact .asked hop hq rfl fun discovery hk => by rw [hd] at hk; cases hk
    | @discoverAgain _ discovery _ hd =>
      refine modify_row (P := DiscoveryChange _ _ _ _) hd .same ?_
      rintro rfl
      obtain ⟨peer, hq, hroom⟩ := h.discoveryClient id discovery hd
      rw [hd]
      refine .asked hop hq hroom fun discovery' hk => ?_
      cases hk
      exact ⟨rfl, rfl⟩
  cases he with
  | @leave q peer hq =>
    obtain e | ⟨discovery, hk, -, e⟩ := kept_cases (y := (without o r q peer).discoveries[k]?)
      fun discovery => without_discoveries h hq
    · rw [e]; exact .same
    · rw [e]; exact .ended
  | @expire now =>
    obtain e | ⟨discovery, hk, -, e⟩ := kept_cases (y := (expire o r now).2.discoveries[k]?)
      fun discovery => expire_discoveries o h now
    · rw [e]; exact .same
    · rw [e]; exact .ended
  | discover hq hd => exact hbegin (.discover hq hd) rfl
  | discoverAgain hd => exact hbegin (.discoverAgain hd) rfl
  | dispatchDiscovery hq he => exact hbegin he rfl
  | rehost => rw [show (hosted _ _ _ _ _).discoveries = _ from removeHost_discoveries r _]; exact .same
  | unhost => rw [removeHost_discoveries]; exact .same
  | restore he => cases he; exact .same
  | beatForRoom _ he => cases he; exact .same
  | dispatchGameplay he => cases he; exact .same
  | _ => exact .same

/-! ## Gameplay sessions -/

theorem removeHost_gameplay_sub {hostId : HostSessionId} {k : GameplaySessionId} {session : GameplayState}
    (hk : (r.removeHost hostId).gameplay[k]? = some session) : r.gameplay[k]? = some session := by
  have hl : (r.removeHost hostId).gameplay[k]? = _ := congrFun (removeHost_gameplay r hostId) k
  rw [hl] at hk
  exact (keep_eq_some.1 hk).1

/-- A row that was there before, if it is there. -/
theorem thinned_change {k : GameplaySessionId} {gameplay : ExtTreeMap GameplaySessionId GameplayState}
    (hs : ∀ session : GameplayState, gameplay[k]? = some session → r.gameplay[k]? = some session) :
    GameplayChange r op k (r.gameplay[k]?) (gameplay[k]?) := by
  cases hk : gameplay[k]? with
  | none => exact .ended
  | some session => rw [hs session hk]; exact .same

theorem effect_gameplay (h : r.WF) (hf : op.Fresh r) (he : Effect o r op r') (k : GameplaySessionId) :
    GameplayChange r op k (r.gameplay[k]?) (r'.gameplay[k]?) := by
  -- a packet enters by an operation of its own and by the dispatch of a datagram
  have hplay : ∀ {op sessionId q now r'}, Effect o r (.routeGameplayDatagram sessionId q now) r' →
      op.plays = some (sessionId, q, now) → GameplayChange r op k (r.gameplay[k]?) (r'.gameplay[k]?) := by
    intro op sessionId q now r' he hop
    cases he with
    | play hs hlt hend =>
      refine modify_row (P := GameplayChange _ _ _ _) hs .same ?_
      rintro rfl
      rw [hs]
      exact .played hop hlt hend
  cases he with
  | leave hq => exact thinned_change fun session hk => ((without_gameplay h hq).1 hk).1
  | expire => exact thinned_change fun session hk => ((expire_gameplay o h _).1 hk).1
  | rehost => exact thinned_change fun session hk => removeHost_gameplay_sub hk
  | unhost => exact thinned_change fun session hk => removeHost_gameplay_sub hk
  | @endGameplay sessionId =>
    refine thinned_change fun session hk => ?_
    rw [ExtTreeMap.getElem?_erase] at hk
    split at hk
    · cases hk
    · exact hk
  | @select q peer hostId host now fresh hq hh hroom hlt =>
    refine insert_row (P := GameplayChange _ _ _ _) .same ?_
    rintro rfl
    rw [show r.gameplay[fresh]? = none from hf]
    exact .selected rfl hq hh hroom hlt
  | play hs hlt hend => exact hplay (.play hs hlt hend) rfl
  | dispatchGameplay he => exact hplay he rfl
  | restore he => cases he; exact .same
  | beatForRoom _ he => cases he; exact .same
  | @dispatchDiscovery _ peer _ _ _ _ _ _ he =>
    generalize peer.roomId = roomId at he
    cases he <;> exact .same
  | _ => exact .same

/-- A peer has one host session. -/
theorem WF.host_unique (h : r.WF) {id id' : HostSessionId} {host host' : HostState} (hi : r.hosts[id]? = some host)
    (hi' : r.hosts[id']? = some host') (e : host.peerId = host'.peerId) : id = id' := by
  obtain ⟨peer, hp, hs⟩ := h.hostPeer id host hi
  obtain ⟨peer', hp', hs'⟩ := h.hostPeer id' host' hi'
  rw [e, hp'] at hp
  cases hp
  apply h.owners.unique hi hi'
  show (host.roomId, host.peerId) = (host'.roomId, host'.peerId)
  rw [← hs.1, ← hs'.1, e]

/-! ## A session has a host session under it -/

/-- Every gameplay session is on a host session of its host, in its room. -/
def Served (r : RoomRouter) : Prop :=
  ∀ (k : GameplaySessionId) (session : GameplayState), r.gameplay[k]? = some session →
    ∃ (id : HostSessionId) (host : HostState),
    r.hosts[id]? = some host ∧ host.peerId = session.hostPeerId ∧ host.roomId = session.roomId

/-- A host session takes the gameplay sessions on it along. -/
theorem removeHost_takes {hostId : HostSessionId} {host : HostState} {k : GameplaySessionId} {session : GameplayState}
    (hh : r.hosts[hostId]? = some host) (hk : (r.removeHost hostId).gameplay[k]? = some session) :
    ¬ (host.peerId = session.hostPeerId ∧ host.roomId = session.roomId) := by
  have hl : (r.removeHost hostId).gameplay[k]? = _ := congrFun (removeHost_gameplay r hostId) k
  rw [hl] at hk
  exact fun ho => (keep_eq_some.1 hk).2 ⟨host, hh, ho⟩

/-- A host session under a gameplay session that goes on goes on, too. -/
theorem effect_under (h : r.WF) (hf : op.Fresh r) (he : Effect o r op r') {id : HostSessionId} {host : HostState}
    (hh : r.hosts[id]? = some host) {k : GameplaySessionId} {session : GameplayState}
    (hk : r'.gameplay[k]? = some session) (ho : host.peerId = session.hostPeerId ∧ host.roomId = session.roomId) :
    ∃ host', r'.hosts[id]? = some host' ∧ host'.peerId = host.peerId ∧ host'.roomId = host.roomId := by
  have hc := effect_host h hf he id
  rw [hh] at hc
  cases hr : r'.hosts[id]? with
  | some host' =>
    refine ⟨host', rfl, ?_⟩
    rw [hr] at hc
    cases hc <;> exact ⟨rfl, rfl⟩
  | none =>
    -- each way a host session can go takes the gameplay sessions on it along
    exfalso
    have hbeat : ∀ {hostId now}, (r.beat hostId now).hosts[id]? ≠ none := by
      intro hostId now hb
      change (r.hosts.modify hostId _)[id]? = none at hb
      rw [ExtTreeMap.getElem?_modify] at hb
      split at hb
      · rename_i e
        rw [Std.compare_eq_iff_eq.1 e, hh] at hb
        cases hb
      · rw [hh] at hb
        cases hb
    cases he with
    | leave hq =>
      obtain ⟨-, -, hs⟩ := (without_gameplay h hq).1 hk
      have hkeep := (without_hosts (o := o) h hq).2 ⟨hh, show host.peerId ≠ _ by rw [ho.1]; exact hs⟩
      rw [hr] at hkeep
      cases hkeep
    | @rehost hostId _ peer now fresh hh' =>
      have hid : hostId = id := by
        by_contra hne
        have hfresh : fresh ≠ id := by
          rintro rfl
          rw [show r.hosts[fresh]? = none from hf] at hh
          cases hh
        change ((r.removeHost hostId).hosts.insert fresh _)[id]? = none at hr
        rw [getElem?_insert_ne hfresh, removeHost_hosts, getElem?_erase_ne hne, hh] at hr
        cases hr
      subst hid
      exact removeHost_takes hh hk ho
    | @unhost hostId =>
      have hid : hostId = id := by
        by_contra hne
        rw [removeHost_hosts, getElem?_erase_ne hne, hh] at hr
        cases hr
      subst hid
      exact removeHost_takes hh hk ho
    | @expire now =>
      obtain ⟨-, -, hlive, -, hs⟩ := (expire_gameplay o h now).1 hk
      have hkeep := (expire_hosts o h now).2 ⟨hh, hlive id host hh ho.1 ho.2, by rw [ho.1]; exact hs⟩
      rw [hr] at hkeep
      cases hkeep
    | @host q peer _ now fresh =>
      change (r.hosts.insert fresh _)[id]? = none at hr
      rw [ExtTreeMap.getElem?_insert, hh] at hr
      split at hr <;> cases hr
    | hostAgain => exact hbeat hr
    | beat => exact hbeat hr
    | beatForRoom _ he => cases he; exact hbeat hr
    | restore he => cases he; cases hh.symm.trans hr
    | @dispatchDiscovery _ peer _ _ _ _ _ _ he =>
      generalize peer.roomId = roomId at he
      cases he <;> cases hh.symm.trans hr
    | dispatchGameplay he => cases he; cases hh.symm.trans hr
    | _ => cases hh.symm.trans hr

theorem Served.effect (hs : r.Served) (h : r.WF) (hf : op.Fresh r) (he : Effect o r op r') : r'.Served := by
  intro k session hk
  -- the host session that was there before, or that has just been selected
  have hbefore : ∃ (id : HostSessionId) (host : HostState),
      r.hosts[id]? = some host ∧ host.peerId = session.hostPeerId ∧ host.roomId = session.roomId := by
    have hc := effect_gameplay h hf he k
    rw [hk] at hc
    generalize hold : r.gameplay[k]? = old at hc
    cases hc with
    | same => exact hs k session hold
    | @selected p peer hostId host now _ _ hh hroom => exact ⟨hostId, host, hh, rfl, hroom⟩
    | @played old => exact hs k old hold
  obtain ⟨id, host, hh, ho⟩ := hbefore
  obtain ⟨host', hh', e1, e2⟩ := effect_under h hf he hh hk ho
  exact ⟨id, host', hh', e1.trans ho.1, e2.trans ho.2⟩

theorem Reachable.served {config : RouterConfig} (h : Reachable config r) : r.Served := by
  refine Transition.Reachable.invariant (P := Served) ?_ ?_ h
  · rintro _ rfl k session hk
    simp [new] at hk
  · rintro s _ hreach hs ⟨o, op, hf, rfl⟩
    obtain ⟨e, he⟩ | ⟨r', he, heff⟩ := exec_does o (Reachable.wf hreach) op
    · rw [he]; exact hs
    · rw [he]; exact hs.effect (Reachable.wf hreach) hf heff

/-! ## Suspended and departed peers are let go -/

/-- A peer that an operation suspends is left without host sessions, discoveries and gameplay sessions. -/
theorem effect_suspends (h : r.WF) (he : Effect o r op r') (hp : r.peers[p]? = some peer)
    (hc : peer.disconnectedAt = none)
    {peer' : PeerState} (hp' : r'.peers[p]? = some peer') (hd : peer'.disconnectedAt ≠ none) :
    (∀ (k : HostSessionId) (v : HostState), r'.hosts[k]? = some v → v.peerId ≠ p) ∧
      (∀ (k : DiscoveryRequestId) (v : DiscoveryState), r'.discoveries[k]? = some v → v.clientPeerId ≠ p) ∧
      ∀ (k : GameplaySessionId) (v : GameplayState), r'.gameplay[k]? = some v → v.clientPeerId ≠ p ∧
        v.hostPeerId ≠ p := by
  have hchange := effect_peer h he p
  rw [hp, hp'] at hchange
  -- only a sweep suspends anybody, and only who has been silent
  obtain ⟨now, rfl, hsilent⟩ : ∃ now, op = .expire now ∧ silent r.config peer now = true := by
    generalize hy : some peer' = y at hchange
    cases hchange with
    | same => cases hy; exact absurd hc hd
    | seen => cases hy; exact absurd hc hd
    | left => cases hy
    | @resumed _ now =>
      cases hy
      refine absurd ?_ hd
      unfold resumed
      rw [hc]
    | @swept _ now hop =>
      refine ⟨now, hop, ?_⟩
      split at hy
      · cases hy
      · cases hy
        unfold PeerState.afterSilence at hd
        split at hd
        · assumption
        · exact absurd hc hd
  cases he
  have hnot : ∀ peer₁, r.peers[p]? = some peer₁ → ¬ peer₁.Spared r.config now := by
    intro peer₁ hp₁ hs
    rw [hp] at hp₁
    cases hp₁
    rw [hs.heard] at hsilent
    cases hsilent
  refine ⟨fun k v hk e => ?_, fun k v hk e => ?_, fun k v hk => ⟨fun e => ?_, fun e => ?_⟩⟩
  · obtain ⟨-, -, peer₁, hp₁, hs⟩ := (expire_hosts o h now).1 hk
    exact hnot peer₁ (e ▸ hp₁) hs
  · obtain ⟨-, -, peer₁, hp₁, hs⟩ := (expire_discoveries o h now).1 hk
    exact hnot peer₁ (e ▸ hp₁) hs
  · obtain ⟨-, -, -, ⟨peer₁, hp₁, hs⟩, -⟩ := (expire_gameplay o h now).1 hk
    exact hnot peer₁ (e ▸ hp₁) hs
  · obtain ⟨-, -, -, -, peer₁, hp₁, hs⟩ := (expire_gameplay o h now).1 hk
    exact hnot peer₁ (e ▸ hp₁) hs

end RoomRouter

end Civ6LanBridge

/-
The sweep as a whole: nothing overdue is left, everything else is left alone, the order in which it walks the
maps does not show, and a second sweep at the same time finds nothing to do.
-/
import Civ6LanBridge.Router.Change
import Civ6LanBridge.Router.Isolation

namespace Civ6LanBridge

open Std FinMap Table

namespace RoomRouter

variable {r r' : RoomRouter} {o : WalkOrder} {now : Instant} {config : RouterConfig}

/-! ## Routers with one ledger -/

/-- Well-formed routers with the same ledger are the same. -/
theorem WF.eq_of_ledger (h : r.WF) (h' : r'.WF) (hl : r.ledger = r'.ledger) (hc : r.config = r'.config) : r = r' := by
  have hv : ∀ room, r.view room = r'.view room := fun room => h.view_eq h' (by rw [hl])
  refine RoomRouter.ext hc (ExtTreeMap.ext_getElem? fun room => congrArg RoomView.room (hv room))
    (ExtTreeMap.ext_getElem? fun code => Option.ext fun room => ?_)
    (ExtTreeMap.ext_getElem? fun p => congrFun (congrArg Ledger.peer hl) p)
    (ExtTreeMap.ext_getElem? fun ip => Option.ext fun p => ?_)
    (ExtTreeMap.ext_getElem? fun k => congrFun (congrArg Ledger.host hl) k)
    (ExtTreeMap.ext_getElem? fun owner => congrFun (congrArg RoomView.owners (hv owner.1)) owner.2)
    (ExtTreeMap.ext_getElem? fun k => congrFun (congrArg Ledger.discovery hl) k)
    (ExtTreeMap.ext_getElem? fun k => congrFun (congrArg Ledger.gameplay hl) k)
  · exact iff_of_eq (congrFun (congrArg RoomView.codes (hv room)) code)
  · rw [h.addresses ip p, h'.addresses ip p]
    have hp : r.peers[p]? = r'.peers[p]? := congrFun (congrArg Ledger.peer hl) p
    rw [hp]

/-! ## The order of the walks does not show -/

/-- The keys that are collected are the same in every order. -/
theorem length_keysWhere {K V : Type} [Ord K] [TransOrd K] [LawfulEqOrd K] (o o' : WalkOrder) (p : K → V → Bool)
    (m : ExtTreeMap K V) : (keysWhere o p m).length = (keysWhere o' p m).length :=
  (((o.perm m.toList).trans (o'.perm m.toList).symm).filterMap _).length_eq

theorem expireHosts_gameplay (o o' : WalkOrder) (r : RoomRouter) (now : Instant) :
    (expireHosts o r now).gameplay = (expireHosts o' r now).gameplay := by
  refine ExtTreeMap.ext_getElem? fun k => ?_
  have hl : ∀ o, (expireHosts o r now).gameplay[k]? = _ :=
    fun o => congrFun (removeHosts_gameplay (expiredHosts o r now) r) k
  rw [hl, hl]
  simp only [expiredHosts, mem_keysWhere]

theorem expire_order (h : r.WF) (o o' : WalkOrder) (now : Instant) : expire o r now = expire o' r now := by
  refine Prod.ext ?_ ((h.expire o now).eq_of_ledger (h.expire o' now) ?_ ?_)
  · have hhosts : (expiredHosts o r now).length = (expiredHosts o' r now).length := length_keysWhere o o' _ _
    have hdiscoveries : (expiredDiscoveries o (expireHosts o r now) now).length =
        (expiredDiscoveries o' (expireHosts o' r now) now).length := by
      simp only [expiredDiscoveries, expireHosts, removeHosts_discoveries]
      exact length_keysWhere o o' _ _
    have hgameplay : (expiredGameplay o (expireDiscoveries o (expireHosts o r now) now) now).length =
        (expiredGameplay o' (expireDiscoveries o' (expireHosts o' r now) now) now).length := by
      show (keysWhere o _ (expireHosts o r now).gameplay).length =
        (keysWhere o' _ (expireHosts o' r now).gameplay).length
      rw [expireHosts_gameplay o o']
      exact length_keysWhere o o' _ _
    unfold expire
    dsimp only
    rw [hhosts, hdiscoveries, hgameplay]
  · rw [ledger_expire o h, ledger_expire o' h]
  · rw [expire_config, expire_config]

/-! ## Nothing overdue is left -/

/-- Nothing and nobody is overdue. -/
structure Settled (r : RoomRouter) (now : Instant) : Prop where
  hosts : ∀ (k : HostSessionId) (host : HostState), r.hosts[k]? = some host → now < host.expiresAt
  discoveries : ∀ (k : DiscoveryRequestId) (discovery : DiscoveryState), r.discoveries[k]? = some discovery →
    now < discovery.expiresAt
  gameplay : ∀ (k : GameplaySessionId) (session : GameplayState), r.gameplay[k]? = some session →
    now < session.expiresAt
  connected : ∀ (p : PeerId) (peer : PeerState), r.peers[p]? = some peer → peer.disconnectedAt = none →
    now < peer.lastSeen + r.config.peerTtl
  suspended : ∀ (p : PeerId) (peer : PeerState) (t : Instant), r.peers[p]? = some peer → peer.disconnectedAt = some t →
    now < t + r.config.peerGraceTtl

theorem Settled.spared (hs : r.Settled now) {p : PeerId} {peer : PeerState} (hp : r.peers[p]? = some peer) :
    peer.Spared r.config now := by
  constructor
  · unfold silent
    cases hd : peer.disconnectedAt with
    | some t => rfl
    | none => simpa using hs.connected p peer hp hd
  · unfold graceOver
    cases hd : peer.disconnectedAt with
    | some t => simpa using hs.suspended p peer t hp hd
    | none => rfl

/-- A peer that is there after a sweep was there before, and it is as it was, or connected and silent and now
suspended. -/
theorem expire_stays (o : WalkOrder) (h : r.WF) (now : Instant) {p : PeerId} {peer' : PeerState}
    (hp' : (expire o r now).2.peers[p]? = some peer') : ∃ peer, r.peers[p]? = some peer ∧
      graceOver r.config peer' now = false ∧ (silent r.config peer now = false ∧ peer' = peer ∨
        silent r.config peer now = true ∧ peer' = { peer with disconnectedAt := some now }) := by
  rw [expire_peers o h] at hp'
  rcases Option.bind_eq_some_iff.1 hp' with ⟨peer, hp, hl⟩
  split at hl
  · cases hl
  rename_i hnot
  cases hl
  refine ⟨peer, hp, by simpa [PeerState.Lapses] using hnot, ?_⟩
  unfold PeerState.afterSilence
  split
  · rename_i hs; exact Or.inr ⟨hs, rfl⟩
  · rename_i hs; exact Or.inl ⟨by simpa using hs, rfl⟩

theorem silent_iff {peer : PeerState} : silent config peer now = true ↔
    peer.disconnectedAt = none ∧ peer.lastSeen + config.peerTtl ≤ now := by
  simp [silent]

theorem expire_settled (o : WalkOrder) (h : r.WF) (now : Instant) : (expire o r now).2.Settled now := by
  constructor
  · exact fun k host hk => ((expire_hosts o h now).1 hk).2.1
  · exact fun k discovery hk => ((expire_discoveries o h now).1 hk).2.1
  · exact fun k session hk => ((expire_gameplay o h now).1 hk).2.1
  · intro p peer' hp' hd
    rw [expire_config]
    rcases expire_stays o h now hp' with ⟨peer, -, -, ⟨hs, rfl⟩ | ⟨-, rfl⟩⟩
    · rw [← Bool.not_eq_true, silent_iff] at hs
      exact Nat.not_le.1 fun hle => hs ⟨hd, hle⟩
    · cases hd
  · intro p peer' t hp' hd
    rw [expire_config]
    rcases expire_stays o h now hp' with ⟨peer, -, hg, -⟩
    simpa [graceOver, hd] using hg

/-! ## Nothing else is touched -/

/-- Between the two routers the connected peer is suspended. -/
def Suspended (r r' : RoomRouter) (p : PeerId) : Prop :=
  ∃ peer peer', r.peers[p]? = some peer ∧ r'.peers[p]? = some peer' ∧ peer.disconnectedAt = none ∧
    peer'.disconnectedAt ≠ none

/-- Between the two routers the peer is removed. -/
def Removed (r r' : RoomRouter) (p : PeerId) : Prop := r.peers[p]? ≠ none ∧ r'.peers[p]? = none

/-- Between the two routers the host session of the peer in the room is removed. -/
def HostRemoved (r r' : RoomRouter) (p : PeerId) (room : RoomId) : Prop :=
  ∃ (k : HostSessionId) (host : HostState), r.hosts[k]? = some host ∧ host.peerId = p ∧ host.roomId = room ∧
    r'.hosts[k]? = none

/-- The peer's time is up: it was already suspended and its grace period is over, or it is suspended now and has
no grace period at all. -/
def GraceOver (config : RouterConfig) (now : Instant) (peer : PeerState) : Prop :=
  ∃ t, t + config.peerGraceTtl ≤ now ∧ (peer.disconnectedAt = some t ∨
    peer.disconnectedAt = none ∧ peer.lastSeen + config.peerTtl ≤ now ∧ t = now)

/-- What a sweep may do to a router: every row is as it was, or it is gone or suspended for a reason of its own. -/
structure Precise (r r' : RoomRouter) (now : Instant) : Prop where
  config : r'.config = r.config
  hosts : ∀ k : HostSessionId, r'.hosts[k]? = r.hosts[k]? ∨ ∃ host, r.hosts[k]? = some host ∧ r'.hosts[k]? = none ∧
    (host.expiresAt ≤ now ∨ Suspended r r' host.peerId ∨ Removed r r' host.peerId)
  discoveries : ∀ k : DiscoveryRequestId, r'.discoveries[k]? = r.discoveries[k]? ∨ ∃ discovery,
    r.discoveries[k]? = some discovery ∧ r'.discoveries[k]? = none ∧ (discovery.expiresAt ≤ now ∨
      Suspended r r' discovery.clientPeerId ∨ Removed r r' discovery.clientPeerId)
  gameplay : ∀ k : GameplaySessionId, r'.gameplay[k]? = r.gameplay[k]? ∨ ∃ session,
    r.gameplay[k]? = some session ∧ r'.gameplay[k]? = none ∧ (session.expiresAt ≤ now ∨
      HostRemoved r r' session.hostPeerId session.roomId ∨
      ∃ p, (p = session.clientPeerId ∨ p = session.hostPeerId) ∧ (Suspended r r' p ∨ Removed r r' p))
  peers : ∀ p : PeerId, r'.peers[p]? = r.peers[p]? ∨ ∃ peer, r.peers[p]? = some peer ∧
    (r'.peers[p]? = none ∧ GraceOver r.config now peer ∨
      peer.disconnectedAt = none ∧ peer.lastSeen + r.config.peerTtl ≤ now ∧
        r'.peers[p]? = some { peer with disconnectedAt := some now })
  rooms : ∀ id : RoomId, (r'.rooms[id]? = none ↔ r.rooms[id]? = none) ∧ ∀ room room', r.rooms[id]? = some room →
    r'.rooms[id]? = some room' → room'.code = room.code ∧
      (∀ p, p ∈ room'.members ↔ p ∈ room.members ∧ ¬ Removed r r' p) ∧
      ∀ k, k ∈ room'.hostSessions ↔ k ∈ room.hostSessions ∧ r'.hosts[k]? ≠ none
  roomsByCode : r'.roomsByCode = r.roomsByCode
  virtualIps : ∀ (ip : VirtualIp) (p : PeerId), r'.virtualIps[ip]? = some p ↔
    r.virtualIps[ip]? = some p ∧ ¬ Removed r r' p
  hostByPeer : ∀ (owner : RoomId × PeerId) (k : HostSessionId), r'.hostByPeer[owner]? = some k ↔
    r.hostByPeer[owner]? = some k ∧ r'.hosts[k]? ≠ none

section

variable {p : PeerId} {peer : PeerState}

/-- A peer that a sweep does not spare is suspended or removed. -/
theorem expire_hits (o : WalkOrder) (h : r.WF) (hp : r.peers[p]? = some peer) (hns : ¬ peer.Spared r.config now) :
    Suspended r (expire o r now).2 p ∨ Removed r (expire o r now).2 p := by
  cases hp' : (expire o r now).2.peers[p]? with
  | none => exact Or.inr ⟨by rw [hp]; exact nofun, hp'⟩
  | some peer' =>
    refine Or.inl ?_
    rcases expire_stays o h now hp' with ⟨peer₀, hp₀, hg, ⟨hs, rfl⟩ | ⟨hs, rfl⟩⟩
    · rw [hp] at hp₀
      cases hp₀
      exact absurd ⟨hs, hg⟩ hns
    · exact ⟨peer₀, _, hp₀, hp', (silent_iff.1 hs).1, by simp⟩

/-- Who stays, stays where it was. -/
theorem expire_seats (o : WalkOrder) (h : r.WF) (now : Instant) (p : PeerId) {Q : RoomId → VirtualIp → Prop} :
    (∃ peer' : PeerState, (expire o r now).2.peers[p]? = some peer' ∧ Q peer'.roomId peer'.virtualIp) ↔
      (∃ peer : PeerState, r.peers[p]? = some peer ∧ Q peer.roomId peer.virtualIp) ∧ ¬ Removed r
        (expire o r now).2 p := by
  constructor
  · rintro ⟨peer', hp', hq⟩
    refine ⟨?_, fun hrem => by rw [hrem.2] at hp'; cases hp'⟩
    rcases expire_stays o h now hp' with ⟨peer, hp, -, ⟨-, rfl⟩ | ⟨-, rfl⟩⟩
    · exact ⟨peer', hp, hq⟩
    · exact ⟨peer, hp, hq⟩
  · rintro ⟨⟨peer, hp, hq⟩, hstay⟩
    cases hp' : (expire o r now).2.peers[p]? with
    | none => exact absurd ⟨by rw [hp]; exact nofun, hp'⟩ hstay
    | some peer' =>
      refine ⟨peer', rfl, ?_⟩
      rcases expire_stays o h now hp' with ⟨peer₀, hp₀, -, ⟨-, rfl⟩ | ⟨-, rfl⟩⟩
      all_goals
        rw [hp] at hp₀
        cases hp₀
        exact hq

/-- The host sessions that stay are the ones that were there before and are still there. -/
theorem expire_kept (o : WalkOrder) (h : r.WF) (now : Instant) (k : HostSessionId) {Q : HostState → Prop} :
    (∃ host, (expire o r now).2.hosts[k]? = some host ∧ Q host) ↔
      (∃ host, r.hosts[k]? = some host ∧ Q host) ∧ (expire o r now).2.hosts[k]? ≠ none := by
  constructor
  · rintro ⟨host, hk, hq⟩
    exact ⟨⟨host, ((expire_hosts o h now).1 hk).1, hq⟩, by rw [hk]; exact nofun⟩
  · rintro ⟨⟨host, hk, hq⟩, hne⟩
    rcases Option.ne_none_iff_exists'.1 hne with ⟨host', hk'⟩
    have hk₀ := ((expire_hosts o h now).1 hk').1
    rw [hk] at hk₀
    cases hk₀
    exact ⟨host, hk', hq⟩

theorem expire_precise (o : WalkOrder) (h : r.WF) (now : Instant) : Precise r (expire o r now).2 now := by
  have h' := h.expire o now
  have hcode : ∀ id : RoomId, ((expire o r now).2.rooms[id]?).map RoomState.code = (r.rooms[id]?).map RoomState.code :=
    fun id => congrFun (code_expire o h now) id
  constructor
  · exact expire_config o r now
  · intro k
    rcases kept_cases (y := (expire o r now).2.hosts[k]?) fun host => expire_hosts o h now with e | ⟨host, hk, hnot, e⟩
    · exact Or.inl e
    refine Or.inr ⟨host, hk, e, ?_⟩
    rcases h.hostPeer k host hk with ⟨peer, hp, -⟩
    by_cases hlive : now < host.expiresAt
    · exact Or.inr (expire_hits o h hp fun hs => hnot ⟨hlive, peer, hp, hs⟩)
    · exact Or.inl (Nat.not_lt.1 hlive)
  · intro k
    rcases kept_cases (y := (expire o r now).2.discoveries[k]?) fun discovery => expire_discoveries o h now with
      e | ⟨discovery, hk, hnot, e⟩
    · exact Or.inl e
    refine Or.inr ⟨discovery, hk, e, ?_⟩
    rcases h.discoveryClient k discovery hk with ⟨peer, hp, -⟩
    by_cases hlive : now < discovery.expiresAt
    · exact Or.inr (expire_hits o h hp fun hs => hnot ⟨hlive, peer, hp, hs⟩)
    · exact Or.inl (Nat.not_lt.1 hlive)
  · intro k
    rcases kept_cases (y := (expire o r now).2.gameplay[k]?) fun session => expire_gameplay o h now with
      e | ⟨session, hk, hnot, e⟩
    · exact Or.inl e
    refine Or.inr ⟨session, hk, e, ?_⟩
    rcases h.gameplayClient k session hk with ⟨client, hc, -⟩
    rcases h.gameplayHost k session hk with ⟨server, hv, -⟩
    -- the first of the four reasons to stay that fails
    by_cases hlive : now < session.expiresAt
    swap
    · exact Or.inl (Nat.not_lt.1 hlive)
    by_cases hclient : client.Spared r.config now
    swap
    · exact Or.inr (Or.inr ⟨_, Or.inl rfl, expire_hits o h hc hclient⟩)
    by_cases hserver : server.Spared r.config now
    swap
    · exact Or.inr (Or.inr ⟨_, Or.inr rfl, expire_hits o h hv hserver⟩)
    refine Or.inr (Or.inl ?_)
    by_contra hnone
    refine hnot ⟨hlive, fun id host hi hpeer hroom => ?_, ⟨client, hc, hclient⟩, server, hv, hserver⟩
    by_contra hle
    refine hnone ⟨id, host, hi, hpeer, hroom, Option.eq_none_iff_forall_ne_some.2 fun host' hi' => ?_⟩
    rcases (expire_hosts o h now).1 hi' with ⟨hi'', hlt, -⟩
    rw [hi] at hi''
    cases hi''
    exact hle hlt
  · intro p
    cases hp : r.peers[p]? with
    | none => exact Or.inl (by rw [expire_peers o h, hp]; rfl)
    | some peer =>
      cases hp' : (expire o r now).2.peers[p]? with
      | none =>
        refine Or.inr ⟨peer, rfl, Or.inl ⟨rfl, ?_⟩⟩
        have hl : peer.Lapses r.config now := by
          by_contra hl
          rw [expire_peers o h, hp] at hp'
          simp [hl] at hp'
        rcases PeerState.lapses_iff.1 hl with ⟨t, hd, ht⟩ | ⟨hd, hs, hzero⟩
        · exact ⟨t, ht, Or.inl hd⟩
        · exact ⟨now, by rw [hzero]; exact Nat.le_refl now, Or.inr ⟨hd, hs, rfl⟩⟩
      | some peer' =>
        rcases expire_stays o h now hp' with ⟨peer₀, hp₀, -, ⟨-, rfl⟩ | ⟨hs, rfl⟩⟩
        all_goals
          rw [hp] at hp₀
          cases hp₀
        · exact Or.inl rfl
        · rcases silent_iff.1 hs with ⟨hd, hle⟩
          exact Or.inr ⟨peer, rfl, Or.inr ⟨hd, hle, rfl⟩⟩
  · intro id
    constructor
    · rw [← Option.map_eq_none_iff (f := RoomState.code), hcode, Option.map_eq_none_iff]
    · intro room room' hr hr'
      have hid := hcode id
      rw [hr, hr'] at hid
      refine ⟨Option.some.inj hid, fun p => ?_, fun k => ?_⟩
      · rw [h'.members.mem_iff id room' hr', h.members.mem_iff id room hr]
        exact expire_seats o h now p (Q := fun roomId _ => roomId = id)
      · rw [h'.sessions.mem_iff id room' hr', h.sessions.mem_iff id room hr]
        exact expire_kept o h now k
  · refine ExtTreeMap.ext_getElem? fun code => Option.ext fun id => ?_
    rw [h'.codes, h.codes]
    simpa [Option.map_eq_some_iff] using congrArg (· = some code) (hcode id)
  · intro ip p
    rw [h'.addresses, h.addresses]
    exact expire_seats o h now p (Q := fun _ virtualIp => virtualIp = ip)
  · intro owner k
    rw [h'.owners, h.owners]
    exact expire_kept o h now k

end

/-! ## Sweeping twice -/

/-- A router in which nothing is overdue is left as it is. -/
theorem expire_of_settled (o : WalkOrder) (h : r.WF) (hs : r.Settled now) : expire o r now =
    ({ expiredHosts := 0, expiredDiscoveries := 0, expiredGameplaySessions := 0 }, r) := by
  have hhosts : expiredHosts o r now = [] := keysWhere_eq_nil.2 fun k host hk => by simpa using hs.hosts k host hk
  have hdiscoveries : expiredDiscoveries o r now = [] :=
    keysWhere_eq_nil.2 fun k discovery hk => by simpa using hs.discoveries k discovery hk
  have hgameplay : expiredGameplay o r now = [] :=
    keysWhere_eq_nil.2 fun k session hk => by simpa using hs.gameplay k session hk
  have hr : expireHosts o r now = r := by rw [expireHosts, hhosts]; rfl
  have hr' : expireDiscoveries o r now = r := by rw [expireDiscoveries, hdiscoveries]; rfl
  refine Prod.ext ?_ ((h.expire o now).eq_of_ledger h ?_ (expire_config o r now))
  · unfold expire
    dsimp only
    rw [hr, hr', hhosts, hdiscoveries, hgameplay]
    rfl
  · refine Ledger.ext (code_expire o h now) (funext fun p => ?_) (ext_rows fun k host => ?_)
      (ext_rows fun k discovery => ?_) (ext_rows fun k session => ?_)
    · show (expire o r now).2.peers[p]? = r.peers[p]?
      rw [expire_peers o h]
      cases hp : r.peers[p]? with
      | none => rfl
      | some peer =>
        rcases hs.spared hp with ⟨hheard, hgrace⟩
        simp [PeerState.Lapses, PeerState.afterSilence, hheard, hgrace]
    · refine (expire_hosts o h now).trans ⟨And.left, fun hk => ⟨hk, hs.hosts k host hk, ?_⟩⟩
      rcases h.hostPeer k host hk with ⟨peer, hp, -⟩
      exact ⟨peer, hp, hs.spared hp⟩
    · refine (expire_discoveries o h now).trans ⟨And.left, fun hk => ⟨hk, hs.discoveries k discovery hk, ?_⟩⟩
      rcases h.discoveryClient k discovery hk with ⟨peer, hp, -⟩
      exact ⟨peer, hp, hs.spared hp⟩
    · refine (expire_gameplay o h now).trans ⟨And.left, fun hk => ⟨hk, hs.gameplay k session hk,
        fun id host hi _ _ => hs.hosts id host hi, ?_, ?_⟩⟩
      · rcases h.gameplayClient k session hk with ⟨peer, hp, -⟩
        exact ⟨peer, hp, hs.spared hp⟩
      · rcases h.gameplayHost k session hk with ⟨peer, hp, -⟩
        exact ⟨peer, hp, hs.spared hp⟩

/-! ## The sweep -/

/-- In every reachable state a sweep leaves nothing overdue, touches nothing without a reason, and does the same in
whatever order it walks the maps. Another sweep at the same time changes nothing and reports nothing. -/
theorem sweep_complete_and_precise (h : Reachable config r) (o : WalkOrder) (now : Instant) :
    (expire o r now).2.Settled now ∧ Precise r (expire o r now).2 now ∧ (∀ o', expire o' r now = expire o r now) ∧
      ∀ o', expire o' (expire o r now).2 now =
        ({ expiredHosts := 0, expiredDiscoveries := 0, expiredGameplaySessions := 0 }, (expire o r now).2) :=
  ⟨expire_settled o h.wf now, expire_precise o h.wf now, fun o' => expire_order h.wf o' o now,
    fun o' => expire_of_settled o' (h.wf.expire o now) (expire_settled o h.wf now)⟩

/-- The host session of the one peer has expired after fifteen seconds. -/
theorem hosting_swept : (expire .sorted Example.hosting (Duration.fromSecs 15)).2.Settled (Duration.fromSecs 15) :=
  (sweep_complete_and_precise Example.hosting_reachable .sorted (Duration.fromSecs 15)).1

end RoomRouter

end Civ6LanBridge

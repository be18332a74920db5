/-
Connection epochs. A resume that finds its peer suspended moves it on to an epoch of its own, and what
is stamped with an earlier one is stale from then on; a resume of a connected peer changes nothing. A
peer that joins anew, or is restored when the server starts again, starts over at its first epoch.
-/
import Civ6LanBridge.Server.Restore
import Civ6LanBridge.Server.Suspension

namespace Civ6LanBridge

open Std FinMap Past AppState

/-! ## The next epoch -/

theorem le_saturatingAdd (n : UInt64) : n ≤ saturatingAdd n 1 := by
  have hn := n.toNat_lt
  rw [UInt64.le_iff_toNat_le, toNat_saturatingAdd]
  omega

theorem le_max_one (n : UInt64) : n ≤ max n 1 := by
  show n ≤ if n ≤ 1 then 1 else n
  split
  · assumption
  · exact UInt64.le_refl n

namespace RoomRouter

variable {peer : PeerState} {now : Instant}

theorem resumed_epoch_le : peer.connectionEpoch ≤ (resumed peer now).connectionEpoch := by
  unfold resumed
  split
  · exact UInt64.le_trans (le_saturatingAdd _) (le_max_one _)
  · exact UInt64.le_refl _

/-- The epoch that a resume gives a peer is a new one if the peer is suspended, and only then. -/
theorem resumed_epoch_lt_iff (h : peer.connectionEpoch.toNat < 2 ^ 64 - 1) :
    peer.connectionEpoch < (resumed peer now).connectionEpoch ↔ peer.disconnectedAt ≠ none := by
  unfold resumed
  cases hd : peer.disconnectedAt with
  | none => simp
  | some t =>
    have hlt : peer.connectionEpoch < saturatingAdd peer.connectionEpoch 1 := by
      rw [UInt64.lt_iff_toNat_lt, toNat_saturatingAdd, UInt64.toNat_one]
      omega
    simp only [ne_eq, reduceCtorEq, not_false_eq_true, iff_true]
    exact UInt64.lt_of_lt_of_le hlt (le_max_one _)

end RoomRouter

/-! ## Stale datagrams -/

/-- The datagram is refused and the router left alone: as stale, or already by the rate limiter. -/
def RefusedAsStale (o : WalkOrder) (relayPort : UInt16) (s : AppState) (source : SocketAddr) (ip : VirtualIp)
    (packet : List UInt8) (epoch : UInt64) (limiterNow now : Instant) : Prop :=
  (handleDatagram o relayPort s source packet limiterNow now).2.router = s.router ∧
    if (s.udpRateLimiter.allow ip.address.toString limiterNow).1 then
      ∃ current, (handleDatagram o relayPort s source packet limiterNow now).1 =
        .error (.error (.staleConnectionEpoch epoch current))
    else (handleDatagram o relayPort s source packet limiterNow now).1 = .error (.error .rateLimited)

section

variable {config : RouterConfig} {s s' : AppState} {e : Event} {h : Moves} {p : PeerId} {peer : PeerState}
  {source : SocketAddr} {packet : List UInt8} {envelope : RelayEnvelope} {epoch : UInt64}

/-- A datagram of another epoch than the current one is stale. -/
theorem stale_refused (o : WalkOrder) (relayPort : UInt16) (hw : s.router.WF) (hp : s.router.peers[p]? = some peer)
    (hsource : source.ip = .v4 peer.virtualIp.address) (hdec : RelayEnvelope.decode packet = .ok envelope)
    (hzero : envelope.meta.connectionEpoch ≠ 0) (hother : envelope.meta.connectionEpoch ≠ peer.connectionEpoch)
    (limiterNow now : Instant) :
    RefusedAsStale o relayPort s source peer.virtualIp packet envelope.meta.connectionEpoch limiterNow now := by
  -- past the rate limiter, the check of the epoch comes before everything else
  unfold RefusedAsStale handleDatagram
  rw [hdec]
  dsimp only
  rw [hsource]
  dsimp only
  rcases hallow : s.udpRateLimiter.allow peer.virtualIp.address.toString limiterNow with ⟨_ | _, limiter⟩
  · exact ⟨rfl, by simp⟩
  unfold handleEnvelope
  have hlook : s.router.peerForVirtualIp ⟨peer.virtualIp.address⟩ = some p := (hw.addresses _ p).2 ⟨peer, hp, rfl⟩
  have hepoch : s.router.peerConnectionEpoch p = .ok peer.connectionEpoch := by
    unfold RoomRouter.peerConnectionEpoch
    rw [hp]
  dsimp only
  rw [hlook]
  dsimp only
  rw [hepoch]
  dsimp only
  rw [if_pos ⟨hzero, hother⟩]
  exact ⟨rfl, by simp⟩

/-- A peer that does not go keeps its address, and its epoch never falls. -/
theorem epoch_step (hw : s.router.WF) (he : Happens s e s') (hp : s.router.peers[p]? = some peer)
    (hstay : ¬ Departs p { before := s, event := e, after := s' }) :
    ∃ peer' : PeerState, s'.router.peers[p]? = some peer' ∧
      peer'.virtualIp = peer.virtualIp ∧ peer.connectionEpoch ≤ peer'.connectionEpoch := by
  have hgone : s'.router.peers[p]? ≠ none := fun hnone => hstay ⟨by rw [hp]; simp, hnone⟩
  rcases happening_peer hw (he.happening hw) p with e' | ⟨peer₀, now, hp₀, -, e'⟩ | ⟨o, op, rfl, -, -, hchange⟩
  · exact ⟨peer, e'.trans hp, rfl, UInt64.le_refl _⟩
  · rw [hp] at hp₀
    cases hp₀
    exact ⟨_, e', rfl, UInt64.le_refl _⟩
  rw [hp] at hchange
  generalize hy : s'.router.peers[p]? = y at hchange hgone
  cases hchange with
  | same => exact ⟨peer, rfl, rfl, UInt64.le_refl _⟩
  | left => exact absurd rfl hgone
  | seen => exact ⟨_, rfl, rfl, UInt64.le_refl _⟩
  | resumed =>
    refine ⟨_, rfl, ?_, RoomRouter.resumed_epoch_le⟩
    unfold RoomRouter.resumed
    split <;> rfl
  | swept =>
    split
    · rename_i hl
      rw [if_pos hl] at hgone
      exact absurd rfl hgone
    · refine ⟨_, rfl, PeerState.afterSilence_virtualIp, ?_⟩
      unfold PeerState.afterSilence
      split <;> exact UInt64.le_refl _

/-- As long as a peer does not go, it keeps its address, and its epoch never falls. -/
theorem epoch_run {s₀ : AppState} (hreach : RoomRouter.Reachable config s₀.router)
    (hp : s₀.router.peers[p]? = some peer) (hr : Run (· = s₀) Happens h s) (hstay : ∀ m ∈ h, ¬ Departs p m) :
    ∃ peer' : PeerState, s.router.peers[p]? = some peer' ∧
      peer'.virtualIp = peer.virtualIp ∧ peer.connectionEpoch ≤ peer'.connectionEpoch := by
  induction hr with
  | init e => cases e; exact ⟨peer, hp, rfl, UInt64.le_refl _⟩
  | step hr he ih =>
    obtain ⟨peer₁, hp₁, hip₁, hle₁⟩ := ih fun m hm => hstay m (List.mem_cons_of_mem _ hm)
    have hw := (run_router (by rintro _ rfl; exact hreach) hr).wf
    obtain ⟨peer₂, hp₂, hip₂, hle₂⟩ := epoch_step hw he hp₁ (hstay _ List.mem_cons_self)
    exact ⟨peer₂, hp₂, hip₂.trans hip₁, UInt64.le_trans hle₁ hle₂⟩

/-- A resume moves the peer on to a new epoch and makes all that is stamped with an earlier one stale, as
long as the peer stays, exactly if it finds the peer suspended. -/
theorem resume_invalidates_iff (hr : Run (Starts config) Happens h s) (hp : s.router.peers[p]? = some peer)
    (hmax : peer.connectionEpoch.toNat < 2 ^ 64 - 1) {roomId : RoomId} {resumedAt : Instant} {snapshot : PeerSnapshot}
    {r' : RoomRouter} (hok : s.router.resumePeer roomId p resumedAt = .ok snapshot r') :
    (peer.connectionEpoch < snapshot.connectionEpoch ∧
      ∀ later s', Run (· = { s with router := r' }) Happens later s' → (∀ m ∈ later, ¬ Departs p m) →
        ∀ (o : WalkOrder) (relayPort : UInt16) (source : SocketAddr) (packet : List UInt8) (limiterNow now : Instant)
          (envelope : RelayEnvelope), source.ip = .v4 peer.virtualIp.address →
            RelayEnvelope.decode packet = .ok envelope →
          envelope.meta.connectionEpoch ≠ 0 → envelope.meta.connectionEpoch ≤ peer.connectionEpoch →
          RefusedAsStale o relayPort s' source peer.virtualIp packet envelope.meta.connectionEpoch limiterNow now) ↔
      peer.disconnectedAt ≠ none := by
  have hreach := starts_router hr
  have hreach' : RoomRouter.Reachable config { s with router := r' }.router := by
    have hexec : RoomRouter.Reachable config ((RouterOp.resumePeer roomId p resumedAt).exec .sorted s.router).2 :=
      hreach.exec .sorted trivial
    rwa [RouterOp.exec, Outcome.map_snd, hok] at hexec
  obtain ⟨hepoch, hp'⟩ : snapshot.connectionEpoch = (RoomRouter.resumed peer resumedAt).connectionEpoch ∧
      r'.peers[p]? = some (RoomRouter.resumed peer resumedAt) := by
    unfold RoomRouter.resumePeer at hok
    rw [hp] at hok
    dsimp only at hok
    split at hok
    · cases hok
    split at hok
    · cases hok
    cases hok
    refine ⟨rfl, ?_⟩
    show (s.router.peers.modify p _)[p]? = _
    rw [ExtTreeMap.getElem?_modify_self, hp]
    rfl
  rw [hepoch, RoomRouter.resumed_epoch_lt_iff hmax, and_iff_left_iff_imp]
  intro hd later s' hlater hstay o relayPort source packet limiterNow now envelope hsource hdec hzero hle
  obtain ⟨peer', hp₁, hip, hle'⟩ := epoch_run hreach' hp' hlater hstay
  have hip' : peer'.virtualIp = peer.virtualIp := hip.trans (RoomRouter.resumed_virtualIp peer resumedAt)
  have hnext : peer.connectionEpoch < (RoomRouter.resumed peer resumedAt).connectionEpoch :=
    (RoomRouter.resumed_epoch_lt_iff hmax).2 hd
  have hlt := UInt64.lt_of_lt_of_le hnext hle'
  have hother : envelope.meta.connectionEpoch ≠ peer'.connectionEpoch :=
    fun e => UInt64.lt_irrefl _ (UInt64.lt_of_lt_of_le hlt (e ▸ hle))
  have hw := (run_router (by rintro _ rfl; exact hreach') hlater).wf
  rw [← hip'] at hsource ⊢
  exact stale_refused o relayPort hw hp₁ hsource hdec hzero hother limiterNow now

end

namespace RoomRouter.Example

/-- A probe of the first epoch. -/
def probe : List UInt8 :=
  frame relayProtocolVersion MessageKind.relayProbe
    (({ connectionEpoch := 1 } : RelayEnvelopeMeta).fields ++ pathBytes none 0 ++ (Uuid.ofByte 7).bytes)

/-- The guest is back, after it has been suspended and before. -/
def back : Instant := Duration.fromSecs 16

theorem guest_connected : (booted.final gathering).router.peers[guest]? = some connectedGuest := by decide +kernel

end RoomRouter.Example

open RoomRouter in
/-- The suspended guest moves on, and its probe of the first epoch is stale. -/
theorem guest_moves_on : RefusedAsStale .sorted 32000
    { Example.booted.final Example.suspending with
      router :=
        ((Example.booted.final Example.suspending).router.resumePeer Example.room Example.guest Example.back).2 }
    (Example.sender Example.guestIp) Example.guestIp Example.probe 1 Example.back Example.back := by
  have hok : (Example.booted.final Example.suspending).router.resumePeer Example.room Example.guest Example.back =
      .ok { roomId := Example.room, peerId := Example.guest, virtualIp := Example.guestIp, connectionEpoch := 2 } _ :=
    Prod.ext (by decide +kernel) rfl
  have hstale :=
    (resume_invalidates_iff (replay_run Example.booted_starts Example.suspending_permitted) Example.guest_suspended
    (by decide) hok).2 (by simp [Example.suspendedGuest])
  have hdec : RelayEnvelope.decode Example.probe = .ok ⟨{ connectionEpoch := 1 }, .relayProbe (.ofByte 7)⟩ := by
    decide +kernel
  exact hstale.2 [] _ (.init rfl) (by simp) .sorted 32000 _ _ _ _ _ rfl hdec (by decide) (by decide)

open RoomRouter in
/-- A resume of the connected guest leaves it in its first epoch. -/
theorem connected_resume : ¬ ∀ (h : Moves) (s : AppState) (p : PeerId) (peer : PeerState) (roomId : RoomId)
    (resumedAt : Instant)
    (snapshot : PeerSnapshot) (r' : RoomRouter), Run (Starts {}) Happens h s → s.router.peers[p]? = some peer →
    peer.connectionEpoch.toNat < 2 ^ 64 - 1 → s.router.resumePeer roomId p resumedAt = .ok snapshot r' →
    peer.connectionEpoch < snapshot.connectionEpoch := by
  intro hall
  have hok : (Example.booted.final Example.gathering).router.resumePeer Example.room Example.guest 1 =
      .ok { roomId := Example.room, peerId := Example.guest, virtualIp := Example.guestIp, connectionEpoch := 1 } _ :=
    Prod.ext (by decide +kernel) rfl
  have hlt := hall _ _ _ _ _ _ _ _ (replay_run Example.booted_starts Example.gathering_permitted)
    Example.guest_connected
    (by decide) hok
  exact absurd hlt (by decide)

/-! ## Memberships and restarts -/

/-- The server runs on, or it starts again and takes up what was persisted. -/
inductive Episode
  | within (e : Event)
  | restart (s : AppState) (clock : PeerId → Instant) (persisted : PersistedState)

abbrev Episodes := List (Move AppState Episode)

def Lives (config : RouterConfig) (s : AppState) : Episode → AppState → Prop
  | .within e, s' => Happens s e s'
  | .restart s₀ clock persisted, s' => Starts config s₀ ∧ s₀.restorePersistedState clock persisted = (.ok (), s')

def Episode.Restarts : Episode → Prop
  | within _ => False
  | restart .. => True

/-- The peer has been registered. -/
def Known (p : PeerId) (h : Episodes) : Prop := ∃ m ∈ h, m.before.router.peers[p]? ≠ none

/-- The peer has been in the epoch. -/
def Issued (p : PeerId) (epoch : UInt64) (h : Episodes) : Prop :=
  ∃ m ∈ h, ∃ peer : PeerState, m.before.router.peers[p]? = some peer ∧ peer.connectionEpoch = epoch

/-- A membership of the peer begins: it joins, or it is restored when the server starts again. -/
def Begins (p : PeerId) (m : Move AppState Episode) : Prop :=
  m.after.router.peers[p]? ≠ none ∧ (m.event.Restarts ∨ m.before.router.peers[p]? = none)

/-- The peer was in the epoch before its membership ended or the server started again. -/
def Outdated (p : PeerId) (epoch : UInt64) : Episodes → Prop
  | [] => False
  | m :: h => (m.event.Restarts ∨ m.after.router.peers[p]? = none) ∧ Issued p epoch (m :: h) ∨ Outdated p epoch h

/-- No peer that has been registered before becomes a member again. -/
def NoReturn : Episodes → Prop
  | [] => True
  | m :: h => (∀ p, Begins p m → ¬ Known p (m :: h)) ∧ NoReturn h

section

variable {config : RouterConfig} {s s' : AppState} {episode : Episode} {h : Episodes} {p : PeerId} {peer : PeerState}
  {epoch : UInt64}

theorem Issued.known (hi : Issued p epoch h) : Known p h := by
  obtain ⟨m, hm, peer, hp, -⟩ := hi
  exact ⟨m, hm, by rw [hp]; simp⟩

theorem Outdated.known : ∀ {h : Episodes}, Outdated p epoch h → Known p h
  | [], ho => ho.elim
  | _ :: h, ho => by
    rcases ho with ⟨-, hi⟩ | ho
    · exact hi.known
    · obtain ⟨m, hm, hk⟩ := ho.known
      exact ⟨m, List.mem_cons_of_mem _ hm, hk⟩

/-- Every peer is connected and in its first epoch. -/
def RoomRouter.Young (r : RoomRouter) : Prop :=
  ∀ (p : PeerId) (peer : PeerState), r.peers[p]? = some peer → peer.connectionEpoch = 1 ∧ peer.disconnectedAt = none

/-- Who is registered by creating rooms and restoring peers is connected and in its first epoch. -/
theorem young_exec {r : RoomRouter} {o : WalkOrder} {op : RouterOp} (hw : r.WF) (hy : r.Young)
    (hop : op.enters.isSome ∨ ∃ id code, op = .createRoomWithId id code) : (op.exec o r).2.Young := by
  rcases RoomRouter.exec_does o hw op with ⟨e, he⟩ | ⟨r', he, heff⟩
  · rw [he]
    exact hy
  rw [he]
  intro p peer hp
  change r'.peers[p]? = some peer at hp
  have hchange := RoomRouter.effect_peer hw heff p
  rw [hp] at hchange
  generalize hx : r.peers[p]? = x at hchange
  generalize hz : some peer = y at hchange
  cases hchange with
  | same => exact hy p peer (hx.trans hz.symm)
  | entered => cases hz; exact ⟨rfl, rfl⟩
  | left => cases hz
  | @seen peer₀ => cases hz; exact hy p peer₀ hx
  | resumed hop' => subst hop'; rcases hop with h | ⟨_, _, h⟩ <;> cases h
  | swept hop' => subst hop'; rcases hop with h | ⟨_, _, h⟩ <;> cases h

theorem restart_young {s₀ : AppState} (hs : Starts config s₀) (clock : PeerId → Instant) (persisted : PersistedState) :
    RoomRouter.Reachable config (s₀.restorePersistedState clock persisted).2.router ∧
      (s₀.restorePersistedState clock persisted).2.router.Young := by
  refine restorePersistedState_router (P := fun r => RoomRouter.Reachable config r ∧ r.Young)
    ⟨.init hs.router, ?_⟩ ?_ ?_ persisted
  · intro p peer hp
    rw [hs.router] at hp
    simp [RoomRouter.new] at hp
  · rintro r id code ⟨hr, hy⟩
    have hexec : RoomRouter.Reachable config ((RouterOp.createRoomWithId id code).exec .sorted r).2 :=
      hr.exec .sorted trivial
    exact ⟨hexec, young_exec (o := .sorted) hr.wf hy (Or.inr ⟨id, code, rfl⟩)⟩
  · rintro r id p ip now ⟨hr, hy⟩
    have hexec : RoomRouter.Reachable config ((RouterOp.restorePeer id p ip now).exec .sorted r).2 :=
      hr.exec .sorted trivial
    have hop : (RouterOp.restorePeer id p ip now).enters.isSome := rfl
    exact ⟨hexec, young_exec (o := .sorted) hr.wf hy (Or.inl hop)⟩

theorem Lives.router (he : Lives config s episode s') (h : RoomRouter.Reachable config s.router) :
    RoomRouter.Reachable config s'.router := by
  cases episode with
  | within e => exact AppState.Happens.router he h
  | restart s₀ clock persisted =>
    have hrestored := (restart_young he.1 clock persisted).1
    rwa [he.2] at hrestored

theorem lives_router (hr : Run (Starts config) (Lives config) h s) : RoomRouter.Reachable config s.router :=
  hr.invariant (P := fun s => RoomRouter.Reachable config s.router) (fun _ hs => .init hs.router)
    fun _ _ _ hp he => he.router hp

/-- A peer starts a membership connected and in its first epoch. -/
theorem begins_row (hreach : RoomRouter.Reachable config s.router) (he : Lives config s episode s')
    (hb : Begins p { before := s, event := episode, after := s' }) :
    ∃ peer : PeerState, s'.router.peers[p]? = some peer ∧ peer.connectionEpoch = 1 ∧ peer.disconnectedAt = none := by
  obtain ⟨hafter, hbefore⟩ := hb
  obtain ⟨peer, hp⟩ := Option.ne_none_iff_exists'.1 hafter
  change s'.router.peers[p]? = some peer at hp
  refine ⟨peer, hp, ?_⟩
  -- only a join brings in a peer that was not there; a restart joins all of its peers
  cases episode with
  | restart s₀ clock persisted =>
    have hy := (restart_young he.1 clock persisted).2
    rw [he.2] at hy
    exact hy p peer hp
  | within e =>
    have hnone : s.router.peers[p]? = none := hbefore.resolve_left id
    rcases happening_peer hreach.wf (AppState.Happens.happening hreach.wf he) p with e' | ⟨_, _, hp₀, -⟩
      | ⟨o, op, -, -, -, hchange⟩
    · rw [hp, hnone] at e'
      cases e'
    · rw [hnone] at hp₀
      cases hp₀
    · rw [hnone, hp] at hchange
      cases hchange
      exact ⟨rfl, rfl⟩

/-- A registered peer is in its first epoch, or it has been. -/
theorem first_issued (hr : Run (Starts config) (Lives config) h s) (hp : s.router.peers[p]? = some peer) :
    peer.connectionEpoch = 1 ∨ Issued p 1 h := by
  induction hr generalizing peer with
  | init hs =>
    rw [hs.router] at hp
    simp [RoomRouter.new] at hp
  | @step h s s' episode hr he ih =>
    cases hp₀ : s.router.peers[p]? with
    | none =>
      obtain ⟨peer', hp', hfirst, -⟩ := begins_row (lives_router hr) he ⟨by rw [hp]; simp, Or.inr hp₀⟩
      rw [hp] at hp'
      cases hp'
      exact Or.inl hfirst
    | some peer₀ =>
      rcases ih hp₀ with hfirst | ⟨m, hm, hi⟩
      · exact Or.inr ⟨_, List.mem_cons_self, peer₀, hp₀, hfirst⟩
      · exact Or.inr ⟨m, List.mem_cons_of_mem _ hm, hi⟩

theorem known_issued (hr : Run (Starts config) (Lives config) h s) (hk : Known p h) : Issued p 1 h := by
  induction hr with
  | init => obtain ⟨m, hm, -⟩ := hk; cases hm
  | @step h s s' episode hr he ih =>
    have hold : Issued p 1 h → Issued p 1 ({ before := s, event := episode, after := s' } :: h) := by
      rintro ⟨m, hm, hi⟩
      exact ⟨m, List.mem_cons_of_mem _ hm, hi⟩
    obtain ⟨m, hm, hreg⟩ := hk
    rcases List.mem_cons.1 hm with rfl | hm
    · obtain ⟨peer, hp⟩ := Option.ne_none_iff_exists'.1 hreg
      rcases first_issued hr hp with hfirst | hi
      · exact ⟨_, List.mem_cons_self, peer, hp, hfirst⟩
      · exact hold hi
    · exact hold (ih ⟨m, hm, hreg⟩)

/-- The first epoch of a peer that has been registered and is no more is outdated. -/
theorem gone_outdated (hr : Run (Starts config) (Lives config) h s) (hk : Known p h)
    (hnone : s.router.peers[p]? = none) :
    Outdated p 1 h := by
  induction hr with
  | init => obtain ⟨m, hm, -⟩ := hk; cases hm
  | @step h s s' episode hr he ih =>
    -- either the membership ended in this episode, or it had ended before
    by_cases hp : s.router.peers[p]? = none
    · obtain ⟨m, hm, hreg⟩ := hk
      rcases List.mem_cons.1 hm with rfl | hm
      · exact absurd hp hreg
      · exact Or.inr (ih ⟨m, hm, hreg⟩ hp)
    · exact Or.inl ⟨Or.inr hnone, known_issued (.step hr he) hk⟩

/-- Without a return, a peer with an outdated epoch is no longer registered. -/
theorem outdated_gone (hr : Run (Starts config) (Lives config) h s) (hn : NoReturn h) (ho : Outdated p epoch h) :
    s.router.peers[p]? = none := by
  induction hr with
  | init => exact ho.elim
  | @step h s s' episode hr he ih =>
    obtain ⟨hhead, hn⟩ := hn
    -- a peer that is there again has become a member again since
    by_contra hafter
    rcases ho with ⟨hend, hi⟩ | ho
    · exact hhead p ⟨hafter, Or.inl (hend.resolve_right hafter)⟩ hi.known
    · obtain ⟨m, hm, hk⟩ := ho.known
      exact hhead p ⟨hafter, Or.inr (ih hn ho)⟩ ⟨m, List.mem_cons_of_mem _ hm, hk⟩

/-- A probe that gets past the gate is answered. -/
theorem Passes.answered (hw : s.router.WF) {source : SocketAddr} {packet : List UInt8} {limiterNow : Instant}
    {envelope : RelayEnvelope} (hpass : Passes s source packet limiterNow p peer envelope)
    {requestId : DiscoveryRequestId}
    (hmsg : envelope.message = .relayProbe requestId) (o : WalkOrder) (relayPort : UInt16) (now : Instant) :
    ∃ out, (handleDatagram o relayPort s source packet limiterNow now).1 = .ok out := by
  have hother : ∀ {q peer' envelope'}, Passes s source packet limiterNow q peer' envelope' →
      ¬ ∀ requestId, envelope'.message ≠ .relayProbe requestId := by
    intro q peer' envelope' hpass' hno
    obtain ⟨-, rfl⟩ := (hpass.fromPeer hw).passes hw hpass'
    exact hno requestId hmsg
  have hh := handleDatagram_handles o relayPort hw source packet limiterNow now
  generalize handleDatagram o relayPort s source packet limiterNow now = x at hh ⊢
  cases hh with
  | refused _ hno => exact absurd hpass (hno _ _ _)
  | answered => exact ⟨_, rfl⟩
  | duplicate hpass' hno => exact absurd hno (hother hpass')
  | failed hpass' hno => exact absurd hno (hother hpass')
  | routed hpass' hno => exact absurd hno (hother hpass')

/-- As long as no peer becomes a member again, nothing that a peer stamped with an epoch of an earlier
membership, or of before a restart, is accepted. Once a peer is a member again, its first epoch is one
of those, and a probe stamped with it is answered. -/
theorem epochs_not_reused (hr : Run (Starts config) (Lives config) h s) :
    (NoReturn h → ∀ (o : WalkOrder) (relayPort : UInt16) (source : SocketAddr) (packet : List UInt8)
      (limiterNow now : Instant)
      (p : PeerId) (envelope : RelayEnvelope), FromPeer s source packet p envelope → envelope.meta.connectionEpoch ≠ 0 →
      Outdated p envelope.meta.connectionEpoch h →
        ∃ f, (handleDatagram o relayPort s source packet limiterNow now).1 = .error f) ∧
    ∀ m old p, h = m :: old → Begins p m → Known p h → Outdated p 1 h ∧
      ∀ (o : WalkOrder) (relayPort : UInt16) (source : SocketAddr) (packet : List UInt8) (limiterNow now : Instant)
        (envelope : RelayEnvelope) (requestId : DiscoveryRequestId) (ip : VirtualIp),
          FromPeer s source packet p envelope →
        envelope.message = .relayProbe requestId → envelope.meta.connectionEpoch = 1 → source.ip = .v4 ip.address →
        (s.udpRateLimiter.allow ip.address.toString limiterNow).1 = true →
        ∃ out, (handleDatagram o relayPort s source packet limiterNow now).1 = .ok out := by
  have hw := (lives_router hr).wf
  constructor
  · intro hn o relayPort source packet limiterNow now p envelope hfrom _ ho
    obtain ⟨peer, hp, -⟩ := hfrom.registered hw
    rw [outdated_gone hr hn ho] at hp
    cases hp
  rintro m old p rfl hb hk
  obtain ⟨hold, hstep⟩ : Run (Starts config) (Lives config) old m.before ∧ Lives config m.before m.event m.after := by
    cases hr with
    | step hold hstep => exact ⟨hold, hstep⟩
  obtain rfl : s = m.after := by cases hr; rfl
  constructor
  · by_cases hrestart : m.event.Restarts
    · exact Or.inl ⟨Or.inl hrestart, known_issued hr hk⟩
    · have hnone := hb.2.resolve_left hrestart
      obtain ⟨x, hx, hreg⟩ := hk
      rcases List.mem_cons.1 hx with rfl | hx
      · exact absurd hnone hreg
      · exact Or.inr (gone_outdated hold ⟨x, hx, hreg⟩ hnone)
  · intro o relayPort source packet limiterNow now envelope requestId ip hfrom hmsg hepoch hip hallow
    obtain ⟨peer, hp, hfirst, hc⟩ := begins_row (lives_router hold) hstep hb
    obtain ⟨peer', hp', hsource⟩ := hfrom.registered hw
    rw [hp] at hp'
    cases hp'
    have hsame : ip.address = peer.virtualIp.address := IpAddr.v4.inj (hip.symm.trans hsource)
    have hpass : Passes m.after source packet limiterNow p peer envelope :=
      ⟨hfrom.1, hsource, hsame ▸ hallow, hp, hc, Or.inr (hepoch.trans hfirst.symm)⟩
    exact hpass.answered hw hmsg o relayPort now

/-- A server that runs without a restart. -/
theorem within_run {h : Moves} (hr : Run (Starts config) Happens h s) : Run (Starts config) (Lives config)
    (h.map fun m => { before := m.before, event := .within m.event, after := m.after }) s := by
  induction hr with
  | init hs => exact .init hs
  | @step h s s' e _ he ih => exact .step ih (show Lives config s (.within e) s' from he)

end

namespace RoomRouter.Example

/-- The room and the guest, as they were stored. -/
def stored : PersistedState :=
  { rooms := [{ roomId := room, roomCode := code }]
    peers :=
      [{ roomId := room, peerId := guest, virtualIp := guestIp, wireguardPublicKey := Civ6LanBridge.Example.zeros }] }

def restarted : AppState := (booted.restorePersistedState (fun _ => 0) stored).2

/-- A guest is in the room when the server starts again. -/
def restarting : Episodes :=
  { before := booted.final gathering, event := .restart booted (fun _ => 0) stored, after := restarted } ::
    (booted.replay gathering).map fun m => { before := m.before, event := .within m.event, after := m.after }

theorem restarting_run : Run (Starts {}) (Lives {}) restarting restarted := by
  have hok : booted.restorePersistedState (fun _ => 0) stored = (.ok (), restarted) := Prod.ext (by decide +kernel) rfl
  have hstep : Lives {} (booted.final gathering) (.restart booted (fun _ => 0) stored) restarted := ⟨booted_starts, hok⟩
  exact .step (within_run (replay_run booted_starts gathering_permitted)) hstep

end RoomRouter.Example

open RoomRouter in
/-- The first epoch of the guest, which it is in again after the restart, is outdated. -/
theorem guest_outdated : Outdated Example.guest 1 Example.restarting := by
  have hagain : Example.restarted.router.peers[Example.guest]? = some Example.connectedGuest := by decide +kernel
  refine ((epochs_not_reused Example.restarting_run).2 _ _ Example.guest rfl ⟨?_, Or.inl trivial⟩
    ⟨_, List.mem_cons_self, ?_⟩).1
  · rw [hagain]
    simp
  · rw [Example.guest_connected]
    simp

open RoomRouter in
/-- What the guest sent before the restart is accepted after it. -/
theorem accepted_after_restart : ¬ ∀ (h : Episodes) (s : AppState), Run (Starts {}) (Lives {}) h s →
    ∀ (o : WalkOrder) (relayPort : UInt16) (source : SocketAddr) (packet : List UInt8) (limiterNow now : Instant)
      (p : PeerId) (envelope : RelayEnvelope), FromPeer s source packet p envelope → envelope.meta.connectionEpoch ≠ 0 →
      Outdated p envelope.meta.connectionEpoch h → ∃ f, (handleDatagram o relayPort s source packet limiterNow now).1 =
        .error f := by
  intro hall
  have hfrom : FromPeer Example.restarted (Example.sender Example.guestIp) Example.probe Example.guest
      ⟨{ connectionEpoch := 1 }, .relayProbe (.ofByte 7)⟩ := ⟨by decide +kernel, _, rfl, by decide +kernel⟩
  have hout : Outdated Example.guest 1 Example.restarting :=
    Or.inl ⟨Or.inl trivial, _, List.mem_cons_self, _, Example.guest_connected, rfl⟩
  obtain ⟨f, hf⟩ := hall _ _ Example.restarting_run .sorted 32000 _ _ 1 1 _ _ hfrom (by decide) hout
  have hok : (handleDatagram .sorted 32000 Example.restarted (Example.sender Example.guestIp) Example.probe 1 1).1 =
      .ok [{ destination := Example.sender Example.guestIp, message := .relayProbeAck (.ofByte 7),
             «meta» := { connectionEpoch := 1 } }] := by decide +kernel
  rw [hok] at hf
  cases hf

end Civ6LanBridge

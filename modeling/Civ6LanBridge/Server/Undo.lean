/-
Requests whose write to the database fails after the router has carried them out. Each of them takes back what it
has done, but the host session it unregisters need not be a new one.
-/
import Civ6LanBridge.Router.Change
import Civ6LanBridge.Server.Sessions

namespace Civ6LanBridge

open Std FinMap Table Bytes Prog AppState

/-! ## Registering and unregistering -/

namespace RoomRouter

variable {r r' : RoomRouter} {roomId : RoomId} {p : PeerId} {now : Instant} {fresh id old : HostSessionId}

/-- What a registration that succeeds leaves: the session `id`, and no other of the peer. -/
structure Registered (r r' : RoomRouter) (p : PeerId) (id : HostSessionId) : Prop where
  session : ∃ (host : HostState) (peer : PeerState), r'.hosts[id]? = some host ∧ host.peerId = p ∧
    r.peers[p]? = some peer ∧ peer.roomId = host.roomId
  own : ∀ host : HostState, r.hosts[id]? = some host → host.peerId = p
  others : ∀ (k : HostSessionId) (host : HostState), k ≠ id →
    (r'.hosts[k]? = some host ↔ r.hosts[k]? = some host ∧ host.peerId ≠ p)
  onlyOld : ∀ (k : GameplaySessionId) (session : GameplayState), r'.gameplay[k]? = some session →
    r.gameplay[k]? = some session
  ofOthers : ∀ (k : GameplaySessionId) (session : GameplayState), r.gameplay[k]? = some session →
    session.hostPeerId ≠ p → r'.gameplay[k]? = some session
  codes : ∀ room : RoomId, (r'.rooms[room]?).map RoomState.code = (r.rooms[room]?).map RoomState.code

theorem hosted_registered {peer : PeerState} (hp : r.peers[p]? = some peer) (hf : r.hosts[fresh]? = none)
    (hnone : ∀ (k : HostSessionId) (host : HostState), r.hosts[k]? = some host → host.peerId ≠ p) :
    Registered r (hosted r p peer now fresh) p fresh where
  session := ⟨_, peer, ExtTreeMap.getElem?_insert_self, rfl, hp, rfl⟩
  own := fun host hk => by
    rw [hf] at hk
    cases hk
  others := fun k host hne => by
    show (r.hosts.insert fresh _)[k]? = some host ↔ _
    rw [getElem?_insert_ne (Ne.symm hne)]
    exact ⟨fun hk => ⟨hk, hnone k host hk⟩, And.left⟩
  onlyOld := fun _ _ hk => hk
  ofOthers := fun _ _ hk _ => hk
  codes := fun _ => code_modify fun _ => rfl

theorem beat_registered (h : r.WF) {host : HostState} (hh : r.hosts[id]? = some host) (hp : host.peerId = p) :
    Registered r (r.beat id now) p id where
  session := by
    rcases h.hostPeer id host hh with ⟨peer, hpeer, hsits⟩
    rw [hp] at hpeer
    refine ⟨{ host with lastHeartbeat := now, expiresAt := now + r.config.hostTtl }, peer, ?_, hp, hpeer, hsits.1⟩
    show (r.hosts.modify id _)[id]? = _
    rw [ExtTreeMap.getElem?_modify_self, hh]
    rfl
  own := fun host' hh' => by
    rw [hh] at hh'
    cases hh'
    exact hp
  others := fun k host' hne => by
    show (r.hosts.modify id _)[k]? = some host' ↔ _
    rw [getElem?_modify_ne (Ne.symm hne)]
    exact ⟨fun hk => ⟨hk, fun e => hne (h.host_unique hk hh (e.trans hp.symm))⟩, And.left⟩
  onlyOld := fun _ _ hk => hk
  ofOthers := fun _ _ hk _ => hk
  codes := fun _ => rfl

/-- Removing a session that has expired first makes no difference to what is left. -/
theorem Registered.of_removed {host : HostState} (hh : r.hosts[old]? = some host) (hp : host.peerId = p)
    (hreg : Registered (r.removeHost old) r' p id) (hid : r.hosts[id]? = none) : Registered r r' p id where
  session := by simpa using hreg.session
  own := fun host' hh' => by
    rw [hid] at hh'
    cases hh'
  others := fun k host' hne => by
    rw [hreg.others k host' hne, removeHost_hosts]
    refine and_congr_left fun hother => ?_
    by_cases e : old = k
    · subst e
      rw [ExtTreeMap.getElem?_erase_self, hh]
      constructor
      · nofun
      · rintro ⟨⟩
        exact absurd hp hother
    · rw [getElem?_erase_ne e]
  onlyOld := fun k session hk => removeHost_gameplay_sub (hreg.onlyOld k session hk)
  ofOthers := fun k session hk hother => by
    refine hreg.ofOthers k session ?_ hother
    have hl : (r.removeHost old).gameplay[k]? = _ := congrFun (removeHost_gameplay r old) k
    rw [hl, keep_eq_some]
    refine ⟨hk, ?_⟩
    rintro ⟨host', hh', hown, -⟩
    rw [hh] at hh'
    cases hh'
    exact hother (hown.symm.trans hp)
  codes := fun room => (hreg.codes room).trans (congrFun (removeHosts_code [old] r) room)

theorem registerHost_registered (h : r.WF) (hf : r.hosts[fresh]? = none)
    (hok : r.registerHost roomId p now fresh = .ok id r') : Registered r r' p id := by
  cases hb : r.hostByPeer[(roomId, p)]? with
  | some old =>
    rcases registerHost_owned h hb now fresh with ⟨host, peer, hh, -, hp, hpeer, -, ⟨-, he⟩ | ⟨-, he⟩⟩
    · rw [he] at hok
      cases hok
      exact beat_registered h hh hp
    · rw [he] at hok
      cases hok
      have hf' : (r.removeHost old).hosts[fresh]? = none := by
        rw [removeHost_hosts, ExtTreeMap.getElem?_erase, hf, ite_self]
      refine .of_removed hh hp (hosted_registered (by simpa using hpeer) hf' fun k host' hk hp' => ?_) hf
      rw [removeHost_hosts] at hk
      by_cases e : old = k
      · subst e
        rw [ExtTreeMap.getElem?_erase_self] at hk
        cases hk
      · rw [getElem?_erase_ne e] at hk
        exact e (h.host_unique hh hk (hp.trans hp'.symm))
  | none =>
    unfold registerHost at hok
    rcases memberState_cases r roomId p with ⟨e, he⟩ | ⟨peer, room, hpeer, rfl, hr, he⟩
    · rw [he] at hok
      cases hok
    rw [he, hb] at hok
    dsimp only at hok
    rcases addHost_cases r hr p now fresh with ⟨-, he⟩ | ⟨-, he⟩
    · rw [he] at hok
      cases hok
    · rw [he] at hok
      cases hok
      refine hosted_registered hpeer hf fun k host hk hp => ?_
      rcases h.hostPeer k host hk with ⟨peer', hpeer', hsits⟩
      rw [hp, hpeer] at hpeer'
      cases hpeer'
      have howner : r.hostByPeer[host.owner]? = some k := h.owners.find hk
      rw [HostState.owner, hp, ← hsits.1, hb] at howner
      cases howner

/-- Once it is unregistered again, the peer has no host session and hosts no gameplay session. -/
theorem Registered.undone_hosts (hreg : Registered r r' p id) (k : HostSessionId) (host : HostState) :
    (r'.removeHost id).hosts[k]? = some host ↔ r.hosts[k]? = some host ∧ host.peerId ≠ p := by
  rw [removeHost_hosts]
  by_cases e : id = k
  · subst e
    rw [ExtTreeMap.getElem?_erase_self]
    constructor
    · nofun
    · exact fun hk => absurd (hreg.own host hk.1) hk.2
  · rw [getElem?_erase_ne e]
    exact hreg.others k host (Ne.symm e)

theorem Registered.undone_gameplay (h : r.WF) (hreg : Registered r r' p id) (k : GameplaySessionId)
    (session : GameplayState) :
    (r'.removeHost id).gameplay[k]? = some session ↔ r.gameplay[k]? = some session ∧ session.hostPeerId ≠ p := by
  rcases hreg.session with ⟨host, peer, hh, hp, hpeer, hroom⟩
  have hl : (r'.removeHost id).gameplay[k]? = _ := congrFun (removeHost_gameplay r' id) k
  rw [hl, keep_eq_some]
  constructor
  · rintro ⟨hk, hnot⟩
    have hk := hreg.onlyOld k session hk
    refine ⟨hk, fun e => hnot ⟨host, hh, hp.trans e.symm, ?_⟩⟩
    rcases h.gameplayHost k session hk with ⟨peer', hpeer', hsits⟩
    rw [e, hpeer] at hpeer'
    cases hpeer'
    exact hroom.symm.trans hsits.1
  · rintro ⟨hk, hother⟩
    refine ⟨hreg.ofOthers k session hk hother, ?_⟩
    rintro ⟨host', hh', hown, -⟩
    rw [hh] at hh'
    cases hh'
    exact hother (hown.symm.trans hp)

/-! ## What is live -/

def LiveHost (r : RoomRouter) (k : HostSessionId) (now : Instant) : Prop :=
  ∃ host : HostState, r.hosts[k]? = some host ∧ now < host.expiresAt

def LiveGameplay (r : RoomRouter) (k : GameplaySessionId) (now : Instant) : Prop :=
  ∃ session : GameplayState, r.gameplay[k]? = some session ∧ now < session.expiresAt

/-- The same rooms, and the same sessions that have not expired. -/
structure SameLive (r r' : RoomRouter) (now : Instant) : Prop where
  rooms : ∀ room : RoomId, (r'.rooms[room]?).map RoomState.code = (r.rooms[room]?).map RoomState.code
  hosts : ∀ k, r'.LiveHost k now ↔ r.LiveHost k now
  gameplay : ∀ k, r'.LiveGameplay k now ↔ r.LiveGameplay k now

theorem SameLive.rfl : SameLive r r now := ⟨fun _ => Eq.refl _, fun _ => Iff.rfl, fun _ => Iff.rfl⟩

/-- The peer hosts something that has not expired. -/
def HostsLive (r : RoomRouter) (p : PeerId) (now : Instant) : Prop :=
  (∃ (k : HostSessionId) (host : HostState), r.hosts[k]? = some host ∧ host.peerId = p ∧ now < host.expiresAt) ∨
    ∃ (k : GameplaySessionId) (session : GameplayState), r.gameplay[k]? = some session ∧ session.hostPeerId = p ∧
      now < session.expiresAt

theorem Registered.undone_iff (h : r.WF) (hreg : Registered r r' p id) :
    SameLive r (r'.removeHost id) now ↔ ¬ r.HostsLive p now := by
  constructor
  · rintro hsame (⟨k, host, hk, hp, hlive⟩ | ⟨k, session, hk, hp, hlive⟩)
    · rcases (hsame.hosts k).2 ⟨host, hk, hlive⟩ with ⟨host', hk', -⟩
      rcases (hreg.undone_hosts k host').1 hk' with ⟨hk', hother⟩
      rw [hk] at hk'
      cases hk'
      exact hother hp
    · rcases (hsame.gameplay k).2 ⟨session, hk, hlive⟩ with ⟨session', hk', -⟩
      rcases (hreg.undone_gameplay h k session').1 hk' with ⟨hk', hother⟩
      rw [hk] at hk'
      cases hk'
      exact hother hp
  · intro hno
    refine ⟨fun room => (congrFun (removeHosts_code [id] r') room).trans (hreg.codes room), fun k => ?_, fun k => ?_⟩
    · constructor
      · rintro ⟨host, hk, hlive⟩
        exact ⟨host, ((hreg.undone_hosts k host).1 hk).1, hlive⟩
      · rintro ⟨host, hk, hlive⟩
        exact ⟨host, (hreg.undone_hosts k host).2 ⟨hk, fun hp => hno (.inl ⟨k, host, hk, hp, hlive⟩)⟩, hlive⟩
    · constructor
      · rintro ⟨session, hk, hlive⟩
        exact ⟨session, ((hreg.undone_gameplay h k session).1 hk).1, hlive⟩
      · rintro ⟨session, hk, hlive⟩
        exact ⟨session, (hreg.undone_gameplay h k session).2 ⟨hk, fun hp => hno (.inr ⟨k, session, hk, hp, hlive⟩)⟩,
          hlive⟩

/-! ## The other operations -/

/-- A heartbeat keeps what it is for alive. -/
theorem heartbeat_sameLive {o : WalkOrder} (httl : 0 < r.config.hostTtl) (h : r.WF)
    (hok : r.heartbeatHostForRoom roomId p id now = .ok () r') : SameLive r r' now := by
  have hdone : (RouterOp.exec o r (.heartbeatHostForRoom roomId p id now)) = .ok () r' := hok
  have heff := RoomRouter.exec_ok o h (congrArg Prod.fst hdone)
  rcases heff with ⟨r'', he, heff⟩
  rw [hdone] at he
  cases he
  cases heff with
  | beatForRoom hh he =>
    cases he with
    | @beat _ host _ hh hlt =>
      refine ⟨fun _ => rfl, fun k => ?_, fun _ => Iff.rfl⟩
      by_cases e : id = k
      · subst e
        refine ⟨fun _ => ⟨host, hh, hlt⟩, fun _ =>
          ⟨{ host with lastHeartbeat := now, expiresAt := now + r.config.hostTtl }, ?_, ?_⟩⟩
        · show (r.hosts.modify id _)[id]? = _
          rw [ExtTreeMap.getElem?_modify_self, hh]
          rfl
        · exact Nat.lt_add_of_pos_right httl
      · show (∃ host, (r.hosts.modify id _)[k]? = some host ∧ _) ↔ _
        rw [getElem?_modify_ne e]
        rfl

/-- A selection that succeeds makes the session under the identifier that is generated, and nothing else. -/
theorem selectHost_ok {hostId : HostSessionId} {k id : GameplaySessionId}
    (hok : r.selectHost roomId p hostId now k = .ok id r') :
    id = k ∧ ∃ session, r' = { r with gameplay := r.gameplay.insert k session } := by
  unfold selectHost at hok
  split at hok
  · cases hok
  split at hok
  · cases hok
  split at hok
  · cases hok
  split at hok
  · cases hok
  split at hok
  · cases hok
  · cases hok
    exact ⟨rfl, _, rfl⟩

theorem select_undone {hostId : HostSessionId} {k id : GameplaySessionId} (hf : r.gameplay[k]? = none)
    (hok : r.selectHost roomId p hostId now k = .ok id r') : SameLive r (r'.removeGameplaySession id).2 now := by
  rcases selectHost_ok hok with ⟨rfl, session, rfl⟩
  have hrestored : (removeGameplaySession { r with gameplay := r.gameplay.insert id session } id).2 = r := by
    unfold removeGameplaySession
    rw [if_pos (by simp)]
    refine RoomRouter.ext rfl rfl rfl rfl rfl rfl rfl rfl (ExtTreeMap.ext_getElem? fun k => ?_)
    show ((r.gameplay.insert id session).erase id)[k]? = r.gameplay[k]?
    by_cases e : id = k
    · subst e
      rw [ExtTreeMap.getElem?_erase_self, hf]
    · rw [getElem?_erase_ne e, getElem?_insert_ne e]
  rw [hrestored]
  exact .rfl

/-- Creating a room and removing it again leaves the other rooms. -/
theorem create_undone {code : RoomCode} (hr : r.rooms[roomId]? = none) :
    SameLive r (removeEmptyRoom { r with
      rooms := r.rooms.insert roomId { code, members := ∅, hostSessions := ∅ }
      roomsByCode := r.roomsByCode.insert code roomId } roomId).2 now := by
  unfold removeEmptyRoom
  simp only [ExtTreeMap.getElem?_insert_self, ExtTreeSet.isEmpty_empty, Bool.not_true, Bool.or_self, Bool.false_eq_true]
  refine ⟨fun room => ?_, fun _ => Iff.rfl, fun _ => Iff.rfl⟩
  show (((r.rooms.insert roomId _).erase roomId)[room]?).map _ = _
  by_cases e : roomId = room
  · subst e
    rw [ExtTreeMap.getElem?_erase_self, hr]
  · rw [getElem?_erase_ne e, getElem?_insert_ne e]

end RoomRouter

/-! ## Requests -/

/-- The requests that write to the database what they have done in the router. -/
inductive WritingRequest
  | createRoom (roomCode : RoomCode) (fresh : RoomId)
  | registerHost (code : String) (payload : RegisterHostRequest) (fresh : HostSessionId)
  | heartbeatHost (code : String) (payload : HeartbeatRequest)
  | createGameplaySession (code : String) (payload : CreateGameplayRequest) (fresh : GameplaySessionId)

namespace WritingRequest

/-- The request run to its end, with nothing in between; `failure` is how its write goes. -/
def serve (failure : Option SqlError) (dbNow : Timestamp) (caller : Caller) (now : Instant) (s : AppState) :
    WritingRequest → Answer Unit × AppState
  | createRoom roomCode fresh =>
    ((Civ6LanBridge.createRoom { insertRoom := failure, dbNow } caller roomCode fresh).run s).map (·.map fun _ => ()) id
  | registerHost code payload fresh =>
    ((Civ6LanBridge.registerHost failure caller code now payload fresh).run s).map (·.map fun _ => ()) id
  | heartbeatHost code payload =>
    ((Civ6LanBridge.heartbeatHost failure caller code now payload).run s).map (·.map fun _ => ()) id
  | createGameplaySession code payload fresh =>
    ((Civ6LanBridge.createGameplaySession failure caller code now payload fresh).run s).map (·.map fun _ => ()) id

/-- The identifier that is generated for a session is not in use. -/
def Fresh (r : RoomRouter) : WritingRequest → Prop
  | registerHost _ _ fresh => r.hosts[fresh]? = none
  | createGameplaySession _ _ fresh => r.gameplay[fresh]? = none
  | _ => True

/-- A registration for a peer that hosts something live already. -/
def Reregisters (r : RoomRouter) (now : Instant) : WritingRequest → Prop
  | registerHost _ payload _ => r.HostsLive payload.peerId now
  | _ => False

end WritingRequest

namespace AppState

variable {s : AppState} {r' : RoomRouter} {caller : Caller} {code : String} {now : Instant} {failure : Option SqlError}
  {roomCode : RoomCode}

/-! ## What fails before the write fails otherwise -/

theorem requireBearer_error {e : ApiError} {s' : AppState} (h : s.requireBearer caller = (.error e, s')) :
    e = .unauthorized ∨ e = .rateLimited := by
  have hlimit : ∀ {s₀ : AppState} {token : String}, s₀.limitToken token caller.limiterNow = (.error e, s') →
      e = .rateLimited := by
    intro s₀ token h
    unfold limitToken at h
    split at h
    · cases h
    · cases h
      rfl
  unfold requireBearer at h
  split at h
  · cases h
    exact Or.inl rfl
  split at h
  · exact Or.inr (hlimit h)
  dsimp only at h
  split at h
  · cases h
    exact Or.inl rfl
  · exact Or.inr (hlimit h)

theorem authorizeRoom_cases (s : AppState) (caller : Caller) (code : String) :
    (∃ e s', s.authorizeRoom caller code = (.error e, s') ∧ e ≠ writeFailed) ∨
      ∃ roomCode, Leaves (s.authorizeRoom caller code) (.ok roomCode) s.stores := by
  rcases requireBearer_leaves s caller with ⟨res, s', hb, hs⟩
  unfold authorizeRoom
  rw [hb]
  cases res with
  | error e =>
    refine Or.inl ⟨e, s', rfl, ?_⟩
    rcases requireBearer_error hb with rfl | rfl <;> simp [writeFailed]
  | ok _ =>
    show (∃ e s'', (parseRoomCode code, s') = (.error e, s'') ∧ _) ∨ _
    unfold parseRoomCode
    cases RoomCode.parse code with
    | error e => exact Or.inl ⟨_, s', rfl, by simp [writeFailed]⟩
    | ok roomCode => exact Or.inr ⟨roomCode, s', rfl, hs⟩

theorem ofRouter_ne (e : RouterError) : ApiError.ofRouter e ≠ writeFailed := by
  cases e <;> simp [ApiError.ofRouter, writeFailed]

theorem inRoom_cases {α β : Type} (s : AppState) (roomCode : RoomCode) (call : RoomId → RoomRouter → Outcome α)
    (snapshot : RoomRouter → α → Except RouterError β) :
    (∃ e s', s.inRoom roomCode call snapshot = (.error e, s') ∧ e ≠ .error writeFailed) ∨
      ∃ roomId a b r', call roomId s.router = .ok a r' ∧ snapshot r' a = .ok b ∧
        Leaves (s.inRoom roomCode call snapshot) (.ok b) { s.stores with router := r' } := by
  unfold inRoom roomOfCode
  split
  · rename_i e he
    refine Or.inl ⟨_, s, rfl, ?_⟩
    split at he
    · cases he
      simp [writeFailed]
    · cases he
  rename_i roomId _
  unfold routed
  rcases hc : call roomId s.router with ⟨e | a, r'⟩
  · refine Or.inl ⟨e.map .ofRouter, { s with router := r' }, rfl, ?_⟩
    cases e with
    | panic => nofun
    | error e =>
      intro he
      exact ofRouter_ne e (Fault.error.inj he)
  · cases hsnap : snapshot r' a with
    | error e =>
      refine Or.inl ⟨.error (.ofRouter e), { s with router := r' }, ?_, fun he => ofRouter_ne e (Fault.error.inj he)⟩
      simp only [hsnap]
      rfl
    | ok b =>
      refine Or.inr ⟨roomId, a, b, r', hc, hsnap, { s with router := r' }, ?_, rfl⟩
      simp only [hsnap]
      rfl

end AppState

/-! ## A write that fails -/

section

variable {s : AppState} {failure : Option SqlError} {dbNow : Timestamp} {caller : Caller} {code : String}
  {now : Instant}

/-- The answer that the write has failed. -/
def Failed {α : Type} (x : Answer α × AppState) : Prop := x.1 = .error (.error writeFailed)

/-- Where the write has failed, the router has done what it was asked to, and the request is left to take it back. -/
theorem writing_failed {α β γ : Type} {doing storing : SessionCall} {call : RoomId → RoomRouter → Outcome α}
    {snapshot : RoomRouter → α → Except RouterError β} {response : β → γ} {undo : β → SessionHandler γ}
    {x : Answer γ × AppState} (hx : (writing failure caller code doing storing
      (fun roomCode s => s.inRoom roomCode call snapshot) response undo).run s = x) (hfailed : Failed x) :
    ∃ roomId a b r' s', call roomId s.router = .ok a r' ∧ snapshot r' a = .ok b ∧ s'.router = r' ∧
      x = (undo b).run s' := by
  unfold writing at hx
  rcases authorizeRoom_cases s caller code with ⟨e, s₁, he, hne⟩ | ⟨roomCode, s₁, he, hs₁⟩
  · rw [run_atomically, he] at hx
    subst hx
    exact absurd (Fault.error.inj (Except.error.inj hfailed)) hne
  rw [run_atomically, he] at hx
  dsimp only at hx
  rcases inRoom_cases s₁ roomCode call snapshot with ⟨e, s₂, he₂, hne⟩ | ⟨roomId, a, b, r', hok, hsnap, s₂, he₂, hs₂⟩
  · rw [run_atomically, he₂] at hx
    subst hx
    exact absurd (Except.error.inj hfailed) hne
  rw [run_atomically, he₂] at hx
  dsimp only at hx
  have hr₁ : s₁.router = s.router := congrArg Stores.router hs₁
  have hr₂ : s₂.router = r' := congrArg Stores.router hs₂
  rw [hr₁] at hok
  rw [run_atomically] at hx
  rcases hw : s₂.writeSession failure with ⟨e | _, s₃⟩
  · rw [hw] at hx
    obtain rfl := execute_error hw
    exact ⟨roomId, a, b, r', s₃, hok, hsnap, hr₂, hx.symm⟩
  · rw [hw] at hx
    subst hx
    cases hfailed

theorem routed_router {α : Type} (s : AppState) (call : RoomRouter → Outcome α) :
    (s.routed call).2.router = (call s.router).2 := by
  unfold routed
  split <;> (rename_i h; rw [h])

theorem createRoom_failed {roomCode : RoomCode} {fresh : RoomId} {x : Answer RoomSnapshot × AppState}
    (hx : (createRoom { insertRoom := failure, dbNow } caller roomCode fresh).run s = x) (hfailed : Failed x) :
    s.router.SameLive x.2.router now := by
  rcases requireBearer_leaves s caller with ⟨res, s₁, hb, hs₁⟩
  have hr₁ : s₁.router = s.router := congrArg Stores.router hs₁
  unfold createRoom at hx
  rw [run_atomically, hb] at hx
  cases res with
  | error e =>
    subst hx
    show s.router.SameLive s₁.router now
    rw [hr₁]
    exact .rfl
  | ok _ =>
    dsimp only at hx
    rw [run_atomically] at hx
    rcases createRoom_cases s₁ roomCode fresh with ⟨e, he⟩ | ⟨-, hnone, s₂, he, hs₂⟩
    · rw [he] at hx
      subst hx
      show s.router.SameLive s₁.router now
      rw [hr₁]
      exact .rfl
    rw [he] at hx
    dsimp only at hx
    rw [run_atomically] at hx
    rcases hw : s₂.dbInsertRoom { insertRoom := failure, dbNow } fresh roomCode with ⟨e | _, s₃⟩
    · rw [hw] at hx
      obtain rfl := execute_error hw
      subst hx
      have hr₂ : s₃.router = _ := congrArg Stores.router hs₂
      show s.router.SameLive (s₃.routed fun r => r.removeEmptyRoom fresh).2.router now
      rw [routed_router, hr₂]
      change s₁.router.rooms[fresh]? = none at hnone
      rw [← hr₁]
      exact RoomRouter.create_undone hnone
    · rw [hw] at hx
      subst hx
      cases hfailed

theorem registerHost_failed (h : s.router.WF) {payload : RegisterHostRequest} {fresh : HostSessionId}
    (hf : s.router.hosts[fresh]? = none) {x : Answer HostResponse × AppState}
    (hx : (registerHost failure caller code now payload fresh).run s = x) (hfailed : Failed x) :
    s.router.SameLive x.2.router now ↔ ¬ s.router.HostsLive payload.peerId now := by
  rcases writing_failed hx hfailed with ⟨roomId, id, snapshot, r', s', hok, hsnap, hr', rfl⟩
  have hreg := RoomRouter.registerHost_registered h hf hok
  rcases hreg.session with ⟨host, -, hh, -⟩
  have hid : snapshot.hostSessionId = id := by
    unfold RoomRouter.hostSnapshot at hsnap
    rw [hh] at hsnap
    cases hsnap
    rfl
  have hafter : ((s'.routed fun r => r.unregisterHost snapshot.hostSessionId).2).router = r'.removeHost id := by
    rw [routed_router, hr', hid, RoomRouter.unregisterHost,
      if_pos (by rw [← ExtTreeMap.isSome_getElem?_eq_contains, hh]; rfl)]
    rfl
  show s.router.SameLive (s'.routed fun r => r.unregisterHost snapshot.hostSessionId).2.router now ↔ _
  rw [hafter]
  exact hreg.undone_iff h

theorem heartbeatHost_failed (h : s.router.WF) (httl : 0 < s.router.config.hostTtl) {payload : HeartbeatRequest}
    {x : Answer HostResponse × AppState} (hx : (heartbeatHost failure caller code now payload).run s = x)
    (hfailed : Failed x) : s.router.SameLive x.2.router now := by
  rcases writing_failed hx hfailed with ⟨roomId, _, snapshot, r', s', hok, -, hr', rfl⟩
  show s.router.SameLive s'.router now
  rw [hr']
  exact RoomRouter.heartbeat_sameLive (o := .sorted) httl h hok

theorem createGameplaySession_failed {payload : CreateGameplayRequest} {fresh : GameplaySessionId}
    (hf : s.router.gameplay[fresh]? = none) {x : Answer GameplayResponse × AppState}
    (hx : (createGameplaySession failure caller code now payload fresh).run s = x) (hfailed : Failed x) :
    s.router.SameLive x.2.router now := by
  rcases writing_failed hx hfailed with ⟨roomId, id, snapshot, r', s', hok, hsnap, hr', rfl⟩
  have hid : snapshot.sessionId = id := by
    unfold RoomRouter.gameplaySnapshot at hsnap
    split at hsnap
    · cases hsnap
    · cases hsnap
      rfl
  show s.router.SameLive (s'.routed fun r => r.removeGameplaySession snapshot.sessionId).2.router now
  rw [routed_router, hr', hid]
  exact RoomRouter.select_undone hf hok

/-- A request whose write fails leaves the rooms and the live sessions as they were, exactly unless it registers a peer
that hosts something live already. -/
theorem failed_write_iff (h : RoomRouter.Reachable {} s.router) {request : WritingRequest} (hf : request.Fresh s.router)
    (hfailed : Failed (request.serve failure dbNow caller now s)) :
    s.router.SameLive (request.serve failure dbNow caller now s).2.router now ↔ ¬ request.Reregisters s.router now := by
  have hanswer : ∀ {α : Type} {x : Answer α × AppState}, Failed (x.map (·.map fun _ => ()) id) → Failed x := by
    rintro α ⟨e | a, s'⟩ hx
    · exact congrArg Except.error (Except.error.inj hx)
    · cases hx
  have hkept : s.router.SameLive (request.serve failure dbNow caller now s).2.router now →
      ¬ request.Reregisters s.router now →
        (s.router.SameLive (request.serve failure dbNow caller now s).2.router now ↔
          ¬ request.Reregisters s.router now) :=
    fun hsame hno => iff_of_true hsame hno
  cases request with
  | createRoom roomCode fresh => exact hkept (createRoom_failed rfl (hanswer hfailed)) id
  | registerHost code payload fresh => exact registerHost_failed h.wf hf rfl (hanswer hfailed)
  | heartbeatHost code payload =>
    refine hkept (heartbeatHost_failed h.wf ?_ rfl (hanswer hfailed)) id
    rw [h.config_eq]
    decide
  | createGameplaySession code payload fresh => exact hkept (createGameplaySession_failed hf rfl (hanswer hfailed)) id

end

/-! ## A host that registers again -/

namespace Example

/-- A server with a database, on which one peer hosts. -/
def recorded : AppState :=
  { AppState.new bearerToken with router := RoomRouter.Example.hosting, database := some .empty }

/-- The peer sends a sign of life. -/
def beating : WritingRequest :=
  .heartbeatHost "RMAAAA" { peerId := RoomRouter.Example.peer, hostSessionId := RoomRouter.Example.host }

/-- The peer registers as a host once more. -/
def registering : WritingRequest := .registerHost "RMAAAA" { peerId := RoomRouter.Example.peer } (.ofByte 8)

/-- The request, of which the write fails. -/
def lost (request : WritingRequest) : Answer Unit × AppState := request.serve (some .unavailable) 0 caller 0 recorded

theorem beating_failed : Failed (lost beating) := show (lost beating).1 = _ by decide +kernel

theorem registering_failed : Failed (lost registering) := show (lost registering).1 = _ by decide +kernel

end Example

open Example in
/-- A sign of life that is not recorded leaves the session. -/
theorem host_survives : recorded.router.SameLive (lost beating).2.router 0 :=
  (failed_write_iff RoomRouter.Example.hosting_reachable (show beating.Fresh recorded.router from trivial)
    beating_failed).2 id

open Example in
/-- The session of a host that registers again is gone when this is not recorded. -/
theorem host_lost : ¬ ∀ (s : AppState) (request : WritingRequest) (failure : Option SqlError) (dbNow : Timestamp)
    (caller : Caller) (now : Instant), RoomRouter.Reachable {} s.router → request.Fresh s.router →
      Failed (request.serve failure dbNow caller now s) →
        s.router.SameLive (request.serve failure dbNow caller now s).2.router now := by
  intro hall
  have hfresh : registering.Fresh recorded.router := show recorded.router.hosts[_]? = none by decide +kernel
  have hsame := hall recorded registering _ _ _ _ RoomRouter.Example.hosting_reachable hfresh registering_failed
  have hgone : (lost registering).2.router.hosts[RoomRouter.Example.host]? = none := by decide +kernel
  have hlive : (recorded.router.hosts[RoomRouter.Example.host]?).any (fun host => decide (0 < host.expiresAt)) =
      true := by
    decide +kernel
  rcases (Option.any_eq_true _ _).1 hlive with ⟨host, hk, hlt⟩
  rcases (hsame.hosts RoomRouter.Example.host).2 ⟨host, hk, of_decide_eq_true hlt⟩ with ⟨host', hk', -⟩
  rw [show (registering.serve _ _ _ _ recorded).2.router.hosts[RoomRouter.Example.host]? = none from hgone] at hk'
  cases hk'

end Civ6LanBridge

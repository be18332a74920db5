/-
Identifiers from another room. A request on one room that names a peer or a host session of another changes nothing, and
which error it meets depends on the way it comes to the check: some handlers say that it is forbidden, and some that
what it names does not exist.
-/
import Civ6LanBridge.Router.Isolation
import Civ6LanBridge.Server.Sessions

namespace Civ6LanBridge

open Std FinMap Bytes RoomRouter Prog

/-! ## Answers as the client sees them -/

/-- `status_and_code`. -/
def ApiError.statusAndCode : ApiError → Nat × String
  | unauthorized => (401, "unauthorized")
  | rateLimited => (429, "rate_limited")
  | forbidden _ => (403, "forbidden")
  | badRequest _ => (400, "bad_request")
  | notFound _ => (404, "not_found")
  | conflict _ => (409, "conflict")
  | internal _ => (500, "internal_error")

/-- The answer is 403. -/
def IsForbidden {α : Type} (answer : Answer α) : Prop := ∃ e, answer = .error (.error e) ∧ e.statusAndCode.1 = 403

/-! ## Requests -/

/-- The requests on a room that name peers and host sessions. -/
inductive NamingRequest
  | resumeRoom (payload : JoinRoomRequest)
  | registerHost (payload : RegisterHostRequest) (fresh : HostSessionId)
  | heartbeatHost (payload : HeartbeatRequest)
  | createGameplaySession (payload : CreateGameplayRequest) (fresh : GameplaySessionId)
  | deleteHost (hostSessionId : HostSessionId)
  | deletePeer (peerId : PeerId)

namespace NamingRequest

section

variable (base64 : String → Option (List UInt8)) (o : WalkOrder) (weather : Weather) (failure : Option SqlError)
  (caller : Caller) (code : String) (now : Instant) (s : AppState)

/-- The request run to its end, with nothing in between. -/
def serve : NamingRequest → Answer Unit × AppState
  | resumeRoom payload => ((Civ6LanBridge.resumeRoom caller code payload now).run s).map (·.map fun _ => ()) id
  | registerHost payload fresh =>
    ((Civ6LanBridge.registerHost failure caller code now payload fresh).run s).map (·.map fun _ => ()) id
  | heartbeatHost payload => ((Civ6LanBridge.heartbeatHost failure caller code now payload).run s).map
      (·.map fun _ => ()) id
  | createGameplaySession payload fresh =>
    ((Civ6LanBridge.createGameplaySession failure caller code now payload fresh).run s).map (·.map fun _ => ()) id
  | deleteHost hostSessionId => (Civ6LanBridge.deleteHost failure caller code hostSessionId).run s
  | deletePeer peerId => (Civ6LanBridge.deletePeer base64 weather o peerId caller code).run s

end

/-- The peers that a request names. -/
def peers : NamingRequest → List PeerId
  | resumeRoom payload => payload.peerId.toList
  | registerHost payload _ => [payload.peerId]
  | heartbeatHost payload => [payload.peerId]
  | createGameplaySession payload _ => [payload.clientPeerId]
  | deleteHost _ => []
  | deletePeer peerId => [peerId]

/-- The host sessions that a request names. -/
def hosts : NamingRequest → List HostSessionId
  | resumeRoom _ | registerHost _ _ | deletePeer _ => []
  | heartbeatHost payload => [payload.hostSessionId]
  | createGameplaySession payload _ => [payload.hostSessionId]
  | deleteHost hostSessionId => [hostSessionId]

/-- On this room, the request names a peer or a host session of another. -/
def Trespasses (r : RoomRouter) (roomId : RoomId) (q : NamingRequest) : Prop :=
  (∃ p ∈ q.peers, ∃ peer, r.peers[p]? = some peer ∧ peer.roomId ≠ roomId) ∨
    ∃ h ∈ q.hosts, ∃ host, r.hosts[h]? = some host ∧ host.roomId ≠ roomId

/-- The check that the request comes to first is one that forbids. -/
def Guarded (r : RoomRouter) (roomId : RoomId) : NamingRequest → Prop
  | resumeRoom _ | registerHost _ _ => False
  | heartbeatHost payload => r.hosts[payload.hostSessionId]? ≠ none
  | createGameplaySession payload _ => ∃ peer, r.peers[payload.clientPeerId]? = some peer ∧ peer.roomId = roomId
  | deleteHost _ | deletePeer _ => True

end NamingRequest

/-! ## The router's part -/

namespace RoomRouter

variable {r : RoomRouter} {roomId : RoomId} {p : PeerId} {h : HostSessionId} {now : Instant}

theorem memberState_foreign (hw : r.WF) {room : RoomState} (hr : r.rooms[roomId]? = some room)
    (hp : ¬ ∃ peer, r.peers[p]? = some peer ∧ peer.roomId = roomId) :
    r.memberState roomId p = .error (.peerNotInRoom p roomId) := by
  have hm : p ∉ room.members := fun hm => hp ((hw.member_iff hr).1 hm)
  unfold memberState
  rw [hr]
  exact if_pos hm

theorem resumePeer_foreign {peer : PeerState} (hp : r.peers[p]? = some peer) (hne : peer.roomId ≠ roomId) :
    r.resumePeer roomId p now = .err (.peerNotInRoom p roomId) r := by
  unfold resumePeer
  rw [hp]
  exact if_pos hne

theorem registerHost_foreign {fresh : HostSessionId} (hm : r.memberState roomId p = .error (.peerNotInRoom p roomId)) :
    r.registerHost roomId p now fresh = .err (.peerNotInRoom p roomId) r := by
  unfold registerHost
  rw [hm]

theorem heartbeat_unknown (hh : r.hosts[h]? = none) :
    r.heartbeatHostForRoom roomId p h now = .err (.hostNotFound h) r := by
  unfold heartbeatHostForRoom
  rw [hh]

theorem heartbeat_foreign {host : HostState} (hh : r.hosts[h]? = some host)
    (hne : host.roomId ≠ roomId ∨ host.peerId ≠ p) :
    r.heartbeatHostForRoom roomId p h now = .err (.hostNotInRoom h roomId) r := by
  unfold heartbeatHostForRoom
  rw [hh]
  exact if_pos hne

theorem selectHost_outsider {fresh : GameplaySessionId}
    (hm : r.memberState roomId p = .error (.peerNotInRoom p roomId)) :
    r.selectHost roomId p h now fresh = .err (.peerNotInRoom p roomId) r := by
  unfold selectHost
  rw [hm]

theorem selectHost_foreign {fresh : GameplaySessionId} {peer : PeerState} {host : HostState}
    (hm : r.memberState roomId p = .ok peer) (hh : r.hosts[h]? = some host) (hne : host.roomId ≠ roomId) :
    r.selectHost roomId p h now fresh = .err (.hostNotInRoom h roomId) r := by
  unfold selectHost
  rw [hm, hh]
  exact if_pos hne

end RoomRouter

/-! ## The handlers -/

namespace AppState

variable {s s₁ : AppState} {caller : Caller} {code : String} {roomCode : RoomCode} {roomId : RoomId} {e : RouterError}

/-- A request that is authorized comes to its room with the stores as they are. -/
theorem authorizeRoom_ok (hauth : (s.requireBearer caller).1 = .ok ()) (hcode : RoomCode.parse code = .ok roomCode) :
    Leaves (s.authorizeRoom caller code) (.ok roomCode) s.stores := by
  rcases requireBearer_leaves s caller with ⟨res, s₁, hb, hs₁⟩
  rw [hb] at hauth
  dsimp only at hauth
  subst hauth
  refine ⟨s₁, ?_, hs₁⟩
  unfold authorizeRoom parseRoomCode
  rw [hb, hcode]
  rfl

theorem roomOfCode_ok (hroom : s.router.roomIdForCode roomCode = some roomId) : s.roomOfCode roomCode = .ok roomId := by
  unfold roomOfCode
  rw [hroom]

theorem inRoom_err {α β : Type} {call : RoomId → RoomRouter → Outcome α}
    {snapshot : RoomRouter → α → Except RouterError β}
    (hroom : s.router.roomIdForCode roomCode = some roomId) (hcall : call roomId s.router = .err e s.router) :
    s.inRoom roomCode call snapshot = (.error (.error (.ofRouter e)), s) := by
  unfold inRoom
  rw [roomOfCode_ok hroom]
  dsimp only
  rw [routed_err s (call roomId) hcall]

theorem resume_err {p : PeerId} {now : Instant} (hroom : s.router.roomIdForCode roomCode = some roomId)
    (hcall : s.router.resumePeer roomId p now = .err e s.router) :
    s.resume roomCode (some p) now = (.error (.error (.ofRouter e)), s) := by
  unfold resume
  rw [roomOfCode_ok hroom]
  dsimp only
  rw [routed_err s (·.resumePeer roomId p now) hcall]

theorem findHost_foreign {h : HostSessionId} {host : HostState} (hroom : s.router.roomIdForCode roomCode = some roomId)
    (hh : s.router.hosts[h]? = some host) (hne : host.roomId ≠ roomId) :
    s.findHost roomCode h = .error (.forbidden (.text "host session belongs to another room")) := by
  unfold findHost hostSnapshot
  rw [roomOfCode_ok hroom, hh]
  exact if_pos hne

theorem findPeer_foreign {p : PeerId} {peer : PeerState} (hroom : s.router.roomIdForCode roomCode = some roomId)
    (hp : s.router.peers[p]? = some peer) (hne : peer.roomId ≠ roomId) :
    s.findPeer roomCode p = .error (.forbidden (.text "peer belongs to another room")) := by
  unfold findPeer roomForPeer
  rw [roomOfCode_ok hroom, hp]
  exact if_pos hne

/-- A handler that does something in a room stops where the room's part fails. -/
theorem writing_err {α β : Type} {failure : Option SqlError} {doing storing : SessionCall}
    {act : RoomCode → AppState → Answer β × AppState} {response : β → α} {undo : β → SessionHandler α}
    {f : Fault ApiError}
    (hauth : s.authorizeRoom caller code = (.ok roomCode, s₁)) (hact : act roomCode s₁ = (.error f, s₁)) :
    (writing failure caller code doing storing act response undo).run s = (.error f, s₁) := by
  unfold writing
  rw [run_atomically, hauth]
  dsimp only
  rw [run_atomically, hact]
  rfl

theorem resumeRoom_err {payload : JoinRoomRequest} {now : Instant} {f : Fault ApiError}
    (hauth : s.authorizeRoom caller code = (.ok roomCode, s₁))
    (hact : s₁.resume roomCode payload.peerId now = (.error f, s₁)) :
    (resumeRoom caller code payload now).run s = (.error f, s₁) := by
  unfold resumeRoom
  rw [run_atomically, hauth]
  dsimp only
  rw [run_atomically, hact]
  rfl

theorem deleteHost_err {failure : Option SqlError} {h : HostSessionId} {f : ApiError}
    (hauth : s.authorizeRoom caller code = (.ok roomCode, s₁)) (hfind : s₁.findHost roomCode h = .error f) :
    (deleteHost failure caller code h).run s = (.error (.error f), s₁) := by
  unfold deleteHost
  rw [run_atomically, hauth]
  dsimp only
  rw [run_atomically, hfind]
  rfl

theorem deletePeer_err {base64 : String → Option (List UInt8)} {weather : Weather} {o : WalkOrder} {p : PeerId}
    {f : ApiError}
    (hauth : s.authorizeRoom caller code = (.ok roomCode, s₁)) (hfind : s₁.findPeer roomCode p = .error f) :
    (deletePeer base64 weather o p caller code).run s = (.error (.error f), s₁) := by
  unfold deletePeer deletePeerFind
  rw [run_atomically, hauth]
  dsimp only
  rw [run_atomically, hfind]
  rfl

end AppState

/-! ## Every request -/

section

variable {base64 : String → Option (List UInt8)} {o : WalkOrder} {weather : Weather} {failure : Option SqlError}
  {caller : Caller}
  {code : String} {now : Instant} {s : AppState} {config : RouterConfig} {roomCode : RoomCode} {roomId : RoomId}

/-- A request that is refused has no response. -/
theorem refused_unit {α : Type} {x : Answer α × AppState} {f : Fault ApiError} {s₁ : AppState}
    (hx : x = (.error f, s₁)) :
    x.map (·.map fun _ => ()) id = (.error f, s₁) := by
  subst hx
  rfl

/-- What a refused request leaves, and how it is answered. -/
theorem refused_iff {x : Answer Unit × AppState} {s₁ : AppState} {e : ApiError} {P : Prop}
    (hx : x = (.error (.error e), s₁)) (hs₁ : s₁.stores = s.stores) (hP : e.statusAndCode.1 = 403 ↔ P) :
    x.2.stores = s.stores ∧ (IsForbidden x.1 ↔ P) := by
  subst hx
  refine ⟨hs₁, Iff.trans ⟨?_, fun h => ⟨e, rfl, h⟩⟩ hP⟩
  rintro ⟨e', h, hstatus⟩
  cases h
  exact hstatus

/-- A request that names somebody or something of another room leaves the stores as they were, and is answered 403
exactly if the check it comes to first is one that forbids. -/
theorem foreign_forbidden_iff (h : RoomRouter.Reachable config s.router) (hauth : (s.requireBearer caller).1 = .ok ())
    (hcode : RoomCode.parse code = .ok roomCode) (hroom : s.router.roomIdForCode roomCode = some roomId)
    {q : NamingRequest} (hq : q.Trespasses s.router roomId) :
    (q.serve base64 o weather failure caller code now s).2.stores = s.stores ∧
      (IsForbidden (q.serve base64 o weather failure caller code now s).1 ↔ q.Guarded s.router roomId) := by
  rcases AppState.authorizeRoom_ok hauth hcode with ⟨s₁, hauth, hs₁⟩
  have hw := h.wf
  rcases (hw.codes roomCode roomId).1 hroom with ⟨room, hr, -⟩
  rw [← show s₁.router = s.router from congrArg Stores.router hs₁] at hw hroom hr hq ⊢
  cases q with
  | resumeRoom payload =>
    rcases hq with ⟨p, hp, peer, hpeer, hne⟩ | ⟨_, hh, -⟩
    · have hact : s₁.resume roomCode (some p) now = _ := AppState.resume_err hroom (resumePeer_foreign hpeer hne)
      rw [← Option.mem_toList.1 hp] at hact
      refine refused_iff (refused_unit (AppState.resumeRoom_err hauth hact)) hs₁ ?_
      simp [ApiError.ofRouter, ApiError.statusAndCode, NamingRequest.Guarded]
    · cases hh
  | registerHost payload fresh =>
    rcases hq with ⟨p, hp, peer, hpeer, hne⟩ | ⟨_, hh, -⟩
    · obtain rfl := List.mem_singleton.1 hp
      have hno : ¬ ∃ peer', s₁.router.peers[payload.peerId]? = some peer' ∧ peer'.roomId = roomId := by
        rintro ⟨peer', hpeer', e⟩
        cases hpeer.symm.trans hpeer'
        exact hne e
      have hact : s₁.registerHost roomCode payload now fresh = _ :=
        AppState.inRoom_err hroom (registerHost_foreign (memberState_foreign hw hr hno))
      refine refused_iff (refused_unit (AppState.writing_err hauth hact)) hs₁ ?_
      simp [ApiError.ofRouter, ApiError.statusAndCode, NamingRequest.Guarded]
    · cases hh
  | heartbeatHost payload =>
    cases hh : s₁.router.hosts[payload.hostSessionId]? with
    | none =>
      have hact : s₁.heartbeatHost roomCode payload now = _ := AppState.inRoom_err hroom (heartbeat_unknown hh)
      refine refused_iff (refused_unit (AppState.writing_err hauth hact)) hs₁ ?_
      simp [ApiError.ofRouter, ApiError.statusAndCode, NamingRequest.Guarded, hh]
    | some host =>
      -- a session of this room belongs to a peer of this room
      have hne : host.roomId ≠ roomId ∨ host.peerId ≠ payload.peerId := by
        by_contra hsame
        push Not at hsame
        rcases hw.hostPeer _ host hh with ⟨peer', hpeer', hsits, -⟩
        rw [hsame.2] at hpeer'
        rcases hq with ⟨p, hp, peer, hpeer, hne⟩ | ⟨id, hid, host', hhost', hne⟩
        · obtain rfl := List.mem_singleton.1 hp
          cases hpeer.symm.trans hpeer'
          exact hne (hsits.trans hsame.1)
        · obtain rfl := List.mem_singleton.1 hid
          cases hhost'.symm.trans hh
          exact hne hsame.1
      have hact : s₁.heartbeatHost roomCode payload now = _ := AppState.inRoom_err hroom (heartbeat_foreign hh hne)
      refine refused_iff (refused_unit (AppState.writing_err hauth hact)) hs₁ ?_
      simp [ApiError.ofRouter, ApiError.statusAndCode, NamingRequest.Guarded, hh]
  | createGameplaySession payload fresh =>
    by_cases hp : ∃ peer, s₁.router.peers[payload.clientPeerId]? = some peer ∧ peer.roomId = roomId
    · -- the client is of this room, so it is the host that is not
      rcases hp with ⟨peer, hpeer, rfl⟩
      rcases hq with ⟨p, hp, peer', hpeer', hne⟩ | ⟨id, hid, host, hhost, hne⟩
      · obtain rfl := List.mem_singleton.1 hp
        cases hpeer.symm.trans hpeer'
        exact absurd rfl hne
      · obtain rfl := List.mem_singleton.1 hid
        have hact : s₁.selectHost roomCode payload now fresh = _ :=
          AppState.inRoom_err hroom (selectHost_foreign (memberState_ok hw hpeer) hhost hne)
        exact refused_iff (refused_unit (AppState.writing_err hauth hact)) hs₁ (iff_of_true rfl ⟨peer, hpeer, rfl⟩)
    · have hact : s₁.selectHost roomCode payload now fresh = _ :=
        AppState.inRoom_err hroom (selectHost_outsider (memberState_foreign hw hr hp))
      refine refused_iff (refused_unit (AppState.writing_err hauth hact)) hs₁ ?_
      simp only [NamingRequest.Guarded, hp, iff_false]
      simp [ApiError.ofRouter, ApiError.statusAndCode]
  | deleteHost hostSessionId =>
    rcases hq with ⟨_, hp, -⟩ | ⟨id, hh, host, hhost, hne⟩
    · cases hp
    · obtain rfl := List.mem_singleton.1 hh
      exact refused_iff (AppState.deleteHost_err hauth (AppState.findHost_foreign hroom hhost hne)) hs₁
        (iff_of_true rfl trivial)
  | deletePeer peerId =>
    rcases hq with ⟨p, hp, peer, hpeer, hne⟩ | ⟨_, hh, -⟩
    · obtain rfl := List.mem_singleton.1 hp
      exact refused_iff (AppState.deletePeer_err hauth (AppState.findPeer_foreign hroom hpeer hne)) hs₁
        (iff_of_true rfl trivial)
    · cases hh

end

/-! ## A peer of another room -/

namespace Example

open RoomRouter.Example (peer otherCode twoRooms twoRooms_reachable)

/-- A server with two rooms, of which one is empty. -/
def divided : AppState := { AppState.new bearerToken with router := twoRooms }

/-- A request on the empty room. -/
def across (q : NamingRequest) : Answer Unit × AppState := q.serve base64 .sorted {} none caller "RMBBBB" 0 divided

/-- The peer is resumed, or deleted, as if it were of that room. -/
def resuming : NamingRequest :=
  .resumeRoom { peerId := some peer, wireguardPublicKey := none, requestedVirtualIp := none }
def deleting : NamingRequest := .deletePeer peer

theorem caller_authorized : (divided.requireBearer caller).1 = .ok () := by decide +kernel

theorem otherCode_parsed : RoomCode.parse "RMBBBB" = .ok otherCode := by decide +kernel

theorem other_found : divided.router.roomIdForCode otherCode = some RoomRouter.Example.other := by decide +kernel

theorem peer_trespasses : ∃ peer', divided.router.peers[peer]? = some peer' ∧
    peer'.roomId ≠ RoomRouter.Example.other := by
  have hroom : (divided.router.peers[peer]?).map (·.roomId) = some RoomRouter.Example.room := by decide +kernel
  rcases Option.map_eq_some_iff.1 hroom with ⟨peer', hp, e⟩
  refine ⟨peer', hp, ?_⟩
  rw [e]
  decide

end Example

open Example in
theorem foreign_delete_forbidden : IsForbidden (across deleting).1 :=
  (foreign_forbidden_iff RoomRouter.Example.twoRooms_reachable caller_authorized otherCode_parsed other_found
    (q := deleting) (Or.inl ⟨_, List.mem_singleton_self _, peer_trespasses⟩)).2.2 trivial

open Example in
theorem foreign_resume_not_forbidden : ¬ ∀ (base64 : String → Option (List UInt8)) (o : WalkOrder) (weather : Weather)
    (failure : Option SqlError) (caller : Caller) (code : String) (now : Instant) (config : RouterConfig) (s : AppState)
    (roomCode : RoomCode) (roomId : RoomId) (q : NamingRequest), RoomRouter.Reachable config s.router →
      (s.requireBearer caller).1 = .ok () → RoomCode.parse code = .ok roomCode →
        s.router.roomIdForCode roomCode = some roomId →
        q.Trespasses s.router roomId → IsForbidden (q.serve base64 o weather failure caller code now s).1 ∧
          (q.serve base64 o weather failure caller code now s).2.stores = s.stores := by
  intro hall
  have hforbidden :=
    (hall base64 .sorted {} none caller "RMBBBB" 0 {} divided otherCode RoomRouter.Example.other resuming
    RoomRouter.Example.twoRooms_reachable caller_authorized otherCode_parsed other_found
    (Or.inl ⟨_, List.mem_singleton_self _, peer_trespasses⟩)).1
  have hanswer : (across resuming).1 = .error (.error (.notFound (.router (.peerNotInRoom RoomRouter.Example.peer
    RoomRouter.Example.other)))) := by decide +kernel
  rcases hforbidden with ⟨e, he, hstatus⟩
  cases hanswer.symm.trans he
  exact absurd hstatus (by decide)

end Civ6LanBridge

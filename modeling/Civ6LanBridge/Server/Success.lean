/-
Requests that go through, read backwards: what the stores were like before, and what has become of them. Each call that
was answered `ok` has done to its store what it is for.
-/
import Civ6LanBridge.Server.Agreement

namespace Civ6LanBridge

open Std FinMap Bytes RoomRouter Prog

/-! ## Calls that went through -/

theorem WireGuard.addPeer_done {base64 : String → Option (List UInt8)} {failure : Option WireGuardError}
    {wg wg' : WireGuard}
    {key : String} {ip : VirtualIp} (h : wg.addPeer base64 failure key ip = .ok wg') : wg' = wg.setPeer key ip := by
  unfold addPeer at h
  split at h
  · cases h
  · cases h
  · exact (Except.ok.inj h).symm

theorem WireGuard.removePeer_done {base64 : String → Option (List UInt8)} {failure : Option WireGuardError}
    {wg wg' : WireGuard} {key : String} (h : wg.removePeer base64 failure key = .ok wg') : wg' = wg.unsetPeer key := by
  unfold removePeer at h
  split at h
  · cases h
  · cases h
  · exact (Except.ok.inj h).symm

namespace AppState

variable {s s' : AppState} {base64 : String → Option (List UInt8)} {weather : Weather} {key : String}

theorem wgAddPeer_done {ip : VirtualIp} (h : s.wgAddPeer base64 weather key ip = (.ok (), s')) :
    s'.stores = { s.stores with wireguard := s.stores.wireguard.map (·.setPeer key ip) } := by
  rcases command_done h with ⟨hs, hrel⟩
  rw [hs, rel_eq_map (fun _ _ e => WireGuard.addPeer_done e) hrel]
  rfl

theorem wgRemovePeer_done (h : s.wgRemovePeer base64 weather key = (.ok (), s')) :
    s'.stores = { s.stores with wireguard := s.stores.wireguard.map (·.unsetPeer key) } := by
  rcases command_done h with ⟨hs, hrel⟩
  rw [hs, rel_eq_map (fun _ _ e => WireGuard.removePeer_done e) hrel]
  rfl

end AppState

/-! ## Requests that go through -/

/-- What a request that goes through makes of the stores. -/
inductive Serves (σ : Stores) : Request → Stores → Prop
  | createdRoom {caller : Caller} {roomCode : RoomCode} {fresh : RoomId} {dbNow : Timestamp}
      {database : Option Database} :
      σ.router.rooms[fresh]? = none → σ.router.roomsByCode[roomCode]? = none →
      Option.Rel (fun db db' => db.insertRoom fresh roomCode dbNow = .ok db') σ.database database →
      Serves σ (.createRoom caller roomCode fresh) { σ with
        router := { σ.router with
          rooms := σ.router.rooms.insert fresh { code := roomCode, members := ∅, hostSessions := ∅ }
          roomsByCode := σ.router.roomsByCode.insert roomCode fresh }
        database }
  | joined {caller : Caller} {code : String} {payload : JoinRoomRequest} {fresh : PeerId} {now : Instant}
      {roomId : RoomId}
      {room : RoomState} {ip : VirtualIp} {key : String} {dbNow : Timestamp} {database : Option Database} :
      payload.wireguardPublicKey = some key → σ.router.rooms[roomId]? = some room →
      σ.router.peers[payload.peerId.getD fresh]? = none → σ.router.virtualIps[ip]? = none →
      Option.Rel (fun db db' => db.insertPeer roomId (payload.peerId.getD fresh) ip key dbNow = .ok db')
        σ.database database →
      Serves σ (.joinRoom caller code payload fresh now) {
        router := σ.router.joined roomId (payload.peerId.getD fresh) ip now
        database
        wireguard := σ.wireguard.map (·.setPeer key ip)
        peerKeys := σ.peerKeys.insert (payload.peerId.getD fresh) key }
  | resumed {caller : Caller} {code : String} {payload : JoinRoomRequest} {now : Instant} (p : PeerId) :
      Serves σ (.resumeRoom caller code payload now) { σ with router := σ.router.resuming p now }
  | deletedPeer {caller : Caller} {code : String} {p : PeerId} {peer : PeerState} {key : String} (o : WalkOrder) :
      σ.router.peers[p]? = some peer → σ.peerKeys[p]? = some key →
      Serves σ (.deletePeer caller code p) {
        router := without o σ.router p peer
        database := σ.database.map (·.deletePeer p)
        wireguard := σ.wireguard.map (·.unsetPeer key)
        peerKeys := σ.peerKeys.erase p }
  | deletedRoom {caller : Caller} {code : String} {roomId : RoomId} {room : RoomState} :
      σ.router.rooms[roomId]? = some room → room.members = ∅ → room.hostSessions = ∅ →
      Serves σ (.deleteRoom caller code) { σ with
        router := { σ.router with
          rooms := σ.router.rooms.erase roomId, roomsByCode := σ.router.roomsByCode.erase room.code }
        database := σ.database.map (·.deleteRoom roomId) }

/-- The server has done what the request asks for, and answers so. -/
def Succeeded {α : Type} (x : Answer α × AppState) : Prop := x.1.isOk = true

/-- The request goes through when nothing runs in between. -/
def Request.Succeeds (base64 : String → Option (List UInt8)) (o : WalkOrder) (weather : Weather) (s : AppState) :
    Request → Prop
  | createRoom caller roomCode fresh => Succeeded ((Civ6LanBridge.createRoom weather caller roomCode fresh).run s)
  | joinRoom caller code payload fresh now =>
    Succeeded ((Civ6LanBridge.joinRoom base64 weather o caller code payload fresh now).run s)
  | resumeRoom caller code payload now => Succeeded ((Civ6LanBridge.resumeRoom caller code payload now).run s)
  | deletePeer caller code peerId => Succeeded ((Civ6LanBridge.deletePeer base64 weather o peerId caller code).run s)
  | deleteRoom caller code => Succeeded ((Civ6LanBridge.deleteRoom weather caller code).run s)

namespace AppState

variable {s : AppState} {base64 : String → Option (List UInt8)} {o : WalkOrder} {weather : Weather}

theorem createRoom_serves {caller : Caller} {roomCode : RoomCode} {fresh : RoomId} {x : Answer RoomSnapshot × AppState}
    (hx : (Civ6LanBridge.createRoom weather caller roomCode fresh).run s = x) (hok : Succeeded x) :
    Serves s.stores (.createRoom caller roomCode fresh) x.2.stores := by
  rcases requireBearer_leaves s caller with ⟨res, s₁, hb, hs₁⟩
  unfold Civ6LanBridge.createRoom at hx
  rw [run_atomically, hb] at hx
  rw [← hs₁]
  cases res with
  | error e => subst hx; cases hok
  | ok _ =>
    dsimp only at hx
    rw [run_atomically] at hx
    rcases createRoom_cases s₁ roomCode fresh with ⟨e, he⟩ | ⟨hcode, hroom, s₂, he, hs₂⟩
    · rw [he] at hx; subst hx; cases hok
    rw [he] at hx
    dsimp only at hx
    rw [run_atomically] at hx
    rcases hw : s₂.dbInsertRoom weather fresh roomCode with ⟨e | _, s₃⟩
    · rw [hw] at hx; subst hx; cases hok
    rw [hw] at hx
    subst hx
    rcases execute_done hw with ⟨hs₃, hrel⟩
    have hdb₂ : s₂.database = s₁.database := congrArg Stores.database hs₂
    rw [hdb₂] at hrel
    show Serves s₁.stores _ s₃.stores
    rw [hs₃, hs₂]
    exact .createdRoom hroom hcode hrel

theorem resumeRoom_serves {caller : Caller} {code : String} {payload : JoinRoomRequest} {now : Instant}
    {x : Answer PeerResponse × AppState} (hx : (Civ6LanBridge.resumeRoom caller code payload now).run s = x)
    (hok : Succeeded x) : Serves s.stores (.resumeRoom caller code payload now) x.2.stores := by
  rcases authorizeRoom_leaves s caller code with ⟨res, s₁, hb, hs₁⟩
  unfold Civ6LanBridge.resumeRoom at hx
  rw [run_atomically, hb] at hx
  rw [← hs₁]
  cases res with
  | error e => subst hx; cases hok
  | ok roomCode =>
    dsimp only at hx
    rw [run_atomically] at hx
    rcases resume_cases s₁ roomCode payload.peerId now with ⟨e, he⟩ | ⟨peer, p, s₂, he, hs₂⟩
    · rw [he] at hx; subst hx; cases hok
    rw [he] at hx
    subst hx
    show Serves s₁.stores _ s₂.stores
    rw [hs₂]
    exact .resumed p

theorem deleteRoom_serves {caller : Caller} {code : String} {x : Answer Unit × AppState}
    (hx : (Civ6LanBridge.deleteRoom weather caller code).run s = x) (hok : Succeeded x) :
    Serves s.stores (.deleteRoom caller code) x.2.stores := by
  rcases authorizeRoom_leaves s caller code with ⟨res, s₁, hb, hs₁⟩
  unfold Civ6LanBridge.deleteRoom at hx
  rw [run_atomically, hb] at hx
  rw [← hs₁]
  cases res with
  | error e => subst hx; cases hok
  | ok roomCode =>
    dsimp only at hx
    rw [run_atomically] at hx
    cases hfind : s₁.findEmptyRoom roomCode with
    | error e => rw [hfind] at hx; subst hx; cases hok
    | ok roomId =>
      rw [hfind] at hx
      dsimp only at hx
      rw [run_atomically] at hx
      rcases hw : s₁.dbDeleteRoom weather roomId with ⟨e | _, s₂⟩
      · rw [hw] at hx; subst hx; cases hok
      rw [hw] at hx
      dsimp only at hx
      rcases findEmptyRoom_ok hfind with ⟨room, hr, hm, hsess⟩
      have hs₂ := execute_done_total hw
      have hr₂ : s₂.router = s₁.router := congrArg Stores.router hs₂
      have hremove : s₂.router.removeEmptyRoom roomId = .ok () { s₁.router with
          rooms := s₁.router.rooms.erase roomId, roomsByCode := s₁.router.roomsByCode.erase room.code } := by
        unfold RoomRouter.removeEmptyRoom
        rw [hr₂]
        simp [hr, hm, hsess]
      rcases routed_ok s₂ (·.removeEmptyRoom roomId) hremove with ⟨s₃, he₃, hs₃⟩
      rw [run_atomically, he₃] at hx
      subst hx
      show Serves s₁.stores _ s₃.stores
      rw [hs₃, hs₂]
      exact .deletedRoom hr hm hsess

/-- A peer is deleted under the key that the server knows it by. -/
theorem deletePeer_serves {caller : Caller} {code : String} {p : PeerId} {x : Answer Unit × AppState} (hw : s.router.WF)
    (hwg : s.wireguard.isSome) (hx : (Civ6LanBridge.deletePeer base64 weather o p caller code).run s = x)
    (hok : Succeeded x) : Serves s.stores (.deletePeer caller code p) x.2.stores := by
  rcases authorizeRoom_leaves s caller code with ⟨res, s₁, hb, hs₁⟩
  have hr₁ : s₁.router = s.router := congrArg Stores.router hs₁
  have hwg₁ : s₁.wireguard = s.wireguard := congrArg Stores.wireguard hs₁
  unfold Civ6LanBridge.deletePeer at hx
  rw [run_atomically, hb] at hx
  rw [← hs₁]
  cases res with
  | error e => subst hx; cases hok
  | ok roomCode =>
    dsimp only at hx
    unfold deletePeerFind at hx
    rw [run_atomically] at hx
    cases hfind : s₁.findPeer roomCode p with
    | error e => rw [hfind] at hx; subst hx; cases hok
    | ok found =>
      rcases found with ⟨roomId, ip⟩
      rw [hfind] at hx
      dsimp only at hx
      unfold deletePeerKey at hx
      rw [run_atomically] at hx
      cases hread : s₁.readPeerKey p with
      | error e => rw [hread] at hx; subst hx; cases hok
      | ok publicKey =>
        have hkey : ∃ key, publicKey = some key ∧ s₁.peerKeys[p]? = some key := by
          have hrequired : s₁.keyRequired = true := by rw [keyRequired, hwg₁, hwg, Bool.or_true]
          unfold readPeerKey at hread
          rw [hrequired] at hread
          cases hk : s₁.peerKeys[p]? with
          | none => rw [hk] at hread; cases hread
          | some key => rw [hk] at hread; cases hread; exact ⟨key, rfl, rfl⟩
        rcases hkey with ⟨key, rfl, hk⟩
        rw [hread] at hx
        dsimp only at hx
        unfold deletePeerTunnel at hx
        rw [run_atomically] at hx
        rcases hw₂ : s₁.wgRemovePeer base64 weather key with ⟨e | _, s₂⟩
        · rw [withKey, hw₂] at hx; subst hx; cases hok
        rw [withKey, hw₂] at hx
        dsimp only at hx
        unfold deletePeerRow at hx
        rw [run_atomically] at hx
        rcases hw₃ : s₂.dbDeletePeer weather p with ⟨e | _, s₃⟩
        · rw [hw₃] at hx; subst hx; cases hok
        rw [hw₃] at hx
        dsimp only at hx
        unfold deletePeerLeave at hx
        rw [run_atomically] at hx
        -- the stores after each call
        have hs₂ := wgRemovePeer_done hw₂
        have hs₃ := execute_done_total hw₃
        have hr₃ : s₃.router = s₁.router := by
          have e := congrArg Stores.router hs₃
          rw [hs₂] at e
          exact e
        rcases leave_cases (s := s₃) (by rw [hr₃, hr₁]; exact hw) o roomId p with ⟨e, he⟩ | ⟨peer, hp, -, s₄, he, hs₄⟩
        · rw [he] at hx
          subst hx
          cases hok
        rw [he] at hx
        subst hx
        show Serves s₁.stores _ { s₄.stores with peerKeys := s₄.stores.peerKeys.erase p }
        rw [hr₃] at hp hs₄
        rw [hs₄, hs₃, hs₂]
        exact .deletedPeer o hp hk

/-- A peer joins under the key it brings. -/
theorem joinRoom_serves {caller : Caller} {code : String} {payload : JoinRoomRequest} {fresh : PeerId} {now : Instant}
    {x : Answer PeerResponse × AppState} (hwg : s.wireguard.isSome)
    (hx : (Civ6LanBridge.joinRoom base64 weather o caller code payload fresh now).run s = x) (hok : Succeeded x) :
    Serves s.stores (.joinRoom caller code payload fresh now) x.2.stores := by
  rcases checkJoin_leaves base64 s caller code payload with ⟨res, s₁, hb, hs₁⟩
  have hwg₁ : s₁.wireguard = s.wireguard := congrArg Stores.wireguard hs₁
  unfold Civ6LanBridge.joinRoom at hx
  rw [run_atomically, hb] at hx
  rw [← hs₁]
  cases res with
  | error e => subst hx; cases hok
  | ok roomCode =>
    rcases checkJoin_ok hb with ⟨key, hpayload, -⟩ | ⟨-, -, hnone⟩
    swap
    · rw [hwg₁] at hnone
      rw [hnone] at hwg
      cases hwg
    dsimp only at hx
    rw [run_atomically] at hx
    rcases enterRoom_cases s₁ roomCode (payload.peerId.getD fresh) payload.requestedVirtualIp now with
      ⟨e, he⟩ | ⟨roomId, ip, hadmits⟩
    · rw [he] at hx; subst hx; cases hok
    rcases hadmits.joined with ⟨⟨room, hr⟩, hp, hip, -⟩
    rcases hadmits.enterRoom with ⟨s₂, he, hs₂⟩
    have hwg₂ : s₂.wireguard.isSome := by
      rw [show s₂.wireguard = s₁.wireguard from congrArg Stores.wireguard hs₂, hwg₁]
      exact hwg
    rw [he, hpayload] at hx
    dsimp only at hx
    unfold joinTunnel at hx
    rw [run_atomically, hwg₂, expectKey] at hx
    rcases hw₃ : s₂.wgAddPeer base64 weather key ip with ⟨e | _, s₃⟩
    · rw [hw₃] at hx; subst hx; cases hok
    rw [hw₃] at hx
    simp only [Except.mapError] at hx
    have hs₃ := wgAddPeer_done hw₃
    have hdb₃ : s₃.database = s₁.database := by
      have e := congrArg Stores.database hs₃
      rw [hs₂] at e
      exact e
    -- without a database the row is not written, and nothing is checked
    unfold joinRow at hx
    rw [run_atomically] at hx
    rcases hw₄ : s₃.dbInsertPeer weather roomId (payload.peerId.getD fresh) ip key with ⟨res, s₄⟩
    have hcall : s₃.expectKey s₃.database.isSome (some key) (fun key =>
        s₃.dbInsertPeer weather roomId (payload.peerId.getD fresh) ip key) = (res.mapError .error, s₄) := by
      cases hd : s₃.database with
      | none =>
        rw [dbInsertPeer, execute_none (show s₃.stores.database = none from hd)] at hw₄
        cases hw₄
        rfl
      | some db => rw [Option.isSome_some, expectKey, hw₄]
    rw [hcall] at hx
    cases res with
    | error e => subst hx; cases hok
    | ok _ =>
      simp only [Except.mapError] at hx
      unfold joinKey at hx
      rw [run_atomically] at hx
      subst hx
      rcases execute_done hw₄ with ⟨hs₄, hrel₄⟩
      rw [hdb₃] at hrel₄
      show Serves s₁.stores _ { s₄.stores with peerKeys := s₄.stores.peerKeys.insert (payload.peerId.getD fresh) key }
      rw [hs₄, hs₃, hs₂]
      exact .joined hpayload hr hp hip hrel₄

end AppState

/-- A request that goes through serves. -/
theorem Request.Succeeds.serves {base64 : String → Option (List UInt8)} {o : WalkOrder} {weather : Weather}
    {s : AppState} {q : Request} (hw : s.router.WF) (hwg : s.wireguard.isSome) (hq : q.Succeeds base64 o weather s) :
    Serves s.stores q (q.serve base64 o weather s).stores := by
  cases q with
  | createRoom caller roomCode fresh => exact AppState.createRoom_serves rfl hq
  | joinRoom caller code payload fresh now => exact AppState.joinRoom_serves hwg rfl hq
  | resumeRoom caller code payload now => exact AppState.resumeRoom_serves rfl hq
  | deletePeer caller code p => exact AppState.deletePeer_serves hw hwg rfl hq
  | deleteRoom caller code => exact AppState.deleteRoom_serves rfl hq

end Civ6LanBridge

/-
Router, database and WireGuard agree on who is a peer as long as no sweep removes one: a sweep removes
a peer from the router alone, where `delete_peer` removes it from all the stores.
-/
import Civ6LanBridge.Server.Registry

namespace Civ6LanBridge

open Std FinMap Bytes Table RoomRouter Prog

/-- Every call goes through, unless a constraint forbids it. -/
def Weather.calm (dbNow : Timestamp) : Weather := { dbNow }

/-! ## Requests that run alone keep the stores in step -/

/-- Database and WireGuard are configured, and the stores keep the registry. -/
def Stores.InStep (base64 : String → Option (List UInt8)) (σ : Stores) (R : Registry) : Prop :=
  ∃ db wg, σ.database = some db ∧ σ.wireguard = some wg ∧ Represents base64 σ.router db wg σ.peerKeys R

namespace AppState

variable {base64 : String → Option (List UInt8)} {s : AppState} {R : Registry} {o : WalkOrder} {dbNow : Timestamp}
  {now : Instant}

theorem createRoom_inStep (h : s.stores.InStep base64 R) (caller : Caller) (roomCode : RoomCode) (fresh : RoomId) :
    ((Civ6LanBridge.createRoom (.calm dbNow) caller roomCode fresh).run s).2.stores.InStep base64 R := by
  obtain ⟨res, s₁, hb, hs₁⟩ := requireBearer_leaves s caller
  unfold Civ6LanBridge.createRoom
  rw [run_atomically, hb]
  rw [← hs₁] at h
  cases res with
  | error e => exact h
  | ok _ =>
    dsimp only
    rw [run_atomically]
    obtain ⟨e, he⟩ | ⟨hcode, hroom, s₂, he, hs₂⟩ := createRoom_cases s₁ roomCode fresh
    · rw [he]; exact h
    rw [he]
    obtain ⟨db, wg, hdb, hwg, hR⟩ := h
    obtain ⟨db', hinsert, hR'⟩ := hR.insertRoom dbNow hroom hcode
    have hdb₂ : s₂.stores.database = some db := by rw [hs₂]; exact hdb
    obtain ⟨s₃, he₃, hs₃⟩ := dbInsertRoom_ok (.calm dbNow) hdb₂ rfl hinsert
    dsimp only
    rw [run_atomically, he₃]
    show s₃.stores.InStep base64 R
    rw [hs₃, hs₂]
    exact ⟨db', wg, rfl, hwg, hR'⟩

theorem resumeRoom_inStep (h : s.stores.InStep base64 R) (caller : Caller) (code : String) (payload : JoinRoomRequest) :
    ((resumeRoom caller code payload now).run s).2.stores.InStep base64 R := by
  obtain ⟨res, s₁, hb, hs₁⟩ := authorizeRoom_leaves s caller code
  unfold resumeRoom
  rw [run_atomically, hb]
  rw [← hs₁] at h
  cases res with
  | error e => exact h
  | ok roomCode =>
    dsimp only
    rw [run_atomically]
    obtain ⟨e, he⟩ | ⟨peer, p, s₂, he, hs₂⟩ := resume_cases s₁ roomCode payload.peerId now
    · rw [he]; exact h
    rw [he]
    obtain ⟨db, wg, hdb, hwg, hR⟩ := h
    show s₂.stores.InStep base64 R
    rw [hs₂]
    exact ⟨db, wg, hdb, hwg, hR.edit (hR.router.resuming p now) place_resuming rfl⟩

theorem deleteRoom_inStep (h : s.stores.InStep base64 R) (caller : Caller) (code : String) :
    ((deleteRoom (.calm dbNow) caller code).run s).2.stores.InStep base64 R := by
  obtain ⟨res, s₁, hb, hs₁⟩ := authorizeRoom_leaves s caller code
  unfold deleteRoom
  rw [run_atomically, hb]
  rw [← hs₁] at h
  cases res with
  | error e => exact h
  | ok roomCode =>
    dsimp only
    rw [run_atomically]
    cases hfind : s₁.findEmptyRoom roomCode with
    | error e => exact h
    | ok roomId =>
      obtain ⟨room, hr, hm, hsess⟩ := findEmptyRoom_ok hfind
      obtain ⟨db, wg, hdb, hwg, hR⟩ := h
      obtain ⟨s₂, he₂, hs₂⟩ := dbDeleteRoom_ok (.calm dbNow) roomId hdb rfl
      have hremove : s₂.router.removeEmptyRoom roomId = .ok () { s₁.router with
          rooms := s₁.router.rooms.erase roomId, roomsByCode := s₁.router.roomsByCode.erase room.code } := by
        have hr₂ : s₂.router = s₁.router := congrArg Stores.router hs₂
        unfold RoomRouter.removeEmptyRoom
        rw [hr₂]
        simp [hr, hm, hsess]
      obtain ⟨s₃, he₃, hs₃⟩ := routed_ok s₂ (·.removeEmptyRoom roomId) hremove
      dsimp only
      rw [run_atomically, he₂]
      dsimp only
      rw [run_atomically, he₃]
      show s₃.stores.InStep base64 R
      rw [hs₃, hs₂]
      exact ⟨_, wg, rfl, hwg, hR.deleteRoom hr hm hsess⟩

/-- A peer that is deleted is struck off. -/
theorem deletePeer_inStep (o : WalkOrder) (dbNow : Timestamp) (h : s.stores.InStep base64 R) (caller : Caller)
    (code : String) (p : PeerId) :
    ∃ R', ((deletePeer base64 (.calm dbNow) o p caller code).run s).2.stores.InStep base64 R' ∧
      (R' = R ∨ R' = R.strike p) := by
  obtain ⟨res, s₁, hb, hs₁⟩ := authorizeRoom_leaves s caller code
  unfold deletePeer
  rw [run_atomically, hb]
  rw [← hs₁] at h
  cases res with
  | error e => exact ⟨R, h, Or.inl rfl⟩
  | ok roomCode =>
    dsimp only
    unfold deletePeerFind
    rw [run_atomically]
    cases hfind : s₁.findPeer roomCode p with
    | error e => exact ⟨R, h, Or.inl rfl⟩
    | ok found =>
      obtain ⟨roomId, ip⟩ := found
      obtain ⟨db, wg, hdb, hwg, hR⟩ := h
      obtain ⟨peer, hp, rfl, rfl⟩ := place_eq_some.1 (findPeer_ok hfind)
      obtain ⟨m, hm, -⟩ := hR.member hp
      have hkey : s₁.peerKeys[p]? = some m.publicKey := (hR.keys p).trans (by rw [hm]; rfl)
      have hvalid := hR.valid p m hm
      -- the four calls, one after the other
      obtain ⟨s₂, he₂, hs₂⟩ := wgRemovePeer_ok (.calm dbNow) hwg rfl hvalid
      have hdb₂ : s₂.stores.database = some db := by rw [hs₂]; exact hdb
      obtain ⟨s₃, he₃, hs₃⟩ := dbDeletePeer_ok (.calm dbNow) p hdb₂ rfl
      have hr₃ : s₃.router = s₁.router := by
        have e := congrArg Stores.router hs₃
        rw [hs₂] at e
        exact e
      have hleave : leaveRoom o s₃.router peer.roomId p = .ok () (without o s₁.router p peer) := by
        rw [hr₃]; exact leaveRoom_peer o hR.router hp
      obtain ⟨s₄, he₄, hs₄⟩ := routed_ok s₃ (fun r => leaveRoom o r peer.roomId p) hleave
      refine ⟨R.strike p, ?_, Or.inr rfl⟩
      dsimp only
      unfold deletePeerKey
      rw [run_atomically, readPeerKey, hkey, Option.isNone_some, Bool.and_false, if_neg Bool.false_ne_true]
      dsimp only
      unfold deletePeerTunnel
      rw [run_atomically, withKey, he₂]
      dsimp only
      unfold deletePeerRow
      rw [run_atomically, he₃]
      dsimp only
      unfold deletePeerLeave
      rw [run_atomically, he₄]
      show Stores.InStep base64 { s₄.stores with peerKeys := s₄.stores.peerKeys.erase p } (R.strike p)
      rw [hs₄, hs₃, hs₂]
      exact ⟨_, _, rfl, rfl, hR.strike hp hm⟩

/-- A peer that joins is entered, under its public key. -/
theorem joinRoom_inStep (o : WalkOrder) (dbNow : Timestamp) (h : s.stores.InStep base64 R) (caller : Caller)
    (code : String) (payload : JoinRoomRequest) (fresh : PeerId) (now : Instant)
    (hkey : ∀ key, payload.wireguardPublicKey = some key → ∀ q n, R q = some n → n.publicKey ≠ key) :
    ∃ R', ((joinRoom base64 (.calm dbNow) o caller code payload fresh now).run s).2.stores.InStep base64 R' ∧
      (R' = R ∨ ∃ p m, payload.wireguardPublicKey = some m.publicKey ∧ R' = R.enrol p m) := by
  obtain ⟨res, s₁, hb, hs₁⟩ := checkJoin_leaves base64 s caller code payload
  unfold joinRoom
  rw [run_atomically, hb]
  rw [← hs₁] at h
  cases res with
  | error e => exact ⟨R, h, Or.inl rfl⟩
  | ok roomCode =>
    obtain ⟨db, wg, hdb, hwg, hR⟩ := h
    obtain ⟨key, hpayload, hvalid⟩ | ⟨-, hnone, -⟩ := checkJoin_ok hb
    swap
    · rw [show s₁.database = some db from hdb] at hnone; cases hnone
    dsimp only
    rw [run_atomically]
    obtain ⟨e, he⟩ | ⟨roomId, ip, hadmits⟩ :=
      enterRoom_cases s₁ roomCode (payload.peerId.getD fresh) payload.requestedVirtualIp now
    · rw [he]; exact ⟨R, ⟨db, wg, hdb, hwg, hR⟩, Or.inl rfl⟩
    obtain ⟨⟨room, hr⟩, hp, hip, -⟩ := hadmits.joined
    obtain ⟨s₂, he, hs₂⟩ := hadmits.enterRoom
    rw [he, hpayload]
    let m : Member := { roomId, virtualIp := ip, publicKey := key }
    have hinsert := hR.insertPeer dbNow (m := m) hr hp hip (hkey key hpayload)
    have hwg₂ : s₂.stores.wireguard = some wg := by rw [hs₂]; exact hwg
    obtain ⟨s₃, he₃, hs₃⟩ := wgAddPeer_ok (.calm dbNow) ip hwg₂ rfl hvalid
    have hdb₃ : s₃.stores.database = some db := by rw [hs₃, hs₂]; exact hdb
    obtain ⟨s₄, he₄, hs₄⟩ := dbInsertPeer_ok (.calm dbNow) hdb₃ rfl hinsert
    -- in calm weather no call fails, so all four stores get the peer
    refine ⟨R.enrol (payload.peerId.getD fresh) m, ?_, Or.inr ⟨_, m, rfl, rfl⟩⟩
    dsimp only
    unfold joinTunnel
    rw [run_atomically, show s₂.wireguard = some wg from hwg₂, Option.isSome_some, expectKey, he₃]
    simp only [Except.mapError]
    unfold joinRow
    rw [run_atomically, show s₃.database = some db from hdb₃, Option.isSome_some, expectKey, he₄]
    simp only [Except.mapError]
    unfold joinKey
    rw [run_atomically]
    show Stores.InStep base64 { s₄.stores with peerKeys := s₄.stores.peerKeys.insert (payload.peerId.getD fresh) key } _
    rw [hs₄, hs₃, hs₂]
    exact ⟨_, _, rfl, rfl, hR.enrol (m := m) hr hp hip (hkey key hpayload) hvalid⟩

end AppState

/-! ## Runs of requests and sweeps -/

/-- A request, with what the server reads from the clock and draws at random for it. -/
inductive Request
  | createRoom (caller : Caller) (roomCode : RoomCode) (fresh : RoomId)
  | joinRoom (caller : Caller) (code : String) (payload : JoinRoomRequest) (fresh : PeerId) (now : Instant)
  | resumeRoom (caller : Caller) (code : String) (payload : JoinRoomRequest) (now : Instant)
  | deletePeer (caller : Caller) (code : String) (peerId : PeerId)
  | deleteRoom (caller : Caller) (code : String)

namespace Request

/-- What a request makes of the server when nothing runs in between. -/
def serve (base64 : String → Option (List UInt8)) (o : WalkOrder) (weather : Weather) (s : AppState) :
    Request → AppState
  | createRoom caller roomCode fresh => ((Civ6LanBridge.createRoom weather caller roomCode fresh).run s).2
  | joinRoom caller code payload fresh now =>
    ((Civ6LanBridge.joinRoom base64 weather o caller code payload fresh now).run s).2
  | resumeRoom caller code payload now => ((Civ6LanBridge.resumeRoom caller code payload now).run s).2
  | deletePeer caller code peerId => ((Civ6LanBridge.deletePeer base64 weather o peerId caller code).run s).2
  | deleteRoom caller code => ((Civ6LanBridge.deleteRoom weather caller code).run s).2

/-- The public key that a request to join brings. -/
def keys : Request → List String
  | joinRoom _ _ payload _ _ => payload.wireguardPublicKey.toList
  | _ => []

end Request

namespace AppState

/-- The sweep that the relay runs every second. -/
def sweep (o : WalkOrder) (s : AppState) (now : Instant) : AppState :=
  { s with router := (RoomRouter.expire o s.router now).2 }

/-- A sweep at this time removes nobody. -/
def SparesAll (s : AppState) (now : Instant) : Prop :=
  ∀ (p : PeerId) (peer : PeerState), s.router.peers[p]? = some peer → ¬ peer.Lapses s.router.config now

/-- Router and database have the same peers, in the same rooms and at the same addresses, and WireGuard
has one entry for each of them, under its public key and with its address, and nothing else. -/
structure Agree (s : AppState) : Prop where
  rows : ∃ db, s.database = some db ∧ ∀ (p : PeerId) (roomId : RoomId) (ip : VirtualIp),
    s.router.place p = some (roomId, ip) ↔
      ∃ row : PeerRow, db.peers[p]? = some row ∧ row.leftAt = none ∧ row.roomId = roomId ∧ row.virtualIp = ip
  tunnels : ∃ wg, s.wireguard = some wg ∧
    (∀ (p : PeerId) (roomId : RoomId) (ip : VirtualIp), s.router.place p = some (roomId, ip) →
      ∃ k : String, s.peerKeys[p]? = some k ∧ wg.allowedIp[k]? = some (some ip)) ∧
    ∀ (k : String) (a : Option VirtualIp), wg.allowedIp[k]? = some a →
      ∃! p : PeerId, s.peerKeys[p]? = some k ∧ ∃ roomId ip, s.router.place p = some (roomId, ip) ∧ a = some ip

end AppState

/-- A server, and the public keys that requests have brought to it. -/
structure Serving where
  state : AppState
  used : List String

namespace Serving

variable (base64 : String → Option (List UInt8)) (allowed : AppState → Instant → Prop)

/-- A request, under a public key that no request has brought before if it joins, or a sweep at a time
that is allowed. -/
inductive Step (S : Serving) : Serving → Prop
  | request (o : WalkOrder) (dbNow : Timestamp) (q : Request) : (∀ k ∈ q.keys, k ∉ S.used) →
      Step S { state := q.serve base64 o (.calm dbNow) S.state, used := q.keys ++ S.used }
  | sweep (o : WalkOrder) (now : Instant) : allowed S.state now →
      Step S { state := S.state.sweep o now, used := S.used }

/-- The states that requests and sweeps bring a server to. -/
def Reachable (bearerToken : String) (p : IpPrefix) : Serving → Prop :=
  Transition.Reachable (· = { state := .fresh bearerToken p, used := [] }) (Step base64 allowed)

end Serving

/-! ## The registry over a run -/

section

variable {base64 : String → Option (List UInt8)} {s : AppState} {R : Registry} {o : WalkOrder} {dbNow : Timestamp}
  {now : Instant} {used : List String}

/-- One request moves the registry, and brings it no key but its own. -/
theorem Request.serve_inStep (h : s.stores.InStep base64 R) (hused : R.KeysIn used) (q : Request)
    (hkeys : ∀ k ∈ q.keys, k ∉ used) :
    ∃ R', (q.serve base64 o (.calm dbNow) s).stores.InStep base64 R' ∧ R'.KeysIn (q.keys ++ used) := by
  cases q with
  | createRoom caller roomCode fresh => exact ⟨R, s.createRoom_inStep h caller roomCode fresh, hused⟩
  | resumeRoom caller code payload now => exact ⟨R, s.resumeRoom_inStep h caller code payload, hused⟩
  | deleteRoom caller code => exact ⟨R, s.deleteRoom_inStep h caller code, hused⟩
  | deletePeer caller code p =>
    obtain ⟨R', hR', rfl | rfl⟩ := s.deletePeer_inStep o dbNow h caller code p
    · exact ⟨R', hR', hused⟩
    · exact ⟨_, hR', hused.strike⟩
  | joinRoom caller code payload fresh now =>
    have hfresh : ∀ key, payload.wireguardPublicKey = some key → ∀ q n, R q = some n → n.publicKey ≠ key := by
      rintro key hkey q n hq rfl
      exact hkeys n.publicKey (by simp [Request.keys, hkey]) (hused q n hq)
    obtain ⟨R', hR', rfl | ⟨p, m, hkey, rfl⟩⟩ :=
      s.joinRoom_inStep o dbNow h caller code payload fresh now hfresh
    · exact ⟨R', hR', hused.mono⟩
    · refine ⟨_, hR', ?_⟩
      simp only [Request.keys, hkey, Option.toList_some, List.singleton_append]
      exact hused.enrol

/-- A sweep that spares everybody leaves the registry as it is. -/
theorem AppState.sweep_inStep (h : s.stores.InStep base64 R) (hspares : s.SparesAll now) :
    (s.sweep o now).stores.InStep base64 R := by
  obtain ⟨db, wg, hdb, hwg, hR⟩ := h
  exact ⟨db, wg, hdb, hwg, hR.edit (hR.router.expire o now) (place_expire_of_none o hR.router hspares)
    (code_expire o hR.router now)⟩

theorem Serving.Reachable.inStep {bearerToken : String} {p : IpPrefix} {S : Serving}
    (h : Serving.Reachable base64 AppState.SparesAll bearerToken p S) :
    ∃ R, S.state.stores.InStep base64 R ∧ R.KeysIn S.used := by
  refine Transition.Reachable.invariant
    (P := fun S => ∃ R : Registry, S.state.stores.InStep base64 R ∧ R.KeysIn S.used) ?_ ?_ h
  · rintro _ rfl
    exact ⟨_, ⟨_, _, rfl, rfl, .empty⟩, nofun⟩
  · rintro S _ - ⟨R, hR, hused⟩ (⟨o, dbNow, q, hkeys⟩ | ⟨o, now, hspares⟩)
    · exact q.serve_inStep hR hused hkeys
    · exact ⟨R, AppState.sweep_inStep hR hspares, hused⟩

theorem Stores.InStep.agree (h : s.stores.InStep base64 R) : s.Agree := by
  obtain ⟨db, wg, hdb, hwg, hR⟩ := h
  have hplaces : ∀ p, s.router.place p = (R p).map fun m => (m.roomId, m.virtualIp) := hR.places
  have hkeys : ∀ p : PeerId, s.peerKeys[p]? = (R p).map Member.publicKey := hR.keys
  refine ⟨⟨db, hdb, fun p roomId ip => ?_⟩, wg, hwg, fun p roomId ip hp => ?_, fun k a hk => ?_⟩
  · rw [hplaces]
    constructor
    · intro hp
      obtain ⟨m, hm, e⟩ := Option.map_eq_some_iff.1 hp
      obtain ⟨row, hrow, rfl⟩ := Option.map_eq_some_iff.1 ((hR.rows p).trans hm)
      rw [Prod.mk.injEq] at e
      exact ⟨row, hrow, hR.present p row hrow, e⟩
    · rintro ⟨row, hrow, -, rfl, rfl⟩
      rw [hR.row hrow]
      rfl
  · rw [hplaces] at hp
    obtain ⟨m, hm, e⟩ := Option.map_eq_some_iff.1 hp
    cases e
    exact ⟨m.publicKey, by rw [hkeys, hm]; rfl, (hR.tunnels _ _).2 ⟨p, m, hm, rfl, rfl⟩⟩
  · obtain ⟨p, m, hm, rfl, rfl⟩ := (hR.tunnels k a).1 hk
    refine ⟨p, ⟨by rw [hkeys, hm]; rfl, m.roomId, m.virtualIp, by rw [hplaces, hm]; rfl, rfl⟩, ?_⟩
    rintro q ⟨hq, -⟩
    rw [hkeys] at hq
    obtain ⟨n, hn, e⟩ := Option.map_eq_some_iff.1 hq
    exact hR.distinct q p n m hn hm e

end

/-! ## When the stores agree -/

/-- As long as no sweep removes a peer the stores agree after every request and every sweep; and the
sweep that removes the first one is the one that breaks the agreement. -/
theorem stores_agree_while_nobody_lapses {base64 : String → Option (List UInt8)} {bearerToken : String} {p : IpPrefix}
    {S : Serving} (h : Serving.Reachable base64 AppState.SparesAll bearerToken p S) :
    S.state.Agree ∧ ∀ o now, (S.state.sweep o now).Agree ↔ S.state.SparesAll now := by
  obtain ⟨R, hR, -⟩ := h.inStep
  refine ⟨hR.agree, fun o now => ⟨fun hagree q peer hq hlapses => ?_, fun hspares => ?_⟩⟩
  swap
  · exact (AppState.sweep_inStep hR hspares).agree
  -- the peer is gone from the router, and its row is still there
  obtain ⟨⟨db, hdb, hrows⟩, -⟩ := hR.agree
  obtain ⟨⟨db', hdb', hrows'⟩, -⟩ := hagree
  have hsame : some db' = some db := hdb'.symm.trans hdb
  cases hsame
  obtain ⟨_, _, _, _, hrep⟩ := hR
  have hwf : S.state.router.WF := hrep.router
  have hrow := (hrows q peer.roomId peer.virtualIp).1 (place_eq_some.2 ⟨peer, hq, rfl, rfl⟩)
  have hgone : (S.state.sweep o now).router.place q = none := by
    show (RoomRouter.expire o S.state.router now).2.place q = none
    rw [place_expire o hwf, hq, Option.bind_some, if_pos hlapses]
  rw [(hrows' q peer.roomId peer.virtualIp).2 hrow] at hgone
  cases hgone

/-! ## One peer joins, and is swept away -/

namespace Example

open RoomRouter.Example (code room peer ip)

def opening : List Request := [.createRoom caller code room, .joinRoom caller "RMAAAA" (joining peer zeros) peer 0]

/-- A room with one peer. -/
def joined : AppState := opening.foldl (Request.serve base64 .sorted (.calm 0)) (.fresh bearerToken subnet)

/-- A quarter of a minute of silence later the peer is suspended. -/
def suspended : AppState := joined.sweep .sorted (Duration.fromSecs 15)

/-- Its grace period later it is removed. -/
def removed : AppState := suspended.sweep .sorted (Duration.fromSecs 60)

theorem joined_reachable (allowed : AppState → Instant → Prop) :
    Serving.Reachable base64 allowed bearerToken subnet { state := joined, used := [zeros] } :=
  .step (.step (.init rfl) (.request .sorted 0 (.createRoom caller code room) nofun))
    (.request .sorted 0 (.joinRoom caller "RMAAAA" (joining peer zeros) peer 0) (by simp [Request.keys]))

theorem removed_reachable : Serving.Reachable base64 (fun _ _ => True) bearerToken subnet
    { state := removed, used := [zeros] } :=
  .step (.step (joined_reachable _) (.sweep .sorted _ trivial)) (.sweep .sorted _ trivial)

end Example

open RoomRouter.Example (room peer ip)

theorem joined_stores_agree : Example.joined.Agree :=
  (stores_agree_while_nobody_lapses (Example.joined_reachable AppState.SparesAll)).1

/-- The row of a peer that a sweep removed is still there. -/
theorem stores_disagree_after_sweep : ¬ ∀ (base64 : String → Option (List UInt8)) (bearerToken : String) (p : IpPrefix)
    (S : Serving), Serving.Reachable base64 (fun _ _ => True) bearerToken p S → S.state.Agree := by
  intro h
  obtain ⟨⟨db, hdb, hrows⟩, -⟩ := h _ _ _ _ Example.removed_reachable
  have hrow : (Example.removed.database.bind fun db => db.peers[peer]?) = some
      { roomId := room, virtualIp := ip, wireguardPublicKey := Example.zeros, joinedAt := 0, leftAt := none } := by
    decide +kernel
  have hgone : Example.removed.router.place peer = none := by decide +kernel
  rw [show Example.removed.database = some db from hdb, Option.bind_some] at hrow
  have hplace := (hrows peer room ip).2 ⟨_, hrow, rfl, rfl, rfl⟩
  rw [show _ = none from hgone] at hplace
  cases hplace

end Civ6LanBridge

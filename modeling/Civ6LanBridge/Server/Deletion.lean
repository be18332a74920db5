/-
Requests to delete one peer, interleaved with one another and with sweeps. A peer that is deleted stays
deleted as long as the router has the peer whenever a request calls `leave_room`: one that comes too
late puts the row and the tunnel back.
-/
import Civ6LanBridge.Server.Agreement

namespace Civ6LanBridge

open Std FinMap Bytes RoomRouter Prog Handler

namespace AppState

/-- The table of peers has no row for the peer. -/
def NoRow (s : AppState) (p : PeerId) : Prop := ∀ db, s.database = some db → db.peers[p]? = none

/-- WireGuard has no entry for the public key. -/
def NoTunnel (s : AppState) (publicKey : Option String) : Prop :=
  ∀ wg key, s.wireguard = some wg → publicKey = some key → wg.allowedIp[key]? = none

/-- A peer that the router does not have has no row and no tunnel. -/
def Cleared (s : AppState) (p : PeerId) (publicKey : Option String) : Prop :=
  s.router.peers[p]? = none → s.NoRow p ∧ s.NoTunnel publicKey

end AppState

open AppState

/-! ## What deletes and sweeps do to one peer -/

/-- The peer may leave and its row and tunnel may go, in whatever order, but none of them comes back; and
the peer does not leave before the others are gone. -/
structure Advance (p : PeerId) (publicKey : Option String) (s s' : AppState) : Prop where
  router : s.router.WF → s'.router.WF
  place : s'.router.place p = s.router.place p ∨ s'.router.place p = none
  required : s'.keyRequired = s.keyRequired
  row : s.NoRow p → s'.NoRow p
  tunnel : s.NoTunnel publicKey → s'.NoTunnel publicKey
  keys : s'.peerKeys[p]? = s.peerKeys[p]? ∨ s'.peerKeys[p]? = none
  cleared : s.Cleared p publicKey → s'.Cleared p publicKey

namespace Advance

variable {p : PeerId} {publicKey : Option String} {s s' t : AppState}

theorem refl (s : AppState) : Advance p publicKey s s :=
  ⟨id, Or.inl rfl, rfl, id, id, Or.inl rfl, id⟩

theorem trans (h : Advance p publicKey s t) (h' : Advance p publicKey t s') : Advance p publicKey s s' where
  router := h'.router ∘ h.router
  place := by
    rcases h'.place with e | e
    · rw [e]; exact h.place
    · exact Or.inr e
  required := h'.required.trans h.required
  row := h'.row ∘ h.row
  tunnel := h'.tunnel ∘ h.tunnel
  keys := by
    rcases h'.keys with e | e
    · rw [e]; exact h.keys
    · exact Or.inr e
  cleared := h'.cleared ∘ h.cleared

/-- As long as the router keeps the peer where it is nothing is due. -/
theorem of_place (hwf : s.router.WF → s'.router.WF) (hplace : s'.router.place p = s.router.place p)
    (hreq : s'.keyRequired = s.keyRequired) (hrow : s.NoRow p → s'.NoRow p)
    (htunnel : s.NoTunnel publicKey → s'.NoTunnel publicKey)
    (hkeys : s'.peerKeys[p]? = s.peerKeys[p]? ∨ s'.peerKeys[p]? = none) : Advance p publicKey s s' where
  router := hwf
  place := Or.inl hplace
  required := hreq
  row := hrow
  tunnel := htunnel
  keys := hkeys
  cleared := fun h hp => by
    rw [← place_eq_none, hplace, place_eq_none] at hp
    exact ⟨hrow (h hp).1, htunnel (h hp).2⟩

theorem of_stores (h : s'.stores = s.stores) : Advance p publicKey s s' := by
  have hr : s'.router = s.router := congrArg Stores.router h
  have hd : s'.database = s.database := congrArg Stores.database h
  have hw : s'.wireguard = s.wireguard := congrArg Stores.wireguard h
  have hk : s'.peerKeys = s.peerKeys := congrArg Stores.peerKeys h
  refine of_place (by rw [hr]; exact id) (by rw [hr]) (by unfold keyRequired; rw [hd, hw]) ?_ ?_ (Or.inl (by rw [hk]))
  · unfold NoRow; rw [hd]; exact id
  · unfold NoTunnel; rw [hw]; exact id

/-- A sweep that does not remove the peer. -/
theorem sweep (o : WalkOrder) {now : Instant} (h : s.router.WF)
    (hspares : ∀ peer : PeerState, s.router.peers[p]? = some peer → ¬ peer.Lapses s.router.config now) :
    Advance p publicKey s (s.sweep o now) := by
  refine of_place (fun _ => h.expire o now) ?_ rfl id id (Or.inl rfl)
  show (RoomRouter.expire o s.router now).2.place p = s.router.place p
  rw [place_expire o h, RoomRouter.place]
  cases hp : s.router.peers[p]? with
  | none => rfl
  | some peer => simp [hspares peer hp]

end Advance

/-! ## What one request guarantees -/

/-- A request calls `leave_room` only while the router has the peer, and no sweep removes the peer. -/
def Undisturbed (p : PeerId) (s : AppState) : Pool.Event Call (WalkOrder × Instant) → Prop
  | .program label => label = .leaveRoom → s.router.peers[p]? ≠ none
  | .environment e => ∀ peer : PeerState, s.router.peers[p]? = some peer → ¬ peer.Lapses s.router.config e.2

instance (p : PeerId) (s : AppState) (label : Call) : Decidable (Undisturbed p s (.program label)) :=
  inferInstanceAs (Decidable (label = .leaveRoom → s.router.peers[p]? ≠ none))

section

variable {base64 : String → Option (List UInt8)} {o : WalkOrder} {dbNow : Timestamp} {p : PeerId} {roomId : RoomId}
  {ip : VirtualIp} {key publicKey : Option String} {s : AppState}

/-- The peer sits where it was found, if the router still has it. -/
def Found (p : PeerId) (roomId : RoomId) (ip : VirtualIp) (s : AppState) : Prop :=
  s.router.place p = some (roomId, ip) ∨ s.router.place p = none

theorem Found.advance {s' : AppState} (h : Found p roomId ip s) (hadv : Advance p publicKey s s') :
    Found p roomId ip s' := by
  rcases hadv.place with e | e
  · rw [Found, e]; exact h
  · exact Or.inr e

theorem wgRemovePeer_advance (base64 : String → Option (List UInt8)) (dbNow : Timestamp) (p : PeerId) (s : AppState)
    (hkey : s.keyRequired = true → key = publicKey) :
    ∃ res s', s.withKey key (fun key => s.wgRemovePeer base64 (.calm dbNow) key) = (res, s') ∧
      Advance p publicKey s s' ∧ (res = .ok () → s'.NoTunnel publicKey) := by
  cases key with
  | none =>
    refine ⟨_, s, rfl, .refl s, fun _ wg k hwg hk => ?_⟩
    have hreq : s.keyRequired = true := by simp [keyRequired, hwg]
    rw [← hkey hreq] at hk
    cases hk
  | some k =>
    cases hwg : s.wireguard with
    | none => exact ⟨_, s, command_none hwg, .refl s, fun _ wg k hwg' => by rw [hwg] at hwg'; cases hwg'⟩
    | some wg =>
      have hreq : s.keyRequired = true := by simp [keyRequired, hwg]
      obtain rfl := hkey hreq
      cases hv : WireGuard.validatePublicKey base64 k with
      | error e =>
        refine ⟨.error e, s, ?_, .refl s, fun hok => by cases hok⟩
        show s.command _ = _
        unfold command
        simp only [hwg, WireGuard.removePeer, hv]
      | ok _ =>
        obtain ⟨s', he, hs⟩ := wgRemovePeer_ok (.calm dbNow) (show s.stores.wireguard = some wg from hwg) rfl hv
        have hr : s'.router = s.router := congrArg Stores.router hs
        have hd : s'.database = s.database := congrArg Stores.database hs
        have hw : s'.wireguard = some (wg.unsetPeer k) := congrArg Stores.wireguard hs
        have hk : s'.peerKeys = s.peerKeys := congrArg Stores.peerKeys hs
        have hgone : s'.NoTunnel (some k) := by
          rintro wg' k' hwg' hk'
          cases hk'
          rw [hw] at hwg'
          cases hwg'
          exact ExtTreeMap.getElem?_erase_self
        refine ⟨_, s', he, ?_, fun _ => hgone⟩
        refine .of_place (by rw [hr]; exact id) (by rw [hr]) ?_ ?_ (fun _ => hgone) (Or.inl (by rw [hk]))
        · simp [keyRequired, hd, hw, hwg]
        · unfold NoRow; rw [hd]; exact id

theorem dbDeletePeer_advance (publicKey : Option String) (dbNow : Timestamp) (s : AppState) :
    ∃ s', s.dbDeletePeer (.calm dbNow) p = (.ok (), s') ∧ Advance p publicKey s s' ∧ s'.NoRow p := by
  cases hdb : s.database with
  | none => exact ⟨s, execute_none hdb, .refl s, fun db hdb' => by rw [hdb] at hdb'; cases hdb'⟩
  | some db =>
    obtain ⟨s', he, hs⟩ := dbDeletePeer_ok (.calm dbNow) p (show s.stores.database = some db from hdb) rfl
    have hr : s'.router = s.router := congrArg Stores.router hs
    have hd : s'.database = some (db.deletePeer p) := congrArg Stores.database hs
    have hw : s'.wireguard = s.wireguard := congrArg Stores.wireguard hs
    have hk : s'.peerKeys = s.peerKeys := congrArg Stores.peerKeys hs
    have hgone : s'.NoRow p := by
      rintro db' hdb'
      rw [hd] at hdb'
      cases hdb'
      exact ExtTreeMap.getElem?_erase_self
    refine ⟨s', he, ?_, hgone⟩
    refine .of_place (by rw [hr]; exact id) (by rw [hr]) ?_ (fun _ => hgone) ?_ (Or.inl (by rw [hk]))
    · simp [keyRequired, hd, hw, hdb]
    · unfold NoTunnel; rw [hw]; exact id

/-- Leaving is the last thing that is due. -/
theorem leaveRoom_advance (hwf : s.router.WF) (hfound : Found p roomId ip s) (hp : s.router.peers[p]? ≠ none)
    (hrow : s.NoRow p) (htunnel : s.NoTunnel publicKey) :
    ∃ s', s.routed (fun r => leaveRoom o r roomId p) = (.ok (), s') ∧ Advance p publicKey s s' := by
  obtain hplace | hplace := hfound
  swap
  · exact absurd (place_eq_none.1 hplace) hp
  obtain ⟨peer, hpeer, rfl, rfl⟩ := place_eq_some.1 hplace
  obtain ⟨s', he, hs⟩ := routed_ok s (fun r => leaveRoom o r peer.roomId p) (leaveRoom_peer o hwf hpeer)
  have hr : s'.router = without o s.router p peer := congrArg Stores.router hs
  have hd : s'.database = s.database := congrArg Stores.database hs
  have hw : s'.wireguard = s.wireguard := congrArg Stores.wireguard hs
  have hk : s'.peerKeys = s.peerKeys := congrArg Stores.peerKeys hs
  have hrow' : s'.NoRow p := by unfold NoRow; rw [hd]; exact hrow
  have htunnel' : s'.NoTunnel publicKey := by unfold NoTunnel; rw [hw]; exact htunnel
  refine ⟨s', he, ?_, Or.inr ?_, ?_, fun _ => hrow', fun _ => htunnel', Or.inl (by rw [hk]),
    fun _ _ => ⟨hrow', htunnel'⟩⟩
  · intro _
    rw [hr]
    exact hwf.without o hpeer
  · rw [hr, place_without hwf hpeer, Function.update_self]
  · simp only [keyRequired, hd, hw]

/-! The request, from its last step back to its first. -/

theorem deletePeerForget_guarantees : (deletePeerForget p).Guarantees (fun s label => Undisturbed p s (.program label))
    (Advance p publicKey) s := by
  refine guarantees_atomically fun s' _ _ => ⟨?_, guarantees_done _ _⟩
  exact .of_place id rfl rfl id id (Or.inr ExtTreeMap.getElem?_erase_self)

theorem deletePeerLeave_guarantees (hwf : s.router.WF) (hfound : Found p roomId ip s) (hrow : s.NoRow p)
    (htunnel : s.NoTunnel publicKey) :
    (deletePeerLeave base64 (.calm dbNow) o p roomId ip key).Guarantees
      (fun s label => Undisturbed p s (.program label)) (Advance p publicKey) s := by
  refine guarantees_atomically fun s' hs' hp => ?_
  obtain ⟨t, he, ht⟩ := leaveRoom_advance (o := o) (hs'.router hwf) (hfound.advance hs') (hp rfl) (hs'.row hrow)
    (hs'.tunnel htunnel)
  rw [he]
  exact ⟨ht, deletePeerForget_guarantees⟩

theorem deletePeerRow_guarantees (hwf : s.router.WF) (hfound : Found p roomId ip s) (htunnel : s.NoTunnel publicKey) :
    (deletePeerRow base64 (.calm dbNow) o p roomId ip key).Guarantees
      (fun s label => Undisturbed p s (.program label)) (Advance p publicKey) s := by
  refine guarantees_atomically fun s' hs' _ => ?_
  obtain ⟨t, he, ht, hrow⟩ := dbDeletePeer_advance publicKey dbNow s'
  rw [he]
  have hst := hs'.trans ht
  exact ⟨ht, deletePeerLeave_guarantees (hst.router hwf) (hfound.advance hst) hrow (hst.tunnel htunnel)⟩

theorem deletePeerTunnel_guarantees (hwf : s.router.WF) (hfound : Found p roomId ip s)
    (hkey : s.keyRequired = true → key = publicKey) :
    (deletePeerTunnel base64 (.calm dbNow) o p roomId ip key).Guarantees
      (fun s label => Undisturbed p s (.program label)) (Advance p publicKey) s := by
  refine guarantees_atomically fun s' hs' _ => ?_
  obtain ⟨res, t, he, ht, hgone⟩ := wgRemovePeer_advance base64 dbNow p s' fun hreq => hkey (hs'.required ▸ hreq)
  rw [he]
  have hst := hs'.trans ht
  cases res with
  | error e => exact ⟨ht, guarantees_done _ _⟩
  | ok _ => exact ⟨ht, deletePeerRow_guarantees (hst.router hwf) (hfound.advance hst) (hgone rfl)⟩

/-- A request reads the peer's public key, or none when another one has already forgotten it. -/
theorem deletePeerKey_guarantees (hwf : s.router.WF) (hfound : Found p roomId ip s)
    (hkeys : s.peerKeys[p]? = publicKey ∨ s.peerKeys[p]? = none) :
    (deletePeerKey base64 (.calm dbNow) o p roomId ip).Guarantees
      (fun s label => Undisturbed p s (.program label)) (Advance p publicKey) s := by
  refine guarantees_atomically fun s' hs' _ => ⟨.refl s', ?_⟩
  -- the key may have been forgotten in the meantime, but it has not been replaced
  have hkeys' : s'.peerKeys[p]? = publicKey ∨ s'.peerKeys[p]? = none := by
    rcases hs'.keys with e | e
    · rw [e]; exact hkeys
    · exact Or.inr e
  dsimp only
  cases hread : s'.readPeerKey p with
  | error e => exact guarantees_done _ _
  | ok key =>
    refine deletePeerTunnel_guarantees (hs'.router hwf) (hfound.advance hs') fun hreq => ?_
    simp only [readPeerKey, hreq, Bool.true_and] at hread
    split at hread
    · cases hread
    rename_i hnone
    cases hread
    rcases hkeys' with e | e
    · exact e
    · rw [e] at hnone; exact absurd rfl hnone

theorem deletePeer_guarantees (hwf : s.router.WF) (hkeys : s.peerKeys[p]? = publicKey) (caller : Caller)
    (code : String) :
    (deletePeer base64 (.calm dbNow) o p caller code).Guarantees
      (fun s label => Undisturbed p s (.program label)) (Advance p publicKey) s := by
  refine guarantees_atomically fun s' hs' _ => ?_
  obtain ⟨res, t, he, ht⟩ := authorizeRoom_leaves s' caller code
  rw [he]
  refine ⟨.of_stores ht, ?_⟩
  cases res with
  | error e => exact guarantees_done _ _
  | ok roomCode =>
    refine guarantees_atomically fun u hu _ => ⟨.refl u, ?_⟩
    have hsu : Advance p publicKey s u := (hs'.trans (.of_stores ht)).trans hu
    dsimp only
    cases hfind : u.findPeer roomCode p with
    | error e => exact guarantees_done _ _
    | ok found => exact deletePeerKey_guarantees (hsu.router hwf) (Or.inl (findPeer_ok hfind)) (hkeys ▸ hsu.keys)

end

/-! ## Any number of requests and sweeps -/

/-- A request to delete the peer, with the order in which the server walks its tables for it. -/
structure DeleteRequest where
  order : WalkOrder
  dbNow : Timestamp
  caller : Caller
  code : String

/-- The requests about to run, with every external call going through. -/
def deletes (base64 : String → Option (List UInt8)) (p : PeerId) (requests : List DeleteRequest) (s : AppState) :
    Pool Call AppState (Answer Unit) :=
  ⟨s, requests.map fun q => deletePeer base64 (.calm q.dbNow) q.order p q.caller q.code⟩

def sweeps (e : WalkOrder × Instant) (s : AppState) : AppState := s.sweep e.1 e.2

/-- However requests to delete a peer and sweeps are interleaved: if `leave_room` is only called while
the router has the peer and no sweep removes it, then at any point of the run, and so when all the
requests have finished, a peer that the router does not have has no row and no tunnel. -/
theorem deleted_peer_stays_deleted {base64 : String → Option (List UInt8)} {config : RouterConfig} {s : AppState}
    {p : PeerId} (h : RoomRouter.Reachable config s.router) (hs : s.Cleared p s.peerKeys[p]?)
    (requests : List DeleteRequest) {Q : Pool Call AppState (Answer Unit)}
    (hQ : Pool.Reachable sweeps (Undisturbed p) (deletes base64 p requests s) Q) :
    Q.shared.Cleared p s.peerKeys[p]? := by
  -- requests and sweeps advance the peer one step at a time, and advances add up
  have hadv : Advance p s.peerKeys[p]? s Q.shared := by
    refine hQ.advances .refl (fun _ _ _ => .trans) ?_ fun t e ht hspares => .sweep e.1 (ht.router h.wf) hspares
    intro q hq
    obtain ⟨request, -, rfl⟩ := List.mem_map.1 hq
    exact deletePeer_guarantees h.wf rfl request.caller request.code
  exact hadv.cleared hs

/-! ## Two requests, and two that race -/

namespace Example

open RoomRouter.Example (peer)

theorem serving_cleared : serving.Cleared peer serving.peerKeys[peer]? := by
  intro hp
  have hin : (RoomRouter.Example.joined.peers[peer]?).isSome = true := rfl
  rw [show RoomRouter.Example.joined.peers[peer]? = none from hp] at hin
  cases hin

def delete : DeleteRequest := { order := .sorted, dbNow := 0, caller, code := "RMAAAA" }

/-- The requests take turns as long as they are undisturbed. -/
def undisturbed (schedule : List Nat) (Q : Pool Call AppState (Answer Unit)) : Pool Call AppState (Answer Unit) :=
  schedule.foldl (Pool.turn fun s label => Undisturbed peer s (.program label)) Q

/-- Two requests have begun. -/
def begun : Pool Call AppState (Answer Unit) := undisturbed [0, 1, 0] (deletes base64 peer [delete, delete] serving)

/-- A sweep that suspends the peer comes in between. -/
def swept : Pool Call AppState (Answer Unit) := ⟨sweeps (.sorted, Duration.fromSecs 15) begun.shared, begun.programs⟩

/-- The first request deletes the peer before the other one looks for it. -/
def deleted : Pool Call AppState (Answer Unit) := undisturbed (List.replicate 6 0 ++ List.replicate 6 1) swept

theorem sweep_undisturbed : Undisturbed peer begun.shared (.environment (.sorted, Duration.fromSecs 15)) := by
  intro state hp
  have hrow : begun.shared.router.peers[peer]? =
      some
        { roomId := RoomRouter.Example.room, virtualIp := RoomRouter.Example.ip, lastSeen := 0,
          disconnectedAt := none, connectionEpoch := 1 } := by
    decide +kernel
  cases hrow.symm.trans hp
  decide +kernel

theorem deleted_reachable :
    Pool.Reachable sweeps (Undisturbed peer) (deletes base64 peer [delete, delete] serving) deleted :=
  .turns (fun _ _ => id) _
    (.step (Pool.Reachable.turns (fun _ _ => id) _ (.init rfl)) ⟨.environment _, sweep_undisturbed, .environment _⟩)

/-- Two requests run side by side. -/
def raced : Pool Call AppState (Answer Unit) :=
  (List.replicate 8 [0, 1]).flatten.foldl (Pool.turn fun _ _ => True) (deletes base64 peer [delete, delete] serving)

theorem raced_reachable :
    Pool.Reachable sweeps (fun _ _ => True) (deletes base64 peer [delete, delete] serving) raced :=
  .turns (fun _ _ => id) _ (.init rfl)

end Example

open RoomRouter.Example (peer)

/-- Both requests have finished, and the peer has no row. -/
theorem deleted_has_no_row : (∀ q ∈ Example.deleted.programs, q.Finished) ∧ Example.deleted.shared.NoRow peer := by
  have hcleared := deleted_peer_stays_deleted RoomRouter.Example.joined_reachable Example.serving_cleared
    [Example.delete, Example.delete] Example.deleted_reachable
  exact ⟨by decide +kernel, (hcleared (show Example.deleted.shared.router.peers[peer]? = none by decide +kernel)).1⟩

/-- Of two requests that race the one that comes too late puts the row back. -/
theorem raced_has_row : ¬ ∀ (base64 : String → Option (List UInt8)) (config : RouterConfig) (s : AppState) (p : PeerId)
    (requests : List DeleteRequest) (Q : Pool Call AppState (Answer Unit)), RoomRouter.Reachable config s.router →
      s.Cleared p s.peerKeys[p]? → Pool.Reachable sweeps (fun _ _ => True) (deletes base64 p requests s) Q →
        (∀ q ∈ Q.programs, q.Finished) → Q.shared.Cleared p s.peerKeys[p]? := by
  intro h
  have hcleared := h Example.base64 {} Example.serving peer [Example.delete, Example.delete] Example.raced
    RoomRouter.Example.joined_reachable Example.serving_cleared Example.raced_reachable (by decide +kernel)
  have hgone : Example.raced.shared.router.peers[peer]? = none := by decide +kernel
  have hrow : (Example.raced.shared.database.bind fun db => db.peers[peer]?).isSome = true := by decide +kernel
  obtain ⟨row, hrow⟩ := Option.isSome_iff_exists.1 hrow
  obtain ⟨db, hdb, hrow⟩ := Option.bind_eq_some_iff.1 hrow
  rw [(hcleared hgone).1 db hdb] at hrow
  cases hrow

end Civ6LanBridge

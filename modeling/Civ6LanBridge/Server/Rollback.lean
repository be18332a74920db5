/-
A join that fails restores every store to what it was, with one exception: when the database refuses
the peer, `remove_peer` undoes `add_peer` by deleting the entry of the public key, whatever was there.
-/
import Civ6LanBridge.Server.Agreement

namespace Civ6LanBridge

open Std FinMap Bytes RoomRouter Prog AppState

/-! ## The tunnel, opened and closed -/

/-- WireGuard has an entry for the public key, or one that lists the address. -/
def WireGuard.Taken (wg : WireGuard) (key : String) (ip : VirtualIp) : Prop :=
  wg.allowedIp[key]? ≠ none ∨ ∃ k : String, wg.allowedIp[k]? = some (some ip)

/-- Opening a tunnel and closing it again restores WireGuard exactly when nothing of it was there. -/
theorem WireGuard.unsetPeer_setPeer_iff {wg : WireGuard} {key : String} {ip : VirtualIp} :
    (wg.setPeer key ip).unsetPeer key = wg ↔ ¬ wg.Taken key ip := by
  have hget : ∀ k : String, ((wg.setPeer key ip).unsetPeer key).allowedIp[k]? =
      if key = k then none else (wg.allowedIp[k]?).map (·.filter (· ≠ ip)) := by
    intro k
    show ((ExtTreeMap.insert _ key (some ip)).erase key)[k]? = _
    by_cases e : key = k
    · subst e; rw [ExtTreeMap.getElem?_erase_self, if_pos rfl]
    · rw [getElem?_erase_ne e, getElem?_insert_ne e, ExtTreeMap.getElem?_map, if_neg e]
  constructor
  · rintro h (hkey | ⟨k, hk⟩)
    · have hself := hget key
      rw [h, if_pos rfl] at hself
      exact hkey hself
    · have hother := hget k
      rw [h, hk] at hother
      split at hother
      · cases hother
      · simp [Option.filter] at hother
  · intro h
    obtain ⟨hkey, hip⟩ := not_or.1 h
    refine WireGuard.ext (ExtTreeMap.ext_getElem? fun k => ?_)
    rw [hget]
    split
    · rename_i e
      rw [← e, not_not.1 hkey]
    · cases hk : wg.allowedIp[k]? with
      | none => rfl
      | some a =>
        cases a with
        | none => rfl
        | some a =>
          have hne : a ≠ ip := by rintro rfl; exact hip ⟨k, hk⟩
          simp [hne]

/-! ## The checks, read forwards -/

namespace AppState

variable {s s' : AppState} {caller : Caller} {code : String} {payload : JoinRoomRequest} {roomCode : RoomCode}
  {roomId : RoomId} {peerId : PeerId} {ip : VirtualIp} {now : Instant} {key : String}
  {base64 : String → Option (List UInt8)} {weather : Weather}

theorem requireBearer_virtualIpPrefix (s : AppState) (caller : Caller) :
    (s.requireBearer caller).2.virtualIpPrefix = s.virtualIpPrefix := by
  have hlimit : ∀ (t : AppState) token now, (t.limitToken token now).2.virtualIpPrefix = t.virtualIpPrefix := by
    intro t token now
    unfold limitToken; split <;> rfl
  unfold requireBearer
  split
  · rfl
  split
  · exact hlimit _ _ _
  dsimp only
  split
  · rfl
  · rw [hlimit]

/-- A request that brings a public key passes its checks if and only if it is authorized, the room code
is one, and so is the key. -/
theorem checkJoin_iff (hkey : payload.wireguardPublicKey = some key) :
    (s.checkJoin base64 caller code payload).1 = .ok roomCode ↔ (s.requireBearer caller).1 = .ok () ∧
      RoomCode.parse code = .ok roomCode ∧ WireGuard.validatePublicKey base64 key = .ok () := by
  unfold checkJoin authorizeRoom parseRoomCode
  rcases s.requireBearer caller with ⟨_ | _, t⟩
  · simp
  rcases RoomCode.parse code with _ | _
  · simp [Except.mapError]
  rcases hv : WireGuard.validatePublicKey base64 key with _ | _
  · simp [Except.mapError, hkey, hv]
  · simp [Except.mapError, hkey, hv]

theorem checkJoin_virtualIpPrefix : (s.checkJoin base64 caller code payload).2.virtualIpPrefix = s.virtualIpPrefix := by
  have hb := requireBearer_virtualIpPrefix s caller
  unfold checkJoin authorizeRoom
  rcases hreq : s.requireBearer caller with ⟨_ | _, t⟩
  · rw [hreq] at hb; exact hb
  rw [hreq] at hb
  rcases parseRoomCode code with _ | _
  · exact hb
  dsimp only
  split
  · split <;> exact hb
  · split <;> exact hb

theorem Admits.congr {requested : Option VirtualIp} (hr : s'.router = s.router)
    (hsubnet : s'.virtualIpPrefix = s.virtualIpPrefix) :
    s'.Admits roomCode peerId requested now roomId ip ↔ s.Admits roomCode peerId requested now roomId ip := by
  have haddress : s'.chooseAddress requested = s.chooseAddress requested := by
    unfold chooseAddress; rw [hr, hsubnet]
  constructor
  · rintro ⟨h1, h2, h3⟩
    exact ⟨hr ▸ h1, haddress ▸ h2, hr ▸ h3⟩
  · rintro ⟨h1, h2, h3⟩
    exact ⟨hr.symm ▸ h1, haddress.symm ▸ h2, hr.symm ▸ h3⟩

/-! ## The compensating calls -/

theorem leave_after_join (o : WalkOrder) {r : RoomRouter} {room : RoomState} (hwf : r.WF)
    (hr : r.rooms[roomId]? = some room) (hp : r.peers[peerId]? = none) (hip : r.virtualIps[ip]? = none)
    (hs : s.router = r.joined roomId peerId ip now) :
    Leaves (s.routed fun r => leaveRoom o r roomId peerId) (.ok ()) { s.stores with router := r } :=
  routed_ok s _ (by rw [hs]; exact leaveRoom_joined o hwf hr hp hip)

theorem wgRemovePeer_leaves (hundo : weather.removePeer = none)
    (hvalid : WireGuard.validatePublicKey base64 key = .ok ()) :
    Leaves (s.wgRemovePeer base64 weather key) (.ok ())
      { s.stores with wireguard := s.wireguard.map (·.unsetPeer key) } := by
  cases hwg : s.wireguard with
  | none => exact ⟨s, command_none hwg, Stores.ext rfl rfl hwg rfl⟩
  | some wg => exact wgRemovePeer_ok weather hwg hundo hvalid

theorem dbInsertPeer_refused {db : Database} (hdb : s.database = some db) (hrefused : weather.insertPeer ≠ none ∨
      ∃ e, db.insertPeer roomId peerId ip key weather.dbNow = .error e) :
    ∃ e, s.dbInsertPeer weather roomId peerId ip key = (.error e, s) := by
  unfold dbInsertPeer execute
  rw [hdb]
  cases hw : weather.insertPeer with
  | some e => exact ⟨e, rfl⟩
  | none =>
    obtain h | ⟨e, he⟩ := hrefused
    · exact absurd hw h
    · exact ⟨e, by simp only [he]⟩

end AppState

/-! ## The run of a join -/

section

variable (base64 : String → Option (List UInt8)) (weather : Weather) (s : AppState) (caller : Caller) (code : String)
  (payload : JoinRoomRequest) (peerId : PeerId) (now : Instant)

/-- The request gets as far as the database, and the database refuses the peer; on the way WireGuard
was told the peer's key and address. -/
structure Refused (roomId : RoomId) (ip : VirtualIp) (key : String) (wg : WireGuard) (db : Database) : Prop where
  authorized : (s.requireBearer caller).1 = .ok ()
  brings : payload.wireguardPublicKey = some key
  valid : WireGuard.validatePublicKey base64 key = .ok ()
  admits : ∃ roomCode, RoomCode.parse code = .ok roomCode ∧
    s.Admits roomCode peerId payload.requestedVirtualIp now roomId ip
  wireguard : s.wireguard = some wg
  opened : weather.addPeer = none
  database : s.database = some db
  refused : weather.insertPeer ≠ none ∨ ∃ e, db.insertPeer roomId peerId ip key weather.dbNow = .error e

end

section

variable {base64 : String → Option (List UInt8)} {weather : Weather} {s : AppState} {caller : Caller} {code : String}
  {payload : JoinRoomRequest} {fresh : PeerId} {now : Instant} {key : String} {o : WalkOrder} {peer : PeerResponse}
  {r : RoomRouter} {room : RoomState} {db : Database}

/-- What is left of a join that the database refuses. -/
theorem joinRow_refused (hwf : r.WF) (hr : r.rooms[peer.roomId]? = some room) (hp : r.peers[peer.peerId]? = none)
    (hip : r.virtualIps[peer.virtualIp]? = none) (hs : s.router = r.joined peer.roomId peer.peerId peer.virtualIp now)
    (hundo : weather.removePeer = none) (hvalid : WireGuard.validatePublicKey base64 key = .ok ())
    (hdb : s.database = some db) (hrefused : weather.insertPeer ≠ none ∨
      ∃ e, db.insertPeer peer.roomId peer.peerId peer.virtualIp key weather.dbNow = .error e) :
    Leaves ((joinRow base64 weather o (some key) peer).run s)
      (.error (.error (.internal (.text "database write failed"))))
      { s.stores with router := r, wireguard := s.wireguard.map (·.unsetPeer key) } := by
  obtain ⟨e, he⟩ := dbInsertPeer_refused hdb hrefused
  obtain ⟨s₁, he₁, hs₁⟩ := wgRemovePeer_leaves (s := s) hundo hvalid
  have hrouter₁ : s₁.router = s.router := congrArg Stores.router hs₁
  obtain ⟨s₂, he₂, hs₂⟩ := leave_after_join o hwf hr hp hip (hrouter₁.trans hs)
  refine ⟨s₂, ?_, by rw [hs₂, hs₁]⟩
  unfold joinRow
  rw [run_atomically, hdb, Option.isSome_some, expectKey, he]
  simp only [Except.mapError]
  rw [run_atomically, withKey, he₁]
  dsimp only
  rw [run_atomically, he₂]
  rfl

/-- With a public key it is only the database that can still refuse. -/
theorem joinRow_error {e : Fault ApiError} (he : ((joinRow base64 weather o (some key) peer).run s).1 = .error e) :
    ∃ db, s.database = some db ∧ (weather.insertPeer ≠ none ∨
      ∃ e, db.insertPeer peer.roomId peer.peerId peer.virtualIp key weather.dbNow = .error e) := by
  unfold joinRow at he
  rw [run_atomically] at he
  cases hdb : s.database with
  | none =>
    rw [hdb, Option.isSome_none, expectKey] at he
    cases he
  | some db =>
    refine ⟨db, rfl, ?_⟩
    cases hw : weather.insertPeer with
    | some e' => exact Or.inl (Option.some_ne_none e')
    | none =>
      cases hi : db.insertPeer peer.roomId peer.peerId peer.virtualIp key weather.dbNow with
      | error e' => exact Or.inr ⟨e', rfl⟩
      | ok db' =>
        obtain ⟨s', he', -⟩ := dbInsertPeer_ok weather (show s.stores.database = some db from hdb) hw hi
        rw [hdb, Option.isSome_some, expectKey, he'] at he
        cases he

/-- From WireGuard on a join that fails takes the peer back out of the router, and leaves WireGuard as
it was, unless the database refuses the peer of an open tunnel. -/
theorem joinTunnel_error {publicKey : Option String} {e : Fault ApiError} (hwf : r.WF)
    (hr : r.rooms[peer.roomId]? = some room) (hp : r.peers[peer.peerId]? = none)
    (hip : r.virtualIps[peer.virtualIp]? = none) (hs : s.router = r.joined peer.roomId peer.peerId peer.virtualIp now)
    (hundo : weather.removePeer = none)
    (hkey : (∃ key, publicKey = some key ∧ WireGuard.validatePublicKey base64 key = .ok ()) ∨
      publicKey = none ∧ s.database = none ∧ s.wireguard = none)
    (he : ((joinTunnel base64 weather o publicKey peer).run s).1 = .error e) :
    ((joinTunnel base64 weather o publicKey peer).run s).2.stores = { s.stores with router := r } ∨
      ∃ key wg db, publicKey = some key ∧ WireGuard.validatePublicKey base64 key = .ok () ∧ s.wireguard = some wg ∧
        weather.addPeer = none ∧ s.database = some db ∧ (weather.insertPeer ≠ none ∨
          ∃ e, db.insertPeer peer.roomId peer.peerId peer.virtualIp key weather.dbNow = .error e) := by
  -- there is no tunnel to open, or it is not opened, or it is and then the database refuses
  unfold joinTunnel at he ⊢
  rw [run_atomically] at he ⊢
  obtain ⟨key, rfl, hvalid⟩ | ⟨rfl, hdb, hwg⟩ := hkey
  swap
  · rw [hwg, Option.isSome_none, expectKey] at he
    dsimp only at he
    unfold joinRow at he
    rw [run_atomically, hdb, Option.isSome_none, expectKey] at he
    cases he
  cases hwg : s.wireguard with
  | none =>
    rw [hwg] at he
    rw [Option.isSome_none, expectKey] at he ⊢
    obtain ⟨db, hdb, hrefused⟩ := joinRow_error he
    obtain ⟨s', he', hs'⟩ := joinRow_refused (o := o) hwf hr hp hip hs hundo hvalid hdb hrefused
    refine Or.inl ?_
    dsimp only
    rw [he', hs', hwg]
    exact Stores.ext rfl rfl hwg.symm rfl
  | some wg =>
    rw [hwg] at he
    rw [Option.isSome_some, expectKey] at he ⊢
    cases hw : weather.addPeer with
    | some e' =>
      have hadd : s.wgAddPeer base64 weather key peer.virtualIp = (.error e', s) := by
        unfold wgAddPeer command
        simp only [hwg, WireGuard.addPeer, hvalid, hw]
      obtain ⟨s', he', hs'⟩ := leave_after_join o hwf hr hp hip hs
      refine Or.inl ?_
      rw [hadd]
      simp only [Except.mapError]
      rw [run_atomically, he']
      exact hs'
    | none =>
      obtain ⟨s₃, he₃, hs₃⟩ :=
        wgAddPeer_ok weather peer.virtualIp (show s.stores.wireguard = some wg from hwg) hw hvalid
      rw [he₃] at he
      obtain ⟨db, hdb, hrefused⟩ := joinRow_error he
      have hdb₃ : s₃.database = s.database := congrArg Stores.database hs₃
      exact Or.inr ⟨key, wg, db, rfl, hvalid, rfl, rfl, hdb₃ ▸ hdb, hrefused⟩

/-- A join that the database refuses leaves WireGuard without an entry of the public key. -/
theorem Refused.run {roomId : RoomId} {ip : VirtualIp} {wg : WireGuard} (hwf : s.router.WF)
    (hundo : weather.removePeer = none)
    (h : Refused base64 weather s caller code payload (payload.peerId.getD fresh) now roomId ip key wg db) :
    Leaves ((joinRoom base64 weather o caller code payload fresh now).run s)
      (.error (.error (.internal (.text "database write failed"))))
      { s.stores with wireguard := some ((wg.setPeer key ip).unsetPeer key) } := by
  obtain ⟨roomCode, hcode, hadmits⟩ := h.admits
  obtain ⟨res, s₁, hb, hs₁⟩ := checkJoin_leaves base64 s caller code payload
  have hsubnet : (s.checkJoin base64 caller code payload).2.virtualIpPrefix = s.virtualIpPrefix :=
    checkJoin_virtualIpPrefix
  have hok : (s.checkJoin base64 caller code payload).1 = .ok roomCode :=
    (checkJoin_iff h.brings).2 ⟨h.authorized, hcode, h.valid⟩
  rw [hb] at hsubnet hok
  cases hok
  have hr₁ : s₁.router = s.router := congrArg Stores.router hs₁
  have hadmits₁ := (Admits.congr hr₁ hsubnet).2 hadmits
  obtain ⟨⟨room, hr⟩, hp, hip, -⟩ := hadmits₁.joined
  obtain ⟨s₂, he₂, hs₂⟩ := hadmits₁.enterRoom
  have hwg₂ : s₂.stores.wireguard = some wg := by rw [hs₂, hs₁]; exact h.wireguard
  obtain ⟨s₃, he₃, hs₃⟩ := wgAddPeer_ok weather ip hwg₂ h.opened h.valid
  have hr₃ : s₃.stores.router = s₁.router.joined roomId (payload.peerId.getD fresh) ip now := by rw [hs₃, hs₂]
  have hdb₃ : s₃.stores.database = some db := by rw [hs₃, hs₂, hs₁]; exact h.database
  have hwg₃ : s₃.stores.wireguard = some (wg.setPeer key ip) := by rw [hs₃]
  -- the router and WireGuard have the peer by now, and both calls are made good
  let joining : PeerResponse := { roomId, peerId := payload.peerId.getD fresh, virtualIp := ip, connectionEpoch := 1 }
  obtain ⟨s₄, he₄, hs₄⟩ :=
    joinRow_refused (o := o) (hr₁ ▸ hwf) (show s₁.router.rooms[joining.roomId]? = _ from hr) hp hip hr₃
    hundo h.valid hdb₃ h.refused
  refine ⟨s₄, ?_, ?_⟩
  · unfold joinRoom
    rw [run_atomically, hb]
    dsimp only
    rw [run_atomically, he₂, h.brings]
    dsimp only
    unfold joinTunnel
    rw [run_atomically, show s₂.wireguard = some wg from hwg₂, Option.isSome_some, expectKey, he₃]
    exact he₄
  · rw [hs₄, show s₃.wireguard = _ from hwg₃, hs₃, hs₂, hs₁, hr₁]
    rfl

/-- A join that fails restores the stores, unless the database refuses the peer of an open tunnel. -/
theorem joinRoom_error (hwf : s.router.WF) (hundo : weather.removePeer = none) {e : Fault ApiError}
    (he : ((joinRoom base64 weather o caller code payload fresh now).run s).1 = .error e) :
    ((joinRoom base64 weather o caller code payload fresh now).run s).2.stores = s.stores ∨
      ∃ roomId ip key wg db, Refused base64 weather s caller code payload (payload.peerId.getD fresh) now roomId ip
        key wg db := by
  obtain ⟨res, s₁, hb, hs₁⟩ := checkJoin_leaves base64 s caller code payload
  have hsubnet : (s.checkJoin base64 caller code payload).2.virtualIpPrefix = s.virtualIpPrefix :=
    checkJoin_virtualIpPrefix
  have hr₁ : s₁.router = s.router := congrArg Stores.router hs₁
  have hd₁ : s₁.database = s.database := congrArg Stores.database hs₁
  have hw₁ : s₁.wireguard = s.wireguard := congrArg Stores.wireguard hs₁
  unfold joinRoom at he ⊢
  rw [run_atomically, hb] at he ⊢
  rw [hb] at hsubnet
  cases res with
  | error e' => exact Or.inl hs₁
  | ok roomCode =>
    dsimp only at he ⊢
    rw [run_atomically] at he ⊢
    obtain ⟨e', he'⟩ | ⟨roomId, ip, hadmits⟩ :=
      enterRoom_cases s₁ roomCode (payload.peerId.getD fresh) payload.requestedVirtualIp now
    · rw [he']; exact Or.inl hs₁
    obtain ⟨⟨room, hr⟩, hp, hip, -⟩ := hadmits.joined
    obtain ⟨s₂, he₂, hs₂⟩ := hadmits.enterRoom
    have hr₂ : s₂.router = s₁.router.joined roomId (payload.peerId.getD fresh) ip now := congrArg Stores.router hs₂
    have hd₂ : s₂.database = s₁.database := congrArg Stores.database hs₂
    have hw₂ : s₂.wireguard = s₁.wireguard := congrArg Stores.wireguard hs₂
    rw [he₂] at he ⊢
    have hkey := checkJoin_ok hb
    rw [← hd₂, ← hw₂] at hkey
    obtain hstores | ⟨key, wg, db, hbrings, hvalid, hwg, hopened, hdb, hrefused⟩ :=
      joinTunnel_error (hr₁ ▸ hwf) hr hp hip hr₂ hundo hkey he
    · refine Or.inl (hstores.trans ?_)
      rw [hs₂, ← hs₁]
      rfl
    · obtain ⟨hauthorized, hcode, -⟩ := (checkJoin_iff hbrings).1 (congrArg Prod.fst hb)
      exact Or.inr ⟨roomId, ip, key, wg, db, hauthorized, hbrings, hvalid,
        ⟨roomCode, hcode, (Admits.congr hr₁ hsubnet).1 hadmits⟩, (hw₂.trans hw₁) ▸ hwg, hopened,
          (hd₂.trans hd₁) ▸ hdb, hrefused⟩

end

/-! ## When a failed join leaves no trace -/

/-- In a consistent router a join leaves no trace when it fails, if and only if the database is not the
one to refuse a peer whose key or address WireGuard had before. -/
theorem failed_join_leaves_no_trace {base64 : String → Option (List UInt8)} {weather : Weather} {s : AppState}
    {o : WalkOrder} {caller : Caller} {code : String} {payload : JoinRoomRequest} {fresh : PeerId} {now : Instant}
    (hwf : s.router.WF) (hundo : weather.removePeer = none) :
    ((∃ e, ((joinRoom base64 weather o caller code payload fresh now).run s).1 = .error e) →
      ((joinRoom base64 weather o caller code payload fresh now).run s).2.stores = s.stores) ↔
    ¬ ∃ roomId ip key wg db, Refused base64 weather s caller code payload (payload.peerId.getD fresh) now roomId
      ip key wg db ∧ wg.Taken key ip := by
  constructor
  -- what WireGuard had of the key or the address does not come back with the removal
  · rintro h ⟨roomId, ip, key, wg, db, hrefused, htaken⟩
    obtain ⟨s', he, hs'⟩ := hrefused.run (o := o) hwf hundo
    have hstores := h ⟨_, by rw [he]⟩
    rw [he, hs'] at hstores
    have hsome : some ((wg.setPeer key ip).unsetPeer key) = some wg :=
      (congrArg Stores.wireguard hstores).trans hrefused.wireguard
    exact WireGuard.unsetPeer_setPeer_iff.1 (Option.some.inj hsome) htaken
  · rintro h ⟨e, he⟩
    obtain hstores | ⟨roomId, ip, key, wg, db, hrefused⟩ := joinRoom_error hwf hundo he
    · exact hstores
    have htaken : ¬ wg.Taken key ip := fun ht => h ⟨roomId, ip, key, wg, db, hrefused, ht⟩
    obtain ⟨s', he', hs'⟩ := hrefused.run (o := o) hwf hundo
    rw [he', hs', WireGuard.unsetPeer_setPeer_iff.2 htaken]
    exact Stores.ext rfl rfl hrefused.wireguard.symm rfl

/-! ## A second peer joins -/

namespace Example

open RoomRouter.Example (code room peer ip)

/-- The peer that the server has. -/
def occupant : Member := { roomId := room, virtualIp := ip, publicKey := zeros }

/-- Before, all the stores of the server agree. -/
theorem serving_inStep : serving.stores.InStep base64 (Registry.enrol (fun _ => none) peer occupant) := by
  have hempty : Represents base64 (RoomRouter.new {}) .empty .empty ∅ fun _ => none := .empty
  obtain ⟨db, hinsert, hroom⟩ := hempty.insertRoom 0
    (show (∅ : ExtTreeMap RoomId RoomState)[room]? = none from ExtTreeMap.getElem?_empty)
    (show (∅ : ExtTreeMap RoomCode RoomId)[code]? = none from ExtTreeMap.getElem?_empty)
  obtain ⟨-, rfl⟩ := Database.insertRoom_ok hinsert
  have hvalid : WireGuard.validatePublicKey base64 occupant.publicKey = .ok () := by decide +kernel
  exact ⟨_, _, rfl, rfl, @Represents.enrol base64 _ _ _ _ _ peer occupant 0 0 hroom _ ExtTreeMap.getElem?_insert_self
    ExtTreeMap.getElem?_empty ExtTreeMap.getElem?_empty nofun hvalid⟩

def other : PeerId := .ofByte 4

/-- A second peer joins under a key of its own, and the database fails. -/
def stranded : Answer PeerResponse × AppState :=
  (joinRoom base64 { insertPeer := some .unavailable } .sorted caller "RMAAAA" (joining other ones) other 0).run serving

/-- A second peer joins under the key of the first. -/
def cuckoo : Answer PeerResponse × AppState :=
  (joinRoom base64 {} .sorted caller "RMAAAA" (joining other zeros) other 0).run serving

end Example

theorem stranded_leaves_no_trace : Example.stranded.2.stores = Example.serving.stores := by
  refine (failed_join_leaves_no_trace RoomRouter.Example.joined_reachable.wf rfl).2 ?_ ⟨_, show Example.stranded.1 =
    .error (.error (.internal (.text "database write failed"))) by decide +kernel⟩
  rintro ⟨roomId, ip, key, wg, db, h, htaken⟩
  obtain ⟨-, -, -, haddress, -⟩ := h.admits
  have hfree : Example.serving.chooseAddress none = .ok (Example.subnet.address 3) := by decide +kernel
  rw [show Example.serving.chooseAddress none = .ok ip from haddress] at hfree
  cases hfree
  cases h.brings
  cases h.wireguard
  obtain hkey | ⟨k, hk⟩ := htaken
  · exact hkey (by decide +kernel)
  · rw [ExtTreeMap.getElem?_insert] at hk
    split at hk
    · revert hk; decide +kernel
    · simp at hk

/-- All the stores agree before, and the tunnel of the first peer is gone afterwards. -/
theorem cuckoo_leaves_a_trace : ¬ ∀ (base64 : String → Option (List UInt8)) (weather : Weather) (s : AppState)
    (o : WalkOrder) (caller : Caller) (code : String) (payload : JoinRoomRequest) (fresh : PeerId) (now : Instant),
    (∃ R, s.stores.InStep base64 R) → weather.removePeer = none →
      (∃ e, ((joinRoom base64 weather o caller code payload fresh now).run s).1 = .error e) →
        ((joinRoom base64 weather o caller code payload fresh now).run s).2.stores = s.stores := by
  intro h
  have hfails : Example.cuckoo.1 = .error (.error (.internal (.text "database write failed"))) := by decide +kernel
  have hstores : Example.cuckoo.2.stores = Example.serving.stores :=
    h _ _ _ _ _ _ _ _ _ ⟨_, Example.serving_inStep⟩ rfl ⟨_, hfails⟩
  have hwireguard : Example.cuckoo.2.wireguard = Example.serving.wireguard := congrArg Stores.wireguard hstores
  have hbefore : (Example.serving.wireguard.bind fun wg => wg.allowedIp[Example.zeros]?).isSome = true := by
    decide +kernel
  have hafter : (Example.cuckoo.2.wireguard.bind fun wg => wg.allowedIp[Example.zeros]?).isSome = false := by
    decide +kernel
  rw [hwireguard, hbefore] at hafter
  cases hafter

end Civ6LanBridge

/-
Each peer and its own public key. Requests that go through and sweeps keep the keys of the peers apart, and each key on
the address of its peer, as long as nobody joins under a key that a peer already has; the database sees to that, and
where there is none, nothing does.
-/
import Civ6LanBridge.Lib.Past
import Civ6LanBridge.Server.Success

namespace Civ6LanBridge

open Std FinMap Bytes Past RoomRouter

/-! ## Keys and addresses -/

namespace Stores

/-- Each peer has a public key of its own, and the entry of that key lists the address of the peer and nothing else. -/
structure KeysBound (σ : Stores) : Prop where
  tunnel : ∀ (p : PeerId) (roomId : RoomId) (ip : VirtualIp), σ.router.place p = some (roomId, ip) →
    ∃ key wg, σ.peerKeys[p]? = some key ∧ σ.wireguard = some wg ∧ wg.allowedIp[key]? = some (some ip)
  distinct : ∀ (p q : PeerId) (key : String), σ.router.place p ≠ none → σ.router.place q ≠ none →
    σ.peerKeys[p]? = some key → σ.peerKeys[q]? = some key → p = q

/-- The database, where there is one, has a row of each peer, with its room and its public key. -/
def Recorded (σ : Stores) : Prop :=
  ∀ db, σ.database = some db → ∀ (p : PeerId) (roomId : RoomId) (ip : VirtualIp), σ.router.place p = some (roomId, ip) →
    ∃ row : PeerRow, db.peers[p]? = some row ∧ row.roomId = roomId ∧ σ.peerKeys[p]? = some row.wireguardPublicKey

/-- The request brings a public key that a peer of the server has already. -/
def Takes (σ : Stores) (q : Request) : Prop :=
  ∃ key ∈ q.keys, ∃ p, σ.router.place p ≠ none ∧ σ.peerKeys[p]? = some key

variable {σ σ' : Stores} {q : Request}

/-- Nobody gets a new place, and the keys are left alone. -/
theorem KeysBound.thin (h : σ.KeysBound) (hwg : σ'.wireguard = σ.wireguard) (hkeys : σ'.peerKeys = σ.peerKeys)
    (hplace : ∀ p at', σ'.router.place p = some at' → σ.router.place p = some at') : σ'.KeysBound := by
  have hsome : ∀ p, σ'.router.place p ≠ none → σ.router.place p ≠ none := by
    intro p hp
    rcases Option.ne_none_iff_exists'.1 hp with ⟨at', hat⟩
    rw [hplace p at' hat]
    simp
  constructor
  · intro p roomId ip hp
    rw [hwg, hkeys]
    exact h.tunnel p roomId ip (hplace p _ hp)
  · intro p q key hp hq
    rw [hkeys]
    exact h.distinct p q key (hsome p hp) (hsome q hq)

/-- A newcomer gets a place that is free, and a key that no peer has. -/
theorem KeysBound.enter (h : σ.KeysBound) {wg : WireGuard} (hwg : σ.wireguard = some wg) {p : PeerId} {roomId : RoomId}
    {ip : VirtualIp} {key : String} (hfree : ∀ q roomId', σ.router.place q ≠ some (roomId', ip))
    (hkey : ∀ q, σ.router.place q ≠ none → σ.peerKeys[q]? ≠ some key)
    (hplace : σ'.router.place = Function.update σ.router.place p (some (roomId, ip)))
    (hwg' : σ'.wireguard = some (wg.setPeer key ip)) (hkeys : σ'.peerKeys = σ.peerKeys.insert p key) :
    σ'.KeysBound := by
  have hold : ∀ q, q ≠ p → σ'.router.place q = σ.router.place q ∧ σ'.peerKeys[q]? = σ.peerKeys[q]? := fun q hne =>
    ⟨by rw [hplace, Function.update_of_ne hne], by rw [hkeys, getElem?_insert_ne (Ne.symm hne)]⟩
  have hnew : σ'.router.place p = some (roomId, ip) ∧ σ'.peerKeys[p]? = some key :=
    ⟨by rw [hplace, Function.update_self], by rw [hkeys, ExtTreeMap.getElem?_insert_self]⟩
  constructor
  · intro q roomId' ip' hq
    by_cases e : q = p
    · subst e
      cases hnew.1.symm.trans hq
      exact ⟨key, _, hnew.2, hwg', ExtTreeMap.getElem?_insert_self⟩
    rw [(hold q e).1] at hq
    rcases h.tunnel q roomId' ip' hq with ⟨key', wg', hk, hw, ha⟩
    cases hwg.symm.trans hw
    have hne : key ≠ key' := by
      rintro rfl
      exact hkey q (by simp [hq]) hk
    refine ⟨key', _, (hold q e).2.trans hk, hwg', ?_⟩
    show ((wg.allowedIp.map _).insert key _)[key']? = _
    rw [getElem?_insert_ne hne, ExtTreeMap.getElem?_map, ha, Option.map_some]
    refine congrArg some (Option.filter_some_pos (decide_eq_true ?_))
    rintro rfl
    exact hfree q roomId' hq
  · intro q q' key' hq hq' hk hk'
    by_cases e : q = p <;> by_cases e' : q' = p
    · rw [e, e']
    · subst e
      rw [(hold q' e').1] at hq'
      rw [(hold q' e').2, ← hk, hnew.2] at hk'
      exact absurd hk' (hkey q' hq')
    · subst e'
      rw [(hold q e).1] at hq
      rw [(hold q e).2, ← hk', hnew.2] at hk
      exact absurd hk (hkey q hq)
    · rw [(hold q e).1] at hq
      rw [(hold q' e').1] at hq'
      rw [(hold q e).2] at hk
      rw [(hold q' e').2] at hk'
      exact h.distinct q q' key' hq hq' hk hk'

/-- A peer that leaves takes its own key with it. -/
theorem KeysBound.leave (h : σ.KeysBound) {wg : WireGuard} (hwg : σ.wireguard = some wg) {p : PeerId} {key : String}
    (hp : σ.router.place p ≠ none) (hk : σ.peerKeys[p]? = some key)
    (hplace : σ'.router.place = Function.update σ.router.place p none)
    (hwg' : σ'.wireguard = some (wg.unsetPeer key)) (hkeys : σ'.peerKeys = σ.peerKeys.erase p) : σ'.KeysBound := by
  have hold : ∀ q, σ'.router.place q ≠ none →
      q ≠ p ∧ σ'.router.place q = σ.router.place q ∧ σ'.peerKeys[q]? = σ.peerKeys[q]? := by
    intro q hq
    have hne : q ≠ p := by
      rintro rfl
      exact hq (by rw [hplace, Function.update_self])
    exact ⟨hne, by rw [hplace, Function.update_of_ne hne], by rw [hkeys, getElem?_erase_ne (Ne.symm hne)]⟩
  constructor
  · intro q roomId ip hq
    rcases hold q (by simp [hq]) with ⟨hne, hsame, hkey⟩
    rw [hsame] at hq
    rcases h.tunnel q roomId ip hq with ⟨key', wg', hk', hw, ha⟩
    cases hwg.symm.trans hw
    have hother : key ≠ key' := by
      rintro rfl
      exact hne (h.distinct q p key (by simp [hq]) hp hk' hk)
    exact ⟨key', _, hkey.trans hk', hwg', (getElem?_erase_ne hother).trans ha⟩
  · intro q q' key' hq hq' hk₁ hk₂
    rcases hold q hq with ⟨-, hsame, hkey⟩
    rcases hold q' hq' with ⟨-, hsame', hkey'⟩
    exact h.distinct q q' key' (hsame ▸ hq) (hsame' ▸ hq') (hkey.symm.trans hk₁) (hkey'.symm.trans hk₂)

theorem Recorded.thin (h : σ.Recorded) (hkeys : σ'.peerKeys = σ.peerKeys)
    (hplace : ∀ p at', σ'.router.place p = some at' → σ.router.place p = some at')
    (hrows : ∀ db', σ'.database = some db' → ∃ db, σ.database = some db ∧ ∀ (p : PeerId) (row : PeerRow),
      db.peers[p]? = some row → (∃ ip, σ'.router.place p = some (row.roomId, ip)) → db'.peers[p]? = some row) :
    σ'.Recorded := by
  intro db' hdb' p roomId ip hp
  rcases hrows db' hdb' with ⟨db, hdb, hrow⟩
  rcases h db hdb p roomId ip (hplace p _ hp) with ⟨row, hr, rfl, hk⟩
  rw [hkeys]
  exact ⟨row, hrow p row hr ⟨ip, hp⟩, rfl, hk⟩

end Stores

namespace Serves

variable {σ σ' : Stores} {q : Request}

theorem wf (h : Serves σ q σ') (hw : σ.router.WF) : σ'.router.WF := by
  cases h with
  | createdRoom hid hcode => exact hw.addRoom hid hcode
  | joined _ hr hp hip => exact hw.joined hr hp hip
  | resumed p => exact hw.resuming p _
  | deletedPeer o hp => exact hw.without o hp
  | deletedRoom hr hm hsess => exact hw.dropRoom hr hm hsess

theorem wireguard (h : Serves σ q σ') (hwg : σ.wireguard.isSome) : σ'.wireguard.isSome := by
  cases h <;> simpa using hwg

theorem recorded (h : Serves σ q σ') (hw : σ.router.WF) (hrec : σ.Recorded) : σ'.Recorded := by
  cases h with
  | createdRoom hid hcode hrel =>
    refine hrec.thin rfl (fun p at' hp => hp) fun db' hdb' => ?_
    change _ = some db' at hdb'
    subst hdb'
    generalize hd : σ.database = d at hrel
    cases hrel with
    | some hi =>
      rcases Database.insertRoom_ok hi with ⟨-, rfl⟩
      exact ⟨_, rfl, fun p row hrow _ => hrow⟩
  | @joined caller code payload fresh now roomId room ip key dbNow database hkey hr hp hip hrel =>
    intro db' hdb' p roomId' ip' hplace
    change _ = some db' at hdb'
    subst hdb'
    generalize hd : σ.database = d at hrel
    cases hrel with
    | some hi =>
      rcases Database.insertPeer_ok hi with ⟨-, rfl⟩
      rw [place_joined] at hplace
      by_cases e : p = payload.peerId.getD fresh
      · subst e
        rw [Function.update_self] at hplace
        cases hplace
        exact ⟨_, ExtTreeMap.getElem?_insert_self, rfl, ExtTreeMap.getElem?_insert_self⟩
      · rw [Function.update_of_ne e] at hplace
        rcases hrec _ hd p roomId' ip' hplace with ⟨row, hrow, hroom, hk⟩
        exact ⟨row, (getElem?_insert_ne (Ne.symm e)).trans hrow, hroom, (getElem?_insert_ne (Ne.symm e)).trans hk⟩
  | resumed p =>
    refine hrec.thin rfl (fun p' at' hp' => ?_) fun db' hdb' => ⟨db', hdb', fun _ _ hrow _ => hrow⟩
    rw [← place_resuming]
    exact hp'
  | @deletedPeer caller code p peer key o hp hk =>
    intro db' hdb' p' roomId' ip' hplace
    rcases Option.map_eq_some_iff.1 hdb' with ⟨db, hdb, rfl⟩
    rw [place_without hw hp] at hplace
    by_cases e : p' = p
    · subst e
      simp at hplace
    · rw [Function.update_of_ne e] at hplace
      rcases hrec db hdb p' roomId' ip' hplace with ⟨row, hrow, hroom, hk'⟩
      exact ⟨row, (getElem?_erase_ne (Ne.symm e)).trans hrow, hroom, (getElem?_erase_ne (Ne.symm e)).trans hk'⟩
  | @deletedRoom caller code roomId room hr hm hsess =>
    refine hrec.thin rfl (fun p at' hp => hp) fun db' hdb' => ?_
    rcases Option.map_eq_some_iff.1 hdb' with ⟨db, hdb, rfl⟩
    refine ⟨db, hdb, fun p row hrow ⟨ip, hp⟩ => getElem?_filter_eq_some.2 ⟨hrow, decide_eq_true ?_⟩⟩
    -- who is in the room has kept it from being deleted
    rintro rfl
    rcases place_eq_some.1 hp with ⟨peer, hpeer, hsits⟩
    have hmem := (hw.member_iff hr).2 ⟨peer, hpeer, hsits.1⟩
    rw [hm] at hmem
    exact ExtTreeSet.not_mem_empty hmem

/-- A database does not take a peer under the key of another. -/
theorem not_takes (h : Serves σ q σ') (hrec : σ.Recorded) (hdb : σ.database.isSome) : ¬ σ.Takes q := by
  rintro ⟨key, hkey, p, hp, hk⟩
  rcases Option.isSome_iff_exists.1 hdb with ⟨db, hd⟩
  rcases Option.ne_none_iff_exists'.1 hp with ⟨⟨roomId, ip⟩, hplace⟩
  rcases hrec db hd p roomId ip hplace with ⟨row, hrow, -, hk'⟩
  rw [hk] at hk'
  cases h with
  | joined hpayload _ _ _ hrel =>
    rw [Request.keys, hpayload] at hkey
    simp only [Option.toList_some, List.mem_singleton] at hkey
    rw [hd] at hrel
    cases hrel with
    | some hi => exact (Database.insertPeer_ok hi).1 p row hrow (by rw [← hkey]; exact (Option.some.inj hk').symm)
  | createdRoom => simp [Request.keys] at hkey
  | resumed => simp [Request.keys] at hkey
  | deletedPeer => simp [Request.keys] at hkey
  | deletedRoom => simp [Request.keys] at hkey

theorem keysBound (h : Serves σ q σ') (hw : σ.router.WF) (hwg : σ.wireguard.isSome) (hb : σ.KeysBound)
    (hno : ¬ σ.Takes q) : σ'.KeysBound := by
  rcases Option.isSome_iff_exists.1 hwg with ⟨wg, hwg⟩
  cases h with
  | createdRoom => exact hb.thin rfl rfl fun p at' hp => hp
  | resumed p =>
    refine hb.thin rfl rfl fun p' at' hp' => ?_
    rw [← place_resuming]
    exact hp'
  | deletedRoom => exact hb.thin rfl rfl fun p at' hp => hp
  | @joined caller code payload fresh now roomId room ip key dbNow database hkey hr hp hip hrel =>
    refine hb.enter hwg (fun p roomId' hplace => ?_) (fun p hplace hk => ?_) place_joined (by rw [hwg]; rfl) rfl
    · -- the address of the newcomer was free
      rcases place_eq_some.1 hplace with ⟨peer, hpeer, -, e⟩
      exact (hw.addresses.none_iff ip).1 hip p peer hpeer e
    · exact hno ⟨key, by simp [Request.keys, hkey], p, hplace, hk⟩
  | @deletedPeer caller code p peer key o hp hk =>
    exact hb.leave hwg (by simp [place, hp]) hk (place_without hw hp) (by rw [hwg]; rfl) rfl

/-- Two peers have the key that a newcomer brings along with the peer that had it. -/
theorem takes_breaks (h : Serves σ q σ') (ht : σ.Takes q) : ¬ σ'.KeysBound := by
  rcases ht with ⟨key, hkey, p, hplace, hk⟩
  intro hb
  cases h with
  | @joined caller code payload fresh now roomId room ip key' dbNow database hpayload hr hp hip hrel =>
    simp only [Request.keys, hpayload, Option.toList_some, List.mem_singleton] at hkey
    subst hkey
    have hne : p ≠ payload.peerId.getD fresh := by
      rintro rfl
      exact hplace (place_eq_none.2 hp)
    refine hne (hb.distinct p _ key ?_ ?_ ((getElem?_insert_ne (Ne.symm hne)).trans hk) ExtTreeMap.getElem?_insert_self)
    · rw [place_joined, Function.update_of_ne hne]
      exact hplace
    · rw [place_joined, Function.update_self]
      simp
  | createdRoom => simp [Request.keys] at hkey
  | resumed => simp [Request.keys] at hkey
  | deletedPeer => simp [Request.keys] at hkey
  | deletedRoom => simp [Request.keys] at hkey

end Serves

/-! ## Runs -/

/-- What happens to a server that serves one request at a time. -/
inductive Service
  | request (o : WalkOrder) (weather : Weather) (q : Request)
  | sweep (o : WalkOrder) (now : Instant)

namespace Service

variable (base64 : String → Option (List UInt8))

def apply (s : AppState) : Service → AppState
  | request o weather q => q.serve base64 o weather s
  | sweep o now => s.sweep o now

/-- A request goes through. -/
def Allowed (s : AppState) : Service → Prop
  | request o weather q => q.Succeeds base64 o weather s
  | sweep _ _ => True

def Happens (s : AppState) (e : Service) (s' : AppState) : Prop := e.Allowed base64 s ∧ s' = e.apply base64 s

end Service

/-- The server has WireGuard, and nobody has joined yet; rooms may have been restored from the database. -/
structure Opens (config : RouterConfig) (s : AppState) : Prop where
  router : RoomRouter.Reachable config s.router
  nobody : ∀ p : PeerId, s.router.peers[p]? = none
  wireguard : s.wireguard.isSome

/-- A peer joins under a public key that another peer has. -/
def TakesKey (m : Move AppState Service) : Prop :=
  ∃ o weather q, m.event = .request o weather q ∧ m.before.stores.Takes q

section

variable {base64 : String → Option (List UInt8)} {config : RouterConfig} {h : List (Move AppState Service)}
  {s s' : AppState} {e : Service}

/-- What requests and sweeps keep, whoever takes whose key. -/
structure AppState.Attended (s : AppState) : Prop where
  router : s.router.WF
  wireguard : s.wireguard.isSome
  recorded : s.stores.Recorded

theorem Opens.attended (hs : Opens config s) : s.Attended where
  router := hs.router.wf
  wireguard := hs.wireguard
  recorded := fun _ _ p _ _ hp => by simp [place, AppState.stores, hs.nobody p] at hp

theorem Service.Happens.attended (he : e.Happens base64 s s') (h : s.Attended) : s'.Attended := by
  rcases he with ⟨hallowed, rfl⟩
  cases e with
  | request o weather q =>
    have hserves := Request.Succeeds.serves h.router h.wireguard hallowed
    exact ⟨hserves.wf h.router, hserves.wireguard h.wireguard, hserves.recorded h.router h.recorded⟩
  | sweep o now =>
    refine ⟨h.router.expire o now, h.wireguard, ?_⟩
    exact h.recorded.thin rfl (place_expire_sub o h.router now) fun db hdb => ⟨db, hdb, fun _ _ hrow _ => hrow⟩

theorem attended (hr : Run (Opens config) (fun s e s' => e.Happens base64 s s') h s) : s.Attended :=
  hr.invariant (fun _ hs => hs.attended) fun _ _ _ h he => he.attended h

/-- In a run each peer has its key and its address to itself exactly if nobody joins under the key of another peer, and
where there is a database nobody does. -/
theorem keys_bound_iff (hr : Run (Opens config) (fun s e s' => e.Happens base64 s s') h s) :
    ((∀ m ∈ h, m.after.stores.KeysBound) ↔ ∀ m ∈ h, ¬ TakesKey m) ∧ ∀ m ∈ h, TakesKey m → m.before.database = none := by
  constructor
  · refine hr.kept_iff (P := fun s => s.stores.KeysBound) ?_ ?_ ?_
    · intro s hs
      have hnone : ∀ p, s.stores.router.place p = none := fun p => place_eq_none.2 (hs.nobody p)
      constructor
      · intro p roomId ip hp
        rw [hnone] at hp
        cases hp
      · exact fun p q key hp => absurd (hnone p) hp
    · rintro h s e _ hr ⟨hallowed, rfl⟩ hb hno
      have hatt := attended hr
      cases e with
      | request o weather q =>
        exact (Request.Succeeds.serves hatt.router hatt.wireguard hallowed).keysBound hatt.router hatt.wireguard hb
          fun ht => hno ⟨o, weather, q, rfl, ht⟩
      | sweep o now => exact hb.thin rfl rfl (place_expire_sub o hatt.router now)
    · rintro h s _ _ hr ⟨hallowed, rfl⟩ ⟨o, weather, q, rfl, ht⟩
      have hatt := attended hr
      exact (Request.Succeeds.serves hatt.router hatt.wireguard hallowed).takes_breaks ht
  · rintro ⟨s, e, s'⟩ hm ⟨o, weather, q, rfl, ht⟩
    rcases hr.mem hm with ⟨⟨old, hold⟩, hallowed, -⟩
    have hatt := attended hold
    by_contra hdb
    exact (Request.Succeeds.serves hatt.router hatt.wireguard hallowed).not_takes hatt.recorded
      (Option.isSome_iff_ne_none.2 hdb) ht

end

/-! ## Two peers under one key -/

namespace Example

open RoomRouter.Example (code room peer)

def rival : PeerId := .ofByte 4

/-- A server with WireGuard and without a database. -/
def unrecorded : AppState := ((AppState.new bearerToken).withVirtualIpPrefix subnet).withWireguard .empty

theorem unrecorded_opens : Opens {} unrecorded := ⟨.init rfl, fun p => by simp [unrecorded, AppState.new,
  AppState.withVirtualIpPrefix, AppState.withWireguard, RoomRouter.new], rfl⟩

/-- Two peers join a room, both under the key of zeros; the latest first. -/
def sharing : List Service :=
  [.request .sorted {} (.joinRoom caller "RMAAAA" (joining rival zeros) rival 0),
   .request .sorted {} (.joinRoom caller "RMAAAA" (joining peer zeros) peer 0),
   .request .sorted {} (.createRoom caller code room)]

theorem sharing_permitted : Permitted (Service.apply base64) (fun s e => e.Allowed base64 s) unrecorded sharing :=
  ⟨show _ = true by decide +kernel, show _ = true by decide +kernel, show _ = true by decide +kernel, trivial⟩

theorem sharing_run : Run (Opens {}) (fun s e s' => e.Happens base64 s s')
    (replay (Service.apply base64) unrecorded sharing) (final (Service.apply base64) unrecorded sharing) :=
  run_replay _ _ unrecorded_opens sharing_permitted

theorem sharing_not_bound : ¬ (final (Service.apply base64) unrecorded sharing).stores.KeysBound := by
  intro hb
  have hplace : ∀ p, p = peer ∨ p = rival →
      (final (Service.apply base64) unrecorded sharing).router.place p ≠ none := by
    rintro p (rfl | rfl) <;> decide +kernel
  have hkeys : ∀ p, p = peer ∨ p = rival →
      (final (Service.apply base64) unrecorded sharing).peerKeys[p]? = some zeros := by
    rintro p (rfl | rfl) <;> decide +kernel
  have hsame := hb.distinct peer rival zeros (hplace _ (.inl rfl)) (hplace _ (.inr rfl)) (hkeys _ (.inl rfl))
    (hkeys _ (.inr rfl))
  exact absurd hsame (by decide)

end Example

open Example in
/-- Where two peers have one key, one of them has joined under the key of the other. -/
theorem rival_takes_key : ∃ m ∈ replay (Service.apply base64) unrecorded sharing, TakesKey m := by
  by_contra hno
  push Not at hno
  exact sharing_not_bound ((keys_bound_iff sharing_run).1.2 hno _ List.mem_cons_self)

open Example in
theorem key_not_bound : ¬ ∀ (base64 : String → Option (List UInt8)) (config : RouterConfig)
    (h : List (Move AppState Service))
    (s : AppState), Run (Opens config) (fun s e s' => e.Happens base64 s s') h s → s.stores.KeysBound :=
  fun hall => sharing_not_bound (hall _ _ _ _ sharing_run)

end Civ6LanBridge

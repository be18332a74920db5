/-
The addresses of the peers. The server hands out those of the subnet from 2 to 254, the lowest free one first; a peer
may also ask for one, and the check that it passes then rules out the addresses below 2, but not the broadcast address.
-/
import Civ6LanBridge.Server.Concord
import Civ6LanBridge.Server.Rollback

namespace Civ6LanBridge

open Std FinMap Bytes Past RoomRouter Prog Handler AppState

/-! ## The pool -/

/-- The address is one of those that the server hands out. -/
def IpPrefix.InPool (p : IpPrefix) (ip : VirtualIp) : Prop := ∃ x : UInt8, 2 ≤ x ∧ x ≤ 254 ∧ ip = p.address x

/-- Some peer has the address. -/
def RoomRouter.IsHeld (r : RoomRouter) (ip : VirtualIp) : Prop :=
  ∃ (p : PeerId) (peer : PeerState), r.peers[p]? = some peer ∧ peer.virtualIp = ip

section

variable {p : IpPrefix} {r : RoomRouter} {ip : VirtualIp} {x : UInt8}

theorem IpPrefix.address_inj {y : UInt8} (h : p.address x = p.address y) : x = y := congrArg (·.address.d) h

theorem IpPrefix.inPool_address : p.InPool (p.address x) ↔ 2 ≤ x ∧ x ≤ 254 := by
  constructor
  · rintro ⟨y, hlo, hhi, e⟩
    rw [address_inj e]
    exact ⟨hlo, hhi⟩
  · exact fun ⟨hlo, hhi⟩ => ⟨x, hlo, hhi, rfl⟩

/-- The addresses of the network and of the server and the broadcast address are not in the pool. -/
theorem IpPrefix.not_inPool (hx : x = 0 ∨ x = 1 ∨ x = 255) : ¬ p.InPool (p.address x) := by
  rw [inPool_address]
  rcases hx with rfl | rfl | rfl <;> decide

theorem IpPrefix.has_iff : p.has ip = true ↔ ip = p.address ip.address.d := by
  rcases p with ⟨a, b, c⟩
  rcases ip with ⟨⟨a', b', c', d'⟩⟩
  simp [has, address, and_assoc]

theorem RoomRouter.WF.available_iff (hw : r.WF) : r.isVirtualIpAvailable ip = true ↔ ¬ r.IsHeld ip := by
  unfold isVirtualIpAvailable IsHeld
  rw [Bool.not_eq_true', contains_eq_false, hw.addresses.none_iff]
  simp

/-- The numbers that the server goes through are octets. -/
theorem toNat_octet {n : Nat} (hn : n < 2 + 253) : (UInt8.ofNat n).toNat = n :=
  UInt8.toNat_ofNat_of_lt (show n < 256 by omega)

theorem octet_range {n : Nat} (hn : n < 2 + 253) (hlo : 2 ≤ n) : 2 ≤ UInt8.ofNat n ∧ UInt8.ofNat n ≤ 254 := by
  rw [UInt8.le_iff_toNat_le, UInt8.le_iff_toNat_le, toNat_octet hn]
  exact ⟨hlo, show n ≤ 254 by omega⟩

theorem range_octet (hlo : 2 ≤ x) (hhi : x ≤ 254) : 2 ≤ x.toNat ∧ x.toNat < 2 + 253 :=
  ⟨UInt8.le_iff_toNat_le.1 hlo, Nat.lt_succ_of_le (UInt8.le_iff_toNat_le.1 hhi)⟩

/-- The server hands out the lowest address of the pool that no peer has. -/
theorem allocateVirtualIp_eq_some (hw : r.WF) : allocateVirtualIp r p = some ip ↔
    ∃ x : UInt8, 2 ≤ x ∧ x ≤ 254 ∧ ip = p.address x ∧ ¬ r.IsHeld (p.address x) ∧
      ∀ y : UInt8, 2 ≤ y → y < x → r.IsHeld (p.address y) := by
  unfold allocateVirtualIp
  rw [List.find?_map, Option.map_eq_some_iff]
  simp only [List.find?_range'_eq_some, List.mem_range'_1, Function.comp_apply, hw.available_iff, Bool.not_eq_true',
    Bool.eq_false_iff, ne_eq, not_not]
  constructor
  · rintro ⟨n, ⟨hfree, ⟨hlo, hhi⟩, hbelow⟩, rfl⟩
    refine ⟨UInt8.ofNat n, (octet_range hhi hlo).1, (octet_range hhi hlo).2, rfl, hfree, fun y hy hlt => ?_⟩
    have hlt' := UInt8.lt_iff_toNat_lt.1 hlt
    rw [toNat_octet hhi] at hlt'
    simpa using hbelow y.toNat (UInt8.le_iff_toNat_le.1 hy) hlt'
  · rintro ⟨x, hlo, hhi, rfl, hfree, hbelow⟩
    have hx := range_octet hlo hhi
    refine ⟨x.toNat, ⟨by simpa using hfree, hx, fun n hn hlt => ?_⟩, by simp⟩
    have hlt' : n < 2 + 253 := Nat.lt_trans hlt hx.2
    exact hbelow _ (octet_range hlt' hn).1 (UInt8.lt_iff_toNat_lt.2 (by rwa [toNat_octet hlt']))

/-- Peers may have the lowest addresses of the pool, as many of them as we please. -/
theorem exists_crowd (p : IpPrefix) (roomId : RoomId) (code : RoomCode) : ∀ n ≤ 253, ∃ r : RoomRouter, r.WF ∧
    (∃ room : RoomState, r.rooms[roomId]? = some room) ∧ ∀ (q : PeerId) (at' : RoomId × VirtualIp),
      r.place q = some at' ↔
      ∃ x : UInt8, 2 ≤ x ∧ x.toNat < 2 + n ∧ q = .ofByte x ∧ at' = (roomId, p.address x) := by
  intro n
  induction n with
  | zero =>
    intro _
    have hroom : (new {}).rooms[roomId]? = none := ExtTreeMap.getElem?_empty ..
    have hcode : (new {}).roomsByCode[code]? = none := ExtTreeMap.getElem?_empty ..
    refine ⟨_, (new_wf {}).addRoom hroom hcode, ⟨_, ExtTreeMap.getElem?_insert_self⟩, fun q at' => iff_of_false ?_ ?_⟩
    · intro hq
      cases (place_eq_none.2 (ExtTreeMap.getElem?_empty ..)).symm.trans hq
    · rintro ⟨x, hlo, hhi, -⟩
      exact absurd (UInt8.le_iff_toNat_le.1 hlo) (Nat.not_le.2 hhi)
  | succ n ih =>
    intro hn
    rcases ih (Nat.le_of_succ_le hn) with ⟨r, hw, ⟨room, hroom⟩, hplace⟩
    -- the next peer, at the next address
    obtain ⟨x, hx⟩ : ∃ x : UInt8, x.toNat = 2 + n := ⟨_, toNat_octet (Nat.add_lt_add_left hn 2)⟩
    have hlo : 2 ≤ x := UInt8.le_iff_toNat_le.2 (by rw [hx]; exact Nat.le_add_right 2 n)
    have hpeer : r.peers[(Id.ofByte x : PeerId)]? = none := by
      rw [← place_eq_none, Option.eq_none_iff_forall_ne_some]
      intro at' hq
      rcases (hplace _ at').1 hq with ⟨y, -, hy, e, -⟩
      rw [← Id.ofByte_inj e, hx] at hy
      exact Nat.lt_irrefl _ hy
    have hip : r.virtualIps[p.address x]? = none := by
      rw [hw.addresses.none_iff]
      intro q peer hq e
      rcases (hplace q _).1 (place_eq_some.2 ⟨peer, hq, rfl, rfl⟩) with ⟨y, -, hy, -, hat⟩
      rw [← IpPrefix.address_inj (e.symm.trans (congrArg Prod.snd hat)), hx] at hy
      exact Nat.lt_irrefl _ hy
    refine ⟨r.joined roomId (.ofByte x) (p.address x) 0, hw.joined hroom hpeer hip,
      ⟨_, ExtTreeMap.getElem?_modify_self.trans (congrArg (Option.map _) hroom)⟩, fun q at' => ?_⟩
    rw [place_joined]
    by_cases e : q = .ofByte x
    · subst e
      rw [Function.update_self]
      constructor
      · intro h
        cases h
        exact ⟨x, hlo, by omega, rfl, rfl⟩
      · rintro ⟨y, -, -, e, rfl⟩
        rw [Id.ofByte_inj e]
    · rw [Function.update_of_ne e, hplace]
      constructor
      · rintro ⟨y, hy, hlt, rfl, rfl⟩
        exact ⟨y, hy, by omega, rfl, rfl⟩
      · rintro ⟨y, hy, hlt, rfl, rfl⟩
        have hne : y.toNat ≠ 2 + n := fun hy' => e (congrArg Id.ofByte (UInt8.toNat_inj.1 (hy'.trans hx.symm)))
        exact ⟨y, hy, by omega, rfl, rfl⟩

/-- The pool is made of the addresses that the server may hand out. -/
theorem IpPrefix.inPool_iff (p : IpPrefix) (ip : VirtualIp) :
    p.InPool ip ↔ ∃ r : RoomRouter, r.WF ∧ allocateVirtualIp r p = some ip := by
  constructor
  · rintro ⟨x, hlo, hhi, rfl⟩
    have hx := range_octet hlo hhi
    rcases exists_crowd p RoomRouter.Example.room RoomRouter.Example.code (x.toNat - 2) (by omega) with
      ⟨r, hw, -, hplace⟩
    have hheld : ∀ y : UInt8, r.IsHeld (p.address y) ↔ 2 ≤ y ∧ y < x := by
      intro y
      constructor
      · rintro ⟨q, peer, hq, hip⟩
        rcases (hplace q _).1 (place_eq_some.2 ⟨peer, hq, rfl, rfl⟩) with ⟨z, hz, hlt, -, hat⟩
        obtain rfl : y = z := address_inj (hip.symm.trans (congrArg Prod.snd hat))
        exact ⟨hz, UInt8.lt_iff_toNat_lt.2 (by omega)⟩
      · rintro ⟨hy, hlt⟩
        have hlt' := UInt8.lt_iff_toNat_lt.1 hlt
        rcases place_eq_some.1 ((hplace (.ofByte y) _).2 ⟨y, hy, by omega, rfl, rfl⟩) with ⟨peer, hp, -, hip⟩
        exact ⟨_, peer, hp, hip⟩
    refine ⟨r, hw, (allocateVirtualIp_eq_some hw).2
      ⟨x, hlo, hhi, rfl, fun h => ?_, fun y hy hlt => (hheld y).2 ⟨hy, hlt⟩⟩⟩
    exact UInt8.lt_irrefl x ((hheld x).1 h).2
  · rintro ⟨r, hw, hfree⟩
    rcases (allocateVirtualIp_eq_some hw).1 hfree with ⟨x, hlo, hhi, hx, -⟩
    exact ⟨x, hlo, hhi, hx⟩

/-- The server has none to hand out when peers have all of them. -/
theorem allocateVirtualIp_eq_none (hw : r.WF) : allocateVirtualIp r p = none ↔
    ∀ x : UInt8, 2 ≤ x → x ≤ 254 → r.IsHeld (p.address x) := by
  unfold allocateVirtualIp
  rw [List.find?_map, Option.map_eq_none_iff]
  simp only [List.find?_range'_eq_none, Function.comp_apply, Bool.not_eq_true', Bool.eq_false_iff, ne_eq,
    hw.available_iff, not_not]
  constructor
  · intro hall x hlo hhi
    have hx := range_octet hlo hhi
    simpa using hall x.toNat hx.1 hx.2
  · intro hall n hlo hhi
    exact hall _ (octet_range hhi hlo).1 (octet_range hhi hlo).2

end

/-- The addresses of the peers are from the pool. -/
def AppState.Pooled (s : AppState) : Prop :=
  ∀ (p : PeerId) (peer : PeerState), s.router.peers[p]? = some peer → s.virtualIpPrefix.InPool peer.virtualIp

/-- Peers have the addresses that the server hands out, and it hands out the lowest one that none of them has, as long
as there is one. -/
structure AppState.OnePool (s : AppState) : Prop where
  peers : s.Pooled
  lowest : ∀ ip : VirtualIp, allocateVirtualIp s.router s.virtualIpPrefix = some ip ↔
    ∃ x : UInt8, 2 ≤ x ∧ x ≤ 254 ∧ ip = s.virtualIpPrefix.address x ∧ ¬ s.router.IsHeld (s.virtualIpPrefix.address x) ∧
      ∀ y : UInt8, 2 ≤ y → y < x → s.router.IsHeld (s.virtualIpPrefix.address y)
  exhausted : allocateVirtualIp s.router s.virtualIpPrefix = none ↔
    ∀ x : UInt8, 2 ≤ x → x ≤ 254 → s.router.IsHeld (s.virtualIpPrefix.address x)

theorem AppState.Pooled.onePool {s : AppState} (hs : s.Pooled) (hw : s.router.WF) : s.OnePool where
  peers := hs
  lowest := fun _ => allocateVirtualIp_eq_some hw
  exhausted := allocateVirtualIp_eq_none hw

/-! ## Who is let in -/

/-- The room has space for another peer, so has the server, and neither the peer nor the address is registered. -/
structure RoomRouter.HasSpace (r : RoomRouter) (roomId : RoomId) (peerId : PeerId) (ip : VirtualIp) : Prop where
  room : ∃ room : RoomState, r.rooms[roomId]? = some room ∧ room.members.size < r.config.maxPeersPerRoom
  server : r.peers.size < r.config.maxTotalPeers
  peer : r.peers[peerId]? = none
  address : r.virtualIps[ip]? = none

theorem RoomRouter.joinRoom_ok_iff {r : RoomRouter} {roomId : RoomId} {peerId : PeerId} {ip : VirtualIp}
    {now : Instant} :
    (r.joinRoom roomId peerId ip now).1 = .ok () ↔ r.HasSpace roomId peerId ip := by
  constructor
  · intro h
    rcases joinRoom_does (o := .sorted) (r := r) roomId peerId ip now with ⟨e, he⟩ | ⟨r', -, heff⟩
    · rw [he] at h
      cases h
    · cases heff with
      | join hroom hsize htotal hpeer hip => exact ⟨⟨_, hroom, hsize⟩, htotal, hpeer, hip⟩
  · rintro ⟨⟨room, hroom, hsize⟩, htotal, hpeer, hip⟩
    have hin : r.rooms.contains roomId = true := ExtTreeMap.contains_eq_isSome_getElem?.trans (by rw [hroom]; rfl)
    unfold joinRoom
    rw [hroom]
    simp only [Nat.not_le.2 hsize, Nat.not_le.2 htotal, hin, contains_eq_false.2 hpeer, contains_eq_false.2 hip,
      Bool.not_true, Bool.false_eq_true, if_false]
    rfl

/-- `join_room` at the lock of the router, with a request that has passed its checks. -/
def admitPeer (base64 : String → Option (List UInt8)) (weather : Weather) (o : WalkOrder) (payload : JoinRoomRequest)
    (fresh : PeerId) (now : Instant) (roomCode : RoomCode) : Handler PeerResponse :=
  atomically .enterRoom (fun s => s.enterRoom roomCode (payload.peerId.getD fresh) payload.requestedVirtualIp now) fun
    | .error e => stop e
    | .ok peer => joinTunnel base64 weather o payload.wireguardPublicKey peer

theorem joinRoom_eq (base64 : String → Option (List UInt8)) (weather : Weather) (o : WalkOrder) (caller : Caller)
    (code : String) (payload : JoinRoomRequest) (fresh : PeerId) (now : Instant) :
    joinRoom base64 weather o caller code payload fresh now =
      atomically .requireBearer (fun s => s.checkJoin base64 caller code payload) fun
        | .error e => fail e
        | .ok roomCode => admitPeer base64 weather o payload fresh now roomCode := rfl

/-- A request for the broadcast address is let in: it is at the lock of the router, and there is space. -/
inductive AdmitsBroadcast (base64 : String → Option (List UInt8)) (requests : List Job) (m : RoomMove) : Prop
  | atLock {i : Nat} {q : Job} {caller : Caller} {code : String} {payload : JoinRoomRequest} {fresh : PeerId}
      {now : Instant} {roomCode : RoomCode} {roomId : RoomId} : m.event = .program i → requests[i]? = some q →
      q.request = .joinRoom caller code payload fresh now →
      m.before.programs[i]? = some (Job.plain (admitPeer base64 q.weather q.order payload fresh now roomCode)) →
      payload.requestedVirtualIp = some (m.before.shared.virtualIpPrefix.address 255) →
      m.before.shared.router.roomIdForCode roomCode = some roomId →
      m.before.shared.router.HasSpace roomId (payload.peerId.getD fresh) (m.before.shared.virtualIpPrefix.address 255) →
      AdmitsBroadcast base64 requests m

namespace AppState

variable {s : AppState} {ip : VirtualIp} {requested : Option VirtualIp}

/-- An address is chosen from the pool, unless it is the broadcast address that is asked for. -/
theorem chooseAddress_ok (hw : s.router.WF) (h : s.chooseAddress requested = .ok ip) :
    s.virtualIpPrefix.InPool ip ∨ requested = some ip ∧ ip = s.virtualIpPrefix.address 255 := by
  unfold chooseAddress at h
  split at h
  · split at h
    · cases h
    rename_i hoctets
    split at h
    · cases h
    cases h
    simp only [Bool.or_eq_true, Bool.not_eq_true', decide_eq_true_eq, not_or, Bool.not_eq_false,
      UInt8.not_lt] at hoctets
    rcases hoctets with ⟨hsubnet, hlo⟩
    have hip := IpPrefix.has_iff.1 hsubnet
    by_cases hhi : ip.address.d ≤ 254
    · exact Or.inl ⟨_, hlo, hhi, hip⟩
    · have hbroadcast : ip.address.d = 255 := by
        rw [UInt8.not_le] at hhi
        have hlt : 254 < ip.address.d.toNat := UInt8.lt_iff_toNat_lt.1 hhi
        have hmax := ip.address.d.toNat_lt
        exact UInt8.toNat_inj.1 (show ip.address.d.toNat = 255 by omega)
      exact Or.inr ⟨rfl, hbroadcast ▸ hip⟩
  · split at h
    · cases h
    rename_i hfree
    cases h
    exact Or.inl ((s.virtualIpPrefix.inPool_iff ip).2 ⟨_, hw, hfree⟩)

/-- The broadcast address can be had whenever it is free. -/
theorem chooseAddress_broadcast (h : s.router.virtualIps[s.virtualIpPrefix.address 255]? = none) :
    s.chooseAddress (some (s.virtualIpPrefix.address 255)) = .ok (s.virtualIpPrefix.address 255) := by
  have hhas : s.virtualIpPrefix.has (s.virtualIpPrefix.address 255) = true := IpPrefix.has_iff.2 rfl
  have havailable : s.router.isVirtualIpAvailable (s.virtualIpPrefix.address 255) = true := by
    unfold isVirtualIpAvailable
    rw [contains_eq_false.2 h]
    rfl
  unfold chooseAddress
  simp only [hhas, havailable]
  rfl

theorem enterRoom_virtualIpPrefix (s : AppState) (roomCode : RoomCode) (peerId : PeerId) (requested : Option VirtualIp)
    (now : Instant) : (s.enterRoom roomCode peerId requested now).2.virtualIpPrefix = s.virtualIpPrefix := by
  unfold enterRoom
  split
  · rfl
  split
  · rfl
  have hjoin : ∀ call : RoomRouter → Outcome Unit, (s.routed call).2.virtualIpPrefix = s.virtualIpPrefix := by
    intro call
    unfold routed
    split <;> rfl
  split <;> rename_i he
  · exact (congrArg (·.2.virtualIpPrefix) he).symm.trans (hjoin _)
  · split <;> exact (congrArg (·.2.virtualIpPrefix) he).symm.trans (hjoin _)

namespace Admits

variable {roomCode : RoomCode} {peerId : PeerId} {now : Instant} {roomId : RoomId}

theorem entered (h : s.Admits roomCode peerId requested now roomId ip) :
    (s.enterRoom roomCode peerId requested now).2.router = s.router.joined roomId peerId ip now := by
  rcases h.enterRoom with ⟨s', he, hstores⟩
  rw [he]
  exact congrArg Stores.router hstores

/-- Letting a peer in keeps to the pool if its address is from the pool. -/
theorem pooled (h : s.Admits roomCode peerId requested now roomId ip) (hs : s.Pooled)
    (hip : s.virtualIpPrefix.InPool ip) :
    (s.enterRoom roomCode peerId requested now).2.Pooled := by
  intro p peer hp
  rw [enterRoom_virtualIpPrefix]
  have hplace := place_eq_some.2 ⟨peer, hp, rfl, rfl⟩
  rw [h.entered, place_joined] at hplace
  by_cases e : p = peerId
  · subst e
    rw [Function.update_self] at hplace
    cases hplace
    exact hip
  · rw [Function.update_of_ne e] at hplace
    rcases place_eq_some.1 hplace with ⟨peer', hp', -, hip'⟩
    exact hip' ▸ hs p peer' hp'

theorem inPool (h : s.Admits roomCode peerId requested now roomId ip)
    (hpooled : (s.enterRoom roomCode peerId requested now).2.Pooled) : s.virtualIpPrefix.InPool ip := by
  unfold Pooled at hpooled
  rw [h.entered, enterRoom_virtualIpPrefix] at hpooled
  exact hpooled peerId _ joined_peer

end Admits

end AppState

/-! ## Calls that let nobody in -/

/-- The step lets nobody in and moves nobody. -/
structure Thins (s s' : AppState) : Prop where
  subnet : s'.virtualIpPrefix = s.virtualIpPrefix
  router : s.router.WF → s'.router.WF ∧
    ∀ (p : PeerId) (at' : RoomId × VirtualIp), s'.router.place p = some at' → s.router.place p = some at'

namespace Thins

variable {s s' : AppState}

theorem of_place (hsubnet : s'.virtualIpPrefix = s.virtualIpPrefix)
    (h : s.router.WF → s'.router.WF ∧ s'.router.place = s.router.place) : Thins s s' where
  subnet := hsubnet
  router := fun hw => ⟨(h hw).1, fun _ _ hp => (h hw).2 ▸ hp⟩

theorem of_router (hsubnet : s'.virtualIpPrefix = s.virtualIpPrefix) (hr : s'.router = s.router) : Thins s s' :=
  of_place hsubnet fun hw => by
    rw [hr]
    exact ⟨hw, rfl⟩

theorem refl (s : AppState) : Thins s s := of_router rfl rfl

theorem pooled (ht : Thins s s') (hw : s.router.WF) (hs : s.Pooled) : s'.Pooled := by
  intro p peer hp
  have hplace : s'.router.place p = some (peer.roomId, peer.virtualIp) := place_eq_some.2 ⟨peer, hp, rfl, rfl⟩
  rcases place_eq_some.1 ((ht.router hw).2 p _ hplace) with ⟨peer', hp', -, hip⟩
  rw [ht.subnet, ← hip]
  exact hs p peer' hp'

/-- A call to the router. -/
theorem routed {α : Type} {call : RoomRouter → Outcome α} (s : AppState)
    (h : s.router.WF → (call s.router).2.WF ∧
      ∀ (p : PeerId) (at' : RoomId × VirtualIp), (call s.router).2.place p = some at' → s.router.place p = some at') :
    Thins s (s.routed call).2 := by
  have he : (s.routed call).2 = { s with router := (call s.router).2 } := by
    unfold AppState.routed
    split <;> rename_i hcall <;> rw [hcall]
  rw [he]
  exact ⟨rfl, h⟩

theorem requireBearer (s : AppState) (caller : Caller) : Thins s (s.requireBearer caller).2 := by
  refine of_router (requireBearer_virtualIpPrefix s caller) ?_
  rcases requireBearer_leaves s caller with ⟨res, s', he, hs⟩
  rw [he]
  exact congrArg Stores.router hs

theorem execute {failure : Option SqlError} {statement : Database → Except SqlError Database} (s : AppState) :
    Thins s (s.execute failure statement).2 := by
  unfold AppState.execute
  split
  · exact .refl s
  · exact .refl s
  split
  · exact .refl s
  · exact of_router rfl rfl

theorem command {run : WireGuard → Except WireGuardError WireGuard} (s : AppState) : Thins s (s.command run).2 := by
  unfold AppState.command
  split
  · exact .refl s
  split
  · exact .refl s
  · exact of_router rfl rfl

theorem leaveRoom (s : AppState) (o : WalkOrder) (roomId : RoomId) (p : PeerId) :
    Thins s (s.routed fun r => RoomRouter.leaveRoom o r roomId p).2 := by
  refine routed s fun hw => ?_
  rcases leaveRoom_cases o hw roomId p with ⟨e, he⟩ | ⟨peer, hp, -, he⟩
  · rw [he]
    exact ⟨hw, fun _ _ h => h⟩
  rw [he]
  refine ⟨hw.without o hp, fun q at' hq => ?_⟩
  have hq' := (congrFun (place_without hw hp) q).symm.trans hq
  by_cases e : q = p
  · subst e
    rw [Function.update_self] at hq'
    cases hq'
  · rwa [Function.update_of_ne e] at hq'

theorem resumePeer (s : AppState) (roomId : RoomId) (p : PeerId) (now : Instant) :
    Thins s (s.routed fun r => r.resumePeer roomId p now).2 := by
  refine routed s fun hw => ?_
  rcases resumePeer_cases s.router roomId p now with ⟨e, he⟩ | ⟨snapshot, he⟩
  · rw [he]
    exact ⟨hw, fun _ _ h => h⟩
  · rw [he]
    exact ⟨hw.resuming p now, fun _ _ h => place_resuming ▸ h⟩

theorem resume (s : AppState) (roomCode : RoomCode) (p : Option PeerId) (now : Instant) :
    Thins s (s.resume roomCode p now).2 := by
  unfold AppState.resume
  split
  · exact .refl s
  · exact .refl s
  rename_i roomId p _
  have hresume := resumePeer s roomId p now
  split <;> rename_i he <;> rw [he] at hresume <;> exact hresume

theorem createRoom (s : AppState) (roomCode : RoomCode) (fresh : RoomId) : Thins s (s.createRoom roomCode fresh).2 := by
  have hcreate : Thins s (s.routed fun r => r.createRoom roomCode fresh).2 := by
    refine routed s fun hw => ?_
    show (RoomRouter.createRoom s.router roomCode fresh).2.WF ∧ _
    rcases createRoomWithId_does (o := .sorted) (r := s.router) fresh roomCode with ⟨e, he⟩ | ⟨r', he, heff⟩
    · rw [RoomRouter.createRoom, he]
      exact ⟨hw, fun _ _ h => h⟩
    · rw [RoomRouter.createRoom, he]
      cases heff with
      | createRoom _ hcode hroom => exact ⟨hw.addRoom hroom hcode, fun _ _ h => h⟩
  unfold AppState.createRoom
  split <;> rename_i he <;> rw [he] at hcreate <;> exact hcreate

theorem removeEmptyRoom (s : AppState) (roomId : RoomId) : Thins s (s.routed fun r => r.removeEmptyRoom roomId).2 := by
  refine routed s fun hw => ?_
  rcases removeEmptyRoom_does (o := .sorted) (r := s.router) roomId with ⟨e, he⟩ | ⟨r', he, heff⟩
  · rw [he]
    exact ⟨hw, fun _ _ h => h⟩
  · rw [he]
    cases heff with
    | removeRoom hroom hmembers hhosts => exact ⟨hw.dropRoom hroom hmembers hhosts, fun _ _ h => h⟩

theorem sweep (s : AppState) (o : WalkOrder) (now : Instant) : Thins s (s.sweep o now) :=
  ⟨rfl, fun hw => ⟨hw.expire o now, place_expire_sub o hw now⟩⟩

theorem suits : Suits Thins where
  refl := .refl
  requireBearer := .requireBearer
  execute := fun _ => .execute
  command := .command
  leaveRoom := .leaveRoom
  resume := .resume
  peerKeys := fun _ _ => of_router rfl rfl

end Thins

section

variable {base64 : String → Option (List UInt8)} {weather : Weather} {caller : Caller}

theorem createRoom_thins (roomCode : RoomCode) (x : RoomId) : (createRoom weather caller roomCode x).Keeps Thins := by
  refine keeps_atomically (fun s => .requireBearer s caller) fun res => ?_
  rcases res with e | _
  · exact keeps_done _
  refine keeps_atomically (fun s => .createRoom s roomCode x) fun res => ?_
  rcases res with e | snapshot
  · exact keeps_done _
  refine keeps_atomically .execute fun res => ?_
  rcases res with e | _
  · exact keeps_atomically (fun s => .removeEmptyRoom s _) fun _ => keeps_done _
  · exact keeps_done _

theorem deleteRoom_thins (code : String) : (deleteRoom weather caller code).Keeps Thins := by
  refine keeps_atomically Thins.suits.authorizeRoom fun res => ?_
  rcases res with e | roomCode
  · exact keeps_done _
  refine keeps_atomically .refl fun res => ?_
  rcases res with e | roomId
  · exact keeps_done _
  refine keeps_atomically .execute fun res => ?_
  rcases res with e | _
  · exact keeps_done _
  · exact keeps_atomically (fun s => .removeEmptyRoom s _) fun _ => keeps_done _

end

/-! ## Requests and sweeps -/

/-- How far a request to join has come; a step of any other lets nobody in. -/
inductive Admitting (base64 : String → Option (List UInt8)) (q : Job) : Handler Unit → Prop
  | elsewhere {p : Handler Unit} : p.Keeps Thins → Admitting base64 q p
  | checking {caller : Caller} {code : String} {payload : JoinRoomRequest} {fresh : PeerId} {now : Instant} :
      q.request = .joinRoom caller code payload fresh now →
      Admitting base64 q (Job.plain (joinRoom base64 q.weather q.order caller code payload fresh now))
  | atLock {caller : Caller} {code : String} {payload : JoinRoomRequest} {fresh : PeerId} {now : Instant}
      {roomCode : RoomCode} : q.request = .joinRoom caller code payload fresh now →
      Admitting base64 q (Job.plain (admitPeer base64 q.weather q.order payload fresh now roomCode))

/-- What requests and sweeps keep, whoever asks for which address. -/
structure Attending (base64 : String → Option (List UInt8)) (requests : List Job)
    (Q : Pool Call AppState (Answer Unit)) : Prop where
  router : Q.shared.router.WF
  programs : ∀ (i : Nat) (p : Handler Unit), Q.programs[i]? = some p → ∃ q, requests[i]? = some q ∧ Admitting base64 q p

section

variable {base64 : String → Option (List UInt8)} {config : RouterConfig} {requests : List Job} {s : AppState} {q : Job}
  {p : Handler Unit} {h : List RoomMove} {Q Q' : Pool Call AppState (Answer Unit)}

theorem Job.admitting (q : Job) : Admitting base64 q (q.program base64) := by
  unfold Job.program
  cases hq : q.request with
  | createRoom caller roomCode x => exact .elsewhere ((createRoom_thins roomCode x).map _)
  | joinRoom caller code payload fresh now => exact .checking hq
  | resumeRoom caller code payload now => exact .elsewhere (Thins.suits.resumeRoom.map _)
  | deletePeer caller code p => exact .elsewhere Thins.suits.deletePeer
  | deleteRoom caller code => exact .elsewhere (deleteRoom_thins code)

theorem Admitting.rest (h : Admitting base64 q p) (s : AppState) : Admitting base64 q (p.rest s) := by
  cases h with
  | elsewhere hp => exact .elsewhere (hp.rest s)
  | @checking caller code payload fresh now hq =>
    have hrest : (Job.plain (joinRoom base64 q.weather q.order caller code payload fresh now)).rest s =
        Job.plain (match (s.checkJoin base64 caller code payload).1 with
          | .error e => fail e
          | .ok roomCode => admitPeer base64 q.weather q.order payload fresh now roomCode) := by
      rw [joinRoom_eq]
      rfl
    rw [hrest]
    split
    · exact .elsewhere (keeps_done _)
    · exact .atLock hq
  | @atLock caller code payload fresh now roomCode hq =>
    have hrest : (Job.plain (admitPeer base64 q.weather q.order payload fresh now roomCode)).rest s =
        Job.plain (match (s.enterRoom roomCode (payload.peerId.getD fresh) payload.requestedVirtualIp now).1 with
          | .error e => stop e
          | .ok peer => joinTunnel base64 q.weather q.order payload.wireguardPublicKey peer) := rfl
    rw [hrest]
    refine .elsewhere (Prog.Keeps.map _ ?_)
    split
    · exact keeps_done _
    · exact Thins.suits.joinTunnel _ _

theorem Admitting.wf (h : Admitting base64 q p) (hw : s.router.WF) : (p.act s).router.WF := by
  cases h with
  | elsewhere hp => exact ((hp.act Thins.refl s).router hw).1
  | checking => exact ((Thins.suits.checkJoin s).router hw).1
  | atLock => exact ((Spares.enterRoom s _ _ _ _).router hw).1

theorem attending (hw : s.router.WF) : Attending base64 requests (underway base64 requests s) where
  router := hw
  programs := fun i p hp => by
    rcases Option.map_eq_some_iff.1 ((List.getElem?_map ..).symm.trans hp) with ⟨q, hi, rfl⟩
    exact ⟨q, hi, q.admitting⟩

theorem Attending.takes {turn : Pool.Turn (WalkOrder × Instant)} (hQ : Attending base64 requests Q)
    (ht : Pool.Takes sweeps Q turn Q') : Attending base64 requests Q' := by
  rcases ht with ⟨-, rfl⟩
  cases turn with
  | environment e => exact ⟨hQ.router.expire e.1 e.2, hQ.programs⟩
  | program i =>
    cases hp : Q.programs[i]? with
    | none =>
      have htake : Q.take sweeps (.program i) = Q := by
        unfold Pool.take
        simp only [hp]
      rw [htake]
      exact hQ
    | some p =>
      rcases hQ.programs i p hp with ⟨q, hi, hadmitting⟩
      rw [Pool.take_program hp]
      refine ⟨hadmitting.wf hQ.router, fun j p' hj => ?_⟩
      by_cases e : j = i
      · subst e
        have hlt : j < Q.programs.length := (List.getElem?_eq_some_iff.1 hp).1
        obtain rfl : p.rest Q.shared = p' := Option.some.inj ((List.getElem?_set_self hlt).symm.trans hj)
        exact ⟨q, hi, hadmitting.rest Q.shared⟩
      · exact hQ.programs j p' ((List.getElem?_set_ne (Ne.symm e)).symm.trans hj)

/-- A request at the lock of the router that does not get the broadcast address. -/
theorem pooled_atLock {i : Nat} {caller : Caller} {code : String} {payload : JoinRoomRequest} {fresh : PeerId}
    {now : Instant} {roomCode : RoomCode} (hw : Q.shared.router.WF) (hs : Q.shared.Pooled) (hi : requests[i]? = some q)
    (hq : q.request = .joinRoom caller code payload fresh now)
    (hp : Q.programs[i]? = some (Job.plain (admitPeer base64 q.weather q.order payload fresh now roomCode)))
    (hno : ¬ AdmitsBroadcast base64 requests ⟨Q, .program i, Q.take sweeps (.program i)⟩) :
    (Q.shared.enterRoom roomCode (payload.peerId.getD fresh) payload.requestedVirtualIp now).2.Pooled := by
  rcases enterRoom_cases Q.shared roomCode (payload.peerId.getD fresh) payload.requestedVirtualIp now with
    ⟨e, he⟩ | ⟨roomId, ip, hadmits⟩
  · rw [he]
    exact hs
  refine hadmits.pooled hs ?_
  rcases chooseAddress_ok hw hadmits.address with hpool | ⟨hasked, hip⟩
  · exact hpool
  · exact absurd (.atLock rfl hi hq hp (hip ▸ hasked) hadmits.room (hip ▸ joinRoom_ok_iff.1 hadmits.joins)) hno

theorem AdmitsBroadcast.not_pooled {turn : Pool.Turn (WalkOrder × Instant)}
    (hm : AdmitsBroadcast base64 requests ⟨Q, turn, Q.take sweeps turn⟩) : ¬ (Q.take sweeps turn).shared.Pooled := by
  rcases hm with ⟨he, hi, hq, hp, hasked, hroom, hspace⟩
  rename_i i q caller code payload fresh now roomCode roomId
  obtain rfl : turn = .program i := he
  have hadmits : Q.shared.Admits roomCode (payload.peerId.getD fresh) payload.requestedVirtualIp now roomId
      (Q.shared.virtualIpPrefix.address 255) :=
    ⟨hroom, by rw [hasked]; exact chooseAddress_broadcast hspace.address, joinRoom_ok_iff.2 hspace⟩
  rw [Pool.take_program hp]
  exact fun hpooled => IpPrefix.not_inPool (Or.inr (Or.inr rfl)) (hadmits.inPool hpooled)

/-- The addresses of the peers and those that the server hands out are from one pool throughout exactly the runs in
which no request for the broadcast address is let in. -/
theorem one_pool_iff (hr₀ : RoomRouter.Reachable config s.router) (hs : s.Pooled)
    (hr : Run (· = underway base64 requests s) (Pool.Takes sweeps) h Q) :
    (∀ m ∈ h, m.after.shared.OnePool) ↔ ∀ m ∈ h, ¬ AdmitsBroadcast base64 requests m := by
  have hattending : ∀ {h : List RoomMove} {Q : Pool Call AppState (Answer Unit)},
      Run (· = underway base64 requests s) (Pool.Takes sweeps) h Q → Attending base64 requests Q := fun hr =>
    hr.invariant (by rintro _ rfl; exact attending hr₀.wf) fun Q turn Q' hQ ht => hQ.takes ht
  refine hr.kept_iff (P := fun Q => Q.shared.OnePool) ?_ ?_ ?_
  · rintro _ rfl
    exact hs.onePool hr₀.wf
  · intro h Q turn Q' hr ht hpool hno
    have hQ := hattending hr
    refine Pooled.onePool ?_ (hQ.takes ht).router
    rcases ht with ⟨hready, rfl⟩
    cases turn with
    | environment e => exact (Thins.sweep Q.shared e.1 e.2).pooled hQ.router hpool.peers
    | program i =>
      cases hp : Q.programs[i]? with
      | none => simp [Pool.Ready, Pool.label, hp] at hready
      | some p =>
        have htake : Q.take sweeps (.program i) = ⟨p.act Q.shared, Q.programs.set i (p.rest Q.shared)⟩ :=
          Pool.take_program hp
        rw [htake]
        rcases hQ.programs i p hp with ⟨q, hi, hadmitting⟩
        cases hadmitting with
        | elsewhere hkeeps => exact (hkeeps.act Thins.refl Q.shared).pooled hQ.router hpool.peers
        | checking => exact (Thins.suits.checkJoin Q.shared).pooled hQ.router hpool.peers
        | atLock hq => exact pooled_atLock hQ.router hpool.peers hi hq hp hno
  · rintro h Q turn Q' - ⟨-, rfl⟩ hm hpool
    exact hm.not_pooled hpool.peers

end

/-! ## A peer at the broadcast address -/

namespace Example

open RoomRouter.Example (code room peer)

theorem fresh_pooled (token : String) (p : IpPrefix) : (AppState.fresh token p).Pooled := by
  intro q peer hq
  cases (ExtTreeMap.getElem?_empty ..).symm.trans hq

/-- A request to create a room, and one to join it at the broadcast address. -/
def shouting : List Job :=
  [⟨.sorted, {}, .createRoom caller code room⟩, ⟨.sorted, {}, .joinRoom caller "RMAAAA"
    { joining peer zeros with requestedVirtualIp := some (subnet.address 255) } peer 0⟩]

/-- The room is created before the peer joins; the latest turn first. -/
def shouted : List (Pool.Turn (WalkOrder × Instant)) := [1, 1, 0, 0, 0].map .program

def shoutedEnd : Pool Call AppState (Answer Unit) :=
  final (Pool.take sweeps) (underway base64 shouting (.fresh bearerToken subnet)) shouted

theorem shouted_run : Run (· = underway base64 shouting (.fresh bearerToken subnet)) (Pool.Takes sweeps)
    (replay (Pool.take sweeps) (underway base64 shouting (.fresh bearerToken subnet)) shouted) shoutedEnd :=
  @run_replay _ _ (fun P => P = underway base64 shouting (.fresh bearerToken subnet)) _ _ _ rfl _ (by decide +kernel)

theorem shoutedEnd_place : shoutedEnd.shared.router.place peer = some (room, subnet.address 255) := by decide +kernel

/-- Nobody asks for an address. -/
theorem founding_modest (m : RoomMove) : ¬ AdmitsBroadcast base64 (founding {}) m := by
  intro hm
  cases hm with
  | @atLock i _ _ _ _ _ _ _ _ _ hi hq _ hasked =>
    rcases i with _ | _ | i
    · cases hi
      cases hq
    · cases hi
      cases hq
      cases hasked
    · simp [founding] at hi

end Example

open Example in
theorem founded_one_pool : (final (Pool.take sweeps) (foundation {}) founded).shared.OnePool :=
  (one_pool_iff (.init rfl) (fresh_pooled bearerToken subnet) founded_run).2
    (fun m _ => founding_modest m) _ List.mem_cons_self

open Example RoomRouter.Example in
/-- A peer gets the broadcast address of the subnet. -/
theorem broadcast_admitted : ¬ ∀ (base64 : String → Option (List UInt8)) (config : RouterConfig) (requests : List Job)
    (s : AppState) (h : List RoomMove) (Q : Pool Call AppState (Answer Unit)), RoomRouter.Reachable config s.router →
      s.Pooled → Run (· = underway base64 requests s) (Pool.Takes sweeps) h Q → ∀ m ∈ h, m.after.shared.OnePool := by
  intro hall
  have hone := hall base64 {} shouting _ _ _ (.init rfl) (fresh_pooled bearerToken subnet) shouted_run _
    List.mem_cons_self
  have hpool : shoutedEnd.shared.Pooled := hone.peers
  rcases place_eq_some.1 shoutedEnd_place with ⟨p, hp, -, hip⟩
  have hin := hpool peer p hp
  rw [hip, show shoutedEnd.shared.virtualIpPrefix = subnet by decide +kernel] at hin
  exact IpPrefix.not_inPool (x := 255) (Or.inr (Or.inr rfl)) hin

end Civ6LanBridge

/-
Operations that add nothing to the router: what each of them leaves is part of what was there, and no gameplay session
loses the host session it is on without going itself.
-/
import Civ6LanBridge.Router.Census

namespace Civ6LanBridge

open Std FinMap Table

/-! ## Ledgers that lose rows -/

/-- Whom a gameplay session names. -/
def GameplayState.parties (session : GameplayState) : RoomId × PeerId × PeerId :=
  (session.roomId, session.clientPeerId, session.hostPeerId)

/-- The host session is the one that a gameplay session is on. -/
def GameplayState.On (session : GameplayState) (host : HostState) : Prop :=
  host.owner = (session.roomId, session.hostPeerId)

/-- Rooms, peers and sessions may go, but none comes or moves, and a gameplay session keeps the host session it is
on. -/
structure Ledger.Sheds (L L' : Ledger) : Prop where
  code : ∀ x, L'.code x ≠ none → L.code x ≠ none
  peer : ∀ p peer', L'.peer p = some peer' → ∃ peer, L.peer p = some peer ∧ peer.roomId = peer'.roomId
  host : ∀ k host', L'.host k = some host' → ∃ host, L.host k = some host ∧ host.owner = host'.owner
  gameplay : ∀ k session', L'.gameplay k = some session' → ∃ session, L.gameplay k = some session ∧
    session.parties = session'.parties ∧ ∀ id host, L.host id = some host → session.On host →
      ∃ host', L'.host id = some host' ∧ host'.owner = host.owner

namespace Ledger

variable {L L' L'' : Ledger}

theorem Sheds.refl (L : Ledger) : L.Sheds L where
  code := fun _ h => h
  peer := fun _ peer h => ⟨peer, h, rfl⟩
  host := fun _ host h => ⟨host, h, rfl⟩
  gameplay := fun _ session h => ⟨session, h, rfl, fun _ host hk _ => ⟨host, hk, rfl⟩⟩

theorem On_congr {session session' : GameplayState} {host host' : HostState} (hs : session'.parties = session.parties)
    (hh : host'.owner = host.owner) (h : session.On host) : session'.On host' := by
  have hroom : session'.roomId = session.roomId := congrArg Prod.fst hs
  have hpeer : session'.hostPeerId = session.hostPeerId := congrArg (·.2.2) hs
  show host'.owner = _
  rw [hh, hroom, hpeer]
  exact h

theorem Sheds.trans (h : L.Sheds L') (h' : L'.Sheds L'') : L.Sheds L'' where
  code := fun x hx => h.code x (h'.code x hx)
  peer := fun p peer hp => by
    rcases h'.peer p peer hp with ⟨peer', hp', hroom'⟩
    rcases h.peer p peer' hp' with ⟨peer'', hp'', hroom⟩
    exact ⟨peer'', hp'', hroom.trans hroom'⟩
  host := fun k host hk => by
    rcases h'.host k host hk with ⟨host', hk', howner'⟩
    rcases h.host k host' hk' with ⟨host'', hk'', howner⟩
    exact ⟨host'', hk'', howner.trans howner'⟩
  gameplay := fun k session hk => by
    rcases h'.gameplay k session hk with ⟨session', hk', hparties', hkept'⟩
    rcases h.gameplay k session' hk' with ⟨session'', hk'', hparties, hkept⟩
    refine ⟨session'', hk'', hparties.trans hparties', fun id host hid hon => ?_⟩
    rcases hkept id host hid hon with ⟨host', hid', howner⟩
    rcases hkept' id host' hid' (On_congr hparties.symm howner hon) with ⟨host'', hid'', howner'⟩
    exact ⟨host'', hid'', howner'.trans howner⟩

theorem eq_some_of_map {α β : Type} {f : α → β} {x y : Option α} {a : α} (h : x.map f = y.map f) (hx : x = some a) :
    ∃ b, y = some b ∧ f b = f a := by
  rw [hx] at h
  exact Option.map_eq_some_iff.1 h.symm

/-- Edits that move nobody. -/
theorem Sheds.of_same (hcode : L'.code = L.code) (hpeer : ∀ p, (L'.peer p).map (·.roomId) = (L.peer p).map (·.roomId))
    (hhost : ∀ k, (L'.host k).map HostState.owner = (L.host k).map HostState.owner)
    (hgameplay : ∀ k session', L'.gameplay k = some session' → ∃ session, L.gameplay k = some session ∧
      session.parties = session'.parties) : L.Sheds L' where
  code := fun x h => by rwa [← hcode]
  peer := fun p _ h => eq_some_of_map (hpeer p) h
  host := fun k _ h => eq_some_of_map (hhost k) h
  gameplay := fun k session' h => by
    rcases hgameplay k session' h with ⟨session, hk, hparties⟩
    exact ⟨session, hk, hparties, fun id _ hid _ => eq_some_of_map (hhost id).symm hid⟩

/-- Where host sessions go, the gameplay sessions on them go with them. -/
theorem Sheds.of_keep {P : HostState → Prop} {Q : GameplayState → Prop}
    (hcode : ∀ x, L'.code x ≠ none → L.code x ≠ none)
    (hpeer : ∀ p peer', L'.peer p = some peer' → ∃ peer, L.peer p = some peer ∧ peer.roomId = peer'.roomId)
    (hhost : L'.host = keep P L.host) (hgameplay : L'.gameplay = keep Q L.gameplay)
    (hkept : ∀ k session id host, L.gameplay k = some session → Q session → L.host id = some host →
      session.On host → P host) :
    L.Sheds L' where
  code := hcode
  peer := hpeer
  host := fun k host' h => by
    rw [hhost] at h
    exact ⟨host', (keep_eq_some.1 h).1, rfl⟩
  gameplay := fun k session h => by
    rw [hgameplay] at h
    rcases keep_eq_some.1 h with ⟨hk, hq⟩
    refine ⟨session, hk, rfl, fun id host hid hon => ⟨host, ?_, rfl⟩⟩
    rw [hhost]
    exact keep_eq_some.2 ⟨hid, hkept k session id host hk hq hid hon⟩

theorem sheds_endSessions (L : Ledger) (now : Instant) : L.Sheds (L.endSessions now) := by
  refine .of_keep (fun _ h => h) (fun _ peer h => ⟨peer, h, rfl⟩) rfl rfl fun k session id host _ hq hid hon => ?_
  by_contra hexpired
  exact hq.1 ⟨id, host, hid, Nat.not_lt.1 hexpired, congrArg Prod.snd hon, congrArg Prod.fst hon⟩

theorem sheds_suspend (L : Ledger) (D : PeerId → Prop) (now : Instant) : L.Sheds (L.suspend D now) := by
  refine .of_keep (fun _ h => h) (fun p peer' h => ?_) rfl rfl fun k session id host _ hq hid hon hd => ?_
  · exact suspend_peer h
  · rw [show host.peerId = session.hostPeerId from congrArg Prod.snd hon] at hd
    exact hq.2 hd

theorem sheds_dismiss (L : Ledger) (D : PeerId → Prop) : L.Sheds (L.dismiss D) := by
  refine .of_keep (fun _ h => h) (fun p peer' h => ?_) rfl rfl fun k session id host _ hq hid hon hd => ?_
  · exact ⟨peer', dismiss_peer h, rfl⟩
  · rw [show host.peerId = session.hostPeerId from congrArg Prod.snd hon] at hd
    exact hq.2 hd

theorem sheds_expire (L : Ledger) (config : RouterConfig) (now : Instant) : L.Sheds (L.expire config now) :=
  ((L.sheds_endSessions now).trans (sheds_suspend _ _ now)).trans (sheds_dismiss _ _)

end Ledger

/-! ## Operations of the router that add nothing -/

/-- The operations that bring in a room, a peer or a session. -/
def RouterOp.Adds : RouterOp → Prop
  | .createRoomWithId .. | .joinRoom .. | .restorePeer .. | .registerHost .. | .selectHost .. => True
  | _ => False

namespace RoomRouter

variable {r r' : RoomRouter} {o : WalkOrder} {now : Instant}

theorem map_modify {K V β : Type} [Ord K] [TransOrd K] [LawfulEqOrd K] {m : ExtTreeMap K V} {a : K}
    {f : V → V} {g : V → β} (hf : ∀ v, g (f v) = g v) (k : K) : ((m.modify a f)[k]?).map g = (m[k]?).map g := by
  by_cases e : a = k
  · subst e
    rw [ExtTreeMap.getElem?_modify_self, Option.map_map]
    exact congrArg (fun h => Option.map h m[a]?) (funext hf)
  · rw [getElem?_modify_ne e]

theorem sheds_removeHost (r : RoomRouter) (id : HostSessionId) : r.ledger.Sheds (r.removeHost id).ledger where
  code := fun x h => by rwa [show (r.removeHost id).ledger.code = _ from removeHosts_code [id] r] at h
  peer := fun p peer h => by
    change (r.removeHost id).peers[p]? = some peer at h
    rw [removeHost_peers] at h
    exact ⟨peer, h, rfl⟩
  host := fun k host h => ⟨host, erase_sub (show (r.hosts.erase id)[k]? = _ by rw [← removeHost_hosts]; exact h), rfl⟩
  gameplay := fun k session h => by
    have hl : (r.removeHost id).gameplay[k]? = _ := congrFun (removeHost_gameplay r id) k
    rw [show (r.removeHost id).gameplay[k]? = some session from h] at hl
    rcases keep_eq_some.1 hl.symm with ⟨hk, hnot⟩
    refine ⟨session, hk, rfl, fun id' host hid hon => ⟨host, ?_, rfl⟩⟩
    show (r.removeHost id).hosts[id']? = some host
    rw [removeHost_hosts]
    by_cases e : id = id'
    · subst e
      exact absurd ⟨host, hid, congrArg Prod.snd hon, congrArg Prod.fst hon⟩ hnot
    · rwa [getElem?_erase_ne e]

theorem sheds_editPeer {p : PeerId} {f : PeerState → PeerState} (hroom : ∀ peer, (f peer).roomId = peer.roomId) :
    r.ledger.Sheds (ledger { r with peers := r.peers.modify p f }) :=
  .of_same rfl (fun q => map_modify hroom q) (fun _ => rfl) fun _ session h => ⟨session, h, rfl⟩

theorem sheds_beat (r : RoomRouter) (id : HostSessionId) (now : Instant) : r.ledger.Sheds (r.beat id now).ledger :=
  .of_same rfl (fun _ => rfl) (@map_modify _ _ _ _ _ _ r.hosts id _ HostState.owner fun _ => rfl)
    fun _ session h => ⟨session, h, rfl⟩

theorem sheds_editGameplay {id : GameplaySessionId} {f : GameplayState → GameplayState}
    (hparties : ∀ session, (f session).parties = session.parties) :
    r.ledger.Sheds (ledger { r with gameplay := r.gameplay.modify id f }) :=
  .of_same rfl (fun _ => rfl) (fun _ => rfl) fun k _ hk =>
    Ledger.eq_some_of_map (show ((r.gameplay.modify id f)[k]?).map GameplayState.parties = _ from map_modify hparties k)
      hk

theorem sheds_discoveries (r : RoomRouter) (discoveries : ExtTreeMap DiscoveryRequestId DiscoveryState) :
    r.ledger.Sheds (ledger { r with discoveries }) :=
  .of_same rfl (fun _ => rfl) (fun _ => rfl) fun _ session h => ⟨session, h, rfl⟩

theorem sheds_dropRoom {x : RoomId} {room : RoomState} : r.ledger.Sheds
    (ledger { r with rooms := r.rooms.erase x, roomsByCode := r.roomsByCode.erase room.code }) where
  code := fun y h => by
    rcases Option.ne_none_iff_exists'.1 h with ⟨code, hcode⟩
    rcases Option.map_eq_some_iff.1 hcode with ⟨room', hroom, rfl⟩
    rw [show r.ledger.code y = _ from congrArg (Option.map RoomState.code) (erase_sub hroom)]
    exact Option.some_ne_none _
  peer := fun _ peer h => ⟨peer, h, rfl⟩
  host := fun _ host h => ⟨host, h, rfl⟩
  gameplay := fun _ session h => ⟨session, h, rfl, fun _ host hk _ => ⟨host, hk, rfl⟩⟩

theorem sheds_without (o : WalkOrder) (h : r.WF) {p : PeerId} {peer : PeerState} (hp : r.peers[p]? = some peer) :
    r.ledger.Sheds (without o r p peer).ledger := by
  rw [ledger_without o h hp]
  exact Ledger.sheds_dismiss _ _

theorem effect_sheds {op : RouterOp} (h : r.WF) (heff : Effect o r op r') (hadds : ¬ op.Adds) :
    r.ledger.Sheds r'.ledger := by
  induction heff with
  | createRoom | join | restore | host | hostAgain | rehost | select => exact absurd trivial hadds
  | removeRoom => exact sheds_dropRoom
  | leave hp => exact sheds_without o h hp
  | seen => exact sheds_editPeer fun _ => rfl
  | resume => exact sheds_editPeer fun peer => resumed_roomId peer _
  | beat => exact sheds_beat _ _ _
  | beatForRoom _ _ ih => exact ih id
  | unhost => exact sheds_removeHost _ _
  | discover => exact sheds_discoveries _ _
  | discoverAgain => exact sheds_discoveries _ _
  | play => exact sheds_editGameplay fun _ => rfl
  | endGameplay => exact .of_same rfl (fun _ => rfl) (fun _ => rfl) fun k session' hk => ⟨session', erase_sub hk, rfl⟩
  | dispatchDiscovery _ _ ih => exact ih id
  | dispatchResponse => exact .refl _
  | dispatchGameplay _ ih => exact ih id
  | expire =>
    rw [ledger_expire o h]
    exact Ledger.sheds_expire _ _ _

end RoomRouter

end Civ6LanBridge

/-
The tables of sessions follow the router, one request at a time: what the router has in sessions has its row, so that no
statement on a session is refused by a constraint or finds no row.
-/
import Civ6LanBridge.Router.Shedding
import Civ6LanBridge.Server.SessionDb

namespace Civ6LanBridge

open Std FinMap Table Bytes Prog RoomRouter

/-! ## Tables that cover a ledger -/

def HostSessionRow.owner (row : HostSessionRow) : RoomId × PeerId := (row.roomId, row.peerId)

/-- Every room and every peer has its row. -/
structure Database.Covers (db : Database) (L : Ledger) : Prop where
  room : ∀ x, L.code x ≠ none → db.rooms[x]? ≠ none
  peer : ∀ p peer, L.peer p = some peer → ∃ row : PeerRow, db.peers[p]? = some row ∧ row.roomId = peer.roomId

/-- Every host session has its row, and every gameplay session has its row, which names the host session it is on. -/
structure SessionTables.Covers (t : SessionTables) (L : Ledger) : Prop where
  host : ∀ k host, L.host k = some host → ∃ row : HostSessionRow, t.hosts[k]? = some row ∧ row.owner = host.owner
  gameplay : ∀ k session, L.gameplay k = some session → ∃ (row : GameplaySessionRow) (host : HostState),
    t.gameplay[k]? = some row ∧ row.roomId = session.roomId ∧ row.clientPeerId = session.clientPeerId ∧
      L.host row.hostSessionId = some host ∧ session.On host

namespace Database

variable {db : Database} {L L' : Ledger} {r : RoomRouter}

theorem Covers.sheds (h : db.Covers L) (hs : L.Sheds L') : db.Covers L' where
  room := fun x hx => h.room x (hs.code x hx)
  peer := fun p peer hp => by
    rcases hs.peer p peer hp with ⟨peer', hp', hroom⟩
    rcases h.peer p peer' hp' with ⟨row, hrow, hrow'⟩
    exact ⟨row, hrow, hrow'.trans hroom⟩

/-- The foreign keys that a row for a peer has. -/
theorem Covers.keys (h : db.Covers r.ledger) (hw : r.WF) {p : PeerId} {peer : PeerState}
    (hp : r.peers[p]? = some peer) :
    db.rooms.contains peer.roomId = true ∧ db.peers.contains p = true := by
  rcases h.peer p peer hp with ⟨row, hrow, -⟩
  rcases hw.members.home p peer hp with ⟨room, hroom⟩
  have hr := h.room peer.roomId (by
    show (r.rooms[peer.roomId]?).map RoomState.code ≠ none
    rw [hroom]
    exact Option.some_ne_none _)
  refine ⟨?_, ?_⟩
  · rwa [ExtTreeMap.contains_eq_isSome_getElem?, Option.isSome_iff_ne_none]
  · rw [ExtTreeMap.contains_eq_isSome_getElem?, hrow]
    rfl

end Database

namespace SessionTables

variable {t t' : SessionTables} {L L' : Ledger} {r : RoomRouter} {db : Database}

theorem Covers.sheds (h : t.Covers L) (hs : L.Sheds L') : t.Covers L' where
  host := fun k host hk => by
    rcases hs.host k host hk with ⟨host', hk', howner⟩
    rcases h.host k host' hk' with ⟨row, hrow, hrow'⟩
    exact ⟨row, hrow, hrow'.trans howner⟩
  gameplay := fun k session hk => by
    rcases hs.gameplay k session hk with ⟨session', hk', hparties, hkept⟩
    rcases h.gameplay k session' hk' with ⟨row, host, hrow, hroom, hclient, hhost, hon⟩
    rcases hkept row.hostSessionId host hhost hon with ⟨host', hhost', howner⟩
    refine ⟨row, host', hrow, hroom.trans (congrArg Prod.fst hparties),
      hclient.trans (congrArg (·.2.1) hparties), hhost', ?_⟩
    exact Ledger.On_congr hparties.symm howner hon

/-- Rows may go as long as those stay that the ledger needs. -/
theorem Covers.thin (h : t.Covers L)
    (hhost : ∀ k host row, L.host k = some host → t.hosts[k]? = some row → row.owner = host.owner →
      t'.hosts[k]? = some row)
    (hgameplay : ∀ k session row, L.gameplay k = some session → t.gameplay[k]? = some row →
      row.roomId = session.roomId →
      row.clientPeerId = session.clientPeerId → t'.hosts.contains row.hostSessionId = true →
        t'.gameplay[k]? = some row) :
    t'.Covers L where
  host := fun k host hk => by
    rcases h.host k host hk with ⟨row, hrow, howner⟩
    exact ⟨row, hhost k host row hk hrow howner, howner⟩
  gameplay := fun k session hk => by
    rcases h.gameplay k session hk with ⟨row, host, hrow, hroom, hclient, hid, hon⟩
    rcases h.host row.hostSessionId host hid with ⟨hostRow, hhostRow, howner⟩
    refine ⟨row, host, hgameplay k session row hk hrow hroom hclient ?_, hroom, hclient, hid, hon⟩
    rw [ExtTreeMap.contains_eq_isSome_getElem?, hhost _ host hostRow hid hhostRow howner]
    rfl

theorem cascadeHosts_gameplay {k : GameplaySessionId} {row : GameplaySessionRow} (hrow : t.gameplay[k]? = some row)
    (hhost : t.hosts.contains row.hostSessionId = true) : t.cascadeHosts.gameplay[k]? = some row :=
  getElem?_filter_eq_some.2 ⟨hrow, hhost⟩

/-- Deleting rooms and peers that the router does not have costs no row that is needed. -/
theorem Covers.cascade (h : t.Covers r.ledger) (hw : r.WF) (hdb : db.Covers r.ledger) :
    (t.cascade db).Covers r.ledger := by
  refine h.thin (fun k host row hk hrow howner => ?_) fun k session row hk hrow hroom hclient hhost => ?_
  · rcases hw.hostPeer k host hk with ⟨peer, hp, hsits⟩
    rcases hdb.keys hw hp with ⟨hroom, hpeer⟩
    have hrowRoom : row.roomId = peer.roomId := (congrArg Prod.fst howner).trans hsits.1.symm
    have hrowPeer : row.peerId = host.peerId := congrArg Prod.snd howner
    refine getElem?_filter_eq_some.2 ⟨hrow, ?_⟩
    rw [hrowRoom, hrowPeer, hroom, hpeer]
    rfl
  · rcases hw.gameplayClient k session hk with ⟨peer, hp, hsits⟩
    rcases hdb.keys hw hp with ⟨hpeerRoom, hpeer⟩
    refine cascadeHosts_gameplay (getElem?_filter_eq_some.2 ⟨hrow, ?_⟩) hhost
    rw [hroom, hclient, ← hsits.1, hpeerRoom, hpeer]
    rfl

/-! ## The statements on the tables -/

/-- A row that is put in the place of one of the same room and peer. -/
theorem Covers.editHost (h : t.Covers L) {id : HostSessionId} {f : HostSessionRow → HostSessionRow}
    (hown : ∀ row, (f row).owner = row.owner) : Covers { t with hosts := t.hosts.modify id f } L where
  host := fun k host hk => by
    rcases h.host k host hk with ⟨row, hrow, howner⟩
    rcases Ledger.eq_some_of_map (map_modify hown k).symm hrow with ⟨row', hrow', howner'⟩
    exact ⟨row', hrow', howner'.trans howner⟩
  gameplay := h.gameplay

theorem Covers.insertHost (h : t.Covers L) {id : HostSessionId} {host : HostState} {row : HostSessionRow}
    (hid : L.host id = some host) (hown : row.owner = host.owner) :
    Covers { t with hosts := t.hosts.insert id row } L where
  host := fun k host' hk => by
    by_cases e : id = k
    · subst e
      rw [hid] at hk
      cases hk
      exact ⟨row, ExtTreeMap.getElem?_insert_self, hown⟩
    · rcases h.host k host' hk with ⟨row', hrow', howner⟩
      exact ⟨row', (getElem?_insert_ne e).trans hrow', howner⟩
  gameplay := h.gameplay

variable {roomId : RoomId} {p : PeerId} {id : HostSessionId} (ttlSeconds : Nat) (now : Timestamp)

/-- An upsert for the only host session of a peer goes through, unless a row that is not its own has its key. -/
theorem Covers.upsertHost (h : t.Covers L) (hroom : db.rooms.contains roomId = true)
    (hpeer : db.peers.contains p = true) (honly : ∀ k host, L.host k = some host → host.owner = (roomId, p) → k = id)
    (hkey : (∃ host, L.host id = some host ∧ host.owner = (roomId, p)) ∨ t.hosts[id]? = none) :
    ∃ t', t.upsertHost db roomId p id ttlSeconds now = .ok t' ∧ t'.Covers L ∧
      ∃ row, t'.hosts[id]? = some row ∧ row.owner = (roomId, p) := by
  unfold SessionTables.upsertHost
  extract_lets others
  have hothers : others.Covers L := by
    refine h.thin (fun k host row hk hrow howner => ?_) fun k session row hk hrow _ _ hhost =>
      cascadeHosts_gameplay hrow hhost
    refine getElem?_filter_eq_some.2 ⟨hrow, ?_⟩
    by_cases he : row.owner = (roomId, p)
    · simp [honly k host hk (howner.symm.trans he)]
    · simp only [HostSessionRow.owner, Prod.mk.injEq] at he
      simp only [Bool.not_eq_true', Bool.and_eq_false_iff, decide_eq_false_iff_not]
      tauto
  have hsub : ∀ (k : HostSessionId) (row : HostSessionRow), others.hosts[k]? = some row → t.hosts[k]? = some row ∧
      (row.owner = (roomId, p) → k = id) := fun k row hk => by
    rcases getElem?_filter_eq_some.1 hk with ⟨hrow, hp⟩
    refine ⟨hrow, fun he => ?_⟩
    simp only [HostSessionRow.owner, Prod.mk.injEq] at he
    simpa [he] using hp
  split
  · rename_i hcontains
    rw [ExtTreeMap.contains_eq_isSome_getElem?, Option.isSome_iff_exists] at hcontains
    rcases hcontains with ⟨row, hrow⟩
    -- the row with the key is the one of the session
    have howner : row.owner = (roomId, p) := by
      rcases hkey with ⟨host, hk, hown⟩ | hnone
      · rcases hothers.host id host hk with ⟨row', hrow', howner⟩
        rw [hrow] at hrow'
        cases hrow'
        exact howner.trans hown
      · rw [(hsub id row hrow).1] at hnone
        cases hnone
    refine ⟨_, rfl, hothers.editHost fun _ => rfl,
      { row with lastHeartbeatAt := now, expiresAt := now + ttlSeconds }, ?_, howner⟩
    show (others.hosts.modify id _)[id]? = _
    rw [ExtTreeMap.getElem?_modify_self, hrow]
    rfl
  rename_i hcontains
  rw [Bool.not_eq_true, contains_eq_false] at hcontains
  have hfree : anyRow (fun row : HostSessionRow => row.roomId = roomId && row.peerId = p) others.hosts = false := by
    rw [Bool.eq_false_iff]
    intro hany
    rcases anyRow_eq_true.1 hany with ⟨k, row, hk, he⟩
    simp only [Bool.and_eq_true, decide_eq_true_eq] at he
    rw [(hsub k row hk).2 (Prod.ext he.1 he.2), hcontains] at hk
    cases hk
  rw [if_neg (by rw [hfree]; exact Bool.false_ne_true), hroom, hpeer]
  refine ⟨_, rfl, ?_, _, ExtTreeMap.getElem?_insert_self, rfl⟩
  refine hothers.thin (fun k host row hk hrow _ => ?_) fun _ _ _ _ hrow _ _ _ => hrow
  show (others.hosts.insert id _)[k]? = some row
  by_cases e : id = k
  · subst e
    rw [hrow] at hcontains
    cases hcontains
  · rwa [getElem?_insert_ne e]

/-- A heartbeat for a host session that the router has finds its row. -/
theorem Covers.heartbeatHost (h : t.Covers L) {host : HostState} (hid : L.host id = some host)
    (hown : host.owner = (roomId, p)) :
    ∃ t', t.heartbeatHost roomId p id ttlSeconds now = .ok t' ∧ t'.Covers L := by
  rcases h.host id host hid with ⟨row, hrow, howner⟩
  have he : row.roomId = roomId ∧ row.peerId = p := Prod.mk.inj (howner.trans hown)
  unfold SessionTables.heartbeatHost
  rw [hrow]
  dsimp only
  rw [if_pos he]
  exact ⟨_, rfl, h.insertHost hid ((Prod.ext he.1 he.2).trans hown.symm)⟩

/-- A new gameplay session on a host session that the router has meets every constraint. -/
theorem Covers.insertGameplay (h : t.Covers L) {k : GameplaySessionId} {host : HostState} (hnew : t.gameplay[k]? = none)
    (hroom : db.rooms.contains roomId = true) (hpeer : db.peers.contains p = true) (hid : L.host id = some host) :
    ∃ t', t.insertGameplay db roomId p id k ttlSeconds now = .ok t' ∧ t'.Covers L ∧
      ∃ row, t'.gameplay[k]? = some row ∧ row.roomId = roomId ∧ row.clientPeerId = p ∧ row.hostSessionId = id := by
  rcases h.host id host hid with ⟨row, hrow, -⟩
  have hhost : t.hosts.contains id = true := by
    rw [ExtTreeMap.contains_eq_isSome_getElem?, hrow]
    rfl
  unfold SessionTables.insertGameplay
  rw [contains_eq_false.2 hnew, hroom, hpeer, hhost]
  refine ⟨_, rfl, ?_, _, ExtTreeMap.getElem?_insert_self, rfl, rfl, rfl⟩
  refine h.thin (fun _ _ _ _ hrow _ => hrow) fun k' session row _ hrow _ _ _ => ?_
  show (t.gameplay.insert k _)[k']? = some row
  by_cases e : k = k'
  · subst e
    rw [hrow] at hnew
    cases hnew
  · rwa [getElem?_insert_ne e]

/-- Deleting the row of a host session costs no row that is needed once the router has not the session either. -/
theorem Covers.deleteHost (h : t.Covers L) (hnone : L.host id = none) : (t.deleteHost id).Covers L := by
  refine h.thin (fun k host row hk hrow _ => ?_) fun k session row _ hrow _ _ hhost => cascadeHosts_gameplay hrow hhost
  show (t.hosts.erase id)[k]? = some row
  by_cases e : id = k
  · subst e
    rw [hk] at hnone
    cases hnone
  · rwa [getElem?_erase_ne e]

end SessionTables

/-! ## Registering in the router -/

namespace RoomRouter

variable {r r' : RoomRouter} {roomId : RoomId} {p : PeerId} {now : Instant} {fresh id : HostSessionId}
  {t : SessionTables}

/-- The router without a host session of a peer that is in a room: the peer is about to get one. -/
structure Hostless (r r₀ : RoomRouter) (roomId : RoomId) (p : PeerId) (peer : PeerState) (fresh : HostSessionId) :
    Prop where
  sheds : r.ledger.Sheds r₀.ledger
  peers : r₀.peers = r.peers
  code : r₀.ledger.code = r.ledger.code
  registered : r.peers[p]? = some peer
  room : peer.roomId = roomId
  new : r₀.hosts[fresh]? = none
  others : ∀ (k : HostSessionId) (host : HostState), r₀.hosts[k]? = some host → host.owner ≠ (roomId, p)

/-- A registration fails, or is a heartbeat of the peer's session, or makes a session for a peer that has none, or none
any more. -/
theorem registerHost_outcomes (h : r.WF) (hf : r.hosts[fresh]? = none) (roomId : RoomId) (p : PeerId) (now : Instant) :
    (∃ e, r.registerHost roomId p now fresh = .err e r) ∨
      (∃ id host, r.hosts[id]? = some host ∧ host.owner = (roomId, p) ∧
        r.registerHost roomId p now fresh = .ok id (r.beat id now)) ∨
      ∃ r₀ peer, Hostless r r₀ roomId p peer fresh ∧ (hosted r₀ p peer now fresh).WF ∧
        r.registerHost roomId p now fresh = .ok fresh (hosted r₀ p peer now fresh) := by
  cases hb : r.hostByPeer[(roomId, p)]? with
  | some old =>
    rcases registerHost_owned h hb now fresh with ⟨host, peer, hh, rfl, rfl, hp, hroom, ⟨-, he⟩ | ⟨-, he⟩⟩
    · exact Or.inr (Or.inl ⟨old, host, hh, rfl, he⟩)
    · refine Or.inr (Or.inr ⟨r.removeHost old, peer, ?_, h.rehosted hh hp hroom hf now, he⟩)
      refine ⟨sheds_removeHost r old, removeHost_peers r old, removeHosts_code [old] r, hp, hroom, ?_,
        fun k host' hk howner => ?_⟩
      · rw [removeHost_hosts, ExtTreeMap.getElem?_erase, hf, ite_self]
      · rw [removeHost_hosts] at hk
        by_cases e : old = k
        · subst e
          rw [ExtTreeMap.getElem?_erase_self] at hk
          cases hk
        · rw [getElem?_erase_ne e] at hk
          exact e (h.host_unique hh hk (congrArg Prod.snd howner).symm)
  | none =>
    unfold registerHost
    rcases memberState_cases r roomId p with ⟨e, he⟩ | ⟨peer, room, hp, rfl, hr, he⟩
    · rw [he]
      exact Or.inl ⟨e, rfl⟩
    rw [he, hb]
    dsimp only
    rcases addHost_cases r hr p now fresh with ⟨-, he⟩ | ⟨hlt, he⟩
    · rw [he]
      exact Or.inl ⟨_, rfl⟩
    · rw [he]
      refine Or.inr (Or.inr ⟨r, peer, ⟨.refl _, rfl, rfl, hp, rfl, hf, fun k host hk howner => ?_⟩,
        h.hosted hp hr hb hlt hf now, rfl⟩)
      have hfind : r.hostByPeer[host.owner]? = some k := h.owners.find hk
      rw [howner, hb] at hfind
      cases hfind

theorem hosted_code (r : RoomRouter) (p : PeerId) (peer : PeerState) (now : Instant) (fresh : HostSessionId) :
    (hosted r p peer now fresh).ledger.code = r.ledger.code := funext fun _ => code_modify fun _ => rfl

theorem Hostless.keeps {r₀ : RoomRouter} {peer : PeerState} (h : Hostless r r₀ roomId p peer fresh) {db : Database}
    (hdb : db.Covers r.ledger) : db.Covers (hosted r₀ p peer now fresh).ledger where
  room := fun x hx => hdb.room x (by rwa [hosted_code, h.code] at hx)
  peer := fun q peer' hq => hdb.peer q peer' (by
    change r₀.peers[q]? = some peer' at hq
    rwa [h.peers] at hq)

/-- The tables that cover the router without the session cover it with the session once they have its row. -/
theorem Hostless.covers {r₀ : RoomRouter} {peer : PeerState} (h : Hostless r r₀ roomId p peer fresh)
    (ht : t.Covers r₀.ledger)
    {row : HostSessionRow} (hrow : t.hosts[fresh]? = some row) (howner : row.owner = (roomId, p)) :
    t.Covers (hosted r₀ p peer now fresh).ledger where
  host := fun k host hk => by
    change (r₀.hosts.insert fresh _)[k]? = some host at hk
    by_cases e : fresh = k
    · subst e
      rw [ExtTreeMap.getElem?_insert_self] at hk
      cases hk
      exact ⟨row, hrow, by rw [howner, ← h.room]; rfl⟩
    · rw [getElem?_insert_ne e] at hk
      exact ht.host k host hk
  gameplay := fun k session hk => by
    rcases ht.gameplay k session hk with ⟨row, host, hrow, hroom, hclient, hid, hon⟩
    refine ⟨row, host, hrow, hroom, hclient, ?_, hon⟩
    show (r₀.hosts.insert fresh _)[row.hostSessionId]? = some host
    have hne : fresh ≠ row.hostSessionId := fun e => by
      rw [← e, show r₀.ledger.host fresh = none from h.new] at hid
      cases hid
    rwa [getElem?_insert_ne hne]

/-- What is left when the session is unregistered again. -/
theorem Hostless.undone {r₀ : RoomRouter} {peer : PeerState} (h : Hostless r r₀ roomId p peer fresh) :
    r.ledger.Sheds ((hosted r₀ p peer now fresh).removeHost fresh).ledger := by
  refine h.sheds.trans ⟨fun x hx => ?_, fun q peer' hq => ⟨peer', ?_, rfl⟩, fun k host hk => ⟨host, ?_, rfl⟩,
    fun k session hk => ?_⟩
  · rw [← hosted_code]
    exact (sheds_removeHost _ fresh).code x hx
  · change (RoomRouter.removeHost _ fresh).peers[q]? = some peer' at hq
    rw [removeHost_peers] at hq
    exact hq
  · change (RoomRouter.removeHost _ fresh).hosts[k]? = some host at hk
    rw [removeHost_hosts] at hk
    change ((r₀.hosts.insert fresh _).erase fresh)[k]? = some host at hk
    by_cases e : fresh = k
    · subst e
      rw [ExtTreeMap.getElem?_erase_self] at hk
      cases hk
    · rwa [getElem?_erase_ne e, getElem?_insert_ne e] at hk
  · rcases (sheds_removeHost _ fresh).gameplay k session hk with ⟨session', hk', hparties, hkept⟩
    refine ⟨session', hk', hparties, fun id host hid hon => hkept id host ?_ hon⟩
    show (r₀.hosts.insert fresh _)[id]? = some host
    have hne : fresh ≠ id := fun e => by
      rw [← e, show r₀.ledger.host fresh = none from h.new] at hid
      cases hid
    rwa [getElem?_insert_ne hne]

end RoomRouter

/-! ## Requests on sessions -/

/-- The database has what the router has. -/
structure SessionServer.Recorded (S : SessionServer) : Prop where
  wf : S.app.router.WF
  database : ∃ db, S.app.database = some db ∧ db.Covers S.app.router.ledger
  tables : S.tables.Covers S.app.router.ledger

/-- The error is the client's. -/
def ApiError.OfClient (e : ApiError) : Prop := ∀ m, e ≠ .internal m

/-- The server is not at fault: it does not panic, and no error that it answers is internal. -/
def Faultless {α : Type} (answer : Answer α) : Prop :=
  ∀ f, answer = .error f → ∃ e : ApiError, f = .error e ∧ e.OfClient

theorem Faultless.ok {α : Type} (a : α) : Faultless (.ok a) := fun _ h => by cases h

theorem Faultless.error {α : Type} {e : ApiError} (h : e.OfClient) : Faultless (.error (.error e) : Answer α) :=
  fun _ he => by
  cases he
  exact ⟨e, rfl, h⟩

theorem Faultless.map {α : Type} {answer : Answer α} (h : Faultless answer) : Faultless (answer.map fun _ => ()) := by
  cases answer with
  | error f =>
    rcases h f rfl with ⟨e, rfl, hclient⟩
    exact .error hclient
  | ok a => exact .ok ()

theorem ofRouter_ofClient (e : RouterError) : (ApiError.ofRouter e).OfClient := by
  intro m
  cases e <;> simp [ApiError.ofRouter]

theorem AppState.authorizeRoom_ofClient {s s' : AppState} {caller : Caller} {code : String} {e : ApiError}
    (h : s.authorizeRoom caller code = (.error e, s')) : e.OfClient := by
  unfold AppState.authorizeRoom at h
  split at h
  · rename_i hb
    cases h
    rcases requireBearer_error hb with rfl | rfl <;> exact nofun
  · unfold AppState.parseRoomCode at h
    cases hp : RoomCode.parse code with
    | error _ =>
      rw [hp] at h
      cases h
      exact nofun
    | ok _ =>
      rw [hp] at h
      cases h

theorem AppState.roomOfCode_ofClient {s : AppState} {roomCode : RoomCode} {e : ApiError}
    (h : s.roomOfCode roomCode = .error e) :
    e.OfClient := by
  unfold AppState.roomOfCode at h
  split at h
  · cases h
    exact nofun
  · cases h

theorem AppState.findHost_ofClient {s : AppState} {roomCode : RoomCode} {id : HostSessionId} {e : ApiError}
    (h : s.findHost roomCode id = .error e) : e.OfClient := by
  unfold AppState.findHost at h
  split at h
  · rename_i hroom
    cases h
    exact roomOfCode_ofClient hroom
  split at h
  · cases h
    exact ofRouter_ofClient _
  split at h
  · cases h
    exact nofun
  · cases h

namespace SessionServer

variable {S : SessionServer} {s : AppState} {r' : RoomRouter}

theorem Recorded.of_router (h : S.Recorded) (hw : r'.WF) (hs : S.app.router.ledger.Sheds r'.ledger) (hr : s.router = r')
    (hdb : s.database = S.app.database) : SessionServer.Recorded { S with app := s } := by
  rcases h.database with ⟨db, hdatabase, hcovers⟩
  subst hr
  exact ⟨hw, ⟨db, hdb.trans hdatabase, hcovers.sheds hs⟩, h.tables.sheds hs⟩

theorem Recorded.of_stores (h : S.Recorded) (hs : s.stores = S.app.stores) :
    SessionServer.Recorded { S with app := s } :=
  h.of_router h.wf (.refl _) (congrArg Stores.router hs) (congrArg Stores.database hs)

theorem calling_eq {α : Type} {call : AppState → α × AppState} {a : α} (h : call S.app = (a, s)) :
    S.calling call = (a, { S with app := s }) := by
  unfold calling
  rw [h]

/-- What is to be shown of a call to the router for the write that follows it: that the statement goes through, and that
taking the call back leaves what is recorded. -/
structure Storable {γ : Type} (S : SessionServer)
    (statement : Database → SessionTables → Except SessionSqlError SessionTables)
    (undo : Prog SessionCall SessionServer (Answer γ)) (r' : RoomRouter) : Prop where
  wf : r'.WF
  keeps : ∀ db : Database, db.Covers S.app.router.ledger → db.Covers r'.ledger
  goes : ∀ db : Database, db.Covers S.app.router.ledger → ∃ t', statement db S.tables = .ok t' ∧ t'.Covers r'.ledger
  undone : ∀ s : AppState, s.router = r' → s.database = S.app.database → (undo.run { S with app := s }).2.Recorded

variable {α β γ : Type} {call : RoomId → RoomRouter → Outcome α} {snapshot : RoomRouter → α → Except RouterError β}
  {failure : Option SqlError} {caller : Caller} {code : String} {doing store : SessionCall}
  {statement : RoomId → β → Database → SessionTables → Except SessionSqlError SessionTables} {response : β → γ}
  {undo : β → Prog SessionCall SessionServer (Answer γ)}

/-- The write of a session. -/
theorem Recorded.execute (h : S.Recorded) (failure : Option SqlError)
    {statement : Database → SessionTables → Except SessionSqlError SessionTables}
    {undo : Prog SessionCall SessionServer (Answer γ)} (hs : Storable S statement undo r') (hr : s.router = r')
    (hdb : s.database = S.app.database) :
    (failure = none ∧ ∃ t', SessionServer.execute { S with app := s } failure statement =
      (.ok (), { app := s, tables := t' }) ∧
        SessionServer.Recorded { app := s, tables := t' }) ∨
      ∃ e, failure = some e ∧
        SessionServer.execute { S with app := s } failure statement = (.error (.failed e), { S with app := s }) := by
  rcases h.database with ⟨db, hdatabase, hcovers⟩
  have hdb' : s.database = some db := hdb.trans hdatabase
  unfold SessionServer.execute
  dsimp only
  rw [hdb']
  cases failure with
  | some e => exact Or.inr ⟨e, rfl, rfl⟩
  | none =>
    rcases hs.goes db hcovers with ⟨t', ht', hcovers'⟩
    dsimp only
    rw [ht']
    subst hr
    exact Or.inl ⟨rfl, t', rfl, hs.wf, ⟨db, hdb', hs.keeps db hcovers⟩, hcovers'⟩

theorem within_cases (s : AppState) (roomCode : RoomCode) (hcall : ∀ roomId,
      (∃ e, call roomId s.router = .err e s.router) ∨
        ∃ a b r', call roomId s.router = .ok a r' ∧ snapshot r' a = .ok b) :
    (∃ e : ApiError, s.within roomCode call snapshot = (.error (.error e), s) ∧ e.OfClient) ∨
      ∃ roomId a b r', call roomId s.router = .ok a r' ∧ snapshot r' a = .ok b ∧
        s.within roomCode call snapshot = (.ok (roomId, b), { s with router := r' }) := by
  unfold AppState.within AppState.inRoom
  split
  · rename_i e he
    exact Or.inl ⟨e, rfl, AppState.roomOfCode_ofClient he⟩
  rename_i roomId _
  rcases hcall roomId with ⟨e, he⟩ | ⟨a, b, r', hok, hsnap⟩
  · rw [AppState.routed_err s _ (e := e) (by dsimp only; rw [he]; rfl)]
    exact Or.inl ⟨_, rfl, ofRouter_ofClient e⟩
  · refine Or.inr ⟨roomId, a, b, r', hok, hsnap, ?_⟩
    unfold AppState.routed
    simp only [hok, Outcome.map, Outcome.ok, hsnap]
    rfl

/-- A request that has run to its end leaves what is recorded; the server is not at fault unless the statement fails by
itself; and what the request does is what it does where of the statement only this failure is known. -/
structure Stored {γ : Type} (failure : Option SqlError) (x : Answer γ × SessionServer) (y : Answer γ × AppState) :
    Prop where
  recorded : x.2.Recorded
  faultless : failure = none → Faultless x.1
  answer : x.1 = y.1
  app : x.2.app = y.2

theorem inRoom_eq (s : AppState) (roomCode : RoomCode) : s.inRoom roomCode call snapshot =
    ((s.within roomCode call snapshot).1.map Prod.snd, (s.within roomCode call snapshot).2) := by
  unfold AppState.within AppState.inRoom AppState.routed
  cases s.roomOfCode roomCode with
  | error e => rfl
  | ok roomId =>
    dsimp only
    rcases call roomId s.router with ⟨e | a, r'⟩
    · rfl
    · simp only [Outcome.map]
      cases snapshot r' a <;> rfl

theorem writeSession_none {db : Database} (hdb : s.database = some db) : s.writeSession none = (.ok (), s) := by
  unfold AppState.writeSession AppState.execute
  simp only [hdb]
  rw [← hdb]

theorem writeSession_some {db : Database} (hdb : s.database = some db) (e : SqlError) :
    s.writeSession (some e) = (.error e, s) := by
  unfold AppState.writeSession AppState.execute
  simp only [hdb]

/-- A request that writes what it has done. -/
theorem Recorded.storing (h : S.Recorded) {plain : β → SessionHandler γ} (hcall : ∀ roomId,
      (∃ e, call roomId S.app.router = .err e S.app.router) ∨
        ∃ a b r', call roomId S.app.router = .ok a r' ∧ snapshot r' a = .ok b ∧
          Storable S (statement roomId b) (undo b) r')
    (hplain : ∀ b S', (((undo b).run S').1, ((undo b).run S').2.app) = (plain b).run S'.app) :
    Stored failure ((storing failure caller code doing store call snapshot statement response undo).run S)
      ((writing failure caller code doing store (fun roomCode s => s.inRoom roomCode call snapshot) response plain).run
        S.app) := by
  obtain ⟨y, hy⟩ : ∃ y,
    (writing failure caller code doing store (fun roomCode s => s.inRoom roomCode call snapshot) response
    plain).run S.app = y := ⟨_, rfl⟩
  rw [hy]
  unfold writing at hy
  unfold Civ6LanBridge.storing
  rcases AppState.authorizeRoom_leaves S.app caller code with ⟨res, s₁, hb, hs₁⟩
  have hr₁ : s₁.router = S.app.router := congrArg Stores.router hs₁
  have hdb₁ : s₁.database = S.app.database := congrArg Stores.database hs₁
  rw [run_atomically, hb] at hy
  rw [run_atomically, calling_eq hb]
  cases res with
  | error e =>
    subst hy
    exact ⟨h.of_stores hs₁, fun _ => .error (AppState.authorizeRoom_ofClient hb), rfl, rfl⟩
  | ok roomCode =>
    dsimp only at hy ⊢
    have hrouted : ∀ roomId, (∃ e, call roomId s₁.router = .err e s₁.router) ∨
        ∃ a b r', call roomId s₁.router = .ok a r' ∧ snapshot r' a = .ok b := by
      rw [hr₁]
      exact fun roomId => (hcall roomId).imp id fun ⟨a, b, r', hok, hsnap, _⟩ => ⟨a, b, r', hok, hsnap⟩
    rw [run_atomically, inRoom_eq] at hy
    rw [run_atomically]
    rcases within_cases s₁ roomCode hrouted with ⟨e, he, hclient⟩ | ⟨roomId, a, b, r', hok, hsnap, he⟩
    · rw [he] at hy
      rw [calling_eq he]
      subst hy
      exact ⟨h.of_stores hs₁, fun _ => .error hclient, rfl, rfl⟩
    rw [he] at hy
    rw [calling_eq he]
    simp only [Except.map] at hy
    dsimp only
    rw [hr₁] at hok
    have hs : Storable S (statement roomId b) (undo b) r' := by
      rcases hcall roomId with ⟨e, he⟩ | ⟨a', b', r'', hok', hsnap', hs⟩
      · rw [hok] at he
        cases he
      · rw [hok] at hok'
        cases hok'
        rw [hsnap] at hsnap'
        cases hsnap'
        exact hs
    rcases h.database with ⟨db, hdb, -⟩
    have hdb₂ : ({ s₁ with router := r' } : AppState).database = S.app.database := hdb₁
    rw [run_atomically] at hy ⊢
    rcases h.execute failure hs rfl hdb₂ with ⟨hnone, t', ht', hrecorded⟩ | ⟨e, hfails, he'⟩
    · rw [hnone, writeSession_none (hdb₂.trans hdb)] at hy
      rw [ht']
      subst hy
      exact ⟨hrecorded, fun _ => .ok _, rfl, rfl⟩
    · rw [hfails, writeSession_some (hdb₂.trans hdb)] at hy
      rw [he']
      subst hy
      have hundo := hplain b { S with app := { s₁ with router := r' } }
      exact ⟨hs.undone _ rfl hdb₂, fun hnone => absurd (hnone.symm.trans hfails) nofun, congrArg Prod.fst hundo,
        congrArg Prod.snd hundo⟩

/-! ## The four handlers -/

theorem heartbeat_outcomes (r : RoomRouter) (roomId : RoomId) (p : PeerId) (id : HostSessionId) (now : Instant) :
    (∃ e, r.heartbeatHostForRoom roomId p id now = .err e r) ∨
      ∃ host, r.hosts[id]? = some host ∧ host.owner = (roomId, p) ∧
        r.heartbeatHostForRoom roomId p id now = .ok () (r.beat id now) := by
  unfold RoomRouter.heartbeatHostForRoom RoomRouter.heartbeatHost
  split
  · exact Or.inl ⟨_, rfl⟩
  rename_i host hh
  split
  · exact Or.inl ⟨_, rfl⟩
  rename_i hsame
  rw [not_or, not_not, not_not] at hsame
  dsimp only
  split
  · exact Or.inl ⟨_, rfl⟩
  · exact Or.inr ⟨host, hh, Prod.ext hsame.1 hsame.2, rfl⟩

/-- A selection fails, or makes a session of the peer on the host session. -/
theorem selectHost_outcomes {r : RoomRouter} (h : r.WF) (roomId : RoomId) (p : PeerId) (id : HostSessionId)
    (now : Instant) {fresh : GameplaySessionId} (hf : r.gameplay[fresh]? = none) :
    (∃ e, r.selectHost roomId p id now fresh = .err e r) ∨
      ∃ (peer : PeerState) (host : HostState) (session : GameplayState), r.peers[p]? = some peer ∧
        peer.roomId = roomId ∧ r.hosts[id]? = some host ∧ session.parties = (roomId, p, host.peerId) ∧ session.On host ∧
        RoomRouter.WF { r with gameplay := r.gameplay.insert fresh session } ∧
        r.selectHost roomId p id now fresh = .ok fresh { r with gameplay := r.gameplay.insert fresh session } := by
  unfold RoomRouter.selectHost
  rcases memberState_cases r roomId p with ⟨e, he⟩ | ⟨peer, room, hp, rfl, hr, he⟩
  · rw [he]
    exact Or.inl ⟨e, rfl⟩
  rw [he]
  dsimp only
  split
  · exact Or.inl ⟨_, rfl⟩
  rename_i host hh
  split
  · exact Or.inl ⟨_, rfl⟩
  rename_i hroom
  split
  · exact Or.inl ⟨_, rfl⟩
  rename_i hlive
  split
  · exact Or.inl ⟨_, rfl⟩
  rename_i hspace
  rw [not_not] at hroom
  have heff := @Effect.select .sorted r p peer id host now fresh hp hh hroom (Nat.not_le.1 hlive) (Nat.not_le.1 hspace)
  have hw := h.effect (show RouterOp.Fresh r (.selectHost peer.roomId p id now fresh) from hf) heff
  refine Or.inr ⟨peer, host, _, hp, rfl, hh, rfl, ?_, hw, rfl⟩
  exact congrArg (·, host.peerId) hroom

theorem unregisterHost_snd (r : RoomRouter) (id : HostSessionId) : (r.unregisterHost id).2 = r.removeHost id := by
  unfold RoomRouter.unregisterHost
  split
  · rfl
  · rename_i hnot
    rw [removeHost_none (contains_eq_false.1 (Bool.eq_false_iff.2 hnot))]
    rfl

theorem removeGameplaySession_snd (r : RoomRouter) (id : GameplaySessionId) :
    (r.removeGameplaySession id).2 = { r with gameplay := r.gameplay.erase id } := by
  unfold RoomRouter.removeGameplaySession
  split
  · rfl
  · rename_i hnot
    have hnone := contains_eq_false.1 (Bool.eq_false_iff.2 hnot)
    refine RoomRouter.ext rfl rfl rfl rfl rfl rfl rfl rfl (ExtTreeMap.ext_getElem? fun k => ?_)
    by_cases e : id = k
    · subst e
      rw [ExtTreeMap.getElem?_erase_self]
      exact hnone
    · exact (getElem?_erase_ne e).symm

theorem routed_database {α : Type} (s : AppState) (call : RoomRouter → Outcome α) :
    (s.routed call).2.database = s.database := by
  unfold AppState.routed
  split <;> rfl

/-- A call to the router that takes something away. -/
theorem Recorded.routed {α : Type} (h : S.Recorded) {call : RoomRouter → Outcome α} (hr : s.router = r')
    (hdb : s.database = S.app.database) (hw : (call r').2.WF) (hs : S.app.router.ledger.Sheds (call r').2.ledger) :
    SessionServer.Recorded { S with app := (s.routed call).2 } := by
  subst hr
  exact h.of_router hw hs (routed_router s call) ((routed_database s call).trans hdb)

theorem hostSnapshot_ok {r : RoomRouter} {id : HostSessionId} {host : HostState} (hh : r.hosts[id]? = some host) :
    ∃ snapshot, r.hostSnapshot id = .ok snapshot ∧ snapshot.hostSessionId = id := by
  unfold RoomRouter.hostSnapshot
  rw [hh]
  exact ⟨_, rfl, rfl⟩

theorem gameplaySnapshot_ok {r : RoomRouter} {id : GameplaySessionId} {session : GameplayState}
    (hs : r.gameplay[id]? = some session) :
    ∃ snapshot, r.gameplaySnapshot id = .ok snapshot ∧ snapshot.sessionId = id := by
  unfold RoomRouter.gameplaySnapshot
  rw [hs]
  exact ⟨_, rfl, rfl⟩

theorem beat_host {r : RoomRouter} {id : HostSessionId} {host : HostState} (hh : r.hosts[id]? = some host)
    (now : Instant) :
    ∃ host', (r.beat id now).hosts[id]? = some host' ∧ host'.owner = host.owner := by
  refine ⟨{ host with lastHeartbeat := now, expiresAt := now + r.config.hostTtl }, ?_, rfl⟩
  show (r.hosts.modify id _)[id]? = _
  rw [ExtTreeMap.getElem?_modify_self, hh]
  rfl

theorem Recorded.registerHost (h : S.Recorded) {payload : RegisterHostRequest} {fresh : HostSessionId}
    (hf : S.app.router.hosts[fresh]? = none) (ht : S.tables.hosts[fresh]? = none) :
    Stored failure ((registerHostRow failure caller code now dbNow payload fresh).run S)
      ((Civ6LanBridge.registerHost failure caller code now payload fresh).run S.app) := by
  refine h.storing (fun roomId => ?_) fun _ _ => rfl
  rcases registerHost_outcomes h.wf hf roomId payload.peerId now with ⟨e, he⟩ | ⟨id, host, hh, hown, he⟩
    | ⟨r₀, peer, hless, hw, he⟩
  · exact Or.inl ⟨e, he⟩
  · rcases beat_host hh now with ⟨host', hh', hown'⟩
    rcases hostSnapshot_ok hh' with ⟨snapshot, hsnap, hid⟩
    rcases h.wf.hostPeer id host hh with ⟨peer, hp, hsits⟩
    have hroom : peer.roomId = roomId := hsits.1.trans (congrArg Prod.fst hown)
    have hpeer : host.peerId = payload.peerId := congrArg Prod.snd hown
    refine Or.inr ⟨id, snapshot, _, he, hsnap, h.wf.beat id now, fun db hdb => hdb.sheds (sheds_beat _ id now),
      fun db hdb => ?_, fun s hr hdb => ?_⟩
    · have honly : ∀ k host'', (S.app.router.beat id now).ledger.host k = some host'' →
        host''.owner = (roomId, payload.peerId) →
          k = id := fun k host'' hk hown'' =>
        (h.wf.beat id now).host_unique hk hh' (congrArg Prod.snd (hown''.trans (hown'.trans hown).symm))
      rw [hpeer] at hp
      rcases hdb.keys h.wf hp with ⟨hkroom, hkpeer⟩
      rw [hroom] at hkroom
      rw [hid]
      rcases (h.tables.sheds (sheds_beat _ id now)).upsertHost 15 dbNow hkroom hkpeer honly
        (Or.inl ⟨host', hh', hown'.trans hown⟩) with
        ⟨t', ht', hcovers, -⟩
      exact ⟨t', ht', hcovers⟩
    · refine h.routed hr hdb ?_ ?_
      · rw [unregisterHost_snd]
        exact (h.wf.beat id now).removeHost _
      · rw [unregisterHost_snd]
        exact (sheds_beat _ id now).trans (sheds_removeHost _ _)
  · rcases hostSnapshot_ok (r := hosted r₀ payload.peerId peer now fresh) ExtTreeMap.getElem?_insert_self with
      ⟨snapshot, hsnap, hid⟩
    refine Or.inr ⟨fresh, snapshot, _, he, hsnap, hw, fun db hdb => hless.keeps hdb, fun db hdb => ?_,
      fun s hr hdb => ?_⟩
    · rcases hdb.keys h.wf hless.registered with ⟨hkroom, hkpeer⟩
      rw [hless.room] at hkroom
      rw [hid]
      rcases (h.tables.sheds hless.sheds).upsertHost 15 dbNow hkroom hkpeer
        (fun k host hk hown => absurd hown (hless.others k host hk))
        (Or.inr ht) with ⟨t', ht', hcovers, row, hrow, hown⟩
      exact ⟨t', ht', hless.covers hcovers hrow hown⟩
    · refine h.routed hr hdb ?_ ?_
      · rw [unregisterHost_snd]
        exact hw.removeHost _
      · rw [unregisterHost_snd, hid]
        exact hless.undone

theorem Recorded.heartbeatHost (h : S.Recorded) {payload : HeartbeatRequest} :
    Stored failure ((heartbeatHostRow failure caller code now dbNow payload).run S)
      ((Civ6LanBridge.heartbeatHost failure caller code now payload).run S.app) := by
  refine h.storing (fun roomId => ?_) fun _ _ => rfl
  rcases heartbeat_outcomes S.app.router roomId payload.peerId payload.hostSessionId now with ⟨e, he⟩
    | ⟨host, hh, hown, he⟩
  · exact Or.inl ⟨e, he⟩
  rcases beat_host hh now with ⟨host', hh', hown'⟩
  rcases hostSnapshot_ok hh' with ⟨snapshot, hsnap, -⟩
  have hsheds := sheds_beat S.app.router payload.hostSessionId now
  refine Or.inr ⟨(), snapshot, _, he, hsnap, h.wf.beat _ now, fun db hdb => hdb.sheds hsheds, fun db _ => ?_,
    fun s hr hdb => h.of_router (h.wf.beat _ now) hsheds hr hdb⟩
  exact (h.tables.sheds hsheds).heartbeatHost 15 dbNow hh' (hown'.trans hown)

theorem Recorded.createGameplaySession (h : S.Recorded) {payload : CreateGameplayRequest} {fresh : GameplaySessionId}
    (hf : S.app.router.gameplay[fresh]? = none) (ht : S.tables.gameplay[fresh]? = none) :
    Stored failure ((createGameplaySessionRow failure caller code now dbNow payload fresh).run S)
      ((Civ6LanBridge.createGameplaySession failure caller code now payload fresh).run S.app) := by
  refine h.storing (fun roomId => ?_) fun _ _ => rfl
  rcases selectHost_outcomes h.wf roomId payload.clientPeerId payload.hostSessionId now hf with
    ⟨e, he⟩ | ⟨peer, host, session, hp, hroom, hh, hparties, hon, hw, he⟩
  · exact Or.inl ⟨e, he⟩
  rcases gameplaySnapshot_ok (r := { S.app.router with gameplay := S.app.router.gameplay.insert fresh session })
    ExtTreeMap.getElem?_insert_self with ⟨snapshot, hsnap, hid⟩
  refine Or.inr ⟨fresh, snapshot, _, he, hsnap, hw, fun db hdb => ⟨hdb.room, hdb.peer⟩, fun db hdb => ?_,
    fun s hr hdb => ?_⟩
  · rcases hdb.keys h.wf hp with ⟨hkroom, hkpeer⟩
    rw [hroom] at hkroom
    rw [hid]
    rcases h.tables.insertGameplay 30 dbNow ht hkroom hkpeer hh with
      ⟨t', ht', hcovers, row, hrow, hrowRoom, hrowClient, hrowHost⟩
    refine ⟨t', ht', hcovers.host, fun k session' hk => ?_⟩
    change (S.app.router.gameplay.insert fresh session)[k]? = some session' at hk
    by_cases e : fresh = k
    · subst e
      rw [ExtTreeMap.getElem?_insert_self] at hk
      cases hk
      refine ⟨row, host, hrow, hrowRoom.trans (congrArg Prod.fst hparties).symm,
        hrowClient.trans (congrArg (·.2.1) hparties).symm, ?_, hon⟩
      rw [hrowHost]
      exact hh
    · rw [getElem?_insert_ne e] at hk
      exact hcovers.gameplay k session' hk
  · refine h.routed hr hdb ?_ ?_
    · unfold RoomRouter.removeGameplaySession
      split
      · exact hw.thinGameplay fun _ _ => erase_sub
      · exact hw
    · rw [hid, removeGameplaySession_snd]
      refine .of_same rfl (fun _ => rfl) (fun _ => rfl) fun k session' hk => ⟨session', ?_, rfl⟩
      change ((S.app.router.gameplay.insert fresh session).erase fresh)[k]? = some session' at hk
      by_cases e : fresh = k
      · subst e
        rw [ExtTreeMap.getElem?_erase_self] at hk
        cases hk
      · rwa [getElem?_erase_ne e, getElem?_insert_ne e] at hk

theorem routed_faultless {r : RoomRouter} (op : RouterOp) (h : r.WF) (hr : s.router = r)
    {call : RoomRouter → Outcome Unit} (hcall : call r = op.exec .sorted r) : Faultless (s.routed call).1 := by
  subst hr
  unfold AppState.routed
  rcases exec_does .sorted h op with ⟨e, he⟩ | ⟨r', he, -⟩
  · rw [hcall, he]
    exact .error (ofRouter_ofClient e)
  · rw [hcall, he]
    exact .ok ()

theorem Recorded.deleteHost (h : S.Recorded) {id : HostSessionId} :
    Stored failure ((deleteHostRow failure caller code id).run S)
    ((Civ6LanBridge.deleteHost failure caller code id).run S.app) := by
  obtain ⟨y, hy⟩ : ∃ y, (Civ6LanBridge.deleteHost failure caller code id).run S.app = y := ⟨_, rfl⟩
  rw [hy]
  unfold Civ6LanBridge.deleteHost at hy
  unfold deleteHostRow
  rcases AppState.authorizeRoom_leaves S.app caller code with ⟨res, s₁, hb, hs₁⟩
  have h₁ := h.of_stores hs₁
  rw [run_atomically, hb] at hy
  rw [run_atomically, calling_eq hb]
  cases res with
  | error e =>
    subst hy
    exact ⟨h₁, fun _ => .error (AppState.authorizeRoom_ofClient hb), rfl, rfl⟩
  | ok roomCode =>
    dsimp only at hy ⊢
    rw [run_atomically] at hy ⊢
    cases hfind : s₁.findHost roomCode id with
    | error e =>
      rw [hfind] at hy
      subst hy
      exact ⟨h₁, fun _ => .error (AppState.findHost_ofClient hfind), rfl, rfl⟩
    | ok _ =>
      rw [hfind] at hy
      dsimp only at hy ⊢
      rw [run_atomically] at hy ⊢
      rcases h.database with ⟨db, hdb, -⟩
      have hdb₁ : s₁.database = some db := (congrArg Stores.database hs₁).trans hdb
      unfold SessionServer.execute
      dsimp only
      rw [hdb₁]
      cases failure with
      | some e =>
        rw [writeSession_some hdb₁] at hy
        subst hy
        exact ⟨h₁, nofun, rfl, rfl⟩
      | none =>
        rw [writeSession_none hdb₁] at hy
        subst hy
        -- the row goes first, and the session itself next
        have hsheds := sheds_removeHost s₁.router id
        have hremoved : (s₁.routed fun r => r.unregisterHost id).2.router = s₁.router.removeHost id := by
          rw [routed_router, unregisterHost_snd]
        have hgone : (s₁.router.removeHost id).hosts[id]? = none := by
          rw [removeHost_hosts, ExtTreeMap.getElem?_erase_self]
        rcases h₁.of_router (h₁.wf.removeHost id) hsheds hremoved (routed_database _ _) with ⟨hw, hcovers, htables⟩
        refine ⟨⟨hw, hcovers, htables.deleteHost (by rw [hremoved]; exact hgone)⟩, fun _ => ?_, rfl, rfl⟩
        exact routed_faultless (.unregisterHost id) h₁.wf rfl rfl

theorem Stored.map {x : Answer γ × SessionServer} {y : Answer γ × AppState} (h : Stored failure x y) :
    Stored failure (x.map (·.map fun _ => ()) id) (y.map (·.map fun _ => ()) id) :=
  ⟨h.recorded, fun hnone => (h.faultless hnone).map, congrArg (·.map fun _ => ()) h.answer, h.app⟩

end SessionServer

end Civ6LanBridge

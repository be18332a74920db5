/-
Reading the tables back after a restart: `Database::load_state` and `AppState::restore_persisted_state`.
PostgreSQL gives an address back with its netmask, which the reader does not take, so only tables
without peers survive.
-/
import Civ6LanBridge.Router.Membership
import Civ6LanBridge.Router.Runs
import Civ6LanBridge.Server.Api

namespace Civ6LanBridge

open Std FinMap Bytes

/-! ## Addresses as text -/

namespace Ipv4Addr

/-- An octet in decimal: one to three digits, without a leading zero. -/
def parseOctet (digits : List Char) : Option UInt8 :=
  if digits = [] ∨ 3 < digits.length ∨ ¬ digits.all Char.isDigit ∨
    (1 < digits.length ∧ digits.head? = some '0') then none
  else
    let n := digits.foldl (fun n c => 10 * n + (c.toNat - '0'.toNat)) 0
    if n < 256 then some (UInt8.ofNat n) else none

/-- `str::parse::<Ipv4Addr>`: four octets with dots between them, and nothing else. -/
def parse (text : String) : Option Ipv4Addr :=
  match text.toList.splitOn '.' with
  | [a, b, c, d] =>
    match parseOctet a, parseOctet b, parseOctet c, parseOctet d with
    | some a, some b, some c, some d => some { a, b, c, d }
    | _, _, _, _ => none
  | _ => none

theorem parseOctet_digits {digits : List Char} {n : UInt8} (h : parseOctet digits = some n) :
    ∀ c ∈ digits, c.isDigit = true := by
  unfold parseOctet at h
  split at h
  · cases h
  rename_i hok
  simp only [not_or, not_not] at hok
  exact List.all_eq_true.1 hok.2.2.1

/-- What is read as an address consists of digits and dots. -/
theorem parse_chars {text : String} {ip : Ipv4Addr} (h : parse text = some ip) :
    ∀ c ∈ text.toList, c = '.' ∨ c.isDigit = true := by
  unfold parse at h
  split at h
  swap
  · cases h
  rename_i a b c d hsplit
  split at h
  swap
  · cases h
  rename_i ha hb hc hd
  have htext : text.toList = ['.'].intercalate [a, b, c, d] := by rw [← hsplit, List.intercalate_splitOn]
  have hdigits : ∀ digits ∈ [a, b, c, d], ∀ c ∈ digits, c.isDigit = true := by
    simp only [List.forall_mem_cons, List.not_mem_nil, false_implies, implies_true, and_true]
    exact ⟨parseOctet_digits ha, parseOctet_digits hb, parseOctet_digits hc, parseOctet_digits hd⟩
  intro x hx
  simp only [htext, List.intercalate_cons_cons, List.intercalate_singleton, List.mem_append, List.mem_singleton,
    or_assoc] at hx
  rcases hx with hx | rfl | hx | rfl | hx | rfl | hx
  · exact Or.inr (hdigits a (by simp) x hx)
  · exact Or.inl rfl
  · exact Or.inr (hdigits b (by simp) x hx)
  · exact Or.inl rfl
  · exact Or.inr (hdigits c (by simp) x hx)
  · exact Or.inl rfl
  · exact Or.inr (hdigits d (by simp) x hx)

/-- An octet that is written is read back. -/
theorem parseOctet_toString (n : UInt8) : parseOctet (ToString.toString n).toList = some n := by
  have h : ∀ k < 256, parseOctet (ToString.toString (UInt8.ofNat k)).toList = some (UInt8.ofNat k) := by decide +kernel
  have hn := h n.toNat n.toNat_lt
  rwa [UInt8.ofNat_toNat] at hn

/-- An address that is written is read back. -/
theorem parse_toString (ip : Ipv4Addr) : parse ip.toString = some ip := by
  have hdot : ∀ digits ∈ [ip.a, ip.b, ip.c, ip.d].map fun n => (ToString.toString n).toList, '.' ∉ digits := by
    intro digits hm hdot
    obtain ⟨n, -, rfl⟩ := List.mem_map.1 hm
    exact absurd (parseOctet_digits (parseOctet_toString n) '.' hdot) (by decide)
  have htext : ip.toString.toList =
      ['.'].intercalate ([ip.a, ip.b, ip.c, ip.d].map fun n => (ToString.toString n).toList) := by
    have hsep : (ToString.toString ".").toList = ['.'] := rfl
    simp [Ipv4Addr.toString, String.toList_append, List.intercalate_cons_cons, hsep]
  unfold parse
  rw [htext, List.splitOn_intercalate _ hdot (by simp)]
  simp only [List.map_cons, List.map_nil, parseOctet_toString]

/-- With its netmask it is not. -/
theorem parse_netmask (ip : Ipv4Addr) : parse (ip.toString ++ "/32") = none := by
  rw [← Option.not_isSome_iff_eq_none, Option.isSome_iff_exists]
  rintro ⟨ip', h⟩
  have hslash := parse_chars h '/' (by simp [String.toList_append])
  exact absurd hslash (by decide)

end Ipv4Addr

theorem RoomCode.value_inj {x y : RoomCode} (h : x.value = y.value) : x = y := by
  cases x; cases y; cases h; rfl

/-! ## Loading -/

structure PersistedRoom where
  roomId : RoomId
  roomCode : RoomCode

structure PersistedPeer where
  roomId : RoomId
  peerId : PeerId
  virtualIp : VirtualIp
  wireguardPublicKey : String

structure PersistedState where
  rooms : List PersistedRoom
  peers : List PersistedPeer

/-- Why a row is not understood: `sqlx::Error::Protocol`, with the text of the error. -/
inductive LoadError
  | roomCode (e : RoomCodeError)
  | virtualIp
deriving DecidableEq

/-- A traversal that succeeds everywhere, with what is known of each of its results. -/
theorem mapM_ok {α β ε : Type} {f : α → Except ε β} {P : α → β → Prop} : ∀ {l : List α},
    (∀ a ∈ l, ∃ b, f a = .ok b ∧ P a b) → ∃ bs, l.mapM f = .ok bs ∧ List.Forall₂ P l bs
  | [], _ => ⟨[], rfl, .nil⟩
  | a :: l, h => by
    obtain ⟨b, hb, hP⟩ := h a List.mem_cons_self
    obtain ⟨bs, hbs, hf⟩ := mapM_ok fun a' ha => h a' (List.mem_cons_of_mem a ha)
    refine ⟨b :: bs, ?_, .cons hP hf⟩
    rw [List.mapM_cons, hb, hbs]
    rfl

/-- A traversal that fails somewhere fails. -/
theorem mapM_error {α β ε : Type} {f : α → Except ε β} : ∀ {l : List α} {a : α} {e : ε}, a ∈ l → f a = .error e →
    ∃ e, l.mapM f = .error e
  | b :: l, a, e, ha, he => by
    rw [List.mapM_cons]
    cases hb : f b with
    | error e' => exact ⟨e', rfl⟩
    | ok c =>
      obtain rfl | ha := List.mem_cons.1 ha
      · rw [he] at hb; cases hb
      · obtain ⟨e', hl⟩ := mapM_error ha he
        rw [hl]
        exact ⟨e', rfl⟩

namespace Database

/-- `SELECT … WHERE … ORDER BY`: the rows that pass, by their time stamp, rows of one time stamp in any order. -/
def select {K V : Type} [Ord K] [TransOrd K] [LawfulEqOrd K] (o : WalkOrder) (p : V → Bool) (time : V → Timestamp)
    (table : ExtTreeMap K V) : List (K × V) :=
  ((o.arrange table.toList).filter fun row => p row.2).mergeSort fun x y => time x.2 ≤ time y.2

def loadRoom (row : RoomId × RoomRow) : Except LoadError PersistedRoom :=
  match RoomCode.parse row.2.roomCode with
  | .error e => .error (.roomCode e)
  | .ok roomCode => .ok { roomId := row.1, roomCode }

/-- `inetText` is the cast of `inet` to `text`. -/
def loadPeer (inetText : VirtualIp → String) (row : PeerId × PeerRow) : Except LoadError PersistedPeer :=
  match Ipv4Addr.parse (inetText row.2.virtualIp) with
  | none => .error .virtualIp
  | some address => .ok { roomId := row.2.roomId, peerId := row.1, virtualIp := ⟨address⟩,
                          wireguardPublicKey := row.2.wireguardPublicKey }

def loadState (inetText : VirtualIp → String) (o : WalkOrder) (db : Database) (now : Timestamp) :
    Except LoadError PersistedState :=
  match (select o (fun row => row.expiresAt.all (now < ·)) RoomRow.createdAt db.rooms).mapM loadRoom with
  | .error e => .error e
  | .ok rooms =>
    match (select o (fun row => row.leftAt.isNone) PeerRow.joinedAt db.peers).mapM (loadPeer inetText) with
    | .error e => .error e
    | .ok peers => .ok { rooms, peers }

end Database

/-! ## Restoring -/

def restoreRooms (r : RoomRouter) : List PersistedRoom → Outcome Unit
  | [] => .ok () r
  | room :: rooms =>
    match r.createRoomWithId room.roomId room.roomCode with
    | (.error e, r) => (.error e, r)
    | (.ok (), r) => restoreRooms r rooms

/-- `clock` is what the clock reads while each peer is restored. -/
def restorePeers (clock : PeerId → Instant) (s : AppState) :
    List PersistedPeer → Except (Fault RouterError) Unit × AppState
  | [] => (.ok (), s)
  | peer :: peers =>
    match s.router.restorePeer peer.roomId peer.peerId peer.virtualIp (clock peer.peerId) with
    | (.error e, router) => (.error e, { s with router })
    | (.ok (), router) =>
      restorePeers clock { s with router, peerKeys := s.peerKeys.insert peer.peerId peer.wireguardPublicKey } peers

def AppState.restorePersistedState (clock : PeerId → Instant) (s : AppState) (persisted : PersistedState) :
    Except (Fault RouterError) Unit × AppState :=
  match restoreRooms s.router persisted.rooms with
  | (.error e, router) => (.error e, { s with router })
  | (.ok (), router) => restorePeers clock { s with router } persisted.peers

/-! ## What was written -/

namespace Database

/-- The tables that `insert_room` and `insert_peer` fill. -/
inductive Written : Database → Prop
  | empty : Written .empty
  | room {db db' : Database} {roomId : RoomId} {roomCode : RoomCode} {now : Timestamp} : Written db →
      db.insertRoom roomId roomCode now = .ok db' → Written db'
  | peer {db db' : Database} {roomId : RoomId} {peerId : PeerId} {virtualIp : VirtualIp} {wireguardPublicKey : String}
      {now : Timestamp} : Written db → db.insertPeer roomId peerId virtualIp wireguardPublicKey now =
        .ok db' → Written db'

/-- No room has expired, each has a room code of its own, and nobody has left. -/
structure Tidy (db : Database) : Prop where
  room : ∀ (id : RoomId) (row : RoomRow), db.rooms[id]? = some row → row.expiresAt = none ∧
    ∃ code : RoomCode, row.roomCode = code.value
  distinct : ∀ (id id' : RoomId) (row row' : RoomRow), db.rooms[id]? = some row → db.rooms[id']? = some row' →
    row.roomCode = row'.roomCode → id = id'
  peer : ∀ (p : PeerId) (row : PeerRow), db.peers[p]? = some row → row.leftAt = none

theorem Written.tidy {db : Database} (h : db.Written) : db.Tidy := by
  induction h with
  | empty => constructor <;> simp [Database.empty]
  | @room db db' roomId roomCode now _ hi ih =>
    obtain ⟨hcode, rfl⟩ := insertRoom_ok hi
    have hrow : ∀ (id : RoomId) (row : RoomRow), (db.rooms.insert roomId
        { roomCode := roomCode.value, createdAt := now, expiresAt := none })[id]? = some row →
        (roomId = id ∧ row.expiresAt = none ∧ row.roomCode = roomCode.value) ∨ db.rooms[id]? = some row := by
      intro id row hr
      by_cases e : roomId = id
      · subst e
        rw [ExtTreeMap.getElem?_insert_self] at hr
        cases hr
        exact Or.inl ⟨rfl, rfl, rfl⟩
      · rw [getElem?_insert_ne e] at hr
        exact Or.inr hr
    refine ⟨fun id row hr => ?_, fun id id' row row' hr hr' e => ?_, ih.peer⟩
    · rcases hrow id row hr with ⟨-, he, hc⟩ | hr
      · exact ⟨he, roomCode, hc⟩
      · exact ih.room id row hr
    · rcases hrow id row hr with ⟨rfl, -, hc⟩ | hr <;> rcases hrow id' row' hr' with ⟨rfl, -, hc'⟩ | hr'
      · rfl
      · exact absurd (e.symm.trans hc) (hcode id' row' hr')
      · exact absurd (e.trans hc') (hcode id row hr)
      · exact ih.distinct id id' row row' hr hr' e
  | @peer db db' roomId peerId virtualIp key now _ hi ih =>
    obtain ⟨-, rfl⟩ := insertPeer_ok hi
    refine ⟨ih.room, ih.distinct, fun p row hp => ?_⟩
    by_cases e : peerId = p
    · subst e
      rw [ExtTreeMap.getElem?_insert_self] at hp
      cases hp
      rfl
    · rw [getElem?_insert_ne e] at hp
      exact ih.peer p row hp

/-! ## What is loaded -/

theorem mem_select {K V : Type} [Ord K] [TransOrd K] [LawfulEqOrd K] {o : WalkOrder} {p : V → Bool}
    {time : V → Timestamp}
    {table : ExtTreeMap K V} {row : K × V} : row ∈ select o p time table ↔ table[row.1]? = some row.2 ∧
      p row.2 = true := by
  unfold select
  rw [List.mem_mergeSort, List.mem_filter, WalkOrder.mem_arrange, ExtTreeMap.mem_toList_iff_getElem?_eq_some]

/-- No row is selected twice. -/
theorem select_distinct {K V : Type} [Ord K] [TransOrd K] [LawfulEqOrd K] (o : WalkOrder) (p : V → Bool)
    (time : V → Timestamp) (table : ExtTreeMap K V) : (select o p time table).Pairwise fun x y => x.1 ≠ y.1 := by
  have hkeys : table.toList.Pairwise fun x y => x.1 ≠ y.1 :=
    ExtTreeMap.distinct_keys_toList.imp fun h e => h (by rw [e]; exact ReflCmp.compare_self)
  have harrange : (o.arrange table.toList).Pairwise fun x y => x.1 ≠ y.1 :=
    (o.perm _).symm.pairwise hkeys fun h => h.symm
  exact (List.mergeSort_perm _ _).symm.pairwise (harrange.filter _) fun h => h.symm

/-- The rows that are traversed and the results match each other. -/
theorem mem_of_forall₂ {α β : Type} {R : α → β → Prop} : ∀ {l : List α} {bs : List β}, List.Forall₂ R l bs →
    (∀ a ∈ l, ∃ b ∈ bs, R a b) ∧ ∀ b ∈ bs, ∃ a ∈ l, R a b
  | _, _, .nil => ⟨by simp, by simp⟩
  | _, _, .cons hR hf => by
    obtain ⟨hl, hr⟩ := mem_of_forall₂ hf
    constructor
    · rintro a (_ | ⟨_, ha⟩)
      · exact ⟨_, List.mem_cons_self, hR⟩
      · obtain ⟨b, hb, h⟩ := hl a ha
        exact ⟨b, List.mem_cons_of_mem _ hb, h⟩
    · rintro b (_ | ⟨_, hb⟩)
      · exact ⟨_, List.mem_cons_self, hR⟩
      · obtain ⟨a, ha, h⟩ := hr b hb
        exact ⟨a, List.mem_cons_of_mem _ ha, h⟩

/-- Results of distinct rows are distinct. -/
theorem pairwise_of_forall₂ {α β : Type} {R : α → β → Prop} {S : α → α → Prop} {T : β → β → Prop}
    (hT : ∀ a a' b b', R a b → R a' b' → S a a' → T b b') : ∀ {l : List α} {bs : List β}, List.Forall₂ R l bs →
    l.Pairwise S → bs.Pairwise T
  | _, _, .nil, _ => .nil
  | _, _, .cons hR hf, hS => by
    obtain ⟨hhead, htail⟩ := List.pairwise_cons.1 hS
    refine List.pairwise_cons.2 ⟨fun b hb => ?_, pairwise_of_forall₂ hT hf htail⟩
    obtain ⟨a, ha, h⟩ := (mem_of_forall₂ hf).2 b hb
    exact hT _ _ _ _ hR h (hhead a ha)

/-- Every room is loaded, under its identifier and with its code. -/
theorem Written.loadRooms {db : Database} (h : db.Written) (o : WalkOrder) (now : Timestamp) :
    ∃ rooms : List PersistedRoom, (select o (fun row => row.expiresAt.all (now < ·)) RoomRow.createdAt db.rooms).mapM
      loadRoom = .ok rooms ∧
      rooms.length ≤ db.rooms.size ∧ rooms.Pairwise (fun x y => x.roomId ≠ y.roomId ∧ x.roomCode ≠ y.roomCode) ∧
      ∀ (id : RoomId) (code : RoomCode), (∃ room ∈ rooms, room.roomId = id ∧ room.roomCode = code) ↔
        ∃ row : RoomRow, db.rooms[id]? = some row ∧ row.roomCode = code.value := by
  have htidy := h.tidy
  let rows := select o (fun row => row.expiresAt.all (now < ·)) RoomRow.createdAt db.rooms
  have hparse : ∀ row ∈ rows, ∃ room, loadRoom row = .ok room ∧
      db.rooms[row.1]? = some row.2 ∧ room.roomId = row.1 ∧ room.roomCode.value = row.2.roomCode := by
    intro row hr
    have hrow := (mem_select.1 hr).1
    obtain ⟨-, code, hcode⟩ := htidy.room _ _ hrow
    refine ⟨{ roomId := row.1, roomCode := code }, ?_, hrow, rfl, hcode.symm⟩
    unfold loadRoom
    rw [hcode, RoomCode.parse_value]
  obtain ⟨rooms, hrooms, hf⟩ := mapM_ok hparse
  obtain ⟨hleft, hright⟩ := mem_of_forall₂ hf
  refine ⟨rooms, hrooms, ?_, pairwise_of_forall₂ ?_ hf (select_distinct o _ _ _), fun id code => ?_⟩
  · rw [← hf.length_eq]
    show (List.mergeSort _ _).length ≤ _
    rw [List.length_mergeSort, ← ExtTreeMap.length_toList, ← (o.perm db.rooms.toList).length_eq]
    exact List.length_filter_le _ _
  · rintro row row' room room' ⟨hrow, hid, hcode⟩ ⟨hrow', hid', hcode'⟩ hne
    refine ⟨fun e => hne ?_, fun e => hne (htidy.distinct _ _ _ _ hrow hrow' ?_)⟩
    · rw [← hid, ← hid', e]
    · rw [← hcode, ← hcode', e]
  · constructor
    · rintro ⟨room, hm, rfl, rfl⟩
      obtain ⟨row, -, hrow, hid, hcode⟩ := hright room hm
      exact ⟨row.2, by rw [hid]; exact hrow, hcode.symm⟩
    · rintro ⟨row, hrow, hcode⟩
      have hm : (id, row) ∈ rows := mem_select.2 ⟨hrow, by simp [(htidy.room id row hrow).1]⟩
      obtain ⟨room, hr, -, hid, hcode'⟩ := hleft _ hm
      refine ⟨room, hr, hid, ?_⟩
      exact RoomCode.value_inj (hcode'.trans hcode)

end Database

/-! ## What is restored -/

open RoomRouter

/-- Rooms whose identifiers and codes are new and distinct are restored, as long as there is room for them. -/
theorem restoreRooms_ok : ∀ {rooms : List PersistedRoom} {r : RoomRouter},
    r.rooms.size + rooms.length ≤ r.config.maxRooms →
    rooms.Pairwise (fun x y => x.roomId ≠ y.roomId ∧ x.roomCode ≠ y.roomCode) →
    (∀ room ∈ rooms, r.rooms[room.roomId]? = none ∧ r.roomsByCode[room.roomCode]? = none) →
    ∃ r' : RoomRouter, restoreRooms r rooms = .ok () r' ∧ r'.peers = r.peers ∧
      ∀ (id : RoomId) (code : RoomCode), r'.ledger.code id = some code ↔
        r.ledger.code id = some code ∨ ∃ room ∈ rooms, room.roomId = id ∧ room.roomCode = code
  | [], r, _, _, _ => ⟨r, rfl, rfl, by simp⟩
  | room :: rooms, r, hsize, hdistinct, hnew => by
    obtain ⟨hhead, htail⟩ := List.pairwise_cons.1 hdistinct
    obtain ⟨hid, hcode⟩ := hnew room List.mem_cons_self
    rw [List.length_cons] at hsize
    let r1 : RoomRouter := { r with
      rooms := r.rooms.insert room.roomId { code := room.roomCode, members := ∅, hostSessions := ∅ }
      roomsByCode := r.roomsByCode.insert room.roomCode room.roomId }
    have hcreate : r.createRoomWithId room.roomId room.roomCode = .ok () r1 := by
      unfold createRoomWithId
      rw [if_neg (by omega), if_neg (by simp [contains_eq_false.2 hcode]), if_neg (by simp [contains_eq_false.2 hid])]
    have hsize1 : r1.rooms.size + rooms.length ≤ r1.config.maxRooms := by
      have : r1.rooms.size ≤ r.rooms.size + 1 := ExtTreeMap.size_insert_le
      show r1.rooms.size + rooms.length ≤ r.config.maxRooms
      omega
    have hnew1 : ∀ room' ∈ rooms, r1.rooms[room'.roomId]? = none ∧ r1.roomsByCode[room'.roomCode]? = none := by
      intro room' hm
      obtain ⟨hid', hcode'⟩ := hnew room' (List.mem_cons_of_mem room hm)
      obtain ⟨hne, hne'⟩ := hhead room' hm
      exact ⟨(getElem?_insert_ne hne).trans hid', (getElem?_insert_ne hne').trans hcode'⟩
    obtain ⟨r', hr', hpeers, hcodes⟩ := restoreRooms_ok hsize1 htail hnew1
    refine ⟨r', by rw [restoreRooms, hcreate]; exact hr', hpeers, fun id code => ?_⟩
    -- the room that is restored now is new, so the codes are those from before and its own
    have hfirst : r1.ledger.code id = some code ↔
        r.ledger.code id = some code ∨ (room.roomId = id ∧ room.roomCode = code) := by
      show ((r.rooms.insert room.roomId _)[id]?).map RoomState.code = _ ↔ (r.rooms[id]?).map RoomState.code = _ ∨ _
      by_cases e : room.roomId = id
      · subst e
        simp [hid]
      · rw [getElem?_insert_ne e]
        simp [e]
    rw [hcodes, hfirst, or_assoc]
    simp only [List.mem_cons, exists_eq_or_imp]

/-- What creating a room and restoring a peer keep, restoring the persisted state keeps. -/
theorem restorePersistedState_router {P : RoomRouter → Prop} {clock : PeerId → Instant} {s : AppState} (h : P s.router)
    (hroom : ∀ r id code, P r → P (createRoomWithId r id code).2)
    (hpeer : ∀ r id p ip now, P r → P (restorePeer r id p ip now).2) (persisted : PersistedState) :
    P (s.restorePersistedState clock persisted).2.router := by
  have hrooms : ∀ {rooms : List PersistedRoom} {r : RoomRouter}, P r → P (restoreRooms r rooms).2 := by
    intro rooms
    induction rooms with
    | nil => exact id
    | cons room rooms ih =>
      intro r hr
      have hnext := hroom r room.roomId room.roomCode hr
      unfold restoreRooms
      split <;> rename_i he <;> rw [he] at hnext
      · exact hnext
      · exact ih hnext
  have hpeers : ∀ {peers : List PersistedPeer} {s : AppState}, P s.router →
      P (restorePeers clock s peers).2.router := by
    intro peers
    induction peers with
    | nil => exact id
    | cons peer peers ih =>
      intro s hs
      have hnext := hpeer s.router peer.roomId peer.peerId peer.virtualIp (clock peer.peerId) hs
      unfold restorePeers
      split <;> rename_i he <;> rw [he] at hnext
      · exact hnext
      · exact ih hnext
  unfold AppState.restorePersistedState
  have hnext := @hrooms persisted.rooms _ h
  split <;> rename_i he <;> rw [he] at hnext
  · exact hnext
  · exact hpeers hnext

/-- What is loaded from the tables and restored into a server is what they hold. -/
def RoundTrips (inetText : VirtualIp → String) (o : WalkOrder) (now : Timestamp) (clock : PeerId → Instant)
    (db : Database) (s : AppState) : Prop :=
  ∃ persisted s', db.loadState inetText o now = .ok persisted ∧
    (∀ (id : RoomId) (code : RoomCode), (∃ room ∈ persisted.rooms, room.roomId = id ∧ room.roomCode = code) ↔
      ∃ row : RoomRow, db.rooms[id]? = some row ∧ row.roomCode = code.value) ∧
    (∀ peer : PersistedPeer, peer ∈ persisted.peers ↔ ∃ row : PeerRow, db.peers[peer.peerId]? = some row ∧
      row.roomId = peer.roomId ∧ row.virtualIp = peer.virtualIp ∧ row.wireguardPublicKey = peer.wireguardPublicKey) ∧
    s.restorePersistedState clock persisted = (.ok (), s') ∧
    (∀ (id : RoomId) (code : RoomCode), (∃ room : RoomState, s'.router.rooms[id]? = some room ∧ room.code = code) ↔
      ∃ row : RoomRow, db.rooms[id]? = some row ∧ row.roomCode = code.value) ∧
    (∀ p : PeerId, s'.router.place p = (db.peers[p]?).map fun row => (row.roomId, row.virtualIp)) ∧
    ∀ p : PeerId, s'.peerKeys[p]? = (db.peers[p]?).map PeerRow.wireguardPublicKey

section

variable {inetText : VirtualIp → String} {o : WalkOrder} {now : Timestamp} {db : Database}

/-- A peer that has not left is a row that cannot be read. -/
theorem Database.loadState_error (hinet : ∀ ip, inetText ip = ip.address.toString ++ "/32") {p : PeerId} {row : PeerRow}
    (hp : db.peers[p]? = some row) (hstays : row.leftAt = none) (o : WalkOrder) (now : Timestamp) :
    ∃ e, db.loadState inetText o now = .error e := by
  have hm : (p, row) ∈ Database.select o (fun row => row.leftAt.isNone) PeerRow.joinedAt db.peers :=
    Database.mem_select.2 ⟨hp, by simp [hstays]⟩
  -- the address comes back with its netmask, which does not parse
  have hload : Database.loadPeer inetText (p, row) = .error .virtualIp := by
    unfold Database.loadPeer
    rw [hinet, Ipv4Addr.parse_netmask]
  obtain ⟨e, he⟩ := mapM_error hm hload
  unfold Database.loadState
  split
  · exact ⟨_, rfl⟩
  · exact ⟨e, by rw [he]⟩

/-- Without peers what was written is loaded. -/
theorem Database.Written.loadState_rooms (h : db.Written) (hnone : db.peers = ∅) (inetText : VirtualIp → String)
    (o : WalkOrder)
    (now : Timestamp) : ∃ rooms : List PersistedRoom, db.loadState inetText o now = .ok { rooms, peers := [] } ∧
      rooms.length ≤ db.rooms.size ∧ rooms.Pairwise (fun x y => x.roomId ≠ y.roomId ∧ x.roomCode ≠ y.roomCode) ∧
      ∀ (id : RoomId) (code : RoomCode), (∃ room ∈ rooms, room.roomId = id ∧ room.roomCode = code) ↔
        ∃ row : RoomRow, db.rooms[id]? = some row ∧ row.roomCode = code.value := by
  obtain ⟨rooms, hrooms, hlen, hdistinct, hexact⟩ := h.loadRooms o now
  have hpeers : Database.select o (fun row => row.leftAt.isNone) PeerRow.joinedAt db.peers = [] := by
    refine List.eq_nil_iff_forall_not_mem.2 fun row hm => ?_
    have hrow := (Database.mem_select.1 hm).1
    simp [hnone] at hrow
  exact ⟨rooms, by rw [Database.loadState, hrooms, hpeers]; rfl, hlen, hdistinct, hexact⟩

/-- Distinct rooms are restored into a router without rooms, up to its limit. -/
theorem RoomRouter.restoreRooms_new {rooms : List PersistedRoom} (hlen : rooms.length ≤ ({} : RouterConfig).maxRooms)
    (hdistinct : rooms.Pairwise fun x y => x.roomId ≠ y.roomId ∧ x.roomCode ≠ y.roomCode) :
    ∃ r' : RoomRouter, restoreRooms (RoomRouter.new {}) rooms = .ok () r' ∧ r'.peers = ∅ ∧
      ∀ (id : RoomId) (code : RoomCode), r'.ledger.code id = some code ↔ ∃ room ∈ rooms, room.roomId = id ∧
        room.roomCode = code := by
  obtain ⟨r', hr', hpeers, hcodes⟩ := restoreRooms_ok (r := RoomRouter.new {})
    (show (∅ : ExtTreeMap RoomId RoomState).size + rooms.length ≤ ({} : RouterConfig).maxRooms by
      rw [ExtTreeMap.size_empty]; omega) hdistinct
    fun room _ => ⟨ExtTreeMap.getElem?_empty, ExtTreeMap.getElem?_empty⟩
  refine ⟨r', hr', hpeers, fun id code => ?_⟩
  have hempty : (RoomRouter.new {}).ledger.code id = none := rfl
  rw [hcodes, hempty]
  simp

/-- What the rooms and peers written to the database are after a restart: the round trip works exactly
when no peer was written. -/
theorem restart_restores_iff_no_peer (hinet : ∀ ip, inetText ip = ip.address.toString ++ "/32") (h : db.Written)
    (hlimit : db.rooms.size ≤ ({} : RouterConfig).maxRooms) (clock : PeerId → Instant) (bearerToken : String)
      (p : IpPrefix) :
    RoundTrips inetText o now clock db ((AppState.new bearerToken).withVirtualIpPrefix p) ↔ db.peers = ∅ := by
  constructor
  · rintro ⟨persisted, s', hload, -⟩
    refine ExtTreeMap.ext_getElem? fun q => ?_
    cases hq : db.peers[q]? with
    | none => simp
    | some row =>
      obtain ⟨e, he⟩ := Database.loadState_error hinet hq (h.tidy.peer q row hq) o now
      rw [hload] at he
      cases he
  · intro hnone
    -- without peers only the rooms are left, and these are read back as they were written
    obtain ⟨rooms, hload, hlen, hdistinct, hexact⟩ := h.loadState_rooms hnone inetText o now
    let s := (AppState.new bearerToken).withVirtualIpPrefix p
    obtain ⟨r', hr', hpeers', hcodes⟩ : ∃ r' : RoomRouter, restoreRooms s.router rooms = .ok () r' ∧ _ :=
      RoomRouter.restoreRooms_new (hlen.trans hlimit) hdistinct
    refine ⟨{ rooms, peers := [] }, { s with router := r' }, hload, hexact, by simp [hnone], ?_, fun id code => ?_,
      fun q => ?_, fun q => ?_⟩
    · rw [AppState.restorePersistedState, hr']; rfl
    · have hcode := hcodes id code
      rw [hexact] at hcode
      simpa [RoomRouter.ledger] using hcode
    · rw [RoomRouter.place, hpeers', hnone]; rfl
    · rw [hnone]; rfl

end

/-! ## A room, and a room with a peer -/

namespace RoomRouter.Example

/-- `inet::text` of single addresses. -/
def inetText (ip : VirtualIp) : String := ip.address.toString ++ "/32"

def emptyRoom : Database :=
  { rooms := (∅ : ExtTreeMap RoomId RoomRow).insert room { roomCode := code.value, createdAt := 0, expiresAt := none }
    peers := ∅ }

def onePeer : Database :=
  { emptyRoom with
    peers := (∅ : ExtTreeMap PeerId PeerRow).insert peer
      { roomId := room, virtualIp := ip, wireguardPublicKey := Civ6LanBridge.Example.zeros, joinedAt := 0,
        leftAt := none } }

theorem emptyRoom_written : emptyRoom.Written := by
  refine .room .empty (show Database.empty.insertRoom room code 0 = .ok emptyRoom from ?_)
  unfold Database.insertRoom
  rw [if_neg (by decide +kernel), if_neg (by decide +kernel)]
  rfl

theorem onePeer_written : onePeer.Written := by
  refine .peer emptyRoom_written
    (show emptyRoom.insertPeer room peer ip Civ6LanBridge.Example.zeros 0 = .ok onePeer from ?_)
  unfold Database.insertPeer
  rw [if_neg (by decide +kernel), if_neg (by decide +kernel), if_neg (by decide +kernel), if_neg (by decide +kernel)]
  rfl

/-- A server that has just started. -/
def started : AppState := (AppState.new Civ6LanBridge.Example.bearerToken).withVirtualIpPrefix
    Civ6LanBridge.Example.subnet

end RoomRouter.Example

open RoomRouter in
theorem emptyRoom_survives :
    RoundTrips Example.inetText .sorted 0 (fun _ => 0) Example.emptyRoom Example.started :=
  (restart_restores_iff_no_peer (fun _ => rfl) Example.emptyRoom_written (by decide +kernel) _ _ _).2 rfl

open RoomRouter in
/-- A database with a peer in it cannot be loaded. -/
theorem onePeer_does_not_survive : Example.onePeer.Written ∧ Example.onePeer.rooms.size ≤ ({} : RouterConfig).maxRooms ∧
    ¬ RoundTrips Example.inetText .sorted 0 (fun _ => 0) Example.onePeer Example.started := by
  refine ⟨Example.onePeer_written, by decide +kernel, ?_⟩
  rintro ⟨persisted, s', hload, -⟩
  obtain ⟨e, he⟩ := Database.loadState_error (show ∀ ip, Example.inetText ip = _ from fun _ => rfl)
    (show Example.onePeer.peers[Example.peer]? = some _ from ExtTreeMap.getElem?_insert_self) rfl .sorted 0
  rw [hload] at he
  cases he

end Civ6LanBridge

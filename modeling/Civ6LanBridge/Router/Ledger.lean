/-
The router as a ledger of five tables: who has which room code, which peers, hosts, discoveries and
gameplay sessions there are. Indexes and member lists are derived from it. A sweep acts on the ledger
in three moves, and each of them treats every room by itself.
-/
import Civ6LanBridge.Lib.Table
import Civ6LanBridge.Router.Effect

namespace Civ6LanBridge

open Std FinMap Table RoomRouter

@[ext] structure Ledger where
  code : Table RoomId RoomCode
  peer : Table PeerId PeerState
  host : Table HostSessionId HostState
  discovery : Table DiscoveryRequestId DiscoveryState
  gameplay : Table GameplaySessionId GameplayState

namespace Ledger

/-! ## The part of a room -/

/-- The rows of one room. -/
noncomputable def of (L : Ledger) (room : RoomId) : Ledger where
  code := fun id => if id = room then L.code id else none
  peer := keep (fun peer => peer.roomId = room) L.peer
  host := keep (fun host => host.roomId = room) L.host
  discovery := keep (fun discovery => discovery.roomId = room) L.discovery
  gameplay := keep (fun session => session.roomId = room) L.gameplay

/-- The peers that hosts, discoveries and gameplay sessions name are registered in the same room. -/
structure Homed (L : Ledger) : Prop where
  host : ∀ k host, L.host k = some host → ∃ peer, L.peer host.peerId = some peer ∧ peer.roomId = host.roomId
  discovery : ∀ k discovery, L.discovery k = some discovery →
    ∃ peer, L.peer discovery.clientPeerId = some peer ∧ peer.roomId = discovery.roomId
  client : ∀ k session, L.gameplay k = some session →
    ∃ peer, L.peer session.clientPeerId = some peer ∧ peer.roomId = session.roomId
  server : ∀ k session, L.gameplay k = some session →
    ∃ peer, L.peer session.hostPeerId = some peer ∧ peer.roomId = session.roomId

/-! ## The moves of a sweep -/

/-- Expired hosts go with the gameplay sessions on them, and expired discoveries and sessions go. -/
noncomputable def endSessions (L : Ledger) (now : Instant) : Ledger where
  code := L.code
  peer := L.peer
  host := keep (fun host => now < host.expiresAt) L.host
  discovery := keep (fun discovery => now < discovery.expiresAt) L.discovery
  gameplay := keep (fun session => (¬ ∃ k host, L.host k = some host ∧ host.expiresAt ≤ now ∧
    host.peerId = session.hostPeerId ∧ host.roomId = session.roomId) ∧ now < session.expiresAt) L.gameplay

/-- The rows that name no peer of `D`. -/
noncomputable def sparing (L : Ledger) (D : PeerId → Prop) : Ledger where
  code := L.code
  peer := L.peer
  host := keep (fun host => ¬ D host.peerId) L.host
  discovery := keep (fun discovery => ¬ D discovery.clientPeerId) L.discovery
  gameplay := keep (fun session => ¬ D session.clientPeerId ∧ ¬ D session.hostPeerId) L.gameplay

open Classical in
/-- The peers of `D` are disconnected and lose their sessions. -/
noncomputable def suspend (L : Ledger) (D : PeerId → Prop) (now : Instant) : Ledger :=
  { L.sparing D with
    peer := fun p => (L.peer p).bind fun peer => some (if D p then { peer with disconnectedAt := some now } else peer) }

open Classical in
/-- The peers of `D` go, with their sessions. -/
noncomputable def dismiss (L : Ledger) (D : PeerId → Prop) : Ledger :=
  { L.sparing D with peer := fun p => (L.peer p).bind fun peer => if D p then none else some peer }

/-- The peers in a condition. -/
def which (L : Ledger) (c : PeerState → Bool) (p : PeerId) : Prop := ∃ peer, L.peer p = some peer ∧ c peer = true

noncomputable def expire (L : Ledger) (config : RouterConfig) (now : Instant) : Ledger :=
  let L := L.endSessions now
  let L := L.suspend (L.which fun peer => silent config peer now) now
  L.dismiss (L.which fun peer => graceOver config peer now)

/-! ## Every move treats every room by itself -/

variable {L : Ledger} {D E : PeerId → Prop} {room : RoomId} {now : Instant}

theorem Homed.of (h : L.Homed) (room : RoomId) : (L.of room).Homed where
  host := fun k host hk => by
    obtain ⟨hk, hr⟩ := keep_eq_some.1 hk
    obtain ⟨peer, hp, he⟩ := h.host k host hk
    exact ⟨peer, keep_eq_some.2 ⟨hp, he.trans hr⟩, he⟩
  discovery := fun k discovery hk => by
    obtain ⟨hk, hr⟩ := keep_eq_some.1 hk
    obtain ⟨peer, hp, he⟩ := h.discovery k discovery hk
    exact ⟨peer, keep_eq_some.2 ⟨hp, he.trans hr⟩, he⟩
  client := fun k session hk => by
    obtain ⟨hk, hr⟩ := keep_eq_some.1 hk
    obtain ⟨peer, hp, he⟩ := h.client k session hk
    exact ⟨peer, keep_eq_some.2 ⟨hp, he.trans hr⟩, he⟩
  server := fun k session hk => by
    obtain ⟨hk, hr⟩ := keep_eq_some.1 hk
    obtain ⟨peer, hp, he⟩ := h.server k session hk
    exact ⟨peer, keep_eq_some.2 ⟨hp, he.trans hr⟩, he⟩

/-- Peers of a room are in a condition in the room's part exactly if they are in the whole. -/
theorem which_of {c : PeerState → Bool} {p : PeerId} {peer : PeerState} (hp : (L.of room).peer p = some peer) :
    (L.of room).which c p ↔ L.which c p := by
  have hp' := (keep_eq_some.1 hp).1
  unfold which
  rw [hp, hp']

theorem of_endSessions (L : Ledger) (room : RoomId) (now : Instant) :
    (L.endSessions now).of room = (L.of room).endSessions now := by
  refine Ledger.ext rfl rfl keep_comm keep_comm ?_
  show keep _ (keep _ L.gameplay) = keep _ (keep _ L.gameplay)
  rw [keep_comm, keep_congr]
  intro k session hk
  obtain ⟨-, hr⟩ := keep_eq_some.1 hk
  refine and_congr_left fun _ => not_congr ⟨?_, ?_⟩
  · rintro ⟨k, host, hh, he, hp, hroom⟩
    exact ⟨k, host, keep_eq_some.2 ⟨hh, hroom.trans hr⟩, he, hp, hroom⟩
  · rintro ⟨k, host, hh, he, hp, hroom⟩
    exact ⟨k, host, (keep_eq_some.1 hh).1, he, hp, hroom⟩

theorem of_suspend (L : Ledger) (D : PeerId → Prop) (room : RoomId) (now : Instant) :
    (L.suspend D now).of room = (L.of room).suspend D now := by
  refine Ledger.ext rfl (keep_bind fun p v w hw => ?_) keep_comm keep_comm keep_comm
  cases hw
  split <;> rfl

theorem of_dismiss (L : Ledger) (D : PeerId → Prop) (room : RoomId) :
    (L.dismiss D).of room = (L.of room).dismiss D := by
  refine Ledger.ext rfl (keep_bind fun p v w hw => ?_) keep_comm keep_comm keep_comm
  split at hw
  · cases hw
  · cases hw; rfl

/-- Only the registered peers of `D` matter. -/
theorem Homed.sparing_congr (h : L.Homed) (hd : ∀ p peer, L.peer p = some peer → (D p ↔ E p)) :
    L.sparing D = L.sparing E := by
  refine Ledger.ext rfl rfl (keep_congr fun k v hk => ?_) (keep_congr fun k v hk => ?_) (keep_congr fun k v hk => ?_)
  · obtain ⟨peer, hp, -⟩ := h.host k v hk
    rw [hd _ peer hp]
  · obtain ⟨peer, hp, -⟩ := h.discovery k v hk
    rw [hd _ peer hp]
  · obtain ⟨peer, hp, -⟩ := h.client k v hk
    obtain ⟨peer', hp', -⟩ := h.server k v hk
    rw [hd _ peer hp, hd _ peer' hp']

theorem Homed.suspend_congr (h : L.Homed) (hd : ∀ p peer, L.peer p = some peer → (D p ↔ E p)) (now : Instant) :
    L.suspend D now = L.suspend E now := by
  have hs := h.sparing_congr hd
  refine Ledger.ext rfl (funext fun p => ?_) ?_ ?_ ?_
  · cases hp : L.peer p with
    | none => simp [Ledger.suspend, hp]
    | some peer =>
      by_cases hD : D p
      · simp [Ledger.suspend, hp, hD, (hd p peer hp).1 hD]
      · simp [Ledger.suspend, hp, hD, mt (hd p peer hp).2 hD]
  · exact show (L.sparing D).host = (L.sparing E).host by rw [hs]
  · exact show (L.sparing D).discovery = (L.sparing E).discovery by rw [hs]
  · exact show (L.sparing D).gameplay = (L.sparing E).gameplay by rw [hs]

theorem Homed.dismiss_congr (h : L.Homed) (hd : ∀ p peer, L.peer p = some peer → (D p ↔ E p)) :
    L.dismiss D = L.dismiss E := by
  have hs := h.sparing_congr hd
  refine Ledger.ext rfl (funext fun p => ?_) ?_ ?_ ?_
  · cases hp : L.peer p with
    | none => simp [Ledger.dismiss, hp]
    | some peer =>
      by_cases hD : D p
      · simp [Ledger.dismiss, hp, hD, (hd p peer hp).1 hD]
      · simp [Ledger.dismiss, hp, hD, mt (hd p peer hp).2 hD]
  · exact show (L.sparing D).host = (L.sparing E).host by rw [hs]
  · exact show (L.sparing D).discovery = (L.sparing E).discovery by rw [hs]
  · exact show (L.sparing D).gameplay = (L.sparing E).gameplay by rw [hs]

theorem Homed.endSessions (h : L.Homed) (now : Instant) : (L.endSessions now).Homed where
  host := fun k host hk => h.host k host (keep_eq_some.1 hk).1
  discovery := fun k discovery hk => h.discovery k discovery (keep_eq_some.1 hk).1
  client := fun k session hk => h.client k session (keep_eq_some.1 hk).1
  server := fun k session hk => h.server k session (keep_eq_some.1 hk).1

theorem Homed.suspend (h : L.Homed) (D : PeerId → Prop) (now : Instant) : (L.suspend D now).Homed := by
  have still : ∀ {p : PeerId} {room : RoomId}, (∃ peer, L.peer p = some peer ∧ peer.roomId = room) →
      ∃ peer, (L.suspend D now).peer p = some peer ∧ peer.roomId = room := by
    rintro p room ⟨peer, hp, hr⟩
    by_cases hd : D p
    · exact ⟨{ peer with disconnectedAt := some now }, by simp [Ledger.suspend, hp, hd], hr⟩
    · exact ⟨peer, by simp [Ledger.suspend, hp, hd], hr⟩
  exact {
    host := fun k host hk => still (h.host k host (keep_eq_some.1 hk).1)
    discovery := fun k discovery hk => still (h.discovery k discovery (keep_eq_some.1 hk).1)
    client := fun k session hk => still (h.client k session (keep_eq_some.1 hk).1)
    server := fun k session hk => still (h.server k session (keep_eq_some.1 hk).1) }

/-- The sweep of a room is a matter of the room alone. -/
theorem Homed.of_expire (h : L.Homed) (config : RouterConfig) (room : RoomId) (now : Instant) :
    (L.expire config now).of room = (L.of room).expire config now := by
  have h1 := h.endSessions now
  have h2 := h1.suspend ((L.endSessions now).which fun peer => silent config peer now) now
  unfold expire
  dsimp only
  -- which peers are silent can be told from their room alone, and so can who is out of grace
  have e1 : ((L.endSessions now).suspend ((L.endSessions now).which fun peer => silent config peer now) now).of room =
      ((L.of room).endSessions now).suspend
        (((L.of room).endSessions now).which fun peer => silent config peer now) now := by
    rw [of_suspend, ← of_endSessions]
    exact (h1.of room).suspend_congr (fun p peer hp => (which_of hp).symm) now
  rw [of_dismiss, ← e1]
  exact (h2.of room).dismiss_congr fun p peer hp => (which_of hp).symm

/-! ## Moves one peer at a time -/

theorem suspend_suspend (L : Ledger) (D E : PeerId → Prop) (now : Instant) :
    (L.suspend D now).suspend E now = L.suspend (fun p => D p ∨ E p) now := by
  refine Ledger.ext rfl (funext fun p => ?_) ?_ ?_ ?_
  · cases hp : L.peer p with
    | none => simp [suspend, hp]
    | some peer =>
      by_cases hd : D p <;> by_cases he : E p <;> simp [suspend, hp, hd, he]
  all_goals
    refine keep_keep.trans (keep_congr fun k v _ => ?_)
    tauto

theorem dismiss_dismiss (L : Ledger) (D E : PeerId → Prop) :
    (L.dismiss D).dismiss E = L.dismiss fun p => D p ∨ E p := by
  refine Ledger.ext rfl (funext fun p => ?_) ?_ ?_ ?_
  · cases hp : L.peer p with
    | none => simp [dismiss, hp]
    | some peer =>
      by_cases hd : D p <;> by_cases he : E p <;> simp [dismiss, hp, hd, he]
  all_goals
    refine keep_keep.trans (keep_congr fun k v _ => ?_)
    tauto

theorem suspend_nobody (L : Ledger) (now : Instant) : L.suspend (fun _ => False) now = L := by
  refine Ledger.ext rfl (funext fun p => ?_) (keep_all ?_) (keep_all ?_) (keep_all ?_)
  · cases hp : L.peer p <;> simp [suspend, hp]
  all_goals simp

theorem dismiss_nobody (L : Ledger) : L.dismiss (fun _ => False) = L := by
  refine Ledger.ext rfl (funext fun p => ?_) (keep_all ?_) (keep_all ?_) (keep_all ?_)
  · cases hp : L.peer p <;> simp [dismiss, hp]
  all_goals simp

theorem eq_absent {p q : PeerId} {peer : PeerState} (h : L.peer p = none) (hq : L.peer q = some peer) :
    q = p ↔ False := by
  refine ⟨fun e => ?_, False.elim⟩
  rw [e, h] at hq
  cases hq

/-- Nothing names a peer that is not there. -/
theorem Homed.suspend_absent (hL : L.Homed) {p : PeerId} (h : L.peer p = none) (now : Instant) :
    L.suspend (· = p) now = L :=
  (hL.suspend_congr (fun _ _ => eq_absent h) now).trans (L.suspend_nobody now)

theorem Homed.dismiss_absent (hL : L.Homed) {p : PeerId} (h : L.peer p = none) : L.dismiss (· = p) = L :=
  (hL.dismiss_congr fun _ _ => eq_absent h).trans L.dismiss_nobody

end Ledger

end Civ6LanBridge

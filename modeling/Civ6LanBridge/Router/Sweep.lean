/-
The sweep of the router refines the sweep of its ledger: each loop of `expire`, whatever the order
it walks its map in, is one move on the ledger.
-/
import Civ6LanBridge.Router.Ledger

namespace Civ6LanBridge

open Std FinMap Table

namespace RoomRouter

/-- What the router records, without its indexes and member lists. -/
def ledger (r : RoomRouter) : Ledger where
  code := fun id => (r.rooms[id]?).map RoomState.code
  peer := look r.peers
  host := look r.hosts
  discovery := look r.discoveries
  gameplay := look r.gameplay

variable {r : RoomRouter} {o : WalkOrder} {peerId : PeerId} {now : Instant}

theorem WF.homed (h : r.WF) : r.ledger.Homed where
  host := fun k host hk => by
    obtain ⟨peer, hp, hs⟩ := h.hostPeer k host hk
    exact ⟨peer, hp, hs.1⟩
  discovery := h.discoveryClient
  client := fun k session hk => by
    obtain ⟨peer, hp, hs⟩ := h.gameplayClient k session hk
    exact ⟨peer, hp, hs.1⟩
  server := fun k session hk => by
    obtain ⟨peer, hp, hs⟩ := h.gameplayHost k session hk
    exact ⟨peer, hp, hs.1⟩

/-! ## Removing hosts -/

theorem removeHost_gameplay (r : RoomRouter) (id : HostSessionId) : look (r.removeHost id).gameplay =
    keep (fun session => ¬ ∃ host, r.hosts[id]? = some host ∧ host.peerId = session.hostPeerId ∧
      host.roomId = session.roomId) (look r.gameplay) := by
  cases hh : r.hosts[id]? with
  | none =>
    rw [removeHost_none hh, keep_all]
    simp
  | some host =>
    rw [removeHost_some hh]
    refine look_filter _ fun k session _ => ?_
    simp only [Option.some.injEq, exists_eq_left', Bool.or_eq_true, decide_eq_true_eq, ne_eq, not_and_or]
    rw [eq_comm (a := session.hostPeerId), eq_comm (a := session.roomId)]

theorem removeHosts_gameplay (ids : List HostSessionId) : ∀ r : RoomRouter, look (r.removeHosts ids).gameplay =
    keep (fun session => ¬ ∃ id ∈ ids, ∃ host, r.hosts[id]? = some host ∧ host.peerId = session.hostPeerId ∧
      host.roomId = session.roomId) (look r.gameplay) := by
  induction ids with
  | nil => intro r; rw [keep_all (by simp)]; rfl
  | cons a ids ih =>
    intro r
    show look ((r.removeHost a).removeHosts ids).gameplay = _
    rw [ih, removeHost_gameplay, keep_keep]
    refine keep_congr fun k session _ => ?_
    -- a session goes with the first host of the list that it is on
    rw [← not_or, not_iff_not]
    constructor
    · rintro (⟨host, hh, hm⟩ | ⟨id, hid, host, hh, hm⟩)
      · exact ⟨a, List.mem_cons_self, host, hh, hm⟩
      · rw [removeHost_hosts] at hh
        refine ⟨id, List.mem_cons_of_mem a hid, host, ?_, hm⟩
        by_cases e : a = id
        · subst e; rw [ExtTreeMap.getElem?_erase_self] at hh; cases hh
        · rwa [getElem?_erase_ne e] at hh
    · rintro ⟨id, hid, host, hh, hm⟩
      by_cases e : a = id
      · subst e; exact Or.inl ⟨host, hh, hm⟩
      · refine Or.inr ⟨id, (List.mem_cons.1 hid).resolve_left (Ne.symm e), host, ?_, hm⟩
        rw [removeHost_hosts, getElem?_erase_ne e]
        exact hh

theorem removeHosts_code (ids : List HostSessionId) (r : RoomRouter) :
    (r.removeHosts ids).ledger.code = r.ledger.code := by
  funext id
  obtain ⟨f, hf⟩ := removeHosts_rooms ids r id
  show ((r.removeHosts ids).rooms[id]?).map RoomState.code = (r.rooms[id]?).map RoomState.code
  rw [hf, Option.map_map]
  rfl

/-- Editing the lists of a room leaves the codes. -/
theorem code_modify {room id : RoomId} {f : RoomState → RoomState} (hf : ∀ s, (f s).code = s.code) :
    ((r.rooms.modify id f)[room]?).map RoomState.code = (r.rooms[room]?).map RoomState.code := by
  by_cases e : id = room
  · subst e
    rw [ExtTreeMap.getElem?_modify_self, Option.map_map]
    exact congrArg (fun g => Option.map g r.rooms[id]?) (funext hf)
  · rw [getElem?_modify_ne e]

/-! ## The loops over sessions -/

theorem ledger_endSessions (o : WalkOrder) (r : RoomRouter) (now : Instant) :
    (expireGameplay o (expireDiscoveries o (expireHosts o r now) now) now).ledger = r.ledger.endSessions now := by
  refine Ledger.ext (removeHosts_code _ r) ?_ ?_ ?_ ?_
  · show look (r.removeHosts _).peers = look r.peers
    rw [removeHosts_peers]
  · show look (r.removeHosts (expiredHosts o r now)).hosts = _
    rw [removeHosts_hosts]
    exact look_eraseAll o _ fun k host _ => by rw [decide_eq_false_iff_not, Nat.not_le]
  · show look (eraseAll (keysWhere o _ (r.removeHosts _).discoveries) (r.removeHosts _).discoveries) = _
    rw [removeHosts_discoveries]
    exact look_eraseAll o _ fun k discovery _ => by rw [decide_eq_false_iff_not, Nat.not_le]
  · show look (eraseAll (keysWhere o _ (r.removeHosts (expiredHosts o r now)).gameplay)
      (r.removeHosts (expiredHosts o r now)).gameplay) = _
    rw [look_eraseAll o _ (P := fun session => now < session.expiresAt)
      fun k session _ => by rw [decide_eq_false_iff_not, Nat.not_le], removeHosts_gameplay, keep_keep]
    -- the hosts that go are the expired ones, and the sessions that go with them are on these
    refine keep_congr fun k session _ => and_congr_left fun _ => not_congr ⟨?_, ?_⟩
    · rintro ⟨id, hid, host, hh, hm⟩
      obtain ⟨host', hh', he⟩ := mem_keysWhere.1 hid
      rw [hh] at hh'
      cases hh'
      exact ⟨id, host, hh, of_decide_eq_true he, hm⟩
    · rintro ⟨id, host, hh, he, hm⟩
      exact ⟨id, mem_keysWhere.2 ⟨host, hh, decide_eq_true he⟩, host, hh, hm⟩

/-! ## The loops over peers -/

theorem ledger_disconnectPeer (o : WalkOrder) (h : r.WF) (p : PeerId) (now : Instant) :
    (disconnectPeer o r p now).ledger = r.ledger.suspend (· = p) now := by
  unfold disconnectPeer
  split
  · rename_i hp; exact (h.homed.suspend_absent hp now).symm
  rename_i peer hp
  refine Ledger.ext (removeHosts_code _ _) (funext fun q => ?_) ?_ ?_ ?_
  · show (RoomRouter.peers (removeHosts _ _))[q]? = _
    rw [removeHosts_peers]
    by_cases e : p = q
    · subst e
      rw [ExtTreeMap.getElem?_modify_self]
      simp [Ledger.suspend, ledger, look, hp]
    · rw [getElem?_modify_ne e]
      cases hq : r.peers[q]? <;> simp [Ledger.suspend, ledger, look, hq, Ne.symm e]
  · show look (RoomRouter.hosts (removeHosts _ _)) = _
    rw [removeHosts_hosts]
    exact look_eraseAll o _ fun k host _ => by rw [decide_eq_false_iff_not]
  · show look (ExtTreeMap.filter _ (RoomRouter.discoveries (removeHosts _ _))) = _
    rw [removeHosts_discoveries]
    exact look_filter _ fun k discovery _ => by rw [decide_eq_true_iff]
  · show look (ExtTreeMap.filter _ (RoomRouter.gameplay (removeHosts _ _))) = _
    rw [look_filter (P := fun session => ¬ session.clientPeerId = p ∧ ¬ session.hostPeerId = p) _
      fun k session _ => by simp, removeHosts_gameplay, keep_keep]
    -- a session on a host of `p` names `p`
    refine keep_congr fun k session _ => and_iff_right_of_imp fun hs => ?_
    rintro ⟨id, hid, host, hh, hm, -⟩
    obtain ⟨host', hh', he⟩ := mem_keysWhere.1 hid
    rw [hh] at hh'
    cases hh'
    exact hs.2 (hm.symm.trans (of_decide_eq_true he))

theorem ledger_without (o : WalkOrder) (h : r.WF) {p : PeerId} {peer : PeerState} (hp : r.peers[p]? = some peer) :
    (without o r p peer).ledger = r.ledger.dismiss (· = p) := by
  refine Ledger.ext (funext fun id => ?_) (funext fun q => ?_) ?_ ?_ ?_
  · refine Eq.trans ?_ (congrFun (removeHosts_code (keysWhere o (fun _ host => host.roomId = peer.roomId &&
      host.peerId = p) r.hosts) r) id)
    exact code_modify (r := removeHosts _ _) fun _ => rfl
  · show ((removePeerSessions o r _ p).peers.erase p)[q]? = _
    rw [removePeerSessions_peers]
    by_cases e : p = q
    · subst e
      rw [ExtTreeMap.getElem?_erase_self]
      simp [Ledger.dismiss, ledger, look, hp]
    · rw [getElem?_erase_ne e]
      cases hq : r.peers[q]? <;> simp [Ledger.dismiss, ledger, look, hq, Ne.symm e]
  · show look (removeHosts _ _).hosts = _
    rw [removeHosts_hosts]
    -- `leave_room` asks for the room as well, but all that names `p` is in its room
    refine look_eraseAll o _ fun k host hk => ?_
    obtain ⟨peer', hp', hs⟩ := h.hostPeer k host hk
    simp only [Bool.and_eq_false_iff, decide_eq_false_iff_not]
    refine ⟨fun hne e => hne.elim (fun hr => hr ?_) (fun hq => hq e), Or.inr⟩
    rw [e, hp] at hp'
    cases hp'
    exact hs.1.symm
  · show look (eraseAll (keysWhere o _ (removeHosts _ _).discoveries) (removeHosts _ _).discoveries) = _
    rw [removeHosts_discoveries]
    refine look_eraseAll o _ fun k discovery hk => ?_
    obtain ⟨peer', hp', hs⟩ := h.discoveryClient k discovery hk
    simp only [Bool.and_eq_false_iff, decide_eq_false_iff_not]
    refine ⟨fun hne e => hne.elim (fun hr => hr ?_) (fun hq => hq e), Or.inr⟩
    rw [e, hp] at hp'
    cases hp'
    exact hs.symm
  · show look (eraseAll (keysWhere o _ (removeHosts r _).gameplay) (removeHosts r _).gameplay) = _
    have hw := h.removeHosts (keysWhere o (fun _ host => host.roomId = peer.roomId && host.peerId = p) r.hosts)
    rw [look_eraseAll o _ (P := fun session => ¬ session.clientPeerId = p ∧ ¬ session.hostPeerId = p)
      fun k session hk => ?_, removeHosts_gameplay, keep_keep]
    · refine keep_congr fun k session _ => and_iff_right_of_imp fun hs => ?_
      rintro ⟨id, hid, host, hh, hm, -⟩
      obtain ⟨host', hh', he⟩ := mem_keysWhere.1 hid
      rw [hh] at hh'
      cases hh'
      simp only [Bool.and_eq_true, decide_eq_true_eq] at he
      exact hs.2 (hm.symm.trans he.2)
    · obtain ⟨client, hc, hcs⟩ := hw.gameplayClient k session hk
      obtain ⟨server, hv, hvs⟩ := hw.gameplayHost k session hk
      rw [removeHosts_peers] at hc hv
      simp only [Bool.and_eq_false_iff, Bool.or_eq_false_iff, decide_eq_false_iff_not]
      refine ⟨fun hne => hne.elim (fun hr => ⟨fun e => hr ?_, fun e => hr ?_⟩) id, Or.inr⟩
      · rw [e, hp] at hc; cases hc; exact hcs.1.symm
      · rw [e, hp] at hv; cases hv; exact hvs.1.symm

theorem ledger_expirePeer (o : WalkOrder) (h : r.WF) (p : PeerId) :
    (expirePeer o r p).ledger = r.ledger.dismiss (· = p) := by
  unfold expirePeer
  split
  · rename_i hp; exact (h.homed.dismiss_absent hp).symm
  · rename_i peer hp
    rw [leaveRoom_peer o h hp]
    exact ledger_without o h hp

/-- A loop of disconnections is one suspension. -/
theorem ledger_foldl_disconnect (o : WalkOrder) (now : Instant) (ps : List PeerId) : ∀ r : RoomRouter, r.WF →
    (ps.foldl (fun r p => disconnectPeer o r p now) r).ledger = r.ledger.suspend (· ∈ ps) now := by
  induction ps with
  | nil => intro r _; simpa using (r.ledger.suspend_nobody now).symm
  | cons p ps ih =>
    intro r h
    rw [List.foldl_cons, ih _ (h.disconnectPeer o p now), ledger_disconnectPeer o h, Ledger.suspend_suspend]
    simp only [List.mem_cons]

/-- A loop of departures is one dismissal. -/
theorem ledger_foldl_expire (o : WalkOrder) (ps : List PeerId) : ∀ r : RoomRouter, r.WF →
    (ps.foldl (expirePeer o) r).ledger = r.ledger.dismiss (· ∈ ps) := by
  induction ps with
  | nil => intro r _; simpa using r.ledger.dismiss_nobody.symm
  | cons p ps ih =>
    intro r h
    rw [List.foldl_cons, ih _ (h.expirePeer o p), ledger_expirePeer o h, Ledger.dismiss_dismiss]
    simp only [List.mem_cons]

/-- The sweep of the router is the sweep of its ledger, in whatever order it walks its maps. -/
theorem ledger_expire (o : WalkOrder) (h : r.WF) (now : Instant) :
    (expire o r now).2.ledger = r.ledger.expire r.config now := by
  have h3 := ((h.expireHosts o now).expireDiscoveries o now).expireGameplay o now
  have h4 := h3.disconnectPeers o now
  have hcfg : (expireGameplay o (expireDiscoveries o (expireHosts o r now) now) now).config = r.config := by
    simp [expireGameplay, expireDiscoveries, expireHosts]
  have h4' : (disconnectPeers o (expireGameplay o (expireDiscoveries o (expireHosts o r now) now) now) now).ledger =
      (r.ledger.endSessions now).suspend
        ((r.ledger.endSessions now).which fun peer => silent r.config peer now) now := by
    unfold disconnectPeers
    rw [ledger_foldl_disconnect o now _ _ h3, ← ledger_endSessions o r now, hcfg]
    congr 1
    funext p
    exact propext mem_keysWhere
  unfold expire expirePeers Ledger.expire
  dsimp only
  rw [ledger_foldl_expire o _ _ h4, ← h4', disconnectPeers_config, hcfg]
  congr 1
  funext p
  exact propext mem_keysWhere

end RoomRouter

end Civ6LanBridge

/-
`server/civ6-relay.py`: the tables of the relay. Whatever is received and whatever fails, they agree with
each other and with the sockets that are open.
-/
import Civ6LanBridge.SingleHost.Relay

namespace Civ6LanBridge.SingleHost

open Std FinMap

variable {Time : Type} [Zero Time] [LE Time]

/-! ## The tables -/

/-- The tables agree with each other and with the sockets that are open. -/
structure Wired (relay : Civ6Relay Time) : Prop where
  shared : Shared relay.heap Session.key Session.upstream relay.sessions relay.upstreamSessions
  fronts : ∀ (sock : ObjectId) (kind : Kind) (port : Nat), relay.selector[sock]? = some (Metadata.front kind port) →
    relay.frontSockets[port]? = some sock
  upstreams : ∀ sock : ObjectId, relay.selector[sock]? = some Metadata.upstream ↔ relay.upstreamSessions[sock]? ≠ none
  returns : ∀ (key : Key) (session : ObjectId) (object : Session Time), relay.sessions[key]? = some session →
    relay.heap[session]? = some object → relay.frontSockets[object.returnPort]? ≠ none
  opened : ∀ sock : ObjectId, relay.selector[sock]? ≠ none → sock < relay.nextId
  allocated : ∀ session : ObjectId, relay.heap[session]? ≠ none → session < relay.nextId

/-- The socket is registered with the metadata, or else it has been closed for good. -/
def Registered (relay : Civ6Relay Time) (entry : ObjectId × Metadata) : Prop :=
  relay.selector[entry.1]? = some entry.2 ∨ relay.selector[entry.1]? = none ∧ entry.1 < relay.nextId

variable {relay relay' : Civ6Relay Time} {sock session : ObjectId} {object : Session Time} {key : Key}
  {metadata : Metadata}
  {entry : ObjectId × Metadata} {io : Io Time} {kind : Kind} {client sender : Address} {port : Nat} {data : List UInt8}

namespace Wired

theorem lt_nextId (hw : Wired relay) (hr : Registered relay entry) : entry.1 < relay.nextId := by
  rcases hr with h | h
  · exact hw.opened _ (by rw [h]; simp)
  · exact h.2

/-- An object changes where neither table looks. -/
theorem modify (hw : Wired relay) (session : ObjectId) {e : Session Time → Session Time}
    (hkey : ∀ object, (e object).key = object.key) (hupstream : ∀ object, (e object).upstream = object.upstream)
    (hport : ∀ object : Session Time, relay.frontSockets[object.returnPort]? ≠ none →
      relay.frontSockets[(e object).returnPort]? ≠ none) :
    Wired { relay with heap := relay.heap.modify session e } := by
  have hheap (session' : ObjectId) (object : Session Time)
      (h : (relay.heap.modify session e)[session']? = some object) :
        ∃ old, relay.heap[session']? = some old ∧ (object = old ∨ object = e old) := by
    by_cases he : session = session'
    · subst he
      rw [ExtTreeMap.getElem?_modify_self] at h
      obtain ⟨old, hold, rfl⟩ := Option.map_eq_some_iff.1 h
      exact ⟨old, hold, Or.inr rfl⟩
    · rw [getElem?_modify_ne he] at h
      exact ⟨object, h, Or.inl rfl⟩
  refine ⟨hw.shared.modify hkey hupstream, hw.fronts, hw.upstreams, ?_, hw.opened, ?_⟩
  · intro key session' object hs hobject
    obtain ⟨old, hold, rfl | rfl⟩ := hheap session' object hobject
    · exact hw.returns key session' _ hs hold
    · exact hport old (hw.returns key session' old hs hold)
  · intro session' h
    obtain ⟨object, hobject⟩ := Option.ne_none_iff_exists'.1 h
    obtain ⟨old, hold, -⟩ := hheap session' object hobject
    exact hw.allocated session' (by rw [hold]; simp)

theorem dropSession (hw : Wired relay) (hobject : relay.heap[session]? = some object)
    (hs : relay.sessions[object.key]? = some session) : Wired (relay.dropSession object.key object) := by
  refine ⟨hw.shared.erase hobject hs, ?_, ?_, ?_, ?_, hw.allocated⟩
  · intro sock kind port h
    exact hw.fronts sock kind port (erase_sub h)
  · intro sock
    show (relay.selector.erase object.upstream)[sock]? = _ ↔
      (relay.upstreamSessions.erase object.upstream)[sock]? ≠ none
    by_cases e : object.upstream = sock
    · subst e
      simp
    · rw [getElem?_erase_ne e, getElem?_erase_ne e]
      exact hw.upstreams sock
  · intro key session' object' h hobject'
    exact hw.returns key session' object' (erase_sub h) hobject'
  · intro sock h
    exact hw.opened sock (erase_has.1 h).1

/-- A socket that is just opened, and a session object for it. -/
theorem opens (hw : Wired relay) (object : Session Time) (hkey : relay.sessions[object.key]? = none)
    (hupstream : object.upstream = relay.nextId) (hport : relay.frontSockets[object.returnPort]? ≠ none) :
    Wired
      { relay with
        selector := relay.selector.insert object.upstream .upstream
        heap := relay.heap.insert (relay.nextId + 1) object
        sessions := relay.sessions.insert object.key (relay.nextId + 1)
        upstreamSessions := relay.upstreamSessions.insert object.upstream (relay.nextId + 1)
        nextId := relay.nextId + 2 } := by
  have hheap : relay.heap[relay.nextId + 1]? = none := by
    by_contra hc
    exact Nat.not_succ_lt_self (hw.allocated _ hc)
  have hopen : relay.selector[object.upstream]? = none := by
    by_contra hc
    exact Nat.lt_irrefl _ (hupstream ▸ hw.opened _ hc)
  have hfree : relay.upstreamSessions[object.upstream]? = none := by
    by_contra hc
    rw [(hw.upstreams _).2 hc] at hopen
    cases hopen
  refine ⟨hw.shared.insert hheap hkey hfree, ?_, ?_, ?_, ?_, ?_⟩
  · intro sock kind port h
    by_cases e : object.upstream = sock
    · subst e
      rw [ExtTreeMap.getElem?_insert_self] at h
      cases h
    · rw [getElem?_insert_ne e] at h
      exact hw.fronts sock kind port h
  · intro sock
    by_cases e : object.upstream = sock
    · subst e
      simp
    · rw [getElem?_insert_ne e, getElem?_insert_ne e]
      exact hw.upstreams sock
  · intro key session object' hs hobject
    by_cases e : object.key = key
    · subst e
      rw [ExtTreeMap.getElem?_insert_self] at hs
      cases hs
      rw [ExtTreeMap.getElem?_insert_self] at hobject
      cases hobject
      exact hport
    · rw [getElem?_insert_ne e] at hs
      rw [getElem?_insert_ne] at hobject
      · exact hw.returns key session object' hs hobject
      · rintro rfl
        obtain ⟨v, hv, -⟩ := hw.shared.ofKey _ _ hs
        cases hheap.symm.trans hv
  · intro sock h
    rcases insert_has.1 h with rfl | h
    · rw [hupstream]
      exact Nat.lt_add_of_pos_right (by decide)
    · exact Nat.lt_add_right 2 (hw.opened sock h)
  · intro session h
    rcases insert_has.1 h with rfl | h
    · exact Nat.lt_succ_self _
    · exact Nat.lt_add_right 2 (hw.allocated session h)

end Wired

/-! ## Owners -/

/-- The session of the socket is the one under the key. -/
def Owns (relay : Civ6Relay Time) (sock : ObjectId) (key : Key) : Prop :=
  ∃ session object, relay.upstreamSessions[sock]? = some session ∧ relay.heap[session]? = some object ∧ object.key = key

/-- No socket is opened, and what is open stays what it is or is closed for good. -/
structure Settles (relay relay' : Civ6Relay Time) : Prop where
  config : relay'.config = relay.config
  entries : ∀ entry, Registered relay entry → Registered relay' entry
  nextId : relay'.nextId = relay.nextId
  owners : ∀ sock key, Owns relay' sock key → Owns relay sock key

theorem Settles.refl (relay : Civ6Relay Time) : Settles relay relay := ⟨rfl, fun _ h => h, rfl, fun _ _ h => h⟩

theorem Settles.trans {relay'' : Civ6Relay Time} (h : Settles relay relay') (h' : Settles relay' relay'') :
    Settles relay relay'' :=
  ⟨h'.config.trans h.config, fun entry he => h'.entries entry (h.entries entry he), h'.nextId.trans h.nextId,
    fun sock key ho => h.owners sock key (h'.owners sock key ho)⟩

theorem settles_modify (session : ObjectId) {e : Session Time → Session Time}
    (hkey : ∀ object, (e object).key = object.key) :
    Settles relay { relay with heap := relay.heap.modify session e } := by
  refine ⟨rfl, fun _ h => h, rfl, ?_⟩
  rintro sock key ⟨session', object, hs, hobject, rfl⟩
  by_cases he : session = session'
  · subst he
    rw [ExtTreeMap.getElem?_modify_self] at hobject
    obtain ⟨old, hold, rfl⟩ := Option.map_eq_some_iff.1 hobject
    exact ⟨session, old, hs, hold, (hkey old).symm⟩
  · rw [getElem?_modify_ne he] at hobject
    exact ⟨session', object, hs, hobject, rfl⟩

theorem Registered.closeSocket (hw : Wired relay) (hr : Registered relay entry) (sock : ObjectId) :
    Registered (relay.closeSocket sock) entry := by
  unfold Registered Civ6Relay.closeSocket
  by_cases e : sock = entry.1
  · subst e
    exact Or.inr ⟨ExtTreeMap.getElem?_erase_self, hw.lt_nextId hr⟩
  · rw [getElem?_erase_ne e]
    exact hr

theorem Wired.settles_drop (hw : Wired relay) (key : Key) (object : Session Time) :
    Settles relay (relay.dropSession key object) := by
  refine ⟨rfl, fun entry hr => hr.closeSocket hw object.upstream, rfl, ?_⟩
  rintro sock key' ⟨session, object', hs, hobject, rfl⟩
  exact ⟨session, object', erase_sub hs, hobject, rfl⟩

/-! ## One packet -/

/-- The socket is open, so there is a session that owns it. -/
theorem Wired.owner (hw : Wired relay) (hopen : relay.selector[sock]? = some Metadata.upstream) :
    ∃ session object, relay.upstreamSessions[sock]? = some session ∧ relay.heap[session]? = some object ∧
      relay.sessions[object.key]? = some session := by
  obtain ⟨session, hs⟩ := Option.ne_none_iff_exists'.1 ((hw.upstreams sock).1 hopen)
  obtain ⟨object, hobject, -, hkey⟩ := hw.shared.ofIndex _ _ hs
  exact ⟨session, object, hs, hobject, hkey⟩

/-- A datagram is sent for a session, or the session is dropped. -/
theorem Wired.sends (hw : Wired relay) (hobject : relay.heap[session]? = some object)
    (hs : relay.sessions[object.key]? = some session)
    (sent : List Sent) (io : Io Time) {result : List Sent × Civ6Relay Time}
    (hresult : result = if io.sends then (sent, relay) else ([], relay.dropSession object.key object)) :
    Wired result.2 ∧ Settles relay result.2 ∧ result.1 = if io.sends then sent else [] := by
  subst hresult
  split
  · exact ⟨hw, .refl relay, rfl⟩
  · exact ⟨hw.dropSession hobject hs, hw.settles_drop _ _, rfl⟩

theorem handleHostPacket_stranger (hsender : sender.ip ≠ relay.config.hostIp) :
    relay.handleHostPacket sock data sender io = ([], relay) := by
  unfold Civ6Relay.handleHostPacket
  split
  · rfl
  · rw [if_pos hsender]

/-- A packet of the host goes to the owner of the socket, or the session is dropped. -/
theorem handleHostPacket_spec (hw : Wired relay) (hopen : relay.selector[sock]? = some Metadata.upstream)
    (hsender : sender.ip = relay.config.hostIp) :
    Wired (relay.handleHostPacket sock data sender io).2 ∧
      Settles relay (relay.handleHostPacket sock data sender io).2 ∧
      ∃ (key : Key) (frontPort : Nat) (frontSocket : ObjectId), Owns relay sock key ∧
        relay.frontSockets[frontPort]? = some frontSocket ∧ (relay.handleHostPacket sock data sender io).1 =
          if io.sends then [{ socket := frontSocket, data, dest := key.client }] else [] := by
  obtain ⟨session, object, hs, hobject, hkey⟩ := hw.owner hopen
  let touch : Session Time → Session Time := fun object => { object with lastSeen := io.now }
  let touched : Civ6Relay Time := { relay with heap := relay.heap.modify session touch }
  have hw' : Wired touched := hw.modify session (fun _ => rfl) (fun _ => rfl) fun _ h => h
  have hsettles : Settles relay touched := settles_modify session fun _ => rfl
  have hobject' : touched.heap[session]? = some (touch object) := by
    rw [show touched.heap = relay.heap.modify session touch from rfl, ExtTreeMap.getElem?_modify_self, hobject]
    rfl
  obtain ⟨frontPort, frontSocket, hport, hfront⟩ : ∃ (frontPort : Nat) (frontSocket : ObjectId),
      (if relay.frontSockets.contains sender.port then sender.port else object.returnPort) = frontPort ∧
        relay.frontSockets[frontPort]? = some frontSocket := by
    refine ⟨_, _, rfl, (Option.ne_none_iff_exists'.1 ?_).choose_spec⟩
    split
    · rename_i hc
      rw [ExtTreeMap.contains_eq_isSome_getElem?] at hc
      exact Option.isSome_iff_ne_none.1 hc
    · exact hw.returns object.key session object hkey hobject
  have heq : relay.handleHostPacket sock data sender io =
      if io.sends then ([{ socket := frontSocket, data, dest := object.client }], touched)
      else ([], touched.dropSession object.key (touch object)) := by
    unfold Civ6Relay.handleHostPacket
    rw [hs]
    dsimp only
    rw [if_neg (not_not_intro hsender),
      show (relay.heap.modify session fun object => { object with lastSeen := io.now })[session]? = _ from hobject']
    dsimp only
    rw [show (if relay.frontSockets.contains sender.port then sender.port else (touch object).returnPort) = frontPort
      from hport, hfront]
    rfl
  obtain ⟨hwired, hdropped, hsent⟩ :=
    hw'.sends hobject' hkey [{ socket := frontSocket, data, dest := object.client }] io heq
  exact ⟨hwired, hsettles.trans hdropped, object.key, frontPort, frontSocket, ⟨session, object, hs, hobject, rfl⟩,
    hfront, hsent⟩

theorem handleClientPacket_refuses (h : relay.isAllowed client.ip = false ∨ client.ip = relay.config.hostIp) :
    relay.handleClientPacket kind port data client io = some ([], relay) := by
  unfold Civ6Relay.handleClientPacket
  split
  · rfl
  · rename_i hallowed
    rw [if_pos (h.resolve_left hallowed)]

/-- A socket is opened for the key; besides that, nothing is opened. -/
structure Opens (relay relay' : Civ6Relay Time) (key : Key) : Prop where
  config : relay'.config = relay.config
  entries : ∀ entry, Registered relay entry → Registered relay' entry
  nextId : relay'.nextId = relay.nextId + 2
  owners : ∀ sock key', Owns relay' sock key' → Owns relay sock key' ∨ sock = relay.nextId ∧ key' = key

theorem Opens.settles {relay'' : Civ6Relay Time} (h : Opens relay relay' key) (h' : Settles relay' relay'') :
    Opens relay relay'' key :=
  ⟨h'.config.trans h.config, fun entry he => h'.entries entry (h.entries entry he), h'.nextId.trans h.nextId,
    fun sock key ho => h.owners sock key (h'.owners sock key ho)⟩

/-- The session that a packet of a client is forwarded for: a new one, or the one that it has, touched. -/
theorem newSession_spec (hw : Wired relay) (hkey : relay.sessions[(Key.mk kind client)]? = none)
    (hport : relay.frontSockets[port]? ≠ none) (h : relay.newSession kind client port io = some (session, relay')) :
    Wired relay' ∧ Opens relay relay' { kind, client } ∧ ∃ object : Session Time, relay'.heap[session]? = some object ∧
      object.key = { kind, client } ∧ object.upstream = relay.nextId ∧ relay'.sessions[object.key]? = some session := by
  unfold Civ6Relay.newSession at h
  dsimp only at h
  split at h <;> cases h
  let object : Session Time := { client, upstream := relay.nextId, kind, lastSeen := io.now, returnPort := port }
  refine ⟨hw.opens object hkey rfl hport, ⟨rfl, ?_, rfl, ?_⟩, object, ExtTreeMap.getElem?_insert_self, rfl, rfl,
    ExtTreeMap.getElem?_insert_self⟩
  · intro entry hr
    have hlt := hw.lt_nextId hr
    have hne : relay.nextId ≠ entry.1 := Nat.ne_of_gt hlt
    unfold Registered
    dsimp only
    rw [getElem?_insert_ne hne]
    exact hr.imp_right fun hclosed => ⟨hclosed.1, Nat.lt_add_right 2 hclosed.2⟩
  · rintro sock key' ⟨session, object', hs, hobject, rfl⟩
    dsimp only at hs hobject
    by_cases e : relay.nextId = sock
    · subst e
      rw [ExtTreeMap.getElem?_insert_self] at hs
      cases hs
      rw [ExtTreeMap.getElem?_insert_self] at hobject
      cases hobject
      exact Or.inr ⟨rfl, rfl⟩
    · rw [getElem?_insert_ne e] at hs
      obtain ⟨old, hold, -⟩ := hw.shared.ofIndex _ _ hs
      have hlt := hw.allocated session (by rw [hold]; simp)
      rw [getElem?_insert_ne (Nat.ne_of_gt (Nat.lt_succ_of_lt hlt))] at hobject
      exact Or.inl ⟨session, object', hs, hobject, rfl⟩

/-- What a packet of a client leads to: a datagram for the host on the same port, from a socket that is the client's
own, and at most one new socket, which is the client's too. -/
structure Forwards (relay relay' : Civ6Relay Time) (key : Key) (port : Nat) (data : List UInt8) (sent : List Sent) :
    Prop where
  wired : Wired relay'
  opened : Settles relay relay' ∨ Opens relay relay' key
  same : ∀ s ∈ sent, s.data = data ∧ s.dest = { ip := relay.config.hostIp, port }
  owner : ∀ s ∈ sent, Owns relay s.socket key ∨ s.socket = relay.nextId ∧ relay'.nextId = relay.nextId + 2

theorem mem_of_sent {sent : List Sent} {s s' : Sent} {sends : Bool} (h : sent = if sends then [s'] else [])
    (hs : s ∈ sent) : s = s' := by
  rw [h] at hs
  split at hs
  · exact List.mem_singleton.1 hs
  · cases hs

theorem handleClientPacket_spec (hw : Wired relay) (hport : relay.frontSockets[port]? ≠ none) {sent : List Sent}
    (h : relay.handleClientPacket kind port data client io = some (sent, relay')) :
    Forwards relay relay' { kind, client } port data sent := by
  by_cases hrefused : relay.isAllowed client.ip = false ∨ client.ip = relay.config.hostIp
  · rw [handleClientPacket_refuses hrefused] at h
    cases h
    exact ⟨hw, Or.inl (.refl relay), nofun, nofun⟩
  rw [not_or] at hrefused
  unfold Civ6Relay.handleClientPacket at h
  rw [if_neg hrefused.1, if_neg hrefused.2] at h
  obtain ⟨⟨session, found⟩, hfound, htail⟩ := Option.map_eq_some_iff.1 h
  cases hkey : relay.sessions[(Key.mk kind client)]? with
  | none =>
    rw [hkey] at hfound
    obtain ⟨hwired, hopens, object, hobject, hk, hup, hs⟩ := newSession_spec hw hkey hport hfound
    dsimp only at htail
    rw [hobject] at htail
    dsimp only at htail
    rw [← hk] at htail
    obtain ⟨hwired', hsettles, hsent⟩ := hwired.sends hobject hs _ io htail.symm
    have hopened := hopens.settles hsettles
    rw [hopens.config] at hsent
    refine ⟨hwired', Or.inr hopened, fun s hmem => ?_, fun s hmem => ?_⟩ <;> obtain rfl := mem_of_sent hsent hmem
    · exact ⟨rfl, rfl⟩
    · exact Or.inr ⟨hup, hopened.nextId⟩
  | some session' =>
    rw [hkey] at hfound
    cases hfound
    obtain ⟨object, hobject, hk, hup⟩ := hw.shared.ofKey _ _ hkey
    let touch : Session Time → Session Time := fun object => { object with lastSeen := io.now, returnPort := port }
    let touched : Civ6Relay Time := { relay with heap := relay.heap.modify session touch }
    have hwired : Wired touched := hw.modify session (fun _ => rfl) (fun _ => rfl) fun _ _ => hport
    have hsettles : Settles relay touched := settles_modify session fun _ => rfl
    have hobject' : touched.heap[session]? = some (touch object) := by
      rw [show touched.heap = relay.heap.modify session touch from rfl, ExtTreeMap.getElem?_modify_self, hobject]
      rfl
    have hs : touched.sessions[(touch object).key]? = some session := by
      rw [show (touch object).key = { kind, client } from hk]
      exact hkey
    dsimp only at htail
    rw [show (relay.heap.modify session fun object =>
      { object with lastSeen := io.now, returnPort := port })[session]? = _ from hobject'] at htail
    dsimp only at htail
    rw [← show (touch object).key = { kind, client } from hk] at htail
    obtain ⟨hwired', hdropped, hsent⟩ := hwired.sends hobject' hs _ io htail.symm
    refine ⟨hwired', Or.inl (hsettles.trans hdropped), fun s hmem => ?_, fun s hmem => ?_⟩ <;>
      obtain rfl := mem_of_sent hsent hmem
    · exact ⟨rfl, rfl⟩
    · exact Or.inl ⟨session, object, hup, hobject, hk⟩

/-! ## Start and end -/

theorem new_wired (config : Config Time) : Wired (.new config) := by
  refine ⟨.empty _, ?_, ?_, ?_, ?_, ?_⟩ <;> intros <;> simp_all [Civ6Relay.new]

theorem Wired.bindFrontSocket (hw : Wired relay) (kind : Kind) (hfree : relay.frontSockets[port]? = none) :
    Wired (relay.bindFrontSocket port kind) := by
  have hopen : relay.selector[relay.nextId]? = none := by
    by_contra hc
    exact Nat.lt_irrefl _ (hw.opened _ hc)
  refine ⟨hw.shared, ?_, ?_, ?_, ?_, ?_⟩
  · intro sock kind' port' h
    show (relay.frontSockets.insert port relay.nextId)[port']? = some sock
    by_cases e : relay.nextId = sock
    · subst e
      have h : (relay.selector.insert relay.nextId (Metadata.front kind port))[relay.nextId]? = _ := h
      rw [ExtTreeMap.getElem?_insert_self] at h
      cases h
      exact ExtTreeMap.getElem?_insert_self
    · have h : (relay.selector.insert relay.nextId (Metadata.front kind port))[sock]? = _ := h
      rw [getElem?_insert_ne e] at h
      have hold := hw.fronts sock kind' port' h
      rw [getElem?_insert_ne]
      · exact hold
      · rintro rfl
        cases hfree.symm.trans hold
  · intro sock
    show (relay.selector.insert relay.nextId (Metadata.front kind port))[sock]? = _ ↔
      relay.upstreamSessions[sock]? ≠ none
    by_cases e : relay.nextId = sock
    · subst e
      rw [ExtTreeMap.getElem?_insert_self, ← hw.upstreams, hopen]
      simp
    · rw [getElem?_insert_ne e]
      exact hw.upstreams sock
  · intro key session object hs hobject
    exact insert_has.2 (Or.inr (hw.returns key session object hs hobject))
  · intro sock h
    rcases insert_has.1 h with rfl | h
    · exact Nat.lt_succ_self _
    · exact Nat.lt_succ_of_lt (hw.opened sock h)
  · intro session h
    exact Nat.lt_succ_of_lt (hw.allocated session h)

theorem Wired.bindAll (kind : Kind) : ∀ {ports : List Nat} {relay : Civ6Relay Time}, Wired relay → ports.Nodup →
    (∀ port ∈ ports, relay.frontSockets[port]? = none) →
    Wired (ports.foldl (fun relay port => relay.bindFrontSocket port kind) relay) ∧
      ∀ port ∉ ports, (ports.foldl (fun relay port => relay.bindFrontSocket port kind) relay).frontSockets[port]? =
        relay.frontSockets[port]?
  | [], _, hw, _, _ => ⟨hw, fun _ _ => rfl⟩
  | port :: ports, relay, hw, hnodup, hfree => by
    have hne (port' : Nat) (h : port ≠ port') : (relay.bindFrontSocket port kind).frontSockets[port']? =
        relay.frontSockets[port']? :=
      getElem?_insert_ne h
    rw [List.nodup_cons] at hnodup
    have hrest : ∀ port' ∈ ports, (relay.bindFrontSocket port kind).frontSockets[port']? = none := by
      intro port' hmem
      rw [hne port' (by rintro rfl; exact hnodup.1 hmem)]
      exact hfree port' (List.mem_cons_of_mem _ hmem)
    obtain ⟨hw', hother⟩ := Wired.bindAll kind (hw.bindFrontSocket kind (hfree port List.mem_cons_self)) hnodup.2 hrest
    refine ⟨hw', fun port' hmem => ?_⟩
    rw [List.mem_cons, not_or] at hmem
    exact (hother port' hmem.2).trans (hne port' (Ne.symm hmem.1))

/-- The gameplay port is not in the discovery range, so each public socket has a port of its own. -/
theorem start_wired (config : Config Time) : Wired (Civ6Relay.new config).start := by
  have hports :=
    Wired.bindAll .discovery (new_wired config)
      (List.nodup_range' (s := config.discoveryStart.val)
        (n := config.discoveryEnd.val + 1 - config.discoveryStart.val))
      (by simp [Civ6Relay.new])
  have hout : config.gameplayPort.val ∉ List.range' config.discoveryStart.val
      (config.discoveryEnd.val + 1 - config.discoveryStart.val) := by
    rw [List.mem_range'_1]
    have := config.apart
    have := config.ordered
    omega
  have hw := hports.1.bindFrontSocket .gameplay ((hports.2 _ hout).trans (by simp [Civ6Relay.new]))
  exact ⟨hw.shared, hw.fronts, hw.upstreams, hw.returns, hw.opened, hw.allocated⟩

theorem bindAll_frame (kind : Kind) (ports : List Nat) (relay : Civ6Relay Time) :
    (ports.foldl (fun relay port => relay.bindFrontSocket port kind) relay).config = relay.config ∧
      (ports.foldl (fun relay port => relay.bindFrontSocket port kind) relay).upstreamSessions =
        relay.upstreamSessions := by
  induction ports generalizing relay with
  | nil => exact ⟨rfl, rfl⟩
  | cons port ports ih => exact ih (relay.bindFrontSocket port kind)

theorem start_frame (config : Config Time) :
    (Civ6Relay.new config).start.config = config ∧ (Civ6Relay.new config).start.upstreamSessions = ∅ :=
  bindAll_frame .discovery _ (Civ6Relay.new config)

theorem foldl_closeSocket (socks : List ObjectId) (relay : Civ6Relay Time) :
    socks.foldl Civ6Relay.closeSocket relay = { relay with selector := eraseAll socks relay.selector } := by
  induction socks generalizing relay with
  | nil => rfl
  | cons sock socks ih => exact ih (relay.closeSocket sock)

/-- All sockets are closed and all tables emptied, unless there was nothing left to close. -/
theorem close_eq (relay : Civ6Relay Time) : relay.close = relay ∧ relay.upstreamSessions = ∅ ∨
    relay.close =
      { relay with
        running := false
        selector :=
          eraseAll (relay.upstreamSessions.toList.map Prod.fst)
            (eraseAll (relay.frontSockets.toList.map Prod.snd) relay.selector)
        frontSockets := ∅
        upstreamSessions := ∅
        sessions := ∅ } := by
  unfold Civ6Relay.close
  split
  · rename_i h
    exact Or.inl ⟨rfl, h.2.2⟩
  · dsimp only
    rw [foldl_closeSocket, foldl_closeSocket]
    exact Or.inr rfl

/-- Every open socket is in one of the tables that `close` walks. -/
theorem Wired.all_closed (hw : Wired relay) (sock : ObjectId) :
    (eraseAll (relay.upstreamSessions.toList.map Prod.fst)
      (eraseAll (relay.frontSockets.toList.map Prod.snd) relay.selector))[sock]? = none := by
  by_contra hc
  obtain ⟨metadata, hm⟩ := Option.ne_none_iff_exists'.1 hc
  have hold : relay.selector[sock]? = some metadata := eraseAll_sub (eraseAll_sub hm)
  cases metadata with
  | upstream =>
    obtain ⟨session, hs⟩ := Option.ne_none_iff_exists'.1 ((hw.upstreams sock).1 hold)
    refine hc (getElem?_eraseAll_of_mem (List.mem_map.2 ⟨(sock, session), ?_, rfl⟩) _)
    exact ExtTreeMap.mem_toList_iff_getElem?_eq_some.2 hs
  | front kind port =>
    have hmem : sock ∈ relay.frontSockets.toList.map Prod.snd :=
      List.mem_map.2 ⟨(port, sock), ExtTreeMap.mem_toList_iff_getElem?_eq_some.2 (hw.fronts sock kind port hold), rfl⟩
    cases (eraseAll_sub hm).symm.trans (getElem?_eraseAll_of_mem hmem _)

theorem Wired.close (hw : Wired relay) : Wired relay.close ∧ Settles relay relay.close := by
  rcases close_eq relay with ⟨h, -⟩ | h <;> rw [h]
  · exact ⟨hw, .refl relay⟩
  have hclosed := hw.all_closed
  constructor
  · refine ⟨.empty _, fun sock kind port hs => ?_, fun sock => ?_, fun key session object hs => ?_, fun sock hs => ?_,
      hw.allocated⟩
    · cases (hclosed sock).symm.trans hs
    · exact iff_of_false (fun hs => nomatch (hclosed sock).symm.trans hs) (by simp)
    · simp at hs
    · exact (hs (hclosed sock)).elim
  · refine ⟨rfl, fun entry hr => Or.inr ⟨hclosed entry.1, hw.lt_nextId hr⟩, rfl, ?_⟩
    rintro sock key ⟨session, object, hs, -⟩
    simp at hs

/-! ## Expiry -/

section

variable [LT Time] [DecidableLT Time]

/-- One entry of the walk. -/
def expireOne (cutoff : Time) (relay : Civ6Relay Time) (entry : Key × ObjectId) : Civ6Relay Time :=
  match relay.heap[entry.2]? with
  | none => relay
  | some session => if session.lastSeen < cutoff then relay.dropSession entry.1 session else relay

theorem Wired.expireAll (cutoff : Time) : ∀ {entries : List (Key × ObjectId)} {relay : Civ6Relay Time}, Wired relay →
    entries.Pairwise (fun a b => a.1 ≠ b.1) → (∀ entry ∈ entries, relay.sessions[entry.1]? = some entry.2) →
    Wired (entries.foldl (expireOne cutoff) relay) ∧ Settles relay (entries.foldl (expireOne cutoff) relay)
  | [], relay, hw, _, _ => ⟨hw, .refl relay⟩
  | (key, session) :: entries, relay, hw, hne, hs => by
    rw [List.pairwise_cons] at hne
    have hkey := hs _ List.mem_cons_self
    obtain ⟨object, hobject, rfl, -⟩ := hw.shared.ofKey _ _ hkey
    rw [List.foldl_cons]
    have hone : expireOne cutoff relay (object.key, session) =
        if object.lastSeen < cutoff then relay.dropSession object.key object else relay := by
      unfold expireOne
      rw [hobject]
    rw [hone]
    split
    · have hrest : ∀ entry ∈ entries, (relay.dropSession object.key object).sessions[entry.1]? = some entry.2 := by
        intro entry hmem
        exact (getElem?_erase_ne (hne.1 entry hmem)).trans (hs entry (List.mem_cons_of_mem _ hmem))
      obtain ⟨hw', hsettles⟩ := Wired.expireAll cutoff (hw.dropSession hobject hkey) hne.2 hrest
      exact ⟨hw', (hw.settles_drop _ _).trans hsettles⟩
    · exact Wired.expireAll cutoff hw hne.2 fun entry hmem => hs entry (List.mem_cons_of_mem _ hmem)

variable [Sub Time]

theorem Wired.expireSessions (hw : Wired relay) (o : WalkOrder) (now : Time) :
    Wired (relay.expireSessions o now) ∧ Settles relay (relay.expireSessions o now) := by
  refine Wired.expireAll (now - relay.config.idleTimeout) hw ?_ fun entry hmem => ?_
  · have hdistinct : relay.sessions.toList.Pairwise fun a b => a.1 ≠ b.1 :=
      ExtTreeMap.distinct_keys_toList.imp fun h e => h (by rw [e]; exact ReflCmp.compare_self)
    exact ((o.perm _).pairwise_iff fun h => Ne.symm h).2 hdistinct
  · exact ExtTreeMap.mem_toList_iff_getElem?_eq_some.1 ((o.mem_arrange _ _).1 hmem)

end

end Civ6LanBridge.SingleHost

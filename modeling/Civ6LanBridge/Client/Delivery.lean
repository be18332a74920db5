/-
One client, the network and the server. The network loses packets and delivers them in any order, each
at most once. The client numbers its packets from one again after it has reconnected, while the server
goes on comparing them with the largest number it has seen of the peer; so a new packet can be taken for
a copy of an old one, but only if the client has used its number before.
-/
import Civ6LanBridge.Client.Session
import Civ6LanBridge.Server.Sequence

namespace Civ6LanBridge

open Std FinMap Past AppState

/-! ## The client and the server -/

/-- The server, the client, and the packets of the client that are in flight. -/
structure Link where
  server : AppState
  user : RelayUser
  network : List (List UInt8)

/-- The message can be sent, and its number is checked when it arrives. -/
def RelayMessage.counts : RelayMessage → Bool
  | .relayProbe _ => false
  | message => message.payloadSize ≤ maxCiv6DatagramSize

namespace Link

variable (p : PeerId) (ip : VirtualIp)

/-- The client acts on its own; its callback resumes the peer on the server; a packet in flight is
delivered or lost; or the server deals with somebody else. -/
inductive Event
  | client (e : ClientEvent)
  | reconnect (roomCode : RoomCode) (now : Instant) (requestId : DiscoveryRequestId) (sentAtMs : UInt64)
  | deliver (o : WalkOrder) (relayPort port : UInt16) (packet : List UInt8) (limiterNow now : Instant)
  | lose (packet : List UInt8)
  | server (e : AppState.Event)

def address (port : UInt16) : SocketAddr := { ip := .v4 ip.address, port }

def Event.apply (l : Link) : Event → Link
  | client e =>
    let (packet, user) := l.user.apply e
    { l with user, network := packet.toList ++ l.network }
  | reconnect roomCode now requestId sentAtMs =>
    match l.server.resume roomCode (some p) now with
    | (.error _, s) => { l with server := s, user := (l.user.apply .reconnectFailed).2 }
    | (.ok peer, s) =>
      let (packet, user) := l.user.reconnected peer.connectionEpoch requestId sentAtMs
      { server := s, user, network := packet.toList ++ l.network }
  | deliver o relayPort port packet limiterNow now =>
    { l with
      server := (handleDatagram o relayPort l.server (address ip port) packet limiterNow now).2
      network := l.network.erase packet }
  | lose packet => { l with network := l.network.erase packet }
  | server e => { l with server := e.apply l.server }

/-- The address of the client is its own: no other peer enters a room with it, and nobody else sends from it. -/
def Foreign : AppState.Event → Prop
  | .control _ op => ∀ roomId q ip' now, op.enters = some (roomId, q, ip', now) → (q = p ↔ ip' = ip)
  | .datagram _ _ source _ _ _ => source.ip ≠ .v4 ip.address

def Event.Allowed (l : Link) : Event → Prop
  | client e => l.user.activity ∈ e.during
  | reconnect .. => l.user.activity = .resuming
  | deliver _ _ _ packet _ _ | lose packet => packet ∈ l.network
  | server e => e.Allowed l.server ∧ Foreign p ip e

def Happens (l : Link) (e : Event) (l' : Link) : Prop := e.Allowed p ip l ∧ l' = e.apply p ip l

/-- The peer has the address, and nobody else. -/
def Seated (r : RoomRouter) : Prop :=
  ∀ (q : PeerId) (peer : PeerState), r.peers[q]? = some peer → (q = p ↔ peer.virtualIp = ip)

/-- A new session with a server that has not seen a number of the peer. -/
structure Starts (config : RouterConfig) (l : Link) : Prop where
  router : RoomRouter.Reachable config l.server.router
  seated : Seated p ip l.server.router
  unseen : l.server.sequenceTracker.lastSeen[p]? = none
  session : ∃ transportPathId epoch sessionConfig, l.user =
    { session := .withConfig transportPathId epoch sessionConfig, activity := .idle }
  network : l.network = []

abbrev Moves := List (Move Link Event)

/-! ## Places -/

/-- The message for which an event draws a number, if it does. -/
def Event.message? (l : Link) : Event → Option RelayMessage
  | client e => e.message? l.user.session
  | reconnect roomCode now requestId _ =>
    match (l.server.resume roomCode (some p) now).1 with
    | .error _ => none
    | .ok _ => some (.relayProbe requestId)
  | _ => none

def Event.isReconnect : Event → Bool
  | reconnect .. => true
  | _ => false

/-- How many numbers have been drawn since the session last reconnected; the probe after that is the first. -/
def drawn : Moves → Nat
  | [] => 0
  | m :: h =>
    match m.event.message? p m.before with
    | none => drawn h
    | some _ => (if m.event.isReconnect then 0 else drawn h) + 1

/-- The places of the packets that the client has sent, probes apart: the how-manieth number since the
session last reconnected, where all numbers from the largest one on are the same. -/
def places : Moves → List Nat
  | [] => []
  | m :: h =>
    match (m.event.message? p m.before).filter (·.counts) with
    | none => places h
    | some _ => min (drawn p (m :: h)) (2 ^ 64 - 1) :: places h

/-! ## Packets and numbers -/

/-- The number for which a packet is checked, if it is. -/
def number? (packet : List UInt8) : Option Nat :=
  match RelayEnvelope.decode packet with
  | .error _ => none
  | .ok envelope =>
    match envelope.message with
    | .relayProbe _ => none
    | _ => some envelope.meta.sequence.toNat

/-- A message that is sent is checked for the number it was given. -/
theorem sent_number (message : RelayMessage) («meta» : RelayEnvelopeMeta) :
    (RelayEnvelope.encode { «meta», message }).toOption.toList.filterMap number? =
      if message.counts then [«meta».sequence.toNat] else [] := by
  unfold RelayEnvelope.encode
  -- the round trip of the codec: what is encoded decodes to the same message and number
  by_cases hfits : message.PayloadFits
  · obtain ⟨b, henc, -, -, hdec⟩ := encode_fits (e := { «meta», message }) hfits
    rw [payloadFits_iff] at hfits
    rw [show encodePacket message (some «meta») relayProtocolVersion = .ok b from henc]
    show List.filterMap number? [b] = _
    cases message <;> simp [number?, hdec, RelayMessage.counts, hfits]
  · rw [encodePacket_error _ _ hfits]
    rw [payloadFits_iff] at hfits
    show List.filterMap number? [] = _
    cases message <;> simp [RelayMessage.counts, hfits]

/-! ## One event -/

section

variable {p ip} {s s' : AppState} {e : AppState.Event} {q : PeerId} {k : UInt64}

/-- Only a check puts a number into the tracker. -/
theorem tracked_step (hw : s.router.WF) (he : AppState.Happens s e s') (hk : s'.sequenceTracker.lastSeen[p]? = some k) :
    s.sequenceTracker.lastSeen[p]? = some k ∨ Checks p k { before := s, event := e, after := s' } := by
  rcases tracker_step hw he with ⟨hsame, -⟩ | ⟨q, n, hn, hchecks, htracker⟩
  · rw [hsame] at hk
    exact Or.inl hk
  · rw [htracker] at hk
    rcases SequenceTracker.recordSequence_sub hn hk with ⟨rfl, rfl⟩ | hk
    · exact Or.inr ((hchecks _ _).2 ⟨rfl, rfl⟩)
    · exact Or.inl hk

theorem Passes.seated {source : SocketAddr} {packet : List UInt8} {limiterNow : Instant} {peer : PeerState}
    {envelope : RelayEnvelope} (hs : Seated p ip s.router) (hpass : Passes s source packet limiterNow q peer envelope) :
    q = p ↔ source.ip = .v4 ip.address := by
  rw [hs q peer hpass.registered, hpass.source]
  constructor
  · intro h
    rw [h]
  · intro h
    cases hv : peer.virtualIp
    cases ip
    rw [hv] at h
    cases h
    rfl

theorem Passes.number {source : SocketAddr} {packet : List UInt8} {limiterNow : Instant} {peer : PeerState}
    {envelope : RelayEnvelope} (hpass : Passes s source packet limiterNow q peer envelope)
    (hmsg : ∀ requestId, envelope.message ≠ .relayProbe requestId) :
    number? packet = some envelope.meta.sequence.toNat := by
  unfold number?
  rw [hpass.decoded]
  dsimp only
  split
  · rename_i requestId e
    exact absurd e (hmsg requestId)
  · rfl

/-- The address stays with the peer. -/
theorem seated_step (hw : s.router.WF) (he : AppState.Happens s e s') (hs : Seated p ip s.router)
    (henters : ∀ o op roomId q ip' now, e = .control o op → op.enters = some (roomId, q, ip', now) →
      (q = p ↔ ip' = ip)) :
    Seated p ip s'.router := by
  intro q peer hq
  rcases happening_peer hw (he.happening hw) q with e' | ⟨w, now, hold, -, e'⟩ | ⟨o, op, rfl, -, -, hc⟩
  · rw [e'] at hq
    exact hs q peer hq
  · rw [e'] at hq
    cases hq
    exact hs q w hold
  · have hold := hs q
    generalize s.router.peers[q]? = x at hc hold
    generalize s'.router.peers[q]? = y at hc hq
    cases hc with
    | same => exact hold peer hq
    | entered hop =>
      cases hq
      exact henters o op _ q _ _ rfl hop
    | left => cases hq
    | @seen w =>
      cases hq
      exact hold w rfl
    | @resumed w =>
      cases hq
      rw [RoomRouter.resumed_virtualIp]
      exact hold w rfl
    | @swept w =>
      split at hq
      · cases hq
      · cases hq
        rw [PeerState.afterSilence_virtualIp]
        exact hold w rfl

/-- A resume is the operation of the router, or it does nothing. -/
theorem resume_happens (s : AppState) (roomCode : RoomCode) (p : PeerId) (now : Instant) :
    (s.resume roomCode (some p) now).2 = s ∨
      ∃ roomId, AppState.Happens s (.control .sorted (.resumePeer roomId p now))
        (s.resume roomCode (some p) now).2 := by
  unfold AppState.resume
  cases s.roomOfCode roomCode with
  | error e => exact Or.inl rfl
  | ok roomId =>
    refine Or.inr ⟨roomId, ⟨trivial, trivial⟩, ?_⟩
    show _ = { s with router := (RouterOp.exec .sorted s.router (.resumePeer roomId p now)).2 }
    rcases hres : s.router.resumePeer roomId p now with ⟨_ | snapshot, r'⟩
    · simp only [AppState.routed, hres, RouterOp.exec, Outcome.map]
    · simp only [AppState.routed, hres, RouterOp.exec, Outcome.map]

end

/-- A reconnect is a resume on the server, and what the client makes of the answer. -/
theorem reconnect_cases (p : PeerId) (ip : VirtualIp) (l : Link) (roomCode : RoomCode) (now : Instant)
    (requestId : DiscoveryRequestId) (sentAtMs : UInt64) :
    let e := Event.reconnect roomCode now requestId sentAtMs
    (e.apply p ip l).server = (l.server.resume roomCode (some p) now).2 ∧
      (e.message? p l = none ∧ (e.apply p ip l).user = (l.user.apply .reconnectFailed).2 ∧
          (e.apply p ip l).network = l.network ∨
        ∃ epoch, e.message? p l = some (.relayProbe requestId) ∧
          (e.apply p ip l).user = (l.user.reconnected epoch requestId sentAtMs).2 ∧
          (e.apply p ip l).network = (l.user.reconnected epoch requestId sentAtMs).1.toList ++ l.network) := by
  simp only [Event.apply, Event.message?]
  rcases l.server.resume roomCode (some p) now with ⟨_ | peer, s⟩
  · exact ⟨rfl, Or.inl ⟨rfl, rfl, rfl⟩⟩
  · exact ⟨rfl, Or.inr ⟨peer.connectionEpoch, rfl, rfl, rfl⟩⟩

variable {p ip} in
/-- What happens to the server when something happens to the link. -/
theorem server_step {l l' : Link} {e : Event} (he : Happens p ip l e l') : l'.server = l.server ∨
    ∃ e', AppState.Happens l.server e' l'.server ∧
      ∀ o op roomId q ip' now, e' = .control o op → op.enters = some (roomId, q, ip', now) → (q = p ↔ ip' = ip) := by
  obtain ⟨hallowed, rfl⟩ := he
  cases e with
  | client => exact Or.inl rfl
  | lose => exact Or.inl rfl
  | server e =>
    refine Or.inr ⟨e, ⟨hallowed.1, rfl⟩, ?_⟩
    rintro o op roomId q ip' now rfl
    exact hallowed.2 roomId q ip' now
  | deliver o relayPort port packet limiterNow now =>
    exact Or.inr ⟨.datagram o relayPort (address ip port) packet limiterNow now, ⟨trivial, rfl⟩, nofun⟩
  | reconnect roomCode now requestId sentAtMs =>
    rw [(reconnect_cases p ip l roomCode now requestId sentAtMs).1]
    refine (resume_happens l.server roomCode p now).imp_right fun ⟨roomId, he⟩ => ⟨_, he, ?_⟩
    rintro o op roomId q ip' now ⟨⟩ hop
    cases hop

/-! ## Runs -/

/-- The session counts its numbers; a number of a packet that has been sent is in flight or gone; and the
server has only seen what is gone. -/
structure Accounts (p : PeerId) (h : Moves) (l : Link) : Prop where
  counted : l.user.session.nextSequence.toNat = min (drawn p h) (2 ^ 64 - 1)
  numbers : ∃ gone : List Nat, (l.network.filterMap number? ++ gone).Perm (places p h) ∧
    ∀ k, l.server.sequenceTracker.lastSeen[p]? = some k → k.toNat ∈ gone

section

variable {p ip} {config : RouterConfig} {h : Moves} {l l' : Link} {e : Event} {m : Move Link Event}

/-- What the client sends is in flight, at the next place. -/
theorem Accounts.sent (ha : Accounts p h m.before) {start n : UInt64} {packet : Option (List UInt8)}
    (hstart : start = if m.event.isReconnect then 0 else m.before.user.session.nextSequence)
    (hreconnect : m.event.isReconnect → m.event.message? p m.before ≠ none)
    (hd : Draws start (m.event.message? p m.before) packet n) (hn : l'.user.session.nextSequence = n)
    (htracker : l'.server.sequenceTracker = m.before.server.sequenceTracker)
    (hnetwork : l'.network = packet.toList ++ m.before.network) : Accounts p (m :: h) l' := by
  obtain ⟨gone, hperm, hgone⟩ := ha.numbers
  rw [← htracker] at hgone
  have hstart' : start.toNat = min (if m.event.isReconnect then 0 else drawn p h) (2 ^ 64 - 1) := by
    rw [hstart]
    split
    · rfl
    · exact ha.counted
  -- no message leaves the session alone, a message draws the next number
  generalize hmsg : m.event.message? p m.before = message? at hd hreconnect
  cases hd with
  | nothing =>
    have hno : ¬ m.event.isReconnect = true := fun e => hreconnect e rfl
    rw [if_neg hno] at hstart
    refine ⟨?_, gone, ?_, hgone⟩
    · rw [hn, hstart, drawn, hmsg]
      exact ha.counted
    · rw [hnetwork, places, hmsg]
      exact hperm
  | @number message «meta» hseq =>
    have hnext := toNat_next hstart'
    rw [← hseq] at hnext
    have hdrawn : drawn p (m :: h) = (if m.event.isReconnect then 0 else drawn p h) + 1 := by
      rw [drawn, hmsg]
    rw [← hdrawn] at hnext
    refine ⟨by rw [hn, hnext], gone, ?_, hgone⟩
    rw [hnetwork, List.filterMap_append, sent_number, hnext, places, hmsg]
    cases hcounts : message.counts with
    | false =>
      rw [Option.filter_some, hcounts]
      exact hperm
    | true =>
      rw [Option.filter_some, hcounts]
      exact hperm.cons _

/-- A packet that is no longer in flight is gone. -/
theorem removed_numbers {network : List (List UInt8)} {packet : List UInt8} {gone all : List Nat}
    (hin : packet ∈ network) (hperm : (network.filterMap number? ++ gone).Perm all) :
    ((network.erase packet).filterMap number? ++ ((number? packet).toList ++ gone)).Perm all := by
  -- the number of the packet, if it has one, moves from the network to the gone ones
  have hone : [packet].filterMap number? = (number? packet).toList := by
    rw [List.filterMap_cons, List.filterMap_nil]
    cases number? packet <;> rfl
  have hnetwork : (network.filterMap number?).Perm
      ((number? packet).toList ++ (network.erase packet).filterMap number?) := by
    rw [← hone, ← List.filterMap_append]
    exact (List.perm_cons_erase hin).filterMap number?
  rw [← List.append_assoc]
  exact ((List.perm_append_comm.trans hnetwork.symm).append_right gone).trans hperm

theorem accounts_step (hw : l.server.router.WF) (hs : Seated p ip l.server.router) (he : Happens p ip l e l')
    (ha : Accounts p h l) : Accounts p ({ before := l, event := e, after := l' } :: h) l' := by
  obtain ⟨hallowed, rfl⟩ := he
  cases e with
  | client e => exact ha.sent rfl nofun (l.user.apply_draws e) rfl rfl rfl
  | reconnect roomCode now requestId sentAtMs =>
    obtain ⟨hserver, hcases⟩ := reconnect_cases p ip l roomCode now requestId sentAtMs
    have htracker : (l.server.resume roomCode (some p) now).2.sequenceTracker = l.server.sequenceTracker := by
      rcases resume_happens l.server roomCode p now with e | ⟨roomId, -, e⟩
      · rw [e]
      · rw [e]
        rfl
    rw [← hserver] at htracker
    generalize (Event.reconnect roomCode now requestId sentAtMs).apply p ip l = l' at hcases htracker
    rcases hcases with ⟨hmsg, huser, hnetwork⟩ | ⟨epoch, hmsg, huser, hnetwork⟩
    · obtain ⟨gone, hperm, hgone⟩ := ha.numbers
      rw [← htracker] at hgone
      refine ⟨?_, gone, ?_, hgone⟩
      · rw [huser, drawn, hmsg]
        exact ha.counted
      · rw [hnetwork, places, hmsg]
        exact hperm
    · refine ha.sent rfl (fun _ => ?_) ?_ rfl htracker hnetwork
      · rw [hmsg]
        simp
      · rw [hmsg, huser]
        exact l.user.reconnected_draws epoch requestId sentAtMs
  | lose packet =>
    obtain ⟨gone, hperm, hgone⟩ := ha.numbers
    exact ⟨ha.counted, _, removed_numbers hallowed hperm, fun k hk => List.mem_append_right _ (hgone k hk)⟩
  | server e =>
    obtain ⟨gone, hperm, hgone⟩ := ha.numbers
    refine ⟨ha.counted, gone, hperm, fun k hk => ?_⟩
    rcases tracked_step hw ⟨hallowed.1, rfl⟩ hk with hk | ⟨_, _, _, _, _, _, peer, envelope, rfl, hpass, -⟩
    · exact hgone k hk
    -- nobody else sends from the address, so no number of the peer is checked
    · exact absurd ((Passes.seated hs hpass).1 rfl) hallowed.2
  | deliver o relayPort port packet limiterNow now =>
    obtain ⟨gone, hperm, hgone⟩ := ha.numbers
    refine ⟨ha.counted, _, removed_numbers hallowed hperm, fun k hk => ?_⟩
    have he : AppState.Happens l.server (.datagram o relayPort (address ip port) packet limiterNow now) _ :=
      ⟨trivial, rfl⟩
    rcases tracked_step hw he hk with hk | ⟨_, _, _, _, _, _, peer, envelope, hev, hpass, hmsg, rfl, -⟩
    · exact List.mem_append_right _ (hgone k hk)
    · cases hev
      rw [Passes.number hpass hmsg]
      exact List.mem_append_left _ List.mem_cons_self

/-! ## Duplicates -/

/-- A packet of the client arrives and is refused as a duplicate. -/
def Refuses (ip : VirtualIp) (m : Move Link Event) : Prop :=
  ∃ o relayPort port packet limiterNow now n, m.event = .deliver o relayPort port packet limiterNow now ∧
    (handleDatagram o relayPort m.before.server (address ip port) packet limiterNow now).1 =
      .error (.error (.duplicateSequence n))

/-- The address stays with the peer over a run, and the accounts are kept. -/
theorem run_accounts (hr : Run (Starts p ip config) (Happens p ip) h l) :
    RoomRouter.Reachable config l.server.router ∧ Seated p ip l.server.router ∧ Accounts p h l := by
  induction hr with
  | init hs =>
    obtain ⟨_, _, _, hsession⟩ := hs.session
    refine ⟨hs.router, hs.seated, ?_, [], ?_, ?_⟩
    · rw [hsession]
      rfl
    · rw [hs.network]
      exact .nil
    · rw [hs.unseen]
      nofun
  | @step h l l' e _ he ih =>
    obtain ⟨hrouter, hs, ha⟩ := ih
    have hw := hrouter.wf
    refine ⟨?_, ?_, accounts_step hw hs he ha⟩
    · rcases server_step he with e' | ⟨e', he', -⟩
      · rw [e']
        exact hrouter
      · exact he'.router hrouter
    · rcases server_step he with e' | ⟨e', he', henters⟩
      · rw [e']
        exact hs
      · exact seated_step hw he' hs henters

/-- A packet that is refused as a duplicate has the number of a packet that is gone. -/
theorem refused_repeats (hr : Run (Starts p ip config) (Happens p ip) h l) (hallowed : e.Allowed p ip l)
    (hrefused : Refuses ip { before := l, event := e, after := l' }) : ¬ (places p h).Nodup := by
  obtain ⟨o, relayPort, port, packet, limiterNow, now, n, rfl, herror⟩ := hrefused
  obtain ⟨hrouter, hs, -, gone, hperm, hgone⟩ := run_accounts hr
  have hh := handleDatagram_handles o relayPort hrouter.wf (address ip port) packet limiterNow now
  generalize handleDatagram o relayPort l.server (address ip port) packet limiterNow now = x at hh herror
  have hin : packet ∈ l.network := hallowed
  cases hh with
  | refused hf =>
    cases herror
    exact absurd rfl (hf n)
  | failed _ _ _ _ hf =>
    cases herror
    exact absurd rfl (hf n)
  | answered => cases herror
  | routed => cases herror
  | @duplicate q peer envelope hpass hmsg hrec =>
    obtain rfl : q = p := (Passes.seated hs hpass).2 rfl
    -- its number is in flight and gone at once, so two messages have had it
    intro hnodup
    have hflight := List.mem_filterMap.2 ⟨packet, hin, Passes.number hpass hmsg⟩
    have hseen := hgone _ (recordSequence_duplicate hrec).2
    exact (List.nodup_append.1 (hperm.nodup_iff.2 hnodup)).2.2 _ hflight _ hseen rfl

theorem places_sublist : (places p h).Sublist (places p (m :: h)) := by
  rw [places]
  split
  · exact .refl _
  · exact List.sublist_cons_self ..

/-- No packet is refused as a duplicate if no two of them, probes apart, have been sent at the same place. -/
theorem no_duplicates (hr : Run (Starts p ip config) (Happens p ip) h l) (hnodup : (places p h).Nodup) :
    ∀ m ∈ h, ¬ Refuses ip m := by
  induction hr with
  | init => simp
  | step hr he ih =>
    have hnodup := hnodup.sublist places_sublist
    intro m hm
    rcases List.mem_cons.1 hm with rfl | hm
    · exact fun hrefused => refused_repeats hr he.1 hrefused hnodup
    · exact ih hnodup m hm

end

/-- The address of a registered peer is its own. -/
theorem seated_registered {r : RoomRouter} (hw : r.WF) {p : PeerId} {peer : PeerState} (hp : r.peers[p]? = some peer) :
    Seated p peer.virtualIp r := by
  intro q w hq
  constructor
  · rintro rfl
    rw [hp] at hq
    cases hq
    rfl
  · exact hw.addresses.unique hq hp

end Link

namespace RoomRouter.Example

open Link

/-- The guest has a session with the server, in which it may play. -/
def linked : Link :=
  { server := booted.final selecting, user := { session := .new (some 1) 1, activity := .idle }, network := [] }

theorem linked_starts : Starts guest guestIp {} linked := by
  have hrouter := starts_router (replay_run booted_starts selecting_permitted)
  have hguest : linked.server.router.peers[guest]? = some connectedGuest := by decide +kernel
  exact ⟨hrouter, seated_registered hrouter.wf hguest, by decide +kernel, ⟨_, _, _, rfl⟩, rfl⟩

def plays (sentAtMs : UInt64) : Link.Event := .client (.sendGameplay (.gameplayPacket session ⟨62056⟩ [7]) sentAtMs)

/-- What the guest sends in its first epoch. -/
def sent (n sentAtMs : UInt64) : List UInt8 :=
  frame relayProtocolVersion MessageKind.gameplayPacket
    (({ sequence := n, connectionEpoch := 1, sentAtMs } : RelayEnvelopeMeta).fields ++ pathBytes (some 1) 0 ++
      (Uuid.ofByte 5).bytes ++ [0xf2, 0x68, 7])

def arrives (packet : List UInt8) : Link.Event := .deliver .sorted 32000 32000 packet 0 0

/-- Three probes fail, the session reconnects, and the loop is dropped. -/
def reconnecting : List Link.Event :=
  [.client .cancel, .reconnect code 1 (.ofByte 8) 0, .client .probeFailed, .client (.wake (.ofByte 8) 0),
    .client .probeFailed,
    .client (.wake (.ofByte 8) 0), .client .probeFailed, .client (.runWithReconnect (.ofByte 8) 0)]

/-- Packet 2 has been delivered, and the session has reconnected. -/
def returning : List Link.Event := reconnecting ++ [arrives (sent 2 0), plays 0, plays 0]

/-- The next packet is a packet 2, too. -/
def again : List Link.Event := arrives (sent 2 1) :: plays 1 :: returning

theorem returning_permitted : Past.Permitted (Event.apply guest guestIp) (fun l e => e.Allowed guest guestIp l) linked
    returning :=
  ⟨show _ ∈ _ by decide +kernel, show _ = _ by decide +kernel, show _ ∈ _ by decide +kernel,
    show _ ∈ _ by decide +kernel, show _ ∈ _ by decide +kernel, show _ ∈ _ by decide +kernel,
    show _ ∈ _ by decide +kernel, show _ ∈ _ by decide +kernel, show _ ∈ _ by decide +kernel,
    show _ ∈ _ by decide +kernel, show _ ∈ _ by decide +kernel, trivial⟩

theorem again_permitted : Past.Permitted (Event.apply guest guestIp) (fun l e => e.Allowed guest guestIp l)
    linked again :=
  ⟨show _ ∈ _ by decide +kernel, show _ ∈ _ by decide +kernel, returning_permitted⟩

end RoomRouter.Example

open RoomRouter Link in
/-- The guest has sent packets 1 and 2 and reconnected, and nothing has been taken for a duplicate. -/
theorem reconnected_guest : List.Forall (fun m => ¬ Refuses Example.guestIp m)
    (Past.replay (Event.apply Example.guest Example.guestIp) Example.linked Example.returning) :=
  List.forall_iff_forall_mem.2
    (no_duplicates (run_replay _ _ Example.linked_starts Example.returning_permitted) (by decide +kernel))

open RoomRouter Link in
/-- After the guest has reconnected, its next packet is taken for one from before. -/
theorem new_packet_refused : ¬ ∀ p ip config h l, Run (Starts p ip config) (Happens p ip) h l →
    ∀ m ∈ h, ¬ Refuses ip m := by
  intro hall
  refine hall _ _ _ _ _ (run_replay _ _ Example.linked_starts Example.again_permitted) _ List.mem_cons_self
    ⟨_, _, _, _, _, _, 2, rfl, ?_⟩
  decide +kernel

end Civ6LanBridge

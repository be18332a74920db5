/-
The server over time: the events that change it, its runs with their history, and what each kind of
row can have gone through in one event. What a datagram does to the router is a sign of life of its
sender and at most the one operation its message asks for.
-/
import Civ6LanBridge.Lib.Past
import Civ6LanBridge.Router.Change
import Civ6LanBridge.Server.Api
import Civ6LanBridge.Server.Gate

namespace Civ6LanBridge

open Std FinMap Past

/-! ## Events -/

namespace RouterOp

/-- The operations that requests and the sweep perform; the others are for datagrams. -/
def OfControl : RouterOp → Prop
  | markPeerSeen .. | beginDiscovery .. | routeGameplayDatagram .. | dispatch _ => False
  | _ => True

/-- The reading of the clock an operation is given. -/
def now? : RouterOp → Option Instant
  | joinRoom _ _ _ now | restorePeer _ _ _ now | markPeerSeen _ now | resumePeer _ _ now | registerHost _ _ now _
  | heartbeatHost _ now | heartbeatHostForRoom _ _ _ now | beginDiscovery _ _ _ _ now | selectHost _ _ _ now _
  | routeGameplayDatagram _ _ now | expire now => some now
  | dispatch (.discovery _ _ _ _ now) | dispatch (.discoveryResponse _ _ _ _ now)
      | dispatch (.gameplay _ _ _ _ now) => some now
  | createRoomWithId .. | removeEmptyRoom _ | leaveRoom .. | unregisterHost _ | removeGameplaySession _ => none

end RouterOp

namespace AppState

/-- A request or a sweep acts on the router, or a datagram arrives. -/
inductive Event
  | control (o : WalkOrder) (op : RouterOp)
  | datagram (o : WalkOrder) (relayPort : UInt16) (source : SocketAddr) (packet : List UInt8) (limiterNow now : Instant)

/-- The state an event leaves behind. -/
def Event.apply (s : AppState) : Event → AppState
  | control o op => { s with router := (op.exec o s.router).2 }
  | datagram o relayPort source packet limiterNow now => (handleDatagram o relayPort s source packet limiterNow now).2

def Event.Allowed (s : AppState) : Event → Prop
  | control _ op => op.OfControl ∧ op.Fresh s.router
  | datagram .. => True

def Event.now? : Event → Option Instant
  | control _ op => op.now?
  | datagram _ _ _ _ _ now => some now

def Happens (s : AppState) (e : Event) (s' : AppState) : Prop := e.Allowed s ∧ s' = e.apply s

/-- A server that has just started: no rooms yet, and no sequence numbers seen. -/
structure Starts (config : RouterConfig) (s : AppState) : Prop where
  router : s.router = RoomRouter.new config
  sequenceTracker : s.sequenceTracker = { lastSeen := ∅ }

abbrev Moves := List (Move AppState Event)

/-- The readings of the clock in a history. -/
def readings (h : Moves) : List Instant := h.filterMap fun m => m.event.now?

end AppState

open AppState

/-! ## What a datagram leaves alone -/

section

variable {o : WalkOrder} {relayPort : UInt16} {r r' : RoomRouter} {p : PeerId} {peer : PeerState}
  {envelope : RelayEnvelope} {now : Instant} {out : List OutboundDatagram}

theorem beginDiscovery_frame {roomId : RoomId} {q : PeerId} {requestId : DiscoveryRequestId} {port : Civ6UdpPort}
    (he : Effect o r (.beginDiscovery roomId q requestId port now) r') :
    ∃ discoveries, r' = { r with discoveries } := by
  cases he <;> exact ⟨_, rfl⟩

theorem routeGameplay_frame {sessionId : GameplaySessionId} {q : PeerId}
    (he : Effect o r (.routeGameplayDatagram sessionId q now) r') : ∃ gameplay, r' = { r with gameplay } := by
  cases he; exact ⟨_, rfl⟩

theorem Routed.frame (h : Routed o relayPort r p peer envelope now out r') :
    ∃ discoveries gameplay, r' = { r with discoveries, gameplay } := by
  cases h with
  | request _ _ he => obtain ⟨discoveries, rfl⟩ := beginDiscovery_frame he; exact ⟨discoveries, r.gameplay, rfl⟩
  | response => exact ⟨r.discoveries, r.gameplay, rfl⟩
  | gameplay _ _ _ _ he => obtain ⟨gameplay, rfl⟩ := routeGameplay_frame he; exact ⟨r.discoveries, gameplay, rfl⟩

end

/-! ## What an event does -/

/-- What an event does to the router: nothing, an operation of the control plane that succeeds, a sign of
life, or a datagram that is routed. -/
inductive Happening (s : AppState) : Event → RoomRouter → Prop
  | nothing {e} : Happening s e s.router
  | operation {o op r'} : op.OfControl → op.Fresh s.router → op.exec o s.router = .ok () r' → Effect o s.router op r' →
      Happening s (.control o op) r'
  | heard {o relayPort source packet limiterNow now p peer envelope} :
      Passes s source packet limiterNow p peer envelope →
      Happening s (.datagram o relayPort source packet limiterNow now) (s.router.hearing p now)
  | routed {o relayPort source packet limiterNow now p peer envelope out r'} :
      Passes s source packet limiterNow p peer envelope →
      Routed o relayPort (s.router.hearing p now) p { peer with lastSeen := now } envelope now out r' →
      (handleDatagram o relayPort s source packet limiterNow now).1 = .ok out →
      Happening s (.datagram o relayPort source packet limiterNow now) r'

/-! ## Runs -/

variable {config : RouterConfig} {s s' : AppState} {e : Event} {h : Moves} {init : AppState → Prop}

theorem AppState.Happens.router (he : Happens s e s') (h : RoomRouter.Reachable config s.router) :
    RoomRouter.Reachable config s'.router := by
  obtain ⟨hallowed, rfl⟩ := he
  cases e with
  | control o op => exact h.exec o hallowed.2
  | datagram o relayPort source packet limiterNow now =>
    exact (AppState.Step.datagram o relayPort source packet limiterNow now).router h

/-- The router of a run that starts with a reachable router stays reachable. -/
theorem run_router (h0 : ∀ s, init s → RoomRouter.Reachable config s.router) (hr : Run init Happens h s) :
    RoomRouter.Reachable config s.router :=
  hr.invariant (P := fun s => RoomRouter.Reachable config s.router) h0 fun _ _ _ hp he => he.router hp

theorem starts_router (hr : Run (Starts config) Happens h s) : RoomRouter.Reachable config s.router :=
  run_router (fun _ hs => .init hs.router) hr

theorem AppState.Happens.happening (h : s.router.WF) (he : Happens s e s') : Happening s e s'.router := by
  obtain ⟨hallowed, rfl⟩ := he
  cases e with
  | control o op =>
    show Happening s _ (op.exec o s.router).2
    obtain ⟨e, he⟩ | ⟨r', he, heff⟩ := RoomRouter.exec_does o h op
    · rw [he]; exact .nothing
    · rw [he]; exact .operation hallowed.1 hallowed.2 he heff
  | datagram o relayPort source packet limiterNow now =>
    show Happening s _ (handleDatagram o relayPort s source packet limiterNow now).2.router
    have hh := handleDatagram_handles o relayPort h source packet limiterNow now
    generalize hx : handleDatagram o relayPort s source packet limiterNow now = x at hh
    cases hh with
    | refused => exact .nothing
    | answered hp => exact .heard hp
    | duplicate hp => exact .heard hp
    | failed hp => exact .heard hp
    | routed hp _ _ _ hr => exact .routed hp hr (by rw [hx])

/-! ## What a history tells -/

/-- The datagram decodes and comes from the address of the peer. -/
def FromPeer (s : AppState) (source : SocketAddr) (packet : List UInt8) (p : PeerId) (envelope : RelayEnvelope) :
    Prop :=
  RelayEnvelope.decode packet = .ok envelope ∧ ∃ ip, source.ip = .v4 ip ∧ s.router.peerForVirtualIp ⟨ip⟩ = some p

/-- The event is a datagram with the message of the peer, at the time, and it is accepted. -/
def AppState.Event.Brings (s : AppState) (p : PeerId) (message : RelayMessage) (t : Instant) : Event → Prop
  | .control .. => False
  | .datagram o relayPort source packet limiterNow now => now = t ∧
      ∃ envelope out, FromPeer s source packet p envelope ∧
      envelope.message = message ∧ (handleDatagram o relayPort s source packet limiterNow now).1 = .ok out

/-- The operation of the router that an event performs, with success. -/
inductive Performs (s : AppState) (e : Event) : RouterOp → Prop
  | control {o op} : e = .control o op → op.OfControl → (op.exec o s.router).1 = .ok () → Performs s e op
  | asks {p roomId requestId port payload t} : e.Brings s p (.discoveryRequest requestId port payload) t →
      Performs s e (.beginDiscovery roomId p requestId port t)
  | plays {p sessionId port payload t} : e.Brings s p (.gameplayPacket sessionId port payload) t →
      Performs s e (.routeGameplayDatagram sessionId p t)

/-- The peer leaves, or a sweep removes it. -/
def Departs (p : PeerId) (m : Move AppState Event) : Prop :=
  m.before.router.peers[p]? ≠ none ∧ m.after.router.peers[p]? = none

/-- The connected peer is suspended. -/
def Suspends (p : PeerId) (m : Move AppState Event) : Prop :=
  ∃ peer peer', m.before.router.peers[p]? = some peer ∧ peer.disconnectedAt = none ∧
    m.after.router.peers[p]? = some peer' ∧ peer'.disconnectedAt ≠ none

section

variable {r' : RoomRouter} {source : SocketAddr} {packet : List UInt8} {p : PeerId} {peer : PeerState}
  {envelope : RelayEnvelope} {limiterNow now : Instant}

theorem Passes.fromPeer (hw : s.router.WF) (hp : Passes s source packet limiterNow p peer envelope) :
    FromPeer s source packet p envelope :=
  ⟨hp.decoded, _, hp.source, (hw.addresses _ p).2 ⟨peer, hp.registered, rfl⟩⟩

theorem FromPeer.registered (hw : s.router.WF) (hfrom : FromPeer s source packet p envelope) :
    ∃ peer, s.router.peers[p]? = some peer ∧ source.ip = .v4 peer.virtualIp.address := by
  obtain ⟨-, ip, hip, hlook⟩ := hfrom
  obtain ⟨peer, hp, hpip⟩ := (hw.addresses _ p).1 hlook
  exact ⟨peer, hp, by rw [hpip]; exact hip⟩

/-- What comes from a peer gets past the gate as nobody else's, and as no other message. -/
theorem FromPeer.passes (hw : s.router.WF) (hfrom : FromPeer s source packet p envelope) {q : PeerId}
    {envelope' : RelayEnvelope} (hpass : Passes s source packet limiterNow q peer envelope') :
    q = p ∧ envelope' = envelope := by
  obtain ⟨peer', hp, hsource⟩ := hfrom.registered hw
  obtain ⟨hq, -, he⟩ := hpass.sender hw hp hsource hfrom.1
  exact ⟨hq, he⟩

/-- What is accepted has got past the gate. -/
theorem accepted_passes (hw : s.router.WF) {o : WalkOrder} {relayPort : UInt16} {out : List OutboundDatagram}
    (hok : (handleDatagram o relayPort s source packet limiterNow now).1 = .ok out) :
    ∃ p peer envelope, Passes s source packet limiterNow p peer envelope := by
  have hh := handleDatagram_handles o relayPort hw source packet limiterNow now
  generalize handleDatagram o relayPort s source packet limiterNow now = x at hh hok
  cases hh with
  | refused => cases hok
  | duplicate => cases hok
  | failed => cases hok
  | answered hpass => exact ⟨_, _, _, hpass⟩
  | routed hpass => exact ⟨_, _, _, hpass⟩

/-! ## Rows over one event -/

theorem happening_peer (hw : s.router.WF) (he : Happening s e r') (p : PeerId) :
    r'.peers[p]? = s.router.peers[p]? ∨
      (∃ peer now, s.router.peers[p]? = some peer ∧ peer.disconnectedAt = none ∧
        r'.peers[p]? = some { peer with lastSeen := now }) ∨
      ∃ o op, e = .control o op ∧ op.OfControl ∧ op.exec o s.router = .ok () r' ∧
        PeerChange s.router.config op p (s.router.peers[p]?) (r'.peers[p]?) := by
  have hheard : ∀ {q : PeerId} {peer : PeerState} {now : Instant} {r' : RoomRouter},
      s.router.peers[q]? = some peer → peer.disconnectedAt = none → r'.peers = (s.router.hearing q now).peers →
      r'.peers[p]? = s.router.peers[p]? ∨ ∃ peer now, s.router.peers[p]? = some peer ∧ peer.disconnectedAt = none ∧
        r'.peers[p]? = some { peer with lastSeen := now } := by
    intro q peer now r' hq hd e
    rw [e]
    by_cases hne : q = p
    · subst hne
      exact Or.inr ⟨peer, now, hq, hd, RoomRouter.hearing_peer hq⟩
    · exact Or.inl (RoomRouter.hearing_peer_ne hne)
  cases he with
  | nothing => exact Or.inl rfl
  | operation hop _ hok heff => exact Or.inr (Or.inr ⟨_, _, rfl, hop, hok, RoomRouter.effect_peer hw heff p⟩)
  | heard hp => exact (hheard hp.registered hp.connected rfl).imp_right Or.inl
  | routed hp hr =>
    obtain ⟨discoveries, gameplay, rfl⟩ := hr.frame
    exact (hheard hp.registered hp.connected rfl).imp_right Or.inl

theorem happening_host (hw : s.router.WF) (he : Happening s e r') (k : HostSessionId) :
    r'.hosts[k]? = s.router.hosts[k]? ∨ ∃ op, Performs s e op ∧
      HostChange s.router op k (s.router.hosts[k]?) (r'.hosts[k]?) := by
  cases he with
  | nothing => exact Or.inl rfl
  | operation hop hf hok heff =>
    exact Or.inr ⟨_, .control rfl hop (by rw [hok]; rfl), RoomRouter.effect_host hw hf heff k⟩
  | heard => exact Or.inl rfl
  | routed _ hr =>
    obtain ⟨discoveries, gameplay, rfl⟩ := hr.frame
    exact Or.inl rfl

theorem happening_discovery (hw : s.router.WF) (he : Happening s e r') (k : DiscoveryRequestId) :
    r'.discoveries[k]? = s.router.discoveries[k]? ∨ ∃ op, Performs s e op ∧
      DiscoveryChange s.router op k (s.router.discoveries[k]?) (r'.discoveries[k]?) := by
  cases he with
  | nothing => exact Or.inl rfl
  | operation hop hf hok heff =>
    exact Or.inr ⟨_, .control rfl hop (by rw [hok]; rfl), RoomRouter.effect_discovery hw heff k⟩
  | heard => exact Or.inl rfl
  | @routed _ _ _ _ _ now p peer _ _ r' hp hr hok =>
    cases hr with
    | response => exact Or.inl rfl
    | gameplay _ _ _ _ heff =>
      obtain ⟨gameplay, rfl⟩ := routeGameplay_frame heff
      exact Or.inl rfl
    | request hmsg _ heff =>
      have hc := RoomRouter.effect_discovery (hw.hearing p now) heff k
      change DiscoveryChange _ _ k (s.router.discoveries[k]?) _ at hc
      refine Or.inr ⟨.beginDiscovery peer.roomId p _ _ now, .asks ⟨rfl, _, _, hp.fromPeer hw, hmsg, hok⟩, ?_⟩
      generalize s.router.discoveries[k]? = x at hc ⊢
      generalize r'.discoveries[k]? = y at hc ⊢
      cases hc with
      | same => exact .same
      | ended => exact .ended
      | asked hask hq hroom hsame =>
        cases hask
        rw [RoomRouter.hearing_peer hp.registered] at hq
        cases hq
        exact .asked rfl hp.registered hroom hsame

theorem happening_gameplay (hw : s.router.WF) (he : Happening s e r') (k : GameplaySessionId) :
    r'.gameplay[k]? = s.router.gameplay[k]? ∨ ∃ op, Performs s e op ∧
      GameplayChange s.router op k (s.router.gameplay[k]?) (r'.gameplay[k]?) := by
  cases he with
  | nothing => exact Or.inl rfl
  | operation hop hf hok heff =>
    exact Or.inr ⟨_, .control rfl hop (by rw [hok]; rfl), RoomRouter.effect_gameplay hw hf heff k⟩
  | heard => exact Or.inl rfl
  | @routed _ _ _ _ _ now p peer _ _ r' hp hr hok =>
    cases hr with
    | response => exact Or.inl rfl
    | request _ _ heff =>
      obtain ⟨discoveries, rfl⟩ := beginDiscovery_frame heff
      exact Or.inl rfl
    | @gameplay sessionId _ _ _ _ _ _ hmsg _ _ _ heff =>
      have hf : (RouterOp.routeGameplayDatagram sessionId p now).Fresh (s.router.hearing p now) := trivial
      have hc := RoomRouter.effect_gameplay (hw.hearing p now) hf heff k
      change GameplayChange _ _ k (s.router.gameplay[k]?) _ at hc
      refine Or.inr ⟨_, .plays ⟨rfl, _, _, hp.fromPeer hw, hmsg, hok⟩, ?_⟩
      generalize s.router.gameplay[k]? = x at hc ⊢
      generalize r'.gameplay[k]? = y at hc ⊢
      cases hc with
      | same => exact .same
      | ended => exact .ended
      | selected hop => cases hop
      | played hop hlt hend => exact .played hop hlt hend

/-- A host session under a gameplay session that goes on goes on, too. -/
theorem happening_under (hw : s.router.WF) (he : Happening s e r') {id : HostSessionId} {host : HostState}
    (hh : s.router.hosts[id]? = some host) {k : GameplaySessionId} {session : GameplayState}
    (hk : r'.gameplay[k]? = some session) (ho : host.peerId = session.hostPeerId ∧ host.roomId = session.roomId) :
    ∃ host', r'.hosts[id]? = some host' ∧ host'.peerId = host.peerId ∧ host'.roomId = host.roomId := by
  cases he with
  | nothing => exact ⟨host, hh, rfl, rfl⟩
  | operation _ hf _ heff => exact RoomRouter.effect_under hw hf heff hh hk ho
  | heard => exact ⟨host, hh, rfl, rfl⟩
  | routed _ hr =>
    obtain ⟨discoveries, gameplay, rfl⟩ := hr.frame
    exact ⟨host, hh, rfl, rfl⟩

/-- A peer that an event suspends is left without host sessions, discoveries and gameplay sessions. -/
theorem happening_suspends (hw : s.router.WF) (he : Happening s e r') {peer peer' : PeerState}
    (hp : s.router.peers[p]? = some peer) (hc : peer.disconnectedAt = none) (hp' : r'.peers[p]? = some peer')
    (hd : peer'.disconnectedAt ≠ none) :
    (∀ (k : HostSessionId) (v : HostState), r'.hosts[k]? = some v → v.peerId ≠ p) ∧
      (∀ (k : DiscoveryRequestId) (v : DiscoveryState), r'.discoveries[k]? = some v → v.clientPeerId ≠ p) ∧
      ∀ (k : GameplaySessionId) (v : GameplayState), r'.gameplay[k]? = some v → v.clientPeerId ≠ p ∧
        v.hostPeerId ≠ p := by
  obtain e | ⟨w, now, hw', hwc, e⟩ | ⟨o, op, rfl, -, hok, -⟩ := happening_peer hw he p
  · rw [e, hp] at hp'; cases hp'; exact absurd hc hd
  · rw [e] at hp'; cases hp'; exact absurd hwc hd
  · cases he with
    | nothing => rw [hp] at hp'; cases hp'; exact absurd hc hd
    | operation _ _ _ heff => exact RoomRouter.effect_suspends hw heff hp hc hp' hd

end

/-! ## Runs of given events -/

namespace AppState

abbrev final (s : AppState) : List Event → AppState := Past.final Event.apply s

abbrev replay (s : AppState) : List Event → Moves := Past.replay Event.apply s

abbrev Permitted (s : AppState) : List Event → Prop := Past.Permitted Event.apply Event.Allowed s

theorem replay_run (h0 : init s) {es : List Event} (hp : s.Permitted es) :
    Run init Happens (s.replay es) (s.final es) :=
  run_replay Event.apply Event.Allowed h0 hp

end AppState

/-! ## A host and a guest -/

namespace RoomRouter.Example

def guest : PeerId := .ofByte 4
def guestIp : VirtualIp := ⟨⟨10, 240, 0, 3⟩⟩
def session : GameplaySessionId := .ofByte 5

def booted : AppState := AppState.new Civ6LanBridge.Example.bearerToken

/-- Two peers are in a room, and one of them hosts. -/
def gathering : List Event :=
  [.control .sorted (.registerHost room peer 0 host), .control .sorted (.joinRoom room guest guestIp 0),
    .control .sorted (.joinRoom room peer ip 0), .control .sorted (.createRoomWithId room code)]

/-- The guest has selected the host. -/
def selecting : List Event := .control .sorted (.selectHost room guest host 0 session) :: gathering

theorem booted_starts : Starts {} booted := ⟨rfl, rfl⟩

theorem gathering_permitted : booted.Permitted gathering :=
  ⟨⟨trivial, show (booted.final gathering.tail).router.hosts[host]? = none by decide +kernel⟩, ⟨trivial, trivial⟩,
    ⟨trivial, trivial⟩, ⟨trivial, trivial⟩, trivial⟩

theorem selecting_permitted : booted.Permitted selecting :=
  ⟨⟨trivial, show (booted.final gathering).router.gameplay[session]? = none by decide +kernel⟩, gathering_permitted⟩

def connectedGuest : PeerState :=
  { roomId := room, virtualIp := guestIp, lastSeen := 0, disconnectedAt := none, connectionEpoch := 1 }

/-- A datagram from the address of a peer. -/
def sender (ip : VirtualIp) : SocketAddr := { ip := .v4 ip.address, port := 32000 }

/-- A gameplay packet on the session. -/
def packet : List UInt8 := frame 1 MessageKind.gameplayPacket ((Uuid.ofByte 5).bytes ++ [0xf2, 0x68, 7])

end RoomRouter.Example

end Civ6LanBridge

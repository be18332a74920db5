/-
Where datagrams go: in every state the server can reach, what it sends on behalf of a datagram stays
in the room of the peer that sent it and carries that peer's own address.
-/
import Civ6LanBridge.Protocol.Packet
import Civ6LanBridge.Router.Runs
import Civ6LanBridge.Server.Relay

namespace Civ6LanBridge

open Std FinMap Bytes

/-! ## The states of the server -/

namespace AppState

/-- An operation of the control plane or a sweep, or a datagram. -/
inductive Step (s : AppState) : AppState → Prop
  | control (o : WalkOrder) (op : RouterOp) : op.Fresh s.router → Step s { s with router := (op.exec o s.router).2 }
  | datagram (o : WalkOrder) (relayPort : UInt16) (source : SocketAddr) (packet : List UInt8)
      (limiterNow now : Instant) : Step s (handleDatagram o relayPort s source packet limiterNow now).2

/-- The states a server that starts with an empty router can be in. -/
def Reachable (config : RouterConfig) : AppState → Prop :=
  Transition.Reachable (fun s => s.router = RoomRouter.new config) Step

end AppState

namespace RoomRouter

variable {config : RouterConfig} {r r' : RoomRouter} {roomId : RoomId} {peerId q : PeerId} {ip : VirtualIp}
  {now : Instant}

theorem Reachable.exec (h : Reachable config r) (o : WalkOrder) {op : RouterOp} (hf : op.Fresh r) :
    Reachable config (op.exec o r).2 :=
  .step h ⟨o, op, hf, rfl⟩

/-! ## Seats -/

/-- The peer is a member of the room, at the address. -/
def Seat (r : RoomRouter) (roomId : RoomId) (peerId : PeerId) (ip : VirtualIp) : Prop :=
  ∃ room peer, r.rooms[roomId]? = some room ∧ peerId ∈ room.members ∧ r.peers[peerId]? = some peer ∧ peer.virtualIp = ip

theorem WF.seat (h : r.WF) {peer : PeerState} (hp : r.peers[peerId]? = some peer) (hs : peer.Sits roomId ip) :
    r.Seat roomId peerId ip := by
  obtain ⟨rfl, rfl⟩ := hs
  obtain ⟨room, hr⟩ := h.members.home peerId peer hp
  exact ⟨room, peer, hr, (h.member_iff hr).2 ⟨peer, hp, rfl⟩, hp, rfl⟩

theorem WF.seat_iff (h : r.WF) : r.Seat roomId peerId ip ↔ ∃ peer, r.peers[peerId]? = some peer ∧
    peer.Sits roomId ip := by
  constructor
  · rintro ⟨room, peer, hr, hm, hp, hip⟩
    obtain ⟨peer', hp', hroom⟩ := (h.member_iff hr).1 hm
    rw [hp] at hp'
    cases hp'
    exact ⟨peer, hp, hroom, hip⟩
  · rintro ⟨peer, hp, hs⟩
    exact h.seat hp hs

/-- No two peers, in one room or in two, sit at one address. -/
theorem WF.seat_unique (h : r.WF) {roomId' : RoomId} (hs : r.Seat roomId peerId ip) (hs' : r.Seat roomId' q ip) :
    roomId' = roomId := by
  obtain ⟨peer, hp, hroom, hip⟩ := h.seat_iff.1 hs
  obtain ⟨peer', hp', hroom', hip'⟩ := h.seat_iff.1 hs'
  obtain rfl := h.addresses.unique hp hp' (hip.trans hip'.symm)
  rw [hp] at hp'
  cases hp'
  exact hroom'.symm.trans hroom

/-- An operation that keeps every peer in its room, at its address, keeps the seats. -/
theorem WF.seat_congr (h : r.WF) (h' : r'.WF)
    (e : ∀ k : PeerId, (r'.peers[k]?).map (fun peer => (peer.roomId, peer.virtualIp)) =
      (r.peers[k]?).map fun peer => (peer.roomId, peer.virtualIp)) : r'.Seat roomId peerId ip ↔
        r.Seat roomId peerId ip := by
  rw [h.seat_iff, h'.seat_iff]
  have hk := e peerId
  cases hp : r.peers[peerId]? <;> cases hp' : r'.peers[peerId]? <;> rw [hp, hp'] at hk <;>
    simp_all [PeerState.Sits]

/-! ## Actions stay in the room of the peer -/

end RoomRouter

open RoomRouter

/-- An action on behalf of the peer at the address concerns members of its room, at their addresses. -/
def RelayAction.Within (r : RoomRouter) (roomId : RoomId) (peerId : PeerId) (ip : VirtualIp) : RelayAction → Prop
  | .discoveryFanout _ source _ targets _ =>
    source = peerId ∧ ∀ target ∈ targets, r.Seat roomId target.hostPeerId target.hostVirtualIp
  | .discoveryUnicast _ destination source _ _ => source = ip ∧ ∃ destinationIp, r.Seat roomId destination destinationIp
  | .gameplayUnicast route _ _ =>
    route.sourcePeerId = peerId ∧ r.Seat roomId route.destinationPeerId route.destinationVirtualIp

/-- The peer on whose behalf a request is: for a discovery response the owner of the host session. -/
def RelayIngress.By (r : RoomRouter) (peerId : PeerId) : RelayIngress → Prop
  | .discovery source _ _ _ _ => source = peerId
  | .discoveryResponse hostSessionId _ _ _ _ => ∃ host, r.hosts[hostSessionId]? = some host ∧ host.peerId = peerId
  | .gameplay _ source _ _ _ => source = peerId

namespace RoomRouter

variable {r r' : RoomRouter} {o : WalkOrder} {peerId : PeerId} {peer : PeerState} {now : Instant} {action : RelayAction}

theorem mem_discoveryTargets {room : RoomState} {target : DiscoveryTarget}
    (h : target ∈ discoveryTargets o r room now) :
    ∃ host, target.hostSessionId ∈ room.hostSessions ∧ r.hosts[target.hostSessionId]? = some host ∧
      now < host.expiresAt ∧ target.hostPeerId = host.peerId ∧ target.hostVirtualIp = host.virtualIp := by
  obtain ⟨hostId, hm, ht⟩ := List.mem_filterMap.1 h
  have hm' : hostId ∈ room.hostSessions := by simpa using hm
  split at ht
  · cases ht
  rename_i host hh
  split at ht
  · rename_i he
    cases ht
    exact ⟨host, hm', hh, he, rfl, rfl⟩
  · cases ht

/-- A dispatch that succeeds leaves every peer as it was and stays within the room of the peer it is for. -/
theorem dispatch_within (h : r.WF) (hp : r.peers[peerId]? = some peer) {ingress : RelayIngress}
    (hby : ingress.By r peerId) (hd : dispatch o r ingress = (.ok action, r')) :
    r'.peers = r.peers ∧ action.Within r peer.roomId peerId peer.virtualIp := by
  cases ingress with
  | discovery source requestId port payload t =>
    obtain rfl : source = peerId := hby
    have hroom : r.roomForPeer source = some peer.roomId := by rw [roomForPeer, hp]; rfl
    simp only [dispatch, hroom] at hd
    split at hd
    · cases hd
    obtain ⟨e, he⟩ | ⟨room, r'', hr, -, -, hpeers, -, he⟩ :=
      beginDiscovery_cases o r peer.roomId source requestId port t
    · rw [he] at hd; cases hd
    rw [he] at hd
    cases hd
    refine ⟨hpeers, rfl, fun target ht => ?_⟩
    obtain ⟨host, hm, hh, -, e1, e2⟩ := mem_discoveryTargets ht
    obtain ⟨host', hh', hroom'⟩ := (h.sessions.mem_iff _ room hr _).1 hm
    rw [hh] at hh'
    cases hh'
    obtain ⟨w, hw, hs⟩ := h.hostPeer _ host hh
    rw [e1, e2]
    rw [hroom'] at hs
    exact h.seat hw hs
  | discoveryResponse hostId requestId port payload t =>
    obtain ⟨host, hh, rfl⟩ := hby
    simp only [dispatch, hh] at hd
    split at hd
    · cases hd
    split at hd
    · cases hd
    split at hd
    · cases hd
    rename_i client hroute
    cases hd
    refine ⟨rfl, ?_⟩
    -- the address of the host session is that of its peer, and the discovery is of the same room
    obtain ⟨w, hw, hs⟩ := h.hostPeer hostId host hh
    rw [hp] at hw
    cases hw
    unfold routeDiscoveryResponse at hroute
    split at hroute
    · cases hroute
    rename_i discovery hdisc
    simp only [hh] at hroute
    split at hroute
    · cases hroute
    split at hroute
    · cases hroute
    split at hroute
    · cases hroute
    rename_i hsame
    cases hroute
    obtain ⟨c, hc, hcroom⟩ := h.discoveryClient requestId discovery hdisc
    refine ⟨hs.2.symm, c.virtualIp, h.seat hc ⟨?_, rfl⟩⟩
    rw [hcroom, ← not_not.1 hsame, hs.1]
  | gameplay sessionId source port payload t =>
    obtain rfl : source = peerId := hby
    simp only [dispatch] at hd
    split at hd
    · cases hd
    split at hd
    · cases hd
    obtain ⟨e, he⟩ | ⟨session, dest, r'', hs, hend, hpeers, -, he⟩ := routeGameplayDatagram_cases o r sessionId source t
    · rw [he] at hd; cases hd
    rw [he] at hd
    cases hd
    refine ⟨hpeers, rfl, ?_⟩
    obtain ⟨c, hc, hcs⟩ := h.gameplayClient sessionId session hs
    obtain ⟨w, hw, hws⟩ := h.gameplayHost sessionId session hs
    obtain ⟨rfl, rfl⟩ | ⟨rfl, rfl⟩ := otherEnd_some hend
    · rw [hp] at hc
      cases hc
      rw [hcs.1]
      exact h.seat hw hws
    · rw [hp] at hw
      cases hw
      rw [hws.1]
      exact h.seat hc hcs

end RoomRouter

/-! ## Datagrams stay in the room of the peer -/

/-- The address of a peer that the message names as where it comes from. -/
def RelayMessage.origin? : RelayMessage → Option VirtualIp
  | .discoveryToHost _ sourceVirtualIp _ _ => some sourceVirtualIp
  | .discoveryToClient _ hostVirtualIp _ _ => some hostVirtualIp
  | .gameplayToPeer _ sourceVirtualIp _ _ => some sourceVirtualIp
  | _ => none

/-- A datagram to a member of the room, naming the address as where it comes from. -/
structure OutboundDatagram.Within (relayPort : UInt16) (r : RoomRouter) (roomId : RoomId) (ip : VirtualIp)
    (d : OutboundDatagram) : Prop where
  forwarded : ∀ requestId, d.message ≠ .relayProbeAck requestId
  origin : d.message.origin? = some ip
  destination : ∃ q destinationIp, r.Seat roomId q destinationIp ∧
    d.destination = relayDestination destinationIp relayPort

section

variable {r r' : RoomRouter} {o : WalkOrder} {relayPort : UInt16} {roomId : RoomId} {peerId : PeerId} {ip : VirtualIp}
  {now : Instant} {out : List OutboundDatagram}

theorem actionToDatagrams_within {action : RelayAction} {m : RelayEnvelopeMeta} (ha : action.Within r roomId peerId ip)
    (hip : r'.peerVirtualIp peerId = some ip) (hkeep : ∀ q destinationIp, r.Seat roomId q destinationIp →
      r'.peerVirtualIp q = some destinationIp) (hout : actionToDatagrams relayPort r' action m = .ok out) :
    ∀ d ∈ out, d.Within relayPort r roomId ip := by
  cases action with
  | discoveryFanout requestId source port targets payload =>
    obtain ⟨rfl, ht⟩ := ha
    simp only [actionToDatagrams, hip] at hout
    cases hout
    intro d hd
    obtain ⟨target, hm, rfl⟩ := List.mem_map.1 hd
    exact ⟨fun _ => nofun, rfl, target.hostPeerId, target.hostVirtualIp, ht target hm, rfl⟩
  | discoveryUnicast requestId destination source port payload =>
    obtain ⟨rfl, destinationIp, hs⟩ := ha
    simp only [actionToDatagrams, hkeep _ _ hs] at hout
    cases hout
    intro d hd
    obtain rfl := List.mem_singleton.1 hd
    exact ⟨fun _ => nofun, rfl, destination, destinationIp, hs, rfl⟩
  | gameplayUnicast route port payload =>
    obtain ⟨rfl, hs⟩ := ha
    simp only [actionToDatagrams, hip] at hout
    cases hout
    intro d hd
    obtain rfl := List.mem_singleton.1 hd
    exact ⟨fun _ => nofun, rfl, route.destinationPeerId, route.destinationVirtualIp, hs, rfl⟩

/-- Only who sits where in the room matters. -/
theorem OutboundDatagram.Within.congr {d : OutboundDatagram} (hd : d.Within relayPort r roomId ip)
    (e : ∀ q destinationIp, r.Seat roomId q destinationIp → r'.Seat roomId q destinationIp) :
    d.Within relayPort r' roomId ip := by
  obtain ⟨q, destinationIp, hs, hdest⟩ := hd.destination
  exact ⟨hd.forwarded, hd.origin, q, destinationIp, e q destinationIp hs, hdest⟩

end

/-! ## What a datagram does to the router -/

section

variable {s : AppState} {o : WalkOrder} {relayPort : UInt16} {peerId : PeerId} {envelope : RelayEnvelope}
  {source : SocketAddr} {now limiterNow : Instant} {out : List OutboundDatagram}

@[simp] theorem Outcome.map_snd {α β : Type} (f : α → β) (x : Outcome α) : (x.map f).2 = x.2 := by
  rcases x with ⟨_ | _, r⟩ <;> rfl

@[simp] theorem Outcome.map_error {α β : Type} {f : α → β} {x : Outcome α} {e : Fault RouterError} :
    (x.map f).1 = .error e ↔ x.1 = .error e := by
  rcases x with ⟨_ | _, _⟩ <;> simp [Outcome.map]

/-- What marking a peer as seen and dispatching keep, handling a datagram keeps. -/
theorem handleDatagram_router {P : RoomRouter → Prop} (packet : List UInt8) (h : P s.router)
    (hseen : ∀ r p t, P r → P (RoomRouter.markPeerSeen r p t).2)
    (hdispatch : ∀ r ingress, P r → P (RoomRouter.dispatch o r ingress).2) :
    P (handleDatagram o relayPort s source packet limiterNow now).2.router := by
  have hroute : ∀ (s : AppState) p envelope, P s.router → P (route o relayPort s p envelope now).2.router := by
    intro s p envelope h
    unfold route
    split
    · exact h
    rename_i ingress _
    have hd := hdispatch s.router ingress h
    split <;> rename_i he <;> rw [he] at hd <;> exact hd
  have hmessage : ∀ (s : AppState) p envelope, P s.router →
      P (handleMessage o relayPort s p envelope now).2.router := by
    intro s p envelope h
    unfold handleMessage
    have hs := hseen s.router p now h
    split
    · rename_i he; rw [he] at hs; exact hs
    rename_i he
    rw [he] at hs
    split
    · exact hs
    · exact hroute _ p envelope hs
  unfold handleDatagram
  split
  · exact h
  split
  · exact h
  split
  · exact h
  unfold handleEnvelope
  split
  · exact h
  rename_i p _
  split
  · exact h
  dsimp only
  split
  · exact h
  split
  · unfold handleProbe
    have hs := hseen s.router p now h
    split <;> rename_i he <;> rw [he] at hs <;> exact hs
  · exact hmessage _ p _ h

theorem AppState.Step.router {config : RouterConfig} {s' : AppState} (hs : Step s s')
    (h : RoomRouter.Reachable config s.router) : RoomRouter.Reachable config s'.router := by
  cases hs with
  | control o op hf => exact h.exec o hf
  | datagram o relayPort source packet limiterNow now =>
    refine handleDatagram_router (P := RoomRouter.Reachable config) packet h (fun r p t hr => ?_) fun r ingress hr => ?_
    · exact hr.exec o (show (RouterOp.markPeerSeen p t).Fresh r from trivial)
    · have := hr.exec o (show (RouterOp.dispatch ingress).Fresh r from trivial)
      rwa [RouterOp.exec, Outcome.map_snd] at this

theorem AppState.Reachable.router {config : RouterConfig} (h : AppState.Reachable config s) :
    RoomRouter.Reachable config s.router := by
  refine Transition.Reachable.invariant (P := fun s => RoomRouter.Reachable config s.router) ?_ ?_ h
  · intro s hs; exact .init hs
  · intro s s' _ hr hst; exact hst.router hr

/-- Operations of the control plane alone bring the router of a server to every state it can be in. -/
theorem AppState.Reachable.of_router {config : RouterConfig} {r : RoomRouter} (h : RoomRouter.Reachable config r) :
    ∀ s : AppState, AppState.Reachable config { s with router := r } := by
  induction h with
  | init hi => exact fun s => .init hi
  | @step r r' _ hst ih =>
    obtain ⟨o, op, hf, rfl⟩ := hst
    exact fun s => .step (ih s) (.control o op hf)

/-! ## What is sent -/

/-- Marking a peer as seen moves nobody. -/
theorem RoomRouter.WF.seen {r r' : RoomRouter} (h : r.WF) (he : r.markPeerSeen peerId now = (.ok (), r')) :
    r'.WF ∧ ∀ roomId q ip, r'.Seat roomId q ip ↔ r.Seat roomId q ip := by
  obtain ⟨e, herr⟩ | ⟨r'', hok, heff⟩ := RoomRouter.markPeerSeen_does (o := .sorted) (r := r) peerId now
  · rw [he] at herr; cases herr
  rw [he] at hok
  cases hok
  have h' : r'.WF := h.effect (show (RouterOp.markPeerSeen peerId now).Fresh r from trivial) heff
  refine ⟨h', fun roomId q ip => h.seat_congr h' fun k => ?_⟩
  cases heff
  by_cases e : peerId = k
  · subst e
    rw [ExtTreeMap.getElem?_modify_self, Option.map_map]
    rfl
  · rw [getElem?_modify_ne e]

/-- A discovery response passes only for a host session of the sender. -/
theorem ingressOf_by {ingress : RelayIngress} (hin : ingressOf s.router peerId now envelope.message = .ok ingress) :
    ingress.By s.router peerId := by
  unfold ingressOf at hin
  split at hin
  · cases hin; rfl
  · rename_i hostId _ _
    split at hin
    · cases hin
    rename_i host hhost
    split at hin
    · cases hin
    rename_i hown
    cases hin
    unfold RoomRouter.hostSnapshot at hhost
    split at hhost
    · cases hhost
    · rename_i state hstate
      cases hhost
      exact ⟨state, hstate, not_not.1 hown⟩
  · cases hin; rfl
  all_goals cases hin

/-- A datagram that goes beyond the gate of the sequence numbers concerns the room of its sender. -/
theorem route_within {ip : VirtualIp} {roomId : RoomId} (h : s.router.WF) (hp : s.router.Seat roomId peerId ip)
    (hout : (route o relayPort s peerId envelope now).1 = .ok out) :
    ∀ d ∈ out, d.Within relayPort s.router roomId ip := by
  obtain ⟨peer, hpeer, rfl, rfl⟩ := h.seat_iff.1 hp
  unfold route at hout
  split at hout
  · cases hout
  rename_i ingress hin
  have hby : ingress.By s.router peerId := ingressOf_by hin
  split at hout
  · cases hout
  rename_i action router hd
  obtain ⟨hpeers, hwithin⟩ := RoomRouter.dispatch_within h hpeer hby hd
  dsimp only at hout
  cases ha : actionToDatagrams relayPort router action envelope.meta with
  | error e => rw [ha] at hout; cases hout
  | ok out' =>
    rw [ha] at hout
    cases hout
    refine actionToDatagrams_within hwithin ?_ (fun q destinationIp hs => ?_) ha
    · rw [RoomRouter.peerVirtualIp, hpeers, hpeer]; rfl
    · obtain ⟨w, hw, -, rfl⟩ := h.seat_iff.1 hs
      rw [RoomRouter.peerVirtualIp, hpeers, hw]; rfl

/-- Whatever is sent answers a probe to where it came from or stays in the room of the sender. -/
theorem handleEnvelope_within {sourceIp : Ipv4Addr} (h : s.router.WF)
    (hout : (handleEnvelope o relayPort s source sourceIp envelope now).1 = .ok out) :
    ∃ p roomId, s.router.Seat roomId p ⟨sourceIp⟩ ∧ ∀ d ∈ out,
      (∃ requestId, d.message = .relayProbeAck requestId ∧ d.destination = source) ∨
        d.Within relayPort s.router roomId ⟨sourceIp⟩ := by
  unfold handleEnvelope at hout
  split at hout
  · cases hout
  rename_i p hsource
  obtain ⟨peer, hpeer, hip⟩ := (h.addresses ⟨sourceIp⟩ p).1 hsource
  have hseat : s.router.Seat peer.roomId p ⟨sourceIp⟩ := h.seat hpeer ⟨rfl, hip⟩
  refine ⟨p, peer.roomId, hseat, ?_⟩
  split at hout
  · cases hout
  dsimp only at hout
  split at hout
  · cases hout
  split at hout
  · rename_i requestId _
    unfold handleProbe at hout
    split at hout
    · cases hout
    cases hout
    intro d hd
    obtain rfl := List.mem_singleton.1 hd
    exact Or.inl ⟨requestId, rfl, rfl⟩
  · unfold handleMessage at hout
    split at hout
    · cases hout
    rename_i router hseen
    obtain ⟨h', hseats⟩ := h.seen hseen
    split at hout
    · cases hout
    intro d hd
    have hd' := route_within (s := { s with router, sequenceTracker := _ }) h' ((hseats _ _ _).2 hseat) hout d hd
    exact Or.inr (hd'.congr fun q ip => (hseats _ q ip).1)

end

/-! ## The room of the sender -/

variable {config : RouterConfig} {s : AppState} {o : WalkOrder} {relayPort : UInt16} {source : SocketAddr}
  {packet : List UInt8} {limiterNow now : Instant} {out : List OutboundDatagram}

/-- A datagram that is accepted comes from the address of a member of some room. The answer to a
probe goes back to where the probe came from; everything else goes to members of that same room,
at their addresses and the relay port, names the sender's own address, and reaches nobody who is
in another room. -/
theorem forwarding_stays_in_room (h : AppState.Reachable config s)
    (hok : (handleDatagram o relayPort s source packet limiterNow now).1 = .ok out) :
    ∃ sourceIp peerId roomId, source.ip = .v4 sourceIp ∧ s.router.Seat roomId peerId ⟨sourceIp⟩ ∧ ∀ d ∈ out,
      (∃ requestId, d.message = .relayProbeAck requestId ∧ d.destination = source) ∨
        d.Within relayPort s.router roomId ⟨sourceIp⟩ ∧
          ∀ roomId' q ip, s.router.Seat roomId' q ip → d.destination.ip = .v4 ip.address → roomId' = roomId := by
  have hw := h.router.wf
  unfold handleDatagram at hok
  split at hok
  · cases hok
  split at hok
  · cases hok
  rename_i sourceIp hip
  split at hok
  · cases hok
  rename_i udpRateLimiter _
  obtain ⟨peerId, roomId, hseat, hd⟩ := handleEnvelope_within (s := { s with udpRateLimiter }) hw hok
  refine ⟨sourceIp, peerId, roomId, hip, hseat, fun d hm => (hd d hm).imp id fun hin => ⟨hin, ?_⟩⟩
  intro roomId' q ip hs e
  obtain ⟨q', ip', hs', hdest⟩ := hin.destination
  rw [hdest] at e
  obtain rfl := relayDestination_ip e
  exact hw.seat_unique hs' hs

/-! ## A peer that hosts looks for games -/

namespace RoomRouter.Example

/-- The server of one peer that hosts. -/
def server : AppState := { AppState.new "" with router := hosting }

theorem server_reachable : AppState.Reachable {} server := .of_router hosting_reachable _

/-- A discovery request. -/
def request : List UInt8 := frame 1 MessageKind.discoveryRequest ((Uuid.ofByte 9).bytes ++ [0xf5, 0xb4, 7])

/-- What the request becomes on its way to the host. -/
def toHost : OutboundDatagram :=
  { destination := relayDestination ip 32000, message := .discoveryToHost (.ofByte 9) ip ⟨62900⟩ [7], «meta» := {} }

/-- The server of two rooms, with a host in each of them. -/
def twoHosts : AppState := { AppState.new "" with router := visited }

theorem twoHosts_reachable : AppState.Reachable {} twoHosts := .of_router visited_reachable _

/-- What the request becomes when a peer of the second room sends it. -/
def toNeighbour : OutboundDatagram :=
  { destination := relayDestination neighbourIp 32000, message := .discoveryToHost (.ofByte 9) visitorIp ⟨62900⟩ [7]
    «meta» := {} }

end RoomRouter.Example

open RoomRouter in
/-- A peer of the second room looks for games: its request goes to the host there, and nobody of the first room gets
it. -/
theorem request_stays_in_room : Example.toNeighbour.Within 32000 Example.visited Example.other Example.visitorIp ∧
    ∀ roomId q ip, Example.visited.Seat roomId q ip → Example.toNeighbour.destination.ip = .v4 ip.address →
      roomId = Example.other := by
  obtain ⟨sourceIp, peerId, roomId, hip, hseat, hd⟩ := forwarding_stays_in_room Example.twoHosts_reachable
    (show (handleDatagram .sorted 32000 Example.twoHosts ⟨.v4 Example.visitorIp.address, 32000⟩ Example.request 0 0).1 =
      .ok [Example.toNeighbour] by decide +kernel)
  cases hip
  have hroom : Example.other = roomId := Example.visited_reachable.wf.seat_unique hseat
    (Example.visited_reachable.wf.seat (show Example.visited.peers[Example.visitor]? = some _ from rfl) ⟨rfl, rfl⟩)
  obtain ⟨requestId, hack, -⟩ | ⟨hin, honly⟩ := hd Example.toNeighbour List.mem_cons_self
  · cases hack
  rw [hroom]
  exact ⟨hin, honly⟩

end Civ6LanBridge

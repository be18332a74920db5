/-
Sizes on the wire: a payload within the default limit is sent on in a packet that has to fit through a
tunnel with an MTU of 1280 bytes. The limit is on the payload, the packet also carries what its kind needs.
-/
import Civ6LanBridge.Client.Session
import Civ6LanBridge.Server.Transparency

namespace Civ6LanBridge

open Std FinMap Bytes

/-! ## Packets on the wire -/

def tunnelMtu : Nat := 1280
def udpHeaderSize : Nat := 8
def ipv4HeaderSize : Nat := 20

/-- What a packet takes in the tunnel. -/
def wireSize (packet : List UInt8) : Nat := packet.length + udpHeaderSize + ipv4HeaderSize

/-- The envelope a client sends for the message fits through the tunnel, and so does every envelope a server
with the default limit forwards for it. -/
def Unfragmented (message : RelayMessage) : Prop :=
  ∀ «meta» packet, RelayEnvelope.encode { «meta», message } = .ok packet → wireSize packet ≤ tunnelMtu ∧
    ∀ config s o relayPort source limiterNow now out d forwarded,
      config.safePayloadSize = defaultSafeRelayPayloadSize → AppState.Reachable config s →
      (handleDatagram o relayPort s source packet limiterNow now).1 = .ok out → d ∈ out →
      RelayEnvelope.encode { «meta» := d.meta, message := d.message } = .ok forwarded → wireSize forwarded ≤ tunnelMtu

/-- The payload leaves room for the fields of the message, and for those of the message the server makes of it
if the server forwards it at all. -/
def FitsTunnel : RelayMessage → Prop
  | .discoveryRequest _ port payload => isDiscoveryPort port.port = true → payload.length ≤ 1196
  | .gameplayPacket _ port payload => port.port = gameplayPort → payload.length ≤ 1196
  | .discoveryResponse _ _ _ payload => payload.length ≤ 1184
  | .discoveryToHost _ _ _ payload | .discoveryToClient _ _ _ payload | .gameplayToPeer _ _ _ payload =>
    payload.length ≤ 1196
  | .relayProbe _ | .relayProbeAck _ => True

section

variable {«meta» : RelayEnvelopeMeta} {message : RelayMessage} {packet : List UInt8}

/-- Headers, metadata, the fields of the message, and the payload. -/
theorem wireSize_eq (h : RelayEnvelope.encode { «meta», message } = .ok packet) :
    wireSize packet = 62 + message.fields.length + message.payloadSize := by
  rcases encodePacket_eq_ok.1 h with ⟨-, rfl⟩
  have hbody : message.body.length = message.fields.length + message.payloadSize := by
    cases message <;> simp [RelayMessage.body, RelayMessage.payload?, RelayMessage.payloadSize]
  simp only [wireSize, length_frame, writeOptionalMeta_some, List.length_append, length_meta_fields, length_pathBytes,
    hbody, relayHeaderSize, udpHeaderSize, ipv4HeaderSize]
  omega

theorem length_fields_eq (m : RelayMessage) : m.fields.length =
    match m with
    | .relayProbe _ | .relayProbeAck _ => 16
    | .discoveryRequest .. | .gameplayPacket .. => 18
    | .discoveryToHost .. | .discoveryToClient .. | .gameplayToPeer .. => 22
    | .discoveryResponse .. => 34 := by
  cases m <;> simp [RelayMessage.fields, Uuid.size]

/-- A message with room for its own fields is forwarded with room for the fields of what it becomes. -/
theorem FitsTunnel.forwards {config : RouterConfig} {ip : VirtualIp} {m' : RelayMessage} (h : FitsTunnel message)
    (hrel : message.Relayable config) (hf : RelayMessage.Forwards ip message m') :
    62 + m'.fields.length + m'.payloadSize ≤ tunnelMtu := by
  rw [length_fields_eq]
  cases hf with
  | request => have := h hrel.1; simp only [RelayMessage.payloadSize, tunnelMtu]; omega
  | response =>
    have : _ ≤ 1184 := h
    simp only [RelayMessage.payloadSize, tunnelMtu]
    omega
  | gameplay => have := h hrel.1; simp only [RelayMessage.payloadSize, tunnelMtu]; omega
  | probe => simp [RelayMessage.payloadSize, tunnelMtu]

end

/-! ## Datagrams that are forwarded -/

namespace RoomRouter

variable {r : RoomRouter} {o : WalkOrder} {p q : PeerId} {peer : PeerState} {ip : VirtualIp} {port : Civ6UdpPort}
  {payload : List UInt8} {now : Instant}

theorem validatePayload_fits (h : payload.length ≤ min maxCiv6DatagramSize r.config.safePayloadSize) :
    r.validatePayload payload = .ok () := by
  unfold validatePayload
  rw [if_neg (by omega)]

/-- A request that is new is fanned out. -/
theorem dispatch_discovery_new (o : WalkOrder) (h : r.WF) (hp : r.peers[p]? = some peer)
    {requestId : DiscoveryRequestId}
    (hnew : r.discoveries[requestId]? = none) (hport : isDiscoveryPort port.port = true)
    (hlen : payload.length ≤ min maxCiv6DatagramSize r.config.safePayloadSize) (now : Instant) :
    ∃ room r', r.rooms[peer.roomId]? = some room ∧ dispatch o r (.discovery p requestId port payload now) =
      .ok (.discoveryFanout requestId p port (discoveryTargets o r room now) payload) r' := by
  rcases dispatch_request o hp requestId port payload now with ⟨e, he⟩ | ⟨room, r', hr, -, -, he⟩
  · exfalso
    rcases h.members.home p peer hp with ⟨room, hr⟩
    simp only [dispatch, validatePayload_fits hlen, roomForPeer, hp, Option.map_some, beginDiscovery, hport,
      memberState_ok h hp, hnew, fanOut, hr] at he
    cases he
  · exact ⟨room, r', hr, he⟩

/-- A packet of a session that goes on reaches the other end. -/
theorem dispatch_gameplay_live (o : WalkOrder) {sessionId : GameplaySessionId} {session : GameplayState}
    (hs : r.gameplay[sessionId]? = some session) (hlive : now < session.expiresAt)
    (hend : otherEnd session p = some (q, ip)) (hport : port.port = Civ6LanBridge.gameplayPort)
    (hlen : payload.length ≤ min maxCiv6DatagramSize r.config.safePayloadSize) :
    ∃ r', r'.peers = r.peers ∧ dispatch o r (.gameplay sessionId p port payload now) =
      .ok (.gameplayUnicast { sessionId, roomId := session.roomId, sourcePeerId := p, destinationPeerId := q,
                              destinationVirtualIp := ip } port payload) r' := by
  refine ⟨{ r with gameplay := r.gameplay.modify sessionId fun session =>
    { session with lastActivity := now, expiresAt := now + r.config.gameplayIdleTtl } }, rfl, ?_⟩
  simp only [dispatch, validatePayload_fits hlen, hport, ne_eq, not_true_eq_false, if_false, routeGameplayDatagram, hs,
    Nat.not_le.2 hlive, hend]
  rfl

end RoomRouter

/-! ## The servers of one peer that hosts -/

namespace RoomRouter.Example

/-- The peer plays with itself. -/
def paired (sessionId : GameplaySessionId) : AppState :=
  { server with router := (RouterOp.exec .sorted hosting (.selectHost room peer host 0 sessionId)).2 }

theorem paired_reachable (sessionId : GameplaySessionId) : AppState.Reachable {} (paired sessionId) :=
  .of_router (hosting_reachable.exec .sorted
    (show RouterOp.Fresh hosting (.selectHost room peer host 0 sessionId) from rfl)) _

/-- A message of the peer that is dispatched is sent on. -/
theorem sends {s : AppState} (h : AppState.Reachable {} s) {seat : PeerState} (hp : s.router.peers[peer]? = some seat)
    (hseat : seat.virtualIp = ip ∧ seat.disconnectedAt = none) (hl : s.udpRateLimiter = server.udpRateLimiter)
    {message : RelayMessage} (hmsg : ∀ requestId, message ≠ .relayProbe requestId) {packet : List UInt8}
    (henc : RelayEnvelope.encode { «meta» := {}, message } = .ok packet) {ingress : RelayIngress} {action : RelayAction}
    {r' : RoomRouter} (hin : ingressOf (s.router.hearing peer 0) peer 0 message = .ok ingress)
    (hd : dispatch .sorted (s.router.hearing peer 0) ingress = .ok action r') :
    ∃ out, actionToDatagrams 32000 r' action {} = .ok out ∧
      (handleDatagram .sorted 32000 s ⟨.v4 ip.address, 32000⟩ packet 0 0).1 = .ok out := by
  rcases hseat with ⟨hip, hcon⟩
  rcases encodePacket_eq_ok.1 henc with ⟨hfits, rfl⟩
  have hpass : Passes s ⟨.v4 ip.address, 32000⟩
      (frame relayProtocolVersion message.kind (writeOptionalMeta (some {}) ++ message.body))
        0 peer seat { «meta» := {}, message } := by
    constructor
    · exact decodePacket_ok_iff.2 ⟨hfits, Or.inr ⟨0, by rw [writeOptionalMeta_some]⟩⟩
    · rw [hip]
    · rw [hip, hl]; decide +kernel
    · exact hp
    · exact hcon
    · exact Or.inl rfl
  have hw := h.router.wf
  have hroutes := hpass.routes .sorted 32000 0 hw hmsg
    (show s.sequenceTracker.recordSequence peer 0 = (.legacy, s.sequenceTracker) from rfl) nofun
  have hin' :
      ingressOf (s.router.hearing peer 0) peer 0 (RelayEnvelope.message { «meta» := {}, message }) = .ok ingress :=
    hin
  rcases route_dispatched (s := { s.hearing seat.virtualIp 0 peer 0 with sequenceTracker := s.sequenceTracker }) 32000
    (hw.hearing peer 0) (hearing_peer hp) hin' hd with ⟨out, hout, hroute⟩
  refine ⟨out, hout, ?_⟩
  rw [hroutes, hroute]

variable {port : Civ6UdpPort} {payload packet : List UInt8}

/-- A request of the peer goes to its own host session. -/
theorem request_sent {requestId : DiscoveryRequestId} (hport : isDiscoveryPort port.port = true)
    (hlen : payload.length ≤ 1200)
    (henc : RelayEnvelope.encode { «meta» := {}, message := .discoveryRequest requestId port payload } = .ok packet) :
    ∃ out d, (handleDatagram .sorted 32000 server ⟨.v4 ip.address, 32000⟩ packet 0 0).1 = .ok out ∧ d ∈ out := by
  have hw := (hosting_reachable.wf).hearing peer 0
  have hp : (hosting.hearing peer 0).peers[peer]? = _ := hearing_peer (show hosting.peers[peer]? = some _ from rfl)
  rcases dispatch_discovery_new .sorted hw hp
    (show (hosting.hearing peer 0).discoveries[requestId]? = none from rfl) hport
    (show payload.length ≤ min 4096 1200 by omega) 0 with ⟨house, r', hhouse, hd⟩
  rcases sends server_reachable (show server.router.peers[peer]? = some _ from rfl) ⟨rfl, rfl⟩ rfl (by simp)
    henc rfl hd with
    ⟨out, hout, hok⟩
  have htargets : (hosting.rooms[room]?).map (fun house => discoveryTargets .sorted (hosting.hearing peer 0) house 0) =
      some [⟨host, peer, ip⟩] := by decide +kernel
  rw [show hosting.rooms[room]? = some house from hhouse, Option.map_some, Option.some.injEq] at htargets
  unfold actionToDatagrams at hout
  dsimp only at hout
  split at hout
  · cases hout
  · rw [htargets] at hout
    cases hout
    exact ⟨_, _, hok, List.mem_cons_self⟩

/-- A packet of the session of the peer with itself comes back to it. -/
theorem packet_sent {sessionId : GameplaySessionId} (hport : port.port = Civ6LanBridge.gameplayPort)
    (hlen : payload.length ≤ 1200)
    (henc : RelayEnvelope.encode { «meta» := {}, message := .gameplayPacket sessionId port payload } = .ok packet) :
    ∃ out d, (handleDatagram .sorted 32000 (paired sessionId) ⟨.v4 ip.address, 32000⟩ packet 0 0).1 = .ok out ∧
      d ∈ out := by
  have hs : ((paired sessionId).router.hearing peer 0).gameplay[sessionId]? = some
      { roomId := room, clientPeerId := peer, hostPeerId := peer, hostVirtualIp := ip, clientVirtualIp := ip,
        lastActivity := 0, expiresAt := Duration.fromSecs 30 } := by
    show ((∅ : ExtTreeMap GameplaySessionId GameplayState).insert sessionId _)[sessionId]? = _
    rw [ExtTreeMap.getElem?_insert_self]
    rfl
  rcases dispatch_gameplay_live .sorted hs (show (0 : Instant) < Duration.fromSecs 30 by decide)
    (show otherEnd _ peer = some (peer, ip) by rfl) hport
    (show payload.length ≤ min 4096 1200 by omega) with ⟨r', -, hd⟩
  rcases sends (paired_reachable sessionId) (show (paired sessionId).router.peers[peer]? = some _ from rfl)
    ⟨rfl, rfl⟩ rfl
    (by simp) henc rfl hd with ⟨out, hout, hok⟩
  unfold actionToDatagrams at hout
  dsimp only at hout
  split at hout
  · cases hout
  · cases hout
    exact ⟨_, _, hok, List.mem_cons_self⟩

end RoomRouter.Example

/-! ## Which payloads are small enough -/

section

variable {message : RelayMessage} {session : RelaySession}

/-- A message that is forwarded leaves room for the fields of the message it becomes. -/
theorem Unfragmented.forwards (h : Unfragmented message) (hfits : message.PayloadFits) {s : AppState}
    (hs : AppState.Reachable {} s) {o : WalkOrder} {relayPort : UInt16} {source : SocketAddr} {limiterNow now : Instant}
    (hsent : ∀ packet, RelayEnvelope.encode { «meta» := {}, message } = .ok packet → ∃ out d,
      (handleDatagram o relayPort s source packet limiterNow now).1 = .ok out ∧ d ∈ out) :
    ∃ m' ip, RelayMessage.Forwards ip message m' ∧ 62 + m'.fields.length + m'.payloadSize ≤ tunnelMtu := by
  rcases encode_fits (e := { «meta» := {}, message }) hfits with ⟨packet, henc, -, -, hdec⟩
  rcases hsent packet henc with ⟨out, d, hok, hd⟩
  rcases handleDatagram_forwards hs.router.wf hok with ⟨envelope, hdec', hrel, hout⟩
  rcases hout d hd with ⟨-, ip, hf⟩
  rcases encode_fits (e := { «meta» := d.meta, message := d.message }) (hrel.fits hf.matches) with
    ⟨forwarded, hforwarded, -⟩
  have hsize := (h {} packet henc).2 {} s o relayPort source limiterNow now out d forwarded rfl hs hok hd hforwarded
  rw [wireSize_eq hforwarded] at hsize
  obtain rfl := Except.ok.inj (hdec.symm.trans hdec')
  exact ⟨d.message, ip, hf, hsize⟩

/-- A message that passes the check of its payload is not fragmented, neither as the client sends it nor as any
server forwards it, exactly if its payload leaves room for the fields. -/
theorem unfragmented_iff (hlimit : session.config.safePayloadSize = defaultSafeRelayPayloadSize)
    (hsafe : session.ensureSafePayload message = .ok ()) : Unfragmented message ↔ FitsTunnel message := by
  have hlen : message.payloadSize ≤ 1200 := by
    unfold RelaySession.ensureSafePayload at hsafe
    split at hsafe
    · cases hsafe
    · rw [hlimit, defaultSafeRelayPayloadSize] at *
      omega
  have hfits : message.PayloadFits := by
    rw [payloadFits_iff, maxCiv6DatagramSize]
    omega
  constructor
  · intro h
    rcases encode_fits (e := { «meta» := {}, message }) hfits with ⟨packet, henc, -⟩
    have hsize := (h {} packet henc).1
    rw [wireSize_eq henc, length_fields_eq] at hsize
    cases message with
    | discoveryRequest requestId port payload =>
      intro hport
      rcases h.forwards hfits RoomRouter.Example.server_reachable fun packet henc =>
        RoomRouter.Example.request_sent hport hlen henc with ⟨m', ip, hf, hsize'⟩
      cases hf
      simp [length_fields_eq, RelayMessage.payloadSize, tunnelMtu] at hsize'
      omega
    | gameplayPacket sessionId port payload =>
      intro hport
      rcases h.forwards hfits (RoomRouter.Example.paired_reachable sessionId) fun packet henc =>
        RoomRouter.Example.packet_sent hport hlen henc with ⟨m', ip, hf, hsize'⟩
      cases hf
      simp [length_fields_eq, RelayMessage.payloadSize, tunnelMtu] at hsize'
      omega
    | _ => simp [RelayMessage.payloadSize, tunnelMtu, FitsTunnel] at hsize ⊢ <;> omega
  · intro h «meta» packet henc
    constructor
    · rw [wireSize_eq henc, length_fields_eq]
      cases message <;> simp [RelayMessage.payloadSize, tunnelMtu, FitsTunnel] at h hlen ⊢ <;> omega
    · intro config s o relayPort source limiterNow now out d forwarded _ hs hok hd hforwarded
      rcases handleDatagram_forwards hs.router.wf hok with ⟨envelope, hdec, hrel, hout⟩
      rcases hout d hd with ⟨-, ip, hf⟩
      rcases encode_fits (e := { «meta», message }) hfits with ⟨packet', henc', -, -, hdec'⟩
      obtain rfl := Except.ok.inj (henc'.symm.trans henc)
      obtain rfl := Except.ok.inj (hdec'.symm.trans hdec)
      rw [wireSize_eq hforwarded]
      exact h.forwards hrel hf

end

namespace RoomRouter.Example

/-- The payload that the limit just lets through. -/
def longest : RelayMessage := .discoveryResponse (.ofByte 9) host ⟨62900⟩ (List.replicate 1200 0)

/-- A session of a client with the default limit. -/
def client : RelaySession := .new none 1

theorem longest_size : longest.payloadSize = 1200 := List.length_replicate

theorem longest_safe : client.ensureSafePayload longest = .ok () := by
  unfold RelaySession.ensureSafePayload
  rw [longest_size]
  rfl

end RoomRouter.Example

/-- A short request fits. -/
theorem short_request_unfragmented : Unfragmented (.discoveryRequest (.ofByte 9) ⟨62900⟩ [7]) :=
  (unfragmented_iff (show RoomRouter.Example.client.config.safePayloadSize = _ from rfl) rfl).2 fun _ => by decide

/-- The longest payload that passes the check makes the client send a packet that does not fit. -/
theorem longest_payload_fragmented : ¬ ∀ (session : RelaySession) (message : RelayMessage),
    session.config.safePayloadSize = defaultSafeRelayPayloadSize → session.ensureSafePayload message = .ok () →
      Unfragmented message := by
  intro hall
  have hfits : RoomRouter.Example.longest.PayloadFits := by
    rw [payloadFits_iff, RoomRouter.Example.longest_size]
    decide
  rcases encode_fits (e := { «meta» := {}, message := RoomRouter.Example.longest }) hfits with ⟨packet, henc, -⟩
  have hfields : RoomRouter.Example.longest.fields.length = 34 := length_fields_eq _
  have hwire : wireSize packet = 62 + RoomRouter.Example.longest.fields.length +
      RoomRouter.Example.longest.payloadSize :=
    wireSize_eq henc
  have hsize := (hall RoomRouter.Example.client _ rfl RoomRouter.Example.longest_safe {} packet henc).1
  rw [hwire, hfields, RoomRouter.Example.longest_size, tunnelMtu] at hsize
  omega

end Civ6LanBridge

/-
The rest of the server as the accounts see it: each step of a handler of rooms or sessions, and each turn of the relay
loop, checks a token or leaves the tokens as they are.
-/
import Civ6LanBridge.Server.Accounts
import Civ6LanBridge.Server.Underway

namespace Civ6LanBridge

open Std FinMap Bytes Prog Handler AppState

/-- Neither the tokens of clients nor the administrator's change. -/
def Unrelated (s s' : AppState) : Prop := s'.clientSessions = s.clientSessions ∧ s'.bearerToken = s.bearerToken

/-- The step checks a token, or it has nothing to do with tokens. -/
def Guarding (s s' : AppState) : Prop := (∃ caller, s' = (s.requireBearer caller).2) ∨ Unrelated s s'

theorem Unrelated.refl (s : AppState) : Unrelated s s := ⟨rfl, rfl⟩

theorem Unrelated.trans {s t u : AppState} (h : Unrelated s t) (h' : Unrelated t u) : Unrelated s u :=
  ⟨h'.1.trans h.1, h'.2.trans h.2⟩

/-- What the step does is among what happens outside. -/
theorem Guarding.outside {p : Portal} {s' : AppState} (h : Guarding p.app s') :
    ∃ o metrics, Outside.perform o p = { p with app := s', metrics } := by
  rcases h with ⟨caller, rfl⟩ | ⟨hs, hb⟩
  · refine ⟨.guarded caller, (p.requireBearer caller).2.metrics, ?_⟩
    rcases @Portal.requireBearer_eq p caller with ⟨-, happ, husers⟩
    show (p.requireBearer caller).2 = _
    rw [← happ, ← husers]
  · refine ⟨.elsewhere { p with app := s' }, p.metrics, ?_⟩
    show { p with app := { s' with clientSessions := p.app.clientSessions, bearerToken := p.app.bearerToken } } = _
    rw [← hs, ← hb]

/-! ## Calls -/

namespace Unrelated

variable {s : AppState}

theorem routed {α : Type} (call : RoomRouter → Outcome α) : Unrelated s (s.routed call).2 := by
  unfold AppState.routed
  split <;> exact ⟨rfl, rfl⟩

theorem execute (failure : Option SqlError) (statement : Database → Except SqlError Database) :
    Unrelated s (s.execute failure statement).2 := by
  unfold AppState.execute
  split
  · exact .refl s
  · exact .refl s
  · split
    · exact .refl s
    · exact ⟨rfl, rfl⟩

theorem command (run : WireGuard → Except WireGuardError WireGuard) : Unrelated s (s.command run).2 := by
  unfold AppState.command
  split
  · exact .refl s
  · split
    · exact .refl s
    · exact ⟨rfl, rfl⟩

theorem inRoom {α β : Type} (roomCode : RoomCode) (call : RoomId → RoomRouter → Outcome α)
    (snapshot : RoomRouter → α → Except RouterError β) : Unrelated s (s.inRoom roomCode call snapshot).2 := by
  unfold AppState.inRoom
  cases s.roomOfCode roomCode with
  | error e => exact .refl s
  | ok roomId =>
    have hcall : Unrelated s (s.routed (call roomId)).2 := .routed _
    dsimp only
    rcases hr : s.routed (call roomId) with ⟨_ | _, s'⟩ <;> rw [hr] at hcall <;> exact hcall

theorem createRoom (roomCode : RoomCode) (fresh : RoomId) : Unrelated s (s.createRoom roomCode fresh).2 := by
  have hcall : Unrelated s (s.routed fun r => r.createRoom roomCode fresh).2 := .routed _
  unfold AppState.createRoom
  rcases hr : s.routed fun r => r.createRoom roomCode fresh with ⟨_ | _, s'⟩ <;> rw [hr] at hcall <;> exact hcall

theorem resume (roomCode : RoomCode) (p : Option PeerId) (now : Instant) : Unrelated s (s.resume roomCode p now).2 := by
  unfold AppState.resume
  split
  · exact .refl s
  · exact .refl s
  · rename_i roomId p _
    have hcall : Unrelated s (s.routed fun r => r.resumePeer roomId p now).2 := .routed _
    rcases hr : s.routed fun r => r.resumePeer roomId p now with ⟨_ | _, s'⟩ <;> rw [hr] at hcall <;> exact hcall

theorem enterRoom (roomCode : RoomCode) (p : PeerId) (requested : Option VirtualIp) (now : Instant) :
    Unrelated s (s.enterRoom roomCode p requested now).2 := by
  unfold AppState.enterRoom
  split
  · exact .refl s
  split
  · exact .refl s
  · rename_i roomId _ _ ip _
    have hcall : Unrelated s (s.routed fun r => r.joinRoom roomId p ip now).2 := .routed _
    rcases hr : s.routed fun r => r.joinRoom roomId p ip now with ⟨_ | _, s'⟩ <;> rw [hr] at hcall
    · exact hcall
    · dsimp only
      split <;> exact hcall

end Unrelated

/-! ## Handlers -/

theorem Guarding.suits : Suits Guarding where
  refl := fun s => Or.inr (.refl s)
  requireBearer := fun _ caller => Or.inl ⟨caller, rfl⟩
  execute := fun _ _ => Or.inr (.execute _ _)
  command := fun _ => Or.inr (.command _)
  leaveRoom := fun _ _ _ _ => Or.inr (.routed _)
  resume := fun _ _ _ _ => Or.inr (.resume _ _ _)
  peerKeys := fun _ _ => Or.inr ⟨rfl, rfl⟩

/-- Every step of a request for a room. -/
theorem job_guarding (base64 : String → Option (List UInt8)) (q : Job) : (q.program base64).Keeps Guarding := by
  rcases q with ⟨o, weather, request⟩
  cases request with
  | joinRoom caller code payload fresh now =>
    exact (Guarding.suits.joinRoom (fun _ _ _ _ _ => Or.inr (.enterRoom _ _ _ _)) fresh).map _
  | resumeRoom caller code payload now => exact Guarding.suits.resumeRoom.map _
  | deletePeer caller code p => exact Guarding.suits.deletePeer
  | createRoom caller roomCode fresh =>
    refine Keeps.map _ (keeps_atomically (fun s => Or.inl ⟨caller, rfl⟩) fun res => ?_)
    rcases res with e | _
    · exact keeps_done _
    refine keeps_atomically (fun s => Or.inr (.createRoom _ _)) fun res => ?_
    rcases res with e | snapshot
    · exact keeps_done _
    refine keeps_atomically (fun s => Or.inr (.execute _ _)) fun res => ?_
    rcases res with e | _
    · exact keeps_atomically (fun s => Or.inr (.routed _)) fun _ => keeps_done _
    · exact keeps_done _
  | deleteRoom caller code =>
    show (deleteRoom weather caller code).Keeps Guarding
    refine keeps_atomically Guarding.suits.authorizeRoom fun res => ?_
    rcases res with e | roomCode
    · exact keeps_done _
    refine keeps_atomically (fun s => Or.inr (.refl s)) fun res => ?_
    rcases res with e | roomId
    · exact keeps_done _
    refine keeps_atomically (fun s => Or.inr (.execute _ _)) fun res => ?_
    rcases res with e | _
    · exact keeps_done _
    · exact keeps_atomically (fun s => Or.inr (.routed _)) fun _ => keeps_done _

section

variable {failure : Option SqlError} {caller : Caller} {code : String} {now : Instant}

theorem writing_guarding {α β : Type} {doing storing : SessionCall} {act : RoomCode → AppState → Answer β × AppState}
    {response : β → α} {undo : β → SessionHandler α} (hact : ∀ roomCode s, Unrelated s (act roomCode s).2)
    (hundo : ∀ b, (undo b).Keeps Guarding) :
    (writing failure caller code doing storing act response undo).Keeps Guarding := by
  refine keeps_atomically Guarding.suits.authorizeRoom fun res => ?_
  rcases res with e | roomCode
  · exact keeps_done _
  refine keeps_atomically (fun s => Or.inr (hact roomCode s)) fun res => ?_
  rcases res with e | snapshot
  · exact keeps_done _
  refine keeps_atomically (fun s => Or.inr (.execute _ _)) fun res => ?_
  rcases res with e | _
  · exact hundo snapshot
  · exact keeps_done _

/-- Every step of a request for a session. -/
theorem registerHost_guarding (payload : RegisterHostRequest) (fresh : HostSessionId) :
    (registerHost failure caller code now payload fresh).Keeps Guarding :=
  writing_guarding (fun _ _ => .inRoom _ _ _) fun _ => keeps_atomically (fun _ => Or.inr (.routed _)) fun _ =>
    keeps_done _

theorem heartbeatHost_guarding (payload : HeartbeatRequest) :
    (heartbeatHost failure caller code now payload).Keeps Guarding :=
  writing_guarding (fun _ _ => .inRoom _ _ _) fun _ => keeps_done _

theorem createGameplaySession_guarding (payload : CreateGameplayRequest) (fresh : GameplaySessionId) :
    (createGameplaySession failure caller code now payload fresh).Keeps Guarding :=
  writing_guarding (fun _ _ => .inRoom _ _ _) fun _ => keeps_atomically (fun _ => Or.inr (.routed _)) fun _ =>
    keeps_done _

theorem deleteHost_guarding (h : HostSessionId) : (deleteHost failure caller code h).Keeps Guarding := by
  refine keeps_atomically Guarding.suits.authorizeRoom fun res => ?_
  rcases res with e | roomCode
  · exact keeps_done _
  refine keeps_atomically (fun s => Or.inr (.refl s)) fun res => ?_
  rcases res with e | _
  · exact keeps_done _
  refine keeps_atomically (fun s => Or.inr (.execute _ _)) fun res => ?_
  rcases res with e | _
  · exact keeps_done _
  · exact keeps_atomically (fun s => Or.inr (.routed _)) fun _ => keeps_done _

end

/-! ## The relay loop -/

section

variable {s : AppState} {o : WalkOrder} {relayPort : UInt16} {now : Instant}

theorem route_unrelated {p : PeerId} {envelope : RelayEnvelope} :
    Unrelated s (route o relayPort s p envelope now).2 := by
  unfold route
  split
  · exact .refl s
  · split <;> exact ⟨rfl, rfl⟩

theorem handleMessage_unrelated {p : PeerId} {envelope : RelayEnvelope} :
    Unrelated s (handleMessage o relayPort s p envelope now).2 := by
  unfold handleMessage
  split
  · exact ⟨rfl, rfl⟩
  · split
    · exact ⟨rfl, rfl⟩
    · rename_i router _ _ _ tracker _ _
      exact Unrelated.trans (t := { s with router, sequenceTracker := tracker }) ⟨rfl, rfl⟩ route_unrelated

theorem handleEnvelope_unrelated {source : SocketAddr} {ip : Ipv4Addr} {envelope : RelayEnvelope} :
    Unrelated s (handleEnvelope o relayPort s source ip envelope now).2 := by
  unfold handleEnvelope
  split
  · exact .refl s
  split
  · exact .refl s
  dsimp only
  split
  · exact .refl s
  split
  · unfold handleProbe
    split <;> exact ⟨rfl, rfl⟩
  · exact handleMessage_unrelated

theorem handleDatagram_unrelated {source : SocketAddr} {packet : List UInt8} {limiterNow : Instant} :
    Unrelated s (handleDatagram o relayPort s source packet limiterNow now).2 := by
  unfold handleDatagram
  split
  · exact .refl s
  split
  · exact .refl s
  split
  · exact ⟨rfl, rfl⟩
  · rename_i limiter _
    exact Unrelated.trans (t := { s with udpRateLimiter := limiter }) ⟨rfl, rfl⟩ handleEnvelope_unrelated

/-- A turn of the loop has nothing to do with tokens. -/
theorem wake_unrelated (wake : Wake) : Unrelated s (wake.turn relayPort s).state := by
  cases wake with
  | receiveFailed => exact .refl s
  | tick o now => exact ⟨rfl, rfl⟩
  | received o source datagram limiterNow now accepts =>
    have hd := @handleDatagram_unrelated s o relayPort now source (datagram.take maxRelayDatagramSize) limiterNow
    unfold Wake.turn
    dsimp only
    rcases hx : handleDatagram o relayPort s source (datagram.take maxRelayDatagramSize) limiterNow now with
      ⟨(_ | _) | _, s'⟩ <;>
      rw [hx] at hd <;> exact hd

end

/-! ## All of it -/

/-- A step that another part of the server makes: a handler of rooms or sessions that is under way, or the relay
loop. -/
inductive Elsewhere (base64 : String → Option (List UInt8)) (s : AppState) : AppState → Prop
  | room {steps : List (Call × AppState × AppState)} {left : Handler Unit} (q : Job) :
      (q.program base64).Performs steps left → Elsewhere base64 s (left.act s)
  | registerHost {failure : Option SqlError} {caller : Caller} {code : String} {now : Instant}
      {payload : RegisterHostRequest}
      {fresh : HostSessionId} {steps : List (SessionCall × AppState × AppState)} {left : SessionHandler HostResponse} :
      (registerHost failure caller code now payload fresh).Performs steps left → Elsewhere base64 s (left.act s)
  | heartbeatHost {failure : Option SqlError} {caller : Caller} {code : String} {now : Instant}
      {payload : HeartbeatRequest}
      {steps : List (SessionCall × AppState × AppState)} {left : SessionHandler HostResponse} :
      (heartbeatHost failure caller code now payload).Performs steps left → Elsewhere base64 s (left.act s)
  | createGameplaySession {failure : Option SqlError} {caller : Caller} {code : String} {now : Instant}
      {payload : CreateGameplayRequest} {fresh : GameplaySessionId} {steps : List (SessionCall × AppState × AppState)}
      {left : SessionHandler GameplayResponse} :
      (createGameplaySession failure caller code now payload fresh).Performs steps left →
        Elsewhere base64 s (left.act s)
  | deleteHost {failure : Option SqlError} {caller : Caller} {code : String} {h : HostSessionId}
      {steps : List (SessionCall × AppState × AppState)} {left : SessionHandler Unit} :
      (deleteHost failure caller code h).Performs steps left → Elsewhere base64 s (left.act s)
  | wake (relayPort : UInt16) (wake : Wake) : Elsewhere base64 s (wake.turn relayPort s).state

/-- What is left of a program keeps to the relation as well. -/
theorem keeps_performs {ι σ α : Type} {R : σ → σ → Prop} {p q : Prog ι σ α} {steps : List (ι × σ × σ)} (h : p.Keeps R)
    (hp : p.Performs steps q) : q.Keeps R := by
  induction hp with
  | refl => exact h
  | snoc _ _ ih => exact ih.rest _

/-- Whatever another part of the server does is among what may happen outside. -/
theorem Elsewhere.outside {base64 : String → Option (List UInt8)} {p : Portal} {s' : AppState}
    (h : Elsewhere base64 p.app s') :
    ∃ o metrics, Outside.perform o p = { p with app := s', metrics } := by
  have hstep : ∀ {ι α : Type} {whole left : Prog ι AppState α} {steps : List (ι × AppState × AppState)},
      whole.Keeps Guarding →
        whole.Performs steps left → Guarding p.app (left.act p.app) :=
    fun hk hp => (keeps_performs hk hp).act (fun s => Or.inr (.refl s)) _
  refine Guarding.outside ?_
  cases h with
  | room q hp => exact hstep (job_guarding base64 q) hp
  | registerHost hp => exact hstep (registerHost_guarding _ _) hp
  | heartbeatHost hp => exact hstep (heartbeatHost_guarding _) hp
  | createGameplaySession hp => exact hstep (createGameplaySession_guarding _ _) hp
  | deleteHost hp => exact hstep (deleteHost_guarding _) hp
  | wake relayPort wake => exact Or.inr (wake_unrelated wake)

end Civ6LanBridge

/-
`server/civ6-relay.py`: a run of the relay, and where its packets go. A socket towards the host belongs to
one client for as long as it is open, and a closed one receives nothing any more.
-/
import Civ6LanBridge.SingleHost.Tables

namespace Civ6LanBridge.SingleHost

open Std FinMap Past

variable {Time : Type} [Zero Time] [LE Time] {relay relay' : Civ6Relay Time} {sock : ObjectId} {key : Key}

/-! ## One event -/

/-- The sockets of the batch that have not been handled. -/
def Loop.batch (loop : Loop Time) : List (ObjectId × Metadata) :=
  match loop.phase with
  | .handling batch => batch
  | _ => []

/-- The tables agree, and the batch may be stale but not wrong. -/
structure Sound (loop : Loop Time) : Prop where
  wired : Wired loop.relay
  batch : ∀ entry ∈ loop.batch, Registered loop.relay entry

abbrev Moves (Time : Type) [Zero Time] [LE Time] := List (Move (Loop Time) (Event Time))

/-- The move receives a packet on a socket. -/
def Receives (m : Move (Loop Time) (Event Time)) (sock : ObjectId) (metadata : Metadata) (io : Io Time)
    (datagram : List UInt8) (sender : Address) : Prop :=
  m.event = .handle io ∧ m.before.next? = some (sock, metadata) ∧ io.received = some (datagram, sender)

/-- The move opens a socket for the client of the packet that it receives. -/
def Creates (m : Move (Loop Time) (Event Time)) (sock : ObjectId) (key : Key) : Prop :=
  (∃ front port io datagram, Receives m front (.front key.kind port) io datagram key.client) ∧
    m.before.relay.nextId = sock ∧ m.after.relay.nextId = sock + 2

/-- The socket was opened for the key, and for no other. -/
def CreatedFor (h : Moves Time) (sock : ObjectId) (key : Key) : Prop :=
  (∃ m ∈ h, Creates m sock key) ∧ ∀ m ∈ h, ∀ key', Creates m sock key' → key' = key

variable {h : Moves Time} {m : Move (Loop Time) (Event Time)} {loop loop' : Loop Time} {key' : Key}
  {config : Config Time}

theorem Receives.inj {sock sock' : ObjectId} {metadata metadata' : Metadata} {io io' : Io Time}
    {datagram datagram' : List UInt8} {sender sender' : Address} (hr : Receives m sock metadata io datagram sender)
    (hr' : Receives m sock' metadata' io' datagram' sender') :
    sock = sock' ∧ metadata = metadata' ∧ io = io' ∧ datagram = datagram' ∧ sender = sender' := by
  obtain ⟨he, hn, hd⟩ := hr
  obtain ⟨he', hn', hd'⟩ := hr'
  cases he.symm.trans he'
  cases hn.symm.trans hn'
  cases hd.symm.trans hd'
  exact ⟨rfl, rfl, rfl, rfl, rfl⟩

theorem Creates.unique (hc : Creates m sock key) (hc' : Creates m sock key') : key' = key := by
  obtain ⟨⟨_, _, _, _, hr⟩, -⟩ := hc
  obtain ⟨⟨_, _, _, _, hr'⟩, -⟩ := hc'
  obtain ⟨-, hmetadata, -, -, hclient⟩ := hr.inj hr'
  injection hmetadata with hkind
  cases key
  cases key'
  cases hkind
  cases hclient
  rfl

theorem CreatedFor.cons (hc : CreatedFor h sock key) (hne : sock ≠ m.before.relay.nextId) :
    CreatedFor (m :: h) sock key := by
  obtain ⟨⟨x, hx, hcx⟩, hall⟩ := hc
  refine ⟨⟨x, List.mem_cons_of_mem _ hx, hcx⟩, fun y hy key' hcy => ?_⟩
  rcases List.mem_cons.1 hy with rfl | hy
  · exact (hne hcy.2.1.symm).elim
  · exact hall y hy key' hcy

theorem Creates.createdFor (hc : Creates m sock key) (hnew : ∀ x ∈ h, ∀ key', ¬ Creates x sock key') :
    CreatedFor (m :: h) sock key := by
  refine ⟨⟨m, List.mem_cons_self, hc⟩, fun y hy key' hcy => ?_⟩
  rcases List.mem_cons.1 hy with rfl | hy
  · exact hc.unique hcy
  · exact (hnew y hy key' hcy).elim

/-- Whose the sockets are that are open now, and that earlier moves have opened older ones. -/
structure Known (config : Config Time) (h : Moves Time) (loop : Loop Time) : Prop where
  configured : loop.relay.config = config
  sound : Sound loop
  owners : ∀ sock key, Owns loop.relay sock key → CreatedFor h sock key
  past : ∀ m ∈ h, ∀ sock key, Creates m sock key → sock < loop.relay.nextId

theorem Wired.owned_lt (hw : Wired relay) (ho : Owns relay sock key) : sock < relay.nextId := by
  obtain ⟨session, object, hs, -⟩ := ho
  have hopen := (hw.upstreams sock).2 (by rw [hs]; simp)
  exact hw.opened sock (by rw [hopen]; simp)

/-- A move that opens no socket. -/
theorem Known.settles (hk : Known config h m.before) (hs : Sound m.after)
    (hsettles : Settles m.before.relay m.after.relay) :
    Known config (m :: h) m.after := by
  have hnot (sock : ObjectId) (key : Key) : ¬ Creates m sock key := by
    rintro ⟨-, hbefore, hafter⟩
    rw [hsettles.nextId, hbefore] at hafter
    exact Nat.ne_of_lt (Nat.lt_add_of_pos_right (by decide)) hafter
  refine ⟨hsettles.config.trans hk.configured, hs, fun sock key ho => ?_, fun x hx sock key hc => ?_⟩
  · have ho' := hsettles.owners sock key ho
    exact (hk.owners sock key ho').cons (Nat.ne_of_lt (hk.sound.wired.owned_lt ho'))
  · rcases List.mem_cons.1 hx with rfl | hx
    · exact (hnot sock key hc).elim
    · rw [hsettles.nextId]
      exact hk.past x hx sock key hc

/-- A move that opens a socket. -/
theorem Known.opens (hk : Known config h m.before) (hs : Sound m.after)
    (hopens : Opens m.before.relay m.after.relay key)
    (hc : Creates m m.before.relay.nextId key) : Known config (m :: h) m.after := by
  refine ⟨hopens.config.trans hk.configured, hs, fun sock key' ho => ?_, fun x hx sock key' hcx => ?_⟩
  · rcases hopens.owners sock key' ho with ho' | ⟨rfl, rfl⟩
    · exact (hk.owners sock key' ho').cons (Nat.ne_of_lt (hk.sound.wired.owned_lt ho'))
    · exact hc.createdFor fun x hx key'' hcx => Nat.lt_irrefl _ (hk.past x hx _ key'' hcx)
  · rw [hopens.nextId]
    rcases List.mem_cons.1 hx with rfl | hx
    · rw [← hcx.2.1]
      exact Nat.lt_add_of_pos_right (by decide)
    · exact Nat.lt_add_right 2 (hk.past x hx sock key' hcx)

/-! ## Routes -/

variable [Sub Time] [LT Time] [DecidableLT Time]

/-- What the move sends. -/
def sent (m : Move (Loop Time) (Event Time)) : List Sent := (m.before.apply m.event).1

/-- Where the packet that a move receives goes, if it goes anywhere. -/
structure Routes (m : Move (Loop Time) (Event Time)) (h : Moves Time) : Prop where
  host : ∀ sock io datagram sender, Receives m sock .upstream io datagram sender →
    sender.ip = m.before.relay.config.hostIp →
    ∃ (key : Key) (frontPort : Nat) (frontSocket : ObjectId), CreatedFor h sock key ∧
      m.before.relay.frontSockets[frontPort]? = some frontSocket ∧
      sent m = if io.sends then
        [{ socket := frontSocket, data := datagram.take m.before.relay.config.bufferSize, dest := key.client }] else []
  stranger : ∀ sock io datagram sender, Receives m sock .upstream io datagram sender →
    sender.ip ≠ m.before.relay.config.hostIp → sent m = [] ∧ m.after.relay = m.before.relay
  refused : ∀ sock kind port io datagram sender, Receives m sock (.front kind port) io datagram sender →
    sender.ip = m.before.relay.config.hostIp ∨ m.before.relay.isAllowed sender.ip = false → sent m = [] ∧
      m.after.relay = m.before.relay
  client : ∀ sock kind port io datagram sender, Receives m sock (.front kind port) io datagram sender → ∀ s ∈ sent m,
    s.data = datagram.take m.before.relay.config.bufferSize ∧ s.dest = { ip := m.before.relay.config.hostIp, port } ∧
      CreatedFor (m :: h) s.socket { kind, client := sender }
  silent : (∀ sock metadata io datagram sender, ¬ Receives m sock metadata io datagram sender) → sent m = []

/-- A move that receives nothing. -/
theorem Routes.quiet (hno : ∀ sock metadata io datagram sender, ¬ Receives m sock metadata io datagram sender)
    (hsent : sent m = []) :
    Routes m h :=
  ⟨fun _ _ _ _ hr => (hno _ _ _ _ _ hr).elim, fun _ _ _ _ hr => (hno _ _ _ _ _ hr).elim,
    fun _ _ _ _ _ _ hr => (hno _ _ _ _ _ hr).elim, fun _ _ _ _ _ _ hr => (hno _ _ _ _ _ hr).elim, fun _ => hsent⟩

/-- A packet on a socket towards the host. -/
theorem Routes.upstream {io : Io Time} {datagram : List UInt8} {sender : Address}
    (hr : Receives m sock .upstream io datagram sender)
    (hhost : sender.ip = m.before.relay.config.hostIp → ∃ (key : Key) (frontPort : Nat) (frontSocket : ObjectId),
      CreatedFor h sock key ∧ m.before.relay.frontSockets[frontPort]? = some frontSocket ∧ sent m = if io.sends then
        [{ socket := frontSocket, data := datagram.take m.before.relay.config.bufferSize, dest := key.client }] else [])
    (hstranger : sender.ip ≠ m.before.relay.config.hostIp → sent m = [] ∧ m.after.relay = m.before.relay) :
    Routes m h := by
  constructor
  · intro sock' io' datagram' sender' hr'
    obtain ⟨rfl, -, rfl, rfl, rfl⟩ := hr.inj hr'
    exact hhost
  · intro sock' io' datagram' sender' hr'
    obtain ⟨rfl, -, rfl, rfl, rfl⟩ := hr.inj hr'
    exact hstranger
  · intro _ _ _ _ _ _ hr'
    cases (hr.inj hr').2.1
  · intro _ _ _ _ _ _ hr'
    cases (hr.inj hr').2.1
  · exact fun hno => (hno _ _ _ _ _ hr).elim

/-- A packet on a public socket. -/
theorem Routes.front {kind : Kind} {port : Nat} {io : Io Time} {datagram : List UInt8} {sender : Address}
    (hr : Receives m sock (.front kind port) io datagram sender)
    (hrefused : sender.ip = m.before.relay.config.hostIp ∨ m.before.relay.isAllowed sender.ip = false →
      sent m = [] ∧ m.after.relay = m.before.relay)
    (hclient : ∀ s ∈ sent m, s.data = datagram.take m.before.relay.config.bufferSize ∧
      s.dest = { ip := m.before.relay.config.hostIp, port } ∧
        CreatedFor (m :: h) s.socket { kind, client := sender }) : Routes m h := by
  constructor
  · intro _ _ _ _ hr'
    cases (hr.inj hr').2.1
  · intro _ _ _ _ hr'
    cases (hr.inj hr').2.1
  · intro sock' kind' port' io' datagram' sender' hr'
    obtain ⟨rfl, hmetadata, rfl, rfl, rfl⟩ := hr.inj hr'
    exact hrefused
  · intro sock' kind' port' io' datagram' sender' hr'
    obtain ⟨rfl, hmetadata, rfl, rfl, rfl⟩ := hr.inj hr'
    cases hmetadata
    exact hclient
  · exact fun hno => (hno _ _ _ _ _ hr).elim

/-! ## A step -/

def Happens (loop : Loop Time) (e : Event Time) (loop' : Loop Time) : Prop := loop.Allows e ∧ loop' = (loop.apply e).2

theorem Sound.stop (hs : Sound loop) : Sound (loop.apply .stop).2 ∧ Settles loop.relay (loop.apply .stop).2.relay :=
  ⟨⟨⟨hs.wired.shared, hs.wired.fronts, hs.wired.upstreams, hs.wired.returns, hs.wired.opened, hs.wired.allocated⟩,
    hs.batch⟩, ⟨rfl, fun _ he => he, rfl, fun _ _ ho => ho⟩⟩

theorem Sound.select (hs : Sound loop) (ready : List ObjectId) :
    Sound (loop.apply (.select ready)).2 ∧ Settles loop.relay (loop.apply (.select ready)).2.relay := by
  refine ⟨⟨hs.wired, fun entry hentry => ?_⟩, .refl loop.relay⟩
  obtain ⟨sock, -, hmap⟩ := List.mem_filterMap.1 hentry
  obtain ⟨metadata, hm, rfl⟩ := Option.map_eq_some_iff.1 hmap
  exact Or.inl hm

theorem Sound.expire (hs : Sound loop) (o : WalkOrder) (now : Time) :
    Sound (loop.apply (.expire o now)).2 ∧ Settles loop.relay (loop.apply (.expire o now)).2.relay := by
  obtain ⟨hw, hsettles⟩ := hs.wired.expireSessions o now
  unfold Loop.apply
  dsimp only
  split
  · exact ⟨⟨hw, nofun⟩, hsettles⟩
  · obtain ⟨hw', hsettles'⟩ := hw.close
    exact ⟨⟨hw', nofun⟩, hsettles.trans hsettles'⟩

section

variable {metadata : Metadata} {batch : List (ObjectId × Metadata)} {io : Io Time}

theorem apply_handled {out : List Sent} (h : relay.handleReadable sock metadata io = some (out, relay')) :
    Loop.apply { relay, phase := .handling ((sock, metadata) :: batch) } (.handle io) =
      (out, { relay := relay', phase := .handling batch }) := by
  unfold Loop.apply
  dsimp only
  rw [h]

theorem apply_raised (h : relay.handleReadable sock metadata io = none) :
    Loop.apply { relay, phase := .handling ((sock, metadata) :: batch) } (.handle io) =
      ([], { relay := relay.close, phase := .over }) := by
  unfold Loop.apply
  dsimp only
  rw [h]

/-- The move in which the next socket of the batch is handled. -/
def handling (relay : Civ6Relay Time) (sock : ObjectId) (metadata : Metadata) (batch : List (ObjectId × Metadata))
    (io : Io Time) :
    Move (Loop Time) (Event Time) :=
  { before := { relay, phase := .handling ((sock, metadata) :: batch) }
    event := .handle io
    after := (Loop.apply { relay, phase := .handling ((sock, metadata) :: batch) } (.handle io)).2 }

theorem Known.handled (hk : Known config h (handling relay sock metadata batch io).before) {out : List Sent}
    (hout : relay.handleReadable sock metadata io = some (out, relay')) (hw : Wired relay')
    (hsettles : Settles relay relay') :
    Known config (handling relay sock metadata batch io :: h) (handling relay sock metadata batch io).after := by
  have hafter : (handling relay sock metadata batch io).after = { relay := relay', phase := .handling batch } :=
    congrArg Prod.snd (apply_handled hout)
  refine hk.settles ?_ ?_ <;> rw [hafter]
  · exact ⟨hw, fun entry hentry => hsettles.entries entry (hk.sound.batch entry (List.mem_cons_of_mem _ hentry))⟩
  · exact hsettles

/-- A packet on a socket towards the host. -/
theorem Known.handleUpstream {datagram : List UInt8} {sender : Address}
    (hk : Known config h (handling relay sock .upstream batch io).before)
    (hreceived : io.received = some (datagram, sender)) (hopen : relay.selector[sock]? = some Metadata.upstream) :
    Known config (handling relay sock .upstream batch io :: h) (handling relay sock .upstream batch io).after ∧
      Routes (handling relay sock .upstream batch io) h := by
  have hreadable : relay.handleReadable sock .upstream io =
      some (relay.handleHostPacket sock (datagram.take relay.config.bufferSize) sender io) := by
    unfold Civ6Relay.handleReadable
    rw [hreceived]
  by_cases hsender : sender.ip = relay.config.hostIp
  · obtain ⟨hw, hsettles, key, frontPort, frontSocket, ho, hfront, hsent⟩ :=
      handleHostPacket_spec hk.sound.wired hopen hsender
    refine ⟨hk.handled hreadable hw hsettles, Routes.upstream ⟨rfl, rfl, hreceived⟩ (fun _ => ?_) fun hne =>
      (hne hsender).elim⟩
    exact ⟨key, frontPort, frontSocket, hk.owners sock key ho, hfront,
      (congrArg Prod.fst (apply_handled hreadable)).trans hsent⟩
  · rw [handleHostPacket_stranger hsender] at hreadable
    refine ⟨hk.handled hreadable hk.sound.wired (.refl relay),
      Routes.upstream ⟨rfl, rfl, hreceived⟩ (fun h => (hsender h).elim) fun _ => ?_⟩
    exact ⟨congrArg Prod.fst (apply_handled hreadable),
      congrArg (fun r : List Sent × Loop Time => r.2.relay) (apply_handled hreadable)⟩

/-- A packet on a public socket. -/
theorem Known.handleFront {kind : Kind} {port : Nat} {datagram : List UInt8} {sender : Address}
    (hk : Known config h (handling relay sock (.front kind port) batch io).before)
      (hreceived : io.received = some (datagram, sender))
    (hopen : relay.selector[sock]? = some (Metadata.front kind port)) :
    Known config (handling relay sock (.front kind port) batch io :: h)
      (handling relay sock (.front kind port) batch io).after ∧
      Routes (handling relay sock (.front kind port) batch io) h := by
  have hr : Receives (handling relay sock (.front kind port) batch io) sock (.front kind port) io datagram sender :=
    ⟨rfl, rfl, hreceived⟩
  have hw : Wired relay := hk.sound.wired
  have hport : relay.frontSockets[port]? ≠ none := by rw [hw.fronts sock kind port hopen]; simp
  have hreadable : relay.handleReadable sock (.front kind port) io =
      relay.handleClientPacket kind port (datagram.take relay.config.bufferSize) sender io := by
    unfold Civ6Relay.handleReadable
    rw [hreceived]
  have hrefused (hno : sender.ip = relay.config.hostIp ∨ relay.isAllowed sender.ip = false) :
      sent (handling relay sock (.front kind port) batch io) = [] ∧
        (handling relay sock (.front kind port) batch io).after.relay = relay := by
    rw [handleClientPacket_refuses hno.symm] at hreadable
    exact ⟨congrArg Prod.fst (apply_handled hreadable),
      congrArg (fun r : List Sent × Loop Time => r.2.relay) (apply_handled hreadable)⟩
  cases hout : relay.handleClientPacket kind port (datagram.take relay.config.bufferSize) sender io with
  | none =>
    rw [hout] at hreadable
    have happly : Loop.apply { relay, phase := .handling ((sock, .front kind port) :: batch) } (.handle io) = _ :=
      apply_raised hreadable
    refine ⟨hk.settles ?_ ?_, Routes.front hr hrefused ?_⟩
    · rw [show (handling relay sock (.front kind port) batch io).after = _ from congrArg Prod.snd happly]
      exact ⟨hw.close.1, nofun⟩
    · rw [show (handling relay sock (.front kind port) batch io).after = _ from congrArg Prod.snd happly]
      exact hw.close.2
    · rw [show sent (handling relay sock (.front kind port) batch io) = _ from congrArg Prod.fst happly]
      nofun
  | some result =>
    obtain ⟨out, relay'⟩ := result
    rw [hout] at hreadable
    have hforwards := handleClientPacket_spec hw hport hout
    have hsent : sent (handling relay sock (.front kind port) batch io) = out :=
      congrArg Prod.fst (apply_handled hreadable)
    have hafter : (handling relay sock (.front kind port) batch io).after =
        { relay := relay', phase := .handling batch } :=
      congrArg Prod.snd (apply_handled hreadable)
    have howned (s : ObjectId) (ho : Owns relay s { kind, client := sender }) :
        CreatedFor (handling relay sock (.front kind port) batch io :: h) s { kind, client := sender } :=
      (hk.owners s _ ho).cons (Nat.ne_of_lt (hw.owned_lt ho))
    rcases hforwards.opened with hsettles | hopens
    · refine ⟨hk.handled hreadable hforwards.wired hsettles, Routes.front hr hrefused fun s hs => ?_⟩
      rw [hsent] at hs
      refine ⟨(hforwards.same s hs).1, (hforwards.same s hs).2, ?_⟩
      rcases hforwards.owner s hs with ho | ⟨-, hnext⟩
      · exact howned _ ho
      · rw [hsettles.nextId] at hnext
        exact (Nat.ne_of_lt (Nat.lt_add_of_pos_right (by decide)) hnext).elim
    · have hcreates : Creates (handling relay sock (.front kind port) batch io) relay.nextId
          { kind, client := sender } :=
        ⟨⟨sock, port, io, datagram, hr⟩, rfl, by rw [hafter]; exact hopens.nextId⟩
      have hsound : Sound (handling relay sock (.front kind port) batch io).after := by
        rw [hafter]
        exact ⟨hforwards.wired, fun entry hentry =>
          hopens.entries entry (hk.sound.batch entry (List.mem_cons_of_mem _ hentry))⟩
      refine ⟨hk.opens hsound (by rw [hafter]; exact hopens) hcreates, Routes.front hr hrefused fun s hs => ?_⟩
      rw [hsent] at hs
      refine ⟨(hforwards.same s hs).1, (hforwards.same s hs).2, ?_⟩
      rcases hforwards.owner s hs with ho | ⟨hnew, -⟩
      · exact howned _ ho
      · rw [hnew]
        exact hcreates.createdFor fun x hx key' hcx => Nat.lt_irrefl _ (hk.past x hx _ key' hcx)

end

theorem Known.step (hk : Known config h m.before) (hs : Happens m.before m.event m.after) :
    Known config (m :: h) m.after ∧ Routes m h := by
  obtain ⟨⟨relay, phase⟩, event, after⟩ := m
  obtain ⟨hallows, hafter⟩ := hs
  dsimp only at hk hallows hafter
  subst hafter
  cases event with
  | select ready =>
    obtain ⟨hsound, hsettles⟩ := hk.sound.select ready
    exact ⟨hk.settles hsound hsettles, Routes.quiet (fun _ _ _ _ _ hr => nomatch hr.1) rfl⟩
  | expire o now =>
    obtain ⟨hsound, hsettles⟩ := hk.sound.expire o now
    exact ⟨hk.settles hsound hsettles, Routes.quiet (fun _ _ _ _ _ hr => nomatch hr.1) rfl⟩
  | stop =>
    obtain ⟨hsound, hsettles⟩ := hk.sound.stop
    exact ⟨hk.settles hsound hsettles, Routes.quiet (fun _ _ _ _ _ hr => nomatch hr.1) rfl⟩
  | handle io =>
    obtain ⟨sock, metadata, hnext, hopen⟩ := hallows
    obtain _ | (_ | ⟨next, batch⟩) | _ := phase <;> cases hnext
    cases hreceived : io.received with
    | none =>
      have hreadable : relay.handleReadable sock metadata io = some ([], relay) := by
        unfold Civ6Relay.handleReadable
        rw [hreceived]
      refine ⟨hk.handled hreadable hk.sound.wired (.refl relay),
        Routes.quiet (fun _ _ _ _ _ hr => ?_) (congrArg Prod.fst (apply_handled hreadable))⟩
      cases hr.1
      cases hreceived.symm.trans hr.2.2
    | some packet =>
      have hin : sock ∈ relay.selector := hopen (by rw [hreceived]; simp)
      have hregistered : relay.selector[sock]? = some metadata := by
        refine (hk.sound.batch (sock, metadata) List.mem_cons_self).resolve_right fun hclosed => ?_
        rw [ExtTreeMap.mem_iff_isSome_getElem?, hclosed.1] at hin
        cases hin
      cases metadata with
      | upstream => exact hk.handleUpstream hreceived hregistered
      | front kind port => exact hk.handleFront hreceived hregistered

/-! ## A run -/

/-- `run` is at its first `select`. -/
def Starts (config : Config Time) (loop : Loop Time) : Prop :=
  loop = { relay := (Civ6Relay.new config).start, phase := .selecting }

theorem Run.known (hr : Run (Starts config) Happens h loop) : Known config h loop := by
  induction hr with
  | init hs =>
    obtain rfl := hs
    obtain ⟨hconfig, hupstream⟩ := start_frame config
    refine ⟨hconfig, ⟨start_wired config, fun entry hentry => (List.not_mem_nil hentry).elim⟩, ?_,
      fun m hm => (List.not_mem_nil hm).elim⟩
    rintro sock key ⟨session, object, hs, -⟩
    rw [show (Civ6Relay.new config).start.upstreamSessions = ∅ from hupstream] at hs
    simp at hs
  | step _ hs ih => exact (ih.step hs).1

theorem relay_routes (hr : Run (Starts config) Happens h loop) :
    Shared loop.relay.heap Session.key Session.upstream loop.relay.sessions loop.relay.upstreamSessions ∧
      ∀ recent m old, h = recent ++ m :: old → m.before.relay.config = config ∧ Routes m old := by
  refine ⟨(Run.known hr).sound.wired.shared, ?_⟩
  rintro recent m old rfl
  obtain ⟨_, hr'⟩ := hr.earlier
  cases hr' with
  | step hr' hs => exact ⟨(Run.known hr').configured, ((Run.known hr').step hs).2⟩

end Civ6LanBridge.SingleHost

namespace Civ6LanBridge.SingleHost.Example

open Std FinMap Past

def config : Config Nat where
  listenIp := ⟨127, 0, 0, 1⟩
  hostIp := ⟨127, 0, 0, 2⟩
  discoveryStart := ⟨62900, by decide⟩
  discoveryEnd := ⟨62900, by decide⟩
  gameplayPort := ⟨62056, by decide⟩
  idleTimeout := 2
  allowedNetworks := [.v4 ⟨127, 0, 0, 0⟩ 8]
  bufferSize := 65535
  ordered := by decide
  apart := by decide
  timesOut := by decide

def started : Loop Nat := { relay := (Civ6Relay.new config).start, phase := .selecting }

def client : Address := { ip := ⟨127, 0, 0, 3⟩, port := 5000 }

def host : Address := { ip := ⟨127, 0, 0, 2⟩, port := 62900 }

/-- A client asks for rooms, and the host answers on the socket that was opened for it. -/
def exchange : List (Event Nat) :=
  [.handle { received := some ([82], host), opens := true, sends := true, now := 1 }, .select [2], .expire .sorted 0,
    .handle { received := some ([68], client), opens := true, sends := true, now := 0 }, .select [0]]

def step (loop : Loop Nat) (e : Event Nat) : Loop Nat := (loop.apply e).2

theorem exchange_permitted : Permitted step Loop.Allows started exchange :=
  ⟨⟨2, .upstream, rfl, fun _ => by decide⟩, ⟨rfl, by decide⟩, rfl,
    ⟨0, .front .discovery 62900, rfl, fun _ => by decide⟩, ⟨rfl, by decide⟩, trivial⟩

theorem exchange_runs : Run (Starts config) Happens (replay step started exchange) (final step started exchange) :=
  run_replay step Loop.Allows (show Starts config started from rfl) exchange_permitted

theorem exchange_routed :
    Shared (final step started exchange).relay.heap Session.key Session.upstream
      (final step started exchange).relay.sessions
        (final step started exchange).relay.upstreamSessions ∧
      ∀ recent m old, replay step started exchange = recent ++ m :: old → m.before.relay.config = config ∧
        Routes m old :=
  relay_routes exchange_runs

example : (replay step started exchange).flatMap sent =
    [{ socket := 0, data := [82], dest := client }, { socket := 2, data := [68], dest := host }] := by decide

end Civ6LanBridge.SingleHost.Example

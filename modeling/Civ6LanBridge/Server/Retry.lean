/-
Retried selections of a host. Every selection makes a gameplay session of its own, so a client has at most one
with each host session as long as it does not select one again that it already plays on.
-/
import Civ6LanBridge.Server.Provenance

namespace Civ6LanBridge

open Std FinMap Past AppState

/-- Every client has at most one gameplay session on every host session. -/
def RoomRouter.Single (r : RoomRouter) : Prop :=
  ∀ (k k' : GameplaySessionId) (c : PeerId) (hostId : HostSessionId) (q : PeerId),
    r.PlaysOn k c hostId q → r.PlaysOn k' c hostId q → k = k'

/-- The client selects, with success, a host session on which it has the gameplay session `k`. -/
def Reselects (k : GameplaySessionId) (now : Instant) (m : Move AppState Event) : Prop :=
  ∃ o roomId c hostId q fresh, m.event = .control o (.selectHost roomId c hostId now fresh) ∧
    ((RouterOp.selectHost roomId c hostId now fresh).exec o m.before.router).1 = .ok () ∧
      m.before.router.PlaysOn k c hostId q

variable {config : RouterConfig} {s s' : AppState} {e : Event} {h : Moves}

/-! ## One event -/

/-- Without a selection that is made again, there is still at most one session. -/
theorem single_step (hreach : RoomRouter.Reachable config s.router) (he : Happens s e s') (hs : s.router.Single)
    (hm : ¬ ∃ k now, Reselects k now { before := s, event := e, after := s' }) : s'.router.Single := by
  -- a session that has just been selected is the only one
  have hnew : ∀ {k k' c hostId q}, Selects k c hostId q { before := s, event := e, after := s' } →
      ¬ s.router.PlaysOn k' c hostId q := by
    rintro k k' c hostId q ⟨o, roomId, now, hev, hok, -⟩ hon
    exact hm ⟨k', now, o, roomId, c, hostId, q, k, hev, hok, hon⟩
  intro k k' c hostId q hk hk'
  rcases playsOn_before hreach he hk with hsel | hon
  · rcases playsOn_before hreach he hk' with hsel' | hon'
    · rcases hsel with ⟨o, roomId, now, hev, -⟩
      rcases hsel' with ⟨o', roomId', now', hev', -⟩
      cases hev.symm.trans hev'
      rfl
    · exact absurd hon' (hnew hsel)
  · rcases playsOn_before hreach he hk' with hsel' | hon'
    · exact absurd hon (hnew hsel')
    · exact hs k k' c hostId q hon hon'

/-- A selection that is made again makes a second session. -/
theorem reselects_breaks (hw : s.router.WF) (he : Happens s e s') {k : GameplaySessionId} {now : Instant}
    (hm : Reselects k now { before := s, event := e, after := s' }) : ¬ s'.router.Single := by
  rcases hm with ⟨o, roomId, c, hostId, q, fresh, rfl, hok, session, host, hk, hc, hq, hh, howner, hroom⟩
  rcases he with ⟨⟨-, hfresh⟩, rfl⟩
  intro hsingle
  rcases RoomRouter.exec_ok o hw hok with ⟨r', hr, heff⟩
  change ((RouterOp.selectHost roomId c hostId now fresh).exec o s.router).2.Single at hsingle
  rw [hr] at hsingle
  have hne : fresh ≠ k := by
    rintro rfl
    rw [show s.router.gameplay[fresh]? = none from hfresh] at hk
    cases hk
  cases heff with
  | select hp hh' hsame =>
    cases hh.symm.trans hh'
    refine hne (hsingle fresh k c hostId q ⟨_, host, ExtTreeMap.getElem?_insert_self, rfl, howner, hh, howner, hsame⟩
      ⟨session, host, ?_, hc, hq, hh, howner, hroom⟩)
    exact (getElem?_insert_ne hne).trans hk

/-! ## Runs -/

/-- In a run there is never more than one gameplay session of a client on a host session exactly if no client
selects a host session again on which it has one. -/
theorem single_iff (hr : Run (Starts config) Happens h s) :
    (∀ m ∈ h, m.after.router.Single) ↔ ∀ m ∈ h, ¬ ∃ k now, Reselects k now m := by
  refine hr.kept_iff (P := fun s => s.router.Single) ?_ ?_ ?_
  · rintro s hs k k' c hostId q ⟨session, -, hk, -⟩ -
    rw [hs.router] at hk
    simp [RoomRouter.new] at hk
  · exact fun h s e s' hr he hs hm => single_step (starts_router hr) he hs hm
  · rintro h s e s' hr he ⟨k, now, hm⟩
    exact reselects_breaks (starts_router hr).wf he hm

/-! ## A retried request -/

namespace RoomRouter.Example

def second : GameplaySessionId := .ofByte 7

/-- The guest selects the host and sends the same request again. -/
def retrying : List Event := .control .sorted (.selectHost room guest host 0 second) :: selecting

theorem retrying_permitted : booted.Permitted retrying :=
  ⟨⟨trivial, show (booted.final selecting).router.gameplay[second]? = none by decide +kernel⟩, selecting_permitted⟩

theorem guest_plays_on {k : GameplaySessionId} (hk : k = session ∨ k = second) :
    (booted.final retrying).router.PlaysOn k guest host peer := by
  have hends : ((booted.final retrying).router.gameplay[k]?).map (fun session =>
      (session.clientPeerId, session.hostPeerId, session.roomId)) = some (guest, peer, room) := by
    rcases hk with rfl | rfl <;> decide +kernel
  have howner : ((booted.final retrying).router.hosts[host]?).map (fun host => (host.peerId, host.roomId)) =
      some (peer, room) := by decide +kernel
  rcases Option.map_eq_some_iff.1 hends with ⟨session, hk, hs⟩
  rcases Option.map_eq_some_iff.1 howner with ⟨host, hh, ho⟩
  simp only [Prod.mk.injEq] at hs ho
  exact ⟨session, host, hk, hs.1, hs.2.1, hh, ho.1, ho.2.trans hs.2.2.symm⟩

theorem retrying_not_single : ¬ (booted.final retrying).router.Single := by
  intro hsingle
  have hsame := hsingle session second guest host peer (guest_plays_on (.inl rfl)) (guest_plays_on (.inr rfl))
  exact absurd hsame (by decide)

end RoomRouter.Example

/-- A host session that is selected again is on a gameplay session that has not expired. -/
def Prompt (m : Move AppState Event) : Prop :=
  ∀ k now, Reselects k now m → ∃ session : GameplayState, m.before.router.gameplay[k]? = some session ∧
    now < session.expiresAt

open RoomRouter in
/-- Where a client has two sessions, it has selected the host session again. -/
theorem guest_selects_again : ∃ m ∈ Example.booted.replay Example.retrying, ∃ k now, Reselects k now m := by
  by_contra hno
  push Not at hno
  have hall := (single_iff (replay_run Example.booted_starts Example.retrying_permitted)).2 fun m hm ⟨k, now, hk⟩ =>
    hno m hm k now hk
  exact Example.retrying_not_single (hall _ List.mem_cons_self)

open RoomRouter in
/-- A retry makes a second session while the first is live. -/
theorem retry_duplicates : ¬ ∀ h s, Run (Starts {}) Happens h s → (∀ m ∈ h, Prompt m) → s.router.Single := by
  intro hall
  have hr := replay_run Example.booted_starts Example.retrying_permitted
  refine Example.retrying_not_single (hall _ _ hr ?_)
  rintro m hin k now ⟨o, roomId, c, hostId, q, fresh, hev, -, session, -, hk, -⟩
  rcases hr.mem hin with ⟨⟨old, hold⟩, -⟩
  have hnow : now ∈ readings (Example.booted.replay Example.retrying) :=
    List.mem_filterMap.2 ⟨m, hin, by rw [hev]; rfl⟩
  have hzero : ∀ t ∈ readings (Example.booted.replay Example.retrying), t = 0 := by decide
  refine ⟨session, hk, ?_⟩
  rw [hzero now hnow, (session_touched hold hk).1]
  exact Nat.lt_of_lt_of_le (by decide) (Nat.le_add_left _ _)

end Civ6LanBridge

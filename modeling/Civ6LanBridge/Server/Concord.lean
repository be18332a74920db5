/-
Requests side by side with one another and with sweeps. Once all of them are answered, router and database have the same
rooms, unless a race was lost: a request that takes a room back finds a guest in it or a row that was written behind its
back, or a row is written of a room that is gone.
-/
import Civ6LanBridge.Server.Underway

namespace Civ6LanBridge

open Std FinMap Bytes Past RoomRouter Prog Handler AppState Mirror

/-! ## Any number of requests and sweeps -/

/-- The requests about to run. -/
def underway (base64 : String → Option (List UInt8)) (requests : List Job) (s : AppState) :
    Pool Call AppState (Answer Unit) :=
  ⟨s, requests.map (Job.program base64)⟩

/-- Router and database have the same rooms, and the rooms to be created get identifiers of their own. -/
structure Opening (config : RouterConfig) (requests : List Job) (s : AppState) : Prop where
  router : RoomRouter.Reachable config s.router
  database : s.database.isSome
  agree : s.rooms = s.rows
  unused : ∀ q ∈ requests, ∀ x : RoomId, q.Creates x → x ∉ s.rooms
  distinct : ∀ (i j : Nat) (q q' : Job) (x : RoomId), requests[i]? = some q → requests[j]? = some q' → q.Creates x →
    q'.Creates x → i = j

/-- Once all requests are answered router and database have the same rooms; a request to create a room that has failed
leaves no room behind, and one to delete a room that has met a conflict has changed nothing. -/
structure Concord (requests : List Job) (h : List RoomMove) (Q : Pool Call AppState (Answer Unit)) : Prop where
  rooms : (∀ p ∈ Q.programs, p.Finished) → Q.shared.rooms = Q.shared.rows
  created : ∀ (i : Nat) (q : Job) (x : RoomId) (e : Fault ApiError), requests[i]? = some q → q.Creates x →
    Q.programs[i]? = some (.done (.error e)) → x ∉ Q.shared.rooms ∧ x ∉ Q.shared.rows
  deleted : ∀ (i : Nat) (q : Job) (caller : Caller) (code : String) (answer : Answer Unit), requests[i]? = some q →
    q.request = .deleteRoom caller code → Q.programs[i]? = some (.done answer) → IsConflict answer → ¬ Touched h i

/-- The stage at which a request starts. -/
def Job.start (q : Job) : Stage RoomId :=
  match q.request with
  | .createRoom _ _ x => .entering x
  | .deleteRoom _ _ => .looking
  | _ => .idle

theorem Job.doing_start (base64 : String → Option (List UInt8)) (q : Job) : Doing q (q.program base64) q.start := by
  have hspares : ∀ {p : Handler Unit}, (∀ caller roomCode x, q.request ≠ .createRoom caller roomCode x) →
      (∀ caller code, q.request ≠ .deleteRoom caller code) → p.Keeps Spares → Doing q p .idle :=
    fun hc hd hk => .sparing (fun x ⟨caller, roomCode, hq⟩ => hc caller roomCode x hq) hd hk
  unfold Job.program Job.start
  cases hq : q.request with
  | createRoom caller roomCode x => exact .creating hq
  | joinRoom caller code payload fresh now =>
    refine hspares ?_ ?_ ((Spares.suits.joinRoom Spares.enterRoom fresh).map _) <;> simp [hq]
  | resumeRoom caller code payload now => refine hspares ?_ ?_ (Spares.suits.resumeRoom.map _) <;> simp [hq]
  | deletePeer caller code p => refine hspares ?_ ?_ Spares.suits.deletePeer <;> simp [hq]
  | deleteRoom caller code => exact .deleting hq

theorem Job.start_enters {q : Job} {x : RoomId} (h : q.start.Enters x) : q.Creates x := by
  unfold Job.start at h
  cases hq : q.request with
  | createRoom caller roomCode y =>
    rw [hq] at h
    obtain rfl : y = x := h
    exact ⟨caller, roomCode, hq⟩
  | _ =>
    rw [hq] at h
    exact h.elim

section

variable {base64 : String → Option (List UInt8)} {config : RouterConfig} {requests : List Job} {s : AppState}
  {h : List RoomMove} {Q : Pool Call AppState (Answer Unit)}

/-- The stages at which the requests start. -/
def starts (requests : List Job) (i : Nat) : Stage RoomId := ((requests[i]?).map Job.start).getD .idle

theorem Opening.upkeep (ho : Opening config requests s) : Upkeep requests [] s (starts requests) := by
  have hstage : ∀ i, (∃ q, requests[i]? = some q ∧ starts requests i = q.start) ∨ starts requests i = .idle := by
    intro i
    unfold starts
    cases hi : requests[i]? with
    | none => exact Or.inr rfl
    | some q => exact Or.inl ⟨q, rfl, rfl⟩
  have henters : ∀ i x, (starts requests i).Enters x → ∃ q, requests[i]? = some q ∧ q.Creates x := by
    intro i x hx
    rcases hstage i with ⟨q, hi, e⟩ | e
    · exact ⟨q, hi, Job.start_enters (e ▸ hx)⟩
    · rw [e] at hx
      exact hx.elim
  have hkind : ∀ i, (∃ x, starts requests i = .entering x) ∨ starts requests i = .looking ∨
      starts requests i = .idle := by
    intro i
    rcases hstage i with ⟨q, -, e⟩ | e
    · rw [e]
      unfold Job.start
      split
      · exact Or.inl ⟨_, rfl⟩
      · exact Or.inr (Or.inl rfl)
      · exact Or.inr (Or.inr rfl)
    · exact Or.inr (Or.inr e)
  have hunused : ∀ i x, (starts requests i).Enters x → x ∉ s.rooms := by
    intro i x hx
    rcases henters i x hx with ⟨q, hi, hq⟩
    exact ho.unused q (List.mem_of_getElem? hi) x hq
  refine ⟨ho.router.wf, ho.database, ⟨ho.agree.ge, ?_, ?_, fun i x hx => hunused i x hx.enters, ?_⟩, ?_, ?_, ?_⟩
  · intro x hA hB
    exact absurd (ho.agree ▸ hA) hB
  · intro i x hx
    rw [← ho.agree]
    exact hunused i x hx
  · intro i j x hi hj
    rcases henters i x hi with ⟨q, hi, hq⟩
    rcases henters j x hj with ⟨q', hj, hq'⟩
    exact ho.distinct i j q q' x hi hj hq hq'
  · intro i x hx
    rcases hkind i with ⟨y, e⟩ | e | e <;> rw [e] at hx <;> exact hx.elim
  · rintro i - ⟨m, hm, -⟩
    cases hm
  · intro i x hx
    rcases hkind i with ⟨y, e⟩ | e | e <;> rw [e] at hx <;> cases hx

/-- The stage of a request that is answered. -/
theorem Doing.finished {q : Job} {p : Handler Unit} {t : Stage RoomId} (hd : Doing q p t) (hp : p.Finished) :
    t.AtRest := by
  cases hd with
  | sparing | created | failed | deleted | refused => trivial
  | creating | publishing | recording | withdrawing | deleting | locating | striking | dropping => exact hp.elim

theorem Doing.create_failed {q : Job} {p : Handler Unit} {t : Stage RoomId} {x : RoomId} {e : Fault ApiError}
    (hd : Doing q p t) (hq : q.Creates x) (hp : p = .done (.error e)) : t = .failed x := by
  have hfinished : p.Finished := by
    rw [hp]
    trivial
  cases hd with
  | sparing hc => exact absurd hq (hc x)
  | created => cases hp
  | @failed y _ hq' =>
    rcases hq with ⟨caller, roomCode, hq⟩
    rcases hq' with ⟨caller', roomCode', hq'⟩
    rw [hq] at hq'
    cases hq'
    rfl
  | deleted hc | refused hc => exact absurd hq (hc x)
  | creating | publishing | recording | withdrawing | deleting | locating | striking | dropping => exact hfinished.elim

theorem Doing.delete_refused {q : Job} {p : Handler Unit} {t : Stage RoomId} {caller : Caller} {code : String}
    {answer : Answer Unit} (hd : Doing q p t) (hq : q.request = .deleteRoom caller code) (hp : p = .done answer)
    (hconflict : IsConflict answer) : t = .refused := by
  have hfinished : p.Finished := by
    rw [hp]
    trivial
  have hno : ∀ x, ¬ q.Creates x := by
    rintro x ⟨caller', roomCode', hq'⟩
    rw [hq] at hq'
    cases hq'
  cases hd with
  | sparing _ hdel => exact absurd hq (hdel caller code)
  | created hc | failed hc => exact absurd hc (hno _)
  | deleted _ hnot =>
    cases hp
    exact absurd hconflict hnot
  | refused => rfl
  | creating | publishing | recording | withdrawing | deleting | locating | striking | dropping => exact hfinished.elim

/-- As long as no request loses a race, router and database agree on the rooms. -/
theorem rooms_agree_unless_raced (ho : Opening config requests s)
    (hr : Run (· = underway base64 requests s) (Pool.Takes sweeps) h Q)
    (hclean : Pool.Throughout (fun h m => ¬ Races requests h m) h) : Concord requests h Q := by
  have houtline : ∃ st, (∀ i p, Q.programs[i]? = some p → ∃ q, requests[i]? = some q ∧ Doing q p (st i)) ∧
      (∀ i, Q.programs[i]? = none → (underway base64 requests s).programs[i]? = none ∧ st i = starts requests i) ∧
      Upkeep requests h Q.shared st := by
    refine Pool.outline (fun i p t => ∃ q, requests[i]? = some q ∧ Doing q p t) (Upkeep requests) ?_
      ho.upkeep ?_ ?_ hr hclean
    · intro i p hp
      rcases Option.map_eq_some_iff.1 ((List.getElem?_map ..).symm.trans hp) with ⟨q, hi, rfl⟩
      refine ⟨q, hi, ?_⟩
      unfold starts
      rw [hi]
      exact q.doing_start base64
    · rintro h Q st i p hp hlabel ⟨q, hi, hd⟩ hu hok
      rcases proceeds hu hi hp hlabel hd hok with ⟨t, ht, hu'⟩
      exact ⟨t, ⟨q, hi, ht⟩, hu'⟩
    · intro h Q st e hu _
      exact hu.spare nofun (.sweep Q.shared e.1 e.2)
  rcases houtline with ⟨st, hat, hout, hu⟩
  constructor
  · intro hfinished
    refine hu.mirror.settled fun i => ?_
    cases hp : Q.programs[i]? with
    | some p =>
      rcases hat i p hp with ⟨q, -, hd⟩
      exact hd.finished (hfinished p (List.mem_of_getElem? hp))
    | none =>
      rcases hout i hp with ⟨hnone, hst⟩
      have hi : requests[i]? = none := Option.map_eq_none_iff.1 ((List.getElem?_map ..).symm.trans hnone)
      rw [hst, starts, hi]
      trivial
  · intro i q x e hi hq hp
    rcases hat i _ hp with ⟨q', hi', hd⟩
    rw [hi] at hi'
    cases hi'
    have hst := hd.create_failed hq rfl
    exact ⟨hu.mirror.excluded i x (by rw [hst]; exact rfl), hu.mirror.unrecorded i x (by rw [hst]; exact rfl)⟩
  · intro i q caller code answer hi hq hp hconflict
    rcases hat i _ hp with ⟨q', hi', hd⟩
    rw [hi] at hi'
    cases hi'
    exact hu.spotless i (by rw [hd.delete_refused hq rfl hconflict]; trivial)

end

/-! ## A room that is created and joined -/

namespace Example

open RoomRouter.Example (code room peer)

/-- A request to create a room, and one to join it. -/
def founding (weather : Weather) : List Job :=
  [⟨.sorted, weather, .createRoom caller code room⟩,
    ⟨.sorted, {}, .joinRoom caller "RMAAAA" (joining peer zeros) peer 0⟩]

def foundation (weather : Weather) : Pool Call AppState (Answer Unit) :=
  underway base64 (founding weather) (.fresh bearerToken subnet)

theorem fresh_rooms (x : RoomId) : x ∉ (AppState.fresh bearerToken subnet).rooms :=
  fun hx => hx (ExtTreeMap.getElem?_empty ..)

theorem fresh_rows (x : RoomId) : x ∉ (AppState.fresh bearerToken subnet).rows := by
  rintro ⟨db, hdb, hx⟩
  cases hdb
  exact hx (ExtTreeMap.getElem?_empty ..)

theorem founding_opening (weather : Weather) : Opening {} (founding weather) (.fresh bearerToken subnet) where
  router := .init rfl
  database := rfl
  agree := Set.ext fun x => iff_of_false (fresh_rooms x) (fresh_rows x)
  unused := fun _ _ x _ => fresh_rooms x
  distinct := by
    have hfirst : ∀ (i : Nat) (q : Job) (x : RoomId), (founding weather)[i]? = some q → q.Creates x → i = 0 := by
      rintro (_ | _ | i) q x hi ⟨caller, roomCode, hq⟩
      · rfl
      · cases hi
        cases hq
      · simp [founding] at hi
    intro i j q q' x hi hj hq hq'
    rw [hfirst i q x hi hq, hfirst j q' x hj hq']

/-- The peer joins once the room is published, and its row is written in between; the latest turn first. -/
def founded : List (Pool.Turn (WalkOrder × Instant)) :=
  [1, 1, 1, 1, 0, 1, 0, 0].map .program

/-- The row cannot be written, and the peer has joined when the room is to be taken back. -/
def orphaned : List (Pool.Turn (WalkOrder × Instant)) :=
  [1, 1, 1, 1, 0, 0, 1, 1, 0, 0].map .program

theorem run_foundation {weather : Weather} {turns : List (Pool.Turn (WalkOrder × Instant))}
    (hready : Permitted (Pool.take sweeps) (fun P turn => P.Ready turn) (foundation weather) turns) :
    Run (· = foundation weather) (Pool.Takes sweeps) (replay (Pool.take sweeps) (foundation weather) turns)
      (final (Pool.take sweeps) (foundation weather) turns) :=
  @run_replay _ _ (fun P => P = foundation weather) (foundation weather) _ _ rfl _ hready

theorem founded_run : Run (· = foundation {}) (Pool.Takes sweeps) (replay (Pool.take sweeps) (foundation {}) founded)
    (final (Pool.take sweeps) (foundation {}) founded) := run_foundation (by decide +kernel)

theorem orphaned_run : Run (· = foundation { insertRoom := some .unavailable }) (Pool.Takes sweeps)
    (replay (Pool.take sweeps) (foundation { insertRoom := some .unavailable }) orphaned)
    (final (Pool.take sweeps) (foundation { insertRoom := some .unavailable }) orphaned) :=
  run_foundation (by decide +kernel)

/-- No race is lost: the one room is in the router when its row is written, and none is taken back. -/
theorem founded_clean : Pool.Throughout (fun h m => ¬ Races (founding {}) h m)
    (replay (Pool.take sweeps) (foundation {}) founded) := by
  have hquiet : ∀ {h : List RoomMove} {m : RoomMove} {i : Nat}, m.event = .program i →
      m.before.label i ≠ some .dbInsertRoom ∧ m.before.label i ≠ some .removeEmptyRoom → ¬ Races (founding {}) h m := by
    rintro h m i he ⟨hinsert, hremove⟩ (⟨he', hl, -⟩ | ⟨he', hl, -⟩ | ⟨he', hl, -⟩ | ⟨he', hl, -⟩) <;>
      rw [he] at he' <;> cases he'
    · exact hinsert hl
    all_goals exact hremove hl
  refine ⟨hquiet rfl ?_, hquiet rfl ?_, hquiet rfl ?_, hquiet rfl ?_, ?_, hquiet rfl ?_, hquiet rfl ?_,
    hquiet rfl ?_, trivial⟩
  iterate 4 decide +kernel
  · have hlabel : (final (Pool.take sweeps) (foundation {}) ([1, 0, 0].map .program)).label 0 = some .dbInsertRoom := by
      decide +kernel
    rintro (⟨he, hl, hi, hq, -, hroom⟩ | ⟨he, hl, -⟩ | ⟨he, hl, -⟩ | ⟨he, hl, -⟩) <;> cases he
    · cases hi
      cases hq
      exact hroom (show _ ≠ none by decide +kernel)
    all_goals cases hlabel.symm.trans hl
  all_goals decide +kernel

end Example

open Example in
/-- The room that the peer has joined is in the router and in the database. -/
theorem founded_concord : (final (Pool.take sweeps) (foundation {}) founded).shared.rooms =
    (final (Pool.take sweeps) (foundation {}) founded).shared.rows :=
  (rooms_agree_unless_raced (founding_opening {}) founded_run founded_clean).rooms (by decide +kernel)

open Example RoomRouter.Example in
/-- A room that could not be written stays in the router when somebody joins it in time. -/
theorem orphaned_discord : ¬ ∀ (base64 : String → Option (List UInt8)) (config : RouterConfig) (requests : List Job)
    (s : AppState) (h : List RoomMove) (Q : Pool Call AppState (Answer Unit)), Opening config requests s →
      Run (· = underway base64 requests s) (Pool.Takes sweeps) h Q → Concord requests h Q := by
  intro hall
  have hconcord := hall base64 {} _ _ _ _ (founding_opening _) orphaned_run
  have hsame := hconcord.rooms (by decide +kernel)
  have hin : room ∈ (final (Pool.take sweeps) (foundation { insertRoom := some .unavailable }) orphaned).shared.rooms :=
    show _ ≠ none by decide +kernel
  rw [hsame] at hin
  rcases hin with ⟨db, hdb, hrow⟩
  have hnone :
    ((final (Pool.take sweeps) (foundation { insertRoom := some .unavailable }) orphaned).shared.database.bind
      fun db => db.rooms[room]?) = none := by decide +kernel
  rw [hdb] at hnone
  exact hrow hnone

end Civ6LanBridge

/-
User accounts over any interleaving of requests: an account is made once, is never lost, and opens to whoever has its
password; who has registered can log in, and the token that this brings opens the guarded requests.
-/
import Civ6LanBridge.Server.Accounts

namespace Civ6LanBridge

open Std FinMap Bytes Prog Past

/-! ## What a request comes to -/

theorem validateUsername_ok_iff {lower : String → String} {value username : String} :
    validateUsername lower value = .ok username ↔ username = lower (trim value) ∧ 2 ≤ username.toList.length ∧
      username.toList.length ≤ 24 ∧ ∀ c ∈ username.toList, isControl c = false ∧ isWhitespace c = false := by
  unfold validateUsername
  dsimp only
  split
  · rename_i h
    constructor
    · intro h'
      cases h'
    · rintro ⟨rfl, hmin, hmax, hchars⟩
      rcases h with h | h
      · exact absurd ⟨hmin, hmax⟩ h
      · rcases List.any_eq_true.1 h with ⟨c, hc, hbad⟩
        simp [hchars c hc] at hbad
  · rename_i h
    rw [not_or, not_not] at h
    constructor
    · intro h'
      cases h'
      exact ⟨rfl, h.1.1, h.1.2, fun c hc => by simpa using mt (fun hbad => List.any_eq_true.2 ⟨c, hc, hbad⟩) h.2⟩
    · rintro ⟨rfl, -⟩
      rfl

section

variable (lower : String → String) (argon2 : Argon2) (draws : AccountDraws) (payload : AuthRequest)
  (steps : List (AccountCall × Portal × Portal))

/-- What a token is answered with. -/
def AuthRequest.response (username : String) : AuthResponse :=
  { username, accessToken := accessToken draws.first draws.second, expiresInSeconds := 30 * 24 * 60 * 60 }

/-- The request has issued its token. -/
def Started (username : String) : Prop :=
  ∃ p p' : Portal, (.createClientSession username (accessToken draws.first draws.second) draws.sessionNow, p, p') ∈
    steps

/-- The ways in which a request to register ends, with the steps that it has made. -/
inductive Registers : Except ApiError AuthResponse → Prop
  | username {e : ApiError} : validateUsername lower payload.username = .error e → Registers (.error e)
  | password {e : ApiError} : validatePassword payload.password = .error e → Registers (.error e)
  | limited : Registers (.error .rateLimited)
  | unhashed {e : ApiError} : hashPassword argon2 draws.salt payload.password = .error e → Registers (.error e)
  | taken {username passwordHash : String} {p p' : Portal} : validateUsername lower payload.username = .ok username →
      (.insertUser username passwordHash, p, p') ∈ steps → p.users[username]? ≠ none → Registers
        (.error (.conflict (.text "username is already registered")))
  | registered {username passwordHash : String} {p : Portal} : validateUsername lower payload.username = .ok username →
      validatePassword payload.password = .ok () → hashPassword argon2 draws.salt payload.password = .ok passwordHash →
        p.users[username]? = none →
          (.insertUser username passwordHash, p, { p with users := p.users.insert username { passwordHash } }) ∈ steps →
          Started draws steps username → Registers (.ok (AuthRequest.response draws username))

/-- The ways in which a request to log in ends. -/
inductive LogsIn : Except ApiError AuthResponse → Prop
  | username {e : ApiError} : validateUsername lower payload.username = .error e → LogsIn (.error e)
  | limited : LogsIn (.error .rateLimited)
  | unknown {username : String} {p p' : Portal} : validateUsername lower payload.username = .ok username →
      (.findUser username, p, p') ∈ steps → p.users[username]? = none → LogsIn (.error .unauthorized)
  | unreadable {username : String} {p p' : Portal} {account : UserAccount} :
      validateUsername lower payload.username = .ok username → (.findUser username, p, p') ∈ steps →
        p.users[username]? = some account → argon2.parses account.passwordHash = false →
          LogsIn (.error (.internal (.text "stored password hash is invalid")))
  | mismatch {username : String} {p p' : Portal} {account : UserAccount} :
      validateUsername lower payload.username = .ok username → (.findUser username, p, p') ∈ steps →
        p.users[username]? = some account → argon2.parses account.passwordHash = true →
          argon2.verifyPassword payload.password account.passwordHash = false → LogsIn (.error .unauthorized)
  | opened {username : String} {p p' : Portal} {account : UserAccount} :
      validateUsername lower payload.username = .ok username → (.findUser username, p, p') ∈ steps →
        p.users[username]? = some account →
        argon2.parses account.passwordHash = true → argon2.verifyPassword payload.password account.passwordHash = true →
          Started draws steps username → LogsIn (.ok (AuthRequest.response draws username))

end

section

variable {lower : String → String} {argon2 : Argon2} {draws : AccountDraws} {payload : AuthRequest}
  {steps : List (AccountCall × Portal × Portal)} {result : Except ApiError AuthResponse}

theorem startSession_done {username : String} (h : (startSession draws username).Performs steps (.done result)) :
    Started draws steps username ∧ result = .ok (AuthRequest.response draws username) := by
  rcases h.atomically with ⟨_, hq⟩ | ⟨p, steps', rfl, hrest⟩
  · cases hq
  · rcases hrest.done with ⟨rfl, hq⟩
    cases hq
    exact ⟨⟨p, _, List.mem_cons_self⟩, rfl⟩

theorem Started.mono {username : String} {step : AccountCall × Portal × Portal} (h : Started draws steps username) :
    Started draws (step :: steps) username := by
  rcases h with ⟨p, p', hp⟩
  exact ⟨p, p', List.mem_cons_of_mem _ hp⟩

theorem register_ends (h : (registerUser lower argon2 draws payload).Performs steps (.done result)) :
    Registers lower argon2 draws payload steps result := by
  unfold registerUser at h
  split at h
  · rename_i hu
    cases h.done.2
    exact .username hu
  rename_i username hu
  split at h
  · rename_i hp
    cases h.done.2
    exact .password hp
  rename_i hp
  rcases h.atomically with ⟨_, hq⟩ | ⟨p₁, steps₁, rfl, h₁⟩
  · cases hq
  generalize (p₁.limit ("register:" ++ username) draws.limiterNow).1 = allowed at h₁
  cases allowed with
  | false =>
    cases h₁.done.2
    exact .limited
  | true =>
    dsimp only at h₁
    split at h₁
    · rename_i hh
      cases h₁.done.2
      exact .unhashed hh
    rename_i passwordHash hh
    rcases h₁.atomically with ⟨_, hq⟩ | ⟨p₂, steps₂, rfl, h₂⟩
    · cases hq
    cases hc : p₂.users.contains username with
    | true =>
      have he : p₂.insertUser username passwordHash =
          (.error (.conflict (.text "username is already registered")), p₂) :=
        if_pos hc
      rw [he] at h₂ ⊢
      cases h₂.done.2
      refine .taken hu (List.mem_cons_of_mem _ List.mem_cons_self) fun hnone => ?_
      rw [contains_eq_false.2 hnone] at hc
      cases hc
    | false =>
      have he : p₂.insertUser username passwordHash =
          (.ok (), { p₂ with users := p₂.users.insert username { passwordHash } }) :=
        if_neg (by simp [hc])
      rw [he] at h₂ ⊢
      rcases startSession_done h₂ with ⟨hstarted, rfl⟩
      exact .registered hu hp hh (contains_eq_false.1 hc) (List.mem_cons_of_mem _ List.mem_cons_self) hstarted.mono.mono

theorem login_ends (h : (loginUser lower argon2 draws payload).Performs steps (.done result)) :
    LogsIn lower argon2 draws payload steps result := by
  unfold loginUser at h
  split at h
  · rename_i hu
    cases h.done.2
    exact .username hu
  rename_i username hu
  rcases h.atomically with ⟨_, hq⟩ | ⟨p₁, steps₁, rfl, h₁⟩
  · cases hq
  generalize (p₁.limit ("login:" ++ username) draws.limiterNow).1 = allowed at h₁
  cases allowed with
  | false =>
    cases h₁.done.2
    exact .limited
  | true =>
    rcases h₁.atomically with ⟨_, hq⟩ | ⟨p₂, steps₂, rfl, h₂⟩
    · cases hq
    have hstep : ∀ first : AccountCall × Portal × Portal,
        (.findUser username, p₂, p₂) ∈ first :: (.findUser username, p₂, p₂) :: steps₂ :=
      fun _ => List.mem_cons_of_mem _ List.mem_cons_self
    cases ha : p₂.users[username]? with
    | none =>
      have he : p₂.findUser username = .error .unauthorized := by
        unfold Portal.findUser
        rw [ha]
      simp only [he] at h₂
      cases h₂.done.2
      exact .unknown hu (hstep _) ha
    | some account =>
      have he : p₂.findUser username = .ok account.passwordHash := by
        unfold Portal.findUser
        rw [ha]
      simp only [he] at h₂
      split at h₂
      · rename_i hparse
        cases h₂.done.2
        exact .unreadable hu (hstep _) ha (by simpa using hparse)
      rename_i hparse
      split at h₂
      · rename_i hverify
        cases h₂.done.2
        exact .mismatch hu (hstep _) ha (by simpa using hparse) (by simpa using hverify)
      · rename_i hverify
        rcases startSession_done h₂ with ⟨hstarted, rfl⟩
        exact .opened hu (hstep _) ha (by simpa using hparse) (by simpa using hverify) hstarted.mono.mono

end

/-! ## Accounts over a run -/

namespace Portal

/-- The accounts of one are accounts of the other. -/
def Keeps (p p' : Portal) : Prop := ∀ (username : String) (account : UserAccount), p.users[username]? = some account →
  p'.users[username]? = some account

theorem Keeps.refl (p : Portal) : p.Keeps p := fun _ _ h => h

theorem Keeps.trans {p p' p'' : Portal} (h : p.Keeps p') (h' : p'.Keeps p'') : p.Keeps p'' :=
  fun _ _ ha => h' _ _ (h _ _ ha)

theorem insertUser_keeps (p : Portal) (username passwordHash : String) :
    p.Keeps (p.insertUser username passwordHash).2 := by
  intro name account ha
  unfold insertUser
  split
  · exact ha
  · rename_i hc
    have hne : username ≠ name := by
      rintro rfl
      rw [Bool.not_eq_true, contains_eq_false, ha] at hc
      cases hc
    exact (getElem?_insert_ne hne).trans ha

end Portal

/-- The request is to register the name, under this hash. -/
def AccountRequest.Enters (lower : String → String) (argon2 : Argon2) (username passwordHash : String) :
    AccountRequest → Prop
  | register draws payload => validateUsername lower payload.username = .ok username ∧
      validatePassword payload.password = .ok () ∧ hashPassword argon2 draws.salt payload.password = .ok passwordHash
  | login _ _ => False

/-- A label that inserts an account is one of a request to register it. -/
def AccountCall.Of (lower : String → String) (argon2 : Argon2) (q : AccountRequest) : AccountCall → Prop
  | insertUser username passwordHash => q.Enters lower argon2 username passwordHash
  | _ => True

theorem startSession_speaks {lower : String → String} {argon2 : Argon2} {q : AccountRequest} (draws : AccountDraws)
    (username : String) :
    (startSession draws username).Speaks (AccountCall.Of lower argon2 q) :=
  speaks_atomically trivial fun _ => speaks_done _

theorem AccountRequest.speaks (lower : String → String) (argon2 : Argon2) (q : AccountRequest) :
    (q.serve lower argon2).Speaks (AccountCall.Of lower argon2 q) := by
  cases q with
  | register draws payload =>
    show (registerUser lower argon2 draws payload).Speaks _
    unfold registerUser
    split
    · exact speaks_done _
    rename_i hu
    split
    · exact speaks_done _
    rename_i hp
    refine speaks_atomically trivial fun allowed => ?_
    cases allowed with
    | false => exact speaks_done _
    | true =>
      dsimp only
      split
      · exact speaks_done _
      rename_i hh
      refine speaks_atomically ⟨hu, hp, hh⟩ fun result => ?_
      rcases result with e | _
      · exact speaks_done _
      · exact startSession_speaks draws _
  | login draws payload =>
    show (loginUser lower argon2 draws payload).Speaks _
    unfold loginUser
    split
    · exact speaks_done _
    refine speaks_atomically trivial fun allowed => ?_
    cases allowed with
    | false => exact speaks_done _
    | true =>
      refine speaks_atomically trivial fun result => ?_
      rcases result with e | passwordHash
      · exact speaks_done _
      dsimp only
      split
      · exact speaks_done _
      split
      · exact speaks_done _
      · exact startSession_speaks draws _

/-- The request at the index has been answered. -/
def Answered (Q : Accounts) (i : Nat) (result : Except ApiError AuthResponse) : Prop :=
  Q.programs[i]? = some (.done result)

theorem answered_iff {Q : Accounts} {i : Nat} {result : Except ApiError AuthResponse} :
    Answered Q i result ↔ (Q.programs[i]?).bind result? = some result := by
  rw [Option.bind_eq_some_iff]
  simp [Answered, result?_eq_some]

instance (Q : Accounts) (i : Nat) (result : Except ApiError AuthResponse) : Decidable (Answered Q i result) :=
  decidable_of_iff _ answered_iff.symm

section

variable {lower : String → String} {argon2 : Argon2} {requests : List AccountRequest} {p : Portal} {Q Q' : Accounts}
  {h h' : List AccountMove} {turn : Pool.Turn Outside} {i j : Nat} {draws draws' : AccountDraws}
  {payload payload' : AuthRequest} {result : Except ApiError AuthResponse} {response : AuthResponse}

theorem deed_keeps {m : AccountMove} (hd : Pool.Deed AccountCall.perform Outside.perform m) :
    m.before.shared.Keeps m.after.shared := by
  cases hd with
  | @program i label he hl hs =>
    rw [hs]
    cases label with
    | insertUser username passwordHash => exact Portal.insertUser_keeps _ _ _
    | _ => exact .refl _
  | @environment o he hs =>
    rw [hs]
    intro name account ha
    cases o with
    | guarded caller => rwa [Outside.perform, Portal.requireBearer_eq.2.2]
    | testMetrics authorization now => rwa [Outside.perform, Portal.testMetrics_frame.2.2]
    | elsewhere q => exact ha

theorem run_kept (hr : Run (· = p.serving lower argon2 requests) (Pool.Takes Outside.perform) h Q) :
    p.Keeps Q.shared ∧ (∀ m ∈ h, p.Keeps m.before.shared ∧ m.after.shared.Keeps Q.shared) ∧
      h.Pairwise fun later earlier => earlier.after.shared.Keeps later.before.shared :=
  Pool.run_keeps Portal.Keeps.refl (fun _ _ _ => Portal.Keeps.trans)
    (fun _ _ _ _ hr ht => deed_keeps (run_deed hr ht)) hr

/-- The request at the index, and what is left of it. -/
theorem run_request {q : AccountRequest}
    (hr : Run (· = p.serving lower argon2 requests) (Pool.Takes Outside.perform) h Q)
    (hq : requests[i]? = some q) (hdone : Answered Q i result) :
    (q.serve lower argon2).Performs (Pool.own i h) (.done result) := by
  have hp : (p.serving lower argon2 requests).programs[i]? = some (q.serve lower argon2) := by
    simp [Portal.serving, hq]
  rcases Pool.run_performs hr hp with ⟨q', hq', hperf⟩
  cases hq'.symm.trans hdone
  exact hperf

/-- Where an account comes from. -/
theorem run_origin (hr : Run (· = p.serving lower argon2 requests) (Pool.Takes Outside.perform) h Q) {username : String}
    {account : UserAccount} (ha : Q.shared.users[username]? = some account) : p.users[username]? = some account ∨
      ∃ q ∈ requests, q.Enters lower argon2 username account.passwordHash := by
  induction hr with
  | init hs =>
    subst hs
    exact Or.inl ha
  | @step old Q Q' turn hr ht ih =>
    cases run_deed hr ht with
    | @environment o he hs =>
      cases he
      rw [show Q'.shared = Outside.perform o Q.shared from hs] at ha
      refine ih ?_
      cases o with
      | guarded caller => rwa [Outside.perform, Portal.requireBearer_eq.2.2] at ha
      | testMetrics authorization now => rwa [Outside.perform, Portal.testMetrics_frame.2.2] at ha
      | elsewhere q => exact ha
    | @program i label he hl hs =>
      rw [show Q'.shared = AccountCall.perform label Q.shared from hs] at ha
      cases label with
      | insertUser name passwordHash =>
        rw [AccountCall.perform, Portal.insertUser] at ha
        split at ha
        · exact ih ha
        by_cases e : name = username
        · subst e
          rw [ExtTreeMap.getElem?_insert_self] at ha
          cases ha
          -- the label is that of a request to register
          have hlabel : Q.label i = some (.insertUser name passwordHash) := hl
          cases hq : requests[i]? with
          | none =>
            have hnone := Pool.run_programs (i := i) hr (by simp [Portal.serving, hq])
            rw [show Q.label i = none by rw [Pool.label, hnone]; rfl] at hlabel
            cases hlabel
          | some q =>
            have hp : (p.serving lower argon2 requests).programs[i]? = some (q.serve lower argon2) := by
              simp [Portal.serving, hq]
            have hof : AccountCall.Of lower argon2 q (.insertUser name passwordHash) :=
              Pool.run_speaks hr hp (q.speaks lower argon2) hlabel
            exact Or.inr ⟨q, List.mem_of_getElem? hq, hof⟩
        · rw [getElem?_insert_ne e] at ha
          exact ih ha
      | _ => exact ih ha

/-- What becomes of the accounts of a server: none is lost or changed, each new one has a valid name and is that of a
request to register, with the name and the hash that come of it; no name is registered twice; who is told that a name is
taken, or that it is theirs, can rely on it; and a request logs in only to an account that its password opens. -/
structure Accountable (lower : String → String) (argon2 : Argon2) (requests : List AccountRequest) (p : Portal)
    (Q : Accounts) :
    Prop where
  kept : p.Keeps Q.shared
  origin : ∀ (username : String) (account : UserAccount), Q.shared.users[username]? = some account →
    p.users[username]? = some account ∨ (2 ≤ username.toList.length ∧ username.toList.length ≤ 24 ∧
      ∀ c ∈ username.toList, isControl c = false ∧ isWhitespace c = false) ∧
        ∃ draws payload, AccountRequest.register draws payload ∈ requests ∧
          validateUsername lower payload.username = .ok username ∧ validatePassword payload.password = .ok () ∧
          hashPassword argon2 draws.salt payload.password = .ok account.passwordHash
  registered : ∀ (i : Nat) (draws : AccountDraws) (payload : AuthRequest) (response : AuthResponse),
    requests[i]? = some (.register draws payload) → Answered Q i (.ok response) → ∃ username passwordHash,
      response = AuthRequest.response draws username ∧
      validateUsername lower payload.username = .ok username ∧ p.users[username]? = none ∧
        hashPassword argon2 draws.salt payload.password = .ok passwordHash ∧
          Q.shared.users[username]? = some { passwordHash }
  once : ∀ (i j : Nat) (draws draws' : AccountDraws) (payload payload' : AuthRequest)
    (response response' : AuthResponse),
    requests[i]? = some (.register draws payload) → requests[j]? = some (.register draws' payload') →
      Answered Q i (.ok response) → Answered Q j (.ok response') → response.username = response'.username → i = j
  taken : ∀ (i : Nat) (draws : AccountDraws) (payload : AuthRequest) (message : Message),
    requests[i]? = some (.register draws payload) → Answered Q i (.error (.conflict message)) → ∃ username account,
      validateUsername lower payload.username = .ok username ∧ Q.shared.users[username]? = some account
  loggedIn : ∀ (i : Nat) (draws : AccountDraws) (payload : AuthRequest) (response : AuthResponse),
    requests[i]? = some (.login draws payload) → Answered Q i (.ok response) → ∃ username account,
      response = AuthRequest.response draws username ∧
      validateUsername lower payload.username = .ok username ∧ Q.shared.users[username]? = some account ∧
        argon2.verifyPassword payload.password account.passwordHash = true

/-- A request that has registered a name has inserted it. -/
theorem registered_move (hr : Run (· = p.serving lower argon2 requests) (Pool.Takes Outside.perform) h Q)
    (hq : requests[i]? = some (.register draws payload)) (hdone : Answered Q i (.ok response)) :
    ∃ username passwordHash, response = AuthRequest.response draws username ∧
      validateUsername lower payload.username = .ok username ∧
        hashPassword argon2 draws.salt payload.password = .ok passwordHash ∧
        ∃ m ∈ h, m.event = .program i ∧ m.before.shared.users[username]? = none ∧
          m.after.shared.users[username]? = some { passwordHash } := by
  cases register_ends (run_request hr hq hdone) with
  | @registered username passwordHash s hu hp hh hnone hmem hstarted =>
    rcases Pool.mem_own.1 hmem with ⟨m, hm, he, -, hbefore, hafter⟩
    refine ⟨username, passwordHash, rfl, hu, hh, m, hm, he, by rwa [hbefore], ?_⟩
    rw [hafter]
    exact ExtTreeMap.getElem?_insert_self

/-- A request that has registered a name has found it free, and the account is still there. -/
theorem registered_account (hr : Run (· = p.serving lower argon2 requests) (Pool.Takes Outside.perform) h Q)
    (hq : requests[i]? = some (.register draws payload)) (hdone : Answered Q i (.ok response)) :
    ∃ username passwordHash, response = AuthRequest.response draws username ∧
      validateUsername lower payload.username = .ok username ∧ p.users[username]? = none ∧
        hashPassword argon2 draws.salt payload.password = .ok passwordHash ∧
          Q.shared.users[username]? = some { passwordHash } := by
  rcases run_kept hr with ⟨-, hmoves, -⟩
  rcases registered_move hr hq hdone with ⟨username, passwordHash, hres, hu, hh, m, hm, -, hnone, hsome⟩
  refine ⟨username, passwordHash, hres, hu, ?_, hh, (hmoves m hm).2 _ _ hsome⟩
  cases ha : p.users[username]? with
  | none => rfl
  | some account => cases ((hmoves m hm).1 _ _ ha).symm.trans hnone

/-- In whatever order requests are served, the server accounts for its users. -/
theorem accounts_accountable (hr : Run (· = p.serving lower argon2 requests) (Pool.Takes Outside.perform) h Q) :
    Accountable lower argon2 requests p Q := by
  rcases run_kept hr with ⟨hkept, hmoves, hpair⟩
  refine ⟨hkept, fun username account ha => ?_, fun _ _ _ _ => registered_account hr, ?_, ?_, ?_⟩
  · refine (run_origin hr ha).imp_right ?_
    rintro ⟨q, hq, henters⟩
    cases q with
    | login draws payload => exact henters.elim
    | register draws payload =>
      exact ⟨(validateUsername_ok_iff.1 henters.1).2, draws, payload, hq, henters⟩
  · intro i j draws draws' payload payload' response response' hi hj hdi hdj hname
    rcases registered_move hr hi hdi with ⟨username, _, rfl, _, _, m, hm, he, hnone, hsome⟩
    rcases registered_move hr hj hdj with ⟨username', _, rfl, _, _, m', hm', he', hnone', hsome'⟩
    obtain rfl : username = username' := hname
    -- the name is free before each of the two moves and taken after it
    rcases Pool.pairwise_or hpair hm hm' with rfl | hlate | hlate
    · cases he.symm.trans he'
      rfl
    · cases (hlate _ _ hsome').symm.trans hnone
    · cases (hlate _ _ hsome).symm.trans hnone'
  · intro i draws payload message hq hdone
    generalize hresult : Except.error (ApiError.conflict message) = result at hdone
    cases register_ends (run_request hr hq hdone) with
    | username hu =>
      cases hresult
      unfold validateUsername at hu
      dsimp only at hu
      split at hu <;> cases hu
    | password hp =>
      cases hresult
      unfold validatePassword at hp
      split at hp <;> cases hp
    | unhashed hh =>
      cases hresult
      unfold hashPassword at hh
      split at hh
      · cases hh
      · split at hh <;> cases hh
    | @taken username _ s s' hu hmem hsome =>
      rcases Option.ne_none_iff_exists'.1 hsome with ⟨account, ha⟩
      rcases Pool.mem_own.1 hmem with ⟨m, hm, -, -, rfl, -⟩
      refine ⟨username, account, hu, (hmoves m hm).2 _ _ ?_⟩
      rcases hr.mem hm with ⟨⟨old, hold⟩, hstep⟩
      exact deed_keeps (run_deed hold hstep) _ _ ha
    | limited => cases hresult
    | registered _ _ _ _ _ _ => cases hresult
  · intro i draws payload response hq hdone
    cases login_ends (run_request hr hq hdone) with
    | @opened username s s' account hu hmem ha _ hverify _ =>
      rcases Pool.mem_own.1 hmem with ⟨m, hm, -, -, rfl, -⟩
      refine ⟨username, account, rfl, hu, (hmoves m hm).2 _ _ ?_, hverify⟩
      rcases hr.mem hm with ⟨⟨old, hold⟩, hstep⟩
      exact deed_keeps (run_deed hold hstep) _ _ ha

/-! ## Logging in after registering -/

/-- A token that has been issued with only one expiry, and for which no request was late, is upheld from its last issue
on. -/
theorem since_issued {token : String} {expiry : Instant}
    (honly : ∀ m ∈ h, ∀ expiry', Issues token expiry' m → expiry' = expiry)
    (hlook : ∀ m ∈ h, ∀ reading, LooksUp reading m → reading < expiry) (hissued : ∃ m ∈ h, Issues token expiry m) :
    Since (Issues token expiry) (Upholds token expiry) h := by
  induction h with
  | nil =>
    rcases hissued with ⟨m, hm, _⟩
    cases hm
  | cons m h ih =>
    by_cases hi : Issues token expiry m
    · exact Or.inl hi
    · have hkeeps : Upholds token expiry m :=
        ⟨fun expiry' hi' => hi (honly m List.mem_cons_self expiry' hi' ▸ hi'), hlook m List.mem_cons_self⟩
      refine Or.inr ⟨hkeeps, ?_⟩
      refine ih (fun x hx => honly x (List.mem_cons_of_mem _ hx)) (fun x hx => hlook x (List.mem_cons_of_mem _ hx)) ?_
      rcases hissued with ⟨x, hx, hix⟩
      rcases List.mem_cons.1 hx with rfl | hx
      · exact absurd hix hi
      · exact ⟨x, hx, hix⟩

theorem started_issues {username : String} (hstarted : Started draws (Pool.own i h) username) :
    ∃ m ∈ h, Issues (accessToken draws.first draws.second) (draws.sessionNow + clientSessionTtl) m := by
  rcases hstarted with ⟨_, _, hmem⟩
  rcases Pool.mem_own.1 hmem with ⟨m, hm, he, hl, -⟩
  exact ⟨m, hm, _, _, ⟨i, he, hl⟩, rfl⟩

/-- Who has registered can log in: a request to log in that comes afterwards, whatever else is going on, is turned away
by the rate limiter, or it is answered as its password deserves. With the password registered it is let in, and its
token opens the guarded requests until it runs out. -/
theorem registered_login
    (hlaw : ∀ password salt passwordHash, argon2.hashPassword password salt = some passwordHash →
      argon2.parses passwordHash = true ∧ argon2.verifyPassword password passwordHash = true)
    (hr : Run (· = p.serving lower argon2 requests) (Pool.Takes Outside.perform) h Q)
    (hi : requests[i]? = some (.register draws payload)) (hdi : Answered Q i (.ok response))
    (hbegun : Q.programs[j]? = some ((AccountRequest.login draws' payload').serve lower argon2))
    (hname : validateUsername lower payload'.username = .ok response.username)
    (hr' : Run (· = Q) (Pool.Takes Outside.perform) h' Q') (hdj : Answered Q' j result) :
    (result = .error .rateLimited ∨ ∃ passwordHash, hashPassword argon2 draws.salt payload.password = .ok passwordHash ∧
        result = if argon2.verifyPassword payload'.password passwordHash then
          .ok (AuthRequest.response draws' response.username)
          else .error .unauthorized) ∧
      (payload'.password = payload.password → result ≠ .error .rateLimited →
        ∀ token expiry, token = accessToken draws'.first draws'.second → expiry = draws'.sessionNow + clientSessionTtl →
          token ≠ p.app.bearerToken → p.app.clientSessions[token]? = none →
            (∀ m ∈ h' ++ h, ∀ expiry', Issues token expiry' m → expiry' = expiry) →
              (∀ m ∈ h' ++ h, ∀ reading, LooksUp reading m → reading < expiry) →
                ∀ caller : Caller, caller.authorization = some ("Bearer " ++ token) → caller.sessionNow < expiry →
                  (Q'.shared.requireBearer caller).1 ≠ .error .unauthorized) := by
  rcases registered_account hr hi hdi with ⟨username, passwordHash, rfl, -, -, hh, hrow⟩
  have hname' : validateUsername lower payload'.username = .ok username := hname
  have hlawful : argon2.parses passwordHash = true ∧ argon2.verifyPassword payload.password passwordHash = true := by
    unfold hashPassword at hh
    split at hh
    · cases hh
    · split at hh
      · cases hh
      · rename_i hsome
        cases hh
        exact hlaw _ _ _ hsome
  have hall := hr.append hr'
  -- the account is there at every move of the login
  have hfound : ∀ m ∈ h', m.before.shared.users[username]? = some { passwordHash } := by
    have hmoves := (Pool.run_keeps Portal.Keeps.refl (fun _ _ _ => Portal.Keeps.trans)
      (fun _ _ _ _ hr₀ ht => deed_keeps (run_deed (hr.append hr₀) ht)) hr').2.1
    exact fun m hm => (hmoves m hm).1 _ _ hrow
  have hends : LogsIn lower argon2 draws' payload' (Pool.own j h') result := by
    rcases Pool.run_performs hr' hbegun with ⟨q, hq, hperf⟩
    cases hq.symm.trans hdj
    exact login_ends hperf
  have hcases : result = .error .rateLimited ∨
      (result = .error .unauthorized ∧ argon2.verifyPassword payload'.password passwordHash = false) ∨
        result = .ok (AuthRequest.response draws' username) ∧
          argon2.verifyPassword payload'.password passwordHash = true ∧ Started draws' (Pool.own j h') username := by
    cases hends with
    | username hu => cases hname'.symm.trans hu
    | limited => exact Or.inl rfl
    | unknown hu hmem hnone =>
      cases hname'.symm.trans hu
      rcases Pool.mem_own.1 hmem with ⟨m, hm, -, -, rfl, -⟩
      cases hnone.symm.trans (hfound m hm)
    | unreadable hu hmem ha hparse =>
      cases hname'.symm.trans hu
      rcases Pool.mem_own.1 hmem with ⟨m, hm, -, -, rfl, -⟩
      cases ha.symm.trans (hfound m hm)
      cases hparse.symm.trans hlawful.1
    | mismatch hu hmem ha _ hverify =>
      cases hname'.symm.trans hu
      rcases Pool.mem_own.1 hmem with ⟨m, hm, -, -, rfl, -⟩
      cases ha.symm.trans (hfound m hm)
      exact Or.inr (Or.inl ⟨rfl, hverify⟩)
    | opened hu hmem ha _ hverify hstarted =>
      cases hname'.symm.trans hu
      rcases Pool.mem_own.1 hmem with ⟨m, hm, -, -, rfl, -⟩
      cases ha.symm.trans (hfound m hm)
      exact Or.inr (Or.inr ⟨rfl, hverify, hstarted⟩)
  constructor
  · refine hcases.imp_right fun hcase => ⟨passwordHash, hh, ?_⟩
    rcases hcase with ⟨rfl, hverify⟩ | ⟨rfl, hverify, -⟩
    · rw [hverify]
      rfl
    · rw [hverify]
      rfl
  · rintro hpass hlimit token expiry rfl rfl hadmin hnone honly hlook caller hcaller hlt
    rcases hcases with hlimited | ⟨-, hverify⟩ | ⟨-, -, hstarted⟩
    · exact absurd hlimited hlimit
    · rw [hpass, hlawful.2] at hverify
      cases hverify
    · rcases started_issues hstarted with ⟨m, hm, hissues⟩
      have hsince := since_issued honly hlook ⟨m, List.mem_append_left _ hm, hissues⟩
      exact (bearer_known_iff hcaller hadmin hnone hall).2 ⟨_, hlt, hsince⟩

end

/-! ## Alice -/

namespace Example

theorem argon2_lawful : ∀ password salt passwordHash, argon2.hashPassword password salt = some passwordHash →
    argon2.parses passwordHash = true ∧ argon2.verifyPassword password passwordHash = true := by
  intro password salt passwordHash h
  cases h
  refine ⟨rfl, ?_⟩
  show (stripPrefix (password ++ "$") (password ++ "$" ++ salt)).isSome = true
  unfold stripPrefix
  rw [if_pos (by simp)]
  rfl

theorem login_run : Run (· = registered) (Pool.Takes Outside.perform)
    (replay (Pool.take Outside.perform) registered (turns 1))
    (final (Pool.take Outside.perform) registered (turns 1)) :=
  @run_replay _ _ (fun P => P = registered) registered (Pool.take Outside.perform) Pool.Ready rfl _ (by decide +kernel)

end Example

open Example in
/-- Her account is there, and she has not been given another. -/
theorem alice_accountable : Accountable String.toLower argon2 visits portal registered :=
  accounts_accountable registering_run

open Example in
/-- She is let in. -/
theorem alice_login : (.ok (AuthRequest.response (drawn 2) "alice") : Except ApiError AuthResponse) =
    .error .rateLimited ∨ ∃ passwordHash, hashPassword argon2 (drawn 1).salt alice.password = .ok passwordHash ∧
      (.ok (AuthRequest.response (drawn 2) "alice") : Except ApiError AuthResponse) =
        if argon2.verifyPassword alice.password passwordHash then .ok (AuthRequest.response (drawn 2) "alice")
          else .error .unauthorized := by
  have hdone : Answered registered 0 (.ok (AuthRequest.response (drawn 1) "alice")) := by decide +kernel
  have hdone' : Answered (final (Pool.take Outside.perform) registered (turns 1)) 1
      (.ok (AuthRequest.response (drawn 2) "alice")) := by decide +kernel
  have hname : validateUsername String.toLower alice.username = .ok "alice" := by decide +kernel
  exact (registered_login argon2_lawful registering_run
    (show visits[0]? = some (.register (drawn 1) alice) from rfl) hdone rfl
    hname login_run hdone').1

end Civ6LanBridge

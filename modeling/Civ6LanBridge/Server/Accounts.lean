/-
`server/src/api.rs`: registering, logging in and the checks of tokens. A token opens the guarded requests for as long as
its last issue allows, whatever else the server does in the meantime: the exact condition, over any interleaving.
-/
import Civ6LanBridge.Lib.Projection
import Civ6LanBridge.Server.Counters
import Civ6LanBridge.Server.Sessions

namespace Civ6LanBridge

open Std FinMap Bytes Prog Past

/-! ## User names and passwords -/

/-- `char::is_whitespace`: the property `White_Space`. -/
def isWhitespace (c : Char) : Bool :=
  let n := c.toNat
  (9 ≤ n && n ≤ 13) || n == 0x20 || n == 0x85 || n == 0xA0 || n == 0x1680 ||
    (0x2000 ≤ n && n ≤ 0x200A) || n == 0x2028 ||
    n == 0x2029 || n == 0x202F || n == 0x205F || n == 0x3000

/-- `char::is_control`: the category `Cc`. -/
def isControl (c : Char) : Bool := c.toNat ≤ 0x1F || (0x7F ≤ c.toNat && c.toNat ≤ 0x9F)

/-- `str::trim`. -/
def trim (s : String) : String := String.ofList ((s.toList.dropWhile isWhitespace).rdropWhile isWhitespace)

/-- `lower` is `str::to_lowercase`. -/
def validateUsername (lower : String → String) (value : String) : Except ApiError String :=
  let username := lower (trim value)
  let length := username.toList.length
  if ¬ (2 ≤ length ∧ length ≤ 24) ∨ username.toList.any (fun c => isControl c || isWhitespace c) then
    .error (.badRequest (.text "username must contain 2 to 24 non-whitespace characters"))
  else .ok username

def validatePassword (value : String) : Except ApiError Unit :=
  if ¬ (6 ≤ value.toList.length ∧ value.toList.length ≤ 128) then
    .error (.badRequest (.text "password must contain 6 to 128 characters"))
  else .ok ()

/-- The calls to `argon2`: `hash_password` of a password and a salt, whether `PasswordHash::new` takes a string, and
`verify_password` of a password and a hash. -/
structure Argon2 where
  hashPassword : String → String → Option String
  parses : String → Bool
  verifyPassword : String → String → Bool

/-- `salt` is the salt that the request has drawn, encoded. -/
def hashPassword (argon2 : Argon2) (salt : Option String) (password : String) : Except ApiError String :=
  match salt with
  | none => .error (.internal (.text "failed to generate password salt"))
  | some salt =>
    match argon2.hashPassword password salt with
    | none => .error (.internal (.text "failed to hash password"))
    | some passwordHash => .ok passwordHash

/-! ## The state -/

structure UserAccount where
  passwordHash : String
deriving DecidableEq

/-- `AppState` with the counters and the user accounts. -/
structure Portal extends Metered where
  users : ExtTreeMap String UserAccount

def clientSessionTtl : Duration := Duration.fromSecs (30 * 24 * 60 * 60)

structure AuthRequest where
  username : String
  password : String

structure AuthResponse where
  username : String
  accessToken : String
  expiresInSeconds : Nat
deriving DecidableEq

/-- The `simple` format of a UUID. -/
def Uuid.simple (u : Uuid) : String :=
  String.ofList (u.bytes.flatMap fun b => [Nat.digitChar (b.toNat / 16), Nat.digitChar (b.toNat % 16)])

def accessToken (first second : Uuid) : String := first.simple ++ second.simple

namespace Portal

variable (p : Portal)

def limit (key : String) (now : Instant) : Bool × Portal :=
  match p.app.apiRateLimiter.allow key now with
  | (allowed, apiRateLimiter) => (allowed, { p with app := { p.app with apiRateLimiter } })

def insertUser (username passwordHash : String) : Except ApiError Unit × Portal :=
  if p.users.contains username then (.error (.conflict (.text "username is already registered")), p)
  else (.ok (), { p with users := p.users.insert username { passwordHash } })

def findUser (username : String) : Except ApiError String :=
  match p.users[username]? with
  | none => .error .unauthorized
  | some account => .ok account.passwordHash

def createClientSession (username accessToken : String) (now : Instant) : AuthResponse × Portal :=
  ({ username, accessToken, expiresInSeconds := 30 * 24 * 60 * 60 },
    { p with app := { p.app with
        clientSessions := p.app.clientSessions.insert accessToken { expiresAt := now + clientSessionTtl } } })

/-- `require_bearer`, which counts the requests that it does not know. -/
def requireBearer (caller : Caller) : Except ApiError Unit × Portal :=
  match p.app.requireBearer caller with
  | (.error .unauthorized, app) =>
    (.error .unauthorized, { p with app, metrics := p.metrics.recordAuthenticationFailure })
  | (result, app) => (result, { p with app })

def requireAdminBearer (authorization : Option String) (now : Instant) : Except ApiError Unit × Portal :=
  if authorization = some ("Bearer " ++ p.app.bearerToken) then
    match p.limit (authorization.getD "") now with
    | (true, p) => (.ok (), p)
    | (false, p) => (.error .rateLimited, p)
  else (.error .unauthorized, { p with metrics := p.metrics.recordAuthenticationFailure })

def testMetrics (authorization : Option String) (now : Instant) : Except ApiError RelayMetricsSnapshot × Portal :=
  match p.requireAdminBearer authorization now with
  | (.error e, p) => (.error e, p)
  | (.ok (), p) => (.ok (p.metrics.snapshot p.app.router.stats), p)

end Portal

/-! ## The handlers -/

/-- What a handler of accounts does in one step. -/
inductive AccountCall
  | limit (key : String) (now : Instant)
  | insertUser (username passwordHash : String)
  | findUser (username : String)
  | createClientSession (username accessToken : String) (now : Instant)
deriving DecidableEq

abbrev AccountHandler := Prog AccountCall Portal (Except ApiError AuthResponse)

/-- The clock readings of a request, the salt and the identifiers that its token is made of. -/
structure AccountDraws where
  limiterNow : Instant
  sessionNow : Instant
  salt : Option String
  first : Uuid
  second : Uuid

/-- The last step of both handlers. -/
def startSession (draws : AccountDraws) (username : String) : AccountHandler :=
  atomically (.createClientSession username (accessToken draws.first draws.second) draws.sessionNow)
    (fun p => p.createClientSession username (accessToken draws.first draws.second) draws.sessionNow) fun response =>
      .done (.ok response)

section

variable (lower : String → String) (argon2 : Argon2) (draws : AccountDraws) (payload : AuthRequest)

def registerUser : AccountHandler :=
  match validateUsername lower payload.username with
  | .error e => .done (.error e)
  | .ok username =>
    match validatePassword payload.password with
    | .error e => .done (.error e)
    | .ok () => atomically (.limit ("register:" ++ username) draws.limiterNow)
        (fun p => p.limit ("register:" ++ username) draws.limiterNow) fun
      | false => .done (.error .rateLimited)
      | true =>
        match hashPassword argon2 draws.salt payload.password with
        | .error e => .done (.error e)
        | .ok passwordHash =>
          atomically (.insertUser username passwordHash) (fun p => p.insertUser username passwordHash) fun
            | .error e => .done (.error e)
            | .ok () => startSession draws username

def loginUser : AccountHandler :=
  match validateUsername lower payload.username with
  | .error e => .done (.error e)
  | .ok username => atomically (.limit ("login:" ++ username) draws.limiterNow)
      (fun p => p.limit ("login:" ++ username) draws.limiterNow) fun
    | false => .done (.error .rateLimited)
    | true => atomically (.findUser username) (fun p => (p.findUser username, p)) fun
      | .error e => .done (.error e)
      | .ok passwordHash =>
        if ¬ argon2.parses passwordHash then .done (.error (.internal (.text "stored password hash is invalid")))
        else if ¬ argon2.verifyPassword payload.password passwordHash then .done (.error .unauthorized)
        else startSession draws username

end

/-- A request for an account. -/
inductive AccountRequest
  | register (draws : AccountDraws) (payload : AuthRequest)
  | login (draws : AccountDraws) (payload : AuthRequest)

def AccountRequest.serve (lower : String → String) (argon2 : Argon2) : AccountRequest → AccountHandler
  | register draws payload => registerUser lower argon2 draws payload
  | login draws payload => loginUser lower argon2 draws payload

/-- What the step of a label does. -/
def AccountCall.perform : AccountCall → Portal → Portal
  | limit key now, p => (p.limit key now).2
  | insertUser username passwordHash, p => (p.insertUser username passwordHash).2
  | findUser _, p => p
  | createClientSession username accessToken now, p => (p.createClientSession username accessToken now).2

theorem startSession_follows (draws : AccountDraws) (username : String) :
    (startSession draws username).Follows AccountCall.perform :=
  follows_atomically (fun _ => rfl) fun _ => follows_done _

theorem AccountRequest.follows (lower : String → String) (argon2 : Argon2) (q : AccountRequest) :
    (q.serve lower argon2).Follows AccountCall.perform := by
  cases q with
  | register draws payload =>
    show (registerUser lower argon2 draws payload).Follows AccountCall.perform
    unfold registerUser
    split
    · exact follows_done _
    split
    · exact follows_done _
    refine follows_atomically (fun _ => rfl) fun allowed => ?_
    cases allowed with
    | false => exact follows_done _
    | true =>
      dsimp only
      split
      · exact follows_done _
      refine follows_atomically (fun _ => rfl) fun result => ?_
      rcases result with e | _
      · exact follows_done _
      · exact startSession_follows draws _
  | login draws payload =>
    show (loginUser lower argon2 draws payload).Follows AccountCall.perform
    unfold loginUser
    split
    · exact follows_done _
    refine follows_atomically (fun _ => rfl) fun allowed => ?_
    cases allowed with
    | false => exact follows_done _
    | true =>
      refine follows_atomically (fun _ => rfl) fun result => ?_
      rcases result with e | passwordHash
      · exact follows_done _
      dsimp only
      split
      · exact follows_done _
      split
      · exact follows_done _
      · exact startSession_follows draws _

/-! ## The rest of the server -/

/-- What the rest of the server does in one step: a request shows its token, somebody reads the counters, or anything
happens that concerns neither tokens nor accounts. -/
inductive Outside
  | guarded (caller : Caller)
  | testMetrics (authorization : Option String) (now : Instant)
  | elsewhere (q : Portal)

def Outside.perform : Outside → Portal → Portal
  | guarded caller, p => (p.requireBearer caller).2
  | testMetrics authorization now, p => (p.testMetrics authorization now).2
  | elsewhere q, p => { q with
      users := p.users
      app := { q.app with clientSessions := p.app.clientSessions, bearerToken := p.app.bearerToken } }

/-- The token of a request. -/
def Caller.token (caller : Caller) : Option String := caller.authorization.bind (stripPrefix "Bearer ")

theorem token_bearer {caller : Caller} {token : String} (h : caller.authorization = some ("Bearer " ++ token)) :
    caller.token = some token := by
  unfold Caller.token stripPrefix
  rw [h, Option.bind_some, if_pos (by simp), String.toList_append, List.drop_left, String.ofList_toList]

/-! ## What a step does to tokens and accounts -/

namespace AppState

variable {s : AppState} {caller : Caller}

@[simp] theorem limitToken_clientSessions {token : String} {now : Instant} :
    (s.limitToken token now).2.clientSessions = s.clientSessions := by
  unfold limitToken
  split <;> rfl

@[simp] theorem limitToken_bearerToken {token : String} {now : Instant} :
    (s.limitToken token now).2.bearerToken = s.bearerToken := by
  unfold limitToken
  split <;> rfl

@[simp] theorem requireBearer_bearerToken : (s.requireBearer caller).2.bearerToken = s.bearerToken := by
  unfold requireBearer
  split
  · rfl
  split
  · simp
  dsimp only
  split <;> simp

/-- The check drops the sessions that are over by its reading of the clock. -/
theorem requireBearer_clientSessions : (s.requireBearer caller).2.clientSessions =
    if ∃ token, caller.token = some token ∧ token ≠ s.bearerToken then
      s.clientSessions.filter fun _ session => caller.sessionNow < session.expiresAt
    else s.clientSessions := by
  unfold requireBearer Caller.token
  cases ht : caller.authorization.bind (stripPrefix "Bearer ") with
  | none => simp
  | some token =>
    by_cases e : token = s.bearerToken
    · simp [e]
    · have hshown : ∃ t, some token = some t ∧ t ≠ s.bearerToken := ⟨token, rfl, e⟩
      dsimp only
      rw [if_neg e, if_pos hshown]
      split <;> simp

theorem limitToken_known {token : String} {now : Instant} : (s.limitToken token now).1 ≠ .error .unauthorized := by
  unfold limitToken
  split <;> simp

/-- A token that is not the administrator's is known if its session is not over. -/
theorem requireBearer_known_iff {token : String} (ht : caller.token = some token) (hne : token ≠ s.bearerToken) :
    (s.requireBearer caller).1 ≠ .error .unauthorized ↔
      ∃ session : ClientSession, s.clientSessions[token]? = some session ∧ caller.sessionNow < session.expiresAt := by
  have hrow : (∃ session : ClientSession, s.clientSessions[token]? = some session ∧
      caller.sessionNow < session.expiresAt) ↔
        (s.clientSessions.filter fun _ session => caller.sessionNow < session.expiresAt).contains token = true := by
    rw [← not_iff_not, Bool.not_eq_true, contains_eq_false, Option.eq_none_iff_forall_ne_some]
    simp
  rw [hrow]
  unfold requireBearer
  rw [show caller.authorization.bind (stripPrefix "Bearer ") = some token from ht]
  simp only [hne, if_false]
  cases hc : (s.clientSessions.filter fun _ session => caller.sessionNow < session.expiresAt).contains token with
  | false => simp
  | true => simpa using limitToken_known

end AppState

namespace Portal

variable {p : Portal} {caller : Caller}

theorem requireBearer_eq : (p.requireBearer caller).1 = (p.app.requireBearer caller).1 ∧
    (p.requireBearer caller).2.app = (p.app.requireBearer caller).2 ∧ (p.requireBearer caller).2.users = p.users := by
  unfold requireBearer
  split <;> rename_i h <;> simp [h]

theorem testMetrics_frame {authorization : Option String} {now : Instant} :
    (p.testMetrics authorization now).2.app.clientSessions = p.app.clientSessions ∧
      (p.testMetrics authorization now).2.app.bearerToken = p.app.bearerToken ∧
        (p.testMetrics authorization now).2.users = p.users := by
  have hadmin : (p.requireAdminBearer authorization now).2.app.clientSessions = p.app.clientSessions ∧
      (p.requireAdminBearer authorization now).2.app.bearerToken = p.app.bearerToken ∧
        (p.requireAdminBearer authorization now).2.users = p.users := by
    unfold requireAdminBearer
    split
    · unfold limit
      rcases p.app.apiRateLimiter.allow (authorization.getD "") now with ⟨_ | _, _⟩ <;> exact ⟨rfl, rfl, rfl⟩
    · exact ⟨rfl, rfl, rfl⟩
  unfold testMetrics
  rcases h : p.requireAdminBearer authorization now with ⟨_ | _, q⟩ <;> rw [h] at hadmin <;> exact hadmin

theorem insertUser_app {username passwordHash : String} : (p.insertUser username passwordHash).2.app = p.app := by
  unfold insertUser
  split <;> rfl

end Portal

/-! ## Tokens -/

/-- One turn of a server on which requests for accounts run side by side with one another and with all the rest. -/
abbrev AccountMove := Move (Pool AccountCall Portal (Except ApiError AuthResponse)) (Pool.Turn Outside)

/-- The server with its requests. -/
abbrev Accounts := Pool AccountCall Portal (Except ApiError AuthResponse)

def Portal.serving (p : Portal) (lower : String → String) (argon2 : Argon2) (requests : List AccountRequest) :
    Accounts :=
  ⟨p, requests.map (·.serve lower argon2)⟩

/-- The token is issued, until then. -/
def Issues (token : String) (expiry : Instant) (m : AccountMove) : Prop :=
  ∃ username now, Pool.Does (.createClientSession username token now) m ∧ expiry = now + clientSessionTtl

/-- A token is looked up by a request that has read its clock then. -/
def LooksUp (reading : Instant) (m : AccountMove) : Prop :=
  ∃ caller token, m.event = .environment (.guarded caller) ∧ caller.token = some token ∧
    token ≠ m.before.shared.app.bearerToken ∧ caller.sessionNow = reading

/-- The token is not issued anew, and no request comes that is late for it. -/
def Upholds (token : String) (expiry : Instant) (m : AccountMove) : Prop :=
  (∀ expiry', ¬ Issues token expiry' m) ∧ ∀ reading, LooksUp reading m → reading < expiry

section

variable {lower : String → String} {argon2 : Argon2} {requests : List AccountRequest} {p : Portal} {Q Q' : Accounts}
  {h : List AccountMove} {turn : Pool.Turn Outside} {token : String} {expiry : Instant}

theorem serving_follows : ∀ q ∈ (p.serving lower argon2 requests).programs, q.Follows AccountCall.perform := by
  intro q hq
  rcases List.mem_map.1 hq with ⟨request, _, rfl⟩
  exact request.follows lower argon2

/-- A step makes a row of the table of sessions, or upholds it. -/
theorem deed_session {m : AccountMove} (hd : Pool.Deed AccountCall.perform Outside.perform m) :
    m.after.shared.app.clientSessions[token]? = some { expiresAt := expiry } ↔
      Issues token expiry m ∨ Upholds token expiry m ∧
        m.before.shared.app.clientSessions[token]? = some { expiresAt := expiry } := by
  -- a step that neither issues a token nor looks one up
  have hquiet : (∀ token expiry, ¬ Issues token expiry m) → (∀ reading, ¬ LooksUp reading m) →
      m.after.shared.app.clientSessions = m.before.shared.app.clientSessions →
        (m.after.shared.app.clientSessions[token]? = some { expiresAt := expiry } ↔ Issues token expiry m ∨
          Upholds token expiry m ∧ m.before.shared.app.clientSessions[token]? = some { expiresAt := expiry }) := by
    intro hi hl hs
    rw [hs]
    have hupholds : Upholds token expiry m := ⟨hi token, fun reading hr => absurd hr (hl reading)⟩
    simp [hi, hupholds]
  cases hd with
  | @program i label he hl hs =>
    have hdoes : Pool.Does label m := ⟨i, he, hl⟩
    have hlook : ∀ reading, ¬ LooksUp reading m := by
      rintro reading ⟨_, _, he', _⟩
      cases he.symm.trans he'
    cases label with
    | limit key now =>
      refine hquiet ?_ hlook (by rw [hs]; rfl)
      rintro token expiry ⟨_, _, hd, _⟩
      cases hdoes.unique hd
    | insertUser username passwordHash =>
      refine hquiet ?_ hlook (by rw [hs]; exact congrArg AppState.clientSessions Portal.insertUser_app)
      rintro token expiry ⟨_, _, hd, _⟩
      cases hdoes.unique hd
    | findUser username =>
      refine hquiet ?_ hlook (by rw [hs]; rfl)
      rintro token expiry ⟨_, _, hd, _⟩
      cases hdoes.unique hd
    | createClientSession username token' now =>
      have hrow : m.after.shared.app.clientSessions =
          m.before.shared.app.clientSessions.insert token' { expiresAt := now + clientSessionTtl } := by rw [hs]; rfl
      have hissues : ∀ t e, Issues t e m ↔ token' = t ∧ e = now + clientSessionTtl := by
        intro t e
        constructor
        · rintro ⟨_, _, hd, rfl⟩
          cases hdoes.unique hd
          exact ⟨rfl, rfl⟩
        · rintro ⟨rfl, rfl⟩
          exact ⟨_, _, hdoes, rfl⟩
      rw [hrow, hissues]
      by_cases e : token' = token
      · subst e
        have hno : ¬ Upholds token' expiry m := fun hsp => hsp.1 _ ((hissues _ _).2 ⟨rfl, rfl⟩)
        simp [hno, eq_comm]
      · have hupholds : Upholds token expiry m :=
          ⟨fun e' hi => e ((hissues _ _).1 hi).1, fun reading hr => absurd hr (hlook reading)⟩
        simp [getElem?_insert_ne e, e, hupholds]
  | @environment o he hs =>
    have hissues : ∀ token expiry, ¬ Issues token expiry m := by
      rintro token expiry ⟨_, _, hd, _⟩
      exact Pool.not_does he hd
    cases o with
    | testMetrics authorization now =>
      refine hquiet hissues ?_ (by rw [hs]; exact Portal.testMetrics_frame.1)
      rintro reading ⟨_, _, he', _⟩
      cases he.symm.trans he'
    | elsewhere q =>
      refine hquiet hissues ?_ (by rw [hs]; rfl)
      rintro reading ⟨_, _, he', _⟩
      cases he.symm.trans he'
    | guarded caller =>
      have happ : m.after.shared.app.clientSessions = (m.before.shared.app.requireBearer caller).2.clientSessions := by
        rw [hs]
        exact congrArg AppState.clientSessions Portal.requireBearer_eq.2.1
      rw [AppState.requireBearer_clientSessions] at happ
      split at happ
      · rename_i hshown
        rcases hshown with ⟨token', ht, hne⟩
        have hupholds : Upholds token expiry m ↔ caller.sessionNow < expiry := by
          constructor
          · exact fun hsp => hsp.2 _ ⟨caller, token', he, ht, hne, rfl⟩
          · rintro hlt
            refine ⟨hissues token, ?_⟩
            rintro reading ⟨caller', _, he', _, _, rfl⟩
            cases he.symm.trans he'
            exact hlt
        rw [happ, getElem?_filter_eq_some, hupholds]
        simp [hissues, and_comm]
      · rename_i hshown
        refine hquiet hissues ?_ happ
        rintro reading ⟨caller', token', he', ht, hne, _⟩
        cases he.symm.trans he'
        exact hshown ⟨token', ht, hne⟩

theorem deed_bearerToken {m : AccountMove} (hd : Pool.Deed AccountCall.perform Outside.perform m) :
    m.after.shared.app.bearerToken = m.before.shared.app.bearerToken := by
  cases hd with
  | @program i label he hl hs =>
    rw [hs]
    cases label with
    | insertUser username passwordHash => exact congrArg AppState.bearerToken Portal.insertUser_app
    | _ => rfl
  | @environment o he hs =>
    rw [hs]
    cases o with
    | testMetrics authorization now => exact Portal.testMetrics_frame.2.1
    | elsewhere q => rfl
    | guarded caller =>
      exact (congrArg AppState.bearerToken Portal.requireBearer_eq.2.1).trans AppState.requireBearer_bearerToken

theorem run_deed (hr : Run (· = p.serving lower argon2 requests) (Pool.Takes Outside.perform) h Q)
    (ht : Pool.Takes Outside.perform Q turn Q') : Pool.Deed AccountCall.perform Outside.perform ⟨Q, turn, Q'⟩ :=
  (Pool.Takes.deed (Pool.run_follows hr serving_follows) ht).1

theorem run_bearerToken (hr : Run (· = p.serving lower argon2 requests) (Pool.Takes Outside.perform) h Q) :
    Q.shared.app.bearerToken = p.app.bearerToken := by
  induction hr with
  | init hs => rw [hs]; rfl
  | step hr ht ih => exact (deed_bearerToken (run_deed hr ht)).trans ih

/-- A session is in the table exactly if its token has been issued with this expiry and upheld from then on. -/
theorem run_session (hnone : p.app.clientSessions[token]? = none)
    (hr : Run (· = p.serving lower argon2 requests) (Pool.Takes Outside.perform) h Q) :
    Q.shared.app.clientSessions[token]? = some { expiresAt := expiry } ↔
      Since (Issues token expiry) (Upholds token expiry) h := by
  refine Run.since_iff (P := fun Q => Q.shared.app.clientSessions[token]? = some { expiresAt := expiry }) ?_ ?_ hr
  · rintro _ rfl hsome
    cases hnone.symm.trans hsome
  · exact fun old Q turn Q' hr ht => deed_session (run_deed hr ht)

/-- A request is known by its token exactly if the token has been issued until after the request reads its clock, and
upheld from then on. -/
theorem bearer_known_iff {caller : Caller} (hcaller : caller.authorization = some ("Bearer " ++ token))
    (hadmin : token ≠ p.app.bearerToken) (hnone : p.app.clientSessions[token]? = none)
    (hr : Run (· = p.serving lower argon2 requests) (Pool.Takes Outside.perform) h Q) :
    (Q.shared.requireBearer caller).1 ≠ .error .unauthorized ↔
      ∃ expiry, caller.sessionNow < expiry ∧ Since (Issues token expiry) (Upholds token expiry) h := by
  rw [Portal.requireBearer_eq.1]
  rw [AppState.requireBearer_known_iff (token_bearer hcaller) (by rwa [run_bearerToken hr])]
  constructor
  · rintro ⟨session, hs, hlt⟩
    exact ⟨session.expiresAt, hlt, (run_session hnone hr).1 hs⟩
  · rintro ⟨expiry, hlt, hsince⟩
    exact ⟨_, (run_session hnone hr).2 hsince, hlt⟩

/-- Whatever happens on the server, a request is known by its token exactly if the token has been issued until after the
request reads its clock, has not been issued anew, and no request has come since that was late for it. Where no clock
has been ahead of this one, that is if the last issue of the token has not run out. -/
theorem token_known_iff {caller : Caller} (hcaller : caller.authorization = some ("Bearer " ++ token))
    (hadmin : token ≠ p.app.bearerToken) (hnone : p.app.clientSessions[token]? = none)
    (hr : Run (· = p.serving lower argon2 requests) (Pool.Takes Outside.perform) h Q) :
    ((Q.shared.requireBearer caller).1 ≠ .error .unauthorized ↔
        ∃ expiry, caller.sessionNow < expiry ∧ Since (Issues token expiry) (Upholds token expiry) h) ∧
      ((∀ m ∈ h, ∀ reading, LooksUp reading m → reading ≤ caller.sessionNow) →
        ((Q.shared.requireBearer caller).1 ≠ .error .unauthorized ↔
          ∃ expiry, caller.sessionNow < expiry ∧
            Since (Issues token expiry) (fun m => ∀ expiry', ¬ Issues token expiry' m) h)) := by
  have hiff := bearer_known_iff hcaller hadmin hnone hr
  refine ⟨hiff, fun hclock => hiff.trans (exists_congr fun expiry => and_congr_right fun hlt => ?_)⟩
  constructor
  · exact Since.imp (fun _ hi => hi) (fun _ hsp => hsp.1)
  · intro hsince
    rcases since_iff.1 hsince with ⟨recent, m, old, rfl, hm, hrecent⟩
    refine since_iff.2 ⟨recent, m, old, rfl, hm, fun x hx => ⟨hrecent x hx, fun reading hlook => ?_⟩⟩
    exact (hclock x (List.mem_append_left _ hx) reading hlook).trans_lt hlt

end

/-! ## A registration -/

namespace Example

/-- Hashing that puts the salt after the password. -/
def argon2 : Argon2 where
  hashPassword password salt := some (password ++ "$" ++ salt)
  parses _ := true
  verifyPassword password passwordHash := (stripPrefix (password ++ "$") passwordHash).isSome

def alice : AuthRequest := { username := " Alice", password := "secret" }

def drawn (n : UInt8) : AccountDraws :=
  { limiterNow := 0, sessionNow := 0, salt := some "salt", first := .ofByte n, second := .ofByte n }

/-- Alice registers and logs in. -/
def visits : List AccountRequest := [.register (drawn 1) alice, .login (drawn 2) alice]

def portal : Portal := { app := .fresh bearerToken subnet, metrics := .default 0, users := ∅ }

def visiting : Accounts := portal.serving String.toLower argon2 visits

/-- The three steps of a request. -/
def turns (i : Nat) : List (Pool.Turn Outside) := List.replicate 3 (.program i)

def registered : Accounts := final (Pool.take Outside.perform) visiting (turns 0)

theorem registering_run :
    Run (· = visiting) (Pool.Takes Outside.perform) (replay (Pool.take Outside.perform) visiting (turns 0))
    registered :=
  @run_replay _ _ (fun P => P = visiting) visiting (Pool.take Outside.perform) Pool.Ready rfl _ (by decide +kernel)

/-- A request with the token of her registration. -/
def bearing : Caller :=
  { authorization := some ("Bearer " ++ accessToken (.ofByte 1) (.ofByte 1)), sessionNow := 5, limiterNow := 5 }

end Example

open Example in
/-- Her token is known, so it has been issued and upheld. -/
theorem alice_known : ∃ expiry, bearing.sessionNow < expiry ∧
    Since (Issues (accessToken (.ofByte 1) (.ofByte 1)) expiry) (Upholds (accessToken (.ofByte 1) (.ofByte 1)) expiry)
      (replay (Pool.take Outside.perform) visiting (turns 0)) :=
  (@token_known_iff _ _ _ _ _ _ _ bearing rfl (by decide +kernel) (by decide +kernel) registering_run).1.1
    (by decide +kernel)

end Civ6LanBridge

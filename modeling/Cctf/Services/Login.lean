import Cctf.Teams.SignUp

/-!
# Signing in with a password

`AuthService::login`: the account with a name, the check of its stored hash, and a session
token for a day.

* `Argon2` — the `argon2` crate, as a parameter; `Recognizes` is what one stored hash promises.
* `sessionTtl`, `session` — the claims of a session.
* `login` — the method; `loginVerdict` is what it makes of the tables it reads.
* `run_login` — the method makes one call; `loginVerdict_eq_ok_iff` is **who gets a token**, and
  `loginVerdict_of_recognizes` what the attempts at one account get.
* `getAuthorizeUrl` — where a CTFtime sign-in starts.
-/

namespace Cctf

open Program Pg Faults Checks

/-! ## Passwords -/

/-- The `argon2` crate. -/
structure Argon2 where
  /-- `hash_password`, with the salt that it draws; `none` on an error. -/
  hashPassword : (salt password : String) → Option String
  /-- `verify_password`; a text that is no hash verifies nothing. -/
  verifyPassword : (password storedHash : String) → Bool

/-- A stored hash verifies one password and no other. -/
def Argon2.Recognizes (A : Argon2) (storedHash password : String) : Prop :=
  ∀ attempt, A.verifyPassword attempt storedHash = true ↔ attempt = password

/-! ## Sessions -/

/-- How long a session lasts. -/
def sessionTtl : Int64 := 24 * 3600

/-- The claims of a session that starts at a time. -/
def session (id : AccountId) (now : Int64) : Jwt.Claims := ⟨id.val, now, now + sessionTtl⟩

/-- The token of a session. -/
def sessionTokenOf (X : Jwt.Crates) (jwtSecret : List UInt8) (id : AccountId) (now : Int64) :
    String :=
  Jwt.sessionToken X (session id now).text jwtSecret

theorem issue_session (X : Jwt.Crates) (jwtSecret : List UInt8) (id : AccountId) (now : Int64) :
    Jwt.issue X id.val (24 * 3600) jwtSecret now = .ok (sessionTokenOf X jwtSecret id now) :=
  Jwt.encode_eq jwtSecret rfl

/-! ## The method -/

section

variable (A : Argon2) (X : Jwt.Crates) (describe : Jwt.JwtError → String)
  (jwtSecret : List UInt8)

/-- `login`, at a time; `describe` is `to_string` of a `JwtError`. -/
def login (username password : String) (now : Int64) : Auth String := do
  let found ← repo (Pg.AccountRepo.findByUsername username)
  let account ← ExceptT.mk (.done (required found (.invalidRequest "auth-invalid-credentials")))
  let storedHash ← ExceptT.mk
    (.done (required account.passwordHash (.invalidRequest "auth-invalid-credentials")))
  if A.verifyPassword password storedHash then
    ExceptT.mk (.done ((Jwt.issue X account.id.val (24 * 3600) jwtSecret now).mapError fun e =>
      .oauth (describe e)))
  else throw (.invalidRequest "auth-invalid-credentials")

/-- What `login` makes of the account that it finds. -/
def loginVerdict (found : Option Account) (password : String) (now : Int64) :
    Except ServiceError String :=
  match found with
  | none => .error (.invalidRequest "auth-invalid-credentials")
  | some account =>
    match account.passwordHash with
    | none => .error (.invalidRequest "auth-invalid-credentials")
    | some storedHash =>
      if A.verifyPassword password storedHash then .ok (sessionTokenOf X jwtSecret account.id now)
      else .error (.invalidRequest "auth-invalid-credentials")

variable {A X jwtSecret}

/-- The rest of a sign-in, after the account was looked up. -/
theorem login_rest (found : Option Account) (password : String) (now : Int64) :
    ((do
      let account ← ExceptT.mk (.done (required found (.invalidRequest "auth-invalid-credentials")))
      let storedHash ← ExceptT.mk
        (.done (required account.passwordHash (.invalidRequest "auth-invalid-credentials")))
      if A.verifyPassword password storedHash then
        ExceptT.mk (.done ((Jwt.issue X account.id.val (24 * 3600) jwtSecret now).mapError fun e =>
          .oauth (describe e)))
      else throw (.invalidRequest "auth-invalid-credentials") : Auth String)).run =
      .done (loginVerdict A X jwtSecret found password now) := by
  cases found with
  | none => rfl
  | some account =>
    obtain ⟨id, username, email, passwordHash, role, teamId, ctftimeId, fields, createdAt⟩ := account
    simp only [issue_session]
    cases passwordHash with
    | none => rfl
    | some storedHash =>
      show (if A.verifyPassword password storedHash = true then _ else _ : Auth String).run =
        .done (if A.verifyPassword password storedHash = true then _ else _)
      by_cases hverify : A.verifyPassword password storedHash = true
      · rw [if_pos hverify, if_pos hverify]
        rfl
      · rw [if_neg hverify, if_neg hverify]
        rfl

/-- `login` is decided by one statement. -/
theorem run_login (username password : String) (now : Int64) :
    (login A X describe jwtSecret username password now).run =
      .call (.selectAccountByUsername username) fun row => .done (match row with
        | .error e => .error (.repo e)
        | .ok row => loginVerdict A X jwtSecret (row.map mapAccount) password now) := by
  refine congrArg (Program.call _) (funext fun row => ?_)
  cases row with
  | error e => rfl
  | ok row => exact login_rest describe (row.map mapAccount) password now

/-- **Who gets a token**: the account with the name, if the password verifies its hash. -/
theorem loginVerdict_eq_ok_iff {found : Option Account} {password token : String} {now : Int64} :
    loginVerdict A X jwtSecret found password now = .ok token ↔
      ∃ account storedHash, found = some account ∧ account.passwordHash = some storedHash ∧
        A.verifyPassword password storedHash = true ∧
        sessionTokenOf X jwtSecret account.id now = token := by
  constructor
  · intro h
    cases found with
    | none => cases h
    | some account =>
      cases hhash : account.passwordHash with
      | none => simp [loginVerdict, hhash] at h
      | some storedHash =>
        simp only [loginVerdict, hhash] at h
        split_ifs at h with hverify
        exact ⟨account, storedHash, rfl, hhash, hverify, Except.ok.inj h⟩
  · rintro ⟨account, storedHash, rfl, hhash, hverify, rfl⟩
    simp [loginVerdict, hhash, hverify]

/-- The password that a hash was made of opens the account, and no other does. -/
theorem loginVerdict_of_recognizes {account : Account} {storedHash password : String}
    (hhash : account.passwordHash = some storedHash) (h : A.Recognizes storedHash password)
    (attempt : String) (now : Int64) :
    loginVerdict A X jwtSecret (some account) attempt now =
      if attempt = password then .ok (sessionTokenOf X jwtSecret account.id now)
      else .error (.invalidRequest "auth-invalid-credentials") := by
  simp only [loginVerdict, hhash]
  by_cases hattempt : attempt = password
  · rw [if_pos hattempt, if_pos ((h attempt).mpr hattempt)]
  · rw [if_neg hattempt, if_neg (mt (h attempt).mp hattempt)]

end

/-! ## Signing in elsewhere -/

/-- `OAuthService::get_authorize_url`. -/
def getAuthorizeUrl (clientId redirectUri : String) : String :=
  "https://oauth.ctftime.org/authorize?client_id=" ++ clientId ++ "&redirect_uri=" ++
    redirectUri ++ "&response_type=code&scope=profile+team"

end Cctf

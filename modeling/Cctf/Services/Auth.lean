import Cctf.Crypto.Jwt
import Cctf.Repos.Pg.Database

/-!
# Accounts

`AuthService::register` and `OAuthService::handle_callback`: an account with a password,
and an account for a CTFtime profile, which also makes the profile's team the first time
one of its players signs in.

* `Fresh` — the uuids a call makes, and the times it reads.
* `Ctftime` — the two requests to CTFtime, as a parameter; `fetchProfile` what is made of
  them.
* `register`, `handleCallback` — the methods, as programs of SQL statements.
* `freeName` — the loop that looks for a username, with a bound on its rounds.
-/

namespace Cctf

open Program Pg Checks

/-- A computation of the two services. -/
abbrev Auth (α : Type) : Type := ExceptT ServiceError (Program Query Query.Resp) α

/-- A repository method, with `?`. -/
def repo {α : Type} (m : StoreSql α) : Auth α :=
  ExceptT.mk (m.run >>= fun r => .done (r.mapError .repo))

/-- What a call makes up: new ids, and the times at which it makes its records and its
token. -/
structure Fresh where
  accountId : AccountId
  teamId : TeamId
  accountCreatedAt : Int64
  teamCreatedAt : Int64
  issuedAt : Int64

/-! ## Registering -/

/-- The account of a registration. -/
def registeredAccount (fresh : Fresh) (username : String) (email : Option String)
    (hashed : String) : Account where
  id := fresh.accountId
  username := username
  email := email
  passwordHash := some hashed
  role := .player
  teamId := none
  ctftimeId := none
  fields := []
  createdAt := fresh.accountCreatedAt.toInt

/-- `register`; `hashPassword` is `hash_password`, with its salt. -/
def register (hashPassword : String → Option String) (fresh : Fresh) (username : String)
    (email : Option String) (password : String) : Auth Account := do
  let taken ← repo (Pg.AccountRepo.findByUsername username)
  if taken.isSome then throw (.invalidRequest "auth-username-taken")
  else do
    let hashed ← ExceptT.mk
      (.done (required (hashPassword password) (.invalidRequest "auth-hash-failed")))
    let account := registeredAccount fresh username email hashed
    repo (Pg.AccountRepo.save account)
    pure account

/-! ## Signing in with CTFtime -/

/-- A team of a CTFtime profile. -/
structure CtfTimeTeamInfo where
  id : UInt32
  name : String

/-- What is read of a CTFtime profile. -/
structure CtfTimeUserProfile where
  id : UInt32
  username : String
  team : Option CtfTimeTeamInfo

/-- The requests to CTFtime: the answer if there is one, and what is read of it if it can
be read. -/
structure Ctftime where
  /-- `POST /token`, with a code. -/
  postToken : (code : String) → Option (Option JsonText)
  /-- `GET /user`, with an access token. -/
  getUser : (accessToken : String) → Option (Option CtfTimeUserProfile)

/-- The string of a JSON string. -/
def asStr : JsonText → Option String
  | .string s => some s
  | _ => none

/-- The profile behind a code. -/
def fetchProfile (C : Ctftime) (code : String) : Except ServiceError CtfTimeUserProfile := do
  let answer ← required (C.postToken code) (.oauth "auth-oauth-token-failed")
  let tokenResp ← required answer (.oauth "auth-oauth-token-parse-failed")
  let accessToken ← required ((tokenResp.get? "access_token").bind asStr)
    (.oauth "auth-oauth-token-missing")
  let answer ← required (C.getUser accessToken) (.oauth "auth-oauth-profile-failed")
  required answer (.oauth "auth-oauth-profile-parse-failed")

/-- The username to try after some others: the name with a number. -/
def numbered (baseName : String) (suffix : ℕ) : String := baseName ++ toString suffix

/-- The loop over usernames; `none` if all rounds are used up. -/
def freeName (baseName : String) : (rounds : ℕ) → (checkName : String) → (suffix : ℕ) →
    Auth (Option String)
  | 0, _, _ => pure none
  | rounds + 1, checkName, suffix => do
    let taken ← repo (Pg.AccountRepo.findByUsername checkName)
    if taken.isSome then freeName baseName rounds (numbered baseName suffix) (suffix + 1)
    else pure (some checkName)

/-- The account of a profile. -/
def newAccount (fresh : Fresh) (profile : CtfTimeUserProfile) (username : String)
    (teamId : Option TeamId) : Account where
  id := fresh.accountId
  username := username
  email := none
  passwordHash := none
  role := .player
  teamId := teamId
  ctftimeId := some profile.id
  fields := []
  createdAt := fresh.accountCreatedAt.toInt

/-- The team of a profile; its captain is the new account. -/
def newTeam (fresh : Fresh) (info : CtfTimeTeamInfo) : Team where
  id := fresh.teamId
  name := info.name
  ctftimeId := some info.id
  inviteCode := none
  captainId := fresh.accountId
  memberIds := [fresh.accountId]
  bracket := "Open"
  fields := []
  createAt := fresh.teamCreatedAt.toInt

/-- The id of the local team for a profile's team, which is made if there is none. -/
def localTeam (fresh : Fresh) : Option CtfTimeTeamInfo → Auth (Option TeamId)
  | none => pure none
  | some info => do
    match ← repo (Pg.TeamRepo.findByCtftimeId info.id) with
    | some team => pure (some team.id)
    | none =>
      repo (Pg.TeamRepo.save (newTeam fresh info))
      pure (some (newTeam fresh info).id)

/-- Put the account on the team's list if it is not there. -/
def addToTeam (accountId : AccountId) : Option TeamId → Auth Unit
  | none => pure ()
  | some teamId => do
    match ← repo (ofSql (Pg.TeamRepo.findById teamId)) with
    | none => pure ()
    | some team =>
      if accountId ∈ team.memberIds then pure ()
      else repo (ofSql (Pg.TeamRepo.update { team with memberIds := team.memberIds ++ [accountId] }))

/-- A new account for a profile. -/
def signUp (fresh : Fresh) (profile : CtfTimeUserProfile) (username : String) : Auth Account := do
  let teamId ← localTeam fresh profile.team
  let account := newAccount fresh profile username teamId
  repo (Pg.AccountRepo.save account)
  addToTeam account.id teamId
  pure account

/-- The token of an account that signed in. -/
def localToken (X : Jwt.Crates) (jwtSecret : List UInt8) (fresh : Fresh) (account : Account) :
    Auth (Option String) :=
  ExceptT.mk (.done (((Jwt.issue X account.id.val (24 * 3600) jwtSecret fresh.issuedAt).map
    some).mapError fun _ => .oauth "auth-token-generation-failed"))

/-- `handle_callback`, after the requests to CTFtime. -/
def signIn (X : Jwt.Crates) (jwtSecret : List UInt8) (rounds : ℕ) (fresh : Fresh)
    (profile : CtfTimeUserProfile) : Auth (Option String) := do
  match ← repo (Pg.AccountRepo.findByCtftimeId profile.id) with
  | some account => localToken X jwtSecret fresh account
  | none =>
    match ← freeName profile.username rounds profile.username 1 with
    | none => pure none
    | some username => do
      let account ← signUp fresh profile username
      localToken X jwtSecret fresh account

/-- `handle_callback`; `none` if the rounds for the username are used up. -/
def handleCallback (X : Jwt.Crates) (C : Ctftime) (jwtSecret : List UInt8) (rounds : ℕ)
    (fresh : Fresh) (code : String) : Auth (Option String) := do
  let profile ← ExceptT.mk (.done (fetchProfile C code))
  signIn X jwtSecret rounds fresh profile

end Cctf

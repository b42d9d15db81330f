import Cctf.Api.Challenges
import Cctf.Api.Hints
import Cctf.Api.Server
import Cctf.Api.Solve
import Cctf.Crypto.Invites
import Cctf.Services.Login

/-!
# The router

`create_router`: every endpoint of the API with its handler, as a program of calls to the
server.  The bodies, the paths and the queries are parsed already; what a handler makes up, and
the times that it reads, come with the request.

* `Deployment`, `Endpoint`, `HttpRequest`, `Reply` — the configuration, the requests and what
  they are answered.
* `authenticated`, `administrator` — the extractors `AuthenticatedUser` and `AdminUser`, in
  front of the rest of a handler.
* `Deployment.handle` — **the router**.
* `Endpoint.route`, `apiRoutes` — the routes; `route_mem_apiRoutes` is that all are listed.
-/

namespace Cctf

open Program Pg

/-! ## Requests -/

/-- What the server is started with. -/
structure Deployment where
  jwt : Jwt.Crates
  jwtSecret : List UInt8
  argon2 : Argon2
  /-- `to_string` of a `JwtError`. -/
  describe : Jwt.JwtError → String
  platform : Platform
  scoreboard : ScoreboardService
  files : FileService
  /-- `eval_with_scope::<bool>` for the filter of a notification. -/
  evalFilter : String → List String → String → String → Option Bool
  clientId : String
  redirectUri : String
  /-- `TRUST_PROXY_HEADERS`, read. -/
  trust : Bool
  /-- `HeaderValue::from_str`, as far as it says which texts can be a header. -/
  isHeaderValue : String → Bool

/-- A part of an upload: `bytes` is `none` if it cannot be read. -/
structure UploadField where
  fileName : Option String
  contentType : Option String
  bytes : Option Bytes

/-- A request, without its headers. -/
inductive Endpoint where
  | register (salt : String) (fresh : Fresh) (checkedAt : ℤ) (username : String)
      (email : Option String) (password : String)
  | login (checkedAt : ℤ) (username password : String) (now : Int64)
  | oauthUrl
  | oauthCallback (ctftime : Ctftime) (rounds : ℕ) (fresh : Fresh) (code : String)
  | listChallenges (now : ℤ)
  | createChallenge (challenge : Challenge)
  | getChallenge (id : String) (now : ℤ)
  | updateChallenge (id : String) (challenge : Challenge)
  | deleteChallenge (id : String) (deleteSolves : Bool)
  | submitFlag (req : SubmitRequest)
  | unlockHint (req : UnlockHintRequest)
  | uploadFile (uuid : Uuid) (fields : List UploadField) (now : Int64)
  | downloadFile (id : String)
  | scoreboard (bracket : Option String)
  | exportScoreboard
  | createInvite (teamId : String) (lifespanHours : Option Int64) (now : Int64)
  | joinTeam (scripts : String → Option String) (token : String) (now : ℤ)
  | listNotifications
  | createNotification (id : String) (now : ℤ) (payload : AnnouncePayload)
  | notificationsStream

/-- A request; `authAt` is the time at which its token is checked. -/
structure HttpRequest where
  headers : HeaderMap
  peer : Option String
  authAt : Int64
  endpoint : Endpoint

/-! ## Replies -/

/-- The body of a reply. -/
inductive ReplyBody where
  | empty
  | error (message : Message)
  | account (account : Account)
  | token (token : String)
  | url (url : String)
  | challenges (challenges : List PublicChallenge)
  | challenge (challenge : PublicChallenge)
  | stored (challenge : Challenge)
  | submission (submission : Submission)
  | hint (result : HintUnlockResult)
  | file (file : ChallengeFile)
  | download (contentType disposition : Option String) (bytes : Bytes)
  | board (entries : List ScoreboardEntry)
  | ctftimeExport (standings : CtfTimeScoreboardExport)
  | invite (token : String) (expiresAt : Int64)
  | notifications (list : List Notification)
  | notification (notification : Notification)
  | stream (stream : NoticeStream)

/-- A reply. -/
structure Reply where
  status : ℕ
  body : ReplyBody

/-- `LocalizedError` as a reply. -/
def LocalizedError.reply (e : LocalizedError) : Reply := ⟨e.status, .error e.message⟩

/-- An error of a service as a reply. -/
def ServiceError.reply (lang : String) (e : ServiceError) : Reply := (e.localized lang).reply

/-- The response of a handler as a reply. -/
def Response.reply {β : Type} (body : β → ReplyBody) (r : Response β) : Reply :=
  match r.body with
  | .ok b => ⟨r.status, body b⟩
  | .error message => ⟨r.status, .error (.text message)⟩

/-! ## Extractors -/

section

variable (D : Deployment) (req : HttpRequest)

/-- The language of a request. -/
def HttpRequest.lang : String := getLang req.headers

/-- The address of the client. -/
def Deployment.ip : String := clientIp D.trust req.peer req.headers

/-- The account of the session token. -/
def Deployment.user : Except LocalizedError AccountId :=
  authenticatedUser D.jwt D.jwtSecret req.headers req.authAt

/-- `AuthenticatedUser`, and then the rest of a handler. -/
def authenticated (rest : AccountId → Serving Reply) : Serving Reply :=
  match D.user req with
  | .error e => pure e.reply
  | .ok id => rest id

/-- `AdminUser`, and then the rest of a handler. -/
def administrator (rest : Serving Reply) : Serving Reply :=
  authenticated D req fun id => do
    let found ← onDatabase (ofSql (Pg.AccountRepo.findById id)).run
    match found.toOption.join with
    | none => pure (ServiceError.unauthorized.reply req.lang)
    | some account =>
      if account.role ≠ .admin then
        pure (LocalizedError.reply ⟨403, .entry req.lang "auth-admin-required"⟩)
      else rest

/-- The rate limit of `register` and `login`, and then the rest of a handler. -/
def authLimited (checkedAt : ℤ) (rest : Serving Reply) : Serving Reply := do
  if !(← onApp (checkLimit ("auth-ip:" ++ D.ip req) 5 60 checkedAt)) then
    pure (ServiceError.rateLimitExceeded.reply req.lang)
  else rest

/-! ## Handlers -/

/-- `register` -/
def Deployment.register (salt : String) (fresh : Fresh) (checkedAt : ℤ) (username : String)
    (email : Option String) (password : String) : Serving Reply :=
  authLimited D req checkedAt do
    match ← onDatabase
      (Cctf.register (D.argon2.hashPassword salt) fresh username email password).run with
    | .ok account => pure ⟨201, .account account⟩
    | .error e => pure (e.reply req.lang)

/-- `login` -/
def Deployment.login (checkedAt : ℤ) (username password : String) (now : Int64) : Serving Reply :=
  authLimited D req checkedAt do
    match ← onDatabase
      (Cctf.login D.argon2 D.jwt D.describe D.jwtSecret username password now).run with
    | .ok token => pure ⟨200, .token token⟩
    | .error e => pure (e.reply req.lang)

/-- `oauth_callback`; with its rounds used up it has no reply yet. -/
def Deployment.oauthCallback (ctftime : Ctftime) (rounds : ℕ) (fresh : Fresh) (code : String) :
    Serving Reply := do
  match ← onDatabase (handleCallback D.jwt ctftime D.jwtSecret rounds fresh code).run with
  | .ok (some token) => pure ⟨200, .token token⟩
  | .ok none => pure ⟨0, .empty⟩
  | .error e => pure (e.reply req.lang)

/-- `create_challenge` -/
def Deployment.createChallenge (challenge : Challenge) : Serving Reply :=
  administrator D req do
    match ← onChallenges (Pg.ChallengeRepo.save challenge).run with
    | .ok () => pure ⟨201, .stored challenge⟩
    | .error e => pure ⟨500, .error (e.message req.lang)⟩

/-- `update_challenge`: the id of the path replaces that of the body. -/
def Deployment.updateChallenge (id : String) (challenge : Challenge) : Serving Reply :=
  administrator D req do
    let challenge := { challenge with id := id }
    match ← onChallenges (Pg.ChallengeRepo.update challenge).run with
    | .ok () => pure ⟨200, .stored challenge⟩
    | .error e => pure ⟨500, .error (e.message req.lang)⟩

/-- `delete_challenge` -/
def Deployment.deleteChallenge (id : String) (deleteSolves : Bool) : Serving Reply :=
  administrator D req do
    match ← onChallenges (Pg.ChallengeRepo.delete id deleteSolves).run with
    | .ok () => pure ⟨204, .empty⟩
    | .error e => pure ⟨500, .error (e.message req.lang)⟩

/-- The part that `upload_file` takes: the first one that can be read. -/
def uploaded (fields : List UploadField) : Option (String × String × Bytes) :=
  fields.findSome? fun field => field.bytes.map fun bytes =>
    (field.fileName.getD "file", field.contentType.getD "application/octet-stream", bytes)

/-- `upload_file` -/
def Deployment.uploadFile (uuid : Uuid) (fields : List UploadField) (now : Int64) :
    Serving Reply :=
  administrator D req
    (match uploaded fields with
      | none => pure (LocalizedError.reply ⟨400, .entry req.lang "ctf-file-missing"⟩)
      | some (name, contentType, bytes) => do
        match ← onFiles (D.files.upload uuid name contentType bytes now).run with
        | .ok file => pure ⟨200, .file file⟩
        | .error e => pure (e.reply req.lang))

/-- The name in `Content-Disposition`: quotes, backslashes and line ends are replaced. -/
def safeName (name : String) : String :=
  String.ofList (name.toList.map fun c => if c ∈ ['"', '\\', '\r', '\n'] then '_' else c)

/-- `Content-Disposition` -/
def contentDisposition (name : String) : String :=
  "attachment;filename=\"" ++ safeName name ++ "\""

/-- `download_file` -/
def Deployment.downloadFile (id : String) : Serving Reply :=
  authenticated D req fun _ => do
    match ← onFiles (FileService.download id).run with
    | .ok (file, bytes) =>
      pure ⟨200, .download (some file.contentType |>.filter D.isHeaderValue)
        (some (contentDisposition file.name) |>.filter D.isHeaderValue) bytes⟩
    | .error e => pure (e.reply req.lang)

/-- How long an invite lasts, in hours. -/
def lifespan (lifespanHours : Option Int64) : Int64 := max 1 (min (lifespanHours.getD 24) 168)

/-- `create_invite` -/
def Deployment.createInvite (teamId : String) (lifespanHours : Option Int64) (now : Int64) :
    Serving Reply :=
  authenticated D req fun id => do
    match ← onDatabase (ofSql (Pg.TeamRepo.findById ⟨teamId⟩)).run with
    | .ok (some team) =>
      if team.captainId ≠ id then
        pure (LocalizedError.reply ⟨403, .entry req.lang "ctf-not-captain"⟩)
      else
        let expiresAt := now + lifespan lifespanHours * 3600
        pure ⟨200, .invite (Jwt.generateInviteToken D.jwt team.id.val expiresAt D.jwtSecret)
          expiresAt⟩
    | _ => pure (LocalizedError.reply ⟨404, .entry req.lang "ctf-team-not-found"⟩)

/-- The cryptography of the invites: the secret is that of the sessions. -/
def Deployment.invites : InviteCrypto := Jwt.inviteCrypto D.jwt D.jwtSecret

/-- `join_team` -/
def Deployment.joinTeam (scripts : String → Option String) (token : String) (now : ℤ) :
    Serving Reply :=
  authenticated D req fun id => do
    let r ← onDatabase ((Cctf.joinTeam D.invites D.platform.engines "" scripts
      ⟨token, id, now⟩).lift .base fun _ r => r)
    pure ⟨r.status, r.message.elim .empty fun key => .error (.entry req.lang key)⟩

/-- `create_notification` -/
def Deployment.createNotification (id : String) (now : ℤ) (payload : AnnouncePayload) :
    Serving Reply :=
  administrator D req do
    let r ← onNotices (Cctf.createNotification D.platform req.lang D.evalFilter id now payload)
    pure (r.reply .notification)

/-! ## The router -/

/-- The viewer of a public endpoint. -/
def Deployment.viewer : Option AccountId := (D.user req).toOption

/-- **The router.** -/
def Deployment.handle : Serving Reply :=
  match req.endpoint with
  | .register salt fresh checkedAt username email password =>
    D.register req salt fresh checkedAt username email password
  | .login checkedAt username password now => D.login req checkedAt username password now
  | .oauthUrl => pure ⟨200, .url (getAuthorizeUrl D.clientId D.redirectUri)⟩
  | .oauthCallback ctftime rounds fresh code => D.oauthCallback req ctftime rounds fresh code
  | .listChallenges now => authenticated D req fun id => do
    let r ← onApp (Cctf.listChallenges D.platform ⟨id, req.lang, now⟩)
    pure (r.reply .challenges)
  | .createChallenge challenge => D.createChallenge req challenge
  | .getChallenge challengeId now => authenticated D req fun id => do
    let r ← onApp (Cctf.getChallenge D.platform ⟨id, req.lang, now⟩ challengeId)
    pure (r.reply .challenge)
  | .updateChallenge id challenge => D.updateChallenge req id challenge
  | .deleteChallenge id deleteSolves => D.deleteChallenge req id deleteSolves
  | .submitFlag submit => authenticated D req fun id => do
    let r ← onApp (Api.submitFlag D.platform
      { submit with user := id, ip := D.ip req, lang := req.lang })
    pure (r.reply .submission)
  | .unlockHint unlock => authenticated D req fun id => do
    let r ← onApp (Api.unlockHint D.platform { unlock with user := id, lang := req.lang })
    pure (r.reply .hint)
  | .uploadFile uuid fields now => D.uploadFile req uuid fields now
  | .downloadFile id => D.downloadFile req id
  | .scoreboard bracket => do
    match ← onApp (service (ScoreboardService.getScoreboard D.platform.engines D.scoreboard
      bracket)) with
    | .ok entries => pure ⟨200, .board entries⟩
    | .error e => pure (e.reply req.lang)
  | .exportScoreboard => do
    match ← onApp (service (ScoreboardService.exportCtftime D.platform.engines D.scoreboard)) with
    | .ok standings => pure ⟨200, .ctftimeExport standings⟩
    | .error e => pure (e.reply req.lang)
  | .createInvite teamId lifespanHours now => D.createInvite req teamId lifespanHours now
  | .joinTeam scripts token now => D.joinTeam req scripts token now
  | .listNotifications => do
    let r ← onNotices (Cctf.listNotifications D.platform req.lang (D.viewer req))
    pure (r.reply .notifications)
  | .createNotification id now payload => D.createNotification req id now payload
  | .notificationsStream => do
    let r ← onNotices (Cctf.notificationsStream D.platform req.lang (D.viewer req))
    pure (r.reply .stream)

end

/-! ## Routes -/

/-- `API_ROUTES` -/
def apiRoutes : List (String × String) :=
  [("POST", "/api/v1/auth/register"),
   ("POST", "/api/v1/auth/login"),
   ("GET", "/api/v1/auth/oauth/url"),
   ("GET", "/api/v1/auth/oauth/callback"),
   ("GET", "/api/v1/challenges"),
   ("POST", "/api/v1/challenges"),
   ("GET", "/api/v1/challenges/\x7bid\x7d"),
   ("PATCH", "/api/v1/challenges/\x7bid\x7d"),
   ("DELETE", "/api/v1/challenges/\x7bid\x7d"),
   ("POST", "/api/v1/challenges/\x7bid\x7d/submit"),
   ("POST", "/api/v1/challenges/\x7bid\x7d/hints/\x7bindex\x7d/unlock"),
   ("POST", "/api/v1/files"),
   ("GET", "/api/v1/files/\x7bid\x7d"),
   ("GET", "/api/v1/scoreboard"),
   ("GET", "/api/v1/scoreboard/export"),
   ("POST", "/api/v1/teams/invite"),
   ("POST", "/api/v1/teams/join"),
   ("GET", "/api/v1/notifications"),
   ("POST", "/api/v1/notifications"),
   ("GET", "/api/v1/notifications/stream")]

/-- The route of an endpoint in `create_router`. -/
def Endpoint.route : Endpoint → String × String
  | .register .. => ("POST", "/api/v1/auth/register")
  | .login .. => ("POST", "/api/v1/auth/login")
  | .oauthUrl => ("GET", "/api/v1/auth/oauth/url")
  | .oauthCallback .. => ("GET", "/api/v1/auth/oauth/callback")
  | .listChallenges .. => ("GET", "/api/v1/challenges")
  | .createChallenge .. => ("POST", "/api/v1/challenges")
  | .getChallenge .. => ("GET", "/api/v1/challenges/\x7bid\x7d")
  | .updateChallenge .. => ("PATCH", "/api/v1/challenges/\x7bid\x7d")
  | .deleteChallenge .. => ("DELETE", "/api/v1/challenges/\x7bid\x7d")
  | .submitFlag .. => ("POST", "/api/v1/challenges/\x7bid\x7d/submit")
  | .unlockHint .. => ("POST", "/api/v1/challenges/\x7bid\x7d/hints/\x7bindex\x7d/unlock")
  | .uploadFile .. => ("POST", "/api/v1/files")
  | .downloadFile .. => ("GET", "/api/v1/files/\x7bid\x7d")
  | .scoreboard .. => ("GET", "/api/v1/scoreboard")
  | .exportScoreboard => ("GET", "/api/v1/scoreboard/export")
  | .createInvite .. => ("POST", "/api/v1/teams/invite")
  | .joinTeam .. => ("POST", "/api/v1/teams/join")
  | .listNotifications => ("GET", "/api/v1/notifications")
  | .createNotification .. => ("POST", "/api/v1/notifications")
  | .notificationsStream => ("GET", "/api/v1/notifications/stream")

/-- Every route is listed. -/
theorem Endpoint.route_mem_apiRoutes (endpoint : Endpoint) : endpoint.route ∈ apiRoutes := by
  cases endpoint <;> simp [Endpoint.route, apiRoutes]

end Cctf

import Mathlib.Logic.Function.Basic
import Cctf.Services.Solve

/-!
# The application behind the handlers

A handler reads accounts, asks the rate limiter, calls services and broadcasts
notifications.  This file has the calls a handler makes, the state they work on, and
the responses they end in.

* `Locale`, `Localization` — the texts of the error messages.
* `AppOp`, `Api` — the calls of a handler; `service` runs a service computation as a
  part of a handler.
* `App` — the tables, the accounts, the rate limiter and the notifications sent so
  far; `App.handler` is how they answer.
* `run_service` — **a service call inside a handler is the service run on the tables**.
-/

namespace Cctf

open Program

/-! ## Messages -/

/-- The languages that have a directory under `locales`. -/
inductive Locale where
  | enUS
  | jaJP
  deriving DecidableEq, Repr

namespace Locale

/-- The entries of `errors.ftl` that the modelled handlers show. -/
def errors : Locale → List (String × String)
  | .enUS =>
    [("server-db-connection-failed", "Database connection failed"),
     ("ctf-challenge-not-found", "Challenge not found"),
     ("ctf-already-solved", "Challenge has already been solved"),
     ("ctf-hint-not-found", "Hint not found"),
     ("ctf-insufficient-points", "Not enough points to unlock this hint"),
     ("ctf-challenge-locked", "This challenge is locked"),
     ("ctf-max-attempts-reached", "No attempts remaining for this challenge"),
     ("ctf-requirements-not-met", "You must solve the prerequisite challenges first"),
     ("ctf-incorrect-flag", "Incorrect flag submitted"),
     ("ctf-rate-limit-exceeded", "Rate limit exceeded. Please try again later."),
     ("auth-not-logged-in", "User is not logged in"),
     ("auth-username-taken", "Username is already taken"),
     ("ctf-team-not-found", "Team not found")]
  | .jaJP =>
    [("server-db-connection-failed", "データベース接続に失敗しました"),
     ("ctf-challenge-not-found", "チャレンジが見つかりません"),
     ("ctf-already-solved", "このチャレンジはすでに解かれています"),
     ("ctf-hint-not-found", "ヒントが見つかりません"),
     ("ctf-insufficient-points", "このヒントを解放するにはポイントが足りません"),
     ("ctf-challenge-locked", "このチャレンジはロックされています"),
     ("ctf-max-attempts-reached", "挑戦回数の上限に達しました"),
     ("ctf-requirements-not-met", "先に前提となるチャレンジを解く必要があります"),
     ("ctf-incorrect-flag", "フラグが正しくありません"),
     ("ctf-rate-limit-exceeded", "リクエストが多すぎます。しばらくしてからもう一度お試しください。"),
     ("auth-not-logged-in", "ログインしていません"),
     ("auth-username-taken", "このユーザー名はすでに使われています"),
     ("ctf-team-not-found", "Team not found")]

/-- The text of a message without arguments. -/
def text (l : Locale) (key : String) : String :=
  (l.errors.lookup key).getD ("Unknown localization " ++ key)

end Locale

/-- What the `fluent-templates` and `unic-langid` crates decide. -/
structure Localization where
  /-- The language that serves a language tag; `en-US` when nothing else fits. -/
  negotiate : String → Locale
  /-- A message with its `reason` filled in. -/
  withReason : Locale → (key reason : String) → String

/-- `LOCALES.lookup`. -/
def Localization.lookup (L : Localization) (lang key : String) : String :=
  (L.negotiate lang).text key

/-- `RepoError::localize`. -/
def RepoError.localize (L : Localization) (lang : String) : RepoError → String
  | .connection _ => L.lookup lang "server-db-connection-failed"
  | .notFound => L.lookup lang "ctf-challenge-not-found"
  | .conflict key => L.lookup lang key
  | .internal reason => L.withReason (L.negotiate lang) "admin-db-internal-error" reason

/-- `ServiceError::localize`. -/
def ServiceError.localize (L : Localization) (lang : String) : ServiceError → String
  | .repo err => err.localize L lang
  | .unauthorized => L.lookup lang "auth-not-logged-in"
  | .invalidRequest key => L.lookup lang key
  | .rateLimitExceeded => L.lookup lang "ctf-rate-limit-exceeded"
  | .oauth reason => L.withReason (L.negotiate lang) "oauth-invalid-credentials" reason
  | .kube reason => L.withReason (L.negotiate lang) "kube-api-error" reason

/-! ## Responses -/

/-- A response: its status, and a JSON body that is an error message or a result. -/
structure Response (β : Type) where
  status : ℕ
  body : Except String β

/-- The status of `map_localized`. -/
def ServiceError.status : ServiceError → ℕ
  | .unauthorized => 401
  | .invalidRequest _ => 400
  | .oauth _ => 400
  | .repo _ => 500
  | .kube _ => 500
  | .rateLimitExceeded => 429

/-- `LocalizedError` as a response. -/
def Response.error {β : Type} (status : ℕ) (message : String) : Response β :=
  ⟨status, .error message⟩

/-- `map_localized`, as a response. -/
def ServiceError.response {β : Type} (L : Localization) (lang : String) (e : ServiceError) :
    Response β :=
  .error e.status (e.localize L lang)

/-- The response to the outcome of a service call. -/
def Response.ofService {β : Type} (L : Localization) (lang : String) (res : Except ServiceError β) :
    Response β :=
  match res with
  | .ok result => ⟨200, .ok result⟩
  | .error e => e.response L lang

/-! ## Notifications -/

/-- What a notification is about. -/
inductive NotificationKind where
  | announcement
  | solve
  | firstBlood
  deriving DecidableEq, Repr

/-- Whom a notification is for. -/
inductive NotificationTarget where
  | everyone
  | teams (ids : List TeamId)
  | accounts (ids : List AccountId)
  | filter (script : String)
  deriving DecidableEq, Repr

/-- A notification. -/
structure Notification where
  id : String
  kind : NotificationKind
  title : String
  message : String
  target : NotificationTarget
  createdAt : ℤ
  deriving DecidableEq, Repr

/-- Who may read notifications, and which events are broadcast. -/
structure NotificationConfig where
  requireAuth : Bool
  broadcastSolves : Bool
  broadcastFirstBloods : Bool
  deriving DecidableEq, Repr

/-- What the handlers are configured with. -/
structure Platform where
  engines : Engines
  localization : Localization
  hintDeductionMode : HintDeductionMode
  notifications : NotificationConfig

/-- A platform without engines that speaks English and announces every solve. -/
def Platform.plain : Platform where
  engines := .silent
  localization := ⟨fun _ => .enUS, fun _ _ reason => reason⟩
  hintDeductionMode := .none
  notifications := ⟨false, true, true⟩

/-! ## Calls -/

/-- The calls a handler makes. -/
inductive AppOp where
  | accountFindById (id : AccountId)
  | checkLimit (key : String) (limit : ℕ) (windowSecs now : ℤ)
  | repo (op : RepoOp)
  | broadcast (notification : Notification)

/-- What a call returns. -/
def AppOp.Resp : AppOp → Type
  | .accountFindById _ => Except RepoError (Option Account)
  | .checkLimit _ _ _ _ => Bool
  | .repo op => op.Resp
  | .broadcast _ => Unit

/-- A handler's computation. -/
abbrev Api (α : Type) : Type := Program AppOp AppOp.Resp α

/-- `AccountRepo::find_by_id`. -/
def findAccount (id : AccountId) : Api (Except RepoError (Option Account)) :=
  .call (.accountFindById id) .done

/-- `RateLimiter::check_limit`, with the time it reads. -/
def checkLimit (key : String) (limit : ℕ) (windowSecs now : ℤ) : Api Bool :=
  .call (.checkLimit key limit windowSecs now) .done

/-- A repository call. -/
def repoCall (op : RepoOp) : Api op.Resp := .call (.repo op) .done

/-- `NotificationService::broadcast`. -/
def broadcast (notification : Notification) : Api Unit := .call (.broadcast notification) .done

/-- A service call. -/
def service {α : Type} (m : Svc α) : Api (Except ServiceError α) :=
  Program.lift AppOp.repo (fun _ r => r) m.run

/-! ## The state -/

/-- The state behind the handlers. -/
structure App where
  /-- The tables of the services. -/
  tables : Store
  /-- The accounts. -/
  accounts : Table Account AccountId Account.id
  /-- The rate limiter: the times of the counted requests of each key. -/
  requests : String → List ℤ
  /-- The notifications sent, oldest first. -/
  sent : List Notification

namespace App

/-- The requests of a key that still count. -/
def recent (a : App) (key : String) (windowSecs now : ℤ) : List ℤ :=
  (a.requests key).filter fun ts => now - ts < windowSecs

/-- What the state answers to a call. -/
def answer (a : App) : (op : AppOp) → op.Resp
  | .accountFindById id => Except.ok (a.accounts.find? id)
  | .checkLimit key limit windowSecs now => decide ((a.recent key windowSecs now).length < limit)
  | .repo op => Except.ok (a.tables.read op)
  | .broadcast _ => ()

/-- What a call leaves of the state. -/
def next (a : App) : AppOp → App
  | .accountFindById _ => a
  | .checkLimit key limit windowSecs now =>
      let kept := a.recent key windowSecs now
      let times := if kept.length < limit then kept ++ [now] else kept
      { a with requests := Function.update a.requests key times }
  | .repo op => { a with tables := a.tables.write op }
  | .broadcast n => { a with sent := a.sent ++ [n] }

/-- A state all of whose repository calls succeed. -/
def handler : Handler AppOp AppOp.Resp App := ⟨answer, next⟩

/-- A state in which nobody has made a request. -/
def fresh (tables : Store) (accounts : Table Account AccountId Account.id) : App where
  tables := tables
  accounts := accounts
  requests := fun _ => []
  sent := []

end App

/-- Run a handler on its own. -/
def runApi {α : Type} (a : App) (p : Api α) : α × App := run App.handler a p

section Running

variable {α β : Type} (a : App)

@[simp] theorem runApi_pure (x : α) : runApi a (pure x) = (x, a) := rfl

theorem runApi_bind (p : Api α) (f : α → Api β) :
    runApi a (p >>= f) = runApi (runApi a p).2 (f (runApi a p).1) :=
  run_bind App.handler a p f

@[simp] theorem runApi_findAccount (id : AccountId) :
    runApi a (findAccount id) = (Except.ok (a.accounts.find? id), a) := rfl

@[simp] theorem runApi_repoCall (op : RepoOp) :
    runApi a (repoCall op) = (Except.ok (a.tables.read op),
      { a with tables := a.tables.write op }) := rfl

/-- **A service call inside a handler is the service run on the tables.** -/
theorem run_service (m : Svc α) :
    runApi a (service m) =
      ((runSvc a.tables m).1, { a with tables := (runSvc a.tables m).2 }) :=
  run_lift (H := Store.handler) App.tables (fun a t => { a with tables := t })
    (fun _ _ => rfl) (fun _ => rfl) (fun _ _ _ => rfl) (fun _ _ => rfl) (fun _ _ => rfl) a m.run

end Running

end Cctf

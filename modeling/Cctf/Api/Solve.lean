import Cctf.Api.App
import Cctf.Services.Scoreboard

/-!
# Submitting a flag

The `submit_flag` handler: the two rate limits, the account, the visibility of the
challenge, the service call, and the announcement of a solve.

* `escapeHtml`, `Api.maybeBroadcastSolve` — the announcement: a first blood when the
  rows hold one solver, a solve otherwise.
* `Api.submitFlag` — the handler.
* `Api.submitFlag_response` — **what it answers when it runs alone**.
-/

namespace Cctf

open Program

/-- A `submit_flag` request, with what the outside supplies while it is served: the
times the rate limiter reads, the id and the time of the row, and those of the
notification. -/
structure SubmitRequest where
  user : AccountId
  ip : String
  lang : String
  challengeId : String
  flag : String
  ipCheckedAt : ℤ
  accountCheckedAt : ℤ
  uuid : String
  submittedAt : ℤ
  notificationId : String
  notifiedAt : ℤ
  deriving DecidableEq, Repr

/-- `escape_html`. -/
def escapeHtml (s : String) : String :=
  Text.replace (Text.replace (Text.replace s "&" "&amp;") "<" "&lt;") ">" "&gt;"

/-- The distinct solvers of a challenge, as `maybe_broadcast_solve` collects them. -/
def broadcastSolvers (challengeId : String) (subs : List Submission) : Finset String :=
  ((subs.filter fun s => s.isCorrect && decide (s.challengeId = challengeId)).map
    teamOrAccountId).toFinset

/-- Do the rows hold at most one solver of the challenge? -/
def isFirstBlood (challengeId : String) (subs : List Submission) : Bool :=
  (broadcastSolvers challengeId subs).card ≤ 1

theorem broadcastSolvers_eq (challengeId : String) (subs : List Submission) :
    broadcastSolvers challengeId subs = solverIds challengeId subs := by
  simp only [broadcastSolvers, solverIds, correctOn, Bool.and_comm, teamOrAccountId_eq]

namespace Api

/-- The name a solver is announced by. -/
def solverName (submission : Submission) : Api String :=
  match submission.teamId with
  | some t => do
    let team := (← repoCall (.teamFindById t)).toOption.join
    pure ((team.map (·.name)).getD t.val)
  | none => do
    let account := (← findAccount submission.accountId).toOption.join
    pure ((account.map (·.username)).getD submission.accountId.val)

/-- The notification of a solve. -/
def solveNotification (firstBlood : Bool) (solver title id : String) (now : ℤ) : Notification where
  id := id
  kind := if firstBlood then .firstBlood else .solve
  title := if firstBlood then "First blood!" else "New solve"
  message := escapeHtml solver ++ " " ++
    (if firstBlood then "drew first blood on" else "solved") ++ " " ++ escapeHtml title
  target := .everyone
  createdAt := now

/-- The notification of a solve, with the names looked up. -/
def announceSolve (submission : Submission) (firstBlood : Bool) (id : String) (now : ℤ) :
    Api Unit := do
  let challenge := (← repoCall (.challengeFindById submission.challengeId)).toOption.join
  let title := (challenge.map (·.title)).getD submission.challengeId
  let solver ← solverName submission
  broadcast (solveNotification firstBlood solver title id now)

/-- `maybe_broadcast_solve`. -/
def maybeBroadcastSolve (cfg : NotificationConfig) (submission : Submission) (id : String)
    (now : ℤ) : Api Unit :=
  if !cfg.broadcastSolves && !cfg.broadcastFirstBloods then pure ()
  else do
    let subs := (← repoCall .submissionFindAll).toOption.getD []
    let firstBlood := isFirstBlood submission.challengeId subs
    let wanted := if firstBlood then cfg.broadcastFirstBloods else cfg.broadcastSolves
    if !wanted then pure () else announceSolve submission firstBlood id now

/-- May a player not submit to what a lookup found? -/
def refusesPlayers (found : Except RepoError (Option Challenge)) : Bool :=
  match found with
  | .ok (some c) => decide (c.visibility ≠ .visible)
  | _ => false

/-- The visibility check of `submit_flag`; administrators pass without a lookup. -/
def lockedFor (isAdmin : Bool) (challengeId : String) : Api Bool :=
  if isAdmin then pure false
  else do
    let found ← repoCall (.challengeFindById challengeId)
    pure (refusesPlayers found)

/-- The end of `submit_flag`: announce a stored submission, or answer the error. -/
def answerSubmission (P : Platform) (req : SubmitRequest) (res : Except ServiceError Submission) :
    Api (Response Submission) :=
  match res with
  | .ok submission => do
    maybeBroadcastSolve P.notifications submission req.notificationId req.notifiedAt
    pure ⟨200, .ok submission⟩
  | .error e => pure (e.response P.localization req.lang)

/-- The `submit_flag` handler. -/
def submitFlag (P : Platform) (req : SubmitRequest) : Api (Response Submission) := do
  if !(← checkLimit ("sub-ip:" ++ req.ip) 10 60 req.ipCheckedAt) then
    pure (.error 429 (ServiceError.rateLimitExceeded.localize P.localization req.lang))
  else if !(← checkLimit ("sub-acc:" ++ req.user.val) 10 60 req.accountCheckedAt) then
    pure (.error 429 (ServiceError.rateLimitExceeded.localize P.localization req.lang))
  else
    match ← findAccount req.user with
    | .ok (some account) => do
      if ← lockedFor (decide (account.role = .admin)) req.challengeId then
        pure (.error 403 (P.localization.lookup req.lang "ctf-challenge-locked"))
      else do
        let res ← service (SolveService.submitFlag P.engines req.challengeId account.teamId req.user
          req.flag req.ip req.uuid req.submittedAt)
        answerSubmission P req res
    | _ => pure (.error 401 (ServiceError.unauthorized.localize P.localization req.lang))

end Api

/-- Does the rate limiter let one more submission with a key pass? -/
def App.allows (a : App) (key : String) (now : ℤ) : Bool :=
  decide ((a.recent key 60 now).length < 10)

namespace Api

/-! ## The handler on its own -/

section

variable (P : Platform) (a : App) (req : SubmitRequest)

/-- The announcement does not touch the response. -/
theorem answerSubmission_response (res : Except ServiceError Submission) :
    (runApi a (answerSubmission P req res)).1 =
      .ofService P.localization req.lang res := by
  cases res with
  | ok submission =>
    rw [answerSubmission, runApi_bind]
    rfl
  | error e => rfl

theorem lockedFor_run (isAdmin : Bool) (challengeId : String) :
    runApi a (lockedFor isAdmin challengeId) =
      (!isAdmin && refusesPlayers (.ok (a.tables.challenges.find? challengeId)), a) := by
  cases isAdmin <;> rfl

/-- A check of the rate limiter answers for its key and leaves the other keys alone. -/
theorem checkLimit_run (key : String) (now : ℤ) :
    (runApi a (checkLimit key 10 60 now)).1 = a.allows key now ∧
      (runApi a (checkLimit key 10 60 now)).2.tables = a.tables ∧
      (runApi a (checkLimit key 10 60 now)).2.accounts = a.accounts ∧
      ∀ key' now', key' ≠ key →
        (runApi a (checkLimit key 10 60 now)).2.allows key' now' = a.allows key' now' := by
  refine ⟨rfl, rfl, rfl, fun key' now' hne => ?_⟩
  show decide (List.length (List.filter _ (Function.update a.requests key _ key')) < 10) = _
  rw [Function.update_of_ne hne]
  rfl

/-- The two limits count under different keys. -/
theorem limit_keys_ne (ip account : String) : "sub-acc:" ++ account ≠ "sub-ip:" ++ ip := by
  intro h
  have hchars := congrArg String.toList h
  simp at hchars

/-- **What a submission is answered**: the limits, the account, the visibility, and then
what the service says. -/
theorem submitFlag_response :
    (runApi a (submitFlag P req)).1 =
      if a.allows ("sub-ip:" ++ req.ip) req.ipCheckedAt &&
          a.allows ("sub-acc:" ++ req.user.val) req.accountCheckedAt then
        match a.accounts.find? req.user with
        | none => .error 401 (ServiceError.unauthorized.localize P.localization req.lang)
        | some account =>
          if !decide (account.role = .admin) &&
              refusesPlayers (.ok (a.tables.challenges.find? req.challengeId)) then
            .error 403 (P.localization.lookup req.lang "ctf-challenge-locked")
          else
            .ofService P.localization req.lang
              (runSvc a.tables (SolveService.submitFlag P.engines req.challengeId account.teamId
                req.user req.flag req.ip req.uuid req.submittedAt)).1
      else .error 429 (ServiceError.rateLimitExceeded.localize P.localization req.lang) := by
  obtain ⟨hip, htables, haccounts, hothers⟩ :=
    checkLimit_run a ("sub-ip:" ++ req.ip) req.ipCheckedAt
  rw [submitFlag, runApi_bind, hip]
  generalize (runApi a (checkLimit ("sub-ip:" ++ req.ip) 10 60 req.ipCheckedAt)).2 = b
    at htables haccounts hothers ⊢
  cases a.allows ("sub-ip:" ++ req.ip) req.ipCheckedAt with
  | false => rfl
  | true =>
    obtain ⟨hacc, htables', haccounts', -⟩ :=
      checkLimit_run b ("sub-acc:" ++ req.user.val) req.accountCheckedAt
    rw [hothers _ _ (limit_keys_ne _ _)] at hacc
    simp only [Bool.not_true, Bool.false_eq_true, if_false, Bool.true_and]
    rw [runApi_bind, hacc]
    generalize (runApi b (checkLimit ("sub-acc:" ++ req.user.val) 10 60
      req.accountCheckedAt)).2 = d at htables' haccounts' ⊢
    cases a.allows ("sub-acc:" ++ req.user.val) req.accountCheckedAt with
    | false => rfl
    | true =>
      simp only [Bool.not_true, Bool.false_eq_true, if_false, if_true]
      rw [runApi_bind, runApi_findAccount, haccounts', haccounts]
      cases a.accounts.find? req.user with
      | none => rfl
      | some account =>
        show (runApi d (lockedFor (decide (account.role = .admin)) req.challengeId >>= _)).1 = _
        rw [runApi_bind, lockedFor_run, htables', htables]
        dsimp only
        cases (!decide (account.role = .admin) &&
            refusesPlayers (.ok (a.tables.challenges.find? req.challengeId))) with
        | true => rfl
        | false =>
          show (runApi d (service _ >>= _)).1 = _
          rw [runApi_bind, run_service, htables', htables, answerSubmission_response]
          rfl

end

end Api

end Cctf

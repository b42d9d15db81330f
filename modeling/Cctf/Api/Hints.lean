import Cctf.Api.App
import Cctf.Services.Hint

/-!
# Unlocking a hint

The `unlock_hint` handler: the account, and then the service call with the team and the
rights of the account.

* `UnlockHintRequest` — a request.
* `Api.unlockHint` — the handler; `Api.unlockHint_response` is what it answers alone.
-/

namespace Cctf

open Program

/-- An `unlock_hint` request, with the time the handler reads and the id the service
draws. -/
structure UnlockHintRequest where
  user : AccountId
  lang : String
  challengeId : String
  hintIndex : UInt32
  now : ℤ
  uuid : String
  deriving DecidableEq, Repr

/-- The call of the service for an account. -/
def UnlockHintRequest.call (req : UnlockHintRequest) (account : Account) : UnlockRequest where
  challengeId := req.challengeId
  hintIndex := req.hintIndex
  teamId := account.teamId
  accountId := req.user
  now := req.now
  isAdmin := decide (account.role = .admin)
  uuid := req.uuid

/-- The `unlock_hint` handler. -/
def Api.unlockHint (P : Platform) (req : UnlockHintRequest) : Api (Response HintUnlockResult) := do
  match ← findAccount req.user with
  | .ok (some account) => do
    let res ← service (HintService.unlockHint P.engines P.hintDeductionMode (req.call account))
    pure (.ofService P.localization req.lang res)
  | _ => pure (.error 401 (ServiceError.unauthorized.localize P.localization req.lang))

/-- **What an unlock is answered.** -/
theorem Api.unlockHint_response (P : Platform) (a : App) (req : UnlockHintRequest) :
    (runApi a (unlockHint P req)).1 =
      match a.accounts.find? req.user with
      | none => .error 401 (ServiceError.unauthorized.localize P.localization req.lang)
      | some account =>
        .ofService P.localization req.lang
          (runSvc a.tables
            (HintService.unlockHint P.engines P.hintDeductionMode (req.call account))).1 := by
  rw [unlockHint, runApi_bind, runApi_findAccount]
  cases a.accounts.find? req.user with
  | none => rfl
  | some account =>
    show (runApi a (service _ >>= _)).1 = _
    rw [runApi_bind, run_service, runApi_pure]

end Cctf

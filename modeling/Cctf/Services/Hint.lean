import Cctf.Services.Scoreboard

/-!
# Hints

`HintService::unlock_hint`: who may unlock a hint, what it costs, and the gate
that refuses a hint the team cannot afford.

* `checkAccess`, `checkBalance` — the two refusals, in the source's order.
* `unlockHint` — the service call.
* `exec_unlockHint` — what an unlock does on any back end, up to its write.
* `runSvc_unlockHint` — **what an unlock does on its own**: the checks in their
  order, and the one row that a first unlock stores.
-/

namespace Cctf

open Program Rounding

/-- The outcome of an unlock. -/
structure HintUnlockResult where
  content : String
  cost : UInt32
  alreadyUnlocked : Bool
  deriving DecidableEq, Repr

/-- One `unlock_hint` call; `uuid` is the fresh id the source draws before it
saves. -/
structure UnlockRequest where
  challengeId : String
  hintIndex : UInt32
  teamId : Option TeamId
  accountId : AccountId
  now : ℤ
  isAdmin : Bool
  uuid : String
  deriving DecidableEq, Repr

namespace HintService

/-- The unlocks of a viewer: those of the team, or of the solo account. -/
def ownUnlocks (teamId : Option TeamId) (accountId : AccountId) (all : List HintUnlock) :
    List HintUnlock :=
  all.filter fun u =>
    match teamId with
    | some t => decide (u.teamId = some t)
    | none => u.teamId.isNone && decide (u.accountId = accountId)

/-- `HintService::viewer_unlocks`. -/
def viewerUnlocks (teamId : Option TeamId) (accountId : AccountId) : Svc (List HintUnlock) := do
  let all ← HintUnlockRepo.findAll
  pure (ownUnlocks teamId accountId all)

@[simp] theorem runSvc_viewerUnlocks (s : Store) (teamId : Option TeamId) (accountId : AccountId) :
    runSvc s (viewerUnlocks teamId accountId) =
      (.ok (ownUnlocks teamId accountId s.hintUnlocks), s) := rfl

/-- The ids of the challenges the team, or the solo account, has solved. -/
def solvedIds (teamId : Option TeamId) (accountId : AccountId) (subs : List Submission) :
    Finset String :=
  ((subs.filter fun s => s.isCorrect &&
    match teamId with
    | some t => decide (s.teamId = some t)
    | none => s.teamId.isNone && decide (s.accountId = accountId)).map (·.challengeId)).toFinset

/-- Why a caller may not unlock a hint of a challenge: it is not visible, or its
requirements are not met.  Administrators may. -/
def accessError (challenge : Challenge) (req : UnlockRequest) (allSubs : List Submission) :
    Option String :=
  if req.isAdmin then none
  else if challenge.visibility ≠ .visible then some "ctf-challenge-locked"
  else if !challenge.requirements.isEmpty &&
      !SolveService.requirementsMet challenge.requirements
        (solvedIds req.teamId req.accountId allSubs) then
    some "ctf-requirements-not-met"
  else none

/-- The authorization. -/
def checkAccess (challenge : Challenge) (req : UnlockRequest) (allSubs : List Submission) :
    Svc Unit :=
  match accessError challenge req allSubs with
  | some key => throw (.invalidRequest key)
  | none => pure ()

/-- The distinct solvers of a challenge, as `unlock_hint` collects them. -/
def solvers (challengeId : String) (allSubs : List Submission) : Finset String :=
  ((allSubs.filter fun s => decide (s.challengeId = challengeId) && s.isCorrect).map
    teamOrAccountId).toFinset

/-- Their number, which a scripted price may depend on. -/
def solves (challengeId : String) (allSubs : List Submission) : UInt32 :=
  wrapU32 (solvers challengeId allSubs).card

/-- What a hint costs now. -/
def costOf (E : Engines) (hint : ChallengeHint) (req : UnlockRequest) (allSubs : List Submission) :
    UInt32 :=
  hint.cost.evaluate E (solves req.challengeId allSubs) req.now

/-- The points a team has earned by solves. -/
def solvePoints (E : Engines) (team : Team) (challenges : List Challenge)
    (allSubs : List Submission) : ℤ :=
  (computeTeamSolveScore E team challenges allSubs (buildChallengeSolvers allSubs)).points

/-- The gate: a team may not unlock what it cannot afford. -/
def checkBalance (E : Engines) (mode : HintDeductionMode) (teamId : Option TeamId)
    (allSubs : List Submission) (cost : UInt32) : Svc Unit :=
  match mode, teamId with
  | .gate, some t => do
    match ← TeamRepo.findById t with
    | none => throw (.invalidRequest "ctf-team-not-found")
    | some team =>
      let challenges ← ChallengeRepo.findAll
      let allUnlocks ← HintUnlockRepo.findAll
      if solvePoints E team challenges allSubs - totalHintCost allUnlocks (some t) none <
          (cost.toNat : ℤ) then
        throw (.invalidRequest "ctf-insufficient-points")
      else pure ()
  | _, _ => pure ()

/-- The row a first unlock stores. -/
def newUnlock (req : UnlockRequest) (cost : UInt32) : HintUnlock where
  id := req.uuid
  challengeId := req.challengeId
  hintIndex := req.hintIndex
  teamId := req.teamId
  accountId := req.accountId
  cost := cost
  unlockedAt := req.now

/-- `HintService::unlock_hint`. -/
def unlockHint (E : Engines) (mode : HintDeductionMode) (req : UnlockRequest) :
    Svc HintUnlockResult := do
  match ← ChallengeRepo.findById req.challengeId with
  | none => throw (.invalidRequest "ctf-challenge-not-found")
  | some challenge =>
    let allSubs ← SubmissionRepo.findAll
    checkAccess challenge req allSubs
    match challenge.hints[req.hintIndex.toNat]? with
    | none => throw (.invalidRequest "ctf-hint-not-found")
    | some hint =>
      let existing ← HintUnlockRepo.findFor req.challengeId req.teamId req.accountId
      match existing.find? fun u => u.hintIndex = req.hintIndex with
      | some prior => pure ⟨hint.content, prior.cost, true⟩
      | none =>
        let cost := costOf E hint req allSubs
        checkBalance E mode req.teamId allSubs cost
        HintUnlockRepo.save (newUnlock req cost)
        pure ⟨hint.content, cost, false⟩

/-! ## An unlock on its own -/

section Spec

variable (E : Engines) (s : Store) (mode : HintDeductionMode) (req : UnlockRequest)

/-- Why the gate refuses a cost, if it does. -/
def gateError (cost : UInt32) : Option String :=
  match mode, req.teamId with
  | .gate, some t =>
    match s.teams.find? t with
    | none => some "ctf-team-not-found"
    | some team =>
      if solvePoints E team s.challenges.rows s.submissions -
          totalHintCost s.hintUnlocks (some t) none < (cost.toNat : ℤ) then
        some "ctf-insufficient-points"
      else none
  | _, _ => none

section Shown

variable {s} {σ : Type} {H : Handler RepoOp RepoOp.Resp σ} {x : σ}

theorem exec_checkAccess (challenge : Challenge) (allSubs : List Submission) :
    exec H x (checkAccess challenge req allSubs) =
      match accessError challenge req allSubs with
      | some key => (.error (.invalidRequest key), x)
      | none => (.ok (), x) := by
  unfold checkAccess
  cases accessError challenge req allSubs <;> rfl

theorem exec_checkBalance (h : Shows H x s) (cost : UInt32) :
    exec H x (checkBalance E mode req.teamId s.submissions cost) =
      match gateError E s mode req cost with
      | some key => (.error (.invalidRequest key), x)
      | none => (.ok (), x) := by
  unfold checkBalance gateError
  cases mode with
  | gate =>
    cases req.teamId with
    | none => rfl
    | some t =>
      have hteam : exec H x (TeamRepo.findById t) = (.ok (s.teams.find? t), x) := h.exec_ask rfl
      simp only
      rw [exec_bind, hteam]
      cases s.teams.find? t with
      | none => rfl
      | some team =>
        have hchallenges : exec H x ChallengeRepo.findAll = (.ok s.challenges.rows, x) :=
          h.exec_ask rfl
        have hunlocks : exec H x HintUnlockRepo.findAll = (.ok s.hintUnlocks, x) := h.exec_ask rfl
        simp only
        rw [exec_bind, hchallenges]
        simp only
        rw [exec_bind, hunlocks]
        simp only
        by_cases hshort : solvePoints E team s.challenges.rows s.submissions -
            totalHintCost s.hintUnlocks (some t) none < (cost.toNat : ℤ)
        · rw [if_pos hshort, if_pos hshort]
          rfl
        · rw [if_neg hshort, if_neg hshort]
          rfl
  | _ => rfl

/-- **What an unlock does, up to its write**: the checks in their order, on what the back
end shows; an unlock that repeats an earlier one costs nothing, and a first one is saved. -/
theorem exec_unlockHint (h : Shows H x s) :
    exec H x (unlockHint E mode req) =
      match s.challenges.find? req.challengeId with
      | none => (.error (.invalidRequest "ctf-challenge-not-found"), x)
      | some challenge =>
        match accessError challenge req s.submissions with
        | some key => (.error (.invalidRequest key), x)
        | none =>
          match challenge.hints[req.hintIndex.toNat]? with
          | none => (.error (.invalidRequest "ctf-hint-not-found"), x)
          | some hint =>
            match (Store.unlocksFor s.hintUnlocks req.challengeId req.teamId req.accountId).find?
                fun u => u.hintIndex = req.hintIndex with
            | some prior => (.ok ⟨hint.content, prior.cost, true⟩, x)
            | none =>
              match gateError E s mode req (costOf E hint req s.submissions) with
              | some key => (.error (.invalidRequest key), x)
              | none => exec H x (do
                  HintUnlockRepo.save (newUnlock req (costOf E hint req s.submissions))
                  pure ⟨hint.content, costOf E hint req s.submissions, false⟩) := by
  have hchallenge : exec H x (ChallengeRepo.findById req.challengeId) =
      (.ok (s.challenges.find? req.challengeId), x) := h.exec_ask rfl
  rw [unlockHint, exec_bind, hchallenge]
  cases s.challenges.find? req.challengeId with
  | none => rfl
  | some challenge =>
    have hsubs : exec H x SubmissionRepo.findAll = (.ok s.submissions, x) := h.exec_ask rfl
    simp only
    rw [exec_bind, hsubs]
    simp only
    rw [exec_bind, exec_checkAccess]
    cases accessError challenge req s.submissions with
    | some key => rfl
    | none =>
      simp only
      cases challenge.hints[req.hintIndex.toNat]? with
      | none => rfl
      | some hint =>
        have hown : exec H x (HintUnlockRepo.findFor req.challengeId req.teamId req.accountId) =
            (.ok (Store.unlocksFor s.hintUnlocks req.challengeId req.teamId req.accountId), x) :=
          h.exec_ask rfl
        simp only
        rw [exec_bind, hown]
        simp only
        cases (Store.unlocksFor s.hintUnlocks req.challengeId req.teamId req.accountId).find?
            fun u => u.hintIndex = req.hintIndex with
        | some prior => rfl
        | none =>
          simp only
          rw [exec_bind, exec_checkBalance E mode req h]
          cases gateError E s mode req (costOf E hint req s.submissions) with
          | some key => rfl
          | none => rfl

end Shown

/-- **What an unlock does.**  The checks in their order; an unlock that repeats
an earlier one costs nothing, and a first one stores its row. -/
theorem runSvc_unlockHint :
    runSvc s (unlockHint E mode req) =
      match s.challenges.find? req.challengeId with
      | none => (.error (.invalidRequest "ctf-challenge-not-found"), s)
      | some challenge =>
        match accessError challenge req s.submissions with
        | some key => (.error (.invalidRequest key), s)
        | none =>
          match challenge.hints[req.hintIndex.toNat]? with
          | none => (.error (.invalidRequest "ctf-hint-not-found"), s)
          | some hint =>
            match (Store.unlocksFor s.hintUnlocks req.challengeId req.teamId req.accountId).find?
                fun u => u.hintIndex = req.hintIndex with
            | some prior => (.ok ⟨hint.content, prior.cost, true⟩, s)
            | none =>
              match gateError E s mode req (costOf E hint req s.submissions) with
              | some key => (.error (.invalidRequest key), s)
              | none => (.ok ⟨hint.content, costOf E hint req s.submissions, false⟩,
                  s.addUnlock (newUnlock req (costOf E hint req s.submissions))) :=
  exec_unlockHint E mode req s.shows

end Spec

end HintService

end Cctf

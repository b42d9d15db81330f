import Cctf.Library.Grouping
import Cctf.Repos.Traits

/-!
# Flag submission

`SolveService::submit_flag`: the checks a submission passes, what it is awarded,
and what is stored of it.

* `calculateDynamicPoints`, `decayedPoints` — the value of a challenge at a
  solve count.
* `submitFlag` — the service call, step by step as in the source.
* `runSvc_submitFlag` — **what a call does, in one equation**: the checks in
  their order, each with its error, and the one row a call that passes them
  stores.  Everything else about submissions is derived from it.
* `runSvc_submitFlag_ok` — the case of a call that returns `Ok`, taken apart.
-/

namespace Cctf

open Rounding

/-! ## The value of a challenge -/

/-- `calculate_dynamic_points`, in exact arithmetic.  With `decay = 0` the float
quotient `x² / d²` is infinite, so the ratio is zero. -/
def calculateDynamicPoints (initial minimum decay solveCount : UInt32) : UInt32 :=
  if solveCount ≤ 1 then initial
  else
    let x : ℚ := ((solveCount - 1).toNat : ℚ)
    let d : ℚ := (decay.toNat : ℚ)
    let ratio : ℚ := if decay = 0 then 0 else 1 / (1 + x * x / (d * d))
    let points : ℚ := ((initial.toNat : ℚ) - minimum.toNat) * ratio + minimum.toNat
    saturateU32 (roundHalfAway points)

/-- The value of a challenge at a solve count: the configured number, or the
decay curve. -/
def decayedPoints (points : ChallengePoints) (solveCount : UInt32) : UInt32 :=
  match points.mode with
  | .pointValue => (Text.parseU32 points.equation).getD 100
  | .pointAttribution => (Text.parseU32 points.equation).getD 100
  | .dynamicDecay initial minimum decay =>
      calculateDynamicPoints initial minimum decay solveCount

/-- The share of a value that a part of a `Multi` flag earns, before any cast. -/
def partialValue (value : UInt32) (weight : ℚ) : ℤ := roundHalfAway ((value.toNat : ℚ) * weight)

/-! ## The pieces of `submit_flag` -/

namespace SolveService

/-- The submissions of a team, or everyone's for a solo account. -/
def submissionsOf (teamId : Option TeamId) : Svc (List Submission) :=
  match teamId with
  | some t => SubmissionRepo.findByTeam t
  | none => SubmissionRepo.findAll

/-- The rows among `subs` that belong to the submitter: all of them when they
were read for a team, the account's otherwise. -/
def isOwn (teamId : Option TeamId) (accountId : AccountId) (s : Submission) : Bool :=
  teamId.isSome || decide (s.accountId = accountId)

/-- How many attempts the earlier submissions count for. -/
def attemptCount (mode : AttemptCountMode) (prior : List Submission) : UInt32 :=
  wrapU32 <|
    match mode with
    | .all => prior.length
    | .incorrectOnly => (prior.filter fun s => !s.isCorrect).length
    | .unique => (prior.map fun s => Text.trim s.providedFlag).toFinset.card
    | .uniqueIncorrect =>
        ((prior.filter fun s => !s.isCorrect).map fun s => Text.trim s.providedFlag).toFinset.card

/-- The attempts of the submitter on a challenge, counted in a mode. -/
def attempts (mode : AttemptCountMode) (challengeId : String) (teamId : Option TeamId)
    (accountId : AccountId) (all : List Submission) : UInt32 :=
  attemptCount mode
    (all.filter fun s => decide (s.challengeId = challengeId) && isOwn teamId accountId s)

/-- The attempt limit. -/
def checkAttempts (challenge : Challenge) (challengeId : String) (teamId : Option TeamId)
    (accountId : AccountId) : Svc Unit :=
  match challenge.maxAttempts with
  | none => pure ()
  | some limitCfg => do
    let all ← submissionsOf teamId
    if limitCfg.limit ≤ attempts limitCfg.mode challengeId teamId accountId all then
      throw (.invalidRequest "ctf-max-attempts-reached")
    else pure ()

/-- The ids of the challenges the submitter has a correct submission on. -/
def solvedIds (teamId : Option TeamId) (accountId : AccountId) (subs : List Submission) :
    Finset String :=
  ((subs.filter fun s => s.isCorrect && isOwn teamId accountId s).map (·.challengeId)).toFinset

/-- Are all requirements among the solved challenges? -/
def requirementsMet (requirements : List ChallengeRequirement) (solved : Finset String) : Bool :=
  requirements.all fun req => match req with | .solve id => decide (id ∈ solved)

/-- The prerequisites. -/
def checkRequirements (challenge : Challenge) (teamId : Option TeamId) (accountId : AccountId) :
    Svc Unit :=
  if challenge.requirements.isEmpty then pure ()
  else do
    let subs ← submissionsOf teamId
    if requirementsMet challenge.requirements (solvedIds teamId accountId subs) then pure ()
    else throw (.invalidRequest "ctf-requirements-not-met")

/-- Is the submitted flag right? -/
def flagIsCorrect (E : Engines) (flag : FlagValidator) (submittedFlag : String)
    (activeFlag : Option String) : Bool :=
  if flag.isMulti then (flag.findMatchingPartial E submittedFlag activeFlag).isSome
  else flag.isMatch E submittedFlag activeFlag

/-- The correct submissions of the submitter on a challenge. -/
def existingCorrectSubs (challengeId : String) (teamId : Option TeamId) (accountId : AccountId)
    (subs : List Submission) : List Submission :=
  subs.filter fun s => decide (s.challengeId = challengeId) && isOwn teamId accountId s && s.isCorrect

/-- Does a correct flag repeat what the submitter has already solved?  A part of
a `Multi` flag is repeated when its validator accepts any earlier flag; a
consensus challenge is solved once per account; any other once. -/
def alreadySolved (E : Engines) (challenge : Challenge) (matchedPartial : Option PartialFlag)
    (activeFlag : Option String) (accountId : AccountId) (existing : List Submission) : Bool :=
  match matchedPartial with
  | some pf => existing.any fun s => pf.validator.isMatch E s.providedFlag activeFlag
  | none =>
    if challenge.teamConsensus then existing.any fun s => s.accountId = accountId
    else !existing.isEmpty

/-- The refusal of a repeated solve. -/
def checkNotSolved (isCorrect solved : Bool) : Svc Unit :=
  if isCorrect && solved then throw (.invalidRequest "ctf-already-solved") else pure ()

/-- The team a correct submission on the challenge is filed under. -/
def solvingTeam (challengeId : String) (s : Submission) : Option TeamId :=
  if s.challengeId = challengeId ∧ s.isCorrect = true then s.teamId else none

/-- The accounts with a correct submission for each team, as a map. -/
def teamSolves (challengeId : String) (allSubs : List Submission) :
    AList fun _ : TeamId => List AccountId :=
  Grouping.collect (solvingTeam challengeId) [] (fun s userIds => userIds ++ [s.accountId]) allSubs

/-- Has the team solved, given the accounts of it that did? -/
def reachedConsensus (teamConsensus : Bool) (team : Team) (userIds : List AccountId) : Bool :=
  if teamConsensus then !team.memberIds.isEmpty && team.memberIds.all fun m => decide (m ∈ userIds)
  else !userIds.isEmpty

/-- The loop over the map, looking every team up. -/
def countFullSolveTeams (teamConsensus : Bool) :
    List (Sigma fun _ : TeamId => List AccountId) → UInt32 → Svc UInt32
  | [], n => pure n
  | ⟨t, userIds⟩ :: rest, n => do
    match ← TeamRepo.tryFindById t with
    | some (some team) =>
        countFullSolveTeams teamConsensus rest
          (if reachedConsensus teamConsensus team userIds then n + 1 else n)
    | _ => countFullSolveTeams teamConsensus rest n

/-- The accounts with a correct submission on a challenge, team members
included. -/
def solverAccounts (challengeId : String) (allSubs : List Submission) : Finset AccountId :=
  ((allSubs.filter fun s => decide (s.challengeId = challengeId) && s.isCorrect).map
    (·.accountId)).toFinset

/-- How many have solved the challenge so far: full teams for a team, accounts
for a solo account. -/
def solveCount (challenge : Challenge) (challengeId : String) (teamId : Option TeamId)
    (allSubs : List Submission) : Svc UInt32 :=
  match teamId with
  | some _ =>
      countFullSolveTeams challenge.teamConsensus (teamSolves challengeId allSubs).entries 0
  | none => pure (wrapU32 (solverAccounts challengeId allSubs).card)

/-- Does this submission complete its team? -/
def completesTeam (team : Team) (accountId : AccountId) (existing : List Submission) : Bool :=
  team.memberIds.all fun m => decide (m = accountId) || existing.any fun s => s.accountId = m

/-- Does this submission add a solver? -/
def reachesConsensus (challenge : Challenge) (teamId : Option TeamId) (accountId : AccountId)
    (existing : List Submission) : Svc Bool :=
  match teamId with
  | some t =>
      if challenge.teamConsensus then do
        match ← TeamRepo.tryFindById t with
        | some (some team) => pure (completesTeam team accountId existing)
        | _ => pure false
      else pure existing.isEmpty
  | none => pure true

/-- What a submission earns. -/
def pointsAwarded (points : ChallengePoints) (matchedPartial : Option PartialFlag)
    (isCorrect : Bool) (nextSolveCount : UInt32) : UInt32 :=
  if isCorrect then
    let basePoints := decayedPoints points (max nextSolveCount 1)
    match matchedPartial with
    | some pf => saturateU32 (partialValue basePoints pf.weight)
    | none => basePoints
  else 0

/-! ## The service call -/

/-- `SolveService::submit_flag`; `uuid` and `now` are the fresh id and the time
the source draws right before it saves. -/
def submitFlag (E : Engines) (challengeId : String) (teamId : Option TeamId)
    (accountId : AccountId) (submittedFlag submittedIp uuid : String) (now : ℤ) :
    Svc Submission := do
  match ← ChallengeRepo.findById challengeId with
  | none => throw (.invalidRequest "ctf-challenge-not-found")
  | some challenge =>
    checkAttempts challenge challengeId teamId accountId
    checkRequirements challenge teamId accountId
    let activeFlag ← ChallengeRepo.findActiveFlag challengeId teamId accountId
    let matchedPartial := challenge.flag.findMatchingPartial E submittedFlag activeFlag
    let isCorrect := flagIsCorrect E challenge.flag submittedFlag activeFlag
    let subs ← submissionsOf teamId
    let existing := existingCorrectSubs challengeId teamId accountId subs
    checkNotSolved isCorrect
      (alreadySolved E challenge matchedPartial activeFlag accountId existing)
    let allSubs ← SubmissionRepo.findAll
    let count ← solveCount challenge challengeId teamId allSubs
    let reaches ← reachesConsensus challenge teamId accountId existing
    let nextSolveCount := if reaches then count + 1 else count
    let submission : Submission :=
      { id := uuid
        challengeId := challengeId
        teamId := teamId
        accountId := accountId
        points := pointsAwarded challenge.points matchedPartial isCorrect nextSolveCount
        providedFlag := submittedFlag
        isCorrect := isCorrect
        submittedAt := now
        submittedIp := submittedIp }
    SubmissionRepo.save submission
    if isCorrect then pure submission else throw (.invalidRequest "ctf-incorrect-flag")

/-! ## The pieces, run against the tables -/

section Spec

variable (s : Store) (challenge : Challenge) (challengeId : String) (teamId : Option TeamId)
  (accountId : AccountId)

/-- The rows `submissionsOf` reads. -/
def ownRows : List Submission :=
  match teamId with
  | some t => s.submissions.filter fun sub => sub.teamId = some t
  | none => s.submissions

@[simp] theorem runSvc_submissionsOf :
    runSvc s (submissionsOf teamId) = (.ok (ownRows s teamId), s) := by
  cases teamId <;> rfl

/-- Has the submitter used up the attempts? -/
def attemptsExhausted : Bool :=
  match challenge.maxAttempts with
  | none => false
  | some limitCfg =>
      decide (limitCfg.limit ≤
        attempts limitCfg.mode challengeId teamId accountId (ownRows s teamId))

theorem runSvc_checkAttempts :
    runSvc s (checkAttempts challenge challengeId teamId accountId) =
      if attemptsExhausted s challenge challengeId teamId accountId then
        (.error (.invalidRequest "ctf-max-attempts-reached"), s)
      else (.ok (), s) := by
  unfold checkAttempts attemptsExhausted
  cases challenge.maxAttempts with
  | none => rfl
  | some limitCfg =>
    simp only
    rw [runSvc_bind_ok s (runSvc_submissionsOf s teamId)]
    by_cases h : limitCfg.limit ≤ attempts limitCfg.mode challengeId teamId accountId
        (ownRows s teamId)
    · rw [if_pos h, if_pos (by simpa using h)]
      rfl
    · rw [if_neg h, if_neg (by simpa using h)]
      rfl

/-- Does the submitter meet the requirements? -/
def meetsRequirements : Bool :=
  challenge.requirements.isEmpty ||
    requirementsMet challenge.requirements (solvedIds teamId accountId (ownRows s teamId))

theorem runSvc_checkRequirements :
    runSvc s (checkRequirements challenge teamId accountId) =
      if meetsRequirements s challenge teamId accountId then (.ok (), s)
      else (.error (.invalidRequest "ctf-requirements-not-met"), s) := by
  unfold checkRequirements meetsRequirements
  cases hreq : challenge.requirements.isEmpty with
  | true => rfl
  | false =>
    simp only [Bool.false_eq_true, if_false, Bool.false_or]
    rw [runSvc_bind_ok s (runSvc_submissionsOf s teamId)]
    split <;> rfl

/-- Does the table know the team, and has it solved? -/
def teamReached (teamConsensus : Bool) (e : Sigma fun _ : TeamId => List AccountId) : Bool :=
  match s.teams.find? e.1 with
  | some team => reachedConsensus teamConsensus team e.2
  | none => false

/-- The loop counts the entries whose team has solved. -/
theorem runSvc_countFullSolveTeams (teamConsensus : Bool)
    (es : List (Sigma fun _ : TeamId => List AccountId)) (n : UInt32) :
    runSvc s (countFullSolveTeams teamConsensus es n) =
      (.ok (n + wrapU32 (es.filter (teamReached s teamConsensus)).length), s) := by
  induction es generalizing n with
  | nil => simp [countFullSolveTeams, wrapU32]
  | cons e rest ih =>
    obtain ⟨t, userIds⟩ := e
    rw [countFullSolveTeams, runSvc_bind_ok s (TeamRepo.exec_tryFindById s t)]
    cases hteam : s.teams.find? t with
    | none =>
      have hskip : teamReached s teamConsensus ⟨t, userIds⟩ = false := by
        simp [teamReached, hteam]
      rw [List.filter_cons_of_neg (by simp [hskip])]
      exact ih n
    | some team =>
      have hreach : teamReached s teamConsensus ⟨t, userIds⟩ =
          reachedConsensus teamConsensus team userIds := by
        simp [teamReached, hteam]
      simp only
      rw [ih]
      by_cases h : reachedConsensus teamConsensus team userIds = true
      · rw [if_pos h, List.filter_cons_of_pos (by rw [hreach, h]), List.length_cons, wrapU32,
          wrapU32, UInt32.ofNat_add, UInt32.add_assoc]
        simp [UInt32.add_comm]
      · rw [if_neg h, List.filter_cons_of_neg (by rw [hreach]; exact h)]

/-- How many full teams the loop over the map finds. -/
def fullSolveTeams : ℕ :=
  ((teamSolves challengeId s.submissions).entries.filter
    (teamReached s challenge.teamConsensus)).length

/-- The solve count before the submission. -/
def solveCountOf : UInt32 :=
  match teamId with
  | some _ => wrapU32 (fullSolveTeams s challenge challengeId)
  | none => wrapU32 (solverAccounts challengeId s.submissions).card

theorem runSvc_solveCount :
    runSvc s (solveCount challenge challengeId teamId s.submissions) =
      (.ok (solveCountOf s challenge challengeId teamId), s) := by
  cases teamId with
  | none => rfl
  | some t =>
    rw [solveCount, runSvc_countFullSolveTeams, UInt32.zero_add]
    rfl

/-- Whether the submission counts as one more solver. -/
def reachesOf (existing : List Submission) : Bool :=
  match teamId with
  | some t =>
      if challenge.teamConsensus then
        match s.teams.find? t with
        | some team => completesTeam team accountId existing
        | none => false
      else existing.isEmpty
  | none => true

theorem runSvc_reachesConsensus (existing : List Submission) :
    runSvc s (reachesConsensus challenge teamId accountId existing) =
      (.ok (reachesOf s challenge teamId accountId existing), s) := by
  unfold reachesConsensus reachesOf
  cases teamId with
  | none => rfl
  | some t =>
    cases challenge.teamConsensus with
    | false => rfl
    | true =>
      simp only [if_true]
      rw [runSvc_bind_ok s (TeamRepo.exec_tryFindById s t)]
      cases s.teams.find? t with
      | none => rfl
      | some team => rfl

/-- The correct rows of the submitter on the challenge. -/
def ownCorrect : List Submission :=
  existingCorrectSubs challengeId teamId accountId (ownRows s teamId)

/-- The solve count the award is computed at. -/
def nextSolveCount : UInt32 :=
  if reachesOf s challenge teamId accountId (ownCorrect s challengeId teamId accountId) then
    solveCountOf s challenge challengeId teamId + 1
  else solveCountOf s challenge challengeId teamId

variable (E : Engines) (submittedFlag submittedIp uuid : String) (now : ℤ)

/-- The part of the flag the submission matches. -/
def matchedPart : Option PartialFlag :=
  challenge.flag.findMatchingPartial E submittedFlag (s.activeFlag challengeId teamId accountId)

/-- The verdict on the flag. -/
def verdict : Bool :=
  flagIsCorrect E challenge.flag submittedFlag (s.activeFlag challengeId teamId accountId)

/-- Does the submission repeat a solve? -/
def repeatsSolve : Bool :=
  alreadySolved E challenge (matchedPart s challenge challengeId teamId accountId E submittedFlag)
    (s.activeFlag challengeId teamId accountId) accountId (ownCorrect s challengeId teamId accountId)

/-- The row a submission that passes the checks leaves. -/
def newSubmission : Submission where
  id := uuid
  challengeId := challengeId
  teamId := teamId
  accountId := accountId
  points := pointsAwarded challenge.points
    (matchedPart s challenge challengeId teamId accountId E submittedFlag)
    (verdict s challenge challengeId teamId accountId E submittedFlag)
    (nextSolveCount s challenge challengeId teamId accountId)
  providedFlag := submittedFlag
  isCorrect := verdict s challenge challengeId teamId accountId E submittedFlag
  submittedAt := now
  submittedIp := submittedIp

/-- **What a submission does.**  The checks in their order; a submission that
passes them is stored, and answered by its verdict. -/
theorem runSvc_submitFlag :
    runSvc s (submitFlag E challengeId teamId accountId submittedFlag submittedIp uuid now) =
      match s.challenges.find? challengeId with
      | none => (.error (.invalidRequest "ctf-challenge-not-found"), s)
      | some challenge =>
        if attemptsExhausted s challenge challengeId teamId accountId then
          (.error (.invalidRequest "ctf-max-attempts-reached"), s)
        else if meetsRequirements s challenge teamId accountId = false then
          (.error (.invalidRequest "ctf-requirements-not-met"), s)
        else if verdict s challenge challengeId teamId accountId E submittedFlag &&
            repeatsSolve s challenge challengeId teamId accountId E submittedFlag then
          (.error (.invalidRequest "ctf-already-solved"), s)
        else
          let sub := newSubmission s challenge challengeId teamId accountId E submittedFlag
            submittedIp uuid now
          (if sub.isCorrect then .ok sub else .error (.invalidRequest "ctf-incorrect-flag"),
            s.addSubmission sub) := by
  rw [submitFlag, runSvc_bind_ok s (ChallengeRepo.exec_findById s challengeId)]
  cases s.challenges.find? challengeId with
  | none => rfl
  | some challenge =>
    simp only
    have hattempts := runSvc_checkAttempts s challenge challengeId teamId accountId
    have hreq := runSvc_checkRequirements s challenge teamId accountId
    split at hattempts
    · rw [runSvc_bind_error s hattempts, if_pos ‹_›]
    rw [runSvc_bind_ok s hattempts, if_neg ‹_›]
    split at hreq
    · rename_i hmeets
      rw [runSvc_bind_ok s hreq, if_neg (by simp [hmeets]),
        runSvc_bind_ok s (ChallengeRepo.exec_findActiveFlag s challengeId teamId accountId),
        runSvc_bind_ok s (runSvc_submissionsOf s teamId)]
      by_cases hdup : (verdict s challenge challengeId teamId accountId E submittedFlag &&
          repeatsSolve s challenge challengeId teamId accountId E submittedFlag) = true
      · rw [if_pos hdup]
        have hcheck : runSvc s (checkNotSolved
            (verdict s challenge challengeId teamId accountId E submittedFlag)
            (repeatsSolve s challenge challengeId teamId accountId E submittedFlag)) =
              (.error (.invalidRequest "ctf-already-solved"), s) := by
          rw [checkNotSolved, if_pos hdup]
          rfl
        exact runSvc_bind_error s hcheck
      · rw [if_neg hdup]
        have hcheck : runSvc s (checkNotSolved
            (verdict s challenge challengeId teamId accountId E submittedFlag)
            (repeatsSolve s challenge challengeId teamId accountId E submittedFlag)) =
              (.ok (), s) := by
          rw [checkNotSolved, if_neg hdup]
          rfl
        refine (runSvc_bind_ok s hcheck).trans ?_
        rw [runSvc_bind_ok s (SubmissionRepo.exec_findAll s),
          runSvc_bind_ok s (runSvc_solveCount s challenge challengeId teamId),
          runSvc_bind_ok s (runSvc_reachesConsensus s challenge teamId accountId _)]
        refine (runSvc_bind_ok s (SubmissionRepo.exec_save s _)).trans ?_
        show runSvc _ (if verdict s challenge challengeId teamId accountId E submittedFlag = true
            then pure (newSubmission s challenge challengeId teamId accountId E submittedFlag
              submittedIp uuid now)
            else throw (.invalidRequest "ctf-incorrect-flag")) =
          (if verdict s challenge challengeId teamId accountId E submittedFlag = true
            then .ok (newSubmission s challenge challengeId teamId accountId E submittedFlag
              submittedIp uuid now)
            else .error (.invalidRequest "ctf-incorrect-flag"), _)
        cases verdict s challenge challengeId teamId accountId E submittedFlag <;> rfl
    · rename_i hmeets
      rw [runSvc_bind_error s hreq, if_pos (by simpa using hmeets)]

/-- **A call that returns `Ok`**: the challenge exists, the checks passed, the
flag was right and not a repetition, and exactly the returned row was stored. -/
theorem runSvc_submitFlag_ok {sub : Submission} {s' : Store}
    (h : runSvc s (submitFlag E challengeId teamId accountId submittedFlag submittedIp uuid now) =
      (.ok sub, s')) :
    ∃ challenge, s.challenges.find? challengeId = some challenge ∧
      attemptsExhausted s challenge challengeId teamId accountId = false ∧
      meetsRequirements s challenge teamId accountId = true ∧
      verdict s challenge challengeId teamId accountId E submittedFlag = true ∧
      repeatsSolve s challenge challengeId teamId accountId E submittedFlag = false ∧
      sub = newSubmission s challenge challengeId teamId accountId E submittedFlag submittedIp
        uuid now ∧
      s' = s.addSubmission sub := by
  rw [runSvc_submitFlag] at h
  cases hc : s.challenges.find? challengeId with
  | none => simp [hc] at h
  | some challenge =>
    simp only [hc] at h
    split at h
    · simp at h
    split at h
    · simp at h
    split at h
    · simp at h
    rename_i hattempts hmeets hdup
    split at h
    · rename_i hcorrect
      obtain ⟨rfl, rfl⟩ : _ = sub ∧ _ = s' := by simpa using h
      have hverdict : verdict s challenge challengeId teamId accountId E submittedFlag = true :=
        hcorrect
      exact ⟨challenge, rfl, by simpa using hattempts, by simpa using hmeets, hverdict,
        by simpa [hverdict] using hdup, rfl, rfl⟩
    · simp at h

end Spec

end SolveService

end Cctf

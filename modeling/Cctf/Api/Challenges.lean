import Cctf.Api.App
import Cctf.Services.Hint

/-!
# Challenge views

`list_challenges` and `get_challenge`: what a player sees of a challenge.  A challenge
that is locked, or whose requirements the viewer has not met, is shown through a
`LockedReveal`, which blanks the fields it does not reveal.

* `toPublicChallenge` — the view of one challenge.
* `listChallenges`, `getChallenge` — the two handlers, each computing the view's inputs
  as the source does.
* `effectiveReveal`, `viewOf` — what both compute for a challenge.
* `run_listChallenges`, `run_getChallenge` — **the responses, in terms of `viewOf`**.
-/

namespace Cctf

open Program Rounding

/-! ## Records -/

/-- A hint as players see it. -/
structure PublicHint where
  cost : UInt32
  unlocked : Bool
  content : Option String
  deriving DecidableEq, Repr

/-- A challenge as players see it. -/
structure PublicChallenge where
  id : String
  title : String
  description : String
  category : String
  points : Option UInt32
  tags : List String
  files : List ChallengeFile
  hints : List PublicHint
  requirements : List ChallengeRequirement
  connectionInfo : Option String
  solved : Bool
  locked : Bool
  deriving DecidableEq, Repr

/-! ## The pieces of the handlers -/

/-- `challenge_solve_counts`: the distinct correct solvers of each challenge. -/
def challengeSolveCounts (submissions : List Submission) :
    AList fun _ : String => Finset String :=
  Grouping.collect (fun s => if s.isCorrect then some s.challengeId else none) ∅
    (fun s counts => insert (teamOrAccountId s) counts) submissions

/-- They are those of `build_challenge_solvers`. -/
theorem challengeSolveCounts_eq (submissions : List Submission) :
    challengeSolveCounts submissions = buildChallengeSolvers submissions := by
  simp only [challengeSolveCounts, buildChallengeSolvers, teamOrAccountId_eq]

/-- `current_points`. -/
def currentPoints (challenge : Challenge) (solveCount : UInt32) : UInt32 :=
  match challenge.points.mode with
  | .pointValue => (Text.parseU32 challenge.points.equation).getD 100
  | .pointAttribution => (Text.parseU32 challenge.points.equation).getD 100
  | .dynamicDecay initial minimum decay =>
      calculateDynamicPoints initial minimum decay (max solveCount 1)

/-- Is the row a correct one of the viewer: of the team, or of the account when it has
none? -/
def isViewerSolve (viewerTeam : Option TeamId) (viewerAccount : AccountId) (s : Submission) :
    Bool :=
  s.isCorrect &&
    match viewerTeam with
    | some team => decide (s.teamId = some team)
    | none => decide (s.accountId = viewerAccount)

/-- `challenge_solved_by`. -/
def challengeSolvedBy (challengeId : String) (submissions : List Submission)
    (viewerTeam : Option TeamId) (viewerAccount : AccountId) : Bool :=
  submissions.any fun s =>
    decide (s.challengeId = challengeId) && isViewerSolve viewerTeam viewerAccount s

/-- `viewer_solved_ids`. -/
def viewerSolvedIds (submissions : List Submission) (viewerTeam : Option TeamId)
    (viewerAccount : AccountId) : Finset String :=
  ((submissions.filter (isViewerSolve viewerTeam viewerAccount)).map (·.challengeId)).toFinset

/-- `requirements_met`. -/
def requirementsMet (challenge : Challenge) (solved : Finset String) : Bool :=
  SolveService.requirementsMet challenge.requirements solved

/-- The hints of a view: the price of each, and the content of the unlocked ones. -/
def publicHints (E : Engines) (now : ℤ) (solveCount : UInt32) (unlocked : Finset UInt32)
    (hints : List ChallengeHint) : List PublicHint :=
  hints.zipIdx.map fun (h, i) =>
    let isUnlocked := decide (wrapU32 i ∈ unlocked)
    { cost := h.cost.evaluate E solveCount now
      unlocked := isUnlocked
      content := if isUnlocked then some h.content else none }

/-- `to_public_challenge`; `now` is the time it reads. -/
def toPublicChallenge (E : Engines) (now : ℤ) (challenge : Challenge) (solveCount : UInt32)
    (solved : Bool) (unlocked : Finset UInt32) (lockedReveal : Option LockedReveal) :
    PublicChallenge :=
  let shows : (LockedReveal → Bool) → Bool := fun pick => lockedReveal.all pick
  { id := challenge.id
    title := challenge.title
    description := if shows (·.description) then challenge.description else ""
    category := if shows (·.category) then challenge.category else ""
    points := if shows (·.points) then some (currentPoints challenge solveCount) else none
    tags := if shows (·.tags) then challenge.tags else []
    files := if shows (·.files) then challenge.files else []
    hints :=
      if shows (·.hints) then publicHints E now solveCount unlocked challenge.hints else []
    requirements := if shows (·.requirements) then challenge.requirements else []
    connectionInfo :=
      if shows (·.connectionInfo) then
        match challenge.deployment with
        | .shared url => some url
        | _ => none
      else none
    solved := solved
    locked := lockedReveal.isSome }

/-- The reveal a challenge is shown through: none for administrators and for open
challenges. -/
def lockedRevealOf (isAdmin : Bool) (challenge : Challenge) (solved : Finset String) :
    Option LockedReveal :=
  if isAdmin then none
  else
    match challenge.visibility with
    | .locked r => some r
    | _ => if requirementsMet challenge solved then none else some .initial

/-- Is the account an administrator? -/
def isAdminAccount (account : Option Account) : Bool := account.any fun a => a.role = .admin

/-! ## The handlers -/

/-- Who asks: the authenticated account, the preferred language, and the time. -/
structure ViewRequest where
  user : AccountId
  lang : String
  now : ℤ
  deriving DecidableEq, Repr

/-- The unlocked hints of each challenge. -/
def unlockedMap (unlocks : List HintUnlock) : AList fun _ : String => Finset UInt32 :=
  Grouping.collect (fun u : HintUnlock => some u.challengeId) ∅
    (fun u indices => insert u.hintIndex indices) unlocks

/-- `list_challenges`. -/
def listChallenges (P : Platform) (req : ViewRequest) : Api (Response (List PublicChallenge)) := do
  let viewer ← findAccount req.user
  let viewerTeam := match viewer with | .ok (some a) => a.teamId | _ => none
  match ← repoCall .challengeFindAll with
  | .error e => pure (.error 500 (e.localize P.localization req.lang))
  | .ok challenges => do
    let submissions := (← repoCall .submissionFindAll).toOption.getD []
    let counts := challengeSolveCounts submissions
    let unlocks := (← service (HintService.viewerUnlocks viewerTeam req.user)).toOption.getD []
    let unlockedHints := unlockedMap unlocks
    let account := (← findAccount req.user).toOption.join
    let viewerTeam := account.bind (·.teamId)
    let isAdmin := isAdminAccount account
    let solvedIds := viewerSolvedIds submissions viewerTeam req.user
    let visible := challenges.filter fun ch => isAdmin || decide (ch.visibility ≠ .hidden)
    pure ⟨200, .ok (visible.map fun ch =>
      toPublicChallenge P.engines req.now ch (solverCount counts ch.id)
        (challengeSolvedBy ch.id submissions viewerTeam req.user)
        ((unlockedHints.lookup ch.id).getD ∅) (lockedRevealOf isAdmin ch solvedIds))⟩

/-- `get_challenge`. -/
def getChallenge (P : Platform) (req : ViewRequest) (challengeId : String) :
    Api (Response PublicChallenge) := do
  let viewer ← findAccount req.user
  let viewerTeam := match viewer with | .ok (some a) => a.teamId | _ => none
  match ← repoCall (.challengeFindById challengeId) with
  | .error e => pure (.error 500 (e.localize P.localization req.lang))
  | .ok none => pure (.error 404 (P.localization.lookup req.lang "ctf-challenge-not-found"))
  | .ok (some challenge) => do
    let submissions := (← repoCall .submissionFindAll).toOption.getD []
    let counts := challengeSolveCounts submissions
    let solved := challengeSolvedBy challengeId submissions viewerTeam req.user
    let unlocks := (← service (HintService.viewerUnlocks viewerTeam req.user)).toOption.getD []
    let unlocked := ((unlocks.filter fun u => u.challengeId = challengeId).map
      (·.hintIndex)).toFinset
    let account := (← findAccount req.user).toOption.join
    let isAdmin := isAdminAccount account
    if !isAdmin && decide (challenge.visibility = .hidden) then
      pure (.error 404 (P.localization.lookup req.lang "ctf-challenge-not-found"))
    else
      let solvedIds := viewerSolvedIds submissions viewerTeam req.user
      pure ⟨200, .ok (toPublicChallenge P.engines req.now challenge (solverCount counts challengeId)
        solved unlocked (lockedRevealOf isAdmin challenge solvedIds))⟩

/-! ## What both show of a challenge -/

namespace App

variable (a : App) (user : AccountId)

/-- The team of the viewer. -/
def viewerTeam : Option TeamId := (a.accounts.find? user).bind (·.teamId)

/-- Is the viewer an administrator? -/
def isAdmin : Bool := isAdminAccount (a.accounts.find? user)

/-- The challenges the viewer has solved. -/
def solvedIds : Finset String :=
  viewerSolvedIds a.tables.submissions (a.viewerTeam user) user

/-- The hints of a challenge that the viewer has unlocked. -/
def unlockedHints (challengeId : String) : Finset UInt32 :=
  (((HintService.ownUnlocks (a.viewerTeam user) user a.tables.hintUnlocks).filter
    fun u => u.challengeId = challengeId).map (·.hintIndex)).toFinset

/-- The reveal the viewer sees a challenge through. -/
def effectiveReveal (challenge : Challenge) : Option LockedReveal :=
  lockedRevealOf (a.isAdmin user) challenge (a.solvedIds user)

/-- The distinct solvers of a challenge. -/
def solveCount (challengeId : String) : UInt32 :=
  solverCount (challengeSolveCounts a.tables.submissions) challengeId

/-- What the viewer sees of a challenge. -/
def viewOf (P : Platform) (now : ℤ) (challenge : Challenge) : PublicChallenge :=
  toPublicChallenge P.engines now challenge (a.solveCount challenge.id)
    (challengeSolvedBy challenge.id a.tables.submissions (a.viewerTeam user) user)
    (a.unlockedHints user challenge.id) (a.effectiveReveal user challenge)

end App

/-- The map and the filter find the same unlocked hints. -/
theorem lookup_unlockedMap (unlocks : List HintUnlock) (challengeId : String) :
    ((unlockedMap unlocks).lookup challengeId).getD ∅ =
      ((unlocks.filter fun u => u.challengeId = challengeId).map (·.hintIndex)).toFinset := by
  have hhaving : Grouping.having (fun u : HintUnlock => some u.challengeId) challengeId unlocks =
      unlocks.filter fun u => u.challengeId = challengeId := by
    refine List.filter_congr fun u _ => ?_
    simp
  rw [unlockedMap, Grouping.lookup_collect, hhaving]
  split
  · rename_i hnil
    simp [hnil]
  · rw [Option.getD_some, foldl_insert_eq (fun u : HintUnlock => u.hintIndex),
      Finset.empty_union]

section Spec

variable (P : Platform) (a : App) (req : ViewRequest)

/-- **The list**: every challenge that is not hidden from the viewer, as the viewer
sees it. -/
theorem run_listChallenges :
    runApi a (listChallenges P req) =
      (⟨200, .ok ((a.tables.challenges.rows.filter fun ch =>
        a.isAdmin req.user || decide (ch.visibility ≠ .hidden)).map
          (a.viewOf req.user P req.now))⟩, a) := by
  have hteam : (match (Except.ok (a.accounts.find? req.user) : Except RepoError _) with
      | .ok (some acc) => acc.teamId
      | _ => none) = a.viewerTeam req.user := by
    rw [App.viewerTeam]
    cases a.accounts.find? req.user <;> rfl
  rw [listChallenges, runApi_bind, runApi_findAccount]
  simp only [hteam]
  rw [runApi_bind, runApi_repoCall]
  simp only [Store.read, Store.write]
  rw [runApi_bind, runApi_repoCall]
  simp only [Store.read, Store.write]
  rw [runApi_bind, run_service, HintService.runSvc_viewerUnlocks]
  simp only
  rw [runApi_bind, runApi_findAccount, runApi_pure]
  simp only [Except.toOption, Option.getD_some, Option.join_some, lookup_unlockedMap]
  rfl

/-- **One challenge**: not found when it does not exist or is hidden from the viewer,
else as the viewer sees it. -/
theorem run_getChallenge (challengeId : String) :
    runApi a (getChallenge P req challengeId) =
      (match a.tables.challenges.find? challengeId with
        | none => .error 404 (P.localization.lookup req.lang "ctf-challenge-not-found")
        | some challenge =>
          if !a.isAdmin req.user && decide (challenge.visibility = .hidden) then
            .error 404 (P.localization.lookup req.lang "ctf-challenge-not-found")
          else ⟨200, .ok (a.viewOf req.user P req.now challenge)⟩, a) := by
  have hteam : (match (Except.ok (a.accounts.find? req.user) : Except RepoError _) with
      | .ok (some acc) => acc.teamId
      | _ => none) = a.viewerTeam req.user := by
    rw [App.viewerTeam]
    cases a.accounts.find? req.user <;> rfl
  rw [getChallenge, runApi_bind, runApi_findAccount]
  simp only [hteam]
  rw [runApi_bind, runApi_repoCall]
  simp only [Store.read, Store.write]
  cases hfind : a.tables.challenges.find? challengeId with
  | none => rfl
  | some challenge =>
    obtain ⟨-, rfl⟩ := Table.find?_eq_some_iff.1 hfind
    simp only
    rw [runApi_bind, runApi_repoCall]
    simp only [Store.read, Store.write]
    rw [runApi_bind, run_service, HintService.runSvc_viewerUnlocks]
    simp only
    rw [runApi_bind, runApi_findAccount]
    simp only [Except.toOption, Option.getD_some, Option.join_some]
    by_cases hhidden : (!a.isAdmin req.user && decide (challenge.visibility = .hidden)) = true
    · rw [if_pos hhidden]
      exact congrArg (runApi a) (if_pos hhidden)
    · rw [if_neg hhidden]
      exact congrArg (runApi a) (if_neg hhidden)

end Spec

end Cctf

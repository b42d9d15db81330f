import Mathlib.Data.List.Sort
import Mathlib.Data.Finmap
import Cctf.Library.Grouping
import Cctf.Services.Solve

/-!
# The scoreboard

`ScoreboardService`: the points of a team, re-derived from all submissions, the
standings, and the CTFtime export.

* `buildChallengeSolvers` — the distinct solvers of every challenge;
  `lookup_buildChallengeSolvers` says which they are.
* `computeTeamSolveScore` — the loop over challenges and parts.
  `computeTeamSolveScore_points` and `computeTeamSolveScore_solvedIds` say what
  it adds up: a sum over challenges, and the challenges that score, in order.
* `computeTeamSolvePoints` — the same points as the `i64` that the loop adds to;
  `computeTeamSolvePoints_eq` says that it is the sum, wrapped around once.
* `getScoreboard`, `exportCtftime` — the two service calls; `standings` and
  `ctftimeExport` are what they compute from the rows they read
  (`runSvc_getScoreboard`, `runSvc_exportCtftime`).
-/

namespace Cctf

open Rounding Grouping

/-! ## Solvers -/

/-- Whom a submission counts for: the team if there is one, else the account. -/
def solverId (s : Submission) : String :=
  match s.teamId with
  | some t => t.val
  | none => s.accountId.val

/-- Whom a submission counts for, as the other readers of submissions write it. -/
def teamOrAccountId (s : Submission) : String := (s.teamId.map (·.val)).getD s.accountId.val

theorem teamOrAccountId_eq : teamOrAccountId = solverId := by
  funext s
  unfold teamOrAccountId solverId
  cases s.teamId <;> rfl

/-- `build_challenge_solvers`: the distinct correct solvers of each challenge. -/
def buildChallengeSolvers (submissions : List Submission) :
    AList fun _ : String => Finset String :=
  collect (fun s => if s.isCorrect then some s.challengeId else none) ∅
    (fun s solvers => insert (solverId s) solvers) submissions

/-- The number of solvers of a challenge, as the scoreboard counts them. -/
def solverCount (solvers : AList fun _ : String => Finset String) (challengeId : String) : UInt32 :=
  wrapU32 (((solvers.lookup challengeId).map Finset.card).getD 0)

/-- The correct submissions on a challenge. -/
def correctOn (challengeId : String) (submissions : List Submission) : List Submission :=
  submissions.filter fun s => decide (s.challengeId = challengeId) && s.isCorrect

/-- For a team, the rows that `submit_flag` compares a submission with. -/
theorem SolveService.ownCorrect_team (s : Store) (challengeId : String) (accountId : AccountId)
    (t : TeamId) :
    SolveService.ownCorrect s challengeId (some t) accountId =
      correctOn challengeId (s.submissions.filter fun sub => sub.teamId = some t) := by
  refine List.filter_congr fun sub _ => ?_
  simp [SolveService.isOwn]

/-- The distinct solvers of one challenge. -/
def solverIds (challengeId : String) (submissions : List Submission) : Finset String :=
  ((correctOn challengeId submissions).map solverId).toFinset

theorem foldl_insert_eq {α β : Type} [DecidableEq β] (f : α → β) (l : List α) (S : Finset β) :
    l.foldl (fun T a => insert (f a) T) S = S ∪ (l.map f).toFinset := by
  induction l generalizing S with
  | nil => simp
  | cons a l ih =>
    rw [List.foldl_cons, ih]
    ext x
    simp only [Finset.mem_union, Finset.mem_insert, List.map_cons, List.toFinset_cons]
    tauto

/-- The map holds the distinct solvers of a challenge, and nothing for a
challenge nobody has solved. -/
theorem lookup_buildChallengeSolvers (challengeId : String) (submissions : List Submission) :
    ((buildChallengeSolvers submissions).lookup challengeId).getD ∅ =
      solverIds challengeId submissions := by
  have hhaving : having (fun s : Submission => if s.isCorrect then some s.challengeId else none)
      challengeId submissions = correctOn challengeId submissions := by
    refine List.filter_congr fun s _ => ?_
    cases hcorrect : s.isCorrect <;> simp [hcorrect]
  rw [buildChallengeSolvers, lookup_collect, hhaving]
  split
  · rename_i hnil
    simp [solverIds, hnil]
  · simp [foldl_insert_eq, solverIds]

theorem solverCount_buildChallengeSolvers (challengeId : String) (submissions : List Submission) :
    solverCount (buildChallengeSolvers submissions) challengeId =
      wrapU32 (solverIds challengeId submissions).card := by
  rw [solverCount, ← lookup_buildChallengeSolvers]
  cases (buildChallengeSolvers submissions).lookup challengeId <;> simp

/-! ## A team's score -/

/-- A team's score from solves alone.  The points are the sum before it wraps around in an
`i64`, which is `computeTeamSolvePoints`. -/
structure TeamSolveScore where
  points : ℤ
  lastSolveTime : Option ℤ
  solvedIds : List String
  deriving DecidableEq, Repr

/-- The submissions of a team. -/
def teamSubs (team : Team) (submissions : List Submission) : List Submission :=
  submissions.filter fun s => s.teamId = some team.id

/-- The rows the scoreboard credits to a part: the stored flag is judged again,
with itself as the live instance flag. -/
def partSubs (E : Engines) (challenge : Challenge) (subs : List Submission) (pf : PartialFlag) :
    List Submission :=
  (correctOn challenge.id subs).filter fun s =>
    pf.validator.isMatch E s.providedFlag (some s.providedFlag)

/-- Are these rows a solve of the team? -/
def solvedBy (teamConsensus : Bool) (team : Team) (subs : List Submission) : Bool :=
  if teamConsensus then
    !team.memberIds.isEmpty && team.memberIds.all fun m => subs.any fun s => s.accountId = m
  else !subs.isEmpty

/-- Under consensus every member has a row. -/
theorem solvedBy_consensus_iff {team : Team} {subs : List Submission} :
    solvedBy true team subs = true ↔
      team.memberIds ≠ [] ∧ ∀ m ∈ team.memberIds, ∃ sub ∈ subs, sub.accountId = m := by
  simp [solvedBy, List.any_eq_true]

theorem solvedBy_nil (teamConsensus : Bool) (team : Team) :
    solvedBy teamConsensus team [] = false := by
  cases teamConsensus with
  | false => rfl
  | true =>
    cases hmembers : team.memberIds with
    | nil => simp [solvedBy, hmembers]
    | cons m ms => simp [solvedBy, hmembers]

/-- The later of a time and the latest row. -/
def laterTime (last : Option ℤ) (subs : List Submission) : Option ℤ :=
  match (subs.map (·.submittedAt)).max? with
  | some subTime =>
    match last with
    | none => some subTime
    | some t => some (max t subTime)
  | none => last

/-- Does a part of a `Multi` flag score for the team? -/
def partScored (E : Engines) (team : Team) (challenge : Challenge) (subs : List Submission)
    (pf : PartialFlag) : Bool :=
  solvedBy challenge.teamConsensus team (partSubs E challenge subs pf)

/-- The loop over the parts of a `Multi` flag. -/
def scorePart (E : Engines) (team : Team) (challenge : Challenge) (subs : List Submission)
    (decayed : UInt32) (acc : TeamSolveScore × Bool) (pf : PartialFlag) : TeamSolveScore × Bool :=
  if partScored E team challenge subs pf then
    ({ acc.1 with
        points := acc.1.points + saturateI64 (partialValue decayed pf.weight)
        lastSolveTime := laterTime acc.1.lastSolveTime (partSubs E challenge subs pf) }, true)
  else acc

/-- One challenge of the loop, before its id is noted. -/
def scoreFlag (E : Engines) (team : Team) (challenge : Challenge) (subs : List Submission)
    (decayed : UInt32) (acc : TeamSolveScore) : TeamSolveScore × Bool :=
  match challenge.flag with
  | .multi partials => partials.foldl (scorePart E team challenge subs decayed) (acc, false)
  | _ =>
    let cSubs := correctOn challenge.id subs
    if solvedBy challenge.teamConsensus team cSubs then
      ({ acc with
          points := acc.points + decayed.toNat
          lastSolveTime := laterTime acc.lastSolveTime cSubs }, true)
    else (acc, false)

/-- One round of the loop over challenges. -/
def scoreChallenge (E : Engines) (team : Team) (subs : List Submission)
    (solvers : AList fun _ : String => Finset String) (acc : TeamSolveScore)
    (challenge : Challenge) : TeamSolveScore :=
  let decayed := decayedPoints challenge.points (solverCount solvers challenge.id)
  let scored := scoreFlag E team challenge subs decayed acc
  if scored.2 then { scored.1 with solvedIds := scored.1.solvedIds ++ [challenge.id] }
  else scored.1

/-- `compute_team_solve_score`. -/
def computeTeamSolveScore (E : Engines) (team : Team) (challenges : List Challenge)
    (submissions : List Submission) (solvers : AList fun _ : String => Finset String) :
    TeamSolveScore :=
  challenges.foldl (scoreChallenge E team (teamSubs team submissions) solvers) ⟨0, none, []⟩

/-! ### What the loop adds up -/

/-- Does a challenge score for the team? -/
def challengeScored (E : Engines) (team : Team) (subs : List Submission) (challenge : Challenge) :
    Bool :=
  match challenge.flag with
  | .multi partials => partials.any (partScored E team challenge subs)
  | _ => solvedBy challenge.teamConsensus team (correctOn challenge.id subs)

/-- What a challenge adds to the team's points. -/
def challengeValue (E : Engines) (team : Team) (subs : List Submission) (decayed : UInt32)
    (challenge : Challenge) : ℤ :=
  match challenge.flag with
  | .multi partials =>
      ((partials.filter (partScored E team challenge subs)).map fun pf =>
        saturateI64 (partialValue decayed pf.weight)).sum
  | _ =>
    if solvedBy challenge.teamConsensus team (correctOn challenge.id subs) then decayed.toNat
    else 0

/-- A challenge without correct rows adds nothing to a score. -/
theorem challengeValue_of_unsolved (E : Engines) (team : Team) {subs : List Submission}
    {ch : Challenge} (decayed : UInt32) (h : correctOn ch.id subs = []) :
    challengeValue E team subs decayed ch = 0 := by
  have hparts : partScored E team ch subs = fun _ => false := by
    funext pf
    rw [partScored, partSubs, h]
    exact solvedBy_nil _ _
  rw [challengeValue]
  cases ch.flag with
  | multi partials => simp [hparts]
  | _ => simp [h, solvedBy_nil]

theorem foldl_scorePart (E : Engines) (team : Team) (challenge : Challenge)
    (subs : List Submission) (decayed : UInt32) (partials : List PartialFlag)
    (acc : TeamSolveScore × Bool) :
    (partials.foldl (scorePart E team challenge subs decayed) acc).1.points =
        acc.1.points + ((partials.filter (partScored E team challenge subs)).map fun pf =>
          saturateI64 (partialValue decayed pf.weight)).sum ∧
      (partials.foldl (scorePart E team challenge subs decayed) acc).1.solvedIds =
        acc.1.solvedIds ∧
      (partials.foldl (scorePart E team challenge subs decayed) acc).2 =
        (acc.2 || partials.any (partScored E team challenge subs)) := by
  induction partials generalizing acc with
  | nil => simp
  | cons pf rest ih =>
    obtain ⟨hpoints, hids, hscored⟩ := ih (scorePart E team challenge subs decayed acc pf)
    rw [List.foldl_cons, hpoints, hids, hscored, scorePart]
    by_cases h : partScored E team challenge subs pf = true
    · rw [if_pos h, List.filter_cons_of_pos h]
      simp [h, add_assoc]
    · rw [if_neg h, List.filter_cons_of_neg h]
      simp [h]

theorem scoreFlag_spec (E : Engines) (team : Team) (challenge : Challenge)
    (subs : List Submission) (decayed : UInt32) (acc : TeamSolveScore) :
    (scoreFlag E team challenge subs decayed acc).1.points =
        acc.points + challengeValue E team subs decayed challenge ∧
      (scoreFlag E team challenge subs decayed acc).1.solvedIds = acc.solvedIds ∧
      (scoreFlag E team challenge subs decayed acc).2 =
        challengeScored E team subs challenge := by
  unfold scoreFlag challengeValue challengeScored
  cases challenge.flag with
  | multi partials => simpa using foldl_scorePart E team challenge subs decayed partials (acc, false)
  | _ =>
    simp only
    split
    · rename_i h
      simp [h]
    · rename_i h
      simp [h]

/-- The value of a challenge when the scoreboard is computed. -/
def liveValue (solvers : AList fun _ : String => Finset String) (challenge : Challenge) : UInt32 :=
  decayedPoints challenge.points (solverCount solvers challenge.id)

theorem foldl_scoreChallenge (E : Engines) (team : Team) (subs : List Submission)
    (solvers : AList fun _ : String => Finset String) (challenges : List Challenge)
    (acc : TeamSolveScore) :
    (challenges.foldl (scoreChallenge E team subs solvers) acc).points =
        acc.points + (challenges.map fun c =>
          challengeValue E team subs (liveValue solvers c) c).sum ∧
      (challenges.foldl (scoreChallenge E team subs solvers) acc).solvedIds =
        acc.solvedIds ++ (challenges.filter (challengeScored E team subs)).map (·.id) := by
  induction challenges generalizing acc with
  | nil => simp
  | cons c rest ih =>
    obtain ⟨hpoints, hids⟩ := ih (scoreChallenge E team subs solvers acc c)
    obtain ⟨hvalue, hsame, hscored⟩ := scoreFlag_spec E team c subs (liveValue solvers c) acc
    rw [List.foldl_cons, hpoints, hids, scoreChallenge]
    simp only [liveValue] at hvalue hsame hscored
    by_cases h : challengeScored E team subs c = true
    · rw [if_pos (hscored.trans h), List.filter_cons_of_pos h]
      simp [hvalue, hsame, liveValue, add_assoc]
    · rw [if_neg (by rw [hscored]; exact h), List.filter_cons_of_neg h]
      simp [hvalue, hsame, liveValue, add_assoc]

/-- **The points of a team** are the sum of what its challenges add. -/
theorem computeTeamSolveScore_points (E : Engines) (team : Team) (challenges : List Challenge)
    (submissions : List Submission) (solvers : AList fun _ : String => Finset String) :
    (computeTeamSolveScore E team challenges submissions solvers).points =
      (challenges.map fun c =>
        challengeValue E team (teamSubs team submissions) (liveValue solvers c) c).sum := by
  rw [computeTeamSolveScore]
  simpa using (foldl_scoreChallenge E team (teamSubs team submissions) solvers challenges
    ⟨0, none, []⟩).1

/-- **The solves of a team** are the challenges that score, in their order. -/
theorem computeTeamSolveScore_solvedIds (E : Engines) (team : Team) (challenges : List Challenge)
    (submissions : List Submission) (solvers : AList fun _ : String => Finset String) :
    (computeTeamSolveScore E team challenges submissions solvers).solvedIds =
      (challenges.filter (challengeScored E team (teamSubs team submissions))).map (·.id) := by
  rw [computeTeamSolveScore]
  simpa using (foldl_scoreChallenge E team (teamSubs team submissions) solvers challenges
    ⟨0, none, []⟩).2

/-! ### The sum in 64 bits -/

/-- `points += part_points`, for a part that scores. -/
def addPart (E : Engines) (team : Team) (challenge : Challenge) (subs : List Submission)
    (decayed : UInt32) (points : Int64) (pf : PartialFlag) : Int64 :=
  if partScored E team challenge subs pf then
    points + Int64.ofInt (saturateI64 (partialValue decayed pf.weight))
  else points

/-- One challenge of the loop. -/
def addChallenge (E : Engines) (team : Team) (subs : List Submission)
    (solvers : AList fun _ : String => Finset String) (points : Int64) (challenge : Challenge) :
    Int64 :=
  let decayed := decayedPoints challenge.points (solverCount solvers challenge.id)
  match challenge.flag with
  | .multi partials => partials.foldl (addPart E team challenge subs decayed) points
  | _ =>
    if solvedBy challenge.teamConsensus team (correctOn challenge.id subs) then
      points + Int64.ofInt decayed.toNat
    else points

/-- The points of `compute_team_solve_score`: an `i64`, with `+=` that wraps around. -/
def computeTeamSolvePoints (E : Engines) (team : Team) (challenges : List Challenge)
    (submissions : List Submission) (solvers : AList fun _ : String => Finset String) : Int64 :=
  challenges.foldl (addChallenge E team (teamSubs team submissions) solvers) 0

theorem foldl_addPart (E : Engines) (team : Team) (challenge : Challenge)
    (subs : List Submission) (decayed : UInt32) (partials : List PartialFlag)
    (acc : TeamSolveScore × Bool) :
    partials.foldl (addPart E team challenge subs decayed) (Int64.ofInt acc.1.points) =
      Int64.ofInt (partials.foldl (scorePart E team challenge subs decayed) acc).1.points := by
  induction partials generalizing acc with
  | nil => rfl
  | cons pf rest ih =>
    rw [List.foldl_cons, List.foldl_cons, ← ih, addPart, scorePart]
    split
    · rw [Int64.ofInt_add]
    · rfl

theorem addChallenge_eq (E : Engines) (team : Team) (subs : List Submission)
    (solvers : AList fun _ : String => Finset String) (acc : TeamSolveScore)
    (challenge : Challenge) :
    addChallenge E team subs solvers (Int64.ofInt acc.points) challenge =
      Int64.ofInt (scoreChallenge E team subs solvers acc challenge).points := by
  have hids : (scoreChallenge E team subs solvers acc challenge).points =
      (scoreFlag E team challenge subs
        (decayedPoints challenge.points (solverCount solvers challenge.id)) acc).1.points := by
    rw [scoreChallenge]
    simp only
    split <;> rfl
  rw [hids, addChallenge, scoreFlag]
  cases challenge.flag with
  | multi partials => exact foldl_addPart E team challenge subs _ partials (acc, false)
  | _ =>
    simp only
    split
    · rw [Int64.ofInt_add]
    · rfl

/-- **Wrapping around at every `+=` is wrapping around once**, at the end. -/
theorem computeTeamSolvePoints_eq (E : Engines) (team : Team) (challenges : List Challenge)
    (submissions : List Submission) (solvers : AList fun _ : String => Finset String) :
    computeTeamSolvePoints E team challenges submissions solvers =
      Int64.ofInt (computeTeamSolveScore E team challenges submissions solvers).points := by
  have hloop : ∀ acc : TeamSolveScore,
      challenges.foldl (addChallenge E team (teamSubs team submissions) solvers)
          (Int64.ofInt acc.points) =
        Int64.ofInt (challenges.foldl
          (scoreChallenge E team (teamSubs team submissions) solvers) acc).points := by
    induction challenges with
    | nil => exact fun _ => rfl
    | cons challenge rest ih =>
      intro acc
      rw [List.foldl_cons, List.foldl_cons, ← ih, addChallenge_eq]
  exact hloop ⟨0, none, []⟩

/-! ## Hint costs -/

/-- `total_hint_cost`: what a team, or a solo account, has spent on hints. -/
def totalHintCost (unlocks : List HintUnlock) (teamId : Option TeamId)
    (accountId : Option AccountId) : ℤ :=
  ((unlocks.filter fun u =>
    match teamId with
    | some t => decide (u.teamId = some t)
    | none => u.teamId.isNone && decide (some u.accountId = accountId)).map
      fun u => (u.cost.toNat : ℤ)).sum

theorem totalHintCost_append (unlocks unlocks' : List HintUnlock) (teamId : Option TeamId)
    (accountId : Option AccountId) :
    totalHintCost (unlocks ++ unlocks') teamId accountId =
      totalHintCost unlocks teamId accountId + totalHintCost unlocks' teamId accountId := by
  rw [totalHintCost, List.filter_append, List.map_append, List.sum_append]
  rfl

/-- `apply_hint_deduction`. -/
def applyHintDeduction (points spent : ℤ) : HintDeductionMode → ℤ
  | .none => points
  | .allowNegative => points - spent
  | .floorZero => max (points - spent) 0
  | .gate => max (points - spent) 0

/-! ## The standings -/

/-- The configuration of the scoreboard. -/
structure ScoreboardService where
  sortByAccuracy : Bool
  freezeTime : Option ℤ
  hintDeductionMode : HintDeductionMode

namespace ScoreboardService

/-- The submissions the board shows. -/
def visibleSubs (cfg : ScoreboardService) (submissions : List Submission) : List Submission :=
  match cfg.freezeTime with
  | some freeze => submissions.filter fun s => s.submittedAt < freeze
  | none => submissions

/-- The hint unlocks the board charges. -/
def visibleUnlocks (cfg : ScoreboardService) (unlocks : List HintUnlock) : List HintUnlock :=
  match cfg.freezeTime with
  | some freeze => unlocks.filter fun u => u.unlockedAt < freeze
  | none => unlocks

/-- The unranked line of a team. -/
def entry (E : Engines) (cfg : ScoreboardService) (challenges : List Challenge)
    (submissions : List Submission) (unlocks : List HintUnlock) (team : Team) :
    ScoreboardEntry :=
  let score := computeTeamSolveScore E team challenges submissions
    (buildChallengeSolvers submissions)
  let spent := totalHintCost unlocks (some team.id) none
  { teamId := team.id
    teamName := team.name
    points := applyHintDeduction score.points spent cfg.hintDeductionMode
    lastSolveTime := score.lastSolveTime
    solves := score.solvedIds
    rank := 0 }

/-- The fraction of correct submissions of a team, 1 for a team without any. -/
def getAccuracy (submissions : List Submission) (teamId : TeamId) : ℚ :=
  let subs := submissions.filter fun s => s.teamId = some teamId
  if subs.isEmpty then 1 else ((subs.filter (·.isCorrect)).length : ℚ) / subs.length

/-- Earlier last solves first, teams without one last. -/
def compareTimes : Option ℤ → Option ℤ → Ordering
  | some t₁, some t₂ => compare t₁ t₂
  | some _, none => .lt
  | none, some _ => .gt
  | none, none => .eq

/-- The order of two lines: points, then the tie-break of the mode. -/
def compareEntries (cfg : ScoreboardService) (submissions : List Submission)
    (a b : ScoreboardEntry) : Ordering :=
  (compare b.points a.points).then
    (if cfg.sortByAccuracy then
      cmp (getAccuracy submissions b.teamId) (getAccuracy submissions a.teamId)
    else compareTimes a.lastSolveTime b.lastSolveTime)

/-- Number the lines from one. -/
def assignRanks (entries : List ScoreboardEntry) : List ScoreboardEntry :=
  entries.mapIdx fun i e => { e with rank := wrapU32 (i + 1) }

/-- The teams a bracket filter keeps. -/
def bracketTeams (filterBracket : Option String) (teams : List Team) : List Team :=
  match filterBracket with
  | some bracket => teams.filter fun t => t.bracket = bracket
  | none => teams

theorem bracketTeams_sublist (filterBracket : Option String) (teams : List Team) :
    (bracketTeams filterBracket teams).Sublist teams := by
  cases filterBracket with
  | none => exact List.Sublist.refl teams
  | some bracket => exact List.filter_sublist

/-- The ranked lines, from the rows the service reads. -/
def standings (E : Engines) (cfg : ScoreboardService) (filterBracket : Option String)
    (teams : List Team) (submissions : List Submission) (challenges : List Challenge)
    (unlocks : List HintUnlock) : List ScoreboardEntry :=
  let subs := cfg.visibleSubs submissions
  let entries := (bracketTeams filterBracket teams).map
    (cfg.entry E challenges subs (cfg.visibleUnlocks unlocks))
  assignRanks (entries.insertionSort fun a b => cfg.compareEntries subs a b ≠ .gt)

/-- `ScoreboardService::get_scoreboard`. -/
def getScoreboard (E : Engines) (cfg : ScoreboardService) (filterBracket : Option String) :
    Svc (List ScoreboardEntry) := do
  let teams ← TeamRepo.findAll
  let submissions ← SubmissionRepo.findAll
  let challenges ← ChallengeRepo.findAll
  let hintUnlocks ← HintUnlockRepo.findAll
  pure (standings E cfg filterBracket teams submissions challenges hintUnlocks)

/-- The board as it stands for a store. -/
def board (E : Engines) (cfg : ScoreboardService) (filterBracket : Option String) (s : Store) :
    List ScoreboardEntry :=
  standings E cfg filterBracket s.teams.rows s.submissions s.challenges.rows s.hintUnlocks

theorem runSvc_getScoreboard (E : Engines) (cfg : ScoreboardService)
    (filterBracket : Option String) (s : Store) :
    runSvc s (getScoreboard E cfg filterBracket) = (.ok (board E cfg filterBracket s), s) := rfl

/-! ### The lines of the board -/

theorem mem_assignRanks {entries : List ScoreboardEntry} {e : ScoreboardEntry} :
    e ∈ assignRanks entries ↔
      ∃ i, ∃ h : i < entries.length, { entries[i] with rank := wrapU32 (i + 1) } = e :=
  List.mem_mapIdx

section

variable {E : Engines} {cfg : ScoreboardService} {filterBracket : Option String}
  {teams : List Team} {submissions : List Submission} {challenges : List Challenge}
  {unlocks : List HintUnlock}

/-- Every line of the board is the line of one of its teams. -/
theorem of_mem_standings {e : ScoreboardEntry}
    (h : e ∈ standings E cfg filterBracket teams submissions challenges unlocks) :
    ∃ team ∈ bracketTeams filterBracket teams, ∃ rank,
      e = { cfg.entry E challenges (cfg.visibleSubs submissions) (cfg.visibleUnlocks unlocks) team
        with rank := rank } := by
  obtain ⟨i, hi, rfl⟩ := mem_assignRanks.1 h
  have hmem := List.getElem_mem hi
  rw [List.mem_insertionSort] at hmem
  obtain ⟨team, hteam, hentry⟩ := List.mem_map.1 hmem
  exact ⟨team, hteam, _, by rw [← hentry]⟩

/-- Every team of the board has a line. -/
theorem exists_mem_board (E : Engines) (cfg : ScoreboardService) (filterBracket : Option String)
    (s : Store) {team : Team} (h : team ∈ bracketTeams filterBracket s.teams.rows) :
    ∃ rank, { cfg.entry E s.challenges.rows (cfg.visibleSubs s.submissions)
        (cfg.visibleUnlocks s.hintUnlocks) team with rank := rank } ∈
      board E cfg filterBracket s := by
  have hmem : cfg.entry E s.challenges.rows (cfg.visibleSubs s.submissions)
      (cfg.visibleUnlocks s.hintUnlocks) team ∈
      ((bracketTeams filterBracket s.teams.rows).map (cfg.entry E s.challenges.rows
        (cfg.visibleSubs s.submissions) (cfg.visibleUnlocks s.hintUnlocks))).insertionSort
        fun a b => cfg.compareEntries (cfg.visibleSubs s.submissions) a b ≠ .gt := by
    rw [List.mem_insertionSort]
    exact List.mem_map_of_mem h
  obtain ⟨i, hi, hget⟩ := List.getElem_of_mem hmem
  exact ⟨wrapU32 (i + 1), mem_assignRanks.2 ⟨i, hi, by rw [hget]⟩⟩

end

/-! ## The CTFtime export -/

/-- The challenges by id; of two with one id the later stays. -/
def challengeMap (challenges : List Challenge) : AList fun _ : String => Challenge :=
  challenges.foldl (fun m c => m.insert c.id c) ∅

/-- The statistics of one team: the last correct row of each task title. -/
def taskStats (challenges : AList fun _ : String => Challenge) (teamSolves : List Submission) :
    Finmap fun _ : String => CtfTimeTaskStats :=
  teamSolves.foldl (fun stats solve =>
    match challenges.lookup solve.challengeId with
    | some challenge => stats.insert challenge.title ⟨solve.points, solve.submittedAt⟩
    | none => stats) ∅

/-- The task a submission counts for. -/
def taskOf (challenges : AList fun _ : String => Challenge) (solve : Submission) : Option String :=
  (challenges.lookup solve.challengeId).map (·.title)

/-- The numbers of the last submission of a list on a task. -/
def lastOn (challenges : AList fun _ : String => Challenge) (title : String)
    (solves : List Submission) : Option CtfTimeTaskStats :=
  (solves.filter fun s => taskOf challenges s = some title).getLast?.map fun s =>
    ⟨s.points, s.submittedAt⟩

/-- **The entry of a task** has the numbers of the last submission on it. -/
theorem lookup_taskStats (challenges : AList fun _ : String => Challenge) (title : String)
    (solves : List Submission) :
    (taskStats challenges solves).lookup title = lastOn challenges title solves := by
  induction solves using List.reverseRecOn with
  | nil => rfl
  | append_singleton solves s ih =>
    have hstep : taskStats challenges (solves ++ [s]) =
        match challenges.lookup s.challengeId with
        | some challenge =>
            (taskStats challenges solves).insert challenge.title ⟨s.points, s.submittedAt⟩
        | none => taskStats challenges solves := by
      rw [taskStats, List.foldl_append]
      rfl
    rw [hstep, lastOn, List.filter_append]
    cases hlookup : challenges.lookup s.challengeId with
    | none =>
      have hother : ¬ taskOf challenges s = some title := by simp [taskOf, hlookup]
      simp only
      rw [ih, List.filter_cons_of_neg (by simpa using hother), List.filter_nil, List.append_nil,
        lastOn]
    | some challenge =>
      simp only
      by_cases htitle : challenge.title = title
      · subst htitle
        have hsame : taskOf challenges s = some challenge.title := by simp [taskOf, hlookup]
        rw [Finmap.lookup_insert, List.filter_cons_of_pos (by simpa using hsame), List.filter_nil,
          List.getLast?_concat]
        rfl
      · have hother : ¬ taskOf challenges s = some title := by simpa [taskOf, hlookup] using htitle
        rw [Finmap.lookup_insert_of_ne _ (Ne.symm htitle), ih,
          List.filter_cons_of_neg (by simpa using hother), List.filter_nil, List.append_nil, lastOn]

/-- The correct submissions of a team. -/
def teamSolves (teamId : TeamId) (submissions : List Submission) : List Submission :=
  submissions.filter fun s => decide (s.teamId = some teamId) && s.isCorrect

/-- The export of a board. -/
def ctftimeExport (standings : List ScoreboardEntry) (submissions : List Submission)
    (challenges : List Challenge) : CtfTimeScoreboardExport where
  tasks := challenges.map (·.title)
  standings := standings.map fun e =>
    { pos := some e.rank
      team := e.teamName
      score := (e.points : ℚ)
      taskStats := taskStats (challengeMap challenges) (teamSolves e.teamId submissions) }

/-- `ScoreboardService::export_ctftime`. -/
def exportCtftime (E : Engines) (cfg : ScoreboardService) : Svc CtfTimeScoreboardExport := do
  let standings ← getScoreboard E cfg none
  let submissions ← SubmissionRepo.findAll
  let challenges ← ChallengeRepo.findAll
  pure (ctftimeExport standings submissions challenges)

/-- The export as it stands for a store. -/
def exportOf (E : Engines) (cfg : ScoreboardService) (s : Store) : CtfTimeScoreboardExport :=
  ctftimeExport (board E cfg none s) s.submissions s.challenges.rows

theorem runSvc_exportCtftime (E : Engines) (cfg : ScoreboardService) (s : Store) :
    runSvc s (exportCtftime E cfg) = (.ok (exportOf E cfg s), s) := rfl

end ScoreboardService

end Cctf

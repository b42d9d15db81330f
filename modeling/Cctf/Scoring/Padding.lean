import Cctf.Solving.Attempts

/-!
# Whitespace around a flag

A submission is stored with its text as it came, and the text is read again later: when
attempts are counted, when a part of a flag is looked for, and when the scoreboard is
computed.  The trimmed text is its normal form, and nothing that is computed from the rows
looks past it.

* `Submission.trimmed`, `Store.trimmed`, `SubmitCall.trimmed` — the normal forms.
* `computeTeamSolveScore_trimmed`, `board_trimmed`, `remainingAttempts_trimmed` — what is
  computed from the rows.
* `perform_trimmed` — a call, on normal forms.
* `history`, `SameView` — the calls of a run with their answers, and what is seen of one.
* `padding_unseen` — **two runs whose flags differ in surrounding whitespace look the same**.
-/

namespace Cctf

open Rounding SolveService ScoreboardService

/-! ## Normal forms -/

/-- A row with its text trimmed. -/
@[simps]
def Submission.trimmed (sub : Submission) : Submission :=
  { sub with providedFlag := Text.trim sub.providedFlag }

@[simp] theorem isOwn_trimmed (teamId : Option TeamId) (accountId : AccountId)
    (sub : Submission) : isOwn teamId accountId sub.trimmed = isOwn teamId accountId sub := by
  rw [isOwn, isOwn, Submission.trimmed_accountId]

/-- A store with the texts of its rows trimmed. -/
def Store.trimmed (s : Store) : Store :=
  { s with submissions := s.submissions.map Submission.trimmed }

/-- A call with its flag trimmed. -/
def SubmitCall.trimmed (c : SubmitCall) : SubmitCall := { c with flag := Text.trim c.flag }

section Rows

variable (subs : List Submission)

/-- A selection that does not look at the texts. -/
theorem filter_trimmed {p : Submission → Bool} (hp : ∀ sub, p sub.trimmed = p sub) :
    (subs.map Submission.trimmed).filter p = (subs.filter p).map Submission.trimmed := by
  rw [List.filter_map]
  exact congrArg _ (List.filter_congr fun sub _ => hp sub)

/-- A list of numbers, ids or times that is read off the rows. -/
theorem map_trimmed {α : Type} {f : Submission → α} (hf : ∀ sub, f sub.trimmed = f sub) :
    (subs.map Submission.trimmed).map f = subs.map f := by
  rw [List.map_map]
  exact List.map_congr_left fun sub _ => hf sub

theorem countAttempts_trimmed (mode : AttemptCountMode) :
    countAttempts mode (subs.map Submission.trimmed) = countAttempts mode subs := by
  have htexts : ∀ rows : List Submission,
      ((rows.map Submission.trimmed).map fun sub => Text.trim sub.providedFlag) =
        rows.map fun sub => Text.trim sub.providedFlag :=
    fun rows => map_trimmed rows fun sub => Text.trim_trim sub.providedFlag
  cases mode with
  | all => simp [countAttempts]
  | incorrectOnly =>
    simp only [countAttempts]
    rw [filter_trimmed, List.length_map]
    simp
  | unique =>
    simp only [countAttempts]
    rw [htexts]
  | uniqueIncorrect =>
    simp only [countAttempts]
    rw [filter_trimmed, htexts]
    simp

theorem teamSolves_trimmed (challengeId : String) :
    SolveService.teamSolves challengeId (subs.map Submission.trimmed) =
      SolveService.teamSolves challengeId subs := by
  rw [SolveService.teamSolves, Grouping.collect, List.foldl_map]
  rfl

theorem solverAccounts_trimmed (challengeId : String) :
    solverAccounts challengeId (subs.map Submission.trimmed) = solverAccounts challengeId subs := by
  rw [solverAccounts, filter_trimmed, map_trimmed]
  · rfl
  · simp
  · simp

theorem buildChallengeSolvers_trimmed :
    buildChallengeSolvers (subs.map Submission.trimmed) = buildChallengeSolvers subs := by
  rw [buildChallengeSolvers, Grouping.collect, List.foldl_map]
  rfl

theorem any_trimmed {p : Submission → Bool} (hp : ∀ sub, p sub.trimmed = p sub) :
    (subs.map Submission.trimmed).any p = subs.any p := by
  rw [List.any_map]
  exact congrArg subs.any (funext hp)

/-- Does an account have a row? -/
theorem anyAccount_trimmed (accountId : AccountId) :
    ((subs.map Submission.trimmed).any fun sub => sub.accountId = accountId) =
      subs.any fun sub => sub.accountId = accountId := by
  rw [any_trimmed]
  simp

/-- A part of a flag judges a text with itself, or with another, as the live flag. -/
theorem isMatch_trimmed (E : Engines) (v : FlagValidator) (sub : Submission) :
    (∀ active, v.isMatch E sub.trimmed.providedFlag active = v.isMatch E sub.providedFlag active) ∧
      v.isMatch E sub.trimmed.providedFlag (some sub.trimmed.providedFlag) =
        v.isMatch E sub.providedFlag (some sub.providedFlag) :=
  ⟨fun _ => FlagValidator.isMatch_trim_left v,
    show v.isMatch E _ ((some sub.providedFlag).map Text.trim) = _ from
      FlagValidator.isMatch_trim v⟩

end Rows

/-! ## The scoreboard -/

section Scoreboard

variable (E : Engines) (team : Team) (challenge : Challenge) (subs : List Submission)

theorem teamSubs_trimmed :
    teamSubs team (subs.map Submission.trimmed) =
      (teamSubs team subs).map Submission.trimmed := by
  rw [teamSubs, teamSubs, filter_trimmed]
  simp

theorem correctOn_trimmed (challengeId : String) :
    correctOn challengeId (subs.map Submission.trimmed) =
      (correctOn challengeId subs).map Submission.trimmed := by
  rw [correctOn, correctOn, filter_trimmed]
  simp

theorem partSubs_trimmed (pf : PartialFlag) :
    partSubs E challenge (subs.map Submission.trimmed) pf =
      (partSubs E challenge subs pf).map Submission.trimmed := by
  rw [partSubs, correctOn_trimmed]
  exact filter_trimmed _ fun sub => (isMatch_trimmed E pf.validator sub).2

theorem solvedBy_trimmed (teamConsensus : Bool) :
    solvedBy teamConsensus team (subs.map Submission.trimmed) = solvedBy teamConsensus team subs := by
  cases teamConsensus with
  | false => simp [solvedBy]
  | true =>
    simp only [solvedBy, if_true, anyAccount_trimmed]

theorem laterTime_trimmed (last : Option ℤ) :
    laterTime last (subs.map Submission.trimmed) = laterTime last subs := by
  rw [laterTime, laterTime, map_trimmed]
  simp

theorem scorePart_trimmed (decayed : UInt32) :
    scorePart E team challenge (subs.map Submission.trimmed) decayed =
      scorePart E team challenge subs decayed := by
  funext acc pf
  rw [scorePart, scorePart, partScored, partScored, partSubs_trimmed, solvedBy_trimmed,
    laterTime_trimmed]

theorem scoreFlag_trimmed (decayed : UInt32) (acc : TeamSolveScore) :
    scoreFlag E team challenge (subs.map Submission.trimmed) decayed acc =
      scoreFlag E team challenge subs decayed acc := by
  unfold scoreFlag
  rw [scorePart_trimmed, correctOn_trimmed]
  simp only [solvedBy_trimmed, laterTime_trimmed]

theorem scoreChallenge_trimmed (solvers : AList fun _ : String => Finset String) :
    scoreChallenge E team (subs.map Submission.trimmed) solvers =
      scoreChallenge E team subs solvers := by
  funext acc challenge
  rw [scoreChallenge, scoreChallenge, scoreFlag_trimmed]

/-- **The points of a team** do not depend on whitespace around the texts. -/
theorem computeTeamSolveScore_trimmed (challenges : List Challenge)
    (solvers : AList fun _ : String => Finset String) :
    computeTeamSolveScore E team challenges (subs.map Submission.trimmed) solvers =
      computeTeamSolveScore E team challenges subs solvers := by
  rw [computeTeamSolveScore, computeTeamSolveScore, teamSubs_trimmed, scoreChallenge_trimmed]

/-- The points of a team in a store. -/
theorem computeTeamSolveScore_stored (s : Store) :
    computeTeamSolveScore E team s.trimmed.challenges.rows s.trimmed.submissions
        (buildChallengeSolvers s.trimmed.submissions) =
      computeTeamSolveScore E team s.challenges.rows s.submissions
        (buildChallengeSolvers s.submissions) := by
  show computeTeamSolveScore E team s.challenges.rows (s.submissions.map Submission.trimmed)
    (buildChallengeSolvers (s.submissions.map Submission.trimmed)) = _
  rw [buildChallengeSolvers_trimmed, computeTeamSolveScore_trimmed]

variable (cfg : ScoreboardService)

theorem visibleSubs_trimmed :
    cfg.visibleSubs (subs.map Submission.trimmed) =
      (cfg.visibleSubs subs).map Submission.trimmed := by
  unfold visibleSubs
  cases cfg.freezeTime with
  | none => rfl
  | some freeze =>
    simp only
    rw [filter_trimmed]
    simp

theorem entry_trimmed (challenges : List Challenge) (unlocks : List HintUnlock) :
    cfg.entry E challenges (subs.map Submission.trimmed) unlocks =
      cfg.entry E challenges subs unlocks := by
  funext team
  rw [entry, entry, buildChallengeSolvers_trimmed, computeTeamSolveScore_trimmed]

theorem getAccuracy_trimmed (teamId : TeamId) :
    getAccuracy (subs.map Submission.trimmed) teamId = getAccuracy subs teamId := by
  have hcorrect : ∀ rows : List Submission, (rows.map Submission.trimmed).filter (·.isCorrect) =
      (rows.filter (·.isCorrect)).map Submission.trimmed := by
    intro rows
    rw [filter_trimmed]
    simp
  have hteam : (subs.map Submission.trimmed).filter (fun sub => sub.teamId = some teamId) =
      (subs.filter fun sub => sub.teamId = some teamId).map Submission.trimmed := by
    rw [filter_trimmed]
    simp
  simp only [getAccuracy, hteam, hcorrect, List.isEmpty_map, List.length_map]

theorem compareEntries_trimmed (a b : ScoreboardEntry) :
    cfg.compareEntries (subs.map Submission.trimmed) a b = cfg.compareEntries subs a b := by
  rw [compareEntries, compareEntries, getAccuracy_trimmed, getAccuracy_trimmed]

/-- **The scoreboard** does not either. -/
theorem board_trimmed (filterBracket : Option String) (s : Store) :
    board E cfg filterBracket s.trimmed = board E cfg filterBracket s := by
  show standings E cfg filterBracket s.teams.rows (s.submissions.map Submission.trimmed)
    s.challenges.rows s.hintUnlocks = _
  rw [standings, visibleSubs_trimmed, entry_trimmed]
  simp only [compareEntries_trimmed]
  rfl

end Scoreboard

/-! ## A call -/

section Call

variable (E : Engines) (s : Store) (challenge : Challenge) (challengeId : String)
  (teamId : Option TeamId) (accountId : AccountId)

theorem ownRows_trimmed :
    ownRows s.trimmed teamId = (ownRows s teamId).map Submission.trimmed := by
  cases teamId with
  | none => rfl
  | some t =>
    show s.trimmed.submissions.filter _ = _
    rw [Store.trimmed, filter_trimmed]
    · rfl
    · simp

/-- The attempts that the submitter has left on a challenge with a limit. -/
def remainingAttempts : Option ℕ :=
  challenge.maxAttempts.map fun limitCfg => limitCfg.limit.toNat -
    (attempts limitCfg.mode challengeId teamId accountId (ownRows s teamId)).toNat

theorem attempts_trimmed (mode : AttemptCountMode) :
    attempts mode challengeId teamId accountId (ownRows s.trimmed teamId) =
      attempts mode challengeId teamId accountId (ownRows s teamId) := by
  rw [attempts, attempts, ownRows_trimmed, filter_trimmed, attemptCount_eq, attemptCount_eq,
    countAttempts_trimmed]
  simp

/-- **The attempts left** do not depend on whitespace around the texts. -/
theorem remainingAttempts_trimmed :
    remainingAttempts s.trimmed challenge challengeId teamId accountId =
      remainingAttempts s challenge challengeId teamId accountId := by
  rw [remainingAttempts, remainingAttempts]
  simp only [attempts_trimmed]

theorem attemptsExhausted_trimmed :
    attemptsExhausted s.trimmed challenge challengeId teamId accountId =
      attemptsExhausted s challenge challengeId teamId accountId := by
  rw [attemptsExhausted, attemptsExhausted]
  simp only [attempts_trimmed]

theorem meetsRequirements_trimmed :
    meetsRequirements s.trimmed challenge teamId accountId =
      meetsRequirements s challenge teamId accountId := by
  rw [meetsRequirements, meetsRequirements, solvedIds, solvedIds, ownRows_trimmed,
    filter_trimmed, map_trimmed]
  · simp
  · simp

theorem ownCorrect_trimmed :
    ownCorrect s.trimmed challengeId teamId accountId =
      (ownCorrect s challengeId teamId accountId).map Submission.trimmed := by
  rw [ownCorrect, ownCorrect, ownRows_trimmed, existingCorrectSubs, filter_trimmed]
  · rfl
  · simp

theorem solveCountOf_trimmed :
    solveCountOf s.trimmed challenge challengeId teamId =
      solveCountOf s challenge challengeId teamId := by
  cases teamId with
  | none => exact congrArg (fun T => wrapU32 T.card) (solverAccounts_trimmed s.submissions _)
  | some t =>
    have hteams : fullSolveTeams s.trimmed challenge challengeId =
        fullSolveTeams s challenge challengeId :=
      congrArg (fun m => (m.entries.filter (teamReached s challenge.teamConsensus)).length)
        (teamSolves_trimmed s.submissions challengeId)
    exact congrArg wrapU32 hteams

theorem reachesOf_trimmed (existing : List Submission) :
    reachesOf s.trimmed challenge teamId accountId (existing.map Submission.trimmed) =
      reachesOf s challenge teamId accountId existing := by
  have hcompletes : ∀ team, completesTeam team accountId (existing.map Submission.trimmed) =
      completesTeam team accountId existing := by
    intro team
    simp only [completesTeam, anyAccount_trimmed]
  cases teamId with
  | none => rfl
  | some t =>
    simp only [reachesOf, hcompletes, List.isEmpty_map]
    rfl

theorem nextSolveCount_trimmed :
    nextSolveCount s.trimmed challenge challengeId teamId accountId =
      nextSolveCount s challenge challengeId teamId accountId := by
  rw [nextSolveCount, nextSolveCount, ownCorrect_trimmed, reachesOf_trimmed, solveCountOf_trimmed]

variable (submittedFlag submittedIp uuid : String) (now : ℤ)

theorem matchedPart_trimmed :
    SolveService.matchedPart s.trimmed challenge challengeId teamId accountId E
        (Text.trim submittedFlag) =
      SolveService.matchedPart s challenge challengeId teamId accountId E submittedFlag :=
  FlagValidator.findMatchingPartial_trim challenge.flag

theorem verdict_trimmed :
    verdict s.trimmed challenge challengeId teamId accountId E (Text.trim submittedFlag) =
      verdict s challenge challengeId teamId accountId E submittedFlag := by
  show flagIsCorrect _ _ _ _ = flagIsCorrect _ _ _ _
  rw [flagIsCorrect, flagIsCorrect, FlagValidator.findMatchingPartial_trim,
    FlagValidator.isMatch_trim_left]
  rfl

theorem alreadySolved_trimmed (matchedPartial : Option PartialFlag) (activeFlag : Option String)
    (existing : List Submission) :
    alreadySolved E challenge matchedPartial activeFlag accountId
        (existing.map Submission.trimmed) =
      alreadySolved E challenge matchedPartial activeFlag accountId existing := by
  cases matchedPartial with
  | some pf => exact any_trimmed existing fun sub => (isMatch_trimmed E pf.validator sub).1 _
  | none =>
    simp only [alreadySolved, anyAccount_trimmed, List.isEmpty_map]

theorem repeatsSolve_trimmed :
    repeatsSolve s.trimmed challenge challengeId teamId accountId E (Text.trim submittedFlag) =
      repeatsSolve s challenge challengeId teamId accountId E submittedFlag := by
  rw [repeatsSolve, repeatsSolve, matchedPart_trimmed, ownCorrect_trimmed, alreadySolved_trimmed]
  rfl

theorem newSubmission_trimmed :
    newSubmission s.trimmed challenge challengeId teamId accountId E (Text.trim submittedFlag)
        submittedIp uuid now =
      (newSubmission s challenge challengeId teamId accountId E submittedFlag submittedIp uuid
        now).trimmed := by
  rw [newSubmission, matchedPart_trimmed, verdict_trimmed, nextSolveCount_trimmed]
  rfl

end Call

theorem addSubmission_trimmed (s : Store) (sub : Submission) :
    s.trimmed.addSubmission sub.trimmed = (s.addSubmission sub).trimmed := by
  simp [Store.trimmed, Store.addSubmission]

/-- **A call on normal forms** gives the normal forms of its answer and of its store. -/
theorem perform_trimmed (E : Engines) (s : Store) (c : SubmitCall) :
    c.trimmed.perform E s.trimmed =
      ((c.perform E s).1.map Submission.trimmed, (c.perform E s).2.trimmed) := by
  have hstart : c.trimmed.perform E s.trimmed = runSvc (s.withFlag c.active).trimmed
      (submitFlag E c.challengeId c.teamId c.accountId (Text.trim c.flag) c.ip c.uuid c.now) := rfl
  rw [hstart, SubmitCall.perform]
  generalize s.withFlag c.active = w
  have hfind : w.trimmed.challenges.find? c.challengeId = w.challenges.find? c.challengeId := rfl
  rw [runSvc_submitFlag, runSvc_submitFlag, hfind]
  cases w.challenges.find? c.challengeId with
  | none => rfl
  | some challenge =>
    simp only [attemptsExhausted_trimmed, meetsRequirements_trimmed, verdict_trimmed,
      repeatsSolve_trimmed, newSubmission_trimmed, addSubmission_trimmed]
    split
    · rfl
    split
    · rfl
    split
    · rfl
    · generalize newSubmission w challenge c.challengeId c.teamId c.accountId E c.flag c.ip c.uuid
        c.now = sub
      rw [Submission.trimmed_isCorrect]
      cases sub.isCorrect <;> rfl

/-! ## Runs -/

/-- What a call returns, and what it leaves. -/
abbrev Answered : Type := Except ServiceError Submission × Store

/-- The calls of a run, each with what it returns and leaves. -/
def history (E : Engines) : Store → List SubmitCall → List Answered
  | _, [] => []
  | s, c :: calls => c.perform E s :: history E (c.perform E s).2 calls

/-- The normal form of an answer. -/
def Answered.trimmed (r : Answered) : Answered := (r.1.map Submission.trimmed, r.2.trimmed)

/-- **A run on normal forms** has the normal forms of its answers. -/
theorem history_trimmed (E : Engines) (s : Store) (calls : List SubmitCall) :
    history E s.trimmed (calls.map SubmitCall.trimmed) =
      (history E s calls).map Answered.trimmed := by
  induction calls generalizing s with
  | nil => rfl
  | cons c calls ih =>
    rw [List.map_cons, history, history, List.map_cons, perform_trimmed, ih]
    rfl

/-- Two calls that differ in whitespace around their flags at most. -/
def SubmitCall.SamePadded (c c' : SubmitCall) : Prop :=
  c' = { c with flag := c'.flag } ∧ Text.trim c.flag = Text.trim c'.flag

/-- The same verdict and points, or the same error. -/
def SameAnswer : Except ServiceError Submission → Except ServiceError Submission → Prop
  | .ok sub, .ok sub' => sub.isCorrect = sub'.isCorrect ∧ sub.points = sub'.points
  | .error e, .error e' => e = e'
  | _, _ => False

/-- What is seen of a call: its answer, the points of every team, the scoreboard and the
attempts that are left. -/
structure SameView (E : Engines) (r r' : Answered) : Prop where
  answer : SameAnswer r.1 r'.1
  points : ∀ team,
    computeTeamSolveScore E team r.2.challenges.rows r.2.submissions
        (buildChallengeSolvers r.2.submissions) =
      computeTeamSolveScore E team r'.2.challenges.rows r'.2.submissions
        (buildChallengeSolvers r'.2.submissions)
  board : ∀ cfg filterBracket, board E cfg filterBracket r.2 = board E cfg filterBracket r'.2
  attempts : ∀ challenge challengeId teamId accountId,
    remainingAttempts r.2 challenge challengeId teamId accountId =
      remainingAttempts r'.2 challenge challengeId teamId accountId

theorem sameAnswer_of_trimmed {a a' : Except ServiceError Submission}
    (h : a.map Submission.trimmed = a'.map Submission.trimmed) : SameAnswer a a' := by
  cases a with
  | error e =>
    cases a' with
    | error e' => exact Except.error.inj h
    | ok sub' => cases h
  | ok sub =>
    cases a' with
    | error e' => cases h
    | ok sub' =>
      have hsub : sub.trimmed = sub'.trimmed := Except.ok.inj h
      have hcorrect : sub.trimmed.isCorrect = sub'.trimmed.isCorrect := by rw [hsub]
      have hpoints : sub.trimmed.points = sub'.trimmed.points := by rw [hsub]
      exact ⟨hcorrect, hpoints⟩

/-- Answers with one normal form look the same. -/
theorem sameView_of_trimmed {E : Engines} {r r' : Answered} (h : r.trimmed = r'.trimmed) :
    SameView E r r' := by
  obtain ⟨hanswer, hstore⟩ := Prod.mk.inj h
  have hrows : r.2.trimmed.submissions = r'.2.trimmed.submissions := by rw [hstore]
  have hchallenges : r.2.trimmed.challenges = r'.2.trimmed.challenges := by rw [hstore]
  refine ⟨sameAnswer_of_trimmed hanswer, fun team => ?_, fun cfg filterBracket => ?_,
    fun challenge challengeId teamId accountId => ?_⟩
  · calc
      computeTeamSolveScore E team r.2.challenges.rows r.2.submissions
          (buildChallengeSolvers r.2.submissions)
        = computeTeamSolveScore E team r.2.trimmed.challenges.rows r.2.trimmed.submissions
            (buildChallengeSolvers r.2.trimmed.submissions) :=
          (computeTeamSolveScore_stored E team r.2).symm
      _ = computeTeamSolveScore E team r'.2.trimmed.challenges.rows r'.2.trimmed.submissions
            (buildChallengeSolvers r'.2.trimmed.submissions) := by rw [hrows, hchallenges]
      _ = _ := computeTeamSolveScore_stored E team r'.2
  · rw [← board_trimmed, hstore, board_trimmed]
  · rw [← remainingAttempts_trimmed, hstore, remainingAttempts_trimmed]

theorem trimmed_of_samePadded {calls calls' : List SubmitCall}
    (h : List.Forall₂ SubmitCall.SamePadded calls calls') :
    calls.map SubmitCall.trimmed = calls'.map SubmitCall.trimmed := by
  induction h with
  | nil => rfl
  | @cons c c' calls calls' hc _ ih =>
    have htrimmed : c.trimmed = c'.trimmed := by
      rw [SubmitCall.trimmed, SubmitCall.trimmed, hc.1, hc.2]
    rw [List.map_cons, List.map_cons, htrimmed, ih]

/-- **Whitespace around a flag is never seen.** -/
theorem padding_unseen (E : Engines) (s : Store) {calls calls' : List SubmitCall}
    (h : List.Forall₂ SubmitCall.SamePadded calls calls') :
    List.Forall₂ (SameView E) (history E s calls) (history E s calls') := by
  have hhistory : (history E s calls).map Answered.trimmed =
      (history E s calls').map Answered.trimmed := by
    rw [← history_trimmed, ← history_trimmed, trimmed_of_samePadded h]
  have hequal : List.Forall₂ Eq ((history E s calls).map Answered.trimmed)
      ((history E s calls').map Answered.trimmed) := by
    rw [hhistory]
    exact List.forall₂_refl _
  refine List.Forall₂.imp (fun _ _ htrimmed => sameView_of_trimmed htrimmed) ?_
  exact List.forall₂_map_left_iff.mp (List.forall₂_map_right_iff.mp hequal)

/-! ## Two runs -/

/-- A flag in two parts, a text and the live flag of the instance. -/
def twoPartStore : Store where
  teams := redAndBlue
  challenges := .single (.plain "web" "Web" ⟨.pointValue, "100"⟩
    (.multi [⟨"text", .static "one", 1 / 2⟩, ⟨"live", .instanced, 1 / 2⟩]))
  submissions := []
  hintUnlocks := []
  activeFlag _ _ _ := none

/-- Alice submits two texts. -/
def submits (first second : String) : List SubmitCall :=
  [⟨"web", some ⟨"red"⟩, ⟨"alice"⟩, first, "10.0.0.1", "sub-1", 100, some "two"⟩,
    ⟨"web", some ⟨"red"⟩, ⟨"alice"⟩, second, "10.0.0.1", "sub-2", 200, some "two"⟩]

theorem padding_unseen_twoPart : List.Forall₂ (SameView .silent)
    (history .silent twoPartStore (submits "one" "two"))
    (history .silent twoPartStore (submits " one\n" "\ttwo ")) :=
  padding_unseen .silent twoPartStore
    (.cons ⟨rfl, by decide +kernel⟩ (.cons ⟨rfl, by decide +kernel⟩ .nil))

end Cctf

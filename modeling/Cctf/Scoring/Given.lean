import Cctf.Services.Scoreboard

/-!
# What a score depends on

The tables return submissions in any order, and two requests at the same time may store the
same flag twice.  The points of a team do not depend on it: they depend on who has given
which correct flag for which challenge.

* `Given`, `given` — a correct flag with its challenge, team and account; those of a list.
* `buildChallengeSolvers_congr`, `points_congr`, `solvedIds_congr` — **what the scoreboard
  computes from the rows it computes from the flags given**.
* `given_eq_of_repeats` — order, repetitions and wrong flags do not change these.
* `score_unordered` — the two together, with the challenges in any order as well.
-/

namespace Cctf

/-! ## Flags given -/

/-- A correct flag: for which challenge, by whom, and its text. -/
structure Given where
  challengeId : String
  teamId : Option TeamId
  accountId : AccountId
  flag : String
  deriving DecidableEq

/-- What a correct submission gives. -/
def Submission.given (sub : Submission) : Given :=
  ⟨sub.challengeId, sub.teamId, sub.accountId, sub.providedFlag⟩

/-- Whom a flag counts for. -/
def Given.solver (g : Given) : String :=
  match g.teamId with
  | some t => t.val
  | none => g.accountId.val

/-- The correct flags of some rows. -/
def given (subs : List Submission) : Finset Given :=
  ((subs.filter (·.isCorrect)).map Submission.given).toFinset

theorem mem_given {subs : List Submission} {g : Given} :
    g ∈ given subs ↔ ∃ sub ∈ subs, sub.isCorrect = true ∧ sub.given = g := by
  simp only [given, List.mem_toFinset, List.mem_map, List.mem_filter, and_assoc]

/-- A question about correct rows is one about the flags given. -/
theorem exists_correct_iff {subs : List Submission} (P : Given → Prop) :
    (∃ sub ∈ subs, sub.isCorrect = true ∧ P sub.given) ↔ ∃ g ∈ given subs, P g := by
  simp only [mem_given]
  constructor
  · rintro ⟨sub, hsub, hcorrect, hP⟩
    exact ⟨sub.given, ⟨sub, hsub, hcorrect, rfl⟩, hP⟩
  · rintro ⟨_, ⟨sub, hsub, hcorrect, rfl⟩, hP⟩
    exact ⟨sub, hsub, hcorrect, hP⟩

/-! ## Solvers -/

theorem mem_solverIds {challengeId x : String} {subs : List Submission} :
    x ∈ solverIds challengeId subs ↔
      ∃ g ∈ given subs, g.challengeId = challengeId ∧ g.solver = x := by
  rw [← exists_correct_iff fun g => g.challengeId = challengeId ∧ g.solver = x]
  simp only [solverIds, correctOn, List.mem_toFinset, List.mem_map, List.mem_filter,
    Bool.and_eq_true, decide_eq_true_eq]
  constructor
  · rintro ⟨sub, ⟨hsub, hid, hcorrect⟩, rfl⟩
    exact ⟨sub, hsub, hcorrect, hid, rfl⟩
  · rintro ⟨sub, hsub, hcorrect, hid, rfl⟩
    exact ⟨sub, ⟨hsub, hid, hcorrect⟩, rfl⟩

/-- A challenge has an entry when it has a solver. -/
theorem lookup_buildChallengeSolvers_eq (challengeId : String) (subs : List Submission) :
    (buildChallengeSolvers subs).lookup challengeId =
      if solverIds challengeId subs = ∅ then none else some (solverIds challengeId subs) := by
  have hentry := lookup_buildChallengeSolvers challengeId subs
  cases hlookup : (buildChallengeSolvers subs).lookup challengeId with
  | none =>
    rw [hlookup, Option.getD_none] at hentry
    rw [if_pos hentry.symm]
  | some solvers =>
    rw [hlookup, Option.getD_some] at hentry
    rw [← hentry, if_neg]
    -- an entry is made by an insertion, so it has an element
    rintro rfl
    rw [buildChallengeSolvers, Grouping.lookup_collect] at hlookup
    split at hlookup
    · cases hlookup
    · rename_i hrows
      obtain ⟨sub, hsub⟩ := List.exists_mem_of_ne_nil _ hrows
      have hempty := Option.some.inj hlookup
      rw [foldl_insert_eq, Finset.empty_union] at hempty
      have hmem : solverId sub ∈ (∅ : Finset String) := by
        rw [← hempty, List.mem_toFinset]
        exact List.mem_map_of_mem hsub
      exact absurd hmem (Finset.notMem_empty _)

section

variable {subs subs' : List Submission} (h : given subs' = given subs)
include h

theorem solverIds_congr (challengeId : String) :
    solverIds challengeId subs' = solverIds challengeId subs := by
  ext x
  rw [mem_solverIds, mem_solverIds, h]

/-- **The map of solvers depends on the flags given.** -/
theorem buildChallengeSolvers_congr :
    (buildChallengeSolvers subs').toFinmap = (buildChallengeSolvers subs).toFinmap := by
  refine Finmap.ext_lookup fun challengeId => ?_
  rw [Finmap.lookup_toFinmap, Finmap.lookup_toFinmap, lookup_buildChallengeSolvers_eq,
    lookup_buildChallengeSolvers_eq, solverIds_congr h]

theorem liveValue_congr (challenge : Challenge) :
    liveValue (buildChallengeSolvers subs') challenge =
      liveValue (buildChallengeSolvers subs) challenge := by
  rw [liveValue, liveValue, solverCount_buildChallengeSolvers, solverCount_buildChallengeSolvers,
    solverIds_congr h]

end

/-! ## Scores -/

/-- Whether some rows make a solve depends on whose they are. -/
theorem solvedBy_congr {rows rows' : List Submission}
    (h : ∀ m, (∃ sub ∈ rows', sub.accountId = m) ↔ ∃ sub ∈ rows, sub.accountId = m)
    (teamConsensus : Bool) (team : Team) :
    solvedBy teamConsensus team rows' = solvedBy teamConsensus team rows := by
  have hany : ∀ m : AccountId, (rows'.any fun sub => decide (sub.accountId = m)) =
      rows.any fun sub => decide (sub.accountId = m) := by
    intro m
    rw [Bool.eq_iff_iff, List.any_eq_true, List.any_eq_true]
    simpa using h m
  have hempty : rows'.isEmpty = rows.isEmpty := by
    rw [Bool.eq_iff_iff, List.isEmpty_iff, List.isEmpty_iff, List.eq_nil_iff_forall_not_mem,
      List.eq_nil_iff_forall_not_mem]
    constructor
    · intro hnone sub hsub
      obtain ⟨sub', hsub', -⟩ := (h sub.accountId).mpr ⟨sub, hsub, rfl⟩
      exact hnone sub' hsub'
    · intro hnone sub hsub
      obtain ⟨sub', hsub', -⟩ := (h sub.accountId).mp ⟨sub, hsub, rfl⟩
      exact hnone sub' hsub'
  rw [solvedBy, solvedBy, hempty]
  simp only [hany]

/-- The team has given a flag for the challenge that satisfies `P`, through the account. -/
def GivenBy (team : Team) (challengeId : String) (P : String → Prop) (accountId : AccountId)
    (g : Given) : Prop :=
  g.teamId = some team.id ∧ g.challengeId = challengeId ∧ P g.flag ∧ g.accountId = accountId

theorem exists_correctOn_iff {team : Team} {challengeId : String} {subs : List Submission}
    {m : AccountId} :
    (∃ sub ∈ correctOn challengeId (teamSubs team subs), sub.accountId = m) ↔
      ∃ g ∈ given subs, GivenBy team challengeId (fun _ => True) m g := by
  rw [← exists_correct_iff]
  simp only [correctOn, teamSubs, List.mem_filter, decide_eq_true_eq, Bool.and_eq_true, GivenBy,
    Submission.given]
  constructor
  · rintro ⟨sub, ⟨⟨hsub, hteam⟩, hid, hcorrect⟩, haccount⟩
    exact ⟨sub, hsub, hcorrect, hteam, hid, trivial, haccount⟩
  · rintro ⟨sub, hsub, hcorrect, hteam, hid, -, haccount⟩
    exact ⟨sub, ⟨⟨hsub, hteam⟩, hid, hcorrect⟩, haccount⟩

theorem exists_partSubs_iff {E : Engines} {team : Team} {challenge : Challenge}
    {subs : List Submission} {pf : PartialFlag} {m : AccountId} :
    (∃ sub ∈ partSubs E challenge (teamSubs team subs) pf, sub.accountId = m) ↔
      ∃ g ∈ given subs,
        GivenBy team challenge.id (fun f => pf.validator.isMatch E f (some f) = true) m g := by
  rw [← exists_correct_iff]
  simp only [partSubs, correctOn, teamSubs, List.mem_filter, decide_eq_true_eq, Bool.and_eq_true,
    GivenBy, Submission.given]
  constructor
  · rintro ⟨sub, ⟨⟨⟨hsub, hteam⟩, hid, hcorrect⟩, hmatch⟩, haccount⟩
    exact ⟨sub, hsub, hcorrect, hteam, hid, hmatch, haccount⟩
  · rintro ⟨sub, hsub, hcorrect, hteam, hid, hmatch, haccount⟩
    exact ⟨sub, ⟨⟨⟨hsub, hteam⟩, hid, hcorrect⟩, hmatch⟩, haccount⟩

/-- The score of a team from all submissions. -/
def scoreOf (E : Engines) (team : Team) (challenges : List Challenge) (subs : List Submission) :
    TeamSolveScore :=
  computeTeamSolveScore E team challenges subs (buildChallengeSolvers subs)

section

variable {subs subs' : List Submission} (h : given subs' = given subs) (E : Engines) (team : Team)
include h

theorem solvedBy_given_congr (challenge : Challenge) :
    solvedBy challenge.teamConsensus team (correctOn challenge.id (teamSubs team subs')) =
      solvedBy challenge.teamConsensus team (correctOn challenge.id (teamSubs team subs)) := by
  refine solvedBy_congr (fun m => ?_) _ team
  rw [exists_correctOn_iff, exists_correctOn_iff, h]

theorem partScored_congr (challenge : Challenge) :
    partScored E team challenge (teamSubs team subs') =
      partScored E team challenge (teamSubs team subs) := by
  refine funext fun pf => solvedBy_congr (fun m => ?_) _ team
  rw [exists_partSubs_iff, exists_partSubs_iff, h]

theorem challengeScored_congr (challenge : Challenge) :
    challengeScored E team (teamSubs team subs') challenge =
      challengeScored E team (teamSubs team subs) challenge := by
  unfold challengeScored
  cases challenge.flag with
  | multi partials => simp only [partScored_congr h]
  | _ => simp only [solvedBy_given_congr h]

theorem challengeValue_congr (decayed : UInt32) (challenge : Challenge) :
    challengeValue E team (teamSubs team subs') decayed challenge =
      challengeValue E team (teamSubs team subs) decayed challenge := by
  unfold challengeValue
  cases challenge.flag with
  | multi partials => simp only [partScored_congr h]
  | _ => simp only [solvedBy_given_congr h]

/-- **The points depend on the flags given.** -/
theorem points_congr (challenges : List Challenge) :
    (scoreOf E team challenges subs').points = (scoreOf E team challenges subs).points := by
  rw [scoreOf, scoreOf, computeTeamSolveScore_points, computeTeamSolveScore_points]
  refine congrArg List.sum (List.map_congr_left fun challenge _ => ?_)
  rw [liveValue_congr h, challengeValue_congr h]

/-- **So do the solves**, in their order. -/
theorem solvedIds_congr (challenges : List Challenge) :
    (scoreOf E team challenges subs').solvedIds = (scoreOf E team challenges subs).solvedIds := by
  rw [scoreOf, scoreOf, computeTeamSolveScore_solvedIds, computeTeamSolveScore_solvedIds]
  refine congrArg (List.map _) (List.filter_congr fun challenge _ => ?_)
  rw [challengeScored_congr h]

end

/-! ## Challenges in another order -/

section

variable {challenges challenges' : List Challenge} (h : challenges'.Perm challenges) (E : Engines)
  (team : Team) (subs : List Submission)
include h

theorem points_perm :
    (scoreOf E team challenges' subs).points = (scoreOf E team challenges subs).points := by
  rw [scoreOf, scoreOf, computeTeamSolveScore_points, computeTeamSolveScore_points]
  exact (h.map _).sum_eq

theorem solvedIds_perm :
    (scoreOf E team challenges' subs).solvedIds.Perm (scoreOf E team challenges subs).solvedIds := by
  rw [scoreOf, scoreOf, computeTeamSolveScore_solvedIds, computeTeamSolveScore_solvedIds]
  exact (h.filter _).map _

end

/-! ## Order, repetitions and wrong flags -/

/-- The row repeats a correct one: the same flag for the same challenge, by the same account
on the same team.  Its id, its time and its points may be other ones. -/
def Submission.Repeats (row : Submission) (subs : List Submission) : Prop :=
  row.isCorrect = true ∧ ∃ old ∈ subs, old.isCorrect = true ∧
    old.challengeId = row.challengeId ∧ old.teamId = row.teamId ∧
      old.accountId = row.accountId ∧ old.providedFlag = row.providedFlag

/-- **Order, repetitions and wrong flags do not change what was given.** -/
theorem given_eq_of_repeats {subs subs' extra : List Submission}
    (hrows : subs'.Perm (subs ++ extra))
    (hextra : ∀ row ∈ extra, row.isCorrect = false ∨ row.Repeats subs) :
    given subs' = given subs := by
  ext g
  rw [mem_given, mem_given]
  constructor
  · rintro ⟨sub, hsub, hcorrect, rfl⟩
    rcases List.mem_append.mp (hrows.mem_iff.mp hsub) with hold | hnew
    · exact ⟨sub, hold, hcorrect, rfl⟩
    · rcases hextra sub hnew with hwrong | ⟨-, old, hold, hcorrect', hid, hteam, haccount, hflag⟩
      · rw [hcorrect] at hwrong
        cases hwrong
      · exact ⟨old, hold, hcorrect', by rw [Submission.given, hid, hteam, haccount, hflag]; rfl⟩
  · rintro ⟨sub, hsub, hcorrect, rfl⟩
    exact ⟨sub, hrows.mem_iff.mpr (List.mem_append_left _ hsub), hcorrect, rfl⟩

theorem given_perm {subs subs' : List Submission} (h : subs'.Perm subs) :
    given subs' = given subs := by
  have hrows : subs'.Perm (subs ++ []) := by rwa [List.append_nil]
  exact given_eq_of_repeats hrows fun _ hrow => absurd hrow List.not_mem_nil

/-- **Scores do not depend on the order of rows, nor on what is repeated or wrong**: the map
of solvers, the points and the solves are the same; with the challenges in another order the
points and the set of solves still are. -/
theorem score_unordered {subs subs' extra : List Submission} (hrows : subs'.Perm (subs ++ extra))
    (hextra : ∀ row ∈ extra, row.isCorrect = false ∨ row.Repeats subs) :
    (buildChallengeSolvers subs').toFinmap = (buildChallengeSolvers subs).toFinmap ∧
      ∀ E team challenges,
        (scoreOf E team challenges subs').points = (scoreOf E team challenges subs).points ∧
        (scoreOf E team challenges subs').solvedIds =
          (scoreOf E team challenges subs).solvedIds ∧
        ∀ challenges', challenges'.Perm challenges →
          (scoreOf E team challenges' subs').points = (scoreOf E team challenges subs).points ∧
          ∀ id, id ∈ (scoreOf E team challenges' subs').solvedIds ↔
            id ∈ (scoreOf E team challenges subs).solvedIds := by
  have h := given_eq_of_repeats hrows hextra
  refine ⟨buildChallengeSolvers_congr h, fun E team challenges => ?_⟩
  refine ⟨points_congr h E team challenges, solvedIds_congr h E team challenges, ?_⟩
  intro challenges' hperm
  constructor
  · rw [points_congr h, points_perm hperm]
  · intro id
    rw [solvedIds_congr h]
    exact (solvedIds_perm hperm E team subs).mem_iff

/-- Alice's flag for `red`. -/
def firstRow : Submission := .correct "1" "c" (some "red") "alice" "flag" 100 0

/-- The same flag, stored again later. -/
def secondRow : Submission := .correct "2" "c" (some "red") "alice" "flag" 50 9

/-- A wrong flag. -/
def wrongRow : Submission := { firstRow with id := "3", providedFlag := "flug", isCorrect := false }

theorem score_unordered_twice :
    (scoreOf .silent (.plain "red" ["alice"]) [.plain "c" "c" ⟨.pointValue, "100"⟩ (.static "flag")]
        [wrongRow, secondRow, firstRow]).points =
      (scoreOf .silent (.plain "red" ["alice"])
        [.plain "c" "c" ⟨.pointValue, "100"⟩ (.static "flag")] [firstRow]).points := by
  have hrows : [wrongRow, secondRow, firstRow].Perm ([firstRow] ++ [secondRow, wrongRow]) := by
    decide
  refine ((score_unordered hrows fun row hrow => ?_).2 _ _ _).1
  rcases List.mem_cons.mp hrow with rfl | hrow
  · exact .inr ⟨rfl, firstRow, List.mem_singleton_self _, rfl, rfl, rfl, rfl, rfl⟩
  · obtain rfl := List.mem_singleton.mp hrow
    exact .inl rfl

end Cctf

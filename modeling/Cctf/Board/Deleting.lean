import Mathlib.Algebra.Order.BigOperators.Group.List
import Cctf.Board.RowOrder
import Cctf.Challenges.Updating

/-!
# The board after a challenge is deleted

`ChallengeRepo::delete` with the solves removes the challenge and its submissions.  Nothing
removes its hint unlocks, and the board goes on deducting what they cost.

* `boardOf` — the board over the tables of the database.
* `exec_delete` — what the deletion leaves.
* `HintsUnaffected` — what a team has spent on hints of the challenge does not change its
  points.
* `board_delete_iff` — **the board is the one of a store that never had the challenge exactly
  when this holds of every team**.
-/

namespace Cctf

open Rounding Pg ScoreboardService

/-! ## Deductions -/

/-- A deduction is the same with and without a part `lost` of what is spent. -/
def Unaffected (points kept lost : ℤ) : HintDeductionMode → Prop
  | .none => True
  | .allowNegative => lost = 0
  | .floorZero => lost = 0 ∨ points ≤ kept
  | .gate => lost = 0 ∨ points ≤ kept

theorem applyHintDeduction_add_eq_iff {points kept lost : ℤ} (h : 0 ≤ lost)
    (mode : HintDeductionMode) :
    applyHintDeduction points (kept + lost) mode = applyHintDeduction points kept mode ↔
      Unaffected points kept lost mode := by
  cases mode with
  | none => exact iff_of_true rfl trivial
  | allowNegative =>
    simp only [applyHintDeduction, Unaffected]
    omega
  | floorZero =>
    simp only [applyHintDeduction, Unaffected]
    omega
  | gate =>
    simp only [applyHintDeduction, Unaffected]
    omega

theorem totalHintCost_nonneg (unlocks : List HintUnlock) (teamId : Option TeamId)
    (accountId : Option AccountId) : 0 ≤ totalHintCost unlocks teamId accountId := by
  refine List.sum_nonneg fun x hx => ?_
  obtain ⟨u, -, rfl⟩ := List.mem_map.mp hx
  exact Int.natCast_nonneg _

/-- What is spent, on a challenge and on the others. -/
theorem totalHintCost_split (challengeId : String) (unlocks : List HintUnlock)
    (teamId : Option TeamId) (accountId : Option AccountId) :
    totalHintCost unlocks teamId accountId =
      totalHintCost (unlocks.filter fun u => u.challengeId ≠ challengeId) teamId accountId +
        totalHintCost (unlocks.filter fun u => u.challengeId = challengeId) teamId accountId := by
  have hperm := List.filter_append_perm (fun u : HintUnlock => u.challengeId ≠ challengeId) unlocks
  rw [← totalHintCost_append, ← totalHintCost_perm hperm]
  simp

theorem ScoreboardService.visibleUnlocks_filter (cfg : ScoreboardService) (p : HintUnlock → Bool)
    (unlocks : List HintUnlock) :
    cfg.visibleUnlocks (unlocks.filter p) = (cfg.visibleUnlocks unlocks).filter p := by
  unfold visibleUnlocks
  cases cfg.freezeTime with
  | none => rfl
  | some freeze => exact List.filter_comm _ _ _

/-! ## Boards with other unlocks -/

section

variable {E : Engines} {cfg : ScoreboardService} {filterBracket : Option String} {s : Store}

variable (E cfg filterBracket s) in
/-- Two boards of a store that differ in the unlocks they charge are the same when every team
has the same points on both. -/
theorem board_unlocks_iff (unlocks : List HintUnlock) :
    board E cfg filterBracket s = board E cfg filterBracket { s with hintUnlocks := unlocks } ↔
      ∀ team ∈ bracketTeams filterBracket s.teams.rows,
        (teamLine E cfg s team).points =
          (teamLine E cfg { s with hintUnlocks := unlocks } team).points := by
  constructor
  · intro hboards team hteam
    obtain ⟨rank, hmem⟩ := exists_mem_board E cfg filterBracket s hteam
    have hrow : team ∈ s.teams.rows := (bracketTeams_sublist _ _).subset hteam
    rw [hboards] at hmem
    have hline := eq_teamLine (s := { s with hintUnlocks := unlocks }) hrow hmem rfl
    have hpoints := congrArg ScoreboardEntry.points hline
    exact hpoints
  · intro hpoints
    have hlines : (bracketTeams filterBracket s.teams.rows).map (teamLine E cfg s) =
        (bracketTeams filterBracket s.teams.rows).map
          (teamLine E cfg { s with hintUnlocks := unlocks }) := by
      refine List.map_congr_left fun team hteam => ?_
      rw [show teamLine E cfg s team = { teamLine E cfg { s with hintUnlocks := unlocks } team with
        points := (teamLine E cfg s team).points } from rfl, hpoints team hteam]
    exact congrArg (fun lines : List ScoreboardEntry => assignRanks (lines.insertionSort
      fun a b => cfg.compareEntries (cfg.visibleSubs s.submissions) a b ≠ .gt)) hlines

end

/-! ## The deletion -/

section

variable (D : FromValue) (E : Engines) (cfg : ScoreboardService) (filterBracket : Option String)

/-- `ChallengeRepo::find_all`: it fails when a row cannot be read. -/
def challengesOf (t : ChallengeTables) : Except String (List Challenge) :=
  t.challenges.rows.mapM (Pg.ChallengeRepo.mapChallenge D)

/-- What `get_scoreboard` returns over the tables of the database. -/
def boardOf (teams : Table Team TeamId Team.id) (unlocks : List HintUnlock)
    (t : ChallengeTables) : Except String (List ScoreboardEntry) :=
  (challengesOf D t).map fun challenges =>
    standings E cfg filterBracket teams.rows t.submissions challenges unlocks

/-- The tables without a challenge and its submissions. -/
def Pg.ChallengeTables.without (t : ChallengeTables) (challengeId : String) : ChallengeTables where
  challenges := t.challenges.erase challengeId
  submissions := t.submissions.filter fun sub => sub.challengeId ≠ challengeId

/-- **What a deletion leaves.** -/
theorem exec_delete (refusal : String) (t : ChallengeTables) (challengeId : String) :
    Program.exec (Pg.ChallengeRepo.handler refusal) t (Pg.ChallengeRepo.delete challengeId true) =
      (.ok (), t.without challengeId) := rfl

theorem of_bind_eq_ok {ε α β : Type} {x : Except ε α} {f : α → Except ε β} {r : β}
    (h : x >>= f = .ok r) : ∃ a, x = .ok a ∧ f a = .ok r := by
  cases x with
  | error e => cases h
  | ok a => exact ⟨a, rfl, h⟩

theorem id_of_mapChallenge {row : ChallengeRow} {challenge : Challenge}
    (h : Pg.ChallengeRepo.mapChallenge D row = .ok challenge) : challenge.id = row.key := by
  obtain ⟨_, -, h⟩ := of_bind_eq_ok h
  obtain ⟨_, -, h⟩ := of_bind_eq_ok h
  obtain ⟨_, -, h⟩ := of_bind_eq_ok h
  obtain ⟨_, -, h⟩ := of_bind_eq_ok h
  obtain ⟨_, -, h⟩ := of_bind_eq_ok h
  obtain ⟨_, -, h⟩ := of_bind_eq_ok h
  cases h
  rfl

/-- The challenges that are read have the keys of the rows. -/
theorem ids_of_mapM {rows : List ChallengeRow} {challenges : List Challenge}
    (h : rows.mapM (Pg.ChallengeRepo.mapChallenge D) = .ok challenges) :
    challenges.map (·.id) = rows.map ChallengeRow.key := by
  induction rows generalizing challenges with
  | nil =>
    obtain rfl : [] = challenges := by simpa [pure, Except.pure] using h
    rfl
  | cons row rows ih =>
    rw [List.mapM_cons] at h
    obtain ⟨challenge, hrow, h⟩ := of_bind_eq_ok h
    obtain ⟨rest, hrows, h⟩ := of_bind_eq_ok h
    cases h
    rw [List.map_cons, List.map_cons, id_of_mapChallenge D hrow, ih hrows]

/-- The points of a line, with the unlocks on one challenge set apart. -/
theorem points_teamLine (s : Store) (challengeId : String) (team : Team) :
    (teamLine E cfg s team).points =
      applyHintDeduction (scoreOf E team s.challenges.rows (cfg.visibleSubs s.submissions)).points
        (totalHintCost (cfg.visibleUnlocks
            (s.hintUnlocks.filter fun u => u.challengeId ≠ challengeId)) (some team.id) none +
          totalHintCost (cfg.visibleUnlocks
            (s.hintUnlocks.filter fun u => u.challengeId = challengeId)) (some team.id) none)
        cfg.hintDeductionMode := by
  rw [visibleUnlocks_filter, visibleUnlocks_filter, ← totalHintCost_split]
  rfl

/-- What a team has spent on hints of a challenge does not change its points. -/
def HintsUnaffected (challenges : List Challenge) (submissions : List Submission)
    (unlocks : List HintUnlock) (challengeId : String) (team : Team) : Prop :=
  Unaffected (scoreOf E team challenges (cfg.visibleSubs submissions)).points
    (totalHintCost (cfg.visibleUnlocks (unlocks.filter fun u => u.challengeId ≠ challengeId))
      (some team.id) none)
    (totalHintCost (cfg.visibleUnlocks (unlocks.filter fun u => u.challengeId = challengeId))
      (some team.id) none)
    cfg.hintDeductionMode

/-- The board after the deletion, against the one of a store that never had the challenge. -/
theorem boardOf_without_iff (teams : Table Team TeamId Team.id) (unlocks : List HintUnlock)
    (t : ChallengeTables) (challengeId : String) :
    boardOf D E cfg filterBracket teams unlocks t =
        boardOf D E cfg filterBracket teams
          (unlocks.filter fun u => u.challengeId ≠ challengeId) t ↔
      ∀ challenges, challengesOf D t = .ok challenges →
        ∀ team ∈ bracketTeams filterBracket teams.rows,
          HintsUnaffected E cfg challenges t.submissions unlocks challengeId team := by
  unfold boardOf
  cases hread : challengesOf D t with
  | error e => exact iff_of_true rfl nofun
  | ok challenges =>
    have hnodup : (challenges.map (·.id)).Nodup := by
      rw [ids_of_mapM D hread]
      exact t.challenges.nodup
    let s : Store := ⟨teams, ⟨challenges, hnodup⟩, t.submissions, unlocks, fun _ _ _ => none⟩
    have hboards := board_unlocks_iff E cfg filterBracket s
      (unlocks.filter fun u => u.challengeId ≠ challengeId)
    have hpoints : ∀ team, (teamLine E cfg s team).points =
        (teamLine E cfg { s with
          hintUnlocks := unlocks.filter fun u => u.challengeId ≠ challengeId } team).points ↔
        HintsUnaffected E cfg challenges t.submissions unlocks challengeId team := by
      intro team
      rw [points_teamLine E cfg s challengeId team]
      exact applyHintDeduction_add_eq_iff (totalHintCost_nonneg _ _ _) _
    simp only [hpoints] at hboards
    simp only [Except.map, Except.ok.injEq, forall_eq']
    exact hboards

end

/-- A hint of the challenge that red has paid for. -/
def paidHint : HintUnlock := ⟨"u", "web", 0, some ⟨"red"⟩, ⟨"alice"⟩, 10, 0⟩

end Cctf

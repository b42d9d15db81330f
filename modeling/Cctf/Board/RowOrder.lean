import Cctf.Board.Ranking
import Cctf.Scoring.Given
import Cctf.Scoring.LastSolve

/-!
# The order of the rows

No `find_all` orders its rows, so a database may return them in any order.  What a line of the
board says does not depend on that, and neither does who beats whom.  But the sort is stable:
teams that are tied keep the order `TeamRepo::find_all` returned them in, and are numbered in
that order.

* `SameRows` — two stores with the same rows.
* `compareTeams_congr` — the comparison of two teams is the same in both.
* `rank_eq` — **the rank of a team**: one more than the teams that beat it and the tied teams
  that were returned before it.
* `rank_row_order` — so only the order of tied teams matters, on the board and in the export.
-/

namespace Cctf

open Rounding

/-- The tables hold the same rows, each in an order of its own. -/
structure SameRows (s s' : Store) : Prop where
  teams : s'.teams.rows.Perm s.teams.rows
  challenges : s'.challenges.rows.Perm s.challenges.rows
  submissions : s'.submissions.Perm s.submissions
  hintUnlocks : s'.hintUnlocks.Perm s.hintUnlocks

/-! ## Scores -/

section

variable {E : Engines} {team : Team} {subs subs' : List Submission}

theorem creditedAt_perm (h : subs'.Perm subs) (challenge : Challenge) (x : ℤ) :
    CreditedAt E team (teamSubs team subs') challenge x ↔
      CreditedAt E team (teamSubs team subs) challenge x := by
  have hgiven := given_perm h
  have hteam : (teamSubs team subs').Perm (teamSubs team subs) := h.filter _
  have hon := hteam.filter fun sub => decide (sub.challengeId = challenge.id) && sub.isCorrect
  have hsent : ∀ {rows rows' : List Submission}, rows'.Perm rows →
      (SentAt rows' x ↔ SentAt rows x) := by
    intro rows rows' hrows
    simp only [SentAt, hrows.mem_iff]
  unfold CreditedAt
  cases challenge.flag with
  | multi partials =>
    have hparts : ∀ pf, SentAt (partSubs E challenge (teamSubs team subs') pf) x ↔
        SentAt (partSubs E challenge (teamSubs team subs) pf) x := fun pf => hsent (hon.filter _)
    simp only [partScored_congr hgiven, hparts]
  | _ =>
    simp only
    rw [solvedBy_given_congr hgiven]
    exact and_congr_right fun _ => hsent hon

/-- The last solve does not depend on the order of rows and challenges. -/
theorem lastSolveTime_perm {challenges challenges' : List Challenge} (h : subs'.Perm subs)
    (hchallenges : challenges'.Perm challenges) :
    (scoreOf E team challenges' subs').lastSolveTime =
      (scoreOf E team challenges subs).lastSolveTime := by
  refine (latest_lastSolveTime challenges' subs' _).unique ?_
  refine (latest_lastSolveTime challenges subs _).congr fun x => ?_
  simp only [hchallenges.mem_iff, creditedAt_perm h]

end

namespace ScoreboardService

theorem getAccuracy_perm {subs subs' : List Submission} (h : subs'.Perm subs) (teamId : TeamId) :
    getAccuracy subs' teamId = getAccuracy subs teamId := by
  have hown := h.filter fun sub => decide (sub.teamId = some teamId)
  unfold getAccuracy
  simp only [List.isEmpty_iff_length_eq_zero, hown.length_eq,
    (hown.filter fun sub => sub.isCorrect).length_eq]

theorem totalHintCost_perm {unlocks unlocks' : List HintUnlock} (h : unlocks'.Perm unlocks)
    (teamId : Option TeamId) (accountId : Option AccountId) :
    totalHintCost unlocks' teamId accountId = totalHintCost unlocks teamId accountId :=
  ((h.filter _).map _).sum_eq

/-! ## Lines -/

section

variable {E : Engines} {cfg : ScoreboardService} {s s' : Store} (h : SameRows s s')
include h

theorem visibleSubs_perm : (cfg.visibleSubs s'.submissions).Perm (cfg.visibleSubs s.submissions) := by
  unfold visibleSubs
  cases cfg.freezeTime with
  | none => exact h.submissions
  | some freeze => exact h.submissions.filter _

theorem visibleUnlocks_perm :
    (cfg.visibleUnlocks s'.hintUnlocks).Perm (cfg.visibleUnlocks s.hintUnlocks) := by
  unfold visibleUnlocks
  cases cfg.freezeTime with
  | none => exact h.hintUnlocks
  | some freeze => exact h.hintUnlocks.filter _

variable (E cfg) in
/-- **What a line says** is the same: the points and the last solve. -/
theorem teamLine_perm (team : Team) :
    (teamLine E cfg s' team).points = (teamLine E cfg s team).points ∧
      (teamLine E cfg s' team).lastSolveTime = (teamLine E cfg s team).lastSolveTime := by
  have hsubs : (cfg.visibleSubs s'.submissions).Perm (cfg.visibleSubs s.submissions) :=
    visibleSubs_perm h
  constructor
  · show applyHintDeduction (scoreOf E team s'.challenges.rows _).points _ _ =
      applyHintDeduction (scoreOf E team s.challenges.rows _).points _ _
    rw [points_congr (given_perm hsubs), points_perm h.challenges,
      totalHintCost_perm (visibleUnlocks_perm h)]
  · exact lastSolveTime_perm hsubs h.challenges

/-- **Who beats whom** is the same. -/
theorem compareTeams_congr : compareTeams E cfg s' = compareTeams E cfg s := by
  funext t u
  obtain ⟨hpoints, htime⟩ := teamLine_perm E cfg h t
  obtain ⟨hpoints', htime'⟩ := teamLine_perm E cfg h u
  have hsubs : (cfg.visibleSubs s'.submissions).Perm (cfg.visibleSubs s.submissions) :=
    visibleSubs_perm h
  have haccuracy := getAccuracy_perm hsubs
  unfold compareTeams compareEntries
  rw [hpoints, htime, hpoints', htime', haccuracy, haccuracy]
  rfl

theorem bracketTeams_perm (filterBracket : Option String) :
    (bracketTeams filterBracket s'.teams.rows).Perm (bracketTeams filterBracket s.teams.rows) := by
  cases filterBracket with
  | none => exact h.teams
  | some bracket => exact h.teams.filter _

end

/-! ## Ranks -/

section

variable (E : Engines) (cfg : ScoreboardService) (filterBracket : Option String) (s : Store)

/-- How many teams of the board beat a team. -/
def beatenBy (team : Team) : ℕ :=
  (bracketTeams filterBracket s.teams.rows).countP fun t => compareTeams E cfg s t team = .lt

/-- How many teams that are tied with a team come before it in some order of the teams. -/
def tiesBefore (teams : List Team) (team : Team) : ℕ :=
  ((bracketTeams filterBracket teams).takeWhile fun t => t.id ≠ team.id).countP fun t =>
    compareTeams E cfg s t team = .eq

/-- A team with the teams before it and after it. -/
theorem exists_takeWhile {team : Team} (hteam : team ∈ bracketTeams filterBracket s.teams.rows) :
    ∃ after, bracketTeams filterBracket s.teams.rows =
      (bracketTeams filterBracket s.teams.rows).takeWhile (fun t => t.id ≠ team.id) ++
        team :: after := by
  have hnodup := nodup_bracketTeams filterBracket s
  obtain ⟨before, after, hsplit⟩ := List.append_of_mem hteam
  rw [hsplit, List.map_append, List.map_cons, List.nodup_append] at hnodup
  have hbefore : ∀ t ∈ before, decide (t.id ≠ team.id) = true := by
    intro t ht
    exact decide_eq_true (hnodup.2.2 t.id (List.mem_map_of_mem ht) team.id List.mem_cons_self)
  refine ⟨after, ?_⟩
  rw [hsplit, List.takeWhile_append_of_pos hbefore, List.takeWhile_cons_of_neg (by simp),
    List.append_nil]

/-- **The rank of a team**: one more than the teams that beat it, and those tied with it that
come before it. -/
theorem rank_eq {team : Team} (hteam : team ∈ bracketTeams filterBracket s.teams.rows)
    {e : ScoreboardEntry} (he : e ∈ board E cfg filterBracket s) (hid : e.teamId = team.id) :
    e.rank = wrapU32 (beatenBy E cfg filterBracket s team +
      tiesBefore E cfg filterBracket s s.teams.rows team + 1) := by
  obtain ⟨after, hsplit⟩ := exists_takeWhile filterBracket s hteam
  obtain ⟨better, worse, hranked, hplace⟩ := Ranking.exists_place (compareTeams E cfg s)
    ((bracketTeams filterBracket s.teams.rows).takeWhile fun t => t.id ≠ team.id) after team
  rw [← hsplit] at hranked
  obtain ⟨i, hi⟩ := List.getElem?_of_mem he
  -- the line of the team stands where the team does
  have hat : i = better.length := by
    rw [getElem?_board] at hi
    obtain ⟨t, ht, rfl⟩ := Option.map_eq_some_iff.mp hi
    have hnodup : ((rankedTeams E cfg filterBracket s).map (·.id)).Nodup :=
      ((Ranking.perm_sort _ _).map _).nodup_iff.mpr (nodup_bracketTeams filterBracket s)
    have hteamAt : (rankedTeams E cfg filterBracket s)[better.length]? = some team := by
      rw [rankedTeams, hranked, List.getElem?_append_right (le_refl _), Nat.sub_self]
      rfl
    have hlt : i < ((rankedTeams E cfg filterBracket s).map (·.id)).length := by
      rw [List.length_map]
      exact (List.getElem?_eq_some_iff.mp ht).1
    refine (List.getElem?_inj hlt hnodup).mp ?_
    rw [List.getElem?_map, List.getElem?_map, ht, hteamAt]
    exact congrArg some hid
  rw [rank_of_getElem? E cfg filterBracket s hi, hat, hplace, Ranking.place, ← hsplit]
  rfl

/-- The lines of the export have the ranks of the board. -/
theorem pos_exportOf :
    (exportOf E cfg s).standings.map (fun line => (line.team, line.pos)) =
      (board E cfg none s).map fun e => (e.teamName, some e.rank) := by
  rw [exportOf, ctftimeExport, List.map_map]
  rfl

end

/-- What two orders of the same rows make of a team.  They differ only in how many of the teams
tied with it come before it. -/
structure RankedAlike (E : Engines) (cfg : ScoreboardService) (filterBracket : Option String)
    (s s' : Store) (team : Team) : Prop where
  line : ∀ e ∈ board E cfg filterBracket s, ∀ e' ∈ board E cfg filterBracket s',
    e.teamId = team.id → e'.teamId = team.id →
      e'.points = e.points ∧ e'.lastSolveTime = e.lastSolveTime
  rank : ∀ e ∈ board E cfg filterBracket s, e.teamId = team.id →
    e.rank = wrapU32 (beatenBy E cfg filterBracket s team +
      tiesBefore E cfg filterBracket s s.teams.rows team + 1)
  rank' : ∀ e' ∈ board E cfg filterBracket s', e'.teamId = team.id →
    e'.rank = wrapU32 (beatenBy E cfg filterBracket s team +
      tiesBefore E cfg filterBracket s s'.teams.rows team + 1)

section

variable {E : Engines} {cfg : ScoreboardService} {filterBracket : Option String} {s s' : Store}

/-- The line of a team on the board. -/
theorem eq_teamLine {team : Team} (hteam : team ∈ s.teams.rows) {e : ScoreboardEntry}
    (he : e ∈ board E cfg filterBracket s) (hid : e.teamId = team.id) :
    e = { teamLine E cfg s team with rank := e.rank } := by
  obtain ⟨t, ht, rank, rfl⟩ := of_mem_standings he
  have hmem : t ∈ s.teams.rows := (bracketTeams_sublist _ _).subset ht
  rw [s.teams.eq_of_key_eq hmem hteam hid]
  rfl

/-- **Only the order of tied teams matters**: for every team of a board and of the export, the
line is the same in every order of the rows, and the rank is one more than the teams that beat
it and the tied teams that `TeamRepo::find_all` returns before it. -/
theorem rank_row_order (h : SameRows s s') :
    (∀ filterBracket, ∀ team ∈ bracketTeams filterBracket s.teams.rows,
      RankedAlike E cfg filterBracket s s' team) ∧
    ∀ store : Store, (exportOf E cfg store).standings.map (fun line => (line.team, line.pos)) =
      (board E cfg none store).map fun e => (e.teamName, some e.rank) := by
  refine ⟨fun filterBracket team hteam => ?_, pos_exportOf E cfg⟩
  have hperm := bracketTeams_perm h filterBracket
  have hteam' : team ∈ bracketTeams filterBracket s'.teams.rows := hperm.mem_iff.mpr hteam
  have hmem : team ∈ s.teams.rows := (bracketTeams_sublist _ _).subset hteam
  constructor
  · intro e he e' he' hid hid'
    rw [eq_teamLine hmem he hid, eq_teamLine (h.teams.mem_iff.mpr hmem) he' hid']
    exact teamLine_perm E cfg h team
  · intro e he hid
    exact rank_eq E cfg filterBracket s hteam he hid
  · intro e' he' hid'
    have hbeaten : beatenBy E cfg filterBracket s' team = beatenBy E cfg filterBracket s team := by
      rw [beatenBy, beatenBy, compareTeams_congr h, hperm.countP_eq]
    rw [rank_eq E cfg filterBracket s' hteam' he' hid', hbeaten, tiesBefore, tiesBefore,
      compareTeams_congr h]

end

/-- Two teams that have done nothing yet. -/
def redFirst : Store where
  teams := redAndBlue
  challenges := .empty
  submissions := []
  hintUnlocks := []
  activeFlag := fun _ _ _ => none

/-- The same teams in the other order. -/
def blueFirst : Store := { redFirst with teams := ⟨redAndBlue.rows.reverse, by decide⟩ }

theorem sameRows_redFirst : SameRows redFirst blueFirst where
  teams := List.reverse_perm _
  challenges := List.Perm.refl _
  submissions := List.Perm.refl _
  hintUnlocks := List.Perm.refl _

theorem rank_row_order_redFirst :
    (∀ filterBracket, ∀ team ∈ bracketTeams filterBracket redFirst.teams.rows,
      RankedAlike .silent ⟨false, none, .none⟩ filterBracket redFirst blueFirst team) ∧
    ∀ store : Store, (exportOf .silent ⟨false, none, .none⟩ store).standings.map
        (fun line => (line.team, line.pos)) =
      (board .silent ⟨false, none, .none⟩ none store).map fun e => (e.teamName, some e.rank) :=
  rank_row_order sameRows_redFirst

/-- **Tied teams change places with their rows**, on the board and in the export. -/
theorem not_rank_row_order :
    ¬ ∀ (E : Engines) (cfg : ScoreboardService) (filterBracket : Option String) (s s' : Store),
      SameRows s s' → ∀ e ∈ board E cfg filterBracket s, ∀ e' ∈ board E cfg filterBracket s',
        e.teamId = e'.teamId → e.rank = e'.rank := by
  intro hclaim
  have hsame := hclaim .silent ⟨false, none, .none⟩ none redFirst blueFirst sameRows_redFirst
  revert hsame
  decide +kernel

end ScoreboardService

end Cctf

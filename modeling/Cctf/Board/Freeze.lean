import Cctf.Services.Scoreboard

/-!
# The frozen scoreboard

With a freeze time set, the standings are to show nothing that happened at or
after it.  This file compares two stores that agree up to the freeze and may
differ in any way after it.

* `AgreeBefore` — the relation between the two stores.
* `board_frozen` — the scoreboard is the same for both, under every filter.
* `frozen_agrees_iff` — **the export is the same exactly when the last correct
  row of every team on every task is**: its task statistics read all rows, also
  the late ones.
* `frozen_agrees_of_quiet` — it is, when nobody solves anything after the freeze.
* `export_reveals_late_solve` — a solve after the freeze that the export shows.
-/

namespace Cctf

open ScoreboardService

/-- Two stores that agree on teams, challenges, and everything before `freeze`. -/
structure AgreeBefore (freeze : ℤ) (s s' : Store) : Prop where
  teams : s.teams = s'.teams
  challenges : s.challenges = s'.challenges
  submissions : (s.submissions.filter fun sub => decide (sub.submittedAt < freeze)) =
    s'.submissions.filter fun sub => decide (sub.submittedAt < freeze)
  unlocks : (s.hintUnlocks.filter fun u => decide (u.unlockedAt < freeze)) =
    s'.hintUnlocks.filter fun u => decide (u.unlockedAt < freeze)

section

variable {E : Engines} {cfg : ScoreboardService} {freeze : ℤ} {s s' : Store}

/-- **The scoreboard shows nothing after the freeze**, whatever the filter. -/
theorem board_frozen (hfreeze : cfg.freezeTime = some freeze) (h : AgreeBefore freeze s s')
    (filterBracket : Option String) :
    board E cfg filterBracket s = board E cfg filterBracket s' := by
  have hsubs : cfg.visibleSubs s.submissions = cfg.visibleSubs s'.submissions := by
    simp only [visibleSubs, hfreeze]
    exact h.submissions
  have hunlocks : cfg.visibleUnlocks s.hintUnlocks = cfg.visibleUnlocks s'.hintUnlocks := by
    simp only [visibleUnlocks, hfreeze]
    exact h.unlocks
  rw [board, board, standings, standings, hsubs, hunlocks, h.teams, h.challenges]

/-- The export of a frozen board differs in the task statistics only. -/
theorem exportOf_eq_iff (hfreeze : cfg.freezeTime = some freeze) (h : AgreeBefore freeze s s') :
    exportOf E cfg s = exportOf E cfg s' ↔
      ∀ team ∈ s.teams.rows,
        taskStats (challengeMap s.challenges.rows) (teamSolves team.id s.submissions) =
          taskStats (challengeMap s.challenges.rows) (teamSolves team.id s'.submissions) := by
  rw [exportOf, exportOf, ← board_frozen hfreeze h, ← h.challenges, ctftimeExport, ctftimeExport,
    CtfTimeScoreboardExport.mk.injEq]
  constructor
  · rintro ⟨-, hlines⟩ team hteam
    obtain ⟨rank, hmem⟩ := exists_mem_board E cfg none s hteam
    exact (CtfTimeStandingsEntry.mk.inj (List.map_inj_left.1 hlines _ hmem)).2.2.2
  · intro hstats
    refine ⟨rfl, List.map_inj_left.2 fun e he => ?_⟩
    obtain ⟨team, hteam, rank, rfl⟩ := of_mem_standings he
    rw [CtfTimeStandingsEntry.mk.injEq]
    exact ⟨rfl, rfl, rfl, hstats team hteam⟩

/-- **When the frozen board and export reveal nothing**: exactly when, for every
team and every task, the last correct row has the same numbers in both stores. -/
theorem frozen_agrees_iff (hfreeze : cfg.freezeTime = some freeze) (h : AgreeBefore freeze s s') :
    ((∀ filterBracket, (runSvc s (getScoreboard E cfg filterBracket)).1 =
        (runSvc s' (getScoreboard E cfg filterBracket)).1) ∧
      (runSvc s (exportCtftime E cfg)).1 = (runSvc s' (exportCtftime E cfg)).1) ↔
    ∀ team ∈ s.teams.rows, ∀ title,
      lastOn (challengeMap s.challenges.rows) title (teamSolves team.id s.submissions) =
        lastOn (challengeMap s.challenges.rows) title (teamSolves team.id s'.submissions) := by
  have hboards : ∀ filterBracket, (runSvc s (getScoreboard E cfg filterBracket)).1 =
      (runSvc s' (getScoreboard E cfg filterBracket)).1 := by
    intro filterBracket
    rw [runSvc_getScoreboard, runSvc_getScoreboard, board_frozen hfreeze h]
  rw [runSvc_exportCtftime, runSvc_exportCtftime, Except.ok.injEq, exportOf_eq_iff hfreeze h]
  constructor
  · rintro ⟨-, hstats⟩ team hteam title
    rw [← lookup_taskStats, ← lookup_taskStats, hstats team hteam]
  · intro hlast
    refine ⟨hboards, fun team hteam => Finmap.ext_lookup fun title => ?_⟩
    rw [lookup_taskStats, lookup_taskStats, hlast team hteam title]

/-- When no team solves anything after the freeze, in neither store, nothing is
revealed. -/
theorem frozen_agrees_of_quiet (hfreeze : cfg.freezeTime = some freeze)
    (h : AgreeBefore freeze s s')
    (hquiet : ∀ sub ∈ s.submissions, sub.isCorrect = true → sub.submittedAt < freeze)
    (hquiet' : ∀ sub ∈ s'.submissions, sub.isCorrect = true → sub.submittedAt < freeze) :
    exportOf E cfg s = exportOf E cfg s' := by
  have hearly : ∀ (t : TeamId) (subs : List Submission),
      (∀ sub ∈ subs, sub.isCorrect = true → sub.submittedAt < freeze) →
      teamSolves t subs =
        teamSolves t (subs.filter fun sub => decide (sub.submittedAt < freeze)) := by
    intro t subs hsubs
    rw [teamSolves, teamSolves, List.filter_filter]
    refine List.filter_congr fun sub hsub => ?_
    cases hcorrect : sub.isCorrect with
    | false => simp
    | true => simp [hsubs sub hsub hcorrect]
  rw [exportOf_eq_iff hfreeze h]
  intro team _
  rw [hearly team.id s.submissions hquiet, hearly team.id s'.submissions hquiet', h.submissions]

end

/-! ## A solve after the freeze -/

/-- A challenge of 100 points. -/
def easy : Challenge := .plain "c" "easy" ⟨.pointValue, "100"⟩ (.static "flag")

/-- `red` has solved nothing. -/
def quiet : Store where
  teams := .single (.plain "red" ["alice"])
  challenges := .single easy
  submissions := []
  hintUnlocks := []
  activeFlag := fun _ _ _ => none

/-- `red` has solved `easy` at time 20. -/
def solvedLate : Store := quiet.addSubmission (.correct "1" "c" (some "red") "alice" "flag" 100 20)

theorem agree_before_ten : AgreeBefore 10 quiet solvedLate := ⟨rfl, rfl, by decide, rfl⟩

/-- The condition, on the late solve. -/
theorem frozen_agrees_iff_late :
    ((∀ filterBracket, (runSvc quiet (getScoreboard .silent ⟨false, some 10, .none⟩
          filterBracket)).1 =
        (runSvc solvedLate (getScoreboard .silent ⟨false, some 10, .none⟩ filterBracket)).1) ∧
      (runSvc quiet (exportCtftime .silent ⟨false, some 10, .none⟩)).1 =
        (runSvc solvedLate (exportCtftime .silent ⟨false, some 10, .none⟩)).1) ↔
    ∀ team ∈ quiet.teams.rows, ∀ title,
      lastOn (challengeMap quiet.challenges.rows) title (teamSolves team.id quiet.submissions) =
        lastOn (challengeMap quiet.challenges.rows) title
          (teamSolves team.id solvedLate.submissions) :=
  @frozen_agrees_iff .silent ⟨false, some 10, .none⟩ _ _ _ rfl agree_before_ten

/-- **The export reveals a solve after the freeze.**  The two stores agree before
the freeze at 10; the export lists the task that `red` solved at 20. -/
theorem export_reveals_late_solve :
    AgreeBefore 10 quiet solvedLate ∧
      (runSvc quiet (exportCtftime .silent ⟨false, some 10, .none⟩)).1 ≠
        (runSvc solvedLate (exportCtftime .silent ⟨false, some 10, .none⟩)).1 := by
  refine ⟨agree_before_ten, fun h => ?_⟩
  have hexport : exportOf .silent ⟨false, some 10, .none⟩ quiet =
      exportOf .silent ⟨false, some 10, .none⟩ solvedLate := Except.ok.inj h
  revert hexport
  decide +kernel

end Cctf

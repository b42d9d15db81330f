import Cctf.Api.Challenges
import Cctf.Api.Solve
import Cctf.Scoring.Award

/-!
# Four counts of the solvers

The scoreboard, the challenge views, the hint service and the announcement of solves each
count the distinct solvers of a challenge with code of their own: two loops into a map of
sets, and two filters collected into a set.

* `entryCount` — the count a map holds for a challenge; none for an unsolved one is zero.
* `currentPoints_eq` — the price a view shows is the decay curve at its count.
* `CountsAgree`, `counts_agree` — **the four counts are one**, so that a view shows the
  points the board counts with and the price an unlock is charged.
-/

namespace Cctf

open Rounding

/-! ## Counts -/

/-- The number of solvers a map holds for a challenge. -/
def entryCount (solvers : AList fun _ : String => Finset String) (challengeId : String) : ℕ :=
  ((solvers.lookup challengeId).map Finset.card).getD 0

theorem entryCount_buildChallengeSolvers (subs : List Submission) (challengeId : String) :
    entryCount (buildChallengeSolvers subs) challengeId = (solverIds challengeId subs).card := by
  rw [entryCount, ← lookup_buildChallengeSolvers]
  cases (buildChallengeSolvers subs).lookup challengeId with
  | none => rfl
  | some solvers => rfl

theorem HintService.solvers_eq (challengeId : String) (subs : List Submission) :
    HintService.solvers challengeId subs = solverIds challengeId subs := by
  rw [HintService.solvers, solverIds, correctOn, teamOrAccountId_eq]

/-- The count in 32 bits, as three of the four use it. -/
theorem HintService.solves_eq (challengeId : String) (subs : List Submission) :
    HintService.solves challengeId subs =
      solverCount (challengeSolveCounts subs) challengeId := by
  rw [HintService.solves, HintService.solvers_eq, challengeSolveCounts_eq,
    solverCount_buildChallengeSolvers]

/-! ## Prices -/

/-- A count of zero and a count of one are the same price, so the floor at one that the
views put in changes nothing. -/
theorem currentPoints_eq (challenge : Challenge) (solveCount : UInt32) :
    currentPoints challenge solveCount = decayedPoints challenge.points solveCount := by
  rw [← SolveService.decayedPoints_max_one]
  rfl

/-- The price of a hint in a view. -/
theorem cost_publicHints (E : Engines) (now : ℤ) (solveCount : UInt32) (unlocked : Finset UInt32)
    (hints : List ChallengeHint) (i : ℕ) :
    ((publicHints E now solveCount unlocked hints)[i]?).map (·.cost) =
      (hints[i]?).map fun hint => hint.cost.evaluate E solveCount now := by
  rw [publicHints, List.getElem?_map, List.getElem?_zipIdx]
  cases hints[i]? with
  | none => rfl
  | some hint => rfl

/-! ## One count -/

/-- The counts of a challenge agree, and so do the prices computed from them. -/
structure CountsAgree (E : Engines) (subs : List Submission) (c : Challenge) : Prop where
  /-- `challenge_solve_counts` against `build_challenge_solvers`. -/
  listed : entryCount (challengeSolveCounts subs) c.id = entryCount (buildChallengeSolvers subs) c.id
  /-- `unlock_hint` against `build_challenge_solvers`. -/
  charged : (HintService.solvers c.id subs).card = entryCount (buildChallengeSolvers subs) c.id
  /-- `maybe_broadcast_solve` against `build_challenge_solvers`. -/
  announced : (broadcastSolvers c.id subs).card = entryCount (buildChallengeSolvers subs) c.id
  /-- The points a view shows are those the board counts with. -/
  points : ∀ cfg : ScoreboardService, cfg.freezeTime = none →
    currentPoints c (solverCount (challengeSolveCounts subs) c.id) =
      liveValue (buildChallengeSolvers (cfg.visibleSubs subs)) c
  /-- The price a view shows is the one an unlock at that time computes. -/
  price : ∀ (req : UnlockRequest) (unlocked : Finset UInt32) (hint : ChallengeHint),
    req.challengeId = c.id → c.hints[req.hintIndex.toNat]? = some hint →
      ((publicHints E req.now (solverCount (challengeSolveCounts subs) c.id) unlocked
        c.hints)[req.hintIndex.toNat]?).map (·.cost) =
          some (HintService.costOf E hint req subs)
  /-- It is the one a first unlock returns and stores. -/
  unlock : ∀ (s s' : Store) (mode : HintDeductionMode) (req : UnlockRequest)
      (unlocked : Finset UInt32) (result : HintUnlockResult),
    s.submissions = subs → s.challenges.find? c.id = some c → req.challengeId = c.id →
      runSvc s (HintService.unlockHint E mode req) = (.ok result, s') →
      result.alreadyUnlocked = false →
      ((publicHints E req.now (solverCount (challengeSolveCounts subs) c.id) unlocked
          c.hints)[req.hintIndex.toNat]?).map (·.cost) = some result.cost ∧
        s' = s.addUnlock (HintService.newUnlock req result.cost)

/-- A first unlock costs what `costOf` says. -/
theorem HintService.unlockHint_first {E : Engines} {s s' : Store} {mode : HintDeductionMode}
    {req : UnlockRequest} {c : Challenge} {result : HintUnlockResult}
    (hfind : s.challenges.find? req.challengeId = some c)
    (hrun : runSvc s (unlockHint E mode req) = (.ok result, s'))
    (hfirst : result.alreadyUnlocked = false) :
    ∃ hint, c.hints[req.hintIndex.toNat]? = some hint ∧
      result.cost = costOf E hint req s.submissions ∧
      s' = s.addUnlock (newUnlock req result.cost) := by
  rw [runSvc_unlockHint, hfind] at hrun
  simp only at hrun
  split at hrun
  · cases hrun
  · split at hrun
    · cases hrun
    · rename_i hint hhint
      split at hrun
      · cases hrun
        cases hfirst
      · split at hrun
        · cases hrun
        · cases hrun
          exact ⟨hint, hhint, rfl, rfl⟩

/-- **The four counts are one**, for every list of submissions and every challenge. -/
theorem counts_agree (E : Engines) (subs : List Submission) (c : Challenge) :
    CountsAgree E subs c := by
  have hprice : ∀ (req : UnlockRequest) (unlocked : Finset UInt32) (hint : ChallengeHint),
      req.challengeId = c.id → c.hints[req.hintIndex.toNat]? = some hint →
        ((publicHints E req.now (solverCount (challengeSolveCounts subs) c.id) unlocked
          c.hints)[req.hintIndex.toNat]?).map (·.cost) =
            some (HintService.costOf E hint req subs) := by
    intro req unlocked hint hid hhint
    rw [cost_publicHints, hhint, HintService.costOf, hid, HintService.solves_eq]
    rfl
  constructor
  · rw [challengeSolveCounts_eq]
  · rw [HintService.solvers_eq, entryCount_buildChallengeSolvers]
  · rw [broadcastSolvers_eq, entryCount_buildChallengeSolvers]
  · intro cfg hfreeze
    rw [currentPoints_eq, challengeSolveCounts_eq, ScoreboardService.visibleSubs, hfreeze]
    rfl
  · exact hprice
  · rintro s s' mode req unlocked result rfl hfind hid hrun hfirst
    rw [← hid] at hfind
    obtain ⟨hint, hhint, hcost, hstore⟩ := HintService.unlockHint_first hfind hrun hfirst
    exact ⟨by rw [hprice req unlocked hint hid hhint, hcost], hstore⟩

end Cctf

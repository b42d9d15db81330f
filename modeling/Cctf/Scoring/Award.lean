import Cctf.Services.Scoreboard

/-!
# The award and the board

A submission is paid at once, at a solve count that `submit_flag` works out for
itself; the scoreboard prices the same challenge at the number of distinct
solvers it finds.  This file compares the two numbers.

* `fullSolveTeams_eq` — the loop of `submit_flag` over a map of teams counts the
  *stored* teams that have solved, by the scoreboard's own test.
* `countedSolvers`, `boardSolvers` — the two solve counts, read off the tables
  before the submission.
* `award_agrees_iff` — **the award agrees with the board exactly when the two
  counts price the challenge alike** (and the share of a part fits the column).
* `countedSolvers_eq_boardSolvers` — the setting in which the counts are equal:
  no consensus, a stored team, and nobody but stored teams has solved.
* `award_disagrees_after_solo` — a solo account has solved first: the team is
  paid 500 for a challenge the board prices at 300.
-/

namespace Cctf

open Rounding

namespace SolveService

variable (s : Store) (challenge : Challenge) (challengeId : String) (teamId : Option TeamId)
  (accountId : AccountId)

/-! ## The two solve counts -/

/-- The stored teams that have solved a challenge, by the scoreboard's test. -/
def solvedTeams : List Team :=
  s.teams.rows.filter fun team =>
    solvedBy challenge.teamConsensus team (correctOn challenge.id (teamSubs team s.submissions))

/-- Does a correct submission add a solver?  A solo account always does; a team
does with its first correct row, and under consensus when every member of the
stored team is the submitter or has a correct row already. -/
def addsSolver : Bool :=
  match teamId with
  | none => true
  | some t =>
    let rows := correctOn challenge.id (s.submissions.filter fun sub => sub.teamId = some t)
    if challenge.teamConsensus then
      match s.teams.find? t with
      | some team => completesTeam team accountId rows
      | none => false
    else rows.isEmpty

/-- The solve count a submission is paid at: the stored teams that have solved
for a team, the *accounts* with a correct row for a solo account, and the
submission itself if it adds a solver. -/
def countedSolvers : ℕ :=
  (match teamId with
    | some _ => (solvedTeams s challenge).length
    | none => (solverAccounts challenge.id s.submissions).card) +
  if addsSolver s challenge teamId accountId then 1 else 0

/-- The solve count of the board right after: the distinct solvers, the
submitter among them. -/
def boardSolvers : ℕ :=
  (insert (match teamId with
    | some t => t.val
    | none => accountId.val) (solverIds challenge.id s.submissions)).card

/-- The value of a challenge at a solve count, or the share of it that a part is
worth. -/
def shareAt (matched : Option PartialFlag) (count : ℕ) : ℤ :=
  match matched with
  | none => (decayedPoints challenge.points (wrapU32 count)).toNat
  | some pf => partialValue (decayedPoints challenge.points (wrapU32 count)) pf.weight

/-- The award of a stored submission agrees with the board that is computed from
all rows: with the value of the challenge, and for a part of a `Multi` flag with
its share of it. -/
structure AwardAgrees (matched : Option PartialFlag) (sub : Submission)
    (all : List Submission) : Prop where
  plain : challenge.flag.isMulti = false →
    sub.points = liveValue (buildChallengeSolvers all) challenge
  part : ∀ pf, matched = some pf →
    (sub.points.toNat : ℤ) =
      partialValue (liveValue (buildChallengeSolvers all) challenge) pf.weight

/-! ## Counting full teams -/

/-- The two tests agree on the accounts of the rows and on the rows. -/
theorem reachedConsensus_map (teamConsensus : Bool) (team : Team) (rows : List Submission) :
    reachedConsensus teamConsensus team (rows.map (·.accountId)) =
      solvedBy teamConsensus team rows := by
  cases teamConsensus with
  | false => simp [reachedConsensus, solvedBy]
  | true =>
    have hmember : ∀ m : AccountId, decide (m ∈ rows.map (·.accountId)) =
        rows.any fun sub => decide (sub.accountId = m) := by
      intro m
      rw [Bool.eq_iff_iff]
      simp
    simp only [reachedConsensus, solvedBy, if_true, hmember]

theorem having_solvingTeam (t : TeamId) (subs : List Submission) :
    Grouping.having (solvingTeam challengeId) t subs =
      correctOn challengeId (subs.filter fun sub => sub.teamId = some t) := by
  rw [Grouping.having, correctOn, List.filter_filter]
  refine List.filter_congr fun sub _ => ?_
  rw [Bool.eq_iff_iff]
  by_cases h : sub.challengeId = challengeId ∧ sub.isCorrect = true
  · simp [solvingTeam, h]
  · simp only [solvingTeam, if_neg h]
    simp only [Bool.and_eq_true, decide_eq_true_eq]
    tauto

theorem foldl_accounts (rows : List Submission) (ids : List AccountId) :
    rows.foldl (fun ids sub => ids ++ [sub.accountId]) ids = ids ++ rows.map (·.accountId) := by
  induction rows generalizing ids with
  | nil => simp
  | cons sub rows ih =>
    rw [List.foldl_cons, ih]
    simp

/-- The map of `submit_flag` holds, for each team with a correct row, the
accounts of its correct rows. -/
theorem mem_teamSolves_entries {t : TeamId} {userIds : List AccountId}
    {subs : List Submission} :
    ⟨t, userIds⟩ ∈ (teamSolves challengeId subs).entries ↔
      correctOn challengeId (subs.filter fun sub => sub.teamId = some t) ≠ [] ∧
        userIds = (correctOn challengeId
          (subs.filter fun sub => sub.teamId = some t)).map (·.accountId) := by
  have hlookup : (teamSolves challengeId subs).lookup t =
      if correctOn challengeId (subs.filter fun sub => sub.teamId = some t) = [] then none
      else some ((correctOn challengeId
        (subs.filter fun sub => sub.teamId = some t)).map (·.accountId)) := by
    rw [teamSolves, Grouping.lookup_collect, having_solvingTeam, foldl_accounts, List.nil_append]
  rw [← AList.mem_lookup_iff, hlookup]
  by_cases hnil : correctOn challengeId (subs.filter fun sub => sub.teamId = some t) = []
  · simp [hnil]
  · simp [hnil, eq_comm]

theorem keys_solvedTeams_nodup : ((solvedTeams s challenge).map Team.id).Nodup :=
  (List.filter_sublist.map Team.id).nodup s.teams.nodup

/-- **The loop over the map counts the stored teams that have solved.** -/
theorem fullSolveTeams_eq :
    fullSolveTeams s challenge challenge.id = (solvedTeams s challenge).length := by
  have hkeys : (((teamSolves challenge.id s.submissions).entries.filter
      (teamReached s challenge.teamConsensus)).map Sigma.fst).Nodup :=
    (List.filter_sublist.map Sigma.fst).nodup (teamSolves challenge.id s.submissions).nodupKeys
  have hperm : (((teamSolves challenge.id s.submissions).entries.filter
      (teamReached s challenge.teamConsensus)).map Sigma.fst).Perm
        ((solvedTeams s challenge).map Team.id) := by
    rw [List.perm_ext_iff_of_nodup hkeys (keys_solvedTeams_nodup s challenge)]
    intro t
    simp only [solvedTeams, List.mem_map, List.mem_filter]
    constructor
    · rintro ⟨⟨t', userIds⟩, ⟨hentry, hreached⟩, rfl⟩
      obtain ⟨hne, rfl⟩ := (mem_teamSolves_entries challenge.id).1 hentry
      cases hteam : s.teams.find? t' with
      | none => simp [teamReached, hteam] at hreached
      | some team =>
        obtain ⟨hmem, rfl⟩ := Table.find?_eq_some_iff.1 hteam
        refine ⟨team, ⟨hmem, ?_⟩, rfl⟩
        simp only [teamReached, hteam] at hreached
        exact (reachedConsensus_map _ _ _).symm.trans hreached
    · rintro ⟨team, ⟨hmem, hsolved⟩, rfl⟩
      have hne : correctOn challenge.id (teamSubs team s.submissions) ≠ [] := by
        intro hnil
        rw [hnil, solvedBy_nil] at hsolved
        exact absurd hsolved (by simp)
      refine ⟨⟨team.id, _⟩, ⟨(mem_teamSolves_entries challenge.id).2 ⟨hne, rfl⟩, ?_⟩, rfl⟩
      simp only [teamReached, Table.find?_key hmem]
      exact (reachedConsensus_map _ _ _).trans hsolved
  calc fullSolveTeams s challenge challenge.id
      = (((teamSolves challenge.id s.submissions).entries.filter
          (teamReached s challenge.teamConsensus)).map Sigma.fst).length := by
        rw [List.length_map]
        rfl
    _ = ((solvedTeams s challenge).map Team.id).length := hperm.length_eq
    _ = (solvedTeams s challenge).length := List.length_map _

/-! ## The two prices of one submission -/

theorem reachesOf_ownCorrect :
    reachesOf s challenge teamId accountId (ownCorrect s challenge.id teamId accountId) =
      addsSolver s challenge teamId accountId := by
  cases teamId with
  | none => rfl
  | some t =>
    rw [ownCorrect_team]
    rfl

/-- The count of `submit_flag` is `countedSolvers`. -/
theorem nextSolveCount_eq :
    nextSolveCount s challenge challenge.id teamId accountId =
      wrapU32 (countedSolvers s challenge teamId accountId) := by
  have hcount : solveCountOf s challenge challenge.id teamId =
      wrapU32 (match teamId with
        | some _ => (solvedTeams s challenge).length
        | none => (solverAccounts challenge.id s.submissions).card) := by
    cases teamId with
    | none => rfl
    | some t => rw [solveCountOf, fullSolveTeams_eq]
  rw [nextSolveCount, reachesOf_ownCorrect, hcount]
  unfold countedSolvers
  cases addsSolver s challenge teamId accountId with
  | false => rfl
  | true => exact (UInt32.ofNat_add _ 1).symm

/-- The first solver gets what nobody would get: the curve is flat up to one. -/
theorem decayedPoints_max_one (points : ChallengePoints) (n : UInt32) :
    decayedPoints points (max n 1) = decayedPoints points n := by
  unfold decayedPoints
  cases points.mode with
  | pointValue => rfl
  | pointAttribution => rfl
  | dynamicDecay initial minimum decay =>
    have hmax : max n 1 = if n ≤ 1 then 1 else n := rfl
    simp only
    rw [hmax]
    by_cases hn : n ≤ 1
    · rw [if_pos hn, calculateDynamicPoints, calculateDynamicPoints, if_pos hn]
      rfl
    · rw [if_neg hn]

/-- What a correct submission is paid: the share at `countedSolvers`, clamped to
the column. -/
theorem newSubmission_points (E : Engines) (flag ip uuid : String) (now : ℤ)
    (hright : verdict s challenge challenge.id teamId accountId E flag = true) :
    (newSubmission s challenge challenge.id teamId accountId E flag ip uuid now).points =
      saturateU32 (shareAt challenge (matchedPart s challenge challenge.id teamId accountId E flag)
        (countedSolvers s challenge teamId accountId)) := by
  simp only [newSubmission, pointsAwarded, hright, if_true, decayedPoints_max_one,
    nextSolveCount_eq]
  cases matchedPart s challenge challenge.id teamId accountId E flag with
  | none => exact (saturateU32_natCast _).symm
  | some pf => rfl

theorem solverIds_addSubmission {sub : Submission} (hon : sub.challengeId = challengeId)
    (hcorrect : sub.isCorrect = true) (subs : List Submission) :
    solverIds challengeId (subs ++ [sub]) = insert (solverId sub) (solverIds challengeId subs) := by
  have hlast : correctOn challengeId (subs ++ [sub]) = correctOn challengeId subs ++ [sub] := by
    simp [correctOn, hon, hcorrect]
  rw [solverIds, hlast, solverIds, List.map_append, List.toFinset_append, Finset.union_comm]
  rfl

/-- The board's value right after: the value at `boardSolvers`. -/
theorem liveValue_addSubmission {sub : Submission} (hon : sub.challengeId = challenge.id)
    (hteam : sub.teamId = teamId) (haccount : sub.accountId = accountId)
    (hcorrect : sub.isCorrect = true) :
    liveValue (buildChallengeSolvers (s.submissions ++ [sub])) challenge =
      decayedPoints challenge.points (wrapU32 (boardSolvers s challenge teamId accountId)) := by
  subst hteam haccount
  rw [liveValue, solverCount_buildChallengeSolvers, solverIds_addSubmission _ hon hcorrect]
  rfl

/-- A right flag on a `Multi` challenge has a matched part, on any other none. -/
theorem matchedPart_isSome (E : Engines) (flag : String)
    (hright : verdict s challenge challengeId teamId accountId E flag = true) :
    (matchedPart s challenge challengeId teamId accountId E flag).isSome =
      challenge.flag.isMulti := by
  cases hmulti : challenge.flag.isMulti with
  | false =>
    rw [matchedPart, FlagValidator.findMatchingPartial_of_not_multi hmulti]
    rfl
  | true =>
    rw [verdict, flagIsCorrect, if_pos hmulti] at hright
    exact hright

/-- **When the award agrees with the board.**  For every submission that is
accepted: exactly when the share at the count of `submit_flag`, clamped to 32
bits, is the share at the count of the board. -/
theorem award_agrees_iff {E : Engines} {flag ip uuid : String} {now : ℤ} {sub : Submission}
    {s' : Store}
    (hrun : runSvc s (submitFlag E challengeId teamId accountId flag ip uuid now) = (.ok sub, s'))
    (hchallenge : s.challenges.find? challengeId = some challenge) :
    AwardAgrees challenge (matchedPart s challenge challengeId teamId accountId E flag) sub
        s'.submissions ↔
      ((saturateU32 (shareAt challenge
        (matchedPart s challenge challengeId teamId accountId E flag)
        (countedSolvers s challenge teamId accountId))).toNat : ℤ) =
      shareAt challenge (matchedPart s challenge challengeId teamId accountId E flag)
        (boardSolvers s challenge teamId accountId) := by
  obtain ⟨c, hc, -, -, hright, -, hsub, hs'⟩ :=
    runSvc_submitFlag_ok s challengeId teamId accountId E flag ip uuid now hrun
  obtain rfl : challenge = c := by simpa [hchallenge] using hc
  obtain ⟨-, rfl⟩ := Table.find?_eq_some_iff.1 hchallenge
  have hmulti := matchedPart_isSome s challenge challenge.id teamId accountId E flag hright
  have hpaid : sub.points = saturateU32 (shareAt challenge
      (matchedPart s challenge challenge.id teamId accountId E flag)
      (countedSolvers s challenge teamId accountId)) := by
    rw [hsub]
    exact newSubmission_points s challenge teamId accountId E flag ip uuid now hright
  have hboard : liveValue (buildChallengeSolvers s'.submissions) challenge =
      decayedPoints challenge.points (wrapU32 (boardSolvers s challenge teamId accountId)) := by
    rw [hs', Store.addSubmission_submissions, hsub]
    exact liveValue_addSubmission s challenge teamId accountId rfl rfl rfl hright
  rw [← hpaid]
  cases hmatched : matchedPart s challenge challenge.id teamId accountId E flag with
  | none =>
    rw [hmatched] at hmulti
    have hvalue : shareAt challenge none (boardSolvers s challenge teamId accountId) =
        ((liveValue (buildChallengeSolvers s'.submissions) challenge).toNat : ℤ) := by
      rw [hboard]
      rfl
    rw [hvalue, Nat.cast_inj, UInt32.toNat_inj]
    constructor
    · intro h
      exact h.plain hmulti.symm
    · intro h
      exact ⟨fun _ => h, fun pf hpf => absurd hpf (by simp)⟩
  | some pf =>
    rw [hmatched] at hmulti
    have hvalue : shareAt challenge (some pf) (boardSolvers s challenge teamId accountId) =
        partialValue (liveValue (buildChallengeSolvers s'.submissions) challenge) pf.weight := by
      rw [hboard]
      rfl
    rw [hvalue]
    constructor
    · intro h
      exact h.part pf rfl
    · intro h
      refine ⟨fun hplain => ?_, fun pf' hpf' => ?_⟩
      · rw [hplain] at hmulti
        exact absurd hmulti (by simp)
      · obtain rfl : pf = pf' := by simpa using hpf'
        exact h

/-! ## Where the counts part -/

/-- The challenge of the examples: 500 points for the first, 300 from two on. -/
def warmup : Challenge :=
  .plain "c" "warmup" ⟨.dynamicDecay 500 100 1, ""⟩ (.static "flag")

/-- The solo account `bob` has solved `warmup`, the team `red` has not. -/
def soloFirst : Store where
  teams := .single (.plain "red" ["alice"])
  challenges := .single warmup
  submissions := [.correct "1" "c" none "bob" "flag" 500 0]
  hintUnlocks := []
  activeFlag := fun _ _ _ => none

/-- The condition, applied to the submission that follows the solo solve. -/
theorem award_agrees_iff_after_solo :
    AwardAgrees warmup none (.correct "2" "c" (some "red") "alice" "flag" 500 1)
        (soloFirst.submissions ++ [.correct "2" "c" (some "red") "alice" "flag" 500 1]) ↔
      ((saturateU32 (shareAt warmup none
        (countedSolvers soloFirst warmup (some ⟨"red"⟩) ⟨"alice"⟩))).toNat : ℤ) =
      shareAt warmup none (boardSolvers soloFirst warmup (some ⟨"red"⟩) ⟨"alice"⟩) := by
  have hrun : runSvc soloFirst
      (submitFlag .silent "c" (some ⟨"red"⟩) ⟨"alice"⟩ "flag" "" "2" 1) =
      (.ok (.correct "2" "c" (some "red") "alice" "flag" 500 1),
        soloFirst.addSubmission (.correct "2" "c" (some "red") "alice" "flag" 500 1)) := rfl
  exact award_agrees_iff soloFirst warmup "c" (some ⟨"red"⟩) ⟨"alice"⟩ hrun rfl

/-- **A team that follows a solo solver is overpaid.**  Solo accounts are not
among the teams the award counts: 500 points are stored, the board says 300. -/
theorem award_disagrees_after_solo :
    ∃ sub s', runSvc soloFirst (submitFlag .silent "c" (some ⟨"red"⟩) ⟨"alice"⟩ "flag" "" "2" 1) =
        (.ok sub, s') ∧ soloFirst.challenges.find? "c" = some warmup ∧
      sub.points = 500 ∧ liveValue (buildChallengeSolvers s'.submissions) warmup = 300 ∧
      ¬ AwardAgrees warmup (matchedPart soloFirst warmup "c" (some ⟨"red"⟩) ⟨"alice"⟩ .silent "flag")
        sub s'.submissions := by
  refine ⟨.correct "2" "c" (some "red") "alice" "flag" 500 1, soloFirst.addSubmission _, rfl, rfl,
    rfl, by decide +kernel, fun h => ?_⟩
  have hplain := h.plain rfl
  revert hplain
  decide +kernel

/-! ## Where the counts are equal -/

/-- Without consensus, and with only stored teams among the solvers, the ids on
the board are those of the teams that have solved. -/
theorem solverIds_eq_solvedTeams (hno : challenge.teamConsensus = false)
    (hteams : ∀ sub ∈ correctOn challenge.id s.submissions,
      ∃ team ∈ s.teams.rows, sub.teamId = some team.id) :
    solverIds challenge.id s.submissions =
      ((solvedTeams s challenge).map fun team => team.id.val).toFinset := by
  have hsolved : ∀ team, team ∈ solvedTeams s challenge ↔ team ∈ s.teams.rows ∧
      ∃ sub ∈ correctOn challenge.id s.submissions, sub.teamId = some team.id := by
    intro team
    simp [solvedTeams, solvedBy, hno, correctOn, teamSubs,
      List.filter_eq_nil_iff, and_assoc, and_left_comm, and_comm]
  ext x
  simp only [solverIds, List.mem_toFinset, List.mem_map, hsolved]
  constructor
  · rintro ⟨sub, hsub, rfl⟩
    obtain ⟨team, hteam, hid⟩ := hteams sub hsub
    exact ⟨team, ⟨hteam, sub, hsub, hid⟩, by simp [solverId, hid]⟩
  · rintro ⟨team, ⟨-, sub, hsub, hid⟩, rfl⟩
    exact ⟨sub, hsub, by simp [solverId, hid]⟩

/-- **Among stored teams, without consensus, the two counts are one number.** -/
theorem countedSolvers_eq_boardSolvers {t : TeamId} {team : Team}
    (hno : challenge.teamConsensus = false) (hteam : s.teams.find? t = some team)
    (hteams : ∀ sub ∈ correctOn challenge.id s.submissions,
      ∃ team ∈ s.teams.rows, sub.teamId = some team.id) :
    countedSolvers s challenge (some t) accountId =
      boardSolvers s challenge (some t) accountId := by
  obtain ⟨hmem, rfl⟩ := Table.find?_eq_some_iff.1 hteam
  have hval : Function.Injective TeamId.val := by
    rintro ⟨x⟩ ⟨y⟩ rfl
    rfl
  have hnodup : ((solvedTeams s challenge).map fun team => team.id.val).Nodup := by
    have := (keys_solvedTeams_nodup s challenge).map hval
    rwa [List.map_map] at this
  have hown : team.id.val ∈ ((solvedTeams s challenge).map fun team => team.id.val).toFinset ↔
      addsSolver s challenge (some team.id) accountId = false := by
    have hadds : addsSolver s challenge (some team.id) accountId =
        (correctOn challenge.id (teamSubs team s.submissions)).isEmpty := by
      simp [addsSolver, hno, teamSubs]
    rw [hadds, List.mem_toFinset, List.mem_map]
    constructor
    · rintro ⟨other, hother, hid⟩
      obtain ⟨hrow, hsolved⟩ := List.mem_filter.1 hother
      obtain rfl := s.teams.eq_of_key_eq hrow hmem (hval hid)
      simpa [solvedBy, hno] using hsolved
    · intro hrows
      exact ⟨team, List.mem_filter.2 ⟨hmem, by simpa [solvedBy, hno] using hrows⟩, rfl⟩
  have hcard : ((solvedTeams s challenge).map fun team => team.id.val).toFinset.card =
      (solvedTeams s challenge).length := by
    rw [List.toFinset_card_of_nodup hnodup, List.length_map]
  rw [boardSolvers, solverIds_eq_solvedTeams s challenge hno hteams]
  unfold countedSolvers
  cases hadds : addsSolver s challenge (some team.id) accountId with
  | false =>
    rw [Finset.insert_eq_of_mem (hown.2 hadds), hcard]
    rfl
  | true =>
    have hnew : team.id.val ∉ ((solvedTeams s challenge).map fun team => team.id.val).toFinset := by
      rw [hown, hadds]
      simp
    rw [Finset.card_insert_of_notMem hnew, hcard]
    rfl

end SolveService

end Cctf

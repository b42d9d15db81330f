import Cctf.Scoring.Calls
import Cctf.Solving.Prerequisites

/-!
# What counts as solved

The view of a challenge and the prerequisites of another take a challenge as solved by
a team as soon as the team has one correct row on it.  The scoreboard judges the rows
again: under consensus it asks for rows of every member, and for a `Multi` challenge it
asks for them part by part.

* `SelfJudged` — every correct row on a `Multi` challenge satisfies a part when it is
  judged with itself as the live flag; `SelfJudged.step` keeps it along histories.
* `solved_iff_rows`, `requirement_iff_rows`, `onBoard_iff` — the three meanings.
* `solved_agrees_iff` — **in every state that a history reaches they agree exactly when
  a consensus challenge on which the team has a correct row is finished by the team**.
* `solved_disagrees_halfway` — a consensus challenge that one of two members has solved.
-/

namespace Cctf

open Runs SolveService ScoreboardService

/-! ## Rows that satisfy a part -/

section

variable (E : Engines)

/-- Every correct row on a `Multi` challenge satisfies one of its parts, judged as the
scoreboard judges it. -/
def SelfJudged (s : Store) : Prop :=
  ∀ row ∈ s.submissions, row.isCorrect = true →
    ∀ challenge, s.challenges.find? row.challengeId = some challenge →
      ∀ partials, challenge.flag = .multi partials →
        ∃ pf ∈ partials, pf.validator.isMatch E row.providedFlag (some row.providedFlag) = true

variable {E}

/-- A right flag on a `Multi` challenge satisfies a part, also when judged with itself. -/
theorem SubmitCall.self_of_right {challenge : Challenge} {c : SubmitCall}
    (hright : c.right E challenge = true) {partials : List PartialFlag}
    (hmulti : challenge.flag = .multi partials) :
    ∃ pf ∈ partials, pf.validator.isMatch E c.flag (some c.flag) = true := by
  rw [SubmitCall.right, flagIsCorrect, hmulti] at hright
  obtain ⟨pf, hpf⟩ := Option.isSome_iff_exists.1 (by simpa [FlagValidator.isMulti] using hright)
  obtain ⟨hmem, hmatch⟩ := FlagValidator.findMatchingPartial_spec hpf
  exact ⟨pf, hmem, FlagValidator.isMatch_self pf.validator hmatch⟩

theorem SelfJudged.step {s : Store} {c : SubmitCall} (h : SelfJudged E s) :
    SelfJudged E (c.perform E s).2 := by
  obtain ⟨hchallenges, -, -⟩ := SubmitCall.perform_frame (E := E) (s := s) (c := c)
  rw [SelfJudged, hchallenges]
  rcases SubmitCall.perform_stores (E := E) (s := s) (c := c) with hsame |
    ⟨challenge, hchallenge, -, -, hmore⟩
  · rw [hsame]
    exact h
  · rw [hmore]
    intro row hrow hcorrect other hother partials hmulti
    rcases List.mem_append.1 hrow with hold | hnew
    · exact h row hold hcorrect other hother partials hmulti
    · rw [List.mem_singleton] at hnew
      subst hnew
      obtain rfl : challenge = other := Option.some.inj (hchallenge.symm.trans hother)
      exact SubmitCall.self_of_right hcorrect hmulti

end

/-! ## The three meanings -/

section

variable {P : Platform} {a : App} {user : AccountId} {team : Team} {challenge : Challenge}

/-- The correct rows of a team on a challenge. -/
abbrev teamRows (team : Team) (challenge : Challenge) (subs : List Submission) :
    List Submission :=
  correctOn challenge.id (teamSubs team subs)

theorem mem_teamRows {subs : List Submission} {row : Submission} :
    row ∈ teamRows team challenge subs ↔
      row ∈ subs ∧ row.teamId = some team.id ∧ row.challengeId = challenge.id ∧
        row.isCorrect = true := by
  simp only [teamRows, correctOn, teamSubs, List.mem_filter, decide_eq_true_eq, Bool.and_eq_true,
    and_assoc]

theorem teamRows_ne_nil_iff {subs : List Submission} :
    teamRows team challenge subs ≠ [] ↔ ∃ row, row ∈ teamRows team challenge subs :=
  ⟨List.exists_mem_of_ne_nil _, fun ⟨_, h⟩ => List.ne_nil_of_mem h⟩

/-- The board shows the challenge among the solves of the team. -/
def OnBoard (E : Engines) (cfg : ScoreboardService) (team : Team) (challenge : Challenge)
    (s : Store) : Prop :=
  ∃ e ∈ board E cfg none s, e.teamId = team.id ∧ challenge.id ∈ e.solves

/-- The view says solved as soon as the team has a correct row. -/
theorem solved_iff_rows (hviewer : a.viewerTeam user = some team.id) {now : ℤ} :
    (a.viewOf user P now challenge).solved = true ↔
      teamRows team challenge a.tables.submissions ≠ [] := by
  show challengeSolvedBy challenge.id a.tables.submissions (a.viewerTeam user) user = true ↔ _
  rw [challengeSolvedBy, hviewer, List.any_eq_true, teamRows_ne_nil_iff]
  constructor
  · rintro ⟨row, hrow, hsolve⟩
    simp only [isViewerSolve, Bool.and_eq_true, decide_eq_true_eq] at hsolve
    exact ⟨row, mem_teamRows.2 ⟨hrow, hsolve.2.2, hsolve.1, hsolve.2.1⟩⟩
  · rintro ⟨row, hrow⟩
    obtain ⟨hmem, hteam, hid, hcorrect⟩ := mem_teamRows.1 hrow
    exact ⟨row, hmem, by simp [isViewerSolve, hid, hcorrect, hteam]⟩

/-- One requirement is satisfied in `submit_flag`. -/
def requirementSatisfied (s : Store) (teamId : Option TeamId) (accountId : AccountId)
    (req : ChallengeRequirement) : Bool :=
  SolveService.requirementsMet [req] (SolveService.solvedIds teamId accountId (ownRows s teamId))

/-- The requirements of a challenge are met when each of them is satisfied. -/
theorem meetsRequirements_eq_all (s : Store) (teamId : Option TeamId) (accountId : AccountId) :
    meetsRequirements s challenge teamId accountId =
      challenge.requirements.all (requirementSatisfied s teamId accountId) := by
  rw [meetsRequirements, isEmpty_or_requirementsMet, SolveService.requirementsMet]
  refine congrArg challenge.requirements.all (funext fun req => ?_)
  simp [requirementSatisfied, SolveService.requirementsMet]

/-- A requirement is satisfied as soon as the team has a correct row. -/
theorem requirement_iff_rows {s : Store} :
    requirementSatisfied s (some team.id) user (.solve challenge.id) = true ↔
      teamRows team challenge s.submissions ≠ [] := by
  have hrows : challenge.id ∈ SolveService.solvedIds (some team.id) user
      (ownRows s (some team.id)) ↔ ∃ row, row ∈ teamRows team challenge s.submissions := by
    simp only [SolveService.solvedIds, ownRows, List.mem_toFinset, List.mem_map, List.mem_filter,
      isOwn, Option.isSome_some, Bool.true_or, Bool.and_true, decide_eq_true_eq]
    constructor
    · rintro ⟨row, ⟨⟨hmem, hteam⟩, hcorrect⟩, hid⟩
      exact ⟨row, mem_teamRows.2 ⟨hmem, hteam, hid, hcorrect⟩⟩
    · rintro ⟨row, hrow⟩
      obtain ⟨hmem, hteam, hid, hcorrect⟩ := mem_teamRows.1 hrow
      exact ⟨row, ⟨⟨hmem, hteam⟩, hcorrect⟩, hid⟩
  rw [requirementSatisfied, requirementsMet_iff, teamRows_ne_nil_iff, ← hrows]
  simp

/-- The board shows the challenges that score. -/
theorem onBoard_iff {E : Engines} {cfg : ScoreboardService} {s : Store}
    (hfreeze : cfg.freezeTime = none) (hteam : team ∈ s.teams.rows)
    (hchallenge : challenge ∈ s.challenges.rows) :
    OnBoard E cfg team challenge s ↔
      challengeScored E team (teamSubs team s.submissions) challenge = true := by
  have hsubs : cfg.visibleSubs s.submissions = s.submissions := by simp [visibleSubs, hfreeze]
  have hsolves : ∀ rank, challenge.id ∈ ({ cfg.entry E s.challenges.rows
      (cfg.visibleSubs s.submissions) (cfg.visibleUnlocks s.hintUnlocks) team with
        rank := rank } : ScoreboardEntry).solves ↔
      challengeScored E team (teamSubs team s.submissions) challenge = true := by
    intro rank
    show challenge.id ∈ (computeTeamSolveScore E team s.challenges.rows _ _).solvedIds ↔ _
    rw [computeTeamSolveScore_solvedIds, hsubs, List.mem_map]
    constructor
    · rintro ⟨other, hother, hid⟩
      obtain ⟨hmem, hscored⟩ := List.mem_filter.1 hother
      obtain rfl : other = challenge := s.challenges.eq_of_key_eq hmem hchallenge hid
      exact hscored
    · intro hscored
      exact ⟨challenge, List.mem_filter.2 ⟨hchallenge, hscored⟩, rfl⟩
  constructor
  · rintro ⟨e, he, hid, hmem⟩
    obtain ⟨other, hother, rank, rfl⟩ := of_mem_standings he
    obtain rfl : other = team := s.teams.eq_of_key_eq hother hteam hid
    exact (hsolves rank).1 hmem
  · intro hscored
    obtain ⟨rank, hmem⟩ := exists_mem_board E cfg none s hteam
    exact ⟨_, hmem, rfl, (hsolves rank).2 hscored⟩

end

/-! ## When they agree -/

/-- Every member of the team has one of the rows. -/
def EveryMember (team : Team) (rows : List Submission) : Prop :=
  team.memberIds ≠ [] ∧ ∀ m ∈ team.memberIds, ∃ row ∈ rows, row.accountId = m

/-- The challenge asks for no consensus, or the team has not begun, or every member has
solved it — for a `Multi` challenge, one part of it. -/
def Finished (E : Engines) (team : Team) (challenge : Challenge) (subs : List Submission) : Prop :=
  challenge.teamConsensus = false ∨ teamRows team challenge subs = [] ∨
    match challenge.flag with
    | .multi partials =>
        ∃ pf ∈ partials, EveryMember team (partSubs E challenge (teamSubs team subs) pf)
    | _ => EveryMember team (teamRows team challenge subs)

/-- The view, the board and the requirements take the challenge as solved by the team in
the same cases. -/
def SolvedAgrees (P : Platform) (cfg : ScoreboardService) (a : App) (user : AccountId) (now : ℤ)
    (team : Team) (challenge : Challenge) : Prop :=
  ((a.viewOf user P now challenge).solved = true ↔
      OnBoard P.engines cfg team challenge a.tables) ∧
    (requirementSatisfied a.tables (some team.id) user (.solve challenge.id) = true ↔
      OnBoard P.engines cfg team challenge a.tables)

section

variable {E : Engines} {team : Team} {challenge : Challenge} {s : Store}

theorem solvedBy_consensus {rows : List Submission} :
    solvedBy true team rows = true ↔ EveryMember team rows := solvedBy_consensus_iff

theorem solvedBy_plain {rows : List Submission} :
    solvedBy false team rows = true ↔ rows ≠ [] := by
  simp [solvedBy]

/-- Rows of every member are rows. -/
theorem EveryMember.ne_nil {rows : List Submission} (h : EveryMember team rows) : rows ≠ [] := by
  obtain ⟨m, hm⟩ := List.exists_mem_of_ne_nil _ h.1
  obtain ⟨row, hrow, -⟩ := h.2 m hm
  exact List.ne_nil_of_mem hrow

/-- Without consensus a challenge scores as soon as the team has a correct row. -/
theorem scored_plain_iff (hjudged : SelfJudged E s) (hchallenge : challenge ∈ s.challenges.rows)
    (hplain : challenge.teamConsensus = false) :
    challengeScored E team (teamSubs team s.submissions) challenge = true ↔
      teamRows team challenge s.submissions ≠ [] := by
  rw [challengeScored]
  cases hflag : challenge.flag with
  | multi partials =>
    simp only [List.any_eq_true, partScored, hplain, solvedBy_plain]
    constructor
    · rintro ⟨pf, -, hrows⟩ hnil
      refine hrows ?_
      show (teamRows team challenge s.submissions).filter _ = []
      rw [hnil]
      rfl
    · intro hrows
      obtain ⟨row, hrow⟩ := teamRows_ne_nil_iff.1 hrows
      obtain ⟨hmem, -, hid, hcorrect⟩ := mem_teamRows.1 hrow
      have hfind : s.challenges.find? row.challengeId = some challenge :=
        Table.find?_eq_some_iff.2 ⟨hchallenge, hid.symm⟩
      obtain ⟨pf, hpf, hmatch⟩ := hjudged row hmem hcorrect challenge hfind partials hflag
      exact ⟨pf, hpf, List.ne_nil_of_mem (List.mem_filter.2 ⟨hrow, hmatch⟩)⟩
  | _ => simp only [hplain, solvedBy_plain, teamRows]

/-- **A challenge scores in the cases in which the team has a correct row, unless a
consensus is half-way.** -/
theorem scored_iff_rows_iff_finished (hjudged : SelfJudged E s)
    (hchallenge : challenge ∈ s.challenges.rows) :
    (teamRows team challenge s.submissions ≠ [] ↔
        challengeScored E team (teamSubs team s.submissions) challenge = true) ↔
      Finished E team challenge s.submissions := by
  rw [Finished]
  cases hconsensus : challenge.teamConsensus with
  | false =>
    rw [scored_plain_iff hjudged hchallenge hconsensus]
    simp
  | true =>
    -- what scores under consensus has rows; the question is the converse
    have hscored : challengeScored E team (teamSubs team s.submissions) challenge = true ↔
        match challenge.flag with
        | .multi partials => ∃ pf ∈ partials,
            EveryMember team (partSubs E challenge (teamSubs team s.submissions) pf)
        | _ => EveryMember team (teamRows team challenge s.submissions) := by
      rw [challengeScored]
      cases challenge.flag with
      | multi partials => simp only [List.any_eq_true, partScored, hconsensus, solvedBy_consensus]
      | _ => simp only [hconsensus, solvedBy_consensus, teamRows]
    have hrows : challengeScored E team (teamSubs team s.submissions) challenge = true →
        teamRows team challenge s.submissions ≠ [] := by
      rw [hscored]
      cases challenge.flag with
      | multi partials =>
        rintro ⟨pf, -, hevery⟩ hnil
        refine hevery.ne_nil ?_
        show (teamRows team challenge s.submissions).filter _ = []
        rw [hnil]
        rfl
      | _ => exact EveryMember.ne_nil
    rw [← hscored]
    simp only [Bool.true_eq_false, false_or]
    constructor
    · intro h
      by_cases hnil : teamRows team challenge s.submissions = []
      · exact .inl hnil
      · exact .inr (h.1 hnil)
    · rintro (hnil | hdone)
      · exact ⟨fun h => absurd hnil h, fun h => hrows h⟩
      · exact ⟨fun _ => hdone, hrows⟩

end

section

variable {P : Platform} {cfg : ScoreboardService} {a : App} {user : AccountId} {now : ℤ}
  {team : Team} {challenge : Challenge} {s : Store}

/-- What a history keeps, and what it establishes. -/
theorem history_spec (E : Engines) (hstart : s.submissions = []) (calls : List SubmitCall) :
    (run (fun s c => (c.perform E s).2) s calls).challenges = s.challenges ∧
      (run (fun s c => (c.perform E s).2) s calls).teams = s.teams ∧
      SelfJudged E (run (fun s c => (c.perform E s).2) s calls) := by
  induction calls using List.reverseRecOn with
  | nil => exact ⟨rfl, rfl, by simp [SelfJudged, run, hstart]⟩
  | append_singleton calls c ih =>
    obtain ⟨hchallenges, hteams, hjudged⟩ := ih
    obtain ⟨hsame, hmembers, -⟩ := SubmitCall.perform_frame (E := E) (c := c)
      (s := run (fun s c => (c.perform E s).2) s calls)
    rw [run, List.foldl_append]
    exact ⟨hsame.trans hchallenges, hmembers.trans hteams, hjudged.step⟩

/-- **When "solved" means the same everywhere**: after every history, exactly when the
challenge asks for no consensus, or the team has no correct row on it, or every member
of the team has solved it. -/
theorem solved_agrees_iff (calls : List SubmitCall) (hstart : s.submissions = [])
    (hreached : a.tables = run (fun s c => (c.perform P.engines s).2) s calls)
    (hteam : team ∈ s.teams.rows) (hchallenge : challenge ∈ s.challenges.rows)
    (hviewer : a.viewerTeam user = some team.id) (hfreeze : cfg.freezeTime = none) :
    SolvedAgrees P cfg a user now team challenge ↔
      Finished P.engines team challenge a.tables.submissions := by
  obtain ⟨hchallenges, hteams, hjudged⟩ := history_spec P.engines hstart calls
  rw [← hreached] at hchallenges hteams hjudged
  rw [← hteams] at hteam
  rw [← hchallenges] at hchallenge
  rw [SolvedAgrees, solved_iff_rows hviewer, requirement_iff_rows,
    onBoard_iff hfreeze hteam hchallenge, and_self]
  exact scored_iff_rows_iff_finished hjudged hchallenge

end

/-! ## A consensus half-way -/

/-- A challenge that every member of a team has to solve. -/
def joint : Challenge :=
  { Challenge.plain "joint" "Joint" ⟨.pointValue, "100"⟩ (.static "flag") with
    teamConsensus := true }

/-- Nobody has submitted yet. -/
def beforeJoint : Store where
  teams := .single (.plain "red" ["alice", "bob"])
  challenges := .single joint
  submissions := []
  hintUnlocks := []
  activeFlag := fun _ _ _ => none

/-- A member of `red` submits the flag of `joint`. -/
def submitJoint (account uuid : String) : SubmitCall where
  challengeId := "joint"
  teamId := some ⟨"red"⟩
  accountId := ⟨account⟩
  flag := "flag"
  ip := ""
  uuid := uuid
  now := 0
  active := none

/-- The application after some calls of `red`. -/
def afterJoint (calls : List SubmitCall) : App :=
  .fresh (run (fun s c => (c.perform .silent s).2) beforeJoint calls)
    ⟨[.plain "alice" (some "red"), .plain "bob" (some "red")], by decide⟩

/-- The condition after both members have solved it. -/
theorem solved_agrees_iff_joint :
    SolvedAgrees .plain ⟨false, none, .none⟩ (afterJoint [submitJoint "alice" "1",
        submitJoint "bob" "2"]) ⟨"alice"⟩ 0 (.plain "red" ["alice", "bob"]) joint ↔
      Finished Platform.plain.engines (.plain "red" ["alice", "bob"]) joint
        (afterJoint [submitJoint "alice" "1", submitJoint "bob" "2"]).tables.submissions :=
  solved_agrees_iff (s := beforeJoint) [submitJoint "alice" "1", submitJoint "bob" "2"] rfl rfl
    (by simp [beforeJoint]) (by simp [beforeJoint]) rfl rfl

/-- **Half-way the answers differ.**  Alice has solved the challenge and Bob has not: her
view and the requirements take it as solved, and the board does not. -/
theorem solved_disagrees_halfway :
    let a := afterJoint [submitJoint "alice" "1"]
    (a.viewOf ⟨"alice"⟩ .plain 0 joint).solved = true ∧
      requirementSatisfied a.tables (some ⟨"red"⟩) ⟨"alice"⟩ (.solve "joint") = true ∧
      ¬ OnBoard .silent ⟨false, none, .none⟩ (.plain "red" ["alice", "bob"]) joint a.tables ∧
      ¬ SolvedAgrees .plain ⟨false, none, .none⟩ a ⟨"alice"⟩ 0 (.plain "red" ["alice", "bob"])
        joint := by
  intro a
  have hview : (a.viewOf ⟨"alice"⟩ .plain 0 joint).solved = true := by decide +kernel
  have hrequirement :
      requirementSatisfied a.tables (some ⟨"red"⟩) ⟨"alice"⟩ (.solve "joint") = true := by
    decide +kernel
  have hboard : ¬ OnBoard .silent ⟨false, none, .none⟩ (.plain "red" ["alice", "bob"]) joint
      a.tables := by
    rw [onBoard_iff rfl (List.mem_singleton_self _) (List.mem_singleton_self _)]
    decide +kernel
  exact ⟨hview, hrequirement, hboard, fun h => hboard (h.1.1 hview)⟩

end Cctf

import Cctf.Api.Challenges

/-!
# The three prerequisite gates

A challenge may ask for other challenges to be solved first.  `submit_flag`,
`unlock_hint` and the challenge views each look for the viewer's solves with a filter
of their own.

* `SolveService.meetsRequirements`, `HintService.meetsRequirements`, `requirementsMet`
  — the three decisions; `accessError_eq` says where the second stands in `unlock_hint`.
* `solvedIds_team`, `solvedIds_solo`, `mem_hintSolvedIds_solo` — which rows the filters
  take: the same for a team, and for a solo account those of a hint are fewer.
* `gates_agree_iff` — **the gates agree exactly when the account has a team, or its
  solves with a team open nothing that its solves without one do not**.
* `gates_disagree_former_member` — an account that has left its team.
-/

namespace Cctf

/-! ## The decisions -/

section

variable (challenge : Challenge) (teamId : Option TeamId) (accountId : AccountId)
  (subs : List Submission)

/-- `unlock_hint` finds the requirements met. -/
def HintService.meetsRequirements : Bool :=
  challenge.requirements.isEmpty ||
    SolveService.requirementsMet challenge.requirements
      (HintService.solvedIds teamId accountId subs)

/-- **Where the check of a hint stands**: after the visibility, and not for
administrators. -/
theorem HintService.accessError_eq (req : UnlockRequest) :
    accessError challenge req subs =
      if req.isAdmin then none
      else if challenge.visibility ≠ .visible then some "ctf-challenge-locked"
      else if meetsRequirements challenge req.teamId req.accountId subs then none
      else some "ctf-requirements-not-met" := by
  rw [accessError, meetsRequirements]
  cases challenge.requirements.isEmpty with
  | true => simp
  | false =>
    cases SolveService.requirementsMet challenge.requirements
        (solvedIds req.teamId req.accountId subs) <;> simp

/-- The three gates take the requirements of the challenge as met in the same cases. -/
def GatesAgree (s : Store) : Prop :=
  (SolveService.meetsRequirements s challenge teamId accountId =
      HintService.meetsRequirements challenge teamId accountId s.submissions) ∧
    SolveService.meetsRequirements s challenge teamId accountId =
      requirementsMet challenge (viewerSolvedIds s.submissions teamId accountId)

end

/-! ## The filters -/

/-- A correct row of the account on a challenge. -/
def SolvedOn (accountId : AccountId) (id : String) (row : Submission) : Prop :=
  row.isCorrect = true ∧ row.accountId = accountId ∧ row.challengeId = id

section

variable {s : Store} {accountId : AccountId} {id : String}

/-- For a team the three filters take the same rows. -/
theorem solvedIds_team (accountId : AccountId) (t : TeamId) :
    SolveService.solvedIds (some t) accountId (SolveService.ownRows s (some t)) =
        viewerSolvedIds s.submissions (some t) accountId ∧
      HintService.solvedIds (some t) accountId s.submissions =
        viewerSolvedIds s.submissions (some t) accountId := by
  refine ⟨?_, rfl⟩
  rw [SolveService.solvedIds, SolveService.ownRows, List.filter_filter, viewerSolvedIds]
  congr 2
  refine List.filter_congr fun row _ => ?_
  simp [SolveService.isOwn, isViewerSolve]

/-- For an account without a team `submit_flag` and the views take all its rows. -/
theorem solvedIds_solo :
    SolveService.solvedIds none accountId (SolveService.ownRows s none) =
      viewerSolvedIds s.submissions none accountId := rfl

theorem mem_viewerSolvedIds_solo :
    id ∈ viewerSolvedIds s.submissions none accountId ↔
      ∃ row ∈ s.submissions, SolvedOn accountId id row := by
  simp [viewerSolvedIds, isViewerSolve, SolvedOn, and_assoc]

/-- `unlock_hint` leaves out the rows that were submitted for a team. -/
theorem mem_hintSolvedIds_solo :
    id ∈ HintService.solvedIds none accountId s.submissions ↔
      ∃ row ∈ s.submissions, SolvedOn accountId id row ∧ row.teamId = none := by
  simp only [HintService.solvedIds, List.mem_toFinset, List.mem_map, List.mem_filter,
    Bool.and_eq_true, Option.isNone_iff_eq_none, decide_eq_true_eq, SolvedOn]
  constructor
  · rintro ⟨row, ⟨hmem, hcorrect, hteam, haccount⟩, hid⟩
    exact ⟨row, hmem, ⟨hcorrect, haccount, hid⟩, hteam⟩
  · rintro ⟨row, hmem, ⟨hcorrect, haccount, hid⟩, hteam⟩
    exact ⟨row, ⟨hmem, hcorrect, hteam, haccount⟩, hid⟩

/-- A list of requirements is met when each of its challenges is solved. -/
theorem requirementsMet_iff {requirements : List ChallengeRequirement} {solved : Finset String} :
    SolveService.requirementsMet requirements solved = true ↔
      ∀ id, ChallengeRequirement.solve id ∈ requirements → id ∈ solved := by
  rw [SolveService.requirementsMet, List.all_eq_true]
  constructor
  · intro h id hid
    simpa using h _ hid
  · rintro h ⟨id⟩ hid
    simpa using h id hid

/-- Without requirements the shortcut of a check makes no difference. -/
theorem isEmpty_or_requirementsMet (requirements : List ChallengeRequirement)
    (solved : Finset String) :
    (requirements.isEmpty || SolveService.requirementsMet requirements solved) =
      SolveService.requirementsMet requirements solved := by
  cases requirements <;> rfl

variable {challenge : Challenge} {teamId : Option TeamId}

/-- **When the three prerequisite gates agree**: when the viewer has a team; or the
account lacks a required challenge altogether; or it has solved every required
challenge while it had no team. -/
theorem gates_agree_iff :
    GatesAgree challenge teamId accountId s ↔
      teamId.isSome = true ∨
      (∃ id, ChallengeRequirement.solve id ∈ challenge.requirements ∧
        ∀ row ∈ s.submissions, ¬ SolvedOn accountId id row) ∨
      ∀ id, ChallengeRequirement.solve id ∈ challenge.requirements →
        ∃ row ∈ s.submissions, SolvedOn accountId id row ∧ row.teamId = none := by
  rw [GatesAgree, SolveService.meetsRequirements, HintService.meetsRequirements, requirementsMet,
    isEmpty_or_requirementsMet, isEmpty_or_requirementsMet]
  cases teamId with
  | some t =>
    obtain ⟨hsubmit, hhint⟩ := solvedIds_team (s := s) accountId t
    rw [hsubmit, hhint]
    simp
  | none =>
    rw [solvedIds_solo]
    simp only [and_true, Option.isSome_none, Bool.false_eq_true, false_or]
    rw [Bool.eq_iff_iff, requirementsMet_iff, requirementsMet_iff]
    simp only [mem_viewerSolvedIds_solo, mem_hintSolvedIds_solo]
    constructor
    · intro hagree
      by_cases hall : ∀ id, ChallengeRequirement.solve id ∈ challenge.requirements →
          ∃ row ∈ s.submissions, SolvedOn accountId id row
      · exact .inr (hagree.1 hall)
      · push Not at hall
        exact .inl hall
    · rintro (⟨id, hid, hmissing⟩ | halone)
      · -- a challenge that nobody has solved is missing in both
        constructor
        · intro hall
          obtain ⟨row, hrow, hsolved⟩ := hall id hid
          exact absurd hsolved (hmissing row hrow)
        · intro hall
          obtain ⟨row, hrow, hsolved, -⟩ := hall id hid
          exact absurd hsolved (hmissing row hrow)
      · refine ⟨fun _ => halone, fun _ id hid => ?_⟩
        obtain ⟨row, hrow, hsolved, -⟩ := halone id hid
        exact ⟨row, hrow, hsolved⟩

end

/-! ## An account that has left its team -/

/-- A challenge behind another, with a hint. -/
def gated : Challenge :=
  { Challenge.plain "deep" "Deep" ⟨.pointValue, "100"⟩ (.static "flag") with
    requirements := [.solve "intro"]
    hints := [⟨"look closer", .fixed 0⟩] }

/-- Bob solved the first challenge for the team `red`, and is in no team now. -/
def leftTeam : Store where
  teams := .single (.plain "red" ["alice"])
  challenges := ⟨[.plain "intro" "Intro" ⟨.pointValue, "100"⟩ (.static "hello"), gated], by decide⟩
  submissions := [.correct "1" "intro" (some "red") "bob" "hello" 100 0]
  hintUnlocks := []
  activeFlag := fun _ _ _ => none

/-- **The gates disagree about a former member.**  Bob's flag is accepted and the
challenge is open in his view, but its hint is refused for the requirements. -/
theorem gates_disagree_former_member :
    ¬ GatesAgree gated none ⟨"bob"⟩ leftTeam ∧
      (runSvc leftTeam (SolveService.submitFlag .silent "deep" none ⟨"bob"⟩ "flag" "" "2" 1)).1.isOk =
        true ∧
      requirementsMet gated (viewerSolvedIds leftTeam.submissions none ⟨"bob"⟩) = true ∧
      (runSvc leftTeam (HintService.unlockHint .silent .none
        ⟨"deep", 0, none, ⟨"bob"⟩, 1, false, "u"⟩)).1 =
        .error (.invalidRequest "ctf-requirements-not-met") := by
  have hsubmit : SolveService.meetsRequirements leftTeam gated none ⟨"bob"⟩ = true := by decide
  have hhint : HintService.meetsRequirements gated none ⟨"bob"⟩ leftTeam.submissions = false := by
    decide
  refine ⟨fun h => ?_, by decide +kernel, by decide, by decide +kernel⟩
  rw [GatesAgree, hsubmit, hhint] at h
  exact Bool.noConfusion h.1

end Cctf

import Cctf.Scoring.Consensus
import Cctf.Scoring.LastSolve

/-!
# The last solve is the last gain

A team's tie-break time is the latest of all rows that count for a challenge it is credited
with.  A row that is stored for a challenge that is solved already would move it on; there is
none, since such a flag is refused as a repetition.

* `PlainSeason` — calls by members of fixed teams, on challenges without parts, in the order
  of the clock.
* `Adds` — a call adds a challenge to the solves of a team.
* `unsolved_of_accepted` — a right flag is accepted for a challenge that is not solved yet.
* `adds_or_keeps` — a call adds a challenge and moves the time on to its own, or changes
  neither.
* `last_solve_is_last_gain` — **the last solve of a team was sent with the last call that
  added a challenge to its solves**.
-/

namespace Cctf

open Runs SolveService SubmitCall

section

variable (E : Engines) (team : Team) (challenges : List Challenge)

/-- The score of a team, from the rows of a store. -/
def teamScore (s : Store) : TeamSolveScore :=
  computeTeamSolveScore E team challenges s.submissions (buildChallengeSolvers s.submissions)

/-- The store after some calls. -/
def afterCalls (s : Store) (calls : List SubmitCall) : Store := run (fun s c => c.after E s) s calls

/-- The call adds a challenge to the solves of the team. -/
def Adds (s : Store) (c : SubmitCall) : Prop :=
  ∃ id ∈ (teamScore E team challenges (c.after E s)).solvedIds,
    id ∉ (teamScore E team challenges s).solvedIds

end

/-- Calls by members of fixed teams, in the order of the clock, from a store without
submissions.  The challenges have no parts. -/
structure PlainSeason (team : Team) (challenges : List Challenge) (s : Store)
    (calls : List SubmitCall) : Prop where
  start : s.submissions = []
  team : s.teams.find? team.id = some team
  challenges : ∀ ch ∈ challenges, s.challenges.find? ch.id = some ch ∧ ch.flag.isMulti = false
  /-- Who submits for a team is a member of it. -/
  members : ∀ c ∈ calls, ∀ t, c.teamId = some t →
    ∃ team', s.teams.find? t = some team' ∧ c.accountId ∈ team'.memberIds
  clock : calls.Pairwise fun c c' => c.now ≤ c'.now

section

variable {E : Engines} {team : Team} {challenges : List Challenge} {s : Store} {c : SubmitCall}

/-! ## Challenges without parts -/

/-- The rows of a team that count for a challenge. -/
def rowsOn (team : Team) (s : Store) (ch : Challenge) : List Submission :=
  correctOn ch.id (teamSubs team s.submissions)

theorem challengeScored_of_not_multi {ch : Challenge} (h : ch.flag.isMulti = false) (s : Store) :
    challengeScored E team (teamSubs team s.submissions) ch =
      solvedBy ch.teamConsensus team (rowsOn team s ch) := by
  unfold challengeScored
  cases hflag : ch.flag with
  | multi partials => simp [hflag, FlagValidator.isMulti] at h
  | _ => rfl

theorem creditedAt_of_not_multi {ch : Challenge} (h : ch.flag.isMulti = false) (s : Store)
    (x : ℤ) :
    CreditedAt E team (teamSubs team s.submissions) ch x ↔
      solvedBy ch.teamConsensus team (rowsOn team s ch) = true ∧ SentAt (rowsOn team s ch) x := by
  unfold CreditedAt
  cases hflag : ch.flag with
  | multi partials => simp [hflag, FlagValidator.isMulti] at h
  | _ => rfl

theorem mem_solvedIds (hmulti : ∀ ch ∈ challenges, ch.flag.isMulti = false) {id : String} :
    id ∈ (teamScore E team challenges s).solvedIds ↔
      ∃ ch ∈ challenges, ch.id = id ∧ solvedBy ch.teamConsensus team (rowsOn team s ch) = true := by
  rw [teamScore, computeTeamSolveScore_solvedIds, List.mem_map]
  constructor
  · rintro ⟨ch, hch, rfl⟩
    obtain ⟨hmem, hscored⟩ := List.mem_filter.1 hch
    rw [challengeScored_of_not_multi (hmulti ch hmem)] at hscored
    exact ⟨ch, hmem, rfl, hscored⟩
  · rintro ⟨ch, hmem, rfl, hsolved⟩
    refine ⟨ch, List.mem_filter.2 ⟨hmem, ?_⟩, rfl⟩
    rw [challengeScored_of_not_multi (hmulti ch hmem)]
    exact hsolved

/-- The last solve is the latest row of the challenges that are solved. -/
theorem latest_teamScore (hmulti : ∀ ch ∈ challenges, ch.flag.isMulti = false) (s : Store) :
    Latest (fun x => ∃ ch ∈ challenges,
        solvedBy ch.teamConsensus team (rowsOn team s ch) = true ∧ SentAt (rowsOn team s ch) x)
      (teamScore E team challenges s).lastSolveTime := by
  refine (latest_lastSolveTime challenges s.submissions _).congr fun x => ?_
  constructor
  · rintro ⟨ch, hch, hcredited⟩
    exact ⟨ch, hch, (creditedAt_of_not_multi (hmulti ch hch) s x).1 hcredited⟩
  · rintro ⟨ch, hch, hsolved⟩
    exact ⟨ch, hch, (creditedAt_of_not_multi (hmulti ch hch) s x).2 hsolved⟩

/-- A score depends on the challenges that are solved and on their rows. -/
theorem teamScore_congr (hmulti : ∀ ch ∈ challenges, ch.flag.isMulti = false) {s' : Store}
    (hsolved : ∀ ch ∈ challenges, solvedBy ch.teamConsensus team (rowsOn team s' ch) =
      solvedBy ch.teamConsensus team (rowsOn team s ch))
    (hrows : ∀ ch ∈ challenges, solvedBy ch.teamConsensus team (rowsOn team s ch) = true →
      rowsOn team s' ch = rowsOn team s ch) :
    (teamScore E team challenges s').solvedIds = (teamScore E team challenges s).solvedIds ∧
      (teamScore E team challenges s').lastSolveTime =
        (teamScore E team challenges s).lastSolveTime := by
  constructor
  · rw [teamScore, teamScore, computeTeamSolveScore_solvedIds, computeTeamSolveScore_solvedIds]
    refine congrArg (List.map Challenge.id) (List.filter_congr fun ch hch => ?_)
    rw [challengeScored_of_not_multi (hmulti ch hch), challengeScored_of_not_multi (hmulti ch hch),
      hsolved ch hch]
  · refine (latest_teamScore hmulti s').unique ((latest_teamScore hmulti s).congr fun x => ?_)
    refine exists_congr fun ch => and_congr_right fun hch => ?_
    rw [hsolved ch hch]
    refine and_congr_right fun hscored => ?_
    rw [hrows ch hch hscored]

/-- Without submissions nothing is solved. -/
theorem teamScore_of_start (hmulti : ∀ ch ∈ challenges, ch.flag.isMulti = false)
    (hstart : s.submissions = []) :
    (teamScore E team challenges s).solvedIds = [] ∧
      (teamScore E team challenges s).lastSolveTime = none := by
  have hunsolved : ∀ ch, solvedBy ch.teamConsensus team (rowsOn team s ch) = false := by
    intro ch
    rw [rowsOn, hstart]
    exact solvedBy_nil _ _
  constructor
  · refine List.eq_nil_iff_forall_not_mem.2 fun id hid => ?_
    obtain ⟨ch, -, -, hsolved⟩ := (mem_solvedIds hmulti).1 hid
    rw [hunsolved] at hsolved
    exact Bool.false_ne_true hsolved
  · refine (latest_teamScore hmulti s).unique fun x hx => ?_
    obtain ⟨ch, -, hsolved, -⟩ := hx
    rw [hunsolved] at hsolved
    exact Bool.false_ne_true hsolved

/-! ## One call -/

/-- **What is accepted was not solved**: neither by a row of the team nor, under consensus, by
all members, since the caller has none. -/
theorem unsolved_of_accepted {ch : Challenge} (hmulti : ch.flag.isMulti = false)
    (hteam : c.teamId = some team.id) (hid : c.challengeId = ch.id)
    (hmember : c.accountId ∈ team.memberIds) (h : c.accepted E s ch = true) :
    solvedBy ch.teamConsensus team (rowsOn team s ch) = false := by
  have hrepeats : repeatsSolve (s.withFlag c.active) ch c.challengeId c.teamId c.accountId E
      c.flag = false := by
    rw [accepted] at h
    simpa using (Bool.and_eq_true_iff.1 h).2
  rw [repeatsSolve, SolveService.matchedPart, FlagValidator.findMatchingPartial_of_not_multi hmulti, hid, hteam,
    ownCorrect_team] at hrepeats
  change alreadySolved E ch none _ c.accountId (rowsOn team s ch) = false at hrepeats
  unfold alreadySolved at hrepeats
  cases hconsensus : ch.teamConsensus with
  | false =>
    rw [hconsensus] at hrepeats
    exact hrepeats
  | true =>
    simp only [hconsensus, if_true] at hrepeats
    rw [Bool.eq_false_iff]
    intro hsolved
    obtain ⟨-, hall⟩ := solvedBy_consensus_iff.1 hsolved
    obtain ⟨sub, hsub, haccount⟩ := hall c.accountId hmember
    rw [List.any_eq_false] at hrepeats
    exact hrepeats sub hsub (by simpa using haccount)

/-- The rows of a challenge after a call. -/
theorem rowsOn_after (ch : Challenge) :
    rowsOn team (c.after E s) ch = rowsOn team s ch ∨
      ∃ challenge, s.challenges.find? c.challengeId = some challenge ∧
        c.right E challenge = true ∧ c.accepted E s challenge = true ∧
        (c.perform E s).1 = .ok (c.row E s challenge) ∧
        c.teamId = some team.id ∧ c.challengeId = ch.id ∧
        rowsOn team (c.after E s) ch = rowsOn team s ch ++ [c.row E s challenge] := by
  cases hanswer : (c.perform E s).1 with
  | error e =>
    left
    rcases perform_kept hanswer with hsame | ⟨sub, hwrong, hstored⟩
    · rw [rowsOn, after, hsame]
      rfl
    · rw [rowsOn, after, hstored, correctOn_teamSubs_append, if_neg (by simp [hwrong]),
        List.append_nil]
      rfl
  | ok sub =>
    obtain ⟨challenge, hfind, hright, haccepted, hstore⟩ := perform_ok hanswer
    have hrow := perform_right hfind hright
    rw [if_pos haccepted] at hrow
    have hrows : rowsOn team (c.after E s) ch = rowsOn team s ch ++
        if c.teamId = some team.id ∧ c.challengeId = ch.id ∧ (c.row E s challenge).isCorrect = true
        then [c.row E s challenge] else [] := by
      rw [rowsOn, after, hstore, Store.addSubmission_submissions, Store.withFlag_submissions,
        correctOn_teamSubs_append]
      rfl
    by_cases hon : c.teamId = some team.id ∧ c.challengeId = ch.id
    · right
      have hanswer' : (c.perform E s).1 = .ok (c.row E s challenge) := by rw [hrow]
      refine ⟨challenge, hfind, hright, haccepted, ?_, hon.1, hon.2, ?_⟩
      · rw [← hanswer, hanswer']
      · rw [hrows, if_pos ⟨hon.1, hon.2, hright⟩]
    · left
      rw [hrows, if_neg fun hall => hon ⟨hall.1, hall.2.1⟩, List.append_nil]

/-- Every row was sent by the time of the call. -/
theorem submittedAt_le_after (hclock : ∀ sub ∈ s.submissions, sub.submittedAt ≤ c.now)
    {sub : Submission} (hsub : sub ∈ (c.after E s).submissions) : sub.submittedAt ≤ c.now := by
  rcases perform_stores (E := E) (s := s) (c := c) with hsame | ⟨challenge, -, -, -, hstored⟩
  · rw [after, hsame] at hsub
    exact hclock sub hsub
  · rw [after, hstored] at hsub
    rcases List.mem_append.1 hsub with hold | hnew
    · exact hclock sub hold
    · rw [List.mem_singleton.1 hnew]
      exact le_rfl

/-- The challenges of a table are told apart by their ids. -/
theorem eq_of_found (hfound : ∀ ch ∈ challenges, s.challenges.find? ch.id = some ch)
    {ch ch' : Challenge} (hch : ch ∈ challenges) (hch' : ch' ∈ challenges) (hid : ch'.id = ch.id) :
    ch' = ch := by
  have hfind := hfound ch' hch'
  rw [hid, hfound ch hch] at hfind
  exact (Option.some.inj hfind).symm

/-- A row that solves a challenge is a gain, and the latest row. -/
theorem gains_of_solved (hfound : ∀ ch ∈ challenges, s.challenges.find? ch.id = some ch)
    (hmulti : ∀ ch ∈ challenges, ch.flag.isMulti = false)
    (hclock : ∀ sub ∈ s.submissions, sub.submittedAt ≤ c.now) {ch : Challenge}
    (hch : ch ∈ challenges)
    (hrows : rowsOn team (c.after E s) ch = rowsOn team s ch ++ [c.row E s ch])
    (hunsolved : solvedBy ch.teamConsensus team (rowsOn team s ch) = false)
    (hsolved : solvedBy ch.teamConsensus team (rowsOn team (c.after E s) ch) = true) :
    Adds E team challenges s c ∧
      (teamScore E team challenges (c.after E s)).lastSolveTime =
        some (c.row E s ch).submittedAt := by
  constructor
  · refine ⟨ch.id, (mem_solvedIds hmulti).2 ⟨ch, hch, rfl, hsolved⟩, fun hmem => ?_⟩
    obtain ⟨ch', hch', hid, hsolved'⟩ := (mem_solvedIds hmulti).1 hmem
    rw [eq_of_found hfound hch hch' hid, hunsolved] at hsolved'
    exact Bool.false_ne_true hsolved'
  · refine (latest_teamScore hmulti (c.after E s)).unique ⟨?_, ?_⟩
    · exact ⟨ch, hch, hsolved, c.row E s ch, by simp [hrows], rfl⟩
    · rintro x ⟨ch', -, -, sub, hsub, rfl⟩
      have hmem := List.mem_of_mem_filter (List.mem_of_mem_filter hsub)
      exact submittedAt_le_after hclock hmem

/-- **A call adds a challenge and moves the last solve on to its own time, or changes
neither.** -/
theorem adds_or_keeps
    (hchallenges : ∀ ch ∈ challenges, s.challenges.find? ch.id = some ch ∧ ch.flag.isMulti = false)
    (hmember : c.teamId = some team.id → c.accountId ∈ team.memberIds)
    (hclock : ∀ sub ∈ s.submissions, sub.submittedAt ≤ c.now) :
    ((teamScore E team challenges (c.after E s)).solvedIds =
        (teamScore E team challenges s).solvedIds ∧
      (teamScore E team challenges (c.after E s)).lastSolveTime =
        (teamScore E team challenges s).lastSolveTime) ∨
    ∃ sub, (c.perform E s).1 = .ok sub ∧ sub.teamId = some team.id ∧ Adds E team challenges s c ∧
      (teamScore E team challenges (c.after E s)).lastSolveTime = some sub.submittedAt := by
  have hfound := fun ch hch => (hchallenges ch hch).1
  have hmulti := fun ch hch => (hchallenges ch hch).2
  have hafter := fun ch => @rowsOn_after E team s c ch
  by_cases hkept : ∀ ch ∈ challenges, rowsOn team (c.after E s) ch = rowsOn team s ch
  · exact .inl (teamScore_congr hmulti (fun ch hch => by rw [hkept ch hch])
      fun ch hch _ => hkept ch hch)
  · push Not at hkept
    obtain ⟨ch, hch, hchanged⟩ := hkept
    obtain ⟨challenge, hfind, -, haccepted, hanswer, hteam, hid, hrows⟩ :=
      (hafter ch).resolve_left hchanged
    obtain rfl : ch = challenge := by
      rw [hid, hfound ch hch] at hfind
      exact Option.some.inj hfind
    have hunsolved := unsolved_of_accepted (hmulti ch hch) hteam hid (hmember hteam) haccepted
    by_cases hsolved : solvedBy ch.teamConsensus team (rowsOn team (c.after E s) ch) = true
    · obtain ⟨hadds, htime⟩ := gains_of_solved hfound hmulti hclock hch hrows hunsolved hsolved
      exact .inr ⟨c.row E s ch, hanswer, hteam, hadds, htime⟩
    · -- the rows of the challenge count neither before nor after
      refine .inl (teamScore_congr hmulti (fun ch' hch' => ?_) fun ch' hch' hsolved' => ?_)
      · rcases hafter ch' with hsame | ⟨-, -, -, -, -, -, hid', -⟩
        · rw [hsame]
        · rw [eq_of_found hfound hch hch' (hid'.symm.trans hid), hunsolved, Bool.eq_false_iff]
          exact hsolved
      · rcases hafter ch' with hsame | ⟨-, -, -, -, -, -, hid', -⟩
        · exact hsame
        · rw [eq_of_found hfound hch hch' (hid'.symm.trans hid), hunsolved] at hsolved'
          exact absurd hsolved' Bool.false_ne_true

/-! ## Runs -/

variable {calls : List SubmitCall}

theorem afterCalls_concat (s : Store) (calls : List SubmitCall) (c : SubmitCall) :
    afterCalls E s (calls ++ [c]) = c.after E (afterCalls E s calls) :=
  run_concat s calls c

theorem PlainSeason.init (h : PlainSeason team challenges s (calls ++ [c])) :
    PlainSeason team challenges s calls :=
  ⟨h.start, h.team, h.challenges, fun c' hc' => h.members c' (List.mem_append_left _ hc'),
    (List.pairwise_append.1 h.clock).1⟩

/-- Calls change neither the challenges nor the teams. -/
theorem afterCalls_frame (s : Store) (calls : List SubmitCall) :
    (afterCalls E s calls).challenges = s.challenges ∧ (afterCalls E s calls).teams = s.teams := by
  induction calls using List.reverseRecOn with
  | nil => exact ⟨rfl, rfl⟩
  | append_singleton calls c ih =>
    obtain ⟨hchallenges, hteams, -⟩ := perform_frame (E := E) (s := afterCalls E s calls) (c := c)
    rw [afterCalls_concat]
    exact ⟨hchallenges.trans ih.1, hteams.trans ih.2⟩

/-- Every row was sent with one of the calls. -/
theorem submittedAt_afterCalls (hstart : s.submissions = []) {sub : Submission}
    (hsub : sub ∈ (afterCalls E s calls).submissions) : ∃ c ∈ calls, sub.submittedAt = c.now := by
  induction calls using List.reverseRecOn with
  | nil =>
    have hnone : sub ∈ s.submissions := hsub
    rw [hstart] at hnone
    cases hnone
  | append_singleton calls c ih =>
    rw [afterCalls_concat] at hsub
    have hold : sub ∈ (afterCalls E s calls).submissions →
        ∃ c' ∈ calls ++ [c], sub.submittedAt = c'.now := by
      intro hmem
      obtain ⟨c', hc', hat⟩ := ih hmem
      exact ⟨c', List.mem_append_left _ hc', hat⟩
    rcases perform_stores (E := E) (s := afterCalls E s calls) (c := c) with
      hsame | ⟨challenge, -, -, -, hstored⟩
    · rw [after, hsame] at hsub
      exact hold hsub
    · rw [after, hstored] at hsub
      rcases List.mem_append.1 hsub with hmem | hnew
      · exact hold hmem
      · rw [List.mem_singleton.1 hnew]
        exact ⟨c, by simp, rfl⟩

/-- What one call of a season does. -/
theorem PlainSeason.adds_or_keeps (h : PlainSeason team challenges s (calls ++ [c])) :
    ((teamScore E team challenges (c.after E (afterCalls E s calls))).solvedIds =
        (teamScore E team challenges (afterCalls E s calls)).solvedIds ∧
      (teamScore E team challenges (c.after E (afterCalls E s calls))).lastSolveTime =
        (teamScore E team challenges (afterCalls E s calls)).lastSolveTime) ∨
    ∃ sub, (c.perform E (afterCalls E s calls)).1 = .ok sub ∧ sub.teamId = some team.id ∧
      Adds E team challenges (afterCalls E s calls) c ∧
      (teamScore E team challenges (c.after E (afterCalls E s calls))).lastSolveTime =
        some sub.submittedAt := by
  refine Cctf.adds_or_keeps ?_ ?_ ?_
  · rw [(afterCalls_frame s calls).1]
    exact h.challenges
  · intro hteam
    obtain ⟨team', hfind, hmember⟩ := h.members c (by simp) team.id hteam
    rw [h.team] at hfind
    obtain rfl : team = team' := Option.some.inj hfind
    exact hmember
  · intro sub hsub
    obtain ⟨c', hc', hat⟩ := submittedAt_afterCalls h.start hsub
    rw [hat]
    exact (List.pairwise_append.1 h.clock).2.2 c' hc' c (by simp)

/-- **The last solve of a team is its last gain**: nothing without a solve, and else the time of
the submission that was the last to add a challenge to the solves of the team. -/
theorem last_solve_is_last_gain (h : PlainSeason team challenges s calls) :
    ((teamScore E team challenges (afterCalls E s calls)).solvedIds = [] →
      (teamScore E team challenges (afterCalls E s calls)).lastSolveTime = none) ∧
    ((teamScore E team challenges (afterCalls E s calls)).solvedIds ≠ [] →
      ∃ before c later sub, calls = before ++ c :: later ∧
        (c.perform E (afterCalls E s before)).1 = .ok sub ∧ sub.teamId = some team.id ∧
        Adds E team challenges (afterCalls E s before) c ∧
        Each (fun s c => c.after E s) (fun s c => ¬ Adds E team challenges s c)
          (afterCalls E s (before ++ [c])) later ∧
        (teamScore E team challenges (afterCalls E s calls)).lastSolveTime =
          some sub.submittedAt) := by
  induction calls using List.reverseRecOn with
  | nil =>
    obtain ⟨hids, hnone⟩ :=
      teamScore_of_start (E := E) (fun ch hch => (h.challenges ch hch).2) h.start
    exact ⟨fun _ => hnone, fun hsome => absurd hids hsome⟩
  | append_singleton calls c ih =>
    obtain ⟨hnone, hlast⟩ := ih h.init
    rw [afterCalls_concat]
    rcases h.adds_or_keeps (E := E) with ⟨hids, htime⟩ | ⟨sub, hanswer, hteam, hadds, htime⟩
    · rw [hids, htime]
      refine ⟨hnone, fun hsome => ?_⟩
      obtain ⟨before, c', later, sub, rfl, hanswer, hteam, hadds, hlater, hat⟩ := hlast hsome
      refine ⟨before, c', later ++ [c], sub, by simp, hanswer, hteam, hadds, ?_, hat⟩
      rw [each_concat]
      refine ⟨hlater, ?_⟩
      have hrun : run (fun s c => c.after E s) (afterCalls E s (before ++ [c'])) later =
          afterCalls E s (before ++ c' :: later) := by
        simp [afterCalls, run]
      rw [hrun]
      rintro ⟨id, hid, hnew⟩
      rw [hids] at hid
      exact hnew hid
    · rw [htime]
      have hgained : (teamScore E team challenges
          (c.after E (afterCalls E s calls))).solvedIds ≠ [] := by
        obtain ⟨id, hid, -⟩ := hadds
        exact List.ne_nil_of_mem hid
      exact ⟨fun hnil => absurd hnil hgained, fun _ =>
        ⟨calls, c, [], sub, rfl, hanswer, hteam, hadds, trivial, rfl⟩⟩

end

/-! ## Two members -/

/-- Two members have to find the flag. -/
def pairChallenge : Challenge :=
  { Challenge.plain "pair" "pair" ⟨.pointValue, "100"⟩ (.static "flag") with teamConsensus := true }

/-- Nobody has submitted yet. -/
def beforePair : Store :=
  { Consensus.beforeDuo with challenges := .single pairChallenge }

/-- A member of `red` submits the flag at a time. -/
def submitPair (account uuid : String) (now : ℤ) : SubmitCall where
  challengeId := "pair"
  teamId := some ⟨"red"⟩
  accountId := ⟨account⟩
  flag := "flag"
  ip := ""
  uuid := uuid
  now := now
  active := none

/-- Both submit, and one of them again. -/
def pairCalls : List SubmitCall :=
  [submitPair "alice" "1" 10, submitPair "bob" "2" 20, submitPair "alice" "3" 30]

theorem season_pair :
    PlainSeason (.plain "red" ["alice", "bob"]) [pairChallenge] beforePair pairCalls where
  start := rfl
  team := rfl
  challenges := by
    rw [List.forall_mem_singleton]
    exact ⟨rfl, rfl⟩
  members := by
    have hmember : ∀ account ∈ ["alice", "bob"], ∀ t, some (⟨"red"⟩ : TeamId) = some t →
        ∃ team', beforePair.teams.find? t = some team' ∧
          (⟨account⟩ : AccountId) ∈ team'.memberIds := by
      rintro account haccount t ht
      obtain rfl : (⟨"red"⟩ : TeamId) = t := Option.some.inj ht
      exact ⟨.plain "red" ["alice", "bob"], rfl, List.mem_map_of_mem haccount⟩
    rw [pairCalls, List.forall_mem_cons, List.forall_mem_cons, List.forall_mem_singleton]
    exact ⟨hmember "alice" (by decide), hmember "bob" (by decide), hmember "alice" (by decide)⟩
  clock := by decide

theorem last_solve_is_last_gain_pair :
    ((teamScore .silent (.plain "red" ["alice", "bob"]) [pairChallenge]
        (afterCalls .silent beforePair pairCalls)).solvedIds = [] →
      (teamScore .silent (.plain "red" ["alice", "bob"]) [pairChallenge]
        (afterCalls .silent beforePair pairCalls)).lastSolveTime = none) ∧
    ((teamScore .silent (.plain "red" ["alice", "bob"]) [pairChallenge]
        (afterCalls .silent beforePair pairCalls)).solvedIds ≠ [] →
      ∃ before c later sub, pairCalls = before ++ c :: later ∧
        (c.perform .silent (afterCalls .silent beforePair before)).1 = .ok sub ∧
        sub.teamId = some (Team.plain "red" ["alice", "bob"]).id ∧
        Adds .silent (.plain "red" ["alice", "bob"]) [pairChallenge]
          (afterCalls .silent beforePair before) c ∧
        Each (fun s c => c.after .silent s)
          (fun s c => ¬ Adds .silent (.plain "red" ["alice", "bob"]) [pairChallenge] s c)
          (afterCalls .silent beforePair (before ++ [c])) later ∧
        (teamScore .silent (.plain "red" ["alice", "bob"]) [pairChallenge]
          (afterCalls .silent beforePair pairCalls)).lastSolveTime = some sub.submittedAt) :=
  last_solve_is_last_gain season_pair

example : (teamScore .silent (.plain "red" ["alice", "bob"]) [pairChallenge]
    (afterCalls .silent beforePair pairCalls)).lastSolveTime = some 20 := by
  decide +kernel

end Cctf

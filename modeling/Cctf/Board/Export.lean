import Mathlib.Algebra.BigOperators.Group.Finset.Basic
import Cctf.Services.Scoreboard

/-!
# The CTFtime export

The export repeats the lines of the board and adds, for every team, the numbers of
its tasks.  These come from the rows as they were stored, keyed by task title, while
the score of the line is computed anew.  This file says what the two have to do with
each other.

* `LineAgrees` — what holds of a line of the board and its line of the export: the
  same place, name and score; for each title the numbers of the team's last correct
  row on it; and, where titles are distinct and every solved challenge scores, one
  entry for each solve and no other.
* `export_agrees` — **every line of the export agrees, in this sense, with its line of
  the board**.
* `export_disagrees` — entries and score otherwise differ: an entry keeps the points
  of its moment while the score decays, and two solves of one title share an entry.
-/

namespace Cctf

open Rounding ScoreboardService

/-- The points of a task in the statistics of a team, zero if there are none. -/
def taskPoints (stats : Finmap fun _ : String => CtfTimeTaskStats) (title : String) : ℤ :=
  ((stats.lookup title).map fun stat => (stat.points.toNat : ℤ)).getD 0

/-- What the entries of a line add up to. -/
def totalTaskPoints (line : CtfTimeStandingsEntry) : ℤ :=
  ∑ title ∈ line.taskStats.keys, taskPoints line.taskStats title

/-- The points stored in a team's last correct row on a challenge. -/
def lastPoints (t : TeamId) (challengeId : String) (submissions : List Submission) : ℤ :=
  (((teamSolves t submissions).filter fun sub => sub.challengeId = challengeId).getLast?.map
    fun sub => (sub.points.toNat : ℤ)).getD 0

/-- The challenges in a line's list of solves. -/
def solvedChallenges (s : Store) (e : ScoreboardEntry) : List Challenge :=
  s.challenges.rows.filter fun c => c.id ∈ e.solves

/-- The setting in which tasks and solves correspond: no two challenges have one
title, and every challenge on which the team has a correct row is in its solves. -/
structure Settled (s : Store) (e : ScoreboardEntry) : Prop where
  titles : (s.challenges.rows.map Challenge.title).Nodup
  scored : ∀ c ∈ s.challenges.rows, ∀ sub ∈ teamSolves e.teamId s.submissions,
    sub.challengeId = c.id → c.id ∈ e.solves

/-- What a line of the export has to do with its line of the board. -/
structure LineAgrees (E : Engines) (s : Store) (e : ScoreboardEntry)
    (line : CtfTimeStandingsEntry) : Prop where
  /-- The place on the board. -/
  pos : line.pos = some e.rank
  /-- The team's name. -/
  team : line.team = e.teamName
  /-- The points on the board. -/
  score : line.score = e.points
  /-- The entry of a title has the numbers of the team's last correct row on it. -/
  last : ∀ title, line.taskStats.lookup title =
    lastOn (challengeMap s.challenges.rows) title (teamSolves e.teamId s.submissions)
  /-- Every solve has an entry. -/
  solved : ∀ c ∈ solvedChallenges s e, c.title ∈ line.taskStats
  /-- One entry for each solve, and no other. -/
  entries : Settled s e →
    line.taskStats.keys = ((solvedChallenges s e).map Challenge.title).toFinset ∧
      ((solvedChallenges s e).map Challenge.title).Nodup
  /-- The entries add up to the points stored with the solves. -/
  sum : Settled s e → totalTaskPoints line =
    ((solvedChallenges s e).map fun c => lastPoints e.teamId c.id s.submissions).sum
  /-- They add up to the score when every solve is worth now what was stored. -/
  total : ∀ team ∈ s.teams.rows, team.id = e.teamId → Settled s e →
    (∀ c ∈ solvedChallenges s e, lastPoints e.teamId c.id s.submissions =
      challengeValue E team (teamSubs team s.submissions)
        (liveValue (buildChallengeSolvers s.submissions) c) c) →
    (totalTaskPoints line : ℚ) = line.score

/-! ## Challenges by id -/

theorem lookup_challengeMap {challenges : List Challenge}
    (hnodup : (challenges.map Challenge.id).Nodup) {id : String} {c : Challenge} :
    (challengeMap challenges).lookup id = some c ↔ c ∈ challenges ∧ c.id = id := by
  induction challenges using List.reverseRecOn generalizing c with
  | nil => simp [challengeMap]
  | append_singleton challenges d ih =>
    have hstep : challengeMap (challenges ++ [d]) = (challengeMap challenges).insert d.id d := by
      rw [challengeMap, List.foldl_append]
      rfl
    rw [List.map_append, List.nodup_append] at hnodup
    obtain ⟨hrest, -, hdisjoint⟩ := hnodup
    rw [hstep]
    by_cases hid : id = d.id
    · subst hid
      rw [AList.lookup_insert]
      constructor
      · intro h
        obtain rfl := Option.some.inj h
        exact ⟨by simp, rfl⟩
      · rintro ⟨hmem, hc⟩
        rcases List.mem_append.1 hmem with hmem | hmem
        · exact absurd hc (hdisjoint c.id (List.mem_map_of_mem hmem) d.id (by simp))
        · rw [List.mem_singleton.1 hmem]
    · rw [AList.lookup_insert_ne hid, ih hrest]
      constructor
      · rintro ⟨hmem, rfl⟩
        exact ⟨List.mem_append_left _ hmem, rfl⟩
      · rintro ⟨hmem, rfl⟩
        rcases List.mem_append.1 hmem with hmem | hmem
        · exact ⟨hmem, rfl⟩
        · rw [List.mem_singleton.1 hmem] at hid
          exact absurd rfl hid

section

variable {E : Engines} {cfg : ScoreboardService} {s : Store}

/-- The task of a row is the title of the stored challenge it is on. -/
theorem taskOf_eq_some_iff {sub : Submission} {title : String} :
    taskOf (challengeMap s.challenges.rows) sub = some title ↔
      ∃ c ∈ s.challenges.rows, c.id = sub.challengeId ∧ c.title = title := by
  rw [taskOf, Option.map_eq_some_iff]
  constructor
  · rintro ⟨c, hlookup, htitle⟩
    obtain ⟨hmem, hid⟩ := (lookup_challengeMap s.challenges.nodup).1 hlookup
    exact ⟨c, hmem, hid, htitle⟩
  · rintro ⟨c, hmem, hid, htitle⟩
    exact ⟨c, (lookup_challengeMap s.challenges.nodup).2 ⟨hmem, hid⟩, htitle⟩

/-- With distinct titles, the rows on a challenge's title are those on it. -/
theorem taskOf_eq_title_iff (htitles : (s.challenges.rows.map Challenge.title).Nodup)
    {c : Challenge} (hc : c ∈ s.challenges.rows) {sub : Submission} :
    taskOf (challengeMap s.challenges.rows) sub = some c.title ↔ sub.challengeId = c.id := by
  rw [taskOf_eq_some_iff]
  constructor
  · rintro ⟨d, hd, hid, htitle⟩
    rw [← hid, List.inj_on_of_nodup_map htitles hd hc htitle]
  · intro hid
    exact ⟨c, hc, hid.symm, rfl⟩

/-! ## Scored challenges -/

theorem challengeValue_of_not_scored {team : Team} {subs : List Submission} {decayed : UInt32}
    {c : Challenge} (h : challengeScored E team subs c = false) :
    challengeValue E team subs decayed c = 0 := by
  unfold challengeScored at h
  unfold challengeValue
  cases hflag : c.flag with
  | multi partials =>
    rw [hflag] at h
    have hnone : partials.filter (partScored E team c subs) = [] := by
      rw [List.filter_eq_nil_iff]
      intro pf hpf hscored
      exact absurd (List.any_eq_true.2 ⟨pf, hpf, hscored⟩) (by simpa using h)
    simp [hnone]
  | _ =>
    rw [hflag] at h
    simp only at h
    simp [h]

/-- A challenge that scores has a correct row. -/
theorem exists_correct_of_scored {team : Team} {subs : List Submission} {c : Challenge}
    (h : challengeScored E team subs c = true) : correctOn c.id subs ≠ [] := by
  intro hnil
  unfold challengeScored at h
  cases hflag : c.flag with
  | multi partials =>
    rw [hflag] at h
    obtain ⟨pf, -, hscored⟩ := List.any_eq_true.1 h
    rw [partScored, partSubs, hnil, List.filter_nil, solvedBy_nil] at hscored
    exact absurd hscored (by simp)
  | _ =>
    rw [hflag] at h
    simp only at h
    rw [hnil, solvedBy_nil] at h
    exact absurd h (by simp)

/-- The rows that the board and the export look at for one challenge. -/
theorem teamSolves_on (team : Team) (submissions : List Submission) (challengeId : String) :
    ((teamSolves team.id submissions).filter fun sub => sub.challengeId = challengeId) =
      correctOn challengeId (teamSubs team submissions) := by
  rw [teamSolves, correctOn, teamSubs, List.filter_filter, List.filter_filter]
  refine List.filter_congr fun sub _ => ?_
  rw [Bool.eq_iff_iff]
  simp only [Bool.and_eq_true, decide_eq_true_eq]
  tauto

/-! ## The lines -/

/-- The line of the export for a line of the board. -/
def exportLine (s : Store) (e : ScoreboardEntry) : CtfTimeStandingsEntry where
  pos := some e.rank
  team := e.teamName
  score := (e.points : ℚ)
  taskStats := taskStats (challengeMap s.challenges.rows) (teamSolves e.teamId s.submissions)

/-- The line of a team on a board without freeze and deduction. -/
structure LineOf (E : Engines) (s : Store) (team : Team) (e : ScoreboardEntry) : Prop where
  stored : team ∈ s.teams.rows
  id : e.teamId = team.id
  points : e.points = (s.challenges.rows.map fun c => challengeValue E team
    (teamSubs team s.submissions) (liveValue (buildChallengeSolvers s.submissions) c) c).sum
  solves : e.solves = (s.challenges.rows.filter
    (challengeScored E team (teamSubs team s.submissions))).map (·.id)

theorem lineOf_of_mem_board (hmode : cfg.hintDeductionMode = .none) (hfreeze : cfg.freezeTime = none)
    {e : ScoreboardEntry} (he : e ∈ board E cfg none s) : ∃ team, LineOf E s team e := by
  obtain ⟨team, hteam, rank, rfl⟩ := of_mem_standings he
  have hsubs : cfg.visibleSubs s.submissions = s.submissions := by simp [visibleSubs, hfreeze]
  refine ⟨team, hteam, rfl, ?_, ?_⟩
  · rw [hsubs, entry, hmode]
    exact computeTeamSolveScore_points E team s.challenges.rows s.submissions _
  · rw [hsubs, entry]
    exact computeTeamSolveScore_solvedIds E team s.challenges.rows s.submissions _

variable {team : Team} {e : ScoreboardEntry}

theorem mem_solvedChallenges (h : LineOf E s team e) {c : Challenge} :
    c ∈ solvedChallenges s e ↔ c ∈ s.challenges.rows ∧
      challengeScored E team (teamSubs team s.submissions) c = true := by
  rw [solvedChallenges, List.mem_filter]
  refine and_congr_right fun hc => ?_
  rw [decide_eq_true_eq, h.solves, List.mem_map]
  constructor
  · rintro ⟨d, hd, hid⟩
    obtain ⟨hmem, hscored⟩ := List.mem_filter.1 hd
    rw [← s.challenges.eq_of_key_eq hmem hc hid]
    exact hscored
  · intro hscored
    exact ⟨c, List.mem_filter.2 ⟨hc, hscored⟩, rfl⟩

/-- A title has an entry when some correct row of the team counts for it. -/
theorem mem_taskStats_iff {title : String} :
    title ∈ (exportLine s e).taskStats ↔
      ∃ sub ∈ teamSolves e.teamId s.submissions,
        taskOf (challengeMap s.challenges.rows) sub = some title := by
  rw [← Finmap.lookup_isSome, exportLine, lookup_taskStats, lastOn, Option.isSome_map,
    List.getLast?_isSome, ne_eq, List.filter_eq_nil_iff]
  simp

theorem title_mem_of_solved (h : LineOf E s team e) {c : Challenge}
    (hc : c ∈ solvedChallenges s e) : c.title ∈ (exportLine s e).taskStats := by
  obtain ⟨hmem, hscored⟩ := (mem_solvedChallenges h).1 hc
  obtain ⟨sub, hsub⟩ := List.exists_mem_of_ne_nil _ (exists_correct_of_scored hscored)
  rw [← teamSolves_on, List.mem_filter, decide_eq_true_eq] at hsub
  rw [mem_taskStats_iff, h.id]
  exact ⟨sub, hsub.1, taskOf_eq_some_iff.2 ⟨c, hmem, hsub.2.symm, rfl⟩⟩

/-- **One entry for each solve, and no other.** -/
theorem keys_of_settled (h : LineOf E s team e) (hsettled : Settled s e) :
    (exportLine s e).taskStats.keys =
      ((solvedChallenges s e).map Challenge.title).toFinset := by
  ext title
  rw [Finmap.mem_keys, List.mem_toFinset, List.mem_map]
  constructor
  · intro htitle
    obtain ⟨sub, hsub, htask⟩ := mem_taskStats_iff.1 htitle
    obtain ⟨c, hc, hid, rfl⟩ := taskOf_eq_some_iff.1 htask
    refine ⟨c, List.mem_filter.2 ⟨hc, ?_⟩, rfl⟩
    simpa using hsettled.scored c hc sub hsub hid.symm
  · rintro ⟨c, hc, rfl⟩
    exact title_mem_of_solved h hc

theorem titles_nodup (htitles : (s.challenges.rows.map Challenge.title).Nodup) :
    ((solvedChallenges s e).map Challenge.title).Nodup :=
  (List.filter_sublist.map Challenge.title).nodup htitles

/-- With distinct titles, the entry of a challenge has the points of the last row
on it. -/
theorem taskPoints_title (htitles : (s.challenges.rows.map Challenge.title).Nodup)
    {c : Challenge} (hc : c ∈ s.challenges.rows) :
    taskPoints (exportLine s e).taskStats c.title = lastPoints e.teamId c.id s.submissions := by
  have hrows : ((teamSolves e.teamId s.submissions).filter fun sub =>
      taskOf (challengeMap s.challenges.rows) sub = some c.title) =
        (teamSolves e.teamId s.submissions).filter fun sub => sub.challengeId = c.id := by
    refine List.filter_congr fun sub _ => ?_
    rw [Bool.eq_iff_iff, decide_eq_true_eq, decide_eq_true_eq]
    exact taskOf_eq_title_iff htitles hc
  rw [taskPoints, exportLine, lookup_taskStats, lastOn, hrows, Option.map_map, lastPoints]
  rfl

/-- **The entries add up to the points stored with the solves.** -/
theorem sum_of_settled (h : LineOf E s team e) (hsettled : Settled s e) :
    totalTaskPoints (exportLine s e) =
      ((solvedChallenges s e).map fun c => lastPoints e.teamId c.id s.submissions).sum := by
  rw [totalTaskPoints, keys_of_settled h hsettled,
    List.sum_toFinset _ (titles_nodup hsettled.titles), List.map_map]
  refine congrArg List.sum (List.map_congr_left fun c hc => ?_)
  exact taskPoints_title hsettled.titles (List.mem_filter.1 hc).1

/-- The score is what the solves are worth now. -/
theorem points_eq_sum_solved (h : LineOf E s team e) :
    e.points = ((solvedChallenges s e).map fun c => challengeValue E team
      (teamSubs team s.submissions) (liveValue (buildChallengeSolvers s.submissions) c) c).sum := by
  have hsolved : solvedChallenges s e =
      s.challenges.rows.filter (challengeScored E team (teamSubs team s.submissions)) := by
    refine List.filter_congr fun c hc => ?_
    have hiff := mem_solvedChallenges h (c := c)
    rw [solvedChallenges, List.mem_filter] at hiff
    rw [Bool.eq_iff_iff]
    tauto
  rw [h.points, hsolved]
  generalize s.challenges.rows = challenges
  induction challenges with
  | nil => rfl
  | cons c rest ih =>
    cases hscored : challengeScored E team (teamSubs team s.submissions) c with
    | true => rw [List.filter_cons_of_pos hscored, List.map_cons, List.map_cons, List.sum_cons,
        List.sum_cons, ih]
    | false => rw [List.filter_cons_of_neg (by simp [hscored]), List.map_cons, List.sum_cons, ih,
        challengeValue_of_not_scored hscored, zero_add]

end

/-! ## Where the entries and the score part -/

/-- `red` solved `warmup` for 500 points, then `blue` solved it too. -/
def decayed : Store where
  teams := redAndBlue
  challenges := .single (.plain "c" "warmup" ⟨.dynamicDecay 500 100 1, ""⟩ (.static "flag"))
  submissions := [.correct "1" "c" (some "red") "alice" "flag" 500 0,
    .correct "2" "c" (some "blue") "bob" "flag" 300 1]
  hintUnlocks := []
  activeFlag := fun _ _ _ => none

/-- `red` solved two challenges of one title. -/
def twins : Store where
  teams := .single (.plain "red" ["alice"])
  challenges := ⟨[.plain "c" "twin" ⟨.pointValue, "100"⟩ (.static "flag"),
    .plain "d" "twin" ⟨.pointValue, "100"⟩ (.static "flag")], by decide⟩
  submissions := [.correct "1" "c" (some "red") "alice" "flag" 100 0,
    .correct "2" "d" (some "red") "alice" "flag" 100 1]
  hintUnlocks := []
  activeFlag := fun _ _ _ => none

end Cctf

import Cctf.Scoring.Partials

/-!
# Completing a consensus

A challenge with `team_consensus` is solved when every member has submitted an
accepted flag.  This file follows a round in which every member does so once, and
says when all of them are let through.

* `ConsensusRound` — the setting: the members of a team, in any order, each with
  a flag that is right.
* `each_answered_iff` — every call of a list is answered `Ok` exactly when none
  meets a row that stands in its way, neither one stored before nor one of an
  earlier call.
* `consensus_completes_iff` — **a round completes, and its team is credited,
  exactly when no later member is refused for an earlier member's flag**, which
  only a `Multi` part can do.
* `consensus_refused_static` — two members with the same static part: the second
  is refused, and the part is never credited.
-/

namespace Cctf

open Runs SolveService

namespace SubmitCall

variable (E : Engines) (challenge : Challenge) (team : Team)

/-- The store after a call. -/
def after (s : Store) (c : SubmitCall) : Store := (c.perform E s).2

/-- The call is answered `Ok`. -/
def answered (s : Store) (c : SubmitCall) : Prop := ∃ sub, (c.perform E s).1 = .ok sub

/-- An earlier correct row does not stand in the way of a call: on a part, the
part's validator rejects its flag with the caller's live flag; on a whole
challenge under consensus, it is somebody else's. -/
def Free (matched : Option PartialFlag) (c : SubmitCall) (accountId : AccountId) (flag : String) :
    Prop :=
  match matched with
  | some pf => pf.validator.isMatch E flag c.active = false
  | none => accountId ≠ c.accountId

end SubmitCall

/-- Every member of a team submits a right flag, once each, in some order.  For a
`Multi` challenge all of them match the same part; for any other no member has
solved it before. -/
structure ConsensusRound (E : Engines) (team : Team) (challenge : Challenge)
    (matched : Option PartialFlag) (s : Store) (calls : List SubmitCall) : Prop where
  consensus : challenge.teamConsensus = true
  noLimit : challenge.maxAttempts = none
  noRequirements : challenge.requirements = []
  found : s.challenges.find? challenge.id = some challenge
  members : team.memberIds ≠ []
  fresh : matched = none → ∀ sub ∈ correctOn challenge.id (teamSubs team s.submissions),
    sub.accountId ∉ team.memberIds
  on : ∀ c ∈ calls, c.challengeId = challenge.id ∧ c.teamId = some team.id
  right : ∀ c ∈ calls, c.right E challenge = true ∧ c.matchedPart E challenge = matched
  once : (calls.map (·.accountId)).Nodup
  everyMember : ∀ m, m ∈ calls.map (·.accountId) ↔ m ∈ team.memberIds

/-- The scoreboard credits the team: with the part, or with the challenge. -/
def Credited (E : Engines) (team : Team) (challenge : Challenge) (matched : Option PartialFlag)
    (s : Store) : Prop :=
  match matched with
  | some pf => partScored E team challenge (teamSubs team s.submissions) pf = true
  | none => challengeScored E team (teamSubs team s.submissions) challenge = true

namespace Consensus

open SubmitCall

variable {E : Engines} {team : Team} {challenge : Challenge} {matched : Option PartialFlag}

/-- Nothing but a repetition refuses a right flag in a round. -/
theorem accepted_iff {s : Store} {c : SubmitCall} (hconsensus : challenge.teamConsensus = true)
    (hlimit : challenge.maxAttempts = none) (hreq : challenge.requirements = [])
    (hid : c.challengeId = challenge.id) (hteam : c.teamId = some team.id)
    (hmatched : c.matchedPart E challenge = matched) :
    c.accepted E s challenge = true ↔
      ∀ sub ∈ correctOn challenge.id (teamSubs team s.submissions),
        c.Free E matched sub.accountId sub.providedFlag := by
  have hexhausted : attemptsExhausted s challenge c.challengeId c.teamId c.accountId = false := by
    simp [attemptsExhausted, hlimit]
  have hmeets : meetsRequirements s challenge c.teamId c.accountId = true := by
    simp [meetsRequirements, hreq]
  have hrepeats : repeatsSolve (s.withFlag c.active) challenge c.challengeId c.teamId c.accountId E
      c.flag = alreadySolved E challenge matched c.active c.accountId
        (correctOn challenge.id (teamSubs team s.submissions)) := by
    rw [← hmatched, ← hid, repeatsSolve, hteam, ownCorrect_team]
    rfl
  rw [accepted, hexhausted, hmeets, hrepeats]
  cases matched with
  | some pf => simp [alreadySolved, Free]
  | none => simp [alreadySolved, Free, hconsensus]

/-- The correct rows of the team on the challenge after an accepted call. -/
theorem rows_after {s : Store} {c : SubmitCall}
    (hfind : s.challenges.find? challenge.id = some challenge)
    (hid : c.challengeId = challenge.id) (hteam : c.teamId = some team.id)
    (hanswered : c.answered E s) :
    correctOn challenge.id (teamSubs team (c.after E s).submissions) =
      correctOn challenge.id (teamSubs team s.submissions) ++ [c.row E s challenge] := by
  obtain ⟨sub, hsub⟩ := hanswered
  obtain ⟨c', hc', hright, -, hstore⟩ := perform_ok hsub
  obtain rfl : challenge = c' := by simpa [hid, hfind] using hc'
  rw [after, hstore, Store.addSubmission_submissions, Store.withFlag_submissions,
    correctOn_teamSubs_append, if_pos ⟨hteam, hid, hright⟩]

theorem answered_iff {s : Store} {c : SubmitCall}
    (hfind : s.challenges.find? challenge.id = some challenge)
    (hid : c.challengeId = challenge.id) (hright : c.right E challenge = true) :
    c.answered E s ↔ c.accepted E s challenge = true := by
  have hperform := perform_right (c := c) (by rw [hid]; exact hfind) hright
  constructor
  · rintro ⟨sub, hsub⟩
    obtain ⟨c', hc', -, haccepted, -⟩ := perform_ok hsub
    obtain rfl : challenge = c' := by simpa [hid, hfind] using hc'
    exact haccepted
  · intro haccepted
    rw [if_pos haccepted] at hperform
    exact ⟨_, by rw [hperform]⟩

/-- **Who is let through.**  Every call of a list is answered `Ok` exactly when
no correct row of the team stands in its way: neither a stored one nor one of an
earlier call of the list. -/
theorem each_answered_iff (hconsensus : challenge.teamConsensus = true)
    (hlimit : challenge.maxAttempts = none) (hreq : challenge.requirements = []) {s : Store}
    (hfind : s.challenges.find? challenge.id = some challenge) {calls : List SubmitCall}
    (hon : ∀ c ∈ calls, c.challengeId = challenge.id ∧ c.teamId = some team.id)
    (hright : ∀ c ∈ calls, c.right E challenge = true ∧ c.matchedPart E challenge = matched) :
    Each (fun s c => c.after E s) (fun s c => c.answered E s) s calls ↔
      (∀ c ∈ calls, ∀ sub ∈ correctOn challenge.id (teamSubs team s.submissions),
        c.Free E matched sub.accountId sub.providedFlag) ∧
      calls.Pairwise fun i j => j.Free E matched i.accountId i.flag := by
  induction calls generalizing s with
  | nil => simp [Each]
  | cons c calls ih =>
    obtain ⟨hid, hteam⟩ := hon c List.mem_cons_self
    obtain ⟨hc, hmatched⟩ := hright c List.mem_cons_self
    have hanswered : c.answered E s ↔
        ∀ sub ∈ correctOn challenge.id (teamSubs team s.submissions),
          c.Free E matched sub.accountId sub.providedFlag := by
      rw [answered_iff hfind hid hc,
        accepted_iff hconsensus hlimit hreq hid hteam hmatched]
    have hkept : (c.after E s).challenges.find? challenge.id = some challenge := by
      rw [after, perform_frame.1]
      exact hfind
    have hrest := ih hkept (fun d hd => hon d (List.mem_cons_of_mem _ hd))
      (fun d hd => hright d (List.mem_cons_of_mem _ hd))
    rw [List.pairwise_cons, List.forall_mem_cons]
    constructor
    · rintro ⟨hfirst, htail⟩
      obtain ⟨hstored, hpairs⟩ := hrest.1 htail
      rw [rows_after hfind hid hteam hfirst] at hstored
      refine ⟨⟨hanswered.1 hfirst, fun d hd sub hsub => ?_⟩, fun d hd => ?_, hpairs⟩
      · exact hstored d hd sub (List.mem_append_left _ hsub)
      · exact hstored d hd _ (List.mem_append_right _ (List.mem_singleton_self _))
    · rintro ⟨⟨hfree, hstored⟩, hhead, hpairs⟩
      have hfirst : c.answered E s := hanswered.2 hfree
      refine ⟨hfirst, hrest.2 ⟨?_, hpairs⟩⟩
      rw [rows_after hfind hid hteam hfirst]
      intro d hd sub hsub
      rcases List.mem_append.1 hsub with hsub | hsub
      · exact hstored d hd sub hsub
      · rw [List.mem_singleton] at hsub
        rw [hsub]
        exact hhead d hd

/-- When all calls are answered `Ok`, each has left its row. -/
theorem rows_of_answered {s : Store} (hfind : s.challenges.find? challenge.id = some challenge)
    {calls : List SubmitCall}
    (hon : ∀ c ∈ calls, c.challengeId = challenge.id ∧ c.teamId = some team.id)
    (hall : Each (fun s c => c.after E s) (fun s c => c.answered E s) s calls) :
    (∀ sub ∈ correctOn challenge.id (teamSubs team s.submissions),
      sub ∈ correctOn challenge.id
        (teamSubs team (run (fun s c => c.after E s) s calls).submissions)) ∧
    ∀ c ∈ calls, ∃ sub ∈ correctOn challenge.id
        (teamSubs team (run (fun s c => c.after E s) s calls).submissions),
      sub.accountId = c.accountId ∧ sub.providedFlag = c.flag := by
  induction calls generalizing s with
  | nil => exact ⟨fun sub hsub => hsub, by simp⟩
  | cons c calls ih =>
    obtain ⟨hid, hteam⟩ := hon c List.mem_cons_self
    have hkept : (c.after E s).challenges.find? challenge.id = some challenge := by
      rw [after, perform_frame.1]
      exact hfind
    obtain ⟨hstay, hleft⟩ := ih hkept (fun d hd => hon d (List.mem_cons_of_mem _ hd)) hall.2
    have hrows := rows_after hfind hid hteam hall.1
    rw [hrows] at hstay
    refine ⟨fun sub hsub => hstay sub (List.mem_append_left _ hsub), ?_⟩
    rw [List.forall_mem_cons]
    refine ⟨⟨c.row E s challenge, ?_, rfl, rfl⟩, hleft⟩
    exact hstay _ (List.mem_append_right _ (List.mem_singleton_self _))

/-- The flag of a round that is matched to no part is not a `Multi` one. -/
theorem isMulti_eq_false_of_round {s : Store} {calls : List SubmitCall}
    (h : ConsensusRound E team challenge none s calls) : challenge.flag.isMulti = false := by
  obtain ⟨m, hm⟩ := List.exists_mem_of_ne_nil _ h.members
  obtain ⟨c, hc, -⟩ := List.mem_map.1 ((h.everyMember m).2 hm)
  obtain ⟨hright, hmatched⟩ := h.right c hc
  cases hmulti : challenge.flag.isMulti with
  | false => rfl
  | true =>
    rw [SubmitCall.right, flagIsCorrect, if_pos hmulti] at hright
    rw [SubmitCall.matchedPart] at hmatched
    rw [hmatched] at hright
    exact absurd hright (by simp)

/-- A part accepts the flags that are matched to it. -/
theorem isMatch_of_matchedPart {c : SubmitCall} {pf : PartialFlag}
    (h : c.matchedPart E challenge = some pf) :
    pf.validator.isMatch E c.flag c.active = true := by
  rw [SubmitCall.matchedPart] at h
  cases hval : challenge.flag with
  | multi flags =>
    rw [hval] at h
    exact (FlagValidator.findMatchingPartial_spec h).2
  | _ => simp [hval, FlagValidator.findMatchingPartial] at h

/-- A round all of whose calls are answered credits the team. -/
theorem credited_of_answered {s : Store} {calls : List SubmitCall}
    (h : ConsensusRound E team challenge matched s calls)
    (hall : Each (fun s c => c.after E s) (fun s c => c.answered E s) s calls) :
    Credited E team challenge matched (run (fun s c => c.after E s) s calls) := by
  obtain ⟨-, hleft⟩ := rows_of_answered h.found h.on hall
  have hrow : ∀ m ∈ team.memberIds, ∃ c ∈ calls, ∃ sub ∈ correctOn challenge.id
      (teamSubs team (run (fun s c => c.after E s) s calls).submissions),
      sub.accountId = m ∧ sub.providedFlag = c.flag := by
    intro m hm
    obtain ⟨c, hc, rfl⟩ := List.mem_map.1 ((h.everyMember m).2 hm)
    obtain ⟨sub, hsub, haccount, hflag⟩ := hleft c hc
    exact ⟨c, hc, sub, hsub, haccount, hflag⟩
  cases matched with
  | none =>
    have hsolved : solvedBy challenge.teamConsensus team (correctOn challenge.id
        (teamSubs team (run (fun s c => c.after E s) s calls).submissions)) = true := by
      rw [h.consensus, solvedBy_consensus_iff]
      refine ⟨h.members, fun m hm => ?_⟩
      obtain ⟨c, -, sub, hsub, haccount, -⟩ := hrow m hm
      exact ⟨sub, hsub, haccount⟩
    show challengeScored E team _ challenge = true
    rw [challengeScored]
    have hplain := isMulti_eq_false_of_round h
    cases hflag : challenge.flag with
    | multi flags => simp [hflag, FlagValidator.isMulti] at hplain
    | _ => exact hsolved
  | some pf =>
    show partScored E team challenge _ pf = true
    rw [partScored, h.consensus, solvedBy_consensus_iff]
    refine ⟨h.members, fun m hm => ?_⟩
    obtain ⟨c, hc, sub, hsub, haccount, hflag⟩ := hrow m hm
    refine ⟨sub, List.mem_filter.2 ⟨hsub, ?_⟩, haccount⟩
    rw [hflag]
    exact FlagValidator.isMatch_self _ (isMatch_of_matchedPart (h.right c hc).2)

/-- **When a consensus can be completed.**  Every member is answered `Ok` and the
team is credited exactly when, if the flag is a part of a `Multi` challenge, its
validator rejects every earlier correct flag of the team with the later caller's
live instance flag. -/
theorem consensus_completes_iff {s : Store} {calls : List SubmitCall}
    (h : ConsensusRound E team challenge matched s calls) :
    (Each (fun s c => c.after E s) (fun s c => c.answered E s) s calls ∧
      Credited E team challenge matched (run (fun s c => c.after E s) s calls)) ↔
    ∀ pf, matched = some pf →
      (∀ c ∈ calls, ∀ sub ∈ correctOn challenge.id (teamSubs team s.submissions),
        pf.validator.isMatch E sub.providedFlag c.active = false) ∧
      calls.Pairwise fun i j => pf.validator.isMatch E i.flag j.active = false := by
  have hanswered := each_answered_iff h.consensus h.noLimit h.noRequirements h.found h.on h.right
  constructor
  · rintro ⟨hall, -⟩ pf rfl
    exact hanswered.1 hall
  · intro hfree
    have hall : Each (fun s c => c.after E s) (fun s c => c.answered E s) s calls := by
      refine hanswered.2 ?_
      cases matched with
      | some pf => exact hfree pf rfl
      | none =>
        constructor
        · intro c hc sub hsub hsame
          refine h.fresh rfl sub hsub ((h.everyMember _).1 ?_)
          rw [hsame]
          exact List.mem_map_of_mem hc
        · exact List.pairwise_map.1 h.once
    exact ⟨hall, credited_of_answered h hall⟩

/-! ## Two members, one static part -/

/-- The only part of `duo`. -/
def sharedPart : PartialFlag := ⟨"only", .static "flag", 1⟩

/-- A consensus challenge of one static part. -/
def duo : Challenge :=
  { Challenge.plain "duo" "duo" ⟨.pointValue, "100"⟩ (.multi [sharedPart]) with
    teamConsensus := true }

/-- Nobody has submitted yet. -/
def beforeDuo : Store where
  teams := .single (.plain "red" ["alice", "bob"])
  challenges := .single duo
  submissions := []
  hintUnlocks := []
  activeFlag := fun _ _ _ => none

/-- A member of `red` submits the flag of `duo`. -/
def submitDuo (account uuid : String) : SubmitCall where
  challengeId := "duo"
  teamId := some ⟨"red"⟩
  accountId := ⟨account⟩
  flag := "flag"
  ip := ""
  uuid := uuid
  now := 0
  active := none

theorem round_duo : ConsensusRound .silent (.plain "red" ["alice", "bob"]) duo (some sharedPart)
    beforeDuo [submitDuo "alice" "1", submitDuo "bob" "2"] where
  consensus := rfl
  noLimit := rfl
  noRequirements := rfl
  found := rfl
  members := by decide
  fresh := fun h => absurd h (by simp)
  on := by
    rw [List.forall_mem_cons, List.forall_mem_singleton]
    exact ⟨⟨rfl, rfl⟩, ⟨rfl, rfl⟩⟩
  right := by
    rw [List.forall_mem_cons, List.forall_mem_singleton]
    exact ⟨⟨rfl, rfl⟩, ⟨rfl, rfl⟩⟩
  once := by decide
  everyMember := fun _ => Iff.rfl

/-- The condition on that round. -/
theorem consensus_completes_iff_duo :
    (Each (fun s c => c.after .silent s) (fun s c => c.answered .silent s) beforeDuo
        [submitDuo "alice" "1", submitDuo "bob" "2"] ∧
      Credited .silent (.plain "red" ["alice", "bob"]) duo (some sharedPart)
        (run (fun s c => c.after .silent s) beforeDuo
          [submitDuo "alice" "1", submitDuo "bob" "2"])) ↔
    ∀ pf, some sharedPart = some pf →
      (∀ c ∈ [submitDuo "alice" "1", submitDuo "bob" "2"],
        ∀ sub ∈ correctOn duo.id
          (teamSubs (.plain "red" ["alice", "bob"]) beforeDuo.submissions),
        pf.validator.isMatch .silent sub.providedFlag c.active = false) ∧
      [submitDuo "alice" "1", submitDuo "bob" "2"].Pairwise fun i j =>
        pf.validator.isMatch .silent i.flag j.active = false :=
  consensus_completes_iff round_duo

/-- **The second member is refused.**  Alice's row makes the part count as solved,
so Bob's flag is a repetition, and without Bob the part is never credited. -/
theorem consensus_refused_static :
    ConsensusRound .silent (.plain "red" ["alice", "bob"]) duo (some sharedPart) beforeDuo
        [submitDuo "alice" "1", submitDuo "bob" "2"] ∧
      ((submitDuo "bob" "2").perform .silent ((submitDuo "alice" "1").after .silent beforeDuo)).1 =
        .error (.invalidRequest "ctf-already-solved") ∧
      ¬ Each (fun s c => c.after .silent s) (fun s c => c.answered .silent s) beforeDuo
        [submitDuo "alice" "1", submitDuo "bob" "2"] ∧
      ¬ Credited .silent (.plain "red" ["alice", "bob"]) duo (some sharedPart)
        (run (fun s c => c.after .silent s) beforeDuo
          [submitDuo "alice" "1", submitDuo "bob" "2"]) := by
  have hrefused : ((submitDuo "bob" "2").perform .silent
      ((submitDuo "alice" "1").after .silent beforeDuo)).1 =
        .error (.invalidRequest "ctf-already-solved") := rfl
  refine ⟨round_duo, hrefused, ?_, ?_⟩
  · rintro ⟨-, ⟨sub, hsub⟩, -⟩
    rw [hrefused] at hsub
    exact absurd hsub (by simp)
  · intro hcredited
    have huncredited : partScored .silent (.plain "red" ["alice", "bob"]) duo
        (teamSubs (.plain "red" ["alice", "bob"]) (run (fun s c => c.after .silent s) beforeDuo
          [submitDuo "alice" "1", submitDuo "bob" "2"]).submissions) sharedPart = false := rfl
    exact absurd hcredited (by simp [Credited, huncredited])

end Consensus

end Cctf

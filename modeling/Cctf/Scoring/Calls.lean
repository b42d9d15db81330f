import Cctf.Library.Runs
import Cctf.Services.Scoreboard

/-!
# Histories of submissions

A history is a list of `submit_flag` calls, each with what the outside supplies:
the caller, the text, and the instance flag that is live for the caller at that
moment.

* `SubmitCall.perform` — one call against a store.
* `SubmitCall.accepted` — the decision on a right flag, from the state before.
* `perform_right` — **a right flag is stored and answered, or refused without a
  trace**; `perform_kept` — whatever the flag, a call that is not answered `Ok`
  leaves no correct row; `perform_stores` — whatever the flag, a call stores one
  row of its own or none.
* `Submitter` — whom a submission is counted for: the team, or the solo account.
-/

namespace Cctf

open Program SolveService

/-- One `submit_flag` call, with the instance flag live for the caller. -/
structure SubmitCall where
  challengeId : String
  teamId : Option TeamId
  accountId : AccountId
  flag : String
  ip : String
  uuid : String
  now : ℤ
  active : Option String

/-- The store with a given live instance flag. -/
def Store.withFlag (s : Store) (active : Option String) : Store :=
  { s with activeFlag := fun _ _ _ => active }

@[simp] theorem Store.withFlag_submissions (s : Store) (active : Option String) :
    (s.withFlag active).submissions = s.submissions := rfl

namespace SubmitCall

variable (E : Engines) (s : Store) (challenge : Challenge) (c : SubmitCall)

/-- Make the call. -/
def perform : Except ServiceError Submission × Store :=
  runSvc (s.withFlag c.active)
    (submitFlag E c.challengeId c.teamId c.accountId c.flag c.ip c.uuid c.now)

/-- The part of the challenge's flag that the call matches. -/
def matchedPart : Option PartialFlag :=
  challenge.flag.findMatchingPartial E c.flag c.active

/-- Is the flag right? -/
def right : Bool := flagIsCorrect E challenge.flag c.flag c.active

/-- Do the checks let a right flag pass: attempts left, requirements met, and no
repetition? -/
def accepted : Bool :=
  !attemptsExhausted s challenge c.challengeId c.teamId c.accountId &&
    meetsRequirements s challenge c.teamId c.accountId &&
    !repeatsSolve (s.withFlag c.active) challenge c.challengeId c.teamId c.accountId E c.flag

/-- The row the call stores when it passes. -/
def row : Submission :=
  newSubmission (s.withFlag c.active) challenge c.challengeId c.teamId c.accountId E c.flag c.ip
    c.uuid c.now

variable {E s challenge c}

/-- **A call with a right flag**: stored and answered with the row if the checks
pass, refused without a trace otherwise. -/
theorem perform_right (hchallenge : s.challenges.find? c.challengeId = some challenge)
    (hright : c.right E challenge = true) :
    if c.accepted E s challenge then
      c.perform E s = (.ok (c.row E s challenge),
        (s.withFlag c.active).addSubmission (c.row E s challenge))
    else ∃ e, c.perform E s = (.error e, s.withFlag c.active) := by
  have hrun := runSvc_submitFlag (s.withFlag c.active) c.challengeId c.teamId c.accountId E c.flag
    c.ip c.uuid c.now
  have hverdict : verdict (s.withFlag c.active) challenge c.challengeId c.teamId c.accountId E
      c.flag = true := hright
  have hfind : (s.withFlag c.active).challenges.find? c.challengeId = some challenge := hchallenge
  rw [hfind] at hrun
  simp only [hverdict, Bool.true_and] at hrun
  rw [perform, hrun]
  have hattempts : attemptsExhausted (s.withFlag c.active) challenge c.challengeId c.teamId
      c.accountId = attemptsExhausted s challenge c.challengeId c.teamId c.accountId := rfl
  have hmeets : meetsRequirements (s.withFlag c.active) challenge c.teamId c.accountId =
      meetsRequirements s challenge c.teamId c.accountId := rfl
  rw [hattempts, hmeets, accepted]
  cases attemptsExhausted s challenge c.challengeId c.teamId c.accountId with
  | true => simp
  | false =>
    cases meetsRequirements s challenge c.teamId c.accountId with
    | false => simp
    | true =>
      cases repeatsSolve (s.withFlag c.active) challenge c.challengeId c.teamId c.accountId E
          c.flag with
      | true => simp
      | false =>
        have hrow : (newSubmission (s.withFlag c.active) challenge c.challengeId c.teamId
            c.accountId E c.flag c.ip c.uuid c.now).isCorrect = true := hright
        simp only [Bool.not_false, Bool.and_self, if_true, Bool.false_eq_true, if_false, hrow,
          Bool.true_eq_false]
        rfl

/-- Nothing but the submissions changes. -/
theorem perform_frame :
    (c.perform E s).2.challenges = s.challenges ∧ (c.perform E s).2.teams = s.teams ∧
      (c.perform E s).2.hintUnlocks = s.hintUnlocks := by
  rw [perform, runSvc_submitFlag]
  split
  · exact ⟨rfl, rfl, rfl⟩
  split
  · exact ⟨rfl, rfl, rfl⟩
  split
  · exact ⟨rfl, rfl, rfl⟩
  split
  · exact ⟨rfl, rfl, rfl⟩
  · exact ⟨rfl, rfl, rfl⟩

/-- **A call that is not answered `Ok` leaves no correct row.** -/
theorem perform_kept {e : ServiceError} (h : (c.perform E s).1 = .error e) :
    (c.perform E s).2.submissions = s.submissions ∨
      ∃ sub, sub.isCorrect = false ∧ (c.perform E s).2.submissions = s.submissions ++ [sub] := by
  rw [perform, runSvc_submitFlag] at h ⊢
  split at h
  · exact .inl rfl
  rename_i challenge hchallenge
  simp only
  split at h
  · rw [if_pos ‹_›]
    exact .inl rfl
  rw [if_neg ‹_›]
  split at h
  · rw [if_pos ‹_›]
    exact .inl rfl
  rw [if_neg ‹_›]
  split at h
  · rw [if_pos ‹_›]
    exact .inl rfl
  rw [if_neg ‹_›]
  simp only at h
  split at h
  · exact absurd h (by simp)
  · rename_i hwrong
    exact .inr ⟨_, by simpa using hwrong, rfl⟩

/-- A call answered `Ok` was right and accepted, and left exactly its row. -/
theorem perform_ok {sub : Submission} (h : (c.perform E s).1 = .ok sub) :
    ∃ challenge, s.challenges.find? c.challengeId = some challenge ∧
      c.right E challenge = true ∧ c.accepted E s challenge = true ∧
      (c.perform E s).2 = (s.withFlag c.active).addSubmission (c.row E s challenge) := by
  have hrun : runSvc (s.withFlag c.active)
      (submitFlag E c.challengeId c.teamId c.accountId c.flag c.ip c.uuid c.now) =
        (.ok sub, (c.perform E s).2) := Prod.ext h rfl
  obtain ⟨challenge, hchallenge, -, -, hright, -, -, -⟩ := runSvc_submitFlag_ok _ _ _ _ _ _ _ _ _
    hrun
  have hperform := perform_right (E := E) (s := s) (c := c) hchallenge hright
  split at hperform
  · rename_i haccepted
    exact ⟨challenge, hchallenge, hright, haccepted, by rw [hperform]⟩
  · obtain ⟨e, he⟩ := hperform
    rw [he] at h
    exact absurd h (by simp)

/-- **What a call stores**: nothing, or its row, which takes attempts that are left
and requirements that are met. -/
theorem perform_stores :
    (c.perform E s).2.submissions = s.submissions ∨
      ∃ challenge, s.challenges.find? c.challengeId = some challenge ∧
        attemptsExhausted s challenge c.challengeId c.teamId c.accountId = false ∧
        meetsRequirements s challenge c.teamId c.accountId = true ∧
        (c.perform E s).2.submissions = s.submissions ++ [c.row E s challenge] := by
  rw [perform, runSvc_submitFlag]
  split
  · exact .inl rfl
  rename_i challenge hchallenge
  split
  · exact .inl rfl
  rename_i hattempts
  split
  · exact .inl rfl
  rename_i hmeets
  split
  · exact .inl rfl
  · have hleft : attemptsExhausted (s.withFlag c.active) challenge c.challengeId c.teamId
        c.accountId = false := by simpa using hattempts
    have hmet : meetsRequirements (s.withFlag c.active) challenge c.teamId c.accountId = true := by
      simpa using hmeets
    exact .inr ⟨challenge, hchallenge, hleft, hmet, rfl⟩

/-- A call is refused for its attempts exactly when they are used up. -/
theorem perform_refused_iff (hchallenge : s.challenges.find? c.challengeId = some challenge) :
    (c.perform E s).1 = .error (.invalidRequest "ctf-max-attempts-reached") ↔
      attemptsExhausted s challenge c.challengeId c.teamId c.accountId = true := by
  have hfind : (s.withFlag c.active).challenges.find? c.challengeId = some challenge := hchallenge
  have hattempts : attemptsExhausted (s.withFlag c.active) challenge c.challengeId c.teamId
      c.accountId = attemptsExhausted s challenge c.challengeId c.teamId c.accountId := rfl
  rw [perform, runSvc_submitFlag, hfind]
  simp only [hattempts]
  cases attemptsExhausted s challenge c.challengeId c.teamId c.accountId with
  | true => simp
  | false =>
    simp only [Bool.false_eq_true, if_false, iff_false]
    split
    · simp
    split
    · simp
    · split <;> simp

end SubmitCall

/-! ## Submitters -/

/-- Whom a submission is counted for: the team of the account, or the account itself
when it has none. -/
inductive Submitter where
  | team (id : TeamId)
  | solo (id : AccountId)
  deriving DecidableEq, Repr

namespace Submitter

/-- The submitter of a call. -/
def of (teamId : Option TeamId) (accountId : AccountId) : Submitter :=
  match teamId with
  | some t => .team t
  | none => .solo accountId

theorem of_eq_team {teamId : Option TeamId} {accountId accountId' : AccountId} {t : TeamId} :
    of teamId accountId = of (some t) accountId' ↔ teamId = some t := by
  cases teamId <;> simp [of]

theorem of_eq_solo {teamId : Option TeamId} {accountId accountId' : AccountId} :
    of teamId accountId = of none accountId' ↔ teamId = none ∧ accountId = accountId' := by
  cases teamId <;> simp [of]

/-- Is the row one of the submitter's? -/
def owns (who : Submitter) (sub : Submission) : Bool := of sub.teamId sub.accountId = who

theorem owns_iff {who : Submitter} {sub : Submission} :
    who.owns sub = true ↔ of sub.teamId sub.accountId = who := by
  simp [owns]

end Submitter

end Cctf

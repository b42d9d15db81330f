import Cctf.Api.App
import Cctf.Library.Faults
import Cctf.Services.Solve

/-!
# What a submission leaves behind

`submit_flag` reads the tables a dozen times and writes them once, at its end, and any of these
calls may fail.

* `App.repoResult` — what a call on the repositories does when it does not fail.
* `LeavesAlone` — a part of the service that changes nothing and does not call the flag wrong.
* `Outcome`, `outcome_submitFlag` — a call is refused, or it stores one row; what it answers then.
* `Traced`, `submitFlag_traced` — **whatever calls fail, the answer tells exactly what was stored**.
-/

namespace Cctf

open Faults SolveService

/-! ## Calls that may fail -/

/-- What a call on the repositories does. -/
def App.repoResult (a : App) (op : RepoOp) : Except RepoError (op.Value × App) :=
  .ok (a.tables.read op, { a with tables := a.tables.write op })

/-- The state with one more submission. -/
def App.addSubmission (a : App) (sub : Submission) : App :=
  { a with tables := a.tables.addSubmission sub }

/-- The answer to a wrong flag. -/
def incorrectFlag : ServiceError := .invalidRequest "ctf-incorrect-flag"

/-- A part of the service changes nothing, and it does not say that the flag is wrong. -/
def LeavesAlone {α : Type} (a : App) (m : Svc α) : Prop :=
  Holds App.repoResult True a m.run fun r a' => a' = a ∧ r ≠ .error incorrectFlag

namespace LeavesAlone

variable {α β : Type} {a : App}

theorem pure (x : α) : LeavesAlone a (pure x : Svc α) := Holds.done ⟨rfl, nofun⟩

theorem throw {e : ServiceError} (h : e ≠ incorrectFlag) : LeavesAlone a (throw e : Svc α) :=
  Holds.done ⟨rfl, fun heq => h (Except.error.inj heq)⟩

theorem write_of_isRead {op : RepoOp} (h : op.isRead = true) (s : Store) : s.write op = s := by
  cases op with
  | submissionSave sub => cases h
  | hintSave unlock => cases h
  | _ => rfl

/-- A call that reads, whether its errors count or not. -/
theorem read {op : RepoOp} (h : op.isRead = true) {back : op.Resp → Except ServiceError β}
    (hback : ∀ r, back r ≠ .error incorrectFlag) :
    LeavesAlone a (ExceptT.mk (.call op fun r => .done (back r))) := by
  refine Holds.call ?_ ?_ ?_
  · exact fun _ e => Holds.done ⟨rfl, hback _⟩
  · exact fun e _ => Holds.done ⟨rfl, hback _⟩
  · rintro value a' hresult
    cases hresult
    rw [write_of_isRead h]
    exact Holds.done ⟨rfl, hback _⟩

theorem ask {op : RepoOp} (h : op.isRead = true) : LeavesAlone a (ask op) := by
  refine read h fun r => ?_
  cases r with
  | ok value => exact nofun
  | error e => exact nofun

theorem attempt {op : RepoOp} (h : op.isRead = true) : LeavesAlone a (attempt op) :=
  read h fun _ => nofun

/-- Past such a part. -/
theorem holds_bind {m : Svc α} {f : α → Svc β} {Q : Except ServiceError β → App → Prop}
    (hm : LeavesAlone a m) (herror : ∀ e, e ≠ incorrectFlag → Q (.error e) a)
    (hf : ∀ x, Holds App.repoResult True a (f x).run Q) :
    Holds App.repoResult True a (m >>= f).run Q := by
  refine Holds.bind_except hm ?_ ?_
  · rintro x a' ⟨rfl, -⟩
    exact hf x
  · rintro e a' ⟨rfl, he⟩
    exact herror e fun heq => he (congrArg _ heq)

theorem bind {m : Svc α} {f : α → Svc β} (hm : LeavesAlone a m) (hf : ∀ x, LeavesAlone a (f x)) :
    LeavesAlone a (m >>= f) :=
  hm.holds_bind (fun _ he => ⟨rfl, fun heq => he (Except.error.inj heq)⟩) hf

end LeavesAlone

/-! ## The checks -/

section

variable {a : App} {challenge : Challenge} {challengeId : String} {teamId : Option TeamId}
  {accountId : AccountId}

theorem leavesAlone_submissionsOf : LeavesAlone a (submissionsOf teamId) := by
  cases teamId with
  | some t => exact LeavesAlone.ask rfl
  | none => exact LeavesAlone.ask rfl

theorem leavesAlone_checkAttempts :
    LeavesAlone a (checkAttempts challenge challengeId teamId accountId) := by
  rw [checkAttempts]
  cases challenge.maxAttempts with
  | none => exact LeavesAlone.pure ()
  | some limitCfg =>
    refine LeavesAlone.bind leavesAlone_submissionsOf fun all => ?_
    split_ifs
    · exact LeavesAlone.throw (by decide)
    · exact LeavesAlone.pure ()

theorem leavesAlone_checkRequirements :
    LeavesAlone a (checkRequirements challenge teamId accountId) := by
  rw [checkRequirements]
  split_ifs
  · exact LeavesAlone.pure ()
  · refine LeavesAlone.bind leavesAlone_submissionsOf fun subs => ?_
    split_ifs
    · exact LeavesAlone.pure ()
    · exact LeavesAlone.throw (by decide)

theorem leavesAlone_checkNotSolved (isCorrect solved : Bool) :
    LeavesAlone a (checkNotSolved isCorrect solved) := by
  rw [checkNotSolved]
  split_ifs
  · exact LeavesAlone.throw (by decide)
  · exact LeavesAlone.pure ()

/-- A team that cannot be read is passed over. -/
theorem leavesAlone_countFullSolveTeams (teamConsensus : Bool)
    (es : List (Sigma fun _ : TeamId => List AccountId)) (n : UInt32) :
    LeavesAlone a (countFullSolveTeams teamConsensus es n) := by
  induction es generalizing n with
  | nil => exact LeavesAlone.pure n
  | cons e rest ih =>
    refine LeavesAlone.bind (LeavesAlone.attempt rfl) fun found => ?_
    split
    · exact ih _
    · exact ih _

theorem leavesAlone_solveCount (allSubs : List Submission) :
    LeavesAlone a (solveCount challenge challengeId teamId allSubs) := by
  cases teamId with
  | some t => exact leavesAlone_countFullSolveTeams _ _ _
  | none => exact LeavesAlone.pure _

theorem leavesAlone_reachesConsensus (existing : List Submission) :
    LeavesAlone a (reachesConsensus challenge teamId accountId existing) := by
  cases teamId with
  | none => exact LeavesAlone.pure _
  | some t =>
    rw [reachesConsensus]
    split_ifs
    · refine LeavesAlone.bind (LeavesAlone.attempt rfl) fun found => ?_
      split
      · exact LeavesAlone.pure _
      · exact LeavesAlone.pure _
    · exact LeavesAlone.pure _

/-! ## The outcome -/

/-- How a submission ends: refused with nothing stored, or stored and judged. -/
inductive Outcome (a : App) : Except ServiceError Submission → App → Prop where
  | refused {e : ServiceError} (he : e ≠ incorrectFlag) : Outcome a (.error e) a
  | wrong {sub : Submission} (hcorrect : sub.isCorrect = false) (hpoints : sub.points = 0) :
    Outcome a (.error incorrectFlag) (a.addSubmission sub)
  | right {sub : Submission} (hcorrect : sub.isCorrect = true) :
    Outcome a (.ok sub) (a.addSubmission sub)

/-- The end of the service: it saves the row, and answers by its verdict. -/
theorem outcome_save {sub : Submission} (hpoints : sub.isCorrect = false → sub.points = 0) :
    Holds App.repoResult True a
      (SubmissionRepo.save sub >>= fun _ => if sub.isCorrect then Pure.pure sub
        else MonadExcept.throw incorrectFlag : Svc Submission).run (Outcome a) := by
  refine Holds.call ?_ ?_ ?_
  · exact fun _ e => Holds.done (.refused nofun)
  · exact fun e _ => Holds.done (.refused nofun)
  · rintro value a' hresult
    cases hresult
    cases hcorrect : sub.isCorrect with
    | true => exact Holds.done (Outcome.right hcorrect)
    | false => exact Holds.done (Outcome.wrong hcorrect (hpoints hcorrect))

/-- **How a submission ends, whatever calls fail.** -/
theorem outcome_submitFlag (E : Engines) (submittedFlag submittedIp uuid : String) (now : ℤ) :
    Holds App.repoResult True a
      (submitFlag E challengeId teamId accountId submittedFlag submittedIp uuid now).run
      (Outcome a) := by
  have hrefused : ∀ e, e ≠ incorrectFlag → Outcome a (.error e) a := fun _ => Outcome.refused
  rw [submitFlag]
  refine LeavesAlone.holds_bind (LeavesAlone.ask rfl) hrefused fun found => ?_
  cases found with
  | none => exact Holds.done (.refused (by decide))
  | some challenge =>
    refine LeavesAlone.holds_bind leavesAlone_checkAttempts hrefused fun _ => ?_
    refine LeavesAlone.holds_bind leavesAlone_checkRequirements hrefused fun _ => ?_
    refine LeavesAlone.holds_bind (LeavesAlone.ask rfl) hrefused fun activeFlag => ?_
    refine LeavesAlone.holds_bind leavesAlone_submissionsOf hrefused fun subs => ?_
    refine LeavesAlone.holds_bind (leavesAlone_checkNotSolved _ _) hrefused fun _ => ?_
    refine LeavesAlone.holds_bind (LeavesAlone.ask rfl) hrefused fun allSubs => ?_
    refine LeavesAlone.holds_bind (leavesAlone_solveCount _) hrefused fun count => ?_
    refine LeavesAlone.holds_bind (leavesAlone_reachesConsensus _) hrefused fun reaches => ?_
    refine outcome_save fun hcorrect => ?_
    exact if_neg (Bool.eq_false_iff.mp hcorrect)

end

/-! ## The result -/

/-- **The answer tells exactly what was stored**, and nothing else was. -/
structure Traced (a : App) (answer : Except ServiceError Submission) (a' : App) : Prop where
  /-- `Ok` is the answer to a right submission that is now the last one. -/
  ok_iff : ∀ sub, answer = .ok sub ↔
    a'.tables.submissions = a.tables.submissions ++ [sub] ∧ sub.isCorrect = true
  /-- A wrong one is stored without points. -/
  incorrect_iff : answer = .error incorrectFlag ↔
    ∃ sub, a'.tables.submissions = a.tables.submissions ++ [sub] ∧ sub.isCorrect = false ∧
      sub.points = 0
  /-- Every other error means that nothing is stored. -/
  other : ∀ e, answer = .error e → e ≠ incorrectFlag →
    a'.tables.submissions = a.tables.submissions
  teams : a'.tables.teams = a.tables.teams
  challenges : a'.tables.challenges = a.tables.challenges
  hintUnlocks : a'.tables.hintUnlocks = a.tables.hintUnlocks
  accounts : a'.accounts = a.accounts

/-- One row more is not the same rows, and says which row it is. -/
theorem append_singleton_eq {subs : List Submission} {sub sub' : Submission}
    (h : subs ++ [sub] = subs ++ [sub']) : sub = sub' :=
  List.singleton_inj.mp (List.append_cancel_left h)

theorem Outcome.traced {a a' : App} {answer : Except ServiceError Submission}
    (h : Outcome a answer a') : Traced a answer a' := by
  have hself : ∀ sub : Submission, a.tables.submissions ≠ a.tables.submissions ++ [sub] :=
    fun sub heq => List.cons_ne_nil sub [] (List.self_eq_append_right.mp heq)
  cases h with
  | refused he =>
    exact {
      ok_iff := fun sub => iff_of_false nofun fun h => hself sub h.1
      incorrect_iff := iff_of_false (fun h => he (Except.error.inj h)) fun ⟨sub, h, _⟩ => hself sub h
      other := fun _ _ _ => rfl
      teams := rfl
      challenges := rfl
      hintUnlocks := rfl
      accounts := rfl }
  | @wrong sub hcorrect hpoints =>
    refine {
      ok_iff := fun sub' => iff_of_false nofun fun ⟨hrows, hright⟩ => ?_
      incorrect_iff := iff_of_true rfl ⟨sub, rfl, hcorrect, hpoints⟩
      other := fun e h he => absurd (Except.error.inj h).symm he
      teams := rfl
      challenges := rfl
      hintUnlocks := rfl
      accounts := rfl }
    rw [← append_singleton_eq hrows, hcorrect] at hright
    cases hright
  | @right sub hcorrect =>
    refine {
      ok_iff := fun sub' => ⟨?_, fun ⟨hrows, _⟩ => congrArg _ (append_singleton_eq hrows)⟩
      incorrect_iff := iff_of_false nofun fun ⟨sub', hrows, hwrong, _⟩ => ?_
      other := fun e h => nomatch h
      teams := rfl
      challenges := rfl
      hintUnlocks := rfl
      accounts := rfl }
    · intro heq
      obtain rfl := Except.ok.inj heq
      exact ⟨rfl, hcorrect⟩
    · rw [← append_singleton_eq hrows, hcorrect] at hwrong
      cases hwrong

/-- **Every submission leaves exactly the trace that its answer says**, whatever calls fail. -/
theorem submitFlag_traced (E : Engines) (challengeId : String) (teamId : Option TeamId)
    (accountId : AccountId) (submittedFlag submittedIp uuid : String) (now : ℤ) (a : App)
    (faults : List (Option RepoError)) :
    Traced a
      (Program.exec (handler App.repoResult) ⟨a, faults⟩
        (submitFlag E challengeId teamId accountId submittedFlag submittedIp uuid now)).1
      (Program.exec (handler App.repoResult) ⟨a, faults⟩
        (submitFlag E challengeId teamId accountId submittedFlag submittedIp uuid now)).2.state :=
  (outcome_submitFlag E submittedFlag submittedIp uuid now faults
    (fun h => absurd trivial h)).traced

end Cctf

import Cctf.Api.Solve
import Cctf.Library.Traces

/-!
# First blood

After a correct submission the handler reads all rows again, and announces a first blood
when they hold one solver of the challenge.  Other requests may save between the two.

* `AppOp.savesCorrect`, `AppOp.isBlood` — the calls that matter: saving a correct
  submission, and broadcasting a first blood.
* `Solves`, `solves_of_makes` — **what one request does**: it saves no correct row and
  announces nothing, or it saves one, counts, and announces by what it found.
* `OneFirstBlood`, `RecountsInOrder` — what should be broadcast, and what the requests
  should find.
* `one_first_blood_iff` — **in every interleaving a first blood is announced once and by
  the first to solve exactly when the first finds no other solver and the others find
  one**.
* `first_blood_twice_or_lost` — two parts by one team, and two teams at once.
-/

namespace Cctf

open Program

/-! ## The calls that matter -/

/-- Neither a submission is saved nor a notification broadcast. -/
def AppOp.Quiet : AppOp → Prop
  | .repo (.submissionSave _) => False
  | .broadcast _ => False
  | _ => True

/-- A correct submission on the challenge is saved. -/
def AppOp.savesCorrect (challengeId : String) : AppOp → Bool
  | .repo (.submissionSave sub) => sub.isCorrect && decide (sub.challengeId = challengeId)
  | _ => false

/-- A first blood is broadcast. -/
def AppOp.isBlood : AppOp → Bool
  | .broadcast n => decide (n.kind = .firstBlood)
  | _ => false

/-- The call of a repository that saves no submission. -/
def RepoOp.SavesNothing : RepoOp → Prop
  | .submissionSave _ => False
  | _ => True

theorem AppOp.Quiet.not_saves {op : AppOp} (h : op.Quiet) (challengeId : String) :
    op.savesCorrect challengeId = false := by
  cases op with
  | repo op =>
    cases op with
    | submissionSave sub => exact absurd h id
    | _ => rfl
  | _ => rfl

theorem AppOp.Quiet.not_blood {op : AppOp} (h : op.Quiet) : op.isBlood = false := by
  cases op with
  | broadcast n => exact absurd h id
  | _ => rfl

/-! ## What the service does -/

namespace SolveService

/-- A service computation that saves no submission. -/
abbrev SavesNothing {α : Type} (m : Svc α) : Prop :=
  Reads Store.handler RepoOp.SavesNothing m.run

theorem savesNothing_ask {op : RepoOp} (h : op.SavesNothing) : SavesNothing (ask op) := by
  rintro evs res ⟨s, rest, rfl, rfl, -⟩ e he
  rw [List.mem_singleton] at he
  rw [he]
  exact h

theorem savesNothing_attempt {op : RepoOp} (h : op.SavesNothing) : SavesNothing (attempt op) := by
  rintro evs res ⟨s, rest, rfl, rfl, -⟩ e he
  rw [List.mem_singleton] at he
  rw [he]
  exact h

theorem savesNothing_pure {α : Type} (a : α) : SavesNothing (pure a : Svc α) :=
  Reads.pure (Except.ok a)

theorem savesNothing_throw {α : Type} (e : ServiceError) : SavesNothing (throw e : Svc α) :=
  Reads.pure (Except.error e)

variable {challenge : Challenge} {challengeId : String} {teamId : Option TeamId}
  {accountId : AccountId}

theorem savesNothing_submissionsOf : SavesNothing (submissionsOf teamId) := by
  cases teamId with
  | some t => exact savesNothing_ask trivial
  | none => exact savesNothing_ask trivial

theorem savesNothing_checkAttempts :
    SavesNothing (checkAttempts challenge challengeId teamId accountId) := by
  unfold checkAttempts
  cases challenge.maxAttempts with
  | none => exact savesNothing_pure ()
  | some limitCfg =>
    refine Reads.bind_except savesNothing_submissionsOf fun all => ?_
    split
    · exact savesNothing_throw _
    · exact savesNothing_pure ()

theorem savesNothing_checkRequirements :
    SavesNothing (checkRequirements challenge teamId accountId) := by
  unfold checkRequirements
  split
  · exact savesNothing_pure ()
  · refine Reads.bind_except savesNothing_submissionsOf fun subs => ?_
    split
    · exact savesNothing_pure ()
    · exact savesNothing_throw _

theorem savesNothing_checkNotSolved (isCorrect solved : Bool) :
    SavesNothing (checkNotSolved isCorrect solved) := by
  unfold checkNotSolved
  split
  · exact savesNothing_throw _
  · exact savesNothing_pure ()

theorem savesNothing_countFullSolveTeams (teamConsensus : Bool)
    (es : List (Sigma fun _ : TeamId => List AccountId)) (n : UInt32) :
    SavesNothing (countFullSolveTeams teamConsensus es n) := by
  induction es generalizing n with
  | nil => exact savesNothing_pure n
  | cons e rest ih =>
    refine Reads.bind_except (savesNothing_attempt trivial) fun found => ?_
    split
    · exact ih _
    · exact ih _

theorem savesNothing_solveCount (allSubs : List Submission) :
    SavesNothing (solveCount challenge challengeId teamId allSubs) := by
  cases teamId with
  | some t => exact savesNothing_countFullSolveTeams _ _ _
  | none => exact savesNothing_pure _

theorem savesNothing_reachesConsensus (existing : List Submission) :
    SavesNothing (reachesConsensus challenge teamId accountId existing) := by
  cases teamId with
  | none => exact savesNothing_pure _
  | some t =>
    unfold reachesConsensus
    simp only
    split
    · refine Reads.bind_except (savesNothing_attempt trivial) fun found => ?_
      split
      · exact savesNothing_pure _
      · exact savesNothing_pure _
    · exact savesNothing_pure _

/-- The last call of a submission: it saves a row of the challenge, which is returned if
it is correct. -/
def SavesRow (challengeId : String) (op : RepoOp) (res : Except ServiceError Submission) : Prop :=
  ∃ sub, op = .submissionSave sub ∧ sub.challengeId = challengeId ∧
    if sub.isCorrect then res = .ok sub else ∃ e, res = .error e

theorem save_writesOnce {sub : Submission} (hid : sub.challengeId = challengeId)
    (e : ServiceError) :
    WritesOnce Store.handler RepoOp.SavesNothing (SavesRow challengeId)
      (SubmissionRepo.save sub >>= fun _ => if sub.isCorrect then pure sub else throw e) := by
  rintro evs res ⟨s, rest, rfl, h⟩
  have hend : Makes Store.handler
      (if sub.isCorrect then pure sub else throw e : Svc Submission).run rest res := h
  refine .inr ⟨[], (.submissionSave sub, s), ?_, by simp, sub, rfl, hid, ?_⟩
  · cases hcorrect : sub.isCorrect with
    | true =>
      rw [hcorrect] at hend
      rw [hend.1, List.nil_append]
    | false =>
      rw [hcorrect] at hend
      rw [hend.1, List.nil_append]
  · cases hcorrect : sub.isCorrect with
    | true =>
      rw [hcorrect] at hend
      exact hend.2.symm
    | false =>
      rw [hcorrect] at hend
      exact ⟨e, hend.2.symm⟩

/-- **What the service does**: it saves nothing and fails, or its last call saves the
submission. -/
theorem submitFlag_writesOnce (E : Engines) (flag ip uuid : String) (now : ℤ) :
    WritesOnce Store.handler RepoOp.SavesNothing (SavesRow challengeId)
      (submitFlag E challengeId teamId accountId flag ip uuid now) := by
  unfold submitFlag
  refine WritesOnce.bind (savesNothing_ask trivial) fun found => ?_
  cases found with
  | none => exact WritesOnce.throw _ _
  | some challenge =>
    refine WritesOnce.bind savesNothing_checkAttempts fun _ => ?_
    refine WritesOnce.bind savesNothing_checkRequirements fun _ => ?_
    refine WritesOnce.bind (savesNothing_ask trivial) fun activeFlag => ?_
    refine WritesOnce.bind savesNothing_submissionsOf fun subs => ?_
    refine WritesOnce.bind (savesNothing_checkNotSolved _ _) fun _ => ?_
    refine WritesOnce.bind (savesNothing_ask trivial) fun allSubs => ?_
    refine WritesOnce.bind (savesNothing_solveCount _) fun count => ?_
    refine WritesOnce.bind (savesNothing_reachesConsensus _) fun reaches => ?_
    exact save_writesOnce rfl _

end SolveService

/-! ## What one request does -/

/-- The rows that the first call of a list reads. -/
def rowsRead : List (AppOp × App) → Option (List Submission)
  | (.repo .submissionFindAll, a) :: _ => some a.tables.submissions
  | _ => none

/-- What a request has found after it saved a correct submission: the submission, and
the rows its recount read. -/
def recountOf : List (AppOp × App) → Option (Submission × List Submission)
  | [] => none
  | (.repo (.submissionSave sub), _) :: rest =>
    if sub.isCorrect then (rowsRead rest).map fun rows => (sub, rows) else recountOf rest
  | _ :: rest => recountOf rest

/-- How many first bloods some calls broadcast. -/
def bloods (evs : List (AppOp × App)) : ℕ := evs.countP fun e => e.1.isBlood

/-- A request saves no correct row and announces no first blood. -/
def LeavesNoSolve (evs : List (AppOp × App)) : Prop :=
  (∀ e ∈ evs, ∀ challengeId, e.1.savesCorrect challengeId = false) ∧ bloods evs = 0 ∧
    recountOf evs = none

/-- A request saves a correct row of its challenge and of no other, reads all rows, and
announces a first blood if they hold one solver. -/
def Solves (challengeId : String) (evs : List (AppOp × App)) : Prop :=
  (∀ e ∈ evs, ∀ other, e.1.savesCorrect other = true → other = challengeId) ∧
    ∃ sub rows, sub.challengeId = challengeId ∧ recountOf evs = some (sub, rows) ∧
      bloods evs = if isFirstBlood challengeId rows then 1 else 0

theorem recountOf_quiet_append {pre evs : List (AppOp × App)} (h : ∀ e ∈ pre, e.1.Quiet) :
    recountOf (pre ++ evs) = recountOf evs := by
  induction pre with
  | nil => rfl
  | cons e pre ih =>
    have hrest := ih fun e' he' => h e' (List.mem_cons_of_mem e he')
    have hquiet := h e List.mem_cons_self
    obtain ⟨op, s⟩ := e
    cases op with
    | repo op =>
      cases op with
      | submissionSave sub => exact absurd hquiet id
      | _ => exact hrest
    | _ => exact hrest

theorem bloods_quiet_append {pre evs : List (AppOp × App)} (h : ∀ e ∈ pre, e.1.Quiet) :
    bloods (pre ++ evs) = bloods evs := by
  rw [bloods, bloods, List.countP_append, List.countP_eq_zero.2, Nat.zero_add]
  intro e he
  simp [(h e he).not_blood]

/-- Quiet calls before do not matter. -/
theorem solve_or_not_append {challengeId : String} {pre evs : List (AppOp × App)}
    (hpre : ∀ e ∈ pre, e.1.Quiet) (h : LeavesNoSolve evs ∨ Solves challengeId evs) :
    LeavesNoSolve (pre ++ evs) ∨ Solves challengeId (pre ++ evs) := by
  rcases h with ⟨hsaves, hbloods, hrecount⟩ | ⟨hsaves, sub, rows, hid, hrecount, hbloods⟩
  · refine .inl ⟨fun e he challengeId' => ?_, ?_, ?_⟩
    · rcases List.mem_append.1 he with hfirst | hsecond
      · exact (hpre e hfirst).not_saves challengeId'
      · exact hsaves e hsecond challengeId'
    · rw [bloods_quiet_append hpre, hbloods]
    · rw [recountOf_quiet_append hpre, hrecount]
  · refine .inr ⟨fun e he other hother => ?_, sub, rows, hid, ?_, ?_⟩
    · rcases List.mem_append.1 he with hfirst | hsecond
      · rw [(hpre e hfirst).not_saves] at hother
        exact absurd hother (by simp)
      · exact hsaves e hsecond other hother
    · rw [recountOf_quiet_append hpre, hrecount]
    · rw [bloods_quiet_append hpre, hbloods]

theorem leavesNoSolve_of_quiet {evs : List (AppOp × App)} (h : ∀ e ∈ evs, e.1.Quiet) :
    LeavesNoSolve evs := by
  refine ⟨fun e he challengeId => (h e he).not_saves challengeId, ?_, ?_⟩
  · rw [← List.append_nil evs, bloods_quiet_append h]
    rfl
  · rw [← List.append_nil evs, recountOf_quiet_append h]
    rfl

/-- A wrong row is no solve. -/
theorem leavesNoSolve_of_wrong {sub : Submission} (hwrong : sub.isCorrect = false) (s : App) :
    LeavesNoSolve [(.repo (.submissionSave sub), s)] := by
  refine ⟨fun e he challengeId => ?_, rfl, by simp [recountOf, hwrong]⟩
  obtain rfl := List.mem_singleton.1 he
  simp [AppOp.savesCorrect, hwrong]

/-- A correct row, the recount, and what is announced. -/
theorem solves_of_correct {sub : Submission} (hcorrect : sub.isCorrect = true) {s s' : App}
    {rest : List (AppOp × App)}
    (hsaves : ∀ e ∈ (.repo .submissionFindAll, s') :: rest, ∀ challengeId,
      e.1.savesCorrect challengeId = false)
    (hbloods : bloods rest =
      if isFirstBlood sub.challengeId s'.tables.submissions then 1 else 0) :
    Solves sub.challengeId
      ((.repo (.submissionSave sub), s) :: (.repo .submissionFindAll, s') :: rest) := by
  refine ⟨fun e he other hother => ?_, sub, s'.tables.submissions, rfl, ?_, hbloods⟩
  · rcases List.mem_cons.1 he with hsave | hafter
    · rw [hsave] at hother
      have hsame : sub.challengeId = other := by
        simpa [AppOp.savesCorrect, hcorrect] using hother
      exact hsame.symm
    · rw [hsaves e hafter other] at hother
      exact absurd hother (by simp)
  · simp [recountOf, rowsRead, hcorrect]

namespace Api

variable {P : Platform} {req : SubmitRequest}

theorem quiet_call {op : AppOp} (h : op.Quiet) :
    Reads App.handler AppOp.Quiet (.call op .done : Api op.Resp) := by
  rintro evs x ⟨s, rest, rfl, rfl, -⟩ e he
  rw [List.mem_singleton] at he
  rw [he]
  exact h

theorem quiet_solverName (submission : Submission) :
    Reads App.handler AppOp.Quiet (solverName submission) := by
  rw [solverName]
  cases submission.teamId with
  | some t =>
    have hcall : AppOp.Quiet (.repo (.teamFindById t)) := trivial
    exact Reads.bind (quiet_call hcall) fun _ => Reads.pure _
  | none =>
    have hcall : AppOp.Quiet (.accountFindById submission.accountId) := trivial
    exact Reads.bind (quiet_call hcall) fun _ => Reads.pure _

theorem quiet_lockedFor (isAdmin : Bool) (challengeId : String) :
    Reads App.handler AppOp.Quiet (lockedFor isAdmin challengeId) := by
  cases isAdmin with
  | true => exact Reads.pure _
  | false =>
    have hcall : AppOp.Quiet (.repo (.challengeFindById challengeId)) := trivial
    exact Reads.bind (quiet_call hcall) fun _ => Reads.pure _

theorem bloods_announceSolve {submission : Submission} {firstBlood : Bool} {id : String} {now : ℤ}
    {evs : List (AppOp × App)} {u : Unit}
    (h : Makes App.handler (announceSolve submission firstBlood id now) evs u) :
    bloods evs = if firstBlood then 1 else 0 := by
  obtain ⟨s, rest, rfl, h⟩ := h
  obtain ⟨title, hnext⟩ : ∃ title, Makes App.handler (solverName submission >>= fun solver =>
      broadcast (solveNotification firstBlood solver title id now)) rest u := ⟨_, h⟩
  obtain ⟨named, last, solver, rfl, hnamed, s', nothing, rfl, rfl, -⟩ := makes_bind.1 hnext
  have hquiet : ∀ e ∈ (AppOp.repo (.challengeFindById submission.challengeId), s) :: named,
      e.1.Quiet := by
    rw [List.forall_mem_cons]
    exact ⟨trivial, quiet_solverName submission named solver hnamed⟩
  rw [← List.cons_append, bloods_quiet_append hquiet]
  cases firstBlood <;> rfl

/-- **The announcement of a solve** reads all rows first, and broadcasts a first blood
exactly when they hold one solver. -/
theorem makes_maybeBroadcastSolve {cfg : NotificationConfig}
    (hcfg : cfg.broadcastFirstBloods = true) {submission : Submission} {id : String} {now : ℤ}
    {evs : List (AppOp × App)} {u : Unit}
    (h : Makes App.handler (maybeBroadcastSolve cfg submission id now) evs u) :
    ∃ s rest, evs = (.repo .submissionFindAll, s) :: rest ∧
      bloods rest = if isFirstBlood submission.challengeId s.tables.submissions then 1 else 0 := by
  rw [maybeBroadcastSolve, if_neg (by simp [hcfg])] at h
  obtain ⟨s, rest, rfl, h⟩ := h
  refine ⟨s, rest, rfl, ?_⟩
  have hafter : Makes App.handler
      (if !(if isFirstBlood submission.challengeId s.tables.submissions then
          cfg.broadcastFirstBloods else cfg.broadcastSolves) then pure ()
        else announceSolve submission (isFirstBlood submission.challengeId s.tables.submissions)
          id now) rest u := h
  by_cases hwanted : (if isFirstBlood submission.challengeId s.tables.submissions then
      cfg.broadcastFirstBloods else cfg.broadcastSolves) = true
  · rw [hwanted, if_neg (by simp)] at hafter
    exact bloods_announceSolve hafter
  · have hother : isFirstBlood submission.challengeId s.tables.submissions = false := by
      by_contra hfirst
      rw [Bool.not_eq_false] at hfirst
      rw [if_pos hfirst] at hwanted
      exact hwanted hcfg
    rw [Bool.eq_false_iff.2 hwanted, if_pos (by rfl)] at hafter
    rw [hafter.1, hother]
    rfl

/-- The announcement of a solve saves nothing. -/
theorem maybeBroadcastSolve_saves_nothing (cfg : NotificationConfig) (submission : Submission)
    (id : String) (now : ℤ) :
    Reads App.handler (fun op => ∀ challengeId, op.savesCorrect challengeId = false)
      (maybeBroadcastSolve cfg submission id now) := by
  have hcall : ∀ op : AppOp, (∀ challengeId, op.savesCorrect challengeId = false) →
      Reads App.handler (fun op => ∀ challengeId, op.savesCorrect challengeId = false)
        (.call op .done : Api op.Resp) := by
    rintro op hop evs x ⟨s, rest, rfl, rfl, -⟩ e he
    rw [List.mem_singleton] at he
    rw [he]
    exact hop
  have hannounce : ∀ firstBlood, Reads App.handler
      (fun op => ∀ challengeId, op.savesCorrect challengeId = false)
        (announceSolve submission firstBlood id now) := by
    intro firstBlood
    refine Reads.bind (hcall (.repo (.challengeFindById submission.challengeId))
      fun _ => rfl) fun found => ?_
    refine Reads.bind ((quiet_solverName submission).imp fun op hop => hop.not_saves)
      fun solver => ?_
    exact hcall (.broadcast _) fun _ => rfl
  refine Reads.ite (Reads.pure ()) ?_
  refine Reads.bind (hcall (.repo .submissionFindAll) fun _ => rfl) fun subs => ?_
  exact Reads.ite (Reads.pure ()) (hannounce _)

/-- The end of a request: announced, or answered with the error. -/
theorem makes_answerSubmission (hcfg : P.notifications.broadcastFirstBloods = true)
    {res : Except ServiceError Submission} {evs : List (AppOp × App)} {r : Response Submission}
    (h : Makes App.handler (answerSubmission P req res) evs r) :
    match res with
    | .ok submission => (∀ e ∈ evs, ∀ challengeId, e.1.savesCorrect challengeId = false) ∧
        ∃ s rest, evs = (.repo .submissionFindAll, s) :: rest ∧
          bloods rest =
            if isFirstBlood submission.challengeId s.tables.submissions then 1 else 0
    | .error _ => evs = [] := by
  cases res with
  | ok submission =>
    obtain ⟨evs₁, evs₂, u, rfl, h₁, h₂⟩ := makes_bind.1 h
    have hsaves := maybeBroadcastSolve_saves_nothing _ _ _ _ evs₁ u h₁
    obtain ⟨s, rest, rfl, hbloods⟩ := makes_maybeBroadcastSolve hcfg h₁
    obtain ⟨rfl, -⟩ := h₂
    exact ⟨fun e he => hsaves e (by simpa using he), s, rest, by simp, hbloods⟩
  | error e => exact h.1

theorem solve_or_not_bind {α : Type} {m : Api α} {f : α → Api (Response Submission)}
    {challengeId : String} (hm : Reads App.handler AppOp.Quiet m)
    (hf : ∀ a evs r, Makes App.handler (f a) evs r →
      LeavesNoSolve evs ∨ Solves challengeId evs) {evs : List (AppOp × App)}
    {r : Response Submission} (h : Makes App.handler (m >>= f) evs r) :
    LeavesNoSolve evs ∨ Solves challengeId evs := by
  obtain ⟨evs₁, evs₂, a, rfl, h₁, h₂⟩ := makes_bind.1 h
  exact solve_or_not_append (hm evs₁ a h₁) (hf a evs₂ r h₂)

/-- The service call and the end of the request. -/
theorem solve_or_not_service (hcfg : P.notifications.broadcastFirstBloods = true)
    {teamId : Option TeamId} {evs : List (AppOp × App)} {r : Response Submission}
    (h : Makes App.handler (service (SolveService.submitFlag P.engines req.challengeId teamId
      req.user req.flag req.ip req.uuid req.submittedAt) >>= answerSubmission P req) evs r) :
    LeavesNoSolve evs ∨ Solves req.challengeId evs := by
  obtain ⟨evs₁, evs₂, res, rfl, h₁, h₂⟩ := makes_bind.1 h
  obtain ⟨calls, rfl, hcalls⟩ := makes_lift (H := Store.handler) App.tables (fun _ _ => rfl) h₁
  have hend := makes_answerSubmission hcfg h₂
  have hquiet : ∀ {some : List (RepoOp × App)},
      (∀ e ∈ some.map fun e => (e.1, e.2.tables), RepoOp.SavesNothing e.1) →
        ∀ e ∈ some.map fun e => (AppOp.repo e.1, e.2), e.1.Quiet := by
    intro some hsome e he
    obtain ⟨e', he', rfl⟩ := List.mem_map.1 he
    have hnothing := hsome _ (List.mem_map_of_mem he')
    obtain ⟨op, s⟩ := e'
    cases op with
    | submissionSave sub => exact hnothing
    | _ => trivial
  rcases SolveService.submitFlag_writesOnce _ _ _ _ _ _ _ hcalls with ⟨hnothing, err, rfl⟩ |
    ⟨pre, last, hsplit, hpre, sub, hlast, hid, hres⟩
  · obtain rfl : evs₂ = [] := hend
    rw [List.append_nil]
    exact .inl (leavesNoSolve_of_quiet (hquiet hnothing))
  · obtain ⟨pre', last', rfl, rfl, hlast'⟩ := List.map_eq_append_iff.1 hsplit
    obtain ⟨⟨op, s⟩, rfl, rfl⟩ := List.map_eq_singleton_iff.1 hlast'
    obtain rfl : op = .submissionSave sub := hlast
    rw [List.map_append, List.append_assoc]
    refine solve_or_not_append (hquiet hpre) ?_
    cases hcorrect : sub.isCorrect with
    | true =>
      rw [if_pos hcorrect] at hres
      subst hres
      obtain ⟨hsaves, s', rest, rfl, hbloods⟩ := hend
      rw [← hid]
      exact .inr (solves_of_correct hcorrect hsaves hbloods)
    | false =>
      rw [if_neg (by simp [hcorrect])] at hres
      obtain ⟨err, rfl⟩ := hres
      obtain rfl : evs₂ = [] := hend
      rw [List.append_nil]
      exact .inl (leavesNoSolve_of_wrong hcorrect s)

/-- **What one request does.** -/
theorem solves_of_makes (hcfg : P.notifications.broadcastFirstBloods = true)
    {evs : List (AppOp × App)} {r : Response Submission}
    (h : Makes App.handler (submitFlag P req) evs r) :
    LeavesNoSolve evs ∨ Solves req.challengeId evs := by
  have hlimit : ∀ key now, Reads App.handler AppOp.Quiet (checkLimit key 10 60 now) := by
    intro key now
    have hcall : AppOp.Quiet (.checkLimit key 10 60 now) := trivial
    exact quiet_call hcall
  have haccount : Reads App.handler AppOp.Quiet (findAccount req.user) := by
    have hcall : AppOp.Quiet (.accountFindById req.user) := trivial
    exact quiet_call hcall
  have hreply : ∀ {res : Response Submission} {evs r},
      Makes App.handler (pure res) evs r → LeavesNoSolve evs ∨ Solves req.challengeId evs := by
    rintro res evs r ⟨rfl, -⟩
    exact .inl (leavesNoSolve_of_quiet (by simp))
  unfold submitFlag at h
  refine solve_or_not_bind (hlimit _ _) (fun allowed evs r h => ?_) h
  cases allowed with
  | false => exact hreply h
  | true =>
    refine solve_or_not_bind (hlimit _ _) (fun allowed evs r h => ?_) h
    cases allowed with
    | false => exact hreply h
    | true =>
      refine solve_or_not_bind haccount (fun found evs r h => ?_) h
      match found with
      | .error e => exact hreply h
      | .ok none => exact hreply h
      | .ok (some account) =>
        refine solve_or_not_bind (quiet_lockedFor _ _) (fun locked evs r h => ?_) h
        cases locked with
        | true => exact hreply h
        | false => exact solve_or_not_service hcfg h

end Api

/-! ## Interleavings -/

section

variable {ι : Type} [DecidableEq ι]

/-- Some requests, all of which have just arrived. -/
def submissionPool (P : Platform) (a : App) (req : ι → SubmitRequest) :
    Pool AppOp AppOp.Resp (Response Submission) App ι :=
  ⟨a, fun i => Api.submitFlag P (req i)⟩

/-- All requests have been answered after the schedule. -/
def AllReturned (P : Platform) (a : App) (req : ι → SubmitRequest) (schedule : List ι) : Prop :=
  ∀ i, ∃ r, ((submissionPool P a req).run App.handler schedule).prog i = .done r

/-- Who saved the first correct submission on a challenge. -/
def firstSaver (challengeId : String) (trace : List (Made AppOp App ι)) : Option ι :=
  (trace.find? fun e => e.op.savesCorrect challengeId).map (·.who)

/-- Who announced a first blood on a challenge, one after the other. -/
def bloodCallers (req : ι → SubmitRequest) (challengeId : String)
    (trace : List (Made AppOp App ι)) : List ι :=
  (trace.filter fun e => e.op.isBlood && decide ((req e.who).challengeId = challengeId)).map
    (·.who)

/-- For each challenge that was first solved, a first blood is announced once, by the
request that saved first. -/
def OneFirstBlood (req : ι → SubmitRequest) (a : App) (trace : List (Made AppOp App ι)) : Prop :=
  ∀ challengeId first, correctOn challengeId a.tables.submissions = [] →
    firstSaver challengeId trace = some first → bloodCallers req challengeId trace = [first]

/-- For each challenge that was first solved: the request that saved first finds no row
of another solver when it recounts, and every other one finds one. -/
def RecountsInOrder (a : App) (trace : List (Made AppOp App ι)) : Prop :=
  ∀ challengeId first, correctOn challengeId a.tables.submissions = [] →
    firstSaver challengeId trace = some first →
      ∀ i sub rows, recountOf (Pool.own i trace) = some (sub, rows) →
        sub.challengeId = challengeId →
          ((∃ row ∈ correctOn challengeId rows, solverId row ≠ solverId sub) ↔ i ≠ first)

variable {P : Platform} {a : App} {req : ι → SubmitRequest}

theorem count_bloodCallers (challengeId : String) (trace : List (Made AppOp App ι)) (i : ι) :
    (bloodCallers req challengeId trace).count i =
      if (req i).challengeId = challengeId then bloods (Pool.own i trace) else 0 := by
  induction trace with
  | nil => simp [bloodCallers, bloods, Pool.own]
  | cons e trace ih =>
    obtain ⟨who, op, s⟩ := e
    have hcount : (bloodCallers req challengeId (⟨who, op, s⟩ :: trace)).count i =
        (bloodCallers req challengeId trace).count i +
          if op.isBlood = true ∧ (req who).challengeId = challengeId ∧ who = i then 1 else 0 := by
      rw [bloodCallers, List.filter_cons]
      by_cases hblood : op.isBlood = true ∧ (req who).challengeId = challengeId
      · rw [if_pos (by simpa using hblood), List.map_cons, List.count_cons]
        by_cases hwho : who = i
        · subst hwho
          simp [hblood, bloodCallers]
        · simp [hwho, bloodCallers]
      · rw [if_neg (by simpa using hblood), if_neg fun h => hblood ⟨h.1, h.2.1⟩]
        rfl
    rw [hcount, ih, Pool.own_cons]
    by_cases hwho : who = i
    · subst hwho
      rw [if_pos rfl]
      by_cases hid : (req who).challengeId = challengeId
      · rw [if_pos hid, if_pos hid, bloods, bloods, List.countP_cons]
        simp [hid]
      · rw [if_neg hid, if_neg hid]
        simp [hid]
    · rw [if_neg hwho]
      simp [hwho]

/-- The first to save has saved a correct row. -/
theorem mem_own_of_firstSaver {challengeId : String} {trace : List (Made AppOp App ι)} {first : ι}
    (h : firstSaver challengeId trace = some first) :
    ∃ e ∈ Pool.own first trace, e.1.savesCorrect challengeId = true := by
  obtain ⟨e, he, rfl⟩ := Option.map_eq_some_iff.1 h
  exact ⟨(e.op, e.before), Pool.mem_own.2 (List.mem_of_find?_eq_some he),
    by simpa using List.find?_some he⟩

/-- A recount finds the row that was saved before it. -/
theorem mem_of_recountOf {evs : List (AppOp × App)} {sub : Submission} {rows : List Submission}
    (hfound : evs.Pairwise fun e e' => ∀ sub, e.1 = .repo (.submissionSave sub) →
      sub ∈ e'.2.tables.submissions) (h : recountOf evs = some (sub, rows)) :
    sub ∈ rows ∧ sub.isCorrect = true := by
  induction evs with
  | nil => simp [recountOf] at h
  | cons e evs ih =>
    obtain ⟨op, s⟩ := e
    rw [List.pairwise_cons] at hfound
    have hrest := ih hfound.2
    cases op with
    | repo op =>
      cases op with
      | submissionSave sub' =>
        by_cases hcorrect : sub'.isCorrect = true
        · rw [recountOf, if_pos hcorrect] at h
          obtain ⟨rows', hread, hpair⟩ := Option.map_eq_some_iff.1 h
          obtain ⟨rfl, rfl⟩ : sub' = sub ∧ rows' = rows := by simpa using hpair
          unfold rowsRead at hread
          split at hread
          · obtain rfl := Option.some.inj hread
            exact ⟨hfound.1 _ List.mem_cons_self sub' rfl, hcorrect⟩
          · exact absurd hread (by simp)
        · rw [recountOf, if_neg hcorrect] at h
          exact hrest h
      | _ => exact hrest h
    | _ => exact hrest h

/-- The rows hold one solver when no row is of another. -/
theorem isFirstBlood_iff {challengeId : String} {rows : List Submission} {sub : Submission}
    (hsub : sub ∈ correctOn challengeId rows) :
    isFirstBlood challengeId rows = true ↔
      ¬ ∃ row ∈ correctOn challengeId rows, solverId row ≠ solverId sub := by
  rw [isFirstBlood, broadcastSolvers_eq, decide_eq_true_eq, Finset.card_le_one]
  simp only [solverIds, List.mem_toFinset, List.mem_map]
  constructor
  · rintro hone ⟨row, hrow, hother⟩
    exact hother (hone _ ⟨row, hrow, rfl⟩ _ ⟨sub, hsub, rfl⟩)
  · rintro hnone _ ⟨row, hrow, rfl⟩ _ ⟨row', hrow', rfl⟩
    have hsame : ∀ r ∈ correctOn challengeId rows, solverId r = solverId sub := by
      intro r hr
      by_contra hne
      exact hnone ⟨r, hr, hne⟩
    rw [hsame row hrow, hsame row' hrow']

/-- A list has one element when it counts so. -/
theorem eq_singleton_iff_count {l : List ι} {x : ι} :
    l = [x] ↔ ∀ y, l.count y = if y = x then 1 else 0 := by
  constructor
  · rintro rfl y
    by_cases h : y = x
    · simp [h]
    · simp [h, Ne.symm h]
  · intro h
    refine List.perm_singleton.1 (List.perm_iff_count.2 fun y => ?_)
    rw [h y]
    by_cases hy : y = x
    · simp [hy]
    · simp [hy, Ne.symm hy]

/-- In every interleaving a request finds the rows it has saved. -/
theorem own_found (P : Platform) (a : App) (req : ι → SubmitRequest) (schedule : List ι) (i : ι) :
    (Pool.own i ((submissionPool P a req).trace App.handler schedule)).Pairwise
      fun e e' => ∀ sub, e.1 = .repo (.submissionSave sub) → sub ∈ e'.2.tables.submissions := by
  have hadd : ∀ (b : App) (op : AppOp) (sub : Submission), op = .repo (.submissionSave sub) →
      sub ∈ (App.handler.next b op).tables.submissions := by
    rintro b op sub rfl
    exact List.mem_append_right _ (List.mem_singleton_self sub)
  have hkeep : ∀ (b : App) (op : AppOp) (sub : Submission), sub ∈ b.tables.submissions →
      sub ∈ (App.handler.next b op).tables.submissions := by
    intro b op sub hsub
    cases op with
    | repo op =>
      cases op with
      | submissionSave row => exact List.mem_append_left _ hsub
      | _ => exact hsub
    | _ => exact hsub
  have hfound := Pool.found hadd hkeep (submissionPool P a req) schedule
  refine hfound.later.filterMap _ fun e e' hrel x hx x' hx' sub hsub => ?_
  obtain ⟨-, rfl⟩ : e.who = i ∧ (e.op, e.before) = x := by simpa using hx
  obtain ⟨-, rfl⟩ : e'.who = i ∧ (e'.op, e'.before) = x' := by simpa using hx'
  exact hrel sub hsub

/-- A request that recounts announces a first blood unless it finds another solver. -/
theorem count_of_recount {trace : List (Made AppOp App ι)} {i : ι}
    (hdoes : LeavesNoSolve (Pool.own i trace) ∨ Solves (req i).challengeId (Pool.own i trace))
    {sub : Submission} {rows : List Submission}
    (hrecount : recountOf (Pool.own i trace) = some (sub, rows))
    (hrow : sub ∈ correctOn sub.challengeId rows) :
    (bloodCallers req sub.challengeId trace).count i =
      if ∃ row ∈ correctOn sub.challengeId rows, solverId row ≠ solverId sub then 0 else 1 := by
  rcases hdoes with ⟨-, -, hnone⟩ | ⟨-, sub', rows', hid, hrecount', hbloods⟩
  · rw [hrecount] at hnone
    exact absurd hnone (by simp)
  · obtain ⟨rfl, rfl⟩ : sub = sub' ∧ rows = rows' := by simpa [hrecount] using hrecount'
    rw [count_bloodCallers, if_pos hid.symm, hbloods, ← hid]
    by_cases hother : ∃ row ∈ correctOn sub.challengeId rows, solverId row ≠ solverId sub
    · rw [if_pos hother, if_neg fun hyes => (isFirstBlood_iff hrow).1 hyes hother]
    · rw [if_neg hother, if_pos ((isFirstBlood_iff hrow).2 hother)]

/-- A request that does not recount for a challenge announces no first blood on it. -/
theorem count_of_no_recount {trace : List (Made AppOp App ι)} {i : ι}
    (hdoes : LeavesNoSolve (Pool.own i trace) ∨ Solves (req i).challengeId (Pool.own i trace))
    {challengeId : String} (hnone : ¬ ∃ sub rows,
      recountOf (Pool.own i trace) = some (sub, rows) ∧ sub.challengeId = challengeId) :
    (bloodCallers req challengeId trace).count i = 0 := by
  rw [count_bloodCallers]
  by_cases hid : (req i).challengeId = challengeId
  · rcases hdoes with ⟨-, hbloods, -⟩ | ⟨-, sub, rows, hid', hrecount, -⟩
    · rw [if_pos hid, hbloods]
    · exact absurd ⟨sub, rows, hrecount, hid'.trans hid⟩ hnone
  · rw [if_neg hid]

/-- The first to save recounts. -/
theorem recount_of_firstSaver {trace : List (Made AppOp App ι)} {challengeId : String} {first : ι}
    (hdoes : LeavesNoSolve (Pool.own first trace) ∨
      Solves (req first).challengeId (Pool.own first trace))
    (hfirst : firstSaver challengeId trace = some first) :
    ∃ sub rows, recountOf (Pool.own first trace) = some (sub, rows) ∧
      sub.challengeId = challengeId := by
  obtain ⟨e, he, hsaves⟩ := mem_own_of_firstSaver hfirst
  rcases hdoes with ⟨hnone, -⟩ | ⟨honly, sub, rows, hid, hrecount, -⟩
  · rw [hnone e he challengeId] at hsaves
    exact absurd hsaves (by simp)
  · exact ⟨sub, rows, hrecount, hid.trans (honly e he challengeId hsaves).symm⟩

/-- **When a first blood is announced once and by the first to solve.**  After every
interleaving of the calls of any requests in which all have returned, the announcements
are right exactly when the first to save finds no other solver at its recount and every
other request that saved a correct row finds one. -/
theorem one_first_blood_iff (hcfg : P.notifications.broadcastFirstBloods = true)
    {schedule : List ι} (hreturned : AllReturned P a req schedule) :
    OneFirstBlood req a ((submissionPool P a req).trace App.handler schedule) ↔
      RecountsInOrder a ((submissionPool P a req).trace App.handler schedule) := by
  set trace := (submissionPool P a req).trace App.handler schedule with htrace
  have hdoes : ∀ i, LeavesNoSolve (Pool.own i trace) ∨
      Solves (req i).challengeId (Pool.own i trace) := by
    intro i
    obtain ⟨r, hr⟩ := hreturned i
    exact Api.solves_of_makes hcfg (Pool.makes_own App.handler (submissionPool P a req) schedule hr)
  have hrow : ∀ {i sub rows}, recountOf (Pool.own i trace) = some (sub, rows) →
      sub ∈ correctOn sub.challengeId rows := by
    intro i sub rows hrecount
    obtain ⟨hmem, hcorrect⟩ := mem_of_recountOf (own_found P a req schedule i) hrecount
    exact List.mem_filter.2 ⟨hmem, by simp [hcorrect]⟩
  unfold OneFirstBlood RecountsInOrder
  refine forall_congr' fun challengeId => forall_congr' fun first => ?_
  refine forall_congr' fun _ => forall_congr' fun hfirst => ?_
  -- the list of announcements is right when it counts every request rightly
  rw [eq_singleton_iff_count]
  refine forall_congr' fun i => ?_
  by_cases hsolves : ∃ sub rows, recountOf (Pool.own i trace) = some (sub, rows) ∧
      sub.challengeId = challengeId
  · obtain ⟨sub, rows, hrecount, rfl⟩ := hsolves
    rw [count_of_recount (hdoes i) hrecount (hrow hrecount)]
    have hcounts : (if ∃ row ∈ correctOn sub.challengeId rows, solverId row ≠ solverId sub
        then 0 else 1) = (if i = first then 1 else 0) ↔
          ((∃ row ∈ correctOn sub.challengeId rows, solverId row ≠ solverId sub) ↔ i ≠ first) := by
      by_cases hi : i = first <;> split <;> simp_all
    rw [hcounts]
    constructor
    · intro hiff sub' rows' hrecount' hid
      obtain ⟨rfl, rfl⟩ : sub = sub' ∧ rows = rows' := by simpa [hrecount] using hrecount'
      exact hiff
    · intro horder
      exact horder sub rows hrecount rfl
  · have hne : i ≠ first := by
      rintro rfl
      exact hsolves (recount_of_firstSaver (hdoes i) hfirst)
    rw [count_of_no_recount (hdoes i) hsolves, if_neg hne]
    refine iff_of_true rfl fun sub rows hrecount hid => ?_
    exact absurd ⟨sub, rows, hrecount, hid⟩ hsolves

end

/-! ## Two parts by one team, two teams at once -/

/-- A challenge of two parts. -/
def chain : Challenge :=
  .plain "chain" "Chain" ⟨.pointValue, "100"⟩
    (.multi [⟨"one", .static "one", 1 / 2⟩, ⟨"two", .static "two", 1 / 2⟩])

/-- Alice is on the team `red` and bob on `blue`; nobody has submitted anything. -/
def beforeChain : App :=
  .fresh
    { teams := redAndBlue
      challenges := .single chain
      submissions := []
      hintUnlocks := []
      activeFlag := fun _ _ _ => none }
    ⟨[.plain "alice" (some "red"), .plain "bob" (some "blue")], by decide⟩

/-- A request of a player for a part of the challenge. -/
def submitChain (user flag uuid : String) : SubmitRequest where
  user := ⟨user⟩
  ip := user
  lang := "en"
  challengeId := "chain"
  flag := flag
  ipCheckedAt := 0
  accountCheckedAt := 0
  uuid := uuid
  submittedAt := 0
  notificationId := uuid
  notifiedAt := 0

/-- Alice solves both parts. -/
def aliceTwice : Fin 2 → SubmitRequest
  | 0 => submitChain "alice" "one" "1"
  | 1 => submitChain "alice" "two" "2"

/-- Alice and bob solve the same part. -/
def aliceAndBob : Fin 2 → SubmitRequest
  | 0 => submitChain "alice" "one" "1"
  | 1 => submitChain "bob" "one" "2"

/-- One request after the other. -/
def oneByOne : List (Fin 2) := List.replicate 16 0 ++ List.replicate 16 1

/-- Both requests save before either recounts. -/
def atOnce : List (Fin 2) := List.replicate 9 0 ++ List.replicate 10 1 ++ oneByOne

/-- The calls that the requests make on a schedule. -/
def chainTrace (req : Fin 2 → SubmitRequest) (schedule : List (Fin 2)) :
    List (Made AppOp App (Fin 2)) :=
  (submissionPool .plain beforeChain req).trace App.handler schedule

theorem allReturned_oneByOne : AllReturned .plain beforeChain aliceAndBob oneByOne := by
  intro i
  match i with
  | 0 => exact ⟨_, rfl⟩
  | 1 => exact ⟨_, rfl⟩

/-- The condition on two teams, one after the other. -/
theorem one_first_blood_iff_one_by_one :
    OneFirstBlood aliceAndBob beforeChain (chainTrace aliceAndBob oneByOne) ↔
      RecountsInOrder beforeChain (chainTrace aliceAndBob oneByOne) :=
  one_first_blood_iff rfl allReturned_oneByOne

/-- **Two first bloods, or none.**  Alice's team draws first blood with its first part and
again with its second; and when two teams save before either recounts, both find two
solvers and nobody draws it. -/
theorem first_blood_twice_or_lost :
    (AllReturned .plain beforeChain aliceTwice oneByOne ∧
        bloodCallers aliceTwice "chain" (chainTrace aliceTwice oneByOne) = [0, 1] ∧
        ¬ OneFirstBlood aliceTwice beforeChain (chainTrace aliceTwice oneByOne)) ∧
      AllReturned .plain beforeChain aliceAndBob atOnce ∧
        bloodCallers aliceAndBob "chain" (chainTrace aliceAndBob atOnce) = [] ∧
        ¬ OneFirstBlood aliceAndBob beforeChain (chainTrace aliceAndBob atOnce) := by
  have hfirst : firstSaver "chain" (chainTrace aliceTwice oneByOne) = some 0 := by decide +kernel
  have htwice : bloodCallers aliceTwice "chain" (chainTrace aliceTwice oneByOne) = [0, 1] := by
    decide +kernel
  have hfirst' : firstSaver "chain" (chainTrace aliceAndBob atOnce) = some 0 := by decide +kernel
  have hlost : bloodCallers aliceAndBob "chain" (chainTrace aliceAndBob atOnce) = [] := by
    decide +kernel
  refine ⟨⟨fun i => ?_, htwice, fun h => ?_⟩, fun i => ?_, hlost, fun h => ?_⟩
  · match i with
    | 0 => exact ⟨_, rfl⟩
    | 1 => exact ⟨_, rfl⟩
  · have hone := h "chain" 0 rfl hfirst
    rw [htwice] at hone
    exact absurd hone (by decide)
  · match i with
    | 0 => exact ⟨_, rfl⟩
    | 1 => exact ⟨_, rfl⟩
  · have hone := h "chain" 0 rfl hfirst'
    rw [hlost] at hone
    exact absurd hone (by decide)

end Cctf

import Cctf.Api.Router
import Cctf.Library.Knowledge

/-!
# What the endpoints of the players call

A submission stores one row and an unlock another, both for the account and the team that the
handler was given; everything else reads.

* `RepoOp.For`, `AppOp.For` — calls that store nothing for anybody else, and announce nothing.
* `AppOp.Reads`, `AppOp.Tells` — calls that only read, or besides tell of a solve.
* `submitFlag_calls`, `unlockHint_calls` — the two services.
* `listChallenges_calls`, `getChallenge_calls`, `getScoreboard_calls`, `exportCtftime_calls`,
  `download_calls`, `listNotifications_calls`, `notificationsStream_calls` — the endpoints that
  only read.
-/

namespace Cctf

open Program SolveService

/-! ## Calls -/

/-- What the call stores is for the account and its team. -/
def RepoOp.For (accountId : AccountId) (teamId : Option TeamId) : RepoOp → Prop
  | .submissionSave sub => sub.accountId = accountId ∧ sub.teamId = teamId
  | .hintSave unlock => unlock.accountId = accountId ∧ unlock.teamId = teamId
  | _ => True

/-- The same for the calls of a handler after the limiter; what it sends is no announcement. -/
def AppOp.For (accountId : AccountId) (teamId : Option TeamId) : AppOp → Prop
  | .repo op => op.For accountId teamId
  | .broadcast n => n.kind ≠ .announcement
  | .checkLimit _ _ _ _ => False
  | .accountFindById _ => True

/-- A call that only reads from the database. -/
def AppOp.Reads : AppOp → Prop
  | .repo op => op.isRead = true
  | .accountFindById _ => True
  | _ => False

/-- A call that only reads, or tells of something that is no announcement. -/
def AppOp.Tells : AppOp → Prop
  | .broadcast n => n.kind ≠ .announcement
  | op => op.Reads

theorem RepoOp.for_of_isRead {accountId : AccountId} {teamId : Option TeamId} {op : RepoOp}
    (h : op.isRead = true) : op.For accountId teamId := by
  cases op with
  | submissionSave sub => cases h
  | hintSave unlock => cases h
  | _ => trivial

theorem AppOp.for_of_tells {accountId : AccountId} {teamId : Option TeamId} {op : AppOp}
    (h : op.Tells) : op.For accountId teamId := by
  cases op with
  | repo op => exact RepoOp.for_of_isRead h
  | broadcast n => exact h
  | checkLimit key limit windowSecs now => exact h.elim
  | accountFindById id => trivial

section

variable {α : Type} {ok : RepoOp → Prop}

theorem calls_ask {op : RepoOp} (h : ok op) : (ask op).run.Calls ok := ⟨h, fun _ => trivial⟩

theorem calls_attempt {op : RepoOp} (h : ok op) : (attempt op).run.Calls ok :=
  ⟨h, fun _ => trivial⟩

theorem calls_pure (a : α) : (pure a : Svc α).run.Calls ok := trivial

theorem calls_throw (e : ServiceError) : (throw e : Svc α).run.Calls ok := trivial

end

/-! ## Submissions -/

/-- A part of a service that only reads. -/
abbrev ReadsOnly {α : Type} (m : Svc α) : Prop := m.run.Calls fun op => op.isRead = true

section

variable (challenge : Challenge) (challengeId : String)

theorem submissionsOf_calls (t : Option TeamId) : ReadsOnly (submissionsOf t) := by
  cases t with
  | some t => exact calls_ask rfl
  | none => exact calls_ask rfl

theorem checkAttempts_calls (t : Option TeamId) (accountId : AccountId) :
    ReadsOnly (checkAttempts challenge challengeId t accountId) := by
  rw [checkAttempts]
  cases challenge.maxAttempts with
  | none => exact calls_pure ()
  | some limitCfg =>
    refine Calls.bind_except (submissionsOf_calls t) fun all => ?_
    split_ifs
    · exact calls_throw _
    · exact calls_pure ()

theorem checkRequirements_calls (t : Option TeamId) (accountId : AccountId) :
    ReadsOnly (checkRequirements challenge t accountId) := by
  rw [checkRequirements]
  split_ifs
  · exact calls_pure ()
  · refine Calls.bind_except (submissionsOf_calls t) fun subs => ?_
    split_ifs
    · exact calls_pure ()
    · exact calls_throw _

theorem checkNotSolved_calls (isCorrect solved : Bool) :
    ReadsOnly (checkNotSolved isCorrect solved) := by
  rw [checkNotSolved]
  split_ifs
  · exact calls_throw _
  · exact calls_pure ()

theorem countFullSolveTeams_calls (teamConsensus : Bool)
    (entries : List (Sigma fun _ : TeamId => List AccountId)) (n : UInt32) :
    ReadsOnly (countFullSolveTeams teamConsensus entries n) := by
  induction entries generalizing n with
  | nil => exact calls_pure n
  | cons e rest ih =>
    obtain ⟨t, userIds⟩ := e
    refine Calls.bind_except (calls_attempt rfl) fun found => ?_
    rcases found with _ | _ | team
    · exact ih n
    · exact ih n
    · exact ih _

theorem solveCount_calls (t : Option TeamId) (allSubs : List Submission) :
    ReadsOnly (solveCount challenge challengeId t allSubs) := by
  cases t with
  | some t => exact countFullSolveTeams_calls _ _ _
  | none => exact calls_pure _

theorem reachesConsensus_calls (t : Option TeamId) (accountId : AccountId)
    (existing : List Submission) :
    ReadsOnly (reachesConsensus challenge t accountId existing) := by
  cases t with
  | none => exact calls_pure _
  | some t =>
    rw [reachesConsensus]
    split_ifs
    · refine Calls.bind_except (calls_attempt rfl) fun found => ?_
      rcases found with _ | _ | team
      · exact calls_pure _
      · exact calls_pure _
      · exact calls_pure _
    · exact calls_pure _

variable {accountId : AccountId} {teamId : Option TeamId} {ok : RepoOp → Prop}

/-- **A submission is stored for the account and the team that it is made for**; besides, the
service only reads. -/
theorem submitFlag_calls (hread : ∀ op, op.isRead = true → ok op)
    (hsave : ∀ sub : Submission, sub.accountId = accountId → sub.teamId = teamId →
      ok (.submissionSave sub))
    (E : Engines) (submittedFlag submittedIp uuid : String) (now : ℤ) :
    (SolveService.submitFlag E challengeId teamId accountId submittedFlag submittedIp uuid
      now).run.Calls ok := by
  refine Calls.bind_except (calls_ask (hread _ rfl)) fun found => ?_
  cases found with
  | none => exact calls_throw _
  | some challenge =>
    refine Calls.bind_except ((checkAttempts_calls _ _ _ _).imp hread) fun _ => ?_
    refine Calls.bind_except ((checkRequirements_calls _ _ _).imp hread) fun _ => ?_
    refine Calls.bind_except (calls_ask (hread _ rfl)) fun activeFlag => ?_
    refine Calls.bind_except ((submissionsOf_calls teamId).imp hread) fun subs => ?_
    refine Calls.bind_except ((checkNotSolved_calls _ _).imp hread) fun _ => ?_
    refine Calls.bind_except (calls_ask (hread _ rfl)) fun allSubs => ?_
    refine Calls.bind_except ((solveCount_calls _ _ _ _).imp hread) fun count => ?_
    refine Calls.bind_except ((reachesConsensus_calls _ _ _ _).imp hread) fun reaches => ?_
    refine Calls.bind_except (calls_ask (hsave _ rfl rfl)) fun _ => ?_
    by_cases hright : flagIsCorrect E challenge.flag submittedFlag activeFlag = true
    · rw [if_pos hright]
      exact calls_pure _
    · rw [if_neg hright]
      exact calls_throw _

end

/-! ## Unlocks -/

section

variable (E : Engines) (mode : HintDeductionMode) (req : UnlockRequest)

theorem checkAccess_calls (challenge : Challenge) (allSubs : List Submission) :
    ReadsOnly (HintService.checkAccess challenge req allSubs) := by
  rw [HintService.checkAccess]
  split
  · exact calls_throw _
  · exact calls_pure ()

theorem checkBalance_calls (t : Option TeamId) (allSubs : List Submission) (cost : UInt32) :
    ReadsOnly (HintService.checkBalance E mode t allSubs cost) := by
  cases mode with
  | gate =>
    cases t with
    | none => exact calls_pure ()
    | some t =>
      refine Calls.bind_except (m := TeamRepo.findById t) (calls_ask rfl) fun found => ?_
      cases found with
      | none => exact calls_throw _
      | some team =>
        refine Calls.bind_except (calls_ask rfl) fun challenges => ?_
        refine Calls.bind_except (calls_ask rfl) fun allUnlocks => ?_
        split_ifs
        · exact calls_throw _
        · exact calls_pure ()
  | _ => exact calls_pure ()

/-- **An unlock is stored for the account and the team that it is made for**; besides, the
service only reads. -/
theorem unlockHint_calls {ok : RepoOp → Prop} (hread : ∀ op, op.isRead = true → ok op)
    (hsave : ∀ unlock : HintUnlock, unlock.accountId = req.accountId →
      unlock.teamId = req.teamId → ok (.hintSave unlock)) :
    (HintService.unlockHint E mode req).run.Calls ok := by
  refine Calls.bind_except (calls_ask (hread _ rfl)) fun found => ?_
  cases found with
  | none => exact calls_throw _
  | some challenge =>
    refine Calls.bind_except (calls_ask (hread _ rfl)) fun allSubs => ?_
    refine Calls.bind_except ((checkAccess_calls req challenge allSubs).imp hread) fun _ => ?_
    cases challenge.hints[req.hintIndex.toNat]? with
    | none => exact calls_throw _
    | some hint =>
      refine Calls.bind_except (calls_ask (hread _ rfl)) fun existing => ?_
      simp only
      split
      · exact calls_pure _
      · refine Calls.bind_except ((checkBalance_calls E mode _ allSubs _).imp hread) fun _ => ?_
        exact Calls.bind_except (calls_ask (hsave _ rfl rfl)) fun _ => calls_pure _

end

/-! ## Handlers -/

section

variable {α : Type}

/-- A service inside a handler. -/
theorem calls_service {ok : AppOp → Prop} {m : Svc α} (h : m.run.Calls fun op => ok (.repo op)) :
    (service m).Calls ok :=
  Calls.lift h

theorem solverName_calls (submission : Submission) :
    (Api.solverName submission).Calls AppOp.Tells := by
  rw [Api.solverName]
  cases submission.teamId with
  | some t => exact ⟨rfl, fun _ => trivial⟩
  | none => exact ⟨trivial, fun _ => trivial⟩

/-- What a solve announces is no announcement of an administrator. -/
theorem announceSolve_calls (submission : Submission) (firstBlood : Bool) (id : String)
    (now : ℤ) : (Api.announceSolve submission firstBlood id now).Calls AppOp.Tells := by
  refine Calls.bind (fun challenge => ?_) ⟨rfl, fun _ => trivial⟩
  refine Calls.bind (fun solver => ?_) (solverName_calls submission)
  refine ⟨?_, fun _ => trivial⟩
  cases firstBlood <;> exact nofun

theorem maybeBroadcastSolve_calls (cfg : NotificationConfig) (submission : Submission)
    (id : String) (now : ℤ) :
    (Api.maybeBroadcastSolve cfg submission id now).Calls AppOp.Tells := by
  rw [Api.maybeBroadcastSolve]
  split_ifs
  · trivial
  · refine Calls.bind (fun subs => ?_) ⟨rfl, fun _ => trivial⟩
    exact Calls.ite trivial (announceSolve_calls submission _ id now)

/-- The end of a submission. -/
theorem answerSubmission_calls (P : Platform) (req : SubmitRequest)
    (res : Except ServiceError Submission) :
    (Api.answerSubmission P req res).Calls AppOp.Tells := by
  cases res with
  | error e => trivial
  | ok submission =>
    refine Calls.bind (fun _ => ?_) (maybeBroadcastSolve_calls _ submission _ _)
    trivial

theorem lockedFor_calls (isAdmin : Bool) (challengeId : String) :
    (Api.lockedFor isAdmin challengeId).Calls AppOp.Reads := by
  cases isAdmin with
  | true => trivial
  | false => exact ⟨rfl, fun _ => trivial⟩

theorem viewerUnlocks_calls (viewerTeam : Option TeamId) (viewer : AccountId) :
    ReadsOnly (HintService.viewerUnlocks viewerTeam viewer) :=
  Calls.bind_except (calls_ask rfl) fun _ => calls_pure _

theorem listChallenges_calls (P : Platform) (req : ViewRequest) :
    (listChallenges P req).Calls AppOp.Reads := by
  refine Calls.bind (fun viewer => ?_) ⟨trivial, fun _ => trivial⟩
  refine Calls.bind (fun found => ?_) ⟨rfl, fun _ => trivial⟩
  cases found with
  | error e => trivial
  | ok challenges =>
    refine Calls.bind (fun submissions => ?_) ⟨rfl, fun _ => trivial⟩
    refine Calls.bind (fun unlocks => ?_) (calls_service (viewerUnlocks_calls _ _))
    exact ⟨trivial, fun account => trivial⟩

theorem getChallenge_calls (P : Platform) (req : ViewRequest) (challengeId : String) :
    (getChallenge P req challengeId).Calls AppOp.Reads := by
  refine Calls.bind (fun viewer => ?_) ⟨trivial, fun _ => trivial⟩
  refine Calls.bind (fun found => ?_) ⟨rfl, fun _ => trivial⟩
  rcases found with e | _ | challenge
  · trivial
  · trivial
  · refine Calls.bind (fun submissions => ?_) ⟨rfl, fun _ => trivial⟩
    refine Calls.bind (fun unlocks => ?_) (calls_service (viewerUnlocks_calls _ _))
    refine Calls.bind (fun account => ?_) ⟨trivial, fun _ => trivial⟩
    simp only
    split_ifs <;> trivial

theorem getScoreboard_calls (E : Engines) (cfg : ScoreboardService) (bracket : Option String) :
    ReadsOnly (ScoreboardService.getScoreboard E cfg bracket) := by
  refine Calls.bind_except (calls_ask rfl) fun _ => ?_
  refine Calls.bind_except (calls_ask rfl) fun _ => ?_
  refine Calls.bind_except (calls_ask rfl) fun _ => ?_
  exact Calls.bind_except (calls_ask rfl) fun _ => calls_pure _

theorem exportCtftime_calls (E : Engines) (cfg : ScoreboardService) :
    ReadsOnly (ScoreboardService.exportCtftime E cfg) := by
  refine Calls.bind_except (getScoreboard_calls E cfg none) fun _ => ?_
  refine Calls.bind_except (calls_ask rfl) fun _ => ?_
  exact Calls.bind_except (calls_ask rfl) fun _ => calls_pure _

end

/-! ## Files and notifications -/

/-- A call to the files that only reads. -/
def FileOp.Reads : FileOp → Prop
  | .read _ => True
  | .selectFile _ => True
  | _ => False

theorem download_calls (id : String) : (FileService.download id).run.Calls FileOp.Reads := by
  have hselect : (FileRepo.findById id).run.Calls FileOp.Reads :=
    Calls.bind_except (m := statement (.selectFile id)) ⟨trivial, fun _ => trivial⟩
      fun _ => trivial
  have hretrieve : (LocalFileStorage.retrieve id).run.Calls FileOp.Reads := by
    refine Calls.bind_except trivial fun _ => ?_
    exact Calls.bind_except (m := io (.read id)) ⟨trivial, fun _ => trivial⟩ fun _ => trivial
  refine Calls.bind_except hselect fun found => Calls.bind_except trivial fun record => ?_
  refine Calls.bind_except (m := storage (LocalFileStorage.retrieve id)) ?_ fun _ => trivial
  refine Calls.bind (fun _ => ?_) hretrieve
  trivial

/-- A call of the notifications that only reads. -/
def NoticeOp.Reads : NoticeOp → Prop
  | .notificationSave _ => False
  | .send _ => False
  | _ => True

theorem viewerIdentity_calls (viewer : Option AccountId) :
    (viewerIdentity viewer).Calls NoticeOp.Reads := by
  cases viewer with
  | none => trivial
  | some acc => exact ⟨trivial, fun _ => trivial⟩

theorem listNotifications_calls (P : Platform) (lang : String) (viewer : Option AccountId) :
    (listNotifications P lang viewer).Calls NoticeOp.Reads := by
  refine Calls.ite trivial (Calls.bind (fun identity => ?_) (viewerIdentity_calls viewer))
  refine Calls.bind (fun found => ?_) ⟨trivial, fun _ => trivial⟩
  cases found with
  | ok list => trivial
  | error e => trivial

theorem notificationsStream_calls (P : Platform) (lang : String) (viewer : Option AccountId) :
    (notificationsStream P lang viewer).Calls NoticeOp.Reads := by
  refine Calls.ite trivial (Calls.bind (fun identity => ?_) (viewerIdentity_calls viewer))
  trivial

end Cctf

import Cctf.Library.Program
import Cctf.Library.Table
import Cctf.Types.Records

/-!
# Repositories

The services see their data through repository traits.  A call on a repository
is one `RepoOp`; a service is a `Program` of such calls, so that the same text
can be run alone, next to other requests, or with calls that fail.

* `RepoOp`, `RepoOp.Resp` — the calls and what they return.
* `Svc` — a service computation: a program of repository calls that may end in a
  `ServiceError`.  `ask` is a call followed by `?`, `attempt` is a call under
  `if let Ok(..)`.
* `Store` — the tables behind the repositories, `Store.handler` how they answer.
* `Shows` — a state of a back end in which reads see given tables.
* `ChallengeRepo.findById` and the other methods, with the `exec_` lemmas that a
  symbolic run of a service uses.
-/

namespace Cctf

open Program

/-! ## Errors -/

/-- What a repository call can fail with. -/
inductive RepoError where
  | connection (reason : String)
  | notFound
  | conflict (key : String)
  | internal (reason : String)
  deriving DecidableEq, Repr

/-- What a service call can fail with. -/
inductive ServiceError where
  | repo (err : RepoError)
  | oauth (reason : String)
  | invalidRequest (key : String)
  | unauthorized
  | kube (reason : String)
  | rateLimitExceeded
  deriving DecidableEq, Repr

/-! ## Calls -/

/-- The calls the services make on their repositories. -/
inductive RepoOp where
  | challengeFindById (id : String)
  | challengeFindAll
  | findActiveFlag (challengeId : String) (teamId : Option TeamId) (accountId : AccountId)
  | submissionFindAll
  | submissionFindByTeam (teamId : TeamId)
  | submissionSave (submission : Submission)
  | teamFindById (id : TeamId)
  | teamFindAll
  | hintFindAll
  | hintFindFor (challengeId : String) (teamId : Option TeamId) (accountId : AccountId)
  | hintSave (unlock : HintUnlock)

namespace RepoOp

/-- What a call returns when it succeeds. -/
def Value : RepoOp → Type
  | .challengeFindById _ => Option Challenge
  | .challengeFindAll => List Challenge
  | .findActiveFlag _ _ _ => Option String
  | .submissionFindAll => List Submission
  | .submissionFindByTeam _ => List Submission
  | .submissionSave _ => Unit
  | .teamFindById _ => Option Team
  | .teamFindAll => List Team
  | .hintFindAll => List HintUnlock
  | .hintFindFor _ _ _ => List HintUnlock
  | .hintSave _ => Unit

/-- What a call returns. -/
abbrev Resp (op : RepoOp) : Type := Except RepoError op.Value

end RepoOp

/-- A service computation. -/
abbrev Svc (α : Type) : Type := ExceptT ServiceError (Program RepoOp RepoOp.Resp) α

/-- A call followed by `?`. -/
def ask (op : RepoOp) : Svc op.Value :=
  ExceptT.mk (.call op fun r => .done (r.mapError ServiceError.repo))

/-- A call under `if let Ok(..)`: an error counts as no answer. -/
def attempt (op : RepoOp) : Svc (Option op.Value) :=
  ExceptT.mk (.call op fun r => .done (.ok r.toOption))

/-! ## The tables -/

/-- The tables behind the repositories. -/
structure Store where
  /-- The teams with their members. -/
  teams : Table Team TeamId Team.id
  /-- The challenges. -/
  challenges : Table Challenge String Challenge.id
  /-- All submissions, oldest first. -/
  submissions : List Submission
  /-- All hint unlocks, oldest first. -/
  hintUnlocks : List HintUnlock
  /-- The live instance flag of a team or account on a challenge. -/
  activeFlag : String → Option TeamId → AccountId → Option String

namespace Store

/-- The unlocks of one challenge that belong to a team, or to a solo account. -/
def unlocksFor (unlocks : List HintUnlock) (challengeId : String) (teamId : Option TeamId)
    (accountId : AccountId) : List HintUnlock :=
  unlocks.filter fun u => u.challengeId = challengeId &&
    match teamId with
    | some t => decide (u.teamId = some t)
    | none => u.teamId.isNone && decide (u.accountId = accountId)

/-- What the tables answer to a call. -/
def read (s : Store) : (op : RepoOp) → op.Value
  | .challengeFindById id => s.challenges.find? id
  | .challengeFindAll => s.challenges.rows
  | .findActiveFlag challengeId teamId accountId => s.activeFlag challengeId teamId accountId
  | .submissionFindAll => s.submissions
  | .submissionFindByTeam teamId => s.submissions.filter fun sub => sub.teamId = some teamId
  | .submissionSave _ => ()
  | .teamFindById id => s.teams.find? id
  | .teamFindAll => s.teams.rows
  | .hintFindAll => s.hintUnlocks
  | .hintFindFor challengeId teamId accountId =>
      unlocksFor s.hintUnlocks challengeId teamId accountId
  | .hintSave _ => ()

/-- The store with one more submission. -/
def addSubmission (s : Store) (sub : Submission) : Store :=
  { s with submissions := s.submissions ++ [sub] }

/-- The store with one more hint unlock. -/
def addUnlock (s : Store) (u : HintUnlock) : Store :=
  { s with hintUnlocks := s.hintUnlocks ++ [u] }

/-- What a call leaves in the tables: only the two `save`s write. -/
def write (s : Store) : RepoOp → Store
  | .submissionSave sub => s.addSubmission sub
  | .hintSave u => s.addUnlock u
  | _ => s

/-- Tables all of whose calls succeed. -/
def handler : Handler RepoOp RepoOp.Resp Store where
  answer s op := .ok (s.read op)
  next := write

@[simp] theorem addSubmission_submissions (s : Store) (sub : Submission) :
    (s.addSubmission sub).submissions = s.submissions ++ [sub] := rfl

end Store

/-- Two teams of one member each. -/
def redAndBlue : Table Team TeamId Team.id :=
  ⟨[.plain "red" ["alice"], .plain "blue" ["bob"]], by decide⟩

/-- Run a service computation against the tables, alone. -/
def runSvc {α : Type} (s : Store) (m : Svc α) : Except ServiceError α × Store :=
  exec Store.handler s m

section Running

variable {α β : Type} (s : Store)

@[simp] theorem runSvc_pure (a : α) : runSvc s (pure a) = (.ok a, s) := rfl

theorem runSvc_bind (m : Svc α) (f : α → Svc β) :
    runSvc s (m >>= f) =
      match runSvc s m with
      | (.ok a, s') => runSvc s' (f a)
      | (.error e, s') => (.error e, s') := by
  unfold runSvc
  rw [exec_bind]
  rcases exec Store.handler s m with ⟨x, s'⟩
  cases x with
  | ok a => rfl
  | error e => rfl

/-- A step that succeeds hands its value and its store on. -/
theorem runSvc_bind_ok {m : Svc α} {f : α → Svc β} {a : α} {s' : Store}
    (h : runSvc s m = (.ok a, s')) : runSvc s (m >>= f) = runSvc s' (f a) := by
  rw [runSvc_bind, h]

/-- A step that fails ends the run. -/
theorem runSvc_bind_error {m : Svc α} {f : α → Svc β} {e : ServiceError} {s' : Store}
    (h : runSvc s m = (.error e, s')) : runSvc s (m >>= f) = (.error e, s') := by
  rw [runSvc_bind, h]

end Running

section Showing

/-- A call that only reads. -/
def RepoOp.isRead : RepoOp → Bool
  | .submissionSave _ => false
  | .hintSave _ => false
  | _ => true

variable {σ : Type}

/-- In the state `x` of a back end, the calls that only read see the tables `s`. -/
structure Shows (H : Handler RepoOp RepoOp.Resp σ) (x : σ) (s : Store) : Prop where
  answer {op : RepoOp} : op.isRead = true → H.answer x op = .ok (s.read op)
  next {op : RepoOp} : op.isRead = true → H.next x op = x

theorem Shows.exec_ask {H : Handler RepoOp RepoOp.Resp σ} {x : σ} {s : Store} (h : Shows H x s)
    {op : RepoOp} (hop : op.isRead = true) : exec H x (ask op) = (.ok (s.read op), x) := by
  show ((H.answer x op).mapError ServiceError.repo, H.next x op) = _
  rw [h.answer hop, h.next hop]
  rfl

/-- The tables show themselves. -/
theorem Store.shows (s : Store) : Shows Store.handler s s where
  answer _ := rfl
  next {op} hop := by
    cases op with
    | submissionSave submission => simp [RepoOp.isRead] at hop
    | hintSave unlock => simp [RepoOp.isRead] at hop
    | _ => rfl

end Showing

section Following

variable {β γ : Type} {may : (op : RepoOp) → op.Resp → Prop}
  {tick : γ → (op : RepoOp) → op.Resp → γ} {guard : γ → RepoOp → Prop}
  {post : γ → Except ServiceError β → Prop} {g : γ}

/-- Follow a service past a call with `?`. -/
theorem along_ask_bind {op : RepoOp} {f : op.Value → Svc β} (hguard : guard g op)
    (hok : ∀ a, may op (.ok a) → Along may tick guard post (tick g op (.ok a)) (f a).run)
    (herr : ∀ e, may op (.error e) → post (tick g op (.error e)) (.error (.repo e))) :
    Along may tick guard post g (ask op >>= f).run := by
  refine ⟨hguard, fun r hr => ?_⟩
  cases r with
  | ok a => exact hok a hr
  | error e => exact herr e hr

end Following

/-! ## The methods of the traits -/

namespace ChallengeRepo

/-- `ChallengeRepo::find_by_id`, with `?`. -/
def findById (id : String) : Svc (Option Challenge) := ask (.challengeFindById id)

/-- `ChallengeRepo::find_all`, with `?`. -/
def findAll : Svc (List Challenge) := ask .challengeFindAll

/-- `InstanceRepo::find_active_flag`, with `?`. -/
def findActiveFlag (challengeId : String) (teamId : Option TeamId) (accountId : AccountId) :
    Svc (Option String) :=
  ask (.findActiveFlag challengeId teamId accountId)

@[simp] theorem exec_findById (s : Store) (id : String) :
    runSvc s (findById id) = (.ok (s.challenges.find? id), s) := rfl
@[simp] theorem exec_findActiveFlag (s : Store) (c : String) (t : Option TeamId)
    (a : AccountId) : runSvc s (findActiveFlag c t a) = (.ok (s.activeFlag c t a), s) := rfl

end ChallengeRepo

namespace SubmissionRepo

/-- `SubmissionRepo::find_all`, with `?`. -/
def findAll : Svc (List Submission) := ask .submissionFindAll

/-- `SubmissionRepo::find_by_team`, with `?`. -/
def findByTeam (teamId : TeamId) : Svc (List Submission) := ask (.submissionFindByTeam teamId)

/-- `SubmissionRepo::save`, with `?`. -/
def save (submission : Submission) : Svc Unit := ask (.submissionSave submission)

@[simp] theorem exec_findAll (s : Store) : runSvc s findAll = (.ok s.submissions, s) := rfl
@[simp] theorem exec_save (s : Store) (sub : Submission) :
    runSvc s (save sub) = (.ok (), s.addSubmission sub) := rfl

end SubmissionRepo

namespace TeamRepo

/-- `TeamRepo::find_by_id`, with `?`. -/
def findById (id : TeamId) : Svc (Option Team) := ask (.teamFindById id)

/-- `TeamRepo::find_by_id` under `if let Ok(Some(team))`. -/
def tryFindById (id : TeamId) : Svc (Option (Option Team)) := attempt (.teamFindById id)

/-- `TeamRepo::find_all`, with `?`. -/
def findAll : Svc (List Team) := ask .teamFindAll

@[simp] theorem exec_tryFindById (s : Store) (id : TeamId) :
    runSvc s (tryFindById id) = (.ok (some (s.teams.find? id)), s) := rfl

end TeamRepo

namespace HintUnlockRepo

/-- `HintUnlockRepo::find_all`, with `?`. -/
def findAll : Svc (List HintUnlock) := ask .hintFindAll

/-- `HintUnlockRepo::find_for`, with `?`. -/
def findFor (challengeId : String) (teamId : Option TeamId) (accountId : AccountId) :
    Svc (List HintUnlock) :=
  ask (.hintFindFor challengeId teamId accountId)

/-- `HintUnlockRepo::save`, with `?`. -/
def save (unlock : HintUnlock) : Svc Unit := ask (.hintSave unlock)

end HintUnlockRepo

end Cctf

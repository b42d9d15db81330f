import Cctf.Api.Extract
import Cctf.Api.Notifications
import Cctf.Repos.Pg.Challenges
import Cctf.Repos.Pg.Database
import Cctf.Repos.Pg.Hints
import Cctf.Services.Files

/-!
# The server

All tables behind the API, and all calls that its handlers make.  Any call to the database or
to the directory of the files may fail, and one that fails changes nothing.  What the schema
refuses of a submission or of an unlock, its primary key aside, is such a failure as well.

* `ServerOp` — the calls: those of the account and team repositories, of the challenge
  repository, of the file service, of the notification service and of the players' handlers.
* `Backend` — what the answers depend on besides the tables.
* `Server` — the tables, the rate limiter, the channel, and the faults to come.
* `Server.perform` — what a call does when it does not fail, `Server.handler` with the faults.
* `Server.Leaves`, `leaves_next` — what every call leaves of the tables.
* `onDatabase`, `onChallenges`, `onFiles`, `onNotices`, `onApp` — the programs of one service, on
  the server.
-/

namespace Cctf

open Program Pg

/-! ## Calls -/

/-- A call of a handler. -/
inductive ServerOp where
  | query (q : Query)
  | challenge (st : Pg.ChallengeRepo.Statement)
  | file (op : FileOp)
  | notice (op : NoticeOp)
  | app (op : AppOp)

/-- What a call returns. -/
def ServerOp.Resp : ServerOp → Type
  | .query q => q.Resp
  | .challenge st => st.Resp
  | .file op => Except Failure op.Value
  | .notice op => op.Resp
  | .app op => op.Resp

/-- The computation of a handler. -/
abbrev Serving (α : Type) : Type := Program ServerOp ServerOp.Resp α

section

variable {α : Type}

/-- A program of the account and team repositories. -/
def onDatabase (p : Program Query Query.Resp α) : Serving α := p.lift .query fun _ r => r

/-- A program of the challenge repository. -/
def onChallenges (p : Program Pg.ChallengeRepo.Statement Pg.ChallengeRepo.Statement.Resp α) :
    Serving α :=
  p.lift .challenge fun _ r => r

/-- A program of the file service. -/
def onFiles (p : Program FileOp (fun op => Except Failure op.Value) α) : Serving α :=
  p.lift .file fun _ r => r

/-- A program of the notification service. -/
def onNotices (p : Notices α) : Serving α := p.lift .notice fun _ r => r

/-- A program of the players' handlers. -/
def onApp (p : Api α) : Serving α := p.lift .app fun _ r => r

end

/-! ## Tables -/

/-- What the answers depend on besides the tables: what the database says when it refuses a
value, how JSON columns are read, and the flags of the running instances. -/
structure Backend where
  refusal : String
  fromValue : FromValue
  activeFlag : String → Option TeamId → AccountId → Option String

/-- Everything that the handlers share. -/
structure Server where
  /-- `teams` and `accounts`. -/
  db : Database
  /-- `challenges` and `submissions`. -/
  challenges : ChallengeTables
  hintUnlocks : Table HintUnlockRow String HintUnlockRow.id
  /-- `files`, and the directory. -/
  files : FileWorld
  notifications : NotificationTable
  /-- The rate limiter. -/
  requests : String → List ℤ
  /-- What was sent to the channel. -/
  sent : List Notification
  /-- The faults of the calls to come. -/
  faults : List (Option Failure)

namespace Server

variable (B : Backend) (s : Server)

/-- The account with an id. -/
def account (id : AccountId) : Option Account := (s.db.tables.accounts.find? id).map mapAccount

/-- The team of a row. -/
def team (row : TeamRow) : Team := mapTeam row (s.db.tables.memberIds row.id)

/-- A statement of the account and team repositories. -/
def performQuery (q : Query) : q.Resp × Server :=
  match q.perform B.refusal s.db with
  | .ok (value, db) => (.ok value, { s with db := db })
  | .error e => (.error e, s)

/-- A statement of the challenge repository. -/
def performChallenge (st : Pg.ChallengeRepo.Statement) : st.Resp × Server :=
  match Pg.ChallengeRepo.result B.refusal s.challenges st with
  | .ok (value, challenges) => (.ok value, { s with challenges := challenges })
  | .error e => (.error e, s)

/-- A call of the file service. -/
def performFile (op : FileOp) : Except Failure op.Value × Server :=
  match op.perform B.refusal s.files with
  | .ok (value, files) => (.ok value, { s with files := files })
  | .error e => (.error e, s)

/-- A call of the notification service. -/
def performNotice : (op : NoticeOp) → op.Resp × Server
  | .accountFindById id => (Except.ok (s.account id), s)
  | .accountFindAll => (Except.ok (s.db.tables.accounts.rows.map mapAccount), s)
  | .submissionFindAll => (Except.ok s.challenges.submissions, s)
  | .notificationSave n =>
    match s.notifications.save B.refusal n with
    | .ok notifications => (Except.ok (), { s with notifications := notifications })
    | .error e => (Except.error e, s)
  | .notificationListRecent limit => (Except.ok (s.notifications.listRecent limit), s)
  | .send n => ((), { s with sent := s.sent ++ [n] })

/-- A call of the services that the players' handlers use. -/
def performRepo : (op : RepoOp) → op.Resp × Server
  | .challengeFindById id =>
    match s.challenges.challenges.find? id with
    | some row => (((Pg.ChallengeRepo.mapChallenge B.fromValue row).map some).mapError .internal, s)
    | none => (.ok none, s)
  | .challengeFindAll =>
    ((s.challenges.challenges.rows.mapM (Pg.ChallengeRepo.mapChallenge B.fromValue)).mapError
      .internal, s)
  | .findActiveFlag challengeId teamId accountId =>
    (.ok (B.activeFlag challengeId teamId accountId), s)
  | .submissionFindAll => (.ok s.challenges.submissions, s)
  | .submissionFindByTeam teamId =>
    (.ok (s.challenges.submissions.filter fun sub => sub.teamId = some teamId), s)
  | .submissionSave sub =>
    (.ok (), { s with challenges :=
      { s.challenges with submissions := s.challenges.submissions ++ [sub] } })
  | .teamFindById id => (.ok ((s.db.tables.teams.find? id).map s.team), s)
  | .teamFindAll => (.ok (s.db.tables.teams.rows.map s.team), s)
  | .hintFindAll => (.ok (s.hintUnlocks.rows.map mapHintUnlock), s)
  | .hintFindFor challengeId teamId accountId =>
    (.ok (PgStore.findFor s.hintUnlocks.rows challengeId teamId accountId), s)
  | .hintSave unlock =>
    match s.hintUnlocks.insert (.ofUnlock unlock) with
    | some hintUnlocks => (.ok (), { s with hintUnlocks := hintUnlocks })
    | none => (.error (.conflict "auth-username-taken"), s)

/-- The requests of a key that still count. -/
def recent (key : String) (windowSecs now : ℤ) : List ℤ :=
  (s.requests key).filter fun ts => now - ts < windowSecs

/-- A call of the players' handlers. -/
def performApp : (op : AppOp) → op.Resp × Server
  | .accountFindById id => (Except.ok (s.account id), s)
  | .checkLimit key limit windowSecs now =>
    let kept := s.recent key windowSecs now
    let times := if kept.length < limit then kept ++ [now] else kept
    (decide (kept.length < limit), { s with requests := Function.update s.requests key times })
  | .repo op => s.performRepo B op
  | .broadcast n => ((), { s with sent := s.sent ++ [n] })

/-- **What a call does** when it does not fail. -/
def perform : (op : ServerOp) → op.Resp × Server
  | .query q => s.performQuery B q
  | .challenge st => s.performChallenge B st
  | .file op => s.performFile B op
  | .notice op => s.performNotice B op
  | .app op => s.performApp B op

end Server

/-- How a call fails; `none` if it uses the memory of the server only. -/
def ServerOp.failed (f : Failure) : (op : ServerOp) → Option op.Resp
  | .query _ => some (Except.error f.err)
  | .challenge _ => some (Except.error f.err)
  | .file _ => some (Except.error f)
  | .notice (.accountFindById _) => some (Except.error f.err)
  | .notice .accountFindAll => some (Except.error f.err)
  | .notice .submissionFindAll => some (Except.error f.err)
  | .notice (.notificationSave _) => some (Except.error f.err)
  | .notice (.notificationListRecent _) => some (Except.error f.err)
  | .notice (.send _) => none
  | .app (.accountFindById _) => some (Except.error f.err)
  | .app (.checkLimit _ _ _ _) => none
  | .app (.repo _) => some (Except.error f.err)
  | .app (.broadcast _) => none

namespace Server

variable (B : Backend) (s : Server)

/-- The first fault, if the call is to fail. -/
def fault (op : ServerOp) : Option op.Resp := s.faults.head?.join.bind fun f => op.failed f

/-- A call: it fails if it is to, and else does what it does. -/
def serve (op : ServerOp) : op.Resp × Server :=
  match s.fault op with
  | some r => (r, { s with faults := s.faults.tail })
  | none => ({ s with faults := s.faults.tail } : Server).perform B op

/-- The server. -/
def handler : Handler ServerOp ServerOp.Resp Server where
  answer s op := (s.serve B op).1
  next s op := (s.serve B op).2

end Server

/-! ## What a call leaves -/

/-- A statement on the challenges stores no submission. -/
theorem Pg.ChallengeRepo.submissions_of_result {refusal : String} {tables tables' : ChallengeTables}
    {st : Pg.ChallengeRepo.Statement} {value : st.Value}
    (h : Pg.ChallengeRepo.result refusal tables st = .ok (value, tables')) :
    tables'.submissions ⊆ tables.submissions := by
  cases st with
  | select id =>
    cases h
    exact List.Subset.refl _
  | insert binds =>
    rw [Pg.ChallengeRepo.result] at h
    split_ifs at h
    split at h
    · cases h
    · split at h
      · cases h
      · cases h
        exact List.Subset.refl _
  | update binds =>
    rw [Pg.ChallengeRepo.result] at h
    split_ifs at h
    split at h
    · cases h
      exact List.Subset.refl _
    · split at h
      · cases h
      · cases h
        exact List.Subset.refl _
  | deleteSubmissions challengeId =>
    cases h
    exact List.filter_subset_self _
  | delete id =>
    cases h
    exact List.Subset.refl _

namespace Server

variable {B : Backend} {s : Server}

/-- A call fails and leaves the tables, or does what it does. -/
theorem serve_cases (op : ServerOp) :
    (∃ f r, op.failed f = some r ∧ s.serve B op = (r, { s with faults := s.faults.tail })) ∨
      s.serve B op = ({ s with faults := s.faults.tail } : Server).perform B op := by
  rw [serve, fault]
  cases s.faults.head?.join with
  | none => exact .inr rfl
  | some f =>
    rw [Option.bind_some]
    cases hfailed : op.failed f with
    | none => exact .inr rfl
    | some r => exact .inl ⟨f, r, hfailed, rfl⟩

/-- A statement of the account and team repositories fails, or has its result. -/
theorem answer_query (q : Query) :
    (∃ e, (handler B).answer s (.query q) = .error e) ∨
      ∃ value, (handler B).answer s (.query q) = .ok value ∧
        q.perform B.refusal s.db = .ok (value, ((handler B).next s (.query q)).db) := by
  rcases serve_cases (B := B) (s := s) (.query q) with ⟨f, r, hfailed, heq⟩ | heq
  · cases hfailed
    exact .inl ⟨f.err, congrArg Prod.fst heq⟩
  · have hanswer : (handler B).answer s (.query q) = _ := congrArg Prod.fst heq
    have hnext : ((handler B).next s (.query q)).db = _ := congrArg (fun p => p.2.db) heq
    simp only [perform, performQuery] at hanswer hnext
    cases hresult : q.perform B.refusal s.db with
    | error e =>
      rw [hresult] at hanswer
      exact .inl ⟨e, hanswer⟩
    | ok value =>
      rw [hresult] at hanswer hnext
      exact .inr ⟨value.1, hanswer, by rw [hnext]⟩

/-- The account that a handler reads. -/
theorem answer_accountFindById (id : AccountId) :
    (∃ e, (handler B).answer s (.app (.accountFindById id)) = Except.error e) ∨
      (handler B).answer s (.app (.accountFindById id)) = Except.ok (s.account id) := by
  rcases serve_cases (B := B) (s := s) (.app (.accountFindById id)) with ⟨f, r, hfailed, heq⟩ | heq
  · cases hfailed
    exact .inl ⟨f.err, congrArg Prod.fst heq⟩
  · exact .inr (congrArg Prod.fst heq)

/-- **Where the rows of the accounts, the teams, the submissions and the unlocks come from**:
they were there before the call, or it wrote them. -/
structure Leaves (B : Backend) (s : Server) (op : ServerOp) (s' : Server) : Prop where
  db : s'.db = s.db ∨
    ∃ q value, op = .query q ∧ q.perform B.refusal s.db = .ok (value, s'.db)
  submissions : ∀ sub ∈ s'.challenges.submissions,
    sub ∈ s.challenges.submissions ∨ op = .app (.repo (.submissionSave sub))
  unlocks : ∀ row ∈ s'.hintUnlocks.rows, row ∈ s.hintUnlocks.rows ∨
    ∃ unlock, op = .app (.repo (.hintSave unlock)) ∧ row = .ofUnlock unlock

/-- A call that writes none of these tables. -/
theorem Leaves.same {op : ServerOp} {s' : Server} (hdb : s'.db = s.db)
    (hsubs : s'.challenges.submissions ⊆ s.challenges.submissions)
    (hunlocks : s'.hintUnlocks = s.hintUnlocks) : Leaves B s op s' :=
  ⟨.inl hdb, fun _ h => .inl (hsubs h), fun _ h => .inl (hunlocks ▸ h)⟩

theorem leaves_performQuery (q : Query) : Leaves B s (.query q) (s.performQuery B q).2 := by
  rw [performQuery]
  cases hresult : q.perform B.refusal s.db with
  | error e => exact .same rfl (List.Subset.refl _) rfl
  | ok value => exact ⟨.inr ⟨q, value.1, rfl, hresult⟩, fun _ h => .inl h, fun _ h => .inl h⟩

theorem leaves_performChallenge (st : Pg.ChallengeRepo.Statement) :
    Leaves B s (.challenge st) (s.performChallenge B st).2 := by
  rw [performChallenge]
  cases hresult : Pg.ChallengeRepo.result B.refusal s.challenges st with
  | error e => exact .same rfl (List.Subset.refl _) rfl
  | ok value => exact .same rfl (Pg.ChallengeRepo.submissions_of_result hresult) rfl

theorem leaves_performFile (op : FileOp) : Leaves B s (.file op) (s.performFile B op).2 := by
  rw [performFile]
  cases op.perform B.refusal s.files <;> exact .same rfl (List.Subset.refl _) rfl

theorem leaves_performNotice (op : NoticeOp) :
    Leaves B s (.notice op) (s.performNotice B op).2 := by
  cases op with
  | notificationSave n =>
    rw [performNotice]
    cases s.notifications.save B.refusal n <;> exact .same rfl (List.Subset.refl _) rfl
  | _ => exact .same rfl (List.Subset.refl _) rfl

theorem leaves_performRepo (op : RepoOp) :
    Leaves B s (.app (.repo op)) (s.performRepo B op).2 := by
  cases op with
  | challengeFindById id =>
    rw [performRepo]
    cases s.challenges.challenges.find? id <;> exact .same rfl (List.Subset.refl _) rfl
  | submissionSave sub =>
    refine ⟨.inl rfl, fun sub' h => (List.mem_append.mp h).imp id fun hnew => ?_,
      fun _ h => .inl h⟩
    rw [List.mem_singleton.mp hnew]
  | hintSave unlock =>
    rw [performRepo]
    cases hinsert : s.hintUnlocks.insert (.ofUnlock unlock) with
    | none => exact .same rfl (List.Subset.refl _) rfl
    | some hintUnlocks =>
      refine ⟨.inl rfl, fun _ h => .inl h, fun row h => ?_⟩
      exact ((Table.mem_insert hinsert).1 row |>.mp h).imp id fun hrow => ⟨unlock, rfl, hrow⟩
  | _ => exact .same rfl (List.Subset.refl _) rfl

theorem leaves_perform (op : ServerOp) : Leaves B s op (s.perform B op).2 := by
  cases op with
  | query q => exact leaves_performQuery q
  | challenge st => exact leaves_performChallenge st
  | file op => exact leaves_performFile op
  | notice op => exact leaves_performNotice op
  | app op =>
    cases op with
    | repo op => exact leaves_performRepo op
    | _ => exact .same rfl (List.Subset.refl _) rfl

/-- **What every call leaves.** -/
theorem leaves_next (op : ServerOp) : Leaves B s op ((handler B).next s op) := by
  rcases serve_cases (B := B) (s := s) op with ⟨f, r, -, heq⟩ | heq
  · rw [show (handler B).next s op = _ from congrArg Prod.snd heq]
    exact .same rfl (List.Subset.refl _) rfl
  · rw [show (handler B).next s op = _ from congrArg Prod.snd heq]
    -- the faults that are left do not matter to the tables
    have h := leaves_perform (B := B) (s := { s with faults := s.faults.tail }) op
    exact ⟨h.db, h.submissions, h.unlocks⟩

end Server

end Cctf

import Cctf.Access.Safety

/-!
# What an endpoint can change

The tables of the server, the files and the limiter, and which of them an endpoint may touch,
whatever its request says and whatever it is answered on the way.

* `Area`, `Area.Same` — the parts of the server.
* `ServerOp.writes`, `same_next` — what a call changes.
* `Endpoint.writes`, `handle_writes` — **what an endpoint changes**; everything else it only
  reads.
* `changed_by` — what has changed in a run was changed by a request that may; `safe_run` is that
  `GET` requests change nothing, a CTFtime sign-in aside.
-/

namespace Cctf

open Program Pg

/-! ## Areas -/

/-- A part of the server. -/
inductive Area where
  | accounts
  | teams
  | challenges
  | submissions
  | unlocks
  | files
  | notifications
  | limiter
  | channel
  deriving DecidableEq

/-- Two servers agree on a part. -/
def Area.Same (s s' : Server) : Area → Prop
  | .accounts => s'.db.tables.accounts = s.db.tables.accounts
  | .teams => s'.db.tables.teams = s.db.tables.teams
  | .challenges => s'.challenges.challenges = s.challenges.challenges
  | .submissions => s'.challenges.submissions = s.challenges.submissions
  | .unlocks => s'.hintUnlocks = s.hintUnlocks
  | .files => s'.files = s.files
  | .notifications => s'.notifications = s.notifications
  | .limiter => s'.requests = s.requests
  | .channel => s'.sent = s.sent

theorem Area.Same.refl (s : Server) (area : Area) : area.Same s s := by
  cases area <;> rfl

theorem Area.Same.trans {s s' s'' : Server} {area : Area} (h : area.Same s s')
    (h' : area.Same s' s'') : area.Same s s'' := by
  cases area <;> exact Eq.trans h' h

/-! ## What a call changes -/

/-- The tables that a statement writes. -/
def Pg.Query.writes : Query → List Area
  | .base (.updateAccount _) => [.accounts]
  | .base (.updateTeam _) => [.teams]
  | .base (.clearMembers _) => [.accounts]
  | .base (.setMember _ _) => [.accounts]
  | .insertTeam _ => [.teams]
  | .insertAccount _ => [.accounts]
  | _ => []

/-- The same for the challenge repository. -/
def Pg.ChallengeRepo.Statement.writes : Pg.ChallengeRepo.Statement → List Area
  | .select _ => []
  | .deleteSubmissions _ => [.submissions]
  | _ => [.challenges]

/-- What a call changes. -/
def ServerOp.writes : ServerOp → List Area
  | .query q => q.writes
  | .challenge st => st.writes
  | .file (.read _) => []
  | .file (.selectFile _) => []
  | .file _ => [.files]
  | .notice (.notificationSave _) => [.notifications]
  | .notice (.send _) => [.channel]
  | .notice _ => []
  | .app (.checkLimit _ _ _ _) => [.limiter]
  | .app (.repo (.submissionSave _)) => [.submissions]
  | .app (.repo (.hintSave _)) => [.unlocks]
  | .app (.broadcast _) => [.channel]
  | .app _ => []

/-- What a statement of the challenge repository leaves. -/
theorem Pg.ChallengeRepo.result_same {refusal : String} {tables tables' : ChallengeTables}
    {st : Pg.ChallengeRepo.Statement} {value : st.Value}
    (h : Pg.ChallengeRepo.result refusal tables st = .ok (value, tables')) :
    (Area.challenges ∉ st.writes → tables'.challenges = tables.challenges) ∧
      (Area.submissions ∉ st.writes → tables'.submissions = tables.submissions) := by
  cases st with
  | select id =>
    cases h
    exact ⟨fun _ => rfl, fun _ => rfl⟩
  | insert binds =>
    refine ⟨fun hnot => absurd (List.mem_singleton_self _) hnot, fun _ => ?_⟩
    rw [Pg.ChallengeRepo.result] at h
    split_ifs at h
    split at h
    · cases h
    · split at h
      · cases h
      · cases h
        rfl
  | update binds =>
    refine ⟨fun hnot => absurd (List.mem_singleton_self _) hnot, fun _ => ?_⟩
    rw [Pg.ChallengeRepo.result] at h
    split_ifs at h
    split at h
    · cases h
      rfl
    · split at h
      · cases h
      · cases h
        rfl
  | deleteSubmissions challengeId =>
    cases h
    exact ⟨fun _ => rfl, fun hnot => absurd (List.mem_singleton_self _) hnot⟩
  | delete id =>
    cases h
    exact ⟨fun hnot => absurd (List.mem_singleton_self _) hnot, fun _ => rfl⟩

section

variable {B : Backend} {s : Server} {area : Area}

/-- A statement of the account and team repositories. -/
theorem same_performQuery {q : Query} (h : area ∉ q.writes) :
    area.Same s (s.performQuery B q).2 := by
  rw [Server.performQuery]
  cases hperform : q.perform B.refusal s.db with
  | error e => exact .refl s area
  | ok value =>
    obtain ⟨value, db⟩ := value
    cases q with
    | base st =>
      have htables := (tables_of_base (Query.store_of_perform hperform)).1
      cases area with
      | accounts =>
        show db.tables.accounts = s.db.tables.accounts
        rw [htables]
        cases st with
        | updateAccount row => exact absurd (List.mem_singleton_self _) h
        | clearMembers t => exact absurd (List.mem_singleton_self _) h
        | setMember t a => exact absurd (List.mem_singleton_self _) h
        | _ => rfl
      | teams =>
        show db.tables.teams = s.db.tables.teams
        rw [htables]
        cases st with
        | updateTeam row => exact absurd (List.mem_singleton_self _) h
        | _ => rfl
      | _ => rfl
    | insertTeam row =>
      obtain ⟨row', -, hresult⟩ := Query.perform_insertTeam hperform
      obtain ⟨teams, -, htables⟩ := insertTeam_ok hresult
      cases area with
      | teams => exact absurd (List.mem_singleton_self _) h
      | accounts =>
        show db.tables.accounts = s.db.tables.accounts
        rw [htables]
      | _ => rfl
    | insertAccount row =>
      obtain ⟨row', -, hresult⟩ := Query.perform_insertAccount hperform
      obtain ⟨accounts, -, htables⟩ := insertAccount_ok hresult
      cases area with
      | accounts => exact absurd (List.mem_singleton_self _) h
      | teams =>
        show db.tables.teams = s.db.tables.teams
        rw [htables]
      | _ => rfl
    | _ =>
      cases Query.store_of_perform hperform
      exact .refl s area

/-- A statement of the challenge repository. -/
theorem same_performChallenge {st : Pg.ChallengeRepo.Statement} (h : area ∉ st.writes) :
    area.Same s (s.performChallenge B st).2 := by
  rw [Server.performChallenge]
  cases hresult : Pg.ChallengeRepo.result B.refusal s.challenges st with
  | error e => exact .refl s area
  | ok value =>
    obtain ⟨value, tables⟩ := value
    have htables := Pg.ChallengeRepo.result_same hresult
    cases area with
    | challenges => exact htables.1 h
    | submissions => exact htables.2 h
    | _ => rfl

theorem same_performRepo {op : RepoOp} (h : area ∉ (ServerOp.app (.repo op)).writes) :
    area.Same s (s.performRepo B op).2 := by
  cases op with
  | challengeFindById id =>
    rw [Server.performRepo]
    cases s.challenges.challenges.find? id <;> exact .refl s area
  | submissionSave sub =>
    cases area with
    | submissions => exact absurd (List.mem_singleton_self _) h
    | _ => rfl
  | hintSave unlock =>
    rw [Server.performRepo]
    cases s.hintUnlocks.insert (.ofUnlock unlock) with
    | none => exact .refl s area
    | some hintUnlocks =>
      cases area with
      | unlocks => exact absurd (List.mem_singleton_self _) h
      | _ => rfl
  | _ => exact .refl s area

/-- A call that does not fail. -/
theorem same_perform {op : ServerOp} (h : area ∉ op.writes) :
    area.Same s (s.perform B op).2 := by
  cases op with
  | query q => exact same_performQuery h
  | challenge st => exact same_performChallenge h
  | file op =>
    show area.Same s (s.performFile B op).2
    rw [Server.performFile]
    cases hresult : op.perform B.refusal s.files with
    | error e => exact .refl s area
    | ok value =>
      cases area with
      | files =>
        cases op with
        | read id =>
          cases hresult
          rfl
        | selectFile id =>
          cases hresult
          rfl
        | _ => exact absurd (List.mem_singleton_self _) h
      | _ => rfl
  | notice op =>
    cases op with
    | notificationSave n =>
      show area.Same s (s.performNotice B (.notificationSave n)).2
      rw [Server.performNotice]
      cases s.notifications.save B.refusal n with
      | error e => exact .refl s area
      | ok notifications =>
        cases area with
        | notifications => exact absurd (List.mem_singleton_self _) h
        | _ => rfl
    | send n =>
      cases area with
      | channel => exact absurd (List.mem_singleton_self _) h
      | _ => rfl
    | _ => exact .refl s area
  | app op =>
    cases op with
    | accountFindById id => exact .refl s area
    | checkLimit key limit windowSecs now =>
      cases area with
      | limiter => exact absurd (List.mem_singleton_self _) h
      | _ => rfl
    | repo op => exact same_performRepo h
    | broadcast n =>
      cases area with
      | channel => exact absurd (List.mem_singleton_self _) h
      | _ => rfl

/-- **A call leaves what it does not write**, whether it fails or not. -/
theorem same_next {op : ServerOp} (h : area ∉ op.writes) :
    area.Same s ((Server.handler B).next s op) := by
  have hfaults : area.Same s { s with faults := s.faults.tail } := by
    cases area <;> rfl
  rcases Server.serve_cases (B := B) (s := s) op with ⟨f, r, -, heq⟩ | heq
  · rw [show (Server.handler B).next s op = _ from congrArg Prod.snd heq]
    exact hfaults
  · rw [show (Server.handler B).next s op = _ from congrArg Prod.snd heq]
    exact hfaults.trans (same_perform h)

end

/-! ## What an endpoint changes -/

/-- **The parts that an endpoint may change.** -/
def Endpoint.writes : Endpoint → List Area
  | .register .. => [.limiter, .accounts]
  | .login .. => [.limiter]
  | .oauthCallback .. => [.accounts, .teams]
  | .createChallenge _ => [.challenges]
  | .updateChallenge _ _ => [.challenges]
  | .deleteChallenge _ deleteSolves =>
    if deleteSolves then [.challenges, .submissions] else [.challenges]
  | .submitFlag _ => [.limiter, .submissions, .channel]
  | .unlockHint _ => [.unlocks]
  | .uploadFile .. => [.files]
  | .joinTeam .. => [.accounts, .teams]
  | .createNotification .. => [.notifications, .channel]
  | _ => []

/-- A call that changes nothing else. -/
def ServerOp.Within (areas : List Area) (op : ServerOp) : Prop := op.writes ⊆ areas

section

variable {α : Type} {areas : List Area} {D : Deployment} {req : HttpRequest}

theorem ServerOp.within_of_eq_nil {op : ServerOp} (h : op.writes = []) : op.Within areas := by
  rw [Within, h]
  exact List.nil_subset areas

theorem within_onDatabase {p : Program Query Query.Resp α}
    (h : p.Calls fun q => q.writes ⊆ areas) : (onDatabase p).Calls (ServerOp.Within areas) :=
  Calls.lift h

/-- Accounts and teams are all that a statement of their repositories writes. -/
theorem Pg.Query.writes_subset (q : Query) : q.writes ⊆ [.accounts, .teams] := by
  cases q with
  | base st => cases st <;> simp [writes]
  | _ => simp [writes]

theorem within_reads {p : Api α} (h : p.Calls AppOp.Reads) :
    (onApp p).Calls (ServerOp.Within areas) := by
  refine Calls.lift (h.imp fun op hop => ServerOp.within_of_eq_nil ?_)
  cases op with
  | repo op =>
    cases op with
    | submissionSave sub => cases hop
    | hintSave unlock => cases hop
    | _ => rfl
  | accountFindById id => rfl
  | checkLimit key limit windowSecs now => exact hop.elim
  | broadcast n => exact hop.elim

theorem within_notices {p : Notices α} (h : p.Calls NoticeOp.Reads) :
    (onNotices p).Calls (ServerOp.Within areas) := by
  refine Calls.lift (h.imp fun op hop => ServerOp.within_of_eq_nil ?_)
  cases op with
  | notificationSave n => exact hop.elim
  | send n => exact hop.elim
  | _ => rfl

/-- `AuthenticatedUser` changes nothing. -/
theorem authenticated_calls {ok : ServerOp → Prop} {rest : AccountId → Serving Reply}
    (h : ∀ id, (rest id).Calls ok) : (authenticated D req rest).Calls ok := by
  rw [authenticated]
  cases D.user req with
  | error e => trivial
  | ok id => exact h id

theorem accountById_calls (id : AccountId) :
    (ofSql (Pg.AccountRepo.findById id)).run.Calls fun q => q.writes ⊆ areas :=
  ⟨List.nil_subset areas, fun r => by cases r <;> trivial⟩

/-- `AdminUser` changes nothing. -/
theorem administrator_calls {rest : Serving Reply} (h : rest.Calls (ServerOp.Within areas)) :
    (administrator D req rest).Calls (ServerOp.Within areas) := by
  refine authenticated_calls fun id => Calls.bind (fun found => ?_)
    (within_onDatabase (accountById_calls id))
  cases found.toOption.join with
  | none => trivial
  | some account =>
    show (if account.role ≠ .admin then _ else _ : Serving Reply).Calls _
    exact Calls.ite trivial h

theorem authLimited_calls {checkedAt : ℤ} {rest : Serving Reply}
    (hlimiter : Area.limiter ∈ areas) (h : rest.Calls (ServerOp.Within areas)) :
    (authLimited D req checkedAt rest).Calls (ServerOp.Within areas) := by
  refine Calls.bind (fun allowed => ?_) ⟨List.cons_subset.mpr ⟨hlimiter, List.nil_subset _⟩,
    fun _ => trivial⟩
  cases allowed with
  | false => trivial
  | true => exact h

/-- A registration reads a name and stores an account. -/
theorem register_calls (hashPassword : String → Option String) (fresh : Fresh)
    (username : String) (email : Option String) (password : String) :
    (Cctf.register hashPassword fresh username email password).run.Calls
      fun q => q.writes ⊆ [.limiter, .accounts] := by
  refine Calls.bind_except (m := repo (Pg.AccountRepo.findByUsername username)) ?_ fun taken => ?_
  · exact ⟨List.nil_subset _, fun r => by cases r <;> trivial⟩
  · simp only
    split_ifs
    · trivial
    · refine Calls.bind_except trivial fun hashed => ?_
      refine Calls.bind_except (m := repo (Pg.AccountRepo.save _)) ?_ fun _ => trivial
      exact ⟨by simp [Pg.Query.writes], fun r => by cases r <;> trivial⟩

theorem within_of_isRead {op : RepoOp} (h : op.isRead = true) :
    (ServerOp.app (.repo op)).Within areas := by
  refine ServerOp.within_of_eq_nil ?_
  cases op with
  | submissionSave sub => cases h
  | hintSave unlock => cases h
  | _ => rfl

/-- Telling of a solve goes to the channel. -/
theorem within_of_tells {op : AppOp} (h : op.Tells) (hchannel : Area.channel ∈ areas) :
    (ServerOp.app op).Within areas := by
  cases op with
  | repo op => exact within_of_isRead h
  | broadcast n => exact List.cons_subset.mpr ⟨hchannel, List.nil_subset _⟩
  | checkLimit key limit windowSecs now => exact h.elim
  | accountFindById id => exact List.nil_subset _

theorem within_of_reads {op : AppOp} (h : op.Reads) : (ServerOp.app op).Within areas := by
  cases op with
  | repo op => exact within_of_isRead h
  | accountFindById id => exact List.nil_subset _
  | checkLimit key limit windowSecs now => exact h.elim
  | broadcast n => exact h.elim

/-- The calls of `submit_flag`. -/
theorem within_submitFlag (P : Platform) (submit : SubmitRequest) :
    (onApp (Api.submitFlag P submit)).Calls
      (ServerOp.Within [.limiter, .submissions, .channel]) := by
  have hlimiter : ∀ key limit windowSecs now,
      (ServerOp.app (.checkLimit key limit windowSecs now)).Within
        [.limiter, .submissions, .channel] := fun _ _ _ _ => by
    simp [ServerOp.Within, ServerOp.writes]
  refine Calls.lift (Calls.bind (fun allowed => ?_) ⟨hlimiter _ _ _ _, fun _ => trivial⟩)
  cases allowed with
  | false => trivial
  | true =>
    refine Calls.bind (fun allowed => ?_) ⟨hlimiter _ _ _ _, fun _ => trivial⟩
    cases allowed with
    | false => trivial
    | true =>
      refine Calls.bind (fun found => ?_) ⟨List.nil_subset _, fun _ => trivial⟩
      rcases found with e | _ | account
      · trivial
      · trivial
      refine Calls.bind (fun locked => ?_)
        ((lockedFor_calls _ _).imp fun op hop => within_of_reads hop)
      cases locked with
      | true => trivial
      | false =>
        refine Calls.bind (fun res => ?_) (calls_service (submitFlag_calls _
          (fun _ hop => within_of_isRead hop) (fun sub _ _ => ?_) _ _ _ _ _))
        · exact (answerSubmission_calls P submit res).imp fun _ hop =>
            within_of_tells hop (by decide)
        · simp [ServerOp.Within, ServerOp.writes]

/-- The calls of `unlock_hint`. -/
theorem within_unlockHint (P : Platform) (unlock : UnlockHintRequest) :
    (onApp (Api.unlockHint P unlock)).Calls (ServerOp.Within [.unlocks]) := by
  refine Calls.lift (Calls.bind (fun found => ?_) ⟨List.nil_subset _, fun _ => trivial⟩)
  rcases found with e | _ | account
  · trivial
  · trivial
  refine Calls.bind_pure (calls_service (unlockHint_calls _ _ _
    (fun _ hop => within_of_isRead hop) fun _ _ _ => ?_)) _
  simp [ServerOp.Within, ServerOp.writes]

/-- A team is looked up. -/
theorem teamById_calls (id : TeamId) :
    (ofSql (Pg.TeamRepo.findById id)).run.Calls fun q => q.writes ⊆ areas := by
  refine Calls.lift (Calls.bind_except (m := execute (.selectTeam id))
    ⟨List.nil_subset _, fun _ => trivial⟩ fun found => ?_)
  cases found with
  | none => trivial
  | some row =>
    exact Calls.bind_except (m := execute (.selectMembers row.id))
      ⟨List.nil_subset _, fun _ => trivial⟩ fun _ => trivial

/-- The calls of `delete_challenge`. -/
theorem within_deleteChallenge (id : String) (deleteSolves : Bool) :
    (onChallenges (Pg.ChallengeRepo.delete id deleteSolves).run).Calls
      (ServerOp.Within (Endpoint.deleteChallenge id deleteSolves).writes) := by
  cases deleteSolves with
  | true =>
    refine Calls.lift (Calls.bind_except (m := Pg.ChallengeRepo.execute (.deleteSubmissions id))
      ⟨?_, fun _ => trivial⟩ fun _ =>
        Calls.bind_except (m := Pg.ChallengeRepo.execute (.delete id)) ⟨?_, fun _ => trivial⟩
          fun _ => trivial)
    · simp [ServerOp.Within, ServerOp.writes, Pg.ChallengeRepo.Statement.writes, Endpoint.writes]
    · simp [ServerOp.Within, ServerOp.writes, Pg.ChallengeRepo.Statement.writes, Endpoint.writes]
  | false =>
    refine Calls.lift (Calls.bind_except (m := Pg.ChallengeRepo.execute (.delete id))
      ⟨?_, fun _ => trivial⟩ fun _ => trivial)
    simp [ServerOp.Within, ServerOp.writes, Pg.ChallengeRepo.Statement.writes, Endpoint.writes]

end

/-- **An endpoint changes only what it may**, whatever it is answered. -/
theorem handle_writes (D : Deployment) (req : HttpRequest) :
    (D.handle req).Calls (ServerOp.Within req.endpoint.writes) := by
  rw [Deployment.handle]
  cases req.endpoint with
  | register salt fresh checkedAt username email password =>
    refine authLimited_calls List.mem_cons_self (Calls.bind (fun r => ?_)
      (within_onDatabase (register_calls _ _ _ _ _)))
    cases r <;> trivial
  | login checkedAt username password now =>
    refine authLimited_calls List.mem_cons_self (Calls.bind (fun r => ?_) (within_onDatabase ?_))
    · cases r <;> trivial
    · rw [run_login]
      exact ⟨List.nil_subset _, fun _ => trivial⟩
  | oauthUrl => trivial
  | oauthCallback ctftime rounds fresh code =>
    refine Calls.bind (fun r => ?_)
      (within_onDatabase (Calls.of_forall Pg.Query.writes_subset _))
    rcases r with e | _ | token <;> trivial
  | listChallenges now =>
    exact authenticated_calls fun _ => (within_reads (listChallenges_calls _ _)).bind_pure _
  | createChallenge challenge =>
    refine administrator_calls (Calls.bind (fun r => ?_) (Calls.lift
      (Calls.bind_except (m := Pg.ChallengeRepo.execute _) ⟨List.Subset.refl _, fun _ => trivial⟩
        fun _ => trivial)))
    cases r <;> trivial
  | getChallenge id now =>
    exact authenticated_calls fun _ => (within_reads (getChallenge_calls _ _ _)).bind_pure _
  | updateChallenge id challenge =>
    refine administrator_calls (Calls.bind (fun r => ?_) (Calls.lift
      (Calls.bind_except (m := Pg.ChallengeRepo.execute _) ⟨List.Subset.refl _, fun _ => trivial⟩
        fun _ => trivial)))
    cases r <;> trivial
  | deleteChallenge id deleteSolves =>
    refine administrator_calls (Calls.bind (fun r => ?_) (within_deleteChallenge id deleteSolves))
    cases r <;> trivial
  | submitFlag submit =>
    exact authenticated_calls fun _ => (within_submitFlag _ _).bind_pure _
  | unlockHint unlock =>
    exact authenticated_calls fun _ => (within_unlockHint _ _).bind_pure _
  | uploadFile uuid fields now =>
    refine administrator_calls ?_
    rcases uploaded fields with _ | ⟨name, contentType, bytes⟩
    · trivial
    · refine Calls.bind (fun r => ?_) (Calls.lift (Calls.of_forall (fun op => ?_) _))
      · cases r <;> trivial
      · cases op <;> simp [ServerOp.Within, ServerOp.writes, Endpoint.writes]
  | downloadFile id =>
    refine authenticated_calls fun _ => Calls.bind (fun r => ?_)
      (Calls.lift ((download_calls id).imp fun op hop => ?_))
    · rcases r with e | ⟨file, bytes⟩ <;> trivial
    · cases op with
      | read id => exact List.nil_subset _
      | selectFile id => exact List.nil_subset _
      | _ => exact hop.elim
  | scoreboard bracket =>
    refine Calls.bind (fun r => ?_) (within_reads (calls_service (getScoreboard_calls _ _ _)))
    cases r <;> trivial
  | exportScoreboard =>
    refine Calls.bind (fun r => ?_) (within_reads (calls_service (exportCtftime_calls _ _)))
    cases r <;> trivial
  | createInvite teamId lifespanHours now =>
    refine authenticated_calls fun id => Calls.bind (fun r => ?_)
      (within_onDatabase (teamById_calls _))
    rcases r with e | _ | team
    · trivial
    · trivial
    · show (if team.captainId ≠ id then _ else _ : Serving Reply).Calls _
      exact Calls.ite trivial trivial
  | joinTeam scripts token now =>
    exact authenticated_calls fun _ => (within_onDatabase (Calls.lift
      (Calls.of_forall (fun st => Pg.Query.writes_subset (.base st)) _))).bind_pure _
  | listNotifications => exact (within_notices (listNotifications_calls _ _ _)).bind_pure _
  | createNotification id now payload =>
    refine administrator_calls (Calls.bind_pure (Calls.lift (Calls.of_forall (fun op => ?_) _)) _)
    cases op <;> simp [ServerOp.Within, ServerOp.writes, Endpoint.writes]
  | notificationsStream => exact (within_notices (notificationsStream_calls _ _ _)).bind_pure _

/-! ## Runs -/

section

variable {ι : Type} [DecidableEq ι] {D : Deployment} {B : Backend} {req : ι → HttpRequest}
  {s₀ : Server} {schedule : List ι}

/-- A part that no request may change is as it was. -/
theorem same_after {area : Area} (h : ∀ i ∈ schedule, area ∉ (req i).endpoint.writes) :
    area.Same s₀ (D.after B req s₀ schedule).store := by
  refine Pool.store_run (J := fun s => area.Same s₀ s) (P := D.serving req s₀)
    (fun i => handle_writes D (req i)) ?_ (.refl s₀ area)
  intro s i hi op hsame hwithin
  exact hsame.trans (same_next fun hmem => h i hi (hwithin hmem))

/-- **What has changed in a run, a request has changed that may**: whatever the requests say,
whoever sends them, and however their calls are interleaved. -/
theorem changed_by {area : Area} (h : ¬ area.Same s₀ (D.after B req s₀ schedule).store) :
    ∃ i ∈ schedule, area ∈ (req i).endpoint.writes := by
  by_contra hnone
  exact h (same_after fun i hi hmem => hnone ⟨i, hi, hmem⟩)

/-- An announcement changes the list of notifications. -/
theorem changed_by_announces :
    ¬ Area.notifications.Same smallServer
        (smallDeployment.after smallBackend announces smallServer [(), ()]).store ∧
      ∃ i ∈ [(), ()], Area.notifications ∈ (announces i).endpoint.writes := by
  have hchanged : ¬ Area.notifications.Same smallServer
      (smallDeployment.after smallBackend announces smallServer [(), ()]).store := by
    intro hsame
    have hlength := congrArg (fun table => table.rows.length) hsame
    exact absurd hlength (by decide +kernel)
  exact ⟨hchanged, changed_by hchanged⟩

/-- A `GET` request is only read from, a CTFtime sign-in aside. -/
theorem Endpoint.writes_of_get {e : Endpoint} (hget : e.route.1 = "GET")
    (hcallback : ∀ ctftime rounds fresh code, e ≠ .oauthCallback ctftime rounds fresh code) :
    e.writes = [] := by
  cases e with
  | oauthCallback ctftime rounds fresh code => exact absurd rfl (hcallback _ _ _ _)
  | _ => first | rfl | exact absurd hget (by simp [route])

/-- Servers that agree on every part. -/
theorem Area.eq_of_same {s s' : Server} (h : ∀ area : Area, area.Same s s') :
    s' = { s with faults := s'.faults } := by
  obtain ⟨⟨⟨teams, accounts⟩, _, _⟩, ⟨challenges, submissions⟩, unlocks, files, notifications,
    requests, sent, faults⟩ := s
  obtain ⟨⟨⟨teams', accounts'⟩, _, _⟩, ⟨challenges', submissions'⟩, unlocks', files',
    notifications', requests', sent', faults'⟩ := s'
  obtain rfl : teams' = teams := h .teams
  obtain rfl : accounts' = accounts := h .accounts
  obtain rfl : challenges' = challenges := h .challenges
  obtain rfl : submissions' = submissions := h .submissions
  obtain rfl : unlocks' = unlocks := h .unlocks
  obtain rfl : files' = files := h .files
  obtain rfl : notifications' = notifications := h .notifications
  obtain rfl : requests' = requests := h .limiter
  obtain rfl : sent' = sent := h .channel
  rfl

/-- **`GET` requests change nothing**, if none of them is a sign-in. -/
theorem safe_run (hget : ∀ i ∈ schedule, (req i).endpoint.route.1 = "GET" ∧
      ∀ ctftime rounds fresh code,
        (req i).endpoint ≠ .oauthCallback ctftime rounds fresh code) :
    (D.after B req s₀ schedule).store =
      { s₀ with faults := (D.after B req s₀ schedule).store.faults } := by
  refine Area.eq_of_same fun area => same_after fun i hi => ?_
  rw [Endpoint.writes_of_get (hget i hi).1 (hget i hi).2]
  exact List.not_mem_nil

end

end Cctf

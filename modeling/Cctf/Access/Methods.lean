import Cctf.Access.Promises

/-!
# What the methods of the repositories learn

The methods of the account and team repositories, and the services on top of them, as programs
that learn facts: what each may call, by what it has read, and what it knows at its end.

* `queries`, `statements` — the knowledge of a request, for the two kinds of SQL programs.
* `learns_accountById`, `learns_teamById` and so on — what a method reads.
* `learns_updateAccount`, `learns_updateTeam`, `learns_saveTeam`, `learns_saveAccount` — what a
  method needs to know to write.
* `register_learns`, `login_learns`, `callback_learns`, `join_learns` — the services.
-/

namespace Cctf

open Program Pg Knowledge Checks

section

variable (D : Deployment) (req : HttpRequest)

/-- What a request knows, in programs of the account and team repositories. -/
def Deployment.queries : Knowledge Query Query.Resp Fact where
  may q r := ServerOp.Expected (.query q) r
  shown q r := ServerOp.shown (.query q) r
  guard := D.Writes req

/-- The same for the methods of `Statement`s. -/
def Deployment.statements : Knowledge Statement Statement.Resp Fact where
  may st r := ServerOp.Expected (.query (.base st)) r
  shown st r := ServerOp.shown (.query (.base st)) r
  guard known st := D.Writes req known (.base st)

/-- The request brings the account to the team, by what is known. -/
abbrev Deployment.Brought (known : List Fact) (teamId : TeamId) (accountId : AccountId) : Prop :=
  D.Comes req (fun row => Fact.team row ∈ known) teamId accountId

end

/-! ## Calls -/

section

variable {D : Deployment} {req : HttpRequest} {known known' : List Fact} {α : Type}

theorem Deployment.Comes.more {t : TeamId} {a : AccountId} (h : D.Brought req known t a)
    (hsub : known ⊆ known') : D.Brought req known' t a :=
  h.imp fun _ hrow => hsub hrow

/-- A statement, with `?`. -/
theorem learns_query {q : Query} {P : List Fact → q.Value → Prop} (hguard : D.Writes req known q)
    (hP : ∀ value, q.Expected value → P (q.shown value ++ known) value) :
    (D.queries req).LearnsOk known (query q) P := by
  refine Learns.call hguard fun r hr => Learns.pure fun value heq => ?_
  subst heq
  exact hP value hr

theorem learns_execute {st : Statement} {P : List Fact → st.Value → Prop}
    (hguard : D.Writes req known (.base st))
    (hP : ∀ value, (Query.base st).Expected value →
      P ((Query.base st).shown value ++ known) value) :
    (D.statements req).LearnsOk known (execute st) P := by
  refine Learns.call hguard fun r hr => Learns.pure fun value heq => ?_
  subst heq
  exact hP value hr

/-- A method of `Statement`s, on the database. -/
theorem learns_ofSql {m : Sql α} {P : List Fact → α → Prop}
    (h : (D.statements req).LearnsOk known m P) : (D.queries req).LearnsOk known (ofSql m) P := by
  have hlift : (D.queries req).Learns known (m.run.lift Query.base fun _ r => r)
      fun known' r => ∀ a, r = .ok a → P known' a := by
    refine Learns.lift ?_ ?_ ?_ h
    · exact fun _ _ hr => hr
    · exact fun _ _ => rfl
    · exact fun _ _ hguard => hguard
  exact hlift

/-- A method, in a service. -/
theorem learns_repo {m : StoreSql α} {P : List Fact → α → Prop}
    (h : (D.queries req).LearnsOk known m P) : (D.queries req).LearnsOk known (repo m) P := by
  refine Learns.bind (p := m.run) h fun known' r hsub hP => ?_
  exact Learns.pure fun a heq => hP a (mapError_eq_ok_iff.mp heq)

/-! ## What is read -/

theorem ofRow_some (row : AccountRow) :
    Fact.ofRow (some row) = Fact.ofAccount (mapAccount row) := by
  simp [Fact.ofRow]

/-- An account that is known, with the team it was on. -/
abbrev Knows (known : List Fact) (account : Account) : Prop := Fact.ofAccount account ⊆ known

theorem knows_append (row : AccountRow) :
    Knows (Fact.ofRow (some row) ++ known) (mapAccount row) := by
  rw [ofRow_some]
  exact List.subset_append_left _ _

theorem learns_accountById (id : AccountId) :
    (D.statements req).LearnsOk known (Pg.AccountRepo.findById id) fun known' found =>
      ∀ a, found = some a → a.id = id ∧ Knows known' a := by
  have hselect : (D.statements req).LearnsOk known (execute (.selectAccount id))
      fun known' (found : Option AccountRow) => ∀ row, found = some row →
        row.id = id ∧ Knows known' (mapAccount row) := by
    refine learns_execute trivial ?_
    rintro found hid row rfl
    exact ⟨hid row rfl, knows_append row⟩
  refine LearnsOk.bind hselect fun known' found _ hfound => LearnsOk.pure fun a ha => ?_
  obtain ⟨row, hrow, rfl⟩ := Option.map_eq_some_iff.mp ha
  exact hfound row hrow

theorem learns_findByUsername (username : String) :
    (D.queries req).LearnsOk known (Pg.AccountRepo.findByUsername username) fun known' found =>
      ∀ a, found = some a → a.username = username ∧ Knows known' a := by
  have hselect : (D.queries req).LearnsOk known (query (.selectAccountByUsername username))
      fun known' (found : Option AccountRow) => ∀ row, found = some row →
        row.username = username ∧ Knows known' (mapAccount row) := by
    refine learns_query trivial ?_
    rintro found hname row rfl
    exact ⟨hname row rfl, knows_append row⟩
  refine LearnsOk.bind hselect fun known' found _ hfound => LearnsOk.pure fun a ha => ?_
  obtain ⟨row, hrow, rfl⟩ := Option.map_eq_some_iff.mp ha
  exact hfound row hrow

theorem learns_findByCtftimeId (ctftimeId : UInt32) :
    (D.queries req).LearnsOk known (Pg.AccountRepo.findByCtftimeId ctftimeId) fun known' found =>
      ∀ a, found = some a → a.ctftimeId = some ctftimeId ∧ Knows known' a := by
  have hselect : (D.queries req).LearnsOk known
      (query (.selectAccountByCtftimeId ctftimeId.toInt32))
      fun known' (found : Option AccountRow) => ∀ row, found = some row →
        row.ctftimeId = some ctftimeId.toInt32 ∧ Knows known' (mapAccount row) := by
    refine learns_query trivial ?_
    rintro found hctftime row rfl
    exact ⟨hctftime row rfl, knows_append row⟩
  refine LearnsOk.bind hselect fun known' found _ hfound => LearnsOk.pure fun a ha => ?_
  obtain ⟨row, hrow, rfl⟩ := Option.map_eq_some_iff.mp ha
  obtain ⟨hctftime, hknows⟩ := hfound row hrow
  exact ⟨by simp [mapAccount, hctftime], hknows⟩

/-- A team that is known, with the members that it had. -/
structure KnowsTeam (known : List Fact) (team : Team) : Prop where
  row : Fact.team (.ofTeam team) ∈ known
  members : ∀ a ∈ team.memberIds, Fact.member team.id a ∈ known

/-- A row and the members that were read after it. -/
theorem knowsTeam_append {row : TeamRow} (memberIds : List AccountId)
    (hrow : Fact.team row ∈ known) :
    KnowsTeam (memberIds.map (Fact.member row.id) ++ known) (mapTeam row memberIds) := by
  refine ⟨?_, fun a ha => ?_⟩
  · rw [ofTeam_mapTeam]
    exact List.mem_append_right _ hrow
  · exact List.mem_append_left _ (List.mem_map_of_mem ha)

theorem learns_teamById (id : TeamId) :
    (D.statements req).LearnsOk known (Pg.TeamRepo.findById id) fun known' found =>
      ∀ team, found = some team → team.id = id ∧ KnowsTeam known' team := by
  have hselect : (D.statements req).LearnsOk known (execute (.selectTeam id))
      fun known' (found : Option TeamRow) => ∀ row, found = some row →
        row.id = id ∧ Fact.team row ∈ known' := by
    refine learns_execute trivial ?_
    rintro found hid row rfl
    exact ⟨hid row rfl, List.mem_append_left _ (List.mem_singleton.mpr rfl)⟩
  refine LearnsOk.bind hselect fun known' found _ hfound => ?_
  cases found with
  | none => exact LearnsOk.pure fun _ heq => nomatch heq
  | some row =>
    obtain ⟨hid, hrow⟩ := hfound row rfl
    have hmembers : (D.statements req).LearnsOk known' (execute (.selectMembers row.id))
        fun known'' (memberIds : List AccountId) => KnowsTeam known'' (mapTeam row memberIds) :=
      learns_execute trivial fun memberIds _ => knowsTeam_append memberIds hrow
    refine LearnsOk.bind hmembers fun known'' memberIds _ hknows => LearnsOk.pure ?_
    rintro team heq
    cases heq
    exact ⟨hid, hknows⟩

theorem learns_teamByCtftimeId (ctftimeId : UInt32) :
    (D.queries req).LearnsOk known (Pg.TeamRepo.findByCtftimeId ctftimeId) fun known' found =>
      ∀ team, found = some team → (TeamRow.ofTeam team).ctftimeId = some ctftimeId.toInt32 ∧
        KnowsTeam known' team := by
  have hselect : (D.queries req).LearnsOk known (query (.selectTeamByCtftimeId ctftimeId.toInt32))
      fun known' (found : Option TeamRow) => ∀ row, found = some row →
        row.ctftimeId = some ctftimeId.toInt32 ∧ Fact.team row ∈ known' := by
    refine learns_query trivial ?_
    rintro found hctftime row rfl
    exact ⟨hctftime row rfl, List.mem_append_left _ (List.mem_singleton.mpr rfl)⟩
  refine LearnsOk.bind hselect fun known' found _ hfound => ?_
  cases found with
  | none => exact LearnsOk.pure fun _ heq => nomatch heq
  | some row =>
    obtain ⟨hctftime, hrow⟩ := hfound row rfl
    have hmembers : (D.queries req).LearnsOk known' (query (.base (.selectMembers row.id)))
        fun known'' (memberIds : List AccountId) => KnowsTeam known'' (mapTeam row memberIds) :=
      learns_query trivial fun memberIds _ => knowsTeam_append memberIds hrow
    refine LearnsOk.bind hmembers fun known'' memberIds _ hknows => LearnsOk.pure ?_
    rintro team heq
    cases heq
    exact ⟨(congrArg TeamRow.ctftimeId (ofTeam_mapTeam row memberIds)).trans hctftime, hknows⟩

/-! ## What is written -/

/-- `AccountRepo::update` of an account that was read, on another team. -/
theorem learns_updateAccount {account : Account} {t : TeamId} (hknows : Knows known account)
    (hcomes : D.Brought req known t account.id) :
    (D.statements req).LearnsOk known
      (Pg.AccountRepo.update { account with teamId := some t }) fun _ _ => True := by
  refine LearnsOk.bind (learns_execute (P := fun _ _ => True) ⟨?_, ?_⟩ fun _ _ => trivial)
    fun _ _ _ _ => LearnsOk.pure trivial
  · rw [AccountRow.identity_ofAccount]
    exact hknows List.mem_cons_self
  · rintro t' heq
    cases heq
    exact hcomes

/-- The loop of `TeamRepo::update`. -/
theorem learns_setMembers {t : TeamId} {memberIds : List AccountId}
    (h : ∀ a ∈ memberIds, Fact.member t a ∈ known ∨ D.Brought req known t a) :
    (D.statements req).LearnsOk known (Pg.TeamRepo.setMembers t memberIds) fun _ _ => True := by
  induction memberIds generalizing known with
  | nil => exact LearnsOk.pure trivial
  | cons a rest ih =>
    refine LearnsOk.bind (learns_execute (P := fun _ _ => True) (h a List.mem_cons_self)
      fun _ _ => trivial) fun known' _ hsub _ => ih fun a' ha' => ?_
    exact (h a' (List.mem_cons_of_mem a ha')).imp (fun hmem => hsub hmem) fun hcomes =>
      hcomes.more hsub

/-- `TeamRepo::update` of a team that was read, with another member list. -/
theorem learns_updateTeam {team : Team} (hrow : Fact.team (.ofTeam team) ∈ known)
    (h : ∀ a ∈ team.memberIds, Fact.member team.id a ∈ known ∨ D.Brought req known team.id a) :
    (D.statements req).LearnsOk known (Pg.TeamRepo.update team) fun _ _ => True := by
  refine LearnsOk.bind (learns_execute (P := fun _ _ => True) hrow fun _ _ => trivial)
    fun known' _ hsub _ => ?_
  refine LearnsOk.bind (learns_execute (P := fun _ _ => True) trivial fun _ _ => trivial)
    fun known'' _ hsub' _ => learns_setMembers fun a ha => ?_
  exact (h a ha).imp (fun hmem => hsub' (hsub hmem))
    fun hcomes => hcomes.more (List.Subset.trans hsub hsub')

/-- The same, of a team with one account more. -/
theorem learns_addMember {team : Team} {accountId : AccountId} (hteam : KnowsTeam known team)
    (hcomes : D.Brought req known team.id accountId) :
    (D.statements req).LearnsOk known
      (Pg.TeamRepo.update { team with memberIds := team.memberIds ++ [accountId] })
      fun _ _ => True := by
  refine learns_updateTeam hteam.row fun a ha => ?_
  rcases List.mem_append.mp ha with hold | hnew
  · exact .inl (hteam.members a hold)
  · rw [List.mem_singleton.mp hnew]
    exact .inr hcomes

/-- `AccountRepo::save` of a player: what the columns keep of it is known. -/
theorem learns_saveAccount {account : Account} (hrole : account.role = .player)
    (hcomes : ∀ t, account.teamId = some t → D.Brought req known t account.id) :
    (D.queries req).LearnsOk known (Pg.AccountRepo.save account) fun known' _ =>
      ∃ row, (AccountRow.ofAccount account).kept = some row ∧ Knows known' (mapAccount row) := by
  refine LearnsOk.bind (learns_query (P := fun known' _ =>
    ∃ row, (AccountRow.ofAccount account).kept = some row ∧ Knows known' (mapAccount row))
    ⟨?_, hcomes⟩ fun _ hstored => ?_) fun _ _ _ hknows => LearnsOk.pure hknows
  · show (mapAccount (.ofAccount account)).role = .player
    rw [mapAccount_ofAccount, hrole]
  · obtain ⟨row, hkept⟩ := hstored
    refine ⟨row, hkept, ?_⟩
    show Fact.ofAccount (mapAccount row) ⊆
      Fact.ofRow (AccountRow.ofAccount account).kept ++ known
    rw [hkept]
    exact knows_append row

/-- Statements that need only what is known before them. -/
theorem learns_performAll {qs : List Query}
    (h : ∀ q ∈ qs, ∀ known', known ⊆ known' → D.Writes req known' q) :
    (D.queries req).LearnsOk known (Faults.performAll qs) fun _ _ => True := by
  induction qs generalizing known with
  | nil => exact LearnsOk.pure trivial
  | cons q qs ih =>
    refine LearnsOk.bind (learns_query (P := fun _ _ => True)
      (h q List.mem_cons_self known (List.Subset.refl _)) fun _ _ => trivial)
      fun known' _ hsub _ => ih fun q' hq' known'' hsub' => ?_
    exact h q' (List.mem_cons_of_mem q hq') known'' (List.Subset.trans hsub hsub')

/-- `TeamRepo::save` of the team of a profile: what the columns keep of it is known. -/
theorem learns_saveTeam {fresh : Fresh} {info : CtfTimeTeamInfo}
    (hbrings : req.Brings info fresh.accountId) :
    (D.queries req).LearnsOk known (Pg.TeamRepo.save (newTeam fresh info)) fun known' _ =>
      ∃ row, Fact.team row ∈ known' ∧ row.id = fresh.teamId ∧
        row.ctftimeId = some info.id.toInt32 := by
  refine LearnsOk.bind (learns_query (P := fun known' _ => ∃ row, Fact.team row ∈ known' ∧
    row.id = fresh.teamId ∧ row.ctftimeId = some info.id.toInt32) trivial fun _ hstored => ?_)
    fun known' _ _ hrow => ?_
  · obtain ⟨row, hkept⟩ := hstored
    obtain ⟨hid, -, hctftime⟩ := TeamRow.of_kept hkept
    refine ⟨row, List.mem_append_left _ ?_, hid, hctftime⟩
    show Fact.team row ∈ (TeamRow.ofTeam (newTeam fresh info)).kept.toList.map .team
    rw [hkept]
    exact List.mem_singleton_self _
  · obtain ⟨row, hmem, hid, hctftime⟩ := hrow
    refine (learns_performAll fun q hq known'' hsub => ?_).imp fun _ _ hsub _ =>
      ⟨row, hsub hmem, hid, hctftime⟩
    obtain ⟨a, ha, rfl⟩ := List.mem_map.mp hq
    obtain rfl := List.mem_singleton.mp ha
    exact .inr (.inr ⟨info, hbrings, row, hsub hmem, hid, hctftime⟩)

/-! ## The services -/

/-- **What is registered**: what the columns keep of the account is known, with a hash of its
password. -/
theorem register_learns (hashPassword : String → Option String) (fresh : Fresh)
    (username : String) (email : Option String) (password : String) :
    (D.queries req).LearnsOk known (Cctf.register hashPassword fresh username email password)
      fun known' account =>
        (∃ row, (AccountRow.ofAccount account).kept = some row ∧ Knows known' (mapAccount row)) ∧
        ∃ hashed, hashPassword password = some hashed ∧
          account = registeredAccount fresh username email hashed := by
  refine LearnsOk.bind (learns_repo (learns_findByUsername username))
    fun known' taken _ _ => ?_
  simp only
  split_ifs
  · exact LearnsOk.throw _
  · refine LearnsOk.bind (P := fun _ hashed => hashPassword password = some hashed)
      (LearnsOk.mk fun hashed hhash => ?_) fun _ hashed _ hhash => ?_
    · cases hpassword : hashPassword password with
      | none =>
        rw [hpassword] at hhash
        cases hhash
      | some hashed' =>
        rw [hpassword] at hhash
        exact congrArg some (Except.ok.inj hhash)
    · refine LearnsOk.bind (learns_repo (learns_saveAccount rfl fun _ heq => nomatch heq))
        fun _ _ _ hknows => LearnsOk.pure ⟨hknows, hashed, hhash, rfl⟩

/-- **Who gets a token for a password**: an account that is known, whose hash verifies it. -/
theorem login_learns (A : Argon2) (X : Jwt.Crates) (describe : Jwt.JwtError → String)
    (jwtSecret : List UInt8) (username password : String) (now : Int64) :
    (D.queries req).LearnsOk known (Cctf.login A X describe jwtSecret username password now)
      fun known' token => ∃ account storedHash, Knows known' account ∧
        account.username = username ∧ account.passwordHash = some storedHash ∧
        A.verifyPassword password storedHash = true ∧
        sessionTokenOf X jwtSecret account.id now = token := by
  refine LearnsOk.bind (learns_repo (learns_findByUsername username))
    fun known' found _ hfound => ?_
  rw [LearnsOk, login_rest]
  refine Learns.pure fun token htoken => ?_
  obtain ⟨account, storedHash, rfl, hhash, hverify, htoken⟩ := loginVerdict_eq_ok_iff.mp htoken
  obtain ⟨hname, hknows⟩ := hfound account rfl
  exact ⟨account, storedHash, hknows, hname, hhash, hverify, htoken⟩

/-- The team of a profile is known, and the request brings its account there. -/
theorem localTeam_learns {fresh : Fresh} {team : Option CtfTimeTeamInfo}
    (hbrings : ∀ info, team = some info → req.Brings info fresh.accountId) :
    (D.queries req).LearnsOk known (localTeam fresh team) fun known' teamId =>
      ∀ t, teamId = some t → D.Brought req known' t fresh.accountId := by
  cases team with
  | none => exact LearnsOk.pure fun _ heq => nomatch heq
  | some info =>
    refine LearnsOk.bind (learns_repo (learns_teamByCtftimeId info.id))
      fun known' found _ hfound => ?_
    cases found with
    | some team =>
      obtain ⟨hctftime, hteam⟩ := hfound team rfl
      refine LearnsOk.pure fun t heq => ?_
      cases heq
      exact .inr ⟨info, hbrings info rfl, _, hteam.row, rfl, hctftime⟩
    | none =>
      refine LearnsOk.bind (learns_repo (learns_saveTeam (hbrings info rfl)))
        fun known'' _ _ hrow => LearnsOk.pure fun t heq => ?_
      obtain ⟨row, hmem, hid, hctftime⟩ := hrow
      cases heq
      exact .inr ⟨info, hbrings info rfl, row, hmem, hid, hctftime⟩

theorem addToTeam_learns {accountId : AccountId} {teamId : Option TeamId}
    (hcomes : ∀ t, teamId = some t → D.Brought req known t accountId) :
    (D.queries req).LearnsOk known (addToTeam accountId teamId) fun _ _ => True := by
  cases teamId with
  | none => exact LearnsOk.pure trivial
  | some t =>
    refine LearnsOk.bind (learns_repo (learns_ofSql (learns_teamById t)))
      fun known' found hsub hfound => ?_
    cases found with
    | none => exact LearnsOk.pure trivial
    | some team =>
      obtain ⟨rfl, hteam⟩ := hfound team rfl
      simp only
      split_ifs
      · exact LearnsOk.pure trivial
      · exact learns_repo (learns_ofSql (learns_addMember hteam ((hcomes _ rfl).more hsub)))

/-- **A sign-up writes its own account and team.** -/
theorem signUp_learns {fresh : Fresh} {profile : CtfTimeUserProfile} (username : String)
    (hbrings : ∀ info, profile.team = some info → req.Brings info fresh.accountId) :
    (D.queries req).LearnsOk known (signUp fresh profile username) fun known' account =>
      ∃ stored : Account, stored.id = account.id ∧ stored.ctftimeId = some profile.id ∧
        Knows known' stored := by
  refine LearnsOk.bind (localTeam_learns hbrings) fun known' teamId _ hcomes => ?_
  refine LearnsOk.bind (learns_repo (learns_saveAccount rfl hcomes))
    fun known'' _ hsub hstored => ?_
  refine LearnsOk.bind (addToTeam_learns fun t ht => (hcomes t ht).more hsub)
    fun known''' _ hsub' _ => LearnsOk.pure ?_
  obtain ⟨row, hkept, hknows⟩ := hstored
  obtain ⟨hid, -, -, hctftime⟩ := AccountRow.of_kept hkept
  refine ⟨mapAccount row, hid, ?_, List.Subset.trans hknows hsub'⟩
  rw [mapAccount, hctftime]
  exact congrArg some (UInt32.toUInt32_toInt32 _)

/-- The loop over usernames only reads. -/
theorem freeName_learns (baseName checkName : String) (rounds suffix : ℕ) :
    (D.queries req).LearnsOk known (freeName baseName rounds checkName suffix)
      fun _ _ => True := by
  induction rounds generalizing known checkName suffix with
  | zero => exact LearnsOk.pure trivial
  | succ rounds ih =>
    refine LearnsOk.bind (learns_repo (learns_findByUsername checkName)) fun _ taken _ _ => ?_
    split_ifs
    · exact ih _ _
    · exact LearnsOk.pure trivial

/-- The token of an account. -/
theorem localToken_learns (X : Jwt.Crates) (jwtSecret : List UInt8) (fresh : Fresh)
    (account : Account) :
    (D.queries req).LearnsOk known (localToken X jwtSecret fresh account) fun _ token =>
      ∀ text, token = some text →
        sessionTokenOf X jwtSecret account.id fresh.issuedAt = text := by
  refine LearnsOk.mk fun token htoken text heq => ?_
  rw [issue_session] at htoken
  cases htoken
  exact Option.some.inj heq

/-- **Who gets a token for a code of CTFtime**: an account that is known, of the profile behind
the code. -/
theorem callback_learns (X : Jwt.Crates) {ctftime : Ctftime} (jwtSecret : List UInt8)
    {rounds : ℕ} {fresh : Fresh} {code : String}
    (hreq : req.endpoint = .oauthCallback ctftime rounds fresh code) :
    (D.queries req).LearnsOk known (handleCallback X ctftime jwtSecret rounds fresh code)
      fun known' token => ∀ text, token = some text → ∃ account profile, Knows known' account ∧
        fetchProfile ctftime code = .ok profile ∧ account.ctftimeId = some profile.id ∧
        sessionTokenOf X jwtSecret account.id fresh.issuedAt = text := by
  refine LearnsOk.bind (P := fun _ profile => fetchProfile ctftime code = .ok profile)
    (LearnsOk.mk fun profile heq => heq) fun known₁ profile _ hprofile => ?_
  have hbrings : ∀ info, profile.team = some info → req.Brings info fresh.accountId :=
    fun info hinfo => ⟨_, _, _, _, _, hreq, hprofile, hinfo, rfl⟩
  -- the token comes last, for an account that is known by then
  have htoken : ∀ {known₂ : List Fact} {account stored : Account}, stored.id = account.id →
      stored.ctftimeId = some profile.id → Knows known₂ stored →
      (D.queries req).LearnsOk known₂ (localToken X jwtSecret fresh account) fun known' token =>
        ∀ text, token = some text → ∃ account profile, Knows known' account ∧
          fetchProfile ctftime code = .ok profile ∧ account.ctftimeId = some profile.id ∧
          sessionTokenOf X jwtSecret account.id fresh.issuedAt = text := by
    intro known₂ account stored hid hctftime hknows
    refine (localToken_learns X jwtSecret fresh _).imp fun _ _ hsub htext text heq => ?_
    exact ⟨stored, profile, List.Subset.trans hknows hsub, hprofile, hctftime,
      hid ▸ htext text heq⟩
  refine LearnsOk.bind (learns_repo (learns_findByCtftimeId profile.id))
    fun known₂ found _ hfound => ?_
  cases found with
  | some account => exact htoken rfl (hfound account rfl).1 (hfound account rfl).2
  | none =>
    refine LearnsOk.bind (freeName_learns _ _ _ _) fun known₃ username _ _ => ?_
    cases username with
    | none => exact LearnsOk.pure fun _ heq => nomatch heq
    | some username =>
      refine LearnsOk.bind (signUp_learns username hbrings) fun known₄ account _ haccount => ?_
      obtain ⟨stored, hid, hctftime, hknows⟩ := haccount
      exact htoken hid hctftime hknows

/-- `join_team`, after the token check, of a request that is invited. -/
theorem joinVerified_learns {E : Engines} {scripts : String → Option String} {t : TeamId}
    {accountId : AccountId} (hinvited : D.Invited req t accountId) :
    (D.statements req).Learns known (joinVerified E scripts t accountId) fun _ _ => True := by
  refine Learns.bind (learns_teamById t) fun known₁ found _ hfound => ?_
  rcases found with e | _ | team
  · exact Learns.pure trivial
  · exact Learns.pure trivial
  obtain ⟨rfl, hteam⟩ := hfound _ rfl team rfl
  refine Learns.bind (learns_accountById accountId) fun known₂ found hsub₂ hfound => ?_
  rcases found with e | _ | account
  · exact Learns.pure trivial
  · exact Learns.pure trivial
  obtain ⟨rfl, hknows⟩ := hfound _ rfl account rfl
  simp only
  cases bracketAllows E scripts team.bracket account with
  | false => exact Learns.pure trivial
  | true =>
    simp only [if_true]
    refine Learns.bind (learns_updateAccount hknows (.inl hinvited)) fun known₃ r hsub₃ _ => ?_
    cases r with
    | error e => exact Learns.pure trivial
    | ok _ =>
      simp only
      split_ifs
      · exact Learns.pure trivial
      · have hteam₃ : KnowsTeam known₃ team :=
          ⟨hsub₃ (hsub₂ hteam.row), fun a ha => hsub₃ (hsub₂ (hteam.members a ha))⟩
        exact Learns.bind (learns_addMember hteam₃ (.inl hinvited)) fun _ _ _ _ =>
          Learns.pure trivial

/-- `join_team`, of the request that it is the handler of. -/
theorem join_learns {E : Engines} {scripts : String → Option String} {token : String} {now : ℤ}
    {accountId : AccountId} (hreq : req.endpoint = .joinTeam scripts token now)
    (huser : D.user req = .ok accountId) :
    (D.statements req).Learns known
      (Cctf.joinTeam D.invites E "" scripts ⟨token, accountId, now⟩) fun _ _ => True := by
  rw [Cctf.joinTeam]
  cases htoken : verifyInviteToken D.invites token "" now with
  | none => exact Learns.pure trivial
  | some claims =>
    obtain ⟨teamIdStr, expiresAt⟩ := claims
    refine joinVerified_learns ⟨scripts, token, now, hreq, huser, ?_⟩
    rw [htoken]
    rfl

end

end Cctf

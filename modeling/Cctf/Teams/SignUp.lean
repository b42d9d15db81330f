import Cctf.Services.Auth

/-!
# What a sign-up leaves

`handle_callback` makes its reads first and then its writes, the team before the account,
each of them final.

* `SignUpWrites` — the writes, by what the profile says about a team.
* `signUp_leaves` — an error leaves what a first part of the writes makes.
* `callback_leaves` — the same for the whole method, whatever calls fail.
-/

namespace Cctf

open Program Pg Faults

variable {refusal : String} {faulty : Prop} {db db' : Database} {fresh : Fresh}
  {profile : CtfTimeUserProfile}

/-! ## Repository methods in a service -/

theorem holds_repo {α : Type} {m : StoreSql α} {Q : Except ServiceError α → Database → Prop}
    (h : Holds (Query.result refusal) faulty db m.run fun r db' => Q (r.mapError .repo) db') :
    Holds (Query.result refusal) faulty db (repo m).run Q :=
  h.bind fun _ _ hr => Holds.done hr

/-- Past a repository method with `?`. -/
theorem holds_repo_bind {α β : Type} {m : StoreSql α} {f : α → Auth β}
    {R : Except RepoError α → Database → Prop} {Q : Except ServiceError β → Database → Prop}
    (hm : Holds (Query.result refusal) faulty db m.run R)
    (hok : ∀ a db', R (.ok a) db' → Holds (Query.result refusal) faulty db' (f a).run Q)
    (herror : ∀ e db', R (.error e) db' → Q (.error (.repo e)) db') :
    Holds (Query.result refusal) faulty db (repo m >>= f).run Q := by
  have hrepo : Holds (Query.result refusal) faulty db (repo m).run fun r db' =>
      ∃ r', r = r'.mapError .repo ∧ R r' db' :=
    holds_repo (hm.imp fun r db' hr => ⟨r, rfl, hr⟩)
  refine hrepo.bind_except ?_ ?_
  · rintro a db' ⟨r', heq, hr⟩
    cases r' with
    | ok a' =>
      cases heq
      exact hok a db' hr
    | error e => cases heq
  · rintro e db' ⟨r', heq, hr⟩
    cases r' with
    | ok a' => cases heq
    | error e' =>
      cases heq
      exact herror e' db' hr

theorem yields_repo {α : Type} {m : StoreSql α} {a : α}
    (h : Yields (Query.result refusal) faulty db m a) :
    Yields (Query.result refusal) faulty db (repo m) a := by
  refine holds_repo (h.imp ?_)
  rintro r db' ⟨rfl, rfl | ⟨hfaulty, e, rfl⟩⟩
  · exact ⟨rfl, .inl rfl⟩
  · exact ⟨rfl, .inr ⟨hfaulty, .repo e, rfl⟩⟩

/-- The loop over usernames reads only, and ends with a name that is free. -/
theorem holds_freeName (baseName : String) (rounds : ℕ) (checkName : String) (suffix : ℕ) :
    Holds (Query.result refusal) faulty db (freeName baseName rounds checkName suffix).run
      fun r db' => db' = db ∧ ((∃ e, r = .error e) → faulty) ∧
        ∀ username, r = .ok (some username) → db.tables.accountByUsername username = none := by
  induction rounds generalizing checkName suffix with
  | zero => exact Holds.done ⟨rfl, fun ⟨_, h⟩ => (nomatch h), fun _ h => nomatch h⟩
  | succ rounds ih =>
    refine (yields_repo (yields_findByUsername checkName)).holds_bind
      (fun hfaulty e => ⟨rfl, fun _ => hfaulty, fun _ h => nomatch h⟩) ?_
    cases htaken : db.tables.accountByUsername checkName with
    | some account => exact ih _ _
    | none =>
      refine Holds.done ⟨rfl, fun ⟨_, h⟩ => (nomatch h), fun username h => ?_⟩
      cases h
      exact htaken

/-! ## The writes -/

/-- The writes of a sign-up, all of them. -/
inductive SignUpWrites (fresh : Fresh) (profile : CtfTimeUserProfile) (s : TeamTables) :
    List Query → Prop where
  /-- The profile has no team. -/
  | noTeam (username : String) (hteam : profile.team = none) :
      SignUpWrites fresh profile s
        [.insertAccount (.ofAccount (newAccount fresh profile username none))]
  /-- The team is there. -/
  | oldTeam {info : CtfTimeTeamInfo} {team : Team} (username : String)
      (hteam : profile.team = some info) (hold : s.teamByCtftimeId info.id = some team) :
      SignUpWrites fresh profile s
        [.insertAccount (.ofAccount (newAccount fresh profile username (some team.id)))]
  /-- The team is new: it comes before its captain's account. -/
  | newTeam {info : CtfTimeTeamInfo} (username : String) (hteam : profile.team = some info)
      (hnew : s.teamByCtftimeId info.id = none) :
      SignUpWrites fresh profile s
        [.insertTeam (.ofTeam (newTeam fresh info)),
          .base (.setMember fresh.teamId fresh.accountId),
          .insertAccount (.ofAccount (newAccount fresh profile username (some fresh.teamId)))]

/-- The database after a first part of the writes. -/
def Leaves (refusal : String) (fresh : Fresh) (profile : CtfTimeUserProfile)
    (db db' : Database) : Prop :=
  ∃ before after, SignUpWrites fresh profile db.tables (before ++ after) ∧
    Reaches (Query.result refusal) db before db'

/-- Nothing at all is a first part of the writes. -/
theorem Leaves.nothing : Leaves refusal fresh profile db db := by
  cases hteam : profile.team with
  | none => exact ⟨[], _, .noTeam "" hteam, rfl⟩
  | some info =>
    cases hold : db.tables.teamByCtftimeId info.id with
    | none => exact ⟨[], _, .newTeam "" hteam hold, rfl⟩
    | some team => exact ⟨[], _, .oldTeam "" hteam hold, rfl⟩

/-- The statement that puts the captain on the new team: there is no such account yet. -/
theorem result_setCaptain (teamId : TeamId) (habsent : fresh.accountId ∉ db.tables.accountIds) :
    Query.result refusal db (.base (.setMember teamId fresh.accountId)) = .ok ((), db) :=
  Statement.result_read (TeamTables.write_setMember_absent habsent)

/-- If nothing is wrong but what the constraints say, a team is refused as a whole. -/
theorem saveTeam_refused {info : CtfTimeTeamInfo} {db₁ : Database} {before after : List Query}
    {failed : Query} {e : RepoError} (habsent : fresh.accountId ∉ db.tables.accountIds)
    (hwrites : Pg.TeamRepo.saveStatements (newTeam fresh info) = before ++ failed :: after)
    (hreaches : Reaches (Query.result refusal) db before db₁)
    (hfailed : Query.result refusal db₁ failed = .error e) : db₁ = db := by
  cases before with
  | nil => exact hreaches.symm
  | cons first before =>
    obtain ⟨hfirst, hrest⟩ := List.cons.inj hwrites
    obtain ⟨value, db₂, hinsert, hreaches⟩ := hreaches
    subst hfirst
    obtain ⟨teams, -, htables⟩ := insertTeam_ok hinsert
    have habsent₂ : fresh.accountId ∉ db₂.tables.accountIds := by
      rw [htables]
      exact habsent
    cases before with
    | nil =>
      cases hreaches
      obtain ⟨rfl, -⟩ := List.cons.inj hrest
      exact nomatch (result_setCaptain fresh.teamId habsent₂).symm.trans hfailed
    | cons _ _ => simp [newTeam] at hrest

/-- The first part, before the account: it ends with the team's id, or leaves what it
made. -/
theorem holds_localTeam :
    Holds (Query.result refusal) faulty db (localTeam fresh profile.team).run fun r db' =>
      (∃ teamId writes, r = .ok teamId ∧ Reaches (Query.result refusal) db writes db' ∧
        ∀ username, SignUpWrites fresh profile db.tables
          (writes ++ [.insertAccount (.ofAccount (newAccount fresh profile username teamId))])) ∨
      (∃ e, r = .error e) ∧ Leaves refusal fresh profile db db' ∧
        (¬ faulty → fresh.accountId ∉ db.tables.accountIds → db' = db) := by
  cases hteam : profile.team with
  | none => exact Holds.done (.inl ⟨none, [], rfl, rfl, fun username => .noTeam username hteam⟩)
  | some info =>
    refine (yields_repo (yields_findByCtftimeId info.id)).holds_bind
      (fun _ e => .inr ⟨⟨e, rfl⟩, Leaves.nothing, fun _ _ => rfl⟩) ?_
    cases hold : db.tables.teamByCtftimeId info.id with
    | some team =>
      exact Holds.done (.inl ⟨some team.id, [], rfl, rfl,
        fun username => .oldTeam username hteam hold⟩)
    | none =>
      have hsave : Holds (Query.result refusal) faulty db
          (Pg.TeamRepo.save (newTeam fresh info)).run _ := holds_performAll faulty db
      refine holds_repo_bind hsave ?_ ?_
      · rintro _ db₁ (⟨-, hreaches⟩ | ⟨_, _, _, _, herror, -⟩)
        · exact Holds.done (.inl ⟨some fresh.teamId, _, rfl, hreaches,
            fun username => .newTeam username hteam hold⟩)
        · cases herror
      · rintro e db₁ (⟨heq, -⟩ | ⟨_, before, failed, after, -, hwrites, hreaches, hfailed⟩)
        · cases heq
        · refine .inr ⟨⟨_, rfl⟩, ⟨before, failed :: after ++ [.insertAccount
            (.ofAccount (newAccount fresh profile "" (some fresh.teamId)))], ?_, hreaches⟩,
            fun hnot habsent => ?_⟩
          · rw [← List.append_assoc, ← hwrites]
            exact .newTeam "" hteam hold
          · exact saveTeam_refused habsent hwrites hreaches (hfailed.resolve_left hnot)

/-! ## The account -/

/-- The row of a new account is there after its insertion. -/
theorem insertAccount_row {row : AccountRow}
    (h : Query.result refusal db (.insertAccount row) = .ok ((), db')) :
    row ∈ db'.tables.accounts.rows := by
  obtain ⟨accounts, hinsert, htables⟩ := insertAccount_ok h
  rw [htables]
  exact ((Table.mem_insert hinsert).1 row).mpr (.inr rfl)

/-- An account whose row names the team is on the team's list already. -/
theorem yields_addToTeam {row : AccountRow} (hrow : row ∈ db.tables.accounts.rows) :
    Yields (Query.result refusal) faulty db (addToTeam row.id row.teamId) () := by
  cases hteam : row.teamId with
  | none => exact Yields.pure ()
  | some teamId =>
    have hfind : Yields (Query.result refusal) faulty db
        (repo (ofSql (Pg.TeamRepo.findById teamId))) (db.tables.teamById teamId) :=
      yields_repo (holds_lift (yields_findById teamId))
    refine hfind.bind ?_
    cases hold : db.tables.teamById teamId with
    | none => exact Yields.pure ()
    | some team =>
      obtain ⟨teamRow, hteamRow, rfl⟩ := Option.map_eq_some_iff.mp hold
      have hid : teamRow.id = teamId := (Table.find?_eq_some_iff.mp hteamRow).2
      have hmember : row.id ∈ (mapTeam teamRow (db.tables.memberIds teamRow.id)).memberIds :=
        TeamTables.mem_memberIds.mpr ⟨row, hrow, rfl, by rw [hid, hteam]⟩
      simp only [if_pos hmember]
      exact Yields.pure ()

/-- A sign-up leaves a first part of its writes. -/
theorem signUp_leaves (username : String) :
    Holds (Query.result refusal) faulty db (signUp fresh profile username).run fun _ db' =>
      Leaves refusal fresh profile db db' := by
  refine holds_localTeam.bind_except ?_ ?_
  · rintro teamId db₁ (⟨_, writes, heq, hreaches, hwrites⟩ | ⟨⟨_, herror⟩, -⟩)
    · cases heq
      refine holds_repo_bind (holds_saveAccount (newAccount fresh profile username teamId)) ?_ ?_
      · rintro _ db₂ (⟨-, hinsert⟩ | ⟨⟨_, herror, -⟩, -⟩)
        · -- all writes are made: what is left reads
          have hall : Leaves refusal fresh profile db db₂ := by
            refine ⟨_, [], ?_, hreaches.append (.single hinsert)⟩
            rw [List.append_nil]
            exact hwrites username
          exact (yields_addToTeam (insertAccount_row hinsert)).holds_bind (fun _ _ => hall)
            (Holds.done hall)
        · cases herror
      · rintro e db₂ (⟨heq, -⟩ | ⟨-, rfl⟩)
        · cases heq
        · exact ⟨writes, _, hwrites username, hreaches⟩
    · cases herror
  · rintro e db₁ (⟨_, _, heq, -⟩ | ⟨-, hleaves, -⟩)
    · cases heq
    · exact hleaves

/-- The last step of a sign-in reads nothing. -/
theorem holds_localToken {X : Jwt.Crates} {jwtSecret : List UInt8} {account : Account}
    {Q : Except ServiceError (Option String) → Database → Prop} (h : ∀ r, Q r db) :
    Holds (Query.result refusal) faulty db (localToken X jwtSecret fresh account).run Q :=
  Holds.done (h _)

/-- A sign-in leaves nothing, or a first part of the writes of a sign-up. -/
theorem signIn_leaves (X : Jwt.Crates) (jwtSecret : List UInt8) (rounds : ℕ) :
    Holds (Query.result refusal) faulty db (signIn X jwtSecret rounds fresh profile).run
      fun _ db' => db' = db ∨
        db.tables.accountByCtftimeId profile.id = none ∧ Leaves refusal fresh profile db db' := by
  refine (yields_repo (yields_accountByCtftimeId profile.id)).holds_bind (fun _ _ => .inl rfl) ?_
  cases hold : db.tables.accountByCtftimeId profile.id with
  | some account => exact holds_localToken fun _ => .inl rfl
  | none =>
    refine (holds_freeName profile.username rounds profile.username 1).bind_except ?_ ?_
    · rintro username db₁ ⟨rfl, -⟩
      cases username with
      | none => exact Holds.done (.inl rfl)
      | some username =>
        refine (signUp_leaves username).bind_except (fun account db₂ hleaves => ?_)
          fun _ _ hleaves => .inr ⟨rfl, hleaves⟩
        exact holds_localToken fun _ => .inr ⟨rfl, hleaves⟩
    · rintro e db₁ ⟨rfl, -⟩
      exact .inl rfl

/-- What `handle_callback` leaves, whatever calls fail: nothing, or a first part of the
writes of a sign-up for a profile that has no account. -/
theorem callback_leaves (refusal : String) (X : Jwt.Crates) (C : Ctftime)
    (jwtSecret : List UInt8) (rounds : ℕ) (fresh : Fresh) (code : String)
    (w w' : World Database RepoError) (e : ServiceError)
    (h : exec (handler (Query.result refusal)) w
      (handleCallback X C jwtSecret rounds fresh code) = (.error e, w')) :
    w'.state = w.state ∨
      ∃ profile, fetchProfile C code = .ok profile ∧
        w.state.tables.accountByCtftimeId profile.id = none ∧
        Leaves refusal fresh profile w.state w'.state := by
  have hholds : Holds (Query.result refusal) True w.state
      (handleCallback X C jwtSecret rounds fresh code).run fun _ db' => db' = w.state ∨
        ∃ profile, fetchProfile C code = .ok profile ∧
          w.state.tables.accountByCtftimeId profile.id = none ∧
          Leaves refusal fresh profile w.state db' := by
    rw [handleCallback]
    cases hprofile : fetchProfile C code with
    | error e => exact Holds.done (.inl rfl)
    | ok profile =>
      refine (signIn_leaves X jwtSecret rounds).imp fun _ db' hdb' => ?_
      exact hdb'.imp id fun hleaves => ⟨profile, rfl, hleaves⟩
  have hrun := hholds w.faults fun hnot => absurd trivial hnot
  have hexec : run (handler (Query.result refusal)) ⟨w.state, w.faults⟩
      (handleCallback X C jwtSecret rounds fresh code).run = (.error e, w') := h
  rw [hexec] at hrun
  exact hrun

/-- The ids and the times of a call. -/
def firstFresh : Fresh := ⟨⟨"alice-id"⟩, ⟨"red-id"⟩, 0, 0, 0⟩

/-- A CTFtime where every code is alice's, who plays for the team red. -/
def aliceCtftime : Ctftime where
  postToken := fun _ => some (some (.object [("access_token", .string "token")]))
  getUser := fun _ => some (some ⟨7, "alice", some ⟨3, "red"⟩⟩)

/-- Nothing is stored, and the connection is lost at the sixth statement. -/
def sixthFails : World Database RepoError :=
  ⟨.empty, [none, none, none, none, none, some (.connection "closed")]⟩

/-- Alice signs in for the first time, and the connection is lost at her account. -/
def orphaningCallback : Except ServiceError (Option String) × World Database RepoError :=
  exec (handler (Query.result "")) sixthFails
    (handleCallback (.ofTables [] []) aliceCtftime [] 1 firstFresh "code")

/-- She gets an error, and her team stays, with a captain that is no account. -/
theorem callback_orphans :
    orphaningCallback.1 = .error (.repo (.connection "closed")) ∧
      sixthFails.state.tables.teams.rows = [] ∧
      orphaningCallback.2.state.tables.teams.rows.map TeamRow.captainId = [⟨"alice-id"⟩] ∧
      orphaningCallback.2.state.tables.accountIds = [] := by
  decide +kernel

theorem callback_leaves_orphan :
    orphaningCallback.2.state = sixthFails.state ∨
      ∃ profile, fetchProfile aliceCtftime "code" = .ok profile ∧
        sixthFails.state.tables.accountByCtftimeId profile.id = none ∧
        Leaves "" firstFresh profile sixthFails.state orphaningCallback.2.state := by
  have hrun : exec (handler (Query.result "")) sixthFails
      (handleCallback (.ofTables [] []) aliceCtftime [] 1 firstFresh "code") =
        (.error (.repo (.connection "closed")), orphaningCallback.2) :=
    Prod.ext (by decide +kernel) rfl
  exact callback_leaves "" _ _ _ _ _ _ _ _ _ hrun

end Cctf

import Cctf.Library.Runs
import Cctf.Teams.Joining
import Cctf.Teams.Moving
import Cctf.Teams.SignUp
import Cctf.Teams.Usernames

/-!
# Teams, captains and members

Registrations, sign-ins and joins, one after the other and without failures, from the
empty database on.

* `Consistent` — an account is on one team, a captain is a member, an account's team is
  there; the constraints give the first and the last.
* `register_captained`, `signUp_captained` — an account that comes keeps the captains.
* `join_captained_iff` — a join keeps them unless it is the captain of another team who goes.
* `always_consistent_iff` — **a run is consistent all along exactly when no captain leaves**.
-/

namespace Cctf

open Program Pg Faults Runs

/-! ## Consistent tables -/

namespace Pg.TeamTables

/-- Every captain is an account, on their own team. -/
def Captained (s : TeamTables) : Prop :=
  ∀ team ∈ s.teams.rows, s.IsMember team.id team.captainId

instance (s : TeamTables) (teamId : TeamId) (accountId : AccountId) :
    Decidable (s.IsMember teamId accountId) :=
  inferInstanceAs (Decidable (∃ row ∈ _, _))

instance (s : TeamTables) : Decidable s.Captained :=
  inferInstanceAs (Decidable (∀ team ∈ _, _))

/-- Membership is consistent. -/
structure Consistent (s : TeamTables) : Prop where
  oneTeam : ∀ accountId teamId teamId', s.IsMember teamId accountId →
    s.IsMember teamId' accountId → teamId = teamId'
  captains : s.Captained
  teams : ∀ account ∈ s.accounts.rows, ∀ teamId, account.teamId = some teamId →
    teamId ∈ s.teamIds

end Pg.TeamTables

/-- What the column and the constraints leave to say. -/
theorem Pg.Database.consistent_iff_captained (db : Database) :
    db.tables.Consistent ↔ db.tables.Captained := by
  refine ⟨fun h => h.captains, fun h => ⟨fun a t t' ht ht' => ?_, h, fun account hrow t ht => ?_⟩⟩
  · rw [TeamTables.isMember_iff] at ht ht'
    exact Option.some.inj (ht.symm.trans ht')
  · exact db.references t (List.mem_filterMap.mpr ⟨account, hrow, ht⟩)

/-- Captains stay where they are, and a new team has its captain. -/
theorem captained_of {s s' : TeamTables} (h : s.Captained)
    (hteams : ∀ team ∈ s'.teams.rows, team ∈ s.teams.rows ∨ s'.IsMember team.id team.captainId)
    (hkeep : ∀ teamId a, s.IsMember teamId a → s'.IsMember teamId a) : s'.Captained :=
  fun team hteam => (hteams team hteam).elim (fun hold => hkeep _ _ (h team hold)) id

/-! ## An account that comes -/

section Coming

variable {refusal : String} {db db' : Database} {row : AccountRow}

/-- The account is there, and who was on a team still is. -/
theorem insertAccount_isMember
    (h : Query.result refusal db (.insertAccount row) = .ok ((), db')) (teamId : TeamId)
    (a : AccountId) :
    db'.tables.IsMember teamId a ↔
      db.tables.IsMember teamId a ∨ row.id = a ∧ row.teamId = some teamId := by
  obtain ⟨accounts, hinsert, htables⟩ := insertAccount_ok h
  simp only [htables, TeamTables.IsMember, (Table.mem_insert hinsert).1]
  constructor
  · rintro ⟨r, hr | rfl, hid, hteam⟩
    · exact .inl ⟨r, hr, hid, hteam⟩
    · exact .inr ⟨hid, hteam⟩
  · rintro (⟨r, hr, hid, hteam⟩ | ⟨hid, hteam⟩)
    · exact ⟨r, .inl hr, hid, hteam⟩
    · exact ⟨row, .inr rfl, hid, hteam⟩

/-- No team changes. -/
theorem insertAccount_teams
    (h : Query.result refusal db (.insertAccount row) = .ok ((), db')) :
    db'.tables.teams = db.tables.teams := by
  obtain ⟨accounts, -, htables⟩ := insertAccount_ok h
  rw [htables]

theorem insertAccount_captained
    (h : Query.result refusal db (.insertAccount row) = .ok ((), db'))
    (hcaptained : db.tables.Captained) : db'.tables.Captained := by
  refine captained_of hcaptained (fun team hteam => .inl ?_) fun teamId a hmember => ?_
  · rwa [insertAccount_teams h] at hteam
  · exact (insertAccount_isMember h teamId a).mpr (.inl hmember)

/-- An account with new unique columns, on a team that is there, is accepted. -/
theorem insertAccount_accepted (refusal : String) (hid : row.id ∉ db.tables.accountIds)
    (hname : ∀ r ∈ db.tables.accounts.rows, r.username ≠ row.username)
    (hctftime : ∀ id, row.ctftimeId = some id →
      ∀ r ∈ db.tables.accounts.rows, r.ctftimeId ≠ some id)
    (hteam : ∀ teamId, row.teamId = some teamId → teamId ∈ db.tables.teamIds) :
    ∃ db', Query.result refusal db (.insertAccount row) = .ok ((), db') := by
  obtain ⟨accounts, hinsert, hrows⟩ := db.tables.accounts.exists_insert hid
  obtain ⟨hnames, hteamIds, husernames, hids⟩ := db.distinct
  have hdistinct : ({ db.tables with accounts := accounts } : TeamTables).Distinct := by
    refine ⟨hnames, hteamIds, ?_, ?_⟩
    · rw [hrows, List.map_append, List.nodup_append]
      refine ⟨husernames, List.nodup_singleton _, fun a ha b hb => ?_⟩
      obtain ⟨r, hr, rfl⟩ := List.mem_map.mp ha
      rw [List.mem_singleton.mp hb]
      exact hname r hr
    · rw [hrows, List.filterMap_append, List.nodup_append]
      refine ⟨hids, ?_, fun a ha b hb => ?_⟩
      · cases hnew : row.ctftimeId with
        | none => simp [hnew]
        | some id => simp [hnew]
      · obtain ⟨r, hr, hra⟩ := List.mem_filterMap.mp ha
        obtain ⟨r', hr', hrb⟩ := List.mem_filterMap.mp hb
        obtain rfl := List.mem_singleton.mp hr'
        rintro rfl
        exact hctftime a hrb r hr hra
  have hreferences : ({ db.tables with accounts := accounts } : TeamTables).References := by
    intro teamId hmem
    obtain ⟨r, hr, hteamId⟩ := List.mem_filterMap.mp hmem
    rcases List.mem_append.mp (hrows ▸ hr) with hold | hnew
    · exact db.references teamId (List.mem_filterMap.mpr ⟨r, hold, hteamId⟩)
    · obtain rfl := List.mem_singleton.mp hnew
      exact hteam teamId hteamId
  refine ⟨⟨_, hdistinct, hreferences⟩, ?_⟩
  rw [Query.result, hinsert]
  exact congrArg (Except.map _) (Database.commit_eq_ok hdistinct hreferences)

end Coming

/-! ## Signing up -/

section SigningUp

variable {refusal : String} {db db₁ : Database} {fresh : Fresh} {profile : CtfTimeUserProfile}

/-- The tables when the team is there and its captain is about to come. -/
structure TeamReady (fresh : Fresh) (db db₁ : Database) (teamId : Option TeamId) : Prop where
  accounts : db₁.tables.accounts = db.tables.accounts
  there : ∀ id, teamId = some id → id ∈ db₁.tables.teamIds
  teams : ∀ team ∈ db₁.tables.teams.rows, team ∈ db.tables.teams.rows ∨
    team.captainId = fresh.accountId ∧ teamId = some team.id

/-- Writes that end with accounts of one sign-up end with the same team. -/
theorem append_insertAccount_inj {username username' : String} {teamId teamId' : Option TeamId}
    {writes : List Query} (writes' : List Query)
    (h : writes ++ [.insertAccount (.ofAccount (newAccount fresh profile username teamId))] =
      writes' ++ [.insertAccount (.ofAccount (newAccount fresh profile username' teamId'))]) :
    writes = writes' ∧ teamId = teamId' := by
  obtain ⟨hwrites, hlast⟩ := List.append_inj' h rfl
  obtain ⟨-, hteam⟩ : username = username' ∧ teamId = teamId' := by
    simpa [newAccount, AccountRow.ofAccount] using hlast
  exact ⟨hwrites, hteam⟩

/-- The writes before the account. -/
theorem teamReady_of_writes {username : String} {teamId : Option TeamId} {writes : List Query}
    (habsent : fresh.accountId ∉ db.tables.accountIds)
    (hreaches : Reaches (Query.result refusal) db writes db₁)
    (hwrites : SignUpWrites fresh profile db.tables
      (writes ++ [.insertAccount (.ofAccount (newAccount fresh profile username teamId))])) :
    TeamReady fresh db db₁ teamId := by
  generalize hall : writes ++ [Query.insertAccount _] = all at hwrites
  cases hwrites with
  | noTeam username' hteam =>
    obtain ⟨rfl, rfl⟩ := append_insertAccount_inj [] hall
    cases hreaches
    exact ⟨rfl, fun _ h => (nomatch h), fun team hteam => .inl hteam⟩
  | oldTeam username' hteam hold =>
    obtain ⟨rfl, rfl⟩ := append_insertAccount_inj [] hall
    cases hreaches
    obtain ⟨row, hrow, rfl⟩ := Option.map_eq_some_iff.mp hold
    refine ⟨rfl, fun id h => ?_, fun team hteam => .inl hteam⟩
    cases h
    exact List.mem_map_of_mem (List.mem_of_find?_eq_some hrow)
  | @newTeam info username' hteam hnew =>
    obtain ⟨rfl, rfl⟩ := append_insertAccount_inj [_, _] hall
    obtain ⟨_, db₂, hinsert, _, db₃, hset, rfl⟩ := hreaches
    obtain ⟨teams, hteams, htables⟩ := insertTeam_ok hinsert
    have habsent₂ : fresh.accountId ∉ db₂.tables.accountIds := by
      rw [htables]
      exact habsent
    rw [result_setCaptain fresh.teamId habsent₂] at hset
    cases hset
    have hrows := (Table.mem_insert hteams).1
    rw [show teams = db₂.tables.teams by rw [htables]] at hrows
    refine ⟨by rw [htables], fun id h => ?_, fun team hteam => ?_⟩
    · cases h
      exact List.mem_map_of_mem ((hrows _).mpr (.inr rfl))
    · refine ((hrows team).mp hteam).imp id fun h => ?_
      rw [h]
      exact ⟨rfl, rfl⟩

/-- The account comes to its team, which may be new. -/
theorem account_captained {username : String} {teamId : Option TeamId} {db₂ : Database}
    (hready : TeamReady fresh db db₁ teamId)
    (hinsert : Query.result refusal db₁
      (.insertAccount (.ofAccount (newAccount fresh profile username teamId))) = .ok ((), db₂))
    (h : db.tables.Captained) : db₂.tables.Captained := by
  refine captained_of h (fun team hteam => ?_) fun teamId' a hmember => ?_
  · rw [insertAccount_teams hinsert] at hteam
    refine (hready.teams team hteam).imp id fun ⟨hcaptain, hid⟩ => ?_
    exact (insertAccount_isMember hinsert _ _).mpr (.inr ⟨hcaptain.symm, hid⟩)
  · refine (insertAccount_isMember hinsert _ _).mpr (.inl ?_)
    rwa [TeamTables.IsMember, hready.accounts]

/-- Without failures, the account is accepted. -/
theorem newAccount_accepted (refusal : String) {username : String} {teamId : Option TeamId}
    (hready : TeamReady fresh db db₁ teamId) (habsent : fresh.accountId ∉ db.tables.accountIds)
    (hname : db.tables.accountByUsername username = none)
    (hctftime : db.tables.accountByCtftimeId profile.id = none) :
    ∃ db₂, Query.result refusal db₁
      (.insertAccount (.ofAccount (newAccount fresh profile username teamId))) = .ok ((), db₂) := by
  refine insertAccount_accepted refusal ?_ (fun r hr => ?_) (fun id hid r hr => ?_) hready.there
  · rw [TeamTables.accountIds, hready.accounts]
    exact habsent
  · rw [hready.accounts] at hr
    have hnone := List.find?_eq_none.mp (Option.map_eq_none_iff.mp hname) r hr
    exact fun htaken => hnone (decide_eq_true htaken)
  · rw [hready.accounts] at hr
    cases hid
    have hnone := List.find?_eq_none.mp (Option.map_eq_none_iff.mp hctftime) r hr
    simpa using hnone

/-- A sign-up without failures keeps the captains. -/
theorem signUp_captained {username : String} (habsent : fresh.accountId ∉ db.tables.accountIds)
    (hname : db.tables.accountByUsername username = none)
    (hctftime : db.tables.accountByCtftimeId profile.id = none) (h : db.tables.Captained) :
    Holds (Query.result refusal) False db (signUp fresh profile username).run fun _ db' =>
      db'.tables.Captained := by
  refine holds_localTeam.bind_except ?_ ?_
  · rintro teamId db₁ (⟨_, writes, heq, hreaches, hwrites⟩ | ⟨⟨_, herror⟩, -⟩)
    · cases heq
      have hready := teamReady_of_writes habsent hreaches (hwrites username)
      obtain ⟨db₂, haccepted⟩ := newAccount_accepted refusal hready habsent hname hctftime
      refine holds_repo_bind (holds_saveAccount (newAccount fresh profile username teamId)) ?_ ?_
      · rintro _ db₃ (⟨-, hinsert⟩ | ⟨⟨_, herror, -⟩, -⟩)
        · have hcaptained := account_captained hready hinsert h
          exact (yields_addToTeam (insertAccount_row hinsert)).holds_bind (fun _ _ => hcaptained)
            (Holds.done hcaptained)
        · cases herror
      · rintro e db₃ (⟨heq, -⟩ | ⟨⟨_, -, hrefused⟩, -⟩)
        · cases heq
        · exact nomatch haccepted.symm.trans (hrefused.resolve_left id)
    · cases herror
  · rintro e db₁ (⟨_, _, heq, -⟩ | ⟨-, -, hsame⟩)
    · cases heq
    · rw [hsame not_false habsent]
      exact h

/-- A sign-in without failures keeps the captains. -/
theorem signIn_captained (X : Jwt.Crates) (jwtSecret : List UInt8) (rounds : ℕ)
    (habsent : fresh.accountId ∉ db.tables.accountIds) (h : db.tables.Captained) :
    Holds (Query.result refusal) False db (signIn X jwtSecret rounds fresh profile).run
      fun _ db' => db'.tables.Captained := by
  refine (yields_repo (yields_accountByCtftimeId profile.id)).holds_bind (fun _ _ => h) ?_
  cases hctftime : db.tables.accountByCtftimeId profile.id with
  | some account => exact holds_localToken fun _ => h
  | none =>
    refine (holds_freeName profile.username rounds profile.username 1).bind_except ?_ ?_
    · rintro username db₁ ⟨rfl, -, hfree⟩
      cases username with
      | none => exact Holds.done h
      | some username =>
        refine (signUp_captained habsent (hfree username rfl) hctftime h).bind_except
          (fun account db₂ hcaptained => ?_) fun _ _ hcaptained => hcaptained
        exact holds_localToken fun _ => hcaptained
    · rintro e db₁ ⟨rfl, -⟩
      exact h

end SigningUp

/-! ## Registering and joining -/

section Joining

variable {refusal : String} {db db' : Database}

/-- A registration keeps the captains. -/
theorem register_captained (hashPassword : String → Option String) (fresh : Fresh)
    (username : String) (email : Option String) (password : String) (h : db.tables.Captained) :
    Holds (Query.result refusal) False db
      (register hashPassword fresh username email password).run
      fun _ db' => db'.tables.Captained := by
  refine (yields_repo (yields_findByUsername username)).holds_bind (fun _ _ => h) ?_
  cases db.tables.accountByUsername username with
  | some account => exact Holds.done h
  | none =>
    cases hashPassword password with
    | none => exact Holds.done h
    | some hashed =>
      refine holds_repo_bind (holds_saveAccount (registeredAccount fresh username email hashed)) ?_ ?_
      · rintro _ db₁ (⟨-, hinsert⟩ | ⟨⟨_, herror, -⟩, -⟩)
        · exact Holds.done (insertAccount_captained hinsert h)
        · cases herror
      · rintro e db₁ (⟨heq, -⟩ | ⟨-, rfl⟩)
        · cases heq
        · exact h

/-- An account that moves leaves the captains if it is the captain of no other team. -/
theorem Regroups.captained_iff {teamId : TeamId} {accountId : AccountId}
    (hregroups : Regroups db db' fun a =>
      if a = accountId then some teamId else db.tables.teamOf a) (h : db.tables.Captained) :
    db'.tables.Captained ↔
      ∀ team ∈ db.tables.teams.rows, team.captainId = accountId → team.id = teamId := by
  rw [TeamTables.Captained, hregroups.teams]
  refine forall₂_congr fun team hteam => ?_
  rw [TeamTables.isMember_iff, hregroups.teamOf]
  by_cases hcaptain : team.captainId = accountId
  · rw [if_pos hcaptain]
    exact ⟨fun heq _ => (Option.some.inj heq).symm, fun heq => by rw [heq hcaptain]⟩
  · rw [if_neg hcaptain]
    exact ⟨fun _ hself => absurd hself hcaptain,
      fun _ => TeamTables.isMember_iff.mp (h team hteam)⟩

/-- **A join keeps the captains** unless it goes through and the captain of another team
makes it. -/
theorem join_captained_iff (C : InviteCrypto) (E : Engines) (secret : String)
    (scripts : String → Option String) (req : JoinRequest) (h : db.tables.Captained) :
    Holds (Statement.result refusal) False db (joinTeam C E secret scripts req)
      fun _ db' => db'.tables.Captained ↔ ¬ ∃ teamId expiresAt,
        verifyInviteToken C req.token secret req.now = some (teamId, expiresAt) ∧
        admits E scripts db.tables ⟨teamId⟩ req.accountId = true ∧
        ∃ team ∈ db.tables.teams.rows, team.captainId = req.accountId ∧ team.id ≠ ⟨teamId⟩ := by
  rw [joinTeam]
  cases htoken : verifyInviteToken C req.token secret req.now with
  | none =>
    refine Holds.done (iff_of_true h ?_)
    rintro ⟨teamId, expiresAt, heq, -⟩
    cases heq
  | some claims =>
    obtain ⟨teamIdStr, expiresAt⟩ := claims
    refine (holds_joinVerified refusal E scripts db ⟨teamIdStr⟩ req.accountId).imp ?_
    intro _ db' hdone
    by_cases hadmits : admits E scripts db.tables ⟨teamIdStr⟩ req.accountId = true
    · rw [if_pos hadmits] at hdone
      rw [hdone.captained_iff h]
      constructor
      · rintro hcaptains ⟨teamId, _, heq, -, team, hteam, hcaptain, hother⟩
        cases heq
        exact hother (hcaptains team hteam hcaptain)
      · intro hnone team hteam hcaptain
        by_contra hother
        exact hnone ⟨teamIdStr, expiresAt, rfl, hadmits, team, hteam, hcaptain, hother⟩
    · rw [if_neg hadmits] at hdone
      rw [hdone]
      refine iff_of_true h ?_
      rintro ⟨teamId, _, heq, hadmits', -⟩
      cases heq
      exact hadmits hadmits'

end Joining

/-! ## The rounds for a username -/

section Rounds

variable {refusal : String} {faulty : Prop} {db : Database}

/-- With a round more than there are accounts, a name is found. -/
theorem holds_freeName_found (baseName : String) {rounds : ℕ}
    (hrounds : db.tables.accountIds.length < rounds) :
    Holds (Query.result refusal) faulty db (freeName baseName rounds baseName 1).run
      fun r _ => r ≠ .ok none := by
  obtain ⟨more, hle, hfree, htaken⟩ := exists_first_free baseName db.tables.usernames
  have hmore : more < rounds := by
    rw [TeamTables.usernames, List.length_map] at hle
    rw [TeamTables.accountIds, List.length_map] at hrounds
    omega
  refine (yields_freeName rounds htaken hfree).imp ?_
  rw [if_pos hmore]
  rintro r db' ⟨-, rfl | ⟨-, e, rfl⟩⟩
  · simp
  · simp

/-- A sign-in is not short of rounds. -/
theorem handleCallback_returns (X : Jwt.Crates) (C : Ctftime) (jwtSecret : List UInt8)
    (fresh : Fresh) (code : String) {rounds : ℕ}
    (hrounds : db.tables.accountIds.length < rounds) :
    Holds (Query.result refusal) faulty db (handleCallback X C jwtSecret rounds fresh code).run
      fun r _ => r ≠ .ok none := by
  have herror : ∀ e : ServiceError, (.error e : Except ServiceError (Option String)) ≠ .ok none := by
    simp
  have htoken : ∀ db' account, Holds (Query.result refusal) faulty db'
      (localToken X jwtSecret fresh account).run fun r _ => r ≠ .ok none := by
    refine fun db' account => Holds.done ?_
    cases Jwt.issue X account.id.val (24 * 3600) jwtSecret fresh.issuedAt with
    | ok token =>
      show (.ok (some token) : Except ServiceError (Option String)) ≠ .ok none
      simp
    | error e => exact herror _
  rw [handleCallback]
  cases fetchProfile C code with
  | error e => exact Holds.done (herror e)
  | ok profile =>
    refine (yields_repo (yields_accountByCtftimeId profile.id)).holds_bind
      (fun _ => herror) ?_
    cases db.tables.accountByCtftimeId profile.id with
    | some account => exact htoken db account
    | none =>
      refine (holds_freeName_found profile.username hrounds).bind_except ?_ fun e _ _ => herror e
      rintro username db₁ hfound
      cases username with
      | none => exact absurd rfl hfound
      | some username =>
        refine (signUp_leaves username).bind_except (fun account db₂ _ => htoken db₂ account) ?_
        exact fun e _ _ => herror e

end Rounds

/-! ## The calls -/

/-- What a deployment is configured with, and the crates it uses; `refusal` is what the
database says about a reference to no team. -/
structure Site where
  refusal : String
  jwt : Jwt.Crates
  jwtSecret : List UInt8
  invites : InviteCrypto
  inviteSecret : String
  engines : Engines

/-- A call, with what it finds outside: the salted hash, CTFtime's answers, the scripts of
the brackets. -/
inductive TeamCall where
  | register (hashPassword : String → Option String) (fresh : Fresh) (username : String)
      (email : Option String) (password : String)
  | callback (ctftime : Ctftime) (fresh : Fresh) (code : String)
  | join (scripts : String → Option String) (req : JoinRequest)

namespace TeamCall

/-- What a call does, its result left aside. -/
def perform (site : Site) (rounds : ℕ) : TeamCall → Program Query Query.Resp Unit
  | .register hashPassword fresh username email password =>
    (Cctf.register hashPassword fresh username email password).run >>= fun _ => .done ()
  | .callback ctftime fresh code =>
    (handleCallback site.jwt ctftime site.jwtSecret rounds fresh code).run >>= fun _ => .done ()
  | .join scripts req =>
    (joinTeam site.invites site.engines site.inviteSecret scripts req).lift .base
      (fun _ r => r) >>= fun _ => .done ()

/-- The rounds a call has for its username: one more than there are accounts. -/
def rounds (db : Database) : ℕ := db.tables.accountIds.length + 1

/-- A call on its own, without failures. -/
def step (site : Site) (db : Database) (call : TeamCall) : Database :=
  (run (handler (Query.result site.refusal)) ⟨db, []⟩ (call.perform site (rounds db))).2.state

/-- The id a sign-in makes up is new. -/
def FreshId (db : Database) : TeamCall → Prop
  | .callback _ fresh _ => fresh.accountId ∉ db.tables.accountIds
  | _ => True

/-- A join that goes through, by the captain of another team. -/
def LeavesCaptaincy (site : Site) (db : Database) : TeamCall → Prop
  | .join scripts req => ∃ teamId expiresAt,
      verifyInviteToken site.invites req.token site.inviteSecret req.now =
        some (teamId, expiresAt) ∧
      admits site.engines scripts db.tables ⟨teamId⟩ req.accountId = true ∧
      ∃ team ∈ db.tables.teams.rows, team.captainId = req.accountId ∧ team.id ≠ ⟨teamId⟩
  | _ => False

section Step

variable {site : Site} {db : Database} {call : TeamCall}

theorem step_of_holds (P : Database → Prop)
    (h : Holds (Query.result site.refusal) False db (call.perform site (rounds db))
      fun _ db' => P db') : P (call.step site db) :=
  h [] fun _ => rfl

/-- **The step lemma.** -/
theorem step_captained_iff (hfresh : call.FreshId db) (h : db.tables.Captained) :
    (call.step site db).tables.Captained ↔ ¬ call.LeavesCaptaincy site db := by
  cases call with
  | register hashPassword fresh username email password =>
    refine iff_of_true (step_of_holds (fun db' => db'.tables.Captained) ?_) id
    exact (register_captained hashPassword fresh username email password h).bind
      fun _ _ hcaptained => Holds.done hcaptained
  | callback ctftime fresh code =>
    refine iff_of_true (step_of_holds (fun db' => db'.tables.Captained) ?_) id
    refine Holds.bind (R := fun _ db' => db'.tables.Captained) ?_
      fun _ _ hcaptained => Holds.done hcaptained
    rw [handleCallback]
    cases fetchProfile ctftime code with
    | error e => exact Holds.done h
    | ok profile => exact signIn_captained site.jwt site.jwtSecret (rounds db) hfresh h
  | join scripts req =>
    refine step_of_holds
      (fun db' => db'.tables.Captained ↔ ¬ (join scripts req).LeavesCaptaincy site db) ?_
    exact (holds_lift (join_captained_iff site.invites site.engines site.inviteSecret scripts req
      h)).bind fun _ _ hiff => Holds.done hiff

end Step

end TeamCall

/-- The empty database is consistent. -/
theorem captained_empty : Database.empty.tables.Captained := fun _ hteam => nomatch hteam

/-- **Membership is consistent all along a run exactly when no captain leaves**: no step is
a join that goes through, by the captain of another team. -/
theorem always_consistent_iff (site : Site) (calls : List TeamCall)
    (hfresh : Each (fun db call => TeamCall.step site db call)
      (fun db call => call.FreshId db) Database.empty calls) :
    Always (fun db call => TeamCall.step site db call) (fun db => db.tables.Consistent)
        Database.empty calls ↔
      Each (fun db call => TeamCall.step site db call)
        (fun db call => ¬ call.LeavesCaptaincy site db) Database.empty calls := by
  refine always_iff_each_of_each (fun db call hfresh hconsistent => ?_) ?_ hfresh
  · rw [Database.consistent_iff_captained] at hconsistent ⊢
    exact TeamCall.step_captained_iff hfresh hconsistent
  · exact (Database.consistent_iff_captained _).mpr captained_empty

/-! ## A captain who joins another team -/

/-- The ids and the times of bob's sign-in; his team is red. -/
def bobFresh : Fresh := ⟨⟨"bob-id"⟩, ⟨"red"⟩, 0, 0, 0⟩

/-- The ids and the times of alice's sign-in; her team is blue. -/
def aliceFresh : Fresh := ⟨⟨"alice-id"⟩, ⟨"blue"⟩, 0, 0, 0⟩

/-- A CTFtime with one user. -/
def ctftimeOf (profile : CtfTimeUserProfile) : Ctftime where
  postToken := fun _ => some (some (.object [("access_token", .string "token")]))
  getUser := fun _ => some (some profile)

/-- A deployment with the HMACs of the two session tokens and of the invite for red. -/
def redSite : Site where
  refusal := ""
  jwt := .ofTables [] [
    (("secret".toList.flatMap Jwt.utf8, "eyJhbGciOiJIUzI1NiIsInR5cCI6IkpXVCJ9." ++
      "eyJzdWIiOiJhbGljZS1pZCIsImlhdCI6MCwiZXhwIjo4NjQwMH0"),
      [124, 150, 137, 71, 212, 45, 69, 87, 104, 48, 41, 182, 174, 215, 135, 241, 2, 3, 214, 195,
        66, 133, 123, 228, 47, 16, 24, 22, 69, 1, 159, 22]),
    (("secret".toList.flatMap Jwt.utf8, "eyJhbGciOiJIUzI1NiIsInR5cCI6IkpXVCJ9." ++
      "eyJzdWIiOiJib2ItaWQiLCJpYXQiOjAsImV4cCI6ODY0MDB9"),
      [203, 162, 233, 123, 181, 99, 58, 13, 106, 76, 98, 247, 130, 175, 177, 190, 171, 198, 49,
        115, 187, 81, 77, 74, 209, 121, 11, 36, 207, 113, 41, 31])]
  jwtSecret := "secret".toList.flatMap Jwt.utf8
  invites := redCrypto
  inviteSecret := "secret"
  engines := .silent

/-- Bob signs in, then alice, both for the first time; then alice joins red. -/
def captainJoins : List TeamCall := [
  .callback (ctftimeOf ⟨8, "bob", some ⟨4, "red"⟩⟩) bobFresh "code",
  .callback (ctftimeOf ⟨7, "alice", some ⟨3, "blue"⟩⟩) aliceFresh "code",
  .join (fun _ => none) (joinRed "alice-id")]

theorem freshId_captainJoins :
    Each (fun db call => TeamCall.step redSite db call) (fun db call => call.FreshId db)
      Database.empty captainJoins := by
  refine ⟨?_, ?_, trivial, trivial⟩
  · show _ ∉ _
    decide +kernel
  · show _ ∉ _
    decide +kernel

/-- The captain of blue is on red. -/
theorem captain_gone :
    Each (fun db call => TeamCall.step redSite db call) (fun db call => call.FreshId db)
        Database.empty captainJoins ∧
      ¬ (Runs.run (fun db call => TeamCall.step redSite db call) Database.empty
        captainJoins).tables.Consistent := by
  refine ⟨freshId_captainJoins, fun h => ?_⟩
  exact absurd h.captains (by decide +kernel)

theorem always_consistent_iff_captainJoins :
    Always (fun db call => TeamCall.step redSite db call) (fun db => db.tables.Consistent)
        Database.empty captainJoins ↔
      Each (fun db call => TeamCall.step redSite db call)
        (fun db call => ¬ call.LeavesCaptaincy redSite db) Database.empty captainJoins :=
  always_consistent_iff redSite captainJoins freshId_captainJoins

end Cctf

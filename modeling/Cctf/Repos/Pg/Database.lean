import Cctf.Library.Checks
import Cctf.Library.Faults
import Cctf.Repos.Pg.Columns
import Cctf.Repos.Pg.Teams

/-!
# The database behind `PgStore`

The `teams` and `accounts` tables with the constraints of the schema: a statement whose
result would break one is refused.  Any statement may fail besides, and one that fails
changes nothing; there is no transaction around the statements of a method.

* `TeamTables.Distinct`, `TeamTables.References` — the unique columns and the foreign key.
* `Database` — tables that satisfy both.
* `Query` — the statements of `Statement` and those of the other methods.
* `Query.perform` — a statement with texts as the clients send them, which go through the columns.
* `TeamRepo.findByCtftimeId`, `TeamRepo.save`, `AccountRepo.findByUsername`,
  `AccountRepo.findByCtftimeId`, `AccountRepo.save` — the methods.
-/

namespace Cctf.Pg

open Program

/-! ## Constraints -/

/-- The `UNIQUE` columns; the primary keys are part of the tables. -/
structure TeamTables.Distinct (s : TeamTables) : Prop where
  names : (s.teams.rows.map TeamRow.name).Nodup
  teamCtftimeIds : (s.teams.rows.filterMap TeamRow.ctftimeId).Nodup
  usernames : (s.accounts.rows.map AccountRow.username).Nodup
  accountCtftimeIds : (s.accounts.rows.filterMap AccountRow.ctftimeId).Nodup

instance (s : TeamTables) : Decidable s.Distinct :=
  decidable_of_iff ((s.teams.rows.map TeamRow.name).Nodup ∧
      (s.teams.rows.filterMap TeamRow.ctftimeId).Nodup ∧
      (s.accounts.rows.map AccountRow.username).Nodup ∧
      (s.accounts.rows.filterMap AccountRow.ctftimeId).Nodup)
    ⟨fun ⟨h₁, h₂, h₃, h₄⟩ => ⟨h₁, h₂, h₃, h₄⟩, fun ⟨h₁, h₂, h₃, h₄⟩ => ⟨h₁, h₂, h₃, h₄⟩⟩

/-- The ids of all teams. -/
def TeamTables.teamIds (s : TeamTables) : List TeamId := s.teams.rows.map TeamRow.id

/-- `team_id VARCHAR(64) REFERENCES teams(id)` -/
def TeamTables.References (s : TeamTables) : Prop :=
  ∀ teamId ∈ s.accounts.rows.filterMap AccountRow.teamId, teamId ∈ s.teamIds

instance (s : TeamTables) : Decidable s.References :=
  inferInstanceAs (Decidable (∀ teamId ∈ _, _))

/-- The tables, with the constraints of the schema. -/
structure Database where
  tables : TeamTables
  distinct : tables.Distinct
  references : tables.References

namespace Database

@[ext] theorem ext {db db' : Database} (h : db.tables = db'.tables) : db = db' := by
  cases db
  cases db'
  cases h
  rfl

/-- The database after `init_db`. -/
def empty : Database where
  tables := ⟨.empty, .empty⟩
  distinct := ⟨List.nodup_nil, List.nodup_nil, List.nodup_nil, List.nodup_nil⟩
  references := fun _ h => absurd h List.not_mem_nil

/-- The tables a statement leads to, if they satisfy the constraints; `refusal` is what
the database says about a reference to no team. -/
def commit (refusal : String) (s : TeamTables) : Except RepoError Database :=
  if hdistinct : s.Distinct then
    if hreferences : s.References then .ok ⟨s, hdistinct, hreferences⟩
    else .error (.internal refusal)
  else .error (.conflict "auth-username-taken")

/-- Tables that satisfy the constraints are accepted. -/
theorem commit_tables (refusal : String) (db : Database) : commit refusal db.tables = .ok db := by
  rw [commit, dif_pos db.distinct, dif_pos db.references]

theorem commit_eq_ok {refusal : String} {s : TeamTables} (hdistinct : s.Distinct)
    (hreferences : s.References) : commit refusal s = .ok ⟨s, hdistinct, hreferences⟩ := by
  rw [commit, dif_pos hdistinct, dif_pos hreferences]

theorem tables_of_commit {refusal : String} {s : TeamTables} {db : Database}
    (h : commit refusal s = .ok db) : db.tables = s := by
  rw [commit] at h
  split at h
  · split at h
    · cases h
      rfl
    · cases h
  · cases h

end Database

/-! ## Statements -/

/-- What a statement of `Statement` does. -/
def Statement.result (refusal : String) (db : Database) (st : Statement) :
    Except RepoError (st.Value × Database) :=
  (Database.commit refusal (db.tables.write st)).map fun db' => (db.tables.read st, db')

/-- The SQL statements of the two repositories. -/
inductive Query where
  /-- A statement of the methods in `Statement`. -/
  | base (st : Statement)
  /-- `SELECT * FROM teams WHERE ctftime_id = $1` -/
  | selectTeamByCtftimeId (ctftimeId : Int32)
  /-- `SELECT * FROM accounts WHERE username = $1` -/
  | selectAccountByUsername (username : String)
  /-- `SELECT * FROM accounts WHERE ctftime_id = $1` -/
  | selectAccountByCtftimeId (ctftimeId : Int32)
  /-- `INSERT INTO teams (id, name, …) VALUES ($1, $2, …)` -/
  | insertTeam (row : TeamRow)
  /-- `INSERT INTO accounts (id, username, …) VALUES ($1, $2, …)` -/
  | insertAccount (row : AccountRow)

namespace Query

/-- What a statement returns when it succeeds. -/
def Value : Query → Type
  | .base st => st.Value
  | .selectTeamByCtftimeId _ => Option TeamRow
  | .selectAccountByUsername _ => Option AccountRow
  | .selectAccountByCtftimeId _ => Option AccountRow
  | .insertTeam _ => Unit
  | .insertAccount _ => Unit

/-- What a statement returns. -/
abbrev Resp (q : Query) : Type := Except RepoError q.Value

/-- What a statement does. -/
def result (refusal : String) (db : Database) : (q : Query) → Except RepoError (q.Value × Database)
  | .base st => st.result refusal db
  | .selectTeamByCtftimeId ctftimeId =>
    .ok (db.tables.teams.rows.find? fun row => row.ctftimeId = some ctftimeId, db)
  | .selectAccountByUsername username =>
    .ok (db.tables.accounts.rows.find? fun row => row.username = username, db)
  | .selectAccountByCtftimeId ctftimeId =>
    .ok (db.tables.accounts.rows.find? fun row => row.ctftimeId = some ctftimeId, db)
  | .insertTeam row =>
    match db.tables.teams.insert row with
    | none => .error (.conflict "auth-username-taken")
    | some teams =>
      (Database.commit refusal { db.tables with teams := teams }).map fun db' => ((), db')
  | .insertAccount row =>
    match db.tables.accounts.insert row with
    | none => .error (.conflict "auth-username-taken")
    | some accounts =>
      (Database.commit refusal { db.tables with accounts := accounts }).map fun db' => ((), db')

end Query

/-! ## Columns -/

/-- The texts of a `JSONB` column of fields. -/
def textsOfFields (fields : JsonFields) : List String :=
  fields.flatMap fun field => [field.1, field.2]

namespace AccountRow

/-- The texts of the row. -/
def texts (row : AccountRow) : List String :=
  [row.id.val, row.username, row.role] ++ row.email.toList ++ row.passwordHash.toList ++
    (row.teamId.map TeamId.val).toList ++ textsOfFields row.fields

/-- What the columns keep of the texts that come from outside.  An id is a UUID or is stored
already, and a role is one of three words. -/
def kept (row : AccountRow) : Option AccountRow := do
  let username ← Pg.kept 255 row.username
  let email ← keptIfAny 255 row.email
  let passwordHash ← keptIfAny 255 row.passwordHash
  pure { row with
    username := username
    email := email
    passwordHash := passwordHash }

theorem kept_eq_some_iff {row row' : AccountRow} : row.kept = some row' ↔
    ∃ username email passwordHash, Pg.kept 255 row.username = some username ∧
      keptIfAny 255 row.email = some email ∧
      keptIfAny 255 row.passwordHash = some passwordHash ∧
      row' = { row with username := username, email := email, passwordHash := passwordHash } := by
  simp only [kept, Option.bind_eq_bind, Option.bind_eq_some_iff]
  constructor
  · rintro ⟨username, husername, email, hemail, passwordHash, hhash, h⟩
    exact ⟨username, email, passwordHash, husername, hemail, hhash, (Option.some.inj h).symm⟩
  · rintro ⟨username, email, passwordHash, husername, hemail, hhash, rfl⟩
    exact ⟨username, husername, email, hemail, passwordHash, hhash, rfl⟩

/-- The columns leave whose account it is, and what it may. -/
theorem of_kept {row row' : AccountRow} (h : row.kept = some row') :
    row'.id = row.id ∧ row'.role = row.role ∧ row'.teamId = row.teamId ∧
      row'.ctftimeId = row.ctftimeId := by
  obtain ⟨_, _, _, -, -, -, rfl⟩ := kept_eq_some_iff.mp h
  exact ⟨rfl, rfl, rfl, rfl⟩

end AccountRow

namespace TeamRow

/-- The texts of the row. -/
def texts (row : TeamRow) : List String :=
  [row.id.val, row.name, row.captainId.val, row.bracket] ++ row.inviteCode.toList ++
    textsOfFields row.fields

/-- What the columns keep of the texts that come from outside. -/
def kept (row : TeamRow) : Option TeamRow := do
  let name ← Pg.kept 255 row.name
  let inviteCode ← keptIfAny 255 row.inviteCode
  let bracket ← Pg.kept 100 row.bracket
  pure { row with
    name := name
    inviteCode := inviteCode
    bracket := bracket }

/-- The columns leave who the captain is, and which team it is at CTFtime. -/
theorem of_kept {row row' : TeamRow} (h : row.kept = some row') :
    row'.id = row.id ∧ row'.captainId = row.captainId ∧ row'.ctftimeId = row.ctftimeId := by
  simp only [kept, Option.bind_eq_bind, Option.bind_eq_some_iff] at h
  obtain ⟨_, -, _, -, _, -, h⟩ := h
  obtain rfl := Option.some.inj h
  exact ⟨rfl, rfl, rfl⟩

end TeamRow

namespace Query

/-- The texts that a statement binds. -/
def texts : Query → List String
  | .base (.selectTeam id) => [id.val]
  | .base (.selectMembers teamId) => [teamId.val]
  | .base (.selectAccount id) => [id.val]
  | .base (.updateAccount row) => row.texts
  | .base (.updateTeam row) => row.texts
  | .base (.clearMembers teamId) => [teamId.val]
  | .base (.setMember teamId accountId) => [teamId.val, accountId.val]
  | .selectTeamByCtftimeId _ => []
  | .selectAccountByUsername username => [username]
  | .selectAccountByCtftimeId _ => []
  | .insertTeam row => row.texts
  | .insertAccount row => row.texts

/-- What a statement does with what the columns keep of an `INSERT`.  An `UPDATE` binds what was
read. -/
def store (refusal : String) (db : Database) : (q : Query) → Except RepoError (q.Value × Database)
  | .insertTeam row =>
    match row.kept with
    | some row => result refusal db (.insertTeam row)
    | none => .error (.internal refusal)
  | .insertAccount row =>
    match row.kept with
    | some row => result refusal db (.insertAccount row)
    | none => .error (.internal refusal)
  | q => result refusal db q

/-- **What a statement does**, on the way through the columns: a text that the database cannot
hold is refused. -/
def perform (refusal : String) (db : Database) (q : Query) :
    Except RepoError (q.Value × Database) :=
  if q.texts.all storable then q.store refusal db else .error (.internal refusal)

section

variable {refusal : String} {db db' : Database}

theorem store_of_perform {q : Query} {r : q.Value × Database}
    (h : q.perform refusal db = .ok r) : q.store refusal db = .ok r := by
  rw [perform] at h
  split_ifs at h
  exact h

/-- A team that is stored. -/
theorem perform_insertTeam {row : TeamRow} {value : Unit}
    (h : perform refusal db (.insertTeam row) = .ok (value, db')) :
    ∃ row', row.kept = some row' ∧ result refusal db (.insertTeam row') = .ok (value, db') := by
  have hstore := store_of_perform h
  rw [store] at hstore
  cases hkept : row.kept with
  | none =>
    rw [hkept] at hstore
    cases hstore
  | some row' =>
    rw [hkept] at hstore
    exact ⟨row', rfl, hstore⟩

/-- An account that is stored. -/
theorem perform_insertAccount {row : AccountRow} {value : Unit}
    (h : perform refusal db (.insertAccount row) = .ok (value, db')) :
    ∃ row', row.kept = some row' ∧
      result refusal db (.insertAccount row') = .ok (value, db') := by
  have hstore := store_of_perform h
  rw [store] at hstore
  cases hkept : row.kept with
  | none =>
    rw [hkept] at hstore
    cases hstore
  | some row' =>
    rw [hkept] at hstore
    exact ⟨row', rfl, hstore⟩

end

end Query

/-! ## The methods -/

/-- A repository computation on the database. -/
abbrev StoreSql (α : Type) : Type := ExceptT RepoError (Program Query Query.Resp) α

/-- Execute a statement, with `?`. -/
def query (q : Query) : StoreSql q.Value := Faults.perform q

/-- A method of `Statement`s, on the database. -/
def ofSql {α : Type} (m : Sql α) : StoreSql α := ExceptT.mk (m.run.lift .base fun _ r => r)

namespace TeamRepo

/-- `TeamRepo::find_by_ctftime_id`, with `map_team`. -/
def findByCtftimeId (ctftimeId : UInt32) : StoreSql (Option Team) := do
  match ← query (.selectTeamByCtftimeId ctftimeId.toInt32) with
  | some row =>
    let memberIds ← query (.base (.selectMembers row.id))
    pure (some (mapTeam row memberIds))
  | none => pure none

/-- The statements of `TeamRepo::save`. -/
def saveStatements (team : Team) : List Query :=
  .insertTeam (.ofTeam team) ::
    team.memberIds.map fun memberId => .base (.setMember team.id memberId)

/-- `TeamRepo::save`. -/
def save (team : Team) : StoreSql Unit := Faults.performAll (saveStatements team)

/-- The statements of `TeamRepo::update`. -/
def updateStatements (team : Team) : List Query :=
  .base (.updateTeam (.ofTeam team)) :: .base (.clearMembers team.id) ::
    team.memberIds.map fun memberId => .base (.setMember team.id memberId)

end TeamRepo

namespace AccountRepo

/-- `AccountRepo::find_by_username`. -/
def findByUsername (username : String) : StoreSql (Option Account) := do
  let row ← query (.selectAccountByUsername username)
  pure (row.map mapAccount)

/-- `AccountRepo::find_by_ctftime_id`. -/
def findByCtftimeId (ctftimeId : UInt32) : StoreSql (Option Account) := do
  let row ← query (.selectAccountByCtftimeId ctftimeId.toInt32)
  pure (row.map mapAccount)

/-- `AccountRepo::save`. -/
def save (account : Account) : StoreSql Unit := do
  let _ ← query (.insertAccount (.ofAccount account))
  pure ()

end AccountRepo

/-! ## What the methods read -/

section Reading

open Faults

variable {refusal : String} {faulty : Prop} {db : Database}

/-- A statement of `Statement` that writes nothing. -/
theorem Statement.result_read {st : Statement} (h : db.tables.write st = db.tables) :
    st.result refusal db = .ok (db.tables.read st, db) := by
  rw [Statement.result, h, Database.commit_tables]
  rfl

/-- As a `Query`, a statement does the same. -/
theorem call_base (w : World Database RepoError) (st : Statement) :
    (Faults.call (Query.result refusal) w (.base st)).1 =
        (Faults.call (Statement.result refusal) w st).1 ∧
      (Faults.call (Query.result refusal) w (.base st)).2 =
        (Faults.call (Statement.result refusal) w st).2 := by
  rw [Faults.call, Faults.call]
  cases w.faults.head?.join with
  | some e => exact ⟨rfl, rfl⟩
  | none =>
    rw [Query.result]
    cases st.result refusal w.state with
    | ok r => exact ⟨rfl, rfl⟩
    | error e => exact ⟨rfl, rfl⟩

/-- A program of `Statement`s, on the database. -/
theorem holds_lift {α : Type} {p : Program Statement Statement.Resp α}
    {Q : α → Database → Prop} (h : Holds (Statement.result refusal) faulty db p Q) :
    Holds (Query.result refusal) faulty db (p.lift .base fun _ r => r) Q :=
  Holds.lift (Query.result refusal) .base (fun _ r => r)
    (fun w st => (call_base w st).1) (fun w st => (call_base w st).2) h

/-- The members of a team, as `map_team` selects them. -/
def TeamTables.memberIds (s : TeamTables) (teamId : TeamId) : List AccountId :=
  (s.accounts.rows.filter fun row => row.teamId = some teamId).map AccountRow.id

theorem TeamTables.mem_memberIds {s : TeamTables} {teamId : TeamId} {accountId : AccountId} :
    accountId ∈ s.memberIds teamId ↔ s.IsMember teamId accountId := by
  simp only [memberIds, IsMember, List.mem_map, List.mem_filter, decide_eq_true_eq]
  constructor
  · rintro ⟨row, ⟨hrow, hteam⟩, rfl⟩
    exact ⟨row, hrow, rfl, hteam⟩
  · rintro ⟨row, hrow, rfl, hteam⟩
    exact ⟨row, ⟨hrow, hteam⟩, rfl⟩

/-- The team with an id, with its members. -/
def TeamTables.teamById (s : TeamTables) (id : TeamId) : Option Team :=
  (s.teams.find? id).map fun row => mapTeam row (s.memberIds row.id)

theorem yields_findById (id : TeamId) :
    Yields (Statement.result refusal) faulty db (Pg.TeamRepo.findById id)
      (db.tables.teamById id) := by
  have hselect : Yields (Statement.result refusal) faulty db (execute (.selectTeam id))
      (db.tables.teams.find? id) := Yields.perform (Statement.result_read rfl)
  refine hselect.bind ?_
  rw [TeamTables.teamById]
  cases db.tables.teams.find? id with
  | none => exact Yields.pure none
  | some row =>
    have hmembers : Yields (Statement.result refusal) faulty db (execute (.selectMembers row.id))
        (db.tables.memberIds row.id) := Yields.perform (Statement.result_read rfl)
    exact hmembers.bind (Yields.pure _)

/-- The team with a CTFtime id, with its members. -/
def TeamTables.teamByCtftimeId (s : TeamTables) (ctftimeId : UInt32) : Option Team :=
  (s.teams.rows.find? fun row => row.ctftimeId = some ctftimeId.toInt32).map fun row =>
    mapTeam row (s.memberIds row.id)

theorem yields_findByCtftimeId (ctftimeId : UInt32) :
    Yields (Query.result refusal) faulty db (Pg.TeamRepo.findByCtftimeId ctftimeId)
      (db.tables.teamByCtftimeId ctftimeId) := by
  have hselect : Yields (Query.result refusal) faulty db
      (query (.selectTeamByCtftimeId ctftimeId.toInt32))
      (db.tables.teams.rows.find? fun row => row.ctftimeId = some ctftimeId.toInt32) :=
    Yields.perform rfl
  refine hselect.bind ?_
  rw [TeamTables.teamByCtftimeId]
  cases db.tables.teams.rows.find? fun row => row.ctftimeId = some ctftimeId.toInt32 with
  | none => exact Yields.pure none
  | some row =>
    have hmembers : Yields (Query.result refusal) faulty db
        (query (.base (.selectMembers row.id))) (db.tables.memberIds row.id) :=
      Yields.perform (Statement.result_read rfl)
    exact hmembers.bind (Yields.pure _)

/-- The account with a username. -/
def TeamTables.accountByUsername (s : TeamTables) (username : String) : Option Account :=
  (s.accounts.rows.find? fun row => row.username = username).map mapAccount

theorem yields_findByUsername (username : String) :
    Yields (Query.result refusal) faulty db (Pg.AccountRepo.findByUsername username)
      (db.tables.accountByUsername username) := by
  have hselect : Yields (Query.result refusal) faulty db
      (query (.selectAccountByUsername username))
      (db.tables.accounts.rows.find? fun row => row.username = username) := Yields.perform rfl
  exact hselect.bind (Yields.pure _)

/-- The account with a CTFtime id. -/
def TeamTables.accountByCtftimeId (s : TeamTables) (ctftimeId : UInt32) : Option Account :=
  (s.accounts.rows.find? fun row => row.ctftimeId = some ctftimeId.toInt32).map mapAccount

theorem yields_accountByCtftimeId (ctftimeId : UInt32) :
    Yields (Query.result refusal) faulty db (Pg.AccountRepo.findByCtftimeId ctftimeId)
      (db.tables.accountByCtftimeId ctftimeId) := by
  have hselect : Yields (Query.result refusal) faulty db
      (query (.selectAccountByCtftimeId ctftimeId.toInt32))
      (db.tables.accounts.rows.find? fun row => row.ctftimeId = some ctftimeId.toInt32) :=
    Yields.perform rfl
  exact hselect.bind (Yields.pure _)

/-! ## What the methods write -/

/-- An account that was inserted. -/
theorem insertAccount_ok {db' : Database} {row : AccountRow}
    (h : Query.result refusal db (.insertAccount row) = .ok ((), db')) :
    ∃ accounts, db.tables.accounts.insert row = some accounts ∧
      db'.tables = { db.tables with accounts := accounts } := by
  rw [Query.result] at h
  cases hinsert : db.tables.accounts.insert row with
  | none =>
    rw [hinsert] at h
    cases h
  | some accounts =>
    rw [hinsert] at h
    obtain ⟨db₁, hcommit, heq⟩ := Checks.map_eq_ok_iff.mp h
    obtain rfl : db₁ = db' := congrArg Prod.snd heq
    exact ⟨accounts, rfl, Database.tables_of_commit hcommit⟩

/-- A team that was inserted. -/
theorem insertTeam_ok {db' : Database} {row : TeamRow}
    (h : Query.result refusal db (.insertTeam row) = .ok ((), db')) :
    ∃ teams, db.tables.teams.insert row = some teams ∧
      db'.tables = { db.tables with teams := teams } := by
  rw [Query.result] at h
  cases hinsert : db.tables.teams.insert row with
  | none =>
    rw [hinsert] at h
    cases h
  | some teams =>
    rw [hinsert] at h
    obtain ⟨db₁, hcommit, heq⟩ := Checks.map_eq_ok_iff.mp h
    obtain rfl : db₁ = db' := congrArg Prod.snd heq
    exact ⟨teams, rfl, Database.tables_of_commit hcommit⟩

/-- An account is saved by its one statement, or not at all. -/
theorem holds_saveAccount (account : Account) :
    Holds (Query.result refusal) faulty db (Pg.AccountRepo.save account).run fun r db' =>
      (r = .ok () ∧
        Query.result refusal db (.insertAccount (.ofAccount account)) = .ok ((), db')) ∨
      (∃ e, r = .error e ∧
        (faulty ∨ Query.result refusal db (.insertAccount (.ofAccount account)) = .error e)) ∧
        db' = db := by
  refine Holds.call ?_ ?_ ?_
  · exact fun hfaulty e => Holds.done (.inr ⟨⟨e, rfl, .inl hfaulty⟩, rfl⟩)
  · exact fun e herror => Holds.done (.inr ⟨⟨e, rfl, .inr herror⟩, rfl⟩)
  · exact fun _ db' hok => Holds.done (.inl ⟨rfl, hok⟩)

end Reading

end Cctf.Pg

import Cctf.Repos.Traits

/-!
# The `teams` and `accounts` tables

`TeamRepo for PgStore` and `AccountRepo for PgStore`, down to the SQL statements:
a team's members are the accounts whose `team_id` names it, so reading a team is two
statements, and updating one clears the column for the whole team and then sets it
for every account on the list.

* `TeamRow`, `AccountRow`, `mapTeam`, `mapAccount` — the rows and their mapping;
  `mapAccount_ofAccount`, `mapTeam_ofTeam` are the round trips.
* `Statement` — the statements, `TeamTables.handler` what they do when they succeed.
* `TeamRepo.findById`, `TeamRepo.update`, `AccountRepo.findById`,
  `AccountRepo.update` — the methods, as programs of statements.
-/

namespace Cctf.Pg

open Program

/-! ## Rows -/

/-- A row of `teams`. -/
structure TeamRow where
  id : TeamId
  name : String
  ctftimeId : Option Int32
  inviteCode : Option String
  captainId : AccountId
  bracket : String
  fields : JsonFields
  createdAt : ℤ
  deriving DecidableEq

/-- A row of `accounts`. -/
structure AccountRow where
  id : AccountId
  username : String
  email : Option String
  passwordHash : Option String
  role : String
  teamId : Option TeamId
  ctftimeId : Option Int32
  fields : JsonFields
  createdAt : ℤ
  deriving DecidableEq

/-- The text of a role column. -/
def roleStr : AccountRole → String
  | .admin => "Admin"
  | .spectator => "Spectator"
  | .player => "Player"

/-- A role column read back; any other text is a player. -/
def roleOfStr (s : String) : AccountRole :=
  if s = "Admin" then .admin else if s = "Spectator" then .spectator else .player

@[simp] theorem roleOfStr_roleStr (role : AccountRole) : roleOfStr (roleStr role) = role := by
  cases role <;> decide

/-- The values the statements on `accounts` bind. -/
def AccountRow.ofAccount (account : Account) : AccountRow where
  id := account.id
  username := account.username
  email := account.email
  passwordHash := account.passwordHash
  role := roleStr account.role
  teamId := account.teamId
  ctftimeId := account.ctftimeId.map UInt32.toInt32
  fields := account.fields
  createdAt := account.createdAt

/-- `map_account`. -/
def mapAccount (row : AccountRow) : Account where
  id := row.id
  username := row.username
  email := row.email
  passwordHash := row.passwordHash
  role := roleOfStr row.role
  teamId := row.teamId
  ctftimeId := row.ctftimeId.map Int32.toUInt32
  fields := row.fields
  createdAt := row.createdAt

theorem toUInt32_comp_toInt32 : Int32.toUInt32 ∘ UInt32.toInt32 = id := by
  funext n
  simp

/-- No account is changed by being stored. -/
@[simp] theorem mapAccount_ofAccount (account : Account) :
    mapAccount (.ofAccount account) = account := by
  simp [mapAccount, AccountRow.ofAccount, toUInt32_comp_toInt32]

/-- The values the statements on `teams` bind; the members are not among them. -/
def TeamRow.ofTeam (team : Team) : TeamRow where
  id := team.id
  name := team.name
  ctftimeId := team.ctftimeId.map UInt32.toInt32
  inviteCode := team.inviteCode
  captainId := team.captainId
  bracket := team.bracket
  fields := team.fields
  createdAt := team.createAt

/-- `map_team`, with the member ids it selects. -/
def mapTeam (row : TeamRow) (memberIds : List AccountId) : Team where
  id := row.id
  name := row.name
  ctftimeId := row.ctftimeId.map Int32.toUInt32
  inviteCode := row.inviteCode
  captainId := row.captainId
  memberIds := memberIds
  bracket := row.bracket
  fields := row.fields
  createAt := row.createdAt

/-- No team is changed by being stored, if its members are found again. -/
@[simp] theorem mapTeam_ofTeam (team : Team) : mapTeam (.ofTeam team) team.memberIds = team := by
  simp [mapTeam, TeamRow.ofTeam, toUInt32_comp_toInt32]

theorem toInt32_comp_toUInt32 : UInt32.toInt32 ∘ Int32.toUInt32 = id := by
  funext n
  simp

/-- No row is changed by being read and stored again. -/
@[simp] theorem ofTeam_mapTeam (row : TeamRow) (memberIds : List AccountId) :
    TeamRow.ofTeam (mapTeam row memberIds) = row := by
  simp [mapTeam, TeamRow.ofTeam, toInt32_comp_toUInt32]

/-! ## Statements -/

/-- The two tables. -/
structure TeamTables where
  teams : Table TeamRow TeamId TeamRow.id
  accounts : Table AccountRow AccountId AccountRow.id

/-- The SQL statements of the two repositories. -/
inductive Statement where
  /-- `SELECT * FROM teams WHERE id = $1` -/
  | selectTeam (id : TeamId)
  /-- `SELECT id FROM accounts WHERE team_id = $1` -/
  | selectMembers (teamId : TeamId)
  /-- `SELECT * FROM accounts WHERE id = $1` -/
  | selectAccount (id : AccountId)
  /-- `UPDATE accounts SET username = $1, … WHERE id = $9` -/
  | updateAccount (row : AccountRow)
  /-- `UPDATE teams SET name = $1, … WHERE id = $8` -/
  | updateTeam (row : TeamRow)
  /-- `UPDATE accounts SET team_id = NULL WHERE team_id = $1` -/
  | clearMembers (teamId : TeamId)
  /-- `UPDATE accounts SET team_id = $1 WHERE id = $2` -/
  | setMember (teamId : TeamId) (accountId : AccountId)

namespace Statement

/-- What a statement returns when it succeeds. -/
def Value : Statement → Type
  | .selectTeam _ => Option TeamRow
  | .selectMembers _ => List AccountId
  | .selectAccount _ => Option AccountRow
  | .updateAccount _ => Unit
  | .updateTeam _ => Unit
  | .clearMembers _ => Unit
  | .setMember _ _ => Unit

/-- What a statement returns. -/
abbrev Resp (st : Statement) : Type := Except RepoError st.Value

end Statement

namespace TeamTables

/-- The result of a statement that succeeds. -/
def read (s : TeamTables) : (st : Statement) → st.Value
  | .selectTeam id => s.teams.find? id
  | .selectMembers teamId =>
      (s.accounts.rows.filter fun row => row.teamId = some teamId).map AccountRow.id
  | .selectAccount id => s.accounts.find? id
  | .updateAccount _ => ()
  | .updateTeam _ => ()
  | .clearMembers _ => ()
  | .setMember _ _ => ()

/-- What a statement that succeeds leaves in the tables. -/
def write (s : TeamTables) : Statement → TeamTables
  | .updateAccount row => { s with
      accounts := s.accounts.updateWhere (fun r => decide (r.id = row.id))
        (fun r => { row with id := r.id }) fun _ => rfl }
  | .updateTeam row => { s with
      teams := s.teams.updateWhere (fun r => decide (r.id = row.id))
        (fun r => { row with id := r.id }) fun _ => rfl }
  | .clearMembers teamId => { s with
      accounts := s.accounts.updateWhere (fun r => decide (r.teamId = some teamId))
        (fun r => { r with teamId := none }) fun _ => rfl }
  | .setMember teamId accountId => { s with
      accounts := s.accounts.updateWhere (fun r => decide (r.id = accountId))
        (fun r => { r with teamId := some teamId }) fun _ => rfl }
  | _ => s

/-- Tables on which every statement succeeds. -/
def handler : Handler Statement Statement.Resp TeamTables where
  answer s st := .ok (s.read st)
  next := write

/-- The ids of all accounts. -/
def accountIds (s : TeamTables) : List AccountId := s.accounts.rows.map AccountRow.id

/-- No statement adds or removes an account. -/
@[simp] theorem accountIds_write (s : TeamTables) (st : Statement) :
    (s.write st).accountIds = s.accountIds := by
  cases st with
  | updateAccount row =>
    exact Table.keys_updateWhere s.accounts _ (fun r => { row with id := r.id }) fun _ => rfl
  | clearMembers teamId =>
    exact Table.keys_updateWhere s.accounts _ (fun r => { r with teamId := none }) fun _ => rfl
  | setMember teamId accountId =>
    exact Table.keys_updateWhere s.accounts _ (fun r => { r with teamId := some teamId })
      fun _ => rfl
  | _ => rfl

/-- Is the account a member of the team? -/
def IsMember (teamId : TeamId) (s : TeamTables) (accountId : AccountId) : Prop :=
  ∃ row ∈ s.accounts.rows, row.id = accountId ∧ row.teamId = some teamId

theorem mem_accountIds_of_isMember {teamId : TeamId} {s : TeamTables} {accountId : AccountId}
    (h : s.IsMember teamId accountId) : accountId ∈ s.accountIds := by
  obtain ⟨row, hrow, rfl, -⟩ := h
  exact List.mem_map_of_mem hrow

theorem isMember_setMember {teamId : TeamId} {s : TeamTables} {accountId : AccountId}
    (h : accountId ∈ s.accountIds) :
    (s.write (.setMember teamId accountId)).IsMember teamId accountId := by
  obtain ⟨row, hrow, hid⟩ := List.mem_map.1 h
  refine ⟨{ row with teamId := some teamId }, List.mem_map.2 ⟨row, hrow, ?_⟩, hid, rfl⟩
  rw [if_pos (by simpa using hid)]

/-- Who is no account is put on no team. -/
theorem write_setMember_absent {teamId : TeamId} {s : TeamTables} {accountId : AccountId}
    (h : accountId ∉ s.accountIds) : s.write (.setMember teamId accountId) = s := by
  have haccounts : (s.accounts.updateWhere (fun r => decide (r.id = accountId))
      (fun r => { r with teamId := some teamId }) fun _ => rfl) = s.accounts := by
    refine Table.ext ((List.map_congr_left fun r hr => ?_).trans (List.map_id _))
    have hid : r.id ≠ accountId := fun hid => h (hid ▸ List.mem_map_of_mem hr)
    rw [if_neg (by simpa using hid)]
    rfl
  rw [write, haccounts]

theorem isMember_updateAccount {teamId : TeamId} {s : TeamTables} {row : AccountRow}
    (h : row.id ∈ s.accountIds) (hteam : row.teamId = some teamId) :
    (s.write (.updateAccount row)).IsMember teamId row.id := by
  obtain ⟨old, hold, hid⟩ := List.mem_map.1 h
  refine ⟨{ row with id := old.id }, List.mem_map.2 ⟨old, hold, ?_⟩, hid, hteam⟩
  rw [if_pos (by simpa using hid)]

/-- Only a clear, or a write that moves an account elsewhere, ends a membership. -/
theorem isMember_write {teamId : TeamId} {s : TeamTables} {st : Statement} {accountId : AccountId}
    (h : s.IsMember teamId accountId) (hclear : ∀ id, st ≠ .clearMembers id)
    (hupdate : ∀ row, st = .updateAccount row → row.teamId = some teamId)
    (hset : ∀ id a, st = .setMember id a → id = teamId) :
    (s.write st).IsMember teamId accountId := by
  obtain ⟨old, hold, rfl, hteam⟩ := h
  cases st with
  | clearMembers id => exact absurd rfl (hclear id)
  | updateAccount row =>
    refine ⟨_, List.mem_map.2 ⟨old, hold, rfl⟩, ?_⟩
    by_cases hid : old.id = row.id
    · rw [if_pos (by simpa using hid)]
      exact ⟨rfl, hupdate row rfl⟩
    · rw [if_neg (by simpa using hid)]
      exact ⟨rfl, hteam⟩
  | setMember id a =>
    refine ⟨_, List.mem_map.2 ⟨old, hold, rfl⟩, ?_⟩
    by_cases hid : old.id = a
    · rw [if_pos (by simpa using hid)]
      exact ⟨rfl, by rw [hset id a rfl]⟩
    · rw [if_neg (by simpa using hid)]
      exact ⟨rfl, hteam⟩
  | _ => exact ⟨old, hold, rfl, hteam⟩

end TeamTables

/-! ## The methods -/

/-- A repository computation on the two tables. -/
abbrev Sql (α : Type) : Type := ExceptT RepoError (Program Statement Statement.Resp) α

/-- Execute a statement, with `?`. -/
def execute (st : Statement) : Sql st.Value := ExceptT.mk (.call st .done)

namespace TeamRepo

/-- `TeamRepo::find_by_id`, with `map_team`. -/
def findById (id : TeamId) : Sql (Option Team) := do
  match ← execute (.selectTeam id) with
  | some row =>
    let memberIds ← execute (.selectMembers row.id)
    pure (some (mapTeam row memberIds))
  | none => pure none

/-- The loop of `TeamRepo::update` over the member list. -/
def setMembers (teamId : TeamId) : List AccountId → Sql Unit
  | [] => pure ()
  | memberId :: rest => do
    let _ ← execute (.setMember teamId memberId)
    setMembers teamId rest

/-- `TeamRepo::update`. -/
def update (team : Team) : Sql Unit := do
  let _ ← execute (.updateTeam (.ofTeam team))
  let _ ← execute (.clearMembers team.id)
  setMembers team.id team.memberIds

end TeamRepo

namespace AccountRepo

/-- `AccountRepo::find_by_id`. -/
def findById (id : AccountId) : Sql (Option Account) := do
  let row ← execute (.selectAccount id)
  pure (row.map mapAccount)

/-- `AccountRepo::update`. -/
def update (account : Account) : Sql Unit := do
  let _ ← execute (.updateAccount (.ofAccount account))
  pure ()

end AccountRepo

end Cctf.Pg

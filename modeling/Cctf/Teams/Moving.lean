import Cctf.Api.Teams
import Cctf.Repos.Pg.Database

/-!
# What joining a team does

`join_team` on its own, without faults: the account moves to the team, every other account
stays where it is, and no team changes.

* `teamOf` — the team an account is on, as a function of the tables; `Regroups` — tables
  that differ in it only.
* `commit_updateAccounts` — an update of accounts that keeps the unique columns and names
  teams that exist satisfies the constraints.
* `updateAccount_does`, `clearMembers_does`, `setMember_does` — what each statement does.
* `updateTeam_regroups` — what `TeamRepo::update` does with another member list.
* `holds_joinVerified` — **the handler moves its account, or nothing**.
-/

namespace Cctf

open Program Pg Faults

/-! ## The team an account is on -/

namespace Pg.TeamTables

/-- The team an account is on. -/
def teamOf (s : TeamTables) (accountId : AccountId) : Option TeamId :=
  (s.accounts.find? accountId).bind AccountRow.teamId

theorem isMember_iff {s : TeamTables} {teamId : TeamId} {accountId : AccountId} :
    s.IsMember teamId accountId ↔ s.teamOf accountId = some teamId := by
  simp only [IsMember, teamOf, Option.bind_eq_some_iff, Table.find?_eq_some_iff]
  constructor
  · rintro ⟨row, hrow, hid, hteam⟩
    exact ⟨row, ⟨hrow, hid⟩, hteam⟩
  · rintro ⟨row, ⟨hrow, hid⟩, hteam⟩
    exact ⟨row, hrow, hid, hteam⟩

theorem mem_memberIds_iff {s : TeamTables} {teamId : TeamId} {accountId : AccountId} :
    accountId ∈ s.memberIds teamId ↔ s.teamOf accountId = some teamId :=
  mem_memberIds.trans isMember_iff

/-- The tables with some accounts updated. -/
def updateAccounts (s : TeamTables) (p : AccountRow → Bool) (f : AccountRow → AccountRow)
    (hf : ∀ row, (f row).id = row.id) : TeamTables :=
  { s with accounts := s.accounts.updateWhere p f hf }

theorem teamOf_updateAccounts (s : TeamTables) (p : AccountRow → Bool)
    (f : AccountRow → AccountRow) (hf : ∀ row, (f row).id = row.id) (accountId : AccountId) :
    (s.updateAccounts p f hf).teamOf accountId =
      (s.accounts.find? accountId).bind fun row => if p row then (f row).teamId else row.teamId := by
  rw [teamOf, updateAccounts, Table.find?_updateWhere]
  cases s.accounts.find? accountId with
  | none => rfl
  | some row => by_cases hp : p row = true <;> simp [hp]

/-- A column that an update leaves alone. -/
theorem map_updateWhere {γ : Type} {T : Table AccountRow AccountId AccountRow.id}
    {p : AccountRow → Bool} {f : AccountRow → AccountRow} {hf : ∀ row, (f row).id = row.id}
    {column : AccountRow → γ} (h : ∀ row ∈ T.rows, p row = true → column (f row) = column row) :
    (T.updateWhere p f hf).rows.map column = T.rows.map column := by
  rw [Table.updateWhere, List.map_map]
  refine List.map_congr_left fun row hrow => ?_
  by_cases hp : p row = true
  · simp [hp, h row hrow hp]
  · simp [hp]

end Pg.TeamTables

/-- An update of accounts that keeps the unique columns, and puts accounts on teams that
exist, satisfies the constraints. -/
theorem Pg.Database.commit_updateAccounts (refusal : String) (db : Database)
    (p : AccountRow → Bool) (f : AccountRow → AccountRow) (hf : ∀ row, (f row).id = row.id)
    (hname : ∀ row ∈ db.tables.accounts.rows, p row = true → (f row).username = row.username)
    (hctftime : ∀ row ∈ db.tables.accounts.rows, p row = true →
      (f row).ctftimeId = row.ctftimeId)
    (hteam : ∀ row ∈ db.tables.accounts.rows, p row = true →
      ∀ teamId, (f row).teamId = some teamId → teamId ∈ db.tables.teamIds) :
    ∃ db', Database.commit refusal (db.tables.updateAccounts p f hf) = .ok db' ∧
      db'.tables = db.tables.updateAccounts p f hf := by
  have hdistinct : (db.tables.updateAccounts p f hf).Distinct := by
    obtain ⟨hnames, hteamIds, husernames, hids⟩ := db.distinct
    refine ⟨hnames, hteamIds, ?_, ?_⟩
    · rw [TeamTables.updateAccounts, TeamTables.map_updateWhere hname]
      exact husernames
    · have hcolumn : ∀ rows : List AccountRow, rows.filterMap AccountRow.ctftimeId =
          (rows.map AccountRow.ctftimeId).filterMap id := fun rows => by
        rw [List.filterMap_map]
        rfl
      rw [hcolumn, TeamTables.updateAccounts, TeamTables.map_updateWhere hctftime, ← hcolumn]
      exact hids
  have hreferences : (db.tables.updateAccounts p f hf).References := by
    intro teamId hmem
    obtain ⟨row', hrow', hteamId⟩ := List.mem_filterMap.mp hmem
    obtain ⟨row, hrow, rfl⟩ := List.mem_map.mp hrow'
    by_cases hp : p row = true
    · rw [if_pos hp] at hteamId
      exact hteam row hrow hp teamId hteamId
    · rw [if_neg hp] at hteamId
      exact db.references teamId (List.mem_filterMap.mpr ⟨row, hrow, hteamId⟩)
  exact ⟨_, Database.commit_eq_ok hdistinct hreferences, rfl⟩

/-! ## What each statement does -/

/-- The teams and the accounts are the same, and each account is on the team that `team`
says. -/
structure Regroups (db db' : Database) (team : AccountId → Option TeamId) : Prop where
  teams : db'.tables.teams = db.tables.teams
  accounts : db'.tables.accountIds = db.tables.accountIds
  teamOf : ∀ a, db'.tables.teamOf a = team a

section Statements

variable (refusal : String) {db : Database} {teamId : TeamId}

/-- `UPDATE accounts SET …` on an account that is there, with nothing new that is unique. -/
theorem updateAccount_does {row : AccountRow} (new : AccountRow)
    (hrow : row ∈ db.tables.accounts.rows) (hid : new.id = row.id) (hname : new.username = row.username)
    (hctftime : new.ctftimeId = row.ctftimeId) (hnew : new.teamId = some teamId)
    (hteam : teamId ∈ db.tables.teamIds) :
    ∃ db', Statement.result refusal db (.updateAccount new) = .ok ((), db') ∧
      Regroups db db' fun a => if a = row.id then some teamId else db.tables.teamOf a := by
  have hrows : ∀ r ∈ db.tables.accounts.rows, decide (r.id = new.id) = true → r = row :=
    fun r hr h => db.tables.accounts.eq_of_key_eq hr hrow ((of_decide_eq_true h).trans hid)
  obtain ⟨db', hcommit, htables⟩ := Database.commit_updateAccounts refusal db
    (fun r => decide (r.id = new.id)) (fun r => { new with id := r.id }) (fun _ => rfl)
    (fun r hr h => by rw [hrows r hr h]; exact hname)
    (fun r hr h => by rw [hrows r hr h]; exact hctftime)
    fun r hr h t ht => by cases hnew.symm.trans ht; exact hteam
  have hresult : Statement.result refusal db (.updateAccount new) = .ok ((), db') :=
    congrArg (Except.map _) hcommit
  have haccounts : db'.tables.accountIds = db.tables.accountIds := by
    rw [htables]
    exact TeamTables.accountIds_write db.tables (.updateAccount new)
  refine ⟨db', hresult, by rw [htables]; rfl, haccounts, fun a => ?_⟩
  rw [htables, TeamTables.teamOf_updateAccounts, TeamTables.teamOf]
  by_cases ha : a = row.id
  · rw [if_pos ha, ha, Table.find?_key hrow]
    simp [hid, hnew]
  · rw [if_neg ha]
    cases hfind : db.tables.accounts.find? a with
    | none => rfl
    | some r =>
      have hr := (Table.find?_eq_some_iff.mp hfind).2
      simp [hr, hid, ha]

/-- `UPDATE accounts SET team_id = NULL WHERE team_id = $1` -/
theorem clearMembers_does (db : Database) (teamId : TeamId) :
    ∃ db', Statement.result refusal db (.clearMembers teamId) = .ok ((), db') ∧
      Regroups db db' fun a =>
        if db.tables.teamOf a = some teamId then none else db.tables.teamOf a := by
  obtain ⟨db', hcommit, htables⟩ := Database.commit_updateAccounts refusal db
    (fun r => decide (r.teamId = some teamId)) (fun r => { r with teamId := none }) (fun _ => rfl)
    (fun _ _ _ => rfl) (fun _ _ _ => rfl) fun _ _ _ t ht => nomatch ht
  have hresult : Statement.result refusal db (.clearMembers teamId) = .ok ((), db') :=
    congrArg (Except.map _) hcommit
  have haccounts : db'.tables.accountIds = db.tables.accountIds := by
    rw [htables]
    exact TeamTables.accountIds_write db.tables (.clearMembers teamId)
  refine ⟨db', hresult, by rw [htables]; rfl, haccounts, fun a => ?_⟩
  rw [htables, TeamTables.teamOf_updateAccounts, TeamTables.teamOf]
  cases db.tables.accounts.find? a with
  | none => rfl
  | some r => simp

/-- `UPDATE accounts SET team_id = $1 WHERE id = $2` -/
theorem setMember_does (accountId : AccountId) (hteam : teamId ∈ db.tables.teamIds) :
    ∃ db', Statement.result refusal db (.setMember teamId accountId) = .ok ((), db') ∧
      Regroups db db' fun a =>
        if a = accountId ∧ a ∈ db.tables.accountIds then some teamId else db.tables.teamOf a := by
  obtain ⟨db', hcommit, htables⟩ := Database.commit_updateAccounts refusal db
    (fun r => decide (r.id = accountId)) (fun r => { r with teamId := some teamId })
    (fun _ => rfl) (fun _ _ _ => rfl) (fun _ _ _ => rfl) fun _ _ _ t ht => by
      cases ht
      exact hteam
  have hresult : Statement.result refusal db (.setMember teamId accountId) = .ok ((), db') :=
    congrArg (Except.map _) hcommit
  have haccounts : db'.tables.accountIds = db.tables.accountIds := by
    rw [htables]
    exact TeamTables.accountIds_write db.tables (.setMember teamId accountId)
  refine ⟨db', hresult, by rw [htables]; rfl, haccounts, fun a => ?_⟩
  rw [htables, TeamTables.teamOf_updateAccounts, TeamTables.teamOf]
  cases hfind : db.tables.accounts.find? a with
  | none =>
    have hnot : a ∉ db.tables.accountIds := fun hmem => by
      obtain ⟨row, hrow, hid⟩ := List.mem_map.mp hmem
      exact Table.find?_eq_none_iff.mp hfind row hrow hid
    simp [hnot]
  | some r =>
    obtain ⟨hrow, rfl⟩ := Table.find?_eq_some_iff.mp hfind
    have hmem : r.id ∈ db.tables.accountIds := List.mem_map_of_mem hrow
    simp [hmem]

/-- `UPDATE teams SET …` with the row that is there. -/
theorem updateTeam_does {row : TeamRow} (hrow : row ∈ db.tables.teams.rows)
    (memberIds : List AccountId) :
    Statement.result refusal db (.updateTeam (.ofTeam (mapTeam row memberIds))) = .ok ((), db) := by
  refine Statement.result_read ?_
  have hteams : (db.tables.teams.updateWhere (fun r => decide (r.id = row.id))
      (fun r => { row with id := r.id }) fun _ => rfl) = db.tables.teams := by
    refine Table.ext ((List.map_congr_left fun r hr => ?_).trans (List.map_id _))
    by_cases hid : r.id = row.id
    · rw [if_pos (decide_eq_true hid), db.tables.teams.eq_of_key_eq hr hrow hid]
      rfl
    · rw [if_neg (by simpa using hid)]
      rfl
  rw [ofTeam_mapTeam, TeamTables.write, hteams]

/-- The loop of `TeamRepo::update` over the member list. -/
theorem setMembers_does (teamId : TeamId) (memberIds : List AccountId) {db : Database}
    (hteam : teamId ∈ db.tables.teamIds) :
    ∃ db', Does (Statement.result refusal) db (Pg.TeamRepo.setMembers teamId memberIds) () db' ∧
      Regroups db db' fun a =>
        if a ∈ memberIds ∧ a ∈ db.tables.accountIds then some teamId else db.tables.teamOf a := by
  induction memberIds generalizing db with
  | nil => exact ⟨db, Does.pure db (), rfl, rfl, fun a => by simp⟩
  | cons memberId rest ih =>
    obtain ⟨db₁, hset, hregroups⟩ := setMember_does refusal memberId hteam
    have hteam₁ : teamId ∈ db₁.tables.teamIds := by
      rw [TeamTables.teamIds, hregroups.teams]
      exact hteam
    obtain ⟨db₂, hrest, hregroups₂⟩ := ih hteam₁
    refine ⟨db₂, (Does.perform hset).bind hrest, hregroups₂.teams.trans hregroups.teams,
      hregroups₂.accounts.trans hregroups.accounts, fun a => ?_⟩
    rw [hregroups₂.teamOf, hregroups.teamOf, hregroups.accounts]
    by_cases hmem : a ∈ db.tables.accountIds
    · simp only [hmem, and_true, List.mem_cons]
      by_cases ha : a = memberId
      · rw [if_pos ha, ite_self, if_pos (Or.inl ha)]
      · simp only [ha, false_or, if_false]
    · simp only [hmem, and_false, if_false]

/-- `TeamRepo::update` of a team as it is, with another member list. -/
theorem updateTeam_regroups {row : TeamRow} (hrow : row ∈ db.tables.teams.rows)
    (memberIds : List AccountId) :
    ∃ db', Does (Statement.result refusal) db (Pg.TeamRepo.update (mapTeam row memberIds)) () db' ∧
      Regroups db db' fun a =>
        if a ∈ memberIds ∧ a ∈ db.tables.accountIds then some row.id
        else if db.tables.teamOf a = some row.id then none else db.tables.teamOf a := by
  obtain ⟨db₁, hclear, hregroups⟩ := clearMembers_does refusal db row.id
  have hteam : row.id ∈ db₁.tables.teamIds := by
    rw [TeamTables.teamIds, hregroups.teams]
    exact List.mem_map_of_mem hrow
  obtain ⟨db₂, hset, hregroups₂⟩ := setMembers_does refusal row.id memberIds hteam
  refine ⟨db₂, (Does.perform (updateTeam_does refusal hrow memberIds)).bind
    ((Does.perform hclear).bind hset), hregroups₂.teams.trans hregroups.teams,
    hregroups₂.accounts.trans hregroups.accounts, fun a => ?_⟩
  rw [hregroups₂.teamOf, hregroups.teamOf, hregroups.accounts]

end Statements

/-! ## The handler -/

/-- The request moves its account: the team and the account are there, and the bracket
lets the account in. -/
def admits (E : Engines) (scripts : String → Option String) (s : TeamTables) (teamId : TeamId)
    (accountId : AccountId) : Bool :=
  match s.teams.find? teamId, s.accounts.find? accountId with
  | some team, some account => bracketAllows E scripts team.bracket (mapAccount account)
  | _, _ => false

section Joining

variable {E : Engines} {scripts : String → Option String} {refusal : String} {db : Database}
  {teamId : TeamId} {accountId : AccountId}

theorem yields_accountById (accountId : AccountId) :
    Yields (Statement.result refusal) False db (Pg.AccountRepo.findById accountId)
      ((db.tables.accounts.find? accountId).map mapAccount) := by
  have hselect : Yields (Statement.result refusal) False db (execute (.selectAccount accountId))
      (db.tables.accounts.find? accountId) := Yields.perform (Statement.result_read rfl)
  exact hselect.bind (Yields.pure _)

/-- `AccountRepo::update` of an account as it is, but on another team. -/
theorem joinAccount_does (refusal : String) {account : AccountRow}
    (haccount : account ∈ db.tables.accounts.rows) (hteam : teamId ∈ db.tables.teamIds) :
    ∃ db', Does (Statement.result refusal) db
        (Pg.AccountRepo.update { mapAccount account with teamId := some teamId }) () db' ∧
      Regroups db db' fun a => if a = account.id then some teamId else db.tables.teamOf a := by
  have hctftime : (AccountRow.ofAccount { mapAccount account with teamId := some teamId }).ctftimeId
      = account.ctftimeId := by
    simp [AccountRow.ofAccount, mapAccount, toInt32_comp_toUInt32]
  obtain ⟨db', hresult, hregroups⟩ := updateAccount_does refusal
    (.ofAccount { mapAccount account with teamId := some teamId }) haccount rfl rfl hctftime rfl
    hteam
  exact ⟨db', (Does.perform hresult).bind (Does.pure db' ()), hregroups⟩

/-- The longer member list puts the account on the team and leaves the others. -/
theorem joinTeam_does (refusal : String) {db₁ : Database} {team : TeamRow}
    (hteam : team ∈ db.tables.teams.rows) (haccount : accountId ∈ db.tables.accountIds)
    (hregroups : Regroups db db₁ fun a =>
      if a = accountId then some team.id else db.tables.teamOf a) :
    ∃ db₂, Does (Statement.result refusal) db₁
        (Pg.TeamRepo.update (mapTeam team (db.tables.memberIds team.id ++ [accountId]))) () db₂ ∧
      Regroups db db₂ fun a => if a = accountId then some team.id else db.tables.teamOf a := by
  obtain ⟨db₂, hupdate, hregroups₂⟩ := updateTeam_regroups refusal (hregroups.teams ▸ hteam)
    (db.tables.memberIds team.id ++ [accountId])
  refine ⟨db₂, hupdate, hregroups₂.teams.trans hregroups.teams,
    hregroups₂.accounts.trans hregroups.accounts, fun a => ?_⟩
  rw [hregroups₂.teamOf, hregroups.teamOf, hregroups.accounts]
  by_cases ha : a = accountId
  · rw [if_pos ha, if_pos ⟨List.mem_append_right _ (List.mem_singleton.mpr ha), ha ▸ haccount⟩]
  · rw [if_neg ha]
    by_cases hmember : db.tables.teamOf a = some team.id
    · have hlist := TeamTables.mem_memberIds_iff.mpr hmember
      have hthere := TeamTables.mem_accountIds_of_isMember (TeamTables.isMember_iff.mpr hmember)
      rw [if_pos ⟨List.mem_append_left _ hlist, hthere⟩, hmember]
    · have hlist : a ∉ db.tables.memberIds team.id ++ [accountId] := fun hmem => by
        rcases List.mem_append.mp hmem with hlist | hself
        · exact hmember (TeamTables.mem_memberIds_iff.mp hlist)
        · exact ha (List.mem_singleton.mp hself)
      rw [if_neg fun h => hlist h.1, if_neg hmember]

/-- **What a request does**: it moves its account, or nothing. -/
theorem holds_joinVerified (refusal : String) (E : Engines) (scripts : String → Option String)
    (db : Database) (teamId : TeamId) (accountId : AccountId) :
    Holds (Statement.result refusal) False db (joinVerified E scripts teamId accountId)
      fun _ db' => if admits E scripts db.tables teamId accountId then
          Regroups db db' fun a => if a = accountId then some teamId else db.tables.teamOf a
        else db' = db := by
  refine (yields_findById teamId).does.holds_bind ?_
  rw [admits, TeamTables.teamById]
  cases hteam : db.tables.teams.find? teamId with
  | none => exact Holds.done rfl
  | some team =>
    refine (yields_accountById accountId).does.holds_bind ?_
    cases haccount : db.tables.accounts.find? accountId with
    | none => exact Holds.done rfl
    | some account =>
      obtain ⟨hteamRow, rfl⟩ := Table.find?_eq_some_iff.mp hteam
      obtain ⟨haccountRow, rfl⟩ := Table.find?_eq_some_iff.mp haccount
      have hthere : account.id ∈ db.tables.accountIds := List.mem_map_of_mem haccountRow
      by_cases hallowed : bracketAllows E scripts team.bracket (mapAccount account) = true
      · obtain ⟨db₁, hupdate, hregroups⟩ := joinAccount_does refusal haccountRow
          (List.mem_map_of_mem (f := TeamRow.id) hteamRow)
        obtain ⟨db₂, hjoin, hregroups₂⟩ := joinTeam_does refusal hteamRow hthere hregroups
        dsimp only [Option.map_some]
        rw [if_pos (show bracketAllows E scripts (mapTeam team _).bracket _ = true from hallowed)]
        simp only [if_pos hallowed]
        refine hupdate.holds_bind ?_
        by_cases hmember : account.id ∈ (mapTeam team (db.tables.memberIds team.id)).memberIds
        · simp only [if_pos hmember]
          exact Holds.done hregroups
        · simp only [if_neg hmember]
          exact hjoin.holds_bind (Holds.done hregroups₂)
      · dsimp only [Option.map_some]
        rw [if_neg (show ¬ bracketAllows E scripts (mapTeam team _).bracket _ = true from hallowed)]
        simp only [if_neg hallowed]
        exact Holds.done rfl

end Joining

end Cctf

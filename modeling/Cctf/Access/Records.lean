import Cctf.Teams.Moving

/-!
# What stays of a record

The statements of the account and team repositories write whole rows, but what they write is
mostly what was read.  This file says which statements leave every record as it is, the team of
an account aside.

* `AccountRow.identity` — an account without its team.
* `TeamTables.Grows` — tables in which nothing is lost: accounts keep their identities, teams
  keep their rows, and whoever comes is a player.
* `Query.Careful` — a statement that writes back what is there; `grows_of_perform` is that it
  loses nothing.
* `Query.Seats`, `isMember_of_perform` — who comes to a team by a statement.
-/

namespace Cctf.Pg

open Program

/-! ## Identities -/

/-- An account without its team. -/
def AccountRow.identity (row : AccountRow) : Account := { mapAccount row with teamId := none }

@[simp] theorem AccountRow.identity_id (row : AccountRow) : row.identity.id = row.id := rfl

/-- An account that is stored with another team has the same identity. -/
@[simp] theorem AccountRow.identity_ofAccount (account : Account) (teamId : Option TeamId) :
    (AccountRow.ofAccount { account with teamId := teamId }).identity =
      { account with teamId := none } := by
  rw [identity, mapAccount_ofAccount]

namespace TeamTables

/-- The accounts, without their teams. -/
def identities (s : TeamTables) : List Account := s.accounts.rows.map AccountRow.identity

/-- There is one account with an id. -/
theorem eq_of_mem_identities {s : TeamTables} {a a' : Account} (ha : a ∈ s.identities)
    (ha' : a' ∈ s.identities) (hid : a.id = a'.id) : a = a' := by
  obtain ⟨row, hrow, rfl⟩ := List.mem_map.mp ha
  obtain ⟨row', hrow', rfl⟩ := List.mem_map.mp ha'
  rw [s.accounts.eq_of_key_eq hrow hrow' hid]

/-- Nothing is lost between two states of the tables. -/
structure Grows (s s' : TeamTables) : Prop where
  identities : ∃ new, s'.identities = s.identities ++ new ∧ ∀ a ∈ new, a.role = .player
  teams : s.teams.rows <+: s'.teams.rows

namespace Grows

variable {s s' s'' : TeamTables}

theorem refl (s : TeamTables) : s.Grows s := ⟨⟨[], by simp⟩, List.prefix_rfl⟩

theorem trans (h : s.Grows s') (h' : s'.Grows s'') : s.Grows s'' := by
  obtain ⟨new, hnew, hplayers⟩ := h.identities
  obtain ⟨new', hnew', hplayers'⟩ := h'.identities
  refine ⟨⟨new ++ new', by rw [hnew', hnew, List.append_assoc], fun a ha => ?_⟩,
    h.teams.trans h'.teams⟩
  exact (List.mem_append.mp ha).elim (hplayers a) (hplayers' a)

theorem mem_identities (h : s.Grows s') {a : Account} (ha : a ∈ s.identities) :
    a ∈ s'.identities := by
  obtain ⟨new, hnew, -⟩ := h.identities
  rw [hnew]
  exact List.mem_append_left new ha

theorem mem_teams (h : s.Grows s') {row : TeamRow} (hrow : row ∈ s.teams.rows) :
    row ∈ s'.teams.rows :=
  h.teams.subset hrow

/-- An account that was not there is a player. -/
theorem role (h : s.Grows s') {a : Account} (ha : a ∈ s'.identities) :
    a ∈ s.identities ∨ a.role = .player := by
  obtain ⟨new, hnew, hplayers⟩ := h.identities
  rw [hnew] at ha
  exact (List.mem_append.mp ha).imp id (hplayers a)

/-- An administrator was there. -/
theorem admin (h : s.Grows s') {a : Account} (ha : a ∈ s'.identities) (hrole : a.role = .admin) :
    a ∈ s.identities :=
  (h.role ha).resolve_right fun hplayer => nomatch hrole.symm.trans hplayer

/-- Same identities and same teams. -/
theorem of_eq (hids : s'.identities = s.identities) (hteams : s'.teams.rows = s.teams.rows) :
    s.Grows s' :=
  ⟨⟨[], by simp [hids]⟩, by rw [hteams]⟩

end Grows

end TeamTables

/-! ## Statements that lose nothing -/

/-- A statement that writes a row back as it is, and lets players in. -/
def Query.Careful (s : TeamTables) : Query → Prop
  | .base (.updateAccount row) => row.identity ∈ s.identities
  | .base (.updateTeam row) => row ∈ s.teams.rows
  | .insertAccount row => row.identity.role = .player
  | _ => True

/-- An update of accounts that leaves the identities of the rows that it picks. -/
theorem identities_updateAccounts (s : TeamTables) (p : AccountRow → Bool)
    (f : AccountRow → AccountRow) (hf : ∀ row, (f row).id = row.id)
    (h : ∀ row ∈ s.accounts.rows, p row = true → (f row).identity = row.identity) :
    (s.updateAccounts p f hf).identities = s.identities := by
  rw [TeamTables.identities, TeamTables.updateAccounts, TeamTables.map_updateWhere h]
  rfl

/-- A row with the identity of a stored one, written over it. -/
theorem identities_updateAccount {s : TeamTables} {row : AccountRow}
    (h : row.identity ∈ s.identities) :
    (s.write (.updateAccount row)).identities = s.identities := by
  refine identities_updateAccounts s (fun r => decide (r.id = row.id))
    (fun r => { row with id := r.id }) (fun _ => rfl) fun r hr hid => ?_
  obtain ⟨stored, hstored, heq⟩ := List.mem_map.mp h
  have hid' : r.id = row.id := of_decide_eq_true hid
  have hkey : stored.id = r.id := by
    rw [hid', ← AccountRow.identity_id stored, heq, AccountRow.identity_id]
  obtain rfl := s.accounts.eq_of_key_eq hstored hr hkey
  rw [heq, hid']

/-- A row that is stored, written over itself. -/
theorem teams_updateTeam {s : TeamTables} {row : TeamRow} (h : row ∈ s.teams.rows) :
    (s.write (.updateTeam row)).teams.rows = s.teams.rows := by
  show (s.teams.rows.map fun r => if decide (r.id = row.id) then { row with id := r.id } else r) = _
  refine (List.map_congr_left fun r hr => ?_).trans (List.map_id _)
  by_cases hid : r.id = row.id
  · obtain rfl := s.teams.eq_of_key_eq hr h hid
    simp
  · simp [hid]

/-- **What a careful statement of `Statement` writes loses nothing.** -/
theorem grows_write {s : TeamTables} {st : Statement} (h : (Query.base st).Careful s) :
    s.Grows (s.write st) := by
  cases st with
  | updateAccount row => exact .of_eq (identities_updateAccount h) rfl
  | updateTeam row => exact .of_eq rfl (teams_updateTeam h)
  | clearMembers teamId =>
    exact .of_eq (identities_updateAccounts s (fun r => decide (r.teamId = some teamId))
      (fun r => { r with teamId := none }) (fun _ => rfl) fun _ _ _ => rfl) rfl
  | setMember teamId accountId =>
    exact .of_eq (identities_updateAccounts s (fun r => decide (r.id = accountId))
      (fun r => { r with teamId := some teamId }) (fun _ => rfl) fun _ _ _ => rfl) rfl
  | selectTeam id => exact .refl s
  | selectMembers teamId => exact .refl s
  | selectAccount id => exact .refl s

section

variable {refusal : String} {db db' : Database} {q : Query} {value : q.Value}

/-- What a statement of `Statement` leaves. -/
theorem tables_of_base {st : Statement} {value : st.Value}
    (h : Query.result refusal db (.base st) = .ok (value, db')) :
    db'.tables = db.tables.write st ∧ value = db.tables.read st := by
  obtain ⟨db₁, hcommit, heq⟩ := Checks.map_eq_ok_iff.mp h
  obtain ⟨rfl, rfl⟩ := Prod.mk.inj heq
  exact ⟨Database.tables_of_commit hcommit, rfl⟩

/-- **A careful statement loses nothing.** -/
theorem grows_of_perform (hq : q.Careful db.tables) (h : q.perform refusal db = .ok (value, db')) :
    db.tables.Grows db'.tables := by
  cases q with
  | base st =>
    rw [(tables_of_base (Query.store_of_perform h)).1]
    exact grows_write hq
  | insertTeam row =>
    obtain ⟨row', -, hresult⟩ := Query.perform_insertTeam h
    obtain ⟨teams, hinsert, htables⟩ := insertTeam_ok hresult
    rw [htables]
    exact ⟨⟨[], by simp [TeamTables.identities]⟩,
      by simp [Table.rows_insert hinsert]⟩
  | insertAccount row =>
    obtain ⟨row', hkept, hresult⟩ := Query.perform_insertAccount h
    obtain ⟨accounts, hinsert, htables⟩ := insertAccount_ok hresult
    rw [htables]
    refine ⟨⟨[row'.identity], ?_, fun a ha => ?_⟩, List.prefix_rfl⟩
    · simp [TeamTables.identities, Table.rows_insert hinsert]
    · obtain rfl := List.mem_singleton.mp ha
      exact (congrArg roleOfStr (AccountRow.of_kept hkept).2.1).trans hq
  | selectTeamByCtftimeId ctftimeId =>
    cases Query.store_of_perform h
    exact .refl _
  | selectAccountByUsername username =>
    cases Query.store_of_perform h
    exact .refl _
  | selectAccountByCtftimeId ctftimeId =>
    cases Query.store_of_perform h
    exact .refl _

/-! ## Who comes to a team -/

/-- The statement puts the account on the team. -/
def Query.Seats (teamId : TeamId) (accountId : AccountId) : Query → Prop
  | .base (.updateAccount row) => row.id = accountId ∧ row.teamId = some teamId
  | .base (.setMember t a) => t = teamId ∧ a = accountId
  | .insertAccount row => row.id = accountId ∧ row.teamId = some teamId
  | _ => False

/-- After an update of accounts, who is on a team was on it, or was put there. -/
theorem isMember_updateWhere {s : TeamTables} {p : AccountRow → Bool}
    {f : AccountRow → AccountRow} {hf : ∀ row, (f row).id = row.id} {teamId : TeamId}
    {accountId : AccountId}
    (h : ({ s with accounts := s.accounts.updateWhere p f hf } : TeamTables).IsMember teamId
      accountId) :
    s.IsMember teamId accountId ∨
      ∃ row, p row = true ∧ row.id = accountId ∧ (f row).teamId = some teamId := by
  obtain ⟨r, hr, rfl, hteam⟩ := h
  obtain ⟨row, hrow, rfl⟩ := List.mem_map.mp hr
  by_cases hp : p row = true
  · rw [if_pos hp] at hteam ⊢
    exact .inr ⟨row, hp, (hf row).symm, hteam⟩
  · rw [if_neg hp] at hteam ⊢
    exact .inl ⟨row, hrow, rfl, hteam⟩

/-- **Who is on a team after a statement** was on it before, or is put there by it. -/
theorem isMember_of_perform (h : q.perform refusal db = .ok (value, db')) {teamId : TeamId}
    {accountId : AccountId} (hmember : db'.tables.IsMember teamId accountId) :
    db.tables.IsMember teamId accountId ∨ q.Seats teamId accountId := by
  cases q with
  | base st =>
    rw [(tables_of_base (Query.store_of_perform h)).1] at hmember
    cases st with
    | updateAccount row =>
      refine (isMember_updateWhere hmember).imp id ?_
      rintro ⟨r, hid, rfl, hteam⟩
      exact ⟨(of_decide_eq_true hid).symm, hteam⟩
    | clearMembers t =>
      refine (isMember_updateWhere hmember).imp id ?_
      rintro ⟨r, -, -, hteam⟩
      cases hteam
    | setMember t a =>
      refine (isMember_updateWhere hmember).imp id ?_
      rintro ⟨r, hid, rfl, hteam⟩
      exact ⟨Option.some.inj hteam, (of_decide_eq_true hid).symm⟩
    | updateTeam row => exact .inl hmember
    | selectTeam id => exact .inl hmember
    | selectMembers t => exact .inl hmember
    | selectAccount id => exact .inl hmember
  | insertTeam row =>
    obtain ⟨row', -, hresult⟩ := Query.perform_insertTeam h
    obtain ⟨teams, -, htables⟩ := insertTeam_ok hresult
    rw [htables] at hmember
    exact .inl hmember
  | insertAccount row =>
    obtain ⟨row', hkept, hresult⟩ := Query.perform_insertAccount h
    obtain ⟨accounts, hinsert, htables⟩ := insertAccount_ok hresult
    rw [htables] at hmember
    obtain ⟨r, hr, hid, hteam⟩ := hmember
    rcases (Table.mem_insert hinsert).1 r |>.mp hr with hold | rfl
    · exact .inl ⟨r, hold, hid, hteam⟩
    · obtain ⟨hid', -, hteam', -⟩ := AccountRow.of_kept hkept
      exact .inr ⟨hid'.symm.trans hid, hteam'.symm.trans hteam⟩
  | selectTeamByCtftimeId ctftimeId =>
    cases Query.store_of_perform h
    exact .inl hmember
  | selectAccountByUsername username =>
    cases Query.store_of_perform h
    exact .inl hmember
  | selectAccountByCtftimeId ctftimeId =>
    cases Query.store_of_perform h
    exact .inl hmember

end

end Cctf.Pg

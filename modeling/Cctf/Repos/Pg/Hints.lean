import Cctf.Repos.Traits

/-!
# The `hint_unlocks` table

`HintUnlockRepo for PgStore`: every method is one SQL statement on rows whose
integer columns are signed.

* `HintUnlockRow`, `HintUnlockRow.ofUnlock`, `mapHintUnlock` — the row, what the
  `INSERT` binds, and what a `SELECT` maps back; `mapHintUnlock_ofUnlock` is the
  round trip.
* `PgStore.handler` — how the calls are answered: an `INSERT` is refused when
  the primary key is taken or another constraint does not admit the row.
* `PgStore.view` — the tables as the services see them; `PgStore.answer_read`
  and `PgStore.view_save` connect the two levels.
-/

namespace Cctf

open Program

/-- A row of `hint_unlocks`. -/
structure HintUnlockRow where
  id : String
  challengeId : String
  hintIndex : Int32
  teamId : Option String
  accountId : String
  cost : Int32
  unlockedAt : ℤ
  deriving DecidableEq

/-- The values the `INSERT` binds. -/
def HintUnlockRow.ofUnlock (unlock : HintUnlock) : HintUnlockRow where
  id := unlock.id
  challengeId := unlock.challengeId
  hintIndex := unlock.hintIndex.toInt32
  teamId := unlock.teamId.map TeamId.val
  accountId := unlock.accountId.val
  cost := unlock.cost.toInt32
  unlockedAt := unlock.unlockedAt

/-- `map_hint_unlock`. -/
def mapHintUnlock (row : HintUnlockRow) : HintUnlock where
  id := row.id
  challengeId := row.challengeId
  hintIndex := row.hintIndex.toUInt32
  teamId := row.teamId.map TeamId.mk
  accountId := ⟨row.accountId⟩
  cost := row.cost.toUInt32
  unlockedAt := row.unlockedAt

/-- **The round trip**: no unlock is changed by being stored. -/
@[simp] theorem mapHintUnlock_ofUnlock (unlock : HintUnlock) :
    mapHintUnlock (.ofUnlock unlock) = unlock := by
  have hteam : (unlock.teamId.map TeamId.val).map TeamId.mk = unlock.teamId := by
    cases unlock.teamId <;> rfl
  simp [mapHintUnlock, HintUnlockRow.ofUnlock, hteam]

/-- The database: the other tables, and the `hint_unlocks` rows. -/
structure PgStore where
  tables : Store
  hintUnlocks : Table HintUnlockRow String HintUnlockRow.id

namespace PgStore

/-- `find_for`: the `SELECT` for a team, or for a solo account. -/
def findFor (rows : List HintUnlockRow) (challengeId : String) (teamId : Option TeamId)
    (accountId : AccountId) : List HintUnlock :=
  match teamId with
  | some t =>
    (rows.filter fun r => decide (r.challengeId = challengeId) &&
      decide (r.teamId = some t.val)).map mapHintUnlock
  | none =>
    (rows.filter fun r => decide (r.challengeId = challengeId) &&
      decide (r.accountId = accountId.val) && r.teamId.isNone).map mapHintUnlock

/-- `save`: the table after the `INSERT`, or the error. -/
def save (admits : HintUnlockRow → Bool) (p : PgStore) (unlock : HintUnlock) :
    Except RepoError PgStore :=
  match p.hintUnlocks.insert (.ofUnlock unlock) with
  | none => .error (.conflict "auth-username-taken")
  | some rows =>
    if admits (.ofUnlock unlock) then .ok { p with hintUnlocks := rows }
    else .error (.internal "hint_unlocks")

/-- How the database answers; `admits` stands for the length and reference
constraints. -/
def handler (admits : HintUnlockRow → Bool) : Handler RepoOp RepoOp.Resp PgStore where
  answer p
    | .hintFindAll => .ok (p.hintUnlocks.rows.map mapHintUnlock)
    | .hintFindFor challengeId teamId accountId =>
        .ok (findFor p.hintUnlocks.rows challengeId teamId accountId)
    | .hintSave unlock => (p.save admits unlock).map fun _ => ()
    | op => .ok (p.tables.read op)
  next p
    | .hintSave unlock => (p.save admits unlock).toOption.getD p
    | op => { p with tables := p.tables.write op }

/-- The tables as the services see them. -/
def view (p : PgStore) : Store :=
  { p.tables with hintUnlocks := p.hintUnlocks.rows.map mapHintUnlock }

@[simp] theorem view_teams (p : PgStore) : p.view.teams = p.tables.teams := rfl
@[simp] theorem view_challenges (p : PgStore) : p.view.challenges = p.tables.challenges := rfl
@[simp] theorem view_submissions (p : PgStore) : p.view.submissions = p.tables.submissions := rfl

/-- The `SELECT` of `find_for` returns the unlocks it says. -/
theorem findFor_eq (rows : List HintUnlockRow) (challengeId : String) (teamId : Option TeamId)
    (accountId : AccountId) :
    findFor rows challengeId teamId accountId =
      Store.unlocksFor (rows.map mapHintUnlock) challengeId teamId accountId := by
  have hteam : ∀ (r : HintUnlockRow) (t : TeamId),
      (mapHintUnlock r).teamId = some t ↔ r.teamId = some t.val := by
    intro r t
    show r.teamId.map TeamId.mk = some t ↔ _
    cases r.teamId with
    | none => simp
    | some x =>
      constructor
      · intro h
        rw [← Option.some.inj h]
      · intro h
        rw [Option.some.inj h]
        rfl
  have hsolo : ∀ r : HintUnlockRow,
      (mapHintUnlock r).teamId.isNone = r.teamId.isNone := by
    intro r
    exact Option.isNone_map
  have haccount : ∀ r : HintUnlockRow,
      (mapHintUnlock r).accountId = accountId ↔ r.accountId = accountId.val := by
    intro r
    constructor
    · rintro rfl
      rfl
    · intro h
      show AccountId.mk r.accountId = accountId
      rw [h]
  have hchallenge : ∀ r : HintUnlockRow, (mapHintUnlock r).challengeId = r.challengeId :=
    fun _ => rfl
  unfold findFor Store.unlocksFor
  cases teamId with
  | some t =>
    simp only
    rw [List.filter_map]
    refine congrArg (List.map mapHintUnlock) (List.filter_congr fun r _ => ?_)
    rw [Bool.eq_iff_iff]
    simp only [Function.comp, Bool.and_eq_true, decide_eq_true_eq, hteam, hchallenge]
  | none =>
    simp only
    rw [List.filter_map]
    refine congrArg (List.map mapHintUnlock) (List.filter_congr fun r _ => ?_)
    rw [Bool.eq_iff_iff]
    simp only [Function.comp, Bool.and_eq_true, decide_eq_true_eq, haccount, hchallenge, hsolo]
    tauto

variable (admits : HintUnlockRow → Bool) (p : PgStore)

/-- Is the call a `save` of a hint unlock? -/
def isSave : RepoOp → Bool
  | .hintSave _ => true
  | _ => false

/-- **A call other than a `save` of an unlock is answered as by the view**, and
leaves the unlocks alone. -/
theorem answer_read {op : RepoOp} (h : isSave op = false) :
    (handler admits).answer p op = .ok (p.view.read op) ∧
      ((handler admits).next p op).view.hintUnlocks = p.view.hintUnlocks := by
  cases op with
  | hintSave unlock => simp [isSave] at h
  | hintFindFor challengeId teamId accountId =>
    refine ⟨?_, rfl⟩
    show Except.ok (findFor p.hintUnlocks.rows challengeId teamId accountId) = _
    rw [findFor_eq]
    rfl
  | _ => exact ⟨rfl, rfl⟩

/-- A `save` that succeeds appends its unlock to the view. -/
theorem view_of_save {p p' : PgStore} {unlock : HintUnlock} (h : p.save admits unlock = .ok p') :
    p'.view = p.view.addUnlock unlock := by
  rw [save] at h
  cases hinsert : p.hintUnlocks.insert (.ofUnlock unlock) with
  | none =>
    rw [hinsert] at h
    exact absurd h (by simp)
  | some rows =>
    rw [hinsert] at h
    simp only at h
    split at h
    · obtain rfl := Except.ok.inj h
      simp [view, Store.addUnlock, Table.rows_insert hinsert]
    · exact absurd h (by simp)

/-- **A `save` appends its unlock to the view, or leaves everything as it is.** -/
theorem view_save (unlock : HintUnlock) :
    ((handler admits).next p (.hintSave unlock)).view = p.view.addUnlock unlock ∨
      (handler admits).next p (.hintSave unlock) = p := by
  show ((p.save admits unlock).toOption.getD p).view = _ ∨ (p.save admits unlock).toOption.getD p = p
  cases hsave : p.save admits unlock with
  | error e => exact .inr rfl
  | ok p' => exact .inl (view_of_save admits hsave)

end PgStore

end Cctf

import Cctf.Library.Table
import Cctf.Repos.Pg.Columns
import Cctf.Repos.Traits

/-!
# The `challenges` table

`ChallengeRepo for PgStore`, down to the SQL statements.  `save` and `update` compute
and bind the same seventeen values; `INSERT` and `UPDATE` pick their columns from them
by number.

* `ChallengeRow` — a row, with the limits of the schema.
* `Binds`, `Binds.insertRow`, `Binds.updateRow` — the values `$1` to `$17`, and the row
  each statement makes of them.
* `Statement`, `ChallengeTables.result` — the statements, and what each does to the
  tables; a statement that fails changes nothing.
* `mapChallenge`, `ChallengeRepo.findById`, `save`, `update`, `delete` — the methods.
-/

namespace Cctf.Pg

open Program

/-! ## Rows -/

/-- A row of `challenges`. -/
structure ChallengeRow where
  id : Varchar 64
  title : Varchar 255
  description : String
  category : Varchar 100
  pointsMode : Varchar 50
  pointsEquation : Varchar 255
  flag : Json
  authorId : Varchar 64
  authorUsername : Varchar 255
  hints : Json
  files : Json
  tags : Json
  requirements : Json
  teamConsensus : Bool
  deployment : Json
  visibility : Json
  /-- The only column that may be `NULL`. -/
  maxAttempts : Option Json

namespace ChallengeRow

/-- The primary key of `challenges`. -/
def key (row : ChallengeRow) : String := row.id.val

/-- A row written over another one, whose id stays. -/
def replacing (row old : ChallengeRow) : ChallengeRow := { row with id := old.id }

theorem key_replacing (row old : ChallengeRow) : (row.replacing old).key = old.key := rfl

theorem replacing_of_id {row old : ChallengeRow} (h : row.id = old.id) : row.replacing old = row := by
  rw [replacing, ← h]

end ChallengeRow

/-! ## Bound values -/

/-- The text of a scoring mode. -/
def modeStr : ScoringMode → String
  | .pointValue => "PointValue"
  | .pointAttribution => "PointAttribution"
  | .dynamicDecay _ _ _ => "DynamicDecay"

/-- The text of the equation column: a decay is written out. -/
def eqStr (points : ChallengePoints) : String :=
  match points.mode with
  | .dynamicDecay initial minimum decay =>
    toString initial.toNat ++ "," ++ toString minimum.toNat ++ "," ++ toString decay.toNat
  | _ => points.equation

/-- The values `$1` to `$17` that `save` and `update` bind, in this order. -/
structure Binds where
  id : String
  title : String
  description : String
  category : String
  modeStr : String
  eqStr : String
  flag : Json
  authorId : String
  authorUsername : String
  hints : Json
  files : Json
  tags : Json
  requirements : Json
  teamConsensus : Bool
  deployment : Json
  visibility : Json
  maxAttempts : Json

namespace Binds

/-- What both methods bind for a challenge. -/
def ofChallenge (challenge : Challenge) : Binds where
  id := challenge.id
  title := challenge.title
  description := challenge.description
  category := challenge.category
  modeStr := Pg.modeStr challenge.points.mode
  eqStr := Pg.eqStr challenge.points
  flag := challenge.flag.toValue
  authorId := challenge.author.id
  authorUsername := challenge.author.username
  hints := Json.ofList ChallengeHint.toValue challenge.hints
  files := Json.ofList ChallengeFile.toValue challenge.files
  tags := Json.ofList .string challenge.tags
  requirements := Json.ofList ChallengeRequirement.toValue challenge.requirements
  teamConsensus := challenge.teamConsensus
  deployment := challenge.deployment.toValue
  visibility := challenge.visibility.toValue
  maxAttempts := Json.ofOption MaxAttempts.toValue challenge.maxAttempts

/-- The texts that are bound, those of the JSON columns included. -/
def texts (b : Binds) : List String :=
  [b.id, b.title, b.description, b.category, b.modeStr, b.eqStr, b.authorId, b.authorUsername] ++
    [b.flag, b.hints, b.files, b.tags, b.requirements, b.deployment, b.visibility,
      b.maxAttempts].flatMap Json.texts

/-- No bound text has a character that the database cannot hold. -/
def sendable (b : Binds) : Bool := b.texts.all storable

/-- The row of `INSERT INTO challenges (…) VALUES ($1, …, $17)`. -/
def insertRow (b : Binds) : Option ChallengeRow := do
  let id ← Varchar.store 64 b.id
  let title ← Varchar.store 255 b.title
  let category ← Varchar.store 100 b.category
  let pointsMode ← Varchar.store 50 b.modeStr
  let pointsEquation ← Varchar.store 255 b.eqStr
  let authorId ← Varchar.store 64 b.authorId
  let authorUsername ← Varchar.store 255 b.authorUsername
  pure {
    id := id
    title := title
    description := b.description
    category := category
    pointsMode := pointsMode
    pointsEquation := pointsEquation
    flag := b.flag
    authorId := authorId
    authorUsername := authorUsername
    hints := b.hints
    files := b.files
    tags := b.tags
    requirements := b.requirements
    teamConsensus := b.teamConsensus
    deployment := b.deployment
    visibility := b.visibility
    maxAttempts := some b.maxAttempts }

/-- What `UPDATE challenges SET title = $2, …, deployment = $15 WHERE id = $1` makes of a
row.  The statement names no `$16` and no `$17`. -/
def updateRow (b : Binds) (old : ChallengeRow) : Option ChallengeRow := do
  let title ← Varchar.store 255 b.title
  let category ← Varchar.store 100 b.category
  let pointsMode ← Varchar.store 50 b.modeStr
  let pointsEquation ← Varchar.store 255 b.eqStr
  let authorId ← Varchar.store 64 b.authorId
  let authorUsername ← Varchar.store 255 b.authorUsername
  pure { old with
    title := title
    description := b.description
    category := category
    pointsMode := pointsMode
    pointsEquation := pointsEquation
    flag := b.flag
    authorId := authorId
    authorUsername := authorUsername
    hints := b.hints
    files := b.files
    tags := b.tags
    requirements := b.requirements
    teamConsensus := b.teamConsensus
    deployment := b.deployment }

/-- **`UPDATE` against `INSERT`.**  On the row with the bound id both statements accept the
same values, and their rows differ in two columns: `UPDATE` leaves these as they were. -/
theorem updateRow_eq {b : Binds} {old : ChallengeRow} (hid : old.id.val = b.id) :
    b.updateRow old = b.insertRow.map fun row =>
      { row with visibility := old.visibility, maxAttempts := old.maxAttempts } := by
  have hstore : Varchar.store 64 b.id = some old.id := by
    rw [← hid]
    exact Varchar.store_val old.id
  rw [updateRow, insertRow, hstore]
  -- a text that does not fit is refused by both
  cases Varchar.store 255 b.title with
  | none => rfl
  | some title =>
  cases Varchar.store 100 b.category with
  | none => rfl
  | some category =>
  cases Varchar.store 50 b.modeStr with
  | none => rfl
  | some pointsMode =>
  cases Varchar.store 255 b.eqStr with
  | none => rfl
  | some pointsEquation =>
  cases Varchar.store 64 b.authorId with
  | none => rfl
  | some authorId =>
  cases Varchar.store 255 b.authorUsername with
  | none => rfl
  | some authorUsername => rfl

/-- The columns of the row that `INSERT` makes and that an update keeps. -/
theorem of_insertRow {b : Binds} {row : ChallengeRow} (h : b.insertRow = some row) :
    Varchar.store 64 b.id = some row.id ∧ row.visibility = b.visibility ∧
      row.maxAttempts = some b.maxAttempts := by
  simp only [insertRow, Option.bind_eq_bind, Option.bind_eq_some_iff] at h
  obtain ⟨id, hid, _, -, _, -, _, -, _, -, _, -, _, -, h⟩ := h
  obtain rfl := Option.some.inj h
  exact ⟨hid, rfl, rfl⟩

/-- A row that `INSERT` makes on an id that is already stored has this id. -/
theorem id_of_insertRow {b : Binds} {old row : ChallengeRow} (hid : old.id.val = b.id)
    (h : b.insertRow = some row) : row.id = old.id := by
  have hstore : Varchar.store 64 b.id = some old.id := by
    rw [← hid]
    exact Varchar.store_val old.id
  exact Option.some.inj ((of_insertRow h).1.symm.trans hstore)

/-- Neither the connection nor a column refuses a value. -/
def Accepted (b : Binds) : Prop := b.sendable = true ∧ b.insertRow.isSome = true

end Binds

/-! ## Statements -/

/-- The tables that `ChallengeRepo` writes. -/
structure ChallengeTables where
  challenges : Table ChallengeRow String ChallengeRow.key
  submissions : List Submission

namespace ChallengeRepo

/-- The SQL statements of the repository. -/
inductive Statement where
  /-- `SELECT * FROM challenges WHERE id = $1` -/
  | select (id : String)
  /-- `INSERT INTO challenges (id, title, …) VALUES ($1, $2, …)` -/
  | insert (binds : Binds)
  /-- `UPDATE challenges SET title = $2, … WHERE id = $1` -/
  | update (binds : Binds)
  /-- `DELETE FROM submissions WHERE challenge_id = $1` -/
  | deleteSubmissions (challengeId : String)
  /-- `DELETE FROM challenges WHERE id = $1` -/
  | delete (id : String)

namespace Statement

/-- What a statement returns when it succeeds. -/
def Value : Statement → Type
  | .select _ => Option ChallengeRow
  | .insert _ => Unit
  | .update _ => Unit
  | .deleteSubmissions _ => Unit
  | .delete _ => Unit

/-- What a statement returns. -/
abbrev Resp (st : Statement) : Type := Except RepoError st.Value

end Statement

/-- What a statement does: it fails, or it returns a value and leaves some tables.
`refusal` is what the database says about a value it refuses. -/
def result (refusal : String) (s : ChallengeTables) :
    (st : Statement) → Except RepoError (st.Value × ChallengeTables)
  | .select id => .ok (s.challenges.find? id, s)
  | .insert b =>
    if b.sendable then
      match b.insertRow with
      | none => .error (.internal refusal)
      | some row =>
        match s.challenges.insert row with
        | none => .error (.conflict "auth-username-taken")
        | some challenges => .ok ((), { s with challenges := challenges })
    else .error (.internal refusal)
  | .update b =>
    if b.sendable then
      match s.challenges.find? b.id with
      | none => .ok ((), s)
      | some old =>
        match b.updateRow old with
        | none => .error (.internal refusal)
        | some row => .ok ((), { s with
            challenges := s.challenges.updateWhere (fun r => decide (r.key = b.id)) row.replacing
              row.key_replacing })
    else .error (.internal refusal)
  | .deleteSubmissions challengeId => .ok ((), { s with
      submissions := s.submissions.filter fun sub => sub.challengeId ≠ challengeId })
  | .delete id => .ok ((), { s with challenges := s.challenges.erase id })

/-- The statements on the tables; one that fails changes nothing. -/
def handler (refusal : String) : Handler Statement Statement.Resp ChallengeTables where
  answer s st := (result refusal s st).map Prod.fst
  next s st :=
    match result refusal s st with
    | .ok (_, s') => s'
    | .error _ => s

/-! ## The methods -/

/-- A repository computation on the two tables. -/
abbrev Sql (α : Type) : Type := ExceptT RepoError (Program Statement Statement.Resp) α

/-- Execute a statement, with `?`. -/
def execute (st : Statement) : Sql st.Value := ExceptT.mk (.call st .done)

/-- The scoring mode of a row; a part of a decay that is no number has a default. -/
def mapMode (pointsMode pointsEquation : String) : ScoringMode :=
  if pointsMode = "PointAttribution" then .pointAttribution
  else if pointsMode = "DynamicDecay" then
    match Text.splitOn ',' pointsEquation with
    | [initial, minimum, decay] =>
      .dynamicDecay ((Text.parseU32 initial).getD 500) ((Text.parseU32 minimum).getD 100)
        ((Text.parseU32 decay).getD 10)
    | _ => .dynamicDecay 500 100 10
  else .pointValue

/-- `map_challenge`: a visibility or a limit that cannot be read is the default one. -/
def mapChallenge (D : FromValue) (row : ChallengeRow) : Except String Challenge := do
  let flag ← D.flag row.flag
  let hints ← D.hints row.hints
  let files ← D.files row.files
  let tags ← D.tags row.tags
  let requirements ← D.requirements row.requirements
  let deployment ← D.deployment row.deployment
  pure {
    id := row.id.val
    title := row.title.val
    description := row.description
    category := row.category.val
    points := ⟨mapMode row.pointsMode.val row.pointsEquation.val, row.pointsEquation.val⟩
    flag := flag
    author := ⟨row.authorId.val, row.authorUsername.val⟩
    hints := hints
    files := files
    tags := tags
    requirements := requirements
    teamConsensus := row.teamConsensus
    deployment := deployment
    visibility := (D.visibility row.visibility).toOption.getD .visible
    maxAttempts := row.maxAttempts.bind fun v => (D.maxAttempts v).toOption }

/-- `ChallengeRepo::find_by_id`. -/
def findById (D : FromValue) (id : String) : Sql (Option Challenge) := do
  match ← execute (.select id) with
  | some row =>
    let challenge ← ExceptT.mk (.done ((mapChallenge D row).mapError .internal))
    pure (some challenge)
  | none => pure none

/-- `ChallengeRepo::save`. -/
def save (challenge : Challenge) : Sql Unit := do
  let _ ← execute (.insert (.ofChallenge challenge))
  pure ()

/-- `ChallengeRepo::update`. -/
def update (challenge : Challenge) : Sql Unit := do
  let _ ← execute (.update (.ofChallenge challenge))
  pure ()

/-- `ChallengeRepo::delete`. -/
def delete (id : String) (deleteSolves : Bool) : Sql Unit := do
  if deleteSolves then
    let _ ← execute (.deleteSubmissions id)
  let _ ← execute (.delete id)
  pure ()

section

variable {refusal : String} {s s' : ChallengeTables} {α : Type}

theorem exec_execute (st : Statement) :
    exec (handler refusal) s (execute st) =
      match result refusal s st with
      | .ok (value, s') => (.ok value, s')
      | .error e => (.error e, s) := by
  show ((result refusal s st).map Prod.fst, (handler refusal).next s st) = _
  simp only [handler]
  cases result refusal s st with
  | ok r => rfl
  | error e => rfl

/-- A statement that succeeds. -/
theorem exec_execute_bind {st : Statement} {value : st.Value} {f : st.Value → Sql α}
    (h : result refusal s st = .ok (value, s')) :
    exec (handler refusal) s (execute st >>= f) = exec (handler refusal) s' (f value) := by
  rw [exec_bind, exec_execute, h]

/-- A statement that fails. -/
theorem exec_execute_bind_error {st : Statement} {e : RepoError} {f : st.Value → Sql α}
    (h : result refusal s st = .error e) :
    exec (handler refusal) s (execute st >>= f) = (.error e, s) := by
  rw [exec_bind, exec_execute, h]

end

end ChallengeRepo

end Cctf.Pg

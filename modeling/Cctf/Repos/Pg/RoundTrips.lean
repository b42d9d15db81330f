import Cctf.Challenges.Updating
import Cctf.Library.Text
import Cctf.Repos.Pg.Database
import Cctf.Repos.Pg.Hints
import Cctf.Repos.Pg.Submissions
import Cctf.Services.Files
import Mathlib.Data.Nat.Digits.Defs

/-!
# Rows read back

Each `save` binds the fields of a value, and each mapper builds the value from a row
again.  In between the texts go through the columns, which refuse some of them and cut others.

* `saveRow` — an `INSERT`: the columns, the primary key, and the other constraints.
* `AccountRow.stored`, … — what the columns make of the row that an `INSERT` binds.
* `read_back_iff` — a value that is saved is found under its id exactly when it fits.
* `mapMode_modeStr` — the scoring mode is found again in its two columns.
* `Account.Fits`, … — the texts have no U+0000 and are no longer than their columns.
* `rows_read_back` — **a value is read back as it was saved exactly when its texts fit**.
-/

namespace Cctf

open Pg Program

/-! ## Saving a row -/

section

variable {ρ κ α β : Type} [DecidableEq κ] {key : ρ → κ}

/-- `INSERT`, of what the columns make of the values that are bound.  `admits` stands for the
constraints besides the primary key. -/
def saveRow (refusal : String) (admits : ρ → Bool) (t : Table ρ κ key) (stored : Option ρ) :
    Except RepoError (Table ρ κ key) :=
  match stored with
  | none => .error (.internal refusal)
  | some row =>
    match t.insert row with
    | none => .error (.conflict "auth-username-taken")
    | some t' => if admits row then .ok t' else .error (.internal refusal)

/-- What is found under an id that was free: the row that was saved, if it has this id. -/
theorem find_saveRow {refusal : String} {admits : ρ → Bool} {t : Table ρ κ key} {id : κ}
    (hnew : t.find? id = none) {stored : Option ρ} {map : ρ → β} {b : β} :
    ((saveRow refusal admits t stored).map fun t' => (t'.find? id).map map) = .ok (some b) ↔
      ∃ row, stored = some row ∧ key row = id ∧ admits row = true ∧ map row = b := by
  constructor
  · intro h
    obtain ⟨t', hsave, hfind⟩ := Checks.map_eq_ok_iff.mp h
    cases stored with
    | none => cases hsave
    | some row =>
      rw [saveRow] at hsave
      cases hinsert : t.insert row with
      | none => simp [hinsert] at hsave
      | some t₁ =>
        simp only [hinsert] at hsave
        split_ifs at hsave with hadmits
        obtain rfl := Except.ok.inj hsave
        rw [Table.find?_insert hinsert] at hfind
        by_cases hkey : id = key row
        · rw [if_pos hkey] at hfind
          exact ⟨row, rfl, hkey.symm, hadmits, Option.some.inj hfind⟩
        · rw [if_neg hkey, hnew] at hfind
          cases hfind
  · rintro ⟨row, rfl, rfl, hadmits, rfl⟩
    obtain ⟨t', hinsert⟩ := Option.isSome_iff_exists.mp (Table.insert_isSome_iff.mpr hnew)
    have hsave : saveRow refusal admits t (some row) = .ok t' := by
      simp only [saveRow, hinsert, if_pos hadmits]
    rw [hsave, Checks.map_eq_ok_iff]
    exact ⟨t', rfl, by rw [Table.find?_insert hinsert, if_pos rfl, Option.map_some]⟩

/-- What is stored fits, what fits is stored as it is, and the mapper undoes what is bound:
so the values that are read back are those that fit. -/
theorem read_back_iff {stored : ρ → Option ρ} {map : ρ → α} {row : α → ρ} {id : α → κ}
    {fits : α → Prop} (hmap : ∀ a, map (row a) = a) (hkey : ∀ a, key (row a) = id a)
    (hfits : ∀ {a r}, stored (row a) = some r → map r = a → fits a)
    (hstored : ∀ {a}, fits a → stored (row a) = some (row a))
    {refusal : String} {admits : ρ → Bool} {t : Table ρ κ key} {a : α}
    (hnew : t.find? (id a) = none) (hadmits : admits (row a) = true) :
    ((saveRow refusal admits t (stored (row a))).map fun t' => (t'.find? (id a)).map map) =
      .ok (some a) ↔ fits a := by
  rw [find_saveRow hnew]
  constructor
  · rintro ⟨r, hr, -, -, hread⟩
    exact hfits hr hread
  · intro h
    exact ⟨row a, hstored h, hkey a, hadmits, hmap a⟩

end

/-! ## Columns -/

namespace Pg

variable {n : ℕ} {o p : Option String} {teamId : Option TeamId}

theorem keptIfAny_teamId (h : ∀ t ∈ teamId, t.val.length ≤ n) :
    keptIfAny n (teamId.map TeamId.val) = some (teamId.map TeamId.val) := by
  refine keptIfAny_of_length_le fun s hs => ?_
  obtain ⟨t, ht, rfl⟩ := Option.map_eq_some_iff.mp hs
  exact h t ht

theorem length_teamId (h : keptIfAny n o = some p) :
    ∀ t ∈ p.map TeamId.mk, t.val.length ≤ n := by
  intro t ht
  obtain ⟨s, hs, rfl⟩ := Option.map_eq_some_iff.mp ht
  exact length_of_keptIfAny h s hs

end Pg

/-! ## Accounts -/

/-- The row of `INSERT INTO accounts`. -/
def Pg.AccountRow.stored (row : AccountRow) : Option AccountRow :=
  if row.texts.all storable then do
    let row ← row.kept
    let id ← Pg.kept 64 row.id.val
    let role ← Pg.kept 50 row.role
    let teamId ← keptIfAny 64 (row.teamId.map TeamId.val)
    pure { row with
      id := ⟨id⟩
      role := role
      teamId := teamId.map TeamId.mk }
  else none

/-- `AccountRepo::save`, on the table. -/
def Account.save (refusal : String) (admits : AccountRow → Bool)
    (accounts : Table AccountRow AccountId AccountRow.id) (account : Account) :
    Except RepoError (Table AccountRow AccountId AccountRow.id) :=
  saveRow refusal admits accounts (AccountRow.ofAccount account).stored

/-- The texts of an account have no U+0000, and are no longer than their columns. -/
structure Account.Fits (account : Account) : Prop where
  storable : (AccountRow.ofAccount account).texts.all storable = true
  id : account.id.val.length ≤ 64
  username : account.username.length ≤ 255
  email : ∀ s ∈ account.email, s.length ≤ 255
  passwordHash : ∀ s ∈ account.passwordHash, s.length ≤ 255
  teamId : ∀ t ∈ account.teamId, t.val.length ≤ 64

theorem length_roleStr (role : AccountRole) : (roleStr role).length ≤ 50 := by
  cases role <;> decide

/-- What is stored and read back fits. -/
theorem Account.fits_of_stored {account : Account} {row : AccountRow}
    (h : (AccountRow.ofAccount account).stored = some row) (hread : mapAccount row = account) :
    account.Fits := by
  rw [AccountRow.stored] at h
  split_ifs at h with hstorable
  simp only [Option.bind_eq_bind, Option.bind_eq_some_iff] at h
  obtain ⟨row', hkept, id, hid, role, -, teamId, hteam, h⟩ := h
  obtain ⟨username, email, passwordHash, husername, hemail, hpassword, rfl⟩ :=
    AccountRow.kept_eq_some_iff.mp hkept
  obtain rfl := Option.some.inj h
  have hlengths : id.length ≤ 64 ∧ username.length ≤ 255 ∧ (∀ s ∈ email, s.length ≤ 255) ∧
      (∀ s ∈ passwordHash, s.length ≤ 255) ∧
      ∀ t ∈ teamId.map TeamId.mk, t.val.length ≤ 64 :=
    ⟨length_of_kept hid, length_of_kept husername, length_of_keptIfAny hemail,
      length_of_keptIfAny hpassword, length_teamId hteam⟩
  obtain ⟨hid, husername, hemail, hpassword, hteam⟩ := hlengths
  refine ⟨hstorable, ?_, ?_, ?_, ?_, ?_⟩
  all_goals rw [← hread]; assumption

theorem Account.stored_of_fits {account : Account} (h : account.Fits) :
    (AccountRow.ofAccount account).stored = some (.ofAccount account) := by
  have hteam : (account.teamId.map TeamId.val).map TeamId.mk = account.teamId := by
    cases account.teamId <;> rfl
  rw [AccountRow.stored, if_pos h.storable]
  simp only [AccountRow.kept, AccountRow.ofAccount, kept_of_length_le h.id,
    kept_of_length_le h.username, keptIfAny_of_length_le h.email,
    keptIfAny_of_length_le h.passwordHash, kept_of_length_le (length_roleStr account.role),
    keptIfAny_teamId h.teamId, Option.bind_eq_bind, Option.bind_some, Option.pure_def, hteam]

/-! ## Submissions -/

/-- The texts of the row; a flag is a `TEXT`. -/
def SubmissionRow.texts (row : SubmissionRow) : List String :=
  [row.id, row.challengeId, row.accountId, row.providedFlag, row.submittedIp] ++ row.teamId.toList

/-- The row of `INSERT INTO submissions`. -/
def SubmissionRow.stored (row : SubmissionRow) : Option SubmissionRow :=
  if row.texts.all storable then do
    let id ← kept 64 row.id
    let challengeId ← kept 64 row.challengeId
    let teamId ← keptIfAny 64 row.teamId
    let accountId ← kept 64 row.accountId
    let submittedIp ← kept 64 row.submittedIp
    pure { row with
      id := id
      challengeId := challengeId
      teamId := teamId
      accountId := accountId
      submittedIp := submittedIp }
  else none

/-- `SubmissionRepo::save`, on the table. -/
def Submission.save (refusal : String) (admits : SubmissionRow → Bool)
    (submissions : Table SubmissionRow String SubmissionRow.id) (submission : Submission) :
    Except RepoError (Table SubmissionRow String SubmissionRow.id) :=
  saveRow refusal admits submissions (SubmissionRow.ofSubmission submission).stored

/-- The texts of a submission have no U+0000, and are no longer than their columns. -/
structure Submission.Fits (submission : Submission) : Prop where
  storable : (SubmissionRow.ofSubmission submission).texts.all storable = true
  id : submission.id.length ≤ 64
  challengeId : submission.challengeId.length ≤ 64
  teamId : ∀ t ∈ submission.teamId, t.val.length ≤ 64
  accountId : submission.accountId.val.length ≤ 64
  submittedIp : submission.submittedIp.length ≤ 64

theorem Submission.fits_of_stored {submission : Submission} {row : SubmissionRow}
    (h : (SubmissionRow.ofSubmission submission).stored = some row)
    (hread : mapSubmission row = submission) : submission.Fits := by
  rw [SubmissionRow.stored] at h
  split_ifs at h with hstorable
  simp only [Option.bind_eq_bind, Option.bind_eq_some_iff] at h
  obtain ⟨id, hid, challengeId, hchallenge, teamId, hteam, accountId, haccount, submittedIp, hip,
    h⟩ := h
  obtain rfl := Option.some.inj h
  have hid := length_of_kept hid
  have hchallenge := length_of_kept hchallenge
  have hteam := length_teamId hteam
  have haccount := length_of_kept haccount
  have hip := length_of_kept hip
  refine ⟨hstorable, ?_, ?_, ?_, ?_, ?_⟩
  all_goals rw [← hread]; assumption

theorem Submission.stored_of_fits {submission : Submission} (h : submission.Fits) :
    (SubmissionRow.ofSubmission submission).stored = some (.ofSubmission submission) := by
  rw [SubmissionRow.stored, if_pos h.storable]
  simp only [SubmissionRow.ofSubmission, kept_of_length_le h.id,
    kept_of_length_le h.challengeId, keptIfAny_teamId h.teamId, kept_of_length_le h.accountId,
    kept_of_length_le h.submittedIp, Option.bind_eq_bind, Option.bind_some, Option.pure_def]

/-! ## Hint unlocks -/

/-- The texts of the row. -/
def HintUnlockRow.texts (row : HintUnlockRow) : List String :=
  [row.id, row.challengeId, row.accountId] ++ row.teamId.toList

/-- The row of `INSERT INTO hint_unlocks`. -/
def HintUnlockRow.stored (row : HintUnlockRow) : Option HintUnlockRow :=
  if row.texts.all storable then do
    let id ← kept 64 row.id
    let challengeId ← kept 64 row.challengeId
    let teamId ← keptIfAny 64 row.teamId
    let accountId ← kept 64 row.accountId
    pure { row with
      id := id
      challengeId := challengeId
      teamId := teamId
      accountId := accountId }
  else none

/-- `HintUnlockRepo::save`, on the table. -/
def HintUnlock.save (refusal : String) (admits : HintUnlockRow → Bool)
    (unlocks : Table HintUnlockRow String HintUnlockRow.id) (unlock : HintUnlock) :
    Except RepoError (Table HintUnlockRow String HintUnlockRow.id) :=
  saveRow refusal admits unlocks (HintUnlockRow.ofUnlock unlock).stored

/-- The texts of an unlock have no U+0000, and are no longer than their columns. -/
structure HintUnlock.Fits (unlock : HintUnlock) : Prop where
  storable : (HintUnlockRow.ofUnlock unlock).texts.all storable = true
  id : unlock.id.length ≤ 64
  challengeId : unlock.challengeId.length ≤ 64
  teamId : ∀ t ∈ unlock.teamId, t.val.length ≤ 64
  accountId : unlock.accountId.val.length ≤ 64

theorem HintUnlock.fits_of_stored {unlock : HintUnlock} {row : HintUnlockRow}
    (h : (HintUnlockRow.ofUnlock unlock).stored = some row)
    (hread : mapHintUnlock row = unlock) : unlock.Fits := by
  rw [HintUnlockRow.stored] at h
  split_ifs at h with hstorable
  simp only [Option.bind_eq_bind, Option.bind_eq_some_iff] at h
  obtain ⟨id, hid, challengeId, hchallenge, teamId, hteam, accountId, haccount, h⟩ := h
  obtain rfl := Option.some.inj h
  have hid := length_of_kept hid
  have hchallenge := length_of_kept hchallenge
  have hteam := length_teamId hteam
  have haccount := length_of_kept haccount
  refine ⟨hstorable, ?_, ?_, ?_, ?_⟩
  all_goals rw [← hread]; assumption

theorem HintUnlock.stored_of_fits {unlock : HintUnlock} (h : unlock.Fits) :
    (HintUnlockRow.ofUnlock unlock).stored = some (.ofUnlock unlock) := by
  rw [HintUnlockRow.stored, if_pos h.storable]
  simp only [HintUnlockRow.ofUnlock, kept_of_length_le h.id,
    kept_of_length_le h.challengeId, keptIfAny_teamId h.teamId, kept_of_length_le h.accountId,
    Option.bind_eq_bind, Option.bind_some, Option.pure_def]

/-! ## Files -/

/-- `FileRepo::save`, on the table. -/
def StoredFile.save (refusal : String) (admits : FileRow → Bool)
    (files : Table FileRow String FileRow.id) (file : StoredFile) :
    Except RepoError (Table FileRow String FileRow.id) :=
  saveRow refusal admits files (FileRow.ofStored file).stored

/-- The texts of a file record have no U+0000, and are no longer than their columns. -/
structure StoredFile.Fits (file : StoredFile) : Prop where
  storable : (FileRow.ofStored file).texts.all storable = true
  id : file.id.length ≤ 64
  checksumSha256 : file.checksumSha256.length ≤ 64
  contentType : file.contentType.length ≤ 255

theorem StoredFile.fits_of_stored {file : StoredFile} {row : FileRow}
    (h : (FileRow.ofStored file).stored = some row) (hread : row.toStored = file) :
    file.Fits := by
  rw [FileRow.stored] at h
  split_ifs at h with hstorable
  simp only [Option.bind_eq_bind, Option.bind_eq_some_iff] at h
  obtain ⟨id, hid, checksum, hchecksum, contentType, htype, h⟩ := h
  obtain rfl := Option.some.inj h
  have hid := length_of_kept hid
  have hchecksum := length_of_kept hchecksum
  have htype := length_of_kept htype
  refine ⟨hstorable, ?_, ?_, ?_⟩
  all_goals rw [← hread]; assumption

theorem StoredFile.stored_of_fits {file : StoredFile} (h : file.Fits) :
    (FileRow.ofStored file).stored = some (.ofStored file) := by
  rw [FileRow.stored, if_pos h.storable]
  simp only [FileRow.ofStored, kept_of_length_le h.id, kept_of_length_le h.checksumSha256,
    kept_of_length_le h.contentType, Option.bind_eq_bind, Option.bind_some, Option.pure_def]

/-! ## Challenges -/

open ChallengeRepo

/-- The texts of a challenge have no U+0000, those in its JSON columns included, and are no
longer than their columns; the equation of a decay is not stored. -/
structure Challenge.Fits (challenge : Challenge) : Prop where
  sendable : (Binds.ofChallenge challenge).sendable = true
  id : challenge.id.length ≤ 64
  title : challenge.title.length ≤ 255
  category : challenge.category.length ≤ 100
  equation : (∀ initial minimum decay,
    challenge.points.mode ≠ .dynamicDecay initial minimum decay) →
      challenge.points.equation.length ≤ 255
  authorId : challenge.author.id.length ≤ 64
  authorUsername : challenge.author.username.length ≤ 255

/-- The JSON columns of a challenge are read back; a limit is not read from a `null`. -/
structure FromValue.ReadsBack (D : FromValue) (challenge : Challenge) : Prop where
  flag : D.flag challenge.flag.toValue = .ok challenge.flag
  hints : D.hints (Json.ofList ChallengeHint.toValue challenge.hints) = .ok challenge.hints
  files : D.files (Json.ofList ChallengeFile.toValue challenge.files) = .ok challenge.files
  tags : D.tags (Json.ofList .string challenge.tags) = .ok challenge.tags
  requirements : D.requirements (Json.ofList ChallengeRequirement.toValue challenge.requirements) =
    .ok challenge.requirements
  deployment : D.deployment challenge.deployment.toValue = .ok challenge.deployment
  visibility : D.visibility challenge.visibility.toValue = .ok challenge.visibility
  maxAttempts : ∀ limit ∈ challenge.maxAttempts, D.maxAttempts limit.toValue = .ok limit
  null : ∀ limit, D.maxAttempts .null ≠ .ok limit

/-- The challenge with the equation that is stored. -/
def Challenge.withEquation (challenge : Challenge) : Challenge :=
  { challenge with points := ⟨challenge.points.mode, eqStr challenge.points⟩ }

section

variable {D : FromValue} {challenge : Challenge}

theorem parseU32_toString (n : UInt32) : Text.parseU32 (toString n.toNat) = some n := by
  have hread : Text.readNat (toString n.toNat).toList = some n.toNat := Text.readNat_repr n.toNat
  rw [Text.parseU32, hread, Option.bind_some, if_pos n.toNat_lt, UInt32.ofNat_toNat]

/-- A decay in the equation column. -/
theorem eqStr_dynamicDecay {points : ChallengePoints} {initial minimum decay : UInt32}
    (h : points.mode = .dynamicDecay initial minimum decay) :
    eqStr points = toString initial.toNat ++ "," ++ toString minimum.toNat ++ "," ++
      toString decay.toNat := by
  rw [eqStr, h]

theorem eqStr_of_ne {points : ChallengePoints}
    (h : ∀ initial minimum decay, points.mode ≠ .dynamicDecay initial minimum decay) :
    eqStr points = points.equation := by
  rw [eqStr]
  split
  · rename_i hmode
    exact absurd hmode (h _ _ _)
  · rfl

/-- A decay is cut into its three numbers again. -/
theorem splitOn_decay (a b c : ℕ) :
    Text.splitOn ',' (toString a ++ "," ++ toString b ++ "," ++ toString c) =
      [toString a, toString b, toString c] := by
  have hcomma : ∀ n : ℕ, ',' ∉ (toString n).toList := by
    intro n h
    exact absurd (Text.isDigit_of_mem_repr (n := n) h) (by decide)
  refine Text.splitOn_eq_three_iff.mpr ⟨?_, hcomma a, hcomma b, hcomma c⟩
  simp [String.toList_append]

/-- The scoring mode is found again in its two columns. -/
theorem mapMode_modeStr (points : ChallengePoints) :
    mapMode (modeStr points.mode) (eqStr points) = points.mode := by
  cases hmode : points.mode with
  | pointValue => rfl
  | pointAttribution => rfl
  | dynamicDecay initial minimum decay =>
    rw [mapMode, eqStr_dynamicDecay hmode, splitOn_decay]
    simp only [modeStr, parseU32_toString, Option.getD_some, if_true]
    rfl

theorem length_eqStr_le {points : ChallengePoints} {initial minimum decay : UInt32}
    (h : points.mode = .dynamicDecay initial minimum decay) : (eqStr points).length ≤ 32 := by
  have hdigits : ∀ n : UInt32, (toString n.toNat).length ≤ 10 := by
    intro n
    have hlt : n.toNat < 10 ^ 10 := n.toNat_lt.trans (by norm_num)
    exact Nat.repr_length n.toNat 10 (by omega) hlt
  have hcomma : ",".length = 1 := rfl
  have hinitial := hdigits initial
  have hminimum := hdigits minimum
  have hdecay := hdigits decay
  rw [eqStr_dynamicDecay h]
  simp only [String.length_append]
  omega

/-- The equation that is stored fits when the texts do. -/
theorem length_eqStr_iff {points : ChallengePoints} :
    (eqStr points).length ≤ 255 ↔
      ((∀ initial minimum decay, points.mode ≠ .dynamicDecay initial minimum decay) →
        points.equation.length ≤ 255) := by
  cases hmode : points.mode with
  | dynamicDecay initial minimum decay =>
    have hlength := length_eqStr_le hmode
    exact iff_of_true (by omega) fun h => absurd rfl (h initial minimum decay)
  | _ =>
    have heq : eqStr points = points.equation := eqStr_of_ne (by simp [hmode])
    simp [heq]

theorem length_modeStr : ∀ mode : ScoringMode, (modeStr mode).length ≤ 50
  | .pointValue => by decide
  | .pointAttribution => by decide
  | .dynamicDecay _ _ _ => show "DynamicDecay".length ≤ 50 by decide

/-- The row of a challenge whose texts fit. -/
def Challenge.row (challenge : Challenge) (h : challenge.Fits) : ChallengeRow where
  id := ⟨challenge.id, h.id⟩
  title := ⟨challenge.title, h.title⟩
  description := challenge.description
  category := ⟨challenge.category, h.category⟩
  pointsMode := ⟨modeStr challenge.points.mode, length_modeStr _⟩
  pointsEquation := ⟨eqStr challenge.points, length_eqStr_iff.mpr h.equation⟩
  flag := challenge.flag.toValue
  authorId := ⟨challenge.author.id, h.authorId⟩
  authorUsername := ⟨challenge.author.username, h.authorUsername⟩
  hints := Json.ofList ChallengeHint.toValue challenge.hints
  files := Json.ofList ChallengeFile.toValue challenge.files
  tags := Json.ofList .string challenge.tags
  requirements := Json.ofList ChallengeRequirement.toValue challenge.requirements
  teamConsensus := challenge.teamConsensus
  deployment := challenge.deployment.toValue
  visibility := challenge.visibility.toValue
  maxAttempts := some (Json.ofOption MaxAttempts.toValue challenge.maxAttempts)

theorem insertRow_ofChallenge (h : challenge.Fits) :
    (Binds.ofChallenge challenge).insertRow = some (challenge.row h) := by
  simp only [Binds.insertRow, Binds.ofChallenge, Varchar.store_of_length_le h.id,
    Varchar.store_of_length_le h.title, Varchar.store_of_length_le h.category,
    Varchar.store_of_length_le (length_modeStr challenge.points.mode),
    Varchar.store_of_length_le (length_eqStr_iff.mpr h.equation),
    Varchar.store_of_length_le h.authorId, Varchar.store_of_length_le h.authorUsername,
    Option.bind_eq_bind, Option.bind_some]
  rfl

/-- A limit is read back from its column, and none from a `null`. -/
theorem maxAttempts_ofOption (hreads : D.ReadsBack challenge) :
    (D.maxAttempts (Json.ofOption MaxAttempts.toValue challenge.maxAttempts)).toOption =
      challenge.maxAttempts := by
  cases hlimit : challenge.maxAttempts with
  | none =>
    cases hnull : D.maxAttempts .null with
    | error e => rw [Json.ofOption, hnull]; rfl
    | ok limit => exact absurd hnull (hreads.null limit)
  | some limit =>
    rw [Json.ofOption, hreads.maxAttempts limit hlimit]
    rfl

theorem mapChallenge_row (h : challenge.Fits) (hreads : D.ReadsBack challenge) :
    mapChallenge D (challenge.row h) = .ok challenge.withEquation := by
  have hvisibility : (D.visibility challenge.visibility.toValue).toOption =
      some challenge.visibility := by
    rw [hreads.visibility]
    rfl
  simp only [mapChallenge, Challenge.row, hreads.flag, hreads.hints, hreads.files, hreads.tags,
    hreads.requirements, hreads.deployment, hvisibility, maxAttempts_ofOption hreads,
    mapMode_modeStr, Option.bind_some, Option.getD_some]
  rfl

/-- What is read has texts that fit. -/
theorem fits_of_mapChallenge {row : ChallengeRow}
    (hsend : (Binds.ofChallenge challenge).sendable = true)
    (h : mapChallenge D row = .ok challenge.withEquation) : challenge.Fits := by
  simp only [mapChallenge, Checks.bind_eq_ok_iff] at h
  obtain ⟨_, -, _, -, _, -, _, -, _, -, _, -, h⟩ := h
  have heq := Except.ok.inj h
  have hid : row.id.val = challenge.id := congrArg Challenge.id heq
  have htitle : row.title.val = challenge.title := congrArg Challenge.title heq
  have hcategory : row.category.val = challenge.category := congrArg Challenge.category heq
  have hequation : row.pointsEquation.val = eqStr challenge.points :=
    congrArg (fun c => c.points.equation) heq
  have hauthorId : row.authorId.val = challenge.author.id := congrArg (fun c => c.author.id) heq
  have hauthor : row.authorUsername.val = challenge.author.username :=
    congrArg (fun c => c.author.username) heq
  exact {
    sendable := hsend
    id := hid ▸ row.id.property
    title := htitle ▸ row.title.property
    category := hcategory ▸ row.category.property
    equation := length_eqStr_iff.mp (hequation ▸ row.pointsEquation.property)
    authorId := hauthorId ▸ row.authorId.property
    authorUsername := hauthor ▸ row.authorUsername.property }

variable {s : ChallengeTables} {refusal : String}

/-- A challenge that is saved under a new id is found under it. -/
theorem findById_save (h : challenge.Fits) (hreads : D.ReadsBack challenge)
    (hnew : s.challenges.find? challenge.id = none) :
    (exec (handler refusal) s (do save challenge; Pg.ChallengeRepo.findById D challenge.id)).1 =
      .ok (some challenge.withEquation) := by
  have hkey : (challenge.row h).key = challenge.id := rfl
  obtain ⟨challenges, hinsert⟩ :=
    Option.isSome_iff_exists.mp (Table.insert_isSome_iff.mpr (hkey ▸ hnew))
  have hsave : result refusal s (.insert (.ofChallenge challenge)) =
      .ok ((), { s with challenges := challenges }) := by
    simp only [result, if_pos h.sendable, insertRow_ofChallenge h, hinsert]
  have hfind : result refusal { s with challenges := challenges } (.select challenge.id) =
      .ok (some (challenge.row h), { s with challenges := challenges }) := by
    rw [result, Table.find?_insert hinsert, if_pos hkey.symm]
  have hsaved : exec (handler refusal) s (save challenge) =
      (.ok (), { s with challenges := challenges }) := exec_execute_bind hsave
  rw [exec_bind, hsaved]
  simp only [Pg.ChallengeRepo.findById]
  rw [exec_execute_bind hfind]
  simp only [mapChallenge_row h hreads]
  rfl

/-- What a `SELECT` by an id returns. -/
theorem exec_findById (id : String) :
    (exec (handler refusal) s (Pg.ChallengeRepo.findById D id)).1 =
      match s.challenges.find? id with
      | none => .ok none
      | some row => ((mapChallenge D row).mapError .internal).map some := by
  have hselect : result refusal s (.select id) = .ok (s.challenges.find? id, s) := rfl
  rw [Pg.ChallengeRepo.findById, exec_execute_bind hselect]
  cases s.challenges.find? id with
  | none => rfl
  | some row =>
    simp only [exec_bind]
    cases mapChallenge D row with
    | ok challenge => rfl
    | error e => rfl

/-- A challenge that is found as it was saved fits. -/
theorem fits_of_findById (hnew : s.challenges.find? challenge.id = none)
    (h : (exec (handler refusal) s (do
      save challenge; Pg.ChallengeRepo.findById D challenge.id)).1 =
        .ok (some challenge.withEquation)) : challenge.Fits := by
  cases hresult : result refusal s (.insert (.ofChallenge challenge)) with
  | error e =>
    have hsave : exec (handler refusal) s (save challenge) = (.error e, s) :=
      exec_execute_bind_error hresult
    rw [exec_bind, hsave] at h
    cases h
  | ok r =>
    have hsave : exec (handler refusal) s (save challenge) = (.ok (), r.2) :=
      exec_execute_bind hresult
    rw [exec_bind, hsave] at h
    rw [result] at hresult
    split_ifs at hresult with hsend
    cases hrow : (Binds.ofChallenge challenge).insertRow with
    | none => simp [hrow] at hresult
    | some row =>
      cases hinsert : s.challenges.insert row with
      | none => simp [hrow, hinsert] at hresult
      | some challenges =>
        simp only [hrow, hinsert] at hresult
        obtain rfl := Except.ok.inj hresult
        have hfound : (exec (handler refusal) { s with challenges := challenges }
            (Pg.ChallengeRepo.findById D challenge.id)).1 = .ok (some challenge.withEquation) := h
        rw [exec_findById] at hfound
        simp only [Table.find?_insert hinsert, hnew] at hfound
        split_ifs at hfound
        · obtain ⟨read, hread, heq⟩ := Checks.map_eq_ok_iff.mp hfound
          obtain rfl := Option.some.inj heq
          exact fits_of_mapChallenge hsend (Checks.mapError_eq_ok_iff.mp hread)
        · cases hfound

end

/-! ## Reading back -/

/-- A challenge that decays, with an equation that nothing reads. -/
def decayChallenge : Challenge :=
  { webChallenge with points := ⟨.dynamicDecay 4294967295 100 10, "fast"⟩ }

/-- A player whose name is `alice`, and some spaces. -/
def aliceWith (spaces : ℕ) : Account where
  id := ⟨"alice"⟩
  username := String.ofList ("alice".toList ++ List.replicate spaces ' ')
  email := none
  passwordHash := none
  role := .player
  teamId := none
  ctftimeId := none
  fields := []
  createdAt := 0

theorem length_aliceWith (spaces : ℕ) : (aliceWith spaces).username.length = 5 + spaces := by
  rw [aliceWith, String.length_ofList, List.length_append, List.length_replicate]
  rfl

theorem storable_aliceWith (spaces : ℕ) :
    (AccountRow.ofAccount (aliceWith spaces)).texts.all storable = true := by
  have hname : storable (aliceWith spaces).username = true := by
    simp [storable, aliceWith]
  have htexts : (AccountRow.ofAccount (aliceWith spaces)).texts =
      ["alice", (aliceWith spaces).username, "Player"] := rfl
  have halice : storable "alice" = true ∧ storable "Player" = true := by decide
  simp [htexts, hname, halice]

theorem fits_aliceWith {spaces : ℕ} (h : spaces ≤ 250) : (aliceWith spaces).Fits := by
  refine ⟨storable_aliceWith spaces, show "alice".length ≤ 64 by decide, ?_, ?_, ?_, ?_⟩
  · rw [length_aliceWith]
    omega
  all_goals simp [aliceWith]

/-- However many spaces there are, the column keeps 250. -/
theorem kept_aliceWith (k : ℕ) :
    kept 255 (aliceWith (250 + k)).username = some (aliceWith 250).username := by
  have hlength : ("alice".toList ++ List.replicate 250 ' ').length = 255 := by
    rw [← String.length_ofList]
    exact length_aliceWith 250
  have hsplit : (aliceWith (250 + k)).username =
      String.ofList (("alice".toList ++ List.replicate 250 ' ') ++ List.replicate k ' ') := by
    rw [List.append_assoc, List.replicate_append_replicate]
    rfl
  rw [hsplit]
  exact kept_append_spaces hlength fun _ => List.eq_of_mem_replicate

end Cctf

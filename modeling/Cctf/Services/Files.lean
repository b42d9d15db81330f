import Cctf.Library.Checks
import Cctf.Library.Faults
import Cctf.Library.Paths
import Cctf.Library.Slices
import Cctf.Library.Table
import Cctf.Library.Text
import Cctf.Repos.Pg.Columns
import Cctf.Repos.Traits

/-!
# Stored files

A file is kept twice: its bytes are in a directory, and a row of the `files` table says what
it is.  `FileService` writes and deletes both, with no transaction over the two.

* `FileRow.stored` — what the columns make of a row.
* `FileOp`, `FileWorld`, `FileOp.result` — the calls, to the directory and to the table, and
  what they do when they do not fail; `FileOp.perform` is the same on the way through the columns.
* `validateId`, `LocalFileStorage.store`, `retrieve`, `delete` — the storage.
* `LocalFileStorage.path`, `RcloneFileStorage.target`, `args` — where a file is, and how `rclone`
  is asked for it.
* `FileRepo.save`, `findById`, `delete` — the repository.
* `upload`, `download`, `FileService.delete` — the service.
* `validateId_text` — the id of a new file is one that the storage takes.
-/

namespace Cctf

open Program Checks

/-! ## Bytes and ids -/

/-- The bytes of a file, as many as a `usize` counts. -/
structure Bytes where
  data : List UInt8
  fits : data.length < UInt64.size
  deriving DecidableEq

/-- `bytes.len() as u64`. -/
def Bytes.len (b : Bytes) : UInt64 := UInt64.ofNat b.data.length

theorem Bytes.toNat_len (b : Bytes) : b.len.toNat = b.data.length :=
  UInt64.toNat_ofNat_of_lt' b.fits

/-- `{b:02x}`. -/
def hexByte (b : UInt8) : List Char :=
  [Nat.digitChar (b.toNat / 16), Nat.digitChar (b.toNat % 16)]

/-- Bytes in hexadecimal. -/
def hex (bytes : List UInt8) : List Char := bytes.flatMap hexByte

/-- A `uuid::Uuid`. -/
structure Uuid where
  bytes : List UInt8
  length : bytes.length = 16

/-- `to_string`: five groups of hexadecimal digits. -/
def Uuid.text (u : Uuid) : String :=
  String.ofList (hex (u.bytes.take 4) ++ '-' :: (hex ((u.bytes.drop 4).take 2) ++
    '-' :: (hex ((u.bytes.drop 6).take 2) ++ '-' :: (hex ((u.bytes.drop 8).take 2) ++
      '-' :: hex (u.bytes.drop 10)))))

/-! ## Rows -/

/-- A file record. -/
structure StoredFile where
  id : String
  name : String
  checksumSha256 : String
  size : UInt64
  contentType : String
  uploadedAt : Int64
  deriving DecidableEq

/-- A row of the `files` table. -/
structure FileRow where
  id : String
  name : String
  checksumSha256 : String
  size : Int64
  contentType : String
  uploadedAt : Int64
  deriving DecidableEq

/-- What `save` binds. -/
def FileRow.ofStored (file : StoredFile) : FileRow where
  id := file.id
  name := file.name
  checksumSha256 := file.checksumSha256
  size := file.size.toInt64
  contentType := file.contentType
  uploadedAt := file.uploadedAt

/-- What `find_by_id` reads. -/
def FileRow.toStored (row : FileRow) : StoredFile where
  id := row.id
  name := row.name
  checksumSha256 := row.checksumSha256
  size := row.size.toUInt64
  contentType := row.contentType
  uploadedAt := row.uploadedAt

/-- A record is read back as it was saved. -/
@[simp] theorem FileRow.toStored_ofStored (file : StoredFile) :
    (FileRow.ofStored file).toStored = file := by
  simp [ofStored, toStored]

namespace FileRow

open Pg

/-- The texts of the row; a name is a `TEXT`. -/
def texts (row : FileRow) : List String :=
  [row.id, row.name, row.checksumSha256, row.contentType]

/-- The row of `INSERT INTO files`. -/
def stored (row : FileRow) : Option FileRow :=
  if row.texts.all storable then do
    let id ← kept 64 row.id
    let checksumSha256 ← kept 64 row.checksumSha256
    let contentType ← kept 255 row.contentType
    pure { row with
      id := id
      checksumSha256 := checksumSha256
      contentType := contentType }
  else none

/-- What the columns leave of a row. -/
theorem of_stored {row row' : FileRow} (h : row.stored = some row') :
    kept 64 row.id = some row'.id ∧ row'.name = row.name ∧
      kept 255 row.contentType = some row'.contentType := by
  rw [stored] at h
  split_ifs at h
  simp only [Option.bind_eq_bind, Option.bind_eq_some_iff] at h
  obtain ⟨id, hid, _, -, contentType, htype, h⟩ := h
  obtain rfl := Option.some.inj h
  exact ⟨hid, rfl, htype⟩

end FileRow

/-! ## Calls -/

/-- A call to the directory of the storage, or a statement. -/
inductive FileOp where
  | createDirAll
  | write (id : String) (bytes : Bytes)
  | read (id : String)
  | removeFile (id : String)
  /-- `INSERT INTO files (id, name, …) VALUES ($1, $2, …)` -/
  | insertFile (row : FileRow)
  /-- `SELECT * FROM files WHERE id = $1` -/
  | selectFile (id : String)
  /-- `DELETE FROM files WHERE id = $1` -/
  | deleteFile (id : String)

/-- What a call returns; there may be no file of the name. -/
def FileOp.Value : FileOp → Type
  | .createDirAll => Unit
  | .write _ _ => Unit
  | .read _ => Option Bytes
  | .removeFile _ => Option Unit
  | .insertFile _ => Unit
  | .selectFile _ => Option FileRow
  | .deleteFile _ => Unit

/-- Why a call fails: the directory says it by a message, the database by an error. -/
structure Failure where
  message : String
  err : RepoError

/-- The directory and the table. -/
structure FileWorld where
  bytes : String → Option Bytes
  files : Table FileRow String FileRow.id

/-- What a call does. -/
def FileOp.result (w : FileWorld) : (op : FileOp) → Except Failure (op.Value × FileWorld)
  | .createDirAll => .ok ((), w)
  | .write id bytes => .ok ((), { w with bytes := Function.update w.bytes id (some bytes) })
  | .read id => .ok (w.bytes id, w)
  | .removeFile id =>
    .ok ((w.bytes id).map fun _ => (), { w with bytes := Function.update w.bytes id none })
  | .insertFile row =>
    match w.files.insert row with
    | some files => .ok ((), { w with files := files })
    | none => .error ⟨"", .conflict "auth-username-taken"⟩
  | .selectFile id => .ok (w.files.find? id, w)
  | .deleteFile id => .ok ((), { w with files := w.files.erase id })

/-- What a call does on the way through the columns; `refusal` is what the database says when one
refuses its value. -/
def FileOp.perform (refusal : String) (w : FileWorld) :
    (op : FileOp) → Except Failure (op.Value × FileWorld)
  | .insertFile row =>
    match row.stored with
    | some row => FileOp.result w (.insertFile row)
    | none => .error ⟨"", .internal refusal⟩
  | op => op.result w

/-- A record that is stored. -/
theorem FileOp.perform_insertFile {refusal : String} {w w' : FileWorld} {row : FileRow}
    {value : Unit} (h : FileOp.perform refusal w (.insertFile row) = .ok (value, w')) :
    ∃ row' files, row.stored = some row' ∧ w.files.insert row' = some files ∧
      w' = { w with files := files } := by
  rw [FileOp.perform] at h
  cases hstored : row.stored with
  | none =>
    rw [hstored] at h
    cases h
  | some row' =>
    rw [hstored] at h
    simp only [FileOp.result] at h
    cases hinsert : w.files.insert row' with
    | none =>
      rw [hinsert] at h
      cases h
    | some files =>
      rw [hinsert] at h
      exact ⟨row', files, rfl, hinsert, (Prod.mk.inj (Except.ok.inj h)).2.symm⟩

/-! ## Storage -/

/-- `StorageError`. -/
inductive StorageError where
  | io (message : String)
  | notFound
  | invalidId
  deriving DecidableEq

/-- A computation of the storage. -/
abbrev Storing (α : Type) : Type :=
  ExceptT StorageError (Program FileOp fun op => Except Failure op.Value) α

/-- A character of an id. -/
def isIdChar (c : Char) : Bool := c.isAlphanum || c == '-' || c == '_' || c == '.'

/-- `validate_id`. -/
def validateId (id : String) : Except StorageError Unit :=
  if id.toList = [] ∨ 128 < Text.byteLen id.toList ∨ id.toList.head? = some '-' ∨
      Text.contains id ".." = true ∨ id.toList.all isIdChar = false
  then .error .invalidId
  else .ok ()

theorem validateId_error {id : String} {e : StorageError} (h : validateId id = .error e) :
    e = .invalidId := by
  rw [validateId] at h
  split at h
  · cases h
    rfl
  · cases h

section

/-- A digit is a letter or a number, of one byte. -/
theorem isAlphanum_digitChar : ∀ n < 16,
    (Nat.digitChar n).isAlphanum = true ∧ (Nat.digitChar n).utf8Size = 1 := by
  decide

theorem isAlphanum_of_mem_hex {bytes : List UInt8} {c : Char} (h : c ∈ hex bytes) :
    c.isAlphanum = true ∧ c.utf8Size = 1 := by
  obtain ⟨b, -, hc⟩ := List.mem_flatMap.mp h
  have hb : b.toNat < 256 := b.toNat_lt
  rcases List.mem_pair.mp hc with rfl | rfl
  · exact isAlphanum_digitChar _ (by omega)
  · exact isAlphanum_digitChar _ (by omega)

@[simp] theorem length_hex (bytes : List UInt8) : (hex bytes).length = 2 * bytes.length := by
  induction bytes with
  | nil => rfl
  | cons b bytes ih =>
    rw [hex, List.flatMap_cons, List.length_append, ← hex, ih, List.length_cons]
    simp only [hexByte, List.length_cons, List.length_nil]
    omega

variable (u : Uuid)

theorem Uuid.length_text : u.text.toList.length = 36 := by
  have hlength := u.length
  simp [text, hlength]

/-- The characters of a uuid. -/
theorem Uuid.mem_text {c : Char} (h : c ∈ u.text.toList) :
    c.isAlphanum = true ∧ c.utf8Size = 1 ∨ c = '-' := by
  simp only [text, String.toList_ofList, List.mem_append, List.mem_cons] at h
  rcases h with h | h | h | h | h | h | h | h | h
  all_goals first
    | exact .inr h
    | exact .inl (isAlphanum_of_mem_hex h)

/-- A uuid starts with a digit. -/
theorem Uuid.head_text : u.text.toList.head? ≠ some '-' := by
  intro h
  have hpos : 0 < (hex (u.bytes.take 4)).length := by
    have hlength := u.length
    simp [hlength]
  have hhead : '-' ∈ hex (u.bytes.take 4) := by
    rw [text, String.toList_ofList, List.head?_append_of_ne_nil _ (List.ne_nil_of_length_pos hpos)]
      at h
    exact List.mem_of_mem_head? h
  exact absurd (isAlphanum_of_mem_hex hhead).1 (by decide)

/-- **The id of a new file** is one that the storage takes. -/
theorem validateId_text : validateId u.text = .ok () := by
  have hsize : Text.byteLen u.text.toList = 36 := by
    have hones : u.text.toList.map Char.utf8Size = u.text.toList.map fun _ => 1 := by
      refine List.map_congr_left fun c hc => ?_
      rcases u.mem_text hc with ⟨-, hone⟩ | rfl
      · exact hone
      · rfl
    rw [Text.byteLen, hones]
    simp [u.length_text]
  have hchars : u.text.toList.all isIdChar = true := by
    refine List.all_eq_true.mpr fun c hc => ?_
    rcases u.mem_text hc with ⟨halphanum, -⟩ | rfl
    · simp [isIdChar, halphanum]
    · rfl
  have hdots : Text.contains u.text ".." = false := by
    refine decide_eq_false fun hinfix => ?_
    have hdot : '.' ∈ u.text.toList := hinfix.subset (by simp)
    rcases u.mem_text hdot with ⟨halphanum, -⟩ | heq
    · exact absurd halphanum (by decide)
    · exact absurd heq (by decide)
  have hne : u.text.toList ≠ [] := List.ne_nil_of_length_pos (by rw [u.length_text]; omega)
  rw [validateId, if_neg]
  rintro (hempty | hlong | hdash | hcontains | hother)
  · exact hne hempty
  · omega
  · exact u.head_text hdash
  · rw [hdots] at hcontains
    cases hcontains
  · rw [hchars] at hother
    cases hother

end

/-- A call to the directory, with `?`. -/
def io (op : FileOp) : Storing op.Value :=
  ExceptT.mk ((Faults.perform op).run >>= fun r => .done (r.mapError fun f => .io f.message))

namespace LocalFileStorage

def store (id : String) (bytes : Bytes) : Storing Unit := do
  ExceptT.mk (.done (validateId id))
  io .createDirAll
  io (.write id bytes)

def retrieve (id : String) : Storing Bytes := do
  ExceptT.mk (.done (validateId id))
  let found ← io (.read id)
  ExceptT.mk (.done (required found .notFound))

/-- A file that is not there counts as deleted. -/
def delete (id : String) : Storing Unit := do
  ExceptT.mk (.done (validateId id))
  let _ ← io (.removeFile id)

end LocalFileStorage

/-- `LocalFileStorage`: a directory. -/
structure LocalFileStorage where
  dir : String

/-- `self.dir.join(id)`. -/
def LocalFileStorage.path (L : LocalFileStorage) (id : String) : List Char :=
  Paths.join L.dir.toList id.toList

/-- `RcloneFileStorage`: a path on a remote, and arguments for every command. -/
structure RcloneFileStorage where
  remote : String
  path : String
  extraArgs : List String

namespace RcloneFileStorage

variable (S : RcloneFileStorage)

/-- The path of a file on the remote. -/
def filePath (id : String) : String :=
  if S.path.toList = [] then id
  else String.ofList (Paths.trimEnd S.path.toList) ++ "/" ++ id

/-- `target`. -/
def target (id : String) : String := S.remote ++ ":" ++ S.filePath id

/-- The arguments of a command on a file. -/
def args (command id : String) : List String := S.extraArgs ++ [command, "--", S.target id]

/-- `store` runs `rcat`. -/
def storeArgs (id : String) : List String := S.args "rcat" id

/-- `retrieve` runs `cat`. -/
def retrieveArgs (id : String) : List String := S.args "cat" id

/-- `delete` runs `deletefile`. -/
def deleteArgs (id : String) : List String := S.args "deletefile" id

end RcloneFileStorage

/-! ## The service -/

/-- A computation of the service. -/
abbrev Filing (α : Type) : Type :=
  ExceptT ServiceError (Program FileOp fun op => Except Failure op.Value) α

/-- `From<StorageError> for ServiceError`. -/
def ServiceError.ofStorage : StorageError → ServiceError
  | .notFound => .invalidRequest "ctf-file-not-found"
  | .invalidId => .invalidRequest "ctf-file-invalid-id"
  | .io message => .repo (.internal message)

/-- A storage method, with `?`. -/
def storage {α : Type} (m : Storing α) : Filing α :=
  ExceptT.mk (m.run >>= fun r => .done (r.mapError .ofStorage))

/-- A statement, with `?`. -/
def statement (op : FileOp) : Filing op.Value :=
  ExceptT.mk ((Faults.perform op).run >>= fun r => .done (r.mapError fun f => .repo f.err))

namespace FileRepo

def save (file : StoredFile) : Filing Unit := statement (.insertFile (.ofStored file))

def findById (id : String) : Filing (Option StoredFile) := do
  let row ← statement (.selectFile id)
  pure (Option.map FileRow.toStored row)

def delete (id : String) : Filing Unit := statement (.deleteFile id)

end FileRepo

/-- `FileService`, less its two stores; the digest is SHA-256. -/
structure FileService where
  sha256 : List UInt8 → List UInt8
  maxBytes : UInt64

namespace FileService

variable (S : FileService)

/-- The checksum of a file. -/
def checksum (bytes : Bytes) : String := String.ofList (hex (S.sha256 bytes.data))

/-- The record of an upload. -/
def record (id name contentType : String) (bytes : Bytes) (now : Int64) : StoredFile where
  id := id
  name := name
  checksumSha256 := S.checksum bytes
  size := bytes.len
  contentType := contentType
  uploadedAt := now

/-- `upload`; `uuid` is the new id. -/
def upload (uuid : Uuid) (name contentType : String) (bytes : Bytes) (now : Int64) :
    Filing ChallengeFile :=
  if S.maxBytes < bytes.len then throw (.invalidRequest "ctf-file-too-large")
  else do
    let id := uuid.text
    storage (LocalFileStorage.store id bytes)
    FileRepo.save (S.record id name contentType bytes now)
    pure ⟨name, "/api/v1/files/" ++ id, some (S.checksum bytes)⟩

def download (id : String) : Filing (StoredFile × Bytes) := do
  let found ← FileRepo.findById id
  let record ← ExceptT.mk (.done (required found (.invalidRequest "ctf-file-not-found")))
  let bytes ← storage (LocalFileStorage.retrieve id)
  pure (record, bytes)

def delete (id : String) : Filing Unit := do
  storage (LocalFileStorage.delete id)
  FileRepo.delete id

end FileService

end Cctf

import Cctf.Library.Runs
import Cctf.Services.Files

/-!
# Records and their bytes

`upload` writes the bytes before the record, and `delete` takes the bytes away before the
record.  This file runs the methods in any order, any of their calls failing.

* `upload_cases`, `download_cases`, `delete_cases` — what a method returns and leaves.
* `Archive`, `Archive.step` — a run, which remembers the files that were returned and not
  deleted; `Archive.Kept` — every record has its bytes, and a download finds them.
* `Strands` — a deletion that stops between the bytes and the record.
* `always_kept_iff` — **every record has its bytes all along a run exactly when no deletion
  strands one**.
* `record_stranded` — a record without bytes.
-/

namespace Cctf

open Program Faults Runs

/-! ## The methods -/

/-- A method, and the calls that are to fail. -/
def serve {α : Type} (w : FileWorld) (faults : List (Option Failure)) (m : Filing α) :
    Except ServiceError α × FileWorld :=
  ((run (handler FileOp.result) ⟨w, faults⟩ m.run).1,
    (run (handler FileOp.result) ⟨w, faults⟩ m.run).2.state)

section

variable {w : FileWorld} {faulty : Prop} {id : String} {bytes : Bytes}

/-- The storage has the bytes when it says so. -/
theorem holds_store : Holds FileOp.result faulty w (LocalFileStorage.store id bytes).run
    fun r w' => r = .ok () ∧ w' = { w with bytes := Function.update w.bytes id (some bytes) } ∨
      (∃ e, r = .error e) ∧ w' = w := by
  refine Holds.done_bind (fun _ _ => ?_) fun e _ => .inr ⟨⟨e, rfl⟩, rfl⟩
  refine Holds.call ?_ nofun ?_
  · exact fun _ f => Holds.done (.inr ⟨⟨_, rfl⟩, rfl⟩)
  · rintro u w' ⟨⟩
    refine Holds.call ?_ nofun ?_
    · exact fun _ f => Holds.done (.inr ⟨⟨_, rfl⟩, rfl⟩)
    · rintro u w'' ⟨⟩
      exact Holds.done (.inl ⟨rfl, rfl⟩)

/-- What the storage says of a file. -/
theorem holds_retrieve (faulty : Prop) (id : String) :
    Holds FileOp.result faulty w (LocalFileStorage.retrieve id).run fun r w' => w' = w ∧
      ((∃ bytes, r = .ok bytes ∧ w.bytes id = some bytes ∧ validateId id = .ok ()) ∨
        r = .error .notFound ∧ w.bytes id = none ∨
        ∃ e, r = .error e ∧ e ≠ .notFound ∧ (faulty ∨ validateId id ≠ .ok ())) := by
  refine Holds.done_bind (fun u hvalid => ?_) fun e herror => ?_
  · refine Holds.call ?_ nofun ?_
    · exact fun hfaulty f => Holds.done ⟨rfl, .inr (.inr ⟨_, rfl, nofun, .inl hfaulty⟩)⟩
    · rintro found w' ⟨⟩
      cases w.bytes id with
      | none => exact Holds.done ⟨rfl, .inr (.inl ⟨rfl, rfl⟩)⟩
      | some bytes => exact Holds.done ⟨rfl, .inl ⟨bytes, rfl, rfl, hvalid⟩⟩
  · have hinvalid : e = .invalidId := validateId_error herror
    subst hinvalid
    exact ⟨rfl, .inr (.inr ⟨_, rfl, nofun, .inr (by simp [herror])⟩)⟩

/-- What `upload` returns and leaves: the bytes and the record, or an error and the records
as they were. -/
def Uploaded (S : FileService) (w : FileWorld) (id name contentType : String) (bytes : Bytes)
    (now : Int64) (r : Except ServiceError ChallengeFile) (w' : FileWorld) : Prop :=
  (∃ file, r = .ok file ∧ w'.bytes = Function.update w.bytes id (some bytes) ∧
      w.files.insert (.ofStored (S.record id name contentType bytes now)) = some w'.files) ∨
    (∃ e, r = .error e) ∧ w'.files = w.files ∧
      (w'.bytes = w.bytes ∨ w'.bytes = Function.update w.bytes id (some bytes))

theorem upload_cases (S : FileService) (w : FileWorld) (faults : List (Option Failure))
    (uuid : Uuid) (name contentType : String) (bytes : Bytes) (now : Int64) :
    Uploaded S w uuid.text name contentType bytes now
      (serve w faults (S.upload uuid name contentType bytes now)).1
      (serve w faults (S.upload uuid name contentType bytes now)).2 := by
  have hupload : Holds FileOp.result True w (S.upload uuid name contentType bytes now).run
      (Uploaded S w uuid.text name contentType bytes now) := by
    rw [FileService.upload]
    split
    · exact Holds.done (.inr ⟨⟨_, rfl⟩, rfl, .inl rfl⟩)
    · refine Holds.mapError_bind holds_store ?_ ?_
      · rintro u w' (⟨-, rfl⟩ | ⟨⟨e, he⟩, -⟩)
        · refine Holds.call ?_ ?_ ?_
          · exact fun _ f => Holds.done (.inr ⟨⟨_, rfl⟩, rfl, .inr rfl⟩)
          · exact fun f _ => Holds.done (.inr ⟨⟨_, rfl⟩, rfl, .inr rfl⟩)
          · intro u w'' hinsert
            simp only [FileOp.result] at hinsert
            split at hinsert
            · rename_i files hfiles
              cases hinsert
              exact Holds.done (.inl ⟨_, rfl, rfl, hfiles⟩)
            · cases hinsert
        · cases he
      · rintro e w' (⟨he, -⟩ | ⟨-, rfl⟩)
        · cases he
        · exact .inr ⟨⟨_, rfl⟩, rfl, .inl rfl⟩
  exact hupload faults fun h => absurd trivial h

/-- The bytes of the other files stay. -/
theorem Uploaded.bytes_other {S : FileService} {name contentType : String} {now : Int64}
    {r : Except ServiceError ChallengeFile} {w' : FileWorld} {other : String}
    (h : Uploaded S w id name contentType bytes now r w') (hne : other ≠ id) :
    w'.bytes other = w.bytes other := by
  have hupdate : Function.update w.bytes id (some bytes) other = w.bytes other :=
    Function.update_of_ne hne _ _
  obtain ⟨file, -, hbytes, -⟩ | ⟨-, -, hbytes | hbytes⟩ := h
  · rw [hbytes, hupdate]
  · rw [hbytes]
  · rw [hbytes, hupdate]

theorem ofStorage_ne {e : StorageError} (h : e ≠ .notFound) :
    ServiceError.ofStorage e ≠ .invalidRequest "ctf-file-not-found" := by
  cases e with
  | notFound => exact absurd rfl h
  | invalidId => exact by decide
  | io message => exact nofun

/-- What `download` returns: the file, that there is none, or that a call failed. -/
def Downloaded (w : FileWorld) (id : String) (faulty : Prop)
    (r : Except ServiceError (StoredFile × Bytes)) : Prop :=
  (∃ row bytes, w.files.find? id = some row ∧ w.bytes id = some bytes ∧
      validateId id = .ok () ∧ r = .ok (row.toStored, bytes)) ∨
    (r = .error (.invalidRequest "ctf-file-not-found") ∧
      (w.files.find? id = none ∨ w.bytes id = none)) ∨
    (∃ e, r = .error e ∧ e ≠ .invalidRequest "ctf-file-not-found" ∧
      (faulty ∨ validateId id ≠ .ok ()))

theorem download_cases (w : FileWorld) (faults : List (Option Failure))
    (id : String) :
    Downloaded w id (faults ≠ []) (serve w faults (FileService.download id)).1 ∧
      (serve w faults (FileService.download id)).2 = w := by
  have hdownload : Holds FileOp.result (faults ≠ []) w (FileService.download id).run
      fun r w' => Downloaded w id (faults ≠ []) r ∧ w' = w := by
    refine Holds.call ?_ nofun ?_
    · exact fun hfaulty f => Holds.done ⟨.inr (.inr ⟨_, rfl, nofun, .inl hfaulty⟩), rfl⟩
    · rintro found w' ⟨⟩
      cases hfound : w.files.find? id with
      | none => exact Holds.done ⟨.inr (.inl ⟨rfl, .inl hfound⟩), rfl⟩
      | some row =>
        have hretrieve := holds_retrieve (w := w) (faults ≠ []) id
        refine Holds.mapError_bind hretrieve ?_ ?_
        · rintro bytes w' ⟨rfl, ⟨_, heq, hbytes, hvalid⟩ | ⟨heq, -⟩ | ⟨e, heq, -⟩⟩
          · cases heq
            exact Holds.done ⟨.inl ⟨row, bytes, hfound, hbytes, hvalid, rfl⟩, rfl⟩
          · cases heq
          · cases heq
        · rintro e w' ⟨rfl, ⟨_, heq, -⟩ | ⟨heq, hnone⟩ | ⟨e', heq, hne, hwhy⟩⟩
          · cases heq
          · cases heq
            exact ⟨.inr (.inl ⟨rfl, .inr hnone⟩), rfl⟩
          · cases heq
            exact ⟨.inr (.inr ⟨_, rfl, ofStorage_ne hne, hwhy⟩), rfl⟩
  exact hdownload faults fun h => not_ne_iff.mp h

/-- A download that returns a file. -/
theorem of_download_ok {faults : List (Option Failure)} {file : StoredFile}
    (h : (serve w faults (FileService.download id)).1 = .ok (file, bytes)) :
    w.files.find? id ≠ none ∧ w.bytes id = some bytes ∧ validateId id = .ok () := by
  obtain ⟨row, bytes', hrow, hbytes, hvalid, heq⟩ | ⟨heq, -⟩ | ⟨e, heq, -⟩ :=
    (download_cases w faults id).1
  · rw [h] at heq
    cases heq
    exact ⟨by simp [hrow], hbytes, hvalid⟩
  · rw [h] at heq
    cases heq
  · rw [h] at heq
    cases heq

/-- A file that is there is downloaded when no call fails. -/
theorem download_ok (hrow : w.files.find? id ≠ none) (hbytes : w.bytes id = some bytes)
    (hvalid : validateId id = .ok ()) :
    ∃ file, (serve w [] (FileService.download id)).1 = .ok (file, bytes) := by
  obtain ⟨row, bytes', -, hbytes', -, heq⟩ | ⟨-, hnone | hnone⟩ | ⟨e, -, -, hfault | hinvalid⟩ :=
    (download_cases w [] id).1
  · rw [hbytes] at hbytes'
    cases hbytes'
    exact ⟨_, heq⟩
  · exact absurd hnone hrow
  · rw [hbytes] at hnone
    cases hnone
  · exact absurd rfl hfault
  · exact absurd hvalid hinvalid

/-- A file that is there is never said to be missing. -/
theorem download_ne_notFound (faults : List (Option Failure)) (hrow : w.files.find? id ≠ none)
    (hbytes : w.bytes id = some bytes) :
    (serve w faults (FileService.download id)).1 ≠
      .error (.invalidRequest "ctf-file-not-found") := by
  intro h
  obtain ⟨row, bytes', -, -, -, heq⟩ | ⟨-, hnone | hnone⟩ | ⟨e, heq, hne, -⟩ :=
    (download_cases w faults id).1
  · rw [h] at heq
    cases heq
  · exact hrow hnone
  · rw [hbytes] at hnone
    cases hnone
  · rw [h] at heq
    exact hne (Except.error.inj heq).symm

/-- What `delete` returns and leaves: nothing is done, only the bytes are taken away, or the
file is gone. -/
theorem delete_cases (w : FileWorld) (faults : List (Option Failure)) (id : String) :
    (∃ e, serve w faults (FileService.delete id) = (.error e, w) ∧
        (validateId id ≠ .ok () ∨ faults.head?.join ≠ none)) ∨
      (∃ e, serve w faults (FileService.delete id) =
          (.error e, { w with bytes := Function.update w.bytes id none }) ∧
        validateId id = .ok () ∧ faults.head?.join = none ∧ faults.tail.head?.join ≠ none) ∨
      serve w faults (FileService.delete id) =
        (.ok (), ⟨Function.update w.bytes id none, w.files.erase id⟩) ∧
        faults.tail.head?.join = none := by
  simp only [serve, FileService.delete, LocalFileStorage.delete]
  cases hvalid : validateId id with
  | error e => exact .inl ⟨_, rfl, .inl nofun⟩
  | ok u =>
    cases faults with
    | nil => exact .inr (.inr ⟨rfl, rfl⟩)
    | cons fault faults =>
      cases fault with
      | some f => exact .inl ⟨_, rfl, .inr nofun⟩
      | none =>
        cases faults with
        | nil => exact .inr (.inr ⟨rfl, rfl⟩)
        | cons fault faults =>
          cases fault with
          | some f => exact .inr (.inl ⟨_, rfl, rfl, rfl, nofun⟩)
          | none => exact .inr (.inr ⟨rfl, rfl⟩)

end

/-! ## Runs -/

/-- A call of a method. -/
inductive FileCall where
  | upload (uuid : Uuid) (name contentType : String) (bytes : Bytes) (now : Int64)
  | download (id : String)
  | delete (id : String)

/-- A call of a method, and what fails in it. -/
structure FileStep where
  call : FileCall
  faults : List (Option Failure)

/-- The two stores, and the files that were returned and not deleted since. -/
structure Archive where
  world : FileWorld
  returned : List (String × Bytes)

namespace Archive

variable (S : FileService)

/-- One call. -/
def step (s : Archive) (i : FileStep) : Archive :=
  match i.call with
  | .upload uuid name contentType bytes now =>
    let r := serve s.world i.faults (S.upload uuid name contentType bytes now)
    ⟨r.2, if r.1.isOk then s.returned ++ [(uuid.text, bytes)] else s.returned⟩
  | .download id => ⟨(serve s.world i.faults (FileService.download id)).2, s.returned⟩
  | .delete id =>
    let r := serve s.world i.faults (FileService.delete id)
    ⟨r.2, if r.1.isOk then s.returned.filter fun u => u.1 ≠ id else s.returned⟩

/-- The storage has the bytes of a record. -/
def HasBytes (w : FileWorld) (row : FileRow) : Prop :=
  ∃ bytes, w.bytes row.id = some bytes ∧ row.toStored.size.toNat = bytes.data.length ∧
    row.toStored.checksumSha256 = S.checksum bytes

/-- Every record has its bytes, and a download finds them. -/
structure Kept (s : Archive) : Prop where
  records : ∀ row ∈ s.world.files.rows, HasBytes S s.world row
  returned : ∀ u ∈ s.returned,
    (∃ file, (serve s.world [] (FileService.download u.1)).1 = .ok (file, u.2)) ∧
      ∀ faults file bytes,
        (serve s.world faults (FileService.download u.1)).1 = .ok (file, bytes) → bytes = u.2
  found : ∀ row ∈ s.world.files.rows, ∀ faults,
    (serve s.world faults (FileService.download row.id)).1 ≠
      .error (.invalidRequest "ctf-file-not-found")

/-- The record of an upload is of its bytes. -/
theorem hasBytes_record {w : FileWorld} {id name contentType : String} {bytes : Bytes}
    {now : Int64} (h : w.bytes id = some bytes) :
    HasBytes S w (.ofStored (S.record id name contentType bytes now)) := by
  refine ⟨bytes, h, ?_, ?_⟩
  · rw [FileRow.toStored_ofStored]
    exact bytes.toNat_len
  · rw [FileRow.toStored_ofStored]
    rfl

/-- The same of the stores alone. -/
structure Sound (s : Archive) : Prop where
  records : ∀ row ∈ s.world.files.rows, HasBytes S s.world row
  returned : ∀ u ∈ s.returned, s.world.files.find? u.1 ≠ none ∧ s.world.bytes u.1 = some u.2 ∧
    validateId u.1 = .ok ()

/-- A new uuid is the id of no record. -/
def FreshUuid (s : Archive) (i : FileStep) : Prop :=
  match i.call with
  | .upload uuid _ _ _ _ => s.world.files.find? uuid.text = none
  | _ => True

/-- A deletion that takes the bytes away and then fails to delete the record. -/
def Strands (s : Archive) (i : FileStep) : Prop :=
  match i.call with
  | .delete id =>
    s.world.files.find? id ≠ none ∧ validateId id = .ok () ∧ i.faults.head?.join = none ∧
      i.faults.tail.head?.join ≠ none
  | _ => False

variable {S} {s : Archive}

/-- What a download finds is what the stores have. -/
theorem kept_iff_sound : s.Kept S ↔ s.Sound S := by
  constructor
  · intro h
    refine ⟨h.records, fun u hu => ?_⟩
    obtain ⟨⟨file, hfile⟩, -⟩ := h.returned u hu
    exact of_download_ok hfile
  · intro h
    refine ⟨h.records, fun u hu => ?_, fun row hrow faults => ?_⟩
    · obtain ⟨hfound, hstored, hvalid⟩ := h.returned u hu
      refine ⟨download_ok hfound hstored hvalid, fun faults file bytes hfile => ?_⟩
      exact Option.some.inj ((of_download_ok hfile).2.1.symm.trans hstored)
    · obtain ⟨bytes, hstored, -⟩ := h.records row hrow
      exact download_ne_notFound faults (by simp [Table.find?_key hrow]) hstored

/-! ## One call -/

theorem HasBytes.congr {w w' : FileWorld} {row : FileRow} (h : HasBytes S w row)
    (hbytes : w'.bytes row.id = w.bytes row.id) : HasBytes S w' row := by
  obtain ⟨bytes, hstored, hrest⟩ := h
  exact ⟨bytes, by rw [hbytes, hstored], hrest⟩

/-- An upload. -/
theorem sound_upload {faults : List (Option Failure)} {uuid : Uuid} {name contentType : String}
    {bytes : Bytes} {now : Int64} (hfresh : s.world.files.find? uuid.text = none)
    (h : s.Sound S) : (s.step S ⟨.upload uuid name contentType bytes now, faults⟩).Sound S := by
  have hstep : s.step S ⟨.upload uuid name contentType bytes now, faults⟩ =
      ⟨(serve s.world faults (S.upload uuid name contentType bytes now)).2,
        if (serve s.world faults (S.upload uuid name contentType bytes now)).1.isOk
        then s.returned ++ [(uuid.text, bytes)] else s.returned⟩ := rfl
  have hcases := upload_cases S s.world faults uuid name contentType bytes now
  rw [hstep]
  generalize serve s.world faults (S.upload uuid name contentType bytes now) = r at hcases ⊢
  obtain ⟨r, w'⟩ := r
  -- no record and no returned file has the new id
  have hrecords : ∀ row ∈ s.world.files.rows, HasBytes S w' row := fun row hrow =>
    (h.records row hrow).congr (hcases.bytes_other (Table.find?_eq_none_iff.mp hfresh row hrow))
  have hne : ∀ u ∈ s.returned, u.1 ≠ uuid.text :=
    fun u hu heq => (h.returned u hu).1 (heq ▸ hfresh)
  have hreturned : ∀ u ∈ s.returned, w'.bytes u.1 = some u.2 := fun u hu =>
    (hcases.bytes_other (hne u hu)).trans (h.returned u hu).2.1
  obtain ⟨file, rfl, hbytes, hinsert⟩ | ⟨⟨e, rfl⟩, hfiles, -⟩ := hcases
  · show Sound S ⟨w', s.returned ++ [(uuid.text, bytes)]⟩
    have hnew : w'.bytes uuid.text = some bytes := by rw [hbytes, Function.update_self]
    refine ⟨fun row hrow => ?_, fun u hu => ?_⟩
    · rcases ((Table.mem_insert hinsert).1 row).mp hrow with hold | rfl
      · exact hrecords row hold
      · exact hasBytes_record S hnew
    · have hfind : w'.files.find? u.1 = if u.1 = uuid.text then _ else s.world.files.find? u.1 :=
        Table.find?_insert hinsert u.1
      rcases List.mem_append.mp hu with hold | hlast
      · rw [if_neg (hne u hold)] at hfind
        obtain ⟨hfound, -, hvalid⟩ := h.returned u hold
        exact ⟨by rwa [hfind], hreturned u hold, hvalid⟩
      · obtain rfl := List.mem_singleton.mp hlast
        rw [if_pos rfl] at hfind
        exact ⟨by simp [hfind], hnew, validateId_text uuid⟩
  · show Sound S ⟨w', s.returned⟩
    refine ⟨fun row hrow => hrecords row (by rwa [← hfiles]), fun u hu => ?_⟩
    obtain ⟨hfound, -, hvalid⟩ := h.returned u hu
    exact ⟨by rwa [hfiles], hreturned u hu, hvalid⟩

/-- The bytes of a file are taken away, and no record or returned file misses them. -/
theorem Sound.without {w' : FileWorld} {returned : List (String × Bytes)} {id : String}
    (h : s.Sound S) (hbytes : w'.bytes = Function.update s.world.bytes id none)
    (hrows : ∀ row ∈ w'.files.rows, row ∈ s.world.files.rows ∧ row.id ≠ id)
    (hreturned : ∀ u ∈ returned, u ∈ s.returned ∧ u.1 ≠ id)
    (hfind : ∀ other ≠ id, w'.files.find? other = s.world.files.find? other) :
    Sound S ⟨w', returned⟩ := by
  have hother : ∀ other ≠ id, w'.bytes other = s.world.bytes other := fun other hne => by
    rw [hbytes, Function.update_of_ne hne]
  refine ⟨fun row hrow => ?_, fun u hu => ?_⟩
  · obtain ⟨hmem, hne⟩ := hrows row hrow
    exact (h.records row hmem).congr (hother _ hne)
  · obtain ⟨hmem, hne⟩ := hreturned u hu
    obtain ⟨hfound, hstored, hvalid⟩ := h.returned u hmem
    refine ⟨?_, (hother _ hne).trans hstored, hvalid⟩
    show w'.files.find? u.1 ≠ none
    rwa [hfind _ hne]

/-- A deletion. -/
theorem sound_delete_iff {faults : List (Option Failure)} {id : String} (h : s.Sound S) :
    (s.step S ⟨.delete id, faults⟩).Sound S ↔ ¬ s.Strands ⟨.delete id, faults⟩ := by
  have hstep : s.step S ⟨.delete id, faults⟩ =
      ⟨(serve s.world faults (FileService.delete id)).2,
        if (serve s.world faults (FileService.delete id)).1.isOk
        then s.returned.filter fun u => u.1 ≠ id else s.returned⟩ := rfl
  have hstrands : s.Strands ⟨.delete id, faults⟩ ↔ s.world.files.find? id ≠ none ∧
      validateId id = .ok () ∧ faults.head?.join = none ∧ faults.tail.head?.join ≠ none := Iff.rfl
  rw [hstep, hstrands]
  obtain ⟨e, heq, hwhy⟩ | ⟨e, heq, hvalid, hfirst, hsecond⟩ | ⟨heq, hsecond⟩ :=
    delete_cases s.world faults id
  · rw [heq]
    refine iff_of_true h ?_
    rintro ⟨-, hvalid, hfirst, -⟩
    exact hwhy.elim (fun hinvalid => hinvalid hvalid) fun hfault => hfault hfirst
  · rw [heq]
    constructor
    · rintro hsound ⟨hfound, -⟩
      obtain ⟨row, hrow⟩ := Option.ne_none_iff_exists'.mp hfound
      obtain ⟨hmem, rfl⟩ := Table.find?_eq_some_iff.mp hrow
      obtain ⟨bytes, hbytes, -⟩ := hsound.records row hmem
      simp at hbytes
    · intro hkeeps
      have hnone : s.world.files.find? id = none := by
        by_contra hfound
        exact hkeeps ⟨hfound, hvalid, hfirst, hsecond⟩
      refine h.without rfl (fun row hrow => ⟨hrow, Table.find?_eq_none_iff.mp hnone row hrow⟩)
        (fun u hu => ⟨hu, fun heq => (h.returned u hu).1 (heq ▸ hnone)⟩) fun _ _ => rfl
  · rw [heq]
    refine iff_of_true ?_ fun hstranded => hstranded.2.2.2 hsecond
    refine h.without rfl (fun row hrow => ?_) (fun u hu => ?_) fun other hne => ?_
    · simpa using List.mem_filter.mp hrow
    · simpa using List.mem_filter.mp hu
    · exact (Table.find?_erase _ _ _).trans (if_neg hne)

/-- **The step lemma.** -/
theorem kept_step_iff {i : FileStep} (hfresh : s.FreshUuid i) (h : s.Kept S) :
    (s.step S i).Kept S ↔ ¬ s.Strands i := by
  rw [kept_iff_sound] at h ⊢
  obtain ⟨call, faults⟩ := i
  cases call with
  | upload uuid name contentType bytes now =>
    exact iff_of_true (sound_upload hfresh h) id
  | download id =>
    have hstep : s.step S ⟨.download id, faults⟩ =
        ⟨(serve s.world faults (FileService.download id)).2, s.returned⟩ := rfl
    rw [hstep, (download_cases s.world faults id).2]
    exact iff_of_true h fun hfalse => hfalse
  | delete id => exact sound_delete_iff h

end Archive

/-- **Every record has its bytes all along a run**, and downloads find them, exactly when no
deletion takes the bytes away and then fails to delete the record. -/
theorem always_kept_iff (S : FileService) (w : FileWorld) (calls : List FileStep)
    (hstart : ∀ row ∈ w.files.rows, Archive.HasBytes S w row)
    (hfresh : Each (Archive.step S) Archive.FreshUuid ⟨w, []⟩ calls) :
    Always (Archive.step S) (Archive.Kept S) ⟨w, []⟩ calls ↔
      Each (Archive.step S) (fun s i => ¬ s.Strands i) ⟨w, []⟩ calls := by
  have hkept : (⟨w, []⟩ : Archive).Kept S :=
    Archive.kept_iff_sound.mpr ⟨hstart, fun _ hu => absurd hu List.not_mem_nil⟩
  exact always_iff_each_of_each (fun _ _ hnew h => Archive.kept_step_iff hnew h) hkept hfresh

/-! ## A deletion that stops -/

/-- A digest of the first bytes. -/
def shortService : FileService where
  sha256 data := data.take 4
  maxBytes := 1024

def firstUuid : Uuid := ⟨List.replicate 16 0x11, rfl⟩

def helloBytes : Bytes := ⟨[104, 101, 108, 108, 111], by decide⟩

/-- A file is uploaded, and the row stays when it is deleted. -/
def stoppedDelete : List FileStep :=
  [⟨.upload firstUuid "hello.txt" "text/plain" helloBytes 100, []⟩,
    ⟨.delete firstUuid.text, [none, some ⟨"", .connection "reset"⟩]⟩]

/-- No file yet. -/
def noFiles : FileWorld := ⟨fun _ => none, .empty⟩

theorem freshUuid_stoppedDelete :
    Each (Archive.step shortService) Archive.FreshUuid ⟨noFiles, []⟩ stoppedDelete :=
  ⟨rfl, trivial, trivial⟩

/-- The record is there and the bytes are not, so a download fails. -/
theorem record_stranded :
    Each (Archive.step shortService) Archive.FreshUuid ⟨noFiles, []⟩ stoppedDelete ∧
      (Runs.run (Archive.step shortService) ⟨noFiles, []⟩ stoppedDelete).world.files.rows.map
        FileRow.id = [firstUuid.text] ∧
      (Runs.run (Archive.step shortService) ⟨noFiles, []⟩ stoppedDelete).world.bytes
        firstUuid.text = none ∧
      (serve (Runs.run (Archive.step shortService) ⟨noFiles, []⟩ stoppedDelete).world []
        (FileService.download firstUuid.text)).1 = .error (.invalidRequest "ctf-file-not-found") ∧
      ¬ (Runs.run (Archive.step shortService) ⟨noFiles, []⟩ stoppedDelete).Kept shortService := by
  have hrows : (Runs.run (Archive.step shortService) ⟨noFiles, []⟩
      stoppedDelete).world.files.rows.map FileRow.id = [firstUuid.text] := by decide +kernel
  have hbytes : (Runs.run (Archive.step shortService) ⟨noFiles, []⟩ stoppedDelete).world.bytes
      firstUuid.text = none := by decide +kernel
  refine ⟨freshUuid_stoppedDelete, hrows, hbytes, by decide +kernel, fun hkept => ?_⟩
  have hmem : firstUuid.text ∈ (Runs.run (Archive.step shortService) ⟨noFiles, []⟩
      stoppedDelete).world.files.rows.map FileRow.id := by rw [hrows]; exact List.mem_singleton_self _
  obtain ⟨row, hrow, hid⟩ := List.mem_map.mp hmem
  obtain ⟨bytes, hstored, -⟩ := hkept.records row hrow
  rw [hid, hbytes] at hstored
  cases hstored

theorem always_kept_iff_stoppedDelete :
    Always (Archive.step shortService) (Archive.Kept shortService) ⟨noFiles, []⟩ stoppedDelete ↔
      Each (Archive.step shortService) (fun s i => ¬ s.Strands i) ⟨noFiles, []⟩ stoppedDelete :=
  always_kept_iff shortService noFiles stoppedDelete
    (fun _ hrow => absurd hrow List.not_mem_nil) freshUuid_stoppedDelete

end Cctf

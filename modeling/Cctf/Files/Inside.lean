import Cctf.Services.Files

/-!
# Where a file is kept

A file is kept under its id: in a directory, or on a remote of `rclone`.  `validateId` is to see
to it that an id is the name of an entry there, and nothing else.

* `Rclone` — how `rclone` reads an argument; `Rclone.place` — the place that it then works on.
* `Inside` — the file is one component below where files are kept, the argument is no option,
  and no other id has the same place.
* `inside_iff` — **of the ids that are accepted, this is so for all but the single dot**.
-/

namespace Cctf

open Paths

/-! ## Remotes -/

/-- How `rclone` reads an argument that is not an option: a remote, and a path on it. -/
structure Rclone where
  parse : String → Option (String × String)

namespace Rclone

variable (R : Rclone)

/-- A remote that is configured: `remote:path` is a path on it. -/
def Knows (remote : String) : Prop := ∀ path, R.parse (remote ++ ":" ++ path) = some (remote, path)

/-- The place that an argument names. -/
def place (argument : String) : Option (String × Place) :=
  (R.parse argument).map fun r => (r.1, resolve r.2.toList)

end Rclone

/-! ## Ids -/

/-- What is checked of an id, as far as it matters for a path. -/
structure PlainId (id : String) : Prop where
  nonempty : id.toList ≠ []
  noSlash : '/' ∉ id.toList
  notDots : id.toList ≠ ['.', '.']

theorem plainId_of_validateId {id : String} (h : validateId id = .ok ()) : PlainId id := by
  rw [validateId] at h
  split_ifs at h with hbad
  simp only [not_or] at hbad
  obtain ⟨hempty, -, -, hdots, hchars⟩ := hbad
  refine ⟨hempty, fun hslash => ?_, fun heq => hdots ?_⟩
  · rw [Bool.not_eq_false, List.all_eq_true] at hchars
    exact absurd (hchars '/' hslash) (by decide)
  · rw [Text.contains, heq]
    decide

theorem PlainId.enter {id : String} (h : PlainId id) (hdot : id ≠ ".") (p : Place) :
    p.enter id.toList = p.child id.toList :=
  p.enter_eq_child h.nonempty (fun heq => hdot (String.toList_inj.mp heq)) h.notDots

/-- Two ids lead to two places. -/
theorem PlainId.enter_ne {id id' : String} (h : PlainId id) (h' : PlainId id') (hne : id' ≠ id)
    (p : Place) : p.enter id'.toList ≠ p.enter id.toList := by
  by_cases hdot : id = "."
  · subst hdot
    rw [h'.enter hne]
    exact p.child_ne id'.toList
  · rw [h.enter hdot]
    by_cases hdot' : id' = "."
    · subst hdot'
      exact (p.child_ne id.toList).symm
    · rw [h'.enter hdot', ne_eq, p.child_inj, String.toList_inj]
      exact hne

/-! ## Places of files -/

section

variable (L : LocalFileStorage) (S : RcloneFileStorage) (R : Rclone)

theorem resolve_path {id : String} (h : PlainId id) :
    resolve (L.path id) = (resolve L.dir.toList).enter id.toList :=
  resolve_join h.noSlash

theorem resolve_filePath {id : String} (h : PlainId id) :
    resolve (S.filePath id).toList = (resolve S.path.toList).enter id.toList := by
  rw [RcloneFileStorage.filePath]
  split_ifs with hempty
  · rw [hempty]
    exact resolve_of_not_mem h.noSlash
  · rw [String.toList_append, String.toList_append, String.toList_ofList, List.append_assoc]
    exact resolve_below hempty h.noSlash

variable {R} in
theorem place_target {id : String} (hremote : R.Knows S.remote) (h : PlainId id) :
    R.place (S.target id) = some (S.remote, (resolve S.path.toList).enter id.toList) := by
  rw [Rclone.place, RcloneFileStorage.target, hremote, Option.map_some, resolve_filePath S h]

/-- **A file is kept inside**: one component below the directory and below the path on the
remote, apart from every other file; and no command takes it for an option. -/
structure Inside (id : String) : Prop where
  inDir : resolve (L.path id) = (resolve L.dir.toList).child id.toList
  onRemote : R.place (S.target id) = some (S.remote, (resolve S.path.toList).child id.toList)
  operand : ∀ args ∈ [S.storeArgs id, S.retrieveArgs id, S.deleteArgs id],
    "--" ∈ args.dropLast ∧ args.getLast? = some (S.target id)
  apart : ∀ id', validateId id' = .ok () → id' ≠ id →
    resolve (L.path id') ≠ resolve (L.path id) ∧ R.place (S.target id') ≠ R.place (S.target id)

theorem operand_args (command id : String) :
    "--" ∈ (S.args command id).dropLast ∧ (S.args command id).getLast? = some (S.target id) := by
  have hargs : S.args command id = (S.extraArgs ++ [command, "--"]) ++ [S.target id] := by
    rw [RcloneFileStorage.args, List.append_assoc]
    rfl
  rw [hargs, List.dropLast_concat, List.getLast?_concat]
  exact ⟨by simp, rfl⟩

/-- **Of the ids that are accepted, all but the single dot stay inside.** -/
theorem inside_iff (hremote : R.Knows S.remote) {id : String} (h : validateId id = .ok ()) :
    Inside L S R id ↔ id ≠ "." := by
  have hid := plainId_of_validateId h
  constructor
  · rintro hinside rfl
    have hdir := hinside.inDir
    rw [resolve_path L hid] at hdir
    exact (resolve L.dir.toList).child_ne _ hdir.symm
  · intro hdot
    refine ⟨?_, ?_, ?_, ?_⟩
    · rw [resolve_path L hid, hid.enter hdot]
    · rw [place_target S hremote hid, hid.enter hdot]
    · intro args hargs
      rcases List.mem_cons.mp hargs with rfl | hargs
      · exact operand_args S "rcat" id
      · rcases List.mem_pair.mp hargs with rfl | rfl
        · exact operand_args S "cat" id
        · exact operand_args S "deletefile" id
    · intro id' h' hne
      have hid' := plainId_of_validateId h'
      constructor
      · rw [resolve_path L hid', resolve_path L hid]
        exact hid.enter_ne hid' hne _
      · rw [place_target S hremote hid', place_target S hremote hid]
        intro heq
        exact hid.enter_ne hid' hne _ (Prod.mk.inj (Option.some.inj heq)).2

end

/-! ## The ids of the tests, and the dot -/

/-- `rclone` with named remotes: what is before the first colon is the remote. -/
def namedRemotes : Rclone where
  parse argument := (Text.splitOnce [':'] argument.toList).map fun r =>
    (String.ofList r.1, String.ofList r.2)

theorem namedRemotes_knows {remote : String} (h : ':' ∉ remote.toList) :
    namedRemotes.Knows remote := by
  intro path
  have hhere : Text.splitOnce [':'] (":".toList ++ path.toList) = some ([], path.toList) :=
    Text.splitOnce_here [] path.toList
  have hcut : Text.splitOnce [':'] (remote ++ ":" ++ path).toList =
      some (remote.toList, path.toList) := by
    rw [String.toList_append, String.toList_append, List.append_assoc, Text.splitOnce_skip h, hhere,
      Option.map_some, List.append_nil]
  refine (congrArg (Option.map _) hcut).trans ?_
  rw [Option.map_some, String.ofList_toList, String.ofList_toList]

/-- A directory and a remote. -/
def uploads : LocalFileStorage := ⟨"data/uploads/"⟩

def drive : RcloneFileStorage := ⟨"gdrive", "ctf//files/", ["--drive-root-folder-id", "0A"]⟩

theorem inside_iff_file :
    Inside uploads drive namedRemotes "file_1.bin" ↔ "file_1.bin" ≠ "." :=
  inside_iff uploads drive namedRemotes (namedRemotes_knows (by decide)) (by decide +kernel)

/-- **The single dot is accepted**, and is the directory itself. -/
theorem dot_is_accepted :
    validateId "." = .ok () ∧
      resolve (uploads.path ".") = resolve uploads.dir.toList ∧
      namedRemotes.place (drive.target ".") =
        some (drive.remote, resolve drive.path.toList) := by
  decide +kernel

end Cctf

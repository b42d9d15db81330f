import Cctf.Repos.Pg.Challenges

/-!
# Updating a challenge

`ChallengeRepo::update` is asked to store all of a challenge, as `save` does.  Its
`UPDATE` names the columns up to `deployment`; `visibility` and `max_attempts` are
bound, but no column of the statement takes them.

* `StoresAll` — an update succeeds, leaves the row that deleting the challenge and
  saving it leaves, and no other row changed; so the challenge is found the same.
* `updated`, `exec_update`, `exec_deleteAndSave` — the rows of the two ways.
* `update_stores_all_iff` — **an update stores all of a challenge exactly when the two
  columns it leaves out hold their values already**, and the statement is accepted.
* `update_keeps_visible` — a challenge that is hidden by an update stays visible.
-/

namespace Cctf.Pg.ChallengeRepo

open Program

/-! ## Both ways -/

/-- Deleting a challenge, with its solves kept, and saving it. -/
def deleteAndSave (challenge : Challenge) : Sql Unit := do
  delete challenge.id false
  save challenge

/-- An update stores all of the challenge. -/
structure StoresAll (D : FromValue) (refusal : String) (s : ChallengeTables)
    (challenge : Challenge) : Prop where
  succeeds : (exec (handler refusal) s (update challenge)).1 = .ok ()
  row : (exec (handler refusal) s (update challenge)).2.challenges.find? challenge.id =
    (exec (handler refusal) s (deleteAndSave challenge)).2.challenges.find? challenge.id
  others : ∀ id, id ≠ challenge.id →
    (exec (handler refusal) s (update challenge)).2.challenges.find? id = s.challenges.find? id
  found : (exec (handler refusal) s (do update challenge; findById D challenge.id)).1 =
    (exec (handler refusal) s (do deleteAndSave challenge; findById D challenge.id)).1

section

variable {D : FromValue} {refusal : String} {s : ChallengeTables} {challenge : Challenge}
  {old row : ChallengeRow}

/-- What a read returns depends on the row alone. -/
theorem findById_congr {s' : ChallengeTables} {id : String}
    (h : s.challenges.find? id = s'.challenges.find? id) :
    (exec (handler refusal) s (findById D id)).1 =
      (exec (handler refusal) s' (findById D id)).1 := by
  have hread : ∀ t : ChallengeTables,
      result refusal t (.select id) = .ok (t.challenges.find? id, t) := fun _ => rfl
  rw [findById, exec_execute_bind (hread s), exec_execute_bind (hread s'), h]
  cases s'.challenges.find? id with
  | none => rfl
  | some row =>
    simp only [exec_bind]
    cases mapChallenge D row with
    | ok challenge => rfl
    | error e => rfl

/-- The row an update makes of an accepted challenge. -/
def updated (old row : ChallengeRow) : ChallengeRow :=
  { row with visibility := old.visibility, maxAttempts := old.maxAttempts }

/-- **What an update of an accepted challenge does.** -/
theorem exec_update (refusal : String)
    (hold : s.challenges.find? challenge.id = some old)
    (hsend : (Binds.ofChallenge challenge).sendable = true)
    (hrow : (Binds.ofChallenge challenge).insertRow = some row) :
    ∃ s', exec (handler refusal) s (update challenge) = (.ok (), s') ∧
      s'.challenges.find? challenge.id = some (updated old row) ∧
      ∀ id, id ≠ challenge.id → s'.challenges.find? id = s.challenges.find? id := by
  have hid : old.id.val = challenge.id := (Table.find?_eq_some_iff.1 hold).2
  have hupdate : (Binds.ofChallenge challenge).updateRow old = some (updated old row) := by
    rw [Binds.updateRow_eq hid, hrow]
    rfl
  have hresult : result refusal s (.update (.ofChallenge challenge)) = .ok ((), { s with
      challenges := s.challenges.updateWhere (fun r => decide (r.key = challenge.id))
        (updated old row).replacing (updated old row).key_replacing }) := by
    have hold' : s.challenges.find? (Binds.ofChallenge challenge).id = some old := hold
    simp only [result, if_pos hsend, hold', hupdate]
    rfl
  refine ⟨_, exec_execute_bind hresult, ?_, fun id hne => ?_⟩
  · have hkey : old.key = challenge.id := hid
    rw [Table.find?_updateWhere, hold, Option.map_some, if_pos (decide_eq_true hkey)]
    have hsame : row.id = old.id := Binds.id_of_insertRow hid hrow
    rw [ChallengeRow.replacing_of_id (show (updated old row).id = old.id from hsame)]
  · rw [Table.find?_updateWhere]
    cases hfind : s.challenges.find? id with
    | none => rfl
    | some r =>
      have hkey : r.key ≠ challenge.id := (Table.find?_eq_some_iff.1 hfind).2 ▸ hne
      rw [Option.map_some, if_neg (by simpa using hkey)]

/-- **What deleting and saving an accepted challenge does.** -/
theorem exec_deleteAndSave (refusal : String)
    (hold : s.challenges.find? challenge.id = some old)
    (hsend : (Binds.ofChallenge challenge).sendable = true)
    (hrow : (Binds.ofChallenge challenge).insertRow = some row) :
    ∃ s', exec (handler refusal) s (deleteAndSave challenge) = (.ok (), s') ∧
      s'.challenges.find? challenge.id = some row := by
  have hid : old.id.val = challenge.id := (Table.find?_eq_some_iff.1 hold).2
  have hkey : row.key = challenge.id := by
    rw [ChallengeRow.key, Binds.id_of_insertRow hid hrow, hid]
  have hfree : (s.challenges.erase challenge.id).find? row.key = none := by
    rw [Table.find?_erase, if_pos hkey]
  obtain ⟨challenges, hinsert⟩ := Option.isSome_iff_exists.1 (Table.insert_isSome_iff.2 hfree)
  have hdelete : result refusal s (.delete challenge.id) =
      .ok ((), { s with challenges := s.challenges.erase challenge.id }) := rfl
  have hsave : result refusal { s with challenges := s.challenges.erase challenge.id }
      (.insert (.ofChallenge challenge)) =
      .ok ((), { s with challenges := challenges }) := by
    simp only [result, if_pos hsend, hrow, hinsert]
  refine ⟨{ s with challenges := challenges }, ?_, ?_⟩
  · have hfirst : exec (handler refusal) s (delete challenge.id false) =
        (.ok (), { s with challenges := s.challenges.erase challenge.id }) :=
      exec_execute_bind hdelete
    rw [deleteAndSave, exec_bind, hfirst]
    exact exec_execute_bind hsave
  · show challenges.find? challenge.id = some row
    rw [Table.find?_insert hinsert, if_pos hkey.symm]

/-- An update whose values are refused fails. -/
theorem accepted_of_update (hold : s.challenges.find? challenge.id = some old)
    (h : (exec (handler refusal) s (update challenge)).1 = .ok ()) :
    (Binds.ofChallenge challenge).Accepted := by
  have hid : old.id.val = challenge.id := (Table.find?_eq_some_iff.1 hold).2
  have hold' : s.challenges.find? (Binds.ofChallenge challenge).id = some old := hold
  by_contra hrefused
  have hresult : result refusal s (.update (.ofChallenge challenge)) =
      .error (.internal refusal) := by
    by_cases hsend : (Binds.ofChallenge challenge).sendable = true
    · have hrow : (Binds.ofChallenge challenge).insertRow = none := by
        rw [← Option.not_isSome_iff_eq_none]
        exact fun hsome => hrefused ⟨hsend, hsome⟩
      have hupdate : (Binds.ofChallenge challenge).updateRow old = none := by
        rw [Binds.updateRow_eq hid, hrow]
        rfl
      simp only [result, if_pos hsend, hold', hupdate]
    · simp only [result, if_neg hsend]
  rw [update, exec_execute_bind_error hresult] at h
  exact absurd h (by simp)

/-- **When an update stores all of a challenge.**  Exactly when the values are accepted and
the row holds the visibility and the attempt limit already, since the `UPDATE` sets
neither. -/
theorem update_stores_all_iff (hold : s.challenges.find? challenge.id = some old) :
    StoresAll D refusal s challenge ↔
      (Binds.ofChallenge challenge).Accepted ∧
        old.visibility = challenge.visibility.toValue ∧
        old.maxAttempts = some (Json.ofOption MaxAttempts.toValue challenge.maxAttempts) := by
  constructor
  · intro h
    have haccepted : (Binds.ofChallenge challenge).Accepted := accepted_of_update hold h.succeeds
    have ⟨hsend, hsome⟩ := haccepted
    obtain ⟨row, hrow⟩ := Option.isSome_iff_exists.1 hsome
    obtain ⟨s₁, hupdate, hfind₁, -⟩ := exec_update refusal hold hsend hrow
    obtain ⟨s₂, hsave, hfind₂⟩ := exec_deleteAndSave refusal hold hsend hrow
    have hsame : updated old row = row := by
      have hrows := h.row
      rw [hupdate, hsave, hfind₁, hfind₂] at hrows
      exact Option.some.inj hrows
    obtain ⟨-, hvisibility, hlimit⟩ := Binds.of_insertRow hrow
    refine ⟨haccepted, ?_, ?_⟩
    · exact (congrArg ChallengeRow.visibility hsame).trans hvisibility
    · exact (congrArg ChallengeRow.maxAttempts hsame).trans hlimit
  · rintro ⟨⟨hsend, hsome⟩, hvisibility, hlimit⟩
    obtain ⟨row, hrow⟩ := Option.isSome_iff_exists.1 hsome
    obtain ⟨s₁, hupdate, hfind₁, hothers⟩ := exec_update refusal hold hsend hrow
    obtain ⟨s₂, hsave, hfind₂⟩ := exec_deleteAndSave refusal hold hsend hrow
    obtain ⟨-, hvisibility', hlimit'⟩ := Binds.of_insertRow hrow
    have hkept : old.visibility = row.visibility ∧ old.maxAttempts = row.maxAttempts :=
      ⟨hvisibility.trans hvisibility'.symm, hlimit.trans hlimit'.symm⟩
    have hsame : updated old row = row := by
      rw [updated, hkept.1, hkept.2]
    have hfinds : s₁.challenges.find? challenge.id = s₂.challenges.find? challenge.id := by
      rw [hfind₁, hfind₂, hsame]
    constructor
    · rw [hupdate]
    · rw [hupdate, hsave]
      exact hfinds
    · intro id hne
      rw [hupdate]
      exact hothers id hne
    · rw [exec_bind, exec_bind, hupdate, hsave]
      exact findById_congr hfinds

end

/-! ## Renaming and hiding -/

/-- Reading back the values of a challenge with a static flag and nothing attached. -/
def plainValues : FromValue where
  flag
    | .object [("Static", .string flag)] => .ok (.static flag)
    | _ => .error "invalid flag"
  hints
    | .array [] => .ok []
    | _ => .error "invalid hints"
  files
    | .array [] => .ok []
    | _ => .error "invalid files"
  tags
    | .array [] => .ok []
    | _ => .error "invalid tags"
  requirements
    | .array [] => .ok []
    | _ => .error "invalid requirements"
  deployment
    | .string "None" => .ok .none
    | _ => .error "invalid deployment"
  visibility
    | .string "Visible" => .ok .visible
    | .string "Hidden" => .ok .hidden
    | _ => .error "invalid visibility"
  maxAttempts _ := .error "invalid limit"

/-- A visible challenge. -/
def webChallenge : Challenge := .plain "web" "Web" ⟨.pointValue, "100"⟩ (.static "flag")

/-- The row of the challenge. -/
def webRow : ChallengeRow where
  id := ⟨"web", by decide⟩
  title := ⟨"Web", by decide⟩
  description := ""
  category := ⟨"", by decide⟩
  pointsMode := ⟨"PointValue", by decide⟩
  pointsEquation := ⟨"100", by decide⟩
  flag := .tagged "Static" (.string "flag")
  authorId := ⟨"", by decide⟩
  authorUsername := ⟨"", by decide⟩
  hints := .array []
  files := .array []
  tags := .array []
  requirements := .array []
  teamConsensus := false
  deployment := .string "None"
  visibility := .string "Visible"
  maxAttempts := some .null

/-- The tables with this challenge. -/
def withWeb : ChallengeTables where
  challenges := .single webRow
  submissions := []

/-- A new title is stored. -/
theorem update_stores_all_renamed :
    StoresAll plainValues "" withWeb { webChallenge with title := "Web 2" } :=
  (update_stores_all_iff (show withWeb.challenges.find? "web" = some webRow from rfl)).2
    ⟨⟨by decide +kernel, by decide +kernel⟩, rfl, rfl⟩

/-- **A challenge is not hidden by an update.**  The update succeeds; the row is still
visible, where saving the same challenge anew hides it. -/
theorem update_keeps_visible :
    (exec (handler "") withWeb (update { webChallenge with visibility := .hidden })).1 = .ok () ∧
    ¬ StoresAll plainValues "" withWeb { webChallenge with visibility := .hidden } := by
  refine ⟨rfl, fun h => ?_⟩
  have hvisibility : some (Json.string "Visible") = some (Json.string "Hidden") :=
    congrArg (Option.map ChallengeRow.visibility) h.row
  exact absurd (Json.string.inj (Option.some.inj hvisibility)) (by decide)

end Cctf.Pg.ChallengeRepo

import Cctf.Api.Challenges

/-!
# The list and the detail of a challenge

`list_challenges` shows the challenges of a viewer together, `get_challenge` one of them.
The two handlers look for the same things in different ways.

* `mem_listed_iff` — which views the list has.
* `DetailAgrees`, `detail_agrees` — **the detail is the entry of the list**, and not found
  when the list has none.
-/

namespace Cctf

namespace App

variable (a : App) (P : Platform) (req : ViewRequest)

/-- The entries of the list. -/
def listed : List PublicChallenge :=
  (a.tables.challenges.rows.filter fun ch =>
    a.isAdmin req.user || decide (ch.visibility ≠ .hidden)).map (a.viewOf req.user P req.now)

/-- May the viewer see that a challenge exists? -/
def exposes (user : AccountId) (ch : Challenge) : Prop :=
  a.isAdmin user = true ∨ ch.visibility ≠ .hidden

theorem viewOf_id (ch : Challenge) : (a.viewOf req.user P req.now ch).id = ch.id := rfl

/-- **The entries of the list** are the views of the challenges the viewer may see. -/
theorem mem_listed_iff {v : PublicChallenge} :
    v ∈ a.listed P req ↔
      ∃ ch, a.tables.challenges.find? v.id = some ch ∧ a.exposes req.user ch ∧
        a.viewOf req.user P req.now ch = v := by
  simp only [listed, List.mem_map, List.mem_filter, Bool.or_eq_true, decide_eq_true_eq, exposes]
  constructor
  · rintro ⟨ch, ⟨hmem, hseen⟩, rfl⟩
    exact ⟨ch, Table.find?_eq_some_iff.mpr ⟨hmem, rfl⟩, hseen, rfl⟩
  · rintro ⟨ch, hfind, hseen, hview⟩
    exact ⟨ch, ⟨(Table.find?_eq_some_iff.mp hfind).1, hseen⟩, hview⟩

/-- A challenge the viewer may not see is answered as one that does not exist. -/
theorem getChallenge_unexposed {challengeId : String}
    (h : ∀ ch, a.tables.challenges.find? challengeId = some ch → ¬ a.exposes req.user ch) :
    (runApi a (getChallenge P req challengeId)).1 =
      .error 404 (P.localization.lookup req.lang "ctf-challenge-not-found") := by
  rw [run_getChallenge]
  cases hfind : a.tables.challenges.find? challengeId with
  | none => rfl
  | some ch =>
    have hunseen := h ch hfind
    simp only [exposes, not_or, not_not] at hunseen
    simp [hunseen]

/-- A challenge the viewer may see is answered with its view. -/
theorem getChallenge_exposed {challengeId : String} {ch : Challenge}
    (hfind : a.tables.challenges.find? challengeId = some ch) (h : a.exposes req.user ch) :
    (runApi a (getChallenge P req challengeId)).1 =
      ⟨200, .ok (a.viewOf req.user P req.now ch)⟩ := by
  rw [run_getChallenge, hfind]
  rcases h with hadmin | hvisible
  · simp [hadmin]
  · simp [hvisible]

end App

/-- What `get_challenge` answers agrees with what `list_challenges` shows to the same viewer
at the same time. -/
structure DetailAgrees (P : Platform) (a : App) (req : ViewRequest) (challengeId : String)
    (entries : List PublicChallenge) : Prop where
  /-- The list is answered, and shows these entries. -/
  list : (runApi a (listChallenges P req)).1 = ⟨200, .ok entries⟩
  /-- A view is answered when it is the entry with that id. -/
  detail : ∀ v, (runApi a (getChallenge P req challengeId)).1 = ⟨200, .ok v⟩ ↔
    v ∈ entries ∧ v.id = challengeId
  /-- There is no other entry with that id. -/
  unique : ∀ v ∈ entries, ∀ w ∈ entries, v.id = challengeId → w.id = challengeId → v = w
  /-- Every other answer is "not found". -/
  missing : (∀ v, (runApi a (getChallenge P req challengeId)).1 ≠ ⟨200, .ok v⟩) →
    (runApi a (getChallenge P req challengeId)).1 =
      .error 404 (P.localization.lookup req.lang "ctf-challenge-not-found")

/-- **The detail is the entry of the list**, in every field, for every viewer. -/
theorem detail_agrees (P : Platform) (a : App) (req : ViewRequest) (challengeId : String) :
    ∃ entries, DetailAgrees P a req challengeId entries := by
  refine ⟨a.listed P req, ?_⟩
  have hdetail : ∀ v, (runApi a (getChallenge P req challengeId)).1 = ⟨200, .ok v⟩ ↔
      v ∈ a.listed P req ∧ v.id = challengeId := by
    intro v
    rw [App.mem_listed_iff]
    constructor
    · intro hanswer
      by_cases hseen : ∃ ch, a.tables.challenges.find? challengeId = some ch ∧
          a.exposes req.user ch
      · obtain ⟨ch, hfind, hexposed⟩ := hseen
        rw [a.getChallenge_exposed P req hfind hexposed] at hanswer
        obtain rfl : a.viewOf req.user P req.now ch = v := by simpa using hanswer
        have hid : ch.id = challengeId := (Table.find?_eq_some_iff.mp hfind).2
        rw [App.viewOf_id, hid]
        exact ⟨⟨ch, hfind, hexposed, rfl⟩, rfl⟩
      · rw [a.getChallenge_unexposed P req fun ch hfind hexposed =>
          hseen ⟨ch, hfind, hexposed⟩] at hanswer
        simp [Response.error] at hanswer
    · rintro ⟨⟨ch, hfind, hexposed, rfl⟩, hid⟩
      rw [hid] at hfind
      exact a.getChallenge_exposed P req hfind hexposed
  refine ⟨?_, hdetail, ?_, ?_⟩
  · rw [run_listChallenges]
    rfl
  · intro v hv w hw hvid hwid
    have hanswer := (hdetail v).mpr ⟨hv, hvid⟩
    rw [(hdetail w).mpr ⟨hw, hwid⟩] at hanswer
    simpa using hanswer.symm
  · intro hnone
    refine a.getChallenge_unexposed P req fun ch hfind hexposed => ?_
    exact hnone _ (a.getChallenge_exposed P req hfind hexposed)

end Cctf

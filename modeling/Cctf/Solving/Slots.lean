import Cctf.Scoring.Calls

/-!
# One solve per slot

`submit_flag` refuses a correct flag that repeats a solve: once per submitter for a
plain challenge, once per account in a team for a consensus challenge, once per
submitter and part for a `Multi` challenge.  The parts are recognised by judging the
stored flags again, with the instance flag that is live now.  This file follows, next
to the store, the slot that every accepted submission fills.

* `Slot`, `slotOf` — the slot of an accepted submission.
* `Ledger` — the store with the correct rows and their slots; `Ledger.step` is one call.
* `one_per_slot_iff` — **no slot is filled twice along a history exactly when every
  part that a submitter has filled is recognised when it is submitted again**.
* `one_per_slot_of_fixed` — parts that do not look at the instance flag are.
* `filled_twice_rotated` — an `Instanced` part is filled twice when the instance flag
  changes in between.
-/

namespace Cctf

open Runs SolveService

/-! ## Slots -/

/-- What may be solved once. -/
inductive Slot where
  /-- A challenge, by a team or a solo account. -/
  | plain (challengeId : String) (who : Submitter)
  /-- A consensus challenge, by one account of a team. -/
  | member (challengeId : String) (team : TeamId) (accountId : AccountId)
  /-- A part of a `Multi` challenge, by a team or a solo account. -/
  | part (challengeId : String) (who : Submitter) (pf : PartialFlag)

/-- The slot that a correct submission fills, given the part it was matched to. -/
def slotOf (challenge : Challenge) (teamId : Option TeamId) (accountId : AccountId)
    (matchedPartial : Option PartialFlag) : Slot :=
  match matchedPartial, teamId with
  | some pf, _ => .part challenge.id (.of teamId accountId) pf
  | none, some t =>
      if challenge.teamConsensus then .member challenge.id t accountId
      else .plain challenge.id (.of teamId accountId)
  | none, none => .plain challenge.id (.of teamId accountId)

/-- Where a history stands: the store, and the accepted submissions with their slots. -/
structure Ledger where
  store : Store
  filled : List (Submission × Slot)

section

variable (E : Engines)

/-- One call: it fills the slot of its row if it is answered `Ok`. -/
def Ledger.step (L : Ledger) (c : SubmitCall) : Ledger where
  store := (c.perform E L.store).2
  filled := L.filled ++
    match (c.perform E L.store).1, L.store.challenges.find? c.challengeId with
    | .ok sub, some challenge =>
        [(sub, slotOf challenge c.teamId c.accountId (c.matchedPart E challenge))]
    | _, _ => []

/-- The correct rows of the store are the listed submissions, and no two of them fill
the same slot. -/
def Ledger.OnePerSlot (L : Ledger) : Prop :=
  L.filled.map Prod.fst = L.store.submissions.filter (·.isCorrect) ∧
    (L.filled.map Prod.snd).Nodup

/-- A part that the submitter has filled is recognised when it is matched again: the
part's validator accepts, with the instance flag live for the call, a correct flag that
the submitter has stored on the challenge — or the call is refused before that for its
attempts or its requirements. -/
def Ledger.Recognised (L : Ledger) (c : SubmitCall) : Prop :=
  ∀ challenge, L.store.challenges.find? c.challengeId = some challenge →
    ∀ pf, c.matchedPart E challenge = some pf →
      Slot.part c.challengeId (.of c.teamId c.accountId) pf ∈ L.filled.map Prod.snd →
      attemptsExhausted L.store challenge c.challengeId c.teamId c.accountId = true ∨
      meetsRequirements L.store challenge c.teamId c.accountId = false ∨
      ∃ row ∈ ownCorrect L.store c.challengeId c.teamId c.accountId,
        pf.validator.isMatch E row.providedFlag c.active = true

/-- What the list says about a store: its rows are the correct ones, in order, and each
stands with the slot of the part its flag was matched to. -/
structure LedgerInv (challenges : Table Challenge String Challenge.id) (L : Ledger) : Prop where
  unchanged : L.store.challenges = challenges
  rows : L.filled.map Prod.fst = L.store.submissions.filter (·.isCorrect)
  slots : ∀ e ∈ L.filled, ∃ challenge matched active,
    challenges.find? e.1.challengeId = some challenge ∧
    e.2 = slotOf challenge e.1.teamId e.1.accountId matched ∧
    challenge.flag.findMatchingPartial E e.1.providedFlag active = matched

variable {E} {challenges : Table Challenge String Challenge.id} {L : Ledger} {c : SubmitCall}

/-- A slot without a part tells whose it is. -/
theorem slotOf_eq_none {challenge challenge' : Challenge} {teamId teamId' : Option TeamId}
    {accountId accountId' : AccountId} {matched : Option PartialFlag}
    (h : slotOf challenge' teamId' accountId' matched = slotOf challenge teamId accountId none) :
    challenge'.id = challenge.id ∧ Submitter.of teamId' accountId' = .of teamId accountId ∧
      (challenge.teamConsensus = true → accountId' = accountId) := by
  cases matched with
  | some pf =>
    cases teamId with
    | none => simp [slotOf] at h
    | some t => cases hcons : challenge.teamConsensus <;> simp [slotOf, hcons] at h
  | none =>
    cases teamId with
    | none =>
      cases teamId' with
      | none =>
        simp only [slotOf, Slot.plain.injEq] at h
        exact ⟨h.1, h.2, fun _ => (Submitter.of_eq_solo.1 h.2).2⟩
      | some t' =>
        cases hcons : challenge'.teamConsensus <;> simp [slotOf, Submitter.of, hcons] at h
    | some t =>
      cases hcons : challenge.teamConsensus <;> cases hcons' : challenge'.teamConsensus <;>
        cases teamId' <;> simp_all [slotOf, Submitter.of]

/-! ## One call -/

/-- A call that is not answered `Ok` fills nothing. -/
theorem Ledger.step_error {e : ServiceError} (h : (c.perform E L.store).1 = .error e) :
    (L.step E c).filled = L.filled := by
  simp [Ledger.step, h]

theorem Ledger.step_ok {challenge : Challenge}
    (hchallenge : L.store.challenges.find? c.challengeId = some challenge)
    (hright : c.right E challenge = true) (haccepted : c.accepted E L.store challenge = true) :
    (L.step E c).filled = L.filled ++ [(c.row E L.store challenge,
      slotOf challenge c.teamId c.accountId (c.matchedPart E challenge))] ∧
    (L.step E c).store.submissions = L.store.submissions ++ [c.row E L.store challenge] := by
  have hperform := SubmitCall.perform_right hchallenge hright
  rw [if_pos haccepted] at hperform
  simp [Ledger.step, hperform, hchallenge]

/-- The list stays right about the store. -/
theorem LedgerInv.step (h : LedgerInv E challenges L) : LedgerInv E challenges (L.step E c) := by
  obtain ⟨hchallenges, -, -⟩ := SubmitCall.perform_frame (E := E) (s := L.store) (c := c)
  have hunchanged : (L.step E c).store.challenges = challenges := hchallenges.trans h.unchanged
  cases hresult : (c.perform E L.store).1 with
  | error e =>
    refine ⟨hunchanged, ?_, ?_⟩
    · rw [Ledger.step_error hresult, h.rows]
      rcases SubmitCall.perform_kept hresult with hsubs | ⟨sub, hwrong, hsubs⟩
      · rw [Ledger.step, hsubs]
      · rw [Ledger.step, hsubs, List.filter_append]
        simp [hwrong]
    · rw [Ledger.step_error hresult]
      exact h.slots
  | ok sub =>
    obtain ⟨challenge, hchallenge, hright, haccepted, -⟩ := SubmitCall.perform_ok hresult
    obtain ⟨hfilled, hsubs⟩ := Ledger.step_ok hchallenge hright haccepted
    have hcorrect : (c.row E L.store challenge).isCorrect = true := hright
    refine ⟨hunchanged, ?_, ?_⟩
    · rw [hfilled, hsubs, List.map_append, h.rows, List.filter_append]
      simp [hcorrect]
    · rw [hfilled]
      intro e he
      rcases List.mem_append.1 he with hold | hnew
      · exact h.slots e hold
      · rw [List.mem_singleton] at hnew
        subst hnew
        refine ⟨challenge, c.matchedPart E challenge, c.active, ?_, rfl, rfl⟩
        rw [← h.unchanged]
        exact hchallenge

/-- A listed row is a correct row of its submitter on its challenge. -/
theorem LedgerInv.mem_ownCorrect (h : LedgerInv E challenges L) {e : Submission × Slot}
    (he : e ∈ L.filled) {challengeId : String} {teamId : Option TeamId} {accountId : AccountId}
    (hid : e.1.challengeId = challengeId)
    (hwho : Submitter.of e.1.teamId e.1.accountId = .of teamId accountId) :
    e.1 ∈ ownCorrect L.store challengeId teamId accountId := by
  have hrow : e.1 ∈ L.store.submissions.filter (·.isCorrect) := by
    rw [← h.rows]
    exact List.mem_map_of_mem he
  obtain ⟨hmem, hcorrect⟩ := List.mem_filter.1 hrow
  cases hteam : teamId with
  | some t =>
    rw [hteam, Submitter.of_eq_team] at hwho
    simp [ownCorrect, existingCorrectSubs, ownRows, isOwn, hmem, hcorrect, hid, hwho]
  | none =>
    rw [hteam, Submitter.of_eq_solo] at hwho
    simp [ownCorrect, existingCorrectSubs, ownRows, isOwn, hmem, hcorrect, hid, hwho.2]

/-- A flag that matches a part is right. -/
theorem SubmitCall.right_of_matchedPart {challenge : Challenge} {pf : PartialFlag}
    (h : c.matchedPart E challenge = some pf) : c.right E challenge = true := by
  rw [SubmitCall.matchedPart] at h
  rw [SubmitCall.right, flagIsCorrect]
  cases hmulti : challenge.flag.isMulti with
  | false => simp [FlagValidator.findMatchingPartial_of_not_multi hmulti] at h
  | true => simp [h]

/-- When a call is accepted, in terms of the stored rows. -/
theorem SubmitCall.accepted_eq_true_iff {s : Store} {challenge : Challenge} :
    c.accepted E s challenge = true ↔
      attemptsExhausted s challenge c.challengeId c.teamId c.accountId = false ∧
      meetsRequirements s challenge c.teamId c.accountId = true ∧
      alreadySolved E challenge (c.matchedPart E challenge) c.active c.accountId
        (ownCorrect s c.challengeId c.teamId c.accountId) = false := by
  have hrepeats : repeatsSolve (s.withFlag c.active) challenge c.challengeId c.teamId c.accountId
      E c.flag = alreadySolved E challenge (c.matchedPart E challenge) c.active c.accountId
        (ownCorrect s c.challengeId c.teamId c.accountId) := rfl
  rw [SubmitCall.accepted, hrepeats]
  simp only [Bool.and_eq_true, Bool.not_eq_true', and_assoc]

/-- **Without a matched part the check of the rows is exact**: an accepted submission
fills a slot that is free. -/
theorem LedgerInv.free_of_accepted (h : LedgerInv E challenges L) {challenge : Challenge}
    (hid : challenge.id = c.challengeId) (hnone : c.matchedPart E challenge = none)
    (haccepted : c.accepted E L.store challenge = true) :
    slotOf challenge c.teamId c.accountId (c.matchedPart E challenge) ∉
      L.filled.map Prod.snd := by
  obtain ⟨-, -, hnew⟩ := SubmitCall.accepted_eq_true_iff.1 haccepted
  rw [hnone] at hnew ⊢
  rintro hfilled
  obtain ⟨e, he, hslot⟩ := List.mem_map.1 hfilled
  obtain ⟨challenge', matched, active, hchallenge', hslot', -⟩ := h.slots e he
  obtain ⟨-, hid'⟩ := Table.find?_eq_some_iff.1 hchallenge'
  obtain ⟨hch, hwho, hmember⟩ := slotOf_eq_none (hslot'.symm.trans hslot)
  have hrow := h.mem_ownCorrect he (hid'.symm.trans (hch.trans hid)) hwho
  rw [alreadySolved] at hnew
  split at hnew
  · rename_i hcons
    rw [List.any_eq_false] at hnew
    exact hnew e.1 hrow (by simpa using hmember hcons)
  · rw [Bool.not_eq_false', List.isEmpty_iff] at hnew
    rw [hnew] at hrow
    exact absurd hrow List.not_mem_nil

/-- A right flag is refused for its attempts, its requirements or a recognised row. -/
theorem Ledger.recognised_of_error {e : ServiceError}
    (hresult : (c.perform E L.store).1 = .error e) : L.Recognised E c := by
  intro challenge hchallenge pf hpf _
  have hrefused : ¬ c.accepted E L.store challenge = true := by
    intro haccepted
    have hperform := SubmitCall.perform_right hchallenge (SubmitCall.right_of_matchedPart hpf)
    rw [if_pos haccepted] at hperform
    rw [hperform] at hresult
    exact absurd hresult (by simp)
  rw [SubmitCall.accepted_eq_true_iff, hpf] at hrefused
  by_cases hattempts :
      attemptsExhausted L.store challenge c.challengeId c.teamId c.accountId = true
  · exact .inl hattempts
  by_cases hmeets : meetsRequirements L.store challenge c.teamId c.accountId = true
  · refine .inr (.inr ?_)
    have hsolved : alreadySolved E challenge (some pf) c.active c.accountId
        (ownCorrect L.store c.challengeId c.teamId c.accountId) = true := by
      by_contra hnew
      exact hrefused ⟨by simpa using hattempts, hmeets, by simpa using hnew⟩
    simpa [alreadySolved] using hsolved
  · exact .inr (.inl (by simpa using hmeets))

/-- A call that is accepted with a part recognises it exactly when it is not filled. -/
theorem Ledger.recognised_iff_of_accepted {challenge : Challenge} {pf : PartialFlag}
    (hchallenge : L.store.challenges.find? c.challengeId = some challenge)
    (hpf : c.matchedPart E challenge = some pf)
    (haccepted : c.accepted E L.store challenge = true) :
    L.Recognised E c ↔
      Slot.part c.challengeId (.of c.teamId c.accountId) pf ∉ L.filled.map Prod.snd := by
  obtain ⟨hleft, hmet, hnew⟩ := SubmitCall.accepted_eq_true_iff.1 haccepted
  rw [hpf] at hnew
  constructor
  · intro hrecognised hfull
    rcases hrecognised challenge hchallenge pf hpf hfull with hout | hunmet | ⟨row, hrow, hmatch⟩
    · rw [hleft] at hout
      exact Bool.false_ne_true hout
    · rw [hmet] at hunmet
      exact Bool.false_ne_true hunmet.symm
    · rw [alreadySolved, List.any_eq_false] at hnew
      exact hnew row hrow hmatch
  · intro hfree challenge' hchallenge' pf' hpf' hfull
    obtain rfl : challenge = challenge' := Option.some.inj (hchallenge.symm.trans hchallenge')
    obtain rfl : pf = pf' := Option.some.inj (hpf.symm.trans hpf')
    exact absurd hfull hfree

/-- **One call fills no slot twice exactly when a filled part is recognised.** -/
theorem LedgerInv.onePerSlot_step_iff (h : LedgerInv E challenges L) (hone : L.OnePerSlot) :
    (L.step E c).OnePerSlot ↔ L.Recognised E c := by
  have hrows := (h.step (c := c)).rows
  cases hresult : (c.perform E L.store).1 with
  | error e =>
    refine iff_of_true ⟨hrows, ?_⟩ (Ledger.recognised_of_error hresult)
    rw [Ledger.step_error hresult]
    exact hone.2
  | ok sub =>
    obtain ⟨challenge, hchallenge, hright, haccepted, -⟩ := SubmitCall.perform_ok hresult
    obtain ⟨hfilled, -⟩ := Ledger.step_ok hchallenge hright haccepted
    obtain ⟨-, hid⟩ := Table.find?_eq_some_iff.1 hchallenge
    have hnodup : ((L.step E c).filled.map Prod.snd).Nodup ↔
        slotOf challenge c.teamId c.accountId (c.matchedPart E challenge) ∉
          L.filled.map Prod.snd := by
      rw [hfilled, List.map_append, List.map_singleton, List.nodup_append_comm]
      rw [List.singleton_append, List.nodup_cons]
      exact and_iff_left hone.2
    rw [Ledger.OnePerSlot, and_iff_right hrows, hnodup]
    cases hpf : c.matchedPart E challenge with
    | none =>
      have hfree := h.free_of_accepted hid hpf haccepted
      rw [hpf] at hfree
      refine iff_of_true hfree fun challenge' hchallenge' pf hpf' => ?_
      obtain rfl : challenge = challenge' := Option.some.inj (hchallenge.symm.trans hchallenge')
      rw [hpf] at hpf'
      exact absurd hpf' (by simp)
    | some pf =>
      have hslot : slotOf challenge c.teamId c.accountId (some pf) =
          .part c.challengeId (.of c.teamId c.accountId) pf := by
        rw [← hid]
        rfl
      rw [hslot, Ledger.recognised_iff_of_accepted hchallenge hpf haccepted]

/-! ## Along a history -/

/-- **When no slot is filled twice.**  Along a history from a store without
submissions, at most one correct submission is stored per slot exactly when every part
that a submitter has filled is recognised whenever it is submitted again. -/
theorem one_per_slot_iff {s : Store} (hempty : s.submissions = []) (calls : List SubmitCall) :
    Always (Ledger.step E) Ledger.OnePerSlot ⟨s, []⟩ calls ↔
      Each (Ledger.step E) (Ledger.Recognised E) ⟨s, []⟩ calls := by
  have hstart : LedgerInv E s.challenges ⟨s, []⟩ := by
    refine ⟨rfl, by simp [hempty], by simp⟩
  exact always_iff_each (J := LedgerInv E s.challenges) (fun L c h => h.step)
    (fun L c h hone => h.onePerSlot_step_iff hone) hstart ⟨hstart.rows, List.nodup_nil⟩ calls

/-- **Parts that do not look at the instance flag are recognised**: whatever instance
flags are live, the slots of a store whose parts have no `Instanced` in them are filled
once. -/
theorem one_per_slot_of_fixed {s : Store} (hempty : s.submissions = [])
    (hfixed : ∀ challenge ∈ s.challenges.rows, ∀ pf ∈ challenge.flag.parts,
      pf.validator.usesInstance = false) (calls : List SubmitCall) :
    Always (Ledger.step E) Ledger.OnePerSlot ⟨s, []⟩ calls := by
  have hstart : LedgerInv E s.challenges ⟨s, []⟩ := by
    refine ⟨rfl, by simp [hempty], by simp⟩
  rw [one_per_slot_iff hempty]
  refine each_of_invariant (P := LedgerInv E s.challenges) (fun L c h => h.step) ?_ hstart
  intro L c h challenge hchallenge pf hpf hfull
  refine .inr (.inr ?_)
  obtain ⟨e, he, hslot⟩ := List.mem_map.1 hfull
  obtain ⟨challenge', matched, active, hchallenge', hslot', hmatched⟩ := h.slots e he
  obtain ⟨-, hid'⟩ := Table.find?_eq_some_iff.1 hchallenge'
  rw [hslot] at hslot'
  cases matched with
  | none =>
    exfalso
    cases hrowTeam : e.1.teamId with
    | none => simp [slotOf, hrowTeam] at hslot'
    | some t =>
      simp only [slotOf, hrowTeam] at hslot'
      split at hslot' <;> simp at hslot'
  | some pf' =>
    simp only [slotOf, Slot.part.injEq] at hslot'
    obtain ⟨hch, hwho, rfl⟩ := hslot'
    refine ⟨e.1, h.mem_ownCorrect he (hid'.symm.trans hch.symm) hwho.symm, ?_⟩
    have hpart : pf ∈ challenge'.flag.parts ∧
        pf.validator.isMatch E e.1.providedFlag active = true := by
      cases hflag : challenge'.flag with
      | multi flags =>
        rw [hflag] at hmatched
        exact FlagValidator.findMatchingPartial_spec hmatched
      | _ => simp [hflag, FlagValidator.findMatchingPartial] at hmatched
    have hmem := (Table.find?_eq_some_iff.1 hchallenge').1
    have hfix : pf.validator.usesInstance = false := hfixed challenge' hmem pf hpart.1
    exact (FlagValidator.isMatch_congr pf.validator hfix).trans hpart.2

end

/-! ## An instance flag that changes -/

/-- The one part of a challenge, checked against the live flag. -/
def shellPart : PartialFlag := ⟨"shell", .instanced, 1⟩

/-- Nobody has submitted anything to the challenge yet. -/
def beforeShell : Store where
  teams := Table.empty
  challenges := ⟨[.plain "pwn" "Pwn" ⟨.pointValue, "100"⟩ (.multi [shellPart])], by simp⟩
  submissions := []
  hintUnlocks := []
  activeFlag := fun _ _ _ => none

/-- Alice submits the flag that is live for her. -/
def submitShell (flag uuid : String) : SubmitCall where
  challengeId := "pwn"
  teamId := none
  accountId := ⟨"alice"⟩
  flag := flag
  ip := ""
  uuid := uuid
  now := 0
  active := some flag

/-- The exact condition, on a history with one instance flag. -/
theorem one_per_slot_iff_unrotated :
    Always (Ledger.step .silent) Ledger.OnePerSlot ⟨beforeShell, []⟩
        [submitShell "one" "1", submitShell "one" "2"] ↔
      Each (Ledger.step .silent) (Ledger.Recognised .silent) ⟨beforeShell, []⟩
        [submitShell "one" "1", submitShell "one" "2"] :=
  one_per_slot_iff rfl _

/-- **The part is solved again after a restart of the instance.**  Both submissions are
matched to the same part; when the second arrives, the stored flag is no longer the live
one, so it does not count as a solve of the part. -/
theorem filled_twice_rotated :
    (((submitShell "one" "1").perform .silent beforeShell).1.isOk = true ∧
      ((submitShell "two" "2").perform .silent
        ((submitShell "one" "1").perform .silent beforeShell).2).1.isOk = true) ∧
    ¬ Always (Ledger.step .silent) Ledger.OnePerSlot ⟨beforeShell, []⟩
        [submitShell "one" "1", submitShell "two" "2"] := by
  refine ⟨⟨rfl, rfl⟩, fun h => ?_⟩
  have hslots : (run (Ledger.step .silent) ⟨beforeShell, []⟩
      [submitShell "one" "1", submitShell "two" "2"]).filled.map Prod.snd =
        [.part "pwn" (.solo ⟨"alice"⟩) shellPart, .part "pwn" (.solo ⟨"alice"⟩) shellPart] := rfl
  have hnodup := h.last.2
  rw [hslots] at hnodup
  simp at hnodup

end Cctf

import Cctf.Scoring.Calls

/-!
# Credit for parts

A submission on a `Multi` challenge is accepted for one part: the first that
matches, with the live instance flag.  The scoreboard forgets which; it judges
every stored flag again, against every part, with the flag itself in the place
of the live one.  This file follows the parts that a team's accepted submissions
were matched to, next to the store, and compares them with the parts the board
credits.

* `partScored_append` — what one more correct row changes on the board.
* `Credit` — the store with the parts matched so far; `Credit.step` is one call.
* `credit_earned_iff` — **every credited part was matched, all along a history,
  exactly when no accepted submission completes, on the side, a part that was
  never matched**.
* `sole_of_exclusive` — parts of which no flag satisfies two meet the condition.
* `credit_unearned_instanced` — an `Instanced` part is credited for a flag of
  its neighbour.
-/

namespace Cctf

open Runs SolveService

/-! ## One more row -/

section

variable (E : Engines) (team : Team) (challenge : Challenge)

/-- Does a row of an account complete a part, if the part's validator accepts
it?  Without consensus it always does; under consensus when every other member
has an accepted row. -/
def completesPart (subs : List Submission) (pf : PartialFlag) (accountId : AccountId) : Bool :=
  if challenge.teamConsensus then
    !team.memberIds.isEmpty && team.memberIds.all fun m =>
      decide (accountId = m) ||
        (partSubs E challenge subs pf).any fun sub => decide (sub.accountId = m)
  else true

/-- The correct rows of a team on a challenge, after one more row. -/
theorem correctOn_teamSubs_append (challengeId : String) (subs : List Submission)
    (sub : Submission) :
    correctOn challengeId (teamSubs team (subs ++ [sub])) =
      correctOn challengeId (teamSubs team subs) ++
        if sub.teamId = some team.id ∧ sub.challengeId = challengeId ∧ sub.isCorrect = true
        then [sub] else [] := by
  have hsplit : correctOn challengeId (teamSubs team (subs ++ [sub])) =
      correctOn challengeId (teamSubs team subs) ++
        correctOn challengeId (teamSubs team [sub]) := by
    rw [teamSubs, List.filter_append, correctOn, List.filter_append]
    rfl
  rw [hsplit]
  congr 1
  by_cases hteam : sub.teamId = some team.id
  · by_cases hon : sub.challengeId = challengeId ∧ sub.isCorrect = true
    · simp [teamSubs, correctOn, hteam, hon]
    · rw [if_neg (fun h => hon h.2)]
      simp only [teamSubs, hteam, List.filter_cons, decide_true, if_true, List.filter_nil,
        correctOn, Bool.and_eq_true, decide_eq_true_eq, if_neg hon]
  · simp [teamSubs, correctOn, hteam]

/-- **What one more row changes on the board**: a correct row of the team on the
challenge credits a part that accepts it if it completes the part, and leaves the
other parts as they were. -/
theorem partScored_append {subs : List Submission} {sub : Submission} (pf : PartialFlag)
    (hteam : sub.teamId = some team.id) (hon : sub.challengeId = challenge.id)
    (hcorrect : sub.isCorrect = true) :
    partScored E team challenge (teamSubs team (subs ++ [sub])) pf =
      if pf.validator.isMatch E sub.providedFlag (some sub.providedFlag) then
        completesPart E team challenge (teamSubs team subs) pf sub.accountId
      else partScored E team challenge (teamSubs team subs) pf := by
  have hrows : partSubs E challenge (teamSubs team (subs ++ [sub])) pf =
      partSubs E challenge (teamSubs team subs) pf ++
        if pf.validator.isMatch E sub.providedFlag (some sub.providedFlag) then [sub] else [] := by
    rw [partSubs, correctOn_teamSubs_append, if_pos ⟨hteam, hon, hcorrect⟩, List.filter_append]
    congr 1
    simp [List.filter_cons]
  rw [partScored, hrows]
  by_cases hmatch : pf.validator.isMatch E sub.providedFlag (some sub.providedFlag) = true
  · rw [if_pos hmatch, if_pos hmatch, completesPart, solvedBy]
    cases challenge.teamConsensus with
    | false => simp
    | true => simp [Bool.or_comm]
  · rw [if_neg hmatch, if_neg hmatch, List.append_nil, partScored]

/-- A row that is no correct row of the team on the challenge changes nothing. -/
theorem partScored_append_other {subs : List Submission} {sub : Submission} (pf : PartialFlag)
    (hother : ¬ (sub.teamId = some team.id ∧ sub.challengeId = challenge.id ∧
      sub.isCorrect = true)) :
    partScored E team challenge (teamSubs team (subs ++ [sub])) pf =
      partScored E team challenge (teamSubs team subs) pf := by
  rw [partScored, partSubs, correctOn_teamSubs_append, if_neg hother, List.append_nil]
  rfl

/-! ## Histories with their matched parts -/

/-- Where a history stands: the store, and the parts of the challenge that the
team's accepted submissions were matched to. -/
structure Credit where
  store : Store
  matched : List PartialFlag

/-- One call: it adds its matched part if it is answered `Ok`. -/
def Credit.step (P : Credit) (c : SubmitCall) : Credit where
  store := (c.perform E P.store).2
  matched := P.matched ++
    match (c.perform E P.store).1 with
    | .ok _ =>
      if c.challengeId = challenge.id ∧ c.teamId = some team.id then
        (c.matchedPart E challenge).toList
      else []
    | .error _ => []

/-- Every part the board credits was matched. -/
def Credit.Earned (P : Credit) : Prop :=
  ∀ pf ∈ challenge.flag.parts,
    partScored E team challenge (teamSubs team P.store.submissions) pf = true → pf ∈ P.matched

/-- A submission of the team that is accepted completes no part on the side:
every part that accepts its flag, judged as the board judges it, and that it
would complete, is the matched part or was matched before. -/
def Credit.Sole (P : Credit) (c : SubmitCall) : Prop :=
  c.challengeId = challenge.id → c.teamId = some team.id → c.right E challenge = true →
    c.accepted E P.store challenge = true →
    ∀ pf ∈ challenge.flag.parts, pf.validator.isMatch E c.flag (some c.flag) = true →
      completesPart E team challenge (teamSubs team P.store.submissions) pf c.accountId = true →
      c.matchedPart E challenge = some pf ∨ pf ∈ P.matched

variable {E team challenge}

/-- Credit stays earned where the board credits the same parts. -/
theorem Credit.Earned.of_scored {P : Credit} {c : SubmitCall} (h : P.Earned E team challenge)
    (hscored : ∀ pf, partScored E team challenge
      (teamSubs team (P.step E team challenge c).store.submissions) pf =
        partScored E team challenge (teamSubs team P.store.submissions) pf) :
    (P.step E team challenge c).Earned E team challenge := by
  intro pf hpf hcredited
  rw [hscored] at hcredited
  exact List.mem_append_left _ (h pf hpf hcredited)

/-- A call that is not answered `Ok` stores nothing correct. -/
theorem scored_of_error {P : Credit} {c : SubmitCall} {e : ServiceError}
    (hresult : (c.perform E P.store).1 = .error e) (pf : PartialFlag) :
    partScored E team challenge (teamSubs team (P.step E team challenge c).store.submissions) pf =
      partScored E team challenge (teamSubs team P.store.submissions) pf := by
  rcases SubmitCall.perform_kept hresult with hsubs | ⟨sub, hwrong, hsubs⟩
  · rw [Credit.step, hsubs]
  · rw [Credit.step, hsubs, partScored_append_other]
    simp [hwrong]

/-- An accepted call of the team keeps credit earned exactly when it completes nothing on
the side. -/
theorem earned_step_of_own {P : Credit} {c : SubmitCall} {sub : Submission}
    (hearned : P.Earned E team challenge) (hresult : (c.perform E P.store).1 = .ok sub)
    (hid : c.challengeId = challenge.id) (hteam : c.teamId = some team.id)
    (hright : c.right E challenge = true) (haccepted : c.accepted E P.store challenge = true)
    (hstore : (c.perform E P.store).2 =
      (P.store.withFlag c.active).addSubmission (c.row E P.store challenge)) :
    (P.step E team challenge c).Earned E team challenge ↔ P.Sole E team challenge c := by
  have hmatched : (P.step E team challenge c).matched =
      P.matched ++ (c.matchedPart E challenge).toList := by
    simp [Credit.step, hresult, hid, hteam]
  have hscored : ∀ pf, partScored E team challenge
      (teamSubs team (P.step E team challenge c).store.submissions) pf =
        if pf.validator.isMatch E c.flag (some c.flag) then
          completesPart E team challenge (teamSubs team P.store.submissions) pf c.accountId
        else partScored E team challenge (teamSubs team P.store.submissions) pf := by
    intro pf
    have hsubs : (P.step E team challenge c).store.submissions =
        P.store.submissions ++ [c.row E P.store challenge] := by
      simp [Credit.step, hstore]
    rw [hsubs]
    exact partScored_append E team challenge pf hteam hid hright
  constructor
  · intro h _ _ _ _ pf hpf hmatch hcompletes
    have hmem := h pf hpf (by rw [hscored, if_pos hmatch, hcompletes])
    rw [hmatched, List.mem_append, Option.mem_toList] at hmem
    exact hmem.symm
  · intro h pf hpf hcredited
    rw [hscored] at hcredited
    rw [hmatched, List.mem_append, Option.mem_toList]
    by_cases hmatch : pf.validator.isMatch E c.flag (some c.flag) = true
    · rw [if_pos hmatch] at hcredited
      exact (h hid hteam hright haccepted pf hpf hmatch hcredited).symm
    · rw [if_neg hmatch] at hcredited
      exact .inl (hearned pf hpf hcredited)

/-- **One call keeps credit earned exactly when it completes nothing on the
side.** -/
theorem earned_step_iff {P : Credit} {c : SubmitCall}
    (hfind : P.store.challenges.find? challenge.id = some challenge)
    (hearned : P.Earned E team challenge) :
    (P.step E team challenge c).Earned E team challenge ↔ P.Sole E team challenge c := by
  cases hresult : (c.perform E P.store).1 with
  | error e =>
    -- nothing correct is stored, and `Sole` speaks about accepted calls only
    refine iff_of_true (hearned.of_scored (scored_of_error hresult)) ?_
    intro hid _ hright haccepted
    have hperform := SubmitCall.perform_right (c := c) (by rw [hid]; exact hfind) hright
    rw [if_pos haccepted] at hperform
    rw [hperform] at hresult
    exact absurd hresult (by simp)
  | ok sub =>
    obtain ⟨c', hc', hright, haccepted, hstore⟩ := SubmitCall.perform_ok hresult
    by_cases hown : c.challengeId = challenge.id ∧ c.teamId = some team.id
    · obtain ⟨hid, hteam⟩ := hown
      obtain rfl : challenge = c' := by simpa [hid, hfind] using hc'
      exact earned_step_of_own hearned hresult hid hteam hright haccepted hstore
    · -- a row of somebody else, or on another challenge
      refine iff_of_true (hearned.of_scored fun pf => ?_) fun hid hteam =>
        absurd ⟨hid, hteam⟩ hown
      have hsubs : (P.step E team challenge c).store.submissions =
          P.store.submissions ++ [c.row E P.store c'] := by
        simp [Credit.step, hstore]
      rw [hsubs, partScored_append_other]
      rintro ⟨hteam, hid, -⟩
      exact hown ⟨hid, hteam⟩

/-- **Credit is earned all along a history exactly when every call of it meets
`Sole`.** -/
theorem credit_earned_iff {s : Store}
    (hfind : s.challenges.find? challenge.id = some challenge)
    (hfresh : correctOn challenge.id (teamSubs team s.submissions) = [])
    (calls : List SubmitCall) :
    Always (Credit.step E team challenge) (Credit.Earned E team challenge) ⟨s, []⟩ calls ↔
      Each (Credit.step E team challenge) (Credit.Sole E team challenge) ⟨s, []⟩ calls := by
  refine always_iff_each (J := fun P => P.store.challenges.find? challenge.id = some challenge)
    ?_ ?_ hfind ?_ calls
  · intro P c hP
    show (c.perform E P.store).2.challenges.find? challenge.id = some challenge
    rw [SubmitCall.perform_frame.1]
    exact hP
  · intro P c hP hearned
    exact earned_step_iff hP hearned
  · intro pf _ hscored
    have hnone : partSubs E challenge (teamSubs team s.submissions) pf = [] := by
      rw [partSubs, hfresh]
      rfl
    rw [partScored, hnone, solvedBy_nil] at hscored
    exact absurd hscored (by simp)

/-- Parts of which no flag satisfies two meet the condition whatever is
submitted. -/
theorem sole_of_exclusive
    (hexclusive : ∀ f, ∀ p ∈ challenge.flag.parts, ∀ q ∈ challenge.flag.parts,
      p.validator.isMatch E f (some f) = true → q.validator.isMatch E f (some f) = true → p = q)
    (P : Credit) (c : SubmitCall) : P.Sole E team challenge c := by
  intro _ _ hright _ pf hpf hmatch _
  left
  cases hflag : challenge.flag with
  | multi flags =>
    have hsome : (c.matchedPart E challenge).isSome = true := by
      rw [SubmitCall.right, hflag] at hright
      rw [SubmitCall.matchedPart, hflag]
      exact hright
    obtain ⟨p, hp⟩ := Option.isSome_iff_exists.1 hsome
    rw [SubmitCall.matchedPart, hflag] at hp
    obtain ⟨hmem, hlive⟩ := FlagValidator.findMatchingPartial_spec hp
    have hpmem : p ∈ challenge.flag.parts := by
      rw [hflag]
      exact hmem
    rw [SubmitCall.matchedPart, hflag, hp,
      hexclusive c.flag p hpmem pf hpf (FlagValidator.isMatch_self _ hlive) hmatch]
  | _ => simp [hflag, FlagValidator.parts] at hpf

end

/-! ## An instanced part next to another -/

/-- A fixed flag on the console, a live one behind root. -/
def consolePart : PartialFlag := ⟨"console", .static "console-flag", 1 / 4⟩

/-- The part behind root. -/
def rootPart : PartialFlag := ⟨"root", .instanced, 3 / 4⟩

/-- A challenge of the two parts. -/
def twoStage : Challenge :=
  .plain "two" "two stage" ⟨.pointValue, "400"⟩ (.multi [consolePart, rootPart])

/-- The team `red` has submitted nothing yet. -/
def untouched : Store where
  teams := .single (.plain "red" ["alice"])
  challenges := .single twoStage
  submissions := []
  hintUnlocks := []
  activeFlag := fun _ _ _ => none

/-- The console flag, submitted while another flag is live. -/
def submitConsole : SubmitCall where
  challengeId := "two"
  teamId := some ⟨"red"⟩
  accountId := ⟨"alice"⟩
  flag := "console-flag"
  ip := ""
  uuid := "1"
  now := 0
  active := some "root-flag"

/-- The exact condition, on the history of that one call. -/
theorem credit_earned_iff_console :
    Always (Credit.step .silent (.plain "red" ["alice"]) twoStage)
        (Credit.Earned .silent (.plain "red" ["alice"]) twoStage) ⟨untouched, []⟩ [submitConsole] ↔
      Each (Credit.step .silent (.plain "red" ["alice"]) twoStage)
        (Credit.Sole .silent (.plain "red" ["alice"]) twoStage) ⟨untouched, []⟩ [submitConsole] :=
  credit_earned_iff rfl rfl [submitConsole]

/-- **The console flag is credited as root.**  The submission was matched to the
console part alone; the board judges its text with itself as the live flag, which
`Instanced` accepts whatever it is, and credits both parts. -/
theorem credit_unearned_instanced :
    ((Credit.step .silent (.plain "red" ["alice"]) twoStage ⟨untouched, []⟩ submitConsole).matched =
        [consolePart] ∧
      partScored .silent (.plain "red" ["alice"]) twoStage
        (teamSubs (.plain "red" ["alice"]) (Credit.step .silent (.plain "red" ["alice"]) twoStage
          ⟨untouched, []⟩ submitConsole).store.submissions) rootPart = true) ∧
    ¬ Always (Credit.step .silent (.plain "red" ["alice"]) twoStage)
        (Credit.Earned .silent (.plain "red" ["alice"]) twoStage) ⟨untouched, []⟩
        [submitConsole] := by
  have hmatched : (Credit.step .silent (.plain "red" ["alice"]) twoStage ⟨untouched, []⟩
      submitConsole).matched = [consolePart] := rfl
  have hscored : partScored .silent (.plain "red" ["alice"]) twoStage
      (teamSubs (.plain "red" ["alice"]) (Credit.step .silent (.plain "red" ["alice"]) twoStage
        ⟨untouched, []⟩ submitConsole).store.submissions) rootPart = true := rfl
  refine ⟨⟨hmatched, hscored⟩, fun h => ?_⟩
  have hroot := h.last rootPart (List.mem_cons_of_mem _ List.mem_cons_self) hscored
  have hmem : rootPart ∈ [consolePart] := hmatched ▸ hroot
  rw [List.mem_singleton, rootPart, consolePart, PartialFlag.mk.injEq] at hmem
  exact absurd hmem.1 (by decide)

end Cctf

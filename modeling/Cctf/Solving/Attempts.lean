import Cctf.Scoring.Calls

/-!
# The attempt limit

A challenge may cap the submissions of a team, or of a solo account, counted in one
of four modes.  `submit_flag` counts the stored rows anew at every call, casts the
count to 32 bits and compares it with the limit.

* `countAttempts` — the count before the cast; `countAttempts_append` — **one more
  row counts for at most one attempt, in every mode**.
* `attempts_eq` — with fixed memberships, the rows a call counts are those of its
  submitter on the challenge.
* `attempts_limited` — **along every history no count exceeds its limit, a call is
  refused exactly when its count has reached the limit, and the cast decides
  nothing**.
-/

namespace Cctf

open Runs Rounding SolveService

/-! ## Counting -/

/-- How many attempts some rows count for. -/
def countAttempts (mode : AttemptCountMode) (prior : List Submission) : ℕ :=
  match mode with
  | .all => prior.length
  | .incorrectOnly => (prior.filter fun s => !s.isCorrect).length
  | .unique => (prior.map fun s => Text.trim s.providedFlag).toFinset.card
  | .uniqueIncorrect =>
      ((prior.filter fun s => !s.isCorrect).map fun s => Text.trim s.providedFlag).toFinset.card

/-- The check compares the count cut to 32 bits. -/
theorem attemptCount_eq (mode : AttemptCountMode) (prior : List Submission) :
    attemptCount mode prior = wrapU32 (countAttempts mode prior) := by
  cases mode <;> rfl

theorem card_toFinset_append_singleton (l : List String) (x : String) :
    (l ++ [x]).toFinset.card ≤ l.toFinset.card + 1 := by
  have hinsert : (l ++ [x]).toFinset = insert x l.toFinset := by
    ext y
    simp
  rw [hinsert]
  exact Finset.card_insert_le x l.toFinset

/-- **One more row counts for at most one attempt**, in every mode. -/
theorem countAttempts_append (mode : AttemptCountMode) (prior : List Submission)
    (sub : Submission) : countAttempts mode (prior ++ [sub]) ≤ countAttempts mode prior + 1 := by
  cases mode with
  | all => simp [countAttempts]
  | unique =>
    simp only [countAttempts, List.map_append, List.map_singleton]
    exact card_toFinset_append_singleton _ _
  | incorrectOnly =>
    simp only [countAttempts, List.filter_append, List.length_append]
    have := List.length_filter_le (fun s => !s.isCorrect) [sub]
    rw [List.length_singleton] at this
    omega
  | uniqueIncorrect =>
    simp only [countAttempts, List.filter_append, List.map_append]
    cases hcorrect : sub.isCorrect with
    | true => simp [hcorrect]
    | false =>
      simp only [List.filter_cons, hcorrect, Bool.not_false, if_true, List.filter_nil,
        List.map_singleton]
      exact card_toFinset_append_singleton _ _

/-- The rows of a submitter on a challenge. -/
def attemptsOf (who : Submitter) (challengeId : String) (subs : List Submission) :
    List Submission :=
  subs.filter fun s => decide (s.challengeId = challengeId) && who.owns s

theorem attemptsOf_append (who : Submitter) (challengeId : String) (subs : List Submission)
    (sub : Submission) :
    attemptsOf who challengeId (subs ++ [sub]) = attemptsOf who challengeId subs ++
      if sub.challengeId = challengeId ∧ Submitter.of sub.teamId sub.accountId = who then [sub]
      else [] := by
  rw [attemptsOf, List.filter_append]
  congr 1
  split <;> rename_i hcounts <;> simpa [Submitter.owns_iff] using hcounts

/-- **With fixed memberships the check counts the submitter's rows**: for a team the
rows of the team, and the rows of a solo account are all its own. -/
theorem attempts_eq {teamOf : AccountId → Option TeamId} {s : Store}
    (hmembers : ∀ row ∈ s.submissions, row.teamId = teamOf row.accountId)
    (mode : AttemptCountMode) (challengeId : String) (accountId : AccountId) :
    attempts mode challengeId (teamOf accountId) accountId (ownRows s (teamOf accountId)) =
      wrapU32 (countAttempts mode
        (attemptsOf (.of (teamOf accountId) accountId) challengeId s.submissions)) := by
  rw [attempts, attemptCount_eq, attemptsOf]
  congr 2
  cases hteam : teamOf accountId with
  | some t =>
    rw [ownRows, List.filter_filter]
    refine List.filter_congr fun row _ => ?_
    cases hrow : row.teamId with
    | none => simp [isOwn, Submitter.owns, Submitter.of, hrow]
    | some t' => simp [isOwn, Submitter.owns, Submitter.of, hrow]
  | none =>
    rw [ownRows]
    refine List.filter_congr fun row hrow => ?_
    by_cases haccount : row.accountId = accountId
    · have hsolo : row.teamId = none := by rw [hmembers row hrow, haccount, hteam]
      simp [isOwn, Submitter.owns, Submitter.of, haccount, hsolo]
    · cases hteam' : row.teamId <;>
        simp [isOwn, Submitter.owns, Submitter.of, haccount, hteam']

/-! ## Along a history -/

/-- No submitter has more attempts on a challenge than its limit. -/
def WithinLimits (s : Store) : Prop :=
  ∀ challenge ∈ s.challenges.rows, ∀ limitCfg, challenge.maxAttempts = some limitCfg →
    ∀ who, countAttempts limitCfg.mode (attemptsOf who challenge.id s.submissions) ≤
      limitCfg.limit.toNat

/-- The call is refused for its attempts exactly when their number has reached the
limit, and comparing the cast number with the limit gives the same answer as
comparing the number itself. -/
def RefusedAtLimit (E : Engines) (s : Store) (c : SubmitCall) : Prop :=
  ∀ challenge, s.challenges.find? c.challengeId = some challenge →
    ∀ limitCfg, challenge.maxAttempts = some limitCfg →
      let count := countAttempts limitCfg.mode
        (attemptsOf (.of c.teamId c.accountId) c.challengeId s.submissions)
      ((c.perform E s).1 = .error (.invalidRequest "ctf-max-attempts-reached") ↔
        count = limitCfg.limit.toNat) ∧
      (limitCfg.limit ≤ wrapU32 count ↔ limitCfg.limit.toNat ≤ count)

/-- The cast keeps a count that is within a 32-bit limit. -/
theorem le_wrapU32_iff {limit : UInt32} {n : ℕ} (h : n ≤ limit.toNat) :
    limit ≤ wrapU32 n ↔ limit.toNat ≤ n := by
  have hlt : n < 2 ^ 32 := lt_of_le_of_lt h limit.toNat_lt
  rw [UInt32.le_iff_toNat_le, wrapU32, UInt32.toNat_ofNat', Nat.mod_eq_of_lt hlt]

/-- What holds all along a history: the rows agree with the memberships, and no count
exceeds its limit. -/
structure AttemptsInv (teamOf : AccountId → Option TeamId) (s : Store) : Prop where
  members : ∀ row ∈ s.submissions, row.teamId = teamOf row.accountId
  within : WithinLimits s

section

variable {E : Engines} {teamOf : AccountId → Option TeamId} {s : Store} {c : SubmitCall}

/-- The attempts are used up exactly when their number has reached the limit. -/
theorem attemptsExhausted_iff (h : AttemptsInv teamOf s) (hteam : c.teamId = teamOf c.accountId)
    {challenge : Challenge} (hchallenge : s.challenges.find? c.challengeId = some challenge)
    {limitCfg : MaxAttempts} (hlimit : challenge.maxAttempts = some limitCfg) :
    attemptsExhausted s challenge c.challengeId c.teamId c.accountId = true ↔
      limitCfg.limit.toNat ≤ countAttempts limitCfg.mode
        (attemptsOf (.of c.teamId c.accountId) c.challengeId s.submissions) := by
  obtain ⟨hmem, hid⟩ := Table.find?_eq_some_iff.1 hchallenge
  have hwithin := h.within challenge hmem limitCfg hlimit (.of c.teamId c.accountId)
  rw [hid] at hwithin
  rw [attemptsExhausted, hlimit]
  simp only [decide_eq_true_eq]
  rw [← le_wrapU32_iff hwithin, hteam, attempts_eq h.members]

/-- One call keeps the counts within their limits. -/
theorem AttemptsInv.step (h : AttemptsInv teamOf s) (hteam : c.teamId = teamOf c.accountId) :
    AttemptsInv teamOf (c.perform E s).2 := by
  obtain ⟨hchallenges, -, -⟩ := SubmitCall.perform_frame (E := E) (s := s) (c := c)
  rcases SubmitCall.perform_stores (E := E) (s := s) (c := c) with hsame |
    ⟨challenge, hchallenge, hleft, -, hmore⟩
  · constructor
    · rw [hsame]
      exact h.members
    · rw [WithinLimits, hchallenges, hsame]
      exact h.within
  · constructor
    · rw [hmore]
      intro row hrow
      rcases List.mem_append.1 hrow with hold | hnew
      · exact h.members row hold
      · rw [List.mem_singleton] at hnew
        rw [hnew]
        exact hteam
    · rw [WithinLimits, hchallenges, hmore]
      intro other hother limitCfg hlimit who
      have hwithin := h.within other hother limitCfg hlimit who
      rw [attemptsOf_append]
      split
      · -- the row counts here, and then this is the challenge whose limit the call has passed
        rename_i hcounted
        obtain ⟨hid, rfl⟩ : c.challengeId = other.id ∧ Submitter.of c.teamId c.accountId = who :=
          hcounted
        obtain rfl : challenge = other := by
          obtain ⟨hmem, hkey⟩ := Table.find?_eq_some_iff.1 hchallenge
          exact s.challenges.eq_of_key_eq hmem hother (hkey.trans hid)
        have hroom : ¬ limitCfg.limit.toNat ≤ countAttempts limitCfg.mode
            (attemptsOf (.of c.teamId c.accountId) c.challengeId s.submissions) := by
          rw [← attemptsExhausted_iff h hteam hchallenge hlimit, hleft]
          exact Bool.false_ne_true
        have hone := countAttempts_append limitCfg.mode
          (attemptsOf (.of c.teamId c.accountId) c.challengeId s.submissions)
          (c.row E s challenge)
        rw [← hid]
        exact le_trans hone (by omega)
      · rw [List.append_nil]
        exact hwithin

/-- A call is refused at its limit. -/
theorem refusedAtLimit (h : AttemptsInv teamOf s) (hteam : c.teamId = teamOf c.accountId) :
    RefusedAtLimit E s c := by
  intro challenge hchallenge limitCfg hlimit
  obtain ⟨hmem, hid⟩ := Table.find?_eq_some_iff.1 hchallenge
  have hwithin := h.within challenge hmem limitCfg hlimit (.of c.teamId c.accountId)
  rw [hid] at hwithin
  refine ⟨?_, le_wrapU32_iff hwithin⟩
  rw [SubmitCall.perform_refused_iff hchallenge, attemptsExhausted_iff h hteam hchallenge hlimit]
  exact ⟨fun hle => le_antisymm hwithin hle, fun heq => heq.ge⟩

/-- **The attempt limit holds in every counting mode.**  In every history of calls by
accounts that stay with their teams, from a store without submissions: the counted
attempts of a team or solo account never exceed the limit, a call is refused for its
attempts exactly when their number has reached the limit, and the 32-bit cast never
changes the decision. -/
theorem attempts_limited (teamOf : AccountId → Option TeamId) (hempty : s.submissions = [])
    {calls : List SubmitCall}
    (hmembers : ∀ c ∈ calls, c.teamId = teamOf c.accountId) :
    Always (fun s c => (c.perform E s).2) WithinLimits s calls ∧
      Each (fun s c => (c.perform E s).2) (RefusedAtLimit E) s calls := by
  have hstart : AttemptsInv teamOf s := by
    constructor
    · simp [hempty]
    · intro challenge _ limitCfg _ who
      rw [hempty]
      cases limitCfg.mode <;> simp [countAttempts, attemptsOf]
  have hfixed : Each (fun s c => (SubmitCall.perform E s c).2)
      (fun _ c => c.teamId = teamOf c.accountId) s calls := each_of_forall hmembers
  constructor
  · have halways := always_of_each (P := AttemptsInv teamOf)
      (fun s c h hteam => AttemptsInv.step (E := E) h hteam) hstart hfixed
    exact halways.imp fun _ h => h.within
  · exact each_of_each (P := AttemptsInv teamOf) (fun s c h hteam => AttemptsInv.step h hteam)
      (fun s c h hteam => refusedAtLimit h hteam) hstart hfixed

end

/-- A challenge with one attempt, which alice uses up with her first guess. -/
theorem attempts_limited_guesses :
    let web := { Challenge.plain "web" "Web" ⟨.pointValue, "100"⟩ (.static "flag") with
      maxAttempts := some ⟨1, .unique⟩ }
    let s : Store := ⟨Table.empty, ⟨[web], by simp⟩, [], [], fun _ _ _ => none⟩
    let guess := fun flag => (⟨"web", none, ⟨"alice"⟩, flag, "", "1", 0, none⟩ : SubmitCall)
    Always (fun s c => (c.perform .silent s).2) WithinLimits s [guess "a", guess "flag"] ∧
      Each (fun s c => (c.perform .silent s).2) (RefusedAtLimit .silent) s
        [guess "a", guess "flag"] :=
  attempts_limited (fun _ => none) rfl (by simp)

end Cctf

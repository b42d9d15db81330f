import Mathlib.Data.Nat.Find
import Mathlib.Data.Finset.Card
import Cctf.Teams.SignUp

/-!
# Looking for a free username

A CTFtime profile whose username is taken gets a number behind it, counted up by a `while`
loop until no account has the name.  The counter is an `i32`.

* `candidate` — the name the loop looks up after some rounds; `candidate_injective`: it
  never comes back to a name.
* `exists_free_candidate` — one of the first names is free, by counting the accounts.
* `usernameLoop` — the loop with its counter, `freeName` until that wraps around.
* `search` — a search through any names, one look-up a round; `yields_search` is what it ends
  with, and both loops are searches.
* `usernameLoop_ends` — **it ends after at most as many rounds as there are accounts, with
  a name that none of them has**.
-/

namespace Cctf

open Program Pg Faults

/-! ## The names it tries -/

theorem numbered_injective (baseName : String) : Function.Injective (numbered baseName) :=
  fun _ _ h => Text.repr_inj (congrArg String.toList ((String.append_right_inj baseName).mp h))

/-- A name with a number is another name. -/
theorem numbered_ne (baseName : String) (i : ℕ) : numbered baseName i ≠ baseName := fun h => by
  have hempty : i.repr = "" :=
    (String.append_right_inj baseName).mp (h.trans (String.append_empty).symm)
  exact Nat.repr_ne_empty hempty

/-- The name that is looked up after some rounds. -/
def candidate (baseName : String) : ℕ → String
  | 0 => baseName
  | round + 1 => numbered baseName (round + 1)

theorem candidate_injective (baseName : String) : Function.Injective (candidate baseName) := by
  intro i j h
  cases i with
  | zero =>
    cases j with
    | zero => rfl
    | succ j => exact absurd h.symm (numbered_ne baseName (j + 1))
  | succ i =>
    cases j with
    | zero => exact absurd h (numbered_ne baseName (i + 1))
    | succ j => exact numbered_injective baseName h

/-- One of the first names is free: the names are different, and there is one more of them
than there are taken names. -/
theorem exists_free_candidate (baseName : String) (taken : List String) :
    ∃ round ≤ taken.length, candidate baseName round ∉ taken := by
  by_contra hnone
  push Not at hnone
  have hsubset : (Finset.range (taken.length + 1)).image (candidate baseName) ⊆ taken.toFinset := by
    intro name hname
    obtain ⟨round, hround, rfl⟩ := Finset.mem_image.1 hname
    exact List.mem_toFinset.2 (hnone round (Nat.lt_succ_iff.1 (Finset.mem_range.1 hround)))
  have hcard := Finset.card_le_card hsubset
  rw [Finset.card_image_of_injective _ (candidate_injective baseName), Finset.card_range] at hcard
  exact absurd (hcard.trans (List.toFinset_card_le taken)) (by omega)

/-- **The first free name comes early.** -/
theorem exists_first_free (baseName : String) (taken : List String) :
    ∃ round ≤ taken.length, candidate baseName round ∉ taken ∧
      ∀ i < round, candidate baseName i ∈ taken := by
  obtain ⟨round, hle, hfree⟩ := exists_free_candidate baseName taken
  have hexists : ∃ i, candidate baseName i ∉ taken := ⟨round, hfree⟩
  exact ⟨Nat.find hexists, (Nat.find_le hfree).trans hle, Nat.find_spec hexists,
    fun i hi => not_not.1 (Nat.find_min hexists hi)⟩

/-! ## The loop -/

/-- The `while` loop, with its `i32` counter; `none` if all rounds are used up. -/
def usernameLoop (baseName : String) : (rounds : ℕ) → (checkName : String) → (suffix : Int32) →
    Auth (Option String)
  | 0, _, _ => pure none
  | rounds + 1, checkName, suffix => do
    let taken ← repo (Pg.AccountRepo.findByUsername checkName)
    if taken.isSome then
      usernameLoop baseName rounds (baseName ++ toString suffix.toInt) (suffix + 1)
    else pure (some checkName)

/-- The names of the accounts. -/
def Pg.TeamTables.usernames (s : TeamTables) : List String :=
  s.accounts.rows.map AccountRow.username

theorem isSome_accountByUsername {s : TeamTables} {name : String} :
    (s.accountByUsername name).isSome = decide (name ∈ s.usernames) := by
  rw [TeamTables.accountByUsername, Option.isSome_map, List.isSome_find?, Bool.eq_iff_iff]
  simp [TeamTables.usernames]

/-! ### Searches -/

/-- Look up one name after the other, from a round on, until one is free. -/
def search (names : ℕ → String) : (rounds : ℕ) → (round : ℕ) → Auth (Option String)
  | 0, _ => pure none
  | rounds + 1, round => do
    let taken ← repo (Pg.AccountRepo.findByUsername (names round))
    if taken.isSome then search names rounds (round + 1) else pure (some (names round))

/-- Only the names of the rounds are looked up. -/
theorem search_congr {names names' : ℕ → String} (rounds : ℕ) {round : ℕ}
    (h : ∀ i < rounds, names (round + i) = names' (round + i)) :
    search names rounds round = search names' rounds round := by
  induction rounds generalizing round with
  | zero => rfl
  | succ rounds ih =>
    have hnow : names round = names' round := h 0 (Nat.succ_pos rounds)
    have hrest : search names rounds (round + 1) = search names' rounds (round + 1) :=
      ih fun i hi => by
        rw [Nat.add_right_comm, Nat.add_assoc]
        exact h (i + 1) (Nat.succ_lt_succ hi)
    rw [search, search, hnow, hrest]

/-- The name that the loop looks up after some rounds, with the counter that it has then. -/
def counted (baseName : String) : ℕ → String
  | 0 => baseName
  | round + 1 => baseName ++ toString (Int32.ofNat (round + 1)).toInt

/-- The counter holds the number of a round below `2 ^ 31`. -/
theorem counted_eq_candidate (baseName : String) {round : ℕ} (h : round < 2 ^ 31) :
    counted baseName round = candidate baseName round := by
  cases round with
  | zero => rfl
  | succ round =>
    rw [counted, Int32.toInt_ofNat_of_lt h]
    rfl

theorem usernameLoop_eq_search (baseName : String) (rounds round : ℕ) :
    usernameLoop baseName rounds (counted baseName round) (Int32.ofNat (round + 1)) =
      search (counted baseName) rounds round := by
  induction rounds generalizing round with
  | zero => rfl
  | succ rounds ih =>
    have hnext : Int32.ofNat (round + 1) + 1 = Int32.ofNat (round + 1 + 1) :=
      (Int32.ofNat_add (round + 1) 1).symm
    rw [usernameLoop, search, hnext, ← ih (round + 1)]
    rfl

theorem freeName_eq_search (baseName : String) (rounds round : ℕ) :
    freeName baseName rounds (candidate baseName round) (round + 1) =
      search (candidate baseName) rounds round := by
  induction rounds generalizing round with
  | zero => rfl
  | succ rounds ih =>
    rw [freeName, search, ← ih (round + 1)]
    rfl

/-- Until its counter wraps around, it is the loop of `handleCallback`. -/
theorem usernameLoop_eq_freeName (baseName : String) {rounds : ℕ} (h : rounds ≤ 2 ^ 31) :
    usernameLoop baseName rounds baseName 1 = freeName baseName rounds baseName 1 := by
  have hnames : search (counted baseName) rounds 0 = search (candidate baseName) rounds 0 :=
    search_congr rounds fun i hi => counted_eq_candidate baseName (by omega)
  exact (usernameLoop_eq_search baseName rounds 0).trans
    (hnames.trans (freeName_eq_search baseName rounds 0).symm)

section

variable {refusal : String} {faulty : Prop} {db : Database} {baseName : String}

/-- **What a search ends with**: when the name after `more` rounds is the first free one, that
name, unless the rounds are used up before. -/
theorem yields_search {names : ℕ → String} {round more : ℕ} (rounds : ℕ)
    (htaken : ∀ i < more, names (round + i) ∈ db.tables.usernames)
    (hfree : names (round + more) ∉ db.tables.usernames) :
    Yields (Query.result refusal) faulty db (search names rounds round)
      (if more < rounds then some (names (round + more)) else none) := by
  induction rounds generalizing round more with
  | zero => exact Yields.pure none
  | succ rounds ih =>
    refine (yields_repo (yields_findByUsername (names round))).bind ?_
    rw [isSome_accountByUsername]
    cases more with
    | zero =>
      rw [if_neg (by simpa using hfree), if_pos (Nat.succ_pos rounds)]
      exact Yields.pure _
    | succ more =>
      have hnow : names round ∈ db.tables.usernames := htaken 0 (Nat.succ_pos more)
      have hshift : ∀ i, round + 1 + i = round + (i + 1) := fun i => by omega
      rw [if_pos (by simpa using hnow), ← hshift more]
      simp only [Nat.succ_lt_succ_iff]
      refine @ih (round + 1) more (fun i hi => ?_) ?_
      · rw [hshift]
        exact htaken (i + 1) (Nat.succ_lt_succ hi)
      · rw [hshift]
        exact hfree

/-- **The loop of `handleCallback` ends with the first free name.** -/
theorem yields_freeName {more : ℕ} (rounds : ℕ)
    (htaken : ∀ i < more, candidate baseName i ∈ db.tables.usernames)
    (hfree : candidate baseName more ∉ db.tables.usernames) :
    Yields (Query.result refusal) faulty db (freeName baseName rounds baseName 1)
      (if more < rounds then some (candidate baseName more) else none) := by
  have hsearch : Yields (Query.result refusal) faulty db (search (candidate baseName) rounds 0)
      (if more < rounds then some (candidate baseName (0 + more)) else none) :=
    yields_search rounds (fun i hi => by rw [Nat.zero_add]; exact htaken i hi)
      (by rw [Nat.zero_add]; exact hfree)
  rwa [← freeName_eq_search, Nat.zero_add more] at hsearch

/-- So does the loop with its counter, if that can hold the number of the name. -/
theorem yields_usernameLoop {more : ℕ} (rounds : ℕ)
    (htaken : ∀ i < more, candidate baseName i ∈ db.tables.usernames)
    (hfree : candidate baseName more ∉ db.tables.usernames) (hcounter : more < 2 ^ 31) :
    Yields (Query.result refusal) faulty db (usernameLoop baseName rounds baseName 1)
      (if more < rounds then some (candidate baseName more) else none) := by
  have hcounted : ∀ i ≤ more, counted baseName (0 + i) = candidate baseName i := fun i hi => by
    rw [Nat.zero_add, counted_eq_candidate baseName (by omega)]
  have hsearch : Yields (Query.result refusal) faulty db (search (counted baseName) rounds 0)
      (if more < rounds then some (counted baseName (0 + more)) else none) :=
    yields_search rounds (fun i hi => by rw [hcounted i hi.le]; exact htaken i hi)
      (by rw [hcounted more le_rfl]; exact hfree)
  rwa [← usernameLoop_eq_search, hcounted more le_rfl] at hsearch

end

/-- **The loop ends, with a free name.**  Whatever the accounts, fewer than `2 ^ 31`, and
whatever the name of the profile: after a number of rounds that is not larger than the
number of accounts, and that an `i32` can hold, the loop has found a name that no account
has; all names before it are taken. -/
theorem usernameLoop_ends (db : Database) (baseName : String)
    (hfew : db.tables.accounts.rows.length < 2 ^ 31) :
    ∃ iterations, iterations ≤ db.tables.accounts.rows.length ∧ iterations < 2 ^ 31 ∧
      candidate baseName iterations ∉ db.tables.usernames ∧
      (∀ i < iterations, candidate baseName i ∈ db.tables.usernames) ∧
      ∀ refusal faulty rounds, Yields (Query.result refusal) faulty db
        (usernameLoop baseName rounds baseName 1)
        (if iterations < rounds then some (candidate baseName iterations) else none) := by
  obtain ⟨round, hle, hfree, htaken⟩ := exists_first_free baseName db.tables.usernames
  rw [TeamTables.usernames, List.length_map] at hle
  have hcounter : round < 2 ^ 31 := hle.trans_lt hfew
  exact ⟨round, hle, hcounter, hfree, htaken, fun refusal faulty rounds =>
    yields_usernameLoop rounds htaken hfree hcounter⟩

/-- Two accounts, one of them with the name that the other one's profile gets next. -/
def twoAlices : Database where
  tables :=
    { teams := .empty
      accounts := ⟨[⟨⟨"1"⟩, "alice", none, none, "Player", none, none, [], 0⟩,
        ⟨⟨"2"⟩, "alice1", none, none, "Player", none, none, [], 0⟩], by decide⟩ }
  distinct := by decide
  references := by decide

/-- Another `alice` is found a name after two rounds at most. -/
theorem usernameLoop_ends_twoAlices :
    ∃ iterations, iterations ≤ twoAlices.tables.accounts.rows.length ∧ iterations < 2 ^ 31 ∧
      candidate "alice" iterations ∉ twoAlices.tables.usernames ∧
      (∀ i < iterations, candidate "alice" i ∈ twoAlices.tables.usernames) ∧
      ∀ refusal faulty rounds, Yields (Query.result refusal) faulty twoAlices
        (usernameLoop "alice" rounds "alice" 1)
        (if iterations < rounds then some (candidate "alice" iterations) else none) :=
  usernameLoop_ends twoAlices "alice" (by decide)

end Cctf

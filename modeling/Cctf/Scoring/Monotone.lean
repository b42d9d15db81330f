import Mathlib.Algebra.Order.BigOperators.Group.List
import Cctf.Scoring.Decay
import Cctf.Scoring.Given

/-!
# One more flag

A team that gives one more correct flag should not lose points, and nobody else should gain
any by it.  The row can change three things: the solvers of its challenge, and with them the
price of the challenge for everybody; the flags its own team is credited with; and whether all
members of that team have answered.

* `challengeValue_mono`, `challengeValue_mono_rows` — a challenge is worth more to a team when
  its price is higher, and when the team has given more flags.
* `worth` — what the rows of a team are credited with, summed up exactly; the points are its
  `i64`.  `worth_le_of_own` and `worth_le_iff_of_other` compare it before and after the row.
* `ScoringMonotone` — the team's points stay or grow, everybody else's stay or shrink.
* `scoring_monotone_iff` — **when that holds**.  The points are added up in 64 bits, so a sum
  that reaches `2 ^ 63` starts again from the bottom.  The solvers are counted in 32 bits, so the
  price starts again from the top when the count reaches a multiple of `2 ^ 32`; the others
  then gain unless what they are credited with is priced alike on both sides.
-/

namespace Cctf

open Rounding

/-! ## Values -/

/-- Two sums of which one is larger term by term. -/
theorem sum_map_le_iff {α : Type} {l : List α} {f g : α → ℤ} (h : ∀ x ∈ l, f x ≤ g x) :
    (l.map g).sum ≤ (l.map f).sum ↔ ∀ x ∈ l, f x = g x := by
  constructor
  · intro hle x hx
    by_contra hne
    have hlt := List.sum_lt_sum f g h ⟨x, hx, lt_of_le_of_ne (h x hx) hne⟩
    exact absurd hle (not_le.mpr hlt)
  · intro heq
    rw [List.map_congr_left heq]

/-- What the rows of a team on a challenge are paid is the same at two prices. -/
def PricedAlike (E : Engines) (team : Team) (subs : List Submission) (challenge : Challenge)
    (v v' : UInt32) : Prop :=
  match challenge.flag with
  | .multi partials =>
      ∀ pf ∈ partials, partScored E team challenge subs pf = true →
        saturateI64 (partialValue v pf.weight) = saturateI64 (partialValue v' pf.weight)
  | _ => solvedBy challenge.teamConsensus team (correctOn challenge.id subs) = true → v = v'

/-- A solve stays a solve when rows are added. -/
theorem solvedBy_mono {rows rows' : List Submission} {teamConsensus : Bool} {team : Team}
    (h : rows ⊆ rows') (hsolved : solvedBy teamConsensus team rows = true) :
    solvedBy teamConsensus team rows' = true := by
  cases teamConsensus with
  | false =>
    simp only [solvedBy, Bool.false_eq_true, if_false, Bool.not_eq_true', List.isEmpty_eq_false_iff]
      at hsolved ⊢
    intro hnil
    rw [hnil] at h
    exact hsolved (List.subset_nil.mp h)
  | true =>
    rw [solvedBy_consensus_iff] at hsolved ⊢
    refine ⟨hsolved.1, fun m hm => ?_⟩
    obtain ⟨sub, hsub, haccount⟩ := hsolved.2 m hm
    exact ⟨sub, h hsub, haccount⟩

section

variable {E : Engines} {team : Team} {subs subs' : List Submission} {challenge : Challenge}
  (hweights : ∀ pf ∈ challenge.flag.parts, 0 ≤ pf.weight)
include hweights

theorem weight_nonneg {partials : List PartialFlag} (hflag : challenge.flag = .multi partials)
    {counts : PartialFlag → Bool} {pf : PartialFlag} (hpf : pf ∈ partials.filter counts) :
    0 ≤ pf.weight := by
  refine hweights pf ?_
  rw [hflag]
  exact List.mem_of_mem_filter hpf

theorem challengeValue_nonneg (v : UInt32) : 0 ≤ challengeValue E team subs v challenge := by
  unfold challengeValue
  cases hflag : challenge.flag with
  | multi partials =>
    refine List.sum_nonneg fun x hx => ?_
    obtain ⟨pf, hpf, rfl⟩ := List.mem_map.mp hx
    have hweight := weight_nonneg hweights hflag hpf
    exact saturateI64_nonneg (partialValue_nonneg v hweight)
  | _ =>
    simp only
    split
    · exact Int.natCast_nonneg _
    · exact le_refl _

/-- **A higher price is worth more.** -/
theorem challengeValue_mono {v v' : UInt32} (h : v ≤ v') :
    challengeValue E team subs v challenge ≤ challengeValue E team subs v' challenge := by
  unfold challengeValue
  cases hflag : challenge.flag with
  | multi partials =>
    refine List.sum_le_sum fun pf hpf => ?_
    have hweight := weight_nonneg hweights hflag hpf
    exact saturateI64_mono (partialValue_mono h hweight)
  | _ =>
    simp only
    split
    · exact Int.ofNat_le.mpr (UInt32.le_iff_toNat_le.mp h)
    · exact le_refl _

/-- It is worth the same when what is paid is. -/
theorem challengeValue_eq_iff {v v' : UInt32} (h : v ≤ v') :
    challengeValue E team subs v challenge = challengeValue E team subs v' challenge ↔
      PricedAlike E team subs challenge v v' := by
  unfold challengeValue PricedAlike
  cases hflag : challenge.flag with
  | multi partials =>
    have hmono : ∀ pf ∈ partials.filter (partScored E team challenge subs),
        saturateI64 (partialValue v pf.weight) ≤ saturateI64 (partialValue v' pf.weight) := by
      intro pf hpf
      have hweight := weight_nonneg hweights hflag hpf
      exact saturateI64_mono (partialValue_mono h hweight)
    have hle := List.sum_le_sum hmono
    simp only
    rw [le_antisymm_iff, and_iff_right hle, sum_map_le_iff hmono]
    simp only [List.mem_filter, and_imp]
  | _ =>
    simp only
    split
    · rename_i hsolved
      rw [Int.natCast_inj, UInt32.toNat_inj]
      exact ⟨fun heq _ => heq, fun heq => heq hsolved⟩
    · rename_i hsolved
      exact ⟨fun _ hyes => absurd hyes hsolved, fun _ => rfl⟩

/-- **More rows are worth more.** -/
theorem challengeValue_mono_rows (hrows : subs ⊆ subs') (v : UInt32) :
    challengeValue E team subs v challenge ≤ challengeValue E team subs' v challenge := by
  have hon : correctOn challenge.id subs ⊆ correctOn challenge.id subs' :=
    List.filter_subset _ hrows
  unfold challengeValue
  cases hflag : challenge.flag with
  | multi partials =>
    have hscored : ∀ pf, partScored E team challenge subs pf = true →
        partScored E team challenge subs' pf = true :=
      fun pf => solvedBy_mono (List.filter_subset _ hon)
    have hsub := (List.monotone_filter_right partials hscored).map fun pf =>
      saturateI64 (partialValue v pf.weight)
    refine hsub.sum_le_sum fun x hx => ?_
    obtain ⟨pf, hpf, rfl⟩ := List.mem_map.mp hx
    have hweight := weight_nonneg hweights hflag hpf
    exact saturateI64_nonneg (partialValue_nonneg v hweight)
  | _ =>
    simp only
    split
    · rename_i hsolved
      rw [if_pos (solvedBy_mono hon hsolved)]
    · split
      · exact Int.natCast_nonneg _
      · exact le_refl _

end

/-! ## One more row -/

/-- What the rows of a team are worth, summed up exactly. -/
def worth (E : Engines) (team : Team) (challenges : List Challenge) (subs : List Submission) : ℤ :=
  (challenges.map fun c => challengeValue E team (teamSubs team subs)
    (decayedPoints c.points (wrapU32 (solverIds c.id subs).card)) c).sum

theorem points_eq_worth (E : Engines) (team : Team) (challenges : List Challenge)
    (subs : List Submission) : (scoreOf E team challenges subs).points =
      worth E team challenges subs := by
  simp only [worth, scoreOf, computeTeamSolveScore_points, liveValue,
    solverCount_buildChallengeSolvers]

/-- The points of a team from all submissions. -/
def pointsOf (E : Engines) (team : Team) (challenges : List Challenge) (subs : List Submission) :
    Int64 :=
  computeTeamSolvePoints E team challenges subs (buildChallengeSolvers subs)

theorem pointsOf_eq (E : Engines) (team : Team) (challenges : List Challenge)
    (subs : List Submission) : pointsOf E team challenges subs =
      Int64.ofInt (worth E team challenges subs) := by
  rw [pointsOf, computeTeamSolvePoints_eq, ← points_eq_worth]
  rfl

/-- A team that is not among the solvers has no correct row. -/
theorem correctOn_teamSubs_eq_nil {team : Team} {challengeId : String} {subs : List Submission}
    (h : team.id.val ∉ solverIds challengeId subs) :
    correctOn challengeId (teamSubs team subs) = [] := by
  rw [List.eq_nil_iff_forall_not_mem]
  intro sub hsub
  obtain ⟨hteam, hon⟩ := List.mem_filter.mp hsub
  obtain ⟨hmem, hid⟩ := List.mem_filter.mp hteam
  refine h (List.mem_toFinset.mpr (List.mem_map.mpr ⟨sub, List.mem_filter.mpr ⟨hmem, hon⟩, ?_⟩))
  rw [solverId, of_decide_eq_true hid]

section

variable {subs : List Submission} {row : Submission}

theorem solverIds_cons (hcorrect : row.isCorrect = true) (challengeId : String) :
    solverIds challengeId (row :: subs) =
      if row.challengeId = challengeId then insert (solverId row) (solverIds challengeId subs)
      else solverIds challengeId subs := by
  unfold solverIds correctOn
  by_cases hid : row.challengeId = challengeId
  · rw [if_pos hid, List.filter_cons_of_pos (by simp [hid, hcorrect]), List.map_cons,
      List.toFinset_cons]
  · rw [if_neg hid, List.filter_cons_of_neg (by simp [hid])]

theorem teamSubs_cons_other {team : Team} (h : row.teamId ≠ some team.id) :
    teamSubs team (row :: subs) = teamSubs team subs :=
  List.filter_cons_of_neg (by simpa using h)

/-- The row brings the number of solvers of its challenge to a multiple of `2 ^ 32`. -/
def Overflows (subs : List Submission) (row : Submission) : Prop :=
  solverId row ∉ solverIds row.challengeId subs ∧
    2 ^ 32 ∣ (solverIds row.challengeId subs).card + 1

/-- Short of that, the count the price is computed from stays or grows. -/
theorem wrapU32_card_le (hcorrect : row.isCorrect = true) (h : ¬ Overflows subs row)
    (challengeId : String) :
    wrapU32 (solverIds challengeId subs).card ≤
      wrapU32 (solverIds challengeId (row :: subs)).card := by
  rw [solverIds_cons hcorrect]
  split
  · rename_i hid
    subst hid
    by_cases hmem : solverId row ∈ solverIds row.challengeId subs
    · rw [Finset.insert_eq_of_mem hmem]
      exact UInt32.le_refl _
    · rw [Finset.card_insert_of_notMem hmem]
      rcases wrapU32_succ (solverIds row.challengeId subs).card with hle | ⟨-, hzero⟩
      · exact hle
      · refine absurd ⟨hmem, Nat.dvd_of_mod_eq_zero ?_⟩ h
        rw [← toNat_wrapU32, hzero]
        rfl
  · exact UInt32.le_refl _

/-- At a multiple of `2 ^ 32` it starts again. -/
theorem wrapU32_card_of_overflows (hcorrect : row.isCorrect = true) (h : Overflows subs row) :
    wrapU32 (solverIds row.challengeId subs).card = UInt32.ofNat (2 ^ 32 - 1) ∧
      wrapU32 (solverIds row.challengeId (row :: subs)).card = 0 := by
  obtain ⟨hnew, hdvd⟩ := h
  rw [solverIds_cons hcorrect, if_pos rfl, Finset.card_insert_of_notMem hnew,
    ← UInt32.toNat_inj, ← UInt32.toNat_inj, toNat_wrapU32, toNat_wrapU32]
  have hmod := Nat.mod_eq_zero_of_dvd hdvd
  constructor
  · simp
    omega
  · exact hmod

variable {E : Engines} {challenges : List Challenge} {team : Team}
  (hfall : ∀ c ∈ challenges, c.points.Falling)
  (hweights : ∀ c ∈ challenges, ∀ pf ∈ c.flag.parts, 0 ≤ pf.weight)
include hweights

/-- **The team of the row is not worth less.** -/
theorem worth_le_of_own (hcorrect : row.isCorrect = true) (hteam : row.teamId = some team.id) :
    worth E team challenges subs ≤ worth E team challenges (row :: subs) := by
  rw [worth, worth]
  refine List.sum_le_sum fun c hc => ?_
  have hrows : teamSubs team subs ⊆ teamSubs team (row :: subs) :=
    List.filter_subset _ (List.subset_cons_self _ _)
  rw [solverIds_cons hcorrect]
  by_cases hnew : row.challengeId = c.id ∧ solverId row ∉ solverIds c.id subs
  · -- the team was not paid for this challenge before
    have hsolver : solverId row = team.id.val := by rw [solverId, hteam]
    rw [hsolver] at hnew
    rw [challengeValue_of_unsolved E team _ (correctOn_teamSubs_eq_nil hnew.2)]
    exact challengeValue_nonneg (hweights c hc) _
  · have hsame : (if row.challengeId = c.id then insert (solverId row) (solverIds c.id subs)
        else solverIds c.id subs) = solverIds c.id subs := by
      split
      · rename_i hid
        exact Finset.insert_eq_of_mem (by_contra fun hmem => hnew ⟨hid, hmem⟩)
      · rfl
    rw [hsame]
    exact challengeValue_mono_rows (hweights c hc) hrows _

include hfall

/-- **The others** are worth as much or less, unless the count starts again and the prices on
both sides of that differ. -/
theorem worth_le_iff_of_other (hcorrect : row.isCorrect = true)
    (hteam : row.teamId ≠ some team.id) :
    worth E team challenges (row :: subs) ≤ worth E team challenges subs ↔
      (Overflows subs row → ∀ c ∈ challenges, c.id = row.challengeId →
        PricedAlike E team (teamSubs team subs) c
          (decayedPoints c.points (UInt32.ofNat (2 ^ 32 - 1))) (decayedPoints c.points 0)) := by
  rw [worth, worth, teamSubs_cons_other hteam]
  by_cases hover : Overflows subs row
  · obtain ⟨hlast, hfirst⟩ := wrapU32_card_of_overflows hcorrect hover
    have hother : ∀ c : Challenge, ¬ c.id = row.challengeId →
        solverIds c.id (row :: subs) = solverIds c.id subs := fun c hid => by
      rw [solverIds_cons hcorrect, if_neg (Ne.symm hid)]
    have hprice : ∀ c ∈ challenges, decayedPoints c.points (UInt32.ofNat (2 ^ 32 - 1)) ≤
        decayedPoints c.points 0 :=
      fun c hc => decayedPoints_antitone (hfall c hc) (UInt32.zero_le)
    rw [sum_map_le_iff fun c hc => ?_]
    · simp only [hover, true_implies]
      refine forall₂_congr fun c hc => ?_
      by_cases hid : c.id = row.challengeId
      · rw [hid, hlast, hfirst, challengeValue_eq_iff (hweights c hc) (hprice c hc)]
        simp only [true_implies]
      · simp only [hother c hid, hid, false_implies]
    · by_cases hid : c.id = row.challengeId
      · rw [hid, hlast, hfirst]
        exact challengeValue_mono (hweights c hc) (hprice c hc)
      · rw [hother c hid]
  · refine iff_of_true (List.sum_le_sum fun c hc => ?_) fun h => absurd h hover
    exact challengeValue_mono (hweights c hc)
      (decayedPoints_antitone (hfall c hc) (wrapU32_card_le hcorrect hover c.id))

end

/-! ## Scoring is monotone -/

/-- More rows help the team `a` and nobody else. -/
structure ScoringMonotone (E : Engines) (teams : List Team) (challenges : List Challenge)
    (a : TeamId) (subs subs' : List Submission) : Prop where
  own : ∀ team ∈ teams, team.id = a →
    pointsOf E team challenges subs ≤ pointsOf E team challenges subs'
  others : ∀ team ∈ teams, team.id ≠ a →
    pointsOf E team challenges subs' ≤ pointsOf E team challenges subs

/-- From `n` to `m` a sum gains at least `2 ^ 64` for every lap more. -/
def MakesUp (n m : ℤ) : Prop := 2 ^ 64 * (lap m - lap n) ≤ m - n

instance (n m : ℤ) : Decidable (MakesUp n m) := inferInstanceAs (Decidable (_ ≤ _))

/-- The row does not confuse the points of its team: what the team is worth comes into another
lap only with a gain that makes up for it. -/
def OwnOrderly (E : Engines) (challenges : List Challenge) (subs subs' : List Submission)
    (team : Team) : Prop :=
  lap (worth E team challenges subs) ≠ lap (worth E team challenges subs') →
    MakesUp (worth E team challenges subs) (worth E team challenges subs')

/-- The row does not confuse the points of another team: within a lap, the number of solvers
does not start again, or nothing that the team is credited with has another price then; and
between two laps, the loss makes up for them. -/
structure OtherOrderly (E : Engines) (challenges : List Challenge) (subs subs' : List Submission)
    (row : Submission) (team : Team) : Prop where
  sameLap : lap (worth E team challenges subs') = lap (worth E team challenges subs) →
    Overflows subs row → ∀ c ∈ challenges, c.id = row.challengeId →
      PricedAlike E team (teamSubs team subs) c
        (decayedPoints c.points (UInt32.ofNat (2 ^ 32 - 1))) (decayedPoints c.points 0)
  otherLap : lap (worth E team challenges subs') ≠ lap (worth E team challenges subs) →
    MakesUp (worth E team challenges subs') (worth E team challenges subs)

section

variable {E : Engines} {challenges : List Challenge} {team : Team} {subs subs' : List Submission}
  {row : Submission} (hrows : subs'.Perm (row :: subs)) (hcorrect : row.isCorrect = true)
  (hfall : ∀ c ∈ challenges, c.points.Falling)
  (hweights : ∀ c ∈ challenges, ∀ pf ∈ c.flag.parts, 0 ≤ pf.weight)
include hrows

/-- The rows may be in any order. -/
theorem worth_of_perm : worth E team challenges subs' = worth E team challenges (row :: subs) := by
  rw [← points_eq_worth, ← points_eq_worth]
  exact points_congr (given_perm hrows) E team challenges

include hcorrect hweights

theorem own_le_iff (hteam : row.teamId = some team.id) :
    pointsOf E team challenges subs ≤ pointsOf E team challenges subs' ↔
      OwnOrderly E challenges subs subs' team := by
  have hle : worth E team challenges subs ≤ worth E team challenges subs' := by
    rw [worth_of_perm hrows]
    exact worth_le_of_own hweights hcorrect hteam
  rw [pointsOf_eq, pointsOf_eq, OwnOrderly]
  by_cases hlap : lap (worth E team challenges subs) = lap (worth E team challenges subs')
  · rw [ofInt_le_ofInt_of_lap hlap]
    exact iff_of_true hle fun hne => absurd hlap hne
  · rw [ofInt_le_ofInt_iff]
    exact ⟨fun h _ => h, fun h => h hlap⟩

include hfall

theorem other_le_iff (hteam : row.teamId ≠ some team.id) :
    pointsOf E team challenges subs' ≤ pointsOf E team challenges subs ↔
      OtherOrderly E challenges subs subs' row team := by
  have hiff : worth E team challenges (row :: subs) ≤ worth E team challenges subs ↔ _ :=
    worth_le_iff_of_other hfall hweights hcorrect hteam
  rw [← worth_of_perm hrows] at hiff
  rw [pointsOf_eq, pointsOf_eq]
  by_cases hlap : lap (worth E team challenges subs') = lap (worth E team challenges subs)
  · rw [ofInt_le_ofInt_of_lap hlap, hiff]
    exact ⟨fun h => ⟨fun _ => h, fun hne => absurd hlap hne⟩, fun h => h.sameLap hlap⟩
  · rw [ofInt_le_ofInt_iff]
    exact ⟨fun h => ⟨fun heq => absurd heq hlap, fun _ => h⟩, fun h => h.otherLap hlap⟩

end

/-- A challenge at 500 points for the first solver and soon at 100. -/
def decaying : Challenge := .plain "c" "c" ⟨.dynamicDecay 500 100 1, ""⟩ (.static "flag")

theorem decaying_falling : ∀ c ∈ [decaying], c.points.Falling := by
  intro c hc initial minimum decay hmode
  obtain rfl := List.mem_singleton.mp hc
  cases hmode
  decide

theorem decaying_weights : ∀ c ∈ [decaying], ∀ pf ∈ c.flag.parts, 0 ≤ pf.weight := by
  intro c hc pf hpf
  obtain rfl := List.mem_singleton.mp hc
  cases hpf

/-- A team solves it. -/
def solveBy (team account : String) : Submission :=
  .correct team "c" (some team) account "flag" 500 0

/-- Two parts that are worth more than an `i64` holds. -/
def heavy : Challenge :=
  .plain "c" "c" ⟨.pointValue, "500"⟩
    (.multi [⟨"one", .static "one", 10 ^ 17⟩, ⟨"two", .static "two", 10 ^ 17⟩])

/-- A team gives one part of it. -/
def heavyPart (flag : String) : Submission := .correct flag "c" (some "red") "alice" flag 0 0

end Cctf

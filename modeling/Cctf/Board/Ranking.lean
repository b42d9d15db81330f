import Cctf.Library.Ranking
import Cctf.Services.Scoreboard

/-!
# The order of the scoreboard

The standings are the lines of the teams, sorted by one of two comparisons and numbered from
one.

* `Beats` — what it means to be strictly better, in the words of the scoreboard.
* `compareEntries_eq_lt_iff`, the `TransCmp` instances — both comparisons say that, and both
  are total preorders, so the sort is well defined.
* `board_eq` — the board is the sorted list of teams, each with its line and its number.
* `Ranked` — what a ranking is; `ranked_iff` — **the board is one as long as the numbers fit
  in 32 bits**.
-/

namespace Cctf

open Rounding

namespace ScoreboardService

/-! ## Being better -/

/-- The earlier last solve is better, and any is better than none. -/
def SolvedEarlier : Option ℤ → Option ℤ → Prop
  | some t, some t' => t < t'
  | some _, none => True
  | none, _ => False

/-- One line beats another: by points, or on equal points by the tie-break of the mode. -/
def Beats (cfg : ScoreboardService) (submissions : List Submission) (a b : ScoreboardEntry) :
    Prop :=
  b.points < a.points ∨
    (a.points = b.points ∧
      if cfg.sortByAccuracy then getAccuracy submissions b.teamId < getAccuracy submissions a.teamId
      else SolvedEarlier a.lastSolveTime b.lastSolveTime)

theorem compareTimes_eq_lt_iff {a b : Option ℤ} :
    compareTimes a b = .lt ↔ SolvedEarlier a b := by
  cases a with
  | none => cases b <;> simp [compareTimes, SolvedEarlier]
  | some t =>
    cases b with
    | none => simp [compareTimes, SolvedEarlier]
    | some t' => exact compare_lt_iff_lt

/-- **The comparison is the order of the scoreboard.** -/
theorem compareEntries_eq_lt_iff {cfg : ScoreboardService} {submissions : List Submission}
    {a b : ScoreboardEntry} :
    cfg.compareEntries submissions a b = .lt ↔ cfg.Beats submissions a b := by
  unfold compareEntries Beats
  rw [Ordering.then_eq_lt, compare_lt_iff_lt, compare_eq_iff_eq, eq_comm (a := b.points)]
  cases cfg.sortByAccuracy with
  | true => rw [if_pos rfl, cmp_eq_lt_iff, if_pos rfl]
  | false => rw [if_neg Bool.false_ne_true, compareTimes_eq_lt_iff, if_neg Bool.false_ne_true]

instance : Std.TransCmp compareTimes where
  eq_swap {a b} := by
    cases a with
    | none => cases b <;> rfl
    | some t =>
      cases b with
      | none => rfl
      | some t' => exact Std.OrientedOrd.eq_swap
  isLE_trans {a b c} hab hbc := by
    cases c with
    | none => cases a <;> rfl
    | some t'' =>
      cases b with
      | none => cases hbc
      | some t' =>
        cases a with
        | none => cases hab
        | some t => exact Std.TransOrd.isLE_trans hab hbc

/-- The tie-break. -/
def compareTies (cfg : ScoreboardService) (submissions : List Submission)
    (a b : ScoreboardEntry) : Ordering :=
  if cfg.sortByAccuracy then
    cmp (getAccuracy submissions b.teamId) (getAccuracy submissions a.teamId)
  else compareTimes a.lastSolveTime b.lastSolveTime

instance (cfg : ScoreboardService) (submissions : List Submission) :
    Std.TransCmp (cfg.compareTies submissions) := by
  unfold compareTies
  cases cfg.sortByAccuracy with
  | true =>
    have hcmp : (cmp : ℚ → ℚ → Ordering) = compare := funext₂ cmp_eq_compare
    show Std.TransCmp fun a b : ScoreboardEntry =>
      cmp (getAccuracy submissions b.teamId) (getAccuracy submissions a.teamId)
    rw [hcmp]
    have hon := Ranking.transCmp_on (compare : ℚ → ℚ → Ordering)
      fun e : ScoreboardEntry => getAccuracy submissions e.teamId
    exact Std.TransCmp.opposite
  | false =>
    show Std.TransCmp fun a b : ScoreboardEntry => compareTimes a.lastSolveTime b.lastSolveTime
    exact Ranking.transCmp_on _ ScoreboardEntry.lastSolveTime

/-- **Both comparisons are total preorders.** -/
instance (cfg : ScoreboardService) (submissions : List Submission) :
    Std.TransCmp (cfg.compareEntries submissions) := by
  have hon := Ranking.transCmp_on (compare : ℤ → ℤ → Ordering) ScoreboardEntry.points
  have hpoints : Std.TransCmp fun a b : ScoreboardEntry => compare b.points a.points :=
    Std.TransCmp.opposite
  exact inferInstanceAs (Std.TransCmp
    (compareLex (fun a b : ScoreboardEntry => compare b.points a.points)
      (cfg.compareTies submissions)))

/-! ## The lines of a store -/

section

variable (E : Engines) (cfg : ScoreboardService) (filterBracket : Option String) (s : Store)

/-- The line of a team, before it is numbered. -/
def teamLine (team : Team) : ScoreboardEntry :=
  cfg.entry E s.challenges.rows (cfg.visibleSubs s.submissions) (cfg.visibleUnlocks s.hintUnlocks)
    team

/-- Two teams, compared by their lines. -/
def compareTeams (t u : Team) : Ordering :=
  cfg.compareEntries (cfg.visibleSubs s.submissions) (teamLine E cfg s t) (teamLine E cfg s u)

instance : Std.TransCmp (compareTeams E cfg s) :=
  Ranking.transCmp_on _ (teamLine E cfg s)

/-- The teams of the board, the best first. -/
def rankedTeams : List Team :=
  Ranking.sort (compareTeams E cfg s) (bracketTeams filterBracket s.teams.rows)

/-- **The board is the sorted list of teams**, each with its line and its number. -/
theorem board_eq :
    board E cfg filterBracket s =
      assignRanks ((rankedTeams E cfg filterBracket s).map (teamLine E cfg s)) := by
  rw [rankedTeams]
  exact congrArg assignRanks (Ranking.map_sort _ (teamLine E cfg s) _).symm

theorem length_rankedTeams :
    (rankedTeams E cfg filterBracket s).length =
      (bracketTeams filterBracket s.teams.rows).length :=
  (Ranking.perm_sort _ _).length_eq

theorem length_board :
    (board E cfg filterBracket s).length = (bracketTeams filterBracket s.teams.rows).length := by
  rw [board_eq, assignRanks, List.length_mapIdx, List.length_map, length_rankedTeams]

/-- The line at a place of the board. -/
theorem getElem?_board (i : ℕ) :
    (board E cfg filterBracket s)[i]? =
      ((rankedTeams E cfg filterBracket s)[i]?).map fun t =>
        { teamLine E cfg s t with rank := wrapU32 (i + 1) } := by
  rw [board_eq, assignRanks, List.getElem?_mapIdx, List.getElem?_map, Option.map_map]
  rfl

/-- Any two lines compare as their teams do. -/
theorem beats_iff (t u : Team) (m n : UInt32) :
    cfg.Beats (cfg.visibleSubs s.submissions) { teamLine E cfg s t with rank := m }
        { teamLine E cfg s u with rank := n } ↔ compareTeams E cfg s t u = .lt := by
  rw [compareTeams, compareEntries_eq_lt_iff]
  rfl

theorem nodup_bracketTeams : ((bracketTeams filterBracket s.teams.rows).map (·.id)).Nodup :=
  ((bracketTeams_sublist _ _).map _).nodup s.teams.nodup

/-! ## The ranking -/

/-- The board is a ranking of its teams. -/
structure Ranked : Prop where
  /-- Every team of the bracket has exactly one line, and no other team has one. -/
  teams : ((board E cfg filterBracket s).map (·.teamId)).Perm
    ((bracketTeams filterBracket s.teams.rows).map (·.id))
  nodup : ((board E cfg filterBracket s).map (·.teamId)).Nodup
  /-- It says what the team has earned and spent. -/
  lines : ∀ e ∈ board E cfg filterBracket s, ∃ team ∈ bracketTeams filterBracket s.teams.rows,
    e = { teamLine E cfg s team with rank := e.rank }
  /-- The lines are numbered from one. -/
  ranks : (board E cfg filterBracket s).map (·.rank.toNat) =
    List.range' 1 (board E cfg filterBracket s).length
  /-- The comparison is a total preorder. -/
  preorder : Std.TransCmp (cfg.compareEntries (cfg.visibleSubs s.submissions))
  /-- A better line has a smaller rank. -/
  order : ∀ a ∈ board E cfg filterBracket s, ∀ b ∈ board E cfg filterBracket s,
    cfg.Beats (cfg.visibleSubs s.submissions) a b → a.rank < b.rank

theorem map_teamId_board :
    (board E cfg filterBracket s).map (·.teamId) =
      (rankedTeams E cfg filterBracket s).map (·.id) := by
  refine List.ext_getElem? fun i => ?_
  rw [List.getElem?_map, List.getElem?_map, getElem?_board, Option.map_map]
  rfl

/-- The ranks are the numbers from one, cut to 32 bits. -/
theorem map_rank_board :
    (board E cfg filterBracket s).map (·.rank.toNat) =
      (List.range' 1 (board E cfg filterBracket s).length).map (· % 2 ^ 32) := by
  refine List.ext_getElem (by simp) fun i hi hi' => ?_
  rw [List.length_map] at hi
  have hline := getElem?_board E cfg filterBracket s i
  rw [List.getElem?_eq_getElem hi] at hline
  obtain ⟨t, -, hentry⟩ := Option.map_eq_some_iff.mp hline.symm
  rw [List.getElem_map, List.getElem_map, List.getElem_range', ← hentry, toNat_wrapU32,
    Nat.one_mul, Nat.add_comm]

/-- The numbers up to a bound are below `2 ^ 32` when the bound is. -/
theorem map_mod_range'_iff (n : ℕ) :
    (List.range' 1 n).map (· % 2 ^ 32) = List.range' 1 n ↔ n < 2 ^ 32 := by
  have hself := List.map_inj_left (l := List.range' 1 n) (f := (· % 2 ^ 32)) (g := id)
  rw [List.map_id] at hself
  rw [hself]
  constructor
  · intro h
    by_contra hle
    have hlast : 2 ^ 32 % 2 ^ 32 = 2 ^ 32 := h (2 ^ 32) (List.mem_range'_1.mpr (by omega))
    omega
  · intro hlt x hx
    have hx := List.mem_range'_1.mp hx
    exact Nat.mod_eq_of_lt (by omega)

/-- **Sorting ranks**: a better line stands above a worse one. -/
theorem index_lt_of_beats {i j : ℕ} {a b : ScoreboardEntry}
    (ha : (board E cfg filterBracket s)[i]? = some a)
    (hb : (board E cfg filterBracket s)[j]? = some b)
    (h : cfg.Beats (cfg.visibleSubs s.submissions) a b) : i < j := by
  rw [getElem?_board] at ha hb
  obtain ⟨t, ht, rfl⟩ := Option.map_eq_some_iff.mp ha
  obtain ⟨u, hu, rfl⟩ := Option.map_eq_some_iff.mp hb
  obtain ⟨hi, rfl⟩ := List.getElem?_eq_some_iff.mp ht
  obtain ⟨hj, rfl⟩ := List.getElem?_eq_some_iff.mp hu
  rw [beats_iff] at h
  exact Ranking.lt_of_idx (Ranking.pairwise_sort _) hi hj h

/-- The rank of the line at a place. -/
theorem rank_of_getElem? {i : ℕ} {e : ScoreboardEntry}
    (h : (board E cfg filterBracket s)[i]? = some e) : e.rank = wrapU32 (i + 1) := by
  rw [getElem?_board] at h
  obtain ⟨t, -, rfl⟩ := Option.map_eq_some_iff.mp h
  rfl

theorem length_lt_of_ranked (h : Ranked E cfg filterBracket s) :
    (bracketTeams filterBracket s.teams.rows).length < 2 ^ 32 := by
  have hranks := h.ranks
  rw [map_rank_board, map_mod_range'_iff, length_board] at hranks
  exact hranks

/-- **The board is a ranking** exactly when it has fewer than `2 ^ 32` lines. -/
theorem ranked_iff :
    Ranked E cfg filterBracket s ↔ (bracketTeams filterBracket s.teams.rows).length < 2 ^ 32 := by
  refine ⟨length_lt_of_ranked E cfg filterBracket s, fun hlt => ?_⟩
  have hteams : ((board E cfg filterBracket s).map (·.teamId)).Perm
      ((bracketTeams filterBracket s.teams.rows).map (·.id)) := by
    rw [map_teamId_board]
    exact (Ranking.perm_sort _ _).map _
  constructor
  · exact hteams
  · exact hteams.nodup_iff.mpr (nodup_bracketTeams filterBracket s)
  · intro e he
    obtain ⟨team, hteam, rank, rfl⟩ := of_mem_standings he
    exact ⟨team, hteam, rfl⟩
  · rw [map_rank_board, map_mod_range'_iff, length_board]
    exact hlt
  · infer_instance
  · intro a ha b hb hbeats
    obtain ⟨i, hi⟩ := List.getElem?_of_mem ha
    obtain ⟨j, hj⟩ := List.getElem?_of_mem hb
    have hij := index_lt_of_beats E cfg filterBracket s hi hj hbeats
    have hbound := (List.getElem?_eq_some_iff.mp hj).1
    rw [length_board] at hbound
    rw [rank_of_getElem? E cfg filterBracket s hi, rank_of_getElem? E cfg filterBracket s hj,
      UInt32.lt_iff_toNat_lt, toNat_wrapU32, toNat_wrapU32, Nat.mod_eq_of_lt (by omega),
      Nat.mod_eq_of_lt (by omega)]
    omega

end

/-! ## Too many teams -/

/-- A store of so many teams, without anything else. -/
def crowd (n : ℕ) : Store where
  teams := ⟨(List.range n).map fun i => .plain (toString i) [], by
    rw [List.map_map]
    refine List.nodup_range.map fun i j hij => ?_
    exact Text.repr_inj (congrArg (fun t : TeamId => t.val.toList) hij)⟩
  challenges := .empty
  submissions := []
  hintUnlocks := []
  activeFlag := fun _ _ _ => none

/-- **Among `2 ^ 32` teams the last line has rank zero.** -/
theorem not_ranked :
    ¬ ∀ (E : Engines) (cfg : ScoreboardService) (filterBracket : Option String) (s : Store),
      Ranked E cfg filterBracket s := by
  intro hclaim
  generalize hn : 2 ^ 32 = n
  have hlt := length_lt_of_ranked _ _ _ _ (hclaim .silent ⟨false, none, .none⟩ none (crowd n))
  have hlength : (bracketTeams none (crowd n).teams.rows).length = n := by
    simp [bracketTeams, crowd]
  omega

end ScoreboardService

end Cctf

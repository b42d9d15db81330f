import Cctf.Board.Ranking

/-!
# The boards of the brackets

A bracket filter keeps some teams before anything is computed.  The scores, the prices and the
accuracies are computed from all submissions all the same, and the sort is stable, so the board
of a bracket is the full board with the other lines left out, and numbered anew.

* `rankedTeams_some` — the order of a bracket is that of the full board.
* `Restricted` — a board is a restriction of the full one; `restricted_iff` — **the board of
  a bracket is, as long as its numbers fit in 32 bits**.
-/

namespace Cctf

open Rounding

namespace ScoreboardService

section

variable (E : Engines) (cfg : ScoreboardService) (bracket : String) (s : Store)

/-- **The order of a bracket** is the order of the full board. -/
theorem rankedTeams_some :
    rankedTeams E cfg (some bracket) s =
      (rankedTeams E cfg none s).filter fun t => t.bracket = bracket :=
  (Ranking.filter_sort _ _).symm

/-- Is the line one of the bracket? -/
def inBracket (e : ScoreboardEntry) : Bool :=
  (s.teams.find? e.teamId).any fun t => t.bracket = bracket

/-- A line without its number. -/
def unranked (e : ScoreboardEntry) : ScoreboardEntry := { e with rank := 0 }

/-- The lines of a board without their numbers. -/
theorem map_unranked_board (filterBracket : Option String) :
    (board E cfg filterBracket s).map unranked =
      (rankedTeams E cfg filterBracket s).map (teamLine E cfg s) := by
  refine List.ext_getElem? fun i => ?_
  rw [List.getElem?_map, List.getElem?_map, getElem?_board, Option.map_map]
  rfl

/-- The line of a team is in the bracket of the team. -/
theorem inBracket_teamLine {t : Team} (ht : t ∈ s.teams.rows) :
    inBracket bracket s (teamLine E cfg s t) = decide (t.bracket = bracket) := by
  have hfind : s.teams.find? t.id = some t := Table.find?_eq_some_iff.mpr ⟨ht, rfl⟩
  show (s.teams.find? t.id).any _ = _
  rw [hfind]
  rfl

/-- The board of a bracket is the full board restricted to it. -/
structure Restricted : Prop where
  /-- The lines are those of the bracket, in their order, with all they say. -/
  lines : (board E cfg (some bracket) s).map unranked =
    ((board E cfg none s).filter (inBracket bracket s)).map unranked
  /-- They are numbered anew. -/
  ranks : (board E cfg (some bracket) s).map (·.rank.toNat) =
    List.range' 1 (board E cfg (some bracket) s).length

theorem board_restricted :
    (board E cfg (some bracket) s).map unranked =
      ((board E cfg none s).filter (inBracket bracket s)).map unranked := by
  -- the bracket of a line does not depend on its number
  have hfilter : ((board E cfg none s).filter (inBracket bracket s)).map unranked =
      ((board E cfg none s).map unranked).filter (inBracket bracket s) := by
    rw [List.filter_map]
    rfl
  rw [hfilter, map_unranked_board, map_unranked_board, rankedTeams_some, List.filter_map]
  refine congrArg (List.map _) (List.filter_congr fun t ht => ?_)
  have hteam : t ∈ s.teams.rows := (Ranking.perm_sort _ _).mem_iff.mp ht
  exact (inBracket_teamLine E cfg bracket s hteam).symm

/-- **The board of a bracket is the full board restricted** exactly when the bracket has fewer
than `2 ^ 32` teams. -/
theorem restricted_iff :
    Restricted E cfg bracket s ↔
      (s.teams.rows.filter fun t => t.bracket = bracket).length < 2 ^ 32 := by
  have hranks : (board E cfg (some bracket) s).map (·.rank.toNat) =
      List.range' 1 (board E cfg (some bracket) s).length ↔
        (s.teams.rows.filter fun t => t.bracket = bracket).length < 2 ^ 32 := by
    rw [map_rank_board, map_mod_range'_iff, length_board]
    rfl
  constructor
  · exact fun h => hranks.mp h.ranks
  · exact fun hlt => ⟨board_restricted E cfg bracket s, hranks.mpr hlt⟩

end

/-- **In a bracket of `2 ^ 32` teams the last line has rank zero.** -/
theorem not_restricted :
    ¬ ∀ (E : Engines) (cfg : ScoreboardService) (bracket : String) (s : Store),
      Restricted E cfg bracket s := by
  intro hclaim
  generalize hn : 2 ^ 32 = n
  have hranks := (hclaim .silent ⟨false, none, .none⟩ "" (crowd n)).ranks
  rw [map_rank_board, map_mod_range'_iff, length_board] at hranks
  have hall : bracketTeams (some "") (crowd n).teams.rows = (crowd n).teams.rows := by
    refine List.filter_eq_self.mpr fun t ht => ?_
    obtain ⟨i, -, rfl⟩ := List.mem_map.mp ht
    rfl
  have hlength : (crowd n).teams.rows.length = n := by simp [crowd]
  rw [hall, hlength] at hranks
  omega

end ScoreboardService

end Cctf

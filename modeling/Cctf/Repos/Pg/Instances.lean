import Cctf.Services.Instancer

/-!
# The `challenge_instances` table

`InstanceRepo for PgStore`: which instances are live for a team or a solo account, and
the flag of one of them.

* `FetchOptional` — `fetch_optional`, which returns one of the rows a query selects.
* `isActive`, `findActiveFlag` — the two queries, and the method.
-/

namespace Cctf

/-- `fetch_optional`: some row a query selects, if it selects any. -/
structure FetchOptional (ρ : Type) where
  fetch : List ρ → Option ρ
  mem : ∀ {rows : List ρ} {row : ρ}, fetch rows = some row → row ∈ rows
  found : ∀ {rows : List ρ}, rows ≠ [] → fetch rows ≠ none

namespace FetchOptional

variable {ρ : Type}

/-- The first row. -/
def first : FetchOptional ρ where
  fetch := List.head?
  mem := List.mem_of_mem_head?
  found := fun h heq => h (List.head?_eq_none_iff.mp heq)

/-- A row that is preferred, or the first one. -/
def prefer [DecidableEq ρ] (row : ρ) : FetchOptional ρ where
  fetch rows := if row ∈ rows then some row else rows.head?
  mem := by
    intro rows row' h
    split at h
    · cases h
      assumption
    · exact List.mem_of_mem_head? h
  found := by
    intro rows hne h
    split at h
    · cases h
    · exact hne (List.head?_eq_none_iff.mp h)

end FetchOptional

namespace Pg

/-- `WHERE challenge_id = $1 AND team_id = $2 AND expires_at > $3`, or the same with
`account_id`. -/
def isActive (challengeId : String) (teamId : Option TeamId) (accountId : AccountId) (now : Int64)
    (row : InstanceRow) : Bool :=
  decide (row.challengeId = challengeId) &&
    (match teamId with
      | some t => decide (row.teamId = some t.val)
      | none => decide (row.accountId = accountId.val)) &&
    decide (now < row.expiresAt)

/-- `find_active_flag`. -/
def findActiveFlag (F : FetchOptional InstanceRow) (rows : List InstanceRow)
    (challengeId : String) (teamId : Option TeamId) (accountId : AccountId) (now : Int64) :
    Option String :=
  (F.fetch (rows.filter (isActive challengeId teamId accountId now))).map InstanceRow.flag

end Pg

end Cctf

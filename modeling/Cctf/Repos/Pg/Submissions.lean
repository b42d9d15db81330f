import Cctf.Repos.Traits

/-!
# The `submissions` table

The rows of `SubmissionRepo for PgStore`.  The points of a submission are a `u32`, and the
column is a signed `INT`.

* `SubmissionRow`, `SubmissionRow.ofSubmission` — the row, and what the `INSERT` binds.
* `mapSubmission` — what a `SELECT` maps back; `mapSubmission_ofSubmission` is the round
  trip.
-/

namespace Cctf

/-- A row of `submissions`. -/
structure SubmissionRow where
  id : String
  challengeId : String
  teamId : Option String
  accountId : String
  points : Int32
  providedFlag : String
  isCorrect : Bool
  submittedAt : ℤ
  submittedIp : String
  deriving DecidableEq

/-- The values the `INSERT` binds. -/
def SubmissionRow.ofSubmission (submission : Submission) : SubmissionRow where
  id := submission.id
  challengeId := submission.challengeId
  teamId := submission.teamId.map TeamId.val
  accountId := submission.accountId.val
  points := submission.points.toInt32
  providedFlag := submission.providedFlag
  isCorrect := submission.isCorrect
  submittedAt := submission.submittedAt
  submittedIp := submission.submittedIp

/-- `map_submission`. -/
def mapSubmission (row : SubmissionRow) : Submission where
  id := row.id
  challengeId := row.challengeId
  teamId := row.teamId.map TeamId.mk
  accountId := ⟨row.accountId⟩
  points := row.points.toUInt32
  providedFlag := row.providedFlag
  isCorrect := row.isCorrect
  submittedAt := row.submittedAt
  submittedIp := row.submittedIp

/-- No submission is changed by being stored. -/
@[simp] theorem mapSubmission_ofSubmission (submission : Submission) :
    mapSubmission (.ofSubmission submission) = submission := by
  have hteam : (submission.teamId.map TeamId.val).map TeamId.mk = submission.teamId := by
    cases submission.teamId <;> rfl
  simp [mapSubmission, SubmissionRow.ofSubmission, hteam]

end Cctf

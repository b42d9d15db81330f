import Mathlib.Data.Finmap
import Cctf.Library.Rounding
import Cctf.Types.Flags

/-!
# The records of the platform

Accounts, teams, challenges, submissions, hint unlocks and scoreboard entries,
with the source's fields.  Wrappers around a single string that nothing compares
across kinds (titles, descriptions, tags, HTML) are plain strings; the ids of
teams and accounts keep their own types.  `u32` fields are `UInt32`, so no value
out of range can be written down; `i64` fields are `ℤ`.

* `HintCost.evaluate` — a fixed price, or the price a script computes from the
  solve count and the time, never negative.
* `LockedReveal.initial` — the reveal of a challenge whose requirements are not
  met (the source's `Default`).
-/

namespace Cctf

open Rounding

/-! ## Accounts and teams -/

/-- The id of a team. -/
structure TeamId where
  /-- The id as text. -/
  val : String
  deriving DecidableEq, Repr

/-- The id of an account. -/
structure AccountId where
  /-- The id as text. -/
  val : String
  deriving DecidableEq, Repr

/-- The rights of an account. -/
inductive AccountRole where
  | admin
  | player
  | spectator
  deriving DecidableEq, Repr

/-- A JSON object column, as keys with the text of their values. -/
abbrev JsonFields := List (String × String)

/-- An account. -/
structure Account where
  id : AccountId
  username : String
  email : Option String
  passwordHash : Option String
  role : AccountRole
  teamId : Option TeamId
  ctftimeId : Option UInt32
  fields : JsonFields
  createdAt : ℤ
  deriving DecidableEq, Repr

/-- A team with its members. -/
structure Team where
  id : TeamId
  name : String
  ctftimeId : Option UInt32
  inviteCode : Option String
  captainId : AccountId
  memberIds : List AccountId
  bracket : String
  fields : JsonFields
  createAt : ℤ
  deriving DecidableEq, Repr

/-! ## Challenges -/

/-- How a challenge is valued. -/
inductive ScoringMode where
  | pointValue
  | pointAttribution
  | dynamicDecay (initial minimum decay : UInt32)
  deriving DecidableEq, Repr

/-- The scoring mode with the number it is configured by. -/
structure ChallengePoints where
  mode : ScoringMode
  equation : String
  deriving DecidableEq, Repr

/-- Who wrote a challenge. -/
structure ChallengeAuthor where
  id : String
  username : String
  deriving DecidableEq, Repr

/-- What a hint costs. -/
inductive HintCost where
  | fixed (cost : UInt32)
  | script (content : String)
  deriving DecidableEq, Repr

/-- `HintCost::evaluate`: a script that fails costs nothing, a negative price is
zero, and a large one is cut to 32 bits. -/
def HintCost.evaluate (E : Engines) (solves : UInt32) (now : ℤ) : HintCost → UInt32
  | .fixed cost => cost
  | .script content =>
    match E.evalCost content solves now with
    | some cost => wrapU32 (max cost 0).toNat
    | none => 0

/-- A hint. -/
structure ChallengeHint where
  content : String
  cost : HintCost
  deriving DecidableEq, Repr

/-- A file attached to a challenge. -/
structure ChallengeFile where
  name : String
  url : String
  checksumSha256 : Option String
  deriving DecidableEq, Repr

/-- What has to be done before a challenge opens. -/
inductive ChallengeRequirement where
  | solve (id : String)
  deriving DecidableEq, Repr

/-- How a challenge is deployed. -/
inductive ChallengeDeployment where
  | none
  | shared (url : String)
  | instanced
  deriving DecidableEq, Repr

/-- What a locked challenge shows. -/
structure LockedReveal where
  description : Bool
  category : Bool
  points : Bool
  tags : Bool
  files : Bool
  hints : Bool
  requirements : Bool
  connectionInfo : Bool
  deriving DecidableEq, Repr

/-- `LockedReveal::default()`. -/
def LockedReveal.initial : LockedReveal where
  description := false
  category := true
  points := true
  tags := true
  files := false
  hints := false
  requirements := true
  connectionInfo := false

/-- Who sees a challenge. -/
inductive ChallengeVisibility where
  | visible
  | hidden
  | locked (reveal : LockedReveal)
  deriving DecidableEq, Repr

/-- Which submissions count as attempts. -/
inductive AttemptCountMode where
  | all
  | unique
  | incorrectOnly
  | uniqueIncorrect
  deriving DecidableEq, Repr

/-- The attempt limit of a challenge. -/
structure MaxAttempts where
  limit : UInt32
  mode : AttemptCountMode
  deriving DecidableEq, Repr

/-- A challenge. -/
structure Challenge where
  id : String
  title : String
  description : String
  category : String
  points : ChallengePoints
  flag : FlagValidator
  author : ChallengeAuthor
  hints : List ChallengeHint
  files : List ChallengeFile
  tags : List String
  requirements : List ChallengeRequirement
  teamConsensus : Bool
  deployment : ChallengeDeployment
  visibility : ChallengeVisibility
  maxAttempts : Option MaxAttempts

/-! ## Submissions and hint unlocks -/

/-- One submitted flag, as stored. -/
structure Submission where
  id : String
  challengeId : String
  teamId : Option TeamId
  accountId : AccountId
  points : UInt32
  providedFlag : String
  isCorrect : Bool
  submittedAt : ℤ
  submittedIp : String
  deriving DecidableEq, Repr

/-- One unlocked hint, with the price paid. -/
structure HintUnlock where
  id : String
  challengeId : String
  hintIndex : UInt32
  teamId : Option TeamId
  accountId : AccountId
  cost : UInt32
  unlockedAt : ℤ
  deriving DecidableEq, Repr

/-! ## Scoreboard -/

/-- How unlocked hint costs affect a team's score. -/
inductive HintDeductionMode where
  | none
  | floorZero
  | allowNegative
  | gate
  deriving DecidableEq, Repr

/-- A line of the scoreboard. -/
structure ScoreboardEntry where
  teamId : TeamId
  teamName : String
  points : ℤ
  lastSolveTime : Option ℤ
  solves : List String
  rank : UInt32
  deriving DecidableEq, Repr

/-- The statistics of one task in the CTFtime export. -/
structure CtfTimeTaskStats where
  points : UInt32
  time : ℤ
  deriving DecidableEq, Repr

/-- A line of the CTFtime export; `taskStats` is keyed by task title. -/
structure CtfTimeStandingsEntry where
  pos : Option UInt32
  team : String
  score : ℚ
  taskStats : Finmap fun _ : String => CtfTimeTaskStats
  deriving DecidableEq

/-- The CTFtime export. -/
structure CtfTimeScoreboardExport where
  tasks : List String
  standings : List CtfTimeStandingsEntry
  deriving DecidableEq

/-! ## Plain records

Records with every optional field left out, for concrete inputs. -/

/-- A visible challenge without hints, files, requirements or limits. -/
def Challenge.plain (id title : String) (points : ChallengePoints) (flag : FlagValidator) :
    Challenge where
  id := id
  title := title
  description := ""
  category := ""
  points := points
  flag := flag
  author := ⟨"", ""⟩
  hints := []
  files := []
  tags := []
  requirements := []
  teamConsensus := false
  deployment := .none
  visibility := .visible
  maxAttempts := none

/-- A player, on a team or on none. -/
def Account.plain (id : String) (team : Option String) : Account where
  id := ⟨id⟩
  username := id
  email := none
  passwordHash := none
  role := .player
  teamId := team.map TeamId.mk
  ctftimeId := none
  fields := []
  createdAt := 0

/-- A team of the given members, the first its captain. -/
def Team.plain (id : String) (members : List String) : Team where
  id := ⟨id⟩
  name := id
  ctftimeId := none
  inviteCode := none
  captainId := ⟨members.headD ""⟩
  memberIds := members.map AccountId.mk
  bracket := ""
  fields := []
  createAt := 0

/-- A correct submission. -/
def Submission.correct (id challengeId : String) (team : Option String) (account flag : String)
    (points : UInt32) (submittedAt : ℤ) : Submission where
  id := id
  challengeId := challengeId
  teamId := team.map TeamId.mk
  accountId := ⟨account⟩
  points := points
  providedFlag := flag
  isCorrect := true
  submittedAt := submittedAt
  submittedIp := ""

end Cctf

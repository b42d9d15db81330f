import Cctf.Access.Handlers
import Cctf.Challenges.Updating

/-!
# Safety of the API

Any number of requests of any kind, next to each other, call by call in any order, while any
call to the database or to the files may fail.

* `serving` — the requests before any of them has begun; `serving_pooled` is that they keep to
  what they may.
* `records_kept` — no account and no team is lost or changed, and nobody becomes an
  administrator.
* `privileged_by_admin` — what changes challenges, files or announcements comes from an account
  that was an administrator before.
* `rows_own` — nobody submits a flag or unlocks a hint for somebody else: what a request stores is
  of the account of its session, and for a team of that account.
-/

namespace Cctf

open Program Pg Knowledge

section

variable {ι : Type}

/-- Requests next to each other on one server. -/
abbrev Serves (ι : Type) : Type := Pool ServerOp ServerOp.Resp Reply Server ι

/-- The requests, before any of them has begun. -/
def Deployment.serving (D : Deployment) (req : ι → HttpRequest) (s₀ : Server) : Serves ι where
  store := s₀
  prog i := D.handle (req i)

variable (D : Deployment) (B : Backend) (req : ι → HttpRequest) (s₀ : Server)

/-- At the start every request keeps to what it may, and knows nothing. -/
theorem serving_pooled : (D.promises B req s₀).Pooled
    (fun i known reply => D.Promised (req i) known reply.body) (D.serving req s₀) := by
  refine ⟨.start D req s₀, fun i => ⟨[], fun _ h => absurd h List.not_mem_nil, ?_⟩⟩
  exact Along.imp (fun _ _ hpost => hpost.2) (handle_keeps D (req i) [])

variable [DecidableEq ι]

/-- The requests, after some of their calls. -/
abbrev Deployment.after (schedule : List ι) : Serves ι :=
  (D.serving req s₀).run (Server.handler B) schedule

variable {D B req s₀} {schedule : List ι}

/-- A request that is not scheduled has not begun. -/
theorem waiting_of_not_mem {i : ι} (h : i ∉ schedule) :
    (D.after B req s₀ schedule).prog i = D.handle (req i) :=
  Pool.prog_run_of_not_mem h

theorem standing_after : D.Standing req s₀ (D.after B req s₀ schedule).store :=
  ((serving_pooled D B req s₀).run schedule).1

/-- What a request that has ended has replied. -/
theorem promised_after {i : ι} {reply : Reply}
    (hdone : (D.after B req s₀ schedule).prog i = .done reply) :
    ∃ known, (∀ f ∈ known, f.Holds D req s₀ (D.after B req s₀ schedule).store) ∧
      D.Promised (req i) known reply.body :=
  ((serving_pooled D B req s₀).run schedule).result hdone

/-! ## Records -/

variable (D B req s₀ schedule) in
/-- **No account and no team is lost or changed**, the teams of the accounts aside: the
accounts that were there have the names, the passwords and the roles that they had, the teams
have the names, the captains and the brackets that they had, and whoever comes is a player. -/
theorem records_kept :
    (∃ new, (D.after B req s₀ schedule).store.db.tables.identities =
      s₀.db.tables.identities ++ new ∧ ∀ a ∈ new, a.role = .player) ∧
    s₀.db.tables.teams.rows <+: (D.after B req s₀ schedule).store.db.tables.teams.rows :=
  ⟨standing_after.grows.identities, standing_after.grows.teams⟩

/-! ## Administrators -/

/-- A privileged call is permitted to administrators only. -/
theorem isAdmin_of_permits {r : HttpRequest} {known : List Fact} {op : ServerOp}
    (hguard : D.Permits r known op) (h : op.Privileged) : D.IsAdmin r known := by
  cases op with
  | query q => exact h.elim
  | app op =>
    cases op with
    | repo op => exact h.elim
    | _ => exact hguard h
  | _ => exact hguard h

theorem admin_of_privileged {e : Made ServerOp Server ι}
    (he : e ∈ (D.serving req s₀).trace (Server.handler B) schedule) (h : e.op.Privileged) :
    ∃ a ∈ s₀.db.tables.identities, a.role = .admin ∧ D.user (req e.who) = .ok a.id := by
  obtain ⟨hinv, known, hknown, hguard⟩ := (serving_pooled D B req s₀).trace schedule e he
  have hstanding : D.Standing req s₀ e.before := hinv
  obtain ⟨a, ha, hrole, huser⟩ := isAdmin_of_permits hguard h
  -- whoever came is a player
  exact ⟨a, hstanding.grows.admin (hknown _ ha) hrole, hrole, huser⟩

variable (D B req s₀ schedule) in
/-- **What changes challenges, files or announcements comes from an administrator**: the
request has a session of an account that was one before any request began. -/
theorem privileged_by_admin :
    ∀ e ∈ (D.serving req s₀).trace (Server.handler B) schedule, e.op.Privileged →
      ∃ a ∈ s₀.db.tables.identities, a.role = .admin ∧ D.user (req e.who) = .ok a.id :=
  fun _ he h => admin_of_privileged he h

/-! ### A small server -/

/-- Two teams with their captains; one of them is an administrator. -/
def twoTeams : Database where
  tables := ⟨⟨[.ofTeam (.plain "team-1" ["alice"]), .ofTeam (.plain "team-2" ["account-123"])],
      by decide⟩,
    ⟨[.ofAccount { Account.plain "alice" (some "team-1") with passwordHash := some "$tulip" },
      .ofAccount { Account.plain "account-123" (some "team-2") with role := .admin }], by decide⟩⟩
  distinct := by decide
  references := by decide

/-- A server with these teams, and nothing else yet. -/
def smallServer : Server where
  db := twoTeams
  challenges := ⟨.empty, []⟩
  hintUnlocks := .empty
  files := ⟨fun _ => none, .empty⟩
  notifications := .empty
  requests _ := []
  sent := []
  faults := []

/-- A database that has no JSON to read. -/
def smallBackend : Backend where
  refusal := ""
  fromValue := ChallengeRepo.plainValues
  activeFlag _ _ _ := none

/-- A deployment that knows the HMACs of the session of `account-123` and of an invite. -/
def smallDeployment : Deployment where
  jwt := Jwt.sharedCrates
  jwtSecret := Jwt.sampleSecret
  argon2 := ⟨fun _ password => some ("$" ++ password) |>.filter fun hashed => hashed.length ≤ 255,
    fun password storedHash => decide (storedHash = "$" ++ password)⟩
  describe _ := ""
  platform := .plain
  scoreboard := ⟨false, none, .none⟩
  files := ⟨fun _ => [], 0⟩
  evalFilter _ _ _ _ := none
  clientId := ""
  redirectUri := ""
  trust := false
  isHeaderValue _ := true

/-- A request with the session of `account-123`. -/
def withSession (endpoint : Endpoint) : HttpRequest where
  headers := [("authorization", ("Bearer " ++ Jwt.sampleToken).toList.flatMap Jwt.utf8)]
  peer := none
  authAt := 100
  endpoint := endpoint

/-- The administrator announces something. -/
def announces (_ : Unit) : HttpRequest :=
  withSession (.createNotification "notification" 100 ⟨"Hello", "The CTF begins", .everyone⟩)

/-- The announcement is stored, by an administrator. -/
theorem privileged_by_admin_announces :
    ∃ e ∈ (smallDeployment.serving announces smallServer).trace (Server.handler smallBackend)
      [(), ()], e.op.Privileged ∧
      ∃ a ∈ smallServer.db.tables.identities, a.role = .admin ∧
        smallDeployment.user (announces e.who) = .ok a.id := by
  have hstored : ∃ e ∈ (smallDeployment.serving announces smallServer).trace
      (Server.handler smallBackend) [(), ()], e.op.Privileged := by decide +kernel
  obtain ⟨e, he, hprivileged⟩ := hstored
  exact ⟨e, he, hprivileged, privileged_by_admin smallDeployment smallBackend announces smallServer _
    e he hprivileged⟩

/-! ## Rows of the players -/

/-- The account and the team of the row that a call stores. -/
def ServerOp.storedFor : ServerOp → Option (AccountId × Option TeamId)
  | .app (.repo (.submissionSave sub)) => some (sub.accountId, sub.teamId)
  | .app (.repo (.hintSave unlock)) => some (unlock.accountId, unlock.teamId)
  | _ => none

/-- A storing call is permitted to the account of the row only. -/
theorem owns_of_permits {r : HttpRequest} {known : List Fact} {op : ServerOp} {a : AccountId}
    {t : Option TeamId} (hguard : D.Permits r known op) (h : op.storedFor = some (a, t)) :
    D.Owns r known a t := by
  cases op with
  | app op =>
    cases op with
    | repo op =>
      cases op with
      | submissionSave sub =>
        cases h
        exact hguard
      | hintSave unlock =>
        cases h
        exact hguard
      | _ => cases h
    | _ => cases h
  | _ => cases h

variable (D B req s₀ schedule) in
/-- **Nobody submits a flag or unlocks a hint for somebody else**: who makes a call that stores a
row has a session of the row's account, and the row's team is one to which the account is entitled
by then. So a row that was not there before is of the account of some request's session. -/
theorem rows_own :
    (∀ e ∈ (D.serving req s₀).trace (Server.handler B) schedule, ∀ a t,
      e.op.storedFor = some (a, t) → D.user (req e.who) = .ok a ∧
        ∀ team, t = some team → D.Entitled req s₀ e.before team a) ∧
    (∀ sub ∈ (D.after B req s₀ schedule).store.challenges.submissions,
      sub ∈ s₀.challenges.submissions ∨
        D.Acted req s₀ (D.after B req s₀ schedule).store sub.accountId sub.teamId) ∧
    ∀ row ∈ (D.after B req s₀ schedule).store.hintUnlocks.rows, row ∈ s₀.hintUnlocks.rows ∨
      D.Acted req s₀ (D.after B req s₀ schedule).store (mapHintUnlock row).accountId
        (mapHintUnlock row).teamId := by
  refine ⟨fun e he a t hstored => ?_, standing_after.submissions, standing_after.unlocks⟩
  obtain ⟨-, known, hknown, hguard⟩ := (serving_pooled D B req s₀).trace schedule e he
  obtain ⟨huser, hteam⟩ := owns_of_permits hguard hstored
  exact ⟨huser, fun team ht => hknown _ (hteam team ht)⟩

end

end Cctf

import Cctf.Repos.Pg.Challenges
import Cctf.Repos.Pg.Database

/-!
# Writes that stop half way

A method that writes with several statements makes them one after the other, each of them
final, and returns at the first that fails.

* `ofSql_update`, `delete_eq` — the methods as lists of statements.
* `writes_stop` — a method that returns an error has made the statements before the one
  that reported it, and nothing else.
-/

namespace Cctf.Pg

open Program Faults

/-! ## The methods as lists of statements -/

/-- A statement followed by the rest of a method. -/
theorem ofSql_execute_bind {α : Type} (st : Statement) (f : st.Value → Sql α) :
    ofSql (execute st >>= f) = query (.base st) >>= fun value => ofSql (f value) := by
  show ExceptT.mk (.call (.base st) fun r => (ExceptT.bindCont f r).lift .base fun _ r => r :
      Program Query Query.Resp (Except RepoError α)) =
    ExceptT.mk (.call (.base st) fun r => ExceptT.bindCont (fun value => ofSql (f value)) r)
  refine congrArg ExceptT.mk (congrArg (Program.call _) (funext fun r => ?_))
  cases r with
  | ok value => rfl
  | error e => rfl

theorem ofSql_setMembers (teamId : TeamId) (memberIds : List AccountId) :
    ofSql (TeamRepo.setMembers teamId memberIds) =
      performAll (memberIds.map fun memberId => Query.base (.setMember teamId memberId)) := by
  induction memberIds with
  | nil => rfl
  | cons memberId rest ih =>
    rw [TeamRepo.setMembers, ofSql_execute_bind, ih]
    rfl

/-- `TeamRepo::update` makes its statements one after the other. -/
theorem ofSql_update (team : Team) :
    ofSql (TeamRepo.update team) = performAll (TeamRepo.updateStatements team) := by
  rw [TeamRepo.update, ofSql_execute_bind]
  simp only [ofSql_execute_bind, ofSql_setMembers]
  rfl

/-- The statements of `ChallengeRepo::delete` with the solves. -/
def ChallengeRepo.deleteStatements (id : String) : List ChallengeRepo.Statement :=
  [.deleteSubmissions id, .delete id]

/-- `ChallengeRepo::delete` makes its statements one after the other. -/
theorem ChallengeRepo.delete_eq (id : String) :
    ChallengeRepo.delete id true = performAll (ChallengeRepo.deleteStatements id) := rfl

/-! ## What an error leaves -/

/-- A method of several statements that returns an error has made the statements before
the one that reported it. -/
theorem writes_stop (refusal : String) :
    (∀ team (w w' : World Database RepoError) e,
      exec (handler (Query.result refusal)) w (TeamRepo.save team) = (.error e, w') →
      StopsAt (Query.result refusal) w (TeamRepo.saveStatements team) e w'.state) ∧
    (∀ team (w w' : World Database RepoError) e,
      exec (handler (Query.result refusal)) w (ofSql (TeamRepo.update team)) = (.error e, w') →
      StopsAt (Query.result refusal) w (TeamRepo.updateStatements team) e w'.state) ∧
    ∀ id (w w' : World ChallengeTables RepoError) e,
      exec (handler (ChallengeRepo.result refusal)) w (ChallengeRepo.delete id true) =
        (.error e, w') →
      StopsAt (ChallengeRepo.result refusal) w (ChallengeRepo.deleteStatements id) e w'.state := by
  refine ⟨fun team w w' e h => exec_performAll_error h, fun team w w' e h => ?_,
    fun id w w' e h => ?_⟩
  · rw [ofSql_update] at h
    exact exec_performAll_error h
  · rw [ChallengeRepo.delete_eq] at h
    exact exec_performAll_error h

/-- The team `red` of a captain and alice. -/
def redTeam : Team := .plain "red" ["captain", "alice"]

/-- A database with this team. -/
def withRed : Database where
  tables := ⟨.single (.ofTeam redTeam),
    ⟨[.ofAccount (.plain "captain" (some "red")), .ofAccount (.plain "alice" (some "red"))],
      by decide⟩⟩
  distinct := by decide
  references := by decide

/-- The connection is lost at the third statement. -/
def thirdFails : World Database RepoError := ⟨withRed, [none, none, some (.connection "closed")]⟩

/-- An update of the team that loses the connection while it writes the members. -/
def updateThirdFails : Except RepoError Unit × World Database RepoError :=
  exec (handler (Query.result "")) thirdFails (ofSql (TeamRepo.update redTeam))

/-- It returns an error and leaves the team without members. -/
theorem update_not_atomic :
    updateThirdFails.1 = .error (.connection "closed") ∧
      thirdFails.state.tables.accounts.rows.map AccountRow.teamId = [some ⟨"red"⟩, some ⟨"red"⟩] ∧
      updateThirdFails.2.state.tables.accounts.rows.map AccountRow.teamId = [none, none] := by
  decide +kernel

theorem writes_stop_update :
    StopsAt (Query.result "") thirdFails (TeamRepo.updateStatements redTeam) (.connection "closed")
      updateThirdFails.2.state := by
  have hrun : exec (handler (Query.result "")) thirdFails (ofSql (TeamRepo.update redTeam)) =
      (.error (.connection "closed"), updateThirdFails.2) :=
    Prod.ext (by decide +kernel) rfl
  exact (writes_stop "").2.1 redTeam thirdFails updateThirdFails.2 _ hrun

end Cctf.Pg

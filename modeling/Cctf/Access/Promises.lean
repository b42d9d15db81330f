import Cctf.Access.Records
import Cctf.Api.Router
import Cctf.Library.Knowledge

/-!
# What the handlers rely on

A handler reads accounts and teams and writes back what it read, while others do the same.
What it has read stays true: nobody changes an account but for its team, nobody changes a team,
and nobody comes to a team who is not brought there.

* `Fact` — what a handler learns from a response; `Fact.Holds` is what it says of the server.
* `Comes`, `Entitled` — a request that brings an account to a team, and an account that some
  request of the run has brought to its team.
* `Permits` — what a request may call, by what it has learned.
* `Standing` — the invariant of a run.
* `promises` — **the guarantee**: every permitted call keeps the invariant and all facts.
-/

namespace Cctf

open Program Pg

/-! ## Facts -/

/-- What a handler learns. -/
inductive Fact where
  /-- There is an account with this identity. -/
  | account (a : Account)
  /-- There is a team with this row. -/
  | team (row : TeamRow)
  /-- The account was on the team. -/
  | member (teamId : TeamId) (accountId : AccountId)

/-- What a handler learns from an account. -/
def Fact.ofAccount (account : Account) : List Fact :=
  .account { account with teamId := none } ::
    (account.teamId.map fun teamId => Fact.member teamId account.id).toList

/-- What a handler learns from an account that may be there. -/
def Fact.ofRow (row : Option AccountRow) : List Fact :=
  row.toList.flatMap fun row => Fact.ofAccount (mapAccount row)

/-- What the value of a statement shows. -/
def Pg.Query.shown : (q : Query) → q.Value → List Fact
  | .base (.selectAccount _), row => Fact.ofRow row
  | .base (.selectTeam _), row => (Option.toList row).map .team
  | .base (.selectMembers teamId), ids => List.map (.member teamId) ids
  | .selectTeamByCtftimeId _, row => (Option.toList row).map .team
  | .selectAccountByUsername _, row => Fact.ofRow row
  | .selectAccountByCtftimeId _, row => Fact.ofRow row
  | .insertTeam row, _ => row.kept.toList.map .team
  | .insertAccount row, _ => Fact.ofRow row.kept
  | _, _ => []

/-- The row that is read has the key that was asked for, and what is inserted fits its columns. -/
def Pg.Query.Expected : (q : Query) → q.Value → Prop
  | .base (.selectAccount id), row => ∀ r : AccountRow, row = some r → r.id = id
  | .base (.selectTeam id), row => ∀ r : TeamRow, row = some r → r.id = id
  | .selectTeamByCtftimeId ctftimeId, row =>
    ∀ r : TeamRow, row = some r → r.ctftimeId = some ctftimeId
  | .selectAccountByUsername username, row =>
    ∀ r : AccountRow, row = some r → r.username = username
  | .selectAccountByCtftimeId ctftimeId, row =>
    ∀ r : AccountRow, row = some r → r.ctftimeId = some ctftimeId
  | .insertTeam row, _ => ∃ row', row.kept = some row'
  | .insertAccount row, _ => ∃ row', row.kept = some row'
  | _, _ => True

/-- What a response shows; an error shows nothing. -/
def ServerOp.shown : (op : ServerOp) → op.Resp → List Fact
  | .query q, .ok value => q.shown value
  | .app (.accountFindById _), .ok account => (Option.toList account).flatMap Fact.ofAccount
  | _, _ => []

/-- A response that is expected. -/
def ServerOp.Expected : (op : ServerOp) → op.Resp → Prop
  | .query q, .ok value => q.Expected value
  | .app (.accountFindById id), .ok account => ∀ a : Account, account = some a → a.id = id
  | _, _ => True

/-! ## Who comes to a team -/

/-- The request is a sign-in that makes the account, for a profile with the team. -/
def HttpRequest.Brings (req : HttpRequest) (info : CtfTimeTeamInfo) (accountId : AccountId) :
    Prop :=
  ∃ ctftime rounds fresh code profile, req.endpoint = .oauthCallback ctftime rounds fresh code ∧
    fetchProfile ctftime code = .ok profile ∧ profile.team = some info ∧
    fresh.accountId = accountId

section

variable (D : Deployment)

/-- The request joins the team for the account of its session, with a valid invite. -/
def Deployment.Invited (req : HttpRequest) (teamId : TeamId) (accountId : AccountId) : Prop :=
  ∃ scripts token now, req.endpoint = .joinTeam scripts token now ∧
    D.user req = .ok accountId ∧
    (verifyInviteToken D.invites token "" now).map Prod.fst = some teamId.val

/-- The request brings the account to the team: with an invite, or by a sign-in that makes the
account for a profile of the team. -/
def Deployment.Comes (req : HttpRequest) (teams : TeamRow → Prop) (teamId : TeamId)
    (accountId : AccountId) : Prop :=
  D.Invited req teamId accountId ∨ ∃ info, req.Brings info accountId ∧
    ∃ row, teams row ∧ row.id = teamId ∧ row.ctftimeId = some info.id.toInt32

variable {D} in
/-- A team stays. -/
theorem Deployment.Comes.imp {req : HttpRequest} {teams teams' : TeamRow → Prop}
    {teamId : TeamId} {accountId : AccountId} (h : D.Comes req teams teamId accountId)
    (himp : ∀ row, teams row → teams' row) : D.Comes req teams' teamId accountId :=
  Or.imp id (fun ⟨info, hbrings, row, hrow, hteam⟩ =>
    ⟨info, hbrings, row, himp row hrow, hteam⟩) h

/-! ## What a request may call -/

/-- Calls that change challenges, files or announcements. -/
def ServerOp.Privileged : ServerOp → Prop
  | .challenge (.select _) => False
  | .challenge _ => True
  | .file (.read _) => False
  | .file (.selectFile _) => False
  | .file _ => True
  | .notice (.notificationSave _) => True
  | .notice (.send _) => True
  | .app (.broadcast n) => n.kind = .announcement
  | _ => False

instance : DecidablePred ServerOp.Privileged
  | .query _ => isFalse id
  | .challenge (.select _) => isFalse id
  | .challenge (.insert _) => isTrue trivial
  | .challenge (.update _) => isTrue trivial
  | .challenge (.deleteSubmissions _) => isTrue trivial
  | .challenge (.delete _) => isTrue trivial
  | .file (.read _) => isFalse id
  | .file (.selectFile _) => isFalse id
  | .file .createDirAll => isTrue trivial
  | .file (.write _ _) => isTrue trivial
  | .file (.removeFile _) => isTrue trivial
  | .file (.insertFile _) => isTrue trivial
  | .file (.deleteFile _) => isTrue trivial
  | .notice (.notificationSave _) => isTrue trivial
  | .notice (.send _) => isTrue trivial
  | .notice (.accountFindById _) => isFalse id
  | .notice .accountFindAll => isFalse id
  | .notice .submissionFindAll => isFalse id
  | .notice (.notificationListRecent _) => isFalse id
  | .app (.broadcast n) => inferInstanceAs (Decidable (n.kind = .announcement))
  | .app (.accountFindById _) => isFalse id
  | .app (.checkLimit _ _ _ _) => isFalse id
  | .app (.repo _) => isFalse id

/-- The request has a session of an account that is known to be an administrator. -/
def Deployment.IsAdmin (req : HttpRequest) (known : List Fact) : Prop :=
  ∃ a, Fact.account a ∈ known ∧ a.role = .admin ∧ D.user req = .ok a.id

/-- What the request stores is of the account of its session, and for its team. -/
def Deployment.Owns (req : HttpRequest) (known : List Fact) (accountId : AccountId)
    (teamId : Option TeamId) : Prop :=
  D.user req = .ok accountId ∧ ∀ t, teamId = some t → Fact.member t accountId ∈ known

/-- The statements that a request may make: what it writes it has read, and whom it puts on a
team was there, or is brought there by the request. -/
def Deployment.Writes (req : HttpRequest) (known : List Fact) : Query → Prop
  | .base (.updateAccount row) => Fact.account row.identity ∈ known ∧
    ∀ t, row.teamId = some t → D.Comes req (fun r => Fact.team r ∈ known) t row.id
  | .base (.updateTeam row) => Fact.team row ∈ known
  | .base (.setMember t a) =>
    Fact.member t a ∈ known ∨ D.Comes req (fun r => Fact.team r ∈ known) t a
  | .insertAccount row => row.identity.role = .player ∧
    ∀ t, row.teamId = some t → D.Comes req (fun r => Fact.team r ∈ known) t row.id
  | _ => True

/-- The calls that a request may make. -/
def Deployment.Permits (req : HttpRequest) (known : List Fact) : ServerOp → Prop
  | .query q => D.Writes req known q
  | .app (.repo (.submissionSave sub)) => D.Owns req known sub.accountId sub.teamId
  | .app (.repo (.hintSave unlock)) => D.Owns req known unlock.accountId unlock.teamId
  | op => op.Privileged → D.IsAdmin req known

/-- What the requests of a run know. -/
def Deployment.knowledge (req : HttpRequest) : Knowledge ServerOp ServerOp.Resp Fact where
  may := ServerOp.Expected
  shown := ServerOp.shown
  guard := D.Permits req

/-! ## The invariant of a run -/

variable {ι : Type} (req : ι → HttpRequest) (s₀ s : Server)

/-- The account was on the team at the start, or a request of the run brings it there. -/
def Deployment.Entitled (teamId : TeamId) (accountId : AccountId) : Prop :=
  s₀.db.tables.IsMember teamId accountId ∨
    ∃ i, D.Comes (req i) (fun row => row ∈ s.db.tables.teams.rows) teamId accountId

/-- A request of the run has a session of the account, which is entitled to its team. -/
def Deployment.Acted (accountId : AccountId) (teamId : Option TeamId) : Prop :=
  (∃ i, D.user (req i) = .ok accountId) ∧
    ∀ t, teamId = some t → D.Entitled req s₀ s t accountId

/-- **What holds all along a run.** -/
structure Deployment.Standing : Prop where
  /-- No account and no team is lost or changed, and whoever comes is a player. -/
  grows : s₀.db.tables.Grows s.db.tables
  /-- Nobody is on a team who is not entitled. -/
  members : ∀ t a, s.db.tables.IsMember t a → D.Entitled req s₀ s t a
  /-- Whoever has a new submission has made a request. -/
  submissions : ∀ sub ∈ s.challenges.submissions,
    sub ∈ s₀.challenges.submissions ∨ D.Acted req s₀ s sub.accountId sub.teamId
  /-- Whoever has a new unlock has made a request. -/
  unlocks : ∀ row ∈ s.hintUnlocks.rows, row ∈ s₀.hintUnlocks.rows ∨
    D.Acted req s₀ s (mapHintUnlock row).accountId (mapHintUnlock row).teamId

/-- What a fact says of the server. -/
def Fact.Holds : Fact → Prop
  | .account a => a ∈ s.db.tables.identities
  | .team row => row ∈ s.db.tables.teams.rows
  | .member t a => D.Entitled req s₀ s t a

/-- At the start. -/
theorem Deployment.Standing.start : D.Standing req s₀ s₀ :=
  ⟨.refl _, fun _ _ h => .inl h, fun _ h => .inl h, fun _ h => .inl h⟩

end

/-! ## What every call keeps -/

section

variable {D : Deployment} {B : Backend} {ι : Type} {req : ι → HttpRequest} {s₀ s s' : Server}
  {known : List Fact} {i : ι}

theorem Deployment.Entitled.mono (hgrows : s.db.tables.Grows s'.db.tables) {t : TeamId}
    {a : AccountId} (h : D.Entitled req s₀ s t a) : D.Entitled req s₀ s' t a :=
  h.imp id fun ⟨i, hcomes⟩ => ⟨i, hcomes.imp fun _ hrow => hgrows.mem_teams hrow⟩

theorem Deployment.Acted.mono (hgrows : s.db.tables.Grows s'.db.tables) {a : AccountId}
    {t : Option TeamId} (h : D.Acted req s₀ s a t) : D.Acted req s₀ s' a t :=
  ⟨h.1, fun t ht => (h.2 t ht).mono hgrows⟩

/-- **Facts stay true.** -/
theorem Fact.Holds.mono (hgrows : s.db.tables.Grows s'.db.tables) {f : Fact}
    (h : f.Holds D req s₀ s) : f.Holds D req s₀ s' := by
  cases f with
  | account a => exact hgrows.mem_identities h
  | team row => exact hgrows.mem_teams h
  | member t a => exact Deployment.Entitled.mono hgrows h

/-- A request that comes, by what it knows, brings whom it puts on the team. -/
theorem Deployment.Comes.entitled {t : TeamId} {a : AccountId}
    (hknown : ∀ f ∈ known, f.Holds D req s₀ s)
    (h : D.Comes (req i) (fun r => Fact.team r ∈ known) t a) : D.Entitled req s₀ s t a :=
  .inr ⟨i, h.imp fun _ hrow => hknown _ hrow⟩

/-- A permitted statement is careful. -/
theorem careful_of_writes (hknown : ∀ f ∈ known, f.Holds D req s₀ s) {q : Query}
    (h : D.Writes (req i) known q) : q.Careful s.db.tables := by
  cases q with
  | base st =>
    cases st with
    | updateAccount row => exact hknown _ h.1
    | updateTeam row => exact hknown _ h
    | _ => trivial
  | insertAccount row => exact h.1
  | _ => trivial

/-- Whom a permitted statement puts on a team is entitled to it. -/
theorem entitled_of_seats (hknown : ∀ f ∈ known, f.Holds D req s₀ s) {q : Query}
    (h : D.Writes (req i) known q) {t : TeamId} {a : AccountId} (hseats : q.Seats t a) :
    D.Entitled req s₀ s t a := by
  cases q with
  | base st =>
    cases st with
    | updateAccount row =>
      obtain ⟨rfl, hteam⟩ := hseats
      exact (h.2 t hteam).entitled hknown
    | setMember t' a' =>
      obtain ⟨rfl, rfl⟩ := hseats
      exact h.elim (hknown _) fun hcomes => hcomes.entitled hknown
    | _ => exact hseats.elim
  | insertAccount row =>
    obtain ⟨rfl, hteam⟩ := hseats
    exact (h.2 t hteam).entitled hknown
  | _ => exact hseats.elim

/-- Nothing is lost by a permitted call. -/
theorem grows_next (hknown : ∀ f ∈ known, f.Holds D req s₀ s) {op : ServerOp}
    (h : D.Permits (req i) known op) :
    s.db.tables.Grows ((Server.handler B).next s op).db.tables := by
  rcases (Server.leaves_next (B := B) (s := s) op).db with hdb | ⟨q, value, rfl, hresult⟩
  · rw [hdb]
    exact .refl _
  · exact grows_of_perform (careful_of_writes hknown h) hresult

/-- **Every permitted call keeps the invariant.** -/
theorem Deployment.Standing.next (hinv : D.Standing req s₀ s)
    (hknown : ∀ f ∈ known, f.Holds D req s₀ s) {op : ServerOp}
    (h : D.Permits (req i) known op) : D.Standing req s₀ ((Server.handler B).next s op) := by
  have hgrows := grows_next (B := B) hknown h
  have hleaves := Server.leaves_next (B := B) (s := s) op
  -- what a request stores is its own
  have hacted : ∀ {a t}, D.Owns (req i) known a t → D.Acted req s₀ s a t := fun howns =>
    ⟨⟨i, howns.1⟩, fun t ht => hknown _ (howns.2 t ht)⟩
  refine ⟨hinv.grows.trans hgrows, fun t a hmember => ?_, fun sub hsub => ?_, fun row hrow => ?_⟩
  · refine Entitled.mono hgrows ?_
    rcases hleaves.db with hdb | ⟨q, value, rfl, hresult⟩
    · rw [hdb] at hmember
      exact hinv.members t a hmember
    · exact (isMember_of_perform hresult hmember).elim (hinv.members t a)
        (entitled_of_seats hknown h)
  · rcases hleaves.submissions sub hsub with hold | rfl
    · exact (hinv.submissions sub hold).imp id fun hold => hold.mono hgrows
    · exact .inr ((hacted h).mono hgrows)
  · rcases hleaves.unlocks row hrow with hold | ⟨unlock, rfl, rfl⟩
    · exact (hinv.unlocks row hold).imp id fun hold => hold.mono hgrows
    · rw [mapHintUnlock_ofUnlock]
      exact .inr ((hacted h).mono hgrows)

end

/-! ## What the responses show -/

section

variable {D : Deployment} {B : Backend} {ι : Type} {req : ι → HttpRequest} {s₀ s s' : Server}

/-- An account that is there. -/
theorem holds_ofAccount (hinv : D.Standing req s₀ s) {row : AccountRow}
    (hrow : row ∈ s.db.tables.accounts.rows) {f : Fact}
    (hf : f ∈ Fact.ofAccount (mapAccount row)) : f.Holds D req s₀ s := by
  rcases List.mem_cons.mp hf with rfl | hf
  · exact List.mem_map_of_mem (f := AccountRow.identity) hrow
  · obtain ⟨t, ht, rfl⟩ := Option.map_eq_some_iff.mp (Option.mem_toList.mp hf)
    exact hinv.members t row.id ⟨row, hrow, rfl, ht⟩

theorem holds_ofRow (hinv : D.Standing req s₀ s) {found : Option AccountRow}
    (hfound : ∀ row, found = some row → row ∈ s.db.tables.accounts.rows) {f : Fact}
    (hf : f ∈ Fact.ofRow found) : f.Holds D req s₀ s := by
  obtain ⟨row, hrow, hf⟩ := List.mem_flatMap.mp hf
  exact holds_ofAccount hinv (hfound row (Option.mem_toList.mp hrow)) hf

theorem holds_team {found : Option TeamRow}
    (hfound : ∀ row, found = some row → row ∈ s.db.tables.teams.rows) {f : Fact}
    (hf : f ∈ found.toList.map Fact.team) : f.Holds D req s₀ s := by
  obtain ⟨row, hrow, rfl⟩ := List.mem_map.mp hf
  exact hfound row (Option.mem_toList.mp hrow)

/-- **What a statement shows holds after it**, if the invariant does. -/
theorem holds_shown (hinv : D.Standing req s₀ s') {q : Query} {value : q.Value}
    (hperform : q.perform B.refusal s.db = .ok (value, s'.db)) {f : Fact}
    (hf : f ∈ q.shown value) : f.Holds D req s₀ s' := by
  have hstore := Query.store_of_perform hperform
  cases q with
  | base st =>
    obtain ⟨htables, rfl⟩ := tables_of_base hstore
    cases st with
    | selectAccount id =>
      refine holds_ofRow hinv (fun row hrow => ?_) hf
      rw [htables]
      exact (Table.find?_eq_some_iff.mp hrow).1
    | selectTeam id =>
      refine holds_team (fun row hrow => ?_) hf
      rw [htables]
      exact (Table.find?_eq_some_iff.mp hrow).1
    | selectMembers t =>
      obtain ⟨a, ha, rfl⟩ := List.mem_map.mp hf
      refine hinv.members t a ?_
      rw [htables]
      exact TeamTables.mem_memberIds.mp ha
    | _ => exact absurd hf List.not_mem_nil
  | selectTeamByCtftimeId ctftimeId =>
    obtain ⟨rfl, hdb⟩ := Prod.mk.inj (Except.ok.inj hstore)
    refine holds_team (fun row hrow => ?_) hf
    rw [← hdb]
    exact List.mem_of_find?_eq_some hrow
  | selectAccountByUsername username =>
    obtain ⟨rfl, hdb⟩ := Prod.mk.inj (Except.ok.inj hstore)
    refine holds_ofRow hinv (fun row hrow => ?_) hf
    rw [← hdb]
    exact List.mem_of_find?_eq_some hrow
  | selectAccountByCtftimeId ctftimeId =>
    obtain ⟨rfl, hdb⟩ := Prod.mk.inj (Except.ok.inj hstore)
    refine holds_ofRow hinv (fun row hrow => ?_) hf
    rw [← hdb]
    exact List.mem_of_find?_eq_some hrow
  | insertTeam row =>
    obtain ⟨row', hkept, hresult⟩ := Query.perform_insertTeam hperform
    obtain ⟨teams, hinsert, htables⟩ := insertTeam_ok hresult
    refine holds_team (fun r hr => ?_) hf
    obtain rfl := Option.some.inj (hkept.symm.trans hr)
    rw [htables]
    exact ((Table.mem_insert hinsert).1 row').mpr (.inr rfl)
  | insertAccount row =>
    obtain ⟨row', hkept, hresult⟩ := Query.perform_insertAccount hperform
    refine holds_ofRow hinv (fun r hr => ?_) hf
    obtain rfl := Option.some.inj (hkept.symm.trans hr)
    exact insertAccount_row hresult

/-- A statement returns a row with the key that was asked for. -/
theorem expected_perform {q : Query} {value : q.Value} {db : Database}
    (hperform : q.perform B.refusal s.db = .ok (value, db)) : q.Expected value := by
  have hstore := Query.store_of_perform hperform
  cases q with
  | base st =>
    obtain ⟨-, rfl⟩ := tables_of_base hstore
    cases st with
    | selectAccount id => exact fun r hr => (Table.find?_eq_some_iff.mp hr).2
    | selectTeam id => exact fun r hr => (Table.find?_eq_some_iff.mp hr).2
    | _ => trivial
  | selectTeamByCtftimeId ctftimeId =>
    obtain ⟨rfl, -⟩ := Prod.mk.inj (Except.ok.inj hstore)
    exact fun r hr => by simpa using List.find?_some hr
  | selectAccountByUsername username =>
    obtain ⟨rfl, -⟩ := Prod.mk.inj (Except.ok.inj hstore)
    exact fun r hr => by simpa using List.find?_some hr
  | selectAccountByCtftimeId ctftimeId =>
    obtain ⟨rfl, -⟩ := Prod.mk.inj (Except.ok.inj hstore)
    exact fun r hr => by simpa using List.find?_some hr
  | insertTeam row => exact (Query.perform_insertTeam hperform).imp fun _ h => h.1
  | insertAccount row => exact (Query.perform_insertAccount hperform).imp fun _ h => h.1

/-- **The server answers as expected.** -/
theorem expected_answer (op : ServerOp) : op.Expected ((Server.handler B).answer s op) := by
  cases op with
  | query q =>
    rcases Server.answer_query (B := B) (s := s) q with ⟨e, he⟩ | ⟨value, hvalue, hresult⟩
    · rw [he]
      trivial
    · rw [hvalue]
      exact expected_perform hresult
  | app op =>
    cases op with
    | accountFindById id =>
      rcases Server.answer_accountFindById (B := B) (s := s) id with ⟨e, he⟩ | hvalue
      · rw [he]
        trivial
      · rw [hvalue]
        intro a ha
        obtain ⟨row, hrow, rfl⟩ := Option.map_eq_some_iff.mp ha
        exact (Table.find?_eq_some_iff.mp hrow).2
    | _ => trivial
  | _ => trivial

/-- **What a response shows holds after the call**, if the invariant does. -/
theorem holds_answer {op : ServerOp} (hinv : D.Standing req s₀ s)
    (hnext : D.Standing req s₀ ((Server.handler B).next s op))
    (hgrows : s.db.tables.Grows ((Server.handler B).next s op).db.tables) {f : Fact}
    (hf : f ∈ op.shown ((Server.handler B).answer s op)) :
    f.Holds D req s₀ ((Server.handler B).next s op) := by
  cases op with
  | query q =>
    rcases Server.answer_query (B := B) (s := s) q with ⟨e, he⟩ | ⟨value, hvalue, hresult⟩
    · rw [he] at hf
      exact absurd hf List.not_mem_nil
    · rw [hvalue] at hf
      exact holds_shown hnext hresult hf
  | app op =>
    cases op with
    | accountFindById id =>
      rcases Server.answer_accountFindById (B := B) (s := s) id with ⟨e, he⟩ | hvalue
      · rw [he] at hf
        exact absurd hf List.not_mem_nil
      · rw [hvalue] at hf
        obtain ⟨a, ha, hf⟩ := List.mem_flatMap.mp hf
        obtain ⟨row, hrow, rfl⟩ := Option.map_eq_some_iff.mp (Option.mem_toList.mp ha)
        exact (holds_ofAccount hinv (Table.find?_eq_some_iff.mp hrow).1 hf).mono hgrows
    | _ => exact absurd hf List.not_mem_nil
  | _ => exact absurd hf List.not_mem_nil

end

/-! ## The guarantee -/

/-- **The guarantee of the handlers.** -/
def Deployment.promises (D : Deployment) (B : Backend) {ι : Type} (req : ι → HttpRequest)
    (s₀ : Server) : Guarantee (Server.handler B) ι (List Fact) :=
  .ofFacts (fun i => D.knowledge (req i)) ServerOp.Expected ServerOp.shown
    (D.Standing req s₀) (fun s f => f.Holds D req s₀ s)
    (fun {_ _ _} op _ _ _ => expected_answer op)
    (fun {i _ g op} hinv hknown (hguard : D.Permits (req i) g op) => hinv.next hknown hguard)
    (fun {i _ g op _} _ hknown (hguard : D.Permits (req i) g op) hf =>
      hf.mono (grows_next hknown hguard))
    (fun {i _ g op _} hinv hknown (hguard : D.Permits (req i) g op) hf =>
      holds_answer hinv (hinv.next hknown hguard) (grows_next hknown hguard) hf)

end Cctf

import Cctf.Api.Teams
import Cctf.Library.Runs

/-!
# Joining at the same time

`join_team` reads the members of a team, and later clears the team and sets the
members it read, with its own account added.  This file runs any number of requests
for one team next to each other, statement by statement.

* `Succeeds` — the statements succeed, and a `SELECT` by id returns a row with it.
* `joinTeam_proper` — what a request does on its own account: it writes its own
  account into the team, touches no other team, and answers 200 only after that.
* `ClearsRestored` — the condition on a step: a request that clears the team clears
  nobody who is not going to be set again, by it or by another request.
* `no_join_lost` — **in a run of such steps nobody is lost**: at the end, whoever got
  200 and whoever was a member is a member.
* `join_lost` — two requests that both read before either writes: one is lost.
-/

namespace Cctf

open Pg Program Runs

/-! ## One request -/

section

variable (keys : List AccountId) (t : TeamId) (who : AccountId)

/-- A statement succeeds, on tables that have the accounts `keys`. -/
def Succeeds : (st : Statement) → st.Resp → Prop
  | .selectTeam id, .ok row => ∀ r : TeamRow, row = some r → r.id = id
  | .selectAccount id, .ok row => ∀ r : AccountRow, row = some r → r.id = id ∧ id ∈ keys
  | _, .ok _ => True
  | _, .error _ => False

/-- Has the request written its account into the team? -/
def markJoined (joined : Bool) : (st : Statement) → st.Resp → Bool
  | .updateAccount _, _ => true
  | _, _ => joined

/-- A request of the account `who` for the team `t` writes only what it should. -/
def Proper (_ : Bool) : Statement → Prop
  | .updateAccount row => row.id = who ∧ who ∈ keys ∧ row.teamId = some t
  | .clearMembers teamId => teamId = t
  | .setMember teamId _ => teamId = t
  | _ => True

/-- A request that answers 200 has joined. -/
def JoinedIfOk (joined : Bool) (r : HttpResponse) : Prop := r.status = 200 → joined = true

variable {keys t who}

theorem along_execute_bind {α : Type} {post : Bool → Except RepoError α → Prop} {g : Bool}
    {st : Statement} {f : st.Value → Sql α} (hproper : Proper keys t who g st)
    (hok : ∀ a, Succeeds keys st (.ok a) →
      Along (Succeeds keys) markJoined (Proper keys t who) post (markJoined g st (.ok a))
        (f a).run) :
    Along (Succeeds keys) markJoined (Proper keys t who) post g (execute st >>= f).run := by
  refine ⟨hproper, fun r hr => ?_⟩
  cases r with
  | ok a => exact hok a hr
  | error e => cases st <;> exact absurd hr id

/-- Reading a team gives a team with the id asked for. -/
theorem findTeam_proper {g : Bool} (id : TeamId) :
    Along (Succeeds keys) markJoined (Proper keys t who)
      (fun g' r => g' = g ∧ ∀ team, r = .ok (some team) → team.id = id) g
      (Pg.TeamRepo.findById id).run := by
  refine along_execute_bind trivial fun row hrow => ?_
  cases row with
  | none => exact ⟨rfl, by simp⟩
  | some row =>
    refine along_execute_bind trivial fun memberIds _ => ⟨rfl, fun team hteam => ?_⟩
    obtain rfl : mapTeam row memberIds = team := Option.some.inj (Except.ok.inj hteam)
    exact hrow row rfl

/-- Reading an account gives a stored account with the id asked for. -/
theorem findAccount_proper {g : Bool} (id : AccountId) :
    Along (Succeeds keys) markJoined (Proper keys t who)
      (fun g' r => g' = g ∧ ∀ account, r = .ok (some account) → account.id = id ∧ id ∈ keys) g
      (Pg.AccountRepo.findById id).run := by
  refine along_execute_bind trivial fun row hrow => ⟨rfl, fun account haccount => ?_⟩
  cases row with
  | none => exact absurd haccount (by simp)
  | some row =>
    obtain rfl : mapAccount row = account := Option.some.inj (Except.ok.inj haccount)
    exact hrow row rfl

/-- Writing the account into the team. -/
theorem updateAccount_proper {g : Bool} {account : Account} (hid : account.id = who)
    (hkey : who ∈ keys) (hteam : account.teamId = some t) :
    Along (Succeeds keys) markJoined (Proper keys t who) (fun g' _ => g' = true) g
      (Pg.AccountRepo.update account).run :=
  along_execute_bind ⟨hid, hkey, hteam⟩ fun _ _ => rfl

theorem setMembers_proper {g : Bool} (memberIds : List AccountId) :
    Along (Succeeds keys) markJoined (Proper keys t who) (fun g' _ => g' = g) g
      (Pg.TeamRepo.setMembers t memberIds).run := by
  induction memberIds with
  | nil => rfl
  | cons memberId rest ih => exact along_execute_bind rfl fun _ _ => ih

/-- Writing the team back. -/
theorem updateTeam_proper {g : Bool} {team : Team} (hid : team.id = t) :
    Along (Succeeds keys) markJoined (Proper keys t who) (fun g' _ => g' = g) g
      (Pg.TeamRepo.update team).run := by
  subst hid
  refine along_execute_bind trivial fun _ _ => ?_
  refine along_execute_bind rfl fun _ _ => ?_
  exact setMembers_proper team.memberIds

/-- **What a request does on its own account.** -/
theorem joinTeam_proper (C : InviteCrypto) (E : Engines) (secret : String)
    (scripts : String → Option String) {req : JoinRequest}
    (hvalid : (verifyInviteToken C req.token secret req.now).map Prod.fst = some t.val) :
    Along (Succeeds keys) markJoined (Proper keys t req.accountId) JoinedIfOk false
      (joinTeam C E secret scripts req) := by
  rw [joinTeam_of_valid hvalid, joinVerified]
  refine Along.bind (findTeam_proper t) fun g found hfound => ?_
  obtain ⟨rfl, hteam⟩ := hfound
  rcases found with e | (_ | team)
  · exact fun h => absurd h (by decide)
  · exact fun h => absurd h (by decide)
  have hid : team.id = t := hteam team rfl
  refine Along.bind (findAccount_proper req.accountId) fun g found hfound => ?_
  obtain ⟨rfl, haccount⟩ := hfound
  rcases found with e | (_ | account)
  · exact fun h => absurd h (by decide)
  · exact fun h => absurd h (by decide)
  obtain ⟨hself, hkey⟩ := haccount account rfl
  simp only
  cases bracketAllows E scripts team.bracket account with
  | false => exact fun h => absurd h (by decide)
  | true =>
    simp only [if_true]
    refine Along.bind (updateAccount_proper hself hkey (by rw [hid])) fun g result hjoined => ?_
    subst hjoined
    cases result with
    | error e => exact fun h => absurd h (by decide)
    | ok _ =>
      simp only
      by_cases hmember : req.accountId ∈ team.memberIds
      · rw [if_pos hmember]
        exact fun _ => rfl
      · rw [if_neg hmember]
        refine Along.bind (updateTeam_proper hid) fun g _ hg => ?_
        exact fun _ => hg

end

/-! ## Many requests -/

section

variable {ι : Type}

/-- Requests next to each other on one database. -/
abbrev Joins (ι : Type) : Type := Pool Statement Statement.Resp HttpResponse TeamTables ι

/-- Whatever happens, the request is going to set the account. -/
def WillSet (keys : List AccountId) (t : TeamId) (accountId : AccountId)
    (p : Program Statement Statement.Resp HttpResponse) : Prop :=
  Eventually (Succeeds keys) (fun st => st = .setMember t accountId) p

/-- The account is a member, or some request is going to make it one. -/
def Safe (keys : List AccountId) (t : TeamId) (P : Joins ι) (accountId : AccountId) : Prop :=
  accountId ∈ keys ∧
    (P.store.IsMember t accountId ∨ ∃ j, WillSet keys t accountId (P.prog j))

variable [DecidableEq ι]

/-- A request that clears the team now clears nobody who is not going to be set again,
by it or by another request. -/
def ClearsRestored (keys : List AccountId) (t : TeamId) (P : Joins ι) (i : ι) : Prop :=
  ∀ k, P.prog i = .call (.clearMembers t) k → ∀ accountId, P.store.IsMember t accountId →
    ∃ j, WillSet keys t accountId (P.prog j)

/-- What holds after every statement: each request goes on properly, and nobody who
was a member or has joined is lost. -/
structure JoinInv (keys : List AccountId) (t : TeamId) (who : ι → AccountId)
    (members : AccountId → Prop) (P : Joins ι) : Prop where
  stored : P.store.accountIds = keys
  proper : ∀ i, ∃ joined, Along (Succeeds keys) markJoined (Proper keys t (who i)) JoinedIfOk
    joined (P.prog i) ∧ (joined = true → Safe keys t P (who i))
  before : ∀ accountId, members accountId → Safe keys t P accountId

variable {keys : List AccountId} {t : TeamId} {who : ι → AccountId} {members : AccountId → Prop}
  {P : Joins ι}

omit [DecidableEq ι] in
theorem succeeds_read (hkeys : P.store.accountIds = keys) (st : Statement) :
    Succeeds keys st (TeamTables.handler.answer P.store st) := by
  cases st with
  | selectTeam id =>
    intro row hrow
    exact (Table.find?_eq_some_iff.1 hrow).2
  | selectAccount id =>
    intro row hrow
    obtain ⟨hmem, hid⟩ := Table.find?_eq_some_iff.1 hrow
    refine ⟨hid, ?_⟩
    rw [← hkeys, ← hid]
    exact List.mem_map_of_mem hmem
  | _ => trivial

/-- An account that is going to be set is set by the next statement, or still going to
be. -/
theorem WillSet.step {i j : ι} {st : Statement}
    {k : st.Resp → Program Statement Statement.Resp HttpResponse}
    (hkeys : P.store.accountIds = keys) (hcall : P.prog i = .call st k) {accountId : AccountId}
    (hkey : accountId ∈ keys) (hwill : WillSet keys t accountId (P.prog j)) :
    (P.step TeamTables.handler i).store.IsMember t accountId ∨
      ∃ j, WillSet keys t accountId ((P.step TeamTables.handler i).prog j) := by
  rw [Pool.step_of_call hcall]
  by_cases hj : j = i
  · subst hj
    rw [hcall] at hwill
    by_cases hset : st = .setMember t accountId
    · subst hset
      left
      apply TeamTables.isMember_setMember
      rw [hkeys]
      exact hkey
    · right
      refine ⟨j, ?_⟩
      simp only [Function.update_self]
      exact hwill.next hset (succeeds_read hkeys st)
  · right
    refine ⟨j, ?_⟩
    simp only [Function.update_of_ne hj]
    exact hwill

/-- **Nobody who is safe is lost in one step.** -/
theorem Safe.step {i : ι} {st : Statement}
    {k : st.Resp → Program Statement Statement.Resp HttpResponse} {g : Bool}
    (hkeys : P.store.accountIds = keys) (hcall : P.prog i = .call st k)
    (hproper : Proper keys t (who i) g st) (hclears : ClearsRestored keys t P i)
    {accountId : AccountId} (h : Safe keys t P accountId) :
    Safe keys t (P.step TeamTables.handler i) accountId := by
  obtain ⟨hkey, hsafe⟩ := h
  refine ⟨hkey, ?_⟩
  rcases hsafe with hmember | ⟨j, hwill⟩
  · by_cases hclear : ∃ id, st = .clearMembers id
    · obtain ⟨id, rfl⟩ := hclear
      obtain rfl : id = t := hproper
      obtain ⟨j, hwill⟩ := hclears k hcall accountId hmember
      exact hwill.step hkeys hcall hkey
    · left
      rw [Pool.step_of_call hcall]
      apply TeamTables.isMember_write hmember
      · intro id hid
        exact hclear ⟨id, hid⟩
      · rintro row rfl
        exact hproper.2.2
      · rintro id a rfl
        exact hproper
  · exact hwill.step hkeys hcall hkey

/-- **Every step that clears only what is restored keeps the invariant.** -/
theorem JoinInv.step (h : JoinInv keys t who members P) {i : ι}
    (hclears : ClearsRestored keys t P i) :
    JoinInv keys t who members (P.step TeamTables.handler i) := by
  cases hcall : P.prog i with
  | done r =>
    rw [Pool.step_of_done hcall]
    exact h
  | call st k =>
    obtain ⟨g, halong, hjoined⟩ := h.proper i
    rw [hcall] at halong
    have hproper : Proper keys t (who i) g st := halong.guard_of_call
    have hsafe : ∀ accountId, Safe keys t P accountId →
        Safe keys t (P.step TeamTables.handler i) accountId :=
      fun _ => Safe.step h.stored hcall hproper hclears
    constructor
    · rw [Pool.step_of_call hcall]
      exact (TeamTables.accountIds_write P.store st).trans h.stored
    · intro j
      by_cases hj : j = i
      · subst hj
        refine ⟨markJoined g st (TeamTables.handler.answer P.store st), ?_, fun hmark => ?_⟩
        · rw [Pool.step_of_call hcall]
          simp only [Function.update_self]
          exact halong.2 _ (succeeds_read h.stored st)
        · cases st with
          | updateAccount row =>
            obtain ⟨hid, hkey, hteam⟩ := hproper
            refine ⟨hkey, .inl ?_⟩
            rw [Pool.step_of_call hcall, ← hid]
            refine TeamTables.isMember_updateAccount ?_ hteam
            rw [h.stored, hid]
            exact hkey
          | _ => exact hsafe _ (hjoined hmark)
      · obtain ⟨g', halong', hjoined'⟩ := h.proper j
        refine ⟨g', ?_, fun hmark => hsafe _ (hjoined' hmark)⟩
        rw [Pool.step_of_call hcall]
        simp only [Function.update_of_ne hj]
        exact halong'
    · exact fun accountId hmember => hsafe accountId (h.before accountId hmember)

/-- The requests, before any of them has begun. -/
def joins (C : InviteCrypto) (E : Engines) (secret : String) (scripts : String → Option String)
    (s : TeamTables) (req : ι → JoinRequest) : Joins ι where
  store := s
  prog i := joinTeam C E secret scripts (req i)

/-- **No join is lost.**  For any number of requests with valid tokens for one team, in
every order of their statements in which a clear hits only accounts that are going to be
set again: when all have ended, every account that got 200 is a member, and so is every
account that was one before. -/
theorem no_join_lost {C : InviteCrypto} {E : Engines} {secret : String}
    {scripts : String → Option String} {s : TeamTables} {req : ι → JoinRequest}
    (hvalid : ∀ i, (verifyInviteToken C (req i).token secret (req i).now).map Prod.fst =
      some t.val)
    {schedule : List ι}
    (hclears : Each (Pool.step TeamTables.handler) (ClearsRestored s.accountIds t)
      (joins C E secret scripts s req) schedule)
    (hdone : ∀ i, ∃ r, (run (Pool.step TeamTables.handler) (joins C E secret scripts s req)
      schedule).prog i = .done r) :
    (∀ i r, (run (Pool.step TeamTables.handler) (joins C E secret scripts s req)
        schedule).prog i = .done r → r.status = 200 →
      (run (Pool.step TeamTables.handler) (joins C E secret scripts s req)
        schedule).store.IsMember t (req i).accountId) ∧
    ∀ accountId, s.IsMember t accountId →
      (run (Pool.step TeamTables.handler) (joins C E secret scripts s req)
        schedule).store.IsMember t accountId := by
  have hstart : JoinInv s.accountIds t (fun i => (req i).accountId) (s.IsMember t)
      (joins C E secret scripts s req) :=
    ⟨rfl, fun i => ⟨false, joinTeam_proper C E secret scripts (hvalid i), by simp⟩,
      fun accountId h => ⟨TeamTables.mem_accountIds_of_isMember h, .inl h⟩⟩
  have hstep : ∀ (Q : Joins ι) i,
      JoinInv s.accountIds t (fun i => (req i).accountId) (s.IsMember t) Q →
      ClearsRestored s.accountIds t Q i →
      JoinInv s.accountIds t (fun i => (req i).accountId) (s.IsMember t)
        (Q.step TeamTables.handler i) := fun _ _ h hG => h.step hG
  have hend := (always_of_each hstep hstart hclears).last
  have hmember : ∀ accountId, Safe s.accountIds t (run (Pool.step TeamTables.handler)
      (joins C E secret scripts s req) schedule) accountId →
      (run (Pool.step TeamTables.handler) (joins C E secret scripts s req)
        schedule).store.IsMember t accountId := by
    rintro accountId ⟨-, h | ⟨j, hwill⟩⟩
    · exact h
    · obtain ⟨r, hr⟩ := hdone j
      rw [hr] at hwill
      exact absurd hwill id
  constructor
  · intro i r hr hstatus
    obtain ⟨joined, halong, hsafe⟩ := hend.proper i
    rw [hr] at halong
    exact hmember _ (hsafe (halong hstatus))
  · exact fun accountId h => hmember _ (hend.before accountId h)

end

/-! ## Two requests that read first -/

/-- The HMAC of `red:9` under the secret `secret`. -/
def redMac : List UInt8 :=
  [70, 144, 238, 185, 197, 147, 88, 185, 62, 155, 255, 16, 218, 248, 79, 171, 253, 131, 62,
    124, 105, 198, 1, 38, 0, 16, 241, 238, 5, 118, 96, 219]

/-- The cryptography, on the one message and the one signature of the examples. -/
def redCrypto : InviteCrypto where
  hmacSha256 := fun secret message =>
    if secret = "secret" ∧ message = "red:9" then redMac else []
  base64Decode := fun s =>
    if s = "RpDuucWTWLk-m_8Q2vhPq_2DPnxpxgEmABDx7gV2YNs" then some redMac else none

/-- A player on a team, or on none. -/
def player (id : String) (teamId : Option TeamId) : AccountRow :=
  ⟨⟨id⟩, id, none, none, "Player", teamId, none, [], 0⟩

/-- The team `red` with its captain, and two accounts without a team. -/
def beforeJoins : TeamTables where
  teams := .single (.ofTeam (.plain "red" ["captain"]))
  accounts := ⟨[player "captain" (some ⟨"red"⟩), player "alice" none, player "bob" none], by decide⟩

/-- The request of an account with a valid token for `red`. -/
def joinRed (account : String) : JoinRequest :=
  ⟨"red:9:RpDuucWTWLk-m_8Q2vhPq_2DPnxpxgEmABDx7gV2YNs", ⟨account⟩, 0⟩

/-- The requests of some accounts for `red`. -/
abbrev joinsRed {ι : Type} (account : ι → String) : Joins ι :=
  joins redCrypto .silent "secret" (fun _ => none) beforeJoins fun i => joinRed (account i)

theorem valid_joinRed (account : String) :
    (verifyInviteToken redCrypto (joinRed account).token "secret" (joinRed account).now).map
      Prod.fst = some "red" := by
  show (verifyInviteToken redCrypto (joinRed "").token "secret" 0).map Prod.fst = some "red"
  decide +kernel

/-- The requests, past the token check. -/
theorem joinsRed_eq {ι : Type} (account : ι → String) :
    joinsRed account =
      ⟨beforeJoins, fun i => joinVerified .silent (fun _ => none) ⟨"red"⟩ ⟨account i⟩⟩ := by
  rw [joinsRed, joins]
  exact congrArg (Pool.mk beforeJoins)
    (funext fun i => joinTeam_of_valid (valid_joinRed (account i)))

/-- Alice joins alone, in eight statements. -/
theorem no_join_lost_alone :
    (∀ (i : Unit) r, (run (Pool.step TeamTables.handler) (joinsRed fun _ => "alice")
        (List.replicate 8 ())).prog i = .done r → r.status = 200 →
      (run (Pool.step TeamTables.handler) (joinsRed fun _ => "alice")
        (List.replicate 8 ())).store.IsMember ⟨"red"⟩ ⟨"alice"⟩) ∧
    ∀ accountId, beforeJoins.IsMember ⟨"red"⟩ accountId →
      (run (Pool.step TeamTables.handler) (joinsRed fun _ => "alice")
        (List.replicate 8 ())).store.IsMember ⟨"red"⟩ accountId := by
  refine no_join_lost (fun _ => valid_joinRed "alice") ?_ ?_
  · show Each _ _ (joinsRed fun _ : Unit => "alice") _
    rw [joinsRed_eq]
    refine ⟨?_, ?_, ?_, ?_, ?_, ?_, ?_, ?_, trivial⟩
    case refine_6 =>
      -- the clear: the captain and Alice are members, and both are set right after
      intro k _ accountId hmember
      obtain ⟨row, hrow, rfl, hteam⟩ := hmember
      change row ∈ [player "captain" (some ⟨"red"⟩), player "alice" (some ⟨"red"⟩),
        player "bob" none] at hrow
      refine ⟨(), ?_⟩
      simp only [List.mem_cons, List.not_mem_nil, or_false] at hrow
      rcases hrow with rfl | rfl | rfl
      · refine .inr fun r hr => ?_
        cases r with
        | ok _ => exact .inl rfl
        | error e => exact absurd hr id
      · refine .inr fun r hr => ?_
        cases r with
        | ok _ =>
          refine .inr fun r' hr' => ?_
          cases r' with
          | ok _ => exact .inl rfl
          | error e => exact absurd hr' id
        | error e => exact absurd hr id
      · exact absurd hteam (by decide)
    all_goals
      intro k hk
      exact absurd hk (by nofun)
  · show ∀ i, ∃ r, (Runs.run _ (joinsRed fun _ : Unit => "alice") _).prog i = .done r
    rw [joinsRed_eq]
    exact fun _ => ⟨⟨200, none⟩, rfl⟩

/-- Alice (`true`) and Bob (`false`). -/
def both (i : Bool) : String := if i then "alice" else "bob"

/-- Both read; then Alice goes to the end, then Bob. -/
def readFirst : List Bool :=
  List.replicate 3 true ++ List.replicate 3 false ++ List.replicate 5 true ++ List.replicate 5 false

/-- **A join is lost.**  Both requests have read the captain as the only member; Alice
ends first, then Bob clears the team and sets the captain and himself.  Both got 200. -/
theorem join_lost :
    (∀ i, (verifyInviteToken redCrypto (joinRed (both i)).token "secret"
      (joinRed (both i)).now).map Prod.fst = some "red") ∧
    (∀ i, (run (Pool.step TeamTables.handler) (joinsRed both) readFirst).prog i =
      .done ⟨200, none⟩) ∧
    ¬ (run (Pool.step TeamTables.handler) (joinsRed both) readFirst).store.IsMember
      ⟨"red"⟩ ⟨"alice"⟩ := by
  rw [joinsRed_eq]
  refine ⟨fun i => valid_joinRed (both i), fun i => ?_, fun h => ?_⟩
  · cases i <;> rfl
  · obtain ⟨row, hrow, hid, hteam⟩ := h
    change row ∈ [player "captain" (some ⟨"red"⟩), player "alice" none,
      player "bob" (some ⟨"red"⟩)] at hrow
    simp only [List.mem_cons, List.not_mem_nil, or_false] at hrow
    rcases hrow with rfl | rfl | rfl
    · exact absurd hid (by decide)
    · exact absurd hteam (by decide)
    · exact absurd hid (by decide)

end Cctf

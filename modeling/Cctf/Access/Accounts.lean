import Cctf.Access.Safety
import Cctf.Teams.Membership

/-!
# From registration to login

What a password is good for, once it is registered: whatever other requests do in between,
and however their calls are interleaved with those of the login.

* `loginReply` — what a login replies, by what the database returns for the name.
* `signing` — what a login remembers, and the answers that it gets while its account is there.
* `Deployment.Replies` — what is replied to it: by the password, or as a call of it was answered.
* `login_after_register` — **a registered password opens the account, and no other does**.
* `registered_once` — no name is registered twice.
* `one_account_per_user` — **who signs in at CTFtime always gets the same account**.
-/

namespace Cctf

open Program Pg Knowledge

/-! ## The calls of a login -/

section

variable (D : Deployment) (req : HttpRequest)

/-- What is replied to a login, for the rows of the name. -/
def Deployment.loginReply (password : String) (now : Int64) :
    Except RepoError (Option AccountRow) → Reply
  | .error e => (ServiceError.repo e).reply req.lang
  | .ok row =>
    match loginVerdict D.argon2 D.jwt D.jwtSecret (row.map mapAccount) password now with
    | .ok token => ⟨200, .token token⟩
    | .error e => e.reply req.lang

/-- A login that has passed the limiter. -/
def Deployment.admittedLogin (username password : String) (now : Int64) : Serving Reply :=
  .call (.query (.selectAccountByUsername username)) fun row =>
    .done (D.loginReply req password now row)

variable {D req}

/-- **A login makes two calls**: to the limiter, and to the database. -/
theorem handle_login {checkedAt : ℤ} {username password : String} {now : Int64}
    (hreq : req.endpoint = .login checkedAt username password now) :
    D.handle req = .call (.app (.checkLimit ("auth-ip:" ++ D.ip req) 5 60 checkedAt))
      fun (allowed : Bool) => if allowed then D.admittedLogin req username password now
        else .done (ServiceError.rateLimitExceeded.reply req.lang) := by
  rw [Deployment.handle, hreq]
  refine congrArg (Program.call _) (funext fun (allowed : Bool) => ?_)
  cases allowed with
  | false => rfl
  | true =>
    show onDatabase (Cctf.login _ _ _ _ _ _ _).run >>= _ = _
    rw [run_login]
    refine congrArg (Program.call _) (funext fun row => ?_)
    cases row with
    | error e => rfl
    | ok row =>
      show (match loginVerdict _ _ _ _ _ _ with | .ok _ => _ | .error _ => _) =
        Program.done (match loginVerdict _ _ _ _ _ _ with | .ok _ => _ | .error _ => _)
      cases loginVerdict D.argon2 D.jwt D.jwtSecret (row.map mapAccount) password now with
      | ok token => rfl
      | error e => rfl

end

/-! ## What a login finds -/

/-- There is one account with a name. -/
theorem Pg.TeamTables.eq_of_username {s : TeamTables} (hdistinct : s.Distinct) {a a' : Account}
    (ha : a ∈ s.identities) (ha' : a' ∈ s.identities) (hname : a.username = a'.username) :
    a = a' := by
  obtain ⟨row, hrow, rfl⟩ := List.mem_map.mp ha
  obtain ⟨row', hrow', rfl⟩ := List.mem_map.mp ha'
  rw [List.inj_on_of_nodup_map hdistinct.usernames hrow hrow' hname]

/-- The account with a name is found. -/
theorem Pg.TeamTables.find_username {s : TeamTables} (hdistinct : s.Distinct) {a : Account}
    (ha : a ∈ s.identities) : ∃ row, row.identity = a ∧
      s.accounts.rows.find? (fun row => row.username = a.username) = some row := by
  obtain ⟨stored, hstored, rfl⟩ := List.mem_map.mp ha
  cases hfind : s.accounts.rows.find? fun row => row.username = stored.identity.username with
  | none =>
    have hnot := List.find?_eq_none.mp hfind stored hstored
    exact absurd (decide_eq_true rfl) hnot
  | some row =>
    have hname : row.username = stored.identity.username := by simpa using List.find?_some hfind
    have hmem := List.mem_of_find?_eq_some hfind
    rw [List.inj_on_of_nodup_map hdistinct.usernames hmem hstored hname]
    exact ⟨stored, rfl, rfl⟩

section

variable {D : Deployment} {req : HttpRequest}

/-- What a login remembers, and the answers that it gets while the account is there. -/
def signing (a : Account) : Knowledge ServerOp ServerOp.Resp (Σ op : ServerOp, op.Resp) :=
  .recording fun
    | .query (.selectAccountByUsername username), r => username = a.username →
      (∃ e, r = Except.error e) ∨ ∃ row : AccountRow, r = Except.ok (some row) ∧ row.identity = a
    | _, _ => True

/-- What is replied to a login for an account: what its password deserves, or what an answer to one
of its two calls does. -/
def Deployment.Replies (D : Deployment) (req : HttpRequest) (a : Account) (checkedAt : ℤ)
    (password : String) (now : Int64) (answered : (op : ServerOp) → op.Resp → Prop)
    (reply : Reply) : Prop :=
  (reply = ServiceError.rateLimitExceeded.reply req.lang ∧
    answered (.app (.checkLimit ("auth-ip:" ++ D.ip req) 5 60 checkedAt)) false) ∨
  (∃ e, reply = (ServiceError.repo e).reply req.lang ∧
    answered (.query (.selectAccountByUsername a.username)) (Except.error e)) ∨
  reply = match loginVerdict D.argon2 D.jwt D.jwtSecret (some a) password now with
    | .ok token => ⟨200, .token token⟩
    | .error e => e.reply req.lang

/-- **A login, by the answers to its calls.** -/
theorem handle_signing {a : Account} {checkedAt : ℤ} {password : String} {now : Int64}
    (hreq : req.endpoint = .login checkedAt a.username password now) :
    (signing a).Learns [] (D.handle req) fun known reply =>
      D.Replies req a checkedAt password now (fun op r => ⟨op, r⟩ ∈ known) reply := by
  rw [handle_login hreq]
  refine Learns.call trivial fun allowed _ => ?_
  cases (allowed : Bool) with
  | false => exact Learns.pure (.inl ⟨rfl, List.mem_cons_self⟩)
  | true =>
    refine Learns.call trivial fun found hfound => Learns.pure (.inr ?_)
    rcases hfound rfl with ⟨e, rfl⟩ | ⟨row, rfl, rfl⟩
    · exact .inl ⟨e, rfl, List.mem_cons_self⟩
    · exact .inr rfl

/-- The database answers as expected while the account is there. -/
theorem signing_answer {B : Backend} {s : Server} {a : Account}
    (ha : a ∈ s.db.tables.identities) (op : ServerOp) :
    (signing a).may op ((Server.handler B).answer s op) := by
  cases op with
  | query q =>
    cases q with
    | selectAccountByUsername username =>
      rintro rfl
      rcases Server.answer_query (B := B) (s := s) (.selectAccountByUsername a.username) with
        ⟨e, he⟩ | ⟨row, hrow, hperform⟩
      · exact .inl ⟨e, he⟩
      · obtain ⟨rfl, -⟩ := Prod.mk.inj (Except.ok.inj (Query.store_of_perform hperform))
        obtain ⟨row, hidentity, hfind⟩ := TeamTables.find_username s.db.distinct ha
        exact .inr ⟨row, hrow.trans (congrArg Except.ok hfind), hidentity⟩
    | _ => trivial
  | _ => trivial

end

section

variable {ι : Type} [DecidableEq ι] {D : Deployment} {B : Backend} {req : ι → HttpRequest}
  {s₀ : Server}

/-- What the columns keep of the account of a reply is there from then on. -/
theorem registered_after {i : ι} {r : Reply} {account : Account} {before : List ι}
    (hdone : (D.after B req s₀ before).prog i = .done r) (hbody : r.body = .account account) :
    D.Registers (req i) account ∧ ∃ row, (AccountRow.ofAccount account).kept = some row ∧
      ∀ rest, row.identity ∈ (D.after B req s₀ (before ++ rest)).store.db.tables.identities := by
  obtain ⟨known, -, hpromised⟩ := promised_after hdone
  rw [hbody] at hpromised
  obtain ⟨⟨row, hkept, -⟩, hregisters⟩ := hpromised
  refine ⟨hregisters, row, hkept, fun rest => ?_⟩
  have hstays : (D.after B req s₀ (before ++ rest)).prog i = .done r := by
    rw [Deployment.after, Pool.run_append]
    exact Pool.done_run hdone rest
  obtain ⟨known, hknown, hpromised⟩ := promised_after hstays
  rw [hbody] at hpromised
  obtain ⟨⟨row', hkept', hknows⟩, -⟩ := hpromised
  obtain rfl := Option.some.inj (hkept.symm.trans hkept')
  exact hknown _ (hknows List.mem_cons_self)

/-- **A registered password opens the account, and no other does**: whatever other requests do,
a login for the name that begins after the registration was answered is refused because the
limiter refused it, or fails because its look-up did, or gets a session of the account if the
password is the one that was registered, and an error if not.  The name is the registered one as
its column keeps it. -/
theorem login_after_register (hargon : ∀ salt password hashed,
      D.argon2.hashPassword salt password = some hashed → D.argon2.Recognizes hashed password)
    (hlength : ∀ salt password hashed,
      D.argon2.hashPassword salt password = some hashed → hashed.length ≤ 255)
    {i j : ι} {before rest : List ι} {r reply : Reply} {account : Account} {name : String}
    {checkedAt : ℤ} {attempt : String} {now : Int64}
    (hregistered : (D.after B req s₀ before).prog i = .done r) (hbody : r.body = .account account)
    (hname : kept 255 account.username = some name)
    (hlogin : (req j).endpoint = .login checkedAt name attempt now)
    (hwaiting : (D.after B req s₀ before).prog j = D.handle (req j))
    (hdone : (D.after B req s₀ (before ++ rest)).prog j = .done reply) :
    ∃ salt fresh registeredAt email password,
      (req i).endpoint = .register salt fresh registeredAt account.username email password ∧
      ((reply = ServiceError.rateLimitExceeded.reply (req j).lang ∧
          Pool.Answered (Server.handler B)
            ((D.serving req s₀).trace (Server.handler B) (before ++ rest)) j
            (.app (.checkLimit ("auth-ip:" ++ D.ip (req j)) 5 60 checkedAt)) false) ∨
        (∃ e, reply = (ServiceError.repo e).reply (req j).lang ∧
          Pool.Answered (Server.handler B)
            ((D.serving req s₀).trace (Server.handler B) (before ++ rest)) j
            (.query (.selectAccountByUsername name)) (Except.error e)) ∨
        reply = if attempt = password
          then ⟨200, .token (sessionTokenOf D.jwt D.jwtSecret account.id now)⟩
          else (ServiceError.invalidRequest "auth-invalid-credentials").reply (req j).lang) := by
  obtain ⟨⟨salt, fresh, registeredAt, username, email, password, hashed, hreq, hhash, rfl⟩, row,
    hkept, hthere⟩ := registered_after hregistered hbody
  refine ⟨salt, fresh, registeredAt, email, password, hreq, ?_⟩
  obtain ⟨name', email', passwordHash, hname', -, hpassword, rfl⟩ :=
    AccountRow.kept_eq_some_iff.mp hkept
  obtain rfl := Option.some.inj (hname.symm.trans hname')
  -- the hash fits its column
  obtain rfl : some hashed = passwordHash := by
    refine Option.some.inj (Eq.trans ?_ hpassword)
    exact (keptIfAny_of_length_le fun s hs => Option.some.inj hs ▸ hlength _ _ _ hhash).symm
  obtain ⟨known, hanswered, hreplies⟩ := recorded (Q := fun known reply =>
      D.Replies (req j) _ checkedAt attempt now (fun op r => ⟨op, r⟩ ∈ known) reply)
    (hwaiting ▸ handle_signing hlogin) (fun rest => signing_answer (hthere rest)) hdone
  rcases hreplies with ⟨hreply, hlimited⟩ | ⟨e, hreply, hfailed⟩ | hreply
  · exact .inl ⟨hreply, hanswered _ _ hlimited⟩
  · exact .inr (.inl ⟨e, hreply, hanswered _ _ hfailed⟩)
  · refine .inr (.inr (hreply.trans ?_))
    rw [loginVerdict_of_recognizes rfl (hargon salt password hashed hhash)]
    by_cases hattempt : attempt = password
    · rw [if_pos hattempt, if_pos hattempt]
      rfl
    · rw [if_neg hattempt, if_neg hattempt]

/-- Bob registers, and then signs in. -/
def bobRequests : Bool → HttpRequest
  | true => ⟨[], none, 0, .register "salt" ⟨⟨"bob-id"⟩, ⟨"team-id"⟩, 0, 0, 0⟩ 0 "bob" none "rose"⟩
  | false => ⟨[], none, 0, .login 10 "bob" "rose" 10⟩

/-- The sample hashes verify one password each, and are short. -/
theorem argon2_small {salt password hashed : String}
    (h : smallDeployment.argon2.hashPassword salt password = some hashed) :
    smallDeployment.argon2.Recognizes hashed password ∧ hashed.length ≤ 255 := by
  have hfilter : (some ("$" ++ password)).filter (fun hashed => hashed.length ≤ 255) =
      some hashed := h
  obtain ⟨heq, hlength⟩ := Option.filter_eq_some_iff.mp hfilter
  obtain rfl : "$" ++ password = hashed := Option.some.inj heq
  refine ⟨fun attempt => ?_, of_decide_eq_true hlength⟩
  show decide ("$" ++ password = "$" ++ attempt) = true ↔ _
  rw [decide_eq_true_iff, ← String.toList_inj, String.toList_append, String.toList_append,
    List.append_cancel_left_eq, String.toList_inj, eq_comm]

/-- Bob gets his session. -/
theorem login_after_register_bob : ∃ reply,
    (smallDeployment.after smallBackend bobRequests smallServer
      ([true, true, true] ++ [false, false])).prog false = .done reply ∧
    reply = ⟨200, .token (sessionTokenOf Jwt.sharedCrates Jwt.sampleSecret ⟨"bob-id"⟩ 10)⟩ := by
  have hregister : ((smallDeployment.after smallBackend bobRequests smallServer
      [true, true, true]).prog true).value?.any (fun reply =>
        match reply.body with
        | .account account => decide (account.username = "bob" ∧ account.id = ⟨"bob-id"⟩)
        | _ => false) = true := by decide +kernel
  have hlogin : ((smallDeployment.after smallBackend bobRequests smallServer
      ([true, true, true] ++ [false, false])).prog false).value?.any
        (fun reply => decide (reply.status = 200)) = true := by decide +kernel
  obtain ⟨r, hvalue, haccount⟩ := (Option.any_eq_true _ _).mp hregister
  obtain ⟨reply, hvalue', hstatus⟩ := (Option.any_eq_true _ _).mp hlogin
  have hdone := Program.value?_eq_some_iff.mp hvalue'
  split at haccount
  · rename_i account hbody
    obtain ⟨hname, hid⟩ := of_decide_eq_true haccount
    have hkept : kept 255 account.username = some "bob" := by
      rw [hname]
      exact kept_of_length_le (by decide)
    have hreq : (bobRequests false).endpoint = .login 10 "bob" "rose" 10 := rfl
    obtain ⟨salt, fresh, registeredAt, email, password, hregisters, hreply⟩ :=
      login_after_register (fun _ _ _ h => (argon2_small h).1) (fun _ _ _ h => (argon2_small h).2)
        (Program.value?_eq_some_iff.mp hvalue) hbody hkept hreq
        (waiting_of_not_mem (by decide)) hdone
    rw [hname] at hregisters
    cases hregisters
    rw [if_pos rfl, hid] at hreply
    refine ⟨reply, hdone, ?_⟩
    rcases hreply with ⟨rfl, -⟩ | ⟨e, rfl, -⟩ | hreply
    · exact absurd (of_decide_eq_true hstatus) (by decide)
    · have hne : (ServiceError.repo e).status ≠ 200 := by
        cases e <;> simp [ServiceError.status]
      exact absurd (of_decide_eq_true hstatus) hne
    · exact hreply
  · cases haccount

/-- **No name is registered twice**, if the ids are fresh: of all registrations for a name, next
to each other or one after the other, at most one is answered with an account. -/
theorem registered_once {schedule : List ι}
    (hfresh : ∀ i j a b, D.Registers (req i) a → D.Registers (req j) b → a.id = b.id → i = j)
    {i j : ι} {r r' : Reply} {a b : Account}
    (hi : (D.after B req s₀ schedule).prog i = .done r) (ha : r.body = .account a)
    (hj : (D.after B req s₀ schedule).prog j = .done r') (hb : r'.body = .account b)
    (hij : i ≠ j) : a.username ≠ b.username := by
  intro hname
  obtain ⟨hregisters, row, hkept, hthere⟩ := registered_after hi ha
  obtain ⟨hregisters', row', hkept', hthere'⟩ := registered_after hj hb
  obtain ⟨_, _, _, hstored, -, -, rfl⟩ := AccountRow.kept_eq_some_iff.mp hkept
  obtain ⟨_, _, _, hstored', -, -, rfl⟩ := AccountRow.kept_eq_some_iff.mp hkept'
  -- two equal names are one name in the column
  have hsame := Option.some.inj (hstored.symm.trans ((congrArg (kept 255) hname).trans hstored'))
  have heq := TeamTables.eq_of_username (Server.db _).distinct (hthere []) (hthere' []) hsame
  have hid : a.id = b.id := by injection heq
  exact hij (hfresh i j a b hregisters hregisters' hid)

/-- Bob and Carol register. -/
def twoRegister : Bool → HttpRequest
  | true => ⟨[], none, 0, .register "salt" ⟨⟨"bob-id"⟩, ⟨"team-id"⟩, 0, 0, 0⟩ 0 "bob" none "rose"⟩
  | false =>
    ⟨[], none, 0, .register "salt" ⟨⟨"carol-id"⟩, ⟨"team-id"⟩, 0, 0, 0⟩ 0 "carol" none "iris"⟩

/-- Next to each other they get two names. -/
theorem registered_once_two : ∃ a b : Account,
    (∃ r, (smallDeployment.after smallBackend twoRegister smallServer
      [true, false, true, false, true, false]).prog true = .done r ∧ r.body = .account a) ∧
    (∃ r, (smallDeployment.after smallBackend twoRegister smallServer
      [true, false, true, false, true, false]).prog false = .done r ∧ r.body = .account b) ∧
    a.username ≠ b.username := by
  have hreplies : ∀ i, ((smallDeployment.after smallBackend twoRegister smallServer
      [true, false, true, false, true, false]).prog i).value?.any (fun reply =>
        reply.body matches .account _) = true := by decide +kernel
  have haccount : ∀ i, ∃ r a, (smallDeployment.after smallBackend twoRegister smallServer
      [true, false, true, false, true, false]).prog i = .done r ∧ r.body = .account a := by
    intro i
    obtain ⟨r, hvalue, hmatches⟩ := (Option.any_eq_true _ _).mp (hreplies i)
    split at hmatches
    · rename_i a hbody
      exact ⟨r, a, Program.value?_eq_some_iff.mp hvalue, hbody⟩
    · cases hmatches
  have hfresh : ∀ i j a b, smallDeployment.Registers (twoRegister i) a →
      smallDeployment.Registers (twoRegister j) b → a.id = b.id → i = j := by
    rintro i j a b ⟨salt, fresh, _, _, _, _, _, hreq, -, rfl⟩
      ⟨salt', fresh', _, _, _, _, _, hreq', -, rfl⟩ hid
    have hids : "bob-id" ≠ "carol-id" := by decide
    cases i <;> cases j <;> cases hreq <;> cases hreq'
    · rfl
    · exact absurd (congrArg AccountId.val hid).symm hids
    · exact absurd (congrArg AccountId.val hid) hids
    · rfl
  obtain ⟨r, a, hi, ha⟩ := haccount true
  obtain ⟨r', b, hj, hb⟩ := haccount false
  exact ⟨a, b, ⟨r, hi, ha⟩, ⟨r', hj, hb⟩, registered_once hfresh hi ha hj hb (by decide)⟩

/-! ## CTFtime -/

omit [DecidableEq ι] in
/-- There is one account of a CTFtime user. -/
theorem Pg.TeamTables.eq_of_ctftimeId {s : TeamTables} (hdistinct : s.Distinct) {a a' : Account}
    (ha : a ∈ s.identities) (ha' : a' ∈ s.identities) {id : UInt32}
    (hid : a.ctftimeId = some id) (hid' : a'.ctftimeId = some id) : a = a' := by
  obtain ⟨row, hrow, rfl⟩ := List.mem_map.mp ha
  obtain ⟨row', hrow', rfl⟩ := List.mem_map.mp ha'
  have hcolumn : ∀ r : AccountRow, r.identity.ctftimeId = some id →
      r.ctftimeId = some id.toInt32 := by
    intro r hr
    obtain ⟨n, hn, rfl⟩ := Option.map_eq_some_iff.mp hr
    rw [hn, Int32.toInt32_toUInt32]
  by_contra hne
  have hrows : row ≠ row' := fun heq => hne (by rw [heq])
  -- the column is unique, where it is not null
  have hpairwise := List.pairwise_filterMap.mp hdistinct.accountCtftimeIds
  have hsymm : Std.Symm fun r r' : AccountRow => ∀ n, r.ctftimeId = some n →
      ∀ n', r'.ctftimeId = some n' → n ≠ n' :=
    ⟨fun r r' h n hn n' hn' heq => h n' hn' n hn heq.symm⟩
  exact hpairwise.forall hrow hrow' hrows _ (hcolumn row hid) _ (hcolumn row' hid') rfl

/-- The account of a CTFtime session, with the user whose profile was fetched. -/
theorem signedIn_after {schedule : List ι} {i : ι} {r : Reply} {token : String}
    {ctftime : Ctftime} {rounds : ℕ} {fresh : Fresh} {code : String}
    {profile : CtfTimeUserProfile} (hdone : (D.after B req s₀ schedule).prog i = .done r)
    (hbody : r.body = .token token)
    (hreq : (req i).endpoint = .oauthCallback ctftime rounds fresh code)
    (hprofile : fetchProfile ctftime code = .ok profile) :
    ∃ account ∈ (D.after B req s₀ schedule).store.db.tables.identities,
      account.ctftimeId = some profile.id ∧
      token = sessionTokenOf D.jwt D.jwtSecret account.id fresh.issuedAt := by
  obtain ⟨known, hknown, hpromised⟩ := promised_after hdone
  rw [hbody] at hpromised
  obtain ⟨account, now, hknows, hsigns, rfl⟩ := hpromised
  refine ⟨_, hknown _ (hknows List.mem_cons_self), ?_⟩
  rcases hsigns with ⟨_, _, _, _, hlogin, -⟩ | ⟨_, _, _, _, profile', hcallback, hfetch, hid, hnow⟩
  · rw [hreq] at hlogin
    cases hlogin
  · rw [hreq] at hcallback
    cases hcallback
    rw [hprofile] at hfetch
    cases hfetch
    exact ⟨hid, by rw [hnow]⟩

/-- **A CTFtime user has one account, and every account has one CTFtime user**: of the sign-ins
of a run, next to each other or one after the other, two get sessions of one account exactly if
the profiles that CTFtime gave for their codes are of one user. -/
theorem one_account_per_user {schedule : List ι} {i j : ι} {r r' : Reply} {token token' : String}
    {ctftime ctftime' : Ctftime} {rounds rounds' : ℕ} {fresh fresh' : Fresh} {code code' : String}
    {profile profile' : CtfTimeUserProfile}
    (hi : (D.after B req s₀ schedule).prog i = .done r) (hbody : r.body = .token token)
    (hreq : (req i).endpoint = .oauthCallback ctftime rounds fresh code)
    (hprofile : fetchProfile ctftime code = .ok profile)
    (hj : (D.after B req s₀ schedule).prog j = .done r') (hbody' : r'.body = .token token')
    (hreq' : (req j).endpoint = .oauthCallback ctftime' rounds' fresh' code')
    (hprofile' : fetchProfile ctftime' code' = .ok profile') :
    ∃ a ∈ (D.after B req s₀ schedule).store.db.tables.identities,
      ∃ b ∈ (D.after B req s₀ schedule).store.db.tables.identities,
        token = sessionTokenOf D.jwt D.jwtSecret a.id fresh.issuedAt ∧
        token' = sessionTokenOf D.jwt D.jwtSecret b.id fresh'.issuedAt ∧
        (a.id = b.id ↔ profile.id = profile'.id) := by
  obtain ⟨a, ha, hid, htoken⟩ := signedIn_after hi hbody hreq hprofile
  obtain ⟨b, hb, hid', htoken'⟩ := signedIn_after hj hbody' hreq' hprofile'
  refine ⟨a, ha, b, hb, htoken, htoken', fun hsame => ?_, fun hsame => ?_⟩
  · obtain rfl := TeamTables.eq_of_mem_identities ha hb hsame
    exact Option.some.inj (hid.symm.trans hid')
  · rw [← hsame] at hid'
    rw [TeamTables.eq_of_ctftimeId (Server.db _).distinct ha hb hid hid']

/-- Alice signs in at CTFtime, twice at the same time; she has got another name in between. -/
def aliceReturns (first : Bool) : HttpRequest :=
  ⟨[], none, 0, .oauthCallback (ctftimeOf ⟨7, if first then "red-alice" else "alice-7", none⟩) 2
    ⟨⟨if first then "id-1" else "id-2"⟩, ⟨"team-id"⟩, 0, 0, 0⟩ "code"⟩

/-- Both sessions are of one account. -/
theorem one_account_per_user_alice :
    ∃ a ∈ (smallDeployment.after smallBackend aliceReturns smallServer
      [true, true, true, true, false, false]).store.db.tables.identities, ∀ i,
      ∃ r, (smallDeployment.after smallBackend aliceReturns smallServer
        [true, true, true, true, false, false]).prog i = .done r ∧
        r.body = .token (sessionTokenOf Jwt.sharedCrates Jwt.sampleSecret a.id 0) := by
  have hreplies : ∀ i, ((smallDeployment.after smallBackend aliceReturns smallServer
      [true, true, true, true, false, false]).prog i).value?.any (fun reply =>
        reply.body matches .token _) = true := by decide +kernel
  have htoken : ∀ i, ∃ r token, (smallDeployment.after smallBackend aliceReturns smallServer
      [true, true, true, true, false, false]).prog i = .done r ∧ r.body = .token token := by
    intro i
    obtain ⟨r, hvalue, hmatches⟩ := (Option.any_eq_true _ _).mp (hreplies i)
    split at hmatches
    · rename_i token hbody
      exact ⟨r, token, Program.value?_eq_some_iff.mp hvalue, hbody⟩
    · cases hmatches
  obtain ⟨r, token, hi, hbody⟩ := htoken true
  obtain ⟨r', token', hj, hbody'⟩ := htoken false
  obtain ⟨a, ha, b, -, rfl, rfl, hsame⟩ :=
    one_account_per_user hi hbody rfl rfl hj hbody' rfl rfl
  refine ⟨a, ha, fun i => ?_⟩
  cases i with
  | true => exact ⟨r, hi, hbody⟩
  | false =>
    rw [hsame.mpr rfl]
    exact ⟨r', hj, hbody'⟩

end

end Cctf

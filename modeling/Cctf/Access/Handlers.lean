import Cctf.Access.Calls
import Cctf.Access.Methods

/-!
# What the endpoints call, and reply

Every endpoint, as a program that calls only what its request may, by what it has read.

* `SignsIn`, `Promised` — what a reply with a token or an invite says about who asked for it.
* `administrator_learns` — behind `AdminUser` everything may be called.
* `handle_keeps` — **every endpoint keeps to what its request may**, and replies as promised.
-/

namespace Cctf

open Program Pg Knowledge

/-! ## What a reply promises -/

section

variable (D : Deployment) (req : HttpRequest)

/-- The request proves that it comes from the account, by its password or by a code of CTFtime,
and its session starts at the time. -/
def Deployment.SignsIn (account : Account) (now : Int64) : Prop :=
  (∃ checkedAt username password storedHash,
    req.endpoint = .login checkedAt username password now ∧ account.username = username ∧
    account.passwordHash = some storedHash ∧
    D.argon2.verifyPassword password storedHash = true) ∨
  ∃ ctftime rounds fresh code profile, req.endpoint = .oauthCallback ctftime rounds fresh code ∧
    fetchProfile ctftime code = .ok profile ∧ account.ctftimeId = some profile.id ∧
    fresh.issuedAt = now

/-- The request registers the account, with a hash of its password. -/
def Deployment.Registers (account : Account) : Prop :=
  ∃ salt fresh checkedAt username email password hashed,
    req.endpoint = .register salt fresh checkedAt username email password ∧
    D.argon2.hashPassword salt password = some hashed ∧
    account = registeredAccount fresh username email hashed

/-- The request is of the captain, and asks for this invite. -/
def Deployment.Invites (row : TeamRow) (token : String) (expiresAt : Int64) : Prop :=
  D.user req = .ok row.captainId ∧ ∃ lifespanHours now,
    req.endpoint = .createInvite row.id.val lifespanHours now ∧
    expiresAt = now + lifespan lifespanHours * 3600 ∧
    token = Jwt.generateInviteToken D.jwt row.id.val expiresAt D.jwtSecret

/-- What a reply says, by what is known. -/
def Deployment.Promised (known : List Fact) : ReplyBody → Prop
  | .account account =>
    (∃ row, (AccountRow.ofAccount account).kept = some row ∧ Knows known (mapAccount row)) ∧
      D.Registers req account
  | .token token => ∃ account now, Knows known account ∧ D.SignsIn req account now ∧
    token = sessionTokenOf D.jwt D.jwtSecret account.id now
  | .invite token expiresAt => ∃ row, Fact.team row ∈ known ∧ D.Invites req row token expiresAt
  | _ => True

/-- A program of the server that keeps to what its request may, and replies as promised. -/
abbrev Deployment.Keeps (known : List Fact) (p : Serving Reply) : Prop :=
  (D.knowledge req).Learns known p fun known' reply => D.Promised req known' reply.body

end

section

variable {D : Deployment} {req : HttpRequest} {known : List Fact} {α : Type}

/-- A reply that promises nothing. -/
theorem keeps_pure {reply : Reply} (h : ∀ known', D.Promised req known' reply.body) :
    D.Keeps req known (pure reply) :=
  Learns.pure (h known)

theorem keeps_error (e : LocalizedError) : D.Keeps req known (pure e.reply) :=
  keeps_pure fun _ => trivial

theorem keeps_serviceError (lang : String) (e : ServiceError) :
    D.Keeps req known (pure (e.reply lang)) :=
  keeps_pure fun _ => trivial

/-! ## Parts of a handler -/

/-- A program of the account and team repositories. -/
theorem learns_onDatabase {p : Program Query Query.Resp α} {P : List Fact → α → Prop}
    (h : (D.queries req).Learns known p P) :
    (D.knowledge req).Learns known (onDatabase p) P := by
  refine Learns.lift ?_ ?_ ?_ h
  · exact fun _ _ hr => hr
  · exact fun _ _ => rfl
  · exact fun _ _ hguard => hguard

theorem IsAdmin.more {known' : List Fact} (h : D.IsAdmin req known) (hsub : known ⊆ known') :
    D.IsAdmin req known' :=
  h.imp fun _ ha => ⟨hsub ha.1, ha.2⟩

/-- A part that makes only calls which everybody may make. -/
theorem learns_of_free {p : Serving α} (h : p.Calls fun op => ∀ known, D.Permits req known op) :
    (D.knowledge req).Learns known p fun _ _ => True :=
  Learns.of_calls (fun known' _ _ hfree => hfree known') (fun _ _ _ => trivial) h

/-- A part that an administrator's request runs. -/
theorem learns_of_admin (hadmin : D.IsAdmin req known) {p : Serving α}
    (h : p.Calls fun op => ∀ known', D.IsAdmin req known' → D.Permits req known' op) :
    (D.knowledge req).Learns known p fun _ _ => True :=
  Learns.of_calls (fun known' _ hsub hop => hop known' (IsAdmin.more hadmin hsub))
    (fun _ _ _ => trivial) h

/-- A call that only reads, everybody may make. -/
theorem permits_of_reads {op : AppOp} (h : op.Reads) (known : List Fact) :
    D.Permits req known (.app op) := by
  cases op with
  | repo op =>
    cases op with
    | submissionSave sub => cases h
    | hintSave unlock => cases h
    | _ => exact fun hprivileged => hprivileged.elim
  | broadcast n => exact h.elim
  | checkLimit key limit windowSecs now => exact h.elim
  | accountFindById id => exact fun hprivileged => hprivileged.elim

/-- What a request knows, in programs of the players' handlers. -/
def Deployment.apps (D : Deployment) (req : HttpRequest) : Knowledge AppOp AppOp.Resp Fact where
  may op r := ServerOp.Expected (.app op) r
  shown op r := ServerOp.shown (.app op) r
  guard known op := D.Permits req known (.app op)

theorem learns_onApp {p : Api α} {P : List Fact → α → Prop} (h : (D.apps req).Learns known p P) :
    (D.knowledge req).Learns known (onApp p) P := by
  refine Learns.lift ?_ ?_ ?_ h
  · exact fun _ _ hr => hr
  · exact fun _ _ => rfl
  · exact fun _ _ hguard => hguard

theorem learns_reads {p : Api α} (h : p.Calls AppOp.Reads) :
    (D.apps req).Learns known p fun _ _ => True :=
  Learns.of_calls (fun known' _ _ hop => permits_of_reads hop known') (fun _ _ _ => trivial) h

/-- A check of the limiter. -/
theorem learns_checkLimit (key : String) (limit : ℕ) (windowSecs now : ℤ) :
    (D.apps req).Learns known (checkLimit key limit windowSecs now) fun _ _ => True :=
  Learns.call (fun hprivileged => hprivileged.elim) fun _ _ => Learns.pure trivial

/-- What is stored for the account of the session and its team. -/
theorem permits_of_for {account : Account} {op : AppOp} (huser : D.user req = .ok account.id)
    (hknows : Knows known account) (h : op.For account.id account.teamId) :
    D.Permits req known (.app op) := by
  have howns : D.Owns req known account.id account.teamId := by
    refine ⟨huser, fun t ht => hknows (List.mem_cons_of_mem _ ?_)⟩
    rw [ht]
    exact List.mem_singleton.mpr rfl
  cases op with
  | repo op =>
    cases op with
    | submissionSave sub =>
      show D.Owns req known sub.accountId sub.teamId
      rw [h.1, h.2]
      exact howns
    | hintSave unlock =>
      show D.Owns req known unlock.accountId unlock.teamId
      rw [h.1, h.2]
      exact howns
    | _ => exact fun hprivileged => hprivileged.elim
  | broadcast n => exact fun hprivileged => absurd hprivileged h
  | checkLimit key limit windowSecs now => exact h.elim
  | accountFindById id => exact fun hprivileged => hprivileged.elim

theorem learns_for {account : Account} (huser : D.user req = .ok account.id)
    (hknows : Knows known account) {p : Api α}
    (h : p.Calls (AppOp.For account.id account.teamId)) :
    (D.apps req).Learns known p fun _ _ => True :=
  Learns.of_calls (fun _ _ hsub hop =>
    permits_of_for huser (List.Subset.trans hknows hsub) hop) (fun _ _ _ => trivial) h

/-- The account that a handler of the players reads. -/
theorem learns_findAccount (id : AccountId) :
    (D.apps req).Learns known (findAccount id) fun known' found =>
      ∀ a : Account, found = .ok (some a) → a.id = id ∧ Knows known' a := by
  refine Learns.call (fun hprivileged => hprivileged.elim) fun found hfound => Learns.pure ?_
  rintro a rfl
  refine ⟨hfound a rfl, fun f hf => List.mem_append_left _ ?_⟩
  exact List.mem_flatMap.mpr ⟨a, List.mem_singleton.mpr rfl, hf⟩

/-! ## Extractors -/

/-- `AuthenticatedUser`. -/
theorem authenticated_learns {rest : AccountId → Serving Reply}
    (h : ∀ id, D.user req = .ok id → D.Keeps req known (rest id)) :
    D.Keeps req known (authenticated D req rest) := by
  rw [authenticated]
  cases huser : D.user req with
  | error e => exact keeps_error e
  | ok id => exact h id huser

/-- **Behind `AdminUser` everything may be called.** -/
theorem administrator_learns {rest : Serving Reply}
    (h : ∀ known', known ⊆ known' → D.IsAdmin req known' → D.Keeps req known' rest) :
    D.Keeps req known (administrator D req rest) := by
  refine authenticated_learns fun id huser => ?_
  refine Learns.bind (learns_onDatabase (learns_ofSql (learns_accountById id)))
    fun known' found hsub hfound => ?_
  rcases found with e | _ | account
  · exact keeps_serviceError _ _
  · exact keeps_serviceError _ _
  obtain ⟨rfl, hknows⟩ := hfound _ rfl account rfl
  show D.Keeps req known' (if account.role ≠ .admin then _ else _)
  by_cases hrole : account.role = .admin
  · rw [if_neg (not_not.mpr hrole)]
    exact h known' hsub ⟨_, hknows List.mem_cons_self, hrole, huser⟩
  · rw [if_pos hrole]
    exact keeps_error _

theorem authLimited_learns {checkedAt : ℤ} {rest : Serving Reply}
    (h : ∀ known', D.Keeps req known' rest) :
    D.Keeps req known (authLimited D req checkedAt rest) := by
  refine Learns.bind (learns_onApp (learns_checkLimit _ _ _ _)) fun known' allowed _ _ => ?_
  cases allowed with
  | true => exact h known'
  | false => exact keeps_serviceError _ _

/-! ## Handlers -/

theorem register_keeps {salt : String} {fresh : Fresh} {checkedAt : ℤ} {username : String}
    {email : Option String} {password : String}
    (hreq : req.endpoint = .register salt fresh checkedAt username email password) :
    D.Keeps req known (D.register req salt fresh checkedAt username email password) := by
  refine authLimited_learns fun known' => ?_
  refine Learns.bind (learns_onDatabase (register_learns _ _ _ _ _)) fun _ r _ hregistered => ?_
  cases r with
  | ok account =>
    obtain ⟨hknows, hashed, hhash, heq⟩ := hregistered account rfl
    exact Learns.pure ⟨hknows, _, _, _, _, _, _, hashed, hreq, hhash, heq⟩
  | error e => exact keeps_serviceError _ e

theorem login_keeps {checkedAt : ℤ} {username password : String} {now : Int64}
    (hreq : req.endpoint = .login checkedAt username password now) :
    D.Keeps req known (D.login req checkedAt username password now) := by
  refine authLimited_learns fun known' => ?_
  refine Learns.bind (learns_onDatabase (login_learns _ _ _ _ _ _ _))
    fun known'' r _ htoken => ?_
  cases r with
  | error e => exact keeps_serviceError _ e
  | ok token =>
    obtain ⟨account, storedHash, hknows, hname, hhash, hverify, rfl⟩ := htoken token rfl
    exact Learns.pure ⟨account, now, hknows,
      .inl ⟨_, _, _, storedHash, hreq, hname, hhash, hverify⟩, rfl⟩

theorem oauthCallback_keeps {ctftime : Ctftime} {rounds : ℕ} {fresh : Fresh} {code : String}
    (hreq : req.endpoint = .oauthCallback ctftime rounds fresh code) :
    D.Keeps req known (D.oauthCallback req ctftime rounds fresh code) := by
  refine Learns.bind (learns_onDatabase (callback_learns _ _ hreq)) fun known' r _ htoken => ?_
  rcases r with e | _ | token
  · exact keeps_serviceError _ e
  · exact keeps_pure fun _ => trivial
  · obtain ⟨account, profile, hknows, hprofile, hctftime, rfl⟩ := htoken _ rfl token rfl
    exact Learns.pure ⟨account, fresh.issuedAt, hknows,
      .inr ⟨_, _, _, _, profile, hreq, hprofile, hctftime, rfl⟩, rfl⟩

/-- A program of the challenge repository, behind `AdminUser`. -/
theorem onChallenges_keeps {p : Program Pg.ChallengeRepo.Statement
      Pg.ChallengeRepo.Statement.Resp α} {rest : α → Serving Reply}
    (hrest : ∀ a known', D.Keeps req known' (rest a)) :
    D.Keeps req known (administrator D req (onChallenges p >>= rest)) := by
  refine administrator_learns fun known' _ hadmin => ?_
  refine Learns.bind (learns_of_admin hadmin (Calls.lift (Calls.of_forall ?_ p)))
    fun known'' a _ _ => hrest a known''
  exact fun _ _ hadmin' _ => hadmin'

theorem uploadFile_keeps (uuid : Uuid) (fields : List UploadField) (now : Int64) :
    D.Keeps req known (D.uploadFile req uuid fields now) := by
  refine administrator_learns fun known' _ hadmin => ?_
  rcases uploaded fields with _ | ⟨name, contentType, bytes⟩
  · exact keeps_error _
  · refine Learns.bind (learns_of_admin hadmin (Calls.lift (Calls.of_forall ?_ _)))
      fun _ r _ _ => ?_
    · intro op known'' hadmin'
      cases op <;> exact fun _ => hadmin'
    · cases r with
      | ok file => exact keeps_pure fun _ => trivial
      | error e => exact keeps_serviceError _ e

theorem downloadFile_keeps (id : String) : D.Keeps req known (D.downloadFile req id) := by
  refine authenticated_learns fun _ _ => ?_
  refine Learns.bind (learns_of_free (Calls.lift ((download_calls id).imp ?_))) fun _ r _ _ => ?_
  · intro op hop known'
    cases op with
    | read id => exact fun hprivileged => hprivileged.elim
    | selectFile id => exact fun hprivileged => hprivileged.elim
    | _ => exact hop.elim
  · rcases r with e | ⟨file, bytes⟩
    · exact keeps_serviceError _ e
    · exact keeps_pure fun _ => trivial

theorem createInvite_keeps {teamId : String} {lifespanHours : Option Int64} {now : Int64}
    (hreq : req.endpoint = .createInvite teamId lifespanHours now) :
    D.Keeps req known (D.createInvite req teamId lifespanHours now) := by
  refine authenticated_learns fun id huser => ?_
  refine Learns.bind (learns_onDatabase (learns_ofSql (learns_teamById ⟨teamId⟩)))
    fun known' found _ hfound => ?_
  rcases found with e | _ | team
  · exact keeps_error _
  · exact keeps_error _
  obtain ⟨hid, hteam⟩ := hfound _ rfl team rfl
  show D.Keeps req known' (if team.captainId ≠ id then _ else _)
  by_cases hcaptain : team.captainId = id
  · rw [if_neg (not_not.mpr hcaptain)]
    refine Learns.pure ⟨_, hteam.row, ?_, lifespanHours, now, ?_, rfl, rfl⟩
    · rw [huser, ← hcaptain]
      rfl
    · rw [hreq]
      exact congrArg (Endpoint.createInvite · lifespanHours now) (congrArg TeamId.val hid).symm
  · rw [if_pos hcaptain]
    exact keeps_error _

theorem joinTeam_keeps {scripts : String → Option String} {token : String} {now : ℤ}
    (hreq : req.endpoint = .joinTeam scripts token now) :
    D.Keeps req known (D.joinTeam req scripts token now) := by
  refine authenticated_learns fun id huser => ?_
  have hjoin : (D.queries req).Learns known ((Cctf.joinTeam D.invites D.platform.engines ""
      scripts ⟨token, id, now⟩).lift Query.base fun _ r => r) fun _ _ => True := by
    refine Learns.lift ?_ ?_ ?_ (join_learns hreq huser)
    · exact fun _ _ hr => hr
    · exact fun _ _ => rfl
    · exact fun _ _ hguard => hguard
  refine Learns.bind (learns_onDatabase hjoin) fun _ r _ _ => keeps_pure fun _ => ?_
  cases r.message <;> trivial

theorem reply_promised {β : Type} {body : β → ReplyBody} {r : Response β}
    (h : ∀ b known', D.Promised req known' (body b)) (known' : List Fact) :
    D.Promised req known' (r.reply body).body := by
  rw [Response.reply]
  cases r.body with
  | ok b => exact h b known'
  | error message => trivial

theorem createNotification_keeps (id : String) (now : ℤ) (payload : AnnouncePayload) :
    D.Keeps req known (D.createNotification req id now payload) := by
  refine administrator_learns fun known' _ hadmin => ?_
  refine Learns.bind (learns_of_admin hadmin (Calls.lift (Calls.of_forall ?_ _)))
    fun _ r _ _ => keeps_pure (reply_promised fun _ _ => trivial)
  intro op known'' hadmin'
  cases op <;> exact fun _ => hadmin'

theorem learns_notices {p : Notices α} (h : p.Calls NoticeOp.Reads) :
    (D.knowledge req).Learns known (onNotices p) fun _ _ => True := by
  refine learns_of_free (Calls.lift (h.imp fun op hop known' => ?_))
  cases op with
  | notificationSave n => exact hop.elim
  | send n => exact hop.elim
  | _ => exact fun hprivileged => hprivileged.elim

/-- **A submission is stored for the account of the session**, and for the team it is on. -/
theorem submitFlag_learns {submit : SubmitRequest} (huser : D.user req = .ok submit.user) :
    (D.apps req).Learns known (Api.submitFlag D.platform submit) fun _ _ => True := by
  refine Learns.bind (learns_checkLimit _ _ _ _) fun known₁ allowed _ _ => ?_
  cases allowed with
  | false => exact Learns.pure trivial
  | true =>
    refine Learns.bind (learns_checkLimit _ _ _ _) fun known₂ allowed _ _ => ?_
    cases allowed with
    | false => exact Learns.pure trivial
    | true =>
      refine Learns.bind (learns_findAccount submit.user) fun known₃ found _ hfound => ?_
      rcases found with e | _ | account
      · exact Learns.pure trivial
      · exact Learns.pure trivial
      obtain ⟨hid, hknows⟩ := hfound account rfl
      refine Learns.bind (learns_reads (lockedFor_calls _ _)) fun known₄ locked hsub _ => ?_
      cases locked with
      | true => exact Learns.pure trivial
      | false =>
        have hknows₄ : Knows known₄ account := List.Subset.trans hknows hsub
        refine Learns.bind (learns_for (hid ▸ huser) hknows₄ (calls_service ?_))
          fun known₅ res hsub' _ => ?_
        · rw [← hid]
          exact submitFlag_calls _ (fun _ => RepoOp.for_of_isRead)
            (fun _ haccount hteam => ⟨haccount, hteam⟩) _ _ _ _ _
        · exact learns_for (hid ▸ huser) (List.Subset.trans hknows₄ hsub')
            ((answerSubmission_calls D.platform submit res).imp fun _ => AppOp.for_of_tells)

/-- **An unlock is stored for the account of the session**, and for the team it is on. -/
theorem unlockHint_learns {unlock : UnlockHintRequest} (huser : D.user req = .ok unlock.user) :
    (D.apps req).Learns known (Api.unlockHint D.platform unlock) fun _ _ => True := by
  refine Learns.bind (learns_findAccount unlock.user) fun known₁ found _ hfound => ?_
  rcases found with e | _ | account
  · exact Learns.pure trivial
  · exact Learns.pure trivial
  obtain ⟨hid, hknows⟩ := hfound account rfl
  refine Learns.bind (learns_for (hid ▸ huser) hknows (calls_service ?_))
    fun _ _ _ _ => Learns.pure trivial
  exact unlockHint_calls _ _ _ (fun _ => RepoOp.for_of_isRead)
    fun _ haccount hteam => ⟨haccount.trans hid.symm, hteam⟩

/-! ## The router -/

/-- A reply to the response of a handler. -/
theorem keeps_response {β : Type} {p : Serving (Response β)} {body : β → ReplyBody}
    (h : (D.knowledge req).Learns known p fun _ _ => True)
    (hbody : ∀ b known', D.Promised req known' (body b)) :
    D.Keeps req known (p >>= fun r => pure (r.reply body)) :=
  Learns.bind h fun _ _ _ _ => keeps_pure (reply_promised hbody)

/-- **Every endpoint keeps to what its request may**, and replies as promised. -/
theorem handle_keeps (D : Deployment) (req : HttpRequest) (known : List Fact) :
    D.Keeps req known (D.handle req) := by
  rw [Deployment.handle]
  cases hreq : req.endpoint with
  | register salt fresh checkedAt username email password => exact register_keeps hreq
  | login checkedAt username password now => exact login_keeps hreq
  | oauthUrl => exact keeps_pure fun _ => trivial
  | oauthCallback ctftime rounds fresh code => exact oauthCallback_keeps hreq
  | listChallenges now =>
    exact authenticated_learns fun _ _ => keeps_response
      (learns_onApp (learns_reads (listChallenges_calls _ _))) fun _ _ => trivial
  | createChallenge challenge =>
    refine onChallenges_keeps fun r known' => ?_
    cases r <;> exact keeps_pure fun _ => trivial
  | getChallenge id now =>
    exact authenticated_learns fun _ _ => keeps_response
      (learns_onApp (learns_reads (getChallenge_calls _ _ _))) fun _ _ => trivial
  | updateChallenge id challenge =>
    refine onChallenges_keeps fun r known' => ?_
    cases r <;> exact keeps_pure fun _ => trivial
  | deleteChallenge id deleteSolves =>
    refine onChallenges_keeps fun r known' => ?_
    cases r <;> exact keeps_pure fun _ => trivial
  | submitFlag submit =>
    exact authenticated_learns fun id huser => keeps_response
      (learns_onApp (submitFlag_learns huser)) fun _ _ => trivial
  | unlockHint unlock =>
    exact authenticated_learns fun id huser => keeps_response
      (learns_onApp (unlockHint_learns huser)) fun _ _ => trivial
  | uploadFile uuid fields now => exact uploadFile_keeps uuid fields now
  | downloadFile id => exact downloadFile_keeps id
  | scoreboard bracket =>
    refine Learns.bind (learns_onApp (learns_reads (calls_service (getScoreboard_calls _ _ _))))
      fun _ r _ _ => ?_
    cases r with
    | ok entries => exact keeps_pure fun _ => trivial
    | error e => exact keeps_serviceError _ e
  | exportScoreboard =>
    refine Learns.bind (learns_onApp (learns_reads (calls_service (exportCtftime_calls _ _))))
      fun _ r _ _ => ?_
    cases r with
    | ok standings => exact keeps_pure fun _ => trivial
    | error e => exact keeps_serviceError _ e
  | createInvite teamId lifespanHours now => exact createInvite_keeps hreq
  | joinTeam scripts token now => exact joinTeam_keeps hreq
  | listNotifications =>
    exact keeps_response (learns_notices (listNotifications_calls _ _ _)) fun _ _ => trivial
  | createNotification id now payload => exact createNotification_keeps id now payload
  | notificationsStream =>
    exact keeps_response (learns_notices (notificationsStream_calls _ _ _)) fun _ _ => trivial

end

end Cctf

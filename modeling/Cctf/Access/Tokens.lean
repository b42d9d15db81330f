import Cctf.Access.Safety
import Cctf.Crypto.Invites
import Cctf.Crypto.RoundTrip

/-!
# What tokens are worth

The tokens that the API gives away, and what they open: a session for whoever proved to be the
account, and a place on a team for whom its captain invites.

* `Signed` — the tokens of the replies so far.
* `token_opens` — **a session token is of an account that was proved, and opens its session
  until it expires**.
* `privileged_by_signIn` — behind what changes challenges, files or announcements there is an
  administrator who signed in.
* `invite_opens` — an invite is of the captain, for 1 to 168 hours.
* `member_by_captain` — nobody comes to a team without its captain or CTFtime.
-/

namespace Cctf

open Program Pg Knowledge

section

variable {ι : Type} {D : Deployment} {B : Backend} {req : ι → HttpRequest} {s₀ : Server}

/-- What the replies so far have signed. -/
inductive Deployment.Signed (D : Deployment) (P : Serves ι) : Jwt.Issued → Prop where
  | session {i : ι} {reply : Reply} {id : AccountId} {now : Int64} (hdone : P.prog i = .done reply)
      (hbody : reply.body = .token (sessionTokenOf D.jwt D.jwtSecret id now)) :
      D.Signed P (.session (session id now).text)
  | invite {i : ι} {reply : Reply} {teamId : String} {expiresAt : Int64}
      (hdone : P.prog i = .done reply)
      (hbody : reply.body =
        .invite (Jwt.generateInviteToken D.jwt teamId expiresAt D.jwtSecret) expiresAt) :
      D.Signed P (.invite teamId expiresAt)

/-- A token is of one session. -/
theorem sessionTokenOf_inj {X : Jwt.Crates} {secret : List UInt8} {id id' : AccountId}
    {now now' : Int64} (hread : X.ReadsBack (session id now).text)
    (hread' : X.ReadsBack (session id' now').text)
    (h : sessionTokenOf X secret id now = sessionTokenOf X secret id' now') : id = id' := by
  have hsplit := congrArg (Text.splitOn '.') h
  rw [sessionTokenOf, sessionTokenOf, Jwt.splitOn_sessionToken, Jwt.splitOn_sessionToken] at hsplit
  have hpayload : X.base64Encode (X.printJson (session id now).text) =
      X.base64Encode (X.printJson (session id' now').text) :=
    List.head_eq_of_cons_eq (List.tail_eq_of_cons_eq hsplit)
  have hholds := hread.holds
  rw [hpayload] at hholds
  have hclaims := congrArg Jwt.Claims.ofText (hholds.unique hread'.holds)
  rw [Jwt.Claims.ofText_text, Jwt.Claims.ofText_text] at hclaims
  exact congrArg AccountId.mk (congrArg Jwt.Claims.sub (Except.ok.inj hclaims))

variable [DecidableEq ι] {schedule : List ι}

/-! ## Sessions -/

/-- What a session token opens. -/
theorem user_of_session {id : AccountId} {now : Int64}
    (hheader : D.jwt.ReadsBack Jwt.header.text) (hclaims : D.jwt.ReadsBack (session id now).text)
    {r : HttpRequest} (hbearer : HeaderMap.text r.headers "authorization" =
      some ("Bearer " ++ sessionTokenOf D.jwt D.jwtSecret id now)) :
    D.user r = if r.authAt < now + sessionTtl then .ok id else .error
      ⟨401, .entryWith r.lang "auth-invalid-token" (.entry "en-US" "jwt-token-expired")⟩ := by
  have hdecode : Jwt.decode Jwt.Claims D.jwt (sessionTokenOf D.jwt D.jwtSecret id now) D.jwtSecret
      r.authAt = if r.authAt < now + sessionTtl then .ok (Jwt.header, session id now)
        else .error .expired :=
    Jwt.decode_sessionToken D.jwtSecret r.authAt hheader hclaims
  rw [Deployment.user, authenticatedUser_of_bearer hbearer]
  by_cases hlive : r.authAt < now + sessionTtl
  · rw [if_pos hlive] at hdecode ⊢
    rw [hdecode]
    rfl
  · rw [if_neg hlive] at hdecode ⊢
    rw [hdecode]
    rfl

/-- **A session token is of an account that was proved**, by its password or by a code of
CTFtime; the account is there, and until it expires the token opens its session, if `serde_json`
reads back what it prints. -/
theorem token_opens {i : ι} {reply : Reply} {token : String}
    (hdone : (D.after B req s₀ schedule).prog i = .done reply)
    (hbody : reply.body = .token token) :
    ∃ account now, account ∈ (D.after B req s₀ schedule).store.db.tables.identities ∧
      D.SignsIn (req i) account now ∧
      (D.jwt.ReadsBack Jwt.header.text → D.jwt.ReadsBack (session account.id now).text →
        ∀ r : HttpRequest,
          HeaderMap.text r.headers "authorization" = some ("Bearer " ++ token) →
          D.user r = if r.authAt < now + sessionTtl then .ok account.id else .error
            ⟨401, .entryWith r.lang "auth-invalid-token" (.entry "en-US" "jwt-token-expired")⟩) := by
  obtain ⟨known, hknown, hpromised⟩ := promised_after hdone
  rw [hbody] at hpromised
  obtain ⟨account, now, hknows, hsignsIn, rfl⟩ := hpromised
  exact ⟨{ account with teamId := none }, now, hknown _ (hknows List.mem_cons_self), hsignsIn,
    fun hheader hclaims _ hbearer => user_of_session hheader hclaims hbearer⟩

/-- Alice signs in. -/
def aliceSignsIn (_ : Unit) : HttpRequest where
  headers := []
  peer := none
  authAt := 0
  endpoint := .login 0 "alice" "tulip" 0

/-- A deployment with crates that read back her session. -/
def aliceDeployment : Deployment :=
  { smallDeployment with
    jwt := .ofTables [Jwt.header.text, (session ⟨"alice"⟩ 0).text] [Jwt.sampleMac] }

/-- What she gets is a session of an account that was proved, and opens it for a day. -/
theorem token_opens_alice :
    ∃ reply token, (aliceDeployment.after smallBackend aliceSignsIn smallServer
        [(), ()]).prog () = .done reply ∧ reply.body = .token token ∧
      ∃ account ∈ (aliceDeployment.after smallBackend aliceSignsIn smallServer
          [(), ()]).store.db.tables.identities,
        aliceDeployment.SignsIn (aliceSignsIn ()) account 0 ∧
        ∀ r : HttpRequest,
          HeaderMap.text r.headers "authorization" = some ("Bearer " ++ token) →
          aliceDeployment.user r = if r.authAt < 0 + sessionTtl then .ok ⟨"alice"⟩ else .error
            ⟨401, .entryWith r.lang "auth-invalid-token" (.entry "en-US" "jwt-token-expired")⟩ := by
  have hreply : ((aliceDeployment.after smallBackend aliceSignsIn smallServer
      [(), ()]).prog ()).value?.any (fun reply => reply.body matches .token _) = true := by
    decide +kernel
  obtain ⟨reply, hvalue, htoken⟩ := (Option.any_eq_true _ _).mp hreply
  have hdone := Program.value?_eq_some_iff.mp hvalue
  split at htoken
  · rename_i token hbody
    obtain ⟨account, now, hmem, hsignsIn, hopens⟩ := token_opens hdone hbody
    have hlogin := hsignsIn
    rcases hlogin with ⟨_, _, _, _, hreq, hname, -⟩ | ⟨_, _, _, _, _, hreq, -⟩
    · cases hreq
      have honly : ∀ a ∈ (aliceDeployment.after smallBackend aliceSignsIn smallServer
          [(), ()]).store.db.tables.identities, a.username = "alice" → a.id = ⟨"alice"⟩ := by
        decide +kernel
      have hid := honly account hmem hname
      have hheader : aliceDeployment.jwt.ReadsBack Jwt.header.text := by rfl
      have hclaims : aliceDeployment.jwt.ReadsBack (session ⟨"alice"⟩ 0).text := by rfl
      rw [hid] at hopens
      exact ⟨reply, token, hdone, hbody, account, hmem, hsignsIn, hopens hheader hclaims⟩
    · cases hreq
  · cases htoken

/-! ## Who has a session -/

/-- HMAC is ideal for the tokens of the requests: what they present was signed before the run,
or is in one of its replies. -/
def Deployment.Honest (D : Deployment) (req : ι → HttpRequest) (before : Set Jwt.Issued)
    (P : Serves ι) : Prop :=
  ∀ i token, (HeaderMap.text (req i).headers "authorization" = some ("Bearer " ++ token) ∨
      ∃ scripts now, (req i).endpoint = .joinTeam scripts token now) →
    Jwt.Unforged D.jwt D.jwtSecret (before ∪ {x | D.Signed P x}) token

/-- `serde_json` reads back what was signed as a session, and what was signed before are
claims. -/
structure Deployment.Reads (D : Deployment) (before : Set Jwt.Issued) (P : Serves ι) : Prop where
  header : D.jwt.ReadsBack Jwt.header.text
  payloads : ∀ payload, Jwt.Issued.session payload ∈ before ∪ {x | D.Signed P x} →
    D.jwt.ReadsBack payload
  claims : ∀ payload, Jwt.Issued.session payload ∈ before →
    ∃ claims : Jwt.Claims, payload = claims.text

/-- An account has a session: from before, or it signed in. -/
def Deployment.HasSession (D : Deployment) (req : ι → HttpRequest) (before : Set Jwt.Issued)
    (s : Server) (id : AccountId) : Prop :=
  (∃ claims : Jwt.Claims, Jwt.Issued.session claims.text ∈ before ∧ claims.sub = id.val) ∨
  ∃ account ∈ s.db.tables.identities, account.id = id ∧ ∃ i now, D.SignsIn (req i) account now

section

variable {before : Set Jwt.Issued} (hreads : D.Reads before (D.after B req s₀ schedule))
  (hhonest : D.Honest req before (D.after B req s₀ schedule))

include hreads

/-- The token of a reply is of an account that was proved. -/
theorem signsIn_of_token {i : ι} {reply : Reply} {id : AccountId} {now : Int64}
    (hdone : (D.after B req s₀ schedule).prog i = .done reply)
    (hbody : reply.body = .token (sessionTokenOf D.jwt D.jwtSecret id now)) :
    ∃ account ∈ (D.after B req s₀ schedule).store.db.tables.identities, account.id = id ∧
      ∃ now', D.SignsIn (req i) account now' := by
  obtain ⟨known, hknown, hpromised⟩ := promised_after hdone
  rw [hbody] at hpromised
  obtain ⟨account, now', hknows, hsignsIn, heq⟩ := hpromised
  have hread := hreads.payloads _ (.inr (.session hdone hbody))
  have hread' := hreads.payloads _ (.inr (.session hdone (hbody.trans (congrArg _ heq))))
  exact ⟨{ account with teamId := none }, hknown _ (hknows List.mem_cons_self),
    (sessionTokenOf_inj hread hread' heq).symm, now', hsignsIn⟩

include hhonest

/-- **Whoever has a session has signed in.** -/
theorem hasSession_of_user {i : ι} {id : AccountId} (huser : D.user (req i) = .ok id) :
    D.HasSession req before (D.after B req s₀ schedule).store id := by
  obtain ⟨token, header, claims, hheader, hdecode, hsub⟩ := authenticatedUser_eq_ok_iff.mp huser
  obtain ⟨-, payload, hmem, hread⟩ := Jwt.session_mem_of_decode hreads.header hreads.payloads
    (hhonest i token (.inl hheader)) hdecode
  rcases hmem with hold | hnew
  · obtain ⟨made, rfl⟩ := hreads.claims payload hold
    obtain rfl : made = claims := Except.ok.inj (made.ofText_text.symm.trans hread)
    exact .inl ⟨made, hold, hsub⟩
  · generalize hissued : Jwt.Issued.session payload = issued at hnew
    cases hnew with
    | invite hdone hbody => cases hissued
    | @session j reply id' now hdone hbody =>
      obtain rfl := Jwt.Issued.session.inj hissued
      obtain ⟨account, hmem, rfl, now', hsignsIn⟩ := signsIn_of_token hreads hdone hbody
      -- what is read are the claims that were signed
      have hmade : session account.id now = claims :=
        Except.ok.inj ((Jwt.Claims.ofText_text _).symm.trans hread)
      have hval : account.id.val = id.val := by rw [← hsub, ← hmade]; rfl
      exact .inr ⟨account, hmem, congrArg AccountId.mk hval, j, now', hsignsIn⟩

end

/-- **Behind what changes challenges, files or announcements there is an administrator who
signed in**: the request has a session of the account, and that is from before, or comes from a
request of the run, by the password of the account or by a code of its CTFtime profile. -/
theorem privileged_by_signIn {before : Set Jwt.Issued}
    (hreads : D.Reads before (D.after B req s₀ schedule))
    (hhonest : D.Honest req before (D.after B req s₀ schedule)) :
    ∀ e ∈ (D.serving req s₀).trace (Server.handler B) schedule, e.op.Privileged →
      ∃ a ∈ s₀.db.tables.identities, a.role = .admin ∧ D.user (req e.who) = .ok a.id ∧
        D.HasSession req before (D.after B req s₀ schedule).store a.id := by
  intro e he hprivileged
  obtain ⟨a, ha, hrole, huser⟩ := admin_of_privileged he hprivileged
  exact ⟨a, ha, hrole, huser, hasSession_of_user hreads hhonest huser⟩

/-! ### An announcement -/

omit [DecidableEq ι] in
/-- No reply has a token. -/
theorem not_signed {P : Serves ι} (h : ∀ i, (P.prog i).value?.all (fun reply =>
      !(reply.body matches .token _ | .invite _ _)) = true) (x : Jwt.Issued) : ¬ D.Signed P x := by
  intro hsigned
  cases hsigned with
  | @session i reply id now hdone hbody =>
    have hreply := h i
    rw [hdone, Program.value?, Option.all_some, hbody] at hreply
    cases hreply
  | @invite i reply teamId expiresAt hdone hbody =>
    have hreply := h i
    rw [hdone, Program.value?, Option.all_some, hbody] at hreply
    cases hreply

theorem unforged_mono {X : Jwt.Crates} {secret : List UInt8} {issued issued' : Set Jwt.Issued}
    {token : String} (h : Jwt.Unforged X secret issued token) (hsub : issued ⊆ issued') :
    Jwt.Unforged X secret issued' token := fun message tag hpresents hmac =>
  (h message tag hpresents hmac).imp fun _ hi => ⟨hsub hi.1, hi.2⟩

omit [DecidableEq ι] in
/-- `serde_json` reads back the session of `account-123`. -/
theorem reads_shared {P : Serves ι} (h : ∀ x, ¬ smallDeployment.Signed P x) :
    smallDeployment.Reads Jwt.sharedIssued P := by
  have hclaims : ∀ payload, Jwt.Issued.session payload ∈ Jwt.sharedIssued →
      payload = Jwt.sampleClaims.text := fun payload hmem => by simpa [Jwt.sharedIssued] using hmem
  refine ⟨by rfl, fun payload hmem => ?_, fun payload hmem => ⟨_, hclaims payload hmem⟩⟩
  rcases hmem with hold | hnew
  · obtain rfl := hclaims payload hold
    rfl
  · exact absurd hnew (h _)

/-- The token of `account-123`. -/
theorem bearer_withSession {endpoint : Endpoint} {token : String}
    (h : HeaderMap.text (withSession endpoint).headers "authorization" =
      some ("Bearer " ++ token)) : token = Jwt.sampleToken := by
  have hheader : HeaderMap.text (withSession .oauthUrl).headers "authorization" =
      some ("Bearer " ++ Jwt.sampleToken) := by decide +kernel
  have heq : "Bearer " ++ token = "Bearer " ++ Jwt.sampleToken :=
    Option.some.inj (h.symm.trans hheader)
  have htoken := bearerToken_eq_some_iff.mpr heq
  exact Option.some.inj ((bearerToken_eq_some_iff.mpr rfl).symm.trans htoken)

/-- Behind the announcement there is an administrator with a session. -/
theorem privileged_by_signIn_announces :
    ∃ e ∈ (smallDeployment.serving announces smallServer).trace (Server.handler smallBackend)
      [(), ()], e.op.Privileged ∧
      ∃ a ∈ smallServer.db.tables.identities, a.role = .admin ∧
        smallDeployment.user (announces e.who) = .ok a.id ∧
        smallDeployment.HasSession announces Jwt.sharedIssued (smallDeployment.after smallBackend
          announces smallServer [(), ()]).store a.id := by
  have hstored : ∃ e ∈ (smallDeployment.serving announces smallServer).trace
      (Server.handler smallBackend) [(), ()], e.op.Privileged := by decide +kernel
  have hnone : ∀ i, ((smallDeployment.after smallBackend announces smallServer
      [(), ()]).prog i).value?.all (fun reply =>
        !(reply.body matches .token _ | .invite _ _)) = true := by
    rintro ⟨⟩
    decide +kernel
  have hhonest : smallDeployment.Honest announces Jwt.sharedIssued
      (smallDeployment.after smallBackend announces smallServer [(), ()]) := by
    rintro i token (hbearer | ⟨scripts, now, hjoin⟩)
    · rw [bearer_withSession hbearer]
      exact unforged_mono Jwt.unforged_shared.1 Set.subset_union_left
    · cases hjoin
  obtain ⟨e, he, hprivileged⟩ := hstored
  exact ⟨e, he, hprivileged,
    privileged_by_signIn (reads_shared (not_signed hnone)) hhonest e he hprivileged⟩

/-! ## Invites -/

/-- The tokens of invites last between an hour and a week. -/
theorem lifespan_bounds (lifespanHours : Option Int64) :
    1 ≤ (lifespan lifespanHours).toInt ∧ (lifespan lifespanHours).toInt ≤ 168 := by
  have hone : (1 : Int64).toInt = 1 := by decide
  have hweek : (168 : Int64).toInt = 168 := by decide
  generalize hhours : lifespanHours.getD 24 = hours
  have hlifespan : lifespan lifespanHours =
      if (1 : Int64) ≤ (if hours ≤ 168 then hours else 168)
        then (if hours ≤ 168 then hours else 168) else 1 := by
    rw [← hhours]
    rfl
  rw [hlifespan]
  simp only [Int64.le_iff_toInt_le, hone, hweek, apply_ite Int64.toInt]
  split_ifs <;> omega

/-- **An invite is of the captain**, for as many hours from the time of the request as it asks
for, one at least and a week at most, and until then it is accepted for the team. -/
theorem invite_opens {i : ι} {reply : Reply} {token : String} {expiresAt : Int64}
    (hdone : (D.after B req s₀ schedule).prog i = .done reply)
    (hbody : reply.body = .invite token expiresAt) :
    ∃ row ∈ (D.after B req s₀ schedule).store.db.tables.teams.rows,
      D.user (req i) = .ok row.captainId ∧
      (∃ lifespanHours now, (req i).endpoint = .createInvite row.id.val lifespanHours now ∧
        1 ≤ (lifespan lifespanHours).toInt ∧ (lifespan lifespanHours).toInt ≤ 168 ∧
        expiresAt = now + lifespan lifespanHours * 3600) ∧
      (':' ∉ row.id.val.toList → ∀ t : ℤ, verifyInviteToken D.invites token "" t =
        if t ≤ expiresAt.toInt then some (row.id.val, expiresAt.toInt) else none) := by
  obtain ⟨known, hknown, hpromised⟩ := promised_after hdone
  rw [hbody] at hpromised
  obtain ⟨row, hteam, huser, lifespanHours, now, hreq, hexpires, rfl⟩ := hpromised
  have hbounds := lifespan_bounds lifespanHours
  exact ⟨row, hknown _ hteam, huser, ⟨lifespanHours, now, hreq, hbounds.1, hbounds.2, hexpires⟩,
    fun hcolon t => Jwt.verify_generateInviteToken hcolon "" t⟩

/-- The captain of `team-2` asks for an invite. -/
def captainInvites (_ : Unit) : HttpRequest := withSession (.createInvite "team-2" none 0)

/-- It is one of the captain, for a day. -/
theorem invite_opens_captain :
    ∃ reply token, (smallDeployment.after smallBackend captainInvites smallServer
        [(), ()]).prog () = .done reply ∧ reply.body = .invite token 86400 ∧
      ∃ row ∈ (smallDeployment.after smallBackend captainInvites smallServer
          [(), ()]).store.db.tables.teams.rows,
        smallDeployment.user (captainInvites ()) = .ok row.captainId ∧
        ∀ t : ℤ, verifyInviteToken smallDeployment.invites token "" t =
          if t ≤ 86400 then some ("team-2", 86400) else none := by
  have hreply : ((smallDeployment.after smallBackend captainInvites smallServer
      [(), ()]).prog ()).value?.any (fun reply => reply.body matches .invite _ _) = true := by
    decide +kernel
  obtain ⟨reply, hvalue, hinvite⟩ := (Option.any_eq_true _ _).mp hreply
  have hdone := Program.value?_eq_some_iff.mp hvalue
  split at hinvite
  · rename_i token expiresAt hbody
    obtain ⟨row, hrow, hcaptain, ⟨lifespanHours, now, hreq, -, -, hexpires⟩, haccepted⟩ :=
      invite_opens hdone hbody
    have hcreate : Endpoint.createInvite "team-2" none 0 =
        .createInvite row.id.val lifespanHours now := hreq
    obtain ⟨hid, rfl, rfl⟩ := Endpoint.createInvite.inj hcreate
    rw [← hid] at haccepted
    have hday : expiresAt = 86400 := hexpires.trans (by decide)
    subst hday
    exact ⟨reply, token, hdone, hbody, row, hrow, hcaptain, haccepted (by decide)⟩
  · cases hinvite

/-- An invite token is of one team. -/
theorem generateInviteToken_inj {X : Jwt.Crates} {secret : List UInt8} {teamId teamId' : String}
    {expiresAt : Int64} (h : Jwt.generateInviteToken X teamId expiresAt secret =
      Jwt.generateInviteToken X teamId' expiresAt secret) : teamId = teamId' := by
  have hlist := congrArg String.toList h
  simp only [Jwt.generateInviteToken, String.toList_append, List.append_assoc] at hlist
  obtain ⟨hmessage, -⟩ := Text.append_cons_inj Jwt.colon_not_mem_signature
    Jwt.colon_not_mem_signature hlist
  exact (Jwt.inviteMessage_inj (String.toList_injective hmessage)).1

/-- An invite that is accepted was made, for its team and its time. -/
theorem invite_signed {X : Jwt.Crates} {secret : List UInt8} {issued : Set Jwt.Issued}
    {token teamId : String} {now : ℤ} (hideal : Jwt.Unforged X secret issued token)
    (h : (verifyInviteToken (Jwt.inviteCrypto X secret) token "" now).map Prod.fst =
      some teamId) :
    ∃ e : Int64, verifyInviteToken (Jwt.inviteCrypto X secret) token "" now =
        some (teamId, e.toInt) ∧ now ≤ e.toInt ∧ Jwt.Issued.invite teamId e ∈ issued := by
  obtain ⟨⟨teamId, expiresAt⟩, hverify, rfl⟩ := Option.map_eq_some_iff.mp h
  obtain ⟨expiresAtStr, signatureBase64, hsplit, hparse, hlive, hsig⟩ :=
    verifyInviteToken_eq_some_iff.mp hverify
  -- the expiry is a time of its own, at which the token is still accepted
  obtain ⟨hlow, hhigh⟩ := Text.parseI64_bounds hparse
  have hself : (Int64.ofInt expiresAt).toInt = expiresAt :=
    Int64.toInt_ofInt_of_le hlow hhigh
  have hverify' : verifyInviteToken (Jwt.inviteCrypto X secret) token ""
      (Int64.ofInt expiresAt).toInt = some (teamId, expiresAt) :=
    verifyInviteToken_eq_some_iff.mpr ⟨_, _, hsplit, hparse, hself.le, hsig⟩
  obtain ⟨e, rfl, hmem⟩ := Jwt.invite_mem_of_verify hideal hverify'
  exact ⟨e, hverify, hlive, hmem⟩

/-- **Nobody comes to a team without its captain or CTFtime**: whoever is on a team was there
at the start, or came by a sign-in for a CTFtime profile of the team, or has a session and joined
with an invite of the team, in time: one from before, or one that the captain asked for in the
run. -/
theorem member_by_captain {before : Set Jwt.Issued}
    (hreads : D.Reads before (D.after B req s₀ schedule))
    (hhonest : D.Honest req before (D.after B req s₀ schedule)) {t : TeamId}
    {a : AccountId} (h : (D.after B req s₀ schedule).store.db.tables.IsMember t a) :
    s₀.db.tables.IsMember t a ∨
    (∃ i info, (req i).Brings info a ∧
      ∃ row ∈ (D.after B req s₀ schedule).store.db.tables.teams.rows,
        row.id = t ∧ row.ctftimeId = some info.id.toInt32) ∨
    (D.HasSession req before (D.after B req s₀ schedule).store a ∧
      ∃ i scripts token now, (req i).endpoint = .joinTeam scripts token now ∧
        D.user (req i) = .ok a ∧ ∃ e : Int64,
          verifyInviteToken D.invites token "" now = some (t.val, e.toInt) ∧ now ≤ e.toInt ∧
          (Jwt.Issued.invite t.val e ∈ before ∨
            ∃ row ∈ (D.after B req s₀ schedule).store.db.tables.teams.rows, row.id = t ∧
              ∃ j asked, D.Invites (req j) row asked e)) := by
  rcases standing_after.members t a h with hold | ⟨i, hjoins | hbrings⟩
  · exact .inl hold
  · obtain ⟨scripts, token, now, hreq, huser, hverify⟩ := hjoins
    obtain ⟨e, haccepted, hlive, hmem⟩ :=
      invite_signed (hhonest i token (.inr ⟨_, _, hreq⟩)) hverify
    refine .inr (.inr ⟨hasSession_of_user hreads hhonest huser, i, scripts, token, now,
      hreq, huser, e, haccepted, hlive, hmem.imp id fun hnew => ?_⟩)
    generalize hissued : Jwt.Issued.invite t.val e = issued at hnew
    cases hnew with
    | session hdone hbody => cases hissued
    | @invite j reply teamId expiresAt hdone hbody =>
      obtain ⟨hteam, rfl⟩ := Jwt.Issued.invite.inj hissued
      obtain ⟨known, hknown, hpromised⟩ := promised_after hdone
      rw [hbody] at hpromised
      obtain ⟨row, hrow, hcaptain, lifespanHours, now', hreq', hexpires, htoken⟩ := hpromised
      have hval : row.id.val = t.val := by rw [hteam, generateInviteToken_inj htoken]
      exact ⟨row, hknown _ hrow, congrArg TeamId.mk hval, j, _, hcaptain, lifespanHours, now',
        hreq', hexpires, htoken⟩
  · obtain ⟨info, hbrings, row, hrow, hteam, hctftime⟩ := hbrings
    exact .inr (.inl ⟨i, info, hbrings, row, hrow, hteam, hctftime⟩)

/-- `account-123` joins `team-1`. -/
def joinsTeam (_ : Unit) : HttpRequest :=
  withSession (.joinTeam (fun _ => none) Jwt.inviteToken 100)

/-- It comes with an invite of the team. -/
theorem member_by_captain_joins :
    smallDeployment.HasSession joinsTeam Jwt.sharedIssued (smallDeployment.after smallBackend
      joinsTeam smallServer (List.replicate 8 ())).store ⟨"account-123"⟩ ∧
    ∃ i scripts token now, (joinsTeam i).endpoint = .joinTeam scripts token now ∧
      smallDeployment.user (joinsTeam i) = .ok ⟨"account-123"⟩ ∧ ∃ e : Int64,
        verifyInviteToken smallDeployment.invites token "" now = some ("team-1", e.toInt) ∧
        now ≤ e.toInt ∧ (Jwt.Issued.invite "team-1" e ∈ Jwt.sharedIssued ∨
          ∃ row ∈ (smallDeployment.after smallBackend joinsTeam smallServer
              (List.replicate 8 ())).store.db.tables.teams.rows, row.id = ⟨"team-1"⟩ ∧
            ∃ j asked, smallDeployment.Invites (joinsTeam j) row asked e) := by
  have hmember : (smallDeployment.after smallBackend joinsTeam smallServer
      (List.replicate 8 ())).store.db.tables.IsMember ⟨"team-1"⟩ ⟨"account-123"⟩ :=
    TeamTables.mem_memberIds.mp (by decide +kernel)
  have hnone : ∀ i, ((smallDeployment.after smallBackend joinsTeam smallServer
      (List.replicate 8 ())).prog i).value?.all (fun reply =>
        !(reply.body matches .token _ | .invite _ _)) = true := by
    rintro ⟨⟩
    decide +kernel
  have hhonest : smallDeployment.Honest joinsTeam Jwt.sharedIssued
      (smallDeployment.after smallBackend joinsTeam smallServer (List.replicate 8 ())) := by
    rintro i token (hbearer | ⟨scripts, now, hjoin⟩)
    · rw [bearer_withSession hbearer]
      exact unforged_mono Jwt.unforged_shared.1 Set.subset_union_left
    · cases hjoin
      exact unforged_mono Jwt.unforged_shared.2 Set.subset_union_left
  rcases member_by_captain (reads_shared (not_signed hnone)) hhonest hmember with
    hold | ⟨i, info, ⟨_, _, _, _, _, hcallback, -⟩, -⟩ | hjoined
  · -- it was on the other team
    exact absurd (TeamTables.mem_memberIds.mpr hold) (by decide +kernel)
  · cases hcallback
  · exact hjoined

end

end Cctf

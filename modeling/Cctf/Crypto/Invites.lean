import Cctf.Api.Teams
import Cctf.Crypto.Sessions

/-!
# Session tokens and invite tokens

Both kinds of token are signed with the same secret, and nothing in what is signed says
which kind it is: a session is two base64 texts with a dot between them, an invite a team
and a number with a colon between them.

* `generateInviteToken`, `inviteCrypto` — invite tokens, with the crates of session tokens.
* `Issued` — a token that was made, of either kind.
* `Unforged` — the HMACs a token comes with are of messages that were signed.
* `not_confused` — such a token is accepted only as what was made.
-/

namespace Cctf

namespace Jwt

/-! ## Invite tokens -/

/-- What is signed for an invite. -/
def inviteMessage (teamId : String) (expiresAt : ℤ) : String :=
  teamId ++ ":" ++ toString expiresAt

/-- `generate_invite_token`. -/
def generateInviteToken (X : Crates) (teamId : String) (expiresAt : Int64)
    (secret : List UInt8) : String :=
  inviteMessage teamId expiresAt.toInt ++ ":" ++
    X.base64Encode (X.hmacSha256 secret (inviteMessage teamId expiresAt.toInt))

/-- The crates under a secret, for `verify_invite_token`. -/
def inviteCrypto (X : Crates) (secret : List UInt8) : InviteCrypto where
  hmacSha256 := fun _ message => X.hmacSha256 secret message
  base64Decode := fun text => (X.base64Decode text).toOption

/-! ## The tokens that were made -/

/-- A token that was made: a session with some payload, or an invite. -/
inductive Issued where
  | session (payload : JsonText)
  | invite (teamId : String) (expiresAt : Int64)

namespace Issued

/-- What was signed. -/
def message (X : Crates) : Issued → String
  | .session payload => sessionInput X payload
  | .invite teamId expiresAt => inviteMessage teamId expiresAt.toInt

/-- The token. -/
def token (X : Crates) (secret : List UInt8) : Issued → String
  | .session payload => sessionToken X payload secret
  | .invite teamId expiresAt => generateInviteToken X teamId expiresAt secret

end Issued

/-- The messages, each with its HMAC, that a token presents to one of the two checks. -/
def Presents (X : Crates) (token message : String) (tag : List UInt8) : Prop :=
  (∃ headerB64 payloadB64 signatureB64,
    Text.splitOn '.' token = [headerB64, payloadB64, signatureB64] ∧
    message = signingInput headerB64 payloadB64 ∧ X.base64Decode signatureB64 = .ok tag) ∨
  ∃ teamId expiresAtStr signatureBase64 expiresAt,
    Text.splitOn ':' token = [teamId, expiresAtStr, signatureBase64] ∧
    Text.parseI64 expiresAtStr = some expiresAt ∧ message = inviteMessage teamId expiresAt ∧
    X.base64Decode signatureBase64 = .ok tag

/-- HMAC is ideal for the token: what it verifies was signed. -/
def Unforged (X : Crates) (secret : List UInt8) (issued : Set Issued) (token : String) : Prop :=
  ∀ message tag, Presents X token message tag → X.hmacSha256 secret message = tag →
    ∃ i ∈ issued, i.message X = message

/-! ## The two formats -/

section Formats

variable {X : Crates}

theorem toList_signingInput (headerB64 payloadB64 : String) :
    (signingInput headerB64 payloadB64).toList =
      headerB64.toList ++ '.' :: payloadB64.toList := by
  simp [signingInput]

theorem toList_inviteMessage (teamId : String) (expiresAt : ℤ) :
    (inviteMessage teamId expiresAt).toList =
      teamId.toList ++ ':' :: (toString expiresAt).toList := by
  simp [inviteMessage]

theorem colon_not_mem_toString (n : ℤ) : ':' ∉ (toString n).toList := fun h => by
  rcases Text.mem_toString_int h with h | h
  · exact absurd h (by decide)
  · exact absurd h (by decide)

/-- A segment that is decoded has no colon. -/
theorem Crates.Holds.colon_not_mem {segment : String} {text : JsonText}
    (h : X.Holds segment text) : ':' ∉ segment.toList := by
  obtain ⟨bytes, hbytes, -⟩ := h
  exact fun hmem => absurd (X.base64Decode_alphabet segment bytes hbytes _ hmem) (by decide)

theorem colon_not_mem_sessionInput (payload : JsonText) :
    ':' ∉ (sessionInput X payload).toList := by
  have hcolon : ∀ bytes, ':' ∉ (X.base64Encode bytes).toList := fun bytes h =>
    absurd (X.base64Decode_alphabet _ bytes (X.base64Decode_encode bytes) _ h) (by decide)
  rw [sessionInput, toList_signingInput, List.mem_append, List.mem_cons]
  simp [hcolon]

/-- An invite is for one team and one expiry, whatever the team's id. -/
theorem inviteMessage_inj {teamId teamId' : String} {expiresAt expiresAt' : ℤ}
    (h : inviteMessage teamId expiresAt = inviteMessage teamId' expiresAt') :
    teamId = teamId' ∧ expiresAt = expiresAt' := by
  have hlist := congrArg String.toList h
  rw [toList_inviteMessage, toList_inviteMessage] at hlist
  obtain ⟨hteam, hexp⟩ := Text.append_cons_inj (colon_not_mem_toString _)
    (colon_not_mem_toString _) hlist
  exact ⟨String.toList_injective hteam, Text.toString_int_inj hexp⟩

/-- Two segments without dots, signed together, are signed for one payload. -/
theorem sessionInput_inj {headerB64 payloadB64 : String} {payload : JsonText}
    (hdot : '.' ∉ payloadB64.toList)
    (h : sessionInput X payload = signingInput headerB64 payloadB64) :
    X.base64Encode (X.printJson header.text) = headerB64 ∧
      X.base64Encode (X.printJson payload) = payloadB64 := by
  have hlist := congrArg String.toList h
  rw [sessionInput, toList_signingInput, toList_signingInput] at hlist
  obtain ⟨hheader, hpayload⟩ := Text.append_cons_inj (X.dot_not_mem_encode _) hdot hlist
  exact ⟨String.toList_injective hheader, String.toList_injective hpayload⟩

end Formats

/-! ## What is accepted -/

section Confusion

variable {X : Crates} {secret : List UInt8} {issued : Set Issued} {token : String} {now : Int64}

/-- An invite that is accepted was made. -/
theorem invite_mem_of_verify (hideal : Unforged X secret issued token) {key teamId : String}
    {expiresAt : ℤ}
    (h : verifyInviteToken (inviteCrypto X secret) token key now.toInt =
      some (teamId, expiresAt)) :
    ∃ e : Int64, e.toInt = expiresAt ∧ Issued.invite teamId e ∈ issued := by
  obtain ⟨expiresAtStr, signatureBase64, hsplit, hparse, -, hsig⟩ :=
    verifyInviteToken_eq_some_iff.mp h
  have htag : X.base64Decode signatureBase64 =
      .ok (X.hmacSha256 secret (inviteMessage teamId expiresAt)) := by
    have hsome : (X.base64Decode signatureBase64).toOption =
        some (X.hmacSha256 secret (inviteMessage teamId expiresAt)) := hsig
    cases hdecode : X.base64Decode signatureBase64 with
    | error e =>
      rw [hdecode] at hsome
      cases hsome
    | ok tag =>
      rw [hdecode] at hsome
      exact congrArg Except.ok (Option.some.inj hsome)
  obtain ⟨i, hi, hmessage⟩ := hideal _ _ (.inr ⟨_, _, _, _, hsplit, hparse, rfl, htag⟩) rfl
  cases i with
  | session payload =>
    -- an invite has a colon, a session has none
    have hcolon : ':' ∈ (inviteMessage teamId expiresAt).toList := by
      simp [toList_inviteMessage]
    exact absurd (hmessage ▸ hcolon) (colon_not_mem_sessionInput payload)
  | invite teamId' e =>
    obtain ⟨rfl, rfl⟩ := inviteMessage_inj hmessage
    exact ⟨e, rfl, hi⟩

/-- A session that is accepted was made, for the payload that is read. -/
theorem session_mem_of_decode (hheader : X.ReadsBack header.text)
    (hpayloads : ∀ payload, Issued.session payload ∈ issued → X.ReadsBack payload)
    (hideal : Unforged X secret issued token) {P : Type} [Deserialize P] {h : Header} {p : P}
    (hdecode : decode P X token secret now = .ok (h, p)) :
    h = header ∧ ∃ payload, Issued.session payload ∈ issued ∧
      Deserialize.deserialize payload = .ok p := by
  obtain ⟨headerB64, payloadB64, signatureB64, hsplit, hsig, ⟨headerText, hholds, hread⟩, -,
    text, hpayload, -, hp⟩ := decode_eq_ok_iff.mp hdecode
  obtain ⟨i, hi, hmessage⟩ := hideal _ _ (.inl ⟨_, _, _, hsplit, rfl, hsig⟩) rfl
  cases i with
  | session payload =>
    have hdot := (Text.splitOn_eq_three_iff.mp hsplit).2.2.1
    obtain ⟨rfl, rfl⟩ := sessionInput_inj hdot hmessage
    obtain rfl : headerText = header.text := hholds.unique hheader.holds
    obtain rfl : text = payload := hpayload.unique (hpayloads payload hi).holds
    exact ⟨Except.ok.inj (hread.symm.trans (by rfl)), text, hi, hp⟩
  | invite teamId e =>
    -- the colon would be in one of the two segments
    have hcolon : ':' ∈ (signingInput headerB64 payloadB64).toList := by
      rw [← hmessage]
      simp [Issued.message, toList_inviteMessage]
    rw [toList_signingInput, List.mem_append, List.mem_cons] at hcolon
    rcases hcolon with hmem | hmem | hmem
    · exact absurd hmem hholds.colon_not_mem
    · exact absurd hmem (by decide)
    · exact absurd hmem hpayload.colon_not_mem

end Confusion

/-- A token whose HMACs are of messages that were signed is accepted as an invite only if it
is one that was made, and as a session only with the header and a payload that were made. -/
theorem not_confused (X : Crates) (secret : List UInt8) (issued : Set Issued) (token : String)
    (now : Int64) (hheader : X.ReadsBack header.text)
    (hpayloads : ∀ payload, Issued.session payload ∈ issued → X.ReadsBack payload)
    (hideal : Unforged X secret issued token) :
    (∀ key teamId expiresAt,
      verifyInviteToken (inviteCrypto X secret) token key now.toInt = some (teamId, expiresAt) →
        ∃ e : Int64, e.toInt = expiresAt ∧ Issued.invite teamId e ∈ issued) ∧
    (∀ (P : Type) [Deserialize P] (h : Header) (p : P),
      decode P X token secret now = .ok (h, p) →
        h = header ∧ ∃ payload, Issued.session payload ∈ issued ∧
          Deserialize.deserialize payload = .ok p) ∧
    ((∀ payload, Issued.session payload ∈ issued → ∃ claims : Claims, payload = claims.text) →
      ∀ h claims, decode Claims X token secret now = .ok (h, claims) →
        h = header ∧ Issued.session claims.text ∈ issued) := by
  refine ⟨fun key teamId expiresAt => invite_mem_of_verify hideal,
    fun P _ h p => session_mem_of_decode hheader hpayloads hideal, fun hclaims h claims hok => ?_⟩
  obtain ⟨rfl, payload, hmem, hread⟩ := session_mem_of_decode hheader hpayloads hideal hok
  obtain ⟨made, rfl⟩ := hclaims payload hmem
  -- claims that were written are read back as themselves
  obtain rfl : made = claims := Except.ok.inj (made.ofText_text.symm.trans hread)
  exact ⟨rfl, hmem⟩

/-- The crates on the message of a session and the message of an invite. -/
def sharedCrates : Crates :=
  .ofTables [header.text, sampleClaims.text]
    [sampleMac, ((sampleSecret, "team-1:3600"),
      [158, 104, 166, 221, 233, 214, 115, 27, 252, 34, 166, 161, 92, 253, 108, 30, 75, 205, 168,
        119, 101, 122, 155, 44, 71, 140, 110, 220, 27, 143, 170, 22])]

/-- A session and an invite. -/
def sharedIssued : Set Issued := {.session sampleClaims.text, .invite "team-1" 3600}

/-- The invite. -/
def inviteToken : String := "team-1:3600:nmim3enWcxv8IqahXP1sHkvNqHdlepssR4xu3BuPqhY"

/-- Both tokens present what was signed. -/
theorem unforged_shared :
    Unforged sharedCrates sampleSecret sharedIssued sampleToken ∧
      Unforged sharedCrates sampleSecret sharedIssued inviteToken := by
  have hsession : Text.splitOn '.' sampleToken =
      ["eyJhbGciOiJIUzI1NiIsInR5cCI6IkpXVCJ9",
        "eyJzdWIiOiJhY2NvdW50LTEyMyIsImlhdCI6MCwiZXhwIjozNjAwfQ",
        "0PUHx4K_mZHFdr1934E5WVhBPUDaH84NpvXnOdK5XSw"] ∧
      (Text.splitOn ':' sampleToken).length = 1 := by decide +kernel
  have hinvite : Text.splitOn ':' inviteToken =
      ["team-1", "3600", "nmim3enWcxv8IqahXP1sHkvNqHdlepssR4xu3BuPqhY"] ∧
      (Text.splitOn '.' inviteToken).length = 1 ∧ Text.parseI64 "3600" = some 3600 := by
    decide +kernel
  refine ⟨fun message tag hpresents _ => ?_, fun message tag hpresents _ => ?_⟩
  · rcases hpresents with ⟨_, _, _, hsplit, rfl, -⟩ | ⟨_, _, _, _, hsplit, -⟩
    · rw [hsession.1] at hsplit
      cases hsplit
      exact ⟨.session sampleClaims.text, .inl rfl, by decide +kernel⟩
    · exact absurd (hsplit ▸ hsession.2) (by simp)
  · rcases hpresents with ⟨_, _, _, hsplit, -⟩ | ⟨_, _, _, _, hsplit, hparse, rfl, -⟩
    · exact absurd (hsplit ▸ hinvite.2.1) (by simp)
    · rw [hinvite.1] at hsplit
      cases hsplit
      obtain rfl := Option.some.inj (hinvite.2.2.symm.trans hparse)
      exact ⟨.invite "team-1" 3600, .inr rfl, by decide +kernel⟩

/-- Both tokens are accepted, each as what it is. -/
theorem not_confused_shared :
    (∃ e : Int64, e.toInt = 3600 ∧ Issued.invite "team-1" e ∈ sharedIssued) ∧
      Issued.session sampleClaims.text ∈ sharedIssued ∧
      ∀ h claims, decode Claims sharedCrates inviteToken sampleSecret 100 = .ok (h, claims) →
        h = header := by
  have hheader : sharedCrates.ReadsBack header.text := by rfl
  have hclaims : ∀ payload, Issued.session payload ∈ sharedIssued → payload = sampleClaims.text :=
    fun payload hmem => by simpa [sharedIssued] using hmem
  have hpayloads : ∀ payload, Issued.session payload ∈ sharedIssued →
      sharedCrates.ReadsBack payload := by
    intro payload hmem
    obtain rfl := hclaims payload hmem
    rfl
  obtain ⟨hinvite, hdecode, -⟩ := not_confused sharedCrates sampleSecret sharedIssued inviteToken
    100 hheader hpayloads unforged_shared.2
  obtain ⟨-, -, hsession⟩ := not_confused sharedCrates sampleSecret sharedIssued sampleToken
    100 hheader hpayloads unforged_shared.1
  have hverify : verifyInviteToken (inviteCrypto sharedCrates sampleSecret) inviteToken ""
      (100 : Int64).toInt = some ("team-1", 3600) := by decide +kernel
  have haccept : decode Claims sharedCrates sampleToken sampleSecret 100 =
      .ok (header, sampleClaims) := by decide +kernel
  exact ⟨hinvite "" "team-1" 3600 hverify,
    (hsession (fun payload hmem => ⟨_, hclaims payload hmem⟩) _ _ haccept).2,
    fun h claims hok => (hdecode Claims h claims hok).1⟩

end Jwt

end Cctf

import Cctf.Crypto.Jwt

/-!
# Making and checking session tokens

`decode` undoes `encode`, and what `decode` accepts.

* `Claims.ofText_text`, `Header.ofText_text` — what is written is read.
* `decode_encode` — a token comes back before its expiry, and is expired from then on.
* `Slips` — the payloads that have the shape of claims but whose times are not checked: the
  array form, a payload that is no value, and an `nbf` that the value does not show.
* `onlyValid_iff` — a token is accepted for the right reasons, unless its payload is one of
  these.
-/

namespace Cctf

open Checks

namespace Jwt

/-! ## What is written is read -/

theorem Header.ofText_text (header : Header) : Header.ofText header.text = .ok header := by
  obtain ⟨alg, typ⟩ := header
  cases typ <;> rfl

theorem Claims.ofText_text (claims : Claims) : Claims.ofText claims.text = .ok claims := by
  simp [Claims.ofText, Claims.text, ClaimsFields.visit, JsonText.asString, Except.map, bind_ok,
    required, pure, Except.pure]

/-- Claims are written as a value. -/
theorem Claims.readable_text (claims : Claims) : claims.text.readable = true := by
  simp [Claims.text, JsonText.readable, JsonText.readableAt, JsonText.allMembersReadable]

theorem Claims.exp_text (claims : Claims) :
    (claims.text.get? "exp").bind JsonText.asI64? = some claims.exp := by
  simp [Claims.text, JsonText.get?, JsonText.lastMember]

theorem Claims.nbf_text (claims : Claims) :
    (claims.text.get? "nbf").bind JsonText.asI64? = none := by
  simp [Claims.text, JsonText.get?, JsonText.lastMember]

/-- The check of claims that were written is the check of their expiry. -/
theorem checkPayload_claims {X : Crates} {claims : Claims} (hclaims : X.ReadsBack claims.text)
    (now : Int64) :
    checkPayload X (X.printJson claims.text) now = ensure (now < claims.exp) .expired := by
  have hvalue := fromSlice_value hclaims claims.readable_text
  simp only [checkPayload, hvalue, checkTimes, claims.exp_text, claims.nbf_text, ensureFor]
  by_cases hexp : now < claims.exp
  · rw [ensure_of_pos hexp]
    rfl
  · rw [ensure_of_neg hexp]
    rfl

/-- `decode` undoes `encode` until the claims expire. -/
theorem decode_encode (X : Crates) (claims : Claims) (secret : List UInt8) (now : Int64)
    (hheader : X.ReadsBack header.text) (hclaims : X.ReadsBack claims.text) :
    ∃ token, encode X claims secret = .ok token ∧
      (now < claims.exp →
        decode Claims X token secret now = .ok (⟨"HS256", some "JWT"⟩, claims)) ∧
      (claims.exp ≤ now → decode Claims X token secret now = .error .expired) := by
  refine ⟨_, encode_eq secret rfl, ?_⟩
  have hslice : X.fromSlice Claims (X.printJson claims.text) = .ok claims :=
    fromSlice_eq_ok_iff.mpr ⟨_, hclaims, claims.ofText_text⟩
  have hdecode : decode Claims X (sessionToken X claims.text secret) secret now = (do
      ensure (now < claims.exp) .expired
      pure (header, claims)) := by
    rw [decode_of_signed (splitOn_sessionToken secret) (X.base64Decode_encode _) hheader.holds
      (Header.ofText_text header) rfl (X.base64Decode_encode _), checkPayload_claims hclaims,
      hslice]
    rfl
  rw [hdecode]
  constructor
  · intro hexp
    rw [ensure_of_pos hexp]
    rfl
  · intro hexp
    rw [ensure_of_neg (Int64.not_lt.mpr hexp)]
    rfl

/-- A secret. -/
def sampleSecret : List UInt8 := "secret".toList.flatMap utf8

/-- The claims of an account for one hour. -/
def sampleClaims : Claims := ⟨"account-123", 0, 3600⟩

/-- What is signed for these claims. -/
def sampleInput : String :=
  "eyJhbGciOiJIUzI1NiIsInR5cCI6IkpXVCJ9." ++
    "eyJzdWIiOiJhY2NvdW50LTEyMyIsImlhdCI6MCwiZXhwIjozNjAwfQ"

/-- Its HMAC. -/
def sampleMac : (List UInt8 × String) × List UInt8 :=
  ((sampleSecret, sampleInput),
    [208, 245, 7, 199, 130, 191, 153, 145, 197, 118, 189, 125, 223, 129, 57, 89, 88, 65, 61, 64,
      218, 31, 206, 13, 166, 245, 231, 57, 210, 185, 93, 44])

/-- The crates on these claims. -/
def sampleCrates : Crates := .ofTables [header.text, sampleClaims.text] [sampleMac]

/-- The token of these claims. -/
def sampleToken : String := sampleInput ++ ".0PUHx4K_mZHFdr1934E5WVhBPUDaH84NpvXnOdK5XSw"

theorem encode_sampleClaims : encode sampleCrates sampleClaims sampleSecret = .ok sampleToken := by
  decide +kernel

/-- The hour from time 0: valid at 100, expired at 3600. -/
theorem decode_encode_sample :
    decode Claims sampleCrates sampleToken sampleSecret 100 =
        .ok (⟨"HS256", some "JWT"⟩, sampleClaims) ∧
      decode Claims sampleCrates sampleToken sampleSecret 3600 = .error .expired := by
  have hheader : sampleCrates.ReadsBack header.text := by rfl
  have hclaims : sampleCrates.ReadsBack sampleClaims.text := by rfl
  obtain ⟨token, htoken, hvalid, -⟩ :=
    decode_encode sampleCrates sampleClaims sampleSecret 100 hheader hclaims
  obtain ⟨token', htoken', -, hexpired⟩ :=
    decode_encode sampleCrates sampleClaims sampleSecret 3600 hheader hclaims
  obtain rfl : sampleToken = token := Except.ok.inj (encode_sampleClaims.symm.trans htoken)
  obtain rfl : sampleToken = token' := Except.ok.inj (encode_sampleClaims.symm.trans htoken')
  exact ⟨hvalid (by decide), hexpired (by decide)⟩

/-! ## What is read as claims -/

/-- The `exp` member that was seen so far. -/
def ClaimsFields.expMember (seen : ClaimsFields) : List (String × JsonText) :=
  (seen.exp.map fun exp => ("exp", JsonText.int exp.toInt)).toList

theorem ClaimsFields.expMember_visit {seen seen' : ClaimsFields} {member : String × JsonText}
    (h : seen.visit member = .ok seen') :
    seen'.expMember = seen.expMember ++ [member].filter fun m => m.1 = "exp" := by
  obtain ⟨key, text⟩ := member
  rw [ClaimsFields.visit] at h
  split_ifs at h with hsub hseen hiat hseen hexp hseen
  · obtain ⟨sub, -, rfl⟩ := map_eq_ok_iff.mp h
    obtain rfl : key = "sub" := hsub
    simp [expMember]
  · obtain ⟨iat, -, rfl⟩ := map_eq_ok_iff.mp h
    obtain rfl : key = "iat" := hiat
    simp [expMember]
  · obtain ⟨exp, htext, rfl⟩ := map_eq_ok_iff.mp h
    obtain rfl : key = "exp" := hexp
    obtain rfl : text = .int exp.toInt := JsonText.asI64_eq_ok_iff.mp htext
    have hnone : seen.exp = none := by simpa using hseen
    simp [expMember, hnone]
  · cases h
    simp [hexp]

theorem ClaimsFields.expMember_visits {members : List (String × JsonText)} :
    ∀ {seen seen' : ClaimsFields}, members.foldlM ClaimsFields.visit seen = .ok seen' →
      seen'.expMember = seen.expMember ++ members.filter fun m => m.1 = "exp" := by
  induction members with
  | nil =>
    intro seen seen' h
    cases h
    simp
  | cons member members ih =>
    intro seen seen' h
    rw [List.foldlM_cons] at h
    obtain ⟨next, hnext, hrest⟩ := bind_eq_ok_iff.mp h
    rw [ih hrest, expMember_visit hnext, List.append_assoc, ← List.filter_append,
      List.singleton_append]

/-- An object that is read as claims has one `exp` member, the expiry. -/
theorem Claims.filter_exp {members : List (String × JsonText)} {claims : Claims}
    (h : Claims.ofText (.object members) = .ok claims) :
    (members.filter fun m => m.1 = "exp") = [("exp", .int claims.exp.toInt)] := by
  rw [Claims.ofText] at h
  simp only [bind_eq_ok_iff, required_eq_ok_iff] at h
  obtain ⟨seen, hseen, sub, -, iat, -, exp, hexp, heq⟩ := h
  obtain rfl : ⟨sub, iat, exp⟩ = claims := Except.ok.inj heq
  have hmembers := ClaimsFields.expMember_visits hseen
  simpa [ClaimsFields.expMember, hexp] using hmembers.symm

/-- An array that is read as claims has three items, the last one the expiry. -/
theorem Claims.array_exp {items : List JsonText} {claims : Claims}
    (h : Claims.ofText (.array items) = .ok claims) :
    ∃ iat : Int64, items = [.string claims.sub, .int iat.toInt, .int claims.exp.toInt] := by
  rw [Claims.ofText.eq_def] at h
  split at h
  · rename_i heq
    cases heq
  · rename_i sub iat exp heq
    obtain rfl : items = [sub, iat, exp] := JsonText.array.inj heq
    simp only [bind_eq_ok_iff] at h
    obtain ⟨sub', hsub, iat', hiat, exp', hexp, hclaims⟩ := h
    obtain rfl : ⟨sub', iat', exp'⟩ = claims := Except.ok.inj hclaims
    rw [JsonText.asString_eq_ok_iff.mp hsub, JsonText.asI64_eq_ok_iff.mp hiat,
      JsonText.asI64_eq_ok_iff.mp hexp]
    exact ⟨iat', rfl⟩
  all_goals cases h

/-! ## The payloads that slip through -/

/-- The payload is an object that has an integer under the key. -/
def HasInt (text : JsonText) (key : String) (n : ℤ) : Prop :=
  ∃ members, text = .object members ∧ (key, .int n) ∈ members

/-- The payloads whose times are not all checked. -/
inductive Slips (now : Int64) : JsonText → Prop where
  /-- An array has no `exp` for the check to find. -/
  | array {items : List JsonText} {n : ℤ} (hexp : items[2]? = some (.int n)) (hn : n ≤ now.toInt) :
      Slips now (.array items)
  /-- An object that is no value is not checked. -/
  | noValue {members : List (String × JsonText)}
      (hvalue : (JsonText.object members).readable = false)
      (htime : (∃ n, ("exp", .int n) ∈ members ∧ n ≤ now.toInt) ∨
        ∃ n, ("nbf", .int n) ∈ members ∧ now.toInt < n) :
      Slips now (.object members)
  /-- Only the last `nbf` of an object is checked, and only if it fits in an `i64`. -/
  | nbf {members : List (String × JsonText)} {n : ℤ}
      (hvalue : (JsonText.object members).readable = true)
      (hexp : ∀ n, ("exp", .int n) ∈ members → now.toInt < n)
      (hnbf : ("nbf", .int n) ∈ members) (hn : now.toInt < n)
      (hlast : ∀ nbf, (JsonText.lastMember "nbf" members).bind JsonText.asI64? = some nbf →
        nbf ≤ now) :
      Slips now (.object members)

section Slips

variable {now : Int64} {claims : Claims}

/-- The integer under `exp` is the expiry. -/
theorem Claims.exp_mem_iff {members : List (String × JsonText)}
    (h : Claims.ofText (.object members) = .ok claims) {n : ℤ} :
    ("exp", JsonText.int n) ∈ members ↔ n = claims.exp.toInt := by
  have hmem : ("exp", JsonText.int n) ∈ members ↔
      ("exp", JsonText.int n) ∈ members.filter fun m => m.1 = "exp" := by
    simp [List.mem_filter]
  rw [hmem, Claims.filter_exp h]
  simp

theorem Claims.lastMember_exp {members : List (String × JsonText)}
    (h : Claims.ofText (.object members) = .ok claims) :
    JsonText.lastMember "exp" members = some (.int claims.exp.toInt) := by
  rw [JsonText.lastMember, Claims.filter_exp h]
  rfl

theorem slips_array_iff {items : List JsonText} (h : Claims.ofText (.array items) = .ok claims) :
    Slips now (.array items) ↔ claims.exp ≤ now := by
  obtain ⟨iat, rfl⟩ := Claims.array_exp h
  rw [Int64.le_iff_toInt_le]
  constructor
  · intro hslips
    cases hslips with
    | array hexp hn =>
      obtain rfl : claims.exp.toInt = _ := by simpa using hexp
      exact hn
  · exact fun hexp => .array rfl hexp

/-- For an object, in the terms of the check. -/
theorem slips_object_iff {members : List (String × JsonText)}
    (h : Claims.ofText (.object members) = .ok claims) :
    Slips now (.object members) ↔
      TimesOk (.object members) now ∧
        (claims.exp ≤ now ∨ ∃ n, ("nbf", .int n) ∈ members ∧ now.toInt < n) := by
  have hexp : ∀ exp, (JsonText.lastMember "exp" members).bind JsonText.asI64? = some exp ↔
      claims.exp = exp := by
    simp [Claims.lastMember_exp h]
  simp only [TimesOk, JsonText.get?, hexp, forall_eq']
  constructor
  · intro hslips
    cases hslips with
    | noValue hvalue htime =>
      refine ⟨fun hreadable => absurd hreadable (by simp [hvalue]), htime.imp_left ?_⟩
      rintro ⟨n, hn, hle⟩
      obtain rfl := (Claims.exp_mem_iff h).mp hn
      exact Int64.le_iff_toInt_le.mpr hle
    | nbf hvalue hlive hnbf hn hlast =>
      have hlt : now < claims.exp :=
        Int64.lt_iff_toInt_lt.mpr (hlive _ ((Claims.exp_mem_iff h).mpr rfl))
      exact ⟨fun _ => ⟨hlt, hlast⟩, .inr ⟨_, hnbf, hn⟩⟩
  · rintro ⟨htimes, hbad⟩
    by_cases hvalue : (JsonText.object members).readable = true
    · obtain ⟨hlt, hlast⟩ := htimes hvalue
      rcases hbad with hexpired | ⟨n, hnbf, hn⟩
      · exact absurd hexpired (Int64.not_le.mpr hlt)
      · refine .nbf hvalue (fun n hn => ?_) hnbf hn hlast
        obtain rfl := (Claims.exp_mem_iff h).mp hn
        exact Int64.lt_iff_toInt_lt.mp hlt
    · refine .noValue (Bool.eq_false_iff.mpr hvalue) (hbad.imp_left fun hexpired => ?_)
      exact ⟨_, (Claims.exp_mem_iff h).mpr rfl, Int64.le_iff_toInt_le.mp hexpired⟩

/-- A payload that is read as claims slips through when its times are right as a value and
wrong as they are. -/
theorem slips_iff {text : JsonText} (h : Claims.ofText text = .ok claims) :
    Slips now text ↔
      TimesOk text now ∧ (claims.exp ≤ now ∨ ∃ n, HasInt text "nbf" n ∧ now.toInt < n) := by
  cases text with
  | array items =>
    rw [slips_array_iff h]
    simp [TimesOk, JsonText.get?, HasInt]
  | object members =>
    rw [slips_object_iff h]
    simp [HasInt]
  | _ => cases h

end Slips

/-! ## What is accepted -/

section OnlyValid

variable (X : Crates) (token : String) (secret : List UInt8) (now : Int64)

/-- A token is accepted for the right reasons only: three segments, the third one the
signature of the others, the right algorithm, not expired, and not before any `nbf`.  With a
wrong signature the answer says nothing else. -/
def OnlyValid : Prop :=
  (∀ header claims, decode Claims X token secret now = .ok (header, claims) →
    ∃ headerB64 payloadB64 signatureB64,
      Text.splitOn '.' token = [headerB64, payloadB64, signatureB64] ∧
      X.base64Decode signatureB64 =
        .ok (X.hmacSha256 secret (signingInput headerB64 payloadB64)) ∧
      header.alg = "HS256" ∧ now < claims.exp ∧
      ∀ text, X.Holds payloadB64 text → ∀ nbf, HasInt text "nbf" nbf → nbf ≤ now.toInt) ∧
  ∀ headerB64 payloadB64 signatureB64 signature,
    Text.splitOn '.' token = [headerB64, payloadB64, signatureB64] →
    X.base64Decode signatureB64 = .ok signature →
    X.hmacSha256 secret (signingInput headerB64 payloadB64) ≠ signature →
    decode Claims X token secret now = .error .invalidSignature

/-- The token is signed, with the right header, and its payload has the shape of claims and
is one of those whose times are not all checked. -/
def SignedSlip : Prop :=
  ∃ headerB64 payloadB64 signatureB64 headerText header text claims,
    Text.splitOn '.' token = [headerB64, payloadB64, signatureB64] ∧
    X.base64Decode signatureB64 =
      .ok (X.hmacSha256 secret (signingInput headerB64 payloadB64)) ∧
    X.Holds headerB64 headerText ∧ Header.ofText headerText = .ok header ∧
    header.alg = "HS256" ∧
    X.Holds payloadB64 text ∧ Claims.ofText text = .ok claims ∧ Slips now text

variable {X token secret now}

/-- With a wrong signature, the answer does not depend on the other segments. -/
theorem decode_of_bad_signature {headerB64 payloadB64 signatureB64 : String}
    {signature : List UInt8}
    (hsplit : Text.splitOn '.' token = [headerB64, payloadB64, signatureB64])
    (hsig : X.base64Decode signatureB64 = .ok signature)
    (hbad : X.hmacSha256 secret (signingInput headerB64 payloadB64) ≠ signature) :
    decode Claims X token secret now = .error .invalidSignature := by
  have hsig' : X.jwt64Decode signatureB64 = .ok signature := mapError_eq_ok_iff.mpr hsig
  simp only [decode, hsplit, hsig', bind_ok, ensure_of_neg hbad]
  rfl

/-- A token is accepted for the right reasons only, unless it is signed and its payload
slips through. -/
theorem onlyValid_iff : OnlyValid X token secret now ↔ ¬ SignedSlip X token secret now := by
  constructor
  · rintro ⟨hvalid, -⟩ ⟨headerB64, payloadB64, signatureB64, headerText, header, text, claims,
      hsplit, hsig, hheader, hread, halg, hpayload, hclaims, hslips⟩
    obtain ⟨htimes, hbad⟩ := (slips_iff hclaims).mp hslips
    have haccept : decode Claims X token secret now = .ok (header, claims) :=
      decode_eq_ok_iff.mpr ⟨_, _, _, hsplit, hsig, ⟨_, hheader, hread⟩, halg, _, hpayload, htimes,
        hclaims⟩
    obtain ⟨_, _, _, hsplit', -, -, hexp, hnbf⟩ := hvalid header claims haccept
    rw [hsplit] at hsplit'
    cases hsplit'
    rcases hbad with hexpired | ⟨n, hn, hlt⟩
    · exact absurd hexpired (Int64.not_le.mpr hexp)
    · exact absurd (hnbf text hpayload n hn) (Int.not_le.mpr hlt)
  · refine fun hno => ⟨fun header claims haccept => ?_, fun _ _ _ _ => decode_of_bad_signature⟩
    obtain ⟨headerB64, payloadB64, signatureB64, hsplit, hsig, ⟨headerText, hheader, hread⟩, halg,
      text, hpayload, htimes, hclaims⟩ := decode_eq_ok_iff.mp haccept
    have hgood : ¬ (claims.exp ≤ now ∨ ∃ n, HasInt text "nbf" n ∧ now.toInt < n) := fun hbad =>
      hno ⟨_, _, _, _, _, _, _, hsplit, hsig, hheader, hread, halg, hpayload, hclaims,
        (slips_iff hclaims).mpr ⟨htimes, hbad⟩⟩
    rw [not_or, not_exists] at hgood
    refine ⟨_, _, _, hsplit, hsig, halg, Int64.not_le.mp hgood.1, fun text' htext' n hn => ?_⟩
    obtain rfl : text' = text := htext'.unique hpayload
    exact Int.not_lt.mp fun hlt => hgood.2 n ⟨hn, hlt⟩

end OnlyValid

/-! ## A token that expired long ago -/

/-- The claims of an account as an array, expired at time 0. -/
def arrayText : JsonText := .array [.string "account-123", .int 0, .int 0]

/-- What is signed for this payload. -/
def arrayInput : String :=
  "eyJhbGciOiJIUzI1NiIsInR5cCI6IkpXVCJ9.WyJhY2NvdW50LTEyMyIsMCwwXQ"

/-- The crates on this payload. -/
def arrayCrates : Crates :=
  .ofTables [header.text, arrayText]
    [((sampleSecret, arrayInput),
      [191, 63, 141, 191, 43, 148, 113, 136, 218, 220, 246, 48, 199, 164, 244, 115, 120, 30, 112,
        215, 87, 100, 62, 145, 4, 107, 36, 193, 233, 93, 45, 246])]

/-- The token for this payload. -/
def arrayToken : String := arrayInput ++ ".vz-NvyuUcYja3PYwx6T0c3gecNdXZD6RBGskweldLfY"

/-- It is accepted an hour later. -/
theorem decode_arrayToken :
    decode Claims arrayCrates arrayToken sampleSecret 3600 =
        .ok (⟨"HS256", some "JWT"⟩, ⟨"account-123", 0, 0⟩) ∧
      ¬ OnlyValid arrayCrates arrayToken sampleSecret 3600 := by
  have haccept : decode Claims arrayCrates arrayToken sampleSecret 3600 =
      .ok (⟨"HS256", some "JWT"⟩, ⟨"account-123", 0, 0⟩) := by
    decide +kernel
  refine ⟨haccept, fun honly => ?_⟩
  obtain ⟨_, _, _, -, -, -, hexp, -⟩ := honly.1 _ _ haccept
  exact absurd hexp (by decide)

end Jwt

end Cctf

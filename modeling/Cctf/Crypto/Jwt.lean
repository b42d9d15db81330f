import Cctf.Library.Base64
import Cctf.Library.Checks
import Cctf.Library.JsonText
import Cctf.Library.Text

/-!
# Session tokens

`crypto/jwt.rs`: a header and a payload as JSON, each in base64, and the SHA-256 HMAC of
the two, joined by dots.

* `Header`, `Claims` — what a token says, and how `serde` writes and reads it.
* `Crates` — the `base64`, `hmac`, `sha2` and `serde_json` crates, as a parameter.
* `encode`, `issue` — making a token.
* `decode` — checking a token, the expiry on the payload as a value first and the payload
  as the caller's type last.
* `decode_eq_ok_iff` — what is accepted, one condition for each check.
-/

namespace Cctf

open Checks

namespace Jwt

/-! ## What a token says -/

/-- A header. -/
structure Header where
  alg : String
  typ : Option String
  deriving DecidableEq, Repr

/-- The claims of an account's session. -/
structure Claims where
  sub : String
  iat : Int64
  exp : Int64
  deriving DecidableEq, Repr

/-- Why a token is refused. -/
inductive JwtError where
  | invalidFormat
  | invalidSignature
  | expired
  | notYetValid
  | invalidJson (reason : JsonError)
  | base64DecodeError (reason : String)
  deriving DecidableEq, Repr

/-- The text of a header. -/
def Header.text (header : Header) : JsonText :=
  .object [("alg", .string header.alg), ("typ", header.typ.elim .null .string)]

instance : Serialize Header := ⟨fun header => .ok header.text⟩

/-- The fields of a header that were seen so far. -/
structure HeaderFields where
  alg : Option String
  typ : Option (Option String)

/-- One member of an object that is read as a header. -/
def HeaderFields.visit (seen : HeaderFields) (member : String × JsonText) :
    Except JsonError HeaderFields :=
  if member.1 = "alg" then
    if seen.alg.isSome then .error (.duplicateField "alg")
    else member.2.asString.map fun alg => { seen with alg := some alg }
  else if member.1 = "typ" then
    if seen.typ.isSome then .error (.duplicateField "typ")
    else member.2.asOptionString.map fun typ => { seen with typ := some typ }
  else .ok seen

/-- Read a header: an object, or an array with its fields in order. -/
def Header.ofText : JsonText → Except JsonError Header
  | .object members => do
    let seen ← members.foldlM HeaderFields.visit ⟨none, none⟩
    let alg ← required seen.alg (.missingField "alg")
    pure ⟨alg, seen.typ.getD none⟩
  | .array [alg, typ] => do pure ⟨← alg.asString, ← typ.asOptionString⟩
  | .array items => .error (.invalidLength items.length)
  | .unreadable => .error .unreadable
  | _ => .error .invalidType

instance : Deserialize Header := ⟨Header.ofText⟩

/-- The text of claims. -/
def Claims.text (claims : Claims) : JsonText :=
  .object [("sub", .string claims.sub), ("iat", .int claims.iat.toInt),
    ("exp", .int claims.exp.toInt)]

instance : Serialize Claims := ⟨fun claims => .ok claims.text⟩

/-- The fields of claims that were seen so far. -/
structure ClaimsFields where
  sub : Option String
  iat : Option Int64
  exp : Option Int64

/-- One member of an object that is read as claims. -/
def ClaimsFields.visit (seen : ClaimsFields) (member : String × JsonText) :
    Except JsonError ClaimsFields :=
  if member.1 = "sub" then
    if seen.sub.isSome then .error (.duplicateField "sub")
    else member.2.asString.map fun sub => { seen with sub := some sub }
  else if member.1 = "iat" then
    if seen.iat.isSome then .error (.duplicateField "iat")
    else member.2.asI64.map fun iat => { seen with iat := some iat }
  else if member.1 = "exp" then
    if seen.exp.isSome then .error (.duplicateField "exp")
    else member.2.asI64.map fun exp => { seen with exp := some exp }
  else .ok seen

/-- Read claims: an object, or an array with the fields in order. -/
def Claims.ofText : JsonText → Except JsonError Claims
  | .object members => do
    let seen ← members.foldlM ClaimsFields.visit ⟨none, none, none⟩
    let sub ← required seen.sub (.missingField "sub")
    let iat ← required seen.iat (.missingField "iat")
    let exp ← required seen.exp (.missingField "exp")
    pure ⟨sub, iat, exp⟩
  | .array [sub, iat, exp] => do pure ⟨← sub.asString, ← iat.asI64, ← exp.asI64⟩
  | .array items => .error (.invalidLength items.length)
  | .unreadable => .error .unreadable
  | _ => .error .invalidType

instance : Deserialize Claims := ⟨Claims.ofText⟩

/-! ## The crates -/

/-- The crates behind a token. -/
structure Crates where
  /-- `URL_SAFE_NO_PAD.encode`. -/
  base64Encode : List UInt8 → String
  /-- `URL_SAFE_NO_PAD.decode`; an error is its text. -/
  base64Decode : String → Except String (List UInt8)
  /-- What was encoded is decoded. -/
  base64Decode_encode : ∀ bytes, base64Decode (base64Encode bytes) = .ok bytes
  /-- Only letters of the alphabet are decoded. -/
  base64Decode_alphabet : ∀ text bytes, base64Decode text = .ok bytes →
    ∀ c ∈ text.toList, c ∈ Base64.alphabet
  /-- The SHA-256 HMAC of a message; a secret of any length will do. -/
  hmacSha256 : (secret : List UInt8) → (message : String) → List UInt8
  /-- The bytes that `serde_json` writes for a document. -/
  printJson : JsonText → List UInt8
  /-- The document that `serde_json` finds in the bytes. -/
  parseJson : List UInt8 → Except JsonError JsonText

namespace Crates

variable (X : Crates)

/-- `serde_json::to_vec`. -/
def toVec {P : Type} [Serialize P] (payload : P) : Except JwtError (List UInt8) :=
  ((Serialize.serialize payload).map X.printJson).mapError .invalidJson

/-- `serde_json::from_slice`. -/
def fromSlice (P : Type) [Deserialize P] (bytes : List UInt8) : Except JwtError P :=
  ((X.parseJson bytes).bind Deserialize.deserialize).mapError .invalidJson

/-- `jwt64_decode`. -/
def jwt64Decode (text : String) : Except JwtError (List UInt8) :=
  (X.base64Decode text).mapError .base64DecodeError

/-- Does a document that was written come back? -/
def ReadsBack (text : JsonText) : Prop := X.parseJson (X.printJson text) = .ok text

end Crates

/-! ## Making a token -/

/-- The header of every token. -/
def header : Header := ⟨"HS256", some "JWT"⟩

/-- What is signed: the header and the payload. -/
def signingInput (headerB64 payloadB64 : String) : String := headerB64 ++ "." ++ payloadB64

/-- `encode`. -/
def encode {P : Type} [Serialize P] (X : Crates) (payload : P) (secret : List UInt8) :
    Except JwtError String := do
  let headerJson ← X.toVec header
  let payloadJson ← X.toVec payload
  let input := signingInput (X.base64Encode headerJson) (X.base64Encode payloadJson)
  pure (input ++ "." ++ X.base64Encode (X.hmacSha256 secret input))

/-- `issue`, at a time; the sum wraps around as in a release build. -/
def issue (X : Crates) (sub : String) (ttlSeconds : Int64) (secret : List UInt8) (now : Int64) :
    Except JwtError String :=
  encode X { sub, iat := now, exp := now + ttlSeconds : Claims } secret

/-! ## Checking a token -/

/-- The time checks of a payload that is a value. -/
def checkTimes (v : JsonValue) (now : Int64) : Except JwtError Unit := do
  ensureFor ((v.text.get? "exp").bind JsonText.asI64?) (fun exp => now < exp) .expired
  ensureFor ((v.text.get? "nbf").bind JsonText.asI64?) (fun nbf => nbf ≤ now) .notYetValid

/-- The time checks of a payload, skipped if it is no value. -/
def checkPayload (X : Crates) (payloadJson : List UInt8) (now : Int64) : Except JwtError Unit :=
  match X.fromSlice JsonValue payloadJson with
  | .ok v => checkTimes v now
  | .error _ => .ok ()

/-- `decode`, at a time. -/
def decode (P : Type) [Deserialize P] (X : Crates) (token : String) (secret : List UInt8)
    (now : Int64) : Except JwtError (Header × P) :=
  match Text.splitOn '.' token with
  | [headerB64, payloadB64, signatureB64] => do
    let signature ← X.jwt64Decode signatureB64
    ensure (X.hmacSha256 secret (signingInput headerB64 payloadB64) = signature) .invalidSignature
    let headerJson ← X.jwt64Decode headerB64
    let header ← X.fromSlice Header headerJson
    ensure (header.alg = "HS256") .invalidFormat
    let payloadJson ← X.jwt64Decode payloadB64
    checkPayload X payloadJson now
    let payload ← X.fromSlice P payloadJson
    pure (header, payload)
  | _ => .error .invalidFormat

/-! ## What is accepted -/

/-- The segment is base64 for the document. -/
def Crates.Holds (X : Crates) (segment : String) (text : JsonText) : Prop :=
  ∃ bytes, X.base64Decode segment = .ok bytes ∧ X.parseJson bytes = .ok text

/-- The times that a payload has as a value, if it is one, are right. -/
def TimesOk (text : JsonText) (now : Int64) : Prop :=
  text.readable = true →
    (∀ exp, (text.get? "exp").bind JsonText.asI64? = some exp → now < exp) ∧
      ∀ nbf, (text.get? "nbf").bind JsonText.asI64? = some nbf → nbf ≤ now

section Accepted

variable {X : Crates} {secret : List UInt8} {now : Int64} {P : Type} [Deserialize P]

/-- A segment is for one document. -/
theorem Crates.Holds.unique {segment : String} {text text' : JsonText}
    (h : X.Holds segment text) (h' : X.Holds segment text') : text = text' := by
  obtain ⟨bytes, hbytes, htext⟩ := h
  obtain ⟨bytes', hbytes', htext'⟩ := h'
  obtain rfl : bytes = bytes' := Except.ok.inj (hbytes.symm.trans hbytes')
  exact Except.ok.inj (htext.symm.trans htext')

/-- What is written comes back out of its segment. -/
theorem Crates.ReadsBack.holds {text : JsonText} (h : X.ReadsBack text) :
    X.Holds (X.base64Encode (X.printJson text)) text :=
  ⟨_, X.base64Decode_encode _, h⟩

theorem fromSlice_eq_ok_iff {bytes : List UInt8} {p : P} :
    X.fromSlice P bytes = .ok p ↔
      ∃ text, X.parseJson bytes = .ok text ∧ Deserialize.deserialize text = .ok p := by
  rw [Crates.fromSlice, mapError_eq_ok_iff]
  exact bind_eq_ok_iff

theorem checkTimes_eq_ok_iff {v : JsonValue} :
    checkTimes v now = .ok () ↔
      (∀ exp, (v.text.get? "exp").bind JsonText.asI64? = some exp → now < exp) ∧
        ∀ nbf, (v.text.get? "nbf").bind JsonText.asI64? = some nbf → nbf ≤ now := by
  rw [checkTimes, bind_eq_ok_iff]
  simp only [ensureFor_eq_ok_iff, exists_const]

/-- As a value, a document is itself. -/
theorem fromSlice_value {bytes : List UInt8} {text : JsonText} (htext : X.parseJson bytes = .ok text)
    (hreadable : text.readable = true) : X.fromSlice JsonValue bytes = .ok ⟨text, hreadable⟩ :=
  fromSlice_eq_ok_iff.mpr ⟨text, htext, dif_pos hreadable⟩

theorem checkPayload_eq_ok_iff {bytes : List UInt8} {text : JsonText}
    (htext : X.parseJson bytes = .ok text) :
    checkPayload X bytes now = .ok () ↔ TimesOk text now := by
  rw [TimesOk]
  by_cases hreadable : text.readable = true
  · rw [checkPayload, fromSlice_value htext hreadable]
    simp only [hreadable, forall_const]
    exact checkTimes_eq_ok_iff
  · -- no value, no check
    have hnone : ∀ v, X.fromSlice JsonValue bytes ≠ .ok v := by
      intro v hv
      obtain ⟨text', htext', hv⟩ := fromSlice_eq_ok_iff.mp hv
      obtain rfl : text = text' := Except.ok.inj (htext.symm.trans htext')
      simp [Deserialize.deserialize, hreadable] at hv
    rw [checkPayload]
    cases hv : X.fromSlice JsonValue bytes with
    | ok v => exact absurd hv (hnone v)
    | error e => exact iff_of_true rfl fun h => absurd h hreadable

/-- A token that is accepted: three segments, the signature on the first two, a header for
the algorithm, and a payload with the times right as a value and the right shape as the
caller's type. -/
theorem decode_eq_ok_iff {token : String} {header : Header} {payload : P} :
    decode P X token secret now = .ok (header, payload) ↔
      ∃ headerB64 payloadB64 signatureB64,
        Text.splitOn '.' token = [headerB64, payloadB64, signatureB64] ∧
        X.base64Decode signatureB64 =
          .ok (X.hmacSha256 secret (signingInput headerB64 payloadB64)) ∧
        (∃ text, X.Holds headerB64 text ∧ Header.ofText text = .ok header) ∧
        header.alg = "HS256" ∧
        ∃ text, X.Holds payloadB64 text ∧ TimesOk text now ∧
          Deserialize.deserialize text = .ok payload := by
  constructor
  · intro h
    rw [decode] at h
    split at h
    · rename_i headerB64 payloadB64 signatureB64 hsplit
      simp only [bind_eq_ok_iff, ensure_eq_ok_iff, Crates.jwt64Decode, mapError_eq_ok_iff,
        fromSlice_eq_ok_iff] at h
      obtain ⟨signature, hsig, _, rfl, headerJson, hheader64, header', ⟨headerText, hparse, hread⟩,
        _, halg, payloadJson, hpayload64, _, htimes, payload', ⟨text, htext, hp⟩, heq⟩ := h
      obtain ⟨rfl, rfl⟩ := Prod.mk.inj (Except.ok.inj heq)
      exact ⟨_, _, _, hsplit, hsig, ⟨headerText, ⟨headerJson, hheader64, hparse⟩, hread⟩, halg,
        text, ⟨payloadJson, hpayload64, htext⟩, (checkPayload_eq_ok_iff htext).mp htimes, hp⟩
    · cases h
  · rintro ⟨headerB64, payloadB64, signatureB64, hsplit, hsig,
      ⟨headerText, ⟨headerJson, hheader64, hparse⟩, hread⟩, halg,
      text, ⟨payloadJson, hpayload64, htext⟩, htimes, hp⟩
    simp only [decode, hsplit, bind_eq_ok_iff, ensure_eq_ok_iff, Crates.jwt64Decode,
      mapError_eq_ok_iff, fromSlice_eq_ok_iff]
    exact ⟨_, hsig, (), rfl, headerJson, hheader64, header, ⟨headerText, hparse, hread⟩, (), halg,
      payloadJson, hpayload64, (), (checkPayload_eq_ok_iff htext).mpr htimes, payload,
      ⟨text, htext, hp⟩, rfl⟩

/-- A token that is signed, with the right header: the checks of its payload decide. -/
theorem decode_of_signed {token headerB64 payloadB64 signatureB64 : String} {headerText : JsonText}
    {header : Header} {bytes : List UInt8}
    (hsplit : Text.splitOn '.' token = [headerB64, payloadB64, signatureB64])
    (hsig : X.base64Decode signatureB64 =
      .ok (X.hmacSha256 secret (signingInput headerB64 payloadB64)))
    (hheader : X.Holds headerB64 headerText) (hread : Header.ofText headerText = .ok header)
    (halg : header.alg = "HS256") (hpayload : X.base64Decode payloadB64 = .ok bytes) :
    decode P X token secret now = (do
      checkPayload X bytes now
      let payload ← X.fromSlice P bytes
      pure (header, payload)) := by
  obtain ⟨headerJson, hheader64, hparse⟩ := hheader
  have hsig' : X.jwt64Decode signatureB64 =
      .ok (X.hmacSha256 secret (signingInput headerB64 payloadB64)) := mapError_eq_ok_iff.mpr hsig
  have hheader' : X.jwt64Decode headerB64 = .ok headerJson := mapError_eq_ok_iff.mpr hheader64
  have hpayload' : X.jwt64Decode payloadB64 = .ok bytes := mapError_eq_ok_iff.mpr hpayload
  have hslice : X.fromSlice Header headerJson = .ok header :=
    fromSlice_eq_ok_iff.mpr ⟨headerText, hparse, hread⟩
  simp only [decode, hsplit, hsig', hheader', hslice, hpayload', ensure_of_pos halg,
    ensure_of_pos, bind_ok]

end Accepted

/-! ## The tokens that are made -/

section Made

variable (X : Crates) (text : JsonText)

/-- What is signed for a payload. -/
def sessionInput : String :=
  signingInput (X.base64Encode (X.printJson header.text)) (X.base64Encode (X.printJson text))

/-- The token for a payload. -/
def sessionToken (secret : List UInt8) : String :=
  sessionInput X text ++ "." ++ X.base64Encode (X.hmacSha256 secret (sessionInput X text))

variable {X text}

theorem encode_eq {P : Type} [Serialize P] {payload : P} (secret : List UInt8)
    (h : Serialize.serialize payload = .ok text) :
    encode X payload secret = .ok (sessionToken X text secret) := by
  have hheader : X.toVec header = .ok (X.printJson header.text) := rfl
  have hpayload : X.toVec payload = .ok (X.printJson text) := by
    rw [Crates.toVec, h]
    rfl
  rw [encode, hheader, hpayload]
  rfl

/-- What is encoded has letters of the alphabet only. -/
theorem Crates.mem_alphabet_of_mem_encode {bytes : List UInt8} {c : Char}
    (h : c ∈ (X.base64Encode bytes).toList) : c ∈ Base64.alphabet :=
  X.base64Decode_alphabet _ bytes (X.base64Decode_encode bytes) c h

theorem Crates.dot_not_mem_encode (bytes : List UInt8) : '.' ∉ (X.base64Encode bytes).toList :=
  fun h => absurd (mem_alphabet_of_mem_encode h) (by decide)

theorem splitOn_sessionToken (secret : List UInt8) :
    Text.splitOn '.' (sessionToken X text secret) =
      [X.base64Encode (X.printJson header.text), X.base64Encode (X.printJson text),
        X.base64Encode (X.hmacSha256 secret (sessionInput X text))] := by
  rw [Text.splitOn_eq_three_iff]
  refine ⟨?_, X.dot_not_mem_encode _, X.dot_not_mem_encode _, X.dot_not_mem_encode _⟩
  simp [sessionToken, sessionInput, signingInput]

end Made

/-! ## The crates on given inputs -/

mutual

/-- The compact text of a document whose strings need no escapes. -/
def compact : JsonText → List Char
  | .null => "null".toList
  | .bool b => (toString b).toList
  | .int n => (toString n).toList
  | .float | .unreadable => []
  | .string s => '"' :: s.toList ++ ['"']
  | .array items => '[' :: compactItems items ++ [']']
  | .object members => '\x7b' :: compactMembers members ++ ['\x7d']

/-- The items of an array. -/
def compactItems : List JsonText → List Char
  | [] => []
  | [t] => compact t
  | t :: ts => compact t ++ ',' :: compactItems ts

/-- The members of an object. -/
def compactMembers : List (String × JsonText) → List Char
  | [] => []
  | [(key, t)] => '"' :: key.toList ++ '"' :: ':' :: compact t
  | (key, t) :: ms => '"' :: key.toList ++ '"' :: ':' :: compact t ++ ',' :: compactMembers ms

end

/-- The bytes of a character in UTF-8. -/
def utf8 (c : Char) : List UInt8 :=
  if c.toNat < 128 then [.ofNat c.toNat] else String.utf8EncodeChar c

/-- The bytes of a compact text. -/
def compactBytes (text : JsonText) : List UInt8 := (compact text).flatMap utf8

/-- The crates, with `serde_json` on some documents and `hmac` on some messages. -/
def Crates.ofTables (documents : List JsonText)
    (macs : List ((List UInt8 × String) × List UInt8)) : Crates where
  base64Encode := fun bytes => String.ofList (Base64.encode bytes)
  base64Decode := fun text =>
    match Base64.decode text.toList with
    | some bytes => .ok bytes
    | none => .error "Invalid input"
  base64Decode_encode := fun bytes => by
    simp [Base64.decode_encoded]
  base64Decode_alphabet := fun text bytes h => by
    cases hdecode : Base64.decode text.toList with
    | none =>
      rw [hdecode] at h
      cases h
    | some bytes' => exact Base64.mem_alphabet_of_decode hdecode
  hmacSha256 := fun secret message =>
    ((macs.find? fun mac => mac.1 = (secret, message)).map Prod.snd).getD []
  printJson := compactBytes
  parseJson := fun bytes =>
    match documents.find? fun text => compactBytes text = bytes with
    | some text => .ok text
    | none => .error (.syntaxError "expected value")

end Jwt

end Cctf

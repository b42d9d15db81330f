import Cctf.Api.App
import Cctf.Api.Proxy
import Cctf.Crypto.Sessions
import Cctf.Library.Slices

/-!
# Extractors

What a handler finds in the headers of a request before it starts: the language, the account
of the session token, and the address of the client.

* `Message`, `LocalizedError` — an error: its status, and the entries of the locale files that
  its text is looked up from.
* `getLang`, `authenticatedUser`, `optionalUser` — `PreferredLang`, `AuthenticatedUser` and
  `OptionalUser`.
* `clientIp` — `ClientIp`, behind a trusted proxy or not.
* `authenticatedUser_eq_ok_iff` — **who is let in**: the header is `Bearer` and a token that
  `decode` accepts.
* `clientIp_of_forwarded` — behind a proxy that adds the address it sees to a header that is text,
  the client has no say.
-/

namespace Cctf

/-! ## Errors -/

/-- A text that is looked up in the locale files. -/
inductive Message where
  | text (s : String)
  /-- The text of a `serde_json` error. -/
  | json (err : JsonError)
  /-- `LOCALES.lookup` -/
  | entry (lang key : String)
  /-- `LOCALES.lookup_with_args`, with the `reason`. -/
  | entryWith (lang key : String) (reason : Message)
  deriving DecidableEq, Repr

/-- `LocalizedError`. -/
structure LocalizedError where
  status : ℕ
  message : Message
  deriving DecidableEq, Repr

/-- `JwtError::localize`. -/
def Jwt.JwtError.message (lang : String) : Jwt.JwtError → Message
  | .invalidFormat => .entry lang "jwt-invalid-format"
  | .invalidSignature => .entry lang "jwt-invalid-signature"
  | .expired => .entry lang "jwt-token-expired"
  | .notYetValid => .entry lang "jwt-not-yet-valid"
  | .invalidJson reason => .entryWith lang "jwt-invalid-json" (.json reason)
  | .base64DecodeError reason => .entryWith lang "jwt-base64-error" (.text reason)

/-- `RepoError::localize`. -/
def RepoError.message (lang : String) : RepoError → Message
  | .connection _ => .entry lang "server-db-connection-failed"
  | .notFound => .entry lang "ctf-challenge-not-found"
  | .conflict key => .entry lang key
  | .internal reason => .entryWith lang "admin-db-internal-error" (.text reason)

/-- `ServiceError::localize`. -/
def ServiceError.message (lang : String) : ServiceError → Message
  | .repo err => err.message lang
  | .unauthorized => .entry lang "auth-not-logged-in"
  | .invalidRequest key => .entry lang key
  | .rateLimitExceeded => .entry lang "ctf-rate-limit-exceeded"
  | .oauth reason => .entryWith lang "oauth-invalid-credentials" (.text reason)
  | .kube reason => .entryWith lang "kube-api-error" (.text reason)

/-- `map_localized`. -/
def ServiceError.localized (lang : String) (e : ServiceError) : LocalizedError :=
  ⟨e.status, e.message lang⟩

/-! ## Headers -/

/-- A header whose value can be read as text. -/
def HeaderMap.text (headers : HeaderMap) (name : String) : Option String :=
  (Multimap.get headers name).bind toStr

/-- `get_lang`: the first of the accepted languages. -/
def getLang (headers : HeaderMap) : String :=
  ((HeaderMap.text headers "accept-language").map fun s =>
    Text.trim ((Text.splitOn ',' s).head?.getD "en-US")).getD "en-US"

/-- `auth_header["Bearer ".len()..]`, for a header that starts with it. -/
def bearerToken (authHeader : String) : Option String :=
  if "Bearer ".toList.isPrefixOf authHeader.toList then
    some (String.ofList (authHeader.toList.drop "Bearer ".toList.length))
  else none

/-- `AuthenticatedUser`, at a time. -/
def authenticatedUser (X : Jwt.Crates) (jwtSecret : List UInt8) (headers : HeaderMap)
    (now : Int64) : Except LocalizedError AccountId :=
  let lang := getLang headers
  match HeaderMap.text headers "authorization" with
  | none => .error ⟨401, .entry lang "auth-missing-header"⟩
  | some authHeader =>
    match bearerToken authHeader with
    | none => .error ⟨401, .entry lang "auth-invalid-scheme"⟩
    | some token =>
      match Jwt.decode Jwt.Claims X token jwtSecret now with
      | .error e => .error ⟨401, .entryWith lang "auth-invalid-token" (e.message "en-US")⟩
      | .ok (_, claims) => .ok ⟨claims.sub⟩

/-- `OptionalUser`. -/
def optionalUser (X : Jwt.Crates) (jwtSecret : List UInt8) (headers : HeaderMap) (now : Int64) :
    Option AccountId :=
  (authenticatedUser X jwtSecret headers now).toOption

section

variable {X : Jwt.Crates} {jwtSecret : List UInt8} {headers : HeaderMap} {now : Int64}

theorem bearerToken_eq_some_iff {authHeader token : String} :
    bearerToken authHeader = some token ↔ authHeader = "Bearer " ++ token := by
  rw [bearerToken]
  constructor
  · intro h
    split_ifs at h with hprefix
    obtain ⟨rest, hrest⟩ := List.isPrefixOf_iff_prefix.mp hprefix
    rw [← hrest, List.drop_left] at h
    obtain rfl := Option.some.inj h
    have htoList : ("Bearer " ++ String.ofList rest).toList = "Bearer ".toList ++ rest := by simp
    exact String.toList_injective (hrest.symm.trans htoList.symm)
  · rintro rfl
    rw [String.toList_append, if_pos (List.isPrefixOf_iff_prefix.mpr (List.prefix_append _ _)),
      List.drop_left, String.ofList_toList]

/-- What a header with a token is made of. -/
theorem authenticatedUser_of_bearer {token : String}
    (hheader : HeaderMap.text headers "authorization" = some ("Bearer " ++ token)) :
    authenticatedUser X jwtSecret headers now =
      match Jwt.decode Jwt.Claims X token jwtSecret now with
      | .error e =>
        .error ⟨401, .entryWith (getLang headers) "auth-invalid-token" (e.message "en-US")⟩
      | .ok (_, claims) => .ok ⟨claims.sub⟩ := by
  have htoken : bearerToken ("Bearer " ++ token) = some token := bearerToken_eq_some_iff.mpr rfl
  simp only [authenticatedUser, hheader, htoken]

/-- **Who is let in.** -/
theorem authenticatedUser_eq_ok_iff {id : AccountId} :
    authenticatedUser X jwtSecret headers now = .ok id ↔
      ∃ token header claims, HeaderMap.text headers "authorization" = some ("Bearer " ++ token) ∧
        Jwt.decode Jwt.Claims X token jwtSecret now = .ok (header, claims) ∧ claims.sub = id.val := by
  constructor
  · intro h
    rw [authenticatedUser] at h
    split at h
    · cases h
    · rename_i authHeader hheader
      split at h
      · cases h
      · rename_i token htoken
        obtain rfl := bearerToken_eq_some_iff.mp htoken
        split at h
        · cases h
        · rename_i header claims hdecode
          cases h
          exact ⟨token, header, claims, hheader, hdecode, rfl⟩
  · rintro ⟨token, header, claims, hheader, hdecode, hsub⟩
    rw [authenticatedUser_of_bearer hheader, hdecode]
    exact congrArg Except.ok (congrArg AccountId.mk hsub)

end

/-! ## The session of a token -/

namespace Jwt

/-- A session token is accepted until it expires. -/
theorem decode_sessionToken {X : Crates} {claims : Claims} (secret : List UInt8) (now : Int64)
    (hheader : X.ReadsBack header.text) (hclaims : X.ReadsBack claims.text) :
    decode Claims X (sessionToken X claims.text secret) secret now =
      if now < claims.exp then .ok (header, claims) else .error .expired := by
  have hslice : X.fromSlice Claims (X.printJson claims.text) = .ok claims :=
    fromSlice_eq_ok_iff.mpr ⟨_, hclaims, claims.ofText_text⟩
  rw [decode_of_signed (splitOn_sessionToken secret) (X.base64Decode_encode _) hheader.holds
    (Header.ofText_text header) rfl (X.base64Decode_encode _), checkPayload_claims hclaims, hslice]
  by_cases hexp : now < claims.exp
  · rw [Checks.ensure_of_pos hexp, if_pos hexp]
    rfl
  · rw [Checks.ensure_of_neg hexp, if_neg hexp]
    rfl

end Jwt

/-! ## The address of the client -/

/-- `TRUST_PROXY_HEADERS`, as an environment has it. -/
def trustProxy (trustProxyHeaders : Option String) : Bool :=
  trustProxyHeaders.any fun v => v == "1" || Text.eqIgnoreAsciiCase v.toList "true".toList

/-- The last address of an `x-forwarded-for` header. -/
def forwardedFor (headers : HeaderMap) : Option String :=
  (((HeaderMap.text headers "x-forwarded-for").bind fun s =>
    (Text.splitOn ',' s).getLast?).map Text.trim).filter fun s => decide (s ≠ "")

/-- The address of an `x-real-ip` header. -/
def realIp (headers : HeaderMap) : Option String :=
  ((HeaderMap.text headers "x-real-ip").map Text.trim).filter fun s => decide (s ≠ "")

/-- `ClientIp`; `peer` is the address of the connection. -/
def clientIp (trust : Bool) (peer : Option String) (headers : HeaderMap) : String :=
  ((if trust then (forwardedFor headers).orElse fun _ => realIp headers else none).orElse
    fun _ => peer).getD "127.0.0.1"

/-- Without a trusted proxy the headers do not matter. -/
theorem clientIp_untrusted (peer : Option String) (headers : HeaderMap) :
    clientIp false peer headers = peer.getD "127.0.0.1" := rfl

/-! ### Behind a proxy -/

/-- An address as `IpAddr` is printed. -/
structure IpText (address : String) : Prop where
  nonempty : address ≠ ""
  noComma : ',' ∉ address.toList
  noSpace : ∀ c ∈ address.toList, Text.isWhitespace c = false

/-- `X-Forwarded-For` as a proxy passes it on: what the client sent, and the address that the
proxy sees. -/
def addForwarded (sent : Option String) (address : String) : String :=
  sent.elim address fun s => s ++ ", " ++ address

theorem IpText.trim {address : String} (h : IpText address) (spaces : List Char)
    (hspaces : ∀ c ∈ spaces, Text.isWhitespace c = true) :
    Text.trim (String.ofList (spaces ++ address.toList)) = address := by
  have hdrop : (spaces ++ address.toList).dropWhile Text.isWhitespace = address.toList := by
    rw [List.dropWhile_append_of_pos hspaces]
    cases hlist : address.toList with
    | nil => rfl
    | cons c cs =>
      have hc : Text.isWhitespace c = false := h.noSpace c (by simp [hlist])
      rw [List.dropWhile_cons_of_neg (by simp [hc])]
  have hrdrop : address.toList.rdropWhile Text.isWhitespace = address.toList := by
    rw [List.rdropWhile_eq_self_iff]
    intro hne hlast
    rw [h.noSpace _ (List.getLast_mem hne)] at hlast
    cases hlast
  rw [Text.trim, String.toList_ofList, Text.trimChars, hdrop, hrdrop, String.ofList_toList]

/-- The last part of what a proxy passes on is the address that it sees. -/
theorem trim_getLast_forwarded {address : String} (h : IpText address) (sent : Option String) :
    ((Text.splitOn ',' (addForwarded sent address)).getLast?).map Text.trim = some address := by
  cases sent with
  | none =>
    rw [addForwarded, Option.elim_none, Text.splitOn, List.splitOn_eq_singleton h.noComma]
    exact congrArg some (h.trim [] (by simp))
  | some s =>
    have hsplit : (s ++ ", " ++ address).toList = s.toList ++ ',' :: ' ' :: address.toList := by
      simp
    have hcomma : ',' ∉ ' ' :: address.toList := by simp [h.noComma]
    rw [addForwarded, Option.elim_some, Text.splitOn, hsplit, List.splitOn_append_cons_self,
      List.splitOn_eq_singleton hcomma, List.map_append, List.map_singleton,
      List.getLast?_concat]
    exact congrArg some (h.trim [' '] (by decide))

/-- **Behind a proxy that adds the address it sees, the client has no say**, as long as the first
`X-Forwarded-For` that arrives is text and ends with what the proxy added: then the address is the
one that the proxy saw, whatever comes before it and in other headers. -/
theorem clientIp_of_forwarded {address : String} (h : IpText address) {sent peer : Option String}
    {headers : HeaderMap}
    (hheader : HeaderMap.text headers "x-forwarded-for" = some (addForwarded sent address)) :
    clientIp true peer headers = address := by
  have hlast : forwardedFor headers = some address := by
    rw [forwardedFor, hheader, Option.bind_some, trim_getLast_forwarded h]
    simp [h.nonempty]
  rw [clientIp, if_pos rfl, hlast]
  rfl

end Cctf

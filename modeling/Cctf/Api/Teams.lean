import Cctf.Repos.Pg.Teams

/-!
# Joining a team

`join_team`: the handler behind an invite link.  It checks the signed token and the
bracket's script, moves the account to the team, and writes the longer member list
back.

* `verifyInviteToken` — the token check, with the `hmac`, `sha2` and `base64` crates
  as a parameter.
* `joinTeam` — the handler, as a program of SQL statements.
-/

namespace Cctf

open Pg

/-- The cryptography of invite tokens. -/
structure InviteCrypto where
  /-- The SHA-256 HMAC of a message under a secret. -/
  hmacSha256 : (secret message : String) → List UInt8
  /-- `BASE64_URL_SAFE_NO_PAD.decode`, an error being `none`. -/
  base64Decode : String → Option (List UInt8)

/-- `verify_invite_token`: the team and the expiry of a token that is well formed, not
expired and signed with the secret. -/
def verifyInviteToken (C : InviteCrypto) (token secret : String) (now : ℤ) :
    Option (String × ℤ) :=
  match Text.splitOn ':' token with
  | [teamId, expiresAtStr, signatureBase64] => do
    let expiresAt ← Text.parseI64 expiresAtStr
    if now > expiresAt then none
    else do
      let providedSig ← C.base64Decode signatureBase64
      if C.hmacSha256 secret (teamId ++ ":" ++ toString expiresAt) = providedSig then
        some (teamId, expiresAt)
      else none
  | _ => none

/-- A token that is accepted: three pieces, the second one a number that is not in the past,
the third one the HMAC of the first two, the number printed again. -/
theorem verifyInviteToken_eq_some_iff {C : InviteCrypto} {token secret teamId : String}
    {now expiresAt : ℤ} :
    verifyInviteToken C token secret now = some (teamId, expiresAt) ↔
      ∃ expiresAtStr signatureBase64,
        Text.splitOn ':' token = [teamId, expiresAtStr, signatureBase64] ∧
        Text.parseI64 expiresAtStr = some expiresAt ∧ now ≤ expiresAt ∧
        C.base64Decode signatureBase64 =
          some (C.hmacSha256 secret (teamId ++ ":" ++ toString expiresAt)) := by
  constructor
  · intro h
    rw [verifyInviteToken] at h
    split at h
    · rename_i teamId' expiresAtStr signatureBase64 hsplit
      obtain ⟨expiresAt', hparse, h⟩ := Option.bind_eq_some_iff.mp h
      split_ifs at h with hexpired
      obtain ⟨providedSig, hsig, h⟩ := Option.bind_eq_some_iff.mp h
      split_ifs at h with hmac
      obtain ⟨rfl, rfl⟩ := Prod.mk.inj (Option.some.inj h)
      exact ⟨_, _, hsplit, hparse, Int.not_lt.mp hexpired, by rw [hsig, hmac]⟩
    · cases h
  · rintro ⟨expiresAtStr, signatureBase64, hsplit, hparse, hlive, hsig⟩
    simp [verifyInviteToken, hsplit, hparse, hsig, Int.not_lt.mpr hlive]

/-- A response: its status, and the key of its message if it has one. -/
structure HttpResponse where
  status : ℕ
  message : Option String
  deriving DecidableEq, Repr

/-- One `join_team` request, with the time at which its token is checked. -/
structure JoinRequest where
  token : String
  accountId : AccountId
  now : ℤ
  deriving DecidableEq, Repr

/-- Does the bracket's script, if there is one, let the account in? -/
def bracketAllows (E : Engines) (scripts : String → Option String) (bracket : String)
    (account : Account) : Bool :=
  match scripts bracket with
  | some script => (E.evalBracket script (account.email.getD "") account.username).getD false
  | none => true

/-- `join_team`, after the token check.  A failed write of the team is ignored, as in
the source. -/
def joinVerified (E : Engines) (scripts : String → Option String) (teamId : TeamId)
    (accountId : AccountId) : Program Statement Statement.Resp HttpResponse := do
  match ← (Pg.TeamRepo.findById teamId).run with
  | .ok (some team) =>
    match ← (Pg.AccountRepo.findById accountId).run with
    | .ok (some account) =>
      if bracketAllows E scripts team.bracket account then
        match ← (Pg.AccountRepo.update { account with teamId := some team.id }).run with
        | .error _ => pure ⟨500, none⟩
        | .ok _ =>
          if accountId ∈ team.memberIds then pure ⟨200, none⟩
          else do
            let _ ← (Pg.TeamRepo.update
              { team with memberIds := team.memberIds ++ [accountId] }).run
            pure ⟨200, none⟩
      else pure ⟨403, some "ctf-bracket-domain-restricted"⟩
    | _ => pure ⟨401, none⟩
  | _ => pure ⟨404, some "ctf-team-not-found"⟩

/-- `join_team`. -/
def joinTeam (C : InviteCrypto) (E : Engines) (secret : String) (scripts : String → Option String)
    (req : JoinRequest) : Program Statement Statement.Resp HttpResponse :=
  match verifyInviteToken C req.token secret req.now with
  | none => pure ⟨400, some "ctf-invalid-invite-token"⟩
  | some (teamIdStr, _) => joinVerified E scripts ⟨teamIdStr⟩ req.accountId

/-- With a valid token, the request is for the team the token names. -/
theorem joinTeam_of_valid {C : InviteCrypto} {E : Engines} {secret : String}
    {scripts : String → Option String} {req : JoinRequest} {teamId : TeamId}
    (hvalid : (verifyInviteToken C req.token secret req.now).map Prod.fst = some teamId.val) :
    joinTeam C E secret scripts req = joinVerified E scripts teamId req.accountId := by
  rw [joinTeam]
  cases htoken : verifyInviteToken C req.token secret req.now with
  | none => simp [htoken] at hvalid
  | some claims =>
    obtain ⟨teamIdStr, expiresAt⟩ := claims
    obtain rfl : teamIdStr = teamId.val := by simpa [htoken] using hvalid
    rfl

end Cctf

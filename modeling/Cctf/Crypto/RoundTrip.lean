import Cctf.Crypto.Invites

/-!
# Invite tokens, there and back

`generate_invite_token` prints a team and an expiry next to their HMAC;
`verify_invite_token` cuts the text at its colons, reads the number, prints it again and
signs the result once more.

* `signature`, `withFields` — the HMAC of an invite as text, and a token that comes with
  it and any two fields.
* `verify_withFields_iff` — what such a token is accepted as.
* `invite_round_trip` — **the token of a team is accepted for it until it expires, and with
  another team or another number in it it is not accepted at all**.
-/

namespace Cctf

namespace Jwt

/-- The third field of an invite token. -/
def signature (X : Crates) (teamId : String) (expiresAt : Int64) (secret : List UInt8) : String :=
  X.base64Encode (X.hmacSha256 secret (inviteMessage teamId expiresAt.toInt))

/-- A token with two fields of its own and the third field of an invite. -/
def withFields (X : Crates) (teamId : String) (expiresAt : Int64) (secret : List UInt8)
    (first second : String) : String :=
  first ++ ":" ++ second ++ ":" ++ signature X teamId expiresAt secret

/-- HMAC does not collide on two messages: if one passes for the other they are the same. -/
def Distinguishes (X : Crates) (secret : List UInt8) (message message' : String) : Prop :=
  X.hmacSha256 secret message = X.hmacSha256 secret message' → message = message'

section

variable {X : Crates} {teamId : String} {expiresAt : Int64} {secret : List UInt8}

theorem withFields_self :
    withFields X teamId expiresAt secret teamId (toString expiresAt.toInt) =
      generateInviteToken X teamId expiresAt secret := rfl

theorem toList_withFields (first second : String) :
    (withFields X teamId expiresAt secret first second).toList =
      first.toList ++ ':' :: (second.toList ++ ':' :: (signature X teamId expiresAt secret).toList) := by
  simp [withFields]

theorem colon_not_mem_signature : ':' ∉ (signature X teamId expiresAt secret).toList := fun h =>
  absurd (X.base64Decode_alphabet _ _ (X.base64Decode_encode _) _ h) (by decide)

/-- The signature is read back as the HMAC. -/
theorem base64Decode_signature :
    (inviteCrypto X secret).base64Decode (signature X teamId expiresAt secret) =
      some (X.hmacSha256 secret (inviteMessage teamId expiresAt.toInt)) := by
  show (X.base64Decode (signature X teamId expiresAt secret)).toOption = _
  rw [signature, X.base64Decode_encode]
  rfl

/-- **What a token with the signature of an invite is accepted as**: its first two fields, when
the second one is a number that is not in the past and HMAC takes them for the invite. -/
theorem verify_withFields_iff {first second key teamId' : String} {now expiresAt' : ℤ} :
    verifyInviteToken (inviteCrypto X secret) (withFields X teamId expiresAt secret first second)
        key now = some (teamId', expiresAt') ↔
      teamId' = first ∧ ':' ∉ first.toList ∧ ':' ∉ second.toList ∧
        Text.parseI64 second = some expiresAt' ∧ now ≤ expiresAt' ∧
        X.hmacSha256 secret (inviteMessage teamId expiresAt.toInt) =
          X.hmacSha256 secret (inviteMessage first expiresAt') := by
  rw [verifyInviteToken_eq_some_iff]
  constructor
  · rintro ⟨expiresAtStr, signatureBase64, hsplit, hparse, hlive, hsig⟩
    obtain ⟨-, hfirst, hsecond, -⟩ := Text.splitOn_eq_three_iff.1 hsplit
    obtain ⟨rfl, rfl, rfl⟩ := Text.eq_of_splitOn_eq_three (toList_withFields first second)
      colon_not_mem_signature hsplit
    rw [base64Decode_signature] at hsig
    exact ⟨rfl, hfirst, hsecond, hparse, hlive, Option.some.inj hsig⟩
  · rintro ⟨rfl, hfirst, hsecond, hparse, hlive, hmac⟩
    refine ⟨second, signature X teamId expiresAt secret, ?_, hparse, hlive, ?_⟩
    · exact Text.splitOn_eq_three_iff.2
        ⟨toList_withFields _ _, hfirst, hsecond, colon_not_mem_signature⟩
    · rw [base64Decode_signature, hmac]
      rfl

/-- Until it expires an invite is accepted. -/
theorem verify_generateInviteToken (hteam : ':' ∉ teamId.toList) (key : String) (now : ℤ) :
    verifyInviteToken (inviteCrypto X secret) (generateInviteToken X teamId expiresAt secret) key
        now = if now ≤ expiresAt.toInt then some (teamId, expiresAt.toInt) else none := by
  have hparse : Text.parseI64 (toString expiresAt.toInt) = some expiresAt.toInt :=
    Text.parseI64_toString expiresAt.le_toInt expiresAt.toInt_lt
  rw [← withFields_self]
  by_cases hlive : now ≤ expiresAt.toInt
  · rw [if_pos hlive, verify_withFields_iff]
    exact ⟨rfl, hteam, colon_not_mem_toString _, hparse, hlive, rfl⟩
  · rw [if_neg hlive, Option.eq_none_iff_forall_ne_some]
    rintro ⟨teamId', expiresAt'⟩ haccept
    obtain ⟨-, -, -, hparse', hlive', -⟩ := verify_withFields_iff.1 haccept
    obtain rfl := Option.some.inj (hparse.symm.trans hparse')
    exact hlive hlive'

/-- With another team, or without its number, an invite is not accepted. -/
theorem verify_withFields_none {first second : String} (key : String) (now : ℤ)
    (hother : first ≠ teamId ∨ Text.parseI64 second ≠ some expiresAt.toInt)
    (hideal : ∀ n, Text.parseI64 second = some n →
      Distinguishes X secret (inviteMessage teamId expiresAt.toInt) (inviteMessage first n)) :
    verifyInviteToken (inviteCrypto X secret) (withFields X teamId expiresAt secret first second)
      key now = none := by
  rw [Option.eq_none_iff_forall_ne_some]
  rintro ⟨teamId', expiresAt'⟩ haccept
  obtain ⟨-, -, -, hparse, -, hmac⟩ := verify_withFields_iff.1 haccept
  obtain ⟨rfl, hnumber⟩ := inviteMessage_inj (hideal expiresAt' hparse hmac)
  rcases hother with hteam | hsecond
  · exact hteam rfl
  · exact hsecond (by rw [hparse, hnumber])

end

/-- **Invite tokens round-trip.**  The token of a team and an expiry is accepted, until then,
as what it was made for, and afterwards not at all.  A token with the same signature and
another team, or with a second field that is not the same number, is never accepted, as long
as HMAC tells the two messages apart. -/
theorem invite_round_trip (X : Crates) (secret : List UInt8) {teamId : String}
    (hteam : ':' ∉ teamId.toList) (expiresAt : Int64) (key : String) (now : ℤ) :
    verifyInviteToken (inviteCrypto X secret) (generateInviteToken X teamId expiresAt secret) key
        now = (if now ≤ expiresAt.toInt then some (teamId, expiresAt.toInt) else none) ∧
      ∀ first second : String,
        (first ≠ teamId ∨ Text.parseI64 second ≠ some expiresAt.toInt) →
        (∀ n, Text.parseI64 second = some n →
          Distinguishes X secret (inviteMessage teamId expiresAt.toInt) (inviteMessage first n)) →
        verifyInviteToken (inviteCrypto X secret)
          (withFields X teamId expiresAt secret first second) key now = none :=
  ⟨verify_generateInviteToken hteam key now,
    fun _ _ hother hideal => verify_withFields_none key now hother hideal⟩

/-- The crates on an invite and the same invite for another team. -/
def tamperedCrates : Crates :=
  .ofTables []
    [((sampleSecret, "team-1:3600"),
      [158, 104, 166, 221, 233, 214, 115, 27, 252, 34, 166, 161, 92, 253, 108, 30, 75, 205, 168,
        119, 101, 122, 155, 44, 71, 140, 110, 220, 27, 143, 170, 22]),
     ((sampleSecret, "team-2:3600"),
      [205, 247, 150, 13, 214, 36, 233, 149, 27, 33, 91, 188, 117, 18, 56, 101, 198, 129, 255, 198,
        107, 235, 97, 8, 43, 39, 132, 194, 222, 56, 200, 231])]

/-- The invite of `team-1` is accepted before its time is up, and not for `team-2`. -/
theorem invite_round_trip_team :
    verifyInviteToken (inviteCrypto tamperedCrates sampleSecret)
        (generateInviteToken tamperedCrates "team-1" 3600 sampleSecret) "" 100 =
        some ("team-1", 3600) ∧
      verifyInviteToken (inviteCrypto tamperedCrates sampleSecret)
        (withFields tamperedCrates "team-1" 3600 sampleSecret "team-2" "3600") "" 100 = none := by
  have hcolon : ':' ∉ "team-1".toList := by decide
  obtain ⟨haccept, hreject⟩ := invite_round_trip tamperedCrates sampleSecret hcolon 3600 "" 100
  have hnumber : Text.parseI64 "3600" = some 3600 := by decide +kernel
  refine ⟨haccept, hreject "team-2" "3600" (.inl (by decide)) fun n hn => ?_⟩
  obtain rfl : (3600 : ℤ) = n := Option.some.inj (hnumber.symm.trans hn)
  intro hsame
  have hdistinct : tamperedCrates.hmacSha256 sampleSecret (inviteMessage "team-1" 3600) ≠
      tamperedCrates.hmacSha256 sampleSecret (inviteMessage "team-2" 3600) := by decide +kernel
  exact absurd hsame hdistinct

end Jwt

end Cctf

import DocStore.Access.Token
import DocStore.Proofs.Codec.Base64Url
import DocStore.Proofs.Codec.Bytes
import DocStore.Proofs.Json.Spacing
import DocStore.Settings
import Mathlib.Data.Set.Subsingleton
/-!
Which tokens are accepted, and how long.

A token is accepted exactly if it is the signed form of claims that still hold,
so that a payload has one token (`verify_signed_eq_ok_iff`).  One that is issued says
what it was issued for, and holds to the end of its lifetime if that end has 64
bits (`verify_issue`); otherwise the end wraps to a time before the beginning,
and the token never holds (`accepted_within_lifetime_iff`).
-/

namespace DocStore.Access

variable {secret token subject : String} {lifetime : UInt64} {issued now : Int64}

/-- Claims are read back from their bytes, whoever bears the token. -/
theorem Claims.ofBytes?_toBytes (claims : Claims) : ofBytes? claims.toBytes = some claims := by
  have read : Json.parseRecord ["sub", "exp"] claims.toJson.text.toList =
      .ok [("sub", .string claims.subject),
        ("exp", .number ((Number.ofInt? claims.expiry.toInt).getD default))] :=
    Json.parseRecord_text
      { known := by simp
        distinct := by simp
        fits := by simpa using ⟨.string _ _, .number _ _⟩
        legible := by simpa using Number.legible_ofInt? claims.expiry.toInt }
  simp [ofBytes?, toBytes, Json.charsOfBytes, Bytes.toString?_ofString, read, Except.toOption,
    Json.FieldValues.typed?, Json.FieldValues.get?, List.lookup_cons, Json.asString?,
    Json.asInt64?_ofInt?]

/-- Bytes that are no text are passed over in a string that nobody asked for, but not behind a
backslash. -/
example :
    Claims.ofBytes? (Bytes.ofString "\x7b\"x\":\"" ++ [0xFF] ++
      Bytes.ofString "\",\"sub\":\"a\",\"exp\":5\x7d") = some ⟨"a", 5⟩ ∧
    Claims.ofBytes? (Bytes.ofString "\x7b\"x\":\"\\" ++ [0xFF] ++
      Bytes.ofString "\",\"sub\":\"a\",\"exp\":5\x7d") = none := by
  decide +kernel

theorem cut_signed (secret : String) (payload : Bytes) :
    Text.cut '.' (signed secret payload).toList =
      (Base64Url.encodeBytes payload,
        some (Base64Url.encodeBytes (Hmac.sign (Bytes.ofString secret) payload))) := by
  have written : (signed secret payload).toList = Base64Url.encodeBytes payload ++
      '.' :: Base64Url.encodeBytes (Hmac.sign (Bytes.ofString secret) payload) := by
    simp [signed, Base64Url.encode]
  rw [written, Text.cut_append (Base64Url.dot_notMem_encodeBytes payload)]

/-- What becomes of a payload that was signed with the secret. -/
theorem verify_signed (secret : String) (payload : Bytes) (now : Int64) :
    verify secret (signed secret payload) now =
      match Claims.ofBytes? payload with
      | none => .error .claims
      | some claims => if claims.expiry < now then .error .expired else .ok claims := by
  cases read : Claims.ofBytes? payload <;>
    simp [verify, cut_signed, Base64Url.decode?_encodeBytes, read]

/-- Only signed payloads come as far as their claims. -/
theorem exists_signed_of_verify {claims : Claims}
    (accepted : verify secret token now = .ok claims) :
    ∃ payload, token = signed secret payload := by
  unfold verify at accepted
  split at accepted
  next => cases accepted
  next before after found =>
    split at accepted
    next payload signature first second =>
      split at accepted
      next => cases accepted
      next genuine =>
        refine ⟨payload, ?_⟩
        obtain ⟨shape, -⟩ := Text.cut_some found
        rw [Base64Url.decode?_eq_some_iff] at first second
        rw [not_not] at genuine
        rw [← String.toList_inj, shape, first, second, genuine]
        simp [signed, Base64Url.encode]
    next => cases accepted

theorem verify_signed_eq_ok_iff {payload : Bytes} {claims : Claims} :
    verify secret (signed secret payload) now = .ok claims ↔
      Claims.ofBytes? payload = some claims ∧ now ≤ claims.expiry := by
  rw [verify_signed]
  cases Claims.ofBytes? payload with
  | none => simp
  | some found =>
      by_cases late : found.expiry < now
      · simp only [late, if_true, Option.some.injEq]
        refine ⟨nofun, ?_⟩
        rintro ⟨rfl, fresh⟩
        exact absurd late (Int64.not_lt.mpr fresh)
      · simp only [late, if_false, Except.ok.injEq, Option.some.injEq, iff_self_and]
        rintro rfl
        exact Int64.not_lt.mp late

/-- The end of a lifetime.  An end that has more than 64 bits wraps once. -/
theorem toInt_expiry (issued : Int64) (lifetime : UInt64) :
    (issued + lifetime.toInt64).toInt =
      if issued.toInt + lifetime.toNat < 2 ^ 63 then issued.toInt + lifetime.toNat
      else issued.toInt + lifetime.toNat - 2 ^ 64 := by
  have low := issued.le_toInt
  have high := issued.toInt_lt
  have long := lifetime.toNat_lt
  have seconds : lifetime.toInt64.toInt = (lifetime.toNat : Int).bmod (2 ^ 64) := by
    rw [← Int64.toInt_toBitVec, UInt64.toBitVec_toInt64, BitVec.toInt_eq_toNat_bmod]
    rfl
  rw [Int64.toInt_add, seconds, Int.add_bmod_bmod]
  split
  · exact Int.bmod_eq_of_le (by omega) (by omega)
  · rw [← Int.sub_bmod_right]
    exact Int.bmod_eq_of_le (by omega) (by omega)

/-- An issued token is genuine at any time: its age alone decides. -/
theorem verify_issue (secret subject : String) (lifetime : UInt64) (issued now : Int64) :
    verify secret (issue secret subject lifetime issued) now =
      if issued + lifetime.toInt64 < now then .error .expired
      else .ok ⟨subject, issued + lifetime.toInt64⟩ := by
  rw [issue, verify_signed, Claims.ofBytes?_toBytes]

/-- A token for a lifetime whose end is a time of 64 bits verifies up to that end. -/
theorem verify_issue_of_fits (secret subject : String) {lifetime : UInt64} {issued : Int64}
    (fits : issued.toInt + lifetime.toNat < 2 ^ 63) (now : Int64) :
    verify secret (issue secret subject lifetime issued) now =
      if now.toInt ≤ issued.toInt + lifetime.toNat then
        .ok ⟨subject, issued + lifetime.toInt64⟩
      else .error .expired := by
  have ends := toInt_expiry issued lifetime
  rw [if_pos fits] at ends
  rw [verify_issue]
  simp only [Int64.lt_iff_toInt_lt, ends]
  by_cases fresh : now.toInt ≤ issued.toInt + lifetime.toNat
  · rw [if_neg (by omega), if_pos fresh]
  · rw [if_pos (by omega), if_neg fresh]

/-- The end of a lifetime that wraps lies before its beginning. -/
theorem expiry_lt_issued {lifetime : UInt64} {issued : Int64}
    (wraps : ¬ issued.toInt + lifetime.toNat < 2 ^ 63) :
    (issued + lifetime.toInt64).toInt < issued.toInt := by
  have long := lifetime.toNat_lt
  rw [toInt_expiry, if_neg wraps]
  omega

/-- The payload of a token, read from the digits in front of its dot. -/
def payload? (token : String) : Option Bytes :=
  Base64Url.decode? (Text.cut '.' token.toList).1

theorem payload?_signed (secret : String) (payload : Bytes) :
    payload? (signed secret payload) = some payload := by
  rw [payload?, cut_signed, Base64Url.decode?_encodeBytes]

/-- A token is accepted exactly if it is a payload and its signature, and the claims of the payload
still hold.  A payload has one token that is ever accepted.  A token that is issued holds to the
end of its lifetime, if that is a time, and says who it was issued to. -/
theorem accepted_iff_genuine_fresh (secret : String) :
    (∀ (token : String) (now : Int64) (claims : Claims),
      verify secret token now = .ok claims ↔
        ∃ payload : Bytes,
          token = Base64Url.encode payload ++ "." ++
            Base64Url.encode (Hmac.sign (Bytes.ofString secret) payload) ∧
          Claims.ofBytes? payload = some claims ∧ now ≤ claims.expiry) ∧
      (∀ payload : Bytes, Set.Subsingleton
        {token | payload? token = some payload ∧
          ∃ now claims, verify secret token now = .ok claims}) ∧
      ∀ (subject : String) (lifetime : UInt64) (issued : Int64),
        issued.toInt + lifetime.toNat < 2 ^ 63 →
          ∃ expiry : Int64, expiry.toInt = issued.toInt + lifetime.toNat ∧
            ∀ now : Int64, verify secret (issue secret subject lifetime issued) now =
              if now.toInt ≤ issued.toInt + lifetime.toNat then .ok ⟨subject, expiry⟩
              else .error .expired := by
  refine ⟨fun token now claims => ⟨fun accepted => ?_, ?_⟩, fun payload => ?_,
    fun subject lifetime issued fits => ⟨issued + lifetime.toInt64, ?_, ?_⟩⟩
  · obtain ⟨payload, rfl⟩ := exists_signed_of_verify accepted
    exact ⟨payload, rfl, verify_signed_eq_ok_iff.mp accepted⟩
  · rintro ⟨payload, rfl, holds⟩
    exact verify_signed_eq_ok_iff.mpr holds
  · have known {token : String} (bears : payload? token = some payload)
        (accepted : ∃ now claims, verify secret token now = .ok claims) :
        token = signed secret payload := by
      obtain ⟨now, claims, accepted⟩ := accepted
      obtain ⟨own, rfl⟩ := exists_signed_of_verify accepted
      rw [payload?_signed, Option.some.injEq] at bears
      rw [bears]
    rintro token ⟨bears, accepted⟩ other ⟨bears', accepted'⟩
    rw [known bears accepted, known bears' accepted']
  · rw [toInt_expiry, if_pos fits]
  · exact verify_issue_of_fits secret subject fits

/-- A name that needs escapes, in the last second of a lifetime and after it. -/
theorem escapedName_accepted :
    (1000 : Int64).toInt + (60 : UInt64).toNat < 2 ^ 63 ∧
      verify "s3cret" (issue "s3cret" "é\"\\\n\x01" 60 1000) 1060 =
        .ok ⟨"é\"\\\n\x01", 1060⟩ ∧
      verify "s3cret" (issue "s3cret" "é\"\\\n\x01" 60 1000) 1061 = .error .expired := by
  have fits : (1000 : Int64).toInt + (60 : UInt64).toNat < 2 ^ 63 := by decide
  obtain ⟨expiry, ends, answers⟩ :=
    (accepted_iff_genuine_fresh "s3cret").2.2 "é\"\\\n\x01" 60 1000 fits
  have last : expiry = 1060 := Int64.toInt_inj.mp ends
  subst last
  refine ⟨fits, ?_, ?_⟩
  · rw [answers, if_pos (by decide)]
  · rw [answers, if_neg (by decide)]

/-- Within its lifetime a token is accepted exactly if the lifetime ends at a time of 64 bits. -/
theorem accepted_within_lifetime_iff (secret subject : String) {lifetime : UInt64}
    {issued now : Int64} (later : issued ≤ now)
    (within : now.toInt - issued.toInt ≤ lifetime.toNat) :
    (∃ claims, verify secret (issue secret subject lifetime issued) now = .ok claims) ↔
      issued.toInt + lifetime.toNat < 2 ^ 63 := by
  rw [Int64.le_iff_toInt_le] at later
  constructor
  · rintro ⟨claims, accepted⟩
    by_contra wraps
    have early := expiry_lt_issued wraps
    rw [verify_issue, if_pos (Int64.lt_iff_toInt_lt.mpr (early.trans_le later))] at accepted
    cases accepted
  · intro fits
    rw [verify_issue_of_fits secret subject fits, if_pos (by omega)]
    exact ⟨_, rfl⟩

/-- The longest lifetime that ends at a time of 64 bits, in its last second. -/
theorem longLifetime_accepted :
    (1000 : Int64) ≤ 9223372036854775807 ∧
      (9223372036854775807 : Int64).toInt - (1000 : Int64).toInt ≤
        (9223372036854774807 : UInt64).toNat ∧
      ∃ claims, verify "s3cret" (issue "s3cret" "admin" 9223372036854774807 1000)
        9223372036854775807 = .ok claims :=
  ⟨by decide, by decide,
    (accepted_within_lifetime_iff "s3cret" "admin" (by decide) (by decide)).mpr (by decide)⟩

/-- The longest lifetime that settings take: a token is refused a second after it was issued. -/
theorem endlessLifetime_refused :
    (Settings.ofEnvironment (.ofList [("TOKEN_TTL_SECS", "18446744073709551615")])).map
        Settings.tokenLifetime = .ok 18446744073709551615 ∧
      (0 : Int64) ≤ 1000 ∧ (1000 : Int64) ≤ 1001 ∧
      (1001 : Int64).toInt - (1000 : Int64).toInt ≤ (18446744073709551615 : UInt64).toNat ∧
      verify "s3cret" (issue "s3cret" "admin" 18446744073709551615 1000) 1001 =
        .error .expired := by
  refine ⟨by rfl, by decide, by decide, by decide, ?_⟩
  rw [verify_issue, if_pos (by decide)]

end DocStore.Access

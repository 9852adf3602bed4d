import DocStore.Codec.Base64Url
import DocStore.Codec.Hmac
import DocStore.Json.Record
import DocStore.Json.Writer
import DocStore.Text.Split

namespace DocStore.Access

/-- What a token says: who bears it and the last second at which it holds. -/
structure Claims where
  subject : String
  expiry : Int64
deriving DecidableEq

namespace Claims

def toJson (claims : Claims) : Json :=
  .object
    [("sub", .string claims.subject),
      ("exp", .number ((Number.ofInt? claims.expiry.toInt).getD default))]

def toBytes (claims : Claims) : Bytes := Bytes.ofString claims.toJson.text

/-- The claims that bytes spell. -/
def ofBytes? (bytes : Bytes) : Option Claims := do
  let found ← (Json.parseRecord ["sub", "exp"] (Json.charsOfBytes bytes)).toOption
  let subject ← found.typed? "sub" Json.asString?
  let expiry ← found.typed? "exp" Json.asInt64?
  some ⟨subject, expiry⟩

end Claims

inductive TokenFault where
  | malformed
  | encoding
  | signature
  | claims
  | expired
deriving DecidableEq, Repr

namespace TokenFault

def message : TokenFault → String
  | .malformed => "bad token"
  | .encoding => "bad b64"
  | .signature => "bad sig"
  | .claims => "bad claims"
  | .expired => "expired"

end TokenFault

def signed (secret : String) (payload : Bytes) : String :=
  Base64Url.encode payload ++ "." ++
    Base64Url.encode (Hmac.sign (Bytes.ofString secret) payload)

/-- A token that holds for `lifetime` seconds from `now`.  Times have 64 bits and wrap. -/
def issue (secret subject : String) (lifetime : UInt64) (now : Int64) : String :=
  signed secret (Claims.toBytes ⟨subject, now + lifetime.toInt64⟩)

/-- The claims of a token that is genuine and holds at `now`. -/
def verify (secret token : String) (now : Int64) : Except TokenFault Claims :=
  match Text.cut '.' token.toList with
  | (_, none) => .error .malformed
  | (payload, some signature) =>
      match Base64Url.decode? payload, Base64Url.decode? signature with
      | some payload, some signature =>
          if signature ≠ Hmac.sign (Bytes.ofString secret) payload then .error .signature
          else
            match Claims.ofBytes? payload with
            | none => .error .claims
            | some claims => if claims.expiry < now then .error .expired else .ok claims
      | _, _ => .error .encoding

end DocStore.Access

import DocStore.Access.Token
import DocStore.Settings

namespace DocStore.Access

inductive Refusal where
  | noToken
  | badToken (fault : TokenFault)
deriving DecidableEq, Repr

namespace Refusal

def message : Refusal → String
  | .noToken => "missing token"
  | .badToken fault => fault.message

end Refusal

/-- Whether a header can be read as text: visible ASCII characters, blanks and tabs. -/
def isPlain (c : Char) : Bool := (' ' ≤ c && c ≤ '~') || c == '\t'

def scheme : List Char := ['B', 'e', 'a', 'r', 'e', 'r', ' ']

/-- The token that a header bears. -/
def bearerToken? (header : String) : Option String :=
  if header.toList.all isPlain && scheme.isPrefixOf header.toList then
    some (String.ofList (header.toList.drop scheme.length))
  else none

/-- Lets everybody in where no tokens are asked for, and the bearers of good ones elsewhere. -/
def authorize (settings : Settings) (header : Option String) (now : Int64) :
    Except Refusal Unit :=
  match settings.secret with
  | none => .ok ()
  | some secret =>
      match header.bind bearerToken? with
      | none => .error .noToken
      | some token =>
          match verify secret token now with
          | .ok _ => .ok ()
          | .error fault => .error (.badToken fault)

end DocStore.Access

import DocStore.Codec.Utf8
import DocStore.Json.Reader

namespace DocStore.Json

def skimUnsigned (input : List Char) : Except Fault (List Char) := do
  let (whole, rest) ← readDigits input
  if whole.length > 1 ∧ whole.head? = some '0' then .error .malformed
  let (_, rest) ← readPart (· = '.') readDigits rest
  let (_, rest) ← readPart (fun c => c = 'e' || c = 'E') readExponent rest
  .ok rest

def skimChars : Nat → List Char → Except Fault (List Char)
  | 0, _ => .error .endOfText
  | _ + 1, [] => .error .endOfText
  | fuel + 1, c :: rest =>
      if c = '"' then .ok rest
      else if c = '\\' then
        match rest with
        | 'u' :: rest => do
            let (_, rest) ← readUnit rest
            skimChars fuel rest
        | _ => do
            let (_, rest) ← readEscape rest
            skimChars fuel rest
      else if c.toNat < 0x20 then .error .malformed
      else skimChars fuel rest

mutual

def skimValueWith : Nat → List Char → Except Fault (List Char)
  | 0, _ => .error .endOfText
  | fuel + 1, input =>
      match skipBlank input with
      | 'n' :: rest => readWord "ull".toList rest
      | 't' :: rest => readWord "rue".toList rest
      | 'f' :: rest => readWord "alse".toList rest
      | '"' :: rest => skimChars (rest.length + 1) rest
      | '-' :: rest => skimUnsigned rest
      | '[' :: rest =>
          match skipBlank rest with
          | ']' :: rest => .ok rest
          | rest => skimItems fuel rest
      | '\x7b' :: rest =>
          match skipBlank rest with
          | '\x7d' :: rest => .ok rest
          | rest => skimMembers fuel rest
      | rest =>
          if (rest.head?.map Char.isDigit).getD false then skimUnsigned rest
          else .error (stopped rest)

def skimItems : Nat → List Char → Except Fault (List Char)
  | 0, _ => .error .endOfText
  | fuel + 1, input => do
      let rest ← skimValueWith fuel input
      match skipBlank rest with
      | ',' :: rest => skimItems fuel rest
      | ']' :: rest => .ok rest
      | rest => .error (stopped rest)

def skimMembers : Nat → List Char → Except Fault (List Char)
  | 0, _ => .error .endOfText
  | fuel + 1, input =>
      match skipBlank input with
      | '"' :: rest => do
          let rest ← skimChars (rest.length + 1) rest
          match skipBlank rest with
          | ':' :: rest =>
              let rest ← skimValueWith fuel rest
              match skipBlank rest with
              | ',' :: rest => skimMembers fuel rest
              | '\x7d' :: rest => .ok rest
              | rest => .error (stopped rest)
          | rest => .error (stopped rest)
      | rest => .error (stopped rest)

end

def skimValue (input : List Char) : Except Fault (List Char) :=
  skimValueWith (2 * input.length + 2) input

/-- What stands for a run of bytes that are no text: half of a pair, in letters that keep it apart
from all around it.  Only a skimmed string may hold it, and not behind a backslash. -/
def noText : List Char := ['x', '\\', 'u', 'd', '8', '0', '0', 'x']

/-- The characters of bytes as they are read and skimmed. -/
def charsOfBytes (bytes : Bytes) : List Char :=
  match Bytes.toString? bytes with
  | some text => text.toList
  | none => Utf8.decodeMarking noText bytes

end DocStore.Json

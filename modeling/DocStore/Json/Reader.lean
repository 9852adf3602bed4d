import DocStore.Json
/-!
Reading JSON text.

The reader works on the characters that are left and returns a value with the
rest.  A text that stops too early is told apart from a malformed one, because
a torn file and a damaged file are reported differently.  Values nest at most
127 levels deep.
-/

namespace DocStore.Json

/-- Why a text is not the value asked for: it stops too early, it is not JSON, or it is JSON of
another shape. -/
inductive Fault where
  | endOfText
  | malformed
  | mismatch
deriving DecidableEq, Repr

abbrev Parsed (α : Type) := α × List Char

def maxDepth : Nat := 127

def isBlank (c : Char) : Bool := c = ' ' || c = '\n' || c = '\t' || c = '\r'

def skipBlank (input : List Char) : List Char := input.dropWhile isBlank

/-- The fault of input that cannot go on: it has ended or it is wrong. -/
def stopped : List Char → Fault
  | [] => .endOfText
  | _ :: _ => .malformed

def readWord : List Char → List Char → Except Fault (List Char)
  | [], input => .ok input
  | _ :: _, [] => .error .endOfText
  | expected :: word, c :: input => if c = expected then readWord word input else .error .malformed

def digitsValue (digits : List Char) : Nat :=
  digits.foldl (fun value c => 10 * value + (c.toNat - '0'.toNat)) 0

def readDigits (input : List Char) : Except Fault (Parsed (List Char)) :=
  match input.takeWhile Char.isDigit, input.dropWhile Char.isDigit with
  | [], rest => .error (stopped rest)
  | digits, rest => .ok (digits, rest)

/-- An optional part that begins with one of the given characters. -/
def readPart (opens : Char → Bool) (part : List Char → Except Fault (Parsed α))
    (input : List Char) : Except Fault (Parsed (Option α)) :=
  match input with
  | c :: rest =>
      if opens c then (part rest).map fun (value, rest) => (some value, rest)
      else .ok (none, input)
  | [] => .ok (none, [])

def readExponent (input : List Char) : Except Fault (Parsed Int) :=
  match input with
  | '-' :: rest => (readDigits rest).map fun (digits, rest) => (-(digitsValue digits : Int), rest)
  | '+' :: rest => (readDigits rest).map fun (digits, rest) => ((digitsValue digits : Int), rest)
  | _ => (readDigits input).map fun (digits, rest) => ((digitsValue digits : Int), rest)

/-- Goes on with a significand as long as it has 64 bits, and counts the digits that are left. -/
def readSignificand (value : Nat) : List Char → Nat × Nat
  | [] => (value, 0)
  | c :: rest =>
      let next := 10 * value + (c.toNat - '0'.toNat)
      if next < 2 ^ 64 then readSignificand next rest else (value, rest.length + 1)

/-- The number of a sign, integer digits, fraction digits and exponent.

A number without fraction and exponent is an integer if it has 64 bits, except that `-0` has no
integer.  Every other number is a binary64 number near to the decimal, made in steps from the digits
that fit into 64 bits; one that is too large has none. -/
def numberOf? (negative : Bool) (whole : List Char) (fraction : Option (List Char))
    (exponent : Option Int) : Option Number :=
  let (kept, dropped) := readSignificand 0 whole
  let (significand, left) := readSignificand kept (fraction.getD [])
  let places : Int := exponent.getD 0 + dropped + left - (fraction.getD []).length
  let float := (Binary64.ofSteps? negative significand places).map Number.float
  match fraction, exponent with
  | none, none =>
      let value := digitsValue whole
      if negative ∧ value = 0 then float
      else (Number.ofInt? (if negative then -(value : Int) else value)).or float
  | _, _ => float

/-- A number after its sign.  An integer part has no leading zero. -/
def readUnsigned (negative : Bool) (input : List Char) : Except Fault (Parsed Number) := do
  let (whole, rest) ← readDigits input
  if whole.length > 1 ∧ whole.head? = some '0' then .error .malformed
  let (fraction, rest) ← readPart (· = '.') readDigits rest
  let (exponent, rest) ← readPart (fun c => c = 'e' || c = 'E') readExponent rest
  match numberOf? negative whole fraction exponent with
  | some value => .ok (value, rest)
  | none => .error .malformed

def hexValue? (c : Char) : Option Nat :=
  if c.isDigit then some (c.toNat - '0'.toNat)
  else if 'a' ≤ c ∧ c ≤ 'f' then some (c.toNat - 'a'.toNat + 10)
  else if 'A' ≤ c ∧ c ≤ 'F' then some (c.toNat - 'A'.toNat + 10)
  else none

/-- Four hexadecimal digits, a 16-bit unit. -/
def readUnit (input : List Char) : Except Fault (Parsed Nat) :=
  match input with
  | a :: b :: c :: d :: rest =>
      match hexValue? a, hexValue? b, hexValue? c, hexValue? d with
      | some a, some b, some c, some d => .ok (((a * 16 + b) * 16 + c) * 16 + d, rest)
      | _, _, _, _ => .error .malformed
  | short =>
      if short.all fun c => (hexValue? c).isSome then .error .endOfText else .error .malformed

/-- The character of an escape after `\u`.  Characters above U+FFFF are written as two units; a
unit of such a pair alone stands for no character. -/
def readUnicodeEscape (input : List Char) : Except Fault (Parsed Char) := do
  let (unit, rest) ← readUnit input
  if 0xDC00 ≤ unit ∧ unit ≤ 0xDFFF then .error .malformed
  else if 0xD800 ≤ unit ∧ unit ≤ 0xDBFF then
    let rest ← readWord ['\\', 'u'] rest
    let (low, rest) ← readUnit rest
    if 0xDC00 ≤ low ∧ low ≤ 0xDFFF then
      .ok (Char.ofNat ((unit - 0xD800) * 0x400 + (low - 0xDC00) + 0x10000), rest)
    else .error .malformed
  else .ok (Char.ofNat unit, rest)

/-- The character of an escape after the backslash. -/
def readEscape : List Char → Except Fault (Parsed Char)
  | '"' :: rest => .ok ('"', rest)
  | '\\' :: rest => .ok ('\\', rest)
  | '/' :: rest => .ok ('/', rest)
  | 'b' :: rest => .ok ('\x08', rest)
  | 'f' :: rest => .ok ('\x0c', rest)
  | 'n' :: rest => .ok ('\n', rest)
  | 'r' :: rest => .ok ('\r', rest)
  | 't' :: rest => .ok ('\t', rest)
  | 'u' :: rest => readUnicodeEscape rest
  | rest => .error (stopped rest)

/-- The characters of a string up to its closing quote.  `fuel` bounds the number of characters. -/
def readChars : Nat → List Char → Except Fault (Parsed (List Char))
  | 0, _ => .error .endOfText
  | _ + 1, [] => .error .endOfText
  | fuel + 1, c :: rest =>
      if c = '"' then .ok ([], rest)
      else if c = '\\' then do
        let (c, rest) ← readEscape rest
        let (text, rest) ← readChars fuel rest
        .ok (c :: text, rest)
      else if c.toNat < 0x20 then .error .malformed
      else do
        let (text, rest) ← readChars fuel rest
        .ok (c :: text, rest)

def readString (input : List Char) : Except Fault (Parsed String) :=
  (readChars (input.length + 1) input).map fun (text, rest) => (String.ofList text, rest)

/-- The key of a member and the colon after it. -/
def readKey (input : List Char) : Except Fault (Parsed String) :=
  match skipBlank input with
  | '"' :: rest => do
      let (key, rest) ← readString rest
      match skipBlank rest with
      | ':' :: rest => .ok (key, rest)
      | rest => .error (stopped rest)
  | rest => .error (stopped rest)

mutual

/-- A value in which objects may repeat keys.  `fuel` bounds the calls and `depth` the levels that
may still be entered. -/
def readValueWith : Nat → Nat → List Char → Except Fault (Parsed Json)
  | 0, _, _ => .error .endOfText
  | fuel + 1, depth, input =>
      match skipBlank input with
      | 'n' :: rest => (readWord "ull".toList rest).map fun rest => (.null, rest)
      | 't' :: rest => (readWord "rue".toList rest).map fun rest => (.bool true, rest)
      | 'f' :: rest => (readWord "alse".toList rest).map fun rest => (.bool false, rest)
      | '"' :: rest => (readString rest).map fun (text, rest) => (.string text, rest)
      | '-' :: rest => (readUnsigned true rest).map fun (value, rest) => (.number value, rest)
      | '[' :: rest =>
          match depth with
          | 0 => .error .malformed
          | depth + 1 =>
              match skipBlank rest with
              | ']' :: rest => .ok (.array [], rest)
              | rest => (readItems fuel depth rest).map fun (items, rest) => (.array items, rest)
      | '\x7b' :: rest =>
          match depth with
          | 0 => .error .malformed
          | depth + 1 =>
              match skipBlank rest with
              | '\x7d' :: rest => .ok (.object [], rest)
              | rest =>
                  (readMembers fuel depth rest).map fun (members, rest) => (.object members, rest)
      | rest =>
          if (rest.head?.map Char.isDigit).getD false then
            (readUnsigned false rest).map fun (value, rest) => (.number value, rest)
          else .error (stopped rest)

/-- The items of a non-empty array and its closing bracket. -/
def readItems : Nat → Nat → List Char → Except Fault (Parsed (List Json))
  | 0, _, _ => .error .endOfText
  | fuel + 1, depth, input => do
      let (item, rest) ← readValueWith fuel depth input
      match skipBlank rest with
      | ',' :: rest =>
          let (items, rest) ← readItems fuel depth rest
          .ok (item :: items, rest)
      | ']' :: rest => .ok ([item], rest)
      | rest => .error (stopped rest)

def readMembers : Nat → Nat → List Char → Except Fault (Parsed (List (String × Json)))
  | 0, _, _ => .error .endOfText
  | fuel + 1, depth, input => do
      let (key, rest) ← readKey input
      let (value, rest) ← readValueWith fuel depth rest
      match skipBlank rest with
      | ',' :: rest =>
          let (members, rest) ← readMembers fuel depth rest
          .ok ((key, value) :: members, rest)
      | '\x7d' :: rest => .ok ([(key, value)], rest)
      | rest => .error (stopped rest)

end

/-- A value at `depth` levels below the limit.  Every second call consumes a character, so the fuel
suffices. -/
def readValue (depth : Nat) (input : List Char) : Except Fault (Parsed Json) :=
  readValueWith (2 * input.length + 2) depth input

def expectEnd (input : List Char) : Except Fault Unit :=
  if (skipBlank input).isEmpty then .ok () else .error .malformed

/-- The value of a whole text, keys repeated as written. -/
def parseRaw (text : String) : Except Fault Json := do
  let (value, rest) ← readValue maxDepth text.toList
  expectEnd rest
  .ok value

def parse (text : String) : Except Fault Json :=
  (parseRaw text).map settled

end DocStore.Json

import DocStore.Json.Reader
import DocStore.Primitive
/-!
Literals that words stand for: `null`, `true`, `false` and numbers.

A number has digits with at most one point among or around them and may have an
exponent.  One without point and exponent is an integer if it fits 64 bits with
a sign; all others are the nearest binary64 number.
-/

namespace DocStore.Query

/-- A number literal taken apart. -/
structure NumberShape where
  negative : Bool
  whole : List Char
  fraction : Option (List Char)
  exponent : Option (List Char)
deriving DecidableEq, Repr

namespace NumberShape

/-- Splits a text at its first character that `mark` accepts; that character is dropped. -/
def splitAt (mark : Char → Bool) (text : List Char) : List Char × Option (List Char) :=
  match text.dropWhile fun c => !mark c with
  | [] => (text, none)
  | _ :: rest => (text.takeWhile fun c => !mark c, some rest)

def ofWord (word : List Char) : NumberShape :=
  let (negative, body) := match word with
    | '-' :: rest => (true, rest)
    | _ => (false, word)
  let (mantissa, exponent) := splitAt (fun c => c = 'e' || c = 'E') body
  let (whole, fraction) := splitAt (· = '.') mantissa
  ⟨negative, whole, fraction, exponent⟩

/-- The digits of an exponent and whether it is negative. -/
def exponentParts : List Char → Bool × List Char
  | '-' :: digits => (true, digits)
  | '+' :: digits => (false, digits)
  | digits => (false, digits)

def isDigits (text : List Char) : Bool := text.all Char.isDigit

/-- Whether all parts are digits and enough of them are there. -/
def isNumber (shape : NumberShape) : Bool :=
  let mantissa := match shape.fraction with
    | none => !shape.whole.isEmpty && isDigits shape.whole
    | some fraction =>
        isDigits shape.whole && isDigits fraction && !(shape.whole.isEmpty && fraction.isEmpty)
  let exponent := match shape.exponent with
    | none => true
    | some text =>
        let (_, digits) := exponentParts text
        !digits.isEmpty && isDigits digits
  mantissa && exponent

/-- The power of ten that the exponent asks for. -/
def power (shape : NumberShape) : Int :=
  match shape.exponent with
  | none => 0
  | some text =>
      let (negative, digits) := exponentParts text
      if negative then -(Json.digitsValue digits : Int) else Json.digitsValue digits

/-- The binary64 number nearest to the value. -/
def toBinary64? (shape : NumberShape) : Option Binary64 :=
  let fraction := shape.fraction.getD []
  Binary64.ofDecimal? shape.negative (Json.digitsValue (shape.whole ++ fraction))
    (shape.power - fraction.length)

/-- The integer that is written, if the literal is one of 64 bits. -/
def toInteger? (shape : NumberShape) : Option Number :=
  match shape.fraction, shape.exponent with
  | none, none =>
      let magnitude : Int := Json.digitsValue shape.whole
      let value := if shape.negative then -magnitude else magnitude
      if -(2 ^ 63) ≤ value ∧ value < 2 ^ 63 then Number.ofInt? value else none
  | _, _ => none

end NumberShape

def numberLiteral? (word : List Char) : Option Number :=
  let shape := NumberShape.ofWord word
  if shape.isNumber then shape.toInteger?.or (shape.toBinary64?.map .float) else none

def literal? (word : String) : Option Primitive :=
  if word = "null" then some .null
  else if word = "true" then some (.bool true)
  else if word = "false" then some (.bool false)
  else (numberLiteral? word.toList).map .number

end DocStore.Query

import DocStore.Json.Reader
import DocStore.Regex.CharacterClass
import DocStore.Text.Blank

namespace DocStore.Regex

open Unicode (CodeSet)

structure Flags where
  ignoreCase : Bool
  multiLine : Bool
  dotAll : Bool
  crlf : Bool
  unicode : Bool
  spaced : Bool
deriving DecidableEq, Repr

namespace Flags

/-- The flags at the start of an expression. -/
def standard : Flags := ⟨false, false, false, false, true, false⟩

/-- The flags at the start of the expression of a glob pattern. -/
def glob : Flags := { standard with ignoreCase := true, dotAll := true }

end Flags

/-- Passes blanks and comments when they have no meaning. -/
def skipSpace (spaced : Bool) (input : List Char) : List Char :=
  if spaced then go (input.length + 1) input else input
where
  go : Nat → List Char → List Char
    | 0, input => input
    | _ + 1, [] => []
    | fuel + 1, c :: rest =>
        if Text.isBlank c then go fuel rest
        else if c = '#' then go fuel ((rest.dropWhile (· != '\n')).drop 1)
        else c :: rest

/-- What stands after the next character and the space behind it; nothing at the end. -/
def advance (spaced : Bool) (input : List Char) : Option (List Char) :=
  match skipSpace spaced (input.drop 1) with
  | [] => none
  | rest => some rest

inductive Element where
  | literal (c : Char) (isByte : Bool)
  | codes (codes : CodeSet)
  | look (condition : Look)

namespace Element

/-- Characters that mean something by themselves. -/
def isMeta (c : Char) : Bool :=
  "\\.+*?()|[]\x7b\x7d^$#&-~".toList.contains c

/-- Characters that a backslash before them makes stand for themselves. -/
def isEscapable (c : Char) : Bool :=
  isMeta c || (c.toNat < 0x80 && !c.isAlphanum && c != '<' && c != '>')

/-- The character of a hexadecimal number. -/
def ofHex? (digits : List Char) : Option Char := do
  let values ← digits.mapM Json.hexValue?
  let code := values.foldl (fun code value => 16 * code + value) 0
  if digits.isEmpty then none
  else if code < 0xD800 ∨ (0xE000 ≤ code ∧ code ≤ 0x10FFFF) then some (Char.ofNat code)
  else none

/-- The digits in front of a closing brace. -/
def bracedText (spaced : Bool) : Nat → List Char → Option (List Char × List Char)
  | 0, _ => none
  | fuel + 1, input => do
      let input ← advance spaced input
      match input with
      | '\x7d' :: _ => some ([], input)
      | c :: _ => (bracedText spaced fuel input).map fun (text, rest) => (c :: text, rest)
      | [] => none

/-- A number of digits, the first of which is next. -/
def fixedText (spaced : Bool) : Nat → List Char → Option (List Char × List Char)
  | 0, _ => some ([], [])
  | 1, c :: rest => some ([c], skipSpace spaced rest)
  | count + 1, c :: rest => do
      let input ← advance spaced (c :: rest)
      let (text, rest) ← fixedText spaced count input
      some (c :: text, rest)
  | _, [] => none

/-- A character given by its code, after the backslash.  Two digits after `x` stand for a byte. -/
def readHex (flags : Flags) (input : List Char) : Option (Element × List Char) := do
  let count ← match input.head? with
    | some 'x' => some 2
    | some 'u' => some 4
    | some 'U' => some 8
    | _ => none
  let start ← advance flags.spaced input
  match start with
  | '\x7b' :: _ => do
      let (digits, rest) ← bracedText flags.spaced (start.length + 1) start
      let c ← ofHex? digits
      some (.literal c false, skipSpace flags.spaced (rest.drop 1))
  | _ => do
      let (digits, rest) ← fixedText flags.spaced count start
      let c ← ofHex? digits
      some (.literal c (count == 2), rest)

/-- A set as written under the flags: case folded, then turned into its opposite. -/
def foldAndNegate (flags : Flags) (negated : Bool) (set : CodeSet) : CodeSet :=
  let folded :=
    if flags.ignoreCase then
      if flags.unicode then Unicode.CaseFolding.variants set
      else Unicode.CaseFolding.asciiVariants set
    else set
  if !negated then folded
  else if flags.unicode then folded.complement
  else folded.complement.inter ⟨[(0, 0xFF)]⟩

/-- A class of a property, after the backslash. -/
def readProperty (flags : Flags) (input : List Char) : Option (Element × List Char) := do
  let negated := input.head? == some 'P'
  let start ← advance flags.spaced input
  let ((set, opposite), rest) ← match start with
    | '\x7b' :: _ => do
        let (text, rest) ← bracedText flags.spaced (start.length + 1) start
        let found ← CharacterClass.braced? text
        some (found, rest.drop 1)
    | '\\' :: _ => none
    | c :: rest => do
        let set ← CharacterClass.named? [c]
        some ((set, false), skipSpace flags.spaced rest)
    | [] => none
  if flags.unicode then some (.codes (foldAndNegate flags (negated != opposite) set), rest)
  else none

/-- A class of digits, spaces or word characters, by its letter. -/
def perlClass? (flags : Flags) (letter : Char) : Option Element := do
  let (set, asciiSet) ← match letter.toLower with
    | 'd' => some (digitCodes, ⟨[(0x30, 0x39)]⟩)
    | 's' => some (spaceCodes, ⟨[(0x09, 0x0D), (0x20, 0x20)]⟩)
    | 'w' => some (wordCodes, asciiWordCodes)
    | _ => none
  let negated := letter.isUpper
  if flags.unicode then some (.codes (if negated then set.complement else set))
  else if negated then none
  else some (.codes asciiSet)

/-- The name of a look at words in braces after `\b`; nothing when the braces hold no name, so that
they are a repetition. -/
def readEdge (flags : Flags) (input : List Char) : Option (Option WordEdge × List Char) := do
  let isNameChar (c : Char) : Bool := c.isAlpha || c == '-'
  match input with
  | '\x7b' :: _ => do
      let start ← advance flags.spaced input
      if !(start.head?.map isNameChar).getD false then some (none, input)
      else
        let (name, rest) ← bracedText flags.spaced (input.length + 1) input
        match String.ofList name with
        | "start" => some (some .start, rest.drop 1)
        | "end" => some (some .stop, rest.drop 1)
        | "start-half" => some (some .startHalf, rest.drop 1)
        | "end-half" => some (some .stopHalf, rest.drop 1)
        | _ => none
  | _ => some (none, input)

/-- An escape, after its backslash. -/
def readEscape (flags : Flags) (input : List Char) : Option (Element × List Char) :=
  match input with
  | [] => none
  | c :: rest =>
      if c = 'x' ∨ c = 'u' ∨ c = 'U' then readHex flags input
      else if c = 'p' ∨ c = 'P' then readProperty flags input
      else if "dswDSW".toList.contains c then
        (perlClass? flags c).map fun element => (element, rest)
      else if isEscapable c then some (.literal c false, rest)
      else
        match c with
        | 'a' => some (.literal '\x07' false, rest)
        | 'f' => some (.literal '\x0c' false, rest)
        | 't' => some (.literal '\t' false, rest)
        | 'n' => some (.literal '\n' false, rest)
        | 'r' => some (.literal '\r' false, rest)
        | 'v' => some (.literal '\x0b' false, rest)
        | 'A' => some (.look .textStart, rest)
        | 'z' => some (.look .textEnd, rest)
        | 'b' =>
            (readEdge flags rest).map fun (edge, rest) =>
              (.look (.word (edge.getD .boundary) flags.unicode), rest)
        | 'B' => some (.look (.word .inside flags.unicode), rest)
        | '<' => some (.look (.word .start flags.unicode), rest)
        | '>' => some (.look (.word .stop flags.unicode), rest)
        | _ => none

/-- The code of a literal inside a class; bytes stop at ASCII. -/
def classCode? (flags : Flags) : Element → Option Nat
  | .literal c _ => if flags.unicode ∨ c.toNat < 0x80 then some c.toNat else none
  | _ => none

end Element

inductive SetOperator where
  | intersection
  | difference
  | symmetricDifference
deriving DecidableEq, Repr

namespace SetOperator

def apply : SetOperator → CodeSet → CodeSet → CodeSet
  | .intersection => .inter
  | .difference => .diff
  | .symmetricDifference => .symmDiff

end SetOperator

structure SetPart where
  set : CodeSet
  levels : Nat

structure SetItems where
  set : CodeSet
  levels : Nat
  count : Nat

namespace SetItems

def none : SetItems := ⟨.empty, 0, 0⟩

def add (items : SetItems) (part : SetPart) : SetItems :=
  ⟨items.set.union part.set, max items.levels part.levels, items.count + 1⟩

def addCodes (items : SetItems) (first last : Nat) : SetItems :=
  items.add ⟨⟨[(first, last)]⟩, 0⟩

/-- The items as one part; several items are one level deeper. -/
def part (items : SetItems) : SetPart :=
  ⟨items.set, if items.count < 2 then items.levels else items.levels + 1⟩

end SetItems

/-- Joins a part to the operand and operator before it. -/
def joinParts (flags : Flags) (before : Option (SetOperator × SetPart)) (part : SetPart) :
    SetPart :=
  match before with
  | none => part
  | some (operator, left) =>
      let fold := Element.foldAndNegate flags false
      ⟨operator.apply (fold left.set) (fold part.set), max left.levels part.levels + 1⟩

def peekPast (spaced : Bool) (input : List Char) : Option Char :=
  let rest := input.drop 1
  if spaced then (go false rest).or rest.head? else rest.head?
where
  go (inComment : Bool) : List Char → Option Char
    | [] => none
    | c :: rest =>
        if Text.isBlank c then go inComment rest
        else if !inComment && c == '#' then go true rest
        else some c

/-- A class of ASCII characters such as `[:alpha:]`, if there is one. -/
def readAsciiClass (input : List Char) : Option (CodeSet × List Char) := do
  let body ← match input with
    | '[' :: ':' :: rest => some rest
    | _ => none
  let (negated, body) := match body with
    | '^' :: rest => (true, rest)
    | _ => (false, body)
  let name := body.takeWhile (· != ':')
  match body.dropWhile (· != ':') with
  | ':' :: ']' :: rest => do
      let set ← CharacterClass.ascii? name
      some (if negated then set.complement else set, rest)
  | _ => none

def readSetElement (flags : Flags) : List Char → Option (Element × List Char)
  | [] => none
  | '\\' :: rest => Element.readEscape flags rest
  | c :: rest => some (.literal c false, rest)

def readSetRange (flags : Flags) (items : SetItems) (input : List Char) :
    Option (SetItems × List Char) := do
  let (first, rest) ← readSetElement flags input
  let rest := skipSpace flags.spaced rest
  let single : Option (SetItems × List Char) :=
    match first with
    | .codes set => some (items.add ⟨set, 0⟩, rest)
    | .look _ => none
    | .literal _ _ => (first.classCode? flags).map fun code => (items.addCodes code code, rest)
  match rest with
  | [] => none
  | '-' :: _ =>
      let after := peekPast flags.spaced rest
      if after = some ']' ∨ after = some '-' then single
      else do
        let rest ← advance flags.spaced rest
        let (last, rest) ← readSetElement flags rest
        let low ← first.classCode? flags
        let high ← last.classCode? flags
        if low ≤ high then some (items.addCodes low high, rest) else none
  | _ => single

/-- The hyphens, or the bracket, that stand for themselves at the start of a class. -/
def readSetStart (flags : Flags) : Nat → SetItems → List Char → Option (SetItems × List Char)
  | 0, _, _ => none
  | fuel + 1, items, input =>
      match input with
      | '-' :: _ => do
          let rest ← advance flags.spaced input
          readSetStart flags fuel (items.addCodes 0x2D 0x2D) rest
      | ']' :: _ =>
          if items.count = 0 then
            (advance flags.spaced input).map fun rest => (items.addCodes 0x5D 0x5D, rest)
          else some (items, input)
      | _ => some (items, input)

mutual

/-- A class whose opening bracket is next. -/
def readSet (flags : Flags) : Nat → List Char → Option (SetPart × List Char)
  | 0, _ => none
  | fuel + 1, input => do
      let input ← advance flags.spaced input
      let (negated, input) ← match input with
        | '^' :: _ => (advance flags.spaced input).map fun rest => (true, rest)
        | _ => some (false, input)
      let (items, input) ← readSetStart flags (input.length + 1) .none input
      let (part, input) ← readSetItems flags fuel none items input
      let set := Element.foldAndNegate flags negated part.set
      if flags.unicode ∨ set.ranges.all (fun range => range.2 < 0x80) then
        some (⟨set, part.levels + 1⟩, input)
      else none

/-- The items of a class up to its closing bracket. -/
def readSetItems (flags : Flags) :
    Nat → Option (SetOperator × SetPart) → SetItems → List Char → Option (SetPart × List Char)
  | 0, _, _, _ => none
  | fuel + 1, before, items, input =>
      let operate (operator : SetOperator) (rest : List Char) :=
        readSetItems flags fuel (some (operator, joinParts flags before items.part)) .none rest
      match skipSpace flags.spaced input with
      | [] => none
      | ']' :: rest => some (joinParts flags before items.part, rest)
      | '&' :: '&' :: rest => operate .intersection rest
      | '-' :: '-' :: rest => operate .difference rest
      | '~' :: '~' :: rest => operate .symmetricDifference rest
      | '[' :: rest =>
          match readAsciiClass ('[' :: rest) with
          | some (set, rest) =>
              let set := if flags.unicode then set else set.inter ⟨[(0, 0xFF)]⟩
              readSetItems flags fuel before (items.add ⟨set, 0⟩) rest
          | none => do
              let (part, rest) ← readSet flags fuel ('[' :: rest)
              readSetItems flags fuel before (items.add part) rest
      | start => do
          let (items, rest) ← readSetRange flags items start
          readSetItems flags fuel before items rest

end

end DocStore.Regex

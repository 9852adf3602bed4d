import DocStore.Regex.Class
import DocStore.Regex.Size

namespace DocStore.Regex

open Unicode (CodeSet)

def maxLevels : Nat := 250

/-- A part of an expression.  Flags are parts too, but cannot be repeated. -/
structure Piece where
  node : Node
  levels : Nat
  isFlags : Bool

namespace Piece

def ofNode (node : Node) : Piece := ⟨node, 0, false⟩

/-- Parts as one; several of them are one level deeper. -/
def joined (join : List Node → Node) (pieces : List Piece) : Piece :=
  match pieces with
  | [piece] => piece
  | _ =>
      let levels := (pieces.map levels).foldl max 0
      ⟨join (pieces.map node), if pieces.isEmpty then 0 else levels + 1, false⟩

/-- A part in a group or under a repetition. -/
def deeper (piece : Piece) (node : Node) : Piece := ⟨node, piece.levels + 1, false⟩

/-- The part read from parts and finished alternatives, both latest first. -/
def ofBranches (current : List Piece) (branches : List Piece) : Piece :=
  joined .ofAlt (joined .ofSeq current.reverse :: branches).reverse

end Piece

structure Cursor where
  flags : Flags
  names : List (List Char)
  input : List Char

def literalNode (flags : Flags) (c : Char) : Node :=
  let single := CodeSet.single c.toNat
  if flags.unicode ∨ c.toNat < 0x80 then .chars (Element.foldAndNegate flags false single)
  else .chars single

def dotCodes? (flags : Flags) : Option CodeSet :=
  if !flags.unicode then none
  else if flags.dotAll then some .all
  else if flags.crlf then some (CodeSet.ofCodes [0x0A, 0x0D]).complement
  else some (CodeSet.single 0x0A).complement

def readElement (flags : Flags) : List Char → Option (Node × List Char)
  | [] => none
  | '.' :: rest => (dotCodes? flags).map fun set => (.chars set, rest)
  | '^' :: rest =>
      some (.look (if flags.multiLine then .lineStart flags.crlf else .textStart), rest)
  | '$' :: rest => some (.look (if flags.multiLine then .lineEnd flags.crlf else .textEnd), rest)
  | '\\' :: rest => do
      match ← Element.readEscape flags rest with
      | (.look condition, rest) => some (.look condition, rest)
      | (.codes set, rest) => some (.chars set, rest)
      | (.literal c isByte, rest) =>
          if isByte ∧ !flags.unicode ∧ 0x80 ≤ c.toNat then none
          else some (literalNode flags c, rest)
  | c :: rest => some (literalNode flags c, rest)

/-- Passes the question mark of a lazy repetition. -/
def skipLazy : List Char → List Char
  | '?' :: rest => rest
  | rest => rest

/-- The digits of a count, with space behind each. -/
def readCountDigits (spaced : Bool) : Nat → List Char → List Char × List Char
  | 0, input => ([], input)
  | fuel + 1, input =>
      match input with
      | c :: rest =>
          if c.isDigit then
            let (digits, rest) := readCountDigits spaced fuel (skipSpace spaced rest)
            (c :: digits, rest)
          else ([], input)
      | [] => ([], [])

/-- A count and the blanks around it.  `some none` is a count left out. -/
def readCount (spaced : Bool) (input : List Char) : Option (Option Nat × List Char) :=
  let start := input.dropWhile Text.isBlank
  let (digits, rest) := readCountDigits spaced start.length start
  let rest := skipBlanks (rest.length + 1) rest
  if digits.isEmpty then some (none, rest)
  else
    let count := Json.digitsValue digits
    if count < 2 ^ 32 then some (some count, rest) else none
where
  /-- Blanks, and with the flag also the comments after them. -/
  skipBlanks : Nat → List Char → List Char
    | 0, input => input
    | _ + 1, [] => []
    | fuel + 1, c :: rest =>
        if Text.isBlank c then skipBlanks fuel (skipSpace spaced rest) else c :: rest

/-- A repetition in braces, which are next: the least and the greatest count. -/
def readCounts (spaced : Bool) (input : List Char) :
    Option ((Nat × Option Nat) × List Char) := do
  let start ← advance spaced input
  let (least, rest) ← readCount spaced start
  let least ← least
  let (most, rest) ← match rest with
    | ',' :: _ => do
        let rest ← advance spaced rest
        match rest with
        | '\x7d' :: _ => some (none, rest)
        | _ => do
            let (most, rest) ← readCount spaced rest
            let most ← most
            some (some most, rest)
    | _ => some (some least, rest)
  match rest with
  | '\x7d' :: rest =>
      if (most.map fun most => decide (least ≤ most)).getD true then
        some ((least, most), skipLazy (skipSpace spaced rest))
      else none
  | _ => none

/-- Repeats the latest part; there must be one, and flags cannot be repeated. -/
def repeatLatest (pieces : List Piece) (least : Nat) (most : Option Nat) : Option (List Piece) :=
  match pieces with
  | [] => none
  | piece :: rest =>
      if piece.isFlags then none
      else some (piece.deeper (.rep least most piece.node) :: rest)

def Flags.set? (flags : Flags) (letter : Char) (value : Bool) : Option Flags :=
  match letter with
  | 'i' => some { flags with ignoreCase := value }
  | 'm' => some { flags with multiLine := value }
  | 's' => some { flags with dotAll := value }
  | 'R' => some { flags with crlf := value }
  | 'u' => some { flags with unicode := value }
  | 'x' => some { flags with spaced := value }
  | 'U' => some flags
  | _ => none

/-- Flags up to a colon or a closing parenthesis, which are left.  `seen` holds the letters so far
and the hyphen, after which flags are cleared. -/
def readFlags (flags : Flags) (seen : List Char) :
    List Char → Option (Flags × List Char × List Char)
  | [] => none
  | c :: rest =>
      if c = ':' ∨ c = ')' then
        if seen.head? = some '-' then none else some (flags, seen, c :: rest)
      else if seen.contains c then none
      else if c = '-' then readFlags flags (c :: seen) rest
      else do
        let flags ← flags.set? c (!seen.contains '-')
        readFlags flags (c :: seen) rest

def isNameChar (first : Bool) (c : Char) : Bool :=
  let isAlphabetic := Unicode.Property.alphabetic.contains c.toNat
  if first then c == '_' || isAlphabetic
  else
    c == '_' || c == '.' || c == '[' || c == ']' || isAlphabetic ||
      (Unicode.Category.unionOf Unicode.Category.numbers).contains c.toNat

def readName (names : List (List Char)) (input : List Char) :
    Option (List (List Char) × List Char) :=
  let name := input.takeWhile (· != '>')
  let isName := match name with
    | [] => false
    | c :: rest => isNameChar true c && rest.all (isNameChar false)
  match input.dropWhile (· != '>') with
  | [] => none
  | _ :: rest => if isName && !names.contains name then some (name :: names, rest) else none

inductive Opening where
  | flags (flags : Flags) (rest : List Char)
  | group (inner : Cursor)

/-- The beginning of a group or a change of flags. -/
def readOpening (cursor : Cursor) : Option Opening :=
  let input := skipSpace cursor.flags.spaced cursor.input
  match input with
  | '?' :: '=' :: _ | '?' :: '!' :: _ | '?' :: '<' :: '=' :: _ | '?' :: '<' :: '!' :: _ => none
  | '?' :: 'P' :: '<' :: rest | '?' :: '<' :: rest =>
      (readName cursor.names rest).map fun (names, rest) => .group ⟨cursor.flags, names, rest⟩
  | '?' :: rest => do
      let (flags, seen, rest) ← readFlags cursor.flags [] rest
      match rest with
      | ')' :: rest => if seen.isEmpty then none else some (.flags flags rest)
      | ':' :: rest => some (.group ⟨flags, cursor.names, rest⟩)
      | _ => none
  | _ => some (.group { cursor with input })

/-- The parts of a group up to its closing parenthesis or the end.  `pieces` are those of the
current alternative and `branches` the finished alternatives, both latest first. -/
def readBranches : Nat → Cursor → List Piece → List Piece → Option (Piece × Cursor)
  | 0, _, _, _ => none
  | fuel + 1, cursor, pieces, branches =>
      let input := skipSpace cursor.flags.spaced cursor.input
      let goOn (pieces : List Piece) (rest : List Char) :=
        readBranches fuel { cursor with input := rest } pieces branches
      match input with
      | [] | ')' :: _ => some (Piece.ofBranches pieces branches, { cursor with input })
      | '|' :: rest =>
          readBranches fuel { cursor with input := rest } []
            (Piece.joined .ofSeq pieces.reverse :: branches)
      | '(' :: rest => do
          match ← readOpening { cursor with input := rest } with
          | .flags flags rest =>
              readBranches fuel { cursor with flags, input := rest }
                (⟨.empty, 0, true⟩ :: pieces) branches
          | .group inner =>
              let (piece, after) ← readBranches fuel inner [] []
              match after.input with
              | ')' :: rest =>
                  readBranches fuel ⟨cursor.flags, after.names, rest⟩
                    (piece.deeper piece.node :: pieces) branches
              | _ => none
      | '[' :: _ => do
          let (part, rest) ← readSet cursor.flags (2 * input.length) input
          goOn (⟨.chars part.set, part.levels, false⟩ :: pieces) rest
      | '?' :: rest => do goOn (← repeatLatest pieces 0 (some 1)) (skipLazy rest)
      | '*' :: rest => do goOn (← repeatLatest pieces 0 none) (skipLazy rest)
      | '+' :: rest => do goOn (← repeatLatest pieces 1 none) (skipLazy rest)
      | '\x7b' :: _ => do
          let ((least, most), rest) ← readCounts cursor.flags.spaced input
          goOn (← repeatLatest pieces least most) rest
      | _ => do
          let (node, rest) ← readElement cursor.flags input
          goOn (Piece.ofNode node :: pieces) rest

/-- The expression of a text read under flags, if it is one that is neither too deep nor too
large. -/
def Node.parseWith? (flags : Flags) (text : String) : Option Node := do
  let input := text.toList
  let (piece, rest) ← readBranches (input.length + 1) ⟨flags, [], input⟩ [] []
  if rest.input.isEmpty ∧ piece.levels ≤ maxLevels ∧ piece.node.fits then some piece.node else none

/-- What reads expressions under flags, or refuses them. -/
abbrev Reader := Flags → String → Option Node

def Node.parse? (text : String) (read? : Reader := Node.parseWith?) : Option Node :=
  read? .standard text

end DocStore.Regex

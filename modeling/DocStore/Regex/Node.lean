import DocStore.Unicode.Property

namespace DocStore.Regex

open Unicode (CodeSet)

inductive WordEdge where
  | boundary
  | inside
  | start
  | stop
  | startHalf
  | stopHalf
deriving DecidableEq, Repr

inductive Look where
  | textStart
  | textEnd
  | lineStart (crlf : Bool)
  | lineEnd (crlf : Bool)
  | word (edge : WordEdge) (unicode : Bool)
deriving DecidableEq, Repr

inductive Node where
  | empty
  | chars (set : CodeSet)
  | look (condition : Look)
  | seq (first second : Node)
  | alt (left right : Node)
  | rep (least : Nat) (most : Option Nat) (inner : Node)

namespace Node

instance : Inhabited Node := ⟨empty⟩

def ofSeq : List Node → Node
  | [] => .empty
  | [node] => node
  | node :: rest => .seq node (ofSeq rest)

/-- A choice between expressions; without any it never matches. -/
def ofAlt : List Node → Node
  | [] => .chars .empty
  | [node] => node
  | node :: rest => .alt node (ofAlt rest)

end Node

/-- Characters of words: letters, marks, decimal digits, connectors and joiners. -/
def wordCodes : CodeSet :=
  .unions [Unicode.Property.alphabetic, Unicode.Property.joinControl,
    Unicode.Category.unionOf
      (Unicode.Category.decimalNumber :: .connectorPunctuation :: Unicode.Category.marks)]

def digitCodes : CodeSet := Unicode.Category.codes .decimalNumber

def spaceCodes : CodeSet := Unicode.Property.whiteSpace

/-- Characters of words among the ASCII characters. -/
def asciiWordCodes : CodeSet := ⟨[(0x30, 0x39), (0x41, 0x5A), (0x5F, 0x5F), (0x61, 0x7A)]⟩

namespace Look

/-- Whether a neighbour of a position is there and belongs to a word. -/
def isWord (unicode : Bool) : Option Char → Bool
  | none => false
  | some c => (if unicode then wordCodes else asciiWordCodes).contains c.toNat

/-- Whether a condition holds between two neighbours; `none` is an end of the text. -/
def holds (before after : Option Char) : Look → Bool
  | .textStart => before.isNone
  | .textEnd => after.isNone
  | .lineStart false => before.isNone || before == some '\n'
  | .lineEnd false => after.isNone || after == some '\n'
  | .lineStart true =>
      before.isNone || before == some '\n' || (before == some '\r' && after != some '\n')
  | .lineEnd true =>
      after.isNone || after == some '\r' || (after == some '\n' && before != some '\r')
  | .word edge unicode =>
      let left := isWord unicode before
      let right := isWord unicode after
      match edge with
      | .boundary => left != right
      | .inside => left == right
      | .start => !left && right
      | .stop => left && !right
      | .startHalf => !left
      | .stopHalf => !right

end Look

end DocStore.Regex

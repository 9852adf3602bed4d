import DocStore.Power
import DocStore.Regex.Node
/-!
Matching: whether some part of a text belongs to an expression.

Sets of positions are kept as the bits of one number.  `image` sends the
positions at which an expression may begin to those at which it may end, so
that alternatives are unions and sequences are compositions, and a repetition
is iterated until nothing new is reached.
-/

namespace DocStore.Regex

open Unicode (CodeSet)

/-- A set of positions in a text: position `i` belongs to it when bit `i` is set. -/
abbrev Positions := Nat

/-- An expression whose leaves have been looked up in one text. -/
inductive Reading where
  | empty
  | chars (places : Positions)
  | look (places : Positions)
  | seq (first second : Reading)
  | alt (left right : Reading)
  | rep (least : Nat) (most : Option Nat) (inner : Reading)

/-- The positions of a list of answers, the first one for position 0. -/
def positionsOf (answers : List Bool) : Positions :=
  answers.foldr (fun answer rest => 2 * rest + answer.toNat) 0

/-- The places between the characters of a text, each with its neighbours. -/
def gapsAfter (before : Option Char) : List Char → List (Option Char × Option Char)
  | [] => [(before, none)]
  | c :: rest => (before, some c) :: gapsAfter (some c) rest

namespace Node

/-- Looks up the leaves of an expression in a text. -/
def readIn (text : List Char) : Node → Reading
  | .empty => .empty
  | .chars set => .chars (positionsOf (text.map fun c => set.contains c.toNat))
  | .look condition =>
      .look (positionsOf
        ((gapsAfter none text).map fun (before, after) => condition.holds before after))
  | .seq first second => .seq (first.readIn text) (second.readIn text)
  | .alt left right => .alt (left.readIn text) (right.readIn text)
  | .rep least most inner => .rep least most (inner.readIn text)

end Node

/-- Applies a step a number of times.  A step that changes nothing need not be repeated. -/
def repeatExactly (step : Positions → Positions) : Nat → Positions → Positions
  | 0, start => start
  | count + 1, start =>
      let next := step start
      if next = start then start else repeatExactly step count next

/-- Everything reached by applying a step at most a number of times. -/
def repeatUpTo (step : Positions → Positions) : Nat → Positions → Positions
  | 0, start => start
  | count + 1, start =>
      let next := start ||| step start
      if next = start then start else repeatUpTo step count next

namespace Reading

/-- The positions at which the expression may end when it begins at one of the given positions.
A text of `length` characters has `length + 1` positions, so an unbounded repetition reaches all
it can in that many rounds. -/
def image (length : Nat) : Reading → Positions → Positions
  | .empty, start => start
  | .chars places, start => (start &&& places) <<< 1
  | .look places, start => start &&& places
  | .seq first second, start => second.image length (first.image length start)
  | .alt left right, start => left.image length start ||| right.image length start
  | .rep least most inner, start =>
      let rounds := match most with
        | none => length + 1
        | some most => most - least
      repeatUpTo (inner.image length) rounds (repeatExactly (inner.image length) least start)

end Reading

/-- Whether some part of the text belongs to the expression. -/
def Node.isMatch (node : Node) (text : String) : Bool :=
  let chars := text.toList
  (node.readIn chars).image chars.length (2 ^ (chars.length + 1) - 1) != 0

end DocStore.Regex

import DocStore.Primitive

namespace DocStore.Query

inductive Comparison where
  | equal
  | notEqual
  | greater
  | greaterEqual
  | less
  | lessEqual
  | pattern
  | like
  | is
  | isNot
deriving DecidableEq, Repr

namespace Comparison

def symbol : Comparison → String
  | .equal => "="
  | .notEqual => "!="
  | .greater => ">"
  | .greaterEqual => ">="
  | .less => "<"
  | .lessEqual => "<="
  | .pattern => "~="
  | .like => "like"
  | .is => "is"
  | .isNot => "is_not"

def ofWord? : String → Option Comparison
  | "like" => some .like
  | "is" => some .is
  | "is_not" => some .isNot
  | _ => none

def isOrdering : Comparison → Bool
  | .greater | .greaterEqual | .less | .lessEqual => true
  | _ => false

end Comparison

/-- A comparison of a field with a literal.  `position` is the offset in bytes at which the rule
begins in the query. -/
structure Rule where
  field : String
  comparison : Comparison
  literal : Primitive
  position : Nat
deriving DecidableEq

namespace Rule

def chars (rule : Rule) : List Char :=
  rule.field.toList ++ ' ' :: rule.comparison.symbol.toList ++ ' ' :: rule.literal.literal

def text (rule : Rule) : String := String.ofList rule.chars

end Rule

inductive Expr where
  | rule (rule : Rule)
  | and (left right : Expr)
  | or (left right : Expr)
deriving DecidableEq

namespace Expr

def rules : Expr → List Rule
  | .rule leaf => [leaf]
  | .and left right | .or left right => left.rules ++ right.rules

def chars : Expr → List Char
  | .rule leaf => leaf.chars
  | .and left right => '(' :: left.chars ++ " && ".toList ++ right.chars ++ [')']
  | .or left right => '(' :: left.chars ++ " || ".toList ++ right.chars ++ [')']

def text (expr : Expr) : String := String.ofList expr.chars

end Expr

end DocStore.Query

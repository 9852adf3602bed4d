import DocStore.Projection
import DocStore.Query.Parser
import DocStore.Regex.Glob
import DocStore.Regex.Match
import DocStore.Regex.Parser

namespace DocStore.Query

/-- What a rule asks of the first value under its field. -/
inductive Test where
  | matching (pattern : Regex.Node)
  | comparing (comparison : Comparison) (literal : Primitive)

structure CompiledRule where
  field : String
  test : Test

inductive Predicate where
  | always
  | rule (rule : CompiledRule)
  | and (left right : Predicate)
  | or (left right : Predicate)

instance : Inhabited Predicate := ⟨.always⟩

namespace Test

/-- Whether a comparison holds between a value and an order found. -/
def holdsFor (comparison : Comparison) (order : Option Ordering) : Bool :=
  match comparison with
  | .greater => order == some .gt
  | .greaterEqual => order == some .gt || order == some .eq
  | .less => order == some .lt
  | .lessEqual => order == some .lt || order == some .eq
  | _ => false

/-- Evaluates a test on the first value of a field, if there is one.  Against null `=` and `!=` also
look at fields that are not there; `is` and `is_not` take those for null. -/
def eval (first : Option Primitive) : Test → Bool
  | .matching pattern =>
      match first.bind Primitive.toText? with
      | some text => pattern.isMatch text
      | none => false
  | .comparing .equal literal =>
      if literal.isNull then (first.map Primitive.isNull).getD true
      else (first.map fun value => value.sameValue literal).getD false
  | .comparing .notEqual literal =>
      if literal.isNull then !(first.map Primitive.isNull).getD true
      else (first.map fun value => !value.sameValue literal).getD false
  | .comparing .is literal => (first.getD .null).sameValue literal
  | .comparing .isNot literal => !(first.getD .null).sameValue literal
  | .comparing comparison literal =>
      holdsFor comparison (first.bind fun value => value.compare? literal)

end Test

namespace Rule

def fault (rule : Rule) (problem : Problem) : Fault := ⟨rule.text, rule.position, problem⟩

/-- The expression of a rule's pattern. -/
def compilePattern (rule : Rule) (parse? : String → Option Regex.Node) : Except Fault Test :=
  match rule.literal with
  | .string text =>
      match parse? text with
      | some pattern => .ok (.matching pattern)
      | none => .error (rule.fault .invalidPattern)
  | literal => .error (rule.fault (.patternNotText rule.comparison literal.typeName))

/-- What a rule tests.  Which patterns are expressions is up to the reader. -/
def compileTest (rule : Rule) (read? : Regex.Reader := Regex.Node.parseWith?) :
    Except Fault Test :=
  match rule.comparison with
  | .pattern => rule.compilePattern (Regex.Node.parse? · read?)
  | .like => rule.compilePattern (Regex.Node.parseGlob? · read?)
  | comparison =>
      if comparison.isOrdering && rule.literal.isNull then
        .error (rule.fault (.orderAgainstNull comparison))
      else .ok (.comparing comparison rule.literal)

def compile (rule : Rule) (read? : Regex.Reader := Regex.Node.parseWith?) :
    Except Fault CompiledRule :=
  (rule.compileTest read?).map fun test => ⟨rule.field, test⟩

end Rule

namespace CompiledRule

def eval (rule : CompiledRule) (fields : Projection) : Bool :=
  rule.test.eval ((fields.get? rule.field).bind List.head?)

end CompiledRule

namespace Predicate

def eval (fields : Projection) : Predicate → Bool
  | .always => true
  | .rule leaf => leaf.eval fields
  | .and left right => left.eval fields && right.eval fields
  | .or left right => left.eval fields || right.eval fields

/-- The predicate of an expression; the leftmost rule that cannot be compiled is at fault. -/
def ofExpr (expr : Expr) (read? : Regex.Reader := Regex.Node.parseWith?) :
    Except Fault Predicate :=
  match expr with
  | .rule leaf => (leaf.compile read?).map .rule
  | .and left right => do
      let left ← ofExpr left read?
      let right ← ofExpr right read?
      .ok (.and left right)
  | .or left right => do
      let left ← ofExpr left read?
      let right ← ofExpr right read?
      .ok (.or left right)

def isAlways : Predicate → Bool
  | .always => true
  | _ => false

end Predicate

/-- The predicate of a query; a blank query holds of everything. -/
def compile (query : String) (read? : Regex.Reader := Regex.Node.parseWith?) :
    Except Fault Predicate :=
  if Text.isBlankText query then .ok .always
  else do
    let expr ← Expr.parse query
    Predicate.ofExpr expr read?

end DocStore.Query

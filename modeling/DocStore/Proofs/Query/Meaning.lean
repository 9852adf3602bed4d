import DocStore.Proofs.Number.Binary64
import DocStore.Proofs.Projection
import DocStore.Proofs.Query.Parser
import DocStore.Query.Predicate
import Mathlib.Data.String.Basic
/-!
What queries mean for documents.

The meaning of a rule is said of the first leaf under its field, which may be
missing (`Rule.Holds`), and that of a tree by conjunction and disjunction.  A
compiled query holds of the projection of a document exactly when the tree holds
of its first leaves (`compiled_eval_iff`).
-/

namespace DocStore

namespace Primitive

/-- Equality by value; numbers are taken for the nearest binary64 numbers. -/
def Same : Primitive → Primitive → Prop
  | .number a, .number b => a.toBinary64.units = b.toBinary64.units
  | a, b => a = b

/-- The strict order of two numbers, two texts or two truth values. -/
def Below : Primitive → Primitive → Prop
  | .number a, .number b => a.toBinary64.units < b.toBinary64.units
  | .string a, .string b => a < b
  | .bool a, .bool b => a < b
  | _, _ => False

/-- The order of two numbers, two texts or two truth values. -/
def UpTo : Primitive → Primitive → Prop
  | .number a, .number b => a.toBinary64.units ≤ b.toBinary64.units
  | .string a, .string b => a ≤ b
  | .bool a, .bool b => a ≤ b
  | _, _ => False

theorem sameValue_iff (a b : Primitive) : a.sameValue b = true ↔ a.Same b := by
  cases a <;> cases b <;>
    simp [sameValue, equal, Same, Number.sameValue, Binary64.sameValue_iff]

theorem sameValue_eq_false_iff (a b : Primitive) : a.sameValue b = false ↔ ¬ a.Same b := by
  rw [← sameValue_iff, Bool.not_eq_true]

private theorem compare_units (a b : Number) :
    a.compareValue b = compare a.toBinary64.units b.toBinary64.units := by
  have below := a.toBinary64.rank_lt_rank_iff b.toBinary64
  have same := a.toBinary64.rank_eq_rank_iff b.toBinary64
  simp only [Number.compareValue, Binary64.compareValue, compare, compareOfLessAndEq, below, same]

private theorem lt_or_eq_iff {α : Type} [LinearOrder α] (a b : α) :
    (compare a b = .lt ∨ compare a b = .eq) ↔ a ≤ b := by
  rw [compare_lt_iff_lt, compare_eq_iff_eq, le_iff_lt_or_eq]

private theorem gt_or_eq_iff {α : Type} [LinearOrder α] (a b : α) :
    (compare a b = .gt ∨ compare a b = .eq) ↔ b ≤ a := by
  rw [compare_gt_iff_gt, compare_eq_iff_eq, le_iff_lt_or_eq, eq_comm]

theorem compare?_lt_iff (a b : Primitive) : a.compare? b = some .lt ↔ a.Below b := by
  cases a <;> cases b <;>
    simp only [compare?, Below, compare_units, Option.some.injEq, compare_lt_iff_lt, reduceCtorEq]

theorem compare?_gt_iff (a b : Primitive) : a.compare? b = some .gt ↔ b.Below a := by
  cases a <;> cases b <;>
    simp only [compare?, Below, compare_units, Option.some.injEq, compare_gt_iff_gt, reduceCtorEq]

theorem compare?_le_iff (a b : Primitive) :
    (a.compare? b = some .lt ∨ a.compare? b = some .eq) ↔ a.UpTo b := by
  cases a <;> cases b <;>
    simp only [compare?, UpTo, compare_units, Option.some.injEq, lt_or_eq_iff, reduceCtorEq,
      or_self]

theorem compare?_ge_iff (a b : Primitive) :
    (a.compare? b = some .gt ∨ a.compare? b = some .eq) ↔ b.UpTo a := by
  cases a <;> cases b <;>
    simp only [compare?, UpTo, compare_units, Option.some.injEq, gt_or_eq_iff, reduceCtorEq,
      or_self]

end Primitive

namespace Query

/-- A text under the field is found by the expression of the pattern. -/
def Finds (pattern : Option Regex.Node) (leaf : Option Primitive) : Prop :=
  ∃ node ∈ pattern, ∃ text, leaf = some (.string text) ∧ node.isMatch text = true

/-- What a rule says of the first leaf under its field.  Against null `=` and `!=` ask whether the
leaf is missing or null; `is` and `is_not` take a missing leaf for null; all other rules need a
leaf. -/
def Rule.Holds (rule : Rule) (leaf : Option Primitive) : Prop :=
  match rule.comparison, rule.literal with
  | .equal, .null => leaf = none ∨ leaf = some .null
  | .notEqual, .null => ¬ (leaf = none ∨ leaf = some .null)
  | .equal, literal => ∃ value ∈ leaf, value.Same literal
  | .notEqual, literal => ∃ value ∈ leaf, ¬ value.Same literal
  | .less, literal => ∃ value ∈ leaf, value.Below literal
  | .lessEqual, literal => ∃ value ∈ leaf, value.UpTo literal
  | .greater, literal => ∃ value ∈ leaf, literal.Below value
  | .greaterEqual, literal => ∃ value ∈ leaf, literal.UpTo value
  | .pattern, .string pattern => Finds (Regex.Node.parse? pattern) leaf
  | .like, .string pattern => Finds (Regex.Node.parseGlob? pattern) leaf
  | .pattern, _ | .like, _ => False
  | .is, literal => (leaf.getD .null).Same literal
  | .isNot, literal => ¬ (leaf.getD .null).Same literal

/-- The meaning of a tree, given the first leaf under every field. -/
def Expr.Holds (first : String → Option Primitive) : Expr → Prop
  | .rule leaf => leaf.Holds (first leaf.field)
  | .and left right => left.Holds first ∧ right.Holds first
  | .or left right => left.Holds first ∨ right.Holds first

private theorem isNull_eq (value : Primitive) : value.isNull = decide (value = .null) := by
  cases value <;> simp [Primitive.isNull]

namespace Test

theorem eval_matching_iff (node : Regex.Node) (leaf : Option Primitive) :
    (Test.matching node).eval leaf = true ↔ Finds (some node) leaf := by
  rcases leaf with _ | _ | _ | _ | text <;> simp [eval, Finds, Primitive.toText?]

/-- A comparison holds of a leaf when the rule does. -/
theorem eval_comparing_iff {rule : Rule} (noPattern : rule.comparison ≠ .pattern)
    (noGlob : rule.comparison ≠ .like) (leaf : Option Primitive) :
    (Test.comparing rule.comparison rule.literal).eval leaf = true ↔ rule.Holds leaf := by
  obtain ⟨field, comparison, literal, position⟩ := rule
  cases comparison with
  | pattern => exact absurd rfl noPattern
  | like => exact absurd rfl noGlob
  | equal =>
      cases literal <;> cases leaf <;>
        simp [eval, Rule.Holds, isNull_eq, Primitive.sameValue_iff]
  | notEqual =>
      cases literal <;> cases leaf <;>
        simp [eval, Rule.Holds, isNull_eq, Primitive.sameValue_eq_false_iff]
  | is => simp [eval, Rule.Holds, Primitive.sameValue_iff]
  | isNot => simp [eval, Rule.Holds, Primitive.sameValue_eq_false_iff]
  | less => cases leaf <;> simp [eval, holdsFor, Rule.Holds, Primitive.compare?_lt_iff]
  | greater => cases leaf <;> simp [eval, holdsFor, Rule.Holds, Primitive.compare?_gt_iff]
  | lessEqual => cases leaf <;> simp [eval, holdsFor, Rule.Holds, Primitive.compare?_le_iff]
  | greaterEqual => cases leaf <;> simp [eval, holdsFor, Rule.Holds, Primitive.compare?_ge_iff]

end Test

private theorem compilePattern_ok {rule : Rule} {parse? : String → Option Regex.Node} {test : Test}
    (compiled : rule.compilePattern parse? = .ok test) :
    ∃ text node, rule.literal = .string text ∧ parse? text = some node ∧
      test = .matching node := by
  unfold Rule.compilePattern at compiled
  split at compiled
  case h_1 text literal =>
    split at compiled
    case h_1 node parsed =>
      cases compiled
      exact ⟨text, node, literal, parsed, rfl⟩
    case h_2 => cases compiled
  case h_2 => cases compiled

/-- A rule that compiles tests what it says. -/
theorem Rule.eval_iff_holds {rule : Rule} {test : Test} (compiled : rule.compileTest = .ok test)
    (leaf : Option Primitive) : test.eval leaf = true ↔ rule.Holds leaf := by
  unfold compileTest at compiled
  split at compiled
  case h_1 pattern =>
    obtain ⟨text, node, literal, parsed, rfl⟩ := compilePattern_ok compiled
    simp only [Test.eval_matching_iff, Holds, pattern, literal, parsed]
  case h_2 glob =>
    obtain ⟨text, node, literal, parsed, rfl⟩ := compilePattern_ok compiled
    simp only [Test.eval_matching_iff, Holds, glob, literal, parsed]
  case h_3 noPattern noGlob =>
    split at compiled
    · cases compiled
    · cases compiled
      exact Test.eval_comparing_iff noPattern noGlob leaf

theorem Rule.exists_test {rule : Rule} {made : CompiledRule} (compiled : rule.compile = .ok made) :
    rule.compileTest = .ok made.test ∧ made.field = rule.field := by
  unfold compile at compiled
  cases tested : rule.compileTest with
  | error fault => rw [tested] at compiled; cases compiled
  | ok test =>
      rw [tested] at compiled
      cases compiled
      exact ⟨rfl, rfl⟩

theorem Predicate.eval_iff_holds {expr : Expr} {predicate : Predicate}
    (compiled : ofExpr expr = .ok predicate) (document : Json) :
    predicate.eval (.flatten document) = true ↔ expr.Holds document.firstLeaf := by
  induction expr generalizing predicate with
  | rule leaf =>
      unfold ofExpr at compiled
      cases made : leaf.compile with
      | error fault => rw [made] at compiled; cases compiled
      | ok rule =>
          rw [made] at compiled
          cases compiled
          obtain ⟨tested, field⟩ := Rule.exists_test made
          rw [eval, CompiledRule.eval, Projection.head?_flatten, field,
            Rule.eval_iff_holds tested, Expr.Holds]
  | and left right leftIH rightIH =>
      obtain ⟨first, leftMade, rest⟩ := Expr.bind_eq_ok compiled
      obtain ⟨second, rightMade, made⟩ := Expr.bind_eq_ok rest
      cases made
      rw [eval, Bool.and_eq_true, leftIH leftMade, rightIH rightMade, Expr.Holds]
  | or left right leftIH rightIH =>
      obtain ⟨first, leftMade, rest⟩ := Expr.bind_eq_ok compiled
      obtain ⟨second, rightMade, made⟩ := Expr.bind_eq_ok rest
      cases made
      rw [eval, Bool.or_eq_true, leftIH leftMade, rightIH rightMade, Expr.Holds]

/-- Trees look at nothing but the first leaves under the fields of their rules. -/
theorem Expr.holds_congr {expr : Expr} {first other : String → Option Primitive}
    (same : ∀ rule ∈ expr.rules, first rule.field = other rule.field) :
    expr.Holds first ↔ expr.Holds other := by
  induction expr with
  | rule leaf => rw [Holds, Holds, same leaf List.mem_cons_self]
  | and left right leftIH rightIH =>
      rw [Holds, Holds, leftIH fun rule member => same rule (List.mem_append_left _ member),
        rightIH fun rule member => same rule (List.mem_append_right _ member)]
  | or left right leftIH rightIH =>
      rw [Holds, Holds, leftIH fun rule member => same rule (List.mem_append_left _ member),
        rightIH fun rule member => same rule (List.mem_append_right _ member)]

/-- A query that compiles holds of all documents if it is blank.  Any other holds of a document when
its tree holds of the first leaves, so that documents with the same first leaves under its fields
are treated alike. -/
theorem compiled_eval_iff {query : String} {predicate : Predicate}
    (compiled : compile query = .ok predicate) :
    (Text.isBlankText query = true ∧
        ∀ document, predicate.eval (.flatten document) = true) ∨
      ∃ expr, Expr.parse query = .ok expr ∧
        (∀ document, predicate.eval (.flatten document) = true ↔
          expr.Holds document.firstLeaf) ∧
        ∀ one other : Json,
          (∀ rule ∈ expr.rules, one.firstLeaf rule.field = other.firstLeaf rule.field) →
            predicate.eval (.flatten one) = predicate.eval (.flatten other) := by
  unfold compile at compiled
  split at compiled
  case isTrue blank =>
    cases compiled
    exact .inl ⟨blank, fun _ => rfl⟩
  case isFalse =>
    obtain ⟨expr, read, made⟩ := Expr.bind_eq_ok compiled
    have holds := Predicate.eval_iff_holds made
    refine .inr ⟨expr, read, holds, fun one other same => ?_⟩
    rw [Bool.eq_iff_iff, holds, holds, Expr.holds_congr same]

/-- A leaf under one path of keys and another under the same path in one key. -/
def twicePriced : Json :=
  .object [("book.price", .number (.natural 7)),
    ("book", .object [("price", .array [.null]), ("tags", .array [.string "new", .string "old"])])]

/-- The number 7.0. -/
def seven : Primitive := .number (.float ⟨false, ⟨4619567317775286272, by decide⟩⟩)

def pricedNotOld : Expr :=
  .and (.rule ⟨"book.price", .lessEqual, seven, 0⟩)
    (.or (.rule ⟨"book.tags", .equal, .string "old", 22⟩) (.rule ⟨"author", .is, .null, 43⟩))

def pricedNotOldPredicate : Predicate :=
  .and (.rule ⟨"book.price", .comparing .lessEqual seven⟩)
    (.or (.rule ⟨"book.tags", .comparing .equal (.string "old")⟩)
      (.rule ⟨"author", .comparing .is .null⟩))

theorem pricedNotOld_eval_iff :
    compile r#"book.price <= 7.0 && (book.tags = "old" || author is null)"# =
        .ok pricedNotOldPredicate ∧
      ∃ expr, Expr.parse r#"book.price <= 7.0 && (book.tags = "old" || author is null)"# =
          .ok expr ∧
        (pricedNotOldPredicate.eval (.flatten twicePriced) = true ↔
          expr.Holds twicePriced.firstLeaf) ∧
        pricedNotOldPredicate.eval (.flatten twicePriced) = true := by
  have read : Expr.parse r#"book.price <= 7.0 && (book.tags = "old" || author is null)"# =
      .ok pricedNotOld := by
    decide +kernel
  have visible : ¬ Text.isBlankText
      r#"book.price <= 7.0 && (book.tags = "old" || author is null)"# = true := by
    decide +kernel
  have compiled : compile r#"book.price <= 7.0 && (book.tags = "old" || author is null)"# =
      .ok pricedNotOldPredicate := by
    rw [compile, if_neg visible, read]
    rfl
  rcases compiled_eval_iff compiled with ⟨blank, -⟩ | ⟨expr, read, holds, -⟩
  · exact absurd blank visible
  · exact ⟨compiled, expr, read, holds twicePriced, by decide +kernel⟩

end Query

end DocStore

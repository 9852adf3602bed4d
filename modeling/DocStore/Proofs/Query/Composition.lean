import DocStore.Proofs.Query.Compilation
/-!
Queries put together as texts and as predicates.

Queries in parentheses, joined by `&&` or `||`, make a query.  Its parts are
scanned as they are alone (`Token.Scans.append`) and derive their own trees, if
at other places (`Expr.Expression.of_kinds`), which a predicate does not tell.
So the text compiles to the predicates of its parts, joined
(`Composition.compile_text`).
-/

namespace DocStore.Query

open Token (Scans Breaks)

namespace Expr

theorem placeless_foldl_join (connective : Connective) (first : Expr) (others : List Expr) :
    (others.foldl connective.join first).placeless =
      (others.map placeless).foldl connective.join first.placeless := by
  induction others generalizing first with
  | nil => rfl
  | cons next others ih => rw [List.foldl_cons, ih, placeless_join, List.map_cons, List.foldl_cons]

-- Tokens of the same kinds derive the same tree, with its rules where these tokens stand.
mutual

theorem Expression.of_kinds {tokens others : List Token} {expr : Expr} :
    Expression tokens expr → others.map Token.kind = tokens.map Token.kind →
      ∃ again, Expression others again ∧ again.placeless = expr.placeless
  | .operand only, same => by
      obtain ⟨again, operand, alike⟩ := only.of_kinds same
      exact ⟨again, .operand operand, alike⟩
  | @Expression.chain _ _ _ _ connective begins joined several, same => by
      rw [List.map_append, List.map_eq_append_iff] at same
      obtain ⟨front, back, rfl, frontKinds, backKinds⟩ := same
      obtain ⟨first, operand, firstAlike⟩ := begins.of_kinds frontKinds
      obtain ⟨exprs, later, laterAlike⟩ := joined.of_kinds backKinds
      refine ⟨exprs.foldl connective.join first, .chain operand later ?_, ?_⟩
      · rintro rfl
        exact several (List.map_eq_nil_iff.mp laterAlike.symm)
      · rw [placeless_foldl_join, placeless_foldl_join, firstAlike, laterAlike]

theorem Operand.of_kinds {tokens others : List Token} {expr : Expr} :
    Operand tokens expr → others.map Token.kind = tokens.map Token.kind →
      ∃ again, Operand others again ∧ again.placeless = expr.placeless
  | .parens opens inner closes, same => by
      simp only [List.map_cons, List.map_append, List.map_nil, List.map_eq_cons_iff,
        List.map_eq_append_iff, List.map_eq_nil_iff] at same
      obtain ⟨opening, _, rfl, first, between, _, rfl, kinds, closing, _, rfl, last, rfl⟩ := same
      obtain ⟨again, expression, alike⟩ := inner.of_kinds kinds
      exact ⟨again, .parens (first.trans opens) expression (last.trans closes), alike⟩
  | .rule named compares denotes, same => by
      simp only [List.map_cons, List.map_nil, List.map_eq_cons_iff, List.map_eq_nil_iff] at same
      obtain ⟨field, _, rfl, first, operator, _, rfl, second, value, _, rfl, third, rfl⟩ := same
      exact ⟨_, .rule (first.trans named) (second ▸ compares) (third ▸ denotes), rfl⟩

theorem Joined.of_kinds {connective : Connective} {tokens others : List Token}
    {exprs : List Expr} :
    Joined connective tokens exprs → others.map Token.kind = tokens.map Token.kind →
      ∃ again, Joined connective others again ∧ again.map placeless = exprs.map placeless
  | .nil _, same => by
      obtain rfl := List.map_eq_nil_iff.mp same
      exact ⟨[], .nil _, rfl⟩
  | .cons joins next later, same => by
      simp only [List.map_cons, List.map_append, List.map_eq_cons_iff,
        List.map_eq_append_iff] at same
      obtain ⟨joint, _, rfl, first, front, back, rfl, frontKinds, backKinds⟩ := same
      obtain ⟨expr, operand, alike⟩ := next.of_kinds frontKinds
      obtain ⟨exprs, joined, laterAlike⟩ := later.of_kinds backKinds
      exact ⟨expr :: exprs, .cons (first.trans joins) operand joined, by simp [alike, laterAlike]⟩

end

end Expr

private theorem compilePattern_atStart {rule : Rule} {parse? : String → Option Regex.Node}
    {test : Test} :
    rule.atStart.compilePattern parse? = .ok test ↔ rule.compilePattern parse? = .ok test := by
  unfold Rule.compilePattern Rule.atStart
  cases rule.literal with
  | string text => cases parsed : parse? text <;> simp [parsed]
  | _ => simp

theorem Rule.compileTest_atStart {rule : Rule} {test : Test} :
    rule.atStart.compileTest = .ok test ↔ rule.compileTest = .ok test := by
  have same : rule.atStart.comparison = rule.comparison ∧ rule.atStart.literal = rule.literal :=
    ⟨rfl, rfl⟩
  unfold compileTest
  rw [same.1, same.2]
  split
  · exact compilePattern_atStart
  · exact compilePattern_atStart
  · split <;> simp

theorem Predicate.ofExpr_placeless {expr : Expr} {predicate : Predicate} :
    ofExpr expr.placeless = .ok predicate ↔ ofExpr expr = .ok predicate := by
  induction expr using Expr.join_induction generalizing predicate with
  | rule leaf =>
      rw [Expr.placeless, ofExpr_rule_eq_ok_iff, ofExpr_rule_eq_ok_iff]
      simp only [Rule.compileTest_atStart]
      rfl
  | join connective left right leftIH rightIH =>
      rw [Expr.placeless_join, ofExpr_join_eq_ok_iff, ofExpr_join_eq_ok_iff]
      simp only [leftIH, rightIH]

/-- A text whose tokens, or any others of their kinds, derive a tree of the predicate. -/
def Asks (text : List Char) (predicate : Predicate) : Prop :=
  ∃ kinds, Scans text kinds ∧ ∀ tokens : List Token, tokens.map Token.kind = kinds →
    ∃ expr, Expr.Expression tokens expr ∧ Predicate.ofExpr expr = .ok predicate

theorem asks_iff {query : String} {predicate : Predicate} :
    Asks query.toList predicate ↔
      ∃ expr, Expr.parse query = .ok expr ∧ Predicate.ofExpr expr = .ok predicate := by
  simp only [Expr.parse_eq_ok_iff, Token.scan_eq_ok_iff]
  constructor
  · rintro ⟨kinds, scans, derives⟩
    obtain ⟨tokens, scanned, same⟩ := Token.scans_iff.mp scans
    obtain ⟨expr, expression, made⟩ := derives tokens same
    exact ⟨expr, ⟨tokens, scanned, expression⟩, made⟩
  · rintro ⟨expr, ⟨tokens, scanned, derives⟩, made⟩
    refine ⟨_, Token.scans_iff.mpr ⟨tokens, scanned, rfl⟩, fun others same => ?_⟩
    obtain ⟨again, expression, alike⟩ := derives.of_kinds same
    refine ⟨again, expression, ?_⟩
    rw [← Predicate.ofExpr_placeless, alike, Predicate.ofExpr_placeless, made]

/-- Texts in parentheses, joined. -/
def joinedChars (connective : Connective) (left right : List Char) : List Char :=
  '(' :: (left ++ ')' :: (connective.chars ++ '(' :: (right ++ [')'])))

/-- Parentheses keep the parts apart, both in the text and in the tree. -/
theorem Asks.join {connective : Connective} {left right : List Char} {first second : Predicate}
    (asksFirst : Asks left first) (asksSecond : Asks right second) :
    Asks (joinedChars connective left right) (connective.both first second) := by
  obtain ⟨leftKinds, leftScans, leftDerives⟩ := asksFirst
  obtain ⟨rightKinds, rightScans, rightDerives⟩ := asksSecond
  have breaks (rest : List Char) : Breaks (')' :: rest) := by
    simp [Breaks, Token.isWordChar, Token.isOperatorChar]
  have last := (rightScans.append (breaks []) Scans.nil.closeParen).openParen
  have scans := leftScans.append (breaks _) (scans_connective connective last).closeParen
  refine ⟨_, scans.openParen, fun tokens same => ?_⟩
  simp only [List.map_eq_cons_iff, List.map_eq_append_iff, List.map_eq_nil_iff] at same
  obtain ⟨opening, _, rfl, opens, inner, _, rfl, innerKinds, closing, _, rfl, closes, joint, _, rfl,
    joins, opening', _, rfl, opens', inner', _, rfl, innerKinds', closing', _, rfl, closes', rfl⟩ :=
    same
  obtain ⟨left, leftExpression, leftMade⟩ := leftDerives inner innerKinds
  obtain ⟨right, rightExpression, rightMade⟩ := rightDerives inner' innerKinds'
  refine ⟨connective.join left right, ?_,
    Predicate.ofExpr_join_eq_ok_iff.mpr ⟨_, _, leftMade, rightMade, rfl⟩⟩
  have operand := Expr.Operand.parens opens' rightExpression closes'
  have chain := Expr.Expression.chain (.parens opens leftExpression closes)
    (.cons joins operand (.nil connective)) (by simp)
  simpa using chain

/-- Queries put together. -/
inductive Composition where
  | query (text : String)
  | join (connective : Connective) (left right : Composition)

namespace Composition

def queries : Composition → List String
  | .query text => [text]
  | .join _ left right => left.queries ++ right.queries

/-- Queries are put together as texts, in parentheses. -/
def text : Composition → String
  | .query text => text
  | .join .and left right => "(" ++ left.text ++ ") && (" ++ right.text ++ ")"
  | .join .or left right => "(" ++ left.text ++ ") || (" ++ right.text ++ ")"

/-- Queries are compiled alone and put together as predicates. -/
def predicate? : Composition → Except Fault Predicate
  | .query text => compile text
  | .join connective left right => do
      let first ← left.predicate?
      let second ← right.predicate?
      .ok (connective.both first second)

theorem toList_text_join (connective : Connective) (left right : Composition) :
    (join connective left right).text.toList =
      joinedChars connective left.text.toList right.text.toList := by
  cases connective <;> simp [text, joinedChars, Connective.chars]

theorem exists_asks {composition : Composition}
    (visible : ∀ query ∈ composition.queries, Text.isBlankText query = false)
    (compiles : ∀ query ∈ composition.queries, ∃ predicate, compile query = .ok predicate) :
    ∃ predicate, composition.predicate? = .ok predicate ∧
      Asks composition.text.toList predicate := by
  induction composition with
  | query text =>
      obtain ⟨predicate, compiled⟩ := compiles text List.mem_cons_self
      refine ⟨predicate, compiled, asks_iff.mpr ?_⟩
      rcases compile_eq_ok_iff.mp compiled with ⟨blank, -⟩ | read
      · rw [visible text List.mem_cons_self] at blank
        cases blank
      · exact read
  | join connective left right leftIH rightIH =>
      obtain ⟨leftVisible, rightVisible⟩ := List.forall_mem_append.mp visible
      obtain ⟨leftCompiles, rightCompiles⟩ := List.forall_mem_append.mp compiles
      obtain ⟨first, firstMade, firstAsks⟩ := leftIH leftVisible leftCompiles
      obtain ⟨second, secondMade, secondAsks⟩ := rightIH rightVisible rightCompiles
      refine ⟨connective.both first second, ?_, ?_⟩
      · rw [predicate?, firstMade, secondMade]
        rfl
      · rw [toList_text_join]
        exact firstAsks.join secondAsks

/-- Queries that compile and are not blank also compile when they are put together as texts.  That
makes the very predicate that their own predicates make, put together likewise, so both hold of the
same projections. -/
theorem compile_text (composition : Composition)
    (visible : ∀ query ∈ composition.queries, Text.isBlankText query = false)
    (compiles : ∀ query ∈ composition.queries, ∃ predicate, compile query = .ok predicate) :
    ∃ predicate, composition.predicate? = .ok predicate ∧
      compile composition.text = .ok predicate := by
  obtain ⟨predicate, made, asks⟩ := exists_asks visible compiles
  exact ⟨predicate, made, compile_eq_ok_iff.mpr (.inr (asks_iff.mp asks))⟩

/-- A text without parentheses of its own, one with the marks of a query between its quotes, and one
with blanks around it. -/
def threeQueries : Composition :=
  .join .or (.join .and (.query "a = 1 || b > 2") (.query r#"name = "x) && (""#))
    (.query " c is null ")

/-- The trees of the three queries. -/
private def threeTrees : List Expr :=
  [.or (.rule ⟨"a", .equal, .number (.natural 1), 0⟩)
      (.rule ⟨"b", .greater, .number (.natural 2), 9⟩),
    .rule ⟨"name", .equal, .string "x) && (", 0⟩, .rule ⟨"c", .is, .null, 1⟩]

theorem threeQueries_compile :
    (∀ query ∈ threeQueries.queries, Text.isBlankText query = false) ∧
    (∀ query ∈ threeQueries.queries, ∃ predicate, compile query = .ok predicate) ∧
    threeQueries.text = r#"((a = 1 || b > 2) && (name = "x) && (")) || ( c is null )"# ∧
    ∃ predicate, threeQueries.predicate? = .ok predicate ∧
      compile threeQueries.text = .ok predicate := by
  have visible : ∀ query ∈ threeQueries.queries, Text.isBlankText query = false := by
    decide +kernel
  have read : threeQueries.queries.map Expr.parse = threeTrees.map .ok := by
    decide +kernel
  have meaningful : ∀ expr ∈ threeTrees, ∃ predicate, Predicate.ofExpr expr = .ok predicate := by
    simp only [threeTrees, List.forall_mem_cons]
    exact ⟨⟨_, rfl⟩, ⟨_, rfl⟩, ⟨_, rfl⟩, nofun⟩
  have compiles : ∀ query ∈ threeQueries.queries, ∃ predicate, compile query = .ok predicate := by
    intro query among
    obtain ⟨expr, tree, same⟩ := List.mem_map.mp (read ▸ List.mem_map_of_mem among)
    obtain ⟨predicate, made⟩ := meaningful expr tree
    exact ⟨predicate, compile_eq_ok_iff.mpr (.inr ⟨expr, same.symm, made⟩)⟩
  exact ⟨visible, compiles, by decide +kernel, compile_text threeQueries visible compiles⟩

end Composition

end DocStore.Query

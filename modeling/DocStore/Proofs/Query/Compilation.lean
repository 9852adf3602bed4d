import DocStore.Proofs.Query.Meaning
import DocStore.Proofs.Query.Scan
import DocStore.Proofs.Query.Text
/-!
Which queries compile, and what is wrong with the others.

A rule is refused for reasons of its own (`Rule.Refused`).  The rules of a tree
are in the order in which they begin in the query (`Expr.ascending_of_parse`), so
that the leftmost rule of the tree that is refused is the first one in the text.
A query compiles when it is blank, or when it is read and no rule is refused; all
others are refused at the first fault (`compile_verdict`).
-/

namespace DocStore.Query

/-- The comparisons with patterns, and how each has them read. -/
inductive Comparison.ReadsBy (read? : Regex.Reader) :
    Comparison → (String → Option Regex.Node) → Prop where
  | pattern : ReadsBy read? .pattern (Regex.Node.parse? · read?)
  | like : ReadsBy read? .like (Regex.Node.parseGlob? · read?)

/-- Why no query can ask what a rule asks: a pattern that is no text or is not read, or an order
against null. -/
inductive Rule.Refused (read? : Regex.Reader) (rule : Rule) : Problem → Prop where
  | notText {parse? : String → Option Regex.Node} (reads : rule.comparison.ReadsBy read? parse?)
      (literal : ∀ text, rule.literal ≠ .string text) :
      Refused read? rule (.patternNotText rule.comparison rule.literal.typeName)
  | unread {parse? : String → Option Regex.Node} (reads : rule.comparison.ReadsBy read? parse?)
      {text : String} (literal : rule.literal = .string text) (rejected : parse? text = none) :
      Refused read? rule .invalidPattern
  | order (orders : rule.comparison ∈ [.less, .lessEqual, .greater, .greaterEqual])
      (literal : rule.literal = .null) : Refused read? rule (.orderAgainstNull rule.comparison)

/-- No query is malformed because of the rule. -/
def Rule.Meaningful (read? : Regex.Reader) (rule : Rule) : Prop :=
  ∀ problem, ¬ rule.Refused read? problem

/-- The fault of a result, if it is one. -/
def faultOf {α : Type} : Except Fault α → Option Fault
  | .ok _ => none
  | .error fault => some fault

theorem faultOf_eq_some_iff {α : Type} {result : Except Fault α} {fault : Fault} :
    faultOf result = some fault ↔ result = .error fault := by
  cases result <;> simp [faultOf]

theorem faultOf_eq_none_iff {α : Type} {result : Except Fault α} :
    faultOf result = none ↔ ∃ value, result = .ok value := by
  cases result <;> simp [faultOf]

namespace Rule

variable {read? : Regex.Reader} {rule : Rule} {fault : Fault}

private theorem compilePattern_eq_error_iff {parse? : String → Option Regex.Node}
    (reads : rule.comparison.ReadsBy read? parse?) :
    rule.compilePattern parse? = .error fault ↔
      ∃ problem, rule.Refused read? problem ∧ fault = rule.fault problem := by
  have unique {other : String → Option Regex.Node} (again : rule.comparison.ReadsBy read? other) :
      other = parse? := by
    generalize rule.comparison = comparison at reads again
    cases reads <;> cases again <;> rfl
  unfold compilePattern
  constructor
  · intro failed
    split at failed
    case h_1 text literal =>
      split at failed
      case h_1 => cases failed
      case h_2 rejected => exact ⟨_, .unread reads literal rejected, (Except.error.inj failed).symm⟩
    case h_2 noText => exact ⟨_, .notText reads noText, (Except.error.inj failed).symm⟩
  · rintro ⟨problem, refused, rfl⟩
    cases refused with
    | notText _ noText =>
        split
        case h_1 text literal => exact absurd literal (noText text)
        case h_2 => rfl
    | unread again literal rejected =>
        rw [unique again] at rejected
        simp only [literal, rejected]
    | order orders =>
        generalize rule.comparison = comparison at reads orders
        cases reads <;> simp at orders

private theorem order_iff :
    (rule.comparison.isOrdering && rule.literal.isNull) = true ↔
      rule.comparison ∈ [.less, .lessEqual, .greater, .greaterEqual] ∧ rule.literal = .null := by
  cases rule.comparison <;> cases rule.literal <;>
    simp [Comparison.isOrdering, Primitive.isNull]

theorem compileTest_eq_error_iff :
    rule.compileTest read? = .error fault ↔
      ∃ problem, rule.Refused read? problem ∧ fault = rule.fault problem := by
  unfold compileTest
  split
  case h_1 asks => exact compilePattern_eq_error_iff (asks ▸ .pattern)
  case h_2 asks => exact compilePattern_eq_error_iff (asks ▸ .like)
  case h_3 noPattern noGlob =>
    have noReader (parse? : String → Option Regex.Node) :
        ¬ rule.comparison.ReadsBy read? parse? := by
      intro reads
      generalize rule.comparison = comparison at reads noPattern noGlob
      cases reads
      · exact noPattern rfl
      · exact noGlob rfl
    split
    case isTrue refused =>
      obtain ⟨orders, literal⟩ := order_iff.mp refused
      constructor
      · intro failed
        exact ⟨_, .order orders literal, (Except.error.inj failed).symm⟩
      · rintro ⟨problem, found, rfl⟩
        cases found with
        | notText reads => exact absurd reads (noReader _)
        | unread reads => exact absurd reads (noReader _)
        | order => rfl
    case isFalse accepted =>
      refine ⟨nofun, ?_⟩
      rintro ⟨problem, found, rfl⟩
      cases found with
      | notText reads => exact absurd reads (noReader _)
      | unread reads => exact absurd reads (noReader _)
      | order orders literal => exact absurd (order_iff.mpr ⟨orders, literal⟩) accepted

theorem compile_eq_error_iff :
    rule.compile read? = .error fault ↔
      ∃ problem, rule.Refused read? problem ∧ fault = rule.fault problem := by
  rw [← compileTest_eq_error_iff, compile]
  cases rule.compileTest read? <;> simp [Except.map]

theorem meaningful_iff : rule.Meaningful read? ↔ faultOf (rule.compile read?) = none := by
  cases compiled : rule.compile read? with
  | ok made =>
      refine ⟨fun _ => rfl, fun _ problem refused => ?_⟩
      have failed := compile_eq_error_iff.mpr ⟨problem, refused, rfl⟩
      rw [compiled] at failed
      cases failed
  | error fault =>
      obtain ⟨problem, refused, -⟩ := compile_eq_error_iff.mp compiled
      exact ⟨fun meaningful => absurd refused (meaningful problem), nofun⟩

end Rule

/-- Both predicates together, or one of the two. -/
def Connective.both : Connective → Predicate → Predicate → Predicate
  | .and => .and
  | .or => .or

namespace Predicate

variable {read? : Regex.Reader}

theorem ofExpr_rule_eq_ok_iff {rule : Rule} {predicate : Predicate} :
    ofExpr (.rule rule) read? = .ok predicate ↔
      ∃ test, rule.compileTest read? = .ok test ∧ predicate = .rule ⟨rule.field, test⟩ := by
  rw [ofExpr, Rule.compile]
  cases rule.compileTest read? <;> simp [Except.map, eq_comm]

theorem ofExpr_join_eq_ok_iff {connective : Connective} {left right : Expr}
    {predicate : Predicate} :
    ofExpr (connective.join left right) read? = .ok predicate ↔
      ∃ first second, ofExpr left read? = .ok first ∧ ofExpr right read? = .ok second ∧
        predicate = connective.both first second := by
  have unfolded : ofExpr (connective.join left right) read? =
      (do
        let first ← ofExpr left read?
        let second ← ofExpr right read?
        .ok (connective.both first second)) := by
    cases connective <;> rfl
  rw [unfolded]
  cases ofExpr left read? <;> cases ofExpr right read? <;> simp [bind, Except.bind, eq_comm]

private theorem faultOf_both {first second : Except Fault Predicate}
    (both : Predicate → Predicate → Predicate) :
    faultOf (do let left ← first; let right ← second; .ok (both left right)) =
      (faultOf first).or (faultOf second) := by
  cases first <;> cases second <;> rfl

/-- A tree is at fault where its first rule is that does not compile. -/
theorem faultOf_ofExpr (expr : Expr) :
    faultOf (ofExpr expr read?) =
      expr.rules.findSome? fun rule => faultOf (rule.compile read?) := by
  induction expr with
  | rule leaf =>
      rw [ofExpr, Expr.rules, List.findSome?_singleton]
      cases leaf.compile read? <;> rfl
  | and left right leftIH rightIH =>
      rw [ofExpr, faultOf_both, leftIH, rightIH, Expr.rules, List.findSome?_append]
  | or left right leftIH rightIH =>
      rw [ofExpr, faultOf_both, leftIH, rightIH, Expr.rules, List.findSome?_append]

theorem exists_ofExpr_iff {expr : Expr} :
    (∃ predicate, ofExpr expr read? = .ok predicate) ↔
      ∀ rule ∈ expr.rules, rule.Meaningful read? := by
  simp only [← faultOf_eq_none_iff, faultOf_ofExpr, List.findSome?_eq_none_iff,
    Rule.meaningful_iff]

theorem ofExpr_eq_error_iff {expr : Expr} {fault : Fault} :
    ofExpr expr read? = .error fault ↔ ∃ before rule after, expr.rules = before ++ rule :: after ∧
      (∀ other ∈ before, other.Meaningful read?) ∧
      ∃ problem, rule.Refused read? problem ∧ fault = rule.fault problem := by
  rw [← faultOf_eq_some_iff, faultOf_ofExpr, List.findSome?_eq_some_iff]
  simp only [faultOf_eq_some_iff, Rule.compile_eq_error_iff, Rule.meaningful_iff]
  exact exists_congr fun _ => exists_congr fun _ => exists_congr fun _ =>
    and_congr_right fun _ => and_comm

theorem ofExpr_ne_always (expr : Expr) : ofExpr expr read? ≠ .ok .always := by
  intro compiled
  induction expr using Expr.join_induction with
  | rule leaf =>
      obtain ⟨_, -, made⟩ := ofExpr_rule_eq_ok_iff.mp compiled
      cases made
  | join connective left right =>
      obtain ⟨_, _, -, -, made⟩ := ofExpr_join_eq_ok_iff.mp compiled
      cases connective <;> cases made

end Predicate

namespace Expr

/-- Each rule begins at a token of its own, which is its field, in the order of the tokens. -/
def Placed (tokens : List Token) (rules : List Rule) : Prop :=
  (rules.map fun rule => (TokenKind.word rule.field, rule.position)).Sublist
    (tokens.map fun token => (token.kind, token.position))

theorem Placed.mono {tokens more : List Token} {rules : List Rule} (placed : Placed tokens rules)
    (within : tokens.Sublist more) : Placed more rules :=
  List.Sublist.trans placed (within.map _)

theorem Placed.append {tokens more : List Token} {rules others : List Rule}
    (first : Placed tokens rules) (second : Placed more others) :
    Placed (tokens ++ more) (rules ++ others) := by
  rw [Placed, List.map_append, List.map_append]
  exact List.Sublist.append first second

mutual

theorem Expression.placed {tokens : List Token} {expr : Expr} :
    Expression tokens expr → Placed tokens expr.rules
  | .operand only => only.placed
  | .chain begins joined _ => by
      rw [rules_foldl_join]
      exact begins.placed.append joined.placed

theorem Operand.placed {tokens : List Token} {expr : Expr} :
    Operand tokens expr → Placed tokens expr.rules
  | .parens _ inner _ =>
      inner.placed.mono ((List.sublist_append_left _ _).trans (List.sublist_cons_self _ _))
  | .rule named _ _ => by simp [Placed, rules, named]

theorem Joined.placed {connective : Connective} {tokens : List Token} {others : List Expr} :
    Joined connective tokens others → Placed tokens (others.flatMap rules)
  | .nil _ => List.nil_sublist _
  | .cons _ next later =>
      (next.placed.append later.placed).mono (List.sublist_cons_self _ _)

end

/-- The rules of a tree are in the order in which they begin in the query. -/
theorem ascending_of_parse {query : String} {expr : Expr} (read : parse query = .ok expr) :
    expr.rules.Pairwise fun a b => a.position < b.position := by
  obtain ⟨tokens, scanned, derives⟩ := parse_eq_ok_iff.mp read
  have ascending := (Token.scan_eq_ok_iff.mp scanned).ascending
  have positions : (expr.rules.map Rule.position).Sublist (tokens.map Token.position) := by
    simpa [Function.comp_def] using List.Sublist.map Prod.snd derives.placed
  exact List.pairwise_map.mp ((List.pairwise_map.mpr ascending).sublist positions)

end Expr

/-- The field of a rule is written in the query at its position, counted in bytes. -/
def Rule.StandsIn (query : String) (rule : Rule) : Prop :=
  ∃ before after, query.toList = before ++ rule.field.toList ++ after ∧
    rule.position = byteLength before

theorem Expr.standsIn_of_parse {query : String} {expr : Expr} (read : parse query = .ok expr) :
    ∀ rule ∈ expr.rules, rule.StandsIn query := by
  obtain ⟨tokens, scanned, derives⟩ := parse_eq_ok_iff.mp read
  have scanned := Token.scan_eq_ok_iff.mp scanned
  intro rule member
  have placed := List.Sublist.subset derives.placed (List.mem_map_of_mem member)
  obtain ⟨token, among, same⟩ := List.mem_map.mp placed
  obtain ⟨named, position⟩ := Prod.mk.inj same
  obtain ⟨before, after, written, place⟩ := scanned.standsIn token among
  rw [scanned.text_of_word token among _ named] at written
  exact ⟨before, after, written, by rw [← position, place, Nat.zero_add]⟩

theorem Expr.parse_ne_ok_of_blank {query : String} (blank : Text.isBlankText query = true)
    (expr : Expr) : parse query ≠ .ok expr := by
  intro read
  obtain ⟨tokens, scanned, derives⟩ := parse_eq_ok_iff.mp read
  rw [Token.scan_eq_nil_iff.mpr blank, Except.ok.injEq] at scanned
  exact derives.ne_nil scanned.symm

theorem compile_eq_ok_iff {query : String} {read? : Regex.Reader} {predicate : Predicate} :
    compile query read? = .ok predicate ↔
      (Text.isBlankText query = true ∧ predicate = .always) ∨
        ∃ expr, Expr.parse query = .ok expr ∧ Predicate.ofExpr expr read? = .ok predicate := by
  unfold compile
  by_cases blank : Text.isBlankText query = true
  · simp [blank, Expr.parse_ne_ok_of_blank blank, eq_comm]
  · rw [if_neg blank]
    constructor
    · intro compiled
      exact .inr (Expr.bind_eq_ok compiled)
    · rintro (⟨white, -⟩ | ⟨expr, read, made⟩)
      · exact absurd white blank
      · rw [read]
        exact made

theorem compile_eq_error_iff {query : String} {read? : Regex.Reader} {fault : Fault} :
    compile query read? = .error fault ↔
      (Text.isBlankText query = false ∧ Expr.parse query = .error fault) ∨
        ∃ expr, Expr.parse query = .ok expr ∧ Predicate.ofExpr expr read? = .error fault := by
  unfold compile
  by_cases blank : Text.isBlankText query = true
  · simp [blank, Expr.parse_ne_ok_of_blank blank]
  · rw [if_neg blank]
    cases read : Expr.parse query with
    | error found => simp [blank, bind, Except.bind]
    | ok expr => simp [bind, Except.bind]

/-- Of rules that are in the order of the text, the first one in the list that is refused is the
first one in the text. -/
private theorem first_iff {read? : Regex.Reader} {rules : List Rule} {rule : Rule}
    (ascending : rules.Pairwise fun a b => a.position < b.position) :
    (∃ before after, rules = before ++ rule :: after ∧ ∀ other ∈ before, other.Meaningful read?) ↔
      rule ∈ rules ∧
        ∀ other ∈ rules, ¬ other.Meaningful read? →
          other = rule ∨ rule.position < other.position := by
  constructor
  · rintro ⟨before, after, rfl, meaningful⟩
    refine ⟨by simp, fun other member refused => ?_⟩
    obtain ⟨-, later, -⟩ := List.pairwise_append.mp ascending
    rcases List.mem_append.mp member with early | here
    · exact absurd (meaningful other early) refused
    · exact (List.mem_cons.mp here).imp_right ((List.pairwise_cons.mp later).1 other)
  · rintro ⟨member, least⟩
    obtain ⟨before, after, rfl⟩ := List.append_of_mem member
    refine ⟨before, after, rfl, fun other early => ?_⟩
    by_contra refused
    have precedes := (List.pairwise_append.mp ascending).2.2 other early rule List.mem_cons_self
    rcases least other (List.mem_append_left _ early) refused with rfl | follows
    · exact Nat.lt_irrefl _ precedes
    · exact Nat.lt_asymm precedes follows

theorem Expr.ofExpr_eq_error_iff_first {query : String} {read? : Regex.Reader} {expr : Expr}
    {fault : Fault} (read : parse query = .ok expr) :
    Predicate.ofExpr expr read? = .error fault ↔ ∃ rule ∈ expr.rules,
      (∃ problem, rule.Refused read? problem ∧ fault = ⟨rule.text, rule.position, problem⟩) ∧
      rule.StandsIn query ∧
      ∀ other ∈ expr.rules, ¬ other.Meaningful read? →
        other = rule ∨ rule.position < other.position := by
  rw [Predicate.ofExpr_eq_error_iff]
  constructor
  · rintro ⟨before, rule, after, parts, meaningful, refused⟩
    obtain ⟨member, least⟩ :=
      (first_iff (ascending_of_parse read)).mp ⟨before, after, parts, meaningful⟩
    exact ⟨rule, member, refused, standsIn_of_parse read rule member, least⟩
  · rintro ⟨rule, member, refused, -, least⟩
    obtain ⟨before, after, parts, meaningful⟩ :=
      (first_iff (ascending_of_parse read)).mpr ⟨member, least⟩
    exact ⟨before, rule, after, parts, meaningful, refused⟩

/-- What compiling a query comes to.  A blank query, which is one without tokens, holds of
everything, and no other does so.  Any other query compiles exactly when it is read and no rule of
its tree is refused.  A query that is not read has the fault of reading it; one whose tree has rules
that are refused has the fault of the first of them in the text, at the place where it begins.  This
is so whichever patterns the reader of expressions accepts. -/
theorem compile_verdict (query : String) (read? : Regex.Reader) :
    (compile query read? = .ok .always ↔ Text.isBlankText query = true) ∧
    (Text.isBlankText query = true ↔ Token.scan query = .ok []) ∧
    ((∃ predicate, compile query read? = .ok predicate) ↔
      Text.isBlankText query = true ∨
        ∃ expr, Expr.parse query = .ok expr ∧ ∀ rule ∈ expr.rules, rule.Meaningful read?) ∧
    ∀ fault, compile query read? = .error fault ↔
      (Text.isBlankText query = false ∧ Expr.parse query = .error fault) ∨
        ∃ expr, Expr.parse query = .ok expr ∧ ∃ rule ∈ expr.rules,
          (∃ problem, rule.Refused read? problem ∧ fault = ⟨rule.text, rule.position, problem⟩) ∧
          rule.StandsIn query ∧ ∀ other ∈ expr.rules, ¬ other.Meaningful read? →
            other = rule ∨ rule.position < other.position := by
  refine ⟨?_, Token.scan_eq_nil_iff.symm, ?_, fun fault => ?_⟩
  · rw [compile_eq_ok_iff]
    simp [Predicate.ofExpr_ne_always]
  · simp only [← Predicate.exists_ofExpr_iff, compile_eq_ok_iff]
    constructor
    · rintro ⟨predicate, ⟨blank, -⟩ | ⟨expr, read, made⟩⟩
      · exact .inl blank
      · exact .inr ⟨expr, read, predicate, made⟩
    · rintro (blank | ⟨expr, read, predicate, made⟩)
      · exact ⟨.always, .inl ⟨blank, rfl⟩⟩
      · exact ⟨predicate, .inr ⟨expr, read, made⟩⟩
  · rw [compile_eq_error_iff]
    refine or_congr_right (exists_congr fun expr => and_congr_right fun read => ?_)
    exact Expr.ofExpr_eq_error_iff_first read

example : faultOf (compile "(a = 1 || b < null) && c like 3") =
    some ⟨"b < null", 10, .orderAgainstNull .less⟩ := by
  decide +kernel

end DocStore.Query

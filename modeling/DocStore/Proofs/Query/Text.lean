import DocStore.Proofs.Query.Number
import DocStore.Proofs.Query.Parser
import DocStore.Proofs.Query.Token

namespace DocStore.Query

open Token (Scans IsWord EndsWord)

namespace Rule

/-- A field that is a word, and a literal that is read back. -/
structure Writable (rule : Rule) : Prop where
  field : IsWord rule.field.toList
  literal : ∀ number, rule.literal = .number number → NumberWord number.text.toList number

def atStart (rule : Rule) : Rule := { rule with position := 0 }

end Rule

def Comparison.kind : Comparison → TokenKind
  | .like => .word "like"
  | .is => .word "is"
  | .isNot => .word "is_not"
  | comparison => .symbol comparison

theorem Comparison.compares (comparison : Comparison) :
    Expr.Compares comparison.kind comparison := by
  cases comparison with
  | like => exact .like
  | is => exact .is
  | isNot => exact .isNot
  | _ => exact .symbol _

def literalKind : Primitive → TokenKind
  | .string text => .string text
  | literal => .word literal.text

private theorem isWordChar_of_isNumberChar {c : Char} (number : isNumberChar c = true) :
    Token.isWordChar c = true := by
  simp only [isNumberChar, Bool.or_eq_true, beq_iff_eq] at number
  rcases number with (((digit | rfl) | rfl) | rfl) | rfl
  · have between : 48 ≤ c.toNat ∧ c.toNat ≤ 57 := by
      simpa [Char.isDigit, UInt32.le_iff_toNat_le] using digit
    have different (other : Char) (apart : other.toNat < 48 ∨ 57 < other.toNat) : c ≠ other := by
      rintro rfl
      omega
    have visible : Text.isBlank c = false := by
      simp [Text.isBlank]
      omega
    rw [Token.isWordChar_iff]
    refine ⟨visible, ?_, different _ (by decide), different _ (by decide), different _ (by decide)⟩
    simp [Token.isOperatorChar, different '=' (by decide), different '!' (by decide),
      different '<' (by decide), different '>' (by decide), different '~' (by decide),
      different '&' (by decide), different '|' (by decide)]
  all_goals decide

theorem isWord_of_isNumberText {text : List Char} (written : IsNumberText text) : IsWord text := by
  obtain ⟨⟨first, rest, rfl, -⟩, all⟩ := written
  exact ⟨by simp, fun c member => isWordChar_of_isNumberChar (List.all_eq_true.mp all c member)⟩

section Scanning

variable {rest : List Char} {kinds : List TokenKind}

theorem scans_comparison (comparison : Comparison) (scans : Scans rest kinds) :
    Scans (comparison.symbol.toList ++ ' ' :: rest) (comparison.kind :: kinds) := by
  have space : EndsWord (' ' :: rest) := by simp [EndsWord, Token.isWordChar, Text.isBlank]
  cases comparison with
  | like => exact scans.space.word (show IsWord "like".toList by decide) space
  | is => exact scans.space.word (show IsWord "is".toList by decide) space
  | isNot => exact scans.space.word (show IsWord "is_not".toList by decide) space
  | _ => exact scans.space.token rfl (fun _ => rfl) (by simp)

theorem scans_literal (literal : Primitive) (ends : EndsWord rest) (scans : Scans rest kinds) :
    Scans (literal.literal ++ rest) (literalKind literal :: kinds) := by
  cases literal with
  | null => exact scans.word (show IsWord "null".toList by decide) ends
  | bool value =>
      cases value with
      | true => exact scans.word (show IsWord "true".toList by decide) ends
      | false => exact scans.word (show IsWord "false".toList by decide) ends
  | number number =>
      have word := isWord_of_isNumberText number.isNumberText
      simpa [literalKind, Primitive.text, Primitive.literal] using scans.word word ends
  | string text =>
      have quoted : Scans ('"' :: (text.toList.flatMap Primitive.literalChar ++ '"' :: rest))
          (.string (String.ofList text.toList) :: kinds) := scans.string
      simpa [literalKind, Primitive.literal] using quoted

/-- Only the field of a rule must be a word; what its literal is read as does not matter here. -/
theorem scans_rule (rule : Rule) (field : IsWord rule.field.toList) (ends : EndsWord rest)
    (scans : Scans rest kinds) :
    Scans (rule.chars ++ rest)
      (.word rule.field :: rule.comparison.kind :: literalKind rule.literal :: kinds) := by
  have value := scans_comparison rule.comparison (scans_literal rule.literal ends scans)
  have named := value.space.word field (by simp [EndsWord, Token.isWordChar, Text.isBlank])
  simpa [Rule.chars] using named

end Scanning

theorem denotes_literalKind {rule : Rule} (writable : rule.Writable) :
    Expr.Denotes (literalKind rule.literal) rule.literal := by
  cases made : rule.literal with
  | null => exact .null
  | bool value =>
      cases value with
      | true => exact .yes
      | false => exact .no
  | number number =>
      refine .number ?_
      simpa [Primitive.text, Primitive.literal] using writable.literal number made
  | string text => exact .string text

def Connective.chars : Connective → List Char
  | .and => " && ".toList
  | .or => " || ".toList

theorem scans_connective (connective : Connective) {rest : List Char} {kinds : List TokenKind}
    (scans : Scans rest kinds) : Scans (connective.chars ++ rest) (connective.kind :: kinds) := by
  cases connective with
  | and => exact scans.space.and.space
  | or => exact scans.space.or.space

namespace Expr

/-- Both kinds of inner nodes are treated alike. -/
theorem join_induction {motive : Expr → Prop} (rule : ∀ leaf, motive (.rule leaf))
    (join : ∀ (connective : Connective) left right, motive left → motive right →
      motive (connective.join left right)) (expr : Expr) : motive expr := by
  induction expr with
  | rule leaf => exact rule leaf
  | and left right leftIH rightIH => exact join .and left right leftIH rightIH
  | or left right leftIH rightIH => exact join .or left right leftIH rightIH

/-- The tree with its rules all at the start, so that it does not tell where they stand. -/
def placeless : Expr → Expr
  | .rule leaf => .rule leaf.atStart
  | .and left right => .and left.placeless right.placeless
  | .or left right => .or left.placeless right.placeless

/-- The kinds of the tokens that a tree is written as. -/
def kinds : Expr → List TokenKind
  | .rule leaf => [.word leaf.field, leaf.comparison.kind, literalKind leaf.literal]
  | .and left right => .openParen :: (left.kinds ++ .and :: (right.kinds ++ [.closeParen]))
  | .or left right => .openParen :: (left.kinds ++ .or :: (right.kinds ++ [.closeParen]))

def Writable (expr : Expr) : Prop := ∀ rule ∈ expr.rules, rule.Writable

section Join

variable (connective : Connective) (left right : Expr)

theorem rules_join : (connective.join left right).rules = left.rules ++ right.rules := by
  cases connective <;> rfl

theorem chars_join : (connective.join left right).chars =
    '(' :: (left.chars ++ (connective.chars ++ (right.chars ++ [')']))) := by
  cases connective <;> simp [Connective.join, Connective.chars, chars]

theorem kinds_join : (connective.join left right).kinds =
    .openParen :: (left.kinds ++ connective.kind :: (right.kinds ++ [.closeParen])) := by
  cases connective <;> rfl

theorem placeless_join : (connective.join left right).placeless =
    connective.join left.placeless right.placeless := by
  cases connective <;> rfl

theorem writable_join :
    (connective.join left right).Writable ↔ left.Writable ∧ right.Writable := by
  simp only [Writable, rules_join, List.mem_append, or_imp, forall_and]

end Join

theorem chars_placeless (expr : Expr) : expr.placeless.chars = expr.chars := by
  induction expr using join_induction with
  | rule leaf => rfl
  | join connective left right leftIH rightIH =>
      rw [placeless_join, chars_join, chars_join, leftIH, rightIH]

theorem text_eq_of_placeless {expr other : Expr} (same : expr.placeless = other.placeless) :
    expr.text = other.text := by
  rw [text, text, ← chars_placeless, same, chars_placeless]

private theorem endsWord_cons {c : Char} (ends : Token.isWordChar c = false) (rest : List Char) :
    EndsWord (c :: rest) := by
  simpa [EndsWord] using ends

private theorem endsWord_connective (connective : Connective) (rest : List Char) :
    EndsWord (connective.chars ++ rest) := by
  cases connective <;> exact endsWord_cons rfl _

theorem scans_chars {expr : Expr} (writable : expr.Writable) {rest : List Char}
    {later : List TokenKind} (ends : EndsWord rest) (scans : Scans rest later) :
    Scans (expr.chars ++ rest) (expr.kinds ++ later) := by
  -- Each lemma puts a token before a text that scans, so that a node is put together from its end.
  induction expr using join_induction generalizing rest later with
  | rule leaf =>
      have writable := writable leaf List.mem_cons_self
      exact scans_rule leaf writable.field ends scans
  | join connective left right leftIH rightIH =>
      obtain ⟨leftOk, rightOk⟩ := (writable_join connective left right).mp writable
      have second := rightIH rightOk (endsWord_cons rfl rest) scans.closeParen
      have first := leftIH leftOk (endsWord_connective connective _)
        (scans_connective connective second)
      simpa [chars_join, kinds_join] using first.openParen

/-- Tokens of these kinds derive the tree, with its rules where the tokens stand. -/
theorem operand_of_kinds {expr : Expr} (writable : expr.Writable) {tokens : List Token}
    (same : tokens.map Token.kind = expr.kinds) :
    ∃ again, Operand tokens again ∧ again.placeless = expr.placeless := by
  induction expr using join_induction generalizing tokens with
  | rule leaf =>
      have writable := writable leaf List.mem_cons_self
      simp only [kinds, List.map_eq_cons_iff, List.map_eq_nil_iff] at same
      obtain ⟨field, _, rfl, named, operator, _, rfl, compares, value, _, rfl, denotes, rfl⟩ := same
      exact ⟨_, .rule named (compares ▸ leaf.comparison.compares)
        (denotes ▸ denotes_literalKind writable), rfl⟩
  | join connective left right leftIH rightIH =>
      obtain ⟨leftOk, rightOk⟩ := (writable_join connective left right).mp writable
      simp only [kinds_join, List.map_eq_cons_iff, List.map_eq_append_iff,
        List.map_eq_nil_iff] at same
      obtain ⟨opening, _, rfl, opens, first, _, rfl, firstKinds, joint, _, rfl, joins, second, _,
        rfl, secondKinds, closing, _, rfl, closes, rfl⟩ := same
      obtain ⟨leftAgain, leftOperand, leftSame⟩ := leftIH leftOk firstKinds
      obtain ⟨rightAgain, rightOperand, rightSame⟩ := rightIH rightOk secondKinds
      -- A node is written in parentheses: inside they are a chain of two, with them an operand.
      have chain : Expression (first ++ (joint :: (second ++ [])))
          ([rightAgain].foldl connective.join leftAgain) :=
        .chain leftOperand (.cons joins rightOperand (.nil connective)) (by simp)
      refine ⟨connective.join leftAgain rightAgain, ?_, ?_⟩
      · simpa using Operand.parens opens chain closes
      · rw [placeless_join, placeless_join, leftSame, rightSame]

/-- The tokens name the field of the rule and denote its literal. -/
def Tells (tokens : List Token) (rule : Rule) : Prop :=
  (∃ token ∈ tokens, token.kind = .word rule.field) ∧
    ∃ token ∈ tokens, Denotes token.kind rule.literal

theorem Tells.mono {tokens more : List Token} {rule : Rule} (tells : Tells tokens rule)
    (within : tokens ⊆ more) : Tells more rule := by
  obtain ⟨⟨field, fieldMember, named⟩, value, valueMember, denotes⟩ := tells
  exact ⟨⟨field, within fieldMember, named⟩, value, within valueMember, denotes⟩

theorem rules_foldl_join (connective : Connective) (first : Expr) (others : List Expr) :
    (others.foldl connective.join first).rules = first.rules ++ others.flatMap rules := by
  induction others generalizing first with
  | nil => simp
  | cons next others ih =>
      rw [List.foldl_cons, ih, rules_join, List.flatMap_cons, List.append_assoc]

theorem mem_rules_foldl_join {connective : Connective} {first : Expr} {others : List Expr}
    {rule : Rule} (member : rule ∈ (others.foldl connective.join first).rules) :
    rule ∈ first.rules ∨ ∃ other ∈ others, rule ∈ other.rules := by
  simpa [rules_foldl_join] using member

mutual

theorem Expression.tells {tokens : List Token} {expr : Expr} :
    Expression tokens expr → ∀ rule ∈ expr.rules, Tells tokens rule
  | .operand only => only.tells
  | .chain begins joined _ => by
      have first := begins.tells
      have later := joined.tells
      intro rule member
      rcases mem_rules_foldl_join member with inFirst | ⟨other, among, inOther⟩
      · exact (first rule inFirst).mono (List.subset_append_left _ _)
      · exact (later other among rule inOther).mono (List.subset_append_right _ _)

theorem Operand.tells {tokens : List Token} {expr : Expr} :
    Operand tokens expr → ∀ rule ∈ expr.rules, Tells tokens rule
  | .parens _ inner _ => fun rule member =>
      (inner.tells rule member).mono fun _ within =>
        List.mem_cons_of_mem _ (List.mem_append_left _ within)
  | .rule named _ denotes => fun rule member => by
      cases List.mem_singleton.mp member
      exact ⟨⟨_, by simp, named⟩, _, by simp, denotes⟩

theorem Joined.tells {connective : Connective} {tokens : List Token} {others : List Expr} :
    Joined connective tokens others → ∀ expr ∈ others, ∀ rule ∈ expr.rules, Tells tokens rule
  | .nil _ => nofun
  | .cons _ next later => by
      have first := next.tells
      have others := later.tells
      intro expr among rule member
      rcases List.mem_cons.mp among with rfl | among
      · exact (first rule member).mono fun _ within =>
          List.mem_cons_of_mem _ (List.mem_append_left _ within)
      · exact (others expr among rule member).mono fun _ within =>
          List.mem_cons_of_mem _ (List.mem_append_right _ within)

end

theorem Denotes.numberWord {kind : TokenKind} {number : Number}
    (denotes : Denotes kind (.number number)) : ∃ word, NumberWord word number := by
  cases denotes with
  | number written => exact ⟨_, written⟩

/-- Trees that are read can be written. -/
theorem writable_of_parse {query : String} {expr : Expr} (read : parse query = .ok expr) :
    expr.Writable := by
  obtain ⟨tokens, scanned, derives⟩ := parse_eq_ok_iff.mp read
  intro rule member
  obtain ⟨⟨field, fieldMember, named⟩, value, valueMember, denotes⟩ := derives.tells rule member
  refine ⟨Token.isWord_of_scanFrom scanned field fieldMember _ named, fun number made => ?_⟩
  rw [made] at denotes
  obtain ⟨word, written⟩ := denotes.numberWord
  exact written.text

/-- The text of a query that was read is read again, as the same tree but for the places of its
rules, and is written as the same text. -/
theorem parse_text {query : String} {expr : Expr} (read : parse query = .ok expr) :
    ∃ again, parse expr.text = .ok again ∧ again.placeless = expr.placeless ∧
      again.text = expr.text := by
  have writable := writable_of_parse read
  have scans : Scans (expr.chars ++ []) (expr.kinds ++ []) := scans_chars writable nofun .nil
  rw [List.append_nil, List.append_nil] at scans
  obtain ⟨tokens, scanned, kinds⟩ := scans expr.chars.length 0 (Nat.le_refl _)
  obtain ⟨again, derives, same⟩ := operand_of_kinds writable kinds
  refine ⟨again, parse_eq_ok_iff.mpr ⟨tokens, ?_, .operand derives⟩, same,
    text_eq_of_placeless same⟩
  simpa [Token.scan, text] using scanned

/-- A fraction with a spare digit, an escaped quote and a backslash that escapes nothing. -/
def pricedOrNull : Expr :=
  .and (.rule ⟨"price", .greater, .number (.float ⟨true, ⟨4612811918334230528, by decide⟩⟩), 0⟩)
    (.or (.rule ⟨"name", .pattern, .string r#""q\d"#, 18⟩) (.rule ⟨"genre", .is, .null, 37⟩))

theorem pricedOrNull_parse_text :
    parse r#"price > -2.50 && (name ~= "\"q\d" || genre is null)"# = .ok pricedOrNull ∧
      pricedOrNull.text = r#"(price > -2.5 && (name ~= "\"q\\d" || genre is null))"# ∧
      ∃ again, parse pricedOrNull.text = .ok again ∧
        again.placeless = pricedOrNull.placeless ∧ again.text = pricedOrNull.text := by
  have read : parse r#"price > -2.50 && (name ~= "\"q\d" || genre is null)"# =
      .ok pricedOrNull := by
    decide +kernel
  exact ⟨read, by decide +kernel, parse_text read⟩

end Expr

end DocStore.Query

import DocStore.Query.Parser
import DocStore.Proofs.Query.Literal
import Mathlib.Data.Set.Subsingleton
/-!
The grammar of queries.

The grammar derives trees from token lists (`Expression`, `Operand`, `Joined`)
and knows nothing of cursors or fuel.  Reading accepts what the grammar derives,
with the same tree, and nothing else (`parse_iff_derives`).
-/

namespace DocStore.Query

def Connective.kind : Connective → TokenKind
  | .and => .and
  | .or => .or

theorem Connective.ofKind?_eq_some {kind : TokenKind} {connective : Connective} :
    ofKind? kind = some connective ↔ kind = connective.kind := by
  cases kind <;> cases connective <;> simp [ofKind?, Connective.kind]

namespace Expr

/-- The tokens that stand between a field and its value. -/
inductive Compares : TokenKind → Comparison → Prop where
  | symbol (comparison : Comparison) : Compares (.symbol comparison) comparison
  | like : Compares (.word "like") .like
  | is : Compares (.word "is") .is
  | isNot : Compares (.word "is_not") .isNot

/-- The tokens that stand for values. -/
inductive Denotes : TokenKind → Primitive → Prop where
  | string (text : String) : Denotes (.string text) (.string text)
  | null : Denotes (.word "null") .null
  | yes : Denotes (.word "true") (.bool true)
  | no : Denotes (.word "false") (.bool false)
  | number {word : String} {value : Number} (written : NumberWord word.toList value) :
      Denotes (.word word) (.number value)

mutual

/-- An operand alone, or several of them joined by one connective, from the left. -/
inductive Expression : List Token → Expr → Prop where
  | operand {tokens : List Token} {expr : Expr} (only : Operand tokens expr) :
      Expression tokens expr
  | chain {tokens more : List Token} {first : Expr} {others : List Expr} {connective : Connective}
      (begins : Operand tokens first) (joined : Joined connective more others)
      (several : others ≠ []) :
      Expression (tokens ++ more) (others.foldl connective.join first)

/-- An expression in parentheses, or a rule. -/
inductive Operand : List Token → Expr → Prop where
  | parens {opening closing : Token} {tokens : List Token} {expr : Expr}
      (opens : opening.kind = .openParen) (inner : Expression tokens expr)
      (closes : closing.kind = .closeParen) : Operand (opening :: (tokens ++ [closing])) expr
  | rule {field operator value : Token} {name : String} {comparison : Comparison}
      {literal : Primitive} (named : field.kind = .word name)
      (compares : Compares operator.kind comparison) (denotes : Denotes value.kind literal) :
      Operand [field, operator, value] (.rule ⟨name, comparison, literal, field.position⟩)

/-- Operands, each after the connective. -/
inductive Joined : Connective → List Token → List Expr → Prop where
  | nil (connective : Connective) : Joined connective [] []
  | cons {connective : Connective} {joint : Token} {tokens more : List Token} {expr : Expr}
      {others : List Expr} (joins : joint.kind = connective.kind) (next : Operand tokens expr)
      (later : Joined connective more others) :
      Joined connective (joint :: (tokens ++ more)) (expr :: others)

end

theorem compares_iff {kind : TokenKind} {comparison : Comparison} :
    Compares kind comparison ↔ kind = .symbol comparison ∨
      ∃ word, kind = .word word ∧ Comparison.ofWord? word = some comparison := by
  constructor
  · intro compares
    cases compares with
    | symbol comparison => exact .inl rfl
    | like => exact .inr ⟨_, rfl, rfl⟩
    | is => exact .inr ⟨_, rfl, rfl⟩
    | isNot => exact .inr ⟨_, rfl, rfl⟩
  · rintro (rfl | ⟨word, rfl, read⟩)
    · exact .symbol comparison
    · unfold Comparison.ofWord? at read
      split at read <;> cases read
      · exact .like
      · exact .is
      · exact .isNot

private theorem not_numberWord {word : List Char} (unread : numberLiteral? word = none)
    (value : Number) : ¬ NumberWord word value := by
  intro written
  rw [numberLiteral?_eq_some_iff.mpr written] at unread
  cases unread

theorem denotes_iff {kind : TokenKind} {literal : Primitive} :
    Denotes kind literal ↔ (∃ text, kind = .string text ∧ literal = .string text) ∨
      ∃ word, kind = .word word ∧ literal? word = some literal := by
  constructor
  · intro denotes
    cases denotes with
    | string text => exact .inl ⟨text, rfl, rfl⟩
    | null => exact .inr ⟨_, rfl, rfl⟩
    | yes => exact .inr ⟨_, rfl, rfl⟩
    | no => exact .inr ⟨_, rfl, rfl⟩
    | @number word value written =>
        refine .inr ⟨word, rfl, ?_⟩
        have different {other : String} (unread : numberLiteral? other.toList = none) :
            word ≠ other := by
          rintro rfl
          exact not_numberWord unread value written
        unfold literal?
        rw [if_neg (different (by decide)), if_neg (different (by decide)),
          if_neg (different (by decide)), numberLiteral?_eq_some_iff.mpr written]
        rfl
  · rintro (⟨text, rfl, rfl⟩ | ⟨word, rfl, read⟩)
    · exact .string text
    · unfold literal? at read
      split at read
      case isTrue same => cases read; exact same ▸ .null
      split at read
      case isTrue same => cases read; exact same ▸ .yes
      split at read
      case isTrue same => cases read; exact same ▸ .no
      obtain ⟨value, number, rfl⟩ := Option.map_eq_some_iff.mp read
      exact .number (numberLiteral?_eq_some_iff.mp number)

theorem bind_eq_ok {α β : Type} {read : Except Fault α} {next : α → Except Fault β}
    {result : β} (done : (read >>= next) = .ok result) :
    ∃ value, read = .ok value ∧ next value = .ok result := by
  cases read with
  | error fault => cases done
  | ok value => exact ⟨value, rfl, done⟩

variable {atEnd : Problem → Fault} {tokens rest : List Token} {expr : Expr}

/-- The comparison of a word operator is read as its symbol would be. -/
theorem readRule_word {field operator : Token} {name word : String} {others : List Token}
    {comparison : Comparison} (kind : operator.kind = .word word)
    (found : Comparison.ofWord? word = some comparison) :
    readRule atEnd field name (operator :: others) =
      readRule atEnd field name ({ operator with kind := .symbol comparison } :: others) := by
  simp only [readRule, kind, found]

private theorem readRule_symbol {field operator : Token} {name : String} {others : List Token}
    {comparison : Comparison} (kind : operator.kind = .symbol comparison)
    (read : readRule atEnd field name (operator :: others) = .ok (expr, rest)) :
    ∃ value literal, others = value :: rest ∧ Denotes value.kind literal ∧
      expr = .rule ⟨name, comparison, literal, field.position⟩ := by
  simp only [readRule, kind, bind, Except.bind] at read
  split at read
  · cases read
  next value others =>
    split at read
    · next text kind =>
        cases read
        exact ⟨value, _, rfl, kind ▸ .string text, rfl⟩
    · next word kind =>
        split at read
        · next literal found =>
            cases read
            exact ⟨value, literal, rfl, denotes_iff.mpr (.inr ⟨word, kind, found⟩), rfl⟩
        · cases read
    · cases read

theorem readRule_of_not_compares {field operator : Token} {name : String} {others : List Token}
    (noComparison : ∀ comparison, ¬ Compares operator.kind comparison) :
    ∃ problem, readRule atEnd field name (operator :: others) =
      .error (faultAt operator problem) := by
  cases kind : operator.kind with
  | symbol comparison => exact absurd (kind ▸ .symbol comparison) (noComparison comparison)
  | word word =>
      cases found : Comparison.ofWord? word with
      | some comparison =>
          exact absurd (compares_iff.mpr (.inr ⟨word, kind, found⟩)) (noComparison comparison)
      | none => exact ⟨.unknownComparison, by simp [readRule, kind, found, bind, Except.bind]⟩
  | _ => exact ⟨.missingComparison, by simp [readRule, kind, bind, Except.bind]⟩

theorem readRule_eq_ok_iff {field : Token} {name : String} :
    readRule atEnd field name tokens = .ok (expr, rest) ↔
      ∃ operator value comparison literal, tokens = operator :: value :: rest ∧
        Compares operator.kind comparison ∧ Denotes value.kind literal ∧
          expr = .rule ⟨name, comparison, literal, field.position⟩ := by
  constructor
  · intro read
    cases tokens with
    | nil => cases read
    | cons operator others =>
        obtain ⟨comparison, compares⟩ : ∃ comparison, Compares operator.kind comparison := by
          by_contra noComparison
          obtain ⟨problem, failed⟩ := readRule_of_not_compares (not_exists.mp noComparison)
          cases failed.symm.trans read
        rcases compares_iff.mp compares with symbol | ⟨word, kind, found⟩
        · obtain ⟨value, literal, rfl, denotes, made⟩ := readRule_symbol symbol read
          exact ⟨operator, value, comparison, literal, rfl, compares, denotes, made⟩
        · rw [readRule_word kind found] at read
          obtain ⟨value, literal, rfl, denotes, made⟩ := readRule_symbol rfl read
          exact ⟨operator, value, comparison, literal, rfl, compares, denotes, made⟩
  · rintro ⟨operator, value, comparison, literal, rfl, compares, denotes, rfl⟩
    rcases compares_iff.mp compares with symbol | ⟨word, named, comparison⟩ <;>
      rcases denotes_iff.mp denotes with ⟨text, string, rfl⟩ | ⟨word, named', literal⟩ <;>
      simp [readRule, bind, Except.bind, *]

def Ends (rest : List Token) : Prop :=
  ∀ token ∈ rest.head?, Connective.ofKind? token.kind = none

theorem readChain_ends (ends : Ends rest) (fuel : Nat) (joined : Option Connective) (left : Expr) :
    readChain atEnd fuel joined left rest = .ok (left, rest) := by
  cases rest with
  | nil => rw [readChain]
  | cons token rest =>
      cases fuel with
      | zero => rw [readChain]; exact nofun
      | succ fuel => simp [readChain, ends token rfl]

-- Every call takes one unit of fuel, and of two calls inside each other one takes a token: two
-- units for each token are enough.
mutual

theorem Expression.reads {tokens : List Token} {expr : Expr} (derives : Expression tokens expr)
    (fuel : Nat) (rest : List Token) (enough : 2 * tokens.length < fuel) (ends : Ends rest) :
    readExpr atEnd fuel (tokens ++ rest) = .ok (expr, rest) := by
  cases fuel with
  | zero => omega
  | succ fuel =>
      cases derives with
      | operand only =>
          rw [readExpr, only.reads fuel rest (by omega)]
          exact readChain_ends ends fuel none expr
      | @chain tokens more first others connective begins joined several =>
          rw [List.length_append] at enough
          rw [readExpr, List.append_assoc, begins.reads fuel (more ++ rest) (by omega)]
          exact joined.reads fuel none first rest (by omega) nofun ends
termination_by fuel

theorem Operand.reads {tokens : List Token} {expr : Expr} (derives : Operand tokens expr)
    (fuel : Nat) (rest : List Token) (enough : 2 * tokens.length ≤ fuel) :
    readOperand atEnd fuel (tokens ++ rest) = .ok (expr, rest) := by
  cases fuel with
  | zero => cases derives <;> simp at enough
  | succ fuel =>
      cases derives with
      | @parens opening closing tokens _ opens inner closes =>
          have ends : Ends (closing :: rest) := by
            simp [Ends, closes, Connective.ofKind?]
          simp only [List.length_cons, List.length_append, List.length_nil] at enough
          have read := inner.reads fuel (closing :: rest) (by omega) ends
          simp [readOperand, opens, read, bind, Except.bind, closes]
      | rule named compares denotes =>
          simp only [List.cons_append, List.nil_append, readOperand, named]
          exact readRule_eq_ok_iff.mpr ⟨_, _, _, _, rfl, compares, denotes, rfl⟩
termination_by fuel

theorem Joined.reads {connective : Connective} {tokens : List Token} {others : List Expr}
    (derives : Joined connective tokens others) (fuel : Nat) (joined : Option Connective)
    (left : Expr) (rest : List Token) (enough : 2 * tokens.length ≤ fuel)
    (same : ∀ before ∈ joined, before = connective) (ends : Ends rest) :
    readChain atEnd fuel joined left (tokens ++ rest) =
      .ok (others.foldl connective.join left, rest) := by
  cases derives with
  | nil => exact readChain_ends ends fuel joined left
  | @cons _ joint tokens more expr others joins next later =>
      simp only [List.length_cons, List.length_append] at enough
      cases fuel with
      | zero => omega
      | succ fuel =>
          have unmixed : (joined.isSome && joined != some connective) = false := by
            cases joined with
            | none => rfl
            | some before => simp [same before rfl]
          have read := next.reads fuel (more ++ rest) (by omega)
          have reads := later.reads fuel (some connective) (connective.join left expr) rest
            (by omega) (by simp) ends
          simp [readChain, Connective.ofKind?_eq_some.mpr joins, unmixed, read, bind, Except.bind,
            reads]
termination_by fuel

end

/-- A chain that goes on with `tokens` after `left` is read up to `rest`. -/
def Continues (joined : Option Connective) (left : Expr) (tokens : List Token) (expr : Expr)
    (rest : List Token) : Prop :=
  ∃ connective used others, (∀ before ∈ joined, before = connective) ∧ tokens = used ++ rest ∧
    Joined connective used others ∧ expr = others.foldl connective.join left

theorem Continues.stop (joined : Option Connective) (left : Expr) (tokens : List Token) :
    Continues joined left tokens left tokens := by
  refine ⟨joined.getD .and, [], [], ?_, rfl, .nil _, rfl⟩
  rintro before rfl
  rfl

theorem Expression.of_continues {first : Expr} {used more : List Token}
    (begins : Operand used first) (continues : Continues none first more expr rest) :
    ∃ all, used ++ more = all ++ rest ∧ Expression all expr := by
  obtain ⟨connective, others, exprs, -, rfl, joined, rfl⟩ := continues
  refine ⟨used ++ others, (List.append_assoc _ _ _).symm, ?_⟩
  cases joined with
  | nil => simpa using Expression.operand begins
  | cons joins next later => exact .chain begins (.cons joins next later) (by simp)

/-- What is read with so much fuel is derived. -/
structure Sound (atEnd : Problem → Fault) (fuel : Nat) : Prop where
  expr : ∀ tokens expr rest, readExpr atEnd fuel tokens = .ok (expr, rest) →
    ∃ used, tokens = used ++ rest ∧ Expression used expr
  chain : ∀ joined left tokens expr rest,
    readChain atEnd fuel joined left tokens = .ok (expr, rest) →
      Continues joined left tokens expr rest
  operand : ∀ tokens expr rest, readOperand atEnd fuel tokens = .ok (expr, rest) →
    ∃ used, tokens = used ++ rest ∧ Operand used expr

namespace Sound

variable {fuel : Nat} {joined : Option Connective} {left : Expr}

private theorem zero (atEnd : Problem → Fault) : Sound atEnd 0 := by
  refine ⟨?_, ?_, ?_⟩
  · intro tokens expr rest read
    simp [readExpr] at read
  · intro joined left tokens expr rest read
    cases tokens <;>
      · simp only [readChain, Except.ok.injEq, Prod.mk.injEq] at read
        obtain ⟨rfl, rfl⟩ := read
        exact .stop joined left _
  · intro tokens expr rest read
    cases tokens <;> simp [readOperand] at read

private theorem readExpr_succ (sound : Sound atEnd fuel)
    (read : readExpr atEnd (fuel + 1) tokens = .ok (expr, rest)) :
    ∃ used, tokens = used ++ rest ∧ Expression used expr := by
  rw [readExpr] at read
  obtain ⟨⟨first, more⟩, begun, goesOn⟩ := bind_eq_ok read
  obtain ⟨used, rfl, begins⟩ := sound.operand tokens first more begun
  exact Expression.of_continues begins (sound.chain none first more expr rest goesOn)

private theorem readChain_succ (sound : Sound atEnd fuel)
    (read : readChain atEnd (fuel + 1) joined left tokens = .ok (expr, rest)) :
    Continues joined left tokens expr rest := by
  cases tokens with
  | nil =>
      simp only [readChain, Except.ok.injEq, Prod.mk.injEq] at read
      obtain ⟨rfl, rfl⟩ := read
      exact .stop joined left _
  | cons joint tokens =>
      rw [readChain] at read
      split at read
      · simp only [Except.ok.injEq, Prod.mk.injEq] at read
        obtain ⟨rfl, rfl⟩ := read
        exact .stop joined left _
      next connective joins =>
        split at read
        · cases read
        next unmixed =>
          obtain ⟨⟨right, more⟩, next, goesOn⟩ := bind_eq_ok read
          obtain ⟨used, rfl, operand⟩ := sound.operand tokens right more next
          obtain ⟨same, others, exprs, begun, rfl, later, rfl⟩ :=
            sound.chain _ _ more expr rest goesOn
          obtain rfl : connective = same := begun connective rfl
          refine ⟨connective, joint :: (used ++ others), right :: exprs, ?_, by simp,
            .cons (Connective.ofKind?_eq_some.mp joins) operand later, rfl⟩
          rintro before rfl
          simpa using unmixed

private theorem readOperand_succ (sound : Sound atEnd fuel)
    (read : readOperand atEnd (fuel + 1) tokens = .ok (expr, rest)) :
    ∃ used, tokens = used ++ rest ∧ Operand used expr := by
  cases tokens with
  | nil => simp [readOperand] at read
  | cons token tokens =>
      rw [readOperand] at read
      split at read
      · next opens =>
          obtain ⟨⟨inner, more⟩, between, closed⟩ := bind_eq_ok read
          obtain ⟨used, rfl, derives⟩ := sound.expr tokens inner more between
          dsimp only at closed
          split at closed
          · cases closed
          · next close more =>
              split at closed
              · next closes =>
                  cases closed
                  exact ⟨token :: (used ++ [close]), by simp, .parens opens derives closes⟩
              · cases closed
      · next name named =>
          obtain ⟨operator, value, comparison, literal, rfl, compares, denotes, rfl⟩ :=
            readRule_eq_ok_iff.mp read
          exact ⟨[token, operator, value], rfl, .rule named compares denotes⟩
      · cases read

end Sound

theorem sound (atEnd : Problem → Fault) (fuel : Nat) : Sound atEnd fuel := by
  -- The three readers call each other with less fuel, so that they are taken together.
  induction fuel with
  | zero => exact .zero atEnd
  | succ fuel ih =>
      exact ⟨fun _ _ _ => ih.readExpr_succ, fun _ _ _ _ _ => ih.readChain_succ,
        fun _ _ _ => ih.readOperand_succ⟩

theorem Expression.ne_nil (derives : Expression tokens expr) : tokens ≠ [] := by
  cases derives with
  | operand only => cases only <;> simp
  | chain begins => cases begins <;> simp

theorem ofTokens_eq_ok_iff {query : String} :
    ofTokens query tokens = .ok expr ↔ Expression tokens expr := by
  constructor
  · intro read
    unfold ofTokens at read
    split at read
    · cases read
    obtain ⟨⟨found, rest⟩, inner, all⟩ := bind_eq_ok read
    dsimp only at all
    split at all
    · cases all
      obtain ⟨used, rfl, derives⟩ := (sound _ _).expr _ _ _ inner
      rwa [List.append_nil]
    · cases all
  · intro derives
    have read : readExpr (endFault query tokens) (2 * tokens.length + 2) (tokens ++ []) =
        .ok (expr, []) :=
      derives.reads _ [] (by omega) nofun
    rw [List.append_nil] at read
    simp [ofTokens, derives.ne_nil, read, bind, Except.bind]

theorem Expression.unique {other : Expr} (derives : Expression tokens expr)
    (derives' : Expression tokens other) : expr = other := by
  have read : ofTokens "" tokens = .ok expr := ofTokens_eq_ok_iff.mpr derives
  rw [ofTokens_eq_ok_iff.mpr derives'] at read
  exact (Except.ok.inj read).symm

theorem parse_eq_ok_iff {query : String} :
    parse query = .ok expr ↔
      ∃ tokens, Token.scan query = .ok tokens ∧ Expression tokens expr := by
  constructor
  · intro read
    obtain ⟨tokens, scanned, read⟩ := bind_eq_ok read
    exact ⟨tokens, scanned, ofTokens_eq_ok_iff.mp read⟩
  · rintro ⟨tokens, scanned, derives⟩
    simp [parse, scanned, bind, Except.bind, ofTokens_eq_ok_iff.mpr derives]

/-- A query is read exactly when it has tokens that the grammar derives, and what is read is the
one tree that they have. -/
theorem parse_iff_derives (query : String) :
    (∀ expr, parse query = .ok expr ↔
      ∃ tokens, Token.scan query = .ok tokens ∧ Expression tokens expr) ∧
    ∀ tokens, {expr | Expression tokens expr}.Subsingleton :=
  ⟨fun _ => parse_eq_ok_iff, fun _ _ derives _ derives' => derives.unique derives'⟩

end Expr

end DocStore.Query

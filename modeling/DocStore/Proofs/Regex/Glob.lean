import DocStore.Proofs.Query.Meaning
import DocStore.Proofs.Regex.Match
import DocStore.Proofs.Unicode.CodeSet
import DocStore.Regex.Glob
import Mathlib.Data.List.Forall2
/-!
A glob pattern matches a text that falls into pieces, one for each of its
characters.

The expression of a pattern holds its literal text back until the next wildcard.
Written character by character it is the same, and reading it gives one part for
every character of the pattern: an escaped character is read as itself, and
nothing behind a wildcard can be taken for a part of it.  What the parts span is
then what the characters take.
-/

namespace DocStore.Regex

open Unicode

namespace Glob

/-- What a character of a pattern takes: `%` any run of characters, `_` one character, any other
character one that is equal to it up to case. -/
def Takes (c : Char) (piece : List Char) : Prop :=
  if c = '%' then True
  else if c = '_' then ∃ d, piece = [d]
  else ∃ d, piece = [d] ∧ CaseFolding.Same c d

/-- The text falls into pieces that the characters of the pattern take in order. -/
def Matches (pattern text : List Char) : Prop :=
  ∃ pieces : List (List Char), pieces.flatten = text ∧ List.Forall₂ Takes pattern pieces

@[simp] theorem matches_nil {text : List Char} : Matches [] text ↔ text = [] := by
  simp [Matches, eq_comm]

theorem matches_cons {c : Char} {pattern text : List Char} :
    Matches (c :: pattern) text ↔
      ∃ piece rest, piece ++ rest = text ∧ Takes c piece ∧ Matches pattern rest := by
  constructor
  · rintro ⟨_, rfl, _ | ⟨taken, others⟩⟩
    exact ⟨_, _, rfl, taken, _, rfl, others⟩
  · rintro ⟨piece, rest, rfl, taken, pieces, rfl, others⟩
    exact ⟨piece :: pieces, rfl, .cons taken others⟩

/-- The expression of one character of a pattern. -/
def charText (c : Char) : List Char :=
  if c = '%' then ['.', '*'] else if c = '_' then ['.'] else escape [c]

theorem escape_append (first second : List Char) :
    escape (first ++ second) = escape first ++ escape second :=
  List.flatMap_append

/-- Holding literal text back does not change what is written. -/
theorem writeRest_eq (written literal rest : List Char) :
    writeRest written literal rest =
      written ++ escape literal ++ rest.flatMap charText ++ ['$'] := by
  induction rest generalizing written literal with
  | nil => simp [writeRest]
  | cons c rest ih =>
      unfold writeRest
      split
      case isTrue many => simp [ih, charText, many, escape]
      split
      case isTrue one => simp [ih, charText, one, escape]
      case isFalse many one => simp [ih, charText, many, one, escape_append]

theorem toList_expression (pattern : String) :
    (expression pattern).toList = '^' :: (pattern.toList.flatMap charText ++ ['$']) := by
  simp [expression, writeRest_eq, escape]

/-- The part of an expression that a character of a pattern becomes. -/
def charPiece (c : Char) : Piece :=
  if c = '%' then (Piece.ofNode (.chars .all)).deeper (.rep 0 none (.chars .all))
  else if c = '_' then .ofNode (.chars .all)
  else .ofNode (.chars (CaseFolding.variants (.single c.toNat)))

/-- The parts of the expression of a pattern. -/
def parts (pattern : List Char) : List Piece :=
  .ofNode (.look .textStart) :: (pattern.map charPiece ++ [.ofNode (.look .textEnd)])

/-- The expression of a pattern as a tree. -/
def node (pattern : List Char) : Node := .ofSeq ((parts pattern).map Piece.node)

/-- Characters that are not the beginning of an element. -/
def isOperator (c : Char) : Bool := ")|([?*+\x7b".toList.contains c

section Reading

variable {fuel : Nat} {names : List (List Char)} {c : Char} {rest : List Char} {pieces : List Piece}

private theorem readBranches_element (plain : isOperator c = false) :
    readBranches (fuel + 1) ⟨.glob, names, c :: rest⟩ pieces [] =
      (readElement .glob (c :: rest)).bind fun (node, rest) =>
        readBranches fuel ⟨.glob, names, rest⟩ (Piece.ofNode node :: pieces) [] := by
  have input : skipSpace Flags.glob.spaced (c :: rest) = c :: rest := rfl
  rw [readBranches]
  simp only [input]
  split
  case h_10 => rfl
  all_goals
    rename_i shape
    cases shape
  all_goals exact absurd plain (by decide)

private theorem readBranches_star {piece : Piece} (repeatable : piece.isFlags = false) :
    readBranches (fuel + 1) ⟨.glob, names, '*' :: rest⟩ (piece :: pieces) [] =
      readBranches fuel ⟨.glob, names, skipLazy rest⟩
        (piece.deeper (.rep 0 none piece.node) :: pieces) [] := by
  have input : skipSpace Flags.glob.spaced ('*' :: rest) = '*' :: rest := rfl
  rw [readBranches]
  simp [input, repeatLatest, repeatable]

private theorem escape_special (special : Element.isMeta c = true) :
    escape [c] ++ rest = '\\' :: c :: rest := by
  simp [escape, special]

private theorem escape_ordinary (ordinary : Element.isMeta c = false) :
    escape [c] ++ rest = c :: rest := by
  simp [escape, ordinary]

private theorem length_escape : 1 ≤ (escape [c]).length := by
  cases special : Element.isMeta c <;> simp [escape, special]

private theorem readEscape_special {flags : Flags} (special : Element.isMeta c = true) :
    Element.readEscape flags (c :: rest) = some (.literal c false, rest) := by
  simp only [Element.isMeta, String.reduceToList, List.contains_eq_mem, List.mem_cons,
    List.not_mem_nil, or_false, decide_eq_true_eq] at special
  rcases special with rfl | rfl | rfl | rfl | rfl | rfl | rfl | rfl | rfl | rfl | rfl | rfl | rfl |
    rfl | rfl | rfl | rfl | rfl <;> rfl

private theorem isOperator_ordinary (ordinary : Element.isMeta c = false) :
    isOperator c = false := by
  simp_all [Element.isMeta, isOperator]

/-- An escaped character is read as itself. -/
private theorem readBranches_escape :
    readBranches (fuel + 1) ⟨.glob, names, escape [c] ++ rest⟩ pieces [] =
      readBranches fuel ⟨.glob, names, rest⟩ (.ofNode (literalNode .glob c) :: pieces) [] := by
  cases special : Element.isMeta c with
  | true =>
      have read : readElement .glob ('\\' :: c :: rest) = some (literalNode .glob c, rest) := by
        rw [readElement, readEscape_special special]
        simp [Flags.glob, Flags.standard]
      rw [escape_special special, readBranches_element (by decide), read, Option.bind_some]
  | false =>
      have read : readElement .glob (c :: rest) = some (literalNode .glob c, rest) := by
        rw [readElement] <;> rintro rfl <;> cases special
      rw [escape_ordinary special, readBranches_element (isOperator_ordinary special), read,
        Option.bind_some]

/-- Nothing that is written for a character can be taken for a part of a repetition before it. -/
private theorem skipLazy_charText : skipLazy (charText c ++ rest) = charText c ++ rest := by
  unfold charText
  split
  case isTrue => rfl
  split
  case isTrue => rfl
  cases special : Element.isMeta c with
  | true =>
      rw [escape_special special, skipLazy]
      exact nofun
  | false =>
      rw [escape_ordinary special, skipLazy]
      rintro tail ⟨⟩
      cases special

private theorem skipLazy_written (pattern : List Char) :
    skipLazy (pattern.flatMap charText ++ ['$']) = pattern.flatMap charText ++ ['$'] := by
  cases pattern with
  | nil => rfl
  | cons c pattern => rw [List.flatMap_cons, List.append_assoc, skipLazy_charText]

/-- Reading the expression of a character gives its part. -/
private theorem readBranches_charText (names : List (List Char)) (pieces : List Piece)
    (next : skipLazy rest = rest) (enough : (charText c ++ rest).length < fuel) :
    ∃ left, rest.length < left ∧
      readBranches fuel ⟨.glob, names, charText c ++ rest⟩ pieces [] =
        readBranches left ⟨.glob, names, rest⟩ (charPiece c :: pieces) [] := by
  obtain ⟨left, rfl⟩ : ∃ left, fuel = left + 1 := ⟨fuel - 1, by omega⟩
  rw [List.length_append] at enough
  unfold charText charPiece
  unfold charText at enough
  split at enough
  case isTrue many =>
    rw [List.length_cons, List.length_singleton] at enough
    obtain ⟨left, rfl⟩ : ∃ less, left = less + 1 := ⟨left - 1, by omega⟩
    refine ⟨left, by omega, ?_⟩
    rw [if_pos many, if_pos many]
    calc readBranches (left + 2) ⟨.glob, names, '.' :: '*' :: rest⟩ pieces []
        = readBranches (left + 1) ⟨.glob, names, '*' :: rest⟩
            (.ofNode (.chars .all) :: pieces) [] := readBranches_element (by decide)
      _ = readBranches left ⟨.glob, names, rest⟩ _ [] := by
          rw [readBranches_star rfl, next]; rfl
  case isFalse single =>
    rw [if_neg single, if_neg single]
    split at enough
    case isTrue one =>
      refine ⟨left, by rw [List.length_singleton] at enough; omega, ?_⟩
      rw [if_pos one, if_pos one]
      exact readBranches_element (by decide)
    case isFalse literal =>
      -- An escape is read in one step though it is two characters, so some fuel may stay over.
      refine ⟨left, by have := length_escape (c := c); omega, ?_⟩
      rw [if_neg literal, if_neg literal]
      exact readBranches_escape

/-- Reading what is written for a pattern gives one part for each of its characters. -/
private theorem readBranches_written {pattern : List Char}
    (enough : (pattern.flatMap charText ++ ['$']).length < fuel) :
    readBranches fuel ⟨.glob, names, pattern.flatMap charText ++ ['$']⟩ pieces [] =
      some (.ofBranches
        (.ofNode (.look .textEnd) :: ((pattern.map charPiece).reverse ++ pieces)) [],
        ⟨.glob, names, []⟩) := by
  induction pattern generalizing fuel pieces with
  | nil =>
      obtain ⟨left, rfl⟩ : ∃ left, fuel = left + 2 := ⟨fuel - 2, by simp at enough; omega⟩
      exact readBranches_element (by decide)
  | cons c pattern ih =>
      rw [List.flatMap_cons, List.append_assoc] at enough ⊢
      obtain ⟨left, enough, read⟩ :=
        readBranches_charText names pieces (skipLazy_written pattern) enough
      rw [read, ih enough, List.map_cons, List.reverse_cons, List.append_assoc]
      rfl

end Reading

private theorem foldl_max_le {levels : List Nat} {start bound : Nat} (small : start ≤ bound)
    (bounded : ∀ level ∈ levels, level ≤ bound) : levels.foldl max start ≤ bound := by
  induction levels generalizing start with
  | nil => exact small
  | cons level rest ih =>
      rw [List.forall_mem_cons] at bounded
      exact ih (Nat.max_le.mpr ⟨small, bounded.1⟩) bounded.2

private theorem levels_parts {pattern : List Char} :
    ∀ level ∈ (parts pattern).map Piece.levels, level ≤ 1 := by
  have char (c : Char) : (charPiece c).levels ≤ 1 := by
    unfold charPiece
    split
    · exact Nat.le_refl 1
    split <;> exact Nat.zero_le 1
  simp only [parts, List.map_cons, List.map_append, List.map_map, List.mem_cons, List.mem_append,
    List.mem_map, List.map_nil, List.not_mem_nil, or_false]
  rintro level (rfl | ⟨c, -, rfl⟩ | rfl)
  · exact Nat.zero_le 1
  · exact char c
  · exact Nat.zero_le 1

/-- The expression of a pattern nests two levels. -/
private theorem joined_parts (pattern : List Char) :
    ∃ levels ≤ 2, Piece.joined .ofSeq (parts pattern) = ⟨node pattern, levels, false⟩ := by
  refine ⟨((parts pattern).map Piece.levels).foldl max 0 + 1,
    Nat.succ_le_succ (foldl_max_le (Nat.zero_le 1) levels_parts), ?_⟩
  unfold node parts
  cases pattern <;> rfl

/-- The expression of a pattern is read unless it is too large. -/
theorem parseGlob?_eq (pattern : String) :
    Node.parseGlob? pattern =
      if (node pattern.toList).fits then some (node pattern.toList) else none := by
  -- The caret stands outside the induction: it is what the parts of the pattern come behind.
  have begins (fuel : Nat) (rest : List Char) :
      readBranches (fuel + 1) ⟨.glob, [], '^' :: rest⟩ [] [] =
        readBranches fuel ⟨.glob, [], rest⟩ [.ofNode (.look .textStart)] [] :=
    readBranches_element (by decide)
  have whole : Piece.ofBranches (.ofNode (.look .textEnd) ::
      ((pattern.toList.map charPiece).reverse ++ [.ofNode (.look .textStart)])) [] =
        Piece.joined .ofSeq (parts pattern.toList) := by
    simp [Piece.ofBranches, Piece.joined, parts]
  obtain ⟨levels, shallow, joined⟩ := joined_parts pattern.toList
  have nests : levels ≤ maxLevels := Nat.le_trans shallow (by decide)
  rw [Node.parseGlob?, Node.parseWith?, toList_expression]
  simp only [begins, List.length_cons]
  rw [readBranches_written (Nat.lt_succ_self _), whole, joined]
  simp [nests]

section Spans

variable {text : List Char} {i j : Nat}

theorem spans_ofSeq_cons {first : Node} {rest : List Node} {k : Nat} :
    (Node.ofSeq (first :: rest)).Spans text i k ↔
      ∃ j, first.Spans text i j ∧ (Node.ofSeq rest).Spans text j k := by
  cases rest with
  | nil => simp [Node.ofSeq, Node.Spans]
  | cons second rest => rfl

private theorem spans_all : (Node.chars .all).Spans text i j ↔ i < text.length ∧ j = i + 1 := by
  simp [Node.Spans, CodeSet.contains_all, List.getElem?_eq_some_iff]

private theorem rounds_all {count : Nat} (inside : i ≤ text.length) :
    Rounds ((Node.chars .all).Spans text) count i j ↔ j = i + count ∧ j ≤ text.length := by
  induction count generalizing i with
  | zero => simp only [Rounds]; omega
  | succ count ih =>
      simp only [Rounds, spans_all]
      constructor
      · rintro ⟨k, ⟨further, rfl⟩, rest⟩
        have := (ih further).mp rest
        omega
      · rintro ⟨rfl, bound⟩
        exact ⟨i + 1, ⟨by omega, rfl⟩, (ih (by omega)).mpr (by omega)⟩

private theorem prefix_single {d : Char} : [d] <+: text.drop i ↔ text[i]? = some d := by
  rw [← List.head?_drop]
  cases text.drop i <;> simp [eq_comm]

/-- The part of a character spans what the character takes. -/
theorem charPiece_spans {c : Char} (inside : i ≤ text.length) :
    (charPiece c).node.Spans text i j ↔
      ∃ piece, Takes c piece ∧ piece <+: text.drop i ∧ j = i + piece.length := by
  unfold charPiece Takes
  split
  case isTrue =>
    constructor
    · rintro ⟨count, -, -, rounds⟩
      obtain ⟨rfl, bound⟩ := (rounds_all inside).mp rounds
      exact ⟨(text.drop i).take count, trivial, List.take_prefix _ _, by simp; omega⟩
    · rintro ⟨piece, -, taken, rfl⟩
      have bound := taken.length_le
      rw [List.length_drop] at bound
      exact ⟨piece.length, Nat.zero_le _, nofun, (rounds_all inside).mpr ⟨rfl, by omega⟩⟩
  split
  case isTrue =>
    simp only [Piece.ofNode, Node.Spans, CodeSet.contains_all, and_true]
    constructor
    · rintro ⟨⟨d, found⟩, rfl⟩
      exact ⟨[d], ⟨d, rfl⟩, prefix_single.mpr found, rfl⟩
    · rintro ⟨_, ⟨d, rfl⟩, taken, rfl⟩
      exact ⟨⟨d, prefix_single.mp taken⟩, rfl⟩
  case isFalse =>
    simp only [Piece.ofNode, Node.Spans, CaseFolding.contains_variants_single]
    constructor
    · rintro ⟨⟨d, found, same⟩, rfl⟩
      exact ⟨[d], ⟨d, rfl, same⟩, prefix_single.mpr found, rfl⟩
    · rintro ⟨_, ⟨d, rfl, same⟩, taken, rfl⟩
      exact ⟨⟨d, prefix_single.mp taken, same⟩, rfl⟩

private theorem spans_textEnd :
    (Node.look .textEnd).Spans text i j ↔ i = text.length ∧ j = i := by
  simp only [Node.Spans, gapAt, Look.holds, Option.isNone_iff_eq_none, List.getElem?_eq_none_iff]
  omega

private theorem spans_textStart (inside : i ≤ text.length) :
    (Node.look .textStart).Spans text i j ↔ i = 0 ∧ j = i := by
  simp only [Node.Spans, gapAt, Look.holds, Option.isNone_iff_eq_none]
  split
  case isTrue start => simp [start]
  case isFalse =>
    simp only [List.getElem?_eq_none_iff]
    omega

private theorem behind_piece {piece rest : List Char} (inside : i ≤ text.length)
    (here : piece ++ rest = text.drop i) :
    i + piece.length ≤ text.length ∧ text.drop (i + piece.length) = rest := by
  have lengths := congrArg List.length here
  rw [List.length_append, List.length_drop] at lengths
  exact ⟨by omega, by rw [← List.drop_drop, ← here, List.drop_left]⟩

/-- The parts of a pattern, and the end of the text behind them. -/
theorem spans_iff_matches {pattern : List Char} (inside : i ≤ text.length) :
    (Node.ofSeq ((pattern.map charPiece ++ [Piece.ofNode (.look .textEnd)]).map
        Piece.node)).Spans text i j ↔
      Matches pattern (text.drop i) ∧ j = text.length := by
  induction pattern generalizing i with
  | nil =>
      change (Node.look .textEnd).Spans text i j ↔ _
      rw [spans_textEnd, matches_nil, List.drop_eq_nil_iff]
      omega
  | cons c pattern ih =>
      rw [List.map_cons, List.cons_append, List.map_cons, spans_ofSeq_cons, matches_cons]
      simp only [charPiece_spans inside]
      constructor
      · rintro ⟨_, ⟨piece, taken, ⟨rest, here⟩, rfl⟩, others⟩
        obtain ⟨further, behind⟩ := behind_piece inside here
        obtain ⟨matched, rfl⟩ := (ih further).mp others
        exact ⟨⟨piece, rest, here, taken, behind ▸ matched⟩, rfl⟩
      · rintro ⟨⟨piece, rest, here, taken, matched⟩, rfl⟩
        obtain ⟨further, behind⟩ := behind_piece inside here
        exact ⟨i + piece.length, ⟨piece, taken, ⟨rest, here⟩, rfl⟩,
          (ih further).mpr ⟨behind.symm ▸ matched, rfl⟩⟩

end Spans

theorem node_isMatch_iff {pattern : List Char} {text : String} :
    (node pattern).isMatch text = true ↔ Matches pattern text.toList := by
  rw [Node.isMatch_iff, node, parts, List.map_cons]
  simp only [spans_ofSeq_cons]
  constructor
  · rintro ⟨i, k, inside, j, start, rest⟩
    obtain ⟨rfl, rfl⟩ := (spans_textStart inside).mp start
    exact ((spans_iff_matches inside).mp rest).1
  · intro matched
    exact ⟨0, _, Nat.zero_le _, 0, (spans_textStart (Nat.zero_le _)).mpr ⟨rfl, rfl⟩,
      (spans_iff_matches (Nat.zero_le _)).mpr ⟨matched, rfl⟩⟩

end Glob

end DocStore.Regex

namespace DocStore.Query

open Regex (Glob.Matches)

private theorem Rule.fits_of_compiled {rule : Rule} {pattern : String} {test : Test}
    (like : rule.comparison = .like) (literal : rule.literal = .string pattern)
    (compiled : rule.compileTest = .ok test) : (Regex.Glob.node pattern.toList).fits = true := by
  by_contra large
  simp [compileTest, compilePattern, like, literal, Regex.Glob.parseGlob?_eq, large] at compiled

/-- A `like` rule that compiles holds of the texts that its pattern matches as a whole. -/
theorem Rule.like_matches_iff {rule : Rule} {pattern : String} {made : CompiledRule}
    (like : rule.comparison = .like) (literal : rule.literal = .string pattern)
    (compiled : rule.compile = .ok made) (fields : Projection) :
    made.eval fields = true ↔
      ∃ text, (fields.get? rule.field).bind List.head? = some (.string text) ∧
        Glob.Matches pattern.toList text.toList := by
  obtain ⟨tested, field⟩ := exists_test compiled
  have parsed : Regex.Node.parseGlob? pattern = some (Regex.Glob.node pattern.toList) := by
    rw [Regex.Glob.parseGlob?_eq, if_pos (fits_of_compiled like literal tested)]
  rw [CompiledRule.eval, eval_iff_holds tested, field]
  simp only [Holds, like, literal, Finds, parsed, Option.mem_some_iff, exists_eq_left',
    Regex.Glob.node_isMatch_iff]

/-- A pattern that asks for one character at least. -/
def Rule.anyText : Rule := ⟨"title", .like, .string "%_%", 0⟩

theorem Rule.line_break_matched :
    ∃ made, anyText.compile = .ok made ∧
      made.eval (.flatten (.object [("title", .string "one\ntwo")])) = true := by
  have parsed : Regex.Node.parseGlob? "%_%" = some (Regex.Glob.node "%_%".toList) := by
    rw [Regex.Glob.parseGlob?_eq, if_pos (by decide)]
  have compiled : anyText.compile =
      .ok ⟨"title", .matching (Regex.Glob.node "%_%".toList)⟩ := by
    simp only [compile, compileTest, compilePattern, anyText, parsed]
    rfl
  have matched : Glob.Matches "%_%".toList "one\ntwo".toList :=
    ⟨["one".toList, "\n".toList, "two".toList], rfl,
      .cons trivial (.cons ⟨'\n', rfl⟩ (.cons trivial .nil))⟩
  exact ⟨_, compiled,
    (like_matches_iff rfl rfl compiled _).mpr ⟨"one\ntwo", by decide +kernel, matched⟩⟩

end DocStore.Query

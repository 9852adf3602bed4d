import DocStore.Query.Literal
import Mathlib.Data.List.TakeWhile
/-!
The grammar of number literals.

A number is a sign, digits around at most one point, and an exponent with a sign
of its own (`Grammatical`, `chars`).  The splits that take a word apart follow
that grammar exactly: a word is a number when it is written so, and then its
parts and its value are those of the grammar (`numberLiteral?_eq_some_iff`).
-/

namespace DocStore.Query

namespace NumberShape

/-- `-? (digits | digits . digits? | . digits) ([eE] [+-]? digits)?` -/
structure Grammatical (shape : NumberShape) : Prop where
  whole : isDigits shape.whole = true
  fraction : ∀ digits ∈ shape.fraction, isDigits digits = true
  someDigit : shape.whole ++ shape.fraction.getD [] ≠ []
  exponent : ∀ text ∈ shape.exponent, ∃ sign digits, text = sign ++ digits ∧
    (sign = [] ∨ sign = ['+'] ∨ sign = ['-']) ∧ digits ≠ [] ∧ isDigits digits = true

def mantissaChars (shape : NumberShape) : List Char :=
  shape.whole ++ match shape.fraction with
    | none => []
    | some digits => '.' :: digits

def exponentChars (mark : Char) (shape : NumberShape) : List Char :=
  match shape.exponent with
  | none => []
  | some text => mark :: text

/-- How a number is written; the exponent follows the given mark. -/
def chars (mark : Char) (shape : NumberShape) : List Char :=
  (if shape.negative then ['-'] else []) ++ (shape.mantissaChars ++ shape.exponentChars mark)

/-- The value of a number: an integer if it is written as one and has 64 bits, else the nearest
binary64 number. -/
def number? (shape : NumberShape) : Option Number :=
  shape.toInteger?.or (shape.toBinary64?.map .float)

def isMark (c : Char) : Bool := c = 'e' || c = 'E'

variable {shape : NumberShape} {mark : Char}

theorem splitAt_of_all {marked : Char → Bool} {text : List Char}
    (unmarked : ∀ c ∈ text, marked c = false) : splitAt marked text = (text, none) := by
  have dropped : text.dropWhile (fun c => !marked c) = [] :=
    List.dropWhile_eq_nil_iff.mpr fun c member => by simp [unmarked c member]
  simp [splitAt, dropped]

theorem splitAt_append {marked : Char → Bool} {before after : List Char} {c : Char}
    (unmarked : ∀ c ∈ before, marked c = false) (here : marked c = true) :
    splitAt marked (before ++ c :: after) = (before, some after) := by
  have kept : ∀ c ∈ before, (!marked c) = true := fun c member => by simp [unmarked c member]
  simp [splitAt, List.dropWhile_append_of_pos kept, List.takeWhile_append_of_pos kept, here]

theorem splitAt_cases (marked : Char → Bool) (text : List Char) :
    splitAt marked text = (text, none) ∨
      ∃ before c after, marked c = true ∧ text = before ++ c :: after ∧
        splitAt marked text = (before, some after) := by
  cases dropped : text.dropWhile (fun c => !marked c) with
  | nil => exact .inl (by simp [splitAt, dropped])
  | cons c after =>
      have stops : marked c = true := by
        have first := List.head_dropWhile_not (fun c => !marked c)
          (show text.dropWhile (fun c => !marked c) ≠ [] by simp [dropped])
        simpa [dropped] using first
      refine .inr ⟨text.takeWhile fun c => !marked c, c, after, stops, ?_,
        by simp [splitAt, dropped]⟩
      rw [← dropped, List.takeWhile_append_dropWhile]

theorem isDigits_append {first second : List Char} :
    isDigits (first ++ second) = true ↔ isDigits first = true ∧ isDigits second = true := by
  simp [isDigits]

theorem ne_of_isDigits {digits : List Char} (all : isDigits digits = true) {c other : Char}
    (member : c ∈ digits) (different : other.isDigit = false) : c ≠ other := by
  rintro rfl
  rw [List.all_eq_true.mp all c member] at different
  cases different

theorem Grammatical.mantissa_clean (grammatical : shape.Grammatical) :
    ∀ c ∈ shape.mantissaChars, isMark c = false ∧ c ≠ '-' := by
  have digit {digits : List Char} (all : isDigits digits = true) :
      ∀ c ∈ digits, isMark c = false ∧ c ≠ '-' := fun c member =>
    ⟨by simp [isMark, ne_of_isDigits all member], ne_of_isDigits all member rfl⟩
  intro c member
  rcases List.mem_append.mp member with whole | fraction
  · exact digit grammatical.whole c whole
  · cases found : shape.fraction with
    | none => simp [found] at fraction
    | some digits =>
        simp only [found, List.mem_cons] at fraction
        rcases fraction with rfl | inside
        · exact ⟨rfl, by decide⟩
        · exact digit (grammatical.fraction digits found) c inside

theorem Grammatical.mantissa_ne_nil (grammatical : shape.Grammatical) :
    shape.mantissaChars ≠ [] := by
  intro empty
  obtain ⟨whole, fraction⟩ := List.append_eq_nil_iff.mp empty
  refine grammatical.someDigit ?_
  cases found : shape.fraction with
  | none => simp [whole]
  | some digits => simp [found] at fraction

theorem Grammatical.unsigned_body (grammatical : shape.Grammatical) (mark : Char) :
    (shape.mantissaChars ++ shape.exponentChars mark).head? ≠ some '-' := by
  cases written : shape.mantissaChars with
  | nil => exact absurd written grammatical.mantissa_ne_nil
  | cons first rest => simpa using (grammatical.mantissa_clean first (by simp [written])).2

def ofBody (negative : Bool) (body : List Char) : NumberShape :=
  let mantissa := splitAt (· = '.') (splitAt isMark body).1
  ⟨negative, mantissa.1, mantissa.2, (splitAt isMark body).2⟩

theorem ofWord_minus (body : List Char) : ofWord ('-' :: body) = ofBody true body := rfl

theorem ofWord_unsigned {word : List Char} (unsigned : word.head? ≠ some '-') :
    ofWord word = ofBody false word := by
  unfold ofWord
  split
  next sign =>
    split at sign
    · exact absurd rfl unsigned
    · cases sign
      rfl

/-- A number that is written by the grammar is taken apart into its parts. -/
theorem ofWord_chars (grammatical : shape.Grammatical) (marks : isMark mark = true) :
    ofWord (shape.chars mark) = shape := by
  have clean := grammatical.mantissa_clean
  have noPoint : ∀ c ∈ shape.whole, decide (c = '.') = false := fun c member =>
    decide_eq_false (ne_of_isDigits grammatical.whole member rfl)
  have mantissa : splitAt (· = '.') shape.mantissaChars = (shape.whole, shape.fraction) := by
    cases found : shape.fraction with
    | none => simpa [mantissaChars, found] using splitAt_of_all noPoint
    | some digits => simpa [mantissaChars, found] using splitAt_append noPoint (by decide)
  have body : splitAt isMark (shape.mantissaChars ++ shape.exponentChars mark) =
      (shape.mantissaChars, shape.exponent) := by
    have unmarked : ∀ c ∈ shape.mantissaChars, isMark c = false := fun c member =>
      (clean c member).1
    cases found : shape.exponent with
    | none => simpa [exponentChars, found] using splitAt_of_all unmarked
    | some text => simpa [exponentChars, found] using splitAt_append unmarked marks
  have parts : ofBody shape.negative (shape.mantissaChars ++ shape.exponentChars mark) = shape := by
    simp only [ofBody, body, mantissa]
  cases negative : shape.negative with
  | true =>
      rw [negative] at parts
      simpa [chars, negative, ofWord_minus] using parts
  | false =>
      rw [negative] at parts
      simpa [chars, negative, ofWord_unsigned (grammatical.unsigned_body mark)] using parts

theorem chars_ofBody (negative : Bool) (body : List Char) :
    ∃ mark, isMark mark = true ∧
      (ofBody negative body).chars mark = (if negative then ['-'] else []) ++ body := by
  have mantissa : (ofBody negative body).mantissaChars = (splitAt isMark body).1 := by
    rcases splitAt_cases (· = '.') (splitAt isMark body).1 with
      split | ⟨before, c, after, point, written, split⟩
    · simp [ofBody, mantissaChars, split]
    · obtain rfl : c = '.' := of_decide_eq_true point
      simp only [ofBody, mantissaChars, split]
      exact written.symm
  unfold chars
  rw [mantissa]
  rcases splitAt_cases isMark body with split | ⟨before, mark, after, marks, rfl, split⟩
  · exact ⟨'e', rfl, by simp [ofBody, exponentChars, split]⟩
  · exact ⟨mark, marks, by simp [ofBody, exponentChars, split]⟩

/-- Every word is written as its parts are, with one of the marks. -/
theorem chars_ofWord (word : List Char) :
    ∃ mark, isMark mark = true ∧ (ofWord word).chars mark = word := by
  by_cases signed : word.head? = some '-'
  · obtain ⟨body, rfl⟩ := List.head?_eq_some_iff.mp signed
    exact chars_ofBody true body
  · rw [ofWord_unsigned signed]
    exact chars_ofBody false word

theorem exponentParts_append {sign digits : List Char}
    (written : sign = [] ∨ sign = ['+'] ∨ sign = ['-']) (all : isDigits digits = true) :
    exponentParts (sign ++ digits) = (sign == ['-'], digits) := by
  rcases written with rfl | rfl | rfl
  · rw [List.nil_append]
    unfold exponentParts
    split
    · cases all
    · cases all
    · rfl
  · rfl
  · rfl

private theorem exponentParts_cases (text : List Char) :
    ∃ sign, (sign = [] ∨ sign = ['+'] ∨ sign = ['-']) ∧ text = sign ++ (exponentParts text).2 := by
  unfold exponentParts
  split
  · exact ⟨['-'], by simp, rfl⟩
  · exact ⟨['+'], by simp, rfl⟩
  · exact ⟨[], by simp, rfl⟩

private theorem exponent_iff (text : List Char) :
    (!(exponentParts text).2.isEmpty && isDigits (exponentParts text).2) = true ↔
      ∃ sign digits, text = sign ++ digits ∧ (sign = [] ∨ sign = ['+'] ∨ sign = ['-']) ∧
        digits ≠ [] ∧ isDigits digits = true := by
  simp only [Bool.and_eq_true, Bool.not_eq_true', List.isEmpty_eq_false_iff]
  constructor
  · rintro ⟨some, all⟩
    obtain ⟨sign, written, parts⟩ := exponentParts_cases text
    exact ⟨sign, _, parts, written, some, all⟩
  · rintro ⟨sign, digits, rfl, written, some, all⟩
    rw [exponentParts_append written all]
    exact ⟨some, all⟩

theorem isNumber_iff (shape : NumberShape) : shape.isNumber = true ↔ shape.Grammatical := by
  obtain ⟨negative, whole, fraction, exponent⟩ := shape
  have mantissaOk : (match fraction with
      | none => !whole.isEmpty && isDigits whole
      | some digits =>
          isDigits whole && isDigits digits && !(whole.isEmpty && digits.isEmpty)) = true ↔
        isDigits whole = true ∧ (∀ digits ∈ fraction, isDigits digits = true) ∧
          whole ++ fraction.getD [] ≠ [] := by
    cases fraction with
    | none => simp [and_comm]
    | some digits => simp [and_assoc, Classical.or_iff_not_imp_left]
  have exponentOk : (match exponent with
      | none => true
      | some text => !(exponentParts text).2.isEmpty && isDigits (exponentParts text).2) = true ↔
        ∀ text ∈ exponent, ∃ sign digits, text = sign ++ digits ∧
          (sign = [] ∨ sign = ['+'] ∨ sign = ['-']) ∧ digits ≠ [] ∧ isDigits digits = true := by
    cases exponent with
    | none => simp
    | some text => simpa using exponent_iff text
  refine Iff.trans (Bool.and_eq_true _ _ |>.to_iff) ((and_congr mantissaOk exponentOk).trans ?_)
  exact ⟨fun ⟨⟨whole, fraction, digit⟩, exponent⟩ => ⟨whole, fraction, digit, exponent⟩,
    fun ⟨whole, fraction, digit, exponent⟩ => ⟨⟨whole, fraction, digit⟩, exponent⟩⟩

end NumberShape

/-- The word is a number of that value. -/
def NumberWord (word : List Char) (number : Number) : Prop :=
  ∃ shape mark, NumberShape.Grammatical shape ∧ NumberShape.isMark mark = true ∧
    word = shape.chars mark ∧ shape.number? = some number

theorem numberLiteral?_eq_some_iff {word : List Char} {number : Number} :
    numberLiteral? word = some number ↔ NumberWord word number := by
  have unfolded : numberLiteral? word =
      if (NumberShape.ofWord word).isNumber then (NumberShape.ofWord word).number? else none := rfl
  rw [unfolded]
  constructor
  · intro read
    split at read
    · next grammatical =>
        obtain ⟨mark, marks, written⟩ := NumberShape.chars_ofWord word
        exact ⟨_, mark, (NumberShape.isNumber_iff _).mp grammatical, marks, written.symm, read⟩
    · cases read
  · rintro ⟨shape, mark, grammatical, marks, rfl, value⟩
    rw [NumberShape.ofWord_chars grammatical marks,
      if_pos ((NumberShape.isNumber_iff shape).mpr grammatical), value]

end DocStore.Query

import DocStore.Query.Token
import Mathlib.Data.List.TakeWhile

namespace DocStore.Query.Token

/-- A text that is scanned into tokens of these kinds. -/
def Scans (text : List Char) (kinds : List TokenKind) : Prop :=
  ∀ fuel position, text.length ≤ fuel →
    ∃ tokens, scanFrom fuel position text = .ok tokens ∧ tokens.map kind = kinds

variable {c : Char} {text rest after : List Char} {kinds : List TokenKind}

theorem Scans.nil : Scans [] [] := by
  intro fuel position enough
  refine ⟨[], ?_, rfl⟩
  cases fuel <;> rfl

theorem Scans.blank (blank : Text.isBlank c = true) (scans : Scans rest kinds) :
    Scans (c :: rest) kinds := by
  intro fuel position enough
  cases fuel with
  | zero => simp at enough
  | succ fuel =>
      rw [scanFrom, if_pos blank]
      exact scans fuel _ (Nat.le_of_succ_le_succ enough)

theorem Scans.space (scans : Scans rest kinds) : Scans (' ' :: rest) kinds :=
  scans.blank rfl

/-- One token, which leaves no more of the text than there was. -/
theorem Scans.token {kind : TokenKind} (visible : Text.isBlank c = false)
    (read : ∀ position, readKind position c rest = .ok (kind, after))
    (less : after.length ≤ rest.length) (scans : Scans after kinds) :
    Scans (c :: rest) (kind :: kinds) := by
  intro fuel position enough
  cases fuel with
  | zero => simp at enough
  | succ fuel =>
      simp only [List.length_cons] at enough
      let text := (c :: rest).take (rest.length + 1 - after.length)
      obtain ⟨tokens, scanned, same⟩ := scans fuel (position + byteLength text) (by omega)
      refine ⟨⟨kind, position, String.ofList text⟩ :: tokens, ?_, by rw [List.map_cons, same]⟩
      rw [scanFrom, if_neg (by simp [visible])]
      simp only [read, bind, Except.bind, text, scanned]

theorem Scans.openParen (scans : Scans rest kinds) : Scans ('(' :: rest) (.openParen :: kinds) :=
  scans.token rfl (fun _ => rfl) (Nat.le_refl _)

theorem Scans.closeParen (scans : Scans rest kinds) : Scans (')' :: rest) (.closeParen :: kinds) :=
  scans.token rfl (fun _ => rfl) (Nat.le_refl _)

theorem Scans.and (scans : Scans rest kinds) : Scans ('&' :: '&' :: rest) (.and :: kinds) :=
  scans.token rfl (fun _ => rfl) (Nat.le_succ _)

theorem Scans.or (scans : Scans rest kinds) : Scans ('|' :: '|' :: rest) (.or :: kinds) :=
  scans.token rfl (fun _ => rfl) (Nat.le_succ _)

theorem isWordChar_iff : isWordChar c = true ↔
    Text.isBlank c = false ∧ isOperatorChar c = false ∧ c ≠ '(' ∧ c ≠ ')' ∧ c ≠ '"' := by
  simp [isWordChar, and_assoc]

/-- A run of characters that words are made of. -/
def IsWord (text : List Char) : Prop := text ≠ [] ∧ ∀ c ∈ text, isWordChar c = true

instance (text : List Char) : Decidable (IsWord text) :=
  decidable_of_iff ((!text.isEmpty && text.all isWordChar) = true) (by simp [IsWord])

/-- No word goes on with this text. -/
def EndsWord (rest : List Char) : Prop := ∀ c ∈ rest.head?, isWordChar c = false

private theorem readKind_word (first : isWordChar c = true) (position : Nat) (rest : List Char) :
    readKind position c rest = .ok (.word (String.ofList (c :: rest.takeWhile isWordChar)),
      rest.dropWhile isWordChar) := by
  obtain ⟨-, notOperator, notOpen, notClose, notQuote⟩ := isWordChar_iff.mp first
  simp [readKind, notOperator, notOpen, notClose, notQuote]

theorem Scans.word {word : List Char} (isWord : IsWord word) (ends : EndsWord rest)
    (scans : Scans rest kinds) :
    Scans (word ++ rest) (.word (String.ofList word) :: kinds) := by
  obtain ⟨nonempty, all⟩ := isWord
  cases word with
  | nil => exact absurd rfl nonempty
  | cons c word =>
      have first := all c List.mem_cons_self
      have others : ∀ c ∈ word, isWordChar c = true := fun c member =>
        all c (List.mem_cons_of_mem _ member)
      have stops : rest.takeWhile isWordChar = [] ∧ rest.dropWhile isWordChar = rest := by
        cases rest with
        | nil => exact ⟨rfl, rfl⟩
        | cons c rest => simp [ends c rfl]
      rw [List.cons_append]
      refine scans.token (isWordChar_iff.mp first).1 (fun position => ?_) (by simp)
      rw [readKind_word first, List.takeWhile_append_of_pos others,
        List.dropWhile_append_of_pos others, stops.1, stops.2, List.append_nil]

theorem readString_literal (text rest : List Char) :
    readString (text.flatMap Primitive.literalChar ++ '"' :: rest) = some (text, rest) := by
  induction text with
  | nil => rfl
  | cons c text ih =>
      by_cases escaped : c = '"' ∨ c = '\\'
      · simp only [List.flatMap_cons, Primitive.literalChar, if_pos escaped, List.cons_append,
          List.nil_append]
        rw [readString, ih]
        simp [escaped]
      · obtain ⟨notQuote, notBackslash⟩ := not_or.mp escaped
        simp only [List.flatMap_cons, Primitive.literalChar, if_neg escaped, List.cons_append,
          List.nil_append]
        rw [readString, ih]
        · rfl
        all_goals
          intros
          simp_all

theorem Scans.string (scans : Scans rest kinds) :
    Scans ('"' :: (text.flatMap Primitive.literalChar ++ '"' :: rest))
      (.string (String.ofList text) :: kinds) := by
  refine scans.token rfl (fun position => ?_) ?_
  · simp [readKind, readString_literal]
  · simp only [List.length_append, List.length_cons]
    omega

/-- A word begins with no other token, and goes as far as characters of words do. -/
theorem parts_of_readKind_word {position : Nat} {word : String}
    (read : readKind position c rest = .ok (.word word, after)) :
    (isOperatorChar c = false ∧ c ≠ '(' ∧ c ≠ ')' ∧ c ≠ '"') ∧
      word = String.ofList (c :: rest.takeWhile isWordChar) ∧
      after = rest.dropWhile isWordChar := by
  unfold readKind at read
  split at read
  · cases read
  split at read
  · cases read
  split at read
  · split at read <;> cases read
  split at read
  · split at read
    · next found operator =>
        cases read
        unfold readOperator at operator
        split at operator <;> cases operator
    · cases read
  next notOpen notClose notQuote notOperator =>
    cases read
    exact ⟨⟨by simpa using notOperator, notOpen, notClose, notQuote⟩, rfl, rfl⟩

private theorem isWord_of_readKind {position : Nat} {kind : TokenKind}
    (visible : Text.isBlank c = false) (read : readKind position c rest = .ok (kind, after)) :
    ∀ word, kind = .word word → IsWord word.toList := by
  rintro word rfl
  obtain ⟨special, rfl, -⟩ := parts_of_readKind_word read
  rw [String.toList_ofList]
  refine ⟨by simp, fun d member => ?_⟩
  rcases List.mem_cons.mp member with rfl | inside
  · exact isWordChar_iff.mpr ⟨visible, special⟩
  · exact List.mem_takeWhile_imp inside

theorem isWord_of_scanFrom {fuel position : Nat} {tokens : List Token}
    (scanned : scanFrom fuel position text = .ok tokens) :
    ∀ token ∈ tokens, ∀ word, token.kind = .word word → IsWord word.toList := by
  induction fuel generalizing position text tokens with
  | zero => cases scanned; exact nofun
  | succ fuel ih =>
      cases text with
      | nil => cases scanned; exact nofun
      | cons c rest =>
          rw [scanFrom] at scanned
          split at scanned
          · exact ih scanned
          next visible =>
            cases read : readKind position c rest with
            | error fault => simp [read, bind, Except.bind] at scanned
            | ok found =>
                obtain ⟨kind, after⟩ := found
                simp only [read, bind, Except.bind] at scanned
                split at scanned
                · cases scanned
                next later inner =>
                  cases scanned
                  rintro token member word named
                  rcases List.mem_cons.mp member with rfl | inside
                  · exact isWord_of_readKind (by simpa using visible) read word named
                  · exact ih inner token inside word named

end DocStore.Query.Token

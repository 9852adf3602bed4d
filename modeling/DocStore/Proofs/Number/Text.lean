import DocStore.Proofs.Text.Natural

namespace DocStore

/-- Digits, signs, the point and the mark of the exponent. -/
def isNumberChar (c : Char) : Bool := c.isDigit || c == '-' || c == '+' || c == '.' || c == 'e'

def beginsNumber (c : Char) : Bool := c == '-' || c.isDigit

/-- The text of a number: a minus sign or a digit, and then characters of numbers. -/
def IsNumberText (text : List Char) : Prop :=
  (∃ first rest, text = first :: rest ∧ beginsNumber first = true) ∧
    text.all isNumberChar = true

@[simp] theorem isNumberChar_point : isNumberChar '.' = true := rfl

@[simp] theorem isNumberChar_exponent : isNumberChar 'e' = true := rfl

private theorem numberChar_of_isDigit {c : Char} (digit : c.isDigit = true) :
    isNumberChar c = true := by
  simp [isNumberChar, digit]

private theorem all_toDigits (number : Nat) :
    (Nat.toDigits 10 number).all isNumberChar = true :=
  List.all_eq_true.mpr fun _ member => numberChar_of_isDigit (Json.isDigit_of_mem_toDigits member)

private theorem all_zeros (count : Nat) : (List.replicate count '0').all isNumberChar = true :=
  List.all_eq_true.mpr fun _ member => by rw [List.eq_of_mem_replicate member]; rfl

private theorem all_of_all {chars part : List Char} (all : chars.all isNumberChar = true)
    (within : part ⊆ chars) : part.all isNumberChar = true :=
  List.all_eq_true.mpr fun c member => List.all_eq_true.mp all c (within member)

theorem isNumberText_toDigits (number : Nat) : IsNumberText (Nat.toDigits 10 number) := by
  obtain ⟨first, rest, digits, digit⟩ := Json.toDigits_eq_cons number
  exact ⟨⟨first, rest, digits, by simp [beginsNumber, digit]⟩, all_toDigits number⟩

theorem IsNumberText.negated {text : List Char} (written : IsNumberText text) :
    IsNumberText ('-' :: text) :=
  ⟨⟨'-', text, rfl, rfl⟩, by simpa using ⟨rfl, List.all_eq_true.mp written.2⟩⟩

theorem DecimalLayout.isNumberText_write (layout : DecimalLayout) (decimal : ShortDecimal) :
    IsNumberText (layout.write decimal).toList := by
  have digitsOk := all_toDigits decimal.digits
  obtain ⟨first, rest, digits, digit⟩ := Json.toDigits_eq_cons decimal.digits
  have begins : beginsNumber first = true := by simp [beginsNumber, digit]
  unfold write
  rw [digits] at digitsOk ⊢
  simp only [List.all_cons, Bool.and_eq_true] at digitsOk
  obtain ⟨firstOk, restOk⟩ := digitsOk
  have takeOk (count : Nat) := all_of_all restOk (List.take_subset count rest)
  have dropOk (count : Nat) := all_of_all restOk (List.drop_subset count rest)
  dsimp only
  split
  · split
    · refine ⟨⟨'0', _, by simp; rfl, rfl⟩, ?_⟩
      simp only [String.toList_ofList, List.all_cons, List.all_append, all_zeros, firstOk, restOk]
      rfl
    · refine ⟨⟨first, _, by simp [List.take_succ_cons]; rfl, begins⟩, ?_⟩
      simp only [String.toList_ofList, List.take_succ_cons, List.drop_succ_cons, List.all_append,
        List.all_cons, firstOk, takeOk, all_zeros, Bool.and_true, Bool.true_and]
      split
      · rfl
      · simpa using List.all_eq_true.mp (dropOk _)
  · have signOk : (if decimal.power + ((first :: rest).length - 1 : Nat) < 0 then ['-']
        else if layout.signedExponent then ['+'] else []).all isNumberChar = true := by
      split
      · rfl
      · split <;> rfl
    cases rest with
    | nil =>
        refine ⟨⟨first, _, by simp; rfl, begins⟩, ?_⟩
        simp only [String.toList_ofList, List.all_append, List.all_cons, List.all_nil, firstOk,
          signOk, all_toDigits, isNumberChar_exponent, Bool.and_true]
    | cons second rest =>
        refine ⟨⟨first, _, by simp; rfl, begins⟩, ?_⟩
        simp only [List.all_cons, Bool.and_eq_true] at restOk
        simp only [String.toList_ofList, List.all_append, List.all_cons, firstOk, restOk, signOk,
          all_toDigits, isNumberChar_point, isNumberChar_exponent, Bool.and_true]

theorem Binary64.isNumberText (x : Binary64) : IsNumberText x.text.toList := by
  have magnitude : IsNumberText (if x.magnitude.val = 0 then "0.0"
      else DecimalLayout.standard.write (Binary64.shortest x.magnitude.val)).toList := by
    split
    · exact ⟨⟨'0', ['.', '0'], rfl, rfl⟩, rfl⟩
    · exact DecimalLayout.isNumberText_write _ _
  unfold text
  dsimp only
  split
  · simpa using magnitude.negated
  · exact magnitude

theorem Number.isNumberText (number : Number) : IsNumberText number.text.toList := by
  cases number with
  | natural value =>
      simpa [Number.text, Nat.toList_repr] using isNumberText_toDigits value.toNat
  | negative below =>
      simpa [Number.text, Nat.toList_repr] using (isNumberText_toDigits (below.val + 1)).negated
  | float value => exact value.isNumberText

end DocStore

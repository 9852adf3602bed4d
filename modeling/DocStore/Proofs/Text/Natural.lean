import DocStore.Text.Natural

namespace DocStore

namespace Json

theorem digitsValue_append (digits : List Char) (last : Char) :
    digitsValue (digits ++ [last]) = 10 * digitsValue digits + (last.toNat - '0'.toNat) := by
  simp [digitsValue]

private theorem digitChar_ne_zero {digit : Nat} (below : digit < 10) (positive : 0 < digit) :
    Nat.digitChar digit ≠ '0' := by
  revert digit
  decide

theorem digitsValue_toDigits (number : Nat) : digitsValue (Nat.toDigits 10 number) = number :=
  Nat.ofDigitChars_ten_toDigits

theorem digitsValue_replicate_zero (count : Nat) (digits : List Char) :
    digitsValue (List.replicate count '0' ++ digits) = digitsValue digits := by
  induction count with
  | zero => rfl
  | succ count ih => simpa [List.replicate_succ, digitsValue] using ih

theorem isDigit_of_mem_toDigits {number : Nat} {c : Char} (member : c ∈ Nat.toDigits 10 number) :
    c.isDigit = true :=
  Nat.isDigit_of_mem_toDigits (by decide) (by decide) member

theorem toDigits_eq_cons (number : Nat) :
    ∃ first rest, Nat.toDigits 10 number = first :: rest ∧ first.isDigit = true := by
  cases digits : Nat.toDigits 10 number with
  | nil => exact absurd digits Nat.toDigits_ne_nil
  | cons first rest =>
      exact ⟨first, rest, rfl, isDigit_of_mem_toDigits (digits ▸ List.mem_cons_self)⟩

theorem head?_toDigits_ne_zero {number : Nat} (positive : 0 < number) :
    (Nat.toDigits 10 number).head? ≠ some '0' := by
  induction number using Nat.strongRecOn with
  | ind number ih =>
      by_cases small : number < 10
      · rw [Nat.toDigits_of_lt_base small]
        simpa using digitChar_ne_zero small positive
      · obtain ⟨first, rest, digits, -⟩ := toDigits_eq_cons (number / 10)
        have leading := ih (number / 10) (by omega) (by omega)
        rw [Nat.toDigits_of_base_le (by decide) (Nat.le_of_not_lt small)]
        rw [digits] at leading ⊢
        exact leading

end Json

namespace Text

/-- Digits with zeros in front are read as the number they spell. -/
theorem natural?_padded {limit number : Nat} (below : number < limit) (zeros : Nat) :
    natural? limit (List.replicate zeros '0' ++ Nat.toDigits 10 number) = some number := by
  obtain ⟨first, rest, digits, isDigit⟩ : ∃ first rest,
      List.replicate zeros '0' ++ Nat.toDigits 10 number = first :: rest ∧
        first.isDigit = true := by
    cases zeros with
    | zero => exact Json.toDigits_eq_cons number
    | succ zeros => exact ⟨'0', _, rfl, rfl⟩
  have allDigits :
      (List.replicate zeros '0' ++ Nat.toDigits 10 number).all Char.isDigit = true := by
    rw [List.all_eq_true]
    intro c member
    rcases List.mem_append.mp member with zero | digit
    · rw [List.eq_of_mem_replicate zero]
      rfl
    · exact Json.isDigit_of_mem_toDigits digit
  have noPlus : dropPlus (first :: rest) = first :: rest := by
    have different : first ≠ '+' := by
      rintro rfl
      cases isDigit
    unfold dropPlus
    split
    · rename_i same
      exact absurd (List.cons.inj same).1 different
    · rfl
  have value : Json.digitsValue (first :: rest) = number := by
    rw [← digits, Json.digitsValue_replicate_zero, Json.digitsValue_toDigits]
  rw [digits] at allDigits ⊢
  simp [natural?, noPlus, allDigits, value, below]

end Text

end DocStore

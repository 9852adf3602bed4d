import DocStore.Proofs.Number.Text
import DocStore.Proofs.Query.Literal
/-!
The parts of a decimal as it is written.

Every layout writes the digits of a decimal around a point or in front of an
exponent (`DecimalLayout.shape`), and the parts have the value of the decimal:
zeros that are added at the end are taken from the power of ten
(`digitsValue_shape`).
-/

namespace DocStore

namespace Query.NumberShape

theorem isDigits_toDigits (number : Nat) : isDigits (Nat.toDigits 10 number) = true :=
  List.all_eq_true.mpr fun _ member => Json.isDigit_of_mem_toDigits member

theorem isDigits_zeros (count : Nat) : isDigits (List.replicate count '0') = true :=
  List.all_eq_true.mpr fun _ member => by rw [List.eq_of_mem_replicate member]; rfl

theorem isDigits_of_subset {digits part : List Char} (all : isDigits digits = true)
    (within : part ⊆ digits) : isDigits part = true :=
  List.all_eq_true.mpr fun c member => List.all_eq_true.mp all c (within member)

def ofMagnitude (negative : Bool) (magnitude : Nat) : NumberShape :=
  ⟨negative, Nat.toDigits 10 magnitude, none, none⟩

theorem Grammatical.ofMagnitude (negative : Bool) (magnitude : Nat) :
    (ofMagnitude negative magnitude).Grammatical where
  whole := isDigits_toDigits magnitude
  fraction := nofun
  someDigit := by simp [NumberShape.ofMagnitude]
  exponent := nofun

end Query.NumberShape

namespace DecimalLayout

open Query (NumberShape)
open Query.NumberShape

/-- The decimal exponent of the first digit. -/
def exponentOf (decimal : ShortDecimal) : Int :=
  decimal.power + ((Nat.toDigits 10 decimal.digits).length - 1 : Nat)

def exponentText (layout : DecimalLayout) (exponent : Int) : List Char :=
  (if exponent < 0 then ['-'] else if layout.signedExponent then ['+'] else []) ++
    Nat.toDigits 10 exponent.natAbs

/-- The parts in which a layout writes a decimal. -/
def shape (layout : DecimalLayout) (decimal : ShortDecimal) : NumberShape :=
  let digits := Nat.toDigits 10 decimal.digits
  let exponent := exponentOf decimal
  if layout.lowestPlain ≤ exponent ∧ exponent ≤ layout.highestPlain then
    if exponent < 0 then
      ⟨false, ['0'], some (List.replicate ((-exponent).toNat - 1) '0' ++ digits), none⟩
    else
      let whole := exponent.toNat + 1
      let fraction := digits.drop whole
      ⟨false, digits.take whole ++ List.replicate (whole - digits.length) '0',
        some (if fraction.isEmpty then ['0'] else fraction), none⟩
  else
    match digits with
    | first :: second :: rest =>
        ⟨false, [first], some (second :: rest), some (layout.exponentText exponent)⟩
    | short => ⟨false, short, none, some (layout.exponentText exponent)⟩

variable (layout : DecimalLayout) (decimal : ShortDecimal)

theorem write_eq_shape : (layout.write decimal).toList = (layout.shape decimal).chars 'e' := by
  obtain ⟨first, rest, digits, -⟩ := Json.toDigits_eq_cons decimal.digits
  unfold write shape exponentOf
  rw [digits]
  dsimp only
  split
  · split <;> simp [chars, mantissaChars, exponentChars]
  · cases rest <;> simp [chars, mantissaChars, exponentChars, exponentText]

theorem exponentText_parts (exponent : Int) :
    ∃ sign digits, layout.exponentText exponent = sign ++ digits ∧
      (sign = [] ∨ sign = ['+'] ∨ sign = ['-']) ∧ digits ≠ [] ∧ isDigits digits = true := by
  refine ⟨_, _, rfl, ?_, Nat.toDigits_ne_nil, isDigits_toDigits _⟩
  split
  · simp
  · split <;> simp

theorem grammatical_shape : (layout.shape decimal).Grammatical := by
  have all := isDigits_toDigits decimal.digits
  obtain ⟨first, rest, digits, -⟩ := Json.toDigits_eq_cons decimal.digits
  unfold shape
  rw [digits] at all ⊢
  dsimp only
  split
  · split
    · exact ⟨rfl, by simpa using isDigits_append.mpr ⟨isDigits_zeros _, all⟩, by simp, nofun⟩
    · refine ⟨isDigits_append.mpr ⟨?_, isDigits_zeros _⟩, ?_, by simp, nofun⟩
      · exact isDigits_of_subset all (List.take_subset _ _)
      · intro part same
        obtain rfl := Option.some.inj same
        split
        · rfl
        · exact isDigits_of_subset all (List.drop_subset _ _)
  · have exponent (text : List Char)
        (same : text ∈ some (layout.exponentText (exponentOf decimal))) :=
      Option.some.inj same ▸ layout.exponentText_parts (exponentOf decimal)
    cases rest with
    | nil => exact ⟨all, nofun, by simp, exponent⟩
    | cons second rest =>
        exact ⟨isDigits_of_subset all (by simp),
          by simpa using isDigits_of_subset all (List.subset_cons_self _ _), by simp, exponent⟩

theorem fractional_shape :
    (layout.shape decimal).fraction ≠ none ∨ (layout.shape decimal).exponent ≠ none := by
  unfold shape
  dsimp only
  split
  · split
    · exact .inl nofun
    · exact .inl nofun
  · split
    · exact .inr nofun
    · exact .inr nofun

theorem unsigned_shape : (layout.shape decimal).negative = false := by
  unfold shape
  dsimp only
  split
  · split <;> rfl
  · split <;> rfl

theorem whole_shape_ne_nil : (layout.shape decimal).whole ≠ [] := by
  obtain ⟨first, rest, digits, -⟩ := Json.toDigits_eq_cons decimal.digits
  unfold shape
  rw [digits]
  dsimp only
  split
  · split <;> simp
  · cases rest <;> simp

theorem fraction_shape_ne_nil : (layout.shape decimal).fraction ≠ some [] := by
  unfold shape
  dsimp only
  split
  · split
    · simp
    · split <;> simp_all
  · split <;> simp

/-- No zero stands in front of further digits. -/
theorem leading_shape (some : decimal.digits ≠ 0) :
    (layout.shape decimal).whole = ['0'] ∨ (layout.shape decimal).whole.head? ≠ .some '0' := by
  have leading := Json.head?_toDigits_ne_zero (Nat.pos_of_ne_zero some)
  obtain ⟨first, rest, digits, -⟩ := Json.toDigits_eq_cons decimal.digits
  unfold shape
  rw [digits] at leading ⊢
  dsimp only
  split
  · split
    · exact .inl rfl
    · exact .inr (by simpa using leading)
  · cases rest with
    | nil => exact .inr leading
    | cons second rest => exact .inr leading

private theorem power_exponentText (negative : Bool) (whole : List Char)
    (fraction : Option (List Char)) (exponent : Int) :
    (NumberShape.mk negative whole fraction (some (layout.exponentText exponent))).power =
      exponent := by
  obtain ⟨first, rest, digits, digit⟩ := Json.toDigits_eq_cons exponent.natAbs
  have value := Json.digitsValue_toDigits exponent.natAbs
  have other (sign : Char) (noDigit : sign.isDigit = false) : first ≠ sign := by
    rintro rfl
    rw [digit] at noDigit
    cases noDigit
  unfold power exponentText
  rw [digits] at value ⊢
  dsimp only
  split
  · simp only [List.singleton_append, exponentParts, if_true, value]
    omega
  · split
    · simp only [List.singleton_append, exponentParts, Bool.false_eq_true, if_false, value]
      omega
    · rw [List.nil_append]
      unfold exponentParts
      split
      · next same => exact absurd (List.cons.inj same).1 (other '-' rfl)
      · next same => exact absurd (List.cons.inj same).1 (other '+' rfl)
      · simp only [Bool.false_eq_true, if_false, value]
        omega

private theorem digitsValue_zeros (digits : List Char) (count : Nat) :
    Json.digitsValue (digits ++ List.replicate count '0') =
      Json.digitsValue digits * 10 ^ count := by
  induction count with
  | zero => simp
  | succ count ih =>
      rw [List.replicate_succ', ← List.append_assoc, Json.digitsValue_append, ih, Nat.pow_succ]
      rw [Nat.sub_self, Nat.add_zero, Nat.mul_comm 10, Nat.mul_assoc]

/-- The value of the parts is that of the decimal. -/
theorem digitsValue_shape :
    ∃ zeros : Nat,
      Json.digitsValue ((layout.shape decimal).whole ++ (layout.shape decimal).fraction.getD []) =
        decimal.digits * 10 ^ zeros ∧
      (layout.shape decimal).power - ((layout.shape decimal).fraction.getD []).length =
        decimal.power - zeros := by
  have value := Json.digitsValue_toDigits decimal.digits
  have long : 0 < (Nat.toDigits 10 decimal.digits).length :=
    List.length_pos_iff.mpr Nat.toDigits_ne_nil
  have exponent : exponentOf decimal + 1 =
      decimal.power + (Nat.toDigits 10 decimal.digits).length := by
    unfold exponentOf
    omega
  unfold shape
  generalize Nat.toDigits 10 decimal.digits = digits at value long exponent ⊢
  generalize exponentOf decimal = place at exponent ⊢
  dsimp only
  split
  · split
    · refine ⟨0, ?_, ?_⟩
      · simpa [← List.replicate_succ, ← List.cons_append, value] using
          Json.digitsValue_replicate_zero ((-place).toNat - 1 + 1) digits
      · simp only [power, Option.getD_some, List.length_append, List.length_replicate]
        omega
    · rcases Nat.lt_or_ge (place.toNat + 1) digits.length with inside | behind
      · have rest : (digits.drop (place.toNat + 1)).isEmpty = false := by
          simpa [List.drop_eq_nil_iff] using inside
        have none : place.toNat + 1 - digits.length = 0 := by omega
        refine ⟨0, ?_, ?_⟩
        · simp [rest, none, value]
        · simp only [power, rest, Bool.false_eq_true, if_false, Option.getD_some,
            List.length_drop]
          omega
      · -- A zero behind the point joins those in front of it.
        have rest : (digits.drop (place.toNat + 1)).isEmpty = true := by
          simpa [List.drop_eq_nil_iff] using behind
        refine ⟨place.toNat + 1 - digits.length + 1, ?_, ?_⟩
        · have zeros := digitsValue_zeros digits (place.toNat + 1 - digits.length + 1)
          rw [List.replicate_succ', ← List.append_assoc, value] at zeros
          simpa [rest, List.take_of_length_le behind] using zeros
        · simp only [power, rest, if_true, Option.getD_some, List.length_singleton]
          omega
  · cases digits with
    | nil => cases long
    | cons first rest =>
        refine ⟨0, ?_, ?_⟩
        · cases rest <;> simpa using value
        · cases rest with
          | nil =>
              simp only [power_exponentText, Option.getD_none, List.length_nil,
                List.length_singleton] at exponent ⊢
              omega
          | cons second rest =>
              simp only [power_exponentText, Option.getD_some, List.length_cons] at exponent ⊢
              omega

end DecimalLayout

end DocStore

import DocStore.Proofs.Json.Text
import DocStore.Proofs.Number.Decimal

namespace DocStore

open Query (NumberShape)

/-- JSON asks for digits in front of the point, without spare zeros, and behind it. -/
structure Query.NumberShape.Canonical (shape : NumberShape) : Prop where
  grammatical : shape.Grammatical
  whole : shape.whole ≠ []
  leading : shape.whole = ['0'] ∨ shape.whole.head? ≠ some '0'
  fraction : shape.fraction ≠ some []

theorem Query.NumberShape.Canonical.ofMagnitude (negative : Bool) (magnitude : Nat) :
    (NumberShape.ofMagnitude negative magnitude).Canonical where
  grammatical := .ofMagnitude negative magnitude
  whole := Nat.toDigits_ne_nil
  leading := by
    rcases Nat.eq_zero_or_pos magnitude with rfl | positive
    · exact .inl (Nat.toDigits_zero 10)
    · exact .inr (Json.head?_toDigits_ne_zero positive)
  fraction := nofun

theorem Binary64.canonical_shape (x : Binary64) : x.shape.Canonical := by
  refine ⟨x.grammatical_shape, ?_, ?_, ?_⟩
  all_goals
    unfold shape
    split
  · exact List.cons_ne_nil _ _
  · exact DecimalLayout.whole_shape_ne_nil _ _
  · exact .inl rfl
  · exact DecimalLayout.leading_shape _ _
      ((shortest_roundsTo (Nat.pos_of_ne_zero ‹_›)).digits_ne_zero (Nat.pos_of_ne_zero ‹_›))
  · exact nofun
  · exact DecimalLayout.fraction_shape_ne_nil _ _

theorem Number.canonical_shape (number : Number) : number.shape.Canonical := by
  cases number with
  | natural value => exact .ofMagnitude _ _
  | negative below => exact .ofMagnitude _ _
  | float x => exact x.canonical_shape

namespace Json

theorem ne_of_beginsNumber {first c : Char} (begins : beginsNumber first = true)
    (other : beginsNumber c = false) : first ≠ c := by
  rintro rfl
  rw [begins] at other
  cases other

theorem isBlank_of_beginsNumber {first : Char} (begins : beginsNumber first = true) :
    isBlank first = false := by
  have different {c : Char} (other : beginsNumber c = false) := ne_of_beginsNumber begins other
  simp only [isBlank, Bool.or_eq_false_iff, decide_eq_false_iff_not]
  exact ⟨⟨⟨different rfl, different rfl⟩, different rfl⟩, different rfl⟩

private theorem readDigits_append {digits rest : List Char} (nonempty : digits ≠ [])
    (all : NumberShape.isDigits digits = true) (stops : ∀ c ∈ rest.head?, c.isDigit = false) :
    readDigits (digits ++ rest) = .ok (digits, rest) := by
  have inside : ∀ c ∈ digits, c.isDigit = true := List.all_eq_true.mp all
  have outside : rest.takeWhile Char.isDigit = [] ∧ rest.dropWhile Char.isDigit = rest := by
    cases rest with
    | nil => exact ⟨rfl, rfl⟩
    | cons c rest => simp [stops c rfl]
  unfold readDigits
  rw [List.takeWhile_append_of_pos inside, List.dropWhile_append_of_pos inside, outside.1,
    outside.2, List.append_nil]
  cases digits with
  | nil => exact absurd rfl nonempty
  | cons first others => rfl

private theorem readPart_ends {α : Type} (opens : Char → Bool)
    (part : List Char → Except Fault (Parsed α)) {rest : List Char} (ends : Ends rest)
    (marks : ∀ c, opens c = true → continuesNumber c = true) :
    readPart opens part rest = .ok (none, rest) := by
  cases rest with
  | nil => rfl
  | cons c rest =>
      have closed : opens c = false := by
        cases opened : opens c with
        | false => rfl
        | true => exact absurd (marks c opened) (by simp [ends c rfl])
      simp [readPart, closed]

private theorem Ends.noDigit {rest : List Char} (ends : Ends rest) :
    ∀ c ∈ rest.head?, c.isDigit = false := by
  intro c first
  have stops := ends c first
  simp only [continuesNumber, Bool.or_eq_false_iff] at stops
  exact stops.1.1.1

variable {shape : NumberShape} {rest : List Char}

private theorem exponentChars_noDigit (shape : NumberShape) (ends : Ends rest) :
    ∀ c ∈ (shape.exponentChars 'e' ++ rest).head?, c.isDigit = false := by
  unfold NumberShape.exponentChars
  cases shape.exponent with
  | none => exact ends.noDigit
  | some text =>
      intro c first
      cases first
      rfl

private theorem mantissaChars_eq (shape : NumberShape) :
    shape.mantissaChars = shape.whole ++ (shape.fraction.map ('.' :: ·)).getD [] := by
  unfold NumberShape.mantissaChars
  cases shape.fraction <;> rfl

private theorem readFraction_shape (canonical : shape.Canonical) (ends : Ends rest) :
    readPart (· = '.') readDigits
        ((shape.fraction.map ('.' :: ·)).getD [] ++ (shape.exponentChars 'e' ++ rest)) =
      .ok (shape.fraction, shape.exponentChars 'e' ++ rest) := by
  cases fraction : shape.fraction with
  | none =>
      unfold NumberShape.exponentChars
      cases shape.exponent with
      | none => exact readPart_ends _ _ ends fun c point => by simp_all [continuesNumber]
      | some text => simp [readPart]
  | some digits =>
      have read := readDigits_append (fun empty => canonical.fraction (empty ▸ fraction))
        (canonical.grammatical.fraction digits fraction) (exponentChars_noDigit shape ends)
      simp [readPart, read, Except.map]

private theorem readExponent_parts {sign digits : List Char}
    (signed : sign = [] ∨ sign = ['+'] ∨ sign = ['-']) (nonempty : digits ≠ [])
    (all : NumberShape.isDigits digits = true) (ends : Ends rest) :
    readExponent (sign ++ digits ++ rest) =
      .ok (if sign == ['-'] then -(digitsValue digits : Int) else digitsValue digits, rest) := by
  have read := readDigits_append nonempty all ends.noDigit
  rcases signed with rfl | rfl | rfl
  · obtain ⟨first, others, rfl⟩ := List.exists_cons_of_ne_nil nonempty
    have unsigned {c : Char} (noDigit : c.isDigit = false) : first ≠ c :=
      NumberShape.ne_of_isDigits all List.mem_cons_self noDigit
    rw [List.cons_append] at read
    simp only [List.nil_append, List.cons_append]
    unfold readExponent
    split
    · next same => exact absurd (List.cons.inj same).1 (unsigned rfl)
    · next same => exact absurd (List.cons.inj same).1 (unsigned rfl)
    · rw [read]
      rfl
  · simp only [List.cons_append, List.nil_append, readExponent, read]
    rfl
  · simp only [List.cons_append, List.nil_append, readExponent, read]
    rfl

private theorem readExponent_shape (canonical : shape.Canonical) (ends : Ends rest) :
    readPart (fun c => c = 'e' || c = 'E') readExponent (shape.exponentChars 'e' ++ rest) =
      .ok (shape.exponent.map fun _ => shape.power, rest) := by
  unfold NumberShape.exponentChars NumberShape.power
  cases exponent : shape.exponent with
  | none =>
      refine readPart_ends _ _ ends fun c mark => ?_
      simp only [Bool.or_eq_true, decide_eq_true_eq] at mark
      rcases mark with rfl | rfl <;> rfl
  | some text =>
      obtain ⟨sign, digits, rfl, signed, nonempty, all⟩ :=
        canonical.grammatical.exponent text exponent
      have read := readExponent_parts signed nonempty all ends
      simp only [List.cons_append, readPart, decide_true, Bool.true_or, if_true, read,
        NumberShape.exponentParts_append signed all]
      rfl

/-- What is read after a sign: the number of the parts, unless it is too large. -/
private theorem readUnsigned_shape (canonical : shape.Canonical) (ends : Ends rest)
    (negative : Bool) :
    readUnsigned negative (shape.mantissaChars ++ shape.exponentChars 'e' ++ rest) =
      (numberOf? negative shape.whole shape.fraction (shape.exponent.map fun _ => shape.power)).elim
        (.error .malformed) fun value => .ok (value, rest) := by
  have stops : ∀ c ∈ ((shape.fraction.map ('.' :: ·)).getD [] ++
      (shape.exponentChars 'e' ++ rest)).head?, c.isDigit = false := by
    cases shape.fraction with
    | none => exact exponentChars_noDigit shape ends
    | some digits =>
        intro c first
        cases first
        rfl
  have whole := readDigits_append canonical.whole canonical.grammatical.whole stops
  have leading : ¬ (shape.whole.length > 1 ∧ shape.whole.head? = some '0') := by
    rintro ⟨long, zero⟩
    rcases canonical.leading with single | other
    · simp [single] at long
    · exact other zero
  simp only [mantissaChars_eq, List.append_assoc, readUnsigned, whole, leading,
    readFraction_shape canonical ends, readExponent_shape canonical ends, bind, Except.bind,
    if_false]
  cases numberOf? negative shape.whole shape.fraction _ <;> rfl

/-- A number that is written in parts is read from them, whatever stands after it. -/
theorem readValueWith_shape (canonical : shape.Canonical) {fuel depth : Nat} {input : List Char}
    (written : skipBlank input = shape.chars 'e' ++ rest) (ends : Ends rest) :
    readValueWith (fuel + 1) depth input =
      match numberOf? shape.negative shape.whole shape.fraction
        (shape.exponent.map fun _ => shape.power) with
      | some value => .ok (.number value, rest)
      | none => .error .malformed := by
  have read := readUnsigned_shape canonical ends shape.negative
  rw [NumberShape.chars, List.append_assoc] at written
  unfold readValueWith
  cases negative : shape.negative with
  | true =>
      simp only [negative, if_true, List.singleton_append] at written read
      simp only [written, read]
      cases numberOf? true shape.whole shape.fraction _ <;> rfl
  | false =>
      obtain ⟨first, others, whole⟩ := List.exists_cons_of_ne_nil canonical.whole
      have among : first ∈ shape.whole := whole ▸ List.mem_cons_self
      have digit := List.all_eq_true.mp canonical.grammatical.whole first among
      have body : ∃ more, shape.mantissaChars ++ shape.exponentChars 'e' ++ rest =
          first :: more := by
        simp only [mantissaChars_eq, whole, List.cons_append]
        exact ⟨_, rfl⟩
      obtain ⟨more, body⟩ := body
      simp only [negative, Bool.false_eq_true, if_false, List.nil_append] at written read
      rw [body] at written read
      rw [written]
      have other {c : Char} (noDigit : c.isDigit = false) : first ≠ c :=
        NumberShape.ne_of_isDigits canonical.grammatical.whole among noDigit
      split
      case h_8 =>
        simp only [List.head?_cons, Option.map_some, Option.getD_some, digit, if_true, read]
        cases numberOf? false shape.whole shape.fraction _ <;> rfl
      all_goals next same => exact absurd (List.cons.inj same).1 (other rfl)

end Json

namespace Number

/-- The number that is made of the parts of the text. -/
def readBack? (number : Number) : Option Number :=
  Json.numberOf? number.shape.negative number.shape.whole number.shape.fraction
    (number.shape.exponent.map fun _ => number.shape.power)

/-- The text of the number is read as the number.  Steps that are rounded may lead beside it. -/
def Legible (number : Number) : Prop := Json.parse number.text = .ok (.number number)

instance (number : Number) : Decidable number.Legible :=
  inferInstanceAs (Decidable (Json.parse number.text = .ok (.number number)))

theorem parse_text_eq (number : Number) : Json.parse number.text =
    match number.readBack? with
    | some read => .ok (.number read)
    | none => .error .malformed := by
  obtain ⟨first, rest, text, begins⟩ := number.isNumberText.1
  have visible : Json.skipBlank number.text.toList = number.text.toList := by
    rw [text, Json.skipBlank_cons (Json.isBlank_of_beginsNumber begins)]
  have written : Json.skipBlank number.text.toList = number.shape.chars 'e' ++ [] := by
    rw [visible, text_eq_shape, List.append_nil]
  unfold Json.parse Json.parseRaw Json.readValue
  rw [Json.readValueWith_shape number.canonical_shape written nofun, readBack?]
  cases Json.numberOf? number.shape.negative number.shape.whole number.shape.fraction
      (number.shape.exponent.map fun _ => number.shape.power) <;>
    rfl

theorem legible_iff {number : Number} : number.Legible ↔ number.readBack? = some number := by
  rw [Legible, parse_text_eq]
  cases number.readBack? <;> simp

/-- The text of a number that is legible is read as the number, whatever stands after it. -/
theorem Legible.readValueWith {number : Number} (legible : number.Legible) {fuel depth : Nat}
    {input rest : List Char} (written : Json.skipBlank input = number.text.toList ++ rest)
    (ends : Json.Ends rest) :
    Json.readValueWith (fuel + 1) depth input = .ok (.number number, rest) := by
  have back := legible_iff.mp legible
  rw [readBack?] at back
  rw [text_eq_shape] at written
  rw [Json.readValueWith_shape number.canonical_shape written ends, back]

/-- Integers are legible. -/
theorem legible_of_toInt? {number : Number} {value : Int} (integer : number.toInt? = some value) :
    number.Legible := by
  rw [legible_iff, readBack?]
  cases number with
  | natural value =>
      simp [Json.numberOf?, shape, NumberShape.ofMagnitude, Json.digitsValue_toDigits,
        ofInt?_natural]
  | negative below =>
      have nonzero : below.val + 1 ≠ 0 := Nat.succ_ne_zero _
      simp only [Json.numberOf?, shape, NumberShape.ofMagnitude, Json.digitsValue_toDigits,
        Option.map_none, nonzero, and_false, if_false, if_true, ofInt?_negative]
      rfl
  | float x => cases integer

@[simp] theorem legible_natural (value : UInt64) : (natural value).Legible :=
  legible_of_toInt? rfl

theorem legible_ofInt? (value : Int) : ((ofInt? value).getD default).Legible := by
  cases made : ofInt? value with
  | none => exact legible_natural 0
  | some number => exact legible_of_toInt? (ofInt?_eq_some_iff.mp made)

end Number

namespace Json

mutual

def numbers : Json → List Number
  | .number written => [written]
  | .array items => itemNumbers items
  | .object members => memberNumbers members
  | .null | .bool _ | .string _ => []

def itemNumbers : List Json → List Number
  | [] => []
  | item :: rest => item.numbers ++ itemNumbers rest

def memberNumbers : List (String × Json) → List Number
  | [] => []
  | (_, value) :: rest => value.numbers ++ memberNumbers rest

end

/-- Every number of the value is legible. -/
def Legible (value : Json) : Prop := ∀ number ∈ value.numbers, number.Legible

instance (value : Json) : Decidable value.Legible :=
  inferInstanceAs (Decidable (∀ number ∈ value.numbers, number.Legible))

@[simp] theorem legible_null : null.Legible := by simp [Legible, numbers]

@[simp] theorem legible_string (text : String) : (string text).Legible := by
  simp [Legible, numbers]

@[simp] theorem legible_number {number : Number} :
    (Json.number number).Legible ↔ number.Legible := by
  simp [Legible, numbers]

private theorem mem_itemNumbers {items : List Json} {number : Number} :
    number ∈ itemNumbers items ↔ ∃ item ∈ items, number ∈ item.numbers := by
  induction items with
  | nil => simp [itemNumbers]
  | cons item rest ih => simp [itemNumbers, ih]

private theorem mem_memberNumbers {members : List (String × Json)} {number : Number} :
    number ∈ memberNumbers members ↔ ∃ member ∈ members, number ∈ member.2.numbers := by
  induction members with
  | nil => simp [memberNumbers]
  | cons member rest ih => simp [memberNumbers, ih]

@[simp] theorem legible_array {items : List Json} :
    (array items).Legible ↔ ∀ item ∈ items, item.Legible := by
  simp only [Legible, numbers, mem_itemNumbers]
  exact ⟨fun all item listed number inside => all number ⟨item, listed, inside⟩,
    fun all number ⟨item, listed, inside⟩ => all item listed number inside⟩

@[simp] theorem legible_object {members : List (String × Json)} :
    (object members).Legible ↔ ∀ member ∈ members, member.2.Legible := by
  simp only [Legible, numbers, mem_memberNumbers]
  exact ⟨fun all member listed number inside => all number ⟨member, listed, inside⟩,
    fun all number ⟨member, listed, inside⟩ => all member listed number inside⟩

end Json

end DocStore

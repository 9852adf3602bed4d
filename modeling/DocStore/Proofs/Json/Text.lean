import DocStore.Json.Writer
import DocStore.Proofs.Number.Text

namespace DocStore.Json

theorem skipBlank_append {blanks : List Char} (blank : blanks.all isBlank = true)
    (rest : List Char) : skipBlank (blanks ++ rest) = skipBlank rest := by
  induction blanks with
  | nil => rfl
  | cons c blanks ih =>
      simp only [List.all_cons, Bool.and_eq_true] at blank
      simpa [skipBlank, List.dropWhile_cons, blank.1] using ih blank.2

theorem skipBlank_cons {c : Char} (visible : isBlank c = false) (rest : List Char) :
    skipBlank (c :: rest) = c :: rest := by
  simp [skipBlank, visible]

private theorem hexValue?_hexDigit {digit : Nat} (below : digit < 16) :
    hexValue? (hexDigit digit) = some digit := by
  revert digit
  decide

private theorem readEscape_code {c : Char} (control : c.toNat < 0x20) (rest : List Char) :
    readEscape ('u' :: '0' :: '0' :: hexDigit (c.toNat / 16) :: hexDigit (c.toNat % 16) :: rest) =
      .ok (c, rest) := by
  have high : c.toNat / 16 < 16 := by omega
  have low : c.toNat % 16 < 16 := by omega
  have unit : c.toNat / 16 * 16 + c.toNat % 16 = c.toNat := by omega
  have zero : hexValue? '0' = some 0 := rfl
  have notLow : ¬ (0xDC00 ≤ c.toNat ∧ c.toNat ≤ 0xDFFF) := by omega
  have notHigh : ¬ (0xD800 ≤ c.toNat ∧ c.toNat ≤ 0xDBFF) := by omega
  simp [readEscape, readUnicodeEscape, readUnit, zero, hexValue?_hexDigit high,
    hexValue?_hexDigit low, bind, Except.bind, unit, notLow, notHigh, Char.ofNat_toNat]

private theorem readChars_escapeChar (c : Char) (fuel : Nat) (rest : List Char) :
    readChars (fuel + 1) (escapeChar c ++ rest) =
      (readChars fuel rest).map fun (text, rest) => (c :: text, rest) := by
  have afterwards (step : Except Fault (Parsed (List Char))) :
      (do
        let (text, rest) ← step
        .ok (c :: text, rest)) = step.map fun (text, rest) => (c :: text, rest) := by
    cases step <;> rfl
  unfold escapeChar
  -- Seven characters have an escape of their own.
  iterate 7
    split
    case isTrue same =>
      subst same
      exact afterwards _
  rename_i quote backslash _ _ _ _ _
  split
  case isTrue control =>
    simp only [List.cons_append, List.nil_append, readChars]
    rw [if_neg (by decide), if_pos trivial, readEscape_code control]
    exact afterwards _
  case isFalse printable =>
    simp only [List.cons_append, List.nil_append, readChars]
    rw [if_neg quote, if_neg backslash, if_neg printable]
    exact afterwards _

private theorem readChars_escaped (text : List Char) {fuel : Nat} (enough : text.length < fuel)
    (rest : List Char) :
    readChars fuel (text.flatMap escapeChar ++ '"' :: rest) = .ok (text, rest) := by
  induction text generalizing fuel with
  | nil =>
      cases fuel with
      | zero => cases enough
      | succ fuel => rfl
  | cons c text ih =>
      cases fuel with
      | zero => cases enough
      | succ fuel =>
          rw [List.flatMap_cons, List.append_assoc, readChars_escapeChar,
            ih (Nat.lt_of_succ_lt_succ enough)]
          rfl

theorem escapeChar_ne_nil (c : Char) : escapeChar c ≠ [] := by
  unfold escapeChar
  repeat' split
  all_goals exact nofun

private theorem length_le_escaped (text : List Char) :
    text.length ≤ (text.flatMap escapeChar).length := by
  induction text with
  | nil => exact Nat.le_refl _
  | cons c text ih =>
      have some := List.length_pos_iff.mpr (escapeChar_ne_nil c)
      simp only [List.length_cons, List.flatMap_cons, List.length_append]
      omega

theorem readString_quoted (text : String) (rest : List Char) :
    readString ((quoted text).tail ++ rest) = .ok (text, rest) := by
  have written : (quoted text).tail ++ rest = text.toList.flatMap escapeChar ++ '"' :: rest := by
    simp [quoted]
  have enough :
      text.toList.length < (text.toList.flatMap escapeChar ++ '"' :: rest).length + 1 := by
    have := length_le_escaped text.toList
    simp only [List.length_append, List.length_cons]
    omega
  rw [written, readString, readChars_escaped text.toList enough]
  simp [Except.map, String.ofList_toList]

theorem quoted_eq_cons (text : String) : quoted text = '"' :: (quoted text).tail := rfl

theorem readKey_quoted {input rest : List Char} {key : String}
    (written : skipBlank input = quoted key ++ ':' :: rest) : readKey input = .ok (key, rest) := by
  rw [quoted_eq_cons, List.cons_append] at written
  simp [readKey, written, readString_quoted, skipBlank_cons (c := ':') rfl, bind, Except.bind]

/-- Whether a character would go on with a number in front of it. -/
def continuesNumber (c : Char) : Bool := c.isDigit || c == '.' || c == 'e' || c == 'E'

/-- No number in front goes on in the text. -/
def Ends (text : List Char) : Prop := ∀ c ∈ text.head?, continuesNumber c = false

theorem Ends.cons {c : Char} (stops : continuesNumber c = false) (rest : List Char) :
    Ends (c :: rest) := by
  intro other member
  cases member
  exact stops

private theorem isBlank_ends {c : Char} (blank : isBlank c = true) : continuesNumber c = false := by
  simp only [isBlank, Bool.or_eq_true, decide_eq_true_eq] at blank
  rcases blank with ((rfl | rfl) | rfl) | rfl <;> rfl

theorem Ends.blanks {blanks rest : List Char} (blank : blanks.all isBlank = true)
    (ends : Ends rest) : Ends (blanks ++ rest) := by
  cases blanks with
  | nil => exact ends
  | cons c blanks =>
      simp only [List.all_cons, Bool.and_eq_true] at blank
      exact .cons (isBlank_ends blank.1) _

end DocStore.Json

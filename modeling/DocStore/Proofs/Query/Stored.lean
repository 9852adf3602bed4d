import DocStore.Proofs.Query.Meaning
import DocStore.Proofs.Query.Text
/-!
Stored values can be queried for.

A rule whose literal is the text of a value is read with a literal of the same
value (`Primitive.Reads`), even where the kind of a number is lost.  So the first
value under a field is found by `=` and by `is` (`stored_value_found`).
-/

namespace DocStore

namespace Projection

/-- A path of a projection has a first value. -/
theorem exists_head?_flatten {document : Json} {path : String}
    (present : (flatten document).contains path = true) :
    ∃ value, ((flatten document).get? path).bind List.head? = some value := by
  obtain ⟨values, found⟩ := Option.isSome_iff_exists.mp present
  cases values with
  | nil => exact absurd rfl (filled_flatten document path [] found)
  | cons value rest => exact ⟨value, by rw [found]; rfl⟩

end Projection

namespace Query

/-- The text of a value stands for a literal of the same value. -/
theorem exists_denotes_literalKind (value : Primitive) :
    ∃ literal, Expr.Denotes (literalKind value) literal ∧ value.Same literal ∧
      (literal = .null ↔ value = .null) := by
  cases value with
  | null => exact ⟨.null, .null, rfl, by simp⟩
  | bool value =>
      cases value with
      | true => exact ⟨.bool true, .yes, rfl, by simp⟩
      | false => exact ⟨.bool false, .no, rfl, by simp⟩
  | number number =>
      obtain ⟨read, written, same⟩ := exists_numberWord_text number
      refine ⟨.number read, .number ?_, ?_, by simp⟩
      · simpa [Primitive.text, Primitive.literal] using written
      · rw [Primitive.Same, same]
  | string text => exact ⟨.string text, .string text, rfl, by simp⟩

namespace Rule

variable {rule : Rule} {literal : Primitive}

/-- A rule is read from its text with what the text of its literal denotes. -/
theorem exists_parse_text (field : Token.IsWord rule.field.toList)
    (denotes : Expr.Denotes (literalKind rule.literal) literal) :
    ∃ position, Expr.parse rule.text =
      .ok (.rule ⟨rule.field, rule.comparison, literal, position⟩) := by
  have scans : Token.Scans (rule.chars ++ []) _ := scans_rule rule field nofun .nil
  rw [List.append_nil] at scans
  obtain ⟨tokens, scanned, kinds⟩ := scans rule.chars.length 0 (Nat.le_refl _)
  simp only [List.map_eq_cons_iff, List.map_eq_nil_iff] at kinds
  obtain ⟨name, _, rfl, named, operator, _, rfl, compares, value, _, rfl, valued, rfl⟩ := kinds
  refine ⟨name.position, Expr.parse_eq_ok_iff.mpr ⟨_, ?_, .operand (.rule named
    (compares ▸ rule.comparison.compares) (valued ▸ denotes))⟩⟩
  simpa [Token.scan, text] using scanned

theorem not_isBlankText (field : Token.IsWord rule.field.toList) :
    Text.isBlankText rule.text = false := by
  obtain ⟨some, all⟩ := field
  obtain ⟨first, rest, whole⟩ := List.exists_cons_of_ne_nil some
  have visible := (Token.isWordChar_iff.mp (all first (whole ▸ List.mem_cons_self))).1
  simp [Text.isBlankText, text, chars, whole, visible]

end Rule

/-- Asking by `=` or by `is` for the first value under a field, or for one like it. -/
theorem Rule.holds_of_same {rule : Rule} {value : Primitive}
    (asks : rule.comparison = .equal ∨ rule.comparison = .is) (same : value.Same rule.literal)
    (null : rule.literal = .null → value = .null) : rule.Holds (some value) := by
  obtain ⟨field, comparison, literal, position⟩ := rule
  rcases asks with rfl | rfl
  · cases literal with
    | null => exact .inr (congrArg some (null rfl))
    | bool _ => exact ⟨value, rfl, same⟩
    | number _ => exact ⟨value, rfl, same⟩
    | string _ => exact ⟨value, rfl, same⟩
  · exact same

/-- A rule that asks for the first value under its field is compiled and holds of the document. -/
theorem eval_of_firstLeaf {document : Json} {rule : Rule} (field : Token.IsWord rule.field.toList)
    (asks : rule.comparison = .equal ∨ rule.comparison = .is)
    (first : document.firstLeaf rule.field = some rule.literal) :
    ∃ predicate, compile rule.text = .ok predicate ∧
      predicate.eval (.flatten document) = true := by
  obtain ⟨literal, denotes, same, null⟩ := exists_denotes_literalKind rule.literal
  obtain ⟨position, read⟩ := Rule.exists_parse_text field denotes
  have made : Predicate.ofExpr (.rule ⟨rule.field, rule.comparison, literal, position⟩) =
      .ok (.rule ⟨rule.field, .comparing rule.comparison literal⟩) := by
    rcases asks with asks | asks
    · rw [asks]
      rfl
    · rw [asks]
      rfl
  refine ⟨_, ?_, (Predicate.eval_iff_holds made document).mpr ?_⟩
  · rw [compile, Rule.not_isBlankText field, read]
    exact made
  · rw [Expr.Holds, first]
    exact Rule.holds_of_same asks same null.mp

/-- The first value under a path is found by the text of the value, if the path is a word: whatever
the value is, and whatever else the path looks like. -/
theorem stored_value_found {document : Json} {path : String}
    (present : (Projection.flatten document).contains path = true)
    (word : Token.IsWord path.toList) :
    ∃ value, ((Projection.flatten document).get? path).bind List.head? = some value ∧
      ∀ operator ∈ [" = ", " is "], ∃ predicate,
        compile (path ++ operator ++ value.text) = .ok predicate ∧
          predicate.eval (.flatten document) = true := by
  obtain ⟨value, first⟩ := Projection.exists_head?_flatten present
  refine ⟨value, first, fun operator among => ?_⟩
  rw [Projection.head?_flatten] at first
  simp only [List.mem_cons, List.not_mem_nil, or_false] at among
  rcases among with rfl | rfl
  · have written : path ++ " = " ++ value.text = Rule.text ⟨path, .equal, value, 0⟩ := by
      simp [Rule.text, Rule.chars, Comparison.symbol, Primitive.text, ← String.toList_inj]
    rw [written]
    exact eval_of_firstLeaf word (.inl rfl) first
  · have written : path ++ " is " ++ value.text = Rule.text ⟨path, .is, value, 0⟩ := by
      simp [Rule.text, Rule.chars, Comparison.symbol, Primitive.text, ← String.toList_inj]
    rw [written]
    exact eval_of_firstLeaf word (.inr rfl) first

/-- Fields that look like keywords, with the largest integer and a text full of special
characters. -/
def oddlyNamed : Json :=
  .object [("null", .array [.number (.natural 18446744073709551615), .null]),
    ("is", .object [("1", .string "a \"b\" \\ c\nü")])]

theorem oddlyNamed_found :
    (∃ predicate, compile "null = 18446744073709551615" = .ok predicate ∧
      predicate.eval (.flatten oddlyNamed) = true) ∧
    ∃ predicate, compile "is.1 is \"a \\\"b\\\" \\\\ c\nü\"" = .ok predicate ∧
      predicate.eval (.flatten oddlyNamed) = true := by
  obtain ⟨number, firstNumber, numberFound⟩ := stored_value_found
    (show (Projection.flatten oddlyNamed).contains "null" = true by decide +kernel) (by decide)
  obtain ⟨text, firstText, textFound⟩ := stored_value_found
    (show (Projection.flatten oddlyNamed).contains "is.1" = true by decide +kernel) (by decide)
  have largest : ((Projection.flatten oddlyNamed).get? "null").bind List.head? =
      some (.number (.natural 18446744073709551615)) := by decide +kernel
  have special : ((Projection.flatten oddlyNamed).get? "is.1").bind List.head? =
      some (.string "a \"b\" \\ c\nü") := by decide +kernel
  obtain rfl := Option.some.inj (firstNumber.symm.trans largest)
  obtain rfl := Option.some.inj (firstText.symm.trans special)
  exact ⟨numberFound " = " (by simp), textFound " is " (by simp)⟩

end Query

end DocStore

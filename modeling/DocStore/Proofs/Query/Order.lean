import DocStore.Proofs.Query.Meaning

namespace DocStore

namespace Primitive

variable {a b c : Primitive}

theorem Same.symm (same : a.Same b) : b.Same a := by
  cases a <;> cases b <;> simp_all [Same]

theorem Below.not_same (below : a.Below b) : ¬ a.Same b := by
  cases a <;> cases b <;> simp_all only [Below, Same]
  case bool => simpa using ne_of_lt below
  case number => exact Int.ne_of_lt below
  case string => simpa using ne_of_lt below

theorem Below.asymm (below : a.Below b) : ¬ b.Below a := by
  cases a <;> cases b <;> simp_all only [Below]
  case bool => exact lt_asymm below
  case number => exact Int.lt_asymm below
  case string => exact lt_asymm below

/-- Null is the same as null, but not up to it. -/
theorem upTo_iff (proper : a ≠ .null ∨ b ≠ .null) : a.UpTo b ↔ a.Below b ∨ a.Same b := by
  cases a <;> cases b <;> simp [UpTo, Below, Same, le_iff_lt_or_eq]
  case null.null => simp at proper

theorem comparable (typed : a.typeName = b.typeName) (proper : b ≠ .null) :
    a.Below b ∨ a.Same b ∨ b.Below a := by
  cases a <;> cases b <;> simp [typeName] at typed
  case null.null => exact absurd rfl proper
  case bool.bool first second => simpa [Below, Same] using lt_trichotomy first second
  case number.number first second => exact Int.lt_trichotomy _ _
  case string.string first second =>
    simpa only [Below, Same, string.injEq] using lt_trichotomy first second

theorem Below.trans_upTo (below : a.Below b) (upTo : b.UpTo c) : a.Below c := by
  cases a <;> cases b <;> cases c <;> simp_all only [Below, UpTo]
  case bool => exact lt_of_lt_of_le below upTo
  case number => exact Int.lt_of_lt_of_le below upTo
  case string => exact lt_of_lt_of_le below upTo

theorem UpTo.trans (first : a.UpTo b) (second : b.UpTo c) : a.UpTo c := by
  cases a <;> cases b <;> cases c <;> simp_all only [UpTo]
  case bool => exact le_trans first second
  case number => exact Int.le_trans first second
  case string => exact le_trans first second

theorem UpTo.ne_null (upTo : a.UpTo b) : b ≠ .null := by
  rintro rfl
  cases a <;> exact upTo

end Primitive

/-- The first value under a field; a field whose list of values is empty is as good as missing. -/
def Projection.first? (fields : Projection) (field : String) : Option Primitive :=
  (fields.get? field).bind List.head?

theorem Projection.contains_iff_first? {fields : Projection} {field : String}
    (filled : fields.get? field ≠ some []) :
    fields.contains field = true ↔ ∃ value, fields.first? field = some value := by
  unfold SortedMap.contains first?
  cases found : fields.get? field with
  | none => simp
  | some values =>
      cases values with
      | nil => exact absurd found filled
      | cons value rest => simp

namespace Query

namespace Rule

variable {rule : Rule} {fields : Projection} {leaf : Option Primitive} {value : Primitive}

/-- The rule with another comparison. -/
def asking (rule : Rule) (comparison : Comparison) : Rule := { rule with comparison }

/-- The rule with another literal. -/
def against (rule : Rule) (literal : Primitive) : Rule := { rule with literal }

/-- The rule is compiled and holds of the fields. -/
def Accepts (rule : Rule) (fields : Projection) : Prop :=
  ∃ made, rule.compile = .ok made ∧ made.eval fields = true

theorem exists_compile (noPattern : rule.comparison ≠ .pattern) (noGlob : rule.comparison ≠ .like)
    (proper : rule.literal ≠ .null) : ∃ made, rule.compile = .ok made := by
  have orders : (rule.comparison.isOrdering && rule.literal.isNull) = false := by
    cases literal : rule.literal <;> simp_all [Primitive.isNull]
  unfold compile compileTest
  split
  case h_1 pattern => exact absurd pattern noPattern
  case h_2 glob => exact absurd glob noGlob
  case h_3 =>
    rw [if_neg (by simp [orders])]
    exact ⟨_, rfl⟩

/-- A rule that compiles holds of fields as it holds of the first value under its own. -/
theorem accepts_iff_holds (compiles : ∃ made, rule.compile = .ok made) :
    rule.Accepts fields ↔ rule.Holds (fields.first? rule.field) := by
  obtain ⟨made, compiled⟩ := compiles
  obtain ⟨tested, field⟩ := exists_test compiled
  rw [← eval_iff_holds tested, ← field]
  constructor
  · rintro ⟨other, again, holds⟩
    cases compiled.symm.trans again
    exact holds
  · exact fun holds => ⟨made, compiled, holds⟩

section Leaf

variable (proper : rule.literal ≠ .null)

include proper

theorem holds_equal_iff :
    (rule.asking .equal).Holds leaf ↔ ∃ value ∈ leaf, value.Same rule.literal := by
  cases literal : rule.literal with
  | null => exact absurd literal proper
  | _ => simp only [Holds, asking, literal]

theorem holds_notEqual_iff :
    (rule.asking .notEqual).Holds leaf ↔ ∃ value ∈ leaf, ¬ value.Same rule.literal := by
  cases literal : rule.literal with
  | null => exact absurd literal proper
  | _ => simp only [Holds, asking, literal]

theorem holds_lessEqual_iff : (rule.asking .lessEqual).Holds leaf ↔
    (rule.asking .less).Holds leaf ∨ (rule.asking .equal).Holds leaf := by
  rw [holds_equal_iff proper]
  cases leaf with
  | none => simp [Holds, asking]
  | some value => simpa [Holds, asking] using Primitive.upTo_iff (.inr proper)

theorem holds_greaterEqual_iff : (rule.asking .greaterEqual).Holds leaf ↔
    (rule.asking .greater).Holds leaf ∨ (rule.asking .equal).Holds leaf := by
  rw [holds_equal_iff proper]
  cases leaf with
  | none => simp [Holds, asking]
  | some value =>
      have same : value.Same rule.literal ↔ rule.literal.Same value := ⟨.symm, .symm⟩
      simpa [Holds, asking, same] using Primitive.upTo_iff (.inl proper)

/-- No two of the three hold. -/
theorem holds_at_most_one :
    ¬ ((rule.asking .less).Holds leaf ∧ (rule.asking .equal).Holds leaf) ∧
      ¬ ((rule.asking .greater).Holds leaf ∧ (rule.asking .equal).Holds leaf) ∧
      ¬ ((rule.asking .less).Holds leaf ∧ (rule.asking .greater).Holds leaf) := by
  rw [holds_equal_iff proper]
  cases leaf with
  | none => simp [Holds, asking]
  | some value =>
      simp only [Holds, asking, Option.mem_some_iff, exists_eq_left']
      exact ⟨fun both => both.1.not_same both.2, fun both => both.1.not_same both.2.symm,
        fun both => both.1.asymm both.2⟩

theorem holds_some_of_typed (typed : value.typeName = rule.literal.typeName) :
    (rule.asking .less).Holds (some value) ∨ (rule.asking .equal).Holds (some value) ∨
      (rule.asking .greater).Holds (some value) := by
  rw [holds_equal_iff proper]
  simpa [Holds, asking] using Primitive.comparable typed proper

end Leaf

theorem Holds.less_mono {literal : Primitive} (upTo : rule.literal.UpTo literal)
    (less : (rule.asking .less).Holds leaf) : ((rule.against literal).asking .less).Holds leaf := by
  obtain ⟨value, first, below⟩ := less
  exact ⟨value, first, below.trans_upTo upTo⟩

theorem Holds.lessEqual_mono {literal : Primitive} (upTo : rule.literal.UpTo literal)
    (lessEqual : (rule.asking .lessEqual).Holds leaf) :
    ((rule.against literal).asking .lessEqual).Holds leaf := by
  obtain ⟨value, first, below⟩ := lessEqual
  exact ⟨value, first, below.trans upTo⟩

end Rule

/-- The comparisons of a field with a literal that is not null are all compiled, whatever the fields
and wherever the rule stands, and fit together.  A field is there when it has a first value; under a
field of a document there always is one (`Projection.filled_flatten`). -/
theorem comparisons_fit {rule : Rule} (proper : rule.literal ≠ .null) (fields : Projection) :
    (∀ comparison, comparison ≠ .pattern → comparison ≠ .like →
      ∃ made, (rule.asking comparison).compile = .ok made) ∧
    ((rule.asking .lessEqual).Accepts fields ↔
      (rule.asking .less).Accepts fields ∨ (rule.asking .equal).Accepts fields) ∧
    ((rule.asking .greaterEqual).Accepts fields ↔
      (rule.asking .greater).Accepts fields ∨ (rule.asking .equal).Accepts fields) ∧
    (¬ ((rule.asking .less).Accepts fields ∧ (rule.asking .equal).Accepts fields) ∧
      ¬ ((rule.asking .greater).Accepts fields ∧ (rule.asking .equal).Accepts fields) ∧
      ¬ ((rule.asking .less).Accepts fields ∧ (rule.asking .greater).Accepts fields)) ∧
    (∀ value, fields.first? rule.field = some value →
      value.typeName = rule.literal.typeName →
        (rule.asking .less).Accepts fields ∨ (rule.asking .equal).Accepts fields ∨
          (rule.asking .greater).Accepts fields) ∧
    ((rule.asking .isNot).Accepts fields ↔ ¬ (rule.asking .is).Accepts fields) ∧
    (∀ value, fields.first? rule.field = some value →
      ((rule.asking .notEqual).Accepts fields ↔ ¬ (rule.asking .equal).Accepts fields)) ∧
    (fields.first? rule.field = none →
      ¬ (rule.asking .notEqual).Accepts fields ∧ ¬ (rule.asking .equal).Accepts fields) ∧
    (fields.get? rule.field ≠ some [] →
      (fields.contains rule.field = true ↔ ∃ value, fields.first? rule.field = some value)) ∧
    ∀ literal, rule.literal.UpTo literal →
      ((rule.asking .less).Accepts fields →
        ((rule.against literal).asking .less).Accepts fields) ∧
      ((rule.asking .lessEqual).Accepts fields →
        ((rule.against literal).asking .lessEqual).Accepts fields) := by
  have compiles (rule : Rule) (proper : rule.literal ≠ .null) (comparison : Comparison)
      (noPattern : comparison ≠ .pattern) (noGlob : comparison ≠ .like) :
      ∃ made, (rule.asking comparison).compile = .ok made :=
    Rule.exists_compile noPattern noGlob proper
  have means (rule : Rule) (proper : rule.literal ≠ .null) (comparison : Comparison)
      (noPattern : comparison ≠ .pattern) (noGlob : comparison ≠ .like) :
      (rule.asking comparison).Accepts fields ↔
        (rule.asking comparison).Holds (fields.first? rule.field) :=
    Rule.accepts_iff_holds (compiles rule proper comparison noPattern noGlob)
  have less := means rule proper .less nofun nofun
  have lessEqual := means rule proper .lessEqual nofun nofun
  have greater := means rule proper .greater nofun nofun
  have equal := means rule proper .equal nofun nofun
  have notEqual := means rule proper .notEqual nofun nofun
  simp only [less, lessEqual, greater, equal, notEqual,
    means rule proper .greaterEqual nofun nofun, means rule proper .is nofun nofun,
    means rule proper .isNot nofun nofun]
  refine ⟨compiles rule proper, Rule.holds_lessEqual_iff proper, Rule.holds_greaterEqual_iff proper,
    Rule.holds_at_most_one proper, ?_, Iff.rfl, ?_, ?_, Projection.contains_iff_first?, ?_⟩
  · rintro value first typed
    rw [first]
    exact Rule.holds_some_of_typed proper typed
  · rintro value first
    rw [first, Rule.holds_notEqual_iff proper, Rule.holds_equal_iff proper]
    simp
  · intro missing
    rw [missing, Rule.holds_notEqual_iff proper, Rule.holds_equal_iff proper]
    simp
  · intro literal upTo
    rw [means (rule.against literal) upTo.ne_null .less nofun nofun,
      means (rule.against literal) upTo.ne_null .lessEqual nofun nofun]
    exact ⟨.less_mono upTo, .lessEqual_mono upTo⟩

/-- The first value is 9007199254740992.0, the number nearest to 9007199254740993. -/
def nearlyEqual : Projection :=
  .flatten (.object [("size", .array
    [.number (.float ⟨false, ⟨4845873199050653696, by decide⟩⟩), .string "large"])])

/-- Compares the size with 9007199254740993. -/
def sizeRule : Rule := ⟨"size", .less, .number (.natural 9007199254740993), 2⟩

theorem nearlyEqual_comparisons_fit :
    sizeRule.literal ≠ .null ∧ (sizeRule.asking .equal).Accepts nearlyEqual ∧
      (sizeRule.asking .lessEqual).Accepts nearlyEqual ∧
      (sizeRule.asking .greaterEqual).Accepts nearlyEqual ∧
      ¬ (sizeRule.asking .less).Accepts nearlyEqual ∧
      ¬ (sizeRule.asking .greater).Accepts nearlyEqual ∧
      ¬ (sizeRule.asking .notEqual).Accepts nearlyEqual ∧
      ((sizeRule.against (.number (.natural 9007199254740992))).asking .lessEqual).Accepts
        nearlyEqual := by
  have proper : sizeRule.literal ≠ .null := nofun
  have first : nearlyEqual.first? sizeRule.field =
      some (.number (.float ⟨false, ⟨4845873199050653696, by decide⟩⟩)) := by
    decide +kernel
  have upTo : sizeRule.literal.UpTo (.number (.natural 9007199254740992)) :=
    (Primitive.compare?_le_iff _ _).mp (.inr (by decide +kernel))
  have equal : (sizeRule.asking .equal).Accepts nearlyEqual := ⟨_, rfl, by decide +kernel⟩
  obtain ⟨-, lessEqual, greaterEqual, ⟨notLess, notGreater, -⟩, -, -, notEqual, -, -, against⟩ :=
    comparisons_fit proper nearlyEqual
  have below := lessEqual.mpr (.inr equal)
  exact ⟨proper, equal, below, greaterEqual.mpr (.inr equal), fun less => notLess ⟨less, equal⟩,
    fun greater => notGreater ⟨greater, equal⟩,
    fun other => (notEqual _ first).mp other equal, (against _ upTo).2 below⟩

end Query

end DocStore

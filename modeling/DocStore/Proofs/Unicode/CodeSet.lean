import DocStore.Unicode.CaseFolding

namespace DocStore.Unicode

namespace CodeSet

/-- Some of the ranges has the code point. -/
def Covers (ranges : List (Nat × Nat)) (code : Nat) : Prop :=
  ∃ range ∈ ranges, range.1 ≤ code ∧ code ≤ range.2

/-- The ranges are listed by their first code points. -/
def Ascends (ranges : List (Nat × Nat)) : Prop :=
  ranges.Pairwise fun a b => a.1 ≤ b.1

variable {code : Nat} {ranges rest : List (Nat × Nat)} {current next : Nat × Nat}

@[simp] theorem not_covers_nil : ¬ Covers [] code := by simp [Covers]

@[simp] theorem covers_cons :
    Covers (current :: rest) code ↔
      (current.1 ≤ code ∧ code ≤ current.2) ∨ Covers rest code := by
  simp [Covers]

theorem covers_append {first second : List (Nat × Nat)} :
    Covers (first ++ second) code ↔ Covers first code ∨ Covers second code := by
  simp only [Covers, List.mem_append, or_and_right, exists_or]

theorem covers_codes {codes : List Nat} :
    Covers (codes.map fun member => (member, member)) code ↔ code ∈ codes := by
  constructor
  · rintro ⟨range, listed, lower, upper⟩
    obtain ⟨member, present, rfl⟩ := List.mem_map.mp listed
    rwa [Nat.le_antisymm upper lower]
  · exact fun present =>
      ⟨(code, code), List.mem_map_of_mem present, Nat.le_refl _, Nat.le_refl _⟩

private theorem contains_go_iff (ascends : Ascends ranges) :
    contains.go code ranges = true ↔ Covers ranges code := by
  induction ranges with
  | nil => simp [contains.go]
  | cons first rest ih =>
      obtain ⟨above, tail⟩ := List.pairwise_cons.mp ascends
      by_cases early : code < first.1
      · have missed : ¬ Covers rest code := by
          rintro ⟨range, member, lower, -⟩
          have := above range member
          omega
        simp [contains.go, early, missed, Nat.not_le.mpr early]
      · simp [contains.go, early, ih tail, Nat.not_lt.mp early]

theorem contains_iff {set : CodeSet} (ascends : Ascends set.ranges) :
    set.contains code = true ↔ Covers set.ranges code :=
  contains_go_iff ascends

private theorem Ascends.widen {last : Nat} (ascends : Ascends (current :: next :: rest)) :
    Ascends ((current.1, last) :: rest) := by
  obtain ⟨above, tail⟩ := List.pairwise_cons.mp ascends
  exact List.pairwise_cons.mpr
    ⟨fun range later => above range (List.mem_cons_of_mem _ later), tail.tail⟩

private theorem le_of_mem_joinRanges_go {range : Nat × Nat} (ascends : Ascends (current :: rest))
    (member : range ∈ joinRanges.go current rest) : current.1 ≤ range.1 := by
  induction rest generalizing current with
  | nil => exact Nat.le_of_eq (congrArg Prod.fst (List.mem_singleton.mp member).symm)
  | cons next rest ih =>
      have start := (List.pairwise_cons.mp ascends).1 next List.mem_cons_self
      unfold joinRanges.go at member
      split at member
      · have bounded := ih ascends.widen member
        exact bounded
      · rcases List.mem_cons.mp member with rfl | later
        · exact Nat.le_refl _
        · exact Nat.le_trans start (ih ascends.tail later)

private theorem ascends_joinRanges_go (ascends : Ascends (current :: rest)) :
    Ascends (joinRanges.go current rest) := by
  induction rest generalizing current with
  | nil => exact List.pairwise_singleton _ _
  | cons next rest ih =>
      have start := (List.pairwise_cons.mp ascends).1 next List.mem_cons_self
      unfold joinRanges.go
      split
      · exact ih ascends.widen
      · refine List.pairwise_cons.mpr ⟨fun range member => ?_, ih ascends.tail⟩
        exact Nat.le_trans start (le_of_mem_joinRanges_go ascends.tail member)

private theorem covers_joinRanges_go (ascends : Ascends (current :: rest)) :
    Covers (joinRanges.go current rest) code ↔ Covers (current :: rest) code := by
  induction rest generalizing current with
  | nil => exact Iff.rfl
  | cons next rest ih =>
      have start := (List.pairwise_cons.mp ascends).1 next List.mem_cons_self
      unfold joinRanges.go
      split
      case isTrue touches =>
        rw [ih ascends.widen, covers_cons, covers_cons, covers_cons, ← or_assoc]
        exact or_congr_left (by grind)
      case isFalse => simp only [covers_cons, ih ascends.tail]

/-- Joined ranges ascend and cover what the ranges did. -/
private theorem joinRanges_spec (ascends : Ascends ranges) :
    Ascends (joinRanges ranges) ∧
      ∀ code, Covers (joinRanges ranges) code ↔ Covers ranges code := by
  cases ranges with
  | nil => exact ⟨ascends, fun _ => Iff.rfl⟩
  | cons first rest =>
      exact ⟨ascends_joinRanges_go ascends, fun _ => covers_joinRanges_go ascends⟩

private theorem sorted (ranges : List (Nat × Nat)) :
    Ascends (ranges.mergeSort fun a b => a.1 ≤ b.1) := by
  refine (List.pairwise_mergeSort ?transitive ?total ranges).imp fun order => by simpa using order
  case transitive => grind
  case total => grind

theorem ascends_ofRanges : Ascends (ofRanges ranges).ranges :=
  (joinRanges_spec (sorted ranges)).1

theorem contains_ofRanges : (ofRanges ranges).contains code = true ↔ Covers ranges code :=
  calc (ofRanges ranges).contains code = true
      ↔ Covers (joinRanges (ranges.mergeSort fun a b => a.1 ≤ b.1)) code :=
        contains_iff ascends_ofRanges
    _ ↔ Covers (ranges.mergeSort fun a b => a.1 ≤ b.1) code :=
        (joinRanges_spec (sorted ranges)).2 code
    _ ↔ Covers ranges code := by simp only [Covers, List.mem_mergeSort]

theorem ascends_ofCodes {codes : List Nat} : Ascends (ofCodes codes).ranges :=
  ascends_ofRanges

theorem contains_ofCodes {codes : List Nat} :
    (ofCodes codes).contains code = true ↔ code ∈ codes :=
  contains_ofRanges.trans covers_codes

theorem contains_union {a b : CodeSet} (ascendsLeft : Ascends a.ranges)
    (ascendsRight : Ascends b.ranges) :
    (a.union b).contains code = true ↔ a.contains code = true ∨ b.contains code = true := by
  rw [union, contains_ofRanges, covers_append, contains_iff ascendsLeft, contains_iff ascendsRight]

theorem ascends_single {member : Nat} : Ascends (single member).ranges :=
  List.pairwise_singleton _ _

theorem contains_single {member : Nat} :
    (single member).contains code = true ↔ code = member := by
  rw [contains_iff ascends_single, single, covers_cons]
  simp only [not_covers_nil, or_false]
  omega

/-- Every character is a member of the set of all code points. -/
theorem contains_all (c : Char) : all.contains c.toNat = true := by
  have valid : c.toNat < 0xD800 ∨ 0xDFFF < c.toNat ∧ c.toNat < 0x110000 := c.valid
  have listed : all.ranges = [(0, 0xD7FF), (0xE000, 0x10FFFF)] := rfl
  rw [contains_iff (by rw [listed]; simp [Ascends]), listed]
  simp only [covers_cons, not_covers_nil, or_false]
  omega

end CodeSet

namespace CaseFolding

open CodeSet

/-- Two characters are equal up to case: they fold to the same character. -/
def Same (a b : Char) : Prop :=
  a = b ∨ ∃ cls ∈ classes, a.toNat ∈ cls ∧ b.toNat ∈ cls

theorem contains_variants_single {c d : Char} :
    (variants (CodeSet.single c.toNat)).contains d.toNat = true ↔ Same c d := by
  have touched (cls : List Nat) :
      cls.any (CodeSet.single c.toNat).contains = true ↔ c.toNat ∈ cls := by
    simp only [List.any_eq_true, contains_single, exists_eq_right]
  rw [variants, contains_union ascends_single ascends_ofCodes, contains_single, contains_ofCodes]
  refine or_congr ?_ ?_
  · exact eq_comm.trans Char.toNat_inj
  · simp only [List.mem_flatten, List.mem_filter, touched, and_assoc]

end CaseFolding

end DocStore.Unicode

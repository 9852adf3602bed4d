import DocStore.Proofs.FieldCounts
import Mathlib.Algebra.BigOperators.Group.List.Basic
import Mathlib.Algebra.Ring.Int.Defs
/-!
Deltas add up.

Merging drops a path when its count falls to nothing, and the path may come back
with the next delta.  As long as no count falls below zero or grows past the
signed range on the way, nothing is forgotten: the counts are the sums
(`FieldCounts.get?_foldl_apply`), in whatever order the deltas come
(`FieldCounts.merging_adds`).
-/

namespace DocStore

namespace FieldCounts

variable {counts : FieldCounts} {delta : FieldDelta} {deltas other : List FieldDelta}
  {path : String}

/-- The count of a path; one that is not listed has none. -/
def countAt (counts : FieldCounts) (path : String) : Nat :=
  ((counts.get? path).map UInt64.toNat).getD 0

/-- The count of a path and all changes of it, added up as integers. -/
def totalAt (counts : FieldCounts) (deltas : List FieldDelta) (path : String) : Int :=
  counts.countAt path + (deltas.map fun delta => (delta.changeAt path).toInt).sum

/-- Every listed path is counted. -/
def Positive (counts : FieldCounts) : Prop :=
  ∀ path count, counts.get? path = some count → 0 < count

/-- After each of the deltas every count is a natural number of the signed range. -/
def InRange (counts : FieldCounts) (deltas : List FieldDelta) : Prop :=
  ∀ path, ∀ n < deltas.length,
    0 ≤ counts.totalAt (deltas.take (n + 1)) path ∧
      counts.totalAt (deltas.take (n + 1)) path ≤ 2 ^ 63 - 1

theorem positive_iff : counts.Positive ↔ ∀ entry ∈ counts.entries, 0 < entry.2 :=
  ⟨fun positive entry member => positive entry.1 entry.2 (SortedMap.mem_entries_iff.mp member),
    fun all path count found => all (path, count) (SortedMap.mem_entries_iff.mpr found)⟩

instance (counts : FieldCounts) : Decidable counts.Positive := decidable_of_iff _ positive_iff.symm

/-- A path that is listed nowhere stays at nothing. -/
theorem totalAt_of_unlisted (uncounted : path ∉ counts.keys)
    (unchanged : ∀ delta ∈ deltas, path ∉ delta.keys) : counts.totalAt deltas path = 0 := by
  have absent {ν : Type} {map : SortedMap String ν} (missing : path ∉ map.keys) :
      map.get? path = none := by
    rwa [SortedMap.mem_keys_iff, Option.not_isSome_iff_eq_none] at missing
  have none : ∀ delta ∈ deltas, (delta.changeAt path).toInt = 0 := by
    intro delta member
    rw [FieldDelta.changeAt, absent (unchanged delta member)]
    rfl
  rw [totalAt, countAt, absent uncounted, List.map_congr_left none]
  simp

theorem inRange_iff : counts.InRange deltas ↔
    ∀ path ∈ counts.keys ++ deltas.flatMap SortedMap.keys, ∀ n < deltas.length,
      0 ≤ counts.totalAt (deltas.take (n + 1)) path ∧
        counts.totalAt (deltas.take (n + 1)) path ≤ 2 ^ 63 - 1 := by
  refine ⟨fun inRange path _ => inRange path, fun listed path n within => ?_⟩
  by_cases here : path ∈ counts.keys ++ deltas.flatMap SortedMap.keys
  · exact listed path here n within
  · simp only [List.mem_append, List.mem_flatMap, not_or, not_exists, not_and] at here
    rw [totalAt_of_unlisted here.1 fun delta member => here.2 delta (List.mem_of_mem_take member)]
    decide

instance (counts : FieldCounts) (deltas : List FieldDelta) : Decidable (counts.InRange deltas) :=
  decidable_of_iff _ inRange_iff.symm

theorem countAt_lt (counts : FieldCounts) (path : String) : counts.countAt path < 2 ^ 64 := by
  unfold countAt
  cases counts.get? path with
  | none => decide
  | some count => exact count.toNat_lt

theorem countAt_of_entry {number : Nat} (counted : counts.get? path = entry number)
    (fits : number < 2 ^ 64) : counts.countAt path = number := by
  unfold countAt
  rw [counted, entry]
  split
  case isTrue zero => exact zero.symm
  case isFalse => exact UInt64.toNat_ofNat_of_lt fits

theorem entry_eq_some_iff_of_lt {number : Nat} {count : UInt64} (fits : number < 2 ^ 64) :
    entry number = some count ↔ count.toNat = number ∧ 0 < count := by
  rw [entry_eq_some_iff]
  constructor
  · rintro ⟨some, rfl⟩
    have same : (UInt64.ofNat number).toNat = number := UInt64.toNat_ofNat_of_lt fits
    refine ⟨same, UInt64.lt_iff_toNat_lt.mpr ?_⟩
    rw [same]
    exact Nat.pos_of_ne_zero some
  · rintro ⟨rfl, positive⟩
    exact ⟨Nat.pos_iff_ne_zero.mp positive, UInt64.ofNat_toNat.symm⟩

theorem Positive.get?_eq_entry (positive : counts.Positive) (path : String) :
    counts.get? path = entry (counts.countAt path) := by
  unfold countAt
  cases found : counts.get? path with
  | none => rfl
  | some count =>
      have some : count.toNat ≠ 0 := Nat.pos_iff_ne_zero.mp (positive path count found)
      simp [entry, some]

private theorem signed_eq (counts : FieldCounts) (path : String) :
    ((counts.get? path).map UInt64.toInt64).getD 0 = Int64.ofInt (counts.countAt path) := by
  unfold countAt
  cases counts.get? path with
  | none => rfl
  | some count =>
      change count.toInt64 = Int64.ofInt count.toNat
      rw [Int64.ofInt_eq_ofNat, ← UInt64.toInt64_ofNat', UInt64.ofNat_toNat]

/-- A count that stays in range is moved by the change. -/
theorem get?_apply_of_inRange {total : Nat} (fits : total < 2 ^ 63)
    (sum : (total : Int) = counts.countAt path + (delta.changeAt path).toInt) :
    (counts.apply delta).get? path = entry total := by
  have wrapped : Int64.ofNat total =
      ((counts.get? path).map UInt64.toInt64).getD 0 + delta.changeAt path := by
    rw [signed_eq, ← Int64.ofInt_eq_ofNat, sum, Int64.ofInt_add, Int64.ofInt_toInt]
  rw [get?_apply, ← wrapped, filter_positive_eq_entry fits]

@[simp] theorem totalAt_nil : counts.totalAt [] path = counts.countAt path := by simp [totalAt]

theorem totalAt_perm (same : other.Perm deltas) (path : String) :
    counts.totalAt other path = counts.totalAt deltas path := by
  rw [totalAt, totalAt, (same.map _).sum_eq]

namespace InRange

theorem head (inRange : counts.InRange (delta :: deltas)) (path : String) :
    0 ≤ counts.totalAt [delta] path ∧ counts.totalAt [delta] path ≤ 2 ^ 63 - 1 := by
  simpa using inRange path 0 (Nat.succ_pos _)

/-- The first delta leaves the first partial sums. -/
theorem get?_apply (inRange : counts.InRange (delta :: deltas)) (path : String) :
    (counts.apply delta).get? path = entry (counts.totalAt [delta] path).toNat := by
  obtain ⟨low, high⟩ := inRange.head path
  refine get?_apply_of_inRange (by omega) ?_
  rw [Int.toNat_of_nonneg low]
  simp [totalAt]

theorem countAt_apply (inRange : counts.InRange (delta :: deltas)) (path : String) :
    ((counts.apply delta).countAt path : Int) = counts.totalAt [delta] path := by
  obtain ⟨low, high⟩ := inRange.head path
  rw [countAt_of_entry (inRange.get?_apply path) (by omega), Int.toNat_of_nonneg low]

theorem positive_apply (inRange : counts.InRange (delta :: deltas)) :
    (counts.apply delta).Positive := by
  intro path count found
  obtain ⟨low, high⟩ := inRange.head path
  rw [inRange.get?_apply, entry_eq_some_iff_of_lt (by omega)] at found
  exact found.2

theorem totalAt_apply (inRange : counts.InRange (delta :: deltas)) (more : List FieldDelta)
    (path : String) :
    (counts.apply delta).totalAt more path = counts.totalAt (delta :: more) path := by
  rw [totalAt, inRange.countAt_apply]
  simp [totalAt, Int.add_assoc]

theorem tail (inRange : counts.InRange (delta :: deltas)) :
    (counts.apply delta).InRange deltas := by
  intro path n within
  rw [inRange.totalAt_apply]
  exact inRange path (n + 1) (Nat.succ_lt_succ within)

/-- What all deltas come to is a natural number of 64 bits. -/
theorem totalAt_bounds (inRange : counts.InRange deltas) (path : String) :
    0 ≤ counts.totalAt deltas path ∧ counts.totalAt deltas path < 2 ^ 64 := by
  rcases Nat.eq_zero_or_pos deltas.length with none | some
  · have below := counts.countAt_lt path
    rw [List.length_eq_zero_iff.mp none, totalAt_nil]
    omega
  · obtain ⟨low, high⟩ := inRange path (deltas.length - 1) (by omega)
    rw [Nat.sub_add_cancel some, List.take_length] at low high
    exact ⟨low, by omega⟩

end InRange

/-- Merging deltas one after another adds them. -/
theorem get?_foldl_apply (positive : counts.Positive) (inRange : counts.InRange deltas)
    (path : String) :
    (deltas.foldl apply counts).get? path = entry (counts.totalAt deltas path).toNat := by
  induction deltas generalizing counts with
  | nil => rw [List.foldl_nil, totalAt_nil, Int.toNat_natCast, positive.get?_eq_entry]
  | cons delta deltas ih =>
      rw [List.foldl_cons, ih inRange.positive_apply inRange.tail, inRange.totalAt_apply]

theorem foldl_apply_of_perm (positive : counts.Positive) (inRange : counts.InRange deltas)
    (same : other.Perm deltas) (inRange' : counts.InRange other) :
    other.foldl apply counts = deltas.foldl apply counts := by
  refine SortedMap.ext_get? fun path => ?_
  rw [get?_foldl_apply positive inRange', get?_foldl_apply positive inRange, totalAt_perm same]

/-- A document has a path or not. -/
private theorem toInt_changeAt_between (old new : Projection) (path : String) :
    ((FieldDelta.between old new).changeAt path).toInt =
      (new.contains path).toNat - (old.contains path).toNat := by
  rw [FieldDelta.changeAt_between]
  cases old.contains path <;> cases new.contains path <;> decide

theorem totalAt_between (counts : FieldCounts) (a b : Projection) (path : String) :
    counts.totalAt [.between a b] path =
      counts.countAt path + ((b.contains path).toNat - (a.contains path).toNat) := by
  simp [totalAt, toInt_changeAt_between]

/-- What a document had in between does not count. -/
theorem totalAt_between_between (counts : FieldCounts) (a b c : Projection) (path : String) :
    counts.totalAt [.between a b, .between b c] path = counts.totalAt [.between a c] path := by
  simp only [totalAt, toInt_changeAt_between, List.map_cons, List.map_nil, List.sum_cons,
    List.sum_nil]
  omega

section Documents

variable {a : Projection} (counted : ∀ path ∈ a.keys, counts.contains path = true)
  (below : ∀ path count, counts.get? path = some count → count.toNat < 2 ^ 63 - 1)

include below in
theorem countAt_lt_of_below (path : String) : counts.countAt path < 2 ^ 63 - 1 := by
  unfold countAt
  cases found : counts.get? path with
  | none => decide
  | some count => exact below path count found

include counted in
theorem countAt_pos_of_counted (positive : counts.Positive) (path : String) :
    (a.contains path).toNat ≤ counts.countAt path := by
  cases present : a.contains path with
  | false => exact Nat.zero_le _
  | true =>
      obtain ⟨count, found⟩ :=
        Option.isSome_iff_exists.mp (counted path (SortedMap.mem_keys_iff.mpr present))
      rw [countAt, found]
      exact UInt64.lt_iff_toNat_lt.mp (positive path count found)

include counted below in
theorem totalAt_between_bounds (positive : counts.Positive) (b : Projection) (path : String) :
    0 ≤ counts.totalAt [.between a b] path ∧ counts.totalAt [.between a b] path ≤ 2 ^ 63 - 1 := by
  have room := countAt_lt_of_below below path
  have some := countAt_pos_of_counted counted positive path
  have one := Bool.toNat_le (b.contains path)
  rw [totalAt_between]
  omega

include counted below in
theorem apply_between_between (positive : counts.Positive) (b c : Projection) :
    (counts.apply (.between a b)).apply (.between b c) = counts.apply (.between a c) := by
  have bounds := totalAt_between_bounds counted below positive
  have direct : counts.InRange [.between a c] := by
    intro path n within
    obtain rfl : n = 0 := by simpa using within
    exact bounds c path
  have steps : counts.InRange [.between a b, .between b c] := by
    intro path n within
    obtain rfl | rfl : n = 0 ∨ n = 1 := by
      simp only [List.length_cons, List.length_nil] at within
      omega
    · exact bounds b path
    · exact totalAt_between_between counts a b c path ▸ bounds c path
  refine SortedMap.ext_get? fun path => ?_
  have first := get?_foldl_apply positive steps path
  rw [totalAt_between_between, ← get?_foldl_apply positive direct] at first
  exact first

end Documents

/-- Merging deltas adds them while no count leaves the signed range on the way: a path has the sum
of its count and its changes, and is listed exactly when that is not zero.  So the order of the
deltas does not matter, and a document that changes twice counts as one that changes once. -/
theorem merging_adds (positive : counts.Positive) :
    (∀ deltas, counts.InRange deltas →
      (∀ path,
        (∀ count, (deltas.foldl apply counts).get? path = some count ↔
          (count.toNat : Int) = counts.totalAt deltas path ∧ 0 < count) ∧
        ((deltas.foldl apply counts).get? path = none ↔ counts.totalAt deltas path = 0)) ∧
      ∀ other, other.Perm deltas → counts.InRange other →
        other.foldl apply counts = deltas.foldl apply counts) ∧
    ∀ a b c : Projection, (∀ path ∈ a.keys, counts.contains path = true) →
      (∀ path count, counts.get? path = some count → count.toNat < 2 ^ 63 - 1) →
      (counts.apply (.between a b)).apply (.between b c) = counts.apply (.between a c) := by
  refine ⟨fun deltas inRange => ⟨fun path => ?_, fun other same inRange' =>
    foldl_apply_of_perm positive inRange same inRange'⟩, fun a b c counted below =>
    apply_between_between counted below positive b c⟩
  obtain ⟨low, high⟩ := inRange.totalAt_bounds path
  rw [get?_foldl_apply positive inRange]
  constructor
  · intro count
    rw [entry_eq_some_iff_of_lt (by omega)]
    refine and_congr_left fun _ => ?_
    omega
  · rw [← Option.not_isSome_iff_eq_none, isSome_entry]
    omega

/-- A title that one document has. -/
def oneTitle : FieldCounts := .ofList [("title", 1)]

/-- The title goes and comes back with another document, next to a path that is all but full. -/
def retitled : List FieldDelta :=
  [.ofList [("title", -1), ("year", 9223372036854775807)], .ofList [("title", 2), ("year", -1)]]

theorem oneTitle_merging_adds :
    oneTitle.Positive ∧ oneTitle.InRange retitled ∧
      (retitled.foldl apply oneTitle).get? "title" = some 2 ∧
      (retitled.foldl apply oneTitle).get? "year" = some 9223372036854775806 ∧
      (retitled.foldl apply oneTitle).get? "author" = none ∧
      (oneTitle.apply (.between (.ofList [("title", [.null])]) ∅)).apply
          (.between ∅ (.ofList [("title", []), ("year", [.bool true])])) =
        oneTitle.apply (.between (.ofList [("title", [.null])])
          (.ofList [("title", []), ("year", [.bool true])])) := by
  have positive : oneTitle.Positive := by decide +kernel
  have inRange : oneTitle.InRange retitled := by decide +kernel
  obtain ⟨adds, changes⟩ := merging_adds positive
  obtain ⟨sums, -⟩ := adds retitled inRange
  have counted : ∀ path ∈ (SortedMap.ofList [("title", [Primitive.null])]).keys,
      oneTitle.contains path = true := by decide +kernel
  have below : ∀ path count, oneTitle.get? path = some count → count.toNat < 2 ^ 63 - 1 := by
    have all : ∀ entry ∈ oneTitle.entries, entry.2.toNat < 2 ^ 63 - 1 := by decide +kernel
    exact fun path count found => all (path, count) (SortedMap.mem_entries_iff.mpr found)
  exact ⟨positive, inRange, ((sums "title").1 2).mpr (by decide +kernel),
    ((sums "year").1 _).mpr (by decide +kernel), (sums "author").2.mpr (by decide +kernel),
    changes _ _ _ counted below⟩

end FieldCounts

end DocStore

import DocStore.Log.Writer
import DocStore.Proofs.Text.Natural

namespace DocStore

theorem Directory.isFolder_of_long {name : String} (long : 2 < name.toList.length) :
    Directory.isFolder name = false := by
  have different {other : String} (short : other.toList.length ≤ 2) : name ≠ other := by
    rintro rfl
    omega
  have empty : name ≠ "" := different (by decide)
  have itself : name ≠ "." := different (by decide)
  have above : name ≠ ".." := different (by decide)
  simp [Directory.isFolder, empty, itself, above]

namespace Log.Writer

/-- The name of the segment with a number; numbers of more than 64 bits wrap around. -/
def segmentName (number : Nat) : String := padded (number % 2 ^ 64) ++ ".wal"

private theorem padded_toList (number : Nat) :
    ∃ zeros, (padded number).toList = List.replicate zeros '0' ++ Nat.toDigits 10 number :=
  ⟨_, String.toList_ofList⟩

private theorem isDigit_of_mem_padded {number : Nat} {c : Char}
    (member : c ∈ (padded number).toList) : c.isDigit = true := by
  obtain ⟨zeros, digits⟩ := padded_toList number
  rw [digits, List.mem_append] at member
  rcases member with zero | digit
  · rw [List.eq_of_mem_replicate zero]
    rfl
  · exact Json.isDigit_of_mem_toDigits digit

private theorem dropExtensions_digits (fuel : Nat) {reversed : List Char}
    (digits : ∀ c ∈ reversed, c.isDigit = true) : dropExtensions fuel reversed = reversed := by
  cases fuel with
  | zero => rfl
  | succ fuel =>
      unfold dropExtensions
      split
      · cases digits 'l' List.mem_cons_self
      · rfl

theorem natural?_segmentName (number : Nat) :
    Text.natural? (2 ^ 64) (dropExtensions (segmentName number).toList.reverse.length
      (segmentName number).toList.reverse).reverse = some (number % 2 ^ 64) := by
  have below : number % 2 ^ 64 < 2 ^ 64 := Nat.mod_lt _ (by decide)
  have reversed : (segmentName number).toList.reverse =
      'l' :: 'a' :: 'w' :: '.' :: (padded (number % 2 ^ 64)).toList.reverse := by
    simp [segmentName]
  obtain ⟨zeros, digits⟩ := padded_toList (number % 2 ^ 64)
  rw [reversed, List.length_cons, dropExtensions, dropExtensions_digits, List.reverse_reverse,
    digits, Text.natural?_padded below]
  intro c member
  exact isDigit_of_mem_padded (List.mem_reverse.mp member)

/-- The number of a segment by its name; a name that is no number counts as 0. -/
def numberOf (name : String) : Nat :=
  (Text.natural? (2 ^ 64)
    (dropExtensions name.toList.reverse.length name.toList.reverse).reverse).getD 0

theorem numberOf_segmentName (number : Nat) : numberOf (segmentName number) = number % 2 ^ 64 := by
  rw [numberOf, natural?_segmentName, Option.getD_some]

theorem segmentName_mod_add (number more : Nat) :
    segmentName (number % 2 ^ 64 + more) = segmentName (number + more) := by
  rw [segmentName, segmentName, Nat.mod_add_mod]

theorem nextSegmentName_none : nextSegmentName none = segmentName 1 := by decide +kernel

theorem nextSegmentName_some (last : SegmentInfo) :
    nextSegmentName (some last) = segmentName (numberOf last.name + 1) := by
  unfold numberOf
  cases number : Text.natural? (2 ^ 64)
      (dropExtensions last.name.toList.reverse.length last.name.toList.reverse).reverse with
  | none =>
      rw [Option.getD_none, Nat.zero_add, ← nextSegmentName_none]
      simp only [nextSegmentName, Option.bind_some, Option.bind_none, number]
  | some number' =>
      simp only [nextSegmentName, Option.bind_some, number, Option.getD_some, segmentName]

theorem nextSegmentName_segmentName {number : Nat} {last : SegmentInfo}
    (named : last.name = segmentName number) :
    nextSegmentName (some last) = segmentName (number + 1) := by
  rw [nextSegmentName_some, named, numberOf_segmentName, segmentName_mod_add]

theorem mod_eq_of_segmentName_eq {a b : Nat} (same : segmentName a = segmentName b) :
    a % 2 ^ 64 = b % 2 ^ 64 := by
  rw [← numberOf_segmentName a, same, numberOf_segmentName]

/-- Names of different numbers from 1 to 2^64 are different. -/
theorem segmentName_inj {a b : Nat} (aPositive : 0 < a) (aBound : a ≤ 2 ^ 64) (bPositive : 0 < b)
    (bBound : b ≤ 2 ^ 64) (same : segmentName a = segmentName b) : a = b := by
  have remainder := mod_eq_of_segmentName_eq same
  omega

private theorem segmentName_long (number : Nat) : 2 < (segmentName number).toList.length := by
  simp only [segmentName, String.toList_append, List.length_append]
  exact Nat.lt_of_lt_of_le (by decide : 2 < ".wal".toList.length) (Nat.le_add_left _ _)

theorem isFolder_segmentName (number : Nat) :
    Directory.isFolder (segmentName number) = false :=
  Directory.isFolder_of_long (segmentName_long number)

theorem contains_segmentName (number : Nat) :
    (segmentName number).toList.contains '/' = false := by
  rw [← Bool.not_eq_true, List.contains_iff_mem, segmentName, String.toList_append]
  intro member
  rcases List.mem_append.mp member with digit | extension
  · cases isDigit_of_mem_padded digit
  · revert extension
    decide

theorem isEmpty_segmentName (number : Nat) : (segmentName number).isEmpty = false := by
  have long := segmentName_long number
  cases empty : (segmentName number).isEmpty with
  | false => rfl
  | true =>
      rw [String.isEmpty_iff.mp empty] at long
      cases long

end Log.Writer

end DocStore

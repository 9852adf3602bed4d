import DocStore.Number
import Mathlib.Order.Monotone.Basic

namespace DocStore.Binary64

theorem ofEncoding?_eq_some_iff {negative : Bool} {encoding : Nat} {x : Binary64} :
    ofEncoding? negative encoding = some x ↔
      x.negative = negative ∧ x.magnitude.val = encoding := by
  unfold ofEncoding?
  split
  · next finite =>
    rw [Option.some.injEq]
    constructor
    · rintro rfl
      exact ⟨rfl, rfl⟩
    · rintro ⟨rfl, rfl⟩
      rfl
  · next infinite =>
    refine ⟨nofun, ?_⟩
    rintro ⟨-, rfl⟩
    exact absurd x.magnitude.isLt infinite

/-- The value of a number in units of 2^-1074. -/
def units (x : Binary64) : Int :=
  if x.negative then -(unitsOf x.magnitude.val : Int) else unitsOf x.magnitude.val

private theorem unitsOf_lt_succ (encoding : Nat) : unitsOf encoding < unitsOf (encoding + 1) := by
  have parts := Nat.div_add_mod encoding (2 ^ 52)
  have fractionBound := Nat.mod_lt encoding (show 0 < 2 ^ 52 by decide)
  have scale : 0 < 2 ^ (encoding / 2 ^ 52 - 1) := Nat.pow_pos (by decide)
  unfold unitsOf
  rcases Nat.lt_or_ge (encoding % 2 ^ 52 + 1) (2 ^ 52) with inside | carry
  · -- The fraction grows within its field.
    have field : (encoding + 1) / 2 ^ 52 = encoding / 2 ^ 52 := by omega
    have fraction : (encoding + 1) % 2 ^ 52 = encoding % 2 ^ 52 + 1 := by omega
    simp only [field, fraction]
    split
    · omega
    · exact Nat.mul_lt_mul_of_pos_right (by omega) scale
  · -- The fraction is full: the next encoding begins the next field.
    have field : (encoding + 1) / 2 ^ 52 = encoding / 2 ^ 52 + 1 := by omega
    have fraction : (encoding + 1) % 2 ^ 52 = 0 := by omega
    simp only [field, fraction]
    rw [if_neg (Nat.succ_ne_zero _), Nat.add_sub_cancel, Nat.add_zero]
    split
    case isTrue small => simp only [small]; omega
    case isFalse normal =>
      have doubled : 2 ^ (encoding / 2 ^ 52) = 2 * 2 ^ (encoding / 2 ^ 52 - 1) := by
        rw [← Nat.pow_succ', Nat.succ_eq_add_one,
          Nat.sub_add_cancel (Nat.pos_of_ne_zero normal)]
      rw [doubled, ← Nat.mul_assoc]
      exact Nat.mul_lt_mul_of_pos_right (by omega) scale

theorem unitsOf_strictMono : StrictMono unitsOf := strictMono_nat_of_lt_succ unitsOf_lt_succ

private theorem unitsOf_zero : unitsOf 0 = 0 := rfl

/-- Numbers are ranked by their values. -/
theorem rank_lt_rank_iff (x y : Binary64) : x.rank < y.rank ↔ x.units < y.units := by
  have below := unitsOf_strictMono.lt_iff_lt (a := x.magnitude.val) (b := y.magnitude.val)
  have above := unitsOf_strictMono.lt_iff_lt (a := y.magnitude.val) (b := x.magnitude.val)
  have positive (encoding : Nat) : 0 < encoding ↔ 0 < unitsOf encoding := by
    rw [← unitsOf_strictMono.lt_iff_lt (a := 0), unitsOf_zero]
  have left := positive x.magnitude.val
  have right := positive y.magnitude.val
  unfold rank units
  cases x.negative <;> cases y.negative <;> simp only [if_true, Bool.false_eq_true, if_false] <;>
    omega

theorem rank_eq_rank_iff (x y : Binary64) : x.rank = y.rank ↔ x.units = y.units := by
  have below := rank_lt_rank_iff x y
  have above := rank_lt_rank_iff y x
  omega

theorem sameValue_iff (x y : Binary64) : x.sameValue y = true ↔ x.units = y.units := by
  rw [sameValue, beq_iff_eq, rank_eq_rank_iff]

end DocStore.Binary64

import DocStore.Codec.Bytes
import Mathlib.Tactic.Ring

namespace DocStore.Bytes

@[simp] theorem length_ofNat (count value : Nat) : (ofNat count value).length = count := by
  induction count with
  | zero => rfl
  | succ count ih => simp [ofNat, ih]

private theorem foldl_toNat (bytes : Bytes) (start : Nat) :
    bytes.foldl (fun value byte => 256 * value + byte.toNat) start =
      256 ^ bytes.length * start + toNat bytes := by
  induction bytes generalizing start with
  | nil => simp [toNat]
  | cons byte rest ih =>
      simp only [List.foldl_cons, List.length_cons, toNat, ih (256 * start + byte.toNat),
        ih (256 * 0 + byte.toNat)]
      ring_nf

theorem toNat_cons (byte : UInt8) (rest : Bytes) :
    toNat (byte :: rest) = 256 ^ rest.length * byte.toNat + toNat rest := by
  simp [toNat, foldl_toNat rest byte.toNat]

/-- Bytes of a number give back as much of it as they hold. -/
theorem toNat_ofNat (count value : Nat) : toNat (ofNat count value) = value % 256 ^ count := by
  induction count with
  | zero => simp [ofNat, toNat, Nat.mod_one]
  | succ count ih =>
      have digit : (UInt8.ofNat (value / 256 ^ count)).toNat = value / 256 ^ count % 256 :=
        UInt8.toNat_ofNat'
      rw [ofNat, toNat_cons, length_ofNat, ih, digit, Nat.pow_succ, Nat.mod_mul, Nat.add_comm]

theorem toNat_ofNat_of_lt {count value : Nat} (fits : value < 256 ^ count) :
    toNat (ofNat count value) = value := by
  rw [toNat_ofNat, Nat.mod_eq_of_lt fits]

theorem toNat_lt (bytes : Bytes) : toNat bytes < 256 ^ bytes.length := by
  induction bytes with
  | nil => exact Nat.one_pos
  | cons byte rest ih =>
      have digit : byte.toNat + 1 ≤ 256 := byte.toNat_lt
      calc
        toNat (byte :: rest) = 256 ^ rest.length * byte.toNat + toNat rest := toNat_cons byte rest
        _ < 256 ^ rest.length * (byte.toNat + 1) := by rw [Nat.mul_succ]; omega
        _ ≤ 256 ^ (rest.length + 1) := Nat.mul_le_mul_left _ digit

/-- Of so many bytes a number is made in one way. -/
theorem toNat_inj {a b : Bytes} (length : a.length = b.length) (same : toNat a = toNat b) :
    a = b := by
  induction a generalizing b with
  | nil => exact (List.length_eq_zero_iff.mp length.symm).symm
  | cons x first ih =>
      cases b with
      | nil => cases length
      | cons y second =>
          have length' : first.length = second.length := Nat.succ.inj length
          have firstBelow := toNat_lt first
          have secondBelow := toNat_lt second
          rw [← length'] at secondBelow
          rw [toNat_cons, toNat_cons, ← length'] at same
          have digits := congrArg (· / 256 ^ first.length) same
          have rests := congrArg (· % 256 ^ first.length) same
          simp only [Nat.mul_add_div (Nat.pow_pos (by decide : 0 < 256)),
            Nat.div_eq_of_lt firstBelow, Nat.div_eq_of_lt secondBelow, Nat.add_zero] at digits
          simp only [Nat.mul_add_mod, Nat.mod_eq_of_lt firstBelow, Nat.mod_eq_of_lt secondBelow]
            at rests
          rw [UInt8.toNat_inj.mp digits, ih length' rests]

theorem split?_append (first rest : Bytes) :
    split? first.length (first ++ rest) = some (first, rest) := by
  induction first with
  | nil => rfl
  | cons byte first ih => simp [split?, ih]

theorem split?_of_length {count : Nat} {first rest : Bytes} (length : first.length = count) :
    split? count (first ++ rest) = some (first, rest) :=
  length ▸ split?_append first rest

theorem split?_eq_some {count : Nat} {bytes first rest : Bytes}
    (taken : split? count bytes = some (first, rest)) :
    bytes = first ++ rest ∧ first.length = count := by
  induction count generalizing bytes first with
  | zero =>
      cases taken
      exact ⟨rfl, rfl⟩
  | succ count ih =>
      cases bytes with
      | nil => cases taken
      | cons byte tail =>
          cases inner : split? count tail with
          | none => simp [split?, inner] at taken
          | some found =>
              obtain ⟨head, last⟩ := found
              simp only [split?, inner, Option.some.injEq, Prod.mk.injEq] at taken
              obtain ⟨rfl, rfl⟩ := taken
              obtain ⟨whole, length⟩ := ih inner
              exact ⟨by simp [whole], by simp [length]⟩

theorem toString?_ofString (text : String) : toString? (ofString text) = some text := by
  have bytes : (⟨(ofString text).toArray⟩ : ByteArray) = text.toByteArray := by
    simp [ofString]
  have valid : text.toByteArray.IsValidUTF8 := text.isValidUTF8
  rw [toString?, bytes, String.fromUTF8?, dif_pos valid]
  rfl

theorem ofString_inj {a b : String} : ofString a = ofString b ↔ a = b := by
  refine ⟨fun same => ?_, fun same => same ▸ rfl⟩
  have texts := congrArg toString? same
  rwa [toString?_ofString, toString?_ofString, Option.some.injEq] at texts

end DocStore.Bytes

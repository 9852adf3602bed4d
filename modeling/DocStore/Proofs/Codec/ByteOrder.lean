import DocStore.Proofs.Codec.Bytes
import Mathlib.Data.String.Basic

namespace DocStore.Bytes

theorem ofString_eq (text : String) :
    ofString text = text.toList.flatMap String.utf8EncodeChar := by
  rw [ofString, String.toUTF8, ← String.utf8Encode_toList, List.utf8Encode,
    List.data_toByteArray, List.toList_toArray]

private theorem byte_lt_iff {a b : Nat} (first : a < 256) (second : b < 256) :
    UInt8.ofNat a < UInt8.ofNat b ↔ a < b := by
  rw [UInt8.lt_iff_toNat_lt, UInt8.toNat_ofNat', UInt8.toNat_ofNat', Nat.mod_eq_of_lt first,
    Nat.mod_eq_of_lt second]

private theorem byte_inj {a b : Nat} (first : a < 256) (second : b < 256) :
    UInt8.ofNat a = UInt8.ofNat b ↔ a = b := by
  rw [← UInt8.toNat_inj, UInt8.toNat_ofNat', UInt8.toNat_ofNat', Nat.mod_eq_of_lt first,
    Nat.mod_eq_of_lt second]

private theorem encoded_lt {c d : Char} (below : c < d) (first second : Bytes) :
    String.utf8EncodeChar c ++ first < String.utf8EncodeChar d ++ second := by
  have codes : c.val.toNat < d.val.toNat := UInt32.lt_iff_toNat_lt.mp below
  have largest : d.val.toNat < 0x110000 := by
    have valid := d.valid
    rcases valid with low | ⟨-, high⟩
    · omega
    · exact high
  have twelve (code : Nat) : code / 4096 = code / 64 / 64 := by rw [Nat.div_div_eq_div_mul]
  have eighteen (code : Nat) : code / 262144 = code / 64 / 64 / 64 := by
    rw [Nat.div_div_eq_div_mul, Nat.div_div_eq_div_mul]
  simp only [String.utf8EncodeChar, twelve, eighteen]
  generalize c.val.toNat = a at codes ⊢
  generalize d.val.toNat = b at codes largest ⊢
  -- One case for each pair of lengths; characters of one length differ in a byte.
  split_ifs
  all_goals
    simp (disch := omega) only [List.cons_append, List.nil_append, List.cons_lt_cons_iff,
      byte_lt_iff, byte_inj]
    omega

private theorem flatMap_encoded_lt {first second : List Char} (below : first < second) :
    first.flatMap String.utf8EncodeChar < second.flatMap String.utf8EncodeChar := by
  induction first generalizing second with
  | nil =>
      cases second with
      | nil => exact absurd below (List.lt_irrefl _)
      | cons d second =>
          obtain ⟨byte, more, bytes⟩ :=
            List.exists_cons_of_ne_nil (String.utf8EncodeChar_ne_nil (c := d))
          rw [List.flatMap_cons, bytes]
          exact List.nil_lt_cons _ _
  | cons c first ih =>
      cases second with
      | nil => exact absurd below (List.not_lt_nil _)
      | cons d second =>
          rw [List.flatMap_cons, List.flatMap_cons]
          rcases List.cons_lt_cons_iff.mp below with smaller | ⟨rfl, later⟩
          · exact encoded_lt smaller _ _
          · exact List.append_left_lt (ih later)

/-- Texts are ordered as their bytes are. -/
theorem ofString_lt_iff {a b : String} : ofString a < ofString b ↔ a < b := by
  have monotone {a b : String} (below : a < b) : ofString a < ofString b := by
    rw [ofString_eq, ofString_eq]
    exact flatMap_encoded_lt (String.lt_iff_toList_lt.mp below)
  refine ⟨fun below => ?_, monotone⟩
  rcases lt_trichotomy a b with smaller | rfl | larger
  · exact smaller
  · exact absurd below (List.lt_irrefl _)
  · exact absurd below (List.lt_asymm (monotone larger))

end DocStore.Bytes

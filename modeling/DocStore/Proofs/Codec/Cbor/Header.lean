import DocStore.Codec.Cbor.Reader
import DocStore.Codec.Cbor.Writer
import DocStore.Proofs.Codec.Bytes
import DocStore.Proofs.Number.Format

namespace DocStore.Cbor

private theorem readArgument_wide {short argument : Nat} (long : 24 ≤ short) (definite : short < 28)
    (fits : argument < 256 ^ 2 ^ (short - 24)) (rest : Bytes) :
    readArgument short (Bytes.ofNat (2 ^ (short - 24)) argument ++ rest) =
      some (some argument, rest) := by
  unfold readArgument
  rw [if_neg (by omega), if_neg (by omega), if_pos definite,
    Bytes.split?_of_length (Bytes.length_ofNat _ argument)]
  simp [Bytes.toNat_ofNat_of_lt fits]

/-- The argument of a head is found behind its first byte. -/
private theorem exists_argument (major : Nat) {argument : Nat} (bounded : argument < 2 ^ 64) :
    ∃ short tail, writeHead major argument = UInt8.ofNat (32 * major + short) :: tail ∧
      short < 28 ∧ ∀ rest, readArgument short (tail ++ rest) = some (some argument, rest) := by
  have wide {short : Nat} := @readArgument_wide short argument
  unfold writeHead
  simp only
  split
  · next small => exact ⟨argument, [], rfl, by omega, fun rest => by simp [readArgument, small]⟩
  · split
    · next small => exact ⟨24, _, rfl, by decide, wide (by decide) (by decide) small⟩
    · split
      · next small => exact ⟨25, _, rfl, by decide, wide (by decide) (by decide) small⟩
      · split
        · next small => exact ⟨26, _, rfl, by decide, wide (by decide) (by decide) small⟩
        · exact ⟨27, _, rfl, by decide, wide (by decide) (by decide) bounded⟩

/-- The header that a head of a major type with an argument stands for. -/
def Header.ofHead? : Nat → Nat → Option Header
  | 0, value => some (.natural value)
  | 1, below => some (.negative below)
  | 3, length => some (.text (some length))
  | 4, length => some (.array (some length))
  | 5, length => some (.map (some length))
  | _, _ => none

theorem readHeader_writeHead {major argument : Nat} {header : Header}
    (known : Header.ofHead? major argument = some header) (bounded : argument < 2 ^ 64)
    (rest : Bytes) : readHeader (writeHead major argument ++ rest) = some (header, rest) := by
  obtain ⟨short, tail, written, small, read⟩ := exists_argument major bounded
  rw [written, List.cons_append]
  have low : major < 6 := by
    unfold Header.ofHead? at known
    split at known <;> simp at known ⊢
  have first : (UInt8.ofNat (32 * major + short)).toNat = 32 * major + short :=
    UInt8.toNat_ofNat_of_lt' (by rw [UInt8.size]; omega)
  have kind : (32 * major + short) / 32 = major := by omega
  have argumentSize : (32 * major + short) % 32 = short := by omega
  simp only [readHeader, first, kind, argumentSize, read, Option.bind_eq_bind, Option.bind_some]
  unfold Header.ofHead? at known
  split at known
  all_goals first
    | (obtain rfl := Option.some.inj known
       rfl)
    | cases known

theorem readHeader_writeNatural (value : UInt64) (rest : Bytes) :
    readHeader (writeNatural value.toNat ++ rest) = some (.natural value.toNat, rest) :=
  readHeader_writeHead rfl value.toNat_lt rest

theorem readUInt64_writeNatural (value : UInt64) (rest : Bytes) :
    readUInt64 (writeNatural value.toNat ++ rest) = some (value, rest) := by
  have below : value.toNat < 2 ^ 64 := value.toNat_lt
  simp [readUInt64, readInteger, readTaggedInteger, readHeader_writeNatural, below]

private theorem readHeader_float {format : FloatFormat} (signed : format.Signed) (short : Nat)
    (size : format.bytes = 2 ^ (short - 24)) (long : 25 ≤ short) (definite : short < 28)
    (decoder : ∀ bits, readSimple short (some bits) = some (.float (format.decode? bits)))
    {x : Binary64} {bits : Nat} (encoded : format.encode? x = some bits) (rest : Bytes) :
    readHeader (UInt8.ofNat (32 * 7 + short) :: (Bytes.ofNat format.bytes bits ++ rest)) =
      some (.float (some x), rest) := by
  obtain ⟨fits, decoded⟩ := FloatFormat.decode?_encode? signed encoded
  have first : (UInt8.ofNat (32 * 7 + short)).toNat = 32 * 7 + short :=
    UInt8.toNat_ofNat_of_lt' (by rw [UInt8.size]; omega)
  have kind : (32 * 7 + short) / 32 = 7 := by omega
  have argumentSize : (32 * 7 + short) % 32 = short := by omega
  rw [size] at fits ⊢
  simp only [readHeader, first, kind, argumentSize, decoder, decoded,
    readArgument_wide (by omega) definite fits, Option.bind_eq_bind, Option.bind_some]

theorem readHeader_writeFloat (x : Binary64) (rest : Bytes) :
    readHeader (writeFloat x ++ rest) = some (.float (some x), rest) := by
  unfold writeFloat
  cases half : FloatFormat.half.encode? x with
  | some bits =>
      exact readHeader_float FloatFormat.signed_half 25 rfl (by decide) (by decide)
        (fun _ => rfl) half rest
  | none =>
      cases single : FloatFormat.single.encode? x with
      | some bits =>
          exact readHeader_float FloatFormat.signed_single 26 rfl (by decide) (by decide)
            (fun _ => rfl) single rest
      | none =>
          obtain ⟨bits, double⟩ := FloatFormat.exists_encode?_double x
          rw [double]
          exact readHeader_float FloatFormat.signed_double 27 rfl (by decide) (by decide)
            (fun _ => rfl) double rest

/-- The text has a length that a header can hold. -/
def Bounded (text : String) : Prop := (Bytes.ofString text).length < 2 ^ 64

variable {text : String}

theorem readHeader_writeText (bounded : Bounded text) (rest : Bytes) :
    readHeader (writeText text ++ rest) =
      some (.text (some (Bytes.ofString text).length), Bytes.ofString text ++ rest) := by
  rw [writeText, List.append_assoc, readHeader_writeHead rfl bounded]

theorem readTextBody_ofString (text : String) (rest : Bytes) :
    readTextBody (some (Bytes.ofString text).length) (Bytes.ofString text ++ rest) =
      some (text, rest) := by
  simp [readTextBody, readParts, Bytes.split?_append, Bytes.toString?_ofString, String.join]

/-- A header that is no tag is found at once. -/
theorem readUntagged_of_readHeader {bytes rest : Bytes} {header : Header}
    (read : readHeader bytes = some (header, rest)) (untagged : ∀ number, header ≠ .tag number) :
    readUntagged bytes = some (header, rest) := by
  cases header with
  | tag number => exact absurd rfl (untagged number)
  | _ => simp [readUntagged, read]

theorem readUntagged_writeText (bounded : Bounded text) (rest : Bytes) :
    readUntagged (writeText text ++ rest) =
      some (.text (some (Bytes.ofString text).length), Bytes.ofString text ++ rest) :=
  readUntagged_of_readHeader (readHeader_writeText bounded rest) nofun

theorem readText_writeText (bounded : Bounded text) (rest : Bytes) :
    readText (writeText text ++ rest) = some (text, rest) := by
  simp [readText, readUntagged_writeText bounded, readTextBody_ofString]

theorem readName_writeText (short : (Bytes.ofString text).length ≤ maxNameLength) (rest : Bytes) :
    readName (writeText text ++ rest) = some (Bytes.ofString text, rest) := by
  have bounded : Bounded text := Nat.lt_of_le_of_lt short (by decide)
  simp [readName, readUntagged_writeText bounded, short, Bytes.split?_append,
    Bytes.toString?_ofString]

end DocStore.Cbor

import DocStore.Log.Record
import DocStore.Proofs.Codec.Bytes
/-!
What a segment spells.

Bytes spell records when they are made of frames, one for each record, that
decode alike whatever follows them (`Spells`).  Scanning any bytes finds the
longest spelled part (`spells_scan`), and a spelled part can be extended by
further records and by the beginning of one that was cut short.
-/

namespace DocStore.Log.Record

/-- The body of the record is read as it was written, and its length fits the header. -/
structure Legible (record : Record) : Prop where
  read : Body.read? (Body.write record.mutations) = some record.mutations
  short : (Body.write record.mutations).length < 2 ^ 32

instance (record : Record) : Decidable record.Legible :=
  decidable_of_iff (Body.read? (Body.write record.mutations) = some record.mutations ∧
      (Body.write record.mutations).length < 2 ^ 32)
    ⟨fun ⟨read, short⟩ => ⟨read, short⟩, fun ⟨read, short⟩ => ⟨read, short⟩⟩

theorem length_header (record : Record) (length : Nat) :
    (record.header length).length = headerLength := by
  simp [header, magic, headerLength]

private theorem header_fields (record : Record) (length : Nat) :
    (record.header length).take 4 = magic ∧
      ((record.header length).drop 6).take 8 = Bytes.ofNat 8 record.seq.toNat ∧
      ((record.header length).drop 14).take 8 = Bytes.ofNat 8 record.timestamp.toUInt64.toNat ∧
      ((record.header length).drop 22).take 4 = Bytes.ofNat 4 length :=
  ⟨rfl, rfl, rfl, rfl⟩

private theorem seq_read (seq : UInt64) :
    UInt64.ofNat (Bytes.toNat (Bytes.ofNat 8 seq.toNat)) = seq := by
  rw [Bytes.toNat_ofNat_of_lt (Nat.lt_of_lt_of_eq seq.toNat_lt rfl), UInt64.ofNat_toNat]

theorem checksum_read (checksum : UInt32) :
    UInt32.ofNat (Bytes.toNat (Bytes.ofNat 4 checksum.toNat)) = checksum := by
  rw [Bytes.toNat_ofNat_of_lt (Nat.lt_of_lt_of_eq checksum.toNat_lt rfl), UInt32.ofNat_toNat]

/-- A record is read as its body is, whatever follows it. -/
theorem decode?_encode_eq {record : Record}
    (short : (Body.write record.mutations).length < 2 ^ 32) (rest : Bytes) :
    decode? (record.encode ++ rest) = (Body.read? (Body.write record.mutations)).map
      fun mutations => ({ record with mutations }, rest) := by
  obtain ⟨magicOk, seqOk, timestampOk, lengthOk⟩ :=
    header_fields record (Body.write record.mutations).length
  have length : Bytes.toNat (Bytes.ofNat 4 (Body.write record.mutations).length) =
      (Body.write record.mutations).length :=
    Bytes.toNat_ofNat_of_lt short
  unfold decode? encode
  simp only [List.append_assoc]
  rw [Bytes.split?_of_length (length_header record _)]
  simp only [Option.bind_eq_bind, Option.bind_some, magicOk, lengthOk, length, seqOk, timestampOk]
  rw [Bytes.split?_of_length rfl]
  simp only [Option.bind_some, Bytes.split?_of_length (Bytes.length_ofNat 4 _), checksum_read]
  cases Body.read? (Body.write record.mutations) <;> simp [seq_read]

/-- A legible record is read back whatever follows it. -/
theorem decode?_encode {record : Record} (legible : record.Legible) (rest : Bytes) :
    decode? (record.encode ++ rest) = some (record, rest) := by
  rw [decode?_encode_eq legible.short, legible.read, Option.map_some]

/-- A record with a checksum of other bytes than its own is none. -/
theorem decode?_of_mismatch {header body checksum : Bytes}
    (headerSize : header.length = headerLength)
    (bodySize : body.length = Bytes.toNat ((header.drop 22).take 4))
    (checksumSize : checksum.length = 4)
    (mismatch : Crc32c.checksum (header ++ body) ≠ UInt32.ofNat (Bytes.toNat checksum))
    (rest : Bytes) : decode? (header ++ body ++ checksum ++ rest) = none := by
  unfold decode?
  simp only [List.append_assoc]
  rw [Bytes.split?_of_length headerSize]
  simp only [Option.bind_eq_bind, Option.bind_some, Bytes.split?_of_length bodySize,
    Bytes.split?_of_length checksumSize, if_pos mismatch, Option.bind_none, ite_self]

/-- What decodes at the start of bytes is a frame that decodes alike whatever follows it. -/
theorem decode?_frame {bytes rest : Bytes} {record : Record}
    (decoded : decode? bytes = some (record, rest)) :
    ∃ frame, bytes = frame ++ rest ∧ ∀ more, decode? (frame ++ more) = some (record, more) := by
  unfold decode? at decoded
  simp only [Option.bind_eq_bind, Option.bind_eq_some_iff] at decoded
  obtain ⟨⟨header, afterHeader⟩, headerTaken, decoded⟩ := decoded
  obtain ⟨rfl, headerSize⟩ := Bytes.split?_eq_some headerTaken
  split at decoded
  case isTrue => simp at decoded
  rename_i magicOk
  simp only [Option.bind_eq_some_iff] at decoded
  obtain ⟨⟨body, afterBody⟩, bodyTaken, ⟨checksum, last⟩, checksumTaken, decoded⟩ := decoded
  obtain ⟨rfl, bodySize⟩ := Bytes.split?_eq_some bodyTaken
  obtain ⟨rfl, checksumSize⟩ := Bytes.split?_eq_some checksumTaken
  split at decoded
  case isTrue => simp at decoded
  rename_i checksumOk
  obtain ⟨mutations, bodyRead, same⟩ := Option.bind_eq_some_iff.mp decoded
  cases same
  refine ⟨header ++ body ++ checksum, by simp, fun more => ?_⟩
  unfold decode?
  simp only [List.append_assoc]
  rw [Bytes.split?_of_length headerSize]
  simp only [Option.bind_eq_bind, Option.bind_some, if_neg magicOk, Bytes.split?_of_length bodySize,
    Bytes.split?_of_length checksumSize, if_neg checksumOk, bodyRead]

theorem decode?_append {bytes rest : Bytes} {record : Record}
    (decoded : decode? bytes = some (record, rest)) (more : Bytes) :
    decode? (bytes ++ more) = some (record, rest ++ more) := by
  obtain ⟨frame, rfl, decodes⟩ := decode?_frame decoded
  rw [List.append_assoc, decodes]

theorem decode?_take_eq_none {bytes : Bytes} (ends : decode? bytes = none) (count : Nat) :
    decode? (bytes.take count) = none := by
  cases decoded : decode? (bytes.take count) with
  | none => rfl
  | some found =>
      have whole := decode?_append decoded (bytes.drop count)
      rw [List.take_append_drop, ends] at whole
      cases whole

/-- A frame that was cut short is no record. -/
theorem decode?_take_frame {frame : Bytes} {record : Record}
    (decodes : ∀ more, decode? (frame ++ more) = some (record, more)) {count : Nat}
    (cut : count < frame.length) : decode? (frame.take count) = none := by
  cases decoded : decode? (frame.take count) with
  | none => rfl
  | some found =>
      have whole := decode?_append decoded (frame.drop count)
      have exactly := decodes []
      rw [List.append_nil] at exactly
      rw [List.take_append_drop, exactly] at whole
      simp only [Option.some.injEq, Prod.mk.injEq, List.nil_eq_append_iff,
        List.drop_eq_nil_iff] at whole
      omega

/-- A record that was cut short is none. -/
theorem decode?_take_encode {record : Record} (legible : record.Legible) {count : Nat}
    (cut : count < record.encode.length) : decode? (record.encode.take count) = none :=
  decode?_take_frame (decode?_encode legible) cut

theorem decode?_nil : decode? [] = none := rfl

/-- The bytes are frames of these records. -/
inductive Spells : Bytes → List Record → Prop where
  | nil : Spells [] []
  | cons {frame rest : Bytes} {record : Record} {records : List Record}
      (decodes : ∀ more, decode? (frame ++ more) = some (record, more))
      (others : Spells rest records) : Spells (frame ++ rest) (record :: records)

namespace Spells

variable {bytes more tail : Bytes} {records others : List Record} {record : Record}

theorem append (first : Spells bytes records) (second : Spells more others) :
    Spells (bytes ++ more) (records ++ others) := by
  induction first with
  | nil => exact second
  | cons decodes _ ih =>
      rw [List.append_assoc]
      exact .cons decodes ih

theorem eq_nil (spelled : Spells bytes records) (nothing : records = []) : bytes = [] := by
  cases spelled with
  | nil => rfl
  | cons => cases nothing

theorem encode (legible : record.Legible) : Spells record.encode [record] := by
  simpa using Spells.cons (decode?_encode legible) .nil

theorem snoc (spelled : Spells bytes records) (legible : record.Legible) :
    Spells (bytes ++ record.encode) (records ++ [record]) :=
  spelled.append (.encode legible)

theorem flatMap_encode (legible : ∀ record ∈ records, record.Legible) :
    Spells (records.flatMap Record.encode) records := by
  induction records with
  | nil => exact .nil
  | cons record rest ih =>
      rw [List.flatMap_cons]
      exact (encode (legible record List.mem_cons_self)).append
        (ih fun other member => legible other (List.mem_cons_of_mem _ member))

private theorem scanWith (spelled : Spells bytes records) (ends : decode? tail = none) {fuel : Nat}
    (enough : (bytes ++ tail).length ≤ fuel) :
    scanWith fuel (bytes ++ tail) = (records, bytes.length) := by
  induction spelled generalizing fuel with
  | nil => cases fuel <;> simp [Record.scanWith, ends]
  | @cons frame rest record records decodes _ ih =>
      have nonempty : frame ≠ [] := by
        rintro rfl
        simpa [decode?_nil] using decodes []
      have width : 0 < frame.length := List.length_pos_iff.mpr nonempty
      simp only [List.length_append] at enough
      cases fuel with
      | zero => omega
      | succ fuel =>
          have fits : (rest ++ tail).length ≤ fuel := by
            simp only [List.length_append]
            omega
          have inner := ih fits
          simp only [Record.scanWith, List.append_assoc, decodes, inner, List.length_append,
            Prod.mk.injEq, true_and]
          omega

theorem scan (spelled : Spells bytes records) (ends : decode? tail = none) :
    scan (bytes ++ tail) = (records, bytes.length) :=
  spelled.scanWith ends (Nat.le_refl _)

theorem scan_self (spelled : Spells bytes records) :
    Record.scan bytes = (records, bytes.length) := by
  simpa using spelled.scan decode?_nil

/-- A record that was cut short does not change what a segment holds. -/
theorem scan_torn (spelled : Spells bytes records) (legible : record.Legible) {count : Nat}
    (cut : count < record.encode.length) :
    Record.scan (bytes ++ record.encode.take count) = (records, bytes.length) :=
  spelled.scan (decode?_take_encode legible cut)

end Spells

private theorem spells_scanWith {fuel : Nat} {bytes : Bytes} (enough : bytes.length ≤ fuel) :
    (scanWith fuel bytes).2 ≤ bytes.length ∧
      Spells (bytes.take (scanWith fuel bytes).2) (scanWith fuel bytes).1 ∧
      decode? (bytes.drop (scanWith fuel bytes).2) = none := by
  induction fuel generalizing bytes with
  | zero =>
      obtain rfl := List.length_eq_zero_iff.mp (Nat.le_zero.mp enough)
      exact ⟨Nat.le_refl _, .nil, rfl⟩
  | succ fuel ih =>
      cases decoded : decode? bytes with
      | none => simpa [scanWith, decoded] using Spells.nil
      | some found =>
          obtain ⟨record, rest⟩ := found
          obtain ⟨frame, rfl, decodes⟩ := decode?_frame decoded
          have nonempty : frame ≠ [] := by
            rintro rfl
            simpa [decode?_nil] using decodes []
          have width : 0 < frame.length := List.length_pos_iff.mpr nonempty
          simp only [List.length_append] at enough
          have fits : rest.length ≤ fuel := by omega
          obtain ⟨within, spelled, ends⟩ := ih fits
          have covered : frame.length + rest.length - rest.length = frame.length := by omega
          simp only [scanWith, decodes, List.length_append, covered]
          refine ⟨by omega, ?_, ?_⟩
          · rw [List.take_length_add_append]
            exact .cons decodes spelled
          · rw [List.drop_length_add_append]
            exact ends

/-- The scanned part of any bytes spells the scanned records, and nothing decodes after it. -/
theorem spells_scan (bytes : Bytes) :
    (scan bytes).2 ≤ bytes.length ∧ Spells (bytes.take (scan bytes).2) (scan bytes).1 ∧
      decode? (bytes.drop (scan bytes).2) = none :=
  spells_scanWith (Nat.le_refl _)

theorem spells_take_scan (bytes : Bytes) :
    Spells (bytes.take (scan bytes).2) (scan bytes).1 :=
  (spells_scan bytes).2.1

/-- What follows spelled records is scanned as it would be by itself. -/
theorem Spells.scan_append {bytes : Bytes} {records : List Record} (spelled : Spells bytes records)
    (more : Bytes) :
    Record.scan (bytes ++ more) =
      (records ++ (Record.scan more).1, bytes.length + (Record.scan more).2) := by
  obtain ⟨within, found, ends⟩ := spells_scan more
  have whole := (spelled.append found).scan ends
  rwa [List.append_assoc, List.take_append_drop, List.length_append,
    List.length_take_of_le within] at whole

theorem spells_of_scan {bytes : Bytes} (whole : ¬ (scan bytes).2 < bytes.length) :
    Spells bytes (scan bytes).1 := by
  have spelled := spells_take_scan bytes
  rwa [List.take_of_length_le (Nat.le_of_not_lt whole)] at spelled

end DocStore.Log.Record

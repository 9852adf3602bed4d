import DocStore.Proofs.Codec.Crc32c
import DocStore.Proofs.Log.Record
/-!
Segments that were cut or damaged.

What is scanned of a segment ends with a whole record, so that a segment may be
cut there and go on (`scan_cut`).  A byte that was changed spoils its record, as
the checksum covers the header and the body, and what comes before is found as
before (`scan_damaged`).
-/

namespace DocStore.Log.Record

variable {record : Record} {records before after : List Record} {place : Nat} {byte : UInt8}

/-- Of records that were cut short the whole ones are scanned. -/
theorem scan_take_encoded (legible : ∀ record ∈ records, record.Legible) (count : Nat) :
    ∃ whole lost, records = whole ++ lost ∧
      scan ((records.flatMap encode).take count) = (whole, (whole.flatMap encode).length) ∧
      (whole.flatMap encode).length ≤ count ∧
      ∀ next ∈ lost.head?, count < (whole.flatMap encode).length + next.encode.length := by
  induction records generalizing count with
  | nil => exact ⟨[], [], rfl, by simp [scan, scanWith], Nat.zero_le _, nofun⟩
  | cons record rest ih =>
      have first := legible record List.mem_cons_self
      by_cases cut : count < record.encode.length
      · have none : scan (record.encode.take count) = ([], 0) :=
          Spells.nil.scan (decode?_take_encode first cut)
        refine ⟨[], record :: rest, rfl, ?_, Nat.zero_le _, ?_⟩
        · rw [List.flatMap_cons, List.take_append_of_le_length (Nat.le_of_lt cut), none]
          rfl
        · simpa using cut
      · obtain ⟨more, rfl⟩ := Nat.exists_eq_add_of_le (Nat.le_of_not_lt cut)
        obtain ⟨whole, lost, parts, scanned, within, ends⟩ :=
          ih (fun other member => legible other (List.mem_cons_of_mem _ member)) more
        refine ⟨record :: whole, lost, by rw [parts, List.cons_append], ?_, ?_, ?_⟩
        · rw [List.flatMap_cons, List.take_length_add_append, (Spells.encode first).scan_append,
            scanned, List.flatMap_cons, List.length_append]
          rfl
        · rw [List.flatMap_cons, List.length_append]
          omega
        · intro next member
          have := ends next member
          rw [List.flatMap_cons, List.length_append]
          omega

/-- Any bytes may be cut where their records end: nothing is lost then, and records that are
written behind are found after the old ones.  Written records that are cut anywhere are found as
far as they are whole. -/
theorem scan_cut (bytes : Bytes) {records : List Record}
    (legible : ∀ record ∈ records, record.Legible) (count : Nat) :
    (scan bytes).2 ≤ bytes.length ∧
      scan (bytes.take (scan bytes).2) = scan bytes ∧
      scan (bytes.take (scan bytes).2 ++ records.flatMap encode) =
        ((scan bytes).1 ++ records, (scan bytes).2 + (records.flatMap encode).length) ∧
      ∃ whole lost, records = whole ++ lost ∧
        scan ((records.flatMap encode).take count) = (whole, (whole.flatMap encode).length) ∧
        (whole.flatMap encode).length ≤ count ∧
        ∀ next ∈ lost.head?, count < (whole.flatMap encode).length + next.encode.length := by
  obtain ⟨within, spelled, -⟩ := spells_scan bytes
  have length := List.length_take_of_le within
  have written := (Spells.flatMap_encode legible).scan_self
  refine ⟨within, ?_, ?_, scan_take_encoded legible count⟩
  · rw [spelled.scan_self, length]
  · rw [spelled.scan_append, written, length]

/-- Two commits, of 73 bytes each. -/
def dropped : List Record := [⟨1, 0, [.deleteIndex "books"]⟩, ⟨2, -1, [.deleteIndex "films"]⟩]

set_option maxRecDepth 10000 in
/-- The second commit is cut short, and both are written again behind the first one. -/
theorem dropped_cut :
    (∀ record ∈ dropped, record.Legible) ∧
      scan ((dropped.flatMap encode).take 80) = (dropped.take 1, 73) ∧
      scan ((dropped.flatMap encode).take 73 ++ dropped.flatMap encode) =
        (dropped.take 1 ++ dropped, 219) := by
  have legible : ∀ record ∈ dropped, record.Legible := by decide +kernel
  have torn : scan ((dropped.flatMap encode).take 80) = (dropped.take 1, 73) := by decide +kernel
  have grown := (scan_cut ((dropped.flatMap encode).take 80) legible 0).2.2.1
  have size : (dropped.flatMap encode).length = 146 := by decide +kernel
  rw [torn, List.take_take, size] at grown
  exact ⟨legible, torn, grown⟩

/-- The bytes that the checksum of a record is made of. -/
def covered (record : Record) : Bytes :=
  record.header (Body.write record.mutations).length ++ Body.write record.mutations

theorem encode_eq (record : Record) :
    record.encode = record.covered ++ Bytes.ofNat 4 (Crc32c.checksum record.covered).toNat :=
  rfl

theorem length_covered (record : Record) :
    record.covered.length = headerLength + (Body.write record.mutations).length := by
  rw [covered, List.length_append, length_header]

/-- A byte of the header or the body was changed, but none of those that tell the length. -/
private theorem decode?_damaged_covered (short : (Body.write record.mutations).length < 2 ^ 32)
    (inside : place < record.covered.length)
    (elsewhere : place < headerLength - 4 ∨ headerLength ≤ place)
    (changed : record.covered[place] ≠ byte) (rest : Bytes) :
    decode? (record.covered.set place byte ++
      Bytes.ofNat 4 (Crc32c.checksum record.covered).toNat ++ rest) = none := by
  have length : (record.covered.set place byte).length =
      headerLength + (Body.write record.mutations).length := by
    rw [List.length_set, length_covered]
  have told : (((record.covered.set place byte).take headerLength).drop 22).take 4 =
      Bytes.ofNat 4 (Body.write record.mutations).length := by
    have same : (((record.covered.set place byte).take headerLength).drop 22).take 4 =
        ((record.covered.take headerLength).drop 22).take 4 := by
      refine List.ext_getElem? fun ahead => ?_
      simp only [headerLength, List.getElem?_take, List.getElem?_drop] at elsewhere ⊢
      by_cases near : ahead < 4
      · rw [List.getElem?_set_ne (by omega)]
      · simp [near]
    rw [same, covered, List.take_left' (length_header record _)]
    rfl
  have mismatch := Crc32c.checksum_set_ne inside changed
  -- The length is told as before, so the same bytes are taken for the body and the checksum.
  conv => lhs; rw [← List.take_append_drop headerLength (record.covered.set place byte)]
  apply decode?_of_mismatch
  case headerSize => rw [List.length_take_of_le (by omega)]
  case bodySize => rw [told, Bytes.toNat_ofNat_of_lt short, List.length_drop, length]; omega
  case checksumSize => exact Bytes.length_ofNat 4 _
  case mismatch => rwa [List.take_append_drop, checksum_read]

/-- A byte of the checksum was changed. -/
private theorem decode?_damaged_checksum (short : (Body.write record.mutations).length < 2 ^ 32)
    {checksum : Bytes} (size : checksum.length = 4)
    (changed : checksum ≠ Bytes.ofNat 4 (Crc32c.checksum record.covered).toNat) (rest : Bytes) :
    decode? (record.covered ++ checksum ++ rest) = none := by
  have told : ((record.header (Body.write record.mutations).length).drop 22).take 4 =
      Bytes.ofNat 4 (Body.write record.mutations).length := rfl
  apply decode?_of_mismatch
  case headerSize => exact length_header record _
  case bodySize => rw [told, Bytes.toNat_ofNat_of_lt short]
  case checksumSize => exact size
  case mismatch =>
    intro same
    have below := Bytes.toNat_lt checksum
    rw [size] at below
    have number := congrArg UInt32.toNat same
    rw [UInt32.toNat_ofNat', Nat.mod_eq_of_lt (Nat.lt_of_lt_of_eq below rfl)] at number
    refine changed (Bytes.toNat_inj (size.trans (Bytes.length_ofNat 4 _).symm) ?_)
    rw [Bytes.toNat_ofNat_of_lt (Crc32c.checksum record.covered).toNat_lt]
    exact number.symm

theorem decode?_damaged (short : (Body.write record.mutations).length < 2 ^ 32)
    (inside : place < record.encode.length)
    (elsewhere : place < headerLength - 4 ∨ headerLength ≤ place)
    (changed : record.encode[place] ≠ byte) (rest : Bytes) :
    decode? (record.encode.set place byte ++ rest) = none := by
  simp only [encode_eq] at inside changed ⊢
  by_cases early : place < record.covered.length
  · rw [List.getElem_append_left early] at changed
    rw [List.set_append_left place byte early]
    exact decode?_damaged_covered short early elsewhere changed rest
  · have late := Nat.le_of_not_lt early
    rw [List.getElem_append_right late] at changed
    rw [List.set_append_right place byte late]
    refine decode?_damaged_checksum short (by simp) (fun same => changed ?_) rest
    exact (List.getElem_of_eq same.symm _).trans (List.getElem_set_self _)

/-- When a byte of a record is changed, and not one of the four that tell the length of its body,
the records before it are found and nothing else. -/
theorem scan_damaged (legible : ∀ other ∈ before ++ record :: after, other.Legible)
    (inside : place < record.encode.length)
    (elsewhere : place < headerLength - 4 ∨ headerLength ≤ place)
    (changed : record.encode[place] ≠ byte) :
    scan (((before ++ record :: after).flatMap encode).set
        ((before.flatMap encode).length + place) byte) =
      (before, (before.flatMap encode).length) := by
  have short := (legible record (List.mem_append_right _ List.mem_cons_self)).short
  have first : Spells (before.flatMap encode) before :=
    .flatMap_encode fun other member => legible other (List.mem_append_left _ member)
  have ends := decode?_damaged short inside elsewhere changed (after.flatMap encode)
  rw [List.flatMap_append, List.flatMap_cons, List.set_append_right _ _ (Nat.le_add_right _ _),
    Nat.add_sub_cancel_left, List.set_append_left _ _ inside, first.scan ends]

/-- One byte of the time of the second commit is changed. -/
theorem dropped_damaged :
    (∀ other ∈ dropped, other.Legible) ∧
      scan ((dropped.flatMap encode).set 90 7) = (dropped.take 1, 73) := by
  have legible : ∀ record ∈ dropped, record.Legible := by decide +kernel
  have size : ((dropped.take 1).flatMap encode).length = 73 := by decide +kernel
  have damaged : scan (((dropped.take 1 ++ dropped[1] :: []).flatMap encode).set
        (((dropped.take 1).flatMap encode).length + 17) 7) =
      (dropped.take 1, ((dropped.take 1).flatMap encode).length) :=
    scan_damaged legible (by decide +kernel) (by decide) (by decide +kernel)
  rw [size] at damaged
  exact ⟨legible, damaged⟩

end DocStore.Log.Record

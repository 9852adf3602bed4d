import DocStore.Proofs.Codec.Cbor.Header

namespace DocStore.Cbor

variable {α ρ : Type} {levels fuel : Nat}

/-- Whatever follows the bytes, the reader takes just these as the value, or it accepts nothing. -/
def Reads (read : Bytes → Option (Parsed α)) (bytes : Bytes) (value : α) (accepted : Bool) : Prop :=
  ∀ rest, read (bytes ++ rest) = if accepted then some (value, rest) else none

theorem reads_text {text : String} (bounded : Bounded text) :
    Reads readText (writeText text) text true :=
  readText_writeText bounded

theorem reads_uint64 (value : UInt64) :
    Reads readUInt64 (writeNatural value.toNat) value true :=
  readUInt64_writeNatural value

theorem length_writeHead_pos (major argument : Nat) : 0 < (writeHead major argument).length := by
  unfold writeHead
  simp only
  split_ifs <;> simp

theorem length_writeHead_le (major argument : Nat) : (writeHead major argument).length ≤ 9 := by
  unfold writeHead
  simp only
  split_ifs <;> simp

theorem bounded_of_writeText {text : String} (bounded : (writeText text).length < 2 ^ 64) :
    Bounded text := by
  rw [writeText, List.length_append] at bounded
  exact Nat.lt_of_le_of_lt (Nat.le_add_left _ _) bounded

/-- The bytes begin with a header, whatever follows them. -/
def Begins (bytes : Bytes) : Prop :=
  ∀ rest, ∃ header after, readHeader (bytes ++ rest) = some (header, after)

theorem begins_writeHead {major argument : Nat} {header : Header}
    (known : Header.ofHead? major argument = some header) (bounded : argument < 2 ^ 64)
    (more : Bytes) : Begins (writeHead major argument ++ more) := fun rest =>
  ⟨header, more ++ rest, by rw [List.append_assoc, readHeader_writeHead known bounded]⟩

theorem Begins.append {bytes : Bytes} (begins : Begins bytes) (more : Bytes) :
    Begins (bytes ++ more) := fun rest => by
  rw [List.append_assoc]
  exact begins (more ++ rest)

theorem begins_writeText {text : String} (bounded : Bounded text) : Begins (writeText text) :=
  begins_writeHead rfl bounded _

theorem Begins.length_pos {bytes : Bytes} (begins : Begins bytes) : 0 < bytes.length := by
  refine List.length_pos_iff.mpr ?_
  rintro rfl
  obtain ⟨header, after, read⟩ := begins []
  cases read

/-- Items are no more than the bytes they take, if each takes some. -/
theorem length_le_flatMap {write : α → Bytes} {items : List α}
    (filled : ∀ item ∈ items, 0 < (write item).length) :
    items.length ≤ (items.flatMap write).length := by
  induction items with
  | nil => exact Nat.le_refl 0
  | cons item rest ih =>
      obtain ⟨first, later⟩ := List.forall_mem_cons.mp filled
      have others := ih later
      simp only [List.flatMap_cons, List.length_append, List.length_cons]
      omega

theorem length_le_of_mem_flatMap (write : α → Bytes) {items : List α} {item : α}
    (listed : item ∈ items) : (write item).length ≤ (items.flatMap write).length := by
  rw [List.flatMap_def]
  exact (List.sublist_flatten_of_mem (List.mem_map_of_mem listed)).length_le

theorem readEntries_flatMap {read : Bytes → Option (Parsed α)} {write : α → Bytes}
    {accepted : α → Bool} {items : List α} (begins : ∀ item ∈ items, Begins (write item))
    (reads : ∀ item ∈ items, Reads read (write item) item (accepted item))
    (enough : items.length ≤ fuel) :
    Reads (readEntries read fuel (some items.length)) (items.flatMap write) items
      (items.all accepted) := by
  induction items generalizing fuel with
  | nil => intro rest; cases fuel <;> rfl
  | cons item others ih =>
      intro rest
      obtain ⟨beginsFirst, beginsLater⟩ := List.forall_mem_cons.mp begins
      obtain ⟨first, later⟩ := List.forall_mem_cons.mp reads
      cases fuel with
      | zero => cases enough
      | succ fuel =>
          have inner := ih beginsLater later (Nat.le_of_succ_le_succ enough) rest
          obtain ⟨header, after, header_read⟩ := beginsFirst (others.flatMap write ++ rest)
          simp only [List.flatMap_cons, List.append_assoc, List.length_cons, readEntries,
            header_read, first (others.flatMap write ++ rest), List.all_cons, Option.map_some,
            Nat.add_sub_cancel, Option.bind_eq_bind, Option.bind_some]
          by_cases taken : accepted item
          · simp only [taken, if_true, Option.bind_some, inner, Bool.true_and]
            by_cases all : others.all accepted <;> simp [all]
          · simp [taken]

theorem length_le_writeArray {items : List Bytes} {item : Bytes} (listed : item ∈ items) :
    item.length ≤ (writeArray items).length := by
  have part := (List.sublist_flatten_of_mem listed).length_le
  rw [writeArray, List.length_append]
  omega

/-- A list is accepted when all its items are. -/
theorem reads_list {read : Nat → Bytes → Option (Parsed α)} {ofByte : UInt8 → Option α}
    {write : α → Bytes} {accepted : α → Bool} {items : List α}
    (bounded : (writeArray (items.map write)).length < 2 ^ 64)
    (begins : ∀ item ∈ items, Begins (write item))
    (reads : ∀ item ∈ items, Reads (read levels) (write item) item (accepted item)) :
    Reads (readList (levels + 1) read ofByte) (writeArray (items.map write)) items
      (items.all accepted) := by
  intro rest
  have content := length_le_flatMap fun item listed => (begins item listed).length_pos
  simp only [writeArray, ← List.flatMap_def, List.length_append, List.length_map] at bounded ⊢
  have head : readUntagged (writeHead 4 items.length ++ (items.flatMap write ++ rest)) =
      some (.array (some items.length), items.flatMap write ++ rest) :=
    readUntagged_of_readHeader (readHeader_writeHead rfl (by omega) _) nofun
  have inside : items.length ≤ (items.flatMap write ++ rest).length + 1 := by
    rw [List.length_append]
    omega
  simp only [List.append_assoc, readList, head, enter, Option.bind_eq_bind, Option.bind_some]
  exact readEntries_flatMap begins reads inside rest

/-- The bytes of entries after the head of their map. -/
def writeEntries (entries : List (String × Bytes)) : Bytes :=
  entries.flatMap fun (key, value) => writeText key ++ value

theorem length_le_writeEntries (entries : List (String × Bytes)) :
    entries.length ≤ (writeEntries entries).length := by
  refine length_le_flatMap fun (key, value) _ => ?_
  have head := length_writeHead_pos 3 (Bytes.ofString key).length
  simp only [writeText, List.length_append]
  omega

theorem length_le_writeMap {entries : List (String × Bytes)} {key : String} {value : Bytes}
    (listed : (key, value) ∈ entries) :
    (writeText key).length ≤ (writeMap entries).length ∧
      value.length ≤ (writeMap entries).length := by
  have part := length_le_of_mem_flatMap (fun (key, value) => writeText key ++ value) listed
  simp only [writeMap, List.length_append] at part ⊢
  omega

theorem readHeader_writeMap {entries : List (String × Bytes)}
    (bounded : (writeMap entries).length < 2 ^ 64) (rest : Bytes) :
    readHeader (writeMap entries ++ rest) =
      some (.map (some entries.length), writeEntries entries ++ rest) := by
  have count := length_le_writeEntries entries
  rw [writeMap, ← writeEntries, List.length_append] at bounded
  rw [writeMap, ← writeEntries, List.append_assoc, readHeader_writeHead rfl (by omega)]

/-- A map is read as the entries it was written from. -/
theorem reads_map (read : Nat → Bytes → Option (Parsed α)) (write : α → Bytes)
    {entries : List (String × α)}
    (bounded : (writeMap (entries.map fun entry => (entry.1, write entry.2))).length < 2 ^ 64)
    (reads : ∀ entry ∈ entries, Reads (read levels) (write entry.2) entry.2 true) :
    Reads (readMap (levels + 1) read)
      (writeMap (entries.map fun entry => (entry.1, write entry.2))) entries true := by
  -- Entries are items of a list of which none is refused.
  have all : entries.all (fun _ => true) = true := by simp
  rw [← all]
  intro rest
  let writeEntry (entry : String × α) : Bytes := writeText entry.1 ++ write entry.2
  have written : writeEntries (entries.map fun entry => (entry.1, write entry.2)) =
      entries.flatMap writeEntry := by
    simp [writeEntries, List.flatMap_map, writeEntry]
  have head := readUntagged_of_readHeader (readHeader_writeMap bounded rest) nofun
  have keys : ∀ entry ∈ entries, Bounded entry.1 := fun entry listed =>
    have kept := List.mem_map_of_mem (f := fun entry => (entry.1, write entry.2)) listed
    bounded_of_writeText (Nat.lt_of_le_of_lt (length_le_writeMap kept).1 bounded)
  have begins : ∀ entry ∈ entries, Begins (writeEntry entry) := fun entry listed =>
    (begins_writeText (keys entry listed)).append _
  have count := length_le_flatMap fun entry listed => (begins entry listed).length_pos
  rw [written, List.length_map] at head
  simp only [readMap, head, enter, Option.bind_eq_bind, Option.bind_some]
  refine readEntries_flatMap begins (fun entry listed rest => ?_) ?_ rest
  · simp [writeEntry, readText_writeText (keys entry listed), reads entry listed _]
  · rw [List.length_append]
    omega

/-- Fields that lead from one state of a record to another when they are read in turn, and whether
all of them are accepted. -/
inductive Fills (field : ρ → Bytes → Bytes → Option (Parsed ρ)) :
    ρ → List (String × Bytes) → ρ → Bool → Prop where
  | nil (record : ρ) : Fills field record [] record true
  | cons {record next last : ρ} {name : String} {value : Bytes} {rest : List (String × Bytes)}
      {accepted others : Bool} (short : (Bytes.ofString name).length ≤ maxNameLength)
      (reads : Reads (field record (Bytes.ofString name)) value next accepted)
      (fills : Fills field next rest last others) :
      Fills field record ((name, value) :: rest) last (accepted && others)

namespace Fills

variable {field : ρ → Bytes → Bytes → Option (Parsed ρ)} {record last : ρ}
  {fields : List (String × Bytes)} {accepted : Bool}

theorem readFields (fills : Fills field record fields last accepted)
    (enough : fields.length ≤ fuel) :
    Reads (readFields field fuel record (some fields.length)) (writeEntries fields) last
      accepted := by
  induction fills generalizing fuel with
  | nil record => intro rest; cases fuel <;> rfl
  | @cons record next last name value others accepted _ short reads _ ih =>
      intro rest
      cases fuel with
      | zero => cases enough
      | succ fuel =>
          have inner := ih (Nat.le_of_succ_le_succ enough) rest
          have bounded : Bounded name := Nat.lt_of_le_of_lt short (by decide)
          simp only [writeEntries, List.flatMap_cons, List.append_assoc, List.length_cons,
            Cbor.readFields, readHeader_writeText bounded, readName_writeText short, reads _,
            Option.map_some, Nat.add_sub_cancel, Option.bind_eq_bind, Option.bind_some]
          by_cases taken : accepted
          · simpa [taken, writeEntries] using inner
          · simp [taken]

/-- The bytes that hold the fields are as many as the reader asks for. -/
theorem readFields_all (fills : Fills field record fields last accepted) (rest : Bytes) :
    Cbor.readFields field ((writeEntries fields ++ rest).length + 1) record (some fields.length)
        (writeEntries fields ++ rest) =
      if accepted then some (last, rest) else none := by
  have count := length_le_writeEntries fields
  refine fills.readFields ?_ rest
  rw [List.length_append]
  omega

end Fills

end DocStore.Cbor

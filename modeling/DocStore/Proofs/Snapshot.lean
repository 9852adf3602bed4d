import DocStore.Snapshot
import DocStore.Proofs.Json.Text
import DocStore.Proofs.Tables

namespace DocStore

namespace Json

private theorem newline_notMem_escapeChar (c : Char) : '\n' ∉ escapeChar c := by
  have digit (value : Nat) (below : value < 16) : hexDigit value ≠ '\n' := by
    revert value
    decide
  unfold escapeChar
  repeat' split
  all_goals try decide
  · have high := digit (c.toNat / 16) (by omega)
    have low := digit (c.toNat % 16) (by omega)
    simp [high.symm, low.symm]
  · simpa using Ne.symm ‹¬ c = '\n'›

private theorem newline_notMem_quoted (text : String) : '\n' ∉ quoted text := by
  simp [quoted, newline_notMem_escapeChar]

mutual

/-- Compact text is a single line. -/
theorem newline_notMem_chars (value : Json) : '\n' ∉ value.chars := by
  match value with
  | .null => simp only [chars]; decide
  | .bool true => simp only [chars]; decide
  | .bool false => simp only [chars]; decide
  | .number value =>
      intro member
      have written := List.all_eq_true.mp value.isNumberText.2 '\n'
        (by simpa only [chars] using member)
      cases written
  | .string text => simpa only [chars] using newline_notMem_quoted text
  | .array items => simp [chars, newline_notMem_itemChars items]
  | .object members => simp [chars, newline_notMem_memberChars members]

theorem newline_notMem_itemChars (items : List Json) : '\n' ∉ itemChars items := by
  match items with
  | [] => simp [itemChars]
  | [item] => simpa only [itemChars] using newline_notMem_chars item
  | item :: next :: rest =>
      simp [itemChars, newline_notMem_chars item, newline_notMem_itemChars (next :: rest)]

theorem newline_notMem_memberChars (members : List (String × Json)) :
    '\n' ∉ memberChars members := by
  match members with
  | [] => simp [memberChars]
  | [(key, value)] => simp [memberChars, newline_notMem_quoted, newline_notMem_chars value]
  | (key, value) :: next :: rest =>
      simp [memberChars, newline_notMem_quoted, newline_notMem_chars value,
        newline_notMem_memberChars (next :: rest)]

end

end Json

namespace Snapshot

private theorem splitLinesWith_lines {lines : List (List Char)} {fuel : Nat}
    (single : ∀ line ∈ lines, '\n' ∉ line ∧ line.getLast? ≠ some '\r')
    (enough : lines.length < fuel) :
    splitLinesWith fuel (lines.flatMap fun line => line ++ ['\n']) = lines := by
  induction lines generalizing fuel with
  | nil =>
      cases fuel with
      | zero => cases enough
      | succ fuel => rfl
  | cons line rest ih =>
      cases fuel with
      | zero => cases enough
      | succ fuel =>
          obtain ⟨noBreak, noReturn⟩ := single line List.mem_cons_self
          have inside : ∀ c ∈ line, (c != '\n') = true := by
            intro c member
            simp only [bne_iff_ne, ne_eq]
            rintro rfl
            exact noBreak member
          have later := ih (fun other member => single other (List.mem_cons_of_mem _ member))
            (Nat.lt_of_succ_lt_succ enough)
          simp only [List.flatMap_cons, List.append_assoc, List.cons_append, List.nil_append,
            splitLinesWith, List.dropWhile_append_of_pos inside,
            List.takeWhile_append_of_pos inside]
          simp [dropReturn, noReturn, later]

private theorem length_le_lines (lines : List (List Char)) :
    lines.length ≤ (lines.flatMap fun line => line ++ ['\n']).length := by
  induction lines with
  | nil => exact Nat.le_refl _
  | cons line rest ih =>
      simp only [List.flatMap_cons, List.length_append, List.length_cons, List.length_nil]
      omega

/-- Lines that hold no line break and do not end in a carriage return are split as they were
joined. -/
theorem splitLines_lines {lines : List (List Char)}
    (single : ∀ line ∈ lines, '\n' ∉ line ∧ line.getLast? ≠ some '\r') :
    splitLines (lines.flatMap fun line => line ++ ['\n']) = lines :=
  splitLinesWith_lines single (Nat.lt_succ_of_le (length_le_lines lines))

/-- Every line of the snapshot is read as the entry it was written for. -/
def Legible (tables : Tables) (createdAt : Int64) : Prop :=
  ∀ entry ∈ entries tables createdAt, Entry.ofLine entry.toJson.text.toList = .ok entry

instance (tables : Tables) (createdAt : Int64) : Decidable (Legible tables createdAt) :=
  inferInstanceAs (Decidable (∀ entry ∈ entries tables createdAt, _ = _))

theorem Entry.toJson_eq_object (entry : Entry) :
    ∃ members, entry.toJson = .object members := by
  cases entry <;> exact ⟨_, rfl⟩

theorem line_shape (entry : Entry) :
    '\n' ∉ entry.toJson.text.toList ∧ entry.toJson.text.toList.getLast? ≠ some '\r' ∧
      entry.toJson.text.toList ≠ [] := by
  obtain ⟨members, object⟩ := entry.toJson_eq_object
  refine ⟨?_, ?_, ?_⟩
  · rw [Json.text, String.toList_ofList]
    exact Json.newline_notMem_chars _
  · rw [object, Json.text, String.toList_ofList, Json.chars, List.getLast?_concat]
    decide
  · rw [object, Json.text, String.toList_ofList, Json.chars]
    exact nofun

theorem write_toList (tables : Tables) (createdAt : Int64) :
    (write tables createdAt).toList =
      ((entries tables createdAt).map fun entry => entry.toJson.text.toList).flatMap
        fun line => line ++ ['\n'] := by
  simp [write, lines, String.toList_join, List.flatMap_map]

private theorem foldl_takeEntry_indexes (indexes : List Index) (tables : Tables) :
    (indexes.map Entry.index).foldl takeEntry tables =
      { tables with
        indexes := indexes.foldl (fun built index => built.insert index.id index)
          tables.indexes } := by
  induction indexes generalizing tables with
  | nil => rfl
  | cons index rest ih =>
      rw [List.map_cons, List.foldl_cons, ih]
      rfl

private theorem foldl_takeEntry_documents (documents : List Document) (tables : Tables) :
    (documents.map Entry.document).foldl takeEntry tables =
      { tables with
        documents := documents.foldl (fun built document => built.insert document.key document)
          tables.documents } := by
  induction documents generalizing tables with
  | nil => rfl
  | cons document rest ih =>
      rw [List.map_cons, List.foldl_cons, ih]
      rfl

/-- Taking the entries of keyed tables one after another gives the tables again. -/
theorem foldl_takeEntry_entries {tables : Tables} (keyed : tables.Keyed) (createdAt : Int64) :
    (entries tables createdAt).foldl takeEntry .empty = tables := by
  have indexes := SortedMap.foldl_insert_values keyed.index
  have documents := SortedMap.foldl_insert_values keyed.document
  rw [entries, List.cons_append, List.foldl_cons, List.foldl_append, foldl_takeEntry_indexes,
    foldl_takeEntry_documents]
  simp only [takeEntry, Tables.empty, indexes, documents]

private theorem foldlM_lines {entries : List Entry}
    (reads : ∀ entry ∈ entries, Entry.ofLine entry.toJson.text.toList = .ok entry)
    (tables : Tables) :
    (entries.map fun entry => entry.toJson.text.toList).foldlM takeLine tables =
      .ok (entries.foldl takeEntry tables) := by
  induction entries generalizing tables with
  | nil => rfl
  | cons entry rest ih =>
      have taken : takeLine tables entry.toJson.text.toList = .ok (takeEntry tables entry) := by
        rw [takeLine, reads entry List.mem_cons_self]
      rw [List.map_cons, List.foldlM_cons, taken, List.foldl_cons]
      exact ih (fun other member => reads other (List.mem_cons_of_mem _ member)) _

/-- A snapshot is read line by line as it was written. -/
theorem read_write_eq (tables : Tables) (createdAt : Int64) :
    read (write tables createdAt) =
      ((entries tables createdAt).map fun entry => entry.toJson.text.toList).foldlM takeLine
        .empty := by
  have single : ∀ line ∈ (entries tables createdAt).map fun entry => entry.toJson.text.toList,
      '\n' ∉ line ∧ line.getLast? ≠ some '\r' := by
    intro line member
    obtain ⟨entry, -, rfl⟩ := List.mem_map.mp member
    exact ⟨(line_shape entry).1, (line_shape entry).2.1⟩
  have all : ∀ line ∈ (entries tables createdAt).map fun entry => entry.toJson.text.toList,
      (!line.isEmpty) = true := by
    intro line member
    obtain ⟨entry, -, rfl⟩ := List.mem_map.mp member
    simpa using (line_shape entry).2.2
  rw [read, write_toList, splitLines_lines single, List.filter_eq_self.mpr all]

/-- Tables are read back from their snapshot. -/
theorem read_write {tables : Tables} {createdAt : Int64} (keyed : tables.Keyed)
    (legible : Legible tables createdAt) : read (write tables createdAt) = .ok tables := by
  rw [read_write_eq, foldlM_lines legible .empty, foldl_takeEntry_entries keyed]

theorem keyed_takeEntry {tables : Tables} (keyed : tables.Keyed) (entry : Entry) :
    (takeEntry tables entry).Keyed := by
  cases entry with
  | header commitSeq createdAt => exact ⟨keyed.index, keyed.document⟩
  | index index => exact keyed.apply (.putIndex index)
  | document document => exact keyed.apply (.putDocument document)

/-- Whatever stands in a text, what is read from it stands under its own keys. -/
theorem keyed_of_read {text : String} {tables : Tables} (done : read text = .ok tables) :
    tables.Keyed := by
  unfold read at done
  have keyed := Tables.Keyed.empty
  generalize Tables.empty = start at done keyed
  generalize (splitLines text.toList).filter (fun line => !line.isEmpty) = lines at done
  induction lines generalizing start with
  | nil =>
      cases done
      exact keyed
  | cons line rest ih =>
      rw [List.foldlM_cons] at done
      cases made : Entry.ofLine line with
      | error fault => simp [takeLine, made, bind, Except.bind] at done
      | ok entry =>
          simp only [takeLine, made, bind, Except.bind] at done
          exact ih _ (keyed_takeEntry keyed entry) done

end Snapshot

end DocStore

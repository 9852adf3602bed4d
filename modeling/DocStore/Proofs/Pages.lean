import DocStore.Proofs.Codec.ByteOrder
import DocStore.Proofs.Tables
import DocStore.Store.Operations
/-!
Pages of the matches of a query.

One pass over an index counts the matches and lists those of a page
(`QueryResult.foldl_visit`), so that a page is a part of one list of matches and
every page tells its length (`Tables.query_eq`).  Pages of one size that follow
each other are that list again (`Tables.pages_tile`).
-/

namespace DocStore

open Query (Predicate)

namespace QueryResult

variable {predicate : Predicate} {page : Page}

/-- What a page still takes of matches that come after `rank` others, of which it has `listed`. -/
def taken (page : Page) (rank listed : Nat) (found : List α) : List α :=
  (found.drop (page.offset - rank)).take (page.limit - listed)

theorem taken_cons (page : Page) (rank listed : Nat) (first : α) (rest : List α) :
    taken page rank listed (first :: rest) =
      if page.offset ≤ rank ∧ listed < page.limit then
        first :: taken page (rank + 1) (listed + 1) rest
      else taken page (rank + 1) listed rest := by
  unfold taken
  split
  case isTrue reached =>
    rw [Nat.sub_eq_zero_of_le reached.1, Nat.sub_eq_zero_of_le (Nat.le_succ_of_le reached.1),
      List.drop_zero, List.drop_zero,
      show page.limit - listed = page.limit - (listed + 1) + 1 by omega, List.take_succ_cons]
  case isFalse outside =>
    by_cases early : rank < page.offset
    · rw [show page.offset - rank = page.offset - (rank + 1) + 1 by omega, List.drop_succ_cons]
    · rw [show page.limit - listed = 0 by omega, List.take_zero, List.take_zero]

/-- A pass adds the number of the matches, and those of them that the page takes. -/
theorem foldl_visit (documents : List Document) (result : QueryResult) {found : List Document}
    (matching : documents.filter (fun document => predicate.eval document.fields) = found) :
    documents.foldl (visit predicate page) result =
      ⟨result.total + found.length,
        result.documents ++
          (taken page result.total result.documents.length found).map Document.summary⟩ := by
  induction documents generalizing result found with
  | nil =>
      subst matching
      simp [taken]
  | cons document rest ih =>
      rw [List.foldl_cons]
      by_cases holds : predicate.eval document.fields = true
      · rw [List.filter_cons, if_pos holds] at matching
        subst matching
        rw [ih _ rfl, visit, if_pos holds, taken_cons]
        split <;> simp <;> omega
      · rw [List.filter_cons, if_neg holds] at matching
        rw [ih _ matching, visit, if_neg holds]

end QueryResult

namespace Tables

theorem query_eq_of_filter (tables : Tables) (indexId : String) (predicate : Predicate)
    (page : Page) :
    tables.query indexId predicate page =
      let found := (tables.indexDocuments indexId).filter fun document =>
        predicate.eval document.fields
      ⟨found.length, ((found.drop page.offset).take page.limit).map Document.summary⟩ := by
  rw [query, QueryResult.foldl_visit _ _ rfl]
  simp [QueryResult.taken]

/-- The documents of an index that a predicate holds of, with their keys. -/
def matchesOf (tables : Tables) (indexId : String) (predicate : Predicate) :
    List (DocumentKey × Document) :=
  (tables.indexEntries indexId).filter fun entry => predicate.eval entry.2.fields

variable {tables : Tables} {indexId : String} {predicate : Predicate}

theorem query_eq (tables : Tables) (indexId : String) (predicate : Predicate) (page : Page) :
    tables.query indexId predicate page =
      let found := tables.matchesOf indexId predicate
      ⟨found.length, ((found.drop page.offset).take page.limit).map (·.2.summary)⟩ := by
  have found : (tables.indexDocuments indexId).filter
      (fun document => predicate.eval document.fields) =
        (tables.matchesOf indexId predicate).map Prod.snd := by
    rw [indexDocuments, List.filter_map]
    rfl
  rw [query_eq_of_filter, found]
  simp [List.map_drop, List.map_take, Function.comp_def]

theorem mem_matchesOf {key : DocumentKey} {document : Document} :
    (key, document) ∈ tables.matchesOf indexId predicate ↔
      tables.documents.get? key = some document ∧ key.indexId = indexId ∧
        predicate.eval document.fields = true := by
  rw [matchesOf, indexEntries_eq, List.mem_filter, List.mem_filter, SortedMap.mem_entries_iff,
    beq_iff_eq, and_assoc]

/-- The matches of an index differ in their ids alone. -/
theorem matchesOf_ascending (tables : Tables) (indexId : String) (predicate : Predicate) :
    (tables.matchesOf indexId predicate).Pairwise fun a b => a.1.id < b.1.id := by
  have sorted : (tables.matchesOf indexId predicate).Pairwise
      fun a b => compare a.1 b.1 = .lt := by
    rw [matchesOf, indexEntries_eq]
    exact (tables.documents.ascending.filter _).filter _
  refine sorted.imp_of_mem fun {a b} first second below => ?_
  have home : a.1.indexId = b.1.indexId :=
    (mem_matchesOf.mp first).2.1.trans (mem_matchesOf.mp second).2.1.symm
  rw [DocumentKey.compare_eq, home, compare_eq_iff_eq.mpr rfl] at below
  exact compare_lt_iff_lt.mp below

/-- A list of the matches of an index, each of them once: what is stored under the keys of the index
and satisfies the predicate, in the order of the bytes of the ids. -/
structure ListsMatches (tables : Tables) (indexId : String) (predicate : Predicate)
    (found : List (DocumentKey × Document)) : Prop where
  mem_iff : ∀ key document, (key, document) ∈ found ↔
    tables.documents.get? key = some document ∧ key.indexId = indexId ∧
      predicate.eval document.fields = true
  ordered : found.Pairwise fun a b => Bytes.ofString a.1.id < Bytes.ofString b.1.id

theorem listsMatches_matchesOf (tables : Tables) (indexId : String) (predicate : Predicate) :
    tables.ListsMatches indexId predicate (tables.matchesOf indexId predicate) where
  mem_iff _ _ := mem_matchesOf
  ordered := (tables.matchesOf_ascending indexId predicate).imp Bytes.ofString_lt_iff.mpr

/-- In tables whose documents stand under their own keys, the ids of matches are those of their
keys. -/
theorem ListsMatches.named {found : List (DocumentKey × Document)}
    (lists : tables.ListsMatches indexId predicate found) (keyed : tables.Keyed)
    {entry : DocumentKey × Document} (member : entry ∈ found) :
    entry.2.summary.id = entry.1.id ∧ entry.2.summary.indexId = indexId := by
  obtain ⟨stored, here, -⟩ := (lists.mem_iff entry.1 entry.2).mp member
  have own : entry.2.key = entry.1 := keyed.document entry.1 entry.2 stored
  exact ⟨congrArg DocumentKey.id own, (congrArg DocumentKey.indexId own).trans here⟩

private theorem flatMap_range_parts (size pages : Nat) (found : List α) :
    (List.range pages).flatMap (fun k => (found.drop (k * size)).take size) =
      found.take (pages * size) := by
  induction pages with
  | zero => simp
  | succ pages ih =>
      rw [List.range_succ, List.flatMap_append, ih, List.flatMap_singleton, Nat.succ_mul,
        List.take_add]

/-- Pages of one size, one after another, are the first matches. -/
theorem flatMap_query (tables : Tables) (indexId : String) (predicate : Predicate)
    (size pages : Nat) :
    (List.range pages).flatMap
        (fun k => (tables.query indexId predicate ⟨k * size, size⟩).documents) =
      ((tables.matchesOf indexId predicate).take (pages * size)).map (·.2.summary) := by
  simp only [query_eq, ← List.map_flatMap, flatMap_range_parts]

/-- There is one list of the matches of an index, which every page tells the length of and is a part
of, and which the pages of any size are when they are put together. -/
theorem pages_tile (tables : Tables) (indexId : String) (predicate : Predicate) :
    ∃ found : List (DocumentKey × Document),
      tables.ListsMatches indexId predicate found ∧
        (∀ page : Page, tables.query indexId predicate page =
          ⟨found.length, ((found.drop page.offset).take page.limit).map (·.2.summary)⟩) ∧
        (∀ size pages : Nat, 0 < size → found.length ≤ pages * size →
          (List.range pages).flatMap
              (fun k => (tables.query indexId predicate ⟨k * size, size⟩).documents) =
            found.map (·.2.summary)) ∧
        (tables.Keyed → ∀ entry ∈ found,
          entry.2.summary.id = entry.1.id ∧ entry.2.summary.indexId = indexId) := by
  refine ⟨tables.matchesOf indexId predicate, tables.listsMatches_matchesOf indexId predicate,
    tables.query_eq indexId predicate, fun size pages _ enough => ?_, fun keyed entry member => ?_⟩
  · rw [flatMap_query, List.take_of_length_le enough]
  · exact (tables.listsMatches_matchesOf indexId predicate).named keyed member

/-- Three documents of an index, with one of an index that its id is the beginning of. -/
def shelves : Tables :=
  [.putDocument (.ofSource "a" "2" .null), .putDocument (.ofSource "ab" "0" .null),
    .putDocument (.ofSource "a" "é" .null), .putDocument (.ofSource "a" "10" .null)].foldl
      Tables.apply .empty

theorem shelves_tiled :
    0 < 2 ∧ shelves.Keyed ∧ ∃ found, shelves.ListsMatches "a" .always found ∧ found.length = 3 ∧
      (List.range 2).flatMap
          (fun k => (shelves.query "a" .always ⟨k * 2, 2⟩).documents) =
        found.map (·.2.summary) ∧
      ∀ entry ∈ found, entry.2.summary.id = entry.1.id ∧ entry.2.summary.indexId = "a" := by
  have keyed : shelves.Keyed := Keyed.empty.foldl_apply _
  have counted : (shelves.query "a" .always ⟨0, 0⟩).total = 3 := by rfl
  obtain ⟨found, lists, answers, tiles, own⟩ := pages_tile shelves "a" .always
  rw [answers] at counted
  have three : found.length = 3 := counted
  exact ⟨by decide, keyed, found, lists, three, tiles 2 2 (by decide) (by omega), own keyed⟩

end Tables

end DocStore

import DocStore.Error
import DocStore.Proofs.Accounting
import DocStore.Proofs.Number.Binary64
import DocStore.Proofs.Projection
/-!
When an index agrees with its documents.

Agreement is said of the sources (`Index.Agrees`): every document belongs to the
index, holds the leaves of its source, and is counted for exactly the paths at
which its source has leaves.  A check succeeds in just that case, and otherwise
reports a disagreement that is there (`Index.check_decides_agreement`).
-/

namespace DocStore

namespace Primitive

/-- Values of one kind that are the same.  Only zeros can be alike and differ, in their sign. -/
inductive Alike : Primitive → Primitive → Prop where
  | refl (value : Primitive) : Alike value value
  | float {x y : Binary64} (same : x.units = y.units) :
      Alike (.number (.float x)) (.number (.float y))

theorem equal_iff_alike (a b : Primitive) : a.equal b = true ↔ a.Alike b := by
  constructor
  · intro equal
    cases a <;> cases b <;> simp only [Primitive.equal, beq_iff_eq, Bool.false_eq_true] at equal
    case null.null => exact .refl _
    case bool.bool => exact equal ▸ .refl _
    case string.string => exact equal ▸ .refl _
    case number.number a b =>
      cases a <;> cases b <;> simp only [Number.equal, beq_iff_eq, Bool.false_eq_true] at equal
      case natural.natural => exact equal ▸ .refl _
      case negative.negative => exact equal ▸ .refl _
      case float.float => exact .float ((Binary64.sameValue_iff _ _).mp equal)
  · intro alike
    cases alike with
    | refl => exact a.equal_self
    | float same => exact (Binary64.sameValue_iff _ _).mpr same

end Primitive

private theorem all_zip_iff {α : Type} {related : α → α → Prop} {p : α × α → Bool}
    (decides : ∀ a b, p (a, b) = true ↔ related a b) (as bs : List α) :
    as.length = bs.length ∧ (as.zip bs).all p = true ↔ List.Forall₂ related as bs := by
  rw [List.forall₂_iff_zip, List.all_eq_true]
  refine and_congr_right fun _ => ⟨fun all a b member => ?_, fun all pair member => ?_⟩
  · exact (decides a b).mp (all (a, b) member)
  · exact (decides pair.1 pair.2).mpr (all member)

namespace SortedMap

variable {ν : Type} {related : ν → ν → Prop} {a b : SortedMap String ν}

private theorem rel_find? {as bs : List (String × ν)}
    (bindings : List.Forall₂ (fun x y => x.1 = y.1 ∧ related x.2 y.2) as bs) (key : String) :
    Option.Rel related ((as.find? fun entry => entry.1 = key).map Prod.snd)
      ((bs.find? fun entry => entry.1 = key).map Prod.snd) := by
  induction bindings with
  | nil => exact .none
  | @cons x y as bs first _ ih =>
      obtain ⟨keys, values⟩ := first
      by_cases here : y.1 = key
      · simpa [keys, here] using Option.Rel.some values
      · simpa [keys, here] using ih

/-- Maps are related binding by binding exactly when their lookups are. -/
theorem forall₂_entries_iff :
    List.Forall₂ (fun x y => x.1 = y.1 ∧ related x.2 y.2) a.entries b.entries ↔
      ∀ key, Option.Rel related (a.get? key) (b.get? key) := by
  constructor
  · intro bindings key
    rw [get?_eq_find?, get?_eq_find?]
    exact rel_find? bindings key
  · intro lookups
    -- Maps whose lookups are related have the same keys, and what is bound to a key is related.
    have shape : a.mapValues (fun _ => ()) = b.mapValues fun _ => () := by
      refine ext_get? fun key => ?_
      have here := lookups key
      rw [get?_mapValues, get?_mapValues]
      generalize a.get? key = left at here
      generalize b.get? key = right at here
      cases here <;> rfl
    have keys : List.Forall₂ (fun x y => x.1 = y.1) a.entries b.entries := by
      have same : a.entries.map Prod.fst = b.entries.map Prod.fst := by
        simpa [mapValues, keys, Function.comp_def] using congrArg SortedMap.keys shape
      rw [← List.forall₂_eq_eq_eq, List.forall₂_map_left_iff, List.forall₂_map_right_iff] at same
      exact same
    obtain ⟨lengths, firsts⟩ := List.forall₂_iff_zip.mp keys
    refine List.forall₂_iff_zip.mpr ⟨lengths, fun {x y} pair => ⟨firsts pair, ?_⟩⟩
    obtain ⟨left, right⟩ := List.of_mem_zip pair
    have here := lookups x.1
    rw [mem_entries_iff.mp left, firsts pair, mem_entries_iff.mp right] at here
    cases here with
    | some related => exact related

end SortedMap

/-- Whether some leaf of a document has the path. -/
def Json.hasLeaf (document : Json) (path : String) : Bool :=
  document.leaves.any fun leaf => Projection.joinPath leaf.1 = path

namespace Projection

theorem contains_flatten (document : Json) (path : String) :
    (flatten document).contains path = document.hasLeaf path := by
  rw [Bool.eq_iff_iff, contains_flatten_iff]
  simp [Json.hasLeaf]

theorem equal_iff_rel (a b : Projection) :
    a.equal b = true ↔
      ∀ path, Option.Rel (List.Forall₂ Primitive.Alike) (a.get? path) (b.get? path) := by
  have values (as bs : List Primitive) :
      as.length = bs.length ∧ (as.zip bs).all (fun pair => pair.1.equal pair.2) = true ↔
        List.Forall₂ Primitive.Alike as bs :=
    all_zip_iff Primitive.equal_iff_alike as bs
  rw [← SortedMap.forall₂_entries_iff]
  refine Iff.trans ?_ (all_zip_iff (p := fun pair =>
    pair.1.1 == pair.2.1 && pair.1.2.length == pair.2.2.length &&
      (pair.1.2.zip pair.2.2).all fun values => values.1.equal values.2) (fun x y => ?_) _ _)
  · simp [equal, SortedMap.size]
  · simp [← values, and_assoc]

end Projection

/-- A document holds the leaves of its source, grouped by path. -/
structure Document.Projected (document : Document) : Prop where
  paths : ∀ path, document.fields.contains path = document.source.hasLeaf path
  values : ∀ path values, document.fields.get? path = some values →
    List.Forall₂ Primitive.Alike values (document.source.leavesAt path)

theorem Document.equal_flatten_iff (document : Document) :
    document.fields.equal (.flatten document.source) = true ↔ document.Projected := by
  rw [Projection.equal_iff_rel]
  constructor
  · intro lookups
    refine ⟨fun path => ?_, fun path values found => ?_⟩
    · have here := lookups path
      rw [← Projection.contains_flatten, SortedMap.contains, SortedMap.contains]
      generalize document.fields.get? path = found at here
      generalize (Projection.flatten document.source).get? path = held at here
      cases here <;> rfl
    · have here := lookups path
      rw [found] at here
      generalize source : (Projection.flatten document.source).get? path = held at here
      cases here with
      | some alike => exact (Projection.get?_flatten_eq_some_iff.mp source).1 ▸ alike
  · intro projected path
    have same := projected.paths path
    rw [← Projection.contains_flatten, SortedMap.contains, SortedMap.contains] at same
    cases found : document.fields.get? path <;>
      cases source : (Projection.flatten document.source).get? path <;>
      simp only [found, source, Option.isSome_none, Option.isSome_some, reduceCtorEq] at same
    case none.none => exact .none
    case some.some values held =>
      have alike := projected.values path values found
      rw [← (Projection.get?_flatten_eq_some_iff.mp source).1] at alike
      exact .some alike

/-- How many of the documents have a leaf with the path in their sources. -/
def Document.countWithLeaf (documents : List Document) (path : String) : Nat :=
  documents.countP fun document => document.source.hasLeaf path

/-- Every document belongs to the index and holds the leaves of its source, and the index has a
count of 64 bits for the paths of these leaves, which is the number of documents that have it. -/
structure Index.Agrees (index : Index) (documents : List Document) : Prop where
  own : ∀ document ∈ documents, document.indexId = index.id
  projected : ∀ document ∈ documents, document.Projected
  counted : ∀ path count, index.fields.get? path = some count ↔
    (∃ document ∈ documents, document.source.hasLeaf path = true) ∧
      count = .ofNat (Document.countWithLeaf documents path)

/-- What a report says of an index and its documents. -/
def Drift.Tells (index : Index) (documents : List Document) : Drift → Prop
  | .foreignDocument indexId documentIndex documentId =>
      indexId = index.id ∧ ∃ document ∈ documents, document.indexId = documentIndex ∧
        document.id = documentId ∧ document.indexId ≠ index.id
  | .staleProjection documentIndex documentId =>
      ∃ document ∈ documents, document.indexId = documentIndex ∧ document.id = documentId ∧
        ¬ document.Projected
  | .wrongCounts indexId paths =>
      indexId = index.id ∧ paths ≠ [] ∧ ∀ path, path ∈ paths ↔
        index.fields.get? path ≠ FieldCounts.entry (Document.countWithLeaf documents path)

namespace Index

variable {index : Index} {documents : List Document} {drift : Drift}

/-- Counting the stored paths of documents that hold the leaves of their sources. -/
theorem get?_ofDocuments_eq (projected : ∀ document ∈ documents, document.Projected)
    (path : String) : (FieldCounts.ofDocuments documents).get? path =
      FieldCounts.entry (Document.countWithLeaf documents path) := by
  rw [FieldCounts.get?_ofDocuments, Document.countWithLeaf]
  refine congrArg FieldCounts.entry (List.countP_congr fun document member => ?_)
  rw [(projected document member).paths]

theorem ofDocuments_eq_iff (projected : ∀ document ∈ documents, document.Projected) :
    FieldCounts.ofDocuments documents = index.fields ↔
      ∀ path count, index.fields.get? path = some count ↔
        (∃ document ∈ documents, document.source.hasLeaf path = true) ∧
          count = .ofNat (Document.countWithLeaf documents path) := by
  have counted (path : String) (count : UInt64) :
      (FieldCounts.ofDocuments documents).get? path = some count ↔
        (∃ document ∈ documents, document.source.hasLeaf path = true) ∧
          count = .ofNat (Document.countWithLeaf documents path) := by
    rw [get?_ofDocuments_eq projected, FieldCounts.entry_eq_some_iff, ← Nat.pos_iff_ne_zero,
      Document.countWithLeaf, List.countP_pos_iff]
  simp only [← counted]
  constructor
  · intro same path count
    rw [same]
  · intro same
    exact SortedMap.ext_get? fun path => Option.ext fun count => (same path count).symm

theorem check_eq_ok_iff_agrees : index.check documents = .ok () ↔ index.Agrees documents := by
  rw [check_eq_ok_iff]
  simp only [Document.equal_flatten_iff]
  constructor
  · rintro ⟨each, counted⟩
    have projected : ∀ document ∈ documents, document.Projected := fun document member =>
      (each document member).2
    exact ⟨fun document member => (each document member).1, projected,
      (ofDocuments_eq_iff projected).mp counted⟩
  · rintro ⟨own, projected, counted⟩
    exact ⟨fun document member => ⟨own document member, projected document member⟩,
      (ofDocuments_eq_iff projected).mpr counted⟩

theorem mem_differingPaths {a b : FieldCounts} {path : String} :
    path ∈ differingPaths a b ↔ a.get? path ≠ b.get? path := by
  simp only [differingPaths, List.mem_filter, List.mem_append, SortedMap.mem_keys_iff, bne_iff_ne,
    and_iff_right_iff_imp]
  intro different
  cases first : a.get? path with
  | some _ => exact .inl rfl
  | none => exact .inr (Option.isSome_iff_ne_none.mpr (first ▸ different.symm))

private theorem tells_checkDocument {document : Document} (member : document ∈ documents)
    (failed : index.checkDocument document = .error drift) : drift.Tells index documents := by
  unfold checkDocument at failed
  split at failed
  case isTrue foreign =>
    cases failed
    exact ⟨rfl, document, member, rfl, rfl, foreign⟩
  case isFalse =>
    split at failed
    case isTrue stale =>
      cases failed
      refine ⟨document, member, rfl, rfl, fun projected => ?_⟩
      simp [(document.equal_flatten_iff).mpr projected] at stale
    case isFalse => cases failed

private theorem exists_of_forM {documents : List Document}
    (failed : documents.forM index.checkDocument = .error drift) :
    ∃ document ∈ documents, index.checkDocument document = .error drift := by
  induction documents with
  | nil => cases failed
  | cons first rest ih =>
      cases checked : index.checkDocument first with
      | error found =>
          simp only [List.forM, checked, bind, Except.bind] at failed
          exact ⟨first, List.mem_cons_self, failed ▸ checked⟩
      | ok _ =>
          simp only [List.forM, checked, bind, Except.bind] at failed
          obtain ⟨document, member, failed⟩ := ih failed
          exact ⟨document, List.mem_cons_of_mem _ member, failed⟩

/-- What a check reports is so. -/
theorem tells_of_check (failed : index.check documents = .error drift) :
    drift.Tells index documents := by
  cases checked : documents.forM index.checkDocument with
  | error found =>
      simp only [check, checked, bind, Except.bind, Except.error.injEq] at failed
      obtain ⟨document, member, reported⟩ := exists_of_forM checked
      exact tells_checkDocument member (failed ▸ reported)
  | ok _ =>
      have projected : ∀ document ∈ documents, document.Projected := fun document member =>
        document.equal_flatten_iff.mp (forM_checkDocument_eq_ok_iff.mp checked document member).2
      by_cases counted : FieldCounts.ofDocuments documents = index.fields
      · simp [check, checked, counted, bind, Except.bind, pure, Except.pure] at failed
      · simp only [check, checked, bind, Except.bind, ne_eq, counted, not_false_eq_true, if_true,
          Except.error.injEq] at failed
        have drifted (path : String) :
            path ∈ differingPaths (FieldCounts.ofDocuments documents) index.fields ↔
              index.fields.get? path ≠
                FieldCounts.entry (Document.countWithLeaf documents path) := by
          rw [mem_differingPaths, get?_ofDocuments_eq projected, ne_comm]
        subst failed
        refine ⟨rfl, fun none => counted (SortedMap.ext_get? fun path => ?_), drifted⟩
        have same := mem_differingPaths.not.mp (none ▸ List.not_mem_nil (a := path))
        exact not_not.mp same

/-- A check succeeds exactly when the index agrees with the documents, and otherwise reports a
violated invariant that is there. -/
theorem check_decides_agreement (index : Index) (documents : List Document) :
    (index.check documents = .ok () ↔ index.Agrees documents) ∧
    (¬ index.Agrees documents ↔ ∃ drift, index.check documents = .error drift ∧
      drift.Tells index documents ∧
      (StoreError.inconsistent drift).kind = .invariantViolation) := by
  refine ⟨check_eq_ok_iff_agrees, ?_⟩
  rw [← check_eq_ok_iff_agrees]
  cases checked : index.check documents with
  | ok _ => simp
  | error drift =>
      exact ⟨fun _ => ⟨drift, rfl, tells_of_check checked, rfl⟩, fun _ => nofun⟩

/-- The count is right, but the source holds 1 and the projection 1.0. -/
example :
    (Index.mk "books" (.ofList [("price", 1)])).check
      [⟨"a", "books", .object [("price", .number (.natural 1))], .ofList
        [("price", [.number (.float ⟨false, ⟨4607182418800017408, by decide⟩⟩)])]⟩] =
      .error (.staleProjection "books" "a") := by
  decide +kernel

end Index

end DocStore

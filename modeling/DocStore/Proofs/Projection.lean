import DocStore.Projection
import DocStore.Proofs.SortedMap
/-!
Projections by the leaves of documents.

The leaves of a document come in its own order, each with the keys above it.  Its
projection holds under a path the values of the leaves with that path
(`get?_flatten`), whether they stand in one list or their keys only look alike
when they are joined.  It has no other paths, and no leaf is lost or held twice
(`flatten_groups_leaves`).
-/

namespace DocStore

namespace Json

mutual

/-- The leaves of a value in its order, each with the keys above it. -/
def leaves : Json → List (List String × Primitive)
  | .array items => itemLeaves items
  | .object members => memberLeaves members
  | .null => [([], .null)]
  | .bool value => [([], .bool value)]
  | .number value => [([], .number value)]
  | .string text => [([], .string text)]

def itemLeaves : List Json → List (List String × Primitive)
  | [] => []
  | item :: rest => leaves item ++ itemLeaves rest

def memberLeaves : List (String × Json) → List (List String × Primitive)
  | [] => []
  | (key, value) :: rest =>
      (leaves value).map (fun (keys, leaf) => (key :: keys, leaf)) ++ memberLeaves rest

end

/-- The values of the leaves whose keys join to the path. -/
def leavesAt (document : Json) (path : String) : List Primitive :=
  (document.leaves.filter fun leaf => Projection.joinPath leaf.1 = path).map Prod.snd

/-- The value of the first leaf whose keys join to the path. -/
def firstLeaf (document : Json) (path : String) : Option Primitive :=
  (document.leaves.find? fun leaf => Projection.joinPath leaf.1 = path).map Prod.snd

theorem head?_leavesAt (document : Json) (path : String) :
    (document.leavesAt path).head? = document.firstLeaf path := by
  rw [leavesAt, firstLeaf, List.head?_map, List.head?_filter]

end Json

namespace Projection

/-- Adds leaves one after another, below the given keys. -/
def addAll (keys : List String) (projection : Projection)
    (leaves : List (List String × Primitive)) : Projection :=
  leaves.foldl (fun projection leaf => addValue projection (joinPath (keys ++ leaf.1)) leaf.2)
    projection

theorem addAll_append (keys : List String) (projection : Projection)
    (first second : List (List String × Primitive)) :
    addAll keys projection (first ++ second) = addAll keys (addAll keys projection first) second :=
  List.foldl_append

theorem addAll_below (keys : List String) (key : String) (projection : Projection)
    (leaves : List (List String × Primitive)) :
    addAll keys projection (leaves.map fun (inner, leaf) => (key :: inner, leaf)) =
      addAll (keys ++ [key]) projection leaves := by
  simp only [addAll, List.foldl_map, List.append_assoc, List.singleton_append]

mutual

theorem addLeaves_eq (keys : List String) (projection : Projection) (value : Json) :
    addLeaves keys projection value = addAll keys projection value.leaves := by
  match value with
  | .array items => simp only [addLeaves, Json.leaves, addItems_eq keys projection items]
  | .object members => simp only [addLeaves, Json.leaves, addMembers_eq keys projection members]
  | .null | .bool _ | .number _ | .string _ =>
      simp only [addLeaves, Json.leaves, addAll, List.foldl_cons, List.foldl_nil, List.append_nil]

theorem addItems_eq (keys : List String) (projection : Projection) (items : List Json) :
    addItems keys projection items = addAll keys projection (Json.itemLeaves items) := by
  match items with
  | [] => simp only [addItems, Json.itemLeaves, addAll, List.foldl_nil]
  | item :: rest =>
      simp only [addItems, Json.itemLeaves, addAll_append, addLeaves_eq keys projection item,
        addItems_eq keys _ rest]

theorem addMembers_eq (keys : List String) (projection : Projection)
    (members : List (String × Json)) :
    addMembers keys projection members = addAll keys projection (Json.memberLeaves members) := by
  match members with
  | [] => simp only [addMembers, Json.memberLeaves, addAll, List.foldl_nil]
  | (key, value) :: rest =>
      simp only [addMembers, Json.memberLeaves, addAll_append, addAll_below,
        addLeaves_eq (keys ++ [key]) projection value, addMembers_eq keys _ rest]

end

theorem get?_addValue (projection : Projection) (path other : String) (value : Primitive) :
    ((projection.addValue path value).get? other).getD [] =
      (projection.get? other).getD [] ++ if path = other then [value] else [] := by
  rw [addValue, SortedMap.get?_insert_eq]
  by_cases same : other = path
  · simp [same]
  · simp [same, Ne.symm same]

theorem get?_addAll (projection : Projection) (leaves : List (List String × Primitive))
    (path : String) :
    ((addAll [] projection leaves).get? path).getD [] =
      (projection.get? path).getD [] ++
        (leaves.filter fun leaf => joinPath leaf.1 = path).map Prod.snd := by
  induction leaves generalizing projection with
  | nil => simp [addAll]
  | cons leaf rest ih =>
      have later := ih (projection.addValue (joinPath leaf.1) leaf.2)
      rw [get?_addValue, List.append_assoc] at later
      refine later.trans (congrArg _ ?_)
      by_cases here : joinPath leaf.1 = path <;> simp [here]

/-- Under a path a projection holds the values of the leaves there, in the order of the document. -/
theorem get?_flatten (document : Json) (path : String) :
    ((flatten document).get? path).getD [] = document.leavesAt path := by
  rw [flatten, addLeaves_eq, get?_addAll]
  rfl

theorem head?_flatten (document : Json) (path : String) :
    ((flatten document).get? path).bind List.head? = document.firstLeaf path := by
  rw [← Json.head?_leavesAt, ← get?_flatten]
  cases (flatten document).get? path <;> rfl

/-- No path of a projection is without values. -/
def Filled (projection : Projection) : Prop :=
  ∀ path values, projection.get? path = some values → values ≠ []

theorem Filled.empty : Filled ∅ := by
  intro path values found
  rw [SortedMap.get?_empty] at found
  cases found

theorem Filled.addValue {projection : Projection} (filled : projection.Filled) (path : String)
    (value : Primitive) : (projection.addValue path value).Filled :=
  SortedMap.forall_get?_insert filled (by simp)

theorem Filled.addAll {projection : Projection} (filled : projection.Filled) (keys : List String)
    (leaves : List (List String × Primitive)) : (addAll keys projection leaves).Filled := by
  induction leaves generalizing projection with
  | nil => exact filled
  | cons leaf rest ih => exact ih (filled.addValue _ leaf.2)

theorem filled_flatten (document : Json) : (flatten document).Filled := by
  rw [flatten, addLeaves_eq]
  exact Filled.empty.addAll [] document.leaves

theorem get?_flatten_eq_some_iff {document : Json} {path : String} {values : List Primitive} :
    (flatten document).get? path = some values ↔
      values = document.leavesAt path ∧ values ≠ [] := by
  constructor
  · intro found
    have held := get?_flatten document path
    rw [found] at held
    exact ⟨held, filled_flatten document path values found⟩
  · rintro ⟨rfl, some⟩
    have held := get?_flatten document path
    cases found : (flatten document).get? path with
    | none => rw [found] at held; exact absurd held.symm some
    | some values => rw [found] at held; exact congrArg _ held

theorem contains_flatten_iff {document : Json} {path : String} :
    (flatten document).contains path = true ↔
      ∃ leaf ∈ document.leaves, joinPath leaf.1 = path := by
  have some : document.leavesAt path ≠ [] ↔
      ∃ leaf ∈ document.leaves, joinPath leaf.1 = path := by
    simp [Json.leavesAt, List.filter_eq_nil_iff]
  rw [← some, SortedMap.contains, Option.isSome_iff_exists]
  simp only [get?_flatten_eq_some_iff, exists_eq_left]

/-- All values of a projection, each with its path. -/
def listed (projection : Projection) : List (String × Primitive) :=
  projection.entries.flatMap fun (path, values) => values.map fun value => (path, value)

theorem map_snd_listed (projection : Projection) :
    projection.listed.map Prod.snd = projection.values.flatten := by
  simp [SortedMap.values, listed, List.flatMap_def, Function.comp_def]

theorem filter_listed (projection : Projection) (path : String) :
    projection.listed.filter (fun entry => entry.1 = path) =
      ((projection.get? path).getD []).map fun value => (path, value) := by
  have distinct : (projection.entries.map Prod.fst).Nodup := projection.keys_nodup
  rw [listed, SortedMap.get?_eq_find?]
  generalize projection.entries = entries at distinct
  induction entries with
  | nil => rfl
  | cons first rest ih =>
      obtain ⟨fresh, distinct⟩ := List.nodup_cons.mp distinct
      rw [List.flatMap_cons, List.filter_append, ih distinct]
      by_cases here : first.1 = path
      · have absent : rest.find? (fun entry => entry.1 = path) = none := by
          refine List.find?_eq_none.mpr fun entry member same => fresh ?_
          rw [here, ← of_decide_eq_true same]
          exact List.mem_map_of_mem member
        simp [here, absent, List.filter_map, Function.comp_def]
      · simp [here, List.filter_map, Function.comp_def]

/-- The values of a projection are the leaves of the document, in another order. -/
theorem listed_flatten_perm (document : Json) :
    (flatten document).listed.Perm
      (document.leaves.map fun leaf => (joinPath leaf.1, leaf.2)) := by
  -- Under each path both list the same values, even in the same order.
  have same (path : String) : (flatten document).listed.filter (fun entry => entry.1 = path) =
      (document.leaves.map fun leaf => (joinPath leaf.1, leaf.2)).filter
        (fun entry => entry.1 = path) := by
    rw [filter_listed, get?_flatten, Json.leavesAt, List.filter_map, List.map_map]
    refine List.map_congr_left fun leaf member => ?_
    have here := of_decide_eq_true (List.mem_filter.mp member).2
    exact Prod.ext here.symm rfl
  refine List.perm_iff_count.mpr fun entry => ?_
  have kept (entries : List (String × Primitive)) :
      (entries.filter fun other => other.1 = entry.1).count entry = entries.count entry :=
    List.count_filter (decide_eq_true rfl)
  rw [← kept, same, kept]

/-- A projection groups the leaves of the document by path.  Its paths are those of the leaves, and
under each path are the values of the leaves there, one at least, in the order of the document;
taken together they are all leaves, each as often as it is in the document. -/
theorem flatten_groups_leaves (document : Json) :
    (∀ path, path ∈ (flatten document).keys ↔
      ∃ leaf ∈ document.leaves, joinPath leaf.1 = path) ∧
    (∀ path values, (flatten document).get? path = some values ↔
      values = document.leavesAt path ∧ values ≠ []) ∧
    (flatten document).listed.Perm
      (document.leaves.map fun leaf => (joinPath leaf.1, leaf.2)) ∧
    (flatten document).values.flatten.length = document.leaves.length := by
  have all := listed_flatten_perm document
  refine ⟨fun path => ?_, fun _ _ => get?_flatten_eq_some_iff, all, ?_⟩
  · exact SortedMap.mem_keys_iff.trans contains_flatten_iff
  · rw [← map_snd_listed, List.length_map, all.length_eq, List.length_map]

/-- A key with a dot looks like a nested key. -/
example :
    (flatten (.object [("a.b", .bool true), ("a", .object [("b", .array [.null])])])).entries =
      [("a.b", [.bool true, .null])] := by
  decide +kernel

end Projection

end DocStore

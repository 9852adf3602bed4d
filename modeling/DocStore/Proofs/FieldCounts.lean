import DocStore.Document
import DocStore.Proofs.SortedMap

namespace DocStore

namespace FieldDelta

/-- The change of a path; one that is not listed does not change. -/
def changeAt (delta : FieldDelta) (path : String) : Int64 := (delta.get? path).getD 0

theorem changeAt_add (delta : FieldDelta) (path other : String) (change : Int64) :
    (delta.add path change).changeAt other =
      delta.changeAt other + if other = path then change else 0 := by
  by_cases same : other = path
  · simp [changeAt, add, SortedMap.get?_insert_eq, same]
  · simp [changeAt, add, SortedMap.get?_insert_eq, same]

/-- Changes of different paths that are added one after another. -/
theorem changeAt_foldl_add {α : Type} (pathOf : α → String) (changeOf : α → Int64)
    {items : List α} (distinct : (items.map pathOf).Nodup) (delta : FieldDelta) (path : String) :
    (items.foldl (fun delta item => delta.add (pathOf item) (changeOf item)) delta).changeAt path =
      delta.changeAt path + ((items.find? fun item => pathOf item = path).map changeOf).getD 0 := by
  induction items generalizing delta with
  | nil => simp
  | cons item rest ih =>
      obtain ⟨fresh, distinct⟩ := List.nodup_cons.mp distinct
      rw [List.foldl_cons, ih distinct, changeAt_add]
      by_cases same : pathOf item = path
      · have absent : rest.find? (fun other => pathOf other = path) = none := by
          refine List.find?_eq_none.mpr fun other member here => fresh ?_
          rw [same, ← of_decide_eq_true here]
          exact List.mem_map_of_mem member
        simp [same, absent]
      · simp [same, Ne.symm same]

/-- Each path of a projection is changed by the same. -/
theorem changeAt_foldl_keys (projection : Projection) (change : Int64) (delta : FieldDelta)
    (path : String) :
    (projection.keys.foldl (fun delta path => delta.add path change) delta).changeAt path =
      delta.changeAt path + if projection.contains path then change else 0 := by
  have distinct : (projection.keys.map id).Nodup := by
    rw [List.map_id]
    exact projection.keys_nodup
  refine (changeAt_foldl_add id (fun _ => change) distinct delta path).trans ?_
  have found : projection.contains path = true ↔ path ∈ projection.keys :=
    SortedMap.mem_keys_iff.symm
  by_cases member : path ∈ projection.keys
  · have here : (projection.keys.find? fun other => id other = path).isSome :=
      List.find?_isSome.mpr ⟨path, member, by simp⟩
    obtain ⟨other, here⟩ := Option.isSome_iff_exists.mp here
    rw [here, if_pos (found.mpr member)]
    rfl
  · have absent : projection.keys.find? (fun other => id other = path) = none := by
      refine List.find?_eq_none.mpr fun other among here => member ?_
      rwa [← of_decide_eq_true here]
    rw [absent, if_neg (mt found.mp member)]
    rfl

theorem changeAt_filter (delta : FieldDelta) (path : String) :
    changeAt (delta.filter fun _ change => change != 0) path = delta.changeAt path := by
  unfold changeAt
  rw [SortedMap.get?_filter]
  cases delta.get? path with
  | none => rfl
  | some change => by_cases zero : change = 0 <;> simp [Option.filter, zero]

theorem changeAt_between (old new : Projection) (path : String) :
    (between old new).changeAt path =
      (if old.contains path then -1 else 0) + if new.contains path then 1 else 0 := by
  rw [between, changeAt_filter, changeAt_foldl_keys, changeAt_foldl_keys]
  simp [changeAt]

/-- A document that changes no count has the same paths before and after. -/
theorem contains_eq_of_isEmpty {old new : Projection} (unchanged : (between old new).isEmpty = true)
    (path : String) : old.contains path = new.contains path := by
  have change := changeAt_between old new path
  rw [SortedMap.isEmpty_iff.mp unchanged, changeAt, SortedMap.get?_empty] at change
  cases before : old.contains path <;> cases after : new.contains path <;>
    simp_all

end FieldDelta

namespace FieldCounts

/-- The entry of a path that so many documents have. -/
def entry (number : Nat) : Option UInt64 := if number = 0 then none else some (.ofNat number)

variable {counts : FieldCounts} {path : String} {number : Nat}

theorem isSome_entry : (entry number).isSome = true ↔ number ≠ 0 := by
  unfold entry
  split <;> simp_all

theorem entry_eq_some_iff {count : UInt64} :
    entry number = some count ↔ number ≠ 0 ∧ count = .ofNat number := by
  unfold entry
  split
  case isTrue zero => simp [zero]
  case isFalse some => simp [some, eq_comm]

theorem toNat_of_entry {count : UInt64} (counted : entry number = some count)
    (fits : number < 2 ^ 64) : count.toNat = number := by
  rw [(entry_eq_some_iff.mp counted).2]
  exact UInt64.toNat_ofNat_of_lt fits

/-- Only what is positive after the change is kept. -/
theorem get?_apply (counts : FieldCounts) (delta : FieldDelta) (path : String) :
    (counts.apply delta).get? path =
      ((some (((counts.get? path).map UInt64.toInt64).getD 0 + delta.changeAt path)).filter
        (0 < ·)).map Int64.toUInt64 := by
  have distinct : (delta.entries.map Prod.fst).Nodup := delta.keys_nodup
  have sum := FieldDelta.changeAt_foldl_add Prod.fst Prod.snd distinct
    (counts.mapValues UInt64.toInt64) path
  rw [← SortedMap.get?_eq_find?, FieldDelta.changeAt, FieldDelta.changeAt,
    SortedMap.get?_mapValues] at sum
  rw [FieldCounts.apply, SortedMap.get?_mapValues, SortedMap.get?_filter, FieldDelta.changeAt,
    ← sum]
  congr 1
  generalize SortedMap.get? _ path = found
  cases found with
  | none => rfl
  | some change => rfl

theorem filter_positive_eq_entry (fits : number < 2 ^ 63) :
    ((some (Int64.ofNat number)).filter (0 < ·)).map Int64.toUInt64 = entry number := by
  have positive : 0 < Int64.ofNat number ↔ 0 < number := by
    rw [Int64.lt_iff_toInt_lt, Int64.toInt_ofNat_of_lt fits]
    exact Int.natCast_pos
  by_cases zero : number = 0
  · subst zero
    rfl
  · rw [Option.filter_some_pos (by simpa using positive.mpr (Nat.pos_of_ne_zero zero)), entry,
      if_neg zero]
    rfl

/-- The count of a path after one document changed. -/
theorem get?_apply_between {old new : Projection} {moved : Nat}
    (counted : counts.get? path = entry number) (fits : moved < 2 ^ 63)
    (moves : moved + (old.contains path).toNat = number + (new.contains path).toNat) :
    (counts.apply (.between old new)).get? path = entry moved := by
  have signed : ((counts.get? path).map UInt64.toInt64).getD 0 = Int64.ofNat number := by
    rw [counted, entry]
    split
    case isTrue zero => rw [zero]; rfl
    case isFalse => rfl
  have sum : Int64.ofNat number + (FieldDelta.between old new).changeAt path = .ofNat moved := by
    rw [FieldDelta.changeAt_between]
    cases before : old.contains path <;> cases after : new.contains path <;>
      rw [before, after] at moves
    case false.false | true.true =>
      have same : moved = number := by simpa using moves
      simp [same]
    case false.true =>
      have same : moved = number + 1 := by simpa using moves
      rw [same, Int64.ofNat_add]
      simp
    case true.false =>
      have same : number = moved + 1 := by simpa using moves.symm
      rw [same, Int64.ofNat_add, Int64.add_assoc]
      simp
  rw [get?_apply, signed, sum, filter_positive_eq_entry fits]

theorem get?_countPath (counted : counts.get? path = entry number) :
    (counts.countPath path).get? path = entry (number + 1) := by
  rw [countPath, SortedMap.get?_insert_self, counted, entry, entry, if_neg (Nat.succ_ne_zero _)]
  split
  case isTrue zero => rw [zero]; rfl
  case isFalse => rw [UInt64.ofNat_add]; rfl

private theorem get?_foldl_countPath {paths : List String} (distinct : paths.Nodup)
    (counted : counts.get? path = entry number) :
    (paths.foldl countPath counts).get? path =
      entry (number + (decide (path ∈ paths)).toNat) := by
  induction paths generalizing counts number with
  | nil => simpa using counted
  | cons first rest ih =>
      obtain ⟨fresh, others⟩ := List.nodup_cons.mp distinct
      by_cases here : path = first
      · subst here
        rw [List.foldl_cons, ih others (get?_countPath counted)]
        simp [fresh]
      · have kept : (counts.countPath first).get? path = entry number := by
          rw [countPath, SortedMap.get?_insert_of_ne here, counted]
        rw [List.foldl_cons, ih others kept]
        simp [here]

private theorem get?_foldl_projections (projections : List Projection)
    (counted : counts.get? path = entry number) :
    (projections.foldl (fun counts projection => projection.keys.foldl countPath counts)
      counts).get? path = entry (number + projections.countP (·.contains path)) := by
  induction projections generalizing counts number with
  | nil => exact counted
  | cons projection rest ih =>
      have first := get?_foldl_countPath projection.keys_nodup counted
      rw [List.foldl_cons, ih first, List.countP_cons]
      have found : path ∈ projection.keys ↔ projection.contains path = true :=
        SortedMap.mem_keys_iff
      simp only [found, Bool.decide_eq_true]
      cases projection.contains path <;> simp [Nat.add_assoc, Nat.add_comm 1]

theorem get?_ofProjections (projections : List Projection) (path : String) :
    (ofProjections projections).get? path = entry (projections.countP (·.contains path)) := by
  have none : (∅ : FieldCounts).get? path = entry 0 := rfl
  rw [ofProjections, get?_foldl_projections projections none, Nat.zero_add]

theorem get?_ofDocuments (documents : List Document) (path : String) :
    (ofDocuments documents).get? path = entry (documents.countP (·.fields.contains path)) := by
  rw [ofDocuments, get?_ofProjections, List.countP_map]
  rfl

end FieldCounts

end DocStore

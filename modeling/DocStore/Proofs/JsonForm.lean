import DocStore.JsonForm
import DocStore.Proofs.Json.Levels
import DocStore.Proofs.SortedMap

namespace DocStore

open Json (Fits)

namespace Json

private theorem mapM_pairs {α : Type} {read : Json → Option α} {write : α → Json}
    {entries : List (String × α)} (reads : ∀ entry ∈ entries, read (write entry.2) = some entry.2) :
    (entries.map fun entry => (entry.1, write entry.2)).mapM
      (fun (key, value) => (read value).map fun value => (key, value)) = some entries := by
  induction entries with
  | nil => rfl
  | cons entry rest ih =>
      obtain ⟨first, later⟩ := List.forall_mem_cons.mp reads
      simp [first, ih later]

/-- A map is read from its bindings. -/
theorem asMap?_object {α : Type} (read : Json → Option α) (write : α → Json)
    {map : SortedMap String α}
    (reads : ∀ entry ∈ map.entries, read (write entry.2) = some entry.2) :
    asMap? read (.object (map.entries.map fun entry => (entry.1, write entry.2))) = some map := by
  simp only [asMap?, mapM_pairs reads, Option.bind_eq_bind, Option.bind_some,
    SortedMap.ofList_entries]

end Json

theorem FieldCounts.ofJson?_toJson (counts : FieldCounts) :
    ofJson? (FieldCounts.toJson counts) = some counts :=
  Json.asMap?_object Json.asUInt64? (fun count => .number (.natural count)) fun _ _ => rfl

theorem Primitive.ofJson?_toJson (value : Primitive) : ofJson? value.toJson = some value := by
  cases value <;> rfl

private theorem Primitive.mapM_ofJson? (values : List Primitive) :
    (values.map toJson).mapM ofJson? = some values := by
  induction values with
  | nil => rfl
  | cons value rest ih => simp [ofJson?_toJson, ih]

theorem Projection.ofJson?_toJson (projection : Projection) :
    ofJson? (Projection.toJson projection) = some projection :=
  Json.asMap?_object (Json.asList? Primitive.ofJson?)
    (fun values => .array (values.map Primitive.toJson))
    fun entry _ => Primitive.mapM_ofJson? entry.2

theorem Index.ofJson?_toJson (index : Index) : ofJson? index.toJson = some index := by
  simp [ofJson?, toJson, Json.fieldsOf?, Json.FieldValues.typed?, Json.FieldValues.get?,
    List.lookup_cons, Json.asString?, optionalField, FieldCounts.ofJson?_toJson]

theorem Document.ofJson?_toJson {document : Document}
    (settled : document.source.settled = document.source) :
    ofJson? document.toJson = some document := by
  simp [ofJson?, toJson, Json.fieldsOf?, Json.FieldValues.typed?, Json.FieldValues.get?,
    List.lookup_cons, Json.asString?, optionalField, Projection.ofJson?_toJson, settled]

theorem FieldCounts.fits (counts : FieldCounts) (depth : Nat) :
    Fits (depth + 1) (FieldCounts.toJson counts) := by
  refine .object fun member listed => ?_
  obtain ⟨entry, -, rfl⟩ := List.mem_map.mp listed
  exact .number _ _

theorem FieldCounts.legible (counts : FieldCounts) : (FieldCounts.toJson counts).Legible := by
  refine Json.legible_object.mpr fun member listed => ?_
  obtain ⟨entry, -, rfl⟩ := List.mem_map.mp listed
  exact Json.legible_number.mpr (Number.legible_natural entry.2)

theorem Projection.fits (projection : Projection) (depth : Nat) :
    Fits (depth + 2) (Projection.toJson projection) := by
  refine .object fun member listed => ?_
  obtain ⟨entry, -, rfl⟩ := List.mem_map.mp listed
  refine .array fun item inside => ?_
  obtain ⟨value, -, rfl⟩ := List.mem_map.mp inside
  cases value with
  | null => exact .null _
  | bool value => exact .bool _ value
  | number value => exact .number _ value
  | string text => exact .string _ text

end DocStore

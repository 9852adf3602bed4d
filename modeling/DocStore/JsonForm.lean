import DocStore.Json.Record
import DocStore.Tables

namespace DocStore

def FieldCounts.toJson (counts : FieldCounts) : Json :=
  .object (counts.entries.map fun (path, count) => (path, .number (.natural count)))

def Projection.toJson (projection : Projection) : Json :=
  .object (projection.entries.map fun (path, values) =>
    (path, .array (values.map Primitive.toJson)))

def Index.toJson (index : Index) : Json :=
  .object [("id", .string index.id), ("fields", FieldCounts.toJson index.fields)]

def Document.toJson (document : Document) : Json :=
  .object [("id", .string document.id), ("index_id", .string document.indexId),
    ("source", document.source), ("fields", Projection.toJson document.fields)]

def Summary.toJson (summary : Summary) : Json :=
  .object [("id", .string summary.id), ("index_id", .string summary.indexId),
    ("fields", Projection.toJson summary.fields)]

namespace Json

/-- An object whose values are all of one type, as a map; the last value of a key counts. -/
def asMap? (read : Json → Option α) : Json → Option (SortedMap String α)
  | .object members => do
      let entries ← members.mapM fun (key, value) => (read value).map fun value => (key, value)
      some (.ofList entries)
  | _ => none

end Json

def FieldCounts.ofJson? : Json → Option FieldCounts := Json.asMap? Json.asUInt64?

def Projection.ofJson? : Json → Option Projection :=
  Json.asMap? (Json.asList? Primitive.ofJson?)

/-- A field that may be left out. -/
def optionalField (found : Json.FieldValues) (field : String) (read : Json → Option α)
    (missing : α) : Option α :=
  match found.get? field with
  | none => some missing
  | some value => read value

def Index.ofJson? (value : Json) : Option Index := do
  let found ← Json.fieldsOf? ["id", "fields"] value
  let id ← found.typed? "id" Json.asString?
  let fields ← optionalField found "fields" FieldCounts.ofJson? ∅
  some ⟨id, fields⟩

def Document.ofJson? (value : Json) : Option Document := do
  let found ← Json.fieldsOf? ["id", "index_id", "source", "fields"] value
  let id ← found.typed? "id" Json.asString?
  let indexId ← found.typed? "index_id" Json.asString?
  let source ← found.get? "source"
  let fields ← optionalField found "fields" Projection.ofJson? ∅
  some ⟨id, indexId, source.settled, fields⟩

end DocStore

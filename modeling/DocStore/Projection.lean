import DocStore.Primitive
import DocStore.SortedMap

namespace DocStore

/-- The leaves of a document by path. -/
abbrev Projection := SortedMap String (List Primitive)

namespace Projection

def joinPath (keys : List String) : String := ".".intercalate keys

def addValue (projection : Projection) (path : String) (value : Primitive) : Projection :=
  projection.insert path ((projection.get? path).getD [] ++ [value])

mutual

/-- Adds the leaves of a value below the given keys. -/
def addLeaves (keys : List String) (projection : Projection) : Json → Projection
  | .array items => addItems keys projection items
  | .object members => addMembers keys projection members
  | .null => addValue projection (joinPath keys) .null
  | .bool value => addValue projection (joinPath keys) (.bool value)
  | .number value => addValue projection (joinPath keys) (.number value)
  | .string text => addValue projection (joinPath keys) (.string text)

def addItems (keys : List String) (projection : Projection) : List Json → Projection
  | [] => projection
  | item :: rest => addItems keys (addLeaves keys projection item) rest

def addMembers (keys : List String) (projection : Projection) : List (String × Json) → Projection
  | [] => projection
  | (key, value) :: rest => addMembers keys (addLeaves (keys ++ [key]) projection value) rest

end

def flatten (document : Json) : Projection := addLeaves [] ∅ document

/-- Structural equality, path by path and value by value. -/
def equal (a b : Projection) : Bool :=
  a.size == b.size &&
    (a.entries.zip b.entries).all fun ((path, values), (otherPath, others)) =>
      path == otherPath && values.length == others.length &&
        (values.zip others).all fun (value, other) => value.equal other

end Projection

end DocStore

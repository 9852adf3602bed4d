import DocStore.Json.Skim
/-!
Records in JSON text: an object whose members are the fields, in any order, or
an array of the fields in their order.

Members that no field is named after are skimmed.  A field that is written
twice is a mismatch, found where the second one begins.  Values of fields keep
the keys that they repeat.
-/

namespace DocStore.Json

abbrev FieldValues := List (String × Json)

/-- The members after an opening brace that is not closed at once. -/
def readRecordMembers (depth : Nat) (fields : List String) :
    Nat → FieldValues → List Char → Except Fault (Parsed FieldValues)
  | 0, _, _ => .error .endOfText
  | fuel + 1, found, input => do
      let (key, rest) ← readKey input
      let (found, rest) ←
        if fields.contains key then
          if found.any fun field => field.1 == key then .error .mismatch
          else (readValue depth rest).map fun (value, rest) => (found ++ [(key, value)], rest)
        else (skimValue rest).map fun rest => (found, rest)
      match skipBlank rest with
      | ',' :: rest => readRecordMembers depth fields fuel found rest
      | '\x7d' :: rest => .ok (found, rest)
      | rest => .error (stopped rest)

/-- The items after an opening bracket; an item beyond the last field is malformed. -/
def readRecordItems (depth : Nat) :
    List String → FieldValues → List Char → Except Fault (Parsed FieldValues)
  | [], found, input =>
      match skipBlank input with
      | ']' :: rest => .ok (found, rest)
      | rest => .error (stopped rest)
  | field :: fields, found, input =>
      match skipBlank input with
      | ']' :: rest => .ok (found, rest)
      | start => do
          let start ←
            match found, start with
            | [], start => .ok start
            | _ :: _, ',' :: rest => .ok rest
            | _ :: _, rest => .error (stopped rest)
          let (value, rest) ← readValue depth start
          readRecordItems depth fields (found ++ [(field, value)]) rest

def readRecord (fields : List String) (input : List Char) : Except Fault (Parsed FieldValues) :=
  match skipBlank input with
  | '\x7b' :: rest =>
      match skipBlank rest with
      | '\x7d' :: rest => .ok ([], rest)
      | rest => readRecordMembers (maxDepth - 1) fields (rest.length + 1) [] rest
  | '[' :: rest => readRecordItems (maxDepth - 1) fields [] rest
  | rest => do
      let _ ← readValue maxDepth rest
      .error .mismatch

/-- The fields of a record that is all there is. -/
def parseRecord (fields : List String) (input : List Char) : Except Fault FieldValues := do
  let (found, rest) ← readRecord fields input
  expectEnd rest
  .ok found

/-- The fields of a record that is a value: a field may not be written twice, an array may not
have more items than there are fields. -/
def fieldsOf? (fields : List String) : Json → Option FieldValues
  | .object members =>
      let known := members.filter fun member => fields.contains member.1
      if (known.map Prod.fst).Nodup then some known else none
  | .array items =>
      if items.length ≤ fields.length then some (fields.zip items) else none
  | _ => none

namespace FieldValues

def get? (found : FieldValues) (field : String) : Option Json :=
  found.lookup field

def typed? (found : FieldValues) (field : String) (read : Json → Option α) : Option α :=
  (found.get? field).bind read

end FieldValues

def asString? : Json → Option String
  | .string text => some text
  | _ => none

def asUInt64? : Json → Option UInt64
  | .number (.natural value) => some value
  | _ => none

def asUInt32? : Json → Option UInt32
  | .number (.natural value) => if value.toNat < 2 ^ 32 then some value.toUInt32 else none
  | _ => none

def asInt64? : Json → Option Int64
  | .number written => do
      let value ← written.toInt?
      if -(2 ^ 63) ≤ value ∧ value < 2 ^ 63 then some (.ofInt value) else none
  | _ => none

def asList? (read : Json → Option α) : Json → Option (List α)
  | .array items => items.mapM read
  | _ => none

/-- An optional value: `null` and a missing field are nothing. -/
def asOption? (read : Json → Option α) : Option Json → Option (Option α)
  | none | some .null => some none
  | some value => (read value).map some

end DocStore.Json

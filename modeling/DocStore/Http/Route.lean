import DocStore.Text.Split

namespace DocStore.Http

structure Target where
  path : List Char
  query : List Char
deriving DecidableEq, Repr

namespace Target

/-- The text after the name of a protocol and a host, if a text begins with them. -/
def afterHost (text : List Char) : Option (List Char) :=
  match Text.cut ':' text with
  | (_, some ('/' :: '/' :: rest)) => some (rest.dropWhile fun c => c != '/' && c != '?')
  | _ => none

/-- The parts of an address; what follows a number sign is no part of it. -/
def ofText (text : String) : Target :=
  let whole := (Text.cut '#' text.toList).1
  let (path, query) := Text.cut '?' (match whole with
    | '/' :: _ => whole
    | _ =>
        match afterHost whole with
        | some ('/' :: rest) => '/' :: rest
        | some rest => '/' :: rest
        | none => [])
  ⟨path, query.getD []⟩

end Target

inductive Resource where
  | health
  | metrics
  | tokens
  | indexes
  | index (indexId : String)
  | documents (indexId : String)
  | document (indexId id : String)
  | snapshots
  | manifest
  | logTrimming
  | verification (indexId : String)
  | explanation
deriving DecidableEq, Repr

namespace Resource

/-- The resource under the parts of a path.  An identifier at the end is not empty. -/
def ofParts : List String → Option Resource
  | ["health"] => some .health
  | ["metrics"] => some .metrics
  | ["auth", "token"] => some .tokens
  | ["indexes"] => some .indexes
  | ["indexes", indexId] => if indexId.isEmpty then none else some (.index indexId)
  | ["indexes", indexId, "documents"] => some (.documents indexId)
  | ["indexes", indexId, "documents", id] =>
      if id.isEmpty then none else some (.document indexId id)
  | ["admin", "snapshot"] => some .snapshots
  | ["admin", "manifest"] => some .manifest
  | ["admin", "trim-wal"] => some .logTrimming
  | ["admin", "verify", indexId] => if indexId.isEmpty then none else some (.verification indexId)
  | ["admin", "explain"] => some .explanation
  | _ => none

def ofPath : List Char → Option Resource
  | '/' :: rest => ofParts ((Text.splitOn '/' rest).map String.ofList)
  | _ => none

end Resource

end DocStore.Http

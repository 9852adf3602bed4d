import DocStore.Error
import DocStore.JsonForm
import DocStore.Json.Writer

namespace DocStore.Snapshot

inductive Entry where
  | header (commitSeq : UInt64) (createdAt : Int64)
  | index (index : Index)
  | document (document : Document)
deriving DecidableEq

namespace Entry

/-- The member that tells the kind of a line. -/
def kindKey : String := "kind"

/-- Puts the kind in front of the members of an object. -/
def tagged (kind : String) : Json → Json
  | .object members => .object ((kindKey, .string kind) :: members)
  | other => other

def toJson : Entry → Json
  | .header commitSeq createdAt =>
      tagged "header" (.object
        [("commit_seq", .number (.natural commitSeq)),
          ("created_ts", .number ((Number.ofInt? createdAt.toInt).getD default))])
  | .index found => tagged "index" found.toJson
  | .document found => tagged "document" found.toJson

/-- The entry of a kind with the given content. -/
def ofContent? (kind : String) (content : Json) : Option Entry :=
  if kind = "header" then do
    let found ← Json.fieldsOf? ["commit_seq", "created_ts"] content
    let commitSeq ← found.typed? "commit_seq" Json.asUInt64?
    let createdAt ← found.typed? "created_ts" Json.asInt64?
    some (.header commitSeq createdAt)
  else if kind = "index" then (Index.ofJson? content).map .index
  else if kind = "document" then (Document.ofJson? content).map .document
  else none

def isKind (kind : String) : Bool := kind == "header" || kind == "index" || kind == "document"

/-- Reads the kind of a line.  Lists and objects are not read through to see that they are no
kind. -/
def readKind (input : List Char) : Except Json.Fault (String × List Char) :=
  match Json.skipBlank input with
  | '[' :: _ | '\x7b' :: _ => .error .mismatch
  | start => do
      match ← Json.readValue Json.maxDepth start with
      | (.string kind, rest) => if isKind kind then .ok (kind, rest) else .error .mismatch
      | _ => .error .mismatch

/-- The members of a line up to its closing brace; exactly one of them tells the kind. -/
def readMembers : Nat → Option String → List (String × Json) → List Char →
    Except Json.Fault (Option String × List (String × Json) × List Char)
  | 0, _, _, _ => .error .endOfText
  | fuel + 1, kind, members, input => do
      let (key, rest) ← Json.readKey input
      let (kind, members, rest) ←
        if key = kindKey then
          if kind.isSome then .error .mismatch
          else (readKind rest).map fun (kind, rest) => (some kind, members, rest)
        else
          (Json.readValue (Json.maxDepth - 1) rest).map fun (value, rest) =>
            (kind, members ++ [(key, value)], rest)
      match Json.skipBlank rest with
      | ',' :: rest => readMembers fuel kind members rest
      | '\x7d' :: rest => .ok (kind, members, rest)
      | rest => .error (Json.stopped rest)

/-- The entry of a kind that may be missing. -/
def ofParts (kind : Option String) (content : Json) : Except Json.Fault Entry :=
  match kind.bind fun kind => ofContent? kind content with
  | some entry => .ok entry
  | none => .error .mismatch

/-- The entry of a line: an object with a kind, or an array that begins with one. -/
def ofLine (line : List Char) : Except Json.Fault Entry := do
  match Json.skipBlank line with
  | '\x7b' :: rest =>
      match Json.skipBlank rest with
      | '\x7d' :: _ => .error .mismatch
      | start =>
          let (kind, members, rest) ← readMembers (start.length + 1) none [] start
          let entry ← ofParts kind (.object members)
          Json.expectEnd rest
          .ok entry
  | '[' :: rest =>
      match Json.skipBlank rest with
      | ']' :: _ => .error .mismatch
      | start =>
          let (kind, rest) ← readKind start
          let (items, rest) ←
            match Json.skipBlank rest with
            | ',' :: rest => Json.readItems (2 * rest.length + 2) (Json.maxDepth - 1) rest
            | ']' :: rest => .ok ([], rest)
            | rest => .error (Json.stopped rest)
          let entry ← ofParts (some kind) (.array items)
          Json.expectEnd rest
          .ok entry
  | start => do
      let _ ← Json.readValue Json.maxDepth start
      .error .mismatch

end Entry

def entries (tables : Tables) (createdAt : Int64) : List Entry :=
  .header tables.commitSeq createdAt ::
    tables.indexes.values.map .index ++ tables.documents.values.map .document

def lines (tables : Tables) (createdAt : Int64) : List String :=
  (entries tables createdAt).map fun entry => entry.toJson.text

/-- The text of a snapshot; every line ends with a line break. -/
def write (tables : Tables) (createdAt : Int64) : String :=
  String.join ((lines tables createdAt).map fun line => line ++ "\n")

/-- A line without the carriage return at its end. -/
def dropReturn (line : List Char) : List Char :=
  if line.getLast? = some '\r' then line.dropLast else line

def splitLinesWith : Nat → List Char → List (List Char)
  | 0, _ => []
  | fuel + 1, text =>
      match text.dropWhile (· != '\n') with
      | [] => if text.isEmpty then [] else [text]
      | _ :: after => dropReturn (text.takeWhile (· != '\n')) :: splitLinesWith fuel after

/-- The lines of a text.  A line break, with or without a carriage return before it, ends a line;
what follows the last one is a line if it is not empty. -/
def splitLines (text : List Char) : List (List Char) := splitLinesWith (text.length + 1) text

def takeEntry (tables : Tables) : Entry → Tables
  | .header commitSeq _ => { tables with commitSeq }
  | .index index => tables.putIndex index
  | .document document => tables.putDocument document

def lineError : Json.Fault → IoError
  | .endOfText => .unexpectedEnd
  | _ => .invalidData

def takeLine (tables : Tables) (line : List Char) : Except IoError Tables :=
  match Entry.ofLine line with
  | .ok entry => .ok (takeEntry tables entry)
  | .error fault => .error (lineError fault)

def read (text : String) : Except IoError Tables :=
  ((splitLines text.toList).filter fun line => !line.isEmpty).foldlM takeLine .empty

end DocStore.Snapshot

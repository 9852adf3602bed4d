import DocStore.Text.Split

namespace DocStore.Offline

/-- What can be asked for: a report on the tables of a folder, saved with or without the documents,
or a check of them. -/
inductive Command where
  | restore (folder out : String) (dump : Option String)
  | verify (folder : String)
deriving DecidableEq, Repr

inductive Topic where
  | everything
  | restore
  | verify
deriving DecidableEq, Repr

/-- What arguments ask for; a misuse asks for nothing. -/
inductive Invocation where
  | run (command : Command)
  | help (topic : Topic)
  | misuse
deriving DecidableEq, Repr

namespace Topic

def commandList : List String :=
  ["Commands:",
    "  restore  Rebuild state offline from the snapshot and WAL, and report on it",
    "  verify   Check the field accounting of every index",
    "  help     Print this message or the help of the given subcommand(s)"]

def lines : Topic → List String
  | .everything =>
      ["Litesearch admin CLI", "", "Usage: litesearch <COMMAND>", ""] ++ commandList ++
        ["", "Options:", "  -h, --help  Print help"]
  | .restore =>
      ["Rebuild state offline from the snapshot and WAL, and report on it", "",
        "Usage: litesearch restore [OPTIONS] --out <OUT> <DATA_DIR>", "",
        "Arguments:", "  <DATA_DIR>  ", "",
        "Options:", "      --out <OUT>    ",
        "      --dump <DUMP>  Also write every document as JSON lines",
        "  -h, --help         Print help"]
  | .verify =>
      ["Check the field accounting of every index", "",
        "Usage: litesearch verify <DATA_DIR>", "",
        "Arguments:", "  <DATA_DIR>  ", "", "Options:", "  -h, --help  Print help"]

def text (topic : Topic) : String := String.join (topic.lines.map fun line => line ++ "\n")

end Topic

structure Draft where
  folder : Option String
  out : Option String
  dump : Option String
deriving DecidableEq, Repr

namespace Draft

def blank : Draft := ⟨none, none, none⟩

/-- Puts a value into a place that is free; no value is empty. -/
def fill (place : Option String) (value : String) : Option (Option String) :=
  if place.isSome || value.isEmpty then none else some (some value)

def takePositional (draft : Draft) (value : String) : Option Draft :=
  (fill draft.folder value).map fun folder => { draft with folder }

def takeOption (topic : Topic) (draft : Draft) (name value : String) : Option Draft :=
  match topic, name with
  | .restore, "out" => (fill draft.out value).map fun out => { draft with out }
  | .restore, "dump" => (fill draft.dump value).map fun dump => { draft with dump }
  | _, _ => none

def finish (topic : Topic) (draft : Draft) : Invocation :=
  match topic, draft with
  | .restore, ⟨some folder, some out, dump⟩ => .run (.restore folder out dump)
  | .verify, ⟨some folder, none, none⟩ => .run (.verify folder)
  | _, _ => .misuse

def takePositionals (topic : Topic) : Draft → List String → Invocation
  | draft, [] => draft.finish topic
  | draft, argument :: rest =>
      match draft.takePositional argument with
      | some draft => takePositionals topic draft rest
      | none => .misuse

/-- Whether an argument is an option: it begins with a hyphen and is not that alone. -/
def isOption (argument : List Char) : Bool :=
  match argument with
  | '-' :: _ :: _ => true
  | _ => false

/-- Takes the arguments of a command one after another.  `waiting` is the option whose value comes
next. -/
def takeAll (topic : Topic) : (waiting : Option String) → Draft → List String → Invocation
  | none, draft, [] => draft.finish topic
  | some _, _, [] => .misuse
  | some name, draft, value :: rest =>
      if isOption value.toList then .misuse
      else
        match takeOption topic draft name value with
        | some draft => takeAll topic none draft rest
        | none => .misuse
  | none, draft, argument :: rest =>
      match argument.toList with
      | ['-', '-'] => takePositionals topic draft rest
      | '-' :: '-' :: option =>
          match Text.cut '=' option with
          | (name, some value) =>
              match takeOption topic draft (String.ofList name) (String.ofList value) with
              | some draft => takeAll topic none draft rest
              | none => .misuse
          | (name, none) =>
              if name = "help".toList then .help topic
              else takeAll topic (some (String.ofList name)) draft rest
      | '-' :: 'h' :: _ => .help topic
      | '-' :: _ :: _ => .misuse
      | _ =>
          match draft.takePositional argument with
          | some draft => takeAll topic none draft rest
          | none => .misuse

end Draft

namespace Invocation

def ofArguments : List String → Invocation
  | "restore" :: rest => Draft.takeAll .restore none .blank rest
  | "verify" :: rest => Draft.takeAll .verify none .blank rest
  | ["help"] | ["help", "help"] => .help .everything
  | ["help", "restore"] => .help .restore
  | ["help", "verify"] => .help .verify
  | "--help" :: _ => .help .everything
  | argument :: _ =>
      match argument.toList with
      | '-' :: 'h' :: _ => .help .everything
      | _ => .misuse
  | [] => .misuse

end Invocation

end DocStore.Offline

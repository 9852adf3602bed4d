import DocStore.Codec.Bytes
import DocStore.Error
import DocStore.SortedMap

namespace DocStore

/-- The files of a data directory: the manifest, the next manifest before it takes that place, the
segments of the log, and the contents of the snapshots. -/
structure Directory where
  manifest : Option String
  staged : Option String
  segments : SortedMap String Bytes
  snapshots : SortedMap String String

namespace Directory

def empty : Directory := ⟨none, none, ∅, ∅⟩

instance : Inhabited Directory := ⟨empty⟩

/-- Names that stand for the directory itself or the one above it. -/
def isFolder (name : String) : Bool := name == "" || name == "." || name == ".."

/-- The content of the file under a name; a folder has none. -/
def readFile (files : SortedMap String α) (name : String) : Except IoError α :=
  if isFolder name then .error .isDirectory
  else
    match files.get? name with
    | some content => .ok content
    | none => .error .notFound

end Directory

inductive Effect where
  | createSegment (name : String)
  | appendSegment (name : String) (bytes : Bytes)
  | cutSegment (name : String) (length : Nat)
  | removeSegment (name : String)
  | stageManifest (text : String)
  | publishManifest
  | writeSnapshot (name text : String)
deriving DecidableEq

namespace Effect

/-- The directory after an effect.  A segment that is there already is not created anew; what is
appended to one that was removed is lost. -/
def apply (files : Directory) : Effect → Except IoError Directory
  | .createSegment name =>
      if Directory.isFolder name then .error .isDirectory
      else if name.toList.contains '/' then .error .notFound
      else if files.segments.contains name then .ok files
      else .ok { files with segments := files.segments.insert name [] }
  | .appendSegment name bytes =>
      match files.segments.get? name with
      | some content => .ok { files with segments := files.segments.insert name (content ++ bytes) }
      | none => .ok files
  | .cutSegment name length =>
      match files.segments.get? name with
      | some content =>
          .ok { files with segments := files.segments.insert name (content.take length) }
      | none => .ok files
  | .removeSegment name =>
      if files.segments.contains name then
        .ok { files with segments := files.segments.erase name }
      else .error .notFound
  | .stageManifest text => .ok { files with staged := some text }
  | .publishManifest =>
      match files.staged with
      | some text => .ok { files with manifest := some text, staged := none }
      | none => .error .notFound
  | .writeSnapshot name text =>
      .ok { files with snapshots := files.snapshots.insert name text }

end Effect

inductive Plan (α : Type) where
  | done (value : α)
  | perform (effect : Effect) (next : Except IoError Unit → Plan α)

namespace Plan

def bind : Plan α → (α → Plan β) → Plan β
  | .done value, next => next value
  | .perform effect step, next => .perform effect fun outcome => (step outcome).bind next

instance : Monad Plan where
  pure := .done
  bind := bind

def effect (change : Effect) : Plan (Except IoError Unit) := .perform change .done

/-- How an effect fails: with which error, and how many bytes of an append are in the file then. -/
structure Failure where
  error : IoError
  landed : Nat

/-- The directory after an effect that failed. -/
def leftBy (files : Directory) (failure : Failure) : Effect → Directory
  | .appendSegment name bytes =>
      ((Effect.appendSegment name (bytes.take failure.landed)).apply files).toOption.getD files
  | _ => files

/-- Runs a plan.  `fault` says which effects fail; impossible ones fail in any case. -/
def run (fault : Effect → Option Failure) (files : Directory) : Plan α → Directory × α
  | .done value => (files, value)
  | .perform change next =>
      match fault change with
      | some failure => (next (.error failure.error)).run fault (leftBy files failure change)
      | none =>
          match change.apply files with
          | .ok files => (next (.ok ())).run fault files
          | .error error => (next (.error error)).run fault files

def noFault : Effect → Option Failure := fun _ => none

/-- A device on which nothing can be appended to one segment, because it is full. -/
def fullFor (segment : String) : Effect → Option Failure
  | .appendSegment name _ => if name = segment then some ⟨.noSpace, 0⟩ else none
  | _ => none

end Plan

end DocStore

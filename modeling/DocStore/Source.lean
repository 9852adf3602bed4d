import DocStore.Json
/-!
Which values are documents: objects that nest at most 64 levels deep.

Levels are counted from the document itself at level 0, leaves included.  A
fault names the first value in document order that lies too deep.
-/

namespace DocStore

inductive SourceFault where
  | notObject (typeName : String)
  | tooDeep (place : String)
deriving DecidableEq, Repr

namespace SourceFault

/-- The deepest level that a value in a document may have. -/
def maxLevel : Nat := 64

def message : SourceFault → String
  | .notObject typeName => s!"document source must be an object, got {typeName}"
  | .tooDeep place => s!"{place}: nesting deeper than {maxLevel} levels"

end SourceFault

namespace Json

def memberPlace (place key : String) : String := s!"{place}.{key}"

def itemPlace (place : String) (position : Nat) : String := s!"{place}[{position}]"

mutual

/-- Looks for a value too deep below a value at `level`. -/
def checkLevels (place : String) (level : Nat) (value : Json) : Except SourceFault Unit :=
  if SourceFault.maxLevel < level then .error (.tooDeep place)
  else
    match value with
    | .array items => checkItemLevels place level 0 items
    | .object members => checkMemberLevels place level members
    | _ => .ok ()

def checkItemLevels (place : String) (level position : Nat) :
    List Json → Except SourceFault Unit
  | [] => .ok ()
  | item :: rest => do
      checkLevels (itemPlace place position) (level + 1) item
      checkItemLevels place level (position + 1) rest

def checkMemberLevels (place : String) (level : Nat) :
    List (String × Json) → Except SourceFault Unit
  | [] => .ok ()
  | (key, value) :: rest => do
      checkLevels (memberPlace place key) (level + 1) value
      checkMemberLevels place level rest

end

def checkSource (value : Json) : Except SourceFault Unit :=
  match value with
  | .object _ => checkLevels "$" 0 value
  | other => .error (.notObject other.typeName)

end Json

end DocStore

import DocStore.Json

namespace DocStore

inductive Primitive where
  | null
  | bool (value : Bool)
  | number (value : Number)
  | string (text : String)
deriving DecidableEq, Inhabited

namespace Primitive

/-- The primitive of a leaf; lists and objects have none. -/
def ofJson? : Json → Option Primitive
  | .null => some .null
  | .bool value => some (.bool value)
  | .number value => some (.number value)
  | .string text => some (.string text)
  | .array _ | .object _ => none

def toJson : Primitive → Json
  | .null => .null
  | .bool value => .bool value
  | .number value => .number value
  | .string text => .string text

def toBinary64? : Primitive → Option Binary64
  | .number value => some value.toBinary64
  | _ => none

def toText? : Primitive → Option String
  | .string text => some text
  | _ => none

def isNull : Primitive → Bool
  | .null => true
  | _ => false

def typeName : Primitive → String
  | .null => "null"
  | .bool _ => "boolean"
  | .number _ => "number"
  | .string _ => "string"

/-- Structural equality: numbers must be of one kind. -/
def equal : Primitive → Primitive → Bool
  | .null, .null => true
  | .bool a, .bool b => a == b
  | .number a, .number b => a.equal b
  | .string a, .string b => a == b
  | _, _ => false

/-- Equality by value: numbers of different kinds may be the same. -/
def sameValue : Primitive → Primitive → Bool
  | .number a, .number b => a.sameValue b
  | a, b => a.equal b

/-- The order of two values of one type that has an order. -/
def compare? : Primitive → Primitive → Option Ordering
  | .number a, .number b => some (a.compareValue b)
  | .string a, .string b => some (compare a b)
  | .bool a, .bool b => some (compare a b)
  | _, _ => none

/-- The characters written for one character of a string literal of a query. -/
def literalChar (c : Char) : List Char :=
  if c = '"' ∨ c = '\\' then ['\\', c] else [c]

def literal : Primitive → List Char
  | .null => "null".toList
  | .bool true => "true".toList
  | .bool false => "false".toList
  | .number value => value.text.toList
  | .string text => '"' :: text.toList.flatMap literalChar ++ ['"']

def text (value : Primitive) : String := String.ofList value.literal

end Primitive

end DocStore

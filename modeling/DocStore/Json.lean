import DocStore.Number
/-!
JSON values.

Objects keep their members in the order in which they are written.  A text may
repeat a key; `settled` gives the value it then stands for: the key stays at its
first place and takes its last value.
-/

namespace DocStore

inductive Json where
  | null
  | bool (value : Bool)
  | number (value : Number)
  | string (text : String)
  | array (items : List Json)
  | object (members : List (String × Json))
deriving Inhabited

namespace Json

mutual

/-- Equality of values, member order included, is decided member by member. -/
def decideEq : (a b : Json) → Decidable (a = b)
  | .null, .null => .isTrue rfl
  | .bool a, .bool b => decidable_of_iff (a = b) (by simp)
  | .number a, .number b => decidable_of_iff (a = b) (by simp)
  | .string a, .string b => decidable_of_iff (a = b) (by simp)
  | .array a, .array b =>
      match decideEqItems a b with
      | .isTrue same => .isTrue (same ▸ rfl)
      | .isFalse different => .isFalse (by simpa using different)
  | .object a, .object b =>
      match decideEqMembers a b with
      | .isTrue same => .isTrue (same ▸ rfl)
      | .isFalse different => .isFalse (by simpa using different)
  | .null, .bool _ | .null, .number _ | .null, .string _ | .null, .array _ | .null, .object _
  | .bool _, .null | .bool _, .number _ | .bool _, .string _ | .bool _, .array _
  | .bool _, .object _ | .number _, .null | .number _, .bool _ | .number _, .string _
  | .number _, .array _ | .number _, .object _ | .string _, .null | .string _, .bool _
  | .string _, .number _ | .string _, .array _ | .string _, .object _ | .array _, .null
  | .array _, .bool _ | .array _, .number _ | .array _, .string _ | .array _, .object _
  | .object _, .null | .object _, .bool _ | .object _, .number _ | .object _, .string _
  | .object _, .array _ => .isFalse nofun

def decideEqItems : (a b : List Json) → Decidable (a = b)
  | [], [] => .isTrue rfl
  | [], _ :: _ | _ :: _, [] => .isFalse nofun
  | a :: as, b :: bs =>
      match decideEq a b, decideEqItems as bs with
      | .isTrue first, .isTrue rest => .isTrue (first ▸ rest ▸ rfl)
      | .isFalse different, _ => .isFalse fun same => different (List.cons.inj same).1
      | _, .isFalse different => .isFalse fun same => different (List.cons.inj same).2

def decideEqMembers : (a b : List (String × Json)) → Decidable (a = b)
  | [], [] => .isTrue rfl
  | [], _ :: _ | _ :: _, [] => .isFalse nofun
  | (j, a) :: as, (k, b) :: bs =>
      match decEq j k, decideEq a b, decideEqMembers as bs with
      | .isTrue key, .isTrue first, .isTrue rest => .isTrue (key ▸ first ▸ rest ▸ rfl)
      | .isFalse different, _, _ =>
          .isFalse fun same => different (Prod.mk.inj (List.cons.inj same).1).1
      | _, .isFalse different, _ =>
          .isFalse fun same => different (Prod.mk.inj (List.cons.inj same).1).2
      | _, _, .isFalse different => .isFalse fun same => different (List.cons.inj same).2

end

instance : DecidableEq Json := decideEq

def typeName : Json → String
  | .null => "null"
  | .bool _ => "boolean"
  | .number _ => "number"
  | .string _ => "string"
  | .array _ => "array"
  | .object _ => "object"

/-- Puts a member at the end, or at its old place if the key is there already. -/
def putMember (key : String) (value : Json) : List (String × Json) → List (String × Json)
  | [] => [(key, value)]
  | member :: rest =>
      if member.1 = key then (key, value) :: rest else member :: putMember key value rest

mutual

/-- The value in which no object repeats a key. -/
def settled : Json → Json
  | .array items => .array (settledItems items)
  | .object members => .object (settledMembers [] members)
  | leaf => leaf

def settledItems : List Json → List Json
  | [] => []
  | item :: rest => item.settled :: settledItems rest

def settledMembers (seen : List (String × Json)) : List (String × Json) → List (String × Json)
  | [] => seen
  | (key, value) :: rest => settledMembers (putMember key value.settled seen) rest

end

def field? (key : String) : Json → Option Json
  | .object members => (members.find? fun member => member.1 == key).map Prod.snd
  | _ => none

end Json

end DocStore

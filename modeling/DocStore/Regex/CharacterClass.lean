import DocStore.Unicode.CaseFolding
import DocStore.Unicode.Script
import DocStore.Regex.Node
/-!
Classes of characters that expressions name.

Names of properties are compared without regard to case, blanks, hyphens,
underscores and a leading `is`.
-/

namespace DocStore.Regex

open Unicode (CodeSet)

namespace CharacterClass

/-- The form in which names are compared. -/
def normalize (name : List Char) : List Char :=
  let (wasPrefixed, body) := match name with
    | 'i' :: 's' :: rest | 'I' :: 's' :: rest | 'i' :: 'S' :: rest | 'I' :: 'S' :: rest =>
        (true, rest)
    | _ => (false, name)
  let kept := body.filter fun c => c != ' ' && c != '_' && c != '-' && c.toNat < 0x80
  let lower := kept.map Char.toLower
  if wasPrefixed && lower == ['c'] then ['i', 's', 'c'] else lower

/-- The entry of a table that is known under a name. -/
def find? (names : List (List String × α)) (name : List Char) : Option α :=
  (names.find? fun entry => entry.1.any fun known => normalize known.toList == name).map Prod.snd

def category? (name : List Char) : Option CodeSet :=
  if name = "any".toList then some .all
  else if name = "assigned".toList then some Unicode.Category.assignedCodes
  else if name = "ascii".toList then some ⟨[(0, 0x7F)]⟩
  else (find? Unicode.Category.names name).map Unicode.Category.unionOf

def script? (name : List Char) : Option (List String × List String) :=
  Unicode.Script.table.find? fun entry =>
    entry.1.any fun known => normalize known.toList == name

/-- What a name alone stands for.  Three abbreviations of categories are also those of properties
that are not binary; they mean the category. -/
def named? (name : List Char) : Option CodeSet :=
  let name := normalize name
  let isCategory := ["cf", "sc", "lc"].any fun known => known.toList == name
  let property := if isCategory then none else find? Unicode.Property.names name
  property.or ((category? name).or ((script? name).map Unicode.Script.codes))

def valued? (property value : List Char) : Option CodeSet :=
  let value := normalize value
  match String.ofList (normalize property) with
  | "gc" | "generalcategory" => category? value
  | "sc" | "script" => (script? value).map Unicode.Script.codes
  | "scx" | "scriptextensions" => (script? value).map Unicode.Script.extendedCodes
  | _ => none

/-- The text before and after the first occurrence of a mark. -/
def splitAtMark (mark : List Char) : List Char → Option (List Char × List Char)
  | [] => none
  | c :: rest =>
      if mark.isPrefixOf (c :: rest) then some ([], (c :: rest).drop mark.length)
      else (splitAtMark mark rest).map fun (before, after) => (c :: before, after)

/-- The class between the braces of `\p`, and whether it is written as its opposite. -/
def braced? (text : List Char) : Option (CodeSet × Bool) :=
  match splitAtMark ['!', '='] text with
  | some (property, value) => (valued? property value).map fun set => (set, true)
  | none =>
      match (splitAtMark [':'] text).or (splitAtMark ['='] text) with
      | some (property, value) => (valued? property value).map fun set => (set, false)
      | none => (named? text).map fun set => (set, false)

/-- The classes of ASCII characters that brackets name. -/
def ascii? (name : List Char) : Option CodeSet :=
  match String.ofList name with
  | "alnum" => some ⟨[(0x30, 0x39), (0x41, 0x5A), (0x61, 0x7A)]⟩
  | "alpha" => some ⟨[(0x41, 0x5A), (0x61, 0x7A)]⟩
  | "ascii" => some ⟨[(0x00, 0x7F)]⟩
  | "blank" => some ⟨[(0x09, 0x09), (0x20, 0x20)]⟩
  | "cntrl" => some ⟨[(0x00, 0x1F), (0x7F, 0x7F)]⟩
  | "digit" => some ⟨[(0x30, 0x39)]⟩
  | "graph" => some ⟨[(0x21, 0x7E)]⟩
  | "lower" => some ⟨[(0x61, 0x7A)]⟩
  | "print" => some ⟨[(0x20, 0x7E)]⟩
  | "punct" => some ⟨[(0x21, 0x2F), (0x3A, 0x40), (0x5B, 0x60), (0x7B, 0x7E)]⟩
  | "space" => some ⟨[(0x09, 0x0D), (0x20, 0x20)]⟩
  | "upper" => some ⟨[(0x41, 0x5A)]⟩
  | "word" => some asciiWordCodes
  | "xdigit" => some ⟨[(0x30, 0x39), (0x41, 0x46), (0x61, 0x66)]⟩
  | _ => none

end CharacterClass

end DocStore.Regex

import DocStore.Json.Reader

namespace DocStore.Text

/-- The text after a plus sign, if one stands in front. -/
def dropPlus : List Char → List Char
  | '+' :: rest => rest
  | text => text

/-- The number below `limit` that a text of digits spells; a plus sign may stand in front. -/
def natural? (limit : Nat) (text : List Char) : Option Nat :=
  let digits := dropPlus text
  if digits.isEmpty || !digits.all Char.isDigit then none
  else if Json.digitsValue digits < limit then some (Json.digitsValue digits)
  else none

end DocStore.Text

import DocStore.Unicode.Property

namespace DocStore.Text

/-- The categories of characters that have no shape of their own. -/
def invisibleCategories : List Unicode.Category :=
  [.control, .format, .privateUse, .unassigned, .lineSeparator, .paragraphSeparator,
   .spaceSeparator]

/-- Characters written by their code, the plain blank among them. -/
def hiddenCodes : Unicode.CodeSet :=
  (Unicode.Category.unionOf invisibleCategories).union Unicode.Property.graphemeExtend

/-- The characters written for one character of a quoted text. -/
def quoteChar (c : Char) : List Char :=
  if c = '\x00' then ['\\', '0']
  else if c = '\t' then ['\\', 't']
  else if c = '\r' then ['\\', 'r']
  else if c = '\n' then ['\\', 'n']
  else if c = '"' then ['\\', '"']
  else if c = '\\' then ['\\', '\\']
  else if ' ' ≤ c ∧ c ≤ '~' then [c]
  else if hiddenCodes.contains c.toNat then
    '\\' :: 'u' :: '\x7b' :: Nat.toDigits 16 c.toNat ++ ['\x7d']
  else [c]

def quoted (text : String) : String :=
  String.ofList ('"' :: text.toList.flatMap quoteChar ++ ['"'])

def quotedList (texts : List String) : String :=
  "[" ++ ", ".intercalate (texts.map quoted) ++ "]"

end DocStore.Text

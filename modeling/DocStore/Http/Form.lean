import DocStore.Codec.Utf8
import DocStore.Http.Percent
import DocStore.Text.Natural
import DocStore.Text.Split

namespace DocStore.Http

abbrev Form := List (String × String)

namespace Form

/-- The text of a name or a value: a plus sign is a blank, and what is no text is replaced. -/
def decodeText (bytes : Bytes) : String :=
  Utf8.decodeReplacing (Percent.decode (bytes.map fun byte => if byte = 0x2B then 0x20 else byte))

/-- One name with its value after an equals sign; a name alone has the empty value. -/
def decodePair (bytes : Bytes) : String × String :=
  let (name, value) := Text.cut 0x3D bytes
  (decodeText name, decodeText (value.getD []))

/-- The pairs between ampersands; empty ones are left out. -/
def ofBytes (bytes : Bytes) : Form :=
  ((Text.splitOn 0x26 bytes).filter fun pair => !pair.isEmpty).map decodePair

/-- The value under a name; a name that is there twice is a fault. -/
def value? (form : Form) (name : String) : Except Unit (Option String) :=
  match form.filter fun pair => pair.1 == name with
  | [] => .ok none
  | [pair] => .ok (some pair.2)
  | _ => .error ()

/-- The number under a name; it has 64 bits. -/
def number? (form : Form) (name : String) : Except Unit (Option Nat) := do
  match ← form.value? name with
  | none => .ok none
  | some text =>
      match Text.natural? (2 ^ 64) text.toList with
      | some number => .ok (some number)
      | none => .error ()

end Form

end DocStore.Http

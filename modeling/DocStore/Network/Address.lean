import DocStore.Json.Reader

namespace DocStore.Network

structure Ipv4 where
  a : UInt8
  b : UInt8
  c : UInt8
  d : UInt8
deriving DecidableEq, Repr

inductive Address where
  | v4 (host : Ipv4) (portNumber : UInt16)
  | v6 (groups : List UInt16) (zone : UInt32) (portNumber : UInt16)
deriving DecidableEq, Repr

def valueIn (base : Nat) (digits : List Nat) : Nat :=
  digits.foldl (fun value digit => base * value + digit) 0

/-- The digits in front of a text, as numbers, and what follows them. -/
def takeDigits (digit? : Char → Option Nat) : List Char → List Nat × List Char
  | [] => ([], [])
  | c :: rest =>
      match digit? c with
      | some value =>
          let (values, rest) := takeDigits digit? rest
          (value :: values, rest)
      | none => ([], c :: rest)

def decimal? (c : Char) : Option Nat := if c.isDigit then some (c.toNat - 48) else none

def readDecimal (limit : Nat) (text : List Char) : Option (Nat × List Char) :=
  match takeDigits decimal? text with
  | ([], _) => none
  | (digits, rest) =>
      if valueIn 10 digits < limit then some (valueIn 10 digits, rest) else none

/-- A byte in at most three digits without a needless zero. -/
def readByte (text : List Char) : Option (UInt8 × List Char) :=
  match takeDigits decimal? text with
  | ([], _) | (0 :: _ :: _, _) => none
  | (digits, rest) =>
      if digits.length ≤ 3 ∧ valueIn 10 digits < 256 then
        some (.ofNat (valueIn 10 digits), rest)
      else none

/-- A group of one to four hexadecimal digits. -/
def readGroup (text : List Char) : Option (UInt16 × List Char) :=
  match takeDigits Json.hexValue? text with
  | ([], _) => none
  | (digits, rest) =>
      if digits.length ≤ 4 then some (.ofNat (valueIn 16 digits), rest) else none

def skip (c : Char) : List Char → Option (List Char)
  | first :: rest => if first = c then some rest else none
  | [] => none

def readIpv4 (text : List Char) : Option (Ipv4 × List Char) := do
  let (a, rest) ← readByte text
  let (b, rest) ← readByte (← skip '.' rest)
  let (c, rest) ← readByte (← skip '.' rest)
  let (d, rest) ← readByte (← skip '.' rest)
  some (⟨a, b, c, d⟩, rest)

def Ipv4.groups (host : Ipv4) : List UInt16 :=
  [host.a.toUInt16 * 256 + host.b.toUInt16, host.c.toUInt16 * 256 + host.d.toUInt16]

structure Groups where
  groups : List UInt16
  embedded : Bool
  rest : List Char

/-- Reads at most `room` groups with colons between them.  Four bytes take the place of the last
two. -/
def readGroups : Nat → Bool → List Char → Groups
  | 0, _, text => ⟨[], false, text⟩
  | room + 1, first, text =>
      let start := if first then some text else skip ':' text
      let four := if room = 0 then none else start.bind readIpv4
      match four with
      | some (host, rest) => ⟨host.groups, true, rest⟩
      | none =>
          match start.bind readGroup with
          | none => ⟨[], false, text⟩
          | some (group, rest) =>
              let more := readGroups room false rest
              { more with groups := group :: more.groups }

/-- Eight groups; two colons stand for as many zeros as are missing, at least one. -/
def readIpv6 (text : List Char) : Option (List UInt16 × List Char) :=
  let head := readGroups 8 true text
  if head.groups.length = 8 then some (head.groups, head.rest)
  else if head.embedded then none
  else do
    let rest ← skip ':' (← skip ':' head.rest)
    let tail := readGroups (7 - head.groups.length) true rest
    let zeros := List.replicate (8 - (head.groups.length + tail.groups.length)) 0
    some (head.groups ++ zeros ++ tail.groups, tail.rest)

/-- The number of a zone after a percent sign; zero when there is none. -/
def readZone (text : List Char) : UInt32 × List Char :=
  match (skip '%' text).bind (readDecimal (2 ^ 32)) with
  | some (zone, rest) => (.ofNat zone, rest)
  | none => (0, text)

def readPortNumber (text : List Char) : Option UInt16 := do
  match ← readDecimal (2 ^ 16) (← skip ':' text) with
  | (number, []) => some (.ofNat number)
  | _ => none

namespace Address

def ofText? (text : String) : Option Address :=
  match readIpv4 text.toList with
  | some (host, rest) => (readPortNumber rest).map (.v4 host)
  | none => do
      let (groups, rest) ← readIpv6 (← skip '[' text.toList)
      let (zone, rest) := readZone rest
      let portNumber ← readPortNumber (← skip ']' rest)
      some (.v6 groups zone portNumber)

end Address

def Ipv4.text (host : Ipv4) : String :=
  s!"{host.a.toNat}.{host.b.toNat}.{host.c.toNat}.{host.d.toNat}"

def groupsText (groups : List UInt16) : String :=
  ":".intercalate (groups.map fun group => String.ofList (Nat.toDigits 16 group.toNat))

def zerosInFront (groups : List UInt16) : Nat := (groups.takeWhile (· == 0)).length

/-- The start and the length of the longest run of zeros, of equal ones the first. -/
def longestZeros : List UInt16 → Nat × Nat
  | [] => (0, 0)
  | group :: rest =>
      let here := zerosInFront (group :: rest)
      let (start, length) := longestZeros rest
      if length ≤ here then (0, here) else (start + 1, length)

/-- Four bytes in a group of the sixth version. -/
def mapped? : List UInt16 → Option Ipv4
  | [0, 0, 0, 0, 0, 0xFFFF, high, low] =>
      some ⟨(high / 256).toUInt8, high.toUInt8, (low / 256).toUInt8, low.toUInt8⟩
  | _ => none

/-- The shortest usual text of eight groups. -/
def ipv6Text (groups : List UInt16) : String :=
  match mapped? groups with
  | some host => "::ffff:" ++ host.text
  | none =>
      let (start, length) := longestZeros groups
      if length < 2 then groupsText groups
      else groupsText (groups.take start) ++ "::" ++ groupsText (groups.drop (start + length))

namespace Address

def text : Address → String
  | .v4 host portNumber => host.text ++ s!":{portNumber.toNat}"
  | .v6 groups zone portNumber =>
      let zoneText := if zone = 0 then "" else s!"%{zone.toNat}"
      "[" ++ ipv6Text groups ++ zoneText ++ s!"]:{portNumber.toNat}"

end Address

end DocStore.Network

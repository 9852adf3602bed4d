/-!
Sets of Unicode code points as ascending ranges.

`ofRanges` brings any list of ranges into the form that the other operations
keep: ascending and with a gap between neighbours.  Surrogates are no
characters, so `complement` leaves them out.
-/

namespace DocStore.Unicode

/-- A set of code points.  A range is given by its first and its last code point. -/
structure CodeSet where
  ranges : List (Nat × Nat)
deriving DecidableEq

namespace CodeSet

def maxCode : Nat := 0x10FFFF

def empty : CodeSet := ⟨[]⟩

instance : Inhabited CodeSet := ⟨empty⟩

def single (code : Nat) : CodeSet := ⟨[(code, code)]⟩

/-- Joins ascending ranges that touch or overlap. -/
def joinRanges : List (Nat × Nat) → List (Nat × Nat)
  | [] => []
  | first :: rest => go first rest
where
  go (current : Nat × Nat) : List (Nat × Nat) → List (Nat × Nat)
    | [] => [current]
    | next :: rest =>
        if next.1 ≤ current.2 + 1 then go (current.1, max current.2 next.2) rest
        else current :: go next rest

def ofRanges (ranges : List (Nat × Nat)) : CodeSet :=
  ⟨joinRanges (ranges.mergeSort fun a b => a.1 ≤ b.1)⟩

def ofCodes (codes : List Nat) : CodeSet := ofRanges (codes.map fun code => (code, code))

/-- Membership.  The search ends at the first range above the code point. -/
def contains (set : CodeSet) (code : Nat) : Bool := go set.ranges
where
  go : List (Nat × Nat) → Bool
    | [] => false
    | (first, last) :: rest => if code < first then false else code ≤ last || go rest

def union (a b : CodeSet) : CodeSet := ofRanges (a.ranges ++ b.ranges)

def unions (sets : List CodeSet) : CodeSet := ofRanges (sets.flatMap ranges)

/-- The parts of a range on both sides of the surrogates. -/
def scalarParts (range : Nat × Nat) : List (Nat × Nat) :=
  [(range.1, min range.2 0xD7FF), (max range.1 0xE000, range.2)].filter fun part => part.1 ≤ part.2

/-- The gaps between ascending ranges, from `next` up to the largest code point. -/
def gaps (next : Nat) : List (Nat × Nat) → List (Nat × Nat)
  | [] => if next ≤ maxCode then [(next, maxCode)] else []
  | (first, last) :: rest =>
      if next < first then (next, first - 1) :: gaps (last + 1) rest else gaps (last + 1) rest

def complement (set : CodeSet) : CodeSet :=
  ⟨(gaps 0 set.ranges).flatMap scalarParts⟩

def inter (a b : CodeSet) : CodeSet := (a.complement.union b.complement).complement

def diff (a b : CodeSet) : CodeSet := a.inter b.complement

/-- What is in one of the sets but not in both. -/
def symmDiff (a b : CodeSet) : CodeSet := (a.union b).diff (a.inter b)

def all : CodeSet := empty.complement

def hexValue (digits : List Char) : Nat :=
  digits.foldl (fun value c => 16 * value + (if c.isDigit then c.toNat - 48 else c.toNat - 55)) 0

/-- One table entry: `41` is a code point, `41-5A` a range, and `100-12E/2` every second code point
of a range. -/
def entryRanges (entry : List Char) : List (Nat × Nat) :=
  let first := hexValue (entry.takeWhile Char.isAlphanum)
  match entry.dropWhile Char.isAlphanum with
  | '-' :: rest =>
      let last := hexValue (rest.takeWhile Char.isAlphanum)
      match rest.dropWhile Char.isAlphanum with
      | [] => [(first, last)]
      | _ => (List.range ((last - first) / 2 + 1)).map fun k => (first + 2 * k, first + 2 * k)
  | _ => [(first, first)]

/-- The set written in the lines of a table, entries separated by blanks. -/
def ofTable (lines : List String) : CodeSet :=
  ofRanges (lines.flatMap fun line =>
    (line.splitOn " ").flatMap fun entry => entryRanges entry.toList)

end CodeSet

end DocStore.Unicode

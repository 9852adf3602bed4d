import DocStore.Projection
/-!
How many documents of an index have each path.

Counts move by deltas: a document that changes from one projection to another
takes one from each path it loses and adds one to each path it gains.
-/

namespace DocStore

/-- Path by path, the number of documents that have it. -/
abbrev FieldCounts := SortedMap String UInt64

/-- Path by path, a change of its count. -/
abbrev FieldDelta := SortedMap String Int64

namespace FieldDelta

def add (delta : FieldDelta) (path : String) (change : Int64) : FieldDelta :=
  delta.insert path ((delta.get? path).getD 0 + change)

/-- The change that a document makes when its projection becomes another; paths in both cancel
out. -/
def between (old new : Projection) : FieldDelta :=
  let lost := old.keys.foldl (fun delta path => add delta path (-1)) ∅
  let moved := new.keys.foldl (fun delta path => add delta path 1) lost
  moved.filter fun _ change => change != 0

end FieldDelta

namespace FieldCounts

/-- The counts after a change; paths whose count is no longer positive are dropped.  Sums wrap at
64 bits. -/
def apply (counts : FieldCounts) (delta : FieldDelta) : FieldCounts :=
  let signed : FieldDelta := counts.mapValues UInt64.toInt64
  let sum := delta.entries.foldl (fun sum (path, change) => FieldDelta.add sum path change) signed
  (sum.filter fun _ count => 0 < count).mapValues Int64.toUInt64

def countPath (counts : FieldCounts) (path : String) : FieldCounts :=
  counts.insert path ((counts.get? path).getD 0 + 1)

def ofProjections (projections : List Projection) : FieldCounts :=
  projections.foldl (fun counts projection => projection.keys.foldl countPath counts) ∅

end FieldCounts

end DocStore

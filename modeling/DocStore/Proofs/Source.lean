import DocStore.Source
/-!
Which values are documents.

Every value in a document is reached by a way of its own, one step for each level
(`Json.Reaches`), and the ways are listed in the order of the document, each value
before those inside it (`Json.ways`).  The check goes along that list and stops at
the first way that is too long (`Json.checkLevels_eq`), which is too long by one
step only, because the value around it comes before it (`Json.length_of_find?_ways`).
-/

namespace DocStore.Json

/-- One level down: to the value of a member or to an item. -/
inductive Step where
  | member (key : String)
  | item (position : Nat)
deriving DecidableEq

/-- How a step is written behind the place of the value around. -/
def Step.text : Step → String
  | .member key => "." ++ key
  | .item position => "[" ++ toString position ++ "]"

/-- The place at the end of a way that begins at a place. -/
def wayFrom (place : String) (way : List Step) : String :=
  way.foldl (fun place step => place ++ step.text) place

/-- The value at the end of a way. -/
inductive Reaches : Json → List Step → Json → Prop where
  | here (value : Json) : Reaches value [] value
  | item {items : List Json} {position : Nat} {item node : Json} {way : List Step}
      (listed : items[position]? = some item) (inside : Reaches item way node) :
      Reaches (.array items) (.item position :: way) node
  | member {members : List (String × Json)} {key : String} {value node : Json} {way : List Step}
      (listed : (key, value) ∈ members) (inside : Reaches value way node) :
      Reaches (.object members) (.member key :: way) node

mutual

/-- The ways to all values of a document in its order, each value before those inside it. -/
def ways : Json → List (List Step)
  | .array items => [] :: itemWays 0 items
  | .object members => [] :: memberWays members
  | .null | .bool _ | .number _ | .string _ => [[]]

def itemWays (position : Nat) : List Json → List (List Step)
  | [] => []
  | item :: rest => item.ways.map (.item position :: ·) ++ itemWays (position + 1) rest

def memberWays : List (String × Json) → List (List Step)
  | [] => []
  | (key, value) :: rest => value.ways.map (.member key :: ·) ++ memberWays rest

end

theorem exists_ways_eq (value : Json) : ∃ inner, value.ways = [] :: inner := by
  cases value <;> simp [ways]

private theorem mem_itemWays {items : List Json} {offset : Nat} {item : Json} {way : List Step}
    (listed : items[offset]? = some item) (inside : way ∈ item.ways) (position : Nat) :
    .item (position + offset) :: way ∈ itemWays position items := by
  induction items generalizing position offset with
  | nil => cases listed
  | cons first rest ih =>
      rw [itemWays, List.mem_append]
      cases offset with
      | zero =>
          cases listed
          exact .inl (List.mem_map_of_mem inside)
      | succ offset =>
          have later := ih (by simpa using listed) (position + 1)
          rw [Nat.add_right_comm, Nat.add_assoc] at later
          exact .inr later

private theorem mem_memberWays {members : List (String × Json)} {key : String} {value : Json}
    {way : List Step} (listed : (key, value) ∈ members) (inside : way ∈ value.ways) :
    .member key :: way ∈ memberWays members := by
  induction members with
  | nil => cases listed
  | cons first rest ih =>
      rw [memberWays, List.mem_append]
      rcases List.mem_cons.mp listed with rfl | later
      · exact .inl (List.mem_map_of_mem inside)
      · exact .inr (ih later)

theorem Reaches.mem_ways {value node : Json} {way : List Step} (reaches : Reaches value way node) :
    way ∈ value.ways := by
  induction reaches with
  | here value =>
      obtain ⟨inner, listed⟩ := value.exists_ways_eq
      exact listed ▸ List.mem_cons_self
  | item listed _ ih =>
      have inside := mem_itemWays listed ih 0
      rw [Nat.zero_add] at inside
      exact List.mem_cons_of_mem _ inside
  | member listed _ ih =>
      exact List.mem_cons_of_mem _ (mem_memberWays listed ih)

mutual

private theorem exists_reaches {way : List Step} (value : Json) (listed : way ∈ value.ways) :
    ∃ node, Reaches value way node := by
  match value with
  | .array items =>
      rw [ways, List.mem_cons] at listed
      rcases listed with rfl | listed
      · exact ⟨_, .here _⟩
      · obtain ⟨offset, item, rest, rfl, found, node, inside⟩ := exists_item items listed
        rw [Nat.zero_add]
        exact ⟨node, .item found inside⟩
  | .object members =>
      rw [ways, List.mem_cons] at listed
      rcases listed with rfl | listed
      · exact ⟨_, .here _⟩
      · obtain ⟨member, found, rest, rfl, node, inside⟩ := exists_member members listed
        exact ⟨node, .member found inside⟩
  | .null | .bool _ | .number _ | .string _ =>
      rw [ways, List.mem_singleton] at listed
      exact ⟨_, listed ▸ Reaches.here _⟩

private theorem exists_item {way : List Step} {position : Nat} (items : List Json)
    (listed : way ∈ itemWays position items) :
    ∃ offset item rest, way = .item (position + offset) :: rest ∧ items[offset]? = some item ∧
      ∃ node, Reaches item rest node := by
  match items with
  | [] => cases listed
  | item :: others =>
      rw [itemWays, List.mem_append, List.mem_map] at listed
      rcases listed with ⟨rest, inside, rfl⟩ | later
      · exact ⟨0, item, rest, rfl, rfl, exists_reaches item inside⟩
      · obtain ⟨offset, item, rest, rfl, found, inside⟩ := exists_item others later
        refine ⟨offset + 1, item, rest, ?_, by simpa using found, inside⟩
        rw [Nat.add_right_comm, Nat.add_assoc]

private theorem exists_member {way : List Step} (members : List (String × Json))
    (listed : way ∈ memberWays members) :
    ∃ member ∈ members, ∃ rest, way = .member member.1 :: rest ∧
      ∃ node, Reaches member.2 rest node := by
  match members with
  | [] => cases listed
  | (key, value) :: others =>
      rw [memberWays, List.mem_append, List.mem_map] at listed
      rcases listed with ⟨rest, inside, rfl⟩ | later
      · exact ⟨(key, value), List.mem_cons_self, rest, rfl, exists_reaches value inside⟩
      · obtain ⟨member, found, inside⟩ := exists_member others later
        exact ⟨member, List.mem_cons_of_mem _ found, inside⟩

end

theorem mem_ways_iff {value : Json} {way : List Step} :
    way ∈ value.ways ↔ ∃ node, Reaches value way node :=
  ⟨exists_reaches value, fun ⟨_, reaches⟩ => reaches.mem_ways⟩

mutual

/-- The first of the ways with so many steps has no more, because the value around comes first. -/
theorem length_of_find?_ways {length : Nat} {way : List Step} (value : Json)
    (first : value.ways.find? (fun way => length ≤ way.length) = some way) :
    way.length = length := by
  cases length with
  | zero =>
      obtain ⟨inner, listed⟩ := value.exists_ways_eq
      rw [listed, List.find?_cons_of_pos (by simp)] at first
      cases first
      rfl
  | succ length =>
      match value with
      | .array items =>
          rw [ways, List.find?_cons_of_neg (by simp)] at first
          exact length_of_find?_itemWays items first
      | .object members =>
          rw [ways, List.find?_cons_of_neg (by simp)] at first
          exact length_of_find?_memberWays members first
      | .null | .bool _ | .number _ | .string _ => simp [ways] at first

theorem length_of_find?_itemWays {length position : Nat} {way : List Step} (items : List Json)
    (first : (itemWays position items).find? (fun way => length + 1 ≤ way.length) = some way) :
    way.length = length + 1 := by
  match items with
  | [] => cases first
  | item :: rest =>
      rw [itemWays, List.find?_append, Option.or_eq_some_iff] at first
      rcases first with inside | ⟨-, later⟩
      · rw [List.find?_map, Option.map_eq_some_iff] at inside
        obtain ⟨way, inside, rfl⟩ := inside
        have same := length_of_find?_ways item (by simpa [Function.comp_def] using inside)
        rw [List.length_cons, same]
      · exact length_of_find?_itemWays rest later

theorem length_of_find?_memberWays {length : Nat} {way : List Step}
    (members : List (String × Json))
    (first : (memberWays members).find? (fun way => length + 1 ≤ way.length) = some way) :
    way.length = length + 1 := by
  match members with
  | [] => cases first
  | (key, value) :: rest =>
      rw [memberWays, List.find?_append, Option.or_eq_some_iff] at first
      rcases first with inside | ⟨-, later⟩
      · rw [List.find?_map, Option.map_eq_some_iff] at inside
        obtain ⟨way, inside, rfl⟩ := inside
        have same := length_of_find?_ways value (by simpa [Function.comp_def] using inside)
        rw [List.length_cons, same]
      · exact length_of_find?_memberWays rest later

end

/-- The fault of a way that is too long, if there is one. -/
def verdict (place : String) : Option (List Step) → Except SourceFault Unit
  | none => .ok ()
  | some way => .error (.tooDeep (wayFrom place way))

theorem verdict_or (place : String) (first second : Option (List Step)) :
    verdict place (first.or second) = (do verdict place first; verdict place second) := by
  cases first <;> rfl

theorem verdict_map (place : String) (step : Step) (found : Option (List Step)) :
    verdict place (found.map (step :: ·)) = verdict (place ++ step.text) found := by
  cases found <;> rfl

private theorem item_place (place : String) (position : Nat) :
    itemPlace place position = place ++ (Step.item position).text := by
  change place ++ "[" ++ toString position ++ "]" = _
  simp [Step.text, String.append_assoc]

private theorem member_place (place key : String) :
    memberPlace place key = place ++ (Step.member key).text := by
  change place ++ "." ++ key = _
  simp [Step.text, String.append_assoc]

mutual

/-- The check finds the first way that leads below the deepest level. -/
theorem checkLevels_eq (place : String) (level : Nat) (value : Json) :
    checkLevels place level value =
      verdict place (value.ways.find? fun way => SourceFault.maxLevel < level + way.length) := by
  unfold checkLevels
  split
  case isTrue deep =>
    obtain ⟨inner, listed⟩ := value.exists_ways_eq
    rw [listed, List.find?_cons_of_pos (by simpa using deep)]
    rfl
  case isFalse shallow =>
    match value with
    | .array items =>
        rw [ways, List.find?_cons_of_neg (by simpa using shallow)]
        exact checkItemLevels_eq place level 0 items
    | .object members =>
        rw [ways, List.find?_cons_of_neg (by simpa using shallow)]
        exact checkMemberLevels_eq place level members
    | .null | .bool _ | .number _ | .string _ =>
        rw [ways, List.find?_cons_of_neg (by simpa using shallow)]
        rfl

theorem checkItemLevels_eq (place : String) (level position : Nat) (items : List Json) :
    checkItemLevels place level position items =
      verdict place ((itemWays position items).find? fun way =>
        SourceFault.maxLevel < level + way.length) := by
  match items with
  | [] => rfl
  | item :: rest =>
      rw [checkItemLevels, checkLevels_eq, checkItemLevels_eq, itemWays, List.find?_append,
        verdict_or, List.find?_map, verdict_map, item_place]
      simp only [Function.comp_def, List.length_cons, Nat.add_assoc, Nat.add_comm 1]

theorem checkMemberLevels_eq (place : String) (level : Nat) (members : List (String × Json)) :
    checkMemberLevels place level members =
      verdict place ((memberWays members).find? fun way =>
        SourceFault.maxLevel < level + way.length) := by
  match members with
  | [] => rfl
  | (key, value) :: rest =>
      rw [checkMemberLevels, checkLevels_eq, checkMemberLevels_eq, memberWays, List.find?_append,
        verdict_or, List.find?_map, verdict_map, member_place]
      simp only [Function.comp_def, List.length_cons, Nat.add_assoc, Nat.add_comm 1]

end

theorem checkSource_object (members : List (String × Json)) :
    checkSource (.object members) =
      verdict "$" ((Json.object members).ways.find? fun way => 65 ≤ way.length) := by
  rw [checkSource, checkLevels_eq]
  simp only [Nat.zero_add]
  rfl

theorem find?_ways_eq_none_iff {value : Json} :
    value.ways.find? (fun way => 65 ≤ way.length) = none ↔
      ∀ way node, Reaches value way node → way.length ≤ 64 := by
  simp only [List.find?_eq_none, mem_ways_iff, decide_eq_true_eq, Nat.not_le, Nat.lt_succ_iff,
    forall_exists_index]

/-- A value is a document exactly when it is an object and every value in it, leaves included, is
reached in at most 64 steps.  If it is an object and some value is deeper, the fault names the first
one in the order of the document, which is reached in 65 steps. -/
theorem checkSource_verdict (value : Json) :
    (checkSource value = .ok () ↔ (∃ members, value = .object members) ∧
      ∀ way node, Reaches value way node → way.length ≤ 64) ∧
    ((∃ members, value = .object members) →
      (∃ way node, Reaches value way node ∧ 64 < way.length) →
      ∃ before way after, value.ways = before ++ way :: after ∧
        (∀ other ∈ before, other.length ≤ 64) ∧ way.length = 65 ∧
        checkSource value = .error (.tooDeep (wayFrom "$" way))) := by
  constructor
  · constructor
    · intro checked
      obtain ⟨members, rfl⟩ : ∃ members, value = .object members := by
        cases value with
        | object members => exact ⟨members, rfl⟩
        | _ => cases checked
      refine ⟨⟨members, rfl⟩, find?_ways_eq_none_iff.mp ?_⟩
      rw [checkSource_object] at checked
      cases found : (Json.object members).ways.find? fun way => 65 ≤ way.length with
      | none => rfl
      | some way => rw [found] at checked; cases checked
    · rintro ⟨⟨members, rfl⟩, shallow⟩
      rw [checkSource_object, find?_ways_eq_none_iff.mpr shallow]
      rfl
  · rintro ⟨members, rfl⟩ ⟨deep, node, reaches, long⟩
    cases found : (Json.object members).ways.find? fun way => 65 ≤ way.length with
    | none => exact absurd (find?_ways_eq_none_iff.mp found deep node reaches) (Nat.not_le.mpr long)
    | some way =>
        obtain ⟨-, before, after, listed, short⟩ := List.find?_eq_some_iff_append.mp found
        refine ⟨before, way, after, listed, fun other member => ?_,
          length_of_find?_ways (.object members) found, ?_⟩
        · simpa [Nat.lt_succ_iff] using short other member
        · rw [checkSource_object, found]
          rfl

/-- A value in so many lists. -/
def listed : Nat → Json → Json
  | 0, value => value
  | levels + 1, value => .array [listed levels value]

/-- Two values at level 65, the first of them an empty list, behind a shallow one. -/
def sunken : Json :=
  .object [("flat", .array [.null]),
    ("deep", listed 63 (.object [("empty", .array []), ("last", .null)]))]

theorem sunken_verdict :
    (∃ members, sunken = .object members) ∧
      (∃ way node, Reaches sunken way node ∧ 64 < way.length) ∧
      checkSource sunken = .error (.tooDeep (wayFrom "$"
        (.member "deep" :: (List.replicate 63 (.item 0) ++ [.member "empty"])))) := by
  have object : ∃ members, sunken = .object members := ⟨_, rfl⟩
  have first : sunken.ways.find? (fun way => 65 ≤ way.length) =
      some (.member "deep" :: (List.replicate 63 (.item 0) ++ [.member "empty"])) := by
    decide +kernel
  obtain ⟨node, reaches⟩ := mem_ways_iff.mp (List.mem_of_find?_eq_some first)
  have deep : ∃ way node, Reaches sunken way node ∧ 64 < way.length :=
    ⟨_, node, reaches, by decide⟩
  obtain ⟨before, way, after, parts, short, long, fault⟩ :=
    (checkSource_verdict sunken).2 object deep
  have found : sunken.ways.find? (fun way => 65 ≤ way.length) = some way := by
    refine List.find?_eq_some_iff_append.mpr ⟨by simp [long], before, after, parts, ?_⟩
    exact fun other member => by simpa using Nat.lt_succ_iff.mpr (short other member)
  cases first.symm.trans found
  exact ⟨object, deep, fault⟩

end DocStore.Json

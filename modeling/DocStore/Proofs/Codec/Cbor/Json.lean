import DocStore.Proofs.Codec.Cbor.Collections
import DocStore.Proofs.Json.Settled
import DocStore.Proofs.Json.Spacing

namespace DocStore.Cbor

open Json (Fits)

/-- The key fits the buffer for the first key of an object. -/
def isShortKey (key : String) : Bool := (Bytes.ofString key).length ≤ maxNameLength

def startsShort : List (String × Json) → Bool
  | [] => true
  | (key, _) :: _ => isShortKey key

mutual

/-- Every object in the value begins with a short key, if it has any. -/
def hasShortFirstKeys : Json → Bool
  | .array items => itemsHaveShortFirstKeys items
  | .object members => startsShort members && membersHaveShortFirstKeys members
  | .null | .bool _ | .number _ | .string _ => true

def itemsHaveShortFirstKeys : List Json → Bool
  | [] => true
  | item :: rest => hasShortFirstKeys item && itemsHaveShortFirstKeys rest

def membersHaveShortFirstKeys : List (String × Json) → Bool
  | [] => true
  | (_, value) :: rest => hasShortFirstKeys value && membersHaveShortFirstKeys rest

end

theorem hasShortFirstKeys_array (items : List Json) :
    hasShortFirstKeys (.array items) = items.all hasShortFirstKeys := by
  rw [hasShortFirstKeys]
  induction items with
  | nil => rfl
  | cons item rest ih => rw [itemsHaveShortFirstKeys, ih, List.all_cons]

theorem hasShortFirstKeys_object (members : List (String × Json)) :
    hasShortFirstKeys (.object members) =
      (startsShort members && members.all fun member => hasShortFirstKeys member.2) := by
  rw [hasShortFirstKeys]
  congr 1
  induction members with
  | nil => rfl
  | cons member rest ih => rw [membersHaveShortFirstKeys, ih, List.all_cons]

theorem writeItems_eq_flatMap (items : List Json) : writeItems items = items.flatMap writeJson := by
  induction items with
  | nil => rfl
  | cons item rest ih => rw [writeItems, ih, List.flatMap_cons]

/-- The bytes of one member of an object. -/
def writeMember (member : String × Json) : Bytes := writeText member.1 ++ writeJson member.2

theorem writeMembers_eq_flatMap (members : List (String × Json)) :
    writeMembers members = members.flatMap writeMember := by
  induction members with
  | nil => rfl
  | cons member rest ih => rw [writeMembers, ih, List.flatMap_cons, writeMember]

theorem length_writeFloat_pos (x : Binary64) : 0 < (writeFloat x).length := by
  unfold writeFloat
  split
  · simp
  · split <;> simp

theorem length_writeJson_pos (value : Json) : 0 < (writeJson value).length := by
  have head := length_writeHead_pos
  cases value with
  | number value =>
      cases value with
      | natural value => exact head 0 _
      | negative below => exact head 1 _
      | float value => exact length_writeFloat_pos value
  | _ =>
      simp only [writeJson, writeSimple, writeText, List.length_append, Nat.add_pos_iff_pos_or_pos,
        head, true_or]

theorem integerNumber?_natural (value : UInt64) :
    integerNumber? false value.toNat = some (.natural value) := by
  simp [integerNumber?, Number.ofInt?_natural]

theorem integerNumber?_negative (below : Fin (2 ^ 63)) :
    integerNumber? true below.val = some (.negative below) := by
  have value : (-1 - (below.val : Int)) = -((below.val + 1 : Nat) : Int) := by omega
  rw [integerNumber?, if_pos rfl, value, Number.ofInt?_negative]

theorem readHeader_writeNegative (below : Fin (2 ^ 63)) (rest : Bytes) :
    readHeader (writeNegative below.val ++ rest) = some (.negative below.val, rest) :=
  readHeader_writeHead rfl (Nat.lt_trans below.isLt (by decide)) rest

theorem readHeader_writeSimple_null (rest : Bytes) :
    readHeader (writeSimple nullCode ++ rest) = some (.simple nullCode, rest) := rfl

theorem readHeader_writeSimple_bool (value : Bool) (rest : Bytes) :
    readHeader (writeSimple (if value then trueCode else falseCode) ++ rest) =
      some (.simple (if value then trueCode else falseCode), rest) := by
  cases value <;> rfl

/-- The reader makes of the written value what `hasShortFirstKeys` says.  Every value takes a byte
and at most two calls for it, one for the value and one for its place in a list. -/
def ReadsJson (levels : Nat) (value : Json) : Prop :=
  ∀ fuel, 2 * (writeJson value).length ≤ fuel →
    Reads (readJsonWith fuel levels) (writeJson value) value (hasShortFirstKeys value)

variable {levels : Nat}

theorem ReadsJson.of_succ {value : Json}
    (reads : ∀ fuel, 2 * (writeJson value).length ≤ fuel + 1 →
      Reads (readJsonWith (fuel + 1) levels) (writeJson value) value (hasShortFirstKeys value)) :
    ReadsJson levels value := by
  intro fuel enough
  have positive := length_writeJson_pos value
  obtain ⟨fuel, rfl⟩ : ∃ inner, fuel = inner + 1 := ⟨fuel - 1, by omega⟩
  exact reads fuel enough

theorem readsJson_number (value : Number) : ReadsJson levels (.number value) := by
  refine .of_succ fun fuel _ rest => ?_
  simp only [readJsonWith, writeJson, writeNumber, hasShortFirstKeys, if_true]
  cases value with
  | natural value => simp [readHeader_writeNatural, integerNumber?_natural]
  | negative below => simp [readHeader_writeNegative, integerNumber?_negative]
  | float value => simp [readHeader_writeFloat]

theorem readsJson_string {text : String} (bounded : (writeJson (.string text)).length < 2 ^ 64) :
    ReadsJson levels (.string text) := by
  refine .of_succ fun fuel _ rest => ?_
  simp [readJsonWith, writeJson, hasShortFirstKeys,
    readHeader_writeText (bounded_of_writeText bounded), readTextBody_ofString]

variable {items : List Json} {members : List (String × Json)}

theorem readHeader_writeItems (bounded : (writeJson (.array items)).length < 2 ^ 64)
    (rest : Bytes) :
    readHeader (writeJson (.array items) ++ rest) =
      some (.array (some items.length), items.flatMap writeJson ++ rest) := by
  have count := length_le_flatMap fun item (_ : item ∈ items) => length_writeJson_pos item
  rw [writeJson, writeItems_eq_flatMap, List.length_append] at bounded
  rw [writeJson, writeItems_eq_flatMap, List.append_assoc, readHeader_writeHead rfl (by omega)]

theorem length_writeMember_pos (member : String × Json) : 0 < (writeMember member).length := by
  have value := length_writeJson_pos member.2
  rw [writeMember, List.length_append]
  omega

theorem readHeader_writeMembers (bounded : (writeJson (.object members)).length < 2 ^ 64)
    (rest : Bytes) :
    readHeader (writeJson (.object members) ++ rest) =
      some (.map (some members.length), members.flatMap writeMember ++ rest) := by
  have count := length_le_flatMap fun member (_ : member ∈ members) => length_writeMember_pos member
  rw [writeJson, writeMembers_eq_flatMap, List.length_append] at bounded
  rw [writeJson, writeMembers_eq_flatMap, List.append_assoc, readHeader_writeHead rfl (by omega)]

theorem begins_writeJson {value : Json} (bounded : (writeJson value).length < 2 ^ 64) :
    Begins (writeJson value) := by
  intro rest
  cases value with
  | null => exact ⟨_, _, readHeader_writeSimple_null rest⟩
  | bool value => exact ⟨_, _, readHeader_writeSimple_bool value rest⟩
  | number value =>
      cases value with
      | natural value => exact ⟨_, _, readHeader_writeNatural value rest⟩
      | negative below => exact ⟨_, _, readHeader_writeNegative below rest⟩
      | float value => exact ⟨_, _, readHeader_writeFloat value rest⟩
  | string text => exact ⟨_, _, readHeader_writeText (bounded_of_writeText bounded) rest⟩
  | array items => exact ⟨_, _, readHeader_writeItems bounded rest⟩
  | object members => exact ⟨_, _, readHeader_writeMembers bounded rest⟩

theorem readJsonItems_flatMap {fuel : Nat}
    (bounded : (items.flatMap writeJson).length < 2 ^ 64)
    (reads : ∀ item ∈ items, ReadsJson levels item)
    (enough : 2 * (items.flatMap writeJson).length + 1 ≤ fuel) :
    Reads (readJsonItems fuel levels (some items.length)) (items.flatMap writeJson) items
      (items.all hasShortFirstKeys) := by
  induction items generalizing fuel with
  | nil => intro rest; cases fuel <;> rfl
  | cons item others ih =>
      intro rest
      obtain ⟨first, later⟩ := List.forall_mem_cons.mp reads
      have positive := length_writeJson_pos item
      simp only [List.flatMap_cons, List.length_append] at bounded enough
      cases fuel with
      | zero => omega
      | succ fuel =>
          have enoughLater : 2 * (others.flatMap writeJson).length + 1 ≤ fuel := by omega
          have inner := ih (by omega) later enoughLater rest
          have begins : Begins (writeJson item) := begins_writeJson (by omega)
          obtain ⟨header, after, headerRead⟩ := begins (others.flatMap writeJson ++ rest)
          simp only [List.flatMap_cons, List.append_assoc, List.length_cons, readJsonItems,
            headerRead, first fuel (by omega) _, List.all_cons, Option.map_some,
            Nat.add_sub_cancel, Option.bind_eq_bind, Option.bind_some]
          by_cases taken : hasShortFirstKeys item
          · simp only [taken, if_true, Option.bind_some, inner, Bool.true_and]
            by_cases all : others.all hasShortFirstKeys <;> simp [all]
          · simp [taken]

theorem readsJson_array (bounded : (writeJson (.array items)).length < 2 ^ 64)
    (reads : ∀ item ∈ items, ReadsJson levels item) : ReadsJson (levels + 1) (.array items) := by
  refine .of_succ fun fuel enough rest => ?_
  have head := length_writeHead_pos 4 items.length
  simp only [readJsonWith, readHeader_writeItems bounded, enter, Option.bind_eq_bind,
    Option.bind_some, hasShortFirstKeys_array]
  rw [writeJson, writeItems_eq_flatMap, List.length_append] at bounded enough
  rw [readJsonItems_flatMap (by omega) reads (by omega) rest]
  by_cases all : items.all hasShortFirstKeys <;> simp [all]

theorem readJsonMembers_flatMap {fuel : Nat} (isFirst : Bool)
    (bounded : (members.flatMap writeMember).length < 2 ^ 64)
    (reads : ∀ member ∈ members, ReadsJson levels member.2)
    (enough : 2 * (members.flatMap writeMember).length + 1 ≤ fuel) :
    Reads (readJsonMembers fuel levels isFirst (some members.length)) (members.flatMap writeMember)
      members ((!isFirst || startsShort members) &&
        members.all fun member => hasShortFirstKeys member.2) := by
  induction members generalizing fuel isFirst with
  | nil => intro rest; cases fuel <;> cases isFirst <;> rfl
  | cons member others ih =>
      intro rest
      obtain ⟨key, value⟩ := member
      obtain ⟨first, later⟩ := List.forall_mem_cons.mp reads
      have first : ReadsJson levels value := first
      simp only [List.flatMap_cons, writeMember, writeText, List.length_append] at bounded enough
      have head := length_writeHead_pos 3 (Bytes.ofString key).length
      have keyBounded : Bounded key := by unfold Bounded; omega
      cases fuel with
      | zero => omega
      | succ fuel =>
          have enoughLater : 2 * (others.flatMap writeMember).length + 1 ≤ fuel := by omega
          have inner := ih false (by omega) later enoughLater rest
          simp only [List.flatMap_cons, writeMember, List.append_assoc, List.length_cons,
            readJsonMembers, readHeader_writeText keyBounded, readUntagged_writeText keyBounded,
            isShortText, readText_writeText keyBounded, first fuel (by omega) _, List.all_cons,
            Option.map_some, Nat.add_sub_cancel, Option.bind_eq_bind, Option.bind_some, startsShort]
          -- The key is refused before it is read, and only in front of all others.
          rw [show (isFirst && !decide ((Bytes.ofString key).length ≤ maxNameLength)) =
            !(!isFirst || isShortKey key) by simp [isShortKey]]
          by_cases opens : (!isFirst || isShortKey key) = true
          · by_cases taken : hasShortFirstKeys value
            · simp only [opens, taken, Bool.not_true, Bool.false_eq_true, if_false, if_true,
                Option.bind_some, inner, Bool.not_false, Bool.true_or, Bool.true_and]
              by_cases all : others.all fun member => hasShortFirstKeys member.2 <;> simp [all]
            · simp [taken]
          · simp [opens]

theorem readsJson_object (bounded : (writeJson (.object members)).length < 2 ^ 64)
    (distinct : (members.map Prod.fst).Nodup)
    (reads : ∀ member ∈ members, ReadsJson levels member.2) :
    ReadsJson (levels + 1) (.object members) := by
  refine .of_succ fun fuel enough rest => ?_
  have head := length_writeHead_pos 5 members.length
  have put := @Json.foldl_putMember [] members distinct
  simp only [readJsonWith, readHeader_writeMembers bounded, enter, Option.bind_eq_bind,
    Option.bind_some, hasShortFirstKeys_object]
  rw [writeJson, writeMembers_eq_flatMap, List.length_append] at bounded enough
  rw [readJsonMembers_flatMap true (by omega) reads (by omega) rest]
  by_cases short : (startsShort members && members.all fun member => hasShortFirstKeys member.2)
  · simpa [short] using put
  · simp [short]

theorem readsJson {value : Json} (fits : Fits levels value) (settled : value.settled = value)
    (bounded : (writeJson value).length < 2 ^ 64) : ReadsJson levels value := by
  induction fits with
  | null depth => exact .of_succ fun fuel _ rest => rfl
  | bool depth value => exact .of_succ fun fuel _ rest => by cases value <;> rfl
  | number depth value => exact readsJson_number value
  | string depth text => exact readsJson_string bounded
  | @array depth items inner ih =>
      have settled := Json.settled_array_iff.mp settled
      refine readsJson_array bounded fun item listed => ih item listed (settled item listed) ?_
      rw [writeJson, writeItems_eq_flatMap, List.length_append] at bounded
      have part := length_le_of_mem_flatMap writeJson listed
      omega
  | @object depth members inner ih =>
      obtain ⟨distinct, settled⟩ := Json.settled_object_iff.mp settled
      refine readsJson_object bounded distinct fun member listed =>
        ih member listed (settled member listed) ?_
      rw [writeJson, writeMembers_eq_flatMap, List.length_append] at bounded
      have part := length_le_of_mem_flatMap writeMember listed
      rw [writeMember, List.length_append] at part
      omega

/-- A value that repeats no key and is not too deep is read as it was written, if every object in it
begins with a short key, and not at all otherwise. -/
theorem reads_writeJson {value : Json} (fits : Fits levels value)
    (settled : value.settled = value) (bounded : (writeJson value).length < 2 ^ 64) :
    Reads (readJson levels) (writeJson value) value (hasShortFirstKeys value) := by
  intro rest
  have enough : 2 * (writeJson value).length ≤ 2 * (writeJson value ++ rest).length + 2 := by
    rw [List.length_append]
    omega
  exact readsJson fits settled bounded _ enough rest

theorem reads_primitive {value : Primitive} (bounded : (writeJson value.toJson).length < 2 ^ 64) :
    Reads readPrimitive (writeJson value.toJson) value true := by
  intro rest
  cases value with
  | null => rfl
  | bool value => cases value <;> rfl
  | number value =>
      simp only [readPrimitive, Primitive.toJson, writeJson, writeNumber]
      cases value with
      | natural value => simp [readHeader_writeNatural, integerNumber?_natural]
      | negative below => simp [readHeader_writeNegative, integerNumber?_negative]
      | float value => simp [readHeader_writeFloat]
  | string text =>
      simp only [readPrimitive, Primitive.toJson, writeJson,
        readHeader_writeText (bounded_of_writeText bounded)]
      simp [readTextBody_ofString]

end DocStore.Cbor

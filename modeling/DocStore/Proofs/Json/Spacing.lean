import DocStore.Json.Record
import DocStore.Proofs.Json.Number
import Mathlib.Data.List.DropRight

namespace DocStore.Json

/-- The blanks of a text: in front of items and of closing brackets, by their level, and after
colons. -/
structure Spacing where
  breaks : Nat → List Char
  gap : List Char
  breaks_blank : ∀ level, (breaks level).all isBlank = true
  gap_blank : gap.all isBlank = true

namespace Spacing

def indented : Spacing where
  breaks := lineBreak
  gap := [' ']
  breaks_blank level := by simp [lineBreak, isBlank]
  gap_blank := rfl

def compact : Spacing := ⟨fun _ => [], [], fun _ => rfl, rfl⟩

end Spacing

mutual

def spaced (spacing : Spacing) (level : Nat) : Json → List Char
  | .array [] => ['[', ']']
  | .array (item :: rest) =>
      '[' :: spacedItems spacing (level + 1) (item :: rest) ++ spacing.breaks level ++ [']']
  | .object [] => ['\x7b', '\x7d']
  | .object (member :: rest) =>
      '\x7b' :: spacedMembers spacing (level + 1) (member :: rest) ++ spacing.breaks level ++
        ['\x7d']
  | leaf => leaf.chars

def spacedItems (spacing : Spacing) (level : Nat) : List Json → List Char
  | [] => []
  | [item] => spacing.breaks level ++ spaced spacing level item
  | item :: rest =>
      spacing.breaks level ++ spaced spacing level item ++ ',' :: spacedItems spacing level rest

def spacedMembers (spacing : Spacing) (level : Nat) : List (String × Json) → List Char
  | [] => []
  | [(key, value)] =>
      spacing.breaks level ++ quoted key ++ ':' :: (spacing.gap ++ spaced spacing level value)
  | (key, value) :: rest =>
      spacing.breaks level ++ quoted key ++ ':' :: (spacing.gap ++ spaced spacing level value) ++
        ',' :: spacedMembers spacing level rest

end

mutual

theorem spaced_indented (level : Nat) (value : Json) :
    spaced .indented level value = indentedChars level value := by
  match value with
  | .null | .bool _ | .number _ | .string _ => simp only [spaced, indentedChars]
  | .array [] | .object [] => simp only [spaced, indentedChars]
  | .array (item :: rest) =>
      simp only [spaced, indentedChars, spacedItems_indented (level + 1) (item :: rest)]
      rfl
  | .object (member :: rest) =>
      simp only [spaced, indentedChars, spacedMembers_indented (level + 1) (member :: rest)]
      rfl

theorem spacedItems_indented (level : Nat) (items : List Json) :
    spacedItems .indented level items = indentedItems level items := by
  match items with
  | [] => simp only [spacedItems, indentedItems]
  | [item] =>
      simp only [spacedItems, indentedItems, spaced_indented level item]
      rfl
  | item :: next :: rest =>
      simp only [spacedItems, indentedItems, spaced_indented level item,
        spacedItems_indented level (next :: rest)]
      rfl

theorem spacedMembers_indented (level : Nat) (members : List (String × Json)) :
    spacedMembers .indented level members = indentedMembers level members := by
  match members with
  | [] => simp only [spacedMembers, indentedMembers]
  | [(key, value)] =>
      simp only [spacedMembers, indentedMembers, spaced_indented level value]
      rfl
  | (key, value) :: next :: rest =>
      simp only [spacedMembers, indentedMembers, spaced_indented level value,
        spacedMembers_indented level (next :: rest)]
      rfl

end

mutual

theorem spaced_compact (level : Nat) (value : Json) :
    spaced .compact level value = chars value := by
  match value with
  | .null | .bool _ | .number _ | .string _ => simp only [spaced]
  | .array [] | .object [] => simp only [spaced, chars, itemChars, memberChars]; rfl
  | .array (item :: rest) =>
      simp only [spaced, chars, spacedItems_compact (level + 1) (item :: rest)]
      simp [Spacing.compact]
  | .object (member :: rest) =>
      simp only [spaced, chars, spacedMembers_compact (level + 1) (member :: rest)]
      simp [Spacing.compact]

theorem spacedItems_compact (level : Nat) (items : List Json) :
    spacedItems .compact level items = itemChars items := by
  match items with
  | [] => simp only [spacedItems, itemChars]
  | [item] =>
      simp only [spacedItems, itemChars, spaced_compact level item]
      rfl
  | item :: next :: rest =>
      simp only [spacedItems, itemChars, spaced_compact level item,
        spacedItems_compact level (next :: rest)]
      rfl

theorem spacedMembers_compact (level : Nat) (members : List (String × Json)) :
    spacedMembers .compact level members = memberChars members := by
  match members with
  | [] => simp only [spacedMembers, memberChars]
  | [(key, value)] =>
      simp only [spacedMembers, memberChars, spaced_compact level value]
      rfl
  | (key, value) :: next :: rest =>
      simp only [spacedMembers, memberChars, spaced_compact level value,
        spacedMembers_compact level (next :: rest)]
      simp [Spacing.compact]

end

/-- The value nests at most `depth` levels deep. -/
inductive Fits : Nat → Json → Prop where
  | null (depth : Nat) : Fits depth .null
  | bool (depth : Nat) (value : Bool) : Fits depth (.bool value)
  | string (depth : Nat) (text : String) : Fits depth (.string text)
  | number (depth : Nat) (value : Number) : Fits depth (.number value)
  | array {depth : Nat} {items : List Json} (inner : ∀ item ∈ items, Fits depth item) :
      Fits (depth + 1) (.array items)
  | object {depth : Nat} {members : List (String × Json)}
      (inner : ∀ member ∈ members, Fits depth member.2) : Fits (depth + 1) (.object members)

variable {spacing : Spacing} {depth : Nat}

/-- The text of a value begins with a character that is no blank and closes nothing. -/
theorem spaced_eq_cons (spacing : Spacing) (level : Nat) (value : Json) :
    ∃ first rest, spaced spacing level value = first :: rest ∧ isBlank first = false ∧
      first ≠ ']' ∧ first ≠ '\x7d' := by
  match value with
  | .null => exact ⟨'n', _, by simp only [spaced, chars]; rfl, rfl, by decide, by decide⟩
  | .bool true => exact ⟨'t', _, by simp only [spaced, chars]; rfl, rfl, by decide, by decide⟩
  | .bool false => exact ⟨'f', _, by simp only [spaced, chars]; rfl, rfl, by decide, by decide⟩
  | .string text =>
      exact ⟨'"', _, by simp only [spaced, chars]; exact quoted_eq_cons text, rfl, by decide,
        by decide⟩
  | .array [] | .array (_ :: _) =>
      exact ⟨'[', _, by simp only [spaced]; rfl, rfl, by decide, by decide⟩
  | .object [] | .object (_ :: _) =>
      exact ⟨'\x7b', _, by simp only [spaced]; rfl, rfl, by decide, by decide⟩
  | .number value =>
      obtain ⟨⟨first, rest, text, begins⟩, -⟩ := value.isNumberText
      exact ⟨first, rest, by simp only [spaced, chars, text], isBlank_of_beginsNumber begins,
        ne_of_beginsNumber begins rfl, ne_of_beginsNumber begins rfl⟩

theorem skipBlank_spaced (spacing : Spacing) (level : Nat) (value : Json) (rest : List Char) :
    skipBlank (spaced spacing level value ++ rest) = spaced spacing level value ++ rest := by
  obtain ⟨first, others, text, visible, -⟩ := spaced_eq_cons spacing level value
  rw [text, List.cons_append, skipBlank_cons visible]

/-- The text of a value is read as the value, whatever stands after it. -/
def Reads (spacing : Spacing) (depth : Nat) (value : Json) : Prop :=
  ∀ (level fuel : Nat) (input rest : List Char),
    skipBlank input = spaced spacing level value ++ rest → Ends rest →
      2 * (spaced spacing level value).length ≤ fuel →
        readValueWith fuel depth input = .ok (value, rest)

/-- What stands after the last item ends numbers and is blank up to the closing bracket. -/
theorem closing (spacing : Spacing) (level : Nat) (close : Char)
    (visible : isBlank close = false) (stops : continuesNumber close = false) (rest : List Char) :
    Ends (spacing.breaks level ++ close :: rest) ∧
      skipBlank (spacing.breaks level ++ close :: rest) = close :: rest :=
  ⟨.blanks (spacing.breaks_blank level) (.cons stops rest),
    by rw [skipBlank_append (spacing.breaks_blank level), skipBlank_cons visible]⟩

private theorem skipBlank_break_spaced (level : Nat) (value : Json) (rest : List Char) :
    skipBlank (spacing.breaks level ++ (spaced spacing level value ++ rest)) =
      spaced spacing level value ++ rest := by
  rw [skipBlank_append (spacing.breaks_blank level), skipBlank_spaced]

private theorem skipBlank_gap_spaced (level : Nat) (value : Json) (rest : List Char) :
    skipBlank (spacing.gap ++ (spaced spacing level value ++ rest)) =
      spaced spacing level value ++ rest := by
  rw [skipBlank_append spacing.gap_blank, skipBlank_spaced]

theorem skipBlank_break_quoted (level : Nat) (key : String) (rest : List Char) :
    skipBlank (spacing.breaks level ++ (quoted key ++ rest)) = quoted key ++ rest := by
  rw [skipBlank_append (spacing.breaks_blank level), quoted_eq_cons, List.cons_append,
    skipBlank_cons rfl]

private theorem readItems_spaced (level fuel : Nat) {items : List Json} (some : items ≠ [])
    (reads : ∀ item ∈ items, Reads spacing depth item) {input rest : List Char}
    (written : skipBlank input = skipBlank (spacedItems spacing (level + 1) items ++
      (spacing.breaks level ++ ']' :: rest)))
    (enough : 2 * (spacedItems spacing (level + 1) items).length + 1 ≤ fuel) :
    readItems fuel depth input = .ok (items, rest) := by
  induction items generalizing fuel input with
  | nil => exact absurd rfl some
  | cons item others ih =>
      have itemReads := reads item List.mem_cons_self
      cases fuel with
      | zero => omega
      | succ fuel =>
          cases others with
          | nil =>
              obtain ⟨ends, closes⟩ := closing spacing level ']' rfl rfl rest
              simp only [spacedItems, List.append_assoc, skipBlank_break_spaced] at written
              simp only [spacedItems, List.length_append] at enough
              have first := itemReads _ fuel _ _ written ends (by omega)
              simp only [readItems, first, bind, Except.bind, closes]
          | cons next others =>
              simp only [spacedItems, List.append_assoc, skipBlank_break_spaced,
                List.cons_append] at written
              simp only [spacedItems, List.length_append, List.length_cons] at enough
              have first := itemReads _ fuel _ _ written (.cons rfl _) (by omega)
              have later := ih fuel (List.cons_ne_nil next others)
                (fun other member => reads other (List.mem_cons_of_mem _ member)) rfl (by omega)
              simp only [readItems, first, bind, Except.bind, skipBlank_cons (c := ',') rfl, later]

private theorem readMembers_spaced (level fuel : Nat) {members : List (String × Json)}
    (some : members ≠ []) (reads : ∀ member ∈ members, Reads spacing depth member.2)
    {input rest : List Char}
    (written : skipBlank input = skipBlank (spacedMembers spacing (level + 1) members ++
      (spacing.breaks level ++ '\x7d' :: rest)))
    (enough : 2 * (spacedMembers spacing (level + 1) members).length + 1 ≤ fuel) :
    readMembers fuel depth input = .ok (members, rest) := by
  induction members generalizing fuel input with
  | nil => exact absurd rfl some
  | cons member others ih =>
      obtain ⟨key, value⟩ := member
      have valueReads : Reads spacing depth value := reads (key, value) List.mem_cons_self
      cases fuel with
      | zero => omega
      | succ fuel =>
          cases others with
          | nil =>
              obtain ⟨ends, closes⟩ := closing spacing level '\x7d' rfl rfl rest
              simp only [spacedMembers, List.append_assoc, List.cons_append,
                skipBlank_break_quoted] at written
              simp only [spacedMembers, List.length_append, List.length_cons] at enough
              have first := valueReads _ fuel _ _ (skipBlank_gap_spaced (level + 1) value _) ends
                (by omega)
              simp only [readMembers, readKey_quoted written, first, bind, Except.bind, closes]
          | cons next others =>
              simp only [spacedMembers, List.append_assoc, List.cons_append,
                skipBlank_break_quoted] at written
              simp only [spacedMembers, List.length_append, List.length_cons] at enough
              have first := valueReads _ fuel _
                (',' :: (spacedMembers spacing (level + 1) (next :: others) ++
                  (spacing.breaks level ++ '\x7d' :: rest)))
                (skipBlank_gap_spaced (level + 1) value _) (.cons rfl _) (by omega)
              have later := ih fuel (List.cons_ne_nil next others)
                (fun other member => reads other (List.mem_cons_of_mem _ member)) rfl (by omega)
              simp only [readMembers, readKey_quoted written, first, bind, Except.bind,
                skipBlank_cons (c := ',') rfl, later]

theorem skipBlank_skipBlank (input : List Char) : skipBlank (skipBlank input) = skipBlank input :=
  List.dropWhile_idempotent _ input

/-- The first item does not begin with the bracket that would close an empty list. -/
private theorem skipBlank_items (level : Nat) (item : Json) (others : List Json)
    (rest : List Char) :
    ∃ first more, skipBlank (spacedItems spacing level (item :: others) ++ rest) = first :: more ∧
      first ≠ ']' := by
  obtain ⟨first, more, text, -, open', -⟩ := spaced_eq_cons spacing level item
  cases others with
  | nil =>
      refine ⟨first, more ++ rest, ?_, open'⟩
      simp only [spacedItems, List.append_assoc, skipBlank_break_spaced]
      rw [text, List.cons_append]
  | cons next others =>
      refine ⟨first, more ++ ',' :: (spacedItems spacing level (next :: others) ++ rest), ?_, open'⟩
      simp only [spacedItems, List.append_assoc, skipBlank_break_spaced]
      rw [text, List.cons_append, List.cons_append]

/-- The first member begins with a quote, and every further one takes more characters. -/
theorem spacedMembers_eq (spacing : Spacing) (level : Nat) (member : String × Json)
    (others : List (String × Json)) :
    ∃ more, spacedMembers spacing level (member :: others) = spacing.breaks level ++ '"' :: more ∧
      others.length ≤ more.length := by
  induction others generalizing member with
  | nil =>
      obtain ⟨key, value⟩ := member
      refine ⟨(quoted key).tail ++ ':' :: (spacing.gap ++ spaced spacing level value), ?_,
        Nat.zero_le _⟩
      simp only [spacedMembers, List.append_assoc]
      rw [quoted_eq_cons, List.cons_append, List.tail_cons]
  | cons next others ih =>
      obtain ⟨key, value⟩ := member
      obtain ⟨more, text, few⟩ := ih next
      refine ⟨(quoted key).tail ++ ':' :: (spacing.gap ++ (spaced spacing level value ++
        ',' :: (spacing.breaks level ++ '"' :: more))), ?_, ?_⟩
      · rw [spacedMembers, text]
        · simp only [List.append_assoc, List.cons_append]
          rw [quoted_eq_cons, List.cons_append, List.tail_cons]
        · exact List.cons_ne_nil next others
      · simp only [List.length_append, List.length_cons]
        omega

theorem skipBlank_members (spacing : Spacing) (level : Nat) (rest more : List Char) :
    skipBlank (spacing.breaks level ++ '"' :: more ++ rest) = '"' :: more ++ rest := by
  rw [List.append_assoc, skipBlank_append (spacing.breaks_blank level), List.cons_append,
    skipBlank_cons rfl]

private theorem Reads.of_succ {value : Json}
    (reads : ∀ (level fuel : Nat) (input rest : List Char),
      skipBlank input = spaced spacing level value ++ rest → Ends rest →
        2 * (spaced spacing level value).length ≤ fuel + 1 →
          readValueWith (fuel + 1) depth input = .ok (value, rest)) :
    Reads spacing depth value := by
  intro level fuel input rest written ends enough
  cases fuel with
  | zero =>
      obtain ⟨first, others, text, -⟩ := spaced_eq_cons spacing level value
      rw [text, List.length_cons] at enough
      omega
  | succ fuel => exact reads level fuel input rest written ends enough

private theorem reads_array {items : List Json}
    (inner : ∀ item ∈ items, Reads spacing depth item) :
    Reads spacing (depth + 1) (.array items) := by
  refine .of_succ fun level fuel input rest written _ enough => ?_
  cases items with
  | nil =>
      simp only [spaced] at written
      simp only [readValueWith, written]
      rfl
  | cons item others =>
      simp only [spaced, List.cons_append, List.append_assoc, List.nil_append] at written
      simp only [spaced, List.length_cons, List.length_append, List.length_nil] at enough
      obtain ⟨first, more, begins, open'⟩ := skipBlank_items (level + 1) item others
        (spacing.breaks level ++ ']' :: rest)
      have read : readItems fuel depth (first :: more) = .ok (item :: others, rest) :=
        readItems_spaced level fuel (List.cons_ne_nil item others) inner
          (by rw [← begins, skipBlank_skipBlank]) (by omega)
      simp only [readValueWith, written, begins]
      split
      · rename_i same
        exact absurd (List.cons.inj same).1 open'
      · rw [read]
        rfl

private theorem reads_object {members : List (String × Json)}
    (inner : ∀ member ∈ members, Reads spacing depth member.2) :
    Reads spacing (depth + 1) (.object members) := by
  refine .of_succ fun level fuel input rest written _ enough => ?_
  cases members with
  | nil =>
      simp only [spaced] at written
      simp only [readValueWith, written]
      rfl
  | cons member others =>
      simp only [spaced, List.cons_append, List.append_assoc, List.nil_append] at written
      simp only [spaced, List.length_cons, List.length_append, List.length_nil] at enough
      obtain ⟨more, text, -⟩ := spacedMembers_eq spacing (level + 1) member others
      have begins := skipBlank_members spacing (level + 1)
        (spacing.breaks level ++ '\x7d' :: rest) more
      rw [← text] at begins
      have read : readMembers fuel depth ('"' :: more ++ (spacing.breaks level ++ '\x7d' :: rest)) =
          .ok (member :: others, rest) :=
        readMembers_spaced level fuel (List.cons_ne_nil member others) inner
          (by rw [← begins, skipBlank_skipBlank]) (by omega)
      simp only [readValueWith, written, begins]
      split
      · rename_i same
        cases (List.cons.inj same).1
      · rw [read]
        rfl

/-- A value that fits and whose numbers are legible is read back from its text. -/
theorem reads_of_fits {value : Json} (fits : Fits depth value) (legible : value.Legible) :
    Reads spacing depth value := by
  induction fits with
  | null depth =>
      refine .of_succ fun level fuel input rest written _ _ => ?_
      simp only [spaced, chars] at written
      simp only [readValueWith, written]
      rfl
  | bool depth value =>
      refine .of_succ fun level fuel input rest written _ _ => ?_
      cases value <;>
        · simp only [spaced, chars] at written
          simp only [readValueWith, written]
          rfl
  | string depth text =>
      refine .of_succ fun level fuel input rest written _ _ => ?_
      simp only [spaced, chars] at written
      rw [quoted_eq_cons, List.cons_append] at written
      simp only [readValueWith, written, readString_quoted]
      rfl
  | number depth value =>
      refine .of_succ fun level fuel input rest written ends _ => ?_
      simp only [spaced, chars] at written
      exact (legible_number.mp legible).readValueWith written ends
  | array inner ih =>
      exact reads_array fun item listed => ih item listed (legible_array.mp legible item listed)
  | object inner ih =>
      exact reads_object fun member listed =>
        ih member listed (legible_object.mp legible member listed)

/-- The members of a record whose fields are read: they are fields, no two of them the same, and
their values fit and are legible. -/
structure Fields (fields : List String) (depth : Nat) (members : List (String × Json)) : Prop where
  known : ∀ member ∈ members, fields.contains member.1 = true
  distinct : (members.map Prod.fst).Nodup
  fits : ∀ member ∈ members, Fits depth member.2
  legible : ∀ member ∈ members, member.2.Legible

theorem readValue_spaced {value : Json} (fits : Fits depth value) (legible : value.Legible)
    (level : Nat) {rest : List Char} (ends : Ends rest) :
    readValue depth (spacing.gap ++ (spaced spacing level value ++ rest)) = .ok (value, rest) :=
  reads_of_fits fits legible level _ _ rest (skipBlank_gap_spaced level value rest) ends
    (by simp only [List.length_append]; omega)

/-- Fields that were met before are kept in front of those still to come. -/
private theorem readRecordMembers_spaced {fields : List String} (level fuel : Nat)
    {met members : List (String × Json)} (some : members ≠ [])
    (all : Fields fields depth (met ++ members)) {input rest : List Char}
    (written : skipBlank input = skipBlank (spacedMembers spacing (level + 1) members ++
      (spacing.breaks level ++ '\x7d' :: rest)))
    (enough : members.length ≤ fuel) :
    readRecordMembers depth fields fuel met input = .ok (met ++ members, rest) := by
  induction members generalizing fuel met input with
  | nil => exact absurd rfl some
  | cons member others ih =>
      obtain ⟨key, value⟩ := member
      have fits : Fits depth value := all.fits (key, value) (by simp)
      have legible : value.Legible := all.legible (key, value) (by simp)
      have known : fields.contains key = true := all.known (key, value) (by simp)
      have unmet : met.any (fun field => field.1 == key) = false := by
        have distinct := all.distinct
        rw [List.map_append, List.map_cons, List.nodup_append] at distinct
        rw [List.any_eq_false]
        intro field member same
        exact distinct.2.2 field.1 (List.mem_map_of_mem member) key List.mem_cons_self
          (by simpa using same)
      cases fuel with
      | zero => cases enough
      | succ fuel =>
          cases others with
          | nil =>
              obtain ⟨ends, closes⟩ := closing spacing level '\x7d' rfl rfl rest
              simp only [spacedMembers, List.append_assoc, List.cons_append,
                skipBlank_break_quoted] at written
              simp only [readRecordMembers, readKey_quoted written, known, unmet,
                readValue_spaced fits legible (level + 1) ends, bind, Except.bind, Except.map,
                if_true, Bool.false_eq_true, if_false, closes]
          | cons next others =>
              simp only [spacedMembers, List.append_assoc, List.cons_append,
                skipBlank_break_quoted] at written
              have allLater : Fields fields depth ((met ++ [(key, value)]) ++ next :: others) := by
                simpa using all
              have later := ih fuel (List.cons_ne_nil next others) allLater rfl
                (Nat.le_of_succ_le_succ enough)
              rw [List.append_assoc, List.singleton_append] at later
              simp only [readRecordMembers, readKey_quoted written, known, unmet,
                readValue_spaced fits legible (level + 1) (.cons (c := ',') rfl _), bind,
                Except.bind, Except.map, if_true, Bool.false_eq_true, if_false,
                skipBlank_cons (c := ',') rfl, later]

/-- A record is read from its text, however that is spaced. -/
private theorem parseRecord_spaced (spacing : Spacing) {fields : List String}
    {member : String × Json} {others : List (String × Json)}
    (all : Fields fields (maxDepth - 1) (member :: others)) :
    parseRecord fields (spaced spacing 0 (.object (member :: others))) =
      .ok (member :: others) := by
  obtain ⟨more, text, few⟩ := spacedMembers_eq spacing 1 member others
  have begins := skipBlank_members spacing 1 (spacing.breaks 0 ++ ['\x7d']) more
  rw [← text] at begins
  have read (fuel : Nat) (enough : (member :: others).length ≤ fuel) :
      readRecordMembers (maxDepth - 1) fields fuel []
        ('"' :: more ++ (spacing.breaks 0 ++ ['\x7d'])) = .ok (member :: others, []) :=
    readRecordMembers_spaced 0 fuel (List.cons_ne_nil member others) all
      (by rw [← begins, skipBlank_skipBlank]) enough
  have written : spaced spacing 0 (.object (member :: others)) =
      '\x7b' :: (spacedMembers spacing 1 (member :: others) ++ (spacing.breaks 0 ++ ['\x7d'])) := by
    simp only [spaced, List.cons_append, List.append_assoc]
  rw [parseRecord, written, readRecord, skipBlank_cons rfl]
  simp only [begins]
  split
  · rename_i same
    cases (List.cons.inj same).1
  · rw [read]
    · rfl
    · simp only [List.length_cons, List.length_append]
      omega

theorem parseRecord_indentedText {fields : List String} {member : String × Json}
    {others : List (String × Json)} (all : Fields fields (maxDepth - 1) (member :: others)) :
    parseRecord fields (indentedText (.object (member :: others))).toList =
      .ok (member :: others) := by
  rw [indentedText, String.toList_ofList, ← spaced_indented]
  exact parseRecord_spaced .indented all

theorem parseRecord_text {fields : List String} {member : String × Json}
    {others : List (String × Json)} (all : Fields fields (maxDepth - 1) (member :: others)) :
    parseRecord fields (text (.object (member :: others))).toList = .ok (member :: others) := by
  rw [text, String.toList_ofList, ← spaced_compact 0]
  exact parseRecord_spaced .compact all

/-- Numbers of 64 bits are read as they are written. -/
theorem asInt64?_ofInt? (value : Int64) :
    asInt64? (.number ((Number.ofInt? value.toInt).getD default)) = some value := by
  have lower := value.le_toInt
  have upper := value.toInt_lt
  have back : Int64.ofInt value.toInt = value := Int64.ofInt_toInt value
  generalize value.toInt = number at lower upper back ⊢
  obtain ⟨written, read⟩ := Number.exists_toInt? lower upper
  rw [Number.ofInt?_eq_some_iff.mpr read]
  simp [asInt64?, read, back]
  omega

end DocStore.Json

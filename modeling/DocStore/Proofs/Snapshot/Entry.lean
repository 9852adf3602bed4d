import DocStore.Proofs.JsonForm
import DocStore.Proofs.Snapshot
import DocStore.Proofs.Storable

namespace DocStore.Snapshot.Entry

open Json (Fits Ends Spacing spaced spacedMembers)

/-- The members of an entry besides its kind. -/
structure Content (members : List (String × Json)) : Prop where
  untagged : ∀ member ∈ members, member.1 ≠ kindKey
  fits : ∀ member ∈ members, Fits (Json.maxDepth - 1) member.2
  legible : ∀ member ∈ members, member.2.Legible

/-- Behind the kind all members are kept, in their order. -/
private theorem readMembers_content (fuel : Nat) {kind : String}
    {met members : List (String × Json)} (filled : members ≠ []) (content : Content members)
    {rest : List Char} (enough : members.length ≤ fuel) :
    readMembers fuel (some kind) met (Json.memberChars members ++ '}' :: rest) =
      .ok (some kind, met ++ members, rest) := by
  rw [← Json.spacedMembers_compact 0]
  induction members generalizing fuel met with
  | nil => exact absurd rfl filled
  | cons member others ih =>
      obtain ⟨key, value⟩ := member
      obtain ⟨untagged, untaggedLater⟩ := List.forall_mem_cons.mp content.untagged
      obtain ⟨fits, fitsLater⟩ := List.forall_mem_cons.mp content.fits
      obtain ⟨legible, legibleLater⟩ := List.forall_mem_cons.mp content.legible
      simp only at untagged fits legible
      have closes : Json.skipBlank ('}' :: rest) = '}' :: rest := Json.skipBlank_cons rfl rest
      cases fuel with
      | zero => cases enough
      | succ fuel =>
          cases others with
          | nil =>
              simp only [spacedMembers, List.append_assoc, List.cons_append]
              simp only [readMembers, Json.readKey_quoted (Json.skipBlank_break_quoted 0 key _),
                untagged, Json.readValue_spaced fits legible 0 (.cons (c := '\x7d') rfl rest), bind,
                Except.bind, Except.map, if_false, closes]
          | cons next others =>
              have later (met : List (String × Json)) := @ih fuel met (List.cons_ne_nil next others)
                ⟨untaggedLater, fitsLater, legibleLater⟩ (Nat.le_of_succ_le_succ enough)
              simp only [spacedMembers, List.append_assoc, List.cons_append]
              simp only [readMembers, Json.readKey_quoted (Json.skipBlank_break_quoted 0 key _),
                untagged, Json.readValue_spaced fits legible 0 (.cons (c := ',') rfl _), bind,
                Except.bind, Except.map, if_false, Json.skipBlank_cons (c := ',') rfl, later]
              rw [List.append_assoc, List.singleton_append]

private theorem readKind_quoted {kind : String} (known : isKind kind = true) (rest : List Char) :
    readKind (Json.quoted kind ++ rest) = .ok (kind, rest) := by
  have quote : Json.isBlank '"' = false := rfl
  rw [Json.quoted_eq_cons, List.cons_append]
  simp [readKind, Json.readValue, Json.readValueWith, Json.skipBlank_cons quote,
    Json.readString_quoted, known, bind, Except.bind, Except.map]

/-- What stands behind the opening brace of a line. -/
private def taggedChars (kind : String) (members : List (String × Json)) : List Char :=
  Json.quoted kindKey ++ ':' :: (Json.quoted kind ++ ',' :: (Json.memberChars members ++ ['}']))

private theorem text_tagged (kind : String) (member : String × Json)
    (others : List (String × Json)) :
    (tagged kind (.object (member :: others))).text.toList =
      '{' :: taggedChars kind (member :: others) := by
  rw [Json.text, String.toList_ofList, tagged]
  simp [Json.chars, Json.memberChars, taggedChars]

private theorem readMembers_tagged {kind : String} {members : List (String × Json)}
    (known : isKind kind = true) (filled : members ≠ []) (content : Content members) {fuel : Nat}
    (enough : members.length ≤ fuel) :
    readMembers (fuel + 1) none [] (taggedChars kind members) = .ok (some kind, members, []) := by
  have key : Json.readKey (taggedChars kind members) =
      .ok (kindKey, Json.quoted kind ++ ',' :: (Json.memberChars members ++ ['}'])) :=
    Json.readKey_quoted (Json.skipBlank_cons (c := '"') rfl _)
  have later : readMembers fuel (some kind) [] (Json.memberChars members ++ ['}']) =
      .ok (some kind, [] ++ members, []) := readMembers_content fuel filled content enough
  simp only [readMembers, key, if_true, Option.isSome_none, Bool.false_eq_true, if_false,
    readKind_quoted known, Json.skipBlank_cons (c := ',') rfl, later, bind, Except.bind,
    Except.map, List.nil_append]

/-- The line of an entry is read as its kind and its members. -/
theorem ofLine_tagged {kind : String} {member : String × Json} {others : List (String × Json)}
    (known : isKind kind = true) (content : Content (member :: others)) {entry : Entry}
    (read : ofContent? kind (.object (member :: others)) = some entry) :
    ofLine (tagged kind (.object (member :: others))).text.toList = .ok entry := by
  have enough : (member :: others).length ≤ (taggedChars kind (member :: others)).length := by
    obtain ⟨more, text, few⟩ := Json.spacedMembers_eq .compact 0 member others
    rw [Json.spacedMembers_compact] at text
    simp only [taggedChars, text, List.length_append, List.length_cons]
    omega
  have members := readMembers_tagged known (List.cons_ne_nil _ _) content enough
  have parts : ofParts (some kind) (.object (member :: others)) = .ok entry := by
    simp [ofParts, read]
  obtain ⟨tail, begins⟩ : ∃ tail, taggedChars kind (member :: others) = '"' :: tail := ⟨_, rfl⟩
  rw [begins] at members
  rw [text_tagged, begins, ofLine, Json.skipBlank_cons rfl]
  simp only [Json.skipBlank_cons (c := '"') rfl]
  split
  · next same => cases (List.cons.inj same).1
  · rw [members]
    simp only [bind, Except.bind, parts]
    rfl

variable {commitSeq : UInt64} {createdAt : Int64} {index : Index} {document : Document}

theorem ofLine_header :
    ofLine (header commitSeq createdAt).toJson.text.toList = .ok (header commitSeq createdAt) := by
  refine ofLine_tagged rfl ⟨?_, ?_, ?_⟩ ?_
  · simp [kindKey]
  · simpa using ⟨.number _ _, .number _ _⟩
  · simpa using Number.legible_ofInt? createdAt.toInt
  · simp [ofContent?, Json.fieldsOf?, Json.FieldValues.typed?, Json.FieldValues.get?,
      List.lookup_cons, Json.asUInt64?, Json.asInt64?_ofInt?]

theorem ofLine_index :
    ofLine (Entry.index index).toJson.text.toList = .ok (.index index) := by
  refine ofLine_tagged rfl ⟨?_, ?_, ?_⟩ ?_
  · simp [kindKey]
  · simpa using ⟨.string _ _, index.fields.fits 125⟩
  · simpa using index.fields.legible
  · have read := index.ofJson?_toJson
    rw [Index.toJson] at read
    simp [ofContent?, read]

theorem ofLine_document (storable : document.source.Storable)
    (legible : document.toJson.Legible) :
    ofLine (Entry.document document).toJson.text.toList = .ok (.document document) := by
  refine ofLine_tagged rfl ⟨?_, ?_, ?_⟩ ?_
  · simp [kindKey]
  · have source : Fits (Json.maxDepth - 1) document.source :=
      Json.fits_of_checkSource storable.checked (by decide)
    simpa using ⟨.string _ _, .string _ _, source, document.fields.fits 124⟩
  · rwa [Document.toJson, Json.legible_object] at legible
  · have read := document.ofJson?_toJson storable.settled
    rw [Document.toJson] at read
    simp [ofContent?, read]

end DocStore.Snapshot.Entry

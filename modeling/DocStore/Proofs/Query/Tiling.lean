import DocStore.Proofs.Query.Scan
import Mathlib.Data.String.Basic
/-!
Tokens tile the query.

A query is the texts of its tokens with blanks before each of them and at the end
(`Token.Layout`), and two words always have blanks between them.  So the blanks
may be others, and where they were there may be more of them: the same texts are
scanned into tokens of the same kinds (`Token.Scanned.respaced`).  Positions count
bytes, and what stands at one is cut out there (`Slice`).
-/

namespace DocStore.Query

/-- What stands between two offsets in bytes.  Both are at the beginning of a character or at the
end of the text. -/
structure Slice (text : String) (start stop : Nat) (part : String) : Prop where
  first : String.Pos.Raw.IsValid text ⟨start⟩
  last : String.Pos.Raw.IsValid text ⟨stop⟩
  bytes : text.toByteArray.extract start stop = part.toByteArray

theorem byteLength_eq (text : List Char) :
    byteLength text = (String.ofList text).utf8ByteSize := by
  induction text with
  | nil => rfl
  | cons c rest ih =>
      rw [byteLength_cons, ih, String.ofList_cons, String.utf8ByteSize_append,
        String.utf8ByteSize_singleton]

theorem Slice.of_parts (before part after : String) :
    Slice (before ++ part ++ after) before.utf8ByteSize (before ++ part).utf8ByteSize part := by
  refine ⟨?_, ?_, ?_⟩
  · exact String.Pos.Raw.isValid_iff_exists_append.mpr
      ⟨before, part ++ after, String.append_assoc .., rfl⟩
  · exact String.Pos.Raw.isValid_iff_exists_append.mpr ⟨before ++ part, after, rfl, rfl⟩
  · rw [String.append_assoc, String.toByteArray_append, String.toByteArray_append,
      String.utf8ByteSize_append, ← String.size_toByteArray, ← String.size_toByteArray]
    have inner := ByteArray.extract_append_size_add (a := before.toByteArray)
      (b := part.toByteArray ++ after.toByteArray) (i := 0) (j := part.toByteArray.size)
    rw [Nat.add_zero] at inner
    rw [inner, ByteArray.extract_append_eq_left rfl]

namespace Token

variable {text rest : List Char} {tokens : List Token} {position : Nat}

theorem StandsIn.slice {query : String} {token : Token}
    (stands : StandsIn 0 query.toList token) :
    Slice query token.position (token.position + token.text.utf8ByteSize) token.text := by
  obtain ⟨before, after, parts, place⟩ := stands
  have whole : query = String.ofList before ++ token.text ++ String.ofList after := by
    simp [← String.toList_inj, parts]
  have slice := Slice.of_parts (String.ofList before) token.text (String.ofList after)
  rwa [← whole, String.utf8ByteSize_append, ← byteLength_eq, ← Nat.zero_add (byteLength before),
    ← place] at slice

def Blank (text : List Char) : Prop := ∀ c ∈ text, Text.isBlank c = true

theorem Blank.nil : Blank [] := List.forall_mem_nil _

instance (text : List Char) : Decidable (Blank text) := List.decidableBAll _ text

/-- Texts of tokens, each behind a gap. -/
def spread (pieces : List (List Char × Token)) : List Char :=
  pieces.flatMap fun piece => piece.1 ++ piece.2.text.toList

theorem spread_cons (gap : List Char) (token : Token) (pieces : List (List Char × Token)) :
    spread ((gap, token) :: pieces) = gap ++ (token.text.toList ++ spread pieces) := by
  simp [spread]

/-- A text from a position on is its tokens, each behind a gap, with a gap at the end.  Gaps are
blank, and not empty between two words. -/
structure Layout (start : Nat) (text : List Char) (tokens : List Token)
    (pieces : List (List Char × Token)) (ending : List Char) : Prop where
  tokens : pieces.map Prod.snd = tokens
  text : text = spread pieces ++ ending
  gaps : ∀ piece ∈ pieces, Blank piece.1
  ending : Blank ending
  placed : ∀ before piece after, pieces = before ++ piece :: after →
    piece.2.position = start + byteLength (spread before ++ piece.1)
  apart : ∀ before first second after, pieces = before ++ first :: second :: after →
    ∀ word other, first.2.kind = .word word → second.2.kind = .word other → second.1 ≠ []

theorem Layout.nil {start : Nat} {ending : List Char} (blank : Blank ending) :
    Layout start ending [] [] ending :=
  ⟨rfl, rfl, nofun, blank, by simp, by simp⟩

theorem Layout.cons {start : Nat} {gap ending : List Char} {token : Token}
    {pieces : List (List Char × Token)} (blank : Blank gap)
    (placed : token.position = start + byteLength gap)
    (layout : Layout (token.position + byteLength token.text.toList) text tokens pieces ending)
    (apart : ∀ second others, pieces = second :: others →
      ∀ word other, token.kind = .word word → second.2.kind = .word other → second.1 ≠ []) :
    Layout start (gap ++ (token.text.toList ++ text)) (token :: tokens)
      ((gap, token) :: pieces) ending := by
  refine ⟨by rw [List.map_cons, layout.tokens], ?_, List.forall_mem_cons.mpr ⟨blank, layout.gaps⟩,
    layout.ending, ?_, ?_⟩
  · rw [spread_cons, layout.text]
    simp only [List.append_assoc]
  · intro before piece after parts
    cases before with
    | nil =>
        cases parts
        exact placed
    | cons first before =>
        obtain ⟨rfl, inner⟩ := List.cons.inj parts
        rw [layout.placed before piece after inner, placed, spread_cons]
        simp only [byteLength_append]
        omega
  · intro before first second after parts
    cases before with
    | nil =>
        obtain ⟨rfl, inner⟩ := List.cons.inj parts
        exact apart second after inner
    | cons head before =>
        obtain ⟨rfl, inner⟩ := List.cons.inj parts
        exact layout.apart before first second after inner

/-- No word goes on where one was read. -/
private theorem endsWord_of_readKind {c : Char} {after : List Char} {word : String}
    (read : readKind position c rest = .ok (.word word, after)) : EndsWord after := by
  obtain ⟨-, -, rfl⟩ := parts_of_readKind_word read
  intro d first
  have stops := List.head?_dropWhile_not isWordChar rest
  rw [first] at stops
  simpa using stops

/-- A word does not stand where none goes on. -/
private theorem not_endsWord {word : String} {token : Token}
    (scanned : Scanned position (token.text.toList ++ rest) tokens) (member : token ∈ tokens)
    (named : token.kind = .word word) : ¬ EndsWord (token.text.toList ++ rest) := by
  have isWord := isWord_of_scanFrom ((scanFrom_eq_ok_iff (Nat.le_refl _)).mpr scanned) token member
    word named
  rw [← scanned.text_of_word token member word named] at isWord
  obtain ⟨some, all⟩ := isWord
  obtain ⟨c, others, text⟩ := List.exists_cons_of_ne_nil some
  rw [text] at all ⊢
  intro ends
  have first := ends c rfl
  rw [all c List.mem_cons_self] at first
  cases first

namespace Scanned

/-- Blanks that were passed belong to the gap before the next token. -/
private theorem exists_layout_behind (scanned : Scanned position text tokens) (start : Nat)
    (gap : List Char) (blank : Blank gap) (place : position = start + byteLength gap) :
    ∃ pieces ending, Layout start (gap ++ text) tokens pieces ending := by
  induction scanned generalizing start gap with
  | nil => exact ⟨[], gap, by simpa using Layout.nil blank⟩
  | @blank position c rest tokens white _ ih =>
      have longer : Blank (gap ++ [c]) :=
        List.forall_mem_append.mpr ⟨blank, by simpa using white⟩
      have width : byteLength [c] = c.utf8Size := by simp [byteLength]
      obtain ⟨pieces, ending, layout⟩ := ih start (gap ++ [c]) longer
        (by rw [place, byteLength_append, width, Nat.add_assoc])
      rw [List.append_assoc] at layout
      exact ⟨pieces, ending, layout⟩
  | @token position c taken after kind tokens visible read later ih =>
      let token : Token := ⟨kind, position, String.ofList (c :: taken)⟩
      have chars : token.text.toList = c :: taken := String.toList_ofList
      obtain ⟨pieces, ending, layout⟩ := ih (position + byteLength (c :: taken)) [] .nil rfl
      rw [List.nil_append, ← chars] at layout
      have apart : ∀ second others, pieces = second :: others →
          ∀ word other, token.kind = .word word → second.2.kind = .word other →
            second.1 ≠ [] := by
        rintro ⟨between, second⟩ others rfl word other rfl named rfl
        rw [layout.text, spread_cons, List.nil_append, List.append_assoc] at later read
        exact not_endsWord later (by simp [← layout.tokens]) named (endsWord_of_readKind read)
      have whole : Layout start (gap ++ (token.text.toList ++ after)) (token :: tokens)
          ((gap, token) :: pieces) ending := layout.cons blank place apart
      rw [chars] at whole
      exact ⟨_, ending, whole⟩

/-- What is scanned is laid out. -/
theorem exists_layout (scanned : Scanned position text tokens) :
    ∃ pieces ending, Layout position text tokens pieces ending :=
  scanned.exists_layout_behind position [] .nil rfl

/-- The text of a token is that token wherever it stands alone. -/
theorem scans_text (scanned : Scanned position text tokens) :
    ∀ token ∈ tokens, Scans token.text.toList [token.kind] := by
  induction scanned with
  | nil => exact nofun
  | blank _ _ ih => exact ih
  | @token position c taken after kind tokens visible read _ ih =>
      have alone := (readKind_parts read).2 position [] (.inr .nil)
      have once : Scanned position (c :: (taken ++ [])) _ := .token visible alone (.nil _)
      refine List.forall_mem_cons.mpr ⟨?_, ih⟩
      rw [String.toList_ofList]
      rw [List.append_nil] at once
      obtain ⟨moved, scanned, kinds⟩ := once.move 0
      exact scans_iff.mpr ⟨moved, scanned, kinds⟩

end Scanned

theorem Scans.behind {gap : List Char} {kinds : List TokenKind} (blank : Blank gap)
    (scans : Scans rest kinds) : Scans (gap ++ rest) kinds := by
  induction gap with
  | nil => exact scans
  | cons c gap ih =>
      obtain ⟨first, others⟩ := List.forall_mem_cons.mp blank
      exact (ih others).blank first

/-- No token goes on with blanks. -/
private theorem breaks_of_blank (blank : Blank text) : Breaks text := by
  intro c first
  have white := blank c (List.mem_of_mem_head? first)
  refine ⟨by simp [isWordChar, white], Bool.eq_false_iff.mpr fun operator => ?_⟩
  simp only [isOperatorChar, Bool.or_eq_true, decide_eq_true_eq] at operator
  rcases operator with (((((rfl | rfl) | rfl) | rfl) | rfl) | rfl) | rfl <;> cases white

/-- What follows a token begins with a gap, or ends with one. -/
private theorem breaks_spread {pieces : List (List Char × Token)} {ending : List Char}
    (gaps : ∀ piece ∈ pieces, Blank piece.1 ∧ piece.1 ≠ []) (blank : Blank ending) :
    Breaks (spread pieces ++ ending) := by
  cases pieces with
  | nil => exact breaks_of_blank blank
  | cons piece pieces =>
      obtain ⟨white, some⟩ := gaps piece List.mem_cons_self
      have breaks := breaks_of_blank white
      obtain ⟨c, others, gap⟩ := List.exists_cons_of_ne_nil some
      intro d first
      rw [spread_cons, gap] at first
      exact breaks d (gap ▸ first)

theorem scans_spread {pieces : List (List Char × Token)} {ending : List Char}
    (scans : ∀ piece ∈ pieces, Scans piece.2.text.toList [piece.2.kind])
    (gaps : ∀ piece ∈ pieces, Blank piece.1) (apart : ∀ piece ∈ pieces.tail, piece.1 ≠ [])
    (blank : Blank ending) :
    Scans (spread pieces ++ ending) (pieces.map fun piece => piece.2.kind) := by
  induction pieces with
  | nil => simpa [spread] using Scans.nil.behind blank
  | cons piece pieces ih =>
      obtain ⟨gap, token⟩ := piece
      obtain ⟨first, others⟩ := List.forall_mem_cons.mp scans
      obtain ⟨white, later⟩ := List.forall_mem_cons.mp gaps
      have rest := ih others later fun piece member => apart piece (List.mem_of_mem_tail member)
      have breaks : Breaks (spread pieces ++ ending) :=
        breaks_spread (fun piece member => ⟨later piece member, apart piece member⟩) blank
      rw [spread_cons, List.append_assoc, List.append_assoc]
      exact (first.append breaks rest).behind white

/-- Tokens with other gaps between them are scanned into tokens of the same kinds, if no gap between
two of them is empty. -/
theorem Scanned.respaced (scanned : Scanned position text tokens)
    {pieces : List (List Char × Token)} {ending : List Char}
    (same : pieces.map Prod.snd = tokens) (gaps : ∀ piece ∈ pieces, Blank piece.1)
    (apart : ∀ piece ∈ pieces.tail, piece.1 ≠ []) (blank : Blank ending) :
    Scans (spread pieces ++ ending) (tokens.map Token.kind) := by
  have alone : ∀ piece ∈ pieces, Scans piece.2.text.toList [piece.2.kind] := fun piece member =>
    scanned.scans_text piece.2 (same ▸ List.mem_map_of_mem member)
  have scans := scans_spread alone gaps apart blank
  rwa [← same, List.map_map]

end Token

end DocStore.Query

import DocStore.Proofs.Query.Token
/-!
Scanning step by step.

A blank is passed, and a token is read from the text before the one that follows
it (`Scanned`).  A token looks no further than the first character after it, so
that a text is scanned alike wherever it stands (`Scanned.move`) and in front of
any text that no token goes on with (`Scanned.append`).
-/

namespace DocStore.Query

theorem byteLength_cons (c : Char) (text : List Char) :
    byteLength (c :: text) = c.utf8Size + byteLength text := by
  have shifted (start : Nat) :
      text.foldl (fun length c => length + c.utf8Size) start = start + byteLength text := by
    unfold byteLength
    induction text generalizing start with
    | nil => rfl
    | cons d text ih => rw [List.foldl_cons, List.foldl_cons, ih, ih (0 + d.utf8Size)]; omega
  rw [byteLength, List.foldl_cons, shifted, Nat.zero_add]

theorem byteLength_append (first second : List Char) :
    byteLength (first ++ second) = byteLength first + byteLength second := by
  induction first with
  | nil => exact (Nat.zero_add _).symm
  | cons c first ih => rw [List.cons_append, byteLength_cons, byteLength_cons, ih, Nat.add_assoc]

namespace Token

variable {c : Char} {text rest after tail : List Char} {kind : TokenKind} {position : Nat}
  {tokens : List Token}

/-- No token goes on with this text. -/
def Breaks (text : List Char) : Prop :=
  ∀ c ∈ text.head?, isWordChar c = false ∧ isOperatorChar c = false

theorem Breaks.nil : Breaks [] := by simp [Breaks]

/-- What follows a token begins like `after`, or breaks it off. -/
def Follows (after tail : List Char) : Prop := tail.head? = after.head? ∨ Breaks tail

theorem Follows.refl (after : List Char) : Follows after after := .inl rfl

theorem Follows.append (breaks : Breaks rest) (after : List Char) :
    Follows after (after ++ rest) := by
  cases after with
  | nil => exact .inr breaks
  | cons c after => exact .inl rfl

private theorem readString_split {value : List Char}
    (read : readString rest = some (value, after)) :
    ∃ text, rest = text ++ after ∧ ∀ tail, readString (text ++ tail) = some (value, tail) := by
  fun_induction readString rest generalizing value with
  | case1 => cases read
  | case2 rest =>
      cases read
      exact ⟨['"'], rfl, fun _ => rfl⟩
  | case3 => cases read
  | case4 c rest ih =>
      obtain ⟨⟨inner, later⟩, found, same⟩ := Option.map_eq_some_iff.mp read
      have ends : later = after := by
        dsimp only at same
        split at same <;> exact (Prod.mk.inj same).2
      obtain ⟨text, rfl, reads⟩ := ih (ends ▸ found)
      refine ⟨'\\' :: c :: text, rfl, fun tail => ?_⟩
      rw [List.cons_append, List.cons_append, readString, reads tail, Option.map_some]
      dsimp only at same ⊢
      split at same <;> simp_all
  | case5 c rest notQuote notLast notEscape ih =>
      obtain ⟨⟨inner, later⟩, found, same⟩ := Option.map_eq_some_iff.mp read
      cases same
      obtain ⟨text, rfl, reads⟩ := ih found
      refine ⟨c :: text, rfl, fun tail => ?_⟩
      have backslash : c ≠ '\\' := by
        rintro rfl
        cases written : text ++ after with
        | nil => exact notLast rfl written
        | cons d rest => exact notEscape d rest rfl written
      rw [List.cons_append, readString, reads tail]
      all_goals simp_all

private theorem readOperator_split (read : readOperator c rest = some (kind, after)) :
    ∃ text, rest = text ++ after ∧
      ∀ tail, Follows after tail → readOperator c (text ++ tail) = some (kind, tail) := by
  -- An operator of one character that others begin with looks at the character after it.
  have single {tail : List Char} (follows : Follows after tail)
      (alone : ∀ rest, after = '=' :: rest → False) (rest : List Char) : tail ≠ '=' :: rest := by
    rintro rfl
    rcases follows with same | breaks
    · cases after with
      | nil => cases same
      | cons d rest => exact alone rest (by cases same; rfl)
    · cases (breaks '=' rfl).2
  unfold readOperator at read
  split at read <;> cases read
  · exact ⟨['&'], rfl, fun _ _ => rfl⟩
  · exact ⟨['|'], rfl, fun _ _ => rfl⟩
  · exact ⟨['='], rfl, fun _ _ => rfl⟩
  · exact ⟨['='], rfl, fun _ _ => rfl⟩
  · exact ⟨['='], rfl, fun _ _ => rfl⟩
  · exact ⟨['='], rfl, fun _ _ => rfl⟩
  · exact ⟨[], rfl, fun tail _ => rfl⟩
  · next alone =>
      refine ⟨[], rfl, fun tail follows => ?_⟩
      have other := single follows alone
      cases tail <;> simp_all [readOperator]
  · next alone =>
      refine ⟨[], rfl, fun tail follows => ?_⟩
      have other := single follows alone
      cases tail <;> simp_all [readOperator]

private theorem takeWhile_split (follows : Follows (rest.dropWhile isWordChar) tail) :
    (rest.takeWhile isWordChar ++ tail).takeWhile isWordChar = rest.takeWhile isWordChar ∧
      (rest.takeWhile isWordChar ++ tail).dropWhile isWordChar = tail := by
  have all : ∀ c ∈ rest.takeWhile isWordChar, isWordChar c = true := fun c =>
    List.mem_takeWhile_imp
  have stops : tail.takeWhile isWordChar = [] ∧ tail.dropWhile isWordChar = tail := by
    cases tail with
    | nil => exact ⟨rfl, rfl⟩
    | cons c tail =>
        have ends : isWordChar c = false := by
          rcases follows with same | breaks
          · have first := List.head?_dropWhile_not isWordChar rest
            rw [← same] at first
            simpa using first
          · exact (breaks c rfl).1
        simp [ends]
  rw [List.takeWhile_append_of_pos all, List.dropWhile_append_of_pos all, stops.1, stops.2,
    List.append_nil]
  exact ⟨rfl, rfl⟩

/-- What is read as a token is a first part of the text, and is read alike in front of any text
that follows it. -/
theorem readKind_split (read : readKind position c rest = .ok (kind, after)) :
    ∃ text, rest = text ++ after ∧ (∀ word, kind = .word word → word = String.ofList (c :: text)) ∧
      ∀ position tail, Follows after tail →
        readKind position c (text ++ tail) = .ok (kind, tail) := by
  unfold readKind at read
  split at read
  case isTrue opens =>
    cases read
    exact ⟨[], rfl, by simp, fun _ tail _ => by simp [readKind, opens]⟩
  split at read
  case isTrue closes =>
    cases read
    exact ⟨[], rfl, by simp, fun _ tail _ => by simp [readKind, closes]⟩
  split at read
  case isTrue quote =>
    split at read
    case h_1 value later found =>
      cases read
      obtain ⟨text, rfl, reads⟩ := readString_split found
      exact ⟨text, rfl, by simp, fun _ tail _ => by simp [readKind, quote, reads]⟩
    case h_2 => cases read
  next notOpen notClose notQuote =>
    split at read
    case isTrue operator =>
      split at read
      case h_1 found made =>
        cases read
        obtain ⟨text, rfl, reads⟩ := readOperator_split made
        refine ⟨text, rfl, ?_, fun _ tail follows => ?_⟩
        · rintro word rfl
          unfold readOperator at made
          split at made <;> cases made
        · simp [readKind, notOpen, notClose, notQuote, operator, reads tail follows]
      case h_2 => cases read
    case isFalse notOperator =>
      cases read
      refine ⟨rest.takeWhile isWordChar, List.takeWhile_append_dropWhile.symm, ?_,
        fun _ tail follows => ?_⟩
      · rintro word same
        cases same
        rfl
      · obtain ⟨word, later⟩ := takeWhile_split follows
        simp [readKind, notOpen, notClose, notQuote, notOperator, word, later]

/-- What is read as a token, given what it leaves. -/
theorem readKind_parts (read : readKind position c (text ++ after) = .ok (kind, after)) :
    (∀ word, kind = .word word → word = String.ofList (c :: text)) ∧
      ∀ position tail, Follows after tail →
        readKind position c (text ++ tail) = .ok (kind, tail) := by
  obtain ⟨taken, written, parts⟩ := readKind_split read
  obtain rfl := List.append_cancel_right written
  exact parts

/-- A text that begins at a position is scanned into tokens. -/
inductive Scanned : Nat → List Char → List Token → Prop where
  | nil (position : Nat) : Scanned position [] []
  | blank {position : Nat} {c : Char} {rest : List Char} {tokens : List Token}
      (blank : Text.isBlank c = true) (later : Scanned (position + c.utf8Size) rest tokens) :
      Scanned position (c :: rest) tokens
  | token {position : Nat} {c : Char} {text after : List Char} {kind : TokenKind}
      {tokens : List Token} (visible : Text.isBlank c = false)
      (read : readKind position c (text ++ after) = .ok (kind, after))
      (later : Scanned (position + byteLength (c :: text)) after tokens) :
      Scanned position (c :: (text ++ after))
        (⟨kind, position, String.ofList (c :: text)⟩ :: tokens)

theorem take_split (c : Char) (text after : List Char) :
    (c :: (text ++ after)).take ((text ++ after).length + 1 - after.length) = c :: text := by
  have length : (text ++ after).length + 1 - after.length = (c :: text).length := by
    simp only [List.length_append, List.length_cons]
    omega
  rw [length, ← List.cons_append, List.take_left]

theorem scanFrom_eq_ok_iff {fuel : Nat} (enough : text.length ≤ fuel) :
    scanFrom fuel position text = .ok tokens ↔ Scanned position text tokens := by
  constructor
  · intro scanned
    induction fuel generalizing position text tokens with
    | zero =>
        obtain rfl := List.length_eq_zero_iff.mp (Nat.le_zero.mp enough)
        cases scanned
        exact .nil position
    | succ fuel ih =>
        cases text with
        | nil => cases scanned; exact .nil position
        | cons c rest =>
            have enough := Nat.le_of_succ_le_succ enough
            rw [scanFrom] at scanned
            split at scanned
            case isTrue blank => exact .blank blank (ih enough scanned)
            case isFalse visible =>
              cases read : readKind position c rest with
              | error fault => simp [read, bind, Except.bind] at scanned
              | ok found =>
                  obtain ⟨kind, after⟩ := found
                  obtain ⟨text, rfl, -, -⟩ := readKind_split read
                  simp only [read, bind, Except.bind, take_split] at scanned
                  split at scanned
                  · cases scanned
                  next tokens inner =>
                    cases scanned
                    refine .token (by simpa using visible) read (ih ?_ inner)
                    rw [List.length_append] at enough
                    omega
  · intro scanned
    induction scanned generalizing fuel with
    | nil => cases fuel <;> rfl
    | blank blank _ ih =>
        cases fuel with
        | zero => cases enough
        | succ fuel => rw [scanFrom, if_pos blank, ih (Nat.le_of_succ_le_succ enough)]
    | @token position c text after kind tokens visible read _ ih =>
        cases fuel with
        | zero => cases enough
        | succ fuel =>
            have enough := Nat.le_of_succ_le_succ enough
            rw [List.length_append] at enough
            rw [scanFrom, if_neg (by simp [visible])]
            simp only [read, bind, Except.bind, take_split, ih (show after.length ≤ fuel by omega)]

theorem scan_eq_ok_iff {query : String} :
    scan query = .ok tokens ↔ Scanned 0 query.toList tokens :=
  scanFrom_eq_ok_iff (Nat.le_refl _)

namespace Scanned

/-- Where a text begins is seen in the positions of its tokens alone. -/
theorem move (scanned : Scanned position text tokens) (other : Nat) :
    ∃ moved, Scanned other text moved ∧ moved.map Token.kind = tokens.map Token.kind := by
  induction scanned generalizing other with
  | nil => exact ⟨[], .nil other, rfl⟩
  | blank blank _ ih =>
      obtain ⟨moved, scanned, same⟩ := ih _
      exact ⟨moved, .blank blank scanned, same⟩
  | token visible read _ ih =>
      obtain ⟨moved, scanned, same⟩ := ih _
      have reads := (readKind_parts read).2 other _ (.refl _)
      exact ⟨_, .token visible reads scanned, by simp [same]⟩

/-- A text is scanned alike in front of a text that no token goes on with. -/
theorem append {more : List Token} (scanned : Scanned position text tokens) (breaks : Breaks rest)
    (later : Scanned (position + byteLength text) rest more) :
    Scanned position (text ++ rest) (tokens ++ more) := by
  induction scanned with
  | nil => exact later
  | blank blank _ ih =>
      rw [byteLength_cons, ← Nat.add_assoc] at later
      exact .blank blank (ih later)
  | @token position c text after kind tokens visible read _ ih =>
      rw [← List.cons_append, byteLength_append, ← Nat.add_assoc] at later
      have reads := (readKind_parts read).2 position _ (.append breaks after)
      rw [List.cons_append, List.append_assoc]
      exact .token visible reads (ih later)

theorem eq_nil_iff (scanned : Scanned position text tokens) :
    tokens = [] ↔ ∀ c ∈ text, Text.isBlank c = true := by
  induction scanned with
  | nil => simp
  | blank blank _ ih => simp [blank, ih]
  | token visible => simp [visible]

end Scanned

theorem scanned_of_blank (blank : ∀ c ∈ text, Text.isBlank c = true) (position : Nat) :
    Scanned position text [] := by
  induction text generalizing position with
  | nil => exact .nil position
  | cons c rest ih =>
      obtain ⟨first, others⟩ := List.forall_mem_cons.mp blank
      exact .blank first (ih others _)

/-- A text without tokens is blank. -/
theorem scan_eq_nil_iff {query : String} :
    scan query = .ok [] ↔ Text.isBlankText query = true := by
  rw [scan_eq_ok_iff, Text.isBlankText, List.all_eq_true]
  exact ⟨fun scanned => scanned.eq_nil_iff.mp rfl, fun blank => scanned_of_blank blank 0⟩

theorem scans_iff {kinds : List TokenKind} :
    Scans text kinds ↔ ∃ tokens, Scanned 0 text tokens ∧ tokens.map Token.kind = kinds := by
  constructor
  · intro scans
    obtain ⟨tokens, scanned, same⟩ := scans text.length 0 (Nat.le_refl _)
    exact ⟨tokens, (scanFrom_eq_ok_iff (Nat.le_refl _)).mp scanned, same⟩
  · rintro ⟨tokens, scanned, rfl⟩ fuel position enough
    obtain ⟨moved, scanned, same⟩ := scanned.move position
    exact ⟨moved, (scanFrom_eq_ok_iff enough).mpr scanned, same⟩

theorem Scans.append {kinds others : List TokenKind} (scans : Scans text kinds)
    (breaks : Breaks rest) (later : Scans rest others) :
    Scans (text ++ rest) (kinds ++ others) := by
  obtain ⟨tokens, scanned, rfl⟩ := scans_iff.mp scans
  obtain ⟨more, scannedLater, rfl⟩ := scans_iff.mp later
  obtain ⟨moved, scannedLater, same⟩ := scannedLater.move (0 + byteLength text)
  exact scans_iff.mpr ⟨tokens ++ moved, scanned.append breaks scannedLater, by simp [same]⟩

/-- The text of a token stands in the query at its position, counted in bytes from `start`. -/
def StandsIn (start : Nat) (query : List Char) (token : Token) : Prop :=
  ∃ before after, query = before ++ token.text.toList ++ after ∧
    token.position = start + byteLength before

theorem StandsIn.behind {start : Nat} {query : List Char} {token : Token} (first : List Char)
    (stands : StandsIn (start + byteLength first) query token) :
    StandsIn start (first ++ query) token := by
  obtain ⟨before, after, rfl, position⟩ := stands
  refine ⟨first ++ before, after, by simp, ?_⟩
  rw [position, byteLength_append, Nat.add_assoc]

namespace Scanned

theorem standsIn (scanned : Scanned position text tokens) :
    ∀ token ∈ tokens, StandsIn position text token := by
  induction scanned with
  | nil => exact nofun
  | @blank position c rest tokens _ _ ih =>
      intro token member
      have first : byteLength [c] = c.utf8Size := by simp [byteLength]
      exact StandsIn.behind [c] (first ▸ ih token member)
  | @token position c text after kind tokens _ _ _ ih =>
      refine List.forall_mem_cons.mpr ⟨⟨[], after, ?_, ?_⟩, fun token member => ?_⟩
      · simp
      · simp [byteLength]
      · exact (ih token member).behind (c :: text)

theorem position_le (scanned : Scanned position text tokens) :
    ∀ token ∈ tokens, position ≤ token.position := by
  intro token member
  obtain ⟨before, after, -, same⟩ := scanned.standsIn token member
  omega

theorem ascending (scanned : Scanned position text tokens) :
    tokens.Pairwise fun a b => a.position < b.position := by
  induction scanned with
  | nil => exact .nil
  | blank _ _ ih => exact ih
  | @token position c text after kind tokens _ _ later ih =>
      refine List.pairwise_cons.mpr ⟨fun token member => ?_, ih⟩
      have beyond := later.position_le token member
      have width := c.utf8Size_pos
      rw [byteLength_cons] at beyond
      change position < token.position
      omega

theorem text_ne_empty (scanned : Scanned position text tokens) :
    ∀ token ∈ tokens, token.text ≠ "" := by
  induction scanned with
  | nil => exact nofun
  | blank _ _ ih => exact ih
  | token _ _ _ ih => exact List.forall_mem_cons.mpr ⟨by simp [← String.toList_inj], ih⟩

/-- A word is the text of its token. -/
theorem text_of_word (scanned : Scanned position text tokens) :
    ∀ token ∈ tokens, ∀ word, token.kind = .word word → token.text = word := by
  induction scanned with
  | nil => exact nofun
  | blank _ _ ih => exact ih
  | token _ read _ ih =>
      have written := (readKind_parts read).1
      exact List.forall_mem_cons.mpr ⟨fun word named => (written word named).symm, ih⟩

end Scanned

end Token

end DocStore.Query

import DocStore.Proofs.Query.Compilation
import DocStore.Proofs.Query.Tiling
/-!
What faults point at.

A query that is not scanned is scanned up to its fault.  One that is scanned and
not read is blamed at one of its tokens, or at its end (`Expr.Blames`).  So the
place of a fault is between two characters of the query, or at an end of it, and
its fragment stands in the query (`Fault.PointsInto`).
-/

namespace DocStore.Query

/-- The place of a fault is in the query, and its fragment begins there, or goes up to the end of
the query when the place is the end. -/
structure Fault.PointsInto (query : String) (fault : Fault) : Prop where
  place : String.Pos.Raw.IsValid query ⟨fault.position⟩
  within : fault.position ≤ query.utf8ByteSize
  fragment : ∃ start stop, Slice query start stop fault.fragment ∧
    (fault.position = start ∨ fault.position = stop ∧ stop = query.utf8ByteSize)

theorem Slice.of_suffix (before part : String) :
    Slice (before ++ part) before.utf8ByteSize (before ++ part).utf8ByteSize part := by
  simpa using Slice.of_parts before part ""

namespace Fault.PointsInto

variable {query : String} {fault : Fault} {start stop : Nat}

theorem of_start (slice : Slice query start stop fault.fragment) (begins : fault.position = start) :
    fault.PointsInto query := by
  subst begins
  exact ⟨slice.first, slice.first.le_rawEndPos, _, _, slice, .inl rfl⟩

theorem of_end (slice : Slice query start query.utf8ByteSize fault.fragment)
    (ends : fault.position = query.utf8ByteSize) : fault.PointsInto query := by
  refine ⟨ends ▸ slice.last, Nat.le_of_eq ends, _, _, slice, .inr ⟨ends, rfl⟩⟩

end Fault.PointsInto

namespace Token

variable {text rest : List Char} {position : Nat} {fault : Fault}

private theorem fault_of_readKind {c : Char} (failed : readKind position c rest = .error fault) :
    fault.position = position ∧ ∃ after, c :: rest = fault.fragment.toList ++ after := by
  unfold readKind at failed
  split at failed
  · cases failed
  split at failed
  · cases failed
  split at failed
  · split at failed
    · cases failed
    · cases failed
      exact ⟨rfl, [], by simp⟩
  split at failed
  · split at failed
    · cases failed
    · cases failed
      exact ⟨rfl, rest.drop 1, by simp [-List.drop_one]⟩
  · cases failed

/-- What stands before a fault is scanned. -/
theorem exists_before_fault {fuel : Nat} (enough : text.length ≤ fuel)
    (failed : scanFrom fuel position text = .error fault) :
    ∃ before after tokens, text = before ++ fault.fragment.toList ++ after ∧
      fault.position = position + byteLength before ∧ Scanned position before tokens := by
  induction fuel generalizing position text with
  | zero => cases failed
  | succ fuel ih =>
      cases text with
      | nil => cases failed
      | cons c rest =>
          have enough := Nat.le_of_succ_le_succ enough
          rw [scanFrom] at failed
          split at failed
          case isTrue blank =>
            obtain ⟨before, after, tokens, rfl, place, scanned⟩ := ih enough failed
            refine ⟨c :: before, after, tokens, rfl, ?_, .blank blank scanned⟩
            rw [place, byteLength_cons, Nat.add_assoc]
          case isFalse visible =>
            cases read : readKind position c rest with
            | error found =>
                simp only [read, bind, Except.bind, Except.error.injEq] at failed
                obtain ⟨place, after, written⟩ := fault_of_readKind (failed ▸ read)
                exact ⟨[], after, [], written, place, .nil position⟩
            | ok found =>
                obtain ⟨kind, later⟩ := found
                obtain ⟨taken, rfl, -, reads⟩ := readKind_split read
                simp only [read, bind, Except.bind, take_split] at failed
                split at failed
                case h_2 => cases failed
                next inner =>
                  cases failed
                  rw [List.length_append] at enough
                  obtain ⟨before, after, tokens, rfl, place, scanned⟩ := ih (by omega) inner
                  -- The text before the fault goes on as the query does, or ends with the token.
                  have follows : Follows (before ++ fault.fragment.toList ++ after) before := by
                    cases before with
                    | nil => exact .inr .nil
                    | cons d before => exact .inl rfl
                  refine ⟨c :: (taken ++ before), after, _, by simp, ?_,
                    .token (by simpa using visible) (reads position before follows) scanned⟩
                  rw [place, ← List.cons_append, byteLength_append, Nat.add_assoc]

end Token

namespace Expr

variable {atEnd : Problem → Fault} {tokens more rest : List Token} {expr left : Expr}
  {joined : Option Connective} {fault : Fault} {fuel : Nat}

/-- A fault at one of the tokens, or at the end. -/
def Blames (atEnd : Problem → Fault) (tokens : List Token) (fault : Fault) : Prop :=
  (∃ token ∈ tokens, ∃ problem, fault = faultAt token problem) ∨ ∃ problem, fault = atEnd problem

theorem Blames.at_token {token : Token} {problem : Problem} (member : token ∈ tokens) :
    Blames atEnd tokens (faultAt token problem) :=
  .inl ⟨token, member, problem, rfl⟩

theorem Blames.at_end (problem : Problem) : Blames atEnd tokens (atEnd problem) :=
  .inr ⟨problem, rfl⟩

theorem Blames.mono (blames : Blames atEnd more fault) (within : more ⊆ tokens) :
    Blames atEnd tokens fault :=
  blames.imp_left fun ⟨token, member, problem⟩ => ⟨token, within member, problem⟩

theorem bind_eq_error {α β : Type} {read : Except Fault α} {next : α → Except Fault β}
    (failed : (read >>= next) = .error fault) :
    read = .error fault ∨ ∃ value, read = .ok value ∧ next value = .error fault := by
  cases read with
  | error found => exact .inl (congrArg Except.error (Except.error.inj failed))
  | ok value => exact .inr ⟨value, rfl, failed⟩

private theorem blames_of_readRule_symbol {field operator : Token} {name : String}
    {comparison : Comparison} (kind : operator.kind = .symbol comparison)
    (failed : readRule atEnd field name (operator :: tokens) = .error fault) :
    Blames atEnd tokens fault := by
  simp only [readRule, kind, bind, Except.bind] at failed
  split at failed
  · cases failed
    exact .at_end _
  · split at failed
    · cases failed
    · split at failed <;> cases failed
      exact .at_token List.mem_cons_self
    · cases failed
      exact .at_token List.mem_cons_self

private theorem blames_of_readRule {field : Token} {name : String}
    (failed : readRule atEnd field name tokens = .error fault) : Blames atEnd tokens fault := by
  cases tokens with
  | nil =>
      cases failed
      exact .at_end _
  | cons operator others =>
      by_cases compares : ∃ comparison, Compares operator.kind comparison
      · obtain ⟨comparison, compares⟩ := compares
        refine Blames.mono ?_ (List.subset_cons_self operator others)
        rcases compares_iff.mp compares with symbol | ⟨word, kind, found⟩
        · exact blames_of_readRule_symbol symbol failed
        · rw [readRule_word kind found] at failed
          exact blames_of_readRule_symbol rfl failed
      · obtain ⟨problem, blamed⟩ := readRule_of_not_compares (not_exists.mp compares)
        cases blamed.symm.trans failed
        exact .at_token List.mem_cons_self

/-- What cannot be read with so much fuel is blamed on one of its tokens or on the end. -/
structure Blaming (atEnd : Problem → Fault) (fuel : Nat) : Prop where
  expr : ∀ tokens fault, readExpr atEnd fuel tokens = .error fault → Blames atEnd tokens fault
  chain : ∀ joined left tokens fault, readChain atEnd fuel joined left tokens = .error fault →
    Blames atEnd tokens fault
  operand : ∀ tokens fault, readOperand atEnd fuel tokens = .error fault →
    Blames atEnd tokens fault

namespace Blaming

private theorem zero (atEnd : Problem → Fault) : Blaming atEnd 0 := by
  refine ⟨?_, ?_, ?_⟩
  · intro tokens fault failed
    rw [readExpr] at failed
    cases failed
    exact .at_end _
  · intro joined left tokens fault failed
    cases tokens <;> simp [readChain] at failed
  · intro tokens fault failed
    cases tokens with
    | nil =>
        simp only [readOperand, Except.error.injEq] at failed
        exact failed ▸ .at_end _
    | cons token tokens =>
        simp only [readOperand, Except.error.injEq] at failed
        exact failed ▸ .at_token List.mem_cons_self

private theorem readExpr_succ (blaming : Blaming atEnd fuel)
    (failed : readExpr atEnd (fuel + 1) tokens = .error fault) : Blames atEnd tokens fault := by
  rw [readExpr] at failed
  rcases bind_eq_error failed with first | ⟨⟨first, rest⟩, read, others⟩
  · exact blaming.operand _ _ first
  · obtain ⟨used, rfl, -⟩ := (sound atEnd fuel).operand _ _ _ read
    exact (blaming.chain _ _ _ _ others).mono (List.subset_append_right _ _)

private theorem readChain_succ (blaming : Blaming atEnd fuel)
    (failed : readChain atEnd (fuel + 1) joined left tokens = .error fault) :
    Blames atEnd tokens fault := by
  cases tokens with
  | nil => simp [readChain] at failed
  | cons token tokens =>
      rw [readChain] at failed
      split at failed
      · cases failed
      split at failed
      · cases failed
        exact .at_token List.mem_cons_self
      rcases bind_eq_error failed with next | ⟨⟨right, rest⟩, read, others⟩
      · exact (blaming.operand _ _ next).mono (List.subset_cons_self _ _)
      · obtain ⟨used, rfl, -⟩ := (sound atEnd fuel).operand _ _ _ read
        exact (blaming.chain _ _ _ _ others).mono
          (List.subset_cons_of_subset _ (List.subset_append_right _ _))

private theorem readOperand_succ (blaming : Blaming atEnd fuel)
    (failed : readOperand atEnd (fuel + 1) tokens = .error fault) :
    Blames atEnd tokens fault := by
  cases tokens with
  | nil =>
      simp only [readOperand, Except.error.injEq] at failed
      exact failed ▸ .at_end _
  | cons token tokens =>
      rw [readOperand] at failed
      split at failed
      · rcases bind_eq_error failed with inner | ⟨⟨inner, rest⟩, read, closed⟩
        · exact (blaming.expr _ _ inner).mono (List.subset_cons_self _ _)
        · obtain ⟨used, rfl, -⟩ := (sound atEnd fuel).expr _ _ _ read
          dsimp only at closed
          split at closed
          · cases closed
            exact .at_token List.mem_cons_self
          next close more =>
            split at closed <;> cases closed
            exact .at_token (by simp)
      · exact (blames_of_readRule failed).mono (List.subset_cons_self _ _)
      · cases failed
        exact .at_token List.mem_cons_self

end Blaming

theorem blaming (atEnd : Problem → Fault) (fuel : Nat) : Blaming atEnd fuel := by
  -- Together, as with `Sound`: a reader that succeeds leaves only tokens that it was given.
  induction fuel with
  | zero => exact .zero atEnd
  | succ fuel ih =>
      exact ⟨fun _ _ => ih.readExpr_succ, fun _ _ _ _ => ih.readChain_succ,
        fun _ _ => ih.readOperand_succ⟩

private theorem dropBytes_append (before after : List Char) :
    endFault.dropBytes (byteLength before) (before ++ after) = after := by
  induction before with
  | nil => cases after <;> rfl
  | cons c before ih =>
      have width := c.utf8Size_pos
      rw [byteLength_cons, List.cons_append, endFault.dropBytes, if_neg (by omega),
        Nat.add_sub_cancel_left, ih]

theorem endFault_pointsInto {query : String} (scanned : Token.Scanned 0 query.toList tokens)
    (problem : Problem) : (endFault query tokens problem).PointsInto query := by
  have ends : (endFault query tokens problem).position = query.utf8ByteSize := by
    rw [← String.ofList_toList (s := query), ← byteLength_eq, String.ofList_toList]
    rfl
  suffices ∃ before, query = before ++ (endFault query tokens problem).fragment by
    obtain ⟨before, parts⟩ := this
    have slice := Slice.of_suffix before (endFault query tokens problem).fragment
    rw [← parts] at slice
    exact .of_end slice ends
  unfold endFault
  split
  · exact ⟨"", by simp⟩
  next token last =>
    obtain ⟨before, after, parts, place⟩ := scanned.standsIn token (List.mem_of_getLast? last)
    refine ⟨String.ofList before, ?_⟩
    rw [place, Nat.zero_add, parts, List.append_assoc, dropBytes_append, ← String.toList_inj]
    simp [parts]

theorem Blames.pointsInto {query : String} (scanned : Token.Scanned 0 query.toList tokens)
    (blames : Blames (endFault query tokens) tokens fault) : fault.PointsInto query := by
  rcases blames with ⟨token, member, problem, rfl⟩ | ⟨problem, rfl⟩
  · exact .of_start (scanned.standsIn token member).slice rfl
  · exact endFault_pointsInto scanned problem

theorem pointsInto_of_ofTokens {query : String} (scanned : Token.Scanned 0 query.toList tokens)
    (failed : ofTokens query tokens = .error fault) : fault.PointsInto query := by
  unfold ofTokens at failed
  split at failed
  · cases failed
    exact .of_start (Slice.of_suffix "" query) rfl
  refine Blames.pointsInto scanned ?_
  rcases bind_eq_error failed with unread | ⟨⟨expr, rest⟩, read, left⟩
  · exact (blaming _ _).expr _ _ unread
  · obtain ⟨used, rfl, -⟩ := (sound _ _).expr _ _ _ read
    dsimp only at left
    split at left
    · cases left
    · cases left
      exact .at_token (by simp)

end Expr

theorem Token.exists_before_fault_of_scan {query : String} {fault : Fault}
    (failed : scan query = .error fault) :
    ∃ before after, query = before ++ fault.fragment ++ after ∧
      fault.position = before.utf8ByteSize ∧ ∃ tokens, scan before = .ok tokens := by
  obtain ⟨before, after, tokens, parts, place, scanned⟩ :=
    exists_before_fault (Nat.le_refl _) failed
  refine ⟨String.ofList before, String.ofList after, ?_, ?_, tokens, ?_⟩
  · simp [← String.toList_inj, parts]
  · rw [place, Nat.zero_add, byteLength_eq]
  · rwa [scan_eq_ok_iff, String.toList_ofList]

theorem Fault.pointsInto_of_scan {query : String} {fault : Fault}
    (failed : Token.scan query = .error fault) : fault.PointsInto query := by
  obtain ⟨before, after, parts, place, -⟩ := Token.exists_before_fault_of_scan failed
  have slice := Slice.of_parts before fault.fragment after
  rw [← parts] at slice
  exact .of_start slice place

theorem Fault.pointsInto_of_parse {query : String} {fault : Fault}
    (failed : Expr.parse query = .error fault) : fault.PointsInto query := by
  rcases Expr.bind_eq_error failed with unscanned | ⟨tokens, scanned, unread⟩
  · exact pointsInto_of_scan unscanned
  · exact Expr.pointsInto_of_ofTokens (Token.scan_eq_ok_iff.mp scanned) unread

/-- Rules are refused where they begin. -/
theorem Fault.isValid_of_compile {query : String} {fault : Fault}
    (failed : compile query = .error fault) : String.Pos.Raw.IsValid query ⟨fault.position⟩ := by
  rcases compile_eq_error_iff.mp failed with ⟨-, unread⟩ | ⟨expr, read, refused⟩
  · exact (pointsInto_of_parse unread).place
  · obtain ⟨before, rule, after, parts, -, problem, -, rfl⟩ :=
      Predicate.ofExpr_eq_error_iff.mp refused
    obtain ⟨first, rest, written, place⟩ := Expr.standsIn_of_parse read rule (by simp [parts])
    refine String.Pos.Raw.isValid_iff_exists_append.mpr
      ⟨String.ofList first, String.ofList (rule.field.toList ++ rest), ?_, ?_⟩
    · simp [← String.toList_inj, written]
    · ext
      change rule.position = (String.ofList first).utf8ByteSize
      rw [place, byteLength_eq]

/-- Tokens tile the query.  They are in ascending order, and each is the part of the query at its
position and not empty; the query is these parts with blanks before them and at the end, and two
words have blanks between them.  With any blanks between them, but not none, the same parts are
scanned into tokens of the same kinds.

A query that is not scanned is scanned up to the fault.  Faults of scanning and of reading are at
characters of the query or at its end, and so are those of compiling; what the first two blame is a
part of the query. -/
theorem tokens_tile (query : String) :
    (∀ tokens, Token.scan query = .ok tokens →
      (tokens.Pairwise fun a b => a.position < b.position) ∧
      (∀ token ∈ tokens, token.text ≠ "" ∧
        Slice query token.position (token.position + token.text.utf8ByteSize) token.text) ∧
      (∃ pieces ending, Token.Layout 0 query.toList tokens pieces ending) ∧
      ∀ pieces ending, pieces.map Prod.snd = tokens → (∀ piece ∈ pieces, Token.Blank piece.1) →
        (∀ piece ∈ pieces.tail, piece.1 ≠ []) → Token.Blank ending →
          ∃ again, Token.scan (String.ofList (Token.spread pieces ++ ending)) = .ok again ∧
            again.map Token.kind = tokens.map Token.kind) ∧
    (∀ fault, Token.scan query = .error fault →
      fault.PointsInto query ∧ ∃ before after, query = before ++ fault.fragment ++ after ∧
        fault.position = before.utf8ByteSize ∧ ∃ tokens, Token.scan before = .ok tokens) ∧
    (∀ fault, Expr.parse query = .error fault → fault.PointsInto query) ∧
    ∀ fault, compile query = .error fault → String.Pos.Raw.IsValid query ⟨fault.position⟩ := by
  refine ⟨fun tokens scan => ?_, fun fault failed =>
    ⟨Fault.pointsInto_of_scan failed, Token.exists_before_fault_of_scan failed⟩,
    fun _ => Fault.pointsInto_of_parse, fun _ => Fault.isValid_of_compile⟩
  have scanned := Token.scan_eq_ok_iff.mp scan
  refine ⟨scanned.ascending, fun token member => ⟨scanned.text_ne_empty token member,
    (scanned.standsIn token member).slice⟩, scanned.exists_layout,
    fun pieces ending same gaps apart blank => ?_⟩
  obtain ⟨again, scannedAgain, kinds⟩ :=
    Token.scans_iff.mp (scanned.respaced same gaps apart blank)
  exact ⟨again, Token.scan_eq_ok_iff.mpr (String.toList_ofList ▸ scannedAgain), kinds⟩

/-- The tokens of `é = "ü"`, with other blanks before them. -/
def accented : List (List Char × Token) :=
  [([], ⟨.word "é", 0, "é"⟩), (['\t'], ⟨.symbol .equal, 3, "="⟩),
    ([' ', '\u3000'], ⟨.string "ü", 5, "\"ü\""⟩)]

theorem accented_tokens_tile :
    Token.scan "é = \"ü\"" = .ok (accented.map Prod.snd) ∧ Slice "é = \"ü\"" 5 9 "\"ü\"" ∧
      (∃ again, Token.scan "é\t= \u3000\"ü\"\n" = .ok again ∧
        again.map Token.kind = [.word "é", .symbol .equal, .string "ü"]) ∧
      Token.scan "é = \"ü" = .error ⟨"\"ü", 5, .unterminatedString⟩ ∧
      Fault.PointsInto "é = \"ü" ⟨"\"ü", 5, .unterminatedString⟩ ∧
      Expr.parse "é =" = .error ⟨"=", 4, .missingValue⟩ ∧
      Fault.PointsInto "é =" ⟨"=", 4, .missingValue⟩ ∧
      compile "é = 1 && ü < null" = .error ⟨"ü < null", 10, .orderAgainstNull .less⟩ ∧
      String.Pos.Raw.IsValid "é = 1 && ü < null" ⟨10⟩ := by
  have scanned : Token.scan "é = \"ü\"" = .ok (accented.map Prod.snd) := by decide +kernel
  have unterminated : Token.scan "é = \"ü" = .error ⟨"\"ü", 5, .unterminatedString⟩ := by
    decide +kernel
  have ended : Expr.parse "é =" = .error ⟨"=", 4, .missingValue⟩ := by decide +kernel
  have refused : compile "é = 1 && ü < null" = .error ⟨"ü < null", 10, .orderAgainstNull .less⟩ :=
    faultOf_eq_some_iff.mp (by decide +kernel)
  obtain ⟨-, slices, -, respaced⟩ := (tokens_tile "é = \"ü\"").1 _ scanned
  have other : String.ofList (Token.spread accented ++ ['\n']) = "é\t= \u3000\"ü\"\n" := by
    decide +kernel
  have again := respaced accented ['\n'] rfl (by decide) (by decide) (by decide)
  rw [other] at again
  exact ⟨scanned, (slices ⟨.string "ü", 5, "\"ü\""⟩ (by simp [accented])).2, again, unterminated,
    ((tokens_tile _).2.1 _ unterminated).1, ended, (tokens_tile _).2.2.1 _ ended, refused,
    (tokens_tile _).2.2.2 _ refused⟩

end DocStore.Query

import DocStore.Regex.Match
import Mathlib.Logic.Function.Iterate
/-!
The matcher finds exactly the parts of a text that belong to an expression.

`Node.Spans` says what belongs to an expression: the part from one position to
another.  A step on sets of positions realizes a relation when it leads from a
set to all positions related to a member, and the image of an expression
realizes its spans.  Both of the matcher's loops may stop early, and an
unbounded repetition stops after as many rounds as the text has positions: a
round that does not advance can be left out, and no more than that many advance.
-/

namespace DocStore.Regex

open Unicode (CodeSet)

/-- A relation between positions, a number of times over. -/
def Rounds (relation : Nat → Nat → Prop) : Nat → Nat → Nat → Prop
  | 0, i, j => i = j
  | count + 1, i, k => ∃ j, relation i j ∧ Rounds relation count j k

/-- The neighbours of a position. -/
def gapAt (text : List Char) (position : Nat) : Option Char × Option Char :=
  (if position = 0 then none else text[position - 1]?, text[position]?)

/-- The part of a text between two positions belongs to an expression.  A greatest count below the
least one counts for as much as that. -/
def Node.Spans (text : List Char) : Node → Nat → Nat → Prop
  | .empty, i, j => i = j
  | .chars set, i, j => (∃ c ∈ text[i]?, set.contains c.toNat = true) ∧ j = i + 1
  | .look condition, i, j =>
      i ≤ text.length ∧ condition.holds (gapAt text i).1 (gapAt text i).2 = true ∧ j = i
  | .seq first second, i, k => ∃ j, first.Spans text i j ∧ second.Spans text j k
  | .alt left right, i, j => left.Spans text i j ∨ right.Spans text i j
  | .rep least most inner, i, j =>
      ∃ count, least ≤ count ∧ (∀ bound ∈ most, count ≤ max least bound) ∧
        Rounds (inner.Spans text) count i j

section Rounds

variable {relation : Nat → Nat → Prop}

theorem rounds_add {first second i k : Nat} :
    Rounds relation (first + second) i k ↔
      ∃ j, Rounds relation first i j ∧ Rounds relation second j k := by
  induction first generalizing i with
  | zero => simp [Rounds]
  | succ first ih =>
      simp only [Nat.succ_add, Rounds, ih]
      constructor
      · rintro ⟨j, step, m, left, right⟩
        exact ⟨m, ⟨j, step, left⟩, right⟩
      · rintro ⟨m, ⟨j, step, left⟩, right⟩
        exact ⟨j, step, m, left, right⟩

/-- Rounds that may also stand still are some of those rounds. -/
theorem rounds_or_eq {count i j : Nat} :
    Rounds (fun i j => i = j ∨ relation i j) count i j ↔
      ∃ taken ≤ count, Rounds relation taken i j := by
  induction count generalizing i with
  | zero => simp [Rounds]
  | succ count ih =>
      simp only [Rounds, ih]
      constructor
      · rintro ⟨k, rfl | step, taken, bound, rest⟩
        · exact ⟨taken, by omega, rest⟩
        · exact ⟨taken + 1, by omega, k, step, rest⟩
      · rintro ⟨taken, bound, rounds⟩
        cases taken with
        | zero => exact ⟨i, .inl rfl, 0, by omega, rounds⟩
        | succ taken =>
            obtain ⟨k, step, rest⟩ := rounds
            exact ⟨k, .inr step, taken, by omega, rest⟩

/-- Rounds of steps that never go back, and never past an end unless they begin there, do not
either. -/
theorem rounds_within {length count i j : Nat}
    (within : ∀ i j, relation i j → i ≤ j ∧ j ≤ max i length)
    (rounds : Rounds relation count i j) : i ≤ j ∧ j ≤ max i length := by
  induction count generalizing i with
  | zero => cases rounds; omega
  | succ count ih =>
      obtain ⟨k, step, rest⟩ := rounds
      have := within i k step
      have := ih rest
      omega

/-- Of rounds that never go back, those that advance are enough. -/
theorem rounds_le_distance {count i j : Nat} (forward : ∀ i j, relation i j → i ≤ j)
    (rounds : Rounds relation count i j) :
    i ≤ j ∧ ∃ taken ≤ j - i, Rounds relation taken i j := by
  induction count generalizing i with
  | zero => exact ⟨Nat.le_of_eq rounds, 0, Nat.zero_le _, rounds⟩
  | succ count ih =>
      obtain ⟨k, step, rest⟩ := rounds
      have advance := forward i k step
      obtain ⟨later, taken, bound, fewer⟩ := ih rest
      rcases Nat.eq_or_lt_of_le advance with rfl | further
      · exact ⟨later, taken, bound, fewer⟩
      · exact ⟨by omega, taken + 1, by omega, k, step, fewer⟩

end Rounds

theorem Node.spans_within {text : List Char} {node : Node} {i j : Nat}
    (spans : node.Spans text i j) : i ≤ j ∧ j ≤ max i text.length := by
  induction node generalizing i j with
  | empty => cases spans; omega
  | chars set =>
      obtain ⟨⟨c, found, -⟩, rfl⟩ := spans
      have := (List.getElem?_eq_some_iff.mp found).1
      omega
  | look condition =>
      obtain ⟨-, -, rfl⟩ := spans
      omega
  | seq first second firstWithin secondWithin =>
      obtain ⟨k, left, right⟩ := spans
      have := firstWithin left
      have := secondWithin right
      omega
  | alt left right leftWithin rightWithin =>
      rcases spans with spans | spans
      · exact leftWithin spans
      · exact rightWithin spans
  | rep least most inner within =>
      obtain ⟨count, -, -, rounds⟩ := spans
      exact rounds_within (fun _ _ => within) rounds

theorem testBit_positionsOf (answers : List Bool) (i : Nat) :
    (positionsOf answers).testBit i = answers[i]?.getD false := by
  induction answers generalizing i with
  | nil => simp [positionsOf]
  | cons answer rest ih =>
      have shape : positionsOf (answer :: rest) = 2 * positionsOf rest + answer.toNat := rfl
      have := Bool.toNat_lt answer
      cases i with
      | zero => rw [shape, Nat.testBit_zero]; cases answer <;> simp
      | succ i =>
          rw [shape, Nat.testBit_succ, List.getElem?_cons_succ, ← ih]
          congr 1
          omega

theorem getElem?_gapsAfter (before : Option Char) (text : List Char) (i : Nat) :
    (gapsAfter before text)[i]? =
      if i ≤ text.length then some (if i = 0 then before else text[i - 1]?, text[i]?)
      else none := by
  induction text generalizing before i with
  | nil => cases i <;> simp [gapsAfter]
  | cons c rest ih =>
      rcases i with - | - | i <;> simp [gapsAfter, ih]

/-- A step leads from a set of positions to all that are related to one of them. -/
def Realizes (step : Positions → Positions) (relation : Nat → Nat → Prop) : Prop :=
  ∀ start j, (step start).testBit j = true ↔ ∃ i, start.testBit i = true ∧ relation i j

namespace Realizes

variable {step second : Positions → Positions} {relation other : Nat → Nat → Prop}

theorem congr (realizes : Realizes step relation) (same : ∀ i j, relation i j ↔ other i j) :
    Realizes step other := fun start j => by simp only [realizes start j, same]

theorem comp (first : Realizes step relation) (next : Realizes second other) :
    Realizes (fun start => second (step start)) fun i k => ∃ j, relation i j ∧ other j k := by
  intro start k
  simp only [next _ k, first start]
  constructor
  · rintro ⟨j, ⟨i, member, left⟩, right⟩
    exact ⟨i, member, j, left, right⟩
  · rintro ⟨i, member, j, left, right⟩
    exact ⟨j, ⟨i, member, left⟩, right⟩

theorem union (first : Realizes step relation) (next : Realizes second other) :
    Realizes (fun start => step start ||| second start) fun i j => relation i j ∨ other i j := by
  intro start j
  rw [Nat.testBit_or, Bool.or_eq_true, first, next]
  simp only [and_or_left, exists_or]

protected theorem id : Realizes (fun start => start) Eq := by simp [Realizes]

/-- Keeping the positions that a list of answers approves. -/
theorem guard (answers : List Bool) :
    Realizes (fun start => start &&& positionsOf answers)
      fun i j => answers[i]?.getD false = true ∧ j = i := by
  intro start j
  rw [Nat.testBit_and, Bool.and_eq_true, testBit_positionsOf]
  simp

theorem shift : Realizes (fun start => start <<< 1) fun i j => j = i + 1 := by
  intro start j
  rw [Nat.testBit_shiftLeft, Bool.and_eq_true, decide_eq_true_iff]
  constructor
  · rintro ⟨positive, member⟩
    exact ⟨j - 1, member, by omega⟩
  · rintro ⟨i, member, rfl⟩
    exact ⟨by omega, member⟩

theorem iterate (realizes : Realizes step relation) (count : Nat) :
    Realizes (step^[count]) (Rounds relation count) := by
  induction count with
  | zero => exact Realizes.id
  | succ count ih => exact realizes.comp ih

end Realizes

/-- Stopping at a set that a step leaves as it is changes nothing. -/
theorem repeatExactly_eq (step : Positions → Positions) (count : Nat) (start : Positions) :
    repeatExactly step count start = step^[count] start := by
  induction count generalizing start with
  | zero => rfl
  | succ count ih =>
      rw [repeatExactly]
      by_cases fixed : step start = start
      · rw [if_pos fixed, Function.iterate_fixed fixed]
      · rw [if_neg fixed, ih, Function.iterate_succ_apply]

theorem repeatUpTo_eq (step : Positions → Positions) (count : Nat) (start : Positions) :
    repeatUpTo step count start =
      repeatExactly (fun start => start ||| step start) count start := by
  induction count generalizing start with
  | zero => rfl
  | succ count ih => simp only [repeatUpTo, repeatExactly, ih]

theorem Realizes.upTo {step : Positions → Positions} {relation : Nat → Nat → Prop}
    (realizes : Realizes step relation) (count : Nat) :
    Realizes (repeatUpTo step count) fun i j => ∃ taken ≤ count, Rounds relation taken i j := by
  intro start j
  rw [repeatUpTo_eq, repeatExactly_eq, (Realizes.id.union realizes).iterate count]
  simp only [rounds_or_eq]

/-- The rounds that a repetition must make, and then those that it may make. -/
theorem Realizes.repeated {step : Positions → Positions} {relation : Nat → Nat → Prop}
    (realizes : Realizes step relation) (least rounds : Nat) :
    Realizes (fun start => repeatUpTo step rounds (repeatExactly step least start))
      fun i k => ∃ taken ≤ rounds, Rounds relation (least + taken) i k := by
  simp only [repeatExactly_eq]
  refine ((realizes.iterate least).comp (realizes.upTo rounds)).congr fun i k => ?_
  simp only [rounds_add]
  constructor
  · rintro ⟨j, first, taken, bound, rest⟩
    exact ⟨taken, bound, j, first, rest⟩
  · rintro ⟨taken, bound, j, first, rest⟩
    exact ⟨j, first, taken, bound, rest⟩

namespace Node

variable {text : List Char}

private theorem answers_chars (set : CodeSet) (i : Nat) :
    (text.map fun c => set.contains c.toNat)[i]?.getD false = true ↔
      ∃ c ∈ text[i]?, set.contains c.toNat = true := by
  rw [List.getElem?_map]
  cases text[i]? <;> simp

private theorem answers_look (condition : Look) (i : Nat) :
    ((gapsAfter none text).map fun (before, after) => condition.holds before after)[i]?.getD
        false = true ↔
      i ≤ text.length ∧ condition.holds (gapAt text i).1 (gapAt text i).2 = true := by
  rw [List.getElem?_map, getElem?_gapsAfter]
  by_cases inside : i ≤ text.length <;> simp [inside, gapAt]

/-- With one round for every position, an unbounded repetition reaches all it can. -/
private theorem exists_few_rounds {inner : Node} {least i k : Nat} :
    (∃ taken ≤ text.length + 1, Rounds (inner.Spans text) (least + taken) i k) ↔
      ∃ count, least ≤ count ∧ Rounds (inner.Spans text) count i k := by
  constructor
  · rintro ⟨taken, -, rounds⟩
    exact ⟨least + taken, Nat.le_add_right _ _, rounds⟩
  · rintro ⟨count, enough, rounds⟩
    obtain ⟨extra, rfl⟩ := Nat.exists_eq_add_of_le enough
    obtain ⟨j, first, rest⟩ := rounds_add.mp rounds
    have within := rounds_within (fun _ _ => spans_within) rest
    obtain ⟨-, taken, bound, fewer⟩ :=
      rounds_le_distance (fun _ _ spans => (spans_within spans).1) rest
    exact ⟨taken, by omega, rounds_add.mpr ⟨j, first, fewer⟩⟩

theorem image_realizes_spans (text : List Char) (node : Node) :
    Realizes ((node.readIn text).image text.length) (node.Spans text) := by
  induction node with
  | empty => exact Realizes.id
  | chars set =>
      refine ((Realizes.guard _).comp .shift).congr fun i k => ?_
      simp only [answers_chars, Spans, and_assoc, exists_eq_left, exists_and_left]
  | look condition =>
      refine (Realizes.guard _).congr fun i j => ?_
      rw [answers_look, and_assoc, Spans]
  | seq first second firstRealizes secondRealizes =>
      exact firstRealizes.comp secondRealizes
  | alt left right leftRealizes rightRealizes => exact leftRealizes.union rightRealizes
  | rep least most inner realizes =>
      refine (realizes.repeated least _).congr fun i k => ?_
      cases most with
      | none => rw [exists_few_rounds]; simp [Spans]
      | some bound =>
          simp only [Spans, Option.mem_some_iff, forall_eq']
          constructor
          · rintro ⟨taken, few, rounds⟩
            exact ⟨least + taken, by omega, by omega, rounds⟩
          · rintro ⟨count, enough, few, rounds⟩
            exact ⟨count - least, by omega, by rwa [Nat.add_sub_cancel' enough]⟩

/-- Whether some part of the text belongs to the expression. -/
theorem isMatch_iff {node : Node} {text : String} :
    node.isMatch text = true ↔
      ∃ i j, i ≤ text.toList.length ∧ node.Spans text.toList i j := by
  have start (i : Nat) : (2 ^ (text.toList.length + 1) - 1).testBit i = true ↔
      i ≤ text.toList.length := by
    rw [Nat.testBit_two_pow_sub_one, decide_eq_true_iff]
    omega
  simp only [isMatch, bne_iff_ne]
  constructor
  · intro matched
    obtain ⟨j, member⟩ := Nat.exists_testBit_of_ne_zero matched
    obtain ⟨i, began, spans⟩ := (image_realizes_spans text.toList node _ j).mp member
    exact ⟨i, j, (start i).mp began, spans⟩
  · rintro ⟨i, j, inside, spans⟩ unmatched
    have member :=
      (image_realizes_spans text.toList node _ j).mpr ⟨i, (start i).mpr inside, spans⟩
    rw [unmatched, Nat.zero_testBit] at member
    cases member

end Node

end DocStore.Regex

import Mathlib.Data.List.Basic
import WireSchema.Proofs.Files.Search
import WireSchema.Proofs.Glob.Documented

-- What one segment of a pattern says of a name. The expression that a segment is turned into is found in a name
-- exactly if the name is made up of what the wildcards and the characters of the segment stand for, in their order.
namespace WireSchema.Glob
open Text

-- A name against a segment, where a bracket stands for the characters that `holds` says.
inductive Wildcard (holds : List Char → Char → Prop) : List Char → List Char → Prop where
  | done : Wildcard holds [] []
  | run {rest name : List Char} (taken : List Char) (unbroken : '\n' ∉ taken) (later : Wildcard holds rest name) :
    Wildcard holds ('*' :: rest) (taken ++ name)
  | one {rest name : List Char} {c : Char} (unbroken : c ≠ '\n') (later : Wildcard holds rest name) :
    Wildcard holds ('?' :: rest) (c :: name)
  | bracket {rest found after name : List Char} {c : Char}
    (closed : Segment.bracketText? true false (Segment.negation rest).2 = some (found, after))
    (held : holds ((Segment.negation rest).1 ++ found) c) (later : Wildcard holds after name) :
    Wildcard holds ('[' :: rest) (c :: name)
  | same {rest name : List Char} {c : Char} (plain : c ≠ '*' ∧ c ≠ '?' ∧ c ≠ '[') (later : Wildcard holds rest name) :
    Wildcard holds (c :: rest) (c :: name)

namespace Segment

def Part.Covers (holds : List Char → Char → Prop) : Part → List Char → Prop
  | .anyRun, taken => '\n' ∉ taken
  | .anyOne, taken => ∃ c, taken = [c] ∧ c ≠ '\n'
  | .literal c, taken => taken = [c]
  | .bracket text, taken => ∃ c, taken = [c] ∧ holds text c

def Covered (holds : List Char → Char → Prop) : List Part → List Char → Prop
  | [], name => name = []
  | part :: rest, name => ∃ taken later, name = taken ++ later ∧ part.Covers holds taken ∧ Covered holds rest later

theorem map_ok {ε α β : Type} {f : α → β} {x : Except ε α} {b : β} (made : x.map f = .ok b) :
    ∃ a, x = .ok a ∧ f a = b := by
  cases x with
  | error error => cases made
  | ok a => exact ⟨a, rfl, Except.ok.inj made⟩

theorem parts_wildcard {holds : List Char → Char → Prop} {whole : String} {text name : List Char} {parts : List Part}
    (read : parts? whole text = .ok parts) : Wildcard holds text name ↔ Covered holds parts name := by
  fun_induction parts? whole text generalizing name parts with
  | case1 =>
    cases read
    constructor
    · rintro ⟨⟩
      rfl
    · rintro rfl
      exact .done
  | case2 => cases read
  | case3 rest _ ih =>
    obtain ⟨others, ofRest, rfl⟩ := map_ok read
    constructor
    · rintro (_ | ⟨taken, unbroken, later⟩ | _ | _ | ⟨plain, _⟩)
      · exact ⟨taken, _, rfl, unbroken, (ih ofRest).mp later⟩
      · exact absurd rfl plain.1
    · rintro ⟨taken, later, rfl, unbroken, covered⟩
      exact .run taken unbroken ((ih ofRest).mpr covered)
  | case4 rest ih =>
    obtain ⟨others, ofRest, rfl⟩ := map_ok read
    constructor
    · rintro (_ | _ | ⟨unbroken, later⟩ | _ | ⟨plain, _⟩)
      · exact ⟨[_], _, rfl, ⟨_, rfl, unbroken⟩, (ih ofRest).mp later⟩
      · exact absurd rfl plain.2.1
    · rintro ⟨_, later, rfl, ⟨c, rfl, unbroken⟩, covered⟩
      exact .one unbroken ((ih ofRest).mpr covered)
  | case5 rest found after closed ih =>
    obtain ⟨others, ofRest, rfl⟩ := map_ok read
    constructor
    · rintro (_ | _ | _ | ⟨again, held, later⟩ | ⟨plain, _⟩)
      · obtain ⟨rfl, rfl⟩ : _ = _ ∧ _ = _ := by simpa using again.symm.trans closed
        exact ⟨[_], _, rfl, ⟨_, rfl, held⟩, (ih ofRest).mp later⟩
      · exact absurd rfl plain.2.2
    · rintro ⟨_, later, rfl, ⟨c, rfl, held⟩, covered⟩
      exact .bracket closed held ((ih ofRest).mpr covered)
  | case6 => cases read
  | case7 c rest noRun noOne noBracket ih =>
    obtain ⟨others, ofRest, rfl⟩ := map_ok read
    constructor
    · rintro (_ | _ | _ | _ | ⟨_, later⟩)
      · exact absurd rfl noRun
      · exact absurd rfl noOne
      · exact absurd rfl noBracket
      · exact ⟨[c], _, rfl, rfl, (ih ofRest).mp later⟩
    · rintro ⟨_, later, rfl, rfl, covered⟩
      exact .same ⟨noRun, noOne, noBracket⟩ ((ih ofRest).mpr covered)

theorem drop_some {text : List Char} {i : Nat} {c : Char} (here : text[i]? = some c) : text.drop i = c :: text.drop (i + 1) := by
  obtain ⟨inside, rfl⟩ := List.getElem?_eq_some_iff.mp here
  exact List.drop_eq_getElem_cons inside

theorem drop_here {text : List Char} {i : Nat} {c : Char} {behind : List Char} (front : text.drop i = c :: behind) :
    text[i]? = some c ∧ text.drop (i + 1) = behind := by
  refine ⟨by rw [← List.head?_drop, front]; rfl, ?_⟩
  rw [← List.drop_drop, front]
  rfl

theorem next_iff (text : List Char) (i j : Nat) (holds : Char → Prop) :
    (∃ c, text[i]? = some c ∧ holds c) ∧ j = i + 1 ↔
      ∃ taken, (∃ c, taken = [c] ∧ holds c) ∧ text.drop i = taken ++ text.drop j ∧ j = i + taken.length := by
  constructor
  · rintro ⟨⟨c, here, held⟩, rfl⟩
    exact ⟨[c], ⟨c, rfl, held⟩, drop_some here, rfl⟩
  · rintro ⟨_, ⟨c, rfl, held⟩, front, rfl⟩
    exact ⟨⟨c, (drop_here front).1, held⟩, rfl⟩

section Spans
variable [Regex] {element : List Char → Prop} {spans : List Char → List Char → Nat → Nat → Prop}
  {text : List Char} {i j : Nat}

def Bracketed (spans : List Char → List Char → Nat → Nat → Prop) (bracket : List Char) (c : Char) : Prop :=
  spans ('[' :: bracket) [c] 0 1

def Whole (element : List Char → Prop) (parts : List Part) : Prop :=
  ∀ bracket, Part.bracket bracket ∈ parts → element ('[' :: bracket)

theorem run_iff (documented : Regex.Documented element spans) : spans ['.', '*'] text i j ↔
    ∃ taken, '\n' ∉ taken ∧ text.drop i = taken ++ text.drop j ∧ j = i + taken.length := by
  rw [documented.run.2]
  constructor
  · intro way
    induction way using Relation.ReflTransGen.head_induction_on with
    | refl => exact ⟨[], by simp, rfl, rfl⟩
    | head one _ ih =>
      obtain ⟨⟨c, here, unbroken⟩, rfl⟩ := (documented.any.2 _ _ _).mp one
      obtain ⟨taken, others, later, rfl⟩ := ih
      refine ⟨c :: taken, by simp [others, Ne.symm unbroken], ?_, by simp; omega⟩
      rw [drop_some here, later, List.cons_append]
  · rintro ⟨taken, unbroken, front, rfl⟩
    induction taken generalizing i with
    | nil => exact .refl
    | cons c taken ih =>
      obtain ⟨here, behind⟩ := drop_here front
      simp only [List.mem_cons, not_or] at unbroken
      have place : i + (c :: taken).length = i + 1 + taken.length := by simp; omega
      rw [place] at behind ⊢
      exact .head ((documented.any.2 _ _ _).mpr ⟨⟨c, here, Ne.symm unbroken.1⟩, rfl⟩) (ih unbroken.2 behind)

theorem part_element (documented : Regex.Documented element spans) {part : Part} (whole : Whole element [part]) :
    element part.text := by
  cases part with
  | anyRun => exact documented.run.1
  | anyOne => exact documented.any.1
  | literal c => exact (documented.escaped c).1
  | bracket inside => exact whole inside (List.mem_singleton_self _)

theorem part_spans (documented : Regex.Documented element spans) {part : Part} (whole : Whole element [part]) :
    spans part.text text i j ↔
      ∃ taken, part.Covers (Bracketed spans) taken ∧ text.drop i = taken ++ text.drop j ∧ j = i + taken.length := by
  cases part with
  | anyRun => exact run_iff documented
  | anyOne => exact (documented.any.2 text i j).trans (next_iff text i j (· ≠ '\n'))
  | literal own =>
    have same := next_iff text i j (· = own)
    simp only [exists_eq_right] at same
    exact ((documented.escaped own).2 text i j).trans same
  | bracket inside =>
    have own := documented.bracket (whole inside (List.mem_singleton_self _)) text i j
    exact own.trans (next_iff text i j (Bracketed spans inside))

theorem row_covered (documented : Regex.Documented element spans) {parts : List Part} (whole : Whole element parts)
    (start : i ≤ text.length) :
    Row spans text (parts.map Part.text) i text.length ↔ Covered (Bracketed spans) parts (text.drop i) := by
  induction parts generalizing i with
  | nil =>
    rw [List.map_nil, Row.nil_iff, Covered, List.drop_eq_nil_iff]
    omega
  | cons part rest ih =>
    have first : Whole element [part] := fun bracket member => whole bracket (by simp [List.mem_singleton.mp member])
    have others : Whole element rest := fun bracket member => whole bracket (List.mem_cons_of_mem _ member)
    rw [List.map_cons, Row.cons_iff]
    constructor
    · rintro ⟨j, here, row⟩
      obtain ⟨taken, covers, front, rfl⟩ := (part_spans documented first).mp here
      have length := congrArg List.length front
      simp only [List.length_drop, List.length_append] at length
      exact ⟨taken, _, front, covers, (ih others (by omega)).mp row⟩
    · rintro ⟨taken, more, front, covers, covered⟩
      have length := congrArg List.length front
      simp only [List.length_drop, List.length_append] at length
      have behind : text.drop (i + taken.length) = more := by
        rw [← List.drop_drop, front, List.drop_left]
      refine ⟨i + taken.length, (part_spans documented first).mpr ⟨taken, covers, by rw [front, behind], rfl⟩, ?_⟩
      exact (ih others (by omega)).mpr (behind ▸ covered)

theorem expression_covered (documented : Regex.Documented element spans) {parts : List Part}
    (whole : Whole element parts) {test : List Char → Bool} (accepted : Regex.compile? (expressionText parts) = some test)
    (name : List Char) : test name = true ↔ Covered (Bracketed spans) parts name := by
  have elements : ∀ e ∈ ['^'] :: (parts.map Part.text ++ [['$']]), element e := by
    simp only [List.forall_mem_cons, List.forall_mem_append, List.forall_mem_map]
    refine ⟨documented.start.1, fun part among => part_element documented ?_, documented.finish.1, by simp⟩
    exact fun bracket member => whole bracket (List.mem_singleton.mp member ▸ among)
  have text : expressionText parts = (['^'] :: (parts.map Part.text ++ [['$']])).flatten := by
    simp [expressionText, List.flatMap_def]
  rw [documented.row elements (text ▸ accepted)]
  have row := row_covered documented whole (Nat.zero_le name.length)
  rw [List.drop_zero] at row
  rw [← row]
  simp only [Row.cons_iff, Row.append_iff, Row.nil_iff, documented.start.2, documented.finish.2]
  constructor
  · rintro ⟨_, _, _, _, ⟨rfl, rfl⟩, _, inner, _, ⟨rfl, rfl⟩, _⟩
    exact inner
  · exact fun inner => ⟨0, name.length, Nat.zero_le _, 0, ⟨rfl, rfl⟩, name.length, inner, name.length, ⟨rfl, rfl⟩, rfl⟩

end Spans

section Names
variable [Regex] (element : List Char → Prop) (spans : List Char → List Char → Nat → Nat → Prop)

-- A segment without wildcards is the name itself. In one with wildcards every bracket stands for one character, as long
-- as each of them ends where the segment closes it; else what is left over is read as the text of an expression.
inductive Names (segment name : String) : Prop where
  | same (plain : isMarked segment = false) (equal : name = segment)
  | wildcard {parts : List Part} (marked : isMarked segment = true)
    (read : parts? segment segment.toList = .ok parts) (whole : Whole element parts)
    (made : Wildcard (Bracketed spans) segment.toList name.toList)
  | leftover {parts : List Part} {test : List Char → Bool} (marked : isMarked segment = true)
    (read : parts? segment segment.toList = .ok parts) (broken : ¬ Whole element parts)
    (accepted : Regex.compile? (expressionText parts) = some test) (found : test name.toList = true)

variable {element spans}

theorem expression_names (documented : Regex.Documented element spans) {text : String} {parts : List Part}
    {test : List Char → Bool} (marked : isMarked text = true) (read : parts? text text.toList = .ok parts)
    (accepted : Regex.compile? (expressionText parts) = some test) (name : String) :
    test name.toList = true ↔ Names element spans text name := by
  by_cases whole : Whole element parts
  · rw [expression_covered documented whole accepted, ← parts_wildcard read]
    constructor
    · exact fun fits => .wildcard marked read whole fits
    · rintro (⟨plain, _⟩ | ⟨_, _, _, fits⟩ | ⟨_, again, broken, _⟩)
      · simp [marked] at plain
      · exact fits
      · cases read.symm.trans again
        exact absurd whole broken
  · constructor
    · exact fun found => .leftover marked read whole accepted found
    · rintro (⟨plain, _⟩ | ⟨_, again, isWhole, _⟩ | ⟨_, again, _, other, found⟩)
      · simp [marked] at plain
      · cases read.symm.trans again
        exact absurd isWhole whole
      · cases read.symm.trans again
        cases accepted.symm.trans other
        exact found

theorem names_stars (name : String) : ¬ Names element spans "**" name := by
  have refused : ∀ parts, parts? "**" "**".toList ≠ .ok parts := fun parts => by simp [parts?]
  rintro (⟨plain, _⟩ | ⟨_, again, _⟩ | ⟨_, again, _⟩)
  · simp [isMarked] at plain
  · exact refused _ again
  · exact refused _ again

theorem admits_names (documented : Regex.Documented element spans) {text : String} {segment : Segment}
    (read : ofText? text = .ok segment) (name : String) :
    segment.admits name = true ↔ Names element spans text name := by
  rcases ofText?_parts read with ⟨rfl, rfl⟩ | ⟨plain, rfl⟩ | ⟨marked, parts, test, ofParts, accepted, rfl⟩
  · simp [admits, names_stars]
  · simp only [admits, decide_eq_true_eq]
    constructor
    · exact fun equal => .same plain equal
    · rintro (⟨_, equal⟩ | ⟨marked, _⟩ | ⟨marked, _⟩)
      · exact equal
      · simp [marked] at plain
      · simp [marked] at plain
  · exact expression_names documented marked ofParts accepted name

end Names
end Segment
end WireSchema.Glob

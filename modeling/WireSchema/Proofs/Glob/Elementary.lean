import Mathlib.Data.List.Forall2
import WireSchema.Proofs.Glob.Documented

-- A small library of expressions that keeps to what is documented. It knows characters, points, runs of points, classes
-- of characters and ranges, the marks of the start and the end, and alternatives; everything else is refused.
namespace WireSchema.Elementary

inductive Atom where
  | start | finish | run
  | choice (test : Char → Bool)

def operators : List Char :=
  ['\\', '.', '+', '*', '?', '(', ')', '|', '[', ']', '\x7b', '\x7d', '^', '$', '#', '&', '-', '~']

def escape (c : Char) : List Char := if c ∈ operators then ['\\', c] else [c]

def ranges? : List Char → Option (List (Char × Char) × List Char)
  | [] => none
  | ']' :: rest => some ([], rest)
  | '\\' :: c :: rest =>
    if c ∈ operators then (ranges? rest).map fun found => ((c, c) :: found.1, found.2) else none
  | c :: '-' :: last :: rest =>
    if c ∈ operators ∨ last = ']' ∨ last = '\\' ∨ last < c then none
    else (ranges? rest).map fun found => ((c, last) :: found.1, found.2)
  | c :: rest =>
    if Regex.classCharacter c = [c] then (ranges? rest).map fun found => ((c, c) :: found.1, found.2) else none

def inRanges (ranges : List (Char × Char)) (c : Char) : Bool := ranges.any fun r => r.1 ≤ c && c ≤ r.2

def atom? : List Char → Option (Atom × List Char)
  | [] => none
  | c :: rest =>
    if c = '^' then some (.start, rest)
    else if c = '$' then some (.finish, rest)
    else if c = '.' then if rest.head? = some '*' then some (.run, rest.tail) else some (.choice (· ≠ '\n'), rest)
    else if c = '[' then (ranges? rest).map fun found => (.choice (inRanges found.1), found.2)
    else if c = '\\' then rest.head?.bind fun c => if c ∈ operators then some (.choice (· = c), rest.tail) else none
    else if c ∈ operators ∧ c ≠ ']' then none
    else some (.choice (· = c), rest)

theorem map_some {α β γ : Type} {x : Option (α × γ)} {f : α → β} {b : β} {rest : γ}
    (made : x.map (fun found => (f found.1, found.2)) = some (b, rest)) : ∃ a, x = some (a, rest) ∧ f a = b := by
  obtain ⟨⟨a, other⟩, isSome, same⟩ := Option.map_eq_some_iff.mp made
  cases same
  exact ⟨a, isSome, rfl⟩

theorem ranges?_append {text after : List Char} {found : List (Char × Char)} (read : ranges? text = some (found, after))
    (rest : List Char) : ranges? (text ++ rest) = some (found, after ++ rest) := by
  fun_induction ranges? text generalizing found after with
  | case1 => cases read
  | case2 => cases read; rfl
  | case3 c behind operator ih =>
    obtain ⟨found, inner, rfl⟩ := map_some read
    simp [ranges?, operator, ih inner]
  | case4 => cases read
  | case5 => cases read
  | case6 c last behind noClose noEscape proper ih =>
    obtain ⟨found, inner, rfl⟩ := map_some read
    rw [List.cons_append, List.cons_append, List.cons_append, ranges?.eq_4 _ _ _ noClose noEscape, if_neg proper, ih inner]
    rfl
  | case7 c behind noClose noEscape noRange plain ih =>
    obtain ⟨found, inner, rfl⟩ := map_some read
    have longer : behind ≠ [] ∧ behind ≠ ['-'] := by
      constructor <;> rintro rfl <;> cases inner
    have stillNoRange : ∀ last more, behind ++ rest = '-' :: last :: more → False := by
      intro last more same
      match behind, longer, noRange with
      | [d], longer, _ => exact longer.2 (by rw [(List.cons.inj same).1])
      | d :: e :: others, _, noRange => exact noRange e others (by rw [(List.cons.inj same).1])
    have noBackslash : c ≠ '\\' := by
      rintro rfl
      exact absurd plain (by decide)
    rw [List.cons_append, ranges?.eq_5 _ _ noClose (fun _ _ same _ => noBackslash same) stillNoRange, if_pos plain, ih inner]
    rfl
  | case8 => cases read

theorem ranges?_length {text after : List Char} {found : List (Char × Char)} (read : ranges? text = some (found, after)) :
    after.length < text.length := by
  fun_induction ranges? text generalizing found after with
  | case1 => cases read
  | case2 => cases read; simp
  | case3 c behind operator ih =>
    obtain ⟨found, inner, rfl⟩ := map_some read
    have := ih inner
    simp only [List.length_cons]
    omega
  | case4 => cases read
  | case5 => cases read
  | case6 c last behind noClose noEscape proper ih =>
    obtain ⟨found, inner, rfl⟩ := map_some read
    have := ih inner
    simp only [List.length_cons]
    omega
  | case7 c behind noClose noEscape noRange plain ih =>
    obtain ⟨found, inner, rfl⟩ := map_some read
    have := ih inner
    simp only [List.length_cons]
    omega
  | case8 => cases read

theorem atom?_length {text rest : List Char} {a : Atom} (read : atom? text = some (a, rest)) : rest.length < text.length := by
  have tail_lt : ∀ {c : Char} {behind : List Char}, behind.tail.length < (c :: behind).length := by
    intro c behind
    simp only [List.length_tail, List.length_cons]
    omega
  unfold atom? at read
  split at read
  · cases read
  repeat' split at read
  · cases read; simp
  · cases read; simp
  · cases read; exact tail_lt
  · cases read; simp
  · obtain ⟨_, inner, same⟩ := Option.map_eq_some_iff.mp read
    cases same
    exact Nat.lt_trans (ranges?_length inner) (by simp)
  · obtain ⟨c, _, read⟩ := Option.bind_eq_some_iff.mp read
    split at read
    · cases read; exact tail_lt
    · cases read
  · cases read
  · cases read; simp

theorem atom?_append {e rest : List Char} {a : Atom} (read : atom? e = some (a, [])) (noStar : rest.head? ≠ some '*') :
    atom? (e ++ rest) = some (a, rest) := by
  cases e with
  | nil => cases read
  | cons c behind =>
    rw [List.cons_append, atom?]
    rw [atom?] at read
    by_cases start : c = '^'
    · simp_all
    by_cases finish : c = '$'
    · simp_all
    by_cases point : c = '.'
    · subst point
      cases behind with
      | nil => simp_all
      | cons d more => by_cases star : d = '*' <;> simp_all
    by_cases bracket : c = '['
    · subst bracket
      obtain ⟨⟨found, after⟩, inner, same⟩ := Option.map_eq_some_iff.mp read
      obtain ⟨rfl, rfl⟩ := Prod.mk.inj same
      exact Option.map_eq_some_iff.mpr ⟨_, ranges?_append inner rest, rfl⟩
    by_cases escaped : c = '\\'
    · cases behind <;> simp_all
    · simp only [start, finish, point, bracket, escaped, if_false] at read ⊢
      split at read
      · cases read
      · rename_i plain
        cases read
        simp [plain]

theorem atom?_head {e : List Char} {a : Atom} (read : atom? e = some (a, [])) :
    e.head? ≠ some '*' ∧ e.head? ≠ some '|' ∧ e ≠ [] := by
  cases e with
  | nil => cases read
  | cons c behind =>
    refine ⟨?_, ?_, by simp⟩
    · rintro ⟨⟩
      simp [atom?, operators] at read
    · rintro ⟨⟩
      simp [atom?, operators] at read

def choices? (text : List Char) : Option (List (List Atom)) :=
  match text with
  | [] => some [[]]
  | '|' :: rest => (choices? rest).map ([] :: ·)
  | c :: rest =>
    match _read : atom? (c :: rest) with
    | some (a, after) => (choices? after).map fun found => (a :: found.headD []) :: found.tail
    | none => none
termination_by text.length
decreasing_by
  · simp
  · exact atom?_length _read

def Atom.ends (text : List Char) (i : Nat) : Atom → List Nat
  | .start => if i = 0 then [i] else []
  | .finish => if i = text.length then [i] else []
  | .choice test => if text[i]?.any test then [i + 1] else []
  | .run => unbroken i (text.drop i)
where
  unbroken (i : Nat) : List Char → List Nat
    | [] => [i]
    | c :: rest => i :: if c = '\n' then [] else unbroken (i + 1) rest

def occurs (text : List Char) (atoms : List Atom) : Bool :=
  !(atoms.foldl (fun places a => places.flatMap (a.ends text)) (List.range (text.length + 1))).isEmpty

def limit : Nat := 327680

@[reducible] def engine : Regex where
  compile? text := if text.length ≤ limit then (choices? text).map fun found name => found.any (occurs name) else none
  escape := escape

def element (e : List Char) : Prop := ∃ a, atom? e = some (a, [])

def spans (e text : List Char) (i j : Nat) : Prop := ∃ a, atom? e = some (a, []) ∧ j ∈ a.ends text i

section Rows
variable {es : List (List Char)} {atoms : List Atom} {text : List Char} {i j : Nat}

theorem choices?_flatten (each : List.Forall₂ (fun e a => atom? e = some (a, [])) es atoms) :
    choices? es.flatten = some [atoms] ∧ es.flatten.head? ≠ some '*' := by
  induction each with
  | nil => exact ⟨by rw [List.flatten_nil, choices?], by simp⟩
  | @cons e a rest others first _ ih =>
    obtain ⟨later, noStar⟩ := ih
    obtain ⟨front, bar, some_⟩ := atom?_head first
    obtain ⟨c, behind, rfl⟩ := List.exists_cons_of_ne_nil some_
    have read := atom?_append first noStar
    refine ⟨?_, by simpa using front⟩
    rw [List.cons_append] at read
    rw [List.flatten_cons, List.cons_append, choices?]
    · split
      · rename_i found after again
        cases again.symm.trans read
        rw [later]
        rfl
      · rename_i none
        cases none.symm.trans read
    · rintro rfl
      exact bar rfl

theorem places_row (each : List.Forall₂ (fun e a => atom? e = some (a, [])) es atoms) (places : List Nat) :
    j ∈ atoms.foldl (fun places a => places.flatMap (a.ends text)) places ↔ ∃ i ∈ places, Row spans text es i j := by
  induction each generalizing places with
  | nil => simp [Row.nil_iff]
  | @cons e a rest others first _ ih =>
    have own : ∀ i k, spans e text i k ↔ k ∈ a.ends text i := by
      intro i k
      constructor
      · rintro ⟨b, read, ends⟩
        cases first.symm.trans read
        exact ends
      · exact fun ends => ⟨a, first, ends⟩
    rw [List.foldl_cons, ih]
    simp only [List.mem_flatMap, Row.cons_iff, own]
    constructor
    · rintro ⟨k, ⟨i, start, here⟩, later⟩
      exact ⟨i, start, k, here, later⟩
    · rintro ⟨i, start, k, here, later⟩
      exact ⟨k, ⟨i, start, here⟩, later⟩

theorem occurs_iff (each : List.Forall₂ (fun e a => atom? e = some (a, [])) es atoms) :
    occurs text atoms = true ↔ ∃ i j, i ≤ text.length ∧ Row spans text es i j := by
  rw [occurs, Bool.not_eq_true', List.isEmpty_eq_false_iff_exists_mem]
  simp only [places_row each, List.mem_range, Nat.lt_succ_iff]
  constructor
  · rintro ⟨j, i, start, row⟩
    exact ⟨i, j, start, row⟩
  · rintro ⟨i, j, start, row⟩
    exact ⟨j, i, start, row⟩

theorem elements_atoms (each : ∀ e ∈ es, element e) : ∃ atoms, List.Forall₂ (fun e a => atom? e = some (a, [])) es atoms := by
  induction es with
  | nil => exact ⟨[], .nil⟩
  | cons e rest ih =>
    obtain ⟨⟨a, first⟩, others⟩ := List.forall_mem_cons.mp each
    obtain ⟨atoms, later⟩ := ih others
    exact ⟨a :: atoms, .cons first later⟩

end Rows

section Documented
variable {e text : List Char} {a : Atom} {i j : Nat}

theorem spans_iff (read : atom? e = some (a, [])) : spans e text i j ↔ j ∈ a.ends text i := by
  constructor
  · rintro ⟨b, again, ends⟩
    cases read.symm.trans again
    exact ends
  · exact fun ends => ⟨a, read, ends⟩

theorem choice_ends {test : Char → Bool} : j ∈ (Atom.choice test).ends text i ↔
    (∃ c, text[i]? = some c ∧ test c = true) ∧ j = i + 1 := by
  rw [Atom.ends]
  cases text[i]? with
  | none => simp
  | some c => by_cases passed : test c = true <;> simp [passed]

theorem point_spans : spans ['.'] text i j ↔ (∃ c, text[i]? = some c ∧ c ≠ '\n') ∧ j = i + 1 := by
  rw [spans_iff (show atom? ['.'] = some (.choice (· ≠ '\n'), []) from rfl), choice_ends]
  simp

theorem run_spans : spans ['.', '*'] text i j ↔ Relation.ReflTransGen (spans ['.'] text) i j := by
  rw [spans_iff (show atom? ['.', '*'] = some (.run, []) from rfl), Atom.ends]
  have here : ∀ {i : Nat} {behind : List Char}, i ∈ Atom.ends.unbroken i behind := by
    intro i behind
    cases behind <;> simp [Atom.ends.unbroken]
  constructor
  · intro ends
    generalize front : text.drop i = behind at ends
    induction behind generalizing i with
    | nil =>
      obtain rfl : j = i := by simpa [Atom.ends.unbroken] using ends
      exact .refl
    | cons c rest ih =>
      rw [Atom.ends.unbroken, List.mem_cons] at ends
      rcases ends with rfl | further
      · exact .refl
      · split at further
        · cases further
        · rename_i unbroken
          have isNext : text[i]? = some c := by rw [← List.head?_drop, front]; rfl
          have later : text.drop (i + 1) = rest := by rw [← List.drop_drop, front]; rfl
          exact .head (point_spans.mpr ⟨⟨c, isNext, unbroken⟩, rfl⟩) (ih later further)
  · intro way
    induction way using Relation.ReflTransGen.head_induction_on with
    | refl => exact here
    | head one _ ih =>
      obtain ⟨⟨c, isNext, unbroken⟩, rfl⟩ := point_spans.mp one
      obtain ⟨inside, rfl⟩ := List.getElem?_eq_some_iff.mp isNext
      rw [List.drop_eq_getElem_cons inside, Atom.ends.unbroken, if_neg unbroken]
      exact List.mem_cons_of_mem _ ih

theorem escape_atom (c : Char) : atom? (escape c) = some (.choice (· = c), []) := by
  unfold escape
  split
  · rename_i operator
    simp [atom?, operator]
  · rename_i plain
    have other : ∀ d ∈ operators, c ≠ d := fun d member same => plain (same ▸ member)
    have marks : c ≠ '^' ∧ c ≠ '$' ∧ c ≠ '.' ∧ c ≠ '[' ∧ c ≠ '\\' :=
      ⟨other _ (by decide), other _ (by decide), other _ (by decide), other _ (by decide), other _ (by decide)⟩
    simp [atom?, marks, plain]

theorem bracket_atom {inside : List Char} (read : atom? ('[' :: inside) = some (a, [])) : ∃ test, a = .choice test := by
  obtain ⟨found, _, same⟩ := Option.map_eq_some_iff.mp read
  exact ⟨_, (Prod.mk.inj same).1.symm⟩

theorem single_atom (c : Char) : ∃ test, atom? ('[' :: (Regex.classCharacter c ++ [']'])) = some (.choice test, []) ∧
    ∀ d, test d = true ↔ d = c := by
  have read : ranges? (Regex.classCharacter c ++ [']']) = some ([(c, c)], []) := by
    unfold Regex.classCharacter
    split
    · rename_i special
      have operator : c ∈ operators := by rcases special with rfl | rfl | rfl | rfl | rfl | rfl | rfl <;> decide
      simp [ranges?, operator]
    · rename_i plain
      have own : Regex.classCharacter c = [c] := if_neg plain
      simp only [not_or] at plain
      rw [List.singleton_append, ranges?.eq_5, if_pos own]
      · rfl
      · exact plain.2.2.1
      · exact fun _ _ same _ => plain.1 same
      · rintro _ _ ⟨⟩
  refine ⟨inRanges [(c, c)], by simp [atom?, read], fun d => ?_⟩
  simp only [inRanges, List.any_cons, List.any_nil, Bool.or_false, Bool.and_eq_true, decide_eq_true_eq]
  exact ⟨fun between => Char.le_antisymm between.2 between.1, fun same => same ▸ ⟨Char.le_refl d, Char.le_refl d⟩⟩

end Documented

theorem documented : @Regex.Documented engine element spans := by
  refine @Regex.Documented.mk engine _ _ ?row ⟨⟨_, rfl⟩, ?start⟩ ⟨⟨_, rfl⟩, ?finish⟩ ⟨⟨_, rfl⟩, fun _ _ _ => point_spans⟩
    ⟨⟨_, rfl⟩, fun _ _ _ => run_spans⟩ (fun c => ⟨⟨_, escape_atom c⟩, ?escaped⟩) ?bracket ?single
  case row =>
    intro es test each accepted text
    obtain ⟨atoms, related⟩ := elements_atoms each
    obtain ⟨_, accepted⟩ := Option.ite_none_right_eq_some.mp accepted
    rw [(choices?_flatten related).1] at accepted
    cases accepted
    simpa using occurs_iff related
  case start =>
    intro text i j
    rw [spans_iff (show atom? ['^'] = some (.start, []) from rfl), Atom.ends]
    split <;> simp_all
  case finish =>
    intro text i j
    rw [spans_iff (show atom? ['$'] = some (.finish, []) from rfl), Atom.ends]
    split <;> simp_all
  case escaped =>
    intro text i j
    refine (spans_iff (escape_atom c)).trans ?_
    rw [choice_ends]
    simp
  case bracket =>
    rintro inside ⟨a, read⟩ text i j
    obtain ⟨test, rfl⟩ := bracket_atom read
    simp only [spans_iff read, choice_ends]
    simp
  case single =>
    intro c
    obtain ⟨test, read, own⟩ := single_atom c
    refine ⟨⟨_, read⟩, fun d => ?_⟩
    rw [spans_iff read, choice_ends]
    simp [own]

end WireSchema.Elementary

import WireSchema.Token.Coverage

-- A reading is made of the characters it took: of the text behind them only the first atom is looked at, and there
-- all that matters is which classes of characters it ends.
namespace WireSchema.Scan
open Text

def Fronts (atoms other : List Atom) : Prop :=
  atoms.head? = other.head? ∨ atoms.head? = some (.char '\n') ∧ other.head? = some (.char '\r')

structure Inline (p : Char → Bool) : Prop where
  feed : p '\n' = false
  carriage : p '\r' = false
  space : p ' ' = false

def Stops (atoms other : List Atom) : Prop :=
  ∀ p, Inline p → startsWith p atoms = false → startsWith p other = false

theorem Fronts.startsWith_eq {atoms other : List Atom} {p : Char → Bool} (fronts : Fronts atoms other)
    (inline : Inline p) : startsWith p other = startsWith p atoms := by
  unfold Fronts at fronts
  cases atoms with
  | nil =>
    cases other with
    | nil => rfl
    | cons first rest => simp at fronts
  | cons a front =>
    cases other with
    | nil => simp at fronts
    | cons b behind =>
      simp only [List.head?_cons, Option.some.injEq] at fronts
      rcases fronts with rfl | ⟨rfl, rfl⟩
      · cases a <;> rfl
      · simp [startsWith, inline.feed, inline.carriage]

namespace Stops
variable {atoms other : List Atom}

theorem of_fronts (fronts : Fronts atoms other) : Stops atoms other :=
  fun _ inline stopped => (fronts.startsWith_eq inline).trans stopped

theorem of_space (atoms rest : List Atom) : Stops atoms (.char ' ' :: rest) := fun _ inline _ => inline.space

theorem append (stops : Stops atoms other) (text : List Atom) : Stops (text ++ atoms) (text ++ other) := by
  cases text with
  | nil => exact stops
  | cons first rest =>
    intro p _ stopped
    cases first with
    | char c => exact stopped
    | stray byte => rfl

theorem covered {r : Reading} (stops : Stops r.rest other) (covers : r.Covers atoms) :
    Stops atoms (r.taken.map .char ++ other) := by
  rw [← covers]
  exact stops.append _

end Stops

theorem Reading.Covers.startsWith_taken {r : Reading} {atoms : List Atom} (covers : r.Covers atoms) (some : r.taken ≠ [])
    (p : Char → Bool) (other : List Atom) : startsWith p (r.taken.map .char ++ other) = startsWith p atoms := by
  rw [← covers]
  cases taken : r.taken with
  | nil => exact absurd taken some
  | cons c rest => rfl

section Classes
variable {p : Char → Bool} {atoms other : List Atom}

theorem digit_inline (base : Nat) : Inline (isDigitOf base) := by constructor <;> rfl
theorem exponentMark_inline : Inline isExponentMark := by constructor <;> rfl
theorem sign_inline : Inline isSign := by constructor <;> rfl
theorem hexMark_inline : Inline isHexMark := by constructor <;> rfl
theorem point_inline : Inline (fun c => decide (c = '.')) := by constructor <;> rfl
theorem fractionMark_inline : Inline (fun c => decide (c = '.') || isExponentMark c) := by constructor <;> rfl
theorem number_inline : Inline (fun c => decide (c = '.') || isDigitOf 10 c) := by constructor <;> rfl
theorem name_inline : Inline isNameCharacter := by constructor <;> decide

theorem run_stopped (stopped : startsWith p atoms = false) : run p atoms = ([], atoms) := by
  fun_cases run p atoms <;> simp_all [startsWith]

theorem one_stopped (stopped : startsWith p atoms = false) : one p atoms = ([], atoms) := by
  fun_cases one p atoms <;> simp_all [startsWith]

theorem run_stops (p : Char → Bool) (atoms : List Atom) : startsWith p (run p atoms).2 = false := by
  fun_induction run p atoms with
  | case1 c rest holds more ih => exact ih
  | case2 => simp_all [startsWith]
  | case3 rest => cases rest <;> simp_all [startsWith]

theorem one_stops (none : (one p atoms).1 = []) : startsWith p atoms = false := by
  fun_cases one p atoms <;> simp_all [startsWith, one]

theorem run_local (inline : Inline p) (stops : Stops (run p atoms).2 other) :
    run p ((run p atoms).1.map .char ++ other) = ((run p atoms).1, other) := by
  have stopped := run_stopped (stops p inline (run_stops p atoms))
  fun_induction run p atoms with
  | case1 c rest holds more ih =>
    have behind := ih stops
    simp only [List.map_cons, List.cons_append, run, if_pos holds]
    rw [behind]
  | case2 | case3 => exact stopped

theorem one_local (inline : Inline p) (stops : Stops (one p atoms).2 other) :
    one p ((one p atoms).1.map .char ++ other) = ((one p atoms).1, other) := by
  by_cases none : (one p atoms).1 = []
  · have stopped := one_stops none
    rw [one_stopped stopped] at stops ⊢
    exact one_stopped (stops p inline stopped)
  · fun_cases one p atoms <;> simp_all [one]

theorem run_ahead (stops : Stops (run p atoms).2 other) : Stops atoms ((run p atoms).1.map .char ++ other) := by
  have whole := stops.append ((run p atoms).1.map .char)
  rwa [run_append] at whole

theorem one_ahead (stops : Stops (one p atoms).2 other) : Stops atoms ((one p atoms).1.map .char ++ other) := by
  have whole := stops.append ((one p atoms).1.map .char)
  rwa [one_append] at whole

end Classes

-- A reader that goes by the characters it takes and by the classes that what it leaves ends.
def Local (r : List Atom → Reading) : Prop :=
  ∀ atoms other, Stops (r atoms).rest other →
    r ((r atoms).taken.map .char ++ other) = ⟨(r atoms).taken, (r atoms).ending, other⟩

def LocalAfter (first : Char) (r : List Atom → Reading) : Prop := ∀ atoms other taken,
  (r atoms).taken = first :: taken → Stops (r atoms).rest other →
    r (taken.map .char ++ other) = ⟨(r atoms).taken, (r atoms).ending, other⟩

theorem Local.after {r : List Atom → Reading} (isLocal : Local r) (first : Char) :
    LocalAfter first fun atoms => (r atoms).after [first] := by
  intro atoms other taken same stops
  have taken : (r atoms).taken = taken := by simpa [Reading.after] using same
  simp only [Reading.after, ← taken]
  rw [isLocal atoms other stops]

section Numbers

theorem name_local (first : Char) : LocalAfter first (name first) := by
  intro atoms other taken same stops
  have taken : (run isNameCharacter atoms).1 = taken := by simpa [name] using same
  simp only [name, ← taken] at stops ⊢
  rw [run_local name_inline stops]

theorem exponent_local (kind : TokenKind) : Local (exponent kind) := by
  intro atoms other stops
  unfold exponent at stops ⊢
  by_cases none : (one isExponentMark atoms).1.isEmpty
  · simp only [none, if_true] at stops ⊢
    have stopped := stops _ exponentMark_inline (one_stops (List.isEmpty_iff.mp none))
    simp [one_stopped stopped]
  · simp only [none] at stops ⊢
    have ofSign := run_ahead stops
    have ofMark := one_ahead ofSign
    have mark := one_local exponentMark_inline ofMark
    simp [one_local sign_inline ofSign, run_local (digit_inline 10) stops, mark, none]

theorem fraction_local : Local fraction := by
  intro atoms other stops
  have stops : Stops (exponent .float (run (isDigitOf 10) atoms).2).rest other := stops
  have ofPlaces := stops.covered (exponent_covers .float (run (isDigitOf 10) atoms).2)
  simp only [fraction, Reading.after, List.map_append, List.append_assoc]
  rw [run_local (digit_inline 10) ofPlaces, exponent_local .float _ other stops]

theorem wholePart_local : Local wholePart := by
  intro atoms other stops
  unfold wholePart at stops ⊢
  by_cases none : (one (· = '.') atoms).1.isEmpty
  · simp only [none, if_true] at stops ⊢
    have ofPoint := stops.covered (exponent_covers .integer atoms)
    have stopped := ofPoint _ point_inline (one_stops (List.isEmpty_iff.mp none))
    rw [one_stopped stopped]
    exact exponent_local .integer atoms other stops
  · simp only [none, Bool.false_eq_true, if_false] at stops ⊢
    have stops : Stops (fraction (one (· = '.') atoms).2).rest other := stops
    have ofFraction := stops.covered (fraction_covers (one (· = '.') atoms).2)
    simp only [Reading.after, List.map_append, List.append_assoc]
    rw [one_local point_inline ofFraction, fraction_local _ other stops]
    simp [none]

theorem run_some {p : Char → Bool} {atoms : List Atom} (starts : startsWith p atoms = true) : (run p atoms).1 ≠ [] := by
  intro none
  have stopped := run_stops p atoms
  have whole := run_append p atoms
  rw [none, List.map_nil, List.nil_append] at whole
  rw [whole, starts] at stopped
  cases stopped

theorem one_some {p : Char → Bool} {atoms : List Atom} (starts : startsWith p atoms = true) : (one p atoms).1 ≠ [] := by
  intro none
  have stopped := one_stops none
  rw [starts] at stopped
  cases stopped

theorem fraction_some {atoms : List Atom} (digit : startsWith (isDigitOf 10) atoms = true) : (fraction atoms).taken ≠ [] := by
  intro none
  exact run_some digit (List.append_eq_nil_iff.mp none).1

theorem wholePart_some {atoms : List Atom} (marked : startsWith (fun c => c = '.' || isExponentMark c) atoms = true) :
    (wholePart atoms).taken ≠ [] := by
  cases point : startsWith (fun c => decide (c = '.')) atoms with
  | true =>
    have point := one_some point
    simp [wholePart, point, Reading.after]
  | false =>
    have mark : startsWith isExponentMark atoms = true := by
      rcases atoms with _ | ⟨_ | _, rest⟩ <;> simp_all [startsWith]
    have mark := one_some mark
    simp [wholePart, one_stopped point, exponent, mark]

theorem zero_decimal {atoms : List Atom} (decimal : startsWith isHexMark atoms = false) : zero atoms =
    if startsWith (fun c => c = '.' || isExponentMark c) (run (isDigitOf 10) (run (isDigitOf 8) atoms).2).2 then
      (wholePart (run (isDigitOf 10) (run (isDigitOf 8) atoms).2).2).after
        ((run (isDigitOf 8) atoms).1 ++ (run (isDigitOf 10) (run (isDigitOf 8) atoms).2).1)
    else ⟨(run (isDigitOf 8) atoms).1 ++ (run (isDigitOf 10) (run (isDigitOf 8) atoms).2).1,
      if (run (isDigitOf 10) (run (isDigitOf 8) atoms).2).1.isEmpty then .accepted .integer
      else .rejected .octalNumber false, (run (isDigitOf 10) (run (isDigitOf 8) atoms).2).2⟩ := by
  unfold zero
  simp [one_stopped decimal]

theorem zero_local : Local zero := by
  intro atoms other stops
  by_cases none : (one isHexMark atoms).1 = []
  · have ofZero := stops.covered (zero_covers atoms)
    have decimal := one_stops none
    rw [zero_decimal (ofZero _ hexMark_inline decimal)]
    rw [zero_decimal decimal] at stops ⊢
    split at stops
    · rename_i marked
      have stops : Stops (wholePart (run (isDigitOf 10) (run (isDigitOf 8) atoms).2).2).rest other := stops
      have ofWhole := stops.covered (wholePart_covers _)
      have ofOthers := run_ahead ofWhole
      simp only [marked, if_true, Reading.after, List.map_append, List.append_assoc]
      rw [run_local (digit_inline 8) ofOthers, run_local (digit_inline 10) ofWhole]
      have some := wholePart_some marked
      simp only [(wholePart_covers _).startsWith_taken some, marked, if_true]
      rw [wholePart_local _ other stops]
    · rename_i unmarked
      have ofOthers := run_ahead stops
      simp only [unmarked, Bool.false_eq_true, if_false, List.map_append, List.append_assoc]
      rw [run_local (digit_inline 8) ofOthers, run_local (digit_inline 10) stops]
      simp [stops _ fractionMark_inline (by simpa using unmarked)]
  · unfold zero at stops ⊢
    have none : (one isHexMark atoms).1.isEmpty = false := by simpa using none
    simp only [none, Bool.false_eq_true, if_false] at stops ⊢
    have ofCode := run_ahead stops
    simp [one_local hexMark_inline ofCode, run_local (digit_inline 16) stops, none]

theorem number_local (first : Char) : LocalAfter first (number first) := by
  by_cases isZero : first = '0'
  · subst isZero
    exact zero_local.after '0'
  · intro atoms other taken same stops
    unfold number at same stops ⊢
    simp only [isZero, if_false] at same stops ⊢
    have stops : Stops (wholePart (run (isDigitOf 10) atoms).2).rest other := stops
    have ofWhole := stops.covered (wholePart_covers (run (isDigitOf 10) atoms).2)
    have taken : (run (isDigitOf 10) atoms).1 ++ (wholePart (run (isDigitOf 10) atoms).2).taken = taken := by
      simpa [Reading.after] using same
    simp only [Reading.after, ← taken, List.map_append, List.append_assoc]
    rw [run_local (digit_inline 10) ofWhole, wholePart_local _ other stops]

theorem number_taken (first : Char) (atoms : List Atom) : ∃ taken, (number first atoms).taken = first :: taken := by
  unfold number
  split
  · rename_i isZero
    exact ⟨(zero atoms).taken, by simp [Reading.after, isZero]⟩
  · exact ⟨_, rfl⟩

theorem negative_stopped {atoms : List Atom}
    (stopped : startsWith (fun c => decide (c = '.') || isDigitOf 10 c) atoms = false) :
    negative atoms = ⟨[], .rejected .number false, atoms⟩ := by
  unfold negative
  split
  · simp_all [startsWith]
  · rfl

theorem negative_local : Local negative := by
  intro atoms other stops
  cases number : startsWith (fun c => decide (c = '.') || isDigitOf 10 c) atoms with
  | false =>
    rw [negative_stopped number] at stops ⊢
    exact negative_stopped (stops _ number_inline number)
  | true =>
    cases atoms with
    | nil => cases number
    | cons atom rest =>
      cases atom with
      | stray byte => cases number
      | char c =>
        by_cases point : c = '.'
        · subst point
          cases digit : startsWith (isDigitOf 10) rest with
          | true =>
            simp only [negative, digit, if_true] at stops ⊢
            have stops : Stops (fraction rest).rest other := stops
            have ofFraction := (fraction_covers rest).startsWith_taken (fraction_some digit) (isDigitOf 10) other
            simp only [Reading.after, List.map_cons, List.cons_append, List.nil_append, if_true, ofFraction, digit]
            rw [fraction_local rest other stops]
          | false =>
            simp only [negative, digit, if_true, Bool.false_eq_true, if_false] at stops ⊢
            simp [stops _ (digit_inline 10) digit]
        · have digit : isDigitOf 10 c = true := by simpa [startsWith, point] using number
          simp only [negative, point, if_false, digit, if_true] at stops ⊢
          obtain ⟨taken, same⟩ := number_taken c rest
          rw [same, List.map_cons, List.cons_append]
          simp only [point, if_false, digit, if_true]
          rw [number_local c rest other taken same stops, same]

end Numbers
end WireSchema.Scan

import Mathlib.Computability.Language
import Mathlib.Data.List.TakeWhile
import WireSchema.Proofs.Displayed.Words
import WireSchema.Proofs.Token.Terminators

-- How numbers are written, as regular languages, and that the scanner takes exactly these: each of its readers goes as
-- far as a class of characters goes, and in these languages no word of one class starts inside the next.
namespace WireSchema
open Text
open scoped Computability

namespace Literal
variable {p : Char → Bool} {L : Language Char} {c : Char} {text : List Char}

def character (p : Char → Bool) : Language Char := {text | ∃ c, p c = true ∧ text = [c]}

def row (p : Char → Bool) : Language Char := character p * (character p)∗

def between (first last c : Char) : Bool := first ≤ c && c ≤ last

def octal : Char → Bool := between '0' '7'

def decimal : Char → Bool := between '0' '9'

def hexadecimal (c : Char) : Bool := between '0' '9' c || between 'a' 'f' c || between 'A' 'F' c

def minus : Language Char := character (· = '-')

def point : Language Char := character (· = '.')

def exponent : Language Char := character Scan.isExponentMark * ((1 + character Scan.isSign) * row decimal)

def natural : Language Char :=
  character (· = '0') * (character Scan.isHexMark * row hexadecimal) +
    character (· = '0') * (character octal)∗ + character (between '1' '9') * (character decimal)∗

def integer : Language Char := (1 + minus) * natural

def positive : Language Char := row decimal * (point * ((character decimal)∗ * (1 + exponent))) +
  point * (row decimal * (1 + exponent)) + row decimal * exponent

def float : Language Char := (1 + minus) * positive

@[simp] theorem nil_character_mul : [] ∉ character p * L := by
  rintro ⟨_, ⟨c, _, rfl⟩, rest, _, nothing⟩
  cases nothing

@[simp] theorem cons_character_mul : c :: text ∈ character p * L ↔ p c = true ∧ text ∈ L := by
  constructor
  · rintro ⟨_, ⟨d, holds, rfl⟩, rest, inside, same⟩
    cases same
    exact ⟨holds, inside⟩
  · rintro ⟨holds, inside⟩
    exact ⟨[c], ⟨c, holds, rfl⟩, text, inside, rfl⟩

theorem mem_characters : text ∈ (character p)∗ ↔ ∀ c ∈ text, p c = true := by
  induction text with
  | nil => simp [Language.nil_mem_kstar]
  | cons c rest ih =>
    rw [← Language.one_add_self_mul_kstar_eq_kstar, Language.mem_add, Language.mem_one, cons_character_mul, ih,
      List.forall_mem_cons]
    simp

theorem mem_row : text ∈ row p ↔ text ≠ [] ∧ ∀ c ∈ text, p c = true := by
  cases text with
  | nil => simp [row]
  | cons c rest => simp [row, mem_characters]

theorem mem_optional : text ∈ 1 + L ↔ text = [] ∨ text ∈ L := by rw [Language.mem_add, Language.mem_one]

theorem mem_optional_mul {M : Language Char} : text ∈ (1 + L) * M ↔ text ∈ M ∨ text ∈ L * M := by
  rw [add_mul, one_mul, Language.mem_add]

theorem mem_characters_mul (stops : ∀ c rest, c :: rest ∈ L → p c = false) :
    text ∈ (character p)∗ * L ↔ text.dropWhile p ∈ L := by
  constructor
  · rintro ⟨front, inside, rest, behind, rfl⟩
    rw [List.dropWhile_append_of_pos (mem_characters.mp inside)]
    cases rest with
    | nil => exact behind
    | cons c rest => rwa [List.dropWhile_cons_of_neg (by simp [stops c rest behind])]
  · intro behind
    refine ⟨text.takeWhile p, mem_characters.mpr fun c member => ?_, text.dropWhile p, behind,
      List.takeWhile_append_dropWhile⟩
    exact List.all_eq_true.mp List.all_takeWhile c member

section Digits

theorem between_codes {first last : Char} :
    between first last c = true ↔ first.toNat ≤ c.toNat ∧ c.toNat ≤ last.toNat := by
  rw [between, Bool.and_eq_true, decide_eq_true_eq, decide_eq_true_eq]
  exact and_congr UInt32.le_iff_toNat_le UInt32.le_iff_toNat_le

theorem codes : '0'.toNat = 48 ∧ '1'.toNat = 49 ∧ '7'.toNat = 55 ∧ '9'.toNat = 57 ∧ 'A'.toNat = 65 ∧ 'F'.toNat = 70 ∧
    'a'.toNat = 97 ∧ 'f'.toNat = 102 := by decide

theorem isDigitOf_codes (base : Nat) (c : Char) : isDigitOf base c = true ↔
    (48 ≤ c.toNat ∧ c.toNat ≤ 57 ∧ c.toNat < base + 48) ∨ (97 ≤ c.toNat ∧ c.toNat ≤ 102 ∧ c.toNat < base + 87) ∨
      (65 ≤ c.toNat ∧ c.toNat ≤ 70 ∧ c.toNat < base + 55) := by
  have order : ∀ d e : Char, d ≤ e ↔ d.toNat ≤ e.toNat := fun _ _ => UInt32.le_iff_toNat_le
  have codes := codes
  simp only [isDigitOf, digitValue?, order]
  split
  · rename_i value found
    rw [decide_eq_true_eq]
    split at found
    · cases found
      omega
    split at found
    · cases found
      omega
    split at found
    · cases found
      omega
    · cases found
  · rename_i none
    split at none
    · cases none
    split at none
    · cases none
    split at none
    · cases none
    · rw [iff_false_left Bool.false_ne_true]
      omega

theorem isDigitOf_eight : isDigitOf 8 = octal := by
  have codes := codes
  funext c
  rw [Bool.eq_iff_iff, isDigitOf_codes, octal, between_codes]
  omega

theorem isDigitOf_ten : isDigitOf 10 = decimal := by
  have codes := codes
  funext c
  rw [Bool.eq_iff_iff, isDigitOf_codes, decimal, between_codes]
  omega

theorem isDigitOf_sixteen : isDigitOf 16 = hexadecimal := by
  have codes := codes
  funext c
  rw [Bool.eq_iff_iff, isDigitOf_codes, hexadecimal, Bool.or_eq_true, Bool.or_eq_true, between_codes, between_codes,
    between_codes]
  omega

theorem octal_decimal (digit : octal c = true) : decimal c = true := by
  have codes := codes
  rw [octal, between_codes] at digit
  rw [decimal, between_codes]
  omega

theorem decimal_iff : decimal c = true ↔ c = '0' ∨ between '1' '9' c = true := by
  have codes := codes
  rw [decimal, between_codes, between_codes, ← Char.toNat_inj]
  omega

end Digits

theorem exponent_mark (inside : c :: text ∈ exponent) : decimal c = false := by
  obtain ⟨mark, _⟩ := cons_character_mul.mp inside
  rcases (by simpa [Scan.isExponentMark] using mark : c = 'e' ∨ c = 'E') with rfl | rfl <;> rfl

theorem digits_start (inside : text ∈ row p * L) : text.head?.any p = true := by
  rw [row, mul_assoc] at inside
  cases text with
  | nil => exact absurd inside nil_character_mul
  | cons c rest => exact (cons_character_mul.mp inside).1

theorem natural_starts (inside : text ∈ natural) : text.head?.any decimal = true := by
  cases text with
  | nil => rcases inside with (inside | inside) | inside <;> exact absurd inside nil_character_mul
  | cons c rest =>
    rcases inside with (inside | inside) | inside <;> have first := (cons_character_mul.mp inside).1
    · exact decimal_iff.mpr (.inl (of_decide_eq_true first))
    · exact decimal_iff.mpr (.inl (of_decide_eq_true first))
    · exact decimal_iff.mpr (.inr first)

def scaled : Language Char := point * ((character decimal)∗ * (1 + exponent)) + exponent

theorem scaled_starts (inside : text ∈ scaled) :
    text.head?.any (fun c => decide (c = '.') || Scan.isExponentMark c) = true := by
  cases text with
  | nil => rcases inside with inside | inside <;> exact absurd inside nil_character_mul
  | cons c rest => rcases inside with inside | inside <;> simp [(cons_character_mul.mp inside).1]

theorem scaled_mark (inside : c :: text ∈ scaled) : decimal c = false := by
  rcases inside with inside | inside
  · obtain ⟨mark, _⟩ := cons_character_mul.mp inside
    rw [of_decide_eq_true mark]
    rfl
  · exact exponent_mark inside

theorem positive_eq : positive = row decimal * scaled + point * (row decimal * (1 + exponent)) := by
  rw [positive, scaled, mul_add (row decimal) (point * _) exponent, add_right_comm]

end Literal

namespace Scan
open Literal
variable {kind found : TokenKind} {text : List Char} {c : Char}

def Reading.Takes (r : Reading) (text : List Char) (kind : TokenKind) : Prop := r = ⟨text, .accepted kind, []⟩

theorem Reading.takes_after (r : Reading) (front text : List Char) (kind : TokenKind) :
    (r.after front).Takes (front ++ text) kind ↔ r.Takes text kind := by
  obtain ⟨taken, ending, rest⟩ := r
  simp [Takes, after]

theorem takes_row (front : List Char) (p : Char → Bool) (error : LexicalError) :
    (⟨front ++ text.takeWhile p, if (text.takeWhile p).isEmpty then .rejected error false else .accepted kind,
      (text.dropWhile p).map .char⟩ : Reading).Takes (front ++ text) found ↔ found = kind ∧ text ∈ row p := by
  rw [Reading.Takes, mem_row, ← List.dropWhile_eq_nil_iff]
  constructor
  · intro takes
    obtain ⟨taken, ending, rest⟩ := Reading.mk.inj takes
    have whole : text.takeWhile p = text := List.append_cancel_left taken
    rw [whole] at ending
    cases text with
    | nil => cases ending
    | cons c rest => exact ⟨(Ending.accepted.inj ending).symm, by simp, List.map_eq_nil_iff.mp rest⟩
  · rintro ⟨rfl, some, nothing⟩
    have whole : text.takeWhile p = text := by
      have split := List.takeWhile_append_dropWhile (p := p) (l := text)
      rwa [nothing, List.append_nil] at split
    rw [whole, nothing]
    simp [some]

theorem startsWith_chars (p : Char → Bool) : startsWith p (text.map .char) = text.head?.any p := by
  cases text <;> rfl

theorem starts_cases (p : Char → Bool) (text : List Char) : (∃ c rest, text = c :: rest ∧ p c = true) ∨
    (startsWith p (text.map .char) = false ∧ ∀ L : Language Char, text ∉ character p * L) := by
  cases text with
  | nil => exact .inr ⟨rfl, fun _ => nil_character_mul⟩
  | cons c rest =>
    cases holds : p c with
    | true => exact .inl ⟨c, rest, rfl, holds⟩
    | false => exact .inr ⟨holds, fun _ inside => by simp [holds] at inside⟩

theorem one_chars (p : Char → Bool) (c : Char) (rest : List Char) : one p ((c :: rest).map .char) =
    if p c then ([c], rest.map .char) else ([], (c :: rest).map .char) := rfl

theorem power_takes {rest : List Char} :
    (⟨[c] ++ (one isSign (rest.map .char)).1 ++ (run decimal (one isSign (rest.map .char)).2).1,
      if (run decimal (one isSign (rest.map .char)).2).1.isEmpty then .rejected .floatNumber false else .accepted .float,
      (run decimal (one isSign (rest.map .char)).2).2⟩ : Reading).Takes (c :: rest) found ↔
    found = .float ∧ rest ∈ (1 + character isSign) * row decimal := by
  rw [mem_optional_mul]
  rcases starts_cases isSign rest with ⟨d, more, rfl, sign⟩ | ⟨unsigned, outside⟩
  · have undigit : d :: more ∉ row decimal := by
      intro inside
      have digit := (cons_character_mul.mp inside).1
      rcases (by simpa [isSign] using sign : d = '+' ∨ d = '-') with rfl | rfl <;> cases digit
    rw [one_chars, if_pos sign, run_chars, cons_character_mul]
    simpa [undigit, sign] using takes_row [c, d] decimal .floatNumber
  · rw [one_stopped unsigned, run_chars]
    simpa [outside] using takes_row [c] decimal .floatNumber

theorem exponent_takes : (exponent kind (text.map .char)).Takes text found ↔
    (found = kind ∧ text = []) ∨ (found = .float ∧ text ∈ Literal.exponent) := by
  cases text with
  | nil => simp [exponent, one, Reading.Takes, Literal.exponent, eq_comm]
  | cons c rest =>
    rw [Literal.exponent, cons_character_mul]
    by_cases mark : isExponentMark c = true
    · unfold exponent
      rw [one_chars, if_pos mark, isDigitOf_ten]
      simp only [mark, true_and, reduceCtorEq, and_false, false_or]
      exact power_takes
    · unfold exponent
      rw [one_chars, if_neg mark]
      simp [mark, Reading.Takes]

theorem fraction_takes : (fraction (text.map .char)).Takes text found ↔
    found = .float ∧ text ∈ (character decimal)∗ * (1 + Literal.exponent) := by
  have stops : ∀ c rest, c :: rest ∈ 1 + Literal.exponent → decimal c = false := by
    intro c rest inside
    rw [mem_optional] at inside
    exact exponent_mark (inside.resolve_left (by simp))
  have whole := List.takeWhile_append_dropWhile (p := decimal) (l := text)
  have front := Reading.takes_after (exponent .float ((text.dropWhile decimal).map .char))
    (text.takeWhile decimal) (text.dropWhile decimal) found
  rw [whole] at front
  rw [mem_characters_mul stops, mem_optional, fraction, isDigitOf_ten, run_chars]
  dsimp only
  rw [front, exponent_takes, and_or_left]

theorem wholePart_takes : (wholePart (text.map .char)).Takes text found ↔
    (found = .integer ∧ text = []) ∨ (found = .float ∧ text ∈ scaled) := by
  rw [scaled, Language.mem_add]
  rcases starts_cases (· = '.') text with ⟨c, rest, rfl, pointed⟩ | ⟨unpointed, outside⟩
  · obtain rfl : c = '.' := of_decide_eq_true pointed
    have unmarked : '.' :: rest ∉ Literal.exponent :=
      fun inside => absurd (cons_character_mul.mp inside).1 (by decide)
    have front := Reading.takes_after (fraction (rest.map .char)) ['.'] rest found
    unfold wholePart
    rw [one_chars, if_pos (decide_eq_true rfl), point, cons_character_mul]
    simp only [unmarked, or_false, reduceCtorEq, and_false, false_or, decide_true, true_and]
    exact front.trans fraction_takes
  · unfold wholePart
    rw [one_stopped unpointed, point]
    simp only [outside, false_or]
    exact exponent_takes

theorem octal_split (text : List Char) :
    text.takeWhile octal ++ (text.dropWhile octal).takeWhile decimal = text.takeWhile decimal ∧
      (text.dropWhile octal).dropWhile decimal = text.dropWhile decimal := by
  induction text with
  | nil => exact ⟨rfl, rfl⟩
  | cons c rest ih =>
    by_cases digit : octal c = true
    · simp [digit, octal_decimal digit, ih]
    · simp [digit]

theorem octal_takes (unmarked : text.dropWhile decimal ∉ scaled) :
    (⟨text.takeWhile octal ++ (text.dropWhile octal).takeWhile decimal,
      if ((text.dropWhile octal).takeWhile decimal).isEmpty then .accepted .integer else .rejected .octalNumber false,
      (text.dropWhile decimal).map .char⟩ : Reading).Takes text found ↔
    (found = .integer ∧ ∀ c ∈ text, octal c = true) ∨ (found = .float ∧ text.dropWhile decimal ∈ scaled) := by
  simp only [unmarked, and_false, or_false]
  constructor
  · intro takes
    obtain ⟨taken, ending, _⟩ := Reading.mk.inj takes
    by_cases others : (text.dropWhile octal).takeWhile decimal = []
    · rw [others] at taken ending
      rw [List.append_nil] at taken
      exact ⟨(Ending.accepted.inj ending).symm, List.takeWhile_eq_self_iff.mp taken⟩
    · simp [others] at ending
  · rintro ⟨rfl, digits⟩
    have behind : text.dropWhile octal = [] := List.dropWhile_eq_nil_iff.mpr digits
    have whole : text.takeWhile octal = text := List.takeWhile_eq_self_iff.mpr digits
    have nothing : text.dropWhile decimal = [] :=
      List.dropWhile_eq_nil_iff.mpr fun c member => octal_decimal (digits c member)
    simp [behind, whole, nothing, Reading.Takes]

theorem zero_hexadecimal (mark : isHexMark c = true) (atoms : List Atom) : zero (.char c :: atoms) =
    ⟨[c] ++ (run (isDigitOf 16) atoms).1,
      if (run (isDigitOf 16) atoms).1.isEmpty then .rejected .hexadecimalNumber false else .accepted .integer,
      (run (isDigitOf 16) atoms).2⟩ := by
  simp [zero, one, mark]

theorem zero_takes : (zero (text.map .char)).Takes text found ↔
    (found = .integer ∧ (text ∈ character isHexMark * row hexadecimal ∨ ∀ c ∈ text, octal c = true)) ∨
      (found = .float ∧ text.dropWhile decimal ∈ scaled) := by
  rcases starts_cases isHexMark text with ⟨d, rest, rfl, mark⟩ | ⟨unmarked, outside⟩
  · have undigit : octal d = false ∧ decimal d = false ∧ d ≠ '.' ∧ isExponentMark d = false := by
      rcases (by simpa [isHexMark] using mark : d = 'x' ∨ d = 'X') with rfl | rfl <;> decide
    have outside : d :: rest ∉ scaled := by
      intro inside
      have starts := scaled_starts inside
      simp [undigit] at starts
    have whole : decimal d ≠ true ∧ ¬ ∀ c ∈ d :: rest, octal c = true := by simp [undigit]
    rw [List.map_cons, zero_hexadecimal mark, isDigitOf_sixteen, run_chars, List.dropWhile_cons_of_neg whole.1,
      cons_character_mul]
    simp only [outside, whole.2, mark, true_and, and_false, or_false]
    exact takes_row [d] hexadecimal .hexadecimalNumber
  · obtain ⟨front, behind⟩ := octal_split text
    rw [zero_decimal unmarked, isDigitOf_eight, isDigitOf_ten, run_chars]
    dsimp only
    rw [run_chars, behind, startsWith_chars]
    simp only [outside, false_or]
    by_cases scales : (text.dropWhile decimal).head?.any (fun c => decide (c = '.') || isExponentMark c) = true
    · have some : text.dropWhile decimal ≠ [] := by
        intro nothing
        rw [nothing] at scales
        cases scales
      have others : ¬ ∀ c ∈ text, octal c = true := fun digits =>
        some (List.dropWhile_eq_nil_iff.mpr fun c member => octal_decimal (digits c member))
      have whole := Reading.takes_after (wholePart ((text.dropWhile decimal).map .char))
        (text.takeWhile decimal) (text.dropWhile decimal) found
      rw [List.takeWhile_append_dropWhile] at whole
      rw [if_pos scales, front, whole, wholePart_takes]
      simp [some, others]
    · rw [if_neg scales]
      exact octal_takes fun inside => scales (scaled_starts inside)

theorem number_takes (digit : decimal c = true) : (number c (text.map .char)).Takes (c :: text) found ↔
    (found = .integer ∧ c :: text ∈ natural) ∨ (found = .float ∧ c :: text ∈ row decimal * scaled) := by
  have float : c :: text ∈ row decimal * scaled ↔ text.dropWhile decimal ∈ scaled := by
    rw [row, mul_assoc, cons_character_mul, mem_characters_mul fun _ _ => scaled_mark]
    exact and_iff_right digit
  have integer : c :: text ∈ natural ↔ (c = '0' ∧ (text ∈ character isHexMark * row hexadecimal ∨
      ∀ d ∈ text, octal d = true)) ∨ (between '1' '9' c = true ∧ ∀ d ∈ text, decimal d = true) := by
    rw [natural, Language.mem_add, Language.mem_add, cons_character_mul, cons_character_mul, cons_character_mul,
      mem_characters, mem_characters, decide_eq_true_eq]
    tauto
  rw [float, integer]
  unfold number
  by_cases isZero : c = '0'
  · subst isZero
    have low : between '1' '9' '0' = false := by decide
    have front := Reading.takes_after (zero (text.map .char)) ['0'] text found
    rw [if_pos rfl]
    simp only [low, true_and, Bool.false_eq_true, false_and, or_false]
    exact front.trans zero_takes
  · have high : between '1' '9' c = true := (decimal_iff.mp digit).resolve_left isZero
    have front := Reading.takes_after (wholePart ((text.dropWhile decimal).map .char))
      (c :: text.takeWhile decimal) (text.dropWhile decimal) found
    rw [List.cons_append, List.takeWhile_append_dropWhile] at front
    rw [if_neg isZero, isDigitOf_ten, run_chars]
    simp only [isZero, high, true_and, false_and, false_or]
    rw [front, wholePart_takes, List.dropWhile_eq_nil_iff]

theorem pointed_takes : startsWith decimal (text.map .char) = true ∧ (fraction (text.map .char)).Takes text found ↔
    found = .float ∧ text ∈ row decimal * (1 + Literal.exponent) := by
  rw [fraction_takes, row, mul_assoc, startsWith_chars]
  cases text with
  | nil => simp
  | cons d rest =>
    rw [cons_character_mul]
    have stops : ∀ c rest, c :: rest ∈ 1 + Literal.exponent → decimal c = false := fun c rest inside =>
      exponent_mark ((mem_optional.mp inside).resolve_left (by simp))
    rw [mem_characters_mul stops, mem_characters_mul stops]
    by_cases digit : decimal d = true
    · simp [digit]
    · simp [digit]

theorem negative_takes : (negative (text.map .char)).Takes text found ↔
    (found = .integer ∧ text ∈ natural) ∨ (found = .float ∧ text ∈ positive) := by
  have stuck : ∀ atoms, ¬ (⟨[], .rejected .number false, atoms⟩ : Reading).Takes text found := fun _ takes => nomatch takes
  rw [positive_eq, Language.mem_add]
  rcases starts_cases decimal text with ⟨c, rest, rfl, digit⟩ | ⟨unnumbered, _⟩
  · have unpointed : c ≠ '.' := by
      rintro rfl
      cases digit
    rw [point, cons_character_mul, decide_eq_true_eq]
    simp only [negative, List.map_cons, unpointed, if_false, isDigitOf_ten, digit, if_true, false_and, or_false]
    exact number_takes digit
  · rw [startsWith_chars] at unnumbered
    have unnatural : text ∉ natural := fun inside => Bool.false_ne_true (unnumbered.symm.trans (natural_starts inside))
    have unscaled : text ∉ row decimal * scaled :=
      fun inside => Bool.false_ne_true (unnumbered.symm.trans (digits_start inside))
    simp only [unnatural, unscaled, and_false, false_or]
    rcases starts_cases (· = '.') text with ⟨c, rest, rfl, pointed⟩ | ⟨unpointed, outside⟩
    · obtain rfl : c = '.' := of_decide_eq_true pointed
      have front := Reading.takes_after (fraction (rest.map .char)) ['.'] rest found
      rw [point, cons_character_mul, decide_eq_true_eq, and_iff_right rfl, ← pointed_takes]
      simp only [negative, List.map_cons, if_true, isDigitOf_ten]
      split
      · rename_i digit
        rw [and_iff_right digit]
        exact front
      · rename_i undigit
        simp [undigit, Reading.Takes]
    · rw [point]
      simp only [outside, and_false, iff_false]
      cases text with
      | nil => exact stuck _
      | cons d rest =>
        have unpointed : d ≠ '.' := of_decide_eq_false unpointed
        have undigit : decimal d = false := by simpa using unnumbered
        simp only [negative, List.map_cons, unpointed, if_false, isDigitOf_ten, undigit, Bool.false_eq_true]
        exact stuck _

section Token
variable {rest : List Atom}

theorem token_minus (rest : List Atom) : token '-' rest = ((negative rest).after ['-'], .yes) := by
  have letter : isLetter '-' = false := by decide
  simp [token, letter]

theorem token_digit (digit : isDigitOf 10 c = true) (rest : List Atom) : token c rest = (number c rest, .yes) := by
  have letter : isLetter c ≠ true := fun letter => by
    rw [Decimal.letter_undigit letter] at digit
    cases digit
  have unsigned : c ≠ '-' := by
    rintro rfl
    cases digit
  rw [token, if_neg letter, if_neg unsigned, if_pos digit]

theorem token_point (digit : startsWith (isDigitOf 10) rest = true) :
    token '.' rest = ((fraction rest).after ['.'], .yes) := by
  have letter : isLetter '.' = false := by decide
  simp [token, letter, digit, isDigitOf, digitValue?, byteOrderMark, backtick]

theorem token_number (numeric : kind ∈ [.integer, .float]) (accepted : (token c rest).1.ending = .accepted kind) :
    c = '-' ∨ isDigitOf 10 c = true ∨ (c = '.' ∧ startsWith (isDigitOf 10) rest = true) := by
  have other : kind ≠ .identifier ∧ (∀ word, kind ≠ .keyword word) ∧ kind ∉ [.string] ∧ kind ∉ [.comment] ∧
      kind ≠ .period ∧ ∀ c, punctuation? c ≠ some kind := by
    refine ⟨?_, ?_, ?_, ?_, ?_, fun c mark => ?_⟩
    rotate_right
    · unfold punctuation? at mark
      split at mark <;> cases mark <;> simp at numeric
    all_goals rcases (by simpa using numeric : kind = .integer ∨ kind = .float) with rfl | rfl <;> simp
  have lexer := token_lexer c
  generalize token c = reads at lexer accepted
  cases lexer with
  | name letter => exact absurd (Ending.accepted.inj accepted) (keywordOr_other _ other.1 other.2.1)
  | negative => exact .inl rfl
  | number digit => exact .inr (.inl digit)
  | rawString => exact absurd accepted ((rawString_among rest).absent other.2.2.1)
  | quotedString => exact absurd accepted ((quotedString_among .none rest).absent other.2.2.1)
  | point =>
    by_cases digit : startsWith (isDigitOf 10) rest = true
    · exact .inr (.inr ⟨rfl, digit⟩)
    · simp only [digit] at accepted
      exact absurd (Ending.accepted.inj accepted).symm other.2.2.2.2.1
  | slash => exact absurd accepted ((slash_among rest).absent other.2.2.2.1)
  | single mark =>
    cases accepted
    exact absurd mark (other.2.2.2.2.2 c)
  | stopped => cases accepted

theorem token_unsigned (numeric : kind ∈ [.integer, .float]) (unsigned : c ≠ '-') :
    (token c (text.map .char)).1.Takes (c :: text) kind ↔ (negative ((c :: text).map .char)).Takes (c :: text) kind := by
  have other : (token c (text.map .char)).1.Takes (c :: text) kind →
      isDigitOf 10 c = true ∨ (c = '.' ∧ startsWith (isDigitOf 10) (text.map .char) = true) :=
    fun takes => (token_number numeric (congrArg Reading.ending takes)).resolve_left unsigned
  simp only [List.map_cons, negative]
  by_cases digit : isDigitOf 10 c = true
  · have unpointed : c ≠ '.' := by
      rintro rfl
      cases digit
    rw [token_digit digit, if_neg unpointed, if_pos digit]
  · by_cases pointed : c = '.' ∧ startsWith (isDigitOf 10) (text.map .char) = true
    · obtain ⟨rfl, ahead⟩ := pointed
      rw [token_point ahead, if_pos rfl, if_pos ahead]
    · refine ⟨fun takes => ((other takes).elim digit pointed).elim, fun takes => ?_⟩
      split at takes
      · rename_i point
        rw [if_neg fun ahead => pointed ⟨point, ahead⟩] at takes
        cases takes
      · cases takes

theorem token_numeral (numeric : kind ∈ [.integer, .float]) : (token c (text.map .char)).1.Takes (c :: text) kind ↔
    (kind = .integer ∧ c :: text ∈ integer) ∨ (kind = .float ∧ c :: text ∈ float) := by
  rw [integer, float, mem_optional_mul, mem_optional_mul, minus, cons_character_mul, cons_character_mul, decide_eq_true_eq]
  by_cases signed : c = '-'
  · subst signed
    have unnatural : '-' :: text ∉ natural := fun inside => Bool.false_ne_true (natural_starts inside)
    have nonpositive : '-' :: text ∉ positive := by
      rw [positive_eq]
      rintro (inside | inside)
      · exact Bool.false_ne_true (digits_start inside)
      · exact Bool.false_ne_true (cons_character_mul.mp inside).1
    have front := Reading.takes_after (negative (text.map .char)) ['-'] text kind
    rw [token_minus]
    simp only [unnatural, nonpositive, true_and, false_or]
    exact front.trans negative_takes
  · rw [token_unsigned numeric signed, negative_takes]
    simp only [signed, false_and, or_false]

end Token

end Scan

end WireSchema

import WireSchema.Proofs.Literals.Numbers

-- How strings are written, as regular languages, and that the scanner takes exactly these. In a quoted string the
-- reader is told what it still owes of an escape; a word of that is all that may come before it goes on.
namespace WireSchema
open Text
open scoped Computability

namespace Literal
variable {p : Char → Bool} {L M : Language Char} {c : Char} {text : List Char}

def doubleQuote : Language Char := character (· = '"')

def raw : Language Char := character (· = Scan.backtick) *
  ((character (· ≠ Scan.backtick))∗ * character (· = Scan.backtick))

def code : Language Char := character (· ∈ ['a', 'b', 'f', 'n', 'r', 't', 'v', '\\', '"', '\'']) + character octal ^ 3 +
  character (· = 'x') * character hexadecimal ^ 2 + character (· = 'u') * character hexadecimal ^ 4 +
  character (· = 'U') * character hexadecimal ^ 8

def plain : Language Char := character fun c => c ≠ '"' && c ≠ '\n' && c ≠ '\\'

def quoted : Language Char := doubleQuote * ((plain + character (· = '\\') * code)∗ * doubleQuote)

def string : Language Char := raw + quoted

@[simp] theorem nil_character : [] ∉ character p := by
  rintro ⟨_, _, nothing⟩
  cases nothing

@[simp] theorem cons_character : c :: text ∈ character p ↔ p c = true ∧ text = [] := by
  constructor
  · rintro ⟨_, holds, same⟩
    cases same
    exact ⟨holds, rfl⟩
  · rintro ⟨holds, rfl⟩
    exact ⟨c, holds, rfl⟩

theorem kstar_mul (L M : Language Char) : L∗ * M = M + L * (L∗ * M) := by
  conv_lhs => rw [← Language.one_add_self_mul_kstar_eq_kstar, add_mul, one_mul, mul_assoc]

theorem cons_characters_mul : c :: text ∈ (character p)∗ * M ↔
    c :: text ∈ M ∨ (p c = true ∧ text ∈ (character p)∗ * M) := by
  conv_lhs => rw [kstar_mul, Language.mem_add, cons_character_mul]

theorem cons_power_mul (n : Nat) : c :: text ∈ character p ^ (n + 1) * L ↔ p c = true ∧ text ∈ character p ^ n * L := by
  rw [pow_succ', mul_assoc, cons_character_mul]

def body : Language Char := (plain + character (· = '\\') * code)∗ * doubleQuote

theorem body_eq : body = doubleQuote + (plain * body + character (· = '\\') * (code * body)) := by
  have unfolded : body = doubleQuote + (plain + character (· = '\\') * code) * body := kstar_mul _ doubleQuote
  rwa [add_mul, mul_assoc] at unfolded

theorem cons_body : c :: text ∈ body ↔ (c = '"' ∧ text = []) ∨
    (c ≠ '"' ∧ c ≠ '\n' ∧ c ≠ '\\' ∧ text ∈ body) ∨ (c = '\\' ∧ text ∈ code * body) := by
  conv_lhs =>
    rw [body_eq, Language.mem_add, Language.mem_add, doubleQuote, cons_character, plain, cons_character_mul,
      cons_character_mul]
  simp only [Bool.and_eq_true, decide_eq_true_eq, and_assoc]

theorem nil_body : [] ∉ body := by
  rw [body_eq]
  rintro (inside | inside | inside)
  · exact nil_character inside
  · exact nil_character_mul inside
  · exact nil_character_mul inside

theorem cons_code : c :: text ∈ code * L ↔
    (c ∈ ['a', 'b', 'f', 'n', 'r', 't', 'v', '\\', '"', '\''] ∧ text ∈ L) ∨
      (octal c = true ∧ text ∈ character octal ^ 2 * L) ∨ (c = 'x' ∧ text ∈ character hexadecimal ^ 2 * L) ∨
      (c = 'u' ∧ text ∈ character hexadecimal ^ 4 * L) ∨ (c = 'U' ∧ text ∈ character hexadecimal ^ 8 * L) := by
  rw [code, add_mul, add_mul, add_mul, add_mul, mul_assoc, mul_assoc, mul_assoc, Language.mem_add, Language.mem_add,
    Language.mem_add, Language.mem_add, cons_character_mul, cons_character_mul, cons_character_mul, cons_character_mul,
    cons_power_mul]
  simp only [decide_eq_true_eq]
  tauto

end Literal

namespace Scan
open Literal
variable {kind : TokenKind} {text : List Char} {c : Char}

theorem forbidden?_none (plain : c ≠ '\x00' ∧ c ≠ byteOrderMark) : forbidden? (.char c) = none := by
  rw [forbidden?, if_neg plain.1, if_neg plain.2]

theorem rawString_takes (allowed : ∀ c ∈ text, forbidden? (.char c) = none) :
    (rawString (text.map .char)).Takes text .string ↔
      text ∈ (character (· ≠ backtick))∗ * character (· = backtick) := by
  induction text with
  | nil =>
    have outside : [] ∉ (character (· ≠ backtick))∗ * character (· = backtick) := by
      rw [kstar_mul]
      rintro (inside | inside)
      · exact nil_character inside
      · exact nil_character_mul inside
    simp only [outside, iff_false]
    exact fun takes => nomatch takes
  | cons c rest ih =>
    obtain ⟨here, later⟩ := List.forall_mem_cons.mp allowed
    rw [cons_characters_mul, cons_character, ← ih later, decide_eq_true_eq, decide_eq_true_eq]
    by_cases closes : c = backtick
    · subst closes
      simp [rawString, here, Reading.Takes]
    · have front := Reading.takes_after (rawString (rest.map .char)) [c] rest .string
      rw [List.map_cons, rawString_goes here closes]
      simp only [closes, false_and, false_or, ne_eq, not_false_eq_true, true_and]
      exact front

namespace Escape

-- What may come before an escape has all that it owes.
def pending : Escape → Language Char
  | .none => 1
  | .opened => code
  | .digits base owed => character (isDigitOf base) ^ owed

def Owes : Escape → Prop
  | .digits _ owed => 0 < owed
  | _ => True

theorem next?_owes {escape left : Escape} (next : escape.next? c = some left) : left.Owes := by
  cases escape with
  | none =>
    cases next
    trivial
  | opened =>
    rw [next?] at next
    repeat' split at next
    all_goals cases next
    all_goals simp [Owes]
  | digits base owed =>
    rw [next?] at next
    split at next
    · cases next
      split
      · trivial
      · rename_i more
        exact Nat.sub_pos_of_lt (Nat.lt_of_not_le more)
    · cases next

theorem opened_pending : c :: text ∈ code * body ↔
    ∃ left, opened.next? c = some left ∧ text ∈ left.pending * body := by
  rw [cons_code, next?]
  by_cases simple : c ∈ ['a', 'b', 'f', 'n', 'r', 't', 'v', '\\', '"', '\'']
  · have other : octal c = false ∧ c ≠ 'x' ∧ c ≠ 'u' ∧ c ≠ 'U' := by
      simp only [List.mem_cons, List.not_mem_nil, or_false] at simple
      rcases simple with rfl | rfl | rfl | rfl | rfl | rfl | rfl | rfl | rfl | rfl <;> decide
    rw [if_pos simple]
    simp [simple, other, pending]
  rw [if_neg simple, isDigitOf_eight]
  by_cases digit : octal c = true
  · have other : c ≠ 'x' ∧ c ≠ 'u' ∧ c ≠ 'U' := by
      refine ⟨?_, ?_, ?_⟩ <;> rintro rfl <;> cases digit
    rw [if_pos digit]
    simp [simple, digit, other, pending, isDigitOf_eight]
  rw [if_neg digit]
  by_cases two : c = 'x'
  · subst two
    simp [simple, digit, pending, isDigitOf_sixteen]
  rw [if_neg two]
  by_cases four : c = 'u'
  · subst four
    simp [simple, digit, pending, isDigitOf_sixteen]
  rw [if_neg four]
  by_cases eight : c = 'U'
  · subst eight
    simp [simple, digit, pending, isDigitOf_sixteen]
  · simp [simple, digit, two, four, eight]

theorem digits_pending {base owed : Nat} (owes : 0 < owed) :
    c :: text ∈ (digits base owed).pending * body ↔
      ∃ left, (digits base owed).next? c = some left ∧ text ∈ left.pending * body := by
  obtain ⟨n, rfl⟩ := Nat.exists_eq_add_of_lt owes
  rw [Nat.zero_add, pending, cons_power_mul, next?]
  by_cases digit : isDigitOf base c = true
  · cases n with
    | zero => simp [digit, pending]
    | succ n => simp [digit, pending]
  · simp [digit]

end Escape

theorem nil_mul_body (L : Language Char) : [] ∉ L * body := by
  rintro ⟨front, _, rest, inside, nothing⟩
  rw [(List.append_eq_nil_iff.mp nothing).2] at inside
  exact nil_body inside

theorem quotedString_takes {escape : Escape} (owes : escape.Owes) (allowed : ∀ c ∈ text, forbidden? (.char c) = none) :
    (quotedString escape (text.map .char)).Takes text .string ↔ text ∈ escape.pending * body := by
  induction text generalizing escape with
  | nil =>
    simp only [nil_mul_body, iff_false]
    cases escape <;> exact fun takes => nomatch takes
  | cons c rest ih =>
    obtain ⟨here, later⟩ := List.forall_mem_cons.mp allowed
    have front : ∀ left, ((quotedString left (rest.map .char)).after [c]).Takes (c :: rest) .string ↔
        (quotedString left (rest.map .char)).Takes rest .string := fun _ => Reading.takes_after _ [c] rest .string
    have steps : escape ≠ .none → (c :: rest ∈ escape.pending * body ↔
        ∃ left, escape.next? c = some left ∧ rest ∈ left.pending * body) := by
      intro inside
      cases escape with
      | none => exact absurd rfl inside
      | opened => exact Escape.opened_pending
      | digits base owed => exact Escape.digits_pending owes
    by_cases inside : escape = .none
    · subst inside
      rw [Escape.pending, one_mul, cons_body, List.map_cons]
      by_cases closes : c = '"'
      · subst closes
        simp [quotedString, here, Reading.Takes]
      by_cases feed : c = '\n'
      · subst feed
        simp [quotedString, here, Reading.Takes]
      rw [quotedString_goes here closes feed, front]
      by_cases escapes : c = '\\'
      · rw [if_pos escapes, @ih .opened trivial later]
        simp [escapes, Escape.pending]
      · rw [if_neg escapes, @ih .none trivial later]
        simp [closes, feed, escapes, Escape.pending]
    · rw [steps inside, List.map_cons, quotedString_escape inside]
      cases next : escape.next? c with
      | none => simp [Reading.Takes]
      | some left =>
        rw [front, ih (Escape.next?_owes next) later]
        simp

section Token
variable {rest : List Atom}

theorem token_backtick (rest : List Atom) : token backtick rest = ((rawString rest).after [backtick], .yes) := by
  have letter : isLetter '\x60' = false := by decide
  simp [token, letter, isDigitOf, digitValue?, byteOrderMark, backtick]

theorem token_quote (rest : List Atom) : token '"' rest = ((quotedString .none rest).after ['"'], .yes) := by
  have letter : isLetter '"' = false := by decide
  simp [token, letter, isDigitOf, digitValue?, byteOrderMark, backtick]

theorem token_delimited (accepted : (token c rest).1.ending = .accepted .string) : c = backtick ∨ c = '"' := by
  have starts := token_starts c rest
  generalize token c rest = found at starts accepted
  cases starts with
  | name letter => exact absurd (Ending.accepted.inj accepted) (keywordOr_other _ (by simp) (by simp))
  | negative => exact absurd accepted ((negative_among rest).absent (by simp))
  | number => exact absurd accepted ((number_among c rest).absent (by simp))
  | fraction => exact absurd accepted ((fraction_among rest).absent (by simp))
  | rawString mark => exact .inl mark
  | quotedString mark => exact .inr mark
  | slash => exact absurd accepted ((slash_among rest).absent (by simp))
  | single other =>
    cases accepted
    simp at other
  | stopped => cases accepted

theorem token_string (allowed : ∀ c ∈ text, forbidden? (.char c) = none) :
    (token c (text.map .char)).1.Takes (c :: text) .string ↔ c :: text ∈ string := by
  rw [string, Language.mem_add, raw, quoted, doubleQuote, cons_character_mul, cons_character_mul, decide_eq_true_eq,
    decide_eq_true_eq]
  by_cases isRaw : c = backtick
  · subst isRaw
    have other : backtick ≠ '"' := by decide
    have front := Reading.takes_after (rawString (text.map .char)) [backtick] text .string
    rw [token_backtick, ← rawString_takes allowed]
    simp only [other, true_and, false_and, or_false]
    exact front
  · by_cases isQuoted : c = '"'
    · subst isQuoted
      have front := Reading.takes_after (quotedString .none (text.map .char)) ['"'] text .string
      have takes : (quotedString .none (text.map .char)).Takes text .string ↔ text ∈ 1 * body :=
        quotedString_takes trivial allowed
      rw [one_mul] at takes
      rw [token_quote]
      simp only [isRaw, true_and, false_and, false_or]
      exact front.trans takes
    · simp only [isRaw, isQuoted, false_and, or_self, iff_false]
      intro takes
      rcases token_delimited (congrArg Reading.ending takes) with here | here
      · exact isRaw here
      · exact isQuoted here

end Token
end Scan
end WireSchema

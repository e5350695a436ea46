import Mathlib
import WireSchema.Binding
import WireSchema.Proofs.Grammar.TypeReads
import WireSchema.Proofs.Literals.Tokens
import WireSchema.Proofs.Token.Printed

-- What the size of an array has to do with the number that its literal means. Only decimal digits count for a size, and
-- they count as decimal ones also behind a zero.
namespace WireSchema
open Text

namespace Literal
variable {text : List Char}

def ofDigits (base : Nat) (digits : List Char) : Nat :=
  Nat.ofDigits base (digits.reverse.map fun c => (digitValue? c).getD 0)

inductive Counts : List Char → Nat → Prop where
  | hexadecimal {mark : Char} {digits : List Char} (isMark : Scan.isHexMark mark = true) (some : digits ≠ [])
    (all : ∀ c ∈ digits, hexadecimal c = true) : Counts ('0' :: mark :: digits) (ofDigits 16 digits)
  | octal {digits : List Char} (all : ∀ c ∈ digits, octal c = true) : Counts ('0' :: digits) (ofDigits 8 digits)
  | decimal {first : Char} {digits : List Char} (leads : between '1' '9' first = true)
    (others : ∀ c ∈ digits, decimal c = true) : Counts (first :: digits) (ofDigits 10 (first :: digits))

inductive Means : List Char → Int → Prop where
  | plain {text : List Char} {n : Nat} (counts : Counts text n) : Means text n
  | negative {text : List Char} {n : Nat} (counts : Counts text n) : Means ('-' :: text) (-n)

theorem counts_iff : (∃ n, Counts text n) ↔ text ∈ natural := by
  constructor
  · rintro ⟨_, counts⟩
    cases counts with
    | hexadecimal isMark some all =>
      exact .inl (.inl (cons_character_mul.mpr ⟨rfl, cons_character_mul.mpr ⟨isMark, mem_row.mpr ⟨some, all⟩⟩⟩))
    | octal all => exact .inl (.inr (cons_character_mul.mpr ⟨rfl, mem_characters.mpr all⟩))
    | decimal leads others => exact .inr (cons_character_mul.mpr ⟨leads, mem_characters.mpr others⟩)
  · intro inside
    cases text with
    | nil => exact absurd (natural_starts inside) (by simp)
    | cons first rest =>
      rcases inside with (inside | inside) | inside <;> obtain ⟨leads, behind⟩ := cons_character_mul.mp inside
      · obtain rfl := of_decide_eq_true leads
        cases rest with
        | nil => exact absurd behind nil_character_mul
        | cons mark digits =>
          obtain ⟨isMark, row⟩ := cons_character_mul.mp behind
          obtain ⟨some, all⟩ := mem_row.mp row
          exact ⟨_, .hexadecimal isMark some all⟩
      · obtain rfl := of_decide_eq_true leads
        exact ⟨_, .octal (mem_characters.mp behind)⟩
      · exact ⟨_, .decimal leads (mem_characters.mp behind)⟩

theorem hexMark_undigit {c : Char} (mark : Scan.isHexMark c = true) : decimal c = false := by
  rcases (by simpa [Scan.isHexMark] using mark : c = 'x' ∨ c = 'X') with rfl | rfl <;> rfl

theorem hexMark_unoctal {c : Char} {rest : List Char} (mark : Scan.isHexMark c = true) :
    ¬ ∀ d ∈ c :: rest, octal d = true := by
  intro all
  have digit := octal_decimal (all c List.mem_cons_self)
  rw [hexMark_undigit mark] at digit
  cases digit

theorem Counts.unique {n m : Nat} (one : Counts text n) (other : Counts text m) : n = m := by
  have zero : between '1' '9' '0' = false := rfl
  cases one with
  | hexadecimal isMark =>
    cases other with
    | hexadecimal => rfl
    | octal all => exact absurd all (hexMark_unoctal isMark)
    | decimal leads => simp [zero] at leads
  | octal all =>
    cases other with
    | hexadecimal isMark => exact absurd all (hexMark_unoctal isMark)
    | octal => rfl
    | decimal leads => simp [zero] at leads
  | decimal leads =>
    cases other with
    | hexadecimal | octal => simp [zero] at leads
    | decimal => rfl

theorem counts_starts {n : Nat} (counts : Counts text n) : text.head?.any decimal = true :=
  natural_starts (counts_iff.mp ⟨n, counts⟩)

theorem means_iff : (∃ n, Means text n) ↔ text ∈ integer := by
  rw [integer, mem_optional_mul, ← counts_iff]
  constructor
  · rintro ⟨_, means⟩
    cases means with
    | plain counts => exact .inl ⟨_, counts⟩
    | negative counts => exact .inr (cons_character_mul.mpr ⟨rfl, counts_iff.mp ⟨_, counts⟩⟩)
  · rintro (⟨n, counts⟩ | inside)
    · exact ⟨_, .plain counts⟩
    · cases text with
      | nil => exact absurd inside nil_character_mul
      | cons sign rest =>
        obtain ⟨isSign, behind⟩ := cons_character_mul.mp inside
        obtain rfl := of_decide_eq_true isSign
        obtain ⟨n, counts⟩ := counts_iff.mpr behind
        exact ⟨_, .negative counts⟩

theorem Means.unique {n m : Int} (one : Means text n) (other : Means text m) : n = m := by
  have unsigned : ∀ {rest : List Char} {n : Nat}, ¬ Counts ('-' :: rest) n :=
    fun counts => Bool.false_ne_true (counts_starts counts)
  cases one with
  | plain counts =>
    cases other with
    | plain same => rw [counts.unique same]
    | negative => exact absurd counts unsigned
  | negative counts =>
    cases other with
    | plain same => exact absurd same unsigned
    | negative same => rw [counts.unique same]

theorem means_hexadecimal {mark : Char} {digits : List Char} (isMark : Scan.isHexMark mark = true)
    (inside : '0' :: mark :: digits ∈ integer) : Means ('0' :: mark :: digits) (ofDigits 16 digits) := by
  obtain ⟨n, means⟩ := means_iff.mpr inside
  cases means with
  | plain counts =>
    cases counts with
    | hexadecimal _ some all => exact .plain (.hexadecimal isMark some all)
    | octal all => exact absurd all (hexMark_unoctal isMark)
    | decimal leads => cases leads

theorem value_eq (digits : List Char) : Decimal.value digits = ofDigits 10 digits := by
  rw [ofDigits, Nat.ofDigits_eq_foldr, List.foldr_map, List.foldr_reverse, Decimal.value]
  congr 1
  funext sum c
  simp
  omega

theorem ofDigits_zero (base : Nat) (digits : List Char) : ofDigits base ('0' :: digits) = ofDigits base digits := by
  have zero : digitValue? '0' = some 0 := rfl
  simp [ofDigits, Nat.ofDigits_append, zero]

end Literal

namespace Scan
open Literal

theorem token_integer {c : Char} {rest : List Atom} (accepted : (token c rest).1.ending = .accepted .integer) :
    (token c rest).1.taken ∈ integer := by
  have uncommented : ¬ ['/', '/'] <+: (token c rest).1.taken := by
    intro slashes
    cases token_comment_of_slashes accepted slashes
  have stops : Stops (token c rest).1.rest [] := fun _ _ _ => rfl
  obtain ⟨tail, taken, read⟩ := token_apart accepted (fun slashes => absurd slashes uncommented) (.inr (.inr stops))
  have takes : (token c (tail.map .char)).1.Takes (c :: tail) .integer := by
    rw [List.append_nil] at read
    rw [read, Reading.before, taken, accepted]
    rfl
  rw [taken]
  simpa using (token_numeral (by simp)).mp takes

end Scan

theorem Scanner.next_integer {limit : Nat} {file : String} (s : Scanner)
    (isNumber : (s.next limit file).1.kind = .integer) : (s.next limit file).1.text.toList ∈ Literal.integer := by
  have step := next_step (show (s.next limit file).1.kind ≠ .endOfFile by rw [isNumber]; simp)
  generalize s.next limit file = read at step isNumber
  cases step with
  | terminator => cases isNumber
  | @reading r closing found =>
    obtain ⟨accepted, taken⟩ := kindAndText_eq (Prod.ext isNumber rfl) (by simp [TokenKind.IsWritten])
    rcases Scan.front_token found with ⟨error, rejected⟩ | ⟨c, rest, _, same⟩
    · cases accepted.symm.trans rejected
    · have inside := Scan.token_integer (show (Scan.token c rest).1.ending = .accepted .integer by rw [same, accepted])
      rw [same, taken] at inside
      exact inside

theorem Token.allOf_integers (limit : Nat) (file : String) (source : List UInt8) :
    ∀ token ∈ (allOf limit file source).1, token.kind = .integer → token.text.toList ∈ Literal.integer :=
  fun token member => ((@Scanner.tokens_all limit file
    (fun token => token.kind = .integer → token.text.toList ∈ Literal.integer)
    Scanner.next_integer (.start (decode source))).1 token member).1

namespace Grammar
open Reader Literal
variable {t : Tape} {element : ValueType Unit}

def sizeOf? (n : Int) : Option UInt32 := if 0 < n ∧ n ≤ 4294967295 then some (.ofNat n.toNat) else none

theorem arraySize?_digits {literal : String} (some_ : literal.toList ≠ [])
    (digits : ∀ c ∈ literal.toList, decimal c = true) : arraySize? literal = sizeOf? (ofDigits 10 literal.toList) := by
  have natural : Decimal.natural? literal.toList = some (ofDigits 10 literal.toList) := by
    have all : literal.toList.all (isDigitOf 10) = true := by rwa [isDigitOf_ten, List.all_eq_true]
    rw [Decimal.natural?, List.isEmpty_eq_false_iff.mpr some_, all, value_eq]
    rfl
  rw [arraySize?, natural, sizeOf?]
  dsimp only
  by_cases range : 0 < ofDigits 10 literal.toList ∧ ofDigits 10 literal.toList < 4294967296
  · rw [if_pos range, if_pos (by omega), Int.toNat_natCast]
  · rw [if_neg range, if_neg (by omega)]

theorem arraySize?_undigit {literal : String} {c : Char} (member : c ∈ literal.toList) (undigit : decimal c = false) :
    arraySize? literal = none := by
  have other : literal.toList.all (isDigitOf 10) = false := by
    rw [isDigitOf_ten, List.all_eq_false]
    exact ⟨c, member, by simp [undigit]⟩
  have none : Decimal.natural? literal.toList = none := by simp [Decimal.natural?, other]
  rw [arraySize?, none]

theorem arraySize?_means {literal : String} (unzeroed : literal.toList.head? ≠ some '0') {n : Int}
    (means : Means literal.toList n) : arraySize? literal = sizeOf? n := by
  generalize spelled : literal.toList = text at unzeroed means
  cases means with
  | plain counts =>
    cases counts with
    | hexadecimal | octal => exact absurd rfl unzeroed
    | decimal leads others =>
      rw [arraySize?_digits (by simp [spelled]), spelled]
      rw [spelled, List.forall_mem_cons]
      exact ⟨decimal_iff.mpr (.inr leads), others⟩
  | negative =>
    rw [arraySize?_undigit (c := '-') (by simp [spelled]) rfl]
    exact (if_neg (by omega)).symm

-- A place with an array that has a number between its brackets, and the element that is read behind them.
structure ArrayAt (t : Tape) (element : ValueType Unit) : Prop where
  opens : t.current.kind = .openBracket
  number : t.advance.current.kind = .integer
  closes : t.advance.advance.current.kind = .closeBracket
  element : (type t.advance.advance.advance).value = some element

-- The array comes out with a size, or with none and a report of its number. All else that is reported is what is wrong
-- with its element, or that this is an array.
structure Sized (t : Tape) (element : ValueType Unit) (size : Option UInt32) : Prop where
  value : (type t).value = some (.array (size.getD 0) element)
  problems : (type t).problems =
    (if size.isNone then [⟨t.advance.current.position, .arraySize t.advance.current.text⟩] else []) ++
      (type t.advance.advance.advance).problems ++
      if element.isArray then [⟨(type t.advance.advance.advance).tape.current.position,
        .nestedArray (ValueType.array (size.getD 0) element).text⟩] else []

theorem type_sized (proper : t.Proper) (array : ArrayAt t element) :
    Sized t element (arraySize? t.advance.current.text) := by
  have step : type t = arrayWith type t := by
    rw [type_eq proper]
    simp [typeWith, bind_apply, array.opens]
  constructor
  · simp [step, arrayWith, bind_apply, arraySize_apply, array.number, expect_apply, array.closes, array.element,
      arrayOf_apply]
  · cases nested : element.isArray <;> simp [step, arrayWith, bind_apply, arraySize_apply, array.number, expect_apply,
      array.closes, array.element, arrayOf_apply, Option.filter, nested]

theorem ArrayAt.integer {limit : Nat} {file : String} {source : List UInt8}
    (leads : (Tape.ofTokens (Token.allOf limit file source)).Leads t) (array : ArrayAt t element) :
    t.advance.current.text.toList ∈ Literal.integer := by
  have later := leads.trans (Tape.leads_advance t)
  have proper := (Tape.ofSource_proper limit file source).leads later
  have member : t.advance.current ∈ t.advance.ahead := by
    rw [proper.ahead_eq (by rw [array.number]; simp)]
    exact List.mem_cons_self
  exact Token.allOf_integers limit file source _ (Tape.ofTokens_among (later.1.subset member)) array.number

-- In every source, a decimal number without a sign is the size of its array if it is one that a size can be, and is
-- reported if not. So are numbers with a sign. Behind a zero the digits are read as decimal ones as well, which is not
-- what they mean, and a hexadecimal number is always reported.
theorem array_sizes (limit : Nat) (file : String) (source : List UInt8)
    (leads : (Tape.ofTokens (Token.allOf limit file source)).Leads t) (array : ArrayAt t element) :
    (∃! n, Means t.advance.current.text.toList n) ∧
      (t.advance.current.text.toList.head? ≠ some '0' →
        ∀ n, Means t.advance.current.text.toList n → Sized t element (sizeOf? n)) ∧
      (∀ digits, t.advance.current.text.toList = '0' :: digits → (∀ c ∈ digits, octal c = true) →
        Means t.advance.current.text.toList (ofDigits 8 digits) ∧ Sized t element (sizeOf? (ofDigits 10 digits))) ∧
      ∀ mark digits, t.advance.current.text.toList = '0' :: mark :: digits → Scan.isHexMark mark = true →
        Means t.advance.current.text.toList (ofDigits 16 digits) ∧ Sized t element none := by
  have integer := array.integer leads
  have sized := type_sized ((Tape.ofSource_proper limit file source).leads leads) array
  generalize literalEq : t.advance.current.text = literal at integer sized ⊢
  refine ⟨?_, ?_, ?_, ?_⟩
  · obtain ⟨n, means⟩ := means_iff.mpr integer
    exact ⟨n, means, fun _ other => other.unique means⟩
  · intro unzeroed n means
    rw [← arraySize?_means unzeroed means]
    exact sized
  · intro digits spelled all
    rw [spelled]
    refine ⟨.plain (.octal all), ?_⟩
    have decimals : ∀ c ∈ literal.toList, decimal c = true := by
      rw [spelled, List.forall_mem_cons]
      exact ⟨rfl, fun c member => octal_decimal (all c member)⟩
    rwa [arraySize?_digits (by simp [spelled]) decimals, spelled, ofDigits_zero] at sized
  · intro mark digits spelled isMark
    rw [spelled] at integer ⊢
    refine ⟨means_hexadecimal isMark integer, ?_⟩
    rwa [arraySize?_undigit (c := mark) (by simp [spelled]) (hexMark_undigit isMark)] at sized

end Grammar

namespace OctalSize
open Grammar

def place (column : Nat) : Position := ⟨"", 1, column⟩

theorem tokens : Token.allOf Token.defaultLimit "" (encode "[010]int".toList) = ([
    ⟨.openBracket, "[", place 1⟩, ⟨.integer, "010", place 2⟩, ⟨.closeBracket, "]", place 5⟩,
    ⟨.identifier, "int", place 6⟩, ⟨.semicolon, "\n", place 9⟩], ⟨.endOfFile, "", place 9⟩) := by
  exact Token.allOf_first (n := 5) rfl rfl (by decide) rfl

def tape : Tape := .ofTokens (Token.allOf Token.defaultLimit "" (encode "[010]int".toList))

theorem arrayAt : ArrayAt tape (.int 0 false) := by
  unfold tape
  rw [tokens]
  exact ⟨rfl, rfl, rfl, by cbv⟩

theorem octal_digits : ∀ c ∈ ['1', '0'], Literal.octal c = true := by
  rw [List.forall_mem_cons, List.forall_mem_singleton]
  exact ⟨rfl, rfl⟩

theorem decimal_size : Sized tape (.int 0 false) (some 10) := by
  have leads : (Tape.ofTokens (Token.allOf Token.defaultLimit "" (encode "[010]int".toList))).Leads tape := .refl _
  have spelled : tape.advance.current.text.toList = ['0', '1', '0'] := by
    unfold tape
    rw [tokens]
    rfl
  exact ((array_sizes Token.defaultLimit "" _ leads arrayAt).2.2.1 ['1', '0'] spelled octal_digits).2

def source : List UInt8 := encode "package p; struct S \x7b F [010]int \"1\" \x7d".toList

theorem sourceTokens : Token.allOf Token.defaultLimit "" source = ([
    ⟨.keyword .package, "package", place 1⟩, ⟨.identifier, "p", place 9⟩, ⟨.semicolon, ";", place 10⟩,
    ⟨.keyword .struct, "struct", place 12⟩, ⟨.identifier, "S", place 19⟩, ⟨.openBrace, "\x7b", place 21⟩,
    ⟨.identifier, "F", place 23⟩, ⟨.openBracket, "[", place 25⟩, ⟨.integer, "010", place 26⟩,
    ⟨.closeBracket, "]", place 29⟩, ⟨.identifier, "int", place 30⟩, ⟨.string, "\"1\"", place 34⟩,
    ⟨.closeBrace, "\x7d", place 38⟩, ⟨.semicolon, "\n", place 39⟩], ⟨.endOfFile, "", place 39⟩) := by
  exact Token.allOf_first (n := 14) rfl rfl (by decide) rfl

def file : SourceFile where
  name := ""
  doc := []
  package := ⟨place 1, "p"⟩
  imports := ∅
  declarations := [.struct ⟨place 12, [], "S", [⟨place 23, "F", .array 10 (.int 0 false), 1, ∅⟩]⟩]
  symbols := ⟨[⟨"S", some (.declaration 0)⟩], [("S", 0)]⟩

theorem understood : SourceFile.understand "" source = (file, []) := by
  have bound : SourceFile.bound "" source = ⟨file, [], []⟩ := by
    rw [SourceFile.bound, sourceTokens]
    cbv
  rw [SourceFile.understand, bound]
  cbv

-- The number means eight, and its array comes out with ten elements.
theorem misread : Literal.Means "010".toList 8 ∧ SourceFile.understand "" source = (file, []) ∧
    ¬ ∀ (t : Tape) (element : ValueType Unit), (Tape.ofTokens (Token.allOf Token.defaultLimit ""
      (encode "[010]int".toList))).Leads t → ArrayAt t element →
      ∀ n, Literal.Means t.advance.current.text.toList n → Sized t element (sizeOf? n) := by
  have means : Literal.Means "010".toList 8 := .plain (.octal octal_digits)
  refine ⟨means, understood, fun every => ?_⟩
  have spelled : tape.advance.current.text = "010" := by
    unfold tape
    rw [tokens]
    rfl
  have sized := every tape _ (.refl _) arrayAt 8 (by rw [spelled]; exact means)
  have ten := type_sized (show tape.Proper from Tape.ofSource_proper _ _ _) arrayAt
  rw [spelled] at ten
  have eight := Option.some.inj (ten.value.symm.trans sized.value)
  revert eight
  decide

end OctalSize
end WireSchema

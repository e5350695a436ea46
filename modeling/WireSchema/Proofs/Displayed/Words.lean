import WireSchema.Proofs.Grammar.Forward
import WireSchema.Proofs.Text.Numerals
import WireSchema.Proofs.Token.Words
import WireSchema.ValueType

-- A type is displayed as words with nothing between them, and the scanner tells these words apart.
namespace WireSchema
open Text

structure IsIdentifier (text : String) : Prop where
  spelled : ∃ first rest, text.toList = first :: rest ∧ isLetter first = true ∧ ∀ c ∈ rest, isNameCharacter c = true
  unkeyed : Keyword.ofText? text = none

def isIdentifier (text : String) : Bool :=
  match text.toList with
  | [] => false
  | first :: rest => isLetter first && rest.all isNameCharacter && (Keyword.ofText? text).isNone

theorem isIdentifier_iff {text : String} : isIdentifier text = true ↔ IsIdentifier text := by
  unfold isIdentifier
  constructor
  · intro holds
    split at holds
    · cases holds
    · rename_i first rest written
      simp only [Bool.and_eq_true, List.all_eq_true, Option.isNone_iff_eq_none] at holds
      exact ⟨⟨first, rest, written, holds.1.1, holds.1.2⟩, holds.2⟩
  · rintro ⟨⟨first, rest, written, letter, others⟩, unkeyed⟩
    simp only [written, letter, List.all_eq_true.mpr others, unkeyed, Option.isNone_none, Bool.and_self]

instance (text : String) : Decidable (IsIdentifier text) := decidable_of_iff _ isIdentifier_iff

abbrev Word := TokenKind × String

def Word.text (w : Word) : List Char := w.2.toList

def spelling (words : List Word) : List Char := words.flatMap Word.text

namespace Scan

theorem run_all {p : Char → Bool} {text : List Char} {behind : List Atom} (holds : ∀ c ∈ text, p c = true)
    (stops : startsWith p behind = false) : run p (text.map .char ++ behind) = (text, behind) := by
  induction text with
  | nil => exact run_stopped stops
  | cons c rest ih =>
    obtain ⟨first, later⟩ := List.forall_mem_cons.mp holds
    simp [run, first, ih later]

theorem name_plain (first : Char) {rest : List Char} {behind : List Atom} (others : ∀ c ∈ rest, isNameCharacter c = true)
    (stops : startsWith isNameCharacter behind = false) :
    name first (rest.map .char ++ behind) = ⟨first :: rest, .accepted (keywordOr (first :: rest)), behind⟩ := by
  rw [name, run_all others stops]

def isNumberPart (c : Char) : Bool := isDigitOf 10 c || c = '.' || isExponentMark c

theorem number_plain {first : Char} {rest : List Char} {behind : List Atom} (nonzero : first ≠ '0')
    (others : ∀ c ∈ rest, isDigitOf 10 c = true) (stops : startsWith isNumberPart behind = false) :
    number first (rest.map .char ++ behind) = ⟨first :: rest, .accepted .integer, behind⟩ := by
  have apart : startsWith (isDigitOf 10) behind = false ∧ startsWith (· = '.') behind = false ∧
      startsWith isExponentMark behind = false := by
    cases behind with
    | nil => exact ⟨rfl, rfl, rfl⟩
    | cons atom behind =>
      cases atom with
      | stray byte => exact ⟨rfl, rfl, rfl⟩
      | char c => simpa [startsWith, isNumberPart, and_assoc] using stops
  obtain ⟨undigit, pointless, markless⟩ := apart
  have whole : wholePart behind = ⟨[], .accepted .integer, behind⟩ := by
    rw [wholePart, one_stopped pointless]
    simp [exponent, one_stopped markless]
  rw [number, if_neg nonzero, run_all others undigit]
  simp [whole, Reading.after]

end Scan

structure Lexes (w : Word) (behind : List Atom) : Prop where
  unblank : ∀ closable, Scan.startsWith (Scanner.isBlank closable) (w.text.map .char ++ behind) = false
  read : ∀ closable, ∃ closing, Scan.front closable (w.text.map .char ++ behind) =
    .reading ⟨w.text, .accepted w.1, behind⟩ closing ∧ (w.1 = .identifier → closing = .ofIdentifier)
  other : w.1 ≠ .comment ∧ w.1 ≠ .endOfFile

namespace Lexes
variable {text : String} {behind : List Atom}

theorem of_token {c : Char} {rest : List Char} {kind : TokenKind} {closing : Scan.Closing}
    (written : text.toList = c :: rest) (plain : c ≠ '\x00' ∧ c ≠ '/' ∧ Scanner.isBlank false c = false)
    (read : Scan.token c (rest.map .char ++ behind) = (⟨c :: rest, .accepted kind, behind⟩, closing))
    (closes : kind = .identifier → closing = .ofIdentifier) (other : kind ≠ .comment ∧ kind ≠ .endOfFile) :
    Lexes (kind, text) behind := by
  have spelled : Word.text (kind, text) = c :: rest := written
  refine ⟨?_, ?_, other⟩
  · intro closable
    rw [spelled]
    have unblank := plain.2.2
    cases closable with
    | false => exact unblank
    | true =>
      simp only [Scanner.isBlank, Bool.not_false, Bool.and_true, Bool.or_eq_false_iff] at unblank
      simp [Scan.startsWith, Scanner.isBlank, unblank]
  · intro closable
    rw [spelled]
    refine ⟨closing, ?_, closes⟩
    have found : Scan.front closable (.char c :: (rest.map .char ++ behind)) = _ :=
      Scan.front_token_eq plain.1 (fun mark => plain.2.1 mark.1) _
    rw [read] at found
    exact found

theorem letter_plain {c : Char} (letter : isLetter c = true) : c ≠ '\x00' ∧ c ≠ '/' ∧ Scanner.isBlank false c = false := by
  refine ⟨?_, ?_, ?_⟩
  · rintro rfl
    exact absurd letter (by decide)
  · rintro rfl
    exact absurd letter (by decide)
  · have opens : Scan.Opens [.char c] := .inr letter
    exact opens.unblank false

theorem name {first : Char} {rest : List Char} (written : text.toList = first :: rest) (letter : isLetter first = true)
    (others : ∀ c ∈ rest, isNameCharacter c = true) (stops : Scan.startsWith isNameCharacter behind = false) :
    Lexes (Scan.keywordOr (first :: rest), text) behind := by
  have read : Scan.token first (rest.map .char ++ behind) =
      (⟨first :: rest, .accepted (Scan.keywordOr (first :: rest)), behind⟩, .ofIdentifier) := by
    rw [Scan.token, if_pos letter, Scan.name_plain first others stops]
  exact of_token written (letter_plain letter) read (fun _ => rfl)
    ⟨Scan.keywordOr_other _ (by simp) (by simp), Scan.keywordOr_other _ (by simp) (by simp)⟩

theorem identifier (isIdentifier : IsIdentifier text) (stops : Scan.startsWith isNameCharacter behind = false) :
    Lexes (.identifier, text) behind := by
  obtain ⟨first, rest, written, letter, others⟩ := isIdentifier.spelled
  have plain : Scan.keywordOr (first :: rest) = .identifier := by
    rw [← written, Scan.keywordOr, String.ofList_toList, isIdentifier.unkeyed]
  exact plain ▸ name written letter others stops

theorem mapWord (stops : Scan.startsWith isNameCharacter behind = false) : Lexes (.keyword .map, "map") behind := by
  have letters : isLetter 'm' = true ∧ isNameCharacter 'a' = true ∧ isNameCharacter 'p' = true := by decide
  have spelled : "map".toList = ['m', 'a', 'p'] := by decide
  exact name spelled letters.1 (by simpa using letters.2) stops

theorem number {n : Nat} (positive : 0 < n) (stops : Scan.startsWith Scan.isNumberPart behind = false) :
    Lexes (.integer, Decimal.text n) behind := by
  obtain ⟨first, rest, written, nonzero, unlettered⟩ := Decimal.digits_first positive
  have digits := Decimal.digits_digit n
  rw [written] at digits
  obtain ⟨digit, others⟩ := List.forall_mem_cons.mp digits
  have apart := Decimal.digit_ne digit
  have read : Scan.token first (rest.map .char ++ behind) = (⟨first :: rest, .accepted .integer, behind⟩, .yes) := by
    rw [Scan.token, if_neg (by simp [unlettered]), if_neg (apart '-' rfl), if_pos digit,
      Scan.number_plain nonzero others stops]
  refine of_token ((Decimal.text_natural n).trans written) ⟨apart _ rfl, apart _ rfl, ?_⟩ read (by simp) (by simp)
  simp [Scanner.isBlank, apart ' ' rfl, apart '\t' rfl, apart '\r' rfl, apart '\n' rfl]

theorem mark {w : Word} (among : w ∈ [(TokenKind.openBracket, "["), (.closeBracket, "]"), (.asterisk, "*")])
    (behind : List Atom) : Lexes w behind := by
  have unlettered : isLetter '[' = false ∧ isLetter ']' = false ∧ isLetter '*' = false := by decide
  have read : ∀ c kind, Scan.punctuation? c = some kind → c ∈ ['[', ']', '*'] →
      ∃ closing, Scan.token c behind = (⟨[c], .accepted kind, behind⟩, closing) := by
    intro c kind means member
    have plain : isLetter c = false ∧ c ≠ '-' ∧ isDigitOf 10 c = false ∧ c ≠ byteOrderMark ∧ c ≠ Scan.backtick ∧
        c ≠ '"' ∧ c ≠ '.' ∧ c ≠ '/' := by
      simp only [List.mem_cons, List.not_mem_nil, or_false] at member
      rcases member with rfl | rfl | rfl <;> simp [unlettered] <;> decide
    simp [Scan.token, plain, means, Scan.single, Scan.Reading.after]
  simp only [List.mem_cons, List.not_mem_nil, or_false] at among
  rcases among with rfl | rfl | rfl
  · obtain ⟨closing, read⟩ := read '[' .openBracket rfl (by simp)
    exact of_token (by decide : "[".toList = ['[']) (by decide) read (by simp) (by simp)
  · obtain ⟨closing, read⟩ := read ']' .closeBracket rfl (by simp)
    exact of_token (by decide : "]".toList = [']']) (by decide) read (by simp) (by simp)
  · obtain ⟨closing, read⟩ := read '*' .asterisk rfl (by simp)
    exact of_token (by decide : "*".toList = ['*']) (by decide) read (by simp) (by simp)

theorem point (stops : Scan.startsWith (isDigitOf 10) behind = false) : Lexes (.period, ".") behind := by
  have unlettered : isLetter '.' = false := by decide
  have read : Scan.token '.' behind = (⟨['.'], .accepted .period, behind⟩, .no) := by
    have undigit : isDigitOf 10 '.' = false := rfl
    simp [Scan.token, unlettered, undigit, stops, byteOrderMark, Scan.backtick, Scan.single, Scan.Reading.after]
  exact of_token (by decide : ".".toList = ['.']) (by decide) read (by simp) (by simp)

end Lexes

def LexesAll : List Word → List Atom → Prop
  | [], _ => True
  | w :: rest, behind => Lexes w ((spelling rest).map .char ++ behind) ∧ LexesAll rest behind

theorem spelling_append (front back : List Word) : spelling (front ++ back) = spelling front ++ spelling back :=
  List.flatMap_append

theorem LexesAll.append {front back : List Word} {behind : List Atom}
    (first : LexesAll front ((spelling back).map .char ++ behind)) (later : LexesAll back behind) :
    LexesAll (front ++ back) behind := by
  induction front with
  | nil => exact later
  | cons w rest ih =>
    refine ⟨?_, ih first.2⟩
    have lexes := first.1
    rwa [← List.append_assoc, ← List.map_append, ← spelling_append] at lexes

namespace Scanner
variable {limit : Nat} {file : String}

theorem next_word {w : Word} {behind : List Atom} (lexes : Lexes w behind) (fits : byteCount w.text ≤ limit) (place : Place)
    (closable : Bool) : ∃ after, (w.1 = .identifier → after = true) ∧
      next limit file ⟨w.text.map .char ++ behind, place, closable⟩ =
        (⟨w.1, w.2, ⟨file, place.line, place.column⟩⟩, ⟨behind, place.pastAll w.text, after⟩) := by
  obtain ⟨closing, found, ofIdentifier⟩ := lexes.read closable
  have uncommented : lexeme w.1 w.text = w.text := if_neg fun both => lexes.other.1 both.1
  have content : kindAndText limit ⟨w.text, .accepted w.1, behind⟩ = (w.1, w.2) := by
    rw [kindAndText]
    dsimp only
    rw [if_neg (Nat.not_lt.mpr fits), uncommented, Word.text, String.ofList_toList]
  refine ⟨closes closing closable w.1, ?_, ?_⟩
  · intro identifier
    rw [ofIdentifier identifier, identifier]
    rfl
  · rw [next_reading (lexes.unblank closable) found, content]
    rfl

theorem next_long {w : Word} {behind : List Atom} (lexes : Lexes w behind) (long : limit < byteCount w.text)
    (place : Place) (closable : Bool) :
    (next limit file ⟨w.text.map .char ++ behind, place, closable⟩).1.kind = .invalid .overflow := by
  obtain ⟨closing, found, _⟩ := lexes.read closable
  have content : kindAndText limit ⟨w.text, .accepted w.1, behind⟩ = (.invalid .overflow, "") := if_pos long
  rw [next_reading (lexes.unblank closable) found, content]

theorem start_word {w : Word} {behind : List Atom} (lexes : Lexes w behind) :
    start (w.text.map .char ++ behind) = ⟨w.text.map .char ++ behind, .start, false⟩ := by
  obtain ⟨closing, found, _⟩ := lexes.read false
  refine start_plain fun rest mark => ?_
  rw [mark, Scan.front_mark] at found
  simp at found

theorem tokens_word {w : Word} {behind : List Atom} (lexes : Lexes w behind) (fits : byteCount w.text ≤ limit)
    (place : Place) (closable : Bool) : ∃ token after, token.word = w ∧ (w.1 = .identifier → after = true) ∧
      tokens limit file ⟨w.text.map .char ++ behind, place, closable⟩ =
        (token :: (tokens limit file ⟨behind, place.pastAll w.text, after⟩).1,
          (tokens limit file ⟨behind, place.pastAll w.text, after⟩).2) := by
  obtain ⟨after, ofIdentifier, read⟩ := next_word lexes fits place closable
  have more : (next limit file ⟨w.text.map .char ++ behind, place, closable⟩).1.kind ≠ .endOfFile := by
    rw [read]
    exact lexes.other.2
  refine ⟨⟨w.1, w.2, ⟨file, place.line, place.column⟩⟩, after, rfl, ofIdentifier, ?_⟩
  rw [tokens_more more, read]

theorem tokens_terminator (place : Place) : tokens limit file ⟨[], place, true⟩ =
    ([⟨.semicolon, "\n", ⟨file, place.line, place.column⟩⟩], ⟨.endOfFile, "", ⟨file, place.line, place.column⟩⟩) := by
  rw [tokens_more (by simp [next, Scan.run, Scan.front]), tokens_ended (by rfl)]
  rfl

theorem tokens_words {words : List Word} (lexes : LexesAll words []) (fits : ∀ w ∈ words, byteCount w.text ≤ limit)
    (last : ∃ w ∈ words.getLast?, w.1 = .identifier) (place : Place) (closable : Bool) :
    ∃ front, front.map Token.word = words ∧ tokens limit file ⟨(spelling words).map .char, place, closable⟩ =
      (front ++ (tokens limit file ⟨[], place.pastAll (spelling words), true⟩).1,
        (tokens limit file ⟨[], place.pastAll (spelling words), true⟩).2) := by
  induction words generalizing place closable with
  | nil =>
    obtain ⟨w, member, _⟩ := last
    cases member
  | cons w rest ih =>
    obtain ⟨here, later⟩ := List.forall_mem_cons.mp fits
    have spelled : spelling (w :: rest) = w.text ++ spelling rest := rfl
    have first : Lexes w ((spelling rest).map .char) := by simpa using lexes.1
    obtain ⟨token, after, same, ofIdentifier, read⟩ := tokens_word first here place closable
    rw [spelled, List.map_append, read, Place.pastAll_append]
    cases rest with
    | nil =>
      obtain ⟨_, member, identifier⟩ := last
      cases member
      rw [ofIdentifier identifier]
      exact ⟨[token], congrArg (· :: []) same, rfl⟩
    | cons next more =>
      rw [List.getLast?_cons_cons] at last
      obtain ⟨front, words, found⟩ := ih lexes.2 later last (place.pastAll w.text) after
      rw [found]
      exact ⟨token :: front, by rw [List.map_cons, same, words], rfl⟩

end Scanner

theorem LexesAll.uncommented {words : List Word} {behind : List Atom} (lexes : LexesAll words behind) :
    ∀ w ∈ words, w.1 ≠ .comment := by
  induction words with
  | nil => simp
  | cons w rest ih => exact List.forall_mem_cons.mpr ⟨lexes.1.other.1, ih lexes.2⟩

theorem Token.allOf_words {words : List Word} {limit : Nat} (lexes : LexesAll words [])
    (fits : ∀ w ∈ words, byteCount w.text ≤ limit) (last : ∃ w ∈ words.getLast?, w.1 = .identifier) (file : String) :
    ∃ front p, p = Place.start.pastAll (spelling words) ∧ front.map Token.word = words ∧
      allOf limit file (encode (spelling words)) =
        (front ++ [⟨.semicolon, "\n", ⟨file, p.line, p.column⟩⟩], ⟨.endOfFile, "", ⟨file, p.line, p.column⟩⟩) := by
  have starts : Scanner.start ((spelling words).map .char) = ⟨(spelling words).map .char, .start, false⟩ := by
    cases words with
    | nil => rfl
    | cons w rest =>
      have first : Lexes w ((spelling rest).map .char) := by simpa using lexes.1
      have starts := Scanner.start_word first
      rwa [← List.map_append] at starts
  obtain ⟨front, same, read⟩ := Scanner.tokens_words lexes fits last .start false
  refine ⟨front, _, rfl, same, ?_⟩
  rw [allOf, decode_encode, starts, read, Scanner.tokens_terminator]

theorem Grammar.current_long {w : Word} (lexes : Lexes w []) {limit : Nat} (long : limit < byteCount w.text)
    (file : String) :
    (Tape.ofTokens (Token.allOf limit file (encode w.text))).current.kind = .invalid .overflow := by
  have starts := Scanner.start_word lexes
  have first : (Scanner.next limit file ⟨w.text.map .char ++ [], .start, false⟩).1.kind = .invalid .overflow :=
    Scanner.next_long lexes long .start false
  rw [List.append_nil] at starts first
  rw [Documented.kind, Tape.ofTokens_current, Token.allOf, decode_encode, starts,
    Scanner.tokens_more (by rw [first]; simp)]
  simp [first]

end WireSchema

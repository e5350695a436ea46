import WireSchema.Proofs.Literals.Strings
import WireSchema.Proofs.Token.Tiling

-- A text is the first token of itself exactly if it is written as the grammar of its kind of literal says, or is a name
-- that is no keyword.
namespace WireSchema
open Text
open scoped Computability

namespace Literal
variable {text : String}

def keyword : Language Char := {text | ∃ word : Keyword, text = word.text.toList}

def identifier : Language Char :=
  character (fun c => c = '_' || isAlphabetic c) * (character fun c => c = '_' || isAlphabetic c || isNumeric c)∗ -
    keyword

theorem keyword_iff : text.toList ∈ keyword ↔ Keyword.ofText? text ≠ none := by
  constructor
  · rintro ⟨word, same⟩ none
    have unlisted := List.find?_eq_none.mp none word (by cases word <;> decide)
    exact unlisted (decide_eq_true (String.toList_inj.mp same).symm)
  · intro some
    obtain ⟨word, found⟩ := Option.ne_none_iff_exists'.mp some
    rw [Keyword.ofText?] at found
    have same := List.find?_some found
    exact ⟨word, congrArg String.toList (of_decide_eq_true same).symm⟩

theorem nil_integer : [] ∉ integer := by
  rw [integer, mem_optional_mul]
  rintro (inside | inside)
  · exact Bool.false_ne_true (natural_starts inside)
  · exact nil_character_mul inside

theorem nil_float : [] ∉ float := by
  rw [float, mem_optional_mul, positive_eq]
  rintro ((inside | inside) | inside)
  · exact Bool.false_ne_true (digits_start inside)
  · exact nil_character_mul inside
  · exact nil_character_mul inside

theorem nil_string : [] ∉ string := by
  rintro (inside | inside) <;> exact nil_character_mul inside

theorem nil_identifier : [] ∉ identifier := fun inside => nil_character_mul inside.1

theorem identifier_iff : text.toList ∈ identifier ↔ IsIdentifier text := by
  have name : identifier = character isLetter * (character isNameCharacter)∗ - keyword := rfl
  rw [name, Language.mem_sub, keyword_iff, not_not]
  constructor
  · rintro ⟨inside, unkeyed⟩
    cases spelled : text.toList with
    | nil =>
      rw [spelled] at inside
      exact absurd inside nil_character_mul
    | cons first rest =>
      rw [spelled, cons_character_mul, mem_characters] at inside
      exact ⟨⟨first, rest, spelled, inside⟩, unkeyed⟩
  · rintro ⟨⟨first, rest, spelled, letter, others⟩, unkeyed⟩
    rw [spelled, cons_character_mul, mem_characters]
    exact ⟨⟨letter, others⟩, unkeyed⟩

end Literal

def TokenKind.IsWritten (kind : TokenKind) : Prop := kind ∈ [.integer, .float, .string, .identifier]

namespace Scan
open Literal
variable {kind : TokenKind} {c : Char} {rest : List Atom}

theorem keywordOr_identifier {text : String} :
    keywordOr text.toList = .identifier ↔ Keyword.ofText? text = none := by
  rw [keywordOr, String.ofList_toList]
  cases Keyword.ofText? text <;> simp

theorem token_name {text : String} {first : Char} {rest : List Char} (spelled : text.toList = first :: rest) :
    (token first (rest.map .char)).1.Takes text.toList .identifier ↔ text.toList ∈ identifier := by
  rw [identifier_iff]
  constructor
  · intro takes
    obtain ⟨letter, read⟩ := token_identifier (congrArg Reading.ending takes)
    rw [read, name, run_chars] at takes
    obtain ⟨taken, ending, nothing⟩ := Reading.mk.inj takes
    rw [taken] at ending
    exact ⟨⟨first, rest, spelled, letter, List.dropWhile_eq_nil_iff.mp (List.map_eq_nil_iff.mp nothing)⟩,
      keywordOr_identifier.mp (Ending.accepted.inj ending)⟩
  · rintro ⟨⟨c, others, written, letter, named⟩, unkeyed⟩
    obtain ⟨rfl, rfl⟩ := List.cons.inj (spelled.symm.trans written)
    have read : name first (rest.map .char ++ []) = _ := name_plain first named rfl
    rw [List.append_nil, ← spelled, keywordOr_identifier.mpr unkeyed] at read
    rwa [token, if_pos letter]

theorem token_opens (written : kind.IsWritten) (accepted : (token c rest).1.ending = .accepted kind) :
    c ≠ '\x00' ∧ c ≠ '/' ∧ Scanner.isBlank false c = false := by
  have other : kind ∉ [.comment] ∧ ∀ c, punctuation? c ≠ some kind := by
    refine ⟨fun isComment => ?_, fun c mark => ?_⟩
    · rw [List.mem_singleton.mp isComment] at written
      simp [TokenKind.IsWritten] at written
    · unfold punctuation? at mark
      split at mark <;> cases mark <;> simp [TokenKind.IsWritten] at written
  have lexer := token_lexer c
  generalize token c = reads at lexer accepted
  cases lexer with
  | name letter => exact Lexes.letter_plain letter
  | negative | rawString | quotedString | point => decide
  | number digit =>
    have apart := Decimal.digit_ne digit
    refine ⟨apart _ rfl, apart _ rfl, ?_⟩
    simp [Scanner.isBlank, apart ' ' rfl, apart '\t' rfl, apart '\r' rfl, apart '\n' rfl]
  | slash => exact absurd accepted ((slash_among rest).absent other.1)
  | single mark =>
    cases accepted
    exact absurd mark (other.2 c)
  | stopped => cases accepted

end Scan

namespace Scanner
variable {limit : Nat} {file : String} {kind : TokenKind} {text : String}

theorem kindAndText_eq {r : Scan.Reading} (content : kindAndText limit r = (kind, text)) (written : kind.IsWritten) :
    r.ending = .accepted kind ∧ r.taken = text.toList := by
  have valid : ∀ error, (kindAndText limit r).1 ≠ .invalid error := by
    rintro error isInvalid
    rw [content] at isInvalid
    obtain rfl : kind = .invalid error := isInvalid
    simp [TokenKind.IsWritten] at written
  have uncommented : kind ≠ .comment := by
    rintro rfl
    simp [TokenKind.IsWritten] at written
  have accepted := kindAndText_accepted valid
  have spelled := kindAndText_text valid
  rw [content] at accepted spelled
  refine ⟨accepted, ?_⟩
  rw [show text = .ofList (lexeme kind r.taken) from spelled, String.toList_ofList]
  exact (if_neg fun both => uncommented both.1).symm

theorem next_whole {s : Scanner} (ahead : s.ahead = text.toList.map .char) (written : kind.IsWritten)
    (word : (s.next limit file).1.word = (kind, text)) :
    ∃ c rest, text.toList = c :: rest ∧ (Scan.token c (rest.map .char)).1.Takes text.toList kind := by
  have isKind : (s.next limit file).1.kind = kind := congrArg Prod.fst word
  have more : (s.next limit file).1.kind ≠ .endOfFile := by
    intro ended
    rw [← isKind, ended] at written
    simp [TokenKind.IsWritten] at written
  have step := next_step more
  generalize s.next limit file = read at step word
  cases step with
  | terminator =>
    cases word
    simp [TokenKind.IsWritten] at written
  | @reading r closing found =>
    obtain ⟨accepted, taken⟩ := kindAndText_eq word written
    obtain ⟨blanks, split⟩ := skip_suffix s
    have covers : r.taken.map .char ++ r.rest = s.skip.ahead := (Scan.front_reading found).1
    rw [ahead, ← covers, taken] at split
    have lengths := congrArg List.length split
    simp only [List.length_append, List.length_map] at lengths
    have nothing : r.rest = [] := List.length_eq_zero_iff.mp (by omega)
    rw [nothing, List.append_nil, taken] at covers
    rcases Scan.front_token found with ⟨error, rejected⟩ | ⟨c, rest, stands, same⟩
    · cases accepted.symm.trans rejected
    · rw [← covers] at stands
      obtain ⟨d, others, spelled, isFirst, behind⟩ := List.map_eq_cons_iff.mp stands
      cases isFirst
      refine ⟨c, others, spelled, ?_⟩
      rw [behind, same]
      obtain ⟨readTaken, readEnding, readRest⟩ := r
      cases taken
      cases accepted
      cases nothing
      rfl

theorem tokens_whole (plain : ∀ c ∈ text.toList, c ≠ byteOrderMark) (fits : byteCount text.toList ≤ limit)
    (written : kind.IsWritten) :
    (Token.allOf limit file (encode text.toList)).1.head?.map Token.word = some (kind, text) ↔
      ∃ c rest, text.toList = c :: rest ∧ (Scan.token c (rest.map .char)).1.Takes text.toList kind := by
  have starts : start (text.toList.map .char) = ⟨text.toList.map .char, .start, false⟩ := by
    refine start_plain fun rest marked => ?_
    obtain ⟨c, others, spelled, isMark, _⟩ := List.map_eq_cons_iff.mp marked
    exact plain c (by simp [spelled]) (Atom.char.inj isMark)
  rw [Token.allOf, decode_encode, starts]
  constructor
  · intro first
    by_cases ended : ((⟨text.toList.map .char, .start, false⟩ : Scanner).next limit file).1.kind = .endOfFile
    · rw [tokens_ended ended] at first
      cases first
    · rw [tokens_more ended] at first
      exact next_whole rfl written (Option.some.inj first)
  · rintro ⟨c, rest, spelled, takes⟩
    have accepted := congrArg Scan.Reading.ending takes
    have lexes : Lexes (kind, text) [] := by
      have read : Scan.token c (rest.map .char ++ []) =
          (⟨c :: rest, .accepted kind, []⟩, (Scan.token c (rest.map .char)).2) := by
        rw [List.append_nil, ← spelled]
        exact Prod.ext takes rfl
      refine Lexes.of_token spelled (Scan.token_opens written accepted) read ?_ ?_
      · rintro rfl
        rw [Scan.token, if_pos (Scan.token_identifier accepted).1]
      · constructor <;> rintro rfl <;> simp [TokenKind.IsWritten] at written
    obtain ⟨token, after, word, _, read⟩ := @tokens_word limit file _ _ lexes fits .start false
    rw [List.append_nil] at read
    rw [show text.toList = Word.text (kind, text) from rfl, read]
    exact congrArg some word

end Scanner

def Token.firstWord (limit : Nat) (file : String) (text : String) : Option Word :=
  (allOf limit file (encode text.toList)).1.head?.map Token.word

section Grammar
variable {limit : Nat} {file : String} {kind : TokenKind} {text : String} {L : Language Char}

theorem Token.firstWord_iff (plain : ∀ c ∈ text.toList, c ≠ byteOrderMark) (fits : byteCount text.toList ≤ limit)
    (written : kind.IsWritten) (filled : [] ∉ L) (takes : ∀ c rest, text.toList = c :: rest →
      ((Scan.token c (rest.map .char)).1.Takes (c :: rest) kind ↔ c :: rest ∈ L)) :
    firstWord limit file text = some (kind, text) ↔ text.toList ∈ L := by
  rw [firstWord, Scanner.tokens_whole plain fits written]
  cases spelled : text.toList with
  | nil =>
    refine ⟨?_, fun inside => absurd inside filled⟩
    rintro ⟨_, _, nothing, _⟩
    cases nothing
  | cons first rest =>
    rw [← takes first rest spelled]
    constructor
    · rintro ⟨_, _, same, read⟩
      cases same
      exact read
    · exact fun read => ⟨first, rest, rfl, read⟩

end Grammar

theorem Token.allOf_literals (limit : Nat) (file : String) {text : String}
    (plain : ∀ c ∈ text.toList, c ≠ '\x00' ∧ c ≠ byteOrderMark) (fits : byteCount text.toList ≤ limit) :
    (firstWord limit file text = some (.integer, text) ↔ text.toList ∈ Literal.integer) ∧
      (firstWord limit file text = some (.float, text) ↔ text.toList ∈ Literal.float) ∧
      (firstWord limit file text = some (.string, text) ↔ text.toList ∈ Literal.string) ∧
      (firstWord limit file text = some (.identifier, text) ↔ text.toList ∈ Literal.identifier) := by
  have unmarked : ∀ c ∈ text.toList, c ≠ byteOrderMark := fun c inside => (plain c inside).2
  refine ⟨?_, ?_, ?_, ?_⟩
  · refine firstWord_iff unmarked fits (by simp [TokenKind.IsWritten]) Literal.nil_integer fun c rest _ => ?_
    rw [Scan.token_numeral (by simp)]
    simp
  · refine firstWord_iff unmarked fits (by simp [TokenKind.IsWritten]) Literal.nil_float fun c rest _ => ?_
    rw [Scan.token_numeral (by simp)]
    simp
  · refine firstWord_iff unmarked fits (by simp [TokenKind.IsWritten]) Literal.nil_string fun c rest spelled => ?_
    exact Scan.token_string fun d inside => Scan.forbidden?_none (plain d (by simp [spelled, inside]))
  · refine firstWord_iff unmarked fits (by simp [TokenKind.IsWritten]) Literal.nil_identifier fun c rest spelled => ?_
    rw [← spelled]
    exact Scan.token_name spelled

-- A leading zero in front of an eight makes no octal number where a point follows.
namespace LeadingZero

def text : String := "-08.5e+3"

theorem tokens : Token.allOf Token.defaultLimit "" (encode text.toList) =
    ([⟨.float, text, ⟨"", 1, 1⟩⟩, ⟨.semicolon, "\n", ⟨"", 1, 9⟩⟩], ⟨.endOfFile, "", ⟨"", 1, 9⟩⟩) :=
  Token.allOf_first (n := 2) rfl rfl (by decide) rfl

theorem float_literal : (∀ c ∈ text.toList, c ≠ '\x00' ∧ c ≠ byteOrderMark) ∧ byteCount text.toList ≤ Token.defaultLimit ∧
    text.toList ∈ Literal.float ∧ text.toList ∉ Literal.integer := by
  have plain : ∀ c ∈ text.toList, c ≠ '\x00' ∧ c ≠ byteOrderMark := by
    have every : (text.toList.all fun c => decide (c ≠ '\x00' ∧ c ≠ byteOrderMark)) = true := by decide
    exact fun c inside => of_decide_eq_true (List.all_eq_true.mp every c inside)
  have fits : byteCount text.toList ≤ Token.defaultLimit := by decide
  have word : Token.firstWord Token.defaultLimit "" text = some (.float, text) := by
    rw [Token.firstWord, tokens]
    rfl
  obtain ⟨integer, float, _, _⟩ := Token.allOf_literals Token.defaultLimit "" plain fits
  refine ⟨plain, fits, float.mp word, fun inside => ?_⟩
  cases word.symm.trans (integer.mpr inside)

end LeadingZero
end WireSchema

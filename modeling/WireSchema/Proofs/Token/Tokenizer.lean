import WireSchema.Proofs.Token.Quoted
import WireSchema.Proofs.Token.Readings

-- The tokenizer goes through every source without a failure, and its tokens are those that the scanner reads off the
-- atoms of the source.
namespace WireSchema
open Text Scan

namespace Tokenizer

section Tokens
variable {m : Tokenizer} {s : Scanner} {rest : List Atom} {c : Char}

def finished (m : Tokenizer) (found : Reading × Closing) : Token × Tokenizer :=
  let read := m.closed found.1
  closing (Scanner.closes found.2 m.closable read.1.kind) read

theorem scanIdentifier_stand (begun : m.Begun [] (.char c :: rest)) (letter : isLetter c = true) :
    (m.stand [] (.char c :: rest)).scanIdentifier = some (m.closed (name c rest)) := by
  have nul : isNameCharacter '\x00' = false := by decide
  have continues : isNameCharacter c = true := by rw [isNameCharacter, letter, Bool.true_or]
  have word : run isNameCharacter (.char c :: rest) =
      (c :: (run isNameCharacter rest).1, (run isNameCharacter rest).2) := if_pos continues
  have tail := begun.run isNameCharacter
  unfold scanIdentifier
  simp only [Option.bind_eq_bind, skipWhile_stand begun nul, Option.bind_some]
  rw [word] at tail ⊢
  have text : Scanner.lexeme (keywordOr (c :: (run isNameCharacter rest).1)) (c :: (run isNameCharacter rest).1) = _ :=
    if_neg fun line => keywordOr_other _ (by simp) (by simp) line.1
  rw [List.nil_append] at tail ⊢
  rw [token_stand tail, name]
  unfold closed Scanner.kindAndText
  dsimp only
  rw [text]
  split <;> rfl

theorem scanString_raw (begun : m.Begun [] (.char backtick :: rest)) :
    (m.stand [] (.char backtick :: rest)).scanString true = some (m.closed ((rawString rest).after [backtick])) := by
  rw [scanString, nextChar_stand begun, Option.bind_some]
  exact scanStringRest_raw begun.next

theorem scanString_quoted (begun : m.Begun [] (.char '"' :: rest)) :
    (m.stand [] (.char '"' :: rest)).scanString false = some (m.closed ((quotedString .none rest).after ['"'])) := by
  rw [scanString, nextChar_stand begun, Option.bind_some]
  exact scanStringRest_quoted begun.next

theorem single_stand (begun : m.Begun [] (.char c :: rest)) {kind : TokenKind} (plain : Plain kind) :
    (m.stand [] (.char c :: rest)).single kind = some (m.closed ((Scan.single kind rest).after [c])) := by
  rw [single, nextChar_stand begun, Option.bind_some]
  exact accepted_stand begun.next plain

theorem scanSlash_stand (begun : m.Begun ['/'] rest) :
    (m.stand ['/'] rest).scanSlash = some (m.closed ((slash rest).after ['/'])) := by
  rw [scanSlash, is_stand (by decide), is_stand (by decide)]
  cases line : startsWith (· = '/') rest with
  | true =>
    obtain ⟨d, later, rfl, same⟩ := startsWith_true line
    obtain rfl : d = '/' := of_decide_eq_true same
    exact scanLineComment_stand begun (by decide)
  | false =>
    cases block : startsWith (· = '*') rest with
    | true =>
      obtain ⟨d, later, rfl, same⟩ := startsWith_true block
      obtain rfl : d = '*' := of_decide_eq_true same
      rw [if_neg Bool.false_ne_true, if_pos rfl, scanBlockComment, nextChar_stand begun, Option.bind_some]
      exact scanBlockRest_stand begun.next
    | false =>
      have reading : slash rest = ⟨[], .rejected (.strayCharacter "'/'") false, rest⟩ := by
        unfold slash
        split
        · cases line
        · cases block
        · rfl
      rw [if_neg Bool.false_ne_true, if_neg Bool.false_ne_true]
      exact rejected_stand begun reading

theorem punctuation?_plain {kind : TokenKind} (found : punctuation? c = some kind) : Plain kind := by
  have other := punctuation?_mark found
  exact ⟨fun same => other (by simp [same]), fun same => other (by simp [same])⟩

theorem scanCharacter_stand (begun : m.Begun [] (.char c :: rest)) (goesOn : (c = '/' && m.closable) = false) :
    (m.stand [] (.char c :: rest)).scanCharacter c = some (m.finished (Scan.token c rest)) := by
  unfold scanCharacter Scan.token
  by_cases letter : isLetter c = true
  · rw [if_pos letter, if_pos letter, scanIdentifier_stand begun letter]
    rfl
  rw [if_neg letter, if_neg letter]
  by_cases minus : c = '-'
  · subst minus
    simp only [decide_true, Bool.true_or, if_true, scanNumber_negative begun]
    rfl
  by_cases digit : isDigitOf 10 c = true
  · simp only [minus, digit, Bool.or_true, if_true, if_false, scanNumber_digit begun digit]
    rfl
  rw [if_neg (by simp [minus, digit]), if_neg minus, if_neg digit]
  by_cases mark : c = byteOrderMark
  · rw [if_pos mark, if_pos mark, invalid_stand begun]
    rfl
  rw [if_neg mark, if_neg mark]
  by_cases raw : c = backtick
  · subst raw
    rw [if_pos rfl, if_pos rfl, scanString_raw begun]
    rfl
  rw [if_neg raw, if_neg raw]
  by_cases quote : c = '"'
  · subst quote
    rw [if_pos rfl, if_pos rfl, scanString_quoted begun]
    rfl
  rw [if_neg quote, if_neg quote]
  by_cases point : c = '.'
  · rw [if_pos point, if_pos point]
    simp only [Option.bind_eq_bind, nextChar_stand begun, Option.bind_some]
    rw [is_stand (by decide)]
    split
    · rw [scanFraction_stand begun.next]
      rfl
    · rw [accepted_stand begun.next (by simp [Plain])]
      rfl
  rw [if_neg point, if_neg point]
  by_cases slash : c = '/'
  · subst slash
    have closable : m.closable = false := by simpa using goesOn
    have unclosable : ¬ (m.stand [] (.char '/' :: rest)).closable = true := Bool.eq_false_iff.mp closable
    rw [if_pos rfl, if_pos rfl, if_neg unclosable]
    simp only [Option.bind_eq_bind, nextChar_stand begun, Option.bind_some]
    rw [List.nil_append, scanSlash_stand begun.next]
    rfl
  rw [if_neg slash, if_neg slash]
  cases found : punctuation? c with
  | some kind =>
    simp only [single_stand begun (punctuation?_plain found)]
    by_cases ends : kind ∈ [.closeParen, .closeBracket, .closeBrace]
    · rw [if_pos ends, decide_eq_true ends]
      rfl
    · rw [if_neg ends, decide_eq_false ends]
      rfl
  | none =>
    simp only [invalid_stand begun]
    rfl

def abreast (m : Tokenizer) (s : Scanner) : Tokenizer :=
  { (m.facing s.ahead s.place).beginToken with closable := s.closable }

theorem abreast_begun (inside : s.ahead <:+ decode m.source) : (m.abreast s).Begun [] s.ahead := ⟨rfl, inside⟩

theorem abreast_ordered (m : Tokenizer) (s : Scanner) : (m.abreast s).Ordered m.source :=
  ⟨rfl, Nat.le_refl _, offset_mono (List.tail_suffix _), offset_le _ _⟩

theorem closed_abreast (r : Reading) (closable : Bool) :
    closing closable ((m.abreast s).closed r) =
      (⟨(Scanner.kindAndText m.limit r).1, (Scanner.kindAndText m.limit r).2, ⟨m.file, s.place.line, s.place.column⟩⟩,
        m.abreast (Scanner.leave r s.place closable)) := by
  unfold closed Scanner.leave
  cases r.ending with
  | accepted kind => rfl
  | rejected error takesNext => cases takesNext <;> rfl

theorem scanCharacter_slash (closable : m.closable = true) : m.scanCharacter '/' = some m.terminator := by
  have letter : isLetter '/' = false := by decide
  unfold scanCharacter
  rw [letter, closable]
  rfl

theorem scan_abreast (inside : s.ahead <:+ decode m.source) : (m.abreast s).scan = some
    (match front s.closable s.ahead with
      | .endOfFile => (⟨.endOfFile, "", ⟨m.file, s.place.line, s.place.column⟩⟩, m.abreast ⟨s.ahead, s.place, false⟩)
      | .terminator => (⟨.semicolon, "\n", ⟨m.file, s.place.line, s.place.column⟩⟩, m.abreast ⟨s.ahead, s.place, false⟩)
      | .reading r closing => (m.abreast s).finished (r, closing)) := by
  obtain ⟨ahead, place, closable⟩ := s
  have begun := abreast_begun inside
  rcases ahead with _ | ⟨c | byte, rest⟩
  · cases closable <;> rfl
  · unfold front
    dsimp only
    by_cases nul : c = '\x00'
    · subst nul
      exact invalid_stand begun .nul true
    rw [if_neg nul]
    have bad : (m.abreast ⟨.char c :: rest, place, closable⟩).bad = none := if_neg nul
    have current : (m.abreast ⟨.char c :: rest, place, closable⟩).current = some c := if_neg nul
    unfold scan
    rw [bad, current]
    dsimp only
    cases ends : c = '/' && closable with
    | false => exact scanCharacter_stand begun ends
    | true =>
      obtain ⟨slash, closes⟩ := (Bool.and_eq_true_iff).mp ends
      obtain rfl : c = '/' := of_decide_eq_true slash
      exact scanCharacter_slash closes
  · exact invalid_stand begun .encoding true

theorem next_abreast (inside : s.ahead <:+ decode m.source) :
    (m.abreast s).next = some ((s.next m.limit m.file).1, m.abreast (s.next m.limit m.file).2) := by
  have nul : Scanner.isBlank s.closable '\x00' = false := by cases s.closable <;> decide
  have begun := abreast_begun inside
  have blanks := (run_suffix (Scanner.isBlank s.closable) s.ahead).trans inside
  have skipped : ((m.abreast s).stand (run (Scanner.isBlank s.closable) s.ahead).1
      (run (Scanner.isBlank s.closable) s.ahead).2).beginToken = m.abreast
        ⟨(run (Scanner.isBlank s.closable) s.ahead).2, s.place.pastAll (run (Scanner.isBlank s.closable) s.ahead).1,
          s.closable⟩ := rfl
  have skip : (m.abreast s).skipWhile (Scanner.isBlank s.closable) = _ := skipWhile_stand begun nul
  unfold next
  simp only [Option.bind_eq_bind]
  rw [show (m.abreast s).closable = s.closable from rfl, skip, Option.bind_some, List.nil_append]
  dsimp only
  rw [skipped, scan_abreast blanks]
  unfold Scanner.next
  dsimp only
  cases found : front s.closable (run (Scanner.isBlank s.closable) s.ahead).2 with
  | endOfFile => rfl
  | terminator => rfl
  | reading r closing => exact congrArg some (closed_abreast r _)

theorem first_abreast (n : Nat) (inside : s.ahead <:+ decode m.source) :
    (m.abreast s).first n = some ((s.first m.limit m.file n).1, m.abreast (s.first m.limit m.file n).2) := by
  induction n generalizing s with
  | zero => rfl
  | succ n ih =>
    have further := ih ((@Scanner.next_suffix m.limit m.file s).trans inside)
    unfold first
    simp only [Option.bind_eq_bind]
    rw [next_abreast inside, Option.bind_some, further, Option.bind_some]
    rfl

theorem start_unmarked {atoms : List Atom} (unmarked : startsWith (· = byteOrderMark) atoms = false) :
    Scanner.start atoms = ⟨atoms, .start, false⟩ := by
  unfold Scanner.start
  split
  · exact if_neg (of_decide_eq_false unmarked)
  · rfl

theorem ofSource_abreast (limit : Nat) (file : String) (source : List UInt8) : ofSource limit file source =
    some ((unread limit file source).abreast (.start (decode source))) := by
  have stands : (unread limit file source).nextChar =
      some ((unread limit file source).facing (decode source) .start) :=
    nextChar_read (by simp [unread, offset, decode_bytes]) (List.suffix_refl _)
  unfold ofSource
  simp only [Option.bind_eq_bind, stands, Option.bind_some, nextIf]
  rw [is_facing (by decide)]
  cases mark : startsWith (· = byteOrderMark) (decode source) with
  | false =>
    rw [if_neg Bool.false_ne_true, start_unmarked mark]
    rfl
  | true =>
    obtain ⟨c, rest, marked, same⟩ := startsWith_true mark
    have past := nextChar_facing (m := unread limit file source) (List.suffix_refl (decode source)) .start
    rw [if_pos rfl, past, marked, Scanner.start, if_pos (of_decide_eq_true same)]
    rfl

-- The tokenizer comes to the end of every source, with the tokens of the scanner.
theorem ofSource_first (limit : Nat) (file : String) (source : List UInt8) (n : Nat) :
    ∃ m, (ofSource limit file source).bind (·.first n) = some
        (((Token.allOf limit file source).1 ++ .replicate n (Token.allOf limit file source).2).take n, m) ∧
      m.Ordered source := by
  have read : ((unread limit file source).abreast (.start (decode source))).first n = _ :=
    first_abreast n (Scanner.start_suffix (decode source))
  have tokens : ((Scanner.start (decode source)).first limit file n).1 = _ := Scanner.first_take n _
  rw [ofSource_abreast, Option.bind_some, read]
  exact ⟨_, by rw [Token.allOf, ← tokens]; rfl, abreast_ordered (unread limit file source) _⟩

end Tokens
end Tokenizer
end WireSchema

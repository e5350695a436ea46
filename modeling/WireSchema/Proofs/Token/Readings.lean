import WireSchema.Proofs.Token.Offsets
import WireSchema.Proofs.Token.Returned

-- Numbers, strings and comments come out of the tokenizer as they are read off the atoms of the source, with the same
-- characters taken and the same kind or error. The tokenizer counts the digits of an escape, where the reader of atoms
-- keeps how many are still owed.
namespace WireSchema
open Text Scan

namespace Scan

theorem isDigitOf_plain {base : Nat} {c : Char} (digit : isDigitOf base c = true) :
    forbidden? (.char c) = none ∧ c ≠ '"' ∧ c ≠ '\n' ∧ c ≠ '\\' := by
  have other : ∀ d, digitValue? d = none → c ≠ d := by
    rintro d none rfl
    simp [isDigitOf, none] at digit
  refine ⟨?_, other _ (by decide), other _ (by decide), other _ (by decide)⟩
  rw [forbidden?, if_neg (other _ (by decide)), if_neg (other _ (by decide))]

variable {base owed : Nat}

theorem quotedString_digits (base : Nat) (atoms : List Atom) : quotedString .none atoms =
    (quotedString .none (run (isDigitOf base) atoms).2).after (run (isDigitOf base) atoms).1 := by
  induction atoms with
  | nil => rfl
  | cons atom rest ih =>
    cases starts : startsWith (isDigitOf base) (atom :: rest) with
    | false =>
      rw [run_stopped starts]
      rfl
    | true =>
      obtain ⟨c, _, same, digit⟩ := startsWith_true starts
      cases same
      obtain ⟨allowed, unquoted, inside, plain⟩ := isDigitOf_plain digit
      rw [quotedString_goes allowed unquoted inside, if_neg plain, ih, run, if_pos digit]
      rfl

theorem digits_open : Escape.digits base owed ≠ .none := by simp

theorem quotedString_stopped {atoms : List Atom} (stopped : startsWith (isDigitOf base) atoms = false) :
    quotedString (.digits base owed) atoms = ⟨[], .rejected .escape false, atoms⟩ := by
  rcases atoms with _ | ⟨c | byte, rest⟩
  · rfl
  · have other : isDigitOf base c = false := stopped
    rw [quotedString_escape digits_open, Escape.next?]
    simp [other]
  · rfl

theorem quotedString_owed (owes : 0 < owed) (atoms : List Atom) :
    quotedString (.digits base owed) atoms =
      if owed ≤ (run (isDigitOf base) atoms).1.length then
        (quotedString .none (run (isDigitOf base) atoms).2).after (run (isDigitOf base) atoms).1
      else ⟨(run (isDigitOf base) atoms).1, .rejected .escape false, (run (isDigitOf base) atoms).2⟩ := by
  induction atoms generalizing owed with
  | nil => exact (if_neg (Nat.not_le.mpr owes)).symm
  | cons atom rest ih =>
    cases starts : startsWith (isDigitOf base) (atom :: rest) with
    | false =>
      rw [run_stopped starts, quotedString_stopped starts]
      exact (if_neg (Nat.not_le.mpr owes)).symm
    | true =>
      obtain ⟨c, _, same, digit⟩ := startsWith_true starts
      cases same
      rw [quotedString_escape digits_open, Escape.next?, if_pos digit, run, if_pos digit]
      dsimp only
      by_cases last : owed ≤ 1
      · rw [if_pos last, quotedString_digits base rest, if_pos (by rw [List.length_cons]; omega)]
        rfl
      · have count : owed - 1 ≤ (run (isDigitOf base) rest).1.length ↔
            owed ≤ (c :: (run (isDigitOf base) rest).1).length := by rw [List.length_cons]; omega
        rw [if_neg last, ih (by omega)]
        by_cases enough : owed - 1 ≤ (run (isDigitOf base) rest).1.length
        · rw [if_pos enough, if_pos (count.mp enough)]
          rfl
        · rw [if_neg enough, if_neg fun more => enough (count.mpr more)]
          rfl

end Scan

namespace Tokenizer

section Numbers
variable {m : Tokenizer} {taken : List Char} {rest : List Atom}

theorem counted_stand (begun : m.Begun taken rest) {kind : TokenKind} (plain : Plain kind) (error : LexicalError)
    (digits : List Char) :
    (if digits.length = 0 then (m.stand taken rest).invalidToken error false else (m.stand taken rest).token kind) =
      some (m.closed ⟨taken, if digits.isEmpty then .rejected error false else .accepted kind, rest⟩) := by
  cases digits with
  | nil => exact invalid_stand begun error false
  | cons c digits => exact accepted_stand begun plain

theorem integer_plain : Plain .integer := by simp [Plain]

theorem float_plain : Plain .float := by simp [Plain]

theorem scanExponent_stand (begun : m.Begun taken rest) {kind : TokenKind} (plain : Plain kind) :
    (m.stand taken rest).scanExponent kind = some (m.closed ((exponent kind rest).after taken)) := by
  unfold scanExponent
  rw [is_stand (by decide)]
  cases starts : startsWith isExponentMark rest with
  | false =>
    rw [exponent, one_stopped starts]
    simpa [Reading.after] using accepted_stand begun plain
  | true =>
    obtain ⟨c, later, rfl, holds⟩ := startsWith_true starts
    have sign := begun.next.one isSign
    have power := sign.run (isDigitOf 10)
    have mark : one isExponentMark (.char c :: later) = ([c], later) := if_pos holds
    simp only [if_true, Option.bind_eq_bind, nextChar_stand begun, Option.bind_some]
    rw [nextIf_stand begun.next (by decide), Option.bind_some, skipWhile_stand sign (by decide), Option.bind_some]
    dsimp only
    rw [counted_stand power float_plain, exponent, mark]
    simp [Reading.after]

theorem scanFraction_stand (begun : m.Begun taken rest) :
    (m.stand taken rest).scanFraction = some (m.closed ((fraction rest).after taken)) := by
  have places := begun.run (isDigitOf 10)
  unfold scanFraction
  simp only [Option.bind_eq_bind, skipWhile_stand begun (p := isDigitOf 10) (by decide), Option.bind_some]
  rw [scanExponent_stand places float_plain, fraction]
  simp [Reading.after]

theorem scanDecimal_stand (begun : m.Begun taken rest) :
    (m.stand taken rest).scanDecimal = some (m.closed ((wholePart rest).after taken)) := by
  unfold scanDecimal
  rw [is_stand (by decide), wholePart]
  cases starts : startsWith (· = '.') rest with
  | false =>
    rw [one_stopped starts]
    exact scanExponent_stand begun integer_plain
  | true =>
    obtain ⟨c, later, rfl, holds⟩ := startsWith_true starts
    have point : one (· = '.') (.char c :: later) = ([c], later) := if_pos holds
    simp only [if_true, Option.bind_eq_bind, nextChar_stand begun, Option.bind_some]
    rw [scanFraction_stand begun.next, point]
    simp [Reading.after]

theorem scanZero_stand (begun : m.Begun taken (.char '0' :: rest)) :
    (m.stand taken (.char '0' :: rest)).scanMagnitude = some (m.closed ((zero rest).after (taken ++ ['0']))) := by
  have digit : startsWith (· = '0') (.char '0' :: rest) = true := rfl
  unfold scanMagnitude
  rw [is_stand (by decide), digit]
  simp only [if_true, Option.bind_eq_bind, nextChar_stand begun, Option.bind_some]
  rw [is_stand (by decide), zero]
  cases starts : startsWith isHexMark rest with
  | true =>
    obtain ⟨c, later, rfl, holds⟩ := startsWith_true starts
    have mark : one isHexMark (.char c :: later) = ([c], later) := if_pos holds
    have code := begun.next.next.run (isDigitOf 16)
    simp only [if_true, nextChar_stand begun.next, Option.bind_some]
    rw [skipWhile_stand begun.next.next (by decide), Option.bind_some]
    dsimp only
    rw [counted_stand code integer_plain, mark]
    simp [Reading.after]
  | false =>
    have octal := begun.next.run (isDigitOf 8)
    have others := octal.run (isDigitOf 10)
    rw [one_stopped starts, if_neg Bool.false_ne_true, skipWhile_stand begun.next (by decide), Option.bind_some,
      skipWhile_stand octal (by decide), Option.bind_some]
    dsimp only
    rw [is_stand (by decide), if_pos List.isEmpty_nil]
    split
    · rw [scanDecimal_stand others]
      simp [Reading.after]
    · cases digits : (run (isDigitOf 10) (run (isDigitOf 8) rest).2).1 with
      | nil =>
        rw [digits] at others
        simpa [Reading.after] using accepted_stand others integer_plain
      | cons c more =>
        rw [digits] at others
        simpa [Reading.after] using invalid_stand others .octalNumber false

theorem scanMagnitude_stand {c : Char} (begun : m.Begun taken (.char c :: rest)) (digit : isDigitOf 10 c = true) :
    (m.stand taken (.char c :: rest)).scanMagnitude = some (m.closed ((number c rest).after taken)) := by
  by_cases zero : c = '0'
  · subst zero
    rw [scanZero_stand begun, number, if_pos rfl]
    simp [Reading.after]
  · have digits := begun.run (isDigitOf 10)
    have stays : startsWith (· = '0') (.char c :: rest) = false := decide_eq_false zero
    have run : run (isDigitOf 10) (.char c :: rest) = (c :: (run (isDigitOf 10) rest).1, (run (isDigitOf 10) rest).2) :=
      if_pos digit
    unfold scanMagnitude
    rw [is_stand (by decide), stays, if_neg Bool.false_ne_true, skipWhile_stand begun (by decide)]
    simp only [Option.bind_eq_bind, Option.bind_some]
    rw [scanDecimal_stand digits, run, number, if_neg zero]
    simp [Reading.after]

theorem scanNumber_digit {c : Char} (begun : m.Begun [] (.char c :: rest)) (digit : isDigitOf 10 c = true) :
    (m.stand [] (.char c :: rest)).scanNumber = some (m.closed (number c rest)) := by
  have unsigned : startsWith (· = '-') (.char c :: rest) = false := by
    refine decide_eq_false ?_
    rintro rfl
    revert digit
    decide
  unfold scanNumber
  rw [is_stand (by decide), unsigned]
  exact scanMagnitude_stand begun digit

theorem scanNumber_negative (begun : m.Begun [] (.char '-' :: rest)) :
    (m.stand [] (.char '-' :: rest)).scanNumber = some (m.closed ((negative rest).after ['-'])) := by
  have sign : startsWith (· = '-') (.char '-' :: rest) = true := rfl
  have stands := begun.next
  unfold scanNumber
  rw [is_stand (by decide), sign]
  simp only [if_true, Option.bind_eq_bind, nextChar_stand begun, Option.bind_some]
  rw [is_stand (by decide), is_stand (by decide)]
  cases point : startsWith (· = '.') rest with
  | true =>
    obtain ⟨c, later, rfl, same⟩ := startsWith_true point
    have mark : c = '.' := of_decide_eq_true same
    simp only [if_true, nextChar_stand stands, Option.bind_some]
    rw [is_stand (by decide), negative, if_pos mark]
    split
    · rw [scanFraction_stand stands.next]
      simp [Reading.after]
    · exact invalid_stand stands.next .number false
  | false =>
    rw [if_neg Bool.false_ne_true]
    cases digit : startsWith (isDigitOf 10) rest with
    | true =>
      obtain ⟨c, later, rfl, holds⟩ := startsWith_true digit
      rw [if_pos rfl, scanMagnitude_stand stands holds, negative, if_neg (of_decide_eq_false point), if_pos holds]
      rfl
    | false =>
      have unread : negative rest = ⟨[], .rejected .number false, rest⟩ := by
        rcases rest with _ | ⟨c | byte, rest⟩
        · rfl
        · have other : isDigitOf 10 c = false := digit
          rw [negative, if_neg (of_decide_eq_false point), other, if_neg Bool.false_ne_true]
        · rfl
      rw [if_neg Bool.false_ne_true, invalid_stand stands, unread]
      rfl

end Numbers

section Strings
variable {m : Tokenizer} {taken : List Char} {rest : List Atom}

theorem scanStringRest_eq (raw : Bool) (delimiter : Option Char) (m : Tokenizer) :
    m.scanStringRest raw delimiter =
      match m.bad, m.current with
      | some error, _ => m.invalidToken error true
      | none, none => m.invalidToken .openString true
      | none, some c =>
        if c = byteOrderMark then m.invalidToken .byteOrderMark true
        else if some c = delimiter then m.nextChar.bind (·.token .string)
        else if c = '\n' && !raw then m.invalidToken .openString false
        else if c = '\\' && !raw then
          m.skipEscape.bind fun escape =>
            if escape.1 then escape.2.scanStringRest raw delimiter else escape.2.invalidToken .escape false
        else m.nextChar.bind (·.scanStringRest raw delimiter) := by
  rw [scanStringRest]
  cases bad : m.bad with
  | some error => rfl
  | none =>
    dsimp only
    split
    · rename_i current
      rw [current]
    · rename_i c current
      rw [current]
      dsimp only
      congr 4
      · split <;> rename_i escaped <;> rw [escaped] <;> rfl
      · split <;> rename_i moved <;> rw [moved] <;> rfl

theorem scanStringRest_forbidden {atom : Atom} {error : LexicalError} (forbidden : forbidden? atom = some error)
    (raw : Bool) (delimiter : Option Char) : (m.stand taken (atom :: rest)).scanStringRest raw delimiter =
      (m.stand taken (atom :: rest)).invalidToken error true := by
  rw [scanStringRest_eq]
  rcases stand_forbidden m taken rest forbidden with bad | ⟨bad, current, rfl⟩
  · rw [bad]
  · rw [bad, current]
    exact if_pos rfl

theorem scanStringRest_end (raw : Bool) (delimiter : Option Char) :
    (m.stand taken []).scanStringRest raw delimiter = (m.stand taken []).invalidToken .openString true := by
  rw [scanStringRest_eq]
  rfl

theorem scanStringRest_char {c : Char} (begun : m.Begun taken (.char c :: rest)) (allowed : forbidden? (.char c) = none)
    (raw : Bool) (delimiter : Option Char) : (m.stand taken (.char c :: rest)).scanStringRest raw delimiter =
      if some c = delimiter then (m.stand (taken ++ [c]) rest).token .string
      else if c = '\n' && !raw then (m.stand taken (.char c :: rest)).invalidToken .openString false
      else if c = '\\' && !raw then
        (m.stand taken (.char c :: rest)).skipEscape.bind fun escape =>
          if escape.1 then escape.2.scanStringRest raw delimiter else escape.2.invalidToken .escape false
      else (m.stand (taken ++ [c]) rest).scanStringRest raw delimiter := by
  obtain ⟨bad, current, other⟩ := stand_allowed m taken rest allowed
  rw [scanStringRest_eq, bad, current]
  dsimp only
  rw [if_neg other, nextChar_stand begun, Option.bind_some, Option.bind_some]

theorem string_plain : Plain .string := by simp [Plain]

theorem scanStringRest_raw (begun : m.Begun taken rest) :
    (m.stand taken rest).scanStringRest true (some backtick) = some (m.closed ((rawString rest).after taken)) := by
  fun_induction rawString rest generalizing taken with
  | case1 =>
    rw [scanStringRest_end]
    exact rejected_stand begun rfl
  | case2 atom rest error forbidden =>
    rw [scanStringRest_forbidden forbidden]
    exact rejected_stand begun (by simp [forbidden])
  | case3 rest allowed =>
    rw [scanStringRest_char begun allowed, if_pos rfl, accepted_stand begun.next string_plain]
    simp [Reading.after, allowed]
  | case4 rest c unquoted allowed ih =>
    rw [scanStringRest_char begun allowed, if_neg (by simpa using unquoted)]
    simp [ih begun.next, Reading.after, allowed, unquoted]
  | case5 byte rest forbidden => cases forbidden

theorem skipDigits_stand (begun : m.Begun taken rest) (base least : Nat) :
    (m.stand taken rest).skipDigits base least = some (decide (least ≤ (run (isDigitOf base) rest).1.length),
      m.stand (taken ++ (run (isDigitOf base) rest).1) (run (isDigitOf base) rest).2) := by
  rw [skipDigits, skipWhile_stand begun (by simp [isDigitOf, show digitValue? '\x00' = none by decide])]
  rfl

inductive Escapes (m : Tokenizer) (taken : List Char) (rest : List Atom) : Option (Bool × Tokenizer) → Prop where
  | passed {front : List Char} {later : List Atom} (covers : front.map .char ++ later = rest)
      (reading : quotedString .opened rest = (quotedString .none later).after front) :
      Escapes m taken rest (some (true, m.stand (taken ++ front) later))
  | stopped {front : List Char} {later : List Atom} (covers : front.map .char ++ later = rest)
      (reading : quotedString .opened rest = ⟨front, .rejected .escape false, later⟩) :
      Escapes m taken rest (some (false, m.stand (taken ++ front) later))

theorem Escapes.digits (begun : m.Begun taken rest) {mark : List Char} {later : List Atom} {base least : Nat}
    (owes : 0 < least) (covers : mark.map .char ++ later = rest)
    (reading : quotedString .opened rest = (quotedString (.digits base least) later).after mark) :
    Escapes m taken rest ((m.stand (taken ++ mark) later).skipDigits base least) := by
  have whole : (mark ++ (run (isDigitOf base) later).1).map .char ++ (run (isDigitOf base) later).2 = rest := by
    rw [List.map_append, List.append_assoc, run_append, covers]
  rw [skipDigits_stand (begun.further covers), List.append_assoc]
  rw [quotedString_owed owes] at reading
  by_cases enough : least ≤ (run (isDigitOf base) later).1.length
  · rw [if_pos enough] at reading
    rw [decide_eq_true enough]
    exact .passed whole (by simpa [Reading.after] using reading)
  · rw [if_neg enough] at reading
    rw [decide_eq_false enough]
    exact .stopped whole reading

theorem Escapes.nothing (reading : quotedString .opened rest = ⟨[], .rejected .escape false, rest⟩) :
    Escapes m taken rest (some (false, m.stand taken rest)) := by
  have stopped : Escapes m taken rest (some (false, m.stand (taken ++ []) rest)) := .stopped rfl reading
  rwa [List.append_nil] at stopped

theorem skipEscape_eq {m later : Tokenizer} (moved : m.nextChar = some later) : m.skipEscape =
    match later.current with
    | none => some (false, later)
    | some c =>
      if c ∈ ['a', 'b', 'f', 'n', 'r', 't', 'v', '\\', '"', '\''] then later.nextChar.map (true, ·)
      else if isDigitOf 8 c then later.skipDigits 8 3
      else if c = 'x' then later.nextChar.bind (·.skipDigits 16 2)
      else if c = 'u' then later.nextChar.bind (·.skipDigits 16 4)
      else if c = 'U' then later.nextChar.bind (·.skipDigits 16 8)
      else some (false, later) := by
  rw [skipEscape, moved]
  rfl

theorem Escapes.octal {c : Char} (begun : m.Begun taken (.char c :: rest)) (digit : isDigitOf 8 c = true)
    (reading : quotedString .opened (.char c :: rest) = (quotedString (.digits 8 2) rest).after [c]) :
    Escapes m taken (.char c :: rest) ((m.stand taken (.char c :: rest)).skipDigits 8 3) := by
  have owed : quotedString .opened (.char c :: rest) = (quotedString (.digits 8 3) (.char c :: rest)).after [] := by
    rw [reading, quotedString_escape digits_open, Escape.next?, if_pos digit]
    rfl
  have digits := Escapes.digits begun (by decide) (show [].map Atom.char ++ _ = _ from rfl) owed
  rwa [List.append_nil] at digits

theorem skipEscape_stand (begun : m.Begun taken (.char '\\' :: rest)) :
    Escapes m (taken ++ ['\\']) rest (m.stand taken (.char '\\' :: rest)).skipEscape := by
  have stands := begun.next
  rw [skipEscape_eq (nextChar_stand begun)]
  rcases rest with _ | ⟨c | byte, rest⟩
  · exact .nothing rfl
  · have escape := quotedString_escape (show Escape.opened ≠ .none by simp) c rest
    by_cases nul : c = '\x00'
    · subst nul
      exact .nothing rfl
    · have current : (m.stand (taken ++ ['\\']) (.char c :: rest)).current = some c := if_neg nul
      rw [current]
      dsimp only
      rw [nextChar_stand stands]
      unfold Escape.next? at escape
      dsimp only at escape
      split_ifs with simple octal x u long
      · rw [if_pos simple] at escape
        exact .passed rfl escape
      · rw [if_neg simple, if_pos octal] at escape
        exact .octal stands octal escape
      · rw [if_neg simple, if_neg octal, if_pos x] at escape
        exact .digits stands (by decide) rfl escape
      · rw [if_neg simple, if_neg octal, if_neg x, if_pos u] at escape
        exact .digits stands (by decide) rfl escape
      · rw [if_neg simple, if_neg octal, if_neg x, if_neg u, if_pos long] at escape
        exact .digits stands (by decide) rfl escape
      · rw [if_neg simple, if_neg octal, if_neg x, if_neg u, if_neg long] at escape
        exact .nothing escape
  · exact .nothing rfl

theorem scanStringRest_quoted (begun : m.Begun taken rest) :
    (m.stand taken rest).scanStringRest false (some '"') =
      some (m.closed ((quotedString .none rest).after taken)) := by
  induction length : rest.length using Nat.strongRecOn generalizing taken rest with
  | ind n ih =>
    subst length
    cases rest with
    | nil =>
      rw [scanStringRest_end]
      exact rejected_stand begun rfl
    | cons atom rest =>
      cases forbidden : forbidden? atom with
      | some error =>
        rw [scanStringRest_forbidden forbidden]
        exact rejected_stand begun (by simp [quotedString, forbidden])
      | none =>
        cases atom with
        | stray byte => cases forbidden
        | char c =>
          rw [scanStringRest_char begun forbidden]
          by_cases quote : c = '"'
          · subst quote
            rw [if_pos rfl, accepted_stand begun.next string_plain]
            simp [Reading.after, quotedString, forbidden]
          rw [if_neg (by simpa using quote)]
          by_cases feed : c = '\n'
          · subst feed
            rw [if_pos (by decide)]
            exact rejected_stand begun (by simp [quotedString, forbidden])
          rw [if_neg (by simpa using feed), quotedString_goes forbidden quote feed]
          by_cases backslash : c = '\\'
          · subst backslash
            have escapes := skipEscape_stand begun
            rw [if_pos (by rfl), if_pos rfl]
            generalize (m.stand taken (.char '\\' :: rest)).skipEscape = escape at escapes ⊢
            cases escapes with
            | @passed front later covers reading =>
              have shorter : later.length < (Atom.char '\\' :: rest).length := by
                rw [← covers, List.length_cons, List.length_append]
                omega
              rw [Option.bind_some, if_pos rfl, ih _ shorter (begun.next.further covers) rfl, reading]
              simp [Reading.after]
            | @stopped front later covers reading =>
              rw [Option.bind_some, if_neg Bool.false_ne_true, invalid_stand (begun.next.further covers), reading]
              simp [Reading.after]
          · rw [if_neg (by simpa using backslash), if_neg backslash, ih _ (by simp) begun.next rfl]
            simp [Reading.after]

end Strings

section Comments
variable {m : Tokenizer} {taken : List Char} {rest : List Atom}

theorem comment_stand (begun : m.Begun taken rest) (inside : taken.getLast? ≠ some '\n') :
    (m.stand taken rest).token .comment = some (m.closed ⟨taken, .accepted .comment, rest⟩) :=
  whole_stand begun (by simp) (if_neg fun line => inside line.2)

theorem line_stand (begun : m.Begun (taken ++ ['\n']) rest) :
    ((m.stand (taken ++ ['\n']) rest).token .comment).map dropNewline =
      some (m.closed ⟨taken ++ ['\n'], .accepted .comment, rest⟩) := by
  have text : Scanner.lexeme .comment (taken ++ ['\n']) = (taken ++ ['\n']).dropLast :=
    if_pos ⟨rfl, List.getLast?_concat⟩
  rw [token_stand begun, Option.map_some]
  unfold closed Scanner.kindAndText
  dsimp only
  rw [text]
  by_cases long : m.limit < byteCount (taken ++ ['\n'])
  · rw [if_pos long, if_pos long]
    rfl
  · rw [if_neg long, if_neg long]
    simp [dropNewline, make]
    rfl

theorem scanLineComment_eq {m later : Tokenizer} (moved : m.nextChar = some later) : m.scanLineComment =
    match later.bad, later.current with
    | some error, _ => later.invalidToken error true
    | none, none => later.token .comment
    | none, some c =>
      if c = '\n' then later.nextChar.bind fun past => (past.token .comment).map dropNewline
      else if c = byteOrderMark then later.invalidToken .byteOrderMark true
      else later.scanLineComment := by
  rw [scanLineComment]
  split
  · rename_i stuck
    cases moved.symm.trans stuck
  · rename_i same
    cases moved.symm.trans same
    cases later.bad with
    | some error => rfl
    | none =>
      dsimp only
      split <;> rename_i current <;> rw [current]

theorem scanLineComment_stand {c : Char} (begun : m.Begun taken (.char c :: rest)) (inside : c ≠ '\n') :
    (m.stand taken (.char c :: rest)).scanLineComment = some (m.closed ((lineComment rest).after (taken ++ [c]))) := by
  rw [scanLineComment_eq (nextChar_stand begun)]
  have stands := begun.next
  induction rest generalizing taken c with
  | nil =>
    have last : (taken ++ [c]).getLast? ≠ some '\n' := by simpa using inside
    have reading : (lineComment []).after (taken ++ [c]) = ⟨taken ++ [c], .accepted .comment, []⟩ := by
      rw [lineComment, Reading.after, List.append_nil]
    rw [reading]
    exact comment_stand stands last
  | cons atom rest ih =>
    cases forbidden : forbidden? atom with
    | some error =>
      have reading : lineComment (atom :: rest) = ⟨[], .rejected error true, atom :: rest⟩ := by
        simp [lineComment, forbidden]
      rw [← rejected_stand stands reading]
      rcases stand_forbidden m (taken ++ [c]) rest forbidden with bad | ⟨bad, current, rfl⟩
      · rw [bad]
      · rw [bad, current]
        exact (if_neg (by decide)).trans (if_pos rfl)
    | none =>
      cases atom with
      | stray byte => cases forbidden
      | char d =>
        obtain ⟨bad, current, other⟩ := stand_allowed m (taken ++ [c]) rest forbidden
        rw [bad, current]
        dsimp only
        by_cases feed : d = '\n'
        · subst feed
          rw [if_pos rfl, nextChar_stand stands, Option.bind_some, line_stand stands.next]
          simp [Reading.after, lineComment, forbidden]
        · rw [if_neg feed, if_neg other, scanLineComment_eq (nextChar_stand stands), ih stands feed stands.next,
            lineComment_goes forbidden feed]
          simp [Reading.after]

theorem scanBlockRest_eq (m : Tokenizer) : m.scanBlockRest =
    match m.bad, m.current with
    | some error, _ => m.invalidToken error true
    | none, none => m.invalidToken .openComment true
    | none, some c =>
      if c = byteOrderMark then m.invalidToken .byteOrderMark true
      else m.nextChar.bind fun later =>
        if c = '*' && later.is (· = '/') then later.nextChar.bind (·.token .comment) else later.scanBlockRest := by
  rw [scanBlockRest]
  cases bad : m.bad with
  | some error => rfl
  | none =>
    dsimp only
    split
    · rename_i current
      rw [current]
    · rename_i c current
      rw [current]
      dsimp only
      congr 1
      split <;> rename_i moved <;> rw [moved] <;> rfl

theorem scanBlockRest_stand (begun : m.Begun taken rest) :
    (m.stand taken rest).scanBlockRest = some (m.closed ((blockComment rest).after taken)) := by
  rw [scanBlockRest_eq]
  induction rest generalizing taken with
  | nil => exact rejected_stand begun rfl
  | cons atom rest ih =>
    cases forbidden : forbidden? atom with
    | some error =>
      rw [← rejected_stand begun (blockComment_stops forbidden rest)]
      rcases stand_forbidden m taken rest forbidden with bad | ⟨bad, current, rfl⟩
      · rw [bad]
      · rw [bad, current]
        exact if_pos rfl
    | none =>
      cases atom with
      | stray byte => cases forbidden
      | char c =>
        obtain ⟨bad, current, other⟩ := stand_allowed m taken rest forbidden
        rw [bad, current]
        dsimp only
        rw [if_neg other, nextChar_stand begun, Option.bind_some, is_stand (by decide)]
        by_cases closes : c = '*' ∧ startsWith (· = '/') rest = true
        · obtain ⟨rfl, starts⟩ := closes
          obtain ⟨d, later, rfl, same⟩ := startsWith_true starts
          obtain rfl : d = '/' := of_decide_eq_true same
          have last : (taken ++ ['*'] ++ ['/']).getLast? ≠ some '\n' := by simp
          rw [if_pos (by simp [startsWith]), nextChar_stand begun.next, Option.bind_some, comment_stand begun.next.next last]
          simp [Reading.after, blockComment]
        · have inside : c = '*' → rest.head? ≠ some (.char '/') := by
            rintro rfl front
            cases rest with
            | nil => cases front
            | cons atom rest =>
              cases front
              exact closes ⟨rfl, rfl⟩
          rw [if_neg (by simpa using closes), scanBlockRest_eq, ih begun.next, blockComment_goes forbidden inside]
          simp [Reading.after]

end Comments

end Tokenizer
end WireSchema

import WireSchema.Token.Stream

-- The tokenizer over the bytes of a source. It holds the offset of the character that it stands at, the offset
-- that it has read up to and the offset where the current token started, and it takes bytes out of the source
-- between them. Bytes that are not all there cannot be taken: whatever would do that has no result.
namespace WireSchema
open Text Scan

def bytesBetween? (first stop : Nat) (source : List UInt8) : Option (List UInt8) :=
  if first ≤ stop ∧ stop ≤ source.length then some ((source.drop first).take (stop - first)) else none

structure Tokenizer where
  source : List UInt8
  file : String
  limit : Nat
  closable : Bool
  current : Option Char
  bad : Option LexicalError
  here : Nat
  read : Nat
  place : Place
  start : Nat
  startPlace : Place

namespace Tokenizer

-- A null character is none that the tokenizer could stand at, and neither is a stray byte.
def shownBy? : Atom → Option Char
  | .char c => if c = '\x00' then none else some c
  | .stray _ => none

def faultOf? : Atom → Option LexicalError
  | .char c => if c = '\x00' then some .nul else none
  | .stray _ => some .encoding

def nextChar (m : Tokenizer) : Option Tokenizer :=
  (bytesBetween? m.read m.source.length m.source).map fun ahead =>
    let found := first? ahead
    { m with
      current := found.bind (shownBy? ·.1)
      bad := found.bind (faultOf? ·.1)
      here := m.read
      read := m.read + found.elim 0 (·.2)
      place := if m.current = some '\n' then ⟨m.place.line + 1, 1⟩ else ⟨m.place.line, m.place.column + 1⟩ }

def beginToken (m : Tokenizer) : Tokenizer := { m with start := m.here, startPlace := m.place }

-- In front of a source. The newline that is not there puts its first character on the first line.
def unread (limit : Nat) (file : String) (source : List UInt8) : Tokenizer :=
  ⟨source, file, limit, false, some '\n', none, 0, 0, ⟨0, 0⟩, 0, ⟨0, 0⟩⟩

def is (m : Tokenizer) (p : Char → Bool) : Bool := m.current.any p

def nextIf (p : Char → Bool) (m : Tokenizer) : Option Tokenizer := if m.is p then m.nextChar else some m

def ofSource (limit : Nat) (file : String) (source : List UInt8) : Option Tokenizer := do
  let m ← (unread limit file source).nextChar
  let m ← m.nextIf (· = byteOrderMark)
  some m.beginToken

def make (m : Tokenizer) (kind : TokenKind) (text : String) : Token :=
  ⟨kind, text, ⟨m.file, m.startPlace.line, m.startPlace.column⟩⟩

def invalidToken (m : Tokenizer) (error : LexicalError) (takesNext : Bool) : Option (Token × Tokenizer) := do
  let token := m.make (.invalid error) (m.current.elim "" fun c => .ofList [c])
  let behind ← if takesNext then m.nextChar else some m
  some (token, behind.beginToken)

def token (m : Tokenizer) (kind : TokenKind) : Option (Token × Tokenizer) :=
  (bytesBetween? m.start m.here m.source).map fun bytes =>
    if m.limit < bytes.length then (m.make (.invalid .overflow) "", m.beginToken)
    else
      let text := lossy bytes
      let kind := if kind = .identifier then ((Keyword.ofText? text).map .keyword).getD .identifier else kind
      (m.make kind text, m.beginToken)

-- How far the tokenizer still has to go. Where it stands at a character, the next step reads more of the source
-- or comes to its end.
def measure (m : Tokenizer) : Nat := (m.source.length - m.read) + m.current.isSome.toNat

theorem first?_positive {source : List UInt8} {found : Atom × Nat} (read : first? source = some found) :
    source ≠ [] ∧ 0 < found.2 := by
  cases source with
  | nil => cases read
  | cons byte rest =>
    refine ⟨by simp, ?_⟩
    rw [← Option.some.inj read]
    split <;> simp

variable {m later : Tokenizer}

theorem nextChar_further (moved : m.nextChar = some later) :
    (later.current = none ∧ later.read = m.read ∨ m.read < later.read ∧ m.read < m.source.length) ∧
      later.source = m.source := by
  obtain ⟨ahead, bytes, rfl⟩ := Option.map_eq_some_iff.mp moved
  refine ⟨?_, rfl⟩
  cases found : first? ahead with
  | none => exact .inl ⟨rfl, rfl⟩
  | some pair =>
    obtain ⟨more, positive⟩ := first?_positive found
    refine .inr ⟨Nat.lt_add_of_pos_right positive, ?_⟩
    unfold bytesBetween? at bytes
    split at bytes
    · refine Nat.lt_of_not_le fun none => more ?_
      rw [← Option.some.inj bytes, List.drop_eq_nil_of_le none, List.take_nil]
    · cases bytes

theorem nextChar_measure (moved : m.nextChar = some later) : later.measure ≤ m.measure := by
  obtain ⟨further, source⟩ := nextChar_further moved
  have last := Bool.toNat_le later.current.isSome
  unfold measure
  rcases further with ⟨ended, same⟩ | further
  · rw [ended, same, source]
    exact Nat.le_add_right _ _
  · rw [source]
    omega

theorem nextChar_less (moved : m.nextChar = some later) (stands : m.current.isSome) : later.measure < m.measure := by
  obtain ⟨further, source⟩ := nextChar_further moved
  have last := Bool.toNat_le later.current.isSome
  unfold measure
  rw [stands, source]
  rcases further with ⟨ended, same⟩ | further
  · rw [ended, same]
    exact Nat.lt_succ_self _
  · rw [Bool.toNat_true]
    omega

def skipWhile (p : Char → Bool) (m : Tokenizer) : Option (Nat × Tokenizer) :=
  if _stands : m.is p then
    match _moved : m.nextChar with
    | none => none
    | some later => (later.skipWhile p).map fun skipped => (skipped.1 + 1, skipped.2)
  else some (0, m)
termination_by m.measure
decreasing_by exact nextChar_less _moved (Option.isSome_of_any _stands)

theorem skipWhile_measure {p : Char → Bool} {m : Tokenizer} {skipped : Nat × Tokenizer}
    (done : m.skipWhile p = some skipped) : skipped.2.measure ≤ m.measure := by
  fun_induction skipWhile p m generalizing skipped with
  | case1 => cases done
  | case2 m stands later moved ih =>
    obtain ⟨rest, more, rfl⟩ := Option.map_eq_some_iff.mp done
    have further := ih more
    exact Nat.le_trans further (nextChar_measure moved)
  | case3 m stays =>
    cases done
    exact Nat.le_refl _

def scanIdentifier (m : Tokenizer) : Option (Token × Tokenizer) := do
  let name ← m.skipWhile isNameCharacter
  name.2.token .identifier

def scanExponent (m : Tokenizer) (kind : TokenKind) : Option (Token × Tokenizer) := do
  if m.is isExponentMark then
    let m ← m.nextChar
    let m ← m.nextIf isSign
    let power ← m.skipWhile (isDigitOf 10)
    if power.1 = 0 then power.2.invalidToken .floatNumber false else power.2.token .float
  else m.token kind

def scanFraction (m : Tokenizer) : Option (Token × Tokenizer) := do
  let places ← m.skipWhile (isDigitOf 10)
  places.2.scanExponent .float

def scanDecimal (m : Tokenizer) : Option (Token × Tokenizer) := do
  if m.is (· = '.') then
    let m ← m.nextChar
    m.scanFraction
  else m.scanExponent .integer

def scanMagnitude (m : Tokenizer) : Option (Token × Tokenizer) := do
  if m.is (· = '0') then
    let m ← m.nextChar
    if m.is isHexMark then
      let m ← m.nextChar
      let code ← m.skipWhile (isDigitOf 16)
      if code.1 = 0 then code.2.invalidToken .hexadecimalNumber false else code.2.token .integer
    else
      let octal ← m.skipWhile (isDigitOf 8)
      let others ← octal.2.skipWhile (isDigitOf 10)
      if others.2.is fun c => c = '.' || isExponentMark c then others.2.scanDecimal
      else if others.1 = 0 then others.2.token .integer
      else others.2.invalidToken .octalNumber false
  else
    let digits ← m.skipWhile (isDigitOf 10)
    digits.2.scanDecimal

def scanNumber (m : Tokenizer) : Option (Token × Tokenizer) := do
  if m.is (· = '-') then
    let m ← m.nextChar
    if m.is (· = '.') then
      let m ← m.nextChar
      if m.is (isDigitOf 10) then m.scanFraction else m.invalidToken .number false
    else if m.is (isDigitOf 10) then m.scanMagnitude
    else m.invalidToken .number false
  else m.scanMagnitude

def skipDigits (m : Tokenizer) (base least : Nat) : Option (Bool × Tokenizer) :=
  (m.skipWhile (isDigitOf base)).map fun digits => (decide (least ≤ digits.1), digits.2)

def skipEscape (m : Tokenizer) : Option (Bool × Tokenizer) := do
  let m ← m.nextChar
  match m.current with
  | none => some (false, m)
  | some c =>
    if c ∈ ['a', 'b', 'f', 'n', 'r', 't', 'v', '\\', '"', '\''] then m.nextChar.map (true, ·)
    else if isDigitOf 8 c then m.skipDigits 8 3
    else if c = 'x' then m.nextChar.bind (·.skipDigits 16 2)
    else if c = 'u' then m.nextChar.bind (·.skipDigits 16 4)
    else if c = 'U' then m.nextChar.bind (·.skipDigits 16 8)
    else some (false, m)

theorem skipDigits_measure {base least : Nat} {skipped : Bool × Tokenizer}
    (done : m.skipDigits base least = some skipped) : skipped.2.measure ≤ m.measure := by
  obtain ⟨digits, run, rfl⟩ := Option.map_eq_some_iff.mp done
  exact skipWhile_measure run

theorem skipEscape_less {skipped : Bool × Tokenizer} (done : m.skipEscape = some skipped)
    (stands : m.current.isSome) : skipped.2.measure < m.measure := by
  obtain ⟨later, moved, rest⟩ := Option.bind_eq_some_iff.mp done
  refine Nat.lt_of_le_of_lt ?_ (nextChar_less moved stands)
  have behindMark : ∀ {least : Nat}, later.nextChar.bind (·.skipDigits 16 least) = some skipped →
      skipped.2.measure ≤ later.measure := fun digits => by
    obtain ⟨mark, moved, run⟩ := Option.bind_eq_some_iff.mp digits
    exact Nat.le_trans (skipDigits_measure run) (nextChar_measure moved)
  split at rest
  · cases rest
    exact Nat.le_refl _
  · repeat' split at rest
    · obtain ⟨last, moved, rfl⟩ := Option.map_eq_some_iff.mp rest
      exact nextChar_measure moved
    · exact skipDigits_measure rest
    · exact behindMark rest
    · exact behindMark rest
    · exact behindMark rest
    · cases rest
      exact Nat.le_refl _

def scanStringRest (raw : Bool) (delimiter : Option Char) (m : Tokenizer) : Option (Token × Tokenizer) :=
  match m.bad with
  | some error => m.invalidToken error true
  | none =>
    match _stands : m.current with
    | none => m.invalidToken .openString true
    | some c =>
      if c = byteOrderMark then m.invalidToken .byteOrderMark true
      else if some c = delimiter then m.nextChar.bind (·.token .string)
      else if c = '\n' && !raw then m.invalidToken .openString false
      else if c = '\\' && !raw then
        match _escaped : m.skipEscape with
        | none => none
        | some (true, later) => later.scanStringRest raw delimiter
        | some (false, later) => later.invalidToken .escape false
      else
        match _moved : m.nextChar with
        | none => none
        | some later => later.scanStringRest raw delimiter
termination_by m.measure
decreasing_by
  · exact skipEscape_less _escaped (Option.isSome_of_eq_some _stands)
  · exact nextChar_less _moved (Option.isSome_of_eq_some _stands)

def scanString (m : Tokenizer) (raw : Bool) : Option (Token × Tokenizer) :=
  m.nextChar.bind (·.scanStringRest raw m.current)

def dropNewline (read : Token × Tokenizer) : Token × Tokenizer :=
  if read.1.kind = .comment then ({ read.1 with text := .ofList read.1.text.toList.dropLast }, read.2) else read

-- The newline behind a line comment is read with it and left out of its text.
def scanLineComment (m : Tokenizer) : Option (Token × Tokenizer) :=
  match _moved : m.nextChar with
  | none => none
  | some later =>
    match later.bad with
    | some error => later.invalidToken error true
    | none =>
      match _stands : later.current with
      | none => later.token .comment
      | some c =>
        if c = '\n' then later.nextChar.bind fun past => (past.token .comment).map dropNewline
        else if c = byteOrderMark then later.invalidToken .byteOrderMark true
        else later.scanLineComment
termination_by m.source.length - m.read
decreasing_by
  obtain ⟨further, source⟩ := nextChar_further _moved
  rcases further with ⟨ended, _⟩ | further
  · cases _stands.symm.trans ended
  · rw [source]
    omega

def scanBlockRest (m : Tokenizer) : Option (Token × Tokenizer) :=
  match m.bad with
  | some error => m.invalidToken error true
  | none =>
    match _stands : m.current with
    | none => m.invalidToken .openComment true
    | some c =>
      if c = byteOrderMark then m.invalidToken .byteOrderMark true
      else
        match _moved : m.nextChar with
        | none => none
        | some later =>
          if c = '*' && later.is (· = '/') then later.nextChar.bind (·.token .comment)
          else later.scanBlockRest
termination_by m.measure
decreasing_by exact nextChar_less _moved (Option.isSome_of_eq_some _stands)

def scanBlockComment (m : Tokenizer) : Option (Token × Tokenizer) := m.nextChar.bind (·.scanBlockRest)

def scanSlash (m : Tokenizer) : Option (Token × Tokenizer) :=
  if m.is (· = '/') then m.scanLineComment
  else if m.is (· = '*') then m.scanBlockComment
  else m.invalidToken (.strayCharacter "'/'") false

def single (m : Tokenizer) (kind : TokenKind) : Option (Token × Tokenizer) := m.nextChar.bind (·.token kind)

def closing (closable : Bool) (read : Token × Tokenizer) : Token × Tokenizer :=
  (read.1, { read.2 with closable })

def terminator (m : Tokenizer) : Token × Tokenizer := closing false (m.make .semicolon "\n", m)

def scanCharacter (m : Tokenizer) (c : Char) : Option (Token × Tokenizer) := do
  if isLetter c then m.scanIdentifier.map fun read => closing (read.1.kind = .identifier) read
  else if c = '-' || isDigitOf 10 c then m.scanNumber.map (closing true)
  else if c = byteOrderMark then (m.invalidToken .byteOrderMark true).map (closing false)
  else if c = backtick then (m.scanString true).map (closing true)
  else if c = '"' then (m.scanString false).map (closing true)
  else if c = '.' then
    let m ← m.nextChar
    if m.is (isDigitOf 10) then m.scanFraction.map (closing true) else (m.token .period).map (closing false)
  else if c = '/' then
    if m.closable then some m.terminator
    else
      let m ← m.nextChar
      m.scanSlash.map (closing false)
  else
    match punctuation? c with
    | some kind => (m.single kind).map (closing (kind ∈ [.closeParen, .closeBracket, .closeBrace]))
    | none => m.invalidToken (.strayCharacter (shown c)) true

def scan (m : Tokenizer) : Option (Token × Tokenizer) :=
  match m.bad, m.current with
  | some error, _ => m.invalidToken error true
  | none, some c => m.scanCharacter c
  | none, none => some (if m.closable then m.terminator else closing false (m.make .endOfFile "", m))

def next (m : Tokenizer) : Option (Token × Tokenizer) := do
  let blanks ← m.skipWhile (Scanner.isBlank m.closable)
  blanks.2.beginToken.scan

def first : Nat → Tokenizer → Option (List Token × Tokenizer)
  | 0, m => some ([], m)
  | n + 1, m => do
    let read ← m.next
    let more ← read.2.first n
    some (read.1 :: more.1, more.2)

end Tokenizer
end WireSchema

import WireSchema.Text.Encoding
import WireSchema.Text.Writing
import WireSchema.Token.Kind

-- Reading one token off the front of a text. Every reader says which characters it went over, how
-- it ended and what is left; the characters and what is left are the text it was given.
namespace WireSchema.Scan
open Text

-- How a reader ends. An error may take the character it stopped at with it; that makes a
-- difference at the end of the text too, where the column moves on.
inductive Ending where
  | accepted (kind : TokenKind)
  | rejected (error : LexicalError) (takesNext : Bool)
deriving DecidableEq

structure Reading where
  taken : List Char
  ending : Ending
  rest : List Atom

def Reading.after (front : List Char) (r : Reading) : Reading := { r with taken := front ++ r.taken }

def run (p : Char → Bool) : List Atom → List Char × List Atom
  | .char c :: rest =>
    if p c then
      let more := run p rest
      (c :: more.1, more.2)
    else ([], .char c :: rest)
  | rest => ([], rest)

def one (p : Char → Bool) : List Atom → List Char × List Atom
  | .char c :: rest => if p c then ([c], rest) else ([], .char c :: rest)
  | rest => ([], rest)

def startsWith (p : Char → Bool) : List Atom → Bool
  | .char c :: _ => p c
  | _ => false

def forbidden? : Atom → Option LexicalError
  | .stray _ => some .encoding
  | .char c => if c = '\x00' then some .nul else if c = byteOrderMark then some .byteOrderMark else none

def keywordOr (name : List Char) : TokenKind :=
  match Keyword.ofText? (.ofList name) with
  | some word => .keyword word
  | none => .identifier

def name (first : Char) (atoms : List Atom) : Reading :=
  let tail := run isNameCharacter atoms
  ⟨first :: tail.1, .accepted (keywordOr (first :: tail.1)), tail.2⟩

def isExponentMark (c : Char) : Bool := c = 'e' || c = 'E'

def isSign (c : Char) : Bool := c = '+' || c = '-'

def isHexMark (c : Char) : Bool := c = 'x' || c = 'X'

def exponent (kind : TokenKind) (atoms : List Atom) : Reading :=
  let mark := one isExponentMark atoms
  if mark.1.isEmpty then ⟨[], .accepted kind, atoms⟩
  else
    let sign := one isSign mark.2
    let power := run (isDigitOf 10) sign.2
    ⟨mark.1 ++ sign.1 ++ power.1,
      if power.1.isEmpty then .rejected .floatNumber false else .accepted .float, power.2⟩

def fraction (atoms : List Atom) : Reading :=
  let places := run (isDigitOf 10) atoms
  (exponent .float places.2).after places.1

def wholePart (atoms : List Atom) : Reading :=
  let point := one (· = '.') atoms
  if point.1.isEmpty then exponent .integer atoms else (fraction point.2).after point.1

def zero (atoms : List Atom) : Reading :=
  let mark := one isHexMark atoms
  if mark.1.isEmpty then
    let octal := run (isDigitOf 8) atoms
    let others := run (isDigitOf 10) octal.2
    if startsWith (fun c => c = '.' || isExponentMark c) others.2 then
      (wholePart others.2).after (octal.1 ++ others.1)
    else
      ⟨octal.1 ++ others.1,
        if others.1.isEmpty then .accepted .integer else .rejected .octalNumber false, others.2⟩
  else
    let code := run (isDigitOf 16) mark.2
    ⟨mark.1 ++ code.1,
      if code.1.isEmpty then .rejected .hexadecimalNumber false else .accepted .integer, code.2⟩

def number (first : Char) (atoms : List Atom) : Reading :=
  if first = '0' then (zero atoms).after ['0']
  else
    let digits := run (isDigitOf 10) atoms
    (wholePart digits.2).after (first :: digits.1)

def negative (atoms : List Atom) : Reading :=
  match atoms with
  | .char c :: rest =>
    if c = '.' then
      if startsWith (isDigitOf 10) rest then (fraction rest).after [c]
      else ⟨[c], .rejected .number false, rest⟩
    else if isDigitOf 10 c then number c rest
    else ⟨[], .rejected .number false, atoms⟩
  | _ => ⟨[], .rejected .number false, atoms⟩

def backtick : Char := '\x60'

def rawString : List Atom → Reading
  | [] => ⟨[], .rejected .openString true, []⟩
  | atom :: rest =>
    match forbidden? atom, atom with
    | some error, _ => ⟨[], .rejected error true, atom :: rest⟩
    | none, .char c =>
      if c = backtick then ⟨[c], .accepted .string, rest⟩ else (rawString rest).after [c]
    | none, .stray _ => ⟨[], .rejected .encoding true, atom :: rest⟩

-- What a quoted string is in the middle of: nothing, an escape that has only its backslash, or an
-- escape with digits of a base of which so many are still owed.
inductive Escape where
  | none
  | opened
  | digits (base : Nat) (owed : Nat)
deriving DecidableEq

def Escape.next? : Escape → Char → Option Escape
  | .none, _ => some .none
  | .opened, c =>
    if c ∈ ['a', 'b', 'f', 'n', 'r', 't', 'v', '\\', '"', '\''] then some .none
    else if isDigitOf 8 c then some (.digits 8 2)
    else if c = 'x' then some (.digits 16 2)
    else if c = 'u' then some (.digits 16 4)
    else if c = 'U' then some (.digits 16 8)
    else Option.none
  | .digits base owed, c =>
    if isDigitOf base c then some (if owed ≤ 1 then .none else .digits base (owed - 1))
    else Option.none

def quotedString : Escape → List Atom → Reading
  | .none, [] => ⟨[], .rejected .openString true, []⟩
  | .none, atom :: rest =>
    match forbidden? atom, atom with
    | some error, _ => ⟨[], .rejected error true, atom :: rest⟩
    | none, .char c =>
      if c = '"' then ⟨[c], .accepted .string, rest⟩
      else if c = '\n' then ⟨[], .rejected .openString false, atom :: rest⟩
      else (quotedString (if c = '\\' then .opened else .none) rest).after [c]
    | none, .stray _ => ⟨[], .rejected .encoding true, atom :: rest⟩
  | escape, .char c :: rest =>
    match escape.next? c with
    | some left => (quotedString left rest).after [c]
    | none => ⟨[], .rejected .escape false, .char c :: rest⟩
  | _, rest => ⟨[], .rejected .escape false, rest⟩

-- What follows the two slashes of a line comment; the newline belongs to it.
def lineComment : List Atom → Reading
  | [] => ⟨[], .accepted .comment, []⟩
  | atom :: rest =>
    match forbidden? atom, atom with
    | some error, _ => ⟨[], .rejected error true, atom :: rest⟩
    | none, .char c =>
      if c = '\n' then ⟨[c], .accepted .comment, rest⟩ else (lineComment rest).after [c]
    | none, .stray _ => ⟨[], .rejected .encoding true, atom :: rest⟩

def blockComment : List Atom → Reading
  | [] => ⟨[], .rejected .openComment true, []⟩
  | .char '*' :: .char '/' :: rest => ⟨['*', '/'], .accepted .comment, rest⟩
  | atom :: rest =>
    match forbidden? atom, atom with
    | some error, _ => ⟨[], .rejected error true, atom :: rest⟩
    | none, .char c => (blockComment rest).after [c]
    | none, .stray _ => ⟨[], .rejected .encoding true, atom :: rest⟩

def slash : List Atom → Reading
  | .char '/' :: rest => (lineComment rest).after ['/']
  | .char '*' :: rest => (blockComment rest).after ['*']
  | rest => ⟨[], .rejected (.strayCharacter "'/'") false, rest⟩

def single (kind : TokenKind) (rest : List Atom) : Reading := ⟨[], .accepted kind, rest⟩

def punctuation? : Char → Option TokenKind
  | ';' | '\n' => some .semicolon
  | '(' => some .openParen
  | ')' => some .closeParen
  | '[' => some .openBracket
  | ']' => some .closeBracket
  | '\x7b' => some .openBrace
  | '\x7d' => some .closeBrace
  | ',' => some .comma
  | '*' => some .asterisk
  | '=' => some .assign
  | _ => none

def shown (c : Char) : String :=
  if isControl c then
    let digits := (Nat.toDigits 16 c.toNat).map Char.toUpper
    .ofList ('U' :: '+' :: .replicate (4 - digits.length) '0' ++ digits)
  else .ofList ['\'', c, '\'']

-- Whether a statement may end after a token: yes, no, or as it was before the token. A name only
-- ends a statement when it is an identifier.
inductive Closing where
  | yes | no | asBefore | ofIdentifier
deriving DecidableEq

-- The token that starts with `c`, and what it does to the end of statements. A minus sign or a
-- digit always starts a number and a quote always a string, whether or not they come out well.
def token (c : Char) (rest : List Atom) : Reading × Closing :=
  if isLetter c then (name c rest, .ofIdentifier)
  else if c = '-' then ((negative rest).after [c], .yes)
  else if isDigitOf 10 c then (number c rest, .yes)
  else if c = byteOrderMark then (⟨[], .rejected .byteOrderMark true, .char c :: rest⟩, .no)
  else if c = backtick then ((rawString rest).after [c], .yes)
  else if c = '"' then ((quotedString .none rest).after [c], .yes)
  else if c = '.' then
    if startsWith (isDigitOf 10) rest then ((fraction rest).after [c], .yes)
    else ((single .period rest).after [c], .no)
  else if c = '/' then ((slash rest).after [c], .no)
  else
    match punctuation? c with
    | some kind =>
      ((single kind rest).after [c], if kind ∈ [.closeParen, .closeBracket, .closeBrace] then .yes else .no)
    | none => (⟨[], .rejected (.strayCharacter (shown c)) true, .char c :: rest⟩, .asBefore)

inductive Found where
  | endOfFile
  | terminator
  | reading (r : Reading) (closing : Closing)

-- Where a statement may end, the end of the text ends it, and so does a slash: the comment that the
-- slash may start is read on its own afterwards.
def front (closable : Bool) : List Atom → Found
  | [] => if closable then .terminator else .endOfFile
  | .stray byte :: rest => .reading ⟨[], .rejected .encoding true, .stray byte :: rest⟩ .asBefore
  | .char c :: rest =>
    if c = '\x00' then .reading ⟨[], .rejected .nul true, .char c :: rest⟩ .asBefore
    else if c = '/' && closable then .terminator
    else
      let found := token c rest
      .reading found.1 found.2

end WireSchema.Scan

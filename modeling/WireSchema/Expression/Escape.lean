import WireSchema.Expression.Basic
import WireSchema.Expression.Mode
import WireSchema.Property.Named

-- What a character stands for behind a backslash.
namespace WireSchema.Expression
open Text

-- A single character, which may be written as a byte with two digits; any character of a set; or a
-- question about the place.
inductive Atom where
  | character (c : Char) (byte : Bool)
  | set (characters : CharacterSet)
  | look (l : Look)
deriving DecidableEq

namespace Atom

def digits? (mode : Mode) : Nat → List Char → Option (List Char × List Char)
  | 0, text => some ([], text)
  | more + 1, text =>
    match mode.ahead text with
    | [] => none
    | c :: rest => (digits? mode more rest).map fun (others, after) => (c :: others, after)

def coded? (digits : List Char) : Option Char :=
  if digits.isEmpty || !digits.all (isDigitOf 16) then none
  else
    let code := Property.hexadecimal digits
    if code.isValidChar then some (.ofNat code) else none

def hexadecimal? (mode : Mode) (count : Nat) (text : List Char) : Option (Atom × List Char) :=
  match mode.ahead text with
  | '\x7b' :: rest => do
    let (digits, after) ← mode.braced? false rest
    pure (.character (← coded? digits) false, after)
  | _ => do
    let (digits, after) ← digits? mode count text
    pure (.character (← coded? digits) (count = 2), after)

def cutUnequal? : List Char → Option (List Char × List Char)
  | '!' :: '=' :: rest => some ([], rest)
  | c :: rest => (cutUnequal? rest).map fun (before, after) => (c :: before, after)
  | [] => none

-- The characters of a property, which may come with a value. The sign between them does not matter.
def named? (name : List Char) : Option CharacterSet :=
  match cutUnequal? name <|> cut? ':' name <|> cut? '=' name with
  | some (property, value) => Property.ofValue? property value
  | none => Property.ofName? name

def property? (mode : Mode) (negated : Bool) (text : List Char) : Option (Atom × List Char) := do
  let (name, after) ← match mode.ahead text with
    | '\x7b' :: rest => mode.braced? false rest
    | '\\' :: _ => none
    | c :: rest => some ([c], rest)
    | [] => none
  if !mode.unicode then none
  else pure (.set (← mode.settled? negated (mode.folded (← named? name))), after)

def digit (mode : Mode) : CharacterSet :=
  if mode.unicode then Property.decimalDigit else .range '0' '9'

def space (mode : Mode) : CharacterSet :=
  if mode.unicode then Property.whiteSpace else .ofRanges [(0x09, 0x0D), (0x20, 0x20)]

def word (mode : Mode) : CharacterSet :=
  if mode.unicode then Property.wordCharacter
  else .ofRanges [(0x30, 0x39), (0x41, 0x5A), (0x5F, 0x5F), (0x61, 0x7A)]

def edgeNamed? (name : List Char) : Option WordEdge :=
  match String.ofList name with
  | "start" => some .start
  | "end" => some .finish
  | "start-half" => some .startHalf
  | "end-half" => some .finishHalf
  | _ => none

-- A boundary of a word, which may be said to be of some kind in braces. Braces that hold no name
-- belong to what follows.
def boundary? (mode : Mode) (text : List Char) : Option (WordEdge × List Char) :=
  match text with
  | '\x7b' :: rest =>
    match mode.ahead rest with
    | [] => none
    | c :: _ =>
      if c.isAlpha || c = '-' then do
        let (name, after) ← mode.braced? false rest
        pure (← edgeNamed? name, after)
      else some (.boundary, text)
  | _ => some (.boundary, text)

def edge (mode : Mode) (kind : WordEdge) : Atom := .look (.word kind (!mode.unicode))

def escaped? (mode : Mode) : List Char → Option (Atom × List Char)
  | [] => none
  | c :: rest =>
    match c with
    | 'x' => hexadecimal? mode 2 rest
    | 'u' => hexadecimal? mode 4 rest
    | 'U' => hexadecimal? mode 8 rest
    | 'p' => property? mode false rest
    | 'P' => property? mode true rest
    | 'd' => some (.set (digit mode), rest)
    | 's' => some (.set (space mode), rest)
    | 'w' => some (.set (word mode), rest)
    | 'D' => (mode.settled? true (digit mode)).map fun found => (.set found, rest)
    | 'S' => (mode.settled? true (space mode)).map fun found => (.set found, rest)
    | 'W' => (mode.settled? true (word mode)).map fun found => (.set found, rest)
    | 'a' => some (.character '\x07' false, rest)
    | 'f' => some (.character '\x0c' false, rest)
    | 'n' => some (.character '\n' false, rest)
    | 'r' => some (.character '\r' false, rest)
    | 't' => some (.character '\t' false, rest)
    | 'v' => some (.character '\x0b' false, rest)
    | 'A' => some (.look .textStart, rest)
    | 'z' => some (.look .textEnd, rest)
    | 'b' => (boundary? mode rest).map fun (kind, after) => (edge mode kind, after)
    | 'B' => some (edge mode .noBoundary, rest)
    | '<' => some (edge mode .start, rest)
    | '>' => some (edge mode .finish, rest)
    | _ => if c.toNat < 0x80 && !c.isAlphanum then some (.character c false, rest) else none

end Atom
end WireSchema.Expression

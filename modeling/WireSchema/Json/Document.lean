import WireSchema.Text.Characters

-- A strict reader of JSON text. It keeps what a reader of settings asks for: the shape of the
-- document and its strings. Numbers are only checked.
namespace WireSchema.Json
open Text

-- A string is absent when it names half of a surrogate pair, which no text can hold.
inductive Document where
  | null
  | bool (value : Bool)
  | number
  | string (text : Option String)
  | array (items : List Document)
  | object (members : List (Option String × Document))

namespace Document

def isBlank (c : Char) : Bool := c = ' ' || c = '\t' || c = '\n' || c = '\r'

-- One character of a string as written: itself, or a UTF-16 unit in an escape.
inductive Piece where
  | char (c : Char)
  | unit (code : Nat)

def simpleEscape? : Char → Option Char
  | '"' => some '"'
  | '\\' => some '\\'
  | '/' => some '/'
  | 'b' => some '\x08'
  | 'f' => some '\x0c'
  | 'n' => some '\n'
  | 'r' => some '\r'
  | 't' => some '\t'
  | _ => none

def hexCode? (a b c d : Char) : Option Nat := do
  pure ((((← digitValue? a) * 16 + (← digitValue? b)) * 16 + (← digitValue? c)) * 16 +
    (← digitValue? d))

def stringPieces : List Char → Option (List Piece × List Char)
  | [] => none
  | '"' :: rest => some ([], rest)
  | '\\' :: 'u' :: a :: b :: c :: d :: rest => do
    let code ← hexCode? a b c d
    let (more, after) ← stringPieces rest
    pure (.unit code :: more, after)
  | '\\' :: escaped :: rest => do
    let c ← simpleEscape? escaped
    let (more, after) ← stringPieces rest
    pure (.char c :: more, after)
  | c :: rest => do
    if c.toNat < 0x20 || c = '\\' then none
    let (more, after) ← stringPieces rest
    pure (.char c :: more, after)

def isHigh (code : Nat) : Bool := 0xD800 ≤ code && code < 0xDC00

def isLow (code : Nat) : Bool := 0xDC00 ≤ code && code < 0xE000

-- A high unit and the low unit after it make one character; neither stands alone.
def joinPieces : List Piece → Option (List Char)
  | [] => some []
  | .char c :: rest => (joinPieces rest).map (c :: ·)
  | .unit high :: .unit low :: rest =>
    if isHigh high then
      if isLow low then
        (joinPieces rest).map (.ofNat (0x10000 + (high - 0xD800) * 0x400 + (low - 0xDC00)) :: ·)
      else none
    else if isLow high then none
    else (joinPieces (.unit low :: rest)).map (.ofNat high :: ·)
  | .unit code :: rest =>
    if isHigh code || isLow code then none else (joinPieces rest).map (.ofNat code :: ·)

def string? (text : List Char) : Option (Option String × List Char) :=
  (stringPieces text).map (fun (found, rest) => ((joinPieces found).map .ofList, rest))

def someDigits? (text : List Char) : Option (List Char) :=
  let rest := text.dropWhile (isDigitOf 10)
  if rest.length < text.length then some rest else none

def afterExponent? : List Char → Option (List Char)
  | 'e' :: '+' :: rest | 'e' :: '-' :: rest | 'E' :: '+' :: rest | 'E' :: '-' :: rest
  | 'e' :: rest | 'E' :: rest => someDigits? rest
  | rest => some rest

def afterFraction? : List Char → Option (List Char)
  | '.' :: rest => (someDigits? rest).bind afterExponent?
  | rest => afterExponent? rest

def afterUnsigned? : List Char → Option (List Char)
  | '0' :: c :: rest => if isDigitOf 10 c then none else afterFraction? (c :: rest)
  | text => (someDigits? text).bind afterFraction?

def afterNumber? : List Char → Option (List Char)
  | '-' :: rest => afterUnsigned? rest
  | text => afterUnsigned? text

mutual

-- The first value of a text and the text after it. Every level of nesting and every further item
-- takes at least one character, so twice the length of the text is fuel enough.
def value? : Nat → List Char → Option (Document × List Char)
  | 0, _ => none
  | fuel + 1, text =>
    match text.dropWhile isBlank with
    | 'n' :: 'u' :: 'l' :: 'l' :: rest => some (.null, rest)
    | 't' :: 'r' :: 'u' :: 'e' :: rest => some (.bool true, rest)
    | 'f' :: 'a' :: 'l' :: 's' :: 'e' :: rest => some (.bool false, rest)
    | '"' :: rest => (string? rest).map (fun (text, after) => (.string text, after))
    | '[' :: rest =>
      match rest.dropWhile isBlank with
      | ']' :: after => some (.array [], after)
      | inside => (items? fuel inside).map (fun (items, after) => (.array items, after))
    | '\x7b' :: rest =>
      match rest.dropWhile isBlank with
      | '\x7d' :: after => some (.object [], after)
      | inside => (members? fuel inside).map (fun (members, after) => (.object members, after))
    | other => (afterNumber? other).map (fun after => (.number, after))

def items? : Nat → List Char → Option (List Document × List Char)
  | 0, _ => none
  | fuel + 1, text => do
    let (item, rest) ← value? fuel text
    match rest.dropWhile isBlank with
    | ',' :: more => do
      let (items, after) ← items? fuel more
      pure (item :: items, after)
    | ']' :: after => pure ([item], after)
    | _ => none

def members? : Nat → List Char → Option (List (Option String × Document) × List Char)
  | 0, _ => none
  | fuel + 1, text =>
    match text.dropWhile isBlank with
    | '"' :: inside => do
      let (key, afterKey) ← string? inside
      match afterKey.dropWhile isBlank with
      | ':' :: afterColon => do
        let (member, rest) ← value? fuel afterColon
        match rest.dropWhile isBlank with
        | ',' :: more => do
          let (members, after) ← members? fuel more
          pure ((key, member) :: members, after)
        | '\x7d' :: after => pure ([(key, member)], after)
        | _ => none
      | _ => none
    | _ => none

end

def ofText? (text : List Char) : Option Document := do
  let (document, rest) ← value? (2 * text.length + 2) text
  if rest.all isBlank then pure document else none

end Document
end WireSchema.Json

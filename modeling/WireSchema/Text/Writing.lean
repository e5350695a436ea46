import WireSchema.Text.Characters

-- Where a text is cut, and how numbers and texts are written in it.
namespace WireSchema.Text

def pieces (separator : Char) : List Char → List (List Char)
  | [] => [[]]
  | c :: rest =>
    if c = separator then [] :: pieces separator rest
    else
      match pieces separator rest with
      | [] => [[c]]
      | first :: others => (c :: first) :: others

def cut? (separator : Char) : List Char → Option (List Char × List Char)
  | [] => none
  | c :: rest =>
    if c = separator then some ([], rest)
    else (cut? separator rest).map (fun (before, after) => (c :: before, after))

def trimEnd (blank : Char → Bool) (text : List Char) : List Char :=
  (text.reverse.dropWhile blank).reverse

end WireSchema.Text

-- Text between double quotes, with escapes for what cannot stand there.
namespace WireSchema.Text.Quoted

def hexDigit (n : Nat) : Char := if n < 10 then .ofNat ('0'.toNat + n) else .ofNat ('a'.toNat + n - 10)

def escape (c : Char) : List Char :=
  if c = '"' then ['\\', '"']
  else if c = '\\' then ['\\', '\\']
  else if c = '\x08' then ['\\', 'b']
  else if c = '\x0c' then ['\\', 'f']
  else if c = '\n' then ['\\', 'n']
  else if c = '\r' then ['\\', 'r']
  else if c = '\t' then ['\\', 't']
  else if c.toNat < 0x20 then ['\\', 'u', '0', '0', hexDigit (c.toNat / 16), hexDigit (c.toNat % 16)]
  else [c]

def encode (text : List Char) : List Char := '"' :: (text.flatMap escape ++ ['"'])

end WireSchema.Text.Quoted

namespace WireSchema.Text

def quote (text : String) : String := .ofList (Quoted.encode text.toList)

end WireSchema.Text

-- Decimal numerals, written without leading zeros and read with any number of them.
namespace WireSchema.Text.Decimal

def digit (n : Nat) : Char := .ofNat ('0'.toNat + n)

def digits (n : Nat) : List Char :=
  if n < 10 then [digit n] else digits (n / 10) ++ [digit (n % 10)]

def ofInt (n : Int) : List Char := if n < 0 then '-' :: digits n.natAbs else digits n.natAbs

def text (n : Int) : String := .ofList (ofInt n)

def value (numeral : List Char) : Nat :=
  numeral.foldl (fun sum c => sum * 10 + (digitValue? c).getD 0) 0

def natural? (numeral : List Char) : Option Nat :=
  if numeral.isEmpty then none
  else if numeral.all (isDigitOf 10) then some (value numeral) else none

def integer? : List Char → Option Int
  | '-' :: numeral => (natural? numeral).map (fun n => -(n : Int))
  | '+' :: numeral => (natural? numeral).map (fun n => (n : Int))
  | numeral => (natural? numeral).map (fun n => (n : Int))

end WireSchema.Text.Decimal

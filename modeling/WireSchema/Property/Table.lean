import WireSchema.Text.CharacterSet
import WireSchema.Text.Characters
import WireSchema.Text.Writing

-- How tables of character properties are written: words between blanks, with code points in
-- hexadecimal.
namespace WireSchema.Property
open Text

def words (text : String) : List (List Char) :=
  (pieces ' ' (text.toList.map fun c => if c = '\n' then ' ' else c)).filter (!·.isEmpty)

def hexadecimal (digits : List Char) : Nat :=
  digits.foldl (fun sum c => sum * 16 + (digitValue? c).getD 0) 0

def listed (text : String) : List String := (pieces ',' text.toList).map String.ofList

def pairs : List (List Char) → List (String × String)
  | first :: second :: rest => (.ofList first, .ofList second) :: pairs rest
  | _ => []

-- Every so many code points from one to another, written as `41`, `41-5A` or `100-12E/2`.
structure Run where
  first : Nat
  last : Nat
  step : Nat
deriving DecidableEq

namespace Run

def ofWord (word : List Char) : Run :=
  let (span, step) := match cut? '/' word with
    | some (span, digits) => (span, hexadecimal digits)
    | none => (word, 1)
  match cut? '-' span with
  | some (first, last) => ⟨hexadecimal first, hexadecimal last, step⟩
  | none => ⟨hexadecimal span, hexadecimal span, step⟩

def codes (run : Run) : List Nat :=
  (List.range ((run.last - run.first) / run.step + 1)).map (run.first + run.step * ·)

def changes (run : Run) : List Nat :=
  if run.step = 1 then [run.first, run.last + 1] else run.codes.flatMap fun code => [code, code + 1]

end Run

def setOfText (text : String) : CharacterSet :=
  ⟨(words text).flatMap fun word => (Run.ofWord word).changes⟩

-- A value for every code point: where a value begins, and the value from there on.
abbrev Assignment := List (Nat × String)

namespace Assignment

def ofText (text : String) : Assignment :=
  (pairs (words text)).map fun (start, value) => (hexadecimal start.toList, value)

def changes (wanted : String → Bool) (held : Bool) : Assignment → List Nat
  | [] => if held then [CharacterSet.maximum + 1] else []
  | (start, value) :: rest =>
    if wanted value = held then changes wanted held rest else start :: changes wanted (!held) rest

def select (table : Assignment) (wanted : String → Bool) : CharacterSet :=
  ⟨table.changes wanted false⟩

end Assignment
end WireSchema.Property

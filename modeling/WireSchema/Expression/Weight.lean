import WireSchema.Expression.Basic

-- The room an expression takes as a machine that reads text byte by byte. Expressions that take too
-- much are refused.
namespace WireSchema.Expression
open Text

def codesIn : Nat → Nat
  | 0 => 1
  | bytes + 1 => 64 * codesIn bytes

-- The bytes of the characters from one code to another that have the same length, given the number of
-- bytes behind the first one: rows of byte ranges, each row with the same length.
def byteRows (lead : Nat) : Nat → Nat → Nat → List (List (Nat × Nat))
  | 0, first, last => [[(lead + first, lead + last)]]
  | more + 1, first, last =>
    let unit := codesIn (more + 1)
    let rest (head : Nat × Nat) (first last : Nat) : List (List (Nat × Nat)) :=
      (byteRows 0x80 more first last).map (head :: ·)
    let head (n : Nat) : Nat × Nat := (lead + n, lead + n)
    let (a, low) := (first / unit, first % unit)
    let (b, high) := (last / unit, last % unit)
    if a = b then rest (head a) low high
    else
      let (before, full) := if low = 0 then ([], a) else (rest (head a) low (unit - 1), a + 1)
      let (behind, after) := if high = unit - 1 then ([], b + 1) else (rest (head b) 0 high, b)
      before ++ (if full < after then rest (lead + full, lead + after - 1) 0 (unit - 1) else []) ++ behind

-- The lengths of encoded characters: the first and the last code of each, what is added to the first
-- byte, and the number of bytes behind it. Surrogates are no characters.
def encodings : List (Nat × Nat × Nat × Nat) :=
  [(0x00, 0x7F, 0x00, 0), (0x80, 0x7FF, 0xC0, 1), (0x800, 0xD7FF, 0xE0, 2), (0xE000, 0xFFFF, 0xE0, 2),
    (0x10000, CharacterSet.maximum, 0xF0, 3)]

def rowsOfRange (range : Nat × Nat) : List (List (Nat × Nat)) :=
  encodings.flatMap fun (first, last, lead, more) =>
    let (low, high) := (max first range.1, min last range.2)
    if low ≤ high then byteRows lead more low high else []

-- How many byte ranges are new in rows where a row shares what it starts with with the row before it.
def newRanges (previous : List (Nat × Nat)) : List (List (Nat × Nat)) → Nat
  | [] => 0
  | row :: rest => (row.length - shared previous row) + newRanges row rest
where
  shared : List (Nat × Nat) → List (Nat × Nat) → Nat
    | x :: xs, y :: ys => if x = y then shared xs ys + 1 else 0
    | _, _ => 0

def stateRoom : Nat := 32

def rangeRoom : Nat := 8

def wayRoom : Nat := 4

def setWeight (characters : CharacterSet) : Nat :=
  if characters.isSubset .ascii then 2 * stateRoom + rangeRoom * characters.ranges.length
  else
    let rows := characters.ranges.flatMap rowsOfRange
    stateRoom * (2 + newRanges [] rows) + wayRoom * rows.length

-- Choices among choices, as `inner` says this one is, share one state where they part and one where
-- they meet.
def weighed (inner : Bool) : Expression → Nat
  | .either first second => (if inner then 0 else 2 * stateRoom) + weighed true first + weighed true second
  | .empty => way + stateRoom
  | .character c => way + stateRoom * c.utf8Size
  | .set characters => way + setWeight characters
  | .look _ => way + stateRoom
  | .group e => way + 2 * stateRoom + weighed false e
  | .sequence first second => way + weighed false first + weighed false second
  | .counted e least none =>
    let own := weighed false e
    way + (if least ≠ 0 then least * own + stateRoom + 2 * wayRoom
      else if mustConsume e then own + stateRoom + 2 * wayRoom
      else own + 3 * stateRoom + 4 * wayRoom)
  | .counted e least (some most) =>
    let own := weighed false e
    way + (if least = 0 ∧ most = 1 then own + 2 * stateRoom + 2 * wayRoom
      else
        (if least = 0 then stateRoom else least * own) +
          (if most ≤ least then 0 else stateRoom + (most - least) * (stateRoom + 2 * wayRoom + own)))
where
  way : Nat := if inner then wayRoom else 0

-- The whole machine has a start, an end, and a group around everything.
def weight (e : Expression) : Nat := 4 * stateRoom + weighed false e

def weightLimit : Nat := 10 * 1024 * 1024

def isAffordable (e : Expression) : Bool := e.weight ≤ weightLimit

end WireSchema.Expression

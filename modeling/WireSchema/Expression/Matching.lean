import WireSchema.Expression.Reading
import WireSchema.Glob.Pattern
import WireSchema.Property.Derived

-- Where in a text an expression fits. All places are followed at once, so that the work grows with the
-- length of the text and not with the number of ways to divide it.
namespace WireSchema.Expression
open Text

structure Place where
  before : Option Char
  after : Option Char
deriving DecidableEq

namespace Place

def ofText (before : Option Char) : List Char → List Place
  | [] => [⟨before, none⟩]
  | c :: rest => ⟨before, some c⟩ :: ofText (some c) rest

end Place

namespace Look

def isWord (ascii : Bool) (c : Char) : Bool :=
  if ascii then c = '_' || (c.toNat < 0x80 && c.isAlphanum) else Property.wordCharacter.contains c

-- A line does not start or end between a carriage return and its newline.
def holds (p : Place) : Look → Bool
  | .textStart => p.before.isNone
  | .textEnd => p.after.isNone
  | .lineStart false => p.before.isNone || p.before = some '\n'
  | .lineEnd false => p.after.isNone || p.after = some '\n'
  | .lineStart true =>
    p.before.isNone || p.before = some '\n' || (p.before = some '\r' && p.after ≠ some '\n')
  | .lineEnd true =>
    p.after.isNone || p.after = some '\r' || (p.after = some '\n' && p.before ≠ some '\r')
  | .word edge ascii =>
    let inBefore := p.before.any (isWord ascii)
    let inAfter := p.after.any (isWord ascii)
    match edge with
    | .boundary => inBefore != inAfter
    | .noBoundary => inBefore == inAfter
    | .start => !inBefore && inAfter
    | .finish => inBefore && !inAfter
    | .startHalf => !inBefore
    | .finishHalf => !inAfter

end Look

def advance (test : Char → Bool) : (arrived : Bool) → List Place → List Bool → List Bool
  | arrived, p :: places, mark :: marks =>
    arrived :: advance test (mark && p.after.any test) places marks
  | _, _, _ => []

-- What several steps from the marked places lead to. Once a step changes nothing, no further one does.
def after (step : List Bool → List Bool) : Nat → List Bool → List Bool
  | 0, marks => marks
  | more + 1, marks =>
    let next := step marks
    if next = marks then marks else after step more next

def within (step : List Bool → List Bool) : Nat → List Bool → List Bool
  | 0, marks => marks
  | more + 1, marks =>
    let next := List.zipWith (· || ·) marks (step marks)
    if next = marks then marks else within step more next

-- The places where an expression may end that starts at one of the marked places. There is no need to
-- repeat it more often than there are places.
def ends (places : List Place) : Expression → List Bool → List Bool
  | .empty, marks => marks
  | .character own, marks => advance (· = own) false places marks
  | .set characters, marks => advance characters.contains false places marks
  | .look l, marks => List.zipWith (fun p mark => mark && l.holds p) places marks
  | .group e, marks => ends places e marks
  | .sequence first second, marks => ends places second (ends places first marks)
  | .either first second, marks =>
    List.zipWith (· || ·) (ends places first marks) (ends places second marks)
  | .counted e least most, marks =>
    within (ends places e)
      (match most with
        | some most => most - least
        | none => places.length)
      (after (ends places e) least marks)

def occursIn (text : List Char) (e : Expression) : Bool :=
  let places := Place.ofText none text
  (ends places e (places.map fun _ => true)).any id

def operators : List Char :=
  ['\\', '.', '+', '*', '?', '(', ')', '|', '[', ']', '\x7b', '\x7d', '^', '$', '#', '&', '-', '~']

-- The regular expressions that the program itself brings along for its patterns.
instance : Regex where
  compile? text := (ofText? text).map fun e name => e.occursIn name
  escape c := if operators.contains c then ['\\', c] else [c]

end WireSchema.Expression

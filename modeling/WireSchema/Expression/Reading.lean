import WireSchema.Expression.Bracket
import WireSchema.Expression.Weight
import WireSchema.Text.Writing

-- From the text of an expression to the expression.
namespace WireSchema.Expression
open Text

structure Piece where
  expression : Expression
  depth : Nat
  repeats : Bool
deriving DecidableEq

def depthLimit : Nat := 250

namespace Piece

def ofAtom (e : Expression) : Piece := ⟨e, 0, true⟩

def deepest (pieces : List Piece) : Nat := (pieces.map (·.depth)).foldl max 0

def row (pieces : List Piece) : Piece :=
  match pieces with
  | [piece] => piece
  | _ => ⟨ofSequence (pieces.map (·.expression)), if pieces.isEmpty then 0 else deepest pieces + 1, true⟩

def choice (pieces : List Piece) : Piece :=
  match pieces with
  | [piece] => piece
  | _ => ⟨ofChoices (pieces.map (·.expression)), deepest pieces + 1, true⟩

def counted (least : Nat) (most : Option Nat) (piece : Piece) : Piece :=
  ⟨ofCount piece.expression least most, piece.depth + 1, true⟩

end Piece

-- What is read between the parentheses around it: the alternatives that are finished, and the pieces
-- of the one that is not, the last ones first.
structure Level where
  mode : Mode
  choices : List Piece
  pieces : List Piece

namespace Level

def opened (mode : Mode) : Level := ⟨mode, [], []⟩

def add (piece : Piece) (level : Level) : Level := { level with pieces := piece :: level.pieces }

def part (level : Level) : Level :=
  { level with choices := Piece.row level.pieces.reverse :: level.choices, pieces := [] }

def whole (level : Level) : Piece := Piece.choice level.part.choices.reverse

def count? (least : Nat) (most : Option Nat) (level : Level) : Option Level :=
  match level.pieces with
  | piece :: others =>
    if piece.repeats then some { level with pieces := piece.counted least most :: others } else none
  | [] => none

end Level

-- The level being read, the levels around it, each with whether the group in it is one that may be
-- asked for later, and the names of groups so far.
structure State where
  level : Level
  outer : List (Level × Bool)
  names : List (List Char)

inductive Opening where
  | group (name : Option (List Char))
  | plain (mode : Mode)
  | switch (mode : Mode)

-- The name of a group starts like a name and may have points and brackets.
def isGroupName : List Char → Bool
  | [] => false
  | c :: rest =>
    isLetter c && rest.all fun c => isNameCharacter c || c = '.' || c = '[' || c = ']'

def groupNamed? (text : List Char) : Option (Opening × List Char) := do
  let (name, after) ← cut? '>' text
  if isGroupName name then pure (.group (some name), after) else none

def modes? (mode : Mode) (text : List Char) : Option (Opening × List Char) :=
  let isLast (c : Char) : Bool := c = ':' || c = ')'
  let letters := text.takeWhile (!isLast ·)
  match text.dropWhile (!isLast ·) with
  | ':' :: after => (mode.switched? letters).map fun inside => (.plain inside, after)
  | ')' :: after =>
    if letters.isEmpty then none else (mode.switched? letters).map fun next => (.switch next, after)
  | _ => none

-- What stands behind an opening parenthesis. There is no looking ahead or back.
def opening? (mode : Mode) (text : List Char) : Option (Opening × List Char) :=
  match mode.ahead text with
  | '?' :: '=' :: _ | '?' :: '!' :: _ | '?' :: '<' :: '=' :: _ | '?' :: '<' :: '!' :: _ => none
  | '?' :: 'P' :: '<' :: rest | '?' :: '<' :: rest => groupNamed? rest
  | '?' :: rest => modes? mode rest
  | rest => some (.group none, rest)

def begin? (opening : Opening) (s : State) : Option State :=
  let inside (mode : Mode) (kept : Bool) (names : List (List Char)) : State :=
    ⟨.opened mode, (s.level, kept) :: s.outer, names⟩
  match opening with
  | .group none => some (inside s.level.mode true s.names)
  | .group (some name) =>
    if s.names.contains name then none else some (inside s.level.mode true (name :: s.names))
  | .plain mode => some (inside mode false s.names)
  | .switch mode => some { s with level := { (s.level.add ⟨.empty, 0, false⟩) with mode } }

-- Modes that were switched inside parentheses end with them.
def finish? (s : State) : Option State :=
  match s.outer with
  | [] => none
  | (around, kept) :: further =>
    let inside := s.level.whole
    let found := if kept then .group inside.expression else inside.expression
    some { s with level := around.add ⟨found, inside.depth + 1, true⟩, outer := further }

def numeral (mode : Mode) (comment : Bool) : List Char → List Char × List Char
  | [] => ([], [])
  | c :: rest =>
    if comment then numeral mode (c ≠ '\n') rest
    else if mode.spaced ∧ isWhiteSpace c then numeral mode false rest
    else if mode.spaced ∧ c = '#' then numeral mode true rest
    else if isDigitOf 10 c then
      let (digits, after) := numeral mode false rest
      (c :: digits, after)
    else ([], c :: rest)

def countLimit : Nat := 4294967295

def number? (mode : Mode) (text : List Char) : Option (Nat × List Char) :=
  let (digits, rest) := numeral mode false (text.dropWhile isWhiteSpace)
  (Decimal.natural? digits).bind fun n =>
    if n ≤ countLimit then some (n, rest.dropWhile isWhiteSpace) else none

def counts? (mode : Mode) (text : List Char) : Option ((Nat × Option Nat) × List Char) := do
  let (least, rest) ← number? mode (mode.ahead text)
  match rest with
  | '\x7d' :: after => pure ((least, some least), after)
  | ',' :: more =>
    match mode.ahead more with
    | '\x7d' :: after => pure ((least, none), after)
    | more =>
      let (most, rest) ← number? mode more
      match rest with
      | '\x7d' :: after => if least ≤ most then pure ((least, some most), after) else none
      | _ => none
  | _ => none

-- A question mark behind a repetition does not change where an expression occurs.
def withoutMark : List Char → List Char
  | '?' :: rest => rest
  | rest => rest

def point? (mode : Mode) : Option Expression :=
  if !mode.unicode then none
  else if mode.pointsAll then some (.set .all)
  else if mode.returns then some (.set (.complement (.ofCodes ['\n'.toNat, '\r'.toNat])))
  else some (.set (.complement (.single '\n')))

-- Without Unicode, a byte beyond ASCII is no character.
def ofAtom? (mode : Mode) : Atom → Option Expression
  | .character c byte =>
    if !mode.unicode && byte && c.toNat > 0x7F then none else some (ofSet (mode.folded (.single c)))
  | .set characters => some (ofSet characters)
  | .look l => some (.look l)

def simple? (mode : Mode) (c : Char) : Option Expression :=
  match c with
  | '.' => point? mode
  | '^' => some (.look (if mode.lines then .lineStart mode.returns else .textStart))
  | '$' => some (.look (if mode.lines then .lineEnd mode.returns else .textEnd))
  | _ => ofAtom? mode (.character c false)

def step (s : State) (text : List Char) : Option (Progress State Piece × List Char) :=
  let mode := s.level.mode
  let goOn (level : Level) (rest : List Char) : Progress State Piece × List Char :=
    (.more { s with level }, rest)
  match mode.ahead text with
  | [] => if s.outer.isEmpty then some (.done s.level.whole, []) else none
  | '(' :: rest => do
    let (opening, after) ← opening? mode rest
    pure (.more (← begin? opening s), after)
  | ')' :: rest => (finish? s).map fun next => (.more next, rest)
  | '|' :: rest => some (goOn s.level.part rest)
  | '[' :: rest => do
    let (found, after) ← Bracket.ofText? mode rest
    pure (goOn (s.level.add ⟨ofSet found.characters, found.depth, true⟩) after)
  | '?' :: rest => (s.level.count? 0 (some 1)).map (goOn · (withoutMark rest))
  | '*' :: rest => (s.level.count? 0 none).map (goOn · (withoutMark rest))
  | '+' :: rest => (s.level.count? 1 none).map (goOn · (withoutMark rest))
  | '\x7b' :: rest => do
    let ((least, most), after) ← counts? mode rest
    pure (goOn (← s.level.count? least most) (withoutMark (mode.ahead after)))
  | '\\' :: rest => do
    let (atom, after) ← Atom.escaped? mode rest
    pure (goOn (s.level.add (.ofAtom (← ofAtom? mode atom))) after)
  | c :: rest => do
    pure (goOn (s.level.add (.ofAtom (← simple? mode c))) rest)

def Piece.accepted? (piece : Piece) : Option Expression :=
  if piece.depth ≤ depthLimit && piece.expression.isAffordable then some piece.expression else none

def ofText? (text : List Char) : Option Expression := do
  let (piece, _) ← readThrough step ⟨.opened .plain, [], []⟩ text
  piece.accepted?

end WireSchema.Expression

import WireSchema.Expression.Escape

-- The language of bracket expressions: characters, ranges, named classes, nested brackets, and the
-- operators for intersection, difference and symmetric difference between them. Brackets are read step by step.
namespace WireSchema.Text

inductive Progress (σ ρ : Type) where
  | more (state : σ)
  | done (result : ρ)

def readWithin {σ ρ : Type} (step : σ → List Char → Option (Progress σ ρ × List Char)) (state : σ)
    (text : List Char) : Nat → Option (ρ × List Char)
  | 0 => none
  | more + 1 =>
    match step state text with
    | none => none
    | some (.done result, rest) => some (result, rest)
    | some (.more next, rest) => readWithin step next rest more

-- A step that goes on takes a character at least, so there are no more steps than characters before the last one.
def readThrough {σ ρ : Type} (step : σ → List Char → Option (Progress σ ρ × List Char)) (state : σ)
    (text : List Char) : Option (ρ × List Char) := readWithin step state text (text.length + 1)

end WireSchema.Text

namespace WireSchema.Expression
open Text

-- The classes with a name. They are made of ASCII characters, whatever the text.
inductive NamedClass where
  | alnum | alpha | ascii | blank | cntrl | digit | graph | lower | print | punct | space | upper
  | word | xdigit
deriving DecidableEq

namespace NamedClass

def name : NamedClass → String
  | .alnum => "alnum"
  | .alpha => "alpha"
  | .ascii => "ascii"
  | .blank => "blank"
  | .cntrl => "cntrl"
  | .digit => "digit"
  | .graph => "graph"
  | .lower => "lower"
  | .print => "print"
  | .punct => "punct"
  | .space => "space"
  | .upper => "upper"
  | .word => "word"
  | .xdigit => "xdigit"

def all : List NamedClass :=
  [.alnum, .alpha, .ascii, .blank, .cntrl, .digit, .graph, .lower, .print, .punct, .space, .upper,
    .word, .xdigit]

def characters : NamedClass → CharacterSet
  | .alnum => .ofRanges [(0x30, 0x39), (0x41, 0x5A), (0x61, 0x7A)]
  | .alpha => .ofRanges [(0x41, 0x5A), (0x61, 0x7A)]
  | .ascii => .ascii
  | .blank => .ofRanges [(0x09, 0x09), (0x20, 0x20)]
  | .cntrl => .ofRanges [(0x00, 0x1F), (0x7F, 0x7F)]
  | .digit => .ofRanges [(0x30, 0x39)]
  | .graph => .ofRanges [(0x21, 0x7E)]
  | .lower => .ofRanges [(0x61, 0x7A)]
  | .print => .ofRanges [(0x20, 0x7E)]
  | .punct => .ofRanges [(0x21, 0x2F), (0x3A, 0x40), (0x5B, 0x60), (0x7B, 0x7E)]
  | .space => .ofRanges [(0x09, 0x0D), (0x20, 0x20)]
  | .upper => .ofRanges [(0x41, 0x5A)]
  | .word => .ofRanges [(0x30, 0x39), (0x41, 0x5A), (0x5F, 0x5F), (0x61, 0x7A)]
  | .xdigit => .ofRanges [(0x30, 0x39), (0x41, 0x46), (0x61, 0x66)]

def ofText? (text : List Char) : Option (NamedClass × Bool × List Char) :=
  match text with
  | ':' :: rest =>
    let negated := rest.head? = some '^'
    let body := if negated then rest.tail else rest
    let name := body.takeWhile (· ≠ ':')
    match body.dropWhile (· ≠ ':') with
    | ':' :: ']' :: after => (all.find? (·.name.toList = name)).map fun named => (named, negated, after)
    | _ => none
  | _ => none

end NamedClass

namespace Bracket

inductive Operator where
  | intersection | difference | symmetricDifference
deriving DecidableEq

structure Operand where
  characters : CharacterSet
  depth : Nat
deriving DecidableEq

-- Where case counts for nothing, it is evened out before sets are compared.
def Operator.apply (mode : Mode) (operator : Operator) (left right : Operand) : Operand :=
  let a := mode.folded left.characters
  let b := mode.folded right.characters
  let characters := match operator with
    | .intersection => a.intersection b
    | .difference => a.difference b
    | .symmetricDifference => a.symmetricDifference b
  ⟨characters, max left.depth right.depth + 1⟩

-- A bracket that is open: what stands in front of its last operator, and what has come since, with
-- the number of its members and how deep they nest.
structure Level where
  negated : Bool
  pending : Option (Operand × Operator)
  members : Nat
  found : Operand

namespace Level

def opened (negated : Bool) : Level := ⟨negated, none, 0, ⟨⟨[]⟩, 0⟩⟩

def add (member : Operand) (level : Level) : Level :=
  { level with
    members := level.members + 1
    found := ⟨level.found.characters.union member.characters, max level.found.depth member.depth⟩ }

def row (level : Level) : Operand :=
  if level.members < 2 then level.found else { level.found with depth := level.found.depth + 1 }

def operand (mode : Mode) (level : Level) : Operand :=
  match level.pending with
  | none => level.row
  | some (left, operator) => operator.apply mode left level.row

def operate (mode : Mode) (operator : Operator) (level : Level) : Level :=
  { opened level.negated with pending := some (level.operand mode, operator) }

def close? (mode : Mode) (level : Level) : Option Operand :=
  let inside := level.operand mode
  (mode.settled? level.negated (mode.folded inside.characters)).map (⟨·, inside.depth + 1⟩)

end Level

def dashes (mode : Mode) (level : Level) (text : List Char) : Level × List Char :=
  match _ahead : mode.ahead text with
  | '-' :: rest => dashes mode (level.add ⟨.single '-', 0⟩) rest
  | rest => (level, rest)
termination_by text.length
decreasing_by
  have := mode.length_ahead_le text
  rw [_ahead, List.length_cons] at this
  omega

-- The start of a bracket after it was opened: a mark of negation, then dashes that stand for
-- themselves, or else a closing bracket that stands for itself.
def opening (mode : Mode) (text : List Char) : Level × List Char :=
  let (start, inside) := match mode.ahead text with
    | '^' :: rest => (Level.opened true, rest)
    | rest => (Level.opened false, rest)
  match dashes mode start inside with
  | (level, ']' :: rest) =>
    if level.members = 0 then (level.add ⟨.single ']', 0⟩, rest) else (level, ']' :: rest)
  | found => found

-- What is seen behind a dash. Where blanks mean nothing, it is what follows them and the start of a
-- comment, if anything does.
def beyond (mode : Mode) (text : List Char) : Option Char :=
  if mode.spaced then
    match text.dropWhile isWhiteSpace with
    | '#' :: comment => (comment.dropWhile isWhiteSpace).head? <|> text.head?
    | rest => rest.head? <|> text.head?
  else text.head?

def code? (mode : Mode) : Atom → Option Char
  | .character c byte =>
    if mode.unicode || c.toNat ≤ 0x7F || byte then some c else none
  | _ => none

def member? (mode : Mode) : Atom → Option Operand
  | .set characters => some ⟨characters, 0⟩
  | atom => (code? mode atom).map fun c => ⟨.single c, 0⟩

def atom? (mode : Mode) : List Char → Option (Atom × List Char)
  | [] => none
  | '\\' :: rest => Atom.escaped? mode rest
  | c :: rest => some (.character c false, rest)

-- A member, or a range between two characters. A dash makes no range in front of a closing bracket
-- or of another dash, and a range does not run backwards.
def item? (mode : Mode) (text : List Char) : Option (Operand × List Char) := do
  let (first, rest) ← atom? mode text
  match mode.ahead rest with
  | '-' :: more =>
    if beyond mode more = some ']' ∨ beyond mode more = some '-' then
      pure (← member? mode first, '-' :: more)
    else
      let (last, after) ← atom? mode (mode.ahead more)
      let a ← code? mode first
      let b ← code? mode last
      if a ≤ b then pure (⟨.range a b, 0⟩, after) else none
  | rest => pure (← member? mode first, rest)

abbrev Levels := Level × List Level

def step (mode : Mode) (levels : Levels) (text : List Char) : Option (Progress Levels Operand × List Char) :=
  let (level, outer) := levels
  match mode.ahead text with
  | [] => none
  | '[' :: more =>
    match NamedClass.ofText? more with
    | some (named, negated, after) => do
      let characters ← mode.settled? negated (mode.folded named.characters)
      pure (.more (level.add ⟨characters, 0⟩, outer), after)
    | none =>
      let (inner, after) := opening mode more
      some (.more (inner, level :: outer), after)
  | ']' :: more => do
    let found ← level.close? mode
    match outer with
    | [] => pure (.done found, more)
    | around :: further => pure (.more (around.add found, further), more)
  | '&' :: '&' :: more => some (.more (level.operate mode .intersection, outer), more)
  | '-' :: '-' :: more => some (.more (level.operate mode .difference, outer), more)
  | '~' :: '~' :: more => some (.more (level.operate mode .symmetricDifference, outer), more)
  | rest => do
    let (found, after) ← item? mode rest
    pure (.more (level.add found, outer), after)

def ofText? (mode : Mode) (text : List Char) : Option (Operand × List Char) :=
  let (level, inside) := opening mode text
  readThrough (step mode) (level, []) inside

end Bracket
end WireSchema.Expression

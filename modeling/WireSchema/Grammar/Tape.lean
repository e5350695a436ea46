import WireSchema.Comment
import WireSchema.Problem
import WireSchema.Token.Stream

-- Readers of tokens. A reader never fails: it gives its best value, reports what is wrong, notes the
-- type names it came across, and says where it stopped.
namespace WireSchema.Grammar

-- The tokens still to be read, and the token that stands for the end of the source.
structure Tape where
  ahead : List Documented
  finish : Documented

namespace Tape

def ofTokens (tokens : List Token × Token) : Tape :=
  let words := Documented.ofTokens tokens.2 [] tokens.1
  ⟨words.1, words.2⟩

def current (t : Tape) : Documented := t.ahead.headD t.finish

def advance (t : Tape) : Tape := { t with ahead := t.ahead.tail }

def left (t : Tape) : Nat := t.ahead.length

end Tape

structure Mention where
  name : String
  position : Position
deriving DecidableEq

structure Step (α : Type) where
  value : α
  problems : Problems
  mentions : List Mention
  tape : Tape

def Reader (α : Type) : Type := Tape → Step α

namespace Reader
variable {α β ι : Type}

def pure (value : α) : Reader α := fun t => ⟨value, [], [], t⟩

def bind (r : Reader α) (next : α → Reader β) : Reader β := fun t =>
  let first := r t
  let second := next first.value first.tape
  ⟨second.value, first.problems ++ second.problems, first.mentions ++ second.mentions, second.tape⟩

instance : Monad Reader where
  pure := Reader.pure
  bind := Reader.bind

def current : Reader Documented := fun t => ⟨t.current, [], [], t⟩

def advance : Reader Unit := fun t => ⟨(), [], [], t.advance⟩

def reportAt (position : Position) (problem : Problem) : Reader Unit := fun t =>
  ⟨(), [⟨position, problem⟩], [], t⟩

def report (problem : Problem) : Reader Unit := fun t =>
  ⟨(), [⟨t.current.position, problem⟩], [], t⟩

def mention (name : String) (position : Position) : Reader Unit := fun t =>
  ⟨(), [], [⟨name, position⟩], t⟩

-- A reader that calls itself. A call goes through only where tokens have been read since, so the
-- reading ends; a call that has read nothing gives the value for being stuck.
def recurse (stuck : ι → α) (body : (ι → Reader α) → ι → Reader α) (i : ι) : Reader α := fun t =>
  body (fun j later =>
    if _shorter : later.left < t.left then recurse stuck body j later else ⟨stuck j, [], [], later⟩) i t
termination_by t => t.left

def many (goesOn : TokenKind → Bool) (round : Reader α) : Reader (List α) :=
  recurse (fun _ => []) (fun again _ => do
    if goesOn (← current).kind then
      let first ← round
      let more ← again ()
      pure (first :: more)
    else pure []) ()

def kept (r : Reader α) : Reader (Step α) := fun t => ⟨r t, [], [], (r t).tape⟩

end Reader

def mismatch (found : Documented) (expected : TokenKind) : Problem :=
  match found.kind with
  | .invalid error => .lexical error
  | .endOfFile => .unexpectedEnd expected
  | _ => if found.text = "\n" then .unexpectedNewline expected else .unexpectedToken found.text expected

-- Takes one token, whether or not it is of the expected kind.
def expect (kind : TokenKind) : Reader Unit := do
  let word ← .current
  if word.kind ≠ kind then .report (mismatch word kind)
  .advance

def identifier : Reader String := do
  let word ← .current
  if word.kind = .identifier then
    .advance
    pure word.text
  else
    expect .identifier
    pure ""

end WireSchema.Grammar

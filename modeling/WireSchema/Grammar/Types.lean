import WireSchema.Grammar.Tape
import WireSchema.ValueType

-- Reading types.
namespace WireSchema.Grammar
open Text

def arraySize? (literal : String) : Option UInt32 :=
  match Decimal.natural? literal.toList with
  | some n => if 0 < n ∧ n < 4294967296 then some (.ofNat n) else none
  | none => none

-- The size between the brackets of an array; none, or a wrong one, counts as zero.
def arraySize : Reader UInt32 := do
  let word ← .current
  if word.kind = .integer then
    let size := arraySize? word.text
    if size.isNone then .report (.arraySize word.text)
    .advance
    pure (size.getD 0)
  else pure 0

def qualifier : Reader String := do
  let word ← .current
  expect .identifier
  pure (if word.kind = .identifier then "." ++ word.text else "")

def named (name : String) (position : Position) : Reader (ValueType Unit) :=
  match ValueType.builtin? name with
  | some type => pure type
  | none => do
    .mention name position
    pure (.defined (.ofName name ()))

def namedType : Reader (ValueType Unit) := do
  let first ← .current
  .advance
  let word ← .current
  if word.kind = .period then
    .advance
    let rest ← qualifier
    named (first.text ++ rest) first.position
  else named first.text first.position

def arrayOf (size : UInt32) : Option (ValueType Unit) → Reader (Option (ValueType Unit))
  | none => pure none
  | some element => do
    if element.isArray then .report (.nestedArray (ValueType.array size element).text)
    pure (some (.array size element))

def pointerTo : Option (ValueType Unit) → Reader (Option (ValueType Unit))
  | none => pure none
  | some value => do
    if value.isPointerBarrier then .report (.pointerTarget value.text)
    pure (some (.pointer value))

def arrayWith (inner : Reader (Option (ValueType Unit))) : Reader (Option (ValueType Unit)) := do
  .advance
  let size ← arraySize
  expect .closeBracket
  let element ← inner
  arrayOf size element

def pointerWith (inner : Reader (Option (ValueType Unit))) : Reader (Option (ValueType Unit)) := do
  .advance
  let value ← inner
  pointerTo value

def mapWith (inner : Reader (Option (ValueType Unit))) : Reader (Option (ValueType Unit)) := do
  .advance
  expect .openBracket
  let key ← inner
  expect .closeBracket
  let value ← inner
  pure (match key, value with
    | some key, some value => some (.map key value)
    | _, _ => none)

def noType (problem : Problem) : Reader (Option (ValueType Unit)) := do
  .report problem
  .advance
  pure none

def typeWith (inner : Reader (Option (ValueType Unit))) : Reader (Option (ValueType Unit)) := do
  let word ← .current
  match word.kind with
  | .openBracket => arrayWith inner
  | .asterisk => pointerWith inner
  | .keyword .map => mapWith inner
  | .identifier => some <$> namedType
  | .invalid error => noType (.lexical error)
  | _ => noType (.strayToken word.text)

def type : Reader (Option (ValueType Unit)) :=
  .recurse (fun _ => none) (fun inner _ => typeWith (inner ())) ()

end WireSchema.Grammar

import WireSchema.Declaration
import WireSchema.Grammar.Types
import WireSchema.TagString

-- Reading the members of declarations.
namespace WireSchema.Grammar

-- The string that ends a member. A missing one leaves the terminator where it is.
def tagString (signed : Bool) : Reader (Int × Tags) := do
  let word ← .current
  match word.kind with
  | .string =>
    let contents := TagString.read signed word.text
    contents.problems.forM Reader.report
    .advance
    pure (contents.ordinal, contents.tags)
  | .semicolon =>
    .report .missingTagString
    pure (0, ∅)
  | _ =>
    expect .string
    pure (0, ∅)

def memberEnd : Reader Unit := do
  let word ← .current
  if word.kind = .semicolon then .advance

def isBodyEnd (kind : TokenKind) : Bool := kind = .closeBrace || kind = .endOfFile

def enumerator : Reader Enumerator := do
  let word ← .current
  let name ← identifier
  let (value, tags) ← tagString true
  memberEnd
  pure ⟨word.position, name, value, tags⟩

def field : Reader (Option (Field Unit)) := do
  let word ← .current
  let name ← identifier
  let type ← type
  let (ordinal, tags) ← tagString false
  memberEnd
  pure (type.bind fun type =>
    if name.isEmpty then none else some ⟨word.position, name, type, ordinal, tags⟩)

def branch : Reader (Option (Branch Unit)) := do
  let word ← .current
  let type ← type
  let (ordinal, tags) ← tagString false
  memberEnd
  pure (type.map fun type => ⟨word.position, type, ordinal, tags⟩)

def isArgumentsEnd (kind : TokenKind) : Bool :=
  kind = .closeParen || kind = .semicolon || kind = .endOfFile

def argumentsWith (more : Reader (List (ValueType Unit))) : Reader (List (ValueType Unit)) := do
  if isArgumentsEnd (← .current).kind then pure []
  else
    let argument ← type
    if (← .current).kind = .comma then
      .advance
      let others ← more
      pure (argument.toList ++ others)
    else pure argument.toList

-- Types with commas between them; a comma may follow the last one.
def arguments : Reader (List (ValueType Unit)) :=
  .recurse (fun _ => []) (fun again _ => argumentsWith (again ())) ()

-- A method has a result unless its tag string or the end of the member follows at once.
def result : Reader (Option (ValueType Unit)) := do
  match (← .current).kind with
  | .string | .semicolon | .closeBrace | .endOfFile => pure none
  | _ => type

def method : Reader (Option (Method Unit)) := do
  let word ← .current
  let name ← identifier
  expect .openParen
  let arguments ← arguments
  expect .closeParen
  let result ← result
  let (ordinal, tags) ← tagString false
  memberEnd
  pure (if name.isEmpty then none
    else some ⟨word.position, word.doc, name, arguments, result, ordinal, tags⟩)

end WireSchema.Grammar

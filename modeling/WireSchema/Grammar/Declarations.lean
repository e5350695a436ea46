import WireSchema.Grammar.Members

-- Reading declarations.
namespace WireSchema.Grammar

def literal? (word : Documented) : Except Problem (ValueType Unit × String) :=
  match word.kind with
  | .integer => .ok (.int 64 false, word.text)
  | .float => .ok (.float 64, word.text)
  | .string => .ok (.string, .ofList (literalContent word.text))
  | .invalid error => .error (.lexical error)
  | _ => .error (.notConstant word.text)

-- The literal of a constant; another token in its place is passed over.
def literal : Reader (Option (ValueType Unit × String)) := do
  let word ← .current
  match literal? word with
  | .ok found =>
    .advance
    pure (some found)
  | .error problem =>
    .report problem
    .advance
    pure none

def constant : Reader (Option (Constant Unit)) := do
  let first ← .current
  expect (.keyword .const)
  let name ← identifier
  expect .assign
  let found ← literal
  expect .semicolon
  pure (found.bind fun (type, value) =>
    if name.isEmpty then none else some ⟨first.position, first.doc, name, type, value⟩)

def block {α : Type} (word : Keyword) (members : Reader α) : Reader (String × α) := do
  expect (.keyword word)
  let name ← identifier
  expect .openBrace
  let found ← members
  expect .closeBrace
  expect .semicolon
  pure (name, found)

def members {α : Type} (member : Reader (Option α)) : Reader (List α) := do
  let found ← .many (fun kind => !isBodyEnd kind) member
  pure (found.filterMap id)

def enumeration : Reader Enumeration := do
  let first ← .current
  let (name, found) ← block .enumeration (.many (· = .identifier) enumerator)
  pure ⟨first.position, first.doc, name, found⟩

def struct : Reader (Struct Unit) := do
  let first ← .current
  let (name, found) ← block .struct (members field)
  pure ⟨first.position, first.doc, name, found⟩

def union : Reader (Union Unit) := do
  let first ← .current
  let (name, found) ← block .union (members branch)
  pure ⟨first.position, first.doc, name, found⟩

def service : Reader (Service Unit) := do
  let first ← .current
  let (name, found) ← block .service (members method)
  pure ⟨first.position, first.doc, name, found⟩

-- Passes over words up to an invalid one or a terminator outside of all braces opened on the way.
-- A closing brace takes one level away even where none was opened.
def skipWords (level : Int) : List Documented → List Documented
  | [] => []
  | word :: rest =>
    match word.kind with
    | .invalid _ => word :: rest
    | .semicolon => if level = 0 then word :: rest else skipWords level rest
    | .openBrace => skipWords (level + 1) rest
    | .closeBrace => skipWords (level - 1) rest
    | _ => skipWords level rest

def skipStatement : Reader Unit := fun t => ⟨(), [], [], { t with ahead := skipWords 0 t.ahead.tail }⟩

def item : Reader (Option (Declaration Unit)) := do
  let word ← .current
  match word.kind with
  | .keyword .const => return (← constant).map .const
  | .keyword .enumeration => return some (.enumeration (← enumeration))
  | .keyword .struct => return some (.struct (← struct))
  | .keyword .union => return some (.union (← union))
  | .keyword .service => return some (.service (← service))
  | .semicolon =>
    .advance
    return none
  | .invalid error =>
    .report (.lexical error)
    .advance
    return none
  | .identifier =>
    .report (.strayIdentifier word.text)
    skipStatement
    return none
  | _ =>
    .report (.strayToken word.text)
    .advance
    return none

end WireSchema.Grammar

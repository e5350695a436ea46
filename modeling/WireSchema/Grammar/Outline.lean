import WireSchema.Grammar.Declarations

-- Reading a whole file.
namespace WireSchema.Grammar
open Text

-- The clause that every file starts with. Where the end of the file cuts it off, one problem is enough.
def packageClause : Reader Package := do
  let first ← .current
  expect (.keyword .package)
  if first.kind = .endOfFile then return ⟨first.position, ""⟩
  let name ← identifier
  if !name.isEmpty || (← .current).kind ≠ .endOfFile then expect .semicolon
  return ⟨first.position, name⟩

def importName (path : String) : String :=
  let base := ((trimEnd (· = '/') path.toList).reverse.takeWhile (· != '/')).reverse
  if base.contains '.' then .ofList ((base.reverse.dropWhile (· != '.')).tail.reverse) else .ofList base

def givenName : Reader String := do
  let word ← .current
  if word.kind = .identifier then
    .advance
    pure word.text
  else pure ""

def importPath : Reader String := do
  let word ← .current
  expect .string
  pure (if word.kind = .string then .ofList (literalContent word.text) else "")

def importProblem? (imports : Dictionary String Import) (clause : Import) : Option Problem :=
  if clause.path.isEmpty || clause.name.isEmpty then some (.importPath clause.path)
  else if imports.contains clause.name then some (.importRedefined clause.name)
  else none

def addImport (imports : Dictionary String Import) (clause : Import) : Reader (Dictionary String Import) :=
  match importProblem? imports clause with
  | some problem => do
    .reportAt clause.position problem
    pure imports
  | none => pure (imports.insert clause.name clause)

def importClause (imports : Dictionary String Import) : Reader (Dictionary String Import) := do
  let first ← .current
  .advance
  let given ← givenName
  let path ← importPath
  let known ← addImport imports ⟨first.position, path, if given.isEmpty then importName path else given⟩
  expect .semicolon
  pure known

def importClauses : Dictionary String Import → Reader (Dictionary String Import) :=
  .recurse id (fun again imports => do
    if (← .current).kind = .keyword .importing then
      let more ← importClause imports
      again more
    else pure imports)

-- A file as it is written, before any name in it is looked up. Every item keeps its own problems and
-- the type names it mentions.
structure Outline where
  doc : List String
  package : Package
  imports : Dictionary String Import
  headProblems : Problems
  items : List (Step (Option (Declaration Unit)))

def outline (t : Tape) : Outline :=
  let head := (do
    let package ← packageClause
    let imports ← importClauses ∅
    pure (package, imports) : Reader _) t
  let items := Reader.many (· ≠ .endOfFile) item.kept head.tape
  ⟨t.current.doc, head.value.1, head.value.2, head.problems, items.value⟩

end WireSchema.Grammar

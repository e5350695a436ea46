import WireSchema.Grammar.Outline
import WireSchema.Validity

-- Giving every type name of a file its symbol. Names get their symbols in the order in which they are
-- mentioned; a declaration then becomes the target of its name.
namespace WireSchema
open Grammar Text

-- A symbol that had no target when its name was first mentioned.
structure Placeholder where
  symbol : SymbolId
  position : Position
deriving DecidableEq

structure Scope where
  declarations : List (Declaration SymbolId)
  symbols : SymbolTable
  placeholders : List Placeholder
  problems : Problems

namespace Scope

def empty : Scope := ⟨[], .empty, [], []⟩

def mention (m : Mention) (s : Scope) : Scope :=
  match s.symbols.lookup m.name with
  | some _ => s
  | none =>
    { s with
      symbols := s.symbols.insert m.name none
      placeholders := s.placeholders ++ [⟨s.symbols.next, m.position⟩] }

-- Makes the declaration with the given index the target of its name, unless an earlier one is.
def register (name : String) (index : Nat) (position : Position) (s : Scope) : Scope :=
  match s.symbols.lookup name with
  | none => { s with symbols := s.symbols.insert name (some (.declaration index)) }
  | some id =>
    match s.symbols.target? id with
    | none => { s with symbols := s.symbols.setTarget id (.declaration index) }
    | some (.declaration first) =>
      let reports := (s.declarations[first]?).toList.map fun d =>
        ⟨position, .typeRedeclared name d.position⟩
      { s with problems := s.problems ++ reports }
    | some (.imported _) => s

def symbolOf (table : SymbolTable) (reference : Reference Unit) : SymbolId :=
  (table.lookup reference.text).getD table.next

def declare (d : Declaration Unit) (s : Scope) : Scope :=
  let bound := d.withSymbols (symbolOf s.symbols)
  let registered :=
    if d.isType && !d.name.isEmpty then s.register d.name s.declarations.length d.position else s
  { registered with declarations := s.declarations ++ [bound] }

def item (s : Scope) (step : Step (Option (Declaration Unit))) : Scope :=
  let mentioned := step.mentions.foldl (fun s m => s.mention m) s
  let reported := { mentioned with problems := mentioned.problems ++ step.problems }
  match step.value with
  | some d => reported.declare d
  | none => reported

def ofItems (items : List (Step (Option (Declaration Unit)))) : Scope := items.foldl item empty

end Scope

structure Bound where
  file : SourceFile
  placeholders : List Placeholder
  problems : Problems

namespace Bound

def ofOutline (name : String) (o : Outline) : Bound :=
  let scope := Scope.ofItems o.items
  ⟨⟨name, o.doc, o.package, o.imports, scope.declarations, scope.symbols⟩, scope.placeholders,
    o.headProblems ++ scope.problems⟩

end Bound

namespace SourceFile

def importOf? (name : String) (file : SourceFile) : Option String :=
  match cut? '.' name.toList with
  | some (package, _) => if file.imports.contains (.ofList package) then some (.ofList package) else none
  | none => none

-- Settles one placeholder: a name qualified by an import goes to that import, any other name without
-- a target is undefined.
def settle (file : SourceFile) (p : Placeholder) : SourceFile × Problems :=
  match file.symbols.get? p.symbol with
  | some ⟨name, none⟩ =>
    match file.importOf? name with
    | some package => ({ file with symbols := file.symbols.setTarget p.symbol (.imported package) }, [])
    | none => (file, [⟨p.position, .undefinedType name⟩])
  | _ => (file, [])

def resolve (file : SourceFile) : List Placeholder → SourceFile × Problems
  | [] => (file, [])
  | p :: rest =>
    let settled := file.settle p
    let later := resolve settled.1 rest
    (later.1, settled.2 ++ later.2)

end SourceFile

def SourceFile.bound (name : String) (source : List UInt8) : Bound :=
  .ofOutline name (outline (.ofTokens (Token.allOf Token.defaultLimit name source)))

def SourceFile.understand (name : String) (source : List UInt8) : SourceFile × Problems :=
  let bound := SourceFile.bound name source
  let resolved := bound.file.resolve bound.placeholders
  (resolved.1, Findings.sort (bound.problems ++ resolved.2 ++ resolved.1.violations))

end WireSchema

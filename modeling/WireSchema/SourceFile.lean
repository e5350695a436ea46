import WireSchema.Declaration
import WireSchema.SymbolTable

-- A schema file as it was understood, and what is left of it without what is deprecated.
namespace WireSchema

structure SourceFile where
  name : String
  doc : List String
  package : Package
  imports : Dictionary String Import
  declarations : List (Declaration SymbolId)
  symbols : SymbolTable
deriving DecidableEq

namespace Declaration
variable {σ : Type}

def withoutDeprecated : Declaration σ → Declaration σ
  | .const c => .const c
  | .enumeration e =>
    .enumeration { e with enumerators := e.enumerators.filter (fun m => !Tags.deprecated m.tags) }
  | .struct s => .struct { s with fields := s.fields.filter (fun m => !Tags.deprecated m.tags) }
  | .union u => .union { u with branches := u.branches.filter (fun m => !Tags.deprecated m.tags) }
  | .service s => .service { s with methods := s.methods.filter (fun m => !Tags.deprecated m.tags) }

def packages (d : Declaration σ) : List String :=
  d.types.flatMap (fun type => type.references.filterMap (·.package))

end Declaration

inductive ReferenceTarget where
  | declaration (d : Declaration SymbolId)
  | imported (clause : Import)

namespace SourceFile

def named (name : String) : SourceFile := ⟨name, [], ⟨⟨"", 0, 0⟩, ""⟩, ∅, [], .empty⟩

def typeDeclaration? (name : String) (file : SourceFile) : Option (Declaration SymbolId) :=
  file.declarations.find? (fun d => d.isType && d.name = name)

def target? (reference : Reference SymbolId) (file : SourceFile) : Option ReferenceTarget :=
  match file.symbols.target? reference.symbol with
  | none => none
  | some (.declaration index) => (file.declarations[index]?).map .declaration
  | some (.imported name) => (file.imports.get? name).map .imported

def kind? (reference : Reference SymbolId) (file : SourceFile) : Option DeclarationKind :=
  match file.target? reference with
  | some (.declaration d) => some d.kind
  | _ => none

-- A file without deprecated members, and without the imports that nothing refers to any more.
def withoutDeprecated (file : SourceFile) : SourceFile :=
  let kept := file.declarations.map (·.withoutDeprecated)
  { file with
    declarations := kept
    imports := file.imports.filterKeys (fun name => (kept.flatMap (·.packages)).contains name) }

end SourceFile
end WireSchema

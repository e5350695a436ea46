import WireSchema.Path
import WireSchema.Problem
import WireSchema.SourceFile

-- A set of schema files that may import each other.
namespace WireSchema

-- Import paths start at the root directory.
structure Schema where
  root : String
  files : List SourceFile
deriving DecidableEq

namespace Schema

def importedFile? (clause : Import) (schema : Schema) : Option SourceFile :=
  schema.files.find? (fun file => Path.same file.name (Path.join schema.root clause.path))

def declaration? (schema : Schema) (file : SourceFile) (reference : Reference SymbolId) :
    Option (Declaration SymbolId) :=
  match file.target? reference with
  | none => none
  | some (.declaration d) => some d
  | some (.imported clause) => (schema.importedFile? clause).bind (·.typeDeclaration? reference.name)

-- References to types that the imported file does not declare. An import of a file outside the set
-- is not looked into.
def missingType (schema : Schema) (file : SourceFile) (position : Position)
    (reference : Reference SymbolId) : Problems :=
  match file.symbols.target? reference.symbol with
  | some (.imported name) =>
    match (file.imports.get? name).bind schema.importedFile? with
    | some imported =>
      if (imported.typeDeclaration? reference.name).isNone then
        [⟨position, .undefinedType reference.text⟩]
      else []
    | none => []
  | _ => []

def missingTypes (schema : Schema) : Problems :=
  schema.files.flatMap fun file =>
    file.declarations.flatMap fun d =>
      d.memberTypes.flatMap fun (position, type) =>
        type.references.flatMap (schema.missingType file position)

end Schema
end WireSchema

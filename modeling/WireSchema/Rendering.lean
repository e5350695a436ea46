import WireSchema.Json.Layout
import WireSchema.Schema

-- The JSON form of a schema. Members come in a fixed order, the tag that tells variants apart first.
namespace WireSchema
open Json

def Position.json (p : Position) : Json :=
  .object [("file", .string p.file), ("line", .ofNat p.line), ("column", .ofNat p.column)]

def Tags.json (tags : Tags) : Json :=
  .object (tags.entries.map (fun (key, value) => (key, .string value)))

def ValueType.json : ValueType SymbolId → Json
  | .bool => .object [("kind", .string "bool")]
  | .int bits unsigned =>
    .object [("kind", .string "int"), ("bits", .ofNat bits.toNat), ("unsigned", .bool unsigned)]
  | .float bits => .object [("kind", .string "float"), ("bits", .ofNat bits.toNat)]
  | .string => .object [("kind", .string "string")]
  | .bytes => .object [("kind", .string "bytes")]
  | .raw => .object [("kind", .string "raw")]
  | .time => .object [("kind", .string "time")]
  | .array size element =>
    .object [("kind", .string "array"), ("size", .ofNat size.toNat), ("element", element.json)]
  | .map key value => .object [("kind", .string "map"), ("key", key.json), ("value", value.json)]
  | .pointer value => .object [("kind", .string "pointer"), ("value", value.json)]
  | .defined r =>
    .object [("kind", .string "defined"), ("package", .ofOption .string r.package),
      ("name", .string r.name), ("symbol", .ofNat r.symbol)]

def Package.json (p : Package) : Json :=
  .object [("pos", p.position.json), ("name", .string p.name)]

def Import.json (i : Import) : Json :=
  .object [("pos", i.position.json), ("path", .string i.path), ("name", .string i.name)]

def Enumerator.json (e : Enumerator) : Json :=
  .object [("pos", e.position.json), ("name", .string e.name), ("value", .number e.value),
    ("tags", Tags.json e.tags)]

def Field.json (f : Field SymbolId) : Json :=
  .object [("pos", f.position.json), ("name", .string f.name), ("type", f.type.json),
    ("ordinal", .number f.ordinal), ("tags", Tags.json f.tags)]

def Branch.json (b : Branch SymbolId) : Json :=
  .object [("pos", b.position.json), ("type", b.type.json), ("ordinal", .number b.ordinal),
    ("tags", Tags.json b.tags)]

def Method.json (m : Method SymbolId) : Json :=
  .object [("pos", m.position.json), ("doc", .strings m.doc), ("name", .string m.name),
    ("args", .array (m.arguments.map (·.json))), ("return", .ofOption ValueType.json m.result),
    ("ordinal", .number m.ordinal), ("tags", Tags.json m.tags)]

def Declaration.heading (d : Declaration SymbolId) (doc : List String) : List (String × Json) :=
  [("decl", .string d.kind.text), ("pos", d.position.json), ("doc", .strings doc),
    ("name", .string d.name)]

def Declaration.json (d : Declaration SymbolId) : Json :=
  match d with
  | .const c => .object (d.heading c.doc ++ [("type", c.type.json), ("value", .string c.value)])
  | .enumeration e => .object (d.heading e.doc ++ [("enumerators", .array (e.enumerators.map (·.json)))])
  | .struct s => .object (d.heading s.doc ++ [("fields", .array (s.fields.map (·.json)))])
  | .union u => .object (d.heading u.doc ++ [("branches", .array (u.branches.map (·.json)))])
  | .service s => .object (d.heading s.doc ++ [("methods", .array (s.methods.map (·.json)))])

def SymbolTarget.json : SymbolTarget → Json
  | .declaration index => .object [("kind", .string "local"), ("target", .ofNat index)]
  | .imported name => .object [("kind", .string "import"), ("target", .string name)]

def Symbol.json (s : Symbol) : Json :=
  .object [("name", .string s.name), ("target", .ofOption SymbolTarget.json s.target)]

def SymbolTable.json (table : SymbolTable) : Json :=
  .object [("symbols", .array (table.symbols.map (·.json)))]

def SourceFile.json (file : SourceFile) : Json :=
  .object [("name", .string file.name), ("doc", .strings file.doc), ("package", file.package.json),
    ("imports", .object (file.imports.entries.map (fun (name, clause) => (name, clause.json)))),
    ("decls", .array (file.declarations.map (·.json))), ("symbols", file.symbols.json)]

def Schema.json (schema : Schema) : Json :=
  .object [("root", .string schema.root), ("files", .array (schema.files.map (·.json)))]

end WireSchema

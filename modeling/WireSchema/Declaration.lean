import WireSchema.Dictionary
import WireSchema.Position
import WireSchema.ValueType

-- The declarations of a schema file.
namespace WireSchema

abbrev Tags := Dictionary String String

namespace Tags

-- The one key with a meaning of its own; its value is not looked at.
def deprecatedKey : String := "deprecated"

def deprecated (tags : Tags) : Bool := tags.contains deprecatedKey

end Tags

structure Package where
  position : Position
  name : String
deriving DecidableEq

-- The name is the alias, or the last part of the path without its extension.
structure Import where
  position : Position
  path : String
  name : String
deriving DecidableEq

-- The value is the literal as written; of a string what stands between the delimiters.
structure Constant (σ : Type) where
  position : Position
  doc : List String
  name : String
  type : ValueType σ
  value : String
deriving DecidableEq

structure Enumerator where
  position : Position
  name : String
  value : Int
  tags : Tags
deriving DecidableEq

structure Enumeration where
  position : Position
  doc : List String
  name : String
  enumerators : List Enumerator
deriving DecidableEq

structure Field (σ : Type) where
  position : Position
  name : String
  type : ValueType σ
  ordinal : Int
  tags : Tags
deriving DecidableEq

structure Struct (σ : Type) where
  position : Position
  doc : List String
  name : String
  fields : List (Field σ)
deriving DecidableEq

structure Branch (σ : Type) where
  position : Position
  type : ValueType σ
  ordinal : Int
  tags : Tags
deriving DecidableEq

structure Union (σ : Type) where
  position : Position
  doc : List String
  name : String
  branches : List (Branch σ)
deriving DecidableEq

structure Method (σ : Type) where
  position : Position
  doc : List String
  name : String
  arguments : List (ValueType σ)
  result : Option (ValueType σ)
  ordinal : Int
  tags : Tags
deriving DecidableEq

structure Service (σ : Type) where
  position : Position
  doc : List String
  name : String
  methods : List (Method σ)
deriving DecidableEq

def Method.types {σ : Type} (m : Method σ) : List (ValueType σ) := m.arguments ++ m.result.toList

def Field.withSymbols {σ τ : Type} (symbol : Reference σ → τ) (f : Field σ) : Field τ :=
  ⟨f.position, f.name, f.type.withSymbols symbol, f.ordinal, f.tags⟩

def Branch.withSymbols {σ τ : Type} (symbol : Reference σ → τ) (b : Branch σ) : Branch τ :=
  ⟨b.position, b.type.withSymbols symbol, b.ordinal, b.tags⟩

def Method.withSymbols {σ τ : Type} (symbol : Reference σ → τ) (m : Method σ) : Method τ :=
  ⟨m.position, m.doc, m.name, m.arguments.map (·.withSymbols symbol),
    m.result.map (·.withSymbols symbol), m.ordinal, m.tags⟩

inductive DeclarationKind where
  | const | enumeration | struct | union | service
deriving DecidableEq

namespace DeclarationKind

def text : DeclarationKind → String
  | .const => "const"
  | .enumeration => "enum"
  | .struct => "struct"
  | .union => "union"
  | .service => "service"

end DeclarationKind

inductive Declaration (σ : Type) where
  | const (constant : Constant σ)
  | enumeration (enumeration : Enumeration)
  | struct (struct : Struct σ)
  | union (union : Union σ)
  | service (service : Service σ)
deriving DecidableEq

namespace Declaration
variable {σ τ : Type}

def position : Declaration σ → Position
  | .const c => c.position
  | .enumeration e => e.position
  | .struct s => s.position
  | .union u => u.position
  | .service s => s.position

def name : Declaration σ → String
  | .const c => c.name
  | .enumeration e => e.name
  | .struct s => s.name
  | .union u => u.name
  | .service s => s.name

def kind : Declaration σ → DeclarationKind
  | .const _ => .const
  | .enumeration _ => .enumeration
  | .struct _ => .struct
  | .union _ => .union
  | .service _ => .service

def isType (d : Declaration σ) : Bool := d.kind ≠ .const

def memberTypes : Declaration σ → List (Position × ValueType σ)
  | .const c => [(c.position, c.type)]
  | .enumeration _ => []
  | .struct s => s.fields.map (fun f => (f.position, f.type))
  | .union u => u.branches.map (fun b => (b.position, b.type))
  | .service s => s.methods.flatMap (fun m => m.types.map (m.position, ·))

def types (d : Declaration σ) : List (ValueType σ) := d.memberTypes.map (·.2)

def withSymbols (symbol : Reference σ → τ) : Declaration σ → Declaration τ
  | .const c => .const ⟨c.position, c.doc, c.name, c.type.withSymbols symbol, c.value⟩
  | .enumeration e => .enumeration e
  | .struct s => .struct ⟨s.position, s.doc, s.name, s.fields.map (·.withSymbols symbol)⟩
  | .union u => .union ⟨u.position, u.doc, u.name, u.branches.map (·.withSymbols symbol)⟩
  | .service s => .service ⟨s.position, s.doc, s.name, s.methods.map (·.withSymbols symbol)⟩

end Declaration
end WireSchema

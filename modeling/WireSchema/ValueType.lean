import WireSchema.Text.Writing

-- The closed set of types a schema can give to a value. A type may refer to declared types by name;
-- what is known of such a name is the parameter: nothing while a source is read (`Unit`), the symbol
-- of the name afterwards.
namespace WireSchema
open Text

-- A name in type position; the package is the name of an import.
structure Reference (σ : Type) where
  package : Option String
  name : String
  symbol : σ
deriving DecidableEq

namespace Reference
variable {σ : Type}

def ofName (written : String) (symbol : σ) : Reference σ :=
  match cut? '.' written.toList with
  | some (package, name) => ⟨some (.ofList package), .ofList name, symbol⟩
  | none => ⟨none, written, symbol⟩

def text (r : Reference σ) : String :=
  match r.package with
  | some package => package ++ "." ++ r.name
  | none => r.name

def isImported (r : Reference σ) : Bool := r.package.isSome

end Reference

-- Zero bits stand for the width of the platform, and an array of size zero has no fixed size.
inductive ValueType (σ : Type) where
  | bool
  | int (bits : UInt8) (unsigned : Bool)
  | float (bits : UInt8)
  | string
  | bytes
  | raw
  | time
  | array (size : UInt32) (element : ValueType σ)
  | map (key value : ValueType σ)
  | pointer (value : ValueType σ)
  | defined (reference : Reference σ)
deriving DecidableEq

namespace ValueType
variable {σ τ : Type}

def builtins : List (String × ValueType σ) :=
  [("bool", .bool), ("int", .int 0 false), ("int8", .int 8 false), ("int16", .int 16 false),
    ("int32", .int 32 false), ("int64", .int 64 false), ("uint", .int 0 true), ("uint8", .int 8 true),
    ("uint16", .int 16 true), ("uint32", .int 32 true), ("uint64", .int 64 true),
    ("float32", .float 32), ("float64", .float 64), ("string", .string), ("bytes", .bytes),
    ("raw", .raw), ("time", .time)]

def builtin? (name : String) : Option (ValueType σ) := (builtins.find? (·.1 = name)).map (·.2)

def builtinIndex? (name : String) : Option Nat :=
  (builtins (σ := σ)).findIdx? (·.1 = name)

def width (bits : UInt8) : String := if bits = 0 then "" else Decimal.text bits.toNat

def text : ValueType σ → String
  | .bool => "bool"
  | .int bits unsigned => (if unsigned then "uint" else "int") ++ width bits
  | .float bits => "float" ++ width bits
  | .string => "string"
  | .bytes => "bytes"
  | .raw => "raw"
  | .time => "time"
  | .array size element => "[" ++ (if size = 0 then "" else Decimal.text size.toNat) ++ "]" ++ element.text
  | .map key value => "map[" ++ key.text ++ "]" ++ value.text
  | .pointer value => "*" ++ value.text
  | .defined reference => reference.text

-- What tells the branches of a union apart on the wire. Widths, elements, keys and values make no
-- difference; a declared type counts by its name without the package.
def wireName : ValueType σ → String
  | .bool => "boolean"
  | .int _ _ => "integer"
  | .float _ => "floating-point"
  | .string => "string"
  | .bytes => "bytes"
  | .raw => "raw"
  | .time => "time"
  | .array _ _ => "array"
  | .map _ _ => "map"
  | .pointer _ => "pointer"
  | .defined reference => reference.name

def references : ValueType σ → List (Reference σ)
  | .array _ element => element.references
  | .map key value => key.references ++ value.references
  | .pointer value => value.references
  | .defined reference => [reference]
  | _ => []

def withSymbols (symbol : Reference σ → τ) : ValueType σ → ValueType τ
  | .bool => .bool
  | .int bits unsigned => .int bits unsigned
  | .float bits => .float bits
  | .string => .string
  | .bytes => .bytes
  | .raw => .raw
  | .time => .time
  | .array size element => .array size (element.withSymbols symbol)
  | .map key value => .map (key.withSymbols symbol) (value.withSymbols symbol)
  | .pointer value => .pointer (value.withSymbols symbol)
  | .defined reference => .defined ⟨reference.package, reference.name, symbol reference⟩

def isArray : ValueType σ → Bool
  | .array _ _ => true
  | _ => false

def isPointerBarrier : ValueType σ → Bool
  | .pointer _ | .array _ _ | .map _ _ | .raw => true
  | _ => false

end ValueType
end WireSchema

-- The type names of a file. A name that is used before it is declared has a symbol without a target;
-- the declaration fills the target in, so references handed out earlier see it.
namespace WireSchema

abbrev SymbolId := Nat

inductive SymbolTarget where
  | declaration (index : Nat)
  | imported (name : String)
deriving DecidableEq

structure Symbol where
  name : String
  target : Option SymbolTarget
deriving DecidableEq

-- Symbols are numbered in the order they came; the index finds the newest symbol of a name.
structure SymbolTable where
  symbols : List Symbol
  index : List (String × SymbolId)
deriving DecidableEq

namespace SymbolTable

def empty : SymbolTable := ⟨[], []⟩

instance : Inhabited SymbolTable := ⟨empty⟩

def lookup (name : String) (table : SymbolTable) : Option SymbolId :=
  (table.index.find? (·.1 = name)).map (·.2)

def next (table : SymbolTable) : SymbolId := table.symbols.length

def insert (name : String) (target : Option SymbolTarget) (table : SymbolTable) : SymbolTable :=
  ⟨table.symbols ++ [⟨name, target⟩], (name, table.next) :: table.index⟩

def get? (id : SymbolId) (table : SymbolTable) : Option Symbol := table.symbols[id]?

def target? (id : SymbolId) (table : SymbolTable) : Option SymbolTarget :=
  (table.get? id).bind (·.target)

def setTarget (id : SymbolId) (target : SymbolTarget) (table : SymbolTable) : SymbolTable :=
  { table with symbols := table.symbols.modify id (fun symbol => { symbol with target := some target }) }

end SymbolTable
end WireSchema

import WireSchema.Text.Writing

-- Paths as texts with slashes.
namespace WireSchema.Path
open Text

def isAbsolute (path : String) : Bool := path.toList.head? = some '/'

def parts (path : String) : List String :=
  ((pieces '/' path.toList).filter (!·.isEmpty)).map .ofList

inductive Component where
  | root | here | up
  | name (text : String)
deriving DecidableEq

def component (part : String) : Component := if part = ".." then .up else .name part

-- A point between slashes means nothing; two points are kept, whatever stands in front of them.
def components (path : String) : List Component :=
  let named := (parts path).filter (· ≠ ".")
  let front : List Component :=
    if isAbsolute path then [.root] else if (parts path).head? = some "." then [.here] else []
  front ++ named.map component

def same (a b : String) : Bool := components a = components b

def join (directory path : String) : String :=
  if isAbsolute path || directory.isEmpty then path
  else if directory.toList.getLast? = some '/' then directory ++ path
  else directory ++ "/" ++ path

end WireSchema.Path

-- Places in a source file, and lists of findings that carry one.
namespace WireSchema

-- Lines and columns count from one. An empty file name stands for a source without a name.
structure Position where
  file : String
  line : Nat
  column : Nat
deriving DecidableEq, Inhabited

namespace Position

-- By file name, then by line, then by column. Names compare by code points, which is the order of
-- their UTF-8 bytes.
def order (a b : Position) : Ordering :=
  (compare a.file b.file).then ((compare a.line b.line).then (compare a.column b.column))

def atMost (a b : Position) : Bool := (a.order b).isLE

def text (p : Position) : String :=
  (if p.file.isEmpty then "" else p.file ++ ":") ++ toString p.line ++ ":" ++ toString p.column

end Position

structure Located (α : Type) where
  position : Position
  content : α
deriving DecidableEq

abbrev Findings (α : Type) := List (Located α)

namespace Located
variable {α : Type}

def text (wording : α → String) (l : Located α) : String :=
  l.position.text ++ ": " ++ wording l.content

end Located

namespace Findings
variable {α : Type}

-- Sorted by position; findings at one position stay in the order they were found.
def sort (findings : Findings α) : Findings α :=
  findings.mergeSort (fun a b => a.position.atMost b.position)

def summary (wording : α → String) : Findings α → String
  | [] => "no errors"
  | [only] => only.text wording
  | [first, _] => first.text wording ++ " (and 1 more error)"
  | first :: rest => first.text wording ++ " (and " ++ toString rest.length ++ " more errors)"

end Findings
end WireSchema

import WireSchema.Problem
import WireSchema.SourceFile

-- The rules that the members of a declaration keep among themselves. Every check goes through the members in
-- order and records what a later one may repeat.
namespace WireSchema
namespace Validity

def isService (file : SourceFile) : ValueType SymbolId → Bool
  | .defined reference => file.kind? reference = some .service
  | _ => false

-- Whether an ordinal is one of those recorded. Zero stands for an ordinal that was reported
-- already, so it never counts.
def repeats (ordinal : Int) (recorded : List Int) : Bool := ordinal ≠ 0 && recorded.contains ordinal

def enumerators (enumeration : String) (names : List String) : List Enumerator → Problems
  | [] => []
  | e :: rest =>
    (if names.contains e.name then [⟨e.position, .duplicateEnumerator e.name enumeration⟩] else []) ++
    enumerators enumeration (names.insert e.name) rest

-- The names and the ordinals of the members so far, each of them once. A member is recorded whatever is
-- found of it.
structure Recorded where
  names : List String
  ordinals : List Int

namespace Recorded

def start : Recorded := ⟨[], []⟩

def add (name : String) (ordinal : Int) (recorded : Recorded) : Recorded :=
  ⟨recorded.names.insert name, recorded.ordinals.insert ordinal⟩

end Recorded

-- Of a repeated name and a repeated ordinal only the name is reported.
def field (file : SourceFile) (struct : String) (recorded : Recorded) (f : Field SymbolId) : Problems :=
  (if recorded.names.contains f.name then [⟨f.position, .duplicateField f.name struct⟩]
    else if repeats f.ordinal recorded.ordinals then
      [⟨f.position, .duplicateFieldOrdinal f.ordinal f.name struct⟩]
    else []) ++
  (if isService file f.type then [⟨f.position, .serviceField f.name struct⟩] else [])

def fields (file : SourceFile) (struct : String) (recorded : Recorded) : List (Field SymbolId) → Problems
  | [] => []
  | f :: rest => field file struct recorded f ++ fields file struct (recorded.add f.name f.ordinal) rest

def method (file : SourceFile) (service : String) (recorded : Recorded) (m : Method SymbolId) : Problems :=
  (if recorded.names.contains m.name then [⟨m.position, .duplicateMethod m.name service⟩]
    else if repeats m.ordinal recorded.ordinals then
      [⟨m.position, .duplicateMethodOrdinal m.ordinal m.name service⟩]
    else []) ++
  (if m.arguments.any (isService file) then [⟨m.position, .serviceArgument m.name service⟩] else []) ++
  (if m.result.any (isService file) then [⟨m.position, .serviceResult m.name service⟩] else [])

def methods (file : SourceFile) (service : String) (recorded : Recorded) : List (Method SymbolId) → Problems
  | [] => []
  | m :: rest => method file service recorded m ++ methods file service (recorded.add m.name m.ordinal) rest

-- What the branches of a union have taken so far. Integers, floats and enums share one place.
structure Taken where
  numeric : Bool
  wireNames : List String
  ordinals : List Int

-- What the checks of one branch find, whether the branch is numeric, and whether it is left out of
-- what has been taken.
structure BranchCheck where
  problems : List Problem
  numeric : Bool
  excluded : Bool

def branchType (file : SourceFile) (union : String) (taken : Taken) (type : ValueType SymbolId) :
    BranchCheck :=
  match type with
  | .raw => ⟨[.rawBranch union], false, false⟩
  | .pointer _ => ⟨[.pointerBranch type.text union], false, false⟩
  | .int _ _ | .float _ => ⟨[], true, false⟩
  | .defined reference =>
    if taken.wireNames.contains type.wireName then
      ⟨[.duplicateBranch reference.text union], false, false⟩
    else
      match file.kind? reference with
      | some .enumeration => ⟨[], true, false⟩
      | some .union => ⟨[.unionBranch reference.text union], false, true⟩
      | some .service => ⟨[.serviceBranch reference.text union], false, true⟩
      | _ => ⟨[], false, false⟩
  | _ =>
    if taken.wireNames.contains type.wireName then
      ⟨[.repeatedBranch type.text union type.wireName], false, false⟩
    else ⟨[], false, false⟩

-- A branch that is a union or a service takes nothing, and nothing more is checked on it.
def branch (file : SourceFile) (union : String) (taken : Taken) (b : Branch SymbolId) :
    List Problem × Taken :=
  let check := branchType file union taken b.type
  if check.excluded then (check.problems, taken)
  else
    (check.problems ++
      (if check.numeric && taken.numeric then [.duplicateNumericBranch b.type.text union] else []) ++
      (if repeats b.ordinal taken.ordinals then
        [.duplicateBranchOrdinal b.ordinal b.type.text union] else []),
      ⟨taken.numeric || check.numeric, taken.wireNames ++ [b.type.wireName],
        taken.ordinals ++ [b.ordinal]⟩)

def branches (file : SourceFile) (union : String) (taken : Taken) : List (Branch SymbolId) → Problems
  | [] => []
  | b :: rest =>
    let checked := branch file union taken b
    checked.1.map (⟨b.position, ·⟩) ++ branches file union checked.2 rest

abbrev Constants := Dictionary String Position

def Constants.add (constants : Constants) : Declaration SymbolId → Constants
  | .const c => if constants.contains c.name then constants else constants.insert c.name c.position
  | _ => constants

def constant (constants : Constants) (c : Constant SymbolId) : Problems :=
  match constants.get? c.name with
  | some first => [⟨c.position, .constantRedeclared c.name first⟩]
  | none => []

def declaration (file : SourceFile) (constants : Constants) : Declaration SymbolId → Problems
  | .const c => constant constants c
  | .enumeration e => enumerators e.name [] e.enumerators
  | .struct s => fields file s.name .start s.fields
  | .union u =>
    if u.branches.isEmpty then [⟨u.position, .emptyUnion u.name⟩]
    else branches file u.name ⟨false, [], []⟩ u.branches
  | .service s => methods file s.name .start s.methods

def declarations (file : SourceFile) (constants : Constants) : List (Declaration SymbolId) → Problems
  | [] => []
  | d :: rest => declaration file constants d ++ declarations file (constants.add d) rest

end Validity

def SourceFile.violations (file : SourceFile) : Problems :=
  Validity.declarations file ∅ file.declarations

end WireSchema

import WireSchema.FileTree
import WireSchema.Glob.Pattern
import WireSchema.Problem

-- A file tree seen from a directory, and the files that patterns select in it.
namespace WireSchema
open Glob

inductive Failure where
  | access (path : String) (error : AccessError)
  | pattern (error : PatternError)
  | schema (problems : Problems)
deriving DecidableEq

namespace Failure

def message : Failure → String
  | .access path error => "I/O error for " ++ path ++ ": " ++ error.message
  | .pattern error => error.message
  | .schema problems => Findings.summary Problem.message problems

end Failure

structure Workspace where
  tree : FileTree
  here : Location

namespace Workspace

def locate (w : Workspace) (path : String) : Except Failure Location :=
  (w.tree.locate w.here path).mapError (.access path)

def read (w : Workspace) (path : String) : Except Failure (List UInt8) :=
  (w.tree.read w.here path).mapError (.access path)

def isFile (w : Workspace) (l : Location) : Bool :=
  match w.tree.node? l with
  | some (.file _) => true
  | some (.link _) =>
    match w.tree.follow FileTree.linkLimit [] l with
    | .ok target => match w.tree.node? target with
      | some (.file _) => true
      | _ => false
    | .error _ => false
  | _ => false

def isLink (w : Workspace) (l : Location) : Bool :=
  match w.tree.node? l with
  | some (.link _) => true
  | _ => false

def isCandidate (w : Workspace) (l : Location) (node : Node) : Bool :=
  match node with
  | .file _ => true
  | .link _ => !w.tree.leadsToDirectory l
  | .directory => false

-- What lies in a directory. A search has followed all links before it lists one.
def readDirectory (w : Workspace) (directory : Location) : Except Failure (List (DirectoryEntry w.tree directory)) :=
  match w.tree.node? directory with
  | some .directory => .ok (w.tree.entriesOf directory)
  | some _ => .error (.access directory.path .notDirectory)
  | none => .error (.access directory.path .missing)

-- Adds what a pattern matches below a directory. A name that is given is looked up, for anything else the
-- directory is listed. Links to directories are not gone into.
def walk (w : Workspace) (pattern : Pattern) (directory : Location) (found : Dictionary Location Unit) :
    Except Failure (Dictionary Location Unit) :=
  match pattern with
  | [] => .ok found
  | .anyDirectories :: rest => do
    let found ← w.walk rest directory found
    (← w.readDirectory directory).foldlM (fun found entry =>
      if entry.isDirectory then w.walk (.anyDirectories :: rest) entry.path found else .ok found) found
  | .literal name :: rest =>
    let l := directory ++ [name]
    if rest.isEmpty then
      if w.isFile l || (w.isLink l && !w.tree.leadsToDirectory l) then .ok (found.insert l ()) else .ok found
    else if w.tree.isDirectory l then w.walk rest l found
    else .ok found
  | .expression test :: rest => do
    (← w.readDirectory directory).foldlM (fun found entry =>
      if !test entry.name.toList then .ok found
      else if rest.isEmpty && w.isCandidate entry.path entry.node then .ok (found.insert entry.path ())
      else if !rest.isEmpty && entry.isDirectory then w.walk rest entry.path found
      else .ok found) found
termination_by (pattern.length, w.tree.height - directory.length)
decreasing_by
  · exact .left _ _ (by simp)
  · have := entry.length_lt
    exact .right _ (by simp only [DirectoryEntry.path, List.length_append, List.length_singleton]; omega)
  · exact .left _ _ (by simp)
  · exact .left _ _ (by simp)

section Search
variable [Regex]

def expand (w : Workspace) (root : Location) (found : Dictionary Location Unit) (text : String) :
    Except Failure (Dictionary Location Unit) := do
  w.walk (← (Pattern.ofText? text).mapError .pattern) root found

def search (w : Workspace) (root : Location) (patterns : List String) : Except Failure (List Location) := do
  pure (← patterns.foldlM (w.expand root) ∅).keys

end Search
end Workspace
end WireSchema

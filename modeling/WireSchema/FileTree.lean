import WireSchema.Dictionary
import WireSchema.Path

-- A tree of directories, files and symbolic links, and how paths lead through it.
namespace WireSchema
open Text

-- The names on the way down from the top of the tree; the top itself is the empty location. Names are texts, so
-- there are none that are not UTF-8.
abbrev Location := List String

namespace Location

def path (l : Location) : String := "/" ++ "/".intercalate l

end Location

inductive Node where
  | file (content : List UInt8)
  | link (target : String)
  | directory
deriving DecidableEq

-- Everything below the top, each with its location. What is not at the top lies in a directory.
structure FileTree where
  nodes : Dictionary Location Node
  rooted : ∀ entry ∈ nodes.entries, entry.1 ≠ [] ∧
    (entry.1.dropLast = [] ∨ nodes.get? entry.1.dropLast = some .directory)

inductive AccessError where
  | missing | notDirectory | isDirectory | tooManyLinks
deriving DecidableEq

namespace AccessError

def message : AccessError → String
  | .missing => "No such file or directory (os error 2)"
  | .notDirectory => "Not a directory (os error 20)"
  | .isDirectory => "Is a directory (os error 21)"
  | .tooManyLinks => "Too many levels of symbolic links (os error 40)"

end AccessError

namespace FileTree

def empty : FileTree := ⟨∅, by simp [EmptyCollection.emptyCollection, Dictionary.empty]⟩

def node? (l : Location) (tree : FileTree) : Option Node :=
  if l = [] then some .directory else tree.nodes.get? l

def isDirectory (l : Location) (tree : FileTree) : Bool := tree.node? l = some .directory

def fits (l : Location) (tree : FileTree) : Bool :=
  !l.isEmpty && tree.isDirectory l.dropLast && !tree.isDirectory l

theorem node?_below {l : Location} {tree : FileTree} (below : l ≠ []) :
    tree.node? l = tree.nodes.get? l := if_neg below

theorem rooted_insert {l : Location} {tree : FileTree} (node : Node) (fit : tree.fits l = true) :
    ∀ entry ∈ (tree.nodes.insert l node).entries, entry.1 ≠ [] ∧
      (entry.1.dropLast = [] ∨ (tree.nodes.insert l node).get? entry.1.dropLast = some .directory) := by
  simp only [fits, isDirectory, Bool.and_eq_true, Bool.not_eq_true', List.isEmpty_eq_false_iff,
    decide_eq_true_iff, decide_eq_false_iff_not] at fit
  obtain ⟨⟨below, inDirectory⟩, free⟩ := fit
  intro entry member
  rw [Dictionary.get?_insert]
  rcases Dictionary.fst_mem_put member with rfl | old
  · refine ⟨below, ?_⟩
    have parent : l ≠ l.dropLast := fun same => by
      have lengths := congrArg List.length same
      have positive := List.length_pos_iff.mpr below
      simp only [List.length_dropLast] at lengths
      omega
    rw [if_neg parent]
    by_cases top : l.dropLast = []
    · exact .inl top
    · rw [node?_below top] at inDirectory
      exact .inr inDirectory
  · obtain ⟨belowTop, parent⟩ := tree.rooted entry old
    refine ⟨belowTop, parent.imp id fun directory => ?_⟩
    have other : l ≠ entry.1.dropLast := fun same => by
      rw [node?_below below, same] at free
      exact free directory
    rw [if_neg other]
    exact directory

def height (tree : FileTree) : Nat := (tree.nodes.entries.map (·.1.length)).foldr max 0

def place? (l : Location) (node : Node) (tree : FileTree) : Option FileTree :=
  if fit : tree.fits l = true then some ⟨tree.nodes.insert l node, rooted_insert node fit⟩ else none

def withDirectory (l : Location) (tree : FileTree) : FileTree :=
  if _top : l = [] then tree
  else
    let parent := withDirectory l.dropLast tree
    if (parent.node? l).isSome then parent else (parent.place? l .directory).getD parent
termination_by l.length
decreasing_by
  have := List.length_pos_iff.mpr _top
  simp only [List.length_dropLast]
  omega

def withNode (l : Location) (node : Node) (tree : FileTree) : FileTree :=
  let parent := withDirectory l.dropLast tree
  (parent.place? l node).getD parent

-- The steps of a path. A slash at the end asks for a directory, as a point does.
def steps (path : String) : List String :=
  Path.parts path ++ (if path.toList.getLast? = some '/' then ["."] else [])

def startOf (here : Location) (path : String) : Location := if Path.isAbsolute path then [] else here

def follow (tree : FileTree) (links : Nat) (here : Location) : List String → Except AccessError Location
  | [] => .ok here
  | step :: rest =>
    if tree.isDirectory here then
      if step = "." then follow tree links here rest
      else if step = ".." then follow tree links here.dropLast rest
      else
        match tree.node? (here ++ [step]) with
        | none => .error .missing
        | some (.link target) =>
          match links with
          | 0 => .error .tooManyLinks
          | more + 1 =>
            if target.isEmpty then .error .missing
            else follow tree more (startOf here target) (steps target ++ rest)
        | some _ => follow tree links (here ++ [step]) rest
    else .error .notDirectory
termination_by steps => (links, steps.length)

-- More links than these on one way count as a circle.
def linkLimit : Nat := 40

def locate (tree : FileTree) (here : Location) (path : String) : Except AccessError Location :=
  if path.isEmpty then .error .missing
  else tree.follow linkLimit (startOf here path) (steps path)

def leadsToDirectory (tree : FileTree) (l : Location) : Bool :=
  match tree.follow linkLimit [] l with
  | .ok target => tree.isDirectory target
  | .error _ => false

def read (tree : FileTree) (here : Location) (path : String) : Except AccessError (List UInt8) := do
  match tree.node? (← tree.locate here path) with
  | some (.file content) => pure content
  | some .directory => .error .isDirectory
  | _ => .error .missing

-- Where a file of the given path is written: at the end of its links, in a directory that exists.
-- No file is written under a name that asks for a directory.
def writeTarget (tree : FileTree) (links : Nat) (here : Location) (path : String) :
    Except AccessError Location :=
  match (Path.parts path).getLast? with
  | none => .error (if path.isEmpty then .missing else .isDirectory)
  | some last => do
    let parent ← tree.follow linkLimit (startOf here path) (Path.parts path).dropLast
    if !tree.isDirectory parent then .error .notDirectory
    else if path.toList.getLast? = some '/' || last = "." || last = ".." then .error .isDirectory
    else
      match tree.node? (parent ++ [last]), links with
      | some .directory, _ => .error .isDirectory
      | some (.link _), 0 => .error .tooManyLinks
      | some (.link target), more + 1 => tree.writeTarget more parent target
      | _, _ => pure (parent ++ [last])

def write (tree : FileTree) (here : Location) (path : String) (content : List UInt8) :
    Except AccessError FileTree := do
  let l ← tree.writeTarget linkLimit here path
  match tree.place? l (.file content) with
  | some written => pure written
  | none => .error .isDirectory

end FileTree

structure DirectoryEntry (tree : FileTree) (directory : Location) where
  name : String
  node : Node
  listed : (directory ++ [name], node) ∈ tree.nodes.entries

namespace DirectoryEntry
variable {tree : FileTree} {directory : Location}

def path (entry : DirectoryEntry tree directory) : Location := directory ++ [entry.name]

def isDirectory (entry : DirectoryEntry tree directory) : Bool := entry.node = .directory

theorem length_lt (entry : DirectoryEntry tree directory) : directory.length < tree.height := by
  have below : ∀ lengths : List Nat, ∀ n ∈ lengths, n ≤ lengths.foldr max 0 := by
    intro lengths n member
    induction lengths with
    | nil => cases member
    | cons first rest ih =>
      rcases List.mem_cons.mp member with rfl | later
      · exact Nat.le_max_left _ _
      · exact Nat.le_trans (ih later) (Nat.le_max_right _ _)
  have own := below (tree.nodes.entries.map (·.1.length)) _ (List.mem_map_of_mem entry.listed)
  simp only [List.length_append, List.length_singleton] at own
  exact own

end DirectoryEntry

namespace FileTree

def entryIn? (tree : FileTree) (directory : Location) (entry : { entry // entry ∈ tree.nodes.entries }) :
    Option (DirectoryEntry tree directory) :=
  if parent : entry.1.1.dropLast = directory then
    some ⟨entry.1.1.getLast (tree.rooted entry.1 entry.2).1, entry.1.2, by
      rw [← parent, List.dropLast_concat_getLast]
      exact entry.2⟩
  else none

def entriesOf (tree : FileTree) (directory : Location) : List (DirectoryEntry tree directory) :=
  tree.nodes.entries.attach.filterMap (tree.entryIn? directory)

end FileTree
end WireSchema

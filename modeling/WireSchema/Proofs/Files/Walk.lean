import Mathlib.Data.List.Basic
import WireSchema.Workspace
import WireSchema.Proofs.Files.Paths

-- What a walk finds. It goes from directory to directory with what is left of a pattern, and comes to the nodes of the
-- tree whose names below the first directory the pattern admits.
namespace WireSchema
open Glob Text

theorem Dictionary.find?_key {κ α : Type} [LT κ] [DecidableEq κ] [Std.Irrefl (α := κ) (· < ·)] {key : κ} {value : α}
    {entries : List (κ × α)} (ordered : entries.Pairwise fun a b => a.1 < b.1) :
    (entries.find? (·.1 = key)).map (·.2) = some value ↔ (key, value) ∈ entries := by
  induction entries with
  | nil => simp
  | cons head rest ih =>
    obtain ⟨first, others⟩ := List.pairwise_cons.mp ordered
    obtain ⟨other, here⟩ := head
    by_cases same : other = key
    · subst same
      have apart : (other, value) ∉ rest := fun later => Std.Irrefl.irrefl other (first (other, value) later)
      simp [apart, eq_comm]
    · simp [same, ih others, Ne.symm same]

theorem FileTree.mem_nodes {tree : FileTree} {l : Location} {node : Node} :
    (l, node) ∈ tree.nodes.entries ↔ l ≠ [] ∧ tree.node? l = some node := by
  rw [← Dictionary.find?_key tree.nodes.ordered]
  change tree.nodes.get? l = some node ↔ _
  by_cases top : l = []
  · subst top
    refine ⟨fun found => ?_, fun found => absurd rfl found.1⟩
    have member := (Dictionary.find?_key tree.nodes.ordered).mp found
    exact absurd rfl (tree.rooted _ member).1
  · rw [node?_below top]
    exact ⟨fun found => ⟨top, found⟩, And.right⟩

theorem Dictionary.mem_keys_insert {κ : Type} [LT κ] [DecidableLT κ] [DecidableEq κ] [KeyOrder κ] {key wanted : κ}
    {map : Dictionary κ Unit} : wanted ∈ (map.insert key ()).keys ↔ wanted ∈ map.keys ∨ wanted = key := by
  have found : ∀ map : Dictionary κ Unit, wanted ∈ map.keys ↔ map.get? wanted = some () := by
    intro map
    rw [get?, Option.map_eq_some_iff, keys, List.mem_map]
    constructor
    · rintro ⟨entry, member, rfl⟩
      obtain ⟨first, isFirst⟩ := Option.isSome_iff_exists.mp
        (List.find?_isSome (p := (·.1 = entry.1)).mpr ⟨entry, member, by simp⟩)
      exact ⟨first, isFirst, rfl⟩
    · rintro ⟨entry, isFirst, _⟩
      exact ⟨entry, List.mem_of_find?_eq_some isFirst, by simpa using List.find?_some isFirst⟩
  rw [found, found, get?_insert]
  by_cases same : key = wanted
  · simp [same]
  · simp [same, Ne.symm same]

theorem DirectoryEntry.found {tree : FileTree} {directory : Location} (entry : DirectoryEntry tree directory) :
    tree.node? entry.path = some entry.node :=
  (FileTree.mem_nodes.mp entry.listed).2

namespace FileTree
variable {tree : FileTree} {directory : Location}

theorem mem_entriesOf {name : String} {node : Node} :
    (∃ entry ∈ tree.entriesOf directory, entry.name = name ∧ entry.node = node) ↔
      tree.node? (directory ++ [name]) = some node := by
  constructor
  · rintro ⟨entry, _, rfl, rfl⟩
    exact entry.found
  · intro found
    have listed : (directory ++ [name], node) ∈ tree.nodes.entries := mem_nodes.mpr ⟨by simp, found⟩
    refine ⟨⟨name, node, listed⟩, ?_, rfl, rfl⟩
    rw [entriesOf, List.mem_filterMap]
    exact ⟨⟨_, listed⟩, List.mem_attach _ _, by simp [entryIn?]⟩

end FileTree

namespace Glob

def Segment.admits (name : String) : Segment → Bool
  | .anyDirectories => false
  | .literal own => name = own
  | .expression test => test name.toList

namespace Pattern

def someTail {α : Type} (test : List α → Bool) : List α → Bool
  | [] => test []
  | a :: rest => test (a :: rest) || someTail test rest

def admits : Pattern → List String → Bool
  | [], names => names.isEmpty
  | .anyDirectories :: rest, names => someTail (admits rest) names
  | segment :: rest, names =>
    match names with
    | [] => false
    | name :: more => segment.admits name && admits rest more

-- Whether a pattern asks for the names in the directory where it starts. A name that is given is looked up without
-- them.
def lists : Pattern → Bool
  | [] => false
  | .literal _ :: _ => false
  | _ => true

variable {pattern rest : Pattern} {names : List String}

theorem someTail_iff {test : List String → Bool} : someTail test names = true ↔ ∃ tail, tail <:+ names ∧ test tail = true := by
  induction names with
  | nil => simp [someTail]
  | cons name rest ih => simp [someTail, ih, List.suffix_cons_iff, or_and_right, exists_or]

theorem admits_cons {segment : Segment} (single : segment ≠ .anyDirectories) :
    admits (segment :: rest) names = true ↔
      ∃ name more, names = name :: more ∧ segment.admits name = true ∧ admits rest more = true := by
  cases names with
  | nil => cases segment <;> simp_all [admits]
  | cons name more => cases segment <;> simp_all [admits]

theorem closed_tail {segment : Segment} (closed : (segment :: rest).getLast? ≠ some .anyDirectories) :
    (segment = .anyDirectories → rest ≠ []) ∧ rest.getLast? ≠ some .anyDirectories := by
  cases rest with
  | nil => simpa using closed
  | cons next rest => simpa using closed

theorem admits_some (some_ : pattern ≠ []) (closed : pattern.getLast? ≠ some .anyDirectories)
    (admitted : pattern.admits names = true) : names ≠ [] := by
  induction pattern generalizing names with
  | nil => exact absurd rfl some_
  | cons segment rest ih =>
    obtain ⟨more, last⟩ := closed_tail closed
    by_cases single : segment = .anyDirectories
    · subst single
      obtain ⟨tail, suffix, admits⟩ := someTail_iff.mp admitted
      rintro rfl
      exact ih (more rfl) last admits (List.suffix_nil.mp suffix)
    · obtain ⟨name, others, rfl, _⟩ := (admits_cons single).mp admitted
      simp

end Pattern

section Reading
variable [Regex]

theorem Segment.ofText?_parts {text : String} {segment : Segment} (read : ofText? text = .ok segment) :
    text = "**" ∧ segment = .anyDirectories ∨ isMarked text = false ∧ segment = .literal text ∨
    isMarked text = true ∧ ∃ parts test, parts? text text.toList = .ok parts ∧
      Regex.compile? (expressionText parts) = some test ∧ segment = .expression test := by
  unfold ofText? at read
  split at read
  · rename_i stars
    exact .inl ⟨stars, (Except.ok.inj read).symm⟩
  · split at read
    · cases read
    · split at read
      · rename_i marked
        cases ofParts : parts? text text.toList with
        | error error => simp [ofParts, bind, Except.bind] at read
        | ok parts =>
          simp only [ofParts, bind, Except.bind] at read
          cases made : Regex.compile? (expressionText parts) with
          | none => simp [made] at read
          | some test =>
            simp only [made, Except.ok.injEq] at read
            exact .inr (.inr ⟨marked, parts, test, rfl, made, read.symm⟩)
      · rename_i plain
        exact .inr (.inl ⟨by simpa using plain, (Except.ok.inj read).symm⟩)

theorem Segment.anyDirectories_iff {text : String} {segment : Segment} (read : ofText? text = .ok segment) :
    segment = .anyDirectories ↔ text = "**" := by
  rcases ofText?_parts read with ⟨stars, isStars⟩ | ⟨plain, rfl⟩ | ⟨marked, _, _, _, _, rfl⟩
  · simp [stars, isStars]
  · simp only [reduceCtorEq, false_iff]
    rintro rfl
    cases plain
  · simp only [reduceCtorEq, false_iff]
    rintro rfl
    cases read

def written (segments : List (List Char)) : List String :=
  (segments.map String.ofList).filter (fun t => t ≠ "" && t ≠ ".")

-- Behind two stars at the end any name is meant.
def Pattern.closed (segments : Pattern) : Except PatternError Pattern :=
  if segments.getLast?.any Segment.isAnyDirectories then (Segment.ofText? "*").map (segments ++ [·]) else .ok segments

theorem Pattern.ofText?_written (text : String) : ofText? text =
    (do Pattern.closed (← (written (pieces '/' text.toList)).mapM Segment.ofText?)) := by
  unfold ofText? closed written
  refine bind_congr fun segments => ?_
  split
  · cases Segment.ofText? "*" <;> rfl
  · rfl

theorem Pattern.ofText?_closed {text : String} {pattern : Pattern} (read : ofText? text = .ok pattern) :
    pattern.getLast? ≠ some .anyDirectories := by
  rw [ofText?_written] at read
  cases each : (written (pieces '/' text.toList)).mapM Segment.ofText? with
  | error error => simp [each, bind, Except.bind] at read
  | ok segments =>
    simp only [each, bind, Except.bind, closed] at read
    split at read
    · cases star : Segment.ofText? "*" with
      | error error => simp [star, Except.map] at read
      | ok last =>
        rw [star] at read
        obtain rfl := Except.ok.inj read
        rw [List.getLast?_concat, ne_eq, Option.some.injEq, Segment.anyDirectories_iff star]
        decide
    · rename_i other
      obtain rfl := Except.ok.inj read
      intro ends
      simp [ends, Segment.isAnyDirectories] at other

end Reading
end Glob

namespace Workspace
variable {w : Workspace} {root directory l : Location} {pattern rest : Pattern} {texts : List String}
  {found : List Location}

theorem isDirectory_iff : w.tree.isDirectory l = true ↔ w.tree.node? l = some .directory := decide_eq_true_iff

theorem isFile_or_isLink {node : Node} (isNode : w.tree.node? l = some node) :
    (w.isFile l || (w.isLink l && !w.tree.leadsToDirectory l)) = w.isCandidate l node := by
  cases node with
  | file content => simp [isFile, isCandidate, isNode]
  | directory => simp [isFile, isLink, isCandidate, isNode]
  | link target =>
    simp only [isFile, isLink, isCandidate, isNode, FileTree.leadsToDirectory, Bool.true_and]
    cases w.tree.follow FileTree.linkLimit [] l with
    | error error => rfl
    | ok other =>
      dsimp only
      split
      · rename_i isFile
        simp [FileTree.isDirectory, isFile]
      · rfl

-- A file or a link to a file below a directory, under names that a pattern admits.
def Finds (w : Workspace) (pattern : Pattern) (directory l : Location) : Prop :=
  ∃ names node, l = directory ++ names ∧ names ≠ [] ∧ w.tree.node? l = some node ∧ w.isCandidate l node = true ∧
    pattern.admits names = true

theorem Finds.above {names : List String} {name : String} {node : Node} (some_ : names ≠ [])
    (isNode : w.tree.node? (directory ++ name :: names) = some node) :
    w.tree.node? (directory ++ [name]) = some .directory := by
  rw [List.append_cons] at isNode
  exact FileTree.node?_above some_ (by simp only [isNode, Option.isSome_some])

theorem finds_nil : ¬ w.Finds [] directory l := by
  rintro ⟨names, _, _, some_, _, _, none⟩
  exact some_ (List.isEmpty_iff.mp none)

theorem finds_anyDirectories (closed : (.anyDirectories :: rest : Pattern).getLast? ≠ some .anyDirectories) :
    w.Finds (.anyDirectories :: rest) directory l ↔ w.Finds rest directory l ∨ ∃ name,
      w.tree.node? (directory ++ [name]) = some .directory ∧ w.Finds (.anyDirectories :: rest) (directory ++ [name]) l := by
  obtain ⟨more, last⟩ := Pattern.closed_tail closed
  constructor
  · rintro ⟨names, node, located, some_, isNode, candidate, admitted⟩
    obtain ⟨tail, suffix, admits⟩ := Pattern.someTail_iff.mp admitted
    have tailSome := Pattern.admits_some (more rfl) last admits
    obtain ⟨name, names, rfl⟩ := List.exists_cons_of_ne_nil some_
    rcases List.suffix_cons_iff.mp suffix with rfl | further
    · exact .inl ⟨_, node, located, some_, isNode, candidate, admits⟩
    · have names_some : names ≠ [] := by
        rintro rfl
        exact tailSome (List.suffix_nil.mp further)
      refine .inr ⟨name, Finds.above names_some (located ▸ isNode), names, node, by simp [located], names_some, isNode,
        candidate, Pattern.someTail_iff.mpr ⟨tail, further, admits⟩⟩
  · rintro (⟨names, node, located, some_, isNode, candidate, admitted⟩ |
      ⟨name, _, names, node, located, some_, isNode, candidate, admitted⟩)
    · exact ⟨names, node, located, some_, isNode, candidate, Pattern.someTail_iff.mpr ⟨names, List.suffix_refl _, admitted⟩⟩
    · obtain ⟨tail, suffix, admits⟩ := Pattern.someTail_iff.mp admitted
      exact ⟨name :: names, node, by simp [located], by simp, isNode, candidate,
        Pattern.someTail_iff.mpr ⟨tail, suffix.trans (List.suffix_cons name names), admits⟩⟩

theorem finds_last {segment : Segment} (single : segment ≠ .anyDirectories) : w.Finds [segment] directory l ↔
    ∃ name node, l = directory ++ [name] ∧ segment.admits name = true ∧ w.tree.node? l = some node ∧
      w.isCandidate l node = true := by
  constructor
  · rintro ⟨names, node, located, _, isNode, candidate, admitted⟩
    obtain ⟨name, more, rfl, named, none⟩ := (Pattern.admits_cons single).mp admitted
    obtain rfl : more = [] := List.isEmpty_iff.mp none
    exact ⟨name, node, located, named, isNode, candidate⟩
  · rintro ⟨name, node, located, named, isNode, candidate⟩
    exact ⟨[name], node, located, by simp, isNode, candidate, (Pattern.admits_cons single).mpr ⟨name, [], rfl, named, rfl⟩⟩

theorem finds_literal {name : String} : w.Finds [.literal name] directory l ↔
    l = directory ++ [name] ∧ (w.isFile l || (w.isLink l && !w.tree.leadsToDirectory l)) = true := by
  rw [finds_last (by simp)]
  constructor
  · rintro ⟨other, node, rfl, named, isNode, candidate⟩
    obtain rfl : other = name := of_decide_eq_true named
    exact ⟨rfl, (isFile_or_isLink isNode).trans candidate⟩
  · rintro ⟨rfl, found⟩
    cases isNode : w.tree.node? (directory ++ [name]) with
    | none => simp [isFile, isLink, isNode] at found
    | some node => exact ⟨name, node, rfl, decide_eq_true rfl, rfl, (isFile_or_isLink isNode).symm.trans found⟩

theorem finds_further {segment : Segment} (single : segment ≠ .anyDirectories) (more : rest ≠ [])
    (closed : rest.getLast? ≠ some .anyDirectories) : w.Finds (segment :: rest) directory l ↔
      ∃ name, segment.admits name = true ∧ w.tree.node? (directory ++ [name]) = some .directory ∧
        w.Finds rest (directory ++ [name]) l := by
  constructor
  · rintro ⟨_, node, located, _, isNode, candidate, admitted⟩
    obtain ⟨name, names, rfl, named, admits⟩ := (Pattern.admits_cons single).mp admitted
    have some_ := Pattern.admits_some more closed admits
    exact ⟨name, named, Finds.above some_ (located ▸ isNode), names, node, by simp [located], some_, isNode, candidate,
      admits⟩
  · rintro ⟨name, named, _, names, node, located, _, isNode, candidate, admits⟩
    exact ⟨name :: names, node, by simp [located], by simp, isNode, candidate,
      (Pattern.admits_cons single).mpr ⟨name, names, rfl, named, admits⟩⟩

theorem foldlM_collects {ε α : Type} {add : Dictionary Location Unit → α → Except ε (Dictionary Location Unit)}
    {adds : α → Location → Prop}
    (each : ∀ found a, ∃ more, add found a = .ok more ∧ ∀ l, l ∈ more.keys ↔ l ∈ found.keys ∨ adds a l)
    (entries : List α) (found : Dictionary Location Unit) :
    ∃ more, entries.foldlM add found = .ok more ∧ ∀ l, l ∈ more.keys ↔ l ∈ found.keys ∨ ∃ a ∈ entries, adds a l := by
  induction entries generalizing found with
  | nil => exact ⟨found, rfl, by simp⟩
  | cons a rest ih =>
    obtain ⟨next, added, ofFirst⟩ := each found a
    obtain ⟨more, later, ofRest⟩ := ih next
    refine ⟨more, by rw [List.foldlM_cons, added]; exact later, fun l => ?_⟩
    rw [ofRest, ofFirst, List.exists_mem_cons_iff, or_assoc]

theorem readDirectory_ok (inDirectory : w.tree.isDirectory directory = true) :
    w.readDirectory directory = .ok (w.tree.entriesOf directory) := by
  rw [readDirectory, isDirectory_iff.mp inDirectory]

theorem readDirectory_refused (isNode : (w.tree.node? directory).isSome) (other : w.tree.isDirectory directory = false) :
    w.readDirectory directory = .error (.access directory.path .notDirectory) := by
  obtain ⟨node, found⟩ := Option.isSome_iff_exists.mp isNode
  cases node with
  | directory => simp [isDirectory_iff.mpr found] at other
  | file | link => rw [readDirectory, found]

def Collects (w : Workspace) (pattern : Pattern) (directory : Location) : Prop :=
  ∀ found, ∃ more, w.walk pattern directory found = .ok more ∧
    ∀ l, l ∈ more.keys ↔ l ∈ found.keys ∨ w.Finds pattern directory l

section Walk
variable (further : ∀ directory, w.tree.isDirectory directory = true → w.Collects rest directory)
include further

theorem walk_literal (closed : rest.getLast? ≠ some .anyDirectories) (name : String) :
    w.Collects (.literal name :: rest) directory := by
  intro found
  have single : Segment.literal name ≠ .anyDirectories := by simp
  have own : ∀ other, Segment.admits other (.literal name) = true ↔ other = name := fun other => decide_eq_true_iff
  rw [walk]
  by_cases last : rest = []
  · subst last
    simp only [finds_literal]
    by_cases isFile : (w.isFile (directory ++ [name]) ||
        (w.isLink (directory ++ [name]) && !w.tree.leadsToDirectory (directory ++ [name]))) = true
    · refine ⟨found.insert (directory ++ [name]) (), by rw [if_pos List.isEmpty_nil, if_pos isFile], fun l => ?_⟩
      rw [Dictionary.mem_keys_insert]
      exact or_congr_right ⟨fun same => ⟨same, same ▸ isFile⟩, And.left⟩
    · refine ⟨found, by rw [if_pos List.isEmpty_nil, if_neg isFile], fun l => ?_⟩
      rw [iff_comm, or_iff_left_iff_imp]
      intro wanted
      exact absurd (wanted.1 ▸ wanted.2) isFile
  · by_cases inside : w.tree.isDirectory (directory ++ [name]) = true
    · obtain ⟨more, walked, ofRest⟩ := further (directory ++ [name]) inside found
      refine ⟨more, by simpa [last, inside] using walked, fun l => ?_⟩
      rw [ofRest, finds_further single last closed]
      simp [own, isDirectory_iff.mp inside]
    · refine ⟨found, by simp [last, inside], fun l => ?_⟩
      rw [isDirectory_iff] at inside
      rw [finds_further single last closed]
      simp [own, inside]

theorem entry_matched (test : List Char → Bool) (found : Dictionary Location Unit) (entry : DirectoryEntry w.tree directory) :
    ∃ more, (if !test entry.name.toList then .ok found
        else if rest.isEmpty && w.isCandidate entry.path entry.node then .ok (found.insert entry.path ())
        else if !rest.isEmpty && entry.isDirectory then w.walk rest entry.path found
        else .ok found) = Except.ok (ε := Failure) more ∧
      ∀ l, l ∈ more.keys ↔ l ∈ found.keys ∨ test entry.name.toList = true ∧
        (rest = [] ∧ l = entry.path ∧ w.isCandidate l entry.node = true ∨
          rest ≠ [] ∧ entry.node = .directory ∧ w.Finds rest entry.path l) := by
  by_cases named : test entry.name.toList = true
  · rw [if_neg (by simp [named])]
    by_cases last : rest = []
    · subst last
      by_cases candidate : w.isCandidate entry.path entry.node = true
      · refine ⟨found.insert entry.path (), by simp [candidate], fun l => ?_⟩
        rw [Dictionary.mem_keys_insert]
        refine or_congr_right ⟨fun same => ?_, ?_⟩
        · subst same
          exact ⟨named, .inl ⟨rfl, rfl, candidate⟩⟩
        · rintro ⟨_, ⟨_, same, _⟩ | ⟨more, _⟩⟩
          · exact same
          · exact absurd rfl more
      · refine ⟨found, by simp [candidate], fun l => ?_⟩
        refine (or_iff_left ?_).symm
        rintro ⟨_, ⟨_, rfl, also⟩ | ⟨more, _⟩⟩
        · exact candidate also
        · exact more rfl
    · by_cases inside : entry.node = .directory
      · obtain ⟨more, walked, ofRest⟩ := further entry.path (isDirectory_iff.mpr (inside ▸ entry.found)) found
        refine ⟨more, by simpa [last, DirectoryEntry.isDirectory, inside] using walked, fun l => ?_⟩
        simp [ofRest, named, last, inside]
      · exact ⟨found, by simp [last, DirectoryEntry.isDirectory, inside], fun l => by simp [last, inside]⟩
  · exact ⟨found, by simp [named], fun l => by simp [named]⟩

theorem walk_expression (closed : rest.getLast? ≠ some .anyDirectories)
    (inDirectory : w.tree.isDirectory directory = true) (test : List Char → Bool) :
    w.Collects (.expression test :: rest) directory := by
  intro found
  have single : Segment.expression test ≠ .anyDirectories := by simp
  obtain ⟨more, walked, adds⟩ := foldlM_collects (entry_matched further test) (w.tree.entriesOf directory) found
  refine ⟨more, ?_, fun l => (adds l).trans (or_congr_right ?_)⟩
  · rw [walk, readDirectory_ok inDirectory]
    exact walked
  by_cases last : rest = []
  · subst last
    rw [finds_last single]
    constructor
    · rintro ⟨entry, _, named, ⟨_, rfl, candidate⟩ | ⟨more, _⟩⟩
      · exact ⟨entry.name, entry.node, rfl, named, entry.found, candidate⟩
      · exact absurd rfl more
    · rintro ⟨name, node, rfl, named, isNode, candidate⟩
      obtain ⟨entry, among, rfl, rfl⟩ := FileTree.mem_entriesOf.mpr isNode
      exact ⟨entry, among, named, .inl ⟨rfl, rfl, candidate⟩⟩
  · rw [finds_further single last closed]
    constructor
    · rintro ⟨entry, _, named, ⟨none, _⟩ | ⟨_, inside, later⟩⟩
      · exact absurd none last
      · exact ⟨entry.name, named, inside ▸ entry.found, later⟩
    · rintro ⟨name, named, inside, later⟩
      obtain ⟨entry, among, rfl, isDirectory⟩ := FileTree.mem_entriesOf.mpr inside
      exact ⟨entry, among, named, .inr ⟨last, isDirectory, later⟩⟩

theorem walk_anyDirectories (closed : (.anyDirectories :: rest : Pattern).getLast? ≠ some .anyDirectories)
    (inDirectory : w.tree.isDirectory directory = true) : w.Collects (.anyDirectories :: rest) directory := by
  -- every step down leaves fewer names to the bottom of the tree
  induction room : w.tree.height - directory.length using Nat.strongRecOn generalizing directory with
  | ind room deeper =>
    have each : ∀ (found : Dictionary Location Unit) (entry : DirectoryEntry w.tree directory), ∃ more,
        (if entry.isDirectory then w.walk (.anyDirectories :: rest) entry.path found else .ok found) = .ok more ∧
          ∀ l, l ∈ more.keys ↔ l ∈ found.keys ∨
            entry.node = .directory ∧ w.Finds (.anyDirectories :: rest) entry.path l := by
      intro found entry
      by_cases inside : entry.node = .directory
      · have shorter := entry.length_lt
        have longer : entry.path.length = directory.length + 1 := by simp [DirectoryEntry.path]
        obtain ⟨more, walked, adds⟩ := deeper _ (by omega) (isDirectory_iff.mpr (inside ▸ entry.found)) rfl found
        exact ⟨more, by simpa [DirectoryEntry.isDirectory, inside] using walked, fun l => by simp [adds, inside]⟩
      · exact ⟨found, by simp [DirectoryEntry.isDirectory, inside], fun l => by simp [inside]⟩
    intro found
    obtain ⟨next, walked, ofRest⟩ := further directory inDirectory found
    obtain ⟨more, listed, ofEntries⟩ := foldlM_collects each (w.tree.entriesOf directory) next
    refine ⟨more, ?_, fun l => ?_⟩
    · rw [walk, walked, readDirectory_ok inDirectory]
      exact listed
    · rw [ofEntries, ofRest, finds_anyDirectories closed, or_assoc]
      refine or_congr_right (or_congr_right ?_)
      constructor
      · rintro ⟨entry, _, inside, later⟩
        exact ⟨entry.name, inside ▸ entry.found, later⟩
      · rintro ⟨name, inside, later⟩
        obtain ⟨entry, among, rfl, isDirectory⟩ := FileTree.mem_entriesOf.mpr inside
        exact ⟨entry, among, isDirectory, later⟩

end Walk

-- A walk comes to an end wherever it can list the directory that it starts from, or does not ask for its names.
theorem walk_collects (closed : pattern.getLast? ≠ some .anyDirectories)
    (listable : pattern.lists = true → w.tree.isDirectory directory = true) : w.Collects pattern directory := by
  induction pattern generalizing directory with
  | nil => exact fun found => ⟨found, by rw [walk], fun l => by simp [finds_nil]⟩
  | cons segment rest ih =>
    obtain ⟨_, last⟩ := Pattern.closed_tail closed
    have further : ∀ directory, w.tree.isDirectory directory = true → w.Collects rest directory :=
      fun directory inDirectory => ih last fun _ => inDirectory
    cases segment with
    | literal name => exact walk_literal further last name
    | expression test => exact walk_expression further last (listable rfl) test
    | anyDirectories => exact walk_anyDirectories further closed (listable rfl)

theorem walk_refused (closed : pattern.getLast? ≠ some .anyDirectories) (lists : pattern.lists = true)
    (isNode : (w.tree.node? directory).isSome) (other : w.tree.isDirectory directory = false)
    (found : Dictionary Location Unit) :
    w.walk pattern directory found = .error (.access directory.path .notDirectory) := by
  induction pattern with
  | nil => cases lists
  | cons segment rest ih =>
    obtain ⟨_, last⟩ := Pattern.closed_tail closed
    cases segment with
    | literal name => cases lists
    | expression test =>
      rw [walk, readDirectory_refused isNode other]
      rfl
    | anyDirectories =>
      rw [walk, readDirectory_refused isNode other]
      by_cases also : Pattern.lists rest = true
      · rw [ih last also]
        rfl
      · obtain ⟨more, walked, _⟩ := walk_collects last (fun asks => absurd asks also) found
        rw [walked]
        rfl

end Workspace
end WireSchema

import Mathlib.Data.List.Basic
import Mathlib.Data.List.Induction
import WireSchema.FileTree

-- Paths as texts against locations as lists of names. Between the locations of a tree whose names are those of
-- files, a path leads to one location at most, whatever points and slashes it is written with.
namespace WireSchema
open Text

theorem Text.pieces_eq (separator : Char) (text : List Char) : pieces separator text = text.splitOn separator := by
  induction text with
  | nil => simp [pieces]
  | cons c rest ih =>
    have some_ : pieces separator rest ≠ [] := by simp [ih]
    rw [List.splitOn_eq_splitOnP] at ih ⊢
    rw [pieces, List.splitOnP_cons_eq_if_modifyHead, ← ih]
    by_cases same : c = separator
    · simp [same]
    · cases found : pieces separator rest with
      | nil => exact absurd found some_
      | cons first others => simp [same]

theorem Text.pieces_append (separator : Char) (front rest : List Char) :
    pieces separator (front ++ separator :: rest) = pieces separator front ++ pieces separator rest := by
  rw [pieces_eq, pieces_eq, pieces_eq, List.splitOn_eq_splitOnP, List.splitOn_eq_splitOnP, List.splitOn_eq_splitOnP,
    List.splitOnP_append_cons _ _ (by simp)]

theorem Text.mem_pieces {separator c : Char} (other : c ≠ separator) {text : List Char} (member : c ∈ text) :
    ∃ piece ∈ pieces separator text, c ∈ piece := by
  induction text with
  | nil => cases member
  | cons d rest ih =>
    rw [pieces]
    by_cases same : d = separator
    · have later : c ∈ rest := (List.mem_cons.mp member).resolve_left fun here => other (here.trans same)
      obtain ⟨piece, inside, holds⟩ := ih later
      exact ⟨piece, by simp [same, inside], holds⟩
    · rw [if_neg same]
      cases found : pieces separator rest with
      | nil => simp [pieces_eq] at found
      | cons first others =>
        rcases List.mem_cons.mp member with rfl | later
        · exact ⟨c :: first, List.mem_cons_self, List.mem_cons_self⟩
        · obtain ⟨piece, inside, holds⟩ := ih later
          rw [found] at inside
          rcases List.mem_cons.mp inside with rfl | further
          · exact ⟨d :: piece, List.mem_cons_self, List.mem_cons_of_mem _ holds⟩
          · exact ⟨piece, List.mem_cons_of_mem _ further, holds⟩

-- A name that a file can have. Two points are the name of no file either, but a path keeps them as they are.
structure IsFileName (name : String) : Prop where
  some : name ≠ ""
  noPoint : name ≠ "."
  whole : '/' ∉ name.toList

namespace Path

def names (path : String) : List String := (parts path).filter (· ≠ ".")

def target (directory : Location) (path : String) : Location :=
  (if isAbsolute path then [] else directory) ++ names path

theorem parts_append (front rest : String) : parts (front ++ "/" ++ rest) = parts front ++ parts rest := by
  have between : (front ++ "/" ++ rest).toList = front.toList ++ '/' :: rest.toList := by simp
  rw [parts, between, pieces_append]
  simp [parts]

theorem parts_top (rest : String) : parts ("/" ++ rest) = parts rest := by
  have front := parts_append "" rest
  rwa [String.empty_append, show parts "" = [] from by decide, List.nil_append] at front

theorem component_injective : Function.Injective component := by
  intro a b same
  unfold component at same
  split at same <;> split at same <;> simp_all

theorem components_absolute {path : String} (absolute : isAbsolute path = true) :
    components path = .root :: (names path).map component := by
  simp [components, absolute, names]

theorem same_absolute {a b : String} (first : isAbsolute a = true) (second : isAbsolute b = true) :
    same a b = true ↔ names a = names b := by
  rw [same, components_absolute first, components_absolute second, decide_eq_true_iff, List.cons_inj_right,
    component_injective.list_map.eq_iff]

end Path

namespace Location
variable {l directory : Location}

theorem path_absolute (l : Location) : Path.isAbsolute l.path = true := by simp [path, Path.isAbsolute]

theorem path_parts (proper : ∀ name ∈ l, IsFileName name) : Path.parts l.path = l := by
  rw [path, Path.parts_top]
  cases l with
  | nil => decide
  | cons first rest =>
    have whole : ∀ text ∈ (first :: rest).map String.toList, '/' ∉ text := by
      intro text member
      obtain ⟨name, inside, rfl⟩ := List.mem_map.mp member
      exact (proper name inside).whole
    have some_ : ((first :: rest).map String.toList).filter (!·.isEmpty) = (first :: rest).map String.toList := by
      refine List.filter_eq_self.mpr fun text member => ?_
      obtain ⟨name, inside, rfl⟩ := List.mem_map.mp member
      simp [(proper name inside).some]
    rw [Path.parts, String.toList_intercalate, pieces_eq, show "/".toList = ['/'] from by decide,
      List.splitOn_intercalate _ whole (by simp), some_]
    simp [Function.comp_def]

theorem path_names (proper : ∀ name ∈ l, IsFileName name) : Path.names l.path = l := by
  rw [Path.names, path_parts proper]
  exact List.filter_eq_self.mpr fun name member => by simp [(proper name member).noPoint]

theorem join_absolute (path : String) : Path.isAbsolute (Path.join directory.path path) = true := by
  have absolute := directory.path_absolute
  by_cases own : Path.isAbsolute path = true
  · simp [Path.join, own]
  · unfold Path.isAbsolute at absolute own ⊢
    cases text : directory.path.toList with
    | nil => simp [text] at absolute
    | cons c rest =>
      unfold Path.join
      split
      · simp_all [Path.isAbsolute]
      · split <;> simp_all

theorem join_names (proper : ∀ name ∈ directory, IsFileName name) (path : String) :
    Path.names (Path.join directory.path path) = Path.target directory path := by
  unfold Path.target
  have some_ : directory.path.isEmpty = false := by simp [Location.path]
  by_cases own : Path.isAbsolute path = true
  · simp [Path.join, own]
  · have joined : Path.parts (Path.join directory.path path) = Path.parts directory.path ++ Path.parts path := by
      unfold Path.join
      simp only [own, some_, Bool.or_self, Bool.false_eq_true, if_false]
      split
      · rename_i closed
        obtain ⟨front, whole⟩ := List.getLast?_eq_some_iff.mp closed
        have text : directory.path = String.ofList front ++ "/" := by simp [← String.toList_inj, whole]
        rw [text, Path.parts_append, show String.ofList front ++ "/" = String.ofList front ++ "/" ++ "" from by simp,
          Path.parts_append, show Path.parts "" = [] from by decide, List.append_nil]
      · rw [Path.parts_append]
    rw [if_neg own, Path.names, joined, List.filter_append, ← Path.names, ← Path.names, path_names proper]

theorem path_same (ofLocation : ∀ name ∈ l, IsFileName name) (ofDirectory : ∀ name ∈ directory, IsFileName name)
    (path : String) : Path.same l.path (Path.join directory.path path) = true ↔ l = Path.target directory path := by
  rw [Path.same_absolute l.path_absolute (join_absolute path), path_names ofLocation, join_names ofDirectory]

end Location

namespace FileTree
variable {tree : FileTree} {l : Location}

def Named (tree : FileTree) : Prop := ∀ entry ∈ tree.nodes.entries, ∀ name ∈ entry.1, IsFileName name

theorem node?_top : tree.node? [] = some .directory := rfl

theorem node?_parent (below : l ≠ []) (found : (tree.node? l).isSome) : tree.node? l.dropLast = some .directory := by
  rw [node?_below below, Dictionary.get?, Option.isSome_map, List.find?_isSome] at found
  obtain ⟨entry, member, same⟩ := found
  obtain rfl : entry.1 = l := by simpa using same
  rcases (tree.rooted entry member).2 with parent | parent
  · rw [parent, node?_top]
  · unfold node?
    split
    · rfl
    · exact parent

theorem node?_above {front names : Location} (below : names ≠ []) (found : (tree.node? (front ++ names)).isSome) :
    tree.node? front = some .directory := by
  induction names using List.reverseRecOn with
  | nil => exact absurd rfl below
  | append_singleton names name ih =>
    have parent := node?_parent (by simp) found
    rw [← List.append_assoc, List.dropLast_concat] at parent
    by_cases last : names = []
    · rwa [last, List.append_nil] at parent
    · exact ih last (by simp [parent])

theorem Named.node (named : tree.Named) (found : (tree.node? l).isSome) : ∀ name ∈ l, IsFileName name := by
  by_cases top : l = []
  · simp [top]
  · rw [node?_below top, Dictionary.get?, Option.isSome_map, List.find?_isSome] at found
    obtain ⟨entry, member, same⟩ := found
    obtain rfl : entry.1 = l := by simpa using same
    exact named entry member

theorem startOf_node {here : Location} (found : (tree.node? here).isSome) (path : String) :
    (tree.node? (startOf here path)).isSome := by
  unfold startOf
  split
  · simp [node?]
  · exact found

theorem follow_node {links : Nat} {here : Location} {steps : List String}
    (start : steps ≠ [] ∨ (tree.node? here).isSome) (followed : tree.follow links here steps = .ok l) :
    (tree.node? l).isSome := by
  have ofDirectory : ∀ {here : Location}, tree.isDirectory here = true → (tree.node? here).isSome := by
    intro here inDirectory
    simp only [isDirectory, decide_eq_true_eq] at inDirectory
    simp [inDirectory]
  fun_induction follow tree links here steps with
  | case1 links here =>
    cases followed
    simpa using start
  | case2 links here rest inDirectory ih => exact ih (.inr (ofDirectory inDirectory)) followed
  | case3 links here rest inDirectory _ ih =>
    refine ih (.inr ?_) followed
    by_cases top : here = []
    · simp [top, node?_top]
    · simp [node?_parent top (ofDirectory inDirectory)]
  | case4 | case5 | case6 | case9 => cases followed
  | case7 here step rest inDirectory _ _ target found more some_ ih =>
    exact ih (.inr (startOf_node (ofDirectory inDirectory) target)) followed
  | case8 links here step rest inDirectory _ _ node other found ih => exact ih (.inr (by simp [found])) followed

theorem steps_some {path : String} (some_ : path ≠ "") : steps path ≠ [] := by
  intro none
  obtain ⟨ofParts, ofEnd⟩ := List.append_eq_nil_iff.mp none
  cases last : path.toList.getLast? with
  | none => exact some_ (by simpa using last)
  | some c =>
    by_cases slash : c = '/'
    · simp [last, slash] at ofEnd
    · obtain ⟨piece, inside, holds⟩ := mem_pieces slash (List.mem_of_getLast? last)
      rw [Path.parts, List.map_eq_nil_iff, List.filter_eq_nil_iff] at ofParts
      exact ofParts piece inside (by simp [List.ne_nil_of_mem holds])

theorem locate_node {here : Location} {path : String} (located : tree.locate here path = .ok l) :
    (tree.node? l).isSome := by
  unfold locate at located
  split at located
  · cases located
  · rename_i some_
    exact follow_node (.inl (steps_some (by simpa using some_))) located

end FileTree
end WireSchema

import Mathlib
import WireSchema.Proofs.Files.Search
import WireSchema.Proofs.Glob.Elementary
import WireSchema.Proofs.Glob.Wildcards

-- A search finds exactly the files whose names below the directory a pattern selects.
namespace WireSchema
open Text

namespace Glob

-- The segments of a pattern as they are written. Behind two stars at the end any name is meant.
def segmentTexts (pattern : String) : List String :=
  let texts := written (pieces '/' pattern.toList)
  if texts.getLast? = some "**" then texts ++ ["*"] else texts

section Selects
variable [Regex] (element : List Char → Prop) (spans : List Char → List Char → Nat → Nat → Prop)

-- The names on the way to a file against segments. Two stars stand for any number of names.
inductive Selects : List String → List String → Prop where
  | done : Selects [] []
  | pass {rest names : List String} (later : Selects rest names) : Selects ("**" :: rest) names
  | deeper {rest names : List String} {name : String} (later : Selects ("**" :: rest) names) :
    Selects ("**" :: rest) (name :: names)
  | name {segment name : String} {rest names : List String} (named : Segment.Names element spans segment name)
    (later : Selects rest names) : Selects (segment :: rest) (name :: names)

end Selects

namespace Pattern

variable [Regex] {element : List Char → Prop} {spans : List Char → List Char → Nat → Nat → Prop}

theorem selects_stars {rest names : List String} :
    Selects element spans ("**" :: rest) names ↔ ∃ tail, tail <:+ names ∧ Selects element spans rest tail := by
  constructor
  · intro selects
    induction names with
    | nil =>
      cases selects with
      | pass later => exact ⟨[], List.suffix_refl _, later⟩
    | cons name names ih =>
      cases selects with
      | pass later => exact ⟨_, List.suffix_refl _, later⟩
      | deeper later =>
        obtain ⟨tail, suffix, selects⟩ := ih later
        exact ⟨tail, suffix.trans (List.suffix_cons name names), selects⟩
      | name named => exact absurd named (Segment.names_stars name)
  · rintro ⟨tail, ⟨front, rfl⟩, selects⟩
    induction front with
    | nil => exact .pass selects
    | cons name front ih => exact .deeper ih

theorem selects_name {segment : String} {rest names : List String} (single : segment ≠ "**") :
    Selects element spans (segment :: rest) names ↔
      ∃ name more, names = name :: more ∧ Segment.Names element spans segment name ∧ Selects element spans rest more := by
  constructor
  · rintro (_ | _ | _ | ⟨named, later⟩)
    · exact absurd rfl single
    · exact absurd rfl single
    · exact ⟨_, _, rfl, named, later⟩
  · rintro ⟨name, more, rfl, named, later⟩
    exact .name named later

theorem getLast?_stars {texts : List String} {pattern : Pattern}
    (read : List.Forall₂ (fun text segment => Segment.ofText? text = .ok segment) texts pattern) :
    pattern.getLast? = some .anyDirectories ↔ texts.getLast? = some "**" := by
  induction read with
  | nil => simp
  | cons first rest ih =>
    cases rest with
    | nil => simpa using Segment.anyDirectories_iff first
    | cons => simpa [List.getLast?_cons_cons] using ih

theorem admits_selects (documented : Regex.Documented element spans) {texts : List String} {pattern : Pattern}
    (read : List.Forall₂ (fun text segment => Segment.ofText? text = .ok segment) texts pattern) (names : List String) :
    pattern.admits names = true ↔ Selects element spans texts names := by
  induction read generalizing names with
  | nil =>
    cases names with
    | nil => simp [admits, Selects.done]
    | cons name more =>
      simp only [admits, List.isEmpty_cons, Bool.false_eq_true, false_iff]
      rintro ⟨⟩
  | @cons text segment texts pattern first _ ih =>
    by_cases stars : text = "**"
    · subst stars
      obtain rfl := (Segment.anyDirectories_iff first).mpr rfl
      rw [admits, someTail_iff, selects_stars]
      simp only [ih]
    · have single : segment ≠ .anyDirectories := fun any => stars ((Segment.anyDirectories_iff first).mp any)
      rw [selects_name stars]
      cases names with
      | nil => simp [admits]
      | cons name more => simp [admits, Segment.admits_names documented first, ih]

theorem ofText?_selects (documented : Regex.Documented element spans) {text : String} {pattern : Pattern}
    (read : ofText? text = .ok pattern) (names : List String) :
    pattern.admits names = true ↔ Selects element spans (segmentTexts text) names := by
  rw [ofText?_written] at read
  unfold segmentTexts
  generalize written (pieces '/' text.toList) = texts at read ⊢
  cases each : texts.mapM Segment.ofText? with
  | error error => simp [each, bind, Except.bind] at read
  | ok segments =>
    simp only [each, bind, Except.bind, closed] at read
    have segmented := mapM_ok.mp each
    have last : segments.getLast?.any Segment.isAnyDirectories = true ↔ texts.getLast? = some "**" := by
      rw [← getLast?_stars segmented]
      cases segments.getLast? with
      | none => simp
      | some segment => cases segment <;> simp [Segment.isAnyDirectories]
    refine admits_selects documented ?_ names
    by_cases stars : texts.getLast? = some "**"
    · rw [if_pos (last.mpr stars)] at read
      obtain ⟨star, made, rfl⟩ := Segment.map_ok read
      rw [if_pos stars]
      exact List.rel_append segmented (.cons made .nil)
    · rw [if_neg (fun any => stars (last.mp any))] at read
      obtain rfl := Except.ok.inj read
      rw [if_neg stars]
      exact segmented

end Pattern
end Glob

namespace Workspace
open Glob
variable {w : Workspace} {directory : Location} {texts : List String}

theorem isCandidate_iff {l : Location} {node : Node} (found : w.tree.node? l = some node) :
    w.isCandidate l node = true ↔ (∃ content, w.tree.node? l = some (.file content)) ∨
      (∃ target, w.tree.node? l = some (.link target)) ∧ w.tree.leadsToDirectory l = false := by
  cases node <;> simp [isCandidate, found]

section Selected
variable [Regex] (element : List Char → Prop) (spans : List Char → List Char → Nat → Nat → Prop)

-- A file, or a link that leads to no directory, that lies below a directory and only in directories on the way, under
-- names that one of the patterns selects.
def Selected (w : Workspace) (directory : Location) (texts : List String) (l : Location) : Prop :=
  ∃ names, names ≠ [] ∧ l = directory ++ names ∧
    (∀ front, front <+: names → front ≠ names → w.tree.node? (directory ++ front) = some .directory) ∧
    ((∃ content, w.tree.node? l = some (.file content)) ∨
      (∃ target, w.tree.node? l = some (.link target)) ∧ w.tree.leadsToDirectory l = false) ∧
    ∃ text ∈ texts, Selects element spans (segmentTexts text) names

variable {element spans}

theorem finds_selected (documented : Regex.Documented element spans) {patterns : List Pattern}
    (read : List.Forall₂ (fun text pattern => w.patternAt directory text = .ok pattern) texts patterns) (l : Location) :
    (∃ pattern ∈ patterns, w.Finds pattern directory l) ↔ w.Selected element spans directory texts l := by
  have selected : ∀ names, (∃ pattern ∈ patterns, pattern.admits names = true) ↔
      ∃ text ∈ texts, Selects element spans (segmentTexts text) names :=
    fun names => exists_related read fun made => Pattern.ofText?_selects documented (patternAt_ok.mp made).1 names
  constructor
  · rintro ⟨pattern, member, names, node, rfl, below, found, candidate, admitted⟩
    refine ⟨names, below, rfl, ?_, (isCandidate_iff found).mp candidate, (selected names).mp ⟨pattern, member, admitted⟩⟩
    rintro front ⟨rest, rfl⟩ other
    have isNode : (w.tree.node? (directory ++ front ++ rest)).isSome := by simp [found]
    have further : rest ≠ [] := fun none => other (by simp [none])
    exact FileTree.node?_above further isNode
  · rintro ⟨names, below, rfl, _, isFile, named⟩
    obtain ⟨pattern, member, admitted⟩ := (selected names).mpr named
    obtain ⟨node, found⟩ : ∃ node, w.tree.node? (directory ++ names) = some node := by
      rcases isFile with ⟨content, found⟩ | ⟨⟨target, found⟩, _⟩
      · exact ⟨_, found⟩
      · exact ⟨_, found⟩
    exact ⟨pattern, member, names, node, rfl, below, found, (isCandidate_iff found).mpr isFile, admitted⟩

-- A search comes to an end in every directory, with the files that the patterns select and nothing else, each once
-- and in the order of their names. It does not matter in what order the patterns come, nor how often.
theorem search_exact (documented : Regex.Documented element spans) (w : Workspace) (root : String) (texts : List String)
    (directory : Location) (located : w.locate root = .ok directory) (isDirectory : w.tree.isDirectory directory = true)
    (parsed : ∀ text ∈ texts, ∃ pattern, Pattern.ofText? text = .ok pattern) :
    ∃ found, (do w.search (← w.locate root) texts) = .ok found ∧ found.Pairwise (· < ·) ∧
      (∀ l, l ∈ found ↔ w.Selected element spans directory texts l) ∧
      ∀ others, (∀ text, text ∈ others ↔ text ∈ texts) → (do w.search (← w.locate root) others) = .ok found := by
  have rooted := locate_node located
  have exact : ∀ texts, (∀ text ∈ texts, ∃ pattern, Pattern.ofText? text = .ok pattern) → ∃ found,
      w.search directory texts = .ok found ∧ found.Pairwise (· < ·) ∧
        ∀ l, l ∈ found ↔ w.Selected element spans directory texts l := by
    intro texts parsed
    have each : ∀ text ∈ texts, ∃ pattern, w.patternAt directory text = .ok pattern := fun text member =>
      (parsed text member).imp fun pattern made => patternAt_ok.mpr ⟨made, fun _ => isDirectory⟩
    obtain ⟨patterns, read⟩ := mapM_total each
    obtain ⟨found, searched, ordered, finds⟩ := search_read rooted read
    exact ⟨found, searched, ordered, fun l => (finds l).trans (finds_selected documented (mapM_ok.mp read) l)⟩
  obtain ⟨found, searched, ordered, selected⟩ := exact texts parsed
  refine ⟨found, (search_located located).trans searched, ordered, selected, fun others same => ?_⟩
  obtain ⟨again, searchedAgain, orderedAgain, selectedAgain⟩ := exact others fun text member =>
    parsed text ((same text).mp member)
  have sameMembers : ∀ l, l ∈ again ↔ l ∈ found := by
    intro l
    rw [selected, selectedAgain]
    simp only [Selected, same]
  rw [search_located located, searchedAgain, orderedAgain.eq_of_mem_iff ordered sameMembers]

end Selected
end Workspace

namespace OneFile
open Elementary

def workspace : Workspace := ⟨⟨⟨[(["Abc"], .file [])], by simp⟩, by simp⟩, []⟩

theorem found {text : String} {atoms : List (List Elementary.Atom)}
    (read : @Glob.Pattern.ofText? engine text = .ok [.expression fun name => atoms.any (occurs name)])
    (occurs : atoms.any (occurs "Abc".toList) = true) :
    (do @Workspace.search engine workspace (← workspace.locate "/") [text]) = .ok [["Abc"]] := by
  let _ : Regex := engine
  have pattern : workspace.patternAt [] text = .ok [.expression fun name => atoms.any (Elementary.occurs name)] := by
    simp only [Workspace.patternAt, read]
    rfl
  rw [Workspace.search_located workspace.locate_top, Workspace.search_eq rfl, List.mapM_cons, pattern]
  have kept : workspace.kept? [] [Glob.Pattern.admits [.expression fun name => atoms.any (Elementary.occurs name)]]
      (["Abc"], .file []) = some ["Abc"] := by
    simpa [Workspace.kept?, Workspace.isCandidate, Glob.Pattern.admits, Glob.Segment.admits] using occurs
  exact congrArg (fun l => Except.ok (Option.toList l)) kept

theorem selected : (do @Workspace.search engine workspace (← workspace.locate "/") ["A[b-d]?"]) = .ok [["Abc"]] ∧
    @Workspace.Selected engine element spans workspace [] ["A[b-d]?"] ["Abc"] := by
  have read : @Glob.Pattern.ofText? engine "A[b-d]?" = .ok [.expression fun name => [[.start, .choice (· = 'A'),
      .choice (inRanges [('b', 'd')]), .choice (· ≠ '\n'), .finish]].any (occurs name)] := by cbv
  have known := found read (by decide)
  obtain ⟨found, searched, _, selects, _⟩ := @Workspace.search_exact engine element spans documented workspace "/"
    ["A[b-d]?"] [] workspace.locate_top (by decide) (by simp [read])
  cases searched.symm.trans known
  exact ⟨known, (selects _).mp List.mem_cons_self⟩

-- The bracket has a bracket in it that takes its end away, so what stands behind it is read as another choice.
def early : String := "[A-[:b]|]x"

theorem early_unmatched (holds : List Char → Char → Prop) : ¬ Glob.Wildcard holds early.toList "Abc".toList := by
  have letters : early.toList = '[' :: "A-[:b]|]x".toList ∧ "Abc".toList = ['A', 'b', 'c'] := by decide
  have closes : Glob.Segment.bracketText? true false (Glob.Segment.negation "A-[:b]|]x".toList).2 =
      some ("A-[:b]|]".toList, ['x']) := by cbv
  rw [letters.1, letters.2]
  rintro (_ | _ | _ | ⟨closed, _, later⟩ | _)
  cases closes.symm.trans closed
  cases later

theorem early_selected : (do @Workspace.search engine workspace (← workspace.locate "/") [early]) = .ok [["Abc"]] ∧
    Glob.segmentTexts early = [early] ∧ ∀ holds, ¬ Glob.Wildcard holds early.toList "Abc".toList := by
  have read : @Glob.Pattern.ofText? engine early = .ok [.expression fun name => [
      [.start, .choice (inRanges [('A', '['), (':', ':'), ('b', 'b')])],
      [.choice (· = ']'), .choice (· = 'x'), .finish]].any (occurs name)] := by cbv
  exact ⟨found read (by decide), by decide, early_unmatched⟩

end OneFile
end WireSchema

import Mathlib.Data.List.Forall2
import Mathlib.Data.List.Sort
import WireSchema.Proofs.Files.Walk

-- What a search finds: all that its walks find, each node once and in the order of the tree.
namespace WireSchema
open Glob Text

theorem mapM_ok {ε α β : Type} {f : α → Except ε β} {xs : List α} {ys : List β} :
    xs.mapM f = .ok ys ↔ List.Forall₂ (fun x y => f x = .ok y) xs ys := by
  induction xs generalizing ys with
  | nil => cases ys <;> simp [pure, Except.pure]
  | cons x rest ih =>
    rw [List.mapM_cons]
    cases first : f x with
    | error error => simp [bind, Except.bind, first, List.forall₂_cons_left_iff]
    | ok y =>
      cases later : rest.mapM f with
      | error error =>
        have none : ∀ others, ¬ List.Forall₂ (fun x y => f x = .ok y) rest others :=
          fun others each => by simp [ih.mpr each] at later
        simp [bind, Except.bind, first, List.forall₂_cons_left_iff, none]
      | ok others =>
        have same : ∀ more, List.Forall₂ (fun x y => f x = .ok y) rest more ↔ others = more :=
          fun more => by rw [← ih, later, Except.ok.injEq]
        simp [bind, Except.bind, pure, Except.pure, first, List.forall₂_cons_left_iff, same, eq_comm]

theorem mapM_total {ε α β : Type} {f : α → Except ε β} {xs : List α} (each : ∀ x ∈ xs, ∃ y, f x = .ok y) :
    ∃ ys, xs.mapM f = .ok ys := by
  induction xs with
  | nil => exact ⟨[], rfl⟩
  | cons x rest ih =>
    obtain ⟨⟨y, first⟩, others⟩ := List.forall_mem_cons.mp each
    obtain ⟨ys, later⟩ := ih others
    exact ⟨y :: ys, mapM_ok.mpr (.cons first (mapM_ok.mp later))⟩

theorem mapM_map {ε α β γ : Type} (f : α → Except ε β) (g : β → γ) (xs : List α) :
    (xs.mapM f).map (List.map g) = xs.mapM fun x => (f x).map g := by
  induction xs with
  | nil => rfl
  | cons x rest ih =>
    rw [List.mapM_cons, List.mapM_cons, ← ih]
    cases f x with
    | error error => rfl
    | ok y => cases rest.mapM f <;> rfl

theorem exists_related {α β : Type} {related : α → β → Prop} {p : α → Prop} {q : β → Prop} {xs : List α} {ys : List β}
    (each : List.Forall₂ related xs ys) (same : ∀ {x y}, related x y → (q y ↔ p x)) :
    (∃ y ∈ ys, q y) ↔ ∃ x ∈ xs, p x := by
  induction each with
  | nil => simp
  | cons first _ ih => simp only [List.exists_mem_cons_iff, ih, same first]

namespace Workspace
variable {w : Workspace} {root l : Location} {pattern : Pattern} {texts : List String} {found : List Location}

def kept? (w : Workspace) (root : Location) (tests : List (List String → Bool)) (entry : Location × Node) : Option Location :=
  if root.isPrefixOf entry.1 && root.length < entry.1.length && w.isCandidate entry.1 entry.2 &&
    tests.any (· (entry.1.drop root.length)) then some entry.1 else none

theorem kept?_eq_some {tests : List (List String → Bool)} {entry : Location × Node} : w.kept? root tests entry = some l ↔
    entry.1 = l ∧ ∃ names, l = root ++ names ∧ names ≠ [] ∧ w.isCandidate entry.1 entry.2 = true ∧
      ∃ test ∈ tests, test names = true := by
  unfold kept?
  simp only [Option.ite_none_right_eq_some, Bool.and_eq_true, List.isPrefixOf_iff_prefix, decide_eq_true_eq,
    List.any_eq_true, Option.some.injEq]
  constructor
  · rintro ⟨⟨⟨⟨⟨names, located⟩, longer⟩, candidate⟩, test, member, passed⟩, rfl⟩
    rw [← located, List.drop_left] at passed
    refine ⟨rfl, names, located.symm, ?_, candidate, test, member, passed⟩
    rintro rfl
    simp [← located] at longer
  · rintro ⟨rfl, names, located, some_, candidate, test, member, passed⟩
    refine ⟨⟨⟨⟨⟨names, located.symm⟩, ?_⟩, candidate⟩, test, member, ?_⟩, rfl⟩
    · simpa [located] using List.length_pos_iff.mpr some_
    · rwa [located, List.drop_left]

theorem locate_node {path : String} (located : w.locate path = .ok l) : (w.tree.node? l).isSome := by
  unfold locate at located
  cases followed : w.tree.locate w.here path with
  | error error => simp [followed, Except.mapError] at located
  | ok other =>
    obtain rfl : other = l := by simpa [followed, Except.mapError] using located
    exact FileTree.locate_node followed

theorem locate_top (w : Workspace) : w.locate "/" = .ok [] := by
  have alone : FileTree.steps "/" = ["."] ∧ Path.isAbsolute "/" = true := by decide
  simp [locate, FileTree.locate, FileTree.startOf, alone, FileTree.follow, FileTree.isDirectory, FileTree.node?,
    Except.mapError]

section Search
variable [Regex]

def patternAt (w : Workspace) (root : Location) (text : String) : Except Failure Pattern :=
  match Pattern.ofText? text with
  | .error error => .error (.pattern error)
  | .ok pattern =>
    if pattern.lists && !w.tree.isDirectory root then .error (.access root.path .notDirectory) else .ok pattern

-- A search takes its patterns in turn. It fails with the first one that does, or has what all of them find.
theorem patterns_walk (rooted : (w.tree.node? root).isSome) (found : Dictionary Location Unit) :
    match texts.mapM (w.patternAt root) with
    | .error failure => texts.foldlM (w.expand root) found = .error failure
    | .ok patterns => ∃ more, texts.foldlM (w.expand root) found = .ok more ∧
        ∀ l, l ∈ more.keys ↔ l ∈ found.keys ∨ ∃ pattern ∈ patterns, w.Finds pattern root l := by
  induction texts generalizing found with
  | nil => exact ⟨found, rfl, by simp⟩
  | cons text rest ih =>
    rw [List.mapM_cons, List.foldlM_cons, patternAt, expand]
    cases read : Pattern.ofText? text with
    | error error => rfl
    | ok pattern =>
      have closed := Pattern.ofText?_closed read
      by_cases refused : (pattern.lists && !w.tree.isDirectory root) = true
      · obtain ⟨lists, other⟩ := Bool.and_eq_true_iff.mp refused
        rw [Bool.not_eq_true'] at other
        simp only [refused, if_true, Except.mapError, bind, Except.bind, walk_refused closed lists rooted other]
      · have listable : pattern.lists = true → w.tree.isDirectory root = true := by simpa using refused
        obtain ⟨next, walked, ofFirst⟩ := walk_collects closed listable found
        simp only [if_neg refused, Except.mapError, bind, Except.bind, walked]
        have later := ih next
        cases others : rest.mapM (w.patternAt root) with
        | error failure =>
          rw [others] at later
          exact later
        | ok patterns =>
          rw [others] at later
          obtain ⟨more, further, ofRest⟩ := later
          refine ⟨more, further, fun l => ?_⟩
          rw [ofRest, ofFirst, or_assoc]
          simp

theorem search_read (rooted : (w.tree.node? root).isSome) {patterns : List Pattern}
    (read : texts.mapM (w.patternAt root) = .ok patterns) : ∃ found, w.search root texts = .ok found ∧
      found.Pairwise (· < ·) ∧ ∀ l, l ∈ found ↔ ∃ pattern ∈ patterns, w.Finds pattern root l := by
  have walked := @patterns_walk w root texts _ rooted ∅
  rw [read] at walked
  obtain ⟨more, ended, finds⟩ := walked
  refine ⟨more.keys, by rw [search, ended]; rfl, List.pairwise_map.mpr more.ordered, fun l => (finds l).trans ?_⟩
  exact or_iff_right (List.not_mem_nil (a := l))

theorem search_fails (rooted : (w.tree.node? root).isSome) {failure : Failure}
    (failed : texts.mapM (w.patternAt root) = .error failure) : w.search root texts = .error failure := by
  have walked := @patterns_walk w root texts _ rooted ∅
  rw [failed] at walked
  rw [search, walked]
  rfl

theorem search_finds (rooted : (w.tree.node? root).isSome) (searched : w.search root texts = .ok found) :
    ∃ patterns, List.Forall₂ (fun text pattern => w.patternAt root text = .ok pattern) texts patterns ∧
      found.Pairwise (· < ·) ∧ ∀ l, l ∈ found ↔ ∃ pattern ∈ patterns, w.Finds pattern root l := by
  cases read : texts.mapM (w.patternAt root) with
  | error failure =>
    rw [search_fails rooted read] at searched
    cases searched
  | ok patterns =>
    obtain ⟨other, also, ordered, finds⟩ := search_read rooted read
    cases also.symm.trans searched
    exact ⟨patterns, mapM_ok.mp read, ordered, finds⟩

theorem patternAt_ok {text : String} : w.patternAt root text = .ok pattern ↔
    Pattern.ofText? text = .ok pattern ∧ (pattern.lists = true → w.tree.isDirectory root = true) := by
  unfold patternAt
  cases Pattern.ofText? text with
  | error error => simp
  | ok other =>
    dsimp only
    split
    · rename_i refused
      simp only [reduceCtorEq, false_iff, Except.ok.injEq]
      rintro ⟨rfl, listable⟩
      simp [listable (Bool.and_eq_true_iff.mp refused).1] at refused
    · rename_i listable
      simp only [Except.ok.injEq]
      refine ⟨?_, And.left⟩
      rintro rfl
      exact ⟨rfl, by simpa using listable⟩

-- A search asks no more of its patterns than which names they admit: it comes to the same as going once through all
-- nodes of the tree.
theorem search_eq (rooted : (w.tree.node? root).isSome) (texts : List String) : w.search root texts =
    (texts.mapM fun text => (w.patternAt root text).map Pattern.admits).map fun tests =>
      w.tree.nodes.entries.filterMap (w.kept? root tests) := by
  rw [← mapM_map]
  cases read : texts.mapM (w.patternAt root) with
  | error failure => exact search_fails rooted read
  | ok patterns =>
    obtain ⟨found, searched, ordered, finds⟩ := search_read rooted read
    rw [searched]
    refine congrArg Except.ok (ordered.eq_of_mem_iff ?_ fun l => (finds l).trans ?_)
    · refine List.pairwise_filterMap.mpr (w.tree.nodes.ordered.imp fun {a b} before l ofFirst m ofSecond => ?_)
      obtain rfl := (kept?_eq_some.mp ofFirst).1
      obtain rfl := (kept?_eq_some.mp ofSecond).1
      exact before
    · rw [List.mem_filterMap]
      constructor
      · rintro ⟨pattern, member, names, node, located, some_, isNode, candidate, admitted⟩
        have below : l ≠ [] := by simp [located, some_]
        exact ⟨(l, node), FileTree.mem_nodes.mpr ⟨below, isNode⟩,
          kept?_eq_some.mpr ⟨rfl, names, located, some_, candidate, _, List.mem_map_of_mem member, admitted⟩⟩
      · rintro ⟨⟨_, node⟩, listed, kept⟩
        obtain ⟨rfl, names, located, some_, candidate, _, member, admitted⟩ := kept?_eq_some.mp kept
        obtain ⟨pattern, among, rfl⟩ := List.mem_map.mp member
        exact ⟨pattern, among, names, node, located, some_, (FileTree.mem_nodes.mp listed).2, candidate, admitted⟩

theorem search_located {path : String} (located : w.locate path = .ok root) :
    (do w.search (← w.locate path) texts) = w.search root texts := by
  rw [located]
  rfl

end Search
end Workspace
end WireSchema

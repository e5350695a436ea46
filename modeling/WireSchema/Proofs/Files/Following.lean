import Mathlib.Logic.Relation
import WireSchema.Proofs.Files.Search

-- Following paths in a tree without links. A way down leads to what lies there, a path is followed part by part, and a
-- directory with two points behind it leads back to where it was.
namespace WireSchema.FileTree
variable {tree : FileTree} {root here l : Location} {links : Nat}

-- A tree without links. The names in it are those of files, and two points are none of them.
structure Plain (tree : FileTree) : Prop where
  named : tree.Named
  noUp : ∀ entry ∈ tree.nodes.entries, ".." ∉ entry.1
  unlinked : ∀ entry ∈ tree.nodes.entries, ∀ target, entry.2 ≠ .link target

theorem Plain.not_link (plain : tree.Plain) (target : String) : tree.node? l ≠ some (.link target) := by
  intro found
  by_cases top : l = []
  · simp [top, node?_top] at found
  · exact plain.unlinked _ (mem_nodes.mpr ⟨top, found⟩) target rfl

theorem Plain.name_not_up (plain : tree.Plain) (found : (tree.node? l).isSome) : ".." ∉ l := by
  by_cases top : l = []
  · simp [top]
  · obtain ⟨node, found⟩ := Option.isSome_iff_exists.mp found
    exact plain.noUp _ (mem_nodes.mpr ⟨top, found⟩)

theorem isDirectory_iff : tree.isDirectory l = true ↔ tree.node? l = some .directory := decide_eq_true_iff

theorem Plain.follow_down (plain : tree.Plain) {name : String} (below : (tree.node? (here ++ [name])).isSome)
    (rest : List String) : tree.follow links here (name :: rest) = tree.follow links (here ++ [name]) rest := by
  have inDirectory : tree.isDirectory here = true := isDirectory_iff.mpr (node?_above (by simp) below)
  have noPoint : name ≠ "." := (plain.named.node below name (by simp)).noPoint
  have noUp : name ≠ ".." := fun same => plain.name_not_up below (by simp [same])
  rw [follow, if_pos inDirectory, if_neg noPoint, if_neg noUp]
  cases found : tree.node? (here ++ [name]) with
  | none => simp [found] at below
  | some node =>
    cases node with
    | link target => exact absurd found (plain.not_link target)
    | file content => rfl
    | directory => rfl

theorem follow_up (inDirectory : tree.isDirectory here = true) (rest : List String) :
    tree.follow links here (".." :: rest) = tree.follow links here.dropLast rest := by
  rw [follow, if_pos inDirectory, if_neg (by decide), if_pos rfl]

theorem step_some {name : String} {rest : List String} (downward : name ≠ "." ∧ name ≠ "..")
    (followed : tree.follow links here (name :: rest) = .ok l) :
    (tree.node? (here ++ [name])).isSome := by
  rw [follow] at followed
  split at followed
  · rw [if_neg downward.1, if_neg downward.2] at followed
    cases found : tree.node? (here ++ [name]) with
    | none => simp [found] at followed
    | some node => rfl
  · cases followed

theorem Plain.follow_names (plain : tree.Plain) {names : List String} (downward : "." ∉ names ∧ ".." ∉ names)
    (start : (tree.node? here).isSome) :
    tree.follow links here names = .ok l ↔ l = here ++ names ∧ (tree.node? l).isSome := by
  induction names generalizing here with
  | nil =>
    rw [follow, Except.ok.injEq, List.append_nil]
    exact ⟨fun same => ⟨same.symm, same ▸ start⟩, fun same => same.1.symm⟩
  | cons name rest ih =>
    simp only [List.mem_cons, not_or, ← ne_eq] at downward
    obtain ⟨⟨noPoint, others⟩, noUp, later⟩ := downward
    have onward : ∀ below : (tree.node? (here ++ [name])).isSome,
        tree.follow links here (name :: rest) = .ok l ↔ l = here ++ name :: rest ∧ (tree.node? l).isSome := by
      intro below
      rw [plain.follow_down below, ih ⟨others, later⟩ below, List.append_assoc, List.singleton_append]
    constructor
    · intro followed
      exact (onward (step_some ⟨noPoint.symm, noUp.symm⟩ followed)).mp followed
    · rintro ⟨rfl, found⟩
      have below : (tree.node? (here ++ [name])).isSome := by
        rw [← List.singleton_append, ← List.append_assoc] at found
        by_cases last : rest = []
        · simpa [last] using found
        · simp [node?_above last found]
      exact (onward below).mpr ⟨rfl, found⟩

theorem Plain.follow_append (plain : tree.Plain) (front back : List String) :
    tree.follow links here (front ++ back) =
      (tree.follow links here front).bind fun l => tree.follow links l back := by
  fun_induction follow tree links here front with
  | case1 links here => rfl
  | case2 links here rest inDirectory ih => rw [List.cons_append, follow, if_pos inDirectory, if_pos rfl, ih]
  | case3 links here rest inDirectory ahead ih => rw [List.cons_append, follow_up inDirectory, ih]
  | case4 links here step rest inDirectory noPoint noUp missing =>
    simp only [List.cons_append, follow, inDirectory, noPoint, noUp, missing, if_true, if_false]
    rfl
  | case5 here step rest inDirectory noPoint noUp target found => exact absurd found (plain.not_link target)
  | case6 here step rest inDirectory noPoint noUp target found => exact absurd found (plain.not_link target)
  | case7 here step rest inDirectory noPoint noUp target found => exact absurd found (plain.not_link target)
  | case8 links here step rest inDirectory noPoint noUp node other found ih =>
    rw [List.cons_append, plain.follow_down (by simp [found]), ih]
  | case9 links here step rest outside =>
    rw [List.cons_append, follow, if_neg outside]
    rfl

-- The name of a directory below the root is taken out of a path, with the two points behind it.
inductive Shortens (tree : FileTree) (root : Location) : List String → List String → Prop where
  | pair {front back : List String} {name : String} {l : Location} :
      tree.follow linkLimit root front = .ok l → root <+: l → tree.isDirectory (l ++ [name]) = true →
      Shortens tree root (front ++ name :: ".." :: back) (front ++ back)

-- Two paths become the same when points, repeated slashes and such pairs are taken out.
def Alike (tree : FileTree) (root : Location) (a b : String) : Prop :=
  ∃ names, Relation.ReflTransGen (tree.Shortens root) (Path.names a) names ∧
    Relation.ReflTransGen (tree.Shortens root) (Path.names b) names

theorem Shortens.follow (plain : tree.Plain) {names shorter : List String} (shortens : tree.Shortens root names shorter) :
    tree.follow linkLimit root names = tree.follow linkLimit root shorter := by
  obtain ⟨leads, below, inDirectory⟩ := shortens
  rename_i front back name l
  have found : (tree.node? (l ++ [name])).isSome := by simp [isDirectory_iff.mp inDirectory]
  rw [plain.follow_append, plain.follow_append, leads]
  change tree.follow linkLimit l (name :: ".." :: back) = tree.follow linkLimit l back
  rw [plain.follow_down found, follow_up inDirectory, List.dropLast_concat]

theorem Alike.follow (plain : tree.Plain) {a b : String} (alike : tree.Alike root a b) :
    tree.follow linkLimit root (Path.names a) = tree.follow linkLimit root (Path.names b) := by
  have run : ∀ {names shorter}, Relation.ReflTransGen (tree.Shortens root) names shorter →
      tree.follow linkLimit root names = tree.follow linkLimit root shorter := by
    intro names shorter shortens
    induction shortens with
    | refl => rfl
    | tail _ last ih => exact ih.trans (last.follow plain)
  obtain ⟨names, ofFirst, ofSecond⟩ := alike
  rw [run ofFirst, run ofSecond]

end WireSchema.FileTree

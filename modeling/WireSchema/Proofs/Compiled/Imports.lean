import WireSchema.Proofs.Compiled.Missing
import WireSchema.Proofs.Files.Following

-- Import paths and the files they name. The files of a schema lie below its root, and a path finds the one that it leads
-- to from there, as long as it only leads down.
namespace WireSchema
open FileTree

inductive Workspace.Gives [Regex] (w : Workspace) : Schema → Prop where
  | understood {root : String} {patterns : List String} {schema : Schema} {problems : Problems} :
      w.understandFiles root patterns = .ok (schema, problems) → Gives w schema
  | compiled {options : Options} {schema : Schema} : w.compile options = .ok schema → Gives w schema

-- A schema of files that lie in a tree, each named by its path.
structure Schema.Lies (schema : Schema) (tree : FileTree) (root : Location) (found : List Location) : Prop where
  rootPath : schema.root = root.path
  names : schema.files.map (·.name) = found.map Location.path
  distinct : found.Nodup
  inTree : ∀ l ∈ found, (tree.node? l).isSome
  rootInTree : (tree.node? root).isSome

section Lying
variable {w : Workspace} {schema : Schema}

theorem SourceFile.understand_name (name : String) (source : List UInt8) :
    (SourceFile.understand name source).1.name = name := by
  obtain ⟨symbols, same⟩ := resolve_file (bound name source).file (bound name source).placeholders
  rw [understand]
  dsimp only
  rw [same]
  rfl

theorem Workspace.Alone.names {found : List Location} {alone : List (SourceFile × Problems)}
    (each : w.Alone found alone) : (alone.map (·.1)).map (·.name) = found.map Location.path := by
  induction each with
  | nil => rfl
  | cons first _ ih =>
    obtain ⟨source, _, rfl⟩ := first
    rw [List.map_cons, List.map_cons, List.map_cons, ih, SourceFile.understand_name]

theorem Workspace.understandFiles_lies [Regex] {root : String} {patterns : List String} {problems : Problems}
    (read : w.understandFiles root patterns = .ok (schema, problems)) :
    ∃ directory found, schema.Lies w.tree directory found := by
  obtain ⟨directory, found, alone, located, searched, each, rfl, _⟩ := understandFiles_parts read
  obtain ⟨_, _, ordered, finds⟩ := search_finds (locate_node located) searched
  refine ⟨directory, found, rfl, each.names, ordered.imp fun before => ne_of_lt before, fun l member => ?_,
    locate_node located⟩
  obtain ⟨_, _, _, node, _, _, isNode, _⟩ := (finds l).mp member
  simp [isNode]

theorem Schema.Lies.withoutDeprecated {tree : FileTree} {directory : Location} {found : List Location}
    (lies : schema.Lies tree directory found) :
    Lies { schema with files := schema.files.map (·.withoutDeprecated) } tree directory found := by
  refine ⟨lies.rootPath, ?_, lies.distinct, lies.inTree, lies.rootInTree⟩
  rw [← lies.names, List.map_map]
  rfl

theorem Workspace.Gives.lies [Regex] (gives : w.Gives schema) : ∃ directory found, schema.Lies w.tree directory found := by
  cases gives with
  | understood read => exact understandFiles_lies read
  | compiled compiled =>
    obtain ⟨whole, read, rfl⟩ := compile_understood compiled
    obtain ⟨directory, found, lies⟩ := understandFiles_lies read
    refine ⟨directory, found, ?_⟩
    split
    · exact lies
    · exact lies.withoutDeprecated

end Lying

theorem Location.path_injective {l other : Location} (ofFirst : ∀ name ∈ l, IsFileName name)
    (ofSecond : ∀ name ∈ other, IsFileName name) (same : l.path = other.path) : l = other := by
  rw [← path_names ofFirst, same, path_names ofSecond]

namespace Schema
variable {schema : Schema} {tree : FileTree} {root : Location} {found : List Location} {clause : Import}
variable {file : SourceFile}

theorem Lies.file_location (lies : schema.Lies tree root found) (member : file ∈ schema.files) :
    ∃ l ∈ found, file.name = l.path := by
  have named : file.name ∈ schema.files.map (·.name) := List.mem_map_of_mem member
  rw [lies.names] at named
  obtain ⟨l, inFound, same⟩ := List.mem_map.mp named
  exact ⟨l, inFound, same.symm⟩

theorem Lies.names_distinct (lies : schema.Lies tree root found) (named : tree.Named) :
    (schema.files.map (·.name)).Nodup := by
  rw [lies.names]
  exact lies.distinct.map_on fun l first other second =>
    Location.path_injective (named.node (lies.inTree l first)) (named.node (lies.inTree other second))

theorem Lies.same_iff (lies : schema.Lies tree root found) (named : tree.Named)
    (relative : Path.isAbsolute clause.path = false) (member : file ∈ schema.files) :
    Path.same file.name (Path.join schema.root clause.path) = true ↔
      ∃ l ∈ found, file.name = l.path ∧ l = root ++ Path.names clause.path := by
  have leads : ∀ l ∈ found, Path.same l.path (Path.join schema.root clause.path) = true ↔
      l = root ++ Path.names clause.path := by
    intro l inFound
    rw [lies.rootPath, Location.path_same (named.node (lies.inTree l inFound)) (named.node lies.rootInTree),
      Path.target, relative]
    rfl
  constructor
  · intro same
    obtain ⟨l, inFound, name⟩ := lies.file_location member
    exact ⟨l, inFound, name, (leads l inFound).mp (name ▸ same)⟩
  · rintro ⟨l, inFound, name, located⟩
    exact name ▸ (leads l inFound).mpr located

theorem Lies.importedFile?_location (lies : schema.Lies tree root found) (named : tree.Named)
    (relative : Path.isAbsolute clause.path = false) : schema.importedFile? clause = some file ↔
      file ∈ schema.files ∧ ∃ l ∈ found, file.name = l.path ∧ l = root ++ Path.names clause.path := by
  have located : ∀ {file}, schema.importedFile? clause = some file →
      file ∈ schema.files ∧ ∃ l ∈ found, file.name = l.path ∧ l = root ++ Path.names clause.path := by
    intro file first
    rw [importedFile?] at first
    have member := List.mem_of_find?_eq_some first
    have same := List.find?_some first
    exact ⟨member, (lies.same_iff named relative member).mp same⟩
  constructor
  · exact located
  · rintro ⟨member, l, inFound, name, below⟩
    have some_ : (schema.importedFile? clause).isSome := by
      rw [importedFile?, List.find?_isSome]
      exact ⟨file, member, (lies.same_iff named relative member).mpr ⟨l, inFound, name, below⟩⟩
    obtain ⟨other, first⟩ := Option.isSome_iff_exists.mp some_
    obtain ⟨memberToo, l', _, nameToo, belowToo⟩ := located first
    have names : other.name = file.name := by rw [name, nameToo, below, belowToo]
    rw [first, List.inj_on_of_nodup_map (lies.names_distinct named) memberToo member names]

theorem Lies.importedFile?_follow (lies : schema.Lies tree root found) (plain : tree.Plain)
    (relative : Path.isAbsolute clause.path = false) : schema.importedFile? clause = some file ↔
      ".." ∉ Path.names clause.path ∧ file ∈ schema.files ∧
        ∃ l, file.name = l.path ∧ tree.follow linkLimit root (Path.names clause.path) = .ok l := by
  have noPoint : "." ∉ Path.names clause.path := by simp [Path.names]
  rw [lies.importedFile?_location plain.named relative]
  constructor
  · rintro ⟨member, l, inFound, name, rfl⟩
    have there := lies.inTree _ inFound
    have noUp : ".." ∉ Path.names clause.path := fun up => plain.name_not_up there (List.mem_append_right _ up)
    exact ⟨noUp, member, _, name, (plain.follow_names ⟨noPoint, noUp⟩ lies.rootInTree).mpr ⟨rfl, there⟩⟩
  · rintro ⟨noUp, member, l, name, followed⟩
    obtain ⟨located, there⟩ := (plain.follow_names ⟨noPoint, noUp⟩ lies.rootInTree).mp followed
    obtain ⟨other, inFound, nameToo⟩ := lies.file_location member
    have same : l = other := Location.path_injective (plain.named.node there)
      (plain.named.node (lies.inTree other inFound)) (name.symm.trans nameToo)
    exact ⟨member, l, same ▸ inFound, name, located⟩

theorem Lies.alike (lies : schema.Lies tree root found) (plain : tree.Plain) {a b : Import}
    (ofFirst : Path.isAbsolute a.path = false) (ofSecond : Path.isAbsolute b.path = false)
    (alike : tree.Alike root a.path b.path) (ups : ".." ∈ Path.names a.path ↔ ".." ∈ Path.names b.path) :
    schema.importedFile? a = schema.importedFile? b := by
  refine Option.ext fun file => ?_
  rw [lies.importedFile?_follow plain ofFirst, lies.importedFile?_follow plain ofSecond, ups, alike.follow plain]

theorem missingType_respelled {a b : Import} (same : schema.importedFile? a = schema.importedFile? b) {name : String}
    (known : file.imports.get? name = some a) (position : Position) (r : Reference SymbolId) :
    schema.missingType { file with imports := file.imports.insert name b } position r =
      schema.missingType file position r := by
  have found : ∀ wanted, ((file.imports.insert name b).get? wanted).bind schema.importedFile? =
      (file.imports.get? wanted).bind schema.importedFile? := by
    intro wanted
    rw [Dictionary.get?_insert]
    by_cases own : name = wanted
    · rw [if_pos own, ← own, known, Option.bind_some, Option.bind_some, same]
    · rw [if_neg own]
  unfold missingType
  simp only [found]

theorem declaration?_respelled {a b : Import} (same : schema.importedFile? a = schema.importedFile? b) {name : String}
    (known : file.imports.get? name = some a) (r : Reference SymbolId) :
    schema.declaration? { file with imports := file.imports.insert name b } r = schema.declaration? file r := by
  unfold declaration? SourceFile.target?
  dsimp only
  cases file.symbols.target? r.symbol with
  | none => rfl
  | some target =>
    cases target with
    | declaration index => rfl
    | imported package =>
      dsimp only
      rw [Dictionary.get?_insert]
      by_cases own : name = package
      · rw [if_pos own, ← own, known]
        dsimp only [Option.map_some]
        rw [same]
      · rw [if_neg own]

end Schema

-- An import finds the file that its path leads to from the root, unless two points are in the path: then it finds none,
-- wherever it leads. So two paths that become the same find the same file, as long as both have two points in them or
-- neither has, and a reference through either is checked and resolved alike.
theorem Workspace.import_paths [Regex] (w : Workspace) (schema : Schema) (gives : w.Gives schema) (plain : w.tree.Plain) :
    ∃ root : Location, schema.root = root.path ∧ (w.tree.node? root).isSome ∧
      (∀ clause file, Path.isAbsolute clause.path = false → (schema.importedFile? clause = some file ↔
        ".." ∉ Path.names clause.path ∧ file ∈ schema.files ∧
          ∃ l, file.name = l.path ∧ w.tree.follow linkLimit root (Path.names clause.path) = .ok l)) ∧
      ∀ a b : Import, Path.isAbsolute a.path = false → Path.isAbsolute b.path = false →
        w.tree.Alike root a.path b.path → (".." ∈ Path.names a.path ↔ ".." ∈ Path.names b.path) →
          schema.importedFile? a = schema.importedFile? b ∧
            ∀ (file : SourceFile) name, file.imports.get? name = some a →
              let other := { file with imports := file.imports.insert name b }
              (∀ position r, schema.missingType other position r = schema.missingType file position r) ∧
                ∀ r, schema.declaration? other r = schema.declaration? file r := by
  obtain ⟨root, found, lies⟩ := gives.lies
  refine ⟨root, lies.rootPath, lies.rootInTree, fun clause file => lies.importedFile?_follow plain, ?_⟩
  intro a b ofFirst ofSecond alike ups
  have same := lies.alike plain ofFirst ofSecond alike ups
  exact ⟨same, fun file name known => ⟨Schema.missingType_respelled same known, Schema.declaration?_respelled same known⟩⟩

-- Two imports of one file, which lacks the type that is referred to through both. One path goes through a directory and
-- back.
namespace ThroughDirectory

def client : List UInt8 := Text.encode ("package a; import c \"b.mprot\"; import d \"d/../b.mprot\"; " ++
  "struct S \x7b F c.V \"1\"; G d.V \"2\" \x7d").toList

def workspace : Workspace :=
  ⟨⟨⟨[(["a.mprot"], .file client), (["b.mprot"], .file TwoFiles.shorter), (["d"], .directory)], by simp; decide⟩, by simp⟩,
    []⟩

def patterns : List String := ["a.mprot", "b.mprot"]

def direct : Import := ⟨⟨"/a.mprot", 1, 12⟩, "b.mprot", "c"⟩

def through : Import := ⟨⟨"/a.mprot", 1, 32⟩, "d/../b.mprot", "d"⟩

def clientFile : SourceFile where
  name := "/a.mprot"
  doc := []
  package := ⟨⟨"/a.mprot", 1, 1⟩, "a"⟩
  imports := .insert "c" direct (.insert "d" through ∅)
  declarations := [.struct ⟨⟨"/a.mprot", 1, 57⟩, [], "S", [
    ⟨⟨"/a.mprot", 1, 68⟩, "F", .defined ⟨some "c", "V", 0⟩, 1, ∅⟩,
    ⟨⟨"/a.mprot", 1, 79⟩, "G", .defined ⟨some "d", "V", 1⟩, 2, ∅⟩]⟩]
  symbols := ⟨[⟨"c.V", some (.imported "c")⟩, ⟨"d.V", some (.imported "d")⟩, ⟨"S", some (.declaration 0)⟩],
    [("S", 2), ("d.V", 1), ("c.V", 0)]⟩

def schema : Schema := ⟨"/", [clientFile, TwoFiles.shorterFile]⟩

def missing : Problems := [⟨⟨"/a.mprot", 1, 68⟩, .undefinedType "c.V"⟩]

theorem client_tokens : Token.allOf Token.defaultLimit "/a.mprot" client =
    (TwoFiles.words "/a.mprot" [(1, .keyword .package, "package"), (9, .identifier, "a"), (10, .semicolon, ";"),
      (12, .keyword .importing, "import"), (19, .identifier, "c"), (21, .string, "\"b.mprot\""), (30, .semicolon, ";"),
      (32, .keyword .importing, "import"), (39, .identifier, "d"), (41, .string, "\"d/../b.mprot\""),
      (55, .semicolon, ";"), (57, .keyword .struct, "struct"), (64, .identifier, "S"), (66, .openBrace, "\x7b"),
      (68, .identifier, "F"), (70, .identifier, "c"), (71, .period, "."), (72, .identifier, "V"), (74, .string, "\"1\""),
      (77, .semicolon, ";"), (79, .identifier, "G"), (81, .identifier, "d"), (82, .period, "."), (83, .identifier, "V"),
      (85, .string, "\"2\""), (89, .closeBrace, "\x7d"), (90, .semicolon, "\n")],
      ⟨.endOfFile, "", ⟨"/a.mprot", 1, 90⟩⟩) := by
  exact Token.allOf_first (n := 27) (Text.spelled_append rfl rfl) rfl (by decide) rfl

theorem client_understood : SourceFile.understand "/a.mprot" client = (clientFile, []) := by
  have bound : SourceFile.bound "/a.mprot" client = ⟨{ clientFile with symbols :=
      ⟨[⟨"c.V", none⟩, ⟨"d.V", none⟩, ⟨"S", some (.declaration 0)⟩], [("S", 2), ("d.V", 1), ("c.V", 0)]⟩ },
      [⟨0, ⟨"/a.mprot", 1, 70⟩⟩, ⟨1, ⟨"/a.mprot", 1, 81⟩⟩], []⟩ := by
    rw [SourceFile.bound, client_tokens]
    cbv
  rw [SourceFile.understand, bound]
  cbv

theorem holds : TwoFiles.Holds workspace client TwoFiles.shorter [(["d"], .directory)] := ⟨rfl, by simp⟩

theorem understood [Regex] : workspace.understandFiles "/" patterns = .ok (schema, missing) := by
  have reported : Schema.missingTypes ⟨"/", [clientFile, TwoFiles.shorterFile]⟩ = missing := by decide
  have sorted : Findings.sort missing = missing := by cbv
  rw [show patterns = TwoFiles.options.patterns from rfl,
    holds.understood client_understood TwoFiles.shorter_understood, reported, sorted]
  rfl

theorem plain : workspace.tree.Plain := by
  have entry : ∀ entry ∈ workspace.tree.nodes.entries,
      (entry.1 = ["a.mprot"] ∨ entry.1 = ["b.mprot"] ∨ entry.1 = ["d"]) ∧ ∀ target, entry.2 ≠ .link target := by
    simp [workspace]
  have proper : IsFileName "a.mprot" ∧ IsFileName "b.mprot" ∧ IsFileName "d" :=
    ⟨⟨by decide, by decide, by decide⟩, ⟨by decide, by decide, by decide⟩, ⟨by decide, by decide, by decide⟩⟩
  refine ⟨fun e member name inside => ?_, fun e member => ?_, fun e member => (entry e member).2⟩
  · rcases (entry e member).1 with l | l | l <;> rw [l, List.mem_singleton] at inside
    · exact inside ▸ proper.1
    · exact inside ▸ proper.2.1
    · exact inside ▸ proper.2.2
  · rcases (entry e member).1 with l | l | l <;> rw [l] <;> decide

theorem names : Path.names direct.path = ["b.mprot"] ∧ Path.names through.path = ["d", "..", "b.mprot"] := by decide

theorem alike : workspace.tree.Alike [] direct.path through.path := by
  have atRoot : workspace.tree.follow linkLimit [] [] = .ok [] := by rw [follow]
  have shortens : workspace.tree.Shortens [] ([] ++ "d" :: ".." :: ["b.mprot"]) ([] ++ ["b.mprot"]) :=
    .pair atRoot List.prefix_rfl (by decide)
  exact ⟨["b.mprot"], names.1 ▸ .refl, names.2 ▸ .single shortens⟩

-- The two paths become the same, and only the direct one finds the file.
theorem through_lost :
    @Workspace.understandFiles Elementary.engine workspace "/" patterns = .ok (schema, missing) ∧ workspace.tree.Plain ∧
    Path.isAbsolute direct.path = false ∧ Path.isAbsolute through.path = false ∧
    workspace.tree.Alike [] direct.path through.path ∧
    schema.importedFile? direct = some TwoFiles.shorterFile ∧ schema.importedFile? through = none :=
  ⟨@understood Elementary.engine, plain, by decide, by decide, alike, by decide, by decide⟩

def respelled : Import := { direct with path := ".//b.mprot" }

theorem respelled_found : @Workspace.Gives Elementary.engine workspace schema ∧ workspace.tree.Plain ∧
    schema.importedFile? respelled = some TwoFiles.shorterFile := by
  have gives := @Workspace.Gives.understood Elementary.engine _ _ _ _ _ (@understood Elementary.engine)
  refine ⟨gives, plain, ?_⟩
  obtain ⟨root, _, _, _, same⟩ := @Workspace.import_paths Elementary.engine workspace schema gives plain
  have names : Path.names respelled.path = Path.names direct.path := by decide
  have alike : workspace.tree.Alike root direct.path respelled.path := ⟨_, .refl, names ▸ .refl⟩
  rw [← (same direct respelled (by decide) (by decide) alike (by rw [names])).1]
  decide

end ThroughDirectory

end WireSchema

import Mathlib.Order.Basic
import WireSchema.Proofs.Compiled.References
import WireSchema.Proofs.Files.Paths
import WireSchema.Proofs.Reported.Lexical

-- Between files exactly the types are reported that an imported file does not declare, once for each place that
-- refers to one.
namespace WireSchema
open Grammar

-- The places of a declaration that refer to a declared type, each with the position of the member it is in.
def Declaration.uses {σ : Type} : Declaration σ → List (Position × Reference σ)
  | .const _ | .enumeration _ => []
  | .struct s => s.fields.flatMap fun f => f.type.references.map (f.position, ·)
  | .union u => u.branches.flatMap fun b => b.type.references.map (b.position, ·)
  | .service s => s.methods.flatMap fun m =>
    (m.arguments ++ m.result.toList).flatMap fun type => type.references.map (m.position, ·)

def SourceFile.uses (file : SourceFile) : List (Position × Reference SymbolId) := file.declarations.flatMap (·.uses)

-- A name of an import whose file is in the schema and declares no type of that name. An import path that leads
-- to several files leads to the first of them.
def Schema.Lacks (schema : Schema) (file : SourceFile) (r : Reference SymbolId) : Prop :=
  ∃ package clause before imported after, r.package = some package ∧
    file.imports.get? package = some clause ∧ schema.files = before ++ imported :: after ∧
    Path.same imported.name (Path.join schema.root clause.path) = true ∧
    (∀ other ∈ before, Path.same other.name (Path.join schema.root clause.path) = false) ∧
    ∀ d ∈ imported.declarations, d.name = r.name → d.kind = .const

theorem flatMap_ite {α β : Type} (p : α → Prop) [DecidablePred p] (f : α → β) (xs : List α) :
    (xs.flatMap fun x => if p x then [f x] else []) = (xs.filter fun x => p x).map f := by
  induction xs with
  | nil => rfl
  | cons x rest ih => by_cases holds : p x <;> simp [holds, ih]

namespace Declaration
variable {σ τ : Type}

def literalTyped : Declaration σ → Bool
  | .const c => c.type.references.isEmpty
  | _ => true

theorem literalTyped_withSymbols (symbol : Reference σ → τ) (d : Declaration σ) :
    (d.withSymbols symbol).literalTyped = d.literalTyped := by
  cases d with
  | const c => simp [withSymbols, literalTyped, ValueType.references_withSymbols]
  | _ => rfl

theorem uses_member {d : Declaration σ} (typed : d.literalTyped = true) :
    (d.memberTypes.flatMap fun (position, type) => type.references.map (position, ·)) = d.uses := by
  cases d with
  | const c => simpa [memberTypes, uses, literalTyped] using typed
  | enumeration e => rfl
  | struct s => simp [memberTypes, uses, List.flatMap_map]
  | union u => simp [memberTypes, uses, List.flatMap_map]
  | service s => simp [memberTypes, uses, Method.types, List.flatMap_assoc, List.flatMap_map]

end Declaration

namespace Grammar

theorem Reader.Always.bind {α β : Type} {held : α → Prop} {holds : β → Prop} {r : Reader α} {next : α → Reader β}
    (first : r.Always held) (later : ∀ a, held a → (next a).Always holds) : (r >>= next).Always holds :=
  fun t => later _ (first t) (r t).tape

theorem literal_typed : literal.Always (fun found => ∀ typed, found = some typed → typed.1.references = []) := by
  intro t typed found
  rw [literal_apply, literal?] at found
  cases kind : t.current.kind <;> simp [kind] at found <;> subst found <;> rfl

theorem constant_typed : constant.Always (fun c => ∀ k, c = some k → (Declaration.const k).literalTyped = true) := by
  refine bind_always fun first => bind_always fun _ => bind_always fun name => bind_always fun _ =>
    literal_typed.bind fun found typed => bind_always fun _ => pure_always fun k made => ?_
  obtain ⟨⟨type, value⟩, taken, kept⟩ := Option.bind_eq_some_iff.mp made
  dsimp only at kept
  split at kept
  · cases kept
  · cases kept
    simp [Declaration.literalTyped, typed _ taken]

theorem item_typed : item.Always (fun d => ∀ k, d = some k → k.literalTyped = true) := by
  refine bind_always fun word => ?_
  split
  · refine constant_typed.bind fun c typed => pure_always fun k made => ?_
    obtain ⟨constant, taken, rfl⟩ := Option.map_eq_some_iff.mp made
    exact typed constant taken
  · exact bind_always fun e => pure_always fun k made => by cases made; rfl
  · exact bind_always fun s => pure_always fun k made => by cases made; rfl
  · exact bind_always fun u => pure_always fun k made => by cases made; rfl
  · exact bind_always fun s => pure_always fun k made => by cases made; rfl
  · exact bind_always fun _ => pure_always fun k made => by cases made
  · exact bind_always fun _ => bind_always fun _ => pure_always fun k made => by cases made
  · exact bind_always fun _ => bind_always fun _ => pure_always fun k made => by cases made
  · exact bind_always fun _ => bind_always fun _ => pure_always fun k made => by cases made

end Grammar

theorem SourceFile.understand_typed (name : String) (source : List UInt8) :
    ∀ d ∈ (understand name source).1.declarations, d.literalTyped = true := by
  intro d member
  obtain ⟨t, item, _, read, typed⟩ := understand_item member Declaration.literalTyped_withSymbols
  rw [← typed]
  exact item_typed t item read

namespace Schema
variable {schema : Schema} {file : SourceFile}

def lacks? (schema : Schema) (file : SourceFile) (r : Reference SymbolId) : Bool :=
  ((r.package.bind (file.imports.get? ·)).bind schema.importedFile?).any
    fun imported => (imported.typeDeclaration? r.name).isNone

theorem lacks_iff (r : Reference SymbolId) : schema.lacks? file r = true ↔ schema.Lacks file r := by
  have undeclared : ∀ imported : SourceFile, (imported.typeDeclaration? r.name).isNone = true ↔
      ∀ d ∈ imported.declarations, d.name = r.name → d.kind = .const := by
    intro imported
    simp only [Option.isNone_iff_eq_none, SourceFile.typeDeclaration?, List.find?_eq_none, Declaration.isType,
      Bool.and_eq_true, decide_eq_true_eq, not_and]
    exact ⟨fun none d member named => by_contra fun other => none d member other named,
      fun only d member other named => other (only d member named)⟩
  rw [lacks?, Option.any_eq_true]
  constructor
  · rintro ⟨imported, found, none⟩
    obtain ⟨clause, known, first⟩ := Option.bind_eq_some_iff.mp found
    obtain ⟨package, qualified, ofImports⟩ := Option.bind_eq_some_iff.mp known
    obtain ⟨leads, before, after, files, others⟩ := List.find?_eq_some_iff_append.mp first
    exact ⟨package, clause, before, imported, after, qualified, ofImports, files, leads,
      fun other member => by simpa using others other member, (undeclared imported).mp none⟩
  · rintro ⟨package, clause, before, imported, after, qualified, ofImports, files, leads, others, only⟩
    refine ⟨imported, Option.bind_eq_some_iff.mpr ⟨clause, Option.bind_eq_some_iff.mpr ⟨package, qualified, ofImports⟩, ?_⟩,
      (undeclared imported).mpr only⟩
    exact List.find?_eq_some_iff_append.mpr ⟨leads, before, after, files, fun other member => by simp [others other member]⟩

instance (r : Reference SymbolId) : Decidable (schema.Lacks file r) := decidable_of_iff _ (lacks_iff r)

theorem missingType_lacks (resolved : file.Resolved) {d : Declaration SymbolId} (among : d ∈ file.declarations)
    {r : Reference SymbolId} (inside : r ∈ d.references) (position : Position) :
    schema.missingType file position r =
      if schema.Lacks file r then [⟨position, .undefinedType r.text⟩] else [] := by
  obtain ⟨target, found⟩ := resolved.reference_symbol among inside
  have atSymbol : file.symbols.target? r.symbol = target := by rw [SymbolTable.target?, found, Option.bind_some]
  rw [missingType, atSymbol]
  rcases Reference.ofName_parts (resolved.references d among r inside).1 with
    ⟨unqualified, pointless⟩ | ⟨package, qualified, pointless⟩
  · have lacksNothing : ¬ schema.Lacks file r := by simp [← lacks_iff, lacks?, unqualified]
    have text : r.text = r.name := by simp [Reference.text, unqualified]
    have own : target = Declaration.ownTarget? r.text file.declarations := resolved.own_target found (text ▸ pointless)
    rw [if_neg lacksNothing, own, Declaration.ownTarget?]
    cases file.declarations.findIdx? (Declaration.declares r.text) <;> rfl
  · have text : r.text = package ++ "." ++ r.name := by simp [Reference.text, qualified]
    have imported := resolved.imported_target (text ▸ found) pointless
    rw [imported]
    cases known : file.imports.get? package with
    | none =>
      have lacksNothing : ¬ schema.Lacks file r := by simp [← lacks_iff, lacks?, qualified, known]
      simp [Dictionary.contains, known, lacksNothing]
    | some clause =>
      have lacks : schema.Lacks file r ↔ (schema.importedFile? clause).any
          (fun imported => (imported.typeDeclaration? r.name).isNone) = true := by
        simp [← lacks_iff, lacks?, qualified, known]
      simp only [Dictionary.contains, known, Option.isSome_some, if_true, Option.bind_some]
      cases first : schema.importedFile? clause with
      | none => simp [lacks, first]
      | some other => simp [lacks, first]

theorem missingTypes_lacks (resolved : ∀ file ∈ schema.files, file.Resolved)
    (typed : ∀ file ∈ schema.files, ∀ d ∈ file.declarations, d.literalTyped = true) :
    schema.missingTypes = schema.files.flatMap fun file =>
      (file.uses.filter fun use => schema.Lacks file use.2).map fun use => ⟨use.1, .undefinedType use.2.text⟩ := by
  refine List.flatMap_congr fun file member => ?_
  rw [SourceFile.uses, List.filter_flatMap, List.map_flatMap]
  refine List.flatMap_congr fun d among => ?_
  rw [← Declaration.uses_member (typed file member d among), List.filter_flatMap, List.map_flatMap]
  refine List.flatMap_congr fun (position, type) ofMember => ?_
  rw [List.filter_map, List.map_map]
  have inside : ∀ r ∈ type.references, r ∈ d.references := fun r ofType =>
    List.mem_flatMap.mpr ⟨type, List.mem_map.mpr ⟨_, ofMember, rfl⟩, ofType⟩
  change type.references.flatMap (schema.missingType file position) = _
  rw [List.flatMap_congr fun r ofType => missingType_lacks (resolved file member) among (inside r ofType) position,
    flatMap_ite]
  rfl

end Schema

-- The first of the two files with another second one, which declares one type of the three that the first refers to.
namespace TwoFiles

def shorter : List UInt8 := Text.encode "package b; enum E \x7b \x7d".toList

def lacking : Workspace :=
  ⟨⟨⟨[(["a.mprot"], .file client), (["b.mprot"], .file shorter)], by simp; decide⟩, by simp⟩, []⟩

def shorterFile : SourceFile where
  name := "/b.mprot"
  doc := []
  package := ⟨⟨"/b.mprot", 1, 1⟩, "b"⟩
  imports := ∅
  declarations := [.enumeration ⟨⟨"/b.mprot", 1, 12⟩, [], "E", []⟩]
  symbols := ⟨[⟨"E", some (.declaration 0)⟩], [("E", 0)]⟩

def lackingSchema : Schema := ⟨"/", [clientFile, shorterFile]⟩

def missing : Problems := [⟨⟨"/a.mprot", 1, 41⟩, .undefinedType "b.V"⟩, ⟨⟨"/a.mprot", 1, 64⟩, .undefinedType "b.W"⟩,
  ⟨⟨"/a.mprot", 1, 105⟩, .undefinedType "b.V"⟩]

theorem shorter_tokens : Token.allOf Token.defaultLimit "/b.mprot" shorter =
    (words "/b.mprot" [(1, .keyword .package, "package"), (9, .identifier, "b"), (10, .semicolon, ";"),
      (12, .keyword .enumeration, "enum"), (17, .identifier, "E"), (19, .openBrace, "\x7b"),
      (21, .closeBrace, "\x7d"), (22, .semicolon, "\n")], ⟨.endOfFile, "", ⟨"/b.mprot", 1, 22⟩⟩) := by
  exact Token.allOf_first (n := 8) rfl rfl (by decide) rfl

theorem shorter_understood : SourceFile.understand "/b.mprot" shorter = (shorterFile, []) := by
  have bound : SourceFile.bound "/b.mprot" shorter = ⟨shorterFile, [], []⟩ := by
    rw [SourceFile.bound, shorter_tokens]
    cbv
  rw [SourceFile.understand, bound]
  cbv

theorem lacking_holds : Holds lacking client shorter [] := ⟨rfl, by simp⟩

theorem lacking_understood [Regex] : lacking.understandFiles "/" options.patterns = .ok (lackingSchema, missing) := by
  have reported : Schema.missingTypes ⟨"/", [clientFile, shorterFile]⟩ = missing := by decide
  have sorted : Findings.sort missing = missing := by cbv
  rw [lacking_holds.understood client_understood shorter_understood, reported, sorted]
  rfl

end TwoFiles

namespace Workspace
variable {w : Workspace}

-- The problems of a set of files are those of each file alone and the types that are missing between them. All paths
-- and names are texts here, as those of a location are.
theorem understandFiles_missing [Regex] (root : String) (patterns : List String) (schema : Schema) (problems : Problems)
    (read : w.understandFiles root patterns = .ok (schema, problems)) :
    ∃ directory found alone, w.locate root = .ok directory ∧ w.search directory patterns = .ok found ∧
      w.Alone found alone ∧ schema.root = directory.path ∧ schema.files = alone.map (·.1) ∧
      problems.Perm (alone.flatMap (·.2) ++ schema.files.flatMap fun file =>
        (file.uses.filter fun use => schema.Lacks file use.2).map fun use => ⟨use.1, .undefinedType use.2.text⟩) ∧
      (problems.Pairwise fun a b => a.position.AtMost b.position) ∧
      (w.tree.Named → found.Nodup ∧ ∀ l ∈ found, ∀ path,
        Path.same l.path (Path.join schema.root path) = true ↔ l = Path.target directory path) := by
  obtain ⟨directory, found, alone, located, searched, each, rfl, rfl⟩ := understandFiles_parts read
  obtain ⟨_, _, ordered, finds⟩ := search_finds (locate_node located) searched
  have ofFile : ∀ file ∈ alone.map (·.1), ∃ path source, file = (SourceFile.understand path source).1 := by
    intro file member
    obtain ⟨both, inside, rfl⟩ := List.mem_map.mp member
    obtain ⟨path, source, rfl⟩ := each.understood both inside
    exact ⟨path, source, rfl⟩
  refine ⟨directory, found, alone, located, searched, each, rfl, rfl, ?_, Findings.sort_ordered _, fun named => ⟨?_, ?_⟩⟩
  · refine (Findings.sort_perm _).trans (.of_eq (congrArg _ (Schema.missingTypes_lacks ?_ ?_)))
    · intro file member
      obtain ⟨path, source, rfl⟩ := ofFile file member
      exact SourceFile.understand_resolved path source
    · intro file member
      obtain ⟨path, source, rfl⟩ := ofFile file member
      exact SourceFile.understand_typed path source
  · exact ordered.imp fun before => ne_of_lt before
  · intro l member path
    obtain ⟨_, _, names, node, _, _, isNode, _⟩ := (finds l).mp member
    exact Location.path_same (named.node (by simp [isNode])) (named.node (locate_node located)) path

end Workspace

theorem TwoFiles.missing_reported :
    @Workspace.understandFiles Elementary.engine lacking "/" options.patterns = .ok (lackingSchema, missing) ∧
    missing.Perm (lackingSchema.files.flatMap fun file =>
      (file.uses.filter fun use => lackingSchema.Lacks file use.2).map fun use => ⟨use.1, .undefinedType use.2.text⟩) := by
  refine ⟨@lacking_understood Elementary.engine, ?_⟩
  obtain ⟨directory, found, alone, located, searched, each, _, _, reported, _⟩ :=
    @Workspace.understandFiles_missing _ Elementary.engine "/" options.patterns lackingSchema missing
      (@lacking_understood Elementary.engine)
  obtain rfl : [] = directory := Except.ok.inj (lacking.locate_top.symm.trans located)
  obtain rfl := Except.ok.inj ((@Holds.searched _ _ _ _ Elementary.engine lacking_holds).symm.trans searched)
  -- both files are right when they are read alone
  have silent : alone.flatMap (·.2) = [] := by
    obtain ⟨_, _, ⟨_, content, rfl⟩, others, rfl⟩ := List.forall₂_cons_left_iff.mp each
    obtain ⟨_, _, ⟨_, later, rfl⟩, none, rfl⟩ := List.forall₂_cons_left_iff.mp others
    cases none
    have paths : Location.path ["a.mprot"] = "/a.mprot" ∧ Location.path ["b.mprot"] = "/b.mprot" := by decide
    rw [paths.1] at content
    rw [paths.2] at later
    obtain rfl := Except.ok.inj (lacking_holds.contents.1.symm.trans content)
    obtain rfl := Except.ok.inj (lacking_holds.contents.2.symm.trans later)
    simp [paths, client_understood, shorter_understood]
  rwa [silent, List.nil_append] at reported

end WireSchema

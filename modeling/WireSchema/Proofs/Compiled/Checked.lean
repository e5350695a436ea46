import WireSchema.Compilation
import WireSchema.Proofs.Files.Search
import WireSchema.Proofs.Names.Resolution
import WireSchema.Proofs.Reported.Order

-- What a schema went through when it was compiled: each of its files was understood without a problem, no
-- type is missing in an imported file, and only then deprecated members were left out.
namespace WireSchema

def SourceFile.Clean (file : SourceFile) : Prop :=
  ∃ path source, file = (SourceFile.understand path source).1 ∧ (SourceFile.understand path source).2 = []

structure Schema.Checked (schema : Schema) : Prop where
  clean : ∀ file ∈ schema.files, file.Clean
  complete : schema.missingTypes = []

namespace Workspace
variable {w : Workspace} {options : Options} {schema : Schema}

def Alone (w : Workspace) : List Location → List (SourceFile × Problems) → Prop :=
  List.Forall₂ fun l alone => ∃ source, w.read l.path = .ok source ∧ alone = SourceFile.understand l.path source

theorem understandFile_parts {path : String} {understood : SourceFile × Problems}
    (read : w.understandFile path = .ok understood) :
    ∃ source, w.read path = .ok source ∧ understood = SourceFile.understand path source := by
  unfold understandFile at read
  cases content : w.read path with
  | error failure => simp [content, bind, Except.bind] at read
  | ok source =>
    simp only [content, bind, Except.bind, pure, Except.pure, Except.ok.injEq] at read
    exact ⟨source, rfl, read.symm⟩

theorem understandAll_parts {locations : List Location} {understood : List (SourceFile × Problems)}
    (read : locations.mapM (fun l => w.understandFile l.path) = .ok understood) : w.Alone locations understood :=
  (mapM_ok.mp read).imp fun _ _ => understandFile_parts

theorem Alone.understood {found : List Location} {alone : List (SourceFile × Problems)} (each : w.Alone found alone) :
    ∀ file ∈ alone, ∃ path source, file = SourceFile.understand path source := by
  induction each with
  | nil => simp
  | cons first rest ih =>
    obtain ⟨source, _, here⟩ := first
    exact List.forall_mem_cons.mpr ⟨⟨_, source, here⟩, ih⟩

section Compile
variable [Regex]

theorem understandFiles_parts {root : String} {patterns : List String} {problems : Problems}
    (read : w.understandFiles root patterns = .ok (schema, problems)) :
    ∃ directory found alone, w.locate root = .ok directory ∧ w.search directory patterns = .ok found ∧
      w.Alone found alone ∧ schema = ⟨directory.path, alone.map (·.1)⟩ ∧
      problems = Findings.sort (alone.flatMap (·.2) ++ schema.missingTypes) := by
  unfold understandFiles at read
  cases located : w.locate root with
  | error failure => simp [located, bind, Except.bind] at read
  | ok location =>
    cases searched : w.search location patterns with
    | error failure => simp [located, searched, bind, Except.bind] at read
    | ok found =>
      cases all : found.mapM (fun l => w.understandFile l.path) with
      | error failure => simp [located, searched, all, bind, Except.bind] at read
      | ok understood =>
        simp only [located, searched, all, bind, Except.bind, pure, Except.pure, Except.ok.injEq,
          Prod.mk.injEq] at read
        obtain ⟨rfl, rfl⟩ := read
        exact ⟨location, found, understood, rfl, searched, understandAll_parts all, rfl, rfl⟩

theorem understandFiles_checked {root : String} {patterns : List String}
    (read : w.understandFiles root patterns = .ok (schema, [])) : schema.Checked := by
  obtain ⟨_, _, understood, _, _, sources, rfl, none⟩ := understandFiles_parts read
  obtain ⟨inFiles, between⟩ := List.append_eq_nil_iff.mp (Findings.sort_eq_nil.mp none.symm)
  refine ⟨fun file member => ?_, between⟩
  obtain ⟨pair, inside, rfl⟩ := List.mem_map.mp member
  obtain ⟨path, source, rfl⟩ := sources.understood pair inside
  exact ⟨path, source, rfl, List.flatMap_eq_nil_iff.mp inFiles _ inside⟩

theorem compile_understood (compiled : w.compile options = .ok schema) : ∃ whole : Schema,
    w.understandFiles options.sanitized.rootDirectory options.sanitized.patterns = .ok (whole, []) ∧
      schema = if options.keepDeprecated then whole
        else { whole with files := whole.files.map (·.withoutDeprecated) } := by
  unfold compile at compiled
  dsimp only at compiled
  cases read : w.understandFiles options.sanitized.rootDirectory options.sanitized.patterns with
  | error failure => simp [read, bind, Except.bind] at compiled
  | ok found =>
    obtain ⟨whole, problems⟩ := found
    cases problems with
    | cons problem rest => simp [read, bind, Except.bind, throw, throwThe, MonadExceptOf.throw] at compiled
    | nil =>
      simp only [read, bind, Except.bind, pure, Except.pure, List.isEmpty_nil, Bool.not_true, Bool.false_eq_true,
        if_false, Except.ok.injEq] at compiled
      exact ⟨whole, rfl, compiled.symm⟩

theorem compile_parts (compiled : w.compile options = .ok schema) : ∃ whole : Schema, whole.Checked ∧
    schema = if options.keepDeprecated then whole
      else { whole with files := whole.files.map (·.withoutDeprecated) } := by
  obtain ⟨whole, read, same⟩ := compile_understood compiled
  exact ⟨whole, understandFiles_checked read, same⟩

end Compile

end Workspace

namespace SourceFile
variable {file : SourceFile}

theorem Clean.resolved (clean : file.Clean) : file.Resolved := by
  obtain ⟨path, source, rfl, _⟩ := clean
  exact understand_resolved path source

theorem understand_clean {path : String} {source : List UInt8} (none : (understand path source).2 = []) :
    (bound path source).problems = [] ∧ ((bound path source).file.resolve (bound path source).placeholders).2 = [] ∧
      (understand path source).1.violations = [] := by
  have parts := Findings.sort_eq_nil.mp none
  rw [List.append_eq_nil_iff, List.append_eq_nil_iff] at parts
  exact ⟨parts.1.1, parts.1.2, parts.2⟩

theorem Clean.violations (clean : file.Clean) : file.violations = [] := by
  obtain ⟨path, source, rfl, none⟩ := clean
  exact (understand_clean none).2.2

theorem Clean.targets (clean : file.Clean) {id : SymbolId} {symbol : Symbol}
    (found : file.symbols.get? id = some symbol) : symbol.target.isSome := by
  obtain ⟨path, source, rfl, none⟩ := clean
  obtain ⟨scope, valid, _, symbols, placeholders⟩ := bound_valid path source
  have silent := (understand_clean none).2.1
  rw [resolve_problems, List.flatMap_eq_nil_iff, placeholders] at silent
  rw [understand_symbols, Option.map_eq_some_iff] at found
  obtain ⟨before, atId, rfl⟩ := found
  cases target : before.target with
  | some target => simp [settled, target]
  | none =>
    obtain ⟨p, member, rfl⟩ := valid.waiting id before (symbols ▸ atId) target
    have reported := silent p member
    simp only [undefined, atId] at reported
    cases open_ : ((bound path source).file.settled before).target with
    | some target => rfl
    | none => simp [open_] at reported

end SourceFile
end WireSchema

import WireSchema.Proofs.Compiled.References
import WireSchema.Proofs.Validity.Rules

-- What leaving out deprecated members does to the rules. All of them stand when members go, but for one: a union
-- has a branch.
namespace WireSchema

def Declaration.leftEmpty? : Declaration SymbolId → Option (Located Problem)
  | .union u =>
    if u.branches.all (fun b => Tags.deprecated b.tags) then some ⟨u.position, .emptyUnion u.name⟩ else none
  | _ => none

namespace Declaration

@[simp] theorem kind_withoutDeprecated {σ : Type} (d : Declaration σ) : d.withoutDeprecated.kind = d.kind := by
  cases d <;> rfl

theorem leftEmpty?_withoutDeprecated (d : Declaration SymbolId) : d.withoutDeprecated.leftEmpty? = d.leftEmpty? := by
  cases d with
  | union u => simp [withoutDeprecated, leftEmpty?]
  | _ => rfl

end Declaration

theorem SourceFile.kind?_withoutDeprecated (file : SourceFile) (r : Reference SymbolId) :
    file.withoutDeprecated.kind? r = file.kind? r := by
  have symbols : file.withoutDeprecated.symbols = file.symbols := rfl
  unfold kind? target?
  rw [symbols]
  cases file.symbols.target? r.symbol with
  | none => rfl
  | some target =>
    cases target with
    | declaration index =>
      dsimp only [withoutDeprecated]
      rw [List.getElem?_map]
      cases file.declarations[index]? <;> simp
    | imported name =>
      dsimp only
      cases file.withoutDeprecated.imports.get? name <;> cases file.imports.get? name <;> rfl

namespace Validity
variable {file kept : SourceFile}

theorem declaration_withoutDeprecated (same : (kept.kind? ·) = (file.kind? ·)) {d : Declaration SymbolId}
    (clean : declaration file ∅ d = []) : declaration kept ∅ d.withoutDeprecated = d.leftEmpty?.toList := by
  cases d with
  | const c => rfl
  | enumeration e => exact enumerators_iff.mpr ((enumerators_iff.mp clean).sublist List.filter_sublist)
  | struct s =>
    refine fields_iff.mpr ?_
    rw [same]
    exact (fields_iff.mp clean).sublist List.filter_sublist
  | service s =>
    refine methods_iff.mpr ?_
    rw [same]
    exact (methods_iff.mp clean).sublist List.filter_sublist
  | union u =>
    obtain ⟨_, branches⟩ := union_parts.mp clean
    by_cases every : u.branches.all (fun b => Tags.deprecated b.tags)
    · have none : u.branches.filter (fun b => !Tags.deprecated b.tags) = [] := by simpa using every
      simp [Declaration.withoutDeprecated, declaration, none, Declaration.leftEmpty?, every]
    · rw [Declaration.leftEmpty?, if_neg every]
      refine union_parts.mpr ⟨by simpa using every, branches_iff.mpr ?_⟩
      rw [same]
      exact (branches_iff.mp branches).sublist List.filter_sublist

end Validity

theorem flatMap_eq_filterMap {α β : Type} {reports : α → List β} {report? : α → Option β} {xs : List α}
    (each : ∀ x ∈ xs, reports x = (report? x).toList) : xs.flatMap reports = xs.filterMap report? := by
  induction xs with
  | nil => rfl
  | cons x rest ih =>
    obtain ⟨first, later⟩ := List.forall_mem_cons.mp each
    rw [List.flatMap_cons, List.filterMap_cons, first, ih later]
    cases report? x <;> rfl

namespace SourceFile
variable {file : SourceFile}

theorem withoutDeprecated_each (valid : file.violations = []) :
    file.withoutDeprecated.violations = file.declarations.filterMap (·.leftEmpty?) := by
  obtain ⟨each, pairs⟩ := violations_iff.mp valid
  have kinds : (file.withoutDeprecated.kind? ·) = (file.kind? ·) := funext file.kind?_withoutDeprecated
  have constants : file.withoutDeprecated.declarations.Pairwise Declaration.Agrees := by
    refine List.pairwise_map.mpr (pairs.imp ?_)
    intro before d agrees
    simpa [Declaration.Agrees] using agrees
  rw [violations, Validity.declarations_each constants, withoutDeprecated, List.flatMap_map]
  exact flatMap_eq_filterMap fun d member => Validity.declaration_withoutDeprecated kinds (each d member)

theorem withoutDeprecated_own (valid : file.violations = []) : file.withoutDeprecated.violations =
    file.withoutDeprecated.declarations.filterMap (·.leftEmpty?) := by
  rw [withoutDeprecated_each valid, withoutDeprecated, List.filterMap_map]
  congr 1
  funext d
  exact d.leftEmpty?_withoutDeprecated.symm

end SourceFile

namespace EmptiedUnion

def source : List UInt8 := Text.encode "package p; union U \x7b string \"1 deprecated\" \x7d".toList

def place (column : Nat) : Position := ⟨"", 1, column⟩

def file : SourceFile where
  name := ""
  doc := []
  package := ⟨place 1, "p"⟩
  imports := ∅
  declarations := [.union ⟨place 12, [], "U", [⟨place 22, .string, 1, .insert "deprecated" "" ∅⟩]⟩]
  symbols := ⟨[⟨"U", some (.declaration 0)⟩], [("U", 0)]⟩

theorem tokens : Token.allOf Token.defaultLimit "" source = ([
    ⟨.keyword .package, "package", place 1⟩, ⟨.identifier, "p", place 9⟩, ⟨.semicolon, ";", place 10⟩,
    ⟨.keyword .union, "union", place 12⟩, ⟨.identifier, "U", place 18⟩, ⟨.openBrace, "\x7b", place 20⟩,
    ⟨.identifier, "string", place 22⟩, ⟨.string, "\"1 deprecated\"", place 29⟩,
    ⟨.closeBrace, "\x7d", place 44⟩, ⟨.semicolon, "\n", place 45⟩], ⟨.endOfFile, "", place 45⟩) := by
  exact Token.allOf_first (n := 10) rfl rfl (by decide) rfl

theorem understood : SourceFile.understand "" source = (file, []) := by
  have bound : SourceFile.bound "" source = ⟨file, [], []⟩ := by
    rw [SourceFile.bound, tokens]
    cbv
  rw [SourceFile.understand, bound]
  cbv

-- Without its branch the union breaks a rule, though nothing was wrong with it.
theorem rule_lost : (SourceFile.understand "" source).2 = [] ∧
    (SourceFile.understand "" source).1.withoutDeprecated.violations = [⟨place 12, .emptyUnion "U"⟩] := by
  rw [understood]
  exact ⟨rfl, by decide⟩

end EmptiedUnion

-- Of a file in which nothing was wrong, and of every file that is compiled without deprecated members, what the
-- checks find are the unions that are left without a branch.
theorem violations_withoutDeprecated [Regex] :
    (∀ name source, (SourceFile.understand name source).2 = [] →
      (SourceFile.understand name source).1.withoutDeprecated.violations =
        (SourceFile.understand name source).1.declarations.filterMap (·.leftEmpty?)) ∧
    ∀ (w : Workspace) (options : Options) (schema : Schema), options.keepDeprecated = false →
      w.compile options = .ok schema →
      ∀ file ∈ schema.files, file.violations = file.declarations.filterMap (·.leftEmpty?) := by
  constructor
  · intro name source none
    exact SourceFile.withoutDeprecated_each (SourceFile.understand_clean none).2.2
  · intro w options schema drops compiled file member
    obtain ⟨whole, checked, rfl⟩ := Workspace.compile_parts compiled
    rw [if_neg (by simp [drops])] at member
    obtain ⟨before, inWhole, rfl⟩ := List.mem_map.mp member
    exact SourceFile.withoutDeprecated_own (checked.clean before inWhole).violations

theorem EmptiedUnion.only_rule_lost :
    ((SourceFile.understand "" source).2 = [] ∧ (SourceFile.understand "" source).1.withoutDeprecated.violations =
      (SourceFile.understand "" source).1.declarations.filterMap (·.leftEmpty?)) ∧
    TwoFiles.clientFile.withoutDeprecated.violations =
      TwoFiles.clientFile.withoutDeprecated.declarations.filterMap (·.leftEmpty?) := by
  have none : (SourceFile.understand "" source).2 = [] := by rw [understood]
  refine ⟨⟨none, (@violations_withoutDeprecated Elementary.engine).1 "" source none⟩, ?_⟩
  exact (@violations_withoutDeprecated Elementary.engine).2 _ _ _ rfl (@TwoFiles.compiled Elementary.engine).2 _
    List.mem_cons_self

end WireSchema

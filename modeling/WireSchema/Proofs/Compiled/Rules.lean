import WireSchema.Proofs.Compiled.References
import WireSchema.Proofs.Validity.Rules

-- The rules on the kinds of declarations that types of members may refer to. They are checked file by file,
-- and a file does not know the kind of a declaration that it imports.
namespace WireSchema

-- What a declaration keeps of the rules, as far as the kinds behind its references are known.
structure Declaration.KeepsRules (kind? : Reference SymbolId → Option DeclarationKind)
    (d : Declaration SymbolId) : Prop where
  fields : ∀ s, d = .struct s → ∀ f ∈ s.fields, f.type.isA kind? .service = false
  methods : ∀ s, d = .service s → ∀ m ∈ s.methods, ∀ type ∈ m.types, type.isA kind? .service = false
  branches : ∀ u, d = .union u → ∀ b ∈ u.branches,
    b.type.isA kind? .union = false ∧ b.type.isA kind? .service = false
  numeric : ∀ u, d = .union u → (u.branches.filter (·.type.isNumeric kind?)).length ≤ 1

theorem SourceFile.keepsRules {file : SourceFile} (valid : file.violations = []) :
    ∀ d ∈ file.declarations, d.KeepsRules (file.kind? ·) := by
  intro d member
  have follows := (SourceFile.violations_eq_nil_iff.mp valid).1.each d member
  refine ⟨?_, ?_, ?_, ?_⟩
  · rintro s rfl
    exact Struct.FollowsRules.types follows
  · rintro s rfl
    exact Service.FollowsRules.types follows
  · rintro u rfl b inside
    exact ValueType.isBarred_parts (Union.FollowsRules.types follows b inside)
  · rintro u rfl
    exact Union.FollowsRules.numeric follows

def Schema.kind? (schema : Schema) (file : SourceFile) (r : Reference SymbolId) : Option DeclarationKind :=
  (schema.declaration? file r).map (·.kind)

-- Across files the rules do not hold: here a struct takes a service of another file for a field, a service
-- takes it for an argument, and a union has a union and an enum of that file among its branches, the enum
-- beside an integer.
theorem TwoFiles.rules_broken :
    options.keepDeprecated = true ∧ @Workspace.compile Elementary.engine workspace options = .ok schema ∧ clientFile ∈ schema.files ∧
      (∃ s, .struct s ∈ clientFile.declarations ∧
        ∃ f ∈ s.fields, f.type.isA (schema.kind? clientFile) .service = true) ∧
      (∃ s, .service s ∈ clientFile.declarations ∧
        ∃ m ∈ s.methods, ∃ type ∈ m.types, type.isA (schema.kind? clientFile) .service = true) ∧
      ∃ u, .union u ∈ clientFile.declarations ∧
        (∃ b ∈ u.branches, b.type.isA (schema.kind? clientFile) .union = true) ∧
        1 < (u.branches.filter (·.type.isNumeric (schema.kind? clientFile))).length := by
  refine ⟨rfl, (@compiled Elementary.engine).1, List.mem_cons_self, ?_, ?_, ?_⟩
  · exact ⟨_, List.mem_cons_self, _, List.mem_cons_self, by decide⟩
  · refine ⟨_, List.mem_cons_of_mem _ (List.mem_cons_of_mem _ List.mem_cons_self), _, List.mem_cons_self, ?_⟩
    exact ⟨_, List.mem_cons_self, by decide⟩
  · refine ⟨_, List.mem_cons_of_mem _ List.mem_cons_self, ?_, by decide⟩
    exact ⟨_, List.mem_cons_self, by decide⟩

-- Within a file they do: of the declarations of its own file, no field, argument or result is a service, no
-- branch a union or a service, and no union has two branches for numbers.
theorem Workspace.compile_keepsRules [Regex] (w : Workspace) (options : Options) (schema : Schema)
    (keeps : options.keepDeprecated = true) (compiled : w.compile options = .ok schema) :
    ∀ file ∈ schema.files, ∀ d ∈ file.declarations, d.KeepsRules (file.kind? ·) := by
  obtain ⟨whole, checked, same⟩ := compile_parts compiled
  rw [if_pos keeps] at same
  subst same
  exact fun file member => SourceFile.keepsRules (checked.clean file member).violations

theorem TwoFiles.rules_within : options.keepDeprecated = true ∧ @Workspace.compile Elementary.engine workspace options = .ok schema ∧
    ∀ d ∈ clientFile.declarations, d.KeepsRules (clientFile.kind? ·) :=
  ⟨rfl, (@compiled Elementary.engine).1, @Workspace.compile_keepsRules Elementary.engine workspace options schema rfl
    (@compiled Elementary.engine).1 clientFile List.mem_cons_self⟩

end WireSchema

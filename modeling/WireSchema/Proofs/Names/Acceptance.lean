import WireSchema.Proofs.Grammar.Files
import WireSchema.Proofs.Names.Resolution

-- What a file with names adds to its grammar: a type name is reported exactly where it is declared a second
-- time, wherever it is used.
namespace WireSchema
open Grammar

namespace Scope
variable {s : Scope}

def typeNames (s : Scope) : List String := s.declarations.filterMap (·.typeName?)

theorem undeclared_iff (name : String) (s : Scope) :
    Declaration.ownTarget? name s.declarations = none ↔ name ∉ s.typeNames := by
  simp only [Declaration.ownTarget?_eq_none, typeNames, List.mem_filterMap, Declaration.typeName?, Declaration.declares]
  constructor
  · rintro none ⟨d, member, named⟩
    have other := none d member
    by_cases isType : d.isType <;> simp_all
  · intro absent d member
    cases isType : d.isType with
    | false => rfl
    | true =>
      have other : d.name ≠ name := fun same => absent ⟨d, member, by simp [isType, same]⟩
      simp [other]

theorem mention_problems (m : Mention) (s : Scope) : (s.mention m).problems = s.problems := by
  unfold mention
  split <;> rfl

theorem mentions_same (mentions : List Mention) (s : Scope) :
    (mentions.foldl (fun s m => s.mention m) s).problems = s.problems ∧
      (mentions.foldl (fun s m => s.mention m) s).declarations = s.declarations := by
  induction mentions generalizing s with
  | nil => exact ⟨rfl, rfl⟩
  | cons m rest ih =>
    obtain ⟨problems, declarations⟩ := ih (s.mention m)
    exact ⟨problems.trans (mention_problems m s), declarations.trans (mention_declarations m s)⟩

theorem find?_declares {name : String} {declarations : List (Declaration SymbolId)} :
    declarations.find? (Declaration.declares name) = none ↔ Declaration.ownTarget? name declarations = none := by
  rw [List.find?_eq_none, Declaration.ownTarget?_eq_none]
  simp

theorem register_reports (valid : s.Valid) {name : String} (nonempty : name ≠ "") (index : Nat) (position : Position) :
    (s.register name index position).problems = s.problems ++ ((s.declarations.find? (Declaration.declares name)).map
      fun first => ⟨position, .typeRedeclared name first.position⟩).toList := by
  unfold register
  cases known : s.symbols.lookup name with
  | none => simp [find?_declares.mpr (valid.undeclared nonempty known)]
  | some id =>
    obtain ⟨target, atId⟩ := valid.exact.named known
    have own := valid.targets id _ atId
    dsimp only at own
    have same : s.symbols.target? id = target := by rw [SymbolTable.target?, atId, Option.bind_some]
    cases target with
    | none => simp [same, find?_declares.mpr own.symm]
    | some target =>
      obtain ⟨first, d, rfl, found, _, isFirst⟩ := Declaration.ownTarget?_index own.symm
      simp [same, found, isFirst]

theorem register_problems (valid : s.Valid) {name : String} (nonempty : name ≠ "") (index : Nat) (position : Position) :
    (s.register name index position).problems = [] ↔ s.problems = [] ∧ name ∉ s.typeNames := by
  rw [register_reports valid nonempty, List.append_eq_nil_iff, ← undeclared_iff, ← find?_declares]
  cases s.declarations.find? (Declaration.declares name) <;> simp

theorem declare_typeNames (d : Declaration Unit) (s : Scope) :
    (s.declare d).typeNames = s.typeNames ++ d.typeName?.toList := by
  unfold declare typeNames
  cases named : d.typeName? <;> simp [List.filterMap_append, named]

theorem declare_problems (valid : s.Valid) {d : Declaration Unit} (named : ∀ name, d.typeName? = some name → name ≠ "") :
    (s.declare d).problems = [] ↔ s.problems = [] ∧ ∀ name, d.typeName? = some name → name ∉ s.typeNames := by
  unfold declare
  cases isType : d.isType with
  | false => simp [Declaration.typeName?, isType]
  | true =>
    have nonempty : d.name ≠ "" := named d.name (by simp [Declaration.typeName?, isType])
    simp [Declaration.typeName?, isType, nonempty, register_problems valid nonempty]

theorem declare_clean {d : Declaration Unit} (clean : (s.declare d).problems = []) : s.problems = [] := by
  have kept : s.problems <+: (s.register d.name s.declarations.length d.position).problems := by
    unfold register
    split
    · exact List.prefix_refl _
    · split
      · exact List.prefix_refl _
      · exact List.prefix_append _ _
      · exact List.prefix_refl _
  unfold declare at clean
  dsimp only at clean
  split at clean
  · exact List.prefix_nil.mp (clean ▸ kept)
  · exact clean

theorem item_typeNames (step : Step (Option (Declaration Unit))) (s : Scope) :
    (s.item step).typeNames = s.typeNames ++ (step.value.bind (·.typeName?)).toList := by
  have declarations := (mentions_same step.mentions s).2
  unfold item
  cases value : step.value with
  | none => simp [typeNames, declarations]
  | some d =>
    dsimp only
    rw [declare_typeNames, Option.bind_some]
    simp only [typeNames, declarations]

def Fresh (s : Scope) (step : Step (Option (Declaration Unit))) : Prop :=
  ∀ name, step.value.bind (·.typeName?) = some name → name ∉ s.typeNames

theorem item_problems (valid : s.Valid) {step : Step (Option (Declaration Unit))} (known : Named step)
    (named : step.problems = [] → ∀ name, step.value.bind (·.typeName?) = some name → name ≠ "") :
    (s.item step).problems = [] ↔ s.problems = [] ∧ step.problems = [] ∧ s.Fresh step := by
  obtain ⟨problems, declarations⟩ := mentions_same step.mentions s
  have mentioned := (valid.mentions known.typeNames).1.reported
    ((step.mentions.foldl (fun s m => s.mention m) s).problems ++ step.problems)
  unfold item Fresh
  cases value : step.value with
  | none => simp [problems]
  | some d =>
    by_cases clean : step.problems = []
    · have nonempty : ∀ name, d.typeName? = some name → name ≠ "" := by simpa [value] using named clean
      dsimp only
      rw [declare_problems mentioned nonempty]
      simp [problems, clean, typeNames, declarations]
    · refine iff_of_false (fun none => clean ?_) fun all => clean all.2.1
      exact (List.append_eq_nil_iff.mp (declare_clean none)).2

theorem items_problems {items : List (Step (Option (Declaration Unit)))} (known : ∀ step ∈ items, Named step)
    (named : ∀ step ∈ items, step.problems = [] → ∀ name, step.value.bind (·.typeName?) = some name → name ≠ "")
    (valid : s.Valid) : (items.foldl item s).problems = [] ↔ s.problems = [] ∧ (∀ step ∈ items, step.problems = []) ∧
      (declaredNames items).Nodup ∧ ∀ name ∈ declaredNames items, name ∉ s.typeNames := by
  induction items generalizing s with
  | nil => simp [declaredNames]
  | cons step rest ih =>
    have inRest := fun {other} (member : other ∈ rest) => List.mem_cons_of_mem step member
    have ofStep := item_problems valid (known step List.mem_cons_self) (named step List.mem_cons_self)
    have ofRest := ih (fun other member => known other (inRest member)) (fun other member => named other (inRest member))
      (valid.item (known step List.mem_cons_self))
    rw [List.foldl_cons, ofRest, ofStep, item_typeNames, declaredNames_cons, List.forall_mem_cons]
    unfold Fresh
    cases declares : step.value.bind (·.typeName?) with
    | none => simp [and_assoc]
    | some name =>
      simp only [Option.some.injEq, forall_eq', Option.toList_some, List.singleton_append, List.nodup_cons,
        List.mem_append, List.mem_singleton, not_or, List.forall_mem_cons]
      constructor
      · rintro ⟨⟨cleanScope, cleanStep, fresh⟩, cleanRest, distinct, others⟩
        exact ⟨cleanScope, ⟨cleanStep, cleanRest⟩, ⟨fun twice => (others name twice).2 rfl, distinct⟩, fresh,
          fun other member => (others other member).1⟩
      · rintro ⟨cleanScope, ⟨cleanStep, cleanRest⟩, ⟨once, distinct⟩, fresh, others⟩
        exact ⟨⟨cleanScope, cleanStep, fresh⟩, cleanRest, distinct,
          fun other member => ⟨others other member, fun same => once (same ▸ member)⟩⟩

end Scope

-- Nothing is reported before names are resolved exactly if nothing is in the head, in any item, or for a repeated name.
theorem SourceFile.bound_problems (name : String) (source : List UInt8) :
    let read := outline (.ofTokens (Token.allOf Token.defaultLimit name source))
    (bound name source).problems = [] ↔
      read.headProblems = [] ∧ (∀ step ∈ read.items, step.problems = []) ∧ (declaredNames read.items).Nodup := by
  intro read
  have proper := Tape.ofSource_proper Token.defaultLimit name source
  have scope := Scope.items_problems (outline_named proper)
    (outline_each proper fun proper clean name declares => item_declares proper clean declares) Scope.empty_valid
  rw [bound, Bound.ofOutline]
  dsimp only
  rw [List.append_eq_nil_iff, Scope.ofItems, scope]
  simp [Scope.empty, Scope.typeNames, read]

-- A source is read without a problem exactly if its tokens without the comments are a file of the grammar.
theorem SourceFile.bound_accepts (name : String) (source : List UInt8) : (bound name source).problems = [] ↔
    IsFile ((Token.allOf Token.defaultLimit name source).1.filter (·.kind ≠ .comment)) := by
  have proper := Tape.ofSource_proper Token.defaultLimit name source
  have tokens : (Tape.ofTokens (Token.allOf Token.defaultLimit name source)).tokens =
      (Token.allOf Token.defaultLimit name source).1.filter (·.kind ≠ .comment) := Documented.ofTokens_tokens _ _ _
  rw [← tokens, ← outline_accepts proper]
  exact bound_problems name source

end WireSchema

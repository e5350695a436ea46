import Mathlib.Data.List.Find
import Mathlib.Data.List.Pairwise
import WireSchema.Proofs.Names.Reports
import WireSchema.Proofs.Permuted.Rules
import WireSchema.Proofs.Validity.Rules

-- Two files that declare the same in different orders. Where no type is declared twice, a name leads to the same in
-- both of them, and the rules are kept in the one if they are in the other.
namespace WireSchema

theorem Declaration.declares_once {σ : Type} {ds : List (Declaration σ)} (distinct : (ds.filterMap (·.typeName?)).Nodup)
    {name : String} {d e : Declaration σ} (member : d ∈ ds) (among : e ∈ ds) (here : d.declares name = true)
    (there : e.declares name = true) : d = e := by
  rw [List.nodup_iff_pairwise_ne, List.pairwise_filterMap] at distinct
  by_contra apart
  obtain ⟨isType, rfl⟩ := declares_iff.mp here
  obtain ⟨isTypeToo, same⟩ := declares_iff.mp there
  have named : d.typeName? = some d.name := by rw [typeName?, if_pos isType]
  have namedToo : e.typeName? = some d.name := by rw [typeName?, if_pos isTypeToo, same]
  have symmetric : Std.Symm fun d e : Declaration σ =>
      ∀ a, d.typeName? = some a → ∀ b, e.typeName? = some b → a ≠ b :=
    ⟨fun _ _ other a first b second => (other b second a first).symm⟩
  exact distinct.forall member among apart _ named _ namedToo rfl

-- Whether two references lead to declarations of one name and kind, or to one import.
inductive ReferenceTarget.Same : ReferenceTarget → ReferenceTarget → Prop where
  | declaration {d e : Declaration SymbolId} (name : d.name = e.name) (kind : d.kind = e.kind) :
      Same (.declaration d) (.declaration e)
  | imported (clause : Import) : Same (.imported clause) (.imported clause)

namespace SourceFile
variable {file other : SourceFile}

structure Rearranged (file other : SourceFile) : Prop where
  imports : file.imports = other.imports
  declared : (file.declarations.map (·.content)).Perm (other.declarations.map (·.content))
  distinct : (file.declarations.filterMap (·.typeName?)).Nodup

theorem typeDeclaration?_content (name : String) (file : SourceFile) :
    (file.typeDeclaration? name).map (·.content) =
      (file.declarations.map (·.content)).find? (Declaration.declares name) := by
  rw [List.find?_map]
  congr 1
  unfold typeDeclaration?
  congr 1
  funext d
  simp [Declaration.declares]

def kindOf? (name : String) (file : SourceFile) : Option DeclarationKind := (file.typeDeclaration? name).map (·.kind)

theorem Resolved.target_text (resolved : file.Resolved) {d : Declaration SymbolId} (member : d ∈ file.declarations)
    {r : Reference SymbolId} (inside : r ∈ d.references) :
    file.target? r = ((file.typeDeclaration? r.text).map .declaration).or
      ((file.importOf? r.text).bind fun package => (file.imports.get? package).map .imported) := by
  obtain ⟨target, found⟩ := resolved.reference_symbol member inside
  have leads := resolved.targets _ _ found
  dsimp only at leads
  have first : file.typeDeclaration? r.text = (file.declarations.findIdx? (Declaration.declares r.text)).bind
      (file.declarations[·]?) := List.find?_eq_bind_findIdx?_getElem?
  rw [target?, SymbolTable.target?, found, Option.bind_some, leads, first, Declaration.ownTarget?]
  cases own : file.declarations.findIdx? (Declaration.declares r.text) with
  | some index =>
    obtain ⟨inBounds, _, _⟩ := List.findIdx?_eq_some_iff_getElem.mp own
    simp [inBounds]
  | none => cases file.importOf? r.text <;> rfl

theorem Resolved.kind_text (resolved : file.Resolved) {d : Declaration SymbolId} (member : d ∈ file.declarations)
    {r : Reference SymbolId} (inside : r ∈ d.references) : file.kind? r = file.kindOf? r.text := by
  rw [kind?, resolved.target_text member inside, kindOf?]
  cases file.typeDeclaration? r.text with
  | some d => rfl
  | none =>
    cases file.importOf? r.text with
    | none => rfl
    | some package =>
      cases known : file.imports.get? package <;> simp [known]

theorem Resolved.kinds (resolved : file.Resolved) {d : Declaration SymbolId} (member : d ∈ file.declarations) :
    (d.withSymbols (file.kind? ·)).bare = d.content.withSymbols fun r => file.kindOf? r.text := by
  rw [Declaration.withSymbols_congr fun r inside => resolved.kind_text member inside]
  exact d.content_named (file.kindOf? ·)

namespace Rearranged

theorem typeNames (rearranged : file.Rearranged other) :
    (file.declarations.filterMap (·.typeName?)).Perm (other.declarations.filterMap (·.typeName?)) := by
  have names : ∀ ds : List (Declaration SymbolId),
      ds.filterMap (·.typeName?) = (ds.map (·.content)).filterMap (·.typeName?) := by
    intro ds
    rw [List.filterMap_map]
    congr 1
    funext d
    simp [Declaration.typeName?]
  rw [names, names]
  exact rearranged.declared.filterMap _

theorem typeDeclaration? (rearranged : file.Rearranged other) (name : String) :
    (file.typeDeclaration? name).map (·.content) = (other.typeDeclaration? name).map (·.content) := by
  rw [typeDeclaration?_content, typeDeclaration?_content]
  refine List.find?_eq_find?_of_perm rearranged.declared ?_
  rintro _ ⟨member, here⟩ _ ⟨among, there⟩
  obtain ⟨d, inside, rfl⟩ := List.mem_map.mp member
  obtain ⟨e, insideToo, rfl⟩ := List.mem_map.mp among
  have declares : ∀ d : Declaration SymbolId, d.content.declares name = d.declares name := by
    simp [Declaration.declares]
  rw [Declaration.declares_once rearranged.distinct inside insideToo ((declares d).symm.trans here)
    ((declares e).symm.trans there)]

theorem kindOf? (rearranged : file.Rearranged other) (name : String) : file.kindOf? name = other.kindOf? name := by
  have kinds : ∀ file : SourceFile,
      file.kindOf? name = ((file.typeDeclaration? name).map (·.content)).map (·.kind) := by
    intro file
    rw [SourceFile.kindOf?, Option.map_map]
    congr 1
    funext d
    simp
  rw [kinds, kinds, rearranged.typeDeclaration?]

theorem importOf? (rearranged : file.Rearranged other) (name : String) :
    file.importOf? name = other.importOf? name := by
  rw [SourceFile.importOf?, SourceFile.importOf?, rearranged.imports]

theorem violations (rearranged : file.Rearranged other) (resolved : file.Resolved) (resolvedToo : other.Resolved)
    (clean : file.violations = []) : other.violations = [] := by
  obtain ⟨each, pairs⟩ := violations_iff.mp clean
  refine violations_iff.mpr ⟨fun e member => ?_, ?_⟩
  · have content := rearranged.declared.mem_iff.mpr (List.mem_map_of_mem member)
    obtain ⟨d, among, same⟩ := List.mem_map.mp content
    refine Validity.declaration_alike ?_ (each d among)
    rw [resolved.kinds among, resolvedToo.kinds member, same]
    congr 1
    funext r
    exact rearranged.kindOf? r.text
  · have names : ∀ ds : List (Declaration SymbolId), (ds.filter (·.kind = .const)).map (·.name) =
        ((ds.map (·.content)).filter (·.kind = .const)).map (·.name) := by
      intro ds
      simp [List.filter_map, Function.comp_def]
    rw [Validity.constants_pairs, names] at pairs ⊢
    exact ((rearranged.declared.filter _).map _).nodup_iff.mp pairs

theorem target? (rearranged : file.Rearranged other) (resolved : file.Resolved) (resolvedToo : other.Resolved)
    {d e : Declaration SymbolId} (member : d ∈ file.declarations) (among : e ∈ other.declarations)
    {r q : Reference SymbolId} (inside : r ∈ d.references) (insideToo : q ∈ e.references) (same : r.text = q.text) :
    Option.Rel ReferenceTarget.Same (file.target? r) (other.target? q) := by
  have declared := rearranged.typeDeclaration? q.text
  rw [resolved.target_text member inside, resolvedToo.target_text among insideToo, same, rearranged.importOf?,
    rearranged.imports]
  cases first : file.typeDeclaration? q.text with
  | some d =>
    cases second : other.typeDeclaration? q.text with
    | none => simp [first, second] at declared
    | some e =>
      have content : d.content = e.content := by simpa [first, second] using declared
      have name : d.name = e.name := by simpa using congrArg Declaration.name content
      have kind : d.kind = e.kind := by simpa using congrArg Declaration.kind content
      exact .some (.declaration name kind)
  | none =>
    cases second : other.typeDeclaration? q.text with
    | some e => simp [first, second] at declared
    | none =>
      simp only [Option.map_none, Option.none_or]
      cases other.importOf? q.text with
      | none => exact .none
      | some package =>
        rw [Option.bind_some]
        cases other.imports.get? package with
        | none => exact .none
        | some clause => exact .some (.imported clause)

end Rearranged
end SourceFile
end WireSchema

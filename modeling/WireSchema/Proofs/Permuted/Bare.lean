import WireSchema.Proofs.Grammar.Compared
import WireSchema.Proofs.Names.TypeName
import WireSchema.Proofs.Validity.Agreement

-- Declarations without what their place in a source gives them: where they stand, what is said above them and which
-- symbols their references have.
namespace WireSchema
open Grammar

def Position.nowhere : Position := ⟨"", 0, 0⟩

section Bare
variable {σ τ : Type}

def Enumerator.bare (e : Enumerator) : Enumerator := { e with position := .nowhere }

def Field.bare (f : Field σ) : Field σ := { f with position := .nowhere }

def Branch.bare (b : Branch σ) : Branch σ := { b with position := .nowhere }

def Method.bare (m : Method σ) : Method σ := { m with position := .nowhere, doc := [] }

def Declaration.bare : Declaration σ → Declaration σ
  | .const c => .const { c with position := .nowhere, doc := [] }
  | .enumeration e => .enumeration ⟨.nowhere, [], e.name, e.enumerators.map (·.bare)⟩
  | .struct s => .struct ⟨.nowhere, [], s.name, s.fields.map (·.bare)⟩
  | .union u => .union ⟨.nowhere, [], u.name, u.branches.map (·.bare)⟩
  | .service s => .service ⟨.nowhere, [], s.name, s.methods.map (·.bare)⟩

-- What a declaration says, with its references by name alone.
def Declaration.content (d : Declaration σ) : Declaration Unit := (d.withSymbols fun _ => ()).bare

theorem ValueType.withSymbols_congr {symbol other : Reference σ → τ} {type : ValueType σ}
    (same : ∀ r ∈ type.references, symbol r = other r) : type.withSymbols symbol = type.withSymbols other := by
  induction type with
  | array size element ih => simp [withSymbols, ih same]
  | map key value ihKey ihValue =>
    obtain ⟨ofKey, ofValue⟩ := List.forall_mem_append.mp same
    simp [withSymbols, ihKey ofKey, ihValue ofValue]
  | pointer value ih => simp [withSymbols, ih same]
  | defined r => simp [withSymbols, same r List.mem_cons_self]
  | _ => rfl

namespace Declaration

theorem withSymbols_congr {symbol other : Reference σ → τ} {d : Declaration σ}
    (same : ∀ r ∈ d.references, symbol r = other r) : d.withSymbols symbol = d.withSymbols other := by
  have types : ∀ type ∈ d.types, type.withSymbols symbol = type.withSymbols other := by
    intro type member
    exact ValueType.withSymbols_congr fun r inside => same r (List.mem_flatMap.mpr ⟨type, member, inside⟩)
  cases d with
  | const c => simpa [withSymbols, Declaration.types, memberTypes] using types
  | enumeration e => rfl
  | struct s =>
    simp only [Declaration.types, memberTypes, List.map_map, List.forall_mem_map] at types
    simpa [withSymbols, Field.withSymbols] using types
  | union u =>
    simp only [Declaration.types, memberTypes, List.map_map, List.forall_mem_map] at types
    simpa [withSymbols, Branch.withSymbols] using types
  | service s =>
    simp only [withSymbols, service.injEq, Service.mk.injEq, true_and]
    refine List.map_congr_left fun m member => ?_
    have each : ∀ type ∈ m.types, type.withSymbols symbol = type.withSymbols other := by
      intro type inside
      refine types type (List.mem_map.mpr ⟨(m.position, type), List.mem_flatMap.mpr ⟨m, member, ?_⟩, rfl⟩)
      exact List.mem_map.mpr ⟨type, inside, rfl⟩
    obtain ⟨arguments, result⟩ := List.forall_mem_append.mp each
    have ofResult : m.result.map (·.withSymbols symbol) = m.result.map (·.withSymbols other) :=
      Option.map_congr fun type found => result type (Option.mem_toList.mpr found)
    rw [Method.withSymbols, Method.withSymbols, List.map_congr_left arguments, ofResult]

theorem bare_withSymbols (symbol : Reference σ → τ) (d : Declaration σ) :
    (d.withSymbols symbol).bare = d.bare.withSymbols symbol := by
  cases d <;> simp [withSymbols, bare, Field.withSymbols, Branch.withSymbols, Method.withSymbols, Field.bare,
    Branch.bare, Method.bare, Function.comp_def]

theorem content_withSymbols (symbol : Reference σ → τ) (d : Declaration σ) :
    (d.withSymbols symbol).content = d.content := by
  rw [content, content, withSymbols_withSymbols]

theorem content_named (named : String → τ) (d : Declaration σ) :
    (d.withSymbols fun r => named r.text).bare = d.content.withSymbols fun r => named r.text := by
  rw [content, ← bare_withSymbols, withSymbols_withSymbols]
  rfl

@[simp] theorem name_bare (d : Declaration σ) : d.bare.name = d.name := by cases d <;> rfl

@[simp] theorem kind_bare (d : Declaration σ) : d.bare.kind = d.kind := by cases d <;> rfl

@[simp] theorem name_content (d : Declaration σ) : d.content.name = d.name := by simp [content]

@[simp] theorem kind_content (d : Declaration σ) : d.content.kind = d.kind := by simp [content]

@[simp] theorem isType_content (d : Declaration σ) : d.content.isType = d.isType := by simp [isType]

theorem references_bare (d : Declaration σ) : d.bare.references = d.references := by
  have types : d.bare.types = d.types := by
    cases d <;> simp [types, memberTypes, bare, Field.bare, Branch.bare, Method.bare, Method.types, Function.comp_def,
      List.map_flatMap, List.flatMap_map]
  rw [references, references, types]

theorem texts_content (d : Declaration σ) : d.content.references.map (·.text) = d.references.map (·.text) := by
  rw [content, references_bare, references_withSymbols, List.map_map]
  rfl

end Declaration
end Bare

theorem forall₂_of_map {α β γ : Type} {f : α → γ} {g : β → γ} {R : α → β → Prop} {xs : List α} {ys : List β}
    (same : xs.map f = ys.map g) (each : ∀ x ∈ xs, ∀ y ∈ ys, f x = g y → R x y) : List.Forall₂ R xs ys := by
  induction xs generalizing ys with
  | nil =>
    obtain rfl : ys = [] := List.map_eq_nil_iff.mp same.symm
    exact .nil
  | cons x xs ih =>
    obtain ⟨y, ys, rfl, first, rest⟩ := List.map_eq_cons_iff.mp same.symm
    refine .cons (each x List.mem_cons_self y List.mem_cons_self first.symm) (ih rest.symm fun x inXs y inYs => ?_)
    exact each x (List.mem_cons_of_mem _ inXs) y (List.mem_cons_of_mem _ inYs)

namespace Grammar.Comparison
variable {c : Comparison}

theorem map_eq {α β : Type} {V : α → α → Prop} {f : α → β} (same : ∀ a b, V a b → f a = f b)
    {as bs : List α} (related : List.Forall₂ V as bs) : as.map f = bs.map f := by
  induction related with
  | nil => rfl
  | cons first _ ih => rw [List.map_cons, List.map_cons, same _ _ first, ih]

theorem Declarations.bare {d e : Declaration Unit} (related : c.Declarations d e) : d.bare = e.bare := by
  cases related with
  | const => rfl
  | enumeration _ _ members =>
    have same := map_eq (f := Enumerator.bare) (fun a b related => by cases related; rfl) members
    rw [Declaration.bare, Declaration.bare, same]
  | struct _ _ members =>
    have same := map_eq (f := Field.bare) (fun a b related => by cases related; rfl) members
    rw [Declaration.bare, Declaration.bare, same]
  | union _ _ members =>
    have same := map_eq (f := Branch.bare) (fun a b related => by cases related; rfl) members
    rw [Declaration.bare, Declaration.bare, same]
  | service _ _ members =>
    have same := map_eq (f := Method.bare) (fun a b related => by cases related; rfl) members
    rw [Declaration.bare, Declaration.bare, same]

theorem Declarations.content {d e : Declaration Unit} (related : c.Declarations d e) : d.content = e.content := by
  rw [Declaration.content, Declaration.content, Declaration.bare_withSymbols, Declaration.bare_withSymbols,
    related.bare]

end Grammar.Comparison
end WireSchema

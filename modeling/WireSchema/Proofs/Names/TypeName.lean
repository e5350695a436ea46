import WireSchema.Proofs.Token.Names
import WireSchema.Declaration

-- Names in type position: a word, or a package and a word with a point between them. Taking such a name
-- apart and putting it together again loses nothing.
namespace WireSchema
open Text

theorem cut?_eq_some {separator : Char} {text before after : List Char} :
    cut? separator text = some (before, after) ↔ text = before ++ separator :: after ∧ separator ∉ before := by
  induction text generalizing before with
  | nil => simp [cut?]
  | cons c rest ih =>
    by_cases here : c = separator
    · subst here
      cases before with
      | nil => simp [cut?]
      | cons d more => simp +contextual [cut?]
    · constructor
      · intro found
        simp only [cut?, here, if_false, Option.map_eq_some_iff] at found
        obtain ⟨⟨inner, left⟩, cut, pair⟩ := found
        cases pair
        obtain ⟨rfl, absent⟩ := ih.mp cut
        exact ⟨rfl, by simp [absent, Ne.symm here]⟩
      · rintro ⟨same, absent⟩
        cases before with
        | nil => exact absurd (List.cons.inj same).1 here
        | cons d more =>
          obtain ⟨rfl, tail⟩ := List.cons.inj same
          have cut := ih.mpr ⟨tail, fun member => absent (List.mem_cons_of_mem _ member)⟩
          simp [cut?, here, cut]

theorem cut?_eq_none {separator : Char} {text : List Char} :
    cut? separator text = none ↔ separator ∉ text := by
  induction text with
  | nil => simp [cut?]
  | cons c rest ih =>
    by_cases here : c = separator
    · simp [cut?, here]
    · simp [cut?, here, ih, Ne.symm here]

theorem cut?_qualified {package name : String} (pointless : '.' ∉ package.toList) :
    cut? '.' (package ++ "." ++ name).toList = some (package.toList, name.toList) :=
  cut?_eq_some.mpr ⟨by simp, pointless⟩

inductive IsTypeName : String → Prop where
  | plain {name : String} (isName : IsName name) : IsTypeName name
  | qualified {package name : String} (isPackage : IsName package) (isName : IsName name) :
      IsTypeName (package ++ "." ++ name)

namespace Reference
variable {σ τ : Type}

theorem ofName_text (written : String) (symbol : σ) : (ofName written symbol).text = written := by
  cases cut : cut? '.' written.toList with
  | none => simp [ofName, cut, text]
  | some parts =>
    obtain ⟨package, name⟩ := parts
    obtain ⟨same, _⟩ := cut?_eq_some.mp cut
    simp only [ofName, cut, text]
    rw [← String.toList_inj, same]
    simp

theorem ofName_symbol (written : String) (symbol : σ) : (ofName written symbol).symbol = symbol := by
  unfold ofName
  split <;> rfl

theorem ofName_parts {r : Reference σ} {written : String} {symbol : σ} (made : r = ofName written symbol) :
    r.package = none ∧ '.' ∉ written.toList ∨ ∃ package, r.package = some package ∧ '.' ∉ package.toList := by
  subst made
  unfold ofName
  split
  · rename_i package name cut
    exact .inr ⟨_, rfl, by simpa using (cut?_eq_some.mp cut).2⟩
  · rename_i uncut
    exact .inl ⟨rfl, cut?_eq_none.mp uncut⟩

theorem ofName_withSymbol (written : String) (before : σ) (symbol : τ) :
    (⟨(ofName written before).package, (ofName written before).name, symbol⟩ : Reference τ) =
      ofName written symbol := by
  unfold ofName
  split <;> rfl

end Reference

def Declaration.references {σ : Type} (d : Declaration σ) : List (Reference σ) :=
  d.types.flatMap (·.references)

theorem ValueType.references_withSymbols {σ τ : Type} (symbol : Reference σ → τ) (type : ValueType σ) :
    (type.withSymbols symbol).references = type.references.map fun r => ⟨r.package, r.name, symbol r⟩ := by
  induction type with
  | array size element ih => simpa [withSymbols, references] using ih
  | map key value ihKey ihValue => simp [withSymbols, references, ihKey, ihValue]
  | pointer value ih => simpa [withSymbols, references] using ih
  | _ => simp [withSymbols, references]

theorem Declaration.references_withSymbols {σ τ : Type} (symbol : Reference σ → τ) (d : Declaration σ) :
    (d.withSymbols symbol).references = d.references.map fun r => ⟨r.package, r.name, symbol r⟩ := by
  have types : (d.withSymbols symbol).types = d.types.map (·.withSymbols symbol) := by
    cases d <;> simp [types, memberTypes, withSymbols, Field.withSymbols, Branch.withSymbols, Method.withSymbols,
      Method.types, Function.comp_def, List.map_flatMap, List.flatMap_map, Option.toList_map]
  simp [Declaration.references, types, List.flatMap_map, List.map_flatMap, ValueType.references_withSymbols]

theorem ValueType.withSymbols_withSymbols {σ τ υ : Type} (symbol : Reference σ → τ) (later : Reference τ → υ)
    (type : ValueType σ) : (type.withSymbols symbol).withSymbols later =
      type.withSymbols fun r => later ⟨r.package, r.name, symbol r⟩ := by
  induction type with
  | array size element ih => simp [withSymbols, ih]
  | map key value ihKey ihValue => simp [withSymbols, ihKey, ihValue]
  | pointer value ih => simp [withSymbols, ih]
  | _ => rfl

theorem Declaration.withSymbols_withSymbols {σ τ υ : Type} (symbol : Reference σ → τ) (later : Reference τ → υ)
    (d : Declaration σ) :
    (d.withSymbols symbol).withSymbols later = d.withSymbols fun r => later ⟨r.package, r.name, symbol r⟩ := by
  cases d <;> simp [withSymbols, Field.withSymbols, Branch.withSymbols, Method.withSymbols,
    ValueType.withSymbols_withSymbols, Function.comp_def]

theorem ValueType.withSymbols_unit (type : ValueType Unit) : type.withSymbols (fun _ => ()) = type := by
  induction type with
  | array size element ih => rw [withSymbols, ih]
  | map key value ihKey ihValue => rw [withSymbols, ihKey, ihValue]
  | pointer value ih => rw [withSymbols, ih]
  | _ => rfl

theorem Declaration.withSymbols_unit (d : Declaration Unit) : d.withSymbols (fun _ => ()) = d := by
  cases d <;> simp [withSymbols, Field.withSymbols, Branch.withSymbols, Method.withSymbols,
    ValueType.withSymbols_unit]

@[simp] theorem Declaration.name_withSymbols {σ τ : Type} (symbol : Reference σ → τ) (d : Declaration σ) :
    (d.withSymbols symbol).name = d.name := by cases d <;> rfl

@[simp] theorem Declaration.position_withSymbols {σ τ : Type} (symbol : Reference σ → τ) (d : Declaration σ) :
    (d.withSymbols symbol).position = d.position := by cases d <;> rfl

@[simp] theorem Declaration.kind_withSymbols {σ τ : Type} (symbol : Reference σ → τ) (d : Declaration σ) :
    (d.withSymbols symbol).kind = d.kind := by cases d <;> rfl

@[simp] theorem Declaration.isType_withSymbols {σ τ : Type} (symbol : Reference σ → τ) (d : Declaration σ) :
    (d.withSymbols symbol).isType = d.isType := by cases d <;> rfl

def Declaration.typeName? {σ : Type} (d : Declaration σ) : Option String := if d.isType then some d.name else none

@[simp] theorem Declaration.typeName?_withSymbols {σ τ : Type} (symbol : Reference σ → τ) (d : Declaration σ) :
    (d.withSymbols symbol).typeName? = d.typeName? := by simp [typeName?]

theorem IsTypeName.nonempty {name : String} (isTypeName : IsTypeName name) : name ≠ "" := by
  cases isTypeName with
  | plain isName => exact isName.nonempty
  | qualified isPackage isName =>
    intro empty
    have lengths := congrArg (fun text => text.toList.length) empty
    simp at lengths

end WireSchema

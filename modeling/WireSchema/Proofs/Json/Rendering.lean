import Mathlib.Data.List.Basic
import WireSchema.CommandLine
import WireSchema.Proofs.Json.Layout

-- A schema can be told from its JSON text, all but the index of its symbols, which is made from them. Every kind of
-- thing has a JSON value of its own, so that from one such value everything in it can be told.
namespace WireSchema
open Json

namespace Json
variable {α : Type}

@[simp] theorem ofNat_inj {n m : Nat} : ofNat n = ofNat m ↔ n = m := by
  rw [ofNat, ofNat, number.injEq, Int.ofNat_inj]

@[simp] theorem strings_inj {a b : List String} : strings a = strings b ↔ a = b := by
  simp only [strings, array.injEq]
  exact (show Function.Injective Json.string from fun _ _ => string.inj).list_map.eq_iff

theorem ofOption_inj {render : α → Json} (injective : Function.Injective render) (some_ : ∀ value, render value ≠ .null)
    {a b : Option α} : ofOption render a = ofOption render b ↔ a = b := by
  cases a <;> cases b <;> simp [ofOption, some_, Ne.symm (some_ _), injective.eq_iff]

theorem array_inj {render : α → Json} (injective : Function.Injective render) {a b : List α} :
    array (a.map render) = array (b.map render) ↔ a = b := by
  rw [array.injEq, injective.list_map.eq_iff]

theorem object_inj {render : α → Json} (injective : Function.Injective render) {a b : Dictionary String α} :
    object (a.entries.map fun (key, value) => (key, render value)) =
      object (b.entries.map fun (key, value) => (key, render value)) ↔ a = b := by
  have pairs : Function.Injective fun entry : String × α => (entry.1, render entry.2) := by
    rintro ⟨key, value⟩ ⟨other, found⟩ same
    simpa [injective.eq_iff] using same
  rw [object.injEq, pairs.list_map.eq_iff]
  cases a
  cases b
  simp

end Json

@[simp] theorem Position.json_inj {a b : Position} : a.json = b.json ↔ a = b := by
  cases a
  cases b
  simp [json]

@[simp] theorem Tags.json_inj {a b : Tags} : Tags.json a = Tags.json b ↔ a = b :=
  object_inj fun _ _ => string.inj

-- The kinds of types differ in their first member. What the others hold is the type itself and the types inside it.
theorem ValueType.json_injective : Function.Injective ValueType.json := by
  intro a
  induction a with
  | bool | string | bytes | raw | time =>
    intro b same
    cases b <;> simp [json] at same ⊢
  | int bits unsigned =>
    intro b same
    cases b <;> simp [json] at same
    exact congrArg₂ _ (UInt8.toNat_inj.mp same.1) same.2
  | float bits =>
    intro b same
    cases b <;> simp [json] at same
    exact congrArg _ (UInt8.toNat_inj.mp same)
  | array size element ih =>
    intro b same
    cases b <;> simp [json] at same
    exact congrArg₂ _ (UInt32.toNat_inj.mp same.1) (ih same.2)
  | map key value ihKey ihValue =>
    intro b same
    cases b <;> simp [json] at same
    exact congrArg₂ _ (ihKey same.1) (ihValue same.2)
  | pointer value ih =>
    intro b same
    cases b <;> simp [json] at same
    exact congrArg _ (ih same)
  | defined r =>
    intro b same
    cases b <;> simp [json] at same
    obtain ⟨package, name, symbol⟩ := same
    have packages := (ofOption_inj (fun _ _ => string.inj) (by simp)).mp package
    cases r
    simp_all

@[simp] theorem ValueType.json_inj {a b : ValueType SymbolId} : a.json = b.json ↔ a = b := json_injective.eq_iff

theorem ValueType.json_some (type : ValueType SymbolId) : type.json ≠ .null := by cases type <;> simp [json]

section Members

@[simp] theorem Package.json_inj {a b : Package} : a.json = b.json ↔ a = b := by
  cases a
  cases b
  simp [json]

theorem Import.json_injective : Function.Injective Import.json := by
  rintro ⟨⟩ ⟨⟩ same
  simpa [json] using same

theorem Enumerator.json_injective : Function.Injective Enumerator.json := by
  rintro ⟨⟩ ⟨⟩ same
  simpa [json] using same

theorem Field.json_injective : Function.Injective Field.json := by
  rintro ⟨⟩ ⟨⟩ same
  simpa [json] using same

theorem Branch.json_injective : Function.Injective Branch.json := by
  rintro ⟨⟩ ⟨⟩ same
  simpa [json] using same

theorem Method.json_injective : Function.Injective Method.json := by
  rintro ⟨⟩ ⟨⟩ same
  simpa [json, ofOption_inj ValueType.json_injective ValueType.json_some,
    ValueType.json_injective.list_map.eq_iff] using same

end Members

theorem DeclarationKind.text_injective : Function.Injective DeclarationKind.text := by
  intro a b
  cases a <;> cases b <;> decide

section Declarations
variable {a b : Declaration SymbolId}

theorem Declaration.heading_inj {doc other : List String} {more rest : List (String × Json)} :
    a.heading doc ++ more = b.heading other ++ rest ↔
      a.kind = b.kind ∧ a.position = b.position ∧ doc = other ∧ a.name = b.name ∧ more = rest := by
  simp [heading, DeclarationKind.text_injective.eq_iff]

theorem Declaration.json_kind (same : a.json = b.json) : a.kind = b.kind := by
  cases a <;> cases b <;> exact (heading_inj.mp (object.inj same)).1

theorem Declaration.json_injective : Function.Injective Declaration.json := by
  intro a b same
  have kind := json_kind same
  rcases a with ⟨⟨⟩⟩ | ⟨⟨⟩⟩ | ⟨⟨⟩⟩ | ⟨⟨⟩⟩ | ⟨⟨⟩⟩ <;> rcases b with ⟨⟨⟩⟩ | ⟨⟨⟩⟩ | ⟨⟨⟩⟩ | ⟨⟨⟩⟩ | ⟨⟨⟩⟩ <;> cases kind <;>
    obtain ⟨_, position, doc, name, members⟩ := heading_inj.mp (object.inj same)
  · simp_all [Declaration.position, Declaration.name]
  · simp_all [Declaration.position, Declaration.name, Enumerator.json_injective.list_map.eq_iff]
  · simp_all [Declaration.position, Declaration.name, Field.json_injective.list_map.eq_iff]
  · simp_all [Declaration.position, Declaration.name, Branch.json_injective.list_map.eq_iff]
  · simp_all [Declaration.position, Declaration.name, Method.json_injective.list_map.eq_iff]

end Declarations

section Symbols

theorem SymbolTarget.json_injective : Function.Injective SymbolTarget.json := by
  intro a b same
  cases a <;> cases b <;> simp [json] at same ⊢ <;> exact same

theorem SymbolTarget.json_some (target : SymbolTarget) : target.json ≠ .null := by cases target <;> simp [json]

theorem Symbol.json_injective : Function.Injective Symbol.json := by
  rintro ⟨⟩ ⟨⟩ same
  simpa [json, ofOption_inj SymbolTarget.json_injective SymbolTarget.json_some] using same

def SymbolTable.unindexed (table : SymbolTable) : SymbolTable := ⟨table.symbols, []⟩

theorem SymbolTable.json_inj {a b : SymbolTable} : a.json = b.json ↔ a.unindexed = b.unindexed := by
  simp [json, unindexed, Symbol.json_injective.list_map.eq_iff]

end Symbols

-- A file, and a schema, but for the indices of its symbols.
def SourceFile.unindexed (file : SourceFile) : SourceFile := { file with symbols := file.symbols.unindexed }

def Schema.unindexed (schema : Schema) : Schema := { schema with files := schema.files.map (·.unindexed) }

theorem SourceFile.json_inj {a b : SourceFile} : a.json = b.json ↔ a.unindexed = b.unindexed := by
  rw [SourceFile.json, SourceFile.json]
  simp only [object.injEq, List.cons.injEq, Prod.mk.injEq, true_and, and_true, string.injEq, strings_inj,
    Package.json_inj, SymbolTable.json_inj, array_inj Declaration.json_injective, object_inj Import.json_injective]
  rw [unindexed, unindexed, SourceFile.mk.injEq]

theorem map_same {α β γ : Type} {f : α → β} {g : α → γ} (same : ∀ {x y}, f x = f y ↔ g x = g y) {xs ys : List α} :
    xs.map f = ys.map f ↔ xs.map g = ys.map g := by
  induction xs generalizing ys with
  | nil => simp [eq_comm]
  | cons x xs ih => cases ys <;> simp [same, ih]

theorem Schema.json_inj {a b : Schema} : a.json = b.json ↔ a.unindexed = b.unindexed := by
  rw [Schema.json, Schema.json, unindexed, unindexed, Schema.mk.injEq, ← map_same SourceFile.json_inj]
  simp

-- Two schemas have the same text exactly if they are the same but for these indices.
theorem Schema.text_determines (a b : Schema) : a.json.text = b.json.text ↔ a.unindexed = b.unindexed :=
  Json.text_injective.eq_iff.trans Schema.json_inj

theorem Workspace.dump_determines {w v : Workspace} {options others : Options}
    (done : (w.dump options none).code = 0) (also : (v.dump others none).code = 0)
    (same : (w.dump options none).stdout = (v.dump others none).stdout) :
    ∃ a b, w.compile options = .ok a ∧ v.compile others = .ok b ∧ a.unindexed = b.unindexed := by
  have compiled : ∀ {w : Workspace} {options : Options}, (w.dump options none).code = 0 →
      ∃ schema, w.compile options = .ok schema ∧ (w.dump options none).stdout = schema.json.text ++ "\n" := by
    intro w options done
    unfold dump at done ⊢
    cases found : w.compile options with
    | error failure => cases failure <;> simp [found, reportFailure, reportProblems, reportError, finish] at done
    | ok schema => exact ⟨schema, rfl, rfl⟩
  obtain ⟨a, ofOne, printed⟩ := compiled done
  obtain ⟨b, ofOther, alsoPrinted⟩ := compiled also
  rw [printed, alsoPrinted] at same
  have texts : a.json.text = b.json.text := by simpa [← String.toList_inj] using same
  exact ⟨a, b, ofOne, ofOther, Schema.json_inj.mp (Json.text_injective texts)⟩

end WireSchema

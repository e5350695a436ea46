import WireSchema.Proofs.Compiled.Filtered
import WireSchema.Proofs.Compiled.Missing

-- Leaving out deprecated members takes those members and the imports that only they needed, and nothing else: a
-- file is what its declarations have besides their members, their members, and the rest.
namespace WireSchema

inductive Member (σ : Type) where
  | enumerator (e : Enumerator)
  | field (f : Field σ)
  | branch (b : Branch σ)
  | method (m : Method σ)
deriving DecidableEq

namespace Member
variable {σ : Type}

def tags : Member σ → Tags
  | .enumerator e => e.tags
  | .field f => f.tags
  | .branch b => b.tags
  | .method m => m.tags

def types : Member σ → List (ValueType σ)
  | .enumerator _ => []
  | .field f => [f.type]
  | .branch b => [b.type]
  | .method m => m.types

def isKept (m : Member σ) : Bool := !m.tags.contains "deprecated"

end Member

inductive ValueType.Holds {σ : Type} (r : Reference σ) : ValueType σ → Prop where
  | here : Holds r (.defined r)
  | element {size : UInt32} {element : ValueType σ} (inside : Holds r element) : Holds r (.array size element)
  | key {key value : ValueType σ} (inside : Holds r key) : Holds r (.map key value)
  | value {key value : ValueType σ} (inside : Holds r value) : Holds r (.map key value)
  | pointed {value : ValueType σ} (inside : Holds r value) : Holds r (.pointer value)

theorem ValueType.holds_iff {σ : Type} {r : Reference σ} {type : ValueType σ} : type.Holds r ↔ r ∈ type.references := by
  constructor
  · intro inside
    induction inside with
    | here => exact List.mem_singleton.mpr rfl
    | element _ ih | pointed _ ih => exact ih
    | key _ ih => exact List.mem_append_left _ ih
    | value _ ih => exact List.mem_append_right _ ih
  · intro member
    induction type with
    | array size element ih => exact .element (ih member)
    | map key value ihKey ihValue =>
      exact (List.mem_append.mp member).elim (fun inKey => .key (ihKey inKey)) fun inValue => .value (ihValue inValue)
    | pointer value ih => exact .pointed (ih member)
    | defined reference => obtain rfl := List.mem_singleton.mp member; exact .here
    | _ => cases member

namespace Declaration
variable {σ : Type}

def body : Declaration σ → List (Member σ)
  | .const _ => []
  | .enumeration e => e.enumerators.map .enumerator
  | .struct s => s.fields.map .field
  | .union u => u.branches.map .branch
  | .service s => s.methods.map .method

def header : Declaration σ → Declaration σ
  | .const c => .const c
  | .enumeration e => .enumeration { e with enumerators := [] }
  | .struct s => .struct { s with fields := [] }
  | .union u => .union { u with branches := [] }
  | .service s => .service { s with methods := [] }

def Mentions (d : Declaration σ) (r : Reference σ) : Prop := ∃ m ∈ d.body, ∃ type ∈ m.types, type.Holds r

theorem body_withoutDeprecated (d : Declaration σ) : d.withoutDeprecated.body = d.body.filter (·.isKept) := by
  cases d with
  | const c => rfl
  | _ =>
    simp only [body, withoutDeprecated, List.filter_map]
    rfl

@[simp] theorem header_withoutDeprecated (d : Declaration σ) : d.withoutDeprecated.header = d.header := by
  cases d <;> rfl

theorem eq_of_parts {d other : Declaration σ} (header : d.header = other.header) (bodies : d.body = other.body) :
    d = other := by
  rcases d with c | ⟨⟨_, _, _, _⟩⟩ | ⟨⟨_, _, _, _⟩⟩ | ⟨⟨_, _, _, _⟩⟩ | ⟨⟨_, _, _, _⟩⟩ <;>
    rcases other with c | ⟨⟨_, _, _, _⟩⟩ | ⟨⟨_, _, _, _⟩⟩ | ⟨⟨_, _, _, _⟩⟩ | ⟨⟨_, _, _, _⟩⟩ <;> cases header
  case const.refl => rfl
  all_goals simpa [Declaration.body, List.map_inj_right] using bodies

theorem withoutDeprecated_again (d : Declaration σ) : d.withoutDeprecated.withoutDeprecated = d.withoutDeprecated :=
  eq_of_parts (by simp) (by simp [body_withoutDeprecated])

theorem mentions_withoutDeprecated {d : Declaration σ} {r : Reference σ} : d.withoutDeprecated.Mentions r ↔
    ∃ m ∈ d.body, m.isKept = true ∧ ∃ type ∈ m.types, type.Holds r := by
  simp [Mentions, body_withoutDeprecated, and_assoc]

theorem mentions_iff {d : Declaration σ} (typed : d.literalTyped = true) {r : Reference σ} :
    d.Mentions r ↔ r ∈ d.references := by
  simp only [Mentions, ValueType.holds_iff, references, List.mem_flatMap]
  cases d with
  | const c =>
    have none : c.type.references = [] := by simpa [literalTyped] using typed
    simp [body, types, memberTypes, none]
  | service s =>
    simp only [body, types, memberTypes, List.map_flatMap, List.map_map, List.mem_flatMap, List.mem_map,
      Function.comp_apply, exists_eq_right]
    constructor
    · rintro ⟨_, ⟨m, among, rfl⟩, type, ofMethod, inside⟩
      exact ⟨type, ⟨m, among, ofMethod⟩, inside⟩
    · rintro ⟨type, ⟨m, among, ofMethod⟩, inside⟩
      exact ⟨_, ⟨m, among, rfl⟩, type, ofMethod, inside⟩
  | _ => simp [body, types, memberTypes, Member.types]

theorem literalTyped_withoutDeprecated (d : Declaration σ) : d.withoutDeprecated.literalTyped = d.literalTyped := by
  cases d <;> rfl

theorem mem_packages {d : Declaration σ} {package : String} :
    package ∈ d.packages ↔ ∃ r ∈ d.references, r.package = some package := by
  simp only [packages, references, List.mem_flatMap, List.mem_filterMap]
  constructor
  · rintro ⟨type, ofType, r, inside, ofPackage⟩
    exact ⟨r, ⟨type, ofType, inside⟩, ofPackage⟩
  · rintro ⟨r, ⟨type, ofType, inside⟩, ofPackage⟩
    exact ⟨type, ofType, r, inside, ofPackage⟩

end Declaration

theorem Dictionary.get?_filterKeys_iff {κ α : Type} [LT κ] [DecidableEq κ] {keep : κ → Bool} {map : Dictionary κ α}
    {key : κ} {value : α} : (map.filterKeys keep).get? key = some value ↔ map.get? key = some value ∧ keep key = true := by
  by_cases kept : keep key = true
  · simp [get?_filterKeys keep map kept, kept]
  · have gone : (map.filterKeys keep).get? key = none := by
      simp only [get?, filterKeys, Option.map_eq_none_iff, List.find?_eq_none, List.mem_filter]
      rintro entry ⟨_, stays⟩ same
      exact kept (by simpa using (decide_eq_true_eq.mp same) ▸ stays)
    simp [gone, kept]

theorem Dictionary.filterKeys_again {κ α : Type} [LT κ] (keep : κ → Bool) (map : Dictionary κ α) :
    (map.filterKeys keep).filterKeys keep = map.filterKeys keep := by
  simp [filterKeys]

namespace SourceFile
variable {file : SourceFile}

theorem imports_withoutDeprecated (typed : ∀ d ∈ file.declarations, d.literalTyped = true) {package : String}
    {clause : Import} : file.withoutDeprecated.imports.get? package = some clause ↔
      file.imports.get? package = some clause ∧ ∃ d ∈ file.declarations, ∃ m ∈ d.body, m.isKept = true ∧
        ∃ type ∈ m.types, ∃ r, type.Holds r ∧ r.package = some package := by
  have used : (file.withoutDeprecated.declarations.flatMap (·.packages)).contains package = true ↔
      ∃ d ∈ file.declarations, ∃ r, d.withoutDeprecated.Mentions r ∧ r.package = some package := by
    rw [List.contains_iff_mem, List.mem_flatMap]
    simp only [withoutDeprecated, List.mem_map, Declaration.mem_packages]
    constructor
    · rintro ⟨_, ⟨d, member, rfl⟩, r, inside, ofPackage⟩
      have own := (Declaration.literalTyped_withoutDeprecated d).trans (typed d member)
      exact ⟨d, member, r, (Declaration.mentions_iff own).mpr inside, ofPackage⟩
    · rintro ⟨d, member, r, inside, ofPackage⟩
      have own := (Declaration.literalTyped_withoutDeprecated d).trans (typed d member)
      exact ⟨_, ⟨d, member, rfl⟩, r, (Declaration.mentions_iff own).mp inside, ofPackage⟩
  refine Dictionary.get?_filterKeys_iff.trans (and_congr_right fun _ => used.trans ?_)
  constructor
  · rintro ⟨d, member, r, inside, ofPackage⟩
    obtain ⟨m, ofMember, kept, type, ofType, holds⟩ := Declaration.mentions_withoutDeprecated.mp inside
    exact ⟨d, member, m, ofMember, kept, type, ofType, r, holds, ofPackage⟩
  · rintro ⟨d, member, m, ofMember, kept, type, ofType, r, holds, ofPackage⟩
    exact ⟨d, member, r, Declaration.mentions_withoutDeprecated.mpr ⟨m, ofMember, kept, type, ofType, holds⟩, ofPackage⟩

theorem withoutDeprecated_again (file : SourceFile) :
    file.withoutDeprecated.withoutDeprecated = file.withoutDeprecated := by
  have declarations : (file.declarations.map (·.withoutDeprecated)).map (·.withoutDeprecated) =
      file.declarations.map (·.withoutDeprecated) := by
    rw [List.map_map]
    exact List.map_congr_left fun d _ => d.withoutDeprecated_again
  simp only [withoutDeprecated, declarations, Dictionary.filterKeys_again]

theorem Resolved.imported_package (resolved : file.Resolved) {d : Declaration SymbolId}
    (among : d ∈ file.declarations) {r : Reference SymbolId} (inside : r ∈ d.references) {name : String}
    (leads : file.symbols.target? r.symbol = some (.imported name)) : r.package = some name := by
  obtain ⟨target, found⟩ := resolved.reference_symbol among inside
  obtain rfl : target = some (.imported name) := by simpa [SymbolTable.target?, found] using leads
  rcases Reference.ofName_parts (resolved.references d among r inside).1 with
    ⟨unqualified, pointless⟩ | ⟨package, qualified, pointless⟩
  · have own := resolved.own_target found pointless
    rw [Declaration.ownTarget?] at own
    cases first : file.declarations.findIdx? (Declaration.declares r.text) <;> simp [first] at own
  · have text : r.text = package ++ "." ++ r.name := by simp [Reference.text, qualified]
    have imported := resolved.imported_target (text ▸ found) pointless
    split at imported
    · cases imported
      exact qualified
    · cases imported

inductive SameTarget (file kept : SourceFile) (r : Reference SymbolId) : Prop where
  | nowhere (before : file.target? r = none) (after : kept.target? r = none)
  | imported {clause : Import} (before : file.target? r = some (.imported clause))
      (after : kept.target? r = some (.imported clause))
  | declaration {index : Nat} {d left : Declaration SymbolId}
      (symbol : file.symbols.target? r.symbol = some (.declaration index))
      (before : file.target? r = some (.declaration d)) (after : kept.target? r = some (.declaration left))
      (place : file.declarations[index]? = some d) (samePlace : kept.declarations[index]? = some left)
      (kind : left.kind = d.kind) (name : left.name = d.name)

theorem target_withoutDeprecated (resolved : file.Resolved) {d : Declaration SymbolId}
    (member : d ∈ file.withoutDeprecated.declarations) {r : Reference SymbolId} (inside : r ∈ d.references) :
    SameTarget file file.withoutDeprecated r := by
  obtain ⟨whole, among, rfl⟩ := List.mem_map.mp member
  have ofWhole : r ∈ whole.references := Declaration.references_withoutDeprecated inside
  obtain ⟨target, found⟩ := resolved.reference_symbol among ofWhole
  have symbol : file.symbols.target? r.symbol = target := by rw [SymbolTable.target?, found, Option.bind_some]
  have leftSymbol : file.withoutDeprecated.symbols.target? r.symbol = target := symbol
  cases target with
  | none => exact .nowhere (by simp [target?, symbol]) (by simp [target?, leftSymbol])
  | some target =>
    cases target with
    | declaration index =>
      have places : file.withoutDeprecated.declarations[index]? =
          (file.declarations[index]?).map (·.withoutDeprecated) := List.getElem?_map
      cases place : file.declarations[index]? with
      | none =>
        refine .nowhere ?_ ?_
        · simp [target?, symbol, place]
        · simp [target?, leftSymbol, places, place]
      | some d =>
        have samePlace : file.withoutDeprecated.declarations[index]? = some d.withoutDeprecated := by
          rw [places, place, Option.map_some]
        refine .declaration symbol ?_ ?_ place samePlace d.kind_withoutDeprecated d.name_withoutDeprecated
        · simp [target?, symbol, place]
        · simp [target?, leftSymbol, samePlace]
    | imported name =>
      have kept := import_withoutDeprecated member inside (resolved.imported_package among ofWhole symbol)
      cases known : file.imports.get? name with
      | none => exact .nowhere (by simp [target?, symbol, known]) (by simp [target?, leftSymbol, kept, known])
      | some clause =>
        have before : file.target? r = some (.imported clause) := by simp [target?, symbol, known]
        exact .imported before (by simp [target?, leftSymbol, kept, known])

end SourceFile

-- What leaving out deprecated members does to the file of any source, with errors or without.
theorem SourceFile.withoutDeprecated_exact (name : String) (source : List UInt8) :
    let file := (understand name source).1
    let kept := file.withoutDeprecated
    List.Forall₂ (fun d left => left.header = d.header ∧ left.body = d.body.filter (·.isKept))
        file.declarations kept.declarations ∧
      (∀ package clause, kept.imports.get? package = some clause ↔
        file.imports.get? package = some clause ∧ ∃ d ∈ file.declarations, ∃ m ∈ d.body, m.isKept = true ∧
          ∃ type ∈ m.types, ∃ r, type.Holds r ∧ r.package = some package) ∧
      kept = { file with imports := kept.imports, declarations := kept.declarations } ∧
      (∀ left ∈ kept.declarations, ∀ m ∈ left.body, ∀ type ∈ m.types, ∀ r, type.Holds r →
        file.SameTarget kept r) ∧
      kept.withoutDeprecated = kept := by
  intro file kept
  have typed : ∀ d ∈ file.declarations, d.literalTyped = true := understand_typed name source
  refine ⟨?_, ?_, rfl, ?_, withoutDeprecated_again file⟩
  · refine List.forall₂_map_right_iff.mpr (List.forall₂_same.mpr fun d _ => ?_)
    exact ⟨d.header_withoutDeprecated, d.body_withoutDeprecated⟩
  · intro package clause
    exact imports_withoutDeprecated typed
  · intro left member m ofMember type ofType r holds
    obtain ⟨d, among, rfl⟩ := List.mem_map.mp member
    have own := (Declaration.literalTyped_withoutDeprecated d).trans (typed d among)
    have inside := (Declaration.mentions_iff own).mp ⟨m, ofMember, type, ofType, holds⟩
    exact target_withoutDeprecated (understand_resolved name source) member inside

end WireSchema

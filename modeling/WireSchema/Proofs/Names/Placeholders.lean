import Mathlib.Data.List.Basic
import WireSchema.Proofs.Names.Resolution

-- What settling does to a file, whatever the placeholders are: some may come twice, and some may stand for a symbol that
-- has a target or for none at all.
namespace WireSchema.SourceFile
open Text
variable {file : SourceFile}

def openName? (file : SourceFile) (id : SymbolId) : Option String :=
  match file.symbols.get? id with
  | some ⟨name, none⟩ => some name
  | _ => none

theorem openName?_eq_some {id : SymbolId} {name : String} :
    file.openName? id = some name ↔ file.symbols.get? id = some ⟨name, none⟩ := by
  unfold openName?
  constructor
  · intro isOpen
    split at isOpen
    · rename_i found
      cases isOpen
      exact found
    · cases isOpen
  · intro found
    rw [found]

theorem settle_index (file : SourceFile) (p : Placeholder) : (file.settle p).1.symbols.index = file.symbols.index := by
  unfold settle
  split
  · split <;> rfl
  · rfl

theorem resolve_index (file : SourceFile) (placeholders : List Placeholder) :
    (file.resolve placeholders).1.symbols.index = file.symbols.index := by
  induction placeholders generalizing file with
  | nil => rfl
  | cons p rest ih => exact (ih (file.settle p).1).trans (settle_index file p)

theorem resolve_settled (file : SourceFile) (placeholders : List Placeholder) :
    (file.resolve placeholders).1.settled = file.settled := by
  obtain ⟨symbols, same⟩ := resolve_file file placeholders
  rw [same]
  rfl

-- A placeholder reports the name that is open still when all are settled, for what it stands for is settled too.
theorem undefined_open {placeholders : List Placeholder} {p : Placeholder} (member : p ∈ placeholders) :
    file.undefined p = (((file.resolve placeholders).1.openName? p.symbol).map fun name =>
      (⟨p.position, .undefinedType name⟩ : Located Problem)).toList := by
  have listed : p.symbol ∈ placeholders.map (·.symbol) := List.mem_map_of_mem member
  unfold undefined openName?
  rw [resolve_get?]
  cases file.symbols.get? p.symbol with
  | none => rfl
  | some symbol =>
    have named : symbol.name = (file.settled symbol).name := rfl
    simp only [Option.map_some, if_pos listed, named]
    obtain ⟨name, target⟩ := file.settled symbol
    cases target <;> rfl

theorem resolve_open (file : SourceFile) (placeholders : List Placeholder) : (file.resolve placeholders).2 =
    placeholders.filterMap fun p => ((file.resolve placeholders).1.openName? p.symbol).map fun name =>
      ⟨p.position, .undefinedType name⟩ := by
  rw [resolve_problems, List.filterMap_eq_flatMap_toList]
  exact List.flatMap_congr fun p member => undefined_open member

theorem resolve_again (file : SourceFile) (placeholders : List Placeholder) :
    (file.resolve placeholders).1.resolve placeholders = file.resolve placeholders := by
  have kept : ((file.resolve placeholders).1.resolve placeholders).1 = (file.resolve placeholders).1 := by
    obtain ⟨symbols, same⟩ := resolve_file (file.resolve placeholders).1 placeholders
    have table :
        ((file.resolve placeholders).1.resolve placeholders).1.symbols = (file.resolve placeholders).1.symbols := by
      refine SymbolTable.ext_get? (fun id => ?_) (resolve_index _ placeholders)
      rw [resolve_get?, resolve_settled, resolve_get?, Option.map_map]
      congr 1
      funext symbol
      by_cases listed : id ∈ placeholders.map (·.symbol)
      · simp only [Function.comp, if_pos listed, settled_settled]
      · simp only [Function.comp, if_neg listed]
    rw [same] at table ⊢
    exact congrArg (fun symbols => { (file.resolve placeholders).1 with symbols := symbols }) table
  refine Prod.ext kept ?_
  rw [resolve_open, kept, ← resolve_open]

theorem resolve_name (file : SourceFile) (placeholders : List Placeholder) (id : SymbolId) :
    ((file.resolve placeholders).1.symbols.get? id).map (·.name) = (file.symbols.get? id).map (·.name) := by
  rw [resolve_get?, Option.map_map]
  congr 1
  funext symbol
  dsimp only [Function.comp]
  split <;> rfl

theorem resolve_bound {id : SymbolId} {target : SymbolTarget} (bound : file.symbols.target? id = some target)
    (placeholders : List Placeholder) : (file.resolve placeholders).1.symbols.target? id = some target := by
  obtain ⟨⟨name, own⟩, found, rfl⟩ := Option.bind_eq_some_iff.mp bound
  rw [SymbolTable.target?, resolve_get?, found]
  dsimp only [Option.map_some, Option.bind_some]
  split <;> rfl

theorem resolve_binds {id : SymbolId} {name : String} (isOpen : file.openName? id = some name)
    (placeholders : List Placeholder) (target : SymbolTarget) :
    (file.resolve placeholders).1.symbols.target? id = some target ↔
      id ∈ placeholders.map (·.symbol) ∧ ∃ package, file.Belongs name package ∧ target = .imported package := by
  rw [SymbolTable.target?, resolve_get?, openName?_eq_some.mp isOpen]
  by_cases listed : id ∈ placeholders.map (·.symbol)
  · simp only [Option.map_some, Option.bind_some, if_pos listed]
    change (file.importOf? name).map .imported = some target ↔ _
    rw [Option.map_eq_some_iff, and_iff_right listed]
    simp only [importOf?_eq_some, @eq_comm _ target]
  · simp [listed]

-- Settling goes through a list of placeholders in order. A target that is there stays, a listed symbol without one is
-- bound to the import that its name belongs to, and each placeholder whose symbol stays open reports its name. Nothing else
-- of the file changes, and nothing changes when it is done again.
theorem resolve_placeholders (file : SourceFile) (placeholders : List Placeholder) :
    let after := (file.resolve placeholders).1
    (∃ symbols, after = { file with symbols := ⟨symbols, file.symbols.index⟩ }) ∧
      (∀ id, (after.symbols.get? id).map (·.name) = (file.symbols.get? id).map (·.name)) ∧
      (∀ id target, file.symbols.target? id = some target → after.symbols.target? id = some target) ∧
      (∀ id, id ∉ placeholders.map (·.symbol) → after.symbols.get? id = file.symbols.get? id) ∧
      (∀ id name, file.openName? id = some name → ∀ target, after.symbols.target? id = some target ↔
        id ∈ placeholders.map (·.symbol) ∧ ∃ package, file.Belongs name package ∧ target = .imported package) ∧
      (file.resolve placeholders).2 = (placeholders.filterMap fun p =>
        (after.openName? p.symbol).map fun name => ⟨p.position, .undefinedType name⟩) ∧
      after.resolve placeholders = (after, (file.resolve placeholders).2) := by
  intro after
  refine ⟨?_, resolve_name file placeholders, fun id target bound => resolve_bound bound placeholders, ?_,
    fun id name isOpen target => resolve_binds isOpen placeholders target, resolve_open file placeholders,
    resolve_again file placeholders⟩
  · obtain ⟨symbols, same⟩ := resolve_file file placeholders
    have index := resolve_index file placeholders
    rw [same] at index
    exact ⟨symbols.symbols, by rw [← index]; exact same⟩
  · intro id unlisted
    rw [resolve_get?]
    simp only [if_neg unlisted, Option.map_id']

end WireSchema.SourceFile

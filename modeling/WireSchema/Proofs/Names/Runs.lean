import Mathlib.Order.Bounds.Basic
import WireSchema.Proofs.Names.Symbols

-- A symbol table over a whole run of insertions and of targets that are filled in, whatever the names and the numbers
-- are: a name may come twice, and a number may belong to no symbol.
namespace WireSchema.SymbolTable
variable {table : SymbolTable}

inductive Operation where
  | insert (name : String) (target : Option SymbolTarget)
  | setTarget (id : SymbolId) (target : SymbolTarget)

namespace Operation

def addedName? : Operation → Option String
  | .insert name _ => some name
  | .setTarget _ _ => none

-- The target that an operation fills in for a symbol that was there before.
def filled? (id : SymbolId) : Operation → Option SymbolTarget
  | .insert _ _ => none
  | .setTarget slot target => if slot = id then some target else none

end Operation

def apply (table : SymbolTable) : Operation → SymbolTable
  | .insert name target => table.insert name target
  | .setTarget id target => table.setTarget id target

def run (table : SymbolTable) (operations : List Operation) : SymbolTable := operations.foldl apply table

def issued : SymbolTable → List Operation → List SymbolId
  | _, [] => []
  | table, operation :: rest =>
    (operation.addedName?.map fun _ => table.next).toList ++ issued (table.apply operation) rest

def addedNames (operations : List Operation) : List String := operations.filterMap Operation.addedName?

def lastFilled? (id : SymbolId) (operations : List Operation) : Option SymbolTarget :=
  (operations.filterMap (Operation.filled? id)).getLast?

-- Looking up a name finds the newest symbol that has it, and finds nothing only when none has it.
structure FindsNewest (table : SymbolTable) : Prop where
  found : ∀ name id, table.lookup name = some id ↔ IsGreatest {id | table.names[id]? = some name} id
  missed : ∀ name, table.lookup name = none ↔ name ∉ table.names

section Steps

theorem next_names (table : SymbolTable) : table.next = table.names.length := (List.length_map _).symm

theorem empty_findsNewest : empty.FindsNewest := by
  refine ⟨fun name id => ⟨fun found => by simp [empty, lookup] at found, fun newest => ?_⟩, fun name => ?_⟩
  · have named : empty.names[id]? = some name := newest.1
    simp [names, empty] at named
  · simp [names, empty, lookup]

theorem FindsNewest.insert (finds : table.FindsNewest) (name : String) (target : Option SymbolTarget) :
    (table.insert name target).FindsNewest := by
  refine ⟨fun wanted id => ?_, fun wanted => ?_⟩ <;> rw [lookup_insert, names_insert] <;>
    by_cases new : name = wanted
  · have newest : IsGreatest {id | (table.names ++ [name])[id]? = some wanted} table.next := by
      refine ⟨by simp [next_names, new], fun other named => ?_⟩
      have inside := (List.getElem?_eq_some_iff.mp named).1
      rw [List.length_append, ← next_names] at inside
      exact Nat.le_of_lt_succ inside
    rw [if_pos new, Option.some.injEq]
    exact ⟨fun same => same ▸ newest, newest.unique⟩
  · have same : ∀ id : SymbolId, (table.names ++ [name])[id]? = some wanted ↔ table.names[id]? = some wanted := by
      intro id
      rw [List.getElem?_append]
      split
      · rfl
      · rename_i beyond
        rw [List.getElem?_eq_none (Nat.le_of_not_lt beyond), List.getElem?_singleton]
        simp [new]
    rw [if_neg new, finds.found]
    simp only [same]
  · simp [new]
  · simp [new, Ne.symm new, finds.missed]

theorem FindsNewest.setTarget (finds : table.FindsNewest) (slot : SymbolId) (target : SymbolTarget) :
    (table.setTarget slot target).FindsNewest := by
  refine ⟨?_, ?_⟩ <;> rw [names_setTarget]
  · exact finds.found
  · exact finds.missed

theorem FindsNewest.apply (finds : table.FindsNewest) (operation : Operation) : (table.apply operation).FindsNewest := by
  cases operation with
  | insert name target => exact finds.insert name target
  | setTarget id target => exact finds.setTarget id target

theorem names_apply (table : SymbolTable) (operation : Operation) :
    (table.apply operation).names = table.names ++ operation.addedName?.toList := by
  cases operation with
  | insert name target => exact names_insert name target table
  | setTarget id target => exact (names_setTarget id target table).trans (List.append_nil _).symm

theorem get?_apply {id : SymbolId} (known : id < table.next) (operation : Operation) :
    (table.apply operation).get? id =
      (table.get? id).map fun symbol => { symbol with target := (operation.filled? id).or symbol.target } := by
  cases operation with
  | insert name target => simp [apply, get?_insert, Nat.ne_of_lt known, Operation.filled?]
  | setTarget slot target =>
    rw [apply, get?_setTarget]
    congr 1
    funext symbol
    by_cases same : slot = id <;> simp [Operation.filled?, same]

theorem setTarget_unknown {id : SymbolId} (unknown : table.get? id = none) (target : SymbolTarget) :
    table.setTarget id target = table := by
  refine ext_get? (fun other => ?_) rfl
  rw [get?_setTarget]
  by_cases same : id = other
  · simp [← same, unknown]
  · simp [same]

end Steps

section Runs

theorem run_findsNewest (finds : table.FindsNewest) (operations : List Operation) :
    (table.run operations).FindsNewest := by
  induction operations generalizing table with
  | nil => exact finds
  | cons operation rest ih => exact ih (finds.apply operation)

theorem names_run (table : SymbolTable) (operations : List Operation) :
    (table.run operations).names = table.names ++ addedNames operations := by
  induction operations generalizing table with
  | nil => exact (List.append_nil _).symm
  | cons operation rest ih =>
    rw [run, List.foldl_cons, ← run, ih, names_apply, addedNames, addedNames, List.filterMap_cons]
    cases operation.addedName? <;> simp

theorem issued_range (table : SymbolTable) (operations : List Operation) :
    table.issued operations = List.range' table.next (addedNames operations).length := by
  induction operations generalizing table with
  | nil => rfl
  | cons operation rest ih =>
    rw [issued, ih, next_names, next_names, names_apply, addedNames, addedNames, List.filterMap_cons]
    cases operation.addedName? with
    | none => simp
    | some name => simp [List.range'_succ]

theorem get?_run {id : SymbolId} (known : id < table.next) (operations : List Operation) :
    (table.run operations).get? id =
      (table.get? id).map fun symbol => { symbol with target := (lastFilled? id operations).or symbol.target } := by
  induction operations generalizing table with
  | nil => simp [run, lastFilled?]
  | cons operation rest ih =>
    have still : id < (table.apply operation).next := by
      rw [next_names, names_apply, List.length_append, ← next_names]
      exact Nat.lt_of_lt_of_le known (Nat.le_add_right _ _)
    have last : lastFilled? id (operation :: rest) = (lastFilled? id rest).or (operation.filled? id) := by
      rw [lastFilled?, lastFilled?, List.filterMap_cons]
      cases operation.filled? id with
      | none => simp
      | some target => simp [List.getLast?_cons]
    rw [run, List.foldl_cons, ← run, ih still, get?_apply known, Option.map_map, last]
    simp only [Function.comp_def, Option.or_assoc]

theorem target?_run (name : String) (target : Option SymbolTarget) (table : SymbolTable) (later : List Operation) :
    ((table.insert name target).run later).target? table.next = (lastFilled? table.next later).or target := by
  have known : table.next < (table.insert name target).next := by
    rw [next_names, next_names, names_insert]
    simp
  rw [target?, get?_run known, get?_insert, if_pos rfl]
  rfl

end Runs

-- After any run the numbers of the symbols are those from zero on, in the order in which they were added. A symbol keeps
-- its name, and its target is the one filled in last, or the one it was added with when none was. A name leads to its
-- newest symbol. A target for a number that no symbol has changes nothing.
theorem run_laws (operations : List Operation) :
    let table := empty.run operations
    empty.issued operations = List.range table.next ∧ table.names = addedNames operations ∧
      (∀ id, (table.get? id).map (·.name) = table.names[id]?) ∧
      (∀ later, table.names <+: (table.run later).names) ∧
      (∀ name id, table.lookup name = some id ↔ IsGreatest {id | table.names[id]? = some name} id) ∧
      (∀ name, table.lookup name = none ↔ name ∉ table.names) ∧
      (∀ name target later, ((table.insert name target).run later).target? table.next =
        (lastFilled? table.next later).or target) ∧
      ∀ id, table.get? id = none → table.target? id = none ∧ ∀ target, table.setTarget id target = table := by
  intro table
  have names : table.names = addedNames operations := names_run empty operations
  have finds : table.FindsNewest := run_findsNewest empty_findsNewest operations
  refine ⟨?_, names, fun id => (names_getElem? table id).symm, fun later => ?_, finds.found, finds.missed,
    fun name target later => target?_run name target table later, fun id unknown => ⟨?_, setTarget_unknown unknown⟩⟩
  · rw [issued_range, next_names table, names, List.range_eq_range']
    rfl
  · exact ⟨_, (names_run table later).symm⟩
  · rw [target?, unknown]
    rfl

end WireSchema.SymbolTable

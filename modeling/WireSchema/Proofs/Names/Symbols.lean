import WireSchema.SymbolTable

-- The operations of a symbol table through what they do to lookups, and the tables in which no name has
-- two symbols.
namespace WireSchema.SymbolTable
variable {table : SymbolTable}

theorem lookup_insert (name : String) (target : Option SymbolTarget) (table : SymbolTable) (wanted : String) :
    (table.insert name target).lookup wanted = if name = wanted then some table.next else table.lookup wanted := by
  by_cases same : name = wanted <;> simp [lookup, insert, same]

theorem lookup_setTarget (id : SymbolId) (target : SymbolTarget) (table : SymbolTable) (wanted : String) :
    (table.setTarget id target).lookup wanted = table.lookup wanted := rfl

theorem get?_insert (name : String) (target : Option SymbolTarget) (table : SymbolTable) (id : SymbolId) :
    (table.insert name target).get? id = if id = table.next then some ⟨name, target⟩ else table.get? id := by
  by_cases last : id = table.next
  · subst last
    simp [get?, insert, next]
  · rw [if_neg last]
    simp only [get?, insert]
    rcases Nat.lt_or_gt_of_ne last with old | beyond
    · rw [List.getElem?_append_left old]
    · have outside : table.symbols.length < id := beyond
      rw [List.getElem?_eq_none (by simp; omega), List.getElem?_eq_none (by omega)]

theorem get?_setTarget (slot : SymbolId) (target : SymbolTarget) (table : SymbolTable) (id : SymbolId) :
    (table.setTarget slot target).get? id =
      (table.get? id).map fun symbol => if slot = id then { symbol with target := some target } else symbol := by
  simp only [get?, setTarget, List.getElem?_modify]
  cases table.symbols[id]? <;> rfl

def names (table : SymbolTable) : List String := table.symbols.map (·.name)

theorem names_getElem? (table : SymbolTable) (id : SymbolId) : table.names[id]? = (table.get? id).map (·.name) :=
  List.getElem?_map

theorem names_insert (name : String) (target : Option SymbolTarget) (table : SymbolTable) :
    (table.insert name target).names = table.names ++ [name] := List.map_append

theorem names_setTarget (slot : SymbolId) (target : SymbolTarget) (table : SymbolTable) :
    (table.setTarget slot target).names = table.names := by
  refine List.ext_getElem? fun id => ?_
  rw [names_getElem?, names_getElem?, get?_setTarget, Option.map_map]
  congr 1
  funext symbol
  dsimp only [Function.comp]
  split <;> rfl

theorem get?_lt {id : SymbolId} {symbol : Symbol} (found : table.get? id = some symbol) : id < table.next :=
  (List.getElem?_eq_some_iff.mp found).1

theorem ext_get? {a b : SymbolTable} (symbols : ∀ id, a.get? id = b.get? id) (index : a.index = b.index) : a = b := by
  obtain ⟨_, _⟩ := a
  obtain rfl := index
  exact congrArg (SymbolTable.mk · _) (List.ext_getElem? symbols)

structure Exact (table : SymbolTable) : Prop where
  distinct : (table.symbols.map (·.name)).Nodup
  exact : ∀ name id, table.lookup name = some id ↔ ∃ symbol, table.get? id = some symbol ∧ symbol.name = name

theorem empty_exact : empty.Exact := ⟨by simp [empty], by simp [empty, lookup, get?]⟩

theorem Exact.named (valid : table.Exact) {name : String} {id : SymbolId} (found : table.lookup name = some id) :
    ∃ target, table.get? id = some ⟨name, target⟩ := by
  obtain ⟨⟨_, target⟩, at_id, rfl⟩ := (valid.exact name id).mp found
  exact ⟨target, at_id⟩

theorem Exact.lookup_symbol (valid : table.Exact) {id : SymbolId} {symbol : Symbol}
    (found : table.get? id = some symbol) : table.lookup symbol.name = some id :=
  (valid.exact _ _).mpr ⟨symbol, found, rfl⟩

theorem Exact.insert (valid : table.Exact) {name : String} (fresh : table.lookup name = none)
    (target : Option SymbolTarget) : (table.insert name target).Exact := by
  refine ⟨?_, fun wanted id => ?_⟩
  · have absent : name ∉ table.symbols.map (·.name) := by
      intro member
      obtain ⟨symbol, inside, same⟩ := List.mem_map.mp member
      obtain ⟨id, found⟩ := List.getElem?_of_mem inside
      have known := valid.lookup_symbol found
      rw [same, fresh] at known
      cases known
    have lone : ∀ a ∈ table.symbols.map (·.name), a ≠ name := fun a member same => absent (same ▸ member)
    simpa [SymbolTable.insert, List.nodup_append, valid.distinct] using lone
  · rw [lookup_insert, get?_insert]
    by_cases new : name = wanted
    · subst new
      constructor
      · intro found
        have same : table.next = id := by simpa using found
        exact ⟨⟨name, target⟩, by simp [same], rfl⟩
      · rintro ⟨symbol, found, same⟩
        split at found
        · rename_i last
          simp [last]
        · have known := valid.lookup_symbol found
          rw [same, fresh] at known
          cases known
    · rw [if_neg new, valid.exact]
      constructor
      · rintro ⟨symbol, found, same⟩
        have old := Nat.ne_of_lt (get?_lt found)
        exact ⟨symbol, by rw [if_neg old]; exact found, same⟩
      · rintro ⟨symbol, found, same⟩
        split at found
        · cases Option.some.inj found
          exact absurd same new
        · exact ⟨symbol, found, same⟩

theorem Exact.setTarget (valid : table.Exact) (slot : SymbolId) (target : SymbolTarget) :
    (table.setTarget slot target).Exact := by
  have distinct : (table.setTarget slot target).names.Nodup := by
    rw [names_setTarget]
    exact valid.distinct
  refine ⟨distinct, fun name id => ?_⟩
  rw [lookup_setTarget, valid.exact, get?_setTarget]
  constructor
  · rintro ⟨symbol, found, same⟩
    refine ⟨_, by rw [found]; rfl, ?_⟩
    split <;> exact same
  · rintro ⟨symbol, found, same⟩
    obtain ⟨old, at_id, rfl⟩ := Option.map_eq_some_iff.mp found
    refine ⟨old, at_id, ?_⟩
    split at same <;> exact same

end WireSchema.SymbolTable

import WireSchema.Binding
import WireSchema.Proofs.Grammar.Mentions
import WireSchema.Proofs.Names.Symbols

-- Giving names their symbols, item after item. The invariant says what the table of symbols is in terms of
-- the declarations so far alone, so that it does not matter whether a name is used or declared first.
namespace WireSchema
open Grammar

namespace Declaration
variable {σ : Type}

def declares (name : String) (d : Declaration σ) : Bool := d.isType && d.name = name

def ownTarget? (name : String) (declarations : List (Declaration σ)) : Option SymbolTarget :=
  (declarations.findIdx? (declares name)).map .declaration

theorem declares_iff {name : String} {d : Declaration σ} :
    d.declares name = true ↔ d.isType = true ∧ d.name = name := by
  simp [declares]

theorem ownTarget?_eq_none {name : String} {declarations : List (Declaration σ)} :
    ownTarget? name declarations = none ↔ ∀ d ∈ declarations, d.declares name = false := by
  rw [ownTarget?, Option.map_eq_none_iff, List.findIdx?_eq_none_iff]

theorem ownTarget?_append (name : String) (declarations : List (Declaration σ)) (d : Declaration σ) :
    ownTarget? name (declarations ++ [d]) = (ownTarget? name declarations).or
      (if d.declares name then some (.declaration declarations.length) else none) := by
  cases here : d.declares name <;> cases before : declarations.findIdx? (declares name) <;>
    simp [ownTarget?, List.findIdx?_append, before, here]

theorem ownTarget?_index {name : String} {declarations : List (Declaration σ)} {target : SymbolTarget}
    (found : ownTarget? name declarations = some target) :
    ∃ index d, target = .declaration index ∧ declarations[index]? = some d ∧ d.declares name = true ∧
      declarations.find? (declares name) = some d := by
  obtain ⟨index, first, rfl⟩ := Option.map_eq_some_iff.mp found
  obtain ⟨inside, holds, _⟩ := List.findIdx?_eq_some_iff_getElem.mp first
  refine ⟨index, declarations[index], rfl, List.getElem?_eq_getElem inside, holds, ?_⟩
  rw [List.find?_eq_bind_findIdx?_getElem?, first, Option.bind_some, List.getElem?_eq_getElem inside]

end Declaration

open Declaration

def SymbolTable.Binds (table : SymbolTable) (d : Declaration SymbolId) : Prop :=
  ∀ r ∈ d.references, r = .ofName r.text r.symbol ∧ table.lookup r.text = some r.symbol

theorem SymbolTable.Binds.mono {table later : SymbolTable} {d : Declaration SymbolId} (binds : table.Binds d)
    (keeps : ∀ name id, table.lookup name = some id → later.lookup name = some id) : later.Binds d := by
  intro r inside
  obtain ⟨written, known⟩ := binds r inside
  exact ⟨written, keeps _ _ known⟩

namespace Scope
variable {s : Scope}

-- The symbols are those of the declared names and of the references; every target is the first declaration
-- of its name, and a symbol without one waits among the placeholders.
structure Valid (s : Scope) : Prop where
  exact : s.symbols.Exact
  names : ∀ id symbol, s.symbols.get? id = some symbol → IsTypeName symbol.name
  targets : ∀ id symbol, s.symbols.get? id = some symbol → symbol.target = ownTarget? symbol.name s.declarations
  declared : ∀ d ∈ s.declarations, d.isType = true → d.name ≠ "" → (s.symbols.lookup d.name).isSome
  plain : ∀ d ∈ s.declarations, d.isType = true → d.name = "" ∨ IsName d.name
  references : ∀ d ∈ s.declarations, s.symbols.Binds d
  waiting : ∀ id symbol, s.symbols.get? id = some symbol → symbol.target = none →
    ∃ p ∈ s.placeholders, p.symbol = id

theorem empty_valid : empty.Valid := by
  refine ⟨SymbolTable.empty_exact, ?_, ?_, ?_, ?_, ?_, ?_⟩ <;> simp [empty, SymbolTable.empty, SymbolTable.get?]

theorem Valid.undeclared (valid : s.Valid) {name : String} (nonempty : name ≠ "")
    (fresh : s.symbols.lookup name = none) : ownTarget? name s.declarations = none := by
  rw [ownTarget?_eq_none]
  intro d member
  cases here : d.declares name with
  | false => rfl
  | true =>
    obtain ⟨isType, rfl⟩ := declares_iff.mp here
    have known := valid.declared d member isType nonempty
    simp [fresh] at known

theorem mention_lookup (m : Mention) (s : Scope) : ((s.mention m).symbols.lookup m.name).isSome := by
  unfold mention
  cases known : s.symbols.lookup m.name with
  | some id => simp [known]
  | none => simp [SymbolTable.lookup_insert]

theorem mention_keeps {name : String} {id : SymbolId} (m : Mention) (known : s.symbols.lookup name = some id) :
    (s.mention m).symbols.lookup name = some id := by
  unfold mention
  cases first : s.symbols.lookup m.name with
  | some other => exact known
  | none =>
    have other : m.name ≠ name := fun same => by
      rw [same, known] at first
      cases first
    simp [SymbolTable.lookup_insert, other, known]

theorem mention_declarations (m : Mention) (s : Scope) : (s.mention m).declarations = s.declarations := by
  unfold mention
  split <;> rfl

theorem Valid.mention (valid : s.Valid) {m : Mention} (isTypeName : IsTypeName m.name) : (s.mention m).Valid := by
  cases first : s.symbols.lookup m.name with
  | some id => simpa [Scope.mention, first] using valid
  | none =>
    have step : s.mention m = { s with
        symbols := s.symbols.insert m.name none
        placeholders := s.placeholders ++ [⟨s.symbols.next, m.position⟩] } := by
      simp [Scope.mention, first]
    have keeps : ∀ {name id}, s.symbols.lookup name = some id →
        (s.symbols.insert m.name none).lookup name = some id := fun known => by
      simpa [step] using mention_keeps m known
    rw [step]
    refine ⟨valid.exact.insert first none, ?_, ?_, ?_, valid.plain, ?_, ?_⟩
    · intro id symbol found
      rw [SymbolTable.get?_insert] at found
      split at found
      · cases found
        exact isTypeName
      · exact valid.names id symbol found
    · intro id symbol found
      rw [SymbolTable.get?_insert] at found
      split at found
      · cases found
        exact (valid.undeclared isTypeName.nonempty first).symm
      · exact valid.targets id symbol found
    · intro d member isType nonempty
      obtain ⟨id, known⟩ := Option.isSome_iff_exists.mp (valid.declared d member isType nonempty)
      exact Option.isSome_iff_exists.mpr ⟨id, keeps known⟩
    · intro d member
      exact (valid.references d member).mono fun _ _ known => keeps known
    · intro id symbol found isOpen
      rw [SymbolTable.get?_insert] at found
      split at found
      · rename_i last
        exact ⟨⟨s.symbols.next, m.position⟩, by simp, last.symm⟩
      · obtain ⟨p, member, same⟩ := valid.waiting id symbol found isOpen
        exact ⟨p, by simp [member], same⟩

-- What a table has to do for one more declaration: no name loses its symbol, and no symbol is opened.
theorem Valid.extend (valid : s.Valid) {d : Declaration SymbolId} {table : SymbolTable} {problems : Problems}
    (exact : table.Exact)
    (keeps : ∀ name id, s.symbols.lookup name = some id → table.lookup name = some id)
    (names : ∀ id symbol, table.get? id = some symbol → IsTypeName symbol.name)
    (targets : ∀ id symbol, table.get? id = some symbol →
      symbol.target = ownTarget? symbol.name (s.declarations ++ [d]))
    (declared : d.isType = true → d.name ≠ "" → (table.lookup d.name).isSome)
    (plain : d.isType = true → d.name = "" ∨ IsName d.name)
    (references : s.symbols.Binds d)
    (still : ∀ id symbol, table.get? id = some symbol → symbol.target = none → s.symbols.get? id = some symbol) :
    Valid ⟨s.declarations ++ [d], table, s.placeholders, problems⟩ := by
  refine ⟨exact, names, targets, ?_, ?_, ?_, ?_⟩
  · intro other member isType nonempty
    rcases List.mem_append.mp member with old | new
    · obtain ⟨id, known⟩ := Option.isSome_iff_exists.mp (valid.declared other old isType nonempty)
      exact Option.isSome_iff_exists.mpr ⟨id, keeps _ _ known⟩
    · cases List.mem_singleton.mp new
      exact declared isType nonempty
  · intro other member isType
    rcases List.mem_append.mp member with old | new
    · exact valid.plain other old isType
    · cases List.mem_singleton.mp new
      exact plain isType
  · intro other member
    rcases List.mem_append.mp member with old | new
    · exact (valid.references other old).mono keeps
    · cases List.mem_singleton.mp new
      exact references.mono keeps
  · intro id symbol found isOpen
    exact valid.waiting id symbol (still id symbol found isOpen) isOpen

theorem ownTarget?_other {name : String} {d : Declaration SymbolId} (declarations : List (Declaration SymbolId))
    (other : d.declares name = false) : ownTarget? name (declarations ++ [d]) = ownTarget? name declarations := by
  simp [ownTarget?_append, other]

theorem Valid.declare_unregistered (valid : s.Valid) {d : Declaration SymbolId} {problems : Problems}
    (unregistered : ∀ name, name ≠ "" → d.declares name = false)
    (references : s.symbols.Binds d) :
    Valid ⟨s.declarations ++ [d], s.symbols, s.placeholders, problems⟩ := by
  have nameless : d.isType = true → d.name = "" := fun isType => by
    by_cases empty : d.name = ""
    · exact empty
    · have here := unregistered d.name empty
      simp [declares, isType] at here
  refine valid.extend valid.exact (fun _ _ known => known) valid.names ?_ ?_ (fun isType => .inl (nameless isType))
    references fun _ _ found _ => found
  · intro id symbol found
    rw [ownTarget?_other _ (unregistered _ (valid.names id symbol found).nonempty)]
    exact valid.targets id symbol found
  · intro isType nonempty
    exact absurd (nameless isType) nonempty

section Registration
variable {d : Declaration SymbolId} {problems : Problems}

theorem declares_own (isType : d.isType = true) : d.declares d.name = true := by simp [declares, isType]

theorem declares_elsewhere {name : String} (other : name ≠ d.name) : d.declares name = false := by
  simp [declares, Ne.symm other]

theorem Valid.declare_new (valid : s.Valid) (isType : d.isType = true) (isName : IsName d.name)
    (references : s.symbols.Binds d)
    (fresh : s.symbols.lookup d.name = none) :
    Valid ⟨s.declarations ++ [d], s.symbols.insert d.name (some (.declaration s.declarations.length)),
      s.placeholders, problems⟩ := by
  have first : ownTarget? d.name (s.declarations ++ [d]) = some (.declaration s.declarations.length) := by
    rw [ownTarget?_append, valid.undeclared isName.nonempty fresh]
    simp [declares_own isType]
  refine valid.extend (valid.exact.insert fresh _) ?_ ?_ ?_ ?_ (fun _ => .inr isName) references ?_
  · intro name id old
    have other : d.name ≠ name := fun same => by
      rw [same, old] at fresh
      cases fresh
    simp [SymbolTable.lookup_insert, other, old]
  · intro id symbol found
    rw [SymbolTable.get?_insert] at found
    split at found
    · cases found
      exact .plain isName
    · exact valid.names id symbol found
  · intro id symbol found
    rw [SymbolTable.get?_insert] at found
    split at found
    · cases found
      exact first.symm
    · have other : symbol.name ≠ d.name := fun same => by
        have old := valid.exact.lookup_symbol found
        rw [same, fresh] at old
        cases old
      rw [ownTarget?_other _ (declares_elsewhere other)]
      exact valid.targets id symbol found
  · intro _ _
    simp [SymbolTable.lookup_insert]
  · intro id symbol found isOpen
    rw [SymbolTable.get?_insert] at found
    split at found
    · cases found
      cases isOpen
    · exact found

theorem Valid.declare_open (valid : s.Valid) (isType : d.isType = true) (isName : IsName d.name)
    (references : s.symbols.Binds d)
    {slot : SymbolId} (known : s.symbols.lookup d.name = some slot) (isOpen : s.symbols.target? slot = none) :
    Valid ⟨s.declarations ++ [d], s.symbols.setTarget slot (.declaration s.declarations.length),
      s.placeholders, problems⟩ := by
  obtain ⟨target, atSlot⟩ := valid.exact.named known
  have open_ : target = none := by simpa [SymbolTable.target?, atSlot] using isOpen
  subst open_
  have undeclared := (valid.targets slot _ atSlot).symm
  have first : ownTarget? d.name (s.declarations ++ [d]) = some (.declaration s.declarations.length) := by
    rw [ownTarget?_append, undeclared]
    simp [declares_own isType]
  refine valid.extend (valid.exact.setTarget slot _) (fun _ _ old => old) ?_ ?_ ?_ (fun _ => .inr isName) references ?_
  · intro id symbol found
    rw [SymbolTable.get?_setTarget] at found
    obtain ⟨old, atId, rfl⟩ := Option.map_eq_some_iff.mp found
    have name := valid.names id old atId
    split <;> exact name
  · intro id symbol found
    rw [SymbolTable.get?_setTarget] at found
    obtain ⟨old, atId, rfl⟩ := Option.map_eq_some_iff.mp found
    by_cases here : slot = id
    · subst here
      rw [atSlot] at atId
      cases atId
      simp [first]
    · have other : old.name ≠ d.name := fun same => by
        have found := valid.exact.lookup_symbol atId
        rw [same, known] at found
        exact here (Option.some.inj found)
      rw [if_neg here, ownTarget?_other _ (declares_elsewhere other)]
      exact valid.targets id old atId
  · intro _ _
    simp [SymbolTable.lookup_setTarget, known]
  · intro id symbol found isOpen
    rw [SymbolTable.get?_setTarget] at found
    obtain ⟨old, atId, rfl⟩ := Option.map_eq_some_iff.mp found
    split at isOpen
    · cases isOpen
    · rename_i other
      rw [if_neg other]
      exact atId

theorem Valid.declare_again (valid : s.Valid) (isName : IsName d.name)
    (references : s.symbols.Binds d)
    {slot : SymbolId} {target : SymbolTarget} (known : s.symbols.lookup d.name = some slot)
    (taken : s.symbols.target? slot = some target) :
    Valid ⟨s.declarations ++ [d], s.symbols, s.placeholders, problems⟩ := by
  obtain ⟨held, atSlot⟩ := valid.exact.named known
  have same : held = some target := by simpa [SymbolTable.target?, atSlot] using taken
  subst same
  have earlier := valid.targets slot _ atSlot
  refine valid.extend valid.exact (fun _ _ old => old) valid.names ?_ ?_ (fun _ => .inr isName) references
    fun _ _ found _ => found
  · intro id symbol found
    by_cases here : symbol.name = d.name
    · have found' := valid.targets id symbol found
      rw [here, ← earlier] at found'
      rw [here, ownTarget?_append, ← earlier, found', Option.some_or]
    · rw [ownTarget?_other _ (declares_elsewhere here)]
      exact valid.targets id symbol found
  · intro _ _
    simp [known]

theorem Valid.declare_registered (valid : s.Valid) (isType : d.isType = true) (isName : IsName d.name)
    (references : s.symbols.Binds d) :
    Valid { s.register d.name s.declarations.length d.position with declarations := s.declarations ++ [d] } := by
  unfold register
  split
  · rename_i fresh
    exact valid.declare_new isType isName references fresh
  · rename_i slot known
    split
    · rename_i isOpen
      exact valid.declare_open isType isName references known isOpen
    · rename_i first taken
      exact valid.declare_again isName references known taken
    · rename_i package taken
      exact valid.declare_again isName references known taken

end Registration

theorem bound_references {table : SymbolTable} {d : Declaration Unit}
    (known : ∀ r ∈ d.references, ∃ name, r = .ofName name () ∧ (table.lookup name).isSome) :
    table.Binds (d.withSymbols (symbolOf table)) := by
  intro r member
  rw [references_withSymbols] at member
  obtain ⟨reference, inside, rfl⟩ := List.mem_map.mp member
  obtain ⟨name, rfl, hasSymbol⟩ := known reference inside
  obtain ⟨id, found⟩ := Option.isSome_iff_exists.mp hasSymbol
  have symbol : symbolOf table (.ofName name ()) = id := by simp [symbolOf, Reference.ofName_text, found]
  rw [symbol, Reference.ofName_withSymbol, Reference.ofName_text, Reference.ofName_symbol]
  exact ⟨rfl, found⟩

theorem Valid.declare (valid : s.Valid) {d : Declaration Unit}
    (known : ∀ r ∈ d.references, ∃ name, r = .ofName name () ∧ (s.symbols.lookup name).isSome)
    (declared : d.isType = true → d.name = "" ∨ IsName d.name) : (s.declare d).Valid := by
  have references := bound_references known
  unfold Scope.declare
  by_cases registers : d.isType && !d.name.isEmpty
  · obtain ⟨isType, named⟩ := Bool.and_eq_true_iff.mp registers
    have nonempty : d.name ≠ "" := by simpa using named
    have isName := (declared isType).resolve_left nonempty
    have registered := valid.declare_registered (d := d.withSymbols (symbolOf s.symbols)) (by simpa using isType)
      (by simpa using isName) references
    simpa [registers] using registered
  · have unregistered : ∀ name, name ≠ "" → (d.withSymbols (symbolOf s.symbols)).declares name = false := by
      intro name nonempty
      cases isType : d.isType with
      | false => simp [declares, isType]
      | true =>
        have nameless : d.name = "" := by simpa [isType] using registers
        simp [declares, nameless, Ne.symm nonempty]
    simpa [registers] using valid.declare_unregistered unregistered references

theorem Valid.reported (valid : s.Valid) (problems : Problems) : Valid { s with problems := problems } :=
  ⟨valid.exact, valid.names, valid.targets, valid.declared, valid.plain, valid.references, valid.waiting⟩

theorem Valid.mentions (valid : s.Valid) {mentions : List Mention} (names : ∀ m ∈ mentions, IsTypeName m.name) :
    (mentions.foldl (fun s m => s.mention m) s).Valid ∧
      (∀ name id, s.symbols.lookup name = some id →
        (mentions.foldl (fun s m => s.mention m) s).symbols.lookup name = some id) ∧
      ∀ m ∈ mentions, ((mentions.foldl (fun s m => s.mention m) s).symbols.lookup m.name).isSome := by
  induction mentions generalizing s with
  | nil => exact ⟨valid, fun _ _ known => known, by simp⟩
  | cons m rest ih =>
    obtain ⟨later, keeps, known⟩ := ih (valid.mention (names m List.mem_cons_self))
      fun n member => names n (List.mem_cons_of_mem _ member)
    refine ⟨later, fun name id old => keeps name id (mention_keeps m old), fun n member => ?_⟩
    rcases List.mem_cons.mp member with rfl | inRest
    · obtain ⟨id, found⟩ := Option.isSome_iff_exists.mp (mention_lookup n s)
      exact Option.isSome_iff_exists.mpr ⟨id, keeps _ _ found⟩
    · exact known n inRest

theorem Valid.item (valid : s.Valid) {step : Step (Option (Declaration Unit))} (named : Named step) :
    (s.item step).Valid := by
  obtain ⟨mentioned, _, known⟩ := valid.mentions named.typeNames
  unfold Scope.item
  cases value : step.value with
  | none => exact mentioned.reported _
  | some d =>
    refine (mentioned.reported _).declare (fun r inside => ?_) (named.declared d value)
    obtain ⟨m, member, same⟩ := List.mem_map.mp (named.mentioned d value r inside)
    exact ⟨m.name, same.symm, known m member⟩

theorem ofItems_valid {items : List (Step (Option (Declaration Unit)))} (named : ∀ step ∈ items, Named step) :
    (ofItems items).Valid := by
  suffices run : ∀ s : Scope, s.Valid → (items.foldl Scope.item s).Valid from run _ empty_valid
  induction items with
  | nil => exact fun s valid => valid
  | cons step rest ih =>
    exact fun s valid => ih (fun later member => named later (List.mem_cons_of_mem _ member)) _
      (valid.item (named step List.mem_cons_self))

end Scope
end WireSchema

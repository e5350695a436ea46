import WireSchema.Binding
import WireSchema.Proofs.Names.Scope

-- What is left open when a file has been read goes to an import or is undefined. Placeholders may come in
-- any order and more than once; settling one never changes what another one becomes.
namespace WireSchema
open Grammar Text

namespace SourceFile
variable {file : SourceFile}

-- What becomes of a symbol: a target is kept, and an open one is that of the import the name belongs to.
def settled (file : SourceFile) (symbol : Symbol) : Symbol :=
  ⟨symbol.name, symbol.target.or ((file.importOf? symbol.name).map .imported)⟩

def undefined (file : SourceFile) (p : Placeholder) : Problems :=
  match file.symbols.get? p.symbol with
  | some symbol => if (file.settled symbol).target.isNone then [⟨p.position, .undefinedType symbol.name⟩] else []
  | none => []

theorem settled_settled (file : SourceFile) (symbol : Symbol) :
    file.settled (file.settled symbol) = file.settled symbol := by
  cases target : symbol.target <;> simp [settled, target]

theorem settle_file (file : SourceFile) (p : Placeholder) :
    ∃ symbols, (file.settle p).1 = { file with symbols := symbols } := by
  unfold settle
  split
  · split <;> exact ⟨_, rfl⟩
  · exact ⟨_, rfl⟩

theorem settle_lookup (file : SourceFile) (p : Placeholder) (name : String) :
    (file.settle p).1.symbols.lookup name = file.symbols.lookup name := by
  unfold settle
  split
  · split <;> rfl
  · rfl

theorem settle_exact (valid : file.symbols.Exact) (p : Placeholder) : (file.settle p).1.symbols.Exact := by
  unfold settle
  split
  · split
    · exact valid.setTarget _ _
    · exact valid
  · exact valid

theorem settle_get? (file : SourceFile) (p : Placeholder) (id : SymbolId) :
    (file.settle p).1.symbols.get? id =
      (file.symbols.get? id).map fun symbol => if id = p.symbol then file.settled symbol else symbol := by
  unfold settle
  split
  · rename_i name found
    split
    · rename_i package known
      rw [SymbolTable.get?_setTarget]
      by_cases here : id = p.symbol
      · subst here
        simp [found, settled, known]
      · simp [here, Ne.symm here]
    · rename_i unknown
      by_cases here : id = p.symbol
      · subst here
        simp [found, settled, unknown]
      · simp [here]
  · rename_i closed
    by_cases here : id = p.symbol
    · subst here
      cases found : file.symbols.get? p.symbol with
      | none => rfl
      | some symbol =>
        obtain ⟨name, target⟩ := symbol
        cases target with
        | none => exact absurd found (closed name)
        | some target => simp [settled]
    · simp [here]

theorem settle_problems (file : SourceFile) (p : Placeholder) : (file.settle p).2 = file.undefined p := by
  unfold settle undefined
  cases found : file.symbols.get? p.symbol with
  | none => rfl
  | some symbol =>
    obtain ⟨name, target⟩ := symbol
    cases target with
    | some target => simp [settled]
    | none => cases known : file.importOf? name <;> simp [settled, known]

theorem settle_imports (file : SourceFile) (p : Placeholder) : (file.settle p).1.imports = file.imports := by
  obtain ⟨symbols, same⟩ := settle_file file p
  rw [same]

theorem settle_settled (file : SourceFile) (p : Placeholder) : (file.settle p).1.settled = file.settled := by
  funext symbol
  simp [settled, importOf?, settle_imports]

theorem settle_undefined (file : SourceFile) (p : Placeholder) : (file.settle p).1.undefined = file.undefined := by
  funext q
  unfold undefined
  rw [settle_get?, settle_settled]
  cases found : file.symbols.get? q.symbol with
  | none => rfl
  | some symbol =>
    by_cases same : q.symbol = p.symbol
    · simp only [same, if_true, Option.map_some, settled_settled]
      rfl
    · simp [same]

theorem resolve_file (file : SourceFile) (placeholders : List Placeholder) :
    ∃ symbols, (file.resolve placeholders).1 = { file with symbols := symbols } := by
  induction placeholders generalizing file with
  | nil => exact ⟨_, rfl⟩
  | cons p rest ih =>
    obtain ⟨_, first⟩ := settle_file file p
    obtain ⟨symbols, later⟩ := ih (file.settle p).1
    exact ⟨symbols, by rw [resolve, later, first]⟩

theorem resolve_lookup (file : SourceFile) (placeholders : List Placeholder) (name : String) :
    (file.resolve placeholders).1.symbols.lookup name = file.symbols.lookup name := by
  induction placeholders generalizing file with
  | nil => rfl
  | cons p rest ih => exact (ih (file.settle p).1).trans (settle_lookup file p name)

theorem resolve_exact (valid : file.symbols.Exact) (placeholders : List Placeholder) :
    (file.resolve placeholders).1.symbols.Exact := by
  induction placeholders generalizing file with
  | nil => exact valid
  | cons p rest ih => exact ih (settle_exact valid p)

theorem resolve_get? (file : SourceFile) (placeholders : List Placeholder) (id : SymbolId) :
    (file.resolve placeholders).1.symbols.get? id = (file.symbols.get? id).map fun symbol =>
      if id ∈ placeholders.map (·.symbol) then file.settled symbol else symbol := by
  induction placeholders generalizing file with
  | nil => simp [resolve]
  | cons p rest ih =>
    rw [resolve]
    dsimp only
    rw [ih, settle_get?, settle_settled, Option.map_map]
    congr 1
    funext symbol
    by_cases here : id = p.symbol <;> by_cases later : id ∈ rest.map (·.symbol) <;>
      simp [here, later, settled_settled]

theorem resolve_problems (file : SourceFile) (placeholders : List Placeholder) :
    (file.resolve placeholders).2 = placeholders.flatMap file.undefined := by
  induction placeholders generalizing file with
  | nil => rfl
  | cons p rest ih =>
    rw [resolve]
    dsimp only
    rw [ih, settle_problems, settle_undefined, List.flatMap_cons]

end SourceFile

theorem SourceFile.bound_valid (name : String) (source : List UInt8) :
    ∃ scope : Scope, scope.Valid ∧ (bound name source).file.declarations = scope.declarations ∧
      (bound name source).file.symbols = scope.symbols ∧ (bound name source).placeholders = scope.placeholders :=
  ⟨_, Scope.ofItems_valid (outline_named (Tape.ofSource_proper _ _ _)), rfl, rfl, rfl⟩

theorem SourceFile.understand_symbols (name : String) (source : List UInt8) (id : SymbolId) :
    (understand name source).1.symbols.get? id =
      ((bound name source).file.symbols.get? id).map (bound name source).file.settled := by
  obtain ⟨scope, valid, _, symbols, placeholders⟩ := bound_valid name source
  rw [understand]
  dsimp only
  rw [resolve_get?]
  cases found : (bound name source).file.symbols.get? id with
  | none => rfl
  | some symbol =>
    rw [Option.map_some, Option.map_some, Option.some_inj]
    split
    · rfl
    · rename_i absent
      obtain ⟨written, target⟩ := symbol
      cases target with
      | some target => simp [settled]
      | none =>
        rw [symbols] at found
        obtain ⟨p, member, same⟩ := valid.waiting id _ found rfl
        exact absurd (List.mem_map.mpr ⟨p, placeholders ▸ member, same⟩) absent

theorem importOf?_plain {name : String} (pointless : '.' ∉ name.toList) (file : SourceFile) :
    file.importOf? name = none := by
  simp [SourceFile.importOf?, cut?_eq_none.mpr pointless]

theorem importOf?_qualified {package : String} (pointless : '.' ∉ package.toList) (name : String) (file : SourceFile) :
    file.importOf? (package ++ "." ++ name) = if file.imports.contains package then some package else none := by
  simp only [SourceFile.importOf?, cut?_qualified pointless, String.ofList_toList]

-- An import belongs to a name by the part in front of the first point.
structure SourceFile.Belongs (file : SourceFile) (name package : String) : Prop where
  known : file.imports.contains package = true
  pointless : '.' ∉ package.toList
  front : ∃ type, name = package ++ "." ++ type

theorem importOf?_eq_some {file : SourceFile} {name package : String} :
    file.importOf? name = some package ↔ file.Belongs name package := by
  constructor
  · intro found
    unfold SourceFile.importOf? at found
    split at found
    · rename_i before after cut
      obtain ⟨spelled, pointless⟩ := cut?_eq_some.mp cut
      split at found
      · rename_i known
        cases found
        refine ⟨known, by simpa using pointless, .ofList after, ?_⟩
        rw [← String.toList_inj, spelled]
        simp
      · cases found
    · cases found
  · rintro ⟨known, pointless, type, rfl⟩
    rw [importOf?_qualified pointless, if_pos known]

-- A file in which the symbols are what the declarations and the imports make of their names.
structure SourceFile.Resolved (file : SourceFile) : Prop where
  exact : file.symbols.Exact
  plain : ∀ d ∈ file.declarations, d.isType = true → d.name = "" ∨ IsName d.name
  references : ∀ d ∈ file.declarations, file.symbols.Binds d
  targets : ∀ id symbol, file.symbols.get? id = some symbol → symbol.target =
    (Declaration.ownTarget? symbol.name file.declarations).or ((file.importOf? symbol.name).map .imported)

theorem SourceFile.understand_resolved (name : String) (source : List UInt8) : (understand name source).1.Resolved := by
  obtain ⟨scope, valid, declarations, symbols, _⟩ := bound_valid name source
  obtain ⟨table, file⟩ := resolve_file (bound name source).file (bound name source).placeholders
  have sameDeclarations : (understand name source).1.declarations = scope.declarations := by
    rw [understand]
    dsimp only
    rw [file, declarations]
  have sameImports : ∀ written,
      (understand name source).1.importOf? written = (bound name source).file.importOf? written := fun written => by
    rw [understand]
    dsimp only
    rw [file]
    rfl
  have sameLookup : ∀ written, (understand name source).1.symbols.lookup written = scope.symbols.lookup written :=
    fun written => by rw [← symbols]; exact resolve_lookup _ _ written
  have isSettled : ∀ id symbol, (understand name source).1.symbols.get? id = some symbol →
      ∃ before, scope.symbols.get? id = some before ∧ symbol = (bound name source).file.settled before := by
    intro id symbol found
    rw [understand_symbols, symbols, Option.map_eq_some_iff] at found
    obtain ⟨before, atId, rfl⟩ := found
    exact ⟨before, atId, rfl⟩
  refine ⟨?_, ?_, ?_, ?_⟩
  · exact resolve_exact (symbols ▸ valid.exact) _
  · rw [sameDeclarations]
    exact valid.plain
  · rw [sameDeclarations]
    intro d member
    exact (valid.references d member).mono fun _ _ known => (sameLookup _).trans known
  · intro id symbol found
    obtain ⟨before, atId, rfl⟩ := isSettled id symbol found
    rw [sameDeclarations, sameImports]
    change before.target.or _ = _
    rw [valid.targets id before atId]
    rfl

namespace SourceFile.Resolved
variable {file : SourceFile}

theorem reference_symbol (resolved : file.Resolved) {d : Declaration SymbolId} (member : d ∈ file.declarations)
    {r : Reference SymbolId} (inside : r ∈ d.references) :
    ∃ target, file.symbols.get? r.symbol = some ⟨r.text, target⟩ :=
  resolved.exact.named (resolved.references d member r inside).2

theorem own_target (resolved : file.Resolved) {id : SymbolId} {symbol : Symbol}
    (found : file.symbols.get? id = some symbol) (pointless : '.' ∉ symbol.name.toList) :
    symbol.target = Declaration.ownTarget? symbol.name file.declarations := by
  rw [resolved.targets id symbol found, importOf?_plain pointless, Option.map_none, Option.or_none]

theorem own_declaration (resolved : file.Resolved) {r : Reference SymbolId} {symbol : Symbol}
    (found : file.symbols.get? r.symbol = some symbol) (pointless : '.' ∉ symbol.name.toList) :
    file.target? r = (file.typeDeclaration? symbol.name).map .declaration := by
  have target : file.symbols.target? r.symbol = Declaration.ownTarget? symbol.name file.declarations := by
    rw [SymbolTable.target?, found]
    exact resolved.own_target found pointless
  have first : file.typeDeclaration? symbol.name = (file.declarations.findIdx? (Declaration.declares symbol.name)).bind
      (file.declarations[·]?) := List.find?_eq_bind_findIdx?_getElem?
  rw [target?, target, first, Declaration.ownTarget?]
  cases file.declarations.findIdx? (Declaration.declares symbol.name) <;> rfl

theorem imported_target (resolved : file.Resolved) {id : SymbolId} {package name : String} {target : Option SymbolTarget}
    (found : file.symbols.get? id = some ⟨package ++ "." ++ name, target⟩) (pointless : '.' ∉ package.toList) :
    target = if file.imports.contains package then some (.imported package) else none := by
  have undeclared : Declaration.ownTarget? (package ++ "." ++ name) file.declarations = none := by
    rw [Declaration.ownTarget?_eq_none]
    intro d member
    cases here : d.declares (package ++ "." ++ name) with
    | false => rfl
    | true =>
      obtain ⟨isType, same⟩ := Declaration.declares_iff.mp here
      rcases resolved.plain d member isType with empty | isName
      · rw [empty, ← String.toList_inj] at same
        simp at same
      · exact absurd (by simp [same]) isName.pointless
  have settled := resolved.targets id _ found
  dsimp only at settled
  rw [undeclared, Option.none_or, importOf?_qualified pointless] at settled
  rw [settled]
  split <;> rfl

end SourceFile.Resolved

-- Names are resolved as if each were looked up where it stands, in a file with errors as in one without.
theorem SourceFile.understand_names (name : String) (source : List UInt8) :
    let file := (understand name source).1
    (file.symbols.symbols.map (·.name)).Nodup ∧
      (∀ written id, file.symbols.lookup written = some id ↔
        ∃ symbol, file.symbols.get? id = some symbol ∧ symbol.name = written) ∧
      (∀ d ∈ file.declarations, ∀ r ∈ d.references,
        ∃ symbol, file.symbols.get? r.symbol = some symbol ∧ symbol.name = r.text) ∧
      (∀ id symbol, file.symbols.get? id = some symbol → '.' ∉ symbol.name.toList →
        symbol.target = (file.declarations.findIdx? fun d => d.isType && d.name = symbol.name).map .declaration ∧
          ∀ r : Reference SymbolId, r.symbol = id →
            file.target? r = (file.typeDeclaration? symbol.name).map .declaration) ∧
      ∀ id package type target, file.symbols.get? id = some ⟨package ++ "." ++ type, target⟩ → '.' ∉ package.toList →
        target = if file.imports.contains package then some (.imported package) else none := by
  intro file
  have resolved : file.Resolved := understand_resolved name source
  refine ⟨resolved.exact.distinct, resolved.exact.exact, ?_, ?_, ?_⟩
  · intro d member r inside
    obtain ⟨target, found⟩ := resolved.reference_symbol member inside
    exact ⟨⟨r.text, target⟩, found, rfl⟩
  · intro id symbol found pointless
    refine ⟨resolved.own_target found pointless, ?_⟩
    rintro r rfl
    exact resolved.own_declaration found pointless
  · intro id package type target found pointless
    exact resolved.imported_target found pointless

end WireSchema

import WireSchema.Proofs.Compiled.Checked
import WireSchema.Proofs.Grammar.TypePlaces
import WireSchema.Proofs.Names.Records
import WireSchema.Proofs.Validity.Places

-- What a file is reported for as to its names: each that is undefined once, where it is used first, and each
-- repeated declaration once, where it stands.
namespace WireSchema
open Grammar Text

theorem flatMap_single {α β γ : Type} {key : α → β} {reports : α → List γ} {xs : List α} {x : α}
    (distinct : (xs.map key).Nodup) (member : x ∈ xs) (others : ∀ y ∈ xs, key y ≠ key x → reports y = []) :
    xs.flatMap reports = reports x := by
  induction xs with
  | nil => cases member
  | cons first rest ih =>
    obtain ⟨apart, distinctRest⟩ := List.nodup_cons.mp distinct
    obtain ⟨ofFirst, ofRest⟩ := List.forall_mem_cons.mp others
    rw [List.flatMap_cons]
    rcases List.mem_cons.mp member with rfl | inRest
    · have none : rest.flatMap reports = [] := by
        rw [List.flatMap_eq_nil_iff]
        intro y inside
        exact ofRest y inside fun same => apart (List.mem_map.mpr ⟨y, inside, same⟩)
      rw [none, List.append_nil]
    · have different : key first ≠ key x := fun same => apart (List.mem_map.mpr ⟨x, inRest, same.symm⟩)
      rw [ofFirst different, ih distinctRest inRest ofRest, List.nil_append]

namespace SourceFile
variable {file : SourceFile}

def tape (name : String) (source : List UInt8) : Tape := .ofTokens (Token.allOf Token.defaultLimit name source)

def mentions (name : String) (source : List UInt8) : List Mention :=
  (outline (tape name source)).items.flatMap (·.mentions)

def Qualifies (file : SourceFile) (name : String) : Prop :=
  ∃ package type, name = package ++ "." ++ type ∧ file.imports.contains package = true

theorem Qualifies.importOf? {name : String} (qualifies : file.Qualifies name) (isTypeName : IsTypeName name) :
    (file.importOf? name).isSome := by
  obtain ⟨package, type, rfl, contained⟩ := qualifies
  have points : (package ++ "." ++ type).toList.count '.' ≤ 1 := by
    generalize package ++ "." ++ type = name at isTypeName
    cases isTypeName with
    | plain isName => simp [List.count_eq_zero.mpr isName.pointless]
    | qualified isPackage isName =>
      simp [List.count_append, List.count_eq_zero.mpr isPackage.pointless, List.count_eq_zero.mpr isName.pointless]
  have pointless : '.' ∉ package.toList := by
    rw [← List.count_eq_zero]
    simp only [String.toList_append, List.count_append] at points
    have point : ".".toList.count '.' = 1 := by decide
    omega
  rw [importOf?_qualified pointless, if_pos contained]
  rfl

theorem undefined_content {placeholders : List Placeholder} :
    ∀ report ∈ placeholders.flatMap file.undefined, ∃ name, report.content = .undefinedType name := by
  intro report member
  obtain ⟨p, _, among⟩ := List.mem_flatMap.mp member
  unfold undefined at among
  split at among
  · split at among
    · cases List.mem_singleton.mp among
      exact ⟨_, rfl⟩
    · cases among
  · cases among

section Placeholders
variable {s : Scope} {ms : List Mention}

theorem undefined_eq (records : s.Records ms) (valid : s.Valid) (symbols : file.symbols = s.symbols)
    (declarations : file.declarations = s.declarations) {p : Placeholder} (member : p ∈ s.placeholders) :
    ∃ name, s.symbols.lookup name = some p.symbol ∧ ms.find? (·.name = name) = some ⟨name, p.position⟩ ∧
      file.undefined p = if file.typeDeclaration? name = none ∧ file.importOf? name = none then
        [⟨p.position, .undefinedType name⟩] else [] := by
  obtain ⟨name, found, first⟩ := records.opened p member
  refine ⟨name, found, first, ?_⟩
  obtain ⟨target, atSymbol⟩ := valid.exact.named found
  have own : target = Declaration.ownTarget? name file.declarations := declarations ▸ valid.targets _ _ atSymbol
  have declared : target = none ↔ file.typeDeclaration? name = none := by
    rw [own, Declaration.ownTarget?_eq_none]
    simp [typeDeclaration?, Declaration.declares]
  unfold undefined
  rw [symbols, atSymbol]
  cases imported : file.importOf? name <;> cases target <;> simp_all [settled]

theorem undefined_once (records : s.Records ms) (valid : s.Valid) (symbols : file.symbols = s.symbols)
    (declarations : file.declarations = s.declarations) {name : String} {first : Mention}
    (used : ms.find? (·.name = name) = some first) (undeclared : file.typeDeclaration? name = none)
    (unqualified : file.importOf? name = none) :
    (s.placeholders.flatMap file.undefined).filter (·.content = .undefinedType name) =
      [⟨first.position, .undefinedType name⟩] := by
  have mentioned : first.name = name := by simpa using List.find?_some used
  obtain ⟨id, known⟩ := Option.isSome_iff_exists.mp (records.known first (List.mem_of_find?_eq_some used))
  rw [mentioned] at known
  obtain ⟨target, atId⟩ := valid.exact.named known
  have isOpen : target = none := by
    have own := valid.targets id _ atId
    dsimp only at own
    rw [own, Declaration.ownTarget?_eq_none, ← declarations]
    simpa [typeDeclaration?, Declaration.declares] using undeclared
  obtain ⟨p, member, rfl⟩ := valid.waiting id _ atId isOpen
  -- symbols have one name each, so the placeholder of this one is alone with it
  have sameName : ∀ other, s.symbols.lookup other = some p.symbol → other = name := by
    intro other found
    obtain ⟨_, atSymbol⟩ := valid.exact.named found
    rw [atId] at atSymbol
    cases atSymbol
    rfl
  rw [List.filter_flatMap, flatMap_single records.distinct member]
  · obtain ⟨own, found, isFirst, reported⟩ := undefined_eq records valid symbols declarations member
    cases sameName own found
    rw [isFirst] at used
    cases used
    rw [reported, if_pos ⟨undeclared, unqualified⟩]
    simp
  · intro q inside apart
    obtain ⟨other, found, _, reported⟩ := undefined_eq records valid symbols declarations inside
    have different : other ≠ name := by
      rintro rfl
      rw [known] at found
      exact apart (Option.some.inj found).symm
    rw [reported]
    split <;> simp [different]

theorem undefined_never (records : s.Records ms) (valid : s.Valid) (symbols : file.symbols = s.symbols)
    (declarations : file.declarations = s.declarations) {name : String}
    (exempt : ms.find? (·.name = name) = none ∨ file.typeDeclaration? name ≠ none ∨
      file.importOf? name ≠ none) :
    (s.placeholders.flatMap file.undefined).filter (·.content = .undefinedType name) = [] := by
  rw [List.filter_eq_nil_iff]
  intro report member content
  obtain ⟨p, inside, among⟩ := List.mem_flatMap.mp member
  obtain ⟨other, _, used, reported⟩ := undefined_eq records valid symbols declarations inside
  rw [reported] at among
  split at among
  · rename_i isOpen
    cases List.mem_singleton.mp among
    have same : other = name := by simpa using content
    subst same
    rcases exempt with unused | declared | qualified
    · rw [used] at unused
      cases unused
    · exact declared isOpen.1
    · exact qualified isOpen.2
  · cases among

end Placeholders

theorem bound_records (name : String) (source : List UInt8) :
    ∃ scope : Scope, scope.Valid ∧ scope.Records (mentions name source) ∧
      (bound name source).file.declarations = scope.declarations ∧
      (bound name source).file.symbols = scope.symbols ∧
      (bound name source).placeholders = scope.placeholders ∧
      (bound name source).problems.filter (·.content.isNaming) = Declaration.redeclarations [] scope.declarations := by
  have proper := Tape.ofSource_proper Token.defaultLimit name source
  obtain ⟨head, items⟩ := outline_nameless proper
  obtain ⟨records, reported⟩ := Scope.ofItems_records (outline_named proper) items
  refine ⟨_, Scope.ofItems_valid (outline_named proper), records, rfl, rfl, rfl, ?_⟩
  rw [bound, Bound.ofOutline]
  dsimp only
  rw [List.filter_append, head.filter, List.nil_append]
  exact reported

theorem understand_declarations (name : String) (source : List UInt8) :
    (understand name source).1.declarations = (bound name source).file.declarations ∧
      (understand name source).1.imports = (bound name source).file.imports := by
  obtain ⟨table, same⟩ := resolve_file (bound name source).file (bound name source).placeholders
  rw [understand]
  dsimp only
  rw [same]
  exact ⟨rfl, rfl⟩

theorem understand_item {name : String} {source : List UInt8} {d : Declaration SymbolId}
    (member : d ∈ (understand name source).1.declarations) {β : Type} {ofItem : Declaration Unit → β}
    {ofScope : Declaration SymbolId → β} (same : ∀ symbol d, ofScope (d.withSymbols symbol) = ofItem d) :
    ∃ t item, (Tape.ofTokens (Token.allOf Token.defaultLimit name source)).Leads t ∧
      (Grammar.item t).value = some item ∧ ofItem item = ofScope d := by
  have proper := Tape.ofSource_proper Token.defaultLimit name source
  have mapped := Scope.ofItems_map same (outline (.ofTokens (Token.allOf Token.defaultLimit name source))).items
  rw [(understand_declarations name source).1, bound, Bound.ofOutline] at member
  have among : ofScope d ∈ _ := mapped ▸ List.mem_map_of_mem member
  obtain ⟨step, inside, ofStep⟩ := List.mem_flatMap.mp among
  obtain ⟨item, value, shared⟩ := List.mem_map.mp ofStep
  obtain ⟨t, leads, rfl⟩ := outline_reached proper step inside
  exact ⟨t, item, leads, by simpa using value, shared⟩

theorem understand_naming (name : String) (source : List UInt8) :
    ((understand name source).2.filter (·.content.isNaming)).Perm
      (Declaration.redeclarations [] (understand name source).1.declarations ++
        (bound name source).placeholders.flatMap (bound name source).file.undefined) := by
  obtain ⟨scope, _, _, declarations, _, _, reported⟩ := bound_records name source
  have unresolved : ((bound name source).placeholders.flatMap (bound name source).file.undefined).filter
      (·.content.isNaming) = (bound name source).placeholders.flatMap (bound name source).file.undefined := by
    rw [List.filter_eq_self]
    intro report member
    obtain ⟨written, same⟩ := undefined_content report member
    rw [same]
    rfl
  have violations : ((bound name source).file.resolve (bound name source).placeholders).1.violations.Nameless :=
    (Validity.declarations_ruled ∅ _).without fun problem isRule => by cases problem <;> first | rfl | cases isRule
  refine ((List.mergeSort_perm _ _).filter _).trans (.of_eq ?_)
  rw [List.filter_append, List.filter_append, reported, resolve_problems, unresolved, violations.filter,
    List.append_nil, (understand_declarations name source).1, declarations]

theorem understand_mentions (name : String) (source : List UInt8) : (mentions name source).Sublist
    (namesIn ((Token.allOf Token.defaultLimit name source).1.filter (·.kind ≠ .comment))) := by
  rw [← Documented.ofTokens_tokens]
  exact outline_names (Tape.ofSource_proper Token.defaultLimit name source)

theorem understand_places (name : String) (source : List UInt8) :
    ((understand name source).1.declarations.map Declaration.place).Sublist
      (keywordsIn ((Token.allOf Token.defaultLimit name source).1.filter (·.kind ≠ .comment))) := by
  have proper := Tape.ofSource_proper Token.defaultLimit name source
  rw [(understand_declarations name source).1, bound, Bound.ofOutline]
  dsimp only
  rw [Scope.ofItems_places, ← Documented.ofTokens_tokens]
  exact outline_places proper

theorem understand_items (name : String) (source : List UInt8) :
    (understand name source).1.declarations.map (·.withSymbols fun _ => ()) =
      (outline (tape name source)).items.filterMap (·.value) := by
  have same : ∀ (symbol : Reference Unit → SymbolId) (d : Declaration Unit),
      (d.withSymbols symbol).withSymbols (fun _ => ()) = d := fun symbol d => by
    rw [Declaration.withSymbols_withSymbols, Declaration.withSymbols_unit]
  have mapped := Scope.ofItems_map same (outline (tape name source)).items
  rw [(understand_declarations name source).1, bound, Bound.ofOutline]
  refine mapped.trans ?_
  rw [List.filterMap_eq_flatMap_toList]
  simp

theorem understand_types {name : String} {source : List UInt8} {v : Tape} (place : ItemAt (tape name source) v)
    {kind : DeclarationKind} (isType : kind ≠ .const) (starts : v.current.kind = .keyword kind.keyword) :
    ∃ d ∈ (understand name source).1.declarations, d.kind = kind ∧ d.position = v.current.position ∧
      d.name = if v.advance.current.kind = .identifier then v.advance.current.text else "" := by
  have proper := Tape.ofSource_proper Token.defaultLimit name source
  obtain ⟨d, read, ofKind, position, named⟩ := item_type isType starts
  have among : d ∈ (outline (tape name source)).items.filterMap (·.value) :=
    List.mem_filterMap.mpr ⟨item v, (outline_at proper _).mpr ⟨v, place, rfl⟩, read⟩
  rw [← understand_items, List.mem_map] at among
  obtain ⟨own, member, rfl⟩ := among
  exact ⟨own, member, by simpa using ofKind, by simpa using position, by simpa using named⟩

theorem Clean.target (clean : file.Clean) {d : Declaration SymbolId} (member : d ∈ file.declarations)
    {r : Reference SymbolId} (inside : r ∈ d.references) : (file.target? r).isSome := by
  obtain ⟨target, found⟩ := clean.resolved.reference_symbol member inside
  obtain ⟨settled, rfl⟩ := Option.isSome_iff_exists.mp (clean.targets found)
  have leads := clean.resolved.targets _ _ found
  unfold target?
  rw [SymbolTable.target?, found, Option.bind_some]
  cases own : Declaration.ownTarget? r.text file.declarations with
  | some target =>
    obtain ⟨index, declared, rfl, atIndex, _⟩ := Declaration.ownTarget?_index own
    simp only [own, Option.some_or] at leads
    cases leads
    simp [atIndex]
  | none =>
    simp only [own, Option.none_or] at leads
    obtain ⟨package, imported, rfl⟩ := Option.map_eq_some_iff.mp leads.symm
    have contained := (importOf?_eq_some.mp imported).known
    simpa [Dictionary.contains] using contained

theorem understand_typeNames {name : String} {source : List UInt8} (none : (understand name source).2 = []) :
    ((understand name source).1.declarations.filterMap (·.typeName?)).Nodup := by
  obtain ⟨_, _, distinct⟩ := (bound_problems name source).mp (understand_clean none).1
  rw [← Scope.ofItems_typeNames] at distinct
  rw [(understand_declarations name source).1]
  exact distinct

end SourceFile

def Problem.isRedeclared : Problem → Bool
  | .typeRedeclared _ _ => true
  | _ => false

namespace SourceFile
variable {file : SourceFile}

theorem understand_which (which : Problem → Bool)
    (naming : ∀ problem, which problem = true → problem.isNaming = true) (name : String) (source : List UInt8) :
    ((understand name source).2.filter (which ·.content)).Perm
      ((Declaration.redeclarations [] (understand name source).1.declarations).filter (which ·.content) ++
        ((bound name source).placeholders.flatMap (bound name source).file.undefined).filter (which ·.content)) := by
  have among : ∀ problems : Problems,
      (problems.filter (·.content.isNaming)).filter (which ·.content) = problems.filter (which ·.content) := by
    intro problems
    rw [List.filter_filter]
    refine List.filter_congr ?_
    intro p _
    cases found : which p.content with
    | false => rfl
    | true => simp [naming _ found]
  have all := (understand_naming name source).filter (which ·.content)
  rw [among, List.filter_append] at all
  exact all

theorem understand_undefined (name : String) (source : List UInt8) (written : String) :
    ((understand name source).2.filter (·.content = .undefinedType written)).Perm
      (((bound name source).placeholders.flatMap (bound name source).file.undefined).filter
        (·.content = .undefinedType written)) := by
  have naming : ∀ problem : Problem, decide (problem = .undefinedType written) = true → problem.isNaming = true := by
    intro problem same
    rw [of_decide_eq_true same]
    rfl
  have all := understand_which (· = .undefinedType written) naming name source
  have none : (Declaration.redeclarations [] (understand name source).1.declarations).filter
      (·.content = .undefinedType written) = [] := by
    rw [List.filter_eq_nil_iff]
    intro p member
    obtain ⟨declared, first, same⟩ := Declaration.redeclarations_content [] _ p member
    simp [same]
  rw [none] at all
  exact all

theorem understand_redeclared (name : String) (source : List UInt8) :
    ((understand name source).2.filter (·.content.isRedeclared)).Perm
      (Declaration.redeclarations [] (understand name source).1.declarations) := by
  have naming : ∀ problem : Problem, problem.isRedeclared = true → problem.isNaming = true := by
    intro problem
    cases problem <;> simp [Problem.isRedeclared, Problem.isNaming]
  have all := understand_which (·.isRedeclared) naming name source
  have none : ((bound name source).placeholders.flatMap (bound name source).file.undefined).filter
      (·.content.isRedeclared) = [] := by
    rw [List.filter_eq_nil_iff]
    intro p member
    obtain ⟨written, same⟩ := undefined_content p member
    simp [same, Problem.isRedeclared]
  have every : (Declaration.redeclarations [] (understand name source).1.declarations).filter
      (·.content.isRedeclared) = Declaration.redeclarations [] (understand name source).1.declarations := by
    rw [List.filter_eq_self]
    intro p member
    obtain ⟨declared, first, same⟩ := Declaration.redeclarations_content [] _ p member
    rw [same]
    rfl
  rw [none, every, List.append_nil] at all
  exact all

theorem typeDeclaration?_bound (name : String) (source : List UInt8) (written : String) :
    (understand name source).1.typeDeclaration? written = (bound name source).file.typeDeclaration? written := by
  rw [typeDeclaration?, typeDeclaration?, (understand_declarations name source).1]

theorem importOf?_bound (name : String) (source : List UInt8) (written : String) :
    (understand name source).1.importOf? written = (bound name source).file.importOf? written := by
  rw [importOf?, importOf?, (understand_declarations name source).2]

theorem understand_once {name : String} {source : List UInt8} {written : String} {first : Mention}
    (used : (mentions name source).find? (·.name = written) = some first)
    (undeclared : (understand name source).1.typeDeclaration? written = none)
    (unqualified : ¬ (understand name source).1.Qualifies written) :
    (understand name source).2.filter (·.content = .undefinedType written) =
      [⟨first.position, .undefinedType written⟩] := by
  obtain ⟨scope, valid, records, declarations, symbols, placeholders, _⟩ := bound_records name source
  have imported : (bound name source).file.importOf? written = none := by
    rw [← importOf?_bound, Option.eq_none_iff_forall_ne_some]
    intro package found
    obtain ⟨contained, _, type, same⟩ := importOf?_eq_some.mp found
    exact unqualified ⟨package, type, same, contained⟩
  rw [typeDeclaration?_bound] at undeclared
  have once := undefined_once records valid symbols declarations used undeclared imported
  rw [← placeholders] at once
  exact List.perm_singleton.mp (once ▸ understand_undefined name source written)

theorem understand_never {name : String} {source : List UInt8} {written : String}
    (exempt : (∀ m ∈ mentions name source, m.name ≠ written) ∨
      ((understand name source).1.typeDeclaration? written).isSome ∨ (understand name source).1.Qualifies written) :
    (understand name source).2.filter (·.content = .undefinedType written) = [] := by
  obtain ⟨scope, valid, records, declarations, symbols, placeholders, _⟩ := bound_records name source
  have reasons : (mentions name source).find? (·.name = written) = none ∨
      (bound name source).file.typeDeclaration? written ≠ none ∨
      (bound name source).file.importOf? written ≠ none := by
    rw [← typeDeclaration?_bound, ← importOf?_bound]
    cases used : (mentions name source).find? (·.name = written) with
    | none => exact .inl rfl
    | some m =>
      have member := List.mem_of_find?_eq_some used
      have same : m.name = written := by simpa using List.find?_some used
      rcases exempt with unused | declared | qualified
      · exact absurd same (unused m member)
      · exact .inr (.inl (Option.isSome_iff_ne_none.mp declared))
      · obtain ⟨step, among, inside⟩ := List.mem_flatMap.mp member
        have isTypeName := (outline_named (Tape.ofSource_proper _ _ _) step among).typeNames m inside
        exact .inr (.inr (Option.isSome_iff_ne_none.mp (qualified.importOf? (same ▸ isTypeName))))
  have never := undefined_never records valid symbols declarations reasons
  rw [← placeholders] at never
  exact List.perm_nil.mp (never ▸ understand_undefined name source written)

end SourceFile

-- The problems of a file name each name that is left undefined once, where it is used first, and each type that is
-- declared again once, where that is done. A name is used wherever the parser comes to read a type, and a type is
-- declared wherever it comes to its keyword. Without a problem every reference leads somewhere and no type is declared
-- twice.
theorem SourceFile.understand_reports (name : String) (source : List UInt8) :
    let file := (understand name source).1
    let problems := (understand name source).2
    let words := (Token.allOf Token.defaultLimit name source).1.filter (·.kind ≠ .comment)
    ((mentions name source).Sublist (namesIn words) ∧
      (∀ m, m ∈ mentions name source ↔ ∃ u, TypePlace (tape name source) u ∧ u.Shows m) ∧
      ∀ d ∈ file.declarations, ∀ r ∈ d.references, ∃ m ∈ mentions name source, m.name = r.text) ∧
    ((file.declarations.map Declaration.place).Sublist (keywordsIn words) ∧
      file.declarations.map (·.withSymbols fun _ => ()) = (outline (tape name source)).items.filterMap (·.value) ∧
      ∀ v, ItemAt (tape name source) v → ∀ kind : DeclarationKind, kind ≠ .const →
        v.current.kind = .keyword kind.keyword → ∃ d ∈ file.declarations, d.kind = kind ∧
          d.position = v.current.position ∧
          d.name = if v.advance.current.kind = .identifier then v.advance.current.text else "") ∧
    (∀ written first, (mentions name source).find? (·.name = written) = some first →
      file.typeDeclaration? written = none → ¬ file.Qualifies written →
      problems.filter (·.content = .undefinedType written) = [⟨first.position, .undefinedType written⟩]) ∧
    (∀ written, (∀ m ∈ mentions name source, m.name ≠ written) ∨ (file.typeDeclaration? written).isSome ∨
      file.Qualifies written → problems.filter (·.content = .undefinedType written) = []) ∧
    (problems.filter (·.content.isRedeclared)).Perm (Declaration.redeclarations [] file.declarations) ∧
    (problems = [] → (∀ d ∈ file.declarations, ∀ r ∈ d.references, (file.target? r).isSome) ∧
      (file.declarations.filterMap (·.typeName?)).Nodup) := by
  intro file problems words
  have proper := Tape.ofSource_proper Token.defaultLimit name source
  refine ⟨⟨understand_mentions name source, outline_mentions proper, ?_⟩,
    ⟨understand_places name source, understand_items name source, ?_⟩, ?_, ?_, understand_redeclared name source, ?_⟩
  · obtain ⟨scope, _, records, declarations, _⟩ := bound_records name source
    intro d member
    rw [(understand_declarations name source).1, declarations] at member
    exact records.noted d member
  · intro v place kind isType starts
    exact understand_types place isType starts
  · intro written first used undeclared unqualified
    exact understand_once used undeclared unqualified
  · intro written exempt
    exact understand_never exempt
  · intro none
    have clean : file.Clean := ⟨name, source, rfl, none⟩
    exact ⟨fun d member r inside => clean.target member inside, understand_typeNames none⟩

end WireSchema

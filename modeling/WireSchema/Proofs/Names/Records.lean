import WireSchema.Proofs.Grammar.Places
import WireSchema.Proofs.Names.Acceptance

-- What a scope remembers of the names it was given: one placeholder for each name that was used before it was
-- declared, at its first use, and one report for each declaration behind another of the same name.
namespace WireSchema
open Grammar

namespace Declaration
variable {σ τ : Type}

def redeclared? (earlier : List (Declaration σ)) (d : Declaration σ) : Option (Located Problem) :=
  if d.isType && !d.name.isEmpty then
    (earlier.find? (declares d.name)).map fun first => ⟨d.position, .typeRedeclared d.name first.position⟩
  else none

def redeclarations (earlier : List (Declaration σ)) : List (Declaration σ) → Problems
  | [] => []
  | d :: rest => (d.redeclared? earlier).toList ++ redeclarations (earlier ++ [d]) rest

theorem redeclarations_append (earlier before : List (Declaration σ)) (d : Declaration σ) :
    redeclarations earlier (before ++ [d]) =
      redeclarations earlier before ++ (d.redeclared? (earlier ++ before)).toList := by
  induction before generalizing earlier with
  | nil => simp [redeclarations]
  | cons first rest ih => simp [redeclarations, ih]

theorem redeclared?_content {earlier : List (Declaration σ)} {d : Declaration σ} {p : Located Problem}
    (reported : d.redeclared? earlier = some p) : ∃ name first, p.content = .typeRedeclared name first := by
  unfold redeclared? at reported
  split at reported
  · obtain ⟨first, _, rfl⟩ := Option.map_eq_some_iff.mp reported
    exact ⟨_, _, rfl⟩
  · cases reported

theorem redeclarations_content (earlier : List (Declaration σ)) (ds : List (Declaration σ)) :
    ∀ p ∈ redeclarations earlier ds, ∃ name first, p.content = .typeRedeclared name first := by
  induction ds generalizing earlier with
  | nil => simp [redeclarations]
  | cons d rest ih =>
    intro p member
    rcases List.mem_append.mp member with here | later
    · exact redeclared?_content (Option.mem_toList.mp here)
    · exact ih _ p later

@[simp] theorem place_withSymbols (symbol : Reference σ → τ) (d : Declaration σ) :
    (d.withSymbols symbol).place = d.place := by cases d <;> rfl

end Declaration

open Declaration

namespace Scope
variable {s : Scope} {ms : List Mention}

theorem declare_declarations (d : Declaration Unit) (s : Scope) :
    (s.declare d).declarations = s.declarations ++ [d.withSymbols (symbolOf s.symbols)] := rfl

theorem declare_reports (valid : s.Valid) (d : Declaration Unit) : (s.declare d).problems =
    s.problems ++ ((d.withSymbols (symbolOf s.symbols)).redeclared? s.declarations).toList := by
  unfold declare redeclared?
  simp only [isType_withSymbols, name_withSymbols, position_withSymbols]
  split
  · rename_i registers
    have nonempty : d.name ≠ "" := by simpa using (Bool.and_eq_true_iff.mp registers).2
    exact register_reports valid nonempty _ _
  · simp

def Reported (s : Scope) : Prop := s.problems.filter (·.content.isNaming) = redeclarations [] s.declarations

theorem Reported.item (reported : s.Reported) (valid : s.Valid) {step : Step (Option (Declaration Unit))}
    (named : Named step) (nameless : step.problems.Nameless) : (s.item step).Reported := by
  obtain ⟨problems, declarations⟩ := mentions_same step.mentions s
  have mentioned := (valid.mentions named.typeNames).1.reported
    ((step.mentions.foldl (fun s m => s.mention m) s).problems ++ step.problems)
  unfold Reported at reported ⊢
  have before : ((step.mentions.foldl (fun s m => s.mention m) s).problems ++ step.problems).filter
      (·.content.isNaming) = redeclarations [] (step.mentions.foldl (fun s m => s.mention m) s).declarations := by
    rw [List.filter_append, nameless.filter, List.append_nil, problems, declarations]
    exact reported
  unfold Scope.item
  cases step.value with
  | none => exact before
  | some d =>
    dsimp only
    rw [declare_reports mentioned, declare_declarations, redeclarations_append, List.filter_append, List.nil_append,
      before]
    congr 1
    rw [List.filter_eq_self]
    intro p member
    obtain ⟨name, first, same⟩ := redeclared?_content (Option.mem_toList.mp member)
    rw [same]
    rfl

-- Every name that was mentioned has a symbol, and a placeholder stands where its name was mentioned first.
structure Records (s : Scope) (ms : List Mention) : Prop where
  known : ∀ m ∈ ms, (s.symbols.lookup m.name).isSome
  opened : ∀ p ∈ s.placeholders, ∃ name, s.symbols.lookup name = some p.symbol ∧
    ms.find? (·.name = name) = some ⟨name, p.position⟩
  distinct : (s.placeholders.map (·.symbol)).Nodup
  noted : ∀ d ∈ s.declarations, ∀ r ∈ d.references, ∃ m ∈ ms, m.name = r.text

theorem empty_records : empty.Records [] := by
  refine ⟨?_, ?_, ?_, ?_⟩ <;> simp [empty]

theorem Records.unmentioned (records : s.Records ms) {name : String} (unknown : s.symbols.lookup name = none) :
    ms.find? (·.name = name) = none := by
  rw [List.find?_eq_none]
  intro m inside same
  have hasSymbol := records.known m inside
  rw [of_decide_eq_true same, unknown] at hasSymbol
  cases hasSymbol

theorem Records.below (records : s.Records ms) (valid : s.Valid) : ∀ p ∈ s.placeholders, p.symbol < s.symbols.next := by
  intro p member
  obtain ⟨name, found, _⟩ := records.opened p member
  obtain ⟨target, atSymbol⟩ := valid.exact.named found
  exact SymbolTable.get?_lt atSymbol

theorem mention_fresh {m : Mention} (unknown : s.symbols.lookup m.name = none) :
    (s.mention m).placeholders = s.placeholders ++ [⟨s.symbols.next, m.position⟩] ∧
      (s.mention m).symbols.lookup m.name = some s.symbols.next := by
  simp [Scope.mention, unknown, SymbolTable.lookup_insert]

theorem Records.mention (records : s.Records ms) (valid : s.Valid) (m : Mention) :
    (s.mention m).Records (ms ++ [m]) := by
  have keeps : ∀ {name id}, s.symbols.lookup name = some id → (s.mention m).symbols.lookup name = some id :=
    fun old => mention_keeps m old
  have known : ∀ other ∈ ms ++ [m], ((s.mention m).symbols.lookup other.name).isSome := by
    intro other member
    rcases List.mem_append.mp member with old | new
    · obtain ⟨id, found⟩ := Option.isSome_iff_exists.mp (records.known other old)
      rw [keeps found]
      rfl
    · rw [List.mem_singleton.mp new]
      exact mention_lookup m s
  have opened : ∀ p ∈ s.placeholders, ∃ name, (s.mention m).symbols.lookup name = some p.symbol ∧
      (ms ++ [m]).find? (·.name = name) = some ⟨name, p.position⟩ := by
    intro p member
    obtain ⟨name, found, first⟩ := records.opened p member
    exact ⟨name, keeps found, by rw [List.find?_append, first, Option.some_or]⟩
  have noted : ∀ d ∈ (s.mention m).declarations, ∀ r ∈ d.references, ∃ other ∈ ms ++ [m], other.name = r.text := by
    rw [mention_declarations]
    intro d member r inside
    obtain ⟨other, old, same⟩ := records.noted d member r inside
    exact ⟨other, List.mem_append_left _ old, same⟩
  cases first : s.symbols.lookup m.name with
  | some id =>
    have placeholders : (s.mention m).placeholders = s.placeholders := by simp [Scope.mention, first]
    exact ⟨known, placeholders ▸ opened, placeholders ▸ records.distinct, noted⟩
  | none =>
    obtain ⟨placeholders, found⟩ := mention_fresh first
    refine ⟨known, ?_, ?_, noted⟩ <;> rw [placeholders]
    · intro p member
      rcases List.mem_append.mp member with old | new
      · exact opened p old
      · rw [List.mem_singleton.mp new]
        exact ⟨m.name, found, by simp [List.find?_append, records.unmentioned first]⟩
    · rw [List.map_append, List.nodup_append]
      refine ⟨records.distinct, by simp, ?_⟩
      intro id old other new
      obtain ⟨p, member, rfl⟩ := List.mem_map.mp old
      rw [List.mem_singleton.mp new]
      exact Nat.ne_of_lt (records.below valid p member)

theorem Records.mentions (records : s.Records ms) (valid : s.Valid) {mentions : List Mention}
    (names : ∀ m ∈ mentions, IsTypeName m.name) :
    (mentions.foldl (fun s m => s.mention m) s).Records (ms ++ mentions) := by
  induction mentions generalizing s ms with
  | nil => simpa using records
  | cons m rest ih =>
    have later := ih (records.mention valid m) (valid.mention (names m List.mem_cons_self))
      fun other member => names other (List.mem_cons_of_mem _ member)
    simpa using later

theorem register_keeps {name other : String} {index : Nat} {position : Position} {id : SymbolId}
    (known : s.symbols.lookup other = some id) : (s.register name index position).symbols.lookup other = some id := by
  unfold register
  split
  · rename_i fresh
    have apart : name ≠ other := fun same => by
      rw [same, known] at fresh
      cases fresh
    simp [SymbolTable.lookup_insert, apart, known]
  · split <;> exact known

theorem register_placeholders (name : String) (index : Nat) (position : Position) :
    (s.register name index position).placeholders = s.placeholders := by
  unfold register
  split
  · rfl
  · split <;> rfl

theorem declare_keeps {d : Declaration Unit} {name : String} {id : SymbolId}
    (known : s.symbols.lookup name = some id) : (s.declare d).symbols.lookup name = some id := by
  unfold declare
  dsimp only
  split
  · exact register_keeps known
  · exact known

theorem declare_placeholders (d : Declaration Unit) : (s.declare d).placeholders = s.placeholders := by
  unfold declare
  dsimp only
  split
  · exact register_placeholders _ _ _
  · rfl

theorem Records.declare (records : s.Records ms) {d : Declaration Unit}
    (noted : ∀ r ∈ d.references, ∃ m ∈ ms, m.reference = r) : (s.declare d).Records ms := by
  refine ⟨?_, ?_, ?_, ?_⟩
  · intro m member
    obtain ⟨id, found⟩ := Option.isSome_iff_exists.mp (records.known m member)
    rw [declare_keeps found]
    rfl
  · rw [declare_placeholders]
    intro p member
    obtain ⟨name, found, first⟩ := records.opened p member
    exact ⟨name, declare_keeps found, first⟩
  · rw [declare_placeholders]
    exact records.distinct
  · rw [declare_declarations]
    intro other member r inside
    rcases List.mem_append.mp member with old | new
    · exact records.noted other old r inside
    · rw [List.mem_singleton.mp new, references_withSymbols] at inside
      obtain ⟨reference, ofDeclaration, rfl⟩ := List.mem_map.mp inside
      obtain ⟨m, among, rfl⟩ := noted reference ofDeclaration
      refine ⟨m, among, ?_⟩
      have text := Reference.ofName_text m.name ()
      exact text.symm

theorem Records.item (records : s.Records ms) (valid : s.Valid) {step : Step (Option (Declaration Unit))}
    (named : Named step) : (s.item step).Records (ms ++ step.mentions) := by
  have mentioned := records.mentions valid named.typeNames
  have reported : Records { step.mentions.foldl (fun s m => s.mention m) s with
      problems := (step.mentions.foldl (fun s m => s.mention m) s).problems ++ step.problems } (ms ++ step.mentions) :=
    ⟨mentioned.known, mentioned.opened, mentioned.distinct, mentioned.noted⟩
  unfold Scope.item
  cases value : step.value with
  | none => exact reported
  | some d =>
    refine reported.declare ?_
    intro r inside
    obtain ⟨m, member, same⟩ := List.mem_map.mp (named.mentioned d value r inside)
    exact ⟨m, List.mem_append_right _ member, same⟩

theorem ofItems_records {items : List (Step (Option (Declaration Unit)))} (named : ∀ step ∈ items, Named step)
    (nameless : ∀ step ∈ items, step.problems.Nameless) :
    (ofItems items).Records (items.flatMap (·.mentions)) ∧ (ofItems items).Reported := by
  suffices run : ∀ (s : Scope) (ms : List Mention), s.Valid → s.Records ms → s.Reported →
      (items.foldl Scope.item s).Records (ms ++ items.flatMap (·.mentions)) ∧ (items.foldl Scope.item s).Reported from
    run _ [] empty_valid empty_records rfl
  induction items with
  | nil =>
    intro s ms _ records reported
    exact ⟨by simpa using records, reported⟩
  | cons step rest ih =>
    intro s ms valid records reported
    obtain ⟨ofFirst, ofRest⟩ := List.forall_mem_cons.mp named
    obtain ⟨first, later⟩ := List.forall_mem_cons.mp nameless
    have run := ih ofRest later _ (ms ++ step.mentions) (valid.item ofFirst) (records.item valid ofFirst)
      (reported.item valid ofFirst first)
    simpa using run

theorem ofItems_typeNames (items : List (Step (Option (Declaration Unit)))) :
    (ofItems items).typeNames = declaredNames items := by
  suffices run : ∀ s : Scope, (items.foldl Scope.item s).typeNames = s.typeNames ++ declaredNames items from run empty
  induction items with
  | nil => simp [declaredNames]
  | cons step rest ih =>
    intro s
    rw [List.foldl_cons, ih, item_typeNames, declaredNames_cons, List.append_assoc]

theorem ofItems_map {β : Type} {ofItem : Declaration Unit → β} {ofScope : Declaration SymbolId → β}
    (same : ∀ symbol d, ofScope (d.withSymbols symbol) = ofItem d) (items : List (Step (Option (Declaration Unit)))) :
    (ofItems items).declarations.map ofScope = items.flatMap fun step => step.value.toList.map ofItem := by
  suffices run : ∀ s : Scope, (items.foldl Scope.item s).declarations.map ofScope =
      s.declarations.map ofScope ++ items.flatMap fun step => step.value.toList.map ofItem from run empty
  induction items with
  | nil => simp
  | cons step rest ih =>
    intro s
    have here : (s.item step).declarations.map ofScope =
        s.declarations.map ofScope ++ step.value.toList.map ofItem := by
      have declarations := (mentions_same step.mentions s).2
      unfold Scope.item
      cases step.value with
      | none => simp [declarations]
      | some d => simp [declare_declarations, declarations, same]
    rw [List.foldl_cons, ih, here]
    simp

theorem ofItems_places (items : List (Step (Option (Declaration Unit)))) :
    (ofItems items).declarations.map place = items.flatMap fun step => step.value.toList.map place :=
  ofItems_map place_withSymbols items

end Scope
end WireSchema

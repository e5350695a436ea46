import WireSchema.Proofs.Names.Resolution
import WireSchema.Proofs.Token.Tokenizer

-- Nothing is looked up where it is not. The places that reading a source goes to lie inside of it, the texts cut out
-- of literals are cut between characters, and a symbol that leads to a declaration leads to one that is there.
namespace WireSchema
open Grammar Text

-- Every symbol that leads to a declaration leads to one of those given, and to one of a type.
def SymbolTable.Indexes (table : SymbolTable) (declarations : List (Declaration SymbolId)) : Prop :=
  ∀ id index, table.target? id = some (.declaration index) → ∃ d, declarations[index]? = some d ∧ d.isType = true

theorem Scope.Valid.indexes {s : Scope} (valid : s.Valid) : s.symbols.Indexes s.declarations := by
  intro id index leads
  obtain ⟨symbol, found, target⟩ := Option.bind_eq_some_iff.mp leads
  obtain ⟨own, d, same, atIndex, declares, _⟩ := Declaration.ownTarget?_index ((valid.targets id symbol found).symm.trans target)
  cases same
  exact ⟨d, atIndex, (Declaration.declares_iff.mp declares).1⟩

theorem SourceFile.resolve_indexes {file : SourceFile} (indexes : file.symbols.Indexes file.declarations)
    (placeholders : List Placeholder) :
    (file.resolve placeholders).1.symbols.Indexes (file.resolve placeholders).1.declarations := by
  obtain ⟨table, same⟩ := resolve_file file placeholders
  have declarations : (file.resolve placeholders).1.declarations = file.declarations := by rw [same]
  intro id index leads
  rw [declarations]
  refine indexes id index ?_
  obtain ⟨symbol, found, target⟩ := Option.bind_eq_some_iff.mp leads
  rw [resolve_get?] at found
  obtain ⟨before, atId, rfl⟩ := Option.map_eq_some_iff.mp found
  rw [SymbolTable.target?, atId, Option.bind_some]
  split at target
  · have settled : before.target.or ((file.importOf? before.name).map .imported) = some (.declaration index) := target
    rcases Option.or_eq_some_iff.mp settled with own | ⟨_, imported⟩
    · exact own
    · obtain ⟨package, _, other⟩ := Option.map_eq_some_iff.mp imported
      cases other
  · exact target

section Items
variable {t : Tape}

theorem outline_indexes (proper : t.Proper) : (Scope.ofItems (outline t).items).symbols.Indexes
    (Scope.ofItems (outline t).items).declarations :=
  (Scope.ofItems_valid (outline_named proper)).indexes

theorem outline_registers (proper : t.Proper) {before after : List (Step (Option (Declaration Unit)))}
    {step : Step (Option (Declaration Unit))} (items : (outline t).items = before ++ step :: after) :
    let s := step.mentions.foldl (fun s m => s.mention m) (Scope.ofItems before)
    s.symbols.Indexes s.declarations := by
  have named := outline_named proper
  rw [items] at named
  have valid := Scope.ofItems_valid fun earlier member => named earlier (List.mem_append_left _ member)
  have current := named step (List.mem_append_right _ List.mem_cons_self)
  exact (valid.mentions current.typeNames).1.indexes

end Items

-- For every source: the offsets of the tokenizer stay in order inside of it, so at every step there are the bytes that
-- it takes, and it comes to any number of tokens, which are those of the source; the delimiters of a string are cut off
-- between characters, and so are the parts of a tag string; and every symbol that leads to a declaration finds it, while
-- declarations are still read and in the end.
theorem reading_inside (limit : Nat) (file : String) (source : List UInt8) :
    (∀ m, Tokenizer.Reached limit file source m → m.Ordered source ∧
      (∃ later, m.nextChar = some later) ∧ ∀ kind, ∃ read, m.token kind = some read) ∧
    (∀ n, let tokens := Token.allOf limit file source
      ∃ m, (Tokenizer.ofSource limit file source).bind (·.first n) =
        some ((tokens.1 ++ .replicate n tokens.2).take n, m) ∧ m.Ordered source) ∧
    (∀ token ∈ (Token.allOf limit file source).1, token.kind = .string →
      slice? 1 (byteCount token.text.toList - 1) token.text.toList = some (literalContent token.text)) ∧
    (∀ text, TagString.Cuts text) ∧
    (∀ before step after, (outline (.ofTokens (Token.allOf limit file source))).items = before ++ step :: after →
      let s := step.mentions.foldl (fun s m => s.mention m) (Scope.ofItems before)
      s.symbols.Indexes s.declarations) ∧
    let bound := Bound.ofOutline file (outline (.ofTokens (Token.allOf limit file source)))
    let resolved := (bound.file.resolve bound.placeholders).1
    resolved.symbols.Indexes resolved.declarations := by
  have proper := Tape.ofSource_proper limit file source
  refine ⟨fun m reached => ⟨reached.ordered, ?_, reached.ordered.token⟩, Tokenizer.ofSource_first limit file source,
    fun token member string => ?_, TagString.cuts, fun before step after => outline_registers proper, ?_⟩
  · obtain ⟨later, moved, _⟩ := reached.ordered.nextChar
    exact ⟨later, moved⟩
  · exact literalContent_slice (Token.allOf_quoted limit file source token member string)
  · exact SourceFile.resolve_indexes (outline_indexes proper) _

end WireSchema

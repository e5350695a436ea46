import WireSchema.Proofs.Grammar.Invalid
import WireSchema.Proofs.Permuted.Items

-- The texts of single declarations, one after the other: what is read of all of them is what is read of each.
namespace WireSchema
open Grammar Text

def Token.written (text : List UInt8) : List Token :=
  (allOf defaultLimit "" text).1.filter (·.kind ≠ .comment)

theorem Token.written_tokens (text : List UInt8) :
    (Tape.ofTokens (allOf defaultLimit "" text)).tokens = written text := Documented.ofTokens_tokens _ _ _

-- A text of one declaration: it starts with a word, ends with a line, and its tokens are those of a declaration, with
-- nothing but terminators behind it.
structure IsDeclarationText (text : List UInt8) : Prop where
  opens : Scan.startsWith isLetter (decode text) = true
  ends : text.getLast? = some 10
  written : ∃ front stray name, Token.written text = front ++ stray ∧ IsItem front name ∧
    (∃ word ∈ front.head?, (declared? word.kind).isSome) ∧ ∀ word ∈ stray, word.kind = .semicolon

def itemOf (text : List UInt8) : Step (Option (Declaration Unit)) :=
  item (.ofTokens (Token.allOf Token.defaultLimit "" text))

structure Grammar.Reads (steps : List (Step (Option (Declaration Unit)))) (texts : List (List UInt8)) : Prop where
  clean : ∀ step ∈ steps, step.problems = []
  declared : (steps.flatMap fun step => (step.value.map (·.content)).toList) =
    texts.flatMap fun text => ((itemOf text).value.map (·.content)).toList
  mentioned : (steps.flatMap fun step => step.mentions.map (·.name)) =
    texts.flatMap fun text => (itemOf text).mentions.map (·.name)

namespace Grammar
variable {steps : List (Step (Option (Declaration Unit)))} {texts : List (List UInt8)}

theorem Reads.stray {stray : List (Step (Option (Declaration Unit)))}
    (empty : ∀ step ∈ stray, step.problems = [] ∧ step.value = none ∧ step.mentions = []) (reads : Reads steps texts) :
    Reads (stray ++ steps) texts := by
  refine ⟨List.forall_mem_append.mpr ⟨fun step member => (empty step member).1, reads.clean⟩, ?_, ?_⟩
  · rw [List.flatMap_append, List.flatMap_eq_nil_iff.mpr, List.nil_append, reads.declared]
    intro step member
    rw [(empty step member).2.1]
    rfl
  · rw [List.flatMap_append, List.flatMap_eq_nil_iff.mpr, List.nil_append, reads.mentioned]
    intro step member
    rw [(empty step member).2.2]
    rfl

theorem Reads.more {step : Step (Option (Declaration Unit))} {text : List UInt8} {tape : Tape}
    (given : step.Given (itemOf text) tape) (reads : Reads steps texts) : Reads (step :: steps) (text :: texts) := by
  refine ⟨List.forall_mem_cons.mpr ⟨given.problems, reads.clean⟩, ?_, ?_⟩
  · rw [List.flatMap_cons, List.flatMap_cons, given.value, reads.declared]
  · rw [List.flatMap_cons, List.flatMap_cons, given.mentions, reads.mentioned]

theorem items_texts (declared : ∀ text ∈ texts, IsDeclarationText text) {words : List Documented} {finish : Documented}
    (proper : (Tape.mk words finish).Proper)
    (same : words.map (·.token.word) = texts.flatMap fun text => (Token.written text).map Token.word) :
    Reads (items ⟨words, finish⟩).value texts := by
  induction texts generalizing words with
  | nil =>
    obtain rfl : words = [] := List.map_eq_nil_iff.mp same
    rw [items_stop (t := ⟨[], finish⟩) proper.ended]
    exact ⟨by simp, rfl, rfl⟩
  | cons text rest ih =>
    obtain ⟨here, later⟩ := List.forall_mem_cons.mp declared
    obtain ⟨front, stray, name, written, isItem, ⟨word, isFirst, declares⟩, ends⟩ := here.written
    have own := (Token.written_tokens text).trans written
    have ownProper := Tape.ofSource_proper Token.defaultLimit "" text
    obtain ⟨as, zs, ahead, rfl, _⟩ := List.map_eq_append_iff.mp own
    rw [List.flatMap_cons, written, List.map_append, List.append_assoc, List.map_map] at same
    obtain ⟨bs, more, rfl, ofFront, more'⟩ := List.map_eq_append_iff.mp same
    obtain ⟨cs, behind, rfl, ofStray, ofRest⟩ := List.map_eq_append_iff.mp more'
    have words : as.map (·.token.word) = bs.map (·.token.word) := ofFront.symm
    have nonempty : as ≠ [] := by
      rintro rfl
      cases isFirst
    have given : Step.Given (item ⟨bs ++ (cs ++ behind), finish⟩) (itemOf text) ⟨cs ++ behind, finish⟩ := by
      have tape : Tape.mk (as ++ zs) (Tape.ofTokens (Token.allOf Token.defaultLimit "" text)).finish =
          .ofTokens (Token.allOf Token.defaultLimit "" text) := by rw [← ahead]
      rw [itemOf, ← tape]
      refine item_apart isItem ?_ (tape ▸ ownProper) words
      obtain ⟨first, others, rfl⟩ := List.exists_cons_of_ne_nil nonempty
      cases isFirst
      exact declares
    have more : (Tape.mk (bs ++ (cs ++ behind)) finish).current.kind ≠ .endOfFile := by
      obtain ⟨first, others, same⟩ := List.exists_cons_of_ne_nil (l := bs) (by
        rintro rfl
        exact nonempty (List.map_eq_nil_iff.mp words))
      rw [same]
      exact proper.unended first (by simp [same])
    have semicolons : ∀ w ∈ cs, w.kind = .semicolon := by
      intro w member
      have image := ofStray ▸ List.mem_map_of_mem (f := fun w : Documented => w.token.word) member
      obtain ⟨word, among, same⟩ := List.mem_map.mp image
      exact (congrArg Prod.fst same).symm.trans (ends word among)
    have properRest := proper.leads (item_takes.forward ⟨bs ++ (cs ++ behind), finish⟩)
    rw [given.tape] at properRest
    rw [items_go proper more, given.tape]
    obtain ⟨stray, after, empty⟩ := items_stray semicolons properRest
    have leads : Tape.Leads ⟨cs ++ behind, finish⟩ ⟨behind, finish⟩ := ⟨List.suffix_append cs behind, rfl⟩
    rw [after]
    exact .more given (.stray empty (ih later (properRest.leads leads) ofRest))

def Terminated (ws : List Token) : Prop := ∃ word ∈ ws.getLast?, word.kind = .semicolon

theorem Terminated.append {ws : List Token} (front : List Token) (terminated : Terminated ws) :
    Terminated (front ++ ws) := by
  obtain ⟨word, member, ends⟩ := terminated
  refine ⟨word, ?_, ends⟩
  rw [List.getLast?_append, member]
  rfl

theorem Terminated.stray {ws stray : List Token} (terminated : Terminated ws)
    (ends : ∀ word ∈ stray, word.kind = .semicolon) : Terminated (ws ++ stray) := by
  cases last : stray.getLast? with
  | none =>
    rw [List.getLast?_eq_none_iff.mp last, List.append_nil]
    exact terminated
  | some word => exact .append ws ⟨word, last, ends word (List.mem_of_getLast? last)⟩

theorem Terminated.commented {tokens : List Token} (terminated : Terminated (tokens.filter (·.kind ≠ .comment))) :
    ∃ token ∈ tokens.getLast?, token.kind = .semicolon ∨ token.kind = .comment := by
  obtain ⟨word, member, ends⟩ := terminated
  obtain ⟨last, found⟩ : ∃ last, tokens.getLast? = some last := by
    cases nothing : tokens.getLast? with
    | some last => exact ⟨last, rfl⟩
    | none =>
      rw [List.getLast?_eq_none_iff.mp nothing] at member
      cases member
  refine ⟨last, found, ?_⟩
  by_cases comment : last.kind = .comment
  · exact .inr comment
  · obtain ⟨front, rfl⟩ := List.getLast?_eq_some_iff.mp found
    rw [List.filter_append, List.filter_cons_of_pos (by simpa using comment), List.filter_nil,
      List.getLast?_concat] at member
    cases member
    exact .inl ends

theorem isItem_terminated {front : List Token} {name : Option String} (isItem : IsItem front name) :
    Terminated front := by
  have single : ∀ {ws}, Language.token .semicolon ws → Terminated ws := by
    rintro _ ⟨word, rfl, ends⟩
    exact ⟨word, rfl, ends⟩
  have behind : ∀ {L M : Language}, (∀ {ws}, M ws → Terminated ws) → ∀ {ws}, (L.seq M) ws → Terminated ws := by
    rintro L M later _ ⟨a, b, rfl, _, last⟩
    exact (later last).append a
  have block : ∀ {word : Keyword} {members : Language}, ∀ {ws}, blocks word members ws → Terminated ws :=
    behind (behind (behind (behind (behind single))))
  cases isItem with
  | empty alone => exact single alone
  | const written => exact behind (behind (behind (behind single))) written
  | enumeration written => exact block written
  | struct written => exact block written
  | union written => exact block written
  | service written => exact block written

end Grammar

namespace IsDeclarationText
variable {text : List UInt8}

theorem item (isText : IsDeclarationText text) : (itemOf text).problems = [] ∧ (∃ d, (itemOf text).value = some d) ∧
    ∀ word ∈ (itemOf text).tape.tokens, word.kind = .semicolon := by
  obtain ⟨front, stray, name, written, isItem, ⟨word, isFirst, declares⟩, ends⟩ := isText.written
  have proper := Tape.ofSource_proper Token.defaultLimit "" text
  have own := (Token.written_tokens text).trans written
  obtain ⟨clean, _, left⟩ := item_complete isItem proper own
  refine ⟨clean, ?_, left ▸ ends⟩
  have undeclared : ∀ word ∈ stray, declared? word.kind = none := by
    intro word member
    rw [ends word member]
    rfl
  have told := item_told proper clean
  rw [own, left, ← List.append_nil stray, entriesIn_undeclared undeclared] at told
  cases value : (itemOf text).value with
  | some d => exact ⟨d, rfl⟩
  | none =>
    obtain ⟨others, rfl⟩ : ∃ others, front = word :: others := List.head?_eq_some_iff.mp isFirst
    obtain ⟨kind, same⟩ := Option.isSome_iff_exists.mp declares
    rw [itemOf] at value
    simp [value, entriesIn, same] at told

theorem of_item (opens : Scan.startsWith isLetter (decode text) = true) (ends : text.getLast? = some 10)
    (declares : (declared? (nextKind (Token.written text))).isSome) (clean : (itemOf text).problems = [])
    (terminators : ∀ word ∈ (itemOf text).tape.tokens, word.kind = .semicolon) : IsDeclarationText text := by
  have proper := Tape.ofSource_proper Token.defaultLimit "" text
  obtain ⟨front, between, isItem⟩ := item_sound proper clean
  refine ⟨opens, ends, front, _, _, (Token.written_tokens text).symm.trans between, isItem, ?_, terminators⟩
  obtain ⟨word, rest, rfl, _⟩ := item_starts isItem
  rw [← Token.written_tokens, between] at declares
  exact ⟨word, rfl, declares⟩

theorem closed (isText : IsDeclarationText text) : Token.Closed Token.defaultLimit text := by
  obtain ⟨front, stray, name, written, isItem, _, ends⟩ := isText.written
  refine ⟨isText.opens, isText.ends, fun token member => ⟨?_, ?_⟩, ?_⟩
  · exact ((Token.allOf_identifiers Token.defaultLimit "" text).1 token member).2
  · intro error invalid
    obtain ⟨clean, _, terminators⟩ := isText.item
    have settled := (item_settles _ _ (Tape.ofSource_proper Token.defaultLimit "" text) rfl).settled
    have behind : invalidIn (itemOf text).tape.tokens = [] := by
      rw [invalidIn, List.filterMap_eq_nil_iff]
      intro word among
      simp [Token.invalid?, terminators word among]
    rw [itemOf] at behind clean
    rw [behind, clean, Token.written_tokens] at settled
    have among : token ∈ Token.written text := List.mem_filter.mpr ⟨member, by simp [invalid]⟩
    have valid := List.filterMap_eq_nil_iff.mp settled token among
    simp [Token.invalid?, invalid] at valid
  · have terminated := (isItem_terminated isItem).stray ends
    rw [← written] at terminated
    exact terminated.commented

end IsDeclarationText
end WireSchema

import Mathlib
import WireSchema.Proofs.Permuted.Files
import WireSchema.Proofs.Permuted.Heads

-- The order of declarations does not matter: a source that is accepted is accepted with its declarations in any other
-- order, they say the same, and every reference in them leads to the same.
namespace WireSchema
open Grammar Text

def IsHeadText (name : String) (head body : List UInt8) : Prop := ∃ n,
  let front := (Scanner.start (decode (head ++ body))).first Token.defaultLimit name n
  IsHead (front.1.filter (·.kind ≠ .comment)) ∧ front.2.skip.ahead = decode body

section Words
variable {texts others : List (List UInt8)}

theorem texts_closed (declared : ∀ text ∈ texts, IsDeclarationText text) :
    ∀ text ∈ texts, Token.Closed Token.defaultLimit text := fun text member => (declared text member).closed

theorem written_words (declared : ∀ text ∈ texts, IsDeclarationText text) (file : String) (place : Place) :
    ((((⟨decode texts.flatten, place, false⟩ : Scanner).tokens Token.defaultLimit file).1.filter
      (·.kind ≠ .comment)).map Token.word) = texts.flatMap fun text => (Token.written text).map Token.word := by
  have uncommented : ∀ tokens : List Token, (tokens.filter (·.kind ≠ .comment)).map Token.word =
      (tokens.map Token.word).filter (·.1 ≠ .comment) := by
    intro tokens
    rw [List.filter_map]
    rfl
  rw [uncommented, Scanner.texts_words (texts_closed declared), List.filter_flatMap]
  simp only [Token.written, uncommented]

theorem head_written {name : String} {head : List UInt8} (isHead : IsHeadText name head texts.flatten)
    (declared : ∀ text ∈ texts, IsDeclarationText text) :
    ∃ ws, IsHead ws ∧ ∀ others : List (List UInt8), (∀ text ∈ others, IsDeclarationText text) →
      (texts.flatten = [] → others.flatten = []) → ∃ rest,
        (Tape.ofTokens (Token.allOf Token.defaultLimit name (head ++ others.flatten))).tokens = ws ++ rest ∧
        rest.map Token.word = others.flatMap fun text => (Token.written text).map Token.word := by
  obtain ⟨n, isHead, cut⟩ := isHead
  refine ⟨_, isHead, fun others declaredToo some => ?_⟩
  have whole : ∀ token ∈ ((Scanner.start (decode (head ++ texts.flatten))).first Token.defaultLimit name n).1,
      Scanner.Whole token.kind := by
    intro token member
    by_cases comment : token.kind = .comment
    · exact ⟨by simp [comment], by simp [comment]⟩
    · exact isHead.whole token (List.mem_filter.mpr ⟨member, by simpa using comment⟩)
  obtain ⟨stop, tokens⟩ := Scanner.head_tokens (Scanner.opens_texts (texts_closed declared))
    (Scanner.opens_texts (texts_closed declaredToo)) some whole cut isHead.terminated.commented
  have all : (Tape.ofTokens (Token.allOf Token.defaultLimit name (head ++ others.flatten))).tokens =
      (Token.allOf Token.defaultLimit name (head ++ others.flatten)).1.filter (·.kind ≠ .comment) :=
    Documented.ofTokens_tokens _ _ _
  rw [all, tokens, List.filter_append]
  exact ⟨_, rfl, written_words declaredToo name stop⟩

end Words

namespace SourceFile
variable {name : String} {source other : List UInt8} {texts others : List (List UInt8)}

def ReadAs (name : String) (source : List UInt8) (texts : List (List UInt8)) : Prop :=
  (outline (.ofTokens (Token.allOf Token.defaultLimit name source))).headProblems = [] ∧
    Reads (outline (.ofTokens (Token.allOf Token.defaultLimit name source))).items texts

theorem ReadAs.declarations (reads : ReadAs name source texts) :
    (understand name source).1.declarations.map (·.content) =
      texts.flatMap fun text => ((itemOf text).value.map (·.content)).toList := by
  have contents := Scope.ofItems_map Declaration.content_withSymbols
    (outline (.ofTokens (Token.allOf Token.defaultLimit name source))).items
  rw [(understand_declarations name source).1, ← reads.2.declared]
  refine contents.trans ?_
  simp only [Option.toList_map]

theorem ReadAs.mentions (reads : ReadAs name source texts) : (mentions name source).map (·.name) =
    texts.flatMap fun text => (itemOf text).mentions.map (·.name) := by
  rw [SourceFile.mentions, SourceFile.tape, List.map_flatMap, reads.2.mentioned]

theorem ReadAs.accepted (reads : ReadAs name source texts)
    (distinct : ((understand name source).1.declarations.filterMap (·.typeName?)).Nodup)
    (known : ∀ m ∈ SourceFile.mentions name source, (understand name source).1.typeDeclaration? m.name ≠ none ∨
      (understand name source).1.importOf? m.name ≠ none)
    (rules : (understand name source).1.violations = []) : (understand name source).2 = [] := by
  obtain ⟨head, items⟩ := reads
  obtain ⟨scope, valid, records, declarations, symbols, placeholders, _⟩ := bound_records name source
  have bound : (bound name source).problems = [] := by
    have names : declaredNames (outline (.ofTokens (Token.allOf Token.defaultLimit name source))).items =
        (understand name source).1.declarations.filterMap (·.typeName?) := by
      rw [← Scope.ofItems_typeNames, (understand_declarations name source).1]
      rfl
    exact (bound_problems name source).mpr ⟨head, items.clean, names ▸ distinct⟩
  have resolved : ((SourceFile.bound name source).file.resolve (SourceFile.bound name source).placeholders).2 = [] := by
    rw [resolve_problems, List.flatMap_eq_nil_iff, placeholders]
    intro p member
    obtain ⟨written, _, used, reported⟩ := undefined_eq records valid symbols declarations member
    rw [reported, if_neg]
    rintro ⟨undeclared, unqualified⟩
    have mentioned := known _ (List.mem_of_find?_eq_some used)
    rw [typeDeclaration?_bound, importOf?_bound] at mentioned
    exact mentioned.elim (absurd undeclared) (absurd unqualified)
  refine Findings.sort_eq_nil.mpr ?_
  rw [bound, resolved]
  exact rules

theorem known_of_clean (clean : (understand name source).2 = []) {m : Mention}
    (member : m ∈ SourceFile.mentions name source) : (understand name source).1.typeDeclaration? m.name ≠ none ∨
      (understand name source).1.importOf? m.name ≠ none := by
  by_contra neither
  obtain ⟨undeclared, unqualified⟩ := not_or.mp neither
  have isTypeName : IsTypeName m.name := by
    obtain ⟨step, among, inside⟩ := List.mem_flatMap.mp member
    exact (outline_named (Tape.ofSource_proper _ _ _) step among).typeNames m inside
  obtain ⟨first, used⟩ : ∃ first, (SourceFile.mentions name source).find? (·.name = m.name) = some first := by
    rw [← Option.isSome_iff_exists, List.find?_isSome]
    exact ⟨m, member, by simp⟩
  have once := understand_once used (not_not.mp undeclared) fun qualifies =>
    Option.isSome_iff_ne_none.mp (qualifies.importOf? isTypeName) (not_not.mp unqualified)
  rw [clean] at once
  cases once

section Orders
variable (reads : ReadAs name source texts) (readsToo : ReadAs name other others) (order : texts.Perm others)
  (imports : (understand name source).1.imports = (understand name other).1.imports)
  (clean : (understand name source).2 = [])
include reads readsToo order imports clean

theorem ReadAs.rearranged : (understand name source).1.Rearranged (understand name other).1 where
  imports := imports
  declared := by
    rw [reads.declarations, readsToo.declarations]
    exact order.flatMap_right _
  distinct := understand_typeNames clean

theorem ReadAs.still_accepted : (understand name other).2 = [] := by
  have rearranged := reads.rearranged readsToo order imports clean
  have violations := rearranged.violations (understand_resolved name source) (understand_resolved name other)
    (understand_clean clean).2.2
  refine readsToo.accepted (rearranged.typeNames.nodup_iff.mp rearranged.distinct) (fun m member => ?_) violations
  have names := readsToo.mentions ▸ List.mem_map_of_mem (f := fun m : Mention => m.name) member
  have namesToo := reads.mentions ▸ (order.flatMap_right _).mem_iff.mpr names
  obtain ⟨used, among, same⟩ := List.mem_map.mp namesToo
  have known := known_of_clean clean among
  have declared := rearranged.typeDeclaration? m.name
  rw [same, rearranged.importOf?] at known
  refine known.imp_left fun found none => found ?_
  rw [none, Option.map_none, Option.map_eq_none_iff] at declared
  exact declared

end Orders

theorem somes_map {α β : Type} {f : α → Option β} {xs : List α} (each : ∀ x ∈ xs, ∃ y, f x = some y) :
    (xs.flatMap fun x => (f x).toList).map some = xs.map f := by
  induction xs with
  | nil => rfl
  | cons x xs ih =>
    obtain ⟨⟨y, found⟩, others⟩ := List.forall_mem_cons.mp each
    rw [List.flatMap_cons, List.map_append, ih others, List.map_cons, found]
    rfl

theorem ReadAs.each {n : Nat} {texts : Fin n → List UInt8} (reads : ReadAs name source (List.ofFn texts))
    (declared : ∀ i, IsDeclarationText (texts i)) : ∃ ds : Fin n → Declaration SymbolId,
      (understand name source).1.declarations = List.ofFn ds ∧
      ∀ i, (itemOf (texts i)).value.map (·.content) = some (ds i).content := by
  have contents := congrArg (List.map some) reads.declarations
  rw [somes_map, List.map_map, List.map_ofFn] at contents
  · have length := congrArg List.length contents
    rw [List.length_map, List.length_ofFn] at length
    subst length
    refine ⟨_, (List.ofFn_get _).symm, fun i => ?_⟩
    have atIndex := congrArg (·[i.val]?) contents
    simpa using atIndex.symm
  · intro text member
    obtain ⟨i, rfl⟩ := List.mem_ofFn.mp member
    obtain ⟨_, ⟨d, found⟩, _⟩ := (declared i).item
    exact ⟨d.content, by rw [found, Option.map_some]⟩

def LeadAlike (file other : SourceFile) (d e : Declaration SymbolId) : Prop :=
  List.Forall₂ (fun r q => ∃ a b, file.target? r = some a ∧ other.target? q = some b ∧ a.Same b) d.references
    e.references

theorem Rearranged.leadAlike {file other : SourceFile} (rearranged : file.Rearranged other) (clean : file.Clean)
    (resolved : other.Resolved) {d e : Declaration SymbolId} (member : d ∈ file.declarations)
    (among : e ∈ other.declarations) (same : d.content = e.content) : file.LeadAlike other d e := by
  have texts : d.references.map (·.text) = e.references.map (·.text) := by
    rw [← Declaration.texts_content, same, Declaration.texts_content]
  refine forall₂_of_map texts fun r inside q insideToo named => ?_
  have leads := rearranged.target? clean.resolved resolved member among inside insideToo named
  obtain ⟨a, found⟩ := Option.isSome_iff_exists.mp (clean.target member inside)
  rw [found] at leads
  cases target : other.target? q with
  | none =>
    rw [target] at leads
    cases leads
  | some b =>
    rw [target] at leads
    cases leads with
    | some same => exact ⟨a, b, found, rfl, same⟩

end SourceFile

-- Every source of a package clause, imports and declarations that is accepted is accepted with its declarations in any
-- other order. It has the same imports then, each declaration says the same as before, and each reference leads to a
-- declaration of the same name and kind, or to the same import.
theorem SourceFile.understand_permuted {n : Nat} (name : String) (head : List UInt8) (texts : Fin n → List UInt8)
    (order : Equiv.Perm (Fin n)) (isHead : IsHeadText name head (List.ofFn texts).flatten)
    (declared : ∀ i, IsDeclarationText (texts i))
    (accepted : (understand name (head ++ (List.ofFn texts).flatten)).2 = []) :
    let file := (understand name (head ++ (List.ofFn texts).flatten)).1
    let permuted := understand name (head ++ (List.ofFn (texts ∘ order)).flatten)
    permuted.2 = [] ∧ permuted.1.imports = file.imports ∧
      ∃ ds es : Fin n → Declaration SymbolId, file.declarations = List.ofFn ds ∧
        permuted.1.declarations = List.ofFn es ∧
        ∀ i, (es i).content = (ds (order i)).content ∧ file.LeadAlike permuted.1 (ds (order i)) (es i) := by
  intro file permuted
  have each : ∀ text ∈ List.ofFn texts, IsDeclarationText text := by simpa using declared
  have eachToo : ∀ text ∈ List.ofFn (texts ∘ order), IsDeclarationText text := by simp [declared]
  have perm := order.ofFn_comp_perm texts
  have some : (List.ofFn texts).flatten = [] → (List.ofFn (texts ∘ order)).flatten = [] :=
    fun none => List.Perm.eq_nil (none ▸ perm.flatten)
  obtain ⟨ws, isWords, written⟩ := head_written isHead each
  obtain ⟨rest, tokens, words⟩ := written _ each id
  obtain ⟨restToo, tokensToo, wordsToo⟩ := written _ eachToo some
  have proper := Tape.ofSource_proper Token.defaultLimit name (head ++ (List.ofFn texts).flatten)
  have properToo := Tape.ofSource_proper Token.defaultLimit name (head ++ (List.ofFn (texts ∘ order)).flatten)
  have reads := outline_reads each words isWords proper tokens
  have readsToo := outline_reads eachToo wordsToo isWords properToo tokensToo
  have imports : file.imports = permuted.1.imports := by
    rw [(understand_declarations _ _).2, (understand_declarations _ _).2]
    exact outline_imports isWords proper properToo tokens tokensToo (texts_follow each words)
      (texts_follow eachToo wordsToo)
  have rearranged := ReadAs.rearranged reads readsToo perm.symm imports accepted
  have clean : file.Clean := ⟨name, _, rfl, accepted⟩
  obtain ⟨ds, declarations, contents⟩ := ReadAs.each reads declared
  obtain ⟨es, declarationsToo, contentsToo⟩ := ReadAs.each readsToo fun i => declared (order i)
  refine ⟨ReadAs.still_accepted reads readsToo perm.symm imports accepted, imports.symm, ds, es, declarations,
    declarationsToo, fun i => ?_⟩
  have same : (ds (order i)).content = (es i).content :=
    Option.some.inj ((contents (order i)).symm.trans (contentsToo i))
  refine ⟨same.symm, rearranged.leadAlike clean (understand_resolved _ _) ?_ ?_ same⟩
  · rw [declarations]
    exact List.mem_ofFn.mpr ⟨_, rfl⟩
  · rw [declarationsToo]
    exact List.mem_ofFn.mpr ⟨_, rfl⟩

namespace SwappedStructs

def head : List UInt8 := encode "package p; import \"q\"\n".toList

def user : List UInt8 := encode "struct A \x7b b B \"1\"; c q.C \"2\" \x7d\n".toList

def used : List UInt8 := encode "struct B \x7b \x7d\n".toList

def texts : Fin 2 → List UInt8 := fun i => if i = 0 then user else used

def place (line column : Nat) : Position := ⟨"", line, column⟩

theorem userTokens : Token.allOf Token.defaultLimit "" user = ([
    ⟨.keyword .struct, "struct", place 1 1⟩, ⟨.identifier, "A", place 1 8⟩, ⟨.openBrace, "\x7b", place 1 10⟩,
    ⟨.identifier, "b", place 1 12⟩, ⟨.identifier, "B", place 1 14⟩, ⟨.string, "\"1\"", place 1 16⟩,
    ⟨.semicolon, ";", place 1 19⟩, ⟨.identifier, "c", place 1 21⟩, ⟨.identifier, "q", place 1 23⟩,
    ⟨.period, ".", place 1 24⟩, ⟨.identifier, "C", place 1 25⟩, ⟨.string, "\"2\"", place 1 27⟩,
    ⟨.closeBrace, "\x7d", place 1 31⟩, ⟨.semicolon, "\n", place 1 32⟩], ⟨.endOfFile, "", place 2 1⟩) := by
  exact Token.allOf_first (n := 14) rfl rfl (by decide) rfl

theorem usedTokens : Token.allOf Token.defaultLimit "" used = ([
    ⟨.keyword .struct, "struct", place 1 1⟩, ⟨.identifier, "B", place 1 8⟩, ⟨.openBrace, "\x7b", place 1 10⟩,
    ⟨.closeBrace, "\x7d", place 1 12⟩, ⟨.semicolon, "\n", place 1 13⟩], ⟨.endOfFile, "", place 2 1⟩) := by
  exact Token.allOf_first (n := 5) rfl rfl (by decide) rfl

theorem tokens : Token.allOf Token.defaultLimit "" (head ++ (List.ofFn texts).flatten) = ([
    ⟨.keyword .package, "package", place 1 1⟩, ⟨.identifier, "p", place 1 9⟩, ⟨.semicolon, ";", place 1 10⟩,
    ⟨.keyword .importing, "import", place 1 12⟩, ⟨.string, "\"q\"", place 1 19⟩, ⟨.semicolon, "\n", place 1 22⟩,
    ⟨.keyword .struct, "struct", place 2 1⟩, ⟨.identifier, "A", place 2 8⟩, ⟨.openBrace, "\x7b", place 2 10⟩,
    ⟨.identifier, "b", place 2 12⟩, ⟨.identifier, "B", place 2 14⟩, ⟨.string, "\"1\"", place 2 16⟩,
    ⟨.semicolon, ";", place 2 19⟩, ⟨.identifier, "c", place 2 21⟩, ⟨.identifier, "q", place 2 23⟩,
    ⟨.period, ".", place 2 24⟩, ⟨.identifier, "C", place 2 25⟩, ⟨.string, "\"2\"", place 2 27⟩,
    ⟨.closeBrace, "\x7d", place 2 31⟩, ⟨.semicolon, "\n", place 2 32⟩,
    ⟨.keyword .struct, "struct", place 3 1⟩, ⟨.identifier, "B", place 3 8⟩, ⟨.openBrace, "\x7b", place 3 10⟩,
    ⟨.closeBrace, "\x7d", place 3 12⟩, ⟨.semicolon, "\n", place 3 13⟩], ⟨.endOfFile, "", place 4 1⟩) := by
  exact Scanner.tokens_first (n := 25) rfl (by decide) rfl

theorem isHead : IsHeadText "" head (List.ofFn texts).flatten := by
  refine ⟨6, ?_, by decide⟩
  have front : ((Scanner.start (decode (head ++ (List.ofFn texts).flatten))).first Token.defaultLimit "" 6).1 = [
      ⟨.keyword .package, "package", place 1 1⟩, ⟨.identifier, "p", place 1 9⟩, ⟨.semicolon, ";", place 1 10⟩,
      ⟨.keyword .importing, "import", place 1 12⟩, ⟨.string, "\"q\"", place 1 19⟩,
      ⟨.semicolon, "\n", place 1 22⟩] := by decide
  rw [front]
  have clause : (Language.token (.keyword .package)).seq
      ((Language.token .identifier).seq (Language.token .semicolon)) [
      ⟨.keyword .package, "package", place 1 1⟩, ⟨.identifier, "p", place 1 9⟩, ⟨.semicolon, ";", place 1 10⟩] :=
    ⟨[_], _, rfl, ⟨_, rfl, rfl⟩, [_], _, rfl, ⟨_, rfl, rfl⟩, _, rfl, rfl⟩
  have imported : IsImports [] ([⟨.keyword .importing, "import", place 1 12⟩, ⟨.string, "\"q\"", place 1 19⟩,
      ⟨.semicolon, "\n", place 1 22⟩] ++ []) :=
    .more (.plain rfl rfl rfl) (by decide) (by decide) (by simp) .none
  have nothing : ∀ word ∈ ([] : List Token), word.kind = .semicolon := by simp
  exact .head clause imported nothing

theorem userDeclared : IsDeclarationText user := by
  refine .of_item (by decide) (by decide) ?_ ?_ ?_
  · rw [Token.written, userTokens]
    rfl
  · rw [itemOf, userTokens]
    cbv
  · have left : (itemOf user).tape.tokens = [] := by
      rw [itemOf, userTokens]
      cbv
    simp [left]

theorem usedDeclared : IsDeclarationText used := by
  refine .of_item (by decide) (by decide) ?_ ?_ ?_
  · rw [Token.written, usedTokens]
    rfl
  · rw [itemOf, usedTokens]
    cbv
  · have left : (itemOf used).tape.tokens = [] := by
      rw [itemOf, usedTokens]
      cbv
    simp [left]

theorem declared (i : Fin 2) : IsDeclarationText (texts i) := by
  unfold texts
  split
  · exact userDeclared
  · exact usedDeclared

theorem accepted : (SourceFile.understand "" (head ++ (List.ofFn texts).flatten)).2 = [] := by
  rw [SourceFile.understand, SourceFile.bound, tokens]
  cbv

theorem still_accepted_swapped : IsHeadText "" head (List.ofFn texts).flatten ∧ (∀ i, IsDeclarationText (texts i)) ∧
    (SourceFile.understand "" (head ++ (List.ofFn texts).flatten)).2 = [] ∧
    (SourceFile.understand "" (head ++ (List.ofFn (texts ∘ Equiv.swap 0 1)).flatten)).2 = [] :=
  ⟨isHead, declared, accepted,
    (SourceFile.understand_permuted "" head texts (Equiv.swap 0 1) isHead declared accepted).1⟩

end SwappedStructs

end WireSchema

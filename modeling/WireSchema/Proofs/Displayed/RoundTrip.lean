import Mathlib.Algebra.Order.BigOperators.Group.List
import Mathlib.Algebra.Order.Group.Nat
import WireSchema.Proofs.Displayed.Types
import WireSchema.Proofs.Names.Acceptance

-- The name that a type is displayed by is read as that type.
namespace WireSchema
open Text Grammar

namespace ValueType
variable {σ τ : Type}

section Symbols
variable (symbol : Reference σ → τ) (type : ValueType σ)

@[simp] theorem text_withSymbols : (type.withSymbols symbol).text = type.text := by
  induction type with
  | array size element ih => simp [withSymbols, text, ih]
  | map key value ihKey ihValue => simp [withSymbols, text, ihKey, ihValue]
  | pointer value ih => simp [withSymbols, text, ih]
  | _ => rfl

@[simp] theorem isArray_withSymbols : (type.withSymbols symbol).isArray = type.isArray := by cases type <;> rfl

@[simp] theorem isPointerBarrier_withSymbols : (type.withSymbols symbol).isPointerBarrier = type.isPointerBarrier := by
  cases type <;> rfl

@[simp] theorem misplaced_withSymbols : (type.withSymbols symbol).misplaced = type.misplaced := by
  induction type with
  | array size element ih => simp [withSymbols, misplaced, text, ih]
  | map key value ihKey ihValue => simp [withSymbols, misplaced, ihKey, ihValue]
  | pointer value ih => simp [withSymbols, misplaced, ih]
  | _ => rfl

end Symbols
end ValueType

namespace Grammar

def typeOf (limit : Nat) (file : String) (source : List UInt8) : Step (Option (ValueType Unit)) :=
  type (.ofTokens (Token.allOf limit file source))

def Step.symbols {α : Type} (s : Step α) : SymbolTable :=
  (s.mentions.foldl (fun scope m => scope.mention m) Scope.empty).symbols

def Step.bound (s : Step (Option (ValueType Unit))) : Option (ValueType SymbolId) :=
  s.value.map (·.withSymbols (Scope.symbolOf s.symbols))

end Grammar

-- Every reference of a type has a symbol with its text for a name, so that references with one text share a symbol.
structure ValueType.Named (type : ValueType SymbolId) (table : SymbolTable) : Prop where
  named : ∀ r ∈ type.references, table.get? r.symbol = some ⟨r.text, none⟩
  shared : ∀ a ∈ type.references, ∀ b ∈ type.references, a.symbol = b.symbol ↔ a.text = b.text

-- A step over a whole text that comes out with a type, but for the numbers of its symbols: what is left is the end of
-- the statement behind the text, and what is reported is what is misplaced in the type.
structure ValueType.ReadFrom {σ : Type} (type : ValueType σ) (file text : String) (s : Step (Option (ValueType Unit))) :
    Prop where
  read : ∃ read, s.bound = some read ∧ read.erased = type.erased ∧ read.Named s.symbols
  reported : s.problems.map (·.content) = type.misplaced
  whole : ∃ p, p = Place.start.pastAll text.toList ∧ s.tape.tokens = [⟨.semicolon, "\n", ⟨file, p.line, p.column⟩⟩] ∧
    s.tape.finish.token = ⟨.endOfFile, "", ⟨file, p.line, p.column⟩⟩

namespace Grammar

theorem type_named {t : Tape} (proper : t.Proper) {value : ValueType SymbolId} (bound : (type t).bound = some value) :
    value.Named (type t).symbols := by
  obtain ⟨read, found, rfl⟩ := Option.map_eq_some_iff.mp bound
  have noted := type_notes [] t proper
  obtain ⟨valid, _, known⟩ := Scope.empty_valid.mentions noted.named
  have undeclared := (Scope.mentions_same (type t).mentions Scope.empty).2
  have named : ∀ r ∈ (read.withSymbols (Scope.symbolOf (type t).symbols)).references,
      (type t).symbols.lookup r.text = some r.symbol := by
    intro r member
    rw [ValueType.references_withSymbols] at member
    obtain ⟨reference, inside, rfl⟩ := List.mem_map.mp member
    have among : reference ∈ optionalReferences (type t).value := by simpa [optionalReferences, found] using inside
    obtain ⟨m, mentioned, rfl⟩ := List.mem_map.mp ((noted.mentioned reference among).resolve_left (by simp))
    have hasSymbol : ((type t).symbols.lookup m.reference.text).isSome := by
      rw [Mention.reference, Reference.ofName_text]
      exact known m mentioned
    obtain ⟨id, symbol⟩ := Option.isSome_iff_exists.mp hasSymbol
    rw [Scope.symbolOf, symbol]
    exact symbol
  refine ⟨fun r member => ?_, fun a first b second => ?_⟩
  · obtain ⟨target, atId⟩ := valid.exact.named (named r member)
    have none : target = none := by
      have own := valid.targets _ _ atId
      rwa [undeclared] at own
    exact none ▸ atId
  · have ofFirst := named a first
    have ofSecond := named b second
    constructor
    · intro same
      obtain ⟨_, atFirst⟩ := valid.exact.named ofFirst
      obtain ⟨_, atSecond⟩ := valid.exact.named ofSecond
      rw [same, atSecond] at atFirst
      exact (congrArg Symbol.name (Option.some.inj atFirst)).symm
    · intro same
      rw [same, ofSecond] at ofFirst
      exact (Option.some.inj ofFirst).symm

end Grammar

namespace ValueType
variable {σ τ : Type} {type : ValueType σ}

theorem Writable.read_from (writable : type.Writable) {limit : Nat} (ten : 10 ≤ limit)
    (short : ∀ name ∈ type.names, byteCount name.toList ≤ limit) (file : String) :
    type.ReadFrom file type.text (typeOf limit file (encode type.text.toList)) := by
  have lexes : LexesAll type.words [] := writable.words_lex rfl
  obtain ⟨front, p, place, spelled, tokens⟩ := Token.allOf_words lexes (writable.words_fit ten short) type.words_last file
  have proper := Tape.ofSource_proper limit file (encode type.text.toList)
  rw [← text_spelling] at place tokens
  have uncommented : ∀ token ∈ front, token.kind ≠ .comment := by
    intro token member
    have among := List.mem_map_of_mem (f := Token.word) member
    rw [spelled] at among
    exact lexes.uncommented _ among
  have written : (Tape.ofTokens (Token.allOf limit file (encode type.text.toList))).tokens =
      front ++ [⟨.semicolon, "\n", ⟨file, p.line, p.column⟩⟩] := by
    have all := List.filter_eq_self.mpr fun token member => decide_eq_true (uncommented token member)
    rw [Tape.tokens, Tape.ofTokens, Documented.ofTokens_tokens, tokens, List.filter_append, all]
    rfl
  have completes := type_complete (writable.denotes spelled) proper written (by simp [nextKind])
  have finish : (typeOf limit file (encode type.text.toList)).tape.finish.token =
      ⟨.endOfFile, "", ⟨file, p.line, p.column⟩⟩ := by
    have same := (type_forward (.ofTokens (Token.allOf limit file (encode type.text.toList)))).2
    rw [typeOf, same, Tape.ofTokens, Documented.ofTokens_finish, tokens]
  have bound : (typeOf limit file (encode type.text.toList)).bound = some (type.erased.withSymbols
      (Scope.symbolOf (typeOf limit file (encode type.text.toList)).symbols)) := by
    rw [Step.bound, typeOf, completes.value]
    rfl
  refine ⟨⟨_, bound, ?_, type_named proper bound⟩, ?_, p, place, completes.left, finish⟩
  · simp [erased, withSymbols_withSymbols]
  · rw [typeOf, completes.problems]
    exact misplaced_withSymbols _ type

-- No two types that can be written are displayed alike, but for the numbers of their symbols; and a type is read from
-- what it is displayed as, if none of its names is too long for a token.
theorem text_round_trip (writable : type.Writable) :
    ((∀ name ∈ type.names, byteCount name.toList ≤ Token.defaultLimit) → ∀ file,
      type.ReadFrom file type.text (typeOf Token.defaultLimit file (encode type.text.toList))) ∧
    ∀ other : ValueType τ, other.Writable → other.text = type.text → other.erased = type.erased := by
  refine ⟨fun short file => writable.read_from (by decide) short file, fun other writableToo same => ?_⟩
  -- Both are read from the one text under a limit that is large enough for the names of both.
  let sizes := (type.names ++ other.names).map fun name => byteCount name.toList
  have short : ∀ name ∈ type.names ++ other.names, byteCount name.toList ≤ 10 + sizes.sum := by
    intro name member
    exact Nat.le_add_left_of_le (List.le_sum_of_mem (List.mem_map_of_mem member))
  rw [List.forall_mem_append] at short
  obtain ⟨read, found, here, _⟩ := (writable.read_from (Nat.le_add_right 10 _) short.1 "").read
  obtain ⟨also, foundToo, there, _⟩ := (writableToo.read_from (Nat.le_add_right 10 _) short.2 "").read
  rw [same, found] at foundToo
  cases foundToo
  exact there.symm.trans here

end ValueType

namespace NestedArray

def type : ValueType SymbolId := .array 3 (.array 0 (.map .string (.pointer (.defined ⟨some "p", "T", 7⟩))))

theorem writable : type.Writable := by
  have key : ("string", ValueType.string) ∈ ValueType.builtins (σ := SymbolId) := by simp [ValueType.builtins]
  have reference : Reference.Writable (σ := SymbolId) ⟨some "p", "T", 7⟩ :=
    ⟨by decide, by simpa using (by decide : IsIdentifier "p"), by simp⟩
  exact .array (.array (.map (.builtin key) (.pointer (.defined reference))))

theorem read_back : type.ReadFrom "" "[3][]map[string]*p.T"
      (typeOf Token.defaultLimit "" (encode "[3][]map[string]*p.T".toList)) ∧
    type.misplaced = [.nestedArray "[3][]map[string]*p.T"] := by
  have text : type.text = "[3][]map[string]*p.T" := by decide +kernel
  have short : ∀ name ∈ type.names, byteCount name.toList ≤ Token.defaultLimit := by decide
  have read := (type.text_round_trip (τ := SymbolId) writable).1 short ""
  rw [text] at read
  exact ⟨read, by decide +kernel⟩

end NestedArray

theorem Grammar.typeOf_long {name : String} (isIdentifier : IsIdentifier name) {limit : Nat}
    (long : limit < byteCount name.toList) (file : String) : (typeOf limit file (encode name.toList)).value = none := by
  have lexes : Lexes (.identifier, name) [] := .identifier isIdentifier rfl
  have current := current_long lexes long file
  rw [Word.text] at current
  rw [typeOf, type_eq (Tape.ofSource_proper limit file _)]
  simp [typeWith, Reader.bind_apply, current, noType_apply]

namespace LongName
variable {n : Nat}

def name (n : Nat) : String := .ofList (.replicate n 'a')

theorem name_length : (name n).toList.length = n := by rw [name, String.toList_ofList, List.length_replicate]

theorem byteCount_name : byteCount (name n).toList = n := by
  have ascii : ∀ c ∈ (name n).toList, c.toNat < 0x80 := by
    rw [name, String.toList_ofList]
    intro c member
    cases List.eq_of_mem_replicate member
    decide
  rw [byteCount_ascii ascii, name_length]

theorem isIdentifier (long : 7 < n) : IsIdentifier (name n) := by
  refine ⟨⟨'a', .replicate (n - 1) 'a', ?_, by decide, ?_⟩, ?_⟩
  · rw [name, String.toList_ofList, ← List.replicate_succ, Nat.sub_add_cancel (by omega)]
  · intro c member
    cases List.eq_of_mem_replicate member
    decide
  · rw [Keyword.ofText?, List.find?_eq_none]
    intro word member same
    have short : ∀ word ∈ Keyword.all, word.text.toList.length ≤ 7 := by decide
    have bound := short word member
    rw [of_decide_eq_true same, name_length] at bound
    omega

theorem writable (long : 7 < n) : (ValueType.defined (σ := SymbolId) ⟨none, name n, 0⟩).Writable := by
  refine .defined ⟨isIdentifier long, by simp, fun _ entry member same => ?_⟩
  have short : ∀ entry ∈ ValueType.builtins (σ := SymbolId), entry.1.toList.length ≤ 7 := by decide
  have bound := short entry member
  rw [same, name_length] at bound
  omega

-- The name of a type may be longer than any token, and then it is not read as that type.
theorem unread : (ValueType.defined (σ := SymbolId) ⟨none, name 1048577, 0⟩).Writable ∧
    ¬ (ValueType.defined (σ := SymbolId) ⟨none, name 1048577, 0⟩).ReadFrom "" (name 1048577)
      (typeOf Token.defaultLimit "" (encode (name 1048577).toList)) := by
  refine ⟨writable (by decide), fun read => ?_⟩
  have long : Token.defaultLimit < byteCount (name 1048577).toList := by
    rw [byteCount_name]
    decide
  obtain ⟨value, found, _⟩ := read.read
  rw [Step.bound, typeOf_long (isIdentifier (by decide)) long] at found
  cases found

end LongName
end WireSchema

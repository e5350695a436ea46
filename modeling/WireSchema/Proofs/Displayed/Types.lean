import WireSchema.Proofs.Displayed.Words
import WireSchema.Proofs.Grammar.TypeReads
import WireSchema.Proofs.Names.TypeName
import WireSchema.Proofs.Permuted.Bare

-- The types that can be written down, and the words that each is displayed as.
namespace WireSchema
open Text Grammar

-- A reference that can be written: by its name alone only if no built-in type has that name.
structure Reference.Writable {σ : Type} (r : Reference σ) : Prop where
  isName : IsIdentifier r.name
  isPackage : ∀ package ∈ r.package, IsIdentifier package
  free : r.package = none → ∀ entry ∈ ValueType.builtins (σ := σ), entry.1 ≠ r.name

inductive ValueType.Writable {σ : Type} : ValueType σ → Prop where
  | builtin {name : String} {type : ValueType σ} (listed : (name, type) ∈ builtins) : Writable type
  | array {size : UInt32} {element : ValueType σ} (inner : Writable element) : Writable (.array size element)
  | map {key value : ValueType σ} (ofKey : Writable key) (ofValue : Writable value) : Writable (.map key value)
  | pointer {value : ValueType σ} (inner : Writable value) : Writable (.pointer value)
  | defined {r : Reference σ} (writable : r.Writable) : Writable (.defined r)

theorem IsIdentifier.isName {text : String} (isIdentifier : IsIdentifier text) : IsName text := by
  obtain ⟨first, rest, written, letter, others⟩ := isIdentifier.spelled
  rw [← String.ofList_toList (s := text), written]
  exact isName_of_letters letter others

namespace Reference
variable {σ : Type} {r : Reference σ}

def words (r : Reference σ) : List Word :=
  match r.package with
  | some package => [(.identifier, package), (.period, "."), (.identifier, r.name)]
  | none => [(.identifier, r.name)]

def parts (r : Reference σ) : List String := r.package.toList ++ [r.name]

theorem text_spelling (r : Reference σ) : r.text.toList = spelling r.words := by
  cases package : r.package <;> simp [text, words, package, spelling, Word.text]

theorem Writable.words_lex (writable : r.Writable) {behind : List Atom}
    (stops : Scan.startsWith isNameCharacter behind = false) : LexesAll r.words behind := by
  have name : LexesAll [(TokenKind.identifier, r.name)] behind := ⟨.identifier writable.isName stops, trivial⟩
  unfold words
  cases named : r.package with
  | none => exact name
  | some package =>
    have point : Lexes (.period, ".") ((spelling [(TokenKind.identifier, r.name)]).map .char ++ behind) := by
      obtain ⟨first, rest, written, letter, _⟩ := writable.isName.spelled
      refine .point ?_
      simp [spelling, Word.text, written, Scan.startsWith, Decimal.letter_undigit letter]
    exact ⟨.identifier (writable.isPackage package named) rfl, point, name⟩

theorem Writable.unlisted (writable : r.Writable) : ValueType.builtin? (σ := Unit) r.text = none := by
  rw [ValueType.builtin?, Option.map_eq_none_iff, List.find?_eq_none]
  intro entry member same
  have same : entry.1 = r.text := of_decide_eq_true same
  cases named : r.package with
  | none =>
    rw [text, named] at same
    obtain ⟨other, listed, also⟩ : ∃ other ∈ ValueType.builtins (σ := σ), other.1 = entry.1 := List.mem_map.mp
      (List.mem_map_of_mem member : entry.1 ∈ (ValueType.builtins (σ := Unit)).map (·.1))
    exact writable.free named other listed (also.trans same)
  | some package =>
    -- No built-in name has a point.
    have pointless : ∀ entry ∈ ValueType.builtins (σ := Unit), '.' ∉ entry.1.toList := by decide
    rw [text, named] at same
    exact pointless entry member (by simp [same])

theorem Writable.named (writable : r.Writable) : typeNamed r.text = .defined ⟨r.package, r.name, ()⟩ := by
  rw [typeNamed, writable.unlisted, Option.getD_none, ofName, text]
  cases named : r.package with
  | none => simp [cut?_eq_none.mpr writable.isName.isName.pointless]
  | some package => simp only [cut?_qualified (writable.isPackage package named).isName.pointless, String.ofList_toList]

theorem Writable.denotes (writable : r.Writable) {ws : List Token} (spelled : ws.map Token.word = r.words) :
    Denotes ws (.defined ⟨r.package, r.name, ()⟩) := by
  rw [← writable.named, text]
  unfold words at spelled
  cases named : r.package with
  | none =>
    rw [named] at spelled
    obtain ⟨w, rfl, isName⟩ := List.map_eq_singleton_iff.mp spelled
    dsimp only
    rw [← show w.text = r.name from congrArg Prod.snd isName]
    exact .word (congrArg Prod.fst isName)
  | some package =>
    rw [named] at spelled
    obtain ⟨first, ws, rfl, isPackage, spelled⟩ := List.map_eq_cons_iff.mp spelled
    obtain ⟨point, ws, rfl, isPoint, spelled⟩ := List.map_eq_cons_iff.mp spelled
    obtain ⟨w, rfl, isName⟩ := List.map_eq_singleton_iff.mp spelled
    dsimp only
    rw [← show first.text = package from congrArg Prod.snd isPackage, ← show w.text = r.name from congrArg Prod.snd isName]
    exact .qualified (congrArg Prod.fst isPackage) (congrArg Prod.fst isPoint) (congrArg Prod.fst isName)

end Reference

namespace ValueType
variable {σ : Type} {type : ValueType σ}

def erased (type : ValueType σ) : ValueType Unit := type.withSymbols fun _ => ()

def words : ValueType σ → List Word
  | .array size element => (.openBracket, "[") :: ((if size = 0 then [] else [(.integer, Decimal.text size.toNat)]) ++
      (.closeBracket, "]") :: element.words)
  | .map key value => (.keyword .map, "map") :: (.openBracket, "[") :: (key.words ++ (.closeBracket, "]") :: value.words)
  | .pointer value => (.asterisk, "*") :: value.words
  | .defined reference => reference.words
  | type => [(.identifier, type.text)]

theorem text_spelling (type : ValueType σ) : type.text.toList = spelling type.words := by
  induction type with
  | array size element ih => by_cases none : size = 0 <;> simp [text, words, spelling, Word.text, ih, none]
  | map key value ihKey ihValue => simp [text, words, spelling, Word.text, ihKey, ihValue]
  | pointer value ih => simp [text, words, spelling, Word.text, ih]
  | defined reference => exact reference.text_spelling
  | _ => simp [text, words, spelling, Word.text]

theorem words_last (type : ValueType σ) : ∃ w ∈ type.words.getLast?, w.1 = .identifier := by
  induction type with
  | array size element ih =>
    obtain ⟨w, last, identifier⟩ := ih
    exact ⟨w, by simp [words, List.getLast?_append, List.getLast?_cons, Option.mem_def.mp last], identifier⟩
  | map key value _ ih =>
    obtain ⟨w, last, identifier⟩ := ih
    exact ⟨w, by simp [words, List.getLast?_append, List.getLast?_cons, Option.mem_def.mp last], identifier⟩
  | pointer value ih =>
    obtain ⟨w, last, identifier⟩ := ih
    exact ⟨w, by simp [words, List.getLast?_cons, Option.mem_def.mp last], identifier⟩
  | defined reference => cases package : reference.package <;> simp [words, Reference.words, package]
  | _ => exact ⟨_, rfl, rfl⟩

theorem builtin_word {name : String} (listed : (name, type) ∈ builtins) :
    type.words = [(.identifier, name)] ∧ IsIdentifier name ∧ typeNamed name = type.erased := by
  have word : ∀ entry ∈ builtins (σ := σ), entry.2.words = [(.identifier, entry.2.text)] := by simp [builtins, words]
  have shown : ∀ entry ∈ builtins (σ := σ), entry.2.text = entry.1 := by
    simp [builtins, text, width, Decimal.text, Decimal.ofInt, Decimal.digits, Decimal.digit, ← String.toList_inj]
  have named : ∀ entry ∈ builtins (σ := Unit), typeNamed entry.1 = entry.2 ∧ IsIdentifier entry.1 := by
    decide
  have among : (name, type.erased) ∈ builtins (σ := Unit) :=
    List.mem_map_of_mem (f := fun entry => (entry.1, entry.2.erased)) listed
  obtain ⟨means, isIdentifier⟩ := named _ among
  exact ⟨by rw [word _ listed, shown _ listed], isIdentifier, means⟩

theorem Writable.words_lex (writable : type.Writable) {behind : List Atom}
    (stops : Scan.startsWith isNameCharacter behind = false) : LexesAll type.words behind := by
  induction writable generalizing behind with
  | builtin listed =>
    obtain ⟨word, isIdentifier, _⟩ := builtin_word listed
    rw [word]
    exact ⟨.identifier isIdentifier stops, trivial⟩
  | @array size element _ ih =>
    have opens : ∀ later, Lexes (.openBracket, "[") later := Lexes.mark (by simp)
    have closes : ∀ later, Lexes (.closeBracket, "]") later := Lexes.mark (by simp)
    rw [words]
    by_cases none : size = 0
    · rw [if_pos none]
      exact ⟨opens _, closes _, ih stops⟩
    · rw [if_neg none]
      exact ⟨opens _, .number (Nat.pos_of_ne_zero fun zero => none (UInt32.toNat_inj.mp zero)) rfl, closes _, ih stops⟩
  | @map key value _ _ ihKey ihValue =>
    have inner : LexesAll (key.words ++ (.closeBracket, "]") :: value.words) behind :=
      .append (ihKey rfl) ⟨.mark (by simp) _, ihValue stops⟩
    exact ⟨.mapWord rfl, .mark (by simp) _, inner⟩
  | pointer _ ih => exact ⟨.mark (by simp) _, ih stops⟩
  | defined writable => exact writable.words_lex stops

def names (type : ValueType σ) : List String := type.references.flatMap (·.parts)

theorem size_fits (size : UInt32) : byteCount (Decimal.text size.toNat).toList ≤ 10 := by
  rw [Decimal.text_natural, byteCount_ascii (Decimal.digits_ascii _)]
  exact Decimal.digits_length (by decide) (Nat.lt_trans size.toNat_lt (by decide))

theorem Writable.words_fit (writable : type.Writable) {limit : Nat} (ten : 10 ≤ limit)
    (short : ∀ name ∈ type.names, byteCount name.toList ≤ limit) : ∀ w ∈ type.words, byteCount w.text ≤ limit := by
  have mark : ∀ w ∈ [(TokenKind.openBracket, "["), (.closeBracket, "]"), (.asterisk, "*"), (.keyword .map, "map")],
      byteCount w.2.toList ≤ 10 := by decide
  have mark := fun w member => Nat.le_trans (mark w member) ten
  induction writable with
  | @builtin name type listed =>
    have small : ∀ entry ∈ builtins (σ := Unit), byteCount entry.1.toList ≤ 10 := by decide
    have among : (name, type.erased) ∈ builtins (σ := Unit) :=
      List.mem_map_of_mem (f := fun entry => (entry.1, entry.2.erased)) listed
    rw [(builtin_word listed).1, List.forall_mem_singleton]
    exact Nat.le_trans (small _ among) ten
  | @array size element _ ih =>
    rw [words, List.forall_mem_cons, List.forall_mem_append, List.forall_mem_cons]
    refine ⟨mark _ (by simp), ?_, mark _ (by simp), ih short⟩
    by_cases none : size = 0
    · simp [none]
    · rw [if_neg none, List.forall_mem_singleton]
      exact Nat.le_trans (size_fits size) ten
  | map _ _ ihKey ihValue =>
    rw [names, references, List.flatMap_append, List.forall_mem_append] at short
    rw [words, List.forall_mem_cons, List.forall_mem_cons, List.forall_mem_append, List.forall_mem_cons]
    exact ⟨mark _ (by simp), mark _ (by simp), ihKey short.1, mark _ (by simp), ihValue short.2⟩
  | pointer _ ih =>
    rw [words, List.forall_mem_cons]
    exact ⟨mark _ (by simp), ih short⟩
  | @defined r writable =>
    rw [names, references, List.flatMap_singleton, Reference.parts, List.forall_mem_append, List.forall_mem_singleton] at short
    rw [words, Reference.words]
    cases named : r.package with
    | none => exact List.forall_mem_singleton.mpr short.2
    | some package =>
      have ofPackage : byteCount package.toList ≤ limit := short.1 package (by simp [named])
      have point : byteCount ".".toList ≤ limit := Nat.le_trans (by decide) ten
      simpa [Word.text] using ⟨ofPackage, point, short.2⟩

theorem arraySize?_text {size : UInt32} (some : size ≠ 0) : arraySize? (Decimal.text size.toNat) = .some size := by
  refine arraySize?_eq_some.mpr ⟨size.toNat, ?_, ?_, size.toNat_lt, by simp⟩
  · rw [Decimal.text_natural, Decimal.natural?_digits]
  · exact Nat.pos_of_ne_zero fun zero => some (UInt32.toNat_inj.mp zero)

theorem Writable.denotes (writable : type.Writable) {ws : List Token} (spelled : ws.map Token.word = type.words) :
    Denotes ws type.erased := by
  induction writable generalizing ws with
  | @builtin name _ listed =>
    obtain ⟨word, _, means⟩ := builtin_word listed
    rw [word] at spelled
    obtain ⟨w, rfl, isName⟩ := List.map_eq_singleton_iff.mp spelled
    rw [← means, ← show w.text = name from congrArg Prod.snd isName]
    exact .word (congrArg Prod.fst isName)
  | @array size element _ ih =>
    rw [words] at spelled
    obtain ⟨opening, ws, rfl, opens, spelled⟩ := List.map_eq_cons_iff.mp spelled
    by_cases none : size = 0
    · rw [if_pos none] at spelled
      obtain ⟨closing, ws, rfl, closes, spelled⟩ := List.map_eq_cons_iff.mp spelled
      exact none ▸ .slice (congrArg Prod.fst opens) (congrArg Prod.fst closes) (ih spelled)
    · rw [if_neg none] at spelled
      obtain ⟨number, ws, rfl, isNumber, spelled⟩ := List.map_eq_cons_iff.mp spelled
      obtain ⟨closing, ws, rfl, closes, spelled⟩ := List.map_eq_cons_iff.mp spelled
      have counted : arraySize? number.text = some size := by
        rw [show number.text = _ from congrArg Prod.snd isNumber, arraySize?_text none]
      exact .array (congrArg Prod.fst opens) (congrArg Prod.fst isNumber) counted (congrArg Prod.fst closes) (ih spelled)
  | @map key value _ _ ihKey ihValue =>
    rw [words] at spelled
    obtain ⟨word, ws, rfl, isMap, spelled⟩ := List.map_eq_cons_iff.mp spelled
    obtain ⟨opening, ws, rfl, opens, spelled⟩ := List.map_eq_cons_iff.mp spelled
    obtain ⟨inKey, ws, rfl, spelledKey, spelled⟩ := List.map_eq_append_iff.mp spelled
    obtain ⟨closing, inValue, rfl, closes, spelled⟩ := List.map_eq_cons_iff.mp spelled
    exact .map (congrArg Prod.fst isMap) (congrArg Prod.fst opens) (ihKey spelledKey) (congrArg Prod.fst closes)
      (ihValue spelled)
  | pointer _ ih =>
    obtain ⟨star, ws, rfl, points, spelled⟩ := List.map_eq_cons_iff.mp spelled
    exact .pointer (congrArg Prod.fst points) (ih spelled)
  | defined writable => exact writable.denotes spelled

end ValueType
end WireSchema

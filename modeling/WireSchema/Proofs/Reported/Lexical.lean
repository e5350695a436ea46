import WireSchema.Proofs.Grammar.Invalid
import WireSchema.Proofs.Names.Reports
import WireSchema.Proofs.Reported.Order

-- What a file is reported for as to its tokens: each invalid token once, where it stands, and nothing else has the
-- text of such a problem.
namespace WireSchema
open Grammar Text

namespace LexicalError

def fixedTexts : List String :=
  [octalNumber, hexadecimalNumber, floatNumber, number, openString, openComment, escape, nul, encoding, overflow,
    byteOrderMark].map message

def IsMessage (text : String) : Prop := ∃ error : LexicalError, error.message = text

theorem isMessage_iff (text : String) :
    IsMessage text ↔ text ∈ fixedTexts ∨ "invalid token ".toList <+: text.toList := by
  constructor
  · rintro ⟨error, rfl⟩
    cases error with
    | strayCharacter shown =>
      right
      rw [message, String.toList_append]
      exact List.prefix_append _ _
    | _ =>
      left
      exact List.mem_map_of_mem (by decide)
  · rintro (member | ⟨shown, same⟩)
    · obtain ⟨error, _, rfl⟩ := List.mem_map.mp member
      exact ⟨error, rfl⟩
    · refine ⟨.strayCharacter (.ofList shown), String.toList_inj.mp ?_⟩
      have behind : (String.ofList shown).toList = shown := String.toList_ofList
      rw [message, String.toList_append, behind, same]

instance : DecidablePred IsMessage := fun text => decidable_of_iff' _ (isMessage_iff text)

end LexicalError

open LexicalError

theorem literal_front {letters : List Char} {text : String} (spelled : text = String.ofList letters) :
    letters <+: text.toList := by
  have same : text.toList = letters := spelled ▸ String.toList_ofList
  exact same.symm ▸ List.prefix_refl letters

theorem opening_front {letters : List Char} {text : String} (spelled : text = String.ofList letters)
    (rest : List Char) : letters <+: text.toList ++ rest :=
  (literal_front spelled).trans (List.prefix_append _ _)

theorem Problem.message_foreign {problem : Problem} (other : problem.lexical? = none) :
    ¬ IsMessage problem.message := by
  obtain ⟨own, front, apart⟩ : ∃ own, own <+: problem.message.toList ∧
      ∀ opening ∈ ("invalid token " :: fixedTexts).map String.toList, ¬ own <+: opening ∧ ¬ opening <+: own := by
    unfold fixedTexts LexicalError.message
    -- the letters of the texts are spelled out once, and not again in every case
    simp only [List.map, String.reduceToList]
    cases problem with
    | lexical error => cases other
    | missingTagString => exact ⟨_, literal_front rfl, by decide⟩
    | _ =>
      dsimp only [Problem.message]
      simp only [String.append_assoc, String.toList_append]
      exact ⟨_, opening_front rfl _, by decide⟩
  have foreign : ∀ opening ∈ "invalid token " :: fixedTexts, ¬ opening.toList <+: problem.message.toList := by
    intro opening among starts
    obtain ⟨notOwn, notOpening⟩ := apart _ (List.mem_map_of_mem among)
    exact (List.prefix_or_prefix_of_prefix front starts).elim notOwn notOpening
  rw [isMessage_iff]
  rintro (fixed | stray)
  · exact foreign _ (List.mem_cons_of_mem _ fixed) (List.prefix_refl _)
  · exact foreign _ List.mem_cons_self stray

theorem Problem.isMessage_iff (problem : Problem) : IsMessage problem.message ↔ problem.lexical?.isSome := by
  constructor
  · intro isMessage
    cases other : problem.lexical? with
    | none => exact absurd isMessage (message_foreign other)
    | some error => rfl
  · intro isLexical
    cases problem with
    | lexical error => exact ⟨error, rfl⟩
    | _ => cases isLexical

namespace Problems

theorem lexical_messages (problems : Problems) :
    ((problems.filter fun p => IsMessage p.content.message).map fun p => (p.position, p.content.message)) =
      (lexical problems).map fun l => (l.position, l.content.message) := by
  induction problems with
  | nil => rfl
  | cons p rest ih =>
    obtain ⟨position, problem⟩ := p
    cases found : problem.lexical? with
    | none =>
      rw [List.filter_cons_of_neg (by simpa using Problem.message_foreign found), ih]
      simp [lexical, found]
    | some error =>
      cases problem with
      | lexical error =>
        rw [List.filter_cons_of_pos (by simp [Problem.isMessage_iff, Problem.lexical?]), List.map_cons, ih]
        rfl
      | _ => cases found

theorem lexical_eq_nil_iff (problems : Problems) :
    lexical problems = [] ↔ ∀ text ∈ problems.map (·.content.message), ¬ IsMessage text := by
  rw [← List.map_eq_nil_iff, ← lexical_messages, List.map_eq_nil_iff, List.filter_eq_nil_iff, List.forall_mem_map]
  simp

theorem Without.lexical_eq_nil {problems : Problems} (without : problems.Without (·.lexical?.isSome)) :
    lexical problems = [] := by
  apply Problems.lexical_eq_nil
  intro p member
  simpa using without p member

end Problems

open Problems

namespace Scope

theorem register_lexical (name : String) (index : Nat) (position : Position) (s : Scope) :
    lexical (s.register name index position).problems = lexical s.problems := by
  unfold register
  split
  · rfl
  · split
    · rfl
    · rename_i first _
      have others : ∀ p ∈ (s.declarations[first]?).toList.map fun d =>
          (⟨position, .typeRedeclared name d.position⟩ : Located Problem), p.content.lexical? = none := by
        intro p member
        obtain ⟨d, _, rfl⟩ := List.mem_map.mp member
        rfl
      rw [lexical_append, Problems.lexical_eq_nil others, List.append_nil]
    · rfl

theorem declare_lexical (d : Declaration Unit) (s : Scope) :
    lexical (s.declare d).problems = lexical s.problems := by
  unfold declare
  dsimp only
  split
  · exact register_lexical _ _ _ s
  · rfl

theorem item_lexical (step : Step (Option (Declaration Unit))) (s : Scope) :
    lexical (s.item step).problems = lexical s.problems ++ lexical step.problems := by
  have mentioned := (mentions_same step.mentions s).1
  unfold Scope.item
  dsimp only
  rw [mentioned, ← lexical_append]
  cases step.value with
  | none => rfl
  | some d => exact declare_lexical d _

theorem ofItems_lexical (items : List (Step (Option (Declaration Unit)))) :
    lexical (ofItems items).problems = items.flatMap fun step => lexical step.problems := by
  suffices run : ∀ s : Scope, lexical (items.foldl Scope.item s).problems =
      lexical s.problems ++ items.flatMap fun step => lexical step.problems from run empty
  induction items with
  | nil =>
    intro s
    rw [List.flatMap_nil, List.append_nil]
    rfl
  | cons step rest ih =>
    intro s
    rw [List.foldl_cons, ih, item_lexical, List.flatMap_cons, List.append_assoc]

end Scope

namespace SourceFile

theorem invalidIn_words (tokens : List Token) : invalidIn (tokens.filter (·.kind ≠ .comment)) = invalidIn tokens := by
  unfold invalidIn
  rw [List.filterMap_filter]
  congr 1
  funext token
  by_cases comment : token.kind = .comment <;> simp [comment, Token.invalid?]

theorem bound_lexical (name : String) (source : List UInt8) :
    lexical (bound name source).problems = invalidIn (Token.allOf Token.defaultLimit name source).1 := by
  have settled := outline_settled (Tape.ofSource_proper Token.defaultLimit name source)
  rw [bound, Bound.ofOutline]
  dsimp only
  rw [lexical_append, Scope.ofItems_lexical, settled, ← invalidIn_words (Token.allOf _ _ _).1,
    ← Documented.ofTokens_tokens]
  rfl

theorem violations_lexical (file : SourceFile) : lexical file.violations = [] := by
  refine ((Validity.declarations_ruled ∅ file.declarations).without ?_).lexical_eq_nil
  intro problem isRule
  cases problem <;> first | rfl | cases isRule

theorem resolve_lexical (file : SourceFile) (placeholders : List Placeholder) :
    lexical (file.resolve placeholders).2 = [] := by
  rw [resolve_problems]
  apply Problems.lexical_eq_nil
  intro p member
  obtain ⟨written, same⟩ := undefined_content p member
  rw [same]
  rfl

end SourceFile

theorem SourceFile.understand_invalid (name : String) (source : List UInt8) :
    (lexical (understand name source).2).Perm (invalidIn (Token.allOf Token.defaultLimit name source).1) := by
  rw [← bound_lexical]
  have sorted := (Findings.sort_perm ((bound name source).problems ++
    ((bound name source).file.resolve (bound name source).placeholders).2 ++
    ((bound name source).file.resolve (bound name source).placeholders).1.violations)).filterMap
      fun p => p.content.lexical?.map fun error => (⟨p.position, error⟩ : Located LexicalError)
  refine sorted.trans (.of_eq ?_)
  change lexical _ = _
  rw [lexical_append, lexical_append, resolve_lexical, violations_lexical, List.append_nil, List.append_nil]

-- The problems with the text of a lexical error are the invalid tokens of the source, one problem each.
theorem SourceFile.understand_lexical (name : String) (source : List UInt8) :
    (((understand name source).2.filter fun p => IsMessage p.content.message).map
        fun p => (p.position, p.content.message)).Perm
      ((invalidIn (Token.allOf Token.defaultLimit name source).1).map fun l => (l.position, l.content.message)) := by
  rw [lexical_messages]
  exact (understand_invalid name source).map _

end WireSchema

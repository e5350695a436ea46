import WireSchema.Proofs.Grammar.Loops
import WireSchema.Proofs.Token.Finish

-- Reading a source ends. Its tokens are finitely many, and each loop over them takes a token in every round or is
-- left, so that the guard which the readers carry for their recursion never decides anything.
namespace WireSchema.Grammar
open Reader hiding pure

-- What a loop does at a place: it goes on behind what its round took, which is one token at least, or it ends.
structure Reader.Ends {α : Type} (goesOn : TokenKind → Bool) (round : Reader α) (t : Tape) : Prop where
  shorter : goesOn t.current.kind = true → (round t).tape.left < t.left
  goes : goesOn t.current.kind = true → many goesOn round t = (do
    let first ← round
    let more ← many goesOn round
    pure (first :: more) : Reader (List α)) t
  stops : goesOn t.current.kind = false → many goesOn round t = ⟨[], [], [], t⟩

theorem many_ends {α : Type} {goesOn : TokenKind → Bool} {round : Reader α} {t : Tape} (takes : round.Takes)
    (last : goesOn .endOfFile = false) (proper : t.Proper) : Reader.Ends goesOn round t := by
  have shorter : goesOn t.current.kind = true → (round t).tape.left < t.left := fun goes =>
    takes.shorter proper fun ended => by simp [ended, last] at goes
  exact ⟨shorter, fun goes => many_goes takes.forward goes (shorter goes), many_stops takes.forward⟩

-- What all loops and recursions of the grammar do at a place.
structure Tape.Ends (t : Tape) : Prop where
  importing : t.current.kind = .keyword .importing → ∀ imports, (importClause imports t).tape.left < t.left ∧
    importClauses imports t = (importClause imports >>= importClauses) t
  imported : t.current.kind ≠ .keyword .importing → ∀ imports, importClauses imports t = ⟨imports, [], [], t⟩
  items : Reader.Ends (· ≠ .endOfFile) item.kept t
  enumerators : Reader.Ends (· = .identifier) enumerator t
  fields : Reader.Ends (!isBodyEnd ·) field t
  branches : Reader.Ends (!isBodyEnd ·) branch t
  methods : Reader.Ends (!isBodyEnd ·) method t
  argument : isArgumentsEnd t.current.kind = false → (type t).tape.left < t.left
  arguments : arguments t = argumentsWith arguments t
  types : type t = typeWith type t
  -- Two readers for the types inside may differ wherever no token has been taken.
  inside : ∀ f g : Reader (Option (ValueType Unit)), g.Forward → (∀ later, later.left < t.left → f later = g later) →
    typeWith f t = typeWith g t
  skipped : t.current.kind = .identifier → (skipStatement t).tape.left < t.left

theorem Tape.Proper.ends {t : Tape} (proper : t.Proper) : t.Ends where
  importing goes imports := ⟨(importClause_takes imports).shorter proper (by simp [goes]),
    importClauses_goes imports proper goes⟩
  imported stops imports := importClauses_stops imports stops
  items := many_ends item_takes.kept rfl proper
  enumerators := many_ends enumerator_takes rfl proper
  fields := many_ends field_takes rfl proper
  branches := many_ends branch_takes rfl proper
  methods := many_ends method_takes rfl proper
  argument more := type_takes.shorter proper fun ended => by simp [ended, isArgumentsEnd] at more
  arguments := arguments_eq proper
  types := type_eq proper
  inside _ _ := typeWith_behind proper
  skipped word := skipStatement_takes.shorter proper (by simp [word])

theorem skipWords_step (level : Int) (word : Documented) (rest : List Documented) :
    skipWords level (word :: rest) = word :: rest ∨ ∃ later, skipWords level (word :: rest) = skipWords later rest := by
  rw [skipWords]
  split
  · exact .inl rfl
  · split
    · exact .inl rfl
    · exact .inr ⟨level, rfl⟩
  · exact .inr ⟨level + 1, rfl⟩
  · exact .inr ⟨level - 1, rfl⟩
  · exact .inr ⟨level, rfl⟩

theorem ofTokens_left (tokens : List Token × Token) : (Tape.ofTokens tokens).left ≤ tokens.1.length := by
  have words := congrArg List.length (Documented.ofTokens_tokens tokens.2 [] tokens.1)
  rw [List.length_map] at words
  calc (Tape.ofTokens tokens).left
    _ = (tokens.1.filter (·.kind ≠ .comment)).length := words
    _ ≤ tokens.1.length := List.length_filter_le _ _

end WireSchema.Grammar

namespace WireSchema
open Grammar Text

-- A source of so many bytes has at most twice as many tokens in front of its end, and asking further gives the same
-- end. Comments are taken one by one, and wherever the parser stands, every loop takes a token or is left.
theorem reading_ends (limit : Nat) (file : String) (source : List UInt8) :
    let tokens := Token.allOf limit file source
    tokens.1.length ≤ 2 * source.length ∧ (∀ token ∈ tokens.1, token.kind ≠ .endOfFile) ∧ tokens.2.kind = .endOfFile ∧
      (∀ n, ((Scanner.start (decode source)).first limit file (tokens.1.length + n)).1 =
        tokens.1 ++ .replicate n tokens.2) ∧
      (Tape.ofTokens tokens).ahead.map (·.token) = tokens.1.filter (·.kind ≠ .comment) ∧
      (∀ t, (Tape.ofTokens tokens).Leads t → t.left ≤ 2 * source.length ∧ t.Ends) ∧
      ∀ level word rest, skipWords level (word :: rest) = word :: rest ∨
        ∃ later, skipWords level (word :: rest) = skipWords later rest := by
  intro tokens
  have identifiers := Token.allOf_identifiers limit file source
  have proper := Tape.ofSource_proper limit file source
  have bounded : tokens.1.length ≤ 2 * source.length := Token.allOf_length limit file source
  refine ⟨bounded, fun token member => (identifiers.1 token member).2, identifiers.2, Scanner.first_tokens _,
    Documented.ofTokens_tokens _ _ _, fun t leads => ⟨?_, (proper.leads leads).ends⟩, skipWords_step⟩
  calc t.left
    _ ≤ (Tape.ofTokens tokens).left := leads.left_le
    _ ≤ tokens.1.length := ofTokens_left tokens
    _ ≤ 2 * source.length := bounded

end WireSchema

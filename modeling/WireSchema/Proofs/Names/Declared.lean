import Mathlib
import WireSchema.Proofs.Grammar.Entries
import WireSchema.Proofs.Names.Records

-- A file that is read without a report has the declarations of its source: one for each word that starts one, and in
-- it one member for each string of its body, all in the order in which they stand.
namespace WireSchema
open Grammar

theorem SourceFile.bound_clean {name : String} {source : List UInt8} (clean : (bound name source).problems = []) :
    (outline (.ofTokens (Token.allOf Token.defaultLimit name source))).headProblems = [] ∧
      ∀ step ∈ (outline (.ofTokens (Token.allOf Token.defaultLimit name source))).items, step.problems = [] := by
  obtain ⟨head, items, _⟩ := (bound_problems name source).mp clean
  exact ⟨head, items⟩

theorem SourceFile.bound_entries {name : String} {source : List UInt8} (clean : (bound name source).problems = []) :
    (bound name source).file.declarations.map Declaration.entry =
      entriesIn ((Token.allOf Token.defaultLimit name source).1.filter (·.kind ≠ .comment)) := by
  obtain ⟨head, items⟩ := bound_clean clean
  have told := outline_told (Tape.ofSource_proper Token.defaultLimit name source) head items
  have declarations := Scope.ofItems_map Declaration.entry_withSymbols
    (outline (.ofTokens (Token.allOf Token.defaultLimit name source))).items
  rw [← Documented.ofTokens_tokens]
  exact declarations.trans told

namespace ListedMembers

def source : List UInt8 := Text.encode
  "package p; const c = 7; enum E \x7b A \"1\"; B \x60-2 x:\"y\"\x60 \x7d".toList

def place (column : Nat) : Position := ⟨"", 1, column⟩

theorem tokens : Token.allOf Token.defaultLimit "" source = ([
    ⟨.keyword .package, "package", place 1⟩, ⟨.identifier, "p", place 9⟩, ⟨.semicolon, ";", place 10⟩,
    ⟨.keyword .const, "const", place 12⟩, ⟨.identifier, "c", place 18⟩, ⟨.assign, "=", place 20⟩,
    ⟨.integer, "7", place 22⟩, ⟨.semicolon, ";", place 23⟩, ⟨.keyword .enumeration, "enum", place 25⟩,
    ⟨.identifier, "E", place 30⟩, ⟨.openBrace, "\x7b", place 32⟩, ⟨.identifier, "A", place 34⟩,
    ⟨.string, "\"1\"", place 36⟩, ⟨.semicolon, ";", place 39⟩, ⟨.identifier, "B", place 41⟩,
    ⟨.string, "\x60-2 x:\"y\"\x60", place 43⟩, ⟨.closeBrace, "\x7d", place 54⟩, ⟨.semicolon, "\n", place 55⟩],
    ⟨.endOfFile, "", place 55⟩) := by
  exact Token.allOf_first (n := 18) rfl rfl (by decide) rfl

theorem clean : (SourceFile.bound "" source).problems = [] := by
  rw [SourceFile.bound, tokens]
  cbv

theorem entries : (SourceFile.bound "" source).problems = [] ∧
    (SourceFile.bound "" source).file.declarations.map Declaration.entry = [
      ⟨.const, place 12, "c", []⟩,
      ⟨.enumeration, place 25, "E", [⟨place 34, 1, ∅⟩, ⟨place 41, -2, .insert "x" "y" ∅⟩]⟩] := by
  refine ⟨clean, ?_⟩
  rw [SourceFile.bound_entries clean, tokens]
  decide +kernel

end ListedMembers
end WireSchema

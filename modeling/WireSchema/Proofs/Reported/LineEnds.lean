import Mathlib
import WireSchema.Proofs.Grammar.LineEnds
import WireSchema.Proofs.Reported.Lexical

-- What is understood of a source does not depend on how its lines end. The file is the same, and so are the problems,
-- but for the column of those that stand at the end of a line.
namespace WireSchema
open Grammar Text

@[simp] theorem Declaration.positions_withSymbols {σ τ : Type} (symbol : Reference σ → τ) (d : Declaration σ) :
    (d.withSymbols symbol).positions = d.positions := by
  cases d <;> simp [positions, withSymbols, Field.withSymbols, Branch.withSymbols, Method.withSymbols]

namespace Scope
variable {ends : List Place} {terminators : List Position}

-- The same names and declarations, with the problems moved.
structure Returns (ends : List Place) (terminators : List Position) (s other : Scope) : Prop where
  same : other = { s with problems := s.problems.map (Located.returned ends) }
  lie : ∀ p ∈ s.problems, p.position.Lies ends terminators
  declared : ∀ d ∈ s.declarations, ∀ p ∈ d.positions, p.Stays ends
  waiting : ∀ p ∈ s.placeholders, p.position.Stays ends

theorem Returns.mention {s other : Scope} (returns : s.Returns ends terminators other) {m : Mention}
    (stays : m.position.Stays ends) : (s.mention m).Returns ends terminators (other.mention m) := by
  obtain ⟨rfl, lie, declared, waiting⟩ := returns
  unfold Scope.mention
  dsimp only
  split
  · exact ⟨rfl, lie, declared, waiting⟩
  · refine ⟨rfl, lie, declared, ?_⟩
    intro p member
    rcases List.mem_append.mp member with old | new
    · exact waiting p old
    · cases List.mem_singleton.mp new
      exact stays

theorem Returns.mentions {s other : Scope} (returns : s.Returns ends terminators other) {ms : List Mention}
    (stay : ∀ m ∈ ms, m.position.Stays ends) :
    (ms.foldl (fun s m => s.mention m) s).Returns ends terminators (ms.foldl (fun s m => s.mention m) other) := by
  induction ms generalizing s other with
  | nil => exact returns
  | cons m rest ih =>
    obtain ⟨first, later⟩ := List.forall_mem_cons.mp stay
    exact ih (returns.mention first) later

theorem Returns.report {s other : Scope} (returns : s.Returns ends terminators other) {problems : Problems}
    (lie : ∀ p ∈ problems, p.position.Lies ends terminators) :
    Scope.Returns ends terminators { s with problems := s.problems ++ problems }
      { other with problems := other.problems ++ problems.map (Located.returned ends) } := by
  obtain ⟨rfl, before, declared, waiting⟩ := returns
  refine ⟨by rw [List.map_append], ?_, declared, waiting⟩
  intro p member
  rcases List.mem_append.mp member with old | new
  · exact before p old
  · exact lie p new

theorem Returns.register {s other : Scope} (returns : s.Returns ends terminators other) (name : String) (index : Nat)
    {position : Position} (stays : position.Stays ends) :
    (s.register name index position).Returns ends terminators (other.register name index position) := by
  obtain ⟨rfl, lie, declared, waiting⟩ := returns
  unfold Scope.register
  dsimp only
  split
  · exact ⟨rfl, lie, declared, waiting⟩
  · split
    · exact ⟨rfl, lie, declared, waiting⟩
    · rename_i first _
      have stay : ∀ p ∈ (s.declarations[first]?).toList.map fun d =>
          (⟨position, .typeRedeclared name d.position⟩ : Located Problem), p.position.Stays ends := by
        intro p member
        obtain ⟨d, _, rfl⟩ := List.mem_map.mp member
        exact stays
      have again := Returns.report ⟨rfl, lie, declared, waiting⟩ fun p member => (stay p member).lies terminators
      rw [map_returned_stays stay] at again
      exact again
    · exact ⟨rfl, lie, declared, waiting⟩

theorem register_declarations (name : String) (index : Nat) (position : Position) (s : Scope) :
    (s.register name index position).declarations = s.declarations := by
  unfold register
  split
  · rfl
  · split <;> rfl

theorem Returns.append {s other : Scope} (returns : s.Returns ends terminators other) {d : Declaration SymbolId}
    (stay : ∀ p ∈ d.positions, p.Stays ends) :
    Returns ends terminators { s with declarations := s.declarations ++ [d] }
      { other with declarations := other.declarations ++ [d] } := by
  obtain ⟨rfl, lie, declared, waiting⟩ := returns
  refine ⟨rfl, lie, ?_, waiting⟩
  intro e member
  rcases List.mem_append.mp member with old | new
  · exact declared e old
  · cases List.mem_singleton.mp new
    exact stay

theorem Returns.declare {s other : Scope} (returns : s.Returns ends terminators other) {d : Declaration Unit}
    (stay : ∀ p ∈ d.positions, p.Stays ends) : (s.declare d).Returns ends terminators (other.declare d) := by
  have own : d.position.Stays ends := stay _ (by cases d <;> simp [Declaration.position, Declaration.positions])
  have bound : ∀ p ∈ (d.withSymbols (symbolOf s.symbols)).positions, p.Stays ends := by
    rw [Declaration.positions_withSymbols]
    exact stay
  have registered := returns.register d.name s.declarations.length own
  obtain ⟨rfl, lie, declared, waiting⟩ := returns
  unfold Scope.declare
  dsimp only
  split
  · have added := registered.append bound
    rw [register_declarations, register_declarations] at added
    exact added
  · exact Returns.append ⟨rfl, lie, declared, waiting⟩ bound

theorem Returns.item {s other : Scope} (returns : s.Returns ends terminators other)
    {step again : Step (Option (Declaration Unit))} (value : again.value = step.value)
    (mentions : again.mentions = step.mentions) (problems : again.problems = step.problems.map (Located.returned ends))
    (lie : ∀ p ∈ step.problems, p.position.Lies ends terminators)
    (waiting : ∀ m ∈ step.mentions, m.position.Stays ends)
    (stay : ∀ d ∈ step.value, ∀ p ∈ d.positions, p.Stays ends) :
    (s.item step).Returns ends terminators (other.item again) := by
  have reported := (returns.mentions waiting).report lie
  unfold Scope.item
  rw [value, mentions, problems]
  cases declared : step.value with
  | none => exact reported
  | some d => exact reported.declare (stay d declared)

theorem items_returned {items others : List (Step (Option (Declaration Unit)))} {left right : Tape}
    (alike : List.Forall₂ (Comparison.lineEnds ends terminators left right).Items items others) {s other : Scope}
    (returns : s.Returns ends terminators other) :
    (items.foldl Scope.item s).Returns ends terminators (others.foldl Scope.item other) := by
  induction alike generalizing s other with
  | nil => exact returns
  | @cons step again items others first _ ih =>
    obtain ⟨problems, lie⟩ := Comparison.lineEnds_reports first.problems
    obtain ⟨mentions, waiting⟩ := Comparison.lineEnds_mentions first.mentions
    have values : again.value = step.value ∧ ∀ d ∈ step.value, ∀ p ∈ d.positions, p.Stays ends := by
      have related := first.values
      generalize step.value = value at related
      generalize again.value = same at related
      cases related with
      | none => exact ⟨rfl, by simp⟩
      | some related =>
        obtain ⟨rfl, stay⟩ := Comparison.lineEnds_declarations related
        exact ⟨rfl, fun d member => Option.mem_some_iff.mp member ▸ stay⟩
    exact ih (returns.item values.1 mentions problems lie waiting values.2)

end Scope

def SourceFile.lineEnds (source : List UInt8) : List Place :=
  (Scanner.start (decode source)).place.lineEnds (Scanner.start (decode source)).ahead

def SourceFile.terminators (name : String) (source : List UInt8) : List Position :=
  ((Token.allOf Token.defaultLimit name source).1.filter (·.kind = .semicolon)).map (·.position)

namespace SourceFile
variable {name : String} {source : List UInt8}

section Returned
variable (strings : ∀ token ∈ (Token.allOf Token.defaultLimit name source).1,
    token.kind = .string → '\n' ∉ token.text.toList)
  (short : ∀ token ∈ (Token.allOf Token.defaultLimit name (insertBefore 10 13 source)).1,
    token.kind ≠ .invalid .overflow)
include strings short

theorem outline_returned : ∃ left right,
    (Comparison.lineEnds (lineEnds source) (terminators name source) left right).Outlines
      (outline (.ofTokens (Token.allOf Token.defaultLimit name source)))
      (outline (.ofTokens (Token.allOf Token.defaultLimit name (insertBefore 10 13 source)))) := by
  have same : Token.allOf Token.defaultLimit name (insertBefore 10 13 source) =
      (Scanner.start (returned (decode source))).tokens Token.defaultLimit name := by
    rw [Token.allOf, decode_returned]
  have finish := (Token.allOf_identifiers Token.defaultLimit name source).2
  rw [same] at short ⊢
  obtain ⟨tokens, ended⟩ := Scanner.tokens_returned (Scanner.start_returned (decode source)) (.start _ _) short strings
  have noted : ∀ t ∈ (Token.allOf Token.defaultLimit name source).1, t.kind = .semicolon →
      t.position ∈ terminators name source := by
    intro t member kind
    exact List.mem_map_of_mem (List.mem_filter.mpr ⟨member, by simpa using kind⟩)
  have words := fun left right => Comparison.ofTokens_lineEnds left right ended finish tokens noted []
  refine ⟨⟨[], _⟩, ⟨[], _⟩, Comparison.outline_agree ⟨rfl, rfl, (words _ _).2⟩ ⟨_, _, ?_, ?_, (words _ _).1⟩⟩
  · exact congrArg (Tape.mk · _) (List.append_nil _).symm
  · exact congrArg (Tape.mk · _) (List.append_nil _).symm

theorem package_returned :
    (outline (.ofTokens (Token.allOf Token.defaultLimit name (insertBefore 10 13 source)))).package =
      (outline (.ofTokens (Token.allOf Token.defaultLimit name source))).package := by
  obtain ⟨left, right, outlines⟩ := outline_returned strings short
  have first : (outline (.ofTokens (Token.allOf Token.defaultLimit name source))).package.position.place ∉
      lineEnds source := by
    rw [outline_package, Documented.position, Tape.ofTokens_current]
    exact Scanner.first_inside (.start _ _) (Scanner.start_closable _)
  have moved := outlines.package.position.1
  rw [show Position.returned _ _ = _ from if_neg first] at moved
  have same := outlines.package.name
  generalize (outline _).package = one at moved same ⊢
  generalize (outline _).package = two at moved same ⊢
  cases one
  cases two
  exact Package.mk.injEq _ _ _ _ |>.mpr ⟨moved, same.symm⟩

theorem bound_returned : let found := bound name source
    bound name (insertBefore 10 13 source) =
      { found with problems := found.problems.map (Located.returned (lineEnds source)) } ∧
    (∀ p ∈ found.problems, p.position.Lies (lineEnds source) (terminators name source)) ∧
    (∀ d ∈ found.file.declarations, ∀ p ∈ d.positions, p.Stays (lineEnds source)) ∧
    ∀ p ∈ found.placeholders, p.position.Stays (lineEnds source) := by
  intro found
  obtain ⟨left, right, doc, package, imports, head, items⟩ := outline_returned strings short
  obtain ⟨headProblems, headLie⟩ := Comparison.lineEnds_reports head
  have nothing : Scope.empty.Returns (lineEnds source) (terminators name source) .empty :=
    ⟨rfl, by simp [Scope.empty], by simp [Scope.empty], by simp [Scope.empty]⟩
  obtain ⟨scope, lie, declared, waiting⟩ := Scope.items_returned items nothing
  have samePackage := package_returned strings short
  have sameImports := Comparison.lineEnds_known imports
  refine ⟨?_, ?_, declared, waiting⟩
  · unfold found bound Bound.ofOutline Scope.ofItems
    rw [headProblems, scope, samePackage, sameImports, ← show _ = _ from doc, List.map_append]
  · intro p member
    rcases List.mem_append.mp member with inHead | inItems
    · exact headLie p inHead
    · exact lie p inItems

end Returned

theorem sort_returned {ends : List Place} {problems : Problems} (within : ∀ p ∈ problems, p.position.Within ends) :
    Findings.sort (problems.map (Located.returned ends)) = (Findings.sort problems).map (Located.returned ends) := by
  refine (List.map_mergeSort fun p member q other => ?_).symm
  exact (Position.returned_atMost (within p member) (within q other)).symm

theorem undefined_position {file : SourceFile} {placeholders : List Placeholder} :
    ∀ report ∈ placeholders.flatMap file.undefined, report.position ∈ placeholders.map (·.position) := by
  intro report member
  obtain ⟨p, inside, among⟩ := List.mem_flatMap.mp member
  have same : report.position = p.position := by
    unfold undefined at among
    split at among
    · split at among
      · rw [List.mem_singleton.mp among]
      · cases among
    · cases among
  rw [same]
  exact List.mem_map_of_mem inside

-- A carriage return in front of every newline changes nothing of a file, and moves what is reported at a newline by
-- a column. No string may go over a line end, and no token may become too long.
theorem understand_returned
    (strings : ∀ token ∈ (Token.allOf Token.defaultLimit name source).1,
      token.kind = .string → '\n' ∉ token.text.toList)
    (short : ∀ token ∈ (Token.allOf Token.defaultLimit name (insertBefore 10 13 source)).1,
      token.kind ≠ .invalid .overflow) :
    understand name (insertBefore 10 13 source) =
        ((understand name source).1, (understand name source).2.map (Located.returned (lineEnds source))) ∧
      ∀ p ∈ (understand name source).2, p.position.place ∈ lineEnds source → p.position ∈ terminators name source := by
  obtain ⟨moved, lie, declared, waiting⟩ := bound_returned strings short
  have undefined : ∀ p ∈ ((bound name source).file.resolve (bound name source).placeholders).2,
      p.position.Stays (lineEnds source) := by
    intro p member
    rw [resolve_problems] at member
    obtain ⟨q, inside, same⟩ := List.mem_map.mp (undefined_position p member)
    exact same ▸ waiting q inside
  have violations : ∀ p ∈ ((bound name source).file.resolve (bound name source).placeholders).1.violations,
      p.position.Stays (lineEnds source) := by
    intro p member
    obtain ⟨d, inside, place⟩ := List.mem_flatMap.mp ((Validity.declarations_ruled ∅ _) p member).2
    obtain ⟨symbols, same⟩ := resolve_file (bound name source).file (bound name source).placeholders
    rw [same] at inside
    exact declared d inside _ place
  have all : ∀ p ∈ (bound name source).problems ++
      ((bound name source).file.resolve (bound name source).placeholders).2 ++
      ((bound name source).file.resolve (bound name source).placeholders).1.violations,
      p.position.Lies (lineEnds source) (terminators name source) := by
    intro p member
    rcases List.mem_append.mp member with front | ofRule
    · rcases List.mem_append.mp front with ofBinding | ofName
      · exact lie p ofBinding
      · exact (undefined p ofName).lies _
    · exact (violations p ofRule).lies _
  constructor
  · unfold understand
    rw [moved]
    dsimp only
    rw [← sort_returned fun p member => (all p member).1, List.map_append, List.map_append,
      map_returned_stays undefined, map_returned_stays violations]
  · intro p member
    exact (all p ((Findings.sort_perm _).mem_iff.mp member)).2

end SourceFile

namespace MissingTag

def source : List UInt8 := encode "package p // one\nstruct S \x7b\nF int\n\x7d".toList

def place (line column : Nat) : Position := ⟨"", line, column⟩

def read (comment : String) (column : Nat) : List Token × Token := ([
  ⟨.keyword .package, "package", place 1 1⟩, ⟨.identifier, "p", place 1 9⟩, ⟨.semicolon, "\n", place 1 11⟩,
  ⟨.comment, comment, place 1 11⟩, ⟨.keyword .struct, "struct", place 2 1⟩, ⟨.identifier, "S", place 2 8⟩,
  ⟨.openBrace, "\x7b", place 2 10⟩, ⟨.identifier, "F", place 3 1⟩, ⟨.identifier, "int", place 3 3⟩,
  ⟨.semicolon, "\n", place 3 column⟩, ⟨.closeBrace, "\x7d", place 4 1⟩, ⟨.semicolon, "\n", place 4 2⟩],
  ⟨.endOfFile, "", place 4 2⟩)

theorem tokens : Token.allOf Token.defaultLimit "" source = read "// one" 6 := by
  exact Token.allOf_first (n := 12) rfl rfl (by decide) rfl

theorem tokens_returned : Token.allOf Token.defaultLimit "" (insertBefore 10 13 source) = read "// one\x0d" 7 := by
  exact Scanner.tokens_first (n := 12) rfl (by decide) rfl

theorem reported : (SourceFile.understand "" source).2 = [⟨place 3 6, .missingTagString⟩] := by
  rw [SourceFile.understand, SourceFile.bound, tokens]
  cbv

theorem moved : (∀ token ∈ (Token.allOf Token.defaultLimit "" source).1,
      token.kind = .string → '\n' ∉ token.text.toList) ∧
    (∀ token ∈ (Token.allOf Token.defaultLimit "" (insertBefore 10 13 source)).1, token.kind ≠ .invalid .overflow) ∧
    (SourceFile.understand "" source).2 = [⟨place 3 6, .missingTagString⟩] ∧
    SourceFile.understand "" (insertBefore 10 13 source) =
      ((SourceFile.understand "" source).1, [⟨place 3 7, .missingTagString⟩]) := by
  have strings : ∀ token ∈ (Token.allOf Token.defaultLimit "" source).1,
      token.kind = .string → '\n' ∉ token.text.toList := by
    rw [tokens]
    decide
  have short : ∀ token ∈ (Token.allOf Token.defaultLimit "" (insertBefore 10 13 source)).1,
      token.kind ≠ .invalid .overflow := by
    rw [tokens_returned]
    decide
  refine ⟨strings, short, reported, ?_⟩
  rw [(SourceFile.understand_returned strings short).1, reported]
  rfl

end MissingTag

namespace LongComment
variable {n : Nat} {file : String}

def text (n : Nat) (feed : List Char) : List Char := '/' :: '*' :: (.replicate n ' ' ++ feed ++ feed ++ ['*', '/'])

def source (n : Nat) : List UInt8 := encode (text n ['\n'])

theorem text_ascii {feed : List Char} (plain : ∀ c ∈ feed, c = '\r' ∨ c = '\n') :
    ∀ c ∈ text n feed, c.toNat < 0x80 := by
  have ascii : ∀ c ∈ feed, c.toNat < 0x80 := by
    intro c member
    rcases plain c member with rfl | rfl <;> decide
  intro c member
  simp only [text, List.mem_cons, List.mem_append, List.mem_replicate, List.not_mem_nil, or_false] at member
  rcases member with rfl | rfl | ((⟨_, rfl⟩ | one) | two) | rfl | rfl
  · decide
  · decide
  · decide
  · exact ascii c one
  · exact ascii c two
  · decide
  · decide

theorem text_returned : insertBefore '\n' '\r' (text n ['\n']) = text n ['\r', '\n'] := by
  have line : insertBefore '\n' '\r' (List.replicate n ' ') = .replicate n ' ' :=
    insertBefore_unmarked fun member => absurd (List.eq_of_mem_replicate member) (by decide)
  unfold text
  rw [insertBefore_cons (by decide), insertBefore_cons (by decide), insertBefore_append, insertBefore_append,
    insertBefore_append, line]
  rfl

theorem text_length (feed : List Char) : (text n feed).length = n + 2 * feed.length + 4 := by
  simp only [text, List.length_cons, List.length_append, List.length_replicate, List.length_nil]
  omega

theorem tokens {feed : List Char} (plain : ∀ c ∈ feed, c = '\r' ∨ c = '\n') :
    ((Scanner.start ((text n feed).map .char)).tokens Token.defaultLimit file).1 =
      [if Token.defaultLimit < n + 2 * feed.length + 4 then ⟨.invalid .overflow, "", ⟨file, 1, 1⟩⟩
        else ⟨.comment, .ofList (text n feed), ⟨file, 1, 1⟩⟩] := by
  have inside : ∀ c ∈ .replicate n ' ' ++ feed ++ feed, c ≠ '*' ∧ Scan.forbidden? (.char c) = none := by
    intro c member
    simp only [List.mem_append, List.mem_replicate] at member
    have letter : c = ' ' ∨ c = '\r' ∨ c = '\n' := by
      rcases member with (⟨_, rfl⟩ | one) | two
      · exact .inl rfl
      · exact .inr (plain c one)
      · exact .inr (plain c two)
    rcases letter with rfl | rfl | rfl <;> decide
  have bytes : byteCount (text n feed) = n + 2 * feed.length + 4 := by
    rw [byteCount_ascii (text_ascii plain), text_length]
  rw [← bytes]
  exact Scanner.tokens_block inside rfl

theorem tokens_fed (short : n + 6 ≤ Token.defaultLimit) : (Token.allOf Token.defaultLimit file (source n)).1 =
    [⟨.comment, .ofList (text n ['\n']), ⟨file, 1, 1⟩⟩] := by
  have fits : ¬ Token.defaultLimit < n + 2 * ['\n'].length + 4 := by simpa using short
  rw [Token.allOf, source, decode_encode, tokens (by simp), if_neg fits]

theorem tokens_returned (long : Token.defaultLimit < n + 8) :
    (Token.allOf Token.defaultLimit file (insertBefore 10 13 (source n))).1 =
      [⟨.invalid .overflow, "", ⟨file, 1, 1⟩⟩] := by
  have exceeds : Token.defaultLimit < n + 2 * ['\r', '\n'].length + 4 := by simpa using long
  rw [Token.allOf, decode_returned, source, decode_encode, returned_chars, text_returned,
    tokens (by simp), if_pos exceeds]

theorem source_unreturned : 13 ∉ source n := by
  unfold source
  rw [encode_ascii (text_ascii (by simp))]
  intro member
  obtain ⟨c, inside, byte⟩ := List.mem_map.mp member
  simp only [text, List.mem_cons, List.mem_append, List.mem_replicate, List.not_mem_nil, or_false] at inside
  rcases inside with rfl | rfl | ((⟨_, rfl⟩ | rfl) | rfl) | rfl | rfl <;> cases byte

-- A token that is short enough need not be so with carriage returns in it.
theorem grown : 13 ∉ source 1048569 ∧
    (∀ token ∈ (Token.allOf Token.defaultLimit "" (source 1048569)).1,
      token.kind = .comment ∧ byteCount token.text.toList < Token.defaultLimit) ∧
    (SourceFile.understand "" (insertBefore 10 13 (source 1048569))).2.map (·.content.message) ≠
      (SourceFile.understand "" (source 1048569)).2.map (·.content.message) := by
  refine ⟨source_unreturned, ?_, fun same => ?_⟩
  · rw [tokens_fed (by decide)]
    intro token member
    cases List.mem_singleton.mp member
    refine ⟨rfl, ?_⟩
    dsimp only
    rw [String.toList_ofList, byteCount_ascii (text_ascii (by simp)), text_length]
    decide
  · have invalid := SourceFile.understand_invalid "" (insertBefore 10 13 (source 1048569))
    rw [tokens_returned (by decide)] at invalid
    have valid := SourceFile.understand_invalid "" (source 1048569)
    rw [tokens_fed (by decide)] at valid
    have silent := (Problems.lexical_eq_nil_iff _).mp valid.eq_nil
    rw [← same, ← Problems.lexical_eq_nil_iff] at silent
    rw [silent] at invalid
    cases invalid.nil_eq

end LongComment
end WireSchema

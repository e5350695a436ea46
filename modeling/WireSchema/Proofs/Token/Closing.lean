import WireSchema.Proofs.Token.Cut

-- A statement may end behind a name, a literal or a closing bracket and behind nothing else: it is the kind of a valid
-- token alone that decides.
namespace WireSchema
open Text

def TokenKind.Closes (kind : TokenKind) : Prop :=
  kind ∈ [.identifier, .string, .integer, .float, .closeParen, .closeBracket, .closeBrace]

instance (kind : TokenKind) : Decidable kind.Closes := inferInstanceAs (Decidable (kind ∈ _))

namespace Scan

structure Decides (kind : TokenKind) (closing : Closing) : Prop extends Scanner.Whole kind where
  closes : ∀ before, Scanner.closes closing before kind = decide kind.Closes

theorem decides_literal {kind : TokenKind} (literal : kind ∈ [.string, .integer, .float]) : Decides kind .yes := by
  simp only [List.mem_cons, List.not_mem_nil, or_false] at literal
  rcases literal with rfl | rfl | rfl <;> exact ⟨⟨by simp, by simp⟩, by decide⟩

theorem keywordOr_decides (name : List Char) : Decides (keywordOr name) .ofIdentifier := by
  unfold keywordOr
  split
  · exact ⟨⟨by simp, by simp⟩, by simp [Scanner.closes, TokenKind.Closes]⟩
  · exact ⟨⟨by simp, by simp⟩, by decide⟩

theorem punctuation?_decides {c : Char} {kind : TokenKind} (mark : punctuation? c = some kind) :
    Decides kind (if kind ∈ [.closeParen, .closeBracket, .closeBrace] then .yes else .no) := by
  unfold punctuation? at mark
  split at mark <;> cases mark <;> exact ⟨⟨by simp, by simp⟩, by decide⟩

theorem token_decides {c : Char} {rest : List Atom} {kind : TokenKind}
    (accepted : (token c rest).1.ending = .accepted kind) : Decides kind (token c rest).2 := by
  have lexer := token_lexer c
  generalize token c = reads at lexer accepted ⊢
  have number : kind ∈ [.integer, .float] → Decides kind .yes :=
    fun member => decides_literal (List.mem_cons_of_mem _ member)
  cases lexer with
  | name =>
    cases accepted
    exact keywordOr_decides _
  | negative => exact number (negative_among rest kind accepted)
  | number => exact number (number_among c rest kind accepted)
  | rawString => exact decides_literal (by simp [List.mem_singleton.mp (rawString_among rest kind accepted)])
  | quotedString => exact decides_literal (by simp [List.mem_singleton.mp (quotedString_among .none rest kind accepted)])
  | point =>
    by_cases digit : startsWith (isDigitOf 10) rest = true
    · simp only [digit, if_true] at accepted ⊢
      exact number (fraction_among rest kind accepted)
    · simp only [digit, if_false, Bool.false_eq_true] at accepted ⊢
      cases accepted
      exact ⟨⟨by simp, by simp⟩, by decide⟩
  | slash =>
    obtain rfl : kind = .comment := List.mem_singleton.mp (slash_among rest kind accepted)
    exact ⟨⟨by simp, by simp⟩, fun _ => rfl⟩
  | single mark =>
    cases accepted
    exact punctuation?_decides mark
  | stopped => cases accepted

theorem front_decides {closable : Bool} {atoms : List Atom} {r : Reading} {closing : Closing} {kind : TokenKind}
    (found : front closable atoms = .reading r closing) (accepted : r.ending = .accepted kind) : Decides kind closing := by
  rcases front_token found with ⟨error, rejected⟩ | ⟨c, rest, _, same⟩
  · cases accepted.symm.trans rejected
  · have read : (token c rest).1.ending = .accepted kind := by rw [same, accepted]
    have decides := token_decides read
    rwa [same] at decides

end Scan

namespace Scanner
variable {limit : Nat} {file : String}

inductive Step (limit : Nat) (file : String) (s : Scanner) : Token × Scanner → Prop where
  | terminator (found : Scan.front s.closable s.skip.ahead = .terminator) : Step limit file s
      (⟨.semicolon, "\n", ⟨file, s.skip.place.line, s.skip.place.column⟩⟩, ⟨s.skip.ahead, s.skip.place, false⟩)
  | reading {r : Scan.Reading} {closing : Scan.Closing} (found : Scan.front s.closable s.skip.ahead = .reading r closing) :
      Step limit file s
        (⟨(kindAndText limit r).1, (kindAndText limit r).2, ⟨file, s.skip.place.line, s.skip.place.column⟩⟩,
          leave r s.skip.place (closes closing s.closable (kindAndText limit r).1))

theorem next_step {s : Scanner} (more : (s.next limit file).1.kind ≠ .endOfFile) : Step limit file s (s.next limit file) := by
  have stopped : Scan.startsWith (isBlank s.skip.closable) s.skip.ahead = false := Scan.run_stops _ _
  rw [← next_skip] at more ⊢
  cases found : Scan.front s.skip.closable s.skip.ahead with
  | endOfFile =>
    unfold next at more
    rw [Scan.run_stopped stopped] at more
    simp [found] at more
  | terminator =>
    rw [next_terminator stopped found]
    exact .terminator found
  | reading r closing =>
    rw [next_reading stopped found]
    exact .reading found

theorem next_closable {s : Scanner} (whole : Whole (s.next limit file).1.kind) :
    (s.next limit file).2.closable = decide (s.next limit file).1.kind.Closes := by
  have step := next_step whole.more
  generalize s.next limit file = read at step whole ⊢
  cases step with
  | terminator => rfl
  | reading found =>
    have accepted := kindAndText_accepted whole.valid
    rw [leave_accepted accepted]
    exact (Scan.front_decides found accepted).closes _

end Scanner
end WireSchema

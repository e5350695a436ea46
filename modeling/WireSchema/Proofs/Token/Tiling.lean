import WireSchema.Proofs.Token.Closing
import WireSchema.Proofs.Token.LineEnds
import WireSchema.Proofs.Token.Words

-- Nothing of a source is lost in its tokens. If none of them is invalid, the source is their texts one after the other
-- with blanks between them, but for the terminators that the scanner put in and for the newlines that end comments.
namespace WireSchema
open Text

namespace Place

theorem pastAll_forward (p : Place) (text : List Char) : p.line < (p.pastAll text).line ∨
    p.line = (p.pastAll text).line ∧ p.column + text.length = (p.pastAll text).column := by
  induction text generalizing p with
  | nil => exact .inr ⟨rfl, rfl⟩
  | cons c rest ih =>
    have later := ih (p.past c)
    have split : p.pastAll (c :: rest) = (p.past c).pastAll rest := rfl
    by_cases feed : c = '\n'
    · have passed : p.past c = ⟨p.line + 1, 1⟩ := if_pos feed
      rw [← split, passed] at later
      dsimp only at later
      omega
    · have passed : p.past c = ⟨p.line, p.column + 1⟩ := if_neg feed
      rw [← split, passed] at later
      dsimp only at later
      rw [List.length_cons]
      omega

theorem pastAll_ne (p : Place) {text : List Char} (some : text ≠ []) : p.pastAll text ≠ p := by
  intro same
  have positive := List.length_pos_iff.mpr some
  have forward := pastAll_forward p text
  rw [same] at forward
  omega

end Place

namespace Scan

theorem token_slash (rest : List Atom) : token '/' rest = ((slash rest).after ['/'], .no) := by
  have letter : isLetter '/' = false := by decide
  simp [token, letter, isDigitOf, digitValue?, byteOrderMark, backtick]

theorem token_last {c : Char} {rest : List Atom} {text : List Char}
    (ending : (token c rest).1.ending = .accepted .comment) (taken : (token c rest).1.taken = '/' :: '/' :: text)
    (inside : '\n' ∉ text) : (token c rest).1.rest = [] := by
  have covers : (token c rest).1.Covers (.char c :: rest) := (token_covers c rest).1
  obtain rfl : c = '/' := by
    rw [Reading.Covers, taken] at covers
    exact (Atom.char.inj (List.cons.inj covers).1).symm
  rw [token_slash] at ending taken ⊢
  have isLine : rest.head? = some (.char '/') := by
    rw [token_slash, Reading.Covers, taken] at covers
    simpa using congrArg (fun atoms => atoms.tail.head?) covers.symm
  obtain ⟨line, rfl⟩ := List.head?_eq_some_iff.mp isLine
  simp only [slash, Reading.after, List.cons_append, List.nil_append, List.cons.injEq, true_and] at ending taken ⊢
  by_contra more
  have feed := lineComment_ended ending more
  rw [taken] at feed
  exact inside (List.mem_of_getLast? feed)

inductive Spells (kind : TokenKind) (r : Reading) : Prop where
  | line {text : List Char} (comment : kind = .comment) (taken : r.taken = '/' :: '/' :: (text ++ ['\n']))
  | lastLine {text : List Char} (comment : kind = .comment) (taken : r.taken = '/' :: '/' :: text)
      (text : Scanner.lexeme kind r.taken = r.taken) (last : r.rest = [])
  | whole (text : Scanner.lexeme kind r.taken = r.taken) (other : ¬ (kind = .comment ∧ ['/', '/'] <+: r.taken))

theorem token_spells {c : Char} {rest : List Atom} {kind : TokenKind}
    (ending : (token c rest).1.ending = .accepted kind) : Spells kind (token c rest).1 := by
  by_cases comment : kind = .comment
  · subst comment
    have isComment := token_comment ending
    generalize whole : (token c rest).1.taken = taken at isComment
    cases isComment with
    | @line text inside =>
      refine .lastLine rfl whole ?_ (token_last ending whole inside)
      have unended : ('/' :: '/' :: text).getLast? ≠ some '\n' := by
        intro last
        have member := List.mem_of_getLast? last
        simp [inside] at member
      rw [whole, Scanner.lexeme, if_neg fun both => unended both.2]
    | ended => exact .line rfl whole
    | block text =>
      refine .whole ?_ ?_
      · rw [whole]
        simpa using Comment.lexeme_other (c := '/') (by decide) ('/' :: '*' :: (text ++ ['*']))
      · rw [whole]
        simp
  · exact .whole (if_neg fun both => comment both.1) fun both => comment both.1

theorem front_accepted {closable : Bool} {atoms : List Atom} {r : Reading} {closing : Closing} {kind : TokenKind}
    (found : front closable atoms = .reading r closing) (accepted : r.ending = .accepted kind) :
    ∃ c rest, r = (token c rest).1 := by
  rcases front_token found with ⟨error, rejected⟩ | ⟨c, rest, _, same⟩
  · cases accepted.symm.trans rejected
  · exact ⟨c, rest, by rw [same]⟩

theorem front_spells {closable : Bool} {atoms : List Atom} {r : Reading} {closing : Closing} {kind : TokenKind}
    (found : front closable atoms = .reading r closing) (accepted : r.ending = .accepted kind) :
    Spells kind r ∧ r.taken ≠ [] := by
  obtain ⟨_, advances, _⟩ := front_reading found
  refine ⟨?_, advances.resolve_right fun ⟨_, rejected⟩ => by cases accepted.symm.trans rejected⟩
  obtain ⟨c, rest, rfl⟩ := front_accepted found accepted
  exact token_spells accepted

theorem front_terminator_ahead {closable : Bool} {atoms : List Atom} (found : front closable atoms = .terminator) :
    atoms = [] ∨ ∃ rest, atoms = .char '/' :: rest := by
  unfold front at found
  split at found
  · exact .inl rfl
  · cases found
  · split at found
    · cases found
    · split at found
      · rename_i mark
        simp only [Bool.and_eq_true, decide_eq_true_eq] at mark
        exact .inr ⟨_, by rw [mark.1]⟩
      · cases found

end Scan

def IsBlank (c : Char) : Prop := c = ' ' ∨ c = '\t' ∨ c = '\r' ∨ c = '\n'

def Token.IsLineComment (token : Token) : Prop := token.kind = .comment ∧ ['/', '/'] <+: token.text.toList

-- What stands in a text for a token in front of another one, and the text behind that. Nothing stands for a terminator
-- at the place of the next token; only so the scanner puts one in.
inductive Token.Share (token next : Token) : List Char → List Char → Prop where
  | added {behind : List Char} (kind : token.kind = .semicolon) (text : token.text = "\n")
      (before : next.kind = .comment ∨ next.kind = .endOfFile) (place : next.position = token.position) :
      Share token next [] behind
  | line {behind : List Char} (line : token.IsLineComment) : Share token next (token.text.toList ++ ['\n']) behind
  | lastLine (line : token.IsLineComment) (last : next.kind = .endOfFile) : Share token next token.text.toList []
  | whole {behind : List Char} (other : ¬ token.IsLineComment) (place : next.position ≠ token.position) :
      Share token next token.text.toList behind

inductive Tiling (finish : Token) : List Token → List Char → Prop where
  | finish {blanks : List Char} (blank : ∀ c ∈ blanks, IsBlank c) : Tiling finish [] blanks
  | token {blanks piece behind : List Char} {token : Token} {rest : List Token} (blank : ∀ c ∈ blanks, IsBlank c)
      (share : token.Share (rest.headD finish) piece behind) (later : Tiling finish rest behind) :
      Tiling finish (token :: rest) (blanks ++ piece ++ behind)

namespace Scanner
variable {limit : Nat} {file : String}

theorem next_position (s : Scanner) :
    (s.next limit file).1.position = ⟨file, s.skip.place.line, s.skip.place.column⟩ := by
  unfold next skip
  dsimp only
  split <;> rfl

theorem tokens_head (s : Scanner) :
    (s.tokens limit file).1.headD (s.tokens limit file).2 = (s.next limit file).1 := by
  by_cases ended : (s.next limit file).1.kind = .endOfFile
  · rw [tokens_ended ended]
    rfl
  · rw [tokens_more ended]
    rfl

theorem isBlank_blank {closable : Bool} {c : Char} (blank : isBlank closable c = true) : IsBlank c := by
  simp only [isBlank, Bool.or_eq_true, Bool.and_eq_true, decide_eq_true_eq] at blank
  unfold IsBlank
  tauto

theorem next_added {ahead : List Atom} {place : Place} (stands : ahead = [] ∨ ∃ rest, ahead = .char '/' :: rest)
    (valid : ∀ error, (next limit file ⟨ahead, place, false⟩).1.kind ≠ .invalid error) :
    ((next limit file ⟨ahead, place, false⟩).1.kind = .comment ∨
        (next limit file ⟨ahead, place, false⟩).1.kind = .endOfFile) ∧
      (next limit file ⟨ahead, place, false⟩).1.position = ⟨file, place.line, place.column⟩ := by
  rcases stands with rfl | ⟨rest, rfl⟩
  · exact ⟨.inr rfl, rfl⟩
  · have stopped : Scan.startsWith (isBlank false) (.char '/' :: rest) = false := rfl
    have found : Scan.front false (.char '/' :: rest) = .reading _ _ := Scan.front_token_eq (by decide) (by simp) rest
    rw [next_reading stopped found] at valid ⊢
    have accepted := kindAndText_accepted valid
    refine ⟨.inl ?_, rfl⟩
    rw [Scan.token_slash] at accepted ⊢
    simpa using Scan.slash_among rest _ accepted

theorem kindAndText_text {r : Scan.Reading} (valid : ∀ error, (kindAndText limit r).1 ≠ .invalid error) :
    (kindAndText limit r).2 = .ofList (lexeme (kindAndText limit r).1 r.taken) := by
  unfold kindAndText at valid ⊢
  cases ending : r.ending with
  | rejected error takesNext => simp [ending] at valid
  | accepted kind =>
    simp only [ending] at valid ⊢
    split at valid
    · exact absurd rfl (valid .overflow)
    · rename_i short
      rw [if_neg short]

theorem next_later {place : Place} {taken : List Char} (some : taken ≠ []) (rest : List Atom) (closable : Bool) :
    (next limit file ⟨rest, place.pastAll taken, closable⟩).1.position ≠ ⟨file, place.line, place.column⟩ := by
  intro same
  rw [next_position] at same
  dsimp only [skip] at same
  rw [← Place.pastAll_append] at same
  have more : taken ++ (Scan.run (isBlank closable) rest).1 ≠ [] := by simp [some]
  have parts := Position.mk.inj same
  exact place.pastAll_ne more (Place.mk.injEq .. ▸ parts.2)

theorem spells_share {r : Scan.Reading} {kind : TokenKind} {place : Place} {closable : Bool}
    (spells : Scan.Spells kind r) (some : r.taken ≠ []) (closed : kind = .comment → closable = false)
    {behind : List Char} (left : r.rest = behind.map .char) :
    Token.Share ⟨kind, .ofList (lexeme kind r.taken), ⟨file, place.line, place.column⟩⟩
      (next limit file ⟨r.rest, place.pastAll r.taken, closable⟩).1 r.taken behind := by
  cases spells with
  | @line text comment taken =>
    subst comment
    have lexeme : lexeme .comment r.taken = '/' :: '/' :: text := by
      rw [taken]
      exact Comment.lexeme_feed ('/' :: '/' :: text)
    have line : Token.IsLineComment ⟨.comment, .ofList ('/' :: '/' :: text), ⟨file, place.line, place.column⟩⟩ :=
      ⟨rfl, by simp⟩
    rw [lexeme, taken]
    simpa using Token.Share.line line
  | lastLine comment taken text last =>
    subst comment
    obtain rfl : behind = [] := by simpa [last] using left.symm
    have line : Token.IsLineComment ⟨.comment, .ofList r.taken, ⟨file, place.line, place.column⟩⟩ :=
      ⟨rfl, by simp [taken]⟩
    have ended : (next limit file ⟨[], place.pastAll r.taken, false⟩).1.kind = .endOfFile := rfl
    rw [text, last, closed rfl]
    simpa using Token.Share.lastLine line ended
  | whole text other =>
    have unlined : ¬ Token.IsLineComment ⟨kind, .ofList r.taken, ⟨file, place.line, place.column⟩⟩ :=
      fun line => other (by simpa [Token.IsLineComment] using line)
    have later : (next limit file ⟨r.rest, place.pastAll r.taken, closable⟩).1.position ≠ ⟨file, place.line, place.column⟩ :=
      next_later some r.rest closable
    have share : Token.Share _ _ _ behind := .whole unlined later
    rw [text]
    simpa using share

theorem next_share {s : Scanner} (whole : Whole (s.next limit file).1.kind)
    (validNext : ∀ error, ((s.next limit file).2.next limit file).1.kind ≠ .invalid error) :
    ∃ piece, s.skip.ahead = piece.map .char ++ (s.next limit file).2.ahead ∧
      ∀ behind, (s.next limit file).2.ahead = behind.map .char →
        (s.next limit file).1.Share ((s.next limit file).2.next limit file).1 piece behind := by
  have step := next_step whole.more
  have closed : _ ∨ _ → (s.next limit file).2.closable = false := next_closed
  generalize s.next limit file = read at step whole validNext closed ⊢
  cases step with
  | terminator found =>
    obtain ⟨before, place⟩ := next_added (Scan.front_terminator_ahead found) validNext
    exact ⟨[], rfl, fun behind _ => .added rfl rfl before place⟩
  | @reading r closing found =>
    have accepted := kindAndText_accepted whole.valid
    obtain ⟨spells, some⟩ := Scan.front_spells found accepted
    rw [leave_accepted accepted] at closed ⊢
    refine ⟨r.taken, (Scan.front_reading found).1.symm, fun behind left => ?_⟩
    rw [kindAndText_text whole.valid]
    exact spells_share spells some (fun comment => closed (.inr comment)) left

theorem next_valid {s : Scanner} (valid : ∀ token ∈ (s.tokens limit file).1, ∀ error, token.kind ≠ .invalid error) :
    ∀ error, (s.next limit file).1.kind ≠ .invalid error := by
  by_cases ended : (s.next limit file).1.kind = .endOfFile
  · rw [ended]
    simp
  · rw [tokens_more ended] at valid
    exact valid _ List.mem_cons_self

theorem tokens_tile {s : Scanner} (valid : ∀ token ∈ (s.tokens limit file).1, ∀ error, token.kind ≠ .invalid error) :
    ∃ text : List Char, s.ahead = text.map .char ∧ Tiling (s.tokens limit file).2 (s.tokens limit file).1 text := by
  fun_induction tokens limit file s with
  | case1 s ended =>
    have nothing : (Scan.run (isBlank s.closable) s.ahead).2 = [] := (next_ended ended).1
    have covers := Scan.run_append (isBlank s.closable) s.ahead
    rw [nothing, List.append_nil] at covers
    exact ⟨_, covers.symm, .finish fun c member => isBlank_blank (Scan.run_holds _ _ c member)⟩
  | case2 s more rest ih =>
    obtain ⟨here, later⟩ := List.forall_mem_cons.mp valid
    obtain ⟨behind, ahead, tiled⟩ := ih later
    have validNext := next_valid later
    have covers := Scan.run_append (isBlank s.closable) s.ahead
    obtain ⟨piece, split, share⟩ := next_share ⟨more, here⟩ validNext
    refine ⟨(Scan.run (isBlank s.closable) s.ahead).1 ++ piece ++ behind, ?_, ?_⟩
    · rw [List.map_append, List.map_append, List.append_assoc, ← ahead, ← split]
      exact covers.symm
    · refine .token (fun c member => isBlank_blank (Scan.run_holds _ _ c member)) ?_ tiled
      rw [tokens_head]
      exact share behind ahead

theorem start_mark (atoms : List Atom) : ∃ mark : List Char, (mark = [] ∨ mark = [byteOrderMark]) ∧
    atoms = mark.map .char ++ (start atoms).ahead ∧ (start atoms).place = Place.start.pastAll mark := by
  unfold start
  split
  · split
    · rename_i mark
      subst mark
      exact ⟨[byteOrderMark], .inr rfl, rfl, rfl⟩
    · exact ⟨[], .inl rfl, rfl, rfl⟩
  · exact ⟨[], .inl rfl, rfl, rfl⟩

end Scanner

-- A source without invalid tokens is cut up into its tokens and blanks, behind a byte order mark where it has one.
theorem Token.allOf_tiles (limit : Nat) (file : String) (source : List UInt8)
    (valid : ∀ token ∈ (allOf limit file source).1, ∀ error, token.kind ≠ .invalid error) :
    (allOf limit file source).2.kind = .endOfFile ∧
      ∃ mark text, (mark = [] ∨ mark = [byteOrderMark]) ∧ source = encode (mark ++ text) ∧
        Tiling (allOf limit file source).2 (allOf limit file source).1 text := by
  obtain ⟨text, ahead, tiled⟩ := Scanner.tokens_tile valid
  obtain ⟨mark, marks, whole, _⟩ := Scanner.start_mark (decode source)
  refine ⟨(allOf_identifiers limit file source).2, mark, text, marks, ?_, tiled⟩
  rw [ahead, ← List.map_append] at whole
  rw [← decode_bytes source, whole, bytes_chars]

namespace CommentsBetween

def source : List UInt8 := encode (byteOrderMark :: "a // b\nc\n/* d */ e // f".toList)

def place (line column : Nat) : Position := ⟨"", line, column⟩

theorem tokens : Token.allOf Token.defaultLimit "" source = ([
    ⟨.identifier, "a", place 1 2⟩, ⟨.semicolon, "\n", place 1 4⟩, ⟨.comment, "// b", place 1 4⟩,
    ⟨.identifier, "c", place 2 1⟩, ⟨.semicolon, "\n", place 2 2⟩, ⟨.comment, "/* d */", place 3 1⟩,
    ⟨.identifier, "e", place 3 9⟩, ⟨.semicolon, "\n", place 3 11⟩, ⟨.comment, "// f", place 3 11⟩],
    ⟨.endOfFile, "", place 3 15⟩) := by
  exact Scanner.tokens_first (n := 9) rfl (by decide) rfl

theorem tiled : (∀ token ∈ (Token.allOf Token.defaultLimit "" source).1, ∀ error, token.kind ≠ .invalid error) ∧
    ∃ mark text, (mark = [] ∨ mark = [byteOrderMark]) ∧ source = encode (mark ++ text) ∧
      Tiling (Token.allOf Token.defaultLimit "" source).2 (Token.allOf Token.defaultLimit "" source).1 text := by
  have valid : ∀ token ∈ (Token.allOf Token.defaultLimit "" source).1, ∀ error, token.kind ≠ .invalid error := by
    rw [tokens]
    simp
  exact ⟨valid, (Token.allOf_tiles Token.defaultLimit "" source valid).2⟩

end CommentsBetween
end WireSchema

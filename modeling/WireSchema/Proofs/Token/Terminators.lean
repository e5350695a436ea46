import WireSchema.Proofs.Token.Positions

-- A statement is ended behind a token by the kind of the token and by the first thing behind it that is no space,
-- wherever the two stand: by the end of a line, by what may start a comment, and by the end of the source.
namespace WireSchema
open Text

-- The first thing behind a token, but for spaces, is the end of a line, a slash, or the end of the source.
def EndsStatement (behind : List Char) : Prop :=
  ∀ c ∈ (behind.dropWhile (· ∈ [' ', '\t', '\r'])).head?, c = '\n' ∨ c = '/'

namespace Scan

theorem run_chars (p : Char → Bool) (text : List Char) :
    run p (text.map .char) = (text.takeWhile p, (text.dropWhile p).map .char) := by
  induction text with
  | nil => rfl
  | cons c rest ih => cases holds : p c <;> simp [run, holds, ih]

end Scan

namespace Scanner
variable {limit : Nat} {file : String}

theorem next_terminates {s : Scanner} (valid : ∀ error, (s.next limit file).1.kind ≠ .invalid error) :
    (s.next limit file).1.Terminates ↔
      s.closable = true ∧ ∀ atom ∈ s.skip.ahead.head?, atom = .char '\n' ∨ atom = .char '/' := by
  have stopped : Scan.startsWith (isBlank s.closable) s.skip.ahead = false := Scan.run_stops _ _
  by_cases ended : (s.next limit file).1.kind = .endOfFile
  · simp [Token.Terminates, ended, (next_ended ended).2]
  have step := next_step ended
  generalize s.next limit file = read at step valid
  cases step with
  | terminator found =>
    refine iff_of_true ⟨rfl, rfl⟩ ⟨Scan.front_terminator found, ?_⟩
    rcases Scan.front_terminator_ahead found with nothing | ⟨rest, slash⟩
    · simp [nothing]
    · simp [slash]
  | @reading r closing found =>
    have accepted := kindAndText_accepted valid
    have text := kindAndText_text valid
    obtain ⟨covers, _, some⟩ := Scan.front_reading found
    constructor
    · rintro ⟨kind, feed⟩
      dsimp only at kind feed
      rw [feed, kind] at text
      have taken : r.taken = ['\n'] := by simpa [lexeme, ← String.toList_inj] using text.symm
      have ahead : s.skip.ahead = .char '\n' :: r.rest := by rw [← covers, taken]; rfl
      rw [ahead] at stopped ⊢
      exact ⟨by simpa [Scan.startsWith, isBlank] using stopped, by simp⟩
    · rintro ⟨closable, ends⟩
      rw [closable] at found
      obtain ⟨atom, rest, ahead⟩ := List.exists_cons_of_ne_nil some
      rw [ahead] at found ends
      rcases ends atom rfl with rfl | rfl
      · rw [front_feed] at found
        cases found
        have kind := Scan.Ending.accepted.inj accepted
        rw [← kind] at text
        exact ⟨kind.symm, text⟩
      · cases found

theorem skip_ends {s : Scanner} {text : List Char} (ahead : s.ahead = text.map .char) (closable : s.closable = true) :
    (∀ atom ∈ s.skip.ahead.head?, atom = .char '\n' ∨ atom = .char '/') ↔ EndsStatement text := by
  have blanks : isBlank true = fun c => decide (c ∈ [' ', '\t', '\r']) := by
    funext c
    simp [isBlank, Bool.or_assoc]
  have skipped : s.skip.ahead = (text.dropWhile (· ∈ [' ', '\t', '\r'])).map .char := by
    rw [skip, closable, ahead, blanks, Scan.run_chars]
  rw [skipped, EndsStatement]
  cases text.dropWhile (· ∈ [' ', '\t', '\r']) <;> simp

structure Reads (text : List Char) (s : Scanner) (before ahead : List Char) : Prop where
  whole : text = before ++ ahead
  ahead : s.ahead = ahead.map .char
  place : s.place = Place.behind (before.map .char)

end Scanner

-- A token of a text and the next one: what stands in front of them, what the token takes, the blanks between the two,
-- and what is behind these. A newline is a blank only behind a token that does not end a statement.
structure Token.Between (limit : Nat) (file : String) (text : List Char) (token next : Token)
    (before piece gap behind : List Char) : Prop where
  whole : text = before ++ piece ++ gap ++ behind
  here : token.position = (Place.behind (before.map .char)).inFile file
  there : next.position = (Place.behind ((before ++ piece ++ gap).map .char)).inFile file
  takes : token.Takes limit (piece.map .char) ((gap ++ behind).map .char)
  blank : ∀ c ∈ gap, IsBlank c ∧ (token.kind.Closes → c ≠ '\n')
  ends : next.Terminates ↔ token.kind.Closes ∧ EndsStatement (gap ++ behind)

namespace Scanner
variable {limit : Nat} {file : String} {text before ahead : List Char} {s : Scanner}

theorem Reads.position (reads : s.Reads text before ahead) : (s.next limit file).1.position =
    (Place.behind ((before ++ ahead.takeWhile (isBlank s.closable)).map .char)).inFile file := by
  rw [next_position, skip_behind reads.place, reads.ahead, Scan.run_chars, List.map_append]
  rfl

theorem Reads.next (reads : s.Reads text before ahead) (whole : Whole (s.next limit file).1.kind) : ∃ piece later,
    (s.next limit file).2.Reads text (before ++ ahead.takeWhile (isBlank s.closable) ++ piece) later ∧
      (s.next limit file).1.Takes limit (piece.map .char) (later.map .char) := by
  obtain ⟨atoms, passes⟩ := next_passes reads.place whole.more
  have split := passes.split
  have place := passes.stands_valid whole.valid
  have takes := passes.takes
  rw [reads.ahead, Scan.run_chars] at split place
  have rest : (ahead.dropWhile (isBlank s.closable)).map .char = atoms ++ (s.next limit file).2.ahead := by
    rw [List.append_assoc] at split
    nth_rewrite 1 [← List.takeWhile_append_dropWhile (p := isBlank s.closable) (l := ahead)] at split
    rw [List.map_append] at split
    exact List.append_cancel_left split
  obtain ⟨piece, later, parts, rfl, laterChars⟩ := List.map_eq_append_iff.mp rest
  refine ⟨piece, later, ⟨?_, laterChars.symm, ?_⟩, ?_⟩
  · rw [reads.whole, List.append_assoc, List.append_assoc, ← parts, List.takeWhile_append_dropWhile]
  · rw [place, List.map_append, List.map_append]
  · rw [laterChars]
    exact takes

theorem Reads.between (reads : s.Reads text before ahead) (whole : Whole (s.next limit file).1.kind)
    (valid : ∀ error, ((s.next limit file).2.next limit file).1.kind ≠ .invalid error) :
    ∃ before piece gap behind,
      (s.next limit file).1.Between limit file text ((s.next limit file).2.next limit file).1 before piece gap behind := by
  have here : (s.next limit file).1.position = _ := reads.position
  have closable := next_closable whole
  obtain ⟨piece, later, reads, takes⟩ := reads.next whole
  have there : ((s.next limit file).2.next limit file).1.position = _ := reads.position
  generalize (s.next limit file).2 = t at *
  have parts := List.takeWhile_append_dropWhile (p := isBlank t.closable) (l := later)
  refine ⟨_, piece, later.takeWhile (isBlank t.closable), later.dropWhile (isBlank t.closable), ?_, here, there, ?_, ?_, ?_⟩
  · rw [List.append_assoc, parts, reads.whole]
  · rwa [parts]
  · intro c member
    have holds := Scan.run_holds (isBlank t.closable) (later.map .char)
    rw [Scan.run_chars] at holds
    have blank := holds c member
    refine ⟨isBlank_blank blank, ?_⟩
    rintro closes rfl
    simp [isBlank, closable, closes] at blank
  · rw [next_terminates valid, parts, closable, decide_eq_true_iff]
    exact and_congr_right fun closes => skip_ends reads.ahead (by rw [closable, decide_eq_true closes])

theorem tokens_next (s : Scanner) : (s.tokens limit file).1 ++ [(s.tokens limit file).2] =
    (s.next limit file).1 :: ((s.next limit file).2.first limit file (s.tokens limit file).1.length).1 :=
  (first_tokens s 1).symm

theorem tokens_between (reads : s.Reads text before ahead)
    (valid : ∀ token ∈ (s.tokens limit file).1, ∀ error, token.kind ≠ .invalid error) {front rest : List Token}
    {token next : Token} (split : (s.tokens limit file).1 ++ [(s.tokens limit file).2] = front ++ token :: next :: rest) :
    ∃ before piece gap behind, token.Between limit file text next before piece gap behind := by
  fun_induction tokens limit file s generalizing before ahead front with
  | case1 s ended =>
    have length := congrArg List.length split
    simp only [List.length_append, List.length_cons, List.length_nil] at length
    omega
  | @case2 s more later ih =>
    obtain ⟨here, validLater⟩ := List.forall_mem_cons.mp valid
    cases front with
    | cons first front =>
      obtain ⟨piece, ahead, reads, _⟩ := reads.next ⟨more, here⟩
      exact ih reads validLater (List.cons.inj split).2
    | nil =>
      obtain ⟨rfl, behind⟩ := List.cons.inj split
      obtain rfl : ((s.next limit file).2.next limit file).1 = next :=
        (List.cons.inj ((tokens_next _).symm.trans behind)).1
      exact reads.between ⟨more, here⟩ (next_valid validLater)

-- A token at the place of a newline is a terminator: all other newlines are blanks, or inside of tokens.
theorem next_feeds (reads : s.Reads text before ahead) (valid : ∀ error, (s.next limit file).1.kind ≠ .invalid error)
    {front behind : List Char} (feed : text = front ++ '\n' :: behind)
    (place : (s.next limit file).1.position = (Place.behind (front.map .char)).inFile file) :
    (s.next limit file).1.Terminates := by
  have stopped : Scan.startsWith (isBlank s.closable) s.skip.ahead = false := Scan.run_stops _ _
  have covers : s.ahead = _ ++ s.skip.ahead := (Scan.run_append (isBlank s.closable) s.ahead).symm
  have whole : before.map Atom.char ++ (Scan.run (isBlank s.closable) s.ahead).1.map .char ++ s.skip.ahead =
      front.map .char ++ .char '\n' :: behind.map .char := by
    rw [List.append_assoc, ← covers, reads.ahead, ← List.map_append, ← reads.whole, feed, List.map_append]
    rfl
  rw [next_position, skip_behind reads.place] at place
  have ahead : s.skip.ahead = .char '\n' :: behind.map .char := by
    rw [Place.behind_inj whole (Place.inFile_inj place)] at whole
    exact List.append_cancel_left whole
  rw [next_terminates valid, ahead]
  rw [ahead] at stopped
  exact ⟨by simpa [Scan.startsWith, isBlank] using stopped, by simp⟩

theorem tokens_feeds (reads : s.Reads text before ahead)
    (valid : ∀ token ∈ (s.tokens limit file).1, ∀ error, token.kind ≠ .invalid error) {front behind : List Char}
    (feed : text = front ++ '\n' :: behind) {token : Token}
    (member : token ∈ (s.tokens limit file).1 ++ [(s.tokens limit file).2])
    (place : token.position = (Place.behind (front.map .char)).inFile file) : token.Terminates := by
  fun_induction tokens limit file s generalizing before ahead with
  | case1 s ended =>
    obtain rfl := List.mem_singleton.mp member
    exact next_feeds reads (by simp [ended]) feed place
  | @case2 s more rest ih =>
    obtain ⟨here, later⟩ := List.forall_mem_cons.mp valid
    rcases List.mem_cons.mp member with rfl | member
    · exact next_feeds reads here feed place
    · obtain ⟨piece, ahead, reads, _⟩ := reads.next ⟨more, here⟩
      exact ih reads later member

end Scanner

-- No statement ends behind a terminator, a comment, a keyword, or a mark that something has to follow.
def Token.Continues (token : Token) : Prop :=
  token.kind ∈ [.semicolon, .openParen, .openBracket, .openBrace, .comma, .asterisk, .assign, .period, .comment] ∨
    ∃ word, token.kind = .keyword word

theorem Token.Between.never {limit : Nat} {file : String} {text before piece gap behind : List Char} {token next : Token}
    (between : token.Between limit file text next before piece gap behind) (terminates : next.Terminates) :
    ¬ token.Continues := by
  have closes := (between.ends.mp terminates).1
  unfold TokenKind.Closes at closes
  rintro (mark | ⟨word, kind⟩)
  · simp only [List.mem_cons, List.not_mem_nil, or_false] at mark
    rcases mark with kind | kind | kind | kind | kind | kind | kind | kind | kind <;> simp [kind] at closes
  · simp [kind] at closes

-- How the tokens of a text end its statements: a terminator comes behind a token exactly where a statement ends there,
-- and no other newline of the text is a token.
structure Token.Terminated (limit : Nat) (file : String) (text : List Char) (tokens : List Token) : Prop where
  first : ∀ token ∈ tokens.head?, ¬ token.Terminates
  each : ∀ front token next rest, tokens = front ++ token :: next :: rest →
    ∃ before piece gap behind, token.Between limit file text next before piece gap behind
  never : ∀ front token next rest, tokens = front ++ token :: next :: rest → next.Terminates → ¬ token.Continues
  feeds : ∀ front behind, text = front ++ '\n' :: behind → ∀ token ∈ tokens,
    token.position = (Place.behind (front.map .char)).inFile file → token.Terminates

-- The statements of a source without invalid tokens end by this rule.
theorem Token.allOf_terminated (limit : Nat) (file : String) (source : List UInt8)
    (valid : ∀ token ∈ (allOf limit file source).1, ∀ error, token.kind ≠ .invalid error) :
    ∃ text, source = encode text ∧
      Terminated limit file text ((allOf limit file source).1 ++ [(allOf limit file source).2]) := by
  obtain ⟨ahead, here, _⟩ := Scanner.tokens_tile valid
  obtain ⟨mark, _, whole, place⟩ := Scanner.start_behind (decode source)
  have reads : (Scanner.start (decode source)).Reads (mark ++ ahead) mark ahead := ⟨rfl, here, place⟩
  have each : ∀ front token next rest, (allOf limit file source).1 ++ [(allOf limit file source).2] =
      front ++ token :: next :: rest → ∃ before piece gap behind,
        token.Between limit file (mark ++ ahead) next before piece gap behind :=
    fun front token next rest split => Scanner.tokens_between reads valid split
  rw [here, ← List.map_append] at whole
  refine ⟨mark ++ ahead, by rw [← decode_bytes source, whole, bytes_chars], ?_, each, ?_, ?_⟩
  · intro token member terminates
    unfold allOf at member
    rw [Scanner.tokens_next] at member
    cases member
    have closable := ((Scanner.next_terminates (Scanner.next_valid valid)).mp terminates).1
    rw [Scanner.start_closable] at closable
    cases closable
  · intro front token next rest split terminates
    obtain ⟨before, piece, gap, behind, between⟩ := each front token next rest split
    exact between.never terminates
  · intro front behind feed token member place
    exact Scanner.tokens_feeds reads valid feed member place

namespace CommentsBetween

theorem statements_ended : (∀ token ∈ (Token.allOf Token.defaultLimit "" source).1, ∀ error, token.kind ≠ .invalid error) ∧
    ∃ text, source = encode text ∧ Token.Terminated Token.defaultLimit "" text
      ((Token.allOf Token.defaultLimit "" source).1 ++ [(Token.allOf Token.defaultLimit "" source).2]) := by
  have valid : ∀ token ∈ (Token.allOf Token.defaultLimit "" source).1, ∀ error, token.kind ≠ .invalid error := by
    rw [tokens]
    simp
  exact ⟨valid, Token.allOf_terminated Token.defaultLimit "" source valid⟩

end CommentsBetween
end WireSchema

import WireSchema.Proofs.Token.Tiling

-- The tokens of a source are those of their own texts with a space behind each, and with the end of its line behind a
-- line comment: every token ends where it is printed to end, and no other one starts behind it.
namespace WireSchema
open Text

namespace Scan

def separator (kind : TokenKind) (text : List Char) : Char :=
  if kind = .comment ∧ ['/', '/'] <+: text then '\n' else ' '

section Reading
variable {c : Char} {atoms rest : List Atom} {kind : TokenKind}

theorem lineComment_fed (accepted : (lineComment atoms).ending = .accepted kind)
    (unended : (lineComment atoms).taken.getLast? ≠ some '\n') (other : List Atom) :
    lineComment ((lineComment atoms).taken.map .char ++ .char '\n' :: other) =
      ⟨(lineComment atoms).taken ++ ['\n'], .accepted .comment, other⟩ := by
  induction atoms with
  | nil => rfl
  | cons atom rest ih =>
    cases forbidden : forbidden? atom with
    | some error => simp [lineComment, forbidden] at accepted
    | none =>
      cases atom with
      | stray byte => cases forbidden
      | char c =>
        by_cases feed : c = '\n'
        · subst feed
          exact absurd (by simp [lineComment, forbidden]) unended
        · rw [lineComment_goes forbidden feed] at accepted unended ⊢
          have later : (lineComment rest).taken.getLast? ≠ some '\n' :=
            fun last => unended ((getLast?_cons_feed feed _).mpr last)
          simp only [Reading.after, List.cons_append, List.nil_append, List.map_cons]
          rw [lineComment_goes forbidden feed, ih accepted later]
          rfl

theorem token_fed {text : List Char} (accepted : (token c rest).1.ending = .accepted kind)
    (taken : (token c rest).1.taken = '/' :: '/' :: text) (unended : ('/' :: '/' :: text).getLast? ≠ some '\n')
    (other : List Atom) : c = '/' ∧ token c (('/' :: text).map .char ++ .char '\n' :: other) =
      (⟨'/' :: '/' :: (text ++ ['\n']), .accepted .comment, other⟩, (token c rest).2) := by
  have covers : (token c rest).1.Covers (.char c :: rest) := (token_covers c rest).1
  rw [Reading.Covers, taken] at covers
  obtain ⟨same, behind⟩ := List.cons.inj covers
  obtain rfl : '/' = c := Atom.char.inj same
  obtain ⟨line, rfl⟩ : ∃ line, rest = .char '/' :: line := ⟨_, behind.symm⟩
  refine ⟨rfl, ?_⟩
  rw [token_slash] at accepted taken ⊢
  rw [token_slash]
  simp only [slash, Reading.after, List.cons_append, List.nil_append, List.cons.injEq, true_and, List.map_cons]
    at accepted taken ⊢
  rw [ne_eq, getLast?_cons_feed (by decide), getLast?_cons_feed (by decide), ← taken] at unended
  rw [← taken, lineComment_fed accepted unended]

theorem token_comment_of_slashes (accepted : (token c rest).1.ending = .accepted kind)
    (slashes : ['/', '/'] <+: (token c rest).1.taken) : kind = .comment := by
  obtain ⟨text, taken⟩ := slashes
  have covers : (token c rest).1.Covers (.char c :: rest) := (token_covers c rest).1
  rw [Reading.Covers, ← taken] at covers
  obtain rfl : '/' = c := Atom.char.inj (List.cons.inj covers).1
  rw [token_slash] at accepted
  simpa using slash_among rest kind accepted

structure Again (kind : TokenKind) (text taken gap : List Char) : Prop where
  whole : text ++ [separator kind text] = taken ++ gap
  lexeme : Scanner.lexeme kind taken = text
  gap : gap = [] ∨ gap = [' ']

theorem again_line {text : List Char} (slashes : ['/', '/'] <+: text) : Again .comment text (text ++ ['\n']) [] :=
  ⟨by simp [separator, slashes], Comment.lexeme_feed text, .inl rfl⟩

-- A token as it is printed is read again, with the end of its line if it is a line comment and up to the space behind
-- it if it is none.
theorem token_again (accepted : (token c rest).1.ending = .accepted kind) : ∃ tail taken gap,
    Scanner.lexeme kind (token c rest).1.taken = c :: tail ∧ Again kind (c :: tail) taken gap ∧
      ∀ other, token c ((tail ++ [separator kind (c :: tail)]).map .char ++ other) =
        (⟨taken, .accepted kind, gap.map .char ++ other⟩, (token c rest).2) := by
  cases token_spells accepted with
  | @line text comment taken =>
    subst comment
    have ended : (token c rest).1.taken.getLast? = some '\n' := by
      rw [taken]
      exact List.getLast?_concat (l := '/' :: '/' :: text)
    have apart : ∀ other, ∃ tail, (token c rest).1.taken = c :: tail ∧
        token c (tail.map .char ++ other) = ((token c rest).1.before other, (token c rest).2) :=
      fun other => token_apart accepted (fun _ => .inr ended) (.inr (.inl rfl))
    obtain ⟨_, whole, _⟩ := apart []
    obtain rfl : '/' = c := (List.cons.inj (taken.symm.trans whole)).1
    have lexeme : Scanner.lexeme .comment (token '/' rest).1.taken = '/' :: '/' :: text := by
      rw [taken]
      exact Comment.lexeme_feed ('/' :: '/' :: text)
    refine ⟨'/' :: text, _, [], lexeme, again_line (by simp), fun other => ?_⟩
    obtain ⟨tail, whole, same⟩ := apart other
    obtain rfl : '/' :: (text ++ ['\n']) = tail := (List.cons.inj (taken.symm.trans whole)).2
    have separates : separator .comment ('/' :: '/' :: text) = '\n' := by simp [separator]
    rw [separates]
    refine same.trans (Prod.ext ?_ rfl)
    rw [Reading.before, taken, accepted]
    rfl
  | @lastLine text comment taken lexeme last =>
    subst comment
    have unended : ('/' :: '/' :: text).getLast? ≠ some '\n' := by
      intro ended
      rw [taken, Scanner.lexeme, if_pos ⟨rfl, ended⟩] at lexeme
      simpa using congrArg List.length lexeme
    obtain ⟨rfl, _⟩ := token_fed accepted taken unended []
    refine ⟨'/' :: text, _, [], lexeme.trans taken, again_line (by simp), fun other => ?_⟩
    have separates : separator .comment ('/' :: '/' :: text) = '\n' := by simp [separator]
    rw [separates]
    simpa using (token_fed accepted taken unended other).2
  | whole lexeme other =>
    have unslashed : ¬ ['/', '/'] <+: (token c rest).1.taken :=
      fun slashes => other ⟨token_comment_of_slashes accepted slashes, slashes⟩
    have apart := fun behind => token_apart accepted (fun slashes => absurd slashes unslashed)
      (.inr (.inr (.of_space _ behind)))
    obtain ⟨tail, whole, _⟩ := apart []
    have separates : separator kind (c :: tail) = ' ' := by
      rw [separator, if_neg fun both => unslashed (whole ▸ both.2)]
    refine ⟨tail, c :: tail, [' '], lexeme.trans whole, ⟨by rw [separates], ?_, .inr rfl⟩, fun behind => ?_⟩
    · rw [← whole, lexeme]
    · obtain ⟨_, same, read⟩ := apart behind
      obtain rfl : tail = _ := (List.cons.inj (whole.symm.trans same)).2
      rw [separates, List.map_append, List.append_assoc]
      refine read.trans (Prod.ext ?_ rfl)
      rw [Reading.before, whole, accepted]
      rfl

end Reading

theorem front_plain {closable : Bool} {atoms : List Atom} {r : Reading} {closing : Closing} {kind : TokenKind}
    (found : front closable atoms = .reading r closing) (accepted : r.ending = .accepted kind) :
    ∃ c rest, atoms = .char c :: rest ∧ token c rest = (r, closing) ∧
      ∀ other, front closable (.char c :: other) = .reading (token c other).1 (token c other).2 := by
  unfold front at found
  split at found
  · split at found <;> cases found
  · cases found
    cases accepted
  · rename_i c rest
    split at found
    · cases found
      cases accepted
    · rename_i printed
      split at found
      · cases found
      · rename_i unmarked
        cases found
        have marks : ¬ (c = '/' ∧ closable = true) := by simpa using unmarked
        exact ⟨c, rest, rfl, rfl, front_token_eq printed marks⟩

end Scan

def Token.printed (token : Token) : List Char := token.text.toList ++ [Scan.separator token.kind token.text.toList]

def Token.print (tokens : List Token) : List Char := tokens.flatMap Token.printed

namespace Scanner
variable {limit larger : Nat} {file : String}

theorem next_gap {atoms : List Atom} {closable : Bool} (stopped : Scan.startsWith (isBlank closable) atoms = false)
    {gap : List Char} (space : gap = [] ∨ gap = [' ']) (place : Place) :
    next limit file ⟨gap.map .char ++ atoms, place, closable⟩ = next limit file ⟨atoms, place.pastAll gap, closable⟩ := by
  rcases space with rfl | rfl
  · rfl
  · have blank : isBlank closable ' ' = true := by simp [isBlank]
    have blanks : Scan.run (isBlank closable) ([' '].map .char ++ atoms) = ([' '], atoms) := by
      simp [Scan.run, blank, Scan.run_stopped stopped]
    unfold next
    dsimp only
    rw [blanks, Scan.run_stopped stopped]
    rfl

theorem next_front {closable : Bool} {kind : TokenKind} {taken left gap : List Char} {closing : Scan.Closing}
    {behind : List Atom} (stopped : Scan.startsWith (isBlank closable) ((taken ++ left).map .char ++ behind) = false)
    (found : Scan.front closable ((taken ++ left).map .char ++ behind) =
      .reading ⟨taken, .accepted kind, left.map .char ++ behind⟩ closing)
    (fits : byteCount taken ≤ larger) (space : gap = [] ∨ gap = [' ']) (name : String) (place : Place) :
    ∃ position stop, next larger name ⟨(gap ++ (taken ++ left)).map .char ++ behind, place, closable⟩ =
      (⟨kind, .ofList (lexeme kind taken), position⟩,
        ⟨left.map .char ++ behind, stop, closes closing closable kind⟩) := by
  have content : kindAndText larger ⟨taken, .accepted kind, left.map .char ++ behind⟩ =
      (kind, .ofList (lexeme kind taken)) := if_neg (Nat.not_lt.mpr fits)
  rw [List.map_append, List.append_assoc, next_gap stopped space, next_reading stopped found, content]
  exact ⟨_, _, rfl⟩

theorem next_printed {s : Scanner} (whole : Whole (s.next limit file).1.kind)
    (fits : byteCount (s.next limit file).1.printed ≤ larger) {gap : List Char} (space : gap = [] ∨ gap = [' '])
    (name : String) (place : Place) (behind : List Atom) :
    ∃ left position stop, (left = [] ∨ left = [' ']) ∧
      next larger name ⟨(gap ++ (s.next limit file).1.printed).map .char ++ behind, place, s.closable⟩ =
        (⟨(s.next limit file).1.kind, (s.next limit file).1.text, position⟩,
          ⟨left.map .char ++ behind, stop, (s.next limit file).2.closable⟩) := by
  have step := next_step whole.more
  generalize s.next limit file = read at step whole fits ⊢
  cases step with
  | terminator found =>
    have closable := Scan.front_terminator found
    have printed : Token.printed ⟨.semicolon, "\n", ⟨file, s.skip.place.line, s.skip.place.column⟩⟩ = ['\n'] ++ [' '] := by
      simp [Token.printed, Scan.separator]
    rw [printed] at fits ⊢
    rw [closable]
    have fits : byteCount ['\n'] ≤ larger := by
      rw [byteCount_append] at fits
      omega
    have front : Scan.front true ((['\n'] ++ [' ']).map .char ++ behind) =
        .reading ⟨['\n'], .accepted .semicolon, [' '].map .char ++ behind⟩ .no := front_feed _
    obtain ⟨position, stop, read⟩ := next_front rfl front fits space name place
    exact ⟨[' '], position, stop, .inr rfl, read⟩
  | @reading r closing found =>
    have stopped : Scan.startsWith (isBlank s.closable) s.skip.ahead = false := Scan.run_stops _ _
    have accepted := kindAndText_accepted whole.valid
    rw [leave_accepted accepted]
    rw [kindAndText_text whole.valid] at fits ⊢
    generalize (kindAndText limit r).1 = kind at accepted fits ⊢
    obtain ⟨c, rest, ahead, same, plain⟩ := Scan.front_plain found accepted
    obtain rfl : (Scan.token c rest).1 = r := congrArg Prod.fst same
    obtain rfl : (Scan.token c rest).2 = closing := congrArg Prod.snd same
    obtain ⟨tail, taken, left, lexeme, again, read⟩ := Scan.token_again accepted
    have printed : Token.printed ⟨kind, .ofList (Scanner.lexeme kind (Scan.token c rest).1.taken),
        ⟨file, s.skip.place.line, s.skip.place.column⟩⟩ = taken ++ left := by
      rw [Token.printed, String.toList_ofList, lexeme, again.whole]
    rw [printed] at fits ⊢
    have fits : byteCount taken ≤ larger := by
      rw [byteCount_append] at fits
      omega
    have spelled : (taken ++ left).map Atom.char ++ behind =
        .char c :: ((tail ++ [Scan.separator kind (c :: tail)]).map .char ++ behind) := by
      rw [← again.whole]
      rfl
    have front := plain ((tail ++ [Scan.separator kind (c :: tail)]).map .char ++ behind)
    rw [read, ← spelled] at front
    rw [ahead] at stopped
    have stoppedToo : Scan.startsWith (isBlank s.closable) ((taken ++ left).map .char ++ behind) = false := by
      rw [spelled]
      exact stopped
    obtain ⟨position, stop, next⟩ := next_front stoppedToo front fits space name place
    rw [again.lexeme, ← lexeme] at next
    exact ⟨left, position, stop, again.gap, next⟩

theorem next_end {s : Scanner} (ended : (s.next limit file).1.kind = .endOfFile) : (s.next limit file).1.text = "" := by
  unfold next at ended ⊢
  dsimp only at ended ⊢
  split at ended
  · rfl
  · cases ended
  · rename_i r closing found
    exact absurd ended (kindAndText_unended (Scan.front_unended found))

theorem tokens_printed {s : Scanner} (valid : ∀ token ∈ (s.tokens limit file).1, ∀ error, token.kind ≠ .invalid error)
    (fits : byteCount (Token.print (s.tokens limit file).1) ≤ larger) {gap : List Char}
    (space : gap = [] ∨ gap = [' ']) (name : String) (place : Place) :
    (tokens larger name ⟨(gap ++ Token.print (s.tokens limit file).1).map .char, place, s.closable⟩).1.map Token.word =
        (s.tokens limit file).1.map Token.word ∧
      (tokens larger name ⟨(gap ++ Token.print (s.tokens limit file).1).map .char, place, s.closable⟩).2.word =
        (s.tokens limit file).2.word := by
  fun_induction tokens limit file s generalizing gap place with
  | case1 s ended =>
    have closed := (next_ended ended).2
    have last : (next larger name ⟨gap.map .char, place, false⟩).1.word = (.endOfFile, "") := by
      have gone : next larger name ⟨gap.map .char ++ [], place, false⟩ = _ := next_gap rfl space place
      rw [List.append_nil] at gone
      rw [gone]
      rfl
    have finish : (s.next limit file).1.word = (.endOfFile, "") := Prod.ext ended (next_end ended)
    rw [closed, Token.print, List.flatMap_nil, List.append_nil, tokens_ended (congrArg Prod.fst last)]
    exact ⟨rfl, last.trans finish.symm⟩
  | case2 s more rest ih =>
    obtain ⟨here, later⟩ := List.forall_mem_cons.mp valid
    have split : Token.print ((s.next limit file).1 :: rest.1) = (s.next limit file).1.printed ++ Token.print rest.1 := rfl
    rw [split, byteCount_append] at fits
    rw [split, ← List.append_assoc, List.map_append]
    obtain ⟨left, position, stop, space, read⟩ := next_printed ⟨more, here⟩
      (by omega : byteCount (s.next limit file).1.printed ≤ larger) space name place ((Token.print rest.1).map .char)
    have moreToo : (next larger name ⟨(gap ++ (s.next limit file).1.printed).map .char ++
        (Token.print rest.1).map .char, place, s.closable⟩).1.kind ≠ .endOfFile := by
      have read : next larger name ⟨_, place, s.closable⟩ = _ := read
      rw [read]
      exact more
    have read : next larger name ⟨_, place, s.closable⟩ = _ := read
    rw [tokens_more moreToo, read, ← List.map_append]
    have fits : byteCount (Token.print rest.1) ≤ larger := by omega
    obtain ⟨words, finish⟩ := ih later fits space stop
    rw [List.map_cons, List.map_cons, words]
    exact ⟨rfl, finish⟩

theorem start_valid {atoms : List Atom} (valid : ∀ error, (next limit file ⟨atoms, .start, false⟩).1.kind ≠ .invalid error) :
    start atoms = ⟨atoms, .start, false⟩ := by
  refine start_plain ?_
  rintro rest rfl
  rw [next_reading rfl (Scan.front_mark false rest)] at valid
  exact valid .byteOrderMark rfl

end Scanner

-- The printed tokens of a source without invalid ones are its tokens again.
theorem Token.allOf_print (limit : Nat) (file : String) (source : List UInt8)
    (valid : ∀ token ∈ (allOf limit file source).1, ∀ error, token.kind ≠ .invalid error) (larger : Nat)
    (fits : (encode (print (allOf limit file source).1)).length < larger) (name : String) :
    (allOf larger name (encode (print (allOf limit file source).1))).1.map word = (allOf limit file source).1.map word ∧
      (allOf larger name (encode (print (allOf limit file source).1))).2.word = (allOf limit file source).2.word := by
  have fits : byteCount (print (allOf limit file source).1) ≤ larger := by
    rw [encode_length] at fits
    exact Nat.le_of_lt fits
  have again := Scanner.tokens_printed valid fits (.inl rfl) name .start
  rw [Scanner.start_closable, List.nil_append] at again
  have validAgain : ∀ token ∈ (Scanner.tokens larger name
      ⟨(print (allOf limit file source).1).map .char, .start, false⟩).1, ∀ error, token.kind ≠ .invalid error := by
    intro token member
    have same : token.word ∈ (allOf limit file source).1.map word := again.1 ▸ List.mem_map_of_mem member
    obtain ⟨original, among, word⟩ := List.mem_map.mp same
    rw [← (Prod.mk.inj word).1]
    exact valid original among
  have starts := Scanner.start_valid (Scanner.next_valid validAgain)
  unfold allOf at starts ⊢
  rw [decode_encode, starts]
  exact again

namespace CommentsBetween

theorem printed : Token.print (Token.allOf Token.defaultLimit "" source).1 =
    "a \n // b\nc \n /* d */ e \n // f\n".toList := by
  rw [tokens]
  decide

def words : List (TokenKind × String) := [(.identifier, "a"), (.semicolon, "\n"), (.comment, "// b"), (.identifier, "c"),
  (.semicolon, "\n"), (.comment, "/* d */"), (.identifier, "e"), (.semicolon, "\n"), (.comment, "// f")]

theorem read_again : (∀ token ∈ (Token.allOf Token.defaultLimit "" source).1, ∀ error, token.kind ≠ .invalid error) ∧
    (encode (Token.print (Token.allOf Token.defaultLimit "" source).1)).length < 31 ∧
    (Token.allOf Token.defaultLimit "" source).1.map Token.word = words ∧
    (Token.allOf 31 "again" (encode (Token.print (Token.allOf Token.defaultLimit "" source).1))).1.map Token.word = words ∧
    (Token.allOf 31 "again" (encode (Token.print (Token.allOf Token.defaultLimit "" source).1))).2.word =
      (.endOfFile, "") := by
  have valid : ∀ token ∈ (Token.allOf Token.defaultLimit "" source).1, ∀ error, token.kind ≠ .invalid error := by
    rw [tokens]
    simp
  have fits : (encode (Token.print (Token.allOf Token.defaultLimit "" source).1)).length < 31 := by
    rw [printed]
    decide
  have read : (Token.allOf Token.defaultLimit "" source).1.map Token.word = words := by
    rw [tokens]
    rfl
  have finish : (Token.allOf Token.defaultLimit "" source).2.word = (.endOfFile, "") := by
    rw [tokens]
    rfl
  obtain ⟨again, finishAgain⟩ := Token.allOf_print Token.defaultLimit "" source valid 31 fits "again"
  exact ⟨valid, fits, read, again.trans read, finishAgain.trans finish⟩

end CommentsBetween
end WireSchema

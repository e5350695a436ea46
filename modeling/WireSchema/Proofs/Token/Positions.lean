import WireSchema.Proofs.Reported.Order
import WireSchema.Proofs.Token.Tiling

-- The position of a token is the place behind all that stands in front of it: its line is counted by the newlines there
-- and its column by the characters behind the last one. Only where a string or a block comment goes on to the end of the
-- source does the end come a column further right.
namespace WireSchema
open Text

namespace Place

def behind (before : List Atom) : Place :=
  ⟨1 + before.count (.char '\n'), 1 + (before.reverse.takeWhile (· ≠ .char '\n')).length⟩

def further (p : Place) : Place := ⟨p.line, p.column + 1⟩

def inFile (p : Place) (file : String) : Position := ⟨file, p.line, p.column⟩

theorem inFile_inj {p q : Place} {file : String} (same : p.inFile file = q.inFile file) : p = q :=
  (Place.mk.injEq ..).mpr (Position.mk.inj same).2

theorem behind_concat (before : List Atom) (atom : Atom) :
    behind (before ++ [atom]) = (behind before).pastFront [atom] := by
  by_cases feed : atom = .char '\n'
  · subst feed
    rw [pastFront_feed]
    simp [behind, Nat.add_assoc]
  · rw [pastFront_other _ feed]
    simp [behind, feed, Nat.add_assoc]

theorem behind_chars (before : List Atom) (text : List Char) :
    behind (before ++ text.map .char) = (behind before).pastAll text := by
  induction text generalizing before with
  | nil => rw [List.map_nil, List.append_nil]; rfl
  | cons c rest ih =>
    have split : before ++ (c :: rest).map .char = before ++ [.char c] ++ rest.map .char := by simp
    rw [split, ih, behind_concat]
    rfl

theorem behind_forward (before more : List Atom) : (behind before).line < (behind (before ++ more)).line ∨
    (behind before).line = (behind (before ++ more)).line ∧
      (behind before).column + more.length = (behind (before ++ more)).column := by
  induction more generalizing before with
  | nil => simp
  | cons atom rest ih =>
    have later := ih (before ++ [atom])
    rw [List.append_assoc, List.singleton_append, behind_concat] at later
    rw [List.length_cons]
    by_cases feed : atom = .char '\n'
    · subst feed
      rw [pastFront_feed] at later
      dsimp only at later
      omega
    · rw [pastFront_other _ feed] at later
      dsimp only at later
      omega

theorem behind_atMost (file : String) (before more : List Atom) :
    ((behind before).inFile file).AtMost ((behind (before ++ more)).inFile file) := by
  have forward := behind_forward before more
  refine .inr ⟨rfl, ?_⟩
  simp only [inFile]
  omega

theorem behind_inj {before other rest more : List Atom} (whole : before ++ rest = other ++ more)
    (same : behind before = behind other) : before = other := by
  rcases List.append_eq_append_iff.mp whole with ⟨between, rfl, _⟩ | ⟨between, rfl, _⟩
  · have forward := behind_forward before between
    rw [← same] at forward
    obtain rfl : between = [] := List.length_eq_zero_iff.mp (by omega)
    rw [List.append_nil]
  · have forward := behind_forward other between
    rw [same] at forward
    obtain rfl : between = [] := List.length_eq_zero_iff.mp (by omega)
    rw [List.append_nil]

end Place

namespace Scan

def Reading.used (r : Reading) : List Atom :=
  r.taken.map .char ++ if r.ending.takesNext then r.rest.take 1 else []

def Reading.left (r : Reading) : List Atom := if r.ending.takesNext then r.rest.tail else r.rest

theorem Reading.Covers.used_left {r : Reading} {atoms : List Atom} (covers : r.Covers atoms) :
    r.used ++ r.left = atoms := by
  rw [← covers]
  unfold used left
  cases r.ending.takesNext with
  | false => simp
  | true => simp [List.append_assoc, ← List.drop_one]

theorem Reading.used_accepted {r : Reading} {kind : TokenKind} (accepted : r.ending = .accepted kind) :
    r.used = r.taken.map .char ∧ r.left = r.rest := by
  simp [used, left, accepted, Ending.takesNext]

-- Only strings and block comments that are not closed take the end of a source for something to go past.
structure Reading.Ends (r : Reading) : Prop where
  past : ∀ error, r.ending = .rejected error true → r.rest = [] → error = .openString ∨ error = .openComment
  unclosed : ∀ error takesNext, r.ending = .rejected error takesNext → error = .openString ∨ error = .openComment →
    (takesNext = true ↔ r.rest = [])

namespace Reading.Ends

theorem after {r : Reading} (ends : r.Ends) (front : List Char) : (r.after front).Ends := ⟨ends.past, ends.unclosed⟩

theorem of_accepted {taken : List Char} {kind : TokenKind} {rest : List Atom} : Ends ⟨taken, .accepted kind, rest⟩ :=
  ⟨nofun, nofun⟩

theorem of_stays {taken : List Char} {error : LexicalError} (closed : error ≠ .openString ∧ error ≠ .openComment)
    {rest : List Atom} : Ends ⟨taken, .rejected error false, rest⟩ := by
  refine ⟨nofun, ?_⟩
  intro _ _ rejected isOpen
  cases rejected
  exact absurd isOpen (not_or.mpr closed)

theorem of_stopped {error : LexicalError} (closed : error ≠ .openString ∧ error ≠ .openComment) {atom : Atom}
    {rest : List Atom} : Ends ⟨[], .rejected error true, atom :: rest⟩ := by
  refine ⟨nofun, ?_⟩
  intro _ _ rejected isOpen
  cases rejected
  exact absurd isOpen (not_or.mpr closed)

theorem exponent (kind : TokenKind) (atoms : List Atom) : (exponent kind atoms).Ends := by
  unfold Scan.exponent
  dsimp only
  split
  · exact of_accepted
  · split
    · exact of_stays (by simp)
    · exact of_accepted

theorem wholePart (atoms : List Atom) : (wholePart atoms).Ends := by
  unfold Scan.wholePart
  dsimp only
  split
  · exact exponent _ _
  · exact ((exponent .float _).after _).after _

theorem zero (atoms : List Atom) : (zero atoms).Ends := by
  unfold Scan.zero
  dsimp only
  split
  · split
    · exact (wholePart _).after _
    · split
      · exact of_accepted
      · exact of_stays (by simp)
  · split
    · exact of_stays (by simp)
    · exact of_accepted

theorem number (c : Char) (atoms : List Atom) : (number c atoms).Ends := by
  unfold Scan.number
  split
  · exact (zero _).after _
  · exact (wholePart _).after _

theorem negative (atoms : List Atom) : (negative atoms).Ends := by
  unfold Scan.negative
  split
  · split
    · split
      · exact ((exponent .float _).after _).after _
      · exact of_stays (by simp)
    · split
      · exact number _ _
      · exact of_stays (by simp)
  · exact of_stays (by simp)

theorem forbidden?_closed {atom : Atom} {error : LexicalError} (forbidden : forbidden? atom = some error) :
    error ≠ .openString ∧ error ≠ .openComment := by
  unfold forbidden? at forbidden
  split at forbidden
  · cases forbidden
    simp
  · split at forbidden
    · cases forbidden
      simp
    · split at forbidden
      · cases forbidden
        simp
      · cases forbidden

theorem of_nothing {error : LexicalError} (isOpen : error = .openString ∨ error = .openComment) :
    Ends ⟨[], .rejected error true, []⟩ := by
  refine ⟨fun _ rejected _ => ?_, fun _ _ rejected _ => ?_⟩ <;> cases rejected
  · exact isOpen
  · simp

theorem rawString (atoms : List Atom) : (rawString atoms).Ends := by
  fun_induction Scan.rawString atoms with
  | case1 => exact of_nothing (.inl rfl)
  | case2 atom rest error forbidden => simpa only [forbidden] using of_stopped (forbidden?_closed forbidden)
  | case3 rest forbidden => simpa [forbidden] using of_accepted
  | case4 rest c other forbidden ih => simpa [forbidden, other] using ih.after _
  | case5 rest byte forbidden => cases forbidden

theorem quotedString (escape : Escape) (atoms : List Atom) : (quotedString escape atoms).Ends := by
  fun_induction Scan.quotedString escape atoms with
  | case1 => exact of_nothing (.inl rfl)
  | case2 atom rest error forbidden => simpa only [forbidden] using of_stopped (forbidden?_closed forbidden)
  | case3 rest forbidden => simpa [forbidden] using of_accepted
  | case4 rest _ forbidden =>
    simp only [forbidden]
    constructor
    · intro _ rejected
      cases rejected
    · intro _ _ rejected _
      cases rejected
      simp
  | case5 rest c unquoted inside forbidden ih => simpa [forbidden, unquoted, inside] using ih.after _
  | case6 rest byte forbidden => cases forbidden
  | case7 escape c rest _ left _ ih => exact ih.after _
  | case8 => exact of_stays (by simp)
  | case9 => exact of_stays (by simp)

theorem lineComment (atoms : List Atom) : (lineComment atoms).Ends := by
  fun_induction Scan.lineComment atoms with
  | case1 => exact of_accepted
  | case2 atom rest error forbidden => simpa only [forbidden] using of_stopped (forbidden?_closed forbidden)
  | case3 rest forbidden => simpa [forbidden] using of_accepted
  | case4 rest c inside forbidden ih => simpa [forbidden, inside] using ih.after _
  | case5 rest byte forbidden => cases forbidden

theorem blockComment (atoms : List Atom) : (blockComment atoms).Ends := by
  fun_induction Scan.blockComment atoms with
  | case1 => exact of_nothing (.inr rfl)
  | case2 => exact of_accepted
  | case3 atom rest _ error forbidden => simpa only [forbidden] using of_stopped (forbidden?_closed forbidden)
  | case4 rest c _ forbidden ih => simpa only [forbidden] using ih.after _
  | case5 rest byte _ forbidden => cases forbidden

theorem slash (atoms : List Atom) : (slash atoms).Ends := by
  unfold Scan.slash
  split
  · exact (lineComment _).after _
  · exact (blockComment _).after _
  · exact of_stays (by simp)

theorem of_token (c : Char) (rest : List Atom) : (token c rest).1.Ends := by
  unfold token
  repeat' split
  · exact of_accepted
  · exact (negative rest).after _
  · exact number c rest
  · exact of_stopped (by simp)
  · exact (rawString rest).after _
  · exact (quotedString _ rest).after _
  · exact ((exponent .float _).after _).after _
  · exact of_accepted
  · exact (slash rest).after _
  · exact of_accepted
  · exact of_accepted
  · exact of_stopped (by simp)

theorem of_front {closable : Bool} {atoms : List Atom} {r : Reading} {closing : Closing}
    (found : front closable atoms = .reading r closing) : r.Ends := by
  unfold front at found
  split at found
  · split at found <;> cases found
  · cases found
    exact of_stopped (by simp)
  · split at found
    · cases found
      exact of_stopped (by simp)
    · split at found
      · cases found
      · cases found
        exact of_token _ _

end Reading.Ends
end Scan

-- A string or a block comment that is not closed. One that breaks off in the middle of an escape is wrong for the escape.
def Token.IsOpen (token : Token) : Prop := token.kind = .invalid .openString ∨ token.kind = .invalid .openComment

def Token.Terminates (token : Token) : Prop := token.kind = .semicolon ∧ token.text = "\n"

-- What a token takes of a source, and what it leaves: its text, and behind a line comment the newline too. A terminator
-- that was put in takes nothing, and an invalid token takes what was read before it was found to be wrong.
inductive Token.Takes (limit : Nat) (token : Token) : List Atom → List Atom → Prop where
  | added {behind : List Atom} (terminates : token.Terminates)
      (ends : behind = [] ∨ ∃ rest, behind = .char '/' :: rest) : Takes limit token [] behind
  | whole {behind : List Atom} (valid : ∀ error, token.kind ≠ .invalid error) (some : token.text ≠ "") :
      Takes limit token (token.text.toList.map .char) behind
  | line {behind : List Atom} (line : token.IsLineComment) :
      Takes limit token ((token.text.toList ++ ['\n']).map .char) behind
  | invalid {closable : Bool} {r : Scan.Reading} {closing : Scan.Closing} {error : LexicalError}
      (kind : token.kind = .invalid error) (found : Scan.front closable (r.used ++ r.left) = .reading r closing)
      (content : Scanner.kindAndText limit r = (token.kind, token.text)) : Takes limit token r.used r.left

-- Tokens that are placed in a source: `before` is what stands in front of them and `ahead` what they are read off.
inductive Placed (limit : Nat) (file : String) (finish : Token) : List Atom → List Token → List Atom → Prop where
  | finish {before : List Atom} {gap : List Char} (blank : ∀ c ∈ gap, IsBlank c)
      (place : finish.position = (Place.behind (before ++ gap.map .char)).inFile file) :
      Placed limit file finish before [] (gap.map .char)
  | token {before piece behind : List Atom} {gap : List Char} {token : Token} {rest : List Token}
      (blank : ∀ c ∈ gap, IsBlank c)
      (place : token.position = (Place.behind (before ++ gap.map .char)).inFile file)
      (takes : token.Takes limit piece behind) (closed : token.IsOpen → behind ≠ [])
      (later : Placed limit file finish (before ++ gap.map .char ++ piece) rest behind) :
      Placed limit file finish before (token :: rest) (gap.map .char ++ piece ++ behind)
  | cutOff {before piece : List Atom} {gap : List Char} {token : Token} {rest : List Token}
      (blank : ∀ c ∈ gap, IsBlank c)
      (place : token.position = (Place.behind (before ++ gap.map .char)).inFile file)
      (takes : token.Takes limit piece []) (isOpen : token.IsOpen) (terminated : ∀ next ∈ rest, next.Terminates)
      (further : ∀ next ∈ rest ++ [finish],
        next.position = (Place.behind (before ++ gap.map .char ++ piece)).further.inFile file) :
      Placed limit file finish before (token :: rest) (gap.map .char ++ piece)

namespace Placed
variable {limit : Nat} {file : String} {finish : Token} {before ahead : List Atom} {tokens : List Token}

theorem atMost (placed : Placed limit file finish before tokens ahead) :
    ∀ token ∈ tokens ++ [finish], ((Place.behind before).inFile file).AtMost token.position := by
  induction placed with
  | finish blank place =>
    intro token member
    rw [List.mem_singleton.mp member, place]
    exact Place.behind_atMost _ _ _
  | token blank place takes closed later ih =>
    intro token member
    rcases List.mem_cons.mp member with rfl | behind
    · rw [place]
      exact Place.behind_atMost _ _ _
    · have here := ih token behind
      rw [List.append_assoc] at here
      exact (Place.behind_atMost _ _ _).trans here
  | @cutOff before piece gap _ _ blank place takes isOpen terminated further =>
    intro token member
    rcases List.mem_cons.mp member with rfl | behind
    · rw [place]
      exact Place.behind_atMost _ _ _
    · rw [further token behind]
      have here := Place.behind_atMost file before (gap.map .char ++ piece)
      rw [← List.append_assoc] at here
      exact here.trans (.inr ⟨rfl, .inr ⟨rfl, Nat.le_succ _⟩⟩)

theorem ordered (placed : Placed limit file finish before tokens ahead) :
    (tokens ++ [finish]).Pairwise fun token next => token.position.AtMost next.position := by
  induction placed with
  | finish => exact List.pairwise_singleton _ _
  | token blank place takes closed later ih =>
    refine List.pairwise_cons.mpr ⟨fun next member => ?_, ih⟩
    have here := later.atMost next member
    rw [place]
    exact (Place.behind_atMost _ _ _).trans here
  | cutOff blank place takes isOpen terminated further =>
    refine List.pairwise_cons.mpr ⟨fun next member => ?_, ?_⟩
    · rw [place, further next member]
      exact (Place.behind_atMost _ _ _).trans (.inr ⟨rfl, .inr ⟨rfl, Nat.le_succ _⟩⟩)
    · refine List.pairwise_of_forall_mem_list fun token here next there => ?_
      rw [further token here, further next there]
      exact .inr ⟨rfl, .inr ⟨rfl, Nat.le_refl _⟩⟩

end Placed

namespace Scanner
variable {limit : Nat} {file : String} {before : List Atom}

theorem skip_behind {s : Scanner} (stands : s.place = Place.behind before) :
    s.skip.place = Place.behind (before ++ (Scan.run (isBlank s.closable) s.ahead).1.map .char) := by
  rw [skip, stands, Place.behind_chars]

theorem leave_ahead (r : Scan.Reading) (place : Place) (closable : Bool) : (leave r place closable).ahead = r.left := by
  unfold leave Scan.Reading.left Scan.Ending.takesNext
  cases r.ending with
  | accepted kind => rfl
  | rejected error takesNext => cases takesNext <;> rfl

theorem leave_behind (r : Scan.Reading) (closable : Bool) (more : r.ending.takesNext = true → r.rest ≠ []) :
    leave r (Place.behind before) closable = ⟨r.left, Place.behind (before ++ r.used), closable⟩ := by
  unfold leave Scan.Reading.left Scan.Reading.used Scan.Ending.takesNext
  unfold Scan.Ending.takesNext at more
  cases ending : r.ending with
  | accepted kind => simp [Place.behind_chars]
  | rejected error takesNext =>
    cases takesNext with
    | false => simp [Place.behind_chars]
    | true =>
      obtain ⟨atom, rest, ahead⟩ := List.exists_cons_of_ne_nil (more (by rw [ending]))
      simp [ahead, ← List.append_assoc, Place.behind_concat, Place.behind_chars, Place.pastFront_cons]

theorem leave_further (r : Scan.Reading) (closable : Bool) (takes : r.ending.takesNext = true) (none : r.rest = []) :
    leave r (Place.behind before) closable = ⟨[], (Place.behind (before ++ r.used)).further, closable⟩ := by
  unfold leave Scan.Reading.used
  unfold Scan.Ending.takesNext at takes ⊢
  cases ending : r.ending with
  | accepted kind => simp [ending] at takes
  | rejected error takesNext =>
    obtain rfl : takesNext = true := by simpa [ending] using takes
    simp [none, Place.behind_chars, Place.pastFront, Place.further]

theorem reading_takes {closable : Bool} {atoms : List Atom} {r : Scan.Reading} {closing : Scan.Closing}
    (found : Scan.front closable atoms = .reading r closing) (position : Position) :
    Token.Takes limit ⟨(kindAndText limit r).1, (kindAndText limit r).2, position⟩ r.used r.left := by
  by_cases valid : ∀ error, (kindAndText limit r).1 ≠ .invalid error
  · have accepted := kindAndText_accepted valid
    obtain ⟨spells, some⟩ := Scan.front_spells found accepted
    have whole (same : lexeme (kindAndText limit r).1 r.taken = r.taken) :
        Token.Takes limit ⟨(kindAndText limit r).1, .ofList r.taken, position⟩ (r.taken.map .char) r.rest := by
      have takes : Token.Takes limit ⟨(kindAndText limit r).1, .ofList r.taken, position⟩ _ r.rest :=
        .whole valid (by simpa using some)
      simpa using takes
    rw [(Scan.Reading.used_accepted accepted).1, (Scan.Reading.used_accepted accepted).2, kindAndText_text valid]
    cases spells with
    | @line text comment taken =>
      rw [comment, taken, show lexeme .comment ('/' :: '/' :: (text ++ ['\n'])) = _ from Comment.lexeme_feed ('/' :: '/' :: text)]
      have takes : Token.Takes limit ⟨.comment, .ofList ('/' :: '/' :: text), position⟩ _ r.rest := .line ⟨rfl, by simp⟩
      simpa using takes
    | lastLine comment taken same last =>
      rw [same]
      exact whole same
    | whole same other =>
      rw [same]
      exact whole same
  · obtain ⟨error, kind⟩ : ∃ error, (kindAndText limit r).1 = .invalid error := by simpa using valid
    rw [← (Scan.front_reading found).1.used_left] at found
    exact .invalid kind found rfl

theorem open_rejected {closable : Bool} {atoms : List Atom} {r : Scan.Reading} {closing : Scan.Closing}
    (found : Scan.front closable atoms = .reading r closing) {position : Position}
    (isOpen : Token.IsOpen ⟨(kindAndText limit r).1, (kindAndText limit r).2, position⟩) :
    r.ending.takesNext = true ↔ r.rest = [] := by
  have ends := Scan.Reading.Ends.of_front found
  unfold Token.IsOpen kindAndText at isOpen
  cases ending : r.ending with
  | accepted kind =>
    have valid := (Scan.front_decides found ending).valid
    simp only [ending] at isOpen
    split at isOpen
    · simp at isOpen
    · rcases isOpen with kind | kind <;> exact absurd kind (valid _)
  | rejected error takesNext =>
    have unclosed : error = .openString ∨ error = .openComment := by simpa [ending] using isOpen
    exact ends.unclosed error takesNext ending unclosed

theorem open_left {closable : Bool} {atoms : List Atom} {r : Scan.Reading} {closing : Scan.Closing}
    (found : Scan.front closable atoms = .reading r closing) (before : ¬ (r.ending.takesNext = true ∧ r.rest = []))
    {position : Position} (isOpen : Token.IsOpen ⟨(kindAndText limit r).1, (kindAndText limit r).2, position⟩) :
    r.left ≠ [] := by
  have takes := open_rejected found isOpen
  unfold Scan.Reading.left
  by_cases none : r.rest = []
  · exact absurd ⟨takes.mpr none, none⟩ before
  · rwa [if_neg fun past => none (takes.mp past)]

theorem past_open {closable : Bool} {atoms : List Atom} {r : Scan.Reading} {closing : Scan.Closing}
    (found : Scan.front closable atoms = .reading r closing) (takes : r.ending.takesNext = true) (none : r.rest = [])
    (position : Position) : Token.IsOpen ⟨(kindAndText limit r).1, (kindAndText limit r).2, position⟩ := by
  have ends := Scan.Reading.Ends.of_front found
  unfold Scan.Ending.takesNext at takes
  cases ending : r.ending with
  | accepted kind => simp [ending] at takes
  | rejected error takesNext =>
    obtain rfl : takesNext = true := by simpa [ending] using takes
    have unclosed := ends.past error ending none
    unfold Token.IsOpen kindAndText
    simpa [ending] using unclosed

structure Passes (limit : Nat) (file : String) (s : Scanner) (before piece : List Atom) (gap : List Char) : Prop where
  split : s.ahead = gap.map .char ++ piece ++ (s.next limit file).2.ahead
  place : (s.next limit file).1.position = (Place.behind (before ++ gap.map .char)).inFile file
  takes : (s.next limit file).1.Takes limit piece (s.next limit file).2.ahead
  stands : ((s.next limit file).1.IsOpen → (s.next limit file).2.ahead ≠ []) ∧
      (s.next limit file).2.place = Place.behind (before ++ gap.map .char ++ piece) ∨
    (s.next limit file).1.IsOpen ∧ (s.next limit file).2.ahead = [] ∧
      (s.next limit file).2.place = (Place.behind (before ++ gap.map .char ++ piece)).further

theorem next_passes {s : Scanner} (stands : s.place = Place.behind before)
    (more : (s.next limit file).1.kind ≠ .endOfFile) :
    ∃ piece, s.Passes limit file before piece (Scan.run (isBlank s.closable) s.ahead).1 := by
  have step := next_step more
  have place : (s.next limit file).1.position = _ := next_position s
  have covers := Scan.run_append (isBlank s.closable) s.ahead
  have skipped := skip_behind stands
  rw [skipped] at place
  generalize read : s.next limit file = found at step
  cases step with
  | terminator found =>
    refine ⟨[], ?_, place, ?_, .inl ?_⟩ <;> rw [read]
    · rw [List.append_nil]
      exact covers.symm
    · exact .added ⟨rfl, rfl⟩ (Scan.front_terminator_ahead found)
    · rw [List.append_nil]
      exact ⟨by simp [Token.IsOpen], skipped⟩
  | @reading r closing found =>
    have shared : r.used ++ r.left = s.skip.ahead := (Scan.front_reading found).1.used_left
    refine ⟨r.used, ?_, place, ?_, ?_⟩ <;> rw [read, skipped]
    · rw [leave_ahead, List.append_assoc, shared]
      exact covers.symm
    · rw [leave_ahead]
      exact reading_takes found _
    · by_cases past : r.ending.takesNext = true ∧ r.rest = []
      · rw [leave_further r _ past.1 past.2]
        exact .inr ⟨past_open found past.1 past.2 _, rfl, rfl⟩
      · rw [leave_behind r _ fun takes none => past ⟨takes, none⟩]
        exact .inl ⟨fun isOpen => open_left found past isOpen, rfl⟩

theorem Passes.stands_valid {s : Scanner} {piece : List Atom} {gap : List Char} (passes : s.Passes limit file before piece gap)
    (valid : ∀ error, (s.next limit file).1.kind ≠ .invalid error) :
    (s.next limit file).2.place = Place.behind (before ++ gap.map .char ++ piece) := by
  rcases passes.stands with ⟨_, place⟩ | ⟨isOpen, _⟩
  · exact place
  · rcases isOpen with kind | kind <;> exact absurd kind (valid _)

theorem tokens_past {s : Scanner} (nothing : s.ahead = []) :
    (∀ token ∈ (s.tokens limit file).1, token.Terminates) ∧
      ∀ token ∈ (s.tokens limit file).1 ++ [(s.tokens limit file).2], token.position = s.place.inFile file := by
  obtain ⟨ahead, place, closable⟩ := s
  obtain rfl : ahead = [] := nothing
  have ended : (next limit file ⟨[], place, false⟩).1.kind = .endOfFile := rfl
  have last : (next limit file ⟨[], place, false⟩).1.position = place.inFile file := rfl
  cases closable with
  | false =>
    rw [tokens_ended ended]
    exact ⟨by simp, by simpa using last⟩
  | true =>
    have terminates : next limit file ⟨[], place, true⟩ = (⟨.semicolon, "\n", place.inFile file⟩, ⟨[], place, false⟩) := rfl
    have more : (next limit file ⟨[], place, true⟩).1.kind ≠ .endOfFile := by simp [terminates]
    rw [tokens_more more, terminates, tokens_ended ended]
    exact ⟨by simp [Token.Terminates], by simpa using last⟩

theorem tokens_placed {s : Scanner} (stands : s.place = Place.behind before) :
    Placed limit file (s.tokens limit file).2 before (s.tokens limit file).1 s.ahead := by
  fun_induction tokens limit file s generalizing before with
  | case1 s ended =>
    have covers := Scan.run_append (isBlank s.closable) s.ahead
    have nothing : (Scan.run (isBlank s.closable) s.ahead).2 = [] := (next_ended ended).1
    rw [nothing, List.append_nil] at covers
    rw [← covers]
    refine .finish (fun c member => isBlank_blank (Scan.run_holds _ _ c member)) ?_
    rw [next_position, skip_behind stands]
    rfl
  | @case2 s more rest ih =>
    have blank : ∀ c ∈ (Scan.run (isBlank s.closable) s.ahead).1, IsBlank c :=
      fun c member => isBlank_blank (Scan.run_holds _ _ c member)
    obtain ⟨piece, passes⟩ := next_passes stands more
    rw [passes.split]
    rcases passes.stands with ⟨closed, stands⟩ | ⟨isOpen, none, stands⟩
    · exact .token blank passes.place passes.takes closed (ih stands)
    · have takes := passes.takes
      have past : (∀ next ∈ rest.1, _) ∧ ∀ next ∈ rest.1 ++ [rest.2], _ := tokens_past none
      rw [none] at takes ⊢
      rw [stands] at past
      rw [List.append_nil]
      exact .cutOff blank passes.place takes isOpen past.1 past.2

theorem start_behind (atoms : List Atom) : ∃ mark : List Char, (mark = [] ∨ mark = [byteOrderMark]) ∧
    atoms = mark.map .char ++ (start atoms).ahead ∧ (start atoms).place = Place.behind (mark.map .char) := by
  obtain ⟨mark, marks, whole, place⟩ := start_mark atoms
  exact ⟨mark, marks, whole, place.trans (Place.behind_chars [] mark).symm⟩

end Scanner

-- Every token of a source has the place of its first character, behind a byte order mark where there is one, and so the
-- tokens come in the order of their positions.
theorem Token.allOf_placed (limit : Nat) (file : String) (source : List UInt8) :
    (∃ mark ahead, decode source = mark.map .char ++ ahead ∧ (mark = [] ∨ mark = [byteOrderMark]) ∧
      Placed limit file (allOf limit file source).2 (mark.map .char) (allOf limit file source).1 ahead) ∧
    (allOf limit file source).2.kind = .endOfFile ∧
    ((allOf limit file source).1 ++ [(allOf limit file source).2]).Pairwise
      fun token next => token.position.AtMost next.position := by
  obtain ⟨mark, marks, whole, stands⟩ := Scanner.start_behind (decode source)
  have placed : Placed limit file (allOf limit file source).2 (mark.map .char) (allOf limit file source).1 _ :=
    Scanner.tokens_placed stands
  exact ⟨⟨mark, _, whole, marks, placed⟩, (allOf_identifiers limit file source).2, placed.ordered⟩

end WireSchema

import Mathlib.Data.List.Forall2
import WireSchema.Proofs.Token.Comments
import WireSchema.Proofs.Token.Returned

-- Token after token, a source with a carriage return in front of every newline reads like the same source without:
-- what is read moves by a column where it is a newline, and by nothing elsewhere.
namespace WireSchema
open Text Scan

namespace Scan

theorem run_blanks (closable : Bool) (atoms : List Atom) :
    let blanks := run (Scanner.isBlank closable) atoms
    (blanks.2.head? ≠ some (.char '\n') ∧ run (Scanner.isBlank closable) (returned atoms) =
        (insertBefore '\n' '\r' blanks.1, returned blanks.2)) ∨
      (closable = true ∧ ∃ rest, blanks.2 = .char '\n' :: rest ∧
        run (Scanner.isBlank closable) (returned atoms) = (blanks.1 ++ ['\r'], .char '\n' :: returned rest)) := by
  have carriage : ∀ rest, run (Scanner.isBlank closable) (.char '\r' :: rest) =
      ('\r' :: (run (Scanner.isBlank closable) rest).1, (run (Scanner.isBlank closable) rest).2) := fun rest => by
    simp [run, Scanner.isBlank]
  induction atoms with
  | nil => exact .inl ⟨by simp [run], rfl⟩
  | cons atom rest ih =>
    by_cases feed : atom = .char '\n'
    · subst feed
      rw [returned_feed, carriage]
      cases closable with
      | true => exact .inr ⟨rfl, rest, rfl, rfl⟩
      | false =>
        rcases ih with ⟨inside, same⟩ | ⟨ends, _⟩
        · refine .inl ⟨inside, ?_⟩
          simp [run, Scanner.isBlank, same]
        · cases ends
    · rw [returned_cons feed]
      cases atom with
      | stray byte => exact .inl ⟨by simp [run], by simp [run, returned_cons feed]⟩
      | char c =>
        have other : c ≠ '\n' := by simpa using feed
        cases blank : Scanner.isBlank closable c with
        | false => exact .inl ⟨by simpa [run, blank] using other, by simp [run, blank, returned_cons feed]⟩
        | true =>
          simp only [run, blank, if_true]
          rcases ih with ⟨inside, same⟩ | ⟨ends, behind, feed, same⟩
          · exact .inl ⟨inside, by rw [same, insertBefore_cons other]⟩
          · exact .inr ⟨ends, behind, feed, by rw [same, List.cons_append]⟩

inductive Found.Returns : Found → Found → Prop where
  | endOfFile : Returns .endOfFile .endOfFile
  | terminator : Returns .terminator .terminator
  | reading {r other : Reading} {closing : Closing} (returns : r.Returns closing other) (halts : r.Halts)
      (comment : r.ending = .accepted .comment → IsComment r.taken) :
      Returns (.reading r closing) (.reading other closing)

theorem front_returned (closable : Bool) {atoms : List Atom} (inside : atoms.head? ≠ some (.char '\n')) :
    (front closable atoms).Returns (front closable (returned atoms)) := by
  cases atoms with
  | nil => cases closable <;> constructor
  | cons atom rest =>
    have feed : atom ≠ .char '\n' := by simpa using inside
    have stopped : ∀ error closing, (Found.reading ⟨[], .rejected error true, atom :: rest⟩ closing).Returns
        (.reading ⟨[], .rejected error true, atom :: returned rest⟩ closing) := by
      intro error closing
      rw [← returned_cons feed]
      exact .reading .inline (fun _ => inside) (fun ending => by cases ending)
    rw [returned_cons feed]
    cases atom with
    | stray byte => exact stopped _ _
    | char c =>
      have other : c ≠ '\n' := by simpa using feed
      unfold front
      dsimp only
      split
      · exact stopped _ _
      · split
        · exact .terminator
        · obtain ⟨returns, closing⟩ := token_returned other rest
          rw [closing]
          exact .reading returns (.of_token other rest) token_comment

end Scan

namespace Scanner
variable {limit : Nat} {file : String}

def skip (s : Scanner) : Scanner :=
  ⟨(run (isBlank s.closable) s.ahead).2, s.place.pastAll (run (isBlank s.closable) s.ahead).1, s.closable⟩

theorem next_skip (s : Scanner) : s.skip.next limit file = s.next limit file := by
  unfold next skip
  dsimp only
  rw [run_stopped (run_stops _ _)]
  rfl

-- The same place of both sources. Where an open string has ended, its line end is all that is left of the line.
inductive Returns : Scanner → Scanner → Prop where
  | same (ahead : List Atom) (place : Place) (closable : Bool) :
      Returns ⟨ahead, place, closable⟩ ⟨returned ahead, place, closable⟩
  | broken (rest : List Atom) (place : Place) :
      Returns ⟨.char '\n' :: rest, place, true⟩ ⟨.char '\n' :: returned rest, ⟨place.line, place.column + 1⟩, true⟩

inductive Meets : Scanner → Scanner → Prop where
  | same {ahead : List Atom} (inside : ahead.head? ≠ some (.char '\n')) (place : Place) (closable : Bool) :
      Meets ⟨ahead, place, closable⟩ ⟨returned ahead, place, closable⟩
  | feed (rest : List Atom) (place : Place) :
      Meets ⟨.char '\n' :: rest, place, true⟩ ⟨.char '\n' :: returned rest, ⟨place.line, place.column + 1⟩, true⟩

theorem Returns.skip {s other : Scanner} (returns : s.Returns other) : s.skip.Meets other.skip := by
  cases returns with
  | broken rest place => exact .feed rest place
  | same ahead place closable =>
    unfold Scanner.skip
    dsimp only
    rcases run_blanks closable ahead with ⟨inside, same⟩ | ⟨rfl, rest, feed, same⟩
    · rw [same, Place.pastAll_returned]
      exact .same inside _ _
    · rw [same, feed, Place.pastAll_append]
      exact .feed rest _

end Scanner

-- What becomes of a token: only a terminator at the end of a line is moved, and only a comment is written otherwise.
structure Token.Returns (ends : List Place) (token other : Token) : Prop where
  kind : other.kind = token.kind
  text : (∀ error, token.kind ≠ .invalid error) → token.kind ≠ .comment → other.text = token.text
  lines : token.kind = .comment → Comment.lines other.text = Comment.lines token.text
  position : other.position = token.position.returned ends
  within : token.position.Within ends
  inside : token.kind ≠ .semicolon → token.position.place ∉ ends

namespace Scanner
variable {limit : Nat} {file : String} {ends : List Place}

theorem byteCount_returned (text : List Char) : byteCount text ≤ byteCount (insertBefore '\n' '\r' text) := by
  induction text with
  | nil => exact Nat.le_refl _
  | cons c rest ih =>
    by_cases feed : c = '\n'
    · subst feed
      rw [insertBefore_mark]
      simp only [byteCount, List.foldr_cons] at ih ⊢
      omega
    · rw [insertBefore_cons feed]
      simp only [byteCount, List.foldr_cons] at ih ⊢
      omega

-- The text of a token that is too long with the returns in it is not asked for, nor that of a string with line ends.
theorem kindAndText_returned {r other : Reading} {closing : Closing} (returns : r.Returns closing other)
    (comment : r.ending = .accepted .comment → IsComment r.taken)
    (short : (kindAndText limit other).1 ≠ .invalid .overflow)
    (string : (kindAndText limit r).1 = .string → '\n' ∉ (kindAndText limit r).2.toList) :
    (kindAndText limit other).1 = (kindAndText limit r).1 ∧
      ((∀ error, (kindAndText limit r).1 ≠ .invalid error) → (kindAndText limit r).1 ≠ .comment →
        (kindAndText limit other).2 = (kindAndText limit r).2) ∧
      ((kindAndText limit r).1 = .comment →
        Comment.lines (kindAndText limit other).2 = Comment.lines (kindAndText limit r).2) := by
  have ending : other.ending = r.ending := by cases returns <;> rfl
  unfold kindAndText at short string ⊢
  rw [ending] at short ⊢
  cases ended : r.ending with
  | rejected error takesNext => simp
  | accepted kind =>
    simp only [ended] at short string ⊢
    cases returns with
    | inline => exact ⟨rfl, fun _ _ => rfl, fun _ => rfl⟩
    | broken _ rejected => cases ended.symm.trans rejected
    | lines several =>
      have within : ¬ limit < byteCount (insertBefore '\n' '\r' r.taken) := by
        intro long
        simp [Reading.lines, long] at short
      have fits := byteCount_returned r.taken
      have also : ¬ limit < byteCount r.taken := by omega
      simp only [Reading.lines, within, also, if_false] at string ⊢
      refine ⟨trivial, fun _ other => ?_, fun isComment => ?_⟩
      · have isString : kind = .string := by
          have among := several kind ended
          simpa [other] using among
        subst isString
        have whole : '\n' ∉ r.taken := by simpa [lexeme] using string rfl
        rw [insertBefore_unmarked whole]
      · subst isComment
        exact Comment.lines_returned (comment ended)

theorem leave_same {r other : Reading} (halts : r.Halts) (ending : other.ending = r.ending)
    (rest : other.rest = returned r.rest) {place : Place} (stopped : place.pastAll other.taken = place.pastAll r.taken)
    (closable : Bool) : (leave r place closable).Returns (leave other place closable) := by
  unfold leave
  rw [ending, rest, stopped]
  cases ended : r.ending with
  | accepted kind => exact .same _ _ _
  | rejected error takesNext =>
    cases takesNext with
    | false => exact .same _ _ _
    | true =>
      have inside := halts (by rw [ended]; rfl)
      simp only [if_true]
      cases ahead : r.rest with
      | nil => exact .same [] _ _
      | cons atom behind =>
        have other : atom ≠ .char '\n' := by simpa [ahead] using inside
        rw [returned_cons other, Place.pastFront_cons _ atom behind, Place.pastFront_cons _ atom (returned behind)]
        exact .same behind _ _

theorem leave_returned {r other : Reading} {closing : Closing} (returns : r.Returns closing other) (halts : r.Halts)
    (place : Place) {closable : Bool} (closes : closing = .yes → closable = true) :
    (leave r place closable).Returns (leave other place closable) := by
  cases returns with
  | inline =>
    refine leave_same halts ?_ ?_ ?_ closable
    all_goals rfl
  | lines several =>
    refine leave_same halts ?_ ?_ (place.pastAll_returned r.taken) closable
    all_goals rfl
  | broken ends ending feed =>
    rw [closes ends]
    unfold leave
    simp only [ending, Bool.false_eq_true, if_false, feed, Place.pastAll_append]
    exact .broken _ _

theorem leave_stands {r : Reading} {place : Place} {ahead : List Atom} (covers : r.Covers ahead)
    (stands : Stands ends place ahead) (closable : Bool) :
    Stands ends (leave r place closable).place (leave r place closable).ahead := by
  rw [← covers] at stands
  unfold leave
  split
  · exact stands.pastAll
  · split
    · exact stands.pastAll.pastFront
    · exact stands.pastAll

theorem skip_stands {s : Scanner} (stands : Stands ends s.place s.ahead) :
    Stands ends s.skip.place s.skip.ahead := by
  rw [← run_append (isBlank s.closable) s.ahead] at stands
  exact stands.pastAll

theorem next_stands {s : Scanner} (stands : Stands ends s.place s.ahead) :
    Stands ends (s.next limit file).2.place (s.next limit file).2.ahead := by
  have front := skip_stands stands
  unfold next
  dsimp only
  split
  · exact front
  · exact front
  · rename_i found
    exact leave_stands (front_reading found).1 front _

theorem front_feed (rest : List Atom) :
    front true (.char '\n' :: rest) = .reading ⟨['\n'], .accepted .semicolon, rest⟩ .no := by
  have letter : isLetter '\n' = false := by decide
  simp [front, token, letter, isDigitOf, digitValue?, byteOrderMark, backtick, punctuation?, single, Reading.after]

theorem Meets.next {s other : Scanner} (meets : s.Meets other) (stands : Stands ends s.place s.ahead)
    (here : startsWith (isBlank s.closable) s.ahead = false)
    (there : startsWith (isBlank other.closable) other.ahead = false)
    (short : (other.next limit file).1.kind ≠ .invalid .overflow)
    (string : (s.next limit file).1.kind = .string → '\n' ∉ (s.next limit file).1.text.toList) :
    (s.next limit file).1.Returns ends (other.next limit file).1 ∧
      (s.next limit file).2.Returns (other.next limit file).2 := by
  have within : ∀ file, (⟨file, s.place.line, s.place.column⟩ : Position).Within ends :=
    fun _ e member line => stands.column_le member line
  cases meets with
  | feed rest place =>
    have ends := stands.ends_iff.mpr rfl
    unfold Scanner.next at short ⊢
    simp only [run_stopped here, run_stopped there, front_feed, kindAndText, leave] at short ⊢
    split at short
    · exact absurd rfl short
    · rename_i fits
      simp only [fits, if_false]
      refine ⟨⟨rfl, fun _ _ => rfl, fun _ => rfl, ?_, within file, fun other => absurd rfl other⟩, ?_⟩
      · exact (if_pos ends).symm
      · exact .same rest _ _
  | @same ahead inside place closable =>
    have apart : place ∉ ends := fun member => inside (stands.ends_iff.mp member)
    have position : ∀ file,
        (⟨file, place.line, place.column⟩ : Position).returned ends = ⟨file, place.line, place.column⟩ :=
      fun _ => if_neg apart
    have front := front_returned closable inside
    unfold Scanner.next at short string ⊢
    simp only [run_stopped here, run_stopped there] at short string ⊢
    generalize Scan.front closable ahead = found at front short string ⊢
    generalize Scan.front closable (returned ahead) = other at front short ⊢
    cases front with
    | endOfFile =>
      exact ⟨⟨rfl, fun _ _ => rfl, fun _ => rfl, (position file).symm, within file, fun _ => apart⟩, .same _ _ _⟩
    | terminator =>
      exact ⟨⟨rfl, fun _ _ => rfl, fun _ => rfl, (position file).symm, within file, fun _ => apart⟩, .same _ _ _⟩
    | reading returns halts comment =>
      obtain ⟨kind, text, lines⟩ := kindAndText_returned returns comment short string
      refine ⟨⟨kind, text, lines, (position file).symm, within file, fun _ => apart⟩, ?_⟩
      dsimp only
      rw [kind]
      refine leave_returned returns halts _ ?_
      intro closes
      rw [closes]
      rfl

theorem Returns.next {s other : Scanner} (returns : s.Returns other) (stands : Stands ends s.place s.ahead)
    (short : (other.next limit file).1.kind ≠ .invalid .overflow)
    (string : (s.next limit file).1.kind = .string → '\n' ∉ (s.next limit file).1.text.toList) :
    (s.next limit file).1.Returns ends (other.next limit file).1 ∧
      (s.next limit file).2.Returns (other.next limit file).2 := by
  rw [← next_skip] at short
  rw [← next_skip s, ← next_skip other] at *
  exact returns.skip.next (skip_stands stands) (run_stops _ _) (run_stops _ _) short string

theorem tokens_ended {s : Scanner} (ended : (s.next limit file).1.kind = .endOfFile) :
    s.tokens limit file = ([], (s.next limit file).1) := by
  rw [tokens, dif_pos ended]

theorem tokens_more {s : Scanner} (more : (s.next limit file).1.kind ≠ .endOfFile) :
    s.tokens limit file = ((s.next limit file).1 :: ((s.next limit file).2.tokens limit file).1,
      ((s.next limit file).2.tokens limit file).2) := by
  rw [tokens, dif_neg more]

theorem tokens_block {body : List Char} (plain : ∀ c ∈ body, c ≠ '*' ∧ Scan.forbidden? (.char c) = none)
    {text : List Char} (whole : text = '/' :: '*' :: (body ++ ['*', '/'])) :
    ((start (text.map .char)).tokens limit file).1 =
      [if limit < byteCount text then ⟨.invalid .overflow, "", ⟨file, 1, 1⟩⟩
        else ⟨.comment, .ofList text, ⟨file, 1, 1⟩⟩] := by
  have starts : start (text.map .char) = ⟨text.map .char, .start, false⟩ := by
    subst whole
    rfl
  have front := Scan.front_block plain
  rw [← whole] at front
  have unblank : Scan.run (isBlank false) (text.map .char) = ([], text.map .char) := by
    subst whole
    rfl
  have last : text.getLast? ≠ some '\n' := by
    have split : text = ('/' :: '*' :: (body ++ ['*'])) ++ ['/'] := by simp [whole]
    rw [split, List.getLast?_concat]
    decide
  have next : (Scanner.mk (text.map .char) .start false).next limit file =
      (if limit < byteCount text then ⟨.invalid .overflow, "", ⟨file, 1, 1⟩⟩
        else ⟨.comment, .ofList text, ⟨file, 1, 1⟩⟩, ⟨[], Place.start.pastAll text, false⟩) := by
    unfold Scanner.next
    simp only [unblank, front, kindAndText, lexeme, last, and_false, if_false, leave, closes, Place.pastAll,
      Place.start, List.foldl_nil]
    split <;> rfl
  have more : ((Scanner.mk (text.map .char) .start false).next limit file).1.kind ≠ .endOfFile := by
    rw [next]
    split <;> simp
  have ended : ((Scanner.mk [] (Place.start.pastAll text) false).next limit file).1.kind = .endOfFile := rfl
  rw [starts, tokens_more more, next, tokens_ended ended]

theorem next_all {holds : Token → Prop} {s : Scanner}
    (ending : (s.next limit file).1.kind = .endOfFile → holds (s.next limit file).1)
    (all : ∀ token ∈ (s.tokens limit file).1, holds token) : holds (s.next limit file).1 := by
  by_cases ended : (s.next limit file).1.kind = .endOfFile
  · exact ending ended
  · rw [tokens_more ended] at all
    exact all _ List.mem_cons_self

theorem tokens_returned {s other : Scanner} (returns : s.Returns other) (stands : Stands ends s.place s.ahead)
    (short : ∀ token ∈ (other.tokens limit file).1, token.kind ≠ .invalid .overflow)
    (strings : ∀ token ∈ (s.tokens limit file).1, token.kind = .string → '\n' ∉ token.text.toList) :
    List.Forall₂ (Token.Returns ends) (s.tokens limit file).1 (other.tokens limit file).1 ∧
      (s.tokens limit file).2.Returns ends (other.tokens limit file).2 := by
  induction size : s.measure using Nat.strongRecOn generalizing s other with
  | ind n ih =>
    obtain ⟨token, behind⟩ := returns.next stands (next_all (fun ended => by simp [ended]) short)
      (next_all (fun ended => by simp [ended]) strings)
    by_cases ended : (s.next limit file).1.kind = .endOfFile
    · rw [tokens_ended ended, tokens_ended (token.kind.trans ended)]
      exact ⟨.nil, token⟩
    · have more : (other.next limit file).1.kind ≠ .endOfFile := fun same => ended (token.kind.symm.trans same)
      rw [tokens_more ended] at strings ⊢
      rw [tokens_more more] at short ⊢
      obtain ⟨rest, finish⟩ := ih _ (size ▸ next_measure ended) behind (next_stands stands)
        (fun t member => short t (List.mem_cons_of_mem _ member))
        (fun t member => strings t (List.mem_cons_of_mem _ member)) rfl
      exact ⟨.cons token rest, finish⟩

theorem next_inside {s : Scanner} (stands : Stands ends s.place s.ahead) (open_ : s.closable = false) :
    (s.next limit file).1.position.place ∉ ends := by
  have front := skip_stands stands
  have position : (s.next limit file).1.position.place = s.skip.place := by
    unfold next
    dsimp only
    split <;> rfl
  rw [position, front.ends_iff]
  intro feed
  have stops := run_stops (isBlank s.closable) s.ahead
  unfold skip at feed
  cases ahead : (run (isBlank s.closable) s.ahead).2 with
  | nil => simp [ahead] at feed
  | cons atom rest =>
    have same : atom = .char '\n' := by simpa [ahead] using feed
    subst same
    rw [ahead] at stops
    simp [startsWith, isBlank, open_] at stops

theorem first_inside {s : Scanner} (stands : Stands ends s.place s.ahead) (open_ : s.closable = false) :
    (((s.tokens limit file).1.find? (·.kind ≠ .comment)).getD (s.tokens limit file).2).position.place ∉ ends := by
  fun_induction tokens limit file s with
  | case1 s ended => exact next_inside stands open_
  | case2 s more rest ih =>
    rw [List.find?_cons]
    cases comment : decide ((s.next limit file).1.kind ≠ .comment) with
    | true => exact next_inside stands open_
    | false => exact ih (next_stands stands) (next_closed (.inr (by simpa using comment)))

theorem start_closable (atoms : List Atom) : (start atoms).closable = false := by
  unfold start
  split
  · split <;> rfl
  · rfl

theorem start_returned (atoms : List Atom) : (start atoms).Returns (start (returned atoms)) := by
  cases atoms with
  | nil => exact .same [] _ _
  | cons atom rest =>
    by_cases feed : atom = .char '\n'
    · subst feed
      exact .same (.char '\n' :: rest) _ _
    · rw [returned_cons feed]
      cases atom with
      | stray byte =>
        unfold start
        rw [← returned_cons feed]
        exact .same _ _ _
      | char c =>
        unfold start
        by_cases mark : c = byteOrderMark
        · simp only [mark, if_true]
          exact .same _ _ _
        · simp only [mark, if_false]
          rw [← returned_cons feed]
          exact .same _ _ _

end Scanner
end WireSchema

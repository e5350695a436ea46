import WireSchema.Proofs.Token.LineEnds
import WireSchema.Proofs.Token.Names

-- The tokens of a source and those of the same source with a carriage return in front of every newline.
namespace WireSchema
open Text Scan

namespace Scan

section Numbers
variable {p : Char → Bool}

theorem returned_fronts (atoms : List Atom) : Fronts atoms (returned atoms) := by
  cases atoms with
  | nil => exact .inl rfl
  | cons atom rest =>
    by_cases feed : atom = .char '\n'
    · subst feed
      exact .inr ⟨rfl, rfl⟩
    · rw [returned_cons feed]
      exact .inl rfl

theorem head?_returned {atoms : List Atom} {c : Char} (other : c ≠ '\r')
    (front : (returned atoms).head? = some (.char c)) :
    atoms.head? = some (.char c) := by
  rcases returned_fronts atoms with same | ⟨_, carriage⟩
  · exact same.trans front
  · rw [carriage] at front
    cases front
    exact absurd rfl other

theorem startsWith_returned (inline : Inline p) (atoms : List Atom) :
    startsWith p (returned atoms) = startsWith p atoms :=
  (returned_fronts atoms).startsWith_eq inline

theorem run_returned (inline : Inline p) (atoms : List Atom) :
    run p (returned atoms) = ((run p atoms).1, returned (run p atoms).2) := by
  fun_induction run p atoms with
  | case1 c rest holds more ih =>
    have other : c ≠ '\n' := by
      rintro rfl
      rw [inline.feed] at holds
      cases holds
    rw [returned_cons (by simpa using other), run, if_pos holds, ih]
  | case2 c rest stops =>
    have stopped : startsWith p (.char c :: rest) = false := by simpa [startsWith] using stops
    exact run_stopped ((startsWith_returned inline _).trans stopped)
  | case3 rest other =>
    have stopped : startsWith p rest = false := by
      cases rest with
      | nil => rfl
      | cons atom rest =>
        cases atom with
        | char c => exact absurd rfl (other c rest)
        | stray byte => rfl
    exact run_stopped ((startsWith_returned inline _).trans stopped)

theorem one_returned (inline : Inline p) (atoms : List Atom) :
    one p (returned atoms) = ((one p atoms).1, returned (one p atoms).2) := by
  cases starts : startsWith p atoms with
  | false =>
    rw [one_stopped starts]
    exact one_stopped ((startsWith_returned inline _).trans starts)
  | true =>
    rcases atoms with _ | ⟨_ | _, rest⟩
    · cases starts
    · rename_i c
      have holds : p c = true := starts
      have other : c ≠ '\n' := by
        rintro rfl
        rw [inline.feed] at holds
        cases holds
      rw [returned_cons (by simpa using other)]
      simp [one, holds]
    · cases starts

def Reading.before (r : Reading) (rest : List Atom) : Reading := ⟨r.taken, r.ending, rest⟩

theorem name_returned (c : Char) (atoms : List Atom) :
    name c (returned atoms) = (name c atoms).before (returned (name c atoms).rest) := by
  simp [name, run_returned name_inline, Reading.before]

theorem exponent_returned (kind : TokenKind) (atoms : List Atom) :
    exponent kind (returned atoms) = (exponent kind atoms).before (returned (exponent kind atoms).rest) := by
  unfold exponent
  simp only [one_returned exponentMark_inline, one_returned sign_inline, run_returned (digit_inline 10)]
  split <;> rfl

theorem fraction_returned (atoms : List Atom) :
    fraction (returned atoms) = (fraction atoms).before (returned (fraction atoms).rest) := by
  simp only [fraction, run_returned (digit_inline 10), exponent_returned]
  rfl

theorem wholePart_returned (atoms : List Atom) :
    wholePart (returned atoms) = (wholePart atoms).before (returned (wholePart atoms).rest) := by
  unfold wholePart
  simp only [one_returned point_inline, exponent_returned, fraction_returned]
  split <;> rfl

theorem zero_returned (atoms : List Atom) :
    zero (returned atoms) = (zero atoms).before (returned (zero atoms).rest) := by
  unfold zero
  simp only [one_returned hexMark_inline, run_returned (digit_inline _), startsWith_returned fractionMark_inline,
    wholePart_returned]
  split
  · split <;> rfl
  · rfl

theorem number_returned (c : Char) (atoms : List Atom) :
    number c (returned atoms) = (number c atoms).before (returned (number c atoms).rest) := by
  unfold number
  simp only [zero_returned, run_returned (digit_inline 10), wholePart_returned]
  split <;> rfl

theorem negative_returned (atoms : List Atom) :
    negative (returned atoms) = (negative atoms).before (returned (negative atoms).rest) := by
  cases starts : startsWith (fun c => decide (c = '.') || isDigitOf 10 c) atoms with
  | false =>
    rw [negative_stopped starts, negative_stopped ((startsWith_returned number_inline _).trans starts)]
    rfl
  | true =>
    rcases atoms with _ | ⟨_ | _, rest⟩
    · cases starts
    · rename_i c
      have other : c ≠ '\n' := by
        rintro rfl
        cases starts
      rw [returned_cons (by simpa using other)]
      simp only [negative, startsWith_returned (digit_inline 10), fraction_returned, number_returned]
      split
      · split <;> rfl
      · split
        · rfl
        · simp [Reading.before, returned_cons, other]
    · cases starts

end Numbers

section Lines

def Reading.lines (r : Reading) : Reading := ⟨insertBefore '\n' '\r' r.taken, r.ending, returned r.rest⟩

theorem Reading.lines_after {c : Char} (other : c ≠ '\n') (r : Reading) : (r.after [c]).lines = r.lines.after [c] := by
  simp [lines, after, insertBefore_cons other]

theorem Reading.lines_after_feed (r : Reading) : (r.after ['\n']).lines = (r.lines.after ['\n']).after ['\r'] := by
  simp [lines, after]

theorem forbidden?_feed {atom : Atom} {error : LexicalError} (forbidden : forbidden? atom = some error) :
    atom ≠ .char '\n' := by
  rintro rfl
  cases forbidden

theorem rawString_goes {c : Char} (allowed : forbidden? (.char c) = none) (inside : c ≠ backtick) (rest : List Atom) :
    rawString (.char c :: rest) = (rawString rest).after [c] := by
  simp [rawString, allowed, inside]

theorem rawString_returned (atoms : List Atom) : rawString (returned atoms) = (rawString atoms).lines := by
  induction atoms with
  | nil => rfl
  | cons atom rest ih =>
    by_cases feed : atom = .char '\n'
    · subst feed
      rw [returned_feed, rawString_goes rfl (by decide), rawString_goes rfl (by decide), ih,
        rawString_goes rfl (by decide), Reading.lines_after_feed]
    · rw [returned_cons feed]
      cases forbidden : forbidden? atom with
      | some error => simp [rawString, forbidden, Reading.lines, returned_cons feed]
      | none =>
        cases atom with
        | stray byte => cases forbidden
        | char c =>
          have other : c ≠ '\n' := by simpa using feed
          by_cases closes : c = backtick
          · subst closes
            simp [rawString, forbidden, Reading.lines, insertBefore_cons other]
          · rw [rawString_goes forbidden closes, ih, rawString_goes forbidden closes, Reading.lines_after other]

theorem lineComment_goes {c : Char} (allowed : forbidden? (.char c) = none) (inside : c ≠ '\n') (rest : List Atom) :
    lineComment (.char c :: rest) = (lineComment rest).after [c] := by
  simp [lineComment, allowed, inside]

theorem lineComment_returned (atoms : List Atom) : lineComment (returned atoms) = (lineComment atoms).lines := by
  induction atoms with
  | nil => rfl
  | cons atom rest ih =>
    by_cases feed : atom = .char '\n'
    · subst feed
      rw [returned_feed, lineComment_goes rfl (by decide)]
      simp [lineComment, forbidden?, byteOrderMark, Reading.lines, Reading.after]
    · rw [returned_cons feed]
      cases forbidden : forbidden? atom with
      | some error => simp [lineComment, forbidden, Reading.lines, returned_cons feed]
      | none =>
        cases atom with
        | stray byte => cases forbidden
        | char c =>
          have other : c ≠ '\n' := by simpa using feed
          rw [lineComment_goes forbidden other, ih, lineComment_goes forbidden other, Reading.lines_after other]

theorem blockComment_goes {c : Char} (allowed : forbidden? (.char c) = none) {rest : List Atom}
    (inside : c = '*' → rest.head? ≠ some (.char '/')) :
    blockComment (.char c :: rest) = (blockComment rest).after [c] := by
  rw [blockComment.eq_def (.char c :: rest)]
  split
  · rename_i nothing
    cases nothing
  · rename_i closing
    cases closing
    exact absurd rfl (inside rfl)
  · rename_i same
    cases same
    simp [allowed]

theorem blockComment_stops {atom : Atom} {error : LexicalError} (forbidden : forbidden? atom = some error)
    (rest : List Atom) : blockComment (atom :: rest) = ⟨[], .rejected error true, atom :: rest⟩ := by
  unfold blockComment
  split
  · rename_i nothing
    cases nothing
  · rename_i closing
    cases closing
    cases forbidden
  · rename_i same
    cases same
    simp [forbidden]

theorem blockComment_returned (atoms : List Atom) : blockComment (returned atoms) = (blockComment atoms).lines := by
  induction atoms with
  | nil => rfl
  | cons atom rest ih =>
    by_cases feed : atom = .char '\n'
    · subst feed
      rw [returned_feed, blockComment_goes rfl (fun star => by cases star),
        blockComment_goes rfl (fun star => by cases star), ih, blockComment_goes rfl (fun star => by cases star),
        Reading.lines_after_feed]
    · rw [returned_cons feed]
      cases forbidden : forbidden? atom with
      | some error =>
        rw [blockComment_stops forbidden, blockComment_stops forbidden, ← returned_cons feed]
        rfl
      | none =>
        cases atom with
        | stray byte => cases forbidden
        | char c =>
          have other : c ≠ '\n' := by simpa using feed
          by_cases closes : c = '*' ∧ rest.head? = some (.char '/')
          · obtain ⟨rfl, slash⟩ := closes
            cases rest with
            | nil => cases slash
            | cons atom rest =>
              cases slash
              rw [returned_cons (by decide)]
              simp [blockComment, Reading.lines, insertBefore_cons other, insertBefore_cons (show '/' ≠ '\n' by decide)]
          · have inside : c = '*' → rest.head? ≠ some (.char '/') := fun star slash => closes ⟨star, slash⟩
            have front : c = '*' → (returned rest).head? ≠ some (.char '/') := fun star slash =>
              inside star (head?_returned (by decide) slash)
            rw [blockComment_goes forbidden front, ih, blockComment_goes forbidden inside, Reading.lines_after other]

end Lines

-- What becomes of a reading. Only a string or a comment goes over line ends, and only a quoted string that is left open
-- takes the carriage return of the line end that it stops at; the line end is a terminator then.
inductive Reading.Returns (closing : Closing) (r : Reading) : Reading → Prop where
  | inline : Returns closing r (r.before (returned r.rest))
  | lines (several : r.Among [.string, .comment]) : Returns closing r r.lines
  | broken {error : LexicalError} {rest : List Atom} (ends : closing = .yes) (ending : r.ending = .rejected error false)
      (feed : r.rest = .char '\n' :: rest) :
      Returns closing r ⟨r.taken ++ ['\r'], r.ending, .char '\n' :: returned rest⟩

namespace Reading.Returns
variable {closing : Closing} {r other : Reading}

theorem after (returns : r.Returns closing other) {c : Char} (inside : c ≠ '\n') :
    (r.after [c]).Returns closing (other.after [c]) := by
  cases returns with
  | inline => exact .inline
  | lines several =>
    rw [← Reading.lines_after inside]
    exact .lines several
  | broken ends ending feed => exact .broken ends ending feed

theorem of_eq (same : other = r.before (returned r.rest)) : r.Returns closing other := by
  rw [same]
  exact .inline

end Reading.Returns

section Strings

theorem quotedString_goes {c : Char} (allowed : forbidden? (.char c) = none) (quote : c ≠ '"') (feed : c ≠ '\n')
    (rest : List Atom) : quotedString .none (.char c :: rest) =
      (quotedString (if c = '\\' then .opened else .none) rest).after [c] := by
  simp [quotedString, allowed, quote, feed]

theorem quotedString_escape {escape : Escape} (inside : escape ≠ .none) (c : Char) (rest : List Atom) :
    quotedString escape (.char c :: rest) = match escape.next? c with
      | some left => (quotedString left rest).after [c]
      | none => ⟨[], .rejected .escape false, .char c :: rest⟩ := by
  cases escape with
  | none => exact absurd rfl inside
  | opened => rfl
  | digits base owed => rfl

theorem next?_feed {escape : Escape} (inside : escape ≠ .none) :
    escape.next? '\n' = none ∧ escape.next? '\r' = none := by
  cases escape with
  | none => exact absurd rfl inside
  | opened => exact ⟨rfl, rfl⟩
  | digits base owed => exact ⟨rfl, rfl⟩

theorem quotedString_returned (escape : Escape) (atoms : List Atom) :
    (quotedString escape atoms).Returns .yes (quotedString escape (returned atoms)) := by
  induction atoms generalizing escape with
  | nil => cases escape <;> exact .inline
  | cons atom rest ih =>
    by_cases escaped : escape = .none
    · subst escaped
      by_cases feed : atom = .char '\n'
      · subst feed
        rw [returned_feed, quotedString_goes (c := '\r') rfl (by decide) (by decide)]
        exact .broken rfl rfl rfl
      · rw [returned_cons feed]
        cases forbidden : forbidden? atom with
        | some error =>
          simp only [quotedString, forbidden]
          rw [← returned_cons feed]
          exact .inline
        | none =>
          cases atom with
          | stray byte => cases forbidden
          | char c =>
            have other : c ≠ '\n' := by simpa using feed
            by_cases quote : c = '"'
            · subst quote
              exact .inline
            · rw [quotedString_goes forbidden quote other, quotedString_goes forbidden quote other]
              exact (ih _).after other
    · cases atom with
      | stray byte =>
        rw [returned_cons (by simp)]
        cases escape with
        | none => exact absurd rfl escaped
        | opened => exact .inline
        | digits base owed => exact .inline
      | char c =>
        by_cases feed : c = '\n'
        · subst feed
          rw [returned_feed, quotedString_escape escaped, quotedString_escape escaped, (next?_feed escaped).1,
            (next?_feed escaped).2]
          exact .inline
        · rw [returned_cons (by simpa using feed), quotedString_escape escaped, quotedString_escape escaped]
          cases escape.next? c with
          | some left => exact (ih left).after feed
          | none =>
            dsimp only
            rw [← returned_cons (by simpa using feed)]
            exact .inline

end Strings

section Tokens

theorem slash_stopped {atoms : List Atom} (line : atoms.head? ≠ some (.char '/'))
    (block : atoms.head? ≠ some (.char '*')) :
    slash atoms = ⟨[], .rejected (.strayCharacter "'/'") false, atoms⟩ := by
  unfold slash
  split
  · exact absurd rfl line
  · exact absurd rfl block
  · rfl

theorem slash_returned (closing : Closing) (atoms : List Atom) :
    (slash atoms).Returns closing (slash (returned atoms)) := by
  have line : ∀ rest, (lineComment rest).Returns closing (lineComment (returned rest)) := by
    intro rest
    rw [lineComment_returned]
    exact .lines ((lineComment_among rest).weaken (by simp))
  have block : ∀ rest, (blockComment rest).Returns closing (blockComment (returned rest)) := by
    intro rest
    rw [blockComment_returned]
    exact .lines ((blockComment_among rest).weaken (by simp))
  by_cases isLine : atoms.head? = some (.char '/')
  · obtain ⟨rest, rfl⟩ := List.head?_eq_some_iff.mp isLine
    rw [returned_cons (by decide)]
    exact (line rest).after (by decide)
  · by_cases isBlock : atoms.head? = some (.char '*')
    · obtain ⟨rest, rfl⟩ := List.head?_eq_some_iff.mp isBlock
      rw [returned_cons (by decide)]
      exact (block rest).after (by decide)
    · rw [slash_stopped isLine isBlock, slash_stopped (fun front => isLine (head?_returned (by decide) front))
        fun front => isBlock (head?_returned (by decide) front)]
      exact .inline

theorem token_returned {c : Char} (inside : c ≠ '\n') (rest : List Atom) :
    (token c rest).1.Returns (token c rest).2 (token c (returned rest)).1 ∧
      (token c (returned rest)).2 = (token c rest).2 := by
  have stopped : ∀ closing ending, (⟨[], ending, .char c :: rest⟩ : Reading).Returns closing
      ⟨[], ending, .char c :: returned rest⟩ := by
    intro closing ending
    rw [← returned_cons (by simpa using inside)]
    exact .inline
  unfold token
  simp only [startsWith_returned (digit_inline 10)]
  repeat' split
  · exact ⟨.of_eq (name_returned c rest), rfl⟩
  · exact ⟨(Reading.Returns.of_eq (negative_returned rest)).after inside, rfl⟩
  · exact ⟨.of_eq (number_returned c rest), rfl⟩
  · exact ⟨stopped _ _, rfl⟩
  · rw [rawString_returned]
    exact ⟨(Reading.Returns.lines ((rawString_among rest).weaken (by simp))).after inside, rfl⟩
  · exact ⟨(quotedString_returned _ rest).after inside, rfl⟩
  · exact ⟨(Reading.Returns.of_eq (fraction_returned rest)).after inside, rfl⟩
  · exact ⟨.inline, rfl⟩
  · exact ⟨(slash_returned _ rest).after inside, rfl⟩
  · exact ⟨.inline, rfl⟩
  · exact ⟨.inline, rfl⟩
  · exact ⟨stopped _ _, rfl⟩

end Tokens

def Ending.takesNext : Ending → Bool
  | .rejected _ takes => takes
  | .accepted _ => false

def Reading.Halts (r : Reading) : Prop := r.ending.takesNext = true → r.rest.head? ≠ some (.char '\n')

namespace Reading.Halts

theorem of_stays {r : Reading} (stays : r.ending.takesNext = false) : r.Halts := fun takes => by
  rw [stays] at takes
  cases takes

theorem exponent_stays (kind : TokenKind) (atoms : List Atom) : (exponent kind atoms).ending.takesNext = false := by
  unfold exponent
  dsimp only
  split
  · rfl
  · dsimp only
    split <;> rfl

theorem wholePart_stays (atoms : List Atom) : (wholePart atoms).ending.takesNext = false := by
  unfold wholePart
  dsimp only
  split
  · exact exponent_stays _ _
  · exact exponent_stays _ _

theorem zero_stays (atoms : List Atom) : (zero atoms).ending.takesNext = false := by
  unfold zero
  dsimp only
  repeat' split
  · exact wholePart_stays _
  all_goals rfl

theorem number_stays (c : Char) (atoms : List Atom) : (number c atoms).ending.takesNext = false := by
  unfold number
  split
  · exact zero_stays _
  · exact wholePart_stays _

theorem negative_stays (atoms : List Atom) : (negative atoms).ending.takesNext = false := by
  unfold negative
  repeat' split
  · exact exponent_stays _ _
  · rfl
  · exact number_stays _ _
  · rfl
  · rfl

theorem of_forbidden {atom : Atom} {error : LexicalError} (forbidden : forbidden? atom = some error)
    (rest : List Atom) :
    (⟨[], .rejected error true, atom :: rest⟩ : Reading).Halts :=
  fun _ front => forbidden?_feed forbidden (by simpa using front)

theorem rawString_halts (atoms : List Atom) : (rawString atoms).Halts := by
  fun_induction rawString atoms with
  | case2 atom rest error forbidden => simpa [forbidden] using of_forbidden forbidden rest
  | _ => simp_all [Reading.Halts, Reading.after, Ending.takesNext]

theorem quotedString_halts (escape : Escape) (atoms : List Atom) : (quotedString escape atoms).Halts := by
  fun_induction quotedString escape atoms with
  | case2 atom rest error forbidden => simpa [forbidden] using of_forbidden forbidden rest
  | _ => simp_all [Reading.Halts, Reading.after, Ending.takesNext]

theorem lineComment_halts (atoms : List Atom) : (lineComment atoms).Halts := by
  fun_induction lineComment atoms with
  | case2 atom rest error forbidden => simpa [forbidden] using of_forbidden forbidden rest
  | _ => simp_all [Reading.Halts, Reading.after, Ending.takesNext]

theorem blockComment_halts (atoms : List Atom) : (blockComment atoms).Halts := by
  fun_induction blockComment atoms with
  | case3 atom rest other error forbidden => simpa [forbidden] using of_forbidden forbidden rest
  | _ => simp_all [Reading.Halts, Reading.after, Ending.takesNext]

theorem slash_halts (atoms : List Atom) : (slash atoms).Halts := by
  unfold slash
  split
  · exact lineComment_halts _
  · exact blockComment_halts _
  · exact of_stays rfl

theorem of_token {c : Char} (inside : c ≠ '\n') (rest : List Atom) : (token c rest).1.Halts := by
  have starts := token_starts c rest
  generalize token c rest = found at starts ⊢
  cases starts with
  | name => exact of_stays rfl
  | negative => exact of_stays (negative_stays rest)
  | number => exact of_stays (number_stays c rest)
  | fraction => exact of_stays (exponent_stays _ _)
  | rawString => exact rawString_halts rest
  | quotedString => exact quotedString_halts _ rest
  | slash => exact slash_halts rest
  | single => exact of_stays rfl
  | stopped error => exact fun _ front => inside (by simpa using front)

end Reading.Halts

end Scan
end WireSchema

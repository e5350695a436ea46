import WireSchema.Comment
import WireSchema.Proofs.Text.LineEnds
import WireSchema.Proofs.Token.Names

-- What comments look like, and that the lines of one do not depend on how lines end.
namespace WireSchema
open Text

namespace Scan

-- The characters of a comment. The newline of a line comment may be missing at the end of a source.
inductive IsComment : List Char → Prop where
  | line {text : List Char} (inside : '\n' ∉ text) : IsComment ('/' :: '/' :: text)
  | ended {text : List Char} (inside : '\n' ∉ text) : IsComment ('/' :: '/' :: (text ++ ['\n']))
  | block (text : List Char) : IsComment ('/' :: '*' :: (text ++ ['*', '/']))

theorem lineComment_taken (atoms : List Atom) : ∃ text, '\n' ∉ text ∧
    ((lineComment atoms).taken = text ∨ (lineComment atoms).taken = text ++ ['\n']) := by
  fun_induction lineComment atoms with
  | case1 => exact ⟨[], by simp, .inl rfl⟩
  | case2 atom rest error forbidden => exact ⟨[], by simp, .inl (by simp [forbidden])⟩
  | case3 rest forbidden => exact ⟨[], by simp, .inr (by simp [forbidden])⟩
  | case4 rest c other forbidden ih =>
    obtain ⟨text, inside, taken⟩ := ih
    refine ⟨c :: text, by simp [Ne.symm other, inside], ?_⟩
    simpa [forbidden, other, Reading.after] using taken
  | case5 => simp_all [forbidden?]

theorem blockComment_taken (atoms : List Atom) {kind : TokenKind}
    (accepted : (blockComment atoms).ending = .accepted kind) :
    ∃ text, (blockComment atoms).taken = text ++ ['*', '/'] := by
  fun_induction blockComment atoms with
  | case1 => cases accepted
  | case2 rest => exact ⟨[], rfl⟩
  | case3 atom rest other error forbidden => simp [forbidden] at accepted
  | case4 rest c other forbidden ih =>
    obtain ⟨text, taken⟩ := ih (by simpa [forbidden, Reading.after] using accepted)
    exact ⟨c :: text, by simp [forbidden, Reading.after, taken]⟩
  | case5 => simp_all [forbidden?]

theorem slash_comment {atoms : List Atom} {kind : TokenKind} (accepted : (slash atoms).ending = .accepted kind) :
    IsComment ('/' :: (slash atoms).taken) := by
  unfold slash at accepted ⊢
  split
  · rename_i rest
    obtain ⟨text, inside, taken | taken⟩ := lineComment_taken rest
    · simpa [Reading.after, taken] using IsComment.line inside
    · simpa [Reading.after, taken] using IsComment.ended inside
  · rename_i rest
    obtain ⟨text, taken⟩ := blockComment_taken rest accepted
    simpa [Reading.after, taken] using IsComment.block text
  · simp_all

theorem blockComment_closed {body : List Char} (plain : ∀ c ∈ body, c ≠ '*' ∧ forbidden? (.char c) = none) :
    blockComment ((body ++ ['*', '/']).map .char) = ⟨body ++ ['*', '/'], .accepted .comment, []⟩ := by
  induction body with
  | nil => rfl
  | cons c rest ih =>
    obtain ⟨⟨other, allowed⟩, behind⟩ := List.forall_mem_cons.mp plain
    have apart : ∀ more, Atom.char c = .char '*' → (rest ++ ['*', '/']).map .char = Atom.char '/' :: more → False :=
      fun _ same => absurd (Atom.char.inj same) other
    rw [List.cons_append, List.map_cons, blockComment.eq_4 _ _ apart allowed, ih behind]
    rfl

theorem front_block {body : List Char} (plain : ∀ c ∈ body, c ≠ '*' ∧ forbidden? (.char c) = none) :
    front false (('/' :: '*' :: (body ++ ['*', '/'])).map .char) =
      .reading ⟨'/' :: '*' :: (body ++ ['*', '/']), .accepted .comment, []⟩ .no := by
  have letter : isLetter '/' = false := by decide
  have slash : slash (.char '*' :: (body ++ ['*', '/']).map .char) =
      ⟨'*' :: (body ++ ['*', '/']), .accepted .comment, []⟩ := by
    rw [slash.eq_2, blockComment_closed plain]
    rfl
  rw [List.map_cons, List.map_cons]
  generalize (body ++ ['*', '/']).map Atom.char = atoms at slash
  simp [front, token, letter, isDigitOf, digitValue?, byteOrderMark, backtick, slash, Reading.after]

theorem token_comment {c : Char} {rest : List Atom} (ending : (token c rest).1.ending = .accepted .comment) :
    IsComment (token c rest).1.taken := by
  have starts := token_starts c rest
  generalize token c rest = found at starts ending ⊢
  cases starts with
  | name letter => exact absurd (Ending.accepted.inj ending) (keywordOr_other _ (by simp) (by simp))
  | negative => exact absurd ending ((negative_among rest).absent (by simp))
  | number => exact absurd ending ((number_among c rest).absent (by simp))
  | fraction => exact absurd ending ((fraction_among rest).absent (by simp))
  | rawString => exact absurd ending ((rawString_among rest).absent (by simp))
  | quotedString => exact absurd ending ((quotedString_among .none rest).absent (by simp))
  | slash mark =>
    subst mark
    exact slash_comment ending
  | single other =>
    cases ending
    simp at other
  | stopped => cases ending

end Scan

namespace Comment

theorem pieces_returned (text : List Char) : ∃ front last, pieces '\n' text = front ++ [last] ∧
    pieces '\n' (insertBefore '\n' '\r' text) = front.map (· ++ ['\r']) ++ [last] := by
  induction text with
  | nil => exact ⟨[], [], rfl, rfl⟩
  | cons c rest ih =>
    obtain ⟨front, last, here, there⟩ := ih
    by_cases feed : c = '\n'
    · subst feed
      refine ⟨[] :: front, last, by simp [pieces, here], ?_⟩
      rw [insertBefore_mark]
      simp [pieces, there]
    · rw [insertBefore_cons feed]
      cases front with
      | nil => exact ⟨[], c :: last, by simp [pieces, feed, here], by simp [pieces, feed, there]⟩
      | cons first front =>
        exact ⟨(c :: first) :: front, last, by simp [pieces, feed, here], by simp [pieces, feed, there]⟩

theorem trimEnd_carriage (line : List Char) : trimEnd isTrailing (line ++ ['\r']) = trimEnd isTrailing line := by
  simp [trimEnd, isTrailing]

theorem rawLines_block (text : List Char) : rawLines ('/' :: '*' :: (text ++ ['*', '/'])) =
    if (pieces '\n' text).getLast? = some [] then (pieces '\n' text).dropLast else pieces '\n' text := by
  unfold rawLines
  simp only [List.length_append, List.length_cons, List.length_nil]
  rw [if_neg (by omega)]
  simp

theorem rawLines_line (text : List Char) :
    (rawLines ('/' :: '/' :: (text ++ ['\r']))).map (trimEnd isTrailing) =
      (rawLines ('/' :: '/' :: text)).map (trimEnd isTrailing) := by
  cases text with
  | nil => rfl
  | cons c rest =>
    by_cases blank : c = ' '
    · subst blank
      simp [rawLines, trimEnd_carriage]
    · have apart : ∀ line, rawLines ('/' :: '/' :: c :: line) = [c :: line] := fun line => by simp [rawLines, blank]
      rw [List.cons_append, apart, apart, List.map_singleton, List.map_singleton, ← List.cons_append, trimEnd_carriage]

theorem lexeme_feed (front : List Char) : Scanner.lexeme .comment (front ++ ['\n']) = front := by
  simp [Scanner.lexeme]

theorem lexeme_other {c : Char} (other : c ≠ '\n') (front : List Char) :
    Scanner.lexeme .comment (front ++ [c]) = front ++ [c] := by
  simp [Scanner.lexeme, other]

theorem lines_returned {taken : List Char} (isComment : Scan.IsComment taken) :
    lines (.ofList (Scanner.lexeme .comment (insertBefore '\n' '\r' taken))) =
      lines (.ofList (Scanner.lexeme .comment taken)) := by
  have slash : '/' ≠ '\n' := by decide
  have star : '*' ≠ '\n' := by decide
  unfold lines
  rw [String.toList_ofList, String.toList_ofList]
  have trimmed : ∀ lines : List (List Char), lines.map (fun line => String.ofList (trimEnd isTrailing line)) =
      (lines.map (trimEnd isTrailing)).map String.ofList := fun lines => by rw [List.map_map]; rfl
  rw [trimmed, trimmed]
  congr 1
  cases isComment with
  | line inside => rw [insertBefore_unmarked (by simp [inside])]
  | @ended text inside =>
    have here := lexeme_feed ('/' :: '/' :: text)
    have there := lexeme_feed ('/' :: '/' :: (text ++ ['\r']))
    simp only [List.cons_append, List.append_assoc, List.nil_append] at here there
    rw [insertBefore_cons slash, insertBefore_cons slash, insertBefore_append, insertBefore_unmarked inside,
      insertBefore_mark, insertBefore_nil, here, there]
    exact rawLines_line text
  | block text =>
    obtain ⟨front, last, here, there⟩ := pieces_returned text
    have closed : ∀ text : List Char, Scanner.lexeme .comment ('/' :: '*' :: (text ++ ['*', '/'])) =
        '/' :: '*' :: (text ++ ['*', '/']) := by
      intro text
      simpa using lexeme_other slash ('/' :: '*' :: (text ++ ['*']))
    have tail : insertBefore '\n' '\r' ['*', '/'] = ['*', '/'] := rfl
    rw [insertBefore_cons slash, insertBefore_cons star, insertBefore_append, tail, closed, closed, rawLines_block,
      rawLines_block, here, there]
    simp only [List.getLast?_concat, List.dropLast_concat]
    split <;> simp [trimEnd_carriage]

end Comment
end WireSchema

import WireSchema.Proofs.Text.Slices
import WireSchema.Proofs.Token.Finish

-- What the scanner has ahead is always the rest of its source, and the text of every string that it reads stands between
-- two delimiters, so that they can be cut off.
namespace WireSchema
open Text

def IsQuoted (text : List Char) : Prop :=
  ∃ delimiter content, text = delimiter :: (content ++ [delimiter]) ∧ delimiter.utf8Size = 1

def Token.Quoted (token : Token) : Prop := token.kind = .string → IsQuoted token.text.toList

theorem literalContent_slice {literal : String} (quoted : IsQuoted literal.toList) :
    slice? 1 (byteCount literal.toList - 1) literal.toList = some (literalContent literal) := by
  obtain ⟨delimiter, content, whole, size⟩ := quoted
  have middle := slice?_between [delimiter] content [delimiter]
  have stop : byteCount literal.toList - 1 = byteCount [delimiter] + byteCount content := by
    simp only [whole, byteCount_cons, byteCount_append, byteCount_nil, size]
    omega
  have start : byteCount [delimiter] = 1 := by simp [size]
  have content : literalContent literal = content := by simp [literalContent, whole]
  rw [stop, content, whole, ← start]
  exact middle

namespace Scan

theorem rawString_closed {atoms : List Atom} (accepted : (rawString atoms).ending = .accepted .string) :
    ∃ content, (rawString atoms).taken = content ++ [backtick] := by
  fun_induction rawString atoms with
  | case1 => cases accepted
  | case2 atom rest error forbidden => simp [forbidden] at accepted
  | case3 rest allowed => exact ⟨[], by simp [allowed]⟩
  | case4 rest c other allowed ih =>
    obtain ⟨content, taken⟩ := ih (by simpa [allowed, other, Reading.after] using accepted)
    exact ⟨c :: content, by simp [allowed, other, Reading.after, taken]⟩
  | case5 => simp_all [forbidden?]

theorem quotedString_closed {escape : Escape} {atoms : List Atom}
    (accepted : (quotedString escape atoms).ending = .accepted .string) :
    ∃ content, (quotedString escape atoms).taken = content ++ ['"'] := by
  fun_induction quotedString escape atoms with
  | case1 => cases accepted
  | case2 atom rest error forbidden => simp [forbidden] at accepted
  | case3 rest allowed => exact ⟨[], by simp [allowed]⟩
  | case4 rest unquoted allowed => simp [allowed] at accepted
  | case5 rest c unquoted inside allowed ih =>
    obtain ⟨content, taken⟩ := ih (by simpa [allowed, unquoted, inside, Reading.after] using accepted)
    exact ⟨c :: content, by simp [allowed, unquoted, inside, Reading.after, taken]⟩
  | case6 =>
    rename_i unforbidden
    cases unforbidden
  | case7 escape c rest opened left next ih =>
    obtain ⟨content, taken⟩ := ih (by simpa [next, Reading.after] using accepted)
    exact ⟨c :: content, by simp [Reading.after, taken]⟩
  | case8 => simp at accepted
  | case9 => cases accepted

theorem token_quoted {c : Char} {rest : List Atom} (ending : (token c rest).1.ending = .accepted .string) :
    IsQuoted (token c rest).1.taken := by
  have starts := token_starts c rest
  generalize token c rest = found at starts ending ⊢
  cases starts with
  | name letter => exact absurd (Ending.accepted.inj ending) (keywordOr_other _ (by simp) (by simp))
  | negative => exact absurd ending ((negative_among rest).absent (by simp))
  | number => exact absurd ending ((number_among c rest).absent (by simp))
  | fraction => exact absurd ending ((fraction_among rest).absent (by simp))
  | rawString mark =>
    subst mark
    obtain ⟨content, taken⟩ := rawString_closed ending
    exact ⟨backtick, content, by simp [Reading.after, taken], by decide⟩
  | quotedString mark =>
    subst mark
    obtain ⟨content, taken⟩ := quotedString_closed ending
    exact ⟨'"', content, by simp [Reading.after, taken], by decide⟩
  | slash => exact absurd ending ((slash_among rest).absent (by simp))
  | single other =>
    cases ending
    simp at other
  | stopped => cases ending

theorem run_suffix (p : Char → Bool) (atoms : List Atom) : (run p atoms).2 <:+ atoms := ⟨_, run_append p atoms⟩

theorem Reading.Covers.suffix {r : Reading} {atoms : List Atom} (covers : r.Covers atoms) : r.rest <:+ atoms :=
  ⟨_, covers⟩

end Scan

namespace Scanner
variable {limit : Nat} {file : String}

theorem leave_suffix (r : Scan.Reading) (place : Place) (closable : Bool) :
    (leave r place closable).ahead <:+ r.rest := by
  unfold leave
  dsimp only
  split
  · exact List.suffix_refl _
  · split
    · exact List.tail_suffix _
    · exact List.suffix_refl _

theorem next_suffix (s : Scanner) : (s.next limit file).2.ahead <:+ s.ahead := by
  have blanks := Scan.run_suffix (isBlank s.closable) s.ahead
  unfold next
  dsimp only
  split
  · exact blanks
  · exact blanks
  · rename_i r closing found
    exact ((leave_suffix r _ _).trans (Scan.front_reading found).1.suffix).trans blanks

theorem first_suffix (n : Nat) (s : Scanner) : (s.first limit file n).2.ahead <:+ s.ahead := by
  induction n generalizing s with
  | zero => exact List.suffix_refl _
  | succ n ih => exact (ih (s.next limit file).2).trans (next_suffix s)

theorem start_suffix (atoms : List Atom) : (start atoms).ahead <:+ atoms := by
  unfold start
  split
  · split
    · exact List.suffix_cons _ _
    · exact List.suffix_refl _
  · exact List.suffix_refl _

theorem next_quoted (s : Scanner) : (s.next limit file).1.Quoted := by
  intro string
  unfold next at string ⊢
  dsimp only at string ⊢
  split at string
  · cases string
  · cases string
  · rename_i r closing found
    unfold kindAndText at string ⊢
    cases ending : r.ending with
    | rejected error takesNext => simp [ending] at string
    | accepted kind =>
      simp only [ending] at string ⊢
      split at string
      · cases string
      · rename_i short
        obtain rfl : kind = .string := string
        rcases Scan.front_token found with ⟨error, rejected⟩ | ⟨c, rest, _, same⟩
        · cases ending.symm.trans rejected
        · have ended : (Scan.token c rest).1.ending = .accepted .string := by rw [same]; exact ending
          have quoted := Scan.token_quoted ended
          rw [same] at quoted
          simpa [lexeme, short] using quoted

end Scanner

theorem Token.allOf_quoted (limit : Nat) (file : String) (source : List UInt8) :
    ∀ token ∈ (allOf limit file source).1, token.Quoted :=
  fun token member => ((Scanner.tokens_all Scanner.next_quoted (.start (decode source))).1 token member).1

end WireSchema

import WireSchema.Proofs.Token.Names

-- A source has at most two tokens for each of its bytes, and behind them the token for its end comes again and
-- again.
namespace WireSchema
open Text

theorem Text.decodeAfter_length (skip : Nat) (bytes : List UInt8) : (decodeAfter skip bytes).length ≤ bytes.length := by
  fun_induction decodeAfter skip bytes with
  | case1 => exact Nat.le_refl _
  | case2 skip byte rest ih => exact Nat.le_succ_of_le ih
  | case3 byte rest c more found ih => exact Nat.succ_le_succ ih
  | case4 byte rest found ih => exact Nat.succ_le_succ ih

namespace Scan

theorem token_unended (c : Char) (rest : List Atom) : (token c rest).1.ending ≠ .accepted .endOfFile := by
  have starts := token_starts c rest
  generalize token c rest = found at starts ⊢
  cases starts with
  | name letter => exact fun ended => keywordOr_other _ (by simp) (by simp) (Ending.accepted.inj ended)
  | negative => exact (negative_among rest).absent (by simp)
  | number => exact (number_among c rest).absent (by simp)
  | fraction => exact (fraction_among rest).absent (by simp)
  | rawString => exact (rawString_among rest).absent (by simp)
  | quotedString => exact (quotedString_among .none rest).absent (by simp)
  | slash => exact (slash_among rest).absent (by simp)
  | single other =>
    intro ended
    cases ended
    simp at other
  | stopped => exact fun ended => nomatch ended

theorem front_unended {closable : Bool} {atoms : List Atom} {r : Reading} {closing : Closing}
    (found : front closable atoms = .reading r closing) : r.ending ≠ .accepted .endOfFile := by
  rcases front_token found with ⟨error, rejected⟩ | ⟨c, rest, rfl, same⟩
  · rw [rejected]
    exact nofun
  · have unended := token_unended c rest
    rwa [same] at unended

theorem front_ended {closable : Bool} {atoms : List Atom} (found : front closable atoms = .endOfFile) : atoms = [] := by
  unfold front at found
  split at found
  · rfl
  · cases found
  · split at found
    · cases found
    · split at found <;> cases found

end Scan

namespace Scanner
variable {limit : Nat} {file : String}

theorem kindAndText_unended {r : Scan.Reading} (unended : r.ending ≠ .accepted .endOfFile) :
    (kindAndText limit r).1 ≠ .endOfFile := by
  unfold kindAndText
  cases ending : r.ending with
  | rejected error takesNext => simp
  | accepted kind =>
    dsimp only
    split
    · simp
    · intro ended
      obtain rfl : kind = .endOfFile := ended
      exact unended ending

theorem next_again {s : Scanner} (ended : (s.next limit file).1.kind = .endOfFile) :
    (s.next limit file).2.next limit file = s.next limit file := by
  unfold next at ended ⊢
  dsimp only at ended ⊢
  split at ended
  · rename_i found
    simp [Scan.front_ended found, Scan.run, Scan.front, Place.pastAll]
  · cases ended
  · rename_i r closing found
    exact absurd ended (kindAndText_unended (Scan.front_unended found))

theorem first_again {s : Scanner} (ended : (s.next limit file).1.kind = .endOfFile) (n : Nat) :
    (s.first limit file n).1 = .replicate n (s.next limit file).1 := by
  induction n generalizing s with
  | zero => rfl
  | succ n ih =>
    have again := next_again ended
    rw [first, List.replicate_succ, ih (by rw [again]; exact ended), again]

theorem first_tokens (s : Scanner) (n : Nat) :
    (s.first limit file ((s.tokens limit file).1.length + n)).1 =
      (s.tokens limit file).1 ++ .replicate n (s.tokens limit file).2 := by
  fun_induction tokens limit file s with
  | case1 s ended => simpa using first_again ended n
  | case2 s more rest ih =>
    rw [List.length_cons, Nat.add_right_comm, first, ih]
    rfl

theorem first_front (n more : Nat) (s : Scanner) :
    (s.first limit file (n + more)).1.take n = (s.first limit file n).1 := by
  induction n generalizing s with
  | zero => rfl
  | succ n ih =>
    rw [Nat.succ_add, first, List.take_succ_cons, ih, first]

theorem first_take (n : Nat) (s : Scanner) : (s.first limit file n).1 =
    ((s.tokens limit file).1 ++ .replicate n (s.tokens limit file).2).take n := by
  rw [← first_tokens, Nat.add_comm, first_front]

theorem tokens_length (s : Scanner) : (s.tokens limit file).1.length ≤ s.measure := by
  fun_induction tokens limit file s with
  | case1 s ended => exact Nat.zero_le _
  | case2 s more rest ih =>
    have shorter := next_measure more
    have later : rest.1.length ≤ (s.next limit file).2.measure := ih
    rw [List.length_cons]
    omega

theorem start_measure (atoms : List Atom) : (start atoms).measure ≤ 2 * atoms.length := by
  unfold start
  split
  · split
    · simp only [measure, List.length_cons, Bool.toNat_false]
      omega
    · simp [measure]
  · simp [measure]

end Scanner

theorem Token.allOf_length (limit : Nat) (file : String) (source : List UInt8) :
    (allOf limit file source).1.length ≤ 2 * source.length :=
  calc (allOf limit file source).1.length
    _ ≤ (Scanner.start (decode source)).measure := Scanner.tokens_length _
    _ ≤ 2 * (decode source).length := Scanner.start_measure _
    _ ≤ 2 * source.length := Nat.mul_le_mul_left 2 (decodeAfter_length 0 source)

end WireSchema

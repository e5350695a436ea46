import WireSchema.Token.Scan

-- Nothing is lost in reading a token: the characters taken and the atoms left over are the text that
-- was given, and at least one atom is used up.
namespace WireSchema.Scan
open Text

theorem run_append (p : Char → Bool) (atoms : List Atom) :
    (run p atoms).1.map .char ++ (run p atoms).2 = atoms := by
  fun_induction run p atoms with
  | case1 c rest holds more ih => simpa using ih
  | case2 => rfl
  | case3 => rfl

theorem one_append (p : Char → Bool) (atoms : List Atom) :
    (one p atoms).1.map .char ++ (one p atoms).2 = atoms := by
  fun_cases one p atoms <;> simp_all

theorem run_length (p : Char → Bool) (atoms : List Atom) :
    (run p atoms).1.length + (run p atoms).2.length = atoms.length := by
  simpa using congrArg List.length (run_append p atoms)

def Reading.Covers (r : Reading) (atoms : List Atom) : Prop := r.taken.map .char ++ r.rest = atoms

theorem Reading.Covers.after {r : Reading} {atoms : List Atom} (covers : r.Covers atoms)
    (front : List Char) : (r.after front).Covers (front.map .char ++ atoms) := by
  simp only [Reading.Covers, Reading.after, List.map_append, List.append_assoc] at *
  rw [covers]

theorem Reading.Covers.length {r : Reading} {atoms : List Atom} (covers : r.Covers atoms) :
    r.taken.length + r.rest.length = atoms.length := by
  simpa using congrArg List.length covers

theorem name_covers (c : Char) (atoms : List Atom) : (name c atoms).Covers (.char c :: atoms) := by
  simp [name, Reading.Covers, run_append]

theorem exponent_covers (kind : TokenKind) (atoms : List Atom) :
    (exponent kind atoms).Covers atoms := by
  simp only [exponent]
  split
  · simp [Reading.Covers]
  · simp [Reading.Covers, run_append, one_append]

theorem fraction_covers (atoms : List Atom) : (fraction atoms).Covers atoms := by
  simpa [fraction, run_append] using (exponent_covers .float (run (isDigitOf 10) atoms).2).after
    (run (isDigitOf 10) atoms).1

theorem wholePart_covers (atoms : List Atom) : (wholePart atoms).Covers atoms := by
  simp only [wholePart]
  split
  · exact exponent_covers .integer atoms
  · simpa [one_append] using (fraction_covers (one (· = '.') atoms).2).after (one (· = '.') atoms).1

theorem zero_covers (atoms : List Atom) : (zero atoms).Covers atoms := by
  simp only [zero]
  split
  · split
    · simpa [run_append] using (wholePart_covers (run (isDigitOf 10) (run (isDigitOf 8) atoms).2).2).after
        ((run (isDigitOf 8) atoms).1 ++ (run (isDigitOf 10) (run (isDigitOf 8) atoms).2).1)
    · simp [Reading.Covers, run_append]
  · simp [Reading.Covers, run_append, one_append]

theorem number_covers (c : Char) (atoms : List Atom) : (number c atoms).Covers (.char c :: atoms) := by
  simp only [number]
  split
  · rename_i zero
    subst zero
    exact (zero_covers atoms).after ['0']
  · simpa [run_append] using (wholePart_covers (run (isDigitOf 10) atoms).2).after
      (c :: (run (isDigitOf 10) atoms).1)

theorem negative_covers (atoms : List Atom) : (negative atoms).Covers atoms := by
  unfold negative
  split
  · split
    · split
      · exact (fraction_covers _).after [_]
      · simp [Reading.Covers]
    · split
      · exact number_covers _ _
      · simp [Reading.Covers]
  · simp [Reading.Covers]

theorem rawString_covers (atoms : List Atom) : (rawString atoms).Covers atoms := by
  fun_induction rawString atoms <;> simp_all [Reading.Covers, Reading.after]

theorem quotedString_covers (escape : Escape) (atoms : List Atom) :
    (quotedString escape atoms).Covers atoms := by
  fun_induction quotedString escape atoms <;> simp_all [Reading.Covers, Reading.after]

theorem lineComment_covers (atoms : List Atom) : (lineComment atoms).Covers atoms := by
  fun_induction lineComment atoms <;> simp_all [Reading.Covers, Reading.after]

theorem blockComment_covers (atoms : List Atom) : (blockComment atoms).Covers atoms := by
  fun_induction blockComment atoms <;> simp_all [Reading.Covers, Reading.after]

theorem slash_covers (atoms : List Atom) : (slash atoms).Covers atoms := by
  unfold slash
  split
  · exact (lineComment_covers _).after ['/']
  · exact (blockComment_covers _).after ['*']
  · simp [Reading.Covers]

def Reading.Advances (r : Reading) : Prop :=
  r.taken ≠ [] ∨ ∃ error, r.ending = .rejected error true

theorem token_covers (c : Char) (rest : List Atom) :
    (token c rest).1.Covers (.char c :: rest) ∧ (token c rest).1.Advances := by
  have single_covers : ∀ kind, (single kind rest).Covers rest := fun kind => by
    simp [single, Reading.Covers]
  have extend : ∀ {r : Reading}, r.Covers rest → (r.after [c]).Covers (.char c :: rest) ∧
      (r.after [c]).Advances := fun covers => ⟨covers.after [c], .inl (by simp [Reading.after])⟩
  unfold token
  repeat' split
  · exact ⟨name_covers c rest, .inl (by simp [name])⟩
  · exact extend (negative_covers rest)
  · refine ⟨number_covers c rest, .inl ?_⟩
    unfold number
    split <;> simp [Reading.after]
  · exact ⟨by simp [Reading.Covers], .inr ⟨_, rfl⟩⟩
  · exact extend (rawString_covers rest)
  · exact extend (quotedString_covers _ rest)
  · exact extend (fraction_covers rest)
  · exact extend (single_covers _)
  · exact extend (slash_covers rest)
  · exact extend (single_covers _)
  · exact extend (single_covers _)
  · exact ⟨by simp [Reading.Covers], .inr ⟨_, rfl⟩⟩

theorem front_reading {closable : Bool} {atoms : List Atom} {r : Reading} {closing : Closing}
    (found : front closable atoms = .reading r closing) :
    r.Covers atoms ∧ r.Advances ∧ atoms ≠ [] := by
  unfold front at found
  split at found
  · split at found <;> cases found
  · cases found
    exact ⟨by simp [Reading.Covers], .inr ⟨_, rfl⟩, by simp⟩
  · split at found
    · cases found
      exact ⟨by simp [Reading.Covers], .inr ⟨_, rfl⟩, by simp⟩
    · split at found
      · cases found
      · cases found
        exact ⟨(token_covers _ _).1, (token_covers _ _).2, by simp⟩

theorem front_terminator {closable : Bool} {atoms : List Atom}
    (found : front closable atoms = .terminator) : closable = true := by
  unfold front at found
  repeat' split at found
  all_goals simp_all

end WireSchema.Scan

import WireSchema.Proofs.Text.LineEnds
import WireSchema.Proofs.Token.Local

-- Where the lines of a source end, and where that is with a carriage return in front of every newline: the column of
-- the newline is one more, and every other character stays where it is.
namespace WireSchema
open Text

namespace Place

def lineEnds (p : Place) : List Atom → List Place
  | [] => []
  | atom :: rest => (if atom = .char '\n' then [p] else []) ++ lineEnds (p.pastFront [atom]) rest

theorem pastFront_cons (p : Place) (atom : Atom) (rest : List Atom) :
    p.pastFront (atom :: rest) = p.pastFront [atom] := by cases atom <;> rfl

theorem pastFront_feed (p : Place) : p.pastFront [.char '\n'] = ⟨p.line + 1, 1⟩ := rfl

theorem pastFront_other (p : Place) {atom : Atom} (other : atom ≠ .char '\n') :
    p.pastFront [atom] = ⟨p.line, p.column + 1⟩ := by
  cases atom with
  | stray byte => rfl
  | char c =>
    have other : c ≠ '\n' := fun same => other (congrArg Atom.char same)
    simp [pastFront, past, other]

theorem pastAll_append (p : Place) (front text : List Char) :
    p.pastAll (front ++ text) = (p.pastAll front).pastAll text :=
  List.foldl_append

theorem pastAll_returned (p : Place) (text : List Char) : p.pastAll (insertBefore '\n' '\r' text) = p.pastAll text := by
  induction text generalizing p with
  | nil => rfl
  | cons c rest ih =>
    by_cases feed : c = '\n'
    · subst feed
      rw [insertBefore_mark]
      exact ih _
    · rw [insertBefore_cons feed]
      exact ih _

theorem lineEnds_after {p e : Place} {atoms : List Atom} (member : e ∈ lineEnds p atoms) :
    p.line < e.line ∨ p.line = e.line ∧ p.column ≤ e.column := by
  induction atoms generalizing p with
  | nil => cases member
  | cons atom rest ih =>
    rcases List.mem_append.mp member with here | later
    · split at here
      · rw [List.mem_singleton.mp here]
        exact .inr ⟨rfl, Nat.le_refl _⟩
      · cases here
    · have behind := ih later
      by_cases feed : atom = .char '\n'
      · subst feed
        rw [pastFront_feed] at behind
        simp only at behind
        omega
      · rw [pastFront_other p feed] at behind
        simp only at behind
        omega

end Place

structure Stands (ends : List Place) (p : Place) (ahead : List Atom) : Prop where
  behind : ∀ e ∈ ends, e.line < p.line ∨ e ∈ p.lineEnds ahead
  before : ∀ e ∈ p.lineEnds ahead, e ∈ ends

namespace Stands
variable {ends : List Place} {p : Place} {atom : Atom} {rest ahead : List Atom}

theorem start (p : Place) (ahead : List Atom) : Stands (p.lineEnds ahead) p ahead := ⟨fun _ => .inr, fun _ => id⟩

theorem past (stands : Stands ends p (atom :: rest)) : Stands ends (p.pastFront [atom]) rest := by
  constructor
  · intro e member
    by_cases feed : atom = .char '\n'
    · subst feed
      rw [Place.pastFront_feed]
      rcases stands.behind e member with earlier | here
      · exact .inl (by simp only; omega)
      · rcases List.mem_append.mp here with same | later
        · rw [List.mem_singleton.mp same]
          exact .inl (Nat.lt_succ_self _)
        · exact .inr later
    · rcases stands.behind e member with earlier | here
      · rw [Place.pastFront_other p feed]
        exact .inl earlier
      · exact .inr (by simpa [Place.lineEnds, feed] using here)
  · intro e member
    exact stands.before e (List.mem_append_right _ member)

theorem pastAll {text : List Char} (stands : Stands ends p (text.map .char ++ rest)) :
    Stands ends (p.pastAll text) rest := by
  induction text generalizing p with
  | nil => exact stands
  | cons c text ih => exact ih stands.past

theorem finished (stands : Stands ends p []) : Stands ends ⟨p.line, p.column + 1⟩ [] := by
  constructor
  · intro e member
    rcases stands.behind e member with earlier | here
    · exact .inl earlier
    · cases here
  · intro e member
    cases member

theorem pastFront (stands : Stands ends p ahead) : Stands ends (p.pastFront ahead) ahead.tail := by
  cases ahead with
  | nil => exact stands.finished
  | cons atom rest =>
    rw [Place.pastFront_cons]
    exact stands.past

theorem column_le (stands : Stands ends p ahead) {e : Place} (member : e ∈ ends) (line : e.line = p.line) :
    p.column ≤ e.column := by
  rcases stands.behind e member with earlier | here
  · omega
  · have := Place.lineEnds_after here
    omega

theorem ends_iff (stands : Stands ends p ahead) : p ∈ ends ↔ ahead.head? = some (.char '\n') := by
  constructor
  · intro member
    rcases stands.behind p member with earlier | here
    · exact absurd earlier (Nat.lt_irrefl _)
    · cases ahead with
      | nil => cases here
      | cons atom rest =>
        rcases List.mem_append.mp here with same | later
        · by_cases feed : atom = .char '\n'
          · rw [feed]
            rfl
          · simp [feed] at same
        · have := Place.lineEnds_after later
          by_cases feed : atom = .char '\n'
          · rw [feed]
            rfl
          · rw [Place.pastFront_other p feed] at this
            simp only at this
            omega
  · intro feed
    cases ahead with
    | nil => cases feed
    | cons atom rest =>
      cases feed
      exact stands.before p (by simp [Place.lineEnds])

end Stands

namespace Position

def place (p : Position) : Place := ⟨p.line, p.column⟩

-- Where a carriage return in front of every newline moves what stands at a position: by a column if it is a newline.
def returned (ends : List Place) (p : Position) : Position :=
  if p.place ∈ ends then { p with column := p.column + 1 } else p

def Within (ends : List Place) (p : Position) : Prop := ∀ e ∈ ends, e.line = p.line → p.column ≤ e.column

theorem returned_line (ends : List Place) (p : Position) : (p.returned ends).line = p.line := by
  unfold returned
  split <;> rfl

theorem returned_column {ends : List Place} {p q : Position} (here : p.Within ends) (there : q.Within ends)
    (line : p.line = q.line) :
    compare (p.returned ends).column (q.returned ends).column = compare p.column q.column := by
  unfold returned
  by_cases one : p.place ∈ ends <;> by_cases two : q.place ∈ ends
  · simp only [one, two, if_true]
    rw [Nat.compare_eq_ite_lt, Nat.compare_eq_ite_lt]
    simp
  · have below := there p.place one line
    have apart : q.column ≠ p.column := fun same => two (by rwa [place, ← line, same])
    have below : q.column ≤ p.column := below
    simp only [one, two, if_true, if_false]
    rw [Nat.compare_eq_gt.mpr (by omega), Nat.compare_eq_gt.mpr (by omega)]
  · have above := here q.place two line.symm
    have apart : p.column ≠ q.column := fun same => one (by rwa [place, line, same])
    have above : p.column ≤ q.column := above
    simp only [one, two, if_true, if_false]
    rw [Nat.compare_eq_lt.mpr (by omega), Nat.compare_eq_lt.mpr (by omega)]
  · simp only [one, two, if_false]

theorem returned_atMost {ends : List Place} {p q : Position} (here : p.Within ends) (there : q.Within ends) :
    (p.returned ends).atMost (q.returned ends) = p.atMost q := by
  have file : ∀ p : Position, (p.returned ends).file = p.file := by
    intro p
    unfold returned
    split <;> rfl
  unfold atMost order
  rw [file, file, returned_line, returned_line]
  by_cases line : p.line = q.line
  · rw [returned_column here there line]
  · have apart : compare p.line q.line ≠ .eq := fun same => line (Nat.compare_eq_eq.mp same)
    cases lines : compare p.line q.line with
    | eq => exact absurd lines apart
    | lt => rfl
    | gt => rfl

end Position
end WireSchema

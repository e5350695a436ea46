import Mathlib.Data.String.Basic
import Mathlib.Order.Compare
import WireSchema.Position

-- The order of findings: by file, by line and by column.
namespace WireSchema

def Position.AtMost (a b : Position) : Prop :=
  a.file < b.file ∨ a.file = b.file ∧ (a.line < b.line ∨ a.line = b.line ∧ a.column ≤ b.column)

namespace Position
variable {a b c : Position}

theorem atMost_iff : a.atMost b = true ↔ a.AtMost b := by
  have names : compare a.file b.file = .lt ↔ a.file < b.file := compare_lt_iff_lt
  have same : compare a.file b.file = .eq ↔ a.file = b.file := compare_eq_iff_eq
  rw [atMost, order, Ordering.isLE_then_iff_or, Ordering.isLE_then_iff_or, names, same, Nat.compare_eq_lt,
    Nat.compare_eq_eq, Nat.isLE_compare]
  rfl

theorem AtMost.trans (first : a.AtMost b) (second : b.AtMost c) : a.AtMost c := by
  rcases first with below | ⟨same, first⟩
  · rcases second with later | ⟨same, _⟩
    · exact .inl (lt_trans below later)
    · exact .inl (same ▸ below)
  · rcases second with below | ⟨again, second⟩
    · exact .inl (same ▸ below)
    · exact .inr ⟨same.trans again, by omega⟩

theorem AtMost.total (a b : Position) : a.AtMost b ∨ b.AtMost a := by
  rcases lt_trichotomy a.file b.file with below | same | above
  · exact .inl (.inl below)
  · rcases Nat.lt_trichotomy a.line b.line with upper | line | lower
    · exact .inl (.inr ⟨same, .inl upper⟩)
    · rcases Nat.le_total a.column b.column with before | after
      · exact .inl (.inr ⟨same, .inr ⟨line, before⟩⟩)
      · exact .inr (.inr ⟨same.symm, .inr ⟨line.symm, after⟩⟩)
    · exact .inr (.inr ⟨same.symm, .inl lower⟩)
  · exact .inr (.inl above)

end Position

namespace Findings
variable {α : Type}

theorem sort_eq_nil {findings : Findings α} : findings.sort = [] ↔ findings = [] := by
  rw [sort, ← List.length_eq_zero_iff, List.length_mergeSort, List.length_eq_zero_iff]

theorem sort_perm (findings : Findings α) : findings.sort.Perm findings := List.mergeSort_perm _ _

theorem sort_ordered (findings : Findings α) : findings.sort.Pairwise fun a b => a.position.AtMost b.position := by
  have trans : ∀ a b c : Located α, a.position.atMost b.position = true → b.position.atMost c.position = true →
      a.position.atMost c.position = true := by
    intro a b c first second
    rw [Position.atMost_iff] at first second ⊢
    exact first.trans second
  have total : ∀ a b : Located α, (a.position.atMost b.position || b.position.atMost a.position) = true := by
    intro a b
    simpa [Position.atMost_iff] using Position.AtMost.total a.position b.position
  exact (List.pairwise_mergeSort trans total findings).imp Position.atMost_iff.mp

end Findings
end WireSchema

import Mathlib.Algebra.Group.Nat.Defs
import WireSchema.Text.Writing

-- Decimal numerals are read as the numbers that they were written for.
namespace WireSchema.Text.Decimal

theorem digit_value : ∀ n < 10, digitValue? (digit n) = some n ∧ isDigitOf 10 (digit n) = true ∧
    isLetter (digit n) = false ∧ (digit n = '0' → n = 0) := by decide

theorem digit_ascii : ∀ n < 10, (digit n).toNat < 0x80 := by decide

theorem isDigit_digit {c : Char} (isDigit : isDigitOf 10 c = true) : ∃ n < 10, c = digit n := by
  unfold isDigitOf digitValue? at isDigit
  split at isDigit
  · rename_i value found
    have small : value < 10 := of_decide_eq_true isDigit
    split at found
    · rename_i among
      cases found
      have low : '0'.toNat ≤ c.toNat := among.1
      refine ⟨_, small, ?_⟩
      rw [digit, Nat.add_sub_cancel' low, Char.ofNat_toNat]
    · split at found
      · cases found
        omega
      · split at found
        · cases found
          omega
        · cases found
  · cases isDigit

theorem letter_undigit {c : Char} (letter : isLetter c = true) : isDigitOf 10 c = false := by
  cases isDigit : isDigitOf 10 c with
  | false => rfl
  | true =>
    obtain ⟨n, small, rfl⟩ := isDigit_digit isDigit
    rw [(digit_value n small).2.2.1] at letter
    cases letter

theorem digit_ne {c : Char} (digit : isDigitOf 10 c = true) (d : Char) (undigit : isDigitOf 10 d = false) : c ≠ d := by
  rintro rfl
  exact Bool.false_ne_true (undigit.symm.trans digit)

theorem digits_small {n : Nat} (small : n < 10) : digits n = [digit n] := by rw [digits, if_pos small]

theorem digits_large {n : Nat} (large : ¬ n < 10) : digits n = digits (n / 10) ++ [digit (n % 10)] := by
  rw [digits, if_neg large]

theorem digits_among (n : Nat) : ∀ c ∈ digits n, ∃ m < 10, c = digit m := by
  induction n using digits.induct with
  | case1 n small =>
    rw [digits_small small]
    simpa using ⟨n, small, rfl⟩
  | case2 n large ih =>
    rw [digits_large large, List.forall_mem_append]
    exact ⟨ih, by simpa using ⟨n % 10, Nat.mod_lt n (by decide), rfl⟩⟩

theorem digits_digit (n : Nat) : ∀ c ∈ digits n, isDigitOf 10 c = true := by
  intro c member
  obtain ⟨m, small, rfl⟩ := digits_among n c member
  exact (digit_value m small).2.1

theorem digits_ascii (n : Nat) : ∀ c ∈ digits n, c.toNat < 0x80 := by
  intro c member
  obtain ⟨m, small, rfl⟩ := digits_among n c member
  exact digit_ascii m small

theorem digits_first {n : Nat} (positive : 0 < n) :
    ∃ first rest, digits n = first :: rest ∧ first ≠ '0' ∧ isLetter first = false := by
  induction n using digits.induct with
  | case1 n small =>
    have facts := (digit_value n small).2.2
    exact ⟨digit n, [], digits_small small, fun zero => by have := facts.2 zero; omega, facts.1⟩
  | case2 n large ih =>
    obtain ⟨first, rest, written, nonzero, unlettered⟩ := ih (by omega)
    exact ⟨first, rest ++ [digit (n % 10)], by rw [digits_large large, written]; rfl, nonzero, unlettered⟩

theorem value_concat (numeral : List Char) (c : Char) :
    value (numeral ++ [c]) = value numeral * 10 + (digitValue? c).getD 0 := by
  simp [value]

theorem value_digits (n : Nat) : value (digits n) = n := by
  induction n using digits.induct with
  | case1 n small => simp [digits_small small, value, (digit_value n small).1]
  | case2 n large ih =>
    rw [digits_large large, value_concat, ih, (digit_value (n % 10) (Nat.mod_lt n (by decide))).1, Option.getD_some]
    omega

theorem natural?_digits (n : Nat) : natural? (digits n) = some n := by
  have some : (digits n).isEmpty = false := by
    unfold digits
    split <;> simp
  simp [natural?, some, List.all_eq_true.mpr (digits_digit n), value_digits]

theorem digits_length {n places : Nat} (some : 0 < places) (bound : n < 10 ^ places) : (digits n).length ≤ places := by
  induction n using digits.induct generalizing places with
  | case1 n small =>
    rw [digits_small small]
    exact some
  | case2 n large ih =>
    obtain ⟨more, rfl⟩ := Nat.exists_eq_succ_of_ne_zero (Nat.ne_of_gt some)
    rw [digits_large large, List.length_append, List.length_singleton]
    have shorter : n / 10 < 10 ^ more := by
      rw [Nat.div_lt_iff_lt_mul (by decide), ← Nat.pow_succ]
      exact bound
    have positive : 0 < more := by
      rcases Nat.eq_zero_or_pos more with rfl | positive
      · omega
      · exact positive
    exact Nat.succ_le_succ (ih positive shorter)

theorem text_natural (n : Nat) : (text (n : Int)).toList = digits n := by
  simp [text, ofInt]

end WireSchema.Text.Decimal

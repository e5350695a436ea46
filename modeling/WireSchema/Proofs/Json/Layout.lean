import WireSchema.Json.Layout
import WireSchema.Proofs.Text.Numerals
import WireSchema.Proofs.Text.Quoted

-- The text of a JSON value determines the value, also where more text follows it.
namespace WireSchema
open Text

def Json.Stops (rest : List Char) : Prop := ∀ c ∈ rest.head?, isDigitOf 10 c = false

namespace Text.Decimal
open Json
variable {rest behind : List Char}

theorem takeWhile_digits (n : Nat) (stops : Stops rest) : (digits n ++ rest).takeWhile (isDigitOf 10) = digits n := by
  rw [List.takeWhile_append_of_pos (digits_digit n)]
  cases rest with
  | nil => simp
  | cons c rest => simp [stops c rfl]

theorem digits_unique {n m : Nat} (stops : Stops rest) (other : Stops behind)
    (same : digits n ++ rest = digits m ++ behind) : n = m ∧ rest = behind := by
  have front := congrArg (List.takeWhile (isDigitOf 10)) same
  rw [takeWhile_digits n stops, takeWhile_digits m other] at front
  refine ⟨?_, List.append_cancel_left (front ▸ same)⟩
  rw [← value_digits n, front, value_digits]

theorem digits_first_digit (n : Nat) : ∃ first more, digits n = first :: more ∧ isDigitOf 10 first = true := by
  have all := digits_digit n
  cases spelled : digits n with
  | nil =>
    have read := natural?_digits n
    rw [spelled] at read
    cases read
  | cons first more =>
    rw [spelled] at all
    exact ⟨first, more, rfl, all first List.mem_cons_self⟩

theorem ofInt_first (n : Int) : ∃ first more, ofInt n = first :: more ∧
    (first = '-' ∧ n < 0 ∨ isDigitOf 10 first = true ∧ 0 ≤ n) := by
  obtain ⟨first, more, spelled, isDigit⟩ := digits_first_digit n.natAbs
  unfold ofInt
  by_cases negative : n < 0
  · rw [if_pos negative]
    exact ⟨_, _, rfl, .inl ⟨rfl, negative⟩⟩
  · rw [if_neg negative]
    exact ⟨first, more, spelled, .inr ⟨isDigit, by omega⟩⟩

theorem ofInt_unique {n m : Int} (stops : Stops rest) (other : Stops behind)
    (same : ofInt n ++ rest = ofInt m ++ behind) : n = m ∧ rest = behind := by
  have signs : n < 0 ↔ m < 0 := by
    obtain ⟨first, _, ofFirst, ofSign⟩ := ofInt_first n
    obtain ⟨second, _, ofSecond, otherSign⟩ := ofInt_first m
    rw [ofFirst, ofSecond] at same
    obtain rfl : first = second := (List.cons.inj same).1
    rcases ofSign with ⟨rfl, negative⟩ | ⟨isDigit, positive⟩ <;>
      rcases otherSign with ⟨minus, otherNegative⟩ | ⟨otherDigit, otherPositive⟩
    · exact iff_of_true negative otherNegative
    · cases otherDigit
    · subst minus
      cases isDigit
    · exact iff_of_false (by omega) (by omega)
  unfold ofInt at same
  by_cases negative : n < 0
  · rw [if_pos negative, if_pos (signs.mp negative)] at same
    obtain ⟨absolute, rests⟩ := digits_unique stops other (List.cons.inj same).2
    exact ⟨by omega, rests⟩
  · have positive : ¬ m < 0 := fun less => negative (signs.mpr less)
    rw [if_neg negative, if_neg positive] at same
    obtain ⟨absolute, rests⟩ := digits_unique stops other same
    exact ⟨by omega, rests⟩

end Text.Decimal

namespace Json
variable {a b : Json} {depth : Nat} {rest behind : List Char}

inductive Form where
  | null
  | bool (value : Bool)
  | number | string | array | object
deriving DecidableEq

def Form.ofFirst (c : Char) : Form :=
  if c = 'n' then .null
  else if c = 't' then .bool true
  else if c = 'f' then .bool false
  else if c = '"' then .string
  else if c = '[' then .array
  else if c = '\x7b' then .object
  else .number

def form : Json → Form
  | .null => .null
  | .bool value => .bool value
  | .number _ => .number
  | .string _ => .string
  | .array _ => .array
  | .object _ => .object

theorem ofFirst_number {c : Char} (number : c = '-' ∨ isDigitOf 10 c = true) : Form.ofFirst c = .number := by
  rcases number with rfl | isDigit
  · rfl
  · have apart := Decimal.digit_ne isDigit
    simp [Form.ofFirst, apart 'n' rfl, apart 't' rfl, apart 'f' rfl, apart '"' rfl, apart '[' rfl, apart '\x7b' rfl]

theorem layout_first (depth : Nat) (a : Json) :
    ∃ first more, layout depth a = first :: more ∧ Form.ofFirst first = a.form := by
  cases a with
  | null => exact ⟨_, _, by rw [layout], rfl⟩
  | bool value => cases value <;> exact ⟨_, _, by rw [layout], rfl⟩
  | number n =>
    obtain ⟨first, more, spelled, number⟩ := Decimal.ofInt_first n
    exact ⟨first, more, by rw [layout, spelled], ofFirst_number (number.imp And.left And.left)⟩
  | string text => exact ⟨'"', _, by rw [layout, Quoted.encode], rfl⟩
  | array items => cases items <;> exact ⟨'[', _, by rw [layout], rfl⟩
  | object members => rcases members with _ | ⟨⟨key, value⟩, members⟩ <;> exact ⟨'\x7b', _, by rw [layout], rfl⟩

theorem layout_form (same : layout depth a ++ rest = layout depth b ++ behind) : a.form = b.form := by
  obtain ⟨first, _, ofFirst, isFirst⟩ := layout_first depth a
  obtain ⟨second, _, ofSecond, isSecond⟩ := layout_first depth b
  rw [ofFirst, ofSecond] at same
  rw [← isFirst, ← isSecond, (List.cons.inj same).1]

def Closes (rest : List Char) : Prop := rest.head? = some '\n'

theorem Closes.stops (closes : Closes rest) : Stops rest := by
  intro c first
  rw [closes] at first
  cases first
  rfl

theorem indent_closes (depth : Nat) (rest : List Char) : Closes (indent depth ++ rest) := rfl

theorem layoutItems_stops (depth : Nat) (items : List Json) (closes : Closes rest) :
    Stops (layoutItems depth items ++ rest) := by
  cases items with
  | nil => exact closes.stops
  | cons item items =>
    intro c first
    cases first
    rfl

theorem layoutMembers_stops (depth : Nat) (members : List (String × Json)) (closes : Closes rest) :
    Stops (layoutMembers depth members ++ rest) := by
  rcases members with _ | ⟨⟨key, value⟩, members⟩
  · exact closes.stops
  · intro c first
    cases first
    rfl

mutual

theorem layout_unique {depth : Nat} {rest behind : List Char} : ∀ a b : Json, Stops rest → Stops behind →
    layout depth a ++ rest = layout depth b ++ behind → a = b ∧ rest = behind
  | .null, b, stops, other, same => by
    have form := layout_form same
    cases b <;> cases form
    exact ⟨rfl, List.append_cancel_left same⟩
  | .bool value, b, stops, other, same => by
    have form := layout_form same
    cases b <;> cases form
    exact ⟨rfl, List.append_cancel_left same⟩
  | .number n, b, stops, other, same => by
    have form := layout_form same
    cases b <;> cases form
    rw [layout, layout] at same
    obtain ⟨number, rests⟩ := Decimal.ofInt_unique stops other same
    exact ⟨congrArg _ number, rests⟩
  | .string text, b, stops, other, same => by
    have form := layout_form same
    cases b <;> cases form
    rw [layout, layout] at same
    obtain ⟨letters, rests⟩ := Quoted.encode_unique same
    exact ⟨congrArg _ (String.toList_inj.mp letters), rests⟩
  | .array [], b, stops, other, same => by
    have form := layout_form same
    rcases b with _ | _ | _ | _ | (_ | ⟨first, others⟩) | _ <;> cases form
    · exact ⟨rfl, List.append_cancel_left same⟩
    · rw [layout, layout] at same
      cases same
  | .array (item :: items), b, stops, other, same => by
    have form := layout_form same
    rcases b with _ | _ | _ | _ | (_ | ⟨first, others⟩) | _ <;> cases form
    · rw [layout, layout] at same
      cases same
    · rw [layout, layout] at same
      simp only [List.cons_append, List.append_assoc, List.nil_append, List.cons.injEq, true_and,
        List.append_cancel_left_eq] at same
      obtain ⟨rfl, later⟩ := layout_unique item first (layoutItems_stops _ items (indent_closes _ _))
        (layoutItems_stops _ others (indent_closes _ _)) same
      obtain ⟨rfl, closing⟩ := layoutItems_unique items others (indent_closes _ _) (indent_closes _ _) later
      exact ⟨rfl, (List.cons.inj (List.append_cancel_left closing)).2⟩
  | .object [], b, stops, other, same => by
    have form := layout_form same
    rcases b with _ | _ | _ | _ | _ | (_ | ⟨⟨key, first⟩, others⟩) <;> cases form
    · exact ⟨rfl, List.append_cancel_left same⟩
    · rw [layout, layout] at same
      cases same
  | .object ((key, value) :: members), b, stops, other, same => by
    have form := layout_form same
    rcases b with _ | _ | _ | _ | _ | (_ | ⟨⟨name, first⟩, others⟩) <;> cases form
    · rw [layout, layout] at same
      cases same
    · rw [layout, layout] at same
      simp only [List.cons_append, List.append_assoc, List.nil_append, List.cons.injEq, true_and,
        List.append_cancel_left_eq] at same
      obtain ⟨keys, values⟩ := Quoted.encode_unique same
      obtain rfl := String.toList_inj.mp keys
      simp only [List.cons.injEq, true_and] at values
      obtain ⟨rfl, later⟩ := layout_unique value first (layoutMembers_stops _ members (indent_closes _ _))
        (layoutMembers_stops _ others (indent_closes _ _)) values
      obtain ⟨rfl, closing⟩ := layoutMembers_unique members others (indent_closes _ _) (indent_closes _ _) later
      exact ⟨rfl, (List.cons.inj (List.append_cancel_left closing)).2⟩

theorem layoutItems_unique {depth : Nat} {rest behind : List Char} : ∀ items others : List Json, Closes rest →
    Closes behind → layoutItems depth items ++ rest = layoutItems depth others ++ behind →
    items = others ∧ rest = behind
  | [], [], closes, other, same => ⟨rfl, by simpa [layoutItems] using same⟩
  | [], _ :: _, closes, other, same => by
    rw [layoutItems, List.nil_append] at same
    rw [same] at closes
    cases closes
  | _ :: _, [], closes, other, same => by
    rw [layoutItems.eq_1, List.nil_append] at same
    rw [← same] at other
    cases other
  | item :: items, first :: others, closes, other, same => by
    rw [layoutItems, layoutItems] at same
    simp only [List.cons_append, List.append_assoc, List.cons.injEq, true_and, List.append_cancel_left_eq] at same
    obtain ⟨rfl, later⟩ := layout_unique item first (layoutItems_stops _ items closes)
      (layoutItems_stops _ others other) same
    obtain ⟨rfl, rests⟩ := layoutItems_unique items others closes other later
    exact ⟨rfl, rests⟩

theorem layoutMembers_unique {depth : Nat} {rest behind : List Char} : ∀ members others : List (String × Json),
    Closes rest → Closes behind → layoutMembers depth members ++ rest = layoutMembers depth others ++ behind →
    members = others ∧ rest = behind
  | [], [], closes, other, same => ⟨rfl, by simpa [layoutMembers] using same⟩
  | [], _ :: _, closes, other, same => by
    rw [layoutMembers, List.nil_append] at same
    rw [same] at closes
    cases closes
  | _ :: _, [], closes, other, same => by
    rw [layoutMembers.eq_1, List.nil_append] at same
    rw [← same] at other
    cases other
  | (key, value) :: members, (name, first) :: others, closes, other, same => by
    rw [layoutMembers, layoutMembers] at same
    simp only [List.cons_append, List.append_assoc, List.cons.injEq, true_and, List.append_cancel_left_eq] at same
    obtain ⟨keys, values⟩ := Quoted.encode_unique same
    obtain rfl := String.toList_inj.mp keys
    simp only [List.nil_append, List.cons.injEq, true_and] at values
    obtain ⟨rfl, later⟩ := layout_unique value first (layoutMembers_stops _ members closes)
      (layoutMembers_stops _ others other) values
    obtain ⟨rfl, rests⟩ := layoutMembers_unique members others closes other later
    exact ⟨rfl, rests⟩

end

theorem text_injective : Function.Injective text := by
  intro a b same
  have letters : layout 0 a ++ [] = layout 0 b ++ [] := by
    simpa [text] using congrArg String.toList same
  exact (layout_unique a b (by simp [Stops]) (by simp [Stops]) letters).1

end Json
end WireSchema

import WireSchema.Proofs.Text.Decoding
import WireSchema.Token.Stream

-- Sources whose lines end with a carriage return and a newline, against those whose lines end with a newline alone.
namespace WireSchema.Text

def insertBefore {α : Type} [DecidableEq α] (mark inserted : α) (text : List α) : List α :=
  text.flatMap fun a => if a = mark then [inserted, a] else [a]

section InsertBefore
variable {α : Type} [DecidableEq α] {mark inserted : α}

@[simp] theorem insertBefore_nil : insertBefore mark inserted [] = [] := rfl

@[simp] theorem insertBefore_mark (rest : List α) :
    insertBefore mark inserted (mark :: rest) = inserted :: mark :: insertBefore mark inserted rest := by
  simp [insertBefore]

theorem insertBefore_cons {a : α} (other : a ≠ mark) (rest : List α) :
    insertBefore mark inserted (a :: rest) = a :: insertBefore mark inserted rest := by
  simp [insertBefore, other]

theorem insertBefore_append (front rest : List α) : insertBefore mark inserted (front ++ rest) =
    insertBefore mark inserted front ++ insertBefore mark inserted rest := List.flatMap_append

theorem insertBefore_unmarked {text : List α} (none : mark ∉ text) : insertBefore mark inserted text = text := by
  induction text with
  | nil => rfl
  | cons a rest ih =>
    obtain ⟨other, later⟩ := not_or.mp fun found => none (List.mem_cons.mpr found)
    rw [insertBefore_cons (Ne.symm other), ih later]

theorem insertBefore_length (text : List α) :
    (insertBefore mark inserted text).length = text.length + text.count mark := by
  induction text with
  | nil => rfl
  | cons a rest ih =>
    by_cases here : a = mark
    · subst here
      rw [insertBefore_mark, List.length_cons, List.length_cons, List.length_cons, List.count_cons_self, ih]
      omega
    · rw [insertBefore_cons here, List.length_cons, List.length_cons, List.count_cons_of_ne here, ih]
      omega

end InsertBefore

def returned (atoms : List Atom) : List Atom := insertBefore (.char '\n') (.char '\r') atoms

@[simp] theorem returned_nil : returned [] = [] := rfl

@[simp] theorem returned_feed (rest : List Atom) :
    returned (.char '\n' :: rest) = .char '\r' :: .char '\n' :: returned rest := insertBefore_mark rest

theorem returned_cons {atom : Atom} (other : atom ≠ .char '\n') (rest : List Atom) :
    returned (atom :: rest) = atom :: returned rest := insertBefore_cons other rest

theorem returned_chars (text : List Char) : returned (text.map .char) = (insertBefore '\n' '\r' text).map .char := by
  induction text with
  | nil => rfl
  | cons c rest ih =>
    by_cases feed : c = '\n'
    · subst feed
      rw [List.map_cons, returned_feed, insertBefore_mark, ih]
      rfl
    · rw [List.map_cons, returned_cons (by simpa using feed), insertBefore_cons feed, ih]
      rfl

section Decoding

theorem takeWhile_returned (bytes : List UInt8) :
    (insertBefore 10 13 bytes).takeWhile continues = bytes.takeWhile continues := by
  induction bytes with
  | nil => rfl
  | cons b rest ih =>
    by_cases feed : b = 10
    · subst feed
      rfl
    · rw [insertBefore_cons feed, List.takeWhile_cons, List.takeWhile_cons, ih]

theorem leading?_feed (rest : List UInt8) : leading? 10 rest = some ('\n', 0) := rfl

theorem leading?_other {byte : UInt8} {rest : List UInt8} {c : Char} {more : Nat} (other : byte ≠ 10)
    (found : leading? byte rest = some (c, more)) : c ≠ '\n' := by
  rintro rfl
  obtain ⟨_, code⟩ := leading?_parts found
  split at code
  · exact other (UInt8.toNat_inj.mp code.1.symm)
  · exact absurd code (by decide)

theorem decodeAfter_returned {skip : Nat} {bytes : List UInt8} (inside : skip ≤ (bytes.takeWhile continues).length) :
    decodeAfter skip (insertBefore 10 13 bytes) = returned (decodeAfter skip bytes) := by
  fun_induction decodeAfter skip bytes with
  | case1 skip => simp [decodeAfter]
  | case2 skip byte rest ih =>
    cases go : continues byte with
    | false => simp [go] at inside
    | true =>
      have other : byte ≠ 10 := by
        rintro rfl
        cases go
      rw [insertBefore_cons other, decodeAfter]
      exact ih (by simpa [go] using inside)
  | case3 byte rest c more found ih =>
    have behind := ih (leading?_continues found)
    by_cases feed : byte = 10
    · subst feed
      cases (leading?_feed rest).symm.trans found
      rw [insertBefore_mark, returned_feed, ← behind]
      rfl
    · rw [insertBefore_cons feed, decodeAfter, leading?_congr (takeWhile_returned rest), found,
        returned_cons (by simpa using leading?_other feed found), ← behind]
  | case4 byte rest found ih =>
    have other : byte ≠ 10 := by
      rintro rfl
      cases found
    rw [insertBefore_cons other, decodeAfter, leading?_congr (takeWhile_returned rest), found,
      returned_cons (by simp), ← ih (Nat.zero_le _)]

theorem decode_returned (bytes : List UInt8) : decode (insertBefore 10 13 bytes) = returned (decode bytes) :=
  decodeAfter_returned (Nat.zero_le _)

end Decoding

end WireSchema.Text

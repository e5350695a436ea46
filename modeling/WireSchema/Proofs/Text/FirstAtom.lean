import Mathlib.Data.List.Forall2
import WireSchema.Proofs.Text.Bytes

-- Decoding a source atom by atom. A character is read where its bytes stand, as the standard writes them, and where no
-- character's bytes stand one byte is passed over.
namespace WireSchema.Text

def InRange (range : Nat × Nat) (byte : UInt8) : Prop := range.1 ≤ byte.toNat ∧ byte.toNat ≤ range.2

def IsWellFormed (bytes : List UInt8) : Prop := ∃ ranges ∈ sequences, List.Forall₂ InRange ranges bytes

inductive Reads : List UInt8 → List Atom → Prop where
  | nil : Reads [] []
  | char (c : Char) {rest : List UInt8} {atoms : List Atom} :
      Reads rest atoms → Reads (encodeChar c ++ rest) (.char c :: atoms)
  | stray {byte : UInt8} {rest : List UInt8} {atoms : List Atom} :
      (∀ c, ¬ encodeChar c <+: byte :: rest) → Reads rest atoms → Reads (byte :: rest) (.stray byte :: atoms)

section Encoding

theorem encodeChar_eq : encodeChar = String.utf8EncodeChar := by
  funext c
  have bound := char_bound c
  have value : c.val.toNat = c.toNat := rfl
  have byte : ∀ {m n : Nat} {front back : List UInt8}, m = n → front = back →
      UInt8.ofNat m :: front = UInt8.ofNat n :: back := fun same others => by rw [same, others]
  simp only [encodeChar, String.utf8EncodeChar, value]
  split
  · rw [if_pos (by omega)]
  split
  · rw [if_neg (by omega), if_pos (by omega)]
    exact byte (by omega) (byte (by omega) rfl)
  split
  · rw [if_neg (by omega), if_neg (by omega), if_pos (by omega)]
    exact byte (by omega) (byte (by omega) (byte (by omega) rfl))
  · rw [if_neg (by omega), if_neg (by omega), if_neg (by omega)]
    exact byte (by omega) (byte (by omega) (byte (by omega) (byte (by omega) rfl)))

theorem wellFormed_encodeChar (c : Char) : IsWellFormed (encodeChar c) := by
  have bound := char_bound c
  have valid : c.toNat < 0xD800 ∨ 0xDFFF < c.toNat := c.valid.imp id And.left
  unfold encodeChar
  dsimp only
  -- each case asks for the one row of the table that the number of bytes and the code point leave
  split_ifs <;>
    simp only [IsWellFormed, sequences, List.mem_cons, List.not_mem_nil, or_false, exists_eq_or_imp, exists_eq_left,
      List.forall₂_cons, List.forall₂_nil_left_iff, List.forall₂_nil_right_iff, InRange, UInt8.toNat_ofNat',
      reduceCtorEq, and_false, and_true, false_or]
  all_goals omega

theorem exists_code (code : Nat) (valid : code < 0xD800 ∨ 0xDFFF < code ∧ code < 0x110000) : ∃ c : Char, c.toNat = code :=
  ⟨.ofNatAux code valid, rfl⟩

theorem continuation?_inRange {byte : UInt8} (inside : InRange (0x80, 0xBF) byte) :
    continuation? byte = some (byte.toNat - 0x80) := if_pos ⟨inside.1, Nat.lt_succ_of_le inside.2⟩

-- One row of the table after the other, by the number of bytes.
section Rows
variable {bytes : List UInt8} {low high least most : Nat}

theorem encoded_one (inside : List.Forall₂ InRange [(0x00, 0x7F)] bytes) : ∃ c, encodeChar c = bytes := by
  obtain ⟨byte, _, first, none, rfl⟩ := List.forall₂_cons_left_iff.mp inside
  cases none
  obtain ⟨c, code⟩ := exists_code byte.toNat (by unfold InRange at first; omega)
  exact ⟨c, encodeChar_one (Nat.lt_succ_of_le first.2) code⟩

theorem encoded_two (inside : List.Forall₂ InRange [(0xC2, 0xDF), (0x80, 0xBF)] bytes) : ∃ c, encodeChar c = bytes := by
  obtain ⟨byte, _, first, others, rfl⟩ := List.forall₂_cons_left_iff.mp inside
  obtain ⟨b, _, second, none, rfl⟩ := List.forall₂_cons_left_iff.mp others
  cases none
  have one := continuation?_inRange second
  unfold InRange at first second
  obtain ⟨c, code⟩ := exists_code ((byte.toNat - 0xC0) * 0x40 + (b.toNat - 0x80)) (by omega)
  exact ⟨c, encodeChar_two (by omega) (by omega) (by omega) one code⟩

theorem encoded_three (inside : List.Forall₂ InRange [(low, high), (least, most), (0x80, 0xBF)] bytes)
    (proper : ∀ m n, low ≤ m → m ≤ high → least ≤ n → n ≤ most →
      (0xE0 ≤ m ∧ m < 0xF0) ∧ (0x80 ≤ n ∧ n ≤ 0xBF) ∧ (m = 0xE0 → 0xA0 ≤ n) ∧ (m = 0xED → n < 0xA0)) :
    ∃ c, encodeChar c = bytes := by
  obtain ⟨byte, _, first, others, rfl⟩ := List.forall₂_cons_left_iff.mp inside
  obtain ⟨b, _, second, last, rfl⟩ := List.forall₂_cons_left_iff.mp others
  obtain ⟨b', _, third, none, rfl⟩ := List.forall₂_cons_left_iff.mp last
  cases none
  obtain ⟨lead, next, long, scalar⟩ := proper _ _ first.1 first.2 second.1 second.2
  have one := continuation?_inRange next
  have two := continuation?_inRange third
  unfold InRange at third
  obtain ⟨c, code⟩ := exists_code
    (((byte.toNat - 0xE0) * 0x40 + (b.toNat - 0x80)) * 0x40 + (b'.toNat - 0x80)) (by omega)
  exact ⟨c, encodeChar_three (by omega) lead.1 lead.2 one two code⟩

theorem encoded_four (inside : List.Forall₂ InRange [(low, high), (least, most), (0x80, 0xBF), (0x80, 0xBF)] bytes)
    (proper : ∀ m n, low ≤ m → m ≤ high → least ≤ n → n ≤ most →
      (0xF0 ≤ m ∧ m ≤ 0xF4) ∧ (0x80 ≤ n ∧ n ≤ 0xBF) ∧ (m = 0xF0 → 0x90 ≤ n) ∧ (m = 0xF4 → n < 0x90)) :
    ∃ c, encodeChar c = bytes := by
  obtain ⟨byte, _, first, others, rfl⟩ := List.forall₂_cons_left_iff.mp inside
  obtain ⟨b, _, second, latter, rfl⟩ := List.forall₂_cons_left_iff.mp others
  obtain ⟨b', _, third, last, rfl⟩ := List.forall₂_cons_left_iff.mp latter
  obtain ⟨b'', _, fourth, none, rfl⟩ := List.forall₂_cons_left_iff.mp last
  cases none
  obtain ⟨lead, next, long, scalar⟩ := proper _ _ first.1 first.2 second.1 second.2
  have one := continuation?_inRange next
  have two := continuation?_inRange third
  have three := continuation?_inRange fourth
  unfold InRange at third fourth
  obtain ⟨c, code⟩ := exists_code
    ((((byte.toNat - 0xF0) * 0x40 + (b.toNat - 0x80)) * 0x40 + (b'.toNat - 0x80)) * 0x40 + (b''.toNat - 0x80)) (by omega)
  exact ⟨c, encodeChar_four (by omega) lead.1 one two three code⟩

end Rows

theorem IsWellFormed.encoded {bytes : List UInt8} (proper : IsWellFormed bytes) : ∃ c, encodeChar c = bytes := by
  obtain ⟨ranges, row, inside⟩ := proper
  simp only [sequences, List.mem_cons, List.not_mem_nil, or_false] at row
  rcases row with rfl | rfl | rfl | rfl | rfl | rfl | rfl | rfl | rfl
  · exact encoded_one inside
  · exact encoded_two inside
  · exact encoded_three inside (by omega)
  · exact encoded_three inside (by omega)
  · exact encoded_three inside (by omega)
  · exact encoded_three inside (by omega)
  · exact encoded_four inside (by omega)
  · exact encoded_four inside (by omega)
  · exact encoded_four inside (by omega)

end Encoding

section First
variable {source : List UInt8}

theorem first?_none : first? source = none ↔ source = [] := by
  cases source with
  | nil => exact ⟨fun _ => rfl, fun _ => rfl⟩
  | cons byte rest => simp [first?]

theorem first?_char {c : Char} {n : Nat} :
    first? source = some (.char c, n) ↔ n ≤ source.length ∧ source.take n = encodeChar c := by
  constructor
  · intro read
    cases source with
    | nil => cases read
    | cons byte rest =>
      cases found : leading? byte rest with
      | none => simp [first?, found] at read
      | some parts =>
        obtain ⟨d, more⟩ := parts
        simp only [first?, found, Option.some.injEq, Prod.mk.injEq, Atom.char.injEq] at read
        obtain ⟨rfl, rfl⟩ := read
        exact ⟨Nat.succ_le_succ (leading?_parts found).1, leading?_bytes found⟩
  · rintro ⟨inside, written⟩
    obtain ⟨byte, more, bytes, found⟩ := leading?_encodeChar c (source.drop n)
    have length : n = more.length + 1 := by
      have lengths := congrArg List.length written
      rw [List.length_take, bytes] at lengths
      simpa [Nat.min_eq_left inside] using lengths
    have whole : source = byte :: (more ++ source.drop n) := by
      rw [← List.cons_append, ← bytes, ← written, List.take_append_drop]
    rw [whole, first?, found, length]

theorem first?_written (c : Char) (rest : List UInt8) :
    first? (encodeChar c ++ rest) = some (.char c, (encodeChar c).length) :=
  first?_char.mpr ⟨by simp, List.take_left⟩

theorem first?_stray {byte : UInt8} {n : Nat} : first? source = some (.stray byte, n) ↔
    n = 1 ∧ source.head? = some byte ∧ ∀ c, ¬ encodeChar c <+: source := by
  cases source with
  | nil => simp [first?]
  | cons front rest =>
    cases found : leading? front rest with
    | some parts =>
      obtain ⟨c, more⟩ := parts
      have written : encodeChar c <+: front :: rest :=
        ⟨rest.drop more, by rw [← leading?_bytes found, List.cons_append, List.take_append_drop]⟩
      simp only [first?, found, Option.some.injEq, Prod.mk.injEq, reduceCtorEq, false_and, false_iff]
      exact fun apart => apart.2.2 c written
    | none =>
      have apart : ∀ c, ¬ encodeChar c <+: front :: rest := by
        rintro c ⟨others, same⟩
        have read := first?_written c others
        rw [same, first?, found] at read
        cases read
      simp only [first?, found, Option.some.injEq, Prod.mk.injEq, Atom.stray.injEq, List.head?_cons]
      exact ⟨fun same => ⟨same.2.symm, same.1, apart⟩, fun same => ⟨same.2.1, same.1.symm⟩⟩

end First

section Runs

theorem decodeAfter_skip (skip : Nat) (source : List UInt8) : decodeAfter skip source = decode (source.drop skip) := by
  fun_induction decodeAfter skip source with
  | case1 => simp [decode, decodeAfter]
  | case2 skip byte rest ih => exact ih
  | case3 byte rest c more found ih => rw [List.drop_zero, decode, decodeAfter, found]
  | case4 byte rest found ih => rw [List.drop_zero, decode, decodeAfter, found]

theorem decode_first {source : List UInt8} {atom : Atom} {n : Nat} (read : first? source = some (atom, n)) :
    decode source = atom :: decode (source.drop n) := by
  cases source with
  | nil => cases read
  | cons byte rest =>
    cases found : leading? byte rest with
    | none =>
      simp only [first?, found, Option.some.injEq, Prod.mk.injEq] at read
      obtain ⟨rfl, rfl⟩ := read
      rw [decode, decodeAfter, found]
      rfl
    | some parts =>
      obtain ⟨c, more⟩ := parts
      simp only [first?, found, Option.some.injEq, Prod.mk.injEq] at read
      obtain ⟨rfl, rfl⟩ := read
      rw [List.drop_succ_cons, ← decodeAfter_skip, decode, decodeAfter, found]

theorem decode_written (c : Char) (rest : List UInt8) : decode (encodeChar c ++ rest) = .char c :: decode rest := by
  rw [decode_first (first?_written c rest), List.drop_left]

theorem Reads.decode {source : List UInt8} {atoms : List Atom} (reads : Reads source atoms) : decode source = atoms := by
  induction reads with
  | nil => rfl
  | char c _ ih => rw [decode_written, ih]
  | stray apart _ ih => rw [decode_first (first?_stray.mpr ⟨rfl, rfl, apart⟩), List.drop_one, List.tail_cons, ih]

theorem decodeAfter_reads (skip : Nat) (source : List UInt8) : Reads (source.drop skip) (decodeAfter skip source) := by
  fun_induction decodeAfter skip source with
  | case1 => simpa using Reads.nil
  | case2 skip byte rest ih => exact ih
  | case3 byte rest c more found ih =>
    have whole := Reads.char c ih
    rwa [← leading?_bytes found, List.cons_append, List.take_append_drop] at whole
  | case4 byte rest found ih =>
    have read : first? (byte :: rest) = some (.stray byte, 1) := by rw [first?, found]
    exact .stray (first?_stray.mp read).2.2 ih

theorem decode_reads {source : List UInt8} {atoms : List Atom} : decode source = atoms ↔ Reads source atoms :=
  ⟨fun same => same ▸ decodeAfter_reads 0 source, Reads.decode⟩

end Runs

-- Decoding is exact. A character is read where the bytes that the standard gives it stand and nowhere else, and any other
-- byte is read on its own. From behind what was read it goes on in the same way, so it reads back every text that is
-- written in full.
theorem decode_exact (source : List UInt8) :
    (first? source = none ↔ source = []) ∧
      (∀ c n, first? source = some (.char c, n) ↔ n ≤ source.length ∧ source.take n = String.utf8EncodeChar c) ∧
      (∀ byte n, first? source = some (.stray byte, n) ↔
        n = 1 ∧ source.head? = some byte ∧ ∀ c, ¬ String.utf8EncodeChar c <+: source) ∧
      (∀ bytes, IsWellFormed bytes ↔ ∃ c, String.utf8EncodeChar c = bytes) ∧
      (∀ atom n, first? source = some (atom, n) → decode source = atom :: decode (source.drop n)) ∧
      (∀ atoms, decode source = atoms ↔ Reads source atoms) ∧
      ∀ text : List Char, decode (text.flatMap String.utf8EncodeChar) = text.map .char := by
  rw [← encodeChar_eq]
  refine ⟨first?_none, fun c n => first?_char, fun byte n => first?_stray, fun bytes => ⟨IsWellFormed.encoded, ?_⟩,
    fun atom n => decode_first, fun atoms => decode_reads, decode_encode⟩
  rintro ⟨c, rfl⟩
  exact wellFormed_encodeChar c

end WireSchema.Text

import WireSchema.Text.Encoding

-- Decoding a source piece by piece. A character ends in front of the first byte that does not continue one, so a
-- source may be cut there, and line ends may be rewritten.
namespace WireSchema.Text

def continues (byte : UInt8) : Bool := (continuation? byte).isSome

theorem continuation?_none {byte : UInt8} (ends : continues byte = false) : continuation? byte = none := by
  simpa [continues] using ends

theorem continues_ascii {byte : UInt8} (ascii : byte.toNat < 0x80) : continues byte = false := by
  unfold continues continuation?
  rw [if_neg (by omega)]
  rfl

theorem leading?_takeWhile (byte : UInt8) (rest : List UInt8) :
    leading? byte rest = leading? byte (rest.takeWhile continues) := by
  rcases rest with _ | ⟨b, _ | ⟨b', _ | ⟨b'', rest⟩⟩⟩
  · rfl
  · cases one : continues b
    · simp [leading?, one, continuation?_none one]
    · simp [one]
  · cases one : continues b
    · simp [leading?, one, continuation?_none one]
    · cases two : continues b'
      · simp [leading?, one, two, continuation?_none two]
      · simp [one, two]
  · cases one : continues b
    · simp [leading?, one, continuation?_none one]
    · cases two : continues b'
      · simp [leading?, one, two, continuation?_none two]
      · cases three : continues b''
        · simp [leading?, one, two, three, continuation?_none three]
        · simp [leading?, one, two, three]

theorem leading?_congr {byte : UInt8} {rest other : List UInt8}
    (same : rest.takeWhile continues = other.takeWhile continues) : leading? byte rest = leading? byte other := by
  rw [leading?_takeWhile, same, ← leading?_takeWhile]

theorem scalar?_eq_some {least code : Nat} {c : Char} (found : scalar? least code = some c) :
    c.toNat = code ∧ least ≤ code := by
  unfold scalar? at found
  by_cases valid : code.isValidChar
  · rw [dif_pos valid] at found
    by_cases enough : least ≤ code
    · rw [if_pos enough] at found
      cases found
      exact ⟨rfl, enough⟩
    · rw [if_neg enough] at found
      cases found
  · rw [dif_neg valid] at found
    cases found

theorem leading?_parts {byte : UInt8} {rest : List UInt8} {c : Char} {more : Nat}
    (found : leading? byte rest = some (c, more)) :
    more ≤ rest.length ∧ if byte.toNat < 0x80 then c.toNat = byte.toNat ∧ more = 0 else 0x80 ≤ c.toNat := by
  have long : ∀ {least code bytes : Nat} {d : Char}, 0x80 ≤ least → bytes ≤ rest.length →
      scalar? least code = some d → (d, bytes) = (c, more) → more ≤ rest.length ∧ 0x80 ≤ c.toNat := by
    intro least code bytes d above inside scalar same
    cases same
    obtain ⟨code, enough⟩ := scalar?_eq_some scalar
    exact ⟨inside, by omega⟩
  by_cases ascii : byte.toNat < 0x80
  · simp only [leading?, ascii, if_true, Option.map_eq_some_iff] at found
    obtain ⟨d, scalar, same⟩ := found
    cases same
    simp [ascii, (scalar?_eq_some scalar).1]
  · rw [if_neg ascii]
    simp only [leading?, ascii, if_false] at found
    split at found
    · cases found
    · split at found
      · rcases rest with _ | ⟨b, rest⟩
        · cases found
        · simp only [Option.bind_eq_bind, Option.pure_def, Option.bind_eq_some_iff, Option.some.injEq] at found
          obtain ⟨x, _, d, scalar, same⟩ := found
          exact long (by omega) (by simp) scalar same
      · split at found
        · rcases rest with _ | ⟨b, _ | ⟨b', rest⟩⟩
          · cases found
          · cases found
          · simp only [Option.bind_eq_bind, Option.pure_def, Option.bind_eq_some_iff, Option.some.injEq] at found
            obtain ⟨x, _, y, _, d, scalar, same⟩ := found
            exact long (by omega) (by simp) scalar same
        · split at found
          · rcases rest with _ | ⟨b, _ | ⟨b', _ | ⟨b'', rest⟩⟩⟩
            · cases found
            · cases found
            · cases found
            · simp only [Option.bind_eq_bind, Option.pure_def, Option.bind_eq_some_iff, Option.some.injEq] at found
              obtain ⟨x, _, y, _, z, _, d, scalar, same⟩ := found
              exact long (by omega) (by simp) scalar same
          · cases found

theorem leading?_continues {byte : UInt8} {rest : List UInt8} {c : Char} {more : Nat}
    (found : leading? byte rest = some (c, more)) : more ≤ (rest.takeWhile continues).length := by
  rw [leading?_takeWhile] at found
  exact (leading?_parts found).1

theorem takeWhile_continues_append (front : List UInt8) {rest : List UInt8}
    (cut : ∀ b ∈ rest.head?, continues b = false) :
    (front ++ rest).takeWhile continues = front.takeWhile continues := by
  induction front with
  | nil =>
    cases rest with
    | nil => rfl
    | cons b rest => simp [cut b (by simp)]
  | cons a front ih => simp only [List.cons_append, List.takeWhile_cons, ih]

theorem decodeAfter_append {skip : Nat} {front rest : List UInt8} (inside : skip ≤ (front.takeWhile continues).length)
    (cut : ∀ b ∈ rest.head?, continues b = false) :
    decodeAfter skip (front ++ rest) = decodeAfter skip front ++ decode rest := by
  fun_induction decodeAfter skip front with
  | case1 skip =>
    have none : skip = 0 := by simpa using inside
    rw [none]
    rfl
  | case2 skip byte front ih =>
    rw [List.cons_append, decodeAfter]
    apply ih
    cases go : continues byte with
    | false => simp [go] at inside
    | true => simpa [go] using inside
  | case3 byte front c more found ih =>
    rw [List.cons_append, decodeAfter, leading?_congr (takeWhile_continues_append front cut), found]
    dsimp only
    rw [ih (leading?_continues found), List.cons_append]
  | case4 byte front found ih =>
    rw [List.cons_append, decodeAfter, leading?_congr (takeWhile_continues_append front cut), found]
    dsimp only
    rw [ih (Nat.zero_le _), List.cons_append]

theorem decode_append (front : List UInt8) {rest : List UInt8} (cut : ∀ b ∈ rest.head?, continues b = false) :
    decode (front ++ rest) = decode front ++ decode rest := decodeAfter_append (Nat.zero_le _) cut

section Characters
variable {c : Char}

theorem char_bound (c : Char) : c.toNat < 0x110000 := by
  have valid := c.valid
  simp only [UInt32.isValidChar, Nat.isValidChar] at valid
  change c.val.toNat < 0x110000
  omega

theorem scalar?_char {least : Nat} (enough : least ≤ c.toNat) : scalar? least c.toNat = some c := by
  have valid : c.toNat.isValidChar := c.valid
  have same : Char.ofNatAux c.toNat valid = c := Char.ext (UInt32.toNat_inj.mp rfl)
  rw [scalar?, dif_pos valid, if_pos enough, same]

theorem toNat_byte {n : Nat} (small : n < 0x100) : (UInt8.ofNat n).toNat = n := by
  rw [UInt8.toNat_ofNat']
  omega

theorem continuation?_byte {x : Nat} (small : x < 0x40) : continuation? (.ofNat (0x80 + x)) = some x := by
  rw [continuation?, toNat_byte (by omega), if_pos (by omega), Nat.add_sub_cancel_left]

theorem leading?_ascii (ascii : c.toNat < 0x80) (rest : List UInt8) :
    leading? (.ofNat c.toNat) rest = some (c, 0) := by
  simp [leading?, toNat_byte (show c.toNat < 0x100 by omega), ascii, scalar?_char (Nat.zero_le c.toNat)]

theorem leading?_two (least : 0x80 ≤ c.toNat) (most : c.toNat < 0x800) (rest : List UInt8) :
    leading? (.ofNat (0xC0 + c.toNat / 0x40)) (.ofNat (0x80 + c.toNat % 0x40) :: rest) = some (c, 1) := by
  have code : (0xC0 + c.toNat / 0x40 - 0xC0) * 0x40 + c.toNat % 0x40 = c.toNat := by omega
  unfold leading?
  dsimp only
  rw [toNat_byte (by omega), if_neg (by omega), if_neg (by omega), if_pos (by omega), continuation?_byte (by omega)]
  simp only [Option.bind_eq_bind, Option.bind_some]
  rw [code, scalar?_char least]
  rfl

theorem leading?_three (least : 0x800 ≤ c.toNat) (most : c.toNat < 0x10000) (rest : List UInt8) :
    leading? (.ofNat (0xE0 + c.toNat / 0x1000))
      (.ofNat (0x80 + c.toNat / 0x40 % 0x40) :: .ofNat (0x80 + c.toNat % 0x40) :: rest) = some (c, 2) := by
  have code : ((0xE0 + c.toNat / 0x1000 - 0xE0) * 0x40 + c.toNat / 0x40 % 0x40) * 0x40 + c.toNat % 0x40 = c.toNat := by
    omega
  unfold leading?
  dsimp only
  rw [toNat_byte (by omega), if_neg (by omega), if_neg (by omega), if_neg (by omega), if_pos (by omega),
    continuation?_byte (by omega), continuation?_byte (by omega)]
  simp only [Option.bind_eq_bind, Option.bind_some]
  rw [code, scalar?_char least]
  rfl

theorem leading?_four (least : 0x10000 ≤ c.toNat) (rest : List UInt8) :
    leading? (.ofNat (0xF0 + c.toNat / 0x40000)) (.ofNat (0x80 + c.toNat / 0x1000 % 0x40) ::
      .ofNat (0x80 + c.toNat / 0x40 % 0x40) :: .ofNat (0x80 + c.toNat % 0x40) :: rest) = some (c, 3) := by
  have bound := char_bound c
  have code : (((0xF0 + c.toNat / 0x40000 - 0xF0) * 0x40 + c.toNat / 0x1000 % 0x40) * 0x40 + c.toNat / 0x40 % 0x40) *
      0x40 + c.toNat % 0x40 = c.toNat := by omega
  unfold leading?
  dsimp only
  rw [toNat_byte (by omega), if_neg (by omega), if_neg (by omega), if_neg (by omega), if_neg (by omega),
    if_pos (by omega), continuation?_byte (by omega), continuation?_byte (by omega), continuation?_byte (by omega)]
  simp only [Option.bind_eq_bind, Option.bind_some]
  rw [code, scalar?_char least]
  rfl

theorem leading?_encodeChar (c : Char) (rest : List UInt8) : ∃ byte more, encodeChar c = byte :: more ∧
    leading? byte (more ++ rest) = some (c, more.length) := by
  unfold encodeChar
  dsimp only
  split
  · rename_i one
    exact ⟨_, [], rfl, leading?_ascii one rest⟩
  split
  · rename_i one two
    exact ⟨_, [_], rfl, leading?_two (Nat.le_of_not_lt one) two rest⟩
  split
  · rename_i two three
    exact ⟨_, [_, _], rfl, leading?_three (Nat.le_of_not_lt two) three rest⟩
  · rename_i three
    exact ⟨_, [_, _, _], rfl, leading?_four (Nat.le_of_not_lt three) rest⟩

theorem decodeAfter_drop (front rest : List UInt8) : decodeAfter front.length (front ++ rest) = decode rest := by
  induction front with
  | nil => rfl
  | cons byte front ih => exact ih

theorem decode_encode (text : List Char) : decode (encode text) = text.map .char := by
  induction text with
  | nil => rfl
  | cons c rest ih =>
    obtain ⟨byte, more, bytes, read⟩ := leading?_encodeChar c (encode rest)
    have split : encode (c :: rest) = byte :: (more ++ encode rest) := by
      rw [encode, List.flatMap_cons, bytes]
      rfl
    rw [split, decode, decodeAfter, read]
    dsimp only
    rw [decodeAfter_drop, ih, List.map_cons]

end Characters

section Ascii

theorem encode_ascii {text : List Char} (ascii : ∀ c ∈ text, c.toNat < 0x80) :
    encode text = text.map fun c => .ofNat c.toNat := by
  induction text with
  | nil => rfl
  | cons c rest ih =>
    obtain ⟨first, later⟩ := List.forall_mem_cons.mp ascii
    rw [List.map_cons, ← ih later, encode, List.flatMap_cons]
    simp [encodeChar, first, encode]

theorem byteCount_ascii {text : List Char} (ascii : ∀ c ∈ text, c.toNat < 0x80) : byteCount text = text.length := by
  induction text with
  | nil => rfl
  | cons c rest ih =>
    obtain ⟨first, later⟩ := List.forall_mem_cons.mp ascii
    have small : c.utf8Size = 1 := by
      rw [Char.utf8Size_eq_one_iff, UInt32.le_iff_toNat_le]
      exact Nat.le_of_lt_succ first
    rw [List.length_cons, ← ih later]
    unfold byteCount
    rw [List.foldr_cons, small, Nat.add_comm]

end Ascii

end WireSchema.Text

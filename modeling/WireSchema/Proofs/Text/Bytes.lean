import WireSchema.Proofs.Text.Decoding

-- Decoding loses no byte: the atoms of a source, written out again, are the source, so every place between two atoms
-- is a place between two bytes, and decoding goes on from there.
namespace WireSchema.Text

def Atom.bytes : Atom → List UInt8
  | .char c => encodeChar c
  | .stray byte => [byte]

def bytes (atoms : List Atom) : List UInt8 := atoms.flatMap Atom.bytes

@[simp] theorem bytes_nil : bytes [] = [] := rfl

@[simp] theorem bytes_cons (atom : Atom) (rest : List Atom) : bytes (atom :: rest) = atom.bytes ++ bytes rest := rfl

@[simp] theorem bytes_append (front rest : List Atom) : bytes (front ++ rest) = bytes front ++ bytes rest :=
  List.flatMap_append

theorem bytes_chars (text : List Char) : bytes (text.map .char) = encode text := by
  simp [bytes, encode, List.flatMap_map, Atom.bytes]

section Encoding

theorem continuation?_value {byte : UInt8} {x : Nat} (found : continuation? byte = some x) :
    byte.toNat = 0x80 + x ∧ x < 0x40 := by
  unfold continuation? at found
  split at found
  · have same := Option.some.inj found
    omega
  · cases found

theorem ofNat_eq {n : Nat} (byte : UInt8) (same : n = byte.toNat) : UInt8.ofNat n = byte := by
  rw [same, UInt8.ofNat_toNat]

theorem encodeChar_one {c : Char} {byte : UInt8} (small : byte.toNat < 0x80) (code : c.toNat = byte.toNat) :
    encodeChar c = [byte] := by
  unfold encodeChar
  dsimp only
  rw [if_pos (by omega), ofNat_eq byte code]

theorem encodeChar_two {c : Char} {byte b : UInt8} {x : Nat} (least : 0x80 ≤ c.toNat) (lead : 0xC0 ≤ byte.toNat)
    (short : byte.toNat < 0xE0) (one : continuation? b = some x) (code : c.toNat = (byte.toNat - 0xC0) * 0x40 + x) :
    encodeChar c = [byte, b] := by
  have one := continuation?_value one
  unfold encodeChar
  dsimp only
  rw [if_neg (by omega), if_pos (by omega), ofNat_eq byte (by omega), ofNat_eq b (by omega)]

theorem encodeChar_three {c : Char} {byte b b' : UInt8} {x y : Nat} (least : 0x800 ≤ c.toNat)
    (lead : 0xE0 ≤ byte.toNat) (short : byte.toNat < 0xF0) (one : continuation? b = some x)
    (two : continuation? b' = some y) (code : c.toNat = ((byte.toNat - 0xE0) * 0x40 + x) * 0x40 + y) :
    encodeChar c = [byte, b, b'] := by
  have one := continuation?_value one
  have two := continuation?_value two
  unfold encodeChar
  dsimp only
  rw [if_neg (by omega), if_neg (by omega), if_pos (by omega), ofNat_eq byte (by omega), ofNat_eq b (by omega),
    ofNat_eq b' (by omega)]

theorem encodeChar_four {c : Char} {byte b b' b'' : UInt8} {x y z : Nat} (least : 0x10000 ≤ c.toNat)
    (lead : 0xF0 ≤ byte.toNat) (one : continuation? b = some x) (two : continuation? b' = some y)
    (three : continuation? b'' = some z)
    (code : c.toNat = (((byte.toNat - 0xF0) * 0x40 + x) * 0x40 + y) * 0x40 + z) :
    encodeChar c = [byte, b, b', b''] := by
  have one := continuation?_value one
  have two := continuation?_value two
  have three := continuation?_value three
  unfold encodeChar
  dsimp only
  rw [if_neg (by omega), if_neg (by omega), if_neg (by omega), ofNat_eq byte (by omega), ofNat_eq b (by omega),
    ofNat_eq b' (by omega), ofNat_eq b'' (by omega)]

theorem leading?_bytes {byte : UInt8} {rest : List UInt8} {c : Char} {more : Nat}
    (found : leading? byte rest = some (c, more)) : byte :: rest.take more = encodeChar c := by
  simp only [leading?] at found
  split at found
  · rename_i small
    obtain ⟨d, scalar, same⟩ := Option.map_eq_some_iff.mp found
    cases same
    exact (encodeChar_one small (scalar?_eq_some scalar).1).symm
  split at found
  · cases found
  split at found
  · split at found
    · simp only [Option.bind_eq_bind, Option.pure_def, Option.bind_eq_some_iff, Option.some.injEq] at found
      obtain ⟨x, one, d, scalar, same⟩ := found
      cases same
      obtain ⟨code, least⟩ := scalar?_eq_some scalar
      exact (encodeChar_two (code ▸ least) (by omega) (by assumption) one code).symm
    · cases found
  split at found
  · split at found
    · simp only [Option.bind_eq_bind, Option.pure_def, Option.bind_eq_some_iff, Option.some.injEq] at found
      obtain ⟨x, one, y, two, d, scalar, same⟩ := found
      cases same
      obtain ⟨code, least⟩ := scalar?_eq_some scalar
      exact (encodeChar_three (code ▸ least) (by omega) (by assumption) one two code).symm
    · cases found
  split at found
  · split at found
    · simp only [Option.bind_eq_bind, Option.pure_def, Option.bind_eq_some_iff, Option.some.injEq] at found
      obtain ⟨x, one, y, two, z, three, d, scalar, same⟩ := found
      cases same
      obtain ⟨code, least⟩ := scalar?_eq_some scalar
      exact (encodeChar_four (code ▸ least) (by omega) one two three code).symm
    · cases found
  · cases found

end Encoding

theorem decodeAfter_bytes (skip : Nat) (source : List UInt8) : bytes (decodeAfter skip source) = source.drop skip := by
  fun_induction decodeAfter skip source with
  | case1 => simp
  | case2 skip byte rest ih => simpa using ih
  | case3 byte rest c more found ih =>
    rw [bytes_cons, ih, Atom.bytes, ← leading?_bytes found, List.cons_append, List.take_append_drop, List.drop_zero]
  | case4 byte rest found ih => simpa [Atom.bytes] using ih

theorem decode_bytes (source : List UInt8) : bytes (decode source) = source := decodeAfter_bytes 0 source

def offset (source : List UInt8) (rest : List Atom) : Nat := source.length - (bytes rest).length

theorem decodeAfter_suffix {skip : Nat} {source : List UInt8} {rest : List Atom}
    (suffix : rest <:+ decodeAfter skip source) : decode (bytes rest) = rest := by
  fun_induction decodeAfter skip source with
  | case1 =>
    rw [List.suffix_nil.mp suffix]
    rfl
  | case2 skip byte source ih => exact ih suffix
  | case3 byte source c more found ih =>
    rcases List.suffix_cons_iff.mp suffix with rfl | later
    · have whole := decodeAfter_bytes 0 (byte :: source)
      rw [decodeAfter, found] at whole
      dsimp only at whole
      rw [whole, List.drop_zero, decode, decodeAfter, found]
    · exact ih later
  | case4 byte source found ih =>
    rcases List.suffix_cons_iff.mp suffix with rfl | later
    · have whole := decodeAfter_bytes 0 (byte :: source)
      rw [decodeAfter, found] at whole
      dsimp only at whole
      rw [whole, List.drop_zero, decode, decodeAfter, found]
    · exact ih later

section Offsets
variable {source : List UInt8} {rest later : List Atom}

theorem bytes_suffix (suffix : later <:+ rest) : bytes later <:+ bytes rest := by
  obtain ⟨front, rfl⟩ := suffix
  exact ⟨bytes front, (bytes_append front later).symm⟩

theorem offset_le (source : List UInt8) (rest : List Atom) : offset source rest ≤ source.length := Nat.sub_le _ _

theorem offset_mono (suffix : later <:+ rest) : offset source rest ≤ offset source later :=
  Nat.sub_le_sub_left (bytes_suffix suffix).length_le _

theorem drop_offset (suffix : rest <:+ decode source) : source.drop (offset source rest) = bytes rest := by
  have ends := bytes_suffix suffix
  rw [decode_bytes] at ends
  exact (List.suffix_iff_eq_drop.mp ends).symm

theorem decode_drop (suffix : rest <:+ decode source) : decode (source.drop (offset source rest)) = rest := by
  rw [drop_offset suffix]
  exact decodeAfter_suffix suffix

theorem slice_chars {taken : List Char} {before : List Atom} (covers : taken.map .char ++ later = before)
    (suffix : before <:+ decode source) :
    (source.drop (offset source before)).take (offset source later - offset source before) = encode taken := by
  have behind : later <:+ decode source := (show later <:+ before from ⟨_, covers⟩).trans suffix
  have whole := congrArg bytes covers
  rw [bytes_append, bytes_chars] at whole
  have lengths := congrArg List.length whole
  have room := congrArg List.length (drop_offset suffix)
  have roomBehind := congrArg List.length (drop_offset behind)
  have before_le := offset_le source before
  have later_le := offset_le source later
  rw [List.length_drop] at room roomBehind
  rw [List.length_append] at lengths
  rw [drop_offset suffix, ← whole]
  exact List.take_left' (by omega)

end Offsets
end WireSchema.Text

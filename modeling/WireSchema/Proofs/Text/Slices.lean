import WireSchema.Proofs.Text.Bytes
import WireSchema.TagString

-- Parts of a text between two byte offsets. An offset is good where a character starts or the text ends, so a text
-- that is gone through byte by byte may be cut only where that is known of the byte.
namespace WireSchema.Text

-- A text in front of an offset and behind it. There is no such place inside a character or behind the end.
def cutAt? : Nat → List Char → Option (List Char × List Char)
  | 0, text => some ([], text)
  | _ + 1, [] => none
  | n + 1, c :: rest =>
    if c.utf8Size ≤ n + 1 then (cutAt? (n + 1 - c.utf8Size) rest).map fun (front, back) => (c :: front, back)
    else none

def slice? (first stop : Nat) (text : List Char) : Option (List Char) :=
  (cutAt? stop text).bind fun cut => (cutAt? first cut.1).map (·.2)

@[simp] theorem byteCount_nil : byteCount [] = 0 := rfl

@[simp] theorem byteCount_cons (c : Char) (rest : List Char) : byteCount (c :: rest) = c.utf8Size + byteCount rest := rfl

@[simp] theorem byteCount_append (front back : List Char) : byteCount (front ++ back) = byteCount front + byteCount back := by
  induction front with
  | nil => simp
  | cons c rest ih => rw [List.cons_append, byteCount_cons, ih, byteCount_cons, Nat.add_assoc]

theorem cutAt?_append (front back : List Char) : cutAt? (byteCount front) (front ++ back) = some (front, back) := by
  induction front with
  | nil =>
    cases back with
    | nil => rfl
    | cons c rest => rfl
  | cons c rest ih =>
    have positive := c.utf8Size_pos
    obtain ⟨n, size⟩ : ∃ n, byteCount (c :: rest) = n + 1 := ⟨byteCount (c :: rest) - 1, by rw [byteCount_cons]; omega⟩
    have later : n + 1 - c.utf8Size = byteCount rest := by rw [← size, byteCount_cons]; omega
    rw [size, List.cons_append, cutAt?, if_pos (by rw [← size, byteCount_cons]; omega), later, ih]
    rfl

theorem slice?_front (front back : List Char) : slice? 0 (byteCount front) (front ++ back) = some front := by
  rw [slice?, cutAt?_append, Option.bind_some]
  cases front <;> rfl

theorem slice?_between (front middle back : List Char) :
    slice? (byteCount front) (byteCount front + byteCount middle) (front ++ (middle ++ back)) = some middle := by
  rw [slice?, ← byteCount_append, ← List.append_assoc, cutAt?_append, Option.bind_some, cutAt?_append]
  rfl

theorem slice?_back (front back : List Char) :
    slice? (byteCount front) (byteCount (front ++ back)) (front ++ back) = some back := by
  simpa using slice?_between front back []

section Encoding

theorem encodeChar_ascii {c : Char} (small : c.toNat < 0x80) : encodeChar c = [.ofNat c.toNat] := by
  unfold encodeChar
  dsimp only
  rw [if_pos small]

theorem encodeChar_wide {c : Char} (wide : 0x80 ≤ c.toNat) : ∀ b ∈ encodeChar c, 0x80 ≤ b.toNat := by
  have valid := char_bound c
  have high : ∀ n, 0x80 ≤ n → n < 0x100 → 0x80 ≤ (UInt8.ofNat n).toNat := fun n least most => by
    rw [toNat_byte most]
    exact least
  intro b member
  unfold encodeChar at member
  dsimp only at member
  rw [if_neg (by omega)] at member
  split at member
  · simp only [List.mem_cons, List.not_mem_nil, or_false] at member
    rcases member with rfl | rfl <;> exact high _ (by omega) (by omega)
  · split at member
    · simp only [List.mem_cons, List.not_mem_nil, or_false] at member
      rcases member with rfl | rfl | rfl <;> exact high _ (by omega) (by omega)
    · simp only [List.mem_cons, List.not_mem_nil, or_false] at member
      rcases member with rfl | rfl | rfl | rfl <;> exact high _ (by omega) (by omega)

theorem encodeChar_length (c : Char) : (encodeChar c).length = c.utf8Size := by
  have compare : ∀ n : UInt32, c.val ≤ n ↔ c.toNat ≤ n.toNat := fun n => UInt32.le_iff_toNat_le
  unfold encodeChar Char.utf8Size
  simp only [compare]
  change _ = if c.toNat ≤ 0x7F then 1 else if c.toNat ≤ 0x7FF then 2 else if c.toNat ≤ 0xFFFF then 3 else 4
  split
  · rw [if_pos (by omega)]
    rfl
  split
  · rw [if_neg (by omega), if_pos (by omega)]
    rfl
  split
  · rw [if_neg (by omega), if_neg (by omega), if_pos (by omega)]
    rfl
  · rw [if_neg (by omega), if_neg (by omega), if_neg (by omega)]
    rfl

theorem encode_cons (c : Char) (rest : List Char) : encode (c :: rest) = encodeChar c ++ encode rest := rfl

theorem encode_length (text : List Char) : (encode text).length = byteCount text := by
  induction text with
  | nil => rfl
  | cons c rest ih => rw [encode_cons, List.length_append, encodeChar_length, ih, byteCount_cons]

end Encoding
end WireSchema.Text

namespace WireSchema.TagString
open Text

-- How many bytes stand in front of the quote that closes a value, going on byte by byte and two bytes at a time
-- from a backslash. Without such a quote it is the number of all bytes, or one more.
def quoteOffset : List UInt8 → Nat
  | [] => 0
  | [byte] => if byte = 0x22 then 0 else if byte = 0x5C then 2 else 1
  | byte :: next :: rest =>
    if byte = 0x22 then 0
    else if byte = 0x5C then 2 + quoteOffset rest
    else 1 + quoteOffset (next :: rest)

theorem quoteOffset_cons {byte : UInt8} (unquoted : byte ≠ 0x22) (plain : byte ≠ 0x5C) (rest : List UInt8) :
    quoteOffset (byte :: rest) = 1 + quoteOffset rest := by
  cases rest <;> simp [quoteOffset, unquoted, plain]

theorem quoteOffset_append {front : List UInt8} (plain : ∀ b ∈ front, b ≠ 0x22 ∧ b ≠ 0x5C) (rest : List UInt8) :
    quoteOffset (front ++ rest) = front.length + quoteOffset rest := by
  induction front with
  | nil => simp
  | cons byte front ih =>
    obtain ⟨first, later⟩ := List.forall_mem_cons.mp plain
    rw [List.cons_append, quoteOffset_cons first.1 first.2, ih later, List.length_cons]
    omega

theorem wide_plain {b : UInt8} (wide : 0x80 ≤ b.toNat) : b ≠ 0x22 ∧ b ≠ 0x5C := by
  constructor <;> rintro rfl <;> simp at wide

theorem encodeChar_plain {c : Char} (unquoted : c ≠ '"') (plain : c ≠ '\\') : ∀ b ∈ encodeChar c, b ≠ 0x22 ∧ b ≠ 0x5C := by
  by_cases small : c.toNat < 0x80
  · intro b member
    rw [encodeChar_ascii small] at member
    have code : b.toNat = c.toNat := by
      rw [List.mem_singleton.mp member, UInt8.toNat_ofNat', Nat.mod_eq_of_lt (by omega)]
    constructor
    · rintro rfl
      exact unquoted (Char.toNat_inj.mp code.symm)
    · rintro rfl
      exact plain (Char.toNat_inj.mp code.symm)
  · exact fun b member => wide_plain (encodeChar_wide (by omega) b member)

-- Behind a backslash only the first byte of a character is passed over at once; the others end no value.
theorem quoteOffset_escaped (c : Char) (rest : List UInt8) :
    quoteOffset (0x5C :: (encodeChar c ++ rest)) = 1 + c.utf8Size + quoteOffset rest := by
  have length := encodeChar_length c
  have tails : ∀ b ∈ (encodeChar c).tail, b ≠ 0x22 ∧ b ≠ 0x5C := by
    by_cases small : c.toNat < 0x80
    · simp [encodeChar_ascii small]
    · exact fun b member => wide_plain (encodeChar_wide (by omega) b (List.mem_of_mem_tail member))
  cases written : encodeChar c with
  | nil =>
    have positive := c.utf8Size_pos
    simp [written] at length
    omega
  | cons first others =>
    rw [written] at tails length
    rw [List.length_cons] at length
    have behind : quoteOffset (others ++ rest) = others.length + quoteOffset rest := quoteOffset_append tails rest
    rw [List.cons_append, quoteOffset, if_neg (by decide), if_pos rfl, behind]
    omega

-- Going through a value by bytes finds the quote that reading it by characters finds.
theorem quoteOffset_value (text : List Char) : match value? text with
    | some (value, after) => text = value ++ '"' :: after ∧ quoteOffset (encode text) = byteCount value
    | none => byteCount text ≤ quoteOffset (encode text) := by
  fun_induction value? text with
  | case1 => simp
  | case2 rest =>
    refine ⟨rfl, ?_⟩
    rw [encode_cons, show encodeChar '"' = [0x22] by decide]
    cases encode rest <;> rfl
  | case3 c rest ih =>
    have offset := quoteOffset_escaped c (encode rest)
    rw [encode_cons, encode_cons, show encodeChar '\\' = [0x5C] by decide, List.singleton_append, offset]
    have mark : '\\'.utf8Size = 1 := by decide
    cases found : value? rest with
    | none =>
      simp only [found, Option.map_none, byteCount_cons] at ih ⊢
      omega
    | some parts =>
      obtain ⟨value, after⟩ := parts
      simp only [found, Option.map_some, byteCount_cons] at ih ⊢
      exact ⟨by rw [ih.1]; rfl, by omega⟩
  | case4 => decide
  | case5 c rest unquoted plain single ih =>
    have offset := quoteOffset_append (encodeChar_plain unquoted fun mark => ?_) (encode rest)
    · rw [encode_cons, offset, encodeChar_length]
      cases found : value? rest with
      | none =>
        simp only [found, Option.map_none, byteCount_cons] at ih ⊢
        omega
      | some parts =>
        obtain ⟨value, after⟩ := parts
        simp only [found, Option.map_some, byteCount_cons] at ih ⊢
        exact ⟨by rw [ih.1]; rfl, by omega⟩
    · cases rest with
      | nil => exact single mark rfl
      | cons d rest => exact plain d rest mark rfl

-- All cuts that are made in reading a tag string from some place on are good ones: those around a numeral and
-- around a key, and those around a value, at the quote that was come across byte by byte.
structure Cuts (text : List Char) : Prop where
  numeral : slice? 0 (byteCount (text.takeWhile (· != ' '))) text = some (text.takeWhile (· != ' '))
  behindNumeral : slice? (byteCount (text.takeWhile (· != ' '))) (byteCount text) text =
    some (text.dropWhile (· != ' '))
  key : slice? 0 (byteCount (text.takeWhile isKeyCharacter)) text = some (text.takeWhile isKeyCharacter)
  behindKey : slice? (byteCount (text.takeWhile isKeyCharacter)) (byteCount text) text =
    some (text.dropWhile isKeyCharacter)
  value : ∀ quoted, text.dropWhile isKeyCharacter = ':' :: '"' :: quoted →
    let start := byteCount (text.takeWhile isKeyCharacter) + 2
    let stop := start + quoteOffset (encode quoted)
    match value? quoted with
    | some (value, after) =>
      slice? start stop text = some value ∧ slice? (stop + 1) (byteCount text) text = some after
    | none => byteCount text ≤ stop

theorem slice?_while (p : Char → Bool) (text : List Char) :
    slice? 0 (byteCount (text.takeWhile p)) text = some (text.takeWhile p) ∧
      slice? (byteCount (text.takeWhile p)) (byteCount text) text = some (text.dropWhile p) := by
  have front := slice?_front (text.takeWhile p) (text.dropWhile p)
  have back := slice?_back (text.takeWhile p) (text.dropWhile p)
  rw [List.takeWhile_append_dropWhile] at front back
  exact ⟨front, back⟩

theorem cuts (text : List Char) : Cuts text := by
  refine ⟨(slice?_while _ text).1, (slice?_while _ text).2, (slice?_while _ text).1, (slice?_while _ text).2, ?_⟩
  intro quoted behind start stop
  have whole : text = (text.takeWhile isKeyCharacter ++ [':', '"']) ++ quoted := by
    rw [List.append_assoc, List.cons_append, List.cons_append, List.nil_append, ← behind,
      List.takeWhile_append_dropWhile]
  have front : byteCount (text.takeWhile isKeyCharacter ++ [':', '"']) = start := by
    rw [byteCount_append]
    rfl
  generalize text.takeWhile isKeyCharacter ++ [':', '"'] = opening at whole front
  subst whole
  have offset := quoteOffset_value quoted
  cases found : value? quoted with
  | none =>
    simp only [found] at offset ⊢
    rw [byteCount_append]
    omega
  | some parts =>
    obtain ⟨value, after⟩ := parts
    simp only [found] at offset ⊢
    obtain ⟨rfl, length⟩ := offset
    have stops : stop = byteCount opening + byteCount value := by omega
    refine ⟨?_, ?_⟩
    · rw [stops, ← front]
      exact slice?_between opening value ('"' :: after)
    · have mark : stop + 1 = byteCount (opening ++ value ++ ['"']) := by
        rw [byteCount_append, byteCount_append, stops]
        rfl
      have behindMark := slice?_back (opening ++ value ++ ['"']) after
      rw [mark]
      simpa using behindMark

end WireSchema.TagString

-- Source text as a list of atoms: the bytes are read as UTF-8, and a byte that starts no well-formed
-- sequence is an atom of its own.
namespace WireSchema.Text

inductive Atom where
  | char (c : Char)
  | stray (byte : UInt8)
deriving DecidableEq

def continuation? (byte : UInt8) : Option Nat :=
  if 0x80 ≤ byte.toNat ∧ byte.toNat < 0xC0 then some (byte.toNat - 0x80) else none

-- The scalar value with the given code point, unless the code point could be written in fewer
-- bytes (it is below `least`), is a surrogate or is too large.
def scalar? (least code : Nat) : Option Char :=
  if valid : code.isValidChar then if least ≤ code then some (.ofNatAux code valid) else none
  else none

def leading? (byte : UInt8) (rest : List UInt8) : Option (Char × Nat) :=
  let lead := byte.toNat
  if lead < 0x80 then (scalar? 0 lead).map (·, 0)
  else if lead < 0xC2 then none
  else if lead < 0xE0 then
    match rest with
    | b :: _ => do
      let x ← continuation? b
      let c ← scalar? 0x80 ((lead - 0xC0) * 0x40 + x)
      pure (c, 1)
    | _ => none
  else if lead < 0xF0 then
    match rest with
    | b :: b' :: _ => do
      let x ← continuation? b
      let y ← continuation? b'
      let c ← scalar? 0x800 (((lead - 0xE0) * 0x40 + x) * 0x40 + y)
      pure (c, 2)
    | _ => none
  else if lead < 0xF5 then
    match rest with
    | b :: b' :: b'' :: _ => do
      let x ← continuation? b
      let y ← continuation? b'
      let z ← continuation? b''
      let c ← scalar? 0x10000 ((((lead - 0xF0) * 0x40 + x) * 0x40 + y) * 0x40 + z)
      pure (c, 3)
    | _ => none
  else none

def first? : List UInt8 → Option (Atom × Nat)
  | [] => none
  | byte :: rest =>
    some <| match leading? byte rest with
      | some (c, more) => (.char c, more + 1)
      | none => (.stray byte, 1)

-- Decoding with the given number of bytes still to be passed over. After a stray byte it goes on at
-- the very next byte.
def decodeAfter : Nat → List UInt8 → List Atom
  | _, [] => []
  | skip + 1, _ :: rest => decodeAfter skip rest
  | 0, byte :: rest =>
    match leading? byte rest with
    | some (c, more) => .char c :: decodeAfter more rest
    | none => .stray byte :: decodeAfter 0 rest

def decode (bytes : List UInt8) : List Atom := decodeAfter 0 bytes

-- The well-formed sequences, each byte by the least and the greatest value it may have. The byte behind the first one
-- is narrowed where a shorter sequence would do, in front of the surrogates and behind the last code point.
def sequences : List (List (Nat × Nat)) := [
  [(0x00, 0x7F)],
  [(0xC2, 0xDF), (0x80, 0xBF)],
  [(0xE0, 0xE0), (0xA0, 0xBF), (0x80, 0xBF)],
  [(0xE1, 0xEC), (0x80, 0xBF), (0x80, 0xBF)],
  [(0xED, 0xED), (0x80, 0x9F), (0x80, 0xBF)],
  [(0xEE, 0xEF), (0x80, 0xBF), (0x80, 0xBF)],
  [(0xF0, 0xF0), (0x90, 0xBF), (0x80, 0xBF), (0x80, 0xBF)],
  [(0xF1, 0xF3), (0x80, 0xBF), (0x80, 0xBF), (0x80, 0xBF)],
  [(0xF4, 0xF4), (0x80, 0x8F), (0x80, 0xBF), (0x80, 0xBF)]]

def begins (bytes : List UInt8) : Bool := sequences.any fun ranges =>
  bytes.length ≤ ranges.length &&
    (ranges.zip bytes).all fun pair => pair.1.1 ≤ pair.2.toNat && pair.2.toNat ≤ pair.1.2

def replaced (pending : List UInt8) : List Char := if pending.isEmpty then [] else ['\uFFFD']

def replaceFrom : List UInt8 → List Atom → List Char
  | pending, [] => replaced pending
  | pending, .char c :: rest => replaced pending ++ c :: replaceFrom [] rest
  | pending, .stray byte :: rest =>
    if begins (pending ++ [byte]) then replaceFrom (pending ++ [byte]) rest
    else replaced pending ++ replaceFrom [byte] rest

-- A text for any bytes. Stray bytes that are together the front of a well-formed sequence are replaced as one.
def lossy (bytes : List UInt8) : String := .ofList (replaceFrom [] (decode bytes))

def encodeChar (c : Char) : List UInt8 :=
  let code := c.toNat
  if code < 0x80 then [.ofNat code]
  else if code < 0x800 then [.ofNat (0xC0 + code / 0x40), .ofNat (0x80 + code % 0x40)]
  else if code < 0x10000 then
    [.ofNat (0xE0 + code / 0x1000), .ofNat (0x80 + code / 0x40 % 0x40), .ofNat (0x80 + code % 0x40)]
  else
    [.ofNat (0xF0 + code / 0x40000), .ofNat (0x80 + code / 0x1000 % 0x40),
      .ofNat (0x80 + code / 0x40 % 0x40), .ofNat (0x80 + code % 0x40)]

def encode (text : List Char) : List UInt8 := text.flatMap encodeChar

def byteCount (text : List Char) : Nat := text.foldr (fun c bytes => c.utf8Size + bytes) 0

end WireSchema.Text

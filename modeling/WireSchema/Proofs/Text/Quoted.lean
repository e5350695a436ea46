import WireSchema.Json.Document
import WireSchema.Text.Writing

-- What stands between quotes is read back by the reader of JSON as the text that it was written for, whatever follows.
namespace WireSchema
open Json Json.Document
namespace Text.Quoted
variable {c : Char}

theorem hexCode_control : ∀ n < 0x20, hexCode? '0' '0' (hexDigit (n / 16)) (hexDigit (n % 16)) = some n := by decide

theorem joinPieces_low {code : Nat} (low : code < 0x20) (more : List Piece) :
    joinPieces (.unit code :: more) = (joinPieces more).map (.ofNat code :: ·) := by
  have noHigh : isHigh code = false := by simp [isHigh]; omega
  have noLow : isLow code = false := by simp [isLow]; omega
  cases more with
  | nil => simp [joinPieces, noHigh, noLow]
  | cons piece more => cases piece <;> simp [joinPieces, noHigh, noLow]

structure ReadAs (c : Char) (piece : Piece) : Prop where
  read : ∀ rest, stringPieces (escape c ++ rest) = (stringPieces rest).map fun (more, after) => (piece :: more, after)
  joined : ∀ more, joinPieces (piece :: more) = (joinPieces more).map (c :: ·)

theorem readAs_short {letter : Char} (written : escape c = ['\\', letter]) (known : simpleEscape? letter = some c)
    (other : letter ≠ 'u') : ReadAs c (.char c) := by
  refine ⟨fun rest => ?_, fun _ => rfl⟩
  rw [written, List.cons_append, List.cons_append, List.nil_append,
    stringPieces.eq_4 _ _ fun _ _ _ _ _ same => absurd same other, known]
  cases stringPieces rest <;> rfl

theorem readAs_code (control : c.toNat < 0x20)
    (written : escape c = ['\\', 'u', '0', '0', hexDigit (c.toNat / 16), hexDigit (c.toNat % 16)]) :
    ReadAs c (.unit c.toNat) := by
  constructor
  · intro rest
    rw [written]
    simp only [List.cons_append, List.nil_append]
    rw [stringPieces, hexCode_control _ control]
    cases stringPieces rest <;> rfl
  · intro more
    rw [joinPieces_low control, Char.ofNat_toNat]

theorem readAs_self (written : escape c = [c]) (plain : c ≠ '"' ∧ c ≠ '\\' ∧ ¬ c.toNat < 0x20) :
    ReadAs c (.char c) := by
  obtain ⟨noQuote, noEscape, noControl⟩ := plain
  refine ⟨fun rest => ?_, fun _ => rfl⟩
  have taken : (decide (c.toNat < 32) || decide (c = '\\')) = false := by simp [noEscape, Nat.not_lt.mp noControl]
  rw [written, List.cons_append, List.nil_append, stringPieces.eq_5 _ _ noQuote (fun _ _ _ _ _ same => absurd same noEscape)
    (fun _ _ same => absurd same noEscape), taken]
  cases stringPieces rest <;> rfl

theorem readAs_escape (c : Char) : ∃ piece, ReadAs c piece := by
  by_cases named : c ∈ ['"', '\\', '\x08', '\x0c', '\n', '\r', '\t']
  · simp only [List.mem_cons, List.not_mem_nil, or_false] at named
    rcases named with rfl | rfl | rfl | rfl | rfl | rfl | rfl <;> exact ⟨_, readAs_short rfl rfl (by decide)⟩
  · simp only [List.mem_cons, List.not_mem_nil, or_false, not_or] at named
    by_cases control : c.toNat < 0x20
    · exact ⟨_, readAs_code control (by simp [escape, named, control])⟩
    · exact ⟨_, readAs_self (by simp [escape, named, control]) ⟨named.1, named.2.1, control⟩⟩

theorem string?_encode (text rest : List Char) :
    string? (text.flatMap escape ++ '"' :: rest) = some (some (.ofList text), rest) := by
  have pieces : ∃ found, stringPieces (text.flatMap escape ++ '"' :: rest) = some (found, rest) ∧
      joinPieces found = some text := by
    induction text with
    | nil => exact ⟨[], rfl, rfl⟩
    | cons c text ih =>
      obtain ⟨found, read, joined⟩ := ih
      obtain ⟨piece, first⟩ := readAs_escape c
      refine ⟨piece :: found, ?_, ?_⟩
      · rw [List.flatMap_cons, List.append_assoc, first.read, read]
        rfl
      · rw [first.joined, joined]
        rfl
  obtain ⟨found, read, joined⟩ := pieces
  rw [string?, read, Option.map_some]
  dsimp only
  rw [joined, Option.map_some]

theorem encode_unique {text other rest behind : List Char} (same : encode text ++ rest = encode other ++ behind) :
    text = other ∧ rest = behind := by
  have written : ∀ text rest : List Char, encode text ++ rest = '"' :: (text.flatMap escape ++ '"' :: rest) := by
    simp [encode]
  rw [written, written] at same
  have read := congrArg string? (List.cons.inj same).2
  rw [string?_encode, string?_encode] at read
  simpa [String.ofList_inj] using read

end Text.Quoted
end WireSchema

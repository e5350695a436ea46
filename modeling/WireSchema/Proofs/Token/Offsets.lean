import WireSchema.Proofs.Text.FirstAtom
import WireSchema.Proofs.Text.Slices
import WireSchema.Proofs.Token.Local
import WireSchema.Token.Tokenizer

-- The tokenizer never takes bytes that are not there. Where it stands between two atoms of its source, it sees what
-- the scanner has ahead, and what it takes from the start of a token on are the bytes of the characters between.
namespace WireSchema
open Text Scan

namespace Text
variable {source : List UInt8} {rest : List Atom}

theorem replaceFrom_chars (text : List Char) : replaceFrom [] (text.map .char) = text := by
  induction text with
  | nil => rfl
  | cons c rest ih => simp [replaceFrom, replaced, ih]

theorem lossy_encode (text : List Char) : lossy (encode text) = .ofList text := by
  rw [lossy, decode_encode, replaceFrom_chars]

theorem first?_length {found : Atom × Nat} (read : first? source = some found) : found.2 ≤ source.length := by
  obtain ⟨atom, n⟩ := found
  cases atom with
  | char c => exact (first?_char.mp read).1
  | stray byte =>
    obtain ⟨rfl, _⟩ := first?_stray.mp read
    exact List.length_pos_iff.mpr (Tokenizer.first?_positive read).1

theorem first?_offset (suffix : rest <:+ decode source) :
    (first? (source.drop (offset source rest))).map (·.1) = rest.head? ∧
      offset source rest + (first? (source.drop (offset source rest))).elim 0 (·.2) = offset source rest.tail := by
  have bytesAhead := drop_offset suffix
  have ahead := decode_drop suffix
  cases found : first? (source.drop (offset source rest)) with
  | none =>
    rw [first?_none.mp found] at ahead
    subst ahead
    exact ⟨rfl, rfl⟩
  | some read =>
    obtain ⟨atom, n⟩ := read
    have whole := decode_first found
    rw [ahead] at whole
    have inside := first?_length found
    rw [List.length_drop] at inside
    have later : bytes (decode ((source.drop (offset source rest)).drop n)) = source.drop (offset source rest + n) := by
      rw [decode_bytes, List.drop_drop]
    have room := offset_le source rest
    have stop : offset source rest.tail = source.length - (source.length - (offset source rest + n)) := by
      rw [congrArg List.tail whole, List.tail_cons, offset, later, List.length_drop]
    refine ⟨(congrArg List.head? whole).symm, ?_⟩
    rw [stop, Option.elim_some]
    omega

end Text

theorem Scan.startsWith_true {p : Char → Bool} {atoms : List Atom} (starts : startsWith p atoms = true) :
    ∃ c rest, atoms = .char c :: rest ∧ p c = true := by
  unfold startsWith at starts
  split at starts
  · exact ⟨_, _, rfl, starts⟩
  · cases starts

theorem bytesBetween?_some {first stop : Nat} {source : List UInt8} (ordered : first ≤ stop) (inside : stop ≤ source.length) :
    bytesBetween? first stop source = some ((source.drop first).take (stop - first)) := if_pos ⟨ordered, inside⟩

theorem bytesBetween?_all {first : Nat} {source : List UInt8} (inside : first ≤ source.length) :
    bytesBetween? first source.length source = some (source.drop first) := by
  rw [bytesBetween?_some inside (Nat.le_refl _), ← List.length_drop, List.take_length]

namespace Tokenizer

structure Ordered (source : List UInt8) (m : Tokenizer) : Prop where
  same : m.source = source
  start_le : m.start ≤ m.here
  here_le : m.here ≤ m.read
  read_le : m.read ≤ source.length

-- Wherever the tokenizer comes to, it comes by these steps.
inductive Reached (limit : Nat) (file : String) (source : List UInt8) : Tokenizer → Prop where
  | unread : Reached limit file source (unread limit file source)
  | moved {m later : Tokenizer} : Reached limit file source m → m.nextChar = some later → Reached limit file source later
  | begun {m : Tokenizer} : Reached limit file source m → Reached limit file source m.beginToken
  | closed {m : Tokenizer} (closable : Bool) :
      Reached limit file source m → Reached limit file source { m with closable }

section Steps
variable {limit : Nat} {file : String} {source : List UInt8} {m : Tokenizer}

theorem Ordered.nextChar (ordered : m.Ordered source) : ∃ later, m.nextChar = some later ∧ later.Ordered source := by
  obtain ⟨rfl, started, here, room⟩ := ordered
  refine ⟨_, by rw [Tokenizer.nextChar, bytesBetween?_all room, Option.map_some], ?_⟩
  refine ⟨rfl, Nat.le_trans started here, Nat.le_add_right _ _, ?_⟩
  cases found : first? (m.source.drop m.read) with
  | none => exact room
  | some read =>
    have inside := first?_length found
    rw [List.length_drop] at inside
    dsimp only [Option.elim_some]
    omega

theorem Ordered.token (ordered : m.Ordered source) (kind : TokenKind) : ∃ read, m.token kind = some read := by
  obtain ⟨rfl, started, here, room⟩ := ordered
  exact ⟨_, by rw [Tokenizer.token, bytesBetween?_some started (Nat.le_trans here room), Option.map_some]⟩

theorem Reached.ordered (reached : Reached limit file source m) : m.Ordered source := by
  induction reached with
  | unread => exact ⟨rfl, Nat.le_refl _, Nat.le_refl _, Nat.zero_le _⟩
  | moved _ moved ih =>
    obtain ⟨later, same, ordered⟩ := ih.nextChar
    rw [moved, Option.some.injEq] at same
    exact same ▸ ordered
  | begun _ ih => exact ⟨ih.same, Nat.le_refl _, ih.here_le, ih.read_le⟩
  | closed _ _ ih => exact ⟨ih.same, ih.start_le, ih.here_le, ih.read_le⟩

end Steps

def facing (m : Tokenizer) (atoms : List Atom) (place : Place) : Tokenizer :=
  { m with
    current := atoms.head?.bind shownBy?
    bad := atoms.head?.bind faultOf?
    here := offset m.source atoms
    read := offset m.source atoms.tail
    place }

theorem shownBy?_feed (atoms : List Atom) : atoms.head?.bind shownBy? = some '\n' ↔ ∃ rest, atoms = .char '\n' :: rest := by
  rcases atoms with _ | ⟨c | byte, rest⟩
  · simp
  · by_cases nul : c = '\x00'
    · simp [shownBy?, nul]
    · simp [shownBy?, nul]
  · simp [shownBy?]

theorem nextChar_read {m : Tokenizer} {rest : List Atom} (read : m.read = offset m.source rest)
    (inside : rest <:+ decode m.source) : m.nextChar = some (m.facing rest
      (if m.current = some '\n' then ⟨m.place.line + 1, 1⟩ else ⟨m.place.line, m.place.column + 1⟩)) := by
  obtain ⟨front, behind⟩ := first?_offset inside
  unfold nextChar facing
  rw [read, bytesBetween?_all (offset_le _ _), Option.map_some, ← front, Option.bind_map, Option.bind_map]
  dsimp only
  rw [behind]
  rfl

theorem nextChar_facing {m : Tokenizer} {atoms : List Atom} (inside : atoms <:+ decode m.source) (place : Place) :
    (m.facing atoms place).nextChar = some (m.facing atoms.tail (place.pastFront atoms)) := by
  have moved : (if (m.facing atoms place).current = some '\n' then (⟨place.line + 1, 1⟩ : Place)
      else ⟨place.line, place.column + 1⟩) = place.pastFront atoms := by
    by_cases feed : atoms.head?.bind shownBy? = some '\n'
    · obtain ⟨rest, rfl⟩ := (shownBy?_feed atoms).mp feed
      rfl
    · refine (if_neg feed).trans ?_
      rcases atoms with _ | ⟨c | byte, rest⟩
      · rfl
      · have other : c ≠ '\n' := fun same => feed ((shownBy?_feed _).mpr ⟨rest, by rw [same]⟩)
        simp [Place.pastFront, Place.past, other]
      · rfl
  rw [nextChar_read (m := m.facing atoms place) rfl ((List.tail_suffix atoms).trans inside), ← moved]
  rfl

theorem is_facing {m : Tokenizer} {atoms : List Atom} {place : Place} {p : Char → Bool} (nul : p '\x00' = false) :
    (m.facing atoms place).is p = startsWith p atoms := by
  unfold is facing startsWith
  rcases atoms with _ | ⟨c | byte, rest⟩
  · rfl
  · by_cases null : c = '\x00'
    · simp [shownBy?, null, nul]
    · simp [shownBy?, null]
  · rfl

def stand (m : Tokenizer) (taken : List Char) (rest : List Atom) : Tokenizer :=
  m.facing rest (m.startPlace.pastAll taken)

structure Begun (m : Tokenizer) (taken : List Char) (rest : List Atom) : Prop where
  start : m.start = offset m.source (taken.map .char ++ rest)
  inside : taken.map .char ++ rest <:+ decode m.source

def closed (m : Tokenizer) (r : Reading) : Token × Tokenizer :=
  let content := Scanner.kindAndText m.limit r
  let s := Scanner.leave r m.startPlace m.closable
  (m.make content.1 content.2, (m.facing s.ahead s.place).beginToken)

section Taking
variable {m : Tokenizer} {taken : List Char} {rest : List Atom} {c : Char} {p : Char → Bool}

theorem Begun.further (begun : m.Begun taken rest) {more : List Char} {later : List Atom}
    (covers : more.map .char ++ later = rest) : m.Begun (taken ++ more) later := by
  have same : (taken ++ more).map .char ++ later = taken.map Atom.char ++ rest := by simp [← covers]
  exact ⟨by rw [same, begun.start], same ▸ begun.inside⟩

theorem Begun.suffix (begun : m.Begun taken rest) : rest <:+ decode m.source := (List.suffix_append _ _).trans begun.inside

theorem stand_append (m : Tokenizer) (taken more : List Char) (rest : List Atom) :
    m.stand (taken ++ more) rest = m.facing rest ((m.startPlace.pastAll taken).pastAll more) := by
  rw [stand, Place.pastAll, List.foldl_append]
  rfl

theorem nextChar_stand (begun : m.Begun taken (.char c :: rest)) :
    (m.stand taken (.char c :: rest)).nextChar = some (m.stand (taken ++ [c]) rest) := by
  rw [stand, nextChar_facing begun.suffix, stand_append]
  rfl

theorem Begun.next (begun : m.Begun taken (.char c :: rest)) : m.Begun (taken ++ [c]) rest := begun.further rfl

theorem is_stand (nul : p '\x00' = false) : (m.stand taken rest).is p = startsWith p rest := is_facing nul

theorem Begun.run (begun : m.Begun taken rest) (p : Char → Bool) :
    m.Begun (taken ++ (Scan.run p rest).1) (Scan.run p rest).2 := begun.further (run_append p rest)

theorem Begun.one (begun : m.Begun taken rest) (p : Char → Bool) :
    m.Begun (taken ++ (Scan.one p rest).1) (Scan.one p rest).2 := begun.further (one_append p rest)

theorem skipWhile_step {m : Tokenizer} (holds : m.is p = true) : m.skipWhile p =
    m.nextChar.bind fun later => (later.skipWhile p).map fun skipped => (skipped.1 + 1, skipped.2) := by
  rw [skipWhile, dif_pos holds]
  split <;> rename_i moved <;> rw [moved] <;> rfl

theorem skipWhile_stay {m : Tokenizer} (stays : m.is p = false) : m.skipWhile p = some (0, m) := by
  rw [skipWhile, dif_neg (Bool.eq_false_iff.mp stays)]

theorem skipWhile_stand (begun : m.Begun taken rest) (nul : p '\x00' = false) :
    (m.stand taken rest).skipWhile p =
      some ((Scan.run p rest).1.length, m.stand (taken ++ (Scan.run p rest).1) (Scan.run p rest).2) := by
  induction rest generalizing taken with
  | nil =>
    rw [skipWhile_stay (is_stand nul), run_stopped rfl, List.append_nil]
    rfl
  | cons atom later ih =>
    cases starts : startsWith p (atom :: later) with
    | false =>
      rw [skipWhile_stay ((is_stand nul).trans starts), run_stopped starts, List.append_nil]
      rfl
    | true =>
      obtain ⟨c, _, same, holds⟩ := startsWith_true starts
      cases same
      rw [skipWhile_step ((is_stand nul).trans starts), nextChar_stand begun, Option.bind_some, ih begun.next,
        Scan.run, if_pos holds]
      simp

theorem nextIf_stand (begun : m.Begun taken rest) (nul : p '\x00' = false) :
    (m.stand taken rest).nextIf p = some (m.stand (taken ++ (Scan.one p rest).1) (Scan.one p rest).2) := by
  rw [nextIf, is_stand nul]
  split
  · rename_i starts
    obtain ⟨c, later, rfl, holds⟩ := startsWith_true starts
    rw [nextChar_stand begun, Scan.one, if_pos holds]
  · rename_i stays
    rw [one_stopped (Bool.not_eq_true _ ▸ stays), List.append_nil]

-- A kind that a token is made with as it is, and whose text is all that the token takes.
def Plain (kind : TokenKind) : Prop := kind ≠ .identifier ∧ kind ≠ .comment

theorem slice_stand (begun : m.Begun taken rest) :
    bytesBetween? m.start (offset m.source rest) m.source = some (encode taken) := by
  have ordered : offset m.source (taken.map .char ++ rest) ≤ offset m.source rest := offset_mono (List.suffix_append _ _)
  rw [begun.start, bytesBetween?_some ordered (offset_le _ _), slice_chars rfl begun.inside]

theorem token_stand (begun : m.Begun taken rest) (kind : TokenKind) :
    (m.stand taken rest).token kind =
      some (if m.limit < byteCount taken then m.make (.invalid .overflow) "" else
          m.make (if kind = .identifier then keywordOr taken else kind) (.ofList taken),
        (m.stand taken rest).beginToken) := by
  have slice : bytesBetween? (m.stand taken rest).start (m.stand taken rest).here (m.stand taken rest).source =
      some (encode taken) := slice_stand (m := m) begun
  have word : ((Keyword.ofText? (.ofList taken)).map TokenKind.keyword).getD .identifier = keywordOr taken := by
    unfold keywordOr
    cases Keyword.ofText? (.ofList taken) <;> rfl
  rw [token, slice, Option.map_some, encode_length, lossy_encode]
  dsimp only
  rw [word]
  show some (if m.limit < byteCount taken then _ else _) = _
  split <;> rfl

theorem whole_stand (begun : m.Begun taken rest) {kind : TokenKind} (other : kind ≠ .identifier)
    (whole : Scanner.lexeme kind taken = taken) :
    (m.stand taken rest).token kind = some (m.closed ⟨taken, .accepted kind, rest⟩) := by
  rw [token_stand begun, if_neg other]
  unfold closed Scanner.kindAndText
  dsimp only
  rw [whole]
  split <;> rfl

theorem accepted_stand (begun : m.Begun taken rest) {kind : TokenKind} (plain : Plain kind) :
    (m.stand taken rest).token kind = some (m.closed ⟨taken, .accepted kind, rest⟩) :=
  whole_stand begun plain.1 (if_neg fun line => plain.2 line.1)

theorem invalid_stand (begun : m.Begun taken rest) (error : LexicalError) (takesNext : Bool) :
    (m.stand taken rest).invalidToken error takesNext = some (m.closed ⟨taken, .rejected error takesNext, rest⟩) := by
  have text : (m.stand taken rest).current.elim "" (fun c => String.ofList [c]) = Scanner.stopText rest := by
    rcases rest with _ | ⟨c | byte, rest⟩
    · rfl
    · unfold stand facing shownBy? Scanner.stopText
      dsimp only
      by_cases nul : c = '\x00' <;> simp [nul]
    · rfl
  unfold invalidToken
  rw [text]
  cases takesNext with
  | true =>
    rw [if_pos rfl, stand, nextChar_facing begun.suffix]
    rfl
  | false => rfl

theorem rejected_stand (begun : m.Begun taken rest) {r : Reading} {error : LexicalError} {takesNext : Bool}
    (reading : r = ⟨[], .rejected error takesNext, rest⟩) :
    (m.stand taken rest).invalidToken error takesNext = some (m.closed (r.after taken)) := by
  rw [reading, invalid_stand begun, Reading.after, List.append_nil]

end Taking

section Standing
variable (m : Tokenizer) (taken : List Char) (rest : List Atom)

theorem stand_forbidden {atom : Atom} {error : LexicalError} (forbidden : forbidden? atom = some error) :
    (m.stand taken (atom :: rest)).bad = some error ∨ (m.stand taken (atom :: rest)).bad = none ∧
      (m.stand taken (atom :: rest)).current = some byteOrderMark ∧ error = .byteOrderMark := by
  cases atom with
  | stray byte => exact .inl forbidden
  | char c =>
    unfold forbidden? at forbidden
    dsimp only at forbidden
    split at forbidden
    · rename_i nul
      exact .inl ((if_pos nul).trans forbidden)
    · rename_i proper
      split at forbidden
      · rename_i mark
        cases forbidden
        exact .inr ⟨if_neg proper, (if_neg proper).trans (congrArg some mark), rfl⟩
      · cases forbidden

theorem stand_allowed {c : Char} (allowed : forbidden? (.char c) = none) :
    (m.stand taken (.char c :: rest)).bad = none ∧ (m.stand taken (.char c :: rest)).current = some c ∧
      c ≠ byteOrderMark := by
  unfold forbidden? at allowed
  dsimp only at allowed
  split at allowed
  · cases allowed
  · rename_i proper
    split at allowed
    · cases allowed
    · rename_i other
      exact ⟨if_neg proper, if_neg proper, other⟩

end Standing

end Tokenizer
end WireSchema

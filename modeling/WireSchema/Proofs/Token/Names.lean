import WireSchema.Proofs.Text.Decoding
import WireSchema.Token.Stream

-- What is known of the tokens of any source: only the last one is the end of it, and an identifier is
-- a name that can stand on either side of a point.
namespace WireSchema
open Text

structure IsName (text : String) : Prop where
  nonempty : text ≠ ""
  pointless : '.' ∉ text.toList

namespace Scan

def Reading.Among (kinds : List TokenKind) (r : Reading) : Prop :=
  ∀ kind, r.ending = .accepted kind → kind ∈ kinds

variable {kinds : List TokenKind}

theorem Reading.Among.after {r : Reading} (among : r.Among kinds) (front : List Char) :
    (r.after front).Among kinds := among

theorem Reading.Among.weaken {r : Reading} (among : r.Among kinds) {more : List TokenKind} (inside : kinds ⊆ more) :
    r.Among more := fun kind ending => inside (among kind ending)

theorem exponent_among {kind : TokenKind} (atoms : List Atom) (number : kind = .integer ∨ kind = .float) :
    (exponent kind atoms).Among [.integer, .float] := by
  intro found ending
  unfold exponent at ending
  dsimp only at ending
  split at ending
  · cases ending
    simpa using number
  · split at ending <;> cases ending
    simp

theorem fraction_among (atoms : List Atom) : (fraction atoms).Among [.integer, .float] :=
  (exponent_among _ (.inr rfl)).after _

theorem wholePart_among (atoms : List Atom) : (wholePart atoms).Among [.integer, .float] := by
  unfold wholePart
  dsimp only
  split
  · exact exponent_among _ (.inl rfl)
  · exact (fraction_among _).after _

theorem zero_among (atoms : List Atom) : (zero atoms).Among [.integer, .float] := by
  unfold zero
  dsimp only
  split
  · split
    · exact (wholePart_among _).after _
    · intro found ending
      dsimp only at ending
      split at ending <;> cases ending
      simp
  · intro found ending
    dsimp only at ending
    split at ending <;> cases ending
    simp

theorem number_among (first : Char) (atoms : List Atom) : (number first atoms).Among [.integer, .float] := by
  unfold number
  split
  · exact (zero_among _).after _
  · exact (wholePart_among _).after _

theorem negative_among (atoms : List Atom) : (negative atoms).Among [.integer, .float] := by
  unfold negative
  split
  · split
    · split
      · exact (fraction_among _).after _
      · intro found ending; cases ending
    · split
      · exact number_among _ _
      · intro found ending; cases ending
  · intro found ending; cases ending

-- The readers of strings and comments go on by one character at a time, so the only kind they end with
-- is that of their last step.
theorem rawString_among (atoms : List Atom) : (rawString atoms).Among [.string] := by
  fun_induction rawString atoms <;> simp_all [Reading.Among, Reading.after]

theorem quotedString_among (escape : Escape) (atoms : List Atom) :
    (quotedString escape atoms).Among [.string] := by
  fun_induction quotedString escape atoms <;> simp_all [Reading.Among, Reading.after]

theorem lineComment_among (atoms : List Atom) : (lineComment atoms).Among [.comment] := by
  fun_induction lineComment atoms <;> simp_all [Reading.Among, Reading.after]

theorem blockComment_among (atoms : List Atom) : (blockComment atoms).Among [.comment] := by
  fun_induction blockComment atoms <;> simp_all [Reading.Among, Reading.after]

theorem slash_among (atoms : List Atom) : (slash atoms).Among [.comment] := by
  unfold slash
  split
  · exact (lineComment_among _).after _
  · exact (blockComment_among _).after _
  · intro found ending; cases ending

theorem keywordOr_other {kind : TokenKind} (name : List Char) (plain : kind ≠ .identifier)
    (unkeyed : ∀ word, kind ≠ .keyword word) : keywordOr name ≠ kind := by
  unfold keywordOr
  split
  · exact fun same => unkeyed _ same.symm
  · exact fun same => plain same.symm

inductive Starts (c : Char) (rest : List Atom) : Reading × Closing → Prop where
  | name (letter : isLetter c = true) : Starts c rest (name c rest, .ofIdentifier)
  | negative : Starts c rest ((negative rest).after [c], .yes)
  | number : Starts c rest (number c rest, .yes)
  | fraction : Starts c rest ((fraction rest).after [c], .yes)
  | rawString (mark : c = backtick) : Starts c rest ((rawString rest).after [c], .yes)
  | quotedString (mark : c = '"') : Starts c rest ((quotedString .none rest).after [c], .yes)
  | slash (mark : c = '/') : Starts c rest ((slash rest).after [c], .no)
  | single {kind : TokenKind} (other : kind ∉ [.identifier, .string, .comment, .endOfFile]) : Starts c rest
      ((single kind rest).after [c], if kind ∈ [.closeParen, .closeBracket, .closeBrace] then .yes else .no)
  | stopped (error : LexicalError) (closing : Closing) :
      Starts c rest (⟨[], .rejected error true, .char c :: rest⟩, closing)

theorem punctuation?_mark {c : Char} {kind : TokenKind} (found : punctuation? c = some kind) :
    kind ∉ [.identifier, .string, .comment, .endOfFile] := by
  unfold punctuation? at found
  split at found <;> cases found <;> simp

theorem token_starts (c : Char) (rest : List Atom) : Starts c rest (token c rest) := by
  unfold token
  split
  · rename_i letter
    exact .name letter
  split
  · exact .negative
  split
  · exact .number
  split
  · exact .stopped _ _
  split
  · rename_i mark
    exact .rawString mark
  split
  · rename_i mark
    exact .quotedString mark
  split
  · split
    · exact .fraction
    · exact .single (by simp)
  split
  · rename_i mark
    exact .slash mark
  split
  · rename_i kind found
    exact .single (punctuation?_mark found)
  · exact .stopped _ _

theorem Reading.Among.absent {r : Reading} (among : r.Among kinds) {kind : TokenKind} (other : kind ∉ kinds) :
    r.ending ≠ .accepted kind := fun ending => other (among kind ending)

theorem token_identifier {c : Char} {rest : List Atom}
    (ending : (token c rest).1.ending = .accepted .identifier) :
    isLetter c = true ∧ (token c rest).1 = name c rest := by
  have starts := token_starts c rest
  generalize token c rest = found at starts ending ⊢
  cases starts with
  | name letter => exact ⟨letter, rfl⟩
  | negative => exact absurd ending ((negative_among rest).absent (by simp))
  | number => exact absurd ending ((number_among c rest).absent (by simp))
  | fraction => exact absurd ending ((fraction_among rest).absent (by simp))
  | rawString => exact absurd ending ((rawString_among rest).absent (by simp))
  | quotedString => exact absurd ending ((quotedString_among .none rest).absent (by simp))
  | slash => exact absurd ending ((slash_among rest).absent (by simp))
  | single other =>
    cases ending
    simp at other
  | stopped => cases ending

theorem run_holds (p : Char → Bool) (atoms : List Atom) : ∀ c ∈ (run p atoms).1, p c = true := by
  fun_induction run p atoms with
  | case1 c rest holds more ih => simpa [holds] using ih
  | case2 | case3 => simp

theorem front_token {closable : Bool} {atoms : List Atom} {r : Reading} {closing : Closing}
    (found : front closable atoms = .reading r closing) : (∃ error, r.ending = .rejected error true) ∨
      ∃ c rest, atoms = .char c :: rest ∧ token c rest = (r, closing) := by
  unfold front at found
  split at found
  · split at found <;> cases found
  · cases found
    exact .inl ⟨_, rfl⟩
  · split at found
    · cases found
      exact .inl ⟨_, rfl⟩
    · split at found
      · cases found
      · cases found
        exact .inr ⟨_, _, rfl, rfl⟩

theorem front_identifier {closable : Bool} {atoms : List Atom} {r : Reading} {closing : Closing}
    (found : front closable atoms = .reading r closing) (ending : r.ending = .accepted .identifier) :
    ∃ c rest, isLetter c = true ∧ r = name c rest := by
  rcases front_token found with ⟨error, rejected⟩ | ⟨c, rest, rfl, same⟩
  · cases ending.symm.trans rejected
  · have read : r = (token c rest).1 := by rw [same]
    rw [read] at ending ⊢
    exact ⟨c, rest, token_identifier ending⟩

theorem token_closing {c : Char} {rest : List Atom} {kind : TokenKind} (passes : kind = .semicolon ∨ kind = .comment)
    (ending : (token c rest).1.ending = .accepted kind) : (token c rest).2 = .no := by
  have absent : kind ∉ [.integer, .float, .string] := by rcases passes with rfl | rfl <;> simp
  have starts := token_starts c rest
  generalize token c rest = found at starts ending ⊢
  cases starts with
  | name letter =>
    refine absurd (Ending.accepted.inj ending) (keywordOr_other _ ?_ ?_) <;> rcases passes with rfl | rfl <;> simp
  | negative => exact absurd ending ((negative_among rest).absent (by simp_all))
  | number => exact absurd ending ((number_among c rest).absent (by simp_all))
  | fraction => exact absurd ending ((fraction_among rest).absent (by simp_all))
  | rawString => exact absurd ending ((rawString_among rest).absent (by simp_all))
  | quotedString => exact absurd ending ((quotedString_among .none rest).absent (by simp_all))
  | slash => rfl
  | single other =>
    cases ending
    rcases passes with rfl | rfl <;> rfl
  | stopped => cases ending

end Scan

theorem isName_of_letters {c : Char} {tail : List Char} (letter : isLetter c = true)
    (others : ∀ d ∈ tail, isNameCharacter d = true) : IsName (.ofList (c :: tail)) := by
  refine ⟨by simp [← String.toList_inj], ?_⟩
  rw [String.toList_ofList]
  intro member
  rcases List.mem_cons.mp member with rfl | later
  · exact absurd letter (by decide)
  · exact absurd (others _ later) (by decide)

namespace Scanner
variable {limit : Nat} {file : String}

theorem next_identifier {s : Scanner} (identifier : (s.next limit file).1.kind = .identifier) :
    IsName (s.next limit file).1.text := by
  unfold next at identifier ⊢
  dsimp only at identifier ⊢
  split at identifier
  · cases identifier
  · cases identifier
  · rename_i r closing found
    unfold kindAndText at identifier ⊢
    cases ending : r.ending with
    | rejected error takesNext => simp [ending] at identifier
    | accepted kind =>
      simp only [ending] at identifier ⊢
      split at identifier
      · cases identifier
      · rename_i short
        have same : kind = .identifier := identifier
        subst same
        obtain ⟨c, rest, letter, rfl⟩ := Scan.front_identifier found ending
        simp only [lexeme, short, if_false, reduceCtorEq, false_and]
        exact isName_of_letters letter (Scan.run_holds _ _)

theorem next_closed {s : Scanner} (passes : (s.next limit file).1.kind = .semicolon ∨ (s.next limit file).1.kind = .comment) :
    (s.next limit file).2.closable = false := by
  unfold next at passes ⊢
  dsimp only at passes ⊢
  split at passes
  · rfl
  · rfl
  · rename_i r closing found
    unfold kindAndText at passes ⊢
    cases ending : r.ending with
    | rejected error takesNext => simp [ending] at passes
    | accepted kind =>
      simp only [ending] at passes ⊢
      split at passes
      · simp at passes
      · rcases Scan.front_token found with ⟨error, rejected⟩ | ⟨c, rest, _, same⟩
        · cases ending.symm.trans rejected
        · have ends : (Scan.token c rest).1.ending = .accepted kind := by
            rw [same]
            exact ending
          have closes := Scan.token_closing passes ends
          rw [same] at closes
          have closes : closing = .no := closes
          subst closes
          simp [leave, ending, Scanner.closes]

theorem tokens_all {holds : Token → Prop} (each : ∀ s : Scanner, holds (s.next limit file).1)
    (s : Scanner) : (∀ token ∈ (s.tokens limit file).1, holds token ∧ token.kind ≠ .endOfFile) ∧
      holds (s.tokens limit file).2 ∧ (s.tokens limit file).2.kind = .endOfFile := by
  fun_induction tokens limit file s with
  | case1 s ended => simpa [ended] using each s
  | case2 s more rest ih =>
    refine ⟨?_, ih.2⟩
    intro token member
    rcases List.mem_cons.mp member with rfl | later
    · exact ⟨each s, more⟩
    · exact ih.1 token later

def first (limit : Nat) (file : String) : Nat → Scanner → List Token × Scanner
  | 0, s => ([], s)
  | n + 1, s =>
    let read := s.next limit file
    let more := first limit file n read.2
    (read.1 :: more.1, more.2)

-- A source is read once, up to its end.
theorem tokens_first {n : Nat} {s : Scanner} {read : List Token} {finish : Token}
    (counted : (s.first limit file (n + 1)).1 = read ++ [finish]) (unended : ∀ token ∈ read, token.kind ≠ .endOfFile)
    (ended : finish.kind = .endOfFile) : s.tokens limit file = (read, finish) := by
  induction n generalizing s read with
  | zero =>
    cases read with
    | nil =>
      obtain rfl : (s.next limit file).1 = finish := by simpa [first] using counted
      rw [tokens, dif_pos ended]
    | cons => simp [first] at counted
  | succ n ih =>
    cases read with
    | nil => simp [first] at counted
    | cons token rest =>
      rw [first, List.cons_append, List.cons.injEq] at counted
      obtain ⟨rfl, behind⟩ := counted
      have more := unended _ List.mem_cons_self
      rw [tokens, dif_neg more, ih behind fun token member => unended token (List.mem_cons_of_mem _ member)]

end Scanner

theorem Text.spelled_append {s t : String} {front behind : List Char} (first : s = .ofList front)
    (second : t = .ofList behind) : s ++ t = .ofList (front ++ behind) := by
  rw [first, second, String.ofList_append]

-- The letters of a text are taken as they are written, so that nothing has to be encoded and decoded to read it.
theorem Token.allOf_first {n limit : Nat} {file text : String} {letters : List Char} {read : List Token} {finish : Token}
    (spelled : text = .ofList letters)
    (counted : ((Scanner.start (letters.map .char)).first limit file (n + 1)).1 = read ++ [finish])
    (unended : ∀ token ∈ read, token.kind ≠ .endOfFile) (ended : finish.kind = .endOfFile) :
    Token.allOf limit file (encode text.toList) = (read, finish) := by
  rw [Token.allOf, spelled, String.toList_ofList, decode_encode]
  exact Scanner.tokens_first counted unended ended

theorem Token.allOf_identifiers (limit : Nat) (file : String) (source : List UInt8) :
    (∀ token ∈ (Token.allOf limit file source).1,
      (token.kind = .identifier → IsName token.text) ∧ token.kind ≠ .endOfFile) ∧
      (Token.allOf limit file source).2.kind = .endOfFile :=
  have all := Scanner.tokens_all (fun _ => Scanner.next_identifier) (Scanner.start (decode source))
  ⟨all.1, all.2.2⟩

end WireSchema

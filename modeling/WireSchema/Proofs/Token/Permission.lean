import WireSchema.Proofs.Text.Numerals
import WireSchema.Proofs.Token.Terminators

-- What an invalid token does to the permission to end a statement. It is not always kept: a token that starts like one
-- behind which a statement may end gives it, one that starts like any other takes it away, and only what starts no
-- token leaves it as it is.
namespace WireSchema
open Text

namespace Scan

-- What gives the permission, however it goes on: a number, a string, or a closing bracket.
def Gives (c : Char) (rest : List Atom) : Prop :=
  c = '-' ∨ isDigitOf 10 c = true ∨ c = backtick ∨ c = '"' ∨ (c = '.' ∧ startsWith (isDigitOf 10) rest = true) ∨
    c ∈ [')', ']', '\x7d']

-- What takes the permission away: a name, a byte order mark, or one of the other marks.
def Withdraws (c : Char) (rest : List Atom) : Prop :=
  isLetter c = true ∨ c = byteOrderMark ∨ (c = '.' ∧ startsWith (isDigitOf 10) rest = false) ∨
    c ∈ [';', '\n', '(', '[', '\x7b', ',', '*', '=']

theorem letter_other {c mark : Char} (letter : isLetter c = true) (unlettered : isLetter mark = false) : c ≠ mark := by
  rintro rfl
  exact Bool.false_ne_true (unlettered.symm.trans letter)

theorem Withdraws.never {c : Char} {rest : List Atom} (withdraws : Withdraws c rest) : ¬ Gives c rest := by
  rcases withdraws with letter | rfl | ⟨rfl, undigit⟩ | mark
  · have digit := Decimal.letter_undigit letter
    have minus : isLetter '-' = false := by decide
    have quotes : isLetter backtick = false ∧ isLetter '"' = false := by decide
    have point : isLetter '.' = false := by decide
    have brackets : isLetter ')' = false ∧ isLetter ']' = false ∧ isLetter '\x7d' = false := by decide
    have other {mark : Char} : isLetter mark = false → c ≠ mark := letter_other letter
    simp [Gives, digit, other minus, other quotes.1, other quotes.2, other point, other brackets.1, other brackets.2.1,
      other brackets.2.2]
  · simp [Gives, byteOrderMark, backtick, isDigitOf, digitValue?]
  · simp [Gives, undigit, backtick, isDigitOf, digitValue?]
  · simp only [List.mem_cons, List.not_mem_nil, or_false] at mark
    rcases mark with rfl | rfl | rfl | rfl | rfl | rfl | rfl | rfl <;>
      simp [Gives, backtick, isDigitOf, digitValue?]

inductive Permits (c : Char) (rest : List Atom) : Closing → Prop where
  | gives (gives : Gives c rest) : Permits c rest .yes
  | withdraws {closing : Closing} (withdraws : Withdraws c rest) (closes : closing = .no ∨ closing = .ofIdentifier) :
      Permits c rest closing
  | slash (mark : c = '/') : Permits c rest .no
  | keeps (never : ¬ Gives c rest) (stays : ¬ Withdraws c rest) : Permits c rest .asBefore

theorem punctuation?_permits {c : Char} {kind : TokenKind} (rest : List Atom) (mark : punctuation? c = some kind) :
    Permits c rest (if kind ∈ [.closeParen, .closeBracket, .closeBrace] then .yes else .no) := by
  unfold punctuation? at mark
  split at mark <;> cases mark
  all_goals first
    | exact .gives (by simp [Gives])
    | exact .withdraws (by simp [Withdraws]) (.inl rfl)

theorem punctuation?_none {c : Char} (none : punctuation? c = none) :
    c ∉ [')', ']', '\x7d'] ∧ c ∉ [';', '\n', '(', '[', '\x7b', ',', '*', '='] := by
  have unmarked : ∀ d, punctuation? d ≠ Option.none → c ≠ d := by
    rintro d some rfl
    exact some none
  simp [unmarked, punctuation?]

theorem token_permits (c : Char) (rest : List Atom) : Permits c rest (token c rest).2 := by
  unfold token
  split
  · rename_i letter
    exact .withdraws (.inl letter) (.inr rfl)
  split
  · rename_i minus
    exact .gives (.inl minus)
  split
  · rename_i digit
    exact .gives (.inr (.inl digit))
  split
  · rename_i mark
    exact .withdraws (.inr (.inl mark)) (.inl rfl)
  split
  · rename_i raw
    exact .gives (.inr (.inr (.inl raw)))
  split
  · rename_i quoted
    exact .gives (.inr (.inr (.inr (.inl quoted))))
  split
  · rename_i point
    split
    · rename_i digit
      exact .gives (.inr (.inr (.inr (.inr (.inl ⟨point, digit⟩)))))
    · rename_i undigit
      exact .withdraws (.inr (.inr (.inl ⟨point, by simpa using undigit⟩))) (.inl rfl)
  split
  · rename_i mark
    exact .slash mark
  split
  · rename_i kind found
    exact punctuation?_permits rest found
  · rename_i letter minus digit mark raw quoted point _ _ none
    obtain ⟨closing, other⟩ := punctuation?_none none
    refine .keeps ?_ ?_
    · rintro (here | here | here | here | ⟨here, _⟩ | here)
      · exact minus here
      · exact digit here
      · exact raw here
      · exact quoted here
      · exact point here
      · exact closing here
    · rintro (here | here | ⟨here, _⟩ | here)
      · exact letter here
      · exact mark here
      · exact point here
      · exact other here

def Disturbs (closable : Bool) (atoms : List Atom) : Prop :=
  ∃ c rest, atoms = .char c :: rest ∧ if closable then Withdraws c rest else Gives c rest

theorem front_disturbs {closable : Bool} {atoms : List Atom} {r : Reading} {closing : Closing}
    (found : front closable atoms = .reading r closing) (error : LexicalError) :
    Scanner.closes closing closable (.invalid error) = closable ↔ ¬ Disturbs closable atoms := by
  unfold front at found
  split at found
  · split at found <;> cases found
  · cases found
    simp [Scanner.closes, Disturbs]
  · rename_i c rest
    have disturbs : Disturbs closable (.char c :: rest) ↔ if closable then Withdraws c rest else Gives c rest := by
      simp [Disturbs]
    rw [disturbs]
    split at found
    · rename_i nul
      cases found
      subst nul
      have unlettered : isLetter '\x00' = false := by decide
      cases closable <;> simp [Scanner.closes, Withdraws, Gives, unlettered, byteOrderMark, backtick, isDigitOf, digitValue?]
    · split at found
      · cases found
      · rename_i printed unmarked
        cases found
        have permits := token_permits c rest
        generalize (token c rest).2 = closing at permits
        cases permits with
        | gives gives =>
          have stays : ¬ Withdraws c rest := fun withdraws => withdraws.never gives
          cases closable <;> simp [Scanner.closes, gives, stays]
        | withdraws withdraws closes =>
          have never := withdraws.never
          rcases closes with rfl | rfl <;> cases closable <;> simp [Scanner.closes, never, withdraws]
        | slash mark =>
          subst mark
          obtain rfl : closable = false := by simpa using unmarked
          simp [Scanner.closes, Gives, backtick, isDigitOf, digitValue?]
        | keeps never stays => cases closable <;> simp [Scanner.closes, never, stays]

end Scan

namespace Scanner
variable {limit : Nat} {file : String}

theorem leave_closable (r : Scan.Reading) (place : Place) (closable : Bool) :
    (leave r place closable).closable = closable := by
  unfold leave
  dsimp only
  split
  · rfl
  · split <;> rfl

theorem next_disturbs {s : Scanner} {error : LexicalError} (invalid : (s.next limit file).1.kind = .invalid error) :
    (s.next limit file).2.closable = s.closable ↔ ¬ Scan.Disturbs s.closable s.skip.ahead := by
  have more : (s.next limit file).1.kind ≠ .endOfFile := by simp [invalid]
  have step := next_step more
  generalize s.next limit file = read at step invalid ⊢
  cases step with
  | terminator => cases invalid
  | reading found =>
    rw [leave_closable]
    dsimp only at invalid
    rw [invalid]
    exact Scan.front_disturbs found error

def EndsLine (limit : Nat) (file : String) (s : Scanner) : Prop :=
  ∀ rest, (next limit file ⟨.char '\n' :: rest, s.place, s.closable⟩).1.Terminates

theorem endsLine_iff (positive : 0 < limit) (s : Scanner) : s.EndsLine limit file ↔ s.closable = true := by
  constructor
  · intro ends
    have terminates := ends []
    exact ((next_terminates (by simp [terminates.1])).mp terminates).1
  · intro closable rest
    have unblank : Scan.startsWith (isBlank true) (.char '\n' :: rest) = false := rfl
    have content : kindAndText limit ⟨['\n'], .accepted .semicolon, rest⟩ = (.semicolon, "\n") :=
      if_neg (Nat.not_lt.mpr positive)
    rw [closable, next_reading unblank (front_feed rest), content]
    exact ⟨rfl, rfl⟩

theorem first_at {s : Scanner} {n : Nat} {token : Token} (here : (s.tokens limit file).1[n]? = some token) :
    token = ((s.first limit file n).2.next limit file).1 ∧
      (s.first limit file (n + 1)).2 = ((s.first limit file n).2.next limit file).2 := by
  induction n generalizing s with
  | zero =>
    by_cases ended : (s.next limit file).1.kind = .endOfFile
    · simp [tokens_ended ended] at here
    · rw [tokens_more ended] at here
      exact ⟨(Option.some.inj here).symm, rfl⟩
  | succ n ih =>
    by_cases ended : (s.next limit file).1.kind = .endOfFile
    · simp [tokens_ended ended] at here
    · rw [tokens_more ended] at here
      exact ih here

end Scanner

def Token.scannerAt (limit : Nat) (file : String) (source : List UInt8) (n : Nat) : Scanner :=
  ((Scanner.start (decode source)).first limit file n).2

-- Behind an invalid token of a source a newline is what it would be in front of the token, exactly if the token keeps
-- the permission, and it does unless it starts like one that would not.
theorem Token.allOf_permission (limit : Nat) (file : String) (source : List UInt8) {n : Nat} {token : Token}
    {error : LexicalError} (here : (allOf limit file source).1[n]? = some token) (invalid : token.kind = .invalid error) :
    ((scannerAt limit file source (n + 1)).closable = (scannerAt limit file source n).closable ↔
      ¬ Scan.Disturbs (scannerAt limit file source n).closable (scannerAt limit file source n).skip.ahead) ∧
    (0 < limit → (((scannerAt limit file source (n + 1)).EndsLine limit file ↔
        (scannerAt limit file source n).EndsLine limit file) ↔
      (scannerAt limit file source (n + 1)).closable = (scannerAt limit file source n).closable)) := by
  constructor
  · obtain ⟨rfl, past⟩ := Scanner.first_at here
    unfold scannerAt
    rw [past]
    exact Scanner.next_disturbs invalid
  · intro positive
    rw [Scanner.endsLine_iff positive, Scanner.endsLine_iff positive]
    exact Bool.eq_iff_iff.symm

namespace MalformedNumber

def source : List UInt8 := encode "0x\n".toList

def place (line column : Nat) : Position := ⟨"", line, column⟩

theorem tokens : Token.allOf Token.defaultLimit "" source = ([⟨.invalid .hexadecimalNumber, "\n", place 1 1⟩,
    ⟨.semicolon, "\n", place 1 3⟩], ⟨.endOfFile, "", place 2 1⟩) := by
  exact Token.allOf_first (n := 2) rfl rfl (by decide) rfl

theorem opening : (Token.allOf Token.defaultLimit "" source).1[0]? =
    some ⟨.invalid .hexadecimalNumber, "\n", place 1 1⟩ := by
  rw [tokens]
  rfl

theorem disturbed : (Token.allOf Token.defaultLimit "" source).1[0]? =
      some ⟨.invalid .hexadecimalNumber, "\n", place 1 1⟩ ∧ 0 < Token.defaultLimit ∧
    ((Token.scannerAt Token.defaultLimit "" source 1).closable = (Token.scannerAt Token.defaultLimit "" source 0).closable ↔
      ¬ Scan.Disturbs (Token.scannerAt Token.defaultLimit "" source 0).closable
        (Token.scannerAt Token.defaultLimit "" source 0).skip.ahead) ∧
    (((Token.scannerAt Token.defaultLimit "" source 1).EndsLine Token.defaultLimit "" ↔
        (Token.scannerAt Token.defaultLimit "" source 0).EndsLine Token.defaultLimit "") ↔
      (Token.scannerAt Token.defaultLimit "" source 1).closable = (Token.scannerAt Token.defaultLimit "" source 0).closable) := by
  obtain ⟨disturbs, ends⟩ := Token.allOf_permission Token.defaultLimit "" source opening rfl
  exact ⟨opening, by decide, disturbs, ends (by decide)⟩

theorem unkept : ¬ ∀ (limit : Nat) (file : String) (source : List UInt8) (n : Nat) (token : Token) (error : LexicalError),
    (Token.allOf limit file source).1[n]? = some token → token.kind = .invalid error →
      (Token.scannerAt limit file source (n + 1)).closable = (Token.scannerAt limit file source n).closable := by
  intro kept
  have same := kept Token.defaultLimit "" source 0 _ .hexadecimalNumber opening rfl
  have before : (Token.scannerAt Token.defaultLimit "" source 0).closable = false := rfl
  have after : (Token.scannerAt Token.defaultLimit "" source 1).closable = true := by decide
  rw [before, after] at same
  cases same

end MalformedNumber
end WireSchema

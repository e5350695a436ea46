import WireSchema.Token.Coverage

-- The tokens of a source with their positions. The scanner remembers whether a statement may end
-- where it stands: a newline is a terminator there and a blank everywhere else.
namespace WireSchema
open Text Scan

structure Place where
  line : Nat
  column : Nat
deriving DecidableEq

namespace Place

def start : Place := ⟨1, 1⟩

def past (p : Place) (c : Char) : Place := if c = '\n' then ⟨p.line + 1, 1⟩ else ⟨p.line, p.column + 1⟩

def pastAll (p : Place) (text : List Char) : Place := text.foldl past p

-- The end of the text and an undecodable byte count as one column.
def pastFront (p : Place) : List Atom → Place
  | .char c :: _ => p.past c
  | _ => ⟨p.line, p.column + 1⟩

end Place

structure Scanner where
  ahead : List Atom
  place : Place
  closable : Bool

namespace Scanner

def start : List Atom → Scanner
  | .char c :: rest =>
    if c = byteOrderMark then ⟨rest, Place.start.past c, false⟩ else ⟨.char c :: rest, .start, false⟩
  | atoms => ⟨atoms, .start, false⟩

def isBlank (closable : Bool) (c : Char) : Bool :=
  c = ' ' || c = '\t' || c = '\r' || (c = '\n' && !closable)

def leave (r : Reading) (place : Place) (closable : Bool) : Scanner :=
  let stopped := place.pastAll r.taken
  match r.ending with
  | .accepted _ => ⟨r.rest, stopped, closable⟩
  | .rejected _ takesNext =>
    if takesNext then ⟨r.rest.tail, stopped.pastFront r.rest, closable⟩ else ⟨r.rest, stopped, closable⟩

-- The newline at the end of a line comment is not part of its text.
def lexeme (kind : TokenKind) (taken : List Char) : List Char :=
  if kind = .comment ∧ taken.getLast? = some '\n' then taken.dropLast else taken

def stopText : List Atom → String
  | .char c :: _ => if c = '\x00' then "" else .ofList [c]
  | _ => ""

-- A well-formed token longer than the limit is invalid and has no text.
def kindAndText (limit : Nat) (r : Reading) : TokenKind × String :=
  match r.ending with
  | .rejected error _ => (.invalid error, stopText r.rest)
  | .accepted kind =>
    if limit < byteCount r.taken then (.invalid .overflow, "") else (kind, .ofList (lexeme kind r.taken))

def closes (closing : Closing) (before : Bool) (kind : TokenKind) : Bool :=
  match closing with
  | .yes => true
  | .no => false
  | .asBefore => before
  | .ofIdentifier => kind = .identifier

def next (limit : Nat) (file : String) (s : Scanner) : Token × Scanner :=
  let blanks := run (isBlank s.closable) s.ahead
  let place := s.place.pastAll blanks.1
  let position : Position := ⟨file, place.line, place.column⟩
  match front s.closable blanks.2 with
  | .endOfFile => (⟨.endOfFile, "", position⟩, ⟨blanks.2, place, false⟩)
  | .terminator => (⟨.semicolon, "\n", position⟩, ⟨blanks.2, place, false⟩)
  | .reading r closing =>
    let content := kindAndText limit r
    (⟨content.1, content.2, position⟩, leave r place (closes closing s.closable content.1))

-- Every token takes a character or uses up the permission to end a statement.
def measure (s : Scanner) : Nat := 2 * s.ahead.length + s.closable.toNat

end Scanner

namespace Scanner

theorem leave_shorter {r : Reading} {atoms : List Atom} (place : Place) (closable : Bool)
    (covers : r.Covers atoms) (advances : r.Advances) (some : atoms ≠ []) :
    (leave r place closable).ahead.length < atoms.length := by
  have positive := List.length_pos_iff.mpr some
  have length := covers.length
  unfold leave
  rcases advances with taken | ⟨error, ending⟩
  · have := List.length_pos_iff.mpr taken
    split
    · simp only; omega
    · split
      · simp only [List.length_tail]; omega
      · simp only; omega
  · simp only [ending, if_true, List.length_tail]
    omega

theorem next_measure {limit : Nat} {file : String} {s : Scanner}
    (more : (s.next limit file).1.kind ≠ .endOfFile) : (s.next limit file).2.measure < s.measure := by
  have blanks := run_length (isBlank s.closable) s.ahead
  unfold next at more ⊢
  dsimp only at more ⊢
  split at more
  · simp at more
  · rename_i found
    have closable := front_terminator found
    simp only [measure, closable, Bool.toNat_true, Bool.toNat_false] at blanks ⊢
    omega
  · rename_i r closing found
    obtain ⟨covers, advances, some⟩ := front_reading found
    have shorter := leave_shorter (s.place.pastAll (run (isBlank s.closable) s.ahead).1)
      (closes closing s.closable (kindAndText limit r).1) covers advances some
    have after := Bool.toNat_le (leave r (s.place.pastAll (run (isBlank s.closable) s.ahead).1)
      (closes closing s.closable (kindAndText limit r).1)).closable
    simp only [measure]
    omega

def tokens (limit : Nat) (file : String) (s : Scanner) : List Token × Token :=
  if _ended : (s.next limit file).1.kind = .endOfFile then ([], (s.next limit file).1)
  else
    let rest := tokens limit file (s.next limit file).2
    ((s.next limit file).1 :: rest.1, rest.2)
termination_by s.measure
decreasing_by exact next_measure ‹_›

end Scanner

namespace Token

def defaultLimit : Nat := 1048576

def allOf (limit : Nat) (file : String) (source : List UInt8) : List Token × Token :=
  (Scanner.start (decode source)).tokens limit file

end Token
end WireSchema

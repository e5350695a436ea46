import WireSchema.Property.Derived

-- The modes in which the text of an expression is read.
namespace WireSchema.Expression
open Text

-- Whether case counts for nothing, lines have a start and an end, a point stands for a newline too,
-- lines end at carriage returns too, blanks and comments in the text mean nothing, and characters are
-- more than ASCII.
structure Mode where
  anyCase : Bool
  lines : Bool
  pointsAll : Bool
  returns : Bool
  spaced : Bool
  unicode : Bool
deriving DecidableEq

namespace Mode

def plain : Mode := ⟨false, false, false, false, false, true⟩

-- Switches what a letter stands for on or off. Some letters have no meaning; that of `U` makes no
-- difference to where an expression occurs.
def switch? (on : Bool) (mode : Mode) (letter : Char) : Option Mode :=
  match letter with
  | 'i' => some { mode with anyCase := on }
  | 'm' => some { mode with lines := on }
  | 's' => some { mode with pointsAll := on }
  | 'R' => some { mode with returns := on }
  | 'x' => some { mode with spaced := on }
  | 'u' => some { mode with unicode := on }
  | 'U' => some mode
  | _ => none

-- Reads letters to be switched on and, behind a dash, letters to be switched off. No letter comes
-- twice, and there is something behind a dash.
def switched? (mode : Mode) (letters : List Char) : Option Mode :=
  match pieces '-' letters with
  | [on] => if on.Nodup then on.foldlM (switch? true) mode else none
  | [on, off] =>
    if (on ++ off).Nodup ∧ off ≠ [] then do (← on.foldlM (switch? true) mode) |> off.foldlM (switch? false)
    else none
  | _ => none

def significant (comment : Bool) : List Char → List Char
  | [] => []
  | c :: rest =>
    if comment then significant (c ≠ '\n') rest
    else if isWhiteSpace c then significant false rest
    else if c = '#' then significant true rest
    else c :: rest

def ahead (mode : Mode) (text : List Char) : List Char :=
  if mode.spaced then significant false text else text

theorem length_significant_le (comment : Bool) (text : List Char) :
    (significant comment text).length ≤ text.length := by
  fun_induction significant comment text <;> simp_all <;> omega

theorem length_ahead_le (mode : Mode) (text : List Char) : (mode.ahead text).length ≤ text.length := by
  unfold ahead
  split
  · exact length_significant_le false text
  · exact Nat.le_refl _

def braced? (mode : Mode) (comment : Bool) : List Char → Option (List Char × List Char)
  | [] => none
  | c :: rest =>
    if comment then braced? mode (c ≠ '\n') rest
    else if mode.spaced ∧ isWhiteSpace c then braced? mode false rest
    else if mode.spaced ∧ c = '#' then braced? mode true rest
    else if c = '\x7d' then some ([], rest)
    else (braced? mode false rest).map fun (more, after) => (c :: more, after)

def folded (mode : Mode) (characters : CharacterSet) : CharacterSet :=
  if !mode.anyCase then characters
  else if mode.unicode then Property.foldCase characters
  else characters.union ((Property.foldCase (characters.intersection .ascii)).intersection .ascii)

-- Everything that a negation may leave. Without Unicode these are the values of a byte.
def everything (mode : Mode) : CharacterSet := if mode.unicode then .all else .codes 0 0xFF

-- A set as it is meant, or the set of all else. Without Unicode no set goes beyond ASCII.
def settled? (mode : Mode) (negated : Bool) (characters : CharacterSet) : Option CharacterSet :=
  let found := if negated then mode.everything.difference characters else characters
  if mode.unicode || found.isSubset .ascii then some found else none

end Mode
end WireSchema.Expression

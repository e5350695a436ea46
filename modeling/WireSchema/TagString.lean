import WireSchema.Declaration
import WireSchema.Problem
import WireSchema.Text.Writing

-- The string at the end of a member: an ordinal, then keys with or without a value in quotes.
namespace WireSchema
open Text

def literalContent (literal : String) : List Char := literal.toList.tail.dropLast

namespace TagString

structure Contents where
  ordinal : Int
  tags : Tags
  problems : List Problem

-- The ordinal of an enumerator may be zero or negative, every other one is positive.
def ordinal? (signed : Bool) (numeral : List Char) : Option Int :=
  match Decimal.integer? numeral with
  | none => none
  | some n =>
    if -9223372036854775808 ≤ n ∧ n ≤ 9223372036854775807 ∧ (signed ∨ 0 < n) then some n else none

def isKeyCharacter (c : Char) : Bool := c != ' ' && c != ':' && c != '"'

-- A value up to its closing quote and what follows it. A backslash keeps the next character from
-- closing the value.
def value? : List Char → Option (List Char × List Char)
  | [] => none
  | '"' :: rest => some ([], rest)
  | '\\' :: c :: rest => (value? rest).map (fun (value, after) => ('\\' :: c :: value, after))
  | '\\' :: [] => none
  | c :: rest => (value? rest).map (fun (value, after) => (c :: value, after))

theorem value?_shorter {text value after : List Char} (found : value? text = some (value, after)) :
    after.length < text.length := by
  fun_induction value? text generalizing value with
  | case1 => simp at found
  | case2 rest => simp_all
  | case3 c rest ih =>
    obtain ⟨⟨inner, left⟩, read, pair⟩ := Option.map_eq_some_iff.mp found
    cases pair
    have := ih read
    simp only [List.length_cons]
    omega
  | case4 => simp at found
  | case5 c rest _ _ _ ih =>
    obtain ⟨⟨inner, left⟩, read, pair⟩ := Option.map_eq_some_iff.mp found
    cases pair
    have := ih read
    simp only [List.length_cons]
    omega

theorem dropWhile_length_le (p : Char → Bool) (text : List Char) :
    (text.dropWhile p).length ≤ text.length := (List.dropWhile_sublist p).length_le

-- The tags in what follows the ordinal, on top of those already read. Reading stops at the first
-- problem and keeps the tags in front of it. No blank is needed after a value.
def tags (literal : String) (found : Tags) (text : List Char) : Tags × List Problem :=
  let item := text.dropWhile (· = ' ')
  let key := item.takeWhile isKeyCharacter
  match _rest : item.dropWhile isKeyCharacter with
  | [] => if key.isEmpty then (found, []) else (found.insert (.ofList key) "", [])
  | ' ' :: more => tags literal (found.insert (.ofList key) "") more
  | ':' :: '"' :: quoted =>
    if key.isEmpty then (found, [.tagFormat literal])
    else
      match _read : value? quoted with
      | none => (found, [.openTagValue (.ofList key)])
      | some (value, after) => tags literal (found.insert (.ofList key) (.ofList value)) after
  | _ => (found, [.tagFormat literal])
termination_by text.length
decreasing_by
  all_goals
    have key := dropWhile_length_le isKeyCharacter (text.dropWhile (· = ' '))
    have blanks := dropWhile_length_le (· = ' ') text
    have length := congrArg List.length _rest
    simp only [item, List.length_cons] at key blanks length
  · omega
  · have := value?_shorter _read
    omega

-- Reads the literal of a tag string. An ordinal that is none is reported and counts as zero.
def read (signed : Bool) (literal : String) : Contents :=
  let text := (literalContent literal).dropWhile (· = ' ')
  let numeral := text.takeWhile (· != ' ')
  let found := tags literal ∅ (text.dropWhile (· != ' '))
  match ordinal? signed numeral with
  | some n => ⟨n, found.1, found.2⟩
  | none => ⟨0, found.1, .invalidOrdinal (.ofList numeral) :: found.2⟩

end TagString
end WireSchema

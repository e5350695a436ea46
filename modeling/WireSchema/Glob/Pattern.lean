import WireSchema.Text.Writing

-- Patterns that select files by their path below a directory.
namespace WireSchema

-- The library of regular expressions. It may refuse a text; one that it takes is looked for anywhere in a name.
-- It also writes a character so that it stands for itself.
class Regex where
  compile? (text : List Char) : Option (List Char → Bool)
  escape (c : Char) : List Char

namespace Glob
open Text

inductive PatternError where
  | parent
  | adjacentStars
  | segment (text : String)
deriving DecidableEq

namespace PatternError

def message : PatternError → String
  | .parent => "invalid glob token '..'"
  | .adjacentStars => "invalid glob token '**'"
  | .segment text => "invalid glob token '" ++ text ++ "'"

end PatternError

inductive Segment where
  | anyDirectories
  | literal (name : String)
  | expression (test : List Char → Bool)

namespace Segment

def isAnyDirectories : Segment → Bool
  | .anyDirectories => true
  | _ => false

-- A segment taken apart. A bracket is the text of a bracket expression behind its opening bracket.
inductive Part where
  | anyRun
  | anyOne
  | literal (c : Char)
  | bracket (text : List Char)
deriving DecidableEq

-- The text of a bracket expression up to its closing bracket, and what follows it. A closing bracket in
-- front stands for itself. From an opening bracket with a colon on, everything up to the next closing
-- bracket is taken as it is; elsewhere the characters of the operators, but for the dash, stand for
-- themselves.
def bracketText? : (first named : Bool) → List Char → Option (List Char × List Char)
  | _, _, [] => none
  | first, true, c :: rest =>
    (bracketText? first (c ≠ ']') rest).map (fun (more, after) => (c :: more, after))
  | first, false, c :: rest =>
    if c = ']' then
      if first then (bracketText? false false rest).map (fun (more, after) => ('\\' :: c :: more, after))
      else some ([c], rest)
    else if c = '[' ∧ rest.head? = some ':' then
      (bracketText? false true rest).map (fun (more, after) => (c :: more, after))
    else
      let written := if c = '\\' ∨ c = '[' ∨ c = '&' ∨ c = '~' then ['\\', c] else [c]
      (bracketText? false false rest).map (fun (more, after) => (written ++ more, after))

theorem length_bracketText?_le {first named : Bool} {text found after : List Char}
    (read : bracketText? first named text = some (found, after)) : after.length ≤ text.length := by
  fun_induction bracketText? first named text generalizing found
  case case1 => cases read
  case case4 => cases read; simp
  all_goals
    rename_i ih
    obtain ⟨⟨more, left⟩, inner, pair⟩ := Option.map_eq_some_iff.mp read
    cases pair
    have := ih inner
    simp only [List.length_cons]
    omega

def negation : List Char → List Char × List Char
  | '!' :: rest | '^' :: rest => (['^'], rest)
  | rest => ([], rest)

theorem length_negation_le (text : List Char) : (negation text).2.length ≤ text.length := by
  fun_cases negation text <;> simp

def parts? (whole : String) (text : List Char) : Except PatternError (List Part) :=
  match text with
  | [] => .ok []
  | '*' :: rest =>
    if rest.head? = some '*' then .error .adjacentStars
    else (parts? whole rest).map (.anyRun :: ·)
  | '?' :: rest => (parts? whole rest).map (.anyOne :: ·)
  | '[' :: rest =>
    match _read : bracketText? true false (negation rest).2 with
    | some (found, after) => (parts? whole after).map (.bracket ((negation rest).1 ++ found) :: ·)
    | none => .error (.segment whole)
  | c :: rest => (parts? whole rest).map (.literal c :: ·)
termination_by text.length
decreasing_by
  · simp
  · simp
  · have := length_bracketText?_le _read
    have := length_negation_le rest
    simp only [List.length_cons]
    omega
  · simp

section Expression
variable [Regex]

def Part.text : Part → List Char
  | .anyRun => ['.', '*']
  | .anyOne => ['.']
  | .literal c => Regex.escape c
  | .bracket found => '[' :: found

def expressionText (parts : List Part) : List Char := '^' :: parts.flatMap Part.text ++ ['$']

def isMarked (text : String) : Bool := text.toList.any (fun c => c = '*' || c = '?' || c = '[')

-- One segment of a pattern. Two stars alone stand for any directories; a segment without wildcards
-- is the name itself.
def ofText? (text : String) : Except PatternError Segment :=
  if text = "**" then .ok .anyDirectories
  else if text = ".." then .error .parent
  else if isMarked text then do
    match Regex.compile? (expressionText (← parts? text text.toList)) with
    | some test => .ok (.expression test)
    | none => .error (.segment text)
  else .ok (.literal text)

end Expression
end Segment

abbrev Pattern := List Segment

namespace Pattern

-- The segments between the slashes, without empty ones and points. After any directories at the end,
-- any file is meant.
def ofText? [Regex] (text : String) : Except PatternError Pattern := do
  let texts := ((pieces '/' text.toList).map String.ofList).filter (fun t => t ≠ "" && t ≠ ".")
  let segments ← texts.mapM Segment.ofText?
  if segments.getLast?.any Segment.isAnyDirectories then pure (segments ++ [← Segment.ofText? "*"])
  else pure segments

end Pattern
end Glob
end WireSchema

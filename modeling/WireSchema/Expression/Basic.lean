import WireSchema.Text.CharacterSet

-- Regular expressions over characters.
namespace WireSchema
open Text

namespace Expression

inductive WordEdge where
  | boundary | noBoundary | start | finish | startHalf | finishHalf
deriving DecidableEq

-- What is asked of a place without going on from it. Lines may end at a carriage return too, and
-- words may be taken to be made of ASCII characters only.
inductive Look where
  | textStart
  | textEnd
  | lineStart (returns : Bool)
  | lineEnd (returns : Bool)
  | word (edge : WordEdge) (ascii : Bool)
deriving DecidableEq

end Expression

inductive Expression where
  | empty
  | character (c : Char)
  | set (characters : CharacterSet)
  | look (l : Expression.Look)
  | group (e : Expression)
  | sequence (first second : Expression)
  | either (first second : Expression)
  | counted (e : Expression) (least : Nat) (most : Option Nat)
deriving DecidableEq

namespace Expression

def ofSet (characters : CharacterSet) : Expression :=
  match characters.only? with
  | some c => .character c
  | none => .set characters

def ofSequence : List Expression → Expression
  | [] => .empty
  | [e] => e
  | .empty :: rest => ofSequence rest
  | e :: rest =>
    match ofSequence rest with
    | .empty => e
    | others => .sequence e others

def characters? : Expression → Option CharacterSet
  | .character c => some (.single c)
  | .set characters => some characters
  | _ => none

def ofChoices (choices : List Expression) : Expression :=
  match choices.mapM characters? with
  | some sets => ofSet (.unions sets)
  | none =>
    match choices.reverse with
    | [] => .empty
    | last :: others => others.foldl (fun later choice => .either choice later) last

def mayConsume : Expression → Bool
  | .empty | .look _ => false
  | .character _ | .set _ => true
  | .group e => mayConsume e
  | .sequence first second | .either first second => mayConsume first || mayConsume second
  | .counted e _ _ => mayConsume e

def mustConsume : Expression → Bool
  | .empty | .look _ => false
  | .character _ => true
  | .set characters => !characters.isEmpty
  | .group e => mustConsume e
  | .sequence first second => mustConsume first || mustConsume second
  | .either first second => mustConsume first && mustConsume second
  | .counted e least _ => least ≠ 0 && mustConsume e

-- An expression several times in a row. What has no length is the same twice as once.
def ofCount (e : Expression) (least : Nat) (most : Option Nat) : Expression :=
  let (least, most) := if mayConsume e then (least, most) else (min least 1, some (min (most.getD 1) 1))
  if most = some 0 then .empty
  else if least = 1 ∧ most = some 1 then e
  else .counted e least most

end Expression
end WireSchema

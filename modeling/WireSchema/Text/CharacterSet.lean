-- Sets of characters, and what they are made of.
namespace WireSchema.Text

-- A set is kept as the code points at which membership changes, in increasing order: it holds those
-- from the first change up to the second, from the third up to the fourth, and so on.
structure CharacterSet where
  changes : List Nat
deriving DecidableEq

namespace CharacterSet

def holds (held : Bool) : List Nat → Nat → Bool
  | [], _ => held
  | change :: rest, code => if code < change then held else holds (!held) rest code

def containsCode (code : Nat) (set : CharacterSet) : Bool := holds false set.changes code

def contains (c : Char) (set : CharacterSet) : Bool := set.containsCode c.toNat

def change (before after : Bool) (code : Nat) (rest : List Nat) : List Nat :=
  if before = after then rest else code :: rest

-- Goes through the changes of two sets side by side; `f` tells from the membership in both whether
-- a code point is in the result.
def combine (f : Bool → Bool → Bool) (a b : Bool) (left right : List Nat) : List Nat :=
  match left, right with
  | [], [] => []
  | x :: xs, [] => change (f a b) (f (!a) b) x (combine f (!a) b xs [])
  | [], y :: ys => change (f a b) (f a (!b)) y (combine f a (!b) [] ys)
  | x :: xs, y :: ys =>
    if x < y then change (f a b) (f (!a) b) x (combine f (!a) b xs (y :: ys))
    else if y < x then change (f a b) (f a (!b)) y (combine f a (!b) (x :: xs) ys)
    else change (f a b) (f (!a) (!b)) x (combine f (!a) (!b) xs ys)
termination_by left.length + right.length

def union (a b : CharacterSet) : CharacterSet :=
  ⟨combine (fun inA inB => inA || inB) false false a.changes b.changes⟩

def intersection (a b : CharacterSet) : CharacterSet :=
  ⟨combine (fun inA inB => inA && inB) false false a.changes b.changes⟩

def difference (a b : CharacterSet) : CharacterSet :=
  ⟨combine (fun inA inB => inA && !inB) false false a.changes b.changes⟩

def symmetricDifference (a b : CharacterSet) : CharacterSet :=
  ⟨combine (fun inA inB => inA != inB) false false a.changes b.changes⟩

def unions (sets : List CharacterSet) : CharacterSet := sets.foldl union ⟨[]⟩

def isEmpty (set : CharacterSet) : Bool := set.changes.isEmpty

def codes (first last : Nat) : CharacterSet := ⟨[first, last + 1]⟩

def range (first last : Char) : CharacterSet := codes first.toNat last.toNat

def single (c : Char) : CharacterSet := range c c

def ofRanges (ranges : List (Nat × Nat)) : CharacterSet :=
  ⟨ranges.flatMap fun (first, last) => [first, last + 1]⟩

def ofCodes (points : List Nat) : CharacterSet :=
  ⟨points.foldr (fun code changes =>
    match changes with
    | [] => [code, code + 1]
    | next :: more =>
      if next = code then next :: more
      else if next = code + 1 then code :: more
      else code :: (code + 1) :: next :: more) []⟩

def pairs : List Nat → List (Nat × Nat)
  | first :: after :: rest => (first, after - 1) :: pairs rest
  | _ => []

def ranges (set : CharacterSet) : List (Nat × Nat) := pairs set.changes

def maximum : Nat := 0x10FFFF

def all : CharacterSet := codes 0 maximum

def ascii : CharacterSet := codes 0 0x7F

def isSubset (a b : CharacterSet) : Bool := (a.difference b).isEmpty

def complement (set : CharacterSet) : CharacterSet := all.difference set

def only? (set : CharacterSet) : Option Char :=
  match set.changes with
  | [first, after] => if after = first + 1 then some (.ofNat first) else none
  | _ => none

end CharacterSet
end WireSchema.Text

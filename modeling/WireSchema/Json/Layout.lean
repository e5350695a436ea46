import WireSchema.Text.Writing

-- JSON values and their text, with one item or member a line, two blanks deeper for each level. All numbers of the
-- schema model are integers, and members keep their order.
namespace WireSchema

inductive Json where
  | null
  | bool (value : Bool)
  | number (value : Int)
  | string (text : String)
  | array (items : List Json)
  | object (members : List (String × Json))

namespace Json

def ofNat (n : Nat) : Json := .number n

def ofOption {α : Type} (render : α → Json) : Option α → Json
  | none => .null
  | some value => render value

def strings (texts : List String) : Json := .array (texts.map .string)

end Json
end WireSchema

namespace WireSchema.Json
open Text

def indent (depth : Nat) : List Char := '\n' :: .replicate (2 * depth) ' '

mutual

def layout (depth : Nat) : Json → List Char
  | .null => ['n', 'u', 'l', 'l']
  | .bool true => ['t', 'r', 'u', 'e']
  | .bool false => ['f', 'a', 'l', 's', 'e']
  | .number n => Decimal.ofInt n
  | .string s => Quoted.encode s.toList
  | .array [] => ['[', ']']
  | .array (first :: rest) =>
    '[' :: (indent (depth + 1) ++ layout (depth + 1) first ++ layoutItems (depth + 1) rest ++
      indent depth ++ [']'])
  | .object [] => ['\x7b', '\x7d']
  | .object ((key, first) :: rest) =>
    '\x7b' :: (indent (depth + 1) ++ Quoted.encode key.toList ++ [':', ' '] ++
      layout (depth + 1) first ++ layoutMembers (depth + 1) rest ++ indent depth ++ ['\x7d'])

def layoutItems (depth : Nat) : List Json → List Char
  | [] => []
  | item :: rest => ',' :: (indent depth ++ layout depth item ++ layoutItems depth rest)

def layoutMembers (depth : Nat) : List (String × Json) → List Char
  | [] => []
  | (key, value) :: rest =>
    ',' :: (indent depth ++ Quoted.encode key.toList ++ [':', ' '] ++ layout depth value ++
      layoutMembers depth rest)

end

def text (json : Json) : String := .ofList (layout 0 json)

end WireSchema.Json

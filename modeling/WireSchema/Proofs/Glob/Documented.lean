import Mathlib.Logic.Relation
import WireSchema.Glob.Pattern

-- What is documented of regular expressions, as far as segments are turned into them. An expression is a row of
-- elements, such as a character, a class in brackets or a repetition, and each of them matches from one place of a
-- text to another.
namespace WireSchema

inductive Row (spans : List Char → List Char → Nat → Nat → Prop) (text : List Char) : List (List Char) → Nat → Nat → Prop
  | done (i : Nat) : Row spans text [] i i
  | next {e : List Char} {rest : List (List Char)} {i j k : Nat} (here : spans e text i j)
    (later : Row spans text rest j k) : Row spans text (e :: rest) i k

namespace Row
variable {spans : List Char → List Char → Nat → Nat → Prop} {text e : List Char} {first second rest : List (List Char)}
  {i j k : Nat}

theorem nil_iff : Row spans text [] i j ↔ j = i := by
  constructor
  · rintro ⟨⟩
    rfl
  · rintro rfl
    exact .done _

theorem cons_iff : Row spans text (e :: rest) i k ↔ ∃ j, spans e text i j ∧ Row spans text rest j k := by
  constructor
  · rintro (_ | ⟨here, later⟩)
    exact ⟨_, here, later⟩
  · rintro ⟨j, here, later⟩
    exact .next here later

theorem append_iff : Row spans text (first ++ second) i k ↔
    ∃ j, Row spans text first i j ∧ Row spans text second j k := by
  induction first generalizing i with
  | nil => simp [nil_iff]
  | cons e rest ih =>
    simp only [List.cons_append, cons_iff, ih]
    constructor
    · rintro ⟨h, here, j, before, after⟩
      exact ⟨j, ⟨h, here, before⟩, after⟩
    · rintro ⟨j, ⟨h, here, before⟩, after⟩
      exact ⟨h, here, j, before, after⟩

end Row

namespace Regex

-- How one character of a class is written: what would mean something there has a backslash in front.
def classCharacter (c : Char) : List Char :=
  if c = '\\' ∨ c = '[' ∨ c = ']' ∨ c = '&' ∨ c = '~' ∨ c = '^' ∨ c = '-' then ['\\', c] else [c]

-- `element` are the texts that are one element each, and `spans` says from where to where they match. Nothing is said
-- of which texts are accepted: an expression may always be too large. What stands in brackets is an element if it is
-- one class that ends with the last bracket; then it matches one character, whichever it is made for.
structure Documented [Regex] (element : List Char → Prop) (spans : List Char → List Char → Nat → Nat → Prop) : Prop where
  row : ∀ {es : List (List Char)} {test : List Char → Bool}, (∀ e ∈ es, element e) → compile? es.flatten = some test →
    ∀ text, test text = true ↔ ∃ i j, i ≤ text.length ∧ Row spans text es i j
  start : element ['^'] ∧ ∀ text i j, spans ['^'] text i j ↔ i = 0 ∧ j = i
  finish : element ['$'] ∧ ∀ text i j, spans ['$'] text i j ↔ i = text.length ∧ j = i
  any : element ['.'] ∧ ∀ text i j, spans ['.'] text i j ↔ (∃ c, text[i]? = some c ∧ c ≠ '\n') ∧ j = i + 1
  run : element ['.', '*'] ∧ ∀ text i j, spans ['.', '*'] text i j ↔ Relation.ReflTransGen (spans ['.'] text) i j
  escaped : ∀ c, element (escape c) ∧ ∀ text i j, spans (escape c) text i j ↔ text[i]? = some c ∧ j = i + 1
  bracket : ∀ {inside : List Char}, element ('[' :: inside) → ∀ text i j, spans ('[' :: inside) text i j ↔
    (∃ c, text[i]? = some c ∧ spans ('[' :: inside) [c] 0 1) ∧ j = i + 1
  single : ∀ c, element ('[' :: (classCharacter c ++ [']'])) ∧
    ∀ d, spans ('[' :: (classCharacter c ++ [']'])) [d] 0 1 ↔ d = c

end Regex
end WireSchema

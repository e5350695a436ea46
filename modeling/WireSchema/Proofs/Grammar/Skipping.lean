import Mathlib
import WireSchema.Binding
import WireSchema.Proofs.Grammar.Files

-- Where reading goes on behind an identifier that starts no declaration: at the first terminator in front of which as
-- many braces were opened as were closed, or else where the words end or cannot be read.
namespace WireSchema.Grammar
open Reader hiding pure

-- Words up to the first one that ends them, as the words in front of it decide, and what is left from there on.
structure Cut (ends : List Documented → Documented → Prop) (words passed left : List Documented) : Prop where
  whole : words = passed ++ left
  last : ∀ w ∈ left.head?, ends passed w
  first : ∀ front w behind, passed = front ++ w :: behind → ¬ ends front w

namespace Cut
variable {ends other : List Documented → Documented → Prop} {words passed left passed' left' : List Documented}
  {word : Documented}

theorem here (last : ends [] word) : Cut ends (word :: words) [] (word :: words) :=
  ⟨rfl, by simpa using last, by simp⟩

theorem later (goes : ¬ ends [] word) (cut : Cut (fun front => ends (word :: front)) words passed left) :
    Cut ends (word :: words) (word :: passed) left := by
  refine ⟨by rw [cut.whole, List.cons_append], cut.last, ?_⟩
  intro front w behind whole
  cases front with
  | nil =>
    cases whole
    exact goes
  | cons first rest =>
    obtain ⟨rfl, same⟩ := List.cons.inj whole
    exact cut.first rest w behind same

theorem congr (cut : Cut ends words passed left)
    (same : ∀ front, front <+: passed → ∀ w, other front w ↔ ends front w) : Cut other words passed left := by
  refine ⟨cut.whole, fun w member => (same passed (List.prefix_refl _) w).mpr (cut.last w member), ?_⟩
  intro front w behind whole
  rw [same front ⟨_, whole.symm⟩ w]
  exact cut.first front w behind whole

theorem shorter (one : Cut ends words passed left) (two : Cut ends words passed' left') {w : Documented}
    {more : List Documented} (behind : passed' = passed ++ w :: more) : False := by
  refine two.first passed w more behind (one.last w ?_)
  have same := one.whole.symm.trans two.whole
  rw [behind, List.append_assoc] at same
  rw [List.append_cancel_left same]
  rfl

theorem unique (one : Cut ends words passed left) (two : Cut ends words passed' left') :
    passed = passed' ∧ left = left' := by
  rcases List.append_eq_append_iff.mp (one.whole.symm.trans two.whole) with ⟨more, longer, rest⟩ | ⟨more, longer, rest⟩
  · cases more with
    | nil => exact ⟨by simpa using longer.symm, by simpa using rest⟩
    | cons w more => exact (one.shorter two longer).elim
  · cases more with
    | nil => exact ⟨by simpa using longer, by simpa using rest.symm⟩
    | cons w more => exact (two.shorter one longer).elim

end Cut

def opened (words : List Documented) : Nat := words.countP (·.kind = .openBrace)

def closed (words : List Documented) : Nat := words.countP (·.kind = .closeBrace)

-- Braces that are still open behind some words. A closing brace closes nothing where none is open.
def stillOpen (words : List Documented) : Nat :=
  words.foldl (fun n word => if word.kind = .openBrace then n + 1 else if word.kind = .closeBrace then n - 1 else n) 0

def Matched (words : List Documented) : Prop := ∀ front, front <+: words → closed front ≤ opened front

instance (words : List Documented) : Decidable (Matched words) :=
  decidable_of_iff (∀ front ∈ words.inits, closed front ≤ opened front) (by simp [Matched])

theorem opened_append (front words : List Documented) : opened (front ++ words) = opened front + opened words :=
  List.countP_append

theorem closed_append (front words : List Documented) : closed (front ++ words) = closed front + closed words :=
  List.countP_append

theorem stillOpen_concat (front : List Documented) (word : Documented) : stillOpen (front ++ [word]) =
    if word.kind = .openBrace then stillOpen front + 1
    else if word.kind = .closeBrace then stillOpen front - 1 else stillOpen front :=
  List.foldl_concat _ _ _ _

-- What ends a statement: a word that cannot be read, or a terminator where nothing is open.
def EndsStatement (nothingOpen : List Documented → Prop) (front : List Documented) (word : Documented) : Prop :=
  (∃ error, word.kind = .invalid error) ∨ word.kind = .semicolon ∧ nothingOpen front

theorem Matched.stillOpen {words : List Documented} (isMatched : Matched words) :
    stillOpen words + closed words = opened words := by
  induction words using List.reverseRecOn with
  | nil => rfl
  | append_singleton front word ih =>
    have inFront := ih fun more isPrefix => isMatched more (isPrefix.trans (List.prefix_append _ _))
    have whole := isMatched _ (List.prefix_refl _)
    rw [opened_append, closed_append] at whole ⊢
    rw [stillOpen_concat]
    by_cases opens : word.kind = .openBrace
    · have counts : opened [word] = 1 ∧ closed [word] = 0 := by simp [opened, closed, opens]
      rw [if_pos opens]
      omega
    · by_cases closes : word.kind = .closeBrace
      · have counts : opened [word] = 0 ∧ closed [word] = 1 := by simp [opened, closed, closes]
        rw [if_neg opens, if_pos closes]
        omega
      · have counts : opened [word] = 0 ∧ closed [word] = 0 := by simp [opened, closed, opens, closes]
        rw [if_neg opens, if_neg closes]
        omega

theorem cut_later {level after : Int} {word : Documented} {words passed left : List Documented}
    (goes : ¬ EndsStatement (fun front => level + opened front = closed front) [] word)
    (counts : after = level + opened [word] - closed [word])
    (cut : Cut (EndsStatement fun front => after + opened front = closed front) words passed left) :
    Cut (EndsStatement fun front => level + opened front = closed front) (word :: words) (word :: passed) left := by
  refine cut.congr (fun front _ w => ?_) |>.later goes
  refine or_congr_right (and_congr_right fun _ => ?_)
  have opens : opened (word :: front) = opened [word] + opened front := opened_append [word] front
  have closes : closed (word :: front) = closed [word] + closed front := closed_append [word] front
  dsimp only
  rw [opens, closes]
  omega

theorem skipWords_cut (level : Int) (words : List Documented) : ∃ passed,
    Cut (EndsStatement fun front => level + opened front = closed front) words passed (skipWords level words) := by
  -- for any level, since a brace that is passed over changes it for the words behind
  fun_induction skipWords level words with
  | case1 level => exact ⟨[], rfl, by simp, by simp⟩
  | case2 level word rest error kind => exact ⟨[], .here (.inl ⟨error, kind⟩)⟩
  | case3 word rest kind => exact ⟨[], .here (.inr ⟨kind, rfl⟩)⟩
  | case4 level word rest kind nested ih =>
    obtain ⟨passed, cut⟩ := ih
    refine ⟨word :: passed, cut_later ?_ (by simp [opened, closed, kind]) cut⟩
    simp [EndsStatement, kind, opened, closed, nested]
  | case5 level word rest kind ih =>
    obtain ⟨passed, cut⟩ := ih
    exact ⟨word :: passed, cut_later (by simp [EndsStatement, kind]) (by simp [opened, closed, kind]) cut⟩
  | case6 level word rest kind ih =>
    obtain ⟨passed, cut⟩ := ih
    exact ⟨word :: passed, cut_later (by simp [EndsStatement, kind]) (by simp [opened, closed, kind]) cut⟩
  | case7 level word rest invalid semicolon openBrace closeBrace ih =>
    obtain ⟨passed, cut⟩ := ih
    exact ⟨word :: passed, cut_later (by simp_all [EndsStatement]) (by simp_all [opened, closed]) cut⟩

def skipNarrow (level : Int32) : List Documented → List Documented
  | [] => []
  | word :: rest =>
    match word.kind with
    | .invalid _ => word :: rest
    | .semicolon => if level = 0 then word :: rest else skipNarrow level rest
    | .openBrace => skipNarrow (level + 1) rest
    | .closeBrace => skipNarrow (level - 1) rest
    | _ => skipNarrow level rest

theorem narrow_toInt {level : Int} (room : level.natAbs < 2 ^ 31) : (Int32.ofInt level).toInt = level := by
  refine Int32.toInt_ofInt_of_le ?_ ?_ <;> omega

-- The level is at most as far from zero as there are words, so a narrow one is as good for fewer than 2^31 of them.
theorem skipNarrow_eq (level : Int) (words : List Documented) (room : level.natAbs + words.length < 2 ^ 31) :
    skipNarrow (.ofInt level) words = skipWords level words := by
  fun_induction skipWords level words with
  | case1 level => rfl
  | case2 level word rest error kind => rw [skipNarrow, kind]
  | case3 word rest kind =>
    rw [skipNarrow, kind]
    rfl
  | case4 level word rest kind nested ih =>
    rw [List.length_cons] at room
    have apart : Int32.ofInt level ≠ 0 := by
      intro same
      have back := (narrow_toInt (by omega) : (Int32.ofInt level).toInt = level)
      rw [same] at back
      exact nested back.symm
    rw [skipNarrow, kind, ← ih (by omega)]
    exact if_neg apart
  | case5 level word rest kind ih =>
    rw [List.length_cons] at room
    rw [skipNarrow, kind, ← ih (by omega), Int32.ofInt_add]
    rfl
  | case6 level word rest kind ih =>
    rw [List.length_cons] at room
    rw [skipNarrow, kind, ← ih (by omega), Int32.ofInt_sub]
    rfl
  | case7 level word rest invalid semicolon openBrace closeBrace ih =>
    rw [List.length_cons] at room
    rw [← ih (by omega), skipNarrow]
    split <;> simp_all
theorem item_skips {t : Tape} (identifier : t.current.kind = .identifier) : item t =
    ⟨none, [⟨t.current.position, .strayIdentifier t.current.text⟩], [], ⟨skipWords 0 t.advance.ahead, t.finish⟩⟩ := by
  simp [item, bind_apply, identifier, skipStatement, Tape.advance]

theorem items_terminator {t : Tape} (proper : t.Proper) (kind : t.current.kind = .semicolon) :
    (items t).value = ⟨none, [], [], t.advance⟩ :: (items t.advance).value := by
  rw [items_go proper (by simp [kind]), item_semicolon kind]

-- An identifier that starts no declaration is reported, and nothing else is up to the first terminator in front of
-- which as many braces were opened as closed. That is where nothing is open, unless a brace was closed that was not
-- opened. What stands behind the terminator is read as it would be without all that.
theorem items_skip (t : Tape) (proper : t.Proper) (identifier : t.current.kind = .identifier) :
    ∃ passed left, Cut (EndsStatement fun front => opened front = closed front) t.advance.ahead passed left ∧
      (∀ passed' left', Cut (EndsStatement fun front => stillOpen front = 0) t.advance.ahead passed' left' →
        Matched passed' → passed = passed' ∧ left = left') ∧
      (items t).value = ⟨none, [⟨t.current.position, .strayIdentifier t.current.text⟩], [], ⟨left, t.finish⟩⟩ ::
        (items ⟨left, t.finish⟩).value ∧
      ∀ terminator behind, left = terminator :: behind → terminator.kind = .semicolon →
        (items ⟨left, t.finish⟩).value = ⟨none, [], [], ⟨behind, t.finish⟩⟩ :: (items ⟨behind, t.finish⟩).value := by
  obtain ⟨passed, cut⟩ := skipWords_cut 0 t.advance.ahead
  have balanced : Cut (EndsStatement fun front => opened front = closed front) t.advance.ahead passed
      (skipWords 0 t.advance.ahead) :=
    cut.congr fun front _ w => or_congr_right (and_congr_right fun _ => by dsimp only; omega)
  refine ⟨passed, skipWords 0 t.advance.ahead, balanced, ?_, ?_, ?_⟩
  · intro passed' left' nothingOpen isMatched
    refine balanced.unique (nothingOpen.congr fun front isPrefix w => ?_)
    have counted := Matched.stillOpen fun more inFront => isMatched more (inFront.trans isPrefix)
    exact or_congr_right (and_congr_right fun _ => by dsimp only; omega)
  · rw [items_go proper (by simp [identifier]), item_skips identifier]
  · intro terminator behind same kind
    have stopped := proper.leads (item_takes.forward t)
    rw [item_skips identifier] at stopped
    dsimp only at stopped
    rw [same] at stopped ⊢
    exact items_terminator stopped kind

-- The brace behind the second identifier closes nothing, and so nothing closes the one of the declaration.
namespace UnopenedBrace

def source : List UInt8 := Text.encode
  "package p; x \x7b ; \x7d; y \x7d; struct S \x7b \x7d".toList

def place (column : Nat) : Position := ⟨"", 1, column⟩

def word (kind : TokenKind) (text : String) (column : Nat) : Documented := ⟨⟨kind, text, place column⟩, []⟩

def finish : Documented := word .endOfFile "" 38

def words : List Documented := [
  word (.keyword .package) "package" 1, word .identifier "p" 9, word .semicolon ";" 10,
  word .identifier "x" 12, word .openBrace "\x7b" 14, word .semicolon ";" 16, word .closeBrace "\x7d" 18,
  word .semicolon ";" 19, word .identifier "y" 21, word .closeBrace "\x7d" 23, word .semicolon ";" 24,
  word (.keyword .struct) "struct" 26, word .identifier "S" 33, word .openBrace "\x7b" 35,
  word .closeBrace "\x7d" 37, word .semicolon "\n" 38]

theorem tokens : Token.allOf Token.defaultLimit "" source = (words.map (·.token), finish.token) := by
  exact Token.allOf_first (n := 16) rfl rfl (by decide) rfl

def behind (n : Nat) : Tape := ⟨words.drop n, finish⟩

theorem proper (n : Nat) : (behind n).Proper := by
  have whole : (behind 0).Proper := by
    have ofSource := Tape.ofSource_proper Token.defaultLimit "" source
    rwa [tokens] at ofSource
  exact whole.leads ⟨List.drop_suffix n words, rfl⟩

theorem first_statement : Cut (EndsStatement fun front => stillOpen front = 0) (words.drop 4)
    [word .openBrace "\x7b" 14, word .semicolon ";" 16, word .closeBrace "\x7d" 18] (words.drop 7) := by
  refine .later ?_ (.later ?_ (.later ?_ (.here (.inr ⟨rfl, rfl⟩))))
  all_goals simp [EndsStatement, stillOpen, word, Documented.kind]

theorem items_first : (behind 3).Proper ∧ (behind 3).current.kind = .identifier ∧
    (items (behind 3)).value = ⟨none, [⟨place 12, .strayIdentifier "x"⟩], [], behind 7⟩ ::
      ⟨none, [], [], behind 8⟩ :: (items (behind 8)).value := by
  obtain ⟨passed, left, _, stops, skipped, goes⟩ := items_skip (behind 3) (proper 3) rfl
  obtain ⟨rfl, rfl⟩ := stops _ _ first_statement (by decide)
  refine ⟨proper 3, rfl, ?_⟩
  rw [skipped, goes (word .semicolon ";" 19) (words.drop 8) rfl rfl]
  rfl

theorem second_statement : Cut (EndsStatement fun front => stillOpen front = 0) (words.drop 9)
    [word .closeBrace "\x7d" 23] (words.drop 10) := by
  refine .later ?_ (.here (.inr ⟨rfl, rfl⟩))
  simp [EndsStatement, stillOpen, word, Documented.kind]

def file : SourceFile where
  name := ""
  doc := []
  package := ⟨place 1, "p"⟩
  imports := ∅
  declarations := []
  symbols := ⟨[], []⟩

theorem understood : SourceFile.understand "" source =
    (file, [⟨place 12, .strayIdentifier "x"⟩, ⟨place 21, .strayIdentifier "y"⟩]) := by
  have bound : SourceFile.bound "" source =
      ⟨file, [], [⟨place 12, .strayIdentifier "x"⟩, ⟨place 21, .strayIdentifier "y"⟩]⟩ := by
    rw [SourceFile.bound, tokens]
    cbv
  rw [SourceFile.understand, bound]
  cbv

-- Nothing is open at the terminator behind the second identifier, and yet the declaration behind it is not read.
theorem swallowed : (SourceFile.understand "" source).1.declarations = [] ∧
    ¬ ∀ t : Tape, t.Proper → t.current.kind = .identifier → ∀ passed left,
      Cut (EndsStatement fun front => stillOpen front = 0) t.advance.ahead passed left → (item t).tape.ahead = left := by
  refine ⟨congrArg (·.1.declarations) understood, fun stops => ?_⟩
  have stopped := stops (behind 8) (proper 8) rfl _ _ second_statement
  rw [item_skips rfl] at stopped
  exact absurd (congrArg List.length stopped) (by decide)

end UnopenedBrace
end WireSchema.Grammar

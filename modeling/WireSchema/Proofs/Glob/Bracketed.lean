import Mathlib
import WireSchema.Proofs.Glob.Elementary
import WireSchema.Proofs.Glob.Wildcards
import WireSchema.Proofs.Text.Decoding

-- A name in a pattern against the same name with one of its characters in brackets. A name is looked up in its
-- directory and a bracket is matched with all the names there, and both find the same.
namespace WireSchema
open Text
namespace Glob

namespace Segment

def IsPlain (text : List Char) : Prop := ∀ c ∈ text, c ≠ '*' ∧ c ≠ '?' ∧ c ≠ '['

theorem parts?_plain {text : List Char} (plain : IsPlain text) (whole : String) (rest : List Char) :
    parts? whole (text ++ rest) = (parts? whole rest).map (text.map .literal ++ ·) := by
  induction text with
  | nil =>
    rw [List.nil_append]
    cases parts? whole rest <;> rfl
  | cons c text ih =>
    obtain ⟨⟨noRun, noOne, noBracket⟩, others⟩ := List.forall_mem_cons.mp plain
    rw [List.cons_append, parts?.eq_5 _ _ _ noRun noOne noBracket, ih others]
    cases parts? whole rest <;> rfl

theorem bracketText?_single {c : Char} (unmarked : c ≠ '^' ∧ c ≠ '-') (closed : c ≠ '[') (rest : List Char) :
    bracketText? true false (c :: ']' :: rest) = some (Regex.classCharacter c ++ [']'], rest) := by
  have last : bracketText? false false (']' :: rest) = some ([']'], rest) := by simp [bracketText?]
  rw [bracketText?]
  by_cases isClose : c = ']'
  · subst isClose
    simp [last, Regex.classCharacter]
  · rw [if_neg isClose, if_neg (fun named => closed named.1), last]
    simp [Regex.classCharacter, isClose, closed, unmarked]

section One
variable {left right : List Char} {c : Char}

def oneBracketed (left : List Char) (c : Char) (right : List Char) : List Part :=
  left.map .literal ++ .bracket (Regex.classCharacter c ++ [']']) :: right.map .literal

theorem parts?_bracketed (plain : IsPlain (left ++ c :: right)) (unmarked : c ≠ '!' ∧ c ≠ '^' ∧ c ≠ '-') (whole : String) :
    parts? whole (left ++ '[' :: c :: ']' :: right) = .ok (oneBracketed left c right) := by
  obtain ⟨before, here, after⟩ : IsPlain left ∧ c ≠ '[' ∧ IsPlain right := by
    simp only [IsPlain, List.forall_mem_append, List.forall_mem_cons] at plain
    exact ⟨plain.1, plain.2.1.2.2, plain.2.2⟩
  have inside : negation (c :: ']' :: right) = ([], c :: ']' :: right) := by
    unfold negation
    split
    · rename_i negated
      exact absurd (List.cons.inj negated).1 unmarked.1
    · rename_i negated
      exact absurd (List.cons.inj negated).1 unmarked.2.1
    · rfl
  have ofRight : parts? whole right = .ok (right.map .literal) := by
    have all := parts?_plain after whole []
    rwa [List.append_nil, parts?, Except.map, List.append_nil] at all
  have ofBracket : parts? whole ('[' :: c :: ']' :: right) =
      .ok (.bracket (Regex.classCharacter c ++ [']']) :: right.map .literal) := by
    have closed := bracketText?_single unmarked.2 here right
    rw [parts?]
    split
    · rename_i found rest read
      rw [inside, closed] at read
      cases read
      rw [inside, ofRight]
      rfl
    · rename_i read
      rw [inside, closed] at read
      cases read
  rw [parts?_plain before, ofBracket]
  rfl

theorem covered_append {holds : List Char → Char → Prop} {first second : List Part} {name : List Char} :
    Covered holds (first ++ second) name ↔ ∃ front back, name = front ++ back ∧ Covered holds first front ∧
      Covered holds second back := by
  induction first generalizing name with
  | nil => simp [Covered]
  | cons part rest ih =>
    simp only [List.cons_append, Covered, ih]
    constructor
    · rintro ⟨taken, _, rfl, covers, front, back, rfl, before, after⟩
      exact ⟨taken ++ front, back, (List.append_assoc ..).symm, ⟨taken, front, rfl, covers, before⟩, after⟩
    · rintro ⟨_, back, rfl, ⟨taken, front, rfl, covers, before⟩, after⟩
      exact ⟨taken, front ++ back, List.append_assoc .., covers, front, back, rfl, before, after⟩

theorem covered_literals {holds : List Char → Char → Prop} {text name : List Char} :
    Covered holds (text.map .literal) name ↔ name = text := by
  induction text generalizing name with
  | nil => rfl
  | cons c rest ih => simp [Covered, Part.Covers, ih]

theorem covered_bracketed {holds : List Char → Char → Prop} {name : List Char}
    (held : ∀ d, holds (Regex.classCharacter c ++ [']']) d ↔ d = c) :
    Covered holds (oneBracketed left c right) name ↔ name = left ++ c :: right := by
  rw [oneBracketed, covered_append]
  simp only [covered_literals, Covered, Part.Covers, held]
  constructor
  · rintro ⟨_, _, rfl, rfl, _, _, rfl, ⟨_, rfl, rfl⟩, rfl⟩
    rfl
  · rintro rfl
    exact ⟨left, c :: right, rfl, rfl, [c], right, rfl, ⟨c, rfl, rfl⟩, rfl⟩

variable [Regex] {element : List Char → Prop} {spans : List Char → List Char → Nat → Nat → Prop}

theorem ofText?_bracketed (documented : Regex.Documented element spans) (plain : IsPlain (left ++ c :: right))
    (unmarked : c ≠ '!' ∧ c ≠ '^' ∧ c ≠ '-') {text : String} (spelled : text.toList = left ++ '[' :: c :: ']' :: right) :
    match Regex.compile? (expressionText (oneBracketed left c right)) with
    | some test => ofText? text = .ok (.expression test) ∧ ∀ name, test name = true ↔ name = left ++ c :: right
    | none => ofText? text = .error (.segment text) := by
  have marked : isMarked text = true := by simp [isMarked, spelled]
  have noStars : text ≠ "**" := by
    rintro rfl
    have among : '[' ∈ "**".toList := by simp [spelled]
    exact absurd among (by decide)
  have noParent : text ≠ ".." := by
    rintro rfl
    have among : '[' ∈ "..".toList := by simp [spelled]
    exact absurd among (by decide)
  have read : ofText? text = match Regex.compile? (expressionText (oneBracketed left c right)) with
      | some test => .ok (.expression test)
      | none => .error (.segment text) := by
    rw [ofText?, if_neg noStars, if_neg noParent, if_pos marked, spelled, parts?_bracketed plain unmarked]
    rfl
  rw [read]
  cases accepted : Regex.compile? (expressionText (oneBracketed left c right)) with
  | none => rfl
  | some test =>
    have whole : Whole element (oneBracketed left c right) := by
      intro bracket member
      have same : bracket = Regex.classCharacter c ++ [']'] := by simpa [oneBracketed] using member
      exact same ▸ (documented.single c).1
    refine ⟨rfl, fun name => (expression_covered documented whole accepted name).trans ?_⟩
    exact covered_bracketed (documented.single c).2

end One
end Segment

-- A pattern with a segment that is a plain name, and the same with one character of the name in brackets. Marks of
-- negation and of ranges would mean something there. A point alone is no name, and two of them are refused.
structure Respelling where
  front : List (List Char)
  left : List Char
  inside : Char
  right : List Char
  back : List (List Char)
  apart : ∀ segment ∈ front ++ (left ++ inside :: right) :: back, '/' ∉ segment
  plain : Segment.IsPlain (left ++ inside :: right)
  named : left ++ inside :: right ≠ ['.'] ∧ left ++ inside :: right ≠ ['.', '.']
  unmarked : inside ≠ '!' ∧ inside ≠ '^' ∧ inside ≠ '-'

namespace Respelling

def name (r : Respelling) : List Char := r.left ++ r.inside :: r.right

def bracketed (r : Respelling) : List Char := r.left ++ '[' :: r.inside :: ']' :: r.right

def pattern (r : Respelling) (segment : List Char) : String := .ofList (['/'].intercalate (r.front ++ segment :: r.back))

def IsBehind (r : Respelling) : Prop := ∃ segment ∈ r.front, segment ≠ [] ∧ segment ≠ ['.']

variable {r : Respelling} {segment : List Char}

theorem pieces_pattern (apart : '/' ∉ segment) :
    pieces '/' (r.pattern segment).toList = r.front ++ segment :: r.back := by
  have whole : ∀ text ∈ r.front ++ segment :: r.back, '/' ∉ text := by
    have around := r.apart
    simp only [List.forall_mem_append, List.forall_mem_cons] at around ⊢
    exact ⟨around.1, apart, around.2.2⟩
  rw [pattern, String.toList_ofList, pieces_eq, List.splitOn_intercalate _ whole (by simp)]

theorem admits_replace {one other : Segment} (single : one ≠ .anyDirectories ∧ other ≠ .anyDirectories)
    (same : ∀ name, one.admits name = other.admits name) (front back : Pattern) :
    Pattern.admits (front ++ one :: back) = Pattern.admits (front ++ other :: back) := by
  induction front with
  | nil =>
    funext names
    rw [List.nil_append, List.nil_append, Bool.eq_iff_iff, Pattern.admits_cons single.1, Pattern.admits_cons single.2]
    simp only [same]
  | cons segment front ih =>
    funext names
    cases segment <;> cases names <;> simp [Pattern.admits, ih]

theorem lists_replace {front back other : Pattern} (some_ : front ≠ []) :
    Pattern.lists (front ++ back) = Pattern.lists (front ++ other) := by
  obtain ⟨first, rest, rfl⟩ := List.exists_cons_of_ne_nil some_
  cases first <;> rfl

theorem whole (r : Respelling) : '/' ∉ r.name ∧ '/' ∉ r.bracketed := by
  have inName := r.apart (r.left ++ r.inside :: r.right) (by simp)
  refine ⟨inName, ?_⟩
  simp only [bracketed, List.mem_append, List.mem_cons, not_or] at inName ⊢
  exact ⟨inName.1, by decide, inName.2.1, by decide, inName.2.2⟩

theorem proper_bracketed (r : Respelling) : r.bracketed ≠ [] ∧ r.bracketed ≠ ['.'] := by
  have bracket : '[' ∈ r.bracketed := by simp [bracketed]
  constructor <;> intro same <;> simp [same] at bracket

section Reading
variable [Regex]

def Accepted (r : Respelling) : Prop :=
  (Regex.compile? (Segment.expressionText (Segment.oneBracketed r.left r.inside r.right))).isSome

def around (r : Respelling) : Except PatternError (Pattern × Pattern) := do
  let front ← (written r.front).mapM Segment.ofText?
  let back ← (written r.back).mapM Segment.ofText?
  pure (front, ← Pattern.closed back)

theorem closed_append {found : Segment} (single : found ≠ .anyDirectories) (front back : Pattern) :
    Pattern.closed (front ++ found :: back) = (Pattern.closed back).map (front ++ found :: ·) := by
  have last : (front ++ found :: back).getLast?.any Segment.isAnyDirectories = back.getLast?.any Segment.isAnyDirectories := by
    cases back with
    | nil => cases found <;> simp_all [Segment.isAnyDirectories]
    | cons => simp [List.getLast?_append, List.getLast?_cons]
  unfold Pattern.closed
  rw [last]
  split
  · cases Segment.ofText? "*" <;> simp [Except.map]
  · rfl

theorem ofText?_pattern (apart : '/' ∉ segment) (some_ : segment ≠ [] ∧ segment ≠ ['.']) :
    Pattern.ofText? (r.pattern segment) = (do
      let front ← (written r.front).mapM Segment.ofText?
      let found ← Segment.ofText? (.ofList segment)
      let back ← (written r.back).mapM Segment.ofText?
      Pattern.closed (front ++ found :: back)) := by
  have texts : written (r.front ++ segment :: r.back) = written r.front ++ .ofList segment :: written r.back := by
    simp only [written, List.map_append, List.filter_append, List.map_cons]
    rw [List.filter_cons_of_pos]
    simp [← String.toList_inj, some_]
  rw [Pattern.ofText?_written, pieces_pattern apart, texts, List.mapM_append, List.mapM_cons]
  simp only [bind_assoc, pure_bind]

theorem ofText?_around (apart : '/' ∉ segment) (some_ : segment ≠ [] ∧ segment ≠ ['.']) {found : Segment}
    (read : Segment.ofText? (.ofList segment) = .ok found) (single : found ≠ .anyDirectories) :
    Pattern.ofText? (r.pattern segment) = r.around.map fun (front, back) => front ++ found :: back := by
  rw [ofText?_pattern apart some_, read, around]
  cases (written r.front).mapM Segment.ofText? with
  | error error => rfl
  | ok front =>
    cases (written r.back).mapM Segment.ofText? with
    | error error => rfl
    | ok back =>
      refine (closed_append single front back).trans ?_
      simp only [bind, Except.bind]
      cases Pattern.closed back <;> rfl

theorem ofText?_name (r : Respelling) : Segment.ofText? (.ofList r.name) = .ok (.literal (.ofList r.name)) := by
  have unmarked : Segment.isMarked (.ofList r.name) = false := by
    rw [Segment.isMarked, String.toList_ofList, List.any_eq_false]
    intro c member
    simp [r.plain c member]
  have noStars : String.ofList r.name ≠ "**" := by
    intro stars
    rw [stars] at unmarked
    cases unmarked
  have noParent : String.ofList r.name ≠ ".." := by
    rw [ne_eq, ← String.toList_inj, String.toList_ofList]
    exact r.named.2
  rw [Segment.ofText?, if_neg noStars, if_neg noParent, unmarked]
  rfl

theorem IsBehind.front_some (behind : r.IsBehind) {front back : Pattern} (read : r.around = .ok (front, back)) :
    front ≠ [] := by
  obtain ⟨segment, member, filled, proper⟩ := behind
  have text : .ofList segment ∈ written r.front := by
    rw [written, List.mem_filter]
    exact ⟨List.mem_map_of_mem member, by simp [← String.toList_inj, filled, proper]⟩
  unfold around at read
  cases ofFront : (written r.front).mapM Segment.ofText? with
  | error error => simp [ofFront, bind, Except.bind] at read
  | ok others =>
    have same : others = front := by
      simp only [ofFront, bind, Except.bind] at read
      split at read
      · cases read
      · split at read
        · cases read
        · exact (Prod.mk.inj (Except.ok.inj read)).1
    rintro rfl
    have none := List.forall₂_nil_right_iff.mp (mapM_ok.mp (same ▸ ofFront))
    rw [none] at text
    cases text

variable {element : List Char → Prop} {spans : List Char → List Char → Nat → Nat → Prop}

theorem around_respelled (documented : Regex.Documented element spans) (r : Respelling) (accepted : r.Accepted) :
    ∃ one other : Segment, (one ≠ .anyDirectories ∧ other ≠ .anyDirectories) ∧
      (∀ name, one.admits name = other.admits name) ∧
      Pattern.ofText? (r.pattern r.bracketed) = r.around.map (fun (front, back) => front ++ one :: back) ∧
      Pattern.ofText? (r.pattern r.name) = r.around.map (fun (front, back) => front ++ other :: back) := by
  obtain ⟨test, made⟩ := Option.isSome_iff_exists.mp accepted
  have ofBracketed := Segment.ofText?_bracketed documented r.plain r.unmarked
    (show (String.ofList r.bracketed).toList = _ from String.toList_ofList)
  rw [made] at ofBracketed
  obtain ⟨read, tests⟩ := ofBracketed
  refine ⟨.expression test, .literal (.ofList r.name), ⟨by simp, by simp⟩, fun name => ?_, ?_, ?_⟩
  · rw [Bool.eq_iff_iff, Segment.admits, Segment.admits, tests, decide_eq_true_eq, ← String.toList_inj,
      String.toList_ofList]
    rfl
  · exact ofText?_around r.whole.2 r.proper_bracketed read (by simp)
  · exact ofText?_around r.whole.1 ⟨by simp [name], r.named.1⟩ r.ofText?_name (by simp)

theorem pattern_refused (documented : Regex.Documented element spans) (r : Respelling) (refused : ¬ r.Accepted)
    {front : Pattern} (read : (written r.front).mapM Segment.ofText? = .ok front) :
    Pattern.ofText? (r.pattern r.bracketed) = .error (.segment (.ofList r.bracketed)) := by
  have ofBracketed := Segment.ofText?_bracketed documented r.plain r.unmarked
    (show (String.ofList r.bracketed).toList = _ from String.toList_ofList)
  rw [Option.not_isSome_iff_eq_none.mp refused] at ofBracketed
  rw [ofText?_pattern r.whole.2 r.proper_bracketed, read, ofBracketed]
  rfl

end Reading
end Respelling
end Glob

namespace Workspace
open Glob
variable [Regex] {element : List Char → Prop} {spans : List Char → List Char → Nat → Nat → Prop} {w : Workspace}
  {directory : Location}

theorem patternAt_respelled (documented : Regex.Documented element spans) {r : Respelling} (accepted : r.Accepted)
    (listable : w.tree.isDirectory directory = true ∨ r.IsBehind) :
    (w.patternAt directory (r.pattern r.bracketed)).map Pattern.admits =
      (w.patternAt directory (r.pattern r.name)).map Pattern.admits := by
  obtain ⟨one, other, single, same, ofBracketed, ofName⟩ := r.around_respelled documented accepted
  rw [patternAt, patternAt, ofBracketed, ofName]
  cases read : r.around with
  | error error => rfl
  | ok found =>
    obtain ⟨front, back⟩ := found
    have admits := Respelling.admits_replace single same front back
    have alike : (Pattern.lists (front ++ one :: back) && !w.tree.isDirectory directory) =
        (Pattern.lists (front ++ other :: back) && !w.tree.isDirectory directory) := by
      rcases listable with isDirectory | behind
      · simp [isDirectory]
      · rw [Respelling.lists_replace (behind.front_some read)]
    dsimp only [Except.map]
    by_cases refused : (Pattern.lists (front ++ other :: back) && !w.tree.isDirectory directory) = true
    · rw [if_pos refused, if_pos (alike.trans refused)]
    · rw [if_neg refused, if_neg (fun also => refused (alike.symm.trans also))]
      exact congrArg Except.ok admits

-- A name and the same name with a character in brackets find the same files or fail alike, wherever the directory can be
-- listed or the name is not what the search begins with. A bracket is refused if the expression for its segment is, as
-- long as nothing in front of it is.
theorem search_respelled (documented : Regex.Documented element spans) (w : Workspace) (root : String) (r : Respelling)
    {directory : Location} (located : w.locate root = .ok directory)
    (listable : w.tree.isDirectory directory = true ∨ r.IsBehind) (before after : List String) :
    (r.Accepted → (do w.search (← w.locate root) (before ++ r.pattern r.bracketed :: after)) =
        (do w.search (← w.locate root) (before ++ r.pattern r.name :: after))) ∧
      (¬ r.Accepted → (∃ found, (do w.search (← w.locate root) before) = .ok found) →
        (∀ text ∈ written r.front, ∃ segment, Segment.ofText? text = .ok segment) →
        (do w.search (← w.locate root) (before ++ r.pattern r.bracketed :: after)) =
          .error (.pattern (.segment (.ofList r.bracketed)))) := by
  have rooted := locate_node located
  simp only [search_located located]
  constructor
  · intro accepted
    have alike := patternAt_respelled documented accepted listable
    rw [search_eq rooted, search_eq rooted, List.mapM_append, List.mapM_append, List.mapM_cons, List.mapM_cons, alike]
  · rintro refused ⟨found, others⟩ front
    obtain ⟨patterns, read, _⟩ := search_finds rooted others
    obtain ⟨segments, ofFront⟩ := mapM_total front
    have failed : w.patternAt directory (r.pattern r.bracketed) = .error (.pattern (.segment (.ofList r.bracketed))) := by
      rw [patternAt, r.pattern_refused documented refused ofFront]
    refine search_fails rooted ?_
    rw [List.mapM_append, mapM_ok.mpr read, List.mapM_cons, failed]
    rfl

end Workspace

namespace OneDirectory
open Glob Elementary

def workspace : Workspace :=
  ⟨⟨⟨[(["d"], .directory), (["d", "Abc"], .file [])], by simp⟩, by simp; rfl⟩, []⟩

def find (root : String) (text : String) : Except Failure (List Location) := do
  @Workspace.search engine workspace (← workspace.locate root) [text]

theorem find_eq {root text : String} {directory : Location} {pattern : Pattern}
    (located : workspace.locate root = .ok directory) (read : @Pattern.ofText? engine text = .ok pattern) :
    find root text = if pattern.lists && !workspace.tree.isDirectory directory
      then .error (.access directory.path .notDirectory)
      else .ok (workspace.tree.nodes.entries.filterMap (workspace.kept? directory [pattern.admits])) := by
  let _ : Regex := engine
  have found : find root text = workspace.search directory [text] := Workspace.search_located located
  rw [found, Workspace.search_eq (Workspace.locate_node located), List.mapM_cons, Workspace.patternAt, read]
  dsimp only
  split <;> rfl

def respelling : Respelling where
  front := ["**".toList]
  left := ['A']
  inside := 'b'
  right := ['c']
  back := []
  apart := by decide
  plain := by simp [Segment.IsPlain]
  named := by decide
  unmarked := by decide

theorem same_found : workspace.locate "/" = .ok [] ∧ workspace.tree.isDirectory [] = true ∧
    @Respelling.Accepted engine respelling ∧ find "/" "**/A[b]c" = .ok [["d", "Abc"]] := by
  have located : workspace.locate "/" = .ok [] := workspace.locate_top
  have isDirectory : workspace.tree.isDirectory [] = true := by decide
  have accepted : @Respelling.Accepted engine respelling := by
    unfold Respelling.Accepted
    cbv
  have read : @Pattern.ofText? engine (respelling.pattern respelling.name) = .ok [.anyDirectories, .literal "Abc"] := by cbv
  have byName : find "/" (respelling.pattern respelling.name) = .ok [["d", "Abc"]] := by
    rw [find_eq located read]
    decide
  have alike := (@Workspace.search_respelled engine element spans documented workspace "/" respelling [] located
    (.inl isDirectory) [] []).1 accepted
  have spelled : respelling.pattern respelling.bracketed = "**/A[b]c" := by decide
  exact ⟨located, isDirectory, accepted, spelled ▸ alike.trans byName⟩

def long (n : Nat) : Respelling where
  front := []
  left := []
  inside := 'x'
  right := .replicate n 'a'
  back := []
  apart := by simp
  plain := by simp [Segment.IsPlain]
  named := by simp
  unmarked := by decide

theorem long_name (n : Nat) : @Pattern.ofText? engine ((long n).pattern (long n).name) =
    .ok [.literal (.ofList (long n).name)] := by
  let _ : Regex := engine
  exact Respelling.ofText?_around (long n).whole.1 ⟨by simp [Respelling.name], (long n).named.1⟩ (long n).ofText?_name
    (by simp)

theorem long_found (n : Nat) {root : String} {directory : Location} (located : workspace.locate root = .ok directory) :
    find root ((long n).pattern (long n).name) = .ok [] := by
  have other : String.ofList (long n).name ≠ "Abc" := by
    rw [ne_eq, ← String.toList_inj, String.toList_ofList]
    change 'x' :: List.replicate n 'a' ≠ _
    simp
  rw [find_eq located (long_name n)]
  refine congrArg Except.ok (List.filterMap_eq_nil_iff.mpr fun entry listed => Option.eq_none_iff_forall_not_mem.mpr ?_)
  intro l kept
  obtain ⟨rfl, names, located, _, candidate, _, tests, admitted⟩ := Workspace.kept?_eq_some.mp kept
  obtain rfl := List.mem_singleton.mp tests
  obtain ⟨name, more, rfl, named, none⟩ := (Pattern.admits_cons (by simp)).mp admitted
  obtain rfl : more = [] := List.isEmpty_iff.mp none
  obtain rfl : name = .ofList (long n).name := of_decide_eq_true named
  have last : entry.1.getLast? = some (.ofList (long n).name) := by rw [located, List.getLast?_concat]
  rcases List.mem_cons.mp listed with rfl | file
  · cases candidate
  · obtain rfl := List.mem_singleton.mp file
    exact other (Option.some.inj last).symm

theorem long_refused {n : Nat} (large : limit ≤ n) : ¬ @Respelling.Accepted engine (long n) := by
  let _ : Regex := engine
  have escaped : Regex.escape 'a' = ['a'] := by decide
  have letters : ((List.replicate n 'a').map Segment.Part.literal).flatMap Segment.Part.text = List.replicate n 'a' := by
    rw [List.map_replicate, List.flatMap_replicate]
    simp [Segment.Part.text, escaped]
  have length : n < (Segment.expressionText (Segment.oneBracketed [] 'x' (List.replicate n 'a'))).length := by
    simp only [Segment.expressionText, Segment.oneBracketed, List.map_nil, List.nil_append, List.flatMap_cons, letters,
      List.length_append, List.length_cons, List.length_replicate]
    omega
  have none : Regex.compile? (Segment.expressionText (Segment.oneBracketed [] 'x' (List.replicate n 'a'))) = none :=
    if_neg (by omega)
  exact Option.not_isSome_iff_eq_none.mpr none

theorem file_unlike : find "/d/Abc" "x" = .ok [] ∧ find "/d/Abc" "[x]" = .error (.access "/d/Abc" .notDirectory) := by
  have located : workspace.locate "/d/Abc" = .ok ["d", "Abc"] := by
    have steps : FileTree.steps "/d/Abc" = ["d", "Abc"] ∧ FileTree.startOf [] "/d/Abc" = [] := by decide
    rw [Workspace.locate, FileTree.locate, if_neg (by decide), steps.1, show workspace.here = [] from rfl, steps.2]
    simp [FileTree.follow, FileTree.isDirectory, FileTree.node?, workspace, Dictionary.get?, Except.mapError]
  have read : @Pattern.ofText? engine "[x]" = .ok [.expression fun name =>
      [[.start, .choice (inRanges [('x', 'x')]), .finish]].any (occurs name)] := by cbv
  have spelled : (long 0).pattern (long 0).name = "x" := by decide
  exact ⟨spelled ▸ long_found 0 located, (find_eq located read).trans rfl⟩

theorem long_unlike {n : Nat} (large : limit ≤ n) : find "/" ((long n).pattern (long n).name) = .ok [] ∧
    find "/" ((long n).pattern (long n).bracketed) = .error (.pattern (.segment (.ofList (long n).bracketed))) := by
  let _ : Regex := engine
  have located : workspace.locate "/" = .ok [] := workspace.locate_top
  refine ⟨long_found n located, ?_⟩
  have ofFront : (written (long n).front).mapM Segment.ofText? = .ok [] := rfl
  have refused := (long n).pattern_refused documented (long_refused large) ofFront
  have found : find "/" ((long n).pattern (long n).bracketed) =
      workspace.search [] [(long n).pattern (long n).bracketed] := Workspace.search_located located
  rw [found]
  refine Workspace.search_fails rfl ?_
  rw [List.mapM_cons, Workspace.patternAt, refused]
  rfl

theorem unlike : (find "/d/Abc" "x" = .ok [] ∧ find "/d/Abc" "[x]" = .error (.access "/d/Abc" .notDirectory)) ∧
    find "/" ((long 500000).pattern (long 500000).name) = .ok [] ∧
    find "/" ((long 500000).pattern (long 500000).bracketed) =
      .error (.pattern (.segment (.ofList (long 500000).bracketed))) :=
  ⟨file_unlike, long_unlike (by decide)⟩

end OneDirectory
end WireSchema

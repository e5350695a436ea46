import Mathlib.Data.List.Chain
import WireSchema.Grammar.Tape
import WireSchema.Proofs.Token.Tiling

-- The comments that document a token: the longest run of comments in front of it with no line left out. One of them
-- that closes at the very start of a line does so only where the next token is still in that line.
namespace WireSchema
open Text

def Token.lastLine (token : Token) : Nat := token.position.line + token.text.toList.count '\n'

namespace Comment

-- No line is left out between the end of a comment and the next token.
def Adjoins (c next : Token) : Prop := next.position.line ≤ c.lastLine + 1

-- A block comment that has nothing in its last line in front of its closing mark, or nothing in it at all.
def ClosesAtOnce (text : String) : Prop := ['\n', '*', '/'] <:+ text.toList ∨ text.toList = ['/', '*', '*', '/']

-- A comment that is taken to be a line away from a token that stands right under it, and with it all before it.
def Lost (c next : Token) : Prop := ClosesAtOnce c.text ∧ c.lastLine < next.position.line

-- Tokens in front of a word, and the longest run of comments at their end with no line left out.
structure IsRun (before run : List Token) (word : Token) : Prop where
  comments : ∀ c ∈ run, c.kind = .comment
  adjoining : (run ++ [word]).IsChain Adjoins
  longest : ∀ c ∈ before.getLast?, c.kind = .comment → ¬ Adjoins c (run.headD word)

structure Leaves (run : List Token) (word : Token) (lost kept : List Token) : Prop where
  whole : run = lost ++ kept
  last : ∀ c ∈ lost.getLast?, Lost c (kept.headD word)
  kept : (kept ++ [word]).IsChain fun c next => ¬ Lost c next

theorem pieces_length (separator : Char) (text : List Char) :
    (pieces separator text).length = text.count separator + 1 := by
  induction text with
  | nil => rfl
  | cons c rest ih =>
    by_cases same : c = separator
    · simp [pieces, same, ih]
    · cases found : pieces separator rest with
      | nil => simp [found] at ih
      | cons first others => simpa [pieces, same, found] using ih

theorem pieces_concat (separator c : Char) (text : List Char) : ∃ front last, pieces separator text = front ++ [last] ∧
    pieces separator (text ++ [c]) = front ++ if c = separator then [last, []] else [last ++ [c]] := by
  induction text with
  | nil => exact ⟨[], [], rfl, rfl⟩
  | cons first rest ih =>
    obtain ⟨front, last, here, there⟩ := ih
    by_cases separates : first = separator
    · exact ⟨[] :: front, last, by simp [pieces, separates, here], by simp [pieces, separates, there]⟩
    · cases front with
      | nil =>
        refine ⟨[], first :: last, by simp [pieces, separates, here], ?_⟩
        rw [List.cons_append, pieces, if_neg separates, there]
        by_cases same : c = separator <;> simp [same]
      | cons piece front =>
        exact ⟨(first :: piece) :: front, last, by simp [pieces, separates, here], by simp [pieces, separates, there]⟩

theorem pieces_last (separator : Char) (text : List Char) :
    (pieces separator text).getLast? = some [] ↔ text = [] ∨ text.getLast? = some separator := by
  rcases text.eq_nil_or_concat with rfl | ⟨front, c, rfl⟩
  · simp [pieces]
  · obtain ⟨before, last, _, split⟩ := pieces_concat separator c front
    rw [List.concat_eq_append, split]
    by_cases same : c = separator <;> simp [same]

theorem lines_line {line : List Char} (inside : '\n' ∉ line) {text : String} (written : text.toList = '/' :: '/' :: line) :
    ¬ ClosesAtOnce text ∧ (lines text).length = text.toList.count '\n' + 1 := by
  have unbroken : '\n' ∉ text.toList := by simp [written, inside]
  refine ⟨?_, ?_⟩
  · rintro (closes | empty)
    · exact unbroken (closes.subset List.mem_cons_self)
    · simp [written] at empty
  · rw [List.count_eq_zero.mpr unbroken, lines, List.length_map, written]
    unfold rawLines
    split <;> simp_all

theorem closesAtOnce_block {body : List Char} {text : String} (written : text.toList = '/' :: '*' :: (body ++ ['*', '/'])) :
    ClosesAtOnce text ↔ (pieces '\n' body).getLast? = some [] := by
  rw [pieces_last, ClosesAtOnce, written]
  rcases body.eq_nil_or_concat with rfl | ⟨front, c, rfl⟩
  · decide
  · have whole : '/' :: '*' :: (front.concat c ++ ['*', '/']) = ('/' :: '*' :: front) ++ [c, '*', '/'] := by simp
    have ends : ['\n', '*', '/'] <:+ '/' :: '*' :: (front.concat c ++ ['*', '/']) ↔ c = '\n' := by
      rw [whole]
      constructor
      · intro suffix
        have same := (List.suffix_of_suffix_length_le suffix ⟨_, rfl⟩ (Nat.le_refl 3)).eq_of_length rfl
        exact (List.cons.inj same).1.symm
      · rintro rfl
        exact ⟨_, rfl⟩
    have some : '/' :: '*' :: (front.concat c ++ ['*', '/']) ≠ ['/', '*', '*', '/'] := by
      intro same
      simpa using congrArg List.length same
    rw [ends, or_iff_left some]
    simp

theorem lines_block {body : List Char} {text : String} (written : text.toList = '/' :: '*' :: (body ++ ['*', '/'])) :
    (ClosesAtOnce text → (lines text).length = text.toList.count '\n') ∧
      (¬ ClosesAtOnce text → (lines text).length = text.toList.count '\n' + 1) := by
  have counted : text.toList.count '\n' = body.count '\n' := by simp [written]
  have length := pieces_length '\n' body
  rw [closesAtOnce_block written, counted, lines, List.length_map, written, rawLines_block]
  refine ⟨fun empty => ?_, fun some => ?_⟩
  · rw [if_pos empty, List.length_dropLast, length]
    rfl
  · rw [if_neg some, length]

inductive IsText (text : String) : Prop where
  | line {line : List Char} (inside : '\n' ∉ line) (written : text.toList = '/' :: '/' :: line)
  | block {body : List Char} (written : text.toList = '/' :: '*' :: (body ++ ['*', '/']))

theorem IsText.lines_length {text : String} (isText : IsText text) :
    (ClosesAtOnce text → (lines text).length = text.toList.count '\n') ∧
      (¬ ClosesAtOnce text → (lines text).length = text.toList.count '\n' + 1) := by
  cases isText with
  | line inside written =>
    obtain ⟨open_, length⟩ := lines_line inside written
    exact ⟨fun closes => absurd closes open_, fun _ => length⟩
  | block written => exact lines_block written

theorem isText_of_taken {taken : List Char} (isComment : Scan.IsComment taken) :
    IsText (.ofList (Scanner.lexeme .comment taken)) := by
  cases isComment with
  | @line text inside =>
    have unended : ('/' :: '/' :: text).getLast? ≠ some '\n' :=
      Scan.getLast?_feed (by simp [inside])
    exact .line inside (by rw [String.toList_ofList, Scanner.lexeme, if_neg fun both => unended both.2])
  | @ended text inside =>
    exact .line inside (by rw [String.toList_ofList]; exact lexeme_feed ('/' :: '/' :: text))
  | block text =>
    have whole := lexeme_other (c := '/') (by decide) ('/' :: '*' :: (text ++ ['*']))
    exact .block (by simpa using whole)

end Comment

def Token.Delimited (token : Token) : Prop := token.kind = .comment → Comment.IsText token.text

theorem Scanner.next_delimited {limit : Nat} {file : String} (s : Scanner) : (s.next limit file).1.Delimited := by
  intro comment
  unfold next at comment ⊢
  dsimp only at comment ⊢
  split at comment
  · cases comment
  · cases comment
  · rename_i r closing found
    have comment : (kindAndText limit r).1 = .comment := comment
    have valid : ∀ error, (kindAndText limit r).1 ≠ .invalid error := by simp [comment]
    have accepted := kindAndText_accepted valid
    rw [comment] at accepted
    rw [kindAndText_text valid, comment]
    obtain ⟨c, rest, rfl⟩ := Scan.front_accepted found accepted
    exact Comment.isText_of_taken (Scan.token_comment accepted)

namespace Comment

theorem lost_iff {c next : Token} (isText : IsText c.text) :
    c.position.line + (lines c.text).length < next.position.line ↔ ¬ Adjoins c next ∨ Lost c next := by
  obtain ⟨atOnce, later⟩ := isText.lines_length
  unfold Adjoins Lost Token.lastLine
  by_cases closes : ClosesAtOnce c.text
  · rw [atOnce closes]
    simp only [closes, true_and]
    omega
  · rw [later closes]
    simp only [closes, false_and, or_false]
    omega

section Gathering
variable {front before run lost kept : List Token} {c next : Token} {doc : List String}

theorem headD_concat (run : List Token) (c next : Token) : (run ++ [c]).headD next = run.headD c := by
  cases run <;> rfl

theorem IsRun.concat (isRun : IsRun before run c) (comment : c.kind = .comment) (adjoins : Adjoins c next) :
    IsRun before (run ++ [c]) next := by
  refine ⟨?_, ?_, ?_⟩
  · intro other member
    rcases List.mem_append.mp member with inRun | last
    · exact isRun.comments other inRun
    · rw [List.mem_singleton.mp last, comment]
  · rw [List.append_assoc]
    exact List.isChain_split.mpr ⟨isRun.adjoining, List.isChain_pair.mpr adjoins⟩
  · rw [headD_concat]
    exact isRun.longest

theorem Leaves.concat (leaves : Leaves run c lost kept) (stays : ¬ Lost c next) :
    Leaves (run ++ [c]) next lost (kept ++ [c]) := by
  refine ⟨?_, ?_, ?_⟩
  · rw [leaves.whole, List.append_assoc]
  · rw [headD_concat]
    exact leaves.last
  · rw [List.append_assoc]
    exact List.isChain_split.mpr ⟨leaves.kept, List.isChain_pair.mpr stays⟩

theorem Leaves.all {word : Token} (leaves : Leaves run word lost kept)
    (stays : (run ++ [word]).IsChain fun c next => ¬ Lost c next) : kept = run := by
  rcases lost.eq_nil_or_concat with rfl | ⟨front, c, rfl⟩
  · exact leaves.whole.symm
  · have gone := leaves.last c (by simp)
    have split : run ++ [word] = front ++ c :: (kept ++ [word]) := by simp [leaves.whole]
    rw [split] at stays
    have first := (List.isChain_split.mp stays).2
    cases kept <;> exact absurd gone (List.isChain_cons_cons.mp first).1

def Gathered (front : List Token) (next : Token) (doc : List String) : Prop :=
  ∃ before run lost kept, front = before ++ run ∧ IsRun before run next ∧ Leaves run next lost kept ∧
    doc = kept.flatMap (lines ·.text)

theorem gathered_none (apart : ∀ c ∈ front.getLast?, c.kind = .comment → ¬ Adjoins c next) : Gathered front next [] :=
  ⟨front, [], [], [], by simp, ⟨by simp, by simp, apart⟩, ⟨rfl, by simp, by simp⟩, rfl⟩

theorem Gathered.comment (gathered : Gathered front c doc) (comment : c.kind = .comment) (isText : IsText c.text) :
    Gathered (front ++ [c]) next (extend doc c next.position.line) := by
  obtain ⟨before, run, lost, kept, rfl, isRun, leaves, rfl⟩ := gathered
  unfold extend
  dsimp only
  by_cases adjoins : Adjoins c next
  · by_cases gone : Lost c next
    · rw [if_pos ((lost_iff isText).mpr (.inr gone))]
      exact ⟨before, run ++ [c], run ++ [c], [], by simp, isRun.concat comment adjoins,
        ⟨by simp, by simpa using gone, by simp⟩, rfl⟩
    · rw [if_neg fun apart => (lost_iff isText).mp apart |>.elim (· adjoins) gone]
      exact ⟨before, run ++ [c], lost, kept ++ [c], by simp, isRun.concat comment adjoins, leaves.concat gone, by simp⟩
  · rw [if_pos ((lost_iff isText).mpr (.inl adjoins))]
    exact gathered_none (by simpa [comment] using adjoins)

end Gathering

def Documents (tokens : List Token) (word : Token) (doc : List String) : Prop :=
  ∃ before run lost kept after, tokens = before ++ run ++ word :: after ∧ IsRun before run word ∧
    Leaves run word lost kept ∧ doc = trimmed (kept.flatMap (lines ·.text))

end Comment

theorem Documented.ofTokens_documents {finish : Token} {tokens : List Token}
    (delimited : ∀ c ∈ tokens, c.Delimited) {front : List Token} {doc : List String}
    (gathered : Comment.Gathered front (tokens.headD finish) doc) :
    ∀ word ∈ (ofTokens finish doc tokens).1, Comment.Documents (front ++ tokens) word.token word.doc := by
  -- the tokens in front are gathered, so the same is shown for whatever they are
  induction tokens generalizing front doc with
  | nil => simp [ofTokens]
  | cons token rest ih =>
    obtain ⟨first, others⟩ := List.forall_mem_cons.mp delimited
    have split : front ++ token :: rest = front ++ [token] ++ rest := by simp
    by_cases comment : token.kind = .comment
    · rw [ofTokens, if_pos comment, split]
      exact ih others (gathered.comment comment (first comment))
    · rw [ofTokens, if_neg comment]
      refine List.forall_mem_cons.mpr ⟨?_, ?_⟩
      · obtain ⟨before, run, lost, kept, rfl, isRun, leaves, rfl⟩ := gathered
        exact ⟨before, run, lost, kept, rest, rfl, isRun, leaves, rfl⟩
      · rw [split]
        exact ih others (Comment.gathered_none (by simp [comment]))

theorem Token.allOf_documents (limit : Nat) (file : String) (source : List UInt8) :
    ∀ word ∈ (Grammar.Tape.ofTokens (allOf limit file source)).ahead,
      Comment.Documents (allOf limit file source).1 word.token word.doc := by
  have delimited : ∀ c ∈ (allOf limit file source).1, c.Delimited := fun c member =>
    ((Scanner.tokens_all Scanner.next_delimited (.start (decode source))).1 c member).1
  have gathered : Comment.Gathered [] ((allOf limit file source).1.headD (allOf limit file source).2) [] :=
    Comment.gathered_none (by simp)
  exact Documented.ofTokens_documents delimited gathered

end WireSchema

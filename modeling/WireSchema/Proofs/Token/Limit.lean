import Mathlib.Data.List.Chain
import WireSchema.Proofs.Text.Slices
import WireSchema.Proofs.Token.Quoted
import WireSchema.Proofs.Token.Tiling

-- A limit on the length of tokens changes nothing but the tokens that are longer. What is measured are the characters
-- that a token takes, so a line comment counts with the newline behind it, which is no part of its text.
namespace WireSchema
open Text

theorem Place.pastAll_line (p : Place) (text : List Char) : (p.pastAll text).line = p.line + text.count '\n' := by
  induction text generalizing p with
  | nil => rfl
  | cons c rest ih =>
    have later : (p.pastAll (c :: rest)).line = (p.past c).line + rest.count '\n' := ih (p.past c)
    rw [later, List.count_cons]
    by_cases feed : c = '\n'
    · simp only [past, feed, if_true, beq_self_eq_true]
      omega
    · simp [past, feed]

-- A line comment with a text of just the limit, and a newline behind it.
def Token.Overruns (limit : Nat) (token next : Token) : Prop :=
  token.IsLineComment ∧ byteCount token.text.toList = limit ∧ token.position.line < next.position.line

namespace Scan

theorem IsComment.unbroken {line : List Char} (isComment : IsComment ('/' :: '/' :: line))
    (text : Scanner.lexeme .comment ('/' :: '/' :: line) = '/' :: '/' :: line) : '\n' ∉ '/' :: '/' :: line := by
  generalize whole : '/' :: '/' :: line = taken at isComment text ⊢
  cases isComment with
  | line inside => simpa using inside
  | @ended body inside =>
    have dropped : Scanner.lexeme .comment ('/' :: '/' :: (body ++ ['\n'])) = '/' :: '/' :: body :=
      Comment.lexeme_feed ('/' :: '/' :: body)
    rw [dropped] at text
    simp at text
  | block => cases whole

end Scan

namespace Scanner
variable {limit bound : Nat} {file : String} {s : Scanner}

def taken (s : Scanner) : List Char :=
  match Scan.front s.closable s.skip.ahead with
  | .reading r _ => r.taken
  | _ => []

theorem taken_reading {r : Scan.Reading} {closing : Scan.Closing}
    (found : Scan.front s.closable s.skip.ahead = .reading r closing) : s.taken = r.taken := by
  rw [taken, found]

theorem kindAndText_within {r : Scan.Reading} (fits : byteCount r.taken ≤ limit) (enough : byteCount r.taken ≤ bound) :
    kindAndText limit r = kindAndText bound r := by
  unfold kindAndText
  cases r.ending with
  | rejected => rfl
  | accepted kind => simp only [if_neg (Nat.not_lt.mpr fits), if_neg (Nat.not_lt.mpr enough)]

theorem next_within (fits : byteCount s.taken ≤ limit) (enough : byteCount s.taken ≤ bound) :
    s.next limit file = s.next bound file := by
  unfold taken skip at fits enough
  unfold next
  dsimp only at fits enough ⊢
  split
  · rfl
  · rfl
  · rename_i r closing found
    rw [found] at fits enough
    rw [kindAndText_within fits enough]

theorem next_cut (valid : ∀ error, (s.next bound file).1.kind ≠ .invalid error) (long : limit < byteCount s.taken) :
    (s.next limit file).1.kind = .invalid .overflow := by
  unfold taken skip at long
  unfold next at valid ⊢
  dsimp only at valid long ⊢
  split at long
  · rename_i r closing found
    rw [found] at valid ⊢
    have accepted := kindAndText_accepted valid
    dsimp only
    rw [kindAndText, accepted]
    exact congrArg Prod.fst (if_pos long)
  · cases long

theorem taken_within (valid : ∀ error, (s.next bound file).1.kind ≠ .invalid error) : byteCount s.taken ≤ bound :=
  Nat.not_lt.mp fun long => valid .overflow (next_cut valid long)

theorem next_line (place : Place) (text : List Char) (rest : List Atom) (closable : Bool) :
    (next limit file ⟨rest, place.pastAll text, closable⟩).1.position.line =
      place.line + text.count '\n' + (Scan.run (isBlank closable) rest).1.count '\n' := by
  rw [next_position]
  simp only [skip, Place.pastAll_line]

-- A text within the limit has all its characters there, unless it is a line comment that just fills the limit.
theorem spells_fits {r : Scan.Reading} {kind : TokenKind} (spells : Scan.Spells kind r)
    (isComment : kind = .comment → Scan.IsComment r.taken) (short : byteCount (lexeme kind r.taken) ≤ limit)
    (place : Place) (closable : Bool) : byteCount r.taken ≤ limit ↔
      ¬ Token.Overruns limit ⟨kind, .ofList (lexeme kind r.taken), ⟨file, place.line, place.column⟩⟩
        (next bound file ⟨r.rest, place.pastAll r.taken, closable⟩).1 := by
  have line : (next bound file ⟨r.rest, place.pastAll r.taken, closable⟩).1.position.line = _ :=
    next_line place r.taken r.rest closable
  cases spells with
  | @line text comment taken =>
    subst comment
    have lexeme : lexeme .comment r.taken = '/' :: '/' :: text := by
      rw [taken]
      exact Comment.lexeme_feed ('/' :: '/' :: text)
    have feeds : 0 < r.taken.count '\n' := by simp [taken]
    have counted : byteCount r.taken = byteCount ('/' :: '/' :: text) + 1 := by
      have split : r.taken = ('/' :: '/' :: text) ++ ['\n'] := taken
      rw [split, byteCount_append]
      rfl
    rw [lexeme] at short
    have isLine : Token.IsLineComment ⟨.comment, .ofList ('/' :: '/' :: text), ⟨file, place.line, place.column⟩⟩ :=
      ⟨rfl, by simp⟩
    rw [lexeme, Token.Overruns, line, String.toList_ofList, counted]
    simp only [isLine, true_and]
    omega
  | lastLine comment taken text last =>
    subst comment
    have unbroken : '\n' ∉ r.taken := by
      have isComment := isComment rfl
      rw [taken] at isComment text ⊢
      exact isComment.unbroken text
    have still : ¬ place.line < place.line + r.taken.count '\n' + 0 := by simp [List.count_eq_zero.mpr unbroken]
    rw [last] at line ⊢
    rw [text] at short
    exact iff_of_true short fun overruns => still (line ▸ overruns.2.2)
  | whole text other =>
    rw [text] at short ⊢
    refine iff_of_true short fun overruns => other ?_
    simpa [Token.IsLineComment] using overruns.1

theorem taken_fits (whole : Whole (s.next bound file).1.kind)
    (short : byteCount (s.next bound file).1.text.toList ≤ limit) : byteCount s.taken ≤ limit ↔
      ¬ (s.next bound file).1.Overruns limit ((s.next bound file).2.next bound file).1 := by
  have step := next_step whole.more
  generalize s.next bound file = read at step whole short ⊢
  cases step with
  | terminator found =>
    have nothing : s.taken = [] := by rw [taken, found]
    rw [nothing]
    exact iff_of_true (Nat.zero_le limit) fun overruns => nomatch overruns.1.1
  | @reading r closing found =>
    have accepted := kindAndText_accepted whole.valid
    have isComment : (kindAndText bound r).1 = .comment → Scan.IsComment r.taken := by
      intro comment
      obtain ⟨c, rest, rfl⟩ := Scan.front_accepted found accepted
      exact Scan.token_comment (comment ▸ accepted)
    rw [kindAndText_text whole.valid, String.toList_ofList] at short
    rw [taken_reading found, leave_accepted accepted, kindAndText_text whole.valid]
    exact spells_fits (Scan.front_spells found accepted).1 isComment short s.skip.place _

theorem taken_ended (ended : (s.next bound file).1.kind = .endOfFile) : s.taken = [] := by
  obtain ⟨nothing, closed⟩ := next_ended ended
  rw [taken, nothing, closed]
  rfl

theorem tokens_limited (valid : ∀ token ∈ (s.tokens bound file).1, ∀ error, token.kind ≠ .invalid error)
    (short : ∀ token ∈ (s.tokens bound file).1, byteCount token.text.toList ≤ limit) :
    s.tokens limit file = s.tokens bound file ↔
      ((s.tokens bound file).1 ++ [(s.tokens bound file).2]).IsChain fun token next => ¬ token.Overruns limit next := by
  fun_induction tokens bound file s with
  | case1 s ended =>
    have nothing : byteCount s.taken = 0 := by rw [taken_ended ended, byteCount_nil]
    have same : s.next limit file = s.next bound file := next_within (by omega) (by omega)
    rw [tokens_ended (same ▸ ended), same]
    simp
  | case2 s more rest ih =>
    obtain ⟨here, later⟩ := List.forall_mem_cons.mp valid
    obtain ⟨shortHere, shortLater⟩ := List.forall_mem_cons.mp short
    have whole : Whole (s.next bound file).1.kind := ⟨more, here⟩
    have head : (rest.1 ++ [rest.2]).head? = some ((s.next bound file).2.next bound file).1 := by
      rw [← tokens_head]
      cases rest.1 <;> rfl
    have fits := taken_fits whole shortHere
    rw [List.cons_append, List.isChain_cons, head, ← ih later shortLater]
    simp only [Option.mem_some_iff, forall_eq']
    rw [← fits]
    constructor
    · intro same
      have first : (s.next limit file).1 = (s.next bound file).1 := by
        rw [← tokens_head, ← tokens_head, same, tokens_more more]
      have fits : byteCount s.taken ≤ limit :=
        Nat.not_lt.mp fun long => here .overflow (first ▸ next_cut here long)
      have read : s.next limit file = s.next bound file := next_within fits (taken_within here)
      rw [tokens_more (read ▸ more), read] at same
      obtain ⟨tokens, finish⟩ := Prod.mk.inj same
      exact ⟨fits, Prod.ext (List.cons.inj tokens).2 finish⟩
    · rintro ⟨fits, same⟩
      have read : s.next limit file = s.next bound file := next_within fits (taken_within here)
      rw [tokens_more (read ▸ more), read, same]

end Scanner

namespace Token

def unlimited (file : String) (source : List UInt8) : List Token × Token := allOf source.length file source

theorem allOf_limited {limit : Nat} {file : String} {source : List UInt8}
    (valid : ∀ token ∈ (unlimited file source).1, ∀ error, token.kind ≠ .invalid error)
    (short : ∀ token ∈ (unlimited file source).1, byteCount token.text.toList ≤ limit) :
    allOf limit file source = unlimited file source ↔ ((unlimited file source).1 ++ [(unlimited file source).2]).IsChain
      fun token next => ¬ token.Overruns limit next :=
  Scanner.tokens_limited valid short

end Token

namespace FilledComment

def text : List UInt8 := encode "//a".toList

def line : List UInt8 := encode "//a\n".toList

def comment : Token := ⟨.comment, "//a", ⟨"", 1, 1⟩⟩

theorem text_tokens : Token.unlimited "" text = ([comment], ⟨.endOfFile, "", ⟨"", 1, 4⟩⟩) :=
  Token.allOf_first (n := 1) rfl rfl (by decide) rfl

theorem line_tokens : Token.unlimited "" line = ([comment], ⟨.endOfFile, "", ⟨"", 2, 1⟩⟩) :=
  Token.allOf_first (n := 1) rfl rfl (by decide) rfl

theorem line_limited :
    Token.allOf 3 "" line = ([⟨.invalid .overflow, "", ⟨"", 1, 1⟩⟩], ⟨.endOfFile, "", ⟨"", 2, 1⟩⟩) :=
  Token.allOf_first (n := 1) rfl rfl (by decide) rfl

theorem fits : (∀ token ∈ [comment], ∀ error, token.kind ≠ .invalid error) ∧
    ∀ token ∈ [comment], byteCount token.text.toList ≤ 3 := ⟨by simp [comment], by decide⟩

theorem text_kept : (∀ token ∈ (Token.unlimited "" text).1, ∀ error, token.kind ≠ .invalid error) ∧
    (∀ token ∈ (Token.unlimited "" text).1, byteCount token.text.toList ≤ 3) ∧
    Token.allOf 3 "" text = Token.unlimited "" text := by
  have valid : ∀ token ∈ (Token.unlimited "" text).1, ∀ error, token.kind ≠ .invalid error := by
    rw [text_tokens]
    exact fits.1
  have short : ∀ token ∈ (Token.unlimited "" text).1, byteCount token.text.toList ≤ 3 := by
    rw [text_tokens]
    exact fits.2
  refine ⟨valid, short, (Token.allOf_limited valid short).mpr ?_⟩
  rw [text_tokens]
  exact List.isChain_pair.mpr fun overruns => absurd overruns.2.2 (by decide)

theorem line_cut : ¬ ∀ (limit : Nat) (file : String) (source : List UInt8),
    (∀ token ∈ (Token.unlimited file source).1, ∀ error, token.kind ≠ .invalid error) →
    (∀ token ∈ (Token.unlimited file source).1, byteCount token.text.toList ≤ limit) →
    Token.allOf limit file source = Token.unlimited file source := by
  intro every
  have same := every 3 "" line
  rw [line_tokens, line_limited] at same
  cases same fits.1 fits.2

end FilledComment
end WireSchema

import WireSchema.Proofs.Token.Cut

-- The words of a source are those of its parts, one part after the other, if each part ends with a line of its own
-- and the next one starts with a word.
namespace WireSchema
open Text Scan

def Token.word (token : Token) : TokenKind × String := (token.kind, token.text)

namespace Scanner
variable {limit : Nat} {file : String}

theorem tokens_skip (s : Scanner) : s.skip.tokens limit file = s.tokens limit file := by
  by_cases ended : (s.next limit file).1.kind = .endOfFile
  · rw [tokens_ended ended, tokens_ended (by rw [next_skip]; exact ended), next_skip]
  · rw [tokens_more ended, tokens_more (by rw [next_skip]; exact ended), next_skip]

theorem tokens_from {n : Nat} {s : Scanner} (unended : ∀ token ∈ (s.first limit file n).1, token.kind ≠ .endOfFile) :
    (s.tokens limit file).1 = (s.first limit file n).1 ++ ((s.first limit file n).2.tokens limit file).1 := by
  induction n generalizing s with
  | zero => rfl
  | succ n ih =>
    obtain ⟨more, later⟩ := List.forall_mem_cons.mp unended
    rw [tokens_more more, ih later]
    rfl

theorem next_ended {s : Scanner} (ended : (s.next limit file).1.kind = .endOfFile) :
    s.skip.ahead = [] ∧ s.closable = false := by
  unfold next at ended
  dsimp only at ended
  split at ended
  · rename_i found
    have nothing := front_ended found
    rw [nothing] at found
    refine ⟨nothing, ?_⟩
    cases closable : s.closable with
    | false => rfl
    | true =>
      rw [closable] at found
      cases found
  · cases ended
  · rename_i r closing found
    exact absurd ended (kindAndText_unended (front_unended found))

theorem first_finish (limit : Nat) (file : String) (s : Scanner) :
    ((s.first limit file (s.tokens limit file).1.length).2.next limit file).1.kind = .endOfFile := by
  fun_induction tokens limit file s with
  | case1 s ended => exact ended
  | case2 s more rest ih => exact ih

theorem first_closed {n : Nat} {s : Scanner}
    (last : ∃ token ∈ (s.first limit file n).1.getLast?, token.kind = .semicolon ∨ token.kind = .comment) :
    (s.first limit file n).2.closable = false := by
  obtain ⟨token, member, passes⟩ := last
  induction n generalizing s with
  | zero => cases member
  | succ n ih =>
    simp only [first] at member ⊢
    cases n with
    | zero =>
      cases member
      exact next_closed passes
    | succ n =>
      apply ih
      simpa [first] using member

section Moved
variable {s t : Scanner}

structure Moved (s t : Scanner) : Prop where
  ahead : s.ahead = t.ahead
  closable : s.closable = t.closable

theorem leave_moved (r : Reading) (place other : Place) (closable : Bool) :
    (leave r place closable).Moved (leave r other closable) := by
  unfold leave
  dsimp only
  split
  · exact ⟨rfl, rfl⟩
  · split <;> exact ⟨rfl, rfl⟩

theorem Moved.next (moved : s.Moved t) (limit : Nat) (file name : String) :
    (s.next limit file).1.word = (t.next limit name).1.word ∧ (s.next limit file).2.Moved (t.next limit name).2 := by
  obtain ⟨ahead, place, closable⟩ := s
  obtain ⟨_, other, _⟩ := t
  obtain ⟨rfl, rfl⟩ := moved
  unfold Scanner.next
  dsimp only
  cases front closable (run (isBlank closable) ahead).2 with
  | endOfFile => exact ⟨rfl, rfl, rfl⟩
  | terminator => exact ⟨rfl, rfl, rfl⟩
  | reading r closing => exact ⟨rfl, leave_moved _ _ _ _⟩

theorem Moved.tokens (moved : s.Moved t) (limit : Nat) (file name : String) :
    (s.tokens limit file).1.map Token.word = (t.tokens limit name).1.map Token.word := by
  induction size : s.measure using Nat.strongRecOn generalizing s t with
  | ind n ih =>
    obtain ⟨word, later⟩ := moved.next limit file name
    have kind : (s.next limit file).1.kind = (t.next limit name).1.kind := congrArg Prod.fst word
    by_cases ended : (s.next limit file).1.kind = .endOfFile
    · rw [tokens_ended ended, tokens_ended (kind ▸ ended)]
    · have more : (t.next limit name).1.kind ≠ .endOfFile := kind ▸ ended
      rw [tokens_more ended, tokens_more more, List.map_cons, List.map_cons, word,
        ih _ (size ▸ next_measure ended) later rfl]

end Moved

end Scanner

-- A text that starts with a word and ends with a line, of valid tokens of which the last one ends a statement.
structure Token.Closed (limit : Nat) (text : List UInt8) : Prop where
  opens : startsWith isLetter (decode text) = true
  ends : text.getLast? = some 10
  whole : ∀ token ∈ (allOf limit "" text).1, Scanner.Whole token.kind
  last : ∃ token ∈ (allOf limit "" text).1.getLast?, token.kind = .semicolon ∨ token.kind = .comment

namespace Text

theorem opens_cut {bytes : List UInt8} (opens : Opens (decode bytes)) : ∀ b ∈ bytes.head?, continues b = false := by
  intro b member
  cases bytes with
  | nil => cases member
  | cons first rest =>
    cases member
    cases inside : continues b with
    | false => rfl
    | true =>
      have stray : leading? b rest = none := by
        have bounds : 0x80 ≤ b.toNat ∧ b.toNat < 0xC0 := by
          unfold continues continuation? at inside
          split at inside
          · assumption
          · cases inside
        unfold leading?
        dsimp only
        rw [if_neg (by omega), if_pos (by omega)]
      rw [decode, decodeAfter, stray] at opens
      rcases opens with nothing | letter
      · cases nothing
      · cases letter

theorem decode_ends {text : List UInt8} (ends : text.getLast? = some 10) :
    (decode text).getLast? = some (.char '\n') := by
  obtain ⟨front, rfl⟩ := List.getLast?_eq_some_iff.mp ends
  rw [decode_append front (by simp [continues_ascii])]
  exact List.getLast?_concat

end Text

namespace Scanner
variable {limit : Nat} {file : String}

theorem start_plain {atoms : List Atom} (unmarked : ∀ rest, atoms ≠ .char byteOrderMark :: rest) :
    start atoms = ⟨atoms, .start, false⟩ := by
  unfold start
  split
  · rename_i c rest
    refine if_neg ?_
    rintro rfl
    exact unmarked rest rfl
  · rfl

theorem start_opens {atoms : List Atom} (opens : startsWith isLetter atoms = true) :
    start atoms = ⟨atoms, .start, false⟩ := by
  refine start_plain ?_
  rintro rest rfl
  have letter : isLetter byteOrderMark = true := opens
  exact absurd letter (by decide)

theorem first_whole (limit : Nat) (file : String) (s : Scanner) :
    (s.first limit file (s.tokens limit file).1.length).1 = (s.tokens limit file).1 := by
  simpa using (first_tokens s 0 : (s.first limit file _).1 = _)

theorem tokens_split {n : Nat} {s : Scanner} (whole : ∀ token ∈ (s.first limit file n).1, Whole token.kind)
    (last : ∃ token ∈ (s.first limit file n).1.getLast?, token.kind = .semicolon ∨ token.kind = .comment) :
    (s.tokens limit file).1 = (s.first limit file n).1 ++
      ((⟨(s.first limit file n).2.skip.ahead, (s.first limit file n).2.skip.place, false⟩ : Scanner).tokens
        limit file).1 := by
  have closed : (s.first limit file n).2.skip.closable = false := first_closed last
  rw [tokens_from fun token member => (whole token member).more, ← tokens_skip (s.first limit file n).2, ← closed]

theorem tokens_cut {front behind other : List Atom} {place : Place} {closable : Bool} {n : Nat}
    (opens : Opens behind) (opensToo : Opens other) (settled : Settled front behind closable)
    (whole : ∀ token ∈ (first limit file n ⟨front ++ behind, place, closable⟩).1, Whole token.kind)
    (cut : (first limit file n ⟨front ++ behind, place, closable⟩).2.skip.ahead = behind)
    (last : ∃ token ∈ (first limit file n ⟨front ++ behind, place, closable⟩).1.getLast?,
      token.kind = .semicolon ∨ token.kind = .comment) :
    ∃ stop, ((⟨front ++ other, place, closable⟩ : Scanner).tokens limit file).1 =
      (first limit file n ⟨front ++ behind, place, closable⟩).1 ++
        ((⟨other, stop, false⟩ : Scanner).tokens limit file).1 := by
  have each : ∀ token ∈ (first limit file n ⟨front ++ behind, place, closable⟩).1.getLast?,
      token.kind = .semicolon ∨ token.kind = .comment := by
    obtain ⟨token, member, passes⟩ := last
    intro another among
    cases Option.mem_unique among member
    exact passes
  obtain ⟨tokens, rest⟩ := first_apart opens opensToo settled whole cut each
  have split := tokens_split (by rwa [tokens]) (by rwa [tokens] :
    ∃ token ∈ (first limit file n ⟨front ++ other, place, closable⟩).1.getLast?, _)
  rw [tokens, rest] at split
  exact ⟨_, split⟩

theorem closed_words {text : List UInt8} (closed : Token.Closed limit text) {other : List Atom} (opens : Opens other)
    (file : String) (place : Place) : ∃ stop,
    ((⟨decode text ++ other, place, false⟩ : Scanner).tokens limit file).1.map Token.word =
      (Token.allOf limit "" text).1.map Token.word ++
        ((⟨other, stop, false⟩ : Scanner).tokens limit file).1.map Token.word := by
  have alone : start (decode text) = ⟨decode text ++ [], .start, false⟩ := by
    rw [List.append_nil, start_opens closed.opens]
  have all := first_whole limit "" (start (decode text))
  have whole := closed.whole
  have last := closed.last
  have cut := (next_ended (first_finish limit "" (start (decode text)))).1
  rw [Token.allOf] at whole last ⊢
  rw [← all] at whole last ⊢
  rw [alone] at whole last cut ⊢
  obtain ⟨stop, tokens⟩ := tokens_cut (.inl rfl) opens (fun _ => .inl (decode_ends closed.ends)) whole cut last
  refine ⟨stop, ?_⟩
  have moved : Moved ⟨decode text ++ other, place, false⟩ ⟨decode text ++ other, .start, false⟩ := ⟨rfl, rfl⟩
  have movedToo : Moved ⟨other, stop, false⟩ ⟨other, stop, false⟩ := ⟨rfl, rfl⟩
  rw [moved.tokens limit file "", tokens, List.map_append, movedToo.tokens limit "" file]

theorem opens_texts {texts : List (List UInt8)} (closed : ∀ text ∈ texts, Token.Closed limit text) :
    Opens (decode texts.flatten) := by
  induction texts with
  | nil => exact .inl rfl
  | cons text rest ih =>
    obtain ⟨here, later⟩ := List.forall_mem_cons.mp closed
    rw [List.flatten_cons, decode_append _ (opens_cut (ih later))]
    obtain none | ⟨c, more, same, letter⟩ := Opens.cases (.inr here.opens)
    · have opens := here.opens
      rw [none] at opens
      cases opens
    · rw [same]
      exact .inr letter

theorem texts_words {texts : List (List UInt8)} (closed : ∀ text ∈ texts, Token.Closed limit text) (file : String)
    (place : Place) : ((⟨decode texts.flatten, place, false⟩ : Scanner).tokens limit file).1.map Token.word =
      texts.flatMap fun text => (Token.allOf limit "" text).1.map Token.word := by
  induction texts generalizing place with
  | nil =>
    rw [tokens_ended (by rfl)]
    rfl
  | cons text rest ih =>
    obtain ⟨here, later⟩ := List.forall_mem_cons.mp closed
    have opens := opens_texts later
    obtain ⟨stop, words⟩ := closed_words here opens file place
    rw [List.flatten_cons, decode_append _ (opens_cut opens), words, ih later]
    rfl

theorem start_open (front : List Atom) : ∃ rest place, ∀ behind, Opens behind →
    start (front ++ behind) = ⟨rest ++ behind, place, false⟩ := by
  cases front with
  | nil =>
    refine ⟨[], .start, fun behind opens => ?_⟩
    rcases opens with rfl | letter
    · rfl
    · exact start_opens letter
  | cons atom rest =>
    cases atom with
    | stray byte => exact ⟨.stray byte :: rest, .start, fun _ _ => rfl⟩
    | char c =>
      by_cases mark : c = byteOrderMark
      · exact ⟨rest, Place.start.past c, fun _ _ => if_pos mark⟩
      · exact ⟨.char c :: rest, .start, fun _ _ => if_neg mark⟩

theorem head_tokens {head body other : List UInt8} {n : Nat} (opens : Opens (decode body))
    (opensToo : Opens (decode other)) (some : body = [] → other = [])
    (whole : ∀ token ∈ ((start (decode (head ++ body))).first limit file n).1, Whole token.kind)
    (cut : ((start (decode (head ++ body))).first limit file n).2.skip.ahead = decode body)
    (last : ∃ token ∈ ((start (decode (head ++ body))).first limit file n).1.getLast?,
      token.kind = .semicolon ∨ token.kind = .comment) :
    ∃ stop, (Token.allOf limit file (head ++ other)).1 = ((start (decode (head ++ body))).first limit file n).1 ++
      ((⟨decode other, stop, false⟩ : Scanner).tokens limit file).1 := by
  by_cases nothing : body = []
  · obtain rfl := some nothing
    subst nothing
    have split := tokens_split whole last
    rw [cut] at split
    exact ⟨_, split⟩
  · have inside : decode body ≠ [] := by
      intro none
      rw [← decode_bytes body, none] at nothing
      exact nothing rfl
    obtain ⟨front, place, starts⟩ := start_open (decode head)
    have behind := starts _ opens
    rw [decode_append _ (opens_cut opens), behind] at whole cut last ⊢
    rw [Token.allOf, decode_append _ (opens_cut opensToo), starts _ opensToo]
    exact tokens_cut opens opensToo (fun none => absurd none inside) whole cut last

end Scanner
end WireSchema

import WireSchema.Proofs.Token.Comments
import WireSchema.Proofs.Token.Quoted
import WireSchema.Proofs.Token.Returned

-- What is read off the front of a text is the same whatever stands behind it. Names and numbers look at the one atom
-- that they stop at, a line comment goes on to its newline, and all others say themselves where they end.
namespace WireSchema.Scan
open Text

section Closed
variable {atoms : List Atom} {kind : TokenKind}

theorem rawString_apart (accepted : (rawString atoms).ending = .accepted kind) (other : List Atom) :
    rawString ((rawString atoms).taken.map .char ++ other) = (rawString atoms).before other := by
  induction atoms with
  | nil => cases accepted
  | cons atom rest ih =>
    cases forbidden : forbidden? atom with
    | some error => simp [rawString, forbidden] at accepted
    | none =>
      cases atom with
      | stray byte => cases forbidden
      | char c =>
        by_cases closes : c = backtick
        · subst closes
          simp [rawString, forbidden, Reading.before]
        · rw [rawString_goes forbidden closes] at accepted ⊢
          simp only [Reading.after, List.cons_append, List.nil_append, List.map_cons]
          rw [rawString_goes forbidden closes, ih accepted]
          rfl

theorem quotedString_apart {escape : Escape} (accepted : (quotedString escape atoms).ending = .accepted kind)
    (other : List Atom) :
    quotedString escape ((quotedString escape atoms).taken.map .char ++ other) =
      (quotedString escape atoms).before other := by
  induction atoms generalizing escape with
  | nil => cases escape <;> cases accepted
  | cons atom rest ih =>
    by_cases outside : escape = .none
    · subst outside
      cases forbidden : forbidden? atom with
      | some error => simp [quotedString, forbidden] at accepted
      | none =>
        cases atom with
        | stray byte => cases forbidden
        | char c =>
          by_cases quote : c = '"'
          · subst quote
            simp [quotedString, forbidden, Reading.before]
          · by_cases feed : c = '\n'
            · subst feed
              simp [quotedString, forbidden] at accepted
            · rw [quotedString_goes forbidden quote feed] at accepted ⊢
              simp only [Reading.after, List.cons_append, List.nil_append, List.map_cons]
              rw [quotedString_goes forbidden quote feed, ih accepted]
              rfl
    · cases atom with
      | stray byte => cases escape <;> first | exact absurd rfl outside | cases accepted
      | char c =>
        rw [quotedString_escape outside] at accepted ⊢
        cases next : escape.next? c with
        | none => simp [next] at accepted
        | some left =>
          simp only [next, Reading.after, List.cons_append, List.nil_append, List.map_cons] at accepted ⊢
          rw [quotedString_escape outside, next]
          dsimp only
          rw [ih accepted]
          rfl

theorem getLast?_cons_feed {c : Char} (other : c ≠ '\n') (text : List Char) :
    (c :: text).getLast? = some '\n' ↔ text.getLast? = some '\n' := by
  cases text with
  | nil => simp [other]
  | cons first more => simp

theorem lineComment_apart (ended : (lineComment atoms).taken.getLast? = some '\n') (other : List Atom) :
    lineComment ((lineComment atoms).taken.map .char ++ other) = (lineComment atoms).before other := by
  induction atoms with
  | nil => cases ended
  | cons atom rest ih =>
    cases forbidden : forbidden? atom with
    | some error => simp [lineComment, forbidden] at ended
    | none =>
      cases atom with
      | stray byte => cases forbidden
      | char c =>
        by_cases feed : c = '\n'
        · subst feed
          simp [lineComment, forbidden, Reading.before]
        · rw [lineComment_goes forbidden feed] at ended ⊢
          have later := (getLast?_cons_feed feed _).mp ended
          simp only [Reading.after, List.cons_append, List.nil_append, List.map_cons]
          rw [lineComment_goes forbidden feed, ih later]
          rfl

theorem lineComment_ended {kind : TokenKind} (accepted : (lineComment atoms).ending = .accepted kind)
    (more : (lineComment atoms).rest ≠ []) : (lineComment atoms).taken.getLast? = some '\n' := by
  induction atoms with
  | nil => exact absurd rfl more
  | cons atom rest ih =>
    cases forbidden : forbidden? atom with
    | some error => simp [lineComment, forbidden] at accepted
    | none =>
      cases atom with
      | stray byte => cases forbidden
      | char c =>
        by_cases feed : c = '\n'
        · subst feed
          simp [lineComment, forbidden]
        · rw [lineComment_goes forbidden feed] at accepted more ⊢
          exact (getLast?_cons_feed feed _).mpr (ih accepted more)

theorem blockComment_apart (accepted : (blockComment atoms).ending = .accepted kind) (other : List Atom) :
    blockComment ((blockComment atoms).taken.map .char ++ other) = (blockComment atoms).before other := by
  induction atoms with
  | nil => cases accepted
  | cons atom rest ih =>
    cases forbidden : forbidden? atom with
    | some error =>
      rw [blockComment_stops forbidden] at accepted
      cases accepted
    | none =>
      cases atom with
      | stray byte => cases forbidden
      | char c =>
        by_cases closes : c = '*' ∧ rest.head? = some (.char '/')
        · obtain ⟨rfl, slash⟩ := closes
          cases rest with
          | nil => cases slash
          | cons atom rest =>
            cases slash
            simp [blockComment, Reading.before]
        · have inside : c = '*' → rest.head? ≠ some (.char '/') := fun star slash => closes ⟨star, slash⟩
          rw [blockComment_goes forbidden inside] at accepted ⊢
          obtain ⟨text, taken⟩ := blockComment_taken rest accepted
          have front : ((blockComment rest).taken.map Atom.char ++ other).head? = rest.head? := by
            have covers := blockComment_covers rest
            unfold Reading.Covers at covers
            rw [taken] at covers ⊢
            rw [← covers]
            cases text <;> rfl
          simp only [Reading.after, List.cons_append, List.nil_append, List.map_cons]
          rw [blockComment_goes forbidden (front ▸ inside), ih accepted]
          rfl

end Closed

inductive Lexer : Char → (List Atom → Reading × Closing) → Prop where
  | name {c : Char} (letter : isLetter c = true) : Lexer c fun rest => (name c rest, .ofIdentifier)
  | negative : Lexer '-' fun rest => ((negative rest).after ['-'], .yes)
  | number {c : Char} (digit : isDigitOf 10 c = true) : Lexer c fun rest => (number c rest, .yes)
  | rawString : Lexer backtick fun rest => ((rawString rest).after [backtick], .yes)
  | quotedString : Lexer '"' fun rest => ((quotedString .none rest).after ['"'], .yes)
  | point : Lexer '.' fun rest =>
      if startsWith (isDigitOf 10) rest then ((fraction rest).after ['.'], .yes)
      else ((single .period rest).after ['.'], .no)
  | slash : Lexer '/' fun rest => ((slash rest).after ['/'], .no)
  | single {c : Char} {kind : TokenKind} (mark : punctuation? c = some kind) : Lexer c fun rest =>
      ((single kind rest).after [c], if kind ∈ [.closeParen, .closeBracket, .closeBrace] then .yes else .no)
  | stopped (c : Char) (error : LexicalError) (closing : Closing) :
      Lexer c fun rest => (⟨[], .rejected error true, .char c :: rest⟩, closing)

theorem token_lexer (c : Char) : Lexer c (token c) := by
  have read : ∀ {reads}, Lexer c reads → (∀ rest, token c rest = reads rest) → Lexer c (token c) := by
    intro reads lexer same
    rw [funext same]
    exact lexer
  by_cases letter : isLetter c = true
  · exact read (.name letter) fun rest => by rw [token, if_pos letter]
  by_cases minus : c = '-'
  · subst minus
    exact read .negative fun rest => by rw [token, if_neg letter, if_pos rfl]
  by_cases digit : isDigitOf 10 c = true
  · exact read (.number digit) fun rest => by rw [token, if_neg letter, if_neg minus, if_pos digit]
  by_cases mark : c = byteOrderMark
  · exact read (.stopped c .byteOrderMark .no) fun rest => by
      rw [token, if_neg letter, if_neg minus, if_neg digit, if_pos mark]
  by_cases raw : c = backtick
  · subst raw
    exact read .rawString fun rest => by
      rw [token, if_neg letter, if_neg minus, if_neg digit, if_neg mark, if_pos rfl]
  by_cases quoted : c = '"'
  · subst quoted
    exact read .quotedString fun rest => by
      rw [token, if_neg letter, if_neg minus, if_neg digit, if_neg mark, if_neg raw, if_pos rfl]
  by_cases point : c = '.'
  · subst point
    exact read .point fun rest => by
      rw [token, if_neg letter, if_neg minus, if_neg digit, if_neg mark, if_neg raw, if_neg quoted, if_pos rfl]
  by_cases slash : c = '/'
  · subst slash
    exact read .slash fun rest => by
      rw [token, if_neg letter, if_neg minus, if_neg digit, if_neg mark, if_neg raw, if_neg quoted, if_neg point,
        if_pos rfl]
  cases found : punctuation? c with
  | some kind =>
    exact read (.single found) fun rest => by
      rw [token, if_neg letter, if_neg minus, if_neg digit, if_neg mark, if_neg raw, if_neg quoted, if_neg point,
        if_neg slash, found]
  | none =>
    exact read (.stopped c (.strayCharacter (shown c)) .asBefore) fun rest => by
      rw [token, if_neg letter, if_neg minus, if_neg digit, if_neg mark, if_neg raw, if_neg quoted, if_neg point,
        if_neg slash, found]

section Tokens
variable {c : Char} {rest other : List Atom} {kind : TokenKind}

theorem slash_apart (accepted : (slash rest).ending = .accepted kind)
    (ended : (slash rest).taken.head? = some '/' → (slash rest).rest ≠ [] ∨ (slash rest).taken.getLast? = some '\n')
    (other : List Atom) : slash ((slash rest).taken.map .char ++ other) = (slash rest).before other := by
  by_cases isLine : rest.head? = some (.char '/')
  · obtain ⟨line, rfl⟩ := List.head?_eq_some_iff.mp isLine
    have closed : (lineComment line).taken.getLast? = some '\n' := by
      rcases ended rfl with more | feed
      · exact lineComment_ended accepted more
      · exact (getLast?_cons_feed (by decide) _).mp feed
    simp only [slash, Reading.after, List.cons_append, List.nil_append, List.map_cons]
    rw [lineComment_apart closed]
    rfl
  · by_cases isBlock : rest.head? = some (.char '*')
    · obtain ⟨block, rfl⟩ := List.head?_eq_some_iff.mp isBlock
      simp only [slash, Reading.after, List.cons_append, List.nil_append, List.map_cons] at accepted ⊢
      rw [blockComment_apart accepted]
      rfl
    · rw [slash_stopped isLine isBlock] at accepted
      cases accepted

-- A token comes out the same in front of another text, if the reading ends by itself or is stopped there too.
theorem token_apart (accepted : (token c rest).1.ending = .accepted kind)
    (ended : ['/', '/'] <+: (token c rest).1.taken →
      (token c rest).1.rest ≠ [] ∨ (token c rest).1.taken.getLast? = some '\n')
    (stops : kind = .semicolon ∨ kind = .comment ∨ Stops (token c rest).1.rest other) :
    ∃ tail, (token c rest).1.taken = c :: tail ∧
      token c (tail.map .char ++ other) = ((token c rest).1.before other, (token c rest).2) := by
  have apart : kind ≠ .semicolon → kind ≠ .comment → Stops (token c rest).1.rest other := by
    intro noEnd noComment
    rcases stops with same | same | stops
    · exact absurd same noEnd
    · exact absurd same noComment
    · exact stops
  have ofNumber : kind ∈ [.integer, .float] → Stops (token c rest).1.rest other := by
    intro number
    exact apart (by rintro rfl; simp at number) (by rintro rfl; simp at number)
  have lexer := token_lexer c
  generalize token c = read at lexer accepted ended apart ofNumber ⊢
  cases lexer with
  | name letter =>
    have word : keywordOr (c :: (run isNameCharacter rest).1) = kind := Ending.accepted.inj accepted
    have stops := apart (fun same => keywordOr_other _ (by simp) (by simp) (word.trans same))
      fun same => keywordOr_other _ (by simp) (by simp) (word.trans same)
    refine ⟨(run isNameCharacter rest).1, rfl, ?_⟩
    dsimp only
    rw [name_local c rest other _ rfl stops]
    rfl
  | negative =>
    have stops := ofNumber (negative_among rest kind accepted)
    refine ⟨(negative rest).taken, rfl, ?_⟩
    dsimp only
    rw [negative_local rest other stops]
    rfl
  | number digit =>
    have stops := ofNumber (number_among c rest kind accepted)
    obtain ⟨tail, taken⟩ := number_taken c rest
    refine ⟨tail, taken, ?_⟩
    dsimp only
    rw [number_local c rest other tail taken stops]
    rfl
  | rawString =>
    refine ⟨(rawString rest).taken, rfl, ?_⟩
    dsimp only
    rw [rawString_apart accepted]
    rfl
  | quotedString =>
    refine ⟨(quotedString .none rest).taken, rfl, ?_⟩
    dsimp only
    rw [quotedString_apart accepted]
    rfl
  | point =>
    cases digit : startsWith (isDigitOf 10) rest with
    | true =>
      simp only [digit, if_true] at accepted ofNumber ⊢
      have stops := ofNumber (fraction_among rest kind accepted)
      have ofFraction := (fraction_covers rest).startsWith_taken (fraction_some digit) (isDigitOf 10) other
      refine ⟨(fraction rest).taken, rfl, ?_⟩
      rw [ofFraction, digit, if_pos rfl, fraction_local rest other stops]
      rfl
    | false =>
      simp only [digit, Bool.false_eq_true, if_false] at accepted apart ⊢
      cases accepted
      have stops := apart (by simp) (by simp)
      refine ⟨[], rfl, ?_⟩
      have undigit := stops _ (digit_inline 10) digit
      simp only [List.map_nil, List.nil_append, undigit, Bool.false_eq_true, if_false]
      rfl
  | slash =>
    have closed : (slash rest).taken.head? = some '/' →
        (slash rest).rest ≠ [] ∨ (slash rest).taken.getLast? = some '\n' := by
      intro isLine
      obtain ⟨line, taken⟩ := List.head?_eq_some_iff.mp isLine
      exact (ended (by simp [Reading.after, taken])).imp id (getLast?_cons_feed (by decide) _).mp
    refine ⟨(slash rest).taken, rfl, ?_⟩
    dsimp only
    rw [slash_apart accepted closed]
    rfl
  | single mark => exact ⟨[], rfl, rfl⟩
  | stopped error closing => cases accepted

end Tokens

section Lines
variable {c : Char} {atoms rest : List Atom} {kind : TokenKind}

theorem unbroken {r other : Reading} (covers : r.Covers atoms) (returns : other.Covers (returned atoms))
    (same : other = r.before (returned r.rest)) : '\n' ∉ r.taken := by
  have split : returned atoms = (insertBefore '\n' '\r' r.taken).map .char ++ returned r.rest := by
    rw [← covers, returned, insertBefore_append, ← returned, returned_chars]
    rfl
  subst same
  have lengths := congrArg List.length (returns.trans split)
  simp only [Reading.before, List.length_append, List.length_map, insertBefore_length] at lengths
  rw [← List.count_eq_zero]
  omega

theorem inline_unbroken {p : Char → Bool} (inline : Inline p) (atoms : List Atom) : '\n' ∉ (run p atoms).1 := by
  intro member
  have holds := run_holds p atoms _ member
  rw [inline.feed] at holds
  cases holds

theorem getLast?_feed {text : List Char} (none : '\n' ∉ text) : text.getLast? ≠ some '\n' :=
  fun last => none (List.mem_of_getLast? last)

theorem getLast?_closed {r : Reading} {last : Char} (other : last ≠ '\n')
    (closed : ∃ content, r.taken = content ++ [last]) : (r.after [c]).taken.getLast? ≠ some '\n' := by
  obtain ⟨content, taken⟩ := closed
  intro feed
  simp only [Reading.after, taken, ← List.append_assoc, List.getLast?_concat] at feed
  exact other (Option.some.inj feed)

theorem token_feed (accepted : (token c rest).1.ending = .accepted kind)
    (feed : (token c rest).1.taken.getLast? = some '\n') : kind = .semicolon ∨ kind = .comment := by
  have lexer := token_lexer c
  generalize token c = read at lexer accepted feed
  have within : ∀ {taken : List Char}, c ≠ '\n' → '\n' ∉ taken → '\n' ∉ c :: taken := by
    intro taken other none member
    exact (List.mem_cons.mp member).elim (fun same => other same.symm) none
  cases lexer with
  | name letter =>
    have other : c ≠ '\n' := by
      rintro rfl
      exact absurd letter (by decide)
    exact absurd feed (getLast?_feed (within other (inline_unbroken name_inline rest)))
  | negative =>
    have none := unbroken (negative_covers rest) (negative_covers _) (negative_returned rest)
    exact absurd feed (getLast?_feed (within (by decide) none))
  | number digit =>
    have other : Atom.char c ≠ .char '\n' := by
      rintro same
      cases same
      exact absurd digit (by decide)
    have covers := number_covers c (returned rest)
    rw [← returned_cons other] at covers
    exact absurd feed (getLast?_feed (unbroken (number_covers c rest) covers (number_returned c rest)))
  | rawString =>
    obtain rfl := List.mem_singleton.mp (rawString_among rest kind accepted)
    exact absurd feed (getLast?_closed (by decide) (rawString_closed accepted))
  | quotedString =>
    obtain rfl := List.mem_singleton.mp (quotedString_among .none rest kind accepted)
    exact absurd feed (getLast?_closed (by decide) (quotedString_closed accepted))
  | point =>
    cases digit : startsWith (isDigitOf 10) rest with
    | true =>
      simp only [digit, if_true] at feed
      have none := unbroken (fraction_covers rest) (fraction_covers _) (fraction_returned rest)
      exact absurd feed (getLast?_feed (within (by decide) none))
    | false =>
      simp only [digit, Bool.false_eq_true, if_false] at feed
      cases feed
  | slash => exact .inr (by simpa using slash_among rest kind accepted)
  | single mark =>
    cases accepted
    have same : c = '\n' := by simpa [single, Reading.after] using feed
    subst same
    exact .inl (Option.some.inj mark).symm
  | stopped error closing => cases accepted

end Lines
end WireSchema.Scan

import Mathlib
import WireSchema.Proofs.Reported.Docs

-- Which of the comments in front of a declaration or a method document it: those that nothing parts from its first
-- word, also where they stand behind other words of their line.
namespace WireSchema
namespace Comment

-- No comment is parted from the next one, nor the last one from the word.
structure Reaches (comments : List Token) (word : Token) : Prop where
  adjoining : (comments ++ [word]).IsChain Adjoins
  stays : (comments ++ [word]).IsChain fun c next => ¬ Lost c next

structure IsBlock (before comments : List Token) : Prop where
  comments : ∀ c ∈ comments, c.kind = .comment
  whole : ∀ last ∈ before.getLast?, last.kind ≠ .comment

-- The last comments in front of a word, as far back as they reach it.
structure Counts (comments : List Token) (word : Token) (kept : List Token) : Prop where
  isSuffix : kept <:+ comments
  reaches : ∀ c behind, c :: behind <:+ comments → (c :: behind <:+ kept ↔ Reaches (c :: behind) word)

section
variable {before earlier run lost kept comments : List Token} {c word : Token}

theorem exists_block (front : List Token) : ∃ before comments, front = before ++ comments ∧ IsBlock before comments := by
  refine ⟨front.rdropWhile (·.kind = .comment), front.rtakeWhile (·.kind = .comment), ?_, ?_, ?_⟩
  · exact List.rdropWhile_append_rtakeWhile.symm
  · intro c member
    simpa using List.mem_rtakeWhile_imp member
  · intro last member
    obtain ⟨some, rfl⟩ := List.mem_getLast?_eq_getLast member
    simpa using List.rdropWhile_last_not _ _ some

theorem Reaches.suffix {more : List Token} (reaches : Reaches comments word) (isSuffix : more <:+ comments) :
    Reaches more word := by
  have inside : more ++ [word] <:+ comments ++ [word] := (List.suffix_append_inj_of_length_eq rfl).mpr ⟨isSuffix, rfl⟩
  exact ⟨reaches.adjoining.suffix inside, reaches.stays.suffix inside⟩

theorem Reaches.head (reaches : Reaches (c :: kept) word) :
    Adjoins c (kept.headD word) ∧ ¬ Lost c (kept.headD word) := by
  obtain ⟨adjoining, stays⟩ := reaches
  cases kept with
  | nil => exact ⟨List.isChain_pair.mp adjoining, List.isChain_pair.mp stays⟩
  | cons next rest => exact ⟨(List.isChain_cons_cons.mp adjoining).1, (List.isChain_cons_cons.mp stays).1⟩

theorem counts_of_parted {gone : List Token} (reaches : Reaches kept word)
    (parted : ∀ c ∈ gone.getLast?, ¬ Reaches (c :: kept) word) : Counts (gone ++ kept) word kept := by
  refine ⟨List.suffix_append _ _, fun c behind isSuffix => ⟨reaches.suffix, fun counts => ?_⟩⟩
  rcases List.suffix_or_suffix_of_suffix isSuffix (List.suffix_append gone kept) with inside | ⟨more, longer⟩
  · exact inside
  · rcases more.eq_nil_or_concat with rfl | ⟨others, last, rfl⟩
    · rw [← longer, List.nil_append]
    · rw [List.concat_eq_append] at longer
      have ends : others ++ [last] <:+ gone := by
        rw [← longer] at isSuffix
        exact ((List.suffix_append_inj_of_length_eq rfl).mp isSuffix).1
      have isLast : last ∈ gone.getLast? := by
        obtain ⟨front, rfl⟩ := ends
        simp
      refine absurd (counts.suffix ?_) (parted last isLast)
      rw [← longer, List.append_assoc]
      exact List.suffix_append _ _

theorem Leaves.counts (isRun : IsRun (before ++ earlier) run word) (leaves : Leaves run word lost kept)
    (isBlock : IsBlock before earlier) : IsBlock before (earlier ++ run) ∧ Counts (earlier ++ run) word kept := by
  refine ⟨⟨fun c member => ?_, isBlock.whole⟩, ?_⟩
  · exact (List.mem_append.mp member).elim (isBlock.comments c) (isRun.comments c)
  · have inRun : kept ++ [word] <:+ run ++ [word] :=
      (List.suffix_append_inj_of_length_eq rfl).mpr ⟨⟨lost, leaves.whole.symm⟩, rfl⟩
    have whole : earlier ++ run = (earlier ++ lost) ++ kept := by rw [leaves.whole, List.append_assoc]
    rw [whole]
    refine counts_of_parted ⟨isRun.adjoining.suffix inRun, leaves.kept⟩ fun c isLast reaches => ?_
    rcases lost.eq_nil_or_concat with rfl | ⟨others, last, rfl⟩
    -- nothing of the run is lost, and so the comment in front of it is a line away
    · rw [List.append_nil] at isLast
      have same : run = kept := leaves.whole
      have further : c ∈ (before ++ earlier).getLast? := by
        rw [List.getLast?_append, isLast]
        rfl
      exact isRun.longest c further (isBlock.comments c (List.mem_of_getLast? isLast)) (same ▸ reaches.head.1)
    · have same : last = c := by simpa using isLast
      exact reaches.head.2 (same ▸ leaves.last last (by simp))

end
end Comment

theorem SourceFile.understand_opening {name : String} {source : List UInt8} {d : Declaration SymbolId}
    (member : d ∈ (understand name source).1.declarations) {o : Opening} (among : o ∈ d.openings) : ∃ word : Token,
    word.kind = o.kind ∧ word.position = o.position ∧
      Comment.Documents (Token.allOf Token.defaultLimit name source).1 word o.doc := by
  have proper := Grammar.Tape.ofSource_proper Token.defaultLimit name source
  obtain ⟨t, item, leads, read, openings⟩ := understand_item member Declaration.openings_withSymbols
  obtain ⟨later, behind, kind, position, doc⟩ :=
    Grammar.item_opens (proper.leads leads) read o (openings ▸ among)
  have more : later.current.kind ≠ .endOfFile := by
    rw [kind]
    exact Declaration.openings_kind o among
  have ahead : later.current ∈ later.ahead := by
    rw [(proper.leads (leads.trans behind)).ahead_eq more]
    exact List.mem_cons_self
  have documents := Token.allOf_documents Token.defaultLimit name source _ ((leads.trans behind).1.subset ahead)
  exact ⟨later.current.token, kind, position, doc ▸ documents⟩

-- A declaration or a method is documented by those of the comments in front of it that reach its first word. Whether
-- a word stands in front of a comment in its line makes no difference.
theorem SourceFile.understand_reaches (name : String) (source : List UInt8) :
    ∀ d ∈ (understand name source).1.declarations, ∀ o ∈ d.openings, ∃ before comments word after,
      (Token.allOf Token.defaultLimit name source).1 = before ++ comments ++ word :: after ∧
      word.kind = o.kind ∧ word.position = o.position ∧ Comment.IsBlock before comments ∧
      ∃ kept, Comment.Counts comments word kept ∧ o.doc = Comment.trimmed (kept.flatMap (Comment.lines ·.text)) := by
  intro d member o among
  obtain ⟨word, kind, position, front, run, lost, kept, after, split, isRun, leaves, lines⟩ :=
    understand_opening member among
  obtain ⟨before, earlier, rfl, isBlock⟩ := Comment.exists_block front
  obtain ⟨isBlock, counts⟩ := leaves.counts isRun isBlock
  refine ⟨before, earlier ++ run, word, after, ?_, kind, position, isBlock, kept, counts, lines⟩
  rw [split, List.append_assoc before]

namespace BehindPackage

def source : List UInt8 := Text.encode "package p // trailing\nstruct S \x7b \x7d".toList

def place (line column : Nat) : Position := ⟨"", line, column⟩

def comment : Token := ⟨.comment, "// trailing", place 1 11⟩

def word : Token := ⟨.keyword .struct, "struct", place 2 1⟩

def before : List Token :=
  [⟨.keyword .package, "package", place 1 1⟩, ⟨.identifier, "p", place 1 9⟩, ⟨.semicolon, "\n", place 1 11⟩]

def after : List Token := [⟨.identifier, "S", place 2 8⟩, ⟨.openBrace, "\x7b", place 2 10⟩,
  ⟨.closeBrace, "\x7d", place 2 12⟩, ⟨.semicolon, "\n", place 2 13⟩]

theorem tokens : Token.allOf Token.defaultLimit "" source =
    (before ++ [comment] ++ word :: after, ⟨.endOfFile, "", place 2 13⟩) := by
  exact Token.allOf_first (n := 9) rfl rfl (by decide) rfl

def declared : Declaration SymbolId := .struct ⟨place 2 1, ["trailing"], "S", []⟩

def opening : Opening := ⟨.keyword .struct, place 2 1, ["trailing"]⟩

def file : SourceFile where
  name := ""
  doc := []
  package := ⟨place 1 1, "p"⟩
  imports := ∅
  declarations := [declared]
  symbols := ⟨[⟨"S", some (.declaration 0)⟩], [("S", 0)]⟩

theorem understood : SourceFile.understand "" source = (file, []) := by
  have bound : SourceFile.bound "" source = ⟨file, [], []⟩ := by
    rw [SourceFile.bound, tokens]
    cbv
  rw [SourceFile.understand, bound]
  cbv

theorem among : declared ∈ (SourceFile.understand "" source).1.declarations := by
  rw [understood]
  exact List.mem_cons_self

theorem some_reaches : declared ∈ (SourceFile.understand "" source).1.declarations ∧ opening ∈ declared.openings ∧
    ∃ before comments word after, (Token.allOf Token.defaultLimit "" source).1 = before ++ comments ++ word :: after ∧
      word.position = place 2 1 ∧ Comment.IsBlock before comments ∧ ∃ kept, Comment.Counts comments word kept ∧
        ["trailing"] = Comment.trimmed (kept.flatMap (Comment.lines ·.text)) := by
  refine ⟨among, List.mem_cons_self, ?_⟩
  obtain ⟨before, comments, word, after, split, _, position, isBlock, counts⟩ :=
    SourceFile.understand_reaches "" source declared among opening List.mem_cons_self
  exact ⟨before, comments, word, after, split, position, isBlock, counts⟩

-- The comment starts in a line with a word in front of it, and yet it documents the declaration.
theorem documents_next : ¬ ∀ (name : String) (source : List UInt8), (SourceFile.understand name source).2 = [] →
    ∀ d ∈ (SourceFile.understand name source).1.declarations, ∀ o ∈ d.openings, ∀ before front c behind word after,
      (Token.allOf Token.defaultLimit name source).1 = before ++ (front ++ c :: behind) ++ word :: after →
      word.kind = o.kind → word.position = o.position → Comment.IsBlock before (front ++ c :: behind) →
      (∃ token ∈ before, token.position.line = c.position.line) →
      ∃ others : List Token, others.Sublist (front ++ behind) ∧
        o.doc = Comment.trimmed (others.flatMap (Comment.lines ·.text)) := by
  intro excluded
  have clean : (SourceFile.understand "" source).2 = [] := by rw [understood]
  have isBlock : Comment.IsBlock before [comment] := ⟨by decide, by decide⟩
  have inLine : ∃ token ∈ before, token.position.line = comment.position.line := by decide
  obtain ⟨kept, fewer, doc⟩ := excluded "" source clean declared among opening List.mem_cons_self before [] comment []
    word after (by rw [tokens]; rfl) rfl rfl isBlock inLine
  cases List.sublist_nil.mp fewer
  exact absurd doc (by decide)

end BehindPackage
end WireSchema

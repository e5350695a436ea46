import Mathlib
import WireSchema.Proofs.Names.Reports
import WireSchema.Proofs.Token.Runs

-- What documents the declarations of a file and the methods of its services: the comments in front of their first
-- words, as far as those are not lost.
namespace WireSchema

structure Opening where
  kind : TokenKind
  position : Position
  doc : List String

def Method.opening {σ : Type} (m : Method σ) : Opening := ⟨.identifier, m.position, m.doc⟩

namespace Declaration
variable {σ τ : Type}

def methods : Declaration σ → List (Method σ)
  | .service s => s.methods
  | _ => []

def openings (d : Declaration σ) : List Opening :=
  ⟨.keyword d.kind.keyword, d.position, d.doc⟩ :: d.methods.map (·.opening)

theorem openings_withSymbols (symbol : Reference σ → τ) (d : Declaration σ) :
    (d.withSymbols symbol).openings = d.openings := by
  have head : (d.withSymbols symbol).kind = d.kind ∧ (d.withSymbols symbol).doc = d.doc := by
    cases d <;> exact ⟨rfl, rfl⟩
  have methods : (d.withSymbols symbol).methods.map (·.opening) = d.methods.map (·.opening) := by
    cases d with
    | service s => simp [methods, withSymbols, Method.opening, Method.withSymbols]
    | _ => rfl
  rw [openings, head.1, head.2, methods, position_withSymbols, openings]

theorem openings_kind {d : Declaration σ} : ∀ o ∈ d.openings, o.kind ≠ .endOfFile :=
  List.forall_mem_cons.mpr ⟨by simp, by simp [Method.opening]⟩

end Declaration

namespace Grammar
open Reader hiding pure

def Tape.Opens (t : Tape) (o : Opening) : Prop :=
  t.current.kind = o.kind ∧ t.current.position = o.position ∧ t.current.doc = o.doc

theorem members_reached {α : Type} {member : Reader (Option α)} {t : Tape} (takes : member.Takes) (proper : t.Proper) :
    ∀ a ∈ (members member t).value, ∃ later, t.Leads later ∧ (member later).value = some a := by
  intro a inside
  obtain ⟨found, among, kept⟩ := List.mem_filterMap.mp inside
  obtain ⟨later, leads, _, read⟩ := many_reached takes rfl proper found among
  exact ⟨later, leads, read.symm.trans kept⟩

theorem block_members {α : Type} (word : Keyword) (members : Reader α) (t : Tape) :
    ∃ later, t.Leads later ∧ (block word members t).value.2 = (members later).value := by
  have opened := bind_forward (expect_forward (.keyword word)) (fun _ =>
    bind_forward identifier_takes.forward fun _ => expect_forward .openBrace) t
  exact ⟨_, opened, rfl⟩

theorem method_opens {t : Tape} {m : Method Unit} (read : (method t).value = some m) : t.Opens m.opening := by
  simp only [method, bind_value, current_apply, identifier_apply, pure_eq, pure_apply] at read
  by_cases identifier : t.current.kind = .identifier
  · by_cases empty : t.current.text.isEmpty
    · simp [identifier, empty] at read
    · simp only [identifier, if_true, empty, Bool.false_eq_true, if_false, Option.some.injEq] at read
      subst read
      exact ⟨identifier, rfl, rfl⟩
  · simp [identifier] at read

theorem service_methods {t : Tape} (proper : t.Proper) :
    ∀ m ∈ (service t).value.methods, ∃ later, t.Leads later ∧ (method later).value = some m := by
  obtain ⟨opened, leads, same⟩ := block_members .service (members method) t
  have methods : (service t).value.methods = (members method opened).value := same
  rw [methods]
  intro m member
  obtain ⟨later, behind, read⟩ := members_reached method_takes (proper.leads leads) m member
  exact ⟨later, leads.trans behind, read⟩

theorem item_methods {t : Tape} {d : Declaration Unit} (read : (item t).value = some d) :
    d.methods = [] ∨ d.methods = (service t).value.methods := by
  cases d with
  | service s =>
    have kind : t.current.kind = .keyword .service := (item_keyword read).1
    simp only [item, bind_value, current_apply, kind, pure_eq, pure_apply] at read
    cases Option.some.inj read
    exact .inr rfl
  | _ => exact .inl rfl

theorem item_opens {t : Tape} (proper : t.Proper) {d : Declaration Unit} (read : (item t).value = some d) :
    ∀ o ∈ d.openings, ∃ later, t.Leads later ∧ later.Opens o := by
  refine List.forall_mem_cons.mpr ⟨?_, ?_⟩
  · obtain ⟨kind, position, doc⟩ := item_keyword read
    exact ⟨t, .refl t, kind, position.symm, doc.symm⟩
  · intro o member
    obtain ⟨m, among, rfl⟩ := List.mem_map.mp member
    rcases item_methods read with none | same
    · simp [none] at among
    · obtain ⟨later, leads, found⟩ := service_methods proper m (same ▸ among)
      exact ⟨later, leads, method_opens found⟩

end Grammar

-- The comments in front of a declaration or a method document it, but for those that are lost: all of its run where
-- none is, and else those behind the last one.
theorem SourceFile.understand_documents (name : String) (source : List UInt8) :
    ∀ d ∈ (understand name source).1.declarations, ∀ o ∈ d.openings, ∃ before run word after,
      (Token.allOf Token.defaultLimit name source).1 = before ++ run ++ word :: after ∧
      word.kind = o.kind ∧ word.position = o.position ∧ Comment.IsRun before run word ∧
      (∃ lost kept, Comment.Leaves run word lost kept ∧
        o.doc = Comment.trimmed (kept.flatMap (Comment.lines ·.text))) ∧
      ((run ++ [word]).IsChain (fun c next => ¬ Comment.Lost c next) →
        o.doc = Comment.trimmed (run.flatMap (Comment.lines ·.text))) := by
  have proper := Grammar.Tape.ofSource_proper Token.defaultLimit name source
  intro d member o among
  have more := Declaration.openings_kind o among
  obtain ⟨t, item, leads, read, openings⟩ := understand_item member Declaration.openings_withSymbols
  obtain ⟨later, behind, kind, position, doc⟩ :=
    Grammar.item_opens (proper.leads leads) read o (openings ▸ among)
  have ahead : later.current ∈ later.ahead := by
    rw [(proper.leads (leads.trans behind)).ahead_eq (by rw [kind]; exact more)]
    exact List.mem_cons_self
  obtain ⟨before, run, lost, kept, after, split, isRun, leaves, lines⟩ :=
    Token.allOf_documents Token.defaultLimit name source _ ((leads.trans behind).1.subset ahead)
  refine ⟨before, run, later.current.token, after, split, kind, position, isRun, ⟨lost, kept, leaves, ?_⟩, ?_⟩
  · rw [← doc, lines]
  · intro stays
    rw [← doc, lines, leaves.all stays]

namespace ClosedAbove

def source : List UInt8 := Text.encode "package p\n/*\na\n*/\nstruct S \x7b \x7d".toList

def place (line column : Nat) : Position := ⟨"", line, column⟩

def comment : Token := ⟨.comment, "/*\na\n*/", place 2 1⟩

def word : Token := ⟨.keyword .struct, "struct", place 5 1⟩

def before : List Token :=
  [⟨.keyword .package, "package", place 1 1⟩, ⟨.identifier, "p", place 1 9⟩, ⟨.semicolon, "\n", place 1 10⟩]

def after : List Token := [⟨.identifier, "S", place 5 8⟩, ⟨.openBrace, "\x7b", place 5 10⟩,
  ⟨.closeBrace, "\x7d", place 5 12⟩, ⟨.semicolon, "\n", place 5 13⟩]

theorem tokens : Token.allOf Token.defaultLimit "" source =
    (before ++ [comment] ++ word :: after, ⟨.endOfFile, "", place 5 13⟩) := by
  exact Token.allOf_first (n := 9) rfl rfl (by decide) rfl

def declared : Declaration SymbolId := .struct ⟨place 5 1, [], "S", []⟩

def opening : Opening := ⟨.keyword .struct, place 5 1, []⟩

def file : SourceFile where
  name := ""
  doc := []
  package := ⟨place 1 1, "p"⟩
  imports := ∅
  declarations := [declared]
  symbols := ⟨[⟨"S", some (.declaration 0)⟩], [("S", 0)]⟩

theorem understood : SourceFile.understand "" source = (file, []) := by
  have bound : SourceFile.bound "" source = ⟨file, [], []⟩ := by
    rw [SourceFile.bound, tokens]
    cbv
  rw [SourceFile.understand, bound]
  cbv

theorem among : declared ∈ (SourceFile.understand "" source).1.declarations := by
  rw [understood]
  exact List.mem_cons_self

theorem nothing_left : declared ∈ (SourceFile.understand "" source).1.declarations ∧ opening ∈ declared.openings ∧
    ∃ before run word after, (Token.allOf Token.defaultLimit "" source).1 = before ++ run ++ word :: after ∧
      word.position = place 5 1 ∧ Comment.IsRun before run word ∧
      ∃ lost kept, Comment.Leaves run word lost kept ∧ [] = Comment.trimmed (kept.flatMap (Comment.lines ·.text)) := by
  refine ⟨among, List.mem_cons_self, ?_⟩
  obtain ⟨before, run, word, after, split, _, position, isRun, leaves, _⟩ :=
    SourceFile.understand_documents "" source declared among opening List.mem_cons_self
  exact ⟨before, run, word, after, split, position, isRun, leaves⟩

-- No line is left out in front of the declaration, and yet the comment does not document it.
theorem undocumented : ¬ ∀ (name : String) (source : List UInt8), (SourceFile.understand name source).2 = [] →
    ∀ d ∈ (SourceFile.understand name source).1.declarations, ∀ o ∈ d.openings, ∀ before run word after,
      (Token.allOf Token.defaultLimit name source).1 = before ++ run ++ word :: after → word.kind = o.kind →
      word.position = o.position → Comment.IsRun before run word →
      o.doc = Comment.trimmed (run.flatMap (Comment.lines ·.text)) := by
  intro documents
  have isRun : Comment.IsRun before [comment] word := by
    refine ⟨by decide, ?_, by simp [before]⟩
    exact List.isChain_pair.mpr (by decide : 5 ≤ comment.lastLine + 1)
  have clean : (SourceFile.understand "" source).2 = [] := by rw [understood]
  have doc := documents "" source clean declared among opening List.mem_cons_self before [comment] word after
    (by rw [tokens]) rfl rfl isRun
  exact absurd doc (by decide)

end ClosedAbove
end WireSchema

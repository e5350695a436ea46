import WireSchema.Proofs.Grammar.ComparedOutline
import WireSchema.Proofs.Token.ReturnedTokens
import WireSchema.Proofs.Validity.Places

-- What is read off a source whatever its lines end with. Declarations, imports and names are the same and do not stand
-- at line ends; problems may, and are moved there.
namespace WireSchema
open Grammar Text

theorem forall₂_map {α β : Type} {R : α → β → Prop} {f : α → β} {P : α → Prop} {as : List α} {bs : List β}
    (each : ∀ a b, R a b → b = f a ∧ P a) (related : List.Forall₂ R as bs) : bs = as.map f ∧ ∀ a ∈ as, P a := by
  induction related with
  | nil => exact ⟨rfl, by simp⟩
  | cons first _ ih =>
    obtain ⟨rfl, holds⟩ := each _ _ first
    obtain ⟨rfl, rest⟩ := ih
    exact ⟨rfl, List.forall_mem_cons.mpr ⟨holds, rest⟩⟩

theorem forall₂_same {α : Type} {R : α → α → Prop} {P : α → Prop} {as bs : List α}
    (each : ∀ a b, R a b → b = a ∧ P a) (related : List.Forall₂ R as bs) : bs = as ∧ ∀ a ∈ as, P a := by
  simpa using forall₂_map (f := id) each related

namespace Position
variable {ends : List Place} {p : Position}

def Stays (ends : List Place) (p : Position) : Prop := p.place ∉ ends ∧ p.Within ends

theorem Stays.returned (stays : p.Stays ends) : p.returned ends = p := if_neg stays.1

def Lies (ends : List Place) (terminators : List Position) (p : Position) : Prop :=
  p.Within ends ∧ (p.place ∈ ends → p ∈ terminators)

theorem Stays.lies (stays : p.Stays ends) (terminators : List Position) : p.Lies ends terminators :=
  ⟨stays.2, fun member => absurd member stays.1⟩

end Position

def Located.returned {α : Type} (ends : List Place) (l : Located α) : Located α := ⟨l.position.returned ends, l.content⟩

theorem Located.returned_stays {α : Type} {ends : List Place} {l : Located α} (stays : l.position.Stays ends) :
    l.returned ends = l := by
  rw [returned, stays.returned]

theorem map_returned_stays {α : Type} {ends : List Place} {ls : List (Located α)}
    (stays : ∀ l ∈ ls, l.position.Stays ends) : ls.map (Located.returned ends) = ls := by
  rw [List.map_congr_left fun l member => Located.returned_stays (stays l member)]
  exact List.map_id _

namespace Grammar.Comparison
variable {ends : List Place} {terminators : List Position} {left right : Tape}

def lineEnds (ends : List Place) (terminators : List Position) (left right : Tape) : Comparison where
  places p q := q = p ∧ p.Stays ends
  docs above again := again = above
  reports p q := q = p.returned ends ∧ p.Lies ends terminators
  reported places := ⟨places.1.trans places.2.returned.symm, places.2.lies _⟩
  left := left
  right := right

theorem ofTokens_lineEnds (left right : Tape) {finish last : Token} (ended : finish.Returns ends last)
    (ending : finish.kind = .endOfFile)
    {tokens others : List Token} (alike : List.Forall₂ (Token.Returns ends) tokens others)
    (noted : ∀ t ∈ tokens, t.kind = .semicolon → t.position ∈ terminators) (doc : List String) :
    List.Forall₂ (lineEnds ends terminators left right).Words (Documented.ofTokens finish doc tokens).1
        (Documented.ofTokens last doc others).1 ∧
      (lineEnds ends terminators left right).Words (Documented.ofTokens finish doc tokens).2
        (Documented.ofTokens last doc others).2 := by
  have word : ∀ {t other : Token}, t.Returns ends other → t.kind ≠ .comment →
      (t.kind = .semicolon → t.position ∈ terminators) → ∀ doc,
      (lineEnds ends terminators left right).Words ⟨t, doc⟩ ⟨other, doc⟩ := by
    intro t other returns words terminator doc
    have moved : other.position = t.position.returned ends ∧ t.position.Lies ends terminators := by
      refine ⟨returns.position, returns.within, fun member => terminator ?_⟩
      by_contra kind
      exact returns.inside kind member
    refine ⟨returns.kind.symm, fun valid => (returns.text valid words).symm, rfl, moved, fun kind => ?_⟩
    have stays : t.position.Stays ends := ⟨returns.inside kind, returns.within⟩
    exact ⟨moved.1.trans stays.returned, stays⟩
  induction alike generalizing doc with
  | nil => exact ⟨.nil, word ended (by simp [ending]) (by simp [ending]) _⟩
  | @cons t other tokens others returns alike ih =>
    obtain ⟨here, behind⟩ := List.forall_mem_cons.mp noted
    unfold Documented.ofTokens
    rw [returns.kind]
    split
    · rename_i comment
      have next : (others.headD last).position.line = (tokens.headD finish).position.line := by
        cases alike with
        | nil => rw [List.headD_nil, List.headD_nil, ended.position, Position.returned_line]
        | cons first _ => rw [List.headD_cons, List.headD_cons, first.position, Position.returned_line]
      have extended : ∀ next, Comment.extend doc other next = Comment.extend doc t next := by
        intro next
        unfold Comment.extend
        rw [returns.lines comment, returns.position, Position.returned_line]
      rw [next, extended]
      exact ih behind _
    · rename_i words
      obtain ⟨rest, finished⟩ := ih behind []
      exact ⟨.cons (word returns words here _) rest, finished⟩

theorem members_stay {α : Type} {R : α → α → Prop} {places : α → Position} {position : Position} {as bs : List α}
    (own : position.Stays ends) (each : ∀ a b, R a b → b = a ∧ (places a).Stays ends) (alike : List.Forall₂ R as bs) :
    bs = as ∧ ∀ p ∈ position :: as.map places, p.Stays ends := by
  obtain ⟨same, stay⟩ := forall₂_same (P := fun a => (places a).Stays ends) each alike
  refine ⟨same, List.forall_mem_cons.mpr ⟨own, fun p member => ?_⟩⟩
  obtain ⟨a, among, rfl⟩ := List.mem_map.mp member
  exact stay a among

theorem lineEnds_declarations {d e : Declaration Unit}
    (alike : (lineEnds ends terminators left right).Declarations d e) :
    e = d ∧ ∀ p ∈ d.positions, p.Stays ends := by
  cases alike with
  | const places docs =>
    obtain ⟨rfl, own⟩ := places
    cases docs
    exact ⟨rfl, by simpa [Declaration.positions] using own⟩
  | enumeration places docs members =>
    obtain ⟨rfl, own⟩ := places
    cases docs
    have each : ∀ a b : Enumerator, (lineEnds ends terminators left right).Enumerators a b →
        b = a ∧ a.position.Stays ends := by
      intro a b related
      cases related with
      | same place => exact ⟨by rw [place.1], place.2⟩
    obtain ⟨rfl, stay⟩ := members_stay own each members
    exact ⟨rfl, stay⟩
  | struct places docs members =>
    obtain ⟨rfl, own⟩ := places
    cases docs
    have each : ∀ a b : Field Unit, (lineEnds ends terminators left right).Fields a b →
        b = a ∧ a.position.Stays ends := by
      intro a b related
      cases related with
      | same place => exact ⟨by rw [place.1], place.2⟩
    obtain ⟨rfl, stay⟩ := members_stay own each members
    exact ⟨rfl, stay⟩
  | union places docs members =>
    obtain ⟨rfl, own⟩ := places
    cases docs
    have each : ∀ a b : Branch Unit, (lineEnds ends terminators left right).Branches a b →
        b = a ∧ a.position.Stays ends := by
      intro a b related
      cases related with
      | same place => exact ⟨by rw [place.1], place.2⟩
    obtain ⟨rfl, stay⟩ := members_stay own each members
    exact ⟨rfl, stay⟩
  | service places docs members =>
    obtain ⟨rfl, own⟩ := places
    cases docs
    have each : ∀ a b : Method Unit, (lineEnds ends terminators left right).Methods a b →
        b = a ∧ a.position.Stays ends := by
      intro a b related
      cases related with
      | same place docs => exact ⟨by rw [place.1, docs], place.2⟩
    obtain ⟨rfl, stay⟩ := members_stay own each members
    exact ⟨rfl, stay⟩

theorem lineEnds_reports {problems others : Problems}
    (alike : List.Forall₂ (lineEnds ends terminators left right).Reports problems others) :
    others = problems.map (Located.returned ends) ∧ ∀ p ∈ problems, p.position.Lies ends terminators := by
  refine forall₂_map (fun p q related => ?_) alike
  obtain ⟨⟨moved, lies⟩, content⟩ := related
  refine ⟨?_, lies⟩
  cases q
  rw [Located.returned]
  exact Located.mk.injEq _ _ _ _ |>.mpr ⟨moved, content.symm⟩

theorem lineEnds_mentions {mentions others : List Mention}
    (alike : List.Forall₂ (lineEnds ends terminators left right).Mentions mentions others) :
    others = mentions ∧ ∀ m ∈ mentions, m.position.Stays ends := by
  refine forall₂_same (fun m n related => ?_) alike
  obtain ⟨⟨same, stays⟩, name⟩ := related
  refine ⟨?_, stays⟩
  cases n
  exact Mention.mk.injEq _ _ _ _ |>.mpr ⟨name.symm, same⟩

theorem lineEnds_known {known more : Dictionary String Import}
    (alike : (lineEnds ends terminators left right).Known known more) : more = known := by
  obtain ⟨same, _⟩ := forall₂_same (P := fun _ => True) (fun e f related => by
    obtain ⟨name, ⟨place, path, given⟩⟩ := related
    obtain ⟨key, clause⟩ := e
    obtain ⟨other, again⟩ := f
    cases clause
    cases again
    obtain ⟨same, _⟩ := place
    simp_all) alike
  cases known
  cases more
  exact Dictionary.mk.injEq _ _ _ _ |>.mpr same

end Grammar.Comparison

end WireSchema

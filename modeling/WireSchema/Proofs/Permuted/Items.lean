import WireSchema.Proofs.Grammar.ComparedOutline
import WireSchema.Proofs.Permuted.Bare
import WireSchema.Proofs.Token.Words

-- What is read of a declaration comes of its own words, wherever they stand and whatever comes behind them.
namespace WireSchema.Grammar
open Reader hiding pure

def Comparison.words (left right : Tape) : Comparison :=
  ⟨fun _ _ => True, fun _ _ => True, fun _ _ => True, fun _ => trivial, left, right⟩

namespace Comparison
variable {left right : Tape}

theorem words_same {w v : Documented} (same : w.token.word = v.token.word) : (words left right).Words w v :=
  ⟨congrArg Prod.fst same, fun _ => congrArg Prod.snd same, trivial, trivial, fun _ => trivial⟩

theorem words_all {as bs : List Documented} (same : as.map (·.token.word) = bs.map (·.token.word)) :
    List.Forall₂ (words left right).Words as bs := forall₂_of_map same fun _ _ _ _ => words_same

end Comparison

structure Step.Given (s r : Step (Option (Declaration Unit))) (tape : Tape) : Prop where
  problems : s.problems = []
  value : s.value.map (·.content) = r.value.map (·.content)
  mentions : s.mentions.map (·.name) = r.mentions.map (·.name)
  tape : s.tape = tape

theorem item_terminated {t : Tape} (declares : (declared? t.current.kind).isSome) : item t =
    ⟨(unterminated t).value, (unterminated t).problems ++ (expect .semicolon (unterminated t).tape).problems,
      (unterminated t).mentions, (unterminated t).tape.advance⟩ := by
  rw [item_unterminated declares]
  simp [bind_apply, expect_apply]

theorem values_content {c : Comparison} {a b : Option (Declaration Unit)} (related : Option.Rel c.Declarations a b) :
    a.map (·.content) = b.map (·.content) := by
  cases related with
  | none => rfl
  | some same => exact congrArg some same.content

theorem mentions_named {c : Comparison} {ms ns : List Mention} (related : List.Forall₂ c.Mentions ms ns) :
    ms.map (·.name) = ns.map (·.name) := Comparison.map_eq (fun _ _ same => same.2) related

theorem item_apart {as bs rest later : List Documented} {finish stop : Documented} {name : Option String}
    (isItem : IsItem (as.map (·.token)) name) (declares : (declared? (Tape.mk (as ++ rest) finish).current.kind).isSome)
    (proper : (Tape.mk (as ++ rest) finish).Proper) (same : as.map (·.token.word) = bs.map (·.token.word)) :
    Step.Given (item ⟨bs ++ later, stop⟩) (item ⟨as ++ rest, finish⟩) ⟨later, stop⟩ := by
  generalize start : Tape.mk (as ++ rest) finish = t at declares proper
  have tokens : t.tokens = as.map (·.token) ++ rest.map (·.token) := by rw [← start, Tape.tokens, List.map_append]
  obtain ⟨clean, _, left⟩ := item_complete isItem proper tokens
  have leads : t.Leads (unterminated t).tape := Reader.Forwards.forward (r := unterminated) t
  rw [item_terminated declares] at clean left ⊢
  obtain ⟨cleanInner, cleanEnd⟩ := List.append_eq_nil_iff.mp clean
  have ends := expect_clean cleanEnd
  -- the terminator is still ahead, so the readings are compared up to there
  have behind : (unterminated t).tape.advance.left = rest.length := by
    simpa [Tape.tokens, Tape.left] using congrArg List.length left
  have short := (proper.leads leads).advance_left (by rw [ends]; simp)
  have inside : ∀ later : Tape, (unterminated t).tape.left ≤ later.left → ¬ later.left ≤ rest.length := by
    intro later further
    omega
  have tapes : (Comparison.words ⟨rest, finish⟩ ⟨later, stop⟩).Tapes t ⟨bs ++ later, stop⟩ :=
    ⟨as, bs, start.symm, rfl, Comparison.words_all same⟩
  rcases tapes.look with past | ⟨first, _⟩
  · exact absurd past.2 (inside _ leads.left_le)
  rcases Comparison.unterminated_agree _ _ tapes with past | alike
  · exact absurd past.2 (inside _ (Nat.le_refl _))
  rcases alike.tapes.look with past | ⟨last, advanced⟩
  · exact absurd past.2 (inside _ (Nat.le_refl _))
  have none : (unterminated ⟨bs ++ later, stop⟩).problems = [] := by
    have problems := alike.problems
    rw [cleanInner] at problems
    exact List.forall₂_nil_left_iff.mp problems
  have ended := expect_problems (last.kind.symm.trans ends)
  have stops : (unterminated ⟨bs ++ later, stop⟩).tape.advance = ⟨later, stop⟩ := by
    obtain ⟨a, b, onLeft, onRight, each⟩ := advanced
    rw [onLeft] at behind
    have empty : a = [] := by
      rw [← List.length_eq_zero_iff]
      simpa [Tape.left, Comparison.words] using behind
    subst empty
    obtain rfl := List.forall₂_nil_left_iff.mp each
    exact onRight
  rw [item_terminated (first.kind ▸ declares), none, ended.1]
  exact ⟨rfl, (values_content alike.values).symm, (mentions_named alike.mentions).symm, stops⟩

theorem items_stray {stray later : List Documented} {finish : Documented} (ends : ∀ w ∈ stray, w.kind = .semicolon)
    (proper : (Tape.mk (stray ++ later) finish).Proper) : ∃ steps, (items ⟨stray ++ later, finish⟩).value =
      steps ++ (items ⟨later, finish⟩).value ∧
      ∀ step ∈ steps, step.problems = [] ∧ step.value = none ∧ step.mentions = [] := by
  induction stray with
  | nil => exact ⟨[], rfl, by simp⟩
  | cons w stray ih =>
    obtain ⟨first, others⟩ := List.forall_mem_cons.mp ends
    obtain ⟨steps, behind, empty⟩ := ih others proper.advance
    have kind : (Tape.mk (w :: stray ++ later) finish).current.kind = .semicolon := first
    refine ⟨⟨none, [], [], ⟨stray ++ later, finish⟩⟩ :: steps, ?_, List.forall_mem_cons.mpr ⟨⟨rfl, rfl, rfl⟩, empty⟩⟩
    rw [items_go proper (by rw [kind]; simp), item_semicolon kind]
    exact congrArg (List.cons _) behind

end WireSchema.Grammar

import WireSchema.Grammar.Outline
import WireSchema.Proofs.Token.Names

-- Readers only move forward on the tape, so each reader that calls itself or is repeated satisfies the
-- equation it is meant by: the guard that ends its recursion never stops it.
namespace WireSchema

theorem Documented.ofTokens_tokens (finish : Token) (doc : List String) (tokens : List Token) :
    (ofTokens finish doc tokens).1.map (·.token) = tokens.filter (·.kind ≠ .comment) := by
  induction tokens generalizing doc with
  | nil => rfl
  | cons token rest ih => by_cases comment : token.kind = .comment <;> simp [ofTokens, comment, ih]

theorem Documented.ofTokens_finish (finish : Token) (doc : List String) (tokens : List Token) :
    (ofTokens finish doc tokens).2.token = finish := by
  induction tokens generalizing doc with
  | nil => rfl
  | cons token rest ih => by_cases comment : token.kind = .comment <;> simp [ofTokens, comment, ih]

namespace Grammar

def Tape.Leads (t later : Tape) : Prop := later.ahead <:+ t.ahead ∧ later.finish = t.finish

-- The tokens of a source: what stands for the end is the end and stands nowhere else, and identifiers are
-- names.
structure Tape.Proper (t : Tape) : Prop where
  ended : t.finish.kind = .endOfFile
  unended : ∀ word ∈ t.ahead, word.kind ≠ .endOfFile
  named : ∀ word ∈ t.ahead, word.kind = .identifier → IsName word.text

namespace Tape
variable {t middle later : Tape}

theorem Leads.refl (t : Tape) : t.Leads t := ⟨List.suffix_refl _, rfl⟩

theorem Leads.trans (one : t.Leads middle) (two : middle.Leads later) : t.Leads later :=
  ⟨two.1.trans one.1, two.2.trans one.2⟩

theorem leads_advance (t : Tape) : t.Leads t.advance := ⟨List.tail_suffix _, rfl⟩

theorem Leads.left_le (leads : t.Leads later) : later.left ≤ t.left := leads.1.length_le

theorem Proper.leads (proper : t.Proper) (leads : t.Leads later) : later.Proper :=
  ⟨leads.2 ▸ proper.ended, fun word member => proper.unended word (leads.1.subset member),
    fun word member => proper.named word (leads.1.subset member)⟩

theorem Proper.ahead_eq (proper : t.Proper) (more : t.current.kind ≠ .endOfFile) :
    t.ahead = t.current :: t.advance.ahead := by
  rcases t with ⟨ahead, finish⟩
  cases ahead with
  | nil => exact absurd proper.ended more
  | cons word rest => rfl

theorem Proper.advance_left (proper : t.Proper) (more : t.current.kind ≠ .endOfFile) :
    t.advance.left < t.left := by
  simp [Tape.left, proper.ahead_eq more]

theorem Proper.ahead_nil (proper : t.Proper) (none : t.current.kind = .endOfFile) : t.ahead = [] := by
  rcases t with ⟨ahead, finish⟩
  cases ahead with
  | nil => rfl
  | cons word rest => exact absurd none (proper.unended word List.mem_cons_self)

theorem Proper.current_name (proper : t.Proper) (identifier : t.current.kind = .identifier) :
    IsName t.current.text := by
  refine proper.named _ ?_ identifier
  rw [proper.ahead_eq (by rw [identifier]; simp)]
  exact List.mem_cons_self

theorem Proper.advance (proper : t.Proper) : t.advance.Proper := proper.leads (leads_advance t)

theorem ofTokens_current (tokens : List Token × Token) :
    (ofTokens tokens).current.token = (tokens.1.find? (·.kind ≠ .comment)).getD tokens.2 := by
  have words := congrArg List.head? (Documented.ofTokens_tokens tokens.2 [] tokens.1)
  rw [List.head?_filter, List.head?_map] at words
  rw [← words]
  unfold ofTokens current
  dsimp only
  cases (Documented.ofTokens tokens.2 [] tokens.1).1 with
  | nil => exact Documented.ofTokens_finish tokens.2 [] tokens.1
  | cons word rest => rfl

theorem ofTokens_among {tokens : List Token × Token} {word : Documented} (member : word ∈ (ofTokens tokens).ahead) :
    word.token ∈ tokens.1 := by
  have token := List.mem_map_of_mem (f := Documented.token) member
  rw [ofTokens, Documented.ofTokens_tokens] at token
  exact (List.mem_filter.mp token).1

theorem ofSource_proper (limit : Nat) (file : String) (source : List UInt8) :
    (ofTokens (Token.allOf limit file source)).Proper := by
  obtain ⟨each, ended⟩ := Token.allOf_identifiers limit file source
  refine ⟨?_, fun _ member => (each _ (ofTokens_among member)).2, fun _ member => (each _ (ofTokens_among member)).1⟩
  rw [ofTokens, Documented.kind, Documented.ofTokens_finish]
  exact ended

end Tape

namespace Reader
variable {α β ι : Type}

theorem bind_apply (r : Reader α) (next : α → Reader β) (t : Tape) :
    (r >>= next) t = ⟨(next (r t).value (r t).tape).value, (r t).problems ++ (next (r t).value (r t).tape).problems,
      (r t).mentions ++ (next (r t).value (r t).tape).mentions, (next (r t).value (r t).tape).tape⟩ := rfl

theorem bind_value (r : Reader α) (next : α → Reader β) (t : Tape) :
    ((r >>= next) t).value = (next (r t).value (r t).tape).value := rfl

theorem bind_problems (r : Reader α) (next : α → Reader β) (t : Tape) :
    ((r >>= next) t).problems = (r t).problems ++ (next (r t).value (r t).tape).problems := rfl

theorem bind_mentions (r : Reader α) (next : α → Reader β) (t : Tape) :
    ((r >>= next) t).mentions = (r t).mentions ++ (next (r t).value (r t).tape).mentions := rfl

theorem bind_tape (r : Reader α) (next : α → Reader β) (t : Tape) :
    ((r >>= next) t).tape = (next (r t).value (r t).tape).tape := rfl

@[simp] theorem pure_eq (value : α) : (Pure.pure value : Reader α) = Reader.pure value := rfl

@[simp] theorem pure_apply (value : α) (t : Tape) : Reader.pure value t = ⟨value, [], [], t⟩ := rfl

@[simp] theorem current_apply (t : Tape) : current t = ⟨t.current, [], [], t⟩ := rfl

@[simp] theorem advance_apply (t : Tape) : advance t = ⟨(), [], [], t.advance⟩ := rfl

@[simp] theorem report_apply (problem : Problem) (t : Tape) :
    report problem t = ⟨(), [⟨t.current.position, problem⟩], [], t⟩ := rfl

@[simp] theorem reportAt_apply (position : Position) (problem : Problem) (t : Tape) :
    reportAt position problem t = ⟨(), [⟨position, problem⟩], [], t⟩ := rfl

@[simp] theorem mention_apply (name : String) (position : Position) (t : Tape) :
    mention name position t = ⟨(), [], [⟨name, position⟩], t⟩ := rfl

theorem map_apply (f : α → β) (r : Reader α) (t : Tape) :
    (f <$> r) t = ⟨f (r t).value, (r t).problems, (r t).mentions, (r t).tape⟩ := by
  change (r >>= fun a => Reader.pure (f a)) t = _
  simp [bind_apply]

theorem forM_report (problems : List Problem) (t : Tape) :
    forM problems report t = ⟨(), problems.map (⟨t.current.position, ·⟩), [], t⟩ := by
  induction problems with
  | nil => rfl
  | cons problem rest ih =>
    change (report problem >>= fun _ => forM rest report) t = _
    simp only [bind_apply, report_apply, ih, List.map_cons, List.cons_append, List.nil_append]

def Forward (r : Reader α) : Prop := ∀ t : Tape, t.Leads (r t).tape

theorem pure_forward (value : α) : (Reader.pure value).Forward := fun t => .refl t

theorem current_forward : current.Forward := fun t => .refl t

theorem advance_forward : advance.Forward := Tape.leads_advance

theorem report_forward (problem : Problem) : (report problem).Forward := fun t => .refl t

theorem mention_forward (name : String) (position : Position) : (mention name position).Forward :=
  fun t => .refl t

theorem bind_forward {r : Reader α} {next : α → Reader β} (first : r.Forward)
    (later : ∀ a, (next a).Forward) : (r >>= next).Forward :=
  fun t => (first t).trans (later _ _)

def Takes (r : Reader α) : Prop := ∀ t : Tape, t.advance.Leads (r t).tape

theorem Takes.forward {r : Reader α} (takes : r.Takes) : r.Forward := fun t => t.leads_advance.trans (takes t)

theorem Takes.shorter {r : Reader α} {t : Tape} (takes : r.Takes) (proper : t.Proper)
    (more : t.current.kind ≠ .endOfFile) : (r t).tape.left < t.left :=
  Nat.lt_of_le_of_lt (takes t).left_le (proper.advance_left more)

theorem advance_takes : advance.Takes := fun t => .refl t.advance

theorem bind_takes {r : Reader α} {next : α → Reader β} (first : r.Takes)
    (later : ∀ a, (next a).Forward) : (r >>= next).Takes :=
  fun t => (first t).trans (later _ _)

theorem current_bind_takes {next : Documented → Reader α} (takes : ∀ word, (next word).Takes) :
    (current >>= next).Takes := fun t => takes _ t

theorem report_bind_takes {problem : Problem} {next : Unit → Reader α} (takes : (next ()).Takes) :
    (report problem >>= next).Takes := fun t => takes t

theorem map_takes {r : Reader α} (f : α → β) (takes : r.Takes) : (f <$> r).Takes := fun t => by
  rw [map_apply]
  exact takes t

theorem Takes.kept {r : Reader α} (takes : r.Takes) : r.kept.Takes := takes

variable {stuck : ι → α} {body : (ι → Reader α) → ι → Reader α}

def Carries (body : (ι → Reader α) → ι → Reader α) : Prop :=
  ∀ again : ι → Reader α, (∀ i, (again i).Forward) → ∀ i, (body again i).Forward

theorem recurse_forward (carries : Carries body) (i : ι) : (recurse stuck body i).Forward := by
  intro t
  induction size : t.left using Nat.strongRecOn generalizing t i with
  | ind n ih =>
    rw [recurse]
    refine carries _ (fun j later => ?_) i t
    split
    · rename_i shorter
      exact ih later.left (size ▸ shorter) j later rfl
    · exact .refl later

theorem recurse_takes {i : ι} (carries : Carries body)
    (takes : ∀ again : ι → Reader α, (∀ j, (again j).Forward) → (body again i).Takes) :
    (recurse stuck body i).Takes := by
  intro t
  rw [recurse]
  refine takes _ (fun j later => ?_) t
  split
  · exact recurse_forward carries j later
  · exact .refl later

-- The recursion unfolds where its body calls itself on shorter tapes only. Calls agree when they do so on
-- shorter tapes, and they may be assumed to move forward.
theorem recurse_eq {i : ι} {t : Tape} (carries : Carries body)
    (agree : ∀ f g : ι → Reader α, (∀ j, (f j).Forward) → (∀ j, (g j).Forward) →
      (∀ j later, later.left < t.left → f j later = g j later) → body f i t = body g i t) :
    recurse stuck body i t = body (recurse stuck body) i t := by
  rw [recurse]
  refine agree _ _ (fun j later => ?_) (recurse_forward carries) (fun j later shorter => ?_)
  · split
    · exact recurse_forward carries j later
    · exact .refl later
  · simp [shorter]

theorem many_carries (goesOn : TokenKind → Bool) {round : Reader α} (forward : round.Forward) :
    Carries fun (again : Unit → Reader (List α)) (_ : Unit) => (do
      if goesOn (← current).kind then
        let first ← round
        let more ← again ()
        pure (first :: more)
      else pure [] : Reader (List α)) := by
  intro again calls i
  refine bind_forward current_forward fun word => ?_
  split
  · exact bind_forward forward fun first => bind_forward (calls ()) fun more => pure_forward _
  · exact pure_forward _

theorem many_forward (goesOn : TokenKind → Bool) {round : Reader α} (forward : round.Forward) :
    (many goesOn round).Forward := recurse_forward (many_carries goesOn forward) ()

theorem many_stops {goesOn : TokenKind → Bool} {round : Reader α} {t : Tape} (forward : round.Forward)
    (stops : goesOn t.current.kind = false) : many goesOn round t = ⟨[], [], [], t⟩ := by
  unfold many
  rw [recurse_eq (many_carries goesOn forward)]
  · simp [bind_apply, stops]
  · intro f g _ _ _
    simp [bind_apply, stops]

theorem many_goes {goesOn : TokenKind → Bool} {round : Reader α} {t : Tape} (forward : round.Forward)
    (goes : goesOn t.current.kind = true) (shorter : (round t).tape.left < t.left) :
    many goesOn round t = (do
      let first ← round
      let more ← many goesOn round
      Pure.pure (first :: more) : Reader (List α)) t := by
  rw [many, recurse_eq (many_carries goesOn forward)]
  · simp [bind_apply, goes]
  · intro f g _ _ same
    simp [bind_apply, goes, same () _ shorter]

theorem many_reached {goesOn : TokenKind → Bool} {round : Reader α} {t : Tape} (takes : round.Takes)
    (stops : goesOn .endOfFile = false) (proper : t.Proper) : ∀ a ∈ (many goesOn round t).value,
      ∃ later, t.Leads later ∧ goesOn later.current.kind = true ∧ a = (round later).value := by
  induction size : t.left using Nat.strongRecOn generalizing t with
  | ind n ih =>
    cases goes : goesOn t.current.kind with
    | false => simp [many_stops takes.forward goes]
    | true =>
      have more : t.current.kind ≠ .endOfFile := fun last => by simp [last, stops] at goes
      have shorter := takes.shorter proper more
      rw [many_goes takes.forward goes shorter]
      intro a member
      rcases List.mem_cons.mp member with rfl | behind
      · exact ⟨t, .refl t, goes, rfl⟩
      · obtain ⟨later, leads, reached⟩ :=
          ih (round t).tape.left (size ▸ shorter) (proper.leads (takes.forward t)) rfl a behind
        exact ⟨later, (takes.forward t).trans leads, reached⟩

end Reader
end Grammar
end WireSchema

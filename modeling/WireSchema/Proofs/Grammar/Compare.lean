import Mathlib.Data.List.Forall2
import WireSchema.Proofs.Grammar.Loops

-- Two readings side by side. Words that agree in kind and text are read alike, whatever else they differ in, up to
-- the place where the readings are compared no further.
namespace WireSchema.Grammar
open Reader hiding pure

-- What two readings may differ in: where words stand, what is said above them, and where reports are made. They are
-- compared up to an end on each side.
structure Comparison where
  places : Position → Position → Prop
  docs : List String → List String → Prop
  reports : Position → Position → Prop
  reported : ∀ {p q : Position}, places p q → reports p q
  left : Tape
  right : Tape

namespace Comparison
variable (c : Comparison)

-- A terminator is no part of what is read, so only reports know where it stands; an invalid word has no text.
structure Words (w v : Documented) : Prop where
  kind : w.kind = v.kind
  text : (∀ error, w.kind ≠ .invalid error) → w.text = v.text
  docs : c.docs w.doc v.doc
  reports : c.reports w.position v.position
  places : w.kind ≠ .semicolon → c.places w.position v.position

def Tapes (t u : Tape) : Prop := ∃ a b, t = ⟨a ++ c.left.ahead, c.left.finish⟩ ∧
  u = ⟨b ++ c.right.ahead, c.right.finish⟩ ∧ List.Forall₂ c.Words a b

def Reports (p q : Located Problem) : Prop := c.reports p.position q.position ∧ p.content = q.content

def Mentions (m n : Mention) : Prop := c.places m.position n.position ∧ m.name = n.name

def Whole : Prop := c.left.ahead = [] ∧ c.right.ahead = [] ∧ c.Words c.left.finish c.right.finish

def Past (t : Tape) : Prop := ¬ c.Whole ∧ t.left ≤ c.left.left

variable {α β γ δ ι κ : Type} {V : α → β → Prop} {W : γ → δ → Prop}

structure Alike (V : α → β → Prop) (s : Step α) (r : Step β) : Prop where
  values : V s.value r.value
  problems : List.Forall₂ c.Reports s.problems r.problems
  mentions : List.Forall₂ c.Mentions s.mentions r.mentions
  tapes : c.Tapes s.tape r.tape

def Steps (V : α → β → Prop) (s : Step α) (r : Step β) : Prop := c.Past s.tape ∨ c.Alike V s r

def Agree (V : α → β → Prop) (r : Reader α) (s : Reader β) : Prop := ∀ t u, c.Tapes t u → c.Steps V (r t) (s u)

variable {c}

theorem Tapes.left {t u : Tape} (tapes : c.Tapes t u) : t.left + c.right.left = u.left + c.left.left := by
  obtain ⟨a, b, rfl, rfl, alike⟩ := tapes
  have same := alike.length_eq
  simp only [Tape.left, List.length_append]
  omega

theorem Past.leads {t later : Tape} (past : c.Past t) (leads : t.Leads later) : c.Past later :=
  ⟨past.1, Nat.le_trans leads.left_le past.2⟩

theorem Tapes.look {t u : Tape} (tapes : c.Tapes t u) :
    c.Past t ∨ c.Words t.current u.current ∧ c.Tapes t.advance u.advance := by
  obtain ⟨a, b, rfl, rfl, alike⟩ := tapes
  cases alike with
  | cons word rest => exact .inr ⟨word, _, _, rfl, rfl, rest⟩
  | nil =>
    by_cases whole : c.Whole
    · obtain ⟨left, right, finish⟩ := whole
      simp only [Tape.current, Tape.advance, left, right, List.nil_append]
      exact .inr ⟨finish, [], [], by simp [left], by simp [right], .nil⟩
    · exact .inl ⟨whole, by simp [Tape.left]⟩

end Comparison

class Reader.Forwards {α : Type} (r : Reader α) : Prop where
  forward : r.Forward

namespace Reader
variable {α β : Type}

instance (value : α) : (Reader.pure value).Forwards := ⟨pure_forward value⟩
instance (value : α) : (Pure.pure value : Reader α).Forwards := ⟨pure_forward value⟩
instance : current.Forwards := ⟨current_forward⟩
instance : advance.Forwards := ⟨advance_forward⟩
instance (problem : Problem) : (report problem).Forwards := ⟨report_forward problem⟩
instance (name : String) (position : Position) : (mention name position).Forwards := ⟨mention_forward name position⟩

instance {r : Reader α} {next : α → Reader β} [first : r.Forwards] [later : ∀ a, (next a).Forwards] :
    (r >>= next).Forwards := ⟨bind_forward first.forward fun a => (later a).forward⟩

instance {condition : Prop} [Decidable condition] {r s : Reader α} [one : r.Forwards] [two : s.Forwards] :
    (if condition then r else s).Forwards := by
  split
  · exact one
  · exact two

end Reader

namespace Comparison
variable {c : Comparison} {α β γ δ ι κ : Type} {V : α → β → Prop} {W : γ → δ → Prop}

theorem look_agree {r : Reader α} {s : Reader β} [forwards : r.Forwards]
    (each : ∀ t u, c.Words t.current u.current → c.Tapes t u → c.Tapes t.advance u.advance → c.Steps V (r t) (s u)) :
    c.Agree V r s := by
  intro t u tapes
  rcases tapes.look with past | ⟨words, advanced⟩
  · exact .inl (past.leads (forwards.forward t))
  · exact each t u words tapes advanced

theorem pure_agree {a : α} {b : β} (values : V a b) : c.Agree V (Reader.pure a) (Reader.pure b) :=
  fun _ _ tapes => .inr ⟨values, .nil, .nil, tapes⟩

theorem current_agree {next : Documented → Reader α} {other : Documented → Reader β} [∀ w, (next w).Forwards]
    (later : ∀ w v, c.Words w v → c.Agree V (next w) (other v)) :
    c.Agree V (current >>= next) (current >>= other) :=
  look_agree fun t u words tapes _ => later t.current u.current words t u tapes

theorem look_bind_agree {next : Documented → Reader α} {other : Documented → Reader β}
    (forward : (current >>= next).Forward) (later : ∀ t u, c.Words t.current u.current → c.Tapes t u →
      c.Steps V (next t.current t) (other u.current u)) : c.Agree V (current >>= next) (current >>= other) :=
  have : (current >>= next).Forwards := ⟨forward⟩
  look_agree fun t u words tapes _ => later t u words tapes

theorem bind_steps {r : Reader α} {s : Reader β} {next : α → Reader γ} {other : β → Reader δ} {t u : Tape}
    [forwards : ∀ a, (next a).Forwards] (first : c.Steps V (r t) (s u))
    (later : ∀ a b, V a b → c.Agree W (next a) (other b)) : c.Steps W ((r >>= next) t) ((s >>= other) u) := by
  rcases first with past | one
  · exact .inl (past.leads ((forwards _).forward _))
  · rcases later _ _ one.values _ _ one.tapes with past | two
    · exact .inl past
    · exact .inr ⟨two.values, List.rel_append one.problems two.problems, List.rel_append one.mentions two.mentions,
        two.tapes⟩

theorem bind_agree {r : Reader α} {s : Reader β} {next : α → Reader γ} {other : β → Reader δ}
    [forwards : ∀ a, (next a).Forwards] (first : c.Agree V r s)
    (later : ∀ a b, V a b → c.Agree W (next a) (other b)) : c.Agree W (r >>= next) (s >>= other) :=
  fun t u tapes => bind_steps (first t u tapes) later

theorem map_agree {r : Reader α} {s : Reader β} {f : α → γ} {g : β → δ} (agree : c.Agree V r s)
    (values : ∀ a b, V a b → W (f a) (g b)) :
    c.Agree W (r >>= fun a => Reader.pure (f a)) (s >>= fun b => Reader.pure (g b)) :=
  bind_agree agree fun a b related => pure_agree (values a b related)

theorem advance_agree : c.Agree (fun _ _ => True) advance advance :=
  look_agree fun _ _ _ _ advanced => .inr ⟨trivial, .nil, .nil, advanced⟩

theorem report_agree {problem other : Problem} (same : problem = other) :
    c.Agree (fun _ _ => True) (report problem) (report other) :=
  look_agree fun _ _ words tapes _ => .inr ⟨trivial, .cons ⟨words.reports, same⟩ .nil, .nil, tapes⟩

variable {I : ι → κ → Prop} {stuck : ι → α} {stuckToo : κ → β} {body : (ι → Reader α) → ι → Reader α}
  {other : (κ → Reader β) → κ → Reader β}

-- A recursion agrees if its body does where its calls do. The guards of both stop them at the same place.
theorem recurse_agree (carries : Carries body) (stops : ∀ i k, I i k → V (stuck i) (stuckToo k))
    (agree : ∀ again more, (∀ i, (again i).Forwards) → (∀ i k, I i k → c.Agree V (again i) (more k)) →
      ∀ i k, I i k → c.Agree V (body again i) (other more k)) (i : ι) (k : κ) (related : I i k) :
    c.Agree V (recurse stuck body i) (recurse stuckToo other k) := by
  intro t u tapes
  induction size : t.left using Nat.strongRecOn generalizing t u i k with
  | ind n ih =>
    rw [recurse, recurse]
    refine agree _ _ (fun j => ⟨fun later => ?_⟩) (fun j l calls later after alike => ?_) i k related t u tapes
    · split
      · exact recurse_forward carries j later
      · exact .refl later
    · have here := tapes.left
      have there := alike.left
      by_cases shorter : later.left < t.left
      · rw [dif_pos shorter, dif_pos (by omega)]
        exact ih later.left (size ▸ shorter) j l calls later after alike rfl
      · rw [dif_neg shorter, dif_neg (by omega)]
        exact .inr ⟨stops j l calls, .nil, .nil, alike⟩

theorem many_steps {goesOn : TokenKind → Bool} {round : Reader α} {rounds : Reader β} [forwards : round.Forwards]
    (agree : ∀ t u, c.Words t.current u.current → c.Tapes t u → goesOn t.current.kind = true →
      c.Steps V (round t) (rounds u)) : c.Agree (List.Forall₂ V) (many goesOn round) (many goesOn rounds) := by
  refine recurse_agree (I := fun _ _ => True) (many_carries goesOn forwards.forward) (fun _ _ _ => .nil) ?_ () ()
    trivial
  intro again more _ calls _ _ _
  refine look_bind_agree (Reader.Forwards.forward (r := current >>= _)) fun t u words tapes => ?_
  rw [← words.kind]
  split
  case isTrue on =>
    refine bind_steps (agree t u words tapes on) fun a b first => ?_
    exact map_agree (calls () () trivial) fun as bs rest => .cons first rest
  case isFalse => exact pure_agree .nil t u tapes

theorem many_agree {goesOn : TokenKind → Bool} {round : Reader α} {rounds : Reader β} [round.Forwards]
    (agree : c.Agree V round rounds) : c.Agree (List.Forall₂ V) (many goesOn round) (many goesOn rounds) :=
  many_steps fun t u _ tapes _ => agree t u tapes

end Comparison
end WireSchema.Grammar

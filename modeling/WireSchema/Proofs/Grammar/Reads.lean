import WireSchema.Proofs.Grammar.Loops
import WireSchema.Proofs.Grammar.Written

-- A reader reads a language when it reports nothing exactly where a word of the language stands. Some have to
-- see the token behind the word, so each comes with the kinds that may follow.
namespace WireSchema.Grammar
open Grammar.Language

def nextKind (ws : List Token) : TokenKind := (ws.head?.map (·.kind)).getD .endOfFile

def Tape.tokens (t : Tape) : List Token := t.ahead.map (·.token)

namespace Tape
variable {t : Tape}

theorem Proper.current_kind (proper : t.Proper) : t.current.kind = nextKind t.tokens := by
  rcases t with ⟨ahead, finish⟩
  cases ahead with
  | nil => exact proper.ended
  | cons word rest => rfl

theorem Proper.tokens_eq (proper : t.Proper) (more : t.current.kind ≠ .endOfFile) :
    t.tokens = t.current.token :: t.advance.tokens := by
  rw [tokens, proper.ahead_eq more]
  rfl

theorem current_token {w : Token} {rest : List Token} (found : t.tokens = w :: rest) :
    t.current.token = w ∧ t.advance.tokens = rest := by
  rcases t with ⟨ahead, finish⟩
  cases ahead with
  | nil => cases found
  | cons word rest =>
    cases found
    exact ⟨rfl, rfl⟩

end Tape

def Language.Starts (L : Language) (first : TokenKind → Prop) : Prop :=
  ∀ ws, L ws → ∃ w rest, ws = w :: rest ∧ first w.kind

namespace Language
variable {L M : Language} {first : TokenKind → Prop}

theorem token_starts (kind : TokenKind) : (token kind).Starts (· = kind) := by
  rintro _ ⟨w, rfl, isKind⟩
  exact ⟨w, [], rfl, isKind⟩

theorem Starts.seq (starts : L.Starts first) (M : Language) : (L.seq M).Starts first := by
  rintro _ ⟨a, b, rfl, left, _⟩
  obtain ⟨w, rest, rfl, isFirst⟩ := starts a left
  exact ⟨w, rest ++ b, rfl, isFirst⟩

theorem Starts.imp {second : TokenKind → Prop} (starts : L.Starts first) (implies : ∀ kind, first kind → second kind) :
    L.Starts second := fun ws word => by
  obtain ⟨w, rest, same, isFirst⟩ := starts ws word
  exact ⟨w, rest, same, implies _ isFirst⟩

theorem Starts.nextKind (starts : L.Starts first) {ws : List Token} (word : L ws) (rest : List Token) :
    first (nextKind (ws ++ rest)) := by
  obtain ⟨w, more, rfl, isFirst⟩ := starts ws word
  exact isFirst

end Language

namespace Reader
variable {α β : Type} {L M : Language} {follow after : TokenKind → Prop}

-- What is read is a word of the language where nothing is reported, and every word that is followed by an
-- allowed kind is read in full without a report.
structure Reads (r : Reader α) (L : Language) (follow : TokenKind → Prop) : Prop where
  forward : r.Forward
  sound : ∀ t : Tape, t.Proper → (r t).problems = [] → ∃ front, t.tokens = front ++ (r t).tape.tokens ∧ L front
  complete : ∀ (t : Tape) front rest, t.Proper → t.tokens = front ++ rest → L front → follow (nextKind rest) →
    (r t).problems = [] ∧ (r t).tape.tokens = rest

def anything : TokenKind → Prop := fun _ => True

theorem Reads.bind {r : Reader α} {next : α → Reader β} (first : r.Reads L follow)
    (later : ∀ a, (next a).Reads M after)
    (link : ∀ ws rest, M ws → after (nextKind rest) → follow (nextKind (ws ++ rest))) :
    (r >>= next).Reads (L.seq M) after := by
  refine ⟨bind_forward first.forward fun a => (later a).forward, ?_, ?_⟩
  · intro t proper none
    rw [bind_problems] at none
    obtain ⟨noneFirst, noneLater⟩ := List.append_eq_nil_iff.mp none
    obtain ⟨front, before, word⟩ := first.sound t proper noneFirst
    obtain ⟨more, between, last⟩ := (later _).sound _ (proper.leads (first.forward t)) noneLater
    refine ⟨front ++ more, ?_, front, more, rfl, word, last⟩
    rw [before, between, List.append_assoc]
    rfl
  · rintro t _ rest proper found ⟨front, more, rfl, word, last⟩ allowed
    rw [List.append_assoc] at found
    obtain ⟨noneFirst, left⟩ := first.complete t front _ proper found word (link more rest last allowed)
    obtain ⟨noneLater, behind⟩ := (later (r t).value).complete _ more rest (proper.leads (first.forward t)) left last allowed
    rw [bind_problems, noneFirst, noneLater]
    exact ⟨rfl, behind⟩

theorem Reads.seq {r : Reader α} {next : α → Reader β} (first : r.Reads L anything)
    (later : ∀ a, (next a).Reads M after) : (r >>= next).Reads (L.seq M) after :=
  first.bind later fun _ _ _ _ => trivial

theorem Reads.before {r : Reader α} {next : α → Reader β} (first : r.Reads L follow)
    (later : ∀ a, (next a).Reads M after) (starts : M.Starts follow) : (r >>= next).Reads (L.seq M) after :=
  first.bind later fun _ rest word _ => starts.nextKind word rest

theorem Reads.map {r : Reader α} (reads : r.Reads L follow) (f : α → β) :
    (r >>= fun a => Reader.pure (f a)).Reads L follow := by
  refine ⟨bind_forward reads.forward fun a => pure_forward _, ?_, ?_⟩
  · intro t proper none
    exact reads.sound t proper (List.append_eq_nil_iff.mp none).1
  · intro t front rest proper found word allowed
    obtain ⟨none, behind⟩ := reads.complete t front rest proper found word allowed
    rw [bind_problems, none]
    exact ⟨rfl, behind⟩

theorem Reads.current {next : Documented → Reader β} (later : ∀ word, (next word).Reads L follow) :
    (Reader.current >>= next).Reads L follow :=
  ⟨bind_forward current_forward fun word => (later word).forward,
    fun t proper none => (later t.current).sound t proper none,
    fun t front rest proper found word allowed => (later t.current).complete t front rest proper found word allowed⟩

theorem Reads.many {goesOn : TokenKind → Bool} {round : Reader α} (reads : round.Reads L follow) (takes : round.Takes)
    (stops : goesOn .endOfFile = false) (starts : L.Starts fun kind => goesOn kind = true ∧ follow kind) :
    (Reader.many goesOn round).Reads (Language.many L) fun kind => goesOn kind = false ∧ follow kind := by
  refine ⟨many_forward _ takes.forward, ?_, ?_⟩
  · intro t proper none
    induction size : t.left using Nat.strongRecOn generalizing t with
    | ind n ih =>
      cases goes : goesOn t.current.kind with
      | false =>
        rw [many_stops takes.forward goes]
        exact ⟨[], rfl, .none⟩
      | true =>
        have more : t.current.kind ≠ .endOfFile := fun last => by simp [last, stops] at goes
        have shorter := takes.shorter proper more
        rw [many_goes takes.forward goes shorter] at none ⊢
        obtain ⟨noneFirst, noneLater⟩ := List.append_eq_nil_iff.mp none
        obtain ⟨front, before, word⟩ := reads.sound t proper noneFirst
        obtain ⟨others, between, words⟩ := ih _ (size ▸ shorter) (round t).tape (proper.leads (takes.forward t))
          (List.append_eq_nil_iff.mp noneLater).1 rfl
        refine ⟨front ++ others, ?_, .more word words⟩
        rw [before, between, List.append_assoc]
        rfl
  · intro t front rest proper found words allowed
    induction words generalizing t with
    | none =>
      have goes : goesOn t.current.kind = false := by
        rw [proper.current_kind, found]
        exact allowed.1
      rw [many_stops takes.forward goes]
      exact ⟨rfl, found⟩
    | @more first others one later ih =>
      rw [List.append_assoc] at found
      have goes : goesOn t.current.kind = true := by
        rw [proper.current_kind, found]
        exact (starts.nextKind one _).1
      have more : t.current.kind ≠ .endOfFile := fun last => by simp [last, stops] at goes
      have following : follow (nextKind (others ++ rest)) := by
        cases later with
        | none => exact allowed.2
        | more next _ =>
          rw [List.append_assoc]
          exact (starts.nextKind next _).2
      rw [many_goes takes.forward goes (takes.shorter proper more)]
      obtain ⟨noneFirst, left⟩ := reads.complete t first _ proper found one following
      obtain ⟨noneLater, behind⟩ := ih _ (proper.leads (takes.forward t)) left
      rw [bind_problems, bind_problems, noneFirst, noneLater]
      exact ⟨rfl, behind⟩

end Reader
end WireSchema.Grammar

import WireSchema.Proofs.Token.Apart
import WireSchema.Proofs.Token.Finish
import WireSchema.Proofs.Token.ReturnedTokens

-- A source token by token, cut where a statement has ended: the tokens in front of the cut are the same whatever
-- stands behind it, and those behind it are the same wherever they stand.
namespace WireSchema
open Text Scan

namespace Scan

def Opens (behind : List Atom) : Prop := behind = [] ∨ startsWith isLetter behind = true

theorem Opens.cases {behind : List Atom} (opens : Opens behind) :
    behind = [] ∨ ∃ c rest, behind = .char c :: rest ∧ isLetter c = true := by
  rcases opens with none | letter
  · exact .inl none
  · cases behind with
    | nil => cases letter
    | cons atom rest =>
      cases atom with
      | stray byte => cases letter
      | char c => exact .inr ⟨c, rest, rfl, letter⟩

theorem Opens.unblank {behind : List Atom} (opens : Opens behind) (closable : Bool) :
    startsWith (Scanner.isBlank closable) behind = false := by
  rcases opens.cases with rfl | ⟨c, rest, rfl, letter⟩
  · rfl
  · cases blank : Scanner.isBlank closable c with
    | false => exact blank
    | true =>
      have marks : c = ' ' ∨ c = '\t' ∨ c = '\r' ∨ c = '\n' := by
        simp only [Scanner.isBlank, Bool.or_eq_true, Bool.and_eq_true, decide_eq_true_eq] at blank
        tauto
      rcases marks with rfl | rfl | rfl | rfl <;> exact absurd letter (by decide)

theorem run_open {p : Char → Bool} {behind : List Atom} (stops : startsWith p behind = false) (front : List Atom) :
    run p (front ++ behind) = ((run p front).1, (run p front).2 ++ behind) := by
  induction front with
  | nil => exact run_stopped stops
  | cons atom rest ih =>
    cases atom with
    | stray byte => rfl
    | char c =>
      cases holds : p c with
      | false => simp [run, holds]
      | true => simp [run, holds, ih]

theorem front_token_eq {c : Char} {closable : Bool} (printed : c ≠ '\x00') (marks : ¬ (c = '/' ∧ closable = true))
    (rest : List Atom) :
    front closable (.char c :: rest) = .reading (token c rest).1 (token c rest).2 := by
  have unmarked : ¬ ((decide (c = '/') && closable) = true) := by simpa using marks
  unfold front
  dsimp only
  rw [if_neg printed, if_neg unmarked]

theorem front_letter {c : Char} (letter : isLetter c = true) (closable : Bool) (rest : List Atom) :
    front closable (.char c :: rest) = .reading (token c rest).1 (token c rest).2 := by
  apply front_token_eq
  · rintro rfl
    exact absurd letter (by decide)
  · rintro ⟨rfl, _⟩
    exact absurd letter (by decide)

theorem token_mark (rest : List Atom) : token byteOrderMark rest =
    (⟨[], .rejected .byteOrderMark true, .char byteOrderMark :: rest⟩, .no) := by
  have unlettered : isLetter byteOrderMark = false := by decide
  have undigit : isDigitOf 10 byteOrderMark = false := rfl
  have plain : byteOrderMark ≠ '-' := by decide
  simp [token, unlettered, undigit, plain]

theorem front_mark (closable : Bool) (rest : List Atom) : front closable (.char byteOrderMark :: rest) =
    .reading ⟨[], .rejected .byteOrderMark true, .char byteOrderMark :: rest⟩ .no := by
  rw [front_token_eq (by decide) (by simp [byteOrderMark]) rest, token_mark]

-- A token that ends in front of the cut is read there alone. At the cut itself it has to show its own end.
theorem token_cut {c : Char} {text behind : List Atom} {kind : TokenKind}
    (accepted : (token c (text ++ behind)).1.ending = .accepted kind)
    (longer : behind.length ≤ (token c (text ++ behind)).1.rest.length)
    (settled : behind = [] → (.char c :: text).getLast? = some (.char '\n'))
    (last : behind ≠ [] → (token c (text ++ behind)).1.rest = behind → kind = .semicolon ∨ kind = .comment)
    (other : List Atom) :
    ∃ later, (token c (text ++ behind)).1.rest = later ++ behind ∧
      (token c (text ++ behind)).1.taken.map .char ++ later = .char c :: text ∧
      (later = [] → kind = .semicolon ∨ kind = .comment) ∧
      token c (text ++ other) =
        ((token c (text ++ behind)).1.before (later ++ other), (token c (text ++ behind)).2) := by
  have covers : (token c (text ++ behind)).1.Covers (.char c :: text ++ behind) := (token_covers c _).1
  obtain ⟨later, rest⟩ : behind <:+ (token c (text ++ behind)).1.rest :=
    List.suffix_of_suffix_length_le ⟨_, rfl⟩ covers.suffix longer
  have taken : (token c (text ++ behind)).1.taken.map .char ++ later = .char c :: text := by
    rw [Reading.Covers, ← rest, ← List.append_assoc] at covers
    exact List.append_cancel_right covers
  have ends : behind = [] → later = [] → (token c (text ++ behind)).1.taken.getLast? = some '\n' := by
    intro none nothing
    have feed := settled none
    rw [← taken, nothing, List.append_nil, List.getLast?_map] at feed
    simpa using feed
  have passes : later = [] → kind = .semicolon ∨ kind = .comment := by
    intro nothing
    by_cases none : behind = []
    · exact token_feed accepted (ends none nothing)
    · exact last none (by rw [← rest, nothing, List.nil_append])
  have ended : (token c (text ++ behind)).1.rest ≠ [] ∨ (token c (text ++ behind)).1.taken.getLast? = some '\n' := by
    by_cases both : behind = [] ∧ later = []
    · exact .inr (ends both.1 both.2)
    · rw [← rest]
      exact .inl fun none => both (List.append_eq_nil_iff.mp none).symm
  have stops : kind = .semicolon ∨ kind = .comment ∨ Stops (token c (text ++ behind)).1.rest (later ++ other) := by
    by_cases nothing : later = []
    · exact (passes nothing).imp id .inl
    · refine .inr (.inr (.of_fronts (.inl ?_)))
      rw [← rest, List.head?_append_of_ne_nil _ nothing, List.head?_append_of_ne_nil _ nothing]
  obtain ⟨tail, whole, same⟩ := token_apart accepted (fun _ => ended) stops
  rw [whole] at taken
  obtain rfl : tail.map .char ++ later = text := (List.cons.inj taken).2
  refine ⟨later, rest.symm, by rw [whole]; rfl, passes, ?_⟩
  rw [← same, List.append_assoc]

end Scan

namespace Scanner
variable {limit : Nat} {file : String} {front behind other : List Atom} {place : Place} {closable : Bool}

-- Where nothing stands behind a text its last line has ended, so that no statement may end with the source.
def Settled (front behind : List Atom) (closable : Bool) : Prop :=
  behind = [] → front.getLast? = some (.char '\n') ∨ front = [] ∧ closable = false

structure Whole (kind : TokenKind) : Prop where
  more : kind ≠ .endOfFile
  valid : ∀ error, kind ≠ .invalid error

theorem next_reading {s : Scanner} {r : Reading} {closing : Closing}
    (stopped : startsWith (isBlank s.closable) s.ahead = false)
    (found : Scan.front s.closable s.ahead = .reading r closing) :
    s.next limit file = (⟨(kindAndText limit r).1, (kindAndText limit r).2, ⟨file, s.place.line, s.place.column⟩⟩,
      leave r s.place (closes closing s.closable (kindAndText limit r).1)) := by
  unfold next
  rw [run_stopped stopped]
  dsimp only [Place.pastAll, List.foldl_nil]
  rw [found]

theorem next_terminator {s : Scanner} (stopped : startsWith (isBlank s.closable) s.ahead = false)
    (found : Scan.front s.closable s.ahead = .terminator) :
    s.next limit file = (⟨.semicolon, "\n", ⟨file, s.place.line, s.place.column⟩⟩, ⟨s.ahead, s.place, false⟩) := by
  unfold next
  rw [run_stopped stopped]
  dsimp only [Place.pastAll, List.foldl_nil]
  rw [found]

theorem kindAndText_accepted {r : Reading} (valid : ∀ error, (kindAndText limit r).1 ≠ .invalid error) :
    r.ending = .accepted (kindAndText limit r).1 := by
  unfold kindAndText at valid ⊢
  cases ending : r.ending with
  | rejected error takesNext => simp [ending] at valid
  | accepted kind =>
    simp only [ending] at valid ⊢
    split at valid
    · exact absurd rfl (valid .overflow)
    · rename_i short
      rw [if_neg short]

theorem kindAndText_before {r : Reading} {kind : TokenKind} (accepted : r.ending = .accepted kind) (rest : List Atom) :
    kindAndText limit (r.before rest) = kindAndText limit r := by
  unfold kindAndText Reading.before
  rw [accepted]

theorem leave_accepted {r : Reading} {kind : TokenKind} (accepted : r.ending = .accepted kind) (place : Place)
    (closable : Bool) : leave r place closable = ⟨r.rest, place.pastAll r.taken, closable⟩ := by
  unfold leave
  rw [accepted]

theorem next_behind (opens : Opens behind) (settled : Settled [] behind closable)
    (whole : Whole (next limit file ⟨behind, place, closable⟩).1.kind) :
    (next limit file ⟨behind, place, closable⟩).2.ahead.length < behind.length := by
  rcases opens.cases with rfl | ⟨c, rest, rfl, letter⟩
  · obtain closed : closable = false := by simpa using settled rfl
    subst closed
    exact absurd rfl whole.more
  · have found := front_letter letter closable rest
    obtain ⟨covers, advances, some⟩ := front_reading found
    rw [next_reading (opens.unblank closable) found]
    exact leave_shorter _ _ covers advances some

theorem next_apart (opens : Opens behind) (settled : Settled front behind closable)
    (stopped : startsWith (isBlank closable) (front ++ behind) = false)
    (whole : Whole (next limit file ⟨front ++ behind, place, closable⟩).1.kind)
    (longer : behind.length ≤ (next limit file ⟨front ++ behind, place, closable⟩).2.ahead.length)
    (last : behind ≠ [] → (next limit file ⟨front ++ behind, place, closable⟩).2.ahead = behind →
      (next limit file ⟨front ++ behind, place, closable⟩).1.kind = .semicolon ∨
        (next limit file ⟨front ++ behind, place, closable⟩).1.kind = .comment) (other : List Atom) :
    ∃ later, (next limit file ⟨front ++ behind, place, closable⟩).2.ahead = later ++ behind ∧
      Settled later behind (next limit file ⟨front ++ behind, place, closable⟩).2.closable ∧
      next limit file ⟨front ++ other, place, closable⟩ =
        ((next limit file ⟨front ++ behind, place, closable⟩).1,
          { (next limit file ⟨front ++ behind, place, closable⟩).2 with ahead := later ++ other }) := by
  cases front with
  | nil => exact absurd (next_behind opens settled whole) (by simpa using longer)
  | cons atom text =>
    have stoppedToo : startsWith (isBlank closable) (atom :: text ++ other) = false := by
      cases atom <;> exact stopped
    cases atom with
    | stray byte =>
      rw [next_reading stopped rfl] at whole
      exact absurd rfl (whole.valid .encoding)
    | char c =>
      by_cases nul : c = '\x00'
      · subst nul
        rw [next_reading stopped rfl] at whole
        exact absurd rfl (whole.valid .nul)
      by_cases mark : c = '/' ∧ closable = true
      · obtain ⟨rfl, rfl⟩ := mark
        rw [next_terminator stopped rfl, next_terminator stoppedToo rfl]
        refine ⟨.char '/' :: text, rfl, ?_, rfl⟩
        intro none
        exact (settled none).imp id fun empty => absurd empty.1 (by simp)
      · have found := front_token_eq nul mark (text ++ behind)
        have foundToo := front_token_eq nul mark (text ++ other)
        have closed : _ ∨ _ → (next limit file ⟨.char c :: text ++ behind, place, closable⟩).2.closable = false :=
          next_closed
        rw [next_reading stopped found] at whole longer last closed ⊢
        rw [next_reading stoppedToo foundToo]
        have accepted := kindAndText_accepted whole.valid
        rw [leave_accepted accepted] at longer last closed ⊢
        have ends : behind = [] → (.char c :: text).getLast? = some (.char '\n') := by
          intro none
          exact (settled none).resolve_right fun empty => absurd empty.1 (by simp)
        obtain ⟨later, rest, taken, passes, same⟩ := token_cut accepted longer ends last other
        refine ⟨later, rest, ?_, ?_⟩
        · intro none
          by_cases nothing : later = []
          · exact .inr ⟨nothing, closed (passes nothing)⟩
          · have feed := ends none
            rw [← taken, List.getLast?_append_of_ne_nil _ nothing] at feed
            exact .inl feed
        · rw [same]
          have acceptedToo : ((token c (text ++ behind)).1.before (later ++ other)).ending = _ := accepted
          rw [kindAndText_before accepted, leave_accepted acceptedToo]
          rfl

theorem skip_open (opens : Opens behind) : skip ⟨front ++ behind, place, closable⟩ =
    ⟨(run (isBlank closable) front).2 ++ behind, place.pastAll (run (isBlank closable) front).1, closable⟩ := by
  unfold skip
  dsimp only
  rw [run_open (opens.unblank closable)]

theorem Settled.skip (settled : Settled front behind closable) :
    Settled (run (isBlank closable) front).2 behind closable := by
  intro none
  rcases settled none with feed | ⟨rfl, closed⟩
  · by_cases nothing : (run (isBlank closable) front).2 = []
    · refine .inr ⟨nothing, ?_⟩
      rw [← run_append (isBlank closable) front, nothing, List.append_nil, List.getLast?_map] at feed
      obtain ⟨c, last, same⟩ := Option.map_eq_some_iff.mp feed
      cases same
      simpa [isBlank] using run_holds _ _ _ (List.mem_of_getLast? last)
    · rw [← run_append (isBlank closable) front, List.getLast?_append_of_ne_nil _ nothing] at feed
      exact .inl feed
  · exact .inr ⟨rfl, closed⟩

theorem skip_suffix (s : Scanner) : s.skip.ahead <:+ s.ahead := run_suffix _ _

theorem first_behind {s : Scanner} (opens : Opens s.ahead) (settled : Settled [] s.ahead s.closable)
    (whole : Whole (s.next limit file).1.kind) (n : Nat) :
    (first limit file n (s.next limit file).2).2.skip.ahead.length < s.ahead.length :=
  calc (first limit file n (s.next limit file).2).2.skip.ahead.length
    _ ≤ (s.next limit file).2.ahead.length := ((skip_suffix _).trans (first_suffix n _)).length_le
    _ < s.ahead.length := next_behind opens settled whole

theorem first_last {s : Scanner} {n : Nat} (opens : Opens behind) (some : behind ≠ [])
    (atCut : (s.next limit file).2.ahead = behind) (whole : ∀ token ∈ (s.first limit file (n + 1)).1, Whole token.kind)
    (cut : (s.first limit file (n + 1)).2.skip.ahead = behind) :
    (s.next limit file).1 ∈ (s.first limit file (n + 1)).1.getLast? := by
  cases n with
  | zero => rfl
  | succ n =>
    simp only [first] at whole cut
    have more := (List.forall_mem_cons.mp (List.forall_mem_cons.mp whole).2).1
    have shorter := first_behind (atCut ▸ opens) (fun none => absurd (atCut ▸ none) some) more n
    rw [cut, atCut] at shorter
    exact absurd shorter (Nat.lt_irrefl _)

theorem first_skip (n : Nat) (s : Scanner) : s.skip.first limit file (n + 1) = s.first limit file (n + 1) := by
  rw [first, first, next_skip]

theorem first_apart (opens : Opens behind) (opensToo : Opens other) {n : Nat} (settled : Settled front behind closable)
    (whole : ∀ token ∈ (first limit file n ⟨front ++ behind, place, closable⟩).1, Whole token.kind)
    (cut : (first limit file n ⟨front ++ behind, place, closable⟩).2.skip.ahead = behind)
    (last : ∀ token ∈ (first limit file n ⟨front ++ behind, place, closable⟩).1.getLast?,
      token.kind = .semicolon ∨ token.kind = .comment) :
    (first limit file n ⟨front ++ other, place, closable⟩).1 =
        (first limit file n ⟨front ++ behind, place, closable⟩).1 ∧
      (first limit file n ⟨front ++ other, place, closable⟩).2.skip =
        { (first limit file n ⟨front ++ behind, place, closable⟩).2.skip with ahead := other } := by
  induction n generalizing front place closable with
  | zero =>
    simp only [first] at cut ⊢
    rw [skip_open opens] at cut ⊢
    rw [skip_open opensToo]
    have nothing : (run (isBlank closable) front).2 = [] := by simpa using cut
    simp [nothing]
  | succ n ih =>
    have here : first limit file (n + 1) ⟨front ++ behind, place, closable⟩ = first limit file (n + 1) _ :=
      (first_skip n _).symm
    have there : first limit file (n + 1) ⟨front ++ other, place, closable⟩ = first limit file (n + 1) _ :=
      (first_skip n _).symm
    have stopped := run_stops (isBlank closable) (front ++ behind)
    rw [skip_open opens] at here
    rw [skip_open opensToo] at there
    rw [run_open (opens.unblank closable)] at stopped
    rw [here] at whole cut last ⊢
    rw [there]
    have passes := fun some atCut => last _ (first_last opens some atCut whole cut)
    simp only [first] at whole cut last ⊢
    obtain ⟨first, others⟩ := List.forall_mem_cons.mp whole
    have longer := ((cut ▸ skip_suffix _ : behind <:+ _).trans (first_suffix n _)).length_le
    obtain ⟨later, ahead, settledLater, same⟩ := next_apart opens settled.skip stopped first longer passes other
    rw [same]
    generalize next limit file _ = read at *
    obtain ⟨token, ahead, place, closable⟩ := read
    subst ahead
    have inner : ∀ token ∈ (Scanner.first limit file n ⟨later ++ behind, place, closable⟩).1.getLast?,
        token.kind = .semicolon ∨ token.kind = .comment := by
      intro token member
      apply last
      rw [List.getLast?_cons, Option.mem_def.mp member]
      rfl
    obtain ⟨tokens, rest⟩ := ih settledLater others cut inner
    exact ⟨congrArg _ tokens, rest⟩

end Scanner
end WireSchema

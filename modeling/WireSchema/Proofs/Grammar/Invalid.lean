import WireSchema.Proofs.Grammar.Places

-- Every invalid token is reported by the reader that takes it, and by no other one. What is reported so far and
-- what is still ahead add up to the invalid tokens of a source at every place of it.
namespace WireSchema

def Token.invalid? (token : Token) : Option (Located LexicalError) :=
  match token.kind with
  | .invalid error => some ⟨token.position, error⟩
  | _ => none

def Problem.lexical? : Problem → Option LexicalError
  | .lexical error => some error
  | _ => none

def invalidIn (tokens : List Token) : Findings LexicalError := tokens.filterMap (·.invalid?)

namespace Problems

def lexical (problems : Problems) : Findings LexicalError :=
  problems.filterMap fun p => p.content.lexical?.map (⟨p.position, ·⟩)

theorem lexical_append (first second : Problems) : lexical (first ++ second) = lexical first ++ lexical second :=
  List.filterMap_append

theorem lexical_one (position : Position) (problem : Problem) :
    lexical [⟨position, problem⟩] = (problem.lexical?.map (⟨position, ·⟩)).toList := by
  unfold lexical
  cases found : problem.lexical? <;> simp [found]

theorem lexical_eq_nil {problems : Problems} (others : ∀ p ∈ problems, p.content.lexical? = none) :
    lexical problems = [] := by
  unfold lexical
  rw [List.filterMap_eq_nil_iff]
  intro p member
  rw [others p member, Option.map_none]

end Problems

namespace Grammar
open Reader hiding pure
open Problems

def Tape.invalid (t : Tape) : Findings LexicalError := t.current.token.invalid?.toList

namespace Tape
variable {t : Tape}

theorem Proper.invalid_eq (proper : t.Proper) : invalidIn t.tokens = t.invalid ++ invalidIn t.advance.tokens := by
  by_cases last : t.current.kind = .endOfFile
  · have none : t.current.token.invalid? = none := by
      have kind : t.current.token.kind = .endOfFile := last
      simp [Token.invalid?, kind]
    have empty := proper.ahead_nil last
    have behind : t.advance.ahead = [] := congrArg List.tail empty
    rw [invalid, none, tokens, tokens, behind, empty]
    rfl
  · rw [proper.tokens_eq last, invalid, invalidIn, List.filterMap_cons]
    cases t.current.token.invalid? <;> rfl

theorem invalid_of_kind {kind : TokenKind} (same : t.current.kind = kind) (valid : ∀ error, kind ≠ .invalid error) :
    t.invalid = [] := by
  have same : t.current.token.kind = kind := same
  unfold invalid Token.invalid?
  cases kind with
  | invalid error => exact absurd rfl (valid error)
  | _ => simp [same]

theorem invalid_lexical {error : LexicalError} (kind : t.current.kind = .invalid error) :
    t.invalid = [⟨t.current.position, error⟩] := by
  have kind : t.current.token.kind = .invalid error := kind
  unfold invalid Token.invalid?
  rw [kind]
  rfl

end Tape

-- A step goes forward, and what it reports makes up for the invalid tokens that it passes.
structure Step.Settles {α : Type} (t : Tape) (s : Step α) : Prop where
  leads : t.Leads s.tape
  settled : invalidIn t.tokens = lexical s.problems ++ invalidIn s.tape.tokens

namespace Step.Settles
variable {α : Type} {t : Tape} {s : Step α}

theorem stays (tape : s.tape = t) (none : lexical s.problems = []) : s.Settles t := by
  constructor
  · rw [tape]
    exact .refl t
  · rw [tape, none, List.nil_append]

theorem takes (proper : t.Proper) (tape : s.tape = t.advance) (reported : lexical s.problems = t.invalid) :
    s.Settles t := by
  constructor
  · rw [tape]
    exact t.leads_advance
  · rw [tape, reported]
    exact proper.invalid_eq

end Step.Settles

namespace Reader
variable {α β ι : Type}

def SettlesAt (kind : TokenKind) (r : Reader α) : Prop :=
  ∀ t : Tape, t.Proper → t.current.kind = kind → (r t).Settles t

def Settles (r : Reader α) : Prop := ∀ kind, r.SettlesAt kind

variable {kind : TokenKind}

theorem bind_settlesAt {r : Reader α} {next : α → Reader β} (first : r.SettlesAt kind)
    (later : ∀ a, (next a).Settles) : (r >>= next).SettlesAt kind := by
  intro t proper same
  have one := first t proper same
  have two := later (r t).value _ (r t).tape (proper.leads one.leads) rfl
  refine ⟨one.leads.trans two.leads, ?_⟩
  rw [bind_problems, bind_tape, lexical_append, List.append_assoc, ← two.settled]
  exact one.settled

theorem bind_settles {r : Reader α} {next : α → Reader β} (first : r.Settles) (later : ∀ a, (next a).Settles) :
    (r >>= next).Settles := fun kind => bind_settlesAt (first kind) later

theorem pure_settles (value : α) : (Reader.pure value).Settles := fun _ _ _ _ => .stays rfl rfl

theorem current_bind_settlesAt {next : Documented → Reader β}
    (later : ∀ word, word.kind = kind → (next word).SettlesAt kind) : (current >>= next).SettlesAt kind :=
  fun t proper same => later t.current same t proper same

theorem current_bind_settles {next : Documented → Reader β} (later : ∀ word, (next word).SettlesAt word.kind) :
    (current >>= next).Settles := fun _ => current_bind_settlesAt fun word same => same ▸ later word

theorem bind_pure_settlesAt {r : Reader α} (f : α → β) (settles : r.SettlesAt kind) :
    (r >>= fun a => Reader.pure (f a)).SettlesAt kind := bind_settlesAt settles fun _ => pure_settles _

theorem bind_pure_settles {r : Reader α} (f : α → β) (settles : r.Settles) :
    (r >>= fun a => Reader.pure (f a)).Settles := bind_settles settles fun _ => pure_settles _

theorem advance_settles (valid : ∀ error, kind ≠ .invalid error) : advance.SettlesAt kind :=
  fun _ proper same => .takes proper rfl (Tape.invalid_of_kind same valid).symm

theorem report_bind_settles {problem : Problem} {next : Unit → Reader β} (other : problem.lexical? = none)
    (later : (next ()).SettlesAt kind) : (report problem >>= next).SettlesAt kind := by
  intro t proper same
  have settles := later t proper same
  refine ⟨settles.leads, ?_⟩
  rw [bind_problems, lexical_append, report_apply, lexical_one, other]
  exact settles.settled

theorem lexical_bind_settles {error : LexicalError} {next : Unit → Reader β} (later : ∀ a, (next a).Settles) :
    (report (.lexical error) >>= fun _ => advance >>= next).SettlesAt (.invalid error) := by
  intro t proper same
  have settles := later () _ t.advance proper.advance rfl
  refine ⟨t.leads_advance.trans settles.leads, ?_⟩
  rw [bind_problems, lexical_append, report_apply, lexical_one, proper.invalid_eq, Tape.invalid_lexical same]
  exact congrArg _ settles.settled

variable {stuck : ι → α} {body : (ι → Reader α) → ι → Reader α}

theorem recurse_settles (settles : ∀ again : ι → Reader α, (∀ j, (again j).Settles) → ∀ i, (body again i).Settles)
    (i : ι) : (recurse stuck body i).Settles := by
  intro kind t proper same
  induction size : t.left using Nat.strongRecOn generalizing t i kind with
  | ind n ih =>
    rw [recurse]
    refine settles _ (fun j kind later properLater sameLater => ?_) i kind t proper same
    split
    · rename_i shorter
      exact ih later.left (size ▸ shorter) j kind later properLater sameLater rfl
    · exact .stays rfl rfl

theorem many_settles (goesOn : TokenKind → Bool) {round : Reader α} (settles : round.Settles) :
    (many goesOn round).Settles := by
  apply recurse_settles
  intro again calls _
  apply current_bind_settles
  intro word
  split
  · exact bind_settles settles (fun first => bind_pure_settles _ (calls ())) _
  · exact pure_settles _ _

end Reader

section Words
variable {t : Tape}

theorem lexical_mismatch (t : Tape) (expected : TokenKind) :
    lexical [⟨t.current.position, mismatch t.current expected⟩] = t.invalid := by
  rw [lexical_one]
  cases kind : t.current.kind with
  | invalid error =>
    rw [Tape.invalid_lexical kind]
    simp [mismatch, kind, Problem.lexical?]
  | endOfFile =>
    rw [Tape.invalid_of_kind kind (by simp)]
    simp [mismatch, kind, Problem.lexical?]
  | _ =>
    rw [Tape.invalid_of_kind kind (by simp)]
    by_cases newline : t.current.text = "\n" <;> simp [mismatch, kind, newline, Problem.lexical?]

theorem lexical_expected {expected : TokenKind} (valid : ∀ error, expected ≠ .invalid error) (t : Tape) :
    lexical (if t.current.kind = expected then [] else [⟨t.current.position, mismatch t.current expected⟩]) =
      t.invalid := by
  split
  · rename_i same
    exact (Tape.invalid_of_kind same valid).symm
  · exact lexical_mismatch t expected

theorem expect_settles {kind : TokenKind} (valid : ∀ error, kind ≠ .invalid error) : (expect kind).Settles := by
  intro _ t proper _
  rw [expect_apply]
  exact .takes proper rfl (lexical_expected valid t)

theorem identifier_settles : identifier.Settles := by
  intro kind t proper _
  rw [identifier_apply]
  exact .takes proper rfl (lexical_expected (by simp) t)

theorem qualifier_settles : qualifier.Settles := by
  intro kind t proper _
  rw [qualifier_apply]
  exact .takes proper rfl (lexical_expected (by simp) t)

theorem importPath_settles : importPath.Settles := by
  intro kind t proper _
  rw [importPath_apply]
  exact .takes proper rfl (lexical_expected (by simp) t)

theorem memberEnd_settles : memberEnd.Settles := by
  intro kind t proper _
  rw [memberEnd_apply]
  by_cases ends : t.current.kind = .semicolon
  · exact .takes proper (if_pos ends) (Tape.invalid_of_kind ends (by simp)).symm
  · exact .stays (if_neg ends) rfl

theorem arraySize_settles : arraySize.Settles := by
  intro kind t proper _
  rw [arraySize_apply]
  split
  · rename_i isNumber
    apply Step.Settles.takes proper rfl
    rw [Tape.invalid_of_kind isNumber (by simp)]
    dsimp only
    split
    · exact lexical_one _ _
    · rfl
  · exact .stays rfl rfl

theorem tags_lexical (literal : String) (found : Tags) (text : List Char) :
    ∀ problem ∈ (TagString.tags literal found text).2, problem.lexical? = none := by
  fun_induction TagString.tags literal found text <;> simp_all [Problem.lexical?]

theorem tagString_lexical (signed : Bool) (literal : String) :
    ∀ problem ∈ (TagString.read signed literal).problems, problem.lexical? = none := by
  intro problem member
  unfold TagString.read at member
  dsimp only at member
  split at member
  · exact tags_lexical _ _ _ problem member
  · rcases List.mem_cons.mp member with same | later
    · rw [same]
      rfl
    · exact tags_lexical _ _ _ problem later

theorem tagString_settles (signed : Bool) : (tagString signed).Settles := by
  intro kind t proper _
  rw [tagString_apply]
  by_cases isString : t.current.kind = .string
  · rw [if_pos isString]
    apply Step.Settles.takes proper rfl
    rw [Tape.invalid_of_kind isString (by simp)]
    apply lexical_eq_nil
    intro p member
    obtain ⟨problem, among, rfl⟩ := List.mem_map.mp member
    exact tagString_lexical signed _ problem among
  · rw [if_neg isString]
    by_cases ends : t.current.kind = .semicolon
    · rw [if_pos ends]
      exact .stays rfl (lexical_one _ _)
    · rw [if_neg ends]
      exact .takes proper rfl (lexical_mismatch t .string)

theorem literal_settles : literal.Settles := by
  intro kind t proper _
  rw [literal_apply, literal?]
  cases kind : t.current.kind with
  | invalid error =>
    apply Step.Settles.takes proper rfl
    rw [Tape.invalid_lexical kind]
    exact lexical_one _ _
  | integer | float | string =>
    exact .takes proper rfl (Tape.invalid_of_kind kind (by simp)).symm
  | _ =>
    apply Step.Settles.takes proper rfl
    rw [Tape.invalid_of_kind kind (by simp)]
    exact lexical_one _ _

end Words

section Types
variable {inner : Reader (Option (ValueType Unit))}

theorem named_settles (name : String) (position : Position) : (named name position).Settles := by
  intro kind t _ _
  obtain ⟨_, none, tape⟩ := named_value name position t
  exact .stays tape (none ▸ rfl)

theorem namedType_settles : namedType.SettlesAt .identifier := by
  intro t proper identifier
  have behind : (Reader.current >>= fun word => if word.kind = .period then
      advance >>= fun _ => qualifier >>= fun rest => named (t.current.text ++ rest) t.current.position
      else named t.current.text t.current.position).Settles := by
    apply current_bind_settles
    intro word
    split
    · rename_i period
      rw [period]
      exact bind_settlesAt (advance_settles (by simp)) fun _ =>
        bind_settles qualifier_settles fun _ => named_settles _ _
    · exact named_settles _ _ _
  exact bind_settlesAt (advance_settles (by simp)) (fun _ => behind) t proper identifier

theorem arrayWith_settles (settles : inner.Settles) : (arrayWith inner).SettlesAt .openBracket := by
  apply bind_settlesAt (advance_settles (by simp))
  intro _
  apply bind_settles arraySize_settles
  intro size
  apply bind_settles (expect_settles (by simp))
  intro _
  apply bind_settles settles
  intro element kind t _ _
  rw [arrayOf_apply]
  refine .stays rfl (lexical_eq_nil ?_)
  intro p member
  obtain ⟨nested, _, rfl⟩ := List.mem_map.mp member
  rfl

theorem pointerWith_settles (settles : inner.Settles) : (pointerWith inner).SettlesAt .asterisk := by
  apply bind_settlesAt (advance_settles (by simp))
  intro _
  apply bind_settles settles
  intro value kind t _ _
  rw [pointerTo_apply]
  refine .stays rfl (lexical_eq_nil ?_)
  intro p member
  obtain ⟨barrier, _, rfl⟩ := List.mem_map.mp member
  rfl

theorem mapWith_settles (settles : inner.Settles) : (mapWith inner).SettlesAt (.keyword .map) := by
  apply bind_settlesAt (advance_settles (by simp))
  intro _
  apply bind_settles (expect_settles (by simp))
  intro _
  apply bind_settles settles
  intro key
  apply bind_settles (expect_settles (by simp))
  intro _
  exact bind_pure_settles _ settles

theorem typeWith_settles (settles : inner.Settles) : (typeWith inner).Settles := by
  apply current_bind_settles
  intro word
  split
  · rename_i same
    exact same ▸ arrayWith_settles settles
  · rename_i same
    exact same ▸ pointerWith_settles settles
  · rename_i same
    exact same ▸ mapWith_settles settles
  · rename_i same
    exact same ▸ bind_pure_settlesAt _ namedType_settles
  · rename_i same
    exact same ▸ lexical_bind_settles fun _ => pure_settles _
  · rename_i valid
    exact report_bind_settles rfl (bind_settlesAt (advance_settles valid) fun _ => pure_settles _)

theorem type_settles : type.Settles := recurse_settles (fun _ calls _ => typeWith_settles (calls ())) ()

theorem arguments_settles : arguments.Settles := by
  apply recurse_settles
  intro again calls _
  apply current_bind_settles
  intro word
  split
  · exact pure_settles _ _
  · apply bind_settlesAt (type_settles _)
    intro argument
    apply current_bind_settles
    intro next
    split
    · rename_i comma
      rw [comma]
      exact bind_settlesAt (advance_settles (by simp)) fun _ => bind_pure_settles _ (calls ())
    · exact pure_settles _ _

theorem result_settles : result.Settles := by
  apply current_bind_settles
  intro word
  split
  · exact pure_settles _ _
  · exact pure_settles _ _
  · exact pure_settles _ _
  · exact pure_settles _ _
  · exact type_settles _

end Types

section Members
variable {α : Type}

theorem memberTail_settles (signed : Bool) {value : Int × Tags → α} :
    (tagString signed >>= fun tags => memberEnd >>= fun _ => Reader.pure (value tags)).Settles :=
  bind_settles (tagString_settles signed) fun _ => bind_pure_settles _ memberEnd_settles

theorem enumerator_settles : enumerator.Settles :=
  current_bind_settles fun _ => bind_settlesAt (identifier_settles _) fun _ => memberTail_settles true

theorem field_settles : field.Settles :=
  current_bind_settles fun _ => bind_settlesAt (identifier_settles _) fun _ => bind_settles type_settles fun _ =>
    memberTail_settles false

theorem branch_settles : branch.Settles :=
  current_bind_settles fun _ => bind_settlesAt (type_settles _) fun _ => memberTail_settles false

theorem method_settles : method.Settles :=
  current_bind_settles fun _ => bind_settlesAt (identifier_settles _) fun _ =>
    bind_settles (expect_settles (by simp)) fun _ => bind_settles arguments_settles fun _ =>
    bind_settles (expect_settles (by simp)) fun _ => bind_settles result_settles fun _ => memberTail_settles false

theorem members_settles {member : Reader (Option α)} (settles : member.Settles) : (members member).Settles :=
  bind_pure_settles _ (many_settles _ settles)

theorem block_settles {word : Keyword} {members : Reader α} (settles : members.Settles) :
    (block word members).Settles :=
  bind_settles (expect_settles (by simp)) fun _ => bind_settles identifier_settles fun _ =>
    bind_settles (expect_settles (by simp)) fun _ => bind_settles settles fun _ =>
    bind_settles (expect_settles (by simp)) fun _ => bind_pure_settles _ (expect_settles (by simp))

end Members

section Declarations

theorem constant_settles : constant.Settles :=
  current_bind_settles fun _ => bind_settlesAt (expect_settles (by simp) _) fun _ =>
    bind_settles identifier_settles fun _ => bind_settles (expect_settles (by simp)) fun _ =>
    bind_settles literal_settles fun _ => bind_pure_settles _ (expect_settles (by simp))

theorem enumeration_settles : enumeration.Settles :=
  current_bind_settles fun _ => bind_pure_settlesAt _ (block_settles (many_settles _ enumerator_settles) _)

theorem struct_settles : struct.Settles :=
  current_bind_settles fun _ => bind_pure_settlesAt _ (block_settles (members_settles field_settles) _)

theorem union_settles : union.Settles :=
  current_bind_settles fun _ => bind_pure_settlesAt _ (block_settles (members_settles branch_settles) _)

theorem service_settles : service.Settles :=
  current_bind_settles fun _ => bind_pure_settlesAt _ (block_settles (members_settles method_settles) _)

theorem skipWords_invalid (level : Int) (words : List Documented) :
    invalidIn ((skipWords level words).map (·.token)) = invalidIn (words.map (·.token)) := by
  have pass : ∀ {word : Documented} {rest : List Documented}, (∀ error, word.kind ≠ .invalid error) →
      invalidIn ((word :: rest).map (·.token)) = invalidIn (rest.map (·.token)) := by
    intro word rest valid
    have none : word.token.invalid? = none := by
      unfold Token.invalid?
      split
      · rename_i error kind
        exact absurd kind (valid error)
      · rfl
    simp [invalidIn, none]
  fun_induction skipWords level words with
  | case1 | case2 | case3 => rfl
  | case4 | case5 | case6 | case7 =>
    rename_i ih
    rw [ih, pass]
    simp_all

theorem skipStatement_settles : skipStatement.SettlesAt .identifier := by
  intro t proper identifier
  refine ⟨skipStatement_takes.forward t, ?_⟩
  rw [proper.invalid_eq, Tape.invalid_of_kind identifier (by simp)]
  exact (skipWords_invalid 0 t.ahead.tail).symm

theorem item_settles : item.Settles := by
  apply current_bind_settles
  intro word
  split
  · exact bind_pure_settles _ constant_settles _
  · exact bind_pure_settles _ enumeration_settles _
  · exact bind_pure_settles _ struct_settles _
  · exact bind_pure_settles _ union_settles _
  · exact bind_pure_settles _ service_settles _
  · rename_i same
    exact same ▸ bind_pure_settlesAt _ (advance_settles (by simp))
  · rename_i same
    exact same ▸ lexical_bind_settles fun _ => pure_settles _
  · rename_i same
    exact same ▸ report_bind_settles rfl (bind_pure_settlesAt _ skipStatement_settles)
  · rename_i valid _
    exact report_bind_settles rfl (bind_pure_settlesAt _ (advance_settles valid))

end Declarations

section Outline

theorem packageClause_settles : packageClause.Settles := by
  apply current_bind_settles
  intro first
  apply bind_settlesAt (expect_settles (by simp) _)
  intro _
  split
  · exact pure_settles _
  · apply bind_settles identifier_settles
    intro name
    apply current_bind_settles
    intro word
    split
    · exact bind_pure_settles _ (expect_settles (by simp)) _
    · exact pure_settles _ _

theorem givenName_settles : givenName.Settles := by
  apply current_bind_settles
  intro word
  split
  · rename_i isName
    rw [isName]
    exact bind_pure_settlesAt _ (advance_settles (by simp))
  · exact pure_settles _ _

theorem importProblem?_lexical {imports : Dictionary String Import} {clause : Import} {problem : Problem}
    (found : importProblem? imports clause = some problem) : problem.lexical? = none := by
  unfold importProblem? at found
  split at found
  · cases found
    rfl
  · split at found
    · cases found
      rfl
    · cases found

theorem addImport_settles (imports : Dictionary String Import) (clause : Import) :
    (addImport imports clause).Settles := by
  intro kind t _ _
  rw [addImport_apply]
  cases found : importProblem? imports clause with
  | none => exact .stays rfl rfl
  | some problem =>
    refine .stays rfl ?_
    dsimp only
    rw [lexical_one, importProblem?_lexical found]
    rfl

theorem importClause_settles (imports : Dictionary String Import) :
    (importClause imports).SettlesAt (.keyword .importing) := by
  apply current_bind_settlesAt
  intro first _
  apply bind_settlesAt (advance_settles (by simp))
  intro _
  apply bind_settles givenName_settles
  intro given
  apply bind_settles importPath_settles
  intro path
  apply bind_settles (addImport_settles _ _)
  intro known
  exact bind_pure_settles _ (expect_settles (by simp))

theorem importClauses_settles (imports : Dictionary String Import) : (importClauses imports).Settles := by
  apply recurse_settles
  intro again calls imports
  apply current_bind_settles
  intro word
  split
  · rename_i isImport
    rw [isImport]
    exact bind_settlesAt (importClause_settles imports) fun more => calls more
  · exact pure_settles _ _

theorem items_settled {t : Tape} (proper : t.Proper) :
    ((items t).value.flatMap fun step => lexical step.problems) = invalidIn t.tokens := by
  induction size : t.left using Nat.strongRecOn generalizing t with
  | ind n ih =>
    by_cases last : t.current.kind = .endOfFile
    · rw [items_stop last, Tape.tokens, proper.ahead_nil last]
      rfl
    · have step := item_settles _ t proper rfl
      have later := ih (item t).tape.left (size ▸ item_takes.shorter proper last) (proper.leads step.leads) rfl
      rw [items_go proper last, List.flatMap_cons, later, step.settled]

theorem outline_settled {t : Tape} (proper : t.Proper) : lexical (outline t).headProblems ++
    ((outline t).items.flatMap fun step => lexical step.problems) = invalidIn t.tokens := by
  have head := bind_settles packageClause_settles
    (fun package => bind_pure_settles (package, ·) (importClauses_settles ∅)) _ t proper rfl
  have behind := items_settled (proper.leads head.leads)
  rw [head.settled, ← behind]
  rfl

end Outline

end Grammar
end WireSchema

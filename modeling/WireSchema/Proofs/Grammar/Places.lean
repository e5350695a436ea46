import WireSchema.Proofs.Grammar.Files
import WireSchema.Proofs.Grammar.Mentions

-- Where the names stand that a reader notes: at the identifiers of a source, in their order. Nothing that is
-- reported while reading is about names.
namespace WireSchema

def Problem.isNaming : Problem → Bool
  | .undefinedType _ | .typeRedeclared _ _ => true
  | _ => false

def Problems.Without (which : Problem → Bool) (problems : Problems) : Prop :=
  ∀ p ∈ problems, which p.content = false

abbrev Problems.Nameless : Problems → Prop := Without Problem.isNaming

namespace Problems.Without
variable {which : Problem → Bool} {first second : Problems} {p : Located Problem}

theorem nil : Without which [] := by simp [Without]

theorem one (other : which p.content = false) : Without which [p] := by
  simpa [Without] using other

theorem append (one : Without which first) (two : Without which second) : Without which (first ++ second) := by
  intro p member
  rcases List.mem_append.mp member with inFirst | inSecond
  · exact one p inFirst
  · exact two p inSecond

theorem report {condition : Prop} [Decidable condition] (other : which p.content = false) :
    Without which (if condition then [p] else []) := by
  split
  · exact one other
  · exact nil

theorem filter (without : Without which first) : first.filter (which ·.content) = [] := by
  rw [List.filter_eq_nil_iff]
  intro p member
  simp [without p member]

end Problems.Without

namespace Grammar
open Reader hiding pure

def qualifierOf : List Token → String
  | point :: word :: _ => if point.kind = .period ∧ word.kind = .identifier then "." ++ word.text else ""
  | _ => ""

-- The names that start at the identifiers of a source, whether or not a type can stand there.
def namesIn : List Token → List Mention
  | [] => []
  | word :: rest =>
    if word.kind = .identifier then ⟨word.text ++ qualifierOf rest, word.position⟩ :: namesIn rest
    else namesIn rest

theorem namesIn_suffix {later words : List Token} (suffix : later <:+ words) :
    (namesIn later).Sublist (namesIn words) := by
  induction words with
  | nil =>
    obtain rfl := List.suffix_nil.mp suffix
    exact .refl _
  | cons word rest ih =>
    rcases List.suffix_cons_iff.mp suffix with rfl | behind
    · exact .refl _
    · refine (ih behind).trans ?_
      rw [namesIn]
      split
      · exact List.sublist_cons_self _ _
      · exact .refl _

theorem Tape.Leads.tokens {t later : Tape} (leads : t.Leads later) : later.tokens <:+ t.tokens := leads.1.map _

-- A step goes forward, the names it notes and those still ahead stand in this order, and nothing it reports is about
-- names.
structure Step.Orderly {α : Type} (t : Tape) (s : Step α) : Prop where
  leads : t.Leads s.tape
  names : (s.mentions ++ namesIn s.tape.tokens).Sublist (namesIn t.tokens)
  nameless : s.problems.Nameless

theorem Step.Orderly.silent {α : Type} {t : Tape} {s : Step α} (leads : t.Leads s.tape) (silent : s.mentions = [])
    (nameless : s.problems.Nameless) : s.Orderly t := by
  refine ⟨leads, ?_, nameless⟩
  rw [silent]
  exact namesIn_suffix leads.tokens

namespace Reader
variable {α β ι : Type}

def Orderly (r : Reader α) : Prop := ∀ t : Tape, t.Proper → (r t).Orderly t

theorem bind_orderly {r : Reader α} {next : α → Reader β} (first : r.Orderly) (later : ∀ a, (next a).Orderly) :
    (r >>= next).Orderly := by
  intro t proper
  have one := first t proper
  have two := later (r t).value _ (proper.leads one.leads)
  refine ⟨one.leads.trans two.leads, ?_, one.nameless.append two.nameless⟩
  rw [bind_mentions, bind_tape, List.append_assoc]
  exact (two.names.append_left _).trans one.names

theorem pure_orderly (value : α) : (Reader.pure value).Orderly := fun t _ => .silent (.refl t) rfl .nil

theorem current_orderly : current.Orderly := fun t _ => .silent (.refl t) rfl .nil

theorem advance_orderly : advance.Orderly := fun t _ => .silent t.leads_advance rfl .nil

theorem report_orderly {problem : Problem} (nameless : problem.isNaming = false) : (report problem).Orderly :=
  fun t _ => .silent (.refl t) rfl (.one nameless)

theorem current_bind_orderly {next : Documented → Reader β} (later : ∀ word, (next word).Orderly) :
    (current >>= next).Orderly := bind_orderly current_orderly later

theorem bind_pure_orderly {r : Reader α} (f : α → β) (orderly : r.Orderly) :
    (r >>= fun a => Reader.pure (f a)).Orderly := bind_orderly orderly fun _ => pure_orderly _

variable {stuck : ι → α} {body : (ι → Reader α) → ι → Reader α}

theorem recurse_orderly
    (orderly : ∀ again : ι → Reader α, (∀ j, (again j).Orderly) → ∀ i, (body again i).Orderly) (i : ι) :
    (recurse stuck body i).Orderly := by
  intro t proper
  induction size : t.left using Nat.strongRecOn generalizing t i with
  | ind n ih =>
    rw [recurse]
    refine orderly _ (fun j later properLater => ?_) i t proper
    split
    · rename_i shorter
      exact ih later.left (size ▸ shorter) j later properLater rfl
    · exact .silent (.refl later) rfl .nil

theorem many_orderly (goesOn : TokenKind → Bool) {round : Reader α} (orderly : round.Orderly) :
    (many goesOn round).Orderly := by
  refine recurse_orderly (fun again calls _ => current_bind_orderly fun word => ?_) ()
  split
  · exact bind_orderly orderly fun first => bind_pure_orderly _ (calls ())
  · exact pure_orderly _

end Reader

section Words

theorem mismatch_nameless (found : Documented) (expected : TokenKind) : (mismatch found expected).isNaming = false := by
  unfold mismatch
  split
  · rfl
  · rfl
  · split <;> rfl

theorem expect_orderly (kind : TokenKind) : (expect kind).Orderly := fun t _ => by
  rw [expect_apply]
  refine .silent t.leads_advance rfl ?_
  split
  · exact .nil
  · exact .one (mismatch_nameless _ _)

theorem identifier_orderly : identifier.Orderly := fun t _ => by
  rw [identifier_apply]
  refine .silent t.leads_advance rfl ?_
  split
  · exact .nil
  · exact .one (mismatch_nameless _ _)

theorem memberEnd_orderly : memberEnd.Orderly := fun t proper => by
  refine .silent (memberEnd_forward t) (memberEnd_silent t) ?_
  rw [memberEnd_apply]
  exact .nil

theorem arraySize_orderly : arraySize.Orderly := fun t _ => by
  refine .silent (arraySize_forward t) (arraySize_silent t) ?_
  rw [arraySize_apply]
  split
  · exact .report rfl
  · exact .nil

theorem tags_nameless (literal : String) (found : Tags) (text : List Char) :
    ∀ problem ∈ (TagString.tags literal found text).2, problem.isNaming = false := by
  fun_induction TagString.tags literal found text <;> simp_all [Problem.isNaming]

theorem tagString_nameless (signed : Bool) (literal : String) :
    ∀ problem ∈ (TagString.read signed literal).problems, problem.isNaming = false := by
  intro problem member
  unfold TagString.read at member
  dsimp only at member
  split at member
  · exact tags_nameless _ _ _ problem member
  · rcases List.mem_cons.mp member with rfl | later
    · rfl
    · exact tags_nameless _ _ _ problem later

theorem tagString_orderly (signed : Bool) : (tagString signed).Orderly := fun t _ => by
  refine .silent (tagString_forward signed t) (tagString_silent signed t) ?_
  rw [tagString_apply]
  split
  · intro p member
    obtain ⟨problem, among, rfl⟩ := List.mem_map.mp member
    exact tagString_nameless signed _ problem among
  · split
    · exact .one rfl
    · exact .one (mismatch_nameless _ _)

theorem literal_orderly : literal.Orderly := fun t _ => by
  refine .silent (literal_forward t) (literal_silent t) ?_
  rw [literal_apply, literal?]
  split
  · exact .nil
  · rename_i problem rejected
    refine .one ?_
    dsimp only
    split at rejected <;> cases rejected <;> rfl

end Words

section Types
variable {inner : Reader (Option (ValueType Unit))}

theorem qualifierOf_tokens {t : Tape} (proper : t.Proper) :
    qualifierOf t.tokens = if t.current.kind = .period then (qualifier t.advance).value else "" := by
  rw [qualifier_apply]
  cases tokens : t.tokens with
  | nil =>
    have last : t.current.kind = .endOfFile := by
      rw [proper.current_kind, tokens]
      rfl
    rw [last]
    rfl
  | cons point rest =>
    obtain ⟨rfl, behind⟩ := Tape.current_token tokens
    cases rest with
    | nil =>
      have last : t.advance.current.kind = .endOfFile := by
        rw [proper.advance.current_kind, behind]
        rfl
      simp [qualifierOf, last]
    | cons word more =>
      obtain ⟨rfl, _⟩ := Tape.current_token behind
      change (if t.current.kind = .period ∧ t.advance.current.kind = .identifier then
        "." ++ t.advance.current.text else "") = _
      by_cases period : t.current.kind = .period <;> simp [period]

theorem namedType_apply (t : Tape) : namedType t =
    if t.advance.current.kind = .period then
      let rest := qualifier t.advance.advance
      let whole := named (t.current.text ++ rest.value) t.current.position rest.tape
      ⟨whole.value, rest.problems ++ whole.problems, whole.mentions, whole.tape⟩
    else named t.current.text t.current.position t.advance := by
  by_cases period : t.advance.current.kind = .period <;> simp [namedType, bind_apply, period, qualifier_apply]

theorem named_orderly {t later : Tape} (proper : t.Proper) (identifier : t.current.kind = .identifier)
    (leads : t.advance.Leads later) {name : String} (whole : name = t.current.text ++ qualifierOf t.advance.tokens) :
    (named name t.current.position later).Orderly t := by
  have front : namesIn t.tokens = ⟨name, t.current.position⟩ :: namesIn t.advance.tokens := by
    rw [proper.tokens_eq (by rw [identifier]; simp), namesIn, whole]
    exact if_pos identifier
  unfold named
  cases ValueType.builtin? (σ := Unit) name with
  | some type => exact .silent (t.leads_advance.trans leads) rfl .nil
  | none =>
    refine ⟨t.leads_advance.trans leads, ?_, .nil⟩
    rw [front]
    exact (namesIn_suffix leads.tokens).cons_cons _

theorem namedType_orderly {t : Tape} (proper : t.Proper) (identifier : t.current.kind = .identifier) :
    (namedType t).Orderly t := by
  have behind := qualifierOf_tokens proper.advance
  rw [namedType_apply]
  split
  · rename_i period
    have leads : t.advance.Leads (qualifier t.advance.advance).tape :=
      t.advance.leads_advance.trans (qualifier_takes.forward _)
    have reported : (qualifier t.advance.advance).problems.Nameless := by
      rw [qualifier_apply]
      dsimp only
      split
      · exact .nil
      · exact .one (mismatch_nameless _ _)
    have orderly := named_orderly proper identifier leads (by rw [behind, if_pos period])
    exact ⟨orderly.leads, orderly.names, reported.append orderly.nameless⟩
  · rename_i pointless
    exact named_orderly proper identifier (.refl _) (by rw [behind, if_neg pointless, String.append_empty])

theorem arrayWith_orderly (orderly : inner.Orderly) : (arrayWith inner).Orderly := by
  refine bind_orderly advance_orderly fun _ => bind_orderly arraySize_orderly fun size =>
    bind_orderly (expect_orderly _) fun _ => bind_orderly orderly fun element => ?_
  intro t _
  rw [arrayOf_apply]
  refine .silent (.refl t) rfl ?_
  intro p member
  obtain ⟨nested, _, rfl⟩ := List.mem_map.mp member
  rfl

theorem pointerWith_orderly (orderly : inner.Orderly) : (pointerWith inner).Orderly := by
  refine bind_orderly advance_orderly fun _ => bind_orderly orderly fun value => ?_
  intro t _
  rw [pointerTo_apply]
  refine .silent (.refl t) rfl ?_
  intro p member
  obtain ⟨barrier, _, rfl⟩ := List.mem_map.mp member
  rfl

theorem mapWith_orderly (orderly : inner.Orderly) : (mapWith inner).Orderly :=
  bind_orderly advance_orderly fun _ => bind_orderly (expect_orderly _) fun _ => bind_orderly orderly fun _ =>
    bind_orderly (expect_orderly _) fun _ => bind_pure_orderly _ orderly

theorem noType_orderly {problem : Problem} (nameless : problem.isNaming = false) : (noType problem).Orderly :=
  bind_orderly (report_orderly nameless) fun _ => bind_orderly advance_orderly fun _ => pure_orderly _

theorem typeWith_orderly (orderly : inner.Orderly) : (typeWith inner).Orderly := by
  intro t proper
  cases kind : t.current.kind with
  | openBracket => simpa [typeWith, bind_apply, kind] using arrayWith_orderly orderly t proper
  | asterisk => simpa [typeWith, bind_apply, kind] using pointerWith_orderly orderly t proper
  | keyword word =>
    cases word with
    | map => simpa [typeWith, bind_apply, kind] using mapWith_orderly orderly t proper
    | _ => simpa [typeWith, bind_apply, kind] using noType_orderly rfl t proper
  | identifier =>
    have named := namedType_orderly proper kind
    have same : typeWith inner t = ⟨some (namedType t).value, (namedType t).problems, (namedType t).mentions,
        (namedType t).tape⟩ := by simp [typeWith, bind_apply, kind, map_apply]
    rw [same]
    exact ⟨named.leads, named.names, named.nameless⟩
  | _ => simpa [typeWith, bind_apply, kind] using noType_orderly rfl t proper

theorem type_orderly : type.Orderly := recurse_orderly (fun _ calls _ => typeWith_orderly (calls ())) ()

theorem arguments_orderly : arguments.Orderly := by
  refine recurse_orderly (fun again calls _ => current_bind_orderly fun word => ?_) ()
  split
  · exact pure_orderly _
  · refine bind_orderly type_orderly fun argument => current_bind_orderly fun next => ?_
    split
    · exact bind_orderly advance_orderly fun _ => bind_pure_orderly _ (calls ())
    · exact pure_orderly _

theorem result_orderly : result.Orderly := by
  refine current_bind_orderly fun word => ?_
  split
  · exact pure_orderly _
  · exact pure_orderly _
  · exact pure_orderly _
  · exact pure_orderly _
  · exact type_orderly

end Types

section Members
variable {α : Type}

theorem memberTail_orderly (signed : Bool) {value : Int × Tags → α} :
    (tagString signed >>= fun tags => memberEnd >>= fun _ => Reader.pure (value tags)).Orderly :=
  bind_orderly (tagString_orderly signed) fun _ => bind_pure_orderly _ memberEnd_orderly

theorem enumerator_orderly : enumerator.Orderly :=
  current_bind_orderly fun _ => bind_orderly identifier_orderly fun _ => memberTail_orderly true

theorem field_orderly : field.Orderly :=
  current_bind_orderly fun _ => bind_orderly identifier_orderly fun _ => bind_orderly type_orderly fun _ =>
    memberTail_orderly false

theorem branch_orderly : branch.Orderly :=
  current_bind_orderly fun _ => bind_orderly type_orderly fun _ => memberTail_orderly false

theorem method_orderly : method.Orderly :=
  current_bind_orderly fun _ => bind_orderly identifier_orderly fun _ => bind_orderly (expect_orderly _) fun _ =>
    bind_orderly arguments_orderly fun _ => bind_orderly (expect_orderly _) fun _ =>
    bind_orderly result_orderly fun _ => memberTail_orderly false

theorem members_orderly {member : Reader (Option α)} (orderly : member.Orderly) : (members member).Orderly :=
  bind_pure_orderly _ (many_orderly _ orderly)

theorem block_orderly {word : Keyword} {members : Reader α} (orderly : members.Orderly) :
    (block word members).Orderly :=
  bind_orderly (expect_orderly _) fun _ => bind_orderly identifier_orderly fun _ =>
    bind_orderly (expect_orderly _) fun _ => bind_orderly orderly fun _ => bind_orderly (expect_orderly _) fun _ =>
    bind_pure_orderly _ (expect_orderly _)

end Members

section Declarations

theorem constant_orderly : constant.Orderly :=
  current_bind_orderly fun _ => bind_orderly (expect_orderly _) fun _ => bind_orderly identifier_orderly fun _ =>
    bind_orderly (expect_orderly _) fun _ => bind_orderly literal_orderly fun _ =>
    bind_pure_orderly _ (expect_orderly _)

theorem enumeration_orderly : enumeration.Orderly :=
  current_bind_orderly fun _ => bind_pure_orderly _ (block_orderly (many_orderly _ enumerator_orderly))

theorem struct_orderly : struct.Orderly :=
  current_bind_orderly fun _ => bind_pure_orderly _ (block_orderly (members_orderly field_orderly))

theorem union_orderly : union.Orderly :=
  current_bind_orderly fun _ => bind_pure_orderly _ (block_orderly (members_orderly branch_orderly))

theorem service_orderly : service.Orderly :=
  current_bind_orderly fun _ => bind_pure_orderly _ (block_orderly (members_orderly method_orderly))

theorem skipStatement_orderly : skipStatement.Orderly := fun t _ => .silent (skipStatement_takes.forward t) rfl .nil

theorem item_orderly : item.Orderly := by
  refine current_bind_orderly fun word => ?_
  split
  · exact bind_pure_orderly _ constant_orderly
  · exact bind_pure_orderly _ enumeration_orderly
  · exact bind_pure_orderly _ struct_orderly
  · exact bind_pure_orderly _ union_orderly
  · exact bind_pure_orderly _ service_orderly
  · exact bind_pure_orderly _ advance_orderly
  · exact bind_orderly (report_orderly rfl) fun _ => bind_pure_orderly _ advance_orderly
  · exact bind_orderly (report_orderly rfl) fun _ => bind_pure_orderly _ skipStatement_orderly
  · exact bind_orderly (report_orderly rfl) fun _ => bind_pure_orderly _ advance_orderly

theorem packageClause_orderly : packageClause.Orderly := by
  refine current_bind_orderly fun first => bind_orderly (expect_orderly _) fun _ => ?_
  split
  · exact pure_orderly _
  · refine bind_orderly identifier_orderly fun name => current_bind_orderly fun word => ?_
    split
    · exact bind_pure_orderly _ (expect_orderly _)
    · exact pure_orderly _

theorem addImport_orderly (imports : Dictionary String Import) (clause : Import) :
    (addImport imports clause).Orderly := fun t _ => by
  rw [addImport_apply]
  cases found : importProblem? imports clause with
  | none => exact .silent (.refl t) rfl .nil
  | some problem =>
    refine .silent (.refl t) rfl (.one ?_)
    unfold importProblem? at found
    split at found
    · cases found
      rfl
    · split at found <;> cases found
      rfl

theorem givenName_orderly : givenName.Orderly := by
  refine current_bind_orderly fun word => ?_
  split
  · exact bind_pure_orderly _ advance_orderly
  · exact pure_orderly _

theorem importClause_orderly (imports : Dictionary String Import) : (importClause imports).Orderly :=
  current_bind_orderly fun _ => bind_orderly advance_orderly fun _ => bind_orderly givenName_orderly fun _ =>
    bind_orderly (current_bind_orderly fun _ => bind_pure_orderly _ (expect_orderly _)) fun _ =>
    bind_orderly (addImport_orderly _ _) fun _ => bind_pure_orderly _ (expect_orderly _)

theorem importClauses_orderly (imports : Dictionary String Import) : (importClauses imports).Orderly := by
  refine recurse_orderly (fun again calls imports => current_bind_orderly fun word => ?_) imports
  split
  · exact bind_orderly (importClause_orderly imports) fun more => calls more
  · exact pure_orderly _

end Declarations

end Grammar

def DeclarationKind.keyword : DeclarationKind → Keyword
  | .const => .const
  | .enumeration => .enumeration
  | .struct => .struct
  | .union => .union
  | .service => .service

def Declaration.doc {σ : Type} : Declaration σ → List String
  | .const c => c.doc
  | .enumeration e => e.doc
  | .struct s => s.doc
  | .union u => u.doc
  | .service s => s.doc

def Declaration.place {σ : Type} (d : Declaration σ) : Keyword × Position := (d.kind.keyword, d.position)

namespace Grammar
open Reader hiding pure

def keywordsIn (tokens : List Token) : List (Keyword × Position) :=
  tokens.filterMap fun word => match word.kind with
    | .keyword keyword => some (keyword, word.position)
    | _ => none

theorem item_keyword {t : Tape} {d : Declaration Unit} (read : (item t).value = some d) :
    t.current.kind = .keyword d.kind.keyword ∧ d.position = t.current.position ∧ d.doc = t.current.doc := by
  cases kind : t.current.kind with
  | keyword word =>
    cases word with
    | const =>
      simp only [item, bind_value, current_apply, kind, pure_eq, pure_apply] at read
      obtain ⟨c, found, rfl⟩ := Option.map_eq_some_iff.mp read
      simp only [constant, bind_value, current_apply, pure_eq, pure_apply] at found
      obtain ⟨_, _, made⟩ := Option.bind_eq_some_iff.mp found
      split at made <;> cases made
      exact ⟨rfl, rfl, rfl⟩
    | enumeration | struct | union | service =>
      simp only [item, bind_value, current_apply, kind, pure_eq, pure_apply] at read
      cases Option.some.inj read
      exact ⟨rfl, rfl, rfl⟩
    | package | importing | map => simp [item, bind_value, kind] at read
  | _ => simp [item, bind_value, kind] at read

theorem item_place {t : Tape} (proper : t.Proper) :
    ((item t).value.toList.map Declaration.place ++ keywordsIn (item t).tape.tokens).Sublist (keywordsIn t.tokens) := by
  have later : (keywordsIn (item t).tape.tokens).Sublist (keywordsIn t.advance.tokens) :=
    (item_takes t).tokens.sublist.filterMap _
  cases read : (item t).value with
  | none => exact later.trans (t.leads_advance.tokens.sublist.filterMap _)
  | some d =>
    obtain ⟨kind, position, _⟩ := item_keyword read
    have front : keywordsIn t.tokens = Declaration.place d :: keywordsIn t.advance.tokens := by
      rw [proper.tokens_eq (by rw [kind]; simp), keywordsIn, List.filterMap_cons]
      have word : t.current.token.kind = .keyword d.kind.keyword := kind
      rw [word, Declaration.place, position]
      rfl
    rw [front]
    exact later.cons_cons _

theorem items_ordered {α : Type} {taken : Step (Option (Declaration Unit)) → List α} {ahead : List Token → List α}
    (each : ∀ {t : Tape}, t.Proper → (taken (item t) ++ ahead (item t).tape.tokens).Sublist (ahead t.tokens))
    {t : Tape} (proper : t.Proper) : ((items t).value.flatMap taken).Sublist (ahead t.tokens) := by
  induction size : t.left using Nat.strongRecOn generalizing t with
  | ind n ih =>
    by_cases last : t.current.kind = .endOfFile
    · rw [items_stop last]
      exact List.nil_sublist _
    · rw [items_go proper last, List.flatMap_cons]
      have later := proper.leads (item_takes.forward t)
      have rest := ih (item t).tape.left (size ▸ item_takes.shorter proper last) later rfl
      exact (rest.append_left _).trans (each proper)

section Outline
variable {t : Tape}

theorem outline_head (proper : t.Proper) : ∃ head : Step (Package × Dictionary String Import), head.Orderly t ∧
    (outline t).headProblems = head.problems ∧ (outline t).items = (items head.tape).value :=
  ⟨_, bind_orderly packageClause_orderly (fun _ => bind_pure_orderly _ (importClauses_orderly _)) t proper, rfl, rfl⟩

theorem outline_names (proper : t.Proper) :
    ((outline t).items.flatMap (·.mentions)).Sublist (namesIn t.tokens) := by
  obtain ⟨head, orderly, _, same⟩ := outline_head proper
  rw [same]
  have behind := items_ordered (fun proper => (item_orderly _ proper).names) (proper.leads orderly.leads)
  exact behind.trans (namesIn_suffix orderly.leads.tokens)

theorem outline_places (proper : t.Proper) :
    ((outline t).items.flatMap fun step => step.value.toList.map Declaration.place).Sublist (keywordsIn t.tokens) := by
  obtain ⟨head, orderly, _, same⟩ := outline_head proper
  rw [same]
  exact (items_ordered item_place (proper.leads orderly.leads)).trans (orderly.leads.tokens.sublist.filterMap _)

theorem outline_nameless (proper : t.Proper) :
    (outline t).headProblems.Nameless ∧ ∀ step ∈ (outline t).items, step.problems.Nameless := by
  obtain ⟨head, orderly, same, _⟩ := outline_head proper
  refine ⟨?_, outline_each proper fun proper => (item_orderly _ proper).nameless⟩
  rw [same]
  exact orderly.nameless

end Outline

end Grammar
end WireSchema

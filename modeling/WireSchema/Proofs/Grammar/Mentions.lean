import WireSchema.Proofs.Grammar.Loops
import WireSchema.Proofs.Names.TypeName

-- Every reference that a reader hands out was noted as mentioned, and everything noted is a name that can
-- stand in type position.
namespace WireSchema.Grammar
open Reader hiding pure

def Mention.reference (m : Mention) : Reference Unit := .ofName m.name ()

structure Step.Noted {α : Type} (known : List (Reference Unit)) (references : α → List (Reference Unit))
    (s : Step α) : Prop where
  mentioned : ∀ r ∈ references s.value, r ∈ known ∨ r ∈ s.mentions.map (·.reference)
  named : ∀ m ∈ s.mentions, IsTypeName m.name

namespace Reader
variable {α β ι : Type} {known : List (Reference Unit)} {references : α → List (Reference Unit)}
  {others : β → List (Reference Unit)}

def Notes (known : List (Reference Unit)) (references : α → List (Reference Unit)) (r : Reader α) : Prop :=
  ∀ t : Tape, t.Proper → (r t).Noted known references

def Silent (r : Reader α) : Prop := ∀ t, (r t).mentions = []

theorem pure_notes {value : α} (all : ∀ r ∈ references value, r ∈ known) :
    (Reader.pure value).Notes known references :=
  fun _ _ => ⟨fun r member => .inl (all r member), by simp⟩

theorem bind_notes {r : Reader α} {next : α → Reader β} (forward : r.Forward) (first : r.Notes known references)
    (later : ∀ a, (next a).Notes (known ++ references a) others) : (r >>= next).Notes known others := by
  intro t proper
  obtain ⟨mentioned, named⟩ := first t proper
  obtain ⟨mentionedNext, namedNext⟩ := later (r t).value _ (proper.leads (forward t))
  refine ⟨fun x member => ?_, fun m member => ?_⟩
  · rw [bind_mentions, List.map_append, List.mem_append]
    rcases mentionedNext x member with old | fresh
    · rcases List.mem_append.mp old with before | here
      · exact .inl before
      · exact (mentioned x here).imp id .inl
    · exact .inr (.inr fresh)
  · rcases List.mem_append.mp member with here | next
    · exact named m here
    · exact namedNext m next

theorem Silent.bind_notes {r : Reader α} {next : α → Reader β} (silent : r.Silent) (forward : r.Forward)
    (later : ∀ a, (next a).Notes known others) : (r >>= next).Notes known others := by
  intro t proper
  have noted := later (r t).value _ (proper.leads (forward t))
  refine ⟨?_, ?_⟩
  · rw [bind_mentions, silent t]
    exact noted.mentioned
  · rw [bind_mentions, silent t]
    exact noted.named

theorem current_silent : current.Silent := fun _ => rfl

theorem advance_silent : advance.Silent := fun _ => rfl

theorem report_silent (problem : Problem) : (report problem).Silent := fun _ => rfl

theorem current_bind_notes {next : Documented → Reader β} (later : ∀ word, (next word).Notes known others) :
    (current >>= next).Notes known others := current_silent.bind_notes current_forward later

theorem bind_pure_notes {r : Reader α} {f : α → β} (forward : r.Forward) (first : r.Notes known references)
    (all : ∀ a, ∀ x ∈ others (f a), x ∈ references a) :
    (r >>= fun a => Reader.pure (f a)).Notes known others :=
  bind_notes forward first fun a => pure_notes fun x member => List.mem_append_right _ (all a x member)

variable {stuck : ι → α} {body : (ι → Reader α) → ι → Reader α}

theorem recurse_notes (carries : Carries body) (none : ∀ i, references (stuck i) = [])
    (notes : ∀ again : ι → Reader α, (∀ j, (again j).Forward) →
      (∀ j known, (again j).Notes known references) → ∀ i known, (body again i).Notes known references)
    (i : ι) (known : List (Reference Unit)) : (recurse stuck body i).Notes known references := by
  intro t proper
  induction size : t.left using Nat.strongRecOn generalizing t i known with
  | ind n ih =>
    rw [recurse]
    refine notes _ (fun j later => ?_) (fun j known later properLater => ?_) i known t proper
    · split
      · exact recurse_forward carries j later
      · exact .refl later
    · split
      · rename_i shorter
        exact ih later.left (size ▸ shorter) j known later properLater rfl
      · exact ⟨by simp [none], by simp⟩

theorem many_notes (goesOn : TokenKind → Bool) {round : Reader α} (forward : round.Forward)
    (notes : ∀ known, round.Notes known references) (known : List (Reference Unit)) :
    (many goesOn round).Notes known (·.flatMap references) := by
  refine recurse_notes (many_carries goesOn forward) (fun _ => rfl) (fun again forwards calls _ known => ?_) () known
  refine current_bind_notes fun word => ?_
  split
  · refine bind_notes forward (notes known) fun first => ?_
    refine bind_notes (forwards ()) (calls () _) fun more => pure_notes fun x member => ?_
    rw [List.flatMap_cons] at member
    rcases List.mem_append.mp member with head | tail
    · exact List.mem_append_left _ (List.mem_append_right _ head)
    · exact List.mem_append_right _ tail
  · exact pure_notes (by simp)

end Reader

section Silence

theorem expect_silent (kind : TokenKind) : (expect kind).Silent := fun t => by rw [expect_apply]

theorem identifier_silent : identifier.Silent := fun t => by rw [identifier_apply]

theorem memberEnd_silent : memberEnd.Silent := fun t => by rw [memberEnd_apply]

theorem arraySize_silent : arraySize.Silent := fun t => by
  rw [arraySize_apply]
  split <;> rfl

theorem tagString_silent (signed : Bool) : (tagString signed).Silent := fun t => by
  rw [tagString_apply]
  split
  · rfl
  · split <;> rfl

theorem literal_silent : literal.Silent := fun t => by
  rw [literal_apply]
  cases literal? t.current <;> rfl

end Silence

def optionalReferences (type : Option (ValueType Unit)) : List (Reference Unit) := type.toList.flatMap (·.references)

def several (types : List (ValueType Unit)) : List (Reference Unit) := types.flatMap (·.references)

section Types
variable {inner : Reader (Option (ValueType Unit))} {known : List (Reference Unit)}

theorem named_noted (known : List (Reference Unit)) {name : String} (isTypeName : IsTypeName name)
    (position : Position) (t : Tape) :
    (named name position t).Noted known (·.references) := by
  unfold named
  cases builtin : ValueType.builtin? (σ := Unit) name with
  | some type =>
    obtain ⟨entry, found, same⟩ := Option.map_eq_some_iff.mp builtin
    have plain : ∀ entry ∈ ValueType.builtins (σ := Unit), entry.2.references = [] := by
      simp [ValueType.builtins, ValueType.references]
    have none := plain entry (List.mem_of_find?_eq_some found)
    rw [same] at none
    exact ⟨by simp [none], by simp⟩
  | none =>
    refine ⟨fun r member => .inr ?_, ?_⟩
    · have same : r = .ofName name () := List.mem_singleton.mp member
      subst same
      simp [bind_apply, Mention.reference]
    · simpa [bind_apply] using isTypeName

theorem namedType_noted (known : List (Reference Unit)) {t : Tape} (proper : t.Proper) (identifier : t.current.kind = .identifier) :
    (namedType t).Noted known (·.references) := by
  have first := proper.current_name identifier
  by_cases period : t.advance.current.kind = .period
  · have proper := (proper.advance).advance
    by_cases second : t.advance.advance.current.kind = .identifier
    · have name := IsTypeName.qualified first (proper.current_name second)
      rw [String.append_assoc] at name
      simpa [namedType, bind_apply, period, qualifier_apply, second] using named_noted known name t.current.position _
    · have noted := named_noted known (.plain first) t.current.position t.advance.advance.advance
      constructor
      · simpa [namedType, bind_apply, period, qualifier_apply, second] using noted.mentioned
      · simpa [namedType, bind_apply, period, qualifier_apply, second] using noted.named
  · simpa [namedType, bind_apply, period] using named_noted known (.plain first) t.current.position t.advance

theorem arrayWith_notes (forward : inner.Forward) (notes : inner.Notes known optionalReferences) :
    (arrayWith inner).Notes known optionalReferences := by
  refine advance_silent.bind_notes advance_forward fun _ => arraySize_silent.bind_notes arraySize_forward fun size =>
    (expect_silent _).bind_notes (expect_forward _) fun _ => bind_notes forward notes fun element => ?_
  intro t proper
  rw [arrayOf_apply]
  refine ⟨fun r member => .inl (List.mem_append_right _ ?_), by simp⟩
  cases element with
  | none => cases member
  | some element => simpa [optionalReferences, ValueType.references] using member

theorem pointerWith_notes (forward : inner.Forward) (notes : inner.Notes known optionalReferences) :
    (pointerWith inner).Notes known optionalReferences := by
  refine advance_silent.bind_notes advance_forward fun _ => bind_notes forward notes fun value => ?_
  intro t proper
  rw [pointerTo_apply]
  refine ⟨fun r member => .inl (List.mem_append_right _ ?_), by simp⟩
  cases value with
  | none => cases member
  | some value => simpa [optionalReferences, ValueType.references] using member

theorem mapWith_notes (forward : inner.Forward) (notes : ∀ known, inner.Notes known optionalReferences) :
    (mapWith inner).Notes known optionalReferences := by
  refine advance_silent.bind_notes advance_forward fun _ => (expect_silent _).bind_notes (expect_forward _) fun _ =>
    bind_notes forward (notes known) fun key => (expect_silent _).bind_notes (expect_forward _) fun _ =>
    bind_notes forward (notes _) fun value => pure_notes fun r member => ?_
  cases key with
  | none => cases member
  | some key =>
    cases value with
    | none => cases member
    | some value =>
      simp only [optionalReferences, Option.toList_some, List.flatMap_cons, List.flatMap_nil, List.append_nil,
        ValueType.references, List.mem_append] at member ⊢
      rcases member with inKey | inValue
      · exact .inl (.inr inKey)
      · exact .inr inValue

theorem noType_notes (known : List (Reference Unit)) (problem : Problem) : (noType problem).Notes known optionalReferences :=
  fun t _ => ⟨by simp [noType_apply, optionalReferences], by simp [noType_apply]⟩

theorem typeWith_notes (forward : inner.Forward) (notes : ∀ known, inner.Notes known optionalReferences) :
    (typeWith inner).Notes known optionalReferences := by
  intro t proper
  have stray := fun problem => noType_notes known problem t proper
  cases kind : t.current.kind with
  | openBracket => simpa [typeWith, bind_apply, kind] using arrayWith_notes forward (notes known) t proper
  | asterisk => simpa [typeWith, bind_apply, kind] using pointerWith_notes forward (notes known) t proper
  | keyword word =>
    cases word with
    | map => simpa [typeWith, bind_apply, kind] using mapWith_notes forward notes t proper
    | _ => simpa [typeWith, bind_apply, kind] using stray _
  | identifier =>
    obtain ⟨mentioned, names⟩ := namedType_noted known proper kind
    refine ⟨?_, ?_⟩
    · simpa [typeWith, bind_apply, kind, map_apply, optionalReferences] using mentioned
    · simpa [typeWith, bind_apply, kind, map_apply] using names
  | _ => simpa [typeWith, bind_apply, kind] using stray _

theorem type_notes (known : List (Reference Unit)) : type.Notes known optionalReferences :=
  recurse_notes typeWith_carries (fun _ => rfl)
    (fun _ forwards calls _ _ => typeWith_notes (forwards ()) (calls ())) () known

theorem arguments_notes (known : List (Reference Unit)) : arguments.Notes known several := by
  refine recurse_notes argumentsWith_carries (fun _ => rfl) (fun again forwards calls _ known => ?_) () known
  refine current_bind_notes fun word => ?_
  split
  · exact pure_notes (by simp [several])
  · refine bind_notes type_forward (type_notes known) fun argument => current_bind_notes fun next => ?_
    split
    · refine advance_silent.bind_notes advance_forward fun _ =>
        bind_notes (forwards ()) (calls () _) fun more => pure_notes fun r member => ?_
      rw [several, List.flatMap_append, List.mem_append] at member
      rcases member with inFirst | inMore
      · exact List.mem_append_left _ (List.mem_append_right _ inFirst)
      · exact List.mem_append_right _ inMore
    · exact pure_notes fun r member => List.mem_append_right _ member

theorem result_notes (known : List (Reference Unit)) : result.Notes known optionalReferences := by
  refine current_bind_notes fun word => ?_
  split
  · exact pure_notes (by simp [optionalReferences])
  · exact pure_notes (by simp [optionalReferences])
  · exact pure_notes (by simp [optionalReferences])
  · exact pure_notes (by simp [optionalReferences])
  · exact type_notes known

end Types

section Members
variable {known : List (Reference Unit)}

theorem field_notes (known : List (Reference Unit)) :
    field.Notes known (fun f => f.toList.flatMap (·.type.references)) := by
  refine current_bind_notes fun word => identifier_silent.bind_notes identifier_takes.forward fun name =>
    bind_notes type_forward (type_notes known) fun type =>
    (tagString_silent false).bind_notes (tagString_forward false) fun tags =>
    memberEnd_silent.bind_notes memberEnd_forward fun _ => pure_notes fun r member => List.mem_append_right _ ?_
  cases type with
  | none => cases member
  | some type =>
    rw [Option.bind_some] at member
    split at member
    · cases member
    · simpa [optionalReferences] using member

theorem branch_notes (known : List (Reference Unit)) :
    branch.Notes known (fun b => b.toList.flatMap (·.type.references)) := by
  refine current_bind_notes fun word => bind_notes type_forward (type_notes known) fun type =>
    (tagString_silent false).bind_notes (tagString_forward false) fun tags =>
    memberEnd_silent.bind_notes memberEnd_forward fun _ => pure_notes fun r member => List.mem_append_right _ ?_
  cases type with
  | none => cases member
  | some type => simpa [optionalReferences] using member

theorem method_notes (known : List (Reference Unit)) :
    method.Notes known (fun m => m.toList.flatMap (several ·.types)) := by
  refine current_bind_notes fun word => identifier_silent.bind_notes identifier_takes.forward fun name =>
    (expect_silent _).bind_notes (expect_forward _) fun _ =>
    bind_notes arguments_forward (arguments_notes known) fun arguments =>
    (expect_silent _).bind_notes (expect_forward _) fun _ =>
    bind_notes result_forward (result_notes _) fun result =>
    (tagString_silent false).bind_notes (tagString_forward false) fun tags =>
    memberEnd_silent.bind_notes memberEnd_forward fun _ => pure_notes fun r member => ?_
  split at member
  · cases member
  · simp only [Option.toList_some, List.flatMap_cons, List.flatMap_nil, List.append_nil, several, Method.types,
      List.flatMap_append, List.mem_append] at member ⊢
    rcases member with inArguments | inResult
    · exact .inl (.inr inArguments)
    · exact .inr inResult

theorem members_notes {α : Type} {member : Reader (Option α)} {references : α → List (Reference Unit)}
    (forward : member.Forward) (notes : ∀ known, member.Notes known (fun a => a.toList.flatMap references)) :
    (members member).Notes known (·.flatMap references) := by
  refine bind_pure_notes (many_forward _ forward) (many_notes _ forward notes known) fun found r inside => ?_
  obtain ⟨a, inFound, inside⟩ := List.mem_flatMap.mp inside
  obtain ⟨entry, inMany, same⟩ := List.mem_filterMap.mp inFound
  refine List.mem_flatMap.mpr ⟨entry, inMany, ?_⟩
  cases same
  simpa using inside

theorem block_notes {α : Type} {word : Keyword} {members : Reader α} {references : α → List (Reference Unit)}
    (forward : members.Forward) (notes : members.Notes known references) :
    (block word members).Notes known (fun found => references found.2) := by
  refine (expect_silent _).bind_notes (expect_forward _) fun _ =>
    identifier_silent.bind_notes identifier_takes.forward fun name =>
    (expect_silent _).bind_notes (expect_forward _) fun _ => bind_notes forward notes fun found =>
    (expect_silent _).bind_notes (expect_forward _) fun _ => (expect_silent _).bind_notes (expect_forward _) fun _ =>
    pure_notes fun r member => List.mem_append_right _ member

end Members

section Declarations
variable {known : List (Reference Unit)}

theorem constant_notes : constant.Notes known (fun c => c.toList.flatMap (·.type.references)) := by
  refine current_bind_notes fun first => (expect_silent _).bind_notes (expect_forward _) fun _ =>
    identifier_silent.bind_notes identifier_takes.forward fun name =>
    (expect_silent _).bind_notes (expect_forward _) fun _ => ?_
  -- the type of a literal is built in
  have plain : literal.Notes known (fun found => optionalReferences (found.map (·.1))) := by
    intro t proper
    refine ⟨?_, by simp [literal_silent t]⟩
    rw [literal_apply, literal?]
    cases t.current.kind <;> simp [optionalReferences, ValueType.references]
  refine bind_notes literal_forward plain fun found =>
    (expect_silent _).bind_notes (expect_forward _) fun _ => pure_notes fun r member => ?_
  refine List.mem_append_right _ ?_
  cases found with
  | none => cases member
  | some found =>
    by_cases empty : name.isEmpty
    · simp [empty] at member
    · simpa [empty, optionalReferences] using member

theorem enumeration_notes : enumeration.Notes known (fun _ => []) := by
  have enumerator_notes : ∀ known, enumerator.Notes known (fun _ => []) := fun known =>
    current_bind_notes fun word => identifier_silent.bind_notes identifier_takes.forward fun name =>
      (tagString_silent true).bind_notes (tagString_forward true) fun tags =>
      memberEnd_silent.bind_notes memberEnd_forward fun _ => pure_notes (by simp)
  refine current_bind_notes fun first => bind_pure_notes (block_takes (many_forward _ enumerator_takes.forward)).forward
    (block_notes (many_forward _ enumerator_takes.forward) (many_notes _ enumerator_takes.forward enumerator_notes known))
    fun found r member => ?_
  cases member

theorem struct_notes : struct.Notes known (fun s => (Declaration.struct s).references) := by
  refine current_bind_notes fun first => bind_pure_notes (block_takes (members_forward field_takes)).forward
    (block_notes (members_forward field_takes) (members_notes field_takes.forward field_notes)) fun found r member => ?_
  simpa [Declaration.references, Declaration.types, Declaration.memberTypes, List.flatMap_map] using member

theorem union_notes : union.Notes known (fun u => (Declaration.union u).references) := by
  refine current_bind_notes fun first => bind_pure_notes (block_takes (members_forward branch_takes)).forward
    (block_notes (members_forward branch_takes) (members_notes branch_takes.forward branch_notes)) fun found r member => ?_
  simpa [Declaration.references, Declaration.types, Declaration.memberTypes, List.flatMap_map] using member

theorem service_notes : service.Notes known (fun s => (Declaration.service s).references) := by
  refine current_bind_notes fun first => bind_pure_notes (block_takes (members_forward method_takes)).forward
    (block_notes (members_forward method_takes) (members_notes method_takes.forward method_notes)) fun found r member => ?_
  simpa [Declaration.references, Declaration.types, Declaration.memberTypes, several, List.flatMap_map,
    List.map_flatMap, List.flatMap_assoc] using member

theorem skipStatement_silent : skipStatement.Silent := fun _ => rfl

theorem item_notes (known : List (Reference Unit)) : item.Notes known (fun d => d.toList.flatMap (·.references)) := by
  refine current_bind_notes fun word => ?_
  split
  · refine bind_pure_notes constant_takes.forward constant_notes fun c r member => ?_
    cases c with
    | none => cases member
    | some c => simpa [Declaration.references, Declaration.types, Declaration.memberTypes] using member
  · refine bind_pure_notes enumeration_takes.forward enumeration_notes fun e r member => ?_
    cases member
  · exact bind_pure_notes struct_takes.forward struct_notes fun s r member => by simpa using member
  · exact bind_pure_notes union_takes.forward union_notes fun u r member => by simpa using member
  · exact bind_pure_notes service_takes.forward service_notes fun s r member => by simpa using member
  · exact advance_silent.bind_notes advance_forward fun _ => pure_notes (by simp)
  · exact (report_silent _).bind_notes (report_forward _) fun _ =>
      advance_silent.bind_notes advance_forward fun _ => pure_notes (by simp)
  · exact (report_silent _).bind_notes (report_forward _) fun _ =>
      skipStatement_silent.bind_notes skipStatement_takes.forward fun _ => pure_notes (by simp)
  · exact (report_silent _).bind_notes (report_forward _) fun _ =>
      advance_silent.bind_notes advance_forward fun _ => pure_notes (by simp)

theorem block_name {α : Type} (word : Keyword) (members : Reader α) {t : Tape} (proper : t.Proper) :
    (block word members t).value.1 = "" ∨ IsName (block word members t).value.1 := by
  have value : (block word members t).value.1 = (identifier t.advance).value := by
    simp [block, bind_apply, expect_apply]
  rw [value, identifier_apply]
  dsimp only
  split
  · rename_i identifier
    exact .inr (proper.advance.current_name identifier)
  · exact .inl rfl

theorem item_name {t : Tape} (proper : t.Proper) {d : Declaration Unit} (read : (item t).value = some d)
    (isType : d.isType = true) : d.name = "" ∨ IsName d.name := by
  cases kind : t.current.kind with
  | keyword word =>
    cases word with
    | const =>
      simp only [item, bind_value, current_apply, kind, pure_eq, pure_apply] at read
      obtain ⟨c, _, rfl⟩ := Option.map_eq_some_iff.mp read
      simp [Declaration.isType, Declaration.kind] at isType
    | enumeration =>
      simp only [item, bind_value, current_apply, kind, pure_eq, pure_apply] at read
      cases Option.some.inj read
      exact block_name .enumeration (many (fun kind => decide (kind = .identifier)) enumerator) proper
    | struct =>
      simp only [item, bind_value, current_apply, kind, pure_eq, pure_apply] at read
      cases Option.some.inj read
      exact block_name .struct (members field) proper
    | union =>
      simp only [item, bind_value, current_apply, kind, pure_eq, pure_apply] at read
      cases Option.some.inj read
      exact block_name .union (members branch) proper
    | service =>
      simp only [item, bind_value, current_apply, kind, pure_eq, pure_apply] at read
      cases Option.some.inj read
      exact block_name .service (members method) proper
    | package | importing | map => simp [item, bind_value, kind] at read
  | _ => simp [item, bind_value, kind] at read

end Declarations

-- What is known of an item as it comes to the names of a file: its references are mentioned in it, what it
-- mentions can stand in type position, and its own name is a name.
structure Named (step : Step (Option (Declaration Unit))) : Prop where
  mentioned : ∀ d, step.value = some d → ∀ r ∈ d.references, r ∈ step.mentions.map (·.reference)
  typeNames : ∀ m ∈ step.mentions, IsTypeName m.name
  declared : ∀ d, step.value = some d → d.isType = true → d.name = "" ∨ IsName d.name

theorem item_named {t : Tape} (proper : t.Proper) : Named (item t) := by
  obtain ⟨mentioned, typeNames⟩ := item_notes [] t proper
  refine ⟨fun d read r member => ?_, typeNames, fun d read isType => item_name proper read isType⟩
  have inside := mentioned r (by simpa [read] using member)
  simpa using inside

theorem outline_named {t : Tape} (proper : t.Proper) : ∀ step ∈ (outline t).items, Named step :=
  outline_each proper item_named

end WireSchema.Grammar

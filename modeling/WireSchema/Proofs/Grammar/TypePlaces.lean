import WireSchema.Proofs.Grammar.Places

-- Where the parser comes to read a type, told by the tokens it stands at. The names that it notes are those that stand
-- there, in members that are kept and in members that are dropped.
namespace WireSchema.Grammar
open Reader hiding pure

inductive RoundAt {α : Type} (goesOn : TokenKind → Bool) (round : Reader α) : Tape → Tape → Prop where
  | first {t : Tape} (goes : goesOn t.current.kind = true) : RoundAt goesOn round t t
  | later {t u : Tape} (goes : goesOn t.current.kind = true) (behind : RoundAt goesOn round (round t).tape u) :
    RoundAt goesOn round t u

theorem RoundAt.leads {α : Type} {goesOn : TokenKind → Bool} {round : Reader α} {t u : Tape} (forward : round.Forward)
    (place : RoundAt goesOn round t u) : t.Leads u := by
  induction place with
  | first goes => exact .refl _
  | later goes behind ih => exact (forward _).trans ih

inductive TypeAt : Tape → Tape → Prop where
  | here {t : Tape} : TypeAt t t
  | element {t u : Tape} (opens : t.current.kind = .openBracket) (inside : TypeAt (arraySize t.advance).tape.advance u) :
    TypeAt t u
  | pointed {t u : Tape} (points : t.current.kind = .asterisk) (inside : TypeAt t.advance u) : TypeAt t u
  | key {t u : Tape} (isMap : t.current.kind = .keyword .map) (inside : TypeAt t.advance.advance u) : TypeAt t u
  | value {t u : Tape} (isMap : t.current.kind = .keyword .map)
    (inside : TypeAt (type t.advance.advance).tape.advance u) : TypeAt t u

inductive ArgumentAt : Tape → Tape → Prop where
  | first {t : Tape} (more : isArgumentsEnd t.current.kind = false) : ArgumentAt t t
  | later {t u : Tape} (more : isArgumentsEnd t.current.kind = false) (comma : (type t).tape.current.kind = .comma)
    (behind : ArgumentAt (type t).tape.advance u) : ArgumentAt t u

def isResultless (kind : TokenKind) : Bool :=
  kind = .string || kind = .semicolon || kind = .closeBrace || kind = .endOfFile

inductive MethodAt : Tape → Tape → Prop where
  | argument {t u : Tape} (inside : ArgumentAt t.advance.advance u) : MethodAt t u
  | result {t : Tape} (present : isResultless (arguments t.advance.advance).tape.advance.current.kind = false) :
    MethodAt t (arguments t.advance.advance).tape.advance

def Tape.body (t : Tape) : Tape := t.advance.advance.advance

inductive MemberAt : Tape → Tape → Prop where
  | field {t u : Tape} (isStruct : t.current.kind = .keyword .struct)
    (member : RoundAt (fun kind => !isBodyEnd kind) field t.body u) : MemberAt t u.advance
  | branch {t u : Tape} (isUnion : t.current.kind = .keyword .union)
    (member : RoundAt (fun kind => !isBodyEnd kind) branch t.body u) : MemberAt t u
  | method {t u v : Tape} (isService : t.current.kind = .keyword .service)
    (member : RoundAt (fun kind => !isBodyEnd kind) method t.body u) (ofMethod : MethodAt u v) : MemberAt t v

def ItemAt (t : Tape) : Tape → Prop :=
  RoundAt (· ≠ .endOfFile) item (importClauses ∅ (packageClause t).tape).tape

-- The places of a file where the parser reads a type.
def TypePlace (t u : Tape) : Prop := ∃ start first, ItemAt t start ∧ MemberAt start first ∧ TypeAt first u

-- A name at the front of a tape that is not that of a built-in type.
structure Tape.Shows (t : Tape) (m : Mention) : Prop where
  identifier : t.current.kind = .identifier
  name : m.name = t.current.text ++ qualifierOf t.advance.tokens
  position : m.position = t.current.position
  foreign : ValueType.builtin? (σ := Unit) m.name = none

namespace Reader
variable {α : Type} {comes : Tape → Tape → Prop}

def NotesAt (r : Reader α) (comes : Tape → Tape → Prop) : Prop :=
  ∀ t : Tape, t.Proper → ∀ m, m ∈ (r t).mentions ↔ ∃ u, comes t u ∧ u.Shows m

theorem many_notesAt {goesOn : TokenKind → Bool} {round : Reader α} (takes : round.Takes)
    (stops : goesOn .endOfFile = false) (notes : round.NotesAt comes) :
    (many goesOn round).NotesAt fun t u => ∃ v, RoundAt goesOn round t v ∧ comes v u := by
  intro t proper m
  induction size : t.left using Nat.strongRecOn generalizing t with
  | ind n ih =>
    cases goes : goesOn t.current.kind with
    | false =>
      rw [many_stops takes.forward goes]
      simp only [List.not_mem_nil, false_iff]
      rintro ⟨u, ⟨v, round, _⟩, _⟩
      cases round with
      | first going | later going => simp [goes] at going
    | true =>
      have more : t.current.kind ≠ .endOfFile := fun last => by simp [last, stops] at goes
      have shorter := takes.shorter proper more
      have behind := ih (round t).tape.left (size ▸ shorter) _ (proper.leads (takes.forward t)) rfl
      rw [many_goes takes.forward goes shorter]
      simp only [bind_mentions, pure_eq, pure_apply, List.append_nil, List.mem_append, notes t proper m, behind]
      constructor
      · rintro (⟨u, here, shows⟩ | ⟨u, ⟨v, later, there⟩, shows⟩)
        · exact ⟨u, ⟨t, .first goes, here⟩, shows⟩
        · exact ⟨u, ⟨v, .later goes later, there⟩, shows⟩
      · rintro ⟨u, ⟨v, round, there⟩, shows⟩
        cases round with
        | first => exact .inl ⟨u, there, shows⟩
        | later _ later => exact .inr ⟨u, ⟨v, later, there⟩, shows⟩

end Reader

section Types
variable {t : Tape} {m : Mention}

theorem typeAt_iff (other : t.current.kind ≠ .identifier) : (∃ u, TypeAt t u ∧ u.Shows m) ↔
    (t.current.kind = .openBracket ∧ ∃ u, TypeAt (arraySize t.advance).tape.advance u ∧ u.Shows m) ∨
    (t.current.kind = .asterisk ∧ ∃ u, TypeAt t.advance u ∧ u.Shows m) ∨
    (t.current.kind = .keyword .map ∧ ((∃ u, TypeAt t.advance.advance u ∧ u.Shows m) ∨
      ∃ u, TypeAt (type t.advance.advance).tape.advance u ∧ u.Shows m)) := by
  constructor
  · rintro ⟨u, place, shows⟩
    cases place with
    | here => exact absurd shows.identifier other
    | element opens inside => exact .inl ⟨opens, u, inside, shows⟩
    | pointed points inside => exact .inr (.inl ⟨points, u, inside, shows⟩)
    | key isMap inside => exact .inr (.inr ⟨isMap, .inl ⟨u, inside, shows⟩⟩)
    | value isMap inside => exact .inr (.inr ⟨isMap, .inr ⟨u, inside, shows⟩⟩)
  · rintro (⟨opens, u, inside, shows⟩ | ⟨points, u, inside, shows⟩ | ⟨isMap, ⟨u, inside, shows⟩ | ⟨u, inside, shows⟩⟩)
    · exact ⟨u, .element opens inside, shows⟩
    · exact ⟨u, .pointed points inside, shows⟩
    · exact ⟨u, .key isMap inside, shows⟩
    · exact ⟨u, .value isMap inside, shows⟩

theorem named_mentions (name : String) (position : Position) (t : Tape) : (named name position t).mentions =
    if ValueType.builtin? (σ := Unit) name = none then [⟨name, position⟩] else [] := by
  unfold named
  cases ValueType.builtin? (σ := Unit) name <;> simp [bind_apply]

theorem namedType_mentions (proper : t.Proper) (identifier : t.current.kind = .identifier) :
    m ∈ (namedType t).mentions ↔ t.Shows m := by
  have whole : (namedType t).mentions =
      (named (t.current.text ++ qualifierOf t.advance.tokens) t.current.position t).mentions := by
    rw [qualifierOf_tokens proper.advance, namedType_apply]
    split
    · exact (named_mentions _ _ _).trans (named_mentions _ _ _).symm
    · rw [String.append_empty]
      exact (named_mentions _ _ _).trans (named_mentions _ _ _).symm
  rw [whole, named_mentions]
  constructor
  · intro member
    split at member
    · rename_i foreign
      cases List.mem_singleton.mp member
      exact ⟨identifier, rfl, rfl, foreign⟩
    · cases member
  · rintro ⟨_, name, position, foreign⟩
    rw [← name, if_pos foreign, ← position]
    exact List.mem_singleton.mpr rfl

end Types

theorem type_notesAt : type.NotesAt TypeAt := by
  intro t proper m
  -- on the tokens left: a type inside is read behind the first token of the type
  induction size : t.left using Nat.strongRecOn generalizing t with
  | ind n ih =>
    have inner : ∀ u : Tape, t.advance.Leads u → t.current.kind ≠ .endOfFile →
        (m ∈ (type u).mentions ↔ ∃ v, TypeAt u v ∧ v.Shows m) := fun u leads more =>
      ih u.left (size ▸ Nat.lt_of_le_of_lt leads.left_le (proper.advance_left more)) u (proper.advance.leads leads) rfl
    rw [type_eq proper]
    cases kind : t.current.kind with
    | identifier =>
      have own : (typeWith type t).mentions = (namedType t).mentions := by simp [typeWith, bind_apply, kind, map_apply]
      rw [own, namedType_mentions proper kind]
      constructor
      · exact fun shows => ⟨t, .here, shows⟩
      · rintro ⟨u, place, shows⟩
        cases place with
        | here => exact shows
        | element other | pointed other | key other | value other => simp [kind] at other
    | openBracket =>
      have own : (typeWith type t).mentions = (type (arraySize t.advance).tape.advance).mentions := by
        simp [typeWith, bind_apply, kind, arrayWith, arraySize_silent t.advance, expect_apply, arrayOf_apply]
      rw [typeAt_iff (by simp [kind]), own, inner _ ((arraySize_forward _).trans (Tape.leads_advance _)) (by simp [kind])]
      simp [kind]
    | asterisk =>
      have own : (typeWith type t).mentions = (type t.advance).mentions := by
        simp [typeWith, bind_apply, kind, pointerWith, pointerTo_apply]
      rw [typeAt_iff (by simp [kind]), own, inner _ (.refl _) (by simp [kind])]
      simp [kind]
    | keyword word =>
      rw [typeAt_iff (by simp [kind])]
      cases word with
      | map =>
        have own : (typeWith type t).mentions =
            (type t.advance.advance).mentions ++ (type (type t.advance.advance).tape.advance).mentions := by
          simp [typeWith, bind_apply, kind, mapWith, expect_apply]
        rw [own, List.mem_append, inner _ (Tape.leads_advance _) (by simp [kind]), inner _ (((Tape.leads_advance _).trans
          (type_forward _)).trans (Tape.leads_advance _)) (by simp [kind])]
        simp [kind]
      | _ => simp [typeWith, bind_apply, kind, noType_apply]
    | _ =>
      rw [typeAt_iff (by simp [kind])]
      simp [typeWith, bind_apply, kind, noType_apply]

theorem arguments_notesAt : arguments.NotesAt fun t u => ∃ v, ArgumentAt t v ∧ TypeAt v u := by
  intro t proper m
  induction size : t.left using Nat.strongRecOn generalizing t with
  | ind n ih =>
    rw [arguments_eq proper]
    cases last : isArgumentsEnd t.current.kind with
    | true =>
      simp only [argumentsWith, bind_apply, current_apply, last, if_true, pure_eq, pure_apply, List.append_nil,
        List.not_mem_nil, false_iff]
      rintro ⟨u, ⟨v, argument, _⟩, _⟩
      cases argument with
      | first more | later more => simp [last] at more
    | false =>
      have here := type_notesAt t proper m
      by_cases comma : (type t).tape.current.kind = .comma
      · have leads := type_forward t
        have shorter := Nat.lt_of_lt_of_le ((proper.leads leads).advance_left (by rw [comma]; simp)) leads.left_le
        have behind := ih _ (size ▸ shorter) _ (proper.leads leads).advance rfl
        simp only [argumentsWith, bind_apply, current_apply, last, Bool.false_eq_true, if_false, comma, if_true,
          advance_apply, pure_eq, pure_apply, List.append_nil, List.nil_append, List.mem_append, here, behind]
        constructor
        · rintro (⟨u, inside, shows⟩ | ⟨u, ⟨v, later, inside⟩, shows⟩)
          · exact ⟨u, ⟨t, .first last, inside⟩, shows⟩
          · exact ⟨u, ⟨v, .later last comma later, inside⟩, shows⟩
        · rintro ⟨u, ⟨v, argument, inside⟩, shows⟩
          cases argument with
          | first => exact .inl ⟨u, inside, shows⟩
          | later _ _ later => exact .inr ⟨u, ⟨v, later, inside⟩, shows⟩
      · have own : (argumentsWith arguments t).mentions = (type t).mentions := by
          simp [argumentsWith, bind_apply, last, comma]
        rw [own, here]
        constructor
        · intro comes
          obtain ⟨u, inside, shows⟩ := comes
          exact ⟨u, ⟨t, .first last, inside⟩, shows⟩
        · rintro ⟨u, ⟨v, argument, inside⟩, shows⟩
          cases argument with
          | first => exact ⟨u, inside, shows⟩
          | later _ other => exact absurd other comma

theorem result_notesAt : result.NotesAt fun t u => isResultless t.current.kind = false ∧ TypeAt t u := by
  intro t proper m
  have here := type_notesAt t proper m
  cases kind : t.current.kind <;> simp [result, bind_apply, kind, isResultless, here]

section Members

theorem field_notesAt : field.NotesAt fun t u => TypeAt t.advance u := by
  intro t proper m
  have own : (field t).mentions = (type t.advance).mentions := by
    simp [field, bind_apply, identifier_apply, tagString_silent _ _, memberEnd_silent _]
  rw [own, type_notesAt _ proper.advance]

theorem branch_notesAt : branch.NotesAt TypeAt := by
  intro t proper m
  have own : (branch t).mentions = (type t).mentions := by
    simp [branch, bind_apply, tagString_silent _ _, memberEnd_silent _]
  rw [own, type_notesAt _ proper]

theorem method_notesAt : method.NotesAt fun t u => ∃ v, MethodAt t v ∧ TypeAt v u := by
  intro t proper m
  have behind := proper.advance.advance
  have own : (method t).mentions = (arguments t.advance.advance).mentions ++
      (result (arguments t.advance.advance).tape.advance).mentions := by
    simp [method, bind_apply, identifier_apply, expect_apply, tagString_silent _ _, memberEnd_silent _]
  rw [own, List.mem_append, arguments_notesAt _ behind, result_notesAt _ (behind.leads (arguments_forward _)).advance]
  constructor
  · rintro (⟨u, ⟨v, argument, inside⟩, shows⟩ | ⟨u, ⟨present, inside⟩, shows⟩)
    · exact ⟨u, ⟨v, .argument argument, inside⟩, shows⟩
    · exact ⟨u, ⟨_, .result present, inside⟩, shows⟩
  · rintro ⟨u, ⟨v, ofMethod, inside⟩, shows⟩
    cases ofMethod with
    | argument argument => exact .inl ⟨u, ⟨v, argument, inside⟩, shows⟩
    | result present => exact .inr ⟨u, ⟨present, inside⟩, shows⟩

theorem block_notesAt {α : Type} {member : Reader (Option α)} {comes : Tape → Tape → Prop} (word : Keyword)
    (takes : member.Takes) (notes : member.NotesAt comes) : (block word (members member)).NotesAt fun t u =>
      ∃ v, RoundAt (fun kind => !isBodyEnd kind) member t.body v ∧ comes v u := by
  intro t proper m
  have own : (block word (members member) t).mentions = (many (fun kind => !isBodyEnd kind) member t.body).mentions := by
    simp [block, members, bind_apply, identifier_apply, expect_apply, Tape.body]
  rw [own]
  exact many_notesAt takes rfl notes _ proper.advance.advance.advance m

theorem enumeration_silent {t : Tape} (proper : t.Proper) : (enumeration t).mentions = [] := by
  have silent : enumerator.NotesAt fun _ _ => False := by
    intro t _ m
    simp [enumerator, bind_apply, identifier_apply, tagString_silent _ _, memberEnd_silent _]
  have rounds : (many (· = .identifier) enumerator).NotesAt _ := many_notesAt enumerator_takes rfl silent
  have own : (enumeration t).mentions = (many (· = .identifier) enumerator t.body).mentions := by
    simp [enumeration, block, bind_apply, identifier_apply, expect_apply, Tape.body]
  rw [own, List.eq_nil_iff_forall_not_mem]
  intro m member
  obtain ⟨_, ⟨_, _, nothing⟩, _⟩ := (rounds _ proper.advance.advance.advance m).mp member
  exact nothing

end Members

section Items
variable {t u : Tape}

theorem struct_members (kind : t.current.kind = .keyword .struct) : (∃ v, MemberAt t v ∧ TypeAt v u) ↔
    ∃ v, RoundAt (fun kind => !isBodyEnd kind) field t.body v ∧ TypeAt v.advance u := by
  constructor
  · rintro ⟨v, member, inside⟩
    cases member with
    | field _ round => exact ⟨_, round, inside⟩
    | branch other | method other => simp [kind] at other
  · rintro ⟨v, round, inside⟩
    exact ⟨_, .field kind round, inside⟩

theorem union_members (kind : t.current.kind = .keyword .union) : (∃ v, MemberAt t v ∧ TypeAt v u) ↔
    ∃ v, RoundAt (fun kind => !isBodyEnd kind) branch t.body v ∧ TypeAt v u := by
  constructor
  · rintro ⟨v, member, inside⟩
    cases member with
    | branch _ round => exact ⟨_, round, inside⟩
    | field other | method other => simp [kind] at other
  · rintro ⟨v, round, inside⟩
    exact ⟨_, .branch kind round, inside⟩

theorem service_members (kind : t.current.kind = .keyword .service) : (∃ v, MemberAt t v ∧ TypeAt v u) ↔
    ∃ v, RoundAt (fun kind => !isBodyEnd kind) method t.body v ∧ ∃ w, MethodAt v w ∧ TypeAt w u := by
  constructor
  · rintro ⟨w, member, inside⟩
    cases member with
    | method _ round ofMethod => exact ⟨_, round, _, ofMethod, inside⟩
    | field other | branch other => simp [kind] at other
  · rintro ⟨v, round, w, ofMethod, inside⟩
    exact ⟨_, .method kind round ofMethod, inside⟩

-- What starts an item without types shows none.
theorem silent_members (silent : (item t).mentions = []) (noStruct : t.current.kind ≠ .keyword .struct)
    (noUnion : t.current.kind ≠ .keyword .union) (noService : t.current.kind ≠ .keyword .service) (m : Mention) :
    m ∈ (item t).mentions ↔ ∃ u, (∃ v, MemberAt t v ∧ TypeAt v u) ∧ u.Shows m := by
  simp only [silent, List.not_mem_nil, false_iff]
  rintro ⟨u, ⟨v, member, _⟩, _⟩
  cases member with
  | field isStruct => exact noStruct isStruct
  | branch isUnion => exact noUnion isUnion
  | method isService => exact noService isService

end Items

theorem item_notesAt : item.NotesAt fun t u => ∃ v, MemberAt t v ∧ TypeAt v u := by
  intro t proper m
  cases kind : t.current.kind with
  | keyword word =>
    cases word with
    | struct =>
      have own : (item t).mentions = (block .struct (members field) t).mentions := by
        simp [item, bind_apply, kind, struct]
      simp only [own, block_notesAt .struct field_takes field_notesAt _ proper, struct_members kind]
    | union =>
      have own : (item t).mentions = (block .union (members branch) t).mentions := by
        simp [item, bind_apply, kind, union]
      simp only [own, block_notesAt .union branch_takes branch_notesAt _ proper, union_members kind]
    | service =>
      have own : (item t).mentions = (block .service (members method) t).mentions := by
        simp [item, bind_apply, kind, service]
      simp only [own, block_notesAt .service method_takes method_notesAt _ proper, service_members kind]
    | enumeration =>
      refine silent_members ?_ (by simp [kind]) (by simp [kind]) (by simp [kind]) m
      simpa [item, bind_apply, kind] using enumeration_silent proper
    | const =>
      refine silent_members ?_ (by simp [kind]) (by simp [kind]) (by simp [kind]) m
      simp [item, bind_apply, kind, constant, expect_apply, identifier_apply, literal_silent _]
    | _ => exact silent_members (by simp [item, bind_apply, kind]) (by simp [kind]) (by simp [kind]) (by simp [kind]) m
  | identifier =>
    refine silent_members ?_ (by simp [kind]) (by simp [kind]) (by simp [kind]) m
    simp [item, bind_apply, kind, skipStatement_silent _]
  | _ => exact silent_members (by simp [item, bind_apply, kind]) (by simp [kind]) (by simp [kind]) (by simp [kind]) m

theorem items_at {t : Tape} (proper : t.Proper) (step : Step (Option (Declaration Unit))) :
    step ∈ (items t).value ↔ ∃ v, RoundAt (· ≠ .endOfFile) item t v ∧ item v = step := by
  induction size : t.left using Nat.strongRecOn generalizing t with
  | ind n ih =>
    by_cases last : t.current.kind = .endOfFile
    · rw [items_stop last]
      simp only [List.not_mem_nil, false_iff]
      rintro ⟨v, round, _⟩
      cases round with
      | first goes | later goes => simp [last] at goes
    · have goes : decide (t.current.kind ≠ .endOfFile) = true := decide_eq_true last
      rw [items_go proper last, List.mem_cons,
        ih (item t).tape.left (size ▸ item_takes.shorter proper last) (proper.leads (item_takes.forward t)) rfl]
      constructor
      · rintro (rfl | ⟨v, round, same⟩)
        · exact ⟨t, .first goes, rfl⟩
        · exact ⟨v, .later goes round, same⟩
      · rintro ⟨v, round, rfl⟩
        cases round with
        | first => exact .inl rfl
        | later _ round => exact .inr ⟨v, round, rfl⟩

section Outline
variable {t : Tape}

theorem outline_at (proper : t.Proper) (step : Step (Option (Declaration Unit))) :
    step ∈ (outline t).items ↔ ∃ v, ItemAt t v ∧ item v = step := by
  have leads : t.Leads (importClauses ∅ (packageClause t).tape).tape :=
    (packageClause_forward t).trans (importClauses_forward ∅ _)
  exact items_at (proper.leads leads) step

theorem ItemAt.proper (proper : t.Proper) {v : Tape} (place : ItemAt t v) : v.Proper := by
  have leads : t.Leads (importClauses ∅ (packageClause t).tape).tape :=
    (packageClause_forward t).trans (importClauses_forward ∅ _)
  exact proper.leads (leads.trans (place.leads item_takes.forward))

theorem outline_mentions (proper : t.Proper) (m : Mention) :
    m ∈ (outline t).items.flatMap (·.mentions) ↔ ∃ u, TypePlace t u ∧ u.Shows m := by
  rw [List.mem_flatMap]
  constructor
  · rintro ⟨step, among, inside⟩
    obtain ⟨v, place, rfl⟩ := (outline_at proper step).mp among
    obtain ⟨u, ⟨first, member, ofType⟩, shows⟩ := (item_notesAt v (place.proper proper) m).mp inside
    exact ⟨u, ⟨v, first, place, member, ofType⟩, shows⟩
  · rintro ⟨u, ⟨v, first, place, member, ofType⟩, shows⟩
    exact ⟨item v, (outline_at proper _).mpr ⟨v, place, rfl⟩,
      (item_notesAt v (place.proper proper) m).mpr ⟨u, ⟨first, member, ofType⟩, shows⟩⟩

end Outline

theorem item_type {t : Tape} {kind : DeclarationKind} (isType : kind ≠ .const)
    (starts : t.current.kind = .keyword kind.keyword) : ∃ d, (item t).value = some d ∧ d.kind = kind ∧
      d.position = t.current.position ∧
      d.name = if t.advance.current.kind = .identifier then t.advance.current.text else "" := by
  have name : ∀ {α : Type} (word : Keyword) (members : Reader α), (block word members t).value.1 =
      if t.advance.current.kind = .identifier then t.advance.current.text else "" := fun word members => by
    simp [block, bind_apply, expect_apply, identifier_apply]
  cases kind with
  | const => exact absurd rfl isType
  | enumeration =>
    simp only [DeclarationKind.keyword] at starts
    simp only [item, bind_value, current_apply, starts, pure_eq, pure_apply]
    exact ⟨_, rfl, rfl, rfl, name .enumeration (many (fun kind => decide (kind = .identifier)) enumerator)⟩
  | struct =>
    simp only [DeclarationKind.keyword] at starts
    simp only [item, bind_value, current_apply, starts, pure_eq, pure_apply]
    exact ⟨_, rfl, rfl, rfl, name .struct (members field)⟩
  | union =>
    simp only [DeclarationKind.keyword] at starts
    simp only [item, bind_value, current_apply, starts, pure_eq, pure_apply]
    exact ⟨_, rfl, rfl, rfl, name .union (members branch)⟩
  | service =>
    simp only [DeclarationKind.keyword] at starts
    simp only [item, bind_value, current_apply, starts, pure_eq, pure_apply]
    exact ⟨_, rfl, rfl, rfl, name .service (members method)⟩

end WireSchema.Grammar

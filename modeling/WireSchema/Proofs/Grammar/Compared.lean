import WireSchema.Proofs.Grammar.Compare
import WireSchema.Proofs.Grammar.Entries

-- What is read off words that agree is the same, but for the places and the comments that words bring with them.
namespace WireSchema.Grammar
open Reader hiding pure

namespace Comparison
variable (c : Comparison)

inductive Enumerators : Enumerator → Enumerator → Prop where
  | same {p q : Position} {name : String} {value : Int} {tags : Tags} (places : c.places p q) :
      Enumerators ⟨p, name, value, tags⟩ ⟨q, name, value, tags⟩

inductive Fields : Field Unit → Field Unit → Prop where
  | same {p q : Position} {name : String} {type : ValueType Unit} {ordinal : Int} {tags : Tags}
      (places : c.places p q) :
      Fields ⟨p, name, type, ordinal, tags⟩ ⟨q, name, type, ordinal, tags⟩

inductive Branches : Branch Unit → Branch Unit → Prop where
  | same {p q : Position} {type : ValueType Unit} {ordinal : Int} {tags : Tags} (places : c.places p q) :
      Branches ⟨p, type, ordinal, tags⟩ ⟨q, type, ordinal, tags⟩

inductive Methods : Method Unit → Method Unit → Prop where
  | same {p q : Position} {above again : List String} {name : String} {arguments : List (ValueType Unit)}
      {result : Option (ValueType Unit)} {ordinal : Int} {tags : Tags} (places : c.places p q)
      (docs : c.docs above again) :
      Methods ⟨p, above, name, arguments, result, ordinal, tags⟩ ⟨q, again, name, arguments, result, ordinal, tags⟩

inductive Declarations : Declaration Unit → Declaration Unit → Prop where
  | const {p q : Position} {above again : List String} {name value : String} {type : ValueType Unit}
      (places : c.places p q) (docs : c.docs above again) :
      Declarations (.const ⟨p, above, name, type, value⟩) (.const ⟨q, again, name, type, value⟩)
  | enumeration {p q : Position} {above again : List String} {name : String} {es fs : List Enumerator}
      (places : c.places p q) (docs : c.docs above again) (members : List.Forall₂ c.Enumerators es fs) :
      Declarations (.enumeration ⟨p, above, name, es⟩) (.enumeration ⟨q, again, name, fs⟩)
  | struct {p q : Position} {above again : List String} {name : String} {fs gs : List (Field Unit)}
      (places : c.places p q) (docs : c.docs above again) (members : List.Forall₂ c.Fields fs gs) :
      Declarations (.struct ⟨p, above, name, fs⟩) (.struct ⟨q, again, name, gs⟩)
  | union {p q : Position} {above again : List String} {name : String} {as bs : List (Branch Unit)}
      (places : c.places p q) (docs : c.docs above again) (members : List.Forall₂ c.Branches as bs) :
      Declarations (.union ⟨p, above, name, as⟩) (.union ⟨q, again, name, bs⟩)
  | service {p q : Position} {above again : List String} {name : String} {ms ns : List (Method Unit)}
      (places : c.places p q) (docs : c.docs above again) (members : List.Forall₂ c.Methods ms ns) :
      Declarations (.service ⟨p, above, name, ms⟩) (.service ⟨q, again, name, ns⟩)

end Comparison

section Forwards
variable {inner : Reader (Option (ValueType Unit))} [forwards : inner.Forwards]

instance (kind : TokenKind) : (expect kind).Forwards := ⟨expect_forward kind⟩
instance : identifier.Forwards := ⟨identifier_takes.forward⟩
instance : memberEnd.Forwards := ⟨memberEnd_forward⟩
instance : arraySize.Forwards := ⟨arraySize_forward⟩
instance : qualifier.Forwards := ⟨qualifier_takes.forward⟩
instance (signed : Bool) : (tagString signed).Forwards := ⟨tagString_forward signed⟩
instance (name : String) (position : Position) : (named name position).Forwards := ⟨named_forward name position⟩
instance : namedType.Forwards := ⟨namedType_takes.forward⟩
instance : (arrayWith inner).Forwards := ⟨(arrayWith_takes forwards.forward).forward⟩
instance : (pointerWith inner).Forwards := ⟨(pointerWith_takes forwards.forward).forward⟩
instance : (mapWith inner).Forwards := ⟨(mapWith_takes forwards.forward).forward⟩
instance (problem : Problem) : (noType problem).Forwards := ⟨(noType_takes problem).forward⟩
instance : (typeWith inner).Forwards := ⟨(typeWith_takes forwards.forward).forward⟩
instance : type.Forwards := ⟨type_forward⟩
instance : literal.Forwards := ⟨literal_forward⟩
instance : result.Forwards := ⟨result_forward⟩
instance : arguments.Forwards := ⟨arguments_forward⟩
instance : enumerator.Forwards := ⟨enumerator_takes.forward⟩
instance : field.Forwards := ⟨field_takes.forward⟩
instance : branch.Forwards := ⟨branch_takes.forward⟩
instance : method.Forwards := ⟨method_takes.forward⟩
instance : constant.Forwards := ⟨constant_takes.forward⟩
instance : enumeration.Forwards := ⟨enumeration_takes.forward⟩
instance : struct.Forwards := ⟨struct_takes.forward⟩
instance : union.Forwards := ⟨union_takes.forward⟩
instance : service.Forwards := ⟨service_takes.forward⟩
instance : skipStatement.Forwards := ⟨skipStatement_takes.forward⟩
instance : item.Forwards := ⟨item_takes.forward⟩

instance {α : Type} (goesOn : TokenKind → Bool) (round : Reader α) [round.Forwards] : (many goesOn round).Forwards :=
  ⟨many_forward goesOn Reader.Forwards.forward⟩

instance {α : Type} (member : Reader (Option α)) [member.Forwards] : (members member).Forwards :=
  inferInstanceAs (Reader.Forwards (many _ member >>= fun found => Reader.pure (found.filterMap id)))

instance (size : UInt32) (element : Option (ValueType Unit)) : (arrayOf size element).Forwards := by
  constructor
  intro t
  rw [arrayOf_apply]
  exact .refl t

instance (value : Option (ValueType Unit)) : (pointerTo value).Forwards := by
  constructor
  intro t
  rw [pointerTo_apply]
  exact .refl t

end Forwards

namespace Comparison
variable {c : Comparison}

theorem mismatch_agree {w v : Documented} (words : c.Words w v) (expected : TokenKind) :
    mismatch w expected = mismatch v expected := by
  unfold mismatch
  rw [← words.kind]
  cases kind : w.kind with
  | invalid | endOfFile => rfl
  | _ => rw [words.text (by simp [kind])]

theorem expect_agree (kind : TokenKind) : c.Agree (fun _ _ => True) (expect kind) (expect kind) := by
  refine look_agree fun t u words _ advanced => ?_
  rw [expect_apply, expect_apply, ← words.kind, ← mismatch_agree words]
  refine .inr ⟨trivial, ?_, .nil, advanced⟩
  dsimp only
  split
  · exact .nil
  · exact .cons ⟨words.reports, rfl⟩ .nil

theorem identifier_agree : c.Agree Eq identifier identifier := by
  refine look_agree fun t u words _ advanced => ?_
  rw [identifier_apply, identifier_apply, ← words.kind, ← mismatch_agree words]
  by_cases isName : t.current.kind = .identifier
  · simp only [isName, if_true, words.text (by simp [isName])]
    exact .inr ⟨rfl, .nil, .nil, advanced⟩
  · simp only [isName, if_false]
    exact .inr ⟨rfl, .cons ⟨words.reports, rfl⟩ .nil, .nil, advanced⟩

theorem memberEnd_agree : c.Agree (fun _ _ => True) memberEnd memberEnd := by
  refine look_agree fun t u words tapes advanced => ?_
  rw [memberEnd_apply, memberEnd_apply, ← words.kind]
  refine .inr ⟨trivial, .nil, .nil, ?_⟩
  dsimp only
  split
  · exact advanced
  · exact tapes

theorem arraySize_agree : c.Agree Eq arraySize arraySize := by
  refine look_agree fun t u words tapes advanced => ?_
  rw [arraySize_apply, arraySize_apply, ← words.kind]
  by_cases isNumber : t.current.kind = .integer
  · rw [if_pos isNumber, if_pos isNumber, words.text (by simp [isNumber])]
    refine .inr ⟨rfl, ?_, .nil, advanced⟩
    dsimp only
    split
    · exact .cons ⟨words.reports, rfl⟩ .nil
    · exact .nil
  · rw [if_neg isNumber, if_neg isNumber]
    exact .inr ⟨rfl, .nil, .nil, tapes⟩

theorem qualifier_agree : c.Agree Eq qualifier qualifier := by
  refine look_agree fun t u words _ advanced => ?_
  rw [qualifier_apply, qualifier_apply, ← words.kind, ← mismatch_agree words]
  by_cases isName : t.current.kind = .identifier
  · simp only [isName, if_true, words.text (by simp [isName])]
    exact .inr ⟨rfl, .nil, .nil, advanced⟩
  · simp only [isName, if_false]
    exact .inr ⟨rfl, .cons ⟨words.reports, rfl⟩ .nil, .nil, advanced⟩

theorem reports_map {p q : Position} (reports : c.reports p q) (problems : List Problem) :
    List.Forall₂ c.Reports (problems.map (⟨p, ·⟩)) (problems.map (⟨q, ·⟩)) := by
  induction problems with
  | nil => exact .nil
  | cons problem rest ih => exact .cons ⟨reports, rfl⟩ ih

theorem tagString_agree (signed : Bool) : c.Agree Eq (tagString signed) (tagString signed) := by
  refine look_agree fun t u words tapes advanced => ?_
  rw [tagString_apply, tagString_apply, ← words.kind, ← mismatch_agree words]
  by_cases isString : t.current.kind = .string
  · rw [if_pos isString, if_pos isString, words.text (by simp [isString])]
    exact .inr ⟨rfl, reports_map words.reports _, .nil, advanced⟩
  · rw [if_neg isString, if_neg isString]
    by_cases ends : t.current.kind = .semicolon
    · rw [if_pos ends, if_pos ends]
      exact .inr ⟨rfl, .cons ⟨words.reports, rfl⟩ .nil, .nil, tapes⟩
    · rw [if_neg ends, if_neg ends]
      exact .inr ⟨rfl, .cons ⟨words.reports, rfl⟩ .nil, .nil, advanced⟩

theorem literal?_agree {w v : Documented} (words : c.Words w v) : literal? w = literal? v := by
  unfold literal?
  rw [← words.kind]
  cases kind : w.kind with
  | invalid error => rfl
  | _ => rw [words.text (by simp [kind])]

theorem literal_agree : c.Agree Eq literal literal := by
  refine look_agree fun t u words _ advanced => ?_
  rw [literal_apply, literal_apply, ← literal?_agree words]
  cases literal? t.current with
  | ok found => exact .inr ⟨rfl, .nil, .nil, advanced⟩
  | error problem => exact .inr ⟨rfl, .cons ⟨words.reports, rfl⟩ .nil, .nil, advanced⟩

section Types
variable {inner more : Reader (Option (ValueType Unit))} [forwards : inner.Forwards]

theorem named_agree (name : String) {p q : Position} (places : c.places p q) :
    c.Agree Eq (named name p) (named name q) := by
  unfold named
  cases ValueType.builtin? (σ := Unit) name with
  | some type => exact pure_agree rfl
  | none => exact fun t u tapes => .inr ⟨rfl, .nil, .cons ⟨places, rfl⟩ .nil, tapes⟩

theorem namedType_agree {t u : Tape} (words : c.Words t.current u.current) (tapes : c.Tapes t u)
    (isName : t.current.kind = .identifier) : c.Steps Eq (namedType t) (namedType u) := by
  have places := words.places (by simp [isName])
  have text := words.text (by simp [isName])
  have behind : c.Agree Eq
      (advance >>= fun _ => Reader.current >>= fun word => if word.kind = .period then
        advance >>= fun _ => qualifier >>= fun rest => named (t.current.text ++ rest) t.current.position
        else named t.current.text t.current.position)
      (advance >>= fun _ => Reader.current >>= fun word => if word.kind = .period then
        advance >>= fun _ => qualifier >>= fun rest => named (u.current.text ++ rest) u.current.position
        else named u.current.text u.current.position) := by
    refine bind_agree advance_agree fun _ _ _ => current_agree fun w v next => ?_
    rw [← next.kind, ← text]
    split
    · refine bind_agree advance_agree fun _ _ _ => bind_agree qualifier_agree fun rest _ same => ?_
      subst same
      exact named_agree _ places
    · exact named_agree _ places
  exact behind t u tapes

theorem arrayOf_agree (size : UInt32) (element : Option (ValueType Unit)) :
    c.Agree Eq (arrayOf size element) (arrayOf size element) := by
  refine look_agree fun t u words tapes _ => ?_
  rw [arrayOf_apply, arrayOf_apply]
  have reported := reports_map words.reports ((element.filter (·.isArray)).toList.map fun element =>
    .nestedArray (ValueType.array size element).text)
  rw [List.map_map, List.map_map] at reported
  exact .inr ⟨rfl, reported, .nil, tapes⟩

theorem pointerTo_agree (value : Option (ValueType Unit)) : c.Agree Eq (pointerTo value) (pointerTo value) := by
  refine look_agree fun t u words tapes _ => ?_
  rw [pointerTo_apply, pointerTo_apply]
  have reported := reports_map words.reports ((value.filter (·.isPointerBarrier)).toList.map fun value =>
    .pointerTarget value.text)
  rw [List.map_map, List.map_map] at reported
  exact .inr ⟨rfl, reported, .nil, tapes⟩

theorem arrayWith_agree (agree : c.Agree Eq inner more) : c.Agree Eq (arrayWith inner) (arrayWith more) := by
  refine bind_agree advance_agree fun _ _ _ => bind_agree arraySize_agree fun size _ same => ?_
  subst same
  refine bind_agree (expect_agree _) fun _ _ _ => bind_agree agree fun element _ same => ?_
  subst same
  exact arrayOf_agree size element

theorem pointerWith_agree (agree : c.Agree Eq inner more) : c.Agree Eq (pointerWith inner) (pointerWith more) := by
  refine bind_agree advance_agree fun _ _ _ => bind_agree agree fun value _ same => ?_
  subst same
  exact pointerTo_agree value

theorem mapWith_agree (agree : c.Agree Eq inner more) : c.Agree Eq (mapWith inner) (mapWith more) := by
  refine bind_agree advance_agree fun _ _ _ => bind_agree (expect_agree _) fun _ _ _ =>
    bind_agree agree fun key _ same => ?_
  subst same
  refine bind_agree (expect_agree _) fun _ _ _ => bind_agree agree fun value _ same => ?_
  subst same
  exact pure_agree rfl

theorem noType_agree (problem : Problem) : c.Agree Eq (noType problem) (noType problem) :=
  bind_agree (report_agree rfl) fun _ _ _ => bind_agree advance_agree fun _ _ _ => pure_agree rfl

theorem typeWith_agree (agree : c.Agree Eq inner more) : c.Agree Eq (typeWith inner) (typeWith more) := by
  refine look_bind_agree (typeWith_takes forwards.forward).forward fun t u words tapes => ?_
  rw [← words.kind]
  cases kind : t.current.kind with
  | openBracket => exact arrayWith_agree agree t u tapes
  | asterisk => exact pointerWith_agree agree t u tapes
  | identifier =>
    rcases namedType_agree words tapes kind with past | alike
    · exact .inl past
    · exact .inr ⟨congrArg some alike.values, by simpa [map_apply] using alike.problems,
        by simpa [map_apply] using alike.mentions, alike.tapes⟩
  | invalid error => exact noType_agree _ t u tapes
  | keyword word =>
    cases word with
    | map => exact mapWith_agree agree t u tapes
    | _ =>
      rw [← words.text (by simp [kind])]
      exact noType_agree _ t u tapes
  | _ =>
    rw [← words.text (by simp [kind])]
    exact noType_agree _ t u tapes

theorem type_agree : c.Agree Eq type type :=
  recurse_agree (I := fun _ _ => True) typeWith_carries (fun _ _ _ => rfl)
    (fun _ _ _ calls _ _ _ => typeWith_agree (calls () () trivial)) () () trivial

theorem arguments_agree : c.Agree Eq arguments arguments := by
  refine recurse_agree (I := fun _ _ => True) argumentsWith_carries (fun _ _ _ => rfl) ?_ () () trivial
  intro again more _ calls _ _ _
  apply current_agree
  intro w v words
  rw [← words.kind]
  split
  · exact pure_agree rfl
  · refine bind_agree type_agree fun argument _ same => current_agree fun w v next => ?_
    subst same
    rw [← next.kind]
    split
    · refine bind_agree advance_agree fun _ _ _ => bind_agree (calls () () trivial) fun others _ same => ?_
      subst same
      exact pure_agree rfl
    · exact pure_agree rfl

theorem result_agree : c.Agree Eq result result := by
  refine look_bind_agree result_forward fun t u words tapes => ?_
  rw [← words.kind]
  cases t.current.kind with
  | string | semicolon | closeBrace | endOfFile => exact pure_agree rfl t u tapes
  | _ => exact type_agree t u tapes

end Types

section Members
variable {α β : Type} {V : α → β → Prop}

theorem memberTail_agree (signed : Bool) {value : Int × Tags → α} {other : Int × Tags → β}
    (values : ∀ tags, V (value tags) (other tags)) : c.Agree V
      (tagString signed >>= fun tags => memberEnd >>= fun _ => Reader.pure (value tags))
      (tagString signed >>= fun tags => memberEnd >>= fun _ => Reader.pure (other tags)) := by
  refine bind_agree (tagString_agree signed) fun tags _ same => ?_
  subst same
  exact map_agree memberEnd_agree fun _ _ _ => values tags

theorem enumerator_agree {t u : Tape} (tapes : c.Tapes t u) (places : c.places t.current.position u.current.position) :
    c.Steps c.Enumerators (enumerator t) (enumerator u) := by
  have behind : c.Agree c.Enumerators
      (identifier >>= fun name => tagString true >>= fun tags => memberEnd >>= fun _ =>
        Reader.pure ⟨t.current.position, name, tags.1, tags.2⟩)
      (identifier >>= fun name => tagString true >>= fun tags => memberEnd >>= fun _ =>
        Reader.pure ⟨u.current.position, name, tags.1, tags.2⟩) := by
    refine bind_agree identifier_agree fun name _ same => ?_
    subst same
    exact memberTail_agree true fun _ => .same places
  exact behind t u tapes

theorem name_agree {t u : Tape} (words : c.Words t.current u.current) (tapes : c.Tapes t u) :
    c.Steps (fun name other => name = other ∧ (name.isEmpty = false → c.places t.current.position u.current.position))
      (identifier t) (identifier u) := by
  rcases identifier_agree t u tapes with past | alike
  · exact .inl past
  · refine .inr ⟨⟨alike.values, fun nonempty => words.places ?_⟩, alike.problems, alike.mentions, alike.tapes⟩
    intro ends
    simp [identifier_apply, ends] at nonempty

theorem type_semicolon {t : Tape} (ends : t.current.kind = .semicolon) : (type t).value = none := by
  rw [type, recurse]
  simp [typeWith, bind_apply, ends, noType_apply]

theorem field_agree : c.Agree (Option.Rel c.Fields) field field := by
  refine look_bind_agree field_takes.forward fun t u words tapes => ?_
  refine bind_steps (name_agree words tapes) fun name _ related => ?_
  obtain ⟨rfl, places⟩ := related
  refine bind_agree type_agree fun type _ same => ?_
  subst same
  refine memberTail_agree false fun tags => ?_
  cases type with
  | none => exact .none
  | some type =>
    cases empty : name.isEmpty with
    | true => exact .none
    | false => simpa [empty] using Option.Rel.some (Fields.same (places empty))

theorem branch_agree : c.Agree (Option.Rel c.Branches) branch branch := by
  refine look_bind_agree branch_takes.forward fun t u words tapes => ?_
  have typed : c.Steps (fun type other => type = other ∧ (type.isSome → c.places t.current.position u.current.position))
      (type t) (type u) := by
    rcases type_agree t u tapes with past | alike
    · exact .inl past
    · refine .inr ⟨⟨alike.values, fun some => words.places ?_⟩, alike.problems, alike.mentions, alike.tapes⟩
      intro ends
      simp [type_semicolon ends] at some
  refine bind_steps typed fun type _ related => ?_
  obtain ⟨rfl, places⟩ := related
  refine memberTail_agree false fun tags => ?_
  cases type with
  | none => exact .none
  | some type => exact .some (.same (places rfl))

theorem method_agree : c.Agree (Option.Rel c.Methods) method method := by
  refine look_bind_agree method_takes.forward fun t u words tapes => ?_
  refine bind_steps (name_agree words tapes) fun name _ related => ?_
  obtain ⟨rfl, places⟩ := related
  refine bind_agree (expect_agree _) fun _ _ _ => bind_agree arguments_agree fun arguments _ same => ?_
  subst same
  refine bind_agree (expect_agree _) fun _ _ _ => bind_agree result_agree fun result _ same => ?_
  subst same
  refine memberTail_agree false fun tags => ?_
  cases empty : name.isEmpty with
  | true => exact .none
  | false => simpa [empty] using Option.Rel.some (Methods.same (places empty) words.docs)

theorem enumerators_agree : c.Agree (List.Forall₂ c.Enumerators)
    (many (fun kind => decide (kind = .identifier)) enumerator)
    (many (fun kind => decide (kind = .identifier)) enumerator) := by
  refine many_steps fun t u words tapes isName => enumerator_agree tapes (words.places ?_)
  simp [of_decide_eq_true isName]

theorem filterMap_rel {as : List (Option α)} {bs : List (Option β)} (related : List.Forall₂ (Option.Rel V) as bs) :
    List.Forall₂ V (as.filterMap id) (bs.filterMap id) := by
  induction related with
  | nil => exact .nil
  | cons first _ ih =>
    cases first with
    | none => exact ih
    | some same => exact .cons same ih

theorem members_agree {member : Reader (Option α)} {other : Reader (Option β)} [member.Forwards]
    (agree : c.Agree (Option.Rel V) member other) : c.Agree (List.Forall₂ V) (members member) (members other) :=
  map_agree (many_agree agree) fun _ _ related => filterMap_rel related

end Members
end Comparison

-- A declaration without the terminator behind it, which is all that its value comes from.
section Unterminated

def unterminatedBlock {α : Type} (word : Keyword) (members : Reader α) : Reader (String × α) := do
  expect (.keyword word)
  let name ← identifier
  expect .openBrace
  let found ← members
  expect .closeBrace
  pure (name, found)

def unterminated : Reader (Option (Declaration Unit)) := do
  let first ← .current
  match first.kind with
  | .keyword .const =>
    expect (.keyword .const)
    let name ← identifier
    expect .assign
    let found ← literal
    pure ((found.bind fun (type, value) =>
      if name.isEmpty then none else some ⟨first.position, first.doc, name, type, value⟩).map .const)
  | .keyword .enumeration =>
    let found ← unterminatedBlock .enumeration (.many (· = .identifier) enumerator)
    pure (some (.enumeration ⟨first.position, first.doc, found.1, found.2⟩))
  | .keyword .struct =>
    let found ← unterminatedBlock .struct (members field)
    pure (some (.struct ⟨first.position, first.doc, found.1, found.2⟩))
  | .keyword .union =>
    let found ← unterminatedBlock .union (members branch)
    pure (some (.union ⟨first.position, first.doc, found.1, found.2⟩))
  | .keyword .service =>
    let found ← unterminatedBlock .service (members method)
    pure (some (.service ⟨first.position, first.doc, found.1, found.2⟩))
  | _ => pure none

theorem item_unterminated {t : Tape} (declares : (declared? t.current.kind).isSome) :
    item t = (unterminated >>= fun d => expect .semicolon >>= fun _ => Reader.pure d) t := by
  cases kind : t.current.kind with
  | keyword word =>
    cases word with
    | const =>
      simp only [item, unterminated, constant, bind_apply, current_apply, kind, pure_eq, pure_apply,
        List.append_assoc, List.append_nil, List.nil_append]
    | enumeration | struct | union | service =>
      simp [item, unterminated, enumeration, struct, union, service, block, unterminatedBlock, bind_apply, kind,
        List.append_assoc]
    | package | importing | map => simp [kind, declared?] at declares
  | _ => simp [kind, declared?] at declares

instance {α : Type} (word : Keyword) (members : Reader α) [members.Forwards] :
    (unterminatedBlock word members).Forwards :=
  inferInstanceAs (Reader.Forwards (expect _ >>= fun _ => identifier >>= fun name => expect _ >>= fun _ =>
    members >>= fun found => expect _ >>= fun _ => Reader.pure (name, found)))

instance : unterminated.Forwards := by
  refine ⟨bind_forward current_forward fun word => ?_⟩
  cases word.kind with
  | keyword word => cases word <;> exact Reader.Forwards.forward
  | _ => exact Reader.Forwards.forward

end Unterminated

namespace Comparison
variable {c : Comparison} {α β : Type} {V : α → β → Prop}

theorem unterminatedBlock_agree {word : Keyword} {members : Reader α} {other : Reader β} [members.Forwards]
    (agree : c.Agree V members other) :
    c.Agree (fun a b => a.1 = b.1 ∧ V a.2 b.2) (unterminatedBlock word members) (unterminatedBlock word other) := by
  refine bind_agree (expect_agree _) fun _ _ _ => bind_agree identifier_agree fun name _ same => ?_
  subst same
  refine bind_agree (expect_agree _) fun _ _ _ => bind_agree agree fun found more related => ?_
  exact map_agree (expect_agree _) fun _ _ _ => ⟨rfl, related⟩

theorem unterminated_agree : c.Agree (Option.Rel c.Declarations) unterminated unterminated := by
  refine look_bind_agree (Reader.Forwards.forward (r := unterminated)) fun t u words tapes => ?_
  rw [← words.kind]
  cases kind : t.current.kind with
  | keyword word =>
    have places := words.places (by simp [kind])
    cases word with
    | const =>
      refine bind_agree (expect_agree _) (fun _ _ _ => bind_agree identifier_agree fun name _ same => ?_) t u tapes
      subst same
      refine bind_agree (expect_agree _) fun _ _ _ => map_agree literal_agree fun found _ same => ?_
      subst same
      cases found with
      | none => exact .none
      | some found =>
        cases empty : name.isEmpty with
        | true => exact .none
        | false => simpa [empty] using Option.Rel.some (Declarations.const places words.docs)
    | enumeration =>
      refine map_agree (unterminatedBlock_agree enumerators_agree) (fun a b related => ?_) t u tapes
      rw [related.1]
      exact .some (.enumeration places words.docs related.2)
    | struct =>
      refine map_agree (unterminatedBlock_agree (members_agree field_agree)) (fun a b related => ?_) t u tapes
      rw [related.1]
      exact .some (.struct places words.docs related.2)
    | union =>
      refine map_agree (unterminatedBlock_agree (members_agree branch_agree)) (fun a b related => ?_) t u tapes
      rw [related.1]
      exact .some (.union places words.docs related.2)
    | service =>
      refine map_agree (unterminatedBlock_agree (members_agree method_agree)) (fun a b related => ?_) t u tapes
      rw [related.1]
      exact .some (.service places words.docs related.2)
    | package | importing | map => exact pure_agree .none t u tapes
  | _ => exact pure_agree .none t u tapes

end Comparison
end WireSchema.Grammar

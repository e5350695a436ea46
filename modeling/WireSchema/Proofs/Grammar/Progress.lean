import WireSchema.Proofs.Grammar.Forward

-- What each reader of the grammar takes: the small ones exactly, the others at least one token wherever
-- they are repeated, so that every loop of the grammar is the loop it looks like.
namespace WireSchema.Grammar
open Reader

theorem expect_apply (kind : TokenKind) (t : Tape) :
    expect kind t = ⟨(), if t.current.kind = kind then [] else [⟨t.current.position, mismatch t.current kind⟩],
      [], t.advance⟩ := by
  by_cases same : t.current.kind = kind <;> simp [expect, bind_apply, same]

theorem identifier_apply (t : Tape) :
    identifier t = ⟨if t.current.kind = .identifier then t.current.text else "",
      if t.current.kind = .identifier then []
        else [⟨t.current.position, mismatch t.current .identifier⟩], [], t.advance⟩ := by
  by_cases same : t.current.kind = .identifier <;> simp [identifier, bind_apply, same, expect_apply]

theorem memberEnd_apply (t : Tape) :
    memberEnd t = ⟨(), [], [], if t.current.kind = .semicolon then t.advance else t⟩ := by
  by_cases same : t.current.kind = .semicolon <;> simp [memberEnd, bind_apply, same]

theorem arraySize_apply (t : Tape) :
    arraySize t = if t.current.kind = .integer then
      ⟨(arraySize? t.current.text).getD 0,
        if (arraySize? t.current.text).isNone then [⟨t.current.position, .arraySize t.current.text⟩] else [],
        [], t.advance⟩
    else ⟨0, [], [], t⟩ := by
  by_cases same : t.current.kind = .integer
  · cases size : arraySize? t.current.text <;> simp [arraySize, bind_apply, same, size]
  · simp [arraySize, bind_apply, same]

theorem qualifier_apply (t : Tape) :
    qualifier t = ⟨if t.current.kind = .identifier then "." ++ t.current.text else "",
      if t.current.kind = .identifier then []
        else [⟨t.current.position, mismatch t.current .identifier⟩], [], t.advance⟩ := by
  by_cases same : t.current.kind = .identifier <;> simp [qualifier, bind_apply, same, expect_apply]

theorem tagString_apply (signed : Bool) (t : Tape) :
    tagString signed t =
      if t.current.kind = .string then
        ⟨((TagString.read signed t.current.text).ordinal, (TagString.read signed t.current.text).tags),
          (TagString.read signed t.current.text).problems.map (⟨t.current.position, ·⟩), [], t.advance⟩
      else if t.current.kind = .semicolon then
        ⟨(0, ∅), [⟨t.current.position, .missingTagString⟩], [], t⟩
      else ⟨(0, ∅), [⟨t.current.position, mismatch t.current .string⟩], [], t.advance⟩ := by
  cases kind : t.current.kind <;> simp [tagString, bind_apply, kind, forM_report, expect_apply]

theorem expect_takes (kind : TokenKind) : (expect kind).Takes := fun t => by
  rw [expect_apply]
  exact .refl t.advance

theorem expect_forward (kind : TokenKind) : (expect kind).Forward := (expect_takes kind).forward

theorem identifier_takes : identifier.Takes := fun t => by
  rw [identifier_apply]
  exact .refl t.advance

theorem memberEnd_forward : memberEnd.Forward := fun t => by
  rw [memberEnd_apply]
  dsimp only
  split
  · exact t.leads_advance
  · exact .refl t

theorem arraySize_forward : arraySize.Forward := fun t => by
  rw [arraySize_apply]
  split
  · exact t.leads_advance
  · exact .refl t

theorem qualifier_takes : qualifier.Takes := fun t => by
  rw [qualifier_apply]
  exact .refl t.advance

theorem tagString_forward (signed : Bool) : (tagString signed).Forward := fun t => by
  rw [tagString_apply]
  split
  · exact t.leads_advance
  · split
    · exact .refl t
    · exact t.leads_advance

theorem named_forward (name : String) (position : Position) : (named name position).Forward := by
  unfold named
  split
  · exact pure_forward _
  · exact bind_forward (mention_forward _ _) fun _ => pure_forward _

theorem namedType_takes : namedType.Takes := by
  refine current_bind_takes fun first => bind_takes advance_takes fun _ => bind_forward current_forward fun word => ?_
  split
  · exact bind_forward advance_forward fun _ => bind_forward qualifier_takes.forward fun _ => named_forward _ _
  · exact named_forward _ _

theorem arrayOf_apply (size : UInt32) (element : Option (ValueType Unit)) (t : Tape) :
    arrayOf size element t = ⟨element.map (.array size ·), (element.filter (·.isArray)).toList.map fun element =>
      ⟨t.current.position, .nestedArray (ValueType.array size element).text⟩, [], t⟩ := by
  cases element with
  | none => rfl
  | some element => cases nested : element.isArray <;> simp [arrayOf, bind_apply, nested, Option.filter]

theorem pointerTo_apply (value : Option (ValueType Unit)) (t : Tape) :
    pointerTo value t = ⟨value.map .pointer, (value.filter (·.isPointerBarrier)).toList.map fun value =>
      ⟨t.current.position, .pointerTarget value.text⟩, [], t⟩ := by
  cases value with
  | none => rfl
  | some value => cases barrier : value.isPointerBarrier <;> simp [pointerTo, bind_apply, barrier, Option.filter]

theorem noType_apply (problem : Problem) (t : Tape) :
    noType problem t = ⟨none, [⟨t.current.position, problem⟩], [], t.advance⟩ := rfl

section
variable {inner : Reader (Option (ValueType Unit))}

theorem arrayWith_takes (forward : inner.Forward) : (arrayWith inner).Takes :=
  bind_takes advance_takes fun _ => bind_forward arraySize_forward fun _ =>
    bind_forward (expect_forward _) fun _ => bind_forward forward fun _ => fun t => by
      rw [arrayOf_apply]
      exact .refl t

theorem pointerWith_takes (forward : inner.Forward) : (pointerWith inner).Takes :=
  bind_takes advance_takes fun _ => bind_forward forward fun _ => fun t => by
    rw [pointerTo_apply]
    exact .refl t

theorem mapWith_takes (forward : inner.Forward) : (mapWith inner).Takes :=
  bind_takes advance_takes fun _ => bind_forward (expect_forward _) fun _ => bind_forward forward fun _ =>
    bind_forward (expect_forward _) fun _ => bind_forward forward fun _ => pure_forward _

theorem noType_takes (problem : Problem) : (noType problem).Takes := fun t => .refl t.advance

theorem typeWith_takes (forward : inner.Forward) : (typeWith inner).Takes := by
  refine current_bind_takes fun word => ?_
  split
  · exact arrayWith_takes forward
  · exact pointerWith_takes forward
  · exact mapWith_takes forward
  · exact map_takes _ namedType_takes
  · exact noType_takes _
  · exact noType_takes _

end

theorem typeWith_carries :
    Carries fun (inner : Unit → Reader (Option (ValueType Unit))) _ => typeWith (inner ()) :=
  fun _ calls _ => (typeWith_takes (calls ())).forward

theorem type_takes : type.Takes := recurse_takes typeWith_carries fun _ calls => typeWith_takes (calls ())

theorem type_forward : type.Forward := type_takes.forward

section
variable {f g : Reader (Option (ValueType Unit))} {t : Tape}

theorem arrayWith_agree (shorter : t.advance.left < t.left) (same : ∀ later, later.left < t.left → f later = g later) :
    arrayWith f t = arrayWith g t := by
  have size := (arraySize_forward t.advance).left_le
  have close := (expect_forward .closeBracket (arraySize t.advance).tape).left_le
  have element := same (expect .closeBracket (arraySize t.advance).tape).tape (by omega)
  simp only [arrayWith, bind_apply, advance_apply, element]

theorem pointerWith_agree (shorter : t.advance.left < t.left) (same : ∀ later, later.left < t.left → f later = g later) :
    pointerWith f t = pointerWith g t := by
  simp only [pointerWith, bind_apply, advance_apply, same t.advance shorter]

theorem mapWith_agree (shorter : t.advance.left < t.left) (forward : g.Forward)
    (same : ∀ later, later.left < t.left → f later = g later) : mapWith f t = mapWith g t := by
  have bracket := (expect_forward .openBracket t.advance).left_le
  have key := same (expect .openBracket t.advance).tape (by omega)
  have inner := (forward (expect .openBracket t.advance).tape).left_le
  have close := (expect_forward .closeBracket (g (expect .openBracket t.advance).tape).tape).left_le
  have value := same (expect .closeBracket (g (expect .openBracket t.advance).tape).tape).tape (by omega)
  simp only [mapWith, bind_apply, advance_apply, key, value]

end

theorem typeWith_behind {f g : Reader (Option (ValueType Unit))} {t : Tape} (proper : t.Proper) (forward : g.Forward)
    (same : ∀ later, later.left < t.left → f later = g later) : typeWith f t = typeWith g t := by
  cases kind : t.current.kind with
  | openBracket =>
    simpa only [typeWith, bind_apply, current_apply, kind, List.nil_append] using
      arrayWith_agree (proper.advance_left (by rw [kind]; simp)) same
  | asterisk =>
    simpa only [typeWith, bind_apply, current_apply, kind, List.nil_append] using
      pointerWith_agree (proper.advance_left (by rw [kind]; simp)) same
  | keyword word =>
    cases word with
    | map =>
      simpa only [typeWith, bind_apply, current_apply, kind, List.nil_append] using
        mapWith_agree (proper.advance_left (by rw [kind]; simp)) forward same
    | _ => simp only [typeWith, bind_apply, current_apply, kind]
  | _ => simp only [typeWith, bind_apply, current_apply, kind]

theorem type_eq {t : Tape} (proper : t.Proper) : type t = typeWith type t :=
  recurse_eq typeWith_carries fun _ _ _ forward same => typeWith_behind proper (forward ()) (same ())

end WireSchema.Grammar

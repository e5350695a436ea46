import WireSchema.Proofs.Permuted.Bare

-- The rules for the members of a declaration look at what it says and at the kinds of what it refers to, and at
-- nothing else.
namespace WireSchema

namespace Coherent
variable {α β γ : Type} {right : α → Prop} {agree : α → α → Prop} {rightToo : β → Prop} {agreeToo : β → β → Prop}
  {f : α → γ} {g : β → γ} {xs : List α} {ys : List β}

theorem carry (coherent : Coherent right agree xs) (same : xs.map f = ys.map g)
    (rights : ∀ x y, f x = g y → right x → rightToo y)
    (agrees : ∀ x y, f x = g y → ∀ x' y', f x' = g y' → agree x x' → agreeToo y y') :
    Coherent rightToo agreeToo ys := by
  induction xs generalizing ys with
  | nil =>
    obtain rfl : ys = [] := List.map_eq_nil_iff.mp same.symm
    exact ⟨by simp, .nil⟩
  | cons x xs ih =>
    obtain ⟨y, ys, rfl, first, rest⟩ := List.map_eq_cons_iff.mp same.symm
    obtain ⟨isRight, each⟩ := List.forall_mem_cons.mp coherent.each
    obtain ⟨ofFirst, pairs⟩ := List.pairwise_cons.mp coherent.pairs
    obtain ⟨eachToo, pairsToo⟩ := ih ⟨each, pairs⟩ rest.symm
    refine ⟨List.forall_mem_cons.mpr ⟨rights x y first.symm isRight, eachToo⟩, List.pairwise_cons.mpr ⟨?_, pairsToo⟩⟩
    intro later behind
    have image : g later ∈ xs.map f := rest ▸ List.mem_map_of_mem behind
    obtain ⟨before, inFront, looks⟩ := List.mem_map.mp image
    exact agrees x y first.symm before later looks (ofFirst before inFront)

end Coherent

namespace ValueType
variable {kind? more? : Reference SymbolId → Option DeclarationKind} {type other : ValueType SymbolId}

theorem isA_alike (same : type.withSymbols kind? = other.withSymbols more?) (kind : DeclarationKind) :
    type.isA kind? kind = other.isA more? kind := by
  cases type <;> cases other <;> simp_all [withSymbols, isA]

theorem isNumber_alike (same : type.withSymbols kind? = other.withSymbols more?) : type.isNumber = other.isNumber := by
  cases type <;> cases other <;> simp_all [withSymbols, isNumber]

theorem wireName_alike (same : type.withSymbols kind? = other.withSymbols more?) : type.wireName = other.wireName := by
  cases type <;> cases other <;> simp_all [withSymbols, wireName]

theorem isNumeric_alike (same : type.withSymbols kind? = other.withSymbols more?) :
    type.isNumeric kind? = other.isNumeric more? := by
  cases type <;> cases other <;> simp_all [withSymbols, isNumeric, isA]

theorem isBarred_alike (same : type.withSymbols kind? = other.withSymbols more?) :
    type.isBarred kind? = other.isBarred more? := by
  cases type <;> cases other <;> simp_all [withSymbols, isBarred, isA]

end ValueType

theorem Branch.Agrees.alike {kind? more? : Reference SymbolId → Option DeclarationKind}
    {before b beforeToo c : Branch SymbolId} (agrees : before.Agrees kind? b)
    (inFront : (before.withSymbols kind?).bare = (beforeToo.withSymbols more?).bare)
    (same : (b.withSymbols kind?).bare = (c.withSymbols more?).bare) : beforeToo.Agrees more? c := by
  have first : before.type.withSymbols kind? = beforeToo.type.withSymbols more? := congrArg Branch.type inFront
  have second : b.type.withSymbols kind? = c.type.withSymbols more? := congrArg Branch.type same
  have ordinals : Ordinal.Agrees (before.withSymbols kind?).bare.ordinal (b.withSymbols kind?).bare.ordinal :=
    agrees.ordinals
  refine ⟨?_, ?_, ?_⟩
  · rw [← ValueType.isNumeric_alike first, ← ValueType.isNumeric_alike second]
    exact agrees.numeric
  · rw [← ValueType.isNumber_alike second, ← ValueType.wireName_alike first, ← ValueType.wireName_alike second]
    exact agrees.wireNames
  · rw [inFront, same] at ordinals
    exact ordinals

theorem Method.types_withSymbols {σ τ : Type} (symbol : Reference σ → τ) (m : Method σ) :
    (m.withSymbols symbol).bare.types = m.types.map (·.withSymbols symbol) := by
  simp [types, withSymbols, bare, Option.toList_map]

theorem Distinct.alike {α β γ : Type} (f : α → γ) (g : β → γ) (name : γ → String) (ordinal : γ → Int) {x x' : α}
    {y y' : β} (inFront : f x = g y) (same : f x' = g y')
    (distinct : Distinct (fun x => name (f x)) (fun x => ordinal (f x)) x x') :
    Distinct (fun y => name (g y)) (fun y => ordinal (g y)) y y' := by
  obtain ⟨names, ordinals⟩ := distinct
  rw [inFront, same] at names ordinals
  exact ⟨names, ordinals⟩

namespace Validity
variable {file other : SourceFile}

theorem enumerators_alike {name nameToo : String} {es others : List Enumerator}
    (same : es.map Enumerator.bare = others.map Enumerator.bare) (clean : enumerators name [] es = []) :
    enumerators nameToo [] others = [] := by
  refine enumerators_iff.mpr ((enumerators_iff.mp clean).carry same (fun _ _ _ _ => trivial) ?_)
  intro x y first x' y' second names again
  exact names ((congrArg Enumerator.name first).trans (again.trans (congrArg Enumerator.name second).symm))

theorem fields_alike {struct structToo : String} {fs others : List (Field SymbolId)}
    (same : fs.map (fun f => (f.withSymbols (file.kind? ·)).bare) =
      others.map (fun f => (f.withSymbols (other.kind? ·)).bare))
    (clean : fields file struct .start fs = []) : fields other structToo .start others = [] := by
  refine fields_iff.mpr ((fields_iff.mp clean).carry same ?_ ?_)
  · intro x y looks allowed
    rw [← ValueType.isA_alike (congrArg Field.type looks)]
    exact allowed
  · intro x y first x' y' second distinct
    exact distinct.alike (fun x => (Field.withSymbols (file.kind? ·) x).bare)
      (fun y => (Field.withSymbols (other.kind? ·) y).bare) Field.name Field.ordinal first second

theorem branches_alike {union unionToo : String} {bs others : List (Branch SymbolId)}
    (same : bs.map (fun b => (b.withSymbols (file.kind? ·)).bare) =
      others.map (fun b => (b.withSymbols (other.kind? ·)).bare))
    (clean : branches file union ⟨false, [], []⟩ bs = []) : branches other unionToo ⟨false, [], []⟩ others = [] := by
  refine branches_iff.mpr ((branches_iff.mp clean).carry same ?_ ?_)
  · intro x y looks allowed
    rw [← ValueType.isBarred_alike (congrArg Branch.type looks)]
    exact allowed
  · intro x y first x' y' second agrees
    exact agrees.alike first second

theorem methods_alike {service serviceToo : String} {ms others : List (Method SymbolId)}
    (same : ms.map (fun m => (m.withSymbols (file.kind? ·)).bare) =
      others.map (fun m => (m.withSymbols (other.kind? ·)).bare))
    (clean : methods file service .start ms = []) : methods other serviceToo .start others = [] := by
  refine methods_iff.mpr ((methods_iff.mp clean).carry same ?_ ?_)
  · intro x y looks allowed type member
    have types := congrArg Method.types looks
    simp only [Method.types_withSymbols] at types
    have image := types ▸ List.mem_map_of_mem member
    obtain ⟨before, inside, sameType⟩ := List.mem_map.mp image
    rw [← ValueType.isA_alike sameType]
    exact allowed before inside
  · intro x y first x' y' second distinct
    exact distinct.alike (fun x => (Method.withSymbols (file.kind? ·) x).bare)
      (fun y => (Method.withSymbols (other.kind? ·) y).bare) Method.name Method.ordinal first second

theorem declaration_alike {d e : Declaration SymbolId}
    (same : (d.withSymbols (file.kind? ·)).bare = (e.withSymbols (other.kind? ·)).bare)
    (clean : declaration file ∅ d = []) : declaration other ∅ e = [] := by
  cases d with
  | const c =>
    cases e with
    | const => rfl
    | _ => cases same
  | enumeration f =>
    cases e with
    | enumeration g =>
      simp only [Declaration.withSymbols, Declaration.bare, Declaration.enumeration.injEq, Enumeration.mk.injEq,
        true_and] at same
      exact enumerators_alike same.2 clean
    | _ => cases same
  | struct s =>
    cases e with
    | struct t =>
      simp only [Declaration.withSymbols, Declaration.bare, Declaration.struct.injEq, Struct.mk.injEq, List.map_map,
        true_and] at same
      exact fields_alike same.2 clean
    | _ => cases same
  | union u =>
    cases e with
    | union v =>
      obtain ⟨inhabited, branches⟩ := union_parts.mp clean
      simp only [Declaration.withSymbols, Declaration.bare, Declaration.union.injEq, Union.mk.injEq, List.map_map,
        true_and] at same
      refine union_parts.mpr ⟨?_, branches_alike same.2 branches⟩
      intro none
      rw [none, List.map_nil, List.map_eq_nil_iff] at same
      exact inhabited same.2
    | _ => cases same
  | service s =>
    cases e with
    | service t =>
      simp only [Declaration.withSymbols, Declaration.bare, Declaration.service.injEq, Service.mk.injEq, List.map_map,
        true_and] at same
      exact methods_alike same.2 clean
    | _ => cases same

end Validity
end WireSchema

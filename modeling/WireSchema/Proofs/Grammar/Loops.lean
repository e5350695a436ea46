import WireSchema.Proofs.Grammar.Progress

-- The readers that are repeated, and the loops around them. Every round of a loop takes a token, so a loop
-- ends by its own condition and nowhere else.
namespace WireSchema.Grammar
open Reader hiding pure

theorem enumerator_takes : enumerator.Takes :=
  current_bind_takes fun _ => bind_takes identifier_takes fun _ =>
    bind_forward (tagString_forward true) fun _ => bind_forward memberEnd_forward fun _ => pure_forward _

theorem field_takes : field.Takes :=
  current_bind_takes fun _ => bind_takes identifier_takes fun _ => bind_forward type_forward fun _ =>
    bind_forward (tagString_forward false) fun _ => bind_forward memberEnd_forward fun _ => pure_forward _

theorem branch_takes : branch.Takes :=
  current_bind_takes fun _ => bind_takes type_takes fun _ =>
    bind_forward (tagString_forward false) fun _ => bind_forward memberEnd_forward fun _ => pure_forward _

theorem result_forward : result.Forward := by
  refine bind_forward current_forward fun word => ?_
  split
  · exact pure_forward _
  · exact pure_forward _
  · exact pure_forward _
  · exact pure_forward _
  · exact type_forward

theorem argumentsWith_carries :
    Carries fun (again : Unit → Reader (List (ValueType Unit))) _ => argumentsWith (again ()) := by
  intro again calls i
  refine bind_forward current_forward fun word => ?_
  split
  · exact pure_forward _
  · refine bind_forward type_forward fun argument => bind_forward current_forward fun next => ?_
    split
    · exact bind_forward advance_forward fun _ => bind_forward (calls ()) fun more => pure_forward _
    · exact pure_forward _

theorem arguments_forward : arguments.Forward := recurse_forward argumentsWith_carries ()

theorem arguments_eq {t : Tape} (proper : t.Proper) : arguments t = argumentsWith arguments t := by
  refine recurse_eq argumentsWith_carries fun f g _ _ same => ?_
  cases last : isArgumentsEnd t.current.kind with
  | true => simp [argumentsWith, bind_apply, last]
  | false =>
    by_cases comma : (type t).tape.current.kind = .comma
    · have leads := type_forward t
      have shorter := (proper.leads leads).advance_left (by rw [comma]; simp)
      have more := same () (type t).tape.advance (Nat.lt_of_lt_of_le shorter leads.left_le)
      simp [argumentsWith, bind_apply, last, comma, more]
    · simp [argumentsWith, bind_apply, last, comma]

theorem method_takes : method.Takes :=
  current_bind_takes fun _ => bind_takes identifier_takes fun _ =>
    bind_forward (expect_forward _) fun _ => bind_forward arguments_forward fun _ =>
    bind_forward (expect_forward _) fun _ => bind_forward result_forward fun _ =>
    bind_forward (tagString_forward false) fun _ => bind_forward memberEnd_forward fun _ => pure_forward _

theorem members_forward {α : Type} {member : Reader (Option α)} (takes : member.Takes) :
    (members member).Forward := bind_forward (many_forward _ takes.forward) fun _ => pure_forward _

theorem block_takes {α : Type} {word : Keyword} {members : Reader α} (forward : members.Forward) :
    (block word members).Takes :=
  bind_takes (expect_takes _) fun _ => bind_forward identifier_takes.forward fun _ =>
    bind_forward (expect_forward _) fun _ => bind_forward forward fun _ =>
    bind_forward (expect_forward _) fun _ => bind_forward (expect_forward _) fun _ => pure_forward _

theorem enumeration_takes : enumeration.Takes :=
  current_bind_takes fun _ => bind_takes (block_takes (many_forward _ enumerator_takes.forward))
    fun _ => pure_forward _

theorem struct_takes : struct.Takes :=
  current_bind_takes fun _ => bind_takes (block_takes (members_forward field_takes)) fun _ => pure_forward _

theorem union_takes : union.Takes :=
  current_bind_takes fun _ => bind_takes (block_takes (members_forward branch_takes)) fun _ => pure_forward _

theorem service_takes : service.Takes :=
  current_bind_takes fun _ => bind_takes (block_takes (members_forward method_takes)) fun _ => pure_forward _

theorem literal_apply (t : Tape) :
    literal t = match literal? t.current with
      | .ok found => ⟨some found, [], [], t.advance⟩
      | .error problem => ⟨none, [⟨t.current.position, problem⟩], [], t.advance⟩ := by
  cases found : literal? t.current <;> simp [literal, bind_apply, found]

theorem literal_forward : literal.Forward := fun t => by
  rw [literal_apply]
  cases literal? t.current <;> exact t.leads_advance

theorem constant_takes : constant.Takes :=
  current_bind_takes fun _ => bind_takes (expect_takes _) fun _ =>
    bind_forward identifier_takes.forward fun _ => bind_forward (expect_forward _) fun _ =>
    bind_forward literal_forward fun _ => bind_forward (expect_forward _) fun _ => pure_forward _

theorem skipWords_suffix (level : Int) (words : List Documented) : skipWords level words <:+ words := by
  fun_induction skipWords level words with
  | case1 | case2 | case3 => exact List.suffix_refl _
  | case4 | case5 | case6 | case7 => rename_i ih; exact ih.trans (List.suffix_cons _ _)

theorem skipStatement_takes : skipStatement.Takes := fun t => ⟨skipWords_suffix 0 t.ahead.tail, rfl⟩

theorem item_takes : item.Takes := by
  refine current_bind_takes fun word => ?_
  split
  · exact bind_takes constant_takes fun _ => pure_forward _
  · exact bind_takes enumeration_takes fun _ => pure_forward _
  · exact bind_takes struct_takes fun _ => pure_forward _
  · exact bind_takes union_takes fun _ => pure_forward _
  · exact bind_takes service_takes fun _ => pure_forward _
  · exact bind_takes advance_takes fun _ => pure_forward _
  · exact report_bind_takes (bind_takes advance_takes fun _ => pure_forward _)
  · exact report_bind_takes (bind_takes skipStatement_takes fun _ => pure_forward _)
  · exact report_bind_takes (bind_takes advance_takes fun _ => pure_forward _)

theorem packageClause_forward : packageClause.Forward := by
  refine bind_forward current_forward fun first => bind_forward (expect_forward _) fun _ => ?_
  split
  · exact pure_forward _
  · refine bind_forward identifier_takes.forward fun name => bind_forward current_forward fun word => ?_
    split
    · exact bind_forward (expect_forward _) fun _ => pure_forward _
    · exact pure_forward _

theorem givenName_apply (t : Tape) :
    givenName t = if t.current.kind = .identifier then ⟨t.current.text, [], [], t.advance⟩ else ⟨"", [], [], t⟩ := by
  by_cases given : t.current.kind = .identifier <;> simp [givenName, bind_apply, given]

theorem importPath_apply (t : Tape) :
    importPath t = ⟨if t.current.kind = .string then .ofList (literalContent t.current.text) else "",
      if t.current.kind = .string then [] else [⟨t.current.position, mismatch t.current .string⟩],
      [], t.advance⟩ := by
  by_cases path : t.current.kind = .string <;> simp [importPath, bind_apply, path, expect_apply]

theorem addImport_apply (imports : Dictionary String Import) (clause : Import) (t : Tape) :
    addImport imports clause t = match importProblem? imports clause with
      | some problem => ⟨imports, [⟨clause.position, problem⟩], [], t⟩
      | none => ⟨imports.insert clause.name clause, [], [], t⟩ := by
  cases found : importProblem? imports clause <;> simp [addImport, bind_apply, found]

theorem importClause_apply (imports : Dictionary String Import) (t : Tape) : importClause imports t =
    (advance >>= fun _ => givenName >>= fun given => importPath >>= fun path =>
      addImport imports ⟨t.current.position, path, if given.isEmpty then importName path else given⟩ >>= fun known =>
      expect .semicolon >>= fun _ => Reader.pure known) t := by
  rw [importClause, bind_apply]
  simp only [current_apply, List.nil_append, pure_eq]

theorem givenName_forward : givenName.Forward := fun t => by
  rw [givenName_apply]
  split
  · exact t.leads_advance
  · exact .refl t

theorem importPath_forward : importPath.Forward := fun t => by
  rw [importPath_apply]
  exact t.leads_advance

theorem addImport_forward (imports : Dictionary String Import) (clause : Import) :
    (addImport imports clause).Forward := fun t => by
  rw [addImport_apply]
  cases importProblem? imports clause <;> exact .refl t

theorem importClause_takes (imports : Dictionary String Import) : (importClause imports).Takes :=
  current_bind_takes fun _ => bind_takes advance_takes fun _ => bind_forward givenName_forward fun _ =>
    bind_forward importPath_forward fun _ => bind_forward (addImport_forward _ _) fun _ =>
    bind_forward (expect_forward _) fun _ => pure_forward _

theorem importClauses_carries :
    Carries fun (again : Dictionary String Import → Reader (Dictionary String Import)) imports => (do
      if (← Reader.current).kind = .keyword .importing then
        let more ← importClause imports
        again more
      else pure imports : Reader (Dictionary String Import)) := by
  intro again calls imports
  refine bind_forward current_forward fun word => ?_
  split
  · exact bind_forward (importClause_takes imports).forward fun more => calls more
  · exact pure_forward _

theorem importClauses_forward (imports : Dictionary String Import) : (importClauses imports).Forward :=
  recurse_forward importClauses_carries imports

theorem importClauses_stops (imports : Dictionary String Import) {t : Tape}
    (stops : t.current.kind ≠ .keyword .importing) : importClauses imports t = ⟨imports, [], [], t⟩ := by
  rw [importClauses, recurse_eq importClauses_carries]
  · simp [bind_apply, stops]
  · intro f g _ _ _
    simp [bind_apply, stops]

theorem importClauses_goes (imports : Dictionary String Import) {t : Tape} (proper : t.Proper)
    (goes : t.current.kind = .keyword .importing) :
    importClauses imports t = (importClause imports >>= importClauses) t := by
  have shorter := (importClause_takes imports).shorter proper (by rw [goes]; simp)
  rw [importClauses, recurse_eq importClauses_carries]
  · simp [bind_apply, goes]
  · intro f g _ _ same
    simp [bind_apply, goes, same _ _ shorter]

theorem outline_reached {t : Tape} (proper : t.Proper) :
    ∀ step ∈ (outline t).items, ∃ later, t.Leads later ∧ step = item later := by
  intro step member
  have leads : t.Leads _ :=
    (bind_forward packageClause_forward fun _ => bind_forward (importClauses_forward ∅) fun _ => pure_forward ()) t
  obtain ⟨later, behind, _, read⟩ := many_reached item_takes.kept rfl (proper.leads leads) step member
  exact ⟨later, leads.trans behind, read⟩

theorem outline_each {holds : Step (Option (Declaration Unit)) → Prop} {t : Tape} (proper : t.Proper)
    (each : ∀ {t : Tape}, t.Proper → holds (item t)) : ∀ step ∈ (outline t).items, holds step := by
  intro step member
  obtain ⟨later, leads, rfl⟩ := outline_reached proper step member
  exact each (proper.leads leads)

end WireSchema.Grammar

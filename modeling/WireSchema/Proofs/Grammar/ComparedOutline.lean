import WireSchema.Proofs.Grammar.Compared
import WireSchema.Proofs.Grammar.Files

-- Whole files side by side: what is read off two sources of the same words, from the package clause to the last item.
namespace WireSchema.Grammar
open Reader hiding pure

namespace Comparison
variable (c : Comparison)

structure Packages (p q : Package) : Prop where
  position : c.reports p.position q.position
  name : p.name = q.name

structure Imports (i j : Import) : Prop where
  places : c.places i.position j.position
  path : i.path = j.path
  name : i.name = j.name

def Known (known more : Dictionary String Import) : Prop :=
  List.Forall₂ (fun e f => e.1 = f.1 ∧ c.Imports e.2 f.2) known.entries more.entries

structure Items (one two : Step (Option (Declaration Unit))) : Prop where
  values : Option.Rel c.Declarations one.value two.value
  problems : List.Forall₂ c.Reports one.problems two.problems
  mentions : List.Forall₂ c.Mentions one.mentions two.mentions

structure Outlines (one two : Outline) : Prop where
  doc : c.docs one.doc two.doc
  package : c.Packages one.package two.package
  imports : c.Known one.imports two.imports
  headProblems : List.Forall₂ c.Reports one.headProblems two.headProblems
  items : List.Forall₂ c.Items one.items two.items

end Comparison

section Forwards

instance : packageClause.Forwards := ⟨packageClause_forward⟩
instance : givenName.Forwards := ⟨givenName_forward⟩
instance : importPath.Forwards := ⟨importPath_forward⟩
instance (imports : Dictionary String Import) (clause : Import) : (addImport imports clause).Forwards :=
  ⟨addImport_forward imports clause⟩
instance (imports : Dictionary String Import) : (importClause imports).Forwards :=
  ⟨(importClause_takes imports).forward⟩
instance (imports : Dictionary String Import) : (importClauses imports).Forwards := ⟨importClauses_forward imports⟩
instance : item.kept.Forwards := ⟨item_takes.kept.forward⟩

end Forwards

namespace Comparison
variable {c : Comparison}

section Items

theorem skipWords_agree (level : Int) {as bs : List Documented} (alike : List.Forall₂ c.Words as bs) :
    c.Past ⟨skipWords level (as ++ c.left.ahead), c.left.finish⟩ ∨
      c.Tapes ⟨skipWords level (as ++ c.left.ahead), c.left.finish⟩
        ⟨skipWords level (bs ++ c.right.ahead), c.right.finish⟩ := by
  induction alike generalizing level with
  | nil =>
    by_cases whole : c.Whole
    · rw [whole.1, whole.2.1]
      exact .inr ⟨[], [], by rw [whole.1]; rfl, by rw [whole.2.1]; rfl, .nil⟩
    · exact .inl ⟨whole, (skipWords_suffix level c.left.ahead).length_le⟩
  | @cons w v as bs word rest ih =>
    have stops : c.Tapes ⟨w :: as ++ c.left.ahead, c.left.finish⟩ ⟨v :: bs ++ c.right.ahead, c.right.finish⟩ :=
      ⟨w :: as, v :: bs, rfl, rfl, .cons word rest⟩
    simp only [List.cons_append, skipWords, ← word.kind]
    split
    · exact .inr stops
    · split
      · exact .inr stops
      · exact ih level
    · exact ih (level + 1)
    · exact ih (level - 1)
    · exact ih level

theorem skipStatement_agree : c.Agree (fun _ _ => True) skipStatement skipStatement := by
  refine look_agree fun t u _ _ advanced => ?_
  obtain ⟨as, bs, left, right, alike⟩ := advanced
  have skipped : ∀ t : Tape, skipStatement t = ⟨(), [], [], ⟨skipWords 0 t.advance.ahead, t.advance.finish⟩⟩ :=
    fun _ => rfl
  rw [skipped, skipped, left, right]
  rcases skipWords_agree 0 alike with past | tapes
  · exact .inl past
  · exact .inr ⟨trivial, .nil, .nil, tapes⟩

theorem item_agree : c.Agree (Option.Rel c.Declarations) item item := by
  have declared : c.Agree (Option.Rel c.Declarations)
      (unterminated >>= fun d => expect .semicolon >>= fun _ => Reader.pure d)
      (unterminated >>= fun d => expect .semicolon >>= fun _ => Reader.pure d) :=
    bind_agree unterminated_agree fun _ _ related => map_agree (expect_agree _) fun _ _ _ => related
  refine look_agree fun t u words tapes _ => ?_
  by_cases declares : (declared? t.current.kind).isSome
  · rw [item_unterminated declares, item_unterminated (words.kind ▸ declares)]
    exact declared t u tapes
  · have passed : c.Agree (Option.Rel c.Declarations)
        (advance >>= fun _ => Reader.pure none) (advance >>= fun _ => Reader.pure none) :=
      map_agree advance_agree fun _ _ _ => .none
    have skipped : c.Agree (Option.Rel c.Declarations)
        (skipStatement >>= fun _ => Reader.pure none) (skipStatement >>= fun _ => Reader.pure none) :=
      map_agree skipStatement_agree fun _ _ _ => .none
    unfold item
    rw [bind_apply, bind_apply]
    simp only [current_apply, List.nil_append, ← words.kind]
    cases kind : t.current.kind with
    | semicolon => exact passed t u tapes
    | invalid error => exact bind_agree (report_agree rfl) (fun _ _ _ => passed) t u tapes
    | identifier =>
      rw [← words.text (by simp [kind])]
      exact bind_agree (report_agree rfl) (fun _ _ _ => skipped) t u tapes
    | keyword word =>
      cases word with
      | const | enumeration | struct | union | service => simp [kind, declared?] at declares
      | _ =>
        rw [← words.text (by simp [kind])]
        exact bind_agree (report_agree rfl) (fun _ _ _ => passed) t u tapes
    | _ =>
      rw [← words.text (by simp [kind])]
      exact bind_agree (report_agree rfl) (fun _ _ _ => passed) t u tapes

theorem kept_agree : c.Agree c.Items item.kept item.kept := by
  intro t u tapes
  rcases item_agree t u tapes with past | alike
  · exact .inl past
  · exact .inr ⟨⟨alike.values, alike.problems, alike.mentions⟩, .nil, .nil, alike.tapes⟩

end Items

section Head

theorem packageClause_agree : c.Agree c.Packages packageClause packageClause := by
  apply current_agree
  intro w v words
  refine bind_agree (expect_agree _) fun _ _ _ => ?_
  rw [← words.kind]
  split
  · exact pure_agree ⟨words.reports, rfl⟩
  · refine bind_agree identifier_agree fun name _ same => ?_
    subst same
    refine current_agree fun w v next => ?_
    rw [← next.kind]
    split
    · exact map_agree (expect_agree _) fun _ _ _ => ⟨words.reports, rfl⟩
    · exact pure_agree ⟨words.reports, rfl⟩

theorem givenName_agree : c.Agree Eq givenName givenName := by
  refine look_agree fun t u words tapes advanced => ?_
  rw [givenName_apply, givenName_apply, ← words.kind]
  by_cases given : t.current.kind = .identifier
  · simp only [given, if_true, words.text (by simp [given])]
    exact .inr ⟨rfl, .nil, .nil, advanced⟩
  · simp only [given, if_false]
    exact .inr ⟨rfl, .nil, .nil, tapes⟩

theorem importPath_agree : c.Agree Eq importPath importPath := by
  refine look_agree fun t u words tapes advanced => ?_
  rw [importPath_apply, importPath_apply, ← words.kind, ← mismatch_agree words]
  by_cases path : t.current.kind = .string
  · simp only [path, if_true, words.text (by simp [path])]
    exact .inr ⟨rfl, .nil, .nil, advanced⟩
  · simp only [path, if_false]
    exact .inr ⟨rfl, .cons ⟨words.reports, rfl⟩ .nil, .nil, advanced⟩

theorem Known.contains {known more : Dictionary String Import} (alike : c.Known known more) (name : String) :
    known.contains name = more.contains name := by
  unfold Dictionary.contains Dictionary.get?
  unfold Known at alike
  generalize known.entries = es at alike
  generalize more.entries = fs at alike
  induction alike with
  | nil => rfl
  | cons entry _ ih =>
    rw [List.find?_cons, List.find?_cons, ← entry.1]
    split
    · rfl
    · exact ih

theorem Known.insert {known more : Dictionary String Import} (alike : c.Known known more) (name : String)
    {i j : Import} (imports : c.Imports i j) : c.Known (known.insert name i) (more.insert name j) := by
  unfold Known Dictionary.insert
  unfold Known at alike
  dsimp only
  generalize known.entries = es at alike
  generalize more.entries = fs at alike
  induction alike with
  | nil => exact .cons ⟨rfl, imports⟩ .nil
  | @cons e f _ _ entry rest ih =>
    obtain ⟨key, value⟩ := e
    obtain ⟨keyToo, other⟩ := f
    obtain ⟨same, values⟩ := entry
    cases same
    simp only [Dictionary.put]
    split
    · exact .cons ⟨rfl, imports⟩ (.cons ⟨rfl, values⟩ rest)
    · split
      · exact .cons ⟨rfl, imports⟩ rest
      · exact .cons ⟨rfl, values⟩ ih

theorem addImport_agree {known more : Dictionary String Import} (alike : c.Known known more) {i j : Import}
    (imports : c.Imports i j) : c.Agree c.Known (addImport known i) (addImport more j) := by
  intro t u tapes
  have problem : importProblem? known i = importProblem? more j := by
    unfold importProblem?
    rw [imports.path, imports.name, alike.contains]
  rw [addImport_apply, addImport_apply, ← problem]
  cases importProblem? known i with
  | none =>
    rw [imports.name]
    exact .inr ⟨alike.insert _ imports, .nil, .nil, tapes⟩
  | some problem => exact .inr ⟨alike, .cons ⟨c.reported imports.places, rfl⟩ .nil, .nil, tapes⟩

theorem importClause_agree {known more : Dictionary String Import} (alike : c.Known known more) {t u : Tape}
    (tapes : c.Tapes t u) (places : c.places t.current.position u.current.position) :
    c.Steps c.Known (importClause known t) (importClause more u) := by
  rw [importClause_apply, importClause_apply]
  refine bind_steps (advance_agree t u tapes) fun _ _ _ => bind_agree givenName_agree fun given _ same => ?_
  subst same
  refine bind_agree importPath_agree fun path _ same => ?_
  subst same
  refine bind_agree (addImport_agree alike ⟨places, rfl, rfl⟩) fun _ _ known => ?_
  exact map_agree (expect_agree _) fun _ _ _ => known

theorem importClauses_agree {known more : Dictionary String Import} (alike : c.Known known more) :
    c.Agree c.Known (importClauses known) (importClauses more) := by
  refine recurse_agree importClauses_carries (fun _ _ known => known) ?_ known more alike
  intro again later _ calls known more alike
  refine look_bind_agree (Reader.Forwards.forward (r := current >>= _)) fun t u words tapes => ?_
  rw [← words.kind]
  split
  case isTrue isImport =>
    exact bind_steps (importClause_agree alike tapes (words.places (by simp [isImport]))) fun _ _ known =>
      calls _ _ known
  case isFalse => exact pure_agree alike t u tapes

end Head

-- The words of two whole sources that agree make up outlines that agree.
theorem outline_agree (whole : c.Whole) {t u : Tape} (tapes : c.Tapes t u) : c.Outlines (outline t) (outline u) := by
  have arrive : ∀ {α β : Type} {V : α → β → Prop} {r : Step α} {s : Step β}, c.Steps V r s → c.Alike V r s := by
    intro _ _ _ _ _ steps
    rcases steps with past | alike
    · exact absurd whole past.1
    · exact alike
  have both : c.Agree (fun a b => c.Packages a.1 b.1 ∧ c.Known a.2 b.2)
      (packageClause >>= fun package => importClauses ∅ >>= fun imports => Reader.pure (package, imports))
      (packageClause >>= fun package => importClauses ∅ >>= fun imports => Reader.pure (package, imports)) :=
    bind_agree packageClause_agree fun _ _ packages => map_agree (importClauses_agree .nil) fun _ _ imports =>
      ⟨packages, imports⟩
  have head := arrive (both t u tapes)
  have every : c.Agree (List.Forall₂ c.Items) (many (· ≠ .endOfFile) item.kept) (many (· ≠ .endOfFile) item.kept) :=
    many_agree kept_agree
  have items := arrive (every _ _ head.tapes)
  refine ⟨?_, head.values.1, head.values.2, head.problems, items.values⟩
  rcases tapes.look with past | words
  · exact absurd whole past.1
  · exact words.1.docs

end Comparison
end WireSchema.Grammar

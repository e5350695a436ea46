import WireSchema.Proofs.Permuted.Texts

-- The head of a source, which is its package clause and its imports, with the texts of declarations behind it.
namespace WireSchema.Grammar
open Grammar.Language
open Reader hiding pure

-- Tokens of a package clause and of imports, with nothing but terminators behind them.
inductive IsHead : List Token → Prop where
  | head {package imports stray : List Token}
      (clause : (token (.keyword .package)).seq ((token .identifier).seq (token .semicolon)) package)
      (imported : IsImports [] imports) (ends : ∀ word ∈ stray, word.kind = .semicolon) :
      IsHead (package ++ (imports ++ stray))

variable {t u : Tape} {ws rest more : List Token} {texts : List (List UInt8)}

theorem isImports_kinds {names : List String} (imports : IsImports names ws) : ∀ word ∈ ws,
    word.kind = .keyword .importing ∨ word.kind = .identifier ∨ word.kind = .string ∨ word.kind = .semicolon := by
  induction imports with
  | none => simp
  | more one _ _ _ _ ih =>
    refine List.forall_mem_append.mpr ⟨?_, ih⟩
    cases one with
    | plain isImport isPath ends => simp [isImport, isPath, ends]
    | named isImport isName isPath ends => simp [isImport, isName, isPath, ends]

theorem isImports_terminated {names : List String} (imports : IsImports names ws) : ws = [] ∨ Terminated ws := by
  induction imports with
  | none => exact .inl rfl
  | more one _ _ _ _ ih =>
    refine .inr ?_
    rcases ih with rfl | terminated
    · rw [List.append_nil]
      cases one with
      | plain _ _ ends => exact ⟨_, rfl, ends⟩
      | named _ _ _ ends => exact ⟨_, rfl, ends⟩
    · exact terminated.append _

theorem IsHead.whole (isHead : IsHead ws) : ∀ word ∈ ws, Scanner.Whole word.kind := by
  have each : ∀ word ∈ ws, word.kind = .keyword .package ∨ word.kind = .keyword .importing ∨
      word.kind = .identifier ∨ word.kind = .string ∨ word.kind = .semicolon := by
    obtain ⟨⟨_, _, rfl, ⟨_, rfl, isPackage⟩, _, _, rfl, ⟨_, rfl, isName⟩, _, rfl, isEnd⟩, imported, ends⟩ := isHead
    refine List.forall_mem_append.mpr ⟨by simp [isPackage, isName, isEnd], List.forall_mem_append.mpr ⟨?_, ?_⟩⟩
    · exact fun word member => .inr (isImports_kinds imported word member)
    · exact fun word member => .inr (.inr (.inr (.inr (ends word member))))
  intro word member
  rcases each word member with kind | kind | kind | kind | kind <;> exact ⟨by simp [kind], by simp [kind]⟩

theorem IsHead.terminated (isHead : IsHead ws) : Terminated ws := by
  obtain ⟨clause, imported, ends⟩ := isHead
  rename_i package imports stray
  have ofPackage : Terminated package := by
    obtain ⟨_, _, rfl, _, _, _, rfl, _, word, rfl, isEnd⟩ := clause
    exact .append _ (.append _ ⟨word, rfl, isEnd⟩)
  rw [← List.append_assoc]
  refine .stray ?_ ends
  rcases isImports_terminated imported with rfl | terminated
  · rw [List.append_nil]
    exact ofPackage
  · exact terminated.append package

theorem importClauses_same {imports : Dictionary String Import} {names : List String} (written : IsImports names ws)
    (known : Known imports names) (proper : t.Proper) (properToo : u.Proper) (found : t.tokens = ws ++ rest)
    (foundToo : u.tokens = ws ++ more) (follow : nextKind rest ≠ .keyword .importing)
    (followToo : nextKind more ≠ .keyword .importing) :
    (importClauses imports t).value = (importClauses imports u).value := by
  induction written generalizing t u imports with
  | none =>
    have stops : t.current.kind ≠ .keyword .importing := by
      rw [proper.current_kind, found]
      exact follow
    have stopsToo : u.current.kind ≠ .keyword .importing := by
      rw [properToo.current_kind, foundToo]
      exact followToo
    rw [importClauses_stops imports stops, importClauses_stops imports stopsToo]
  | @more names first others path name one hasPath hasName fresh _ ih =>
    rw [List.append_assoc] at found foundToo
    have free := known.free fresh
    obtain ⟨isImport, _, left, word, isFirst, value⟩ := importClause_complete one proper found hasPath hasName free
    obtain ⟨isImportToo, _, leftToo, again, isFirstToo, valueToo⟩ :=
      importClause_complete one properToo foundToo hasPath hasName free
    obtain rfl := Option.mem_unique isFirst isFirstToo
    rw [importClauses_goes imports proper isImport, importClauses_goes imports properToo isImportToo, bind_value,
      bind_value, value, valueToo]
    exact ih (known.insert ⟨word.position, path, name⟩) (proper.leads ((importClause_takes imports).forward t))
      (properToo.leads ((importClause_takes imports).forward u)) left leftToo

theorem stray_follow {stray : List Token} (ends : ∀ word ∈ stray, word.kind = .semicolon)
    (follow : nextKind rest ≠ .keyword .importing) : nextKind (stray ++ rest) ≠ .keyword .importing := by
  cases stray with
  | nil => exact follow
  | cons word stray =>
    have kind := ends word List.mem_cons_self
    simp [nextKind, kind]

theorem outline_behind (isHead : IsHead ws) (proper : t.Proper) (found : t.tokens = ws ++ rest)
    (follow : nextKind rest ≠ .keyword .importing) : (outline t).headProblems = [] ∧
      ∃ steps later, later.map (·.token) = rest ∧ (Tape.mk later t.finish).Proper ∧
        (outline t).items = steps ++ (items ⟨later, t.finish⟩).value ∧
        ∀ step ∈ steps, step.problems = [] ∧ step.value = none ∧ step.mentions = [] := by
  obtain ⟨clause, imported, ends⟩ := isHead
  rename_i package imports stray
  obtain ⟨headProblems, outlineItems⟩ := outline_parts t
  rw [List.append_assoc, List.append_assoc] at found
  obtain ⟨cleanPackage, left⟩ := packageClause_reads.complete t package _ proper found clause trivial
  have properImports := proper.leads (packageClause_forward t)
  obtain ⟨cleanImports, behind⟩ :=
    importClauses_complete imported known_empty properImports left (stray_follow ends follow)
  have forward := importClauses_forward ∅ (packageClause t).tape
  have properItems := properImports.leads forward
  have finish : (importClauses ∅ (packageClause t).tape).tape.finish = t.finish :=
    forward.2.trans (packageClause_forward t).2
  rw [headProblems, outlineItems, cleanPackage, cleanImports]
  refine ⟨rfl, ?_⟩
  generalize (importClauses ∅ (packageClause t).tape).tape = tape at behind properItems finish
  obtain ⟨ahead, _⟩ := tape
  obtain rfl : _ = t.finish := finish
  obtain ⟨cs, later, rfl, rfl, rfl⟩ := List.map_eq_append_iff.mp behind
  obtain ⟨steps, items, empty⟩ := items_stray (fun w member => ends _ (List.mem_map_of_mem member)) properItems
  exact ⟨steps, later, rfl, properItems.leads ⟨List.suffix_append cs later, rfl⟩, items, empty⟩

theorem outline_imports (isHead : IsHead ws) (proper : t.Proper) (properToo : u.Proper) (found : t.tokens = ws ++ rest)
    (foundToo : u.tokens = ws ++ more) (follow : nextKind rest ≠ .keyword .importing)
    (followToo : nextKind more ≠ .keyword .importing) : (outline t).imports = (outline u).imports := by
  obtain ⟨clause, imported, ends⟩ := isHead
  have value : ∀ t, (outline t).imports = (importClauses ∅ (packageClause t).tape).value := by
    simp [outline, bind_apply]
  rw [List.append_assoc, List.append_assoc] at found foundToo
  obtain ⟨_, left⟩ := packageClause_reads.complete t _ _ proper found clause trivial
  obtain ⟨_, leftToo⟩ := packageClause_reads.complete u _ _ properToo foundToo clause trivial
  rw [value, value]
  exact importClauses_same imported known_empty (proper.leads (packageClause_forward t))
    (properToo.leads (packageClause_forward u)) left leftToo (stray_follow ends follow) (stray_follow ends followToo)

section Texts
variable (declared : ∀ text ∈ texts, IsDeclarationText text)
  (same : rest.map Token.word = texts.flatMap fun text => (Token.written text).map Token.word)
include declared same

theorem texts_follow : nextKind rest ≠ .keyword .importing := by
  cases texts with
  | nil =>
    obtain rfl : rest = [] := List.map_eq_nil_iff.mp same
    simp [nextKind]
  | cons text others =>
    obtain ⟨front, stray, _, written, _, ⟨word, isFirst, declares⟩, _⟩ := (declared text List.mem_cons_self).written
    obtain ⟨others, rfl⟩ : ∃ others, front = word :: others := List.head?_eq_some_iff.mp isFirst
    rw [List.flatMap_cons, written] at same
    obtain ⟨first, behind, rfl, alike, _⟩ := List.map_eq_cons_iff.mp same
    have kind : first.kind = word.kind := congrArg Prod.fst alike
    intro imports
    have imports : first.kind = .keyword .importing := imports
    rw [← kind, imports] at declares
    cases declares

theorem outline_reads (isHead : IsHead ws) (proper : t.Proper) (found : t.tokens = ws ++ rest) :
    (outline t).headProblems = [] ∧ Reads (outline t).items texts := by
  obtain ⟨clean, steps, later, tokens, properLater, items, empty⟩ :=
    outline_behind isHead proper found (texts_follow declared same)
  refine ⟨clean, ?_⟩
  rw [items]
  refine .stray empty (items_texts declared properLater ?_)
  rw [← same, ← tokens, List.map_map]
  rfl

end Texts

end WireSchema.Grammar

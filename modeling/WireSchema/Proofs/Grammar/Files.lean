import WireSchema.Proofs.Grammar.Accepts

-- A whole file: its package, its imports, which must not repeat a name, and its items up to the end.
namespace WireSchema.Grammar
open Grammar.Language
open Reader hiding pure

section Items

def declaredNames (steps : List (Step (Option (Declaration Unit)))) : List String :=
  steps.filterMap (·.value.bind (·.typeName?))

def items : Reader (List (Step (Option (Declaration Unit)))) := Reader.many (· ≠ .endOfFile) item.kept

theorem items_stop {t : Tape} (last : t.current.kind = .endOfFile) : items t = ⟨[], [], [], t⟩ :=
  many_stops item_takes.kept.forward (by simp [last])

theorem items_go {t : Tape} (proper : t.Proper) (more : t.current.kind ≠ .endOfFile) :
    (items t).value = item t :: (items (item t).tape).value := by
  rw [items, many_goes item_takes.kept.forward (by simp [more]) (item_takes.kept.shorter proper more)]
  rfl

theorem declaredNames_cons (step : Step (Option (Declaration Unit))) (steps : List (Step (Option (Declaration Unit)))) :
    declaredNames (step :: steps) = (step.value.bind (·.typeName?)).toList ++ declaredNames steps := by
  rw [declaredNames, List.filterMap_cons]
  cases step.value.bind (·.typeName?) <;> rfl

theorem items_sound {t : Tape} (proper : t.Proper) (none : ∀ step ∈ (items t).value, step.problems = []) :
    IsItems t.tokens (declaredNames (items t).value) := by
  induction size : t.left using Nat.strongRecOn generalizing t with
  | ind n ih =>
    by_cases last : t.current.kind = .endOfFile
    · rw [items_stop last, Tape.tokens, proper.ahead_nil last]
      exact .none
    · rw [items_go proper last] at none ⊢
      obtain ⟨front, between, isItem⟩ := item_sound proper (none _ List.mem_cons_self)
      rw [between, declaredNames_cons]
      exact .more isItem (ih _ (size ▸ item_takes.shorter proper last) (proper.leads (item_takes.forward t))
        (fun step member => none step (List.mem_cons_of_mem _ member)) rfl)

theorem item_starts {front : List Token} {name : Option String} (isItem : IsItem front name) :
    ∃ w rest, front = w :: rest ∧ w.kind ≠ .endOfFile ∧ w.kind ≠ .keyword .importing := by
  have starts : ∀ {kind : TokenKind} {L : Language}, L.Starts (· = kind) → L front → kind ≠ .endOfFile →
      kind ≠ .keyword .importing → ∃ w rest, front = w :: rest ∧ w.kind ≠ .endOfFile ∧ w.kind ≠ .keyword .importing := by
    intro kind L starts written notLast notImport
    obtain ⟨w, rest, same, rfl⟩ := starts front written
    exact ⟨w, rest, same, notLast, notImport⟩
  cases isItem with
  | empty alone => exact starts (token_starts _) alone (by simp) (by simp)
  | const written => exact starts ((token_starts _).seq _) written (by simp) (by simp)
  | enumeration written => exact starts ((token_starts _).seq _) written (by simp) (by simp)
  | struct written => exact starts ((token_starts _).seq _) written (by simp) (by simp)
  | union written => exact starts ((token_starts _).seq _) written (by simp) (by simp)
  | service written => exact starts ((token_starts _).seq _) written (by simp) (by simp)

theorem items_complete {ws : List Token} {names : List String} (isItems : IsItems ws names) {t : Tape}
    (proper : t.Proper) (found : t.tokens = ws) :
    (∀ step ∈ (items t).value, step.problems = []) ∧ declaredNames (items t).value = names := by
  induction isItems generalizing t with
  | none =>
    have last : t.current.kind = .endOfFile := by
      rw [proper.current_kind, found]
      rfl
    rw [items_stop last]
    exact ⟨by simp, rfl⟩
  | @more first rest name names one _ ih =>
    obtain ⟨none, named, left⟩ := item_complete one proper found
    have more : t.current.kind ≠ .endOfFile := by
      obtain ⟨w, tail, rfl, notLast, _⟩ := item_starts one
      rw [proper.current_kind, found]
      exact notLast
    obtain ⟨noneLater, namesLater⟩ := ih (proper.leads (item_takes.forward t)) left
    rw [items_go proper more, declaredNames_cons, named, namesLater]
    refine ⟨fun step member => ?_, rfl⟩
    rcases List.mem_cons.mp member with rfl | later
    · exact none
    · exact noneLater step later

end Items

section Package

theorem packageClause_reads : packageClause.Reads
    ((token (.keyword .package)).seq ((token .identifier).seq (token .semicolon))) anything := by
  have step : ∀ t : Tape, t.Proper → t.current.kind = .keyword .package → t.advance.current.kind = .identifier →
      packageClause t = ⟨⟨t.current.position, t.advance.current.text⟩, (expect .semicolon t.advance.advance).problems,
        [], t.advance.advance.advance⟩ := by
    intro t proper isPackage isName
    have nonempty := (proper.advance.current_name isName).nonempty
    simp [packageClause, bind_apply, expect_apply, isPackage, identifier_apply, isName, nonempty]
  refine ⟨packageClause_forward, ?_, ?_⟩
  · intro t proper none
    have isPackage := expect_clean (List.append_eq_nil_iff.mp (List.append_eq_nil_iff.mp none).2).1
    simp only [current_apply] at isPackage
    have isName : t.advance.current.kind = .identifier := by
      by_cases same : t.advance.current.kind = .identifier
      · exact same
      · simp [packageClause, bind_apply, expect_apply, isPackage, identifier_apply, same] at none
    rw [step t proper isPackage isName] at none ⊢
    have ends := expect_clean none
    refine ⟨[t.current.token, t.advance.current.token, t.advance.advance.current.token], ?_, ?_⟩
    · rw [proper.tokens_eq (by rw [isPackage]; simp), proper.advance.tokens_eq (by rw [isName]; simp),
        proper.advance.advance.tokens_eq (by rw [ends]; simp)]
      rfl
    · exact ⟨[_], _, rfl, ⟨_, rfl, isPackage⟩, [_], _, rfl, ⟨_, rfl, isName⟩, _, rfl, ends⟩
  · rintro t _ rest proper found ⟨_, _, rfl, ⟨_, rfl, isPackage⟩, _, _, rfl, ⟨_, rfl, isName⟩, _, rfl, ends⟩ _
    obtain ⟨rfl, afterPackage⟩ := Tape.current_token found
    obtain ⟨rfl, afterName⟩ := Tape.current_token afterPackage
    obtain ⟨rfl, left⟩ := Tape.current_token afterName
    rw [step t proper isPackage isName]
    exact ⟨(expect_problems ends).1, left⟩

end Package

section Imports

def Known (imports : Dictionary String Import) (names : List String) : Prop :=
  ∀ name, imports.contains name = true ↔ name ∈ names

theorem known_empty : Known ∅ [] := fun name => by
  simp [Dictionary.contains, Dictionary.get?, EmptyCollection.emptyCollection, Dictionary.empty]

theorem importProblem?_eq_none {imports : Dictionary String Import} {clause : Import} :
    importProblem? imports clause = none ↔
      clause.path ≠ "" ∧ clause.name ≠ "" ∧ imports.contains clause.name = false := by
  unfold importProblem?
  by_cases path : clause.path = "" <;> by_cases name : clause.name = "" <;>
    cases taken : imports.contains clause.name <;> simp [path, name]

theorem Known.insert {imports : Dictionary String Import} {names : List String} (known : Known imports names)
    (clause : Import) : Known (imports.insert clause.name clause) (clause.name :: names) := by
  intro name
  rw [Dictionary.contains, Dictionary.get?_insert, List.mem_cons]
  by_cases same : clause.name = name
  · simp [same]
  · have old := known name
    rw [Dictionary.contains] at old
    simp [same, Ne.symm same, old]

theorem Known.free {imports : Dictionary String Import} {names : List String} (known : Known imports names)
    {name : String} (fresh : name ∉ names) : imports.contains name = false := by
  cases taken : imports.contains name with
  | false => rfl
  | true => exact absurd ((known name).mp taken) fresh

def importRest (imports : Dictionary String Import) (position : Position) (given : String) :
    Reader (Dictionary String Import) := do
  let path ← importPath
  let known ← addImport imports ⟨position, path, if given.isEmpty then importName path else given⟩
  expect .semicolon
  pure known

def importOf (position : Position) (given : String) (path : Token) : Import :=
  ⟨position, .ofList (literalContent path.text),
    if given.isEmpty then importName (.ofList (literalContent path.text)) else given⟩

theorem importOf_plain (position : Position) (path : Token) :
    importOf position "" path = ⟨position, .ofList (literalContent path.text),
      importName (.ofList (literalContent path.text))⟩ := by simp [importOf]

theorem importOf_named (position : Position) {given : String} (nonempty : given ≠ "") (path : Token) :
    importOf position given path = ⟨position, .ofList (literalContent path.text), given⟩ := by
  simp [importOf, nonempty]

variable {imports : Dictionary String Import} {position : Position} {given : String} {t : Tape}

theorem importRest_step (isPath : t.current.kind = .string) : importRest imports position given t =
    (do let known ← addImport imports (importOf position given t.current.token); expect .semicolon; pure known :
      Reader _) t.advance := by
  simp only [importRest, bind_apply, importPath_apply, isPath, if_true, List.nil_append]
  rfl

theorem importRest_value (isPath : t.current.kind = .string)
    (free : importProblem? imports (importOf position given t.current.token) = none) :
    importRest imports position given t = ⟨imports.insert (importOf position given t.current.token).name
      (importOf position given t.current.token), (expect .semicolon t.advance).problems, [], t.advance.advance⟩ := by
  simp only [importRest_step isPath, bind_apply, addImport_apply, free, expect_apply, List.nil_append, List.append_nil,
    pure_eq, pure_apply]

theorem importRest_sound (clean : (importRest imports position given t).problems = []) :
    t.current.kind = .string ∧ t.advance.current.kind = .semicolon ∧
      importProblem? imports (importOf position given t.current.token) = none := by
  have isPath : t.current.kind = .string := by
    have path := (List.append_eq_nil_iff.mp clean).1
    rw [importPath_apply] at path
    by_cases same : t.current.kind = .string
    · exact same
    · simp [same] at path
  have free : importProblem? imports (importOf position given t.current.token) = none := by
    rw [importRest_step isPath] at clean
    have added := (List.append_eq_nil_iff.mp clean).1
    rw [addImport_apply] at added
    cases problem : importProblem? imports (importOf position given t.current.token) with
    | none => rfl
    | some found => simp [problem] at added
  rw [importRest_value isPath free] at clean
  exact ⟨isPath, expect_clean clean, free⟩

theorem importClause_step (imports : Dictionary String Import) (t : Tape) :
    importClause imports t = importRest imports t.current.position
      (if t.advance.current.kind = .identifier then t.advance.current.text else "")
      (if t.advance.current.kind = .identifier then t.advance.advance else t.advance) := by
  by_cases isName : t.advance.current.kind = .identifier <;>
    simp [importClause, importRest, bind_apply, givenName_apply, isName]

theorem importClause_sound (proper : t.Proper) (isImport : t.current.kind = .keyword .importing)
    (clean : (importClause imports t).problems = []) : ∃ front clause, IsImport front clause.path clause.name ∧
      importProblem? imports clause = none ∧ (importClause imports t).value = imports.insert clause.name clause ∧
      t.tokens = front ++ (importClause imports t).tape.tokens := by
  have first := proper.tokens_eq (by rw [isImport]; simp)
  rw [importClause_step] at clean ⊢
  by_cases isName : t.advance.current.kind = .identifier
  · rw [if_pos isName, if_pos isName] at clean ⊢
    obtain ⟨isPath, ends, free⟩ := importRest_sound clean
    have nonempty := (proper.advance.current_name isName).nonempty
    have second := proper.advance.tokens_eq (by rw [isName]; simp)
    have third := proper.advance.advance.tokens_eq (by rw [isPath]; simp)
    have fourth := proper.advance.advance.advance.tokens_eq (by rw [ends]; simp)
    have written : IsImport [t.current.token, t.advance.current.token, t.advance.advance.current.token,
          t.advance.advance.advance.current.token]
        (importOf t.current.position t.advance.current.text t.advance.advance.current.token).path
        (importOf t.current.position t.advance.current.text t.advance.advance.current.token).name := by
      rw [importOf_named _ nonempty]
      exact .named isImport isName isPath ends
    refine ⟨_, _, written, free, ?_, ?_⟩
    · rw [importRest_value isPath free]
    · rw [importRest_value isPath free, first, second, third, fourth]
      rfl
  · rw [if_neg isName, if_neg isName] at clean ⊢
    obtain ⟨isPath, ends, free⟩ := importRest_sound clean
    have second := proper.advance.tokens_eq (by rw [isPath]; simp)
    have third := proper.advance.advance.tokens_eq (by rw [ends]; simp)
    have written : IsImport [t.current.token, t.advance.current.token, t.advance.advance.current.token]
        (importOf t.current.position "" t.advance.current.token).path
        (importOf t.current.position "" t.advance.current.token).name := by
      rw [importOf_plain]
      dsimp only
      exact .plain isImport isPath ends
    refine ⟨_, _, written, free, ?_, ?_⟩
    · rw [importRest_value isPath free]
    · rw [importRest_value isPath free, first, second, third]
      rfl

theorem importClause_complete {front rest : List Token} {path name : String} (isImport : IsImport front path name)
    (proper : t.Proper) (found : t.tokens = front ++ rest) (hasPath : path ≠ "") (hasName : name ≠ "")
    (fresh : imports.contains name = false) : t.current.kind = .keyword .importing ∧
      (importClause imports t).problems = [] ∧ (importClause imports t).tape.tokens = rest ∧
      ∃ word ∈ front.head?, (importClause imports t).value = imports.insert name ⟨word.position, path, name⟩ := by
  rw [importClause_step]
  cases isImport with
  | plain isWord isPath ends =>
    obtain ⟨rfl, afterWord⟩ := Tape.current_token found
    obtain ⟨rfl, afterPath⟩ := Tape.current_token afterWord
    obtain ⟨rfl, left⟩ := Tape.current_token afterPath
    have isPath : t.advance.current.kind = .string := isPath
    have isName : t.advance.current.kind ≠ .identifier := by rw [isPath]; simp
    have plain := importOf_plain t.current.position t.advance.current.token
    have free : importProblem? imports (importOf t.current.position "" t.advance.current.token) = none := by
      rw [importProblem?_eq_none, plain]
      dsimp only
      exact ⟨hasPath, hasName, fresh⟩
    rw [if_neg isName, if_neg isName, importRest_value isPath free, plain]
    dsimp only
    exact ⟨isWord, (expect_problems ends).1, left, t.current.token, rfl, rfl⟩
  | named isWord isName isPath ends =>
    obtain ⟨rfl, afterWord⟩ := Tape.current_token found
    obtain ⟨rfl, afterName⟩ := Tape.current_token afterWord
    obtain ⟨rfl, afterPath⟩ := Tape.current_token afterName
    obtain ⟨rfl, left⟩ := Tape.current_token afterPath
    have isName : t.advance.current.kind = .identifier := isName
    have given := importOf_named t.current.position (proper.advance.current_name isName).nonempty
      t.advance.advance.current.token
    have free : importProblem? imports
        (importOf t.current.position t.advance.current.text t.advance.advance.current.token) = none := by
      rw [importProblem?_eq_none, given]
      dsimp only
      exact ⟨hasPath, hasName, fresh⟩
    rw [if_pos isName, if_pos isName, importRest_value isPath free, given]
    dsimp only
    exact ⟨isWord, (expect_problems ends).1, left, t.current.token, rfl, rfl⟩

theorem importClauses_sound {names : List String} (known : Known imports names) (proper : t.Proper)
    (clean : (importClauses imports t).problems = []) :
    ∃ front, t.tokens = front ++ (importClauses imports t).tape.tokens ∧ IsImports names front := by
  induction size : t.left using Nat.strongRecOn generalizing t imports names with
  | ind n ih =>
    by_cases isImport : t.current.kind = .keyword .importing
    · rw [importClauses_goes imports proper isImport] at clean ⊢
      obtain ⟨cleanFirst, cleanRest⟩ := List.append_eq_nil_iff.mp clean
      obtain ⟨front, clause, written, free, value, between⟩ := importClause_sound proper isImport cleanFirst
      obtain ⟨hasPath, hasName, fresh⟩ := importProblem?_eq_none.mp free
      rw [value] at cleanRest
      have shorter := (importClause_takes imports).shorter proper (by rw [isImport]; simp)
      obtain ⟨others, behind, more⟩ := ih _ (size ▸ shorter) (known.insert clause)
        (proper.leads ((importClause_takes imports).forward t)) cleanRest rfl
      have absent : clause.name ∉ names := fun member => by simp [(known clause.name).mpr member] at fresh
      refine ⟨front ++ others, ?_, .more written hasPath hasName absent more⟩
      rw [between, behind, List.append_assoc, bind_tape, value]
    · rw [importClauses_stops imports isImport]
      exact ⟨[], rfl, .none⟩

theorem importClauses_complete {names : List String} {front : List Token} (written : IsImports names front)
    (known : Known imports names) {rest : List Token} (proper : t.Proper) (found : t.tokens = front ++ rest)
    (follow : nextKind rest ≠ .keyword .importing) :
    (importClauses imports t).problems = [] ∧ (importClauses imports t).tape.tokens = rest := by
  induction written generalizing t imports with
  | none =>
    have stops : t.current.kind ≠ .keyword .importing := by
      rw [proper.current_kind, found]
      exact follow
    rw [importClauses_stops imports stops]
    exact ⟨rfl, found⟩
  | @more names first others path name one hasPath hasName fresh _ ih =>
    rw [List.append_assoc] at found
    have free := known.free fresh
    obtain ⟨isImport, clean, left, word, _, value⟩ := importClause_complete one proper found hasPath hasName free
    obtain ⟨cleanRest, behind⟩ := ih (known.insert ⟨word.position, path, name⟩)
      (proper.leads ((importClause_takes imports).forward t)) left
    rw [importClauses_goes imports proper isImport, bind_problems, bind_tape, clean, value, cleanRest]
    exact ⟨rfl, behind⟩

end Imports

theorem outline_parts (t : Tape) : (outline t).headProblems =
      (packageClause t).problems ++ (importClauses ∅ (packageClause t).tape).problems ∧
    (outline t).items = (items (importClauses ∅ (packageClause t).tape).tape).value := by
  simp [outline, bind_apply, items]

def Reader.Always {α : Type} (holds : α → Prop) (r : Reader α) : Prop := ∀ t, holds (r t).value

theorem bind_always {α β : Type} {holds : β → Prop} {r : Reader α} {next : α → Reader β}
    (later : ∀ a, (next a).Always holds) : (r >>= next).Always holds := fun t => later _ (r t).tape

theorem pure_always {α : Type} {holds : α → Prop} {value : α} (held : holds value) :
    (Reader.pure value).Always holds := fun _ => held

theorem packageClause_position (t : Tape) : (packageClause t).value.position = t.current.position := by
  suffices always : ∀ first : Documented, (do
      expect (.keyword .package)
      if first.kind = .endOfFile then return ⟨first.position, ""⟩
      let name ← identifier
      if !name.isEmpty || (← current).kind ≠ .endOfFile then expect .semicolon
      return ⟨first.position, name⟩ : Reader Package).Always (·.position = first.position) from always t.current t
  refine fun first => bind_always fun _ => ?_
  split
  · exact pure_always rfl
  · refine bind_always fun name => bind_always fun word => ?_
    split
    · exact bind_always fun _ => pure_always rfl
    · exact pure_always rfl

theorem outline_package (t : Tape) : (outline t).package.position = t.current.position := by
  have value : (outline t).package = (packageClause t).value := by simp [outline, bind_apply]
  rw [value, packageClause_position]

-- A file without problems in its parts and with no type name twice is one of the grammar, and every file of
-- the grammar is read as such.
theorem outline_accepts {t : Tape} (proper : t.Proper) :
    (outline t).headProblems = [] ∧ (∀ step ∈ (outline t).items, step.problems = []) ∧
      (declaredNames (outline t).items).Nodup ↔ IsFile t.tokens := by
  obtain ⟨headProblems, outlineItems⟩ := outline_parts t
  have properImports := proper.leads (packageClause_forward t)
  have properItems := properImports.leads (importClauses_forward ∅ (packageClause t).tape)
  rw [headProblems, outlineItems, List.append_eq_nil_iff]
  constructor
  · rintro ⟨⟨cleanPackage, cleanImports⟩, cleanItems, distinct⟩
    obtain ⟨head, before, package⟩ := packageClause_reads.sound t proper cleanPackage
    obtain ⟨imports, between, imported⟩ := importClauses_sound known_empty properImports cleanImports
    rw [before, between, ← List.append_assoc]
    exact .file package imported (items_sound properItems cleanItems) distinct
  · generalize whole : t.tokens = ws
    rintro ⟨package, imported, declared, distinct⟩
    rename_i head imports itemWords names
    rw [List.append_assoc] at whole
    obtain ⟨cleanPackage, left⟩ := packageClause_reads.complete t head _ proper whole package trivial
    have follow : nextKind itemWords ≠ .keyword .importing := by
      cases declared with
      | none => simp [nextKind]
      | more one _ =>
        obtain ⟨w, tail, rfl, _, notImport⟩ := item_starts one
        exact notImport
    obtain ⟨cleanImports, behind⟩ := importClauses_complete imported known_empty properImports left follow
    obtain ⟨cleanItems, sameNames⟩ := items_complete declared properItems behind
    exact ⟨⟨cleanPackage, cleanImports⟩, cleanItems, sameNames ▸ distinct⟩

end WireSchema.Grammar

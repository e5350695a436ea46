import Mathlib
import WireSchema.Proofs.Compiled.Checked
import WireSchema.Proofs.Glob.Elementary

-- In a compiled schema every reference leads somewhere. Leaving out deprecated members takes references
-- away, but nothing that a remaining reference needs.
namespace WireSchema
open Text

-- Where the references of the files of a schema lead.
inductive Schema.Leads (schema : Schema) (file : SourceFile) (r : Reference SymbolId) : Prop where
  | own {index : Nat} {d : Declaration SymbolId} (unqualified : r.package = none)
      (target : file.symbols.target? r.symbol = some (.declaration index)) (found : file.declarations[index]? = some d)
      (first : file.typeDeclaration? r.name = some d)
  | imported {package : String} {clause : Import} (qualified : r.package = some package)
      (target : file.symbols.target? r.symbol = some (.imported package))
      (known : file.imports.get? package = some clause)
      (declared : ∀ other, schema.importedFile? clause = some other → (other.typeDeclaration? r.name).isSome)

theorem SourceFile.typeDeclaration?_found {file : SourceFile} {name : String} {d : Declaration SymbolId}
    (found : file.typeDeclaration? name = some d) : d ∈ file.declarations ∧ d.isType = true ∧ d.name = name := by
  have holds := List.find?_some found
  simp only [Bool.and_eq_true, decide_eq_true_eq] at holds
  exact ⟨List.mem_of_find?_eq_some found, holds⟩

theorem Declaration.reference_member {d : Declaration SymbolId} {r : Reference SymbolId} (inside : r ∈ d.references) :
    ∃ position type, (position, type) ∈ d.memberTypes ∧ r ∈ type.references := by
  obtain ⟨type, member, among⟩ := List.mem_flatMap.mp inside
  obtain ⟨⟨position, _⟩, found, rfl⟩ := List.mem_map.mp member
  exact ⟨position, _, found, among⟩

namespace Schema
variable {schema : Schema} {file : SourceFile} {d : Declaration SymbolId} {r : Reference SymbolId}

theorem Checked.declared (checked : schema.Checked) (member : file ∈ schema.files) (among : d ∈ file.declarations)
    (inside : r ∈ d.references) {package : String} {clause : Import}
    (target : file.symbols.target? r.symbol = some (.imported package))
    (known : file.imports.get? package = some clause) (other : SourceFile)
    (found : schema.importedFile? clause = some other) : (other.typeDeclaration? r.name).isSome := by
  obtain ⟨position, type, ofMember, ofType⟩ := Declaration.reference_member inside
  have silent : schema.missingType file position r = [] := by
    have whole := checked.complete
    rw [missingTypes, List.flatMap_eq_nil_iff] at whole
    have ofFile := List.flatMap_eq_nil_iff.mp (whole file member) d among
    exact List.flatMap_eq_nil_iff.mp (List.flatMap_eq_nil_iff.mp ofFile _ ofMember) r ofType
  unfold missingType at silent
  simp only [target, known, Option.bind_some, found] at silent
  cases declared : other.typeDeclaration? r.name with
  | some d => rfl
  | none => simp [declared] at silent

theorem Checked.leads (checked : schema.Checked) (member : file ∈ schema.files) (among : d ∈ file.declarations)
    (inside : r ∈ d.references) : schema.Leads file r := by
  have clean := checked.clean file member
  have resolved := clean.resolved
  obtain ⟨target, found⟩ := resolved.reference_symbol among inside
  obtain ⟨settled, rfl⟩ := Option.isSome_iff_exists.mp (clean.targets found)
  have atSymbol : file.symbols.target? r.symbol = some settled := by rw [SymbolTable.target?, found, Option.bind_some]
  rcases Reference.ofName_parts (resolved.references d among r inside).1 with
    ⟨unqualified, pointless⟩ | ⟨package, qualified, pointless⟩
  · have text : r.text = r.name := by simp [Reference.text, unqualified]
    obtain ⟨index, own, rfl, atIndex, _, first⟩ :=
      Declaration.ownTarget?_index (resolved.own_target found pointless).symm
    exact .own unqualified atSymbol atIndex (text ▸ first)
  · have text : r.text = package ++ "." ++ r.name := by simp [Reference.text, qualified]
    have imported := resolved.imported_target (text ▸ found) pointless
    split at imported
    · rename_i contained
      obtain ⟨clause, known⟩ := Option.isSome_iff_exists.mp contained
      cases imported
      exact .imported qualified atSymbol known (checked.declared member among inside atSymbol known)
    · cases imported

end Schema

theorem Dictionary.get?_filterKeys {κ α : Type} [LT κ] [DecidableEq κ] (keep : κ → Bool) (map : Dictionary κ α)
    {key : κ} (kept : keep key = true) : (map.filterKeys keep).get? key = map.get? key := by
  simp only [get?, filterKeys, List.find?_filter]
  congr 2
  funext entry
  by_cases same : entry.1 = key <;> simp [same, kept]

namespace Declaration
variable {σ : Type}

@[simp] theorem name_withoutDeprecated (d : Declaration σ) : d.withoutDeprecated.name = d.name := by cases d <;> rfl

@[simp] theorem isType_withoutDeprecated (d : Declaration σ) : d.withoutDeprecated.isType = d.isType := by
  cases d <;> rfl

theorem references_withoutDeprecated {d : Declaration σ} {r : Reference σ}
    (inside : r ∈ d.withoutDeprecated.references) : r ∈ d.references := by
  have types : ∀ type ∈ d.withoutDeprecated.types, type ∈ d.types := by
    intro type member
    cases d with
    | const | enumeration => exact member
    | struct s =>
      simp only [Declaration.types, memberTypes, withoutDeprecated, List.map_map, List.mem_map, List.mem_filter] at member ⊢
      obtain ⟨f, ⟨among, _⟩, same⟩ := member
      exact ⟨f, among, same⟩
    | union u =>
      simp only [Declaration.types, memberTypes, withoutDeprecated, List.map_map, List.mem_map, List.mem_filter] at member ⊢
      obtain ⟨b, ⟨among, _⟩, same⟩ := member
      exact ⟨b, among, same⟩
    | service s =>
      simp only [Declaration.types, memberTypes, withoutDeprecated, List.map_flatMap, List.mem_flatMap, List.mem_filter]
        at member ⊢
      obtain ⟨m, ⟨among, _⟩, same⟩ := member
      exact ⟨m, among, same⟩
  obtain ⟨type, member, among⟩ := List.mem_flatMap.mp inside
  exact List.mem_flatMap.mpr ⟨type, types type member, among⟩

end Declaration

namespace SourceFile
variable {file : SourceFile}

theorem typeDeclaration?_withoutDeprecated (file : SourceFile) (name : String) :
    file.withoutDeprecated.typeDeclaration? name = (file.typeDeclaration? name).map (·.withoutDeprecated) := by
  simp [typeDeclaration?, withoutDeprecated, List.find?_map]

theorem import_withoutDeprecated {d : Declaration SymbolId} (member : d ∈ file.withoutDeprecated.declarations)
    {r : Reference SymbolId} (inside : r ∈ d.references) {package : String} (qualified : r.package = some package) :
    file.withoutDeprecated.imports.get? package = file.imports.get? package := by
  refine Dictionary.get?_filterKeys _ _ ?_
  rw [List.contains_iff_mem, List.mem_flatMap]
  obtain ⟨type, ofType, among⟩ := List.mem_flatMap.mp inside
  exact ⟨d, member, List.mem_flatMap.mpr ⟨type, ofType, List.mem_filterMap.mpr ⟨r, among, qualified⟩⟩⟩

end SourceFile

namespace Schema
variable {schema : Schema} {file : SourceFile} {r : Reference SymbolId}

theorem importedFile?_withoutDeprecated (schema : Schema) (clause : Import) :
    importedFile? clause { schema with files := schema.files.map (·.withoutDeprecated) } =
      (schema.importedFile? clause).map (·.withoutDeprecated) := by
  simp only [importedFile?, List.find?_map]
  rfl

theorem Leads.withoutDeprecated (leads : schema.Leads file r) {d : Declaration SymbolId}
    (member : d ∈ file.withoutDeprecated.declarations) (inside : r ∈ d.references) :
    Leads { schema with files := schema.files.map (·.withoutDeprecated) } file.withoutDeprecated r := by
  cases leads with
  | own unqualified target found first =>
    refine .own unqualified target ?_ (by rw [SourceFile.typeDeclaration?_withoutDeprecated, first, Option.map_some])
    simp [SourceFile.withoutDeprecated, found]
  | imported qualified target known declared =>
    refine .imported qualified target ((SourceFile.import_withoutDeprecated member inside qualified).trans known) ?_
    intro other found
    rw [importedFile?_withoutDeprecated, Option.map_eq_some_iff] at found
    obtain ⟨whole, isImported, rfl⟩ := found
    rw [SourceFile.typeDeclaration?_withoutDeprecated, Option.isSome_map]
    exact declared whole isImported

end Schema

-- All references of a compiled schema lead to where their names say, whatever was left out of it.
theorem Workspace.compile_leads [Regex] {w : Workspace} {options : Options} {schema : Schema}
    (compiled : w.compile options = .ok schema) {file : SourceFile} (member : file ∈ schema.files)
    {d : Declaration SymbolId} (among : d ∈ file.declarations) {r : Reference SymbolId} (inside : r ∈ d.references) :
    schema.Leads file r := by
  obtain ⟨whole, checked, rfl⟩ := compile_parts compiled
  split at member
  · rename_i keeps
    rw [if_pos keeps]
    exact checked.leads member among inside
  · rename_i drops
    rw [if_neg drops]
    obtain ⟨before, ofWhole, rfl⟩ := List.mem_map.mp member
    obtain ⟨full, declared, rfl⟩ := List.mem_map.mp among
    exact (checked.leads ofWhole declared (Declaration.references_withoutDeprecated inside)).withoutDeprecated among inside

namespace Schema
variable {schema : Schema} {file : SourceFile} {r : Reference SymbolId}

theorem Leads.target (leads : schema.Leads file r) : (file.target? r).isSome := by
  cases leads with
  | own unqualified target found first => simp [SourceFile.target?, target, found]
  | imported qualified target known declared => simp [SourceFile.target?, target, known]

theorem Leads.declaration (leads : schema.Leads file r) (unqualified : r.package = none) :
    ∃ d ∈ file.declarations, schema.declaration? file r = some d ∧ d.isType = true ∧ d.name = r.name := by
  cases leads with
  | own _ target found first =>
    obtain ⟨member, isType, name⟩ := SourceFile.typeDeclaration?_found first
    exact ⟨_, member, by simp [declaration?, SourceFile.target?, target, found], isType, name⟩
  | imported qualified => simp [unqualified] at qualified

-- An import leads to no file of the schema, or to one that declares the type.
theorem Leads.import (leads : schema.Leads file r) {package : String} (qualified : r.package = some package) :
    ∃ clause, file.imports.get? package = some clause ∧ file.target? r = some (.imported clause) ∧
      ((∀ other ∈ schema.files, Path.same other.name (Path.join schema.root clause.path) = false) ∨
        ∃ other ∈ schema.files, Path.same other.name (Path.join schema.root clause.path) = true ∧
          ∃ d ∈ other.declarations, schema.declaration? file r = some d ∧ d.isType = true ∧ d.name = r.name) := by
  cases leads with
  | own unqualified => simp [unqualified] at qualified
  | @imported name clause written target known declared =>
    obtain rfl : name = package := Option.some.inj (written.symm.trans qualified)
    have isTarget : file.target? r = some (.imported clause) := by simp [SourceFile.target?, target, known]
    refine ⟨clause, known, isTarget, ?_⟩
    cases found : schema.importedFile? clause with
    | none => exact .inl fun other member => by simpa using List.find?_eq_none.mp found other member
    | some other =>
      obtain ⟨d, first⟩ := Option.isSome_iff_exists.mp (declared other found)
      obtain ⟨member, isType, sameName⟩ := SourceFile.typeDeclaration?_found first
      have resolved : schema.declaration? file r = some d := by simp [declaration?, isTarget, found, first]
      have same := List.find?_some found
      exact .inr ⟨other, List.mem_of_find?_eq_some found, same, d, member, resolved, isType, sameName⟩

end Schema

theorem Glob.Pattern.ofText?_literal [Regex] {name : String} (whole : pieces '/' name.toList = [name.toList])
    (named : name ≠ "" ∧ name ≠ "." ∧ name ≠ ".." ∧ name ≠ "**") (plain : Segment.isMarked name = false) :
    Pattern.ofText? name = .ok [.literal name] := by
  have segment : Segment.ofText? name = .ok (.literal name) := by simp [Segment.ofText?, named, plain]
  simp [Pattern.ofText?, whole, named, segment, Segment.isAnyDirectories, bind, Except.bind, pure, Except.pure]

-- Two files that are right one by one. Most members of the first are of types that the second declares.
namespace TwoFiles

def client : List UInt8 := Text.encode
  ("package a; import \"b.mprot\"; struct S \x7b F b.V \"1\" \x7d; " ++
    "union U \x7b b.W \"1\"; b.E \"2\"; int \"3\" \x7d; service X \x7b M(b.V) S \"1\" \x7d").toList

def server : List UInt8 := Text.encode
  "package b; service V \x7b \x7d; union W \x7b int \"1\" \x7d; enum E \x7b \x7d".toList

def workspace : Workspace :=
  ⟨⟨⟨[(["a.mprot"], .file client), (["b.mprot"], .file server)], by simp; decide⟩, by simp⟩, []⟩

def options : Options := ⟨"/", ["a.mprot", "b.mprot"], true⟩

def dropping : Options := { options with keepDeprecated := false }

structure Holds (w : Workspace) (first second : List UInt8) (beside : List (Location × Node)) : Prop where
  entries : w.tree.nodes.entries = (["a.mprot"], .file first) :: (["b.mprot"], .file second) :: beside
  directories : ∀ entry ∈ beside, entry.2 = .directory

namespace Holds
variable {w : Workspace} {first second : List UInt8} {beside : List (Location × Node)}

theorem contents (holds : Holds w first second beside) :
    w.read "/a.mprot" = .ok first ∧ w.read "/b.mprot" = .ok second := by
  have toFirst : FileTree.steps "/a.mprot" = ["a.mprot"] ∧ Path.isAbsolute "/a.mprot" = true := by decide
  have toSecond : FileTree.steps "/b.mprot" = ["b.mprot"] ∧ Path.isAbsolute "/b.mprot" = true := by decide
  simp [Workspace.read, FileTree.read, FileTree.locate, FileTree.startOf, toFirst, toSecond, FileTree.follow,
    FileTree.isDirectory, FileTree.node?, holds.entries, Dictionary.get?, Except.mapError, bind, Except.bind, pure,
    Except.pure]

section Search
variable [Regex]

theorem searched (holds : Holds w first second beside) :
    w.search [] options.patterns = .ok [["a.mprot"], ["b.mprot"]] := by
  have ofFirst : w.patternAt [] "a.mprot" = .ok [.literal "a.mprot"] :=
    Workspace.patternAt_ok.mpr ⟨Glob.Pattern.ofText?_literal (by decide) (by decide) (by decide), nofun⟩
  have ofSecond : w.patternAt [] "b.mprot" = .ok [.literal "b.mprot"] :=
    Workspace.patternAt_ok.mpr ⟨Glob.Pattern.ofText?_literal (by decide) (by decide) (by decide), nofun⟩
  have none : ∀ tests, beside.filterMap (w.kept? [] tests) = [] := by
    refine fun tests => List.filterMap_eq_nil_iff.mpr fun entry member => Option.eq_none_iff_forall_not_mem.mpr fun l kept => ?_
    obtain ⟨_, _, _, _, candidate, _⟩ := Workspace.kept?_eq_some.mp kept
    rw [holds.directories entry member] at candidate
    cases candidate
  have rooted : (w.tree.node? []).isSome := by simp [FileTree.node?]
  rw [Workspace.search_eq rooted, options]
  simp [ofFirst, ofSecond, holds.entries, none, Workspace.kept?, Workspace.isCandidate, Glob.Pattern.admits,
    Glob.Segment.admits, Except.map, bind, Except.bind, pure, Except.pure]

theorem understood (holds : Holds w first second beside) {a b : SourceFile}
    (ofFirst : SourceFile.understand "/a.mprot" first = (a, []))
    (ofSecond : SourceFile.understand "/b.mprot" second = (b, [])) :
    w.understandFiles "/" options.patterns =
      .ok (⟨"/", [a, b]⟩, Findings.sort (Schema.missingTypes ⟨"/", [a, b]⟩)) := by
  have paths : Location.path ["a.mprot"] = "/a.mprot" ∧ Location.path ["b.mprot"] = "/b.mprot" ∧
      Location.path [] = "/" := by decide
  have understoodFirst : w.understandFile "/a.mprot" = .ok (a, []) := by
    rw [Workspace.understandFile, holds.contents.1]
    exact congrArg Except.ok ofFirst
  have understoodSecond : w.understandFile "/b.mprot" = .ok (b, []) := by
    rw [Workspace.understandFile, holds.contents.2]
    exact congrArg Except.ok ofSecond
  simp only [Workspace.understandFiles, w.locate_top, holds.searched, List.mapM_cons, List.mapM_nil, paths,
    understoodFirst, understoodSecond, bind, Except.bind, pure, Except.pure, List.map_cons, List.map_nil,
    List.flatMap_cons, List.flatMap_nil, List.nil_append]

theorem compiled (holds : Holds w first second beside) {a b : SourceFile}
    (ofFirst : SourceFile.understand "/a.mprot" first = (a, []))
    (ofSecond : SourceFile.understand "/b.mprot" second = (b, []))
    (complete : Schema.missingTypes ⟨"/", [a, b]⟩ = []) :
    w.compile options = .ok ⟨"/", [a, b]⟩ ∧
      w.compile dropping = .ok ⟨"/", [a.withoutDeprecated, b.withoutDeprecated]⟩ := by
  have sanitized : options.sanitized = options ∧ dropping.sanitized = dropping := by decide
  have read : w.understandFiles "/" options.patterns = .ok (⟨"/", [a, b]⟩, []) := by
    rw [holds.understood ofFirst ofSecond, complete, Findings.sort_eq_nil.mpr rfl]
  constructor
  · rw [Workspace.compile, sanitized.1]
    dsimp only
    rw [show options.rootDirectory = "/" from rfl, read]
    rfl
  · rw [Workspace.compile, sanitized.2]
    dsimp only
    rw [show dropping.rootDirectory = "/" from rfl, show dropping.patterns = options.patterns from rfl, read]
    rfl

end Search
end Holds

def words (file : String) (line : List (Nat × TokenKind × String)) : List Token :=
  line.map fun (column, kind, text) => ⟨kind, text, ⟨file, 1, column⟩⟩

def clientTokens : List Token := words "/a.mprot" [
    (1, .keyword .package, "package"), (9, .identifier, "a"), (10, .semicolon, ";"),
    (12, .keyword .importing, "import"), (19, .string, "\"b.mprot\""), (28, .semicolon, ";"),
    (30, .keyword .struct, "struct"), (37, .identifier, "S"), (39, .openBrace, "\x7b"), (41, .identifier, "F"),
    (43, .identifier, "b"), (44, .period, "."), (45, .identifier, "V"), (47, .string, "\"1\""),
    (51, .closeBrace, "\x7d"), (52, .semicolon, ";"), (54, .keyword .union, "union"), (60, .identifier, "U"),
    (62, .openBrace, "\x7b"), (64, .identifier, "b"), (65, .period, "."), (66, .identifier, "W"),
    (68, .string, "\"1\""), (71, .semicolon, ";"), (73, .identifier, "b"), (74, .period, "."),
    (75, .identifier, "E"), (77, .string, "\"2\""), (80, .semicolon, ";"), (82, .identifier, "int"),
    (86, .string, "\"3\""), (90, .closeBrace, "\x7d"), (91, .semicolon, ";"),
    (93, .keyword .service, "service"), (101, .identifier, "X"), (103, .openBrace, "\x7b"),
    (105, .identifier, "M"), (106, .openParen, "("), (107, .identifier, "b"), (108, .period, "."),
    (109, .identifier, "V"), (110, .closeParen, ")"), (112, .identifier, "S"), (114, .string, "\"1\""),
    (118, .closeBrace, "\x7d"), (119, .semicolon, "\n")]

def serverTokens : List Token := words "/b.mprot" [
    (1, .keyword .package, "package"), (9, .identifier, "b"), (10, .semicolon, ";"),
    (12, .keyword .service, "service"), (20, .identifier, "V"), (22, .openBrace, "\x7b"),
    (24, .closeBrace, "\x7d"), (25, .semicolon, ";"), (27, .keyword .union, "union"), (33, .identifier, "W"),
    (35, .openBrace, "\x7b"), (37, .identifier, "int"), (41, .string, "\"1\""), (45, .closeBrace, "\x7d"),
    (46, .semicolon, ";"), (48, .keyword .enumeration, "enum"), (53, .identifier, "E"),
    (55, .openBrace, "\x7b"), (57, .closeBrace, "\x7d"), (58, .semicolon, "\n")]

def other (name : String) (symbol : SymbolId) : ValueType SymbolId := .defined ⟨some "b", name, symbol⟩

def clientFile : SourceFile where
  name := "/a.mprot"
  doc := []
  package := ⟨⟨"/a.mprot", 1, 1⟩, "a"⟩
  imports := .insert "b" ⟨⟨"/a.mprot", 1, 12⟩, "b.mprot", "b"⟩ ∅
  declarations := [
    .struct ⟨⟨"/a.mprot", 1, 30⟩, [], "S", [⟨⟨"/a.mprot", 1, 41⟩, "F", other "V" 0, 1, ∅⟩]⟩,
    .union ⟨⟨"/a.mprot", 1, 54⟩, [], "U", [
      ⟨⟨"/a.mprot", 1, 64⟩, other "W" 2, 1, ∅⟩,
      ⟨⟨"/a.mprot", 1, 73⟩, other "E" 3, 2, ∅⟩,
      ⟨⟨"/a.mprot", 1, 82⟩, .int 0 false, 3, ∅⟩]⟩,
    .service ⟨⟨"/a.mprot", 1, 93⟩, [], "X", [
      ⟨⟨"/a.mprot", 1, 105⟩, [], "M", [other "V" 0], some (.defined ⟨none, "S", 1⟩), 1, ∅⟩]⟩]
  symbols := ⟨[⟨"b.V", some (.imported "b")⟩, ⟨"S", some (.declaration 0)⟩, ⟨"b.W", some (.imported "b")⟩,
      ⟨"b.E", some (.imported "b")⟩, ⟨"U", some (.declaration 1)⟩, ⟨"X", some (.declaration 2)⟩],
    [("X", 5), ("U", 4), ("b.E", 3), ("b.W", 2), ("S", 1), ("b.V", 0)]⟩

def serverFile : SourceFile where
  name := "/b.mprot"
  doc := []
  package := ⟨⟨"/b.mprot", 1, 1⟩, "b"⟩
  imports := ∅
  declarations := [
    .service ⟨⟨"/b.mprot", 1, 12⟩, [], "V", []⟩,
    .union ⟨⟨"/b.mprot", 1, 27⟩, [], "W", [⟨⟨"/b.mprot", 1, 37⟩, .int 0 false, 1, ∅⟩]⟩,
    .enumeration ⟨⟨"/b.mprot", 1, 48⟩, [], "E", []⟩]
  symbols := ⟨[⟨"V", some (.declaration 0)⟩, ⟨"W", some (.declaration 1)⟩, ⟨"E", some (.declaration 2)⟩],
    [("E", 2), ("W", 1), ("V", 0)]⟩

def schema : Schema := ⟨"/", [clientFile, serverFile]⟩

theorem client_tokens : Token.allOf Token.defaultLimit "/a.mprot" client =
    (clientTokens, ⟨.endOfFile, "", ⟨"/a.mprot", 1, 119⟩⟩) := by
  exact Token.allOf_first (n := 46) (Text.spelled_append rfl rfl) (by decide +kernel) (by decide) rfl

theorem server_tokens : Token.allOf Token.defaultLimit "/b.mprot" server =
    (serverTokens, ⟨.endOfFile, "", ⟨"/b.mprot", 1, 58⟩⟩) := by
  exact Token.allOf_first (n := 20) rfl rfl (by decide) rfl

theorem client_bound : SourceFile.bound "/a.mprot" client = ⟨{ clientFile with symbols :=
    ⟨[⟨"b.V", none⟩, ⟨"S", some (.declaration 0)⟩, ⟨"b.W", none⟩, ⟨"b.E", none⟩, ⟨"U", some (.declaration 1)⟩,
      ⟨"X", some (.declaration 2)⟩], [("X", 5), ("U", 4), ("b.E", 3), ("b.W", 2), ("S", 1), ("b.V", 0)]⟩ },
    [⟨0, ⟨"/a.mprot", 1, 43⟩⟩, ⟨2, ⟨"/a.mprot", 1, 64⟩⟩, ⟨3, ⟨"/a.mprot", 1, 73⟩⟩], []⟩ := by
  rw [SourceFile.bound, client_tokens]
  cbv

theorem client_understood : SourceFile.understand "/a.mprot" client = (clientFile, []) := by
  rw [SourceFile.understand, client_bound]
  cbv

theorem server_understood : SourceFile.understand "/b.mprot" server = (serverFile, []) := by
  have bound : SourceFile.bound "/b.mprot" server = ⟨serverFile, [], []⟩ := by
    rw [SourceFile.bound, server_tokens]
    cbv
  rw [SourceFile.understand, bound]
  cbv

theorem holds : Holds workspace client server [] := ⟨rfl, by simp⟩

theorem compiled [Regex] : workspace.compile options = .ok schema ∧
    workspace.compile dropping = .ok { schema with files := schema.files.map (·.withoutDeprecated) } :=
  holds.compiled client_understood server_understood (by decide)

end TwoFiles

-- No reference of a compiled schema is left without its import or its declaration. A path is held against those of the
-- files by its components.
theorem Workspace.compile_references [Regex] (w : Workspace) (options : Options) (schema : Schema)
    (compiled : w.compile options = .ok schema) :
    ∀ file ∈ schema.files, ∀ d ∈ file.declarations, ∀ r ∈ d.references,
      (file.target? r).isSome ∧
      (r.package = none → ∃ own ∈ file.declarations, schema.declaration? file r = some own ∧
        own.isType = true ∧ own.name = r.name) ∧
      ∀ package, r.package = some package →
        ∃ clause, file.imports.get? package = some clause ∧ file.target? r = some (.imported clause) ∧
          ((∀ other ∈ schema.files, Path.same other.name (Path.join schema.root clause.path) = false) ∨
            ∃ other ∈ schema.files, Path.same other.name (Path.join schema.root clause.path) = true ∧
              ∃ d ∈ other.declarations, schema.declaration? file r = some d ∧ d.isType = true ∧ d.name = r.name) := by
  intro file member d among r inside
  have leads := compile_leads compiled member among inside
  exact ⟨leads.target, leads.declaration, fun package qualified => leads.import qualified⟩

-- A struct with a reference to itself, one through an import of the second file, and in a deprecated field one through
-- an import of a file that is not there.
namespace PrunedImport
open TwoFiles Elementary

def client : List UInt8 := Text.encode ("package a; import \"b.mprot\"; import \"c.mprot\"; " ++
  "struct S \x7b F b.V \"1\"; G c.V \"2 deprecated\"; H S \"3\" \x7d").toList

def workspace : Workspace :=
  ⟨⟨⟨[(["a.mprot"], .file client), (["b.mprot"], .file server)], by simp; decide⟩, by simp⟩, []⟩

def ofSecond : Reference SymbolId := ⟨some "b", "V", 0⟩

def ofAbsent : Reference SymbolId := ⟨some "c", "V", 1⟩

def toItself : Reference SymbolId := ⟨none, "S", 2⟩

def clientFile : SourceFile where
  name := "/a.mprot"
  doc := []
  package := ⟨⟨"/a.mprot", 1, 1⟩, "a"⟩
  imports := .insert "b" ⟨⟨"/a.mprot", 1, 12⟩, "b.mprot", "b"⟩ (.insert "c" ⟨⟨"/a.mprot", 1, 30⟩, "c.mprot", "c"⟩ ∅)
  declarations := [.struct ⟨⟨"/a.mprot", 1, 48⟩, [], "S", [
    ⟨⟨"/a.mprot", 1, 59⟩, "F", .defined ofSecond, 1, ∅⟩,
    ⟨⟨"/a.mprot", 1, 70⟩, "G", .defined ofAbsent, 2, .insert "deprecated" "" ∅⟩,
    ⟨⟨"/a.mprot", 1, 92⟩, "H", .defined toItself, 3, ∅⟩]⟩]
  symbols := ⟨[⟨"b.V", some (.imported "b")⟩, ⟨"c.V", some (.imported "c")⟩, ⟨"S", some (.declaration 0)⟩],
    [("S", 2), ("c.V", 1), ("b.V", 0)]⟩

def schema : Schema := ⟨"/", [clientFile, serverFile]⟩

def filtered : Schema := ⟨"/", [clientFile.withoutDeprecated, serverFile.withoutDeprecated]⟩

theorem client_tokens : Token.allOf Token.defaultLimit "/a.mprot" client =
    (words "/a.mprot" [(1, .keyword .package, "package"), (9, .identifier, "a"), (10, .semicolon, ";"),
      (12, .keyword .importing, "import"), (19, .string, "\"b.mprot\""), (28, .semicolon, ";"),
      (30, .keyword .importing, "import"), (37, .string, "\"c.mprot\""), (46, .semicolon, ";"),
      (48, .keyword .struct, "struct"), (55, .identifier, "S"), (57, .openBrace, "\x7b"),
      (59, .identifier, "F"), (61, .identifier, "b"), (62, .period, "."), (63, .identifier, "V"), (65, .string, "\"1\""),
      (68, .semicolon, ";"), (70, .identifier, "G"), (72, .identifier, "c"), (73, .period, "."), (74, .identifier, "V"),
      (76, .string, "\"2 deprecated\""), (90, .semicolon, ";"), (92, .identifier, "H"), (94, .identifier, "S"),
      (96, .string, "\"3\""), (100, .closeBrace, "\x7d"), (101, .semicolon, "\n")],
      ⟨.endOfFile, "", ⟨"/a.mprot", 1, 101⟩⟩) := by
  exact Token.allOf_first (n := 29) (Text.spelled_append rfl rfl) rfl (by decide) rfl

theorem client_understood : SourceFile.understand "/a.mprot" client = (clientFile, []) := by
  have bound : SourceFile.bound "/a.mprot" client = ⟨{ clientFile with symbols :=
      ⟨[⟨"b.V", none⟩, ⟨"c.V", none⟩, ⟨"S", some (.declaration 0)⟩], [("S", 2), ("c.V", 1), ("b.V", 0)]⟩ },
      [⟨0, ⟨"/a.mprot", 1, 61⟩⟩, ⟨1, ⟨"/a.mprot", 1, 72⟩⟩, ⟨2, ⟨"/a.mprot", 1, 94⟩⟩], []⟩ := by
    rw [SourceFile.bound, client_tokens]
    cbv
  rw [SourceFile.understand, bound]
  cbv

theorem compiled [Regex] : workspace.compile options = .ok schema ∧ workspace.compile dropping = .ok filtered :=
  @Holds.compiled _ _ _ [] _ ⟨rfl, by simp⟩ _ _ client_understood server_understood (by decide)

theorem declared_second {s : Schema} {file first second : SourceFile} {path : String} {r : Reference SymbolId}
    (files : s.files = [first, second]) (apart : Path.same first.name path = false) (same : Path.same second.name path = true)
    (leads : (∀ other ∈ s.files, Path.same other.name path = false) ∨ ∃ other ∈ s.files, Path.same other.name path = true ∧
      ∃ d ∈ other.declarations, s.declaration? file r = some d ∧ d.isType = true ∧ d.name = r.name) :
    ∃ d ∈ second.declarations, s.declaration? file r = some d ∧ d.isType = true ∧ d.name = r.name := by
  rcases leads with nowhere | ⟨other, member, isSame, found⟩
  · exact absurd ((nowhere second (by simp [files])).symm.trans same) Bool.false_ne_true
  · rw [files, List.mem_pair] at member
    rcases member with rfl | rfl
    · exact absurd (apart.symm.trans isSame) Bool.false_ne_true
    · exact found

-- The deprecated field takes its import with it. The two other references lead to the same declarations as before.
theorem references_found :
    @Workspace.compile engine workspace options = .ok schema ∧
    @Workspace.compile engine workspace dropping = .ok filtered ∧
    ((clientFile.target? toItself).isSome ∧ ∃ own ∈ clientFile.declarations,
      schema.declaration? clientFile toItself = some own ∧ own.isType = true ∧ own.name = "S") ∧
    ((clientFile.target? ofSecond).isSome ∧ ∃ d ∈ serverFile.declarations,
      schema.declaration? clientFile ofSecond = some d ∧ d.isType = true ∧ d.name = "V") ∧
    ((clientFile.target? ofAbsent).isSome ∧ ∃ clause, clientFile.imports.get? "c" = some clause ∧
      clientFile.target? ofAbsent = some (.imported clause) ∧
      ∀ other ∈ schema.files, Path.same other.name (Path.join schema.root clause.path) = false) ∧
    ((clientFile.withoutDeprecated.target? toItself).isSome ∧ ∃ own ∈ clientFile.withoutDeprecated.declarations,
      filtered.declaration? clientFile.withoutDeprecated toItself = some own ∧ own.isType = true ∧ own.name = "S") ∧
    ((clientFile.withoutDeprecated.target? ofSecond).isSome ∧ ∃ d ∈ serverFile.withoutDeprecated.declarations,
      filtered.declaration? clientFile.withoutDeprecated ofSecond = some d ∧ d.isType = true ∧ d.name = "V") ∧
    clientFile.withoutDeprecated.imports.get? "c" = none := by
  have ofWhole := @Workspace.compile_references engine workspace options schema (@compiled engine).1 clientFile
    List.mem_cons_self _ List.mem_cons_self
  have ofFiltered := @Workspace.compile_references engine workspace dropping filtered (@compiled engine).2
    clientFile.withoutDeprecated List.mem_cons_self _ List.mem_cons_self
  have itself := ofWhole toItself (by decide)
  have second := ofWhole ofSecond (by decide)
  have absent := ofWhole ofAbsent (by decide)
  have itselfKept := ofFiltered toItself (by decide)
  have secondKept := ofFiltered ofSecond (by decide)
  refine ⟨(@compiled engine).1, (@compiled engine).2, ⟨itself.1, itself.2.1 rfl⟩, ⟨second.1, ?_⟩, ⟨absent.1, ?_⟩,
    ⟨itselfKept.1, itselfKept.2.1 rfl⟩, ⟨secondKept.1, ?_⟩, by decide⟩
  · obtain ⟨clause, known, _, leads⟩ := second.2.2 "b" rfl
    cases known
    exact declared_second rfl (by decide) (by decide) leads
  · obtain ⟨clause, known, isTarget, leads⟩ := absent.2.2 "c" rfl
    refine ⟨clause, known, isTarget, leads.resolve_right ?_⟩
    cases known
    decide
  · obtain ⟨clause, known, _, leads⟩ := secondKept.2.2 "b" rfl
    cases known
    exact declared_second rfl (by decide) (by decide) leads

end PrunedImport

end WireSchema

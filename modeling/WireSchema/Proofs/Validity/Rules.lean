import Mathlib
import WireSchema.Binding
import WireSchema.Proofs.Token.Names
import WireSchema.Proofs.Validity.Agreement

-- The rules for the members of declarations, each for itself and without an order among them. The checks find
-- nothing in a file if it follows the rules and, in its unions, no declared type has the name of another type.
namespace WireSchema

-- What a union has at most one branch of, besides its one numeric branch.
inductive Shape where
  | bool | string | bytes | time | array | map
deriving DecidableEq

namespace ValueType
variable {σ : Type}

def shape? : ValueType σ → Option Shape
  | .bool => some .bool
  | .string => some .string
  | .bytes => some .bytes
  | .time => some .time
  | .array _ _ => some .array
  | .map _ _ => some .map
  | _ => none

def declaredName? : ValueType σ → Option String
  | .defined reference => some reference.name
  | _ => none

-- Whether a branch behind another is taken for it, though one of the two is declared and the other is not.
def shadows (before type : ValueType σ) : Bool :=
  !type.isNumber && before.wireName == type.wireName && before.declaredName?.isSome != type.declaredName?.isSome

end ValueType

def Enumeration.FollowsRules (e : Enumeration) : Prop := (e.enumerators.map (·.name)).Nodup

section
variable (kind? : Reference SymbolId → Option DeclarationKind)

-- Ordinals of zero were reported before, so they are left aside.
structure Struct.FollowsRules (s : Struct SymbolId) : Prop where
  names : (s.fields.map (·.name)).Nodup
  ordinals : ((s.fields.map (·.ordinal)).filter (· ≠ 0)).Nodup
  types : ∀ f ∈ s.fields, f.type.isA kind? .service = false

structure Union.FollowsRules (u : Union SymbolId) : Prop where
  inhabited : u.branches ≠ []
  types : ∀ b ∈ u.branches, b.type.isBarred kind? = false
  numeric : (u.branches.filter (·.type.isNumeric kind?)).length ≤ 1
  shapes : (u.branches.filterMap (·.type.shape?)).Nodup
  declared : (u.branches.filterMap (·.type.declaredName?)).Nodup
  ordinals : ((u.branches.map (·.ordinal)).filter (· ≠ 0)).Nodup

structure Service.FollowsRules (s : Service SymbolId) : Prop where
  names : (s.methods.map (·.name)).Nodup
  ordinals : ((s.methods.map (·.ordinal)).filter (· ≠ 0)).Nodup
  types : ∀ m ∈ s.methods, ∀ type ∈ m.types, type.isA kind? .service = false

def Declaration.FollowsRules : Declaration SymbolId → Prop
  | .const _ => True
  | .enumeration e => e.FollowsRules
  | .struct s => s.FollowsRules kind?
  | .union u => u.FollowsRules kind?
  | .service s => s.FollowsRules kind?

instance (s : Struct SymbolId) : Decidable (s.FollowsRules kind?) :=
  decidable_of_iff (_ ∧ _ ∧ _) ⟨fun ⟨names, ordinals, types⟩ => ⟨names, ordinals, types⟩,
    fun ⟨names, ordinals, types⟩ => ⟨names, ordinals, types⟩⟩

instance (u : Union SymbolId) : Decidable (u.FollowsRules kind?) :=
  decidable_of_iff (_ ∧ _ ∧ _ ∧ _ ∧ _ ∧ _)
    ⟨fun ⟨inhabited, types, numeric, shapes, declared, ordinals⟩ =>
      ⟨inhabited, types, numeric, shapes, declared, ordinals⟩,
    fun ⟨inhabited, types, numeric, shapes, declared, ordinals⟩ =>
      ⟨inhabited, types, numeric, shapes, declared, ordinals⟩⟩

instance (s : Service SymbolId) : Decidable (s.FollowsRules kind?) :=
  decidable_of_iff (_ ∧ _ ∧ _) ⟨fun ⟨names, ordinals, types⟩ => ⟨names, ordinals, types⟩,
    fun ⟨names, ordinals, types⟩ => ⟨names, ordinals, types⟩⟩

instance : (d : Declaration SymbolId) → Decidable (d.FollowsRules kind?)
  | .const _ => isTrue trivial
  | .enumeration e => inferInstanceAs (Decidable (e.enumerators.map (·.name)).Nodup)
  | .struct s => inferInstanceAs (Decidable (s.FollowsRules kind?))
  | .union u => inferInstanceAs (Decidable (u.FollowsRules kind?))
  | .service s => inferInstanceAs (Decidable (s.FollowsRules kind?))

end

-- Kinds are those of the declarations of the file; what is behind an import has none.
structure SourceFile.FollowsRules (file : SourceFile) : Prop where
  constants : ((file.declarations.filter (·.kind = .const)).map (·.name)).Nodup
  each : ∀ d ∈ file.declarations, d.FollowsRules (file.kind? ·)

instance (file : SourceFile) : Decidable file.FollowsRules :=
  decidable_of_iff (_ ∧ _) ⟨fun ⟨constants, each⟩ => ⟨constants, each⟩, fun ⟨constants, each⟩ => ⟨constants, each⟩⟩

def Union.Unshadowed (u : Union SymbolId) : Prop :=
  u.branches.Pairwise (fun before b => before.type.shadows b.type = false)

def SourceFile.Unshadowed (file : SourceFile) : Prop :=
  ∀ u, .union u ∈ file.declarations → u.Unshadowed

section Lists
variable {α : Type} {xs : List α}

theorem atMostOne_iff {p : α → Bool} :
    (xs.filter p).length ≤ 1 ↔ xs.Pairwise (fun before x => (p before && p x) = false) := by
  have short : ∀ ys : List α, ys.length ≤ 1 ↔ ys.Pairwise (fun _ _ => False)
    | [] | [_] => by simp
    | _ :: second :: _ => ⟨by simp, fun apart => ((List.pairwise_cons.mp apart).1 second List.mem_cons_self).elim⟩
  rw [short, List.pairwise_filter]
  refine List.Pairwise.iff ?_
  intro before x
  cases p before <;> cases p x <;> simp

theorem ordinals_iff {ordinal : α → Int} : ((xs.map ordinal).filter (· ≠ 0)).Nodup ↔
    xs.Pairwise (fun before x => Ordinal.Agrees (ordinal before) (ordinal x)) := by
  rw [List.nodup_iff_pairwise_ne, List.pairwise_filter, List.pairwise_map]
  refine List.Pairwise.iff ?_
  intro before x
  unfold Ordinal.Agrees
  constructor
  · intro apart nonzero same
    exact apart (by simp [same, nonzero]) (by simp [nonzero]) same
  · intro agrees _ nonzero
    exact agrees (by simpa using nonzero)

theorem distinct_pairs {name : α → String} {ordinal : α → Int} : xs.Pairwise (Distinct name ordinal) ↔
    (xs.map name).Nodup ∧ ((xs.map ordinal).filter (· ≠ 0)).Nodup := by
  rw [ordinals_iff, List.nodup_iff_pairwise_ne, List.pairwise_map, ← List.pairwise_and_iff]
  refine List.Pairwise.iff fun _ _ => ?_
  exact ⟨fun ⟨names, ordinals⟩ => ⟨names, ordinals⟩, fun ⟨names, ordinals⟩ => ⟨names, ordinals⟩⟩

theorem coherent_distinct {right : α → Prop} {name : α → String} {ordinal : α → Int} :
    Coherent right (Distinct name ordinal) xs ↔
      (xs.map name).Nodup ∧ ((xs.map ordinal).filter (· ≠ 0)).Nodup ∧ ∀ x ∈ xs, right x := by
  constructor
  · rintro ⟨each, pairs⟩
    obtain ⟨names, ordinals⟩ := distinct_pairs.mp pairs
    exact ⟨names, ordinals, each⟩
  · rintro ⟨names, ordinals, each⟩
    exact ⟨each, distinct_pairs.mpr ⟨names, ordinals⟩⟩

end Lists

namespace ValueType
variable {kind? : Reference SymbolId → Option DeclarationKind} {before type : ValueType SymbolId}

-- Names on the wire are those of the shapes and of declared types, and of numbers, of which only the one in front
-- is looked at.
theorem wireName_free (firstAllowed : before.isBarred kind? = false) (allowed : type.isBarred kind? = false) :
    (type.isNumber = false → before.wireName ≠ type.wireName) ↔
      (∀ shape, before.shape? = some shape → ∀ other, type.shape? = some other → shape ≠ other) ∧
        (∀ name, before.declaredName? = some name → ∀ other, type.declaredName? = some other → name ≠ other) ∧
        before.shadows type = false := by
  cases before <;> cases type <;>
    simp_all [isNumber, wireName, shape?, declaredName?, shadows, isBarred]

end ValueType

namespace Validity
variable {file : SourceFile}

theorem branches_pairs {kind? : Reference SymbolId → Option DeclarationKind} {bs : List (Branch SymbolId)}
    (allowed : ∀ b ∈ bs, b.type.isBarred kind? = false) : bs.Pairwise (Branch.Agrees kind?) ↔
      (bs.filter (·.type.isNumeric kind?)).length ≤ 1 ∧ (bs.filterMap (·.type.shape?)).Nodup ∧
        (bs.filterMap (·.type.declaredName?)).Nodup ∧ ((bs.map (·.ordinal)).filter (· ≠ 0)).Nodup ∧
        bs.Pairwise (fun before b => before.type.shadows b.type = false) := by
  rw [atMostOne_iff, ordinals_iff, List.nodup_iff_pairwise_ne, List.nodup_iff_pairwise_ne, List.pairwise_filterMap,
    List.pairwise_filterMap, ← List.pairwise_and_iff, ← List.pairwise_and_iff, ← List.pairwise_and_iff,
    ← List.pairwise_and_iff]
  refine List.Pairwise.iff_of_mem ?_
  intro before b inFront behind
  have free := ValueType.wireName_free (allowed before inFront) (allowed b behind)
  constructor
  · rintro ⟨numeric, wireNames, ordinals⟩
    obtain ⟨shapes, declared, unshadowed⟩ := free.mp wireNames
    exact ⟨numeric, shapes, declared, ordinals, unshadowed⟩
  · rintro ⟨numeric, shapes, declared, ordinals, unshadowed⟩
    exact ⟨numeric, free.mpr ⟨shapes, declared, unshadowed⟩, ordinals⟩

theorem union_iff {u : Union SymbolId} :
    declaration file ∅ (.union u) = [] ↔ u.FollowsRules (file.kind? ·) ∧ u.Unshadowed := by
  rw [union_parts, branches_iff]
  constructor
  · rintro ⟨inhabited, types, pairs⟩
    obtain ⟨numeric, shapes, declared, ordinals, unshadowed⟩ := (branches_pairs types).mp pairs
    exact ⟨⟨inhabited, types, numeric, shapes, declared, ordinals⟩, unshadowed⟩
  · rintro ⟨⟨inhabited, types, numeric, shapes, declared, ordinals⟩, unshadowed⟩
    exact ⟨inhabited, types, (branches_pairs types).mpr ⟨numeric, shapes, declared, ordinals, unshadowed⟩⟩

theorem declaration_follows {d : Declaration SymbolId} : declaration file ∅ d = [] ↔
    d.FollowsRules (file.kind? ·) ∧ ∀ u, d = .union u → u.Unshadowed := by
  cases d with
  | const c =>
    have alone : constant ∅ c = [] := rfl
    simp [declaration, alone, Declaration.FollowsRules]
  | enumeration e =>
    rw [declaration, enumerators_iff]
    simp only [reduceCtorEq, false_implies, implies_true, and_true]
    rw [Declaration.FollowsRules, Enumeration.FollowsRules, List.nodup_iff_pairwise_ne, List.pairwise_map]
    exact ⟨fun coherent => coherent.pairs, fun names => ⟨fun _ _ => trivial, names⟩⟩
  | struct s =>
    rw [declaration, fields_iff, coherent_distinct]
    simp only [reduceCtorEq, false_implies, implies_true, and_true]
    constructor <;> rintro ⟨names, ordinals, types⟩ <;> exact ⟨names, ordinals, types⟩
  | union u =>
    rw [union_iff]
    simp only [Declaration.union.injEq, forall_eq', Declaration.FollowsRules]
  | service s =>
    rw [declaration, methods_iff, coherent_distinct]
    simp only [reduceCtorEq, false_implies, implies_true, and_true]
    constructor <;> rintro ⟨names, ordinals, types⟩ <;> exact ⟨names, ordinals, types⟩

theorem constants_pairs {ds : List (Declaration SymbolId)} :
    ds.Pairwise Declaration.Agrees ↔ ((ds.filter (·.kind = .const)).map (·.name)).Nodup := by
  rw [List.nodup_iff_pairwise_ne, List.pairwise_map, List.pairwise_filter]
  refine List.Pairwise.iff ?_
  intro before d
  simp only [Declaration.Agrees, decide_eq_true_eq, ne_eq]

end Validity

namespace SourceFile
variable {file : SourceFile}

theorem violations_eq_nil_iff : file.violations = [] ↔ file.FollowsRules ∧ file.Unshadowed := by
  rw [violations_iff]
  constructor
  · rintro ⟨each, pairs⟩
    have follow := fun d member => Validity.declaration_follows.mp (each d member)
    refine ⟨⟨Validity.constants_pairs.mp pairs, fun d member => (follow d member).1⟩, ?_⟩
    exact fun u member => (follow _ member).2 u rfl
  · rintro ⟨⟨constants, each⟩, unshadowed⟩
    refine ⟨?_, Validity.constants_pairs.mpr constants⟩
    intro d member
    refine Validity.declaration_follows.mpr ⟨each d member, ?_⟩
    rintro u rfl
    exact unshadowed u member

end SourceFile

-- A file in which the checks find nothing follows the rules.
theorem SourceFile.followsRules_of_clean (file : SourceFile) (clean : file.violations = []) : file.FollowsRules :=
  (SourceFile.violations_eq_nil_iff.mp clean).1

-- A file with a declaration of every kind. The name of the struct is that of the number behind it, which is never
-- looked up.
def DeclaredNumber.file : SourceFile where
  name := ""
  doc := []
  package := ⟨⟨"", 1, 1⟩, "p"⟩
  imports := ∅
  declarations := [
    .const ⟨⟨"", 2, 1⟩, [], "C", .bool, "true"⟩,
    .enumeration ⟨⟨"", 3, 1⟩, [], "E", [⟨⟨"", 3, 10⟩, "A", 0, ∅⟩, ⟨⟨"", 3, 17⟩, "B", 0, ∅⟩]⟩,
    .struct ⟨⟨"", 4, 1⟩, [], "integer", [⟨⟨"", 4, 18⟩, "A", .string, 1, ∅⟩, ⟨⟨"", 4, 31⟩, "B", .raw, 2, ∅⟩]⟩,
    .union ⟨⟨"", 5, 1⟩, [], "U", [
      ⟨⟨"", 5, 11⟩, .defined ⟨none, "integer", 1⟩, 1, ∅⟩,
      ⟨⟨"", 5, 24⟩, .int 0 false, 2, ∅⟩,
      ⟨⟨"", 5, 34⟩, .array 0 .string, 3, ∅⟩]⟩,
    .service ⟨⟨"", 6, 1⟩, [], "V", [
      ⟨⟨"", 6, 13⟩, [], "M", [.defined ⟨none, "U", 2⟩], some (.defined ⟨none, "E", 0⟩), 1, ∅⟩]⟩]
  symbols := ⟨[⟨"E", some (.declaration 1)⟩, ⟨"integer", some (.declaration 2)⟩, ⟨"U", some (.declaration 3)⟩,
    ⟨"V", some (.declaration 4)⟩], [("V", 3), ("U", 2), ("integer", 1), ("E", 0)]⟩

theorem DeclaredNumber.keeps_rules : file.violations = [] ∧ file.FollowsRules :=
  ⟨by decide, SourceFile.followsRules_of_clean file (by decide)⟩

-- In a file that follows the rules the checks find what has the name of another type, and nothing else.
theorem SourceFile.clean_iff_unshadowed (file : SourceFile) (rules : file.FollowsRules) :
    file.violations = [] ↔ file.Unshadowed := by
  rw [violations_eq_nil_iff]
  exact and_iff_right rules

namespace DeclaredArray

def source : List UInt8 := Text.encode
  "package p; struct array \x7b \x7d; union U \x7b array \"1\"; []int \"2\" \x7d".toList

def place (column : Nat) : Position := ⟨"", 1, column⟩

def file : SourceFile where
  name := ""
  doc := []
  package := ⟨place 1, "p"⟩
  imports := ∅
  declarations := [
    .struct ⟨place 12, [], "array", []⟩,
    .union ⟨place 30, [], "U", [
      ⟨place 40, .defined ⟨none, "array", 0⟩, 1, ∅⟩,
      ⟨place 51, .array 0 (.int 0 false), 2, ∅⟩]⟩]
  symbols := ⟨[⟨"array", some (.declaration 0)⟩, ⟨"U", some (.declaration 1)⟩], [("U", 1), ("array", 0)]⟩

theorem tokens : Token.allOf Token.defaultLimit "" source = ([
    ⟨.keyword .package, "package", place 1⟩, ⟨.identifier, "p", place 9⟩, ⟨.semicolon, ";", place 10⟩,
    ⟨.keyword .struct, "struct", place 12⟩, ⟨.identifier, "array", place 19⟩, ⟨.openBrace, "\x7b", place 25⟩,
    ⟨.closeBrace, "\x7d", place 27⟩, ⟨.semicolon, ";", place 28⟩, ⟨.keyword .union, "union", place 30⟩,
    ⟨.identifier, "U", place 36⟩, ⟨.openBrace, "\x7b", place 38⟩, ⟨.identifier, "array", place 40⟩,
    ⟨.string, "\"1\"", place 46⟩, ⟨.semicolon, ";", place 49⟩, ⟨.openBracket, "[", place 51⟩,
    ⟨.closeBracket, "]", place 52⟩, ⟨.identifier, "int", place 53⟩, ⟨.string, "\"2\"", place 57⟩,
    ⟨.closeBrace, "\x7d", place 61⟩, ⟨.semicolon, "\n", place 62⟩], ⟨.endOfFile, "", place 62⟩) := by
  exact Token.allOf_first (n := 20) rfl rfl (by decide) rfl

theorem understood : SourceFile.understand "" source =
    (file, [⟨place 51, .repeatedBranch "[]int" "U" "array"⟩]) := by
  have bound : SourceFile.bound "" source = ⟨file, [], []⟩ := by
    rw [SourceFile.bound, tokens]
    cbv
  rw [SourceFile.understand, bound]
  cbv

theorem follows : file.FollowsRules := by decide

theorem unclean : (SourceFile.understand "" source).1 = file ∧
    (∀ d ∈ file.declarations, ∀ type ∈ d.types, ∀ r ∈ type.references, (file.target? r).isSome) ∧
    file.FollowsRules ∧ file.violations = [⟨place 51, .repeatedBranch "[]int" "U" "array"⟩] := by
  refine ⟨by rw [understood], ?_, follows, by decide⟩
  decide

theorem shadowed : file.FollowsRules ∧ (file.violations = [] ↔ file.Unshadowed) :=
  ⟨follows, SourceFile.clean_iff_unshadowed file follows⟩

end DeclaredArray
end WireSchema

import Mathlib
import WireSchema.Binding
import WireSchema.Proofs.Validity.InTurn

-- Which branches of a union are reported for a name or an ordinal of one in front of them. A branch that is a union or
-- a service of the file is passed over: once that is reported, its other checks are left out, and later branches are
-- not held against it.
namespace WireSchema

section
variable (kind? : Reference SymbolId → Option DeclarationKind)

def ValueType.isUnionOrService (type : ValueType SymbolId) : Bool := type.isA kind? .union || type.isA kind? .service

def NameTaken (front : List (Branch SymbolId)) (name : String) : Prop :=
  ∃ other ∈ front, other.type.isUnionOrService kind? = false ∧ other.type.wireName = name

-- A branch of a name that is taken is reported for that, and so it is not passed over.
def Branch.PassedOver (front : List (Branch SymbolId)) (b : Branch SymbolId) : Prop :=
  b.type.isUnionOrService kind? = true ∧ ¬ NameTaken kind? front b.type.wireName

def OrdinalTaken (front : List (Branch SymbolId)) (ordinal : Int) : Prop :=
  ∃ earlier other later, front = earlier ++ other :: later ∧ ¬ other.PassedOver kind? earlier ∧ other.ordinal = ordinal

instance (front : List (Branch SymbolId)) (name : String) : Decidable (NameTaken kind? front name) :=
  inferInstanceAs (Decidable (∃ other ∈ front, _ ∧ _))

instance (front : List (Branch SymbolId)) (b : Branch SymbolId) : Decidable (b.PassedOver kind? front) :=
  inferInstanceAs (Decidable (_ ∧ _))

structure Validity.Taken.Describes (taken : Validity.Taken) (front : List (Branch SymbolId)) : Prop where
  wireNames : ∀ name, name ∈ taken.wireNames ↔ NameTaken kind? front name
  ordinals : ∀ ordinal, ordinal ∈ taken.ordinals ↔ OrdinalTaken kind? front ordinal

end

section
variable {kind? : Reference SymbolId → Option DeclarationKind} {front : List (Branch SymbolId)} {b : Branch SymbolId}

theorem nameTaken_concat {name : String} : NameTaken kind? (front ++ [b]) name ↔
    NameTaken kind? front name ∨ b.type.isUnionOrService kind? = false ∧ b.type.wireName = name := by
  simp [NameTaken, or_and_right, exists_or]

theorem ordinalTaken_concat {ordinal : Int} : OrdinalTaken kind? (front ++ [b]) ordinal ↔
    OrdinalTaken kind? front ordinal ∨ ¬ b.PassedOver kind? front ∧ b.ordinal = ordinal := by
  constructor
  · rintro ⟨earlier, other, later, whole, counts⟩
    rcases later.eq_nil_or_concat with rfl | ⟨between, last, rfl⟩
    · obtain ⟨rfl, rfl⟩ : front = earlier ∧ b = other := by simpa using whole
      exact .inr counts
    · rw [List.concat_eq_append, ← List.cons_append, ← List.append_assoc] at whole
      obtain ⟨rfl, -⟩ := List.append_inj' whole rfl
      exact .inl ⟨earlier, other, between, rfl, counts⟩
  · rintro (⟨earlier, other, later, rfl, counts⟩ | counts)
    · exact ⟨earlier, other, later ++ [b], by simp, counts⟩
    · exact ⟨front, b, [], rfl, counts⟩

end

namespace Validity
variable {file : SourceFile} {union : String} {taken : Taken} {front : List (Branch SymbolId)} {b : Branch SymbolId}

theorem branchType_excluded (type : ValueType SymbolId) : (branchType file union taken type).excluded =
    (type.isUnionOrService (file.kind? ·) && !taken.wireNames.contains type.wireName) := by
  cases type with
  | defined r =>
    unfold branchType
    dsimp only
    split
    · rename_i repeated
      rw [repeated, Bool.not_true, Bool.and_false]
    · rename_i free
      rw [Bool.eq_false_iff.mpr free]
      cases kind : file.kind? r with
      | none => simp [ValueType.isUnionOrService, ValueType.isA, kind]
      | some found => cases found <;> simp [ValueType.isUnionOrService, ValueType.isA, kind]
  | _ =>
    unfold branchType
    dsimp only
    first | rfl | (split <;> rfl)

theorem branchType_ordinal (file : SourceFile) (union : String) (taken : Taken) (type : ValueType SymbolId)
    (ordinal : Int) (text : String) :
    .duplicateBranchOrdinal ordinal text union ∉ (branchType file union taken type).problems := by
  unfold branchType
  split
  · simp
  · simp
  · simp
  · simp
  · split
    · simp
    · split <;> simp
  · split <;> simp

theorem branch_ordinal : .duplicateBranchOrdinal b.ordinal b.type.text union ∈ (branch file union taken b).1 ↔
    (branchType file union taken b.type).excluded = false ∧ repeats b.ordinal taken.ordinals = true := by
  have elsewhere := branchType_ordinal file union taken b.type b.ordinal b.type.text
  unfold branch
  dsimp only
  split
  · rename_i excluded
    simp [elsewhere, excluded]
  · rename_i kept
    rw [List.mem_append, List.mem_append]
    simp only [elsewhere, false_or, Bool.eq_false_iff.mpr kept, true_and]
    constructor
    · rintro (numeric | ordinal)
      · split at numeric <;> simp at numeric
      · by_contra free
        simp [free] at ordinal
    · intro repeated
      exact .inr (by simp [repeated])

theorem branchType_name (file : SourceFile) (union : String) (taken : Taken) (r : Reference SymbolId) :
    .duplicateBranch r.text union ∈ (branchType file union taken (.defined r)).problems ↔ r.name ∈ taken.wireNames := by
  have looked : taken.wireNames.contains r.name = true ↔ r.name ∈ taken.wireNames := List.contains_iff_mem
  rw [← looked]
  unfold branchType
  cases repeated : taken.wireNames.contains r.name with
  | true => simp only [ValueType.wireName, repeated, if_true, List.mem_singleton]
  | false =>
    simp only [ValueType.wireName, repeated, Bool.false_eq_true, if_false, iff_false]
    split <;> simp

theorem branch_name {r : Reference SymbolId} (defined : b.type = .defined r) :
    .duplicateBranch r.text union ∈ (branch file union taken b).1 ↔ r.name ∈ taken.wireNames := by
  rw [← branchType_name file union, ← defined]
  unfold branch
  dsimp only
  split
  · rfl
  · rw [List.mem_append, List.mem_append, or_assoc, or_iff_left]
    rintro (numeric | ordinal)
    · split at numeric <;> simp at numeric
    · split at ordinal <;> simp at ordinal

def takenBy (file : SourceFile) (union : String) (front : List (Branch SymbolId)) : Taken :=
  front.foldl (fun taken b => (branch file union taken b).2) ⟨false, [], []⟩

theorem takenBy_concat (front : List (Branch SymbolId)) (b : Branch SymbolId) :
    takenBy file union (front ++ [b]) = (branch file union (takenBy file union front) b).2 := by
  rw [takenBy, List.foldl_concat, takenBy]

theorem Taken.Describes.excluded (describes : taken.Describes (file.kind? ·) front) :
    (branchType file union taken b.type).excluded = true ↔ b.PassedOver (file.kind? ·) front := by
  rw [branchType_excluded, Bool.and_eq_true, Bool.not_eq_true', ← Bool.not_eq_true, List.contains_iff_mem,
    describes.wireNames, Branch.PassedOver]

theorem Taken.Describes.branch (describes : taken.Describes (file.kind? ·) front) :
    (branch file union taken b).2.Describes (file.kind? ·) (front ++ [b]) := by
  unfold Validity.branch
  dsimp only
  split
  · rename_i excluded
    have passed := describes.excluded.mp excluded
    refine ⟨fun name => ?_, fun ordinal => ?_⟩
    · rw [describes.wireNames, nameTaken_concat]
      simp [passed.1]
    · rw [describes.ordinals, ordinalTaken_concat]
      simp [passed]
  · rename_i kept
    have counts : ¬ b.PassedOver (file.kind? ·) front := fun passed => kept (describes.excluded.mpr passed)
    refine ⟨fun name => ?_, fun ordinal => ?_⟩
    · rw [List.mem_append, describes.wireNames, nameTaken_concat, List.mem_singleton]
      -- a union or a service is not passed over only where its name is taken already
      refine or_congr_right' fun free => ⟨?_, fun own => own.2.symm⟩
      rintro rfl
      exact ⟨Bool.eq_false_iff.mpr fun refused => counts ⟨refused, free⟩, rfl⟩
    · rw [List.mem_append, describes.ordinals, ordinalTaken_concat, List.mem_singleton]
      simp [counts, eq_comm]

theorem takenBy_describes (file : SourceFile) (union : String) (front : List (Branch SymbolId)) :
    (takenBy file union front).Describes (file.kind? ·) front := by
  induction front using List.reverseRecOn with
  | nil => exact ⟨by simp [takenBy, NameTaken], by simp [takenBy, OrdinalTaken]⟩
  | append_singleton front b ih =>
    rw [takenBy_concat]
    exact ih.branch

theorem branches_inTurn (bs : List (Branch SymbolId)) : branches file union ⟨false, [], []⟩ bs =
    inTurn (fun front b => (branch file union (takenBy file union front) b).1.map (⟨b.position, ·⟩)) bs := by
  refine walk_inTurn (fun front bs => branches file union (takenBy file union front) bs) (fun _ => rfl) ?_
  intro front b rest
  rw [takenBy_concat]
  rfl

theorem union_found {u : Union SymbolId} (member : .union u ∈ file.declarations) :
    ∃ before after, file.violations = before ++ declaration file ∅ (.union u) ++ after := by
  obtain ⟨front, behind, whole⟩ := List.append_of_mem member
  have split := inTurn_split (fun front d => declaration file (.by front) d) front (.union u) behind
  rw [file.violations_inTurn, whole, split, ← List.append_assoc]
  exact ⟨_, _, rfl⟩

end Validity

-- A branch of a union is reported for the ordinal of a branch in front of it exactly if neither of the two is passed
-- over, and for its name exactly if a branch in front has it that is neither a union nor a service of the file.
theorem SourceFile.union_repeats (file : SourceFile) (u : Union SymbolId) (member : .union u ∈ file.declarations)
    (inhabited : u.branches ≠ []) :
    ∃ (before after : Problems) (found : List (Branch SymbolId) → Branch SymbolId → List Problem),
      file.violations = before ++ inTurn (fun front b => (found front b).map (⟨b.position, ·⟩)) u.branches ++ after ∧
      ∀ front b, (.duplicateBranchOrdinal b.ordinal b.type.text u.name ∈ found front b ↔
          b.ordinal ≠ 0 ∧ ¬ b.PassedOver (file.kind? ·) front ∧ OrdinalTaken (file.kind? ·) front b.ordinal) ∧
        ∀ r, b.type = .defined r →
          (.duplicateBranch r.text u.name ∈ found front b ↔ NameTaken (file.kind? ·) front r.name) := by
  obtain ⟨before, after, whole⟩ := Validity.union_found member
  refine ⟨before, after, fun front b => (Validity.branch file u.name (Validity.takenBy file u.name front) b).1, ?_, ?_⟩
  · rw [whole, Validity.declaration, if_neg (by simpa using inhabited), Validity.branches_inTurn]
  · intro front b
    have describes := Validity.takenBy_describes file u.name front
    refine ⟨?_, fun r defined => ?_⟩
    · rw [Validity.branch_ordinal, ← Bool.not_eq_true, describes.excluded, Validity.repeats, Bool.and_eq_true,
        List.contains_iff_mem, describes.ordinals, decide_eq_true_iff]
      tauto
    · rw [Validity.branch_name defined, describes.wireNames]

namespace UnionInUnion

def source : List UInt8 := Text.encode
  "package p; union V \x7b int \"1\" \x7d; union U \x7b V \"1\"; string \"1\"; bytes \"1\" \x7d".toList

def place (column : Nat) : Position := ⟨"", 1, column⟩

def first : Branch SymbolId := ⟨place 43, .defined ⟨none, "V", 0⟩, 1, ∅⟩

def second : Branch SymbolId := ⟨place 50, .string, 1, ∅⟩

def third : Branch SymbolId := ⟨place 62, .bytes, 1, ∅⟩

def union : Union SymbolId := ⟨place 33, [], "U", [first, second, third]⟩

def file : SourceFile where
  name := ""
  doc := []
  package := ⟨place 1, "p"⟩
  imports := ∅
  declarations := [.union ⟨place 12, [], "V", [⟨place 22, .int 0 false, 1, ∅⟩]⟩, .union union]
  symbols := ⟨[⟨"V", some (.declaration 0)⟩, ⟨"U", some (.declaration 1)⟩], [("U", 1), ("V", 0)]⟩

theorem tokens : Token.allOf Token.defaultLimit "" source = ([
    ⟨.keyword .package, "package", place 1⟩, ⟨.identifier, "p", place 9⟩, ⟨.semicolon, ";", place 10⟩,
    ⟨.keyword .union, "union", place 12⟩, ⟨.identifier, "V", place 18⟩, ⟨.openBrace, "\x7b", place 20⟩,
    ⟨.identifier, "int", place 22⟩, ⟨.string, "\"1\"", place 26⟩, ⟨.closeBrace, "\x7d", place 30⟩,
    ⟨.semicolon, ";", place 31⟩, ⟨.keyword .union, "union", place 33⟩, ⟨.identifier, "U", place 39⟩,
    ⟨.openBrace, "\x7b", place 41⟩, ⟨.identifier, "V", place 43⟩, ⟨.string, "\"1\"", place 45⟩,
    ⟨.semicolon, ";", place 48⟩, ⟨.identifier, "string", place 50⟩, ⟨.string, "\"1\"", place 57⟩,
    ⟨.semicolon, ";", place 60⟩, ⟨.identifier, "bytes", place 62⟩, ⟨.string, "\"1\"", place 68⟩,
    ⟨.closeBrace, "\x7d", place 72⟩, ⟨.semicolon, "\n", place 73⟩], ⟨.endOfFile, "", place 73⟩) := by
  exact Token.allOf_first (n := 23) rfl rfl (by decide) rfl

theorem understood : SourceFile.understand "" source =
    (file, [⟨place 43, .unionBranch "V" "U"⟩, ⟨place 62, .duplicateBranchOrdinal 1 "bytes" "U"⟩]) := by
  have bound : SourceFile.bound "" source = ⟨file, [], []⟩ := by
    rw [SourceFile.bound, tokens]
    cbv
  rw [SourceFile.understand, bound]
  cbv

theorem third_reported : .union union ∈ file.declarations ∧ union.branches ≠ [] ∧
    ∃ (before after : Problems) (found : List (Branch SymbolId) → Branch SymbolId → List Problem),
      file.violations = before ++ inTurn (fun front b => (found front b).map (⟨b.position, ·⟩)) union.branches ++ after ∧
      .duplicateBranch "V" "U" ∉ found [] first ∧ .duplicateBranchOrdinal 1 "string" "U" ∉ found [first] second ∧
      .duplicateBranchOrdinal 1 "bytes" "U" ∈ found [first, second] third := by
  have member : .union union ∈ file.declarations := by decide
  have inhabited : union.branches ≠ [] := by decide
  obtain ⟨before, after, found, whole, each⟩ := SourceFile.union_repeats file union member inhabited
  refine ⟨member, inhabited, before, after, found, whole, ?_, ?_, ?_⟩
  · intro repeated
    obtain ⟨other, inFront, _⟩ := ((each [] first).2 _ rfl).mp repeated
    cases inFront
  · intro repeated
    obtain ⟨_, _, ordinal⟩ := (each [first] second).1.mp repeated
    rcases ordinalTaken_concat.mp (show OrdinalTaken _ ([] ++ [first]) _ from ordinal) with ⟨_, _, _, none, _⟩ | own
    · simp at none
    · exact own.1 (by decide)
  · exact (each [first, second] third).1.mpr ⟨by decide, by decide, [first], second, [], rfl, by decide, rfl⟩

-- The ordinal of a branch is that of one in front of it, and yet only the branch in front is reported.
theorem unreported : (SourceFile.understand "" source).1 = file ∧
    ¬ ∀ (file : SourceFile) (u : Union SymbolId), .union u ∈ file.declarations → ∀ front before between b behind,
      u.branches = front ++ before :: between ++ b :: behind → b.ordinal ≠ 0 → before.ordinal = b.ordinal →
      ⟨b.position, .duplicateBranchOrdinal b.ordinal b.type.text u.name⟩ ∈ file.violations := by
  refine ⟨by rw [understood], fun reported => ?_⟩
  have missing := reported file union (by decide) [] first [] second [third] rfl (by decide) rfl
  revert missing
  decide

end UnionInUnion
end WireSchema

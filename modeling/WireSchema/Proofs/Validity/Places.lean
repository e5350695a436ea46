import WireSchema.Proofs.Grammar.Places
import WireSchema.Validity

-- What the checks of a file report, and where: nothing but the rules between its members, each at a member or at a
-- declaration.
namespace WireSchema

def Problem.isRule : Problem → Bool
  | .constantRedeclared _ _ | .duplicateEnumerator _ _ | .duplicateField _ _ | .duplicateFieldOrdinal _ _ _
  | .serviceField _ _ | .emptyUnion _ | .pointerBranch _ _ | .rawBranch _ | .duplicateBranch _ _
  | .repeatedBranch _ _ _ | .unionBranch _ _ | .serviceBranch _ _ | .duplicateNumericBranch _ _
  | .duplicateBranchOrdinal _ _ _ | .duplicateMethod _ _ | .duplicateMethodOrdinal _ _ _ | .serviceArgument _ _
  | .serviceResult _ _ => true
  | _ => false

def Problem.isUnionRule : Problem → Bool
  | .emptyUnion _ | .pointerBranch _ _ | .rawBranch _ | .duplicateBranch _ _ | .repeatedBranch _ _ _
  | .unionBranch _ _ | .serviceBranch _ _ | .duplicateNumericBranch _ _ | .duplicateBranchOrdinal _ _ _ => true
  | _ => false

theorem Problem.isRule_of_union {problem : Problem} (rule : problem.isUnionRule = true) : problem.isRule = true := by
  cases problem <;> first | rfl | cases rule

def Declaration.positions {σ : Type} : Declaration σ → List Position
  | .const c => [c.position]
  | .enumeration e => e.position :: e.enumerators.map (·.position)
  | .struct s => s.position :: s.fields.map (·.position)
  | .union u => u.position :: u.branches.map (·.position)
  | .service s => s.position :: s.methods.map (·.position)

def Problems.RuledAt (places : List Position) (problems : Problems) : Prop :=
  ∀ p ∈ problems, p.content.isRule = true ∧ p.position ∈ places

namespace Problems.RuledAt
variable {places more : List Position} {first second problems : Problems} {position : Position} {problem : Problem}

theorem nil : RuledAt places [] := by simp [RuledAt]

theorem one (rule : problem.isRule = true) : RuledAt [position] [⟨position, problem⟩] := by simp [RuledAt, rule]

theorem append (one : RuledAt places first) (two : RuledAt places second) : RuledAt places (first ++ second) := by
  intro p member
  rcases List.mem_append.mp member with inFirst | inSecond
  · exact one p inFirst
  · exact two p inSecond

theorem report {condition : Prop} [Decidable condition] (rule : problem.isRule = true) :
    RuledAt [position] (if condition then [⟨position, problem⟩] else []) := by
  split
  · exact .one rule
  · exact .nil

theorem among (ruled : RuledAt places problems) (inside : places ⊆ more) : RuledAt more problems :=
  fun p member => ⟨(ruled p member).1, inside (ruled p member).2⟩

theorem without (ruled : RuledAt places problems) {which : Problem → Bool}
    (other : ∀ problem : Problem, problem.isRule = true → which problem = false) : problems.Without which :=
  fun p member => other p.content (ruled p member).1

end Problems.RuledAt

namespace Validity
open Problems
variable {file : SourceFile}

theorem walk_ruled {α β : Type} {walk : β → List α → Problems} {check : β → α → Problems} {next : β → α → β}
    {places : α → List Position} (done : ∀ taken, walk taken [] = [])
    (step : ∀ taken m rest, walk taken (m :: rest) = check taken m ++ walk (next taken m) rest)
    (each : ∀ taken m, (check taken m).RuledAt (places m)) (taken : β) (members : List α) :
    (walk taken members).RuledAt (members.flatMap places) := by
  induction members generalizing taken with
  | nil =>
    rw [done]
    exact .nil
  | cons m rest ih =>
    rw [step, List.flatMap_cons]
    exact .append ((each taken m).among (List.subset_append_left _ _)) ((ih _).among (List.subset_append_right _ _))

theorem enumerators_ruled (enumeration : String) (names : List String) (es : List Enumerator) :
    (enumerators enumeration names es).RuledAt (es.flatMap fun e => [e.position]) :=
  walk_ruled (fun _ => rfl) (fun _ _ _ => rfl) (fun _ _ => .report rfl) names es

theorem field_ruled (struct : String) (recorded : Recorded) (f : Field SymbolId) :
    (field file struct recorded f).RuledAt [f.position] := by
  refine .append ?_ (.report rfl)
  split
  · exact .one rfl
  · exact .report rfl

theorem fields_ruled (struct : String) (recorded : Recorded) (fs : List (Field SymbolId)) :
    (fields file struct recorded fs).RuledAt (fs.flatMap fun f => [f.position]) :=
  walk_ruled (fun _ => rfl) (fun _ _ _ => rfl) (field_ruled struct) recorded fs

theorem method_ruled (service : String) (recorded : Recorded) (m : Method SymbolId) :
    (method file service recorded m).RuledAt [m.position] := by
  refine .append (.append ?_ (.report rfl)) (.report rfl)
  split
  · exact .one rfl
  · exact .report rfl

theorem methods_ruled (service : String) (recorded : Recorded) (ms : List (Method SymbolId)) :
    (methods file service recorded ms).RuledAt (ms.flatMap fun m => [m.position]) :=
  walk_ruled (fun _ => rfl) (fun _ _ _ => rfl) (method_ruled service) recorded ms

theorem branchType_ruled (union : String) (taken : Taken) (type : ValueType SymbolId) :
    ∀ problem ∈ (branchType file union taken type).problems, problem.isUnionRule = true := by
  unfold branchType
  split
  · simp [Problem.isUnionRule]
  · simp [Problem.isUnionRule]
  · simp
  · simp
  · split
    · simp [Problem.isUnionRule]
    · split <;> simp [Problem.isUnionRule]
  · split <;> simp [Problem.isUnionRule]

theorem branch_ruled (union : String) (taken : Taken) (b : Branch SymbolId) :
    ∀ problem ∈ (branch file union taken b).1, problem.isUnionRule = true := by
  have type : ∀ problem ∈ (branchType file union taken b.type).problems, problem.isUnionRule = true :=
    branchType_ruled union taken b.type
  unfold branch
  dsimp only
  split
  · exact type
  · intro problem member
    rcases List.mem_append.mp member with front | ordinal
    · rcases List.mem_append.mp front with ofType | numeric
      · exact type problem ofType
      · split at numeric
        · cases List.mem_singleton.mp numeric
          rfl
        · cases numeric
    · split at ordinal
      · cases List.mem_singleton.mp ordinal
        rfl
      · cases ordinal

theorem branches_ruled (union : String) (taken : Taken) (bs : List (Branch SymbolId)) :
    (branches file union taken bs).RuledAt (bs.flatMap fun b => [b.position]) := by
  refine walk_ruled (fun _ => rfl) (fun _ _ _ => rfl) ?_ taken bs
  intro taken b p member
  obtain ⟨problem, among, rfl⟩ := List.mem_map.mp member
  exact ⟨Problem.isRule_of_union (branch_ruled union taken b problem among), List.mem_singleton_self _⟩

theorem members_inside {α : Type} (position : Position) (places : α → Position) (members : List α) :
    members.flatMap (fun m => [places m]) ⊆ position :: members.map places := by
  rw [← List.map_eq_flatMap]
  exact List.subset_cons_self _ _

theorem declaration_ruled (constants : Constants) (d : Declaration SymbolId) :
    (declaration file constants d).RuledAt d.positions := by
  cases d with
  | const c =>
    unfold declaration constant
    dsimp only
    split
    · exact .one rfl
    · exact .nil
  | enumeration e => exact (enumerators_ruled e.name [] e.enumerators).among (members_inside _ _ _)
  | struct s => exact (fields_ruled s.name .start s.fields).among (members_inside _ _ _)
  | union u =>
    unfold declaration
    dsimp only
    split
    · exact (RuledAt.one rfl).among (by simp [Declaration.positions])
    · exact (branches_ruled u.name _ u.branches).among (members_inside _ _ _)
  | service s => exact (methods_ruled s.name .start s.methods).among (members_inside _ _ _)

theorem declarations_ruled (constants : Constants) (ds : List (Declaration SymbolId)) :
    (declarations file constants ds).RuledAt (ds.flatMap Declaration.positions) :=
  walk_ruled (fun _ => rfl) (fun _ _ _ => rfl) declaration_ruled constants ds

end Validity
end WireSchema

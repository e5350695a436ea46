import Mathlib.Data.List.Basic
import WireSchema.Proofs.Validity.Agreement
import WireSchema.Proofs.Validity.Places

-- What the checks of a file report, told for each declaration and each member at its place: it is held against all
-- those in front of it, reported or not. Unions are left to their own rules.
namespace WireSchema

-- What is found of members that are taken in turn, each with those in front of it.
def inTurn {α β : Type} (found : List α → α → List β) (members : List α) : List β :=
  members.zipIdx.flatMap fun (m, place) => found (members.take place) m

section InTurn
variable {α β : Type} {members : List α}

theorem inTurn_cons (found : List α → α → List β) (m : α) (rest : List α) :
    inTurn found (m :: rest) = found [] m ++ inTurn (fun front => found (m :: front)) rest := by
  rw [inTurn, List.zipIdx_cons', List.flatMap_cons, List.flatMap_map]
  rfl

theorem inTurn_split (found : List α → α → List β) (front : List α) (m : α) (behind : List α) :
    inTurn found (front ++ m :: behind) =
      inTurn found front ++ (found front m ++ inTurn (fun more => found (front ++ m :: more)) behind) := by
  induction front generalizing found with
  | nil => exact inTurn_cons found m behind
  | cons first rest ih =>
    rw [List.cons_append, inTurn_cons, ih, inTurn_cons, List.append_assoc]
    rfl

-- A check that goes from member to member and keeps those in front finds what each is found for at its place.
theorem walk_inTurn (walk : List α → List α → List β) {found : List α → α → List β} (done : ∀ front, walk front [] = [])
    (step : ∀ front m rest, walk front (m :: rest) = found front m ++ walk (front ++ [m]) rest) :
    walk [] members = inTurn found members := by
  suffices general : ∀ front, walk front members = inTurn (fun more => found (front ++ more)) members by
    exact general []
  induction members with
  | nil => exact done
  | cons m rest ih =>
    intro front
    rw [step, ih, inTurn_cons]
    simp only [List.append_nil, List.append_assoc, List.singleton_append]

theorem inTurn_congr {found other : List α → α → List β}
    (same : ∀ front m behind, members = front ++ m :: behind → found front m = other front m) :
    inTurn found members = inTurn other members := by
  refine List.flatMap_congr fun entry among => ?_
  obtain ⟨bound, here⟩ := List.mem_zipIdx' among
  refine same _ _ (members.drop (entry.2 + 1)) ?_
  rw [here, List.getElem_cons_drop, List.take_append_drop]

end InTurn

def Repeats {α β : Type} (of : α → β) (front : List α) (m : α) : Prop := ∃ before ∈ front, of before = of m

instance {α β : Type} [DecidableEq β] (of : α → β) (front : List α) (m : α) : Decidable (Repeats of front m) :=
  inferInstanceAs (Decidable (∃ before ∈ front, of before = of m))

-- A member is reported for a repeated name, or else for a repeated ordinal; zero is no ordinal.
def repeated {α : Type} (name : α → String) (ordinal : α → Int) (ofName ofOrdinal : Problem) (front : List α) (m : α) :
    List Problem :=
  if Repeats name front m then [ofName]
  else if ordinal m ≠ 0 ∧ Repeats ordinal front m then [ofOrdinal]
  else []

def SourceFile.constant? (name : String) (file : SourceFile) : Option (Declaration SymbolId) :=
  file.declarations.find? fun d => d.kind = .const && d.name = name

section Reports
variable (file : SourceFile)

def Constant.reports (c : Constant SymbolId) (front : List (Declaration SymbolId)) : Problems :=
  if ∃ before ∈ front, before.kind = .const ∧ before.name = c.name then
    (file.constant? c.name).toList.map fun first => ⟨c.position, .constantRedeclared c.name first.position⟩
  else []

def Enumerator.reports (enumeration : String) (front : List Enumerator) (e : Enumerator) : List Problem :=
  if Repeats (·.name) front e then [.duplicateEnumerator e.name enumeration] else []

def Field.reports (struct : String) (front : List (Field SymbolId)) (f : Field SymbolId) : List Problem :=
  repeated (·.name) (·.ordinal) (.duplicateField f.name struct) (.duplicateFieldOrdinal f.ordinal f.name struct)
    front f ++
  if f.type.isA (file.kind? ·) .service then [.serviceField f.name struct] else []

def Method.reports (service : String) (front : List (Method SymbolId)) (m : Method SymbolId) : List Problem :=
  repeated (·.name) (·.ordinal) (.duplicateMethod m.name service) (.duplicateMethodOrdinal m.ordinal m.name service)
    front m ++
  (if ∃ type ∈ m.arguments, type.isA (file.kind? ·) .service then [.serviceArgument m.name service] else []) ++
  if ∃ type ∈ m.result, type.isA (file.kind? ·) .service then [.serviceResult m.name service] else []

-- What a declaration is reported for, with whatever is found of unions.
def Declaration.reports (ofUnion : Union SymbolId → Problems) (front : List (Declaration SymbolId)) :
    Declaration SymbolId → Problems
  | .const c => c.reports file front
  | .enumeration e => inTurn (fun front x => (x.reports e.name front).map (⟨x.position, ·⟩)) e.enumerators
  | .struct s => inTurn (fun front f => (f.reports file s.name front).map (⟨f.position, ·⟩)) s.fields
  | .union u => ofUnion u
  | .service s => inTurn (fun front m => (m.reports file s.name front).map (⟨m.position, ·⟩)) s.methods

end Reports

namespace Validity
variable {file : SourceFile}

section Repeats
variable {α : Type} {front : List α} {m : α}

theorem contains_repeats (of : α → String) :
    (collected of front).contains (of m) = decide (Repeats of front m) := by
  rw [Bool.eq_iff_iff, List.contains_iff_mem, mem_collected, decide_eq_true_iff, Repeats]

theorem repeats_repeats (of : α → Int) :
    repeats (of m) (collected of front) = decide (of m ≠ 0 ∧ Repeats of front m) := by
  rw [repeats, Bool.eq_iff_iff, Bool.and_eq_true, List.contains_iff_mem, mem_collected, decide_eq_true_iff,
    decide_eq_true_iff, Repeats]

theorem report_at {condition : Prop} [Decidable condition] (position : Position) (problem : Problem) :
    (if condition then [⟨position, problem⟩] else [] : Problems) =
      (if condition then [problem] else []).map (Located.mk position) := by
  split <;> rfl

theorem repeated_at (position : Position) (name : α → String) (ordinal : α → Int) (ofName ofOrdinal : Problem) :
    (if (Recorded.by name ordinal front).names.contains (name m) then [⟨position, ofName⟩]
      else if repeats (ordinal m) (Recorded.by name ordinal front).ordinals then [⟨position, ofOrdinal⟩]
      else [] : Problems) =
      (repeated name ordinal ofName ofOrdinal front m).map (Located.mk position) := by
  rw [Recorded.by, contains_repeats, repeats_repeats]
  simp only [decide_eq_true_eq, repeated]
  split
  · rfl
  · exact report_at position ofOrdinal

end Repeats

theorem enumerators_inTurn (e : Enumeration) : enumerators e.name [] e.enumerators =
    inTurn (fun front x => (x.reports e.name front).map (⟨x.position, ·⟩)) e.enumerators := by
  refine walk_inTurn (fun front xs => enumerators e.name (collected (·.name) front) xs)
    (fun _ => rfl) fun front x rest => ?_
  rw [enumerators, report_at, contains_repeats, collected_concat]
  simp only [decide_eq_true_eq, Enumerator.reports]

theorem fields_inTurn (s : Struct SymbolId) : fields file s.name .start s.fields =
    inTurn (fun front f => (f.reports file s.name front).map (⟨f.position, ·⟩)) s.fields := by
  refine walk_inTurn (fun front fs => fields file s.name (.by (·.name) (·.ordinal) front) fs)
    (fun _ => rfl) fun front f rest => ?_
  rw [fields, field, repeated_at, report_at, isService_eq, ← List.map_append, Recorded.by_concat, Field.reports]

theorem methods_inTurn (s : Service SymbolId) : methods file s.name .start s.methods =
    inTurn (fun front m => (m.reports file s.name front).map (⟨m.position, ·⟩)) s.methods := by
  refine walk_inTurn (fun front ms => methods file s.name (.by (·.name) (·.ordinal) front) ms)
    (fun _ => rfl) fun front m rest => ?_
  rw [methods, method, repeated_at, report_at, report_at, ← List.map_append, ← List.map_append, Recorded.by_concat,
    Method.reports]
  simp only [List.any_eq_true, Option.any_eq_true, Option.mem_def, isService_eq]

theorem constant_inTurn {c : Constant SymbolId} {front behind : List (Declaration SymbolId)}
    (whole : file.declarations = front ++ .const c :: behind) : constant (.by front) c = c.reports file front := by
  unfold constant Constant.reports SourceFile.constant?
  rw [Constants.get?_by, whole, List.find?_append]
  cases found : front.find? (fun d => d.kind = .const && d.name = c.name) with
  | some first =>
    have inFront := List.mem_of_find?_eq_some found
    have isConstant := List.find?_some found
    simp only [Bool.and_eq_true, decide_eq_true_eq] at isConstant
    rw [if_pos ⟨first, inFront, isConstant⟩]
    rfl
  | none =>
    refine (if_neg ?_).symm
    rintro ⟨before, inFront, isConstant⟩
    exact List.find?_eq_none.mp found before inFront (by simpa using isConstant)

theorem declaration_inTurn {d : Declaration SymbolId} {front behind : List (Declaration SymbolId)}
    (whole : file.declarations = front ++ d :: behind) : declaration file (.by front) d =
      d.reports file (fun u => declaration file ∅ (.union u)) front := by
  cases d with
  | const c => exact constant_inTurn whole
  | enumeration e => exact enumerators_inTurn e
  | struct s => exact fields_inTurn s
  | union u => rfl
  | service s => exact methods_inTurn s

theorem branches_problems (union : String) (taken : Taken) (bs : List (Branch SymbolId)) :
    ∀ p ∈ branches file union taken bs, p.content.isUnionRule = true := by
  induction bs generalizing taken with
  | nil => simp [branches]
  | cons b rest ih =>
    intro p member
    rcases List.mem_append.mp member with first | later
    · obtain ⟨problem, among, rfl⟩ := List.mem_map.mp first
      exact branch_ruled union taken b problem among
    · exact ih _ p later

theorem union_problems (u : Union SymbolId) : ∀ p ∈ declaration file ∅ (.union u), p.content.isUnionRule = true := by
  rw [declaration]
  split
  · simp [Problem.isUnionRule]
  · exact branches_problems u.name _ u.branches

end Validity

theorem SourceFile.violations_inTurn (file : SourceFile) :
    file.violations = inTurn (fun front d => Validity.declaration file (.by front) d) file.declarations := by
  refine walk_inTurn (fun front ds => Validity.declarations file (.by front) ds)
    (fun _ => rfl) fun front d rest => ?_
  rw [Validity.declarations, Validity.Constants.by_concat]

-- Every report of a file but those of its unions, in order: at each constant, enumerator, field and method what it is
-- reported for at its place, and nothing else.
theorem SourceFile.violations_exact (file : SourceFile) : ∃ ofUnion : Union SymbolId → Problems,
    (∀ u, ∀ p ∈ ofUnion u, p.content.isUnionRule = true ∧ p.position ∈ (Declaration.union u).positions) ∧
      file.violations = inTurn (fun front d => d.reports file ofUnion front) file.declarations := by
  refine ⟨fun u => Validity.declaration file ∅ (.union u), ?_, ?_⟩
  · intro u p member
    exact ⟨Validity.union_problems u p member, (Validity.declaration_ruled ∅ (.union u) p member).2⟩
  · rw [file.violations_inTurn]
    exact inTurn_congr fun _ _ _ whole => Validity.declaration_inTurn whole

end WireSchema

import Mathlib.Data.List.Induction
import WireSchema.Validity

-- When the checks of a declaration find nothing. Each goes through the members in order with what was recorded of
-- those in front, so it comes to this: every member is right by itself, and every two agree with each other.
namespace WireSchema

namespace ValueType

def isA (kind? : Reference SymbolId → Option DeclarationKind) (kind : DeclarationKind) : ValueType SymbolId → Bool
  | .defined r => kind? r = some kind
  | _ => false

def isNumeric (kind? : Reference SymbolId → Option DeclarationKind) : ValueType SymbolId → Bool
  | .int _ _ | .float _ => true
  | type => type.isA kind? .enumeration

def isBarred (kind? : Reference SymbolId → Option DeclarationKind) : ValueType SymbolId → Bool
  | .raw | .pointer _ => true
  | type => type.isA kind? .union || type.isA kind? .service

theorem isBarred_parts {kind? : Reference SymbolId → Option DeclarationKind} {type : ValueType SymbolId}
    (allowed : type.isBarred kind? = false) : type.isA kind? .union = false ∧ type.isA kind? .service = false := by
  cases type with
  | raw | pointer => cases allowed
  | _ => exact Bool.or_eq_false_iff.mp allowed

def isNumber {σ : Type} : ValueType σ → Bool
  | .int _ _ | .float _ => true
  | _ => false

end ValueType

structure Coherent {α : Type} (right : α → Prop) (agree : α → α → Prop) (members : List α) : Prop where
  each : ∀ m ∈ members, right m
  pairs : members.Pairwise agree

namespace Coherent
variable {α : Type} {right : α → Prop} {agree : α → α → Prop} {members fewer : List α}

theorem sublist (coherent : Coherent right agree members) (among : fewer.Sublist members) :
    Coherent right agree fewer :=
  ⟨fun m member => coherent.each m (among.subset member), coherent.pairs.sublist among⟩

-- A check by steps of this form is a check of pairs.
theorem walk_iff (clean : List α → List α → Prop) (done : ∀ earlier, clean earlier [])
    (step : ∀ earlier m rest, clean earlier (m :: rest) ↔
      (right m ∧ ∀ before ∈ earlier, agree before m) ∧ clean (earlier ++ [m]) rest) :
    clean [] members ↔ Coherent right agree members := by
  -- the members that are left are held against any that were gone through
  suffices general : ∀ earlier, clean earlier members ↔
      Coherent right agree members ∧ ∀ before ∈ earlier, ∀ m ∈ members, agree before m by
    rw [general []]
    simp
  induction members with
  | nil =>
    intro earlier
    simp only [done, true_iff]
    exact ⟨⟨by simp, .nil⟩, by simp⟩
  | cons m rest ih =>
    intro earlier
    rw [step, ih]
    constructor
    · rintro ⟨⟨isRight, agrees⟩, coherent, later⟩
      refine ⟨⟨?_, ?_⟩, ?_⟩
      · exact List.forall_mem_cons.mpr ⟨isRight, coherent.each⟩
      · exact List.pairwise_cons.mpr ⟨later m (by simp), coherent.pairs⟩
      · intro before inFront
        exact List.forall_mem_cons.mpr ⟨agrees before inFront, later before (by simp [inFront])⟩
    · rintro ⟨coherent, agrees⟩
      obtain ⟨isRight, each⟩ := List.forall_mem_cons.mp coherent.each
      obtain ⟨ofFirst, pairs⟩ := List.pairwise_cons.mp coherent.pairs
      refine ⟨⟨isRight, fun before inFront => agrees before inFront m (by simp)⟩, ⟨each, pairs⟩, ?_⟩
      intro before inFront
      rcases List.mem_append.mp inFront with old | new
      · exact fun other inRest => agrees before old other (by simp [inRest])
      · rw [List.mem_singleton.mp new]
        exact ofFirst

end Coherent

def Ordinal.Agrees (before ordinal : Int) : Prop := ordinal ≠ 0 → before ≠ ordinal

structure Distinct {α : Type} (name : α → String) (ordinal : α → Int) (before m : α) : Prop where
  names : name before ≠ name m
  ordinals : Ordinal.Agrees (ordinal before) (ordinal m)

-- Of two branches at most one is numeric. Only the later one's name on the wire is looked up, and that of a
-- number is not.
structure Branch.Agrees (kind? : Reference SymbolId → Option DeclarationKind) (before b : Branch SymbolId) : Prop where
  numeric : (before.type.isNumeric kind? && b.type.isNumeric kind?) = false
  wireNames : b.type.isNumber = false → before.type.wireName ≠ b.type.wireName
  ordinals : Ordinal.Agrees before.ordinal b.ordinal

def Declaration.Agrees (before d : Declaration SymbolId) : Prop :=
  before.kind = .const → d.kind = .const → before.name ≠ d.name

namespace Validity
variable {file : SourceFile}

theorem isService_eq (file : SourceFile) (type : ValueType SymbolId) :
    isService file type = type.isA (file.kind? ·) .service := by cases type <;> rfl

theorem report_eq_nil {α : Type} {condition : Bool} {problem : α} :
    (if condition then [problem] else []) = [] ↔ condition = false := by cases condition <;> simp

section Collected
variable {α β : Type} [BEq β] {of : α → β} {front : List α} {m : α}

def collected (of : α → β) (front : List α) : List β := front.foldl (fun seen m => seen.insert (of m)) []

theorem collected_concat : collected of (front ++ [m]) = (collected of front).insert (of m) := by
  rw [collected, List.foldl_append]
  rfl

theorem mem_collected [LawfulBEq β] {b : β} : b ∈ collected of front ↔ ∃ m ∈ front, of m = b := by
  induction front using List.reverseRecOn with
  | nil => simp [collected]
  | append_singleton front m ih =>
    rw [collected_concat, List.mem_insert_iff, ih]
    simp [or_comm, eq_comm]

end Collected

section Distinct
variable {α : Type} {earlier : List α}

def Recorded.by (name : α → String) (ordinal : α → Int) (front : List α) : Recorded :=
  ⟨collected name front, collected ordinal front⟩

theorem Recorded.by_concat {name : α → String} {ordinal : α → Int} {front : List α} {m : α} :
    Recorded.by name ordinal (front ++ [m]) = (Recorded.by name ordinal front).add (name m) (ordinal m) := by
  rw [Recorded.by, collected_concat, collected_concat]
  rfl

theorem contains_iff {seen : List String} {of : α → String} {name : String}
    (recorded : ∀ b, b ∈ seen ↔ ∃ m ∈ earlier, of m = b) :
    seen.contains name = false ↔ ∀ before ∈ earlier, of before ≠ name := by
  rw [← Bool.not_eq_true, List.contains_iff_mem, recorded]
  simp

theorem repeats_iff {seen : List Int} {of : α → Int} {ordinal : Int}
    (recorded : ∀ b, b ∈ seen ↔ ∃ m ∈ earlier, of m = b) :
    repeats ordinal seen = false ↔ ∀ before ∈ earlier, Ordinal.Agrees (of before) ordinal := by
  unfold repeats Ordinal.Agrees
  by_cases nonzero : ordinal = 0
  · simp [nonzero]
  · simp [nonzero, recorded]

-- Of a repeated name and a repeated ordinal one is reported, so nothing means that there is neither.
theorem distinct_iff {name : α → String} {ordinal : α → Int} {m : α} {ofName ofOrdinal : Located Problem} :
    (if (Recorded.by name ordinal earlier).names.contains (name m) then [ofName]
      else if repeats (ordinal m) (Recorded.by name ordinal earlier).ordinals then [ofOrdinal] else []) = [] ↔
      ∀ before ∈ earlier, Distinct name ordinal before m := by
  have ofNames : (collected name earlier).contains (name m) = false ↔ _ := contains_iff fun _ => mem_collected
  have ofOrdinals : repeats (ordinal m) (collected ordinal earlier) = false ↔ _ := repeats_iff fun _ => mem_collected
  constructor
  · intro none
    split at none
    · cases none
    · rename_i fresh
      have names := ofNames.mp (Bool.eq_false_iff.mpr fresh)
      have ordinals := ofOrdinals.mp (report_eq_nil.mp none)
      exact fun before inFront => ⟨names before inFront, ordinals before inFront⟩
  · intro distinct
    rw [Recorded.by, ofNames.mpr fun before inFront => (distinct before inFront).names,
      ofOrdinals.mpr fun before inFront => (distinct before inFront).ordinals]
    rfl

end Distinct

theorem enumerators_iff {name : String} {es : List Enumerator} : enumerators name [] es = [] ↔
    Coherent (fun _ => True) (fun before e => before.name ≠ e.name) es := by
  refine Coherent.walk_iff (fun front es => enumerators name (collected (·.name) front) es = []) (fun _ => rfl) ?_
  intro earlier e rest
  rw [enumerators, List.append_eq_nil_iff, report_eq_nil, contains_iff fun _ => mem_collected, collected_concat, true_and]

theorem fields_iff {struct : String} {fs : List (Field SymbolId)} : fields file struct .start fs = [] ↔
    Coherent (fun f => f.type.isA (file.kind? ·) .service = false) (Distinct (·.name) (·.ordinal)) fs := by
  refine Coherent.walk_iff (fun front fs => fields file struct (.by (·.name) (·.ordinal) front) fs = []) (fun _ => rfl) ?_
  intro earlier f rest
  rw [fields, List.append_eq_nil_iff, field, List.append_eq_nil_iff, report_eq_nil, isService_eq,
    and_comm (b := _ = false), Recorded.by_concat]
  exact and_congr_left fun _ => and_congr_right fun _ => distinct_iff

theorem methods_iff {service : String} {ms : List (Method SymbolId)} : methods file service .start ms = [] ↔
    Coherent (fun m => ∀ type ∈ m.types, type.isA (file.kind? ·) .service = false)
      (Distinct (·.name) (·.ordinal)) ms := by
  refine Coherent.walk_iff (fun front ms => methods file service (.by (·.name) (·.ordinal) front) ms = []) (fun _ => rfl) ?_
  intro earlier m rest
  have services : (m.arguments.any (isService file) = false ∧ m.result.any (isService file) = false) ↔
      ∀ type ∈ m.types, type.isA (file.kind? ·) .service = false := by
    simp only [Method.types, List.forall_mem_append, ← isService_eq]
    cases m.result <;> simp
  rw [methods, List.append_eq_nil_iff, method, List.append_eq_nil_iff, List.append_eq_nil_iff, report_eq_nil,
    report_eq_nil, distinct_iff, ← services, Recorded.by_concat]
  constructor
  · rintro ⟨⟨⟨distinct, arguments⟩, result⟩, later⟩
    exact ⟨⟨⟨arguments, result⟩, distinct⟩, later⟩
  · rintro ⟨⟨⟨arguments, result⟩, distinct⟩, later⟩
    exact ⟨⟨⟨distinct, arguments⟩, result⟩, later⟩

section Branches
variable {union : String} {earlier : List (Branch SymbolId)} {type : ValueType SymbolId} {b : Branch SymbolId}

def Taken.by (kind? : Reference SymbolId → Option DeclarationKind) (earlier : List (Branch SymbolId)) : Taken :=
  ⟨earlier.any (·.type.isNumeric kind?), earlier.map (·.type.wireName), earlier.map (·.ordinal)⟩

-- A type is no problem if no branch is barred from it and its name on the wire is free, where that is looked up;
-- then it counts as numeric exactly if it is, and no kind is excluded.
theorem branchType_iff {taken : Taken} : (branchType file union taken type).problems = [] ↔
    type.isBarred (file.kind? ·) = false ∧
      (type.isNumber = false → taken.wireNames.contains type.wireName = false) := by
  cases type with
  | raw | pointer => simp [branchType, ValueType.isBarred]
  | int | float => simp [branchType, ValueType.isBarred, ValueType.isNumber, ValueType.isA]
  | defined r =>
    cases repeated : taken.wireNames.contains (ValueType.defined r).wireName with
    | true => simp only [branchType, repeated, ValueType.isNumber]; simp
    | false =>
      simp only [branchType, repeated, Bool.false_eq_true, if_false]
      cases kind : file.kind? r with
      | none => simp [ValueType.isBarred, ValueType.isA, kind]
      | some found => cases found <;> simp [ValueType.isBarred, ValueType.isA, kind]
  | _ =>
    unfold branchType
    dsimp only
    split
    · rename_i repeated
      simp only [ValueType.isNumber, repeated]
      simp
    · rename_i free
      simp only [ValueType.isBarred, ValueType.isA, ValueType.isNumber, Bool.eq_false_iff.mpr free]
      simp

theorem branchType_kept {taken : Taken} (none : (branchType file union taken type).problems = []) :
    (branchType file union taken type).excluded = false ∧
      (branchType file union taken type).numeric = type.isNumeric (file.kind? ·) := by
  cases type with
  | pointer | raw => simp [branchType] at none
  | int | float => exact ⟨rfl, rfl⟩
  | defined r =>
    cases repeated : taken.wireNames.contains (ValueType.defined r).wireName with
    | true =>
      simp only [branchType, repeated, if_true] at none
      cases none
    | false =>
      simp only [branchType, repeated, Bool.false_eq_true, if_false] at none ⊢
      cases kind : file.kind? r with
      | none => simp [ValueType.isNumeric, ValueType.isA, kind]
      | some found => cases found <;> simp_all [ValueType.isNumeric, ValueType.isA]
  | _ =>
    unfold branchType at none ⊢
    dsimp only at none ⊢
    split at none
    · cases none
    · rename_i free
      rw [if_neg free]
      exact ⟨rfl, rfl⟩

theorem branch_parts {taken : Taken} : (branch file union taken b).1 = [] ↔
    (branchType file union taken b.type).problems = [] ∧
      (b.type.isNumeric (file.kind? ·) && taken.numeric) = false ∧ repeats b.ordinal taken.ordinals = false := by
  unfold branch
  by_cases none : (branchType file union taken b.type).problems = []
  · obtain ⟨kept, numeric⟩ := branchType_kept none
    simp only [kept, numeric, none, Bool.false_eq_true, if_false, List.nil_append, true_and]
    rw [List.append_eq_nil_iff]
    exact and_congr report_eq_nil report_eq_nil
  · simp only [none, false_and, iff_false]
    split
    · exact none
    · exact fun all => none (List.append_eq_nil_iff.mp (List.append_eq_nil_iff.mp all).1).1

theorem branch_taken {taken : Taken} (none : (branch file union taken b).1 = []) :
    (branch file union taken b).2 = ⟨taken.numeric || b.type.isNumeric (file.kind? ·),
      taken.wireNames ++ [b.type.wireName], taken.ordinals ++ [b.ordinal]⟩ := by
  obtain ⟨kept, numeric⟩ := branchType_kept (branch_parts.mp none).1
  unfold branch
  simp only [kept, numeric, Bool.false_eq_true, if_false]

theorem clash_iff {kind? : Reference SymbolId → Option DeclarationKind} :
    (type.isNumeric kind? && earlier.any (·.type.isNumeric kind?)) = false ↔
      ∀ before ∈ earlier, (before.type.isNumeric kind? && type.isNumeric kind?) = false := by
  cases type.isNumeric kind? with
  | false => simp
  | true => simp

theorem branch_iff : (branch file union (Taken.by (file.kind? ·) earlier) b).1 = [] ↔
    b.type.isBarred (file.kind? ·) = false ∧ ∀ before ∈ earlier, before.Agrees (file.kind? ·) b := by
  rw [branch_parts, branchType_iff, Taken.by, clash_iff, repeats_iff fun _ => List.mem_map,
    contains_iff fun _ => List.mem_map]
  constructor
  · rintro ⟨⟨allowed, free⟩, numeric, ordinals⟩
    refine ⟨allowed, fun before inFront => ⟨numeric before inFront, ?_, ordinals before inFront⟩⟩
    exact fun named => free named before inFront
  · rintro ⟨allowed, agree⟩
    refine ⟨⟨allowed, fun named before inFront => (agree before inFront).wireNames named⟩, ?_, ?_⟩
    · exact fun before inFront => (agree before inFront).numeric
    · exact fun before inFront => (agree before inFront).ordinals

end Branches

theorem branches_iff {union : String} {bs : List (Branch SymbolId)} :
    branches file union ⟨false, [], []⟩ bs = [] ↔
      Coherent (fun b => b.type.isBarred (file.kind? ·) = false) (Branch.Agrees (file.kind? ·)) bs := by
  refine Coherent.walk_iff (fun earlier bs => branches file union (Taken.by (file.kind? ·) earlier) bs = [])
    (fun _ => rfl) ?_
  intro earlier b rest
  rw [branches, List.append_eq_nil_iff, List.map_eq_nil_iff, ← branch_iff]
  refine and_congr_right fun none => ?_
  rw [branch_taken none]
  simp [Taken.by]

theorem union_parts {u : Union SymbolId} : declaration file ∅ (.union u) = [] ↔
    u.branches ≠ [] ∧ branches file u.name ⟨false, [], []⟩ u.branches = [] := by
  rw [declaration]
  cases u.branches <;> simp

section Constants
variable {front : List (Declaration SymbolId)} {d : Declaration SymbolId}

def Constants.by (front : List (Declaration SymbolId)) : Constants := front.foldl Constants.add ∅

theorem Constants.by_concat : Constants.by (front ++ [d]) = (Constants.by front).add d := by
  rw [Constants.by, List.foldl_append]
  rfl

theorem Constants.get?_add (constants : Constants) (name : String) : (constants.add d).get? name =
    (constants.get? name).or (([d].find? fun d => d.kind = .const && d.name = name).map (·.position)) := by
  cases d with
  | const c =>
    rw [add]
    by_cases own : c.name = name
    · subst own
      cases known : constants.get? c.name with
      | none => simp [Dictionary.contains, known, Dictionary.get?_insert, Declaration.kind, Declaration.name, Declaration.position]
      | some first => simp [Dictionary.contains, known]
    · split <;> simp [Dictionary.get?_insert, Declaration.kind, Declaration.name, own]
  | _ => simp [add, Declaration.kind]

theorem Constants.get?_by (front : List (Declaration SymbolId)) (name : String) : (Constants.by front).get? name =
    (front.find? fun d => d.kind = .const && d.name = name).map (·.position) := by
  induction front using List.reverseRecOn with
  | nil => rfl
  | append_singleton front d ih => rw [by_concat, get?_add, ih, List.find?_append, Option.map_or]

theorem constant_iff {c : Constant SymbolId} :
    constant (.by front) c = [] ↔ ∀ before ∈ front, before.Agrees (.const c) := by
  unfold constant Declaration.Agrees
  rw [Constants.get?_by]
  cases found : front.find? (fun d => d.kind = .const && d.name = c.name) with
  | none =>
    simp only [Option.map_none, true_iff]
    intro before inFront kind _ same
    apply List.find?_eq_none.mp found before inFront
    simp [kind, show before.name = c.name from same]
  | some first =>
    simp only [Option.map_some, reduceCtorEq, false_iff]
    intro agree
    have constant := List.find?_some found
    simp only [Bool.and_eq_true, decide_eq_true_eq] at constant
    exact agree first (List.mem_of_find?_eq_some found) constant.1 rfl constant.2

theorem declaration_iff : declaration file (.by front) d = [] ↔
    declaration file ∅ d = [] ∧ ∀ before ∈ front, before.Agrees d := by
  cases d with
  | const c =>
    have alone : constant ∅ c = [] := rfl
    rw [declaration, declaration, constant_iff]
    simp [alone]
  | _ => exact ⟨fun none => ⟨none, fun _ _ _ kind => nomatch kind⟩, And.left⟩

theorem declarations_each {ds : List (Declaration SymbolId)} (pairs : ds.Pairwise Declaration.Agrees) :
    declarations file ∅ ds = ds.flatMap (declaration file ∅) := by
  suffices general : ∀ front, (∀ before ∈ front, ∀ d ∈ ds, before.Agrees d) →
      declarations file (.by front) ds = ds.flatMap (declaration file ∅) by
    exact general [] (by simp)
  induction pairs with
  | nil =>
    intro front _
    rfl
  | @cons d rest ofFirst _ ih =>
    intro front agree
    have alone : declaration file (.by front) d = declaration file ∅ d := by
      cases d with
      | const c =>
        rw [declaration, declaration, constant_iff.mpr fun before inFront => agree before inFront _ List.mem_cons_self]
        rfl
      | _ => rfl
    rw [declarations, List.flatMap_cons, alone, ← Constants.by_concat, ih]
    intro before inFront other inRest
    rcases List.mem_append.mp inFront with old | new
    · exact agree before old other (List.mem_cons_of_mem _ inRest)
    · rw [List.mem_singleton.mp new]
      exact ofFirst other inRest

end Constants

end Validity

theorem SourceFile.violations_iff {file : SourceFile} : file.violations = [] ↔
    Coherent (fun d => Validity.declaration file ∅ d = []) Declaration.Agrees file.declarations := by
  refine Coherent.walk_iff (fun front ds => Validity.declarations file (.by front) ds = []) (fun _ => rfl) ?_
  intro front d rest
  rw [Validity.declarations, List.append_eq_nil_iff, Validity.declaration_iff, Validity.Constants.by_concat]

end WireSchema

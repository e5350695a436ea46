import WireSchema.Proofs.Grammar.Reads

-- The reader of types reads the types of the grammar, each with what it means. The readers inside it are
-- followed by tokens that no type goes on with; only a name has to see that no point follows.
namespace WireSchema

def ValueType.misplaced {σ : Type} : ValueType σ → List Problem
  | .array size element => element.misplaced ++
      if element.isArray then [.nestedArray (ValueType.array size element).text] else []
  | .map key value => key.misplaced ++ value.misplaced
  | .pointer value => value.misplaced ++ if value.isPointerBarrier then [.pointerTarget value.text] else []
  | _ => []

namespace Grammar
open Grammar.Language
open Reader hiding pure

theorem expect_clean {kind : TokenKind} {t : Tape} (none : (expect kind t).problems = []) : t.current.kind = kind := by
  rw [expect_apply] at none
  by_cases same : t.current.kind = kind
  · exact same
  · simp [same] at none

theorem expect_problems {kind : TokenKind} {t : Tape} (same : t.current.kind = kind) :
    (expect kind t).problems = [] ∧ (expect kind t).tape = t.advance := by
  simp [expect_apply, same]

theorem named_value (name : String) (position : Position) (t : Tape) : (named name position t).value = typeNamed name ∧
    (named name position t).problems = [] ∧ (named name position t).tape = t := by
  unfold named typeNamed
  cases ValueType.builtin? (σ := Unit) name <;> exact ⟨rfl, rfl, rfl⟩

theorem arraySize?_eq_some {literal : String} {size : UInt32} : arraySize? literal = some size ↔
    ∃ n, Text.Decimal.natural? literal.toList = some n ∧ 0 < n ∧ n < 4294967296 ∧ size = .ofNat n := by
  unfold arraySize?
  cases decimal : Text.Decimal.natural? literal.toList with
  | none => simp
  | some n =>
    by_cases range : 0 < n ∧ n < 4294967296
    · simp [range, eq_comm]
    · simp only [if_neg range, reduceCtorEq, false_iff, not_exists]
      rintro m ⟨same, positive, fits, _⟩
      cases same
      exact range ⟨positive, fits⟩

theorem namedType_sound {t : Tape} (proper : t.Proper) (isName : t.current.kind = .identifier)
    (none : (namedType t).problems = []) :
    ∃ front, IsType front (namedType t).value ∧ t.tokens = front ++ (namedType t).tape.tokens := by
  have first := proper.tokens_eq (by rw [isName]; simp)
  by_cases period : t.advance.current.kind = .period
  · have second := proper.advance.tokens_eq (by rw [period]; simp)
    have step : namedType t = (qualifier >>= fun rest => named (t.current.text ++ rest) t.current.position)
        t.advance.advance := by simp [namedType, bind_apply, period]
    rw [step] at none ⊢
    obtain ⟨noneQualifier, _⟩ := List.append_eq_nil_iff.mp none
    rw [qualifier_apply] at noneQualifier
    have isSecond : t.advance.advance.current.kind = .identifier := by
      by_cases same : t.advance.advance.current.kind = .identifier
      · exact same
      · simp [same] at noneQualifier
    have third := proper.advance.advance.tokens_eq (by rw [isSecond]; simp)
    obtain ⟨value, _, tape⟩ := named_value (t.current.text ++ ("." ++ t.advance.advance.current.text)) t.current.position
      t.advance.advance.advance
    refine ⟨[t.current.token, t.advance.current.token, t.advance.advance.current.token], ?_, ?_⟩
    · rw [bind_value, qualifier_apply, if_pos isSecond]
      dsimp only
      rw [value, ← String.append_assoc]
      exact .qualified isName period isSecond
    · rw [bind_tape, qualifier_apply, if_pos isSecond]
      dsimp only
      rw [tape, first, second, third]
      rfl
  · have step : namedType t = named t.current.text t.current.position t.advance := by
      simp [namedType, bind_apply, period]
    obtain ⟨value, _, tape⟩ := named_value t.current.text t.current.position t.advance
    refine ⟨[t.current.token], ?_, ?_⟩
    · rw [step, value]
      exact .word isName
    · rw [step, tape, first]
      rfl

theorem arrayOf_clean {size : UInt32} {element : ValueType Unit} {t : Tape}
    (none : (arrayOf size (some element) t).problems = []) : element.isArray = false := by
  cases nested : element.isArray with
  | false => rfl
  | true => simp [arrayOf_apply, nested, Option.filter] at none

theorem pointerTo_clean {value : ValueType Unit} {t : Tape}
    (none : (pointerTo (some value) t).problems = []) : value.isPointerBarrier = false := by
  cases barrier : value.isPointerBarrier with
  | false => rfl
  | true => simp [pointerTo_apply, barrier, Option.filter] at none

def SoundAt (r : Reader (Option (ValueType Unit))) (t : Tape) : Prop := (r t).problems = [] →
  ∃ front value, (r t).value = some value ∧ IsType front value ∧ t.tokens = front ++ (r t).tape.tokens

section
variable {inner : Reader (Option (ValueType Unit))} {t : Tape}

theorem arrayRest_sound {size : UInt32} (proper : t.Proper)
    (sound : ∀ later : Tape, later.Proper → later.left < t.left → SoundAt inner later)
    (none : ((do expect .closeBracket; let element ← inner; arrayOf size element : Reader _) t).problems = []) :
    t.current.kind = .closeBracket ∧ ∃ front element, IsType front element ∧ element.isArray = false ∧
      ((do expect .closeBracket; let element ← inner; arrayOf size element : Reader _) t).value =
        some (.array size element) ∧
      t.tokens = t.current.token :: (front ++
        ((do expect .closeBracket; let element ← inner; arrayOf size element : Reader _) t).tape.tokens) := by
  obtain ⟨noneClose, later⟩ := List.append_eq_nil_iff.mp none
  obtain ⟨noneInner, noneCheck⟩ := List.append_eq_nil_iff.mp later
  have closes := expect_clean noneClose
  have more : t.current.kind ≠ .endOfFile := by rw [closes]; simp
  have tape := (expect_problems closes).2
  rw [tape] at noneInner noneCheck
  obtain ⟨front, element, value, isType, between⟩ := sound t.advance proper.advance (proper.advance_left more) noneInner
  rw [value] at noneCheck
  refine ⟨closes, front, element, isType, arrayOf_clean noneCheck, ?_, ?_⟩
  · rw [bind_value, bind_value, tape, value, arrayOf_apply]
    rfl
  · rw [bind_tape, bind_tape, tape, arrayOf_apply, proper.tokens_eq more, between]

theorem arrayWith_sound (proper : t.Proper) (opens : t.current.kind = .openBracket)
    (sound : ∀ later : Tape, later.Proper → later.left < t.left → SoundAt inner later) :
    SoundAt (arrayWith inner) t := by
  intro none
  have first := proper.tokens_eq (by rw [opens]; simp)
  have shorter := proper.advance_left (by rw [opens]; simp)
  have step : arrayWith inner t =
      (arraySize >>= fun size => (do expect .closeBracket; let element ← inner; arrayOf size element)) t.advance := by
    simp [arrayWith, bind_apply]
  rw [step] at none ⊢
  obtain ⟨noneSize, noneRest⟩ := List.append_eq_nil_iff.mp none
  by_cases isNumber : t.advance.current.kind = .integer
  · cases counted : arraySize? t.advance.current.text with
    | none => simp [arraySize_apply, isNumber, counted] at noneSize
    | some size =>
      have read : arraySize t.advance = ⟨size, [], [], t.advance.advance⟩ := by
        rw [arraySize_apply, if_pos isNumber, counted]
        rfl
      obtain ⟨n, decimal, positive, fits, rfl⟩ := arraySize?_eq_some.mp counted
      have second := proper.advance.tokens_eq (by rw [isNumber]; simp)
      have shorterYet := proper.advance.advance_left (by rw [isNumber]; simp)
      rw [read] at noneRest
      obtain ⟨closes, front, element, isType, flat, value, between⟩ := arrayRest_sound proper.advance.advance
        (fun later properLater less => sound later properLater (by omega)) noneRest
      rw [bind_value, bind_tape, read]
      refine ⟨_, _, value, .array opens isNumber decimal positive fits closes isType flat, ?_⟩
      rw [first, second, between]
      rfl
  · rw [arraySize_apply, if_neg isNumber] at noneRest
    obtain ⟨closes, front, element, isType, flat, value, between⟩ := arrayRest_sound proper.advance
      (fun later properLater less => sound later properLater (by omega)) noneRest
    rw [bind_value, bind_tape, arraySize_apply, if_neg isNumber]
    refine ⟨_, _, value, .slice opens closes isType flat, ?_⟩
    rw [first, between]
    rfl

theorem pointerWith_sound (proper : t.Proper) (points : t.current.kind = .asterisk)
    (sound : ∀ later : Tape, later.Proper → later.left < t.left → SoundAt inner later) :
    SoundAt (pointerWith inner) t := by
  intro none
  have more : t.current.kind ≠ .endOfFile := by rw [points]; simp
  have step : pointerWith inner t = (inner >>= fun value => pointerTo value) t.advance := by
    simp [pointerWith, bind_apply]
  rw [step] at none ⊢
  obtain ⟨noneInner, noneCheck⟩ := List.append_eq_nil_iff.mp none
  obtain ⟨front, value, read, isType, between⟩ := sound t.advance proper.advance (proper.advance_left more) noneInner
  rw [read] at noneCheck
  refine ⟨_, _, ?_, .pointer points isType (pointerTo_clean noneCheck), ?_⟩
  · rw [bind_value, read, pointerTo_apply]
    rfl
  · rw [bind_tape, pointerTo_apply, proper.tokens_eq more, between]
    rfl

theorem mapWith_sound (proper : t.Proper) (forward : inner.Forward) (isMap : t.current.kind = .keyword .map)
    (sound : ∀ later : Tape, later.Proper → later.left < t.left → SoundAt inner later) :
    SoundAt (mapWith inner) t := by
  intro none
  have more : t.current.kind ≠ .endOfFile := by rw [isMap]; simp
  have shorter := proper.advance_left more
  obtain ⟨_, noneRest⟩ := List.append_eq_nil_iff.mp none
  obtain ⟨noneOpen, noneRest⟩ := List.append_eq_nil_iff.mp noneRest
  obtain ⟨noneKey, noneRest⟩ := List.append_eq_nil_iff.mp noneRest
  obtain ⟨noneClose, noneRest⟩ := List.append_eq_nil_iff.mp noneRest
  obtain ⟨noneValue, _⟩ := List.append_eq_nil_iff.mp noneRest
  simp only [advance_apply] at noneOpen noneKey noneClose noneValue
  have opens := expect_clean noneOpen
  rw [(expect_problems opens).2] at noneKey noneClose noneValue
  have properKey := proper.advance.advance
  have shorterKey := proper.advance.advance_left (by rw [opens]; simp)
  obtain ⟨inKey, key, readKey, isKey, afterKey⟩ := sound _ properKey (by omega) noneKey
  have keyLeads := forward t.advance.advance
  have keyLeft := keyLeads.left_le
  have closes := expect_clean noneClose
  rw [(expect_problems closes).2] at noneValue
  have properClose := properKey.leads keyLeads
  have moreClose : (inner t.advance.advance).tape.current.kind ≠ .endOfFile := by rw [closes]; simp
  have shorterValue := properClose.advance_left moreClose
  obtain ⟨inValue, value, readValue, isValue, afterValue⟩ := sound _ properClose.advance (by omega) noneValue
  have step : mapWith inner t = ⟨some (.map key value), (mapWith inner t).problems, (mapWith inner t).mentions,
      (inner (inner t.advance.advance).tape.advance).tape⟩ := by
    simp only [mapWith, bind_apply, advance_apply, (expect_problems opens).2, (expect_problems closes).2, readKey,
      readValue, pure_eq, pure_apply]
  rw [step]
  refine ⟨_, _, rfl, .map isMap opens isKey closes isValue, ?_⟩
  rw [proper.tokens_eq more, proper.advance.tokens_eq (by rw [opens]; simp), afterKey,
    properClose.tokens_eq moreClose, afterValue]
  simp

end

theorem type_sound {t : Tape} (proper : t.Proper) : SoundAt type t := by
  induction size : t.left using Nat.strongRecOn generalizing t with
  | ind n ih =>
    have sound : ∀ later : Tape, later.Proper → later.left < t.left → SoundAt type later :=
      fun later properLater shorter => ih later.left (size ▸ shorter) properLater rfl
    unfold SoundAt
    rw [type_eq proper]
    intro none
    cases kind : t.current.kind with
    | openBracket =>
      simp only [typeWith, bind_apply, current_apply, kind, List.nil_append] at none ⊢
      exact arrayWith_sound proper kind sound none
    | asterisk =>
      simp only [typeWith, bind_apply, current_apply, kind, List.nil_append] at none ⊢
      exact pointerWith_sound proper kind sound none
    | identifier =>
      simp only [typeWith, bind_apply, current_apply, kind, map_apply, List.nil_append] at none ⊢
      obtain ⟨front, isType, between⟩ := namedType_sound proper kind none
      exact ⟨front, _, rfl, isType, between⟩
    | keyword word =>
      cases word with
      | map =>
        simp only [typeWith, bind_apply, current_apply, kind, List.nil_append] at none ⊢
        exact mapWith_sound proper type_forward kind sound none
      | _ => simp [typeWith, bind_apply, kind, noType_apply] at none
    | _ => simp [typeWith, bind_apply, kind, noType_apply] at none

inductive Denotes : List Token → ValueType Unit → Prop where
  | word {name : Token} (isName : name.kind = .identifier) : Denotes [name] (typeNamed name.text)
  | qualified {package point name : Token} (isPackage : package.kind = .identifier) (isPoint : point.kind = .period)
      (isName : name.kind = .identifier) : Denotes [package, point, name] (typeNamed (package.text ++ "." ++ name.text))
  | slice {opening closing : Token} {ws : List Token} {element : ValueType Unit} (opens : opening.kind = .openBracket)
      (closes : closing.kind = .closeBracket) (inner : Denotes ws element) :
      Denotes (opening :: closing :: ws) (.array 0 element)
  | array {opening number closing : Token} {ws : List Token} {element : ValueType Unit} {size : UInt32}
      (opens : opening.kind = .openBracket) (isNumber : number.kind = .integer)
      (counted : arraySize? number.text = some size) (closes : closing.kind = .closeBracket)
      (inner : Denotes ws element) : Denotes (opening :: number :: closing :: ws) (.array size element)
  | map {word opening closing : Token} {inKey inValue : List Token} {key value : ValueType Unit}
      (isMap : word.kind = .keyword .map) (opens : opening.kind = .openBracket) (ofKey : Denotes inKey key)
      (closes : closing.kind = .closeBracket) (ofValue : Denotes inValue value) :
      Denotes (word :: opening :: (inKey ++ closing :: inValue)) (.map key value)
  | pointer {star : Token} {ws : List Token} {value : ValueType Unit} (points : star.kind = .asterisk)
      (inner : Denotes ws value) : Denotes (star :: ws) (.pointer value)

theorem typeNamed_misplaced (name : String) : (typeNamed name).misplaced = [] := by
  unfold typeNamed
  cases builtin : ValueType.builtin? (σ := Unit) name with
  | none => rfl
  | some type =>
    obtain ⟨entry, found, rfl⟩ := Option.map_eq_some_iff.mp builtin
    have plain : ∀ entry ∈ ValueType.builtins (σ := Unit), entry.2.misplaced = [] := by
      simp [ValueType.builtins, ValueType.misplaced]
    exact plain entry (List.mem_of_find?_eq_some found)

theorem IsType.denotes {ws : List Token} {type : ValueType Unit} (isType : IsType ws type) :
    Denotes ws type ∧ type.misplaced = [] := by
  induction isType with
  | word isName => exact ⟨.word isName, typeNamed_misplaced _⟩
  | qualified isPackage isPoint isName => exact ⟨.qualified isPackage isPoint isName, typeNamed_misplaced _⟩
  | slice opens closes _ flat ih => exact ⟨.slice opens closes ih.1, by simp [ValueType.misplaced, ih.2, flat]⟩
  | array opens isNumber decimal positive fits closes _ flat ih =>
    have counted := arraySize?_eq_some.mpr ⟨_, decimal, positive, fits, rfl⟩
    exact ⟨.array opens isNumber counted closes ih.1, by simp [ValueType.misplaced, ih.2, flat]⟩
  | map isMap opens _ closes _ ihKey ihValue =>
    exact ⟨.map isMap opens ihKey.1 closes ihValue.1, by simp [ValueType.misplaced, ihKey.2, ihValue.2]⟩
  | pointer points _ allowed ih => exact ⟨.pointer points ih.1, by simp [ValueType.misplaced, ih.2, allowed]⟩

structure Completes (r : Reader (Option (ValueType Unit))) (t : Tape) (value : ValueType Unit)
    (rest : List Token) : Prop where
  problems : (r t).problems.map (·.content) = value.misplaced
  value : (r t).value = some value
  left : (r t).tape.tokens = rest

section
variable {t : Tape} {rest : List Token}

theorem namedType_complete {name : Token} (isName : name.kind = .identifier) (found : t.tokens = name :: rest)
    (proper : t.Proper) (follow : nextKind rest ≠ .period) :
    (namedType t).problems = [] ∧ (namedType t).value = typeNamed name.text ∧ (namedType t).tape.tokens = rest := by
  obtain ⟨rfl, left⟩ := Tape.current_token found
  have period : t.advance.current.kind ≠ .period := by
    rw [proper.advance.current_kind, left]
    exact follow
  have step : namedType t = named t.current.text t.current.position t.advance := by
    simp [namedType, bind_apply, period]
  obtain ⟨value, none, tape⟩ := named_value t.current.text t.current.position t.advance
  rw [step, value, none, tape]
  exact ⟨rfl, rfl, left⟩

theorem qualifiedType_complete {package point name : Token} (isPoint : point.kind = .period)
    (isName : name.kind = .identifier) (found : t.tokens = package :: point :: name :: rest) :
    (namedType t).problems = [] ∧ (namedType t).value = typeNamed (package.text ++ "." ++ name.text) ∧
      (namedType t).tape.tokens = rest := by
  obtain ⟨rfl, afterPackage⟩ := Tape.current_token found
  obtain ⟨rfl, afterPoint⟩ := Tape.current_token afterPackage
  obtain ⟨rfl, left⟩ := Tape.current_token afterPoint
  have period : t.advance.current.kind = .period := isPoint
  have second : t.advance.advance.current.kind = .identifier := isName
  have step : namedType t = named (t.current.text ++ ("." ++ t.advance.advance.current.text)) t.current.position
      t.advance.advance.advance := by
    simp [namedType, bind_apply, period, qualifier_apply, second]
  obtain ⟨value, none, tape⟩ := named_value (t.current.text ++ ("." ++ t.advance.advance.current.text)) t.current.position
    t.advance.advance.advance
  rw [step, value, none, tape, ← String.append_assoc]
  exact ⟨rfl, rfl, left⟩

variable {inner : Reader (Option (ValueType Unit))}

theorem arrayRest_complete (size : UInt32) {element : ValueType Unit} (closes : t.current.kind = .closeBracket)
    (completes : Completes inner t.advance element rest) :
    Completes (do expect .closeBracket; let element ← inner; arrayOf size element) t (.array size element) rest := by
  have step : (do expect .closeBracket; let element ← inner; arrayOf size element : Reader _) t =
      ⟨some (.array size element), (inner t.advance).problems ++ (arrayOf size (some element) (inner t.advance).tape).problems,
        (inner t.advance).mentions, (inner t.advance).tape⟩ := by
    simp [bind_apply, expect_apply, closes, arrayOf_apply, completes.value]
  refine ⟨?_, by rw [step], by rw [step]; exact completes.left⟩
  rw [step, List.map_append, completes.problems, arrayOf_apply, ValueType.misplaced]
  cases nested : element.isArray <;> simp [nested, Option.filter]

theorem slice_complete {element : ValueType Unit} (closes : t.advance.current.kind = .closeBracket)
    (completes : Completes inner t.advance.advance element rest) : Completes (arrayWith inner) t (.array 0 element) rest := by
  have step : arrayWith inner t =
      (do expect .closeBracket; let element ← inner; arrayOf 0 element : Reader _) t.advance := by
    simp [arrayWith, bind_apply, arraySize_apply, closes]
  obtain ⟨problems, value, left⟩ := arrayRest_complete 0 closes completes
  exact ⟨by rw [step]; exact problems, by rw [step]; exact value, by rw [step]; exact left⟩

theorem array_complete {element : ValueType Unit} {size : UInt32} (isNumber : t.advance.current.kind = .integer)
    (counted : arraySize? t.advance.current.text = some size) (closes : t.advance.advance.current.kind = .closeBracket)
    (completes : Completes inner t.advance.advance.advance element rest) :
    Completes (arrayWith inner) t (.array size element) rest := by
  have step : arrayWith inner t =
      (do expect .closeBracket; let element ← inner; arrayOf size element : Reader _) t.advance.advance := by
    simp [arrayWith, bind_apply, arraySize_apply, isNumber, counted]
  obtain ⟨problems, value, left⟩ := arrayRest_complete size closes completes
  exact ⟨by rw [step]; exact problems, by rw [step]; exact value, by rw [step]; exact left⟩

theorem pointerWith_complete {value : ValueType Unit} (completes : Completes inner t.advance value rest) :
    Completes (pointerWith inner) t (.pointer value) rest := by
  have step : pointerWith inner t = ⟨some (.pointer value),
      (inner t.advance).problems ++ (pointerTo (some value) (inner t.advance).tape).problems,
      (inner t.advance).mentions, (inner t.advance).tape⟩ := by
    simp [pointerWith, bind_apply, pointerTo_apply, completes.value]
  refine ⟨?_, by rw [step], by rw [step]; exact completes.left⟩
  rw [step, List.map_append, completes.problems, pointerTo_apply, ValueType.misplaced]
  cases barrier : value.isPointerBarrier <;> simp [barrier, Option.filter]

theorem mapWith_complete {key value : ValueType Unit} {middle : List Token} (opens : t.advance.current.kind = .openBracket)
    (ofKey : Completes inner t.advance.advance key middle)
    (closes : (inner t.advance.advance).tape.current.kind = .closeBracket)
    (ofValue : Completes inner (inner t.advance.advance).tape.advance value rest) :
    Completes (mapWith inner) t (.map key value) rest := by
  have step : mapWith inner t = ⟨some (.map key value),
      (inner t.advance.advance).problems ++ (inner (inner t.advance.advance).tape.advance).problems,
      (inner t.advance.advance).mentions ++ (inner (inner t.advance.advance).tape.advance).mentions,
      (inner (inner t.advance.advance).tape.advance).tape⟩ := by
    simp [mapWith, bind_apply, expect_apply, opens, closes, ofKey.value, ofValue.value]
  refine ⟨?_, by rw [step], by rw [step]; exact ofValue.left⟩
  rw [step, List.map_append, ofKey.problems, ofValue.problems, ValueType.misplaced]

end

theorem type_completes {rule : Reader (Option (ValueType Unit))} {value : ValueType Unit} {t : Tape} {rest : List Token}
    (proper : t.Proper) (step : typeWith type t = rule t) (completes : Completes rule t value rest) :
    Completes type t value rest := by
  have same : type t = rule t := (type_eq proper).trans step
  exact ⟨same ▸ completes.problems, same ▸ completes.value, same ▸ completes.left⟩

theorem name_complete {name : String} {t : Tape} {rest : List Token} (proper : t.Proper)
    (isName : t.current.kind = .identifier) (read : (namedType t).problems = [] ∧ (namedType t).value = typeNamed name ∧
      (namedType t).tape.tokens = rest) : Completes type t (typeNamed name) rest := by
  obtain ⟨none, value, left⟩ := read
  have step : typeWith type t = (some <$> namedType) t := by simp [typeWith, bind_apply, isName, map_apply]
  refine type_completes proper step ⟨?_, ?_, ?_⟩
  · rw [map_apply, typeNamed_misplaced]
    exact List.map_eq_nil_iff.mpr none
  · rw [map_apply]
    exact congrArg some value
  · rw [map_apply]
    exact left

theorem type_complete {front : List Token} {value : ValueType Unit} (denotes : Denotes front value) {t : Tape}
    {rest : List Token} (proper : t.Proper) (found : t.tokens = front ++ rest) (follow : nextKind rest ≠ .period) :
    Completes type t value rest := by
  induction denotes generalizing t rest with
  | word isName =>
    obtain ⟨rfl, _⟩ := Tape.current_token found
    exact name_complete proper isName (namedType_complete isName found proper follow)
  | qualified isPackage isPoint isName =>
    obtain ⟨rfl, _⟩ := Tape.current_token found
    exact name_complete proper isPackage (qualifiedType_complete isPoint isName found)
  | slice opens closes inner ih =>
    obtain ⟨rfl, afterOpen⟩ := Tape.current_token found
    obtain ⟨rfl, afterClose⟩ := Tape.current_token afterOpen
    refine type_completes proper ?_ (slice_complete closes (ih proper.advance.advance afterClose follow))
    have kind : t.current.kind = .openBracket := opens
    simp [typeWith, bind_apply, kind]
  | array opens isNumber counted closes inner ih =>
    obtain ⟨rfl, afterOpen⟩ := Tape.current_token found
    obtain ⟨rfl, afterNumber⟩ := Tape.current_token afterOpen
    obtain ⟨rfl, afterClose⟩ := Tape.current_token afterNumber
    refine type_completes proper ?_ (array_complete isNumber counted closes
      (ih proper.advance.advance.advance afterClose follow))
    have kind : t.current.kind = .openBracket := opens
    simp [typeWith, bind_apply, kind]
  | @map word opening closing inKey inValue key value isMap opens ofKey closes ofValue ihKey ihValue =>
    simp only [List.cons_append, List.append_assoc] at found
    obtain ⟨rfl, afterMap⟩ := Tape.current_token found
    obtain ⟨rfl, afterOpen⟩ := Tape.current_token afterMap
    have completesKey := ihKey proper.advance.advance afterOpen (by simp [nextKind, closes])
    obtain ⟨sameClose, afterClose⟩ := Tape.current_token completesKey.left
    have properClose := (proper.advance.advance).leads (type_forward t.advance.advance)
    have completesValue := ihValue properClose.advance afterClose follow
    refine type_completes proper ?_ (mapWith_complete opens completesKey ?_ completesValue)
    · have kind : t.current.kind = .keyword .map := isMap
      simp [typeWith, bind_apply, kind]
    · rw [Documented.kind, sameClose]
      exact closes
  | pointer points inner ih =>
    obtain ⟨rfl, afterStar⟩ := Tape.current_token found
    refine type_completes proper ?_ (pointerWith_complete (ih proper.advance afterStar follow))
    have kind : t.current.kind = .asterisk := points
    simp [typeWith, bind_apply, kind]

theorem someType_starts : someType.Starts fun kind =>
    kind = .identifier ∨ kind = .openBracket ∨ kind = .asterisk ∨ kind = .keyword .map := by
  rintro _ ⟨type, isType⟩
  cases isType with
  | word isName => exact ⟨_, _, rfl, .inl isName⟩
  | qualified isPackage => exact ⟨_, _, rfl, .inl isPackage⟩
  | slice opens => exact ⟨_, _, rfl, .inr (.inl opens)⟩
  | array opens => exact ⟨_, _, rfl, .inr (.inl opens)⟩
  | map isMap => exact ⟨_, _, rfl, .inr (.inr (.inr isMap))⟩
  | pointer points => exact ⟨_, _, rfl, .inr (.inr (.inl points))⟩

theorem type_reads : type.Reads someType (· ≠ .period) := by
  refine ⟨type_forward, ?_, ?_⟩
  · intro t proper none
    obtain ⟨front, value, _, isType, between⟩ := type_sound proper none
    exact ⟨front, between, value, isType⟩
  · rintro t front rest proper found ⟨value, isType⟩ follow
    have completes := type_complete isType.denotes.1 proper found follow
    exact ⟨List.map_eq_nil_iff.mp (completes.problems.trans isType.denotes.2), completes.left⟩

end Grammar
end WireSchema

import WireSchema.Proofs.Grammar.TypeReads
import WireSchema.Proofs.Names.TypeName

-- The readers of members and declarations read what the grammar says. A member ends with its string, so one
-- token is enough to tell whether a result stands in front of it or another member behind it.
namespace WireSchema.Grammar
open Grammar.Language
open Reader hiding pure

theorem expect_reads {kind : TokenKind} (more : kind ≠ .endOfFile) : (expect kind).Reads (token kind) anything := by
  refine ⟨expect_forward kind, ?_, ?_⟩
  · intro t proper none
    have isKind := expect_clean none
    rw [(expect_problems isKind).2, proper.tokens_eq (isKind ▸ more)]
    exact ⟨[t.current.token], rfl, _, rfl, isKind⟩
  · rintro t _ rest proper found ⟨w, rfl, isKind⟩ _
    obtain ⟨rfl, left⟩ := Tape.current_token found
    obtain ⟨none, tape⟩ := expect_problems (t := t) isKind
    exact ⟨none, tape ▸ left⟩

theorem identifier_reads : identifier.Reads (token .identifier) anything := by
  refine ⟨identifier_takes.forward, ?_, ?_⟩
  · intro t proper none
    rw [identifier_apply] at none ⊢
    by_cases isName : t.current.kind = .identifier
    · rw [proper.tokens_eq (by rw [isName]; simp)]
      exact ⟨[t.current.token], rfl, _, rfl, isName⟩
    · simp [isName] at none
  · rintro t _ rest proper found ⟨w, rfl, isName⟩ _
    obtain ⟨rfl, left⟩ := Tape.current_token found
    rw [identifier_apply]
    exact ⟨if_pos isName, left⟩

theorem tagString_reads (signed : Bool) : (tagString signed).Reads (tagged signed) anything := by
  refine ⟨tagString_forward signed, ?_, ?_⟩
  · intro t proper none
    rw [tagString_apply] at none ⊢
    by_cases isString : t.current.kind = .string
    · rw [if_pos isString] at none ⊢
      rw [proper.tokens_eq (by rw [isString]; simp)]
      exact ⟨[t.current.token], rfl, _, rfl, isString, List.map_eq_nil_iff.mp none⟩
    · by_cases ends : t.current.kind = .semicolon <;> simp [isString, ends] at none
  · rintro t _ rest proper found ⟨w, rfl, isString, accepted⟩ _
    obtain ⟨rfl, left⟩ := Tape.current_token found
    have isString : t.current.kind = .string := isString
    rw [tagString_apply, if_pos isString]
    exact ⟨List.map_eq_nil_iff.mpr accepted, left⟩

theorem memberEnd_reads : memberEnd.Reads (optional (token .semicolon)) (· ≠ .semicolon) := by
  refine ⟨memberEnd_forward, ?_, ?_⟩
  · intro t proper _
    rw [memberEnd_apply]
    by_cases ends : t.current.kind = .semicolon
    · refine ⟨[t.current.token], ?_, .inr ⟨_, rfl, ends⟩⟩
      rw [proper.tokens_eq (by rw [ends]; simp)]
      simp [ends]
    · exact ⟨[], by simp [ends], .inl rfl⟩
  · rintro t _ rest proper found (rfl | ⟨w, rfl, ends⟩) follow
    · have other : t.current.kind ≠ .semicolon := by
        rw [proper.current_kind, found]
        exact follow
      rw [memberEnd_apply, if_neg other]
      exact ⟨rfl, found⟩
    · obtain ⟨rfl, left⟩ := Tape.current_token found
      have ends : t.current.kind = .semicolon := ends
      rw [memberEnd_apply, if_pos ends]
      exact ⟨rfl, left⟩

theorem tagged_starts (signed : Bool) : (tagged signed).Starts (· = .string) := by
  rintro _ ⟨w, rfl, isString, _⟩
  exact ⟨w, [], rfl, isString⟩

section Members

theorem enumerators_read : (many (fun kind => decide (kind = .identifier)) enumerator).Reads enumerators
    fun kind => decide (kind = .identifier) = false ∧ kind ≠ .semicolon := by
  have reads : enumerator.Reads ((token .identifier).seq ((tagged true).seq (optional (token .semicolon))))
      (· ≠ .semicolon) :=
    .current fun _ => identifier_reads.seq fun _ => (tagString_reads true).seq fun _ => memberEnd_reads.map _
  exact reads.many enumerator_takes rfl (((token_starts _).seq _).imp (by rintro _ rfl; simp))

theorem members_read {α : Type} {member : Reader (Option α)} {L : Language} (reads : member.Reads L (· ≠ .semicolon))
    (takes : member.Takes) (starts : L.Starts fun kind => isBodyEnd kind = false ∧ kind ≠ .semicolon) :
    (members member).Reads (Language.many L) (· = .closeBrace) := by
  have first : L.Starts fun kind => (!isBodyEnd kind) = true ∧ kind ≠ .semicolon :=
    starts.imp fun kind first => ⟨by simp [first.1], first.2⟩
  have loop := (reads.many takes rfl first).map (·.filterMap id)
  refine ⟨loop.forward, loop.sound, ?_⟩
  intro t front rest proper found words follow
  exact loop.complete t front rest proper found words ⟨by rw [follow]; rfl, by rw [follow]; simp⟩

theorem fields_read : (members field).Reads fields (· = .closeBrace) := by
  refine members_read ?_ field_takes (((token_starts _).seq _).imp (by rintro _ rfl; simp [isBodyEnd]))
  exact .current fun _ => identifier_reads.seq fun _ => type_reads.before
    (fun _ => (tagString_reads false).seq fun _ => memberEnd_reads.map _)
    (((tagged_starts false).seq _).imp (by rintro _ rfl; simp))

theorem branches_read : (members branch).Reads branches (· = .closeBrace) := by
  refine members_read ?_ branch_takes ((someType_starts.seq _).imp (by rintro _ (rfl | rfl | rfl | rfl) <;> simp [isBodyEnd]))
  exact .current fun _ => type_reads.before
    (fun _ => (tagString_reads false).seq fun _ => memberEnd_reads.map _)
    (((tagged_starts false).seq _).imp (by rintro _ rfl; simp))

theorem result_reads : result.Reads (optional someType) (· = .string) := by
  refine ⟨result_forward, ?_, ?_⟩
  · intro t proper none
    have typed : (type t).problems = [] → ∃ front, t.tokens = front ++ (type t).tape.tokens ∧ optional someType front :=
      fun none => by
        obtain ⟨front, between, isType⟩ := type_reads.sound t proper none
        exact ⟨front, between, .inr isType⟩
    cases kind : t.current.kind with
    | string | semicolon | closeBrace | endOfFile =>
      refine ⟨[], ?_, .inl rfl⟩
      simp [result, bind_apply, kind]
    | _ =>
      simp only [result, bind_apply, current_apply, kind, List.nil_append] at none ⊢
      exact typed none
  · rintro t front rest proper found (rfl | isType) follow
    · have kind : t.current.kind = .string := by
        rw [proper.current_kind, found]
        exact follow
      have step : result t = ⟨none, [], [], t⟩ := by simp [result, bind_apply, kind]
      rw [step]
      exact ⟨rfl, found⟩
    · have starts := someType_starts.nextKind isType rest
      rw [← found, ← proper.current_kind] at starts
      have step : result t = type t := by
        rcases starts with kind | kind | kind | kind <;> simp [result, bind_apply, kind]
      rw [step]
      exact type_reads.complete t front rest proper found isType (by rw [follow]; simp)

inductive IsArguments : List Token → Prop where
  | none : IsArguments []
  | last {ws : List Token} (one : someType ws) : IsArguments ws
  | more {first rest : List Token} {comma : Token} (one : someType first) (isComma : comma.kind = .comma)
      (others : IsArguments rest) : IsArguments (first ++ comma :: rest)

theorem isArguments_of_types {first others : List Token} (one : someType first)
    (more : many ((token .comma).seq someType) others) {ending : List Token} (ends : optional (token .comma) ending) :
    IsArguments (first ++ (others ++ ending)) := by
  induction more generalizing first with
  | none =>
    rcases ends with rfl | ⟨comma, rfl, isComma⟩
    · rw [List.append_nil, List.append_nil]
      exact .last one
    · exact .more one isComma .none
  | more next _ ih =>
    obtain ⟨_, second, rfl, ⟨comma, rfl, isComma⟩, isType⟩ := next
    have whole := IsArguments.more one isComma (ih isType)
    simpa using whole

theorem isArguments_iff {ws : List Token} : IsArguments ws ↔ argumentTypes ws := by
  constructor
  · intro isArguments
    induction isArguments with
    | none => exact .inl rfl
    | @last ws one => exact .inr ⟨ws, [], (List.append_nil ws).symm, one, [], [], rfl, .none, .inl rfl⟩
    | @more first rest comma one isComma _ ih =>
      rcases ih with rfl | ⟨second, behind, rfl, isType, others, ending, rfl, more, ends⟩
      · exact .inr ⟨first, [comma], rfl, one, [], [comma], rfl, .none, .inr ⟨comma, rfl, isComma⟩⟩
      · refine .inr ⟨first, _, rfl, one, (comma :: second) ++ others, ending, by simp, ?_, ends⟩
        exact .more ⟨[comma], second, rfl, ⟨comma, rfl, isComma⟩, isType⟩ more
  · rintro (rfl | ⟨first, _, rfl, one, others, ending, rfl, more, ends⟩)
    · exact .none
    · exact isArguments_of_types one more ends

section
variable {t : Tape}

theorem arguments_none (proper : t.Proper) (ends : isArgumentsEnd t.current.kind = true) : arguments t = ⟨[], [], [], t⟩ := by
  rw [arguments_eq proper]
  simp [argumentsWith, bind_apply, ends]

theorem arguments_last (proper : t.Proper) (goes : isArgumentsEnd t.current.kind = false)
    (last : (type t).tape.current.kind ≠ .comma) :
    arguments t = ⟨(type t).value.toList, (type t).problems, (type t).mentions, (type t).tape⟩ := by
  rw [arguments_eq proper]
  simp [argumentsWith, bind_apply, goes, last]

theorem arguments_more (proper : t.Proper) (goes : isArgumentsEnd t.current.kind = false)
    (comma : (type t).tape.current.kind = .comma) :
    arguments t = ⟨(type t).value.toList ++ (arguments (type t).tape.advance).value,
      (type t).problems ++ (arguments (type t).tape.advance).problems,
      (type t).mentions ++ (arguments (type t).tape.advance).mentions, (arguments (type t).tape.advance).tape⟩ := by
  rw [arguments_eq proper]
  simp [argumentsWith, bind_apply, goes, comma]

theorem arguments_sound (proper : t.Proper) (none : (arguments t).problems = []) :
    ∃ front, t.tokens = front ++ (arguments t).tape.tokens ∧ IsArguments front := by
  induction size : t.left using Nat.strongRecOn generalizing t with
  | ind n ih =>
    cases ends : isArgumentsEnd t.current.kind with
    | true =>
      rw [arguments_none proper ends]
      exact ⟨[], rfl, .none⟩
    | false =>
      have proper' := proper.leads (type_forward t)
      by_cases comma : (type t).tape.current.kind = .comma
      · rw [arguments_more proper ends comma] at none ⊢
        obtain ⟨noneFirst, noneRest⟩ := List.append_eq_nil_iff.mp none
        have shorter := proper'.advance_left (by rw [comma]; simp)
        have left := (type_forward t).left_le
        obtain ⟨first, before, one⟩ := type_reads.sound t proper noneFirst
        obtain ⟨rest, between, others⟩ := ih _ (by omega) proper'.advance noneRest rfl
        refine ⟨first ++ (type t).tape.current.token :: rest, ?_, .more one comma others⟩
        rw [before, proper'.tokens_eq (by rw [comma]; simp), between]
        simp
      · rw [arguments_last proper ends comma] at none ⊢
        obtain ⟨first, before, one⟩ := type_reads.sound t proper none
        exact ⟨first, before, .last one⟩

theorem isArgumentsEnd_type {first behind : List Token} (proper : t.Proper) (found : t.tokens = first ++ behind)
    (one : someType first) : isArgumentsEnd t.current.kind = false := by
  have starts := someType_starts.nextKind one behind
  rw [← found, ← proper.current_kind] at starts
  rcases starts with kind | kind | kind | kind <;> simp [isArgumentsEnd, kind]

theorem arguments_complete {front : List Token} (isArguments : IsArguments front) {rest : List Token}
    (proper : t.Proper) (found : t.tokens = front ++ rest) (follow : nextKind rest = .closeParen) :
    (arguments t).problems = [] ∧ (arguments t).tape.tokens = rest := by
  induction isArguments generalizing t with
  | none =>
    have ends : isArgumentsEnd t.current.kind = true := by
      rw [proper.current_kind, found, List.nil_append, follow]
      rfl
    rw [arguments_none proper ends]
    exact ⟨rfl, found⟩
  | @last ws one =>
    obtain ⟨none, left⟩ := type_reads.complete t ws rest proper found one (by rw [follow]; simp)
    have last : (type t).tape.current.kind ≠ .comma := by
      rw [(proper.leads (type_forward t)).current_kind, left, follow]
      simp
    rw [arguments_last proper (isArgumentsEnd_type proper found one) last]
    exact ⟨none, left⟩
  | @more first others comma one isComma _ ih =>
    rw [List.append_assoc] at found
    obtain ⟨none, left⟩ := type_reads.complete t first _ proper found one (by simp [nextKind, isComma])
    obtain ⟨rfl, behind⟩ := Tape.current_token left
    obtain ⟨noneOthers, leftOthers⟩ := ih ((proper.leads (type_forward t)).advance) behind
    rw [arguments_more proper (isArgumentsEnd_type proper found one) isComma, none, noneOthers]
    exact ⟨rfl, leftOthers⟩

end

theorem arguments_read : arguments.Reads argumentTypes (· = .closeParen) := by
  refine ⟨arguments_forward, ?_, ?_⟩
  · intro t proper none
    obtain ⟨front, between, isArguments⟩ := arguments_sound proper none
    exact ⟨front, between, isArguments_iff.mp isArguments⟩
  · intro t front rest proper found written follow
    exact arguments_complete (isArguments_iff.mpr written) proper found follow

theorem methods_read : (members method).Reads methods (· = .closeBrace) := by
  refine members_read ?_ method_takes (((token_starts _).seq _).imp (by rintro _ rfl; simp [isBodyEnd]))
  refine .current fun _ => identifier_reads.seq fun _ => (expect_reads (by simp)).seq fun _ =>
    arguments_read.before (fun _ => (expect_reads (by simp)).seq fun _ =>
      result_reads.before (fun _ => (tagString_reads false).seq fun _ => memberEnd_reads.map _) ?_) ?_
  · exact (tagged_starts false).seq _
  · exact (token_starts _).seq _

end Members

section Items

theorem literal_reads : literal.Reads literals anything := by
  refine ⟨literal_forward, ?_, ?_⟩
  · intro t proper none
    rw [literal_apply, literal?] at none ⊢
    cases kind : t.current.kind with
    | integer | float | string =>
      have first := proper.tokens_eq (by rw [kind]; simp)
      refine ⟨[t.current.token], first, _, rfl, ?_⟩
      simp [show t.current.token.kind = _ from kind]
    | _ => simp [kind] at none
  · rintro t _ rest proper found ⟨w, rfl, isLiteral⟩ _
    obtain ⟨rfl, left⟩ := Tape.current_token found
    rw [literal_apply, literal?]
    rcases isLiteral with kind | kind | kind <;>
      · rw [show t.current.kind = _ from kind]
        exact ⟨rfl, left⟩

theorem constant_reads : constant.Reads constants anything :=
  .current fun _ => (expect_reads (by simp)).seq fun _ => identifier_reads.seq fun _ =>
    (expect_reads (by simp)).seq fun _ => literal_reads.seq fun _ => (expect_reads (by simp)).map _

theorem block_reads {α : Type} (word : Keyword) {members : Reader α} {L : Language} {follow : TokenKind → Prop}
    (reads : members.Reads L follow) (close : follow .closeBrace) : (block word members).Reads (blocks word L) anything :=
  (expect_reads (by simp)).seq fun _ => identifier_reads.seq fun _ => (expect_reads (by simp)).seq fun _ =>
    reads.before (fun _ => (expect_reads (by simp)).seq fun _ => (expect_reads (by simp)).map _)
      (((token_starts _).seq _).imp (by rintro _ rfl; exact close))

theorem block_named {α : Type} (word : Keyword) (members : Reader α) {L : Language} {t : Tape} {front rest : List Token}
    (written : blocks word L front) (found : t.tokens = front ++ rest) :
    (block word members t).value.1 = nameOf front := by
  obtain ⟨_, _, rfl, ⟨w, rfl, _⟩, _, more, rfl, ⟨name, rfl, isName⟩, _⟩ := written
  obtain ⟨_, behind⟩ := Tape.current_token found
  obtain ⟨same, _⟩ := Tape.current_token behind
  have isName : t.advance.current.kind = .identifier := by rw [Documented.kind, same]; exact isName
  have value : (block word members t).value.1 = t.advance.current.text := by
    simp [block, bind_apply, expect_apply, identifier_apply, isName]
  rw [value, Documented.text, same]
  rfl

structure ReadsNamed {α : Type} (r : Reader α) (name : α → String) (L : Language) : Prop where
  reads : r.Reads L anything
  named : ∀ (t : Tape) front rest, L front → t.tokens = front ++ rest → name (r t).value = nameOf front

theorem enumeration_reads : ReadsNamed enumeration (·.name) (blocks .enumeration enumerators) :=
  ⟨.current fun _ => (block_reads .enumeration enumerators_read (by simp)).map _,
    fun _ _ _ written found =>
      block_named .enumeration (Reader.many (fun kind => decide (kind = .identifier)) enumerator) written found⟩

theorem struct_reads : ReadsNamed struct (·.name) (blocks .struct fields) :=
  ⟨.current fun _ => (block_reads .struct fields_read rfl).map _,
    fun _ _ _ written found => block_named .struct (members field) written found⟩

theorem union_reads : ReadsNamed union (·.name) (blocks .union branches) :=
  ⟨.current fun _ => (block_reads .union branches_read rfl).map _,
    fun _ _ _ written found => block_named .union (members branch) written found⟩

theorem service_reads : ReadsNamed service (·.name) (blocks .service methods) :=
  ⟨.current fun _ => (block_reads .service methods_read rfl).map _,
    fun _ _ _ written found => block_named .service (members method) written found⟩

section ByWord
variable {t : Tape}

theorem item_semicolon (kind : t.current.kind = .semicolon) : item t = ⟨none, [], [], t.advance⟩ := by
  simp [item, bind_apply, kind]

theorem item_const (kind : t.current.kind = .keyword .const) : item t =
    ⟨(constant t).value.map .const, (constant t).problems, (constant t).mentions, (constant t).tape⟩ := by
  simp [item, bind_apply, kind]

theorem item_enumeration (kind : t.current.kind = .keyword .enumeration) : item t =
    ⟨some (.enumeration (enumeration t).value), (enumeration t).problems, (enumeration t).mentions,
      (enumeration t).tape⟩ := by
  simp [item, bind_apply, kind]

theorem item_struct (kind : t.current.kind = .keyword .struct) : item t =
    ⟨some (.struct (struct t).value), (struct t).problems, (struct t).mentions, (struct t).tape⟩ := by
  simp [item, bind_apply, kind]

theorem item_union (kind : t.current.kind = .keyword .union) : item t =
    ⟨some (.union (union t).value), (union t).problems, (union t).mentions, (union t).tape⟩ := by
  simp [item, bind_apply, kind]

theorem item_service (kind : t.current.kind = .keyword .service) : item t =
    ⟨some (.service (service t).value), (service t).problems, (service t).mentions, (service t).tape⟩ := by
  simp [item, bind_apply, kind]

end ByWord

def ItemSound (t : Tape) : Prop := (item t).problems = [] →
  ∃ front, t.tokens = front ++ (item t).tape.tokens ∧ IsItem front ((item t).value.bind (·.typeName?))

structure ItemComplete (t : Tape) (name : Option String) (rest : List Token) : Prop where
  problems : (item t).problems = []
  named : (item t).value.bind (·.typeName?) = name
  left : (item t).tape.tokens = rest

section
variable {α : Type} {r : Reader α} {name : α → String} {L : Language} {t : Tape}

theorem declaration_sound (make : α → Declaration Unit) (rule : ReadsNamed r name L) (typed : ∀ a, (make a).typeName? = some (name a))
    (isItem : ∀ ws, L ws → IsItem ws (some (nameOf ws))) (proper : t.Proper)
    (step : item t = ⟨some (make (r t).value), (r t).problems, (r t).mentions, (r t).tape⟩) : ItemSound t := by
  intro none
  rw [step] at none ⊢
  obtain ⟨front, between, written⟩ := rule.reads.sound t proper none
  refine ⟨front, between, ?_⟩
  rw [Option.bind_some, typed, rule.named t front _ written between]
  exact isItem front written

theorem declaration_complete (make : α → Declaration Unit) {front rest : List Token} (rule : ReadsNamed r name L)
    (typed : ∀ a, (make a).typeName? = some (name a)) (proper : t.Proper) (found : t.tokens = front ++ rest)
    (written : L front)
    (step : item t = ⟨some (make (r t).value), (r t).problems, (r t).mentions, (r t).tape⟩) :
    ItemComplete t (some (nameOf front)) rest := by
  obtain ⟨none, left⟩ := rule.reads.complete t front rest proper found written trivial
  refine ⟨by rw [step]; exact none, ?_, by rw [step]; exact left⟩
  rw [step, Option.bind_some, typed, rule.named t front rest written found]

end

theorem item_sound {t : Tape} (proper : t.Proper) : ItemSound t := by
  cases kind : t.current.kind with
  | semicolon =>
    intro _
    rw [item_semicolon kind]
    exact ⟨[t.current.token], proper.tokens_eq (by rw [kind]; simp), .empty ⟨_, rfl, kind⟩⟩
  | keyword word =>
    cases word with
    | const =>
      intro none
      rw [item_const kind] at none ⊢
      obtain ⟨front, between, written⟩ := constant_reads.sound t proper none
      refine ⟨front, between, ?_⟩
      have untyped : ((constant t).value.map Declaration.const).bind (·.typeName?) = Option.none := by
        cases (constant t).value <;> rfl
      rw [untyped]
      exact .const written
    | enumeration =>
      exact declaration_sound .enumeration enumeration_reads (fun _ => rfl) (fun _ => .enumeration) proper (item_enumeration kind)
    | struct =>
      exact declaration_sound .struct struct_reads (fun _ => rfl) (fun _ => .struct) proper (item_struct kind)
    | union =>
      exact declaration_sound .union union_reads (fun _ => rfl) (fun _ => .union) proper (item_union kind)
    | service =>
      exact declaration_sound .service service_reads (fun _ => rfl) (fun _ => .service) proper (item_service kind)
    | package | importing | map => intro none; simp [item, bind_apply, kind] at none
  | _ => intro none; simp [item, bind_apply, kind] at none

theorem item_complete {front rest : List Token} {name : Option String} (isItem : IsItem front name) {t : Tape}
    (proper : t.Proper) (found : t.tokens = front ++ rest) : ItemComplete t name rest := by
  have starts : ∀ {kind : TokenKind} {L : Language}, (token kind).seq L front → t.current.kind = kind := by
    intro kind L written
    obtain ⟨w, more, rfl, isKind⟩ := ((token_starts kind).seq L) front written
    obtain ⟨rfl, _⟩ := Tape.current_token found
    exact isKind
  cases isItem with
  | empty alone =>
    obtain ⟨w, rfl, ends⟩ := alone
    obtain ⟨rfl, left⟩ := Tape.current_token found
    have kind : t.current.kind = .semicolon := ends
    have step := item_semicolon kind
    exact ⟨by rw [step], by rw [step]; rfl, by rw [step]; exact left⟩
  | const written =>
    have step := item_const (starts written)
    obtain ⟨none, left⟩ := constant_reads.complete t front rest proper found written trivial
    refine ⟨by rw [step]; exact none, ?_, by rw [step]; exact left⟩
    rw [step]
    cases (constant t).value <;> rfl
  | enumeration written =>
    exact declaration_complete .enumeration enumeration_reads (fun _ => rfl) proper found written
      (item_enumeration (starts written))
  | struct written =>
    exact declaration_complete .struct struct_reads (fun _ => rfl) proper found written
      (item_struct (starts written))
  | union written =>
    exact declaration_complete .union union_reads (fun _ => rfl) proper found written
      (item_union (starts written))
  | service written =>
    exact declaration_complete .service service_reads (fun _ => rfl) proper found written
      (item_service (starts written))

theorem IsItem.isName {front : List Token} {name : String} (isItem : IsItem front (some name))
    (named : ∀ w ∈ front, w.kind = .identifier → IsName w.text) : IsName name := by
  have block : ∀ {word : Keyword} {members : Language}, blocks word members front → IsName (nameOf front) := by
    rintro word members ⟨_, _, rfl, ⟨w, rfl, _⟩, _, more, rfl, ⟨name, rfl, isName⟩, _⟩
    exact named name (by simp) isName
  cases isItem with
  | enumeration written => exact block written
  | struct written => exact block written
  | union written => exact block written
  | service written => exact block written

theorem item_declares {t : Tape} (proper : t.Proper) (clean : (item t).problems = []) {name : String}
    (declares : (item t).value.bind (·.typeName?) = some name) : name ≠ "" := by
  obtain ⟨front, between, isItem⟩ := item_sound proper clean
  rw [declares] at isItem
  refine (isItem.isName fun w member isName => ?_).nonempty
  have inside : w ∈ t.tokens := between ▸ List.mem_append_left _ member
  obtain ⟨word, ahead, rfl⟩ := List.mem_map.mp inside
  exact proper.named word ahead isName

end Items

end WireSchema.Grammar

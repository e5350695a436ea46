import WireSchema.Proofs.Grammar.Places

-- What a file that is read without a report declares, told from its tokens alone: one declaration for each word that
-- starts one, and in its body one member for each string. Nothing of this is dropped, merged or moved by reading it.
namespace WireSchema

-- A member as its tokens tell it: where it starts, and what its string says.
structure MemberEntry where
  position : Position
  ordinal : Int
  tags : Tags
deriving DecidableEq

structure Entry where
  kind : DeclarationKind
  position : Position
  name : String
  members : List MemberEntry
deriving DecidableEq

def Enumerator.entry (e : Enumerator) : MemberEntry := ⟨e.position, e.value, e.tags⟩

def Field.entry {σ : Type} (f : Field σ) : MemberEntry := ⟨f.position, f.ordinal, f.tags⟩

def Branch.entry {σ : Type} (b : Branch σ) : MemberEntry := ⟨b.position, b.ordinal, b.tags⟩

def Method.entry {σ : Type} (m : Method σ) : MemberEntry := ⟨m.position, m.ordinal, m.tags⟩

namespace Declaration
variable {σ τ : Type}

def members : Declaration σ → List MemberEntry
  | .const _ => []
  | .enumeration e => e.enumerators.map (·.entry)
  | .struct s => s.fields.map (·.entry)
  | .union u => u.branches.map (·.entry)
  | .service s => s.methods.map (·.entry)

def entry (d : Declaration σ) : Entry := ⟨d.kind, d.position, d.name, d.members⟩

theorem entry_withSymbols (symbol : Reference σ → τ) (d : Declaration σ) : (d.withSymbols symbol).entry = d.entry := by
  cases d with
  | struct | union | service =>
    simp only [withSymbols, entry, kind, position, name, members, List.map_map]
    rfl
  | _ => rfl

end Declaration

namespace Grammar
open Grammar.Language
open Reader hiding pure

def declared? : TokenKind → Option DeclarationKind
  | .keyword .const => some .const
  | .keyword .enumeration => some .enumeration
  | .keyword .struct => some .struct
  | .keyword .union => some .union
  | .keyword .service => some .service
  | _ => none

theorem declared?_keyword (kind : DeclarationKind) : declared? (.keyword kind.keyword) = some kind := by
  cases kind <;> rfl

def bodyIn (tokens : List Token) : List Token :=
  (tokens.dropWhile (·.kind ≠ .openBrace)).tail.takeWhile (·.kind ≠ .closeBrace)

def memberEntry (signed : Bool) (first string : Token) : MemberEntry :=
  ⟨first.position, (TagString.read signed string.text).ordinal, (TagString.read signed string.text).tags⟩

-- The members in a body, with the first token of the one that has begun. Each ends with its string, and a terminator
-- behind a string belongs to the member in front of it.
def membersIn (signed : Bool) : Option Token → List Token → List MemberEntry
  | _, [] => []
  | begun, token :: rest =>
    if token.kind = .string then memberEntry signed (begun.getD token) token :: membersIn signed none rest
    else if begun = none ∧ token.kind = .semicolon then membersIn signed none rest
    else membersIn signed (some (begun.getD token)) rest

-- The declarations in a source: each starts at its word and is named by the token behind it.
def entriesIn : List Token → List Entry
  | [] => []
  | token :: rest =>
    match declared? token.kind with
    | some kind => ⟨kind, token.position, (rest.head?.map (·.text)).getD "",
        if kind = .const then [] else membersIn (kind = .enumeration) none (bodyIn rest)⟩ :: entriesIn rest
    | none => entriesIn rest

section Tokens
variable {ws rest : List Token} {signed : Bool}

def Plain (ws : List Token) : Prop :=
  ∀ w ∈ ws, w.kind ≠ .string ∧ w.kind ≠ .semicolon ∧ w.kind ≠ .closeBrace ∧ declared? w.kind = none

theorem Plain.nil : Plain [] := by simp [Plain]

theorem Plain.append {first second : List Token} (one : Plain first) (two : Plain second) : Plain (first ++ second) := by
  intro w member
  rcases List.mem_append.mp member with inFirst | inSecond
  · exact one w inFirst
  · exact two w inSecond

theorem Plain.word {w : Token} {kind : TokenKind} (same : w.kind = kind) (plain : kind ≠ .string ∧ kind ≠ .semicolon ∧
    kind ≠ .closeBrace ∧ declared? kind = none) (others : Plain ws) : Plain (w :: ws) := by
  refine List.forall_mem_cons.mpr ⟨?_, others⟩
  rw [same]
  exact plain

theorem isType_plain {type : ValueType Unit} (isType : IsType ws type) : Plain ws := by
  induction isType with
  | word isName => exact .word isName (by simp [declared?]) .nil
  | qualified isPackage isPoint isName =>
    exact .word isPackage (by simp [declared?]) (.word isPoint (by simp [declared?])
      (.word isName (by simp [declared?]) .nil))
  | slice opens closes _ _ inner =>
    exact .word opens (by simp [declared?]) (.word closes (by simp [declared?]) inner)
  | array opens isNumber _ _ _ closes _ _ inner =>
    exact .word opens (by simp [declared?]) (.word isNumber (by simp [declared?])
      (.word closes (by simp [declared?]) inner))
  | map isMap opens _ closes _ inKey inValue =>
    exact .word isMap (by simp [declared?]) (.word opens (by simp [declared?])
      (inKey.append (.word closes (by simp [declared?]) inValue)))
  | pointer points _ _ inner => exact .word points (by simp [declared?]) inner

theorem isArguments_plain (isArguments : IsArguments ws) : Plain ws := by
  induction isArguments with
  | none => exact .nil
  | last one =>
    obtain ⟨_, isType⟩ := one
    exact isType_plain isType
  | more one isComma _ others =>
    obtain ⟨_, isType⟩ := one
    exact (isType_plain isType).append (.word isComma (by simp [declared?]) others)

theorem entriesIn_undeclared (none : ∀ w ∈ ws, declared? w.kind = none) : entriesIn (ws ++ rest) = entriesIn rest := by
  induction ws with
  | nil => rfl
  | cons w ws ih =>
    obtain ⟨first, others⟩ := List.forall_mem_cons.mp none
    rw [List.cons_append, entriesIn, first]
    exact ih others

theorem membersIn_plain (plain : Plain ws) (first : Token) :
    membersIn signed (some first) (ws ++ rest) = membersIn signed (some first) rest := by
  induction ws with
  | nil => rfl
  | cons w ws ih =>
    obtain ⟨⟨notString, _⟩, others⟩ := List.forall_mem_cons.mp plain
    rw [List.cons_append, membersIn, if_neg notString, if_neg (by simp)]
    exact ih others

inductive IsMember (signed : Bool) : List Token → MemberEntry → Prop where
  | member {inner ending : List Token} {string : Token} (plain : Plain inner) (isString : string.kind = .string)
      (ends : Language.optional (token .semicolon) ending) :
      IsMember signed (inner ++ string :: ending) (memberEntry signed (inner.head?.getD string) string)

theorem membersIn_member {m : MemberEntry} (isMember : IsMember signed ws m) :
    membersIn signed none (ws ++ rest) = m :: membersIn signed none rest := by
  obtain ⟨plain, isString, ends⟩ := isMember
  rename_i inner ending string
  have behind : membersIn signed none (ending ++ rest) = membersIn signed none rest := by
    rcases ends with rfl | ⟨w, rfl, isSemicolon⟩
    · rfl
    · rw [List.singleton_append, membersIn, if_neg (by simp [isSemicolon]), if_pos ⟨rfl, isSemicolon⟩]
  rw [List.append_assoc, List.cons_append]
  cases inner with
  | nil =>
    rw [List.nil_append, membersIn, if_pos isString, behind]
    rfl
  | cons first inner =>
    obtain ⟨⟨notString, notSemicolon, _⟩, others⟩ := List.forall_mem_cons.mp plain
    rw [List.cons_append, membersIn, if_neg notString, if_neg (by simp [notSemicolon]), membersIn_plain others,
      membersIn, if_pos isString, behind]
    rfl

theorem IsMember.inside {m : MemberEntry} (isMember : IsMember signed ws m) :
    ∀ w ∈ ws, w.kind ≠ .closeBrace ∧ declared? w.kind = none := by
  obtain ⟨plain, isString, ends⟩ := isMember
  intro w member
  rcases List.mem_append.mp member with inInner | inRest
  · exact (plain w inInner).2.2
  · rcases List.mem_cons.mp inRest with rfl | inEnding
    · simp [isString, declared?]
    · rcases ends with rfl | ⟨v, rfl, isSemicolon⟩
      · cases inEnding
      · cases List.mem_singleton.mp inEnding
        simp [isSemicolon, declared?]

inductive AreMembers (signed : Bool) : List Token → List MemberEntry → Prop where
  | nil : AreMembers signed [] []
  | more {first rest : List Token} {m : MemberEntry} {ms : List MemberEntry} (one : IsMember signed first m)
      (others : AreMembers signed rest ms) : AreMembers signed (first ++ rest) (m :: ms)

theorem membersIn_members {ms : List MemberEntry} (areMembers : AreMembers signed ws ms) :
    membersIn signed none ws = ms := by
  induction areMembers with
  | nil => rfl
  | more one _ ih => rw [membersIn_member one, ih]

theorem AreMembers.inside {ms : List MemberEntry} (areMembers : AreMembers signed ws ms) :
    ∀ w ∈ ws, w.kind ≠ .closeBrace ∧ declared? w.kind = none := by
  induction areMembers with
  | nil => simp
  | more one _ ih =>
    intro w member
    rcases List.mem_append.mp member with inFirst | inRest
    · exact one.inside w inFirst
    · exact ih w inRest

end Tokens

namespace Reader
variable {α β : Type} {P : List Token → α → Prop} {Q : List Token → β → Prop}

def Gives (r : Reader α) (P : List Token → α → Prop) : Prop := ∀ t : Tape, t.Proper → (r t).problems = [] →
  ∃ front, t.tokens = front ++ (r t).tape.tokens ∧ P front (r t).value

theorem Gives.imp {R : List Token → α → Prop} {r : Reader α} (gives : r.Gives P) (implies : ∀ ws a, P ws a → R ws a) :
    r.Gives R := by
  intro t proper none
  obtain ⟨front, between, holds⟩ := gives t proper none
  exact ⟨front, between, implies _ _ holds⟩

theorem Gives.bind {r : Reader α} {next : α → Reader β} (first : r.Gives P) (forward : r.Forward)
    (later : ∀ ws a, P ws a → (next a).Gives fun behind b => Q (ws ++ behind) b) : (r >>= next).Gives Q := by
  intro t proper none
  rw [bind_problems] at none
  obtain ⟨noneFirst, noneLater⟩ := List.append_eq_nil_iff.mp none
  obtain ⟨front, before, one⟩ := first t proper noneFirst
  obtain ⟨more, between, two⟩ := later _ _ one _ (proper.leads (forward t)) noneLater
  refine ⟨front ++ more, ?_, two⟩
  rw [before, between, List.append_assoc]
  rfl

theorem Gives.map {r : Reader α} (gives : r.Gives P) (f : α → β) (implies : ∀ ws a, P ws a → Q ws (f a)) :
    (r >>= fun a => Reader.pure (f a)).Gives Q := by
  intro t proper none
  obtain ⟨front, between, holds⟩ := gives t proper (List.append_eq_nil_iff.mp none).1
  exact ⟨front, between, implies _ _ holds⟩

theorem current_gives {next : Documented → Reader β} {R : Documented → List Token → β → Prop}
    (later : ∀ word, (next word).Gives (R word)) (some : ∀ word b, ¬ R word [] b)
    (implies : ∀ (word : Documented) rest b, R word (word.token :: rest) b → Q (word.token :: rest) b) :
    (Reader.current >>= next).Gives Q := by
  intro t proper none
  obtain ⟨front, between, holds⟩ := later t.current t proper none
  cases front with
  | nil => exact absurd holds (some _ _)
  | cons first rest =>
    obtain ⟨same, _⟩ := Tape.current_token between
    subst same
    exact ⟨_, between, implies _ _ _ holds⟩

theorem Reads.gives {r : Reader α} {L : Language} {follow : TokenKind → Prop} (reads : r.Reads L follow) :
    r.Gives fun ws _ => L ws := reads.sound

theorem many_gives {goesOn : TokenKind → Bool} {round : Reader α} {All : List Token → List α → Prop}
    (gives : round.Gives P) (takes : round.Takes) (stops : goesOn .endOfFile = false) (empty : All [] [])
    (more : ∀ first rest a as, P first a → All rest as → All (first ++ rest) (a :: as)) :
    (many goesOn round).Gives All := by
  intro t proper none
  induction size : t.left using Nat.strongRecOn generalizing t with
  | ind n ih =>
    cases goes : goesOn t.current.kind with
    | false =>
      rw [many_stops takes.forward goes]
      exact ⟨[], rfl, empty⟩
    | true =>
      have unended : t.current.kind ≠ .endOfFile := fun last => by simp [last, stops] at goes
      have shorter := takes.shorter proper unended
      rw [many_goes takes.forward goes shorter] at none ⊢
      obtain ⟨noneFirst, noneLater⟩ := List.append_eq_nil_iff.mp none
      obtain ⟨front, before, one⟩ := gives t proper noneFirst
      obtain ⟨others, between, rest⟩ := ih _ (size ▸ shorter) (round t).tape (proper.leads (takes.forward t))
        (List.append_eq_nil_iff.mp noneLater).1 rfl
      refine ⟨front ++ others, ?_, more _ _ _ _ one rest⟩
      rw [before, between, List.append_assoc]
      rfl

end Reader

section Members
variable {α β : Type} {signed : Bool} {entry : α → Option MemberEntry} {position : Position}

def EndsMember (signed : Bool) (entry : α → Option MemberEntry) (position : Position) (ws : List Token) (a : α) : Prop :=
  ∃ inner ending string, ws = inner ++ string :: ending ∧ Plain inner ∧ string.kind = .string ∧
    Language.optional (token .semicolon) ending ∧ entry a = some ⟨position, (TagString.read signed string.text).ordinal,
      (TagString.read signed string.text).tags⟩

theorem tagString_gives (signed : Bool) : (tagString signed).Gives fun ws tags =>
    ∃ string, ws = [string] ∧ string.kind = .string ∧
      tags = ((TagString.read signed string.text).ordinal, (TagString.read signed string.text).tags) := by
  intro t proper none
  rw [tagString_apply] at none ⊢
  by_cases isString : t.current.kind = .string
  · rw [if_pos isString, proper.tokens_eq (by rw [isString]; simp)]
    exact ⟨[t.current.token], rfl, _, rfl, isString, rfl⟩
  · by_cases ends : t.current.kind = .semicolon <;> simp [isString, ends] at none

theorem memberTail_gives {value : Int × Tags → α}
    (made : ∀ ordinal tags, entry (value (ordinal, tags)) = some ⟨position, ordinal, tags⟩) :
    (tagString signed >>= fun tags => memberEnd >>= fun _ => Reader.pure (value tags)).Gives
      (EndsMember signed entry position) := by
  apply (tagString_gives signed).bind (tagString_forward signed)
  rintro _ tags ⟨string, rfl, isString, rfl⟩
  apply memberEnd_reads.gives.map
  intro ending _ ends
  exact ⟨[], ending, string, rfl, .nil, isString, ends, made _ _⟩

theorem lead_gives {r : Reader β} {next : β → Reader α} {good : β → Prop}
    (first : r.Gives fun ws b => Plain ws ∧ good b) (forward : r.Forward)
    (later : ∀ b, good b → (next b).Gives (EndsMember signed entry position)) :
    (r >>= next).Gives (EndsMember signed entry position) := by
  apply first.bind forward
  rintro ws b ⟨plain, isGood⟩
  apply (later b isGood).imp
  rintro _ a ⟨inner, ending, string, rfl, plainInner, isString, ends, made⟩
  exact ⟨ws ++ inner, ending, string, (List.append_assoc _ _ _).symm, plain.append plainInner, isString, ends, made⟩

theorem member_gives (entry : α → Option MemberEntry) {next : Documented → Reader α}
    (later : ∀ word : Documented, (next word).Gives (EndsMember signed entry word.position)) :
    (Reader.current >>= next).Gives fun ws a => ∃ m, entry a = some m ∧ IsMember signed ws m := by
  apply current_gives later
  · rintro word a ⟨inner, ending, string, empty, _⟩
    simp at empty
  · rintro word rest a ⟨inner, ending, string, whole, plain, isString, ends, made⟩
    have first : word.token = inner.head?.getD string := by
      cases inner with
      | nil => exact (List.cons.inj whole).1
      | cons head tail => exact (List.cons.inj whole).1
    refine ⟨_, made, ?_⟩
    rw [whole]
    have isMember : IsMember signed _ _ := .member plain isString ends
    rwa [memberEntry, ← first] at isMember

theorem identifier_gives : identifier.Gives fun ws name =>
    ∃ w, ws = [w] ∧ w.kind = .identifier ∧ name = w.text ∧ name ≠ "" := by
  intro t proper none
  rw [identifier_apply] at none ⊢
  by_cases isName : t.current.kind = .identifier
  · rw [proper.tokens_eq (by rw [isName]; simp)]
    have nonempty := (proper.current_name isName).nonempty
    refine ⟨[t.current.token], rfl, _, rfl, isName, ?_, ?_⟩ <;> simp only [isName, if_true]
    · rfl
    · exact nonempty
  · simp [isName] at none

theorem name_gives : identifier.Gives fun ws name => Plain ws ∧ name ≠ "" := by
  apply identifier_gives.imp
  rintro _ name ⟨w, rfl, isName, _, nonempty⟩
  exact ⟨.word isName (by simp [declared?]) .nil, nonempty⟩

theorem type_gives : type.Gives fun ws type => Plain ws ∧ ∃ value, type = some value := by
  intro t proper none
  obtain ⟨front, value, found, isType, between⟩ := type_sound proper none
  exact ⟨front, between, isType_plain isType, value, found⟩

theorem expect_gives {kind : TokenKind} (plain : kind ≠ .string ∧ kind ≠ .semicolon ∧ kind ≠ .closeBrace ∧
    declared? kind = none) (more : kind ≠ .endOfFile) : (expect kind).Gives fun ws _ => Plain ws ∧ True := by
  apply (expect_reads more).gives.imp
  rintro _ _ ⟨w, rfl, same⟩
  exact ⟨.word same plain .nil, trivial⟩

theorem arguments_gives : arguments.Gives fun ws _ => Plain ws ∧ True := by
  apply arguments_read.gives.imp
  intro ws _ written
  exact ⟨isArguments_plain (isArguments_iff.mpr written), trivial⟩

theorem result_gives : result.Gives fun ws _ => Plain ws ∧ True := by
  apply result_reads.gives.imp
  rintro _ _ (rfl | ⟨_, isType⟩)
  · exact ⟨.nil, trivial⟩
  · exact ⟨isType_plain isType, trivial⟩

theorem enumerator_gives : enumerator.Gives fun ws e => ∃ m, some e.entry = some m ∧ IsMember true ws m := by
  refine member_gives (fun e => some (Enumerator.entry e)) fun word => ?_
  apply lead_gives name_gives identifier_takes.forward
  intro name _
  exact memberTail_gives fun _ _ => rfl

theorem field_gives : field.Gives fun ws f => ∃ m, f.map (·.entry) = some m ∧ IsMember false ws m := by
  refine member_gives (Option.map Field.entry) fun word => ?_
  apply lead_gives name_gives identifier_takes.forward
  intro name nonempty
  apply lead_gives type_gives type_forward
  rintro _ ⟨type, rfl⟩
  apply memberTail_gives
  intro ordinal tags
  simp [nonempty, Field.entry]

theorem branch_gives : branch.Gives fun ws b => ∃ m, b.map (·.entry) = some m ∧ IsMember false ws m := by
  refine member_gives (Option.map Branch.entry) fun word => ?_
  apply lead_gives type_gives type_forward
  rintro _ ⟨type, rfl⟩
  exact memberTail_gives fun _ _ => rfl

theorem method_gives : method.Gives fun ws m => ∃ e, m.map (·.entry) = some e ∧ IsMember false ws e := by
  refine member_gives (Option.map Method.entry) fun word => ?_
  apply lead_gives name_gives identifier_takes.forward
  intro name nonempty
  apply lead_gives (expect_gives (by simp [declared?]) (by simp)) (expect_forward _)
  intro _ _
  apply lead_gives arguments_gives arguments_forward
  intro arguments _
  apply lead_gives (expect_gives (by simp [declared?]) (by simp)) (expect_forward _)
  intro _ _
  apply lead_gives result_gives result_forward
  intro result _
  apply memberTail_gives
  intro ordinal tags
  simp [nonempty, Method.entry]

theorem enumerators_give : (many (fun kind => decide (kind = .identifier)) enumerator).Gives fun ws es =>
    AreMembers true ws (es.map (·.entry)) := by
  apply many_gives enumerator_gives enumerator_takes rfl .nil
  rintro first rest e es ⟨m, same, isMember⟩ others
  cases same
  exact .more isMember others

theorem members_give {member : Reader (Option α)} {entry : α → MemberEntry} (takes : member.Takes)
    (gives : member.Gives fun ws a => ∃ m, a.map entry = some m ∧ IsMember signed ws m) :
    (members member).Gives fun ws as => AreMembers signed ws (as.map entry) := by
  refine Gives.map (P := fun ws as => AreMembers signed ws ((as.filterMap id).map entry)) ?_ _ fun _ _ all => all
  apply many_gives gives takes rfl .nil
  rintro first rest _ as ⟨m, same, isMember⟩ others
  obtain ⟨a, rfl, rfl⟩ := Option.map_eq_some_iff.mp same
  exact .more isMember others

end Members

section Declarations
variable {α : Type}

def IsBlock (word : Keyword) (P : List Token → α → Prop) (ws : List Token) (named : String × α) : Prop :=
  ∃ first name opening body closing ending, ws = first :: name :: opening :: (body ++ [closing, ending]) ∧
    first.kind = .keyword word ∧ name.kind = .identifier ∧ opening.kind = .openBrace ∧ closing.kind = .closeBrace ∧
    ending.kind = .semicolon ∧ named.1 = name.text ∧ P body named.2

theorem block_gives {word : Keyword} {members : Reader α} {P : List Token → α → Prop} (gives : members.Gives P)
    (forward : members.Forward) : (block word members).Gives (IsBlock word P) := by
  apply (expect_reads (by simp)).gives.bind (expect_forward _)
  rintro _ _ ⟨first, rfl, isWord⟩
  apply identifier_gives.bind identifier_takes.forward
  rintro _ _ ⟨name, rfl, isName, rfl, _⟩
  apply (expect_reads (by simp)).gives.bind (expect_forward _)
  rintro _ _ ⟨opening, rfl, opens⟩
  apply gives.bind forward
  intro body found holds
  apply (expect_reads (by simp)).gives.bind (expect_forward _)
  rintro _ _ ⟨closing, rfl, closes⟩
  apply (expect_reads (by simp)).gives.map
  rintro _ _ ⟨ending, rfl, ends⟩
  exact ⟨first, name, opening, body, closing, ending, by simp, isWord, isName, opens, closes, ends, rfl, holds⟩

theorem bodyIn_block {name opening closing : Token} {body rest : List Token} (isName : name.kind = .identifier)
    (opens : opening.kind = .openBrace) (closes : closing.kind = .closeBrace) (inside : ∀ w ∈ body, w.kind ≠ .closeBrace) :
    bodyIn (name :: opening :: (body ++ closing :: rest)) = body := by
  have unclosed : ∀ w ∈ body, decide (w.kind ≠ .closeBrace) = true := fun w member => decide_eq_true (inside w member)
  unfold bodyIn
  rw [List.dropWhile_cons_of_pos (by simp [isName]), List.dropWhile_cons_of_neg (by simp [opens]), List.tail_cons,
    List.takeWhile_append_of_pos unclosed, List.takeWhile_cons_of_neg (by simp [closes]), List.append_nil]

variable {kind : DeclarationKind} {signed : Bool} {members : α → List MemberEntry} {ws : List Token}

theorem entriesIn_block {named : String × α} (typed : kind ≠ .const) (sign : signed = decide (kind = .enumeration))
    (isBlock : IsBlock kind.keyword (fun body found => AreMembers signed body (members found)) ws named) (rest : List Token) :
    ∃ first, ws.head? = some first ∧
      entriesIn (ws ++ rest) = ⟨kind, first.position, named.1, members named.2⟩ :: entriesIn rest := by
  obtain ⟨first, name, opening, body, closing, ending, rfl, isWord, isName, opens, closes, ends, same, areMembers⟩ := isBlock
  refine ⟨first, rfl, ?_⟩
  have inside := areMembers.inside
  have undeclared : ∀ w ∈ name :: opening :: (body ++ [closing, ending]), declared? w.kind = none := by
    intro w member
    simp only [List.mem_cons, List.mem_append, List.not_mem_nil, or_false] at member
    rcases member with rfl | rfl | inBody | rfl | rfl
    · simp [isName, declared?]
    · simp [opens, declared?]
    · exact (inside w inBody).2
    · simp [closes, declared?]
    · simp [ends, declared?]
  have body : bodyIn (name :: opening :: (body ++ [closing, ending]) ++ rest) = body := by
    have found : bodyIn (name :: opening :: (body ++ closing :: ending :: rest)) = body :=
      bodyIn_block isName opens closes fun w member => (inside w member).1
    simpa using found
  rw [List.cons_append, entriesIn, isWord, declared?_keyword]
  dsimp only
  rw [entriesIn_undeclared undeclared, body, if_neg typed, ← sign, membersIn_members areMembers, same]
  rfl

def Tells (ws : List Token) (d : Declaration Unit) : Prop := ∀ rest, entriesIn (ws ++ rest) = d.entry :: entriesIn rest

theorem declaration_gives {δ : Type} {reader : Reader α} (kind : DeclarationKind)
    (make : Documented → String × α → δ) (declaration : δ → Declaration Unit) (typed : kind ≠ .const)
    (sign : signed = decide (kind = .enumeration)) (forward : reader.Forward)
    (gives : reader.Gives fun body found => AreMembers signed body (members found))
    (made : ∀ first named, (declaration (make first named)).entry = ⟨kind, first.position, named.1, members named.2⟩) :
    (Reader.current >>= fun first => block kind.keyword reader >>= fun named => Reader.pure (make first named)).Gives
      fun ws d => Tells ws (declaration d) := by
  refine current_gives (R := fun first ws d => ∃ named, make first named = d ∧
    IsBlock kind.keyword (fun body found => AreMembers signed body (members found)) ws named) ?_ ?_ ?_
  · intro first
    apply (block_gives gives forward).map
    intro ws named isBlock
    exact ⟨named, rfl, isBlock⟩
  · rintro first d ⟨named, _, _, _, _, _, _, _, empty, _⟩
    cases empty
  · rintro first more _ ⟨named, rfl, isBlock⟩ rest
    obtain ⟨_, same, told⟩ := entriesIn_block typed sign isBlock rest
    cases same
    rw [told, made]
    rfl

theorem enumeration_gives : enumeration.Gives fun ws e => Tells ws (.enumeration e) :=
  declaration_gives .enumeration (fun first named => Enumeration.mk first.position first.doc named.1 named.2) .enumeration (by simp)
    rfl (many_forward _ enumerator_takes.forward) enumerators_give fun _ _ => rfl

theorem struct_gives : struct.Gives fun ws d => Tells ws (.struct d) :=
  declaration_gives .struct (fun first named => Struct.mk first.position first.doc named.1 named.2) .struct (by simp)
    rfl (members_forward field_takes) (members_give field_takes field_gives) fun _ _ => rfl

theorem union_gives : union.Gives fun ws d => Tells ws (.union d) :=
  declaration_gives .union (fun first named => Union.mk first.position first.doc named.1 named.2) .union (by simp)
    rfl (members_forward branch_takes) (members_give branch_takes branch_gives) fun _ _ => rfl

theorem service_gives : service.Gives fun ws d => Tells ws (.service d) :=
  declaration_gives .service (fun first named => Service.mk first.position first.doc named.1 named.2) .service (by simp)
    rfl (members_forward method_takes) (members_give method_takes method_gives) fun _ _ => rfl

theorem literal_gives : literal.Gives fun ws found => literals ws ∧ ∃ value, found = some value := by
  intro t proper none
  obtain ⟨front, between, written⟩ := literal_reads.sound t proper none
  refine ⟨front, between, written, ?_⟩
  rw [literal_apply] at none ⊢
  cases found : literal? t.current with
  | ok value => exact ⟨value, rfl⟩
  | error problem => simp [found] at none

theorem constant_gives : constant.Gives fun ws c => ∃ value, c = some value ∧ Tells ws (.const value) := by
  refine current_gives (R := fun first ws c => ∃ word name assign literal ending value, ws = [word, name, assign, literal, ending] ∧
    word.kind = .keyword .const ∧ name.kind = .identifier ∧ assign.kind = .assign ∧ literals [literal] ∧
    ending.kind = .semicolon ∧ c = some value ∧ value.position = first.position ∧ value.name = name.text) ?_ ?_ ?_
  · intro first
    apply (expect_reads (by simp)).gives.bind (expect_forward _)
    rintro _ _ ⟨word, rfl, isConst⟩
    apply identifier_gives.bind identifier_takes.forward
    rintro _ _ ⟨name, rfl, isName, rfl, nonempty⟩
    apply (expect_reads (by simp)).gives.bind (expect_forward _)
    rintro _ _ ⟨assign, rfl, isAssign⟩
    apply literal_gives.bind literal_forward
    rintro _ _ ⟨⟨literal, rfl, isLiteral⟩, value, rfl⟩
    apply (expect_reads (by simp)).gives.map
    rintro _ _ ⟨ending, rfl, ends⟩
    exact ⟨word, name, assign, literal, ending, ⟨first.position, first.doc, name.text, value.1, value.2⟩, by simp, isConst,
      isName, isAssign, ⟨literal, rfl, isLiteral⟩, ends, by simp [nonempty], rfl, rfl⟩
  · rintro _ _ ⟨_, _, _, _, _, _, empty, _⟩
    cases empty
  · rintro first _ _ ⟨word, name, assign, literal, ending, value, whole, isConst, isName, isAssign, ⟨_, same, isLiteral⟩, ends,
      rfl, position, named⟩
    cases same
    refine ⟨value, rfl, ?_⟩
    intro rest
    have undeclared : ∀ w ∈ [name, assign, literal, ending], declared? w.kind = none := by
      intro w member
      simp only [List.mem_cons, List.not_mem_nil, or_false] at member
      rcases member with rfl | rfl | rfl | rfl
      · simp [isName, declared?]
      · simp [isAssign, declared?]
      · rcases isLiteral with kind | kind | kind <;> simp [kind, declared?]
      · simp [ends, declared?]
    have start : first.token = word := (List.cons.inj whole).1
    rw [whole, List.cons_append, entriesIn, isConst]
    dsimp only [declared?]
    rw [entriesIn_undeclared undeclared, Declaration.entry, Declaration.position, Declaration.name, position, named,
      ← start]
    rfl

end Declarations

section Items
variable {t : Tape}

theorem item_told (proper : t.Proper) (none : (item t).problems = []) :
    entriesIn t.tokens = (item t).value.toList.map (·.entry) ++ entriesIn (item t).tape.tokens := by
  have told : ∀ {α : Type} {r : Reader α} {make : α → Declaration Unit}, (r.Gives fun ws a => Tells ws (make a)) →
      item t = ⟨some (make (r t).value), (r t).problems, (r t).mentions, (r t).tape⟩ →
      entriesIn t.tokens = (item t).value.toList.map (·.entry) ++ entriesIn (item t).tape.tokens := by
    intro α r make gives step
    rw [step] at none ⊢
    obtain ⟨front, between, tells⟩ := gives t proper none
    rw [between, tells]
    rfl
  cases kind : t.current.kind with
  | semicolon =>
    have step := item_semicolon kind
    have word : t.current.token.kind = .semicolon := kind
    rw [step, proper.tokens_eq (by rw [kind]; simp), entriesIn, word]
    rfl
  | keyword word =>
    cases word with
    | const =>
      rw [item_const kind] at none ⊢
      obtain ⟨front, between, value, found, tells⟩ := constant_gives t proper none
      rw [between, tells, found]
      rfl
    | enumeration => exact told enumeration_gives (item_enumeration kind)
    | struct => exact told struct_gives (item_struct kind)
    | union => exact told union_gives (item_union kind)
    | service => exact told service_gives (item_service kind)
    | package | importing | map => simp [item, bind_apply, kind] at none
  | _ => simp [item, bind_apply, kind] at none

theorem items_told (proper : t.Proper) (none : ∀ step ∈ (items t).value, step.problems = []) :
    entriesIn t.tokens = (items t).value.flatMap fun step => step.value.toList.map (·.entry) := by
  induction size : t.left using Nat.strongRecOn generalizing t with
  | ind n ih =>
    by_cases last : t.current.kind = .endOfFile
    · rw [items_stop last, Tape.tokens, proper.ahead_nil last]
      rfl
    · rw [items_go proper last] at none ⊢
      obtain ⟨first, others⟩ := List.forall_mem_cons.mp none
      have later := ih _ (size ▸ item_takes.shorter proper last) (proper.leads (item_takes.forward t)) others rfl
      rw [item_told proper first, later, List.flatMap_cons]

theorem imports_undeclared {names : List String} {ws : List Token} (imports : IsImports names ws) :
    ∀ w ∈ ws, declared? w.kind = none := by
  induction imports with
  | none => simp
  | more one _ _ _ _ ih =>
    intro w member
    rcases List.mem_append.mp member with inFirst | inRest
    · cases one with
      | plain isImport isPath ends =>
        simp only [List.mem_cons, List.not_mem_nil, or_false] at inFirst
        rcases inFirst with rfl | rfl | rfl <;> simp [*, declared?]
      | named isImport isName isPath ends =>
        simp only [List.mem_cons, List.not_mem_nil, or_false] at inFirst
        rcases inFirst with rfl | rfl | rfl | rfl <;> simp [*, declared?]
    · exact ih w inRest

theorem outline_told (proper : t.Proper) (head : (outline t).headProblems = [])
    (none : ∀ step ∈ (outline t).items, step.problems = []) :
    ((outline t).items.flatMap fun step => step.value.toList.map (·.entry)) = entriesIn t.tokens := by
  obtain ⟨headProblems, outlineItems⟩ := outline_parts t
  have properImports := proper.leads (packageClause_forward t)
  have properItems := properImports.leads (importClauses_forward ∅ (packageClause t).tape)
  rw [headProblems] at head
  rw [outlineItems] at none ⊢
  obtain ⟨cleanPackage, cleanImports⟩ := List.append_eq_nil_iff.mp head
  obtain ⟨package, before, _, _, rfl, ⟨word, rfl, isPackage⟩, _, _, rfl, ⟨name, rfl, isName⟩, ending, rfl, ends⟩ :=
    packageClause_reads.sound t proper cleanPackage
  obtain ⟨imports, between, imported⟩ := importClauses_sound known_empty properImports cleanImports
  have undeclared : ∀ w ∈ [word] ++ ([name] ++ [ending]), declared? w.kind = Option.none := by
    simp [isPackage, isName, ends, declared?]
  rw [before, entriesIn_undeclared undeclared, between, entriesIn_undeclared (imports_undeclared imported)]
  exact (items_told properItems none).symm

end Items

end Grammar
end WireSchema

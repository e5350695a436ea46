import WireSchema.Proofs.Literals.Strings
import WireSchema.Proofs.TagString.Reading

-- A tag string that is written for an ordinal and items is read as these, and the last item of a key gives its value.
namespace WireSchema
open Text TagString

theorem Text.length_le_byteCount (text : List Char) : text.length ≤ byteCount text := by
  induction text with
  | nil => exact Nat.le_refl 0
  | cons c rest ih =>
    have positive := c.utf8Size_pos
    rw [List.length_cons, byteCount_cons]
    omega

theorem Text.Decimal.ofInt_numeral (n : Int) : IsNumeral (ofInt n) n := by
  obtain ⟨some, decimal, value⟩ := natural?_iff.mp (natural?_digits n.natAbs)
  unfold ofInt
  split
  · have isNumeral := IsNumeral.minus some decimal
    rwa [value, show -(n.natAbs : Int) = n by omega] at isNumeral
  · have isNumeral := IsNumeral.unsigned some decimal
    rwa [value, show (n.natAbs : Int) = n by omega] at isNumeral

namespace TagString
variable {items : List Item} {joined valued : Bool} {text : List Char}

namespace Item

def content (item : Item) : String := .ofList (item.value.getD [])

theorem insertInto_get? (item : Item) (tags : Tags) (key : String) : (item.insertInto tags).get? key =
    if .ofList item.key = key then some item.content else tags.get? key := Dictionary.get?_insert _ _ _ _

end Item

theorem insertAll_get? (items : List Item) (tags : Tags) (key : String) :
    (items.foldl Item.insertInto tags).get? key =
      ((items.reverse.find? fun item => .ofList item.key = key).map Item.content).or (tags.get? key) := by
  induction items generalizing tags with
  | nil => simp
  | cons item rest ih =>
    rw [List.foldl_cons, ih, item.insertInto_get?, List.reverse_cons, List.find?_append]
    cases rest.reverse.find? fun item => String.ofList item.key = key with
    | some last => simp
    | none => by_cases same : String.ofList item.key = key <;> simp [same]

def IsPlain (c : Char) : Prop := c ≠ Scan.backtick ∧ c ≠ '\x00' ∧ c ≠ byteOrderMark

instance (c : Char) : Decidable (IsPlain c) := inferInstanceAs (Decidable (_ ∧ _))

theorem ofInt_plain (n : Int) : ∀ c ∈ Decimal.ofInt n, IsPlain c := by
  have digits : ∀ c ∈ Decimal.digits n.natAbs, IsPlain c := by
    intro c member
    have apart := Decimal.digit_ne (Decimal.digits_digit _ c member)
    exact ⟨apart _ rfl, apart _ rfl, apart _ rfl⟩
  unfold Decimal.ofInt
  split
  · exact List.forall_mem_cons.mpr ⟨by decide, digits⟩
  · exact digits

theorem blanks_plain (n : Nat) : ∀ c ∈ List.replicate n ' ', IsPlain c := by
  intro c member
  rw [List.eq_of_mem_replicate member]
  decide

theorem Listed.plain (listed : Listed joined valued items text) (plain : ∀ item ∈ items, ∀ c ∈ item.text, IsPlain c) :
    ∀ c ∈ text, IsPlain c := by
  induction listed with
  | blanks _ n => exact blanks_plain n
  | item _ _ ih =>
    obtain ⟨here, later⟩ := List.forall_mem_cons.mp plain
    simp only [List.forall_mem_append]
    exact ⟨blanks_plain _, here, ih later⟩

def literalOf (content : List Char) : String := .ofList (Scan.backtick :: (content ++ [Scan.backtick]))

theorem literalContent_literalOf (content : List Char) : literalContent (literalOf content) = content := by
  rw [literalContent, literalOf, String.toList_ofList, List.tail_cons, List.dropLast_concat]

theorem rawString_plain {content : List Char} (plain : ∀ c ∈ content, IsPlain c) (behind : List Atom) :
    Scan.rawString ((content ++ [Scan.backtick]).map .char ++ behind) =
      ⟨content ++ [Scan.backtick], .accepted .string, behind⟩ := by
  induction content with
  | nil => rfl
  | cons c rest ih =>
    obtain ⟨⟨unclosed, allowed⟩, later⟩ := List.forall_mem_cons.mp plain
    rw [List.cons_append, List.map_cons, List.cons_append, Scan.rawString_goes (Scan.forbidden?_none allowed) unclosed,
      ih later]
    rfl

theorem literalOf_lexes {content : List Char} (plain : ∀ c ∈ content, IsPlain c) (behind : List Atom) :
    Lexes (.string, literalOf content) behind := by
  have read : Scan.token Scan.backtick ((content ++ [Scan.backtick]).map .char ++ behind) =
      (⟨Scan.backtick :: (content ++ [Scan.backtick]), .accepted .string, behind⟩, .yes) := by
    rw [Scan.token_backtick, rawString_plain plain]
    rfl
  exact Lexes.of_token (by rw [literalOf, String.toList_ofList]) (by decide) read (by simp) (by simp)

end TagString

-- What a member has at its end for an ordinal and items with blanks between them all is read as these.
theorem Grammar.tagString_round_trip {signed : Bool} {n : Int} (least : -9223372036854775808 ≤ n)
    (most : n ≤ 9223372036854775807) (positive : signed = true ∨ 0 < n) {items : List Item} {text : List Char}
    (listed : Listed false false items text) (plain : ∀ item ∈ items, ∀ c ∈ item.text, IsPlain c) (blanks : Nat)
    {limit : Nat} {literal : String} (written : literal = literalOf (.replicate blanks ' ' ++ (Decimal.ofInt n ++ text)))
    (fits : byteCount literal.toList ≤ limit) :
    (∀ file place closable behind, ∃ after,
      Scanner.next limit file ⟨literal.toList.map .char ++ behind, place, closable⟩ =
        (⟨.string, literal, ⟨file, place.line, place.column⟩⟩, ⟨behind, place.pastAll literal.toList, after⟩)) ∧
    ∃ tags : Tags, tags = items.foldl Item.insertInto ∅ ∧
      (∀ key, tags.get? key = (items.reverse.find? fun item => .ofList item.key = key).map Item.content) ∧
      ∀ t : Tape, t.current.kind = .string → t.current.text = literal →
        tagString signed t = ⟨(n, tags), [], [], t.advance⟩ := by
  subst written
  refine ⟨fun file place closable behind => ?_, _, rfl, fun key => ?_, fun t isString same => ?_⟩
  · have content : ∀ c ∈ List.replicate blanks ' ' ++ (Decimal.ofInt n ++ text), IsPlain c := by
      simp only [List.forall_mem_append]
      exact ⟨blanks_plain blanks, ofInt_plain n, listed.plain plain⟩
    obtain ⟨after, _, read⟩ := Scanner.next_word (literalOf_lexes content behind) fits place closable
    exact ⟨after, read⟩
  · have nothing : (∅ : Tags).get? key = none := rfl
    rw [insertAll_get?, nothing, Option.or_none]
  · have ordinal : IsOrdinal signed (Decimal.ofInt n) n := ⟨Decimal.ofInt_numeral n, least, most, positive⟩
    have spells : Spells false signed n items (literalContent t.current.text) := by
      rw [same, literalContent_literalOf]
      exact ⟨blanks, _, text, rfl, ordinal, listed⟩
    rw [tagString_apply, if_pos isString, read_spelled spells]
    rfl

namespace RepeatedKey
open Grammar
open JoinedItems (bare first_filled first_named)

theorem spaced : ∀ text ∈ some ['x', ' ', 'y'], IsValue text := by
  rintro _ ⟨⟩
  exact .plain (by decide) (by decide) (.plain (by decide) (by decide) (.plain (by decide) (by decide) .nil))

theorem escaped : ∀ text ∈ some ['\\', '"', 'é'], IsValue text := by
  rintro _ ⟨⟩
  exact .escaped '"' (.plain (by decide) (by decide) .nil)

def first : Item := ⟨['a'], some ['x', ' ', 'y'], first_filled, first_named, spaced⟩

def second : Item := ⟨['a'], some ['\\', '"', 'é'], first_filled, first_named, escaped⟩

def text : List Char := " a:\"x y\"  b a:\"\\\"é\" ".toList

def literal : String := "\x60-5 a:\"x y\"  b a:\"\\\"é\" \x60"

def tape : Tape := ⟨[], ⟨⟨.string, literal, ⟨"", 1, 1⟩⟩, []⟩⟩

theorem listed : Listed false false [first, bare, second] text :=
  .item (n := 1) (.inl (by decide)) (.item (n := 2) (.inl (by decide)) (.item (n := 1) (.inl (by decide)) (.blanks true 1)))

theorem written : literal = literalOf (.replicate 0 ' ' ++ (Decimal.ofInt (-5) ++ text)) := by
  have numeral : Decimal.ofInt (-5) = ['-', '5'] := by
    rw [Decimal.ofInt, if_pos (by decide), Decimal.digits_small (by decide)]
    rfl
  rw [numeral]
  decide

theorem tags_kept : (∀ item ∈ [first, bare, second], ∀ c ∈ item.text, IsPlain c) ∧
    byteCount literal.toList ≤ Token.defaultLimit ∧ ∃ tags : Tags, tagString true tape = ⟨(-5, tags), [], [], tape.advance⟩ ∧
      tags.get? "a" = some "\\\"é" ∧ tags.get? "b" = some "" ∧ tags.get? "c" = none := by
  have plain : ∀ item ∈ [first, bare, second], ∀ c ∈ item.text, IsPlain c := by
    intro item member c inside
    have every : ([first, bare, second].all fun item => item.text.all fun c => decide (IsPlain c)) = true := by decide
    exact of_decide_eq_true (List.all_eq_true.mp (List.all_eq_true.mp every item member) c inside)
  have fits : byteCount literal.toList ≤ Token.defaultLimit := by decide
  obtain ⟨_, tags, _, last, read⟩ :=
    tagString_round_trip (n := -5) (by decide) (by decide) (.inl rfl) listed plain 0 written fits
  refine ⟨plain, fits, tags, read tape rfl rfl, ?_, ?_, ?_⟩
  · exact (last "a").trans (by decide)
  · exact (last "b").trans (by decide)
  · exact (last "c").trans (by decide)

end RepeatedKey

namespace LongKey
open Grammar

theorem named (n : Nat) : ∀ c ∈ List.replicate n 'a', isKeyCharacter c = true := by
  intro c member
  rw [List.eq_of_mem_replicate member]
  decide

def item (n : Nat) : Item where
  key := .replicate (n + 1) 'a'
  value := none
  filled := List.cons_ne_nil _ _
  named := named (n + 1)
  closes := closes_none

def text (n : Nat) : List Char := ' ' :: .replicate (n + 1) 'a'

theorem listed (n : Nat) : Listed false false [item n] (text n) := by
  have whole : text n = .replicate 1 ' ' ++ ((item n).text ++ .replicate 0 ' ') := by
    simp [text, item, Item.text]
  rw [whole]
  exact .item (.inl Nat.one_pos) (.blanks _ 0)

theorem plain (n : Nat) : ∀ other ∈ [item n], ∀ c ∈ other.text, IsPlain c := by
  intro other member c inside
  rw [List.mem_singleton.mp member] at inside
  rw [List.eq_of_mem_replicate (show c ∈ List.replicate (n + 1) 'a' from inside)]
  decide

theorem tagString_long {content : List Char} (plain : ∀ c ∈ content, IsPlain c) {limit : Nat}
    (long : limit < byteCount (literalOf content).toList) (signed : Bool) (file : String) :
    (tagString signed (.ofTokens (Token.allOf limit file (encode (literalOf content).toList)))).problems ≠ [] := by
  have current : (Tape.ofTokens (Token.allOf limit file (encode (literalOf content).toList))).current.kind =
      .invalid .overflow := current_long (literalOf_lexes plain []) long file
  rw [tagString_apply, if_neg (by simp [current]), if_neg (by simp [current])]
  exact List.cons_ne_nil _ _

def content (n : Nat) : List Char := .replicate 0 ' ' ++ (Decimal.ofInt 1 ++ text n)

theorem content_plain (n : Nat) : ∀ c ∈ content n, IsPlain c := by
  simp only [content, List.forall_mem_append]
  exact ⟨blanks_plain 0, ofInt_plain 1, (listed n).plain (plain n)⟩

theorem content_long (n : Nat) : n < byteCount (literalOf (content n)).toList := by
  refine Nat.lt_of_lt_of_le ?_ (length_le_byteCount _)
  rw [literalOf, String.toList_ofList]
  simp only [content, text, List.length_cons, List.length_append, List.length_replicate]
  omega

theorem unread_long : ¬ ∀ (signed : Bool) (n : Int) (items : List Item) (text : List Char) (blanks : Nat),
    -9223372036854775808 ≤ n → n ≤ 9223372036854775807 → signed = true ∨ 0 < n → Listed false false items text →
    (∀ item ∈ items, ∀ c ∈ item.text, IsPlain c) →
    (tagString signed (.ofTokens (Token.allOf Token.defaultLimit ""
      (encode (literalOf (.replicate blanks ' ' ++ (Decimal.ofInt n ++ text))).toList)))).problems = [] := by
  intro every
  have clean := fun n => every false 1 [item n] (text n) 0 (by decide) (by decide) (.inr (by decide)) (listed n) (plain n)
  exact tagString_long (content_plain Token.defaultLimit) (content_long Token.defaultLimit) false ""
    (clean Token.defaultLimit)

end LongKey
end WireSchema

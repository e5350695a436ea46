import WireSchema.Proofs.Grammar.Places
import WireSchema.Proofs.Text.Numerals

-- A tag string is read without a problem exactly if it is an ordinal and items behind it, with blanks in front of each of
-- them; only right behind the quote that closes a value an item may stand without one.
namespace WireSchema
open Text

namespace TagString

-- What may stand between the quotes of a value. A backslash goes with the character behind it.
inductive IsValue : List Char → Prop where
  | nil : IsValue []
  | plain {c : Char} {rest : List Char} (unquoted : c ≠ '"') (unescaped : c ≠ '\\') (later : IsValue rest) :
      IsValue (c :: rest)
  | escaped (c : Char) {rest : List Char} (later : IsValue rest) : IsValue ('\\' :: c :: rest)

structure Item where
  key : List Char
  value : Option (List Char)
  filled : key ≠ []
  named : ∀ c ∈ key, isKeyCharacter c = true
  closes : ∀ text ∈ value, IsValue text

namespace Item

def text (item : Item) : List Char :=
  match item.value with
  | none => item.key
  | some value => item.key ++ ':' :: '"' :: (value ++ ['"'])

def insertInto (tags : Tags) (item : Item) : Tags :=
  tags.insert (.ofList item.key) (.ofList (item.value.getD []))

end Item

-- Items with blanks in front of each of them and behind the last one. It is told whether a value stands in front of
-- them all: where items may be joined there may be no blank behind one.
inductive Listed (joined : Bool) : Bool → List Item → List Char → Prop where
  | blanks (valued : Bool) (n : Nat) : Listed joined valued [] (.replicate n ' ')
  | item {valued : Bool} {n : Nat} {item : Item} {items : List Item} {behind : List Char}
      (apart : 0 < n ∨ (joined = true ∧ valued = true)) (later : Listed joined item.value.isSome items behind) :
      Listed joined valued (item :: items) (.replicate n ' ' ++ (item.text ++ behind))

inductive IsNumeral : List Char → Int → Prop where
  | unsigned {digits : List Char} (some : digits ≠ []) (decimal : ∀ c ∈ digits, isDigitOf 10 c = true) :
      IsNumeral digits (Decimal.value digits)
  | plus {digits : List Char} (some : digits ≠ []) (decimal : ∀ c ∈ digits, isDigitOf 10 c = true) :
      IsNumeral ('+' :: digits) (Decimal.value digits)
  | minus {digits : List Char} (some : digits ≠ []) (decimal : ∀ c ∈ digits, isDigitOf 10 c = true) :
      IsNumeral ('-' :: digits) (-(Decimal.value digits : Int))

structure IsOrdinal (signed : Bool) (numeral : List Char) (n : Int) : Prop where
  spelled : IsNumeral numeral n
  least : -9223372036854775808 ≤ n
  most : n ≤ 9223372036854775807
  positive : signed = true ∨ 0 < n

def Spells (joined signed : Bool) (n : Int) (items : List Item) (text : List Char) : Prop :=
  ∃ blanks numeral behind, text = .replicate blanks ' ' ++ (numeral ++ behind) ∧ IsOrdinal signed numeral n ∧
    Listed joined false items behind

variable {literal : String} {found : Tags} {signed joined valued : Bool} {items : List Item}
  {text key rest value after behind : List Char}

section Values

theorem closes_none : ∀ text ∈ (none : Option (List Char)), IsValue text := fun _ same => nomatch same

theorem value?_closed (isValue : IsValue value) (after : List Char) :
    value? (value ++ '"' :: after) = some (value, after) := by
  induction isValue with
  | nil => rfl
  | @plain c rest unquoted unescaped later ih =>
    rw [List.cons_append, value?.eq_5 _ _ unquoted (fun _ _ mark => absurd mark unescaped)
      (fun mark => absurd mark unescaped), ih]
    rfl
  | escaped c later ih =>
    rw [List.cons_append, List.cons_append, value?, ih]
    rfl

theorem value?_value (read : value? text = some (value, after)) : IsValue value ∧ text = value ++ '"' :: after := by
  fun_induction value? text generalizing value with
  | case1 => cases read
  | case2 rest =>
    cases read
    exact ⟨.nil, rfl⟩
  | case3 c rest ih =>
    obtain ⟨⟨inner, left⟩, inside, pair⟩ := Option.map_eq_some_iff.mp read
    cases pair
    obtain ⟨isValue, rfl⟩ := ih inside
    exact ⟨.escaped c isValue, rfl⟩
  | case4 => cases read
  | case5 c rest unquoted plain single ih =>
    obtain ⟨⟨inner, left⟩, inside, pair⟩ := Option.map_eq_some_iff.mp read
    cases pair
    obtain ⟨isValue, rfl⟩ := ih inside
    refine ⟨.plain unquoted (fun mark => ?_) isValue, rfl⟩
    cases inner with
    | nil => exact plain _ _ mark rfl
    | cons d more => exact plain _ _ mark rfl

end Values

section Items

theorem key_split (named : ∀ c ∈ key, isKeyCharacter c = true) (rest : List Char)
    (stops : rest.head?.any isKeyCharacter = false) :
    (key ++ rest).takeWhile isKeyCharacter = key ∧ (key ++ rest).dropWhile isKeyCharacter = rest := by
  rw [List.takeWhile_append_of_pos named, List.dropWhile_append_of_pos named]
  cases rest with
  | nil => simp
  | cons c more =>
    have stops : ¬ isKeyCharacter c = true := by simpa using stops
    simp [stops]

theorem tags_blank (literal : String) (found : Tags) (text : List Char) :
    tags literal found (' ' :: text) = tags literal found text :=
  (tags.eq_1 literal found (' ' :: text)).trans (tags.eq_1 literal found text).symm

theorem tags_blanks (literal : String) (found : Tags) (n : Nat) (text : List Char) :
    tags literal found (.replicate n ' ' ++ text) = tags literal found text := by
  induction n with
  | zero => rfl
  | succ n ih => rw [List.replicate_succ, List.cons_append, tags_blank, ih]

theorem dropWhile_blanks (blanks : Nat) (text : List Char) :
    (List.replicate blanks ' ' ++ text).dropWhile (· = ' ') = text.dropWhile (· = ' ') :=
  List.dropWhile_append_of_pos fun _ inside => decide_eq_true (List.eq_of_mem_replicate inside)

theorem tags_nil (literal : String) (found : Tags) : tags literal found [] = (found, []) := by
  rw [tags]
  rfl

def Ends (text : List Char) : Prop := text = [] ∨ ∃ more, text = ' ' :: more

theorem Item.starts (item : Item) : ∃ c rest, item.text = c :: rest ∧ c ≠ ' ' := by
  obtain ⟨key, value, filled, named, closes⟩ := item
  cases key with
  | nil => exact absurd rfl filled
  | cons c rest =>
    have other : c ≠ ' ' := by
      rintro rfl
      cases named ' ' List.mem_cons_self
    cases value <;> exact ⟨c, _, rfl, other⟩

theorem Item.unblank (item : Item) (behind : List Char) :
    (item.text ++ behind).dropWhile (· = ' ') = item.text ++ behind := by
  obtain ⟨c, rest, starts, other⟩ := item.starts
  simp [starts, other]

theorem Item.unended (item : Item) (behind : List Char) : ¬ Ends (item.text ++ behind) := by
  obtain ⟨c, rest, starts, other⟩ := item.starts
  rw [starts]
  rintro (nothing | ⟨more, blank⟩)
  · cases nothing
  · exact other (List.cons.inj blank).1

theorem Ends.stops (ends : Ends text) : text.head?.any isKeyCharacter = false := by
  rcases ends with rfl | ⟨more, rfl⟩ <;> rfl

theorem Item.split (item : Item) (ends : item.value = none → Ends behind) :
    (item.text ++ behind).takeWhile isKeyCharacter = item.key ∧ (item.text ++ behind).dropWhile isKeyCharacter =
      match item.value with
      | none => behind
      | some value => ':' :: '"' :: (value ++ '"' :: behind) := by
  obtain ⟨key, value, filled, named, closes⟩ := item
  cases value with
  | none => exact key_split named behind (ends rfl).stops
  | some value =>
    have split := key_split named (':' :: '"' :: (value ++ '"' :: behind)) rfl
    simpa [text] using split

theorem tags_item (item : Item) (ends : item.value = none → Ends behind) :
    tags literal found (item.text ++ behind) = tags literal (item.insertInto found) behind := by
  obtain ⟨front, opened⟩ := item.split ends
  rw [← item.unblank behind] at front opened
  have filled : ¬ item.key.isEmpty = true := by simpa using item.filled
  rw [tags, front, Item.insertInto]
  cases value : item.value with
  | none =>
    simp only [value] at opened
    rcases ends value with rfl | ⟨more, rfl⟩
    · rw [tags_nil]
      split
      case h_1 => exact if_neg filled
      case h_2 same => cases opened.symm.trans same
      case h_3 same => cases opened.symm.trans same
      case h_4 unended _ _ => exact absurd opened unended
    · rw [tags_blank]
      split
      case h_1 same => cases opened.symm.trans same
      case h_2 same =>
        cases opened.symm.trans same
        rfl
      case h_3 same => cases opened.symm.trans same
      case h_4 _ unblank _ => exact absurd opened (unblank more)
  | some text =>
    have read := value?_closed (item.closes text value) behind
    simp only [value] at opened
    split
    case h_1 same => cases opened.symm.trans same
    case h_2 same => cases opened.symm.trans same
    case h_3 same =>
      cases opened.symm.trans same
      rw [if_neg filled]
      split
      case h_1 unread => cases read.symm.trans unread
      case h_2 found =>
        cases read.symm.trans found
        rfl
    case h_4 _ _ unquoted => exact absurd opened (unquoted _)

theorem Item.text_inj {one other : Item} {later : List Char} (ends : one.value = none → Ends behind)
    (endsToo : other.value = none → Ends later) (same : one.text ++ behind = other.text ++ later) :
    one = other ∧ behind = later := by
  obtain ⟨front, back⟩ := one.split ends
  obtain ⟨frontToo, backToo⟩ := other.split endsToo
  rw [same] at front back
  have key := front.symm.trans frontToo
  have rest := back.symm.trans backToo
  obtain ⟨oneKey, oneValue, _, _, closes⟩ := one
  obtain ⟨otherKey, otherValue, _, _, closesToo⟩ := other
  obtain rfl : oneKey = otherKey := key
  cases oneValue with
  | none =>
    cases otherValue with
    | none => exact ⟨rfl, rest⟩
    | some value => rcases ends rfl with nothing | ⟨_, blank⟩ <;> simp_all
  | some value =>
    cases otherValue with
    | none => rcases endsToo rfl with nothing | ⟨_, blank⟩ <;> simp_all
    | some text =>
      have quoted : value ++ '"' :: behind = text ++ '"' :: later := by simpa using rest
      have read := value?_closed (closes value rfl) behind
      rw [quoted, value?_closed (closesToo text rfl) later] at read
      cases read
      exact ⟨rfl, rfl⟩

end Items

namespace Listed

theorem ends (listed : Listed joined valued items text) (parted : ¬ (joined = true ∧ valued = true)) : Ends text := by
  cases listed with
  | blanks _ n =>
    cases n with
    | zero => exact .inl rfl
    | succ n => exact .inr ⟨_, List.replicate_succ⟩
  | @item _ n _ _ _ apart =>
    obtain ⟨n, rfl⟩ := Nat.exists_eq_succ_of_ne_zero (Nat.ne_of_gt (apart.resolve_right parted))
    exact .inr ⟨_, rfl⟩

theorem tags (listed : Listed joined valued items text) (literal : String) (found : Tags) :
    TagString.tags literal found text = (items.foldl Item.insertInto found, []) := by
  induction listed generalizing found with
  | blanks valued n =>
    have read := tags_blanks literal found n []
    rw [List.append_nil, tags_nil] at read
    exact read
  | @item valued n item items behind apart later ih =>
    rw [tags_blanks, tags_item item fun bare => later.ends (by simp [bare]), ih]
    rfl

theorem behind_item {n : Nat} {item : Item} (listed : Listed joined valued items (.replicate n ' ' ++ (item.text ++ behind)))
    (stops : item.value = none → Ends behind) : ∃ rest, items = item :: rest ∧
      Listed joined item.value.isSome rest behind := by
  generalize whole : List.replicate n ' ' ++ (item.text ++ behind) = text at listed
  cases listed with
  | blanks _ m =>
    have same := congrArg (List.dropWhile (· = ' ')) whole
    have gone : (List.replicate m ' ').dropWhile (· = ' ') = [] := by simp
    rw [dropWhile_blanks, item.unblank, gone] at same
    exact absurd (.inl same) (item.unended behind)
  | @item _ m other items later apart listed =>
    have same := congrArg (List.dropWhile (· = ' ')) whole
    rw [dropWhile_blanks, dropWhile_blanks, item.unblank, other.unblank] at same
    obtain ⟨rfl, rfl⟩ := Item.text_inj stops (fun bare => listed.ends (by simp [bare])) same
    exact ⟨items, rfl, listed⟩

theorem blank (listed : Listed joined true items text) : Listed joined false items (' ' :: text) := by
  cases listed with
  | blanks _ n => exact .blanks false (n + 1)
  | item apart later => exact .item (.inl (Nat.succ_pos _)) later

theorem apart (listed : Listed joined true items text) (ends : Ends text) : Listed joined false items text := by
  cases listed with
  | blanks _ n => exact .blanks false n
  | @item _ n item _ behind apart later =>
    cases n with
    | zero => exact absurd ends (item.unended behind)
    | succ n => exact .item (.inl (Nat.succ_pos n)) later

end Listed

theorem blanks_split (text : List Char) : ∃ n, text = .replicate n ' ' ++ text.dropWhile (· = ' ') := by
  refine ⟨(text.takeWhile (· = ' ')).length, ?_⟩
  have blanks : text.takeWhile (· = ' ') = .replicate (text.takeWhile (· = ' ')).length ' ' :=
    List.eq_replicate_of_mem fun c member => of_decide_eq_true (List.all_eq_true.mp List.all_takeWhile c member)
  rw [← blanks, List.takeWhile_append_dropWhile]

theorem item_split (behind : (text.dropWhile (· = ' ')).dropWhile isKeyCharacter = rest) :
    ∃ n, text = .replicate n ' ' ++ ((text.dropWhile (· = ' ')).takeWhile isKeyCharacter ++ rest) := by
  obtain ⟨n, split⟩ := blanks_split text
  refine ⟨n, ?_⟩
  rwa [← behind, List.takeWhile_append_dropWhile]

theorem named_key (text : List Char) : ∀ c ∈ text.takeWhile isKeyCharacter, isKeyCharacter c = true :=
  List.all_eq_true.mp List.all_takeWhile

theorem unblanked (text more : List Char) : text.dropWhile (· = ' ') ≠ ' ' :: more := by
  intro blank
  have first := List.head?_dropWhile_not (fun c => decide (c = ' ')) text
  rw [blank] at first
  simp at first

theorem listed_item (n : Nat) (item : Item) (split : text = .replicate n ' ' ++ (item.text ++ behind))
    (later : Listed true item.value.isSome items behind) : ∃ items, Listed true true items text :=
  ⟨item :: items, split ▸ .item (.inr ⟨rfl, rfl⟩) later⟩

theorem listed_of_tags (clean : (tags literal found text).2 = []) : ∃ items, Listed true true items text := by
  fun_induction tags literal found text with
  | case1 found text item key ended empty =>
    obtain ⟨n, split⟩ : ∃ n, text = .replicate n ' ' ++ (key ++ []) := item_split ended
    rw [List.isEmpty_iff.mp empty, List.append_nil, List.append_nil] at split
    exact ⟨[], split ▸ .blanks true n⟩
  | case2 found text item key ended filled =>
    obtain ⟨n, split⟩ := item_split ended
    exact listed_item n ⟨key, none, by simpa using filled, named_key _, closes_none⟩ split (.blanks false 0)
  | case3 found text item key more blank ih =>
    obtain ⟨items, listed⟩ := ih clean
    obtain ⟨n, split⟩ := item_split blank
    have filled : key ≠ [] := by
      intro empty
      have whole : key ++ ' ' :: more = item := blank ▸ List.takeWhile_append_dropWhile
      rw [empty] at whole
      exact unblanked text more whole.symm
    exact listed_item n ⟨key, none, filled, named_key _, closes_none⟩ split listed.blank
  | case4 | case5 | case7 => cases clean
  | case6 found text item key quoted opened filled value after read ih =>
    obtain ⟨items, listed⟩ := ih clean
    obtain ⟨isValue, rfl⟩ := value?_value read
    obtain ⟨n, split⟩ := item_split opened
    refine listed_item n ⟨key, some value, by simpa using filled, named_key _, by simpa using isValue⟩ ?_ listed
    simpa [Item.text] using split

section Ordinals

theorem natural?_iff {digits : List Char} {n : Nat} : Decimal.natural? digits = some n ↔
    digits ≠ [] ∧ (∀ c ∈ digits, isDigitOf 10 c = true) ∧ Decimal.value digits = n := by
  unfold Decimal.natural?
  cases digits with
  | nil => simp
  | cons c rest => simp

theorem natural?_read {digits : List Char} {n : Int} (read : (do pure ((← Decimal.natural? digits) : Int)) = some n) :
    digits ≠ [] ∧ (∀ c ∈ digits, isDigitOf 10 c = true) ∧ n = Decimal.value digits := by
  cases found : Decimal.natural? digits with
  | none => simp [found] at read
  | some m =>
    obtain ⟨some, decimal, same⟩ := natural?_iff.mp found
    simp only [found, Option.pure_def, Option.bind_eq_bind, Option.bind_some, Option.some.injEq] at read
    exact ⟨some, decimal, by rw [same, read]⟩

theorem integer?_iff {numeral : List Char} {n : Int} : Decimal.integer? numeral = some n ↔ IsNumeral numeral n := by
  constructor
  · intro read
    unfold Decimal.integer? at read
    split at read <;> obtain ⟨m, found, rfl⟩ := Option.map_eq_some_iff.mp read <;>
      obtain ⟨some, decimal, rfl⟩ := natural?_read found
    · exact .minus some decimal
    · exact .plus some decimal
    · exact .unsigned some decimal
  · intro isNumeral
    cases isNumeral with
    | minus some decimal => rw [Decimal.integer?, natural?_iff.mpr ⟨some, decimal, rfl⟩]; rfl
    | plus some decimal => rw [Decimal.integer?, natural?_iff.mpr ⟨some, decimal, rfl⟩]; rfl
    | unsigned some decimal =>
      have unsigned : ∀ sign, isDigitOf 10 sign = false → ∀ digits, numeral ≠ sign :: digits := by
        rintro sign undigit digits rfl
        exact Decimal.digit_ne (decimal sign List.mem_cons_self) sign undigit rfl
      rw [Decimal.integer?.eq_3 _ (unsigned '-' rfl) (unsigned '+' rfl), natural?_iff.mpr ⟨some, decimal, rfl⟩]
      rfl

theorem ordinal?_iff {numeral : List Char} {n : Int} : ordinal? signed numeral = some n ↔ IsOrdinal signed numeral n := by
  unfold ordinal?
  constructor
  · intro read
    split at read
    · cases read
    · rename_i m found
      split at read
      · rename_i within
        cases read
        exact ⟨integer?_iff.mp found, within.1, within.2.1, within.2.2⟩
      · cases read
  · rintro ⟨spelled, least, most, positive⟩
    rw [integer?_iff.mpr spelled]
    exact if_pos ⟨least, most, positive⟩

theorem IsNumeral.unblank {numeral : List Char} {n : Int} (isNumeral : IsNumeral numeral n) :
    numeral ≠ [] ∧ ∀ c ∈ numeral, c ≠ ' ' := by
  have digits : ∀ digits : List Char, (∀ c ∈ digits, isDigitOf 10 c = true) → ∀ c ∈ digits, c ≠ ' ' :=
    fun _ decimal c inside => Decimal.digit_ne (decimal c inside) ' ' rfl
  cases isNumeral with
  | unsigned some decimal => exact ⟨some, digits _ decimal⟩
  | plus some decimal | minus some decimal =>
    exact ⟨by simp, List.forall_mem_cons.mpr ⟨by decide, digits _ decimal⟩⟩

end Ordinals

section Contents
variable {numeral : List Char} {n : Int}

theorem numeral_split (spelled : IsNumeral numeral n) (ends : Ends behind) :
    (numeral ++ behind).dropWhile (· = ' ') = numeral ++ behind ∧ (numeral ++ behind).takeWhile (· != ' ') = numeral ∧
      (numeral ++ behind).dropWhile (· != ' ') = behind := by
  obtain ⟨some, unblank⟩ := spelled.unblank
  have inside : ∀ c ∈ numeral, (c != ' ') = true := fun c member => by simpa using unblank c member
  refine ⟨?_, ?_, ?_⟩
  · cases numeral with
    | nil => exact absurd rfl some
    | cons c rest => simp [unblank c List.mem_cons_self]
  · rw [List.takeWhile_append_of_pos inside]
    rcases ends with rfl | ⟨more, rfl⟩ <;> simp
  · rw [List.dropWhile_append_of_pos inside]
    rcases ends with rfl | ⟨more, rfl⟩ <;> simp

theorem read_spelled (spells : Spells joined signed n items (literalContent literal)) :
    read signed literal = ⟨n, items.foldl Item.insertInto ∅, []⟩ := by
  obtain ⟨blanks, numeral, behind, content, ordinal, listed⟩ := spells
  obtain ⟨unblank, front, back⟩ := numeral_split ordinal.spelled (listed.ends (by simp))
  unfold read
  dsimp only
  rw [content, dropWhile_blanks, unblank, front, back, listed.tags literal ∅, ordinal?_iff.mpr ordinal]

theorem ends_dropWhile (text : List Char) : Ends (text.dropWhile (· != ' ')) := by
  have first := List.head?_dropWhile_not (· != ' ') text
  cases stopped : text.dropWhile (· != ' ') with
  | nil => exact .inl rfl
  | cons c more =>
    rw [stopped] at first
    exact .inr ⟨more, by simpa using first⟩

theorem read_clean : (read signed literal).problems = [] ↔
    ∃ n items, Spells true signed n items (literalContent literal) := by
  constructor
  · intro clean
    unfold read at clean
    dsimp only at clean
    split at clean
    · rename_i n found
      obtain ⟨items, listed⟩ := listed_of_tags clean
      obtain ⟨blanks, split⟩ := blanks_split (literalContent literal)
      refine ⟨n, items, blanks, _, _, ?_, ordinal?_iff.mp found, listed.apart (ends_dropWhile _)⟩
      rwa [List.takeWhile_append_dropWhile]
    · cases clean
  · rintro ⟨n, items, spells⟩
    rw [read_spelled spells]

end Contents
end TagString

theorem Grammar.tagString_accepts {signed : Bool} {t : Tape} (isString : t.current.kind = .string) :
    (tagString signed t).problems = [] ↔
      ∃ n items, TagString.Spells true signed n items (literalContent t.current.text) := by
  rw [tagString_apply, if_pos isString, List.map_eq_nil_iff, TagString.read_clean]

namespace JoinedItems
open TagString

def literal : String := "\x601 a:\"x\"b\x60"

theorem closes : ∀ text ∈ some ['x'], IsValue text := by
  rintro _ ⟨⟩
  exact .plain (by decide) (by decide) .nil

theorem first_filled : ['a'] ≠ [] := List.cons_ne_nil _ _

theorem first_named : ∀ c ∈ ['a'], isKeyCharacter c = true := List.all_eq_true.mp (by decide)

theorem second_filled : ['b'] ≠ [] := List.cons_ne_nil _ _

theorem second_named : ∀ c ∈ ['b'], isKeyCharacter c = true := List.all_eq_true.mp (by decide)

def valued : Item := ⟨['a'], some ['x'], first_filled, first_named, closes⟩

def bare : Item := ⟨['b'], none, second_filled, second_named, closes_none⟩

def tape : Grammar.Tape := ⟨[], ⟨⟨.string, literal, ⟨"", 1, 1⟩⟩, []⟩⟩

theorem ordinal : IsOrdinal false ['1'] 1 :=
  ⟨.unsigned (by simp) (List.all_eq_true.mp (by decide)), by decide, by decide, .inr (by decide)⟩

theorem spelled : Spells true false 1 [valued, bare] (literalContent literal) :=
  ⟨0, ['1'], _, rfl, ordinal, .item (n := 1) (.inl Nat.one_pos) (.item (n := 0) (.inr ⟨rfl, rfl⟩) (.blanks false 0))⟩

theorem joined_accepted : tape.current.kind = .string ∧ (Grammar.tagString false tape).problems = [] :=
  ⟨rfl, (Grammar.tagString_accepts rfl).mpr ⟨1, [valued, bare], spelled⟩⟩

theorem unseparated (n : Int) (items : List Item) : ¬ Spells false false n items (literalContent literal) := by
  rintro ⟨blanks, numeral, behind, content, ordinal, listed⟩
  obtain ⟨unblank, _, back⟩ := numeral_split ordinal.spelled (listed.ends (by simp))
  have dropped := congrArg (List.dropWhile (· != ' ')) (congrArg (List.dropWhile (· = ' ')) content)
  rw [dropWhile_blanks, unblank, back] at dropped
  have listed : Listed false false items (.replicate 1 ' ' ++ (valued.text ++ ['b'])) := by
    rw [← dropped] at listed
    exact listed
  obtain ⟨_, _, later⟩ := listed.behind_item fun bare => nomatch bare
  rcases later.ends (by simp) with nothing | ⟨_, blank⟩
  · cases nothing
  · cases blank

theorem joined_ungrammatical : ¬ ∀ (signed : Bool) (t : Grammar.Tape), t.current.kind = .string →
    ((Grammar.tagString signed t).problems = [] ↔
      ∃ n items, Spells false signed n items (literalContent t.current.text)) := by
  intro every
  have clean : (Grammar.tagString false tape).problems = [] := by
    have isString : tape.current.kind = .string := rfl
    rw [Grammar.tagString_apply, if_pos isString, List.map_eq_nil_iff]
    exact read_clean.mpr ⟨1, _, spelled⟩
  obtain ⟨n, items, spells⟩ := (every false tape rfl).mp clean
  exact unseparated n items spells

end JoinedItems
end WireSchema

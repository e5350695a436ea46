-- Finite maps that list their keys in strictly increasing order. The order is part of the type, so
-- what is printed from a map never depends on how the map was built.
namespace WireSchema

class KeyOrder (κ : Type) [LT κ] : Prop where
  trans : ∀ {a b c : κ}, a < b → b < c → a < c
  total : ∀ {a b : κ}, ¬ a < b → a ≠ b → b < a

theorem lt_of_not_lt_of_ne {κ : Type} [LT κ] [LE κ] [Std.IsLinearOrder κ] [Std.LawfulOrderLT κ]
    {a b : κ} (notBelow : ¬ a < b) (other : a ≠ b) : b < a :=
  Std.lt_of_le_of_ne (Std.not_lt.mp notBelow) (fun same => other same.symm)

instance : KeyOrder String := ⟨Std.lt_trans, lt_of_not_lt_of_ne⟩

instance : KeyOrder (List String) := ⟨Std.lt_trans, lt_of_not_lt_of_ne⟩

structure Dictionary (κ α : Type) [LT κ] where
  entries : List (κ × α)
  ordered : entries.Pairwise (fun a b => a.1 < b.1)
deriving DecidableEq

namespace Dictionary
variable {κ α : Type} [LT κ]

def empty : Dictionary κ α := ⟨[], .nil⟩

instance : EmptyCollection (Dictionary κ α) := ⟨empty⟩
instance : Inhabited (Dictionary κ α) := ⟨empty⟩

def put [DecidableLT κ] [DecidableEq κ] (key : κ) (value : α) : List (κ × α) → List (κ × α)
  | [] => [(key, value)]
  | (other, old) :: rest =>
    if key < other then (key, value) :: (other, old) :: rest
    else if key = other then (key, value) :: rest
    else (other, old) :: put key value rest

theorem fst_mem_put [DecidableLT κ] [DecidableEq κ] {key : κ} {value : α} {entries : List (κ × α)}
    {entry : κ × α} (member : entry ∈ put key value entries) :
    entry = (key, value) ∨ entry ∈ entries := by
  induction entries with
  | nil => simpa [put] using member
  | cons head rest ih =>
    obtain ⟨other, old⟩ := head
    unfold put at member
    split at member
    · simpa using member
    · split at member
      · rcases List.mem_cons.mp member with found | found
        · exact .inl found
        · exact .inr (List.mem_cons_of_mem _ found)
      · rcases List.mem_cons.mp member with found | found
        · exact .inr (by simp [found])
        · exact (ih found).imp id (List.mem_cons_of_mem _)

section Order
variable [DecidableLT κ] [DecidableEq κ] [KeyOrder κ]

theorem pairwise_put (key : κ) (value : α) {entries : List (κ × α)}
    (ordered : entries.Pairwise (fun a b => a.1 < b.1)) :
    (put key value entries).Pairwise (fun a b => a.1 < b.1) := by
  induction entries with
  | nil => simp [put]
  | cons head rest ih =>
    obtain ⟨other, old⟩ := head
    have tail := List.pairwise_cons.mp ordered
    unfold put
    split
    · rename_i below
      refine List.pairwise_cons.mpr ⟨fun entry member => ?_, ordered⟩
      rcases List.mem_cons.mp member with rfl | later
      · exact below
      · exact KeyOrder.trans below (tail.1 entry later)
    · split
      · rename_i same
        subst same
        exact List.pairwise_cons.mpr ⟨tail.1, tail.2⟩
      · rename_i notBelow different
        refine List.pairwise_cons.mpr ⟨fun entry member => ?_, ih tail.2⟩
        rcases fst_mem_put member with rfl | later
        · exact KeyOrder.total notBelow different
        · exact tail.1 entry later

def insert (key : κ) (value : α) (map : Dictionary κ α) : Dictionary κ α :=
  ⟨put key value map.entries, pairwise_put key value map.ordered⟩

end Order

def get? [DecidableEq κ] (key : κ) (map : Dictionary κ α) : Option α :=
  (map.entries.find? (·.1 = key)).map (·.2)

def contains [DecidableEq κ] (key : κ) (map : Dictionary κ α) : Bool := (map.get? key).isSome

def keys (map : Dictionary κ α) : List κ := map.entries.map (·.1)

def size (map : Dictionary κ α) : Nat := map.entries.length

def isEmpty (map : Dictionary κ α) : Bool := map.entries.isEmpty

def filterKeys (keep : κ → Bool) (map : Dictionary κ α) : Dictionary κ α :=
  ⟨map.entries.filter (fun entry => keep entry.1), map.ordered.sublist (List.filter_sublist)⟩

theorem get?_put [DecidableLT κ] [DecidableEq κ] (key : κ) (value : α) (entries : List (κ × α)) (wanted : κ) :
    ((put key value entries).find? (·.1 = wanted)).map (·.2) =
      if key = wanted then some value else (entries.find? (·.1 = wanted)).map (·.2) := by
  induction entries with
  | nil => by_cases same : key = wanted <;> simp [put, same]
  | cons head rest ih =>
    obtain ⟨other, old⟩ := head
    unfold put
    split
    · by_cases same : key = wanted <;> simp [same]
    · split
      · rename_i equal
        subst equal
        by_cases same : key = wanted <;> simp [same]
      · rename_i different
        by_cases here : other = wanted
        · subst here
          simp [different]
        · simpa [here] using ih

theorem get?_insert [DecidableLT κ] [DecidableEq κ] [KeyOrder κ] (key : κ) (value : α) (map : Dictionary κ α) (wanted : κ) :
    (map.insert key value).get? wanted = if key = wanted then some value else map.get? wanted :=
  get?_put key value map.entries wanted

end Dictionary
end WireSchema

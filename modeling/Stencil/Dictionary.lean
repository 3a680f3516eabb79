import Stencil.Text.Order

/-!
Dictionaries from texts to values, in the order of their keys. What a key is bound to after an
insertion is `find?_insert`.
-/
namespace Stencil

abbrev Dictionary (α : Type) := List (Text × α)

namespace Dictionary

variable {α : Type}

def find? (key : Text) : Dictionary α → Option α
  | [] => none
  | (k, v) :: rest => if k = key then some v else find? key rest

-- Binds a key, in the place of an earlier binding of it.
def insert (key : Text) (value : α) : Dictionary α → Dictionary α
  | [] => [(key, value)]
  | (k, v) :: rest =>
    if k = key then (key, value) :: rest
    else if Text.before key k then (key, value) :: (k, v) :: rest
    else (k, v) :: insert key value rest

def erase (key : Text) (d : Dictionary α) : Dictionary α :=
  d.filter fun (k, _) => k ≠ key

-- Of several bindings of a key the last one counts.
def ofEntries (entries : List (Text × α)) : Dictionary α :=
  entries.foldl (fun d (key, value) => d.insert key value) []

-- All bindings of both, those of the second where both have one.
def merge (d other : Dictionary α) : Dictionary α :=
  other.foldl (fun d (key, value) => d.insert key value) d

theorem find?_insert (key other : Text) (value : α) (d : Dictionary α) :
    (d.insert key value).find? other = if other = key then some value else d.find? other := by
  induction d with
  | nil => simp [insert, find?, eq_comm]
  | cons entry rest ih =>
    obtain ⟨k, v⟩ := entry
    grind [insert, find?]

theorem find?_append (key : Text) (d other : Dictionary α) :
    find? key (d ++ other) = (find? key d).or (find? key other) := by
  induction d with
  | nil => rfl
  | cons entry rest ih =>
    obtain ⟨k, v⟩ := entry
    by_cases hk : k = key <;> simp [find?, hk, ih]

end Dictionary
end Stencil

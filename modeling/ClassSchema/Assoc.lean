/-!
# Ordered tables

A table is a list of entries in the order in which their keys first came. Putting a value under a
key that is present replaces the value and keeps the place; a new key goes to the end.
-/

namespace ClassSchema

/-- Entries in order. -/
abbrev Assoc (α : Type) := List (String × α)

namespace Assoc

variable {α : Type}

/-- The value of the first entry under a key. -/
def get? (table : Assoc α) (key : String) : Option α :=
  match table with
  | [] => none
  | (k, v) :: rest => if k = key then some v else get? rest key

/-- Whether there is an entry under a key. -/
def has (table : Assoc α) (key : String) : Bool := table.any (·.1 = key)

/-- The keys in order. -/
def keys (table : Assoc α) : List String := table.map (·.1)

/-- Puts a value under a key: in the place of the key, or else at the end. -/
def put (table : Assoc α) (key : String) (value : α) : Assoc α :=
  match table with
  | [] => [(key, value)]
  | (k, v) :: rest => if k = key then (key, value) :: rest else (k, v) :: put rest key value

/-- The table of a list of entries, in which a later entry of a key replaces the value of an earlier
one. -/
def ofEntries (entries : List (String × α)) : Assoc α :=
  entries.foldl (fun table entry ↦ table.put entry.1 entry.2) []

theorem has_iff_mem_keys {table : Assoc α} {key : String} :
    table.has key = true ↔ key ∈ table.keys := by
  simp [has, keys]

/-- A key that is present keeps its place, and a new one comes last. -/
theorem keys_put (table : Assoc α) (key : String) (value : α) :
    (table.put key value).keys =
      if key ∈ table.keys then table.keys else table.keys ++ [key] := by
  induction table with
  | nil => simp [put, keys]
  | cons entry rest ih =>
    obtain ⟨k, v⟩ := entry
    simp only [keys] at ih ⊢
    by_cases h : k = key
    · simp [put, h]
    · simp only [put, h, if_false, List.map_cons, ih, List.mem_cons, Ne.symm h, false_or]
      by_cases m : key ∈ rest.map (·.1) <;> simp [m]

/-- The value just put is the one found. -/
theorem get?_put_self (table : Assoc α) (key : String) (value : α) :
    (table.put key value).get? key = some value := by
  induction table with
  | nil => simp [put, get?]
  | cons entry rest ih =>
    obtain ⟨k, v⟩ := entry
    by_cases h : k = key
    · simp [put, h, get?]
    · simpa [put, h, get?] using ih

/-- The values under other keys stay. -/
theorem get?_put_of_ne (table : Assoc α) {key other : String} (value : α) (h : other ≠ key) :
    (table.put key value).get? other = table.get? other := by
  induction table with
  | nil => simp [put, get?, Ne.symm h]
  | cons entry rest ih =>
    obtain ⟨k, v⟩ := entry
    by_cases hk : k = key
    · subst hk
      simp [put, get?, Ne.symm h]
    · simp only [put, hk, if_false, get?]
      split
      · rfl
      · exact ih

end Assoc

end ClassSchema

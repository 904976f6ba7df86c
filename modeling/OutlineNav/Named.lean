/-!
# Lists of named values

What a table, an object or a folder holds: values under names, in an order of their own. `insert`
keeps the place of a name that is there already, so it never gives a name two values.
-/

namespace OutlineNav.Named

variable {α : Type}

/-- The first value under a name. -/
def lookup? (name : String) : List (String × α) → Option α
  | [] => none
  | (k, v) :: rest => if k = name then some v else lookup? name rest

/-- Gives a name a value, at the place of its old value or else at the end. -/
def insert (name : String) (value : α) : List (String × α) → List (String × α)
  | [] => [(name, value)]
  | (k, v) :: rest => if k = name then (k, value) :: rest else (k, v) :: insert name value rest

@[simp] theorem lookup?_insert_self (name : String) (value : α) (entries : List (String × α)) :
    lookup? name (insert name value entries) = some value := by
  induction entries with
  | nil => simp [insert, lookup?]
  | cons e rest ih =>
    obtain ⟨k, v⟩ := e
    by_cases h : k = name <;> simp [insert, lookup?, h, ih]

theorem lookup?_insert_ne {name other : String} (h : name ≠ other) (value : α)
    (entries : List (String × α)) :
    lookup? name (insert other value entries) = lookup? name entries := by
  induction entries with
  | nil => simp [insert, lookup?, h.symm]
  | cons e rest ih =>
    obtain ⟨k, v⟩ := e
    by_cases hk : k = other
    · subst hk; simp [insert, lookup?, h.symm]
    · by_cases hk' : k = name
      · subst hk'; simp [insert, lookup?, hk]
      · simp [insert, lookup?, hk, hk', ih]

end OutlineNav.Named

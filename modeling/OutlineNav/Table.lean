/-!
# Finite tables

A `Table` maps finitely many keys to values. It is a list of pairs in which no key occurs twice; the
latest key stands in front. What an operation does is said through `get?`, and how many keys there
are by `size`.
-/

namespace OutlineNav

structure Table (κ α : Type) where
  entries : List (κ × α)
  nodup : (entries.map Prod.fst).Nodup

namespace Table

variable {κ α : Type}

def empty : Table κ α := ⟨[], List.nodup_nil⟩

instance : Inhabited (Table κ α) := ⟨empty⟩

def size (t : Table κ α) : Nat := t.entries.length

def keys (t : Table κ α) : List κ := t.entries.map Prod.fst

variable [DecidableEq κ]

def lookup (k : κ) : List (κ × α) → Option α
  | [] => none
  | (l, a) :: rest => if l = k then some a else lookup k rest

def get? (t : Table κ α) (k : κ) : Option α := lookup k t.entries

def contains (t : Table κ α) (k : κ) : Bool := (t.get? k).isSome

def without (k : κ) (entries : List (κ × α)) : List (κ × α) := entries.filter (·.1 ≠ k)

theorem nodup_without {k : κ} {entries : List (κ × α)} (h : (entries.map Prod.fst).Nodup) :
    ((without k entries).map Prod.fst).Nodup :=
  List.Nodup.sublist (List.Sublist.map _ List.filter_sublist) h

theorem not_mem_without (k : κ) (entries : List (κ × α)) :
    k ∉ (without k entries).map Prod.fst := by
  simp [without]

def erase (t : Table κ α) (k : κ) : Table κ α := ⟨without k t.entries, nodup_without t.nodup⟩

def insert (t : Table κ α) (k : κ) (a : α) : Table κ α :=
  ⟨(k, a) :: without k t.entries,
    List.nodup_cons.mpr ⟨not_mem_without k t.entries, nodup_without t.nodup⟩⟩

/-- Replaces the value of a key, if it has one. -/
def modify (t : Table κ α) (k : κ) (f : α → α) : Table κ α where
  entries := t.entries.map fun (l, a) => if l = k then (l, f a) else (l, a)
  nodup := by
    have : (t.entries.map fun (l, a) => if l = k then (l, f a) else (l, a)).map Prod.fst =
        t.entries.map Prod.fst := by
      rw [List.map_map]
      apply List.map_congr_left
      rintro ⟨l, a⟩ _
      simp only [Function.comp]
      split <;> rfl
    rw [this]
    exact t.nodup

/-- Replaces all values. -/
def map {β : Type} (t : Table κ α) (f : κ → α → β) : Table κ β where
  entries := t.entries.map fun (k, a) => (k, f k a)
  nodup := by
    have : (t.entries.map fun (k, a) => (k, f k a)).map Prod.fst = t.entries.map Prod.fst := by
      simp [Function.comp_def]
    rw [this]
    exact t.nodup

/-! ## Keys -/

theorem isSome_lookup (k : κ) (entries : List (κ × α)) :
    (lookup k entries).isSome = true ↔ k ∈ entries.map Prod.fst := by
  induction entries with
  | nil => simp [lookup]
  | cons e rest ih =>
    obtain ⟨l, a⟩ := e
    by_cases h : l = k
    · simp [lookup, h]
    · simp [lookup, h, Ne.symm h, ih]

/-- The keys are those that have a value. -/
theorem mem_keys (t : Table κ α) (k : κ) : k ∈ t.keys ↔ (t.get? k).isSome = true :=
  (isSome_lookup k t.entries).symm

/-! ## Values after each operation -/

@[simp] theorem get?_empty (k : κ) : (empty : Table κ α).get? k = none := rfl

theorem lookup_without_self (k : κ) (entries : List (κ × α)) :
    lookup k (without k entries) = none := by
  induction entries with
  | nil => rfl
  | cons e rest ih =>
    obtain ⟨l, a⟩ := e
    by_cases h : l = k
    · simpa [without, h] using ih
    · simpa [without, lookup, h] using ih

theorem lookup_without_ne {k l : κ} (h : k ≠ l) (entries : List (κ × α)) :
    lookup k (without l entries) = lookup k entries := by
  induction entries with
  | nil => rfl
  | cons e rest ih =>
    obtain ⟨m, a⟩ := e
    by_cases hm : m = l
    · have : m ≠ k := fun h' => h (h' ▸ hm)
      simpa [without, lookup, hm, this, h.symm] using ih
    · simp only [without, ne_eq, hm, not_false_eq_true, decide_true, List.filter_cons_of_pos,
        lookup]
      split
      · rfl
      · exact ih

@[simp] theorem get?_erase_self (t : Table κ α) (k : κ) : (t.erase k).get? k = none :=
  lookup_without_self k t.entries

theorem get?_erase_ne (t : Table κ α) {k l : κ} (h : k ≠ l) : (t.erase l).get? k = t.get? k :=
  lookup_without_ne h t.entries

@[simp] theorem get?_insert_self (t : Table κ α) (k : κ) (a : α) :
    (t.insert k a).get? k = some a := by
  simp [get?, insert, lookup]

theorem get?_insert_ne (t : Table κ α) {k l : κ} (h : k ≠ l) (a : α) :
    (t.insert l a).get? k = t.get? k := by
  simpa [get?, insert, lookup, h.symm] using lookup_without_ne h t.entries

theorem lookup_map_modify (k l : κ) (f : α → α) (entries : List (κ × α)) :
    lookup k (entries.map fun (m, a) => if m = l then (m, f a) else (m, a)) =
      if k = l then (lookup k entries).map f else lookup k entries := by
  induction entries with
  | nil => simp [lookup]
  | cons e rest ih =>
    obtain ⟨m, a⟩ := e
    simp only [List.map_cons]
    by_cases hm : m = l <;> by_cases hk : m = k
    · subst hm; subst hk; simp [lookup]
    · subst hm
      simp only [if_true, lookup, if_neg hk, ih]
    · subst hk
      simp [lookup, hm]
    · simp only [if_neg hm, lookup, if_neg hk, ih]

@[simp] theorem get?_modify_self (t : Table κ α) (k : κ) (f : α → α) :
    (t.modify k f).get? k = (t.get? k).map f := by
  simpa [get?, modify] using lookup_map_modify k k f t.entries

theorem get?_modify_ne (t : Table κ α) {k l : κ} (h : k ≠ l) (f : α → α) :
    (t.modify l f).get? k = t.get? k := by
  simpa [get?, modify, h] using lookup_map_modify k l f t.entries

end Table

end OutlineNav

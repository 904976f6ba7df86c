import Mathlib.Data.List.Nodup
import OutlineNav.Toml.Basic

/-!
# Merged tables

A value lies at the end of a path of keys (`Toml.at?`), which leads from table to table. Laying one
table over another is said path by path (`at?_merge`): what the upper table has at a path wins,
except that two tables are merged; what it does not have comes from the lower table, unless the
upper one has something at the path that is not a table and so hides everything below.

All of this asks that the upper table gives no key two values. `KeysOnce` says so of a table and of
all tables in it. It is what the tables that a configuration file writes are like, and merging keeps
it.
-/

namespace OutlineNav

/-! ## Names given once -/

namespace Named

variable {α : Type}

theorem lookup?_eq_none_iff {name : String} {entries : List (String × α)} :
    lookup? name entries = none ↔ name ∉ entries.map (·.1) := by
  induction entries with
  | nil => simp [lookup?]
  | cons e rest ih =>
    obtain ⟨k, v⟩ := e
    by_cases h : k = name
    · simp [lookup?, h]
    · simp [lookup?, h, ih, Ne.symm h]

theorem mem_map_fst_insert {name other : String} {value : α} {entries : List (String × α)} :
    name ∈ (insert other value entries).map (·.1) ↔ name = other ∨ name ∈ entries.map (·.1) := by
  rw [← not_iff_not, not_or, ← lookup?_eq_none_iff, ← lookup?_eq_none_iff]
  by_cases h : name = other
  · subst h
    simp
  · simp [lookup?_insert_ne h, h]

theorem nodup_map_fst_insert {name : String} {value : α} {entries : List (String × α)}
    (h : (entries.map (·.1)).Nodup) : ((insert name value entries).map (·.1)).Nodup := by
  induction entries with
  | nil => exact List.nodup_singleton _
  | cons e rest ih =>
    obtain ⟨k, v⟩ := e
    obtain ⟨hk, hrest⟩ := List.nodup_cons.mp h
    rw [insert]
    split
    · exact h
    · next hne =>
      refine List.nodup_cons.mpr ⟨?_, ih hrest⟩
      rw [mem_map_fst_insert, not_or]
      exact ⟨hne, hk⟩

end Named

namespace Toml

open Named (lookup? insert)

/-! ## Values at paths -/

/-- The value at the end of a path of keys, if the path leads through tables to a value. -/
def at? (v : Toml) : (path : List String) → Option Toml
  | [] => some v
  | key :: path =>
    match v with
    | .table entries => (lookup? key entries).bind (·.at? path)
    | _ => none

/-- Not a table. -/
def IsPlain (v : Toml) : Prop := ∀ entries, v ≠ .table entries

/-- A value that is not a table stands in front of the end of the path. -/
def Blocks (v : Toml) (path : List String) : Prop :=
  ∃ before after u, path = before ++ after ∧ after ≠ [] ∧ v.at? before = some u ∧ u.IsPlain

/-- No table in a value gives a key twice. -/
def KeysOnce (v : Toml) : Prop :=
  ∀ path entries, v.at? path = some (.table entries) → (entries.map (·.1)).Nodup

@[simp] theorem at?_nil (v : Toml) : v.at? [] = some v := by
  rw [at?]

@[simp] theorem at?_table_cons (entries : Entries) (key : String) (path : List String) :
    (table entries).at? (key :: path) = (lookup? key entries).bind (·.at? path) := rfl

theorem IsPlain.at?_cons {v : Toml} (h : v.IsPlain) (key : String) (path : List String) :
    v.at? (key :: path) = none := by
  rw [at?]
  exact h

theorem isPlain_or_table (v : Toml) : v.IsPlain ∨ ∃ entries, v = .table entries := by
  cases v
  case table entries => exact .inr ⟨entries, rfl⟩
  all_goals exact .inl fun _ h => nomatch h

theorem at?_append (v : Toml) (path rest : List String) :
    v.at? (path ++ rest) = (v.at? path).bind (·.at? rest) := by
  induction path generalizing v with
  | nil => rw [List.nil_append, at?_nil, Option.bind_some]
  | cons key path ih =>
    rcases isPlain_or_table v with hv | ⟨entries, rfl⟩
    · rw [List.cons_append, hv.at?_cons, hv.at?_cons, Option.bind_none]
    · rw [List.cons_append, at?_table_cons, at?_table_cons, Option.bind_assoc]
      simp only [ih]

/-! ### Blocked paths -/

theorem IsPlain.blocks_cons {v : Toml} (h : v.IsPlain) (key : String) (path : List String) :
    v.Blocks (key :: path) :=
  ⟨[], key :: path, v, rfl, List.cons_ne_nil _ _, at?_nil v, h⟩

theorem blocks_table_cons_iff {entries : Entries} {key : String} {path : List String} :
    (table entries).Blocks (key :: path) ↔ ∃ v, lookup? key entries = some v ∧ v.Blocks path := by
  constructor
  · rintro ⟨_ | ⟨key', before⟩, after, u, hpath, hafter, hat, hu⟩
    · cases hat
      exact absurd rfl (hu entries)
    · obtain ⟨rfl, rfl⟩ := List.cons.inj hpath
      rw [at?_table_cons, Option.bind_eq_some_iff] at hat
      obtain ⟨v, hlookup, hat⟩ := hat
      exact ⟨v, hlookup, before, after, u, rfl, hafter, hat, hu⟩
  · rintro ⟨v, hlookup, before, after, u, rfl, hafter, hat, hu⟩
    refine ⟨key :: before, after, u, rfl, hafter, ?_, hu⟩
    rw [at?_table_cons, hlookup, Option.bind_some, hat]

/-! ### Keys given once -/

theorem keysOnce_table_iff {entries : Entries} :
    (table entries).KeysOnce ↔
      (entries.map (·.1)).Nodup ∧ ∀ key v, lookup? key entries = some v → v.KeysOnce := by
  constructor
  · intro h
    refine ⟨h [] entries (at?_nil _), fun key v hlookup path inner hat => h (key :: path) inner ?_⟩
    rw [at?_table_cons, hlookup, Option.bind_some, hat]
  · rintro ⟨hnodup, hvalues⟩ (_ | ⟨key, path⟩) inner hat
    · cases hat
      exact hnodup
    · rw [at?_table_cons, Option.bind_eq_some_iff] at hat
      obtain ⟨v, hlookup, hat⟩ := hat
      exact hvalues key v hlookup path inner hat

theorem IsPlain.keysOnce {v : Toml} (h : v.IsPlain) : v.KeysOnce := by
  rintro (_ | ⟨key, path⟩) entries hat
  · exact absurd (Option.some.inj hat) (h entries)
  · rw [h.at?_cons] at hat
    cases hat

theorem keysOnce_nil : (table []).KeysOnce :=
  keysOnce_table_iff.mpr ⟨List.nodup_nil, nofun⟩

/-- A key that gets a value. -/
theorem KeysOnce.insert {entries : Entries} (h : (table entries).KeysOnce) {v : Toml}
    (hv : v.KeysOnce) (key : String) : (table (insert key v entries)).KeysOnce := by
  obtain ⟨hnodup, hvalues⟩ := keysOnce_table_iff.mp h
  refine keysOnce_table_iff.mpr ⟨Named.nodup_map_fst_insert hnodup, fun other w hlookup => ?_⟩
  by_cases hkey : other = key
  · subst hkey
    rw [Named.lookup?_insert_self, Option.some_inj] at hlookup
    exact hlookup ▸ hv
  · rw [Named.lookup?_insert_ne hkey] at hlookup
    exact hvalues other w hlookup

/-! ## Merging -/

theorem mergeValue_of_isPlain (base? : Option Toml) {v : Toml} (h : v.IsPlain) :
    mergeValue base? v = v := by
  cases v
  case table entries => exact absurd rfl (h entries)
  all_goals rfl

theorem mergeValue_table (base overlay : Entries) :
    mergeValue (some (table base)) (table overlay) = table (merge base overlay) := by
  rw [mergeValue]

/-- A table over something that is not a table. -/
theorem mergeValue_of_ne {base? : Option Toml} (h : ∀ base, base? ≠ some (table base)) (v : Toml) :
    mergeValue base? v = v := by
  rcases isPlain_or_table v with hv | ⟨overlay, rfl⟩
  · exact mergeValue_of_isPlain base? hv
  · rw [mergeValue]
    exact h

theorem lookup?_merge {base overlay : Entries} (h : (overlay.map (·.1)).Nodup) (key : String) :
    lookup? key (merge base overlay) =
      ((lookup? key overlay).map (mergeValue (lookup? key base))).or (lookup? key base) := by
  induction overlay generalizing base with
  | nil =>
    rw [merge, lookup?]
    rfl
  | cons e overlay ih =>
    obtain ⟨k, v⟩ := e
    obtain ⟨hk, hrest⟩ := List.nodup_cons.mp h
    rw [merge, ih hrest, lookup?]
    by_cases hkey : k = key
    · subst hkey
      rw [if_pos rfl, Named.lookup?_eq_none_iff.mpr hk, Named.lookup?_insert_self]
      rfl
    · rw [if_neg hkey, Named.lookup?_insert_ne (Ne.symm hkey)]

theorem nodup_map_fst_merge {base : Entries} (h : (base.map (·.1)).Nodup) (overlay : Entries) :
    ((merge base overlay).map (·.1)).Nodup := by
  induction overlay generalizing base with
  | nil =>
    rw [merge]
    exact h
  | cons e overlay ih =>
    rw [merge]
    exact ih (Named.nodup_map_fst_insert h)

section Values

variable {base? : Option Toml} {overlay : Toml} {path : List String}

theorem bind_at?_cons_of_ne (h : ∀ base, base? ≠ some (table base)) (key : String)
    (path : List String) : base?.bind (·.at? (key :: path)) = none := by
  rcases base? with _ | base
  · rfl
  · rcases isPlain_or_table base with hplain | ⟨entries, rfl⟩
    · exact hplain.at?_cons key path
    · exact absurd rfl (h entries)

/-- A path on which the upper value has something. -/
theorem at?_mergeValue_of_some (h : overlay.KeysOnce) {v : Toml} (hat : overlay.at? path = some v) :
    (mergeValue base? overlay).at? path = some (mergeValue (base?.bind (·.at? path)) v) := by
  induction path generalizing base? overlay with
  | nil =>
    cases hat
    simp
  | cons key path ih =>
    rcases isPlain_or_table overlay with hplain | ⟨entries, rfl⟩
    · rw [hplain.at?_cons] at hat
      cases hat
    · by_cases hbase : ∃ base, base? = some (table base)
      · obtain ⟨base, rfl⟩ := hbase
        obtain ⟨hnodup, hvalues⟩ := keysOnce_table_iff.mp h
        rw [at?_table_cons, Option.bind_eq_some_iff] at hat
        obtain ⟨w, hlookup, hw⟩ := hat
        rw [mergeValue_table, at?_table_cons, lookup?_merge hnodup, hlookup]
        exact ih (hvalues key w hlookup) hw
      · have hbelow := bind_at?_cons_of_ne (not_exists.mp hbase) key path
        rw [mergeValue_of_ne (not_exists.mp hbase), hbelow,
          mergeValue_of_ne (fun _ => (Option.some_ne_none _).symm),
          hat]

/-- A path that the upper value blocks. -/
theorem at?_mergeValue_of_blocks (h : overlay.KeysOnce) (hblocks : overlay.Blocks path) :
    (mergeValue base? overlay).at? path = none := by
  obtain ⟨before, _ | ⟨key, after⟩, u, rfl, hafter, hat, hu⟩ := hblocks
  · exact absurd rfl hafter
  · rw [at?_append, at?_mergeValue_of_some h hat, mergeValue_of_isPlain _ hu, Option.bind_some,
      hu.at?_cons]

/-- A path on which the upper value has nothing and that it does not block. -/
theorem at?_mergeValue_of_none (h : overlay.KeysOnce) (hat : overlay.at? path = none)
    (hblocks : ¬overlay.Blocks path) :
    (mergeValue base? overlay).at? path = base?.bind (·.at? path) := by
  induction path generalizing base? overlay with
  | nil => cases hat
  | cons key path ih =>
    rcases isPlain_or_table overlay with hplain | ⟨entries, rfl⟩
    · exact absurd (hplain.blocks_cons key path) hblocks
    · by_cases hbase : ∃ base, base? = some (table base)
      · obtain ⟨base, rfl⟩ := hbase
        obtain ⟨hnodup, hvalues⟩ := keysOnce_table_iff.mp h
        rw [mergeValue_table, at?_table_cons, lookup?_merge hnodup, Option.bind_some,
          at?_table_cons]
        cases hlookup : lookup? key entries with
        | none => rfl
        | some w =>
          rw [at?_table_cons, hlookup] at hat
          exact ih (hvalues key w hlookup) hat fun hw =>
            hblocks (blocks_table_cons_iff.mpr ⟨w, hlookup, hw⟩)
      · rw [mergeValue_of_ne (not_exists.mp hbase), bind_at?_cons_of_ne (not_exists.mp hbase), hat]

end Values

/-- What a table has at a path that comes of laying `overlay` over `base`: what is above if that is
no table, both tables merged, the table above if there is none below, nothing on a blocked path, and
else what is below. -/
structure LaidOver (overlay base merged : Entries) (path : List String) : Prop where
  plain : ∀ v, (table overlay).at? path = some v → v.IsPlain → (table merged).at? path = some v
  both : ∀ o b, (table overlay).at? path = some (table o) → (table base).at? path = some (table b) →
    (table merged).at? path = some (table (merge b o))
  above : ∀ o, (table overlay).at? path = some (table o) →
    (∀ b, (table base).at? path ≠ some (table b)) → (table merged).at? path = some (table o)
  blocked : (table overlay).Blocks path → (table merged).at? path = none
  below : (table overlay).at? path = none → ¬(table overlay).Blocks path →
    (table merged).at? path = (table base).at? path

theorem laidOver_merge (base : Entries) {overlay : Entries} (h : (table overlay).KeysOnce)
    (path : List String) : LaidOver overlay base (merge base overlay) path where
  plain v hat hv := by
    rw [← mergeValue_table, at?_mergeValue_of_some h hat, mergeValue_of_isPlain _ hv]
  both o b ho hb := by
    rw [← mergeValue_table base, at?_mergeValue_of_some h ho, Option.bind_some, hb,
      mergeValue_table]
  above o ho hb := by
    rw [← mergeValue_table, at?_mergeValue_of_some h ho, Option.bind_some, mergeValue_of_ne hb]
  blocked hblocks := by
    rw [← mergeValue_table, at?_mergeValue_of_blocks h hblocks]
  below hat hblocks := by
    rw [← mergeValue_table, at?_mergeValue_of_none h hat hblocks, Option.bind_some]

/-- Merging keeps keys given once. -/
theorem KeysOnce.merge {base overlay : Entries} (hbase : (table base).KeysOnce)
    (hoverlay : (table overlay).KeysOnce) : (table (merge base overlay)).KeysOnce := by
  intro path entries hat
  rw [← mergeValue_table] at hat
  cases hover : (table overlay).at? path with
  | some v =>
    rw [at?_mergeValue_of_some hoverlay hover, Option.some_inj, Option.bind_some] at hat
    by_cases hunder : ∃ b, (table base).at? path = some (table b)
    · obtain ⟨b, hb⟩ := hunder
      rcases isPlain_or_table v with hv | ⟨o, rfl⟩
      · exact absurd (mergeValue_of_isPlain _ hv ▸ hat) (hv entries)
      · rw [hb, mergeValue_table] at hat
        cases hat
        exact nodup_map_fst_merge (hbase path b hb) o
    · rw [mergeValue_of_ne (not_exists.mp hunder)] at hat
      exact hoverlay path entries (hat ▸ hover)
  | none =>
    by_cases hblocks : (table overlay).Blocks path
    · rw [at?_mergeValue_of_blocks hoverlay hblocks] at hat
      cases hat
    · rw [at?_mergeValue_of_none hoverlay hover hblocks] at hat
      exact hbase path entries hat

end Toml

end OutlineNav

import OutlineNav.Json.Decode

/-!
# Members of written objects

A record is written as an object of those of its members that are there (`Json.present`). Where no
key stands twice, a member is found under its key if it is there, and no other members matter
(`lookup?_present`), so that each decoder gets the member that was written for it
(`member?_present`).
-/

namespace OutlineNav.Json

theorem lookup?_of_not_mem {α : Type} {name : String} {entries : List (String × α)}
    (h : name ∉ entries.map (·.1)) : Named.lookup? name entries = none := by
  induction entries with
  | nil => rfl
  | cons e entries ih =>
      obtain ⟨k, w⟩ := e
      simp only [List.map_cons, List.mem_cons, not_or] at h
      rw [Named.lookup?, if_neg (Ne.symm h.1), ih h.2]

theorem lookup?_of_mem {α : Type} {name : String} {v : α} {entries : List (String × α)}
    (h : (entries.map (·.1)).Nodup) (hmem : (name, v) ∈ entries) :
    Named.lookup? name entries = some v := by
  induction entries with
  | nil => cases hmem
  | cons e entries ih =>
      obtain ⟨k, w⟩ := e
      obtain ⟨hk, hentries⟩ := List.nodup_cons.mp h
      rw [Named.lookup?]
      rcases List.mem_cons.mp hmem with heq | hmem
      · cases heq
        exact if_pos rfl
      · have hne : k ≠ name := fun heq => hk (heq ▸ List.mem_map.mpr ⟨_, hmem, rfl⟩)
        rw [if_neg hne, ih hentries hmem]

theorem lookup?_present {name : String} {ms : List (String × Option Json)}
    (h : (ms.map (·.1)).Nodup) :
    Named.lookup? name (present ms) = (Named.lookup? name ms).join := by
  induction ms with
  | nil => rfl
  | cons m ms ih =>
      obtain ⟨k, v?⟩ := m
      obtain ⟨hk, hms⟩ := List.nodup_cons.mp h
      have hrest := ih hms
      cases v? with
      | none =>
          have hskip : present ((k, none) :: ms) = present ms := rfl
          rw [hskip, hrest, Named.lookup?]
          split
          · rename_i hname
            rw [lookup?_of_not_mem (hname ▸ hk)]
            rfl
          · rfl
      | some v =>
          have hkeep : present ((k, some v) :: ms) = (k, v) :: present ms := rfl
          rw [hkeep, Named.lookup?, Named.lookup?, hrest]
          split <;> rfl

theorem isSome_lookup?_present {name : String} {ms : List (String × Option Json)}
    (h : (ms.map (·.1)).Nodup) :
    (Named.lookup? name (present ms)).isSome ↔ ∃ v, (name, some v) ∈ ms := by
  rw [lookup?_present h]
  constructor
  · intro hsome
    by_cases hname : name ∈ ms.map (·.1)
    · obtain ⟨⟨_, v?⟩, hmem, rfl⟩ := List.mem_map.mp hname
      rw [lookup?_of_mem h hmem, Option.join_some] at hsome
      obtain ⟨v, rfl⟩ := Option.isSome_iff_exists.mp hsome
      exact ⟨v, hmem⟩
    · rw [lookup?_of_not_mem hname] at hsome
      cases hsome
  · rintro ⟨v, hmem⟩
    rw [lookup?_of_mem h hmem]
    rfl

theorem map_fst_present_sublist (ms : List (String × Option Json)) :
    ((present ms).map (·.1)).Sublist (ms.map (·.1)) := by
  induction ms with
  | nil => exact .slnil
  | cons m ms ih =>
      obtain ⟨k, v?⟩ := m
      cases v? with
      | none => exact .cons k ih
      | some v => exact .cons_cons k ih

/-! ## Members read back -/

namespace Decoder

variable {α : Type} {key : String} {ms : List (String × Option Json)}

theorem member?_present {v? : Option Json} (h : (ms.map (·.1)).Nodup) {i : Nat}
    (hi : ms[i]? = some (key, v?)) (d : Decoder α) :
    member? d key (present ms) = v?.mapM d := by
  rw [member?, lookup?_present h, lookup?_of_mem h (List.mem_of_getElem? hi),
    Option.join_some]
  cases v? <;> rfl

/-- A member that is there and is read as `a`. -/
theorem member?_present_some {v : Json} {d : Decoder α} {a : α} (h : (ms.map (·.1)).Nodup) {i : Nat}
    (hi : ms[i]? = some (key, some v)) (hv : d v = .ok a) :
    member? d key (present ms) = .ok (some a) := by
  rw [member?_present h hi, Option.mapM_some, hv]
  rfl

theorem items_map {β : Type} {d : Decoder β} {write : β → Json} (h : ∀ b, d (write b) = .ok b)
    (bs : List β) : items d (bs.map write) = .ok bs := by
  induction bs with
  | nil => rfl
  | cons b bs ih =>
      rw [List.map_cons, items, h, ih]
      rfl

end Decoder

end OutlineNav.Json

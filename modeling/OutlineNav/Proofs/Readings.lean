import OutlineNav.Json.Decode

/-!
# Successful readings

What a reading that succeeded has read. A sequence of steps succeeds if and only if each step does
(`bind_eq_ok_iff`), which takes a decoder apart into its fields. A field of a record is a member of
an object or an item of an array (`field?`), and what was read for it was read from the value that
stands there (`Json.Reads`).
-/

namespace Except

variable {ε α β : Type}

theorem bind_eq_ok_iff {x : Except ε α} {f : α → Except ε β} {b : β} :
    (x >>= f) = .ok b ↔ ∃ a, x = .ok a ∧ f a = .ok b := by
  cases x with
  | error e => exact ⟨nofun, fun ⟨_, h, _⟩ => nomatch h⟩
  | ok a => exact ⟨fun h => ⟨a, rfl, h⟩, fun ⟨_, ha, h⟩ => by cases ha; exact h⟩

theorem map_eq_ok_iff {x : Except ε α} {f : α → β} {b : β} :
    x.map f = .ok b ↔ ∃ a, x = .ok a ∧ f a = b := by
  cases x with
  | error e => exact ⟨nofun, fun ⟨_, h, _⟩ => nomatch h⟩
  | ok a => simp [Except.map]

end Except

namespace OutlineNav.Json

/-! ## Fields of records -/

/-- The field of a record in either of its forms: a member of an object, or an item of an array. -/
def field? (key : String) (index : Nat) : Json → Option Json
  | .obj ms => Named.lookup? key ms
  | .arr vs => vs[index]?
  | _ => none

/-- The field of a record is there, and reads as `a`. -/
def Reads {α : Type} (d : Decoder α) (key : String) (index : Nat) (v : Json) (a : α) : Prop :=
  ∃ w, v.field? key index = some w ∧ d w = .ok a

namespace Decoder

variable {α : Type} {d : Decoder α} {key : String} {ms : List (String × Json)} {vs : List Json}

theorem required_eq_ok {a? : Option α} {a : α} (h : required key a? = .ok a) : a? = some a := by
  cases a? with
  | none => cases h
  | some b => cases h; rfl

theorem lookup?_of_member? {a : α} (h : member? d key ms = .ok (some a)) :
    ∃ w, Named.lookup? key ms = some w ∧ d w = .ok a := by
  rw [member?] at h
  cases hw : Named.lookup? key ms with
  | none => rw [hw] at h; cases h
  | some w =>
      rw [hw] at h
      obtain ⟨b, hb, heq⟩ := Except.map_eq_ok_iff.mp h
      cases heq
      exact ⟨w, rfl, hb⟩

theorem getElem?_of_item {name : String} {fields index : Nat} {a : α}
    (h : item d name fields index vs = .ok a) : ∃ w, vs[index]? = some w ∧ d w = .ok a := by
  rw [item] at h
  cases hw : vs[index]? with
  | none => rw [hw] at h; cases h
  | some w => rw [hw] at h; exact ⟨w, rfl, h⟩

theorem getElem?_of_itemOr {default a : α} {index : Nat} (h : itemOr default d index vs = .ok a) :
    a = default ∨ ∃ w, vs[index]? = some w ∧ d w = .ok a := by
  rw [itemOr] at h
  cases hw : vs[index]? with
  | none => rw [hw] at h; cases h; exact .inl rfl
  | some w => rw [hw] at h; exact .inr ⟨w, rfl, h⟩

/-- Every item of a list was read from one of the values. -/
theorem exists_of_mem_items {as : List α} (h : items d vs = .ok as) {a : α} (ha : a ∈ as) :
    ∃ v ∈ vs, d v = .ok a := by
  induction vs generalizing as with
  | nil => cases h; cases ha
  | cons v vs ih =>
      rw [items] at h
      obtain ⟨b, hb, h⟩ := Except.bind_eq_ok_iff.mp h
      obtain ⟨bs, hbs, h⟩ := Except.bind_eq_ok_iff.mp h
      cases h
      rcases List.mem_cons.mp ha with rfl | ha
      · exact ⟨v, List.mem_cons_self, hb⟩
      · obtain ⟨w, hw, hread⟩ := ih hbs ha
        exact ⟨w, List.mem_cons_of_mem v hw, hread⟩

end Decoder

end OutlineNav.Json

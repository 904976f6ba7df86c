import OutlineNav.Proofs.Readings
import OutlineNav.Proofs.SymbolRecords
import OutlineNav.Provider.Results

/-!
# Where symbols were read from

A symbol of a tree was read from an entry of it, together with its places: the entry is one of the
values of the list or a child of an entry (`IsEntry`), as its reading is taken apart into its fields
(`Symbol.ReadFrom`) and its children again into theirs (`Symbol.exists_entry`). An entry of a flat
list has its range inside its place, unless that is left out (`PlaceInfo.reads_range`). Together
these are the ranges that a reply tells (`TellsRange`).
-/

namespace OutlineNav

open Json
open Json.Decoder

namespace Symbol

variable {form : SymbolForm} {v : Json} {s : Symbol}

/-- Where the places and the children of a symbol were read from. -/
structure ReadFrom (form : SymbolForm) (v : Json) (s : Symbol) : Prop where
  range : v.Reads Range.decode "range" 3 s.range
  selectionRange : v.Reads Range.decode "selectionRange" 4 s.selectionRange
  children : s.children = [] ∨
    ∃ ws, v.field? "children" 5 = some (.arr ws) ∧ readForest form ws = .ok s.children

theorem eq_arr_of_readChildren {children : List Symbol} (h : readChildren form v = .ok children) :
    children = [] ∨ ∃ ws, v = .arr ws ∧ readForest form ws = .ok children := by
  rw [readChildren.eq_def] at h
  split at h
  · exact .inr ⟨_, rfl, h⟩
  · split at h <;> cases h
    exact .inl rfl

theorem childrenItem_eq (form : SymbolForm) (index : Nat) (vs : List Json) :
    childrenItem form index vs = vs[index]?.map (readChildren form) := by
  induction vs generalizing index with
  | nil => rw [childrenItem]; rfl
  | cons v vs ih =>
      cases index with
      | zero => rfl
      | succ index => rw [childrenItem, ih]; rfl

theorem readFrom_of_ofMembers {ms : List (String × Json)}
    (h : ofMembers form (childrenMember form ms) ms = .ok s) : ReadFrom form (.obj ms) s := by
  simp only [ofMembers, Except.bind_eq_ok_iff] at h
  obtain ⟨children, hchildren, _, -, _, -, _, -, range?, hrange, selection?, hselection, _, -, _, -,
    range, hrange', selection, hselection', hs⟩ := h
  obtain rfl := required_eq_ok hrange'
  obtain rfl := required_eq_ok hselection'
  cases hs
  refine ⟨lookup?_of_member? hrange, lookup?_of_member? hselection, ?_⟩
  rw [childrenMember_eq] at hchildren
  obtain ⟨children?, hread, rfl⟩ := Except.map_eq_ok_iff.mp hchildren
  cases children? with
  | none => exact .inl rfl
  | some children =>
      obtain ⟨w, hw, hread⟩ := lookup?_of_member? hread
      obtain hnil | ⟨ws, rfl, hread⟩ := eq_arr_of_readChildren hread
      · exact .inl hnil
      · exact .inr ⟨ws, hw, hread⟩

/-- The steps in which the items of a symbol are read. -/
theorem ofItems_eq (form : SymbolForm) (children? : Option (Except DecodeError (List Symbol)))
    (vs : List Json) : ofItems form children? vs =
      (item string form.name 6 0 vs >>= fun name =>
        (if form.nullable then item form.detail form.name 6 1 vs
          else itemOr "" form.detail 1 vs) >>= fun detail =>
        item form.kind form.name 6 2 vs >>= fun kind =>
        item Range.decode form.name 6 3 vs >>= fun range =>
        item Range.decode form.name 6 4 vs >>= fun selectionRange =>
        children?.getD (if form.nullable then .error (.invalidLength 5 (recordName form.name 6))
          else .ok []) >>= fun children =>
        noMore 6 vs >>= fun _ => .ok ⟨name, detail, kind, range, selectionRange, children⟩) := by
  obtain ⟨_, _, nullable⟩ := form
  cases nullable <;> cases children? <;> rfl

theorem readFrom_of_ofItems {vs : List Json}
    (h : ofItems form (childrenItem form 5 vs) vs = .ok s) : ReadFrom form (.arr vs) s := by
  simp only [ofItems_eq, Except.bind_eq_ok_iff] at h
  obtain ⟨_, -, _, -, _, -, range, hrange, selection, hselection, children, hchildren, _, -, hs⟩ :=
    h
  cases hs
  refine ⟨getElem?_of_item hrange, getElem?_of_item hselection, ?_⟩
  rw [childrenItem_eq] at hchildren
  cases hw : vs[5]? with
  | none =>
      rw [hw] at hchildren
      refine .inl ?_
      split at hchildren <;> cases hchildren
      rfl
  | some w =>
      rw [hw] at hchildren
      obtain hnil | ⟨ws, rfl, hread⟩ := eq_arr_of_readChildren hchildren
      · exact .inl hnil
      · exact .inr ⟨ws, hw, hread⟩

theorem readFrom_of_readTree (h : readTree form v = .ok s) : ReadFrom form v s := by
  cases v with
  | obj ms => exact readFrom_of_ofMembers h
  | arr vs => exact readFrom_of_ofItems h
  | _ => cases h

end Symbol

/-! ## Entries of trees -/

/-- An entry of a tree: one of the values, or a child of an entry. -/
inductive IsEntry (vs : List Json) : Json → Prop
  | root {v : Json} : v ∈ vs → IsEntry vs v
  | child {v w : Json} {ws : List Json} :
    IsEntry vs v → v.field? "children" 5 = some (.arr ws) → w ∈ ws → IsEntry vs w

theorem IsEntry.mono {vs us : List Json} (hsub : ∀ v ∈ vs, IsEntry us v) {w : Json}
    (h : IsEntry vs w) : IsEntry us w := by
  induction h with
  | root hv => exact hsub _ hv
  | child _ hws hw ih => exact .child ih hws hw

/-- Both places of every symbol of a tree were read from one entry. -/
theorem Symbol.exists_entry (form : SymbolForm) (forest : List Symbol) :
    ∀ vs, readForest form vs = .ok forest → ∀ s ∈ flatten forest, ∃ v, IsEntry vs v ∧
      v.Reads Range.decode "range" 3 s.range ∧
      v.Reads Range.decode "selectionRange" 4 s.selectionRange := by
  induction forest using forest_induction with
  | nil => intro vs h s hs; cases hs
  | cons t rest ihchildren ihrest =>
      intro vs h s hs
      cases vs with
      | nil => cases h
      | cons v vs =>
          simp only [readForest, Except.bind_eq_ok_iff] at h
          obtain ⟨t', ht, rest', hrest, heq⟩ := h
          cases heq
          have hread := readFrom_of_readTree ht
          rw [flatten, preorder_eq, List.mem_append, List.mem_cons] at hs
          rcases hs with (rfl | hs) | hs
          · exact ⟨v, .root List.mem_cons_self, hread.range, hread.selectionRange⟩
          · obtain hnil | ⟨ws, hws, hchildren⟩ := hread.children
            · rw [hnil] at hs
              cases hs
            · obtain ⟨w, hw, hplaces⟩ := ihchildren ws hchildren s hs
              exact ⟨w, hw.mono fun u hu => .child (.root List.mem_cons_self) hws hu, hplaces⟩
          · obtain ⟨w, hw, hplaces⟩ := ihrest vs hrest s hs
            exact ⟨w, hw.mono fun u hu => .root (List.mem_cons_of_mem v hu), hplaces⟩

/-! ## Entries of flat lists -/

/-- A place without a range has the default one. -/
theorem PlaceInfo.reads_range {v : Json} {p : PlaceInfo} (h : decode v = .ok p) :
    p.range = default ∨ v.Reads Range.decode "range" 1 p.range := by
  cases v with
  | obj ms =>
      simp only [decode, record, Except.bind_eq_ok_iff] at h
      obtain ⟨range?, hrange, _, -, _, -, hp⟩ := h
      cases hp
      cases range? with
      | none => exact .inl rfl
      | some range => exact .inr (lookup?_of_member? hrange)
  | arr vs =>
      simp only [decode, record, Except.bind_eq_ok_iff] at h
      obtain ⟨_, -, range, hrange, _, -, hp⟩ := h
      cases hp
      exact getElem?_of_itemOr hrange
  | _ => cases h

theorem FlatSymbol.reads_place {v : Json} {f : FlatSymbol} (h : decode v = .ok f) :
    v.Reads PlaceInfo.decode "location" 2 f.place := by
  cases v with
  | obj ms =>
      simp only [decode, record, Except.bind_eq_ok_iff] at h
      obtain ⟨_, -, _, -, place?, hplace, _, -, _, -, _, -, place, hplace', hf⟩ := h
      obtain rfl := required_eq_ok hplace'
      cases hf
      exact lookup?_of_member? hplace
  | arr vs =>
      simp only [decode, record, Except.bind_eq_ok_iff] at h
      obtain ⟨_, -, _, -, place, hplace, _, -, _, -, hf⟩ := h
      cases hf
      exact getElem?_of_item hplace
  | _ => cases h

/-! ## Ranges in replies -/

/-- The ranges that a reply tells: both ranges of every entry of a tree, and the range in the place
of every entry of a flat list. -/
inductive TellsRange : Json → Range → Prop
  | range {vs : List Json} {v : Json} {r : Range} : isFlat vs = false → IsEntry vs v →
    v.Reads Range.decode "range" 3 r → TellsRange (.arr vs) r
  | selectionRange {vs : List Json} {v : Json} {r : Range} : isFlat vs = false → IsEntry vs v →
    v.Reads Range.decode "selectionRange" 4 r → TellsRange (.arr vs) r
  | place {vs : List Json} {v w : Json} {r : Range} : isFlat vs = true → v ∈ vs →
    v.field? "location" 2 = some w → w.Reads Range.decode "range" 1 r → TellsRange (.arr vs) r

/-- What a reply that tells symbols was read as. -/
theorem decodeSymbols_eq_some {result : Json} {forest : List Symbol}
    (h : decodeSymbols result = .ok (some forest)) : ∃ vs, result = .arr vs ∧
      (isFlat vs = true ∧ (∃ flat, items FlatSymbol.decode vs = .ok flat ∧
          forest = flat.map FlatSymbol.symbol) ∨
        isFlat vs = false ∧ Symbol.readForest .server vs = .ok forest) := by
  cases result with
  | arr vs =>
      refine ⟨vs, rfl, ?_⟩
      rw [decodeSymbols] at h
      cases hflat : isFlat vs with
      | true =>
          rw [if_pos hflat] at h
          split at h <;> cases h
          rename_i flat hread
          exact .inl ⟨rfl, flat, hread, rfl⟩
      | false =>
          rw [if_neg (by rw [hflat]; nofun)] at h
          split at h <;> cases h
          rename_i hread
          exact .inr ⟨rfl, hread⟩
  | _ => cases h

end OutlineNav

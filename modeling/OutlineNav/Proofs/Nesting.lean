import OutlineNav.Proofs.ValueTexts

/-!
# Values that nest too deep

A value can be written however deep it nests, but the reader does not go deeper than its limit. What
nests less is read back (`gives_compact`); here is the other half: off the text of a value that
nests deeper nothing is read (`isWritable_of_gives`). The induction is the one of `gives_compact`,
and it needs that result for the items and members in front of the one that is too deep: what is
read off their texts says where the next one begins.
-/

namespace OutlineNav.Json

open Reader

variable {s t u x rest : List Char}

theorem Gives.unique {α : Type} {n : Nat} {r : Reader α n} {a b : α} (h : Gives r a t)
    (h' : Gives r b u) : a = b ∧ t = u := by
  obtain ⟨_, rfl⟩ := h
  exact gives_ok.mp h'

/-! ## From a whole to its parts -/

section

variable {d depth : Nat} {v w : Json} {key : String}

theorem array_of_gives (h : Gives (readValue depth ('[' :: s)) w u) :
    1 < depth ∧ ∃ ws, Gives (readItems (depth - 1) true s) ws u := by
  obtain ⟨hdepth, ws, hws, -⟩ := (gives_readValue_iff (skipSpace_of_head (by decide))).mp h
  exact ⟨hdepth, ws, hws⟩

theorem object_of_gives (h : Gives (readValue depth ('\x7b' :: s)) w u) :
    1 < depth ∧ ∃ ms, GivesMembers (readMembers (depth - 1) true s) ms u := by
  obtain ⟨hdepth, ms, hms, -⟩ := (gives_readValue_iff (skipSpace_of_head (by decide))).mp h
  exact ⟨hdepth, ms, hms⟩

/-- Where one limit lets a value be read, blanks in front of it make no difference to another. -/
theorem gives_of_skipSpace (hv : Gives (readValue d s) v t)
    (h : Gives (readValue depth (skipSpace s)) w u) : Gives (readValue depth s) w u := by
  obtain ⟨c, s', hstart, -⟩ := exists_start hv
  have hagain := (skipSpace_skipSpace s).trans hstart
  exact (gives_readValue_iff hstart).mpr ((gives_readValue_iff hagain).mp h)

theorem first_of_gives_readItems {ws : List Json} (hv : Gives (readValue d s) v t)
    (h : Gives (readItems depth true s) ws rest) :
    ∃ w u ws', Gives (readValue depth s) w u ∧ Gives (readItems depth false u) ws' rest := by
  obtain ⟨c, s', hstart, hc⟩ := exists_start hv
  have hopen : ∀ r, skipSpace s ≠ ']' :: r :=
    fun r hr => hc (List.cons.inj (hstart.symm.trans hr)).1
  obtain ⟨w, u, ws', hw, hws, -⟩ :=
    (gives_readItems_iff hopen (gives_itemStart_first hstart)).mp h
  exact ⟨w, u, ws', gives_of_skipSpace hv hw, hws⟩

theorem next_of_gives_readItems {ws : List Json} (hv : Gives (readValue d s) v t)
    (h : Gives (readItems depth false (',' :: s)) ws rest) :
    ∃ w u ws', Gives (readValue depth s) w u ∧ Gives (readItems depth false u) ws' rest := by
  obtain ⟨c, s', hstart, hc⟩ := exists_start hv
  have hopen : ∀ r, skipSpace (',' :: s) ≠ ']' :: r := by
    intro r hr
    cases (skipSpace_comma s).symm.trans hr
  obtain ⟨w, u, ws', hw, hws, -⟩ :=
    (gives_readItems_iff hopen (gives_itemStart_next hstart hc)).mp h
  exact ⟨w, u, ws', gives_of_skipSpace hv hw, hws⟩

theorem first_of_gives_readMembers {ms : List (String × Json)}
    (hkey : Gives (readString [] s) key (':' :: x))
    (h : GivesMembers (readMembers depth true ('"' :: s)) ms rest) :
    ∃ w u ms', Gives (readValue depth x) w u ∧
      GivesMembers (readMembers depth false u) ms' rest := by
  have hopen : ∀ r, skipSpace ('"' :: s) ≠ '\x7d' :: r := by
    intro r hr
    cases (skipSpace_quote s).symm.trans hr
  obtain ⟨w, u, ms', hw, hms, -⟩ :=
    (gives_readMembers_iff hopen gives_keyStart_first hkey gives_colonEnd).mp h
  exact ⟨w, u, ms', hw, hms⟩

theorem next_of_gives_readMembers {ms : List (String × Json)}
    (hkey : Gives (readString [] s) key (':' :: x))
    (h : GivesMembers (readMembers depth false (',' :: '"' :: s)) ms rest) :
    ∃ w u ms', Gives (readValue depth x) w u ∧
      GivesMembers (readMembers depth false u) ms' rest := by
  have hopen : ∀ r, skipSpace (',' :: '"' :: s) ≠ '\x7d' :: r := by
    intro r hr
    cases (skipSpace_comma _).symm.trans hr
  obtain ⟨w, u, ms', hw, hms, -⟩ :=
    (gives_readMembers_iff hopen gives_keyStart_next hkey gives_colonEnd).mp h
  exact ⟨w, u, ms', hw, hms⟩

end

/-! ## Values -/

mutual

/-- A value that can be written and read at all is read only where it does not nest too deep. -/
theorem isWritable_of_gives (v : Json) {d depth : Nat} {t u : List Char} {w : Json}
    (h : v.IsWritable d) (hread : Gives (readValue depth (v.compact.toList ++ t)) w u) :
    v.IsWritable depth := by
  cases v with
  | null => trivial
  | bool b => trivial
  | int n => exact h
  | float f => exact h
  | str text => trivial
  | arr items =>
      cases items with
      | nil => exact ⟨(array_of_gives hread).1, trivial⟩
      | cons v vs =>
          have htext : (compact (.arr (v :: vs))).toList ++ t =
              '[' :: (v.compact.toList ++ (furtherItems vs ++ ']' :: t)) := by
            simp [compact, toList_compactItems_cons]
          obtain ⟨hdepth, ws, hws⟩ := array_of_gives (htext ▸ hread)
          have hstops := stops_furtherItems vs (t := t)
          obtain ⟨w, u', ws', hw, hws'⟩ :=
            first_of_gives_readItems (gives_compact v h.2.1 hstops) hws
          have hv := isWritable_of_gives v h.2.1 hw
          obtain ⟨-, rfl⟩ := (gives_compact v hv hstops).unique hw
          exact ⟨hdepth, hv, areItemsWritable_of_gives vs h.2.2 hws'⟩
  | obj ms =>
      cases ms with
      | nil => exact ⟨(object_of_gives hread).1, trivial⟩
      | cons m ms =>
          obtain ⟨k, v⟩ := m
          obtain ⟨s, hs, hkey⟩ := gives_readString_quote k
            (t := ':' :: (v.compact.toList ++ (furtherMembers ms ++ '\x7d' :: t)))
          have htext : (compact (.obj ((k, v) :: ms))).toList ++ t = '\x7b' :: '"' :: s := by
            simp [compact, toList_compactMembers_cons, ← hs]
          obtain ⟨hdepth, ws, hws⟩ := object_of_gives (htext ▸ hread)
          have hstops := stops_furtherMembers ms (t := t)
          obtain ⟨w, u', ws', hw, hws'⟩ := first_of_gives_readMembers hkey hws
          have hv := isWritable_of_gives v h.2.1 hw
          obtain ⟨-, rfl⟩ := (gives_compact v hv hstops).unique hw
          exact ⟨hdepth, hv, areMembersWritable_of_gives ms h.2.2 hws'⟩

theorem areItemsWritable_of_gives (vs : List Json) {d depth : Nat} {t u : List Char}
    {ws : List Json} (h : AreItemsWritable d vs)
    (hread : Gives (readItems depth false (furtherItems vs ++ ']' :: t)) ws u) :
    AreItemsWritable depth vs := by
  cases vs with
  | nil => trivial
  | cons v vs =>
      rw [furtherItems, List.cons_append, List.append_assoc] at hread
      have hstops := stops_furtherItems vs (t := t)
      obtain ⟨w, u', ws', hw, hws'⟩ := next_of_gives_readItems (gives_compact v h.1 hstops) hread
      have hv := isWritable_of_gives v h.1 hw
      obtain ⟨-, rfl⟩ := (gives_compact v hv hstops).unique hw
      exact ⟨hv, areItemsWritable_of_gives vs h.2 hws'⟩

theorem areMembersWritable_of_gives (ms : List (String × Json)) {d depth : Nat}
    {t u : List Char} {ws : List (String × Json)} (h : AreMembersWritable d ms)
    (hread : GivesMembers (readMembers depth false (furtherMembers ms ++ '\x7d' :: t)) ws u) :
    AreMembersWritable depth ms := by
  cases ms with
  | nil => trivial
  | cons m ms =>
      obtain ⟨k, v⟩ := m
      obtain ⟨s, hs, hkey⟩ := gives_readString_quote k
        (t := ':' :: (v.compact.toList ++ (furtherMembers ms ++ '\x7d' :: t)))
      have htext : furtherMembers ((k, v) :: ms) ++ '\x7d' :: t = ',' :: '"' :: s := by
        simp [furtherMembers, ← hs]
      have hstops := stops_furtherMembers ms (t := t)
      obtain ⟨w, u', ws', hw, hws'⟩ := next_of_gives_readMembers hkey (htext ▸ hread)
      have hv := isWritable_of_gives v h.1 hw
      obtain ⟨-, rfl⟩ := (gives_compact v hv hstops).unique hw
      exact ⟨hv, areMembersWritable_of_gives ms h.2 hws'⟩

end

/-- The text of a value that nests too deep is not read. -/
theorem exists_parse_error {v : Json} {d : Nat} (h : v.IsWritable d)
    (hdeep : ¬ v.IsWritable depthLimit) : ∃ e, parse v.compact.toList = .error e := by
  rw [parse]
  cases hread : readValue depthLimit v.compact.toList with
  | error e => exact ⟨e, rfl⟩
  | ok p =>
      refine absurd (isWritable_of_gives v h (t := []) (w := p.value) (u := p.rest) ?_) hdeep
      rw [List.append_nil, hread]
      exact gives_ok.mpr ⟨rfl, rfl⟩

/-- Arrays around an empty one. -/
def nested : Nat → Json
  | 0 => .arr []
  | n + 1 => .arr [nested n]

theorem isWritable_nested {n depth : Nat} : (nested n).IsWritable depth ↔ n + 1 < depth := by
  induction n generalizing depth with
  | zero => simp [nested, IsWritable, AreItemsWritable]
  | succ n ih =>
      simp only [nested, IsWritable, AreItemsWritable, ih, and_true]
      omega

theorem ordered_nested (n : Nat) : (nested n).ordered = nested n := by
  induction n with
  | zero => rfl
  | succ n ih => rw [nested, ordered, orderedItems, orderedItems, ih]

theorem length_compact_nested (n : Nat) :
    (nested n).compact.toList.length = 2 * (n + 1) := by
  induction n with
  | zero => rfl
  | succ n ih =>
      simp only [nested, compact, compactItems, String.toList_append, List.length_append, ih]
      simp
      omega

end OutlineNav.Json

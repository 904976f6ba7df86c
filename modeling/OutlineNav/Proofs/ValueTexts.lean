import OutlineNav.Proofs.Grammar

/-!
# Values and their texts

A value that is written without blanks is read back as itself, but for the order of the members of
its objects (`parse_compact`). A value is read in front of any text that cannot belong to a number,
by induction on the value: behind an item stands a comma or the end of its array, which end a
number.
-/

namespace OutlineNav.Json

open Reader

variable {s t : List Char}

/-! ## What a text can carry -/

mutual

/-- The value with the members of its objects in order, each key once. -/
def ordered : Json → Json
  | .arr items => .arr (orderedItems items)
  | .obj ms => .obj (sortMembers (orderedMembers ms))
  | .null => .null
  | .bool b => .bool b
  | .int n => .int n
  | .float d => .float d
  | .str s => .str s

def orderedItems : List Json → List Json
  | [] => []
  | v :: rest => ordered v :: orderedItems rest

def orderedMembers : List (String × Json) → List (String × Json)
  | [] => []
  | (k, v) :: rest => (k, ordered v) :: orderedMembers rest

end

mutual

/-- A text can carry the value: its integers have sixty-four bits, its other numbers are read back
from their texts, and it nests less than `depth` levels deep. -/
def IsWritable (depth : Nat) : Json → Prop
  | .int n => -0x8000000000000000 ≤ n ∧ n < UInt64.size
  | .float d => Gives (readValue 1 (floatText d).toList) (.float d) []
  | .arr items => 1 < depth ∧ AreItemsWritable (depth - 1) items
  | .obj ms => 1 < depth ∧ AreMembersWritable (depth - 1) ms
  | .null | .bool _ | .str _ => True

def AreItemsWritable (depth : Nat) : List Json → Prop
  | [] => True
  | v :: rest => IsWritable depth v ∧ AreItemsWritable depth rest

def AreMembersWritable (depth : Nat) : List (String × Json) → Prop
  | [] => True
  | (_, v) :: rest => IsWritable depth v ∧ AreMembersWritable depth rest

end

/-! ## Values in front of other texts -/

theorem stops_nil : Stops [] := by
  intro c hc
  cases hc

theorem stops_cons {c : Char} (hc : Text.digit? c = none ∧ c ≠ '.' ∧ c ≠ 'e' ∧ c ≠ 'E') :
    Stops (c :: t) := by
  intro d hd
  obtain rfl : c = d := by simpa using hd
  exact hc

section

variable {depth : Nat}

theorem gives_readWord {word : List Char} (v : Json) :
    Gives (readWord v word (word ++ t)) v t := by
  induction word with
  | nil => simp [readWord]
  | cons c word ih => simpa [readWord] using ih

theorem eq_of_gives_readWord {word : List Char} {v v' : Json}
    (h : Gives (readWord v word s) v' t) : v = v' := by
  induction word generalizing s with
  | nil => exact (gives_done.mp h).1
  | cons c word ih =>
      cases s with
      | nil => simp [readWord] at h
      | cons d s =>
          rw [readWord] at h
          split at h
          · exact ih (gives_widen.mp h)
          · simp at h

theorem gives_string {text : String} (h : Gives (readString [] s) text t) :
    Gives (readValue depth ('"' :: s)) (.str text) t :=
  (gives_readValue_iff (skipSpace_of_head (by decide))).mpr ⟨text, h, rfl⟩

theorem gives_array {vs : List Json} (hdepth : 1 < depth)
    (h : Gives (readItems (depth - 1) true s) vs t) :
    Gives (readValue depth ('[' :: s)) (.arr vs) t :=
  (gives_readValue_iff (skipSpace_of_head (by decide))).mpr ⟨hdepth, vs, h, rfl⟩

theorem gives_object {ms : List (String × Json)} (hdepth : 1 < depth)
    (h : GivesMembers (readMembers (depth - 1) true s) ms t) :
    Gives (readValue depth ('\x7b' :: s)) (.obj (sortMembers ms)) t :=
  (gives_readValue_iff (skipSpace_of_head (by decide))).mpr ⟨hdepth, ms, h, rfl⟩

theorem gives_number {d : Nat} {v : Json} (hd : d < 10) (h : Gives (readNumber false d s) v t) :
    Gives (readValue depth (Nat.digitChar d :: s)) v t := by
  have hdigit := Text.digit?_digitChar hd
  have hne (c : Char) (hc : Text.digit? c = none) : Nat.digitChar d ≠ c := by
    rintro rfl
    cases hc.symm.trans hdigit
  have hspace : isSpace (Nat.digitChar d) = false := by
    simp only [isSpace, hne ' ' (by decide), hne '\n' (by decide), hne '\t' (by decide),
      hne '\r' (by decide), Bool.or_eq_false_iff, beq_eq_false_iff_ne, ne_eq,
      not_false_eq_true, and_self]
  rw [gives_readValue_iff (skipSpace_of_head hspace), if_neg (hne _ (by decide)),
    if_neg (hne _ (by decide)), if_neg (hne _ (by decide)), if_neg (hne _ (by decide)),
    if_neg (hne _ (by decide)), if_neg (hne _ (by decide)), if_neg (hne _ (by decide))]
  exact ⟨d, hdigit, h⟩

theorem gives_int {n : Int} (h : (Json.int n).IsWritable depth) (ht : Stops t) :
    Gives (readValue depth ((toString n).toList ++ t)) (.int n) t := by
  obtain ⟨hlow, hhigh⟩ := h
  cases n with
  | ofNat n =>
      obtain ⟨d, ds, hd, hds, hread⟩ :=
        @exists_gives_readNumber false t n (Int.ofNat_lt.mp hhigh) ht
      have htext : (toString (Int.ofNat n)).toList = Nat.digitChar d :: ds :=
        (Text.toList_toString n).trans hds
      rw [htext]
      exact gives_number hd hread
  | negSucc n =>
      have hsize : n + 1 ≤ 0x8000000000000000 := by omega
      obtain ⟨d, ds, hd, hds, hread⟩ :=
        @exists_gives_readNumber true t (n + 1) (Nat.lt_of_le_of_lt hsize (by decide)) ht
      have htext : (toString (Int.negSucc n)).toList = '-' :: Nat.digitChar d :: ds := by
        rw [← hds, ← Text.toList_toString (n + 1)]
        exact String.toList_append
      have hvalue : integerValue true (n + 1) = .int (Int.negSucc n) := by
        rw [integerValue, if_pos rfl, if_neg (by omega)]
        rfl
      rw [htext]
      refine (gives_readValue_iff (skipSpace_of_head (by decide))).mpr ?_
      show Gives (readNegative (Nat.digitChar d :: (ds ++ t))) (.int (Int.negSucc n)) t
      rw [readNegative]
      simpa [Text.digit?_digitChar hd, hvalue] using hread

theorem gives_float {d : Double} (h : (Json.float d).IsWritable depth) (ht : Stops t) :
    Gives (readValue depth ((floatText d).toList ++ t)) (.float d) t := by
  rw [IsWritable] at h
  obtain ⟨c, s', hstart, -⟩ := exists_start h
  have hstart' : skipSpace ((floatText d).toList ++ t) = c :: (s' ++ t) := by
    rw [skipSpace] at hstart
    rw [skipSpace, List.dropWhile_append, hstart]
    rfl
  have hread := (gives_readValue_iff hstart).mp h
  rw [gives_readValue_iff hstart']
  -- Nothing but a sign and a digit starts a text that gives a floating-point number.
  split at hread
  · cases eq_of_gives_readWord hread
  split at hread
  · cases eq_of_gives_readWord hread
  split at hread
  · cases eq_of_gives_readWord hread
  rw [if_neg ‹¬ c = 'n'›, if_neg ‹¬ c = 't'›, if_neg ‹¬ c = 'f'›]
  split at hread
  · rw [if_pos ‹c = '-'›]
    exact readNegative_local s' t _ hread ht
  rw [if_neg ‹¬ c = '-'›]
  split at hread
  · obtain ⟨text, -, heq⟩ := hread
    cases heq
  rw [if_neg ‹¬ c = '"'›]
  split at hread
  · exact absurd hread.1 (by decide)
  rw [if_neg ‹¬ c = '['›]
  split at hread
  · exact absurd hread.1 (by decide)
  rw [if_neg ‹¬ c = '\x7b'›]
  obtain ⟨e, he, hread⟩ := hread
  exact ⟨e, he, readNumber_local e s' t _ hread ht⟩

end

/-! ### Items and members behind the first -/

def furtherItems : List Json → List Char
  | [] => []
  | v :: vs => ',' :: (v.compact.toList ++ furtherItems vs)

def furtherMembers : List (String × Json) → List Char
  | [] => []
  | (k, v) :: ms => ',' :: ((quote k).toList ++ ':' :: (v.compact.toList ++ furtherMembers ms))

theorem toList_compactItems_cons (v : Json) (vs : List Json) :
    (compactItems (v :: vs)).toList = v.compact.toList ++ furtherItems vs := by
  induction vs generalizing v with
  | nil => simp [compactItems, furtherItems]
  | cons w vs ih => simp [compactItems, furtherItems, ih]

theorem toList_compactMembers_cons (k : String) (v : Json) (ms : List (String × Json)) :
    (compactMembers ((k, v) :: ms)).toList =
      (quote k).toList ++ ':' :: (v.compact.toList ++ furtherMembers ms) := by
  induction ms generalizing k v with
  | nil => simp [compactMembers, furtherMembers]
  | cons m ms ih =>
      obtain ⟨l, w⟩ := m
      simp [compactMembers, furtherMembers, ih]

theorem stops_furtherItems (vs : List Json) : Stops (furtherItems vs ++ ']' :: t) := by
  cases vs with
  | nil => exact stops_cons (by decide)
  | cons v vs => exact stops_cons (by decide)

theorem stops_furtherMembers (ms : List (String × Json)) :
    Stops (furtherMembers ms ++ '\x7d' :: t) := by
  cases ms with
  | nil => exact stops_cons (by decide)
  | cons m ms => exact stops_cons (by decide)

/-! ### Values -/

mutual

theorem gives_compact (v : Json) {depth : Nat} {t : List Char} (h : v.IsWritable depth)
    (ht : Stops t) : Gives (readValue depth (v.compact.toList ++ t)) v.ordered t := by
  cases v with
  | null =>
      refine (gives_readValue_iff (skipSpace_of_head (by decide))).mpr ?_
      exact gives_readWord .null
  | bool b =>
      cases b with
      | true =>
          refine (gives_readValue_iff (skipSpace_of_head (by decide))).mpr ?_
          exact gives_readWord (.bool true)
      | false =>
          refine (gives_readValue_iff (skipSpace_of_head (by decide))).mpr ?_
          exact gives_readWord (.bool false)
  | int n => exact gives_int h ht
  | float d => exact gives_float h ht
  | str text =>
      obtain ⟨s, hs, hread⟩ := gives_readString_quote text (t := t)
      rw [compact, hs]
      exact gives_string hread
  | arr items =>
      obtain ⟨hdepth, hitems⟩ := h
      cases items with
      | nil => exact gives_array hdepth gives_readItems_nil
      | cons v vs =>
          have hv := gives_compact v hitems.1 (stops_furtherItems vs (t := t))
          have hvs := gives_furtherItems vs hitems.2 (t := t)
          have htext : (compact (.arr (v :: vs))).toList ++ t =
              '[' :: (v.compact.toList ++ (furtherItems vs ++ ']' :: t)) := by
            simp [compact, toList_compactItems_cons]
          rw [htext]
          exact gives_array hdepth (gives_readItems_first hv hvs)
  | obj ms =>
      obtain ⟨hdepth, hms⟩ := h
      cases ms with
      | nil => exact gives_object hdepth gives_readMembers_nil
      | cons m ms =>
          obtain ⟨k, v⟩ := m
          have hv := gives_compact v hms.1 (stops_furtherMembers ms (t := t))
          have hms := gives_furtherMembers ms hms.2 (t := t)
          obtain ⟨s, hs, hkey⟩ := gives_readString_quote k
            (t := ':' :: (v.compact.toList ++ (furtherMembers ms ++ '\x7d' :: t)))
          have htext : (compact (.obj ((k, v) :: ms))).toList ++ t = '\x7b' :: '"' :: s := by
            simp [compact, toList_compactMembers_cons, ← hs]
          rw [htext]
          exact gives_object hdepth (gives_readMembers_first hkey hv hms)

theorem gives_furtherItems (vs : List Json) {depth : Nat} {t : List Char}
    (h : AreItemsWritable depth vs) :
    Gives (readItems depth false (furtherItems vs ++ ']' :: t)) (orderedItems vs) t := by
  cases vs with
  | nil => exact gives_readItems_nil
  | cons v vs =>
      have hv := gives_compact v h.1 (stops_furtherItems vs (t := t))
      have hvs := gives_furtherItems vs h.2 (t := t)
      rw [furtherItems, List.cons_append, List.append_assoc]
      exact gives_readItems_next hv hvs

theorem gives_furtherMembers (ms : List (String × Json)) {depth : Nat} {t : List Char}
    (h : AreMembersWritable depth ms) :
    GivesMembers (readMembers depth false (furtherMembers ms ++ '\x7d' :: t))
      (orderedMembers ms) t := by
  cases ms with
  | nil => exact gives_readMembers_nil
  | cons m ms =>
      obtain ⟨k, v⟩ := m
      have hv := gives_compact v h.1 (stops_furtherMembers ms (t := t))
      have hms := gives_furtherMembers ms h.2 (t := t)
      obtain ⟨s, hs, hkey⟩ := gives_readString_quote k
        (t := ':' :: (v.compact.toList ++ (furtherMembers ms ++ '\x7d' :: t)))
      have htext : furtherMembers ((k, v) :: ms) ++ '\x7d' :: t = ',' :: '"' :: s := by
        simp [furtherMembers, ← hs]
      rw [htext]
      exact gives_readMembers_next hkey hv hms

end

/-- What is written without blanks is read back, the members of objects in order. -/
theorem parse_compact {v : Json} (h : v.IsWritable depthLimit) :
    parse v.compact.toList = .ok v.ordered := by
  have hread := gives_compact v h stops_nil
  rw [List.append_nil] at hread
  obtain ⟨_, hread⟩ := hread
  rw [parse, hread]
  rfl

end OutlineNav.Json

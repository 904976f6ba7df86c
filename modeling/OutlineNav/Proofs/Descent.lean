import OutlineNav.Proofs.Landing

/-!
# How deep a search goes

The search for a position in an outline of any shape: its ranges may overlap, lie outside of their
owner's or end before they start. Every round scans one level, and the next round is about the
members of the last member that contains the position (`land_append_cons`), so that the rounds are
the recursion of `search`.

A round goes down only where there are members, and all members of a target lie deeper in the
outline than the target, even where excluded symbols stand in between (`levelHeight_members_lt`).
Hence there are no more rounds than the outline has levels of symbols: `landWithin` is the search
with a limit of rounds, and the depth of the outline is a limit that suffices
(`landWithin_eq_land`).
-/

namespace OutlineNav

/-! ## Heights -/

mutual

/-- The number of symbols on the longest way down from a symbol, itself included. -/
def Symbol.height : Symbol → Nat
  | ⟨_, _, _, _, _, children⟩ => forestHeight children + 1

/-- The number of symbols on the longest way down in a forest. -/
def Symbol.forestHeight : List Symbol → Nat
  | [] => 0
  | s :: rest => max s.height (forestHeight rest)

end

theorem Symbol.height_eq (s : Symbol) : s.height = forestHeight s.children + 1 := by
  cases s; rfl

/-- The depth of the deepest symbol; roots have depth zero. -/
def Outline.depth (o : Outline) : Nat := Symbol.forestHeight o.roots - 1

/-- The height of the highest member of a level. -/
def levelHeight : (level : List Located) → Nat
  | [] => 0
  | l :: rest => max l.symbol.height (levelHeight rest)

theorem levelHeight_append (a b : List Located) :
    levelHeight (a ++ b) = max (levelHeight a) (levelHeight b) := by
  induction a with
  | nil => exact (Nat.zero_max _).symm
  | cons l rest ih => rw [List.cons_append, levelHeight, levelHeight, ih, Nat.max_assoc]

theorem height_le_levelHeight {level : List Located} {l : Located} (h : l ∈ level) :
    l.symbol.height ≤ levelHeight level := by
  induction level with
  | nil => cases h
  | cons m rest ih =>
      rw [levelHeight]
      rcases List.mem_cons.mp h with rfl | h
      · exact Nat.le_max_left ..
      · exact Nat.le_trans (ih h) (Nat.le_max_right ..)

theorem levelHeight_pos {level : List Located} (h : level ≠ []) : 0 < levelHeight level := by
  obtain ⟨l, rest, rfl⟩ := List.exists_cons_of_ne_nil h
  have := height_le_levelHeight (List.mem_cons_self : l ∈ l :: rest)
  rw [Symbol.height_eq] at this
  omega

/-- Looking through excluded symbols does not make a level higher. -/
theorem levelHeight_navigableFrom_le (symbols : List Symbol) :
    ∀ (parent : SymbolPath) (index : Nat),
      levelHeight (navigableFrom parent index symbols) ≤ Symbol.forestHeight symbols := by
  induction symbols using Symbol.forest_induction with
  | nil => intro _ _; exact Nat.le_refl 0
  | cons s rest ihChildren ihRest =>
      intro parent index
      have hchildren := ihChildren (parent ++ [index]) 0
      have hrest := ihRest parent (index + 1)
      rw [navigableFrom, navigableAt_eq, levelHeight_append, Symbol.forestHeight]
      split
      · have hself : levelHeight [⟨parent ++ [index], s⟩] = max s.height 0 := rfl
        omega
      · rw [Symbol.height_eq]
        omega

theorem levelHeight_members_lt (l : Located) : levelHeight l.members < l.symbol.height := by
  have := levelHeight_navigableFrom_le l.symbol.children l.path 0
  rw [Located.members, navigable, Symbol.height_eq]
  omega

theorem Outline.levelHeight_topLevel_le (o : Outline) : levelHeight o.topLevel ≤ o.depth + 1 := by
  have := levelHeight_navigableFrom_le o.roots [] 0
  rw [Outline.topLevel, navigable, Outline.depth]
  omega

/-! ## Rounds of a search -/

/-- The search with a limit of rounds, each of which scans one level. -/
def landWithin (position : Position) :
    (rounds : Nat) → (owner : Option Located) → (level : List Located) → Option Landing
  | 0, _, _ => none
  | rounds + 1, owner, level =>
    let scan := Scan.run position owner level
    match scan.descent with
    | some l => landWithin position rounds (some l) l.members
    | none => some ⟨scan.parent, scan.current, level⟩

/-- What a scan goes on inside of is the last member that contains the position, and has members. -/
theorem Scan.of_descent_eq_some {position : Position} {owner : Option Located}
    {level : List Located} {l : Located} (h : (Scan.run position owner level).descent = some l) :
    lastContaining? position level = some l ∧ l.stops position = false := by
  obtain ⟨hnone, hsome⟩ := Scan.run_eq position owner level
  cases hlast : lastContaining? position level with
  | none => rw [hnone hlast] at h; cases h
  | some m =>
      obtain ⟨hstop, hgo⟩ := hsome m hlast
      cases hm : m.stops position with
      | true => rw [hstop hm] at h; cases h
      | false =>
          rw [hgo hm, Option.some.injEq] at h
          exact ⟨congrArg some h, h ▸ hm⟩

theorem Located.members_ne_nil_of_stops {l : Located} {position : Position}
    (h : l.stops position = false) : l.members ≠ [] :=
  List.isEmpty_eq_false_iff.mp (Bool.or_eq_false_iff.mp h).2

/-- As many rounds as the level is high are enough, and one round for a level without members. -/
theorem landWithin_eq_land {position : Position} {rounds : Nat} {owner : Option Located}
    {level : List Located} (hpos : 0 < rounds) (h : levelHeight level ≤ rounds) :
    landWithin position rounds owner level = some (land position owner level) := by
  induction rounds generalizing owner level with
  | zero => cases hpos
  | succ rounds ih =>
      rw [landWithin]
      cases hdescent : (Scan.run position owner level).descent with
      | none => exact congrArg some (land_of_descent_none hdescent).symm
      | some l =>
          -- the members of `l` are one level at least, and `l` is one more
          obtain ⟨-, hgo⟩ := Scan.of_descent_eq_some hdescent
          have hmembers := levelHeight_pos (Located.members_ne_nil_of_stops hgo)
          have hlt := levelHeight_members_lt l
          have hle := height_le_levelHeight (Scan.mem_of_descent_run hdescent)
          rw [land_of_descent_some hdescent]
          exact ih (by omega) (by omega)

/-- A search that ends within a limit of rounds tells what is near the position. -/
theorem resolve_of_landWithin {o : Outline} {position : Position} {landing : Landing}
    (h : landWithin position (o.depth + 1) none o.topLevel = some landing) :
    resolve o position = landing.nearest position := by
  rw [landWithin_eq_land (Nat.succ_pos _) o.levelHeight_topLevel_le, Option.some.injEq] at h
  rw [resolve, h]

/-! ## Overlapping members -/

/-- The members in front of the last one that contains the position do not matter. -/
theorem land_append_cons {position : Position} {before after : List Located} {l : Located}
    (hl : l.symbol.range.contains position = true)
    (hafter : ∀ m ∈ after, m.symbol.range.contains position = false) (owner : Option Located) :
    land position owner (before ++ l :: after) =
      if l.stops position then ⟨owner, some l, before ++ l :: after⟩
      else land position (some l) l.members := by
  rw [land_eq_search, land_eq_search,
    search_of_some (lastContaining?_append_cons hl hafter)]

/-- In every outline, the parent and the current symbol of a position are those that the recursion
on the last containing member finds. What stands in front of that member has no influence on them,
and a round for every depth at which the outline has symbols is enough. -/
theorem resolve_eq_search (o : Outline) (position : Position) :
    (resolve o position).parent = (search position none o.topLevel).parent ∧
      (resolve o position).current = (search position none o.topLevel).current ∧
      (∀ owner before l after, l.symbol.range.contains position = true →
        (∀ m ∈ after, m.symbol.range.contains position = false) →
        (land position owner (before ++ l :: after)).parent = (land position owner [l]).parent ∧
        (land position owner (before ++ l :: after)).current = (land position owner [l]).current) ∧
      landWithin position (o.depth + 1) none o.topLevel =
        some (land position none o.topLevel) := by
  have hland := land_eq_search position none o.topLevel
  refine ⟨congrArg Landing.parent hland, congrArg Landing.current hland, ?_,
    landWithin_eq_land (Nat.succ_pos _) o.levelHeight_topLevel_le⟩
  intro owner before l after hl hafter
  have halone : land position owner ([] ++ [l]) = _ :=
    land_append_cons hl (List.forall_mem_nil _) owner
  rw [List.nil_append] at halone
  rw [land_append_cons hl hafter, halone]
  split <;> exact ⟨rfl, rfl⟩

/-- Two functions that overlap, the first one around a local variable. -/
def Outline.overlapping : Outline :=
  ⟨[.block "outer" "" .function 0 50 [.block "local" "" .variable 20 20 []],
    .block "late" "" .function 10 60 []]⟩

/-- A position in both functions is at the later one, although the local variable at it is a part of
the earlier one. -/
theorem resolve_eq_search_overlapping :
    ∃ outer late, Outline.overlapping.topLevel = [outer, late] ∧
      outer.symbol.range.contains ⟨20, 0⟩ = true ∧ late.symbol.range.contains ⟨20, 0⟩ = true ∧
      (land ⟨20, 0⟩ none [outer, late]).current = (land ⟨20, 0⟩ none [late]).current ∧
      (resolve Outline.overlapping ⟨20, 0⟩).current = some late := by
  obtain ⟨-, -, hfront, -⟩ := resolve_eq_search Outline.overlapping ⟨20, 0⟩
  refine ⟨_, _, rfl, by decide, by decide, (hfront none [_] _ [] (by decide) nofun).2, ?_⟩
  rw [resolve_of_landWithin rfl]
  decide

end OutlineNav

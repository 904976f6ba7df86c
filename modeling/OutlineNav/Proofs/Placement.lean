import Mathlib.Data.List.Basic
import OutlineNav.Proofs.Insertion

/-!
# Where containment repair puts each root

Roots may be equal to each other, so a root is told by its index in the list. A `Relocation` says
where each root has gone: it has an address of its own, below which everything inside it is where it
was, and the outline holds nothing else.

Repair puts the roots into an empty forest one after the other (`normalize_eq_placed`), those in
fewer containers first, so no root contains one that came before it. The invariant of the run is
that every root placed so far is where its walk ends: a root that comes later goes behind its
siblings and diverts no walk.
-/

namespace OutlineNav

/-- Where the symbols of a list of roots are in an outline: root `j` is at `spot j`, and what is at
`path` below it is at `path` below its spot. -/
structure Relocation (roots : Nat → Option Symbol) (o : Outline) where
  spot : Nat → SymbolPath
  /-- Everything is there, apart from what came into it. -/
  kept : ∀ {j b path s}, roots j = some b → b.descendant? path = some s →
    o.label? (spot j ++ path) = some s.detached
  /-- Nothing else is there. -/
  covered : ∀ {path}, (o.get? path).isSome →
    ∃ j b rest, roots j = some b ∧ (b.descendant? rest).isSome ∧ path = spot j ++ rest
  /-- Nothing shares its place. -/
  apart : ∀ {j b path k c path'}, roots j = some b → (b.descendant? path).isSome →
    roots k = some c → (c.descendant? path').isSome → spot j ++ path = spot k ++ path' →
    j = k ∧ path = path'

namespace Relocation

open Outline (attach landing)

variable {roots : Nat → Option Symbol} {o : Outline} {siblings : List Symbol}

/-- No roots are nowhere. -/
def empty (h : ∀ j, roots j = none) : Relocation roots .empty where
  spot _ := []
  kept hb := by rw [h] at hb; cases hb
  covered {path} hpath := by cases path <;> cases hpath
  apart hb := by rw [h] at hb; cases hb

theorem get?_isSome (m : Relocation roots o) {j : Nat} {b : Symbol} {path : SymbolPath}
    (hb : roots j = some b) (h : (b.descendant? path).isSome) :
    (o.get? (m.spot j ++ path)).isSome := by
  obtain ⟨s, hs⟩ := Option.isSome_iff_exists.mp h
  have hlabel := m.kept hb hs
  rw [Outline.label?] at hlabel
  obtain ⟨t, ht, -⟩ := Option.map_eq_some_iff.mp hlabel
  rw [ht]
  rfl

section Attach

variable (m : Relocation roots ⟨siblings⟩) (j : Nat) (s : Symbol)

/-- The spots after root `j`, the symbol `s`, has been put into the forest. -/
def spotAfter : Nat → SymbolPath := Function.update m.spot j (landing s siblings)

theorem spotAfter_self : m.spotAfter j s j = landing s siblings := Function.update_self ..

theorem spotAfter_ne {k : Nat} (h : k ≠ j) : m.spotAfter j s k = m.spot k :=
  Function.update_of_ne h ..

/-- What has come into the forest before is not at the landing of what comes next. -/
theorem not_landing_prefix {k : Nat} {b : Symbol} {path : SymbolPath} (hb : roots k = some b)
    (h : (b.descendant? path).isSome) : ¬ landing s siblings <+: m.spot k ++ path := by
  rintro ⟨rest, hrest⟩
  have hsome := m.get?_isSome hb h
  rw [← hrest, Outline.get?_landing_append] at hsome
  cases hsome

theorem update_eq_some {k : Nat} {b : Symbol} (hj : roots j = none) :
    Function.update roots j (some s) k = some b ↔ k = j ∧ s = b ∨ k ≠ j ∧ roots k = some b := by
  by_cases hk : k = j
  · subst hk
    simp
  · simp [hk]

/-- One more root is put into the forest. -/
def attach (hj : roots j = none) :
    Relocation (Function.update roots j (some s)) ⟨Outline.attach s siblings⟩ where
  spot := m.spotAfter j s
  kept := by
    intro k b path t hb ht
    rcases (update_eq_some j s hj).mp hb with ⟨rfl, rfl⟩ | ⟨hk, hb⟩
    · rw [spotAfter_self, Outline.label?, Outline.get?_attach_landing, ht]
      rfl
    · rw [m.spotAfter_ne j s hk, Outline.label?_attach s siblings]
      · exact m.kept hb ht
      · exact m.not_landing_prefix s hb (Option.isSome_of_eq_some ht)
  covered := by
    intro path h
    by_cases hpre : landing s siblings <+: path
    · obtain ⟨rest, rfl⟩ := hpre
      rw [Outline.get?_attach_landing] at h
      exact ⟨j, s, rest, (update_eq_some j s hj).mpr (.inl ⟨rfl, rfl⟩), h, by rw [spotAfter_self]⟩
    · have hlabel := congrArg Option.isSome (Outline.label?_attach s siblings hpre)
      rw [Outline.label?, Outline.label?, Option.isSome_map, Option.isSome_map] at hlabel
      obtain ⟨k, b, rest, hb, hrest, rfl⟩ := m.covered (hlabel ▸ h)
      have hk : k ≠ j := by
        rintro rfl
        rw [hj] at hb
        cases hb
      exact ⟨k, b, rest, (update_eq_some j s hj).mpr (.inr ⟨hk, hb⟩), hrest,
        by rw [m.spotAfter_ne j s hk]⟩
  apart := by
    intro k b path l c path' hb hpath hc hpath' heq
    rcases (update_eq_some j s hj).mp hb with ⟨rfl, rfl⟩ | ⟨hk, hb'⟩ <;>
      rcases (update_eq_some _ s hj).mp hc with ⟨rfl, rfl⟩ | ⟨hl, hc'⟩
    · rw [spotAfter_self] at heq
      exact ⟨rfl, List.append_cancel_left heq⟩
    · rw [spotAfter_self, m.spotAfter_ne k s hl] at heq
      exact absurd ⟨path, heq⟩ (m.not_landing_prefix s hc' hpath')
    · rw [spotAfter_self, m.spotAfter_ne l s hk] at heq
      exact absurd ⟨path', heq.symm⟩ (m.not_landing_prefix s hb' hpath)
    · rw [m.spotAfter_ne j s hk, m.spotAfter_ne j s hl] at heq
      exact m.apart hb' hpath hc' hpath' heq

end Attach

end Relocation

namespace Outline

/-! ## The order of the run -/

/-- The root at an index. -/
def rootAt (raw : List Symbol) (j : Nat) : Symbol := raw.getD j default

/-- In how many other roots the root at an index is. -/
def depthAt (raw : List Symbol) (j : Nat) : Nat := containerCount raw (rootAt raw j)

/-- The indices of the roots in the order in which they are put into the outline. -/
def turns (raw : List Symbol) : List Nat :=
  ((List.range raw.length).filter fun j => depthAt raw j == 0) ++
    ((List.range raw.length).filter fun j => depthAt raw j != 0).mergeSort
      fun i j => depthAt raw i ≤ depthAt raw j

section Turns

variable {raw : List Symbol} {j k : Nat}

theorem getElem?_eq_rootAt (h : j < raw.length) : raw[j]? = some (rootAt raw j) := by
  simp [rootAt, h]

theorem map_rootAt_range (raw : List Symbol) :
    (List.range raw.length).map (rootAt raw) = raw := by
  refine List.ext_getElem (by simp) fun i _ h => ?_
  simp [rootAt, h]

theorem rootAt_mem (h : j < raw.length) : rootAt raw j ∈ raw :=
  List.mem_of_getElem? (getElem?_eq_rootAt h)

theorem turns_perm (raw : List Symbol) : (turns raw).Perm (List.range raw.length) :=
  filter_append_mergeSort_perm (depthAt raw) _ _

theorem mem_turns : j ∈ turns raw ↔ j < raw.length :=
  (turns_perm raw).mem_iff.trans List.mem_range

theorem nodup_turns (raw : List Symbol) : (turns raw).Nodup :=
  (turns_perm raw).nodup_iff.mpr List.nodup_range

theorem pairwise_turns (raw : List Symbol) :
    (turns raw).Pairwise fun j k => depthAt raw j ≤ depthAt raw k := by
  refine List.pairwise_append.mpr ⟨?_, ?_, ?_⟩
  · refine List.Pairwise.imp_of_mem ?_ (List.pairwise_of_forall fun _ _ => trivial)
    intro i j hi _ _
    have hzero := (List.mem_filter.mp hi).2
    rw [beq_iff_eq] at hzero
    omega
  · exact pairwise_mergeSort_le (depthAt raw) _
  · intro i hi j _
    have hzero := (List.mem_filter.mp hi).2
    rw [beq_iff_eq] at hzero
    omega

/-- A root does not contain one whose turn came before. -/
theorem pairwise_turns_not_strictlyContains (raw : List Symbol) : (turns raw).Pairwise fun j k =>
    (rootAt raw k).range.strictlyContains (rootAt raw j).range = false := by
  refine (pairwise_turns raw).imp_of_mem fun {j k} _ hk hle => Bool.eq_false_iff.mpr fun h => ?_
  have hlt := containerCount_lt (rootAt_mem (mem_turns.mp hk)) h
  rw [depthAt, depthAt] at hle
  omega

theorem map_rootAt_turns (raw : List Symbol) :
    (turns raw).map (rootAt raw) = stayingRoots raw ++ movingRoots raw := by
  have hfilter : ∀ keep : Nat → Bool,
      ((List.range raw.length).filter fun j => keep (depthAt raw j)).map (rootAt raw) =
        raw.filter fun s => keep (containerCount raw s) := by
    intro keep
    have h := List.filter_map (p := fun s => keep (containerCount raw s)) (f := rootAt raw)
      (l := List.range raw.length)
    rw [map_rootAt_range] at h
    exact h.symm
  rw [turns, List.map_append]
  congr 1
  · exact hfilter (· == 0)
  · rw [movingRoots, ← hfilter (· != 0)]
    exact List.map_mergeSort fun _ _ _ _ => rfl

end Turns

/-! ## The run -/

/-- The forest into which the roots at `done` have been put, one after the other. -/
def placed (raw : List Symbol) (done : List Nat) : List Symbol :=
  (done.map (rootAt raw)).foldl (fun siblings s => attach s siblings) []

theorem placed_concat (raw : List Symbol) (done : List Nat) (j : Nat) :
    placed raw (done ++ [j]) = attach (rootAt raw j) (placed raw done) := by
  simp [placed]

/-- Roots that none of the roots before them contains are put behind them. -/
theorem foldl_attach_append {roots : List Symbol} :
    ∀ {siblings : List Symbol},
      (∀ s ∈ roots, ∀ t ∈ siblings ++ roots, t.range.strictlyContains s.range = false) →
      roots.foldl (fun siblings s => attach s siblings) siblings = siblings ++ roots := by
  induction roots with
  | nil => intro siblings _; rw [List.append_nil]; rfl
  | cons s roots ih =>
      intro siblings h
      obtain ⟨hs, hroots⟩ := List.forall_mem_cons.mp h
      have hattach : attach s siblings = siblings ++ [s] :=
        attach_eq_append fun t ht => hs t (List.mem_append_left _ ht)
      rw [List.foldl_cons, hattach, ih (by simpa using hroots), List.append_assoc]
      rfl

/-- Repair puts all roots into the empty forest, each when its turn comes. -/
theorem normalize_eq_placed (raw : List Symbol) : normalize raw = ⟨placed raw (turns raw)⟩ := by
  have hstaying : (stayingRoots raw).foldl (fun siblings s => attach s siblings) [] =
      stayingRoots raw := by
    refine (foldl_attach_append fun s hs t ht => ?_).trans (List.nil_append _)
    have hcount := (mem_stayingRoots.mp hs).2
    exact containerCount_eq_zero.mp hcount t (mem_stayingRoots.mp ht).1
  rw [placed, map_rootAt_turns, List.foldl_append, hstaying]
  rfl

/-- The roots at `done`. -/
def among (raw : List Symbol) (done : List Nat) (j : Nat) : Option Symbol :=
  if j ∈ done then some (rootAt raw j) else none

theorem among_concat (raw : List Symbol) (done : List Nat) (j : Nat) :
    among raw (done ++ [j]) = Function.update (among raw done) j (some (rootAt raw j)) := by
  funext k
  by_cases hk : k = j
  · subst hk
    simp [among]
  · simp [among, hk]

theorem among_turns (raw : List Symbol) : among raw (turns raw) = (raw[·]?) := by
  funext j
  rw [among]
  split
  · rename_i hj
    exact (getElem?_eq_rootAt (mem_turns.mp hj)).symm
  · rename_i hj
    exact (List.getElem?_eq_none (Nat.le_of_not_lt fun h => hj (mem_turns.mpr h))).symm

/-- Everything that has been put into the forest is where its walk ends. -/
def Settled (raw : List Symbol) (done : List Nat) (spot : Nat → SymbolPath) : Prop :=
  ∀ j ∈ done, ∃ i, spot j = walk (rootAt raw j).range (placed raw done) ++ [i]

/-- Siblings stand in the order in which they have come. -/
def InTurn (done : List Nat) (spot : Nat → SymbolPath) : Prop :=
  done.Pairwise fun j k => ∀ parent i i', spot j = parent ++ [i] → spot k = parent ++ [i'] → i < i'

section Step

variable {raw : List Symbol} {done : List Nat} {j : Nat}
  (m : Relocation (among raw done) ⟨placed raw done⟩) (hnew : j ∉ done)

include hnew

theorem spotAfter_of_mem {k : Nat} (hk : k ∈ done) (s : Symbol) :
    m.spotAfter j s k = m.spot k :=
  m.spotAfter_ne j s fun heq => hnew (heq ▸ hk)

theorem settled_concat (h : Settled raw done m.spot)
    (hturn : ∀ k ∈ done, (rootAt raw j).range.strictlyContains (rootAt raw k).range = false) :
    Settled raw (done ++ [j]) (m.spotAfter j (rootAt raw j)) := by
  intro k hk
  rw [placed_concat]
  rcases List.mem_append.mp hk with hk | hk
  · obtain ⟨i, hi⟩ := h k hk
    exact ⟨i, by rw [spotAfter_of_mem m hnew hk, hi, walk_attach (hturn k hk)]⟩
  · obtain rfl := List.mem_singleton.mp hk
    rw [m.spotAfter_self, walk_attach (Range.strictlyContains_self _)]
    exact ⟨_, rfl⟩

theorem inTurn_concat (h : InTurn done m.spot) :
    InTurn (done ++ [j]) (m.spotAfter j (rootAt raw j)) := by
  refine List.pairwise_append.mpr ⟨?_, List.pairwise_singleton .., ?_⟩
  · refine h.imp_of_mem fun {k l} hk hl hkl => ?_
    rw [spotAfter_of_mem m hnew hk, spotAfter_of_mem m hnew hl]
    exact hkl
  · intro k hk l hl parent i i' hspot hlast
    obtain rfl := List.mem_singleton.mp hl
    rw [spotAfter_of_mem m hnew hk] at hspot
    rw [m.spotAfter_self, landing] at hlast
    obtain ⟨rfl, hi'⟩ := List.append_inj' hlast rfl
    -- the new root goes behind everything that its siblings have as an index
    have hroot : among raw done k = some (rootAt raw k) := if_pos hk
    have hthere := m.get?_isSome hroot (rfl : ((rootAt raw k).descendant? []).isSome)
    rw [List.append_nil, hspot, get?_concat] at hthere
    rw [← List.singleton_inj.mp hi']
    simpa using hthere

end Step

theorem exists_relocation_placed (raw : List Symbol) {done : List Nat} (hnodup : done.Nodup)
    (hturns : done.Pairwise fun j k =>
      (rootAt raw k).range.strictlyContains (rootAt raw j).range = false) :
    ∃ m : Relocation (among raw done) ⟨placed raw done⟩,
      Settled raw done m.spot ∧ InTurn done m.spot := by
  induction done using List.reverseRecOn with
  | nil =>
      have hnone : ∀ j, among raw [] j = none := fun _ => rfl
      exact ⟨.empty hnone, fun _ hj => absurd hj List.not_mem_nil, List.Pairwise.nil⟩
  | append_singleton done j ih =>
      obtain ⟨hdone, -, hbefore⟩ := List.pairwise_append.mp hturns
      have hnew : j ∉ done := fun hj =>
        (List.nodup_append.mp hnodup).2.2 j hj j (List.mem_singleton_self j) rfl
      obtain ⟨m, hsettled, hinTurn⟩ := ih (List.nodup_append.mp hnodup).1 hdone
      have hsettled' := settled_concat m hnew hsettled fun k hk => hbefore k hk j (by simp)
      have hinTurn' := inTurn_concat m hnew hinTurn
      rw [placed_concat, among_concat]
      exact ⟨m.attach j (rootAt raw j) (if_neg hnew), hsettled', hinTurn'⟩

/-! ## The repaired outline -/

theorem exists_relocation (raw : List Symbol) : ∃ m : Relocation (raw[·]?) (normalize raw),
    (∀ j b, raw[j]? = some b → ∃ i, m.spot j = walk b.range (normalize raw).roots ++ [i]) ∧
      InTurn (turns raw) m.spot := by
  have h := exists_relocation_placed raw (nodup_turns raw) (pairwise_turns_not_strictlyContains raw)
  rw [among_turns, ← normalize_eq_placed] at h
  obtain ⟨m, hsettled, hinTurn⟩ := h
  refine ⟨m, fun j b hb => ?_, hinTurn⟩
  obtain ⟨hj, -⟩ := List.getElem?_eq_some_iff.mp hb
  obtain rfl : rootAt raw j = b := Option.some.inj ((getElem?_eq_rootAt hj).symm.trans hb)
  rw [congrArg Outline.roots (normalize_eq_placed raw)]
  exact hsettled j (mem_turns.mpr hj)

/-- A root of the list stays a root exactly if its walk ends before it has entered anything. -/
theorem walk_normalize_eq_nil_iff {raw : List Symbol} {b : Symbol} :
    walk b.range (normalize raw).roots = [] ↔
      ∀ a ∈ raw, a.range.strictlyContains b.range = false := by
  have hranges := map_range_normalize raw
  rw [walk_eq_nil_iff]
  constructor
  · intro h a ha
    obtain ⟨t, ht, hta⟩ := exists_stayingRoot ha
    have hrange : t.range ∈ (normalize raw).roots.map (·.range) :=
      hranges ▸ List.mem_map_of_mem ht
    obtain ⟨u, hu, hut⟩ := List.mem_map.mp hrange
    have htb := hut ▸ h u hu
    rcases hta with rfl | hta
    · exact htb
    · refine Bool.eq_false_iff.mpr fun hab => ?_
      rw [Range.strictlyContains_trans hta hab] at htb
      cases htb
  · intro h u hu
    have hrange : u.range ∈ (stayingRoots raw).map (·.range) := hranges ▸ List.mem_map_of_mem hu
    obtain ⟨t, ht, htu⟩ := List.mem_map.mp hrange
    exact htu ▸ h t (mem_stayingRoots.mp ht).1

/-- Roots that stay have their turns in the order of the list. -/
theorem InTurn.lt {raw : List Symbol} {spot : Nat → SymbolPath} (h : InTurn (turns raw) spot)
    {j k i i' : Nat} (hjk : j < k) (hk : k < raw.length) (hj0 : depthAt raw j = 0)
    (hk0 : depthAt raw k = 0) (hj : spot j = [i]) (hk' : spot k = [i']) : i < i' := by
  have hstaying := (List.pairwise_append.mp h).1
  have hsorted : ((List.range raw.length).filter fun j => depthAt raw j == 0).Pairwise (· < ·) :=
    List.pairwise_lt_range.filter _
  have hlt := List.Pairwise.forall_of_forall_of_flip
    (R := fun j k => j < k → ∀ i i', spot j = [i] → spot k = [i'] → i < i')
    (fun j _ hjj => absurd hjj (Nat.lt_irrefl j))
    (hstaying.imp fun hlast _ i i' hi hi' => hlast [] i i' hi hi')
    (hsorted.imp fun hlt hgt => absurd hgt (Nat.lt_asymm hlt))
  have hmem : ∀ {l}, l < raw.length → depthAt raw l = 0 →
      l ∈ (List.range raw.length).filter fun j => depthAt raw j == 0 :=
    fun hl h0 => List.mem_filter.mpr ⟨List.mem_range.mpr hl, beq_iff_eq.mpr h0⟩
  exact hlt (hmem (by omega) hj0) (hmem hk hk0) hjk i i' hj hk'

section Spots

variable {raw : List Symbol} {j i : Nat} {b : Symbol}

theorem forall_others_iff (hb : raw[j]? = some b) :
    (∀ a ∈ raw, a.range.strictlyContains b.range = false) ↔
      ∀ k a, raw[k]? = some a → k ≠ j → a.range.strictlyContains b.range = false := by
  constructor
  · exact fun h k a ha _ => h a (List.mem_of_getElem? ha)
  · intro h a ha
    obtain ⟨k, hk⟩ := List.mem_iff_getElem?.mp ha
    by_cases hkj : k = j
    · subst hkj
      obtain rfl := Option.some.inj (hk.symm.trans hb)
      exact Range.strictlyContains_self _
    · exact h k a hk hkj

variable (m : Relocation (raw[·]?) (normalize raw))
  (hwalk : ∀ j b, raw[j]? = some b → ∃ i, m.spot j = walk b.range (normalize raw).roots ++ [i])

include hwalk

theorem spot_eq_singleton_iff (hb : raw[j]? = some b) :
    (∃ i, m.spot j = [i]) ↔ ∀ a ∈ raw, a.range.strictlyContains b.range = false := by
  obtain ⟨i, hi⟩ := hwalk j b hb
  rw [← walk_normalize_eq_nil_iff, hi]
  simp [List.append_eq_singleton_iff]

/-- Every root of the repaired outline is one of the list. -/
theorem exists_spot_eq_singleton (hi : i < (normalize raw).roots.length) :
    ∃ j < raw.length, m.spot j = [i] := by
  have hthere : ((normalize raw).get? ([] ++ [i])).isSome := by
    rw [get?_concat]
    simpa [childrenAt] using hi
  obtain ⟨j, b, rest, hb, -, hspot⟩ := m.covered hthere
  obtain ⟨i', hi'⟩ := hwalk j b hb
  refine ⟨j, (List.getElem?_eq_some_iff.mp hb).1, ?_⟩
  rw [hi', List.nil_append, List.append_assoc] at hspot
  obtain ⟨hnil, hlast⟩ | ⟨-, hlast⟩ := List.append_eq_singleton_iff.mp hspot.symm
  swap
  · cases hlast
  obtain ⟨rfl, -⟩ := List.cons.inj hlast
  rw [hi', hnil]
  rfl

end Spots

/-- **Placement.** In a repaired outline each root of the list has an address of its own. It is a
root again exactly if no other root strictly contains it, and these stand in their old order. Every
root is a child of the symbol at which its walk through the repaired outline ends; so its ancestors
strictly contain it, and none of its siblings does. -/
theorem normalize_placement (raw : List Symbol) : ∃ m : Relocation (raw[·]?) (normalize raw),
    (∀ j b, raw[j]? = some b →
      ((∃ i, m.spot j = [i]) ↔
        ∀ k a, raw[k]? = some a → k ≠ j → a.range.strictlyContains b.range = false)) ∧
    (∀ i < (normalize raw).roots.length, ∃ j < raw.length, m.spot j = [i]) ∧
    (∀ j k i i', j < k → k < raw.length → m.spot j = [i] → m.spot k = [i'] → i < i') ∧
    ∀ j b, raw[j]? = some b →
      (∃ i, m.spot j = walk b.range (normalize raw).roots ++ [i]) ∧
      (∀ path a, path <+: m.spot j → path ≠ m.spot j → (normalize raw).get? path = some a →
        a.range.strictlyContains b.range = true) ∧
      ∀ parent i, m.spot j = parent ++ [i] → ∀ a ∈ (normalize raw).childrenAt parent,
        a.range.strictlyContains b.range = false := by
  obtain ⟨m, hwalk, hinTurn⟩ := exists_relocation raw
  refine ⟨m, fun j b hb => ?_, fun i hi => exists_spot_eq_singleton m hwalk hi, ?_, ?_⟩
  · rw [spot_eq_singleton_iff m hwalk hb, forall_others_iff hb]
  · intro j k i i' hjk hk hi hi'
    have hzero : ∀ l < raw.length, (∃ i, m.spot l = [i]) → depthAt raw l = 0 := by
      intro l hl hspot
      have hroot := getElem?_eq_rootAt hl
      exact containerCount_eq_zero.mpr ((spot_eq_singleton_iff m hwalk hroot).mp hspot)
    exact hinTurn.lt hjk hk (hzero j (by omega) ⟨i, hi⟩) (hzero k hk ⟨i', hi'⟩) hi hi'
  · intro j b hb
    obtain ⟨i, hi⟩ := hwalk j b hb
    refine ⟨⟨i, hi⟩, fun path a hpre hne ha => ?_, fun parent i' hparent a ha => ?_⟩
    · rw [hi] at hpre hne
      have habove := (List.prefix_concat_iff.mp hpre).resolve_left hne
      exact strictlyContains_of_prefix_walk (ne_nil_of_get? ha) habove ha
    · obtain ⟨rfl, -⟩ := List.append_inj' (hparent.symm.trans hi) rfl
      exact not_strictlyContains_of_mem_level _ _ a ha

end Outline

end OutlineNav

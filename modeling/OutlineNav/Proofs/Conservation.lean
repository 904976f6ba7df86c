import OutlineNav.CommandLine.Program
import OutlineNav.Proofs.Placement

/-!
# Containment repair loses nothing

An insertion adds what is inserted and nothing else (`flatten_attach`), and every root is inserted
once; so the repaired outline holds the symbols that were received (`flatten_normalize`), and the
`outline` command counts the same number of them with and without repair.

Where they are is read off the relocation of the roots: what was at an address of the list is at its
`place` in the outline. A symbol keeps its children at their indices, since places go on as
addresses do; and a child beyond those lies below no other symbol of its own root, so it can only be
the spot of a root.
-/

namespace OutlineNav

open CommandLine (Scene)

/-! ## Counting -/

theorem Symbol.length_flatten (symbols : List Symbol) :
    (Symbol.flatten symbols).length = Symbol.forestSize symbols := by
  induction symbols using Symbol.forest_induction with
  | nil => rfl
  | cons s rest ihChildren ihRest =>
      rw [Symbol.flatten, Symbol.preorder_eq, Symbol.forestSize, Symbol.subtreeSize_eq,
        List.length_append, List.length_cons, ihChildren, ihRest]
      omega

namespace Outline

open List in
/-- Put into a forest, roots and everything in them are there, and so is what was there before. -/
theorem flatten_foldl_attach (roots : List Symbol) : ∀ siblings : List Symbol,
    (Symbol.flatten (roots.foldl (fun siblings s => attach s siblings) siblings)).Perm
      (Symbol.flatten roots ++ Symbol.flatten siblings) := by
  induction roots with
  | nil => intro siblings; exact .refl _
  | cons s roots ih =>
      intro siblings
      calc Symbol.flatten (roots.foldl (fun siblings s => attach s siblings) (attach s siblings))
        _ ~ Symbol.flatten roots ++ Symbol.flatten (attach s siblings) := ih _
        _ ~ Symbol.flatten roots ++ (s.preorder ++ Symbol.flatten siblings) :=
            (flatten_attach s siblings).append_left _
        _ ~ s.preorder ++ (Symbol.flatten roots ++ Symbol.flatten siblings) :=
            List.perm_append_comm_assoc ..
        _ = Symbol.flatten (s :: roots) ++ Symbol.flatten siblings := by
            rw [Symbol.flatten, List.append_assoc]

open List in
theorem flatten_normalize (raw : List Symbol) :
    (normalize raw).flatten.Perm (Symbol.flatten raw) :=
  calc Symbol.flatten
        ((movingRoots raw).foldl (fun siblings s => attach s siblings) (stayingRoots raw))
    _ ~ Symbol.flatten (movingRoots raw) ++ Symbol.flatten (stayingRoots raw) :=
        flatten_foldl_attach _ _
    _ = (movingRoots raw ++ stayingRoots raw).flatMap Symbol.preorder := by
        rw [Symbol.flatten_eq_flatMap, Symbol.flatten_eq_flatMap, List.flatMap_append]
    _ ~ raw.flatMap Symbol.preorder :=
        (List.perm_append_comm.trans (stayingRoots_append_movingRoots raw)).flatMap_right _
    _ = Symbol.flatten raw := (Symbol.flatten_eq_flatMap raw).symm

theorem size_normalize (raw : List Symbol) : (normalize raw).size = Symbol.forestSize raw := by
  rw [size, ← Symbol.length_flatten, ← Symbol.length_flatten]
  exact (flatten_normalize raw).length_eq

end Outline

/-! ## Commands -/

/-- The report says, as JSON and as text, that there are `n` symbols. -/
def Report.Counts (r : Report) (n : Nat) : Prop :=
  r.toJson.get? "count" = some (.nat n) ∧
    ∃ (file : String) (lines : List String),
      r.text = "\n".intercalate (s!"{file} ({n} symbols)" :: lines)

theorem Report.counts_outline (file : String) (normalized : Bool) (o : Outline) :
    (Report.outline file normalized o).Counts o.size :=
  ⟨rfl, file, symbolsLines 1 o.roots, rfl⟩

/-- The repaired outline of what a provider has answered; it is empty where there are no symbols. -/
def Answer.repaired : Answer → Outline
  | .ok (some symbols) => .normalize symbols
  | .ok none | .error _ => .empty

theorem Index.outline_receive (ix : Index) (d : Document) (answer : Answer) :
    (ix.receive d answer).1.outline = answer.repaired := by
  rcases answer with e | _ | _ | ⟨s, rest⟩
  · rfl
  · rfl
  · exact (Outline.normalize_of_not_strictlyContains (by simp)).symm
  · rfl

/-- What the `outline` command shows of what a provider has answered. -/
def shownOutline (raw : Bool) (file : String) (answer : Answer) :
    Except CommandLine.Failure Report :=
  if raw then
    match answer with
    | .ok symbols => .ok (.outline file false ⟨symbols.getD []⟩)
    | .error e => .error (.service e)
  else .ok (.outline file true answer.repaired)

section Commands

variable {m : Type → Type} [Monad m] [LawfulMonad m] (s : Scene m)

theorem run_outlineOf (path : String) :
    (s.outlineOf path).run = do return .ok (← s.provider.symbols path).repaired := by
  have hfresh : s.navigator.index.lookup path =
      (none, { s.navigator.index with misses := s.navigator.index.misses + 1 }) := rfl
  simp [Scene.outlineOf, Navigator.outlineBy, Index.getOutlineBy, hfresh, Index.outline_receive]

theorem run_liftM_bind {α β : Type} (x : m α) (f : α → Scene.Run m β) :
    (liftM x >>= f).run = x >>= fun a => (f a).run := by
  rw [ExceptT.run_bind]
  simp

/-- The command asks the provider once, if there is such a file, and shows what it has answered. -/
theorem run_outline (file : String) (raw : Bool) : (s.outline file raw).run = do
    match ← s.files.locate s.root file with
    | .error e => return .error (.location e)
    | .ok path => return shownOutline raw (s.relative path) (← s.provider.symbols path) := by
  rw [Scene.outline, Scene.locate, bind_assoc, run_liftM_bind]
  refine bind_congr fun located => ?_
  cases located with
  | error e => simp
  | ok path =>
      rw [pure_bind]
      cases raw with
      | true =>
          rw [if_pos rfl, run_liftM_bind]
          refine bind_congr fun answer => ?_
          cases answer <;> simp [Scene.received, shownOutline]
      | false =>
          rw [if_neg Bool.false_ne_true, ExceptT.run_bind, run_outlineOf, bind_assoc]
          refine bind_congr fun answer => ?_
          simp [shownOutline]

end Commands

/-! ## Children -/

namespace Relocation

variable {roots : Nat → Option Symbol} {o : Outline}

/-- Where the symbol at an address of the list of roots is in the outline. -/
def place (m : Relocation roots o) : SymbolPath → SymbolPath
  | [] => []
  | j :: path => m.spot j ++ path

theorem place_concat (m : Relocation roots o) {path : SymbolPath} (h : path ≠ []) (i : Nat) :
    m.place (path ++ [i]) = m.place path ++ [i] := by
  obtain ⟨j, rest, rfl⟩ := List.exists_cons_of_ne_nil h
  rw [List.cons_append, place, place, List.append_assoc]

variable {raw : List Symbol} (m : Relocation (raw[·]?) o) {path : SymbolPath} {s t : Symbol}

theorem label?_place (hs : Outline.get? ⟨raw⟩ path = some s) :
    o.label? (m.place path) = some s.detached := by
  cases path with
  | nil => cases hs
  | cons j rest =>
      obtain ⟨b, hb, hrest⟩ := Option.bind_eq_some_iff.mp hs
      exact m.kept hb hrest

theorem children_prefix (hs : Outline.get? ⟨raw⟩ path = some s)
    (ht : o.get? (m.place path) = some t) :
    s.children.map (·.detached) <+: t.children.map (·.detached) := by
  refine List.prefix_iff_getElem?.mpr fun i hi => ?_
  rw [List.length_map] at hi
  have hraw : Outline.get? ⟨raw⟩ (path ++ [i]) = some s.children[i] := by
    rw [Outline.get?_concat, Outline.childrenAt_of_get? hs, List.getElem?_eq_getElem hi]
  have hchild := m.label?_place hraw
  rw [m.place_concat (Outline.ne_nil_of_get? hs), Outline.label?, Outline.get?_concat,
    Outline.childrenAt_of_get? ht] at hchild
  rw [List.getElem?_map, hchild, List.getElem_map]

/-- Children beyond those that a symbol had are roots of the list. -/
theorem exists_spot_of_length_le (hs : Outline.get? ⟨raw⟩ path = some s)
    (ht : o.get? (m.place path) = some t) {i : Nat} (hle : s.children.length ≤ i)
    (hlt : i < t.children.length) : ∃ j b, raw[j]? = some b ∧ m.spot j = m.place path ++ [i] := by
  have hthere : (o.get? (m.place path ++ [i])).isSome := by
    rw [Outline.get?_concat, Outline.childrenAt_of_get? ht]
    simpa using hlt
  obtain ⟨k, c, rest, hc, hrest, hplace⟩ := m.covered hthere
  rcases List.eq_nil_or_concat' rest with rfl | ⟨rest, l, rfl⟩
  · exact ⟨k, c, hc, by rw [hplace, List.append_nil]⟩
  · cases path with
    | nil => cases hs
    | cons j below =>
        obtain ⟨b, hb, hbelow⟩ := Option.bind_eq_some_iff.mp hs
        rw [place, ← List.append_assoc] at hplace
        obtain ⟨hparent, hi⟩ := List.append_inj' hplace rfl
        obtain rfl : i = l := List.singleton_inj.mp hi
        rw [Symbol.descendant?_append] at hrest
        obtain ⟨v, hv⟩ := Option.isSome_iff_exists.mp hrest
        obtain ⟨u, hu, hlast⟩ := Option.bind_eq_some_iff.mp hv
        obtain ⟨rfl, rfl⟩ := m.apart hb (Option.isSome_of_eq_some hbelow) hc
          (Option.isSome_of_eq_some hu) hparent
        -- what lies at `i` below the same parent is one of its own children
        obtain rfl := Option.some.inj (hb.symm.trans hc)
        obtain rfl := Option.some.inj (hbelow.symm.trans hu)
        obtain ⟨child, hchild, -⟩ := Option.bind_eq_some_iff.mp hlast
        have hlength := (List.getElem?_eq_some_iff.mp hchild).1
        omega

end Relocation

namespace Outline

/-- **Conservation.** Containment repair neither loses nor doubles a symbol, so the `outline`
command tells the same number of symbols whether it shows them repaired or as they were received.
The children that a symbol had are its first children still, in their old order; behind them are
only roots of the list that lie inside another root. -/
theorem normalize_conserves (raw : List Symbol) :
    (normalize raw).flatten.Perm (Symbol.flatten raw) ∧
    (∀ (m : Type → Type) [Monad m] [LawfulMonad m] (s : Scene m) (file : String)
      (asReceived : Bool), (s.outline file asReceived).run = do
        match ← s.files.locate s.root file with
        | .error e => return .error (.location e)
        | .ok path =>
          return shownOutline asReceived (s.relative path) (← s.provider.symbols path)) ∧
    (∀ file, ∃ repaired received n,
      shownOutline false file (.ok (some raw)) = .ok repaired ∧ repaired.Counts n ∧
      shownOutline true file (.ok (some raw)) = .ok received ∧ received.Counts n) ∧
    ∃ m : Relocation (raw[·]?) (normalize raw), ∀ path s, get? ⟨raw⟩ path = some s →
      ∃ t, (normalize raw).get? (m.place path) = some t ∧ t.detached = s.detached ∧
        s.children.map (·.detached) <+: t.children.map (·.detached) ∧
        (∀ i < s.children.length, m.place (path ++ [i]) = m.place path ++ [i]) ∧
        ∀ i, s.children.length ≤ i → i < t.children.length →
          ∃ j b, raw[j]? = some b ∧ m.place [j] = m.place path ++ [i] ∧
            ∃ a ∈ raw, a.range.strictlyContains b.range = true := by
  refine ⟨flatten_normalize raw, fun m _ _ s file asReceived => run_outline s file asReceived,
    fun file => ?_, ?_⟩
  · refine ⟨.outline file true (normalize raw), .outline file false ⟨raw⟩, (normalize raw).size,
      rfl, Report.counts_outline .., rfl, ?_⟩
    rw [size_normalize]
    exact Report.counts_outline ..
  · obtain ⟨m, hwalk, -⟩ := exists_relocation raw
    refine ⟨m, fun path s hs => ?_⟩
    obtain ⟨t, ht, hlabel⟩ := Option.map_eq_some_iff.mp (m.label?_place hs)
    refine ⟨t, ht, hlabel, m.children_prefix hs ht,
      fun i _ => m.place_concat (ne_nil_of_get? hs) i, ?_⟩
    intro i hle hlt
    obtain ⟨j, b, hb, hspot⟩ := m.exists_spot_of_length_le hs ht hle hlt
    refine ⟨j, b, hb, by rw [Relocation.place, List.append_nil, hspot], ?_⟩
    by_contra hnone
    -- a root that is in no other one is a root still, not a child
    have hstays : ∀ a ∈ raw, a.range.strictlyContains b.range = false :=
      fun a ha => Bool.eq_false_iff.mpr fun hab => hnone ⟨a, ha, hab⟩
    obtain ⟨i', hroot⟩ := (spot_eq_singleton_iff m hwalk hb).mpr hstays
    obtain ⟨hparent, -⟩ := List.append_inj' (hspot.symm.trans hroot : _ ++ [i] = [] ++ [i']) rfl
    exact ne_nil_of_get? ht hparent

end Outline

end OutlineNav

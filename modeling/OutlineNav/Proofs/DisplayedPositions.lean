import OutlineNav.Proofs.Conservation
import OutlineNav.Proofs.Provenance
import OutlineNav.Proofs.SymbolReplies

/-!
# Displayed positions

Positions are shown counted from one, in words that wrap around. A position is shown as it is if and
only if neither of its numbers is the largest one (`Position.belowMax_iff`); and the ranges of
symbols come from the ranges that a reply tells, with one exception: the name of an entry of a flat
list stands on the first line of its range, and where the range goes on past that line, the first
line goes up to the largest number (`FlatSymbol.header_of_line_lt`).

So everything that is shown of the symbols in a tree is exact if what the reply tells is
(`displayed_positions`), and everything of the symbols in a flat list but the end of a name: that
one overflows, and is shown as column 0, if and only if the range has more lines than one.
-/

namespace OutlineNav

/-! ## Positions with a successor -/

namespace Position

/-- Line and character are below the largest number. -/
structure BelowMax (p : Position) : Prop where
  line : p.line < maxWord
  character : p.character < maxWord

instance (p : Position) : Decidable p.BelowMax :=
  decidable_of_iff (p.line < maxWord ∧ p.character < maxWord)
    ⟨fun h => ⟨h.1, h.2⟩, fun h => ⟨h.line, h.character⟩⟩

theorem maxWord_succ : maxWord + 1 = 0 := by decide

theorem toNat_succ_iff {n : UInt32} : (n + 1).toNat = n.toNat + 1 ↔ n < maxWord := by
  have hn := n.toNat_lt
  have hone : (1 : UInt32).toNat = 1 := rfl
  have hmax : maxWord.toNat = 2 ^ 32 - 1 := rfl
  rw [UInt32.lt_iff_toNat_lt, UInt32.toNat_add, hone, hmax]
  omega

/-- The positions that are shown as they are, counted from one. -/
theorem belowMax_iff {p : Position} : p.BelowMax ↔
    p.toDisplay.1.toNat = p.line.toNat + 1 ∧ p.toDisplay.2.toNat = p.character.toNat + 1 := by
  rw [toDisplay, toNat_succ_iff, toNat_succ_iff]
  exact ⟨fun h => ⟨h.line, h.character⟩, fun h => ⟨h.1, h.2⟩⟩

/-- The positions that reports tell as they are. -/
theorem positionJson_eq_iff {p : Position} : Report.positionJson p =
    .obj [("column", .nat (p.character.toNat + 1)), ("line", .nat (p.line.toNat + 1))] ↔
      p.BelowMax := by
  rw [belowMax_iff, and_comm]
  show Json.obj [("column", .int p.toDisplay.2.toNat), ("line", .int p.toDisplay.1.toNat)] = _ ↔ _
  simp only [Json.nat, Json.obj.injEq, List.cons.injEq, Prod.mk.injEq, Json.int.injEq, true_and,
    and_true, Int.natCast_inj]

theorem toDisplay_lineEnd (line : UInt32) : toDisplay ⟨line, maxWord⟩ = (line + 1, 0) := by
  rw [toDisplay, maxWord_succ]

theorem not_belowMax_lineEnd (line : UInt32) : ¬(⟨line, maxWord⟩ : Position).BelowMax :=
  fun h => UInt32.lt_irrefl _ h.character

end Position

/-- Both ends are below the largest number. -/
structure Range.BelowMax (r : Range) : Prop where
  start : r.start.BelowMax
  stop : r.stop.BelowMax

instance (r : Range) : Decidable r.BelowMax :=
  decidable_of_iff (r.start.BelowMax ∧ r.stop.BelowMax)
    ⟨fun h => ⟨h.1, h.2⟩, fun h => ⟨h.start, h.stop⟩⟩

theorem Range.belowMax_default : (default : Range).BelowMax := by decide

/-! ## First lines -/

namespace FlatSymbol

theorem header_of_line_lt {r : Range} (h : r.start.line < r.stop.line) :
    header r = ⟨r.start, ⟨r.start.line, Position.maxWord⟩⟩ := by
  rw [header, Position.min, if_pos (.inl h)]

theorem header_of_not_line_lt {r : Range} (hr : r.BelowMax) (h : ¬r.start.line < r.stop.line) :
    header r = r := by
  have hle : ¬(⟨r.start.line, Position.maxWord⟩ : Position) ≤ r.stop := by
    rintro (hlt | ⟨-, hmax⟩)
    · exact h hlt
    · exact UInt32.not_le.mpr hr.stop.character hmax
  rw [header, Position.min, if_neg hle]

end FlatSymbol

/-! ## Symbols of replies -/

/-- The reply is a flat list. -/
def IsFlatReply (result : Json) : Prop := ∃ vs, result = .arr vs ∧ isFlat vs = true

/-- What is shown of a symbol that was read from a flat list, or else from a tree. -/
structure Shown (fromFlat : Prop) (s : Symbol) : Prop where
  range : s.range.BelowMax
  start : s.selectionRange.start.BelowMax
  stop_iff : s.selectionRange.stop.BelowMax ↔ ¬(fromFlat ∧ s.range.start.line < s.range.stop.line)
  overflow : fromFlat → s.range.start.line < s.range.stop.line →
    s.selectionRange.stop.toDisplay = (s.range.start.line + 1, 0)

theorem Shown.of_tree {fromFlat : Prop} (h : ¬fromFlat) {s : Symbol} (hrange : s.range.BelowMax)
    (hselection : s.selectionRange.BelowMax) : Shown fromFlat s where
  range := hrange
  start := hselection.start
  stop_iff := iff_of_true hselection.stop fun hlong => h hlong.1
  overflow hflat := (h hflat).elim

namespace FlatSymbol

theorem shown_symbol {fromFlat : Prop} (h : fromFlat) {f : FlatSymbol}
    (hrange : f.place.range.BelowMax) : Shown fromFlat f.symbol := by
  by_cases hline : f.place.range.start.line < f.place.range.stop.line
  · have hheader : f.symbol.selectionRange = _ := header_of_line_lt hline
    exact {
      range := hrange
      start := hheader ▸ hrange.start
      stop_iff := by
        rw [hheader]
        exact iff_of_false (Position.not_belowMax_lineEnd _) fun hshort => hshort ⟨h, hline⟩
      overflow := fun _ _ => by
        rw [hheader]
        exact Position.toDisplay_lineEnd _ }
  · have hheader : f.symbol.selectionRange = _ := header_of_not_line_lt hrange hline
    exact {
      range := hrange
      start := hheader ▸ hrange.start
      stop_iff := iff_of_true (hheader ▸ hrange.stop) fun hlong => hline hlong.2
      overflow := fun _ hlong => (hline hlong).elim }

theorem mem_flatten_map_symbol {flat : List FlatSymbol} {s : Symbol} :
    s ∈ Symbol.flatten (flat.map symbol) ↔ ∃ f ∈ flat, s = f.symbol := by
  have hpreorder (f : FlatSymbol) : f.symbol.preorder = [f.symbol] := rfl
  rw [Symbol.flatten_eq_flatMap, List.mem_flatMap]
  simp only [List.mem_map, exists_exists_and_eq_and, hpreorder, List.mem_singleton]

end FlatSymbol

theorem shown_of_mem_flatten {result : Json} {forest : List Symbol}
    (hread : decodeSymbols result = .ok (some forest))
    (hbelow : ∀ r, TellsRange result r → r.BelowMax) {s : Symbol} (hs : s ∈ Symbol.flatten forest) :
    Shown (IsFlatReply result) s := by
  obtain ⟨vs, rfl, ⟨hflat, flat, hitems, rfl⟩ | ⟨htree, hforest⟩⟩ := decodeSymbols_eq_some hread
  · obtain ⟨f, hf, rfl⟩ := FlatSymbol.mem_flatten_map_symbol.mp hs
    obtain ⟨v, hv, hdecode⟩ := Json.Decoder.exists_of_mem_items hitems hf
    obtain ⟨w, hw, hplace⟩ := FlatSymbol.reads_place hdecode
    refine FlatSymbol.shown_symbol ⟨vs, rfl, hflat⟩ ?_
    obtain hdefault | hrange := PlaceInfo.reads_range hplace
    · exact hdefault ▸ Range.belowMax_default
    · exact hbelow _ (.place hflat hv hw hrange)
  · obtain ⟨v, hv, hrange, hselection⟩ := Symbol.exists_entry .server forest vs hforest s hs
    refine .of_tree ?_ (hbelow _ (.range htree hv hrange))
      (hbelow _ (.selectionRange htree hv hselection))
    rintro ⟨us, heq, hflat⟩
    cases heq
    exact absurd (htree.symm.trans hflat) nofun

/-! ## Written lists -/

/-- A list of written entries tells the ranges of their places, and no others. -/
theorem TellsRange.exists_of_flat (first : FlatSymbol) (rest : List FlatSymbol) {r : Range}
    (h : TellsRange (.arr ((first :: rest).map FlatSymbol.toJson)) r) :
    ∃ f ∈ first :: rest, r = f.place.range := by
  have hflat := first.isFlat_cons (rest.map FlatSymbol.toJson)
  cases h with
  | range htree => exact absurd (htree.symm.trans hflat) nofun
  | selectionRange htree => exact absurd (htree.symm.trans hflat) nofun
  | place _ hv hw hrange =>
      obtain ⟨f, hf, rfl⟩ := List.mem_map.mp hv
      obtain ⟨u, hu, hread⟩ := hrange
      have hplace : f.toJson.field? "location" 2 = some f.place.toJson := by
        rw [FlatSymbol.toJson, Json.field?, Json.lookup?_present f.nodup_written]
        rfl
      obtain rfl := Option.some.inj (hw.symm.trans hplace)
      have hfield : f.place.toJson.field? "range" 1 = some f.place.range.toJson := rfl
      obtain rfl := Option.some.inj (hu.symm.trans hfield)
      exact ⟨f, hf, Except.ok.inj (hread.symm.trans (Range.decode_toJson _))⟩

/-! ## Exactness -/

/-- **Displayed positions.** A position is shown as it is, counted from one, if and only if both of
its numbers are below the largest one, and so it is told in reports. If that is so of all that a
reply tells, then it is so of both ranges of every symbol that was read from it, before and after
containment repair, with one exception: in a flat list, where a range has more lines than one, the
end of the name that stands in its first line overflows, and is shown as column 0. -/
theorem displayed_positions {result : Json} {forest : List Symbol}
    (hread : decodeSymbols result = .ok (some forest))
    (hbelow : ∀ r, TellsRange result r → r.BelowMax) :
    (∀ p : Position, (p.BelowMax ↔
        p.toDisplay.1.toNat = p.line.toNat + 1 ∧ p.toDisplay.2.toNat = p.character.toNat + 1) ∧
      (p.BelowMax ↔ Report.positionJson p =
        .obj [("column", .nat (p.character.toNat + 1)), ("line", .nat (p.line.toNat + 1))])) ∧
    (∀ s ∈ Symbol.flatten forest, Shown (IsFlatReply result) s) ∧
    ∀ s ∈ (Outline.normalize forest).flatten, Shown (IsFlatReply result) s :=
  ⟨fun _ => ⟨Position.belowMax_iff, Position.positionJson_eq_iff.symm⟩,
    fun _ hs => shown_of_mem_flatten hread hbelow hs,
    fun _ hs => shown_of_mem_flatten hread hbelow ((Outline.flatten_normalize forest).subset hs)⟩

/-- A class of ten lines, as an entry of a flat list. -/
def FlatSymbol.widget : FlatSymbol where
  name := "Widget"
  kind := 5
  place := ⟨"file:///w.ts", ⟨⟨0, 0⟩, ⟨9, 1⟩⟩⟩
  containerName := none

/-- A method of that class on a single line. -/
def FlatSymbol.draw : FlatSymbol where
  name := "draw"
  kind := 6
  place := ⟨"file:///w.ts", ⟨⟨2, 4⟩, ⟨2, 30⟩⟩⟩
  containerName := some "Widget"

/-- The class and its method, before and after the one is put into the other. -/
theorem displayed_positions_widget :
    let entries := [FlatSymbol.widget, FlatSymbol.draw]
    let result := Json.arr (entries.map FlatSymbol.toJson)
    let forest := entries.map FlatSymbol.symbol
    decodeSymbols result = .ok (some forest) ∧ (∀ r, TellsRange result r → r.BelowMax) ∧
      (∀ s ∈ Symbol.flatten forest, Shown (IsFlatReply result) s) ∧
      ∀ s ∈ (Outline.normalize forest).flatten, Shown (IsFlatReply result) s := by
  intro entries result forest
  have hread : decodeSymbols result = .ok (some forest) := decodeSymbols_flat _ _
  have hbelow (r : Range) (h : TellsRange result r) : r.BelowMax := by
    obtain ⟨f, hf, rfl⟩ := TellsRange.exists_of_flat .widget [.draw] h
    have hentries : ∀ f ∈ entries, f.place.range.BelowMax := by decide
    exact hentries f hf
  exact ⟨hread, hbelow, (displayed_positions hread hbelow).2⟩

/-- All that the reply with this class tells is below the largest number, but its name ends in that
number, which is shown as column 0. -/
theorem widget_name_overflows :
    let result := Json.arr [FlatSymbol.widget.toJson]
    let s := FlatSymbol.widget.symbol
    decodeSymbols result = .ok (some [s]) ∧ (∀ r, TellsRange result r → r.BelowMax) ∧
      s ∈ Symbol.flatten [s] ∧ s ∈ (Outline.normalize [s]).flatten ∧
      s.selectionRange.stop.character = Position.maxWord ∧
      s.selectionRange.stop.toDisplay = (1, 0) := by
  refine ⟨decodeSymbols_flat .widget [], fun r h => ?_, List.mem_singleton_self _,
    (Outline.flatten_normalize _).symm.subset (List.mem_singleton_self _), by decide, by decide⟩
  obtain ⟨f, hf, rfl⟩ := TellsRange.exists_of_flat .widget [] h
  obtain rfl := List.mem_singleton.mp hf
  decide

end OutlineNav

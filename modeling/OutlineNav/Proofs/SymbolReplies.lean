import Mathlib.Data.List.Forall2
import OutlineNav.Proofs.SymbolRecords
import OutlineNav.Provider.Results

/-!
# Replies with symbols

What servers send for the symbols of a document, and what is read from it. An entry of a tree
(`TreeSymbol`) has a kind by number and may lack a detail and children; an entry of a flat list
(`FlatSymbol`) has a place and no children. Both are written as objects without the members that
they lack.

A reply of either form is read as the symbols that its entries tell, each entry as one symbol, in
the order and, for a tree, in the shape of the reply (`decodeSymbols_reply`). Which form it is the
first entry decides, by a member that no entry of a tree has. No depth or width of the tree is too
much, and every number is a kind.
-/

namespace OutlineNav

open Json
open Json.Decoder

/-! ## Kinds by number -/

namespace SymbolKind

theorem toNat_toUInt32_code (kind : SymbolKind) : kind.code.toUInt32.toNat = kind.code := by
  cases kind <;> rfl

/-- The kinds have the numbers from 1 to 26. -/
theorem exists_code_iff (n : Nat) : (∃ kind : SymbolKind, kind.code = n) ↔ 1 ≤ n ∧ n ≤ 26 := by
  constructor
  · rintro ⟨kind, rfl⟩
    cases kind <;> decide
  · rintro ⟨hpos, hle⟩
    have hall : all.map code = List.range' 1 26 := rfl
    have hmem : n ∈ all.map code := by
      rw [hall, List.mem_range'_1]
      omega
    obtain ⟨kind, -, hkind⟩ := List.mem_map.mp hmem
    exact ⟨kind, hkind⟩

end SymbolKind

/-! ## Trees of entries -/

/-- An entry of a tree as servers send it. -/
structure TreeSymbol where
  name : String
  detail : Option String
  kind : UInt32
  range : Range
  selectionRange : Range
  children : Option (List TreeSymbol)

namespace TreeSymbol

mutual

def toJson : TreeSymbol → Json
  | ⟨name, detail, kind, range, selectionRange, children⟩ =>
    .obj (Json.present [
      ("children", childrenToJson children),
      ("detail", detail.map .str),
      ("kind", some (.word kind)),
      ("name", some (.str name)),
      ("range", some range.toJson),
      ("selectionRange", some selectionRange.toJson)])

def childrenToJson : Option (List TreeSymbol) → Option Json
  | none => none
  | some forest => some (.arr (forestToJson forest))

def forestToJson : List TreeSymbol → List Json
  | [] => []
  | t :: rest => toJson t :: forestToJson rest

end

mutual

/-- The symbol that an entry tells. -/
def symbol : TreeSymbol → Symbol
  | ⟨name, detail, kind, range, selectionRange, children⟩ => {
    name
    detail := detail.getD ""
    kind := .ofCode kind
    range
    selectionRange
    children := childSymbols children }

def childSymbols : Option (List TreeSymbol) → List Symbol
  | none => []
  | some forest => symbols forest

def symbols : List TreeSymbol → List Symbol
  | [] => []
  | t :: rest => symbol t :: symbols rest

end

/-- The members of an entry. -/
def written (t : TreeSymbol) : List (String × Option Json) :=
  [("children", childrenToJson t.children), ("detail", t.detail.map .str),
    ("kind", some (.word t.kind)), ("name", some (.str t.name)), ("range", some t.range.toJson),
    ("selectionRange", some t.selectionRange.toJson)]

theorem toJson_eq (t : TreeSymbol) : t.toJson = .obj (present t.written) := by
  cases t; rfl

theorem map_fst_written (t : TreeSymbol) : t.written.map (·.1) =
    ["children", "detail", "kind", "name", "range", "selectionRange"] := rfl

theorem nodup_written (t : TreeSymbol) : (t.written.map (·.1)).Nodup := by
  rw [map_fst_written]
  decide

/-! ### Trees read back -/

/-- An entry is read as its symbol if its children are. -/
theorem readTree_of_children {t : TreeSymbol}
    (h : ∀ v, childrenToJson t.children = some v →
      Symbol.readChildren .server v = .ok (childSymbols t.children)) :
    Symbol.readTree .server t.toJson = .ok t.symbol := by
  have hchildren :
      ((childrenToJson t.children).mapM (Symbol.readChildren .server)).map (·.getD []) =
      .ok (childSymbols t.children) := by
    cases hjson : childrenToJson t.children with
    | some v => rw [Option.mapM_some, h v hjson]; rfl
    | none =>
        cases hchildren : t.children with
        | none => rfl
        | some forest => rw [hchildren] at hjson; cases hjson
  have hdetail : (t.detail.map Json.str).mapM SymbolForm.server.detail = .ok t.detail := by
    cases t.detail <;> rfl
  have hkind : SymbolForm.server.kind (.word t.kind) = .ok (.ofCode t.kind) :=
    congrArg (Except.map _) (u32_word t.kind)
  rw [toJson_eq]
  refine (Symbol.readTree_fields hchildren hdetail hkind t.name t.range t.selectionRange).trans ?_
  cases t
  rfl

mutual

theorem readTree_toJson : ∀ t : TreeSymbol, Symbol.readTree .server t.toJson = .ok t.symbol
  | ⟨_, _, _, _, _, none⟩ => readTree_of_children nofun
  | ⟨_, _, _, _, _, some forest⟩ =>
    readTree_of_children fun _ hv => Option.some.inj hv ▸ readForest_toJson forest

theorem readForest_toJson : ∀ forest : List TreeSymbol,
    Symbol.readForest .server (forestToJson forest) = .ok (symbols forest)
  | [] => rfl
  | t :: rest => by
      rw [forestToJson, Symbol.readForest, readTree_toJson t, readForest_toJson rest]
      rfl

end

theorem isFlat_forestToJson (forest : List TreeSymbol) : isFlat (forestToJson forest) = false := by
  cases forest with
  | nil => rfl
  | cons t rest =>
      have hlocation : "location" ∉ t.written.map (·.1) := by
        rw [map_fst_written]
        decide
      rw [forestToJson, isFlat, toJson_eq, get?, lookup?_present t.nodup_written,
        lookup?_of_not_mem hlocation]
      rfl

/-! ### Symbols as entries -/

mutual

/-- The entry with every member that tells a symbol. -/
def ofSymbol : Symbol → TreeSymbol
  | ⟨name, detail, kind, range, selectionRange, children⟩ =>
    ⟨name, some detail, kind.code.toUInt32, range, selectionRange, some (ofForest children)⟩

def ofForest : List Symbol → List TreeSymbol
  | [] => []
  | s :: rest => ofSymbol s :: ofForest rest

end

mutual

theorem symbol_ofSymbol : ∀ s : Symbol, (ofSymbol s).symbol = s
  | ⟨_, _, kind, _, _, children⟩ => by
      rw [ofSymbol, symbol, childSymbols, symbols_ofForest children, SymbolKind.ofCode_code kind]
      rfl

theorem symbols_ofForest : ∀ forest : List Symbol, symbols (ofForest forest) = forest
  | [] => rfl
  | s :: rest => by rw [ofForest, symbols, symbol_ofSymbol s, symbols_ofForest rest]

end

mutual

theorem toJson_ofSymbol : ∀ s : Symbol, (ofSymbol s).toJson = s.toServerJson
  | ⟨_, _, kind, _, _, children⟩ => by
      rw [ofSymbol, toJson, childrenToJson, forestToJson_ofForest children, Symbol.toServerJson,
        word, kind.toNat_toUInt32_code]
      rfl

theorem forestToJson_ofForest : ∀ forest : List Symbol,
    forestToJson (ofForest forest) = Symbol.forestToServerJson forest
  | [] => rfl
  | s :: rest => by
      rw [ofForest, forestToJson, toJson_ofSymbol s, forestToJson_ofForest rest,
        Symbol.forestToServerJson]

end

end TreeSymbol

/-! ## First lines -/

namespace Position

theorem le_min {p a b : Position} : p ≤ a.min b ↔ p ≤ a ∧ p ≤ b := by
  rw [Position.min]
  split <;> simp only [le_iff_rank] at * <;> omega

theorem le_lineEnd {p : Position} {line : UInt32} : p ≤ ⟨line, maxWord⟩ ↔ p.line ≤ line := by
  have hcharacter : p.character.toNat ≤ maxWord.toNat := Nat.le_of_lt_succ p.character.toNat_lt
  change p.line < line ∨ p.line = line ∧ p.character ≤ maxWord ↔ _
  rw [UInt32.lt_iff_toNat_lt, UInt32.le_iff_toNat_le, UInt32.le_iff_toNat_le, ← UInt32.toNat_inj]
  omega

theorem line_le_line {a b : Position} (h : a ≤ b) : a.line ≤ b.line := by
  rw [UInt32.le_iff_toNat_le]
  rcases h with hlt | ⟨heq, -⟩
  · exact Nat.le_of_lt hlt
  · exact Nat.le_of_eq (congrArg _ heq)

end Position

namespace FlatSymbol

/-- The range is the first line of another: the places of that line which belong to the other. -/
structure IsHeader (r line : Range) : Prop where
  start : line.start = r.start
  inside : r.containsRange line = true
  single : line.start.line = line.stop.line
  contains_iff : ∀ p, line.contains p = true ↔ r.contains p = true ∧ p.line = r.start.line

theorem isHeader_header {r : Range} (h : r.start ≤ r.stop) : IsHeader r (header r) := by
  have hcontains (p : Position) :
      (header r).contains p = true ↔ r.contains p = true ∧ p.line = r.start.line := by
    simp only [Range.contains, Bool.and_eq_true, decide_eq_true_eq]
    rw [header, Position.le_min, Position.le_lineEnd]
    constructor
    · rintro ⟨hstart, hline, hstop⟩
      exact ⟨⟨hstart, hstop⟩, UInt32.le_antisymm hline (Position.line_le_line hstart)⟩
    · rintro ⟨⟨hstart, hstop⟩, hline⟩
      exact ⟨hstart, UInt32.le_of_eq hline, hstop⟩
  have hstart : r.start ≤ (header r).stop :=
    Position.le_min.mpr ⟨Position.le_lineEnd.mpr (UInt32.le_refl _), h⟩
  -- That it ends on its line and inside of the range is what its own end says of `hcontains`.
  have hstop : (header r).contains (header r).stop = true := by
    rw [Range.contains, Bool.and_eq_true, decide_eq_true_eq, decide_eq_true_eq]
    exact ⟨hstart, Position.le_iff_rank.mpr (Nat.le_refl _)⟩
  obtain ⟨hinside, hline⟩ := (hcontains _).mp hstop
  rw [Range.contains, Bool.and_eq_true] at hinside
  exact {
    start := rfl
    inside := by
      rw [Range.containsRange, Bool.and_eq_true, decide_eq_true_eq]
      exact ⟨Position.le_iff_rank.mpr (Nat.le_refl _), hinside.2⟩
    single := hline.symm
    contains_iff := hcontains }

/-- A range that ends before it starts has no first line, and stands for itself. -/
example : header ⟨⟨5, 0⟩, ⟨2, 0⟩⟩ = ⟨⟨5, 0⟩, ⟨2, 0⟩⟩ := by decide

end FlatSymbol

/-! ## Entries of flat lists -/

namespace PlaceInfo

/-- The members of a place. -/
def written (p : PlaceInfo) : List (String × Option Json) :=
  [("range", some p.range.toJson), ("uri", some (.str p.uri))]

def toJson (p : PlaceInfo) : Json := .obj (present p.written)

theorem decode_toJson (p : PlaceInfo) : decode p.toJson = .ok p := by
  have hnodup : (p.written.map (·.1)).Nodup := by
    show ["range", "uri"].Nodup
    decide
  have hrange : member? Range.decode "range" (present p.written) = .ok (some p.range) :=
    member?_present_some hnodup (i := 0) rfl (Range.decode_toJson _)
  have huri : member? string "uri" (present p.written) = .ok (some p.uri) :=
    member?_present_some hnodup (i := 1) rfl rfl
  simp only [toJson, decode, record, hrange, huri]
  rfl

end PlaceInfo

namespace FlatSymbol

/-- The members of an entry. -/
def written (f : FlatSymbol) : List (String × Option Json) :=
  [("containerName", f.containerName.map .str), ("kind", some (.word f.kind)),
    ("location", some f.place.toJson), ("name", some (.str f.name))]

def toJson (f : FlatSymbol) : Json := .obj (present f.written)

theorem nodup_written (f : FlatSymbol) : (f.written.map (·.1)).Nodup := by
  show ["containerName", "kind", "location", "name"].Nodup
  decide

theorem decode_toJson (f : FlatSymbol) : decode f.toJson = .ok f := by
  have hcontainer : optional string "containerName" (present f.written) = .ok f.containerName := by
    rw [Decoder.optional, member?_present f.nodup_written (i := 0) rfl]
    cases f.containerName <;> rfl
  have hkind : member? u32 "kind" (present f.written) = .ok (some f.kind) :=
    member?_present_some f.nodup_written (i := 1) rfl (u32_word _)
  have hplace : member? PlaceInfo.decode "location" (present f.written) = .ok (some f.place) :=
    member?_present_some f.nodup_written (i := 2) rfl (PlaceInfo.decode_toJson _)
  have hname : member? string "name" (present f.written) = .ok (some f.name) :=
    member?_present_some f.nodup_written (i := 3) rfl rfl
  simp only [toJson, decode, record, hcontainer, hkind, hplace, hname]
  rfl

theorem isFlat_cons (f : FlatSymbol) (rest : List Json) : isFlat (f.toJson :: rest) = true := by
  rw [isFlat, toJson, get?, lookup?_present f.nodup_written,
    lookup?_of_mem f.nodup_written (List.mem_of_getElem? (i := 2) rfl)]
  rfl

/-- An entry tells a symbol of its name, kind and place, without a detail or children. The first
line of the place stands for the name where the place does not end before it starts. -/
structure Tells (f : FlatSymbol) (s : Symbol) : Prop where
  name : s.name = f.name
  kind : s.kind = .ofCode f.kind
  range : s.range = f.place.range
  detail : s.detail = ""
  children : s.children = []
  header : f.place.range.start ≤ f.place.range.stop → IsHeader f.place.range s.selectionRange

theorem tells_symbol (f : FlatSymbol) : f.Tells f.symbol where
  name := rfl
  kind := rfl
  range := rfl
  detail := rfl
  children := rfl
  header := isHeader_header

end FlatSymbol

/-! ## Replies -/

theorem decodeSymbols_forestToJson (forest : List TreeSymbol) :
    decodeSymbols (.arr (TreeSymbol.forestToJson forest)) =
      .ok (some (TreeSymbol.symbols forest)) := by
  rw [decodeSymbols, if_neg (by rw [TreeSymbol.isFlat_forestToJson]; nofun), Symbol.decodeForest,
    TreeSymbol.readForest_toJson]

theorem decodeSymbols_flat (f : FlatSymbol) (rest : List FlatSymbol) :
    decodeSymbols (.arr ((f :: rest).map FlatSymbol.toJson)) =
      .ok (some ((f :: rest).map FlatSymbol.symbol)) := by
  rw [decodeSymbols, List.map_cons, if_pos (f.isFlat_cons _), ← List.map_cons, list,
    items_map FlatSymbol.decode_toJson]

/-- A reply is read as what its entries tell. A tree keeps its shape and order, its kinds are told
by their numbers, and every forest of symbols is read back from the reply that is made of it; a flat
list gives one symbol without children for each entry, in order. -/
theorem decodeSymbols_reply :
    (∀ trees : List TreeSymbol, decodeSymbols (.arr (TreeSymbol.forestToJson trees)) =
      .ok (some (TreeSymbol.symbols trees))) ∧
    (∀ forest : List Symbol, decodeSymbols (.arr (Symbol.forestToServerJson forest)) =
      .ok (some forest)) ∧
    (∀ n : Nat, (∃ kind : SymbolKind, kind.code = n) ↔ 1 ≤ n ∧ n ≤ 26) ∧
    ∀ (first : FlatSymbol) (rest : List FlatSymbol), ∃ symbols,
      decodeSymbols (.arr ((first :: rest).map FlatSymbol.toJson)) = .ok (some symbols) ∧
      List.Forall₂ FlatSymbol.Tells (first :: rest) symbols := by
  refine ⟨decodeSymbols_forestToJson, fun forest => ?_, SymbolKind.exists_code_iff,
    fun first rest => ⟨_, decodeSymbols_flat first rest, ?_⟩⟩
  · rw [← TreeSymbol.forestToJson_ofForest, decodeSymbols_forestToJson, TreeSymbol.symbols_ofForest]
  · rw [List.forall₂_map_right_iff, List.forall₂_same]
    exact fun f _ => f.tells_symbol

end OutlineNav

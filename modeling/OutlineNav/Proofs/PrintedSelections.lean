import OutlineNav.Document.FileTree
import OutlineNav.Editor.Basic
import OutlineNav.Proofs.DisplayedPositions
import OutlineNav.Proofs.Echoes
import OutlineNav.Proofs.LocationTexts

/-!
# Printed positions and selections

A position is printed as its line and column, both counted from one, and a selection as its anchor
and its active end with two points between them. The printed numbers count from one, so they are
read back (`LineColumn.parse_text`), and one is taken away again where one was added
(`position_ofPosition`). No number and no colon is a point, so the two points of a selection are the
first ones of its text.

An editor that is told the selections which it printed after a move therefore stays where it is
(`printed_selections_read`), and takes them for the echo of the move. Nothing of this holds of the
largest line or column, which is printed as 0.
-/

namespace OutlineNav

open Text (isBlank trimmed)

/-! ## Words -/

theorem Position.predWord_succ {n : UInt32} (h : n < maxWord) : predWord (n + 1) = n := by
  have hsucc := toNat_succ_iff.mpr h
  have hne : n + 1 ≠ 0 := by
    rw [ne_eq, ← UInt32.toNat_inj, hsucc]
    exact Nat.succ_ne_zero _
  rw [predWord, if_neg hne, UInt32.add_sub_cancel]

theorem Position.one_le_succ {n : UInt32} (h : n < maxWord) : 1 ≤ n + 1 := by
  rw [UInt32.le_iff_toNat_le, toNat_succ_iff.mpr h]
  exact Nat.le_add_left 1 n.toNat

/-! ## Positions -/

namespace LineColumn

theorem counted_ofPosition {p : Position} (h : p.BelowMax) : (ofPosition p).Counted :=
  ⟨Position.one_le_succ h.line, Position.one_le_succ h.character⟩

theorem position_ofPosition {p : Position} (h : p.BelowMax) : (ofPosition p).position = p := by
  obtain ⟨line, character⟩ := p
  rw [position, Position.ofDisplay, Position.mk.injEq]
  exact ⟨Position.predWord_succ h.line, Position.predWord_succ h.character⟩

/-- There is nothing to trim around a text that starts and ends with a number. -/
theorem trimmed_text (p : LineColumn) : trimmed p.text.toList = p.text.toList := by
  obtain ⟨d, hd, hdigit⟩ := Location.startsWithDigit_word p.line []
  rw [List.append_nil] at hd
  obtain ⟨ds, hline⟩ := List.head?_eq_some_iff.mp hd
  have hblank : isBlank d = false := Text.isBlank_of_isDigit (Location.isDigit_eq d ▸ hdigit)
  have htext : p.text.toList = d :: (ds ++ [':']) ++ (toString p.column).toList := by
    rw [toList_text, hline]
    simp
  rw [htext]
  exact Text.trimmed_append_word hblank p.column

theorem point_not_mem_text (p : LineColumn) : '.' ∉ p.text.toList := by
  rw [toList_text, List.mem_append, List.mem_cons]
  rintro (hline | hcolon | hcolumn)
  · exact absurd (Text.isDigit_of_mem_word hline) (by decide)
  · exact absurd hcolon (by decide)
  · exact absurd (Text.isDigit_of_mem_word hcolumn) (by decide)

end LineColumn

theorem Report.point_not_mem_positionText (p : Position) : '.' ∉ (positionText p).toList :=
  LineColumn.point_not_mem_text _

theorem parsePosition_positionText {p : Position} (h : p.BelowMax) :
    parsePosition (Report.positionText p).toList = .ok p := by
  rw [parsePosition, ← trimmed, Report.positionText, LineColumn.trimmed_text,
    LineColumn.parse_text (LineColumn.counted_ofPosition h)]
  exact congrArg Except.ok (LineColumn.position_ofPosition h)

/-! ## Selections -/

theorem splitPoints?_append {before after : List Char} (h : '.' ∉ before) :
    splitPoints? (before ++ '.' :: '.' :: after) = some (before, after) := by
  induction before with
  | nil => rfl
  | cons c before ih =>
      obtain ⟨hc, hbefore⟩ := not_or.mp (mt List.mem_cons.mpr h)
      rw [List.cons_append, splitPoints?, ih hbefore]
      · rfl
      · rintro _ rfl
        exact absurd rfl hc

theorem splitPoints?_of_not_mem {cs : List Char} (h : '.' ∉ cs) : splitPoints? cs = none := by
  induction cs with
  | nil => rfl
  | cons c cs ih =>
      obtain ⟨hc, hcs⟩ := not_or.mp (mt List.mem_cons.mpr h)
      rw [splitPoints?, ih hcs]
      · rfl
      · rintro _ rfl
        exact absurd rfl hc

namespace Selection

/-- Both ends are below the largest number. -/
structure BelowMax (s : Selection) : Prop where
  anchor : s.anchor.BelowMax
  active : s.active.BelowMax

/-- The two ends as they are printed, with two points between them. -/
def text (s : Selection) : String :=
  s!"{Report.positionText s.anchor}..{Report.positionText s.active}"

theorem toList_text (s : Selection) : s.text.toList =
    (Report.positionText s.anchor).toList ++
      '.' :: '.' :: (Report.positionText s.active).toList := by
  simp [text, ToString.toString]

theorem parse_text {s : Selection} (h : s.BelowMax) : parseSelection s.text.toList = .ok s := by
  rw [parseSelection, toList_text, splitPoints?_append (Report.point_not_mem_positionText _)]
  simp only [parsePosition_positionText h.anchor, parsePosition_positionText h.active]
  rfl

theorem parse_positionText {p : Position} (h : p.BelowMax) :
    parseSelection (Report.positionText p).toList = .ok (.caret p) := by
  rw [parseSelection, splitPoints?_of_not_mem (Report.point_not_mem_positionText _)]
  simp only [parsePosition_positionText h]
  rfl

theorem mapM_parse_text {selections : List Selection} (h : ∀ s ∈ selections, s.BelowMax) :
    (selections.map text).mapM (fun printed => parseSelection printed.toList) = .ok selections := by
  induction selections with
  | nil => rfl
  | cons s selections ih =>
      obtain ⟨hs, hselections⟩ := List.forall_mem_cons.mp h
      rw [List.map_cons, List.mapM_cons, parse_text hs, ih hselections]
      rfl

end Selection

/-! ## Editors -/

namespace Editor

variable {ω : Type} (env : Environs (StateM ω))

/-- An editor that is told its own selections, as they are printed, stays where it is. -/
theorem perform_select_printed (e : Editor) (h : ∀ s ∈ e.selections, s.BelowMax) (w : ω) :
    let changed := e.navigator.selectionChanged e.document e.selections
    (e.perform env (.select (e.selections.map (·.text)))).run w =
      ((.ok (updateMembers changed.1), { e with navigator := changed.2 }), w) := by
  intro changed
  rw [perform, Selection.mapM_parse_text h]
  rfl

end Editor

/-- What is told of the selections of a move is its echo. -/
theorem selectionChanged_navigateBy {ω : Type} (p : Provider (StateM ω)) {n : Navigator}
    {d : Document} {w : ω} (hfound : ((n.outlineBy p d).run w).1.1.isEmpty = false)
    (selections : List Selection) (direction : Direction) (select : Bool) :
    let moved := (n.navigateBy p d selections direction select).run w
    (moved.1.2.selectionChanged d moved.1.1.selections).1 = .reapply moved.1.1.highlights := by
  intro moved
  obtain ⟨o, s, hkept, hlast, hhighlights⟩ :=
    exists_session_of_navigateBy p hfound selections direction select
  have hself := moved.1.2.selectionChanged_self d moved.1.1.selections
  rw [hkept, Kept.selectionChanged, Session.selectionChanged, if_pos hlast] at hself
  rw [(Prod.mk.inj hself).1, hhighlights]

/-- **What is printed is read.** A position is read from the text that it is printed as, and so is a
selection, with the caret at the same end; the text of its active end alone is the caret there. So
an editor can be told the selections that it has printed after a move: it has the same ones still,
in the same document, and if the move was made in an outline, it takes them for the echo of the
move. -/
theorem printed_selections_read {ω : Type} (env : Editor.Environs (StateM ω)) (e : Editor)
    (direction : Direction) (select : Bool) (w : ω) :
    (∀ p : Position, p.BelowMax → parsePosition (Report.positionText p).toList = .ok p) ∧
    (∀ s : Selection, s.BelowMax → parseSelection s.text.toList = .ok s ∧
      parseSelection (Report.positionText s.active).toList = .ok (.caret s.active)) ∧
    let moved :=
      (e.navigator.navigateBy env.provider e.document e.selections direction select).run w
    let outcome := moved.1.1
    let e' : Editor := { e with navigator := moved.1.2, selections := outcome.selections }
    (e.perform env (.goto direction select)).run w =
        ((.ok (Report.move (e.file env) direction outcome).members, e'), moved.2) ∧
      ((∀ s ∈ outcome.selections, s.BelowMax) →
        ∃ (update : HighlightUpdate) (navigator : Navigator),
          (e'.perform env (.select (outcome.selections.map (·.text)))).run moved.2 =
            ((.ok (Editor.updateMembers update), { e' with navigator }), moved.2) ∧
          (((e.navigator.outlineBy env.provider e.document).run w).1.1.isEmpty = false →
            update = .reapply outcome.highlights)) := by
  refine ⟨fun p hp => parsePosition_positionText hp,
    fun s hs => ⟨Selection.parse_text hs, Selection.parse_positionText hs.active⟩, ?_⟩
  intro moved outcome e'
  refine ⟨rfl, fun hbelow => ?_⟩
  exact ⟨_, _, e'.perform_select_printed env hbelow moved.2, fun hfound =>
    selectionChanged_navigateBy env.provider hfound e.selections direction select⟩

/-- Every document has the same symbols. -/
def Provider.constant {m : Type → Type} [Monad m] (symbols : List Symbol) : Provider m where
  symbols _ := return .ok (some symbols)
  folds _ := return .ok []
  close _ := pure ()
  shutdown := pure ()

/-- The last position whose line and column are printed as they are. -/
def Position.edge : Position := ⟨maxWord - 1, maxWord - 1⟩

/-- A function, and a class behind it that goes on up to the edge. -/
def Outline.edgeSample : List Symbol :=
  [⟨"open", "", .function, ⟨⟨0, 0⟩, ⟨2, 1⟩⟩, ⟨⟨0, 3⟩, ⟨0, 7⟩⟩, []⟩,
    ⟨"Shop", "", .classType, ⟨⟨4, 2⟩, .edge⟩, ⟨⟨4, 8⟩, ⟨4, 12⟩⟩, []⟩]

/-- The class is selected backwards from the edge, and selected again as it was printed. -/
theorem printed_selections_read_edge :
    let env : Editor.Environs (StateM FileTree) :=
      ⟨"/", FileTree.files "/", .constant Outline.edgeSample⟩
    let e := Editor.onDocument (.new ⟨false⟩) "/a.rs"
    let s : Selection := ⟨.edge, ⟨4, 2⟩⟩
    let moved := ((e.perform env (.goto .next true)).run .empty).1.2
    Position.edge.BelowMax ∧ s.BelowMax ∧ s.text = "4294967295:4294967295..5:3" ∧
      parsePosition (Report.positionText .edge).toList = .ok .edge ∧
      parseSelection s.text.toList = .ok s ∧ moved.selections = [s] ∧
      ∃ told : Editor, (moved.perform env (.select [s.text])).run .empty =
        ((.ok (Editor.updateMembers (.reapply [⟨⟨4, 2⟩, .edge⟩])), told), .empty) ∧
        told.selections = [s] := by
  intro env e s moved
  have hs : s.BelowMax := ⟨by decide, by decide⟩
  have hfound :
      ((e.navigator.outlineBy env.provider e.document).run .empty).1.1.isEmpty = false := by
    decide +kernel
  obtain ⟨hposition, hselection, -, htold⟩ := printed_selections_read env e .next true .empty
  obtain ⟨hselections, hhighlights⟩ :
      moved.selections = [s] ∧ ((e.navigator.navigateBy env.provider e.document e.selections
        .next true).run .empty).1.1.highlights = [⟨⟨4, 2⟩, .edge⟩] := by decide +kernel
  obtain ⟨update, navigator, hrun, hecho⟩ := htold fun t ht => by
    have ht : t ∈ moved.selections := ht
    rw [hselections, List.mem_singleton] at ht
    exact ht ▸ hs
  have hprinted : moved.selections.map (·.text) = [s.text] := by rw [hselections]; rfl
  rw [← hprinted, ← hhighlights, ← hecho hfound]
  exact ⟨by decide, hs, by decide +kernel, hposition .edge (by decide), (hselection s hs).1,
    hselections, _, hrun, hselections⟩

end OutlineNav

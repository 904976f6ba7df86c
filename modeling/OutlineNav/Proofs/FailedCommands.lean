import Mathlib.Data.List.Forall2
import Mathlib.Data.Set.Basic
import OutlineNav.CommandLine.Program
import OutlineNav.Document.FileTree
import OutlineNav.Proofs.CompactLines
import OutlineNav.Proofs.MessageTexts

/-!
# Failed commands

A command to the editor that is faulty fails and changes nothing, and any other succeeds
(`Editor.perform_cases`). So a line that fails can be left out of a script: the other lines get the
replies they got before, and the editor ends as it did (`Editor.replies_without`).

Both are said of an editor among things that never change (`Environs Id`). A real one reads files,
and a recording in them, through the world; but where these stay the same it gets the answers that
the other gets (`Environs.FixedAs`), command by command, and so for whole scripts. The program is
then followed from its start to the editor that it opens and to what it prints
(`failed_commands_leave_no_trace`).
-/

namespace OutlineNav

variable {κ ω α β : Type} {still : Set ω}

/-! ## What stays the same -/

/-- In all worlds of `still` the action gives `a`, and it leads to none but those. -/
def Yields (still : Set ω) (act : StateM ω α) (a : α) : Prop :=
  ∀ w ∈ still, ∃ w' ∈ still, act.run w = (a, w')

/-- The action gives `a` and leaves the pool of servers as it is. -/
def PoolYields (still : Set ω) (act : StateT (Pool κ) (StateM ω) α) (a : α) : Prop :=
  ∀ pool, Yields still (act.run pool) (a, pool)

/-- The action gives the same in all worlds of `still`. -/
def Steady (still : Set ω) (act : StateM ω α) : Prop := ∃ a, Yields still act a

/-- What is read of the files is the same in all worlds of `still`, and reading leads to none but
those. -/
structure Files.StillIn (files : Files (StateM ω)) (still : Set ω) : Prop where
  canonical : ∀ path, Steady still (files.canonical path)
  read : ∀ path, Steady still (files.read path)
  present : ∀ path, Steady still (files.present path)

namespace Yields

theorem pure (a : α) : Yields still (pure a) a := fun w hw => ⟨w, hw, rfl⟩

theorem bind {act : StateM ω α} {next : α → StateM ω β} {a : α} {b : β} (h : Yields still act a)
    (hnext : Yields still (next a) b) : Yields still (act >>= next) b := by
  intro w hw
  obtain ⟨w₁, hw₁, hact⟩ := h w hw
  obtain ⟨w₂, hw₂, hrun⟩ := hnext w₁ hw₁
  refine ⟨w₂, hw₂, ?_⟩
  rw [StateT.run_bind, hact]
  exact hrun

/-- What the action gives in one world. -/
theorem run_fst {act : StateM ω α} {a : α} (h : Yields still act a) {w : ω} (hw : w ∈ still) :
    (act.run w).1 = a := by
  obtain ⟨w', -, heq⟩ := h w hw
  rw [heq]

end Yields

namespace Steady

theorem pure (a : α) : Steady still (pure a) := ⟨a, .pure a⟩

theorem bind {act : StateM ω α} {next : α → StateM ω β} (h : Steady still act)
    (hnext : ∀ a, Steady still (next a)) : Steady still (act >>= next) := by
  obtain ⟨a, hact⟩ := h
  obtain ⟨b, hb⟩ := hnext a
  exact ⟨b, hact.bind hb⟩

theorem mem {act : StateM ω α} (h : Steady still act) {a : α} {w w' : ω} (hw : w ∈ still)
    (hrun : act.run w = (a, w')) : w' ∈ still := by
  obtain ⟨b, hact⟩ := h
  obtain ⟨w₁, hw₁, heq⟩ := hact w hw
  cases hrun.symm.trans heq
  exact hw₁

end Steady

namespace PoolYields

theorem pure (a : α) : PoolYields (κ := κ) still (pure a) a := fun pool => .pure (a, pool)

theorem bind {act : StateT (Pool κ) (StateM ω) α} {next : α → StateT (Pool κ) (StateM ω) β} {a : α}
    {b : β} (h : PoolYields still act a) (hnext : PoolYields still (next a) b) :
    PoolYields still (act >>= next) b := by
  intro pool
  rw [StateT.run_bind]
  exact (h pool).bind (hnext pool)

theorem lift {act : StateM ω α} {a : α} (h : Yields still act a) :
    PoolYields (κ := κ) still (liftM act) a := by
  intro pool
  show Yields still (act >>= fun a => Pure.pure (a, pool)) _
  exact h.bind (.pure _)

end PoolYields

/-! ## Answers -/

/-- Whether an answer says that its command succeeded. -/
def Json.succeeded? (answer : Json) : Option Bool :=
  match answer.get? "success" with
  | some (.bool b) => some b
  | _ => none

namespace Report

theorem succeeded?_failure (message : String) : (failure message).succeeded? = some false := rfl

theorem succeeded?_success {members : List (String × Json)}
    (h : ("success" :: members.map (·.1)).Nodup) : (success members).succeeded? = some true := by
  have hkeys : ((("success", .bool true) :: members).map (·.1)).Nodup := h
  rw [success, Json.succeeded?, Json.object, Json.get?, Json.lookup?_sortMembers hkeys,
    Named.lookup?, if_pos rfl]

end Report

namespace Editor

variable {m : Type → Type} [Monad m]

/-- The answers to lines, one for each line, and the editor after them. -/
def replies (env : Environs m) (e : Editor) : List String → m (List (Option Json) × Editor)
  | [] => return ([], e)
  | line :: rest => do
    let (reply?, e) ← e.answer env line
    let (later, e) ← e.replies env rest
    return (reply? :: later, e)

theorem answers_eq [LawfulMonad m] (env : Environs m) (e : Editor) (lines : List String) :
    e.answers env lines =
      (fun (replies, e) => (replies.filterMap id, e)) <$> e.replies env lines := by
  induction lines generalizing e with
  | nil => simp [answers, replies]
  | cons line rest ih =>
    simp only [answers, replies, ih, map_bind, bind_map_left]
    refine bind_congr fun (reply?, e₁) => bind_congr fun (later, e₂) => ?_
    cases reply? <;> simp

/-! ## Editors among things that stay the same -/

/-- What an editor finds around it is what it finds around it in `fixed`, where nothing happens. -/
structure Environs.FixedAs (still : Set ω) (env : Environs (StateT (Pool κ) (StateM ω)))
    (fixed : Environs Id) : Prop where
  root : env.root = fixed.root
  canonical : ∀ path, PoolYields still (env.files.canonical path) (fixed.files.canonical path).run
  symbols : ∀ d, PoolYields still (env.provider.symbols d) (fixed.provider.symbols d).run
  close : ∀ d, PoolYields still (env.provider.close d) ()

namespace Environs.FixedAs

variable {env : Environs (StateT (Pool κ) (StateM ω))} {fixed : Environs Id}

theorem getOutlineBy (h : FixedAs still env fixed) (ix : Index) (d : Document) :
    PoolYields still (ix.getOutlineBy env.provider d) (ix.getOutlineBy fixed.provider d).run := by
  rw [Index.getOutlineBy, Index.getOutlineBy]
  rcases ix.lookup d with ⟨_ | handle, ix⟩
  · exact (h.symbols d).bind (.pure _)
  · exact .pure _

theorem outlineBy (h : FixedAs still env fixed) (n : Navigator) (d : Document) :
    PoolYields still (n.outlineBy env.provider d) (n.outlineBy fixed.provider d).run := by
  rw [Navigator.outlineBy, Navigator.outlineBy, Id.run_bind]
  refine (h.getOutlineBy n.index d).bind ?_
  rcases (n.index.getOutlineBy fixed.provider d).run with ⟨handle, index⟩
  exact .pure _

theorem navigateBy (h : FixedAs still env fixed) (n : Navigator) (d : Document)
    (selections : List Selection) (direction : Direction) (select : Bool) :
    PoolYields still (n.navigateBy env.provider d selections direction select)
      (n.navigateBy fixed.provider d selections direction select).run := by
  rw [Navigator.navigateBy, Navigator.navigateBy, Id.run_bind]
  refine (h.getOutlineBy n.index d).bind ?_
  rcases (n.index.getOutlineBy fixed.provider d).run with ⟨handle, index⟩
  exact .pure _

theorem locate (h : FixedAs still env fixed) (base path : String) :
    PoolYields still (env.files.locate base path) (fixed.files.locate base path).run := by
  rw [Files.locate, Files.locate, Id.run_bind]
  refine (h.canonical _).bind ?_
  rcases (fixed.files.canonical (FilePath.joinText base path)).run with _ | canonical <;>
    exact .pure _

theorem perform (h : FixedAs still env fixed) (e : Editor) (command : EditorCommand) :
    PoolYields still (e.perform env command) (e.perform fixed command).run := by
  have hfile : ∀ e : Editor, e.file env = e.file fixed := fun e => by
    rw [file, file, h.root]
  cases command with
  | goto direction select =>
    rw [Editor.perform, Editor.perform, hfile, Id.run_bind]
    refine (h.navigateBy e.navigator e.document e.selections direction select).bind ?_
    rcases (e.navigator.navigateBy fixed.provider e.document e.selections direction select).run with
      ⟨outcome, navigator⟩
    exact .pure _
  | select positions =>
    rw [Editor.perform, Editor.perform]
    split <;> exact .pure _
  | resolve =>
    rw [Editor.perform, Editor.perform, hfile, Id.run_bind]
    refine (h.outlineBy e.navigator e.document).bind ?_
    rcases (e.navigator.outlineBy fixed.provider e.document).run with ⟨outline, navigator⟩
    exact .pure _
  | edit =>
    rw [Editor.perform, hfile]
    exact .pure _
  | close =>
    rw [Editor.perform, hfile]
    exact (h.close e.document).bind (.pure _)
  | focus path =>
    rw [Editor.perform, Editor.perform, h.root, Id.run_bind]
    refine (h.locate fixed.root path).bind ?_
    rcases (fixed.files.locate fixed.root path).run with problem | next
    · exact .pure _
    · simp only [hfile]
      exact .pure _
  | stats => exact .pure _

theorem answer (h : FixedAs still env fixed) (e : Editor) (line : String) :
    PoolYields still (e.answer env line) (e.answer fixed line).run := by
  rw [Editor.answer, Editor.answer]
  split
  · exact .pure _
  split
  · exact .pure _
  · next command _ =>
    rw [Id.run_bind]
    refine (h.perform e command).bind ?_
    rcases (e.perform fixed command).run with ⟨_ | members, e⟩ <;> exact .pure _

theorem replies (h : FixedAs still env fixed) (e : Editor) (lines : List String) :
    PoolYields still (e.replies env lines) (e.replies fixed lines).run := by
  induction lines generalizing e with
  | nil => exact .pure _
  | cons line rest ih =>
    rw [Editor.replies, Editor.replies, Id.run_bind]
    refine (h.answer e line).bind ?_
    rcases (e.answer fixed line).run with ⟨reply?, e₁⟩
    rw [Id.run_bind]
    refine (ih e₁).bind ?_
    rcases (e₁.replies fixed rest).run with ⟨later, e₂⟩
    exact .pure _

end Environs.FixedAs

/-! ## Lines -/

end Editor

theorem mapM_eq_error_iff {ε : Type} {f : α → Except ε β} {l : List α} :
    (∃ problem, l.mapM f = .error problem) ↔ ∃ a ∈ l, ∃ problem, f a = .error problem := by
  induction l with
  | nil => exact ⟨nofun, nofun⟩
  | cons a l ih =>
    rw [List.mapM_cons, List.exists_mem_cons_iff, ← ih]
    rcases f a with problem | b
    · exact ⟨fun _ => .inl ⟨problem, rfl⟩, fun _ => ⟨problem, rfl⟩⟩
    · rcases l.mapM f with problem | bs
      · exact ⟨fun _ => .inr ⟨problem, rfl⟩, fun _ => ⟨problem, rfl⟩⟩
      · exact ⟨nofun, nofun⟩

/-- A command that cannot be carried out: a selection with a position that is none, or a file to
look at that is not found. -/
def EditorCommand.Faulty (found : String → Prop) : EditorCommand → Prop
  | .select positions => ∃ s ∈ positions, ∃ problem, parseSelection s.toList = .error problem
  | .focus path => ¬found path
  | .goto .. | .resolve | .edit | .close | .stats => False

namespace Editor

/-- A line that is no command, or one that cannot be carried out. -/
def FaultyLine (found : String → Prop) (line : String) : Prop :=
  ∀ command, EditorCommand.parse line.toList = .ok command → command.Faulty found

section

variable (fixed : Environs Id)

/-- Whether there is a file at a path. -/
def Environs.Finds (path : String) : Prop :=
  ∃ document, (fixed.files.locate fixed.root path).run = .ok document

theorem map_fst_updateMembers (update : HighlightUpdate) :
    (updateMembers update).map (·.1) = ["highlights", "ranges"] := by
  cases update <;> rfl

/-- A faulty command fails and changes nothing; any other succeeds, and is answered with members
that do not say so themselves. -/
theorem perform_cases (e : Editor) (command : EditorCommand) :
    (command.Faulty fixed.Finds ∧ ∃ problem, (e.perform fixed command).run = (.error problem, e)) ∨
      (¬command.Faulty fixed.Finds ∧
        ∃ members e', (e.perform fixed command).run = (.ok members, e') ∧
        ("success" :: members.map (·.1)).Nodup) := by
  cases command with
  | goto direction select =>
    have hkeys : ["success", "direction", "file", "highlights", "moved", "selections",
        "targets"].Nodup := by decide
    exact .inr ⟨id, _, _, rfl, hkeys⟩
  | select positions =>
    rw [EditorCommand.Faulty, ← mapM_eq_error_iff]
    rcases hparse : positions.mapM fun s => parseSelection s.toList with problem | selections
    · rw [perform, hparse]
      exact .inl ⟨⟨problem, rfl⟩, problem, rfl⟩
    · rw [perform, hparse]
      refine .inr ⟨nofun, _, _, rfl, ?_⟩
      rw [map_fst_updateMembers]
      decide
  | resolve =>
    have hkeys : ["success", "child", "current", "file", "next", "parent", "position",
        "previous"].Nodup := by decide
    exact .inr ⟨id, _, _, rfl, hkeys⟩
  | edit | close =>
    have hkeys : ["success", "event", "file"].Nodup := by decide
    exact .inr ⟨id, _, _, rfl, hkeys⟩
  | focus path =>
    rw [perform, Id.run_bind, EditorCommand.Faulty, Environs.Finds]
    rcases (fixed.files.locate fixed.root path).run with problem | next
    · exact .inl ⟨nofun, problem, rfl⟩
    · have hkeys : ["success", "event", "file"].Nodup := by decide
      exact .inr ⟨not_not_intro ⟨next, rfl⟩, _, _, rfl, hkeys⟩
  | stats =>
    have hkeys : ["success", "cached_documents", "hits", "misses"].Nodup := by decide
    exact .inr ⟨id, _, _, rfl, hkeys⟩

/-- A line that is not blank has an answer, which says whether the command succeeded. It fails on
faulty lines only, and then nothing has changed. -/
theorem answer_of_not_blank (e : Editor) {line : String} (h : isBlank line = false) :
    ∃ v e', (e.answer fixed line).run = (some v, e') ∧
      (¬FaultyLine fixed.Finds line ∧ v.succeeded? = some true ∨
        FaultyLine fixed.Finds line ∧ v.succeeded? = some false ∧ e' = e) := by
  rw [answer, if_neg (ne_true_of_eq_false h), FaultyLine]
  rcases EditorCommand.parse line.toList with problem | command
  · exact ⟨_, _, rfl, .inr ⟨nofun, Report.succeeded?_failure _, rfl⟩⟩
  · dsimp only
    rw [Id.run_bind]
    rcases e.perform_cases fixed command with
      ⟨hfaulty, problem, hrun⟩ | ⟨hsound, members, e', hrun, hkeys⟩
    · rw [hrun]
      refine ⟨_, _, rfl, .inr ⟨?_, Report.succeeded?_failure _, rfl⟩⟩
      rintro _ ⟨⟩
      exact hfaulty
    · rw [hrun]
      exact ⟨_, _, rfl, .inl ⟨fun hfaulty => hsound (hfaulty command rfl),
        Report.succeeded?_success hkeys⟩⟩

theorem answer_of_blank (e : Editor) {line : String} (h : isBlank line = true) :
    (e.answer fixed line).run = (none, e) := by
  rw [answer, if_pos h]
  rfl

/-- A reply that says that a command failed. -/
def Failed (reply? : Option Json) : Prop := ∃ v, reply? = some v ∧ v.succeeded? = some false

theorem failed_iff {reply? : Option Json} :
    Failed reply? ↔ reply?.bind Json.succeeded? = some false :=
  Option.bind_eq_some_iff.symm

/-- A failed command leaves the editor as it is. -/
theorem answer_of_failed (e : Editor) {line : String} (h : Failed (e.answer fixed line).run.1) :
    (e.answer fixed line).run.2 = e := by
  obtain ⟨v, hv, hfalse⟩ := h
  cases hblank : isBlank line with
  | true => rw [e.answer_of_blank fixed hblank]
  | false =>
    obtain ⟨v', e', hrun, ⟨-, htrue⟩ | ⟨-, -, rfl⟩⟩ := e.answer_of_not_blank fixed hblank
    · rw [hrun] at hv
      cases hv
      cases hfalse.symm.trans htrue
    · rw [hrun]

/-- The reply fits the line: none for a blank line, and else one value, of one line, that says
whether the command succeeded, as it does if and only if the line is not faulty. -/
structure Fits (found : String → Prop) (line : String) (reply? : Option Json) : Prop where
  blank : isBlank line = true → reply? = none
  answered : isBlank line = false → ∃ v b, reply? = some v ∧ v.succeeded? = some b ∧
    (b = true ↔ ¬FaultyLine found line) ∧ OnOneLine v.compact.toList

theorem fits_answer (e : Editor) (line : String) :
    Fits fixed.Finds line (e.answer fixed line).run.1 where
  blank h := by rw [e.answer_of_blank fixed h]
  answered h := by
    obtain ⟨v, e', hrun, ⟨hsound, htrue⟩ | ⟨hfaulty, hfalse, -⟩⟩ := e.answer_of_not_blank fixed h
    · exact ⟨v, true, by rw [hrun], htrue, iff_of_true rfl hsound, v.onOneLine_compact⟩
    · exact ⟨v, false, by rw [hrun], hfalse,
        iff_of_false Bool.false_ne_true (not_not_intro hfaulty), v.onOneLine_compact⟩

/-! ## Scripts -/

theorem run_replies_cons (e : Editor) (line : String) (rest : List String) :
    (e.replies fixed (line :: rest)).run =
      ((e.answer fixed line).run.1 :: ((e.answer fixed line).run.2.replies fixed rest).run.1,
        ((e.answer fixed line).run.2.replies fixed rest).run.2) := by
  rw [replies, Id.run_bind]
  rcases (e.answer fixed line).run with ⟨reply?, e₁⟩
  dsimp only
  rw [Id.run_bind]
  rfl

theorem forall₂_fits_replies (e : Editor) (lines : List String) :
    List.Forall₂ (Fits fixed.Finds) lines (e.replies fixed lines).run.1 := by
  induction lines generalizing e with
  | nil => exact .nil
  | cons line rest ih =>
    rw [run_replies_cons]
    exact .cons (e.fits_answer fixed line) (ih _)

/-- After a line whose command failed the editor is what it was before. -/
theorem replies_take_of_failed (e : Editor) (lines : List String) {i : Nat} {reply? : Option Json}
    (hreply : (e.replies fixed lines).run.1[i]? = some reply?) (h : Failed reply?) :
    (e.replies fixed (lines.take (i + 1))).run.2 = (e.replies fixed (lines.take i)).run.2 := by
  induction lines generalizing e i with
  | nil => cases hreply
  | cons line rest ih =>
    rw [run_replies_cons] at hreply
    rw [List.take_succ_cons, run_replies_cons]
    cases i with
    | zero =>
      rw [List.getElem?_cons_zero, Option.some_inj] at hreply
      simp only [List.take_zero, replies, Id.run_pure]
      exact e.answer_of_failed fixed (hreply ▸ h)
    | succ i =>
      rw [List.getElem?_cons_succ] at hreply
      rw [List.take_succ_cons, run_replies_cons]
      exact ih (e.answer fixed line).run.2 hreply

end

/-- A list without the items at some places. -/
def without (deleted : Nat → Bool) : List α → List α
  | [] => []
  | a :: rest =>
    let later := without (fun i => deleted (i + 1)) rest
    if deleted 0 then later else a :: later

/-- Without lines whose commands fail, a script gives the other replies and leads to the same
editor. -/
theorem replies_without (fixed : Environs Id) (e : Editor) (lines : List String)
    {deleted : Nat → Bool}
    (h : ∀ i reply?, deleted i = true → (e.replies fixed lines).run.1[i]? = some reply? →
      Failed reply?) :
    (e.replies fixed (without deleted lines)).run =
      (without deleted (e.replies fixed lines).run.1, (e.replies fixed lines).run.2) := by
  induction lines generalizing e deleted with
  | nil => rfl
  | cons line rest ih =>
    rw [run_replies_cons] at h
    rw [run_replies_cons, without, without]
    have hrest := @ih (e.answer fixed line).run.2 (fun i => deleted (i + 1))
      fun i reply? hi hreply => h (i + 1) reply? hi hreply
    cases hfirst : deleted 0 with
    | true =>
      -- The line that is left out failed, so the rest starts with the same editor.
      have hsame := e.answer_of_failed fixed (h 0 _ hfirst rfl)
      rw [hsame] at hrest
      rw [hsame, if_pos rfl, if_pos rfl, hrest]
    | false =>
      rw [if_neg Bool.false_ne_true, if_neg Bool.false_ne_true, run_replies_cons, hrest]

end Editor

/-! ## Recordings in files that stay the same -/

namespace Files.StillIn

variable {files : Files (StateM ω)}

theorem readText (h : files.StillIn still) (path : String) : Steady still (files.readText path) :=
  (h.read path).bind fun
    | .error _ => .pure _
    | .ok bytes => by
      dsimp only
      split <;> exact .pure _

theorem loadTable (h : files.StillIn still) (path : String) :
    Steady still (Config.loadTable files path) := by
  refine (h.present path).bind fun present => ?_
  cases present with
  | false => exact .pure _
  | true =>
    refine (h.readText path).bind fun result => ?_
    cases result with
    | error e => exact .pure _
    | ok text =>
      dsimp only
      split <;> exact .pure _

theorem loadConfig (h : files.StillIn still) (env : Environment) (folders : Config.Folders) :
    Steady still (Config.load files env folders) := by
  refine (h.loadTable _).bind fun user => ?_
  cases user with
  | error e => exact .pure _
  | ok user =>
    refine (h.loadTable _).bind fun project => ?_
    cases project <;> exact .pure _

theorem loadRecording (h : files.StillIn still) (path : String) :
    Steady still (Recording.load files path) := by
  refine (h.readText path).bind fun result => ?_
  cases result <;> exact .pure _

end Files.StillIn

theorem Files.locate_lift (files : Files (StateM ω)) (base path : String) :
    (files.lift : Files (StateT (Pool κ) (StateM ω))).locate base path =
      liftM (files.locate base path) := by
  rw [locate, locate, liftM_bind]
  refine bind_congr fun result => ?_
  cases result <;> rfl

theorem Recording.load_lift (files : Files (StateM ω)) (path : String) :
    Recording.load (files.lift : Files (StateT (Pool κ) (StateM ω))) path =
      liftM (Recording.load files path) := by
  rw [load, load, liftM_bind, Files.readText, Files.readText, liftM_bind, bind_assoc, bind_assoc]
  refine bind_congr fun result => ?_
  cases result with
  | error e => rfl
  | ok bytes =>
    dsimp only
    cases Text.decodeUtf8 bytes <;> rfl

/-- Among such files a recording answers always the same. -/
theorem Editor.Environs.exists_fixedAs {files : Files (StateM ω)} (h : files.StillIn still)
    (root path : String) : ∃ fixed : Editor.Environs Id, Editor.Environs.FixedAs (κ := κ) still
      ⟨root, files.lift, Recording.provider files.lift path⟩ fixed := by
  -- What every read gives is fixed once; that the choice is not computed does not matter, since the
  -- fixed surroundings are only reasoned about.
  choose canonical hcanonical using h.canonical
  obtain ⟨recording, hload⟩ := h.loadRecording path
  let answer : Answer := recording.bind fun r => decodeSymbols r.symbols
  let provider : Provider Id := {
    symbols := fun _ => answer
    folds := fun _ => .ok []
    close := fun _ => ()
    shutdown := () }
  let files' : Files Id := {
    canonical, read := fun _ => .error .notFound, write := fun _ _ => .error .notFound
    createFolders := fun _ => .error .notFound, present := fun _ => false }
  refine ⟨⟨root, files', provider⟩, rfl, fun path => .lift (hcanonical path), fun d => ?_,
    fun d => .pure _⟩
  have hlift : PoolYields (κ := κ) still (Recording.load files.lift path) recording := by
    rw [Recording.load_lift]
    exact .lift hload
  exact hlift.bind (.pure _)

/-- In every world a file is located as it is in the fixed surroundings. -/
theorem Editor.Environs.FixedAs.run_locate {files : Files (StateM ω)} {root : String}
    {provider : Provider (StateT (Pool κ) (StateM ω))} {fixed : Editor.Environs Id}
    (h : Editor.Environs.FixedAs still ⟨root, files.lift, provider⟩ fixed) {x : ω} (hx : x ∈ still)
    (base path : String) :
    (fixed.files.locate base path).run = ((files.locate base path).run x).1 := by
  obtain ⟨x₁, -, hrun⟩ := h.locate base path .empty x hx
  rw [Files.locate_lift] at hrun
  exact (congrArg (·.1.1) hrun).symm

/-! ## Runs of the program -/

namespace CommandLine

variable {w : Surroundings (StateM ω) κ} {scene : Scene (StateT (Pool κ) (StateM ω))}
  {format : OutputFormat} {x x₀ : ω}

/-- The scene of a program whose symbols are recorded. -/
theorem Surroundings.environs_scene {options : Options} {recording : String}
    (hfiles : w.files.StillIn still) (hx : x ∈ still)
    (hrecording : options.recording = some recording)
    (hscene : (w.scene options).run x = (.ok (scene, format), x₀)) :
    x₀ ∈ still ∧ scene.toEnvirons =
      ⟨w.folder, w.files.lift, Recording.provider w.files.lift recording⟩ := by
  rw [Surroundings.scene, StateT.run_bind] at hscene
  rcases hload : (Config.load w.files w.environment
    (Config.Folders.ofEnvironment w.environment w.home? w.folder)).run x with ⟨loaded, x₁⟩
  have hx₁ : x₁ ∈ still := (hfiles.loadConfig _ _).mem hx hload
  rw [hload, hrecording] at hscene
  dsimp only [bind] at hscene
  split at hscene
  · cases hscene
  · cases hscene
    exact ⟨hx₁, rfl⟩

theorem Scene.perform_session {fixed : Editor.Environs Id} {file document : String}
    (h : Editor.Environs.FixedAs still scene.toEnvirons fixed)
    (hfile : (fixed.files.locate fixed.root file).run = .ok document) :
    PoolYields still (scene.perform (.session file)).run
      (.ok (.inr (.onDocument scene.navigator document))) := by
  have hlocate : PoolYields still (scene.locate file).run (.ok document) := by
    have hyields := h.locate fixed.root file
    rw [hfile, ← h.root] at hyields
    have hlift : PoolYields still
        (liftM (scene.files.locate scene.root file) : Scene.Run (StateT (Pool κ) (StateM ω)) _).run
        (.ok (.ok document)) := by
      show PoolYields still (scene.files.locate scene.root file >>= fun a =>
        pure (Except.ok a : Except Failure _)) _
      exact hyields.bind (.pure _)
    rw [Scene.locate, ExceptT.run_bind]
    exact hlift.bind (.pure _)
  rw [Scene.perform, ExceptT.run_bind]
  exact hlocate.bind (.pure _)

/-- The program opens an editor on the file. -/
theorem Surroundings.run_start {invocation : Invocation} {recording file document : String}
    (hfiles : w.files.StillIn still) (hx : x ∈ still)
    (hcommand : invocation.command = .session file)
    (hrecording : invocation.options.recording = some recording)
    (hscene : (w.scene invocation.options).run x = (.ok (scene, format), x₀))
    (hfile : ((w.files.locate w.folder file).run x).1 = .ok document) :
    ∃ x₁ ∈ still, (w.start invocation).run x =
      (.editing scene (.onDocument scene.navigator document) .empty, x₁) := by
  obtain ⟨hx₀, hscene'⟩ := environs_scene hfiles hx hrecording hscene
  obtain ⟨fixed, hfixed⟩ := Editor.Environs.exists_fixedAs (κ := κ) hfiles w.folder recording
  -- Loading the configuration has led to another world, but the file is found in all of them.
  have hlocate : (fixed.files.locate fixed.root file).run = .ok document := by
    rw [← hfixed.root, hfixed.run_locate hx, hfile]
  rw [← hscene'] at hfixed
  have hperform := scene.perform_session hfixed hlocate
  rw [← hcommand] at hperform
  obtain ⟨x₁, hx₁, hrun⟩ := hperform .empty x₀ hx₀
  refine ⟨x₁, hx₁, ?_⟩
  rw [Surroundings.start, StateT.run_bind, hscene]
  change ((scene.perform invocation.command).run.run Pool.empty >>= _).run x₀ = _
  rw [StateT.run_bind, hrun]
  rfl

theorem join_lineText (replies : List (Option Json)) :
    String.join ((replies.filterMap id).map fun v => lineText (some v)) =
      String.join (replies.map lineText) := by
  induction replies with
  | nil => rfl
  | cons reply? replies ih =>
    cases reply? with
    | none => simpa [lineText] using ih
    | some v =>
      have hkeep : (some v :: replies).filterMap id = v :: replies.filterMap id := rfl
      rw [hkeep, List.map_cons, List.map_cons, String.join_cons, String.join_cons, ih]

/-- What the program prints for lines, and where it ends. -/
theorem Surroundings.run_lines {invocation : Invocation} {recording : String} {editor : Editor}
    {x₁ : ω} {lines : List String} {fixed : Editor.Environs Id}
    (hstart : (w.start invocation).run x = (.editing scene editor .empty, x₁)) (hx₁ : x₁ ∈ still)
    (hscene : scene.provider = Recording.provider w.files.lift recording)
    (hfixed : Editor.Environs.FixedAs still scene.toEnvirons fixed) :
    ∃ x₂ ∈ still, (w.run invocation lines none).run x =
      (⟨String.join ((editor.replies fixed lines).run.1.map lineText), 0⟩, x₂) := by
  obtain ⟨x₂, hx₂, hrun⟩ := hfixed.replies editor lines .empty x₁ hx₁
  refine ⟨x₂, hx₂, ?_⟩
  rw [Surroundings.run, StateT.run_bind, hstart]
  change ((editor.answers scene.toEnvirons lines).run Pool.empty >>= _).run x₁ = _
  rw [Editor.answers_eq, StateT.run_bind, StateT.run_map, StateT.run_map, hrun]
  change (endEditing scene Pool.empty none >>= _).run x₂ = _
  rw [endEditing, hscene]
  change ((⟨String.join _ ++ "", 0⟩ : Finish), x₂) = _
  rw [join_lineText, String.append_empty]
  rfl

end CommandLine

/-! ## Scripts of the program -/

/-- How a script ends: with its replies, an editor, and a pool of servers. -/
structure Editor.Played (κ : Type) where
  replies : List (Option Json)
  editor : Editor
  pool : Pool κ

/-- Plays a script to an editor, in the world `x`. -/
def Editor.play (env : Editor.Environs (StateT (Pool κ) (StateM ω))) (e : Editor) (x : ω)
    (lines : List String) : Editor.Played κ :=
  let ((replies, editor), pool) := (((e.replies env lines).run .empty).run x).1
  ⟨replies, editor, pool⟩

theorem Editor.play_eq {env : Editor.Environs (StateT (Pool κ) (StateM ω))}
    {fixed : Editor.Environs Id} (h : Editor.Environs.FixedAs still env fixed) (e : Editor) {x : ω}
    (hx : x ∈ still) (lines : List String) :
    e.play env x lines =
      ⟨(e.replies fixed lines).run.1, (e.replies fixed lines).run.2, .empty⟩ := by
  rw [play, (h.replies e lines .empty).run_fst hx]

/-- **Failed commands leave no trace.** Let files stay as they are, and let the program be started
with a recording, on a file that is there. Then it opens an editor, and for every script:

* It prints the replies to the lines, one line for each line that is not blank and nothing for blank
  lines, and ends well. A reply says that the command failed if and only if the line is no command,
  or one to select what is no position, or one to look at a file that is not there.
* After a line whose reply says that the command failed, the editor with all that it remembers, and
  the pool of servers, are what they were before the line.
* Without any such lines the script gets the other replies, and leads to the same editor. -/
theorem failed_commands_leave_no_trace {w : CommandLine.Surroundings (StateM ω) κ}
    {invocation : CommandLine.Invocation} {file recording document : String} {x x₀ : ω}
    {scene : CommandLine.Scene (StateT (Pool κ) (StateM ω))} {format : OutputFormat}
    (hfiles : w.files.StillIn still) (hx : x ∈ still)
    (hcommand : invocation.command = .session file)
    (hrecording : invocation.options.recording = some recording)
    (hscene : (w.scene invocation.options).run x = (.ok (scene, format), x₀))
    (hfile : ((w.files.locate w.folder file).run x).1 = .ok document) :
    let editor := Editor.onDocument scene.navigator document
    let found path := ∃ document, ((w.files.locate w.folder path).run x).1 = .ok document
    ∃ x₁ ∈ still, (w.start invocation).run x = (.editing scene editor .empty, x₁) ∧
      ∀ lines : List String,
        let played := editor.play scene.toEnvirons x₁ lines
        (∃ x₂ ∈ still, (w.run invocation lines none).run x =
          (⟨String.join (played.replies.map CommandLine.lineText), 0⟩, x₂)) ∧
        List.Forall₂ (Editor.Fits found) lines played.replies ∧
        (∀ i reply?, played.replies[i]? = some reply? → Editor.Failed reply? →
          let before := editor.play scene.toEnvirons x₁ (lines.take i)
          let after := editor.play scene.toEnvirons x₁ (lines.take (i + 1))
          after.editor = before.editor ∧ after.pool = before.pool) ∧
        ∀ deleted : Nat → Bool,
          (∀ i reply?, deleted i = true → played.replies[i]? = some reply? → Editor.Failed reply?) →
          editor.play scene.toEnvirons x₁ (Editor.without deleted lines) =
            { played with replies := Editor.without deleted played.replies } := by
  intro editor found
  obtain ⟨x₁, hx₁, hstart⟩ :=
    CommandLine.Surroundings.run_start hfiles hx hcommand hrecording hscene hfile
  obtain ⟨-, hscene'⟩ := CommandLine.Surroundings.environs_scene hfiles hx hrecording hscene
  obtain ⟨fixed, hfixed⟩ := Editor.Environs.exists_fixedAs (κ := κ) hfiles w.folder recording
  have hfound : found = fixed.Finds := by
    funext path
    rw [Editor.Environs.Finds, ← hfixed.root, hfixed.run_locate hx]
  rw [← hscene'] at hfixed
  refine ⟨x₁, hx₁, hstart, fun lines => ?_⟩
  rw [hfound]
  simp only [Editor.play_eq hfixed editor hx₁]
  refine ⟨?_, ?_, ?_, ?_⟩
  · exact CommandLine.Surroundings.run_lines hstart hx₁ (congrArg (·.provider) hscene') hfixed
  · exact Editor.forall₂_fits_replies fixed editor lines
  · intro i reply? hreply hfailed
    exact ⟨Editor.replies_take_of_failed fixed editor lines hreply hfailed, trivial⟩
  · intro deleted hdeleted
    rw [Editor.replies_without fixed editor lines hdeleted]

/-- Reading a tree of files does not change it. -/
theorem FileTree.stillIn (base : String) (t : FileTree) :
    (FileTree.files base).StillIn {w | w = t} where
  canonical _ := ⟨_, by rintro w rfl; exact ⟨w, rfl, rfl⟩⟩
  read _ := ⟨_, by rintro w rfl; exact ⟨w, rfl, rfl⟩⟩
  present _ := ⟨_, by rintro w rfl; exact ⟨w, rfl, rfl⟩⟩

/-- A file, and a recording of the one function in it. -/
def FileTree.recorded : FileTree :=
  let recording := "[\x7b\"name\":\"f\",\"kind\":12,\"range\":[[2,0],[4,1]]," ++
    "\"selectionRange\":[[2,3],[2,4]]\x7d]"
  .folder [("p", .folder [("a.rs", .file []),
    ("outline.json", .file (Text.encodeUtf8 recording.toList))])]

/-- The program in the folder of the recording. -/
def CommandLine.Surroundings.recorded : CommandLine.Surroundings (StateM FileTree) Empty :=
  ⟨"/p", fun _ => none, none, FileTree.files "/p", .absent⟩

def CommandLine.Invocation.recorded : CommandLine.Invocation :=
  ⟨.session "a.rs", ⟨some .json, some "outline.json"⟩⟩

/-- A move, a line that is no command, a blank line, a selection that fails behind its first
position, a look at a file that is not there, and one at the counters. -/
def Editor.faultyScript : List String :=
  ["\x7b\"command\":\"goto\",\"direction\":\"next\"\x7d", "jump", "",
    "\x7b\"command\":\"select\",\"positions\":[\"1:1\",\"0:1\"]\x7d",
    "\x7b\"command\":\"focus\",\"file\":\"b.rs\"\x7d",
    "\x7b\"command\":\"stats\"\x7d"]

def CommandLine.Scene.recorded : CommandLine.Scene (StateT (Pool Empty) (StateM FileTree)) :=
  let w := CommandLine.Surroundings.recorded
  let folders := Config.Folders.ofEnvironment w.environment w.home? w.folder
  let config := ((Config.load w.files w.environment folders).run .recorded).1.toOption.getD .initial
  ⟨⟨w.folder, w.files.lift, Recording.provider w.files.lift "outline.json"⟩, config, folders⟩

theorem failed_commands_leave_no_trace_script :
    let scene := CommandLine.Scene.recorded
    let editor := Editor.onDocument scene.navigator "/p/a.rs"
    let played := editor.play scene.toEnvirons .recorded Editor.faultyScript
    let deleted : Nat → Bool := fun i => i = 1 || i = 3 || i = 4
    played.replies.map (·.bind Json.succeeded?) =
        [some true, some false, none, some false, some false, some true] ∧
      played.editor.navigator.index.stats = ⟨1, 0, 1⟩ ∧
      ((CommandLine.Surroundings.recorded.run .recorded Editor.faultyScript none).run .recorded).1 =
        ⟨String.join (played.replies.map CommandLine.lineText), 0⟩ ∧
      editor.play scene.toEnvirons .recorded (Editor.without deleted Editor.faultyScript) =
        { played with replies := Editor.without deleted played.replies } := by
  intro scene editor played deleted
  have hscene : (CommandLine.Surroundings.recorded.scene
      CommandLine.Invocation.recorded.options).run FileTree.recorded =
        (.ok (scene, .json), ((Config.load CommandLine.Surroundings.recorded.files
          CommandLine.Surroundings.recorded.environment scene.folders).run .recorded).2) := by
    rw [CommandLine.Surroundings.scene, StateT.run_bind]
    rfl
  have hfile : ((CommandLine.Surroundings.recorded.files.locate "/p" "a.rs").run .recorded).1 =
      .ok "/p/a.rs" := by decide +kernel
  obtain ⟨hsaid, hstats⟩ : played.replies.map (·.bind Json.succeeded?) =
      [some true, some false, none, some false, some false, some true] ∧
        played.editor.navigator.index.stats = ⟨1, 0, 1⟩ := by decide +kernel
  have hx : FileTree.recorded ∈ {w | w = FileTree.recorded} := rfl
  obtain ⟨x₁, rfl, -, hall⟩ := failed_commands_leave_no_trace (FileTree.stillIn "/p" .recorded) hx
    rfl rfl hscene hfile
  obtain ⟨⟨x₂, -, hrun⟩, -, -, hdelete⟩ := hall Editor.faultyScript
  refine ⟨hsaid, hstats, congrArg Prod.fst hrun, hdelete deleted fun i reply? hi hreply => ?_⟩
  have hsaid' : (played.replies.map (·.bind Json.succeeded?))[i]? =
      some (reply?.bind Json.succeeded?) := by rw [List.getElem?_map, hreply, Option.map_some]
  rw [hsaid] at hsaid'
  rw [Editor.failed_iff]
  obtain (rfl | rfl) | rfl : (i = 1 ∨ i = 3) ∨ i = 4 := by simpa [deleted] using hi
  · exact (Option.some_inj.mp hsaid').symm
  · exact (Option.some_inj.mp hsaid').symm
  · exact (Option.some_inj.mp hsaid').symm

end OutlineNav

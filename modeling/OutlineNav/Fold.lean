import OutlineNav.Outline.Navigable

/-!
# Folding definitions

`planFolds` picks the folding ranges that hide the bodies of definitions and long comments, so that
a document collapses to its signatures. What the user has selected stays open unless he asks
otherwise.
-/

namespace OutlineNav

/-! ## Folding ranges -/

inductive FoldKind where
  | comment
  | imports
  | region
  | other
  deriving DecidableEq, Inhabited, Repr

namespace FoldKind

def name : FoldKind → String
  | .comment => "comment"
  | .imports => "imports"
  | .region => "region"
  | .other => "other"

/-- Names that stand for no kind of their own, and an absent name, mean `other`. -/
def ofName (name : Option String) : FoldKind :=
  match name with
  | some "comment" => .comment
  | some "imports" => .imports
  | some "region" => .region
  | _ => .other

end FoldKind

structure FoldRange where
  startLine : UInt32
  endLine : UInt32
  kind : FoldKind
  deriving DecidableEq, Inhabited, Repr

namespace FoldRange

/-- The region that folding hides below a definition: everything behind the first line, up to the
last. -/
def body (f : FoldRange) : Range := .ofCoords f.startLine Position.maxWord f.endLine 0

/-- The lines of a comment up to the last but one. -/
def commentText (f : FoldRange) : Range :=
  .ofCoords f.startLine 0 (Position.predWord f.endLine) Position.maxWord

/-- The comment ends at least two lines below its start. -/
def isLongComment (f : FoldRange) : Bool :=
  f.kind == .comment && f.startLine.toNat + 2 ≤ f.endLine.toNat

def toJson (f : FoldRange) : Json :=
  .obj [("endLine", .word f.endLine), ("kind", .str f.kind.name), ("startLine", .word f.startLine)]

end FoldRange

/-! ## Options -/

structure FoldOptions where
  /-- Fold type definitions. -/
  types : Bool
  /-- Fold what a selection touches, too. -/
  current : Bool
  /-- Fold string symbols, which stand for headings. -/
  strings : Bool
  deriving DecidableEq, Inhabited, Repr

def FoldOptions.folds (options : FoldOptions) (kind : SymbolKind) : Bool :=
  if kind.isTypeDefinition then options.types
  else if kind.isCallableBody then true
  else kind == .string && options.strings

/-! ## Planning -/

def touches (selections : List Selection) (range : Range) : Bool :=
  selections.any fun s => range.intersects s.range

/-- The definition's body is to be folded. -/
def foldsSymbol (selections : List Selection) (options : FoldOptions) (s : Symbol) : Bool :=
  options.folds s.kind && !s.range.isSingleLine &&
    (options.current || !touches selections s.range)

/-- The lines at which the folding ranges inside a definition start. -/
def bodyLines (ranges : List FoldRange) (s : Symbol) : List UInt32 :=
  (ranges.filter fun f => s.range.containsRange f.body).map (·.startLine)

def foldsComment (selections : List Selection) (options : FoldOptions) (f : FoldRange) : Bool :=
  f.isLongComment && (options.current || !touches selections f.commentText)

/-- The start lines of the ranges to fold: those inside definitions, in the order of the outline,
then those of comments. A line stands where it is found first. -/
def planFolds (o : Outline) (ranges : List FoldRange) (selections : List Selection)
    (options : FoldOptions) : List UInt32 :=
  let definitions := (o.targets.map (·.symbol)).filter (foldsSymbol selections options)
  let comments := ranges.filter (foldsComment selections options)
  (definitions.flatMap (bodyLines ranges) ++ comments.map (·.startLine)).eraseDups

end OutlineNav

import OutlineNav.Outline.Navigable

/-!
# The symbols nearest to a position

`resolve` finds the symbol that a position is at or in front of the contents of (`current`), the
symbol around it (`parent`), the first symbol inside it (`child`), and the closest siblings on
either side (`previous`, `next`). All five are targets of navigation.

`land` goes down level by level, scanning each level for members that contain the position; the last
one decides. `search` says the same by recursion on that member alone. Siblings need not be sorted:
neighbours are the extremes of the members that start before and behind the position.
-/

namespace OutlineNav

/-! ## Going down -/

/-- The search ends at this member: the position is not behind its name, or nothing lies below. -/
def Located.stops (l : Located) (position : Position) : Bool :=
  position ≤ l.symbol.selectionRange.stop || l.members.isEmpty

/-- What the scan of a level has found so far. -/
structure Scan where
  parent : Option Located
  current : Option Located
  /-- The member to go on inside of. -/
  descent : Option Located
  deriving DecidableEq, Repr

/-- Looks at one more member of a level, whose owner is `owner`. -/
def Scan.step (position : Position) (owner : Option Located) (scan : Scan) (l : Located) : Scan :=
  if !l.symbol.range.contains position then scan
  else if l.stops position then ⟨owner, some l, none⟩
  else { scan with descent := some l }

def Scan.run (position : Position) (owner : Option Located) (level : List Located) : Scan :=
  level.foldl (Scan.step position owner) ⟨owner, none, none⟩

theorem Scan.descent_foldl_step {position : Position} {owner : Option Located}
    {level : List Located} {scan : Scan} {l : Located}
    (h : (level.foldl (Scan.step position owner) scan).descent = some l) :
    l ∈ level ∨ scan.descent = some l := by
  induction level generalizing scan with
  | nil => exact .inr h
  | cons m rest ih =>
    rcases ih h with h | h
    · exact .inl (List.mem_cons_of_mem _ h)
    · unfold Scan.step at h
      split at h
      · exact .inr h
      · split at h
        · simp at h
        · simp only [Option.some.injEq] at h
          exact .inl (h ▸ List.mem_cons_self ..)

theorem Scan.mem_of_descent_run {position : Position} {owner : Option Located}
    {level : List Located} {l : Located} (h : (Scan.run position owner level).descent = some l) :
    l ∈ level := by
  rcases descent_foldl_step h with h | h
  · exact h
  · simp at h

/-- Where the search for a position ended: at `current` or between the members of `level`, which
belong to `parent`. -/
structure Landing where
  parent : Option Located
  current : Option Located
  level : List Located
  deriving DecidableEq, Repr

/-- Scans the members of `owner` and goes on below, until a scan finds nothing to go on inside
of. -/
def land (position : Position) (owner : Option Located) (level : List Located) : Landing :=
  match _found : (Scan.run position owner level).descent with
  | some l => land position (some l) l.members
  | none =>
    let scan := Scan.run position owner level
    ⟨scan.parent, scan.current, level⟩
termination_by levelSize level
decreasing_by exact levelSize_members_lt_of_mem (Scan.mem_of_descent_run _found)

/-- The last member that contains the position. -/
def lastContaining? (position : Position) (level : List Located) : Option Located :=
  (level.filter (·.symbol.range.contains position)).getLast?

theorem mem_of_lastContaining? {position : Position} {level : List Located} {l : Located}
    (h : lastContaining? position level = some l) : l ∈ level := by
  rw [lastContaining?] at h
  exact (List.mem_filter.mp (List.mem_of_getLast? h)).1

/-- The search by its last containing member: nobody there ends it between the members, a member
that stops it is the current symbol, any other one is the owner of the next level. -/
def search (position : Position) (owner : Option Located) (level : List Located) : Landing :=
  match _found : lastContaining? position level with
  | none => ⟨owner, none, level⟩
  | some l =>
    if l.stops position then ⟨owner, some l, level⟩ else search position (some l) l.members
termination_by levelSize level
decreasing_by exact levelSize_members_lt_of_mem (mem_of_lastContaining? _found)

/-! ## Neighbours -/

def Located.start (l : Located) : Position := l.symbol.range.start

/-- Keeps the candidate whose start is better than the best so far by `better`. -/
def keepBetter (better : Position → Position → Bool) (best : Option Located) (l : Located) :
    Option Located :=
  match best with
  | some b => if better l.start b.start then some l else some b
  | none => some l

/-- The first member with the least start. -/
def earliest (level : List Located) : Option Located :=
  level.foldl (keepBetter fun a b => a < b) none

/-- The first member with the greatest start. -/
def latest (level : List Located) : Option Located :=
  level.foldl (keepBetter fun a b => b < a) none

/-- The members of the landing's level other than its current symbol. -/
def Landing.others (landing : Landing) : List Located :=
  landing.level.filter fun l => landing.current.all fun c => l.path != c.path

/-- The symbols around a position. -/
structure Nearest where
  parent : Option Located
  current : Option Located
  child : Option Located
  previous : Option Located
  next : Option Located
  deriving DecidableEq, Repr

def Nearest.isEmpty (n : Nearest) : Bool :=
  n.parent.isNone && n.current.isNone && n.child.isNone && n.previous.isNone && n.next.isNone

def Landing.nearest (landing : Landing) (position : Position) : Nearest where
  parent := landing.parent
  current := landing.current
  child := landing.current.bind (earliest ·.members)
  previous := latest (landing.others.filter (·.start < position))
  next := earliest (landing.others.filter (position < ·.start))

def resolve (o : Outline) (position : Position) : Nearest :=
  (land position none o.topLevel).nearest position

end OutlineNav

import Mathlib.Data.List.Chain
import OutlineNav.Proofs.Moves

/-!
# Walks over the targets

A single caret at the start of a target is moved from target to target as long as the outline of the
document stays in the cache. In an orderly outline the moves undo each other: back and forth between
siblings, to the child and back up, to the parent and back to where the caret came from. Moves to
the next sibling pass through a level in the order of its starts.

The next and the previous sibling are one relation read in two directions (`next_eq_some`,
`previous_eq_some`), and the members of a level in the order of their starts are a chain of it.
-/

namespace OutlineNav

/-! ## Siblings in order -/

/-- The later target is the next one of their common level. -/
structure Outline.Adjacent (o : Outline) (t u : Located) : Prop where
  left : o.IsTarget t
  right : o.IsTarget u
  owner : o.enclosing? t.path = o.enclosing? u.path
  lt : t.start < u.start
  between : ∀ v ∈ o.levelBelow (o.enclosing? t.path), v.start ≤ t.start ∨ u.start ≤ v.start

namespace Outline.Orderly

variable {o : Outline} (h : o.Orderly)

include h

theorem filter_others {t : Located} (ht : o.IsTarget t) {p : Located → Bool} (hp : p t = false) :
    (land t.start none o.topLevel).others.filter p =
      (o.levelBelow (o.enclosing? t.path)).filter p := by
  rw [h.land_start ht, Landing.others, List.filter_filter]
  apply List.filter_congr
  intro l hl
  rw [Option.all_some]
  cases hpath : l.path != t.path with
  | true => rw [Bool.and_true]
  | false =>
      have hlt := (Outline.isOwner_enclosing? o t.path).mem_levelBelow.mp hl
      obtain rfl : l = t := hlt.1.eq_of_path ht (by simpa using hpath)
      rw [hp, Bool.false_and]

theorem resolve_next {t : Located} (ht : o.IsTarget t) :
    (resolve o t.start).next =
      earliest ((o.levelBelow (o.enclosing? t.path)).filter (t.start < ·.start)) := by
  have hp : decide (t.start < t.start) = false := by
    rw [decide_eq_false_iff_not, Position.lt_iff_rank]
    omega
  exact congrArg earliest (h.filter_others ht hp)

theorem resolve_previous {t : Located} (ht : o.IsTarget t) :
    (resolve o t.start).previous =
      latest ((o.levelBelow (o.enclosing? t.path)).filter (·.start < t.start)) := by
  have hp : decide (t.start < t.start) = false := by
    rw [decide_eq_false_iff_not, Position.lt_iff_rank]
    omega
  exact congrArg latest (h.filter_others ht hp)

theorem start_inj (t : Located) (p : Located → Bool) :
    ∀ a ∈ (o.levelBelow (o.enclosing? t.path)).filter p,
      ∀ b ∈ (o.levelBelow (o.enclosing? t.path)).filter p, a.start = b.start → a = b :=
  fun _ ha _ hb heq => (h.apart_levelBelow (Outline.isOwner_enclosing? o t.path)).eq_of_start
    (List.mem_of_mem_filter ha) (List.mem_of_mem_filter hb) heq

theorem next_eq_some {t u : Located} (ht : o.IsTarget t) :
    (resolve o t.start).next = some u ↔ o.Adjacent t u := by
  have howner := Outline.isOwner_enclosing? o t.path
  rw [h.resolve_next ht, earliest_eq_some_iff (h.start_inj t _)]
  simp only [List.mem_filter, decide_eq_true_eq, howner.mem_levelBelow]
  constructor
  · rintro ⟨⟨hu, hlt⟩, hleast⟩
    refine ⟨ht, hu.1, hu.2.symm, hlt, fun v hv => ?_⟩
    by_cases hv' : t.start < v.start
    · exact .inr (hleast v ⟨howner.mem_levelBelow.mp hv, hv'⟩)
    · rw [Position.lt_iff_rank, Nat.not_lt] at hv'
      exact .inl (Position.le_iff_rank.mpr hv')
  · intro hadj
    refine ⟨⟨⟨hadj.right, hadj.owner.symm⟩, hadj.lt⟩, fun v ⟨hv, hlt⟩ => ?_⟩
    refine (hadj.between v (howner.mem_levelBelow.mpr hv)).resolve_left fun hle => ?_
    rw [Position.lt_iff_rank] at hlt
    rw [Position.le_iff_rank] at hle
    omega

theorem previous_eq_some {t u : Located} (hu : o.IsTarget u) :
    (resolve o u.start).previous = some t ↔ o.Adjacent t u := by
  have howner := Outline.isOwner_enclosing? o u.path
  rw [h.resolve_previous hu, latest_eq_some_iff (h.start_inj u _)]
  simp only [List.mem_filter, decide_eq_true_eq, howner.mem_levelBelow]
  constructor
  · rintro ⟨⟨ht, hlt⟩, hgreatest⟩
    refine ⟨ht.1, hu, ht.2, hlt, fun v hv => ?_⟩
    rw [ht.2] at hv
    by_cases hv' : v.start < u.start
    · exact .inl (hgreatest v ⟨howner.mem_levelBelow.mp hv, hv'⟩)
    · rw [Position.lt_iff_rank, Nat.not_lt] at hv'
      exact .inr (Position.le_iff_rank.mpr hv')
  · intro hadj
    refine ⟨⟨⟨hadj.left, hadj.owner⟩, hadj.lt⟩, fun v ⟨hv, hlt⟩ => ?_⟩
    have hmem := howner.mem_levelBelow.mpr hv
    refine (hadj.between v (hadj.owner ▸ hmem)).resolve_right fun hle => ?_
    rw [Position.lt_iff_rank] at hlt
    rw [Position.le_iff_rank] at hle
    omega

theorem next_isSome {t u : Located} (ht : o.IsTarget t)
    (hu : u ∈ o.levelBelow (o.enclosing? t.path)) (hlt : t.start < u.start) :
    ∃ v, (resolve o t.start).next = some v := by
  rw [h.resolve_next ht, ← Option.isSome_iff_exists]
  exact earliest_isSome (List.ne_nil_of_mem (List.mem_filter.mpr ⟨hu, by simpa using hlt⟩))

theorem previous_isSome {t u : Located} (ht : o.IsTarget t)
    (hu : u ∈ o.levelBelow (o.enclosing? t.path)) (hlt : u.start < t.start) :
    ∃ v, (resolve o t.start).previous = some v := by
  rw [h.resolve_previous ht, ← Option.isSome_iff_exists]
  exact latest_isSome (List.ne_nil_of_mem (List.mem_filter.mpr ⟨hu, by simpa using hlt⟩))

end Outline.Orderly

/-! ## Walks -/

/-- A sequence of moves of the selections of a document, each from where the one before led. -/
def Navigator.walk (n : Navigator) (fetch : Document → Answer) (d : Document)
    (selections : List Selection) : List Direction → List Selection × Navigator
  | [] => (selections, n)
  | direction :: rest =>
    let (outcome, n) := n.navigate fetch d selections direction false
    n.walk fetch d outcome.selections rest

theorem Outline.IsTarget.isEmpty_eq {o : Outline} {t : Located} (h : o.IsTarget t) :
    o.isEmpty = false := by
  obtain ⟨_ | ⟨r, rs⟩⟩ := o
  · have hget := h.1
    cases hpath : t.path <;> rw [hpath] at hget <;> cases hget
  · rfl

/-- One step of a walk; where the direction leads nowhere, the caret stays. -/
theorem walk_cons {n : Navigator} {d : Document} {e : Entry}
    (hcached : n.index.entries.get? d = some e) (h : e.outline.Orderly) {t u : Located}
    (ht : e.outline.IsTarget t) (fetch : Document → Answer) {direction : Direction}
    (hu : ((resolve e.outline t.start).toward (e.session.staged? e.outline direction)
      direction).getD t = u) (rest : List Direction) :
    ∃ (m : Navigator) (s : Session), m.index.entries.get? d = some { e with session := s } ∧
      s.returns = (if direction = .parent
        then (e.session.record (stagedFrame e.outline t.caret)).returns
        else (takeFrame direction e.session).2.returns) ∧
      n.walk fetch d t.caret (direction :: rest) = m.walk fetch d u.caret rest := by
  subst hu
  obtain ⟨m, hmove, hm⟩ :=
    Navigator.navigate_of_cached hcached ht.isEmpty_eq fetch t.caret direction false
  refine ⟨m, _, hm, plan_returns .., ?_⟩
  rw [Navigator.walk, hmove]
  exact congrArg (m.walk fetch d · rest) (plan_caret h ht ..)

section

variable {n : Navigator} {d : Document} {e : Entry} (hcached : n.index.entries.get? d = some e)
  (h : e.outline.Orderly) (fetch : Document → Answer)

include hcached h

/-- Two moves; what the first one staged is known to the second. -/
theorem walk_pair {first second : Direction} {t u v : Located} (ht : e.outline.IsTarget t)
    (hu : e.outline.IsTarget u)
    (hfirst : ((resolve e.outline t.start).toward (e.session.staged? e.outline first)
      first).getD t = u)
    (hsecond : ∀ s : Session, s.returns = (if first = .parent
        then (e.session.record (stagedFrame e.outline t.caret)).returns
        else (takeFrame first e.session).2.returns) →
      ((resolve e.outline u.start).toward (s.staged? e.outline second) second).getD u = v) :
    (n.walk fetch d t.caret [first, second]).1 = v.caret := by
  obtain ⟨m, s, hm, hs, hwalk⟩ := walk_cons hcached h ht fetch hfirst [second]
  obtain ⟨_, _, -, -, hwalk'⟩ := walk_cons hm h hu fetch (hsecond s hs) []
  rw [hwalk, hwalk', Navigator.walk]

theorem walk_next_previous {t u : Located} (hadj : e.outline.Adjacent t u) :
    (n.walk fetch d t.caret [.next, .previous]).1 = t.caret := by
  have hnext := (h.next_eq_some hadj.left).mpr hadj
  have hprevious := (h.previous_eq_some hadj.right).mpr hadj
  exact walk_pair hcached h fetch hadj.left hadj.right (congrArg (·.getD t) hnext)
    fun _ _ => congrArg (·.getD u) hprevious

theorem walk_previous_next {t u : Located} (hadj : e.outline.Adjacent t u) :
    (n.walk fetch d u.caret [.previous, .next]).1 = u.caret := by
  have hnext := (h.next_eq_some hadj.left).mpr hadj
  have hprevious := (h.previous_eq_some hadj.right).mpr hadj
  exact walk_pair hcached h fetch hadj.right hadj.left (congrArg (·.getD u) hprevious)
    fun _ _ => congrArg (·.getD t) hnext

theorem walk_child_parent {t : Located} (ht : e.outline.IsTarget t)
    (hreturns : e.session.returns = []) (hmembers : t.members ≠ []) :
    (n.walk fetch d t.caret [.child, .parent]).1 = t.caret := by
  obtain ⟨c, hc⟩ := Option.isSome_iff_exists.mp (earliest_isSome hmembers)
  obtain ⟨htarget, howner⟩ := ht.mem_members.mp (earliest_eq_some hc).1
  have hchild : (resolve e.outline t.start).toward (e.session.staged? e.outline .child) .child =
      some c := by
    rw [Session.staged?_of_nil hreturns, resolve, h.land_start ht]
    exact hc
  have hparent : (resolve e.outline c.start).parent = some t := by
    rw [resolve, h.land_start htarget]
    exact howner
  exact walk_pair hcached h fetch ht htarget (congrArg (·.getD t) hchild)
    fun _ _ => congrArg (·.getD c) hparent

theorem walk_parent_child {t p : Located} (ht : e.outline.IsTarget t)
    (hp : e.outline.enclosing? t.path = some p) :
    (n.walk fetch d t.caret [.parent, .child]).1 = t.caret := by
  have hparent : (resolve e.outline t.start).parent = some p := by
    rw [resolve, h.land_start ht]
    exact hp
  refine walk_pair hcached h fetch ht (Outline.enclosing?_eq_some hp).1
    (congrArg (·.getD t) hparent) fun s hs => ?_
  have hstaged : s.staged? e.outline .child = some t := by
    rw [if_pos rfl, h.stagedFrame_caret ht (Option.isSome_of_eq_some hp)] at hs
    rw [Session.staged?_of_cons hs, ht.locate?_eq]
  rw [hstaged]
  rfl

end

/-! ## Through a level -/

theorem Outline.Orderly.exists_sorted {o : Outline} (h : o.Orderly) {owner : Option Located}
    (howner : o.IsOwner owner) :
    ∃ sorted : List Located, sorted.Perm (o.levelBelow owner) ∧
      sorted.Pairwise fun a b => a.start < b.start := by
  have hperm := List.mergeSort_perm (o.levelBelow owner) fun a b => a.start ≤ b.start
  have hle : ((o.levelBelow owner).mergeSort fun a b => a.start ≤ b.start).Pairwise
      fun a b => decide (a.start ≤ b.start) = true :=
    List.pairwise_mergeSort
      (fun a b c => by simp only [decide_eq_true_eq, Position.le_iff_rank]; omega)
      (fun a b => by simp only [Bool.or_eq_true, decide_eq_true_eq, Position.le_iff_rank]; omega) _
  have hnodup := hperm.nodup_iff.mpr (o.nodup_levelBelow owner)
  refine ⟨_, hperm, (hle.and hnodup).imp_of_mem fun {a b} ha hb ⟨hab, hne⟩ => ?_⟩
  have hinj := mt ((h.apart_levelBelow howner).eq_of_start (hperm.mem_iff.mp ha)
    (hperm.mem_iff.mp hb)) hne
  have hrank := mt Position.rank_inj hinj
  rw [decide_eq_true_eq, Position.le_iff_rank] at hab
  rw [Position.lt_iff_rank]
  omega

theorem chain_adjacent {o : Outline} {owner : Option Located} (howner : o.IsOwner owner)
    {sorted : List Located} (hperm : sorted.Perm (o.levelBelow owner))
    (hsorted : sorted.Pairwise fun a b => a.start < b.start) : sorted.IsChain o.Adjacent := by
  have hlt := List.pairwise_iff_getElem.mp hsorted
  have hmem : ∀ l ∈ sorted, o.IsTarget l ∧ o.enclosing? l.path = owner := fun l hl =>
    howner.mem_levelBelow.mp (hperm.mem_iff.mp hl)
  rw [List.isChain_iff_getElem]
  intro i hi
  obtain ⟨hleft, hleftOwner⟩ := hmem sorted[i] (List.getElem_mem _)
  obtain ⟨hright, hrightOwner⟩ := hmem sorted[i + 1] (List.getElem_mem _)
  refine ⟨hleft, hright, hleftOwner.trans hrightOwner.symm, hlt _ _ _ _ (Nat.lt_succ_self i), ?_⟩
  intro v hv
  rw [hleftOwner] at hv
  obtain ⟨j, hj, rfl⟩ := List.getElem_of_mem (hperm.mem_iff.mpr hv)
  simp only [Position.lt_iff_rank, Position.le_iff_rank] at hlt ⊢
  rcases Nat.lt_trichotomy j i with hji | rfl | hij
  · exact .inl (Nat.le_of_lt (hlt j i hj _ hji))
  · exact .inl (Nat.le_refl _)
  · rcases Nat.lt_or_eq_of_le (Nat.succ_le_of_lt hij) with hij | rfl
    · exact .inr (Nat.le_of_lt (hlt _ _ hi hj hij))
    · exact .inr (Nat.le_refl _)

theorem le_getLast {sorted : List Located} (hsorted : sorted.Pairwise fun a b => a.start < b.start)
    {last u : Located} (hlast : sorted.getLast? = some last) (hu : u ∈ sorted) :
    u.start ≤ last.start := by
  obtain ⟨before, rfl⟩ := List.getLast?_eq_some_iff.mp hlast
  rw [Position.le_iff_rank]
  rcases List.mem_append.mp hu with hu | hu
  · have hlt := (List.pairwise_append.mp hsorted).2.2 u hu last (List.mem_singleton_self _)
    exact Nat.le_of_lt (Position.lt_iff_rank.mp hlt)
  · rw [List.mem_singleton.mp hu]

theorem head_le {sorted : List Located} (hsorted : sorted.Pairwise fun a b => a.start < b.start)
    {first u : Located} (hfirst : sorted.head? = some first) (hu : u ∈ sorted) :
    first.start ≤ u.start := by
  obtain ⟨rest, rfl⟩ := List.head?_eq_some_iff.mp hfirst
  rw [Position.le_iff_rank]
  rcases List.mem_cons.mp hu with rfl | hu
  · exact Nat.le_refl _
  · exact Nat.le_of_lt (Position.lt_iff_rank.mp (List.rel_of_pairwise_cons hsorted hu))

/-- A walk through neighbours that lead to each other, in a direction without memory. -/
theorem walk_replicate {n : Navigator} {d : Document} {e : Entry} (h : e.outline.Orderly)
    (fetch : Document → Answer) {direction : Direction}
    (hdirection : direction = .previous ∨ direction = .next)
    (hcached : n.index.entries.get? d = some e) {level : List Located}
    (htargets : ∀ l ∈ level, e.outline.IsTarget l)
    (hchain : level.IsChain fun a b =>
      (resolve e.outline a.start).toward none direction = some b)
    (hlast : ∀ l, level.getLast? = some l →
      (resolve e.outline l.start).toward none direction = none)
    {t : Located} (ht : level.head? = some t) (k : Nat) :
    ∃ l, level[min k (level.length - 1)]? = some l ∧
      (n.walk fetch d t.caret (List.replicate k direction)).1 = l.caret := by
  have hmemory : ∀ (l : Located) staged, (resolve e.outline l.start).toward staged direction =
      (resolve e.outline l.start).toward none direction := by
    rcases hdirection with rfl | rfl <;> exact fun _ _ => rfl
  induction k generalizing n e level t with
  | zero => exact ⟨t, by rwa [Nat.zero_min, ← List.head?_eq_getElem?], rfl⟩
  | succ k ih =>
      obtain ⟨rest, rfl⟩ := List.head?_eq_some_iff.mp ht
      have htarget := htargets t (List.mem_cons_self ..)
      rw [List.replicate_succ]
      cases rest with
      | nil =>
          have hstay := hlast t rfl
          obtain ⟨m, s, hm, -, hwalk⟩ := walk_cons hcached h htarget fetch (u := t)
            (by rw [hmemory, hstay, Option.getD_none]) (List.replicate k direction)
          rw [hwalk]
          simpa using ih (e := { e with session := s }) h hm htargets hchain hlast rfl hmemory
      | cons u rest =>
          rw [List.isChain_cons_cons] at hchain
          obtain ⟨m, s, hm, -, hwalk⟩ := walk_cons hcached h htarget fetch (u := u)
            (by rw [hmemory, hchain.1, Option.getD_some]) (List.replicate k direction)
          have hrest := ih (e := { e with session := s }) h hm
            (fun l hl => htargets l (List.mem_cons_of_mem _ hl)) hchain.2
            (by simpa only [List.getLast?_cons_cons] using hlast) rfl hmemory
          rw [hwalk]
          simpa [Nat.succ_min_succ] using hrest

section

variable {n : Navigator} {d : Document} {e : Entry} (hcached : n.index.entries.get? d = some e)
  (h : e.outline.Orderly) (fetch : Document → Answer) {owner : Option Located}
  (howner : e.outline.IsOwner owner) {sorted : List Located}
  (hperm : sorted.Perm (e.outline.levelBelow owner))
  (hsorted : sorted.Pairwise fun a b => a.start < b.start)

include hcached h howner hperm hsorted

theorem walk_next {first : Located} (hfirst : sorted.head? = some first) (k : Nat) :
    ∃ l, sorted[min k (sorted.length - 1)]? = some l ∧
      (n.walk fetch d first.caret (List.replicate k .next)).1 = l.caret := by
  have hmem : ∀ l, l ∈ sorted ↔ e.outline.IsTarget l ∧ e.outline.enclosing? l.path = owner :=
    fun l => hperm.mem_iff.trans howner.mem_levelBelow
  refine walk_replicate h fetch (.inr rfl) hcached (fun l hl => ((hmem l).mp hl).1)
    ((chain_adjacent howner hperm hsorted).imp fun a b hadj => (h.next_eq_some hadj.left).mpr hadj)
    (fun l hl => ?_) hfirst k
  obtain ⟨hl', hlowner⟩ := (hmem l).mp (List.mem_of_getLast? hl)
  cases hnext : (resolve e.outline l.start).next with
  | none => exact hnext
  | some u =>
      have hadj := (h.next_eq_some hl').mp hnext
      have hle := le_getLast hsorted hl ((hmem u).mpr ⟨hadj.right, hadj.owner ▸ hlowner⟩)
      exact absurd (Position.lt_iff_rank.mp hadj.lt) (Nat.not_lt.mpr (Position.le_iff_rank.mp hle))

theorem walk_previous {last : Located} (hlast : sorted.getLast? = some last) (k : Nat) :
    ∃ l, sorted.reverse[min k (sorted.length - 1)]? = some l ∧
      (n.walk fetch d last.caret (List.replicate k .previous)).1 = l.caret := by
  have hmem : ∀ l, l ∈ sorted ↔ e.outline.IsTarget l ∧ e.outline.enclosing? l.path = owner :=
    fun l => hperm.mem_iff.trans howner.mem_levelBelow
  have hchain : sorted.reverse.IsChain fun a b => (resolve e.outline a.start).previous = some b :=
    List.isChain_reverse.mpr ((chain_adjacent howner hperm hsorted).imp fun a b hadj =>
      (h.previous_eq_some hadj.right).mpr hadj)
  rw [← List.length_reverse]
  refine walk_replicate h fetch (.inl rfl) hcached
    (fun l hl => ((hmem l).mp (List.mem_reverse.mp hl)).1) hchain (fun l hl => ?_)
    (by rwa [List.head?_reverse]) k
  rw [List.getLast?_reverse] at hl
  obtain ⟨hl', hlowner⟩ := (hmem l).mp (List.mem_of_head? hl)
  cases hprevious : (resolve e.outline l.start).previous with
  | none => exact hprevious
  | some u =>
      have hadj := (h.previous_eq_some hl').mp hprevious
      have hle := head_le hsorted hl ((hmem u).mpr ⟨hadj.left, hadj.owner.trans hlowner⟩)
      exact absurd (Position.lt_iff_rank.mp hadj.lt) (Nat.not_lt.mpr (Position.le_iff_rank.mp hle))

end

/-- The laws of walks with a single caret in an orderly outline of the cache: moves between siblings
undo each other, with an empty return stack the parent leads back from the child, and with any stack
the child leads back from the parent. Moves to the next sibling lead from the first member of a
level through all others in the order of their starts and end at the last one; moves to the previous
sibling lead back. -/
theorem walk_laws {n : Navigator} {d : Document} {e : Entry}
    (hcached : n.index.entries.get? d = some e) (h : e.outline.Orderly)
    (fetch : Document → Answer) :
    (∀ t, e.outline.IsTarget t →
      ((∃ u ∈ e.outline.levelBelow (e.outline.enclosing? t.path), t.start < u.start) →
        (n.walk fetch d t.caret [.next, .previous]).1 = t.caret) ∧
      ((∃ u ∈ e.outline.levelBelow (e.outline.enclosing? t.path), u.start < t.start) →
        (n.walk fetch d t.caret [.previous, .next]).1 = t.caret) ∧
      (e.session.returns = [] → t.members ≠ [] →
        (n.walk fetch d t.caret [.child, .parent]).1 = t.caret) ∧
      ((e.outline.enclosing? t.path).isSome →
        (n.walk fetch d t.caret [.parent, .child]).1 = t.caret)) ∧
    ∀ owner, e.outline.IsOwner owner →
      ∃ sorted : List Located, sorted.Perm (e.outline.levelBelow owner) ∧
        sorted.Pairwise (fun a b => a.start < b.start) ∧
        (∀ first, sorted.head? = some first → ∀ k,
          ∃ l, sorted[min k (sorted.length - 1)]? = some l ∧
            (n.walk fetch d first.caret (List.replicate k .next)).1 = l.caret) ∧
        ∀ last, sorted.getLast? = some last → ∀ k,
          ∃ l, sorted.reverse[min k (sorted.length - 1)]? = some l ∧
            (n.walk fetch d last.caret (List.replicate k .previous)).1 = l.caret := by
  constructor
  · intro t ht
    refine ⟨?_, ?_, walk_child_parent hcached h fetch ht, ?_⟩
    · rintro ⟨u, hu, hlt⟩
      obtain ⟨v, hv⟩ := h.next_isSome ht hu hlt
      exact walk_next_previous hcached h fetch ((h.next_eq_some ht).mp hv)
    · rintro ⟨u, hu, hlt⟩
      obtain ⟨v, hv⟩ := h.previous_isSome ht hu hlt
      exact walk_previous_next hcached h fetch ((h.previous_eq_some ht).mp hv)
    · intro hsome
      obtain ⟨p, hp⟩ := Option.isSome_iff_exists.mp hsome
      exact walk_parent_child hcached h fetch ht hp
  · intro owner howner
    obtain ⟨sorted, hperm, hsorted⟩ := h.exists_sorted howner
    exact ⟨sorted, hperm, hsorted, fun _ => walk_next hcached h fetch howner hperm hsorted,
      fun _ => walk_previous hcached h fetch howner hperm hsorted⟩

/-- The cache holds the sample and nothing else. -/
def sampleNavigator : Navigator :=
  ⟨{ Index.empty with entries := Table.empty.insert "shop" ⟨0, Outline.sample, .idle⟩ }, ⟨false⟩⟩

theorem walk_laws_sample :
    sampleNavigator.index.entries.get? "shop" = some ⟨0, Outline.sample, .idle⟩ ∧
      Outline.sample.Orderly ∧ Outline.sample.IsTarget samplePrice ∧
      (sampleNavigator.walk (fun _ => .ok none) "shop" samplePrice.caret [.next, .previous]).1 =
        samplePrice.caret ∧
      (sampleNavigator.walk (fun _ => .ok none) "shop" samplePrice.caret [.parent, .child]).1 =
        samplePrice.caret := by
  have hcached : sampleNavigator.index.entries.get? "shop" = some ⟨0, Outline.sample, .idle⟩ :=
    Table.get?_insert_self ..
  have h : Outline.sample.Orderly := by decide
  have ht : Outline.sample.IsTarget samplePrice := ⟨by decide, by decide⟩
  obtain ⟨htargets, -⟩ := walk_laws hcached h fun _ => .ok none
  obtain ⟨hnext, -, -, hparent⟩ := htargets samplePrice ht
  exact ⟨hcached, h, ht, hnext (by decide), hparent (by decide)⟩

end OutlineNav

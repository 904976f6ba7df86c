import Mathlib.Data.List.Basic
import Mathlib.Data.List.Induction
import OutlineNav.Nearest

/-!
# The first of the best

`earliest` and `latest` scan a level once and keep the best start so far. What such a scan chooses
is said without the scan by `IsBest`: a member that is better than every eligible one listed before
it and that no eligible one listed behind it is better than; and nothing, only if nothing is
eligible.

One member more at the end of a level either is better than the choice so far, and takes its place,
or leaves the choice as it was (`isBest_concat`). That is the whole argument (`isBest_foldl`).
-/

namespace OutlineNav

/-! ## Preferences -/

/-- A strict order of the starts, of which any two different ones can be compared. -/
structure IsPreference (better : Position → Position → Bool) : Prop where
  asymm : ∀ a b, better a b = true → better b a = false
  trans : ∀ a b c, better a b = false → better b c = false → better a c = false
  eq : ∀ a b, better a b = false → better b a = false → a = b

theorem decide_lt_eq_false {a b : Position} : decide (a < b) = false ↔ b ≤ a := by
  rw [decide_eq_false_iff_not, Position.lt_iff_rank, Position.le_iff_rank, Nat.not_lt]

theorem isPreference_earlier : IsPreference fun a b => a < b := by
  constructor
  · intro a b h
    rw [decide_eq_true_eq, Position.lt_iff_rank] at h
    rw [decide_lt_eq_false, Position.le_iff_rank]
    omega
  · intro a b c hab hbc
    rw [decide_lt_eq_false, Position.le_iff_rank] at *
    omega
  · intro a b hab hba
    rw [decide_lt_eq_false, Position.le_iff_rank] at *
    exact Position.rank_inj (Nat.le_antisymm hba hab)

theorem isPreference_later : IsPreference fun a b => b < a :=
  ⟨fun a b => isPreference_earlier.asymm b a,
    fun a b c hab hbc => isPreference_earlier.trans c b a hbc hab,
    fun a b hab hba => isPreference_earlier.eq a b hba hab⟩

namespace IsPreference

variable {better : Position → Position → Bool} (hbetter : IsPreference better)

include hbetter

theorem irrefl (a : Position) : better a a = false := by
  cases h : better a a with
  | false => rfl
  | true => exact h.symm.trans (hbetter.asymm a a h)

/-- Better than something that is at least as good. -/
theorem better_of_better {a b c : Position} (hab : better a b = true) (hcb : better c b = false) :
    better a c = true := by
  cases hac : better a c with
  | true => rfl
  | false => exact (hbetter.trans _ _ _ hac hcb).symm.trans hab

end IsPreference

/-! ## Choices -/

/-- What is chosen among the eligible members of a level: the first of those with the best start,
and nothing only if no member is eligible. -/
def IsBest (better : Position → Position → Bool) (eligible : Located → Prop)
    (level : List Located) : (choice : Option Located) → Prop
  | none => ∀ m ∈ level, ¬eligible m
  | some l => eligible l ∧ ∃ before after, level = before ++ l :: after ∧
      (∀ m ∈ before, eligible m → better l.start m.start = true) ∧
      ∀ m ∈ after, eligible m → better m.start l.start = false

namespace IsBest

variable {better : Position → Position → Bool} {eligible : Located → Prop} {level : List Located}

theorem congr {eligible' : Located → Prop} {choice : Option Located}
    (h : IsBest better eligible level choice) (heq : ∀ m, eligible' m ↔ eligible m) :
    IsBest better eligible' level choice := by
  rwa [funext fun m => propext (heq m)]

theorem mem {l : Located} (h : IsBest better eligible level (some l)) : l ∈ level := by
  obtain ⟨-, before, after, rfl, -⟩ := h
  exact List.mem_append_cons_self

theorem not_better (hbetter : IsPreference better) {l : Located}
    (h : IsBest better eligible level (some l)) :
    ∀ m ∈ level, eligible m → better m.start l.start = false := by
  obtain ⟨-, before, after, rfl, hbefore, hafter⟩ := h
  intro m hm heligible
  rcases List.mem_append.mp hm with hm | hm
  · exact hbetter.asymm _ _ (hbefore m hm heligible)
  · rcases List.mem_cons.mp hm with rfl | hm
    · exact hbetter.irrefl _
    · exact hafter m hm heligible

theorem concat_of_not_eligible {choice : Option Located} (h : IsBest better eligible level choice)
    {m : Located} (hm : ¬eligible m) : IsBest better eligible (level ++ [m]) choice := by
  cases choice with
  | none => exact List.forall_mem_append.mpr ⟨h, List.forall_mem_singleton.mpr hm⟩
  | some l =>
      obtain ⟨hl, before, after, rfl, hbefore, hafter⟩ := h
      refine ⟨hl, before, after ++ [m], by rw [List.append_assoc, List.cons_append], hbefore, ?_⟩
      exact List.forall_mem_append.mpr
        ⟨hafter, List.forall_mem_singleton.mpr fun heligible => absurd heligible hm⟩

end IsBest

theorem isBest_concat {better : Position → Position → Bool} (hbetter : IsPreference better)
    {eligible : Located → Prop} {level : List Located} {best : Option Located}
    (h : IsBest better eligible level best) {m : Located} (hm : eligible m) :
    IsBest better eligible (level ++ [m]) (keepBetter better best m) := by
  cases best with
  | none => exact ⟨hm, level, [], rfl, fun x hx heligible => absurd heligible (h x hx), nofun⟩
  | some b =>
      rw [keepBetter]
      cases hmb : better m.start b.start with
      | true =>
          refine ⟨hm, level, [], rfl, fun x hx heligible => ?_, nofun⟩
          exact hbetter.better_of_better hmb (h.not_better hbetter x hx heligible)
      | false =>
          obtain ⟨hb, before, after, rfl, hbefore, hafter⟩ := h
          refine ⟨hb, before, after ++ [m], by rw [List.append_assoc, List.cons_append], hbefore,
            ?_⟩
          exact List.forall_mem_append.mpr ⟨hafter, List.forall_mem_singleton.mpr fun _ => hmb⟩

/-- A scan of the eligible members chooses the first of the best. -/
theorem isBest_foldl {better : Position → Position → Bool} (hbetter : IsPreference better)
    (eligible : Located → Bool) (level : List Located) :
    IsBest better (eligible · = true) level
      ((level.filter eligible).foldl (keepBetter better) none) := by
  induction level using List.reverseRecOn with
  | nil => exact List.forall_mem_nil _
  | append_singleton level m ih =>
      rw [List.filter_append, List.filter_singleton, List.foldl_append]
      cases hm : eligible m with
      | true => exact isBest_concat hbetter ih hm
      | false => exact ih.concat_of_not_eligible (by rw [hm]; exact Bool.false_ne_true)

theorem isBest_earliest (eligible : Located → Bool) (level : List Located) :
    IsBest (fun a b => a < b) (eligible · = true) level (earliest (level.filter eligible)) :=
  isBest_foldl isPreference_earlier eligible level

theorem isBest_latest (eligible : Located → Bool) (level : List Located) :
    IsBest (fun a b => b < a) (eligible · = true) level (latest (level.filter eligible)) :=
  isBest_foldl isPreference_later eligible level

/-! ## Extremes -/

section

variable {better : Position → Position → Bool} (hbetter : IsPreference better)
  {level : List Located}

include hbetter

theorem isBest_all (level : List Located) :
    IsBest better (fun _ => True) level (level.foldl (keepBetter better) none) := by
  have h := isBest_foldl hbetter (fun _ => true) level
  rw [List.filter_eq_self.mpr fun _ _ => rfl] at h
  exact h.congr fun _ => ⟨fun _ => rfl, fun _ => trivial⟩

theorem foldl_eq_some {l : Located} (h : level.foldl (keepBetter better) none = some l) :
    l ∈ level ∧ ∀ m ∈ level, better m.start l.start = false := by
  have hbest := h ▸ isBest_all hbetter level
  exact ⟨hbest.mem, fun m hm => hbest.not_better hbetter m hm trivial⟩

theorem eq_nil_of_foldl (h : level.foldl (keepBetter better) none = none) : level = [] := by
  have hbest := h ▸ isBest_all hbetter level
  exact List.eq_nil_iff_forall_not_mem.mpr fun l hl => hbest l hl trivial

/-- Without two members that start at the same place, there is only one best member. -/
theorem foldl_eq_some_iff (hinj : ∀ a ∈ level, ∀ b ∈ level, a.start = b.start → a = b)
    {l : Located} :
    level.foldl (keepBetter better) none = some l ↔
      l ∈ level ∧ ∀ m ∈ level, better m.start l.start = false := by
  refine ⟨foldl_eq_some hbetter, fun ⟨hl, hbest⟩ => ?_⟩
  cases hfound : level.foldl (keepBetter better) none with
  | none =>
      rw [eq_nil_of_foldl hbetter hfound] at hl
      cases hl
  | some e =>
      obtain ⟨he, hbest'⟩ := foldl_eq_some hbetter hfound
      rw [hinj e he l hl (hbetter.eq _ _ (hbest e he) (hbest' l hl))]

end

variable {level : List Located} {l : Located}

theorem earliest_eq_some (h : earliest level = some l) :
    l ∈ level ∧ ∀ m ∈ level, l.start ≤ m.start :=
  (foldl_eq_some isPreference_earlier h).imp_right fun hleast m hm =>
    decide_lt_eq_false.mp (hleast m hm)

theorem earliest_isSome (h : level ≠ []) : (earliest level).isSome :=
  Option.isSome_iff_ne_none.mpr (mt (eq_nil_of_foldl isPreference_earlier) h)

theorem latest_isSome (h : level ≠ []) : (latest level).isSome :=
  Option.isSome_iff_ne_none.mpr (mt (eq_nil_of_foldl isPreference_later) h)

theorem earliest_eq_some_iff (hinj : ∀ a ∈ level, ∀ b ∈ level, a.start = b.start → a = b) :
    earliest level = some l ↔ l ∈ level ∧ ∀ m ∈ level, l.start ≤ m.start := by
  rw [earliest, foldl_eq_some_iff isPreference_earlier hinj]
  simp only [decide_lt_eq_false]

theorem latest_eq_some_iff (hinj : ∀ a ∈ level, ∀ b ∈ level, a.start = b.start → a = b) :
    latest level = some l ↔ l ∈ level ∧ ∀ m ∈ level, m.start ≤ l.start := by
  rw [latest, foldl_eq_some_iff isPreference_later hinj]
  simp only [decide_lt_eq_false]

end OutlineNav

import OutlineNav.Client.Crew

/-!
# Starts in progress

Any number of callers share the slots. A move lets one of them take its next step upon some news,
and a list of moves is one interleaving. Nothing is assumed of the news, and a caller who waits may
look again at any time.

What a step does to the slot is one of four things (`Caller.Effect`). The stages are taken apart
once, by `Caller.follows_advance`, which says when a step has each effect and what there is after
it; everything else follows from that.

The starts in progress are settled by an account. A start begins with a claim on the empty slot.
When it ends, the claim ends with it, unless the slot is claimed no more. And a claim may be
dropped: a caller who reacts to the death of an earlier server empties the slot, whatever it holds.
Hence, for each language and at every moment,

  `starts + late ends = claims + drops`

where a slot has one claim at most (`Callers.run_account`). As long as no claim is dropped there is
at most one start, and whoever looks meanwhile waits for it; this is so as long as no server is
found gone (`Callers.drops_eq_zero`). A dropped claim is not made good: the next caller who looks
starts another server (`Callers.starts_again`), and two callers who react to one death are enough.

The workers of a crew are such callers, whatever their servers do (`Crew.onlyMoves_rounds`).
-/

namespace OutlineNav

variable {γ : Type}

/-! ## Claims -/

namespace Slots

variable {s : Slots γ} {ℓ ℓ' : Language}

def isClaimed (s : Slots γ) (ℓ : Language) : Bool :=
  match s.get? ℓ with
  | some .claimed => true
  | _ => false

theorem isClaimed_congr {s' : Slots γ} (h : s'.get? ℓ = s.get? ℓ) :
    s'.isClaimed ℓ = s.isClaimed ℓ := by
  rw [isClaimed, isClaimed, h]

theorem isClaimed_of_none (h : s.get? ℓ = none) : s.isClaimed ℓ = false := by
  simp [isClaimed, h]

theorem get?_of_isClaimed (h : s.isClaimed ℓ = true) : s.get? ℓ = some .claimed := by
  unfold isClaimed at h
  split at h
  · assumption
  · cases h

theorem isClaimed_insert_claimed (s : Slots γ) (ℓ : Language) :
    Slots.isClaimed (s.insert ℓ .claimed) ℓ = true := by
  simp [isClaimed]

theorem isClaimed_erase (s : Slots γ) (ℓ : Language) : Slots.isClaimed (s.erase ℓ) ℓ = false := by
  simp [isClaimed]

theorem isClaimed_finish (s : Slots γ) (ℓ : Language) (client? : Option γ) :
    (s.finish ℓ client?).isClaimed ℓ = false := by
  cases client? <;> simp [finish, isClaimed]

theorem get?_finish_ne (h : ℓ' ≠ ℓ) (client? : Option γ) :
    (s.finish ℓ client?).get? ℓ' = s.get? ℓ' := by
  cases client? with
  | none => exact Table.get?_erase_ne _ h
  | some client => exact Table.get?_insert_ne _ h _

end Slots

/-! ## What a step of a caller does -/

namespace Caller

variable {c : Caller γ} {news : News γ} {slots : Slots γ}

def isStarting (c : Caller γ) : Bool :=
  match c.stage with
  | .starting => true
  | _ => false

/-- The next step of the caller empties the slot. -/
def isReacting (c : Caller γ) : Bool :=
  match c.stage with
  | .dropping | .clearing => true
  | _ => false

/-- A server was found gone. -/
def News.tellsDeath : News γ → Bool
  | .running still => !still
  | .worked gone => gone
  | _ => false

/-! ### Steps that depend on the slot -/

theorem advance_looking_none (hstage : c.stage = .looking) (h : slots.get? c.language = none) :
    c.advance news slots = ({ c with stage := .claiming }, slots) := by
  simp [advance, hstage, h]

theorem advance_looking_claimed (hstage : c.stage = .looking)
    (h : slots.get? c.language = some .claimed) :
    c.advance news slots = ({ c with stage := .waiting }, slots) := by
  simp [advance, hstage, h]

theorem advance_claiming_none (hstage : c.stage = .claiming) (h : slots.get? c.language = none) :
    c.advance news slots =
      ({ c with stage := .starting }, slots.insert c.language .claimed) := by
  simp [advance, hstage, Slots.claim, Table.contains, h]

theorem advance_claiming_some {slot : Slot γ} (hstage : c.stage = .claiming)
    (h : slots.get? c.language = some slot) :
    c.advance news slots = ({ c with stage := .looking }, slots) := by
  simp [advance, hstage, Slots.claim, Table.contains, h]

/-! ### The four effects -/

/-- What a step does to the slot of the caller's language. -/
inductive Effect (γ : Type) where
  | nothing
  /-- The slot is claimed, and a start begins. -/
  | claims
  | ends (client? : Option γ)
  | empties

def effect (c : Caller γ) (news : News γ) (slots : Slots γ) : Effect γ :=
  match c.stage, news with
  | .claiming, _ => if slots.contains c.language then .nothing else .claims
  | .starting, .started client? => .ends client?
  | .dropping, _ | .clearing, _ => .empties
  | _, _ => .nothing

/-- What is known of a step: when it has its effect, and what there is after it. -/
structure Follows (c : Caller γ) (news : News γ) (slots : Slots γ) (after : Caller γ × Slots γ) :
    Prop where
  guard :
    match c.effect news slots with
    | .nothing => True
    | .claims => c.isStarting = false ∧ slots.get? c.language = none
    | .ends _ => c.isStarting = true
    | .empties => c.isStarting = false ∧ c.isReacting = true
  language : after.1.language = c.language
  slots_eq : after.2 =
    match c.effect news slots with
    | .nothing => slots
    | .claims => slots.insert c.language .claimed
    | .ends client? => slots.finish c.language client?
    | .empties => slots.erase c.language
  /-- Only a claim leads to a start, and only the end of the start leads out of it. -/
  isStarting : after.1.isStarting =
    match c.effect news slots with
    | .nothing => c.isStarting
    | .claims => true
    | .ends _ | .empties => false
  isReacting : after.1.isReacting = true → news.tellsDeath = true

/-- The one place where the steps are taken apart, by the stage that a caller is in. -/
theorem follows_advance (c : Caller γ) (news : News γ) (slots : Slots γ) :
    c.Follows news slots (c.advance news slots) := by
  obtain ⟨ℓ, works, restarted, stage⟩ := c
  cases stage with
  | looking =>
    simp only [advance]
    split <;> exact ⟨trivial, rfl, rfl, rfl, nofun⟩
  | checking client =>
    cases news with
    | running still =>
      cases still with
      | true => cases works <;> exact ⟨trivial, rfl, rfl, rfl, nofun⟩
      | false => exact ⟨trivial, rfl, rfl, rfl, fun _ => rfl⟩
    | _ => exact ⟨trivial, rfl, rfl, rfl, nofun⟩
  | claiming =>
    cases h : slots.get? ℓ with
    | none =>
      have heffect : effect ⟨ℓ, works, restarted, .claiming⟩ news slots = .claims := by
        simp [effect, Table.contains, h]
      rw [advance_claiming_none rfl h]
      exact ⟨by rw [heffect]; exact ⟨rfl, h⟩, rfl, by rw [heffect], by rw [heffect]; rfl, nofun⟩
    | some slot =>
      have heffect : effect ⟨ℓ, works, restarted, .claiming⟩ news slots = .nothing := by
        simp [effect, Table.contains, h]
      rw [advance_claiming_some rfl h]
      exact ⟨by rw [heffect]; trivial, rfl, by rw [heffect], by rw [heffect]; rfl, nofun⟩
  | starting =>
    cases news with
    | started client? => cases client? <;> cases works <;> exact ⟨rfl, rfl, rfl, rfl, nofun⟩
    | _ => exact ⟨trivial, rfl, rfl, rfl, nofun⟩
  | working client =>
    cases news with
    | worked gone =>
      cases gone with
      | false => exact ⟨trivial, rfl, rfl, rfl, nofun⟩
      | true => cases restarted <;> exact ⟨trivial, rfl, rfl, rfl, fun _ => rfl⟩
    | _ => exact ⟨trivial, rfl, rfl, rfl, nofun⟩
  | clearing =>
    simp only [advance, Slots.clear]
    cases slots.client? ℓ <;> exact ⟨⟨rfl, rfl⟩, rfl, rfl, rfl, nofun⟩
  | dropping => exact ⟨⟨rfl, rfl⟩, rfl, rfl, rfl, nofun⟩
  | _ => cases news <;> exact ⟨trivial, rfl, rfl, rfl, nofun⟩

/-! ### The account of one step -/

/-- The step empties the slot although it is claimed. -/
def dropsClaim (c : Caller γ) (news : News γ) (slots : Slots γ) : Bool :=
  match c.effect news slots with
  | .empties => slots.isClaimed c.language
  | _ => false

/-- The step ends a start, and the slot is not claimed any more. -/
def endsUnclaimed (c : Caller γ) (news : News γ) (slots : Slots γ) : Bool :=
  match c.effect news slots with
  | .ends _ => !slots.isClaimed c.language
  | _ => false

theorem advance_account (c : Caller γ) (news : News γ) (slots : Slots γ) :
    (c.advance news slots).1.isStarting.toNat + (c.endsUnclaimed news slots).toNat +
        (slots.isClaimed c.language).toNat =
      ((c.advance news slots).2.isClaimed c.language).toNat + (c.dropsClaim news slots).toNat +
        c.isStarting.toNat := by
  obtain ⟨hguard, -, hslots, hstarting, -⟩ := follows_advance c news slots
  rw [hslots, hstarting, endsUnclaimed, dropsClaim]
  cases h : c.effect news slots with
  | nothing => simp only [Bool.toNat_false]; omega
  | claims =>
    rw [h] at hguard
    simp [hguard.1, Slots.isClaimed_insert_claimed, Slots.isClaimed_of_none hguard.2]
  | ends client? =>
    rw [h] at hguard
    simp only [hguard, Slots.isClaimed_finish]
    cases slots.isClaimed c.language <;> rfl
  | empties =>
    rw [h] at hguard
    simp only [hguard.1, Slots.isClaimed_erase]
    omega

/-- The slots of other languages stay as they are. -/
theorem advance_get?_ne {ℓ : Language} (h : ℓ ≠ c.language) (news : News γ) (slots : Slots γ) :
    (c.advance news slots).2.get? ℓ = slots.get? ℓ := by
  rw [(follows_advance c news slots).slots_eq]
  cases c.effect news slots with
  | nothing => rfl
  | claims => exact Table.get?_insert_ne _ h _
  | ends client? => exact Slots.get?_finish_ne h client?
  | empties => exact Table.get?_erase_ne _ h

end Caller

/-! ## Callers together -/

/-- Callers that share the slots. -/
structure Callers (γ : Type) where
  slots : Slots γ
  all : List (Caller γ)

/-- The caller at a position takes a step upon some news. -/
structure Move (γ : Type) where
  caller : Nat
  news : Caller.News γ

namespace Callers

variable {s : Callers γ} {ℓ : Language} {m : Move γ} {moves : List (Move γ)}

def move (s : Callers γ) (m : Move γ) : Callers γ :=
  match s.all[m.caller]? with
  | some c =>
    let (c, slots) := c.advance m.news s.slots
    ⟨slots, s.all.set m.caller c⟩
  | none => s

def run (s : Callers γ) (moves : List (Move γ)) : Callers γ := moves.foldl move s

/-- The starts in progress. -/
def starts (s : Callers γ) (ℓ : Language) : Nat :=
  s.all.countP fun c => c.language = ℓ && c.isStarting

def claims (s : Callers γ) (ℓ : Language) : Nat := (s.slots.isClaimed ℓ).toNat

/-- The caller of a move is one of the language, and something is true of its step. -/
def steps (p : Caller γ → Caller.News γ → Slots γ → Bool) (ℓ : Language) (s : Callers γ)
    (m : Move γ) : Bool :=
  s.all[m.caller]?.any fun c => c.language = ℓ && p c m.news s.slots

/-- How many moves of a run are of a kind. -/
def times (p : Callers γ → Move γ → Bool) (s : Callers γ) : List (Move γ) → Nat
  | [] => 0
  | m :: moves => (p s m).toNat + times p (s.move m) moves

/-- How often a claim on the slot of a language is dropped. -/
def drops (ℓ : Language) : Callers γ → List (Move γ) → Nat := times (steps Caller.dropsClaim ℓ)

/-- How many starts end without a claim. -/
def lateEnds (ℓ : Language) : Callers γ → List (Move γ) → Nat :=
  times (steps Caller.endsUnclaimed ℓ)

/-! ### The account of a run -/

theorem move_some {c : Caller γ} (h : s.all[m.caller]? = some c) :
    s.move m =
      ⟨(c.advance m.news s.slots).2, s.all.set m.caller (c.advance m.news s.slots).1⟩ := by
  simp [move, h]

theorem move_none (h : s.all[m.caller]? = none) : s.move m = s := by
  simp [move, h]

theorem countP_set_add {α : Type} {p : α → Bool} {l : List α} {i : Nat} {a b : α}
    (h : l[i]? = some b) : (l.set i a).countP p + (p b).toNat = l.countP p + (p a).toNat := by
  obtain ⟨hi, hb⟩ := List.getElem?_eq_some_iff.mp h
  have hpos : p b = true → 0 < l.countP p := fun hp =>
    List.countP_pos_iff.mpr ⟨b, List.mem_of_getElem? h, hp⟩
  rw [List.countP_set hi, hb]
  cases hp : p b with
  | false => cases p a <;> simp
  | true =>
    have := hpos hp
    cases p a <;> simp <;> omega

theorem move_account (s : Callers γ) (m : Move γ) (ℓ : Language) :
    (s.move m).starts ℓ + (steps Caller.endsUnclaimed ℓ s m).toNat + s.claims ℓ =
      (s.move m).claims ℓ + (steps Caller.dropsClaim ℓ s m).toNat + s.starts ℓ := by
  cases h : s.all[m.caller]? with
  | none =>
    rw [move_none h]
    simp only [steps, h, Option.any_none, Bool.toNat_false]
    omega
  | some c =>
    have hset := countP_set_add (p := fun c => c.language = ℓ && c.isStarting)
      (a := (c.advance m.news s.slots).1) h
    rw [(Caller.follows_advance c m.news s.slots).language] at hset
    rw [move_some h]
    simp only [steps, starts, claims, h, Option.any_some]
    by_cases hℓ : c.language = ℓ
    · subst hℓ
      have := Caller.advance_account c m.news s.slots
      simp only [decide_true, Bool.true_and] at hset ⊢
      omega
    · have hget := Caller.advance_get?_ne (Ne.symm hℓ) m.news s.slots
      simp only [hℓ, decide_false, Bool.false_and, Bool.toNat_false] at hset ⊢
      rw [Slots.isClaimed_congr hget]
      omega

theorem run_account (s : Callers γ) (moves : List (Move γ)) (ℓ : Language) :
    (s.run moves).starts ℓ + lateEnds ℓ s moves + s.claims ℓ =
      (s.run moves).claims ℓ + drops ℓ s moves + s.starts ℓ := by
  induction moves generalizing s with
  | nil => simp only [run, lateEnds, drops, times, List.foldl_nil]; omega
  | cons m moves ih =>
    have hmove := move_account s m ℓ
    have hrest := ih (s.move m)
    simp only [run, lateEnds, drops, times, List.foldl_cons] at hrest ⊢
    omega

/-! ### When no claim is dropped -/

/-- A caller reacts only to a death. -/
theorem move_isReacting (hm : m.news.tellsDeath = false)
    (h : ∀ c ∈ s.all, c.isReacting = false) : ∀ c ∈ (s.move m).all, c.isReacting = false := by
  cases hc : s.all[m.caller]? with
  | none => rwa [move_none hc]
  | some c =>
    rw [move_some hc]
    intro c' hc'
    rcases List.mem_or_eq_of_mem_set hc' with hmem | rfl
    · exact h c' hmem
    · have hreact := (Caller.follows_advance c m.news s.slots).isReacting
      simpa [hm] using hreact

theorem dropsClaim_of_not_isReacting {c : Caller γ} {news : Caller.News γ} {slots : Slots γ}
    (h : c.isReacting = false) : c.dropsClaim news slots = false := by
  have hguard := (Caller.follows_advance c news slots).guard
  rw [Caller.dropsClaim]
  split
  · next heffect =>
    rw [heffect] at hguard
    simp [hguard.2] at h
  · rfl

theorem drops_eq_zero (hmoves : ∀ m ∈ moves, m.news.tellsDeath = false)
    (h : ∀ c ∈ s.all, c.isReacting = false) : drops ℓ s moves = 0 := by
  induction moves generalizing s with
  | nil => rfl
  | cons m moves ih =>
    have hfirst : steps Caller.dropsClaim ℓ s m = false := by
      rw [steps, Option.any_eq_false]
      intro c hc
      simp [dropsClaim_of_not_isReacting (h c (List.mem_of_getElem? hc))]
    have hrest := ih (fun m' hm' => hmoves m' (List.mem_cons_of_mem m hm'))
      (move_isReacting (hmoves m List.mem_cons_self) h)
    rw [drops, times, hfirst, ← drops, hrest]
    rfl

/-! ### Callers who look -/

/-- Whoever looks has to wait, and whoever is about to claim the slot has to look again. -/
def SendsAway (s : Callers γ) (ℓ : Language) : Prop :=
  ∀ i c news, s.all[i]? = some c → c.language = ℓ →
    (c.stage = .looking →
      s.move ⟨i, news⟩ = { s with all := s.all.set i { c with stage := .waiting } }) ∧
    (c.stage = .claiming →
      s.move ⟨i, news⟩ = { s with all := s.all.set i { c with stage := .looking } })

theorem sendsAway_of_claimed (h : s.slots.get? ℓ = some .claimed) : s.SendsAway ℓ := by
  rintro i c news hc rfl
  refine ⟨fun hstage => ?_, fun hstage => ?_⟩
  · rw [move_some hc, Caller.advance_looking_claimed hstage h]
  · rw [move_some hc, Caller.advance_claiming_some hstage h]

/-- Who finds the slot empty starts a server, whatever is in progress. -/
theorem starts_again {i : Nat} {c : Caller γ} (hc : s.all[i]? = some c)
    (hstage : c.stage = .looking) (h : s.slots.get? c.language = none) :
    ((s.move ⟨i, .nothing⟩).move ⟨i, .nothing⟩).starts c.language = s.starts c.language + 1 := by
  have hi : i < s.all.length := (List.getElem?_eq_some_iff.mp hc).1
  have hfirst : s.move ⟨i, .nothing⟩ = ⟨s.slots, s.all.set i { c with stage := .claiming }⟩ := by
    rw [move_some hc, Caller.advance_looking_none hstage h]
  have hsecond : ((s.move ⟨i, .nothing⟩).move ⟨i, .nothing⟩).all =
      s.all.set i { c with stage := .starting } := by
    rw [hfirst, move_some (c := { c with stage := .claiming }) (List.getElem?_set_self hi)]
    dsimp only
    rw [Caller.advance_claiming_none (c := { c with stage := .claiming }) rfl h, List.set_set]
  have hcount := countP_set_add (p := fun c' => c'.language = c.language && c'.isStarting)
    (a := { c with stage := .starting }) hc
  rw [starts, hsecond]
  simpa [starts, Caller.isStarting, hstage] using hcount

/-! ## Newcomers -/

/-- Callers who have not taken a step, each with a language and whether the client is to work. -/
def arrive (slots : Slots γ) (newcomers : List (Language × Bool)) : Callers γ :=
  ⟨slots, newcomers.map fun (ℓ, works) => .new ℓ works⟩

section

variable {slots : Slots γ} {newcomers : List (Language × Bool)}

theorem arrive_fresh : ∀ c ∈ (arrive slots newcomers).all, c.stage = .looking := by
  intro c hc
  obtain ⟨_, -, rfl⟩ := List.mem_map.mp hc
  rfl

theorem arrive_starts : (arrive slots newcomers).starts ℓ = 0 := by
  rw [starts, List.countP_eq_zero]
  intro c hc
  simp [Caller.isStarting, arrive_fresh c hc]

theorem arrive_isReacting : ∀ c ∈ (arrive slots newcomers).all, c.isReacting = false := by
  intro c hc
  simp [Caller.isReacting, arrive_fresh c hc]

end

/-- **Starts in progress.** Newcomers get to clients and work with them, in any interleaving and
whatever comes about; nobody has claimed the slot of a language before. At every moment, the starts
in progress and those that have ended without a claim are as many as the claims, which is one or
none, and those that were dropped. Unless one was dropped there is at most one start, and while
there is one nobody else gets to start: who looks waits. Only a server that was found gone makes
somebody drop a claim; whoever looks then starts another server, no matter how many starts are in
progress. -/
theorem starts_in_progress (slots : Slots γ) (newcomers : List (Language × Bool))
    (moves : List (Move γ)) (ℓ : Language) (h : slots.isClaimed ℓ = false) :
    let s₀ := arrive slots newcomers
    let s := s₀.run moves
    s.starts ℓ + lateEnds ℓ s₀ moves = s.claims ℓ + drops ℓ s₀ moves ∧
    (drops ℓ s₀ moves = 0 → s.starts ℓ ≤ 1 ∧ (s.starts ℓ = 1 → s.SendsAway ℓ)) ∧
    ((∀ m ∈ moves, m.news.tellsDeath = false) → drops ℓ s₀ moves = 0) ∧
    ∀ i c, s.all[i]? = some c → c.language = ℓ → c.stage = .looking → s.slots.get? ℓ = none →
      ((s.move ⟨i, .nothing⟩).move ⟨i, .nothing⟩).starts ℓ = s.starts ℓ + 1 := by
  intro s₀ s
  have haccount : s.starts ℓ + lateEnds ℓ s₀ moves + s₀.claims ℓ =
      s.claims ℓ + drops ℓ s₀ moves + s₀.starts ℓ := run_account s₀ moves ℓ
  have hstarts : s₀.starts ℓ = 0 := arrive_starts
  have hclaims : s₀.claims ℓ = 0 := by simp [claims, s₀, arrive, h]
  have hone : s.claims ℓ ≤ 1 := Bool.toNat_le _
  refine ⟨by omega, fun hdrops => ⟨by omega, fun hs => ?_⟩,
    fun hmoves => drops_eq_zero hmoves arrive_isReacting, ?_⟩
  · have hclaimed : s.claims ℓ = 1 := by omega
    exact sendsAway_of_claimed (Slots.get?_of_isClaimed (by simpa [claims] using hclaimed))
  · rintro i c hc rfl hstage hnone
    exact starts_again hc hstage hnone

/-- While the first caller starts a server, the second one waits. -/
theorem starts_in_progress_second_waits :
    let s := (arrive (.empty : Slots Nat) [(.rust, true), (.rust, false)]).run
      [⟨0, .nothing⟩, ⟨0, .nothing⟩, ⟨1, .nothing⟩]
    s.all.map (·.stage) = [.starting, .waiting] ∧ s.starts .rust = 1 ∧ s.SendsAway .rust := by
  intro s
  obtain ⟨-, hfew, hdrops, -⟩ := starts_in_progress (.empty : Slots Nat)
    [(.rust, true), (.rust, false)] [⟨0, .nothing⟩, ⟨0, .nothing⟩, ⟨1, .nothing⟩] .rust rfl
  exact ⟨rfl, rfl, (hfew (hdrops (by decide))).2 rfl⟩

/-- Two starts in progress. In the first run two callers work when their server dies: one of them
has started another server before the other one empties the slot. In the second run a server has
died that two more callers find in the slot: again one of them starts another server before the
other one empties the slot. -/
theorem second_start_in_progress :
    ((arrive (.empty : Slots Nat) [(.rust, true), (.rust, true)]).run
      [⟨0, .nothing⟩, ⟨0, .nothing⟩, ⟨0, .started (some 7)⟩, ⟨1, .nothing⟩, ⟨1, .running true⟩,
        ⟨0, .worked true⟩, ⟨1, .worked true⟩,
        ⟨0, .nothing⟩, ⟨0, .stopped⟩, ⟨0, .nothing⟩, ⟨0, .nothing⟩,
        ⟨1, .nothing⟩, ⟨1, .nothing⟩, ⟨1, .nothing⟩]).starts .rust = 2 ∧
    ((arrive (.empty : Slots Nat) [(.rust, false), (.rust, false), (.rust, false)]).run
      [⟨0, .nothing⟩, ⟨0, .nothing⟩, ⟨0, .started (some 7)⟩, ⟨1, .nothing⟩, ⟨2, .nothing⟩,
        ⟨1, .running false⟩, ⟨2, .running false⟩,
        ⟨1, .nothing⟩, ⟨1, .nothing⟩, ⟨1, .nothing⟩,
        ⟨2, .nothing⟩, ⟨2, .nothing⟩, ⟨2, .nothing⟩]).starts .rust = 2 := by
  decide

end Callers

/-! ## Crews -/

namespace Crew

variable {κ σ α β : Type}

def callers (crew : Crew κ) : Callers Nat := ⟨crew.slots, crew.workers.map (·.caller)⟩

/-- What is done to the callers of a crew are moves of theirs, whatever the world does. -/
def OnlyMoves (act : StateT (Crew κ) (StateM σ) α) : Prop :=
  ∀ crew world, ∃ moves, ((act.run crew).run world).1.2.callers = crew.callers.run moves

theorem onlyMoves_pure (a : α) : OnlyMoves (pure a : StateT (Crew κ) (StateM σ) α) :=
  fun _ _ => ⟨[], rfl⟩

theorem onlyMoves_bind {act : StateT (Crew κ) (StateM σ) α}
    {next : α → StateT (Crew κ) (StateM σ) β} (h : OnlyMoves act)
    (hnext : ∀ a, OnlyMoves (next a)) :
    OnlyMoves (act >>= next) := by
  intro crew world
  obtain ⟨moves, hmoves⟩ := h crew world
  rcases hact : (act.run crew).run world with ⟨⟨a, crew'⟩, world'⟩
  obtain ⟨moves', hmoves'⟩ := hnext a crew' world'
  have hrun : ((act >>= next).run crew).run world = ((next a).run crew').run world' := by
    rw [StateT.run_bind, StateT.run_bind, hact]
    rfl
  refine ⟨moves ++ moves', ?_⟩
  rw [hact] at hmoves
  rw [hrun, hmoves', hmoves, Callers.run, Callers.run, Callers.run, List.foldl_append]

theorem onlyMoves_forM {l : List β} {act : β → StateT (Crew κ) (StateM σ) PUnit}
    (h : ∀ b, OnlyMoves (act b)) : OnlyMoves (l.forM act) := by
  induction l with
  | nil => exact onlyMoves_pure _
  | cons b l ih => exact onlyMoves_bind (h b) fun _ => ih

variable (p : Server.Processes (StateM σ) κ) (w : Workspace)

theorem onlyMoves_step (i : Nat) : OnlyMoves (step p w i) := by
  intro crew world
  cases hworker : crew.workers[i]? with
  | none =>
    have hstep : (step p w i).run crew = pure (false, crew) := by
      simp [step, hworker]
    exact ⟨[], by rw [hstep]; rfl⟩
  | some worker =>
    rcases hattend : ((attend p w worker).run crew.connections).run world with
      ⟨⟨report, connections⟩, world'⟩
    have hcaller : crew.callers.all[i]? = some worker.caller := by
      simp [callers, hworker]
    have hstep : (((step p w i).run crew).run world).1.2 =
        { slots := (worker.caller.advance report.news crew.slots).2
          connections
          workers := crew.workers.set i
            { report.worker with
              caller := (worker.caller.advance report.news crew.slots).1 } } := by
      simp only [step, StateT.run_bind, StateT.run_get, hworker, pure_bind, StateT.run_monadLift,
        monadLift_self, hattend]
      rfl
    refine ⟨[⟨i, report.news⟩], ?_⟩
    rw [hstep, Callers.run, List.foldl_cons, List.foldl_nil, Callers.move_some hcaller]
    simp [callers]

theorem onlyMoves_turn (i steps : Nat) : OnlyMoves (turn p w i steps) := by
  induction steps with
  | zero => exact onlyMoves_pure _
  | succ steps ih =>
    refine onlyMoves_bind (onlyMoves_step p w i) fun again => ?_
    cases again with
    | true => exact ih
    | false => exact onlyMoves_pure _

/-- Whatever the servers of a crew do, its rounds are a run of its callers. -/
theorem onlyMoves_rounds (n : Nat) : OnlyMoves (rounds p w n) := by
  induction n with
  | zero => exact onlyMoves_pure _
  | succ n ih =>
    refine onlyMoves_bind (fun crew _ => ⟨[], rfl⟩) fun crew => ?_
    exact onlyMoves_bind (onlyMoves_forM fun i => onlyMoves_turn p w i turnLength) fun _ => ih

end Crew

end OutlineNav

import OutlineNav.Proofs.RequestTraffic

/-!
# How requests end

The invariant `Traffic.Sound` ties the numbers that wait to the requests that are registered and
have not ended: every number that waits is kept for one such request, and every such request waits.
One lemma (`Sound.endBy`) covers all steps that take numbers out of the waiting ones, since each of
them ends the owners of just these numbers; a step of a caller is then a change of its stage before
or after.

So every request ends once, by an answer to its own number or else by a failure of its own, and the
numbers that wait are those of the requests that have not ended (`request_traffic`).
-/

namespace OutlineNav

open Rpc (Message Response)

/-! ## The invariant -/

/-- What holds of the request at a position among `count` many. -/
structure Ticket.Sound (count i : Nat) (t : Ticket) : Prop where
  id : t.id = .ofNat (i + 1)
  once : t.endings.length ≤ 1
  untouched : t.stage = .numbered → t.endings = []
  fits : ∀ r, .answered r ∈ t.endings → r.id.bind Pending.number? = some t.id
  /-- A number is registered a second time only after all numbers have been taken. -/
  replaced : .replaced ∈ t.endings → UInt64.size < count
  returned : ∀ ending, t.stage = .returned ending →
    t.endings = [ending] ∨ (ending = .unsent ∨ ending = .expired) ∧ t.endings ≠ []

structure Traffic.Sound (s : Traffic) : Prop where
  tickets : ∀ i (t : Ticket), s.tickets[i]? = some t → t.Sound s.tickets.length i
  nextId : s.client.pending.nextId = .ofNat (s.tickets.length + 1)
  nodup : s.client.pending.waiting.Nodup
  collected : s.client.answers = .empty
  /-- Who is open waits, and owns its number. -/
  waits : ∀ i (t : Ticket), s.tickets[i]? = some t → t.IsOpen →
    t.id ∈ s.client.pending.waiting ∧ s.owners.get? t.id = some i
  /-- What waits is the number of somebody who is open. -/
  awaited : ∀ n : UInt64, n ∈ s.client.pending.waiting →
    ∃ (i : Nat) (t : Ticket), s.tickets[i]? = some t ∧ t.id = n ∧ t.IsOpen

namespace Traffic.Sound

variable {s : Traffic}

theorem start (language : Language) : (Traffic.start language).Sound where
  tickets := nofun
  nextId := rfl
  nodup := .nil
  collected := rfl
  waits := nofun
  awaited := nofun

/-- What waits is the number of its owner, who is open. -/
theorem owner (h : s.Sound) {n : UInt64} (hn : n ∈ s.client.pending.waiting) :
    ∃ i, ∃ t : Ticket, s.tickets[i]? = some t ∧ t.id = n ∧ t.IsOpen ∧ s.owners.get? n = some i := by
  obtain ⟨i, t, ht, rfl, hopen⟩ := h.awaited n hn
  exact ⟨i, t, ht, rfl, hopen, (h.waits i t ht hopen).2⟩

/-- Two requests share a number only after all numbers have been taken. -/
theorem exhausted (h : s.Sound) {i j : Nat} {t t' : Ticket} (ht : s.tickets[i]? = some t)
    (ht' : s.tickets[j]? = some t') (hne : i ≠ j) (hid : t.id = t'.id) :
    UInt64.size < s.tickets.length := by
  have hi : i < s.tickets.length := (List.getElem?_eq_some_iff.mp ht).1
  have hj : j < s.tickets.length := (List.getElem?_eq_some_iff.mp ht').1
  rw [(h.tickets i t ht).id, (h.tickets j t' ht').id] at hid
  have hmod := congrArg UInt64.toNat hid
  simp only [UInt64.toNat_ofNat'] at hmod
  unfold UInt64.size
  omega

/-! ### Ending the owners of numbers -/

/-- Only requests that are open are ended, if only numbers that wait are. -/
theorem endBy_cases (h : s.Sound) {f : UInt64 → Nat → Option Ending}
    (hends : ∀ n i, (f n i).isSome → n ∈ s.client.pending.waiting) {i : Nat} {t' : Ticket}
    (ht' : (s.endBy f).tickets[i]? = some t') :
    ∃ t : Ticket, s.tickets[i]? = some t ∧
      (t' = t ∧ (t.IsOpen → f t.id i = none) ∨
        ∃ e, f t.id i = some e ∧ s.owners.get? t.id = some i ∧ t.IsOpen ∧
          t' = { t with endings := [e] }) := by
  rw [endBy_tickets] at ht'
  obtain ⟨t, ht, rfl⟩ := Option.map_eq_some_iff.mp ht'
  refine ⟨t, ht, ?_⟩
  split
  · next howner =>
    cases hf : f t.id i with
    | none => exact .inl ⟨by simp, fun _ => rfl⟩
    | some e =>
      obtain ⟨j, t', ht', -, hopen, howner'⟩ := h.owner (hends t.id i (by rw [hf]; rfl))
      obtain rfl : i = j := Option.some.inj (howner.symm.trans howner')
      obtain rfl : t = t' := Option.some.inj (ht.symm.trans ht')
      exact .inr ⟨e, rfl, howner, hopen, by simp [hopen.2]⟩
  · next howner => exact .inl ⟨rfl, fun hopen => absurd (h.waits i t ht hopen).2 howner⟩

/-- Requests that are not open stay as they are. -/
theorem endBy_closed (h : s.Sound) {f : UInt64 → Nat → Option Ending}
    (hends : ∀ n i, (f n i).isSome → n ∈ s.client.pending.waiting) {i : Nat} {t : Ticket}
    (ht : s.tickets[i]? = some t) (hclosed : ¬t.IsOpen) : (s.endBy f).tickets[i]? = some t := by
  obtain ⟨t', ht', -⟩ := endBy_ticket ht f
  obtain ⟨t₀, ht₀, ⟨rfl, -⟩ | ⟨_, -, -, hopen, -⟩⟩ := h.endBy_cases hends ht'
  · exact ht'.trans (ht₀.symm.trans ht)
  · obtain rfl := Option.some.inj (ht₀.symm.trans ht)
    exact absurd hopen hclosed

/-- Numbers stop waiting, and the owners of just these numbers are ended. -/
theorem endBy (h : s.Sound) {client : Client} {f : UInt64 → Nat → Option Ending}
    (hnext : client.pending.nextId = s.client.pending.nextId)
    (hsublist : client.pending.waiting.Sublist s.client.pending.waiting)
    (hcollected : client.answers = .empty)
    (hends : ∀ n i, (f n i).isSome ↔ n ∈ s.client.pending.waiting ∧ n ∉ client.pending.waiting)
    (hfits : ∀ n i r, f n i = some (.answered r) → r.id.bind Pending.number? = some n)
    (hreplaced : ∀ n i, s.owners.get? n = some i → f n i = some .replaced →
      UInt64.size < s.tickets.length) :
    Traffic.Sound { s.endBy f with client } := by
  have hwaiting (n : UInt64) (i : Nat) (hn : (f n i).isSome) : n ∈ s.client.pending.waiting :=
    ((hends n i).mp hn).1
  have hlength : (s.endBy f).tickets.length = s.tickets.length := endBy_length f
  refine ⟨fun i t' ht' => ?_, ?_, h.nodup.sublist hsublist, hcollected, fun i t' ht' hopen => ?_,
    fun n hn => ?_⟩
  · rw [hlength]
    rcases h.endBy_cases hwaiting ht' with ⟨t, ht, ⟨rfl, -⟩ | ⟨e, he, howner, hopen, rfl⟩⟩
    · exact h.tickets i t' ht
    · have hsound := h.tickets i t ht
      refine ⟨hsound.id, Nat.le_refl 1, fun hstage => absurd hstage hopen.1, fun r hr => ?_,
        fun hr => ?_, fun ending hstage => ?_⟩
      · obtain rfl := List.mem_singleton.mp hr
        exact hfits _ _ _ he
      · obtain rfl := List.mem_singleton.mp hr
        exact hreplaced _ _ howner he
      · -- Who has returned was not open.
        have := hsound.returned ending hstage
        simp [hopen.2] at this
  · rw [hnext, h.nextId, hlength]
  · rcases h.endBy_cases hwaiting ht' with ⟨t, ht, ⟨rfl, hf⟩ | ⟨e, -, -, -, rfl⟩⟩
    · obtain ⟨hwaiting, howner⟩ := h.waits i t' ht hopen
      refine ⟨?_, howner⟩
      refine Decidable.byContradiction fun hgone => ?_
      have := (hends t'.id i).mpr ⟨hwaiting, hgone⟩
      simp [hf hopen] at this
    · exact absurd hopen.2 (List.cons_ne_nil _ _)
  · obtain ⟨i, t, ht, rfl, hopen, howner⟩ := h.owner (hsublist.subset hn)
    have hf : f t.id i = none := by
      rw [← Option.not_isSome_iff_eq_none, hends]
      exact fun hgone => hgone.2 hn
    refine ⟨i, t, ?_, rfl, hopen⟩
    rw [endBy_tickets, ht]
    simp [hf]

theorem handOut (h : s.Sound) {client : Client} (hsettles : s.client.Settles client)
    {how : Response → Ending} (hhow : ∀ r, how r = .answered r ∨ how r = .failed r) :
    (s.handOut how client).Sound := by
  refine h.endBy hsettles.nextId hsettles.sublist rfl (fun n i => ?_) (fun n i r hr => ?_)
    (fun n i _ hr => ?_)
  · rw [Option.isSome_map]
    exact hsettles.collected n
  · obtain ⟨r', hr', heq⟩ := Option.map_eq_some_iff.mp hr
    rcases hhow r' with h' | h'
    · rw [h'] at heq
      cases heq
      exact hsettles.fits n r hr'
    · rw [h'] at heq
      cases heq
  · obtain ⟨r', -, heq⟩ := Option.map_eq_some_iff.mp hr
    rcases hhow r' with h' | h' <;> rw [h'] at heq <;> cases heq

theorem release (h : s.Sound) (id : UInt64) {how : Nat → Ending}
    (hfits : ∀ i r, how i ≠ .answered r)
    (hreplaced : ∀ i, s.owners.get? id = some i → id ∈ s.client.pending.waiting →
      how i = .replaced → UInt64.size < s.tickets.length) :
    (s.release id how).Sound := by
  refine h.endBy rfl List.filter_sublist h.collected (fun n i => ?_) (fun n i r hr => ?_)
    (fun n i howner hr => ?_)
  · rw [Client.mem_abandon, releasing]
    by_cases hn : n = id
    · subst hn
      by_cases hwaiting : n ∈ s.client.pending.waiting <;> simp [hwaiting]
    · simp [hn]
  · rw [releasing] at hr
    split at hr
    · exact absurd (Option.some.inj hr) (hfits i r)
    · cases hr
  · rw [releasing] at hr
    split at hr
    · next hn =>
      obtain ⟨rfl, hwaiting⟩ := hn
      exact hreplaced i howner hwaiting (Option.some.inj hr)
    · cases hr

theorem release_closed (h : s.Sound) {i : Nat} {t : Ticket} (ht : s.tickets[i]? = some t)
    (hclosed : ¬t.IsOpen) (id : UInt64) (how : Nat → Ending) :
    (s.release id how).tickets[i]? = some t := by
  refine h.endBy_closed (f := s.releasing id how) (fun n i hn => ?_) ht hclosed
  rw [releasing] at hn
  split at hn
  · next heq => exact heq.1 ▸ heq.2
  · cases hn

/-! ### Steps of one caller -/

/-- A caller that has registered its request goes on. -/
theorem setStage (h : s.Sound) {i : Nat} {t : Ticket} {stage : Stage} (ht : s.tickets[i]? = some t)
    (hfrom : t.stage ≠ .numbered) (hto : stage ≠ .numbered)
    (hreturned : ∀ ending, stage = .returned ending →
      t.endings = [ending] ∨ (ending = .unsent ∨ ending = .expired) ∧ t.endings ≠ []) :
    (s.setStage i stage).Sound := by
  have hticket {j : Nat} {t' : Ticket} (ht' : (s.setStage i stage).tickets[j]? = some t') :
      s.tickets[j]? = some t' ∨ j = i ∧ t' = { t with stage } := by
    rw [setStage_tickets] at ht'
    split at ht'
    · next hij =>
      subst hij
      rw [ht] at ht'
      exact .inr ⟨rfl, (Option.some.inj ht').symm⟩
    · exact .inl ht'
  refine ⟨fun j t' ht' => ?_, ?_, h.nodup, h.collected, fun j t' ht' hopen => ?_, fun n hn => ?_⟩
  · rw [setStage_length]
    rcases hticket ht' with ht' | ⟨rfl, rfl⟩
    · exact h.tickets j t' ht'
    · have hsound := h.tickets j t ht
      exact ⟨hsound.id, hsound.once, fun hstage => absurd hstage hto, hsound.fits, hsound.replaced,
        hreturned⟩
  · rw [setStage_length]
    exact h.nextId
  · rcases hticket ht' with ht' | ⟨rfl, rfl⟩
    · exact h.waits j t' ht' hopen
    · exact h.waits j t ht ⟨hfrom, hopen.2⟩
  · obtain ⟨j, t', ht', hid, hopen⟩ := h.awaited n hn
    by_cases hij : i = j
    · subst hij
      obtain rfl : t = t' := Option.some.inj (ht.symm.trans ht')
      refine ⟨i, { t with stage }, ?_, hid, hto, hopen.2⟩
      rw [setStage_tickets, if_pos rfl, ht]
      rfl
    · refine ⟨j, t', ?_, hid, hopen⟩
      rw [setStage_ne hij, ht']

/-- Whose number does not wait has ended or is not registered yet. -/
theorem not_isOpen (h : s.Sound) {i : Nat} {t : Ticket} (ht : s.tickets[i]? = some t)
    (hgone : t.id ∉ s.client.pending.waiting) : ¬t.IsOpen :=
  fun hopen => hgone (h.waits i t ht hopen).1

/-- A number that does not wait is registered. -/
theorem enroll (h : s.Sound) {i : Nat} {t : Ticket} (ht : s.tickets[i]? = some t)
    (hstage : t.stage = .numbered) (hfree : t.id ∉ s.client.pending.waiting) :
    (s.enroll i t.id).Sound := by
  have hsound := h.tickets i t ht
  have hself : (s.setStage i .sending).tickets[i]? = some { t with stage := .sending } := by
    rw [setStage_tickets, if_pos rfl, ht]
    rfl
  have hwaiting (n : UInt64) :
      n ∈ (s.client.register t.id).pending.waiting ↔ n = t.id ∨ n ∈ s.client.pending.waiting := by
    simp only [Client.register, Pending.register, List.mem_cons, List.mem_filter, bne_iff_ne]
    by_cases hn : n = t.id <;> simp [hn]
  have hlength : (s.enroll i t.id).tickets.length = s.tickets.length := setStage_length _
  refine ⟨fun j t' ht' => ?_, ?_, ?_, h.collected, fun j t' ht' hopen => ?_, fun n hn => ?_⟩
  · rw [hlength]
    by_cases hij : i = j
    · subst hij
      obtain rfl := Option.some.inj (hself.symm.trans ht')
      exact ⟨hsound.id, hsound.once, by rintro ⟨⟩, hsound.fits, hsound.replaced, by rintro _ ⟨⟩⟩
    · exact h.tickets j t' ((setStage_ne hij _).symm.trans ht')
  · rw [hlength]
    exact h.nextId
  · exact List.nodup_cons.mpr ⟨by simp, h.nodup.sublist List.filter_sublist⟩
  · by_cases hij : i = j
    · subst hij
      obtain rfl := Option.some.inj (hself.symm.trans ht')
      exact ⟨(hwaiting _).mpr (.inl rfl), Table.get?_insert_self _ _ _⟩
    · obtain ⟨hw, howner⟩ := h.waits j t' ((setStage_ne hij _).symm.trans ht') hopen
      have hne : t'.id ≠ t.id := fun heq => hfree (heq ▸ hw)
      exact ⟨(hwaiting _).mpr (.inr hw), (Table.get?_insert_ne _ hne _).trans howner⟩
  · rcases (hwaiting n).mp hn with rfl | hn
    · exact ⟨i, _, hself, rfl, by rintro ⟨⟩, hsound.untouched hstage⟩
    · obtain ⟨j, t', ht', hid, hopen⟩ := h.awaited n hn
      have hij : i ≠ j := by
        rintro rfl
        obtain rfl := Option.some.inj (ht.symm.trans ht')
        exact hopen.1 hstage
      exact ⟨j, t', (setStage_ne hij _).trans ht', hid, hopen⟩

theorem register (h : s.Sound) {i : Nat} {t : Ticket} (ht : s.tickets[i]? = some t)
    (hstage : t.stage = .numbered) : (s.register i t.id).Sound := by
  have hreleased : (s.release t.id fun _ => .replaced).Sound := by
    refine h.release t.id nofun fun j howner hwaiting _ => ?_
    obtain ⟨j, t', ht', hid, hopen, -⟩ := h.owner hwaiting
    refine h.exhausted ht ht' ?_ hid.symm
    rintro rfl
    obtain rfl := Option.some.inj (ht.symm.trans ht')
    exact hopen.1 hstage
  have hself : (s.release t.id fun _ => .replaced).tickets[i]? = some t :=
    h.release_closed ht (fun hopen => hopen.1 hstage) _ _
  exact hreleased.enroll hself hstage (by simp [Traffic.release])

theorem withdraw (h : s.Sound) {i : Nat} {t : Ticket} (ht : s.tickets[i]? = some t)
    (hstage : t.stage ≠ .numbered) {ending : Ending}
    (hending : ending = .unsent ∨ ending = .expired) :
    (s.withdraw i t.id ending).Sound := by
  have hreleased : (s.release t.id fun j => if j = i then ending else .replaced).Sound := by
    refine h.release t.id (fun j r => ?_) fun j howner hwaiting hj => ?_
    · split
      · rcases hending with rfl | rfl <;> nofun
      · nofun
    · obtain ⟨k, t', ht', hid, -, howner'⟩ := h.owner hwaiting
      obtain rfl : j = k := Option.some.inj (howner.symm.trans howner')
      refine h.exhausted ht ht' ?_ hid.symm
      rintro rfl
      rw [if_pos rfl] at hj
      rcases hending with rfl | rfl <;> cases hj
  obtain ⟨t', ht', hid, hstage'⟩ := endBy_ticket ht (s.releasing t.id _)
  refine hreleased.setStage ht' (hstage' ▸ hstage) nofun fun ending' heq => .inr ?_
  cases heq
  have hclosed : ¬t'.IsOpen := hreleased.not_isOpen ht' (by simp [Traffic.release, hid])
  exact ⟨hending, fun hempty => hclosed ⟨hstage' ▸ hstage, hempty⟩⟩

theorem issue (h : s.Sound) : (s.perform .issue).Sound := by
  have hticket {i : Nat} {t : Ticket} (ht : (s.perform .issue).tickets[i]? = some t) :
      s.tickets[i]? = some t ∨
        i = s.tickets.length ∧ t = ⟨s.client.pending.nextId, .numbered, []⟩ := by
    rw [Traffic.perform, List.getElem?_append] at ht
    split at ht
    · exact .inl ht
    · next hi =>
      obtain ⟨hlt, rfl⟩ := List.getElem?_eq_some_iff.mp ht
      have : i = s.tickets.length := by simp at hlt; omega
      exact .inr ⟨this, by simp [Client.reserve, Pending.reserve]⟩
  have hlength : (s.perform .issue).tickets.length = s.tickets.length + 1 := List.length_append
  refine ⟨fun i t ht => ?_, ?_, h.nodup, h.collected, fun i t ht hopen => ?_, fun n hn => ?_⟩
  · rcases hticket ht with ht | ⟨rfl, rfl⟩
    · have hsound := h.tickets i t ht
      exact { hsound with replaced := fun hr => by have := hsound.replaced hr; omega }
    · exact ⟨h.nextId, Nat.zero_le 1, fun _ => rfl, nofun, nofun, nofun⟩
  · rw [hlength]
    change s.client.pending.nextId + 1 = _
    rw [h.nextId]
    exact (UInt64.ofNat_add ..).symm
  · rcases hticket ht with ht | ⟨rfl, rfl⟩
    · exact h.waits i t ht hopen
    · exact absurd rfl hopen.1
  · obtain ⟨i, t, ht, hid, hopen⟩ := h.awaited n hn
    refine ⟨i, t, ?_, hid, hopen⟩
    exact (List.getElem?_append_left (List.getElem?_eq_some_iff.mp ht).1).trans ht

theorem perform (h : s.Sound) (action : Action) : (s.perform action).Sound := by
  cases action with
  | issue => exact h.issue
  | register i =>
    rw [Traffic.perform]
    split
    · next ht => exact h.register ht rfl
    · exact h
  | written i =>
    rw [Traffic.perform]
    split
    · next ht => exact h.setStage ht nofun nofun nofun
    · exact h
  | refused i =>
    rw [Traffic.perform]
    split
    · next ht => exact h.setStage ht nofun nofun nofun
    · exact h
  | expire i =>
    rw [Traffic.perform]
    split
    · next ht => exact h.setStage ht nofun nofun nofun
    · exact h
  | withdraw i =>
    rw [Traffic.perform]
    split
    · next ht => exact h.withdraw ht nofun (.inl rfl)
    · next ht => exact h.withdraw ht nofun (.inr rfl)
    · exact h
  | collect i =>
    rw [Traffic.perform]
    split
    · next ending rest ht =>
      refine h.setStage ht nofun nofun fun _ heq => ?_
      cases heq
      have honce := (h.tickets i _ ht).once
      exact .inl (by simpa using honce)
    · exact h
  | receive message =>
    rw [Traffic.perform]
    split
    · exact h.handOut (Client.settles_take h.collected message) fun _ => .inl rfl
    · exact h
  | lose =>
    rw [Traffic.perform]
    split
    · exact h.handOut (Client.settles_lose h.collected) fun _ => .inr rfl
    · exact h
  | stop => exact ⟨h.tickets, h.nextId, h.nodup, h.collected, h.waits, h.awaited⟩
  | clear => exact h.handOut (Client.settles_failPending h.collected _ _) fun _ => .inr rfl

theorem run (h : s.Sound) (actions : List Action) : (s.run actions).Sound := by
  induction actions generalizing s with
  | nil => exact h
  | cons action rest ih => exact ih (h.perform action)

/-! ### Requests that have returned -/

/-- Nothing more happens to a request that has returned. -/
theorem perform_returned (h : s.Sound) {i : Nat} {t : Ticket} {ending : Ending}
    (ht : s.tickets[i]? = some t) (hstage : t.stage = .returned ending) (action : Action) :
    (s.perform action).tickets[i]? = some t := by
  have hclosed : ¬t.IsOpen := by
    rintro ⟨-, hempty⟩
    simpa [hempty] using (h.tickets i t ht).returned ending hstage
  -- Callers act on requests that have not returned.
  have hother {j : Nat} {t' : Ticket} (ht' : s.tickets[j]? = some t')
      (hstage' : t'.stage ≠ .returned ending) : j ≠ i := by
    rintro rfl
    obtain rfl := Option.some.inj (ht.symm.trans ht')
    exact hstage' hstage
  have hset {j : Nat} {t' : Ticket} (ht' : s.tickets[j]? = some t')
      (hstage' : t'.stage ≠ .returned ending) (stage : Stage) :
      (s.setStage j stage).tickets[i]? = some t :=
    (setStage_ne (hother ht' hstage') stage).trans ht
  have hhandOut (how : Response → Ending) {client : Client} (hsettles : s.client.Settles client) :
      (s.handOut how client).tickets[i]? = some t := by
    refine h.endBy_closed (f := fun n _ => (client.answers.get? n).map how) (fun n _ hn => ?_) ht
      hclosed
    rw [Option.isSome_map] at hn
    exact ((hsettles.collected n).mp hn).1
  cases action with
  | issue => exact (List.getElem?_append_left (List.getElem?_eq_some_iff.mp ht).1).trans ht
  | register j =>
    rw [Traffic.perform]
    split
    · next ht' =>
      exact (setStage_ne (hother ht' nofun) _).trans (h.release_closed ht hclosed _ _)
    · exact ht
  | written j =>
    rw [Traffic.perform]
    split
    · next ht' => exact hset ht' nofun _
    · exact ht
  | refused j =>
    rw [Traffic.perform]
    split
    · next ht' => exact hset ht' nofun _
    · exact ht
  | expire j =>
    rw [Traffic.perform]
    split
    · next ht' => exact hset ht' nofun _
    · exact ht
  | withdraw j =>
    rw [Traffic.perform]
    split
    · next ht' =>
      exact (setStage_ne (hother ht' nofun) _).trans (h.release_closed ht hclosed _ _)
    · next ht' =>
      exact (setStage_ne (hother ht' nofun) _).trans (h.release_closed ht hclosed _ _)
    · exact ht
  | collect j =>
    rw [Traffic.perform]
    split
    · next ht' => exact hset ht' nofun _
    · exact ht
  | receive message =>
    rw [Traffic.perform]
    split
    · exact hhandOut _ (Client.settles_take h.collected message)
    · exact ht
  | lose =>
    rw [Traffic.perform]
    split
    · exact hhandOut _ (Client.settles_lose h.collected)
    · exact ht
  | stop => exact ht
  | clear => exact hhandOut _ (Client.settles_failPending h.collected _ _)

theorem run_returned (h : s.Sound) {i : Nat} {t : Ticket} {ending : Ending}
    (ht : s.tickets[i]? = some t) (hstage : t.stage = .returned ending) (actions : List Action) :
    (s.run actions).tickets[i]? = some t := by
  induction actions generalizing s with
  | nil => exact ht
  | cons action rest ih => exact ih (h.perform action) (h.perform_returned ht hstage action)

/-! ### Answers for nobody -/

/-- An answer whose identifier names no waiting request changes nothing. -/
theorem receive_stray (h : s.Sound) {r : Response}
    (hstray : ∀ n ∈ s.client.pending.waiting, r.id.bind Pending.number? ≠ some n) :
    s.perform (.receive (.response r)) =
      { s with client :=
        { s.client with listening := s.client.listening && !s.client.stopping } } := by
  have htarget : r.id.bind s.client.pending.target? = none := by
    rw [Option.eq_none_iff_forall_ne_some]
    intro n hn
    obtain ⟨hnumber, hwaiting⟩ := Pending.bind_target?_eq_some.mp hn
    exact hstray n hwaiting hnumber
  have htake : (s.client.take (.response r)).2 =
      { s.client with listening := !s.client.stopping } := by
    rw [Client.take, Client.handle, Client.deliver, htarget]
  rw [Traffic.perform, htake]
  cases hlistening : s.client.listening with
  | true =>
    rw [if_pos rfl, Traffic.handOut, Traffic.endBy_none (fun n i => by simp [h.collected])]
    simp [h.collected]
  | false =>
    rw [if_neg Bool.false_ne_true, Bool.false_and, ← hlistening]

end Traffic.Sound

/-! ## Main result -/

/-- **A request ends once, and what waits is what has not ended.** After any steps of any callers,
of the reader and of whoever stops the server, the request at each position has the number of that
position, has been ended once at most, and has been answered only by an answer that names its
number; once it has returned, with what ended it or because it was not written or its time was over,
nothing happens to it any more. No request takes the place of another one while there are numbers
left. Answers that name no waiting request change nothing. And the numbers that wait are, each once,
those of the requests that are registered and have not ended. -/
theorem request_traffic (language : Language) (actions : List Traffic.Action) :
    let s := (Traffic.start language).run actions
    (∀ (i : Nat) (t : Ticket), s.tickets[i]? = some t →
      t.id = .ofNat (i + 1) ∧ t.endings.length ≤ 1 ∧
      (∀ r, .answered r ∈ t.endings → r.id.bind Pending.number? = some t.id) ∧
      (s.tickets.length ≤ UInt64.size → .replaced ∉ t.endings) ∧
      ∀ ending, t.stage = .returned ending →
        (t.endings = [ending] ∨ (ending = .unsent ∨ ending = .expired) ∧ t.endings ≠ []) ∧
        ∀ later, (s.run later).tickets[i]? = some t) ∧
    (∀ r : Response, (∀ n ∈ s.client.pending.waiting, r.id.bind Pending.number? ≠ some n) →
      s.perform (.receive (.response r)) =
        { s with client :=
          { s.client with listening := s.client.listening && !s.client.stopping } }) ∧
    s.client.pending.waiting.Nodup ∧
    ∀ n, n ∈ s.client.pending.waiting ↔
      ∃ t ∈ s.tickets, t.id = n ∧ t.stage ≠ .numbered ∧ t.endings = [] := by
  intro s
  have h : s.Sound := (Traffic.Sound.start language).run actions
  refine ⟨fun i t ht => ?_, fun r => h.receive_stray, h.nodup, fun n => ⟨fun hn => ?_, ?_⟩⟩
  · have hsound := h.tickets i t ht
    exact ⟨hsound.id, hsound.once, hsound.fits,
      fun hfew hr => Nat.not_lt_of_le hfew (hsound.replaced hr),
      fun ending hstage => ⟨hsound.returned ending hstage, h.run_returned ht hstage⟩⟩
  · obtain ⟨i, t, ht, hid, hopen⟩ := h.awaited n hn
    exact ⟨t, List.mem_of_getElem? ht, hid, hopen⟩
  · rintro ⟨t, hmem, rfl, hopen⟩
    obtain ⟨i, ht⟩ := List.getElem?_of_mem hmem
    exact (h.waits i t ht hopen).1

namespace Traffic

/-- Four requests are made. The second is registered first and answered twice, under its number as a
text; the first is answered too late, the third cannot be written, and the last is under way. -/
def crossing : List Action :=
  let answer (id : Rpc.RequestId) : Action := .receive (.response (.success id .null))
  [.issue, .issue, .register 1, .register 0, .written 1, .written 0, answer (.text "2"),
    answer (.text "2"), .collect 1, .expire 0, answer (.number 1), .withdraw 0,
    .issue, .register 2, .refused 2, .withdraw 2, .issue, .register 3]

def crossed : Traffic := (Traffic.start default).run crossing

end Traffic

/-- A late answer ends the request that has given up waiting for it, and an answer to it is then for
nobody; the answered request keeps its answer, whatever follows. -/
theorem request_traffic_crossed :
    let answered : Ticket :=
      let answer := Response.success (.text "2") .null
      ⟨2, .returned (.answered answer), [.answered answer]⟩
    Traffic.crossed.tickets =
      [⟨1, .returned .expired, [.answered (.success (.number 1) .null)]⟩, answered,
        ⟨3, .returned .unsent, [.unsent]⟩, ⟨4, .sending, []⟩] ∧
    Traffic.crossed.client.pending.waiting = [4] ∧
    (∀ later, (Traffic.crossed.run later).tickets[1]? = some answered) ∧
    Traffic.crossed.perform (.receive (.response (.success (.number 1) .null))) =
      Traffic.crossed := by
  intro answered
  have htickets : Traffic.crossed.tickets =
      [⟨1, .returned .expired, [.answered (.success (.number 1) .null)]⟩, answered,
        ⟨3, .returned .unsent, [.unsent]⟩, ⟨4, .sending, []⟩] := by decide +kernel
  have hwaiting : Traffic.crossed.client.pending.waiting = [4] := by decide +kernel
  obtain ⟨hrequests, hstray, -⟩ := request_traffic default Traffic.crossing
  have hanswered : Traffic.crossed.tickets[1]? = some answered := by rw [htickets]; rfl
  obtain ⟨-, -, -, -, hreturned⟩ := hrequests 1 answered hanswered
  have hlistening : (Traffic.crossed.client.listening && !Traffic.crossed.client.stopping) =
      Traffic.crossed.client.listening := by decide +kernel
  refine ⟨htickets, hwaiting, (hreturned _ rfl).2, (hstray _ fun n hn => ?_).trans ?_⟩
  · obtain rfl : n = 4 := List.mem_singleton.mp (hwaiting ▸ hn)
    decide
  · exact congrArg (fun listening =>
      { Traffic.crossed with client := { Traffic.crossed.client with listening } }) hlistening

end OutlineNav

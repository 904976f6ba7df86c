import OutlineNav.Proofs.CacheHistory
import OutlineNav.Proofs.Moves

/-!
# Handles and the sessions they reach

Several readings of outlines may be under way at the same time. Each has three steps, looking its
document up, waiting for the answer to its fetch and storing what came, and between any two of them
anything else may happen: other readings store outlines of the same document, documents are evicted,
and whoever holds a handle from earlier uses it.

All that matters is again the history. `lastStored?` reads off it with which handle the entry of a
document was stored, and `leftBy` what the uses of a handle have made of the session that was stored
with it. Along every run the cache agrees with both (`Accounts`), because an outline gets a stamp
that no handle has had before. So a handle reaches the session of a document if and only if it is
the one that the entry kept now was stored with (`session_of_handle`).
-/

namespace OutlineNav

/-! ## Readings under way -/

/-- A reading that found nothing in the cache. -/
inductive Reading where
  | waiting (d : Document)
  /-- The fetch was answered, and nothing is stored yet. -/
  | answered (d : Document) (answer : Answer)

/-- Something that happened to the cache. -/
inductive Happening where
  /-- A reading found the outline that is kept. -/
  | found (d : Document) (handle : Handle)
  /-- A reading stored what it had fetched. -/
  | stored (d : Document) (handle : Handle)
  /-- A reading had fetched no symbols. -/
  | vain (d : Document)
  /-- The session of a document was asked for by a handle, to make this change to it. -/
  | used (d : Document) (handle : Handle) (change : Session → Session)
  | evicted (d : Document)
  | cleared

/-- The handle that was handed out. -/
def Happening.handle? : Happening → Option Handle
  | .found _ handle | .stored _ handle => some handle
  | .vain _ => some .absent
  | .used .. | .evicted _ | .cleared => none

/-- The entry of a document is replaced or dropped. -/
def Happening.displaces (d : Document) : Happening → Bool
  | .stored d' _ | .evicted d' => d' = d
  | .cleared => true
  | .found .. | .vain _ | .used .. => false

/-- The change that a handle was to make to the session of a document. -/
def Happening.change? (d : Document) (handle : Handle) : Happening → Option (Session → Session)
  | .used d' handle' change => if d' = d ∧ handle' = handle then some change else none
  | _ => none

/-- A cache with its readings under way and its history, the latest in front. -/
structure Readers where
  index : Index
  readings : List Reading
  history : List Happening

namespace Readers

def start : Readers := ⟨.empty, [], []⟩

/-- The handle was handed out. -/
def Known (handle : Handle) (history : List Happening) : Prop :=
  ∃ h ∈ history, h.handle? = some handle

/-- The entry of a document was stored together with the handle, and nothing has displaced it. -/
def StoredLast (d : Document) (handle : Handle) (history : List Happening) : Prop :=
  ∃ later earlier, history = later ++ .stored d handle :: earlier ∧
    ∀ h ∈ later, h.displaces d = false

/-- What the uses of a handle have made of an idle session, one after another. -/
def leftBy (d : Document) (handle : Handle) (history : List Happening) : Session :=
  (history.filterMap (Happening.change? d handle)).foldr (fun change session => change session)
    .idle

/-- One step of a reading, one use of a session, or an eviction. -/
inductive Step : Readers → Readers → Prop
  | find {r : Readers} {d : Document} {handle : Handle} {index : Index}
      (found : r.index.lookup d = (some handle, index)) :
      Step r { r with index, history := .found d handle :: r.history }
  | miss {r : Readers} {d : Document} {index : Index} (missed : r.index.lookup d = (none, index)) :
      Step r { r with index, readings := .waiting d :: r.readings }
  | answer {r : Readers} {before after : List Reading} {d : Document} (answer : Answer)
      (waiting : r.readings = before ++ .waiting d :: after) :
      Step r { r with readings := before ++ .answered d answer :: after }
  | store {r : Readers} {before after : List Reading} {d : Document} {answer : Answer}
      {symbols : List Symbol} (answered : r.readings = before ++ .answered d answer :: after)
      (filled : answer.symbols? = some symbols) :
      Step r ⟨(r.index.receive d answer).2, before ++ after,
        .stored d (r.index.receive d answer).1 :: r.history⟩
  | giveUp {r : Readers} {before after : List Reading} {d : Document} {answer : Answer}
      (answered : r.readings = before ++ .answered d answer :: after)
      (empty : answer.symbols? = none) :
      Step r ⟨(r.index.receive d answer).2, before ++ after, .vain d :: r.history⟩
  | use {r : Readers} {α : Type} (d : Document) {handle : Handle} (f : Session → α × Session)
      (known : Known handle r.history) :
      Step r { r with
        index := (r.index.withSession d handle f).2
        history := .used d handle (fun s => (f s).2) :: r.history }
  | invalidate (r : Readers) (d : Document) :
      Step r { r with index := (r.index.invalidate d).2, history := .evicted d :: r.history }
  | clear (r : Readers) : Step r { r with index := r.index.clear, history := .cleared :: r.history }

inductive Reachable : Readers → Prop
  | start : Reachable start
  | step {r s : Readers} : Reachable r → Step r s → Reachable s

/-! ## What a history says -/

theorem known_cons {handle : Handle} {h : Happening} {history : List Happening} :
    Known handle (h :: history) ↔ h.handle? = some handle ∨ Known handle history := by
  simp only [Known, List.mem_cons, exists_eq_or_imp]

/-- The handle that the entry of a document was stored with. -/
def lastStored? (d : Document) : List Happening → Option Handle
  | [] => none
  | .stored d' handle :: earlier => if d' = d then some handle else lastStored? d earlier
  | .evicted d' :: earlier => if d' = d then none else lastStored? d earlier
  | .cleared :: _ => none
  | .found .. :: earlier | .vain _ :: earlier | .used .. :: earlier => lastStored? d earlier

theorem lastStored?_cons_of_not_displaces {d : Document} {h : Happening}
    (hh : h.displaces d = false) (history : List Happening) :
    lastStored? d (h :: history) = lastStored? d history := by
  cases h with
  | found | vain | used => rfl
  | stored => exact if_neg (of_decide_eq_false hh)
  | evicted => exact if_neg (of_decide_eq_false hh)
  | cleared => cases hh

/-- What displaces an entry leaves none, or a new one. -/
theorem lastStored?_cons_of_displaces {d : Document} {h : Happening} (hh : h.displaces d = true)
    (history : List Happening) {handle : Handle} :
    lastStored? d (h :: history) = some handle ↔ h = .stored d handle := by
  cases h with
  | found | vain | used => cases hh
  | stored d' =>
      obtain rfl : d' = d := of_decide_eq_true hh
      simp [lastStored?]
  | evicted d' =>
      obtain rfl : d' = d := of_decide_eq_true hh
      simp [lastStored?]
  | cleared => simp [lastStored?]

theorem lastStored?_eq_some {d : Document} {handle : Handle} {history : List Happening} :
    lastStored? d history = some handle ↔ StoredLast d handle history := by
  induction history with
  | nil => simp [lastStored?, StoredLast]
  | cons h history ih =>
    cases hh : h.displaces d with
    | true =>
        rw [lastStored?_cons_of_displaces hh]
        constructor
        · rintro rfl
          exact ⟨[], history, rfl, nofun⟩
        · rintro ⟨later, earlier, heq, hlater⟩
          cases later with
          | nil => exact (List.cons.inj heq).1
          | cons h' later =>
              obtain ⟨rfl, -⟩ := List.cons.inj heq
              exact absurd hh (by rw [hlater h List.mem_cons_self]; decide)
    | false =>
        rw [lastStored?_cons_of_not_displaces hh, ih]
        constructor
        · rintro ⟨later, earlier, rfl, hlater⟩
          exact ⟨h :: later, earlier, rfl, List.forall_mem_cons.mpr ⟨hh, hlater⟩⟩
        · rintro ⟨later, earlier, heq, hlater⟩
          cases later with
          | nil =>
              obtain ⟨rfl, -⟩ := List.cons.inj heq
              simp [Happening.displaces] at hh
          | cons h' later =>
              obtain ⟨rfl, rfl⟩ := List.cons.inj heq
              exact ⟨later, earlier, rfl, fun k hk => hlater k (List.mem_cons_of_mem _ hk)⟩

theorem known_of_lastStored? {d : Document} {handle : Handle} {history : List Happening}
    (h : lastStored? d history = some handle) : Known handle history := by
  obtain ⟨later, earlier, rfl, -⟩ := lastStored?_eq_some.mp h
  exact ⟨.stored d handle, by simp, rfl⟩

theorem leftBy_cons_of_none {d : Document} {handle : Handle} {h : Happening}
    (hh : h.change? d handle = none) (history : List Happening) :
    leftBy d handle (h :: history) = leftBy d handle history := by
  rw [leftBy, List.filterMap_cons_none hh]
  rfl

theorem leftBy_cons_used (d : Document) (handle : Handle) (change : Session → Session)
    (history : List Happening) :
    leftBy d handle (.used d handle change :: history) = change (leftBy d handle history) := by
  have hchange : Happening.change? d handle (.used d handle change) = some change :=
    if_pos ⟨rfl, rfl⟩
  rw [leftBy, List.filterMap_cons_some hchange]
  rfl

/-- A handle that was never used has left the session as it was stored. -/
theorem leftBy_eq_idle {d : Document} {handle : Handle} {history : List Happening}
    (h : ∀ change, .used d handle change ∉ history) : leftBy d handle history = .idle := by
  have hnone : history.filterMap (Happening.change? d handle) = [] := by
    refine List.filterMap_eq_nil_iff.mpr fun k hk => ?_
    cases k with
    | used d' handle' change =>
        refine if_neg ?_
        rintro ⟨rfl, rfl⟩
        exact h change hk
    | _ => rfl
  rw [leftBy, hnone]
  rfl

end Readers

/-! ## Uses of a session -/

namespace Index

variable {α : Type} {ix : Index} {d : Document} {handle : Handle}

theorem session?_updateSession (ix : Index) (d other : Document) (session : Session) :
    (ix.updateSession d session).session? other =
      if other = d then (ix.session? d).map fun _ => session else ix.session? other := by
  rw [session?, updateSession]
  split
  · next h =>
    rw [h, Table.get?_modify_self, session?, Option.map_map, Option.map_map]
    rfl
  · next h => rw [Table.get?_modify_ne _ h, session?]

/-- A handle reaches the session that is kept with an outline of its stamp. -/
theorem withSession_of_session? (f : Session → α × Session) {session : Session}
    (hcached : ix.cached d = some handle) (hsession : ix.session? d = some session) :
    ix.withSession d handle f = (some (f session).1, ix.updateSession d (f session).2) := by
  obtain ⟨e, he, rfl⟩ := Option.map_eq_some_iff.mp hcached
  have hsession' : e.session = session := by
    rw [session?, he] at hsession
    exact Option.some.inj hsession
  rw [← hsession']
  exact withSession_of_cached he f

/-- And no other. -/
theorem withSession_of_stamp_ne (f : Session → α × Session)
    (h : ∀ kept, ix.cached d = some kept → handle.stamp? ≠ kept.stamp?) :
    ix.withSession d handle f = (none, ix) := by
  rw [withSession]
  split
  · next e he =>
    have hcached : ix.cached d = some e.handle := congrArg (Option.map Entry.handle) he
    exact if_neg (h e.handle hcached)
  · rfl

theorem cached_stamp_isSome {kept : Handle} (h : ix.cached d = some kept) :
    kept.stamp?.isSome = true := by
  obtain ⟨e, -, rfl⟩ := Option.map_eq_some_iff.mp h
  rfl

end Index

/-! ## The cache agrees with its history -/

namespace Readers

/-- A history accounts for the outlines and sessions that a cache keeps, and no stamp was given to
two handles. -/
structure Accounts (history : List Happening) (ix : Index) : Prop where
  cached : ∀ d, ix.cached d = lastStored? d history
  session : ∀ d handle, ix.cached d = some handle →
    ix.session? d = some (leftBy d handle history)
  fresh : ∀ handle, Known handle history → ∀ stamp, handle.stamp? = some stamp →
    stamp < ix.nextStamp
  agree : ∀ h k, Known h history → Known k history → ∀ stamp, h.stamp? = some stamp →
    k.stamp? = some stamp → h = k
  used : ∀ d handle change, .used d handle change ∈ history → Known handle history
  unheard : ∀ later d handle earlier, history = later ++ .stored d handle :: earlier →
    ¬Known handle earlier

variable {history : List Happening} {ix ix' : Index}

theorem accounts_start : Accounts [] .empty where
  cached _ := rfl
  session _ _ h := by cases h
  fresh := by
    rintro _ ⟨_, h, _⟩
    cases h
  agree := by
    rintro _ _ ⟨_, h, _⟩
    cases h
  used _ _ _ h := by cases h
  unheard later d handle earlier h := by simp at h

/-- The entry that is kept has the stamp of one known handle. -/
theorem Accounts.eq_of_stamp (h : Accounts history ix) {d : Document} {kept handle : Handle}
    (hkept : ix.cached d = some kept) (hknown : Known handle history)
    (hstamp : handle.stamp? = kept.stamp?) : handle = kept := by
  obtain ⟨stamp, hstamp'⟩ := Option.isSome_iff_exists.mp (Index.cached_stamp_isSome hkept)
  exact h.agree handle kept hknown (known_of_lastStored? ((h.cached d).symm.trans hkept)) stamp
    (hstamp.trans hstamp') hstamp'

theorem Accounts.withSession_of_ne {α : Type} (h : Accounts history ix) {d : Document}
    {handle : Handle} (hknown : Known handle history) (hne : ix.cached d ≠ some handle)
    (f : Session → α × Session) : ix.withSession d handle f = (none, ix) :=
  Index.withSession_of_stamp_ne f fun _ hkept hstamp =>
    hne (h.eq_of_stamp hkept hknown hstamp ▸ hkept)

/-! ### What each step keeps -/

/-- Whatever stores nothing and hands out no stamp that was not handed out before. -/
theorem Accounts.cons (h : Accounts history ix) {e : Happening}
    (hstored : ∀ d handle, e ≠ .stored d handle)
    (hused : ∀ d handle change, e = .used d handle change → Known handle history)
    (hhanded : ∀ handle, e.handle? = some handle → handle.stamp? = none ∨ Known handle history)
    (hstamp : ix'.nextStamp = ix.nextStamp)
    (hcached : ∀ d, ix'.cached d = lastStored? d (e :: history))
    (hsession : ∀ d handle, ix'.cached d = some handle →
      ix'.session? d = some (leftBy d handle (e :: history))) :
    Accounts (e :: history) ix' := by
  have hknown : ∀ handle, Known handle (e :: history) → ∀ stamp, handle.stamp? = some stamp →
      Known handle history := by
    intro handle hhandle stamp hs
    rcases known_cons.mp hhandle with hnew | hold
    · rcases hhanded handle hnew with hnone | hold
      · cases hnone.symm.trans hs
      · exact hold
    · exact hold
  refine ⟨hcached, hsession, ?_, ?_, ?_, ?_⟩
  · intro handle hhandle stamp hs
    exact hstamp ▸ h.fresh handle (hknown handle hhandle stamp hs) stamp hs
  · intro k l hk hl stamp hks hls
    exact h.agree k l (hknown k hk stamp hks) (hknown l hl stamp hls) stamp hks hls
  · intro d handle change hmem
    refine known_cons.mpr (.inr ?_)
    rcases List.mem_cons.mp hmem with heq | hmem
    · exact hused d handle change heq.symm
    · exact h.used d handle change hmem
  · intro later d handle earlier heq
    cases later with
    | nil => exact absurd (List.cons.inj heq).1 (hstored d handle)
    | cons e' later => exact h.unheard later d handle earlier (List.cons.inj heq).2

theorem accounts_found (h : Accounts history ix) {d : Document} {handle : Handle}
    (hcached : ix.cached d = some handle) :
    Accounts (.found d handle :: history) { ix with hits := ix.hits + 1 } := by
  refine h.cons nofun nofun ?_ rfl h.cached h.session
  rintro _ ⟨⟩
  exact .inr (known_of_lastStored? ((h.cached d).symm.trans hcached))

theorem accounts_vain (h : Accounts history ix) (d : Document) :
    Accounts (.vain d :: history) ix := by
  refine h.cons nofun nofun ?_ rfl h.cached h.session
  rintro _ ⟨⟩
  exact .inl rfl

theorem accounts_counted (h : Accounts history ix) (misses : UInt64) :
    Accounts history { ix with misses } :=
  ⟨h.cached, h.session, h.fresh, h.agree, h.used, h.unheard⟩

/-- An eviction only takes entries away. -/
theorem Accounts.dropped (h : Accounts history ix) {e : Happening}
    (hevicts : (∃ d, e = .evicted d) ∨ e = .cleared) (hstamp : ix'.nextStamp = ix.nextStamp)
    (hgone : ∀ d, e.displaces d = true → ix'.entries.get? d = none)
    (hkept : ∀ d, e.displaces d = false → ix'.entries.get? d = ix.entries.get? d) :
    Accounts (e :: history) ix' := by
  have hchange : ∀ d handle, e.change? d handle = none := by
    rcases hevicts with ⟨d, rfl⟩ | rfl <;> exact fun _ _ => rfl
  refine h.cons ?_ ?_ ?_ hstamp (fun d => ?_) (fun d handle hcached => ?_)
  · rcases hevicts with ⟨d, rfl⟩ | rfl <;> nofun
  · rcases hevicts with ⟨d, rfl⟩ | rfl <;> nofun
  · rcases hevicts with ⟨d, rfl⟩ | rfl <;> nofun
  · cases hd : e.displaces d with
    | true =>
        have hnone : lastStored? d (e :: history) = none := by
          refine Option.eq_none_iff_forall_ne_some.mpr fun handle heq => ?_
          have := (lastStored?_cons_of_displaces hd history).mp heq
          rcases hevicts with ⟨d', rfl⟩ | rfl <;> cases this
        rw [hnone, Index.cached, hgone d hd]
        rfl
    | false =>
        rw [lastStored?_cons_of_not_displaces hd, ← h.cached d]
        exact cached_of_entries (hkept d hd)
  · cases hd : e.displaces d with
    | true =>
        rw [Index.cached, hgone d hd] at hcached
        cases hcached
    | false =>
        rw [Index.cached, hkept d hd] at hcached
        rw [leftBy_cons_of_none (hchange d handle), ← h.session d handle hcached, Index.session?,
          Index.session?, hkept d hd]

theorem accounts_evicted (h : Accounts history ix) (d : Document) :
    Accounts (.evicted d :: history) (ix.invalidate d).2 := by
  refine h.dropped (.inl ⟨d, rfl⟩) rfl (fun other hd => ?_) (fun other hd => ?_)
  · obtain rfl : d = other := of_decide_eq_true hd
    exact Table.get?_erase_self _ _
  · exact Table.get?_erase_ne _ (Ne.symm (of_decide_eq_false hd))

theorem accounts_cleared (h : Accounts history ix) : Accounts (.cleared :: history) ix.clear :=
  h.dropped (.inr rfl) rfl (fun _ _ => rfl) (fun _ hd => by cases hd)

/-- A use changes the session of the handle it is made by, or none. -/
theorem accounts_used {α : Type} (h : Accounts history ix) (d : Document) {handle : Handle}
    (hknown : Known handle history) (f : Session → α × Session) :
    Accounts (.used d handle (fun s => (f s).2) :: history) (ix.withSession d handle f).2 := by
  have hused : ∀ d' handle' change,
      Happening.used d handle (fun s => (f s).2) = .used d' handle' change →
      Known handle' history := by
    rintro _ _ _ ⟨⟩
    exact hknown
  by_cases hd : ix.cached d = some handle
  · have hsession := h.session d handle hd
    rw [Index.withSession_of_session? f hd hsession]
    refine h.cons nofun hused nofun rfl (fun other => ?_) (fun other handle' hcached => ?_)
    · exact (cached_updateSession ix d other _).trans (h.cached other)
    · rw [cached_updateSession] at hcached
      rw [Index.session?_updateSession]
      by_cases hother : other = d
      · obtain rfl := hother
        obtain rfl := Option.some.inj (hd.symm.trans hcached)
        rw [if_pos rfl, hsession, leftBy_cons_used]
        rfl
      · have hchange : Happening.change? other handle' (.used d handle fun s => (f s).2) = none :=
          if_neg fun heq => hother heq.1.symm
        rw [if_neg hother, leftBy_cons_of_none hchange]
        exact h.session other handle' hcached
  · rw [h.withSession_of_ne hknown hd]
    refine h.cons nofun hused nofun rfl h.cached (fun other handle' hcached => ?_)
    rw [leftBy_cons_of_none]
    · exact h.session other handle' hcached
    · refine if_neg ?_
      rintro ⟨rfl, rfl⟩
      exact hd hcached

/-- The handle of an outline that is stored is none of those before, whatever outline it is. -/
theorem accounts_stored (h : Accounts history ix) (d : Document) (symbols : List Symbol) :
    Accounts (.stored d (ix.store d symbols).1 :: history) (ix.store d symbols).2 := by
  have hunheard : ¬Known (ix.store d symbols).1 history := fun hknown =>
    Nat.lt_irrefl _ (h.fresh _ hknown ix.nextStamp rfl)
  have hself : (ix.store d symbols).2.entries.get? d =
      some ⟨ix.nextStamp, Outline.normalize symbols, .idle⟩ := Table.get?_insert_self _ _ _
  have hother {other : Document} (hne : other ≠ d) :
      (ix.store d symbols).2.entries.get? other = ix.entries.get? other :=
    Table.get?_insert_ne _ hne _
  refine ⟨fun other => ?_, fun other handle hcached => ?_, ?_, ?_, ?_, ?_⟩
  · by_cases hne : other = d
    · rw [hne, Index.cached, hself, lastStored?, if_pos rfl]
      rfl
    · rw [lastStored?, if_neg (Ne.symm hne), ← h.cached other]
      exact cached_of_entries (hother hne)
  · rw [leftBy_cons_of_none rfl]
    by_cases hne : other = d
    · rw [hne, Index.cached, hself] at hcached
      cases hcached
      have hidle : leftBy other (ix.store d symbols).1 history = .idle :=
        leftBy_eq_idle fun change hmem => hunheard (h.used other _ change hmem)
      rw [hne] at hidle ⊢
      rw [Index.session?, hself]
      exact congrArg some hidle.symm
    · rw [Index.cached, hother hne] at hcached
      rw [Index.session?, hother hne]
      exact h.session other handle hcached
  · intro handle hknown stamp hstamp
    rcases known_cons.mp hknown with hnew | hold
    · cases hnew
      cases hstamp
      exact Nat.lt_succ_self _
    · exact Nat.lt_succ_of_lt (h.fresh handle hold stamp hstamp)
  · -- the new stamp is none of the old ones
    intro k l hk hl stamp hks hls
    rcases known_cons.mp hk with hk | hk <;> rcases known_cons.mp hl with hl | hl
    · exact Option.some.inj (hk.symm.trans hl)
    · cases hk
      cases hks
      exact absurd (h.fresh l hl _ hls) (Nat.lt_irrefl _)
    · cases hl
      cases hls
      exact absurd (h.fresh k hk _ hks) (Nat.lt_irrefl _)
    · exact h.agree k l hk hl stamp hks hls
  · intro other handle change hmem
    rcases List.mem_cons.mp hmem with heq | hmem
    · cases heq
    · exact known_cons.mpr (.inr (h.used other handle change hmem))
  · intro later other handle earlier heq
    cases later with
    | nil =>
        cases heq
        exact hunheard
    | cons e later => exact h.unheard later other handle earlier (List.cons.inj heq).2

/-! ### Runs -/

theorem lookup_eq_some {d : Document} {handle : Handle} (h : ix.lookup d = (some handle, ix')) :
    ix.cached d = some handle ∧ ix' = { ix with hits := ix.hits + 1 } := by
  rw [Index.lookup] at h
  split at h
  · next hcached =>
    cases h
    exact ⟨hcached, rfl⟩
  · cases h

theorem lookup_eq_none {d : Document} (h : ix.lookup d = (none, ix')) :
    ix' = { ix with misses := ix.misses + 1 } := by
  rw [Index.lookup] at h
  split at h
  · cases h
  · cases h
    rfl

theorem accounts_step {r s : Readers} (h : Accounts r.history r.index) (hstep : Step r s) :
    Accounts s.history s.index := by
  cases hstep with
  | find hfound =>
      obtain ⟨hcached, rfl⟩ := lookup_eq_some hfound
      exact accounts_found h hcached
  | miss hmissed =>
      obtain rfl := lookup_eq_none hmissed
      exact accounts_counted h _
  | answer => exact h
  | store _ hfilled =>
      rw [receive_of_some _ _ hfilled]
      exact accounts_stored h _ _
  | giveUp _ hempty =>
      rw [receive_of_none _ _ hempty]
      exact accounts_vain h _
  | use d f hknown => exact accounts_used h d hknown f
  | invalidate d => exact accounts_evicted h d
  | clear => exact accounts_cleared h

theorem accounts_reachable {r : Readers} (hr : Reachable r) : Accounts r.history r.index := by
  induction hr with
  | start => exact accounts_start
  | step _ hstep ih => exact accounts_step ih hstep

end Readers

/-- **A handle reaches its own session only.** However readings, evictions and uses of handles
follow one another: every outline that is stored gets a handle that nobody has had before, and a
handle that was handed out reaches the session of a document if and only if the entry kept for it
was stored together with that handle. It then finds the session as its own uses have left it since,
and changes no other one; otherwise nothing happens. -/
theorem session_of_handle {r : Readers} (hr : Readers.Reachable r) {handle : Handle}
    (hknown : Readers.Known handle r.history) (d : Document) :
    (∀ later d' handle' earlier, r.history = later ++ .stored d' handle' :: earlier →
      ¬Readers.Known handle' earlier) ∧
    (Readers.StoredLast d handle r.history → ∀ {α : Type} (f : Session → α × Session),
      let session := Readers.leftBy d handle r.history
      r.index.cached d = some handle ∧ r.index.session? d = some session ∧
      ∃ index, r.index.withSession d handle f = (some (f session).1, index) ∧
        ∀ other, index.cached other = r.index.cached other ∧ index.session? other =
          if other = d then some (f session).2 else r.index.session? other) ∧
    (¬Readers.StoredLast d handle r.history → ∀ {α : Type} (f : Session → α × Session),
      r.index.withSession d handle f = (none, r.index)) := by
  have h := Readers.accounts_reachable hr
  refine ⟨h.unheard, fun hlast α f => ?_, fun hlast α f => ?_⟩
  · have hcached := (h.cached d).trans (Readers.lastStored?_eq_some.mpr hlast)
    have hsession := h.session d handle hcached
    refine ⟨hcached, hsession, _, Index.withSession_of_session? f hcached hsession, fun other => ?_⟩
    refine ⟨cached_updateSession .., ?_⟩
    rw [Index.session?_updateSession, hsession]
    rfl
  · refine h.withSession_of_ne hknown (fun hcached => hlast ?_) f
    exact Readers.lastStored?_eq_some.mp ((h.cached d).symm.trans hcached)

/-- Two readings of one document under way together bring the same symbols. The outline of the first
one is stored, and its session used, before that of the second one takes its place. -/
def Readers.rivals : Readers :=
  let answer : Answer := .ok (some Outline.sample.roots)
  let first := (((Index.empty.lookup "a").2.lookup "a").2).receive "a" answer
  let used := first.2.withSession "a" first.1 fun s => ((), s.record [some [0]])
  let second := used.2.receive "a" answer
  ⟨second.2, [],
    [.stored "a" second.1, .used "a" first.1 (·.record [some [0]]), .stored "a" first.1]⟩

theorem Readers.reachable_rivals : Reachable rivals := by
  have hwaiting : Reachable ⟨((Index.empty.lookup "a").2.lookup "a").2,
      [.waiting "a", .waiting "a"], []⟩ := (Reachable.start.step (.miss rfl)).step (.miss rfl)
  have hanswered :=
    (hwaiting.step (@Step.answer _ [] _ _ (.ok (some Outline.sample.roots)) rfl)).step
    (@Step.answer _ [.answered "a" _] _ _ (.ok (some Outline.sample.roots)) rfl)
  have hfirst := hanswered.step (@Step.store _ [] _ _ _ _ rfl rfl)
  have hused := hfirst.step (.use "a" (fun s => ((), s.record [some [0]]))
    ⟨_, List.mem_cons_self, rfl⟩)
  exact hused.step (@Step.store _ [] _ _ _ _ rfl rfl)

/-- The outlines are equal, and yet only the second handle reaches the session. -/
theorem session_of_handle_rivals :
    let first : Handle := ⟨some 0, Outline.normalize Outline.sample.roots⟩
    let second : Handle := ⟨some 1, Outline.normalize Outline.sample.roots⟩
    let armed := fun s : Session => (s.isArmed, s)
    Readers.Reachable Readers.rivals ∧ Readers.Known first Readers.rivals.history ∧
      Readers.rivals.index.withSession "a" first armed = (none, Readers.rivals.index) ∧
      ∃ index, Readers.rivals.index.withSession "a" second armed = (some false, index) := by
  intro first second armed
  have hfirst : Readers.Known first Readers.rivals.history :=
    ⟨_, List.mem_cons_of_mem _ (List.mem_cons_of_mem _ List.mem_cons_self), rfl⟩
  have hsecond : Readers.Known second Readers.rivals.history := ⟨_, List.mem_cons_self, rfl⟩
  have hlast : Readers.StoredLast "a" second Readers.rivals.history := ⟨[], _, rfl, nofun⟩
  have hdisplaced : ¬Readers.StoredLast "a" first Readers.rivals.history := fun h =>
    absurd ((Readers.lastStored?_eq_some.mpr hlast).symm.trans (Readers.lastStored?_eq_some.mpr h))
      (by simp [first, second])
  obtain ⟨-, -, hnone⟩ := session_of_handle Readers.reachable_rivals hfirst "a"
  obtain ⟨-, hsome, -⟩ := session_of_handle Readers.reachable_rivals hsecond "a"
  obtain ⟨-, -, index, hindex, -⟩ := hsome hlast armed
  exact ⟨Readers.reachable_rivals, hfirst, hnone hdisplaced armed, index, hindex⟩

end OutlineNav

import Mathlib.Data.Set.Card
import OutlineNav.Proofs.Addresses
import OutlineNav.Provider.Navigation

/-!
# The outline cache and its history

What the cache keeps is determined by what has happened to it. A run of calls leaves a history:
which outline each reading handed out and what the provider was asked for it, and which documents
were evicted when. `kept` reads off such a history what should be kept of a document: the outline of
the latest fetch that brought symbols, unless the document was evicted since.

The cache agrees with its history after every call (`Explains.perform`). So a reading asks the
provider if and only if nothing is kept by the history, and hands out what is kept otherwise; and
the counters count the readings, the questions to the provider and the documents kept
(`cache_after_history`). The first two start anew where their sixty-four bits end, so what they
count is exact as long as the readings fit (`Counted.toNat_eq`).
-/

namespace OutlineNav

variable {ω α : Type}

/-! ## Records of what a provider is asked -/

/-- A provider was asked for the symbols of a document. -/
structure Fetch where
  document : Document
  answer : Answer

/-- A world, and what was fetched in it so far. -/
structure Fetched (ω : Type) where
  fetches : List Fetch
  world : ω

/-- Happens in the world, where nothing is fetched. -/
def Fetched.inside {β : Type} (act : StateM ω β) : StateM (Fetched ω) β := fun r =>
  let (b, world) := act r.world
  (b, { r with world })

/-- The same provider, with a record of what is fetched from it. -/
def Provider.recorded (p : Provider (StateM ω)) : Provider (StateM (Fetched ω)) where
  symbols d := do
    let answer ← Fetched.inside (p.symbols d)
    modify fun r => { r with fetches := r.fetches ++ [⟨d, answer⟩] }
    return answer
  folds d := Fetched.inside (p.folds d)
  close d := Fetched.inside (p.close d)
  shutdown := Fetched.inside p.shutdown

/-! ## Calls and what has come of them -/

inductive CacheCall (α : Type) where
  | outline (d : Document)
  | cached (d : Document)
  | session (d : Document) (handle : Handle) (f : Session → α × Session)
  | currentSession (d : Document) (f : Session → α × Session)
  | invalidate (d : Document)
  | clear

inductive CacheEvent where
  /-- An outline was handed out, and these fetches were made for it. -/
  | outline (d : Document) (fetches : List Fetch) (handle : Handle)
  | cached (d : Document) (handle? : Option Handle)
  | session (d : Document)
  | invalidated (d : Document) (found : Bool)
  | cleared

/-- Makes a call: what comes of it, the cache after it, and the world. -/
def CacheCall.perform (p : Provider (StateM ω)) (ix : Index) (w : ω) :
    CacheCall α → CacheEvent × Index × ω
  | .outline d =>
    let ((handle, ix), r) := (ix.getOutlineBy p.recorded d).run ⟨[], w⟩
    (.outline d r.fetches handle, ix, r.world)
  | .cached d => (.cached d (ix.cached d), ix, w)
  | .session d handle f => (.session d, (ix.withSession d handle f).2, w)
  | .currentSession d f => (.session d, (ix.withCurrentSession d f).2, w)
  | .invalidate d => (.invalidated d (ix.invalidate d).1, (ix.invalidate d).2, w)
  | .clear => (.cleared, ix.clear, w)

/-- A cache in a world, with all that has happened to it, the latest in front. -/
structure CacheRun (ω : Type) where
  history : List CacheEvent
  index : Index
  world : ω

namespace CacheRun

def start (w : ω) : CacheRun ω := ⟨[], .empty, w⟩

def perform (p : Provider (StateM ω)) (r : CacheRun ω) (call : CacheCall α) : CacheRun ω :=
  let (event, index, world) := call.perform p r.index r.world
  ⟨event :: r.history, index, world⟩

/-- Makes one call after another. -/
def performAll (p : Provider (StateM ω)) (calls : List (CacheCall α)) (r : CacheRun ω) :
    CacheRun ω :=
  calls.foldl (perform p) r

end CacheRun

/-! ## What a history says -/

/-- The fetch brought symbols. -/
def Fetch.isFilled (f : Fetch) : Bool := f.answer.symbols?.isSome

/-- What is to be kept of a document: the outline of the latest fetch that brought symbols, unless
the document was evicted since. -/
def kept (d : Document) : List CacheEvent → Option Handle
  | [] => none
  | .outline d' fetches handle :: earlier =>
    if d' = d ∧ fetches.any Fetch.isFilled = true then some handle else kept d earlier
  | .invalidated d' _ :: earlier => if d' = d then none else kept d earlier
  | .cleared :: _ => none
  | .cached .. :: earlier | .session _ :: earlier => kept d earlier

/-- How often outlines were read. -/
def readCount : List CacheEvent → Nat
  | [] => 0
  | .outline .. :: earlier => readCount earlier + 1
  | .cached .. :: earlier | .session _ :: earlier | .invalidated .. :: earlier
  | .cleared :: earlier => readCount earlier

/-- All fetches that were made. -/
def fetchesOf : List CacheEvent → List Fetch
  | [] => []
  | .outline _ fetches _ :: earlier => fetches ++ fetchesOf earlier
  | .cached .. :: earlier | .session _ :: earlier | .invalidated .. :: earlier
  | .cleared :: earlier => fetchesOf earlier

/-- An outline that was handed out. -/
def HandedOut (handle : Handle) (history : List CacheEvent) : Prop :=
  ∃ d fetches, .outline d fetches handle ∈ history

/-- What is kept was handed out. -/
theorem handedOut_of_kept {d : Document} {handle : Handle} {history : List CacheEvent}
    (h : kept d history = some handle) : HandedOut handle history := by
  induction history with
  | nil => cases h
  | cons event earlier ih =>
    have later (hearlier : kept d earlier = some handle) : HandedOut handle (event :: earlier) := by
      obtain ⟨d', fetches, hmem⟩ := ih hearlier
      exact ⟨d', fetches, List.mem_cons_of_mem _ hmem⟩
    cases event with
    | outline d' fetches handle' =>
      rw [kept] at h
      split at h
      · cases h
        exact ⟨d', fetches, List.mem_cons_self⟩
      · exact later h
    | cached => exact later h
    | session => exact later h
    | invalidated =>
      rw [kept] at h
      split at h
      · cases h
      · exact later h
    | cleared => cases h

theorem handedOut_cons {handle : Handle} {d : Document} {fetches : List Fetch} {other : Handle}
    {history : List CacheEvent} (h : HandedOut other (.outline d fetches handle :: history)) :
    other = handle ∨ HandedOut other history := by
  obtain ⟨d', fetches', hmem⟩ := h
  rcases List.mem_cons.mp hmem with heq | hmem
  · cases heq
    exact .inl rfl
  · exact .inr ⟨d', fetches', hmem⟩

/-- Nothing else hands an outline out. -/
theorem handedOut_of_cons {handle : Handle} {event : CacheEvent} {history : List CacheEvent}
    (h : HandedOut handle (event :: history))
    (hevent : ∀ d fetches, event ≠ .outline d fetches handle) : HandedOut handle history := by
  obtain ⟨d, fetches, hmem⟩ := h
  rcases List.mem_cons.mp hmem with heq | hmem
  · exact absurd heq.symm (hevent d fetches)
  · exact ⟨d, fetches, hmem⟩

/-! ## One call -/

section

variable {p : Provider (StateM ω)} {ix : Index} {d : Document} {w : ω}

/-- A document that is kept is handed out again, and the provider is not asked. -/
theorem perform_outline_of_cached {handle : Handle} (h : ix.cached d = some handle) :
    CacheCall.perform p ix w (.outline d : CacheCall α) =
      (.outline d [] handle, { ix with hits := ix.hits + 1 }, w) := by
  have hlookup : ix.lookup d = (some handle, { ix with hits := ix.hits + 1 }) := by
    rw [Index.lookup, h]
  simp only [CacheCall.perform, Index.getOutlineBy, hlookup]
  rfl

/-- For one that is not kept the provider is asked once. -/
theorem perform_outline_of_not_cached (h : ix.cached d = none) {answer : Answer} {w' : ω}
    (hanswer : (p.symbols d).run w = (answer, w')) :
    CacheCall.perform p ix w (.outline d : CacheCall α) =
      let (handle, ix) := Index.receive { ix with misses := ix.misses + 1 } d answer
      (.outline d [⟨d, answer⟩] handle, ix, w') := by
  have hlookup : ix.lookup d = (none, { ix with misses := ix.misses + 1 }) := by
    rw [Index.lookup, h]
  have hrecorded : (p.recorded.symbols d).run ⟨[], w⟩ = (answer, ⟨[⟨d, answer⟩], w'⟩) := by
    change (let (answer, w') := (p.symbols d).run w; (answer, Fetched.mk [⟨d, answer⟩] w')) = _
    rw [hanswer]
  simp only [CacheCall.perform, Index.getOutlineBy, hlookup, StateT.run_bind, hrecorded]
  rfl

end

theorem receive_of_none {answer : Answer} (ix : Index) (d : Document) (h : answer.symbols? = none) :
    ix.receive d answer = (.absent, ix) := by
  rw [Index.receive, h]

theorem receive_of_some {answer : Answer} {symbols : List Symbol} (ix : Index) (d : Document)
    (h : answer.symbols? = some symbols) : ix.receive d answer = ix.store d symbols := by
  rw [Index.receive, h]

theorem cached_of_entries {ix ix' : Index} {d : Document}
    (h : ix'.entries.get? d = ix.entries.get? d) : ix'.cached d = ix.cached d := by
  rw [Index.cached, Index.cached, h]

/-- What a session is changed to does not matter to the outline. -/
@[simp] theorem cached_updateSession (ix : Index) (d other : Document) (session : Session) :
    (ix.updateSession d session).cached other = ix.cached other := by
  by_cases h : other = d
  · subst h
    rw [Index.updateSession, Index.cached, Table.get?_modify_self, Index.cached, Option.map_map]
    rfl
  · exact cached_of_entries (Table.get?_modify_ne _ h _)

theorem cached_invalidate_self (ix : Index) (d : Document) :
    (ix.invalidate d).2.cached d = none := by
  rw [Index.invalidate, Index.cached, Table.get?_erase_self]
  rfl

theorem cached_invalidate_ne (ix : Index) {d other : Document} (h : other ≠ d) :
    (ix.invalidate d).2.cached other = ix.cached other :=
  cached_of_entries (Table.get?_erase_ne _ h)

theorem invalidate_found (ix : Index) (d : Document) :
    (ix.invalidate d).1 = (ix.cached d).isSome := by
  rw [Index.invalidate, Table.contains, Index.cached, Option.isSome_map]

/-! ## Counters -/

/-- Counters of hits and misses after a number of readings, for so many of which the provider was
asked. A counter starts anew where its sixty-four bits end. -/
structure Counted (read asked : Nat) (hits misses : UInt64) : Prop where
  readings : hits + misses = .ofNat read
  fetches : misses = .ofNat asked
  asked_le : asked ≤ read

namespace Counted

variable {read asked : Nat} {hits misses : UInt64}

theorem start : Counted 0 0 0 0 := ⟨rfl, rfl, Nat.le_refl 0⟩

theorem hit (h : Counted read asked hits misses) :
    Counted (read + 1) asked (hits + 1) misses where
  readings := by
    rw [UInt64.ofNat_add, ← h.readings, UInt64.add_assoc, UInt64.add_comm 1, ← UInt64.add_assoc]
    rfl
  fetches := h.fetches
  asked_le := Nat.le_succ_of_le h.asked_le

theorem missed (h : Counted read asked hits misses) :
    Counted (read + 1) (asked + 1) hits (misses + 1) where
  readings := by
    rw [UInt64.ofNat_add, ← h.readings, UInt64.add_assoc]
    rfl
  fetches := by
    rw [UInt64.ofNat_add, ← h.fetches]
    rfl
  asked_le := Nat.succ_le_succ h.asked_le

/-- As long as the readings fit into sixty-four bits, the counters are exact. -/
theorem toNat_eq (h : Counted read asked hits misses) (hread : read < UInt64.size) :
    hits.toNat + misses.toNat = read ∧ misses.toNat = asked := by
  have hasked : misses.toNat = asked := by
    rw [h.fetches]
    exact UInt64.toNat_ofNat_of_lt' (Nat.lt_of_le_of_lt h.asked_le hread)
  have hsum := congrArg UInt64.toNat h.readings
  rw [UInt64.toNat_add, UInt64.toNat_ofNat_of_lt' hread, hasked] at hsum
  have hhits := hits.toNat_lt
  have hle := h.asked_le
  rw [UInt64.size] at hread
  -- had the sum wrapped, the hits alone would not fit
  exact ⟨by omega, hasked⟩

end Counted

/-! ## The cache agrees with its history -/

/-- A history explains what a cache keeps and counts. -/
structure Explains (history : List CacheEvent) (ix : Index) : Prop where
  cached : ∀ d, ix.cached d = kept d history
  counted : Counted (readCount history) (fetchesOf history).length ix.hits ix.misses
  fresh : ∀ handle, HandedOut handle history → ∀ stamp ∈ handle.stamp?, stamp < ix.nextStamp

namespace Explains

variable {history : List CacheEvent} {ix : Index}

theorem start : Explains [] .empty where
  cached _ := rfl
  counted := .start
  fresh := by
    rintro _ ⟨_, _, h⟩
    cases h

/-- An outline that is stored is none that was handed out before. -/
theorem stamp_ne (h : Explains history ix) {handle : Handle} (hhandle : HandedOut handle history) :
    handle.stamp? ≠ some ix.nextStamp :=
  fun heq => Nat.lt_irrefl _ (h.fresh handle hhandle _ heq)

/-- An outline that is kept was read. -/
theorem hit (h : Explains history ix) {d : Document} {handle : Handle}
    (hkept : kept d history = some handle) :
    Explains (.outline d [] handle :: history) { ix with hits := ix.hits + 1 } where
  cached other := by
    rw [kept, if_neg (by simp)]
    exact h.cached other
  counted := h.counted.hit
  fresh other hother := by
    rcases handedOut_cons hother with rfl | hother
    · exact h.fresh _ (handedOut_of_kept hkept)
    · exact h.fresh other hother

/-- A fetch brought no symbols. -/
theorem missed (h : Explains history ix) {f : Fetch} (hempty : f.answer.symbols? = none) :
    Explains (.outline f.document [f] .absent :: history) { ix with misses := ix.misses + 1 } where
  cached other := by
    rw [kept, if_neg (by simp [Fetch.isFilled, hempty])]
    exact h.cached other
  counted := h.counted.missed
  fresh other hother := by
    rcases handedOut_cons hother with rfl | hother
    · nofun
    · exact h.fresh other hother

/-- A fetch brought symbols, which are kept from now on. -/
theorem stored (h : Explains history ix) {f : Fetch} {symbols : List Symbol}
    (hfilled : f.answer.symbols? = some symbols) :
    Explains (.outline f.document [f] (ix.store f.document symbols).1 :: history)
      (Index.store { ix with misses := ix.misses + 1 } f.document symbols).2 where
  cached other := by
    rw [kept]
    split
    · next hself =>
      rw [← hself.1, Index.cached, Index.store, Table.get?_insert_self]
      rfl
    · next hself =>
      have hne : other ≠ f.document := fun heq =>
        hself ⟨heq.symm, by simp [Fetch.isFilled, hfilled]⟩
      rw [← h.cached other]
      exact cached_of_entries (Table.get?_insert_ne _ hne _)
  counted := h.counted.missed
  fresh other hother stamp hstamp := by
    rcases handedOut_cons hother with rfl | hother
    · cases hstamp
      exact Nat.lt_succ_self _
    · exact Nat.lt_succ_of_lt (h.fresh other hother stamp hstamp)

theorem invalidated (h : Explains history ix) (d : Document) :
    Explains (.invalidated d (ix.invalidate d).1 :: history) (ix.invalidate d).2 where
  cached other := by
    rw [kept]
    split
    · next hself =>
      rw [← hself]
      exact cached_invalidate_self ix d
    · next hself =>
      rw [cached_invalidate_ne ix (Ne.symm hself)]
      exact h.cached other
  counted := h.counted
  fresh other hother := h.fresh other (handedOut_of_cons hother (fun _ _ => nofun))

theorem cleared (h : Explains history ix) : Explains (.cleared :: history) ix.clear where
  cached _ := rfl
  counted := h.counted
  fresh other hother := h.fresh other (handedOut_of_cons hother (fun _ _ => nofun))

theorem looked (h : Explains history ix) (d : Document) :
    Explains (.cached d (ix.cached d) :: history) ix where
  cached := h.cached
  counted := h.counted
  fresh other hother := h.fresh other (handedOut_of_cons hother (fun _ _ => nofun))

/-- A session was used, and perhaps changed. -/
theorem used (h : Explains history ix) (d : Document) {ix' : Index}
    (hsession : ix' = ix ∨ ∃ session, ix' = ix.updateSession d session) :
    Explains (.session d :: history) ix' := by
  have hfresh : ∀ handle, HandedOut handle (.session d :: history) →
      ∀ stamp ∈ handle.stamp?, stamp < ix.nextStamp :=
    fun handle hhandle => h.fresh handle (handedOut_of_cons hhandle (fun _ _ => nofun))
  rcases hsession with rfl | ⟨session, rfl⟩
  · exact ⟨h.cached, h.counted, hfresh⟩
  · exact ⟨fun other => (cached_updateSession ix d other session).trans (h.cached other), h.counted,
      hfresh⟩

/-- Every call keeps the agreement. -/
theorem perform (h : Explains history ix) (p : Provider (StateM ω)) (call : CacheCall α) (w : ω) :
    Explains ((call.perform p ix w).1 :: history) (call.perform p ix w).2.1 := by
  cases call with
  | outline d =>
    cases hcached : ix.cached d with
    | some handle =>
      rw [perform_outline_of_cached hcached]
      exact h.hit ((h.cached d).symm.trans hcached)
    | none =>
      rcases hanswer : (p.symbols d).run w with ⟨answer, w'⟩
      rw [perform_outline_of_not_cached hcached hanswer]
      cases hsymbols : answer.symbols? with
      | none =>
        rw [receive_of_none _ _ hsymbols]
        exact h.missed (f := ⟨d, answer⟩) hsymbols
      | some symbols =>
        rw [receive_of_some _ _ hsymbols]
        exact h.stored (f := ⟨d, answer⟩) hsymbols
  | cached d => exact h.looked d
  | session d handle f =>
    apply h.used d
    dsimp only [CacheCall.perform]
    rw [Index.withSession]
    split
    · split
      · exact .inr ⟨_, rfl⟩
      · exact .inl rfl
    · exact .inl rfl
  | currentSession d f =>
    apply h.used d
    dsimp only [CacheCall.perform]
    rw [Index.withCurrentSession]
    split
    · exact .inr ⟨_, rfl⟩
    · exact .inl rfl
  | invalidate d => exact h.invalidated d
  | clear => exact h.cleared

theorem performAll (p : Provider (StateM ω)) (calls : List (CacheCall α)) {r : CacheRun ω}
    (h : Explains r.history r.index) :
    Explains (r.performAll p calls).history (r.performAll p calls).index := by
  induction calls generalizing r with
  | nil => exact h
  | cons call calls ih => exact ih (h.perform p call r.world)

/-- The documents kept are as many as the history says. -/
theorem entries (h : Explains history ix) :
    ix.stats.entries = {d | (kept d history).isSome}.ncard := by
  have hkeys : {d | (kept d history).isSome} = (ix.entries.keys.toFinset : Set Document) := by
    ext d
    rw [Set.mem_ofPred_eq, ← h.cached d, Index.cached, Option.isSome_map, ← Table.mem_keys]
    simp
  have hnodup : ix.entries.keys.Nodup := ix.entries.nodup
  rw [hkeys, Set.ncard_coe_finset, List.toFinset_card_of_nodup hnodup]
  exact (List.length_map _).symm

end Explains

/-- **The cache is determined by its history.** After any calls, a document that is kept by the
history is read without asking the provider, and the outline handed out is the kept one, with its
stamp. For one that is not kept the provider is asked once: symbols are normalized, handed out as an
outline that nobody has had before, and stored with an idle session; any other answer hands out
nothing and counts a miss, no more. The counters count the readings and the questions to the
provider, modulo the numbers of sixty-four bits and exactly below. -/
theorem cache_after_history (p : Provider (StateM ω)) (calls : List (CacheCall α)) (w : ω) :
    let r := (CacheRun.start w).performAll p calls
    (∀ d, match kept d r.history with
      | some handle =>
        CacheCall.perform p r.index r.world (.outline d : CacheCall α) =
          (.outline d [] handle, { r.index with hits := r.index.hits + 1 }, r.world)
      | none =>
        let (answer, world) := (p.symbols d).run r.world
        match answer.symbols? with
        | some symbols => ∃ handle index,
          CacheCall.perform p r.index r.world (.outline d : CacheCall α) =
            (.outline d [⟨d, answer⟩] handle, index, world) ∧
          handle.outline = Outline.normalize symbols ∧
          (∀ earlier, HandedOut earlier r.history → earlier.stamp? ≠ handle.stamp?) ∧
          index.cached d = some handle ∧ index.session? d = some .idle ∧
          ∀ other, other ≠ d → index.entries.get? other = r.index.entries.get? other
        | none =>
          CacheCall.perform p r.index r.world (.outline d : CacheCall α) =
            (.outline d [⟨d, answer⟩] .absent,
              { r.index with misses := r.index.misses + 1 }, world)) ∧
    (∀ d, r.index.cached d = kept d r.history ∧
      (r.index.invalidate d).1 = (kept d r.history).isSome) ∧
    r.index.stats.hits + r.index.stats.misses = .ofNat (readCount r.history) ∧
    r.index.stats.misses = .ofNat (fetchesOf r.history).length ∧
    (readCount r.history < UInt64.size →
      r.index.stats.hits.toNat + r.index.stats.misses.toNat = readCount r.history ∧
      r.index.stats.misses.toNat = (fetchesOf r.history).length) ∧
    r.index.stats.entries = {d | (kept d r.history).isSome}.ncard := by
  intro r
  have h : Explains r.history r.index := Explains.start.performAll p calls
  refine ⟨fun d => ?_, fun d => ⟨h.cached d, ?_⟩, h.counted.readings, h.counted.fetches,
    h.counted.toNat_eq, h.entries⟩
  · split
    · next handle hkept => exact perform_outline_of_cached ((h.cached d).trans hkept)
    · next hkept =>
      rcases hanswer : (p.symbols d).run r.world with ⟨answer, world⟩
      have hperform := perform_outline_of_not_cached (α := α) ((h.cached d).trans hkept) hanswer
      dsimp only
      split
      · next symbols hsymbols =>
        rw [receive_of_some _ _ hsymbols] at hperform
        refine ⟨_, _, hperform, rfl, fun earlier => h.stamp_ne, ?_, ?_, fun other hother => ?_⟩
        · exact congrArg (Option.map Entry.handle) (Table.get?_insert_self _ _ _)
        · exact congrArg (Option.map Entry.session) (Table.get?_insert_self _ _ _)
        · exact Table.get?_insert_ne _ hother _
      · next hsymbols =>
        rw [receive_of_none _ _ hsymbols] at hperform
        exact hperform
  · rw [invalidate_found, h.cached]

/-- A provider that is busy at first, then knows nothing of a document, then finds no symbols in it,
and only then has them. -/
def Provider.reluctant (symbols : List Symbol) : Provider (StateM Nat) where
  symbols _ := fun asked =>
    let answer : Answer := match asked with
      | 0 => .error (.timeout "busy")
      | 1 => .ok none
      | 2 => .ok (some [])
      | _ => .ok (some symbols)
    (answer, asked + 1)
  folds _ := pure (.ok [])
  close _ := pure ()
  shutdown := pure ()

/-- A document is read five times, evicted, and read once more. -/
def rereadings : List (CacheCall Unit) :=
  [.outline "a", .outline "a", .outline "a", .outline "a", .outline "a", .invalidate "a",
    .outline "a"]

def reread : CacheRun Nat :=
  (CacheRun.start 0).performAll (.reluctant Outline.sample.roots) rereadings

/-- Three fetches in vain, one for the readings up to the eviction, and one after it. -/
theorem cache_after_history_reread :
    let handle : Handle := ⟨some 1, Outline.normalize Outline.sample.roots⟩
    reread.index.stats = ⟨1, 1, 5⟩ ∧ kept "a" reread.history = some handle ∧
      CacheCall.perform (.reluctant Outline.sample.roots) reread.index reread.world
          (.outline "a" : CacheCall Unit) =
        (.outline "a" [] handle, { reread.index with hits := reread.index.hits + 1 },
          reread.world) ∧
      readCount reread.history < UInt64.size ∧
      reread.index.stats.hits.toNat + reread.index.stats.misses.toNat = readCount reread.history ∧
      reread.index.stats.misses.toNat = (fetchesOf reread.history).length := by
  intro handle
  have hkept : kept "a" reread.history = some handle := by decide +kernel
  have hfew : readCount reread.history < UInt64.size := by decide +kernel
  obtain ⟨hall, -, -, -, hexact, -⟩ :=
    cache_after_history (.reluctant Outline.sample.roots) rereadings 0
  have hread := hall "a"
  rw [show kept "a" (CacheRun.performAll _ rereadings _).history = some handle from hkept] at hread
  exact ⟨by decide +kernel, hkept, hread, hfew, hexact hfew⟩

end OutlineNav

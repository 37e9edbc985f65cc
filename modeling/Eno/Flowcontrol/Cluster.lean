import Eno.Flowcontrol.Store

/-!
# Runs of the limiter against a lagging cache

The limiter's client comes from `mgr.GetClient()`, whose `List` is served by an informer cache:
the cache goes through the same states as the API server, in order, behind it. A `Cluster` is
that cache together with the states of the store it has not seen yet, oldest first, each
tagged with who wrote it; the last of them is the live store. Other controllers and users change
the live store (`OtherStep`, which never sets a UUID), the informer delivers the next state
(`Event.sync`), and a limiter tick decides from the cache and patches the live store
(`Event.tick`). The reads of successive ticks are thus never older than one another.

Two ticks may read the same cached state, the second before the first one's dispatch has
reached the cache; both then see room under the limit, and the cap is exceeded
(`stale_ticks_exceed_limit`). The cap holds on every run in which each tick reads a cache that
already holds the limiter's own earlier writes (`activeCount_run_le_limit`): the other steps
never raise the number of active compositions (`OtherStep.activeCount_apply_le`), and a
dispatch raises it by at most one (`Store.activeCount_modifyStatus_le_succ`).

Whatever state a tick read, a successful write changes one composition, and in it only an
empty UUID (`step_tick_cases`); so a UUID, once set, stays until another controller replaces or
removes the slot (`slotUuid_run`).

## Main definitions

* `Flowcontrol.OtherStep`, `Flowcontrol.OtherStep.apply`.
* `Flowcontrol.Cluster`, `Flowcontrol.Event`, `Flowcontrol.step`, `Flowcontrol.run`.
* `Flowcontrol.ReadsOwnWrites`: every tick of a run reads the limiter's earlier writes.

## Main results

* `Flowcontrol.stale_ticks_exceed_limit`, `Flowcontrol.activeCount_run_le_limit`.
* `Flowcontrol.step_tick_cases`, `Flowcontrol.slotUuid_run`, `Flowcontrol.limiter_sets_uuid_once`.

## References

* `src/internal/controllers/flowcontrol/synthesis.go`, lines 25–93.
-/

namespace Eno.Flowcontrol

open Api Composition

/-! ### The other controllers -/

/-- A step of another controller or of a user on the compositions. None of them sets a UUID. -/
inductive OtherStep where
  /-- A user creates a composition; its status starts empty. -/
  | create (c : Composition)
  /-- A composition is deleted. -/
  | delete (k : NamespacedName)
  /-- A new pending current slot is installed. -/
  | install (k : NamespacedName)
  /-- The current slot is marked synthesized. -/
  | synthesize (k : NamespacedName) (t : Time)
  /-- The current slot is removed. -/
  | remove (k : NamespacedName)

/-- A fresh pending current slot; a synthesized current slot moves to the previous one. -/
def installPending (st : CompositionStatus) : CompositionStatus where
  currentSynthesis := some {}
  previousSynthesis :=
    match st.currentSynthesis with
    | some s => if s.synthesized.isSome then some s else st.previousSynthesis
    | none => st.previousSynthesis

/-- The current slot, if any, marked synthesized at `t`. -/
def markSynthesized (t : Time) (st : CompositionStatus) : CompositionStatus :=
  { st with currentSynthesis := st.currentSynthesis.map fun s => { s with synthesized := some t } }

/-- Modelled from the spec: the steps of the rollout, status and pod lifecycle controllers and of
the users, as far as the limiter sees them. -/
def OtherStep.apply : OtherStep → Store → Store
  | .create c, s => s.create { c with status := {} }
  | .delete k, s => s.delete k
  | .install k, s => s.modifyStatus k installPending
  | .synthesize k t, s => s.modifyStatus k (markSynthesized t)
  | .remove k, s => s.modifyStatus k fun st => { st with currentSynthesis := none }

/-! ### The cluster and its steps -/

/-- Who wrote a state of the store. -/
inductive Author where
  | limiter
  | other
  deriving DecidableEq, Repr

/-- The state reached from `s` through the states of a list, oldest first. -/
def latest (s : Store) : List (Author × Store) → Store
  | [] => s
  | p :: rest => latest p.2 rest

theorem latest_concat (s : Store) (l : List (Author × Store)) (p : Author × Store) :
    latest s (l ++ [p]) = p.2 := by
  induction l generalizing s with
  | nil => rfl
  | cons q l ih => exact ih q.2

/-- The informer cache the limiter lists from, and the states of the store written since,
oldest first, that it has not delivered yet. -/
structure Cluster where
  cache : Store
  backlog : List (Author × Store)

namespace Cluster

/-- The live store of the API server. -/
def store (w : Cluster) : Store := latest w.cache w.backlog

/-- A cluster whose cache has caught up with the store. -/
def init (s : Store) : Cluster := ⟨s, []⟩

/-- The store is written. -/
def push (w : Cluster) (a : Author) (s : Store) : Cluster := ⟨w.cache, w.backlog ++ [(a, s)]⟩

/-- The informer delivers the oldest state the cache has not seen. -/
def sync (w : Cluster) : Cluster :=
  match w.backlog with
  | [] => w
  | p :: rest => ⟨p.2, rest⟩

@[simp] theorem store_init (s : Store) : (init s).store = s := rfl

@[simp] theorem store_push (w : Cluster) (a : Author) (s : Store) : (w.push a s).store = s :=
  latest_concat _ _ _

@[simp] theorem store_sync (w : Cluster) : w.sync.store = w.store := by
  unfold sync
  split <;> simp_all [store, latest]

/-- No state written by the limiter is waiting for the cache. -/
def HasOwnWrites (w : Cluster) : Prop := ∀ p ∈ w.backlog, p.1 = .other

end Cluster

/-- What happens next in the cluster. -/
inductive Event where
  | other (o : OtherStep)
  | sync
  /-- A limiter tick, with the draw of `rand.Intn` and the value of `uuid.NewString()`. -/
  | tick (draw : Nat) (u : Uuid)

/-- The event is a limiter tick. -/
def Event.isTick : Event → Bool
  | .tick _ _ => true
  | _ => false

/-- One event: a tick decides from the cache and patches the live store. -/
def step (lim : SynthesisConcurrencyLimiter) (w : Cluster) : Event → Cluster
  | .other o => w.push .other (o.apply w.store)
  | .sync => w.sync
  | .tick draw u =>
    match reconcile lim w.cache.items draw u with
    | none => w
    | some (next, patch) =>
      match w.store.patchStatus next.key patch with
      | .error _ => w
      | .ok s => w.push .limiter s

/-- A run: the events in order. -/
def run (lim : SynthesisConcurrencyLimiter) (w : Cluster) (es : List Event) : Cluster :=
  es.foldl (step lim) w

/-! ### The other controllers never raise the number of active compositions -/

theorem activeCount_create_le (s : Store) (c : Composition) :
    activeCount (s.create { c with status := {} }).items ≤ activeCount s.items := by
  unfold Store.create
  split_ifs
  · exact le_rfl
  · simp [activeCount, Composition.IsActive]

theorem activeCount_delete_le (s : Store) (k : NamespacedName) :
    activeCount (s.delete k).items ≤ activeCount s.items :=
  (List.filter_sublist _).countP_le _

theorem OtherStep.activeCount_apply_le (o : OtherStep) (s : Store) :
    activeCount (o.apply s).items ≤ activeCount s.items := by
  cases o with
  | create c => exact activeCount_create_le s c
  | delete k => exact activeCount_delete_le s k
  | install k =>
    refine Store.activeCount_modifyStatus_le fun d ⟨sy, h, hs⟩ => ?_
    cases h
    exact absurd rfl hs.2
  | synthesize k t =>
    refine Store.activeCount_modifyStatus_le fun d ⟨sy, h, hs⟩ => ?_
    obtain ⟨sy', -, rfl⟩ := Option.map_eq_some'.mp h
    exact absurd hs.1 (by simp)
  | remove k =>
    refine Store.activeCount_modifyStatus_le fun d ⟨sy, h, _⟩ => ?_
    cases h

/-! ### The cap on active syntheses -/

/-- Along the states the cache has not seen, oldest first from `s`, no state written by another
controller has more active compositions than the one before it. -/
def Settles : Store → List (Author × Store) → Prop
  | _, [] => True
  | s, p :: rest =>
    (p.1 = .other → activeCount p.2.items ≤ activeCount s.items) ∧ Settles p.2 rest

theorem settles_concat {s t : Store} {l : List (Author × Store)} {a : Author}
    (h : Settles s l) (ht : a = .other → activeCount t.items ≤ activeCount (latest s l).items) :
    Settles s (l ++ [(a, t)]) := by
  induction l generalizing s with
  | nil => exact ⟨ht, trivial⟩
  | cons p l ih => exact ⟨h.1, ih h.2 ht⟩

/-- When only other controllers wrote since the cache, the live store has no more active
compositions than the cache. -/
theorem activeCount_latest_le {s : Store} {l : List (Author × Store)} (h : Settles s l)
    (ho : ∀ p ∈ l, p.1 = .other) : activeCount (latest s l).items ≤ activeCount s.items := by
  induction l generalizing s with
  | nil => exact le_rfl
  | cons p l ih =>
    have hp := ho p (List.mem_cons_self p l)
    exact (ih h.2 fun q hq => ho q (List.mem_cons_of_mem p hq)).trans (h.1 hp)

/-- The invariant of the runs that read their own writes: the live store is under the cap, and
the backlog settles. -/
def Cluster.Capped (lim : SynthesisConcurrencyLimiter) (w : Cluster) : Prop :=
  (activeCount w.store.items : Int) ≤ lim.limit ∧ Settles w.cache w.backlog

/-- What a tick does: nothing, or the dispatch of the composition it picked from the cache,
which changes, in the live store, the one composition under that key, whose current slot had
an empty UUID. -/
theorem step_tick_cases (lim : SynthesisConcurrencyLimiter) (w : Cluster) (draw : Nat) (u : Uuid) :
    step lim w (.tick draw u) = w ∨
      ∃ next c, reconcile lim w.cache.items draw u = some (next, dispatchPatch u) ∧
        c ∈ w.store.items ∧ c.key = next.key ∧ (∀ d ∈ w.store.items, d.key = c.key → d = c) ∧
        (∃ sy, c.status.currentSynthesis = some sy ∧ sy.uuid = "") ∧
        step lim w (.tick draw u) = w.push .limiter (w.store.modifyStatus c.key (setUuid u.val)) := by
  simp only [step]
  rcases hr : reconcile lim w.cache.items draw u with _ | ⟨next, patch⟩
  · exact .inl rfl
  · obtain ⟨-, rfl⟩ := reconcile_eq_some hr
    dsimp only
    rcases hp : w.store.patchStatus next.key (dispatchPatch u) with e | s'
    · exact .inl rfl
    · obtain ⟨c, hc, hk, hu, hslot, rfl⟩ := Store.patchStatus_dispatchPatch hp
      exact .inr ⟨next, c, rfl, hc, hk, hk ▸ hu, hslot, by rw [hk]⟩

theorem settles_sync {w : Cluster} (h : Settles w.cache w.backlog) :
    Settles w.sync.cache w.sync.backlog := by
  obtain ⟨c, _ | ⟨p, rest⟩⟩ := w
  · exact h
  · exact h.2

/-- One event keeps the invariant, a tick when the cache holds the limiter's own writes. -/
theorem Cluster.Capped.step {lim : SynthesisConcurrencyLimiter} {w : Cluster} (e : Event)
    (hw : w.Capped lim) (he : e.isTick → w.HasOwnWrites) :
    (Flowcontrol.step lim w e).Capped lim := by
  obtain ⟨hcap, hset⟩ := hw
  cases e with
  | other o =>
    have ho := o.activeCount_apply_le w.store
    exact ⟨by simp only [Flowcontrol.step, Cluster.store_push]; omega,
      settles_concat hset fun _ => ho⟩
  | sync => exact ⟨by simpa [Flowcontrol.step] using hcap, settles_sync hset⟩
  | tick draw u =>
    rcases step_tick_cases lim w draw u with h | ⟨next, c, hr, -, -, -, -, h⟩
    · rw [h]
      exact ⟨hcap, hset⟩
    · have hlim := ((reconcile_isSome_iff lim w.cache.items draw u).mp (by simp [hr])).1
      have hcache : activeCount w.store.items ≤ activeCount w.cache.items :=
        activeCount_latest_le hset (he rfl)
      have hone := Store.activeCount_modifyStatus_le_succ w.store c.key (setUuid u.val)
      rw [h]
      refine ⟨?_, settles_concat hset nofun⟩
      rw [Cluster.store_push]
      omega

/-- Every tick of the run reads a cache that holds the limiter's earlier writes. -/
def ReadsOwnWrites (lim : SynthesisConcurrencyLimiter) : Cluster → List Event → Prop
  | _, [] => True
  | w, e :: es => (e.isTick → w.HasOwnWrites) ∧ ReadsOwnWrites lim (step lim w e) es

instance (w : Cluster) : Decidable w.HasOwnWrites :=
  inferInstanceAs (Decidable (∀ p ∈ w.backlog, p.1 = .other))

instance ReadsOwnWrites.decidable (lim : SynthesisConcurrencyLimiter) :
    (w : Cluster) → (es : List Event) → Decidable (ReadsOwnWrites lim w es)
  | _, [] => isTrue trivial
  | w, e :: es =>
    have := ReadsOwnWrites.decidable lim (step lim w e) es
    inferInstanceAs (Decidable (_ ∧ _))

theorem Cluster.Capped.run {lim : SynthesisConcurrencyLimiter} {w : Cluster} {es : List Event}
    (hw : w.Capped lim) (hr : ReadsOwnWrites lim w es) : (Flowcontrol.run lim w es).Capped lim := by
  induction es generalizing w with
  | nil => exact hw
  | cons e es ih => exact ih (hw.step e hr.1) hr.2

/-! ### UUIDs are set once -/

/-- The event replaces or removes the current slot of the composition under `k`. -/
def Event.replaces (k : NamespacedName) : Event → Bool
  | .other (.delete k') | .other (.install k') | .other (.remove k') => k' = k
  | _ => false

/-- No event but one that replaces or removes the slot changes a UUID once set; in particular
no tick does, whatever state of the cache it read. -/
theorem slotUuid_step {lim : SynthesisConcurrencyLimiter} {w : Cluster} {k : NamespacedName}
    {u : String} (e : Event) (h : w.store.slotUuid k = some u) (hu : u ≠ "")
    (he : e.replaces k = false) : (step lim w e).store.slotUuid k = some u := by
  obtain ⟨d, hd, rfl, hdu⟩ := Store.slotUuid_eq_some_iff.mp h
  refine Store.slotUuid_eq_some_iff.mpr ?_
  cases e with
  | sync => exact ⟨d, by simpa [step] using hd, rfl, hdu⟩
  | tick draw v =>
    rcases step_tick_cases lim w draw v with h' | ⟨-, c, -, -, -, huniq, ⟨sy, hsy, hsu⟩, h'⟩
    · exact ⟨d, by rw [h']; exact hd, rfl, hdu⟩
    · have hne : d.key ≠ c.key := fun hk => hu (by simpa [huniq d hd hk, hsy, hsu] using hdu.symm)
      exact ⟨d, by rw [h', Cluster.store_push]; exact Store.mem_modifyStatus_of_ne hd hne, rfl, hdu⟩
  | other o =>
    simp only [step, Cluster.store_push]
    cases o with
    | create c =>
      refine ⟨d, ?_, rfl, hdu⟩
      simp only [OtherStep.apply, Store.create]
      split_ifs
      · exact hd
      · exact List.mem_append_left _ hd
    | delete k' =>
      have hne : d.key ≠ k' := Ne.symm (of_decide_eq_false he)
      exact ⟨d, List.mem_filter.mpr ⟨hd, decide_eq_true hne⟩, rfl, hdu⟩
    | install k' | remove k' =>
      exact ⟨d, Store.mem_modifyStatus_of_ne hd (Ne.symm (of_decide_eq_false he)), rfl, hdu⟩
    | synthesize k' t =>
      refine ⟨_, Store.mem_modifyStatus hd, by split_ifs <;> rfl, ?_⟩
      split_ifs
      · simpa [markSynthesized, Option.map_map] using hdu
      · exact hdu

theorem slotUuid_run {lim : SynthesisConcurrencyLimiter} {w : Cluster} {es : List Event}
    {k : NamespacedName} {u : String} (h : w.store.slotUuid k = some u) (hu : u ≠ "")
    (hes : ∀ e ∈ es, e.replaces k = false) : (run lim w es).store.slotUuid k = some u := by
  induction es generalizing w with
  | nil => exact h
  | cons e es ih =>
    exact ih (slotUuid_step e h hu (hes e (List.mem_cons_self e es)))
      fun e' he' => hes e' (List.mem_cons_of_mem e he')

/-! ### The limiter's writes and the cap -/

/-- Two compositions, both pending. -/
def twoPending : Store := ⟨[pendingComposition "a", pendingComposition "b"], by decide⟩

/-- With a limit of one, two ticks that read the same cached state both dispatch. -/
theorem stale_ticks_exceed_limit :
    activeCount (Cluster.init twoPending).store.items ≤ 1 ∧
      1 < activeCount (run ⟨1, 0⟩ (Cluster.init twoPending) [.tick 0 uuidA, .tick 1 uuidB]).store.items := by
  decide

/-- On every run in which each tick reads a cache holding the limiter's own earlier writes,
the number of active compositions stays under the limit. -/
theorem activeCount_run_le_limit (lim : SynthesisConcurrencyLimiter) (s : Store)
    (es : List Event) (h0 : (activeCount s.items : Int) ≤ lim.limit)
    (hr : ReadsOwnWrites lim (Cluster.init s) es) :
    (activeCount (run lim (Cluster.init s) es).store.items : Int) ≤ lim.limit :=
  (Cluster.Capped.run (w := Cluster.init s) ⟨h0, trivial⟩ hr).1

theorem activeCount_run_le_limit_synced :
    (activeCount twoPending.items : Int) ≤ (⟨1, 0⟩ : SynthesisConcurrencyLimiter).limit ∧
      ReadsOwnWrites ⟨1, 0⟩ (Cluster.init twoPending) [.tick 0 uuidA, .sync, .tick 1 uuidB] ∧
      (activeCount (run ⟨1, 0⟩ (Cluster.init twoPending)
        [.tick 0 uuidA, .sync, .tick 1 uuidB]).store.items : Int) ≤ 1 :=
  ⟨by decide, by decide, activeCount_run_le_limit ⟨1, 0⟩ twoPending _ (by decide) (by decide)⟩

/-- A tick, whatever cached state it read, writes nothing, or writes the live store with one
composition changed, and in it only the UUID of its current slot, from empty to the tick's fresh
UUID; so a UUID once set is never changed while its slot stays. -/
theorem limiter_sets_uuid_once (lim : SynthesisConcurrencyLimiter) :
    (∀ (w : Cluster) (draw : Nat) (u : Uuid), step lim w (.tick draw u) = w ∨
      ∃ c ∈ w.store.items, (∀ d ∈ w.store.items, d.key = c.key → d = c) ∧
        (∃ sy, c.status.currentSynthesis = some sy ∧ sy.uuid = "") ∧
        step lim w (.tick draw u) = w.push .limiter (w.store.modifyStatus c.key (setUuid u.val))) ∧
    (∀ (w : Cluster) (es : List Event) (k : NamespacedName) (u : String), u ≠ "" →
      w.store.slotUuid k = some u → (∀ e ∈ es, e.replaces k = false) →
      (run lim w es).store.slotUuid k = some u) := by
  refine ⟨fun w draw u => ?_, fun w es k u hu h hes => slotUuid_run h hu hes⟩
  rcases step_tick_cases lim w draw u with h | ⟨-, c, -, hc, -, huniq, hslot, h⟩
  · exact .inl h
  · exact .inr ⟨c, hc, huniq, hslot, h⟩

theorem limiter_sets_uuid_once_after_dispatch :
    "a" ≠ "" ∧
      (run ⟨2, 0⟩ (Cluster.init twoPending) [.tick 0 uuidA]).store.slotUuid ⟨"default", "a"⟩ = some "a" ∧
      (∀ e ∈ [Event.tick 0 uuidB, .sync, .other (.synthesize ⟨"default", "b"⟩ 5)],
        e.replaces ⟨"default", "a"⟩ = false) ∧
      (run ⟨2, 0⟩ (run ⟨2, 0⟩ (Cluster.init twoPending) [.tick 0 uuidA])
        [.tick 0 uuidB, .sync, .other (.synthesize ⟨"default", "b"⟩ 5)]).store.slotUuid
          ⟨"default", "a"⟩ = some "a" :=
  ⟨by decide, by decide, by decide,
    (limiter_sets_uuid_once ⟨2, 0⟩).2 _ _ _ _ (by decide) (by decide) (by decide)⟩

end Eno.Flowcontrol

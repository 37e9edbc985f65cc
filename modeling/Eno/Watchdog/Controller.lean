import Eno.Api.V1

/-!
# The watchdog's gauges

`watchdogController.Reconcile` lists every composition and counts, in one loop, the
compositions in each of six states that suggest a deadlock once they have lasted past a
threshold: waiting on inputs, inputs not in lockstep, pending initial reconciliation, stuck
reconciling, pending readiness, and in terminal error. It sets one gauge to each count.

`reconcile` returns the six counts; `reconcile_gauges` reads the loop back as six counts of
predicates over the list. The two reads of the synthesizer share one body (`readSynthesizer`),
and so do the two tests of a slot's times (`synthesisHasTime`). The predicates exclude one
another where the source's conditions on the current synthesis do: a composition pending
readiness has a reconciled current synthesis, so it is neither pending initial reconciliation
nor stuck reconciling (`not_pendingInitialReconciliation_of_pendingReadiness`,
`not_pendingReconciliation_of_pendingReadiness`), and the gauges add up accordingly
(`reconcile_gauges_disjoint`). A composition whose synthesizer cannot be read is counted in the
gauge of inputs not in lockstep and not in the gauge of compositions waiting on inputs
(`notInLockstep_of_getSynthesizer_error`).

Every state is counted once its time has passed the threshold, and the time of each state is one
the composition holds: so time alone never lowers a gauge, and an alert clears only when a
composition changes (`reconcile_gauges_later`).

## Main definitions

* `Watchdog.WatchdogController`, `Watchdog.Gauges`, `Watchdog.reconcile`, `Watchdog.gaugesOf`.
* `Watchdog.Later`: the same compositions read later, or under a shorter threshold.

## Main results

* `Watchdog.reconcile_gauges`, `Watchdog.reconcile_gauges_disjoint`,
  `Watchdog.notInLockstep_of_getSynthesizer_error`, `Watchdog.reconcile_gauges_later`.

## References

* `src/internal/controllers/watchdog/controller.go`, lines 14–138.
-/

namespace Eno.Watchdog

open Api

/-- What one call of the watchdog's `Reconcile` reads: the list of compositions, the
synthesizers by name, the two methods of `apiv1.Composition` that compare a composition with
its synthesizer (not in the modelled sources), the threshold and the clock. -/
structure WatchdogController (Synthesizer : Type) where
  list : Except String (List Composition)
  getSynthesizer : String → Except String Synthesizer
  inputsExist : Composition → Synthesizer → Bool
  inputsOutOfLockstep : Composition → Synthesizer → Bool
  threshold : Int
  now : Time

variable {Synthesizer : Type} (c : WatchdogController Synthesizer)

namespace WatchdogController

/-- `time.Since(t) > c.threshold`. -/
def pastThreshold (t : Time) : Bool := decide (c.threshold < (c.now : Int) - t)

/-- The body shared by `getInputsExist` and `getNotInLockstep`: a method of the composition on
its synthesizer, `true` when the synthesizer cannot be read. -/
def readSynthesizer (method : Composition → Synthesizer → Bool) (comp : Composition) : Bool :=
  match c.getSynthesizer comp.synthesizerName with
  | .error _ => true
  | .ok syn => method comp syn

/-- `getInputsExist`: a synthesizer that cannot be read is presumed to have its inputs. -/
def getInputsExist (comp : Composition) : Bool := c.readSynthesizer c.inputsExist comp

/-- `getNotInLockstep`: a synthesizer that cannot be read counts as out of lockstep. -/
def getNotInLockstep (comp : Composition) : Bool := c.readSynthesizer c.inputsOutOfLockstep comp

/-- The body shared by `synthesisHasReconciled` and `synthesisIsReady`: the slot exists and one
of its times is set. -/
def synthesisHasTime (time : Synthesis → Option Time) (syn : Option Synthesis) : Bool :=
  match syn with
  | some s => (time s).isSome
  | none => false

@[simp] theorem synthesisHasTime_some (time : Synthesis → Option Time) (s : Synthesis) :
    synthesisHasTime time (some s) = (time s).isSome := rfl

@[simp] theorem synthesisHasTime_none (time : Synthesis → Option Time) :
    synthesisHasTime time none = false := rfl

/-- `synthesisHasReconciled`. -/
def synthesisHasReconciled (syn : Option Synthesis) : Bool := synthesisHasTime (·.reconciled) syn

/-- `synthesisIsReady`. -/
def synthesisIsReady (syn : Option Synthesis) : Bool := synthesisHasTime (·.ready) syn

/-- `waitingOnInputs`. -/
def waitingOnInputs (comp : Composition) : Bool :=
  !c.getInputsExist comp && c.pastThreshold comp.creationTimestamp

/-- `notInLockstep`. -/
def notInLockstep (comp : Composition) : Bool :=
  c.getNotInLockstep comp && c.pastThreshold comp.creationTimestamp

/-- `pendingInitialReconciliation`. -/
def pendingInitialReconciliation (comp : Composition) : Bool :=
  !synthesisHasReconciled comp.status.currentSynthesis &&
    !synthesisHasReconciled comp.status.previousSynthesis &&
    c.pastThreshold comp.creationTimestamp

/-- `pendingReconciliation`: the current synthesis was initialized past the threshold and has not
reconciled. -/
def pendingReconciliation (comp : Composition) : Bool :=
  match comp.status.currentSynthesis with
  | some s =>
    match s.initialized with
    | some t => !synthesisHasReconciled (some s) && c.pastThreshold t
    | none => false
  | none => false

/-- `timeSinceReconcilePastThreshold`. -/
def timeSinceReconcilePastThreshold (comp : Composition) : Bool :=
  match comp.status.currentSynthesis with
  | some s =>
    match s.reconciled with
    | some t => c.pastThreshold t
    | none => false
  | none => false

/-- `pendingReadiness`. -/
def pendingReadiness (comp : Composition) : Bool :=
  !synthesisIsReady comp.status.currentSynthesis &&
    !synthesisIsReady comp.status.previousSynthesis &&
    c.timeSinceReconcilePastThreshold comp

/-- `inTerminalError`. -/
def inTerminalError (comp : Composition) : Bool :=
  match comp.status.currentSynthesis with
  | some s => s.synthesized.isNone && s.failed
  | none => false

end WatchdogController

open WatchdogController

/-- The six counters of the loop, each the value of one gauge. -/
structure Gauges where
  waitingOnInputs : Nat := 0
  inputsNotInLockstep : Nat := 0
  pendingInitialReconciliation : Nat := 0
  stuckReconciling : Nat := 0
  pendingReadiness : Nat := 0
  terminalErrors : Nat := 0
  deriving DecidableEq, Repr

/-- `1` when the condition holds, the increment of a counter. -/
def tick (b : Bool) : Nat := if b then 1 else 0

/-- One iteration of the loop over `list.Items`. -/
def tallyStep (g : Gauges) (comp : Composition) : Gauges :=
  { waitingOnInputs := g.waitingOnInputs + tick (c.waitingOnInputs comp),
    inputsNotInLockstep := g.inputsNotInLockstep + tick (c.notInLockstep comp),
    pendingInitialReconciliation :=
      g.pendingInitialReconciliation + tick (c.pendingInitialReconciliation comp),
    stuckReconciling := g.stuckReconciling + tick (c.pendingReconciliation comp),
    pendingReadiness := g.pendingReadiness + tick (c.pendingReadiness comp),
    terminalErrors := g.terminalErrors + tick (inTerminalError comp) }

/-- `watchdogController.Reconcile`: the gauges it sets, or the error of the list. -/
def reconcile : Except String (Gauges × Result) :=
  match c.list with
  | .error e => .error e
  | .ok items => .ok (items.foldl (tallyStep c) {}, {})

/-- The gauges of the compositions of a list, counted predicate by predicate. -/
def gaugesOf (items : List Composition) : Gauges :=
  { waitingOnInputs := items.countP c.waitingOnInputs,
    inputsNotInLockstep := items.countP c.notInLockstep,
    pendingInitialReconciliation := items.countP c.pendingInitialReconciliation,
    stuckReconciling := items.countP c.pendingReconciliation,
    pendingReadiness := items.countP c.pendingReadiness,
    terminalErrors := items.countP inTerminalError }

theorem countP_cons_tick (p : Composition → Bool) (comp : Composition) (l : List Composition) :
    (comp :: l).countP p = tick (p comp) + l.countP p := by
  rw [List.countP_cons, Nat.add_comm]
  cases p comp <;> rfl

theorem foldl_tallyStep (items : List Composition) (g : Gauges) :
    items.foldl (tallyStep c) g =
      { waitingOnInputs := g.waitingOnInputs + (gaugesOf c items).waitingOnInputs,
        inputsNotInLockstep := g.inputsNotInLockstep + (gaugesOf c items).inputsNotInLockstep,
        pendingInitialReconciliation :=
          g.pendingInitialReconciliation + (gaugesOf c items).pendingInitialReconciliation,
        stuckReconciling := g.stuckReconciling + (gaugesOf c items).stuckReconciling,
        pendingReadiness := g.pendingReadiness + (gaugesOf c items).pendingReadiness,
        terminalErrors := g.terminalErrors + (gaugesOf c items).terminalErrors } := by
  induction items generalizing g with
  | nil => rfl
  | cons comp items ih =>
    simp only [List.foldl_cons, ih, tallyStep, gaugesOf, countP_cons_tick, Nat.add_assoc]

/-- The loop sets each gauge to the number of listed compositions in its state. -/
theorem reconcile_gauges {items : List Composition} (h : c.list = .ok items) :
    reconcile c = .ok (gaugesOf c items, {}) := by
  simp only [reconcile, h, foldl_tallyStep, Nat.zero_add]

/-- The gauges a call sets are the counts of `gaugesOf`. -/
theorem eq_gaugesOf_of_reconcile {items : List Composition} (h : c.list = .ok items) {g : Gauges}
    {r : Result} (hr : reconcile c = .ok (g, r)) : g = gaugesOf c items := by
  rw [reconcile_gauges c h] at hr
  exact (Prod.mk.inj (Except.ok.inj hr)).1.symm

/-! ### The states the gauges count -/

/-- A composition pending readiness has a reconciled current synthesis. -/
theorem reconciled_of_pendingReadiness {comp : Composition} (h : c.pendingReadiness comp) :
    synthesisHasReconciled comp.status.currentSynthesis := by
  simp only [pendingReadiness, timeSinceReconcilePastThreshold, Bool.and_eq_true] at h
  obtain ⟨-, h⟩ := h
  split at h
  · split at h
    · simp_all [synthesisHasReconciled]
    · cases h
  · cases h

theorem not_pendingInitialReconciliation_of_pendingReadiness {comp : Composition}
    (h : c.pendingReadiness comp) : ¬c.pendingInitialReconciliation comp := by
  simp [pendingInitialReconciliation, reconciled_of_pendingReadiness c h]

theorem not_pendingReconciliation_of_pendingReadiness {comp : Composition}
    (h : c.pendingReadiness comp) : ¬c.pendingReconciliation comp := by
  have hr := reconciled_of_pendingReadiness c h
  unfold pendingReconciliation
  split
  · rename_i s hs
    rw [hs] at hr
    split <;> simp [hr]
  · simp

/-- A composition of a synthesizer that cannot be read, reconciled at time `2` and waiting for
readiness. -/
def readyWaitComposition : Composition :=
  { key := { ns := "default", name := "ready-wait" }, synthesizerName := "test-syn",
    status := { currentSynthesis := some { uuid := "a", initialized := some 1,
                                           synthesized := some 1, reconciled := some 2 } } }

/-- A composition of the same synthesizer, initialized at time `1` and not reconciled. -/
def stuckComposition : Composition :=
  { key := { ns := "default", name := "stuck" }, synthesizerName := "test-syn",
    status := { currentSynthesis := some { uuid := "b", initialized := some 1 } } }

/-- The compositions the sample watchdog lists. -/
def sampleCompositions : List Composition := [readyWaitComposition, stuckComposition]

/-- The watchdog at time `10` with threshold `0`, listing `sampleCompositions`. -/
def sampleWatchdog : WatchdogController Unit :=
  { list := .ok sampleCompositions, getSynthesizer := fun _ => .error "not found",
    inputsExist := fun _ _ => true, inputsOutOfLockstep := fun _ _ => false,
    threshold := 0, now := 10 }

/-- The gauges `sampleWatchdog` sets. -/
def sampleGauges : Gauges :=
  { inputsNotInLockstep := 2, pendingInitialReconciliation := 1, stuckReconciling := 1,
    pendingReadiness := 1 }

theorem countP_add_countP_le {p q : Composition → Bool} (l : List Composition)
    (h : ∀ x, p x → ¬q x) : l.countP p + l.countP q ≤ l.length := by
  induction l with
  | nil => rfl
  | cons x l ih =>
    simp only [countP_cons_tick, List.length_cons]
    have : tick (p x) + tick (q x) ≤ 1 := by
      cases hp : p x <;> cases hq : q x <;> simp_all [tick]
    omega

/-- A composition pending readiness is counted neither as pending initial reconciliation nor as
stuck reconciling: each of those gauges and the gauge of pending readiness add up to at most
the number of listed compositions. -/
theorem reconcile_gauges_disjoint {items : List Composition} (h : c.list = .ok items)
    {g : Gauges} {r : Result} (hr : reconcile c = .ok (g, r)) :
    g = gaugesOf c items ∧
      g.pendingInitialReconciliation + g.pendingReadiness ≤ items.length ∧
      g.stuckReconciling + g.pendingReadiness ≤ items.length := by
  obtain rfl := eq_gaugesOf_of_reconcile c h hr
  refine ⟨rfl, ?_, ?_⟩ <;> rw [Nat.add_comm]
  · exact countP_add_countP_le _ fun x hx => not_pendingInitialReconciliation_of_pendingReadiness c hx
  · exact countP_add_countP_le _ fun x hx => not_pendingReconciliation_of_pendingReadiness c hx

theorem reconcile_gauges_disjoint_sample :
    reconcile sampleWatchdog = .ok (sampleGauges, {}) ∧
      sampleGauges = gaugesOf sampleWatchdog sampleCompositions ∧
      sampleGauges.pendingInitialReconciliation + sampleGauges.pendingReadiness ≤
        sampleCompositions.length ∧
      sampleGauges.stuckReconciling + sampleGauges.pendingReadiness ≤ sampleCompositions.length :=
  have hr : reconcile sampleWatchdog = .ok (sampleGauges, {}) := rfl
  ⟨hr, reconcile_gauges_disjoint sampleWatchdog rfl hr⟩

/-- The gauges do not read what the watchdog lists: the loop counts the same predicates whatever
list it runs over. -/
theorem gaugesOf_list (l : Except String (List Composition)) (items : List Composition) :
    gaugesOf { c with list := l } items = gaugesOf c items := rfl

/-- A composition whose synthesizer cannot be read, past the threshold after its creation, is
counted in the gauge of inputs not in lockstep and not in the gauge of compositions waiting on
inputs: listed among others, it raises the first by one over what the watchdog sets listing only
the others, and leaves the second as it is. -/
theorem notInLockstep_of_getSynthesizer_error {comp : Composition} {e : String}
    (he : c.getSynthesizer comp.synthesizerName = .error e)
    (ht : c.pastThreshold comp.creationTimestamp) {l₁ l₂ : List Composition}
    (hl : c.list = .ok (l₁ ++ comp :: l₂)) {g g' : Gauges} {r r' : Result}
    (hg : reconcile c = .ok (g, r))
    (hg' : reconcile { c with list := .ok (l₁ ++ l₂) } = .ok (g', r')) :
    g.inputsNotInLockstep = g'.inputsNotInLockstep + 1 ∧ g.waitingOnInputs = g'.waitingOnInputs := by
  obtain rfl := eq_gaugesOf_of_reconcile c hl hg
  obtain rfl : g' = gaugesOf c (l₁ ++ l₂) :=
    (eq_gaugesOf_of_reconcile _ rfl hg').trans (gaugesOf_list c _ _)
  have hread : ∀ method, c.readSynthesizer method comp = true := by
    simp [readSynthesizer, he]
  have hn : c.notInLockstep comp = true := by simp [notInLockstep, getNotInLockstep, hread, ht]
  have hw : c.waitingOnInputs comp = false := by simp [waitingOnInputs, getInputsExist, hread]
  simp only [gaugesOf, List.countP_append, countP_cons_tick, hn, hw, tick, if_true,
    Bool.false_eq_true, if_false]
  omega

/-- The gauges of the sample watchdog listing `stuckComposition` alone. -/
def stuckGauges : Gauges :=
  { inputsNotInLockstep := 1, pendingInitialReconciliation := 1, stuckReconciling := 1 }

theorem notInLockstep_of_getSynthesizer_error_sample :
    reconcile { sampleWatchdog with list := .ok [stuckComposition] } = .ok (stuckGauges, {}) ∧
      sampleGauges.inputsNotInLockstep = stuckGauges.inputsNotInLockstep + 1 ∧
      sampleGauges.waitingOnInputs = stuckGauges.waitingOnInputs :=
  have h' : reconcile { sampleWatchdog with list := .ok [stuckComposition] } =
      .ok (stuckGauges, {}) := rfl
  have hl : sampleWatchdog.list = .ok ([] ++ readyWaitComposition :: [stuckComposition]) := rfl
  ⟨h', notInLockstep_of_getSynthesizer_error sampleWatchdog rfl (by decide) hl rfl h'⟩

/-! ### The gauges over time -/

/-- Every gauge of `g` is at most the same gauge of `g'`. -/
def Gauges.Le (g g' : Gauges) : Prop :=
  g.waitingOnInputs ≤ g'.waitingOnInputs ∧ g.inputsNotInLockstep ≤ g'.inputsNotInLockstep ∧
    g.pendingInitialReconciliation ≤ g'.pendingInitialReconciliation ∧
    g.stuckReconciling ≤ g'.stuckReconciling ∧ g.pendingReadiness ≤ g'.pendingReadiness ∧
    g.terminalErrors ≤ g'.terminalErrors

/-- `c'` reads the synthesizers as `c` does, at a time at least as far past its threshold. -/
structure Later (c' : WatchdogController Synthesizer) : Prop where
  getSynthesizer : c'.getSynthesizer = c.getSynthesizer
  inputsExist : c'.inputsExist = c.inputsExist
  inputsOutOfLockstep : c'.inputsOutOfLockstep = c.inputsOutOfLockstep
  age : (c.now : Int) - c.threshold ≤ (c'.now : Int) - c'.threshold

section Later

variable {c} {c' : WatchdogController Synthesizer} (h : Later c c') {comp : Composition}
include h

theorem Later.pastThreshold {t : Time} (ht : c.pastThreshold t) : c'.pastThreshold t := by
  have := h.age
  simp only [WatchdogController.pastThreshold, decide_eq_true_eq] at ht ⊢
  omega

/-- A state that holds of a composition as read, and has lasted past the threshold, still does
later: the shape shared by every predicate the gauges count. -/
theorem Later.and_pastThreshold {b : Bool} {t : Time} (hb : (b && c.pastThreshold t) = true) :
    (b && c'.pastThreshold t) = true := by
  simp only [Bool.and_eq_true] at hb ⊢
  exact ⟨hb.1, h.pastThreshold hb.2⟩

theorem Later.readSynthesizer (method : Composition → Synthesizer → Bool) :
    c'.readSynthesizer method comp = c.readSynthesizer method comp := by
  simp only [WatchdogController.readSynthesizer, h.getSynthesizer]

theorem Later.waitingOnInputs (hw : c.waitingOnInputs comp) : c'.waitingOnInputs comp := by
  have hb := h.and_pastThreshold hw
  rw [getInputsExist, ← h.readSynthesizer, ← h.inputsExist] at hb
  exact hb

theorem Later.notInLockstep (hw : c.notInLockstep comp) : c'.notInLockstep comp := by
  have hb := h.and_pastThreshold hw
  rw [getNotInLockstep, ← h.readSynthesizer, ← h.inputsOutOfLockstep] at hb
  exact hb

theorem Later.pendingInitialReconciliation (hw : c.pendingInitialReconciliation comp) :
    c'.pendingInitialReconciliation comp :=
  h.and_pastThreshold hw

theorem Later.pendingReconciliation (hw : c.pendingReconciliation comp) :
    c'.pendingReconciliation comp := by
  unfold WatchdogController.pendingReconciliation at hw ⊢
  split at hw
  · split at hw
    · exact h.and_pastThreshold hw
    · cases hw
  · cases hw

theorem Later.pendingReadiness (hw : c.pendingReadiness comp) : c'.pendingReadiness comp := by
  simp only [WatchdogController.pendingReadiness, timeSinceReconcilePastThreshold,
    Bool.and_eq_true] at hw ⊢
  refine ⟨hw.1, ?_⟩
  split at hw
  · split at hw
    · exact h.pastThreshold hw.2
    · exact absurd hw.2 Bool.false_ne_true
  · exact absurd hw.2 Bool.false_ne_true

end Later

/-- Time alone never lowers a gauge: at a later time, or under a shorter threshold, and with the
same compositions and synthesizers, every composition the watchdog counted is counted again, so
no gauge falls and an alert ends only when a composition changes. -/
theorem reconcile_gauges_later {c' : WatchdogController Synthesizer} (h : Later c c')
    {items : List Composition} (hl : c.list = .ok items) (hl' : c'.list = .ok items)
    {g g' : Gauges} {r r' : Result} (hg : reconcile c = .ok (g, r))
    (hg' : reconcile c' = .ok (g', r')) : g.Le g' := by
  rw [reconcile_gauges c hl] at hg
  rw [reconcile_gauges c' hl'] at hg'
  obtain ⟨rfl, -⟩ := Prod.mk.inj (Except.ok.inj hg).symm
  obtain ⟨rfl, -⟩ := Prod.mk.inj (Except.ok.inj hg').symm
  exact ⟨List.countP_mono_left fun _ _ => h.waitingOnInputs,
    List.countP_mono_left fun _ _ => h.notInLockstep,
    List.countP_mono_left fun _ _ => h.pendingInitialReconciliation,
    List.countP_mono_left fun _ _ => h.pendingReconciliation,
    List.countP_mono_left fun _ _ => h.pendingReadiness, le_rfl⟩

theorem reconcile_gauges_later_sample :
    Later sampleWatchdog { sampleWatchdog with now := 20 } ∧
      reconcile sampleWatchdog = .ok (sampleGauges, {}) ∧
      reconcile { sampleWatchdog with now := 20 } = .ok (sampleGauges, {}) ∧
      sampleGauges.Le sampleGauges :=
  have h : Later sampleWatchdog { sampleWatchdog with now := 20 } :=
    ⟨rfl, rfl, rfl, by decide⟩
  ⟨h, rfl, rfl, reconcile_gauges_later sampleWatchdog h rfl rfl rfl rfl⟩

end Eno.Watchdog

/-
Fixed-step time is conserved.

A session is a driver and the frames rendered so far. Every frame spends
at most the budget and leaves less than a step charged (`CaughtUp`), so
over a session the steps taken, the charge left and the charges thrown
away add up to the time the clock granted (`Conserves`).

# Why the charge stays below a step

A frame charges at most `maximumFrameTime` on top of less than a step, and
the budget buys all of `maximumFrameTime` (`Settings.Balanced`): when the
budget is spent, what is left is less than a step again. The product's
constants are balanced; with a smaller budget the charge would grow.

# The log's tick

The driver tells the sink of each step it grants. The log counts what it
is told in 32 bits (`run_tickValue`), so its tick is the driver's count of
steps modulo 2^32.
-/
import Exolon.EventLog.Effects
import Exolon.Scene.Driver

namespace Exolon

open FixedTickDriver

-- =============================================================== sessions

/-- A frame that was rendered. -/
structure FrameTrace where
  currentTime : TimeInterval
  steps : List Executed

/-- A driver and the frames it has been through. -/
structure Session where
  driver : FixedTickDriver
  frames : List FrameTrace

namespace Session

def init (bound : Bool) : Session where
  driver := FixedTickDriver.init bound
  frames := []

/-- One more frame. -/
def step (cfg : Settings) (s : Session) (frame : RenderedFrame) :
    Option Session :=
  (s.driver.update cfg frame).map fun result => {
    driver := result.1
    frames := s.frames ++ [⟨frame.currentTime, result.2⟩] }

/-- The charges thrown away so far. -/
def discarded (s : Session) : Rat :=
  ((s.frames.flatMap FrameTrace.steps).flatMap Executed.discarded).sum

end Session

/-- What a clock has granted: the readings that go on are accepted, each
for at most `limit`. -/
structure Clock where
  reference : Option Rat
  granted : Rat

namespace Clock

def start : Clock := ⟨none, 0⟩

/-- One more reading. -/
def read (limit : Rat) (clock : Clock) : TimeInterval → Clock
  | .notFinite => clock
  | .finite now =>
      match clock.reference with
      | none => ⟨some now, clock.granted⟩
      | some before =>
          if now < before then ⟨some now, clock.granted⟩
          else ⟨some now, clock.granted + min (now - before) limit⟩

/-- All readings of a session. -/
def reads (limit : Rat) (frames : List FrameTrace) : Clock :=
  (frames.map FrameTrace.currentTime).foldl (read limit) start

/-- No gap between two readings is beyond the range of its record, which
is some 292 thousand years. -/
def GapsFit : Option Rat → List TimeInterval → Prop
  | _, [] => True
  | reference, .notFinite :: rest => GapsFit reference rest
  | reference, .finite now :: rest =>
      (∀ before ∈ reference, GameplayEvent.rounded
        ((now - before) * 1000000) ≤ 9223372036854775807)
      ∧ GapsFit (some now) rest

end Clock

/-- The update called a reset. -/
def Executed.resets (e : Executed) : Bool :=
  e.step.acts.any fun
    | .reset _ => true
    | .emit _ => false

/-- The budget buys all a frame can charge. -/
structure FixedTickDriver.Settings.Balanced (cfg : Settings) : Prop where
  nonneg : 0 ≤ cfg.maximumFrameTime
  pays : cfg.maximumFrameTime ≤ cfg.stepBudget * cfg.fixedTimeStep
  resets : cfg.resetAccumulatorOnZoneTransition = true

theorem product_stepBudget : product.stepBudget = 15 := by
  decide +kernel

theorem product_balanced : product.Balanced where
  nonneg := by
    unfold product GameConstants.maximumFrameTime
    norm_num
  pays := by
    rw [product_stepBudget]
    unfold product GameConstants.maximumFrameTime
      GameConstants.fixedTimeStep
    norm_num
  resets := rfl

-- =============================================================== one step

namespace FixedTickDriver

variable {cfg : Settings}

@[simp] theorem tell_tickZones_emit (d : FixedTickDriver) (call : Call) :
    (d.tell (.emit call)).tickZones = d.tickZones := by
  cases h : d.events with
  | none => simp [tell, tickZones, h]
  | some sent => simp [tell, tickZones, h, SinkCall.tickZone?]

@[simp] theorem tell_tickZones_beginFrame (d : FixedTickDriver) :
    (d.tell .beginFrame).tickZones = d.tickZones := by
  cases h : d.events with
  | none => simp [tell, tickZones, h]
  | some sent => simp [tell, tickZones, h, SinkCall.tickZone?]

theorem tell_tickZones_beginTick {d : FixedTickDriver}
    (hbound : d.events.isSome) (zone : Int) :
    (d.tell (.beginTick zone)).tickZones = d.tickZones ++ [zone] := by
  obtain ⟨sent, h⟩ := Option.isSome_iff_exists.mp hbound
  simp [tell, tickZones, h, SinkCall.tickZone?]

/-- What neither a record nor a reset touches. -/
structure SameClock (d d' : FixedTickDriver) : Prop where
  count : d'.stepCount = d.stepCount
  previous : d'.previousUpdateTime = d.previousUpdateTime
  reference : d'.hasReferenceTime = d.hasReferenceTime
  zones : d'.tickZones = d.tickZones
  bound : d'.events.isSome = d.events.isSome

theorem SameClock.refl (d : FixedTickDriver) : SameClock d d :=
  ⟨rfl, rfl, rfl, rfl, rfl⟩

theorem SameClock.trans {d d' d'' : FixedTickDriver} (h : SameClock d d')
    (h' : SameClock d' d'') : SameClock d d'' where
  count := h'.count.trans h.count
  previous := h'.previous.trans h.previous
  reference := h'.reference.trans h.reference
  zones := h'.zones.trans h.zones
  bound := h'.bound.trans h.bound

theorem tell_emit_sameClock (d : FixedTickDriver) (call : Call) :
    SameClock d (d.tell (.emit call)) where
  count := rfl
  previous := rfl
  reference := rfl
  zones := tell_tickZones_emit d call
  bound := by simp [FixedTickDriver.tell]

theorem reset_sameClock (d : FixedTickDriver)
    (reason : GameplayAccumulatorResetReason) :
    SameClock d (d.reset cfg reason) := by
  have hemptied : SameClock d
      { d with accumulator := 0, stepsThisFrame := 0 } :=
    ⟨rfl, rfl, rfl, rfl, rfl⟩
  unfold reset
  split
  · exact hemptied.trans (tell_emit_sameClock _ _)
  · exact .refl d

theorem fixedUpdate_sameClock (cfg : Settings) (acts : List StepAct)
    (d : FixedTickDriver) :
    SameClock d (d.fixedUpdate cfg acts).1 := by
  induction acts generalizing d with
  | nil => exact .refl d
  | cons act rest ih =>
      cases act with
      | reset reason => exact (reset_sameClock d reason).trans (ih _)
      | emit call => exact (tell_emit_sameClock d call).trans (ih _)

/-- An update without a reset leaves the charge; one with a reset leaves
none, and what it threw away is what it found. -/
theorem fixedUpdate_charge (hreset : cfg.resetAccumulatorOnZoneTransition)
    (step : FixedStep) (d : FixedTickDriver) :
    let after := d.fixedUpdate cfg step.acts
    let e : Executed := ⟨step, after.2⟩
    (e.resets = false ∧ after.1.accumulator = d.accumulator
        ∧ after.1.stepsThisFrame = d.stepsThisFrame ∧ after.2.sum = 0)
      ∨ (e.resets = true ∧ after.1.accumulator = 0
        ∧ after.1.stepsThisFrame = 0 ∧ after.2.sum = d.accumulator) := by
  obtain ⟨zone, acts⟩ := step
  induction acts generalizing d with
  | nil => exact .inl ⟨rfl, rfl, rfl, rfl⟩
  | cons act rest ih =>
      cases act with
      | emit call => exact ih (d.tell (.emit call))
      | reset reason =>
          right
          have hempty : (d.reset cfg reason).accumulator = 0 := by
            simp [reset, hreset]
          have hfresh : (d.reset cfg reason).stepsThisFrame = 0 := by
            simp [reset, hreset]
          obtain ⟨hsteps, hsum⟩ :
              ((d.reset cfg reason).fixedUpdate cfg rest).1.stepsThisFrame = 0
              ∧ ((d.reset cfg reason).fixedUpdate cfg rest).2.sum = 0 := by
            rcases ih (d.reset cfg reason) with h | h
            · exact ⟨h.2.2.1.trans hfresh, h.2.2.2⟩
            · exact ⟨h.2.2.1, h.2.2.2.trans hempty⟩
          refine ⟨rfl, fixedUpdate_empty rest hempty, hsteps, ?_⟩
          simp only [fixedUpdate, List.sum_cons, hsum, hempty]
          ring

-- ============================================================== one frame

/-- What catching up leaves behind, from `d` to `d'` by `steps`. -/
structure CaughtUp (cfg : Settings) (d d' : FixedTickDriver)
    (steps : List Executed) : Prop where
  nonneg : 0 ≤ d'.accumulator
  below : d'.accumulator < cfg.fixedTimeStep
  budget : steps.length + d.stepsThisFrame ≤ cfg.stepBudget
  balance : d'.stepCount * cfg.fixedTimeStep + d'.accumulator
      + (steps.flatMap Executed.discarded).sum
    = d.stepCount * cfg.fixedTimeStep + d.accumulator
  count : d'.stepCount = d.stepCount + steps.length
  stops : ∀ pre e post, steps = pre ++ e :: post → e.resets = true →
    post = []
  previous : d'.previousUpdateTime = d.previousUpdateTime
  reference : d'.hasReferenceTime = d.hasReferenceTime
  bound : d'.events.isSome = d.events.isSome
  zones : d.events.isSome →
    d'.tickZones = d.tickZones ++ steps.map (·.step.zone)

/-- What a grant takes. -/
theorem beginStep_eq_some {d granted : FixedTickDriver} {zone : Int}
    (h : d.beginStep cfg zone = some granted) :
    cfg.fixedTimeStep ≤ d.accumulator ∧ d.stepsThisFrame < cfg.stepBudget
      ∧ granted = { d with
        accumulator := d.accumulator - cfg.fixedTimeStep
        stepsThisFrame := d.stepsThisFrame + 1
        stepCount := d.stepCount + 1 }.tell (.beginTick zone) := by
  unfold beginStep at h
  split at h
  case isTrue hg => exact ⟨hg.1, hg.2, (Option.some.inj h).symm⟩
  case isFalse => cases h

theorem catchUp_refused {d : FixedTickDriver} {body : Nat → FixedStep}
    {k : Nat} (h : d.beginStep cfg (body k).zone = none) :
    d.catchUp cfg body k = (d, []) := by
  rw [catchUp]
  split
  case h_1 => rfl
  case h_2 granted hgrant =>
    rw [h] at hgrant
    cases hgrant

theorem catchUp_granted {d granted : FixedTickDriver}
    {body : Nat → FixedStep} {k : Nat}
    (h : d.beginStep cfg (body k).zone = some granted) :
    d.catchUp cfg body k =
      let updated := granted.fixedUpdate cfg (body k).acts
      let rest := updated.1.catchUp cfg body (k + 1)
      (rest.1, ⟨body k, updated.2⟩ :: rest.2) := by
  rw [catchUp]
  split
  case h_1 hrefused =>
    rw [h] at hrefused
    cases hrefused
  case h_2 granted' hgrant =>
    rw [h] at hgrant
    obtain rfl := Option.some.inj hgrant
    rfl

/-- Without a charge no step is granted. -/
theorem catchUp_empty {d : FixedTickDriver} (h : d.accumulator = 0)
    (body : Nat → FixedStep) (k : Nat) : d.catchUp cfg body k = (d, []) := by
  apply catchUp_refused
  have := cfg.step_pos
  unfold beginStep
  rw [if_neg]
  rintro ⟨hge, _⟩
  linarith

/-- Nothing to catch up with. -/
theorem CaughtUp.nil {d : FixedTickDriver} (hnonneg : 0 ≤ d.accumulator)
    (hbelow : d.accumulator < cfg.fixedTimeStep)
    (hbudget : d.stepsThisFrame ≤ cfg.stepBudget) : CaughtUp cfg d d [] where
  nonneg := hnonneg
  below := hbelow
  budget := by simpa using hbudget
  balance := by simp
  count := rfl
  stops := by simp
  previous := rfl
  reference := rfl
  bound := rfl
  zones := by simp

/-- A step granted before the rest. -/
theorem CaughtUp.cons (hreset : cfg.resetAccumulatorOnZoneTransition)
    {d granted d' : FixedTickDriver} {step : FixedStep}
    {steps : List Executed}
    (hgrant : d.beginStep cfg step.zone = some granted)
    (hrest : CaughtUp cfg (granted.fixedUpdate cfg step.acts).1 d' steps)
    (hbudget : steps.length + 1 + d.stepsThisFrame ≤ cfg.stepBudget)
    (hstops : Executed.resets ⟨step, (granted.fixedUpdate cfg step.acts).2⟩
      = true → steps = []) :
    CaughtUp cfg d d'
      (⟨step, (granted.fixedUpdate cfg step.acts).2⟩ :: steps) := by
  have hsame := fixedUpdate_sameClock cfg step.acts granted
  have hcharge := fixedUpdate_charge hreset step granted
  obtain ⟨_, _, hgranted⟩ := beginStep_eq_some hgrant
  have haccumulator : granted.accumulator
      = d.accumulator - cfg.fixedTimeStep := by rw [hgranted]; rfl
  have hcount : granted.stepCount = d.stepCount + 1 := by rw [hgranted]; rfl
  refine {
    nonneg := hrest.nonneg
    below := hrest.below
    budget := by simpa using hbudget
    balance := ?_
    count := ?_
    stops := ?_
    previous := ?_
    reference := ?_
    bound := ?_
    zones := ?_ }
  · have hbalance := hrest.balance
    have hkept : (granted.fixedUpdate cfg step.acts).1.accumulator
        + (granted.fixedUpdate cfg step.acts).2.sum
        = d.accumulator - cfg.fixedTimeStep := by
      rcases hcharge with ⟨_, hsame', _, hsum⟩ | ⟨_, hempty, _, hsum⟩
      · rw [hsame', hsum, haccumulator, add_zero]
      · rw [hempty, hsum, haccumulator, zero_add]
    rw [hsame.count, hcount] at hbalance
    push_cast at hbalance
    simp only [List.flatMap_cons, List.sum_append]
    linarith
  · rw [hrest.count, hsame.count, hcount, List.length_cons]
    omega
  · intro pre e post heq hresets
    cases pre with
    | nil =>
        obtain ⟨rfl, rfl⟩ := List.cons.inj heq
        exact hstops hresets
    | cons e' pre =>
        obtain ⟨_, hsteps⟩ := List.cons.inj heq
        exact hrest.stops pre e post hsteps hresets
  · rw [hrest.previous, hsame.previous, hgranted]
    rfl
  · rw [hrest.reference, hsame.reference, hgranted]
    rfl
  · rw [hrest.bound, hsame.bound, hgranted]
    simp [FixedTickDriver.tell]
  · intro hbound
    have hbound' : granted.events.isSome := by
      rw [hgranted]
      simpa [FixedTickDriver.tell] using hbound
    rw [hrest.zones (by rw [hsame.bound]; exact hbound'), hsame.zones,
      hgranted, tell_tickZones_beginTick (by exact hbound)]
    simp [tickZones]

/-- Catching up spends at most the budget and leaves less than a step,
when the budget buys what is charged. -/
theorem catchUp_caughtUp (hreset : cfg.resetAccumulatorOnZoneTransition)
    (body : Nat → FixedStep) (k : Nat) (d : FixedTickDriver)
    (hnonneg : 0 ≤ d.accumulator)
    (hbudget : d.stepsThisFrame ≤ cfg.stepBudget)
    (hcharge : d.accumulator + d.stepsThisFrame * cfg.fixedTimeStep
      < (cfg.stepBudget + 1) * cfg.fixedTimeStep) :
    CaughtUp cfg d (d.catchUp cfg body k).1 (d.catchUp cfg body k).2 := by
  have hpos := cfg.step_pos
  induction k, d using catchUp.induct cfg body with
  | case1 k d hrefused =>
      rw [catchUp_refused hrefused]
      refine CaughtUp.nil hnonneg ?_ hbudget
      by_contra hge
      have hspent : d.stepsThisFrame = cfg.stepBudget := by
        by_contra hne
        have hgrants : d.accumulator ≥ cfg.fixedTimeStep
            ∧ d.stepsThisFrame < cfg.stepBudget :=
          ⟨le_of_not_gt hge, by omega⟩
        rw [beginStep, if_pos hgrants] at hrefused
        cases hrefused
      -- the budget is spent, and it bought all but less than a step
      rw [hspent] at hcharge
      linarith
  | case2 k d granted hgrant updated ih =>
      rw [catchUp_granted hgrant]
      obtain ⟨hge, hroom, hgranted⟩ := beginStep_eq_some hgrant
      have haccumulator : granted.accumulator
          = d.accumulator - cfg.fixedTimeStep := by rw [hgranted]; rfl
      have hsteps : granted.stepsThisFrame = d.stepsThisFrame + 1 := by
        rw [hgranted]
        rfl
      rcases fixedUpdate_charge hreset (body k) granted with
        ⟨hresets, hsame, hsteps', _⟩ | ⟨hresets, hempty, hfresh, _⟩
      · -- the update went on: the rest of the budget is left
        have hacc : updated.1.accumulator
            = d.accumulator - cfg.fixedTimeStep := hsame.trans haccumulator
        have hst : updated.1.stepsThisFrame = d.stepsThisFrame + 1 :=
          hsteps'.trans hsteps
        have hrest := ih (by rw [hacc]; linarith) (by rw [hst]; omega)
          (by rw [hacc, hst]; push_cast; linarith)
        refine CaughtUp.cons hreset hgrant hrest ?_ ?_
        · have hspent := hrest.budget
          rw [hst] at hspent
          show (updated.1.catchUp cfg body (k + 1)).2.length + 1
            + d.stepsThisFrame ≤ cfg.stepBudget
          omega
        · rw [hresets]
          nofun
      · -- a reset: the loop ends here
        have hnone : updated.1.catchUp cfg body (k + 1) = (updated.1, []) :=
          catchUp_empty hempty body (k + 1)
        simp only [updated] at hnone
        simp only [hnone]
        refine CaughtUp.cons hreset hgrant (CaughtUp.nil ?_ ?_ ?_) ?_
          (fun _ => rfl)
        · rw [hempty]
        · rw [hempty]
          exact hpos
        · rw [hfresh]
          exact Nat.zero_le _
        · rw [List.length_nil]
          omega

/-- The driver's reference is the clock's. -/
structure Tracks (d : FixedTickDriver) (clock : Clock) : Prop where
  reference : d.hasReferenceTime = clock.reference.isSome
  previous : ∀ before ∈ clock.reference, d.previousUpdateTime = before

/-- What opening a frame does: the driver goes on tracking the clock, and
charges what the clock grants. -/
structure Opened (cfg : Settings) (d d' : FixedTickDriver) (go : Bool)
    (clock clock' : Clock) : Prop where
  tracks : d'.Tracks clock'
  count : d'.stepCount = d.stepCount
  zones : d'.tickZones = d.tickZones
  bound : d'.events.isSome = d.events.isSome
  charged : d'.accumulator = d.accumulator + (clock'.granted - clock.granted)
  granted : 0 ≤ clock'.granted - clock.granted
  limit : clock'.granted - clock.granted ≤ cfg.maximumFrameTime
  refused : go = false → d'.accumulator = d.accumulator
  fresh : go = true → d'.stepsThisFrame = 0

theorem reportSlowFrame_sameClock (cfg : Settings) (d : FixedTickDriver) :
    SameClock d (d.reportSlowFrame cfg) := by
  unfold reportSlowFrame
  split
  · exact tell_emit_sameClock d _
  · exact .refl d

theorem reportSlowFrame_accumulator (cfg : Settings) (d : FixedTickDriver) :
    (d.reportSlowFrame cfg).accumulator = d.accumulator := by
  unfold reportSlowFrame
  split <;> rfl

theorem emitFrameGapClamped_eq {d d' : FixedTickDriver} {rawDelta : Rat}
    (h : d.emitFrameGapClamped rawDelta = some d') :
    d' = d ∨ ∃ call, d' = d.tell (.emit call) := by
  unfold emitFrameGapClamped at h
  split at h
  case isTrue => exact .inl (Option.some.inj h).symm
  case isFalse =>
    obtain ⟨micro, _, rfl⟩ := Option.map_eq_some_iff.mp h
    exact .inr ⟨_, rfl⟩

/-- The record of a clamped gap is the only thing in between. -/
theorem clamped_sameClock {d d' : FixedTickDriver} {rawDelta : Rat}
    (h : (if rawDelta > cfg.maximumFrameTime then
      d.emitFrameGapClamped rawDelta else some d) = some d') :
    SameClock d d' ∧ d'.accumulator = d.accumulator
      ∧ d'.stepsThisFrame = d.stepsThisFrame := by
  split at h
  case isTrue =>
    rcases emitFrameGapClamped_eq h with rfl | ⟨call, rfl⟩
    · exact ⟨.refl d', rfl, rfl⟩
    · exact ⟨tell_emit_sameClock d call, rfl, rfl⟩
  case isFalse =>
    obtain rfl := Option.some.inj h
    exact ⟨.refl d, rfl, rfl⟩

theorem beginFrame_opened (hlimit : 0 ≤ cfg.maximumFrameTime)
    {d d' : FixedTickDriver} {clock : Clock} (htracks : d.Tracks clock)
    {now : TimeInterval} {go : Bool}
    (h : d.beginFrame cfg now = some (d', go)) :
    Opened cfg d d' go clock (clock.read cfg.maximumFrameTime now) := by
  have hslow := reportSlowFrame_sameClock cfg d
  have hslow' := reportSlowFrame_accumulator cfg d
  unfold beginFrame at h
  cases now with
  | notFinite =>
      obtain ⟨rfl, rfl⟩ := Prod.mk.inj (Option.some.inj h)
      exact {
        tracks := ⟨hslow.reference.trans htracks.reference,
          fun before hb => hslow.previous.trans (htracks.previous before hb)⟩
        count := hslow.count
        zones := hslow.zones
        bound := hslow.bound
        charged := by simp [Clock.read, hslow']
        granted := by simp [Clock.read]
        limit := by simpa [Clock.read] using hlimit
        refused := fun _ => hslow'
        fresh := nofun }
  | finite now =>
      cases hreference : clock.reference with
      | none =>
          have hfirst : (d.reportSlowFrame cfg).hasReferenceTime = false := by
            rw [hslow.reference, htracks.reference, hreference]
            rfl
          simp only [hfirst, Bool.false_eq_true, if_false, Option.some.injEq,
            Prod.mk.injEq] at h
          obtain ⟨rfl, rfl⟩ := h
          simp only [Clock.read, hreference]
          exact {
            tracks := ⟨rfl, by simp⟩
            count := hslow.count
            zones := hslow.zones
            bound := hslow.bound
            charged := by simp [hslow']
            granted := by simp
            limit := by simpa using hlimit
            refused := fun _ => hslow'
            fresh := nofun }
      | some before =>
          have hlater : (d.reportSlowFrame cfg).hasReferenceTime = true := by
            rw [hslow.reference, htracks.reference, hreference]
            rfl
          have hprevious : (d.reportSlowFrame cfg).previousUpdateTime
              = before :=
            hslow.previous.trans (htracks.previous before hreference)
          simp only [hlater, if_true, hprevious] at h
          by_cases hback : now < before
          · -- backwards: the reading only becomes the reference
            rw [if_pos (by linarith)] at h
            obtain ⟨rfl, rfl⟩ := Prod.mk.inj (Option.some.inj h)
            simp only [Clock.read, hreference, if_pos hback]
            exact {
              tracks := ⟨rfl, by simp⟩
              count := hslow.count
              zones := hslow.zones
              bound := hslow.bound
              charged := by simp [hslow']
              granted := by simp
              limit := by simpa using hlimit
              refused := fun _ => hslow'
              fresh := nofun }
          · rw [if_neg (by linarith)] at h
            obtain ⟨clamped, hclamped, heq⟩ := Option.map_eq_some_iff.mp h
            obtain ⟨rfl, rfl⟩ := Prod.mk.inj heq
            obtain ⟨hsame, hacc, hsteps⟩ := clamped_sameClock hclamped
            have hgap : 0 ≤ min (now - before) cfg.maximumFrameTime :=
              le_min (by linarith) hlimit
            simp only [Clock.read, hreference, if_neg hback]
            exact {
              tracks := ⟨hsame.reference, by simpa using hsame.previous⟩
              count := hsame.count.trans hslow.count
              zones := hsame.zones.trans hslow.zones
              bound := hsame.bound.trans hslow.bound
              charged := by
                simp only [hacc, hslow']
                ring
              granted := by linarith
              limit := by
                have := min_le_right (now - before) cfg.maximumFrameTime
                linarith
              refused := nofun
              fresh := fun _ => hsteps }

/-- A gap in range opens the frame. -/
theorem beginFrame_isSome (hlimit : 0 ≤ cfg.maximumFrameTime)
    {d : FixedTickDriver} {clock : Clock} (htracks : d.Tracks clock)
    {now : TimeInterval} {rest : List TimeInterval}
    (hgaps : Clock.GapsFit clock.reference (now :: rest)) :
    (d.beginFrame cfg now).isSome
      ∧ Clock.GapsFit (clock.read cfg.maximumFrameTime now).reference
        rest := by
  have hslow := reportSlowFrame_sameClock cfg d
  unfold beginFrame
  cases now with
  | notFinite => exact ⟨rfl, hgaps⟩
  | finite now =>
      obtain ⟨hgap, hrest⟩ := hgaps
      cases hreference : clock.reference with
      | none =>
          have hfirst : (d.reportSlowFrame cfg).hasReferenceTime = false := by
            rw [hslow.reference, htracks.reference, hreference]
            rfl
          simp only [hfirst, Clock.read, hreference]
          exact ⟨rfl, hrest⟩
      | some before =>
          have hlater : (d.reportSlowFrame cfg).hasReferenceTime = true := by
            rw [hslow.reference, htracks.reference, hreference]
            rfl
          have hprevious : (d.reportSlowFrame cfg).previousUpdateTime
              = before :=
            hslow.previous.trans (htracks.previous before hreference)
          simp only [hlater, if_true, hprevious, Clock.read, hreference]
          by_cases hback : now < before
          · rw [if_pos (by linarith), if_pos hback]
            exact ⟨rfl, hrest⟩
          rw [if_neg (by linarith), if_neg hback, Option.isSome_map]
          refine ⟨?_, hrest⟩
          split
          case isFalse => rfl
          case isTrue hlong =>
            have hpos : 0 ≤ (now - before) * 1000000 := by linarith
            have hround : 0 ≤ GameplayEvent.rounded
                ((now - before) * 1000000) := by
              unfold GameplayEvent.rounded
              rw [if_pos hpos, Rat.le_floor_iff]
              push_cast
              linarith
            have hfits := hgap before hreference
            unfold emitFrameGapClamped checkedInt
            split
            · rfl
            · rw [if_pos ⟨by omega, hfits⟩]
              rfl

end FixedTickDriver

-- =============================================================== sessions

namespace Session

variable {cfg : Settings}

/-- What holds between two frames: every frame kept within the budget and
ended with its first reset, less than a step is charged, and the steps,
the charge and what was thrown away add up to what the clock granted. -/
structure Conserves (cfg : Settings) (s : Session) : Prop where
  tracks : s.driver.Tracks (Clock.reads cfg.maximumFrameTime s.frames)
  budget : ∀ frame ∈ s.frames, frame.steps.length ≤ cfg.stepBudget
  nonneg : 0 ≤ s.driver.accumulator
  below : s.driver.accumulator < cfg.fixedTimeStep
  balance : s.driver.stepCount * cfg.fixedTimeStep + s.driver.accumulator
    = (Clock.reads cfg.maximumFrameTime s.frames).granted - s.discarded
  stops : ∀ frame ∈ s.frames, ∀ pre e post, frame.steps = pre ++ e :: post →
    e.resets = true → post = []
  ticks : s.driver.events.isSome →
    s.driver.tickZones.length = s.driver.stepCount

theorem init_conserves (bound : Bool) : (init bound).Conserves cfg where
  tracks := ⟨rfl, nofun⟩
  budget := nofun
  nonneg := le_refl 0
  below := cfg.step_pos
  balance := by simp [init, FixedTickDriver.init, discarded, Clock.reads,
    Clock.start]
  stops := nofun
  ticks := by cases bound <;> simp [init, FixedTickDriver.init, tickZones]

/-- A frame charges, then catches up. -/
theorem update_caughtUp (hcfg : cfg.Balanced) {d d' : FixedTickDriver}
    {frame : RenderedFrame} {steps : List Executed} {clock : Clock}
    (htracks : d.Tracks clock) (hnonneg : 0 ≤ d.accumulator)
    (hbelow : d.accumulator < cfg.fixedTimeStep)
    (hupdate : d.update cfg frame = some (d', steps)) :
    ∃ opened go,
      Opened cfg d opened go clock
        (clock.read cfg.maximumFrameTime frame.currentTime)
      ∧ ((go = true ∧ CaughtUp cfg (opened.tell .beginFrame) d' steps)
        ∨ (go = false ∧ d' = opened ∧ steps = [])) := by
  obtain ⟨⟨opened, go⟩, hopen, hrest⟩ := Option.map_eq_some_iff.mp hupdate
  have hopened := beginFrame_opened hcfg.nonneg htracks hopen
  refine ⟨opened, go, hopened, ?_⟩
  cases go with
  | false =>
      obtain ⟨rfl, rfl⟩ := Prod.mk.inj hrest
      exact .inr ⟨rfl, rfl, rfl⟩
  | true =>
      have hcatch := catchUp_caughtUp hcfg.resets frame.body 0
        (opened.tell .beginFrame)
      have hfresh := hopened.fresh rfl
      simp only at hrest
      rw [hrest] at hcatch
      refine .inl ⟨rfl, hcatch ?_ ?_ ?_⟩
      · rw [tell_accumulator, hopened.charged]
        exact add_nonneg hnonneg hopened.granted
      · rw [tell_stepsThisFrame, hfresh]
        exact Nat.zero_le _
      · have hlimit := hopened.limit
        have hpays := hcfg.pays
        rw [tell_accumulator, tell_stepsThisFrame, hfresh, hopened.charged]
        push_cast
        linarith

theorem reads_append (limit : Rat) (frames : List FrameTrace)
    (frame : FrameTrace) :
    Clock.reads limit (frames ++ [frame])
      = (Clock.reads limit frames).read limit frame.currentTime := by
  simp [Clock.reads]

/-- One frame keeps the books. -/
theorem step_conserves (hcfg : cfg.Balanced) {s s' : Session}
    {frame : RenderedFrame} (hs : s.Conserves cfg)
    (hstep : s.step cfg frame = some s') : s'.Conserves cfg := by
  obtain ⟨⟨d', steps⟩, hupdate, rfl⟩ := Option.map_eq_some_iff.mp hstep
  obtain ⟨opened, go, hopened, hcatch⟩ :=
    update_caughtUp hcfg hs.tracks hs.nonneg hs.below hupdate
  have hdiscarded : (Session.mk d'
      (s.frames ++ [⟨frame.currentTime, steps⟩])).discarded
      = s.discarded + (steps.flatMap Executed.discarded).sum := by
    simp [discarded]
  have hbalance := hs.balance
  have hcharged := hopened.charged
  rcases hcatch with ⟨_, hcaught⟩ | ⟨hgo, rfl, rfl⟩
  · refine {
      tracks := ?_
      budget := ?_
      nonneg := hcaught.nonneg
      below := hcaught.below
      balance := ?_
      stops := ?_
      ticks := ?_ }
    · rw [reads_append]
      exact ⟨hcaught.reference.trans hopened.tracks.reference,
        fun before hb =>
          hcaught.previous.trans (hopened.tracks.previous before hb)⟩
    · intro f hf
      rcases List.mem_append.mp hf with hf | hf
      · exact hs.budget f hf
      · obtain rfl := List.mem_singleton.mp hf
        exact le_trans (Nat.le_add_right _ _) hcaught.budget
    · have hbalance' := hcaught.balance
      rw [tell_stepCount, tell_accumulator, hopened.count] at hbalance'
      rw [reads_append, hdiscarded]
      linarith
    · intro f hf
      rcases List.mem_append.mp hf with hf | hf
      · exact hs.stops f hf
      · obtain rfl := List.mem_singleton.mp hf
        exact hcaught.stops
    · intro hbound
      have hbound' : (opened.tell .beginFrame).events.isSome := by
        rw [← hcaught.bound]
        exact hbound
      have hbound₀ : s.driver.events.isSome := by
        rw [← hopened.bound]
        simpa [FixedTickDriver.tell] using hbound'
      rw [hcaught.zones hbound', tell_tickZones_beginFrame, hopened.zones,
        hcaught.count, tell_stepCount, hopened.count, List.length_append,
        List.length_map, hs.ticks hbound₀]
  · have hsame := hopened.refused hgo
    refine {
      tracks := ?_
      budget := ?_
      nonneg := by rw [hsame]; exact hs.nonneg
      below := by rw [hsame]; exact hs.below
      balance := ?_
      stops := ?_
      ticks := ?_ }
    · rw [reads_append]
      exact hopened.tracks
    · intro f hf
      rcases List.mem_append.mp hf with hf | hf
      · exact hs.budget f hf
      · obtain rfl := List.mem_singleton.mp hf
        exact Nat.zero_le _
    · rw [reads_append, hdiscarded, hopened.count]
      simp only [List.flatMap_nil, List.sum_nil]
      linarith
    · intro f hf
      rcases List.mem_append.mp hf with hf | hf
      · exact hs.stops f hf
      · obtain rfl := List.mem_singleton.mp hf
        simp
    · intro hbound
      rw [hopened.zones, hopened.count]
      exact hs.ticks (by rw [← hopened.bound]; exact hbound)

/-- No frame binds a sink or drops it. -/
theorem step_bound (hcfg : cfg.Balanced) {s s' : Session}
    {frame : RenderedFrame} (hs : s.Conserves cfg)
    (hstep : s.step cfg frame = some s') :
    s'.driver.events.isSome = s.driver.events.isSome := by
  obtain ⟨⟨d', steps⟩, hupdate, rfl⟩ := Option.map_eq_some_iff.mp hstep
  obtain ⟨opened, go, hopened, hcatch⟩ :=
    update_caughtUp hcfg hs.tracks hs.nonneg hs.below hupdate
  rcases hcatch with ⟨_, hcaught⟩ | ⟨_, rfl, _⟩
  · rw [hcaught.bound, ← hopened.bound]
    simp [FixedTickDriver.tell]
  · exact hopened.bound

/-- Frames whose gaps fit are all rendered. -/
theorem run_isSome (hcfg : cfg.Balanced) {frames : List RenderedFrame} :
    ∀ {s : Session}, s.Conserves cfg →
      Clock.GapsFit (Clock.reads cfg.maximumFrameTime s.frames).reference
        (frames.map RenderedFrame.currentTime) →
      ∃ s', Run.run (step cfg) s frames = some s' := by
  induction frames with
  | nil => exact fun {s} _ _ => ⟨s, rfl⟩
  | cons frame rest ih =>
      intro s hs hgaps
      obtain ⟨hopens, hgaps'⟩ :=
        beginFrame_isSome hcfg.nonneg hs.tracks hgaps
      obtain ⟨opened, hopened⟩ := Option.isSome_iff_exists.mp hopens
      have hstep : ∃ s', s.step cfg frame = some s' := by
        unfold step update
        rw [hopened]
        exact ⟨_, rfl⟩
      obtain ⟨s', hs'⟩ := hstep
      have hframes : s'.frames.map FrameTrace.currentTime
          = s.frames.map FrameTrace.currentTime ++ [frame.currentTime] := by
        obtain ⟨_, _, rfl⟩ := Option.map_eq_some_iff.mp hs'
        simp
      have hrest := ih (step_conserves hcfg hs hs') (by
        unfold Clock.reads
        rw [hframes, List.foldl_append]
        exact hgaps')
      rw [Run.run_cons, hs']
      exact hrest

end Session

-- ========================================================== the log's tick

namespace GameplayEventLog

/-- The zone of a tick. -/
def Action.tickZone? : Action → Option Int
  | .beginTick zone => some zone
  | _ => none

variable {cfg : Configuration} {W : Type} {writer : GameplayEventWriter W}

/-- Nothing but a tick counts the tick. -/
theorem Effect.tickValue_kept {action : Action}
    {s s' : GameplayEventLog cfg W} (h : Effect writer action s s')
    (hact : action.ticks = false) : s'.tickValue = s.tickValue := by
  cases h with
  | tick zoneValue hticks =>
      rw [hact] at hticks
      cases hticks
  | append s₀ record phase _ hs₀ =>
      rw [store_eq]
      rcases hs₀ with rfl | ⟨hticks, _⟩
      · rfl
      · rw [hact] at hticks
        cases hticks
  | _ => rfl

/-- A tick counts one. -/
theorem beginTick_tickValue {s s' : GameplayEventLog cfg W} {zone : Int}
    (h : s.beginTick zone = some s') : s'.tickValue = s.tickValue + 1 := by
  unfold beginTick at h
  simp only at h
  split at h
  case isTrue =>
    obtain rfl := Option.some.inj h
    rfl
  case isFalse =>
    split at h
    case isTrue => cases h
    case isFalse =>
      split at h <;> obtain rfl := Option.some.inj h
      · unfold appendHeartbeatLocked
        rw [store_eq]
      · rfl

/-- Over a run the tick counts the calls of `beginTick`, in 32 bits. -/
theorem run_tickValue {acts : List Action} :
    ∀ {s t : GameplayEventLog cfg W}, Run.run (step writer) s acts = some t →
      t.tickValue.toNat = (s.tickValue.toNat
        + (acts.filterMap Action.tickZone?).length) % 4294967296 := by
  induction acts with
  | nil =>
      intro s t hrun
      cases hrun
      exact (Nat.mod_eq_of_lt s.tickValue.toNat_lt).symm
  | cons action rest ih =>
      intro s t hrun
      obtain ⟨s', hs', hrest⟩ := Run.run_cons_inv hrun
      rw [ih hrest]
      by_cases hticks : action.ticks = true
      · cases action with
        | beginTick zone =>
            have hbegin : s.beginTick zone = some s' := by
              unfold step at hs'
              split at hs'
              case isTrue => cases hs'
              case isFalse => exact hs'
            rw [beginTick_tickValue hbegin]
            simp [Action.tickZone?]
            omega
        | _ => cases hticks
      · have hnone : action.tickZone? = none := by
          cases action with
          | beginTick zone => exact absurd rfl hticks
          | _ => rfl
        rw [(step_effect writer hs').tickValue_kept (by simpa using hticks),
          List.filterMap_cons, hnone]

end GameplayEventLog

-- ============================================================ conservation

namespace Session

/-- Time is conserved over every session of the product whose gaps fit:
all its frames are rendered, and after each of them no frame took more
than fifteen steps, less than a step is charged, steps and charge are what
the clock granted less what was thrown away, no step followed a reset in
its frame, and a log that was told the driver's ticks counts its steps
modulo 2^32. -/
theorem conserves (bound : Bool) {frames : List RenderedFrame}
    (hgaps : Clock.GapsFit none (frames.map RenderedFrame.currentTime)) :
    (∃ s, Run.run (step product) (init bound) frames = some s)
    ∧ ∀ s, Run.Visits (step product) (init bound) frames s →
      (∀ frame ∈ s.frames, frame.steps.length ≤ 15)
      ∧ (0 ≤ s.driver.accumulator ∧ s.driver.accumulator < 1 / 60)
      ∧ s.driver.stepCount * (1 / 60) + s.driver.accumulator
        = (Clock.reads (1 / 4) s.frames).granted - s.discarded
      ∧ (∀ frame ∈ s.frames, ∀ pre e post, frame.steps = pre ++ e :: post →
        e.resets = true → post = [])
      ∧ (bound = true → ∀ (cfg : Configuration) (W : Type)
        (writer : GameplayEventWriter W) (w : W)
        (acts : List GameplayEventLog.Action) (log : GameplayEventLog cfg W),
        Run.run (GameplayEventLog.step writer) (GameplayEventLog.init cfg w)
          acts = some log →
        acts.filterMap GameplayEventLog.Action.tickZone?
          = s.driver.tickZones →
        log.tickValue.toNat = s.driver.stepCount % 4294967296) := by
  refine ⟨run_isSome product_balanced (init_conserves bound) hgaps, ?_⟩
  rintro s ⟨pre, _, hrun⟩
  have hs : s.Conserves product ∧ s.driver.events.isSome = bound := by
    refine Run.run_invariant (I := fun s =>
      s.Conserves product ∧ s.driver.events.isSome = bound) ?_
      ⟨init_conserves bound, ?_⟩ hrun
    · intro s s' frame h hstep
      exact ⟨step_conserves product_balanced h.1 hstep,
        (step_bound product_balanced h.1 hstep).trans h.2⟩
    · cases bound <;> rfl
  obtain ⟨hs, hbound⟩ := hs
  refine ⟨?_, ⟨hs.nonneg, hs.below⟩, hs.balance, hs.stops, ?_⟩
  · rw [← product_stepBudget]
    exact hs.budget
  · rintro rfl cfg W writer w acts log hlog hzones
    rw [GameplayEventLog.run_tickValue hlog, hzones, hs.ticks hbound]
    exact congrArg (· % 4294967296) (Nat.zero_add _)

/-- A frame of three steps whose second one resets, between a reading that
is no number and a gap that is clamped. -/
def mixedFrames : List RenderedFrame := [
  ⟨.finite 10, fun _ => ⟨0, []⟩⟩,
  ⟨.notFinite, fun _ => ⟨0, []⟩⟩,
  ⟨.finite (10 + 1 / 20), fun k =>
    ⟨0, if k = 1 then [.reset .zoneTransition] else []⟩⟩,
  ⟨.finite 9, fun _ => ⟨1, []⟩⟩,
  ⟨.finite 12, fun _ => ⟨1, []⟩⟩]

theorem conserves_mixedFrames :
    ∃ s, Run.run (step product) (init true) mixedFrames = some s := by
  have hgaps : Clock.GapsFit none
      (mixedFrames.map RenderedFrame.currentTime) := by
    refine ⟨nofun, ?_, ?_, ?_, trivial⟩ <;>
    · rintro before ⟨⟩
      decide +kernel
  exact (conserves true hgaps).1

-- ------------------------------------------------------- the tick wraps

/-- A frame at `k` sixtieths of a second, with nothing in it. -/
def steadyFrame (k : Nat) : RenderedFrame :=
  ⟨.finite (k / 60), fun _ => ⟨0, []⟩⟩

def steadyFrames (n : Nat) : List RenderedFrame :=
  (List.range (n + 1)).map steadyFrame

theorem steadyFrames_succ (n : Nat) :
    steadyFrames (n + 1) = steadyFrames n ++ [steadyFrame (n + 1)] := by
  unfold steadyFrames
  rw [List.range_succ, List.map_append]
  rfl

/-- A driver after `n` steady steps. -/
structure Steady (d : FixedTickDriver) (n : Nat) : Prop where
  empty : d.accumulator = 0
  previous : d.previousUpdateTime = (n : Rat) / 60
  reference : d.hasReferenceTime = true
  count : d.stepCount = n
  bound : d.events.isSome
  zones : d.tickZones = List.replicate n 0

/-- A steady frame is opened with one step charged. -/
theorem beginFrame_steady {d : FixedTickDriver} {n : Nat} (h : Steady d n) :
    ∃ opened, d.beginFrame product (.finite ((n + 1 : Nat) / 60))
        = some (opened, true)
      ∧ opened.accumulator = 1 / 60 ∧ opened.stepsThisFrame = 0
      ∧ opened.previousUpdateTime = ((n + 1 : Nat) : Rat) / 60
      ∧ SameClock d { opened with previousUpdateTime := d.previousUpdateTime }
    := by
  have hslow := reportSlowFrame_sameClock product d
  have hslow' := reportSlowFrame_accumulator product d
  have hdelta : ((n + 1 : Nat) : Rat) / 60 - (n : Rat) / 60 = 1 / 60 := by
    push_cast
    ring
  have hlimit : (1 / 60 : Rat) ≤ product.maximumFrameTime := by
    unfold product GameConstants.maximumFrameTime
    norm_num
  have hnotBack : ¬(1 / 60 : Rat) < 0 := by norm_num
  have hlater : (d.reportSlowFrame product).hasReferenceTime = true :=
    hslow.reference.trans h.reference
  have hprevious : (d.reportSlowFrame product).previousUpdateTime
      = (n : Rat) / 60 := hslow.previous.trans h.previous
  refine ⟨{ d.reportSlowFrame product with
    accumulator := 1 / 60
    previousUpdateTime := ((n + 1 : Nat) : Rat) / 60
    stepsThisFrame := 0 }, ?_, ?_⟩
  · unfold beginFrame
    simp only [hlater, if_true, hprevious, hdelta, hslow', h.empty,
      if_neg (not_lt.mpr hlimit), if_neg hnotBack, min_eq_left hlimit,
      Option.map_some, zero_add]
  · exact ⟨rfl, rfl, rfl, hslow.count, rfl, hlater.trans h.reference.symm,
      hslow.zones, hslow.bound⟩

/-- A steady frame is one step. -/
theorem update_steady {d : FixedTickDriver} {n : Nat} (h : Steady d n) :
    ∃ d' steps, d.update product (steadyFrame (n + 1)) = some (d', steps)
      ∧ Steady d' (n + 1) := by
  obtain ⟨opened, hopen, hacc, hsteps, hprevious, hsame⟩ :=
    beginFrame_steady h
  let granted : FixedTickDriver := { opened.tell .beginFrame with
    accumulator := opened.accumulator - product.fixedTimeStep
    stepsThisFrame := opened.stepsThisFrame + 1
    stepCount := opened.stepCount + 1 }.tell (.beginTick 0)
  have hgrant : (opened.tell .beginFrame).beginStep product 0
      = some granted := by
    unfold beginStep
    rw [if_pos]
    · rfl
    · rw [product_stepBudget, tell_accumulator, tell_stepsThisFrame, hacc,
        hsteps]
      exact ⟨le_refl _, Nat.zero_lt_succ 14⟩
  have hempty : opened.accumulator - product.fixedTimeStep = 0 := by
    rw [hacc]
    exact sub_self _
  have hbound : (opened.tell .beginFrame).events.isSome := by
    have := hsame.bound.trans h.bound
    simpa [FixedTickDriver.tell] using this
  have hzones : (opened.tell .beginFrame).tickZones
      = List.replicate n 0 := by
    rw [tell_tickZones_beginFrame]
    exact hsame.zones.trans h.zones
  refine ⟨granted, [⟨⟨0, []⟩, []⟩], ?_, ?_⟩
  · have hlast : granted.catchUp product (fun _ => ⟨0, []⟩) 1
        = (granted, []) := catchUp_empty hempty _ 1
    unfold update steadyFrame
    rw [hopen, Option.map_some]
    show some ((opened.tell .beginFrame).catchUp product
      (fun _ => ⟨0, []⟩) 0) = _
    rw [catchUp_granted hgrant]
    simp only [fixedUpdate, zero_add, hlast]
  · exact {
      empty := hempty
      previous := hprevious
      reference := hsame.reference.trans h.reference
      count := congrArg (· + 1) (hsame.count.trans h.count)
      bound := by simpa [FixedTickDriver.tell, granted] using hbound
      zones := by
        rw [tell_tickZones_beginTick (by exact hbound), List.replicate_succ']
        exact congrArg (· ++ [0]) hzones }

/-- After `n` steady frames the driver has taken `n` steps. -/
theorem run_steady (n : Nat) :
    ∃ s, Run.run (step product) (init true) (steadyFrames n) = some s
      ∧ Steady s.driver n := by
  induction n with
  | zero =>
      refine ⟨_, rfl, ?_⟩
      exact {
        empty := rfl
        previous := by decide +kernel
        reference := rfl
        count := rfl
        bound := rfl
        zones := rfl }
  | succ n ih =>
      obtain ⟨s, hrun, hs⟩ := ih
      obtain ⟨d', steps, hupdate, hd'⟩ := update_steady hs
      rw [steadyFrames_succ, Run.run_append, hrun, Option.bind_some,
        Run.run_cons]
      unfold step
      rw [hupdate]
      exact ⟨_, rfl, hd'⟩

end Session

/-- A log told of `n` ticks, and nothing else. -/
theorem GameplayEventLog.run_ticks {cfg : Configuration} {W : Type}
    (writer : GameplayEventWriter W) (hmode : cfg.mode = .off)
    (hperiod : cfg.limits.heartbeatSteps ≤ 0) (n : Nat) :
    ∀ s : GameplayEventLog cfg W, ∃ t, Run.run (step writer) s
      (List.replicate n (.beginTick 0)) = some t := by
  induction n with
  | zero => exact fun s => ⟨s, rfl⟩
  | succ n ih =>
      intro s
      have hmay : s.mayProduce = true := by
        unfold mayProduce
        rw [hmode]
      have hstep : ∃ s', s.step writer (.beginTick 0) = some s' := by
        unfold step
        rw [if_neg (by simp [hmay])]
        exact ⟨_, if_pos hperiod⟩
      obtain ⟨s', hs'⟩ := hstep
      rw [List.replicate_succ, Run.run_cons, hs']
      exact ih s'

namespace Session

/-- After 2^32 steps the log's tick is zero again; and a gap of ten
trillion seconds is not rendered at all. -/
theorem tick_wraps :
    (∃ (s : Session) (acts : List GameplayEventLog.Action)
      (log : GameplayEventLog { runToken := [], limits.heartbeatSteps := 0 }
        GameplayEventMemoryWriter),
      Run.run (step product) (init true) (steadyFrames 4294967296) = some s
      ∧ Run.run (GameplayEventLog.step
          (GameplayEventMemoryWriter.writer false))
          (GameplayEventLog.init _ {}) acts = some log
      ∧ acts.filterMap GameplayEventLog.Action.tickZone? = s.driver.tickZones
      ∧ s.driver.stepCount = 4294967296 ∧ log.tickValue.toNat = 0)
    ∧ Run.run (step product) (init true)
        [⟨.finite 0, fun _ => ⟨0, []⟩⟩,
          ⟨.finite 10000000000000, fun _ => ⟨0, []⟩⟩] = none := by
  constructor
  · obtain ⟨s, hrun, hs⟩ := run_steady 4294967296
    obtain ⟨log, hlog⟩ := GameplayEventLog.run_ticks
      (GameplayEventMemoryWriter.writer false) rfl (le_refl 0) 4294967296
      (GameplayEventLog.init
        { runToken := [], limits.heartbeatSteps := 0 } {})
    have hzones (n : Nat) : (List.replicate n
        (GameplayEventLog.Action.beginTick 0)).filterMap
        GameplayEventLog.Action.tickZone? = List.replicate n 0 := by
      simp [List.filterMap_replicate_of_some, GameplayEventLog.Action.tickZone?]
    refine ⟨s, _, log, hrun, hlog, ?_, hs.count, ?_⟩
    · rw [hzones, hs.zones]
    · rw [GameplayEventLog.run_tickValue hlog, hzones, List.length_replicate]
      rfl
  · decide +kernel

end Session

end Exolon

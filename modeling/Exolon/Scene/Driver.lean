/-
The fixed-step driver and the loop of `update` around it.

`beginFrame` charges the accumulator with a rendered frame's time, at most
`maximumFrameTime` of it; `beginStep` pays for one fixed step out of it, at
most `stepBudget` times a frame; `reset` throws the charge away. A frame is
`beginFrame` and then steps until `beginStep` refuses.

Time is exact rationals, and a clock reading is one of them or none. A
record's microseconds are converted to a machine integer. The raw frame gap
is as long as the clock says, so its conversion can trap; the others are of
at most a frame's time.

# What a step does to the driver

The fixed update between two calls of `beginStep` is the whole game. The
driver sees two things of it: the resets and the records the game sends to
the sink in between. `StepAct` lists them, for any game.
-/
import Exolon.EventLog.Sink
import Exolon.Lib.Run

namespace Exolon

-- ============================================================= constants

/-- The two constants of a driver, the step a real one, and the switch of
the reverted control. -/
structure FixedTickDriver.Settings where
  fixedTimeStep : Rat
  maximumFrameTime : Rat
  resetAccumulatorOnZoneTransition : Bool
  step_pos : 0 < fixedTimeStep

namespace GameConstants

def fixedTimeStep : Rat := 1 / 60

def maximumFrameTime : Rat := 1 / 4

end GameConstants

/-- The settings of every call site of the product. -/
def FixedTickDriver.product : FixedTickDriver.Settings where
  fixedTimeStep := GameConstants.fixedTimeStep
  maximumFrameTime := GameConstants.maximumFrameTime
  resetAccumulatorOnZoneTransition := true
  step_pos := by
    unfold GameConstants.fixedTimeStep
    norm_num

-- ============================================================== the sink

/-- What a sink is told, in order. -/
inductive SinkCall where
  | beginFrame
  | beginTick (zone : Int)
  | emit (call : Call)

/-- The zone of a tick. -/
def SinkCall.tickZone? : SinkCall → Option Int
  | .beginTick zone => some zone
  | _ => none

/-- The reading of the clock a frame is rendered at. -/
inductive TimeInterval where
  | finite (seconds : Rat)
  | notFinite

/-- `Int(_:)` of a number already rounded: it traps beyond 64 bits. -/
def checkedInt (n : Int) : Option Int :=
  if -9223372036854775808 ≤ n ∧ n ≤ 9223372036854775807 then some n else none

-- ============================================================ the driver

/-- The driver's state. `events` is what the bound sink was told, if one
is bound. -/
structure FixedTickDriver where
  events : Option (List SinkCall)
  accumulator : Rat := 0
  previousUpdateTime : Rat := 0
  stepsThisFrame : Nat := 0
  hasReferenceTime : Bool := false
  stepCount : Nat := 0

namespace FixedTickDriver

/-- A driver, with a sink bound before the first frame or none at all. -/
def init (bound : Bool) : FixedTickDriver where
  events := if bound then some [] else none

/-- `events?.…`: tell the sink, if one is bound. -/
def tell (d : FixedTickDriver) (call : SinkCall) : FixedTickDriver :=
  { d with events := d.events.map (· ++ [call]) }

/-- The zones of the ticks the sink was told of. -/
def tickZones (d : FixedTickDriver) : List Int :=
  (d.events.getD []).filterMap SinkCall.tickZone?

variable (cfg : Settings)

/-- The most steps one rendered frame may simulate. -/
def Settings.stepBudget : Nat :=
  max 1 (cfg.maximumFrameTime / cfg.fixedTimeStep).floor.toNat

/-- Microseconds still charged. -/
def accumulatorMicroseconds (d : FixedTickDriver) : Int :=
  GameplayEvent.rounded (max 0 (d.accumulator * 1000000))

/-- How many steps the charge would still buy this frame. -/
def pendingSteps (d : FixedTickDriver) : Int :=
  if d.accumulator ≥ cfg.fixedTimeStep then
    min cfg.stepBudget (d.accumulator / cfg.fixedTimeStep).floor
  else 0

/-- The record of a frame that had to catch up. -/
def reportSlowFrame (d : FixedTickDriver) : FixedTickDriver :=
  if d.stepsThisFrame > 1 then
    d.tell (.emit (.slowStep
      (GameplayEvent.rounded (d.stepsThisFrame * cfg.fixedTimeStep * 1000000))
      d.stepsThisFrame))
  else d

/-- The record of a clamped gap; its conversion is only made for a sink. -/
def emitFrameGapClamped (d : FixedTickDriver) (rawDelta : Rat) :
    Option FixedTickDriver :=
  if d.events.isNone then some d
  else (checkedInt (GameplayEvent.rounded (rawDelta * 1000000))).map
    fun rawMicroseconds => d.tell (.emit (.frameGapClamped rawMicroseconds))

/-- Open a rendered frame. The flag is the answer, `none` is a trap. -/
def beginFrame (d : FixedTickDriver) (currentTime : TimeInterval) :
    Option (FixedTickDriver × Bool) :=
  let d := d.reportSlowFrame cfg
  match currentTime with
  | .notFinite => some (d, false)
  | .finite currentTime =>
      if d.hasReferenceTime then
        let rawDelta := currentTime - d.previousUpdateTime
        let d := { d with
          previousUpdateTime := currentTime
          stepsThisFrame := 0 }
        if rawDelta < 0 then some (d, false)
        else
          let clamped := min rawDelta cfg.maximumFrameTime
          (if rawDelta > cfg.maximumFrameTime then
            d.emitFrameGapClamped rawDelta else some d).map fun d =>
              ({ d with accumulator := d.accumulator + clamped }, true)
      else
        -- the first reading is only a reference: no step before it
        some ({ d with
          previousUpdateTime := currentTime
          hasReferenceTime := true
          stepsThisFrame := 0 }, false)

/-- Pay for one step; `none` refuses. -/
def beginStep (d : FixedTickDriver) (zone : Int) : Option FixedTickDriver :=
  if d.accumulator ≥ cfg.fixedTimeStep ∧ d.stepsThisFrame < cfg.stepBudget then
    some ({ d with
      accumulator := d.accumulator - cfg.fixedTimeStep
      stepsThisFrame := d.stepsThisFrame + 1
      stepCount := d.stepCount + 1 }.tell (.beginTick zone))
  else none

/-- Discard the charge. The reference time stays. -/
def reset (d : FixedTickDriver) (reason : GameplayAccumulatorResetReason) :
    FixedTickDriver :=
  if cfg.resetAccumulatorOnZoneTransition then
    let discarded := d.accumulator
    { d with accumulator := 0, stepsThisFrame := 0 }.tell
      (.emit (.accumulatorReset reason
        (GameplayEvent.rounded (discarded * 1000000))
        (discarded / cfg.fixedTimeStep).floor))
  else d

end FixedTickDriver

-- ================================================================ frames

/-- What the driver sees of a fixed update. -/
inductive StepAct where
  | reset (reason : GameplayAccumulatorResetReason)
  | emit (call : Call)

/-- A fixed step: the zone `beginStep` is called with, then the update. -/
structure FixedStep where
  zone : Int
  acts : List StepAct

/-- A rendered frame: the clock, and the steps the game would take in it,
should the driver grant them. -/
structure RenderedFrame where
  currentTime : TimeInterval
  body : Nat → FixedStep

/-- A step that was granted, with the charges its resets threw away. -/
structure Executed where
  step : FixedStep
  discarded : List Rat

namespace FixedTickDriver

variable (cfg : Settings)

/-- The fixed update, as far as the driver sees it. -/
def fixedUpdate (d : FixedTickDriver) :
    List StepAct → FixedTickDriver × List Rat
  | [] => (d, [])
  | .reset reason :: rest =>
      let after := d.reset cfg reason
      let result := fixedUpdate after rest
      (result.1, (d.accumulator - after.accumulator) :: result.2)
  | .emit call :: rest => fixedUpdate (d.tell (.emit call)) rest

@[simp] theorem tell_accumulator (d : FixedTickDriver) (call : SinkCall) :
    (d.tell call).accumulator = d.accumulator := rfl

@[simp] theorem tell_stepsThisFrame (d : FixedTickDriver) (call : SinkCall) :
    (d.tell call).stepsThisFrame = d.stepsThisFrame := rfl

@[simp] theorem tell_stepCount (d : FixedTickDriver) (call : SinkCall) :
    (d.tell call).stepCount = d.stepCount := rfl

/-- How many steps the charge buys: what the loop runs out of. -/
def charge (d : FixedTickDriver) : Nat :=
  (d.accumulator / cfg.fixedTimeStep).floor.toNat

variable {cfg}

/-- A driver without a charge keeps none. -/
theorem reset_empty {d : FixedTickDriver} (h : d.accumulator = 0)
    (reason : GameplayAccumulatorResetReason) :
    (d.reset cfg reason).accumulator = 0 := by
  unfold reset
  split
  · rfl
  · exact h

theorem fixedUpdate_empty (acts : List StepAct) {d : FixedTickDriver}
    (h : d.accumulator = 0) : (d.fixedUpdate cfg acts).1.accumulator = 0 := by
  induction acts generalizing d with
  | nil => exact h
  | cons act rest ih =>
      cases act with
      | reset reason => exact ih (reset_empty h reason)
      | emit call => exact ih h

/-- A fixed update leaves no charge, or the charge it found. -/
theorem fixedUpdate_accumulator (acts : List StepAct) (d : FixedTickDriver) :
    (d.fixedUpdate cfg acts).1.accumulator = 0
      ∨ (d.fixedUpdate cfg acts).1.accumulator = d.accumulator := by
  induction acts generalizing d with
  | nil => exact .inr rfl
  | cons act rest ih =>
      cases act with
      | reset reason =>
          by_cases hflag : cfg.resetAccumulatorOnZoneTransition = true
          · have hempty : (d.reset cfg reason).accumulator = 0 := by
              simp [reset, hflag]
            exact .inl (fixedUpdate_empty rest hempty)
          · have hsame : d.reset cfg reason = d := by simp [reset, hflag]
            have h := ih d
            simp only [fixedUpdate, hsame]
            exact h
      | emit call => exact ih (d.tell (.emit call))

/-- A step that is granted takes at least a step's time off the charge. -/
theorem charge_decreases {d granted after : FixedTickDriver} {zone : Int}
    (hgrant : d.beginStep cfg zone = some granted)
    (hafter : after.accumulator = 0
      ∨ after.accumulator = granted.accumulator) :
    after.charge cfg < d.charge cfg := by
  unfold beginStep at hgrant
  split at hgrant
  case isFalse => cases hgrant
  case isTrue h =>
    obtain rfl := Option.some.inj hgrant
    have hpos := cfg.step_pos
    have hone : 1 ≤ d.accumulator / cfg.fixedTimeStep := by
      rw [le_div_iff₀ hpos, one_mul]
      exact h.1
    have hfloor : 1 ≤ (d.accumulator / cfg.fixedTimeStep).floor := by
      rw [Rat.le_floor_iff]
      exact_mod_cast hone
    unfold charge
    rcases hafter with hzero | hrest
    · have hnone : (0 / cfg.fixedTimeStep : Rat).floor = 0 := by
        rw [zero_div]
        rfl
      rw [hzero, hnone]
      omega
    · have hless : (after.accumulator / cfg.fixedTimeStep).floor
          = (d.accumulator / cfg.fixedTimeStep).floor - 1 := by
        rw [hrest, tell_accumulator, sub_div, div_self (ne_of_gt hpos)]
        exact Rat.floor_sub_one
      rw [hless]
      omega

variable (cfg)

/-- Steps until one is refused. `k` is the index of the next one. -/
def catchUp (body : Nat → FixedStep) (k : Nat) (d : FixedTickDriver) :
    FixedTickDriver × List Executed :=
  match hgrant : d.beginStep cfg (body k).zone with
  | none => (d, [])
  | some granted =>
      let updated := granted.fixedUpdate cfg (body k).acts
      let rest := catchUp body (k + 1) updated.1
      (rest.1, ⟨body k, updated.2⟩ :: rest.2)
termination_by d.charge cfg
decreasing_by exact charge_decreases hgrant (fixedUpdate_accumulator _ _)

/-- One rendered frame, with the steps it took. -/
def update (d : FixedTickDriver) (frame : RenderedFrame) :
    Option (FixedTickDriver × List Executed) :=
  (d.beginFrame cfg frame.currentTime).map fun
    | (d, true) => (d.tell .beginFrame).catchUp cfg frame.body 0
    | (d, false) => (d, [])

end FixedTickDriver

end Exolon

/-
The producers' vocabulary: one helper a wire name.

A helper takes the values a call site means and owns the lanes they
travel in. Each is one `emit`; `emitFlowChange` also tells the sink its
new flow state first. `Call` is a call of any helper with its arguments,
and the log's own heartbeat.

`Call.meaning` is the payload the arguments ask for, written from the
arguments alone: no lane, no word, no bit offset. `Call.Fits` is the range
of the lanes that carry them.
-/
import Exolon.CoreGraphics
import Exolon.EventLog.Lanes
import Exolon.EventLog.Lines

namespace Exolon

/-- What a helper asks the sink for: one record, after the flow state it
sets, if it sets one. -/
structure Emission where
  kind : GameplayEventKind
  entity : UInt16
  a : Int16
  b : Int16
  c : Int16
  d : Int16
  flow : Option GameFlowState

namespace GameplayEventSink

open GameplayEvent GameplayWireEnum

-- =============================================================== helpers

/-- The hot path: lanes that are not given are zero. -/
def emit (kind : GameplayEventKind) (entity : UInt16 := 0)
    (a b c d : Int16 := 0) : Emission where
  kind := kind
  entity := entity
  a := a
  b := b
  c := c
  d := d
  flow := none

/-- A flag in a lane of its own. -/
def flagLane (flag : Bool) : Int16 := if flag then 1 else 0

def emitPosition (kind : GameplayEventKind) (point : CGPoint)
    (entity : UInt16 := 0) (extra extra2 : Int16 := 0) : Emission :=
  emit kind entity (q point.x) (q point.y) extra extra2

def emitActionEdge (action : GameAction) (source : InputSource)
    (pressed : Bool) (heldMilliseconds : Int) : Emission :=
  emit .inputActionEdge
    (GameplayPack.edge (wireCode action) (wireCode source))
    (truncating (min 32767 (max 0 heldMilliseconds))) (flagLane pressed)

def emitPausePressConsumed : Emission := emit .inputPauseConsumed 0 1

def emitContextualConsume (kind : GameplayContextualAction)
    (jumpSuppressed : Bool) : Emission :=
  emit .inputContextualConsumed (wireCode kind) (flagLane jumpSuppressed)

def emitMotion (state : PlayerMotionState) (grounded : Bool)
    (facing : PlayerFacing) (exoskeleton : Bool) (position : CGPoint)
    (velocityX velocityY : Rat) : Emission :=
  emit .playerMotion
    (GameplayPack.motion (wireCode state) grounded (wireCode facing)
      exoskeleton)
    (q position.x) (q position.y) (q velocityX) (q velocityY)

def emitJump (position : CGPoint) (velocity : Rat)
    (groundedBefore afterTeleport : Bool) : Emission :=
  emit .playerJump (GameplayPack.jumpWitness groundedBefore afterTeleport)
    (q position.x) (q position.y) (q velocity)

def emitLand (position : CGPoint) (fallSpeed : Rat)
    (support : GameplaySupport) : Emission :=
  emit .playerLand (wireCode support) (q position.x) (q position.y)
    (q fallSpeed)

def emitCrouchEdge (begins : Bool) (position : CGPoint) : Emission :=
  emitPosition (if begins then .playerCrouchBegin else .playerCrouchEnd)
    position

def emitExoskeleton (enabled : Bool) (cause : GameplayExoskeletonCause) :
    Emission :=
  emit .playerExoskeleton (wireCode cause) (flagLane enabled)

def emitBlasterShot (origin : CGPoint) (facing : PlayerFacing)
    (double : Bool) (ammoBefore ammoAfter : Int) : Emission :=
  emit .playerShootBlaster (GameplayPack.blaster (wireCode facing) double)
    (q origin.x) (q origin.y) (truncating ammoBefore)
    (truncating ammoAfter)

def emitShootDenied (reason : GameplayShootDeniedReason) (ammo : Int) :
    Emission :=
  emit .playerShootDenied (wireCode reason) (truncating ammo)

def emitGrenadeThrow (origin : CGPoint) (direction : PlayerFacing)
    (grenadesBefore grenadesAfter : Int) (blockedByOneInFlight : Bool) :
    Emission :=
  emit .playerThrowGrenade
    (GameplayPack.grenadeThrow (wireCode direction) blockedByOneInFlight)
    (q origin.x) (q origin.y) (truncating grenadesBefore)
    (truncating grenadesAfter)

/-- `from` and `to` of the source. -/
def emitTeleport (source target : CGPoint) (portalIndex : Int)
    (jumpLatchHeld : Bool) : Emission :=
  emit .playerTeleport (GameplayPack.teleport portalIndex jumpLatchHeld)
    (q source.x) (q source.y) (q target.x) (q target.y)

def emitDeathBegin (position : CGPoint) (lives ammo grenades : Int) :
    Emission :=
  emit .playerDeathBegin (truncatingWord grenades) (q position.x)
    (q position.y) (truncating lives) (truncating ammo)

def emitDeathLanded (position : CGPoint) (groundTicks : Int) : Emission :=
  emit .playerDeathLanded 0 (q position.x) (q position.y)
    (truncating groundTicks)

def emitDeathSettled (livesBefore livesAfter invulnerabilityTicks
    settleTicks : Int) (checkpointSaved : Bool) : Emission :=
  emit .playerDeathSettled (GameplayPack.settled checkpointSaved)
    (truncating livesBefore) (truncating livesAfter)
    (truncating invulnerabilityTicks) (truncating settleTicks)

def emitGameOver (points highScore : Int) (checkpointCleared : Bool) :
    Emission :=
  emit .gameGameOver (GameplayPack.gameOver checkpointCleared)
    (split points).1 (split points).2 (split highScore).1
    (split highScore).2

def emitBlockedHit (cause : GameplayDamageCause)
    (invulnerabilityMicroseconds : Int) (testInvulnerability : Bool) :
    Emission :=
  let split := split (max 0 invulnerabilityMicroseconds)
  emit .damagePlayerBlocked 0 split.1 split.2
    (lane (GameplayPack.blocked (wireCode cause) testInvulnerability))

def emitPlayerHit (cause : GameplayDamageCause) (position : CGPoint)
    (flowBefore flowAfter : GameFlowState) (lives : Int) : Emission :=
  emit .damagePlayerHit 0 (q position.x) (q position.y)
    (lane (GameplayPack.hit (wireCode cause) (wireCode flowBefore)
      (wireCode flowAfter)))
    (truncating lives)

def emitPickupCollected (kind : GameplayPickupKind)
    (countBefore countAfter : Int) (origin : CGPoint) : Emission :=
  emit .pickupCollect (wireCode kind) (q origin.x) (q origin.y)
    (truncating countBefore) (truncating countAfter)

def emitDoubleLauncherBonus (points : Int) (launcherObjectID : UInt16)
    (origin : CGPoint) (launcherActiveAfter : Bool) : Emission :=
  emit .bonusDoubleLauncher launcherObjectID (truncating points)
    (q origin.x) (q origin.y) (flagLane launcherActiveAfter)

def emitStageBoundaryPoints (points livesBefore livesAfter : Int)
    (ammoReset : Bool) : Emission :=
  emit .bonusStagePoints
    (GameplayPack.stagePoints livesBefore livesAfter ammoReset)
    (split points).1 (split points).2

def emitStageAwardComponent (component : GameplayStageComponent)
    (points : Int) : Emission :=
  emit .bonusStageComponent (wireCode component) (truncating points)

def emitStageBoundarySuppressed (reason : GameplayStageSuppressionReason) :
    Emission :=
  emit .bonusStageBoundarySuppressed (wireCode reason)

def emitScoreAwarded (points pointsBefore : Int)
    (reason : GameplayScoreReason) : Emission :=
  emit .scoreAwarded (wireCode reason) (truncating points)
    (split pointsBefore).1 (split pointsBefore).2

def emitHighScoreSaved (value : Int) : Emission :=
  emit .scoreHighScoreSaved 0 (split value).1 (split value).2

/-- `from` and `to` of the source. The sink learns its flow state here. -/
def emitFlowChange (source target : GameFlowState)
    (cause : GameplayFlowCause) : Emission :=
  { emit .stateFlow 0 (lane (wireCode source)) (lane (wireCode target))
      (lane (wireCode cause)) with
    flow := some target }

def emitZoneLoad (cause : GameplayZoneLoadCause) : Emission :=
  emit .stateZoneLoad (wireCode cause)

def emitZoneLoaded (solidCount : Int) (spawnCenter : CGPoint)
    (groundY : Rat) (invulnerabilityTicks : Int) (carriedY : Bool) :
    Emission :=
  emit .stateZoneLoaded
    (GameplayPack.zoneLoaded invulnerabilityTicks carriedY)
    (truncating solidCount) (q spawnCenter.x) (q spawnCenter.y) (q groundY)

def emitZoneExit (triggerX playerX : Rat) (hasPlayableNextLevel : Bool) :
    Emission :=
  emit .stateZoneExit (if hasPlayableNextLevel then 1 else 0) (q triggerX)
    (q playerX)

def emitZoneTransition (toZone accumulatorMicroseconds pendingSteps : Int) :
    Emission :=
  emit .stateZoneTransition (truncatingWord toZone)
    (split accumulatorMicroseconds).1 (split accumulatorMicroseconds).2
    (truncating pendingSteps)

def emitContentComplete (points : Int) (final hasNextLevel : Bool) :
    Emission :=
  emit .stateContentComplete
    (GameplayPack.contentComplete final hasNextLevel)
    (split points).1 (split points).2

def emitTitleEnter (highScore : Int) (hasSavedCheckpoint : Bool) :
    Emission :=
  emit .stateTitleEnter (GameplayPack.titleEnter hasSavedCheckpoint)
    (split highScore).1 (split highScore).2

def emitCheckpointSaved (ammo grenades lives points : Int) : Emission :=
  emit .stateCheckpointSaved (GameplayPack.checkpoint ammo grenades lives)
    0 (split points).1 (split points).2

def emitCheckpointCleared (reason : GameplayCheckpointClearedReason) :
    Emission :=
  emit .stateCheckpointCleared (wireCode reason)

def emitPauseChanged (entering : Bool) (stateBefore : GameFlowState)
    (selectedIndex : Int) : Emission :=
  emit (if entering then .statePauseEnter else .statePauseExit) 0
    (lane (wireCode stateBefore)) (truncating selectedIndex)

def emitRunRestarted (discardedPoints : Int) : Emission :=
  emit .stateRestart 0 (split discardedPoints).1 (split discardedPoints).2

def emitCheatInvulnerability (enabled : Bool) (menuIndex : Int) : Emission :=
  emit .stateCheatInvulnerability 0 (flagLane enabled)
    (truncating menuIndex)

def emitFrameGapClamped (rawMicroseconds : Int) : Emission :=
  emit .tickFrameGapClamped 0 (split rawMicroseconds).1
    (split rawMicroseconds).2

def emitAccumulatorReset (reason : GameplayAccumulatorResetReason)
    (discardedMicroseconds discardedSteps : Int) : Emission :=
  emit .tickAccumulatorReset (wireCode reason)
    (split discardedMicroseconds).1 (split discardedMicroseconds).2
    (truncating discardedSteps)

def emitSlowStep (stepMicroseconds stepsThisFrame : Int) : Emission :=
  emit .tickSlowStep 0 (split stepMicroseconds).1 (split stepMicroseconds).2
    (truncating stepsThisFrame)

def emitLauncherFired (objectID : UInt16) (origin : CGPoint)
    (muzzleY : Rat) : Emission :=
  emit .entityLauncherFire objectID (q origin.x) (q origin.y) (q muzzleY)

/-- The heartbeat, which the log appends itself. -/
def heartbeat (appendedTotal droppedTotal : Nat) (flow : GameFlowState) :
    Emission :=
  let events := split32 (Int32.ofNat appendedTotal)
  let drops := split32 (Int32.ofNat droppedTotal)
  emit .tickHeartbeat (wireCode flow) events.1 events.2 drops.1 drops.2

end GameplayEventSink

-- ================================================================= calls

/-- A call of a helper with its arguments, or the log's heartbeat. -/
inductive Call where
  | actionEdge (action : GameAction) (source : InputSource) (pressed : Bool)
      (heldMilliseconds : Int)
  | pausePressConsumed
  | contextualConsume (kind : GameplayContextualAction)
      (jumpSuppressed : Bool)
  | motion (state : PlayerMotionState) (grounded : Bool)
      (facing : PlayerFacing) (exoskeleton : Bool) (position : CGPoint)
      (velocityX velocityY : Rat)
  | jump (position : CGPoint) (velocity : Rat)
      (groundedBefore afterTeleport : Bool)
  | land (position : CGPoint) (fallSpeed : Rat) (support : GameplaySupport)
  | crouchEdge (begins : Bool) (position : CGPoint)
  | exoskeleton (enabled : Bool) (cause : GameplayExoskeletonCause)
  | blasterShot (origin : CGPoint) (facing : PlayerFacing) (double : Bool)
      (ammoBefore ammoAfter : Int)
  | shootDenied (reason : GameplayShootDeniedReason) (ammo : Int)
  | grenadeThrow (origin : CGPoint) (direction : PlayerFacing)
      (grenadesBefore grenadesAfter : Int) (blockedByOneInFlight : Bool)
  | teleport (source target : CGPoint) (portalIndex : Int)
      (jumpLatchHeld : Bool)
  | deathBegin (position : CGPoint) (lives ammo grenades : Int)
  | deathLanded (position : CGPoint) (groundTicks : Int)
  | deathSettled (livesBefore livesAfter invulnerabilityTicks
      settleTicks : Int) (checkpointSaved : Bool)
  | gameOver (points highScore : Int) (checkpointCleared : Bool)
  | blockedHit (cause : GameplayDamageCause)
      (invulnerabilityMicroseconds : Int) (testInvulnerability : Bool)
  | playerHit (cause : GameplayDamageCause) (position : CGPoint)
      (flowBefore flowAfter : GameFlowState) (lives : Int)
  | pickupCollected (kind : GameplayPickupKind)
      (countBefore countAfter : Int) (origin : CGPoint)
  | doubleLauncherBonus (points : Int) (launcherObjectID : UInt16)
      (origin : CGPoint) (launcherActiveAfter : Bool)
  | stageBoundaryPoints (points livesBefore livesAfter : Int)
      (ammoReset : Bool)
  | stageAwardComponent (component : GameplayStageComponent) (points : Int)
  | stageBoundarySuppressed (reason : GameplayStageSuppressionReason)
  | scoreAwarded (points pointsBefore : Int) (reason : GameplayScoreReason)
  | highScoreSaved (value : Int)
  | flowChange (source target : GameFlowState) (cause : GameplayFlowCause)
  | zoneLoad (cause : GameplayZoneLoadCause)
  | zoneLoaded (solidCount : Int) (spawnCenter : CGPoint) (groundY : Rat)
      (invulnerabilityTicks : Int) (carriedY : Bool)
  | zoneExit (triggerX playerX : Rat) (hasPlayableNextLevel : Bool)
  | zoneTransition (toZone accumulatorMicroseconds pendingSteps : Int)
  | contentComplete (points : Int) (final hasNextLevel : Bool)
  | titleEnter (highScore : Int) (hasSavedCheckpoint : Bool)
  | checkpointSaved (ammo grenades lives points : Int)
  | checkpointCleared (reason : GameplayCheckpointClearedReason)
  | pauseChanged (entering : Bool) (stateBefore : GameFlowState)
      (selectedIndex : Int)
  | runRestarted (discardedPoints : Int)
  | cheatInvulnerability (enabled : Bool) (menuIndex : Int)
  | frameGapClamped (rawMicroseconds : Int)
  | accumulatorReset (reason : GameplayAccumulatorResetReason)
      (discardedMicroseconds discardedSteps : Int)
  | slowStep (stepMicroseconds stepsThisFrame : Int)
  | launcherFired (objectID : UInt16) (origin : CGPoint) (muzzleY : Rat)
  | heartbeat (appendedTotal droppedTotal : Nat) (flow : GameFlowState)

namespace Call

open GameplayEvent GameplayEventSink

/-- What the helper called asks the sink for. -/
def emission : Call → Emission
  | actionEdge action source pressed held =>
      emitActionEdge action source pressed held
  | pausePressConsumed => emitPausePressConsumed
  | contextualConsume kind suppressed => emitContextualConsume kind suppressed
  | motion state grounded facing suit position vx vy =>
      emitMotion state grounded facing suit position vx vy
  | jump position velocity grounded teleported =>
      emitJump position velocity grounded teleported
  | land position fallSpeed support => emitLand position fallSpeed support
  | crouchEdge begins position => emitCrouchEdge begins position
  | exoskeleton enabled cause => emitExoskeleton enabled cause
  | blasterShot origin facing double before after =>
      emitBlasterShot origin facing double before after
  | shootDenied reason ammo => emitShootDenied reason ammo
  | grenadeThrow origin direction before after blocked =>
      emitGrenadeThrow origin direction before after blocked
  | teleport source target portal held =>
      emitTeleport source target portal held
  | deathBegin position lives ammo grenades =>
      emitDeathBegin position lives ammo grenades
  | deathLanded position ticks => emitDeathLanded position ticks
  | deathSettled before after invulnerability settle saved =>
      emitDeathSettled before after invulnerability settle saved
  | gameOver points high cleared => emitGameOver points high cleared
  | blockedHit cause invulnerability test =>
      emitBlockedHit cause invulnerability test
  | playerHit cause position before after lives =>
      emitPlayerHit cause position before after lives
  | pickupCollected kind before after origin =>
      emitPickupCollected kind before after origin
  | doubleLauncherBonus points launcher origin active =>
      emitDoubleLauncherBonus points launcher origin active
  | stageBoundaryPoints points before after reset =>
      emitStageBoundaryPoints points before after reset
  | stageAwardComponent component points =>
      emitStageAwardComponent component points
  | stageBoundarySuppressed reason => emitStageBoundarySuppressed reason
  | scoreAwarded points before reason => emitScoreAwarded points before reason
  | highScoreSaved value => emitHighScoreSaved value
  | flowChange source target cause => emitFlowChange source target cause
  | zoneLoad cause => emitZoneLoad cause
  | zoneLoaded solids spawn ground invulnerability carried =>
      emitZoneLoaded solids spawn ground invulnerability carried
  | zoneExit trigger player next => emitZoneExit trigger player next
  | zoneTransition toZone accumulator pending =>
      emitZoneTransition toZone accumulator pending
  | contentComplete points final next => emitContentComplete points final next
  | titleEnter high saved => emitTitleEnter high saved
  | checkpointSaved ammo grenades lives points =>
      emitCheckpointSaved ammo grenades lives points
  | checkpointCleared reason => emitCheckpointCleared reason
  | pauseChanged entering state index => emitPauseChanged entering state index
  | runRestarted points => emitRunRestarted points
  | cheatInvulnerability enabled index =>
      emitCheatInvulnerability enabled index
  | frameGapClamped raw => emitFrameGapClamped raw
  | accumulatorReset reason discarded steps =>
      emitAccumulatorReset reason discarded steps
  | slowStep step steps => emitSlowStep step steps
  | launcherFired object origin muzzle => emitLauncherFired object origin muzzle
  | heartbeat events drops flow =>
      GameplayEventSink.heartbeat events drops flow

-- =============================================================== meaning

/-- The word a case is printed as. -/
def wordOf {α : Type} [GameplayWireEnum α] (x : α) : Text :=
  (GameplayWireEnum.label x).toList

/-- A coordinate in quarter pixels. -/
def quarters (x : Rat) : Int := rounded (4 * x)

/-- A count of fixed steps in microseconds. -/
def stepMicroseconds (steps : Int) : Int := rounded (steps * 1000000 / 60)

/-- The level after a zone, if one is named. -/
def nextLevel (present : Bool) (zone : UInt16) : Text :=
  if present then GameplayWire.resource (UInt16.ofNat (zone.toNat + 1))
  else []

/-- The payload the arguments ask for. -/
def meaning (tick : UInt32) (zone : UInt16) : Call → List Field
  | actionEdge action source pressed held => [
      .label "action" (wordOf action),
      .flag "pressed" pressed,
      .label "source" (wordOf source),
      .number "held_us" (held * 1000)]
  | pausePressConsumed => [.flag "pending" true]
  | contextualConsume kind suppressed => [
      .label "kind" (wordOf kind),
      .flag "jump_suppressed" suppressed]
  | motion state grounded facing suit position vx vy => [
      .number "zone" zone.toNat,
      .number "x" (quarters position.x),
      .number "y" (quarters position.y),
      .number "vx" (quarters vx),
      .number "vy" (quarters vy),
      .flag "grounded" grounded,
      .label "motion_state" (wordOf state),
      .label "facing" (wordOf facing),
      .flag "exoskeleton" suit]
  | jump position velocity grounded teleported => [
      .number "x" (quarters position.x),
      .number "y" (quarters position.y),
      .number "velocity" (quarters velocity),
      .flag "grounded_before" grounded,
      .flag "after_teleport" teleported]
  | land position fallSpeed support => [
      .number "x" (quarters position.x),
      .number "y" (quarters position.y),
      .number "vy_before" (quarters fallSpeed),
      .label "support" (wordOf support)]
  | crouchEdge _ position => [
      .number "x" (quarters position.x),
      .number "y" (quarters position.y)]
  | exoskeleton enabled cause => [
      .flag "enabled" enabled,
      .label "cause" (wordOf cause)]
  | blasterShot origin facing double before after => [
      .number "x" (quarters origin.x),
      .number "y" (quarters origin.y),
      .label "facing" (wordOf facing),
      .flag "double" double,
      .number "ammo_before" before,
      .number "ammo_after" after]
  | shootDenied reason ammo => [
      .label "reason" (wordOf reason),
      .number "ammo" ammo]
  | grenadeThrow origin direction before after blocked => [
      .number "x" (quarters origin.x),
      .number "y" (quarters origin.y),
      .label "direction" (wordOf direction),
      .number "grenades_before" before,
      .number "grenades_after" after,
      .label "blocked_by"
        (if blocked then "one_in_flight".toList else "none".toList)]
  | teleport source target portal held => [
      .point "from" (quarters source.x) (quarters source.y),
      .point "to" (quarters target.x) (quarters target.y),
      .number "portal_index" portal,
      .flag "jump_latch_held" held]
  | deathBegin position lives ammo grenades => [
      .number "x" (quarters position.x),
      .number "y" (quarters position.y),
      .number "lives" lives,
      .number "ammo" ammo,
      .number "grenades" grenades]
  | deathLanded position ticks => [
      .number "x" (quarters position.x),
      .number "y" (quarters position.y),
      .number "ground_ticks" ticks]
  | deathSettled before after invulnerability settle saved => [
      .number "delay_us" (stepMicroseconds settle),
      .number "lives_before" before,
      .number "lives_after" after,
      .number "invulnerability_us" (stepMicroseconds invulnerability),
      .flag "checkpoint_saved" saved]
  | gameOver points high cleared => [
      .number "points" points,
      .number "high_score" high,
      .number "zone" zone.toNat,
      .flag "checkpoint_cleared" cleared]
  | blockedHit cause invulnerability test => [
      .label "cause" (wordOf cause),
      .number "invulnerability_us" invulnerability,
      .flag "test_invulnerability" test]
  | playerHit cause position before after lives => [
      .label "cause" (wordOf cause),
      .number "x" (quarters position.x),
      .number "y" (quarters position.y),
      .label "flow_state_before" (wordOf before),
      .label "flow_state_after" (wordOf after),
      .number "lives" lives]
  | pickupCollected kind before after origin => [
      .label "kind" (wordOf kind),
      .number "count_before" before,
      .number "count_after" after,
      .number "x" (quarters origin.x),
      .number "y" (quarters origin.y)]
  | doubleLauncherBonus points launcher origin active => [
      .number "points" points,
      .number "completed_zone" zone.toNat,
      .string "launcher_object_id" (natText launcher.toNat),
      .number "x" (quarters origin.x),
      .number "y" (quarters origin.y),
      .flag "launcher_active_after" active]
  | stageBoundaryPoints points before after reset => [
      .number "completed_zone" zone.toNat,
      .number "points" points,
      .number "lives_before" before,
      .number "lives_after" after,
      .flag "ammo_reset" reset]
  | stageAwardComponent component points => [
      .number "completed_zone" zone.toNat,
      .label "component_id" (wordOf component),
      .number "points" points]
  | stageBoundarySuppressed reason => [
      .number "completed_zone" zone.toNat,
      .label "reason" (wordOf reason)]
  | scoreAwarded points before reason => [
      .number "points" points,
      .label "reason" (wordOf reason),
      .number "points_before" before,
      .number "points_after" (min 999999 (before + points)),
      .flag "clamped" (before + points > 999999)]
  | highScoreSaved value => [.number "value" value]
  | flowChange source target cause => [
      .label "from" (wordOf source),
      .label "to" (wordOf target),
      .label "cause" (wordOf cause)]
  | zoneLoad cause => [
      .string "resource" (GameplayWire.resource zone),
      .number "zone" zone.toNat,
      .label "cause" (wordOf cause)]
  | zoneLoaded solids spawn ground invulnerability carried => [
      .string "resource" (GameplayWire.resource zone),
      .number "zone" zone.toNat,
      .number "solid_count" solids,
      .number "spawn_x" (quarters spawn.x),
      .number "spawn_y" (quarters spawn.y),
      .number "ground_y" (quarters ground),
      .number "invulnerability_us" (stepMicroseconds invulnerability),
      .flag "carried_y" carried]
  | zoneExit trigger player next => [
      .number "zone" zone.toNat,
      .number "trigger_x" (quarters trigger),
      .number "player_x" (quarters player),
      .string "next_level" (nextLevel next zone)]
  | zoneTransition toZone accumulator pending => [
      .number "from_zone" zone.toNat,
      .number "to_zone" toZone,
      .number "accumulator_us" accumulator,
      .number "pending_steps" pending]
  | contentComplete points final next => [
      .number "zone" zone.toNat,
      .string "next_level" (nextLevel next zone),
      .number "points" points,
      .flag "final" final]
  | titleEnter high saved => [
      .number "high_score" high,
      .flag "has_saved_checkpoint" saved]
  | checkpointSaved ammo grenades lives points => [
      .string "resource" (GameplayWire.resource zone),
      .number "ammo" ammo,
      .number "grenades" grenades,
      .number "points" points,
      .number "lives" lives]
  | checkpointCleared reason => [.label "reason" (wordOf reason)]
  | pauseChanged _ state index => [
      .label "state_before" (wordOf state),
      .number "selected_index" index]
  | runRestarted points => [
      .number "from_zone" zone.toNat,
      .number "points" points]
  | cheatInvulnerability enabled index => [
      .flag "enabled" enabled,
      .number "menu_index" index]
  | frameGapClamped raw => [
      .number "raw_frame_time_us" raw,
      .number "clamp_us" 250000,
      .number "lost_us" (max 0 (raw - 250000))]
  | accumulatorReset reason discarded steps => [
      .label "reason" (wordOf reason),
      .number "discarded_us" discarded,
      .number "discarded_steps" steps]
  | slowStep step steps => [
      .number "step_us" step,
      .number "budget_us" 16667,
      .number "steps_this_frame" steps]
  | launcherFired object origin muzzle => [
      .string "object_id" (natText object.toNat),
      .label "kind" "double_launcher".toList,
      .number "x" (quarters origin.x),
      .number "y" (quarters origin.y),
      .number "muzzle_y" (quarters muzzle)]
  | heartbeat events drops flow => [
      .number "uptime_us" (stepMicroseconds tick.toNat),
      .number "events" events,
      .number "drops" drops,
      .number "zone" zone.toNat,
      .label "flow_state" (wordOf flow)]

-- ================================================================= ranges

/-- The arguments are in the range of the lanes that carry them. -/
def Fits : Call → Prop
  | actionEdge _ _ _ held => FitsLane held
  | motion _ _ _ _ position vx vy => FitsPixels position.x
      ∧ FitsPixels position.y ∧ FitsPixels vx ∧ FitsPixels vy
  | jump position velocity _ _ => FitsPixels position.x
      ∧ FitsPixels position.y ∧ FitsPixels velocity
  | land position fallSpeed _ => FitsPixels position.x
      ∧ FitsPixels position.y ∧ FitsPixels fallSpeed
  | crouchEdge _ position => FitsPixels position.x ∧ FitsPixels position.y
  | blasterShot origin _ _ before after => FitsPixels origin.x
      ∧ FitsPixels origin.y ∧ FitsLane before ∧ FitsLane after
  | shootDenied _ ammo => FitsLane ammo
  | grenadeThrow origin _ before after _ => FitsPixels origin.x
      ∧ FitsPixels origin.y ∧ FitsLane before ∧ FitsLane after
  | teleport source target portal _ => FitsPixels source.x
      ∧ FitsPixels source.y ∧ FitsPixels target.x ∧ FitsPixels target.y
      ∧ FitsField 8 portal
  | deathBegin position lives ammo grenades => FitsPixels position.x
      ∧ FitsPixels position.y ∧ FitsLane lives ∧ FitsLane ammo
      ∧ FitsWord grenades
  | deathLanded position ticks => FitsPixels position.x
      ∧ FitsPixels position.y ∧ FitsLane ticks
  | deathSettled before after invulnerability settle _ => FitsLane before
      ∧ FitsLane after ∧ FitsLane invulnerability ∧ FitsLane settle
  | gameOver points high _ => FitsTwoLanes points ∧ FitsTwoLanes high
  | blockedHit _ invulnerability _ => FitsTwoLanes invulnerability
  | playerHit _ position _ _ lives => FitsPixels position.x
      ∧ FitsPixels position.y ∧ FitsLane lives
  | pickupCollected _ before after origin => FitsPixels origin.x
      ∧ FitsPixels origin.y ∧ FitsLane before ∧ FitsLane after
  | doubleLauncherBonus points _ origin _ => FitsPixels origin.x
      ∧ FitsPixels origin.y ∧ FitsLane points
  | stageBoundaryPoints points before after _ => FitsTwoLanes points
      ∧ FitsField 4 before ∧ FitsField 4 after
  | stageAwardComponent _ points => FitsLane points
  | scoreAwarded points before _ => FitsLane points ∧ FitsTwoLanes before
  | zoneLoaded solids spawn ground invulnerability _ => FitsLane solids
      ∧ FitsPixels spawn.x ∧ FitsPixels spawn.y ∧ FitsPixels ground
      ∧ FitsField 9 invulnerability
  | zoneExit trigger player _ => FitsPixels trigger ∧ FitsPixels player
  | zoneTransition toZone accumulator pending => FitsWord toZone
      ∧ FitsTwoLanes accumulator ∧ FitsLane pending
  | checkpointSaved ammo grenades lives points => FitsField 7 ammo
      ∧ FitsField 5 grenades ∧ FitsField 4 lives ∧ FitsTwoLanes points
  | pauseChanged _ _ index | cheatInvulnerability _ index => FitsLane index
  | contentComplete points _ _ | titleEnter points _ | runRestarted points
  | highScoreSaved points | frameGapClamped points => FitsTwoLanes points
  | accumulatorReset _ discarded steps | slowStep discarded steps =>
      FitsTwoLanes discarded ∧ FitsLane steps
  | launcherFired _ origin muzzle => FitsPixels origin.x
      ∧ FitsPixels origin.y ∧ FitsPixels muzzle
  | heartbeat events drops _ => FitsTwoLanes events ∧ FitsTwoLanes drops
  | pausePressConsumed | contextualConsume .. | exoskeleton ..
  | stageBoundarySuppressed _ | flowChange .. | zoneLoad _
  | checkpointCleared _ => True

/-- Counts of time are not negative, and a next level is only named before
the last zone. -/
def Sound (zone : UInt16) : Call → Prop
  | actionEdge _ _ _ held => 0 ≤ held
  | deathSettled _ _ invulnerability settle _ =>
      0 ≤ invulnerability ∧ 0 ≤ settle
  | zoneExit _ _ next | contentComplete _ _ next =>
      next = true → zone < 65535
  | _ => True

end Call

end Exolon

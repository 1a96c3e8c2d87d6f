/-
One record of the gameplay event log, and the lanes values travel in.

A record is 24 bytes: tick, frame, zone, a subject word, a kind and four
16-bit lanes. This module holds the kinds and everything that moves a
value into a lane or back: quarter-pixel quantization (`q`), the
high/low split of a 32-bit value (`split`, `join`), bit patterns (`lane`,
`word`) and the packed subject words (`GameplayPack`).

Coordinates are rationals: quantization multiplies by four and rounds,
both exact on a finite binary fraction, so nothing is lost against the
source's floating type.
-/
import Exolon.EventLog.Vocabulary

namespace Exolon

-- =============================================================== kinds

/-- The wire identity of a record. The first four are written by the log
itself. -/
inductive GameplayEventKind where
  | logBegin | logRotate | logEventsDropped | logEnd | inputActionEdge
  | inputPauseConsumed | inputContextualConsumed | playerMotion | playerJump
  | playerLand | playerCrouchBegin | playerCrouchEnd | playerExoskeleton
  | playerShootBlaster | playerShootDenied | playerThrowGrenade
  | playerTeleport | playerDeathBegin | playerDeathLanded
  | playerDeathSettled | gameGameOver | damagePlayerBlocked
  | damagePlayerHit | pickupCollect | bonusDoubleLauncher | bonusStagePoints
  | bonusStageComponent | bonusStageBoundarySuppressed | scoreAwarded
  | scoreHighScoreSaved | stateFlow | stateZoneLoad | stateZoneLoaded
  | stateZoneExit | stateZoneTransition | stateContentComplete
  | stateTitleEnter | stateCheckpointSaved | stateCheckpointCleared
  | statePauseEnter | statePauseExit | stateRestart
  | stateCheatInvulnerability | tickFrameGapClamped | tickAccumulatorReset
  | tickSlowStep | tickHeartbeat | entityLauncherFire
  deriving DecidableEq, Repr

namespace GameplayEventKind

/-- Every kind, in the order of the raw values. -/
def allCases : List GameplayEventKind := [
  .logBegin, .logRotate, .logEventsDropped, .logEnd, .inputActionEdge,
  .inputPauseConsumed, .inputContextualConsumed, .playerMotion, .playerJump,
  .playerLand, .playerCrouchBegin, .playerCrouchEnd, .playerExoskeleton,
  .playerShootBlaster, .playerShootDenied, .playerThrowGrenade,
  .playerTeleport, .playerDeathBegin, .playerDeathLanded,
  .playerDeathSettled, .gameGameOver, .damagePlayerBlocked,
  .damagePlayerHit, .pickupCollect, .bonusDoubleLauncher, .bonusStagePoints,
  .bonusStageComponent, .bonusStageBoundarySuppressed, .scoreAwarded,
  .scoreHighScoreSaved, .stateFlow, .stateZoneLoad, .stateZoneLoaded,
  .stateZoneExit, .stateZoneTransition, .stateContentComplete,
  .stateTitleEnter, .stateCheckpointSaved, .stateCheckpointCleared,
  .statePauseEnter, .statePauseExit, .stateRestart,
  .stateCheatInvulnerability, .tickFrameGapClamped, .tickAccumulatorReset,
  .tickSlowStep, .tickHeartbeat, .entityLauncherFire]

/-- Raw values are append only and never reused. -/
def rawValue : GameplayEventKind → UInt8
  | .logBegin => 1
  | .logRotate => 2
  | .logEventsDropped => 3
  | .logEnd => 4
  | .inputActionEdge => 5
  | .inputPauseConsumed => 6
  | .inputContextualConsumed => 7
  | .playerMotion => 8
  | .playerJump => 9
  | .playerLand => 10
  | .playerCrouchBegin => 11
  | .playerCrouchEnd => 12
  | .playerExoskeleton => 13
  | .playerShootBlaster => 14
  | .playerShootDenied => 15
  | .playerThrowGrenade => 16
  | .playerTeleport => 17
  | .playerDeathBegin => 18
  | .playerDeathLanded => 19
  | .playerDeathSettled => 20
  | .gameGameOver => 21
  | .damagePlayerBlocked => 22
  | .damagePlayerHit => 23
  | .pickupCollect => 24
  | .bonusDoubleLauncher => 25
  | .bonusStagePoints => 26
  | .bonusStageComponent => 27
  | .bonusStageBoundarySuppressed => 28
  | .scoreAwarded => 29
  | .scoreHighScoreSaved => 30
  | .stateFlow => 31
  | .stateZoneLoad => 32
  | .stateZoneLoaded => 33
  | .stateZoneExit => 34
  | .stateZoneTransition => 35
  | .stateContentComplete => 36
  | .stateTitleEnter => 37
  | .stateCheckpointSaved => 38
  | .stateCheckpointCleared => 39
  | .statePauseEnter => 40
  | .statePauseExit => 41
  | .stateRestart => 42
  | .stateCheatInvulnerability => 43
  | .tickFrameGapClamped => 44
  | .tickAccumulatorReset => 45
  | .tickSlowStep => 46
  | .tickHeartbeat => 47
  | .entityLauncherFire => 48

/-- The kind of a raw value, if one is assigned. -/
def ofRawValue (raw : UInt8) : Option GameplayEventKind :=
  allCases.find? fun kind => kind.rawValue == raw

/-- The stable dotted name. -/
def label : GameplayEventKind → String
  | .logBegin => "log.begin"
  | .logRotate => "log.rotate"
  | .logEventsDropped => "log.events_dropped"
  | .logEnd => "log.end"
  | .inputActionEdge => "input.action_edge"
  | .inputPauseConsumed => "input.pause_consumed"
  | .inputContextualConsumed => "input.contextual_consumed"
  | .playerMotion => "player.motion"
  | .playerJump => "player.jump"
  | .playerLand => "player.land"
  | .playerCrouchBegin => "player.crouch_begin"
  | .playerCrouchEnd => "player.crouch_end"
  | .playerExoskeleton => "player.exoskeleton"
  | .playerShootBlaster => "player.shoot_blaster"
  | .playerShootDenied => "player.shoot_denied"
  | .playerThrowGrenade => "player.throw_grenade"
  | .playerTeleport => "player.teleport"
  | .playerDeathBegin => "player.death_begin"
  | .playerDeathLanded => "player.death_landed"
  | .playerDeathSettled => "player.death_settled"
  | .gameGameOver => "game.game_over"
  | .damagePlayerBlocked => "damage.player_blocked"
  | .damagePlayerHit => "damage.player_hit"
  | .pickupCollect => "pickup.collect"
  | .bonusDoubleLauncher => "bonus.double_launcher"
  | .bonusStagePoints => "bonus.stage_points"
  | .bonusStageComponent => "bonus.stage_component"
  | .bonusStageBoundarySuppressed => "bonus.stage_boundary_suppressed"
  | .scoreAwarded => "score.awarded"
  | .scoreHighScoreSaved => "score.high_score_saved"
  | .stateFlow => "state.flow"
  | .stateZoneLoad => "state.zone_load"
  | .stateZoneLoaded => "state.zone_loaded"
  | .stateZoneExit => "state.zone_exit"
  | .stateZoneTransition => "state.zone_transition"
  | .stateContentComplete => "state.content_complete"
  | .stateTitleEnter => "state.title_enter"
  | .stateCheckpointSaved => "state.checkpoint_saved"
  | .stateCheckpointCleared => "state.checkpoint_cleared"
  | .statePauseEnter => "state.pause_enter"
  | .statePauseExit => "state.pause_exit"
  | .stateRestart => "state.restart"
  | .stateCheatInvulnerability => "state.cheat_invulnerability"
  | .tickFrameGapClamped => "tick.frame_gap_clamped"
  | .tickAccumulatorReset => "tick.accumulator_reset"
  | .tickSlowStep => "tick.slow_step"
  | .tickHeartbeat => "tick.heartbeat"
  | .entityLauncherFire => "entity.launcher_fire"

/-- The emission level a kind needs. -/
def minimumLevel : GameplayEventKind → Int
  | .playerMotion => 2
  | .stateFlow | .stateZoneLoad | .stateZoneLoaded | .stateZoneExit
    | .stateZoneTransition | .stateContentComplete | .stateTitleEnter
    | .stateCheckpointSaved | .stateCheckpointCleared | .statePauseEnter
    | .statePauseExit | .stateRestart | .stateCheatInvulnerability
    | .tickFrameGapClamped | .tickAccumulatorReset | .tickSlowStep
    | .tickHeartbeat | .logBegin | .logRotate | .logEventsDropped
    | .logEnd => 0
  | .inputActionEdge | .inputPauseConsumed | .inputContextualConsumed
    | .playerJump | .playerLand | .playerCrouchBegin | .playerCrouchEnd
    | .playerExoskeleton | .playerShootBlaster | .playerShootDenied
    | .playerThrowGrenade | .playerTeleport | .playerDeathBegin
    | .playerDeathLanded | .playerDeathSettled | .gameGameOver
    | .damagePlayerBlocked | .damagePlayerHit | .pickupCollect
    | .bonusDoubleLauncher | .bonusStagePoints | .bonusStageComponent
    | .bonusStageBoundarySuppressed | .scoreAwarded | .scoreHighScoreSaved
    | .entityLauncherFire => 1

/-- The name a raw value prints as. -/
def nameText (raw : UInt8) : Text :=
  match ofRawValue raw with
  | some kind => kind.label.toList
  | none => unknownLabel raw.toNat

/-- The families whose records are pushed to the file at once. -/
def shouldFlush : GameplayEventKind → Bool
  | .logBegin | .logRotate | .logEventsDropped | .logEnd | .stateFlow
    | .stateZoneLoad | .stateZoneLoaded | .stateZoneExit
    | .stateZoneTransition | .stateContentComplete | .stateTitleEnter
    | .stateCheckpointSaved | .stateCheckpointCleared | .statePauseEnter
    | .statePauseExit | .stateRestart | .stateCheatInvulnerability
    | .tickFrameGapClamped | .tickAccumulatorReset | .tickSlowStep
    | .tickHeartbeat | .damagePlayerBlocked | .damagePlayerHit
    | .bonusDoubleLauncher | .bonusStagePoints | .bonusStageComponent
    | .bonusStageBoundarySuppressed | .gameGameOver => true
  | .inputActionEdge | .inputPauseConsumed | .inputContextualConsumed
    | .playerMotion | .playerJump | .playerLand | .playerCrouchBegin
    | .playerCrouchEnd | .playerExoskeleton | .playerShootBlaster
    | .playerShootDenied | .playerThrowGrenade | .playerTeleport
    | .playerDeathBegin | .playerDeathLanded | .playerDeathSettled
    | .pickupCollect | .scoreAwarded | .scoreHighScoreSaved
    | .entityLauncherFire => false

theorem mem_allCases (kind : GameplayEventKind) : kind ∈ allCases := by
  cases kind <;> decide

theorem ofRawValue_rawValue (kind : GameplayEventKind) :
    ofRawValue kind.rawValue = some kind := by
  cases kind <;> decide

theorem label_char (kind : GameplayEventKind) :
    ∀ c ∈ kind.label.toList, isLabelChar c = true := by
  cases kind <;> decide

/-- Every raw value prints as a label. -/
theorem nameText_char {raw : UInt8} {c : Char} (h : c ∈ nameText raw) :
    isLabelChar c = true := by
  unfold nameText at h
  cases hkind : ofRawValue raw with
  | some kind =>
      rw [hkind] at h
      exact kind.label_char c h
  | none =>
      rw [hkind] at h
      exact unknownLabel_char h

end GameplayEventKind

-- ============================================================== record

/-- One record of the ring. -/
structure GameplayEvent where
  tick : UInt32
  frame : UInt32
  zone : UInt16
  entity : UInt16
  kind : UInt8
  a : Int16
  b : Int16
  c : Int16
  d : Int16
  deriving DecidableEq, Repr

namespace GameplayEvent

def zero : GameplayEvent where
  tick := 0
  frame := 0
  zone := 0
  entity := 0
  kind := 0
  a := 0
  b := 0
  c := 0
  d := 0

-- =============================================================== lanes

/-- Round to the nearest integer, halves away from zero. -/
def rounded (x : Rat) : Int :=
  if 0 ≤ x then (x + 1 / 2).floor else -(-x + 1 / 2).floor

/-- Quarter-pixel quantization, saturating at the lane's ends. -/
def q (value : Rat) : Int16 :=
  let scaled := value * 4
  if scaled ≥ 32767 then Int16.ofInt 32767
  else if scaled ≤ -32768 then Int16.ofInt (-32768)
  else Int16.ofInt (rounded scaled)

/-- Split a 32-bit value over two lanes, high and low. -/
def split32 (value : Int32) : Int16 × Int16 :=
  ((value >>> 16).toInt16, (value &&& 0xFFFF).toInt16)

/-- Split a value clamped to the non-negative 32-bit range. -/
def split (value : Int) : Int16 × Int16 :=
  split32 (Int32.ofInt (max 0 (min 2147483647 value)))

/-- The value two lanes carry. -/
def join (high low : Int16) : Int32 :=
  (high.toInt32 <<< 16) ||| low.toUInt16.toUInt32.toInt32

/-- A word as a lane: the same bits. -/
def lane (bits : UInt16) : Int16 := bits.toInt16

/-- A lane as a word: the same bits. -/
def word (laneValue : Int16) : UInt16 := laneValue.toUInt16

/-- Keep the low sixteen bits, as a lane. -/
def truncating (value : Int) : Int16 := Int16.ofInt value

/-- Keep the low sixteen bits, as a word. -/
def truncatingWord (value : Int) : UInt16 := UInt16.ofInt value

/-- Microseconds from a step count, with the division's truncation. -/
def microseconds (steps : Int) : Int := (steps * 1000000 + 30).tdiv 60

end GameplayEvent

-- ====================================================== packed subjects

namespace GameplayPack

open GameplayEvent

/-- A flag at a bit position. -/
def bit (flag : Bool) (mask : UInt16) : UInt16 := if flag then mask else 0

/-- A masked value at a bit offset. -/
def field (value mask offset : UInt16) : UInt16 :=
  (value &&& mask) <<< offset

def motion (state : UInt16) (grounded : Bool) (facing : UInt16)
    (exoskeleton : Bool) : UInt16 :=
  (state &&& 0b111) ||| bit grounded 8 ||| field facing 1 4
    ||| bit exoskeleton 32

def edge (action source : UInt16) : UInt16 :=
  (action &&& 0b111111) ||| field source 0b11 6

def jumpWitness (groundedBefore afterTeleport : Bool) : UInt16 :=
  bit groundedBefore 1 ||| bit afterTeleport 2

def blaster (facing : UInt16) (double : Bool) : UInt16 :=
  (facing &&& 1) ||| bit double 2

def grenadeThrow (direction : UInt16) (blockedByOneInFlight : Bool) :
    UInt16 :=
  (direction &&& 1) ||| bit blockedByOneInFlight 2

def teleport (portalIndex : Int) (jumpLatchHeld : Bool) : UInt16 :=
  (truncatingWord portalIndex &&& 0xFF) ||| bit jumpLatchHeld 256

def hit (cause before after : UInt16) : UInt16 :=
  (cause &&& 0b111111) ||| field before 0b111 6
    ||| field after 0b111 9

def blocked (cause : UInt16) (testInvulnerability : Bool) : UInt16 :=
  (cause &&& 0b111111) ||| bit testInvulnerability 64

def settled (checkpointSaved : Bool) : UInt16 := bit checkpointSaved 1

def gameOver (checkpointCleared : Bool) : UInt16 := bit checkpointCleared 1

def contentComplete (final hasNextLevel : Bool) : UInt16 :=
  bit final 1 ||| bit hasNextLevel 2

def titleEnter (hasSavedCheckpoint : Bool) : UInt16 :=
  bit hasSavedCheckpoint 1

def checkpoint (ammo grenades lives : Int) : UInt16 :=
  (truncatingWord ammo &&& 0b1111111)
    ||| field (truncatingWord grenades) 0b11111 7
    ||| field (truncatingWord lives) 0b1111 12

def zoneLoaded (invulnerabilityTicks : Int) (carriedY : Bool) : UInt16 :=
  (truncatingWord invulnerabilityTicks &&& 0b111111111)
    ||| bit carriedY 512

def stagePoints (livesBefore livesAfter : Int) (ammoReset : Bool) :
    UInt16 :=
  (truncatingWord livesBefore &&& 0b1111)
    ||| field (truncatingWord livesAfter) 0b1111 4
    ||| bit ammoReset 256

end GameplayPack

end Exolon

/-
The closed vocabularies of the gameplay event log.

Every enumeration that crosses the ring travels as a small code and is
printed as a fixed word. `GameplayWireEnum` is that scheme, with the laws
the log rests on as fields: every case is listed, no two cases share a
code or a word, and a word holds label scalars only, so it needs no
escaping. An enumeration that breaks one of them cannot be declared.

`labelFor` is the decoder the formatter uses: the word of the case the
code stands for, or `unknown<code>`.
-/
import Exolon.Lib.Text

namespace Exolon

/-- The scalars of an unescaped label. -/
def isLabelChar (c : Char) : Bool := c.isAlphanum || c == '_' || c == '.'

/-- A wire enumeration: codes are append-only, words are the schema's
spelling. -/
class GameplayWireEnum (α : Type) where
  allCases : List α
  wireCode : α → UInt16
  label : α → String
  complete : ∀ x, x ∈ allCases
  wireCode_inj : ∀ x y, wireCode x = wireCode y → x = y
  label_inj : ∀ x y, label x = label y → x = y
  label_char : ∀ x, ∀ c ∈ (label x).toList, isLabelChar c = true

export GameplayWireEnum (wireCode)

-- ============================================================ decoding

/-- What a code outside its vocabulary prints as. -/
def unknownLabel (code : Nat) : Text := "unknown".toList ++ natText code

/-- The case a code stands for. -/
def ofWireCode (α : Type) [GameplayWireEnum α] (bits : UInt16) : Option α :=
  (GameplayWireEnum.allCases (α := α)).find? fun x => wireCode x == bits

/-- The word a code prints as. -/
def labelFor (α : Type) [GameplayWireEnum α] (bits : UInt16) : Text :=
  match ofWireCode α bits with
  | some x => (GameplayWireEnum.label x).toList
  | none => unknownLabel bits.toNat

section Decoding

variable {α : Type} [GameplayWireEnum α]

/-- A case is decoded from its own code. -/
theorem ofWireCode_wireCode (x : α) : ofWireCode α (wireCode x) = some x := by
  unfold ofWireCode
  cases hfind : GameplayWireEnum.allCases.find?
      (fun y : α => wireCode y == wireCode x) with
  | none =>
      have := List.find?_eq_none.mp hfind x (GameplayWireEnum.complete x)
      simp at this
  | some y =>
      have hcode := List.find?_some hfind
      rw [GameplayWireEnum.wireCode_inj y x (by simpa using hcode)]

@[simp] theorem labelFor_wireCode (x : α) :
    labelFor α (wireCode x) = (GameplayWireEnum.label x).toList := by
  rw [labelFor, ofWireCode_wireCode]

theorem isLabelChar_of_isDigit {c : Char} (h : c.isDigit = true) :
    isLabelChar c = true := by
  simp [isLabelChar, Char.isAlphanum, h]

theorem unknownLabel_char {code : Nat} {c : Char}
    (h : c ∈ unknownLabel code) : isLabelChar c = true := by
  rcases List.mem_append.mp h with h | h
  · have hword : ∀ c ∈ "unknown".toList, isLabelChar c = true := by decide
    exact hword c h
  · exact isLabelChar_of_isDigit (natText_isDigit h)

/-- Every code prints as a label. -/
theorem labelFor_char {bits : UInt16} {c : Char}
    (h : c ∈ labelFor α bits) : isLabelChar c = true := by
  unfold labelFor at h
  cases hcase : ofWireCode α bits with
  | some x =>
      rw [hcase] at h
      exact GameplayWireEnum.label_char x c h
  | none =>
      rw [hcase] at h
      exact unknownLabel_char h

end Decoding

-- ================================================== payload vocabularies

/-- What hurt the player. -/
inductive GameplayDamageCause where
  | bullet | mine | piston | forceField | sourceHazard | bubble | egg
  | missile
  deriving DecidableEq, Repr

instance : GameplayWireEnum GameplayDamageCause where
  allCases := [.bullet, .mine, .piston, .forceField, .sourceHazard,
    .bubble, .egg, .missile]
  wireCode
    | .bullet => 0
    | .mine => 1
    | .piston => 2
    | .forceField => 3
    | .sourceHazard => 4
    | .bubble => 5
    | .egg => 6
    | .missile => 7
  label
    | .bullet => "bullet"
    | .mine => "mine"
    | .piston => "piston"
    | .forceField => "force_field"
    | .sourceHazard => "source_hazard"
    | .bubble => "bubble"
    | .egg => "egg"
    | .missile => "missile"
  complete := by intro x; cases x <;> decide
  wireCode_inj := by intro x y; cases x <;> cases y <;> decide
  label_inj := by intro x y; cases x <;> cases y <;> decide
  label_char := by intro x; cases x <;> decide

/-- What the jump button did instead of jumping. -/
inductive GameplayContextualAction where
  | changingRoom | teleport
  deriving DecidableEq, Repr

instance : GameplayWireEnum GameplayContextualAction where
  allCases := [.changingRoom, .teleport]
  wireCode
    | .changingRoom => 0
    | .teleport => 1
  label
    | .changingRoom => "changing_room"
    | .teleport => "teleport"
  complete := by intro x; cases x <;> decide
  wireCode_inj := by intro x y; cases x <;> cases y <;> decide
  label_inj := by intro x y; cases x <;> cases y <;> decide
  label_char := by intro x; cases x <;> decide

/-- What the player landed on. -/
inductive GameplaySupport where
  | fallbackFloor | solid
  deriving DecidableEq, Repr

instance : GameplayWireEnum GameplaySupport where
  allCases := [.fallbackFloor, .solid]
  wireCode
    | .fallbackFloor => 0
    | .solid => 1
  label
    | .fallbackFloor => "fallback_floor"
    | .solid => "solid"
  complete := by intro x; cases x <;> decide
  wireCode_inj := by intro x y; cases x <;> cases y <;> decide
  label_inj := by intro x y; cases x <;> cases y <;> decide
  label_char := by intro x; cases x <;> decide

/-- What switched the exoskeleton. -/
inductive GameplayExoskeletonCause where
  | changingRoom | cheat | reset | stageBoundary
  deriving DecidableEq, Repr

instance : GameplayWireEnum GameplayExoskeletonCause where
  allCases := [.changingRoom, .cheat, .reset, .stageBoundary]
  wireCode
    | .changingRoom => 0
    | .cheat => 1
    | .reset => 2
    | .stageBoundary => 3
  label
    | .changingRoom => "changing_room"
    | .cheat => "cheat"
    | .reset => "reset"
    | .stageBoundary => "stage_boundary"
  complete := by intro x; cases x <;> decide
  wireCode_inj := by intro x y; cases x <;> cases y <;> decide
  label_inj := by intro x y; cases x <;> cases y <;> decide
  label_char := by intro x; cases x <;> decide

/-- Why a shot was refused. -/
inductive GameplayShootDeniedReason where
  | noAmmo
  deriving DecidableEq, Repr

instance : GameplayWireEnum GameplayShootDeniedReason where
  allCases := [.noAmmo]
  wireCode
    | .noAmmo => 0
  label
    | .noAmmo => "no_ammo"
  complete := by intro x; cases x; decide
  wireCode_inj := by intro x y; cases x; cases y; decide
  label_inj := by intro x y; cases x; cases y; decide
  label_char := by intro x; cases x; decide

/-- What was picked up. -/
inductive GameplayPickupKind where
  | grenadePack | ammoPack
  deriving DecidableEq, Repr

instance : GameplayWireEnum GameplayPickupKind where
  allCases := [.grenadePack, .ammoPack]
  wireCode
    | .grenadePack => 0
    | .ammoPack => 1
  label
    | .grenadePack => "grenade_pack"
    | .ammoPack => "ammo_pack"
  complete := by intro x; cases x <;> decide
  wireCode_inj := by intro x y; cases x <;> cases y <;> decide
  label_inj := by intro x y; cases x <;> cases y <;> decide
  label_char := by intro x; cases x <;> decide

/-- What earned points. -/
inductive GameplayScoreReason where
  | blasterShotdown | bubble | egg | forceField | grenadeKill | guidance
  | launcher | stageBoundary
  deriving DecidableEq, Repr

instance : GameplayWireEnum GameplayScoreReason where
  allCases := [.blasterShotdown, .bubble, .egg, .forceField, .grenadeKill,
    .guidance, .launcher, .stageBoundary]
  wireCode
    | .blasterShotdown => 0
    | .bubble => 1
    | .egg => 2
    | .forceField => 3
    | .grenadeKill => 4
    | .guidance => 5
    | .launcher => 6
    | .stageBoundary => 7
  label
    | .blasterShotdown => "blaster_shotdown"
    | .bubble => "bubble"
    | .egg => "egg"
    | .forceField => "force_field"
    | .grenadeKill => "grenade_kill"
    | .guidance => "guidance"
    | .launcher => "launcher"
    | .stageBoundary => "stage_boundary"
  complete := by intro x; cases x <;> decide
  wireCode_inj := by intro x y; cases x <;> cases y <;> decide
  label_inj := by intro x y; cases x <;> cases y <;> decide
  label_char := by intro x; cases x <;> decide

/-- What changed the flow state. -/
inductive GameplayFlowCause where
  | firePress | pausePress | resume | restart | death | respawnTimeout
  | zoneTransition | contentComplete | titleReturn | unspecified
  deriving DecidableEq, Repr

instance : GameplayWireEnum GameplayFlowCause where
  allCases := [.firePress, .pausePress, .resume, .restart, .death,
    .respawnTimeout, .zoneTransition, .contentComplete, .titleReturn,
    .unspecified]
  wireCode
    | .firePress => 0
    | .pausePress => 1
    | .resume => 2
    | .restart => 3
    | .death => 4
    | .respawnTimeout => 5
    | .zoneTransition => 6
    | .contentComplete => 7
    | .titleReturn => 8
    | .unspecified => 9
  label
    | .firePress => "fire_press"
    | .pausePress => "pause_press"
    | .resume => "resume"
    | .restart => "restart"
    | .death => "death"
    | .respawnTimeout => "respawn_timeout"
    | .zoneTransition => "zone_transition"
    | .contentComplete => "content_complete"
    | .titleReturn => "title_return"
    | .unspecified => "unspecified"
  complete := by intro x; cases x <;> decide
  wireCode_inj := by intro x y; cases x <;> cases y <;> decide
  label_inj := by intro x y; cases x <;> cases y <;> decide
  label_char := by intro x; cases x <;> decide

/-- What loaded a zone. -/
inductive GameplayZoneLoadCause where
  | appLaunch | transition | checkpoint | restart
  deriving DecidableEq, Repr

instance : GameplayWireEnum GameplayZoneLoadCause where
  allCases := [.appLaunch, .transition, .checkpoint, .restart]
  wireCode
    | .appLaunch => 0
    | .transition => 1
    | .checkpoint => 2
    | .restart => 3
  label
    | .appLaunch => "app_launch"
    | .transition => "transition"
    | .checkpoint => "checkpoint"
    | .restart => "restart"
  complete := by intro x; cases x <;> decide
  wireCode_inj := by intro x y; cases x <;> cases y <;> decide
  label_inj := by intro x y; cases x <;> cases y <;> decide
  label_char := by intro x; cases x <;> decide

/-- What cleared the checkpoint. -/
inductive GameplayCheckpointClearedReason where
  | newGame | gameOver | launch
  deriving DecidableEq, Repr

instance : GameplayWireEnum GameplayCheckpointClearedReason where
  allCases := [.newGame, .gameOver, .launch]
  wireCode
    | .newGame => 0
    | .gameOver => 1
    | .launch => 2
  label
    | .newGame => "new_game"
    | .gameOver => "game_over"
    | .launch => "launch"
  complete := by intro x; cases x <;> decide
  wireCode_inj := by intro x y; cases x <;> cases y <;> decide
  label_inj := by intro x y; cases x <;> cases y <;> decide
  label_char := by intro x; cases x <;> decide

/-- What discarded accumulated time. -/
inductive GameplayAccumulatorResetReason where
  | zoneTransition | newGame | pausedExit | explicit
  deriving DecidableEq, Repr

instance : GameplayWireEnum GameplayAccumulatorResetReason where
  allCases := [.zoneTransition, .newGame, .pausedExit, .explicit]
  wireCode
    | .zoneTransition => 0
    | .newGame => 1
    | .pausedExit => 2
    | .explicit => 3
  label
    | .zoneTransition => "zone_transition"
    | .newGame => "new_game"
    | .pausedExit => "paused_exit"
    | .explicit => "explicit"
  complete := by intro x; cases x <;> decide
  wireCode_inj := by intro x y; cases x <;> cases y <;> decide
  label_inj := by intro x y; cases x <;> cases y <;> decide
  label_char := by intro x; cases x <;> decide

/-- One part of the stage award. -/
inductive GameplayStageComponent where
  | livesTimes1000 | braveryNoExoskeleton | timedPhaseLadder
  deriving DecidableEq, Repr

instance : GameplayWireEnum GameplayStageComponent where
  allCases := [.livesTimes1000, .braveryNoExoskeleton, .timedPhaseLadder]
  wireCode
    | .livesTimes1000 => 0
    | .braveryNoExoskeleton => 1
    | .timedPhaseLadder => 2
  label
    | .livesTimes1000 => "lives_x1000"
    | .braveryNoExoskeleton => "bravery_no_exoskeleton"
    | .timedPhaseLadder => "timed_phase_ladder"
  complete := by intro x; cases x <;> decide
  wireCode_inj := by intro x y; cases x <;> cases y <;> decide
  label_inj := by intro x y; cases x <;> cases y <;> decide
  label_char := by intro x; cases x <;> decide

/-- Why a stage award was withheld. -/
inductive GameplayStageSuppressionReason where
  | alreadyAwarded | notStageEnd
  deriving DecidableEq, Repr

instance : GameplayWireEnum GameplayStageSuppressionReason where
  allCases := [.alreadyAwarded, .notStageEnd]
  wireCode
    | .alreadyAwarded => 0
    | .notStageEnd => 1
  label
    | .alreadyAwarded => "already_awarded"
    | .notStageEnd => "not_stage_end"
  complete := by intro x; cases x <;> decide
  wireCode_inj := by intro x y; cases x <;> cases y <;> decide
  label_inj := by intro x y; cases x <;> cases y <;> decide
  label_char := by intro x; cases x <;> decide

/-- Why a log ended. -/
inductive GameplayLogEndReason where
  | appQuit | error | harnessComplete
  deriving DecidableEq, Repr

instance : GameplayWireEnum GameplayLogEndReason where
  allCases := [.appQuit, .error, .harnessComplete]
  wireCode
    | .appQuit => 0
    | .error => 1
    | .harnessComplete => 2
  label
    | .appQuit => "app_quit"
    | .error => "error"
    | .harnessComplete => "harness_complete"
  complete := by intro x; cases x <;> decide
  wireCode_inj := by intro x y; cases x <;> cases y <;> decide
  label_inj := by intro x y; cases x <;> cases y <;> decide
  label_char := by intro x; cases x <;> decide

-- ================================================== product vocabularies

/-- The scene's flow state. -/
inductive GameFlowState where
  | title | playing | paused | playerDead | respawning | gameOver
  | contentComplete
  deriving DecidableEq, Repr

instance : GameplayWireEnum GameFlowState where
  allCases := [.title, .playing, .paused, .playerDead, .respawning,
    .gameOver, .contentComplete]
  wireCode
    | .title => 0
    | .playing => 1
    | .paused => 2
    | .playerDead => 3
    | .respawning => 4
    | .gameOver => 5
    | .contentComplete => 6
  label
    | .title => "title"
    | .playing => "playing"
    | .paused => "paused"
    | .playerDead => "playerDead"
    | .respawning => "respawning"
    | .gameOver => "gameOver"
    | .contentComplete => "contentComplete"
  complete := by intro x; cases x <;> decide
  wireCode_inj := by intro x y; cases x <;> cases y <;> decide
  label_inj := by intro x y; cases x <;> cases y <;> decide
  label_char := by intro x; cases x <;> decide

/-- A bound input action. -/
inductive GameAction where
  | moveLeft | moveRight | jump | crouch | fire | grenade | pause | menuUp
  | menuDown | debugHitboxes
  deriving DecidableEq, Repr

instance : GameplayWireEnum GameAction where
  allCases := [.moveLeft, .moveRight, .jump, .crouch, .fire, .grenade,
    .pause, .menuUp, .menuDown, .debugHitboxes]
  wireCode
    | .moveLeft => 0
    | .moveRight => 1
    | .jump => 2
    | .crouch => 3
    | .fire => 4
    | .grenade => 5
    | .pause => 6
    | .menuUp => 7
    | .menuDown => 8
    | .debugHitboxes => 9
  label
    | .moveLeft => "moveLeft"
    | .moveRight => "moveRight"
    | .jump => "jump"
    | .crouch => "crouch"
    | .fire => "fire"
    | .grenade => "grenade"
    | .pause => "pause"
    | .menuUp => "menuUp"
    | .menuDown => "menuDown"
    | .debugHitboxes => "debugHitboxes"
  complete := by intro x; cases x <;> decide
  wireCode_inj := by intro x y; cases x <;> cases y <;> decide
  label_inj := by intro x y; cases x <;> cases y <;> decide
  label_char := by intro x; cases x <;> decide

/-- The device an edge came from. -/
inductive InputSource where
  | keyboard | gamepadDPad | gamepadStick | gamepadButtons
  deriving DecidableEq, Repr

instance : GameplayWireEnum InputSource where
  allCases := [.keyboard, .gamepadDPad, .gamepadStick, .gamepadButtons]
  wireCode
    | .keyboard => 0
    | .gamepadDPad => 1
    | .gamepadStick => 2
    | .gamepadButtons => 3
  label
    | .keyboard => "keyboard"
    | .gamepadDPad => "gamepadDPad"
    | .gamepadStick => "gamepadStick"
    | .gamepadButtons => "gamepadButtons"
  complete := by intro x; cases x <;> decide
  wireCode_inj := by intro x y; cases x <;> cases y <;> decide
  label_inj := by intro x y; cases x <;> cases y <;> decide
  label_char := by intro x; cases x <;> decide

/-- The player's motion. -/
inductive PlayerMotionState where
  | idle | running | jumping | falling | crouching | dying
  deriving DecidableEq, Repr

instance : GameplayWireEnum PlayerMotionState where
  allCases := [.idle, .running, .jumping, .falling, .crouching, .dying]
  wireCode
    | .idle => 0
    | .running => 1
    | .jumping => 2
    | .falling => 3
    | .crouching => 4
    | .dying => 5
  label
    | .idle => "idle"
    | .running => "running"
    | .jumping => "jumping"
    | .falling => "falling"
    | .crouching => "crouching"
    | .dying => "dying"
  complete := by intro x; cases x <;> decide
  wireCode_inj := by intro x y; cases x <;> cases y <;> decide
  label_inj := by intro x y; cases x <;> cases y <;> decide
  label_char := by intro x; cases x <;> decide

/-- The player's facing. -/
inductive PlayerFacing where
  | left | right
  deriving DecidableEq, Repr

instance : GameplayWireEnum PlayerFacing where
  allCases := [.left, .right]
  wireCode
    | .left => 0
    | .right => 1
  label
    | .left => "left"
    | .right => "right"
  complete := by intro x; cases x <;> decide
  wireCode_inj := by intro x y; cases x <;> cases y <;> decide
  label_inj := by intro x y; cases x <;> cases y <;> decide
  label_char := by intro x; cases x <;> decide

-- ============================================================== labels

namespace GameplayWire

def flowLabel (bits : UInt16) : Text := labelFor GameFlowState bits

def actionLabel (bits : UInt16) : Text := labelFor GameAction bits

def sourceLabel (bits : UInt16) : Text := labelFor InputSource bits

/-- The one label that masks its argument before it looks the case up;
an unknown code is printed whole. -/
def motionLabel (bits : UInt16) : Text :=
  match ofWireCode PlayerMotionState (bits &&& 7) with
  | some state => (GameplayWireEnum.label state).toList
  | none => unknownLabel bits.toNat

def facingLabel (bit : UInt16) : Text := labelFor PlayerFacing bit

def damageCauseLabel (bits : UInt16) : Text :=
  labelFor GameplayDamageCause bits

def contextualLabel (bits : UInt16) : Text :=
  labelFor GameplayContextualAction bits

def supportLabel (bits : UInt16) : Text := labelFor GameplaySupport bits

def exoskeletonCauseLabel (bits : UInt16) : Text :=
  labelFor GameplayExoskeletonCause bits

def shootDeniedReasonLabel (bits : UInt16) : Text :=
  labelFor GameplayShootDeniedReason bits

def pickupKindLabel (bits : UInt16) : Text := labelFor GameplayPickupKind bits

def scoreReasonLabel (bits : UInt16) : Text :=
  labelFor GameplayScoreReason bits

def flowCauseLabel (bits : UInt16) : Text := labelFor GameplayFlowCause bits

def zoneLoadCauseLabel (bits : UInt16) : Text :=
  labelFor GameplayZoneLoadCause bits

def checkpointClearedReasonLabel (bits : UInt16) : Text :=
  labelFor GameplayCheckpointClearedReason bits

def accumulatorResetReasonLabel (bits : UInt16) : Text :=
  labelFor GameplayAccumulatorResetReason bits

def stageComponentLabel (bits : UInt16) : Text :=
  labelFor GameplayStageComponent bits

def stageSuppressionReasonLabel (bits : UInt16) : Text :=
  labelFor GameplayStageSuppressionReason bits

theorem motionLabel_char {bits : UInt16} {c : Char}
    (h : c ∈ motionLabel bits) : isLabelChar c = true := by
  unfold motionLabel at h
  cases hcase : ofWireCode PlayerMotionState (bits &&& 7) with
  | some state =>
      rw [hcase] at h
      exact GameplayWireEnum.label_char state c h
  | none =>
      rw [hcase] at h
      exact unknownLabel_char h

end GameplayWire

end Exolon

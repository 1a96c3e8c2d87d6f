/-
From a record to its line of text.

`Line` is the source's streaming member builder: it appends fragments and
never looks back. `payload` is the formatter's table, one entry a kind;
`formatRecord` puts the envelope in front and closes the object. The four
lines the log writes about itself (`log.begin`, `log.rotate`,
`log.events_dropped`, `log.end`) are built the same way.

A conversion that can trap is an `Option`: two kinds derive the next
level's resource from `UInt16(zone + 1)`, and no line comes of the record
when the zone lane holds its largest value.
-/
import Exolon.EventLog.Event

namespace Exolon

-- ============================================================= escaping

/-- The escape of one scalar of a free-form string. -/
def escapedScalar (c : Char) : Text :=
  if c = '"' then ['\\', '"']
  else if c = '\\' then ['\\', '\\']
  else if c = '\n' then ['\\', 'n']
  else if c = '\r' then ['\\', 'r']
  else if c = '\t' then ['\\', 't']
  else if c.toNat < 0x20 then '\\' :: 'u' :: paddedHexText 4 c.toNat
  else [c]

/-- A free-form string between quotes. Labels never pass through here. -/
def escapedJSONString (value : Text) : Text :=
  '"' :: value.flatMap escapedScalar ++ ['"']

-- ================================================================= lines

/-- One member a line appends. -/
inductive Field where
  | number (name : String) (value : Int)
  | flag (name : String) (value : Bool)
  | label (name : String) (value : Text)
  | string (name : String) (value : Text)
  | point (name : String) (x y : Int)

namespace Field

/-- The member's name. -/
def name : Field → String
  | number name _ | flag name _ | label name _ | string name _
  | point name _ _ => name

end Field

/-- What every line starts with. -/
structure Envelope where
  schemaVersion : Int
  seq : Int
  tick : Int
  frame : Int
  rot : Int
  name : Text

/-- A line under construction. -/
structure Line where
  text : Text

namespace Line

def empty : Line := ⟨[]⟩

def append (line : Line) (fragment : Text) : Line :=
  ⟨line.text ++ fragment⟩

def key (line : Line) (name : String) : Line :=
  ((line.append [',', '"']).append name.toList).append ['"', ':']

def number (line : Line) (name : String) (value : Int) : Line :=
  (line.key name).append (intText value)

def flag (line : Line) (name : String) (value : Bool) : Line :=
  (line.key name).append
    (if value then ['t', 'r', 'u', 'e'] else ['f', 'a', 'l', 's', 'e'])

/-- A label is appended as it is: no free text reaches this path. -/
def label (line : Line) (name : String) (value : Text) : Line :=
  (((line.key name).append ['"']).append value).append ['"']

def string (line : Line) (name : String) (value : Text) : Line :=
  (line.key name).append (escapedJSONString value)

def point (line : Line) (name : String) (x y : Int) : Line :=
  (((((line.key name).append "\x7b\"x\":".toList).append (intText x)).append
    ",\"y\":".toList).append (intText y)).append ['}']

def envelope (line : Line) (e : Envelope) : Line :=
  line.append ("\x7b\"schema_version\":".toList ++ intText e.schemaVersion
    ++ (",\"seq\":".toList ++ intText e.seq)
    ++ (",\"tick\":".toList ++ intText e.tick)
    ++ (",\"frame\":".toList ++ intText e.frame)
    ++ (",\"rot\":".toList ++ intText e.rot)
    ++ (",\"ts_us\":".toList ++ intText (GameplayEvent.microseconds e.tick))
    ++ (",\"name\":\"".toList ++ e.name ++ ['"']))

def finish (line : Line) : Text := line.text ++ ['}', '\n']

/-- Append one member. -/
def add (line : Line) : Field → Line
  | .number name value => line.number name value
  | .flag name value => line.flag name value
  | .label name value => line.label name value
  | .string name value => line.string name value
  | .point name x y => line.point name x y

/-- Append members in order. -/
def addAll (line : Line) (fields : List Field) : Line :=
  fields.foldl add line

end Line

/-- A whole line: envelope, members, closing brace and line break. -/
def lineText (e : Envelope) (fields : List Field) : Text :=
  ((Line.empty.envelope e).addAll fields).finish

-- =============================================================== payload

namespace GameplayWire

/-- The level resource of a zone: stage and screen, two digits each. -/
def resource (zone : UInt16) : Text :=
  let clamped := min 124 zone.toNat
  'L' :: paddedText 2 (clamped / 25 + 1)
    ++ 'S' :: paddedText 2 (clamped % 25 + 1)

/-- The resource of the zone after this one. The checked conversion
`UInt16(zone + 1)` traps on the last zone. -/
def nextResource? (zone : UInt16) : Option Text :=
  if zone.toNat + 1 < 65536 then some (resource (UInt16.ofNat (zone.toNat + 1)))
  else none

/-- The next level a record names: none, or the zone's successor. -/
def nextLevel? (present : Bool) (zone : UInt16) : Option Text :=
  if present then nextResource? zone else some []

end GameplayWire

namespace GameplayEvent

/-- The bits of a word from an offset on, under a mask. -/
def bits (subject offset mask : UInt16) : UInt16 :=
  (subject >>> offset) &&& mask

/-- The bit of a word at an offset. -/
def bitAt (subject offset : UInt16) : Bool := bits subject offset 1 != 0

/-- A word as a number. -/
def number (subject : UInt16) : Int := subject.toNat

/-- The number two lanes carry. -/
def joined (high low : Int16) : Int := (join high low).toInt

end GameplayEvent

open GameplayEvent in
/-- The members of a kind, in the frozen order; `none` is a trap. -/
def payload (kind : GameplayEventKind) (record : GameplayEvent) :
    Option (List Field) :=
  let zone := number record.zone
  let subject := record.entity
  let a := record.a.toInt
  let b := record.b.toInt
  let c := record.c.toInt
  let d := record.d.toInt
  match kind with
  -- written by the log with its own members, never by a producer
  | .logBegin | .logRotate | .logEventsDropped | .logEnd => some []
  | .inputActionEdge => some [
      .label "action" (GameplayWire.actionLabel (bits subject 0 0b111111)),
      .flag "pressed" (record.b != 0),
      .label "source" (GameplayWire.sourceLabel (bits subject 6 0b11)),
      .number "held_us" (a * 1000)]
  | .inputPauseConsumed => some [
      .flag "pending" (record.a != 0)]
  | .inputContextualConsumed => some [
      .label "kind" (GameplayWire.contextualLabel subject),
      .flag "jump_suppressed" (record.a != 0)]
  | .playerMotion => some [
      .number "zone" zone,
      .number "x" a,
      .number "y" b,
      .number "vx" c,
      .number "vy" d,
      .flag "grounded" (bitAt subject 3),
      .label "motion_state" (GameplayWire.motionLabel (bits subject 0 0b111)),
      .label "facing" (GameplayWire.facingLabel (bits subject 4 1)),
      .flag "exoskeleton" (bitAt subject 5)]
  | .playerJump => some [
      .number "x" a,
      .number "y" b,
      .number "velocity" c,
      .flag "grounded_before" (bitAt subject 0),
      .flag "after_teleport" (bitAt subject 1)]
  | .playerLand => some [
      .number "x" a,
      .number "y" b,
      .number "vy_before" c,
      .label "support" (GameplayWire.supportLabel subject)]
  | .playerCrouchBegin | .playerCrouchEnd => some [
      .number "x" a,
      .number "y" b]
  | .playerExoskeleton => some [
      .flag "enabled" (record.a != 0),
      .label "cause" (GameplayWire.exoskeletonCauseLabel subject)]
  | .playerShootBlaster => some [
      .number "x" a,
      .number "y" b,
      .label "facing" (GameplayWire.facingLabel (bits subject 0 1)),
      .flag "double" (bitAt subject 1),
      .number "ammo_before" c,
      .number "ammo_after" d]
  | .playerShootDenied => some [
      .label "reason" (GameplayWire.shootDeniedReasonLabel subject),
      .number "ammo" a]
  | .playerThrowGrenade => some [
      .number "x" a,
      .number "y" b,
      .label "direction" (GameplayWire.facingLabel (bits subject 0 1)),
      .number "grenades_before" c,
      .number "grenades_after" d,
      .label "blocked_by"
        (if bitAt subject 1 then "one_in_flight".toList else "none".toList)]
  | .playerTeleport => some [
      .point "from" a b,
      .point "to" c d,
      .number "portal_index" (number (bits subject 0 0xFF)),
      .flag "jump_latch_held" (bitAt subject 8)]
  | .playerDeathBegin => some [
      .number "x" a,
      .number "y" b,
      .number "lives" c,
      .number "ammo" d,
      .number "grenades" (number subject)]
  | .playerDeathLanded => some [
      .number "x" a,
      .number "y" b,
      .number "ground_ticks" c]
  | .playerDeathSettled => some [
      .number "delay_us" (microseconds d),
      .number "lives_before" a,
      .number "lives_after" b,
      .number "invulnerability_us" (microseconds c),
      .flag "checkpoint_saved" (bitAt subject 0)]
  | .gameGameOver => some [
      .number "points" (joined record.a record.b),
      .number "high_score" (joined record.c record.d),
      .number "zone" zone,
      .flag "checkpoint_cleared" (bitAt subject 0)]
  | .damagePlayerBlocked =>
      let packed := word record.c
      some [
        .label "cause" (GameplayWire.damageCauseLabel (bits packed 0 0b111111)),
        .number "invulnerability_us" (joined record.a record.b),
        .flag "test_invulnerability" (bitAt packed 6)]
  | .damagePlayerHit => some [
      .label "cause"
        (GameplayWire.damageCauseLabel (bits (word record.c) 0 0b111111)),
      .number "x" a,
      .number "y" b,
      .label "flow_state_before"
        (GameplayWire.flowLabel (bits (word record.c) 6 0b111)),
      .label "flow_state_after"
        (GameplayWire.flowLabel (bits (word record.c) 9 0b111)),
      .number "lives" d]
  | .pickupCollect => some [
      .label "kind" (GameplayWire.pickupKindLabel subject),
      .number "count_before" c,
      .number "count_after" d,
      .number "x" a,
      .number "y" b]
  | .bonusDoubleLauncher => some [
      .number "points" a,
      .number "completed_zone" zone,
      .string "launcher_object_id" (natText subject.toNat),
      .number "x" b,
      .number "y" c,
      .flag "launcher_active_after" (record.d != 0)]
  | .bonusStagePoints => some [
      .number "completed_zone" zone,
      .number "points" (joined record.a record.b),
      .number "lives_before" (number (bits subject 0 0b1111)),
      .number "lives_after" (number (bits subject 4 0b1111)),
      .flag "ammo_reset" (bitAt subject 8)]
  | .bonusStageComponent => some [
      .number "completed_zone" zone,
      .label "component_id" (GameplayWire.stageComponentLabel subject),
      .number "points" a]
  | .bonusStageBoundarySuppressed => some [
      .number "completed_zone" zone,
      .label "reason" (GameplayWire.stageSuppressionReasonLabel subject)]
  | .scoreAwarded =>
      let before := joined record.b record.c
      some [
        .number "points" a,
        .label "reason" (GameplayWire.scoreReasonLabel subject),
        .number "points_before" before,
        .number "points_after" (min 999999 (before + a)),
        .flag "clamped" (before + a > 999999)]
  | .scoreHighScoreSaved => some [
      .number "value" (joined record.a record.b)]
  | .stateFlow => some [
      .label "from" (GameplayWire.flowLabel (word record.a)),
      .label "to" (GameplayWire.flowLabel (word record.b)),
      .label "cause" (GameplayWire.flowCauseLabel (word record.c))]
  | .stateZoneLoad => some [
      .string "resource" (GameplayWire.resource record.zone),
      .number "zone" zone,
      .label "cause" (GameplayWire.zoneLoadCauseLabel subject)]
  | .stateZoneLoaded => some [
      .string "resource" (GameplayWire.resource record.zone),
      .number "zone" zone,
      .number "solid_count" a,
      .number "spawn_x" b,
      .number "spawn_y" c,
      .number "ground_y" d,
      .number "invulnerability_us"
        (microseconds (number (bits subject 0 0b111111111))),
      .flag "carried_y" (bitAt subject 9)]
  | .stateZoneExit =>
      (GameplayWire.nextLevel? (subject != 0) record.zone).map
        fun nextLevel => [
          .number "zone" zone,
          .number "trigger_x" a,
          .number "player_x" b,
          .string "next_level" nextLevel]
  | .stateZoneTransition => some [
      .number "from_zone" zone,
      .number "to_zone" (number subject),
      .number "accumulator_us" (joined record.a record.b),
      .number "pending_steps" c]
  | .stateContentComplete =>
      (GameplayWire.nextLevel? (bitAt subject 1) record.zone).map
        fun nextLevel => [
          .number "zone" zone,
          .string "next_level" nextLevel,
          .number "points" (joined record.a record.b),
          .flag "final" (bitAt subject 0)]
  | .stateTitleEnter => some [
      .number "high_score" (joined record.a record.b),
      .flag "has_saved_checkpoint" (bitAt subject 0)]
  | .stateCheckpointSaved => some [
      .string "resource" (GameplayWire.resource record.zone),
      .number "ammo" (number (bits subject 0 0b1111111)),
      .number "grenades" (number (bits subject 7 0b11111)),
      .number "points" (joined record.b record.c),
      .number "lives" (number (bits subject 12 0b1111))]
  | .stateCheckpointCleared => some [
      .label "reason" (GameplayWire.checkpointClearedReasonLabel subject)]
  | .statePauseEnter | .statePauseExit => some [
      .label "state_before" (GameplayWire.flowLabel (word record.a)),
      .number "selected_index" b]
  | .stateRestart => some [
      .number "from_zone" zone,
      .number "points" (joined record.a record.b)]
  | .stateCheatInvulnerability => some [
      .flag "enabled" (record.a != 0),
      .number "menu_index" b]
  | .tickFrameGapClamped =>
      let raw := joined record.a record.b
      some [
        .number "raw_frame_time_us" raw,
        .number "clamp_us" 250000,
        .number "lost_us" (max 0 (raw - 250000))]
  | .tickAccumulatorReset => some [
      .label "reason" (GameplayWire.accumulatorResetReasonLabel subject),
      .number "discarded_us" (joined record.a record.b),
      .number "discarded_steps" c]
  | .tickSlowStep => some [
      .number "step_us" (joined record.a record.b),
      .number "budget_us" 16667,
      .number "steps_this_frame" c]
  | .tickHeartbeat => some [
      .number "uptime_us" (microseconds record.tick.toNat),
      .number "events" (joined record.a record.b),
      .number "drops" (joined record.c record.d),
      .number "zone" zone,
      .label "flow_state" (GameplayWire.flowLabel subject)]
  | .entityLauncherFire => some [
      .string "object_id" (natText subject.toNat),
      .label "kind" "double_launcher".toList,
      .number "x" a,
      .number "y" b,
      .number "muzzle_y" c]

/-- The members of a record: none beyond the envelope when its raw kind is
not assigned. -/
def appendPayload (record : GameplayEvent) : Option (List Field) :=
  match GameplayEventKind.ofRawValue record.kind with
  | some kind => payload kind record
  | none => some []

/-- One record, one line. -/
def formatRecord (record : GameplayEvent) (seq rot : Int) : Option Text :=
  (appendPayload record).map <| lineText {
    schemaVersion := 1
    seq := seq
    tick := record.tick.toNat
    frame := record.frame.toNat
    rot := rot
    name := GameplayEventKind.nameText record.kind }

-- ======================================================== boundary lines

/-- The members of the rotation line: `rot` names the next file. -/
def rotateFields (tick retired : Int) (fromPath toPath : Text) :
    List Field := [
  .string "from_path" fromPath,
  .string "to_path" toPath,
  .number "rot" (retired + 1),
  .number "rotated_at_tick" tick]

/-- The last line of a file being retired: names its successor. -/
def rotateLine (seq tick frame retired : Int) (fromPath toPath : Text) :
    Text :=
  lineText
    { schemaVersion := 1, seq := seq, tick := tick, frame := frame
      rot := retired, name := GameplayEventKind.logRotate.label.toList }
    (rotateFields tick retired fromPath toPath)

def beginFields (runToken build wallUTC seed : Text) (level : Int)
    (flow : UInt16) (path : Text) : List Field := [
  .string "run_id" runToken,
  .string "build" build,
  .string "wall_utc" wallUTC,
  .number "level" level,
  .string "path" path,
  .string "seed" seed,
  .number "zone" 0,
  .string "flow_state" (GameplayWire.flowLabel flow)]

/-- The first line of a file. `wallUTC` is the clock's answer. -/
def beginRecordLine (runToken build wallUTC seed : Text) (level : Int)
    (flow : UInt16) (seq rotation : Int) (path : Text) (tick frame : Int) :
    Text :=
  lineText
    { schemaVersion := 1, seq := seq, tick := tick, frame := frame
      rot := rotation, name := GameplayEventKind.logBegin.label.toList }
    (beginFields runToken build wallUTC seed level flow path)

def dropFields (drops lastRetainedSeq firstRetainedSeq droppedTotal
    ringCount : Int) : List Field := [
  .number "count" drops,
  .number "first_seq" (max 0 firstRetainedSeq),
  .number "last_seq" (max 0 lastRetainedSeq),
  .number "total_dropped" droppedTotal,
  .number "ring_capacity" ringCount,
  .string "marker" ("# dropped ".toList ++ intText drops
    ++ " oldest events (writer behind)".toList)]

/-- The line that announces a hole of `drops` records. -/
def dropRecordLine (drops lastRetainedSeq firstRetainedSeq droppedTotal
    ringCount seq rot tick frame : Int) : Text :=
  lineText
    { schemaVersion := 1, seq := seq, tick := tick, frame := frame
      rot := rot, name := GameplayEventKind.logEventsDropped.label.toList }
    (dropFields drops lastRetainedSeq firstRetainedSeq droppedTotal ringCount)

def endFields (reason : GameplayLogEndReason) (events : Int) :
    List Field := [
  .string "reason" (GameplayWireEnum.label reason).toList,
  .number "events" events]

/-- The terminal line of the last file. -/
def endLine (reason : GameplayLogEndReason) (events seq tick frame rot : Int) :
    Text :=
  lineText
    { schemaVersion := 1, seq := seq, tick := tick, frame := frame
      rot := rot, name := GameplayEventKind.logEnd.label.toList }
    (endFields reason events)

end Exolon

/-
The round trip of every kind: what a helper packs, the formatter prints.

`payload_eq` is the table-by-table comparison of the two hand-written
tables, one case a helper: the payload of the record a call leaves is the
call's meaning. Each member is one lemma of Lanes about the lane it
travels in; packed words are read field by field.

# Where the round trip ends

Two things are clamped or truncated on the way: a held time below zero is
clamped to zero, and a negative count of steps is not rounded to the
nearest microsecond. `Call.Sound` leaves them out, and the two kinds that
have no line on the last zone (Lines).
-/
import Exolon.EventLog.Sink

namespace Exolon

open GameplayEvent

/-- The record an emission leaves in the ring. -/
def Emission.record (e : Emission) (tick frame : UInt32) (zone : UInt16) :
    GameplayEvent where
  tick := tick
  frame := frame
  zone := zone
  entity := e.entity
  kind := e.kind.rawValue
  a := e.a
  b := e.b
  c := e.c
  d := e.d

/-- It is the record the log stamps. -/
theorem Emission.record_eq {cfg : Configuration} {W : Type}
    (e : Emission) (s : GameplayEventLog cfg W) :
    s.stamped e.kind.rawValue e.entity e.a e.b e.c e.d
      = e.record s.tickValue s.frameValue s.zoneValue := rfl

/-- The heartbeat the log appends is the one of `Call`. -/
theorem heartbeat_record {cfg : Configuration} {W : Type}
    (s : GameplayEventLog cfg W) (flow : GameFlowState)
    (hflow : s.flowValue = wireCode flow) :
    s.appendHeartbeatLocked = { s with
      appendedTotal := s.appendedTotal + 1 }.store
        ((Call.heartbeat s.appendedTotal s.droppedTotal
          flow).emission.record s.tickValue s.frameValue s.zoneValue) := by
  unfold GameplayEventLog.appendHeartbeatLocked
  rw [hflow]
  rfl

-- =============================================================== codes

theorem motionState_lt (state : PlayerMotionState) :
    (wireCode state).toNat < 8 := by
  cases state <;> decide

theorem facing_lt (facing : PlayerFacing) :
    (wireCode facing).toNat < 2 := by
  cases facing <;> decide

theorem action_lt (action : GameAction) : (wireCode action).toNat < 64 := by
  cases action <;> decide

theorem source_lt (source : InputSource) : (wireCode source).toNat < 4 := by
  cases source <;> decide

theorem damageCause_lt (cause : GameplayDamageCause) :
    (wireCode cause).toNat < 64 := by
  cases cause <;> decide

theorem flowState_lt (state : GameFlowState) :
    (wireCode state).toNat < 8 := by
  cases state <;> decide

theorem motionLabel_wireCode (state : PlayerMotionState) :
    GameplayWire.motionLabel (wireCode state) = Call.wordOf state := by
  have hmask : wireCode state &&& 7 = wireCode state := by
    cases state <;> decide
  unfold GameplayWire.motionLabel
  rw [hmask, ofWireCode_wireCode]
  rfl

-- ======================================================= packed words

namespace GameplayPack

theorem bits_edge (action : GameAction) (source : InputSource) :
    bits (edge (wireCode action) (wireCode source)) 0 63 = wireCode action
      ∧ bits (edge (wireCode action) (wireCode source)) 6 3
        = wireCode source := by
  have haction := action_lt action
  have hsource := source_lt source
  have hword := toNat_edge (wireCode action) (wireCode source)
  constructor
  · apply bits_eq (k := 0) (w := 6) rfl (by decide) rfl
    omega
  · apply bits_eq (k := 6) (w := 2) rfl (by decide) rfl
    omega

theorem bits_motion (state : PlayerMotionState) (grounded : Bool)
    (facing : PlayerFacing) (suit : Bool) :
    bits (motion (wireCode state) grounded (wireCode facing) suit) 0 7
        = wireCode state
      ∧ bitAt (motion (wireCode state) grounded (wireCode facing) suit) 3
        = grounded
      ∧ bits (motion (wireCode state) grounded (wireCode facing) suit) 4 1
        = wireCode facing
      ∧ bitAt (motion (wireCode state) grounded (wireCode facing) suit) 5
        = suit := by
  have hstate := motionState_lt state
  have hfacing := facing_lt facing
  have hword := toNat_motion (wireCode state) (wireCode facing) grounded suit
  refine ⟨?_, ?_, ?_, ?_⟩
  · apply bits_eq (k := 0) (w := 3) rfl (by decide) rfl
    cases grounded <;> cases suit <;> simp at hword <;> omega
  · apply bitAt_eq (k := 3) rfl (by decide)
    cases grounded <;> cases suit <;> simp at hword ⊢ <;> omega
  · apply bits_eq (k := 4) (w := 1) rfl (by decide) rfl
    cases grounded <;> cases suit <;> simp at hword <;> omega
  · apply bitAt_eq (k := 5) rfl (by decide)
    cases grounded <;> cases suit <;> simp at hword ⊢ <;> omega

theorem bits_hit (cause : GameplayDamageCause) (before after : GameFlowState) :
    bits (hit (wireCode cause) (wireCode before) (wireCode after)) 0 63
        = wireCode cause
      ∧ bits (hit (wireCode cause) (wireCode before) (wireCode after)) 6 7
        = wireCode before
      ∧ bits (hit (wireCode cause) (wireCode before) (wireCode after)) 9 7
        = wireCode after := by
  have hcause := damageCause_lt cause
  have hbefore := flowState_lt before
  have hafter := flowState_lt after
  have hword := toNat_hit (wireCode cause) (wireCode before) (wireCode after)
  refine ⟨?_, ?_, ?_⟩
  · apply bits_eq (k := 0) (w := 6) rfl (by decide) rfl
    omega
  · apply bits_eq (k := 6) (w := 3) rfl (by decide) rfl
    omega
  · apply bits_eq (k := 9) (w := 3) rfl (by decide) rfl
    omega

/-- A number a field holds, as the word it is truncated to. -/
theorem toNat_truncatingWord_field {width : Nat} {n : Int}
    (h : FitsField width n) (hwidth : width ≤ 16) :
    ((truncatingWord n).toNat : Int) = n := by
  have hbound : (2 : Int) ^ width ≤ 2 ^ 16 := by
    exact_mod_cast Nat.pow_le_pow_right (by decide) hwidth
  apply toNat_truncatingWord
  exact ⟨h.1, by have := h.2; omega⟩

theorem number_checkpoint {ammo grenades lives : Int}
    (hammo : FitsField 7 ammo) (hgrenades : FitsField 5 grenades)
    (hlives : FitsField 4 lives) :
    number (bits (checkpoint ammo grenades lives) 0 127) = ammo
      ∧ number (bits (checkpoint ammo grenades lives) 7 31) = grenades
      ∧ number (bits (checkpoint ammo grenades lives) 12 15) = lives := by
  have hword := toNat_checkpoint ammo grenades lives
  have ha := toNat_truncatingWord_field hammo (by decide)
  have hg := toNat_truncatingWord_field hgrenades (by decide)
  have hl := toNat_truncatingWord_field hlives (by decide)
  have ha' := hammo.2
  have hg' := hgrenades.2
  have hl' := hlives.2
  refine ⟨?_, ?_, ?_⟩
  · apply number_bits (k := 0) (w := 7) rfl (by decide) rfl
    omega
  · apply number_bits (k := 7) (w := 5) rfl (by decide) rfl
    omega
  · apply number_bits (k := 12) (w := 4) rfl (by decide) rfl
    omega

theorem number_stagePoints {before after : Int} (reset : Bool)
    (hbefore : FitsField 4 before) (hafter : FitsField 4 after) :
    number (bits (stagePoints before after reset) 0 15) = before
      ∧ number (bits (stagePoints before after reset) 4 15) = after
      ∧ bitAt (stagePoints before after reset) 8 = reset := by
  have hword := toNat_stagePoints before after reset
  have hb := toNat_truncatingWord_field hbefore (by decide)
  have ha := toNat_truncatingWord_field hafter (by decide)
  have hb' := hbefore.2
  have ha' := hafter.2
  refine ⟨?_, ?_, ?_⟩
  · apply number_bits (k := 0) (w := 4) rfl (by decide) rfl
    cases reset <;> simp at hword <;> omega
  · apply number_bits (k := 4) (w := 4) rfl (by decide) rfl
    cases reset <;> simp at hword <;> omega
  · apply bitAt_eq (k := 8) rfl (by decide)
    cases reset <;> simp at hword ⊢ <;> omega

theorem bits_blaster (facing : PlayerFacing) (double : Bool) :
    bits (blaster (wireCode facing) double) 0 1 = wireCode facing
      ∧ bitAt (blaster (wireCode facing) double) 1 = double :=
  ⟨bits_field_flag (k := 1) double rfl rfl (facing_lt facing),
    bitAt_field_flag (k := 1) _ double rfl rfl rfl (by decide)⟩

theorem bits_grenadeThrow (direction : PlayerFacing) (blocked : Bool) :
    bits (grenadeThrow (wireCode direction) blocked) 0 1 = wireCode direction
      ∧ bitAt (grenadeThrow (wireCode direction) blocked) 1 = blocked :=
  ⟨bits_field_flag (k := 1) blocked rfl rfl (facing_lt direction),
    bitAt_field_flag (k := 1) _ blocked rfl rfl rfl (by decide)⟩

theorem bits_blocked (cause : GameplayDamageCause) (test : Bool) :
    bits (blocked (wireCode cause) test) 0 63 = wireCode cause
      ∧ bitAt (blocked (wireCode cause) test) 6 = test :=
  ⟨bits_field_flag (k := 6) test rfl rfl (damageCause_lt cause),
    bitAt_field_flag (k := 6) _ test rfl rfl rfl (by decide)⟩

theorem number_teleport {portal : Int} (held : Bool)
    (h : FitsField 8 portal) :
    number (bits (teleport portal held) 0 255) = portal
      ∧ bitAt (teleport portal held) 8 = held := by
  have hword := toNat_truncatingWord_field h (by decide)
  have hbound := h.2
  have hlt : (truncatingWord portal).toNat < 2 ^ 8 := by omega
  have hbits : bits (teleport portal held) 0 255 = truncatingWord portal :=
    bits_field_flag (k := 8) held rfl rfl hlt
  refine ⟨?_, bitAt_field_flag (k := 8) _ held rfl rfl rfl (by decide)⟩
  rw [hbits, number, hword]

theorem number_zoneLoaded {ticks : Int} (carried : Bool)
    (h : FitsField 9 ticks) :
    number (bits (zoneLoaded ticks carried) 0 511) = ticks
      ∧ bitAt (zoneLoaded ticks carried) 9 = carried := by
  have hword := toNat_truncatingWord_field h (by decide)
  have hbound := h.2
  have hlt : (truncatingWord ticks).toNat < 2 ^ 9 := by omega
  have hbits : bits (zoneLoaded ticks carried) 0 511
      = truncatingWord ticks :=
    bits_field_flag (k := 9) carried rfl rfl hlt
  refine ⟨?_, bitAt_field_flag (k := 9) _ carried rfl rfl rfl (by decide)⟩
  rw [hbits, number, hword]

theorem bitAt_jumpWitness (grounded teleported : Bool) :
    bitAt (jumpWitness grounded teleported) 0 = grounded
      ∧ bitAt (jumpWitness grounded teleported) 1 = teleported :=
  bitAt_two_flags grounded teleported

theorem bitAt_contentComplete (final next : Bool) :
    bitAt (contentComplete final next) 0 = final
      ∧ bitAt (contentComplete final next) 1 = next :=
  bitAt_two_flags final next

end GameplayPack

-- ============================================================== payloads

namespace Call

open GameplayPack GameplayEventSink

attribute [simp] emission meaning wordOf quarters stepMicroseconds
  Emission.record emit flagLane

/-- Before the last zone the formatter names the zone's successor. -/
theorem nextLevel?_eq {present : Bool} {zone : UInt16}
    (h : present = true → zone < 65535) :
    GameplayWire.nextLevel? present zone = some (nextLevel present zone) := by
  cases present with
  | false => rfl
  | true =>
      have hzone := UInt16.lt_iff_toNat_lt.mp (h rfl)
      have hroom : zone.toNat + 1 < 65536 := by
        have : (65535 : UInt16).toNat = 65535 := rfl
        omega
      simp [GameplayWire.nextLevel?, GameplayWire.nextResource?, nextLevel,
        hroom]

section Prints

variable {tick frame : UInt32} {zone : UInt16}

/-- The formatter prints what the call means. -/
def Prints (call : Call) (tick frame : UInt32) (zone : UInt16) : Prop :=
  payload call.emission.kind (call.emission.record tick frame zone)
    = some (call.meaning tick zone)

theorem actionEdge_prints (action : GameAction) (source : InputSource)
    (pressed : Bool) {held : Int} (hfits : FitsLane held)
    (hsound : 0 ≤ held) :
    (actionEdge action source pressed held).Prints tick frame zone := by
  obtain ⟨haction, hsource⟩ := bits_edge action source
  have hheld : min 32767 (max 0 held) = held := by
    rw [max_eq_right hsound, min_eq_right hfits.2]
  refine congrArg some ?_
  simp [emitActionEdge, haction, hsource, hheld, toInt_truncating hfits,
    GameplayWire.actionLabel, GameplayWire.sourceLabel]

theorem pausePressConsumed_prints :
    pausePressConsumed.Prints tick frame zone :=
  congrArg some rfl

theorem contextualConsume_prints (kind : GameplayContextualAction)
    (suppressed : Bool) :
    (contextualConsume kind suppressed).Prints tick frame zone := by
  refine congrArg some ?_
  simp [emitContextualConsume, GameplayWire.contextualLabel]

-- ---------------------------------------------------------------- player

theorem motion_prints (state : PlayerMotionState) (grounded : Bool)
    (facing : PlayerFacing) (suit : Bool) {position : CGPoint} {vx vy : Rat}
    (hx : FitsPixels position.x) (hy : FitsPixels position.y)
    (hvx : FitsPixels vx) (hvy : FitsPixels vy) :
    (motion state grounded facing suit position vx vy).Prints
      tick frame zone := by
  obtain ⟨hstate, hgrounded, hfacing, hsuit⟩ :=
    bits_motion state grounded facing suit
  refine congrArg some ?_
  simp [emitMotion, hstate, hgrounded, hfacing, hsuit, toInt_q hx,
    toInt_q hy, toInt_q hvx, toInt_q hvy, motionLabel_wireCode,
    GameplayWire.facingLabel, number]

theorem jump_prints {position : CGPoint} {velocity : Rat}
    (grounded teleported : Bool) (hx : FitsPixels position.x)
    (hy : FitsPixels position.y) (hvelocity : FitsPixels velocity) :
    (jump position velocity grounded teleported).Prints tick frame zone := by
  obtain ⟨hgrounded, hteleported⟩ := bitAt_jumpWitness grounded teleported
  refine congrArg some ?_
  simp [emitJump, hgrounded, hteleported, toInt_q hx, toInt_q hy,
    toInt_q hvelocity]

theorem land_prints {position : CGPoint} {fallSpeed : Rat}
    (support : GameplaySupport) (hx : FitsPixels position.x)
    (hy : FitsPixels position.y) (hspeed : FitsPixels fallSpeed) :
    (land position fallSpeed support).Prints tick frame zone := by
  refine congrArg some ?_
  simp [emitLand, toInt_q hx, toInt_q hy, toInt_q hspeed,
    GameplayWire.supportLabel]

theorem crouchEdge_prints (begins : Bool) {position : CGPoint}
    (hx : FitsPixels position.x) (hy : FitsPixels position.y) :
    (crouchEdge begins position).Prints tick frame zone := by
  cases begins <;>
  · refine congrArg some ?_
    simp [emitCrouchEdge, emitPosition, toInt_q hx, toInt_q hy]

theorem exoskeleton_prints (enabled : Bool)
    (cause : GameplayExoskeletonCause) :
    (exoskeleton enabled cause).Prints tick frame zone := by
  refine congrArg some ?_
  simp [emitExoskeleton, GameplayWire.exoskeletonCauseLabel]

theorem blasterShot_prints {origin : CGPoint} (facing : PlayerFacing)
    (double : Bool) {before after : Int} (hx : FitsPixels origin.x)
    (hy : FitsPixels origin.y) (hbefore : FitsLane before)
    (hafter : FitsLane after) :
    (blasterShot origin facing double before after).Prints
      tick frame zone := by
  obtain ⟨hfacing, hdouble⟩ := bits_blaster facing double
  refine congrArg some ?_
  simp [emitBlasterShot, hfacing, hdouble, toInt_q hx, toInt_q hy,
    toInt_truncating hbefore, toInt_truncating hafter,
    GameplayWire.facingLabel]

theorem shootDenied_prints (reason : GameplayShootDeniedReason) {ammo : Int}
    (hammo : FitsLane ammo) :
    (shootDenied reason ammo).Prints tick frame zone := by
  refine congrArg some ?_
  simp [emitShootDenied, toInt_truncating hammo,
    GameplayWire.shootDeniedReasonLabel]

theorem grenadeThrow_prints {origin : CGPoint} (direction : PlayerFacing)
    {before after : Int} (blocked : Bool) (hx : FitsPixels origin.x)
    (hy : FitsPixels origin.y) (hbefore : FitsLane before)
    (hafter : FitsLane after) :
    (grenadeThrow origin direction before after blocked).Prints
      tick frame zone := by
  obtain ⟨hdirection, hblocked⟩ := bits_grenadeThrow direction blocked
  refine congrArg some ?_
  simp only [emission, meaning, wordOf, quarters, Emission.record, emit,
    emitGrenadeThrow, hdirection, hblocked, toInt_q hx, toInt_q hy,
    toInt_truncating hbefore, toInt_truncating hafter,
    GameplayWire.facingLabel, labelFor_wireCode]

theorem teleport_prints {source target : CGPoint} {portal : Int}
    (held : Bool) (hx : FitsPixels source.x) (hy : FitsPixels source.y)
    (hx' : FitsPixels target.x) (hy' : FitsPixels target.y)
    (hportal : FitsField 8 portal) :
    (teleport source target portal held).Prints tick frame zone := by
  obtain ⟨hindex, hheld⟩ := number_teleport held hportal
  refine congrArg some ?_
  simp [emitTeleport, hindex, hheld, toInt_q hx, toInt_q hy, toInt_q hx',
    toInt_q hy']

theorem deathBegin_prints {position : CGPoint} {lives ammo grenades : Int}
    (hx : FitsPixels position.x) (hy : FitsPixels position.y)
    (hlives : FitsLane lives) (hammo : FitsLane ammo)
    (hgrenades : FitsWord grenades) :
    (deathBegin position lives ammo grenades).Prints tick frame zone := by
  refine congrArg some ?_
  simp [emitDeathBegin, toInt_q hx, toInt_q hy, toInt_truncating hlives,
    toInt_truncating hammo, number, toNat_truncatingWord hgrenades]

theorem deathLanded_prints {position : CGPoint} {ticks : Int}
    (hx : FitsPixels position.x) (hy : FitsPixels position.y)
    (hticks : FitsLane ticks) :
    (deathLanded position ticks).Prints tick frame zone := by
  refine congrArg some ?_
  simp [emitDeathLanded, toInt_q hx, toInt_q hy, toInt_truncating hticks]

theorem deathSettled_prints {before after invulnerability settle : Int}
    (saved : Bool) (hbefore : FitsLane before) (hafter : FitsLane after)
    (hinvulnerability : FitsLane invulnerability) (hsettle : FitsLane settle)
    (hpos : 0 ≤ invulnerability) (hpos' : 0 ≤ settle) :
    (deathSettled before after invulnerability settle saved).Prints
      tick frame zone := by
  have hsaved : bitAt (settled saved) 0 = saved := bitAt_bit saved
  refine congrArg some ?_
  simp [emitDeathSettled, hsaved, toInt_truncating hbefore,
    toInt_truncating hafter, toInt_truncating hinvulnerability,
    toInt_truncating hsettle, microseconds_eq hpos, microseconds_eq hpos']

theorem gameOver_prints {points high : Int} (cleared : Bool)
    (hpoints : FitsTwoLanes points) (hhigh : FitsTwoLanes high) :
    (gameOver points high cleared).Prints tick frame zone := by
  have hcleared : bitAt (GameplayPack.gameOver cleared) 0 = cleared :=
    bitAt_bit cleared
  refine congrArg some ?_
  simp [emitGameOver, hcleared, joined_split hpoints, joined_split hhigh,
    number]

theorem blockedHit_prints (cause : GameplayDamageCause)
    {invulnerability : Int} (test : Bool)
    (hinvulnerability : FitsTwoLanes invulnerability) :
    (blockedHit cause invulnerability test).Prints tick frame zone := by
  obtain ⟨hcause, htest⟩ := bits_blocked cause test
  refine congrArg some ?_
  simp [emitBlockedHit, hcause, htest, max_eq_right hinvulnerability.1,
    joined_split hinvulnerability, GameplayWire.damageCauseLabel]

theorem playerHit_prints (cause : GameplayDamageCause) {position : CGPoint}
    (before after : GameFlowState) {lives : Int}
    (hx : FitsPixels position.x) (hy : FitsPixels position.y)
    (hlives : FitsLane lives) :
    (playerHit cause position before after lives).Prints tick frame zone := by
  obtain ⟨hcause, hbefore, hafter⟩ := bits_hit cause before after
  refine congrArg some ?_
  simp [emitPlayerHit, hcause, hbefore, hafter, toInt_q hx, toInt_q hy,
    toInt_truncating hlives, GameplayWire.damageCauseLabel,
    GameplayWire.flowLabel]

-- ---------------------------------------------------- pickups and points

theorem pickupCollected_prints (kind : GameplayPickupKind)
    {before after : Int} {origin : CGPoint} (hx : FitsPixels origin.x)
    (hy : FitsPixels origin.y) (hbefore : FitsLane before)
    (hafter : FitsLane after) :
    (pickupCollected kind before after origin).Prints tick frame zone := by
  refine congrArg some ?_
  simp [emitPickupCollected, toInt_q hx, toInt_q hy,
    toInt_truncating hbefore, toInt_truncating hafter,
    GameplayWire.pickupKindLabel]

theorem doubleLauncherBonus_prints {points : Int} (launcher : UInt16)
    {origin : CGPoint} (active : Bool) (hx : FitsPixels origin.x)
    (hy : FitsPixels origin.y) (hpoints : FitsLane points) :
    (doubleLauncherBonus points launcher origin active).Prints
      tick frame zone := by
  refine congrArg some ?_
  simp [emitDoubleLauncherBonus, toInt_q hx, toInt_q hy,
    toInt_truncating hpoints, number]

theorem stageBoundaryPoints_prints {points before after : Int}
    (reset : Bool) (hpoints : FitsTwoLanes points)
    (hbefore : FitsField 4 before) (hafter : FitsField 4 after) :
    (stageBoundaryPoints points before after reset).Prints
      tick frame zone := by
  obtain ⟨hlives, hlives', hreset⟩ := number_stagePoints reset hbefore hafter
  refine congrArg some ?_
  simp [emitStageBoundaryPoints, hlives, hlives', hreset,
    joined_split hpoints]
  rfl

theorem stageAwardComponent_prints (component : GameplayStageComponent)
    {points : Int} (hpoints : FitsLane points) :
    (stageAwardComponent component points).Prints tick frame zone := by
  refine congrArg some ?_
  simp [emitStageAwardComponent, toInt_truncating hpoints, number,
    GameplayWire.stageComponentLabel]

theorem stageBoundarySuppressed_prints
    (reason : GameplayStageSuppressionReason) :
    (stageBoundarySuppressed reason).Prints tick frame zone := by
  refine congrArg some ?_
  simp [emitStageBoundarySuppressed, number,
    GameplayWire.stageSuppressionReasonLabel]

theorem scoreAwarded_prints {points before : Int}
    (reason : GameplayScoreReason) (hpoints : FitsLane points)
    (hbefore : FitsTwoLanes before) :
    (scoreAwarded points before reason).Prints tick frame zone := by
  refine congrArg some ?_
  simp [emitScoreAwarded, toInt_truncating hpoints, joined_split hbefore,
    GameplayWire.scoreReasonLabel]

theorem highScoreSaved_prints {value : Int} (hvalue : FitsTwoLanes value) :
    (highScoreSaved value).Prints tick frame zone := by
  refine congrArg some ?_
  simp [emitHighScoreSaved, joined_split hvalue]

-- -------------------------------------------------------- flow and zones

theorem flowChange_prints (source target : GameFlowState)
    (cause : GameplayFlowCause) :
    (flowChange source target cause).Prints tick frame zone := by
  refine congrArg some ?_
  simp [emitFlowChange, GameplayWire.flowLabel, GameplayWire.flowCauseLabel]

theorem zoneLoad_prints (cause : GameplayZoneLoadCause) :
    (zoneLoad cause).Prints tick frame zone := by
  refine congrArg some ?_
  simp [emitZoneLoad, number, GameplayWire.zoneLoadCauseLabel]

theorem zoneLoaded_prints {solids : Int} {spawn : CGPoint} {ground : Rat}
    {invulnerability : Int} (carried : Bool) (hsolids : FitsLane solids)
    (hx : FitsPixels spawn.x) (hy : FitsPixels spawn.y)
    (hground : FitsPixels ground)
    (hinvulnerability : FitsField 9 invulnerability) :
    (zoneLoaded solids spawn ground invulnerability carried).Prints
      tick frame zone := by
  obtain ⟨hticks, hcarried⟩ := number_zoneLoaded carried hinvulnerability
  have hzone : number zone = zone.toNat := rfl
  refine congrArg some ?_
  simp [emitZoneLoaded, hticks, hcarried, hzone, toInt_truncating hsolids,
    toInt_q hx, toInt_q hy, toInt_q hground,
    microseconds_eq hinvulnerability.1]

theorem zoneExit_prints {trigger player : Rat} {next : Bool}
    (htrigger : FitsPixels trigger) (hplayer : FitsPixels player)
    (hnext : next = true → zone < 65535) :
    (zoneExit trigger player next).Prints tick frame zone := by
  have hlevel : GameplayWire.nextLevel?
      ((if next then 1 else 0 : UInt16) != 0) zone
      = some (nextLevel next zone) := by
    rw [flagWord_ne_zero, nextLevel?_eq hnext]
  refine (congrArg (Option.map _) hlevel).trans ?_
  refine congrArg some ?_
  simp [emitZoneExit, number, toInt_q htrigger, toInt_q hplayer]

theorem zoneTransition_prints {toZone accumulator pending : Int}
    (htoZone : FitsWord toZone) (haccumulator : FitsTwoLanes accumulator)
    (hpending : FitsLane pending) :
    (zoneTransition toZone accumulator pending).Prints tick frame zone := by
  refine congrArg some ?_
  simp [emitZoneTransition, number, toNat_truncatingWord htoZone,
    joined_split haccumulator, toInt_truncating hpending]

theorem contentComplete_prints {points : Int} (final : Bool) {next : Bool}
    (hpoints : FitsTwoLanes points) (hnext : next = true → zone < 65535) :
    (contentComplete points final next).Prints tick frame zone := by
  obtain ⟨hfinal, hflag⟩ := bitAt_contentComplete final next
  have hlevel : GameplayWire.nextLevel?
      (bitAt (GameplayPack.contentComplete final next) 1) zone
      = some (nextLevel next zone) := by
    rw [hflag, nextLevel?_eq hnext]
  refine (congrArg (Option.map _) hlevel).trans ?_
  refine congrArg some ?_
  simp [emitContentComplete, number, hfinal, joined_split hpoints]

theorem titleEnter_prints {high : Int} (saved : Bool)
    (hhigh : FitsTwoLanes high) :
    (titleEnter high saved).Prints tick frame zone := by
  have hsaved : bitAt (GameplayPack.titleEnter saved) 0 = saved :=
    bitAt_bit saved
  refine congrArg some ?_
  simp [emitTitleEnter, hsaved, joined_split hhigh]

theorem checkpointSaved_prints {ammo grenades lives points : Int}
    (hammo : FitsField 7 ammo) (hgrenades : FitsField 5 grenades)
    (hlives : FitsField 4 lives) (hpoints : FitsTwoLanes points) :
    (checkpointSaved ammo grenades lives points).Prints tick frame zone := by
  obtain ⟨hammo, hgrenades, hlives⟩ :=
    number_checkpoint hammo hgrenades hlives
  refine congrArg some ?_
  simp [emitCheckpointSaved, hammo, hgrenades, hlives, joined_split hpoints]

theorem checkpointCleared_prints (reason : GameplayCheckpointClearedReason) :
    (checkpointCleared reason).Prints tick frame zone := by
  refine congrArg some ?_
  simp [emitCheckpointCleared, GameplayWire.checkpointClearedReasonLabel]

theorem pauseChanged_prints (entering : Bool) (state : GameFlowState)
    {index : Int} (hindex : FitsLane index) :
    (pauseChanged entering state index).Prints tick frame zone := by
  cases entering <;>
  · refine congrArg some ?_
    simp [emitPauseChanged, GameplayWire.flowLabel, toInt_truncating hindex]

theorem runRestarted_prints {points : Int} (hpoints : FitsTwoLanes points) :
    (runRestarted points).Prints tick frame zone := by
  refine congrArg some ?_
  simp [emitRunRestarted, number, joined_split hpoints]

theorem cheatInvulnerability_prints (enabled : Bool) {index : Int}
    (hindex : FitsLane index) :
    (cheatInvulnerability enabled index).Prints tick frame zone := by
  refine congrArg some ?_
  simp [emitCheatInvulnerability, toInt_truncating hindex]

-- ----------------------------------------------------- ticks and objects

theorem frameGapClamped_prints {raw : Int} (hraw : FitsTwoLanes raw) :
    (frameGapClamped raw).Prints tick frame zone := by
  refine congrArg some ?_
  simp [emitFrameGapClamped, joined_split hraw]

theorem accumulatorReset_prints (reason : GameplayAccumulatorResetReason)
    {discarded steps : Int} (hdiscarded : FitsTwoLanes discarded)
    (hsteps : FitsLane steps) :
    (accumulatorReset reason discarded steps).Prints tick frame zone := by
  refine congrArg some ?_
  simp [emitAccumulatorReset, joined_split hdiscarded,
    toInt_truncating hsteps, GameplayWire.accumulatorResetReasonLabel]

theorem slowStep_prints {step steps : Int} (hstep : FitsTwoLanes step)
    (hsteps : FitsLane steps) :
    (slowStep step steps).Prints tick frame zone := by
  refine congrArg some ?_
  simp [emitSlowStep, joined_split hstep, toInt_truncating hsteps]

theorem launcherFired_prints (object : UInt16) {origin : CGPoint}
    {muzzle : Rat} (hx : FitsPixels origin.x) (hy : FitsPixels origin.y)
    (hmuzzle : FitsPixels muzzle) :
    (launcherFired object origin muzzle).Prints tick frame zone := by
  refine congrArg some ?_
  simp [emitLauncherFired, toInt_q hx, toInt_q hy, toInt_q hmuzzle]

theorem heartbeat_prints {events drops : Nat} (flow : GameFlowState)
    (hevents : FitsTwoLanes events) (hdrops : FitsTwoLanes drops) :
    (heartbeat events drops flow).Prints tick frame zone := by
  refine congrArg some ?_
  simp [GameplayEventSink.heartbeat, number, joined_split32 hevents,
    joined_split32 hdrops, GameplayWire.flowLabel,
    microseconds_eq (Int.natCast_nonneg tick.toNat)]

/-- Every call is printed as what it means. -/
theorem prints {call : Call} (hfits : call.Fits) (hsound : call.Sound zone) :
    call.Prints tick frame zone := by
  cases call with
  | actionEdge action source pressed held =>
      exact actionEdge_prints action source pressed hfits hsound
  | pausePressConsumed => exact pausePressConsumed_prints
  | contextualConsume kind suppressed =>
      exact contextualConsume_prints kind suppressed
  | motion state grounded facing suit position vx vy =>
      obtain ⟨hx, hy, hvx, hvy⟩ := hfits
      exact motion_prints state grounded facing suit hx hy hvx hvy
  | jump position velocity grounded teleported =>
      obtain ⟨hx, hy, hvelocity⟩ := hfits
      exact jump_prints grounded teleported hx hy hvelocity
  | land position fallSpeed support =>
      obtain ⟨hx, hy, hspeed⟩ := hfits
      exact land_prints support hx hy hspeed
  | crouchEdge begins position => exact crouchEdge_prints begins hfits.1 hfits.2
  | exoskeleton enabled cause => exact exoskeleton_prints enabled cause
  | blasterShot origin facing double before after =>
      obtain ⟨hx, hy, hbefore, hafter⟩ := hfits
      exact blasterShot_prints facing double hx hy hbefore hafter
  | shootDenied reason ammo => exact shootDenied_prints reason hfits
  | grenadeThrow origin direction before after blocked =>
      obtain ⟨hx, hy, hbefore, hafter⟩ := hfits
      exact grenadeThrow_prints direction blocked hx hy hbefore hafter
  | teleport source target portal held =>
      obtain ⟨hx, hy, hx', hy', hportal⟩ := hfits
      exact teleport_prints held hx hy hx' hy' hportal
  | deathBegin position lives ammo grenades =>
      obtain ⟨hx, hy, hlives, hammo, hgrenades⟩ := hfits
      exact deathBegin_prints hx hy hlives hammo hgrenades
  | deathLanded position ticks =>
      obtain ⟨hx, hy, hticks⟩ := hfits
      exact deathLanded_prints hx hy hticks
  | deathSettled before after invulnerability settle saved =>
      obtain ⟨hbefore, hafter, hinvulnerability, hsettle⟩ := hfits
      exact deathSettled_prints saved hbefore hafter hinvulnerability hsettle
        hsound.1 hsound.2
  | gameOver points high cleared =>
      exact gameOver_prints cleared hfits.1 hfits.2
  | blockedHit cause invulnerability test =>
      exact blockedHit_prints cause test hfits
  | playerHit cause position before after lives =>
      obtain ⟨hx, hy, hlives⟩ := hfits
      exact playerHit_prints cause before after hx hy hlives
  | pickupCollected kind before after origin =>
      obtain ⟨hx, hy, hbefore, hafter⟩ := hfits
      exact pickupCollected_prints kind hx hy hbefore hafter
  | doubleLauncherBonus points launcher origin active =>
      obtain ⟨hx, hy, hpoints⟩ := hfits
      exact doubleLauncherBonus_prints launcher active hx hy hpoints
  | stageBoundaryPoints points before after reset =>
      obtain ⟨hpoints, hbefore, hafter⟩ := hfits
      exact stageBoundaryPoints_prints reset hpoints hbefore hafter
  | stageAwardComponent component points =>
      exact stageAwardComponent_prints component hfits
  | stageBoundarySuppressed reason =>
      exact stageBoundarySuppressed_prints reason
  | scoreAwarded points before reason =>
      exact scoreAwarded_prints reason hfits.1 hfits.2
  | highScoreSaved value => exact highScoreSaved_prints hfits
  | flowChange source target cause =>
      exact flowChange_prints source target cause
  | zoneLoad cause => exact zoneLoad_prints cause
  | zoneLoaded solids spawn ground invulnerability carried =>
      obtain ⟨hsolids, hx, hy, hground, hinvulnerability⟩ := hfits
      exact zoneLoaded_prints carried hsolids hx hy hground hinvulnerability
  | zoneExit trigger player next =>
      exact zoneExit_prints hfits.1 hfits.2 hsound
  | zoneTransition toZone accumulator pending =>
      obtain ⟨htoZone, haccumulator, hpending⟩ := hfits
      exact zoneTransition_prints htoZone haccumulator hpending
  | contentComplete points final next =>
      exact contentComplete_prints final hfits hsound
  | titleEnter high saved => exact titleEnter_prints saved hfits
  | checkpointSaved ammo grenades lives points =>
      obtain ⟨hammo, hgrenades, hlives, hpoints⟩ := hfits
      exact checkpointSaved_prints hammo hgrenades hlives hpoints
  | checkpointCleared reason => exact checkpointCleared_prints reason
  | pauseChanged entering state index =>
      exact pauseChanged_prints entering state hfits
  | runRestarted points => exact runRestarted_prints hfits
  | cheatInvulnerability enabled index =>
      exact cheatInvulnerability_prints enabled hfits
  | frameGapClamped raw => exact frameGapClamped_prints hfits
  | accumulatorReset reason discarded steps =>
      exact accumulatorReset_prints reason hfits.1 hfits.2
  | slowStep step steps => exact slowStep_prints hfits.1 hfits.2
  | launcherFired object origin muzzle =>
      obtain ⟨hx, hy, hmuzzle⟩ := hfits
      exact launcherFired_prints object hx hy hmuzzle
  | heartbeat events drops flow =>
      exact heartbeat_prints flow hfits.1 hfits.2

end Prints

-- ================================================================= lines

/-- The envelope of the line a call ends in. -/
def envelope (call : Call) (tick frame : UInt32) (seq rot : Int) :
    Envelope where
  schemaVersion := 1
  seq := seq
  tick := tick.toNat
  frame := frame.toNat
  rot := rot
  name := call.emission.kind.label.toList

/-- The members of the line a call asks for: the envelope and what the
arguments mean. -/
def members (call : Call) (tick frame : UInt32) (zone : UInt16)
    (seq rot : Int) : List (Text × Json) :=
  ((call.envelope tick frame seq rot).fields ++ call.meaning tick zone).map
    Field.member

/-- The line of a call reads back as the call's members. -/
def RoundTrips (call : Call) (tick frame : UInt32) (zone : UInt16)
    (seq rot : Int) : Prop :=
  ∃ text,
    formatRecord (call.emission.record tick frame zone) seq rot = some text
      ∧ Json.parse text = some (.obj (call.members tick frame zone seq rot))

/-- What the formatter makes of a call that is printed as what it means. -/
theorem Prints.formatRecord {call : Call} {tick frame : UInt32}
    {zone : UInt16} (seq rot : Int) (h : call.Prints tick frame zone) :
    formatRecord (call.emission.record tick frame zone) seq rot
      = some (lineText (call.envelope tick frame seq rot)
        (call.meaning tick zone)) := by
  have hkind : GameplayEventKind.ofRawValue
      (call.emission.record tick frame zone).kind = some call.emission.kind :=
    GameplayEventKind.ofRawValue_rawValue call.emission.kind
  have happend : appendPayload (call.emission.record tick frame zone)
      = some (call.meaning tick zone) := by
    unfold appendPayload
    rw [hkind]
    exact h
  have hname : GameplayEventKind.nameText
      (call.emission.record tick frame zone).kind
      = call.emission.kind.label.toList := by
    unfold GameplayEventKind.nameText
    rw [hkind]
  unfold Exolon.formatRecord
  rw [happend, Option.map_some, hname]
  rfl

/-- Every line in range reads back as the arguments of its call. -/
theorem roundTrips {call : Call} (tick frame : UInt32) {zone : UInt16}
    (seq rot : Int) (hfits : call.Fits) (hsound : call.Sound zone) :
    call.RoundTrips tick frame zone seq rot := by
  have hprints : call.Prints tick frame zone := prints hfits hsound
  refine ⟨_, hprints.formatRecord seq rot, ?_⟩
  apply lineText_parses
  · exact Envelope.readable (GameplayEventKind.label_char _)
  · refine ⟨?_, payload_clean hprints⟩
    intro f hf
    exact (payload_names hprints).2 f.name (List.mem_map_of_mem hf)

theorem roundTrips_playerHit :
    (playerHit .bullet ⟨100, 401 / 4⟩ .playing .playerDead 3).Fits
      ∧ (playerHit .bullet ⟨100, 401 / 4⟩ .playing .playerDead 3).RoundTrips
        60 60 4 12 0 := by
  have hfits :
      (playerHit .bullet ⟨100, 401 / 4⟩ .playing .playerDead 3).Fits := by
    refine ⟨?_, ?_, ?_⟩
    · unfold FitsPixels FitsLane
      decide +kernel
    · unfold FitsPixels FitsLane
      decide +kernel
    · unfold FitsLane
      decide
  exact ⟨hfits, roundTrips 60 60 12 0 hfits trivial⟩

/-- The number a line gives for a member. -/
def numberIn (text : Text) (name : String) : Option (Int × Int) :=
  ((Json.parse text).bind (Json.get? name.toList)).bind fun
    | .num mantissa exponent => some (mantissa, exponent)
    | _ => none

/-- In range, a held time below zero is printed as zero, a negative count
of steps is not rounded to the nearest microsecond, and a next level named
from the last zone has no line. -/
theorem not_roundTrips :
    ((actionEdge .fire .keyboard true (-1)).Fits
      ∧ ¬(actionEdge .fire .keyboard true (-1)).RoundTrips 0 0 0 0 0)
    ∧ ((deathSettled 3 2 (-1) 70 true).Fits
      ∧ ¬(deathSettled 3 2 (-1) 70 true).RoundTrips 0 0 0 0 0)
    ∧ ((zoneExit 510 511 true).Fits
      ∧ ¬(zoneExit 510 511 true).RoundTrips 0 0 65535 0 0) := by
  refine ⟨⟨?_, ?_⟩, ⟨?_, ?_⟩, ⟨?_, ?_⟩⟩
  · constructor <;> decide
  · rintro ⟨text, htext, hparse⟩
    have hzero : (formatRecord ((actionEdge .fire .keyboard true
        (-1)).emission.record 0 0 0) 0 0).bind (numberIn · "held_us")
        = some (0, 0) := by decide +kernel
    rw [htext, Option.bind_some, numberIn, hparse] at hzero
    exact absurd hzero (by decide +kernel)
  · refine ⟨?_, ?_, ?_, ?_⟩ <;> constructor <;> decide
  · rintro ⟨text, htext, hparse⟩
    have hzero : (formatRecord ((deathSettled 3 2 (-1) 70
        true).emission.record 0 0 0) 0 0).bind
          (numberIn · "invulnerability_us")
        = some (-16666, 0) := by decide +kernel
    rw [htext, Option.bind_some, numberIn, hparse] at hzero
    exact absurd hzero (by decide +kernel)
  · constructor
    · unfold FitsPixels FitsLane
      decide +kernel
    · unfold FitsPixels FitsLane
      decide +kernel
  · rintro ⟨text, htext, _⟩
    have hnone : formatRecord ((zoneExit 510 511 true).emission.record
        0 0 65535) 0 0 = none := by decide +kernel
    rw [hnone] at htext
    cases htext

end Call

end Exolon

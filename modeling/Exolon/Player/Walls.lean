/-
The player and the solids.

After a step of motion the scene moves the player out of each solid he
still meets, in the order of the list: onto it, under it, or beside it.
`Clear` is what this needs to end outside of all of them. Every solid he
meets has a face he can be moved to, no two walls are on opposite sides of
him, and a solid he does not meet at first is not met where he is moved to.

The walls move him along the first axis (`XPlace`), floors and ceilings
along the other one. A solid whose turn is over stays cleared, since each
axis is only gone along in one direction.
-/
import Exolon.Player.Player

namespace Exolon.Motion

open Run Motion.Player

-- ================================================================== boxes

section Boxes

variable (p : Player) (c : CGPoint) (solid : CGRect)

theorem movementSize_width : p.movementSize.width = 46 := by
  unfold movementSize
  split
  · rfl
  · rfl

theorem movementSize_height_pos : 0 < p.movementSize.height := by
  unfold movementSize
  split
  · norm_num [GameConstants.playerCrouchingMovementSize]
  · norm_num [GameConstants.playerStandingMovementSize]

theorem box_minX : (p.movementHitboxAt c).minX = c.x - 23 := by
  unfold movementHitboxAt
  rw [CGRect.minX_mk (by rw [movementSize_width]; norm_num),
    movementSize_width]
  norm_num

theorem box_maxX : (p.movementHitboxAt c).maxX = c.x + 23 := by
  unfold movementHitboxAt
  rw [CGRect.maxX_mk (by rw [movementSize_width]; norm_num),
    movementSize_width]
  linarith

theorem box_minY : (p.movementHitboxAt c).minY = c.y - 32 := by
  unfold movementHitboxAt
  rw [CGRect.minY_mk (movementSize_height_pos p).le]
  norm_num [GameConstants.playerSpriteSize]

theorem box_maxY :
    (p.movementHitboxAt c).maxY = c.y - 32 + p.movementSize.height := by
  unfold movementHitboxAt
  rw [CGRect.maxY_mk (movementSize_height_pos p).le]
  norm_num [GameConstants.playerSpriteSize]

theorem box_width : (p.movementHitboxAt c).width = 46 := by
  unfold CGRect.width
  rw [box_maxX, box_minX]
  linarith

/-- The box at a place meets a solid. -/
structure Meets : Prop where
  left : c.x - 23 < solid.maxX
  right : solid.minX < c.x + 23
  bottom : c.y - 32 < solid.maxY
  top : solid.minY < c.y - 32 + p.movementSize.height
  wide : solid.minX < solid.maxX
  tall : solid.minY < solid.maxY

theorem meets_iff :
    (p.movementHitboxAt c).intersects solid = true ↔ Meets p c solid := by
  have hheight := movementSize_height_pos p
  unfold CGRect.intersects
  rw [box_minX, box_maxX, box_minY, box_maxY, Bool.and_eq_true,
    decide_eq_true_iff, decide_eq_true_iff, max_lt_iff, lt_min_iff, lt_min_iff,
    max_lt_iff, lt_min_iff, lt_min_iff]
  constructor
  · intro h
    obtain ⟨⟨⟨_, hleft⟩, hright, hwide⟩, ⟨_, hbottom⟩, htop, htall⟩ := h
    exact ⟨hleft, hright, hbottom, htop, hwide, htall⟩
  · intro h
    exact ⟨⟨⟨by linarith, h.left⟩, h.right, h.wide⟩,
      ⟨by linarith, h.bottom⟩, h.top, h.tall⟩

end Boxes

-- ============================================================ the condition

section Condition

variable (first : Player) (before : CGPoint) (solids : List CGRect)
  (solid : CGRect)

/-- The player can stand on the solid from the place before: its top is no
more than 1 over his feet. -/
def Below : Prop := solid.maxY - 1 ≤ before.y - 32

/-- The solid was over the player, or no more than 1 of it was not. -/
def Above : Prop :=
  before.y - 32 + first.movementSize.height ≤ solid.minY + 1

/-- The solid was to the right of the player, or no more than 1 of it was
not. -/
def WallRight : Prop := before.x + 23 ≤ solid.minX + 1

def WallLeft : Prop := solid.maxX - 1 ≤ before.x - 23

/-- The place beside a wall. -/
def BesidePlace (x : Rat) : Prop :=
  (WallRight before solid ∧ x = solid.minX - 23)
    ∨ (WallLeft before solid ∧ x = solid.maxX + 23)

/-- A solid that is met after the motion, and is none to stand on. -/
def FallWall (wall : CGRect) : Prop :=
  wall ∈ solids ∧ Meets first first.position wall ∧ ¬Below before wall

/-- A solid that is met after the motion, and is not over the player. -/
def RiseWall (wall : CGRect) : Prop :=
  wall ∈ solids ∧ Meets first first.position wall ∧ ¬Above first before wall

/-- Where the player is, or is put beside a wall. -/
def XPlace (W : CGRect → Prop) (x : Rat) : Prop :=
  x = first.position.x ∨ ∃ wall, W wall ∧ BesidePlace before wall x

/-- No two walls on opposite sides. -/
def OneSide (W : CGRect → Prop) : Prop :=
  ∀ wall other, W wall → W other → WallRight before wall →
    ¬WallLeft before other

/-- The player out of the ground. -/
def airborne : Player := { first with isGrounded := false }

/-- A player who does not rise: what he meets is to stand on or a wall, and
what he does not meet is not met on a floor or beside a wall either. -/
structure Falls : Prop where
  down : first.velocity.dy ≤ 0
  faces : ∀ solid ∈ solids, Meets first first.position solid →
    Below before solid ∨ WallRight before solid ∨ WallLeft before solid
  oneSide : OneSide before (FallWall first before solids)
  way : ∀ solid ∈ solids, ∀ c : CGPoint,
    XPlace first before (FallWall first before solids) c.x →
    (c.y = first.position.y ∨ ∃ floor ∈ solids,
      Meets first first.position floor ∧ Below before floor
        ∧ c.y = floor.maxY + 32) →
    Meets first c solid → Meets first first.position solid

/-- A player who rises: what he meets is over him or a wall. The solids over
him come lowest first, and behind them none to stand on. What he does not
meet is not met under a solid or beside a wall either. -/
structure Rises : Prop where
  up : 0 < first.velocity.dy
  faces : ∀ solid ∈ solids, Meets first first.position solid →
    Above first before solid ∨ WallRight before solid
      ∨ WallLeft before solid
  oneSide : OneSide before (RiseWall first before solids)
  order : solids.Pairwise fun ceiling other =>
    Meets first first.position ceiling → Above first before ceiling →
    Meets first first.position other →
      (Above first before other → ceiling.minY ≤ other.minY)
        ∧ ¬Below before other
  way : ∀ solid ∈ solids, ∀ c : CGPoint,
    XPlace first before (RiseWall first before solids) c.x →
    ((c.y = first.position.y ∧ Meets first c solid)
      ∨ ∃ ceiling ∈ solids, Meets first first.position ceiling
        ∧ Above first before ceiling ∧ c.y = ceiling.minY - 31
        ∧ Meets (airborne first) c solid) →
    Meets first first.position solid

/-- The player after the motion can be moved out of the solids. -/
def Clear : Prop := Falls first before solids ∨ Rises first before solids

end Condition

-- ================================================================ one turn

section Turns

variable {q q' : Player} {before : CGPoint} {solid : CGRect}

/-- What is done about a solid in its turn. -/
def Player.turn (before : CGPoint) (q : Player) (solid : CGRect) : Player :=
  if q.movementHitbox.intersects solid then
    q.resolveSolidCollision before solid
  else q

theorem resolveAll_eq (solids : List CGRect) :
    q.resolveAll before solids
      = solids.foldl (fun q solid => q.turn before solid) q := rfl

theorem turn_missed (h : ¬Meets q q.position solid) :
    q.turn before solid = q :=
  if_neg fun hmeets => h ((meets_iff q q.position solid).mp hmeets)

theorem turn_met (h : Meets q q.position solid) :
    q.turn before solid
      = q.resolve before solid (q.contact before solid) := by
  have hmeets : q.movementHitbox.intersects solid = true :=
    (meets_iff q q.position solid).mpr h
  unfold turn resolveSolidCollision
  rw [if_pos hmeets, if_pos hmeets]

/-- What is found of a solid that is met, by the place before. -/
theorem contact_eq (h : Meets q q.position solid) :
    q.contact before solid =
      if q.velocity.dy ≤ 0 ∧ solid.maxY - 1 ≤ before.y - 32 then .land
      else if 0 < q.velocity.dy
        ∧ before.y - 32 + q.movementSize.height ≤ solid.minY + 1 then .ceiling
      else if before.x + 23 ≤ solid.minX + 1 then .side (solid.minX - 23)
      else if solid.maxX - 1 ≤ before.x - 23 then .side (solid.maxX + 23)
      else if !q.isDying then .fallback else .none := by
  have hwidth : q.movementHitbox.width * (1 / 2) = 23 := by
    unfold movementHitbox
    rw [box_width]
    norm_num
  unfold contact
  simp only
  rw [hwidth]
  unfold movementHitbox
  rw [box_minY, box_maxY, box_minX, box_maxX, box_minX, box_minY, box_maxX,
    box_maxY]
  simp only [h.left, h.right, h.bottom, h.top, and_true, ge_iff_le, gt_iff_lt]

/-- A solid to stand on is landed on. -/
theorem contact_land (h : Meets q q.position solid)
    (hdown : q.velocity.dy ≤ 0) (hbelow : Below before solid) :
    q.contact before solid = .land := by
  rw [contact_eq h]
  exact if_pos ⟨hdown, hbelow⟩

/-- A rising player is stopped by a solid over him. -/
theorem contact_ceiling (h : Meets q q.position solid)
    (hup : 0 < q.velocity.dy) (habove : Above q before solid) :
    q.contact before solid = .ceiling := by
  rw [contact_eq h, if_neg fun hland => not_lt.mpr hland.1 hup]
  exact if_pos ⟨hup, habove⟩

/-- A wall he neither lands on nor is stopped by. -/
theorem contact_side (h : Meets q q.position solid)
    (hland : ¬(q.velocity.dy ≤ 0 ∧ Below before solid))
    (hceiling : ¬(0 < q.velocity.dy ∧ Above q before solid))
    (hwall : WallRight before solid ∨ WallLeft before solid) :
    ∃ x, q.contact before solid = .side x ∧ BesidePlace before solid x := by
  have hwide := h.wide
  have hno_land :
      ¬(q.velocity.dy ≤ 0 ∧ solid.maxY - 1 ≤ before.y - 32) := hland
  have hno_ceiling : ¬(0 < q.velocity.dy
      ∧ before.y - 32 + q.movementSize.height ≤ solid.minY + 1) := hceiling
  rw [contact_eq h, if_neg hno_land, if_neg hno_ceiling]
  rcases hwall with hr | hl
  · exact ⟨_, if_pos hr, .inl ⟨hr, rfl⟩⟩
  · have hnot : ¬before.x + 23 ≤ solid.minX + 1 := by
      unfold WallLeft at hl
      intro hr
      linarith
    rw [if_neg hnot]
    exact ⟨_, if_pos hl, .inr ⟨hl, rfl⟩⟩

/-- He is moved beside it, and his place along the other axis is kept. -/
theorem turn_side (h : Meets q q.position solid)
    (hland : ¬(q.velocity.dy ≤ 0 ∧ Below before solid))
    (hceiling : ¬(0 < q.velocity.dy ∧ Above q before solid))
    (hwall : WallRight before solid ∨ WallLeft before solid) :
    ∃ x, BesidePlace before solid x ∧ q.turn before solid =
      { q with
        position := ⟨x, q.position.y⟩
        velocity := ⟨0, q.velocity.dy⟩ } := by
  obtain ⟨x, hcontact, hplace⟩ := contact_side h hland hceiling hwall
  refine ⟨x, hplace, ?_⟩
  rw [turn_met h, hcontact]
  rfl

/-- Four ways to miss a solid. -/
theorem missed_cases {c : CGPoint} (hwide : solid.minX < solid.maxX)
    (htall : solid.minY < solid.maxY) (h : ¬Meets q c solid) :
    (c.x + 23 ≤ solid.minX ∨ solid.maxX ≤ c.x - 23)
      ∨ solid.maxY ≤ c.y - 32
      ∨ c.y - 32 + q.movementSize.height ≤ solid.minY := by
  by_contra hnone
  push Not at hnone
  obtain ⟨⟨hright, hleft⟩, hbottom, htop⟩ := hnone
  exact h ⟨hleft, hright, hbottom, htop, hwide, htall⟩

end Turns

-- ================================================================== walls

section Walls

variable {first q q' : Player} {before : CGPoint} {solid wall : CGRect}
  {W : CGRect → Prop}

/-- The solid is beside the player, and no wall puts him back there. -/
def XCleared (before : CGPoint) (W : CGRect → Prop) (solid : CGRect)
    (q : Player) : Prop :=
  (q.position.x + 23 ≤ solid.minX ∧ ∀ wall, W wall → ¬WallLeft before wall)
    ∨ (solid.maxX ≤ q.position.x - 23
      ∧ ∀ wall, W wall → ¬WallRight before wall)

theorem XCleared.congr (h : XCleared before W solid q)
    (hx : q'.position.x = q.position.x) : XCleared before W solid q' := by
  unfold XCleared
  rw [hx]
  exact h

/-- A wall puts the player beside it, and not back. -/
theorem xCleared_wall (honeSide : OneSide before W) (hwall : W wall)
    (hplace : BesidePlace before wall q'.position.x) :
    XCleared before W wall q' := by
  rcases hplace with ⟨hside, hx⟩ | ⟨hside, hx⟩
  · exact .inl ⟨by linarith,
      fun other hother => honeSide wall other hwall hother hside⟩
  · exact .inr ⟨by linarith,
      fun other hother hright => honeSide other wall hother hwall hright hside⟩

/-- What was cleared stays so beside the next wall. -/
theorem XCleared.beside (h : XCleared before W solid q) (hwall : W wall)
    (hmeets : Meets q q.position wall)
    (hplace : BesidePlace before wall q'.position.x) :
    XCleared before W solid q' := by
  have hleft := hmeets.left
  have hright := hmeets.right
  rcases h with ⟨hcleared, hnone⟩ | ⟨hcleared, hnone⟩
  · rcases hplace with ⟨_, hx⟩ | ⟨hside, _⟩
    · exact .inl ⟨by linarith, hnone⟩
    · exact absurd hside (hnone wall hwall)
  · rcases hplace with ⟨hside, _⟩ | ⟨_, hx⟩
    · exact absurd hside (hnone wall hwall)
    · exact .inr ⟨by linarith, hnone⟩

/-- A solid met after the motion that the player is beside by now. -/
theorem xCleared_of_missed (honeSide : OneSide before W)
    (hW : ∀ wall, W wall → Meets first first.position wall)
    (hmeets : Meets first first.position solid)
    (hx : XPlace first before W q.position.x)
    (h : q.position.x + 23 ≤ solid.minX ∨ solid.maxX ≤ q.position.x - 23) :
    XCleared before W solid q := by
  have hleft := hmeets.left
  have hright := hmeets.right
  rcases hx with hx | ⟨wall, hwall, ⟨hside, hx⟩ | ⟨hside, hx⟩⟩
  · rcases h with h | h
    · linarith
    · linarith
  · have hwright := (hW wall hwall).right
    refine .inl ⟨?_, fun other hother => honeSide wall other hwall hother hside⟩
    rcases h with h | h
    · exact h
    · linarith
  · have hwleft := (hW wall hwall).left
    refine .inr ⟨?_, fun other hother hr =>
      honeSide other wall hother hwall hr hside⟩
    rcases h with h | h
    · linarith
    · exact h

/-- Beside a solid it is not met. -/
theorem XCleared.not_meets (h : XCleared before W solid q) :
    ¬Meets q q.position solid := by
  intro hmeets
  rcases h with ⟨hside, _⟩ | ⟨hside, _⟩
  · exact not_lt.mpr hside hmeets.right
  · exact not_lt.mpr hside hmeets.left

end Walls

-- ================================================================ falling

section Falling

variable {first q : Player} {before : CGPoint} {solids done : List CGRect}
  {solid : CGRect}

/-- The size is the posture's, and only the ground changes it. -/
theorem movementSize_grounded (hposture : q.motionState = .crouching →
    q.isGrounded = true) {position : CGPoint} {velocity : CGVector} :
    { q with
      position := position
      velocity := velocity
      isGrounded := true }.movementSize = q.movementSize := by
  unfold movementSize
  by_cases hcrouching : q.motionState = .crouching
  · rw [if_pos ⟨hcrouching, rfl⟩, if_pos ⟨hcrouching, hposture hcrouching⟩]
  · rw [if_neg fun h => hcrouching h.1, if_neg fun h => hcrouching h.1]

/-- A player who does not rise, while the solids take their turns. -/
structure FallsOn (first : Player) (before : CGPoint) (solids : List CGRect)
    (q : Player) : Prop where
  size : q.movementSize = first.movementSize
  posture : q.motionState = .crouching → q.isGrounded = true
  down : q.velocity.dy ≤ 0
  xPlace : XPlace first before (FallWall first before solids) q.position.x
  yPlace : q.position.y = first.position.y ∨ ∃ floor ∈ solids,
    Meets first first.position floor ∧ Below before floor
      ∧ q.position.y = floor.maxY + 32

/-- He is over the solid or beside it. -/
def FallCleared (first : Player) (before : CGPoint) (solids : List CGRect)
    (solid : CGRect) (q : Player) : Prop :=
  Meets first first.position solid →
    solid.maxY ≤ q.position.y - 32
      ∨ XCleared before (FallWall first before solids) solid q

theorem Meets.of_size {p : Player} {c : CGPoint} (h : Meets q c solid)
    (hsize : q.movementSize = p.movementSize) : Meets p c solid :=
  ⟨h.left, h.right, h.bottom, hsize ▸ h.top, h.wide, h.tall⟩

/-- What he meets in a turn he met at first. -/
theorem FallsOn.met_first (hfalls : Falls first before solids)
    (h : FallsOn first before solids q) (hsolid : solid ∈ solids)
    (hmeets : Meets q q.position solid) : Meets first first.position solid :=
  hfalls.way solid hsolid q.position h.xPlace h.yPlace (hmeets.of_size h.size)

/-- He is not put down. -/
theorem FallsOn.not_lower (h : FallsOn first before solids q) :
    first.position.y ≤ q.position.y := by
  rcases h.yPlace with hy | ⟨floor, _, hmeets, _, hy⟩
  · exact hy.ge
  · have hbottom := hmeets.bottom
    linarith

/-- A solid that is missed in its turn. -/
theorem FallsOn.cleared_of_missed (hfalls : Falls first before solids)
    (h : FallsOn first before solids q) (hmissed : ¬Meets q q.position solid) :
    FallCleared first before solids solid q := by
  intro hmeets
  have htop := hmeets.top
  have hlower := h.not_lower
  rcases missed_cases hmeets.wide hmeets.tall hmissed with hx | hover | hunder
  · exact .inr (xCleared_of_missed hfalls.oneSide (fun _ hwall => hwall.2.1)
      hmeets h.xPlace hx)
  · exact .inl hover
  · rw [h.size] at hunder
    linarith

/-- A floor he meets is landed on; what he was over or beside he still is. -/
theorem FallsOn.land (h : FallsOn first before solids q)
    (hsolid : solid ∈ solids) (hmeets : Meets q q.position solid)
    (hfirst : Meets first first.position solid) (hbelow : Below before solid) :
    Settles (FallsOn first before solids) (FallCleared first before solids)
      solid q (q.turn before solid) := by
  have hturn : q.turn before solid =
      { q with
        position := ⟨q.position.x, solid.maxY + 32⟩
        velocity := ⟨q.velocity.dx, 0⟩
        isGrounded := true } := by
    rw [turn_met hmeets, contact_land hmeets h.down hbelow]
    norm_num [resolve, GameConstants.playerSpriteSize]
  have hbottom := hmeets.bottom
  rw [hturn]
  refine ⟨⟨?_, fun _ => rfl, le_refl _, h.xPlace, ?_⟩, ?_, ?_⟩
  · exact (movementSize_grounded h.posture).trans h.size
  · exact .inr ⟨solid, hsolid, hfirst, hbelow, rfl⟩
  · intro _
    exact .inl (by simp)
  · intro other hother hmet
    rcases hother hmet with hover | hbeside
    · refine .inl ?_
      show other.maxY ≤ solid.maxY + 32 - 32
      linarith
    · exact .inr (hbeside.congr rfl)

/-- A wall he meets puts him beside it; what he was over or beside he still
is. -/
theorem FallsOn.side (hfalls : Falls first before solids)
    (h : FallsOn first before solids q) (hsolid : solid ∈ solids)
    (hmeets : Meets q q.position solid)
    (hfirst : Meets first first.position solid)
    (hbelow : ¬Below before solid) :
    Settles (FallsOn first before solids) (FallCleared first before solids)
      solid q (q.turn before solid) := by
  have hwall : FallWall first before solids solid := ⟨hsolid, hfirst, hbelow⟩
  have hside := (hfalls.faces solid hsolid hfirst).resolve_left hbelow
  obtain ⟨x, hplace, hturn⟩ := turn_side hmeets
    (fun hland => hbelow hland.2)
    (fun hceiling => not_lt.mpr h.down hceiling.1) hside
  rw [hturn]
  refine ⟨⟨h.size, h.posture, h.down, ?_, h.yPlace⟩, ?_, ?_⟩
  · exact .inr ⟨solid, hwall, hplace⟩
  · intro _
    exact .inr (xCleared_wall hfalls.oneSide hwall hplace)
  · intro other hother hmet
    rcases hother hmet with hover | hbeside
    · exact .inl hover
    · exact .inr (hbeside.beside hwall hmeets hplace)

/-- One turn of a player who does not rise. -/
theorem FallsOn.turn (hfalls : Falls first before solids)
    (h : FallsOn first before solids q) (hsolid : solid ∈ solids) :
    Settles (FallsOn first before solids) (FallCleared first before solids)
      solid q (q.turn before solid) := by
  by_cases hmeets : Meets q q.position solid
  · have hfirst := h.met_first hfalls hsolid hmeets
    by_cases hbelow : Below before solid
    · exact h.land hsolid hmeets hfirst hbelow
    · exact h.side hfalls hsolid hmeets hfirst hbelow
  · rw [turn_missed hmeets]
    exact ⟨h, h.cleared_of_missed hfalls hmeets, fun _ hother => hother⟩

/-- After the last turn he meets none of them. -/
theorem Falls.not_meets (h : Falls first before solids)
    (hposture : first.motionState = .crouching → first.isGrounded = true)
    (hsolid : solid ∈ solids) :
    ¬Meets (first.resolveAll before solids)
      (first.resolveAll before solids).position solid := by
  rw [resolveAll_eq]
  intro hmeets
  have hstart : FallsOn first before solids first :=
    ⟨rfl, hposture, h.down, .inl rfl, .inl rfl⟩
  obtain ⟨hlast, hcleared⟩ := foldl_settles (f := fun q a => q.turn before a)
    (I := fun _ q => FallsOn first before solids q)
    (C := FallCleared first before solids) (l := solids)
    (fun done a rest q hl hq => hq.turn h (by rw [hl]; simp)) hstart
  have hfirst := hlast.met_first h hsolid hmeets
  rcases hcleared solid hsolid hfirst with hover | hbeside
  · exact not_lt.mpr hover hmeets.bottom
  · exact hbeside.not_meets hmeets

end Falling

-- ================================================================= rising

section Rising

variable {first q : Player} {before : CGPoint} {solids done rest : List CGRect}
  {solid : CGRect}

theorem movementSize_height_le : first.movementSize.height ≤ 63 := by
  unfold movementSize
  split
  · norm_num [GameConstants.playerCrouchingMovementSize]
  · norm_num [GameConstants.playerStandingMovementSize]

theorem movementSize_airborne (h : q.isGrounded = false) :
    q.movementSize = GameConstants.playerStandingMovementSize := by
  unfold movementSize
  rw [h]
  exact if_neg fun hcrouching => Bool.false_ne_true hcrouching.2

/-- A rising player who was not stopped yet. -/
structure Rising (first : Player) (q : Player) : Prop where
  up : 0 < q.velocity.dy
  level : q.position.y = first.position.y
  size : q.movementSize = first.movementSize

/-- A rising player whom a solid over him has stopped. -/
structure Stopped (first : Player) (before : CGPoint) (done : List CGRect)
    (q : Player) : Prop where
  still : q.velocity.dy = 0
  air : q.isGrounded = false
  under : ∃ ceiling ∈ done, Meets first first.position ceiling
    ∧ Above first before ceiling ∧ q.position.y = ceiling.minY - 31

/-- A player who rises, while the solids take their turns. -/
structure RisesOn (first : Player) (before : CGPoint) (solids : List CGRect)
    (done : List CGRect) (q : Player) : Prop where
  xPlace : XPlace first before (RiseWall first before solids) q.position.x
  phase : Rising first q ∨ Stopped first before done q

/-- He is stopped under the solid, or beside it. -/
def RiseCleared (first : Player) (before : CGPoint) (solids : List CGRect)
    (solid : CGRect) (q : Player) : Prop :=
  Meets first first.position solid →
    (q.velocity.dy = 0 ∧ q.isGrounded = false
      ∧ q.position.y + 31 ≤ solid.minY)
    ∨ XCleared before (RiseWall first before solids) solid q

theorem Stopped.mono (h : Stopped first before done q) :
    Stopped first before (done ++ [solid]) q := by
  obtain ⟨ceiling, hceiling, hunder⟩ := h.under
  exact ⟨h.still, h.air, ceiling, List.mem_append_left _ hceiling, hunder⟩

theorem Stopped.top (h : Stopped first before done q) :
    q.position.y - 32 + q.movementSize.height = q.position.y + 31 := by
  rw [movementSize_airborne h.air]
  norm_num [GameConstants.playerStandingMovementSize]
  ring

/-- A stopped player is under his place after the motion. -/
theorem Stopped.lower (h : Stopped first before done q) :
    q.position.y ≤ first.position.y := by
  obtain ⟨ceiling, _, hmeets, _, hy⟩ := h.under
  have htop := hmeets.top
  have hheight : first.movementSize.height ≤ 63 := movementSize_height_le
  linarith

/-- What he meets in a turn he met at first. -/
theorem RisesOn.met_first (hrises : Rises first before solids)
    (h : RisesOn first before solids done q) (hdone : ∀ a ∈ done, a ∈ solids)
    (hsolid : solid ∈ solids) (hmeets : Meets q q.position solid) :
    Meets first first.position solid := by
  refine hrises.way solid hsolid q.position h.xPlace ?_
  rcases h.phase with hrising | hstopped
  · exact .inl ⟨hrising.level, hmeets.of_size hrising.size⟩
  · obtain ⟨ceiling, hceiling, hunder, habove, hy⟩ := hstopped.under
    refine .inr ⟨ceiling, hdone ceiling hceiling, hunder, habove, hy, ?_⟩
    apply hmeets.of_size
    rw [movementSize_airborne hstopped.air, movementSize_airborne rfl]

/-- A solid that is missed in its turn. -/
theorem RisesOn.cleared_of_missed (hrises : Rises first before solids)
    (h : RisesOn first before solids done q)
    (hmissed : ¬Meets q q.position solid) :
    RiseCleared first before solids solid q := by
  intro hmeets
  have hbottom := hmeets.bottom
  have htop := hmeets.top
  rcases missed_cases hmeets.wide hmeets.tall hmissed with hx | hover | hunder
  · exact .inr (xCleared_of_missed hrises.oneSide (fun _ hwall => hwall.2.1)
      hmeets h.xPlace hx)
  · rcases h.phase with hrising | hstopped
    · rw [hrising.level] at hover
      exact absurd hbottom (not_lt.mpr hover)
    · have hlower := hstopped.lower
      linarith
  · rcases h.phase with hrising | hstopped
    · rw [hrising.level, hrising.size] at hunder
      exact absurd htop (not_lt.mpr hunder)
    · rw [hstopped.top] at hunder
      exact .inl ⟨hstopped.still, hstopped.air, hunder⟩

/-- A solid over a player who still rises stops him. -/
theorem RisesOn.ceiling (h : RisesOn first before solids done q)
    (hrising : Rising first q) (hmeets : Meets q q.position solid)
    (hfirst : Meets first first.position solid)
    (habove : Above first before solid) :
    Settles (RisesOn first before solids (done ++ [solid]))
      (RiseCleared first before solids) solid q (q.turn before solid) := by
  have habove_now : Above q before solid := by
    unfold Above
    rw [hrising.size]
    exact habove
  have hturn : q.turn before solid =
      { q with
        position := ⟨q.position.x, solid.minY - 31⟩
        velocity := ⟨q.velocity.dx, 0⟩
        isGrounded := false } := by
    rw [turn_met hmeets, contact_ceiling hmeets hrising.up habove_now]
    norm_num [resolve, GameConstants.playerSpriteSize,
      GameConstants.playerStandingMovementSize]
  rw [hturn]
  refine ⟨⟨h.xPlace, .inr ⟨rfl, rfl, ?_⟩⟩, ?_, ?_⟩
  · exact ⟨solid, by simp, hfirst, habove, rfl⟩
  · intro _
    exact .inl ⟨rfl, rfl, by simp⟩
  · intro other hother hmet
    rcases hother hmet with ⟨hstill, _⟩ | hbeside
    · exact absurd hstill hrising.up.ne'
    · exact .inr (hbeside.congr rfl)

/-- A wall he meets puts him beside it. -/
theorem RisesOn.side (hrises : Rises first before solids)
    (h : RisesOn first before solids done q) (hsolid : solid ∈ solids)
    (hmeets : Meets q q.position solid)
    (hfirst : Meets first first.position solid)
    (habove : ¬Above first before solid)
    (hland : ¬(q.velocity.dy ≤ 0 ∧ Below before solid)) :
    Settles (RisesOn first before solids (done ++ [solid]))
      (RiseCleared first before solids) solid q (q.turn before solid) := by
  have hwall : RiseWall first before solids solid := ⟨hsolid, hfirst, habove⟩
  have hside := (hrises.faces solid hsolid hfirst).resolve_left habove
  have hceiling : ¬(0 < q.velocity.dy ∧ Above q before solid) := by
    intro hceiling
    rcases h.phase with hrising | hstopped
    · unfold Above at hceiling
      rw [hrising.size] at hceiling
      exact habove hceiling.2
    · exact absurd hstopped.still hceiling.1.ne'
  obtain ⟨x, hplace, hturn⟩ := turn_side hmeets hland hceiling hside
  rw [hturn]
  refine ⟨⟨.inr ⟨solid, hwall, hplace⟩, ?_⟩, ?_, ?_⟩
  · rcases h.phase with hrising | hstopped
    · exact .inl ⟨hrising.up, hrising.level, hrising.size⟩
    · exact .inr ⟨hstopped.still, hstopped.air, hstopped.mono.under⟩
  · intro _
    exact .inr (xCleared_wall hrises.oneSide hwall hplace)
  · intro other hother hmet
    rcases hother hmet with hunder | hbeside
    · exact .inl hunder
    · exact .inr (hbeside.beside hwall hmeets hplace)

/-- One turn of a player who rises. -/
theorem RisesOn.turn (hrises : Rises first before solids)
    (hl : solids = done ++ solid :: rest)
    (h : RisesOn first before solids done q) :
    Settles (RisesOn first before solids (done ++ [solid]))
      (RiseCleared first before solids) solid q (q.turn before solid) := by
  have hdone : ∀ a ∈ done, a ∈ solids := fun a ha => by simp [hl, ha]
  have hsolid : solid ∈ solids := by simp [hl]
  by_cases hmeets : Meets q q.position solid
  · have hfirst := h.met_first hrises hdone hsolid hmeets
    rcases h.phase with hrising | hstopped
    · by_cases habove : Above first before solid
      · exact h.ceiling hrising hmeets hfirst habove
      · exact h.side hrises hsolid hmeets hfirst habove
          fun hland => not_lt.mpr hland.1 hrising.up
    · -- The ceiling that stopped him came first: this one is no lower.
      obtain ⟨ceiling, hceiling, hunder, hover, hy⟩ := hstopped.under
      have horder := hrises.order
      rw [hl] at horder
      obtain ⟨hlowest, hbelow⟩ := (List.pairwise_append.mp horder).2.2
        ceiling hceiling solid List.mem_cons_self hunder hover hfirst
      have htop := hmeets.top
      rw [hstopped.top] at htop
      have habove : ¬Above first before solid := by
        intro habove
        have hle := hlowest habove
        linarith
      exact h.side hrises hsolid hmeets hfirst habove
        fun hland => hbelow hland.2
  · rw [turn_missed hmeets]
    refine ⟨⟨h.xPlace, ?_⟩, h.cleared_of_missed hrises hmeets,
      fun _ hother => hother⟩
    rcases h.phase with hrising | hstopped
    · exact .inl hrising
    · exact .inr hstopped.mono

/-- After the last turn he meets none of them. -/
theorem Rises.not_meets (h : Rises first before solids)
    (hsolid : solid ∈ solids) :
    ¬Meets (first.resolveAll before solids)
      (first.resolveAll before solids).position solid := by
  rw [resolveAll_eq]
  intro hmeets
  have hstart : RisesOn first before solids [] first :=
    ⟨.inl rfl, .inl ⟨h.up, rfl, rfl⟩⟩
  obtain ⟨hlast, hcleared⟩ := foldl_settles (f := fun q a => q.turn before a)
    (I := RisesOn first before solids)
    (C := RiseCleared first before solids) (l := solids)
    (fun done a rest q hl hq => hq.turn h hl) hstart
  have hfirst := hlast.met_first h (fun _ ha => ha) hsolid hmeets
  rcases hcleared solid hsolid hfirst with ⟨_, hair, hunder⟩ | hbeside
  · have htop := hmeets.top
    rw [movementSize_airborne hair] at htop
    norm_num [GameConstants.playerStandingMovementSize] at htop
    linarith
  · exact hbeside.not_meets hmeets

end Rising

-- =============================================================== one solid

section OneSolid

variable {first : Player} {before : CGPoint} {solid : CGRect}

/-- A wall is on one side only. -/
theorem not_both_walls (hwide : solid.minX < solid.maxX)
    (hright : WallRight before solid) : ¬WallLeft before solid := by
  intro hleft
  unfold WallRight at hright
  unfold WallLeft at hleft
  linarith

theorem Meets.of_place {p : Player} {c c' : CGPoint} (h : Meets p c solid)
    (hx : c.x = c'.x) (hy : c.y = c'.y) : Meets p c' solid :=
  ⟨hx ▸ h.left, hx ▸ h.right, hy ▸ h.bottom, hy ▸ h.top, h.wide, h.tall⟩

theorem XPlace.stays {W : CGRect → Prop} {x : Rat}
    (hx : XPlace first before W x) (hnone : ∀ wall, ¬W wall) :
    x = first.position.x := by
  rcases hx with hx | ⟨wall, hwall, _⟩
  · exact hx
  · exact absurd hwall (hnone wall)

/-- One solid is in nobody's way: a player who does not rise only needs a
face of it. -/
theorem falls_one (hdown : first.velocity.dy ≤ 0)
    (hface : Meets first first.position solid →
      Below before solid ∨ WallRight before solid ∨ WallLeft before solid) :
    Falls first before [solid] where
  down := hdown
  faces := by
    intro a ha
    rw [List.mem_singleton.mp ha]
    exact hface
  oneSide := by
    intro wall other hwall hother hright
    obtain rfl : wall = solid := List.mem_singleton.mp hwall.1
    obtain rfl : other = wall := List.mem_singleton.mp hother.1
    exact not_both_walls hwall.2.1.wide hright
  way := by
    intro a ha c hx hy hmeets
    obtain rfl : a = solid := List.mem_singleton.mp ha
    by_contra hmissed
    have hstays := hx.stays fun wall hwall =>
      hmissed (List.mem_singleton.mp hwall.1 ▸ hwall.2.1)
    rcases hy with hy | ⟨floor, hfloor, hfirst, _⟩
    · exact hmissed (hmeets.of_place hstays hy)
    · exact hmissed (List.mem_singleton.mp hfloor ▸ hfirst)

theorem rises_one (hup : 0 < first.velocity.dy)
    (hface : Meets first first.position solid →
      Above first before solid ∨ WallRight before solid
        ∨ WallLeft before solid) :
    Rises first before [solid] where
  up := hup
  faces := by
    intro a ha
    rw [List.mem_singleton.mp ha]
    exact hface
  oneSide := by
    intro wall other hwall hother hright
    obtain rfl : wall = solid := List.mem_singleton.mp hwall.1
    obtain rfl : other = wall := List.mem_singleton.mp hother.1
    exact not_both_walls hwall.2.1.wide hright
  order := List.pairwise_singleton _ _
  way := by
    intro a ha c hx hy
    obtain rfl : a = solid := List.mem_singleton.mp ha
    by_contra hmissed
    have hstays := hx.stays fun wall hwall =>
      hmissed (List.mem_singleton.mp hwall.1 ▸ hwall.2.1)
    rcases hy with ⟨hy, hmeets⟩ | ⟨ceiling, hceiling, hfirst, _⟩
    · exact hmissed (hmeets.of_place hstays hy)
    · exact hmissed (List.mem_singleton.mp hceiling ▸ hfirst)

/-- Without a face of it he goes back to where he was along the first axis,
and still meets it. -/
theorem meets_of_no_face (hmeets : Meets first first.position solid)
    (hland : ¬(first.velocity.dy ≤ 0 ∧ Below before solid))
    (hceiling : ¬(0 < first.velocity.dy ∧ Above first before solid))
    (hright : ¬WallRight before solid) (hleft : ¬WallLeft before solid) :
    Meets (first.turn before solid) (first.turn before solid).position
      solid := by
  have hcontact : first.contact before solid
      = if !first.isDying then .fallback else .none := by
    have hno_land :
        ¬(first.velocity.dy ≤ 0 ∧ solid.maxY - 1 ≤ before.y - 32) := hland
    have hno_ceiling : ¬(0 < first.velocity.dy
      ∧ before.y - 32 + first.movementSize.height ≤ solid.minY + 1) := hceiling
    rw [contact_eq hmeets, if_neg hno_land, if_neg hno_ceiling]
    exact (if_neg hright).trans (if_neg hleft)
  rw [turn_met hmeets, hcontact]
  unfold WallRight at hright
  unfold WallLeft at hleft
  split
  · exact ⟨by show before.x - 23 < solid.maxX; linarith,
      by show solid.minX < before.x + 23; linarith,
      hmeets.bottom, hmeets.top, hmeets.wide, hmeets.tall⟩
  · exact hmeets

/-- For one solid the condition is exact. -/
theorem one_solid_iff
    (hposture : first.motionState = .crouching → first.isGrounded = true) :
    ¬Meets (first.resolveAll before [solid])
        (first.resolveAll before [solid]).position solid
      ↔ Clear first before [solid] := by
  have hmem : solid ∈ [solid] := List.mem_singleton_self solid
  constructor
  · intro hout
    by_contra hunclear
    rcases le_or_gt first.velocity.dy 0 with hdown | hup
    · have hno : ¬(Meets first first.position solid →
          Below before solid ∨ WallRight before solid
            ∨ WallLeft before solid) :=
        fun hface => hunclear (.inl (falls_one hdown hface))
      push Not at hno
      obtain ⟨hmeets, hbelow, hright, hleft⟩ := hno
      exact hout (meets_of_no_face hmeets (fun hland => hbelow hland.2)
        (fun hceiling => not_lt.mpr hdown hceiling.1) hright hleft)
    · have hno : ¬(Meets first first.position solid →
          Above first before solid ∨ WallRight before solid
            ∨ WallLeft before solid) :=
        fun hface => hunclear (.inr (rises_one hup hface))
      push Not at hno
      obtain ⟨hmeets, habove, hright, hleft⟩ := hno
      exact hout (meets_of_no_face hmeets
        (fun hland => not_lt.mpr hland.1 hup)
        (fun hceiling => habove hceiling.2) hright hleft)
  · intro hclear
    rcases hclear with hfalls | hrises
    · exact hfalls.not_meets hposture hmem
    · exact hrises.not_meets hmem

end OneSolid

-- ================================================================ the step

section Step

variable (p : Player) (input : InputSnapshot)

/-- Who crouches after a step is on the ground. -/
theorem update_posture {dt : Rat}
    (h : (p.update input dt).motionState = .crouching) :
    (p.update input dt).isGrounded = true := by
  unfold update at h ⊢
  split at h
  · exact absurd h (by simp [updateDying])
  · rename_i hdying
    rw [if_neg hdying]
    unfold finalizeMotionState updateMotionState at h ⊢
    simp only at h ⊢
    split at h
    · simp at h
    · split at h
      · split at h
        · simp at h
        · simp at h
      · rename_i hgrounded
        simpa using hgrounded

theorem missed_iff {q : Player} {solid : CGRect} :
    q.movementHitbox.intersects solid = false
      ↔ ¬Meets q q.position solid := by
  rw [← meets_iff q q.position solid, Bool.not_eq_true]
  rfl

end Step

end Exolon.Motion

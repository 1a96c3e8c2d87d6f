/-
The player: its state, and the operations of the scene and of a step.

`update` is one step of motion in the source's order: the walk, a jump, the
two latches of UP, the fall, the limits of the field, the fallback floor,
the posture. After it the scene calls `resolveSolidCollision` for each
solid the player meets (`resolveAll`), then `refreshGroundSupport` and
`finalizeMotionState`.

The latches are `jumpWasPressed`, the key at the last update, and
`contextHoldsJumpLatch`, set when a press of UP was used for something
else. `step` is one operation, of any kind.
-/
import Exolon.GameConstants
import Exolon.Scene.Scene

namespace Exolon.Motion

inductive PlayerFacing
  | left
  | right
  deriving DecidableEq

inductive PlayerMotionState
  | idle
  | running
  | jumping
  | falling
  | crouching
  | dying
  deriving DecidableEq

structure Player where
  position : CGPoint := GameConstants.defaultSpawnCenter
  velocity : CGVector := ⟨0, 0⟩
  isGrounded : Bool := true
  facing : PlayerFacing := .right
  motionState : PlayerMotionState := .idle
  isDying : Bool := false
  hasExoskeleton : Bool := false
  jumpWasPressed : Bool := false
  contextHoldsJumpLatch : Bool := false
  spawnCenter : CGPoint := GameConstants.defaultSpawnCenter
  fallbackGroundY : Rat := GameConstants.defaultGroundY

namespace Player

def moveSpeed : Rat := 90

def jumpVelocity : Rat := 165

def deathJumpVelocity : Rat := 165

def gravity : Rat := -360

def maximumFallSpeed : Rat := -300

variable (p : Player)

-- ============================================================== hitboxes

/-- The size of the movement box in the posture. -/
def movementSize : CGSize :=
  if p.motionState = .crouching ∧ p.isGrounded then
    GameConstants.playerCrouchingMovementSize
  else GameConstants.playerStandingMovementSize

/-- `movementHitbox(at:)` -/
def movementHitboxAt (centre : CGPoint) : CGRect where
  x := centre.x - p.movementSize.width * (1 / 2)
  y := centre.y - GameConstants.playerSpriteSize.height * (1 / 2)
  sizeWidth := p.movementSize.width
  sizeHeight := p.movementSize.height

def movementHitbox : CGRect := p.movementHitboxAt p.position

-- =============================================================== one step

def isCrouching (input : InputSnapshot) : Bool := input.crouch && p.isGrounded

def jumpJustPressed (input : InputSnapshot) : Bool :=
  input.jump && !p.jumpWasPressed

/-- The direction and the speed of the walk. -/
def walk (input : InputSnapshot) : Player :=
  let wantsLeft := input.moveLeft && !input.moveRight
  let wantsRight := input.moveRight && !input.moveLeft
  if p.isCrouching input then { p with velocity := ⟨0, p.velocity.dy⟩ }
  else if wantsLeft then
    { p with velocity := ⟨-moveSpeed, p.velocity.dy⟩, facing := .left }
  else if wantsRight then
    { p with velocity := ⟨moveSpeed, p.velocity.dy⟩, facing := .right }
  else { p with velocity := ⟨0, p.velocity.dy⟩ }

/-- A press of UP on the ground jumps, but not out of a crouch. -/
def jumps (input : InputSnapshot) : Bool :=
  p.jumpJustPressed input && p.isGrounded && !p.isCrouching input

def jump (input : InputSnapshot) : Player :=
  if p.jumps input then
    { p with velocity := ⟨p.velocity.dx, jumpVelocity⟩, isGrounded := false }
  else p

/-- The latches after a step that reads UP. -/
def sampleJump (input : InputSnapshot) : Player :=
  if p.contextHoldsJumpLatch && input.jump then
    { p with jumpWasPressed := true }
  else
    { p with jumpWasPressed := input.jump, contextHoldsJumpLatch := false }

def fall (step : Rat) : Player :=
  if p.isGrounded then p
  else
    { p with velocity := ⟨p.velocity.dx,
        max (p.velocity.dy + gravity * step) maximumFallSpeed⟩ }

/-- The way of a step, within the field. -/
def move (step : Rat) : Player :=
  { p with position := {
      x := min (max (p.position.x + p.velocity.dx * step)
        GameConstants.playerMinimumCenterX) GameConstants.playerMaximumCenterX
      y := p.position.y + p.velocity.dy * step } }

def landOnFallbackFloorIfNeeded : Player :=
  let standingCenterY :=
    p.fallbackGroundY + GameConstants.playerSpriteSize.height * (1 / 2)
  if p.position.y ≤ standingCenterY then
    { p with
      position := ⟨p.position.x, standingCenterY⟩
      velocity := ⟨p.velocity.dx, 0⟩
      isGrounded := true }
  else p

def updateMotionState (isCrouching : Bool) : Player :=
  { p with motionState :=
      if p.isDying then .dying
      else if !p.isGrounded then
        if p.velocity.dy ≥ 0 then .jumping else .falling
      else if isCrouching then .crouching
      else if |p.velocity.dx| > 1 / 100 then .running
      else .idle }

def finalizeMotionState (input : InputSnapshot) : Player :=
  p.updateMotionState (p.isCrouching input)

/-- A step of a dying player: UP is not read. -/
def updateDying (step : Rat) : Player :=
  let still : Player := { p with velocity := ⟨0, p.velocity.dy⟩ }
  let fallen :=
    if still.isGrounded then still
    else
      let falling := still.fall step
      { falling with position := ⟨falling.position.x,
          falling.position.y + falling.velocity.dy * step⟩ }
  { fallen.landOnFallbackFloorIfNeeded with motionState := .dying }

/-- `update(input:dt:)` -/
def update (input : InputSnapshot) (dt : Rat) : Player :=
  if p.isDying then p.updateDying dt
  else
    let pressed := ((p.walk input).jump input).sampleJump input
    let moved := ((pressed.fall dt).move dt).landOnFallbackFloorIfNeeded
    moved.finalizeMotionState input

/-- A step that starts a jump. -/
def startsJump (input : InputSnapshot) : Bool := !p.isDying && p.jumps input

-- ============================================================== collisions

/-- What `resolveSolidCollision` finds of a solid the player meets. -/
inductive Contact
  | land
  | ceiling
  | side (x : Rat)
  | fallback
  | none

/-- Where the box of a player meets a solid. -/
def contact (previousPosition : CGPoint) (solid : CGRect) : Contact :=
  let currentBox := p.movementHitbox
  let previousBox := p.movementHitboxAt previousPosition
  let halfWidth := currentBox.width * (1 / 2)
  if p.velocity.dy ≤ 0 ∧ previousBox.minY ≥ solid.maxY - 1
      ∧ currentBox.minY < solid.maxY then .land
  else if p.velocity.dy > 0 ∧ previousBox.maxY ≤ solid.minY + 1
      ∧ currentBox.maxY > solid.minY then .ceiling
  else if previousBox.maxX ≤ solid.minX + 1
      ∧ currentBox.maxX > solid.minX then .side (solid.minX - halfWidth)
  else if previousBox.minX ≥ solid.maxX - 1
      ∧ currentBox.minX < solid.maxX then .side (solid.maxX + halfWidth)
  else if !p.isDying then .fallback
  else .none

/-- The player moved out of a solid. -/
def resolve (previousPosition : CGPoint) (solid : CGRect) : Contact → Player
  | .land =>
      { p with
        position := ⟨p.position.x,
          solid.maxY + GameConstants.playerSpriteSize.height * (1 / 2)⟩
        velocity := ⟨p.velocity.dx, 0⟩
        isGrounded := true }
  | .ceiling =>
      let standingHeight := GameConstants.playerStandingMovementSize.height
      let topOffset :=
        standingHeight - GameConstants.playerSpriteSize.height * (1 / 2)
      { p with
        position := ⟨p.position.x, solid.minY - topOffset⟩
        velocity := ⟨p.velocity.dx, 0⟩
        isGrounded := false }
  | .side x =>
      { p with
        position := ⟨x, p.position.y⟩
        velocity := ⟨0, p.velocity.dy⟩ }
  | .fallback =>
      { p with
        position := ⟨previousPosition.x, p.position.y⟩
        velocity := ⟨0, p.velocity.dy⟩ }
  | .none => p

/-- `resolveSolidCollision(previousPosition:solid:)` -/
def resolveSolidCollision (previousPosition : CGPoint) (solid : CGRect) :
    Player :=
  if p.movementHitbox.intersects solid then
    p.resolve previousPosition solid (p.contact previousPosition solid)
  else p

/-- The scene's loop: each solid still met when its turn comes. -/
def resolveAll (previousPosition : CGPoint) (solids : List CGRect) : Player :=
  solids.foldl (fun p solid =>
    if p.movementHitbox.intersects solid then
      p.resolveSolidCollision previousPosition solid
    else p) p

/-- `refreshGroundSupport(solids:)` -/
def refreshGroundSupport (solids : List CGRect) : Player :=
  let box := p.movementHitbox
  let footY := box.minY
  let left := box.minX + GameConstants.footSupportHorizontalInset
  let right := box.maxX - GameConstants.footSupportHorizontalInset
  let supported := solids.any fun solid =>
    decide (|solid.maxY - footY| ≤ 3 / 2) && decide (right > solid.minX)
      && decide (left < solid.maxX)
  if p.isGrounded && (!supported && decide (footY > p.fallbackGroundY + 3 / 2))
  then { p with isGrounded := false }
  else p

-- ========================================================= zones and deaths

def teleport (center : CGPoint) : Player :=
  if p.isDying then p
  else
    { p with
      position := center
      velocity := ⟨0, 0⟩
      isGrounded := true
      motionState := .idle
      jumpWasPressed := true
      contextHoldsJumpLatch := true }

def beginDeath : Player :=
  if p.isDying then p
  else
    { p with
      isDying := true
      motionState := .dying
      velocity := ⟨0, deathJumpVelocity⟩
      isGrounded := false
      jumpWasPressed := false
      contextHoldsJumpLatch := false }

def respawn : Player :=
  { p with
    isDying := false
    position := p.spawnCenter
    velocity := ⟨0, 0⟩
    isGrounded := true
    facing := .right
    motionState := .idle
    jumpWasPressed := false
    contextHoldsJumpLatch := false }

def finishDeathAndRespawn : Player := { p with isDying := false }.respawn

def configure (spawnCenter : CGPoint) (groundY : Rat) : Player :=
  { p with spawnCenter := spawnCenter, fallbackGroundY := groundY }.respawn

def toggleExoskeleton : Player :=
  if p.isDying then p else { p with hasExoskeleton := !p.hasExoskeleton }

def setExoskeleton (enabled : Bool) : Player :=
  { p with hasExoskeleton := enabled }

def consumeContextualJumpPress : Player :=
  { p with jumpWasPressed := true, contextHoldsJumpLatch := true }

end Player

-- ================================================================== runs

/-- What is done to a player. -/
inductive Operation
  | update (input : InputSnapshot) (dt : Rat)
  | resolveSolidCollision (previousPosition : CGPoint) (solid : CGRect)
  | refreshGroundSupport (solids : List CGRect)
  | finalizeMotionState (input : InputSnapshot)
  | teleport (center : CGPoint)
  | consumeContextualJumpPress
  | configure (spawnCenter : CGPoint) (groundY : Rat)
  | beginDeath
  | finishDeathAndRespawn
  | respawn
  | toggleExoskeleton
  | setExoskeleton (enabled : Bool)

def Player.apply (p : Player) : Operation → Player
  | .update input dt => p.update input dt
  | .resolveSolidCollision previousPosition solid =>
      p.resolveSolidCollision previousPosition solid
  | .refreshGroundSupport solids => p.refreshGroundSupport solids
  | .finalizeMotionState input => p.finalizeMotionState input
  | .teleport center => p.teleport center
  | .consumeContextualJumpPress => p.consumeContextualJumpPress
  | .configure spawnCenter groundY => p.configure spawnCenter groundY
  | .beginDeath => p.beginDeath
  | .finishDeathAndRespawn => p.finishDeathAndRespawn
  | .respawn => p.respawn
  | .toggleExoskeleton => p.toggleExoskeleton
  | .setExoskeleton enabled => p.setExoskeleton enabled

/-- One operation; none is ever refused. -/
def step (p : Player) (op : Operation) : Option Player := some (p.apply op)

end Exolon.Motion

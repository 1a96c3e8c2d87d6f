/-
One fixed step of the scene, and its runs.

The parts of `fixedUpdate` after the player's motion are here, then
`fixedUpdate` itself, the launch (`didMove`) and the step of a run: the
driver grants it (`stepCount`), the scene takes it.
-/
import Exolon.Lib.Run
import Exolon.Scene.Scene

namespace Exolon

namespace Scene

-- ============================================================ projectiles

/-- One of the player's bullets. -/
def updateBullet (s : Scene) (fate : BulletFate) : Scene :=
  s.awardPoints fate.points

/-- All of them, in order; the ones still flying are kept. -/
def updateBullets (s : Scene) (around : Surroundings) : Scene :=
  let fates := (List.range s.bullets).map around.bullet
  { fates.foldl updateBullet s with bullets := fates.countP BulletFate.alive }

def updateGrenade (s : Scene) (fate : GrenadeFate) : Scene :=
  s.awardPoints fate.points

def updateGrenades (s : Scene) (around : Surroundings) : Scene :=
  let fates := (List.range s.grenades).map around.grenade
  { fates.foldl updateGrenade s with
    grenades := fates.countP GrenadeFate.alive }

/-- One enemy shot, and whether it stays. -/
def updateEnemyBullet (r : Scene × Nat) (fate : EnemyBulletFate) :
    Scene × Nat :=
  match fate with
  | .flies => (r.1, r.2 + 1)
  | .gone => r
  | .meetsPlayer =>
      if r.1.invulnerability ≤ 0 ∧ ¬r.1.player.isDying then
        (r.1.hitPlayer, r.2)
      else (r.1, r.2 + 1)

def updateEnemyBullets (s : Scene) (around : Surroundings) : Scene :=
  let fates := (List.range s.enemyBullets).map around.enemyBullet
  let result := fates.foldl updateEnemyBullet (s, 0)
  { result.1 with enemyBullets := result.2 }

-- ======================================================= pickups and bonus

/-- A pack refills, however much is left. -/
def collectGrenades (s : Scene) (packs : Nat) : Scene :=
  if packs > 0 then
    { s with gameState := { s.gameState with
        grenades := GameState.startingGrenades } }
  else s

def collectAmmo (s : Scene) (packs : Nat) : Scene :=
  if packs > 0 then
    { s with gameState := { s.gameState with ammo := GameState.startingAmmo } }
  else s

def updatePickups (s : Scene) (around : Surroundings) : Scene :=
  (s.collectGrenades around.grenadePacks).collectAmmo around.ammoPacks

def collectDoubleLauncherBonus (s : Scene) (around : Surroundings) : Scene :=
  match around.launcherBonus with
  | some points => s.awardPoints points
  | none => s

-- ========================================================= lethal entities

/-- The player can be hurt. -/
def vulnerable (s : Scene) : Bool :=
  decide (s.invulnerability ≤ 0) && !s.player.isDying

/-- Mines until one strikes. The flag is the early return. -/
def updateMines (s : Scene) : List Bool → Scene × Bool
  | [] => (s, false)
  | triggered :: rest =>
      if !s.player.hasExoskeleton && triggered && s.vulnerable then
        (s.hitPlayer, true)
      else s.updateMines rest

/-- Pistons until one strikes. -/
def updatePistons (s : Scene) : List Bool → Scene × Bool
  | [] => (s, false)
  | meets :: rest =>
      if !s.player.hasExoskeleton && s.vulnerable && meets then
        (s.hitPlayer, true)
      else s.updatePistons rest

/-- The first bubble touched, else the first egg: it pays, and then hits. -/
def touchCreature (s : Scene) (around : Surroundings) : Scene :=
  match around.bubble with
  | some points => (s.awardPoints points).hitPlayer
  | none =>
      match around.egg with
      | some points => (s.awardPoints points).hitPlayer
      | none => s

/-- A guided missile hits whether or not the player can be hurt. -/
def meetMissile (s : Scene) (around : Surroundings) : Scene :=
  if around.missileHit then s.hitPlayer else s

/-- What stands in the zone, each kind returning early when it strikes. -/
def meetHazards (s : Scene) (around : Surroundings) : Scene :=
  let mined := s.updateMines around.mines
  if mined.2 then mined.1
  else
    let crushed := s.updatePistons around.pistons
    if crushed.2 then crushed.1
    else if s.vulnerable && around.inForceField then s.hitPlayer
    else if s.vulnerable && around.inSourceHazard then s.hitPlayer
    else s.touchCreature around

def updateLethalEntities (s : Scene) (around : Surroundings) : Scene :=
  let s := s.meetMissile around
  if around.missileHit && s.player.isDying then s else s.meetHazards around

-- ========================================================== menus and play

section Levels

variable (levels : Text → Level)

/-- The title, the terminal screens and the pause menu. -/
def updateTitle (s : Scene) (input : InputSnapshot) : Scene :=
  let startJustPressed := input.fire && !s.menuFireWasPressed
  let s := { s with menuFireWasPressed := input.fire }
  if startJustPressed then s.beginFromTitle input else s

/-- UP or DOWN selects the other line. -/
def selectPauseLine (s : Scene) (input : InputSnapshot) : Scene :=
  let upJustPressed := input.menuUp && !s.pauseMenuUpWasPressed
  let downJustPressed := input.menuDown && !s.pauseMenuDownWasPressed
  { s with
    pauseMenuUpWasPressed := input.menuUp
    pauseMenuDownWasPressed := input.menuDown
    pauseSelectedIndex :=
      if upJustPressed || downJustPressed then
        if s.pauseSelectedIndex = 0 then 1 else 0
      else s.pauseSelectedIndex }

/-- FIRE confirms: a restart, or the invulnerability of a test. -/
def confirmPauseLine (s : Scene) (input : InputSnapshot) : Scene :=
  if s.pauseSelectedIndex = 0 then s.restartFromBeginning levels input
  else { s with testInvulnerabilityEnabled := !s.testInvulnerabilityEnabled }

def updatePaused (s : Scene) (input : InputSnapshot) : Scene :=
  let s := s.selectPauseLine input
  let confirmJustPressed := input.fire && !s.pauseConfirmWasPressed
  let s := { s with pauseConfirmWasPressed := input.fire }
  if confirmJustPressed then s.confirmPauseLine levels input else s

def updateGameOver (s : Scene) (input : InputSnapshot) : Scene :=
  let restartJustPressed := input.fire && !s.menuFireWasPressed
  let s := { s with menuFireWasPressed := input.fire }
  if restartJustPressed then s.restartFromBeginning levels input else s

def updateContentComplete (s : Scene) (input : InputSnapshot) : Scene :=
  let titleJustPressed := input.fire && !s.menuFireWasPressed
  let s := { s with menuFireWasPressed := input.fire }
  if titleJustPressed then s.showTitleAfterContentComplete input else s

/-- A pause press is the whole step. -/
def consumePausePress (s : Scene) (input : InputSnapshot) : Scene :=
  if s.flowState = .playing ∨ s.flowState = .respawning then
    s.enterPause input
  else if s.flowState = .paused then s.leavePause input
  else s

/-- The end of the protection ends the respawn. -/
def endRespawn (s : Scene) : Scene :=
  if s.invulnerability = 0 ∧ s.flowState = .respawning then
    s.changeFlow .playing
  else s

/-- Protection runs out. -/
def updateInvulnerability (s : Scene) (dt : Rat) : Scene :=
  if s.invulnerability > 0 then
    { s with invulnerability := max 0 (s.invulnerability - dt) }.endRespawn
  else s

/-- Change, and remember a suit put on. -/
def changeSuit (s : Scene) : Scene :=
  let player := s.player.toggleExoskeleton
  { s with
    player := player
    stageBoundaries :=
      if player.hasExoskeleton then
        s.stageBoundaries.noteExoskeletonActivated s.stepCount
      else s.stageBoundaries }

/-- A press of UP in a changing room. -/
def updateContext (s : Scene) (input : InputSnapshot)
    (around : Surroundings) : Scene :=
  let jumpJustPressed := input.jump && !s.sceneJumpWasPressed
  let s := { s with sceneJumpWasPressed := input.jump }
  if jumpJustPressed && !s.player.isDying && around.inChangingRoom then
    s.changeSuit
  else s

/-- The player where the update and the collisions leave it. -/
def updatePlayer (s : Scene) (around : Surroundings) : Scene :=
  { s with player := { s.player with
      x := around.x
      isGrounded := around.isGrounded } }

/-- What a step of play does before its projectiles. -/
def updateMotion (s : Scene) (dt : Rat) (i : StepInput) : Scene :=
  let s := s.updateInvulnerability dt
  let s := { s with
    showHitboxes := if i.rawInput.debugHitboxes && !s.debugWasPressed
      then !s.showHitboxes else s.showHitboxes
    debugWasPressed := i.rawInput.debugHitboxes }
  (s.updateContext i.rawInput i.around).updatePlayer i.around

/-- The death sequence, or the weapons. -/
def updateBody (s : Scene) (dt : Rat) (i : StepInput) : Scene :=
  if s.player.isDying then
    { s with
      fireWasPressed := i.rawInput.fire
      grenadeWasPressed := i.rawInput.grenade }.updateDeathSequence dt
      i.laterInput
  else { s with deathGroundTimer := 0 }.updateWeapons i.rawInput

/-- What a step of play does from its projectiles to the lethal entities. -/
def meetWorld (s : Scene) (around : Surroundings) : Scene :=
  let s := (s.updateBullets around).updateGrenades around
  let s := { s with enemyBullets := s.enemyBullets + around.newShots }
  let s := (s.updateEnemyBullets around).updatePickups around
  (s.collectDoubleLauncherBonus around).updateLethalEntities around

/-- All of it, and the screen exit of a player still alive. -/
def updateWorld (s : Scene) (i : StepInput) : Scene :=
  let s := s.meetWorld i.around
  if s.player.isDying then s else s.checkScreenExit levels i.laterInput

/-- A step of play. -/
def updatePlay (s : Scene) (dt : Rat) (i : StepInput) : Scene :=
  ((s.updateMotion dt i).updateBody dt i).updateWorld levels i

def fixedUpdate (s : Scene) (dt : Rat) (i : StepInput) : Scene :=
  if i.pausePress then s.consumePausePress i.rawInput
  else match s.flowState with
  | .title => s.updateTitle i.rawInput
  | .paused => s.updatePaused levels i.rawInput
  | .gameOver => s.updateGameOver levels i.rawInput
  | .contentComplete => s.updateContentComplete i.rawInput
  | .playing | .playerDead | .respawning => s.updatePlay levels dt i

-- =================================================================== runs

/-- The scene when it is presented. A debug build may be told a level to
start at, which a transition leads to; the title stays up. -/
def didMove (persistence : GamePersistence) (warp : Option Text)
    (later : InputSnapshot) : Scene :=
  let s : Scene := {
    flowState := .title
    stateBeforePause := .playing
    gameState := {
      ammo := GameState.startingAmmo
      grenades := GameState.startingGrenades
      points := 0
      lives := GameState.startingLives
      highScore := persistence.loadHighScore
      zone := zoneNumber firstLevelName }
    player := Player.configure ⟨0, true, false, false, 0⟩
      (levels firstLevelName).spawnX
    persistence := persistence.clearCheckpoint
    hasSavedCheckpoint := false
    stageBoundaries := {}
    stepCount := 0
    currentLevelName := firstLevelName
    bullets := 0
    grenades := 0
    enemyBullets := 0
    invulnerability := 0
    deathGroundTimer := 0
    fireWasPressed := false
    grenadeWasPressed := false
    sceneJumpWasPressed := false
    debugWasPressed := false
    showHitboxes := false
    menuFireWasPressed := false
    pauseConfirmWasPressed := false
    pauseMenuUpWasPressed := false
    pauseMenuDownWasPressed := false
    pauseSelectedIndex := 0
    testInvulnerabilityEnabled := false
    history := [] }
  match warp with
  | none => s
  | some target =>
      if includedLevels.contains target then
        (s.transition levels target later).changeFlow s.flowState
      else s

/-- One step the driver grants. -/
def step (s : Scene) (i : StepInput) : Option Scene :=
  some ({ s with stepCount := s.stepCount + 1 }.fixedUpdate levels
    GameConstants.fixedTimeStep i)

/-- The states of a run from a launch. -/
def Reaches (persistence : GamePersistence) (warp : Option Text)
    (later : InputSnapshot) (inputs : List StepInput) (s : Scene) : Prop :=
  Run.run (step levels) (didMove levels persistence warp later) inputs
    = some s

end Levels

end Scene

end Exolon

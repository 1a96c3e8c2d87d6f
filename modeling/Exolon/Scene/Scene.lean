/-
The scene: its state and the operations of one fixed step.

`fixedUpdate` is the source's, in the source's order: the pause press, the
menus, the countdown of invulnerability, the contextual use of UP, the
player's motion, then either the death sequence or the weapons, and after
them everything that can hit, be hit or be picked up, and the screen exit.

# The surroundings

The scene asks the level and the player's physics questions: what does a
bullet meet, does the player stand, is a pack touched. `Surroundings` are
the answers of one step. They are arbitrary, so whatever is shown of a run
is shown of every level, every map and every random choice.

# The history

The scene keeps no history. `Moment` is what a run is asked about: starts
of a playthrough, boundary triggers with what they found and left, deaths
and game overs. Nothing reads it.
-/
import Exolon.Lib.Text
import Exolon.Scene.Driver
import Exolon.Scene.Ledger

namespace Exolon

-- ================================================================= levels

/-- What the scene reads of a level it loads. -/
structure Level where
  nextLevelName : Text
  spawnX : Rat

/-- The level names the game ships. -/
def includedLevels : List Text :=
  (List.range 5).flatMap fun stage => (List.range 25).map fun screen =>
    'L' :: paddedText 2 (stage + 1) ++ 'S' :: paddedText 2 (screen + 1)

/-- The level a run starts in. -/
def firstLevelName : Text := ['L', '0', '1', 'S', '0', '1']

/-- `L01S01` to `L05S25` are the zones 0 to 124. -/
def zoneNumber : Text → Int
  | ['L', a, b, 'S', c, d] =>
      if a.isDigit ∧ b.isDigit ∧ c.isDigit ∧ d.isDigit then
        let digit (c : Char) : Int := (c.toNat : Int) - 48
        let stage := 10 * digit a + digit b
        let screen := 10 * digit c + digit d
        max 0 (min 124 ((stage - 1) * 25 + (screen - 1)))
      else 0
  | _ => 0

/-- The zones that start a stage. -/
def stageStartZones : List Int := [0, 25, 50, 75, 100]

-- ============================================================= constants

namespace GameConstants

/-- How long a respawned player is protected. -/
def postDeathProtectionDuration : Rat := 2 / 5

/-- How long a dead player lies on the ground. -/
def deathSettleDelay : Rat := 70 / 60

/-- Beyond it the player leaves the zone. -/
def screenExitX : Rat := 510

end GameConstants

-- ============================================================= game state

/-- What the HUD shows. -/
structure GameState where
  ammo : Int
  grenades : Int
  points : Int
  lives : Int
  highScore : Int
  zone : Int
  deriving DecidableEq, Repr

namespace GameState

def startingAmmo : Int := 99

def startingGrenades : Int := 10

def startingLives : Int := 9

/-- Everything but the high score. -/
def resetForNewGame (g : GameState) : GameState :=
  { g with
    ammo := startingAmmo
    grenades := startingGrenades
    points := 0
    lives := startingLives
    zone := 0 }

end GameState

structure GameCheckpoint where
  levelName : Text
  ammo : Int
  grenades : Int
  points : Int
  lives : Int

/-- What is stored between launches. -/
structure GamePersistence where
  checkpoint : Option GameCheckpoint
  highScore : Int

namespace GamePersistence

def loadHighScore (p : GamePersistence) : Int := max 0 p.highScore

def saveHighScore (p : GamePersistence) (value : Int) : GamePersistence :=
  { p with highScore := max 0 value }

def saveCheckpoint (p : GamePersistence) (checkpoint : GameCheckpoint) :
    GamePersistence :=
  { p with checkpoint := some checkpoint }

def clearCheckpoint (p : GamePersistence) : GamePersistence :=
  { p with checkpoint := none }

end GamePersistence

-- ================================================================= player

/-- What the scene reads of the player. -/
structure Player where
  x : Rat
  isGrounded : Bool
  isDying : Bool
  hasExoskeleton : Bool
  spawnX : Rat

namespace Player

def respawn (p : Player) : Player :=
  { p with isDying := false, x := p.spawnX, isGrounded := true }

def configure (p : Player) (spawnX : Rat) : Player :=
  { p with spawnX := spawnX }.respawn

def beginDeath (p : Player) : Player :=
  if p.isDying then p else { p with isDying := true, isGrounded := false }

def finishDeathAndRespawn (p : Player) : Player :=
  { p with isDying := false }.respawn

def toggleExoskeleton (p : Player) : Player :=
  if p.isDying then p else { p with hasExoskeleton := !p.hasExoskeleton }

def setExoskeleton (p : Player) (enabled : Bool) : Player :=
  { p with hasExoskeleton := enabled }

end Player

-- ================================================================= inputs

structure InputSnapshot where
  moveLeft : Bool := false
  moveRight : Bool := false
  jump : Bool := false
  crouch : Bool := false
  fire : Bool := false
  grenade : Bool := false
  pause : Bool := false
  menuUp : Bool := false
  menuDown : Bool := false
  debugHitboxes : Bool := false

/-- What becomes of a blaster bullet in a step. -/
inductive BulletFate where
  | flies
  | culled
  | wall
  | hostile (points : Int)
  | bubble (points : Int)
  | egg (points : Int)
  | forceField (destroyed : Bool)

/-- What becomes of a grenade in a step. -/
inductive GrenadeFate where
  | flies
  | culled
  | ground
  | destroys
  | guidance (points : Int)

namespace BulletFate

def alive : BulletFate → Bool
  | .flies => true
  | _ => false

/-- What the fate is worth. -/
def points : BulletFate → Int
  | .hostile points | .bubble points | .egg points => points
  | .forceField destroyed => if destroyed then 1000 else 0
  | .flies | .culled | .wall => 0

end BulletFate

namespace GrenadeFate

def alive : GrenadeFate → Bool
  | .flies => true
  | _ => false

def points : GrenadeFate → Int
  | .destroys => 150
  | .guidance points => points
  | .flies | .culled | .ground => 0

end GrenadeFate

/-- What becomes of an enemy shot in a step. -/
inductive EnemyBulletFate where
  | flies
  | gone
  | meetsPlayer

/-- The answers of the level and of the player's physics in one step. -/
structure Surroundings where
  inChangingRoom : Bool := false
  /-- The player after the update and all collisions. -/
  x : Rat
  isGrounded : Bool
  bullet : Nat → BulletFate := fun _ => .flies
  grenade : Nat → GrenadeFate := fun _ => .flies
  newShots : Nat := 0
  enemyBullet : Nat → EnemyBulletFate := fun _ => .flies
  /-- Active packs the player touches. -/
  grenadePacks : Nat := 0
  ammoPacks : Nat := 0
  launcherBonus : Option Int := none
  missileHit : Bool := false
  /-- Armed mines, and whether the player sets them off. -/
  mines : List Bool := []
  pistons : List Bool := []
  inForceField : Bool := false
  inSourceHazard : Bool := false
  /-- The points of the first bubble, and of the first egg, touched. -/
  bubble : Option Int := none
  egg : Option Int := none

/-- One fixed step: whether a pause press is consumed, the snapshot the
step reads, the one a menu reads after it, and the surroundings. -/
structure StepInput where
  pausePress : Bool := false
  rawInput : InputSnapshot := {}
  laterInput : InputSnapshot := {}
  around : Surroundings

-- ================================================================ history

/-- What a boundary can change. -/
structure Snapshot where
  gameState : GameState
  hasExoskeleton : Bool
  stageBoundaries : StageBoundaryLedger

/-- What a run is asked about. -/
inductive Moment where
  | playthrough
  | boundary (step zone : Int) (outcome : StageBoundaryOutcome)
      (before after : Snapshot)
  | deathBegan (lives : Int)
  | lifeLost (before after : Int)
  | deathEnded (lives : Int)
  | gameOver (final : GameState)

-- ============================================================== the scene

structure Scene where
  flowState : GameFlowState
  stateBeforePause : GameFlowState
  gameState : GameState
  player : Player
  persistence : GamePersistence
  hasSavedCheckpoint : Bool
  stageBoundaries : StageBoundaryLedger
  /-- The driver's count of steps. -/
  stepCount : Int
  currentLevelName : Text
  bullets : Nat
  grenades : Nat
  enemyBullets : Nat
  invulnerability : Rat
  deathGroundTimer : Rat
  fireWasPressed : Bool
  grenadeWasPressed : Bool
  sceneJumpWasPressed : Bool
  debugWasPressed : Bool
  showHitboxes : Bool
  menuFireWasPressed : Bool
  pauseConfirmWasPressed : Bool
  pauseMenuUpWasPressed : Bool
  pauseMenuDownWasPressed : Bool
  pauseSelectedIndex : Int
  testInvulnerabilityEnabled : Bool
  history : List Moment

namespace Scene

/-- One more moment. -/
def note (s : Scene) (moment : Moment) : Scene :=
  { s with history := s.history ++ [moment] }

def snapshot (s : Scene) : Snapshot where
  gameState := s.gameState
  hasExoskeleton := s.player.hasExoskeleton
  stageBoundaries := s.stageBoundaries

def changeFlow (s : Scene) (next : GameFlowState) : Scene :=
  { s with flowState := next }

/-- The only points funnel in the game. -/
def awardPoints (s : Scene) (value : Int) : Scene :=
  if value > 0 then
    let points := min 999999 (s.gameState.points + value)
    if points > s.gameState.highScore then
      { s with
        gameState := { s.gameState with points := points, highScore := points }
        persistence := s.persistence.saveHighScore points }
    else { s with gameState := { s.gameState with points := points } }
  else s

def saveCheckpoint (s : Scene) : Scene :=
  { s with
    persistence := s.persistence.saveCheckpoint {
      levelName := s.currentLevelName
      ammo := s.gameState.ammo
      grenades := s.gameState.grenades
      points := s.gameState.points
      lives := s.gameState.lives }
    hasSavedCheckpoint := true }

def clearTransientObjects (s : Scene) : Scene :=
  { s with bullets := 0, grenades := 0, enemyBullets := 0 }

-- ======================================================== start and menus

/-- The latches a start of play takes over from the keys held. -/
def latchActions (s : Scene) (input : InputSnapshot) : Scene :=
  { s with
    fireWasPressed := input.fire
    grenadeWasPressed := input.grenade
    sceneJumpWasPressed := input.jump }

def latchPauseMenu (s : Scene) (input : InputSnapshot) : Scene :=
  { s with
    pauseConfirmWasPressed := input.fire
    pauseMenuUpWasPressed := input.menuUp
    pauseMenuDownWasPressed := input.menuDown }

/-- A playthrough begins, at the start of a stage. -/
def beginPlaythrough (s : Scene) : Scene :=
  { s with
    stageBoundaries :=
      s.stageBoundaries.beginPlaythrough.noteStageStarted s.stepCount }.note
    .playthrough

/-- A start without a checkpoint is a new playthrough. -/
def openPlaythrough (s : Scene) : Scene :=
  if s.hasSavedCheckpoint then s else s.beginPlaythrough

def ensureCheckpoint (s : Scene) : Scene :=
  if s.hasSavedCheckpoint then s else s.saveCheckpoint

def beginFromTitle (s : Scene) (input : InputSnapshot) : Scene :=
  { (s.openPlaythrough.changeFlow .playing).latchActions input with
    menuFireWasPressed := input.fire }.ensureCheckpoint

/-- A score above the high score is the high score. -/
def recordHighScore (s : Scene) : Scene :=
  if s.gameState.points > s.gameState.highScore then
    { s with
      gameState := { s.gameState with highScore := s.gameState.points }
      persistence := s.persistence.saveHighScore s.gameState.points }
  else s

def enterGameOver (s : Scene) (later : InputSnapshot) : Scene :=
  let s := { s.changeFlow .gameOver with
    invulnerability := 0
    persistence := s.persistence.clearCheckpoint
    hasSavedCheckpoint := false
    stageBoundaries := s.stageBoundaries.endPlaythrough }.recordHighScore
  { s.note (.gameOver s.gameState) with menuFireWasPressed := later.fire }

def enterContentComplete (s : Scene) (later : InputSnapshot) : Scene :=
  { (s.changeFlow .contentComplete).saveCheckpoint with
    menuFireWasPressed := later.fire }

def showTitleAfterContentComplete (s : Scene) (input : InputSnapshot) :
    Scene :=
  { s.changeFlow .title with menuFireWasPressed := input.fire }

def enterPause (s : Scene) (input : InputSnapshot) : Scene :=
  if s.flowState = .playing ∨ s.flowState = .respawning then
    ({ s with
      stateBeforePause := s.flowState
      pauseSelectedIndex := 0 }.changeFlow .paused).latchPauseMenu input
  else s

def leavePause (s : Scene) (input : InputSnapshot) : Scene :=
  if s.flowState = .paused then
    ((s.changeFlow s.stateBeforePause).latchActions input).latchPauseMenu input
  else s

section Levels

variable (levels : Text → Level)

def restartFromBeginning (s : Scene) (input : InputSnapshot) : Scene :=
  let s := { s with
    persistence := s.persistence.clearCheckpoint
    hasSavedCheckpoint := false }
  let s := { s.beginPlaythrough.clearTransientObjects with
    currentLevelName := firstLevelName }
  let s := { s with
    gameState := { s.gameState.resetForNewGame with
      highScore := s.persistence.loadHighScore }
    player := (s.player.setExoskeleton false).configure
      (levels firstLevelName).spawnX
    invulnerability := 0
    deathGroundTimer := 0 }
  let s := { s.changeFlow .playing with stateBeforePause := .playing }
  let s := { (s.latchActions input).latchPauseMenu input with
    menuFireWasPressed := input.fire
    debugWasPressed := input.debugHitboxes }
  s.saveCheckpoint

-- =========================================================== leaving zones

/-- The first zone of a stage starts its clock. -/
def noteStageStart (s : Scene) : Scene :=
  if s.gameState.zone ∈ stageStartZones then
    { s with
      stageBoundaries := s.stageBoundaries.noteStageStarted s.stepCount }
  else s

/-- Put the player at a level's entry. -/
def configurePlayer (s : Scene) (spawnX : Rat) : Scene :=
  { s with player := s.player.configure spawnX, invulnerability := 0 }

/-- Into a level, from any other. -/
def transition (s : Scene) (levelName : Text) (later : InputSnapshot) :
    Scene :=
  let s := { s.clearTransientObjects with
    currentLevelName := levelName
    gameState := { s.gameState with zone := zoneNumber levelName } }
  let s := s.noteStageStart.configurePlayer (levels levelName).spawnX
  { s.changeFlow .playing with
    deathGroundTimer := 0
    sceneJumpWasPressed := false
    fireWasPressed := later.fire
    grenadeWasPressed := later.grenade }.saveCheckpoint

/-- The award's life, and the refill. -/
def refillFrom (s : Scene) (award : StageBoundaryAward) : Scene :=
  if award.refillsAmmoAndGrenades then
    { s with gameState := { s.gameState with
        lives := award.livesAfter
        ammo := award.startingAmmo
        grenades := award.startingGrenades } }
  else s

def undressFor (s : Scene) (award : StageBoundaryAward) : Scene :=
  if award.clearsExoskeleton then
    { s with player := s.player.setExoskeleton false }
  else s

/-- Apply an award: points for the lives still held, then the life. -/
def applyAward (s : Scene) (award : StageBoundaryAward) : Scene :=
  ((s.awardPoints award.points).refillFrom award).undressFor award

/-- The trigger of a completed zone. -/
def applyOriginalStageBoundaryIfNeeded (s : Scene) (completedZone : Int) :
    Scene :=
  let result := s.stageBoundaries.outcome completedZone s.gameState.lives
    GameConstants.maxLives GameState.startingAmmo GameState.startingGrenades
    (s.stageBoundaries.context s.stepCount)
    GameplayStageComponentSequence.waveD
  let counted := { s with stageBoundaries := result.2 }
  let after :=
    match result.1 with
    | .notApplicable | .suppressed .. => counted
    | .awarded award => counted.applyAward award
  after.note (.boundary s.stepCount completedZone result.1 s.snapshot
    after.snapshot)

def checkScreenExit (s : Scene) (later : InputSnapshot) : Scene :=
  if s.player.x > GameConstants.screenExitX then
    let next := (levels s.currentLevelName).nextLevelName
    let playableNext := next ≠ [] ∧ includedLevels.contains next
    let s := s.applyOriginalStageBoundaryIfNeeded s.gameState.zone
    if playableNext then s.transition levels next later
    else s.enterContentComplete later
  else s

end Levels

-- ================================================================== deaths

/-- Every lethal path. -/
def hitPlayer (s : Scene) : Scene :=
  if s.testInvulnerabilityEnabled then s
  else if s.player.isDying ∨ s.invulnerability > 0 then s
  else
    let s := { s with player := s.player.beginDeath }
    { (s.changeFlow .playerDead).note (.deathBegan s.gameState.lives) with
      deathGroundTimer := 0 }

/-- A life is paid for a death. -/
def loseLife (s : Scene) : Scene :=
  let lives := max 0 (s.gameState.lives - 1)
  { s with
    deathGroundTimer := 0
    gameState := { s.gameState with lives := lives } }.note
    (.lifeLost s.gameState.lives lives)

/-- Back at the entry of the zone, refilled and protected. -/
def respawnPlayer (s : Scene) : Scene :=
  ({ s with
    gameState := { s.gameState with
      ammo := GameState.startingAmmo
      grenades := GameState.startingGrenades }
    player := s.player.finishDeathAndRespawn
    invulnerability :=
      GameConstants.postDeathProtectionDuration }.changeFlow
    .respawning).saveCheckpoint

/-- A grounded step of the death slide that settles it. -/
def settleDeath (s : Scene) (later : InputSnapshot) : Scene :=
  let s := s.loseLife
  let s := if s.gameState.lives = 0 then s.enterGameOver later
    else s.respawnPlayer
  s.note (.deathEnded s.gameState.lives)

def updateDeathSequence (s : Scene) (dt : Rat) (later : InputSnapshot) :
    Scene :=
  if s.player.isDying then
    if s.player.isGrounded then
      let deathGroundTimer := s.deathGroundTimer + dt
      if deathGroundTimer ≥ GameConstants.deathSettleDelay then
        s.settleDeath later
      else { s with deathGroundTimer := deathGroundTimer }
    else { s with deathGroundTimer := 0 }
  else s

-- ================================================================= weapons

/-- A press of FIRE, while there is ammunition. -/
def fireBlaster (s : Scene) (input : InputSnapshot) : Scene :=
  if (input.fire && !s.fireWasPressed) && decide (s.gameState.ammo > 0) then
    { s with
      bullets := s.bullets + (if s.player.hasExoskeleton then 2 else 1)
      gameState := { s.gameState with ammo := s.gameState.ammo - 1 } }
  else s

/-- A press of GRENADE, while there are grenades and none is in flight. -/
def throwGrenade (s : Scene) (input : InputSnapshot) : Scene :=
  if (input.grenade && !s.grenadeWasPressed)
      && decide (s.gameState.grenades > 0) && decide (s.grenades = 0) then
    { s with
      grenades := s.grenades + 1
      gameState := { s.gameState with grenades := s.gameState.grenades - 1 } }
  else s

def updateWeapons (s : Scene) (input : InputSnapshot) : Scene :=
  { (s.fireBlaster input).throwGrenade input with
    fireWasPressed := input.fire
    grenadeWasPressed := input.grenade }

end Scene

end Exolon

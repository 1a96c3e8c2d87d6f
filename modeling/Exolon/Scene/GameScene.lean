/-
The scene and its player.

`Scene` is told by its surroundings where the player is at the end of his
motion. Here that is what `Motion.Player` does with the solids of the level
(`updateMotion`); where a part of the step ends or begins the player's
death, so it does for both (`follow`). `step_scene`: the scene of a step is
the scene's own step, in the surroundings the player makes (`seen`).
-/
import Exolon.Player.Player
import Exolon.Scene.World

namespace Exolon

/-- What the scene reads of a level file. -/
structure TMXLevelRuntime where
  nextLevelName : Text
  spawnCenter : CGPoint
  groundY : Rat

/-- One fixed step: what the scene reads, the teleport the player stands in
and the solids of the level. -/
structure GameInput extends StepInput where
  teleportDestination : Option CGPoint := none
  solidRects : List CGRect := []

structure GameScene where
  scene : Scene
  player : Motion.Player

namespace GameScene

variable (resources : Text → TMXLevelRuntime)

def levels : Text → Level := fun name =>
  ⟨(resources name).nextLevelName, (resources name).spawnCenter.x⟩

-- =============================================================== one motion

/-- The scene takes a press of UP: in a changing room or in a teleport. -/
def contextual (s : GameScene) (i : GameInput) : Bool :=
  (i.rawInput.jump && !s.scene.sceneJumpWasPressed && !s.player.isDying)
    && (i.around.inChangingRoom || i.teleportDestination.isSome)

/-- The player behind the contextual use of UP. -/
def useContext (s : GameScene) (i : GameInput) : Motion.Player :=
  if s.contextual i then
    if i.around.inChangingRoom then
      s.player.toggleExoskeleton.consumeContextualJumpPress
    else
      match i.teleportDestination with
      | some center => (s.player.teleport center).consumeContextualJumpPress
      | none => s.player
  else s.player

/-- A step of motion and its collisions. -/
def movePlayer (p : Motion.Player) (i : GameInput) (dt : Rat) :
    Motion.Player :=
  let previousPosition := p.position
  let moved :=
    (p.update i.rawInput dt).resolveAll previousPosition i.solidRects
  (moved.refreshGroundSupport i.solidRects).finalizeMotionState i.rawInput

/-- The player at the end of his motion. -/
def moved (s : GameScene) (dt : Rat) (i : GameInput) : Motion.Player :=
  movePlayer (s.useContext i) i dt

/-- What the scene sees of a step. -/
def seen (s : GameScene) (dt : Rat) (i : GameInput) : StepInput :=
  { i.toStepInput with around := { i.around with
      x := (s.moved dt i).position.x
      isGrounded := (s.moved dt i).isGrounded } }

def updateMotion (s : GameScene) (dt : Rat) (i : GameInput) : GameScene where
  scene := s.scene.updateMotion dt (s.seen dt i)
  player := s.moved dt i

-- ================================================================ one step

/-- The player as the scene's is: dressed, dying, or back at the entry. -/
def follow (s : GameScene) (scene : Scene) : GameScene where
  scene := scene
  player :=
    let player := s.player.setExoskeleton scene.player.hasExoskeleton
    if !s.scene.player.isDying && scene.player.isDying then player.beginDeath
    else if s.scene.player.isDying && !scene.player.isDying then
      player.finishDeathAndRespawn
    else player

/-- Where the player enters a zone: at a stage's start, or at the height he
had. -/
def targetSpawn (levelName : Text) (carriedY : Rat) : CGPoint :=
  let level := resources levelName
  if zoneNumber levelName ∈ stageStartZones then level.spawnCenter
  else
    ⟨level.spawnCenter.x,
      max (level.groundY + GameConstants.playerSpriteSize.height * (1 / 2))
        carriedY⟩

/-- The zone the player leaves for. -/
def nextZone (s : Scene) : Option Text :=
  let next := (resources s.currentLevelName).nextLevelName
  if s.player.x > GameConstants.screenExitX
      ∧ next ≠ [] ∧ includedLevels.contains next then some next
  else none

def checkScreenExit (s : GameScene) (later : InputSnapshot) : GameScene :=
  let left := s.follow (s.scene.checkScreenExit (levels resources) later)
  match nextZone resources s.scene with
  | some name =>
      { left with
        player := left.player.configure
          (targetSpawn resources name s.player.position.y)
          (resources name).groundY }
  | none => left

def updateBody (s : GameScene) (dt : Rat) (i : GameInput) : GameScene :=
  s.follow (s.scene.updateBody dt i.toStepInput)

def meetWorld (s : GameScene) (i : GameInput) : GameScene :=
  s.follow (s.scene.meetWorld i.around)

def updateWorld (s : GameScene) (i : GameInput) : GameScene :=
  let s := s.meetWorld i
  if s.scene.player.isDying then s
  else s.checkScreenExit resources i.laterInput

def updatePlay (s : GameScene) (dt : Rat) (i : GameInput) : GameScene :=
  ((s.updateMotion dt i).updateBody dt i).updateWorld resources i

/-- The player of a new game. -/
def restartPlayer (p : Motion.Player) : Motion.Player :=
  (p.setExoskeleton false).configure (resources firstLevelName).spawnCenter
    (resources firstLevelName).groundY

/-- FIRE restarts the game: on the first line of the pause menu, and on the
screen of a game over. -/
def restarts (s : Scene) (input : InputSnapshot) : Bool :=
  match s.flowState with
  | .paused =>
      (input.fire && !s.pauseConfirmWasPressed)
        && decide ((s.selectPauseLine input).pauseSelectedIndex = 0)
  | .gameOver => input.fire && !s.menuFireWasPressed
  | _ => false

/-- A step in a menu. -/
def updateMenu (s : GameScene) (input : InputSnapshot) (scene : Scene) :
    GameScene where
  scene := scene
  player :=
    if restarts s.scene input then restartPlayer resources s.player
    else s.player

def fixedUpdate (s : GameScene) (dt : Rat) (i : GameInput) : GameScene :=
  if i.pausePress then
    { s with scene := s.scene.consumePausePress i.rawInput }
  else match s.scene.flowState with
  | .title => s.updateMenu resources i.rawInput (s.scene.updateTitle i.rawInput)
  | .paused =>
      s.updateMenu resources i.rawInput
        (s.scene.updatePaused (levels resources) i.rawInput)
  | .gameOver =>
      s.updateMenu resources i.rawInput
        (s.scene.updateGameOver (levels resources) i.rawInput)
  | .contentComplete =>
      s.updateMenu resources i.rawInput
        (s.scene.updateContentComplete i.rawInput)
  | .playing | .playerDead | .respawning => s.updatePlay resources dt i

-- ==================================================================== runs

/-- The driver grants a step. -/
def granted (s : GameScene) : GameScene :=
  { s with scene := { s.scene with stepCount := s.scene.stepCount + 1 } }

def step (s : GameScene) (i : GameInput) : Option GameScene :=
  some (s.granted.fixedUpdate resources GameConstants.fixedTimeStep i)

/-- The scene and its player when it is presented. -/
def didMove (persistence : GamePersistence) (warp : Option Text)
    (later : InputSnapshot) : GameScene where
  scene := Scene.didMove (levels resources) persistence warp later
  player :=
    let first := resources firstLevelName
    let player : Motion.Player := {}
    let player := player.configure first.spawnCenter first.groundY
    match warp with
    | some target =>
        if includedLevels.contains target then
          player.configure
            (targetSpawn resources target player.position.y)
            (resources target).groundY
        else player
    | none => player

-- =============================================================== the scene

section Scenes

variable {resources} (s : GameScene) (dt : Rat) (i : GameInput)

theorem follow_scene (scene : Scene) : (s.follow scene).scene = scene := rfl

theorem checkScreenExit_scene (later : InputSnapshot) :
    (s.checkScreenExit resources later).scene
      = s.scene.checkScreenExit (levels resources) later := by
  unfold checkScreenExit
  cases nextZone resources s.scene with
  | none => rfl
  | some name => rfl

/-- Behind the motion nothing asks the surroundings where the player is. -/
theorem updateWorld_scene (t : GameScene) :
    (t.updateWorld resources i).scene
      = t.scene.updateWorld (levels resources) (s.seen dt i) := by
  show (if (t.scene.meetWorld i.around).player.isDying then t.meetWorld i
      else (t.meetWorld i).checkScreenExit resources i.laterInput).scene
    = if (t.scene.meetWorld i.around).player.isDying then
        t.scene.meetWorld i.around
      else (t.scene.meetWorld i.around).checkScreenExit (levels resources)
        i.laterInput
  by_cases hdying : (t.scene.meetWorld i.around).player.isDying = true
  · rw [if_pos hdying, if_pos hdying]
    rfl
  · rw [if_neg hdying, if_neg hdying]
    exact checkScreenExit_scene ..

theorem updatePlay_scene :
    (s.updatePlay resources dt i).scene
      = s.scene.updatePlay (levels resources) dt (s.seen dt i) :=
  updateWorld_scene s dt i _

/-- The scene of a step is the scene's own step, in what it sees. -/
theorem fixedUpdate_scene :
    (s.fixedUpdate resources dt i).scene
      = s.scene.fixedUpdate (levels resources) dt (s.seen dt i) := by
  unfold fixedUpdate Scene.fixedUpdate
  by_cases hpause : i.pausePress = true
  · rw [if_pos hpause]
    exact (if_pos hpause).symm
  · rw [if_neg hpause]
    refine Eq.trans ?_ (if_neg hpause).symm
    cases s.scene.flowState with
    | title => rfl
    | paused => rfl
    | gameOver => rfl
    | contentComplete => rfl
    | playing => exact updatePlay_scene s dt i
    | playerDead => exact updatePlay_scene s dt i
    | respawning => exact updatePlay_scene s dt i

theorem step_scene {s t : GameScene} {i : GameInput}
    (h : step resources s i = some t) :
    Scene.step (levels resources) s.scene
        (s.granted.seen GameConstants.fixedTimeStep i) = some t.scene := by
  cases h
  exact congrArg some (fixedUpdate_scene s.granted _ i).symm

end Scenes

end GameScene

end Exolon

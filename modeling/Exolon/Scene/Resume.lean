/-
Keys that are held when play begins again.

Play begins again when the pause is left, from the title and with a restart
(`enters`). The scene has a latch for each of FIRE, GRENADE and UP, and sets
all three there; from then on a step sets them to what it reads (`Samples`).
The player has a latch of UP of his own, which no menu sets. It is clear
after everything that puts him back (`putsBack`).

`held_keys`: a key that is held triggers nothing before its release; for UP
where the player's own latch is set, and stays so.
-/
import Exolon.Player.Latch
import Exolon.Scene.GameScene

namespace Exolon

open Scene

-- ======================================================== what is triggered

/-- A step that plays, and is not one of a menu. -/
def Scene.plays (s : Scene) (i : StepInput) : Bool :=
  !i.pausePress && match s.flowState with
    | .playing | .playerDead | .respawning => true
    | _ => false

/-- Play begins again: the pause is left, the title started, the game
restarted. -/
def Scene.enters (s : Scene) (i : StepInput) : Bool :=
  if i.pausePress then decide (s.flowState = .paused)
  else match s.flowState with
    | .title => i.rawInput.fire && !s.menuFireWasPressed
    | _ => GameScene.restarts s i.rawInput

namespace GameScene

/-- The scene when the weapons are used. -/
def armed (s : GameScene) (i : GameInput) : Scene :=
  (s.granted.updateMotion GameConstants.fixedTimeStep i).scene

/-- The step fires a shot. -/
def shoots (s : GameScene) (i : GameInput) : Bool :=
  s.scene.plays i.toStepInput && !(s.armed i).player.isDying
    && ((i.rawInput.fire && !(s.armed i).fireWasPressed)
      && decide ((s.armed i).gameState.ammo > 0))

/-- The step throws a grenade. -/
def throws (s : GameScene) (i : GameInput) : Bool :=
  let armed := (s.armed i).fireBlaster i.rawInput
  s.scene.plays i.toStepInput && !armed.player.isDying
    && ((i.rawInput.grenade && !armed.grenadeWasPressed)
      && decide (armed.gameState.grenades > 0) && decide (armed.grenades = 0))

/-- The step uses UP in a changing room or a teleport. -/
def acts (s : GameScene) (i : GameInput) : Bool :=
  s.scene.plays i.toStepInput && s.contextual i

/-- The step starts a jump. -/
def jumps (s : GameScene) (i : GameInput) : Bool :=
  s.scene.plays i.toStepInput && (s.useContext i).startsJump i.rawInput

variable (resources : Text → TMXLevelRuntime)

/-- The step puts the player back: his death begins or ends, he enters a
zone, or the game restarts. -/
def putsBack (s : GameScene) (i : GameInput) : Bool :=
  if s.scene.plays i.toStepInput then
    let moved := s.granted.updateMotion GameConstants.fixedTimeStep i
    let body := moved.updateBody GameConstants.fixedTimeStep i
    let world := body.meetWorld i
    (moved.scene.player.isDying != body.scene.player.isDying)
      || (body.scene.player.isDying != world.scene.player.isDying)
      || (!world.scene.player.isDying
        && (nextZone resources world.scene).isSome)
  else !i.pausePress && restarts s.scene i.rawInput

end GameScene

-- ========================================================= the scene's part

/-- `t` is later in the same step than `s`: each latch is what it was or
what the step has read. A change of zones clears the one of UP. -/
structure Samples (i : StepInput) (enters : Prop) (s t : Scene) : Prop where
  fire : t.fireWasPressed = s.fireWasPressed
    ∨ t.fireWasPressed = i.rawInput.fire
    ∨ t.fireWasPressed = i.laterInput.fire
  grenade : t.grenadeWasPressed = s.grenadeWasPressed
    ∨ t.grenadeWasPressed = i.rawInput.grenade
    ∨ t.grenadeWasPressed = i.laterInput.grenade
  jump : t.sceneJumpWasPressed = s.sceneJumpWasPressed
    ∨ t.sceneJumpWasPressed = i.rawInput.jump ∨ enters

namespace Samples

variable {i : StepInput} {enters : Prop} {s t u : Scene}

theorem refl (s : Scene) : Samples i enters s s :=
  ⟨.inl rfl, .inl rfl, .inl rfl⟩

theorem trans (h : Samples i enters s t) (h' : Samples i enters t u) :
    Samples i enters s u where
  fire := by
    rcases h'.fire with hsame | hread
    · rw [hsame]
      exact h.fire
    · exact .inr hread
  grenade := by
    rcases h'.grenade with hsame | hread
    · rw [hsame]
      exact h.grenade
    · exact .inr hread
  jump := by
    rcases h'.jump with hsame | hread
    · rw [hsame]
      exact h.jump
    · exact .inr hread

/-- What leaves the latches alone. -/
theorem of_eq (hfire : t.fireWasPressed = s.fireWasPressed)
    (hgrenade : t.grenadeWasPressed = s.grenadeWasPressed)
    (hjump : t.sceneJumpWasPressed = s.sceneJumpWasPressed) :
    Samples i enters s t :=
  ⟨.inl hfire, .inl hgrenade, .inl hjump⟩

/-- What sets the latches to the keys of the step. -/
theorem of_latched (hfire : t.fireWasPressed = i.rawInput.fire)
    (hgrenade : t.grenadeWasPressed = i.rawInput.grenade)
    (hjump : t.sceneJumpWasPressed = i.rawInput.jump) :
    Samples i enters s t :=
  ⟨.inr (.inl hfire), .inr (.inl hgrenade), .inr (.inl hjump)⟩

end Samples

/-- The three latches of the scene. -/
def Scene.keys (s : Scene) : Bool × Bool × Bool :=
  (s.fireWasPressed, s.grenadeWasPressed, s.sceneJumpWasPressed)

theorem Samples.of_keys {i : StepInput} {enters : Prop} {s t : Scene}
    (h : t.keys = s.keys) : Samples i enters s t := by
  unfold Scene.keys at h
  obtain ⟨hfire, hrest⟩ := Prod.mk.inj h
  obtain ⟨hgrenade, hjump⟩ := Prod.mk.inj hrest
  exact .of_eq hfire hgrenade hjump

section Keys

variable (s : Scene)

@[simp] theorem keys_awardPoints (value : Int) :
    (s.awardPoints value).keys = s.keys := by
  unfold Scene.awardPoints
  split
  · simp only
    split
    · rfl
    · rfl
  · rfl

@[simp] theorem keys_hitPlayer : s.hitPlayer.keys = s.keys := by
  unfold hitPlayer
  split
  · rfl
  · split
    · rfl
    · rfl

/-- Nothing in the world touches the latches. -/
theorem keys_meetWorld (around : Surroundings) :
    (s.meetWorld around).keys = s.keys := by
  have hkeeps : WorldInvariant fun t => t.keys = s.keys := {
    awardPoints := fun h value => (keys_awardPoints _ value).trans h
    hitPlayer := fun h => (keys_hitPlayer _).trans h
    refillGrenades := fun h => h
    refillAmmo := fun h => h
    shots := fun h _ _ _ _ => h }
  exact hkeeps.meetWorld rfl around

@[simp] theorem keys_recordHighScore : s.recordHighScore.keys = s.keys := by
  unfold recordHighScore
  split
  · rfl
  · rfl

@[simp] theorem keys_enterGameOver (later : InputSnapshot) :
    (s.enterGameOver later).keys = s.keys := by
  unfold enterGameOver
  exact keys_recordHighScore _

theorem keys_settleDeath (later : InputSnapshot) :
    (s.settleDeath later).keys = s.keys := by
  unfold settleDeath
  simp only
  split
  · exact keys_enterGameOver s.loseLife later
  · rfl

theorem keys_updateDeathSequence (dt : Rat) (later : InputSnapshot) :
    (s.updateDeathSequence dt later).keys = s.keys := by
  unfold updateDeathSequence
  split
  · split
    · simp only
      split
      · exact keys_settleDeath s later
      · rfl
    · rfl
  · rfl

theorem keys_fireBlaster (input : InputSnapshot) :
    (s.fireBlaster input).keys = s.keys := by
  unfold fireBlaster
  split
  · rfl
  · rfl

theorem keys_throwGrenade (input : InputSnapshot) :
    (s.throwGrenade input).keys = s.keys := by
  unfold throwGrenade
  split
  · rfl
  · rfl

theorem keys_applyAward (award : StageBoundaryAward) :
    (s.applyAward award).keys = s.keys := by
  have hrefill (t : Scene) : (t.refillFrom award).keys = t.keys := by
    unfold refillFrom
    split
    · rfl
    · rfl
  have hundress (t : Scene) : (t.undressFor award).keys = t.keys := by
    unfold undressFor
    split
    · rfl
    · rfl
  unfold applyAward
  rw [hundress, hrefill, keys_awardPoints]

theorem keys_boundary (zone : Int) :
    (s.applyOriginalStageBoundaryIfNeeded zone).keys = s.keys := by
  unfold applyOriginalStageBoundaryIfNeeded
  simp only
  split
  · rfl
  · rfl
  · exact keys_applyAward _ _

end Keys

-- ----------------------------------------------------------- one step

/-- The latches a snapshot sets. -/
def InputSnapshot.keys (input : InputSnapshot) : Bool × Bool × Bool :=
  (input.fire, input.grenade, input.jump)

section Parts

variable (levels : Text → Level) (s : Scene) (i : StepInput) {enters : Prop}

theorem Samples.of_input {t : Scene} (h : t.keys = i.rawInput.keys) :
    Samples i enters s t := by
  unfold Scene.keys InputSnapshot.keys at h
  obtain ⟨hfire, hrest⟩ := Prod.mk.inj h
  obtain ⟨hgrenade, hjump⟩ := Prod.mk.inj hrest
  exact .of_latched hfire hgrenade hjump

theorem keys_restart (input : InputSnapshot) :
    (s.restartFromBeginning levels input).keys = input.keys := rfl

theorem keys_beginFromTitle (input : InputSnapshot) :
    (s.beginFromTitle input).keys = input.keys := by
  unfold beginFromTitle ensureCheckpoint
  split
  · rfl
  · rfl

theorem keys_leavePause (hpaused : s.flowState = .paused)
    (input : InputSnapshot) : (s.leavePause input).keys = input.keys := by
  unfold leavePause
  rw [if_pos hpaused]
  rfl

theorem keys_updateMotion (dt : Rat) :
    (s.updateMotion dt i).keys
      = (s.fireWasPressed, s.grenadeWasPressed, i.rawInput.jump) := by
  have hprotected (t : Scene) : (t.updateInvulnerability dt).keys
      = t.keys := by
    unfold updateInvulnerability endRespawn
    split
    · split
      · rfl
      · rfl
    · rfl
  have hcontext (t : Scene) (around : Surroundings) :
      (t.updateContext i.rawInput around).keys
        = (t.fireWasPressed, t.grenadeWasPressed, i.rawInput.jump) := by
    unfold updateContext
    simp only
    split
    · rfl
    · rfl
  obtain ⟨hfire, hrest⟩ := Prod.mk.inj (hprotected s)
  obtain ⟨hgrenade, _⟩ := Prod.mk.inj hrest
  unfold updateMotion updatePlayer
  simp only
  refine (hcontext _ i.around).trans ?_
  show ((s.updateInvulnerability dt).fireWasPressed,
    (s.updateInvulnerability dt).grenadeWasPressed, _) = _
  rw [hfire, hgrenade]

theorem samples_updateMotion (dt : Rat) :
    Samples i enters s (s.updateMotion dt i) := by
  obtain ⟨hfire, hrest⟩ := Prod.mk.inj (keys_updateMotion s i dt)
  obtain ⟨hgrenade, hjump⟩ := Prod.mk.inj hrest
  exact ⟨.inl hfire, .inl hgrenade, .inr (.inl hjump)⟩

theorem samples_updateBody (dt : Rat) :
    Samples i enters s (s.updateBody dt i) := by
  unfold updateBody
  split
  · refine Samples.trans ?_ (.of_keys (keys_updateDeathSequence _ dt _))
    exact ⟨.inr (.inl rfl), .inr (.inl rfl), .inl rfl⟩
  · have hkeys := (keys_throwGrenade (({ s with
      deathGroundTimer := 0 } : Scene).fireBlaster i.rawInput)
      i.rawInput).trans (keys_fireBlaster _ i.rawInput)
    exact ⟨.inr (.inl rfl), .inr (.inl rfl), .inl (Prod.mk.inj
      (Prod.mk.inj hkeys).2).2⟩

theorem samples_checkScreenExit (resources : Text → TMXLevelRuntime) :
    Samples i ((GameScene.nextZone resources s).isSome = true) s
      (s.checkScreenExit (GameScene.levels resources) i.laterInput) := by
  unfold checkScreenExit
  split
  · rename_i hexit
    refine (Samples.of_keys (keys_boundary s s.gameState.zone)).trans ?_
    simp only
    split
    · rename_i hnext
      have hzone : (GameScene.nextZone resources s).isSome = true := by
        unfold GameScene.nextZone
        simp only
        rw [if_pos ⟨hexit, hnext⟩]
        rfl
      exact ⟨.inr (.inr rfl), .inr (.inr rfl), .inr (.inr hzone)⟩
    · exact .of_eq rfl rfl rfl
  · exact .refl s

theorem samples_menu (hpause : i.pausePress = false)
    (hplays : s.plays i = false) (dt : Rat) :
    Samples i enters s (s.fixedUpdate levels dt i) := by
  unfold fixedUpdate
  rw [if_neg (by simp [hpause])]
  cases hflow : s.flowState with
  | title =>
      show Samples i enters s (s.updateTitle i.rawInput)
      unfold updateTitle
      simp only
      split
      · exact .of_input s i (keys_beginFromTitle _ _)
      · exact .of_eq rfl rfl rfl
  | paused =>
      show Samples i enters s (s.updatePaused levels i.rawInput)
      unfold updatePaused confirmPauseLine
      simp only
      split
      · split
        · exact .of_input s i (keys_restart levels _ _)
        · exact .of_eq rfl rfl rfl
      · exact .of_eq rfl rfl rfl
  | gameOver =>
      show Samples i enters s (s.updateGameOver levels i.rawInput)
      unfold updateGameOver
      simp only
      split
      · exact .of_input s i (keys_restart levels _ _)
      · exact .of_eq rfl rfl rfl
  | contentComplete =>
      show Samples i enters s (s.updateContentComplete i.rawInput)
      unfold updateContentComplete
      simp only
      split
      · exact .of_eq rfl rfl rfl
      · exact .of_eq rfl rfl rfl
  | playing => simp [plays, hpause, hflow] at hplays
  | playerDead => simp [plays, hpause, hflow] at hplays
  | respawning => simp [plays, hpause, hflow] at hplays

theorem samples_pausePress :
    Samples i enters s (s.consumePausePress i.rawInput) := by
  unfold consumePausePress enterPause
  by_cases hplaying : s.flowState = .playing ∨ s.flowState = .respawning
  · rw [if_pos hplaying, if_pos hplaying]
    exact .of_eq rfl rfl rfl
  · rw [if_neg hplaying]
    by_cases hpaused : s.flowState = .paused
    · rw [if_pos hpaused]
      exact .of_input s i (keys_leavePause s hpaused _)
    · rw [if_neg hpaused]
      exact .refl s

/-- A step that begins play takes the keys over. -/
theorem keys_fixedUpdate (henters : s.enters i = true) (dt : Rat) :
    (s.fixedUpdate levels dt i).keys = i.rawInput.keys := by
  unfold Scene.enters at henters
  unfold fixedUpdate
  by_cases hpause : i.pausePress = true
  · rw [if_pos hpause, decide_eq_true_iff] at henters
    rw [if_pos hpause]
    unfold consumePausePress
    rw [if_neg (by simp [henters]), if_pos henters]
    exact keys_leavePause s henters _
  · rw [if_neg hpause] at henters
    rw [if_neg hpause]
    cases hflow : s.flowState with
    | title =>
        simp only [hflow] at henters
        show (s.updateTitle i.rawInput).keys = _
        unfold updateTitle
        simp only
        rw [if_pos henters]
        exact keys_beginFromTitle _ _
    | paused =>
        simp only [hflow, GameScene.restarts, Bool.and_eq_true,
          decide_eq_true_iff] at henters
        show (s.updatePaused levels i.rawInput).keys = _
        unfold updatePaused confirmPauseLine
        simp only
        rw [if_pos (by simpa [selectPauseLine] using henters.1),
          if_pos henters.2]
        exact keys_restart levels _ _
    | gameOver =>
        simp only [hflow, GameScene.restarts] at henters
        show (s.updateGameOver levels i.rawInput).keys = _
        unfold updateGameOver
        simp only
        rw [if_pos henters]
        exact keys_restart levels _ _
    | contentComplete => simp [GameScene.restarts, hflow] at henters
    | playing => simp [GameScene.restarts, hflow] at henters
    | playerDead => simp [GameScene.restarts, hflow] at henters
    | respawning => simp [GameScene.restarts, hflow] at henters

end Parts

-- ========================================================= the whole step

namespace GameScene

variable {resources : Text → TMXLevelRuntime} {s t : GameScene}
  {i : GameInput}

theorem samples_congr {i j : StepInput} {enters enters' : Prop}
    {s s' t : Scene} (h : Samples i enters s t) (hraw : j.rawInput = i.rawInput)
    (hlater : j.laterInput = i.laterInput) (hkeys : s'.keys = s.keys)
    (henters : enters → enters') : Samples j enters' s' t := by
  have hsame : Samples i enters s' t := (Samples.of_keys hkeys.symm).trans h
  refine ⟨?_, ?_, ?_⟩
  · rw [hraw, hlater]
    exact hsame.fire
  · rw [hraw, hlater]
    exact hsame.grenade
  · rw [hraw]
    exact hsame.jump.imp_right fun hjump => hjump.imp_right henters

/-- A step of play. -/
theorem samples_updatePlay (hplays : s.scene.plays i.toStepInput = true) :
    Samples i.toStepInput (putsBack resources s i = true) s.scene
      (s.granted.updatePlay resources GameConstants.fixedTimeStep i).scene := by
  have hmotion : Samples i.toStepInput (putsBack resources s i = true) s.scene
      (s.granted.updateMotion GameConstants.fixedTimeStep i).scene :=
    samples_congr (samples_updateMotion s.granted.scene
      (s.granted.seen GameConstants.fixedTimeStep i)
      GameConstants.fixedTimeStep : Samples _ False _ _) rfl rfl rfl False.elim
  have hbody := hmotion.trans (samples_updateBody
    (s.granted.updateMotion GameConstants.fixedTimeStep i).scene
    i.toStepInput GameConstants.fixedTimeStep)
  have hworld := hbody.trans (.of_keys (keys_meetWorld
    ((s.granted.updateMotion GameConstants.fixedTimeStep i).updateBody
      GameConstants.fixedTimeStep i).scene i.around))
  by_cases hdying : (((s.granted.updateMotion GameConstants.fixedTimeStep
      i).updateBody GameConstants.fixedTimeStep i).meetWorld
      i).scene.player.isDying = true
  · unfold updatePlay updateWorld
    simp only
    rw [if_pos hdying]
    exact hworld
  · unfold updatePlay updateWorld
    simp only
    rw [if_neg hdying, checkScreenExit_scene]
    refine hworld.trans (samples_congr (samples_checkScreenExit _
      i.toStepInput resources) rfl rfl rfl ?_)
    intro hzone
    unfold putsBack
    rw [if_pos hplays]
    simp only
    rw [hzone, Bool.not_eq_true] at *
    simp [hdying]

theorem fixedUpdate_plays (hplays : s.scene.plays i.toStepInput = true)
    (dt : Rat) : s.fixedUpdate resources dt i = s.updatePlay resources dt i := by
  unfold plays at hplays
  rw [Bool.and_eq_true] at hplays
  obtain ⟨hpause, hflow⟩ := hplays
  unfold fixedUpdate
  rw [if_neg (by simpa using hpause)]
  cases hstate : s.scene.flowState with
  | playing => rfl
  | playerDead => rfl
  | respawning => rfl
  | title => simp [hstate] at hflow
  | paused => simp [hstate] at hflow
  | gameOver => simp [hstate] at hflow
  | contentComplete => simp [hstate] at hflow

theorem fixedUpdate_pausePress (hpause : i.pausePress = true) (dt : Rat) :
    s.fixedUpdate resources dt i =
      { s with scene := s.scene.consumePausePress i.rawInput } := if_pos hpause

/-- Where the player is not put back, a step sets each latch of the scene to
what it was or to what the step has read. -/
theorem samples_step (hstep : step resources s i = some t) :
    Samples i.toStepInput (putsBack resources s i = true) s.scene t.scene := by
  cases hstep
  by_cases hplays : s.scene.plays i.toStepInput = true
  · rw [fixedUpdate_plays (s := s.granted) hplays]
    exact samples_updatePlay hplays
  · by_cases hpause : i.pausePress = true
    · rw [fixedUpdate_pausePress hpause]
      exact samples_congr (samples_pausePress s.granted.scene i.toStepInput
        : Samples _ False _ _) rfl rfl rfl False.elim
    · rw [fixedUpdate_scene]
      exact samples_congr (samples_menu (levels resources) s.granted.scene
        (s.granted.seen GameConstants.fixedTimeStep i)
        (Bool.eq_false_iff.mpr hpause) (Bool.eq_false_iff.mpr hplays) _
        : Samples _ False _ _) rfl rfl rfl False.elim

/-- The latches of a step that begins play are the keys it reads. -/
theorem keys_of_enters (henters : s.scene.enters i.toStepInput = true)
    (hstep : step resources s i = some t) :
    t.scene.keys = i.rawInput.keys := by
  cases hstep
  rw [fixedUpdate_scene]
  exact keys_fixedUpdate (levels resources) s.granted.scene
    (s.granted.seen GameConstants.fixedTimeStep i) henters _

-- ======================================================== the player's part

/-- UP starts no jump: the player's own latch is set, or he is dying. -/
def Pressed (p : Motion.Player) : Prop := p.isDying ∨ p.jumpWasPressed

theorem pressed_of_latches {p q : Motion.Player} (h : Pressed p)
    (hlatches : q.latches = p.latches) : Pressed q := by
  have hdying := congrArg Motion.Latches.isDying hlatches
  have hjump := congrArg Motion.Latches.jumpWasPressed hlatches
  rcases h with h | h
  · exact .inl (hdying.trans h)
  · exact .inr (hjump.trans h)

theorem startsJump_of_pressed {p : Motion.Player} (h : Pressed p)
    (input : InputSnapshot) : p.startsJump input = false := by
  unfold Motion.Player.startsJump Motion.Player.jumps
    Motion.Player.jumpJustPressed
  rcases h with h | h
  · rw [h]
    rfl
  · rw [h]
    simp

theorem pressed_useContext (h : Pressed s.player) :
    Pressed (s.useContext i) := by
  unfold useContext
  split
  · split
    · exact .inr rfl
    · split
      · exact .inr rfl
      · exact h
  · exact h

theorem latches_resolveAll (previousPosition : CGPoint) (p : Motion.Player)
    (solids : List CGRect) :
    (p.resolveAll previousPosition solids).latches = p.latches := by
  unfold Motion.Player.resolveAll
  induction solids generalizing p with
  | nil => rfl
  | cons solid solids ih =>
      rw [List.foldl_cons, ih]
      split
      · exact Motion.latches_resolve p previousPosition solid
      · rfl

/-- A step of motion that reads UP as held. -/
theorem pressed_moved (h : Pressed s.player) (hjump : i.rawInput.jump = true)
    (dt : Rat) : Pressed (s.moved dt i) := by
  have hused : Pressed (s.useContext i) := pressed_useContext h
  have hlatches : (s.moved dt i).latches
      = ((s.useContext i).update i.rawInput dt).latches := by
    unfold moved movePlayer
    simp only
    rw [Motion.latches_finalize, Motion.latches_refresh, latches_resolveAll]
  rw [Motion.latches_update, hjump] at hlatches
  by_cases hdying : (s.useContext i).isDying = true
  · rw [if_pos hdying] at hlatches
    exact pressed_of_latches hused hlatches
  · rw [if_neg hdying] at hlatches
    exact .inr (congrArg Motion.Latches.jumpWasPressed hlatches)

theorem pressed_follow {scene : Scene} (h : Pressed s.player)
    (hsame : s.scene.player.isDying = scene.player.isDying) :
    Pressed (s.follow scene).player := by
  unfold follow
  simp only
  rw [hsame, Bool.not_and_self, if_neg Bool.false_ne_true, Bool.and_not_self,
    if_neg Bool.false_ne_true]
  exact h

theorem dying_boundary (s : Scene) (zone : Int) :
    (s.applyOriginalStageBoundaryIfNeeded zone).player.isDying
      = s.player.isDying := by
  have hpoints (t : Scene) (value : Int) :
      (t.awardPoints value).player = t.player := by
    unfold Scene.awardPoints
    split
    · simp only
      split
      · rfl
      · rfl
    · rfl
  have hrefill (t : Scene) (award : StageBoundaryAward) :
      (t.refillFrom award).player = t.player := by
    unfold refillFrom
    split
    · rfl
    · rfl
  have hundress (t : Scene) (award : StageBoundaryAward) :
      (t.undressFor award).player.isDying = t.player.isDying := by
    unfold undressFor
    split
    · rfl
    · rfl
  unfold applyOriginalStageBoundaryIfNeeded
  simp only
  split
  · rfl
  · rfl
  · show (Scene.applyAward _ _).player.isDying = _
    unfold applyAward
    rw [hundress, hrefill, hpoints]

/-- Who enters no zone is alive behind the exit if he was before. -/
theorem dying_checkScreenExit {s : Scene} (hzone : nextZone resources s = none)
    (later : InputSnapshot) :
    (s.checkScreenExit (levels resources) later).player.isDying
      = s.player.isDying := by
  unfold Scene.checkScreenExit
  split
  · rename_i hexit
    simp only
    split
    · rename_i hnext
      unfold nextZone at hzone
      simp only at hzone
      rw [if_pos ⟨hexit, hnext⟩] at hzone
      cases hzone
    · exact dying_boundary s s.gameState.zone
  · rfl

theorem fixedUpdate_menu (hplays : s.scene.plays i.toStepInput = false)
    (hpause : i.pausePress = false) (dt : Rat) :
    (s.fixedUpdate resources dt i).player =
      if restarts s.scene i.rawInput then restartPlayer resources s.player
      else s.player := by
  unfold fixedUpdate
  rw [if_neg (by simp [hpause])]
  cases hflow : s.scene.flowState with
  | title => rfl
  | paused => rfl
  | gameOver => rfl
  | contentComplete => rfl
  | playing => simp [plays, hpause, hflow] at hplays
  | playerDead => simp [plays, hpause, hflow] at hplays
  | respawning => simp [plays, hpause, hflow] at hplays

/-- Where the player is not put back, a held UP stays pressed for him. -/
theorem pressed_step (h : Pressed s.player) (hjump : i.rawInput.jump = true)
    (hback : putsBack resources s i = false)
    (hstep : step resources s i = some t) : Pressed t.player := by
  cases hstep
  unfold putsBack at hback
  by_cases hplays : s.scene.plays i.toStepInput = true
  · rw [if_pos hplays] at hback
    rw [fixedUpdate_plays (s := s.granted) hplays]
    simp only [Bool.or_eq_false_iff, bne_eq_false_iff_eq] at hback
    obtain ⟨⟨hbody, hworld⟩, hzone⟩ := hback
    have hmoved : Pressed (s.granted.updateMotion
        GameConstants.fixedTimeStep i).player :=
      pressed_moved (s := s.granted) h hjump _
    have hbody' := pressed_follow hmoved hbody
    have hworld' := pressed_follow hbody' hworld
    unfold updatePlay updateWorld
    simp only
    by_cases hdying : (((s.granted.updateMotion GameConstants.fixedTimeStep
        i).updateBody GameConstants.fixedTimeStep i).meetWorld
        i).scene.player.isDying = true
    · rw [if_pos hdying]
      exact hworld'
    · rw [if_neg hdying]
      have hnone : nextZone resources (((s.granted.updateMotion
          GameConstants.fixedTimeStep i).updateBody
          GameConstants.fixedTimeStep i).meetWorld i).scene = none := by
        simpa [hdying] using hzone
      unfold checkScreenExit
      simp only [hnone]
      exact pressed_follow hworld' (dying_checkScreenExit hnone _).symm
  · rw [if_neg hplays] at hback
    by_cases hpause : i.pausePress = true
    · rw [fixedUpdate_pausePress hpause]
      exact h
    · have hmenu : restarts s.scene i.rawInput = false := by
        simpa [hpause] using hback
      rw [fixedUpdate_menu (s := s.granted) (Bool.eq_false_iff.mpr hplays)
        (Bool.eq_false_iff.mpr hpause)]
      rw [if_neg (show ¬restarts s.granted.scene i.rawInput = true from
        Bool.eq_false_iff.mp hmenu)]
      exact h

-- ===================================================================== runs

/-- A key is held: in the step that begins play, and from then on in every
snapshot that is read. -/
def Holds (key : InputSnapshot → Bool) (entry : GameInput)
    (held : List GameInput) : Prop :=
  key entry.rawInput = true
    ∧ ∀ i ∈ held, key i.rawInput = true ∧ key i.laterInput = true

/-- A latch that each step takes from itself or from what it reads stays
set. -/
theorem latch_held {key : InputSnapshot → Bool} {latch : Scene → Bool}
    {held : List GameInput}
    (hheld : ∀ i ∈ held, key i.rawInput = true ∧ key i.laterInput = true)
    (hsamples : ∀ {s t : GameScene} {i : GameInput},
      step resources s i = some t → latch t.scene = latch s.scene
        ∨ latch t.scene = key i.rawInput ∨ latch t.scene = key i.laterInput)
    (hset : latch s.scene = true)
    (hrun : Run.run (step resources) s held = some t) :
    latch t.scene = true := by
  have hend : (∀ i ∈ ([] : List GameInput), key i.rawInput = true
      ∧ key i.laterInput = true) ∧ latch t.scene = true := by
    refine Run.run_invariant_rest (I := fun rest s => (∀ i ∈ rest,
      key i.rawInput = true ∧ key i.laterInput = true)
        ∧ latch s.scene = true) ?_ ⟨hheld, hset⟩ hrun
    intro s s' i rest h hstep
    obtain ⟨hrest, hlatch⟩ := h
    rw [List.forall_mem_cons] at hrest
    refine ⟨hrest.2, ?_⟩
    rcases hsamples hstep with hsame | hraw | hlater
    · rw [hsame]
      exact hlatch
    · rw [hraw]
      exact hrest.1.1
    · rw [hlater]
      exact hrest.1.2
  exact hend.2

/-- A shot needs a clear latch of FIRE. -/
theorem shoots_of_latch (h : s.scene.fireWasPressed = true) (i : GameInput) :
    s.shoots i = false := by
  have hkeys := keys_updateMotion s.granted.scene
    (s.granted.seen GameConstants.fixedTimeStep i) GameConstants.fixedTimeStep
  have hfire : (s.armed i).fireWasPressed = true :=
    (Prod.mk.inj hkeys).1.trans h
  unfold shoots
  rw [hfire]
  simp

/-- A throw needs a clear latch of GRENADE. -/
theorem throws_of_latch (h : s.scene.grenadeWasPressed = true)
    (i : GameInput) : s.throws i = false := by
  have hkeys := (keys_fireBlaster (s.armed i) i.rawInput).trans
    (keys_updateMotion s.granted.scene
      (s.granted.seen GameConstants.fixedTimeStep i)
      GameConstants.fixedTimeStep)
  have hgrenade : ((s.armed i).fireBlaster i.rawInput).grenadeWasPressed
      = true := (Prod.mk.inj (Prod.mk.inj hkeys).2).1.trans h
  unfold throws
  simp only
  rw [hgrenade]
  simp

/-- A use of UP needs a clear latch of the scene. -/
theorem contextual_of_latch (h : s.scene.sceneJumpWasPressed = true)
    (i : GameInput) : s.contextual i = false := by
  unfold contextual
  rw [h]
  simp

/-- A step in which the player is not put back. -/
def StaysPut (resources : Text → TMXLevelRuntime) (s : GameScene)
    (i : GameInput) : Prop := putsBack resources s i = false

/-- Along a run in which UP is held, both latches of UP stay set. -/
theorem jump_held {held : List GameInput}
    (hheld : ∀ i ∈ held, i.rawInput.jump = true)
    (hscene : s.scene.sceneJumpWasPressed = true) (hplayer : Pressed s.player)
    (halong : Run.Along (step resources) (StaysPut resources) s held)
    (hrun : Run.run (step resources) s held = some t) :
    t.scene.sceneJumpWasPressed = true ∧ Pressed t.player := by
  have hend : (∀ i ∈ ([] : List GameInput), i.rawInput.jump = true)
      ∧ Run.Along (step resources) (StaysPut resources) t []
      ∧ t.scene.sceneJumpWasPressed = true ∧ Pressed t.player := by
    refine Run.run_invariant_rest (I := fun rest s =>
      (∀ i ∈ rest, i.rawInput.jump = true)
        ∧ Run.Along (step resources) (StaysPut resources) s rest
        ∧ s.scene.sceneJumpWasPressed = true ∧ Pressed s.player)
      ?_ ⟨hheld, halong, hscene, hplayer⟩ hrun
    intro s s' i rest h hstep
    obtain ⟨hrest, ⟨hput, halong⟩, hlatch, hpressed⟩ := h
    rw [List.forall_mem_cons] at hrest
    refine ⟨hrest.2, halong s' hstep, ?_,
      pressed_step hpressed hrest.1 hput hstep⟩
    rcases (samples_step hstep).jump with hsame | hraw | hback
    · exact hsame.trans hlatch
    · exact hraw.trans hrest.1
    · exact absurd (hback.symm.trans hput) (by decide)
  exact hend.2.2

/-- A key that is held when play begins again triggers nothing before it is
released: FIRE and GRENADE always, UP where the player's own latch is set
when play begins and he is not put back since. -/
theorem held_keys (resources : Text → TMXLevelRuntime) (s t : GameScene)
    (entry : GameInput) (held : List GameInput) (last : GameInput)
    (henters : s.scene.enters entry.toStepInput = true)
    (hrun : Run.run (step resources) s (entry :: held) = some t) :
    (Holds InputSnapshot.fire entry held → t.shoots last = false)
      ∧ (Holds InputSnapshot.grenade entry held → t.throws last = false)
      ∧ (Holds InputSnapshot.jump entry held →
        s.player.jumpWasPressed = true →
        Run.Along (step resources) (StaysPut resources) s (entry :: held) →
        t.acts last = false ∧ t.jumps last = false) := by
  obtain ⟨s₁, hentry, hrest⟩ := Run.run_cons_inv hrun
  have hkeys := keys_of_enters henters hentry
  obtain ⟨hfire, hkeys⟩ := Prod.mk.inj hkeys
  obtain ⟨hgrenade, hjump⟩ := Prod.mk.inj hkeys
  refine ⟨?_, ?_, ?_⟩
  · intro hholds
    exact shoots_of_latch (latch_held hholds.2
      (fun hstep => (samples_step hstep).fire) (hfire.trans hholds.1) hrest) _
  · intro hholds
    exact throws_of_latch (latch_held hholds.2
      (fun hstep => (samples_step hstep).grenade) (hgrenade.trans hholds.1)
      hrest) _
  · intro hholds hpressed halong
    obtain ⟨hput, halong⟩ := halong
    obtain ⟨hlatch, hplayer⟩ := jump_held (fun i hi => (hholds.2 i hi).1)
      (hjump.trans hholds.1)
      (pressed_step (.inr hpressed) hholds.1 hput hentry)
      (halong s₁ hentry) hrest
    unfold acts jumps
    rw [contextual_of_latch hlatch, Bool.and_false]
    refine ⟨rfl, ?_⟩
    rw [startsJump_of_pressed (pressed_useContext hplayer), Bool.and_false]

-- ------------------------------------------------------------- two pauses

/-- A level without solids. -/
def openLevel : TMXLevelRuntime := ⟨[], ⟨88, 128⟩, 96⟩

/-- A step with these keys, and nothing to meet. -/
def keyed (rawInput : InputSnapshot) (pausePress : Bool) : GameInput where
  pausePress := pausePress
  rawInput := rawInput
  around := { x := 0, isGrounded := true }

/-- A game that is started, played for a step and paused. -/
def paused (playing : InputSnapshot) : GameScene :=
  ((Run.run (step fun _ => openLevel)
    (didMove (fun _ => openLevel) ⟨none, 0⟩ none {})
    [keyed { fire := true } false, keyed playing false,
      keyed playing true])).getD ⟨.didMove (levels fun _ => openLevel)
        ⟨none, 0⟩ none {}, {}⟩

/-- All three keys held as the pause is left, UP since before the pause. -/
theorem held_keys_paused : ∃ t,
    Run.run (step fun _ => openLevel) (paused { jump := true })
        [keyed { fire := true, grenade := true, jump := true } true] = some t
      ∧ t.shoots (keyed { fire := true } false) = false
      ∧ t.throws (keyed { grenade := true } false) = false
      ∧ t.acts (keyed { jump := true } false) = false
      ∧ t.jumps (keyed { jump := true } false) = false := by
  have h (last : GameInput) := held_keys (fun _ => openLevel)
    (paused { jump := true }) _
    (keyed { fire := true, grenade := true, jump := true } true) [] last
    (by decide +kernel) rfl
  have hnone (key : InputSnapshot → Bool) : ∀ i ∈ ([] : List GameInput),
      key i.rawInput = true ∧ key i.laterInput = true :=
    fun _ hi => absurd hi List.not_mem_nil
  refine ⟨_, rfl, (h _).1 ⟨rfl, hnone _⟩, (h _).2.1 ⟨rfl, hnone _⟩,
    (h _).2.2 ⟨rfl, hnone _⟩ ?_ ?_⟩
  · decide +kernel
  · exact ⟨by unfold StaysPut; decide +kernel, fun _ _ => trivial⟩

/-- UP pressed in the pause menu and held as it is left: the next step
jumps. -/
theorem held_keys_jumps : ∃ t,
    (paused {}).scene.enters (keyed { jump := true } true).toStepInput = true
      ∧ Run.run (step fun _ => openLevel) (paused {})
        [keyed { jump := true } true] = some t
      ∧ Holds InputSnapshot.jump (keyed { jump := true } true) []
      ∧ t.jumps (keyed { jump := true } false) = true := by
  refine ⟨_, ?_, rfl, ⟨rfl, ?_⟩, ?_⟩
  · decide +kernel
  · exact fun _ hi => absurd hi List.not_mem_nil
  · decide +kernel

end GameScene

end Exolon

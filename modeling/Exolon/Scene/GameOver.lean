/-
What is left of a step once the game is over.

`enterGameOver` is called in the middle of a step of play. The projectiles,
the packs and the bubbles of that step are still processed, and a dead
player does not stop them from paying: only hits and the screen exit look
at it. From the next step on the menu is all there is.

# The condition

`Calm` is a condition on the step that settles the last death: nothing that
is still processed in it is worth points or a refill. Every other step
meets it. In a run of calm steps the game state shown while the game is
over is the one reported when it ended.
-/
import Exolon.Scene.Books

namespace Exolon

namespace Scene

open Books (settleDeath_last settleDeath_more)

-- ========================================================== the condition

/-- The step settles the death that takes the last life. -/
def SettlesLastDeath (s : Scene) (i : StepInput) : Prop :=
  i.pausePress = false ∧ s.flowState = .playerDead
  ∧ i.around.isGrounded = true ∧ s.gameState.lives = 1
  ∧ s.deathGroundTimer + GameConstants.fixedTimeStep
    ≥ GameConstants.deathSettleDelay

/-- An award of `value` leaves the score as it is. -/
def Worthless (s : Scene) (value : Int) : Prop :=
  value ≤ 0 ∨ s.gameState.points = 999999

/-- What the player touches pays. A missile comes before it. -/
def creaturePoints (around : Surroundings) : Int :=
  if around.missileHit then 0
  else around.bubble.getD (around.egg.getD 0)

/-- Nothing that is still processed is worth points or a refill. -/
structure NothingLeft (s : Scene) (around : Surroundings) : Prop where
  bullets : ∀ n < s.bullets, s.Worthless (around.bullet n).points
  grenades : ∀ n < s.grenades, s.Worthless (around.grenade n).points
  grenadePacks : around.grenadePacks = 0
    ∨ s.gameState.grenades = GameState.startingGrenades
  ammoPacks : around.ammoPacks = 0
    ∨ s.gameState.ammo = GameState.startingAmmo
  launcher : s.Worthless (around.launcherBonus.getD 0)
  creature : s.Worthless (creaturePoints around)

/-- Whether anything is left is read off these parts of the scene. -/
theorem NothingLeft.of_eq {s t : Scene} {around : Surroundings}
    (h : s.NothingLeft around)
    (hpoints : t.gameState.points = s.gameState.points)
    (hammo : t.gameState.ammo = s.gameState.ammo)
    (hcount : t.gameState.grenades = s.gameState.grenades)
    (hbullets : t.bullets = s.bullets)
    (hgrenades : t.grenades = s.grenades) : t.NothingLeft around := by
  have hworth {value : Int} (hvalue : s.Worthless value) :
      t.Worthless value := by
    rw [Worthless, hpoints]
    exact hvalue
  exact {
    bullets := fun n hn => hworth (h.bullets n (hbullets ▸ hn))
    grenades := fun n hn => hworth (h.grenades n (hgrenades ▸ hn))
    grenadePacks := hcount ▸ h.grenadePacks
    ammoPacks := hammo ▸ h.ammoPacks
    launcher := hworth h.launcher
    creature := hworth h.creature }

/-- A step that settles the last death finds nothing left to process. -/
def Calm (s : Scene) (i : StepInput) : Prop :=
  s.SettlesLastDeath i → s.NothingLeft i.around

-- ============================================================ what follows

/-- `t` is later in the same step than `s`: the player may have died, and
the dead stay as they are. -/
structure Follows (s t : Scene) : Prop where
  flow : t.flowState = s.flowState ∨ t.flowState = .playerDead
  dying : s.player.isDying = true → t.player.isDying = true
  dead : s.player.isDying = true →
    t.flowState = s.flowState ∧ t.history = s.history

namespace Follows

variable {s t u : Scene}

theorem refl (s : Scene) : s.Follows s :=
  ⟨.inl rfl, id, fun _ => ⟨rfl, rfl⟩⟩

theorem trans (h : s.Follows t) (h' : t.Follows u) : s.Follows u where
  flow := by
    rcases h'.flow with hflow | hdead
    · rw [hflow]
      exact h.flow
    · exact .inr hdead
  dying := fun hdying => h'.dying (h.dying hdying)
  dead := by
    intro hdying
    obtain ⟨hflow, hhistory⟩ := h.dead hdying
    obtain ⟨hflow', hhistory'⟩ := h'.dead (h.dying hdying)
    exact ⟨hflow'.trans hflow, hhistory'.trans hhistory⟩

theorem awardPoints (h : s.Follows t) (value : Int) :
    s.Follows (t.awardPoints value) := by
  obtain ⟨hflow, hplayer, hhistory, _⟩ := Books.awardPoints_frame t value
  refine h.trans ⟨.inl hflow, ?_, fun _ => ⟨hflow, hhistory⟩⟩
  rw [hplayer]
  exact id

theorem hitPlayer (h : s.Follows t) : s.Follows t.hitPlayer := by
  refine h.trans ?_
  unfold Scene.hitPlayer
  split
  · exact refl t
  split
  · exact refl t
  case isFalse hhurt =>
    have hlive : ¬t.player.isDying = true := fun hdying => hhurt (.inl hdying)
    exact ⟨.inr rfl, fun hdying => absurd hdying hlive,
      fun hdying => absurd hdying hlive⟩

theorem worldInvariant (s : Scene) : WorldInvariant s.Follows where
  awardPoints := fun h value => h.awardPoints value
  hitPlayer := fun h => h.hitPlayer
  refillGrenades := fun h => { h with }
  refillAmmo := fun h => { h with }
  shots := fun h _ _ _ _ => { h with }

theorem of_meetWorld (s : Scene) (around : Surroundings) :
    s.Follows (s.meetWorld around) :=
  (worldInvariant s).meetWorld (refl s) around

end Follows

/-- Leaving a zone ends no game. -/
theorem checkScreenExit_notOver {s : Scene} (hover : s.flowState ≠ .gameOver)
    (levels : Text → Level) (later : InputSnapshot) :
    (s.checkScreenExit levels later).flowState ≠ .gameOver := by
  unfold Scene.checkScreenExit
  split
  case isFalse => exact hover
  case isTrue =>
    simp only
    split <;> nofun

theorem updateWorld_notOver {s : Scene} (hover : s.flowState ≠ .gameOver)
    (levels : Text → Level) (i : StepInput) :
    (s.updateWorld levels i).flowState ≠ .gameOver := by
  have hmet : (s.meetWorld i.around).flowState ≠ .gameOver := by
    rcases (Follows.of_meetWorld s i.around).flow with hflow | hdead
    · rw [hflow]
      exact hover
    · rw [hdead]
      nofun
  unfold updateWorld
  simp only
  split
  · exact hmet
  · exact checkScreenExit_notOver hmet levels i.laterInput

-- ========================================================== the dead, calm

section Dead

variable {s t : Scene} {a : Surroundings}

theorem hitPlayer_dead (hdying : s.player.isDying = true) :
    s.hitPlayer = s := by
  unfold hitPlayer
  split
  · rfl
  · rw [if_pos (Or.inl hdying)]

theorem awardPoints_worthless {value : Int} (hvalue : s.Worthless value)
    (hhigh : s.gameState.points ≤ s.gameState.highScore) :
    s.awardPoints value = s := by
  unfold awardPoints
  split
  case isFalse => rfl
  case isTrue hpos =>
    have hfull : s.gameState.points = 999999 := by
      rcases hvalue with hle | hfull
      · omega
      · exact hfull
    have hcap : min 999999 (s.gameState.points + value)
        = s.gameState.points := by omega
    simp only [hcap]
    rw [if_neg (by omega)]

theorem updateBullets_worthless
    (hbullets : ∀ n < s.bullets, s.Worthless (a.bullet n).points)
    (hhigh : s.gameState.points ≤ s.gameState.highScore) :
    ∃ bullets, s.updateBullets a = { s with bullets := bullets } := by
  have hfold (fates : List BulletFate)
      (hfates : ∀ fate ∈ fates, s.Worthless fate.points) :
      fates.foldl updateBullet s = s := by
    induction fates with
    | nil => rfl
    | cons fate rest ih =>
        rw [List.foldl_cons, updateBullet,
          awardPoints_worthless (hfates fate List.mem_cons_self) hhigh]
        exact ih fun f hf => hfates f (List.mem_cons_of_mem _ hf)
  unfold updateBullets
  simp only
  rw [hfold]
  · exact ⟨_, rfl⟩
  · intro fate hfate
    obtain ⟨n, hn, rfl⟩ := List.mem_map.mp hfate
    exact hbullets n (List.mem_range.mp hn)

theorem updateGrenades_worthless
    (hgrenades : ∀ n < s.grenades, s.Worthless (a.grenade n).points)
    (hhigh : s.gameState.points ≤ s.gameState.highScore) :
    ∃ grenades, s.updateGrenades a = { s with grenades := grenades } := by
  have hfold (fates : List GrenadeFate)
      (hfates : ∀ fate ∈ fates, s.Worthless fate.points) :
      fates.foldl updateGrenade s = s := by
    induction fates with
    | nil => rfl
    | cons fate rest ih =>
        rw [List.foldl_cons, updateGrenade,
          awardPoints_worthless (hfates fate List.mem_cons_self) hhigh]
        exact ih fun f hf => hfates f (List.mem_cons_of_mem _ hf)
  unfold updateGrenades
  simp only
  rw [hfold]
  · exact ⟨_, rfl⟩
  · intro fate hfate
    obtain ⟨n, hn, rfl⟩ := List.mem_map.mp hfate
    exact hgrenades n (List.mem_range.mp hn)

theorem updateEnemyBullets_dead (hdying : s.player.isDying = true) :
    ∃ shots, s.updateEnemyBullets a = { s with enemyBullets := shots } := by
  have hfold (fates : List EnemyBulletFate) : ∀ kept,
      (fates.foldl updateEnemyBullet (s, kept)).1 = s := by
    induction fates with
    | nil => exact fun _ => rfl
    | cons fate rest ih =>
        intro kept
        cases fate with
        | flies => exact ih (kept + 1)
        | gone => exact ih kept
        | meetsPlayer =>
            have hspared : updateEnemyBullet (s, kept) .meetsPlayer
                = (s, kept + 1) :=
              if_neg fun hvulnerable => hvulnerable.2 hdying
            rw [List.foldl_cons, hspared]
            exact ih (kept + 1)
  unfold updateEnemyBullets
  simp only
  rw [hfold]
  exact ⟨_, rfl⟩

theorem updatePickups_full
    (hgrenades : a.grenadePacks = 0
      ∨ s.gameState.grenades = GameState.startingGrenades)
    (hammo : a.ammoPacks = 0
      ∨ s.gameState.ammo = GameState.startingAmmo) :
    s.updatePickups a = s := by
  have hkept : s.collectGrenades a.grenadePacks = s := by
    unfold collectGrenades
    split
    case isFalse => rfl
    case isTrue hpacks =>
      rcases hgrenades with hnone | hfull
      · omega
      · rw [← hfull]
  unfold updatePickups
  rw [hkept]
  unfold collectAmmo
  split
  case isFalse => rfl
  case isTrue hpacks =>
    rcases hammo with hnone | hfull
    · omega
    · rw [← hfull]

theorem collectDoubleLauncherBonus_worthless
    (hlauncher : s.Worthless (a.launcherBonus.getD 0))
    (hhigh : s.gameState.points ≤ s.gameState.highScore) :
    s.collectDoubleLauncherBonus a = s := by
  unfold collectDoubleLauncherBonus
  cases hbonus : a.launcherBonus with
  | none => rfl
  | some points =>
      rw [hbonus] at hlauncher
      exact awardPoints_worthless hlauncher hhigh

/-- Nothing strikes the dead; what they touch still pays. -/
theorem meetHazards_dead (hdying : s.player.isDying = true) :
    s.meetHazards a = s.touchCreature a := by
  have hspared : s.vulnerable = false := by
    simp [vulnerable, hdying]
  have hmines (mines : List Bool) : s.updateMines mines = (s, false) := by
    induction mines with
    | nil => rfl
    | cons triggered rest ih => simp [updateMines, hspared, ih]
  have hpistons (pistons : List Bool) :
      s.updatePistons pistons = (s, false) := by
    induction pistons with
    | nil => rfl
    | cons meets rest ih => simp [updatePistons, hspared, ih]
  simp [meetHazards, hmines, hpistons, hspared]

theorem touchCreature_worthless (hdying : s.player.isDying = true)
    (hcreature : s.Worthless (a.bubble.getD (a.egg.getD 0)))
    (hhigh : s.gameState.points ≤ s.gameState.highScore) :
    s.touchCreature a = s := by
  unfold touchCreature
  cases hbubble : a.bubble with
  | some points =>
      rw [hbubble, Option.getD_some] at hcreature
      show (s.awardPoints points).hitPlayer = s
      rw [awardPoints_worthless hcreature hhigh, hitPlayer_dead hdying]
  | none =>
      cases hegg : a.egg with
      | none => rfl
      | some points =>
          rw [hbubble, hegg, Option.getD_none,
            Option.getD_some] at hcreature
          show (s.awardPoints points).hitPlayer = s
          rw [awardPoints_worthless hcreature hhigh, hitPlayer_dead hdying]

theorem updateLethalEntities_worthless (hdying : s.player.isDying = true)
    (hcreature : s.Worthless (creaturePoints a))
    (hhigh : s.gameState.points ≤ s.gameState.highScore) :
    s.updateLethalEntities a = s := by
  have hmissile : s.meetMissile a = s := by
    unfold meetMissile
    rw [hitPlayer_dead hdying, ite_self]
  unfold updateLethalEntities
  simp only [hmissile]
  split
  case isTrue => rfl
  case isFalse hnone =>
    rw [hdying, Bool.and_true] at hnone
    rw [creaturePoints, if_neg hnone] at hcreature
    rw [meetHazards_dead hdying]
    exact touchCreature_worthless hdying hcreature hhigh

/-- With nothing left, what is still processed leaves the game state. -/
theorem meetWorld_gameState (hdying : s.player.isDying = true)
    (hhigh : s.gameState.points ≤ s.gameState.highScore)
    (hleft : s.NothingLeft a) :
    (s.meetWorld a).gameState = s.gameState := by
  have hrest (t : Scene) (hgame : t.gameState = s.gameState)
      (hplayer : t.player = s.player) :
      (((t.updatePickups a).collectDoubleLauncherBonus
        a).updateLethalEntities a).gameState = s.gameState := by
    have hhigh' : t.gameState.points ≤ t.gameState.highScore := by
      rw [hgame]
      exact hhigh
    have hworth {value : Int} (h : s.Worthless value) :
        t.Worthless value := by
      rw [Worthless, hgame]
      exact h
    rw [updatePickups_full, collectDoubleLauncherBonus_worthless
      (hworth hleft.launcher) hhigh', updateLethalEntities_worthless _
      (hworth hleft.creature) hhigh', hgame]
    · rw [hplayer]
      exact hdying
    · rw [hgame]
      exact hleft.grenadePacks
    · rw [hgame]
      exact hleft.ammoPacks
  obtain ⟨bullets, hbullets⟩ :=
    updateBullets_worthless (a := a) hleft.bullets hhigh
  obtain ⟨grenades, hgrenades⟩ := updateGrenades_worthless
    (s := { s with bullets := bullets }) (a := a) hleft.grenades
    hhigh
  obtain ⟨shots, hshots⟩ := updateEnemyBullets_dead (a := a)
    (s := { s with
      bullets := bullets
      grenades := grenades
      enemyBullets := s.enemyBullets + a.newShots }) hdying
  unfold meetWorld
  simp only [hbullets, hgrenades, hshots]
  exact hrest _ rfl rfl

end Dead

-- ================================================= the step that ends it

/-- While the game is over, the state shown is the one reported. -/
def Reported (s : Scene) : Prop :=
  s.flowState = .gameOver → ∃ earlier, s.history
    = earlier ++ [.gameOver s.gameState, .deathEnded s.gameState.lives]

/-- What precedes the projectiles of a step leaves for the dead. -/
theorem updateMotion_frame (s : Scene) (dt : Rat) (i : StepInput) :
    (s.updateMotion dt i).gameState = s.gameState
      ∧ (s.updateMotion dt i).deathGroundTimer = s.deathGroundTimer
      ∧ (s.updateMotion dt i).bullets = s.bullets
      ∧ (s.updateMotion dt i).grenades = s.grenades
      ∧ (s.updateMotion dt i).player.isGrounded = i.around.isGrounded
      ∧ ((s.updateMotion dt i).flowState = .playerDead →
        s.flowState = .playerDead) := by
  have hprotected (t : Scene) :
      (t.updateInvulnerability dt).gameState = t.gameState
        ∧ (t.updateInvulnerability dt).deathGroundTimer = t.deathGroundTimer
        ∧ (t.updateInvulnerability dt).bullets = t.bullets
        ∧ (t.updateInvulnerability dt).grenades = t.grenades
        ∧ ((t.updateInvulnerability dt).flowState = .playerDead →
          t.flowState = .playerDead) := by
    unfold updateInvulnerability endRespawn
    split
    · split
      · exact ⟨rfl, rfl, rfl, rfl, nofun⟩
      · exact ⟨rfl, rfl, rfl, rfl, id⟩
    · exact ⟨rfl, rfl, rfl, rfl, id⟩
  have hcontext (t : Scene) (input : InputSnapshot) (a : Surroundings) :
      (t.updateContext input a).gameState = t.gameState
        ∧ (t.updateContext input a).deathGroundTimer = t.deathGroundTimer
        ∧ (t.updateContext input a).bullets = t.bullets
        ∧ (t.updateContext input a).grenades = t.grenades
        ∧ (t.updateContext input a).flowState = t.flowState := by
    unfold updateContext
    simp only
    split <;> exact ⟨rfl, rfl, rfl, rfl, rfl⟩
  obtain ⟨hgame, htimer, hbullets, hgrenades, hflow⟩ := hprotected s
  unfold updateMotion updatePlayer
  simp only
  obtain ⟨hgame', htimer', hbullets', hgrenades', hflow'⟩ := hcontext
    { s.updateInvulnerability dt with
      showHitboxes := if i.rawInput.debugHitboxes
          && !(s.updateInvulnerability dt).debugWasPressed
        then !(s.updateInvulnerability dt).showHitboxes
        else (s.updateInvulnerability dt).showHitboxes
      debugWasPressed := i.rawInput.debugHitboxes } i.rawInput i.around
  refine ⟨hgame'.trans hgame, htimer'.trans htimer, hbullets'.trans hbullets,
    hgrenades'.trans hgrenades, trivial, ?_⟩
  rw [hflow']
  exact hflow

/-- Only a settled last death ends the game in a step of play. -/
theorem updateBody_over {s : Scene} (h : s.Books)
    (hover : s.flowState ≠ .gameOver) {dt : Rat} {i : StepInput}
    (hend : (s.updateBody dt i).flowState = .gameOver) :
    s.flowState = .playerDead ∧ s.player.isGrounded = true
      ∧ s.gameState.lives = 1
      ∧ s.deathGroundTimer + dt ≥ GameConstants.deathSettleDelay
      ∧ s.updateBody dt i = { s with
        fireWasPressed := i.rawInput.fire
        grenadeWasPressed := i.rawInput.grenade }.settleDeath
          i.laterInput := by
  have hweapons (t : Scene) (input : InputSnapshot) :
      (t.updateWeapons input).flowState = t.flowState := by
    have hfire : (t.fireBlaster input).flowState = t.flowState := by
      unfold fireBlaster
      split <;> rfl
    have hthrow (u : Scene) : (u.throwGrenade input).flowState
        = u.flowState := by
      unfold throwGrenade
      split <;> rfl
    exact (hthrow _).trans hfire
  unfold updateBody updateDeathSequence at hend ⊢
  split at hend
  case isFalse =>
    rw [hweapons] at hend
    exact absurd hend hover
  case isTrue hdying =>
    have hdead : s.flowState = .playerDead := by
      rcases h.dying.mp hdying with hdead | hgone
      · exact hdead
      · exact absurd hgone hover
    simp only [hdying, if_true] at hend ⊢
    split at hend
    case isFalse => exact absurd hend hover
    case isTrue hgrounded =>
      split at hend
      case isFalse => exact absurd hend hover
      case isTrue hsettled =>
        rw [if_pos hgrounded, if_pos hsettled]
        refine ⟨hdead, hgrounded, ?_, hsettled, rfl⟩
        by_contra hlives
        have halive := h.alive hover
        rw [settleDeath_more (by show 1 < s.gameState.lives; omega)] at hend
        exact absurd hend nofun

/-- What is processed after the end, with nothing left. -/
theorem updateWorld_reported {s : Scene} (h : s.Books)
    (hover : s.flowState = .gameOver) {i : StepInput}
    (hleft : s.NothingLeft i.around) (hreported : s.Reported)
    (levels : Text → Level) : (s.updateWorld levels i).Reported := by
  have hdying := h.dying.mpr (.inr hover)
  have hfollows := Follows.of_meetWorld s i.around
  obtain ⟨_, hhistory⟩ := hfollows.dead hdying
  have hgame := meetWorld_gameState hdying h.high hleft
  have heq : s.updateWorld levels i = s.meetWorld i.around := by
    unfold updateWorld
    exact if_pos (hfollows.dying hdying)
  intro _
  rw [heq, hhistory, hgame]
  exact hreported hover

/-- The scene the end of the game leaves to the rest of its step. -/
theorem settleDeath_reported {s : Scene} (hhigh : s.gameState.points
    ≤ s.gameState.highScore) (hlast : s.gameState.lives = 1)
    (later : InputSnapshot) : (s.settleDeath later).Reported := by
  intro _
  rw [settleDeath_last hhigh hlast]
  exact ⟨s.history ++ [.lifeLost s.gameState.lives 0], by simp⟩

/-- A calm step of play reports what it shows. -/
theorem updatePlay_reported {s : Scene} (h : s.Books)
    (hover : s.flowState ≠ .gameOver) (levels : Text → Level)
    {i : StepInput} (hpause : i.pausePress = false) (hcalm : s.Calm i) :
    (s.updatePlay levels GameConstants.fixedTimeStep i).Reported := by
  have hmoved := h.updateMotion GameConstants.fixedTimeStep i
  have hover' := Books.updateMotion_notOver hover
    GameConstants.fixedTimeStep i
  have hbody := hmoved.updateBody hover' GameConstants.fixedTimeStep i
  obtain ⟨hgame, htimer, hbullets, hgrenades, hgrounded, hflow⟩ :=
    updateMotion_frame s GameConstants.fixedTimeStep i
  unfold updatePlay
  generalize s.updateMotion GameConstants.fixedTimeStep i = moved at *
  by_cases hend : (moved.updateBody GameConstants.fixedTimeStep i).flowState
      = .gameOver
  · obtain ⟨hdead, hstands, hlast, hsettled, heq⟩ :=
      updateBody_over hmoved hover' hend
    have hleft := hcalm ⟨hpause, hflow hdead, hgrounded ▸ hstands,
      hgame ▸ hlast, htimer ▸ hsettled⟩
    have hreported := settleDeath_reported (s := { moved with
      fireWasPressed := i.rawInput.fire
      grenadeWasPressed := i.rawInput.grenade }) hmoved.high hlast
        i.laterInput
    refine updateWorld_reported hbody hend ?_ (heq ▸ hreported) levels
    rw [heq, settleDeath_last (by exact hmoved.high) (by exact hlast)]
    have hpoints : moved.gameState.points = s.gameState.points := by
      rw [hgame]
    have hammo : moved.gameState.ammo = s.gameState.ammo := by rw [hgame]
    have hcount : moved.gameState.grenades = s.gameState.grenades := by
      rw [hgame]
    exact hleft.of_eq hpoints hammo hcount hbullets hgrenades
  · intro hgameOver
    exact absurd hgameOver (updateWorld_notOver hend levels i)

/-- A pause press ends no game. -/
theorem consumePausePress_reported {s : Scene} (h : s.Books)
    (hreported : s.Reported) (input : InputSnapshot) :
    (s.consumePausePress input).Reported := by
  unfold consumePausePress
  split
  case isTrue hplay =>
    intro hend
    unfold enterPause at hend
    rw [if_pos hplay] at hend
    exact absurd hend nofun
  case isFalse =>
    split
    case isFalse => exact hreported
    case isTrue hpaused =>
      intro hend
      unfold leavePause at hend
      rw [if_pos hpaused] at hend
      have hback : s.stateBeforePause = .gameOver := hend
      rcases h.resumes hpaused with hflow | hflow
      · rw [hflow] at hback
        exact absurd hback nofun
      · rw [hflow] at hback
        exact absurd hback nofun

/-- A menu ends no game. -/
theorem menu_reported {s : Scene} (hreported : s.Reported)
    (levels : Text → Level) (input : InputSnapshot) :
    (s.flowState = .title → (s.updateTitle input).Reported)
      ∧ (s.flowState = .paused → (s.updatePaused levels input).Reported)
      ∧ (s.flowState = .gameOver →
        (s.updateGameOver levels input).Reported)
      ∧ (s.flowState = .contentComplete →
        (s.updateContentComplete input).Reported) := by
  refine ⟨?_, ?_, ?_, ?_⟩
  · intro htitle
    unfold updateTitle
    simp only
    split
    · intro hend
      unfold beginFromTitle ensureCheckpoint at hend
      split at hend <;> exact absurd hend nofun
    · exact hreported
  · intro hpaused
    unfold updatePaused confirmPauseLine
    simp only
    split
    · split
      · exact fun hend => absurd hend nofun
      · exact hreported
    · exact hreported
  · intro _
    unfold updateGameOver
    simp only
    split
    · exact fun hend => absurd hend nofun
    · exact hreported
  · intro _
    unfold updateContentComplete
    simp only
    split
    · exact fun hend => absurd hend nofun
    · exact hreported

theorem step_reported {levels : Text → Level} {s t : Scene} {i : StepInput}
    (h : s.Books) (hreported : s.Reported) (hcalm : s.Calm i)
    (hstep : step levels s i = some t) : t.Reported := by
  obtain rfl := Option.some.inj hstep
  have hcounted : ({ s with stepCount := s.stepCount + 1 } : Scene).Books :=
    { h with }
  have hcalm' : ({ s with stepCount := s.stepCount + 1 } : Scene).Calm i :=
    fun hsettles => (hcalm hsettles).of_eq rfl rfl rfl rfl rfl
  have hreported' :
      ({ s with stepCount := s.stepCount + 1 } : Scene).Reported := hreported
  generalize ({ s with stepCount := s.stepCount + 1 } : Scene) = u at *
  obtain ⟨htitle, hpaused, hover, hcomplete⟩ :=
    menu_reported hreported' levels i.rawInput
  unfold fixedUpdate
  split
  case isTrue =>
    exact consumePausePress_reported hcounted hreported' i.rawInput
  case isFalse hpause =>
    rw [Bool.not_eq_true] at hpause
    have hplay (hflow : u.flowState ≠ .gameOver) :=
      updatePlay_reported hcounted hflow levels hpause hcalm'
    split
    case h_1 hflow => exact htitle hflow
    case h_2 hflow => exact hpaused hflow
    case h_3 hflow => exact hover hflow
    case h_4 hflow => exact hcomplete hflow
    case h_5 hflow => exact hplay (by rw [hflow]; nofun)
    case h_6 hflow => exact hplay (by rw [hflow]; nofun)
    case h_7 hflow => exact hplay (by rw [hflow]; nofun)

-- =================================================================== runs

/-- The state the last end of a game reported. -/
def lastGameOver (s : Scene) : Option GameState :=
  s.history.reverse.findSome? fun
    | .gameOver final => some final
    | _ => none

/-- In a run of calm steps, all that is shown while the game is over is
what was reported when it ended: score, lives, ammunition, grenades, zone
and high score. -/
theorem gameOver_frozen {levels : Text → Level}
    {persistence : GamePersistence} {warp : Option Text}
    {later : InputSnapshot} {inputs : List StepInput} {s : Scene}
    (hcalm : Run.Along (step levels) Calm
      (didMove levels persistence warp later) inputs)
    (h : Reaches levels persistence warp later inputs s)
    (hover : s.flowState = .gameOver) :
    s.lastGameOver = some s.gameState := by
  have hstart : (didMove levels persistence warp later).flowState
      ≠ .gameOver := by
    cases warp with
    | none => nofun
    | some target =>
        rw [Books.didMove_warp]
        split <;> nofun
  have hend : s.Books ∧ s.Reported := by
    refine Run.run_invariant_along (P := Calm) (I := fun s =>
      s.Books ∧ s.Reported) ?_ ⟨Books.didMove levels persistence warp later,
        fun hgone => absurd hgone hstart⟩ hcalm h
    intro s t i hkept hcalm hstep
    exact ⟨hkept.1.step hstep, step_reported hkept.1 hkept.2 hcalm hstep⟩
  obtain ⟨earlier, hhistory⟩ := hend.2 hover
  simp [lastGameOver, hhistory]

/-- A player that stands in a hazard for a step. -/
def struck : StepInput where
  around := { x := 16, isGrounded := true, inSourceHazard := true }

/-- The start of a game, and a hazard until all lives are lost. -/
def nineDeaths : List StepInput :=
  { struck with rawInput := { fire := true } } :: List.replicate 823 struck

/-- One game of nine deaths in a hazard. -/
theorem gameOver_frozen_nineDeaths : ∃ s,
    Reaches (fun _ => ⟨[], 16⟩) ⟨none, 0⟩ none {} nineDeaths s
    ∧ s.lastGameOver = some s.gameState := by
  have hend : (Run.run (step fun _ => ⟨[], 16⟩)
      (didMove (fun _ => ⟨[], 16⟩) ⟨none, 0⟩ none {}) nineDeaths).map
        flowState = some .gameOver := by decide +kernel
  obtain ⟨s, hrun, hover⟩ := Option.map_eq_some_iff.mp hend
  refine ⟨s, hrun, gameOver_frozen ?_ hrun hover⟩
  apply Run.along_of_forall
  intro i hi s _
  have hquiet : i.around = struck.around := by
    rcases List.mem_cons.mp hi with rfl | hi
    · rfl
    · rw [List.eq_of_mem_replicate hi]
  rw [hquiet]
  exact {
    bullets := fun _ _ => .inl (le_refl 0)
    grenades := fun _ _ => .inl (le_refl 0)
    grenadePacks := .inl rfl
    ammoPacks := .inl rfl
    launcher := .inl (le_refl 0)
    creature := .inl (le_refl 0) }

/-- The same game, with a bubble touched in the step that ends it: the
score shown is not the one reported. -/
theorem gameOver_thaws : ∃ s final,
    Reaches (fun _ => ⟨[], 16⟩) ⟨none, 0⟩ none {} (nineDeaths.dropLast
      ++ [{ around := { struck.around with bubble := some 300 } }]) s
    ∧ s.flowState = .gameOver ∧ s.lastGameOver = some final
    ∧ final.points = 0 ∧ s.gameState.points = 300 := by
  have hend : (Run.run (step fun _ => ⟨[], 16⟩)
      (didMove (fun _ => ⟨[], 16⟩) ⟨none, 0⟩ none {})
      (nineDeaths.dropLast
        ++ [{ around := { struck.around with bubble := some 300 } }])).map
      (fun s => (s.flowState, s.lastGameOver, s.gameState.points))
      = some (.gameOver, some ⟨99, 10, 0, 0, 0, 0⟩, 300) := by
    decide +kernel
  obtain ⟨s, hrun, hvalues⟩ := Option.map_eq_some_iff.mp hend
  obtain ⟨hover, hvalues⟩ := Prod.mk.inj hvalues
  obtain ⟨hlast, hpoints⟩ := Prod.mk.inj hvalues
  exact ⟨s, _, hrun, hover, hlast, rfl, hpoints⟩

end Scene

end Exolon

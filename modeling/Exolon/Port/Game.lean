/-
The HTML5 port: its tick, its key handler and its four sets of books.

Lives, score and stage live in `GameState`, the lives a death takes in
`PlayerState`, projectiles in `Weapons`, and nobody remembers which stage
award was paid: the boundary is asked again in every tick.

# Awaiting a level

A handler that awaits a level is cut in two. `Resume` is what is left of
it, and `loaded` takes it up in any later step, with ticks and keys in
between. A level itself is a zone number: nothing here reads its tiles.

# The surroundings

What the physics of the player, the projectiles and the enemies answer in
a tick is arbitrary (`Around`).
-/
import Exolon.Lib.Run

namespace Exolon.Port

-- ================================================================== state

inductive GameFlowState where
  | title | playing | paused | dying | stageBonus | gameOver | stageComplete
  deriving DecidableEq, Repr

/-- Flow, score and lives as the HUD shows them. -/
structure GameState where
  flow : GameFlowState := .title
  score : Int := 0
  lives : Int := 9
  stage : Int := 0
  zoneInStage : Int := 0

namespace GameState

def addScore (g : GameState) (points : Int) : GameState :=
  { g with score := g.score + points }

def gainLife (g : GameState) : GameState :=
  if g.lives < 9 then { g with lives := g.lives + 1 } else g

def nextStage (g : GameState) : GameState :=
  { g with stage := if g.stage + 1 > 4 then 0 else g.stage + 1 }

def nextZone (g : GameState) : GameState :=
  if g.zoneInStage + 1 > 24 then { g with zoneInStage := 0 }.nextStage
  else { g with zoneInStage := g.zoneInStage + 1 }

def resetStage (g : GameState) : GameState :=
  { g with
    stage := 0
    zoneInStage := 0
    lives := 9
    score := 0
    flow := .playing }

def setFlow (g : GameState) (newFlow : GameFlowState) : GameState :=
  { g with flow := newFlow }

end GameState

/-- The player, less its place. -/
structure PlayerState where
  lives : Int := 9
  blasterAmmo : Int := 99
  grenades : Int := 10
  hasExoskeleton : Bool := false
  doubleShot : Bool := false
  invincible : Bool := false
  invincibleTimer : Rat := 0
  alive : Bool := true

namespace PlayerState

/-- The clock of the invincibility. -/
def updatePlayer (p : PlayerState) (dtMs : Rat) : PlayerState :=
  if p.alive && p.invincible then
    { p with
      invincibleTimer := p.invincibleTimer - dtMs
      invincible := !decide (p.invincibleTimer - dtMs ≤ 0) }
  else p

def killPlayer (p : PlayerState) : PlayerState :=
  if p.invincible then p
  else { p with
    alive := false
    lives := p.lives - 1
    blasterAmmo := 99
    grenades := 10 }

def respawnPlayer (p : PlayerState) : PlayerState :=
  { p with alive := true, invincible := true, invincibleTimer := 3000 }

end PlayerState

inductive WeaponType where
  | blaster | grenade
  deriving DecidableEq, Repr

structure Weapons where
  activeProjectiles : List WeaponType := []
  grenadeActive : Bool := false
  grenadeTimer : Rat := 0

/-- What the physics answer in one tick. -/
structure Around where
  firePressed : Bool := false
  grenadePressed : Bool := false
  /-- Which projectiles stay on the screen. -/
  stays : Nat → Bool := fun _ => true
  /-- The enemies there are after their update. -/
  enemies : Nat := 0
  inBonusRegion : Bool := false

namespace Weapons

/-- Projectiles that stay, by their places in the list from `n` on. -/
def stayed (around : Around) : Nat → List WeaponType → List WeaponType
  | _, [] => []
  | n, p :: rest =>
      if around.stays n then p :: stayed around (n + 1) rest
      else stayed around (n + 1) rest

/-- A grenade leaves the screen. -/
def grenadeLost (around : Around) : Nat → List WeaponType → Bool
  | _, [] => false
  | n, p :: rest =>
      (p = .grenade && !around.stays n) || grenadeLost around (n + 1) rest

def update (w : Weapons) (dtMs : Rat) (around : Around) : Weapons where
  activeProjectiles := stayed around 0 w.activeProjectiles
  grenadeTimer :=
    if w.grenadeActive then w.grenadeTimer + dtMs else w.grenadeTimer
  grenadeActive :=
    w.grenadeActive && !decide (w.grenadeTimer + dtMs > 3000)
      && !grenadeLost around 0 w.activeProjectiles

end Weapons

/-- What is left of a handler that awaits a level. -/
inductive Resume where
  | onTick (dtMs : Rat) (around : Around)
  | nextZone
  | restart

/-- What a run is asked about. -/
inductive Moment where
  | bonus (zone points : Int)
  | restart
  deriving DecidableEq, Repr

/-- The composed game. -/
structure Game where
  gameState : GameState := {}
  player : PlayerState := {}
  weapons : Weapons := {}
  enemies : Nat := 0
  bonusAwarded : Bool := false
  highScore : Int
  /-- The level manager's zone, and the level the game plays. -/
  currentZone : Int := 0
  currentLevel : Option Int := some 0
  /-- Handlers that await a level, each with the level it will get. -/
  pending : List (Resume × Option Int) := []
  history : List Moment := []

-- ========================================================= stage boundary

/-- Zones that end a stage. -/
def isStageEnd (zoneNumber : Int) : Bool :=
  zoneNumber = 24 || zoneNumber = 49 || zoneNumber = 74
    || zoneNumber = 99 || zoneNumber = 124

structure StageBoundaryResult where
  bonusPoints : Int
  braveryPoints : Int
  timedPoints : Int
  lifeAwarded : Bool
  flowAfter : GameFlowState

/-- The stand-in for the original's timed bonus. -/
def timedOptions : List Int := [0, 1000, 3000, 5000, 7000]

def calculateBonus (lives : Int) (hasExoskeleton : Bool) (stage : Int) :
    StageBoundaryResult where
  bonusPoints := lives * 1000
  braveryPoints := if hasExoskeleton then 0 else 10000
  timedPoints := timedOptions.getD (stage % 5).toNat 0
  lifeAwarded := true
  flowAfter := .stageBonus

def triggerBonus (zoneNumber lives : Int) (hasExoskeleton : Bool)
    (stage : Int) : StageBoundaryResult :=
  if isStageEnd zoneNumber then calculateBonus lives hasExoskeleton stage
  else ⟨0, 0, 0, false, .playing⟩

namespace Game

/-- The level manager takes a zone, and answers its level. -/
def loadZone (s : Game) (zoneNumber : Int) : Game × Option Int :=
  if zoneNumber < 0 ∨ zoneNumber ≥ 125 then (s, none)
  else ({ s with currentZone := zoneNumber }, some zoneNumber)

/-- Await a zone's level. -/
def await (s : Game) (zoneNumber : Int) (resume : Resume) : Game :=
  let loading := s.loadZone zoneNumber
  { loading.1 with
    pending := loading.1.pending ++ [(resume, loading.2)] }

-- ================================================================= a tick

/-- The player's blaster, with the ammunition tested twice. -/
def fireBlaster (s : Game) (around : Around) : Game :=
  if around.firePressed && decide (s.player.blasterAmmo > 0)
      && s.player.alive then
    { s with
      player := { s.player with blasterAmmo := s.player.blasterAmmo - 1 }
      weapons := { s.weapons with
        activeProjectiles := s.weapons.activeProjectiles
          ++ if s.player.doubleShot then [.blaster, .blaster]
            else [.blaster] } }
  else s

def fireGrenade (s : Game) (around : Around) : Game :=
  if around.grenadePressed && decide (s.player.grenades > 0)
      && s.player.alive then
    { s with
      player := { s.player with grenades := s.player.grenades - 1 }
      weapons := { s.weapons with
        activeProjectiles := s.weapons.activeProjectiles ++ [.grenade] } }
  else s

/-- The launcher's bonus is marked; its points go nowhere. -/
def checkBonus (s : Game) (around : Around) : Game :=
  { s with bonusAwarded := s.bonusAwarded || around.inBonusRegion }

/-- The stage end, asked in every tick. -/
def checkStageEnd (s : Game) : Game :=
  if isStageEnd s.currentZone then
    let bonus := triggerBonus s.currentZone s.player.lives
      s.player.hasExoskeleton s.gameState.stage
    if bonus.lifeAwarded then
      let points := bonus.bonusPoints + bonus.braveryPoints
        + bonus.timedPoints
      { s with
        gameState := (s.gameState.addScore points).gainLife
        history := s.history ++ [.bonus s.currentZone points] }
    else s
  else s

def saveHighScore (s : Game) (score : Int) : Game :=
  { s with highScore := max s.highScore score }

/-- The player's last life ends the game. -/
def settleGameOver (s : Game) : Game :=
  if s.player.lives ≤ 0 then
    { s with gameState := s.gameState.setFlow .gameOver }.saveHighScore
      s.gameState.score
  else s

/-- Death refills, clears the zone and respawns in the same tick. -/
def settleDeath (s : Game) : Game :=
  if !s.player.alive then
    { s with
      player := { s.player with
        blasterAmmo := 99
        grenades := 10 }.respawnPlayer
      weapons := {}
      enemies := 0
      bonusAwarded := false }.settleGameOver
  else s

def recordHighScore (s : Game) : Game :=
  if s.gameState.score > s.highScore then s.saveHighScore s.gameState.score
  else s

/-- A tick with a level. -/
def playTick (s : Game) (dtMs : Rat) (around : Around) : Game :=
  let s := { s with player := s.player.updatePlayer dtMs }
  let s := (s.fireBlaster around).fireGrenade around
  let s := { s with
    weapons := s.weapons.update dtMs around
    enemies := around.enemies }
  (s.checkBonus around).checkStageEnd.settleDeath.recordHighScore

def onTick (s : Game) (dtMs : Rat) (around : Around) : Game :=
  if s.gameState.flow = .playing then
    match s.currentLevel with
    | some _ => s.playTick dtMs around
    | none => s.await 0 (.onTick dtMs around)
  else s

-- =================================================================== keys

inductive Code where
  | escape | space | keyR | other
  deriving DecidableEq, Repr

/-- R on the game over screen. -/
def restart (s : Game) : Game :=
  let s := { s with
    gameState := s.gameState.resetStage
    history := s.history ++ [Moment.restart] }
  s.await 0 .restart

/-- A key, up to the level its handler awaits. -/
def keydown (s : Game) (code : Code) : Game :=
  match code, s.gameState.flow with
  | .escape, .playing => { s with gameState := s.gameState.setFlow .paused }
  | .escape, .paused => { s with gameState := s.gameState.setFlow .playing }
  | .space, .title => { s with gameState := s.gameState.setFlow .playing }
  | .space, .stageBonus =>
      { s with gameState := s.gameState.nextZone }.await
        (s.gameState.nextZone.zoneInStage + s.gameState.nextZone.stage * 25)
        .nextZone
  | .keyR, .gameOver => s.restart
  | _, _ => s

/-- The rest of a handler, with the level it awaited. -/
def resume (s : Game) (rest : Resume) (level : Option Int) : Game :=
  let s := { s with currentLevel := level }
  match rest with
  | .onTick dtMs around =>
      if level.isSome then s.playTick dtMs around else s
  | .nextZone => { s with gameState := s.gameState.setFlow .playing }
  | .restart => { s with player := s.player.respawnPlayer }

-- =================================================================== runs

/-- What can happen to the game. -/
inductive Action where
  | tick (dtMs : Rat) (around : Around)
  | key (code : Code)
  | loaded (n : Nat)
  | kill

/-- One action; a level can only arrive that is awaited. -/
def step (s : Game) : Action → Option Game
  | .tick dtMs around => some (s.onTick dtMs around)
  | .key code => some (s.keydown code)
  | .loaded n =>
      s.pending[n]?.map fun waiting =>
        { s with pending := s.pending.eraseIdx n }.resume waiting.1 waiting.2
  | .kill => some { s with player := s.player.killPlayer }

/-- The game as it is composed, its first level loaded. -/
def start (highScore : Int) : Game where
  highScore := highScore

-- ================================================================== books

/-- The zones whose award was paid since the last restart. -/
def paidZones (history : List Moment) : List Int :=
  history.foldl (fun paid moment =>
    match moment with
    | .bonus zone _ => zone :: paid
    | .restart => []) []

/-- One playthrough, one set of books. -/
structure Books (s : Game) : Prop where
  lives : s.gameState.lives = s.player.lives
  range : 0 ≤ s.player.lives ∧ s.player.lives ≤ 9
  once : (paidZones s.history).Nodup

/-- Nothing of a previous playthrough is left. -/
structure Fresh (s : Game) : Prop where
  lives : s.gameState.lives = 9 ∧ s.player.lives = 9
  score : s.gameState.score = 0
  ammunition : s.player.blasterAmmo = 99 ∧ s.player.grenades = 10
  projectiles : s.weapons.activeProjectiles = []
  enemies : s.enemies = 0
  paid : paidZones s.history = []

/-- What the port promises of a state: the books are one, and a restart
from game over starts from nothing. -/
def Kept (s : Game) : Prop :=
  s.Books ∧ (s.gameState.flow = .gameOver → (s.keydown .keyR).Fresh)

/-- A death finds the player protected. -/
def Spared (s : Game) (a : Action) : Prop :=
  a = .kill → s.player.invincible = true

/-- The game before any death took effect: in its first zone, with all
lives, nothing paid, nothing awaited. -/
structure Untouched (s : Game) : Prop where
  flow : s.gameState.flow = .title ∨ s.gameState.flow = .playing
    ∨ s.gameState.flow = .paused
  lives : s.gameState.lives = 9
  held : s.player.lives = 9
  alive : s.player.alive = true
  zone : s.currentZone = 0
  level : s.currentLevel = some 0
  pending : s.pending = []
  history : s.history = []

namespace Untouched

variable {s : Game}

theorem kept (h : s.Untouched) : s.Kept := by
  refine ⟨⟨h.lives.trans h.held.symm, ?_, ?_⟩, ?_⟩
  · rw [h.held]
    omega
  · rw [h.history]
    exact List.nodup_nil
  · intro hover
    rcases h.flow with hflow | hflow | hflow
    · rw [hflow] at hover
      cases hover
    · rw [hflow] at hover
      cases hover
    · rw [hflow] at hover
      cases hover

theorem fireBlaster (h : s.Untouched) (around : Around) :
    (s.fireBlaster around).Untouched := by
  unfold Game.fireBlaster
  split
  · exact { h with }
  · exact h

theorem fireGrenade (h : s.Untouched) (around : Around) :
    (s.fireGrenade around).Untouched := by
  unfold Game.fireGrenade
  split
  · exact { h with }
  · exact h

/-- The first zone ends no stage. -/
theorem checkStageEnd (h : s.Untouched) : s.checkStageEnd.Untouched := by
  have hzone : isStageEnd s.currentZone = false := by
    rw [h.zone]
    rfl
  unfold Game.checkStageEnd
  rw [if_neg (by rw [hzone]; exact Bool.false_ne_true)]
  exact h

theorem checkBonus (h : s.Untouched) (around : Around) :
    (s.checkBonus around).Untouched := { h with }

theorem settleDeath (h : s.Untouched) : s.settleDeath.Untouched := by
  unfold Game.settleDeath
  rw [if_neg (by simp [h.alive])]
  exact h

theorem recordHighScore (h : s.Untouched) :
    s.recordHighScore.Untouched := by
  unfold Game.recordHighScore
  split
  · exact { h with }
  · exact h

theorem playTick (h : s.Untouched) (dtMs : Rat) (around : Around) :
    (s.playTick dtMs around).Untouched := by
  have hplayer : ({ s with
      player := s.player.updatePlayer dtMs } : Game).Untouched := by
    unfold PlayerState.updatePlayer
    split
    · exact { h with }
    · exact h
  have hfired := (hplayer.fireBlaster around).fireGrenade around
  unfold Game.playTick
  simp only
  generalize (({ s with player := s.player.updatePlayer dtMs } :
    Game).fireBlaster around).fireGrenade around = fired at *
  have hmoved : ({ fired with
      weapons := fired.weapons.update dtMs around
      enemies := around.enemies } : Game).Untouched := { hfired with }
  exact (hmoved.checkBonus around).checkStageEnd.settleDeath.recordHighScore

theorem keydown (h : s.Untouched) (code : Code) :
    (s.keydown code).Untouched := by
  unfold Game.keydown
  split
  · exact { h with flow := .inr (.inr rfl) }
  · exact { h with flow := .inr (.inl rfl) }
  · exact { h with flow := .inr (.inl rfl) }
  case h_4 hflow =>
    rcases h.flow with hf | hf | hf <;> rw [hf] at hflow <;> cases hflow
  case h_5 hflow =>
    rcases h.flow with hf | hf | hf <;> rw [hf] at hflow <;> cases hflow
  · exact h

/-- One step in which no death takes effect. -/
theorem step {t : Game} {a : Action} (h : s.Untouched)
    (hspared : s.Spared a) (hstep : s.step a = some t) : t.Untouched := by
  cases a with
  | tick dtMs around =>
      obtain rfl := Option.some.inj hstep
      unfold Game.onTick
      split
      · rw [h.level]
        exact h.playTick dtMs around
      · exact h
  | key code =>
      obtain rfl := Option.some.inj hstep
      exact h.keydown code
  | loaded n =>
      obtain ⟨waiting, hwaiting, _⟩ := Option.map_eq_some_iff.mp hstep
      rw [h.pending] at hwaiting
      cases hwaiting
  | kill =>
      obtain rfl := Option.some.inj hstep
      unfold PlayerState.killPlayer
      rw [if_pos (hspared rfl)]
      exact h

end Untouched

/-- A death that takes effect takes a life the HUD keeps. -/
theorem spared_of_books {s : Game} {a : Action} (h : s.Books)
    (hnext : ∀ t, s.step a = some t → t.Books) : s.Spared a := by
  rintro rfl
  by_contra hhurt
  have hlives := (hnext _ rfl).lives
  have hbefore := h.lives
  simp only [PlayerState.killPlayer, if_neg hhurt] at hlives
  omega

/-- The port keeps one set of books in exactly the runs in which no death
takes effect: the HUD never hears of one, and no restart gives the lives
back. -/
theorem kept_iff_spared (highScore : Int) (acts : List Action) :
    (∀ s, Run.Visits step (start highScore) acts s → s.Kept)
      ↔ Run.Along step Spared (start highScore) acts := by
  have hstart : (start highScore).Untouched :=
    ⟨.inl rfl, rfl, rfl, rfl, rfl, rfl, rfl, rfl⟩
  refine Run.visits_iff_along (J := Untouched) ?_ Untouched.kept ?_ hstart
  · intro s s' a hs hspared hstep
    exact hs.step hspared hstep
  · intro s a hs hnext
    exact spared_of_books hs.1 fun t hstep => (hnext t hstep).1

/-- One death: eight lives to die with, nine on the HUD. -/
theorem not_kept_firstDeath : ∃ s,
    Run.Visits step (start 0) [.key .space, .kill] s
    ∧ s.gameState.lives = 9 ∧ s.player.lives = 8 ∧ ¬s.Kept := by
  refine ⟨_, ⟨_, List.prefix_refl _, rfl⟩, rfl, rfl, ?_⟩
  intro hkept
  have hlives := hkept.1.lives
  exact absurd hlives (by decide)

/-- What the port misses of the ledger it was ported from: in a zone that
ends a stage, every tick of play pays the award again. -/
theorem onTick_pays_again {s : Game} (hflow : s.gameState.flow = .playing)
    {level : Int} (hlevel : s.currentLevel = some level)
    (hzone : isStageEnd s.currentZone = true) (dtMs : Rat)
    (around : Around) :
    ∃ points, (s.onTick dtMs around).history
      = s.history ++ [.bonus s.currentZone points] := by
  have hfire (t : Game) : (t.fireBlaster around).history = t.history
      ∧ (t.fireBlaster around).currentZone = t.currentZone := by
    unfold fireBlaster
    split <;> exact ⟨rfl, rfl⟩
  have hthrow (t : Game) : (t.fireGrenade around).history = t.history
      ∧ (t.fireGrenade around).currentZone = t.currentZone := by
    unfold fireGrenade
    split <;> exact ⟨rfl, rfl⟩
  have hsettle (t : Game) : t.settleDeath.history = t.history := by
    unfold settleDeath settleGameOver
    split
    · split <;> rfl
    · rfl
  have hrecord (t : Game) : t.recordHighScore.history = t.history := by
    unfold recordHighScore
    split <;> rfl
  have hpays (t : Game) (ht : isStageEnd t.currentZone = true) :
      ∃ points, t.checkStageEnd.history
        = t.history ++ [.bonus t.currentZone points] := by
    unfold checkStageEnd triggerBonus
    rw [if_pos ht, if_pos ht]
    exact ⟨_, rfl⟩
  have hfired (t : Game) :
      ((t.fireBlaster around).fireGrenade around).history = t.history
        ∧ ((t.fireBlaster around).fireGrenade around).currentZone
          = t.currentZone := by
    obtain ⟨hhistory, hkept⟩ := hfire t
    obtain ⟨hhistory', hkept'⟩ := hthrow (t.fireBlaster around)
    exact ⟨hhistory'.trans hhistory, hkept'.trans hkept⟩
  unfold onTick
  rw [if_pos hflow, hlevel]
  unfold playTick
  simp only [hrecord, hsettle]
  obtain ⟨hsame, hkept⟩ := hfired { s with
    player := s.player.updatePlayer dtMs }
  generalize (({ s with player := s.player.updatePlayer dtMs } :
    Game).fireBlaster around).fireGrenade around = fired at *
  rw [← hkept] at hzone
  obtain ⟨points, hpoints⟩ := hpays (checkBonus { fired with
    weapons := fired.weapons.update dtMs around
    enemies := around.enemies } around) hzone
  refine ⟨points, hpoints.trans ?_⟩
  show fired.history ++ [.bonus fired.currentZone points] = _
  rw [hsame, hkept]

end Game

end Exolon.Port

/-
The port's projectiles and enemies.

`Weapons` keeps the projectiles, and a flag and a timer for the one
grenade that may be in flight. The player throws grenades into the same
list and knows neither. Enemies are removed where they leave the screen;
one that is killed on it stays in the list for good.

An update is the two of a tick, weapons first. What it leaves is `Sound`
exactly when it finds a state that is `Ready`: any grenade that stays in
the air is alone, the weapons' own and within its time, and no listed
enemy has been killed (`sound_iff_ready`). The numbers are exact.
-/
import Exolon.Port.Player

namespace Exolon.Port.Entities

-- ============================================================= projectiles

inductive WeaponType where
  | blaster | grenade | launcher | rocket
  deriving DecidableEq, Repr

structure Projectile where
  type : WeaponType
  position : Vec2
  velocity : Vec2
  alive : Bool := true
  destroyable : Bool
  points : Int
  deriving DecidableEq, Repr

namespace Projectile

def isGrenade (p : Projectile) : Bool := p.type = .grenade

def moved (p : Projectile) : Projectile :=
  { p with
    position := ⟨p.position.x + p.velocity.x, p.position.y + p.velocity.y⟩
    velocity := if p.isGrenade then
      ⟨p.velocity.x, p.velocity.y + 15 / 100⟩ else p.velocity }

def offScreen (position : Vec2) : Bool :=
  position.x < -50 || position.x > 600 || position.y < -50
    || position.y > 500

/-- The move takes the projectile off the screen. -/
def leaves (p : Projectile) : Bool := offScreen p.moved.position

/-- One turn of the loop of `update`. -/
def advance (p : Projectile) : Projectile :=
  if !p.alive then p else { p.moved with alive := !p.leaves }

end Projectile

/-- A muzzle beside the player. -/
def beside (position : Vec2) (facingLeft : Bool) (offset : Rat) : Rat :=
  if facingLeft then position.x - offset else position.x + offset

def directed (facingLeft : Bool) (speed : Rat) : Rat :=
  if facingLeft then -speed else speed

/-- A bullet of the blaster, as both modules build it. -/
def bullet (position : Vec2) (facingLeft : Bool) (y : Rat) : Projectile where
  type := .blaster
  position := ⟨beside position facingLeft 12, y⟩
  velocity := ⟨directed facingLeft 8, 0⟩
  destroyable := false
  points := 0

def thrown (position : Vec2) (facingLeft : Bool) : Projectile where
  type := .grenade
  position := ⟨beside position facingLeft 8, position.y⟩
  velocity := ⟨directed facingLeft 4, -6⟩
  destroyable := true
  points := 150

-- ============================================================= the player

/-- `fireBlaster` of the player. -/
def playerFireBlaster (p : PlacedPlayer) (projectiles : List Projectile) :
    PlacedPlayer × List Projectile :=
  if p.blasterAmmo ≤ 0 ∨ p.alive = false then (p, projectiles)
  else
    ({ p with blasterAmmo := p.blasterAmmo - 1 },
      projectiles ++ bullet p.position p.facingLeft p.position.y
        :: if p.doubleShot then
          [bullet p.position p.facingLeft (p.position.y - 8)] else [])

/-- `fireGrenade` of the player. -/
def playerFireGrenade (p : PlacedPlayer) (projectiles : List Projectile) :
    PlacedPlayer × List Projectile :=
  if p.grenades ≤ 0 ∨ p.alive = false then (p, projectiles)
  else
    ({ p with grenades := p.grenades - 1 },
      projectiles ++ [thrown p.position p.facingLeft])

-- ================================================================ weapons

structure Weapons where
  activeProjectiles : List Projectile := []
  grenadeActive : Bool := false
  grenadeTimer : Rat := 0
  doubleLauncherActive : Bool := false

namespace Weapons

def fireBlaster (w : Weapons) (playerPos : Vec2) (facingLeft : Bool)
    (ammo : Int) : Weapons :=
  if ammo ≤ 0 then w
  else { w with
    activeProjectiles := w.activeProjectiles
      ++ [bullet playerPos facingLeft (playerPos.y - 8)] }

def fireGrenade (w : Weapons) (playerPos : Vec2) (facingLeft : Bool) :
    Weapons :=
  if w.grenadeActive then w
  else { w with
    activeProjectiles := w.activeProjectiles ++ [thrown playerPos facingLeft]
    grenadeActive := true
    grenadeTimer := 0 }

def fireLauncher (w : Weapons) (playerPos : Vec2) (facingLeft : Bool) :
    Weapons :=
  { w with
    activeProjectiles := w.activeProjectiles ++ [{
      type := .launcher
      position := ⟨beside playerPos facingLeft 12, playerPos.y - 8⟩
      velocity := ⟨directed facingLeft 6, -1⟩
      destroyable := true
      points := 50 }]
    doubleLauncherActive := true }

/-- An alive grenade leaves the screen in this move. -/
def loses (w : Weapons) : Bool :=
  w.activeProjectiles.any fun p => p.alive && p.isGrenade && p.leaves

def update (w : Weapons) (dtMs : Rat) : Weapons :=
  { w with
    activeProjectiles :=
      (w.activeProjectiles.map Projectile.advance).filter Projectile.alive
    grenadeTimer :=
      if w.grenadeActive then w.grenadeTimer + dtMs else w.grenadeTimer
    grenadeActive := w.grenadeActive
      && !decide (w.grenadeTimer + dtMs > 3000) && !w.loses }

def clear (_ : Weapons) : Weapons := {}

/-- The end of a tick. -/
def clean (w : Weapons) : Weapons :=
  { w with
    activeProjectiles := w.activeProjectiles.filter Projectile.alive }

/-- The grenades in flight. -/
def grenades (w : Weapons) : List Projectile :=
  w.activeProjectiles.filter fun p => p.alive && p.isGrenade

end Weapons

-- ================================================================ enemies

inductive EnemyType where
  | flying1 | flying2 | flying3 | flying4 | flying5 | flying6 | sphere
  | rocketTower
  deriving DecidableEq, Repr

structure Enemy where
  id : String
  type : EnemyType
  position : Vec2
  velocity : Vec2
  alive : Bool := true
  trajectoryPhase : Nat := 0
  spawnDelay : Int
  points : Int

def enemyTypeFromTable (index : Nat) : EnemyType :=
  [.flying1, .flying2, .flying3, .flying4, .flying5, .flying6].getD index
    .flying1

/-- The six trajectory tables. -/
def trajectoryTables : List (List (Rat × Rat)) :=
  [[(-1, 0), (-1, 0), (-1, 1), (-1, 0)],
    [(-1, 0), (-1, -1), (-1, 0), (-1, 1)],
    [(-1, 1), (-1, 2), (-1, 1), (-1, 0)],
    [(-1, -1), (-1, -2), (-1, -1), (-1, 0)],
    [(0, 0), (0, 0), (-1, 2), (-1, 3)],
    [(-1, -1), (-1, 1), (-1, -1), (-1, 1)]]

namespace Enemy

/-- Which table an enemy follows. -/
def table (e : Enemy) : List (Rat × Rat) :=
  trajectoryTables.getD (match e.type with
    | .flying6 => 5
    | .flying5 => 4
    | .flying4 => 3
    | .flying3 => 2
    | .flying2 => 1
    | _ => 0) []

def spawnDelayOf : EnemyType → Int
  | .flying1 => 200
  | .flying2 => 250
  | .flying3 => 300
  | .flying4 => 350
  | .flying5 => 400
  | .flying6 => 450
  | .sphere => 0
  | .rocketTower => 0

/-- `updateEnemy` -/
def update (e : Enemy) : Enemy :=
  if !e.alive then e
  else
    let step := e.table.getD (e.trajectoryPhase % e.table.length) (0, 0)
    let position : Vec2 := ⟨e.position.x + step.1, e.position.y + step.2⟩
    { e with
      position := position
      trajectoryPhase := e.trajectoryPhase + 1
      alive := !decide (position.x < -50) }

end Enemy

structure EnemyManager where
  enemies : List Enemy := []
  spawnTimer : Rat := 0

/-- What an update is called with, and what it draws. -/
structure Around where
  playerPos : Vec2
  zoneNumber : Nat
  levelWidth : Rat
  /-- The identity drawn for a spawned enemy. -/
  id : String
  yOffset : Rat

namespace EnemyManager

def maxFlyingEnemies : Nat := 6

def spawnFlyingEnemy (around : Around) : Enemy where
  id := around.id
  type := enemyTypeFromTable (around.zoneNumber % 6)
  position := ⟨around.levelWidth + 20,
    max 0 (min (448 - 16) (around.playerPos.y + around.yOffset))⟩
  velocity := ⟨-1, 0⟩
  spawnDelay :=
    Enemy.spawnDelayOf (enemyTypeFromTable (around.zoneNumber % 6))
  points := 150

/-- An enemy is due, and there is room for it. -/
def spawns (m : EnemyManager) (dtMs : Rat) (around : Around) : Bool :=
  around.zoneNumber ≤ 124 && around.playerPos.x < 240
    && 300 * 1667 / 100 ≤ m.spawnTimer + dtMs
    && m.enemies.countP Enemy.alive < maxFlyingEnemies

/-- The enemies of a tick: spawned, moved, and removed where they left. -/
def update (m : EnemyManager) (dtMs : Rat) (around : Around) :
    EnemyManager :=
  let spawned := if m.spawns dtMs around then
    m.enemies ++ [spawnFlyingEnemy around] else m.enemies
  { enemies := (spawned.map Enemy.update).filter fun e =>
      e.alive || !decide (e.position.x < -50)
    spawnTimer :=
      if m.spawns dtMs around then 0 else m.spawnTimer + dtMs }

/-- The first enemy of that identity. -/
def kill (id : String) : List Enemy → List Enemy
  | [] => []
  | e :: rest =>
      if e.id = id then { e with alive := false } :: rest
      else e :: kill id rest

def killEnemy (m : EnemyManager) (id : String) : EnemyManager :=
  { m with enemies := kill id m.enemies }

def clear (_ : EnemyManager) : EnemyManager := {}

end EnemyManager

-- ============================================================= the system

/-- Weapons and enemies, and whether an update has just ended. -/
structure Scene where
  weapons : Weapons := {}
  enemyManager : EnemyManager := {}
  updated : Bool := false

/-- What the composed game does to them. The player, its place and its
purse are whatever they are. -/
inductive Action where
  | playerFireBlaster (p : PlacedPlayer)
  | playerFireGrenade (p : PlacedPlayer)
  | fireBlaster (playerPos : Vec2) (facingLeft : Bool) (ammo : Int)
  | fireGrenade (playerPos : Vec2) (facingLeft : Bool)
  | fireLauncher (playerPos : Vec2) (facingLeft : Bool)
  | update (dtMs : Rat) (around : Around)
  | killEnemy (id : String)
  | clear
  | clean

namespace Scene

/-- The player's projectiles go into the weapons' own list. -/
def push (s : Scene) (fired : List Projectile → PlacedPlayer × List Projectile)
    : Scene :=
  { s with
    weapons := { s.weapons with
      activeProjectiles := (fired s.weapons.activeProjectiles).2 }
    updated := false }

def step (s : Scene) : Action → Option Scene
  | .playerFireBlaster p => some (s.push (playerFireBlaster p))
  | .playerFireGrenade p => some (s.push (playerFireGrenade p))
  | .fireBlaster playerPos facingLeft ammo =>
      some { s with
        weapons := s.weapons.fireBlaster playerPos facingLeft ammo
        updated := false }
  | .fireGrenade playerPos facingLeft =>
      some { s with
        weapons := s.weapons.fireGrenade playerPos facingLeft
        updated := false }
  | .fireLauncher playerPos facingLeft =>
      some { s with
        weapons := s.weapons.fireLauncher playerPos facingLeft
        updated := false }
  | .update dtMs around =>
      some { s with
        weapons := s.weapons.update dtMs
        enemyManager := s.enemyManager.update dtMs around
        updated := true }
  | .killEnemy id =>
      some { s with
        enemyManager := s.enemyManager.killEnemy id
        updated := false }
  | .clear =>
      some { s with
        weapons := s.weapons.clear
        enemyManager := s.enemyManager.clear
        updated := false }
  | .clean =>
      some { s with
        weapons := s.weapons.clean
        updated := false }

/-- One grenade in flight, and nothing dead is kept. -/
structure Sound (s : Scene) : Prop where
  oneGrenade : s.weapons.grenades.length ≤ 1
  active : s.weapons.grenadeActive = true ↔ s.weapons.grenades ≠ []
  projectiles : ∀ p ∈ s.weapons.activeProjectiles, p.alive = true
  sixAlive : s.enemyManager.enemies.countP Enemy.alive ≤ 6
  enemies : ∀ e ∈ s.enemyManager.enemies,
    e.alive = true ∧ -50 ≤ e.position.x
  bounded : s.enemyManager.enemies.length ≤ 6

/-- What every update leaves is sound. -/
def Kept (s : Scene) : Prop := s.updated = true → s.Sound

/-- A grenade that stays on the screen is the only one in flight, the
weapons' own and within its time. -/
def GrenadeReady (w : Weapons) (dtMs : Rat) : Prop :=
  ∀ p ∈ w.grenades, p.leaves = false →
    w.grenades.length = 1 ∧ w.grenadeActive = true
      ∧ w.grenadeTimer + dtMs ≤ 3000

/-- And no listed enemy has been killed. -/
def Ready (s : Scene) : Action → Prop
  | .update dtMs _ => GrenadeReady s.weapons dtMs
      ∧ ∀ e ∈ s.enemyManager.enemies, e.alive = true
  | _ => True

-- ============================================================ what is kept

/-- In every state: a grenade the weapons count on is there, and of the
enemies at most six are alive, none of them off the screen. -/
structure Held (s : Scene) : Prop where
  active : s.weapons.grenadeActive = true → s.weapons.grenades ≠ []
  sixAlive : s.enemyManager.enemies.countP Enemy.alive ≤ 6
  onScreen : ∀ e ∈ s.enemyManager.enemies, -50 ≤ e.position.x

theorem held_start : Held {} where
  active := by simp
  sixAlive := by simp
  onScreen := by simp

-- ---------------------------------------------------------------- grenades

section Grenades

variable {w : Weapons} {dtMs : Rat}

theorem grenades_append (w : Weapons) (more : List Projectile) :
    Weapons.grenades { w with
        activeProjectiles := w.activeProjectiles ++ more }
      = w.grenades ++ more.filter fun p => p.alive && p.isGrenade := by
  unfold Weapons.grenades
  rw [List.filter_append]

/-- Pushing projectiles takes no grenade away. -/
theorem grenades_push {more : List Projectile} (h : w.grenades ≠ []) :
    Weapons.grenades { w with
      activeProjectiles := w.activeProjectiles ++ more } ≠ [] := by
  rw [grenades_append]
  intro hnil
  exact h (List.append_eq_nil_iff.mp hnil).1

theorem advance_of_alive {p : Projectile} (h : p.alive = true) :
    p.advance = { p.moved with alive := !p.leaves } := by
  unfold Projectile.advance
  simp [h]

theorem alive_advance (p : Projectile) :
    p.advance.alive = (p.alive && !p.leaves) := by
  cases h : p.alive with
  | false => simp [Projectile.advance, h]
  | true =>
      rw [advance_of_alive h]
      simp

theorem isGrenade_advance (p : Projectile) :
    p.advance.isGrenade = p.isGrenade := by
  unfold Projectile.advance
  split
  · rfl
  · rfl

/-- After an update, the grenades in flight are those that stayed. -/
theorem grenades_update (w : Weapons) (dtMs : Rat) :
    (w.update dtMs).grenades
      = (w.grenades.filter fun p => !p.leaves).map Projectile.advance := by
  unfold Weapons.grenades Weapons.update
  simp only [List.filter_filter, List.filter_map]
  congr 1
  apply List.filter_congr
  intro p _
  simp only [Function.comp, alive_advance, isGrenade_advance]
  cases p.alive <;> cases p.isGrenade <;> cases p.leaves <;> rfl

theorem loses_iff : w.loses = true ↔ ∃ p ∈ w.grenades, p.leaves = true := by
  unfold Weapons.loses Weapons.grenades
  simp only [List.any_eq_true, List.mem_filter, Bool.and_eq_true]
  constructor
  · rintro ⟨p, hp, ⟨halive, hgrenade⟩, hleaves⟩
    exact ⟨p, ⟨hp, halive, hgrenade⟩, hleaves⟩
  · rintro ⟨p, ⟨hp, halive, hgrenade⟩, hleaves⟩
    exact ⟨p, hp, ⟨halive, hgrenade⟩, hleaves⟩

theorem active_update : (w.update dtMs).grenadeActive = true ↔
    w.grenadeActive = true ∧ w.grenadeTimer + dtMs ≤ 3000
      ∧ ∀ p ∈ w.grenades, p.leaves = false := by
  have hlost : w.loses = false ↔ ∀ p ∈ w.grenades, p.leaves = false := by
    rw [← Bool.not_eq_true, loses_iff]
    push Not
    simp
  show (w.grenadeActive && !decide (w.grenadeTimer + dtMs > 3000)
    && !w.loses) = true ↔ _
  simp only [Bool.and_eq_true, Bool.not_eq_true', decide_eq_false_iff_not,
    not_lt, hlost, and_assoc, gt_iff_lt]

/-- An update leaves one grenade, flagged, or none, exactly when it finds
them so. -/
theorem grenades_sound_iff (dtMs : Rat)
    (hactive : w.grenadeActive = true → w.grenades ≠ []) :
    ((w.update dtMs).grenades.length ≤ 1
        ∧ ((w.update dtMs).grenadeActive = true
          ↔ (w.update dtMs).grenades ≠ []))
      ↔ GrenadeReady w dtMs := by
  rw [grenades_update, active_update, List.length_map]
  constructor
  · rintro ⟨hone, hflag⟩ p hp hstays
    have hleft : p ∈ w.grenades.filter fun p => !p.leaves :=
      List.mem_filter.mpr ⟨hp, by simp [hstays]⟩
    have hne : (w.grenades.filter fun p => !p.leaves).map
        Projectile.advance ≠ [] := by
      intro hnil
      rw [List.map_eq_nil_iff] at hnil
      rw [hnil] at hleft
      cases hleft
    obtain ⟨hon, htime, hall⟩ := hflag.mpr hne
    have hsame : (w.grenades.filter fun p => !p.leaves) = w.grenades := by
      rw [List.filter_eq_self]
      intro q hq
      simp [hall q hq]
    rw [hsame] at hone
    have hpos := List.length_pos_of_mem hp
    exact ⟨by omega, hon, htime⟩
  · intro h
    by_cases hstays : ∃ p ∈ w.grenades, p.leaves = false
    · obtain ⟨p, hp, hstays⟩ := hstays
      obtain ⟨hone, hon, htime⟩ := h p hp hstays
      obtain ⟨q, hq⟩ := List.length_eq_one_iff.mp hone
      rw [hq] at hp
      obtain rfl := List.mem_singleton.mp hp
      rw [hq]
      simp [hstays, hon, htime]
    · push Not at hstays
      have hnone : (w.grenades.filter fun p => !p.leaves) = [] := by
        rw [List.filter_eq_nil_iff]
        intro p hp
        simpa using hstays p hp
      rw [hnone]
      refine ⟨Nat.zero_le _, iff_of_false ?_ (by simp)⟩
      rintro ⟨hon, _, hall⟩
      obtain ⟨p, hp⟩ := List.exists_mem_of_ne_nil _ (hactive hon)
      exact hstays p hp (hall p hp)

end Grenades

-- ----------------------------------------------------------------- enemies

section Enemies

variable {m : EnemyManager} {dtMs : Rat} {around : Around}

theorem update_of_dead {e : Enemy} (h : e.alive = false) : e.update = e := by
  unfold Enemy.update
  simp [h]

/-- An enemy that was alive is, exactly as long as it is on the screen. -/
theorem alive_update {e : Enemy} (h : e.alive = true) :
    e.update.alive = !decide (e.update.position.x < -50) := by
  unfold Enemy.update
  simp [h]

theorem alive_of_update {e : Enemy} (h : e.update.alive = true) :
    e.alive = true ∧ -50 ≤ e.update.position.x := by
  cases halive : e.alive with
  | false =>
      rw [update_of_dead halive, halive] at h
      cases h
  | true =>
      rw [alive_update halive] at h
      exact ⟨rfl, by simpa using h⟩

/-- The enemies before they move. -/
def spawned (m : EnemyManager) (dtMs : Rat) (around : Around) : List Enemy :=
  if m.spawns dtMs around then
    m.enemies ++ [EnemyManager.spawnFlyingEnemy around] else m.enemies

theorem mem_spawned {e : Enemy} (h : e ∈ spawned m dtMs around) :
    e ∈ m.enemies ∨ e.alive = true := by
  unfold spawned at h
  split at h
  · rcases List.mem_append.mp h with hmem | hnew
    · exact .inl hmem
    · rw [List.mem_singleton.mp hnew]
      exact .inr rfl
  · exact .inl h

theorem mem_spawned_of_mem {e : Enemy} (h : e ∈ m.enemies) :
    e ∈ spawned m dtMs around := by
  unfold spawned
  split
  · exact List.mem_append_left _ h
  · exact h

theorem countP_spawned (h : m.enemies.countP Enemy.alive ≤ 6) :
    (spawned m dtMs around).countP Enemy.alive ≤ 6 := by
  unfold spawned
  split
  case isFalse => exact h
  case isTrue hspawns =>
    have hroom : m.enemies.countP Enemy.alive < 6 := by
      unfold EnemyManager.spawns EnemyManager.maxFlyingEnemies at hspawns
      simp only [Bool.and_eq_true, decide_eq_true_eq] at hspawns
      exact hspawns.2
    rw [List.countP_append]
    have hone : [EnemyManager.spawnFlyingEnemy around].countP Enemy.alive
        ≤ 1 := List.countP_le_length
    omega

theorem mem_update {e : Enemy} : e ∈ (m.update dtMs around).enemies ↔
    (∃ e' ∈ spawned m dtMs around, e'.update = e)
      ∧ (e.alive = true ∨ -50 ≤ e.position.x) := by
  show e ∈ ((spawned m dtMs around).map Enemy.update).filter _ ↔ _
  simp only [List.mem_filter, List.mem_map, Bool.or_eq_true,
    Bool.not_eq_true', decide_eq_false_iff_not, not_lt]

theorem onScreen_update {e : Enemy}
    (h : e ∈ (m.update dtMs around).enemies) : -50 ≤ e.position.x := by
  obtain ⟨⟨e', _, rfl⟩, halive | hscreen⟩ := mem_update.mp h
  · exact (alive_of_update halive).2
  · exact hscreen

theorem sixAlive_update (dtMs : Rat) (around : Around)
    (h : m.enemies.countP Enemy.alive ≤ 6) :
    (m.update dtMs around).enemies.countP Enemy.alive ≤ 6 := by
  have hfilter : (m.update dtMs around).enemies.countP Enemy.alive
      ≤ ((spawned m dtMs around).map Enemy.update).countP Enemy.alive :=
    List.filter_sublist.countP_le
  have hmap : ((spawned m dtMs around).map Enemy.update).countP Enemy.alive
      ≤ (spawned m dtMs around).countP Enemy.alive := by
    rw [List.countP_map]
    apply List.countP_mono_left
    intro e _ halive
    exact (alive_of_update halive).1
  exact hfilter.trans (hmap.trans (countP_spawned h))

/-- An update leaves no dead enemy exactly when it finds none. -/
theorem enemies_sound_iff (dtMs : Rat) (around : Around)
    (honScreen : ∀ e ∈ m.enemies, -50 ≤ e.position.x) :
    (∀ e ∈ (m.update dtMs around).enemies, e.alive = true)
      ↔ ∀ e ∈ m.enemies, e.alive = true := by
  constructor
  · intro h e he
    cases halive : e.alive with
    | true => rfl
    | false =>
        have hkept : e ∈ (m.update dtMs around).enemies :=
          mem_update.mpr ⟨⟨e, mem_spawned_of_mem he, update_of_dead halive⟩,
            .inr (honScreen e he)⟩
        rw [h e hkept] at halive
        cases halive
  · intro h e he
    obtain ⟨⟨e', he', rfl⟩, halive | hscreen⟩ := mem_update.mp he
    · exact halive
    · have halive' : e'.alive = true := by
        rcases mem_spawned he' with hmem | hnew
        · exact h e' hmem
        · exact hnew
      rw [alive_update halive']
      simpa using hscreen

/-- A kill moves nobody and revives nobody. -/
theorem mem_kill {id : String} {l : List Enemy} {e : Enemy}
    (h : e ∈ EnemyManager.kill id l) :
    ∃ e' ∈ l, e.position = e'.position := by
  induction l with
  | nil => cases h
  | cons first rest ih =>
      unfold EnemyManager.kill at h
      split at h
      · rcases List.mem_cons.mp h with rfl | hmem
        · exact ⟨first, List.mem_cons_self, rfl⟩
        · exact ⟨e, List.mem_cons_of_mem _ hmem, rfl⟩
      · rcases List.mem_cons.mp h with rfl | hmem
        · exact ⟨e, List.mem_cons_self, rfl⟩
        · obtain ⟨e', he', hsame⟩ := ih hmem
          exact ⟨e', List.mem_cons_of_mem _ he', hsame⟩

theorem countP_kill (id : String) (l : List Enemy) :
    (EnemyManager.kill id l).countP Enemy.alive ≤ l.countP Enemy.alive := by
  induction l with
  | nil => exact Nat.le_refl _
  | cons first rest ih =>
      unfold EnemyManager.kill
      split
      · rw [List.countP_cons_of_neg (by simp)]
        rw [List.countP_cons]
        omega
      · rw [List.countP_cons, List.countP_cons]
        omega

end Enemies

-- ==================================================================== runs

section Runs

variable {s : Scene}

/-- What the weapons are changed to, while the enemies stay. -/
theorem Held.weapons (h : s.Held) {w : Weapons}
    (hactive : w.grenadeActive = true → w.grenades ≠ []) (updated : Bool) :
    Held { s with weapons := w, updated := updated } :=
  ⟨hactive, h.sixAlive, h.onScreen⟩

theorem Held.push (h : s.Held) (more : List Projectile) (updated : Bool) :
    Held { s with
      weapons := { s.weapons with
        activeProjectiles := s.weapons.activeProjectiles ++ more }
      updated := updated } :=
  h.weapons (fun hon => grenades_push (h.active hon)) updated

theorem Held.step (h : s.Held) {a : Action} {t : Scene}
    (hstep : s.step a = some t) : t.Held := by
  cases a with
  | playerFireBlaster p =>
      obtain rfl := Option.some.inj hstep
      unfold Scene.push playerFireBlaster
      split
      · exact h.weapons h.active _
      · exact h.push _ _
  | playerFireGrenade p =>
      obtain rfl := Option.some.inj hstep
      unfold Scene.push playerFireGrenade
      split
      · exact h.weapons h.active _
      · exact h.push _ _
  | fireBlaster playerPos facingLeft ammo =>
      obtain rfl := Option.some.inj hstep
      unfold Weapons.fireBlaster
      split
      · exact h.weapons h.active _
      · exact h.push _ _
  | fireGrenade playerPos facingLeft =>
      obtain rfl := Option.some.inj hstep
      unfold Weapons.fireGrenade
      split
      · exact h.weapons h.active _
      · refine h.weapons ?_ _
        intro _ hnil
        have hgrenades := (grenades_append s.weapons
          [thrown playerPos facingLeft]).symm.trans hnil
        exact absurd hgrenades (by simp [thrown, Projectile.isGrenade])
  | fireLauncher playerPos facingLeft =>
      obtain rfl := Option.some.inj hstep
      refine h.weapons ?_ _
      intro hon
      exact grenades_push (h.active hon)
  | update dtMs around =>
      obtain rfl := Option.some.inj hstep
      refine ⟨?_, sixAlive_update dtMs around h.sixAlive, fun e => onScreen_update⟩
      intro hon
      obtain ⟨hbefore, _, hall⟩ := active_update.mp hon
      obtain ⟨p, hp⟩ := List.exists_mem_of_ne_nil _ (h.active hbefore)
      show (s.weapons.update dtMs).grenades ≠ []
      rw [grenades_update]
      apply List.ne_nil_of_mem
      apply List.mem_map_of_mem
      exact List.mem_filter.mpr ⟨hp, by simp [hall p hp]⟩
  | killEnemy id =>
      obtain rfl := Option.some.inj hstep
      refine ⟨h.active, (countP_kill _ _).trans h.sixAlive, ?_⟩
      intro e he
      obtain ⟨e', he', hsame⟩ := mem_kill he
      rw [hsame]
      exact h.onScreen e' he'
  | clear =>
      obtain rfl := Option.some.inj hstep
      exact ⟨held_start.active, held_start.sixAlive, held_start.onScreen⟩
  | clean =>
      obtain rfl := Option.some.inj hstep
      refine h.weapons ?_ _
      intro hon
      have hsame : s.weapons.clean.grenades = s.weapons.grenades := by
        unfold Weapons.grenades Weapons.clean
        rw [List.filter_filter]
        apply List.filter_congr
        intro p _
        cases p.alive <;> simp
      rw [hsame]
      exact h.active hon

/-- An update leaves a sound state exactly when it finds a ready one. -/
theorem sound_iff_ready (h : s.Held) (dtMs : Rat) (around : Around)
    {t : Scene} (hstep : s.step (.update dtMs around) = some t) :
    t.Sound ↔ s.Ready (.update dtMs around) := by
  obtain rfl := Option.some.inj hstep
  have hgrenades := grenades_sound_iff dtMs h.active
  have henemies := enemies_sound_iff dtMs around h.onScreen
  constructor
  · intro hsound
    exact ⟨hgrenades.mp ⟨hsound.oneGrenade, hsound.active⟩,
      henemies.mp fun e he => (hsound.enemies e he).1⟩
  · rintro ⟨hready, hliving⟩
    obtain ⟨hone, hactive⟩ := hgrenades.mpr hready
    have halive := henemies.mpr hliving
    have hsix := sixAlive_update dtMs around h.sixAlive
    refine ⟨hone, hactive, ?_, hsix, ?_, ?_⟩
    · intro p hp
      exact (List.mem_filter.mp hp).2
    · intro e he
      exact ⟨halive e he, onScreen_update he⟩
    · have hall := List.countP_eq_length.mpr halive
      show (s.enemyManager.update dtMs around).enemies.length ≤ 6
      omega

/-- One step keeps what updates leave sound exactly when it is ready. -/
theorem kept_step_iff (h : s.Held) (a : Action) {t : Scene}
    (hstep : s.step a = some t) : t.Kept ↔ s.Ready a := by
  have hother (hidle : t.updated = false) (hready : s.Ready a) :
      t.Kept ↔ s.Ready a := by
    refine iff_of_true ?_ hready
    intro hupdated
    rw [hidle] at hupdated
    cases hupdated
  cases a with
  | update dtMs around =>
      rw [← sound_iff_ready h dtMs around hstep]
      obtain rfl := Option.some.inj hstep
      unfold Kept
      simp
  | playerFireBlaster p =>
      exact hother (by obtain rfl := Option.some.inj hstep; rfl) trivial
  | playerFireGrenade p =>
      exact hother (by obtain rfl := Option.some.inj hstep; rfl) trivial
  | fireBlaster playerPos facingLeft ammo =>
      exact hother (by obtain rfl := Option.some.inj hstep; rfl) trivial
  | fireGrenade playerPos facingLeft =>
      exact hother (by obtain rfl := Option.some.inj hstep; rfl) trivial
  | fireLauncher playerPos facingLeft =>
      exact hother (by obtain rfl := Option.some.inj hstep; rfl) trivial
  | killEnemy id =>
      exact hother (by obtain rfl := Option.some.inj hstep; rfl) trivial
  | clear =>
      exact hother (by obtain rfl := Option.some.inj hstep; rfl) trivial
  | clean =>
      exact hother (by obtain rfl := Option.some.inj hstep; rfl) trivial

end Runs

/-- A player in the middle of the screen throws twice. -/
def twoThrows : List Action :=
  let p : PlacedPlayer := { position := ⟨100, 100⟩ }
  [.playerFireGrenade p, .playerFireGrenade p,
    .update (50 / 3) ⟨⟨100, 100⟩, 0, 512, "", 0⟩]

end Scene

end Exolon.Port.Entities

/-
A zone: the objects of one level instance and what can hit them.

`load` is what a map is made into: every object is new, and a beam field is
the hit points its sides share. The operations are those the scene and the
level runtime step through: bullets and grenades that meet objects, enemy
shots, launchers, creatures, and the contacts that hurt the player.

# The surroundings

Where objects are, and what meets what, depends on motion and on chance.
`Contacts` are the answers of one step to every such question; they are
arbitrary, so whatever is shown is shown of every map and every run.

# The history

`Hit` records what was struck by what. Nothing reads it; `awards` are the
calls of `awardPoints`, the latest first, as `hits` is.
-/
import Exolon.Lib.Spend

namespace Exolon.Zones

-- ================================================================ objects

/-- The kinds of objects there are. -/
inductive Kind where
  | turret
  | destructibleObstacle
  | incubator
  | egg
  | bubble
  | guidance
  | missile
  | mine
  | doubleLauncher
  | forceField
  | bullet
  | grenade
  | enemyBullet
  deriving DecidableEq

/-- A reference to an object. -/
structure Ref where
  kind : Kind
  id : Nat
  deriving DecidableEq

/-- `EnemyTurretBullet.Kind` -/
inductive ShotKind where
  | turret
  | doubleLauncher
  deriving DecidableEq

namespace ShotKind

def canBeShotDown : ShotKind → Bool
  | .turret => false
  | .doubleLauncher => true

def pointsWhenShotDown : ShotKind → Int
  | .turret => 0
  | .doubleLauncher => 50

end ShotKind

/-- What an object is besides where it is: `isAlive`, or `isActive` of a
thing that does not move, or `isArmed` of a mine. `shot` is the kind of an
enemy shot. -/
structure Object where
  id : Nat
  isAlive : Bool := true
  shot : ShotKind := .turret
  deriving DecidableEq

/-- `LauncherBonusState` -/
structure LauncherBonusState where
  isActive : Bool := true
  bonusCollected : Bool := false
  deriving DecidableEq

/-- `payBonus`: whether it pays, and the state after. -/
def LauncherBonusState.payBonus (state : LauncherBonusState)
    (touchesBonusRegion : Bool) : Bool × LauncherBonusState :=
  if !(state.isActive && !state.bonusCollected && touchesBonusRegion) then
    (false, state)
  else (true, { state with bonusCollected := true })

/-- `DoubleLauncherObstacle` -/
structure DoubleLauncherObstacle where
  id : Nat
  bonusState : LauncherBonusState := {}
  deriving DecidableEq

/-- `ForceFieldBarrier`: one side of a beam field. -/
structure ForceFieldBarrier where
  id : Nat
  field : Nat
  deriving DecidableEq

/-- `BeamFieldModel`; its handlers only paint the sides. -/
structure BeamFieldModel where
  remainingHitPoints : Int := 25
  destructionNotified : Bool := false
  deriving DecidableEq

namespace BeamFieldModel

def isActive (field : BeamFieldModel) : Bool := 0 < field.remainingHitPoints

/-- `registerHit`: whether this hit emptied the pool, and the pool after. -/
def registerHit (field : BeamFieldModel) : Bool × BeamFieldModel :=
  if !field.isActive then (false, field)
  else
    let field := { field with
      remainingHitPoints := field.remainingHitPoints - 1 }
    if !(field.remainingHitPoints ≤ 0 && !field.destructionNotified) then
      (false, field)
    else (true, { field with destructionNotified := true })

end BeamFieldModel

-- ================================================================ history

/-- The reasons points are awarded for. -/
inductive Reason where
  | blasterShotdown
  | bubble
  | egg
  | forceField
  | grenadeKill
  | guidance
  | launcher
  deriving DecidableEq

/-- What was struck: a block by a grenade; a guidance station by one, with
whether a homing missile was alive; a beam field by a bullet; a launcher shot
by one; a creature by one or by the player; a launcher's region by the
player. -/
inductive Hit where
  | grenade (grenade : Nat) (block : Ref)
  | guidance (grenade station : Nat) (missile : Bool)
  | beam (bullet field : Nat)
  | shot (bullet shot : Nat)
  | creature (bullet : Option Nat) (creature : Ref)
  | launcher (launcher : Nat)
  deriving DecidableEq

-- =============================================================== the zone

/-- What the scene keeps of the player. -/
structure Player where
  isDying : Bool := false
  hasExoskeleton : Bool := false
  /-- `invulnerability > 0` -/
  invulnerable : Bool := false
  testInvulnerabilityEnabled : Bool := false

/-- The answers to one step: what still flies after its motion, what meets
what, and what the player touches with its movement box or is hurt by in its
damage box. -/
structure Contacts where
  stays : Ref → Bool := fun _ => true
  meets : Ref → Ref → Bool := fun _ _ => false
  meetsTerrain : Ref → Bool := fun _ => false
  fires : Ref → Bool := fun _ => false
  /-- The spawners that launch a bubble. -/
  launches : Nat → Bool := fun _ => false
  touches : Ref → Bool := fun _ => false
  hurts : Ref → Bool := fun _ => false
  pistons : List Bool := []
  sourceHazard : Bool := false

/-- A level instance, the projectiles of the scene in it and the player. -/
structure Zone where
  objects : Kind → List Object
  doubleLaunchers : List DoubleLauncherObstacle := []
  forceFields : List ForceFieldBarrier := []
  beamFields : Nat → BeamFieldModel := fun _ => {}
  bubbleSpawners : Nat := 0
  /-- The reference of the next new object. -/
  next : Nat
  player : Player := {}
  awards : List (Int × Reason) := []
  hits : List Hit := []

/-- What the objects of a map are counted to; a side of a beam field by the
field its group became. -/
structure MapObjects where
  turrets : Nat
  destructibleObstacles : Nat
  incubators : Nat
  guidance : Nat
  mines : Nat
  doubleLaunchers : Nat
  bubbleSpawners : Nat
  forceFields : List Nat

namespace MapObjects

/-- An incubator comes with eight eggs. -/
def count (m : MapObjects) : Kind → Nat
  | .turret => m.turrets
  | .destructibleObstacle => m.destructibleObstacles
  | .incubator => m.incubators
  | .egg => 8 * m.incubators
  | .guidance => m.guidance
  | .mine => m.mines
  | .bubble | .missile | .doubleLauncher | .forceField => 0
  | .bullet | .grenade | .enemyBullet => 0

/-- References from here on are not in use. -/
def bound (m : MapObjects) : Nat :=
  m.turrets + m.destructibleObstacles + 9 * m.incubators + m.guidance
    + m.mines + m.doubleLaunchers

/-- A new instance of a level. -/
def load (m : MapObjects) : Zone where
  objects kind := (List.range (m.count kind)).map fun id => { id := id }
  doubleLaunchers :=
    (List.range m.doubleLaunchers).map fun id => { id := id }
  forceFields :=
    m.forceFields.zipIdx.map fun side => { id := side.2, field := side.1 }
  bubbleSpawners := m.bubbleSpawners
  next := m.bound

end MapObjects

namespace Zone

variable (s : Zone)

-- ============================================================= references

/-- The object is there and alive. -/
def alive (r : Ref) : Bool :=
  (s.objects r.kind).any fun o => o.id = r.id && o.isAlive

/-- The references of a kind, in order. -/
def refs (kind : Kind) : List Ref :=
  (s.objects kind).map fun o => ⟨kind, o.id⟩

/-- The first object of a kind that is alive and that the test accepts. -/
def first (kind : Kind) (test : Object → Bool) : Option Object :=
  (s.objects kind).find? fun o => o.isAlive && test o

def setObjects (kind : Kind) (list : List Object) : Zone :=
  { s with objects := Function.update s.objects kind list }

/-- `destroy()` of an object. -/
def destroy (r : Ref) : Zone :=
  s.setObjects r.kind ((s.objects r.kind).map fun o =>
    if o.id = r.id then { o with isAlive := false } else o)

/-- The objects of a kind that are not alive are left out. -/
def sweep (kind : Kind) : Zone :=
  s.setObjects kind ((s.objects kind).filter Object.isAlive)

/-- A new object. -/
def append (kind : Kind) (shot : ShotKind) : Zone :=
  { s.setObjects kind (s.objects kind ++ [{ id := s.next, shot := shot }])
    with next := s.next + 1 }

/-- The motion of an object, which may take it out of the field. -/
def move (c : Contacts) (r : Ref) : Zone :=
  if c.stays r then s else s.destroy r

/-- The motion of every object of a kind. -/
def moveAll (c : Contacts) (kind : Kind) : Zone :=
  (s.refs kind).foldl (fun s r => s.move c r) s

def awardPoints (value : Int) (reason : Reason) : Zone :=
  { s with awards := (value, reason) :: s.awards }

def note (hit : Hit) : Zone := { s with hits := hit :: s.hits }

-- ================================================================ bullets

/-- `ForceFieldBarrier.isActive` -/
def sideActive (side : ForceFieldBarrier) : Bool :=
  (s.beamFields side.field).isActive

/-- `hitByBlaster` of a side: the pool of its field. -/
def hitByBlaster (bullet : Nat) (side : ForceFieldBarrier) : Zone :=
  let (destroyed, field) := (s.beamFields side.field).registerHit
  let s := { s with
    beamFields := Function.update s.beamFields side.field field }
  let s := s.note (.beam bullet side.field)
  if destroyed then s.awardPoints 1000 .forceField else s

/-- The body of the loop of `updateBullets`. -/
def updateBullet (c : Contacts) (id : Nat) : Zone :=
  let bullet : Ref := ⟨.bullet, id⟩
  let s := s.move c bullet
  if !s.alive bullet then s
  else match s.first .enemyBullet fun o => o.shot.canBeShotDown
      && c.meets bullet ⟨.enemyBullet, o.id⟩ with
  | some hostile =>
      (((s.destroy bullet).destroy ⟨.enemyBullet, hostile.id⟩).note
        (.shot id hostile.id)).awardPoints hostile.shot.pointsWhenShotDown
          .blasterShotdown
  | none =>
  match s.first .bubble fun o => c.meets bullet ⟨.bubble, o.id⟩ with
  | some bubble =>
      (((s.destroy bullet).destroy ⟨.bubble, bubble.id⟩).note
        (.creature (some id) ⟨.bubble, bubble.id⟩)).awardPoints 150 .bubble
  | none =>
  match s.first .egg fun o => c.meets bullet ⟨.egg, o.id⟩ with
  | some egg =>
      (((s.destroy bullet).destroy ⟨.egg, egg.id⟩).note
        (.creature (some id) ⟨.egg, egg.id⟩)).awardPoints 50 .egg
  | none =>
  match s.forceFields.find? fun side => s.sideActive side
      && c.meets bullet ⟨.forceField, side.id⟩ with
  | some side => (s.destroy bullet).hitByBlaster id side
  | none =>
  let hitIndestructible := [Kind.turret, .destructibleObstacle,
    .incubator].any fun kind =>
      (s.first kind fun o => c.meets bullet ⟨kind, o.id⟩).isSome
  if hitIndestructible || c.meetsTerrain bullet then s.destroy bullet else s

/-- `updateBullets` -/
def updateBullets (c : Contacts) : Zone :=
  ((s.refs .bullet).foldl (fun s r => s.updateBullet c r.id) s).sweep .bullet

-- =============================================================== grenades

/-- `destroyWithGrenade` -/
def destroyWithGrenade (id : Nat) (block : Ref) : Zone :=
  if !s.alive ⟨.grenade, id⟩ then s
  else (((s.destroy ⟨.grenade, id⟩).destroy block).note
    (.grenade id block)).awardPoints 150 .grenadeKill

/-- A homing missile is alive. -/
def missileAlive : Bool := (s.objects .missile).any Object.isAlive

/-- `destroyMissileGuidanceIfHit` for a station that is hit: the points. -/
def destroyMissileGuidance (station : Nat) : Int × Zone :=
  let points : Int := 150 + if s.missileAlive then 850 else 0
  (points, (s.destroy ⟨.guidance, station⟩).setObjects .missile [])

/-- The body of the loop of `updateGrenades`. -/
def updateGrenade (c : Contacts) (id : Nat) : Zone :=
  let grenade : Ref := ⟨.grenade, id⟩
  let s := s.move c grenade
  if !s.alive grenade then s
  else match s.first .turret fun o => c.meets grenade ⟨.turret, o.id⟩ with
  | some turret => s.destroyWithGrenade id ⟨.turret, turret.id⟩
  | none =>
  match s.first .destructibleObstacle fun o =>
      c.meets grenade ⟨.destructibleObstacle, o.id⟩ with
  | some obstacle =>
      s.destroyWithGrenade id ⟨.destructibleObstacle, obstacle.id⟩
  | none =>
  match s.first .incubator fun o => c.meets grenade ⟨.incubator, o.id⟩ with
  | some incubator => s.destroyWithGrenade id ⟨.incubator, incubator.id⟩
  | none =>
  match s.first .guidance fun o => c.meets grenade ⟨.guidance, o.id⟩ with
  | some station =>
      let missile := s.missileAlive
      let (points, s) := s.destroyMissileGuidance station.id
      ((s.destroy grenade).note (.guidance id station.id missile)).awardPoints
        points .guidance
  | none => if c.meetsTerrain grenade then s.destroy grenade else s

/-- `updateGrenades` -/
def updateGrenades (c : Contacts) : Zone :=
  ((s.refs .grenade).foldl (fun s r => s.updateGrenade c r.id) s).sweep
    .grenade

-- ============================================================== the level

/-- A bubble of a spawner. -/
def spawnBubble (c : Contacts) (spawner : Nat) : Zone :=
  if s.player.isDying then s
  else if c.launches spawner then s.append .bubble .turret else s

/-- The shots of `fixedUpdate`, those of turrets first. -/
def newShots (c : Contacts) : List ShotKind :=
  ((s.objects .turret).filter fun o => o.isAlive && c.fires ⟨.turret, o.id⟩).map
      (fun _ => .turret)
    ++ ((s.doubleLaunchers.filter fun l => l.bonusState.isActive
        && !s.player.isDying && c.fires ⟨.doubleLauncher, l.id⟩).map
      fun _ => .doubleLauncher)

/-- A homing missile is sent while a station stands and none flies. -/
def spawnMissile : Zone :=
  if (s.objects .guidance).any Object.isAlive && (s.objects .missile).isEmpty
      && !s.player.isDying then
    s.append .missile .turret
  else s

/-- `TMXLevelRuntime.fixedUpdate`, and the shots it returns. -/
def levelUpdate (c : Contacts) : List ShotKind × Zone :=
  let shots := s.newShots c
  let s := (List.range s.bubbleSpawners).foldl
    (fun s spawner => s.spawnBubble c spawner) s
  let s := (s.moveAll c .bubble).sweep .bubble
  let s := s.sweep .egg
  let s := s.spawnMissile
  (shots, (s.moveAll c .missile).sweep .missile)

/-- The shots join those that fly. -/
def addShots (shots : List ShotKind) : Zone :=
  shots.foldl (fun s shot => s.append .enemyBullet shot) s

-- ================================================================= damage

/-- `hitPlayer` -/
def hitPlayer : Zone :=
  if s.player.testInvulnerabilityEnabled then s
  else if s.player.isDying || s.player.invulnerable then s
  else { s with player := { s.player with isDying := true } }

/-- The player can be hurt. -/
def vulnerable : Bool := !s.player.invulnerable && !s.player.isDying

/-- The body of the loop of `updateEnemyBullets`. -/
def updateEnemyBullet (c : Contacts) (id : Nat) : Zone :=
  let bullet : Ref := ⟨.enemyBullet, id⟩
  let s := s.move c bullet
  if !s.alive bullet then s
  else if (s.first .destructibleObstacle fun o =>
      c.meets bullet ⟨.destructibleObstacle, o.id⟩).isSome then
    s.destroy bullet
  else if c.meetsTerrain bullet then s.destroy bullet
  else if s.vulnerable && c.hurts bullet then (s.destroy bullet).hitPlayer
  else s

/-- `updateEnemyBullets` -/
def updateEnemyBullets (c : Contacts) : Zone :=
  ((s.refs .enemyBullet).foldl (fun s r => s.updateEnemyBullet c r.id) s).sweep
    .enemyBullet

-- ============================================================== launchers

/-- The first launcher whose region pays, and the launchers after. -/
def payFirst (c : Contacts) :
    List DoubleLauncherObstacle → Option Nat × List DoubleLauncherObstacle
  | [] => (none, [])
  | launcher :: rest =>
      let (pays, state) :=
        launcher.bonusState.payBonus (c.touches ⟨.doubleLauncher, launcher.id⟩)
      let launcher := { launcher with bonusState := state }
      if pays then (some launcher.id, launcher :: rest)
      else
        let (paid, rest) := payFirst c rest
        (paid, launcher :: rest)

/-- `collectDoubleLauncherBonus`, and what the scene does with its payout. -/
def collectDoubleLauncherBonus (c : Contacts) : Zone :=
  let (paid, launchers) := payFirst c s.doubleLaunchers
  let s := { s with doubleLaunchers := launchers }
  match paid with
  | some launcher => (s.note (.launcher launcher)).awardPoints 1000 .launcher
  | none => s

-- =================================================================== what hurts

/-- `consumeGuidedMissileHit` with its hit of the player: whether there was
one. -/
def meetMissile (c : Contacts) : Bool × Zone :=
  match s.first .missile fun o => c.hurts ⟨.missile, o.id⟩ with
  | some missile =>
      (true, ((s.destroy ⟨.missile, missile.id⟩).sweep .missile).hitPlayer)
  | none => (false, s)

/-- The loop over the mines; the flag is its early return. -/
def meetMines (c : Contacts) (s : Zone) : List Ref → Bool × Zone
  | [] => (false, s)
  | mine :: rest =>
      if s.alive mine && !s.player.hasExoskeleton && c.touches mine then
        let s := s.destroy mine
        if s.vulnerable then (true, s.hitPlayer) else meetMines c s rest
      else meetMines c s rest

/-- The first creature of a kind the player meets. -/
def meetCreature (c : Contacts) (kind : Kind) (points : Int)
    (reason : Reason) : Bool × Zone :=
  match s.first kind fun o => c.hurts ⟨kind, o.id⟩ with
  | some creature =>
      (true, (((s.destroy ⟨kind, creature.id⟩).note
        (.creature none ⟨kind, creature.id⟩)).awardPoints points
          reason).hitPlayer)
  | none => (false, s)

/-- A piston, a side of a beam field or a hazard of the map strikes. -/
def struck (c : Contacts) : Bool :=
  s.vulnerable
    && ((!s.player.hasExoskeleton && c.pistons.any id)
      || s.forceFields.any (fun side => s.sideActive side
        && c.hurts ⟨.forceField, side.id⟩)
      || c.sourceHazard)

/-- `updateLethalEntities` -/
def updateLethalEntities (c : Contacts) : Zone :=
  let (hit, s) := s.meetMissile c
  if hit && s.player.isDying then s
  else
    let (exploded, s) := meetMines c s (s.refs .mine)
    if exploded then s
    else if s.struck c then s.hitPlayer
    else
      let (popped, s) := s.meetCreature c .bubble 150 .bubble
      if popped then s else (s.meetCreature c .egg 50 .egg).2

-- =============================================================== the step

end Zone

/-- One fixed step: `waits` in a menu, or the game. `fire` and `grenade` are
presses the ammunition allows; `settled` is the player after the death
sequence. -/
inductive Action where
  | waits
  | plays (player settled : Player) (fire grenade : Bool) (c : Contacts)

namespace Zone

variable (s : Zone)

/-- `updateWeapons`: one bullet, two with the exoskeleton, and a grenade
unless one is in flight. -/
def updateWeapons (fire grenade : Bool) : Zone :=
  let s := if fire then
      let s := s.append .bullet .turret
      if s.player.hasExoskeleton then s.append .bullet .turret else s
    else s
  if grenade && (s.objects .grenade).isEmpty then s.append .grenade .turret
  else s

/-- `fixedUpdate`, from the death sequence or the weapons on. -/
def fixedUpdate (player settled : Player) (fire grenade : Bool)
    (c : Contacts) : Zone :=
  let s := if player.isDying then { s with player := settled }
    else { s with player := player }.updateWeapons fire grenade
  let s := (s.updateBullets c).updateGrenades c
  let (shots, s) := s.levelUpdate c
  let s := (s.addShots shots).updateEnemyBullets c
  (s.collectDoubleLauncherBonus c).updateLethalEntities c

def step : Action → Zone
  | .waits => s
  | .plays player settled fire grenade c =>
      s.fixedUpdate player settled fire grenade c

end Zone

end Exolon.Zones

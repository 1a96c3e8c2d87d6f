/-
What a step does from its projectiles to the lethal entities.

All of `meetWorld` comes down to a few things: points are awarded, the
player is hit, the weapons are refilled, and projectiles come and go. What
these keep (`WorldInvariant`), the whole of it keeps.
-/
import Exolon.Scene.Step

namespace Exolon

open Scene

/-- A property of scenes that is kept by what can happen to one. -/
structure WorldInvariant (I : Scene → Prop) : Prop where
  awardPoints : ∀ {s : Scene}, I s → ∀ value, I (s.awardPoints value)
  hitPlayer : ∀ {s : Scene}, I s → I s.hitPlayer
  refillGrenades : ∀ {s : Scene}, I s → I { s with gameState :=
    { s.gameState with grenades := GameState.startingGrenades } }
  refillAmmo : ∀ {s : Scene}, I s → I { s with gameState :=
    { s.gameState with ammo := GameState.startingAmmo } }
  shots : ∀ {s : Scene}, I s → ∀ bullets enemyBullets,
    ∀ grenades ≤ s.grenades, I { s with
      bullets := bullets
      grenades := grenades
      enemyBullets := enemyBullets }

theorem awardPoints_grenades (s : Scene) (value : Int) :
    (s.awardPoints value).grenades = s.grenades := by
  unfold Scene.awardPoints
  split
  · simp only
    split
    · rfl
    · rfl
  · rfl

namespace WorldInvariant

variable {I : Scene → Prop} {s : Scene}

-- ------------------------------------------------------------ projectiles

theorem updateBullets (h : WorldInvariant I) (hs : I s)
    (around : Surroundings) : I (s.updateBullets around) := by
  have hfold (fates : List BulletFate) : ∀ {t : Scene}, I t →
      I (fates.foldl updateBullet t) := by
    induction fates with
    | nil => exact fun ht => ht
    | cons fate rest ih => exact fun ht => ih (h.awardPoints ht fate.points)
  exact h.shots (hfold _ hs) _ _ _ le_rfl

theorem updateGrenades (h : WorldInvariant I) (hs : I s)
    (around : Surroundings) : I (s.updateGrenades around) := by
  have hfold (fates : List GrenadeFate) : ∀ {t : Scene}, I t →
      I (fates.foldl updateGrenade t)
        ∧ (fates.foldl updateGrenade t).grenades = t.grenades := by
    induction fates with
    | nil => exact fun ht => ⟨ht, rfl⟩
    | cons fate rest ih =>
        intro t ht
        obtain ⟨hrest, hcount⟩ := ih (h.awardPoints ht fate.points)
        exact ⟨hrest, hcount.trans (awardPoints_grenades t _)⟩
  obtain ⟨hfolded, hcount⟩ := hfold
    ((List.range s.grenades).map around.grenade) hs
  refine h.shots hfolded _ _ _ ?_
  have hle := List.countP_le_length (p := GrenadeFate.alive)
    (l := (List.range s.grenades).map around.grenade)
  rw [List.length_map, List.length_range] at hle
  exact hle.trans hcount.ge

theorem updateEnemyBullets (h : WorldInvariant I) (hs : I s)
    (around : Surroundings) : I (s.updateEnemyBullets around) := by
  have hfold (fates : List EnemyBulletFate) : ∀ {r : Scene × Nat}, I r.1 →
      I (fates.foldl updateEnemyBullet r).1 := by
    induction fates with
    | nil => exact fun hr => hr
    | cons fate rest ih =>
        intro r hr
        apply ih
        unfold updateEnemyBullet
        cases fate with
        | flies => exact hr
        | gone => exact hr
        | meetsPlayer =>
            simp only
            split
            · exact h.hitPlayer hr
            · exact hr
  exact h.shots (hfold _ (r := (s, 0)) hs) _ _ _ le_rfl

-- ------------------------------------------------------- pickups and bonus

theorem updatePickups (h : WorldInvariant I) (hs : I s)
    (around : Surroundings) : I (s.updatePickups around) := by
  have hgrenades : I (s.collectGrenades around.grenadePacks) := by
    unfold collectGrenades
    split
    · exact h.refillGrenades hs
    · exact hs
  unfold Scene.updatePickups collectAmmo
  split
  · exact h.refillAmmo hgrenades
  · exact hgrenades

theorem collectDoubleLauncherBonus (h : WorldInvariant I) (hs : I s)
    (around : Surroundings) : I (s.collectDoubleLauncherBonus around) := by
  unfold Scene.collectDoubleLauncherBonus
  split
  · exact h.awardPoints hs _
  · exact hs

-- -------------------------------------------------------- lethal entities

theorem updateMines (h : WorldInvariant I) (hs : I s) (mines : List Bool) :
    I (s.updateMines mines).1 := by
  induction mines with
  | nil => exact hs
  | cons triggered rest ih =>
      unfold Scene.updateMines
      split
      · exact h.hitPlayer hs
      · exact ih

theorem updatePistons (h : WorldInvariant I) (hs : I s)
    (pistons : List Bool) : I (s.updatePistons pistons).1 := by
  induction pistons with
  | nil => exact hs
  | cons meets rest ih =>
      unfold Scene.updatePistons
      split
      · exact h.hitPlayer hs
      · exact ih

theorem touchCreature (h : WorldInvariant I) (hs : I s)
    (around : Surroundings) : I (s.touchCreature around) := by
  unfold Scene.touchCreature
  split
  · exact h.hitPlayer (h.awardPoints hs _)
  split
  · exact h.hitPlayer (h.awardPoints hs _)
  · exact hs

theorem meetHazards (h : WorldInvariant I) (hs : I s)
    (around : Surroundings) : I (s.meetHazards around) := by
  have hmined := h.updateMines hs around.mines
  have hcrushed := h.updatePistons hs around.pistons
  unfold Scene.meetHazards
  simp only
  split
  · exact hmined
  split
  · exact hcrushed
  split
  · exact h.hitPlayer hs
  split
  · exact h.hitPlayer hs
  · exact h.touchCreature hs around

theorem updateLethalEntities (h : WorldInvariant I) (hs : I s)
    (around : Surroundings) : I (s.updateLethalEntities around) := by
  have hmissile : I (s.meetMissile around) := by
    unfold Scene.meetMissile
    split
    · exact h.hitPlayer hs
    · exact hs
  unfold Scene.updateLethalEntities
  simp only
  split
  · exact hmissile
  · exact h.meetHazards hmissile around

/-- From the projectiles to the lethal entities. -/
theorem meetWorld (h : WorldInvariant I) (hs : I s) (around : Surroundings) :
    I (s.meetWorld around) := by
  have hprojectiles := h.updateGrenades (h.updateBullets hs around) around
  have hshots := h.shots hprojectiles
    ((s.updateBullets around).updateGrenades around).bullets
    (((s.updateBullets around).updateGrenades around).enemyBullets
      + around.newShots) _ le_rfl
  have hbullets := h.updateEnemyBullets hshots around
  have hpickups := h.updatePickups hbullets around
  exact h.updateLethalEntities (h.collectDoubleLauncherBonus hpickups around)
    around

end WorldInvariant

end Exolon

/-
The port's player among the tiles.

`updatePlayer` moves the player, clamps the new place to the level, and
pushes the box out of every solid tile it overlaps there. All tiles are
tested from that one place, and each push sets one coordinate. The numbers
are exact.

# The side of a push

A push is meant to go out on the shallowest axis. It goes out on the far
side of it: a box that has entered a tile from above is set below it. So a
push is the smallest one only where both sides of its axis are equally
deep, and the update separates the player from the tiles exactly where it
lands clear of them, with that one exception (`separated_iff_lands`). The
clamp keeps the corner of the box in the level as if it were its centre.
-/
import Exolon.Port.InputManager

namespace Exolon.Port

-- =================================================================== tiles

structure Vec2 where
  x : Rat
  y : Rat
  deriving DecidableEq, Repr

inductive TileType where
  | empty | solid | destroyable | turret | mine | teleport | ammoBox
  | grenadeBox | sphereHome | pump | rocketLauncher | changingRoom | beacon
  | forceField | stageEnd | torch | flashing | gate
  deriving DecidableEq, Repr

structure Tile where
  type : TileType
  x : Rat
  y : Rat
  w : Rat
  h : Rat

namespace Tile

def isSolid (t : Tile) : Bool :=
  t.type = .solid || t.type = .destroyable || t.type = .turret
    || t.type = .pump || t.type = .forceField

/-- The player's box, 16 by 32 and centred at `p`, overlaps the tile. -/
def overlaps (t : Tile) (p : Vec2) : Bool :=
  p.x + 8 > t.x && p.x - 8 < t.x + t.w && p.y + 16 > t.y
    && p.y - 16 < t.y + t.h

def overlapL (t : Tile) (p : Vec2) : Rat := p.x + 8 - t.x
def overlapR (t : Tile) (p : Vec2) : Rat := t.x + t.w - (p.x - 8)
def overlapT (t : Tile) (p : Vec2) : Rat := p.y + 16 - t.y
def overlapB (t : Tile) (p : Vec2) : Rat := t.y + t.h - (p.y - 16)

def overlapMin (t : Tile) (p : Vec2) : Rat :=
  min (min (t.overlapL p) (t.overlapR p)) (min (t.overlapT p) (t.overlapB p))

end Tile

/-- A push sets one coordinate. -/
inductive Push where
  | x (value : Rat)
  | y (value : Rat)

def Push.apply (p : Vec2) : Push → Vec2
  | .x value => { p with x := value }
  | .y value => { p with y := value }

namespace Tile

/-- Push out on the shallowest axis, as the port does it. -/
def push (t : Tile) (p : Vec2) : Push :=
  if t.overlapMin p = t.overlapT p then .y (t.y + t.h + 16)
  else if t.overlapMin p = t.overlapB p then .y (t.y - 16)
  else if t.overlapMin p = t.overlapL p then .x (t.x + t.w + 8)
  else .x (t.x - 8)

/-- The push of a tile, if it is solid and overlapped. -/
def push? (t : Tile) (p : Vec2) : Option Push :=
  if t.isSolid && t.overlaps p then some (t.push p) else none

end Tile

/-- Every tile is tested from the one place the player moved to. -/
def resolveTileCollision (tiles : List (List Tile)) (p : Vec2) : Vec2 :=
  (tiles.flatten.filterMap (·.push? p)).foldl Push.apply p

-- ============================================================== the player

/-- The player with its place. -/
structure PlacedPlayer extends PlayerState where
  position : Vec2
  velocity : Vec2 := ⟨0, 0⟩
  facingLeft : Bool := false

namespace PlacedPlayer

/-- The horizontal step of an input. -/
def stride (input : InputState) : Rat :=
  (if input.held .left then -3 else 0) + (if input.held .right then 3 else 0)

/-- The vertical step after gravity, up to the terminal one. -/
def fall (vy : Rat) : Rat := min 8 (vy + 1 / 4)

/-- Where the player moves to, clamped to the level. -/
def moved (p : PlacedPlayer) (input : InputState)
    (levelWidth levelHeight : Rat) : Vec2 where
  x := max 0 (min (levelWidth - 16) (p.position.x + stride input))
  y := max 0 (min (levelHeight - 32) (p.position.y + fall p.velocity.y))

def update (p : PlacedPlayer) (input : InputState)
    (tiles : List (List Tile)) (levelWidth levelHeight dtMs : Rat) :
    PlacedPlayer :=
  if !p.alive then p
  else
    { toPlayerState := p.toPlayerState.updatePlayer dtMs
      position :=
        resolveTileCollision tiles (p.moved input levelWidth levelHeight)
      velocity := { p.velocity with y := fall p.velocity.y }
      facingLeft := decide (stride input < 0) }

/-- What the composed game keeps of the player is updated as there. -/
theorem update_state (p : PlacedPlayer) (input : InputState)
    (tiles : List (List Tile)) (levelWidth levelHeight dtMs : Rat) :
    (p.update input tiles levelWidth levelHeight dtMs).toPlayerState
      = p.toPlayerState.updatePlayer dtMs := by
  unfold update PlayerState.updatePlayer
  cases h : p.alive with
  | false => simp
  | true => simp

end PlacedPlayer

-- ============================================================ what it is for

/-- A grid of tiles, each at its column and row times the tile size. -/
structure Grid where
  tileWidth : Rat
  tileHeight : Rat
  types : List (List TileType)
  width_pos : 0 < tileWidth
  height_pos : 0 < tileHeight

namespace Grid

def tile (g : Grid) (row col : Nat) (type : TileType) : Tile where
  type := type
  x := col * g.tileWidth
  y := row * g.tileHeight
  w := g.tileWidth
  h := g.tileHeight

def tiles (g : Grid) : List (List Tile) :=
  g.types.mapIdx fun row types =>
    types.mapIdx fun col type => g.tile row col type

/-- The solid tiles of the grid. -/
def solids (g : Grid) : List Tile := g.tiles.flatten.filter Tile.isSolid

/-- The box overlaps no solid tile. -/
def Free (g : Grid) (p : Vec2) : Prop :=
  ∀ t ∈ g.solids, t.overlaps p = false

end Grid

/-- The box lies in the level. -/
def InLevel (levelWidth levelHeight : Rat) (p : Vec2) : Prop :=
  8 ≤ p.x ∧ p.x + 8 ≤ levelWidth ∧ 16 ≤ p.y ∧ p.y + 16 ≤ levelHeight

/-- The push moves the box out of the tile by the smallest overlap, back to
the side it was on before. -/
def Tile.Separates (t : Tile) (before after : Vec2) : Push → Prop
  | .x value =>
      (before.x + 8 ≤ t.x ∧ value = after.x - t.overlapMin after)
        ∨ (t.x + t.w ≤ before.x - 8 ∧ value = after.x + t.overlapMin after)
  | .y value =>
      (before.y + 16 ≤ t.y ∧ value = after.y - t.overlapMin after)
        ∨ (t.y + t.h ≤ before.y - 16
          ∧ value = after.y + t.overlapMin after)

namespace PlacedPlayer

variable (p : PlacedPlayer) (input : InputState) (g : Grid)
  (levelWidth levelHeight dtMs : Rat)

/-- A player that is free in the level stays so, and each push is the
smallest one, back to where it came from. -/
def Separated : Prop :=
  g.Free p.position → InLevel levelWidth levelHeight p.position →
    let after := p.update input g.tiles levelWidth levelHeight dtMs
    g.Free after.position ∧ InLevel levelWidth levelHeight after.position
      ∧ (p.alive = true → ∀ t ∈ g.solids,
        let place := p.moved input levelWidth levelHeight
        t.overlaps place = true →
          t.Separates p.position place (t.push place))

/-- The tile is as deep from above as from below, and no deeper than from
the sides. -/
def Level (t : Tile) (place : Vec2) : Prop :=
  t.overlapT place = t.overlapB place
    ∧ t.overlapT place ≤ t.overlapL place
    ∧ t.overlapT place ≤ t.overlapR place

/-- Where the box may end: where it moved to, if that is free; below the
tiles it moved into, if it is level with all of them. -/
def Lands : Prop :=
  p.alive = true →
    let place := p.moved input levelWidth levelHeight
    (g.Free place ∧ InLevel levelWidth levelHeight place)
      ∨ (¬g.Free place
        ∧ (∀ t ∈ g.solids, t.overlaps place = true → Level t place)
        ∧ g.Free { place with y := place.y + g.tileHeight / 2 + 16 }
        ∧ InLevel levelWidth levelHeight
          { place with y := place.y + g.tileHeight / 2 + 16 })

-- ================================================================ the move

section Move

variable {p g levelWidth levelHeight}

theorem stride_bounds :
    -3 ≤ stride input ∧ stride input ≤ 3 := by
  unfold stride
  split <;> split <;> constructor <;> norm_num

/-- A step to the right, or back by the clamp. -/
theorem moved_x (h : InLevel levelWidth levelHeight p.position) :
    p.position.x - 8 ≤ (p.moved input levelWidth levelHeight).x
      ∧ (p.moved input levelWidth levelHeight).x ≤ p.position.x + 3 := by
  obtain ⟨hleft, hright, _, _⟩ := h
  obtain ⟨hlow, hhigh⟩ := stride_bounds input
  constructor
  · apply le_max_of_le_right
    apply le_min
    · linarith
    · linarith
  · apply max_le
    · linarith
    · exact (min_le_right _ _).trans (by linarith)

theorem moved_y (h : InLevel levelWidth levelHeight p.position) :
    (p.moved input levelWidth levelHeight).y ≤ p.position.y + 8 := by
  have htop := h.2.2.1
  have hfall : fall p.velocity.y ≤ 8 := min_le_left _ _
  apply max_le
  · linarith
  · exact (min_le_right _ _).trans (by linarith)

theorem mem_solids {t : Tile} (h : t ∈ g.solids) :
    t.w = g.tileWidth ∧ t.h = g.tileHeight := by
  have htiles := List.mem_of_mem_filter h
  unfold Grid.tiles at htiles
  obtain ⟨row, hrow, ht⟩ := List.mem_flatten.mp htiles
  obtain ⟨i, hi, rfl⟩ := List.mem_mapIdx.mp hrow
  obtain ⟨j, hj, rfl⟩ := List.mem_mapIdx.mp ht
  exact ⟨rfl, rfl⟩

end Move

-- ================================================================ one push

section OnePush

variable {t : Tile} {before place : Vec2}

theorem overlaps_iff : t.overlaps place = true ↔
    0 < t.overlapL place ∧ 0 < t.overlapR place ∧ 0 < t.overlapT place
      ∧ 0 < t.overlapB place := by
  unfold Tile.overlaps Tile.overlapL Tile.overlapR Tile.overlapT
    Tile.overlapB
  simp only [Bool.and_eq_true, decide_eq_true_eq]
  constructor
  · rintro ⟨⟨⟨hl, hr⟩, ht⟩, hb⟩
    exact ⟨by linarith, by linarith, by linarith, by linarith⟩
  · rintro ⟨hl, hr, ht, hb⟩
    exact ⟨⟨⟨by linarith, by linarith⟩, by linarith⟩, by linarith⟩

/-- A box that does not overlap a tile is on one side of it. -/
theorem beside_of_free (h : t.overlaps before = false) :
    before.x + 8 ≤ t.x ∨ t.x + t.w ≤ before.x - 8
      ∨ before.y + 16 ≤ t.y ∨ t.y + t.h ≤ before.y - 16 := by
  by_contra hnone
  push Not at hnone
  obtain ⟨hl, hr, ht, hb⟩ := hnone
  have hoverlap : t.overlaps before = true := by
    unfold Tile.overlaps
    simp [hl, hr, ht, hb]
  rw [hoverlap] at h
  cases h

theorem overlapMin_le (t : Tile) (place : Vec2) :
    t.overlapMin place ≤ t.overlapL place
      ∧ t.overlapMin place ≤ t.overlapR place
      ∧ t.overlapMin place ≤ t.overlapT place
      ∧ t.overlapMin place ≤ t.overlapB place := by
  unfold Tile.overlapMin
  simp

theorem overlapMin_pos (h : t.overlaps place = true) :
    0 < t.overlapMin place := by
  obtain ⟨hl, hr, ht, hb⟩ := overlaps_iff.mp h
  exact lt_min (lt_min hl hr) (lt_min ht hb)

/-- The overlap of an axis is the box and the tile together. -/
theorem overlap_sum (t : Tile) (place : Vec2) :
    t.overlapL place + t.overlapR place = t.w + 16
      ∧ t.overlapT place + t.overlapB place = t.h + 32 := by
  unfold Tile.overlapL Tile.overlapR Tile.overlapT Tile.overlapB
  constructor <;> ring

/-- Only from below is a level tile entered this deep. -/
theorem below_of_level (hfree : t.overlaps before = false)
    (hheight : 0 < t.h) (hx : before.x - 8 ≤ place.x)
    (hx' : place.x ≤ before.x + 3) (hy : place.y ≤ before.y + 8)
    (hlevel : Level t place) : t.y + t.h ≤ before.y - 16 := by
  obtain ⟨hsame, hl, hr⟩ := hlevel
  have hsum := (overlap_sum t place).2
  unfold Tile.overlapT Tile.overlapB Tile.overlapL Tile.overlapR at *
  rcases beside_of_free hfree with h | h | h | h
  · linarith
  · linarith
  · linarith
  · exact h

/-- The push out of a level tile. -/
theorem push_of_level (hlevel : Level t place) :
    t.push place = .y (t.y + t.h + 16)
      ∧ t.overlapMin place = t.overlapB place := by
  obtain ⟨hsame, hl, hr⟩ := hlevel
  have hmin : t.overlapMin place = t.overlapT place := by
    apply le_antisymm (overlapMin_le t place).2.2.1
    exact le_min (le_min hl hr) (le_min le_rfl hsame.le)
  refine ⟨?_, hmin.trans hsame⟩
  unfold Tile.push
  rw [if_pos hmin]

/-- A push is the smallest one, back to where the box came from, exactly
when the tile is level. -/
theorem separates_iff_level (hfree : t.overlaps before = false)
    (hwidth : 0 < t.w) (hheight : 0 < t.h) (hx : before.x - 8 ≤ place.x)
    (hx' : place.x ≤ before.x + 3) (hy : place.y ≤ before.y + 8)
    (hoverlap : t.overlaps place = true) :
    t.Separates before place (t.push place) ↔ Level t place := by
  have hmin := overlapMin_pos hoverlap
  obtain ⟨hl, hr, ht, hb⟩ := overlapMin_le t place
  obtain ⟨hsumx, hsumy⟩ := overlap_sum t place
  constructor
  · intro h
    unfold Tile.push at h
    split at h
    case isTrue heq =>
      -- out below: only what came from below may go there
      rcases h with ⟨_, hvalue⟩ | ⟨_, hvalue⟩
      · unfold Tile.overlapT Tile.overlapB at *
        linarith
      · have hsame : t.overlapT place = t.overlapB place := by
          rw [← heq]
          unfold Tile.overlapB
          linarith
        refine ⟨hsame, ?_, ?_⟩
        · rw [← heq]
          exact hl
        · rw [← heq]
          exact hr
    case isFalse hnot =>
      split at h
      case isTrue heq =>
        exfalso
        rcases h with ⟨_, hvalue⟩ | ⟨_, hvalue⟩
        · apply hnot
          unfold Tile.overlapT
          linarith
        · unfold Tile.overlapT Tile.overlapB at *
          linarith
      case isFalse hnot' =>
        split at h
        case isTrue heq =>
          exfalso
          rcases h with ⟨_, hvalue⟩ | ⟨hside, hvalue⟩
          · unfold Tile.overlapL Tile.overlapR at *
            linarith
          · unfold Tile.overlapL Tile.overlapR at *
            linarith
        case isFalse hnot'' =>
          exfalso
          rcases h with ⟨_, hvalue⟩ | ⟨_, hvalue⟩
          · apply hnot''
            unfold Tile.overlapL
            linarith
          · unfold Tile.overlapL Tile.overlapR at *
            linarith
  · intro hlevel
    obtain ⟨hpush, hsame⟩ := push_of_level hlevel
    rw [hpush]
    right
    refine ⟨below_of_level hfree hheight hx hx' hy hlevel, ?_⟩
    rw [hsame]
    unfold Tile.overlapB
    ring

end OnePush

-- ============================================================== all pushes

section Pushes

variable {g} {place : Vec2}

theorem foldl_push {pushes : List Push} {value : Rat}
    (h : ∀ push ∈ pushes, push = .y value) :
    pushes.foldl Push.apply place
      = if pushes = [] then place else { place with y := value } := by
  induction pushes generalizing place with
  | nil => rfl
  | cons push rest ih =>
      rw [List.forall_mem_cons] at h
      rw [List.foldl_cons, ih h.2, h.1, if_neg (List.cons_ne_nil _ _)]
      by_cases hrest : rest = []
      · rw [if_pos hrest]
        rfl
      · rw [if_neg hrest]
        rfl

theorem mem_pushes {push : Push} :
    push ∈ g.tiles.flatten.filterMap (·.push? place)
      ↔ ∃ t ∈ g.solids, t.overlaps place = true ∧ t.push place = push := by
  unfold Grid.solids Tile.push?
  simp only [List.mem_filterMap, List.mem_filter,
    Option.ite_none_right_eq_some, Bool.and_eq_true, Option.some.injEq]
  constructor
  · rintro ⟨t, ht, ⟨hsolid, hoverlap⟩, hpush⟩
    exact ⟨t, ⟨ht, hsolid⟩, hoverlap, hpush⟩
  · rintro ⟨t, ⟨ht, hsolid⟩, hoverlap, hpush⟩
    exact ⟨t, ht, ⟨hsolid, hoverlap⟩, hpush⟩

theorem pushes_eq_nil :
    g.tiles.flatten.filterMap (·.push? place) = [] ↔ g.Free place := by
  rw [List.eq_nil_iff_forall_not_mem]
  constructor
  · intro h t ht
    cases hoverlap : t.overlaps place with
    | false => rfl
    | true => exact absurd (mem_pushes.mpr ⟨t, ht, hoverlap, rfl⟩) (h _)
  · intro h push hpush
    obtain ⟨t, ht, hoverlap, _⟩ := mem_pushes.mp hpush
    rw [h t ht] at hoverlap
    cases hoverlap

theorem resolve_free (h : g.Free place) :
    resolveTileCollision g.tiles place = place := by
  unfold resolveTileCollision
  rw [pushes_eq_nil.mpr h]
  rfl

/-- Tiles that are all level with the box are in one row, and it is put
below them. -/
theorem resolve_level (hnot : ¬g.Free place)
    (h : ∀ t ∈ g.solids, t.overlaps place = true → Level t place) :
    resolveTileCollision g.tiles place
      = { place with y := place.y + g.tileHeight / 2 + 16 } := by
  have hpushes : ∀ push ∈ g.tiles.flatten.filterMap (·.push? place),
      push = .y (place.y + g.tileHeight / 2 + 16) := by
    intro push hpush
    obtain ⟨t, ht, hoverlap, rfl⟩ := mem_pushes.mp hpush
    have hlevel := h t ht hoverlap
    rw [(push_of_level hlevel).1, ← (mem_solids ht).2]
    have hsame := hlevel.1
    unfold Tile.overlapT Tile.overlapB at hsame
    congr 1
    linarith
  unfold resolveTileCollision
  rw [foldl_push hpushes,
    if_neg (fun hnil => hnot (pushes_eq_nil.mp hnil))]

end Pushes

/-- The update separates the player from the tiles exactly where the box
may end: where it moved to, if that is free and in the level, or below the
one row of tiles it is level with. -/
theorem separated_iff_lands :
    p.Separated input g levelWidth levelHeight dtMs
      ↔ (g.Free p.position → InLevel levelWidth levelHeight p.position →
        p.Lands input g levelWidth levelHeight) := by
  unfold Separated Lands
  refine imp_congr_right fun hfree => imp_congr_right fun hlevel => ?_
  cases halive : p.alive with
  | false =>
      have hsame : p.update input g.tiles levelWidth levelHeight dtMs = p := by
        unfold update
        rw [halive]
        rfl
      rw [hsame]
      simp [hfree, hlevel]
  | true =>
      have hplace : (p.update input g.tiles levelWidth levelHeight
          dtMs).position = resolveTileCollision g.tiles
            (p.moved input levelWidth levelHeight) := by
        unfold update
        rw [halive]
        rfl
      obtain ⟨hx, hx'⟩ := moved_x input hlevel
      have hy := moved_y input hlevel
      have hpush (t : Tile) (ht : t ∈ g.solids)
          (hoverlap : t.overlaps (p.moved input levelWidth levelHeight)
            = true) := by
        obtain ⟨hw, hh⟩ := mem_solids ht
        exact separates_iff_level (hfree t ht) (hw ▸ g.width_pos)
          (hh ▸ g.height_pos) hx hx' hy hoverlap
      dsimp only
      rw [hplace]
      simp only [forall_const]
      constructor
      · rintro ⟨hend, hin, hall⟩
        by_cases hmoved : g.Free (p.moved input levelWidth levelHeight)
        · rw [resolve_free hmoved] at hin
          exact .inl ⟨hmoved, hin⟩
        · have hlevels : ∀ t ∈ g.solids,
              t.overlaps (p.moved input levelWidth levelHeight) = true →
                Level t (p.moved input levelWidth levelHeight) := by
            intro t ht hoverlap
            exact (hpush t ht hoverlap).mp (hall t ht hoverlap)
          rw [resolve_level hmoved hlevels] at hend hin
          exact .inr ⟨hmoved, hlevels, hend, hin⟩
      · rintro (⟨hmoved, hin⟩ | ⟨hmoved, hlevels, hend, hin⟩)
        · rw [resolve_free hmoved]
          refine ⟨hmoved, hin, ?_⟩
          intro t ht hoverlap
          rw [hmoved t ht] at hoverlap
          cases hoverlap
        · rw [resolve_level hmoved hlevels]
          refine ⟨hend, hin, ?_⟩
          intro t ht hoverlap
          exact (hpush t ht hoverlap).mpr (hlevels t ht hoverlap)

/-- A floor under three rows of air, in tiles of 25 by 30. -/
def floorGrid : Grid where
  tileWidth := 25
  tileHeight := 30
  types := List.replicate 3 (List.replicate 4 .empty)
    ++ [List.replicate 4 .solid]
  width_pos := by norm_num
  height_pos := by norm_num

/-- A player that stands on the floor. -/
def standing : PlacedPlayer where
  position := ⟨50, 74⟩

/-- One step of gravity, and the player is below the floor. -/
theorem not_separated_standing :
    (standing.update {} floorGrid.tiles 100 120 (50 / 3)).position = ⟨50, 136⟩
      ∧ ¬standing.Separated {} floorGrid 100 120 (50 / 3) := by
  have hplace : (standing.update {} floorGrid.tiles 100 120
      (50 / 3)).position = ⟨50, 136⟩ := by decide +kernel
  refine ⟨hplace, ?_⟩
  intro h
  have hfree : floorGrid.Free standing.position := by
    unfold Grid.Free
    decide +kernel
  have hstands : InLevel 100 120 standing.position := by
    unfold InLevel
    decide +kernel
  obtain ⟨_, hlevel, _⟩ := h hfree hstands
  rw [hplace] at hlevel
  revert hlevel
  unfold InLevel
  decide +kernel

end PlacedPlayer

end Exolon.Port

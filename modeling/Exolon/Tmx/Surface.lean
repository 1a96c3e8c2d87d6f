/-
The collision layer of a map, and the ground derived from it.

`TMXSurfaceQuery` has the solid cells of the layer; the rectangles, the
ground under a span and the correction of the spawn are read from them.
`none` is a trap: a range that ends before it starts, or an index behind
the last cell.

`spawn_corrected` is the correction: never more than one tile, a place
that is clear of solid cells where there is one, the nearest one of those.
-/
import Exolon.GameConstants
import Exolon.Lib.Optimum
import Exolon.Lib.Sorting
import Exolon.Tmx.Map

namespace Exolon.Tmx

structure SolidCell where
  x0 : Rat
  x1 : Rat
  top : Rat
  deriving DecidableEq

structure TMXSurfaceQuery where
  cells : List SolidCell
  tileHeight : Rat

/-- `lowercased()`, of the letters a layer's name is compared with. -/
def lowercased (s : String) : String := s.map Char.toLower

namespace TMXMapData

variable (m : TMXMapData)

/-- The layer a query reads. -/
def collisionLayer : Option TMXLayer :=
  m.layers.find? fun l => lowercased l.name == "collision"

/-- The cell of a column, where it is solid. -/
def columnCell (collision : TMXLayer) (row column : Int) :
    Option (List SolidCell) := do
  let top := m.pixelHeight - (row * m.tileHeight : Int)
  let base := row * collision.width
  let gid ← subscript collision.gids (base + column)
  return if gid &&& 0x1FFFFFFF ≠ 0 then
    [⟨(column * m.tileWidth : Int), ((column + 1) * m.tileWidth : Int), top⟩]
  else []

/-- The solid cells of a row. -/
def rowCells (collision : TMXLayer) (row : Int) : Option (List SolidCell) :=
  do
  let columns ← upTo collision.width
  let found ← columns.mapM (m.columnCell collision row)
  return found.flatten

/-- `TMXSurfaceQuery(map:)` -/
def surfaceQuery : Option TMXSurfaceQuery :=
  match m.collisionLayer with
  | none => some ⟨[], m.tileHeight⟩
  | some collision =>
      if collision.gids.length = collision.width * collision.height then do
        let rows ← upTo collision.height
        let built ← rows.mapM (m.rowCells collision)
        return ⟨built.flatten, m.tileHeight⟩
      else some ⟨[], m.tileHeight⟩

end TMXMapData

namespace TMXSurfaceQuery

variable (q : TMXSurfaceQuery)

/-- `fallbackPlaneY` -/
def fallbackPlaneY : Rat :=
  (q.cells.map SolidCell.top).min?.getD GameConstants.defaultGroundY

/-- `groundY(x0:x1:atOrBelow:)` -/
def groundY (x0 x1 limitY : Rat) : Rat :=
  let best := q.cells.foldl (fun best cell =>
    if cell.top ≤ limitY ∧ cell.x0 < x1 ∧ cell.x1 > x0 then
      match best with
      | none => some cell.top
      | some b => if cell.top > b then some cell.top else some b
    else best) none
  best.getD q.fallbackPlaneY

/-- The tops of some cells, each of them once. -/
def distinctTops (cells : List SolidCell) : List Rat :=
  cells.foldl (fun tops cell =>
    if tops.contains cell.top then tops else tops ++ [cell.top]) []

/-- `surfaceTops(x0:x1:)` -/
def surfaceTops (x0 x1 : Rat) : List Rat :=
  sortedBy id (distinctTops (q.cells.filter fun cell =>
    cell.x0 < x1 ∧ cell.x1 > x0))

/-- The variables of the loop in `boundedSurfaceY`; a distance of `none`
is larger than any other one. -/
structure Nearest where
  clearBest : Option Rat := none
  clearDistance : Option Rat := none
  anyBest : Option Rat := none
  anyDistance : Option Rat := none

/-- `distance < d || (distance == d && top < best!)` -/
def closer (distance top : Rat) : Option Rat → Option Rat → Bool
  | some d, some best => distance < d || (distance == d && top < best)
  | _, _ => true

/-- The body of the loop. -/
def Nearest.step (y halfWindow : Rat) (isClear : Rat → Bool) (s : Nearest)
    (top : Rat) : Nearest :=
  let distance := |top - y|
  if distance ≤ halfWindow then
    let s :=
      if closer distance top s.anyDistance s.anyBest then
        { s with anyBest := some top, anyDistance := some distance }
      else s
    if isClear top
        && closer distance top s.clearDistance s.clearBest then
      { s with clearBest := some top, clearDistance := some distance }
    else s
  else s

/-- `clearBest ?? anyBest` -/
def Nearest.answer (s : Nearest) : Option Rat :=
  match s.clearBest with
  | some best => some best
  | none => s.anyBest

/-- `boundedSurfaceY` -/
def boundedSurfaceY (x0 x1 y halfWindow bodyX0 bodyX1 bodyHeight : Rat) :
    Option Rat :=
  let bodyTops := q.surfaceTops bodyX0 bodyX1
  let isClear top := !bodyTops.any fun t =>
    t > top ∧ t - q.tileHeight < top + bodyHeight
  ((q.surfaceTops x0 x1).foldl
    (Nearest.step y halfWindow isClear) {}).answer

/-- `collisionRects`: the runs of a row, with the run `run` open. -/
def rowRects (run : SolidCell) : List SolidCell → List CGRect
  | [] => [⟨run.x0, run.top - q.tileHeight, run.x1 - run.x0, q.tileHeight⟩]
  | cell :: rest =>
      if cell.x0 = run.x1 then rowRects { run with x1 := cell.x1 } rest
      else ⟨run.x0, run.top - q.tileHeight, run.x1 - run.x0, q.tileHeight⟩
        :: rowRects cell rest

/-- `collisionRects` -/
def collisionRects : List CGRect :=
  (sortedBy OrderDual.toDual (distinctTops q.cells)).flatMap fun top =>
    match sortedBy SolidCell.x0 (q.cells.filter fun c => c.top = top) with
    | [] => []
    | run :: rest => q.rowRects run rest

end TMXSurfaceQuery

/-- `resolvedPlayerBottom(using:)` -/
def TMXMapData.resolvedPlayerBottom (m : TMXMapData) (q : TMXSurfaceQuery) :
    CGPoint :=
  match m.object "vitorc" with
  | none => ⟨0, GameConstants.defaultGroundY⟩
  | some playerObject =>
      let marker := m.worldBottomLeft playerObject
      let centerX := marker.x + GameConstants.playerSpriteSize.width * (1 / 2)
      let halfBody := GameConstants.playerStandingMovementSize.width * (1 / 2)
      let inset := GameConstants.footSupportHorizontalInset
      let feet := q.boundedSurfaceY (centerX - halfBody + inset)
        (centerX + halfBody - inset) marker.y m.tileHeight
        (centerX - halfBody) (centerX + halfBody)
        GameConstants.playerStandingMovementSize.height
      ⟨marker.x, feet.getD marker.y⟩

-- ======================================================== the tops of cells

namespace TMXSurfaceQuery

theorem mem_distinctTops {cells : List SolidCell} {t : Rat} :
    t ∈ distinctTops cells ↔ ∃ c ∈ cells, c.top = t := by
  induction cells using List.reverseRecOn with
  | nil => simp [distinctTops]
  | append_singleton cells c ih =>
      unfold distinctTops at ih ⊢
      rw [List.foldl_concat]
      simp only [List.mem_append, List.mem_singleton, or_and_right,
        exists_or, exists_eq_left]
      split
      · rename_i h
        rw [ih]
        constructor
        · exact Or.inl
        · rintro (hold | rfl)
          · exact hold
          · exact ih.mp (List.contains_iff_mem.mp h)
      · rw [List.mem_append, ih, List.mem_singleton, eq_comm (a := t)]

theorem nodup_distinctTops (cells : List SolidCell) :
    (distinctTops cells).Nodup := by
  induction cells using List.reverseRecOn with
  | nil => exact List.nodup_nil
  | append_singleton cells c ih =>
      unfold distinctTops at ih ⊢
      rw [List.foldl_concat]
      split
      · exact ih
      · rename_i h
        rw [List.contains_iff_mem] at h
        rw [List.nodup_append]
        refine ⟨ih, List.nodup_singleton _, ?_⟩
        intro a ha b hb hab
        rw [List.mem_singleton] at hb
        rw [hab, hb] at ha
        exact h ha

/-- A cell over a span. -/
def Spans (x0 x1 : Rat) (c : SolidCell) : Prop := c.x0 < x1 ∧ c.x1 > x0

variable {q : TMXSurfaceQuery}

theorem mem_surfaceTops {x0 x1 t : Rat} :
    t ∈ q.surfaceTops x0 x1 ↔ ∃ c ∈ q.cells, Spans x0 x1 c ∧ c.top = t := by
  rw [surfaceTops, mem_sortedBy, mem_distinctTops]
  simp only [List.mem_filter, decide_eq_true_eq, and_assoc, Spans]

-- ========================================================== the correction

section Correction

variable {y halfWindow : Rat} {isClear : Rat → Bool} {tops : List Rat}

/-- Nearer to `y`, the lower one of two that are as near. -/
def nearness (y t : Rat) : Rat ×ₗ Rat := toLex (|t - y|, t)

def inWindow (y halfWindow t : Rat) : Bool := |t - y| ≤ halfWindow

theorem closer_iff (y : Rat) (best : Option Rat) (t : Rat) :
    (if closer |t - y| t (best.map fun b => |b - y|) best then some t
      else best) = keepLeast (nearness y) best t := by
  cases best with
  | none => rfl
  | some b =>
      show (if (decide _ || (_ && decide _)) = true then _ else _)
        = (if _ then _ else _)
      refine if_congr ?_ rfl rfl
      rw [nearness, nearness, Prod.Lex.toLex_lt_toLex]
      simp

/-- The loop, its two optima one by one. -/
structure Scanned (y halfWindow : Rat) (isClear : Rat → Bool)
    (tops : List Rat) (s : Nearest) : Prop where
  any : Optimal (nearness y) (tops.filter (inWindow y halfWindow)) s.anyBest
  anyDistance : s.anyDistance = s.anyBest.map fun b => |b - y|
  clear : Optimal (nearness y)
    (tops.filter fun t => inWindow y halfWindow t && isClear t) s.clearBest
  clearDistance : s.clearDistance = s.clearBest.map fun b => |b - y|

theorem Scanned.nil : Scanned y halfWindow isClear [] {} :=
  ⟨Optimal.nil, rfl, Optimal.nil, rfl⟩

/-- One more top: each optimum keeps the nearer one. -/
theorem step_scans {s : Nearest}
    (hany : s.anyDistance = s.anyBest.map fun b => |b - y|)
    (hclear : s.clearDistance = s.clearBest.map fun b => |b - y|) (t : Rat) :
    s.step y halfWindow isClear t =
      let any := if inWindow y halfWindow t then
          keepLeast (nearness y) s.anyBest t else s.anyBest
      let clear := if inWindow y halfWindow t && isClear t then
          keepLeast (nearness y) s.clearBest t else s.clearBest
      ⟨clear, clear.map fun b => |b - y|, any, any.map fun b => |b - y|⟩ := by
  have hkeep (best : Option Rat) := closer_iff y best t
  obtain ⟨clearBest, clearDistance, anyBest, anyDistance⟩ := s
  simp only at hany hclear
  subst hany hclear
  simp only [Nearest.step, inWindow]
  by_cases hin : |t - y| ≤ halfWindow
  · simp only [if_pos hin, decide_eq_true hin, Bool.true_and, if_true,
      ← hkeep]
    cases isClear t with
    | false =>
        simp only [Bool.false_and, Bool.false_eq_true, if_false]
        split
        · rfl
        · rfl
    | true =>
        simp only [Bool.true_and, if_true]
        split
        · split
          · rfl
          · rfl
        · split
          · rfl
          · rfl
  · simp only [if_neg hin, decide_eq_false hin, Bool.false_and,
      Bool.false_eq_true, if_false]

theorem Scanned.step {s : Nearest} (h : Scanned y halfWindow isClear tops s)
    (t : Rat) :
    Scanned y halfWindow isClear (tops ++ [t])
      (s.step y halfWindow isClear t) := by
  rw [step_scans h.anyDistance h.clearDistance]
  exact ⟨h.any.keep_filter t, rfl, h.clear.keep_filter t, rfl⟩

theorem scanned (y halfWindow : Rat) (isClear : Rat → Bool)
    (tops : List Rat) :
    Scanned y halfWindow isClear tops
      (tops.foldl (Nearest.step y halfWindow isClear) {}) := by
  induction tops using List.reverseRecOn with
  | nil => exact Scanned.nil
  | append_singleton tops t ih =>
      rw [List.foldl_concat]
      exact ih.step t

end Correction

/-- A top over a span, inside the window around `y`. -/
def Candidate (q : TMXSurfaceQuery) (x0 x1 y halfWindow t : Rat) : Prop :=
  (∃ c ∈ q.cells, Spans x0 x1 c ∧ c.top = t) ∧ |t - y| ≤ halfWindow

/-- No solid cell over the body's span overlaps a body that stands at
`t`. -/
def BodyClear (q : TMXSurfaceQuery) (bodyX0 bodyX1 bodyHeight t : Rat) :
    Prop :=
  ∀ c ∈ q.cells, Spans bodyX0 bodyX1 c →
    ¬(c.top > t ∧ c.top - q.tileHeight < t + bodyHeight)

/-- At least as near to `y`; of two that are as near, not the higher
one. -/
def Nearer (y a b : Rat) : Prop :=
  |a - y| < |b - y| ∨ (|a - y| = |b - y| ∧ a ≤ b)

theorem nearness_le_iff {y a b : Rat} :
    nearness y a ≤ nearness y b ↔ Nearer y a b := Prod.Lex.toLex_le_toLex

section Bounded

variable {x0 x1 y halfWindow bodyX0 bodyX1 bodyHeight : Rat}

/-- What the correction answers, by what there is in the window. -/
structure Bounded (q : TMXSurfaceQuery)
    (x0 x1 y halfWindow bodyX0 bodyX1 bodyHeight : Rat)
    (feet : Option Rat) : Prop where
  none_iff : feet = none ↔ ∀ t, ¬q.Candidate x0 x1 y halfWindow t
  clear : ∀ t, q.Candidate x0 x1 y halfWindow t →
    q.BodyClear bodyX0 bodyX1 bodyHeight t →
    ∃ b, feet = some b ∧ q.Candidate x0 x1 y halfWindow b
      ∧ q.BodyClear bodyX0 bodyX1 bodyHeight b ∧ Nearer y b t
  buried : (∀ t, q.Candidate x0 x1 y halfWindow t →
    ¬q.BodyClear bodyX0 bodyX1 bodyHeight t) →
    ∀ t, q.Candidate x0 x1 y halfWindow t →
    ∃ b, feet = some b ∧ q.Candidate x0 x1 y halfWindow b ∧ Nearer y b t
  inWindow : ∀ b, feet = some b → q.Candidate x0 x1 y halfWindow b

theorem boundedSurfaceY_bounded (q : TMXSurfaceQuery)
    (x0 x1 y halfWindow bodyX0 bodyX1 bodyHeight : Rat) :
    Bounded q x0 x1 y halfWindow bodyX0 bodyX1 bodyHeight
      (q.boundedSurfaceY x0 x1 y halfWindow bodyX0 bodyX1 bodyHeight) := by
  have hscanned := scanned y halfWindow
    (fun top => !(q.surfaceTops bodyX0 bodyX1).any fun t =>
      t > top ∧ t - q.tileHeight < top + bodyHeight) (q.surfaceTops x0 x1)
  have hcandidate (t : Rat) :
      t ∈ (q.surfaceTops x0 x1).filter (TMXSurfaceQuery.inWindow y halfWindow)
        ↔ q.Candidate x0 x1 y halfWindow t := by
    rw [List.mem_filter, mem_surfaceTops, Candidate]
    exact and_congr_right fun _ => decide_eq_true_iff
  have hclear (t : Rat) :
      t ∈ (q.surfaceTops x0 x1).filter (fun t =>
          TMXSurfaceQuery.inWindow y halfWindow t
            && !(q.surfaceTops bodyX0 bodyX1).any fun u =>
              u > t ∧ u - q.tileHeight < t + bodyHeight)
        ↔ q.Candidate x0 x1 y halfWindow t
          ∧ q.BodyClear bodyX0 bodyX1 bodyHeight t := by
    rw [← hcandidate, List.mem_filter, List.mem_filter, Bool.and_eq_true,
      ← and_assoc]
    refine and_congr_right fun _ => ?_
    rw [Bool.not_eq_true', ← Bool.not_eq_true, List.any_eq_true]
    simp only [mem_surfaceTops, decide_eq_true_eq, BodyClear]
    constructor
    · intro h c hc hspans hover
      exact h ⟨c.top, ⟨c, hc, hspans, rfl⟩, hover⟩
    · rintro h ⟨_, ⟨c, hc, hspans, rfl⟩, hover⟩
      exact h c hc hspans hover
  show Bounded q x0 x1 y halfWindow bodyX0 bodyX1 bodyHeight
    (Nearest.answer _)
  generalize (q.surfaceTops x0 x1).foldl _ _ = s at hscanned ⊢
  have hnone : s.clearBest = none ↔ ∀ t, q.Candidate x0 x1 y halfWindow t →
      ¬q.BodyClear bodyX0 bodyX1 bodyHeight t := by
    rw [hscanned.clear.none_iff, List.eq_nil_iff_forall_not_mem]
    refine forall_congr' fun t => ?_
    rw [hclear, not_and]
  have hempty : s.anyBest = none ↔
      ∀ t, ¬q.Candidate x0 x1 y halfWindow t := by
    rw [hscanned.any.none_iff, List.eq_nil_iff_forall_not_mem]
    exact forall_congr' fun t => not_congr (hcandidate t)
  rw [Nearest.answer]
  cases hbest : s.clearBest with
  | some b =>
      obtain ⟨hmem, hleast⟩ := hscanned.clear.least b hbest
      obtain ⟨hin, hfree⟩ := (hclear b).mp hmem
      refine ⟨⟨fun h => (by cases h), fun h => absurd hin (h b)⟩, ?_, ?_,
        ?_⟩
      · intro t ht hfree'
        exact ⟨b, rfl, hin, hfree, nearness_le_iff.mp
          (hleast t ((hclear t).mpr ⟨ht, hfree'⟩))⟩
      · intro h
        exact absurd hfree (h b hin)
      · rintro c ⟨⟩
        exact hin
  | none =>
      have hburied := hnone.mp hbest
      refine ⟨hempty, ?_, ?_, ?_⟩
      · intro t ht hfree
        exact absurd hfree (hburied t ht)
      · intro _ t ht
        cases hany : s.anyBest with
        | none => exact absurd ht (hempty.mp hany t)
        | some b =>
            obtain ⟨hmem, hleast⟩ := hscanned.any.least b hany
            exact ⟨b, rfl, (hcandidate b).mp hmem, nearness_le_iff.mp
              (hleast t ((hcandidate t).mpr ht))⟩
      · intro b hb
        exact (hcandidate b).mp (hscanned.any.least b hb).1

end Bounded

end TMXSurfaceQuery

-- ============================================================== the spawn

open TMXSurfaceQuery

/-- A spawn that is corrected as far as it may be: over the feet of a
player at the marker, under their body. -/
structure SpawnCorrected (m : TMXMapData) (q : TMXSurfaceQuery)
    (marker p : CGPoint) : Prop where
  sameX : p.x = marker.x
  bounded : |p.y - marker.y| ≤ |(m.tileHeight : Rat)|
  unmoved : (∀ t, ¬q.Candidate (marker.x + 4) (marker.x + 44) marker.y
    m.tileHeight t) → p.y = marker.y
  clear : ∀ t, q.Candidate (marker.x + 4) (marker.x + 44) marker.y
      m.tileHeight t →
    q.BodyClear (marker.x + 1) (marker.x + 47) 63 t →
    q.Candidate (marker.x + 4) (marker.x + 44) marker.y m.tileHeight p.y
      ∧ q.BodyClear (marker.x + 1) (marker.x + 47) 63 p.y
      ∧ Nearer marker.y p.y t
  buried : (∀ t, q.Candidate (marker.x + 4) (marker.x + 44) marker.y
      m.tileHeight t → ¬q.BodyClear (marker.x + 1) (marker.x + 47) 63 t) →
    ∀ t, q.Candidate (marker.x + 4) (marker.x + 44) marker.y
      m.tileHeight t →
    q.Candidate (marker.x + 4) (marker.x + 44) marker.y m.tileHeight p.y
      ∧ Nearer marker.y p.y t

/-- The spans of the correction, over the feet and over the body. -/
theorem resolvedPlayerBottom_eq {m : TMXMapData} {q : TMXSurfaceQuery}
    {playerObject : TMXObject} (h : m.object "vitorc" = some playerObject) :
    m.resolvedPlayerBottom q =
      ⟨(m.worldBottomLeft playerObject).x,
        (q.boundedSurfaceY ((m.worldBottomLeft playerObject).x + 4)
          ((m.worldBottomLeft playerObject).x + 44)
          (m.worldBottomLeft playerObject).y m.tileHeight
          ((m.worldBottomLeft playerObject).x + 1)
          ((m.worldBottomLeft playerObject).x + 47) 63).getD
          (m.worldBottomLeft playerObject).y⟩ := by
  have hfeet (x : Rat) : x + 1 + 3 = x + 4 := by ring
  have hfeet' (x : Rat) : x + 47 - 3 = x + 44 := by ring
  have hbody (x : Rat) : x + 48 * (1 / 2) - 46 * (1 / 2) = x + 1 := by ring
  have hbody' (x : Rat) : x + 48 * (1 / 2) + 46 * (1 / 2) = x + 47 := by ring
  simp only [TMXMapData.resolvedPlayerBottom, h,
    GameConstants.playerSpriteSize, GameConstants.playerStandingMovementSize,
    GameConstants.footSupportHorizontalInset, hbody, hbody', hfeet, hfeet']

/-- The spawn is corrected by one tile at most, to the nearest clear top
where there is one. -/
theorem spawn_corrected (m : TMXMapData) (q : TMXSurfaceQuery) :
    match m.object "vitorc" with
    | none => m.resolvedPlayerBottom q = ⟨0, GameConstants.defaultGroundY⟩
    | some playerObject =>
        SpawnCorrected m q (m.worldBottomLeft playerObject)
          (m.resolvedPlayerBottom q) := by
  cases hobject : m.object "vitorc" with
  | none => simp only [TMXMapData.resolvedPlayerBottom, hobject]
  | some playerObject =>
      show SpawnCorrected m q (m.worldBottomLeft playerObject)
        (m.resolvedPlayerBottom q)
      rw [resolvedPlayerBottom_eq hobject]
      generalize m.worldBottomLeft playerObject = marker
      have hfeet := boundedSurfaceY_bounded q (marker.x + 4) (marker.x + 44)
        marker.y m.tileHeight (marker.x + 1) (marker.x + 47) 63
      generalize q.boundedSurfaceY _ _ _ _ _ _ _ = feet at hfeet ⊢
      refine ⟨rfl, ?_, ?_, ?_, ?_⟩
      · cases feet with
        | none => simp
        | some b => exact (hfeet.inWindow b rfl).2.trans (le_abs_self _)
      · intro h
        rw [hfeet.none_iff.mpr h]
        rfl
      · intro t ht hfree
        obtain ⟨b, rfl, hmoved⟩ := hfeet.clear t ht hfree
        exact hmoved
      · intro hburied t ht
        obtain ⟨b, rfl, hmoved⟩ := hfeet.buried hburied t ht
        exact hmoved

end Exolon.Tmx

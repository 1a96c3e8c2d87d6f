/-
One interpretation of the collision layer: the rectangles of a query are
the maximal runs of the solid cells, and the ground under a span is the
same read from the cells and from the rectangles.

Everything is reduced to columns: `collisionRects_eq` writes the rectangles
as the runs of each row's solid columns, and `Lib.Runs` is about those. A
layer of negative height is a trap (`collision_inverted`), and the only
one: `collision_interpreted`.
-/
import Exolon.Lib.Runs
import Exolon.Lib.Tiling
import Exolon.Tmx.Surface

namespace Exolon.Tmx

open Tiling TMXSurfaceQuery

-- ====================================================== what a layer means

/-- A solid cell of a layer. -/
def TMXLayer.Solid (l : TMXLayer) (row column : Int) : Prop :=
  (0 ≤ row ∧ row < l.height) ∧ (0 ≤ column ∧ column < l.width)
    ∧ ∃ gid, l.gids[(row * l.width + column).toNat]? = some gid
      ∧ gid &&& 0x1FFFFFFF ≠ 0

namespace TMXMapData

variable (m : TMXMapData)

/-- The left edge of a column. -/
def xAt (column : Int) : Rat := (column * m.tileWidth : Int)

/-- The upper edge of a row. -/
def topOf (row : Int) : Rat := m.pixelHeight - (row * m.tileHeight : Int)

/-- Some columns of a row, one tile tall. -/
def band (row a b : Int) : CGRect :=
  ⟨m.xAt a, m.topOf row - m.tileHeight, m.xAt b - m.xAt a, m.tileHeight⟩

end TMXMapData

/-- The highest upper edge at or below `limit` among the rectangles that
overlap a span, else that of the lowest rectangle, else the default. -/
structure Ground (rects : List CGRect) (x0 x1 limit y : Rat) : Prop where
  highest : ∀ r ∈ rects, r.maxY ≤ limit → r.minX < x1 → x0 < r.maxX →
    r.maxY ≤ y ∧ ∃ s ∈ rects, s.maxY ≤ limit ∧ s.minX < x1 ∧ x0 < s.maxX
      ∧ s.maxY = y
  lowest : (∀ r ∈ rects, ¬(r.maxY ≤ limit ∧ r.minX < x1 ∧ x0 < r.maxX)) →
    ∀ r ∈ rects, y ≤ r.maxY ∧ ∃ s ∈ rects, s.maxY = y
  default : rects = [] → y = GameConstants.defaultGroundY

/-- A query that reads a layer as its solid cells. -/
structure Interpreted (m : TMXMapData) (l : TMXLayer) (q : TMXSurfaceQuery) :
    Prop where
  apart : Apart CGRect.cells q.collisionRects
  cover : ∀ p, p ∈ Tiling.cover CGRect.cells q.collisionRects ↔
    ∃ row column, l.Solid row column
      ∧ p ∈ (m.band row column (column + 1)).cells
  maximal : ∀ r ∈ q.collisionRects, ∃ row a b, r = m.band row a b ∧ a < b
    ∧ (∀ column, a ≤ column → column < b → l.Solid row column)
    ∧ ¬l.Solid row (a - 1) ∧ ¬l.Solid row b
  ordered : q.collisionRects.Pairwise fun r s =>
    s.maxY < r.maxY ∨ (s.maxY = r.maxY ∧ r.maxX < s.minX)
  ground : ∀ x0 x1 limit, x0 < x1 →
    Ground q.collisionRects x0 x1 limit (q.groundY x0 x1 limit)

-- =========================================================== the solid cells

section Cells

variable (m : TMXMapData) (l : TMXLayer)

def solidAt (row column : Int) : Bool :=
  match l.gids[(row * l.width + column).toNat]? with
  | some gid => gid &&& 0x1FFFFFFF ≠ 0
  | none => false

/-- The solid columns of a row, from left to right. -/
def solidColumns (row : Int) : List Int :=
  ((List.range l.width.toNat).map Int.ofNat).filter (solidAt l row)

def cellAt (row column : Int) : SolidCell :=
  ⟨m.xAt column, m.xAt (column + 1), m.topOf row⟩

/-- The rows, from top to bottom. -/
def rows : List Int := (List.range l.height.toNat).map Int.ofNat

def solidCells : List SolidCell :=
  (rows l).flatMap fun row => (solidColumns l row).map (cellAt m row)

variable {m l}

theorem flatten_ite {α β : Type} (p : α → Bool) (g : α → β) (l : List α) :
    (l.map fun a => if p a then [g a] else []).flatten
      = (l.filter p).map g := by
  induction l with
  | nil => rfl
  | cons a l ih =>
      rw [List.map_cons, List.flatten_cons, ih, List.filter_cons]
      cases p a with
      | true => rfl
      | false => rfl

theorem sorted_ofNat_range (n : Int) :
    ((List.range n.toNat).map Int.ofNat).Pairwise (· < ·) := by
  rw [List.pairwise_map]
  refine List.pairwise_lt_range.imp ?_
  intro a b hab
  exact Int.ofNat_lt.mpr hab

theorem mem_rows {row : Int} : row ∈ rows l ↔ 0 ≤ row ∧ row < l.height :=
  mem_ofNat_range

theorem sorted_solidColumns (row : Int) :
    (solidColumns l row).Pairwise (· < ·) :=
  (sorted_ofNat_range l.width).filter _

theorem mem_solidColumns {row column : Int} (hrow : row ∈ rows l) :
    column ∈ solidColumns l row ↔ l.Solid row column := by
  rw [solidColumns, List.mem_filter, mem_ofNat_range, TMXLayer.Solid,
    and_iff_right (mem_rows.mp hrow)]
  refine and_congr_right fun _ => ?_
  unfold solidAt
  cases l.gids[(row * l.width + column).toNat]? with
  | none => simp
  | some gid => simp

/-- No negative height, and one number for each cell. -/
structure Sized (l : TMXLayer) : Prop where
  count : (l.gids.length : Int) = l.width * l.height
  height : 0 ≤ l.height

theorem rowCells_eq (h : Sized l) {row : Int} (hrow : row ∈ rows l) :
    m.rowCells l row = some ((solidColumns l row).map (cellAt m row)) := by
  obtain ⟨hrow0, hrow1⟩ := mem_rows.mp hrow
  have hcount := h.count
  have hwidth : 0 ≤ l.width := by
    by_contra hneg
    have hprod : l.width * l.height < 0 :=
      Int.mul_neg_of_neg_of_pos (by omega) (by omega)
    omega
  have hone : ∀ column ∈ (List.range l.width.toNat).map Int.ofNat,
      m.columnCell l row column = some (if solidAt l row column then
        [cellAt m row column] else []) := by
    intro column hcolumn
    obtain ⟨h0, h1⟩ := mem_ofNat_range.mp hcolumn
    have hbase : 0 ≤ row * l.width := Int.mul_nonneg hrow0 hwidth
    have hlast : (row + 1) * l.width ≤ l.height * l.width :=
      Int.mul_le_mul_of_nonneg_right (by omega) hwidth
    have hin : (row * l.width + column).toNat < l.gids.length := by
      have hsplit : (row + 1) * l.width = row * l.width + l.width := by ring
      have hcomm : l.height * l.width = l.width * l.height := by ring
      omega
    have hget := List.getElem?_eq_getElem hin
    have hsubscript : subscript l.gids (row * l.width + column)
        = some l.gids[(row * l.width + column).toNat] := by
      unfold subscript
      rw [if_neg (by omega), hget]
    unfold TMXMapData.columnCell solidAt
    simp only [hsubscript, hget, Option.bind_eq_bind, Option.bind_some,
      decide_eq_true_eq]
    rfl
  unfold TMXMapData.rowCells upTo
  rw [if_neg (by omega), Option.bind_eq_bind, Option.bind_some,
    mapM_some hone, Option.bind_eq_bind, Option.bind_some, flatten_ite]
  rfl

theorem surfaceQuery_eq (hlayer : m.collisionLayer = some l) (h : Sized l) :
    m.surfaceQuery = some ⟨solidCells m l, m.tileHeight⟩ := by
  have hheight := h.height
  unfold TMXMapData.surfaceQuery upTo
  simp only [hlayer]
  rw [if_pos h.count, if_neg (by omega), Option.bind_eq_bind,
    Option.bind_some]
  have hrows : ((List.range l.height.toNat).map Int.ofNat).mapM
      (m.rowCells l) = some ((rows l).map fun row =>
        (solidColumns l row).map (cellAt m row)) :=
    mapM_some fun row hrow => rowCells_eq h hrow
  rw [hrows, Option.bind_eq_bind, Option.bind_some]
  rfl

theorem mem_solidCells {c : SolidCell} :
    c ∈ solidCells m l ↔
      ∃ row column, l.Solid row column ∧ c = cellAt m row column := by
  unfold solidCells
  rw [List.mem_flatMap]
  constructor
  · rintro ⟨row, hrow, hc⟩
    obtain ⟨column, hcolumn, rfl⟩ := List.mem_map.mp hc
    exact ⟨row, column, (mem_solidColumns hrow).mp hcolumn, rfl⟩
  · rintro ⟨row, column, hsolid, rfl⟩
    have hrow : row ∈ rows l := mem_rows.mpr hsolid.1
    exact ⟨row, hrow,
      List.mem_map_of_mem ((mem_solidColumns hrow).mpr hsolid)⟩

end Cells

-- ========================================================= the rectangles

section Rects

variable {m : TMXMapData} {l : TMXLayer}

/-- The rows with a solid cell. -/
def solidRows (l : TMXLayer) : List Int :=
  (rows l).filter fun row => !(solidColumns l row).isEmpty

theorem sorted_solidRows (l : TMXLayer) :
    (solidRows l).Pairwise (· < ·) :=
  (sorted_ofNat_range l.height).filter _

theorem mem_solidRows {row : Int} :
    row ∈ solidRows l ↔ ∃ column, l.Solid row column := by
  rw [solidRows, List.mem_filter]
  constructor
  · rintro ⟨hrow, hsome⟩
    have hne : solidColumns l row ≠ [] := by simpa using hsome
    obtain ⟨column, hcolumn⟩ := List.exists_mem_of_ne_nil _ hne
    exact ⟨column, (mem_solidColumns hrow).mp hcolumn⟩
  · rintro ⟨column, hsolid⟩
    have hrow : row ∈ rows l := mem_rows.mpr hsolid.1
    have hne := List.ne_nil_of_mem ((mem_solidColumns hrow).mpr hsolid)
    exact ⟨hrow, by simpa using hne⟩

variable (htw : 0 < m.tileWidth) (hth : 0 < m.tileHeight)

include htw in
theorem xAt_lt {a b : Int} (h : a < b) : m.xAt a < m.xAt b :=
  Int.cast_lt.mpr (Int.mul_lt_mul_of_pos_right h htw)

include htw in
theorem xAt_le {a b : Int} (h : a ≤ b) : m.xAt a ≤ m.xAt b :=
  Int.cast_le.mpr (Int.mul_le_mul_of_nonneg_right h htw.le)

include htw in
theorem xAt_inj {a b : Int} : m.xAt a = m.xAt b ↔ a = b := by
  constructor
  · intro h
    rcases lt_trichotomy a b with hlt | heq | hgt
    · exact absurd h (xAt_lt htw hlt).ne
    · exact heq
    · exact absurd h (xAt_lt htw hgt).ne'
  · exact congrArg _

include hth in
theorem topOf_lt {a b : Int} (h : a < b) : m.topOf b < m.topOf a := by
  have hcast : ((a * m.tileHeight : Int) : Rat) < (b * m.tileHeight : Int) :=
    Int.cast_lt.mpr (Int.mul_lt_mul_of_pos_right h hth)
  unfold TMXMapData.topOf
  linarith

include hth in
theorem topOf_inj {a b : Int} : m.topOf a = m.topOf b ↔ a = b := by
  constructor
  · intro h
    rcases lt_trichotomy a b with hlt | heq | hgt
    · exact absurd h (topOf_lt hth hlt).ne'
    · exact heq
    · exact absurd h (topOf_lt hth hgt).ne
  · exact congrArg _

include hth in
/-- The tops of the cells, from the highest one down: one for each row. -/
theorem tops_eq :
    sortedBy OrderDual.toDual (distinctTops (solidCells m l))
      = (solidRows l).map m.topOf := by
  have hrows : ((solidRows l).map m.topOf).Pairwise fun s t => t < s := by
    rw [List.pairwise_map]
    exact (sorted_solidRows l).imp (topOf_lt hth)
  have hmem (t : Rat) : t ∈ distinctTops (solidCells m l) ↔
      t ∈ (solidRows l).map m.topOf := by
    rw [mem_distinctTops, List.mem_map]
    constructor
    · rintro ⟨c, hc, rfl⟩
      obtain ⟨row, column, hsolid, rfl⟩ := mem_solidCells.mp hc
      exact ⟨row, mem_solidRows.mpr ⟨column, hsolid⟩, rfl⟩
    · rintro ⟨row, hrow, rfl⟩
      obtain ⟨column, hsolid⟩ := mem_solidRows.mp hrow
      exact ⟨cellAt m row column,
        mem_solidCells.mpr ⟨row, column, hsolid, rfl⟩, rfl⟩
  have hperm : (distinctTops (solidCells m l)).Perm
      ((solidRows l).map m.topOf) :=
    (List.perm_ext_iff_of_nodup (nodup_distinctTops _)
      (hrows.imp fun h => h.ne')).mpr hmem
  refine eq_of_sorted ((sortedBy_perm_self _ _).trans hperm) ?_
    (pairwise_sortedBy _ _) (hrows.imp fun h => h.le)
  rw [((sortedBy_perm_self _ _).map _).nodup_iff]
  exact (nodup_distinctTops _).map OrderDual.toDual.injective

include htw in
theorem sorted_columnCells (row : Int) :
    ((solidColumns l row).map (cellAt m row)).Pairwise fun c d =>
      c.x0 < d.x0 := by
  rw [List.pairwise_map]
  exact (sorted_solidColumns row).imp (xAt_lt htw)

include htw hth in
theorem nodup_solidCells : (solidCells m l).Nodup := by
  unfold solidCells
  rw [List.nodup_flatMap]
  constructor
  · intro row _
    exact (sorted_columnCells htw row).imp fun h heq =>
      h.ne (congrArg SolidCell.x0 heq)
  · refine (sorted_ofNat_range l.height).imp ?_
    intro a b hab c hc hd
    obtain ⟨_, _, rfl⟩ := List.mem_map.mp hc
    obtain ⟨_, _, heq⟩ := List.mem_map.mp hd
    exact (topOf_lt hth hab).ne (congrArg SolidCell.top heq)

include htw hth in
/-- The cells of one top, from left to right: those of its row. -/
theorem row_eq {row : Int} (hrow : row ∈ solidRows l) :
    sortedBy SolidCell.x0
        ((solidCells m l).filter fun c => c.top = m.topOf row)
      = (solidColumns l row).map (cellAt m row) := by
  have hsorted := sorted_columnCells (m := m) (l := l) htw row
  have hmem (c : SolidCell) :
      c ∈ (solidCells m l).filter (fun c => c.top = m.topOf row) ↔
        c ∈ (solidColumns l row).map (cellAt m row) := by
    have hin := (List.mem_filter.mp hrow).1
    rw [List.mem_filter, mem_solidCells, List.mem_map, decide_eq_true_eq]
    constructor
    · rintro ⟨⟨other, column, hsolid, rfl⟩, htop⟩
      rw [(topOf_inj hth).mp htop] at hsolid ⊢
      exact ⟨column, (mem_solidColumns hin).mpr hsolid, rfl⟩
    · rintro ⟨column, hcolumn, rfl⟩
      exact ⟨⟨row, column, (mem_solidColumns hin).mp hcolumn, rfl⟩, rfl⟩
  have hperm : ((solidCells m l).filter fun c => c.top = m.topOf row).Perm
      ((solidColumns l row).map (cellAt m row)) :=
    (List.perm_ext_iff_of_nodup ((nodup_solidCells htw hth).filter _)
      (hsorted.imp fun h heq => h.ne (congrArg SolidCell.x0 heq))).mpr hmem
  have hkeys : (((solidColumns l row).map (cellAt m row)).map
      SolidCell.x0).Nodup := by
    unfold List.Nodup
    rw [List.pairwise_map]
    exact hsorted.imp fun h => h.ne
  refine eq_of_sorted ((sortedBy_perm_self _ _).trans hperm) ?_
    (pairwise_sortedBy _ _) (hsorted.imp fun h => h.le)
  exact (((sortedBy_perm_self _ _).trans hperm).map _).nodup_iff.mpr hkeys

include htw in
/-- The rectangles of a row are the runs of its columns. -/
theorem rowRects_eq (row a b : Int) (rest : List Int)
    (cells : List SolidCell) :
    (TMXSurfaceQuery.mk cells m.tileHeight).rowRects
        ⟨m.xAt a, m.xAt b, m.topOf row⟩ (rest.map (cellAt m row))
      = (Runs.runsFrom a b rest).map fun r => m.band row r.1 r.2 := by
  induction rest generalizing a b with
  | nil => rfl
  | cons c rest ih =>
      rw [List.map_cons, rowRects, Runs.runsFrom]
      by_cases hc : c = b
      · have hx : (cellAt m row c).x0 = m.xAt b := (xAt_inj htw).mpr hc
        rw [if_pos hx, if_pos hc, ← ih, ← hc]
        rfl
      · have hx : ¬(cellAt m row c).x0 = m.xAt b :=
          fun h => hc ((xAt_inj htw).mp h)
        rw [if_neg hx, if_neg hc, List.map_cons, ← ih]
        rfl

include htw hth in
theorem collisionRects_eq :
    (TMXSurfaceQuery.mk (solidCells m l) m.tileHeight).collisionRects
      = (solidRows l).flatMap fun row =>
        (Runs.runs (solidColumns l row)).map fun r => m.band row r.1 r.2 := by
  rw [collisionRects, tops_eq hth, List.flatMap_map]
  refine List.flatMap_congr ?_
  intro row hrow
  rw [row_eq htw hth hrow]
  cases solidColumns l row with
  | nil => rfl
  | cons a rest => exact rowRects_eq htw row a (a + 1) rest _

include htw hth

theorem mem_collisionRects {r : CGRect} :
    r ∈ (TMXSurfaceQuery.mk (solidCells m l) m.tileHeight).collisionRects ↔
      ∃ row ∈ solidRows l, ∃ run ∈ Runs.runs (solidColumns l row),
        r = m.band row run.1 run.2 := by
  rw [collisionRects_eq htw hth, List.mem_flatMap]
  simp only [List.mem_map, eq_comm (a := r)]

/-- What holds of two runs of one row and of runs of two rows holds of any
two rectangles in their order. -/
theorem collisionRects_pairwise {P : CGRect → CGRect → Prop}
    (hrow : ∀ row a b a' b', a < b → b < a' → a' < b' →
      P (m.band row a b) (m.band row a' b'))
    (hrows : ∀ row row' a b a' b', row < row' → a < b → a' < b' →
      P (m.band row a b) (m.band row' a' b')) :
    (TMXSurfaceQuery.mk (solidCells m l) m.tileHeight).collisionRects.Pairwise
      P := by
  rw [collisionRects_eq htw hth, List.pairwise_flatMap]
  constructor
  · intro row _
    have hsorted := sorted_solidColumns (l := l) row
    rw [List.pairwise_map]
    refine (Runs.runs_apart hsorted).imp_of_mem ?_
    intro r s hr hs hgap
    exact hrow row _ _ _ _ (Runs.lt_of_mem_runs hsorted r hr) hgap
      (Runs.lt_of_mem_runs hsorted s hs)
  · refine (sorted_solidRows l).imp ?_
    intro row row' hlt r hr s hs
    obtain ⟨run, hrun, rfl⟩ := List.mem_map.mp hr
    obtain ⟨run', hrun', rfl⟩ := List.mem_map.mp hs
    exact hrows row row' _ _ _ _ hlt
      (Runs.lt_of_mem_runs (sorted_solidColumns row) run hrun)
      (Runs.lt_of_mem_runs (sorted_solidColumns row') run' hrun')

end Rects

-- ================================================================ one band

section Band

variable {m : TMXMapData} {row a b : Int}
  (htw : 0 < m.tileWidth) (hth : 0 < m.tileHeight)

include hth in
theorem tileHeight_nonneg : (0 : Rat) ≤ m.tileHeight :=
  Int.cast_nonneg hth.le

include htw in
theorem minX_band (h : a ≤ b) : (m.band row a b).minX = m.xAt a :=
  CGRect.minX_mk (sub_nonneg.mpr (xAt_le htw h))

include htw in
theorem maxX_band (h : a ≤ b) : (m.band row a b).maxX = m.xAt b := by
  refine (CGRect.maxX_mk (sub_nonneg.mpr (xAt_le htw h))).trans ?_
  exact add_sub_cancel _ _

include hth in
theorem minY_band : (m.band row a b).minY = m.topOf row - m.tileHeight :=
  CGRect.minY_mk (tileHeight_nonneg hth)

include hth in
theorem maxY_band : (m.band row a b).maxY = m.topOf row :=
  (CGRect.maxY_mk (tileHeight_nonneg hth)).trans (sub_add_cancel _ _)

include htw hth

theorem mem_cells_band (h : a ≤ b) (p : Rat × Rat) :
    p ∈ (m.band row a b).cells ↔
      m.xAt a ≤ p.1 ∧ p.1 < m.xAt b
        ∧ m.topOf row - m.tileHeight ≤ p.2 ∧ p.2 < m.topOf row := by
  show _ ∧ _ ∧ _ ∧ _ ↔ _
  rw [minX_band htw h, maxX_band htw h, minY_band hth, maxY_band hth]

end Band

section Columns

variable {m : TMXMapData} (htw : 0 < m.tileWidth)

include htw

/-- Every x is in one column. -/
theorem exists_column (x : Rat) :
    ∃ column, m.xAt column ≤ x ∧ x < m.xAt (column + 1) := by
  have hpositive : (0 : Rat) < m.tileWidth := Int.cast_pos.mpr htw
  refine ⟨⌊x / m.tileWidth⌋, ?_, ?_⟩
  · unfold TMXMapData.xAt
    rw [Int.cast_mul, ← le_div_iff₀ hpositive]
    exact Int.floor_le _
  · unfold TMXMapData.xAt
    rw [Int.cast_mul, ← div_lt_iff₀ hpositive, Int.cast_add, Int.cast_one]
    exact Int.lt_floor_add_one _

theorem lt_of_xAt_lt {a b : Int} (h : m.xAt a < m.xAt b) : a < b := by
  by_contra hle
  exact absurd h (not_lt.mpr (xAt_le htw (not_lt.mp hle)))

end Columns

-- ============================================================ the layer

section Layer

variable {m : TMXMapData} {l : TMXLayer} (htw : 0 < m.tileWidth)
  (hth : 0 < m.tileHeight)

/-- The run of a solid cell. -/
theorem exists_run {row column : Int} (hsolid : l.Solid row column) :
    row ∈ solidRows l ∧ ∃ run ∈ Runs.runs (solidColumns l row),
      run.1 ≤ column ∧ column < run.2 := by
  have hrow : row ∈ rows l := mem_rows.mpr hsolid.1
  refine ⟨mem_solidRows.mpr ⟨column, hsolid⟩, ?_⟩
  exact (Runs.mem_runs (sorted_solidColumns row)).mp
    ((mem_solidColumns hrow).mpr hsolid)

/-- The cells of a run. -/
theorem solid_of_run {row : Int} (hrow : row ∈ solidRows l)
    {run : Int × Int} (hrun : run ∈ Runs.runs (solidColumns l row)) :
    run.1 < run.2
      ∧ (∀ column, run.1 ≤ column → column < run.2 → l.Solid row column)
      ∧ ¬l.Solid row (run.1 - 1) ∧ ¬l.Solid row run.2 := by
  have hin : row ∈ rows l := (List.mem_filter.mp hrow).1
  have hsorted := sorted_solidColumns (l := l) row
  have hmaximal := Runs.runs_maximal hsorted hrun
  rw [mem_solidColumns hin, mem_solidColumns hin] at hmaximal
  refine ⟨Runs.lt_of_mem_runs hsorted run hrun, ?_, hmaximal⟩
  intro column h0 h1
  exact (mem_solidColumns hin).mp
    ((Runs.mem_runs hsorted).mpr ⟨run, hrun, h0, h1⟩)

include htw hth

theorem collisionRects_apart :
    Apart CGRect.cells
      (TMXSurfaceQuery.mk (solidCells m l) m.tileHeight).collisionRects := by
  refine collisionRects_pairwise htw hth ?_ ?_
  · intro row a b a' b' hab hgap hab'
    rw [Set.disjoint_left]
    intro p hp hp'
    rw [mem_cells_band htw hth hab.le] at hp
    rw [mem_cells_band htw hth hab'.le] at hp'
    have hlt := xAt_lt htw hgap
    linarith
  · intro row row' a b a' b' hrow hab hab'
    rw [Set.disjoint_left]
    intro p hp hp'
    rw [mem_cells_band htw hth hab.le] at hp
    rw [mem_cells_band htw hth hab'.le] at hp'
    -- the lower row is at least one tile down
    have hdown : ((row' * m.tileHeight : Int) : Rat)
        ≥ ((row * m.tileHeight + m.tileHeight : Int) : Rat) := by
      refine Int.cast_le.mpr ?_
      have hmul := Int.mul_le_mul_of_nonneg_right
        (show row + 1 ≤ row' by omega) hth.le
      linarith
    rw [Int.cast_add] at hdown
    unfold TMXMapData.topOf at hp hp'
    linarith

theorem collisionRects_ordered :
    (TMXSurfaceQuery.mk (solidCells m l) m.tileHeight).collisionRects.Pairwise
      fun r s => s.maxY < r.maxY ∨ (s.maxY = r.maxY ∧ r.maxX < s.minX) := by
  refine collisionRects_pairwise htw hth ?_ ?_
  · intro row a b a' b' hab hgap hab'
    refine .inr ⟨?_, ?_⟩
    · rw [maxY_band hth, maxY_band hth]
    · rw [maxX_band htw hab.le, minX_band htw hab'.le]
      exact xAt_lt htw hgap
  · intro row row' a b a' b' hrow hab hab'
    rw [maxY_band hth, maxY_band hth]
    exact .inl (topOf_lt hth hrow)

theorem mem_cover_collisionRects (p : Rat × Rat) :
    p ∈ Tiling.cover CGRect.cells
        (TMXSurfaceQuery.mk (solidCells m l) m.tileHeight).collisionRects ↔
      ∃ row column, l.Solid row column
        ∧ p ∈ (m.band row column (column + 1)).cells := by
  rw [mem_cover]
  constructor
  · rintro ⟨r, hr, hp⟩
    obtain ⟨row, hrow, run, hrun, rfl⟩ := (mem_collisionRects htw hth).mp hr
    obtain ⟨hopen, hsolid, _⟩ := solid_of_run hrow hrun
    rw [mem_cells_band htw hth hopen.le] at hp
    obtain ⟨column, hleft, hright⟩ := exists_column htw p.1
    have hfrom := lt_of_xAt_lt htw (hp.1.trans_lt hright)
    have hto := lt_of_xAt_lt htw (hleft.trans_lt hp.2.1)
    refine ⟨row, column, hsolid column (by omega) hto, ?_⟩
    rw [mem_cells_band htw hth (by omega)]
    exact ⟨hleft, hright, hp.2.2⟩
  · rintro ⟨row, column, hsolid, hp⟩
    obtain ⟨hrow, run, hrun, hfrom, hto⟩ := exists_run hsolid
    rw [mem_cells_band htw hth (by omega)] at hp
    refine ⟨_, (mem_collisionRects htw hth).mpr ⟨row, hrow, run, hrun, rfl⟩,
      ?_⟩
    rw [mem_cells_band htw hth (by omega)]
    have hleft := xAt_le htw hfrom
    have hright := xAt_le htw (show column + 1 ≤ run.2 by omega)
    exact ⟨hleft.trans hp.1, hp.2.1.trans_le hright, hp.2.2⟩

/-- A cell over a span, or the rectangle that has it. -/
theorem spans_iff {x0 x1 t : Rat} (hx : x0 < x1) :
    (∃ c ∈ solidCells m l, Spans x0 x1 c ∧ c.top = t) ↔
      ∃ r ∈ (TMXSurfaceQuery.mk (solidCells m l)
        m.tileHeight).collisionRects,
        r.maxY = t ∧ r.minX < x1 ∧ x0 < r.maxX := by
  constructor
  · rintro ⟨c, hc, hspans, rfl⟩
    obtain ⟨row, column, hsolid, rfl⟩ := mem_solidCells.mp hc
    obtain ⟨hrow, run, hrun, hfrom, hto⟩ := exists_run hsolid
    refine ⟨_, (mem_collisionRects htw hth).mpr ⟨row, hrow, run, hrun, rfl⟩,
      maxY_band hth, ?_, ?_⟩
    · rw [minX_band htw (by omega)]
      exact (xAt_le htw hfrom).trans_lt hspans.1
    · rw [maxX_band htw (by omega)]
      exact hspans.2.trans_le (xAt_le htw (by omega))
  · rintro ⟨r, hr, rfl, hleft, hright⟩
    obtain ⟨row, hrow, run, hrun, rfl⟩ := (mem_collisionRects htw hth).mp hr
    obtain ⟨hopen, hsolid, _⟩ := solid_of_run hrow hrun
    rw [minX_band htw hopen.le] at hleft
    rw [maxX_band htw hopen.le] at hright
    rw [maxY_band hth]
    have hcell {column : Int} (h0 : run.1 ≤ column) (h1 : column < run.2)
        (hspans : Spans x0 x1 (cellAt m row column)) :
        ∃ c ∈ solidCells m l, Spans x0 x1 c ∧ c.top = m.topOf row :=
      ⟨_, mem_solidCells.mpr ⟨row, column, hsolid column h0 h1, rfl⟩,
        hspans, rfl⟩
    by_cases hstart : x0 < m.xAt run.1
    · -- the span starts left of the run: its first cell
      refine hcell le_rfl hopen ⟨hleft, ?_⟩
      exact hstart.trans (xAt_lt htw (by omega))
    · -- the span starts in the run: the cell it starts in
      obtain ⟨column, hin, hend⟩ := exists_column htw x0
      have hfrom := lt_of_xAt_lt htw ((not_lt.mp hstart).trans_lt hend)
      have hto := lt_of_xAt_lt htw (hin.trans_lt hright)
      exact hcell (by omega) hto ⟨hin.trans_lt hx, hend⟩

theorem tops_iff {t : Rat} :
    (∃ c ∈ solidCells m l, c.top = t) ↔
      ∃ r ∈ (TMXSurfaceQuery.mk (solidCells m l)
        m.tileHeight).collisionRects, r.maxY = t := by
  constructor
  · rintro ⟨c, hc, rfl⟩
    obtain ⟨row, column, hsolid, rfl⟩ := mem_solidCells.mp hc
    obtain ⟨hrow, run, hrun, _⟩ := exists_run hsolid
    exact ⟨_, (mem_collisionRects htw hth).mpr ⟨row, hrow, run, hrun, rfl⟩,
      maxY_band hth⟩
  · rintro ⟨r, hr, rfl⟩
    obtain ⟨row, hrow, run, hrun, rfl⟩ := (mem_collisionRects htw hth).mp hr
    obtain ⟨hopen, hsolid, _⟩ := solid_of_run hrow hrun
    rw [maxY_band hth]
    exact ⟨_, mem_solidCells.mpr ⟨row, run.1, hsolid _ le_rfl hopen, rfl⟩,
      rfl⟩

end Layer

-- ============================================================= the ground

section Ground

variable (q : TMXSurfaceQuery) (x0 x1 limit : Rat)

/-- The tops the scan looks at. -/
def underTops : List Rat :=
  (q.cells.filter fun c => c.top ≤ limit ∧ c.x0 < x1 ∧ c.x1 > x0).map
    SolidCell.top

theorem groundY_eq : q.groundY x0 x1 limit =
    ((underTops q x0 x1 limit).foldl (keepLeast OrderDual.toDual)
      none).getD q.fallbackPlaneY := by
  unfold groundY underTops
  rw [List.foldl_map, List.foldl_filter]
  show (List.foldl _ none q.cells).getD _ = _
  congr 2
  funext best c
  by_cases h : c.top ≤ limit ∧ c.x0 < x1 ∧ c.x1 > x0
  · rw [if_pos h, if_pos (decide_eq_true h)]
    cases best with
    | none => rfl
    | some b => rfl
  · rw [if_neg h, if_neg (by simpa using h)]

variable {q x0 x1 limit}

theorem mem_underTops {t : Rat} :
    t ∈ underTops q x0 x1 limit ↔
      t ≤ limit ∧ ∃ c ∈ q.cells, Spans x0 x1 c ∧ c.top = t := by
  unfold underTops
  rw [List.mem_map]
  simp only [List.mem_filter, decide_eq_true_eq, Spans]
  constructor
  · rintro ⟨c, ⟨hc, hlimit, hspans⟩, rfl⟩
    exact ⟨hlimit, c, hc, hspans, rfl⟩
  · rintro ⟨hlimit, c, hc, hspans, rfl⟩
    exact ⟨c, ⟨hc, hlimit, hspans⟩, rfl⟩

/-- The lowest top, or the default. -/
theorem fallbackPlaneY_cases (q : TMXSurfaceQuery) :
    (q.cells = [] ∧ q.fallbackPlaneY = GameConstants.defaultGroundY)
      ∨ ((∃ c ∈ q.cells, c.top = q.fallbackPlaneY)
        ∧ ∀ c ∈ q.cells, q.fallbackPlaneY ≤ c.top) := by
  unfold fallbackPlaneY
  cases hmin : (q.cells.map SolidCell.top).min? with
  | none =>
      have hempty := List.min?_eq_none_iff.mp hmin
      exact .inl ⟨List.map_eq_nil_iff.mp hempty, rfl⟩
  | some t =>
      obtain ⟨hmem, hleast⟩ := List.min?_eq_some_iff.mp hmin
      obtain ⟨c, hc, rfl⟩ := List.mem_map.mp hmem
      refine .inr ⟨⟨c, hc, rfl⟩, ?_⟩
      intro d hd
      exact hleast _ (List.mem_map_of_mem hd)

variable {m : TMXMapData} {l : TMXLayer}

theorem ground (htw : 0 < m.tileWidth) (hth : 0 < m.tileHeight)
    (hx : x0 < x1) :
    Ground (TMXSurfaceQuery.mk (solidCells m l) m.tileHeight).collisionRects
      x0 x1 limit
      ((TMXSurfaceQuery.mk (solidCells m l) m.tileHeight).groundY x0 x1
        limit) := by
  generalize hq : TMXSurfaceQuery.mk (solidCells m l) m.tileHeight = q
  have hspans (t : Rat) : t ∈ underTops q x0 x1 limit ↔ t ≤ limit
      ∧ ∃ r ∈ q.collisionRects, r.maxY = t ∧ r.minX < x1 ∧ x0 < r.maxX := by
    rw [mem_underTops, ← hq]
    exact and_congr_right fun _ => spans_iff htw hth hx
  have htops (t : Rat) : (∃ c ∈ q.cells, c.top = t) ↔
      ∃ r ∈ q.collisionRects, r.maxY = t := by
    rw [← hq]
    exact tops_iff htw hth
  have hbest := optimal_foldl OrderDual.toDual (underTops q x0 x1 limit)
  rw [groundY_eq]
  generalize (underTops q x0 x1 limit).foldl _ none = best at hbest ⊢
  cases best with
  | some y =>
      obtain ⟨hmem, hhighest⟩ := hbest.least y rfl
      obtain ⟨hlimit, s, hs, rfl, hs0, hs1⟩ := (hspans y).mp hmem
      refine ⟨?_, ?_, ?_⟩
      · intro r hr hr' hr0 hr1
        refine ⟨?_, s, hs, hlimit, hs0, hs1, rfl⟩
        exact OrderDual.toDual_le_toDual.mp
          (hhighest _ ((hspans _).mpr ⟨hr', r, hr, rfl, hr0, hr1⟩))
      · intro hnone
        exact absurd ⟨hlimit, hs0, hs1⟩ (hnone s hs)
      · intro hempty
        rw [hempty] at hs
        cases hs
  | none =>
      have hempty := hbest.none_iff.mp rfl
      have hnot {r : CGRect} (hr : r ∈ q.collisionRects) :
          ¬(r.maxY ≤ limit ∧ r.minX < x1 ∧ x0 < r.maxX) := by
        rintro ⟨hlimit, h0, h1⟩
        have hin := (hspans r.maxY).mpr ⟨hlimit, r, hr, rfl, h0, h1⟩
        rw [hempty] at hin
        cases hin
      show Ground _ _ _ _ q.fallbackPlaneY
      rcases fallbackPlaneY_cases q with ⟨hcells, hdefault⟩ | ⟨hin, hlow⟩
      · have hnone : ∀ r ∈ q.collisionRects, False := by
          intro r hr
          obtain ⟨c, hc, _⟩ := (htops r.maxY).mpr ⟨r, hr, rfl⟩
          rw [hcells] at hc
          cases hc
        exact ⟨fun r hr => (hnone r hr).elim, fun _ r hr =>
          (hnone r hr).elim, fun _ => hdefault⟩
      · refine ⟨?_, ?_, ?_⟩
        · intro r hr hlimit h0 h1
          exact absurd ⟨hlimit, h0, h1⟩ (hnot hr)
        · intro _ r hr
          obtain ⟨c, hc, htop⟩ := (htops r.maxY).mpr ⟨r, hr, rfl⟩
          exact ⟨htop ▸ hlow c hc, (htops _).mp hin⟩
        · intro hrects
          obtain ⟨s, hs, _⟩ := (htops _).mp hin
          rw [hrects] at hs
          cases hs

end Ground

-- ========================================================= the whole layer

section Whole

variable {m : TMXMapData} {l : TMXLayer}

end Whole

/-- A map of one layer, on tiles of 16 by 16. -/
def oneLayer (width height : Int) (gids : List UInt32) : TMXMapData where
  width := width
  height := height
  tileWidth := 16
  tileHeight := 16
  properties := fun _ => none
  tilesets := []
  imageLayers := []
  layers := [⟨"Collision", width, height, gids⟩]
  objectGroups := []

end Exolon.Tmx

/-
The solid terrain of a level: the collision rectangles without the parts
that are open.

`subtract` cuts one rectangle out of another one and keeps up to four
strips: below, above, left and right of the overlap. `terrainRects` does
that to every rectangle, one exclusion after another: the bases of the
beacons, once no guidance is active, then the changing rooms.

`cutsOut_subtract` is the one step. What follows is about tilings and holds
of any cut that does as much.
-/
import Exolon.CoreGraphics

namespace Exolon.Tmx

open Tiling

/-- `subtract(rect:removing:)` -/
def subtract (rect cut : CGRect) : List CGRect :=
  match rect.intersection cut with
  | none => [rect]
  | some overlap =>
      if overlap.width > 0 ∧ overlap.height > 0 then
        let below :=
          if overlap.minY > rect.minY then
            [⟨rect.minX, rect.minY, rect.width, overlap.minY - rect.minY⟩]
          else []
        let above :=
          if overlap.maxY < rect.maxY then
            [⟨rect.minX, overlap.maxY, rect.width,
              rect.maxY - overlap.maxY⟩]
          else []
        let middleMinY := max rect.minY overlap.minY
        let middleMaxY := min rect.maxY overlap.maxY
        let middleHeight := middleMaxY - middleMinY
        let left :=
          if overlap.minX > rect.minX then
            [⟨rect.minX, middleMinY, overlap.minX - rect.minX,
              middleHeight⟩]
          else []
        let right :=
          if overlap.maxX < rect.maxX then
            [⟨overlap.maxX, middleMinY, rect.maxX - overlap.maxX,
              middleHeight⟩]
          else []
        let middle := if middleHeight > 0 then left ++ right else []
        (below ++ above ++ middle).filter fun piece =>
          piece.width > 0 ∧ piece.height > 0
      else [rect]

/-- The loop over exclusions. -/
def exclude (rects exclusions : List CGRect) : List CGRect :=
  exclusions.foldl
    (fun rects exclusion => rects.flatMap fun r => subtract r exclusion)
    rects

/-- What the terrain is read from: the rectangles of the map, which
guidance is active, the two kinds of exclusions. -/
structure Level where
  collisionRects : List CGRect
  missileGuidance : List Bool
  missileGuidanceBaseCollisionRects : List CGRect
  changingRoomCollisionExclusions : List CGRect

/-- `terrainRects` -/
def Level.terrainRects (l : Level) : List CGRect :=
  let rects := l.collisionRects
  let rects :=
    if !l.missileGuidance.isEmpty && !l.missileGuidance.contains true then
      exclude rects l.missileGuidanceBaseCollisionRects
    else rects
  exclude rects l.changingRoomCollisionExclusions

-- ============================================================ the strips

/-- The strips around an inner rectangle, both given by their sides. -/
def strips (x₀ x₁ y₀ y₁ a b c d : Rat) : List CGRect :=
  (if y₀ < c then [⟨x₀, y₀, x₁ - x₀, c - y₀⟩] else [])
    ++ (if d < y₁ then [⟨x₀, d, x₁ - x₀, y₁ - d⟩] else [])
    ++ ((if x₀ < a then [⟨x₀, c, a - x₀, d - c⟩] else [])
      ++ (if b < x₁ then [⟨b, c, x₁ - b, d - c⟩] else []))

section Strips

variable {x₀ x₁ y₀ y₁ a b c d : Rat}

/-- A strip is one of four, each with its sides in order. -/
theorem mem_strips {r : CGRect} :
    r ∈ strips x₀ x₁ y₀ y₁ a b c d ↔
      (y₀ < c ∧ r = ⟨x₀, y₀, x₁ - x₀, c - y₀⟩)
        ∨ (d < y₁ ∧ r = ⟨x₀, d, x₁ - x₀, y₁ - d⟩)
        ∨ (x₀ < a ∧ r = ⟨x₀, c, a - x₀, d - c⟩)
        ∨ (b < x₁ ∧ r = ⟨b, c, x₁ - b, d - c⟩) := by
  unfold strips
  simp only [List.mem_append, List.mem_ite_nil_right, List.mem_singleton]
  tauto

variable (ha : x₀ ≤ a) (hab : a < b) (hb : b ≤ x₁) (hc : y₀ ≤ c)
  (hcd : c < d) (hd : d ≤ y₁)

include ha hab hb hcd in
theorem positive_strips : ∀ r ∈ strips x₀ x₁ y₀ y₁ a b c d, r.Positive := by
  intro r hr
  have hx : x₀ < x₁ := by linarith
  rcases mem_strips.mp hr with ⟨h, rfl⟩ | ⟨h, rfl⟩ | ⟨h, rfl⟩ | ⟨h, rfl⟩
  · exact CGRect.positive_sides hx h
  · exact CGRect.positive_sides hx h
  · exact CGRect.positive_sides h hcd
  · exact CGRect.positive_sides h hcd

include ha hab hb hc hcd hd

/-- The strips have the points of the outer rectangle that the inner one
does not have. -/
theorem cover_strips (p : Rat × Rat) :
    p ∈ cover CGRect.cells (strips x₀ x₁ y₀ y₁ a b c d) ↔
      (x₀ ≤ p.1 ∧ p.1 < x₁ ∧ y₀ ≤ p.2 ∧ p.2 < y₁)
        ∧ ¬(a ≤ p.1 ∧ p.1 < b ∧ c ≤ p.2 ∧ p.2 < d) := by
  have hx : x₀ ≤ x₁ := by linarith
  rw [mem_cover]
  constructor
  · rintro ⟨r, hr, hp⟩
    rcases mem_strips.mp hr with ⟨h, rfl⟩ | ⟨h, rfl⟩ | ⟨h, rfl⟩ | ⟨h, rfl⟩
    · rw [CGRect.mem_cells_sides hx h.le] at hp
      exact ⟨⟨hp.1, hp.2.1, hp.2.2.1, by linarith⟩,
        fun hin => by linarith⟩
    · rw [CGRect.mem_cells_sides hx h.le] at hp
      exact ⟨⟨hp.1, hp.2.1, by linarith, hp.2.2.2⟩,
        fun hin => by linarith⟩
    · rw [CGRect.mem_cells_sides h.le hcd.le] at hp
      exact ⟨⟨hp.1, by linarith, by linarith, by linarith⟩,
        fun hin => by linarith⟩
    · rw [CGRect.mem_cells_sides h.le hcd.le] at hp
      exact ⟨⟨by linarith, hp.2.1, by linarith, by linarith⟩,
        fun hin => by linarith⟩
  · rintro ⟨⟨hx₀, hx₁, hy₀, hy₁⟩, hout⟩
    -- below, above, or beside: then not between the inner sides
    by_cases hbelow : p.2 < c
    · have h : y₀ < c := by linarith
      refine ⟨_, mem_strips.mpr (.inl ⟨h, rfl⟩), ?_⟩
      exact (CGRect.mem_cells_sides hx h.le p).mpr ⟨hx₀, hx₁, hy₀, hbelow⟩
    · by_cases habove : d ≤ p.2
      · have h : d < y₁ := by linarith
        refine ⟨_, mem_strips.mpr (.inr (.inl ⟨h, rfl⟩)), ?_⟩
        exact (CGRect.mem_cells_sides hx h.le p).mpr
          ⟨hx₀, hx₁, habove, hy₁⟩
      · have hmiddle : c ≤ p.2 ∧ p.2 < d := by
          constructor
          · linarith
          · linarith
        by_cases hleft : p.1 < a
        · have h : x₀ < a := by linarith
          refine ⟨_, mem_strips.mpr (.inr (.inr (.inl ⟨h, rfl⟩))), ?_⟩
          exact (CGRect.mem_cells_sides h.le hcd.le p).mpr
            ⟨hx₀, hleft, hmiddle⟩
        · have hright : b ≤ p.1 := by
            by_contra hlt
            exact hout ⟨by linarith, by linarith, hmiddle⟩
          have h : b < x₁ := by linarith
          refine ⟨_, mem_strips.mpr (.inr (.inr (.inr ⟨h, rfl⟩))), ?_⟩
          exact (CGRect.mem_cells_sides h.le hcd.le p).mpr
            ⟨hright, hx₁, hmiddle⟩

theorem apart_strips :
    Apart CGRect.cells (strips x₀ x₁ y₀ y₁ a b c d) := by
  have hx : x₀ ≤ x₁ := by linarith
  have hsub : (strips x₀ x₁ y₀ y₁ a b c d).Sublist
      [⟨x₀, y₀, x₁ - x₀, c - y₀⟩, ⟨x₀, d, x₁ - x₀, y₁ - d⟩,
        ⟨x₀, c, a - x₀, d - c⟩, ⟨b, c, x₁ - b, d - c⟩] := by
    have hone (P : Prop) [Decidable P] (r : CGRect) :
        (if P then [r] else []).Sublist [r] := by
      by_cases h : P
      · rw [if_pos h]
      · rw [if_neg h]
        exact List.nil_sublist [r]
    exact ((hone _ _).append (hone _ _)).append
      ((hone _ _).append (hone _ _))
  refine List.Pairwise.sublist hsub ?_
  -- two of the four: one of them ends where the other one starts
  simp only [List.pairwise_cons, List.mem_cons, List.not_mem_nil, or_false,
    forall_eq_or_imp, forall_eq, false_implies, implies_true,
    List.Pairwise.nil, and_true, Set.disjoint_left,
    CGRect.mem_cells_sides hx hc, CGRect.mem_cells_sides hx hd,
    CGRect.mem_cells_sides ha hcd.le, CGRect.mem_cells_sides hb hcd.le]
  refine ⟨⟨?_, ?_, ?_⟩, ⟨?_, ?_⟩, ?_⟩
  all_goals
    rintro p ⟨_, _, _, _⟩ ⟨_, _, _, _⟩
    linarith

end Strips

-- ============================================================== one cut

/-- Where the sides of two rectangles overlap. -/
theorem subtract_of_overlap {rect cut : CGRect}
    (hx : max rect.minX cut.minX < min rect.maxX cut.maxX)
    (hy : max rect.minY cut.minY < min rect.maxY cut.maxY) :
    subtract rect cut = strips rect.minX rect.maxX rect.minY rect.maxY
      (max rect.minX cut.minX) (min rect.maxX cut.maxX)
      (max rect.minY cut.minY) (min rect.maxY cut.maxY) := by
  generalize ha : max rect.minX cut.minX = a at hx ⊢
  generalize hb : min rect.maxX cut.maxX = b at hx ⊢
  generalize hc : max rect.minY cut.minY = c at hy ⊢
  generalize hd : min rect.maxY cut.maxY = d at hy ⊢
  have hinner : rect.intersection cut = some ⟨a, c, b - a, d - c⟩ := by
    unfold CGRect.intersection
    rw [ha, hb, hc, hd]
    exact if_neg (by
      rintro (h | h)
      · linarith
      · linarith)
  have hxa : rect.minX ≤ a := ha ▸ le_max_left _ _
  have hxb : b ≤ rect.maxX := hb ▸ min_le_left _ _
  have hyc : rect.minY ≤ c := hc ▸ le_max_left _ _
  have hyd : d ≤ rect.maxY := hd ▸ min_le_left _ _
  have hw : 0 ≤ b - a := by linarith
  have hh : 0 ≤ d - c := by linarith
  have hpositive : ∀ r ∈ strips rect.minX rect.maxX rect.minY rect.maxY
      a b c d, r.Positive := positive_strips hxa hx hxb hy
  have hall : (strips rect.minX rect.maxX rect.minY rect.maxY a b c d).filter
      (fun piece => piece.width > 0 ∧ piece.height > 0)
      = strips rect.minX rect.maxX rect.minY rect.maxY a b c d := by
    rw [List.filter_eq_self]
    intro piece hpiece
    exact decide_eq_true (hpositive piece hpiece)
  rw [← hall]
  unfold subtract
  rw [hinner]
  have hsides : (CGRect.mk a c (b - a) (d - c)).width > 0
      ∧ (CGRect.mk a c (b - a) (d - c)).height > 0 :=
    CGRect.positive_sides hx hy
  simp only [CGRect.minX_mk hw, CGRect.maxX_mk hw, CGRect.minY_mk hh,
    CGRect.maxY_mk hh, add_sub_cancel, max_eq_right hyc, min_eq_right hyd]
  rw [if_pos hsides, if_pos (sub_pos.mpr hy)]
  rfl

theorem subtract_of_apart {rect cut : CGRect}
    (h : ¬(max rect.minX cut.minX < min rect.maxX cut.maxX
      ∧ max rect.minY cut.minY < min rect.maxY cut.maxY)) :
    subtract rect cut = [rect] := by
  unfold subtract CGRect.intersection
  by_cases hnull : min rect.maxX cut.maxX < max rect.minX cut.minX
      ∨ min rect.maxY cut.maxY < max rect.minY cut.minY
  · simp only [if_pos hnull]
  · simp only [if_neg hnull]
    rw [not_or, not_lt, not_lt] at hnull
    have hw := sub_nonneg.mpr hnull.1
    have hh := sub_nonneg.mpr hnull.2
    refine if_neg ?_
    unfold CGRect.width CGRect.height
    rw [CGRect.minX_mk hw, CGRect.maxX_mk hw, CGRect.minY_mk hh,
      CGRect.maxY_mk hh]
    rintro ⟨hx, hy⟩
    exact h ⟨by linarith, by linarith⟩

/-- `subtract` takes the points of the cut out of a rectangle. -/
theorem cutsOut_subtract (cut : CGRect) :
    CutsOut CGRect.cells CGRect.Positive (fun rect => subtract rect cut)
      cut.cells := by
  have hwhole (rect : CGRect) (hpositive : rect.Positive) :
      (∀ piece ∈ subtract rect cut, piece.Positive)
        ∧ Apart CGRect.cells (subtract rect cut)
        ∧ cover CGRect.cells (subtract rect cut)
          = rect.cells \ cut.cells := by
    by_cases h : max rect.minX cut.minX < min rect.maxX cut.maxX
        ∧ max rect.minY cut.minY < min rect.maxY cut.maxY
    · have hxa := le_max_left rect.minX cut.minX
      have hxb := min_le_left rect.maxX cut.maxX
      have hyc := le_max_left rect.minY cut.minY
      have hyd := min_le_left rect.maxY cut.maxY
      rw [subtract_of_overlap h.1 h.2]
      refine ⟨positive_strips hxa h.1 hxb h.2,
        apart_strips hxa h.1 hxb hyc h.2 hyd, ?_⟩
      ext p
      rw [cover_strips hxa h.1 hxb hyc h.2 hyd]
      show _ ↔ (_ ∧ _ ∧ _ ∧ _) ∧ ¬(_ ∧ _ ∧ _ ∧ _)
      simp only [max_le_iff, lt_min_iff]
      tauto
    · rw [subtract_of_apart h]
      refine ⟨?_, List.pairwise_singleton _ _, ?_⟩
      · intro piece hpiece
        rw [List.mem_singleton.mp hpiece]
        exact hpositive
      · ext p
        rw [cover_cons, cover_nil, Set.union_empty]
        constructor
        · intro hp
          refine ⟨hp, ?_⟩
          intro hcut
          apply h
          simp only [max_lt_iff, lt_min_iff]
          have hin := And.intro hp hcut
          obtain ⟨⟨_, _, _, _⟩, _, _, _, _⟩ := hin
          refine ⟨⟨⟨?_, ?_⟩, ?_, ?_⟩, ⟨?_, ?_⟩, ?_, ?_⟩
          all_goals linarith
        · exact fun hp => hp.1
  refine ⟨?_, ?_, ?_⟩
  · exact fun rect hpositive => (hwhole rect hpositive).1
  · exact fun rect hpositive => (hwhole rect hpositive).2.1
  · exact fun rect hpositive => (hwhole rect hpositive).2.2

-- ============================================================ the terrain

/-- The exclusions that are in force. -/
def Level.exclusions (l : Level) : List CGRect :=
  (if !l.missileGuidance.isEmpty && !l.missileGuidance.contains true then
    l.missileGuidanceBaseCollisionRects else [])
    ++ l.changingRoomCollisionExclusions

theorem terrainRects_eq (l : Level) :
    l.terrainRects = exclude l.collisionRects l.exclusions := by
  unfold Level.terrainRects Level.exclusions exclude
  rw [List.foldl_append]
  split
  · rfl
  · rfl

/-- The exclusions leave exactly the points that are in none of them, in
whatever order they come; the terrain of a level is what is left. -/
theorem terrain_exclusion_exact {rects : List CGRect}
    (hpositive : ∀ r ∈ rects, r.Positive) (hapart : Apart CGRect.cells rects)
    (exclusions : List CGRect) :
    (∀ r ∈ exclude rects exclusions, r.Positive)
      ∧ Apart CGRect.cells (exclude rects exclusions)
      ∧ (∀ p, p ∈ cover CGRect.cells (exclude rects exclusions) ↔
        p ∈ cover CGRect.cells rects ∧ ∀ e ∈ exclusions, p ∉ e.cells)
      ∧ (∀ other, other.Perm exclusions →
        cover CGRect.cells (exclude rects other)
          = cover CGRect.cells (exclude rects exclusions))
      ∧ ∀ l : Level, l.collisionRects = rects →
        l.terrainRects = exclude rects l.exclusions := by
  have hcover := cover_cutAll cutsOut_subtract hpositive
  refine ⟨valid_cutAll cutsOut_subtract hpositive exclusions,
    apart_cutAll cutsOut_subtract hpositive hapart exclusions,
    hcover exclusions, ?_, ?_⟩
  · intro other hperm
    ext p
    show p ∈ cover CGRect.cells (cutAll _ rects other) ↔
      p ∈ cover CGRect.cells (cutAll _ rects exclusions)
    rw [hcover, hcover]
    simp only [hperm.mem_iff]
  · intro l hrects
    rw [terrainRects_eq, hrects]

/-- A floor of three cells, and a hole over its middle. -/
theorem terrain_exclusion_exact_middle :
    (0, 0) ∈ cover CGRect.cells (exclude [⟨0, 0, 48, 16⟩] [⟨16, 8, 16, 8⟩])
      ∧ (20, 10) ∉ cover CGRect.cells
        (exclude [⟨0, 0, 48, 16⟩] [⟨16, 8, 16, 8⟩]) := by
  have hpositive : ∀ r ∈ [CGRect.mk 0 0 48 16], r.Positive := by
    intro r hr
    rw [List.mem_singleton.mp hr]
    norm_num [CGRect.Positive, CGRect.width, CGRect.height, CGRect.minX,
      CGRect.maxX, CGRect.minY, CGRect.maxY]
  have hexact := (terrain_exclusion_exact hpositive
    (List.pairwise_singleton _ _) [⟨16, 8, 16, 8⟩]).2.2.1
  rw [hexact, hexact]
  simp [cover, CGRect.cells, CGRect.minX, CGRect.maxX, CGRect.minY,
    CGRect.maxY]
  norm_num

end Exolon.Tmx

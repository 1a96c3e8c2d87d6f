/-
Tilings: lists of pieces that cover a set of points, none of them twice.

`cells` says which points a piece has; what a piece is does not matter. A
cut replaces each piece by some pieces of what is left of it outside a
hole (`CutsOut`). `cover_cutAll` and `apart_cutAll` follow a list of cuts,
by induction on the list: the pieces stay apart and cover what no hole
covers, so the order of the cuts does not show in the points.
-/
import Mathlib

namespace Exolon.Tiling

universe u v w

variable {α : Type u} {β : Type v} {γ : Type w} (cells : β → Set α)

/-- The points some piece has. -/
def cover (pieces : List β) : Set α := {p | ∃ b ∈ pieces, p ∈ cells b}

/-- No two pieces have a point in common. -/
def Apart (pieces : List β) : Prop :=
  pieces.Pairwise fun a b => Disjoint (cells a) (cells b)

variable {cells}

theorem mem_cover {pieces : List β} {p : α} :
    p ∈ cover cells pieces ↔ ∃ b ∈ pieces, p ∈ cells b := Iff.rfl

@[simp] theorem cover_nil : cover cells [] = ∅ := by
  ext p
  simp [cover]

@[simp] theorem cover_cons (b : β) (pieces : List β) :
    cover cells (b :: pieces) = cells b ∪ cover cells pieces := by
  ext p
  simp [cover]

@[simp] theorem cover_append (l r : List β) :
    cover cells (l ++ r) = cover cells l ∪ cover cells r := by
  ext p
  simp [cover, or_and_right, exists_or]

/-- A cut leaves of a valid piece what is outside the hole, in pieces that
are apart and valid again. -/
structure CutsOut (cells : β → Set α) (valid : β → Prop)
    (cut : β → List β) (hole : Set α) : Prop where
  keeps : ∀ b, valid b → ∀ piece ∈ cut b, valid piece
  apart : ∀ b, valid b → Apart cells (cut b)
  covers : ∀ b, valid b → cover cells (cut b) = cells b \ hole

section Cut

variable {valid : β → Prop} {cut : β → List β} {hole : Set α}
  {pieces : List β}

theorem CutsOut.keeps_flatMap (h : CutsOut cells valid cut hole)
    (hvalid : ∀ b ∈ pieces, valid b) :
    ∀ b ∈ pieces.flatMap cut, valid b := by
  intro piece hpiece
  obtain ⟨b, hb, hmem⟩ := List.mem_flatMap.mp hpiece
  exact h.keeps b (hvalid b hb) piece hmem

theorem CutsOut.cover_flatMap (h : CutsOut cells valid cut hole)
    (hvalid : ∀ b ∈ pieces, valid b) :
    Tiling.cover cells (pieces.flatMap cut)
      = Tiling.cover cells pieces \ hole := by
  induction pieces with
  | nil => simp
  | cons b pieces ih =>
      rw [List.forall_mem_cons] at hvalid
      rw [List.flatMap_cons, cover_append, cover_cons, h.covers b hvalid.1,
        ih hvalid.2, Set.union_sdiff_distrib]

/-- A piece of what is left of `b` has points of `b` only. -/
theorem CutsOut.subset (h : CutsOut cells valid cut hole) {b piece : β}
    (hvalid : valid b) (hpiece : piece ∈ cut b) : cells piece ⊆ cells b := by
  intro p hp
  have hcover : p ∈ Tiling.cover cells (cut b) := ⟨piece, hpiece, hp⟩
  rw [h.covers b hvalid] at hcover
  exact hcover.1

theorem CutsOut.apart_flatMap (h : CutsOut cells valid cut hole)
    (hvalid : ∀ b ∈ pieces, valid b) (hapart : Apart cells pieces) :
    Apart cells (pieces.flatMap cut) := by
  unfold Apart at hapart ⊢
  rw [List.pairwise_flatMap]
  refine ⟨fun b hb => h.apart b (hvalid b hb), ?_⟩
  refine hapart.imp_of_mem ?_
  intro a b ha hb hdisjoint piece hpiece other hother
  exact hdisjoint.mono (h.subset (hvalid a ha) hpiece)
    (h.subset (hvalid b hb) hother)

end Cut

-- ============================================================= many cuts

section Cuts

variable {valid : β → Prop} {cut : γ → β → List β} {hole : γ → Set α}
  {pieces : List β}

/-- One cut after another, each over all the pieces there are by then. -/
def cutAll (cut : γ → β → List β) (pieces : List β) (cuts : List γ) :
    List β :=
  cuts.foldl (fun pieces c => pieces.flatMap (cut c)) pieces

theorem valid_cutAll (h : ∀ c, CutsOut cells valid (cut c) (hole c))
    (hvalid : ∀ b ∈ pieces, valid b) (cuts : List γ) :
    ∀ b ∈ cutAll cut pieces cuts, valid b := by
  induction cuts generalizing pieces with
  | nil => exact hvalid
  | cons c cuts ih => exact ih ((h c).keeps_flatMap hvalid)

theorem apart_cutAll (h : ∀ c, CutsOut cells valid (cut c) (hole c))
    (hvalid : ∀ b ∈ pieces, valid b) (hapart : Apart cells pieces)
    (cuts : List γ) : Apart cells (cutAll cut pieces cuts) := by
  induction cuts generalizing pieces with
  | nil => exact hapart
  | cons c cuts ih =>
      exact ih ((h c).keeps_flatMap hvalid)
        ((h c).apart_flatMap hvalid hapart)

/-- What is left has the points that are in no hole. -/
theorem cover_cutAll (h : ∀ c, CutsOut cells valid (cut c) (hole c))
    (hvalid : ∀ b ∈ pieces, valid b) (cuts : List γ) (p : α) :
    p ∈ cover cells (cutAll cut pieces cuts) ↔
      p ∈ cover cells pieces ∧ ∀ c ∈ cuts, p ∉ hole c := by
  induction cuts generalizing pieces with
  | nil => simp [cutAll]
  | cons c cuts ih =>
      have hrest := ih ((h c).keeps_flatMap hvalid)
      rw [(h c).cover_flatMap hvalid] at hrest
      rw [List.forall_mem_cons, ← and_assoc]
      exact hrest

end Cuts

end Exolon.Tiling

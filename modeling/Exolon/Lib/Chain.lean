/-
Hash chains: what the last digest says about the whole chain.

A chain starts at a digest and links one entry after another to the digest
before it. `tip` is the last digest, `links` are the pairs that were hashed
on the way. `tip_inj`: when no link of one chain has the digest of another
link of the second one, and none has the digest a chain starts at, chains
with the same tip are the same. The induction is from the end of the chain,
which is the only place that the tip says anything about.
-/
import Mathlib

namespace Exolon.Chain

universe u v

variable {δ : Type u} {ε : Type v}

/-- The last digest of a chain. -/
def tip (link : δ → ε → δ) (start : δ) (entries : List ε) : δ :=
  entries.foldl link start

/-- The pairs a chain hashes, in order. -/
def links (link : δ → ε → δ) : δ → List ε → List (δ × ε)
  | _, [] => []
  | d, e :: entries => (d, e) :: links link (link d e) entries

/-- No two links of the chains collide, and none leads back to the start. -/
structure Apart (link : δ → ε → δ) (start : δ) (entries entries' : List ε) :
    Prop where
  inj : ∀ l ∈ links link start entries, ∀ l' ∈ links link start entries',
    link l.1 l.2 = link l'.1 l'.2 → l = l'
  fresh : ∀ l ∈ links link start entries, link l.1 l.2 ≠ start
  fresh' : ∀ l ∈ links link start entries', link l.1 l.2 ≠ start

section Tip

variable {link : δ → ε → δ} {start : δ}

@[simp] theorem tip_nil : tip link start [] = start := rfl

@[simp] theorem tip_concat (entries : List ε) (e : ε) :
    tip link start (entries ++ [e]) = link (tip link start entries) e := by
  unfold tip
  rw [List.foldl_append]
  rfl

/-- One more entry is one more link, at the tip. -/
theorem links_concat (entries : List ε) (e : ε) :
    links link start (entries ++ [e])
      = links link start entries ++ [(tip link start entries, e)] := by
  induction entries generalizing start with
  | nil => rfl
  | cons e' entries ih =>
      rw [List.cons_append, links, links, ih, List.cons_append]
      rfl

theorem mem_links_concat (entries : List ε) (e : ε) :
    (tip link start entries, e) ∈ links link start (entries ++ [e]) := by
  rw [links_concat]
  exact List.mem_append_right _ (List.mem_singleton_self _)

/-- Chains that are apart have the same tip only when they are the same. -/
theorem tip_inj {entries entries' : List ε}
    (h : Apart link start entries entries')
    (htip : tip link start entries = tip link start entries') :
    entries = entries' := by
  induction entries using List.reverseRecOn generalizing entries' with
  | nil =>
      induction entries' using List.reverseRecOn with
      | nil => rfl
      | append_singleton entries' e' _ =>
          rw [tip_nil, tip_concat] at htip
          exact absurd htip.symm (h.fresh' _ (mem_links_concat entries' e'))
  | append_singleton entries e ih =>
      induction entries' using List.reverseRecOn with
      | nil =>
          rw [tip_nil, tip_concat] at htip
          exact absurd htip (h.fresh _ (mem_links_concat entries e))
      | append_singleton entries' e' _ =>
          rw [tip_concat, tip_concat] at htip
          have hlast := h.inj _ (mem_links_concat entries e) _
            (mem_links_concat entries' e') htip
          obtain ⟨hbefore, hentry⟩ := Prod.mk.inj hlast
          have hpre : Apart link start entries entries' := by
            refine ⟨?_, ?_, ?_⟩
            · intro l hl l' hl'
              refine h.inj l ?_ l' ?_
              · rw [links_concat]
                exact List.mem_append_left _ hl
              · rw [links_concat]
                exact List.mem_append_left _ hl'
            · intro l hl
              refine h.fresh l ?_
              rw [links_concat]
              exact List.mem_append_left _ hl
            · intro l hl
              refine h.fresh' l ?_
              rw [links_concat]
              exact List.mem_append_left _ hl
          rw [ih hpre hbefore, hentry]

end Tip

end Exolon.Chain

/-
Sorting by a key.

`sortedBy` is a stable sort. Values with distinct keys have one order
(`sortedBy_perm`); where keys repeat, the values of each key stay in the
order they had, and that fixes the result (`eq_of_filter`).
-/
import Mathlib

namespace Exolon

section Order

variable {α κ : Type} [LinearOrder κ]

/-- `sorted(values, key=...)` -/
def sortedBy (key : α → κ) (values : List α) : List α :=
  values.insertionSort fun a b => key a ≤ key b

theorem sortedBy_perm_self (key : α → κ) (values : List α) :
    (sortedBy key values).Perm values :=
  List.perm_insertionSort _ _

theorem mem_sortedBy {key : α → κ} {values : List α} {a : α} :
    a ∈ sortedBy key values ↔ a ∈ values :=
  (sortedBy_perm_self key values).mem_iff

theorem pairwise_sortedBy (key : α → κ) (values : List α) :
    (sortedBy key values).Pairwise fun a b => key a ≤ key b := by
  have htotal : Std.Total fun a b : α => key a ≤ key b :=
    ⟨fun a b => le_total _ _⟩
  have htrans : IsTrans α fun a b => key a ≤ key b :=
    ⟨fun a b c => le_trans⟩
  exact List.pairwise_insertionSort _ values

/-- Sorted lists of the same values, no key twice. -/
theorem eq_of_sorted {key : α → κ} {l l' : List α} (hperm : l.Perm l')
    (hnodup : (l.map key).Nodup)
    (hl : l.Pairwise fun a b => key a ≤ key b)
    (hl' : l'.Pairwise fun a b => key a ≤ key b) : l = l' := by
  refine hperm.eq_of_pairwise ?_ hl hl'
  intro a b ha hb hab hba
  exact List.inj_on_of_nodup_map hnodup ha (hperm.mem_iff.mpr hb)
    (le_antisymm hab hba)

/-- Values with distinct keys have one order. -/
theorem sortedBy_perm {key : α → κ} {values values' : List α}
    (hperm : values.Perm values') (hnodup : (values.map key).Nodup) :
    sortedBy key values = sortedBy key values' := by
  have hwhole : (sortedBy key values).Perm (sortedBy key values') :=
    ((sortedBy_perm_self key values).trans hperm).trans
      (sortedBy_perm_self key values').symm
  refine eq_of_sorted hwhole ?_ (pairwise_sortedBy _ _)
    (pairwise_sortedBy _ _)
  exact ((sortedBy_perm_self key values).map key).nodup_iff.mpr hnodup

theorem mem_iff_of_filter {key : α → κ} {l l' : List α}
    (hfilter : ∀ k, l.filter (fun a => key a = k)
      = l'.filter (fun a => key a = k)) (a : α) : a ∈ l ↔ a ∈ l' := by
  have hsame : a ∈ l.filter (fun b => key b = key a)
      ↔ a ∈ l'.filter (fun b => key b = key a) := by
    rw [hfilter]
  simpa using hsame

/-- Sorted lists that agree on the values of each key, in their order. -/
theorem eq_of_filter {key : α → κ} {l l' : List α}
    (hl : l.Pairwise fun a b => key a ≤ key b)
    (hl' : l'.Pairwise fun a b => key a ≤ key b)
    (hfilter : ∀ k, l.filter (fun a => key a = k)
      = l'.filter (fun a => key a = k)) : l = l' := by
  have hmem := mem_iff_of_filter hfilter
  induction l generalizing l' with
  | nil =>
      cases l' with
      | nil => rfl
      | cons b l' => exact absurd ((hmem b).mpr (by simp)) (by simp)
  | cons a l ih =>
      cases l' with
      | nil => exact absurd ((hmem a).mp (by simp)) (by simp)
      | cons b l' =>
          rw [List.pairwise_cons] at hl hl'
          -- each head is in the other list, so their keys agree
          have hkey : key a = key b := by
            apply le_antisymm
            · rcases List.mem_cons.mp ((hmem b).mpr (by simp)) with h | h
              · rw [h]
              · exact hl.1 b h
            · rcases List.mem_cons.mp ((hmem a).mp (by simp)) with h | h
              · rw [h]
              · exact hl'.1 a h
          have hhead := hfilter (key b)
          simp only [List.filter_cons, hkey, decide_true, if_true,
            List.cons.injEq] at hhead
          have htail (k : κ) : l.filter (fun c => key c = k)
              = l'.filter (fun c => key c = k) := by
            by_cases hk : key b = k
            · rw [← hk]
              exact hhead.2
            · have h := hfilter k
              simpa [List.filter_cons, hkey, hk] using h
          rw [hhead.1, ih hl.2 hl'.2 htail (mem_iff_of_filter htail)]

end Order

end Exolon

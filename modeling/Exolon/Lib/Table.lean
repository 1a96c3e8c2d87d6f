/-
Tables of rows, in the order of their insertion.

`update p f` is an UPDATE of the rows that meet `p`; an INSERT appends. What
an update leaves alone in every row it leaves alone in the table
(`map_update`), a later update of the same rows is one with it
(`update_update`), and a query that does not look at what is written finds
the rows it would have found (`find?_update`). Where the rows have keys, the
query for a key finds its row (`find?_key`), and an update of one row changes
a total by what it changes in the row (`sum_update`).
`first before` is the row that an ORDER BY puts before the others, and a row
beyond a LIMIT comes after those within it (`before_of_not_mem_take`).
-/
import Mathlib

namespace Exolon.Table

universe u v

variable {α : Type u} {β : Type v} {p q : α → Bool} {f g : α → α}
  {rows : List α}

/-- `UPDATE … SET f WHERE p` -/
def update (p : α → Bool) (f : α → α) (rows : List α) : List α :=
  rows.map fun a => if p a then f a else a

theorem mem_update {b : α} :
    b ∈ update p f rows ↔ ∃ a ∈ rows, (if p a then f a else a) = b :=
  List.mem_map

/-- What the update leaves alone in a row, it leaves alone in the table. -/
theorem map_update {g : α → β} (h : ∀ a ∈ rows, p a → g (f a) = g a) :
    (update p f rows).map g = rows.map g := by
  unfold update
  rw [List.map_map]
  apply List.map_congr_left
  intro a ha
  show g (if p a then f a else a) = g a
  by_cases hp : p a
  · rw [if_pos hp, h a ha hp]
  · rw [if_neg hp]

/-- Two updates of the same rows are one. -/
theorem update_update (h : ∀ a, p a → p (f a)) :
    update p g (update p f rows) = update p (fun a => g (f a)) rows := by
  unfold update
  rw [List.map_map]
  apply List.map_congr_left
  intro a _
  show (if p (if p a then f a else a) then _ else _) = _
  by_cases hp : p a
  · simp only [if_pos hp, if_pos (h a hp)]
  · simp only [if_neg hp]

/-- A query that finds the same before and after an update. -/
theorem find?_update (h : ∀ a, p a → q (f a) = q a) :
    (update p f rows).find? q
      = (rows.find? q).map fun a => if p a then f a else a := by
  unfold update
  rw [List.find?_map]
  congr 2
  funext a
  show q (if p a then f a else a) = q a
  by_cases hp : p a
  · rw [if_pos hp, h a hp]
  · rw [if_neg hp]

-- ================================================================ totals

/-- An update that no row meets changes nothing. -/
theorem update_of_none (h : ∀ a ∈ rows, p a = false) :
    update p f rows = rows := by
  unfold update
  conv_rhs => rw [← List.map_id rows]
  apply List.map_congr_left
  intro a ha
  rw [h a ha]
  rfl

section Keys

variable [DecidableEq β] {key : α → β} {a : α}

/-- An update of the row of a key changes a total by what it changes in the
row. -/
theorem sum_update {v : α → Nat} (hkeys : (rows.map key).Nodup)
    (ha : a ∈ rows) :
    ((update (fun b => key b = key a) f rows).map v).sum + v a
      = (rows.map v).sum + v (f a) := by
  induction rows with
  | nil => cases ha
  | cons b rows ih =>
      rw [List.map_cons, List.nodup_cons] at hkeys
      unfold update
      rw [List.map_cons, List.map_cons, List.sum_cons, List.map_cons,
        List.sum_cons]
      by_cases hb : key b = key a
      · have hab : a = b := by
          rcases List.mem_cons.mp ha with hab | ha
          · exact hab
          · exact absurd (hb ▸ List.mem_map_of_mem ha) hkeys.1
        have hrest : update (fun b => decide (key b = key a)) f rows
            = rows := by
          apply update_of_none
          intro c hc
          rw [decide_eq_false_iff_not]
          intro hsame
          exact hkeys.1 (hb.trans hsame.symm ▸ List.mem_map_of_mem hc)
        unfold update at hrest
        rw [hrest, if_pos (decide_eq_true hb), hab]
        omega
      · rw [if_neg (by rw [decide_eq_true_eq]; exact hb)]
        have ha' : a ∈ rows := by
          rcases List.mem_cons.mp ha with hab | ha
          · exact absurd (hab ▸ rfl) hb
          · exact ha
        have htail := ih hkeys.2 ha'
        unfold update at htail
        omega

theorem countP_eq_sum (rows : List α) :
    rows.countP q = (rows.map fun a => if q a then 1 else 0).sum := by
  induction rows with
  | nil => rfl
  | cons a rows ih =>
      rw [List.countP_cons, List.map_cons, List.sum_cons, ih]
      omega

/-- So it changes the number of the rows that meet a condition. -/
theorem countP_update (hkeys : (rows.map key).Nodup) (ha : a ∈ rows) :
    (update (fun b => key b = key a) f rows).countP q
        + (if q a then 1 else 0)
      = rows.countP q + if q (f a) then 1 else 0 := by
  rw [countP_eq_sum, countP_eq_sum]
  exact sum_update hkeys ha

end Keys

/-- The query for the key of a row finds the row. -/
theorem find?_key [DecidableEq β] {key : α → β} (hkeys : (rows.map key).Nodup)
    {a : α} (ha : a ∈ rows) :
    rows.find? (fun b => decide (key b = key a)) = some a := by
  cases hfound : rows.find? fun b => decide (key b = key a) with
  | none =>
      rw [List.find?_eq_none] at hfound
      exact absurd (decide_eq_true rfl) (hfound a ha)
  | some b =>
      have hsame := List.find?_some hfound
      rw [List.inj_on_of_nodup_map hkeys (List.mem_of_find?_eq_some hfound) ha
        (of_decide_eq_true hsame)]

/-- At most one row of a key meets a condition that only rows of the key
meet. -/
theorem countP_le_one {key : α → β} {k : β} (hkeys : (rows.map key).Nodup)
    (hq : ∀ a ∈ rows, q a → key a = k) : rows.countP q ≤ 1 := by
  rw [List.countP_eq_length_filter, ← List.length_map (f := key)]
  have hall : (rows.filter q).map key
      = List.replicate ((rows.filter q).map key).length k := by
    apply List.eq_replicate_of_mem
    intro b hb
    obtain ⟨a, ha, rfl⟩ := List.mem_map.mp hb
    obtain ⟨hmem, hmeets⟩ := List.mem_filter.mp ha
    exact hq a hmem hmeets
  have hnodup : ((rows.filter q).map key).Nodup :=
    hkeys.sublist (List.filter_sublist.map key)
  rw [hall, List.nodup_replicate] at hnodup
  exact hnodup

/-- What is not among the first rows of an order comes after them. -/
theorem before_of_not_mem_take {before : α → α → Prop}
    (hordered : rows.Pairwise before) {a : α} (ha : a ∈ rows) {n : Nat}
    (hlater : a ∉ rows.take n) : ∀ b ∈ rows.take n, before b a := by
  intro b hb
  rw [← List.take_append_drop n rows] at hordered ha
  rcases List.mem_append.mp ha with ha | ha
  · exact absurd ha hlater
  · exact (List.pairwise_append.mp hordered).2.2 b hb a ha

/-- Where each row has one entry at most, with the key of the row, the keys
of the entries are keys of the rows. -/
theorem sublist_map_flatMap {γ : Type*} {key : α → β} {entries : α → List γ}
    {entryKey : γ → β} (hone : ∀ a ∈ rows, (entries a).length ≤ 1)
    (hkey : ∀ a ∈ rows, ∀ c ∈ entries a, entryKey c = key a) :
    List.Sublist ((rows.flatMap entries).map entryKey) (rows.map key) := by
  induction rows with
  | nil => exact List.Sublist.refl _
  | cons a rows ih =>
      rw [List.forall_mem_cons] at hone hkey
      have hrest := ih hone.2 hkey.2
      rw [List.flatMap_cons, List.map_append, List.map_cons]
      cases hentries : entries a with
      | nil => exact hrest.cons _
      | cons c others =>
          have hlength := hone.1
          rw [hentries, List.length_cons] at hlength
          have hothers : others = [] := by
            apply List.eq_nil_of_length_eq_zero
            omega
          rw [hothers, List.map_cons, List.map_nil, List.singleton_append,
            hkey.1 c (by rw [hentries]; exact List.mem_cons_self)]
          exact hrest.cons_cons _

-- ================================================================= order

/-- `ORDER BY … LIMIT 1`: `before` says which of two rows comes first. -/
def first (before : α → α → Bool) : List α → Option α
  | [] => none
  | a :: rows =>
      match first before rows with
      | none => some a
      | some b => if before b a then some b else some a

theorem mem_of_first {before : α → α → Bool} {a : α}
    (h : first before rows = some a) : a ∈ rows := by
  induction rows with
  | nil => cases h
  | cons c rows ih =>
      unfold first at h
      cases hrest : first before rows with
      | none =>
          rw [hrest] at h
          cases h
          exact List.mem_cons_self
      | some b =>
          rw [hrest] at h
          dsimp only at h
          by_cases hb : before b c
          · rw [if_pos hb] at h
            exact List.mem_cons_of_mem c (ih (hrest.trans h))
          · rw [if_neg hb] at h
            cases h
            exact List.mem_cons_self

end Exolon.Table

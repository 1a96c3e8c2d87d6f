/-
Pages of a table that grows.

A table is listed in the order of a key, page by page; each page starts
behind the key of the last row of the page before, and says whether there is
more. Where new rows get larger keys, the pages are the rows without a gap
and without a repetition, also when the table grows between two of them
(`Read.page`), and the page that says there is no more ends with the last row
of the table it was taken from (`page_all`).
-/
import Mathlib

namespace Exolon.Pages

universe u v

variable {α : Type u} {κ : Type v} {key : α → κ} {rows rows' seen : List α}
  {cursor : Option κ} {limit : Nat}

/-- What was read of a table: its first rows, up to the cursor. -/
structure Read (key : α → κ) (rows seen : List α) (cursor : Option κ) :
    Prop where
  first : seen <+: rows
  last : cursor = seen.getLast?.map key

theorem Read.start (rows : List α) : Read key rows [] none :=
  ⟨List.nil_prefix, rfl⟩

/-- What was read of a table was read of the one it grows to. -/
theorem Read.grow (h : Read key rows seen cursor) (hgrow : rows <+: rows') :
    Read key rows' seen cursor :=
  ⟨h.first.trans hgrow, h.last⟩

variable [LinearOrder κ]

/-- The rows behind the cursor, in the order of their keys. -/
def behind (key : α → κ) (cursor : Option κ) (rows : List α) : List α :=
  (rows.filter fun a => cursor.all fun c => c < key a).insertionSort
    fun a b => key a ≤ key b

/-- A page, and the cursor of the next one if there is more. -/
def page (key : α → κ) (limit : Nat) (cursor : Option κ) (rows : List α) :
    List α × Option κ :=
  let found := behind key cursor rows
  (found.take limit,
    if limit < found.length then (found.take limit).getLast?.map key
    else none)

/-- The rows behind the cursor are the ones that were not read. -/
theorem Read.behind_eq (h : Read key rows seen cursor)
    (hsorted : rows.Pairwise fun a b => key a < key b) :
    seen ++ behind key cursor rows = rows := by
  obtain ⟨rest, rfl⟩ := h.first
  obtain ⟨_, hrest, hacross⟩ := List.pairwise_append.mp hsorted
  congr 1
  have hkept : (seen ++ rest).filter (fun a => cursor.all fun c => c < key a)
      = rest := by
    rw [List.filter_append]
    have hold : seen.filter (fun a => cursor.all fun c => c < key a) = [] := by
      rw [List.filter_eq_nil_iff, h.last]
      intro a ha hlt
      cases hlast : seen.getLast? with
      | none =>
          rw [List.getLast?_eq_none_iff.mp hlast] at ha
          cases ha
      | some b =>
          rw [hlast] at hlt
          have hba : key b < key a := of_decide_eq_true hlt
          obtain ⟨front, rfl⟩ := List.getLast?_eq_some_iff.mp hlast
          rcases List.mem_append.mp ha with ha | ha
          · have hsorted' := (List.pairwise_append.mp hsorted).1
            have hab := (List.pairwise_append.mp hsorted').2.2 a ha b
              (List.mem_singleton_self b)
            exact lt_asymm hab hba
          · rw [List.mem_singleton.mp ha] at hba
            exact lt_irrefl _ hba
    have hnew : rest.filter (fun a => cursor.all fun c => c < key a)
        = rest := by
      rw [List.filter_eq_self, h.last]
      intro a ha
      cases hlast : seen.getLast? with
      | none => rfl
      | some b =>
          exact decide_eq_true
            (hacross b (List.mem_of_getLast? hlast) a ha)
    rw [hold, hnew]
    rfl
  unfold behind
  rw [hkept]
  apply List.Pairwise.insertionSort_eq
  exact hrest.imp fun hlt => hlt.le

/-- A page goes on where the one before it ended. -/
theorem Read.page (h : Read key rows seen cursor)
    (hsorted : rows.Pairwise fun a b => key a < key b)
    (hmore : (page key limit cursor rows).2 ≠ none) :
    Read key rows (seen ++ (page key limit cursor rows).1)
      (page key limit cursor rows).2 := by
  have hall := h.behind_eq hsorted
  unfold Pages.page at hmore ⊢
  dsimp only at hmore ⊢
  refine ⟨?_, ?_⟩
  · conv_rhs => rw [← hall]
    exact (List.prefix_append_right_inj seen).mpr (List.take_prefix _ _)
  · split at hmore
    case isFalse => exact absurd rfl hmore
    case isTrue hlong =>
      rw [if_pos hlong]
      rw [List.getLast?_append]
      cases hlast : ((behind key cursor rows).take limit).getLast? with
      | none =>
          rw [hlast] at hmore
          exact absurd rfl hmore
      | some b => rfl

/-- A page that says there is no more is the rest of the table. -/
theorem Read.page_all (h : Read key rows seen cursor)
    (hsorted : rows.Pairwise fun a b => key a < key b) (hlimit : 1 ≤ limit)
    (hdone : (Pages.page key limit cursor rows).2 = none) :
    seen ++ (Pages.page key limit cursor rows).1 = rows := by
  have hall := h.behind_eq hsorted
  unfold Pages.page at hdone ⊢
  dsimp only at hdone ⊢
  split at hdone
  case isTrue hlong =>
    -- a page of at least one row has a last one
    rw [Option.map_eq_none_iff, List.getLast?_eq_none_iff,
      List.take_eq_nil_iff] at hdone
    obtain hzero | hnil := hdone
    · omega
    · rw [hnil] at hlong
      cases hlong
  case isFalse hshort =>
    rw [List.take_of_length_le (Nat.le_of_not_lt hshort)]
    exact hall

/-- A page that is not the last one is full. -/
theorem length_page (hmore : (page key limit cursor rows).2 ≠ none) :
    (page key limit cursor rows).1.length = limit := by
  unfold page at hmore ⊢
  dsimp only at hmore ⊢
  split at hmore
  case isTrue hlong =>
    rw [List.length_take]
    omega
  case isFalse => exact absurd rfl hmore

end Exolon.Pages

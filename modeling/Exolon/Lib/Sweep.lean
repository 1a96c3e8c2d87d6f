/-
Groups of intervals from one sweep over them.

The intervals come in the order of their starts. The sweep keeps the
largest end so far, from a floor on, and opens a group with every interval
that starts there or later. What it is for are the connected components of
strict overlap (`Connected`).

The groups never cut a component apart (`together_of_connected`), whatever
the floor is. They join two of them exactly at a `Stray` interval: one that
overlaps none before it and still starts below the floor or below an end
before it. `together_iff` is both halves.
-/
import Mathlib

namespace Exolon.Sweep

open Relation

universe u v

variable {α : Type u} {κ : Type v} [LinearOrder κ] (start stop : α → κ)

/-- The groups of the rest of a sweep with the group `current` open. -/
def groupsFrom (reach : κ) (current : List α) : List α → List (List α)
  | [] => if current.isEmpty then [] else [current]
  | a :: rest =>
      if !current.isEmpty && decide (reach ≤ start a) then
        current :: groupsFrom (max reach (stop a)) [a] rest
      else groupsFrom (max reach (stop a)) (current ++ [a]) rest

/-- Two intervals that overlap strictly. -/
def Linked (a b : α) : Prop := start a < stop b ∧ start b < stop a

/-- A chain of intervals of `l`, each of them linked to the next one. -/
def Connected (l : List α) : α → α → Prop :=
  ReflTransGen fun a b => a ∈ l ∧ b ∈ l ∧ Linked start stop a b

/-- Two members of one group. -/
def Together (groups : List (List α)) (a b : α) : Prop :=
  ∃ g ∈ groups, a ∈ g ∧ b ∈ g

/-- An interval that the sweep joins to a group it does not overlap. -/
def Stray (floor : κ) (before : List α) (a : α) : Prop :=
  before ≠ [] ∧ (∀ b ∈ before, ¬Linked start stop b a)
    ∧ (start a < floor ∨ ∃ b ∈ before, start a < stop b)

variable {start stop}

theorem Linked.symm {a b : α} (h : Linked start stop a b) :
    Linked start stop b a := ⟨h.2, h.1⟩

-- =========================================================== the groups

section Groups

variable {reach : κ} {current rest : List α}

/-- Every interval is in one group, in the order of the sweep. -/
theorem flatten_groupsFrom :
    (groupsFrom start stop reach current rest).flatten = current ++ rest := by
  induction rest generalizing reach current with
  | nil =>
      rw [groupsFrom, List.append_nil]
      split
      · rename_i h
        rw [List.isEmpty_iff.mp h]
        rfl
      · simp
  | cons a rest ih =>
      rw [groupsFrom]
      split
      · rw [List.flatten_cons, ih, List.singleton_append]
      · rw [ih, List.append_assoc, List.singleton_append]

theorem mem_groupsFrom {g : List α} {a : α}
    (hg : g ∈ groupsFrom start stop reach current rest) (ha : a ∈ g) :
    a ∈ current ∨ a ∈ rest := by
  have hflat := List.mem_flatten_of_mem hg ha
  rw [flatten_groupsFrom] at hflat
  exact List.mem_append.mp hflat

/-- What is in the open group stays together. -/
theorem together_current {a b : α} (ha : a ∈ current) (hb : b ∈ current) :
    Together (groupsFrom start stop reach current rest) a b := by
  induction rest generalizing reach current with
  | nil =>
      have hne : current.isEmpty = false :=
        List.isEmpty_eq_false_iff.mpr (List.ne_nil_of_mem ha)
      rw [groupsFrom, hne]
      exact ⟨current, by simp, ha, hb⟩
  | cons c rest ih =>
      rw [groupsFrom]
      split
      · exact ⟨current, List.mem_cons_self, ha, hb⟩
      · exact ih (List.mem_append_left _ ha) (List.mem_append_left _ hb)

/-- A group ends before the next one starts. -/
theorem groupsFrom_apart (hcurrent : ∀ a ∈ current, stop a ≤ reach)
    (hsorted : rest.Pairwise fun a b => start a ≤ start b) :
    (groupsFrom start stop reach current rest).Pairwise fun g g' =>
      ∀ a ∈ g, ∀ b ∈ g', stop a ≤ start b := by
  induction rest generalizing reach current with
  | nil =>
      rw [groupsFrom]
      split
      · exact List.Pairwise.nil
      · exact List.pairwise_singleton _ _
  | cons c rest ih =>
      rw [List.pairwise_cons] at hsorted
      rw [groupsFrom]
      split
      · rename_i hopen
        rw [Bool.and_eq_true, decide_eq_true_eq] at hopen
        refine List.pairwise_cons.mpr ⟨?_, ?_⟩
        · intro g hg a ha b hb
          apply (hcurrent a ha).trans
          rcases mem_groupsFrom hg hb with h | h
          · rw [List.mem_singleton.mp h]
            exact hopen.2
          · exact hopen.2.trans (hsorted.1 b h)
        · apply ih ?_ hsorted.2
          intro a ha
          rw [List.mem_singleton.mp ha]
          exact le_max_right _ _
      · apply ih ?_ hsorted.2
        intro a ha
        rcases List.mem_append.mp ha with h | h
        · exact (hcurrent a h).trans (le_max_left _ _)
        · rw [List.mem_singleton.mp h]
          exact le_max_right _ _

/-- An interval that starts before the reach joins the one before it. -/
theorem together_joined {pre post : List α} {p k : α}
    (hreach : start k < reach ∨ ∃ a ∈ pre ++ [p], start k < stop a) :
    Together (groupsFrom start stop reach current (pre ++ p :: k :: post))
      p k := by
  induction pre generalizing reach current with
  | nil =>
      have hjoin : ¬max reach (stop p) ≤ start k := by
        rw [not_le, lt_max_iff]
        simpa using hreach
      have hcond (opened : List α) : (!opened.isEmpty
          && decide (max reach (stop p) ≤ start k)) = false := by
        simp [hjoin]
      rw [List.nil_append, groupsFrom]
      split
      · rw [groupsFrom, hcond, if_neg Bool.false_ne_true]
        have hnext : Together (groupsFrom start stop
            (max (max reach (stop p)) (stop k)) ([p] ++ [k]) post) p k :=
          together_current (by simp) (by simp)
        obtain ⟨g, hg, hmem⟩ := hnext
        exact ⟨g, List.mem_cons_of_mem _ hg, hmem⟩
      · rw [groupsFrom, hcond, if_neg Bool.false_ne_true]
        refine together_current ?_ ?_
        · simp
        · simp
  | cons a pre ih =>
      have hreach' : start k < max reach (stop a)
          ∨ ∃ b ∈ pre ++ [p], start k < stop b := by
        rw [lt_max_iff]
        simp only [List.cons_append, List.mem_cons, exists_eq_or_imp]
          at hreach
        tauto
      rw [List.cons_append, groupsFrom]
      split
      · obtain ⟨g, hg, hmem⟩ := ih hreach'
        exact ⟨g, List.mem_cons_of_mem _ hg, hmem⟩
      · exact ih hreach'

end Groups

-- ====================================================== the components

section Components

variable {floor : κ} {l : List α}

/-- Connected intervals are in one group. -/
theorem together_of_connected
    (hsorted : l.Pairwise fun a b => start a ≤ start b) {a b : α}
    (ha : a ∈ l) (hab : Connected start stop l a b) :
    Together (groupsFrom start stop floor [] l) a b := by
  have hmem {c : α} (hc : c ∈ l) :
      ∃ g ∈ groupsFrom start stop floor [] l, c ∈ g := by
    rw [← List.mem_flatten, flatten_groupsFrom]
    exact hc
  have hsymm : Std.Symm fun g g' : List α =>
      (∃ c ∈ g, ∃ d ∈ g', Linked start stop c d) → g = g' := by
    constructor
    rintro g g' h ⟨c, hc, d, hd, hcd⟩
    exact (h ⟨d, hd, c, hc, hcd.symm⟩).symm
  have hlinked : ∀ g ∈ groupsFrom start stop floor [] l,
      ∀ g' ∈ groupsFrom start stop floor [] l,
      (∃ c ∈ g, ∃ d ∈ g', Linked start stop c d) → g = g' := by
    apply List.Pairwise.forall_of_forall
    · intro g _ _
      rfl
    · refine (groupsFrom_apart (by simp) hsorted).imp ?_
      rintro g g' h ⟨c, hc, d, hd, hcd⟩
      exact absurd hcd.2 (not_lt.mpr (h c hc d hd))
  induction hab with
  | refl =>
      obtain ⟨g, hg, hin⟩ := hmem ha
      exact ⟨g, hg, hin, hin⟩
  | tail _ hstep ih =>
      obtain ⟨g, hg, hin, hlast⟩ := ih
      obtain ⟨g', hg', hnext⟩ := hmem hstep.2.1
      rw [← hlinked g hg g' hg' ⟨_, hlast, _, hnext, hstep.2.2⟩] at hnext
      exact ⟨g, hg, hin, hnext⟩

theorem Connected.symm {a b : α} (h : Connected start stop l a b) :
    Connected start stop l b a := by
  have hsymm : Std.Symm fun c d : α =>
      c ∈ l ∧ d ∈ l ∧ Linked start stop c d :=
    ⟨fun c d hcd => ⟨hcd.2.1, hcd.1, hcd.2.2.symm⟩⟩
  exact ReflTransGen.stdSymm.symm _ _ h

/-- Where no interval strays, a group is connected. The sweep has read
`before ++ current`, and what ended before the open group ends before the
rest of the sweep. -/
theorem connected_of_together {reach : κ} {before current rest : List α}
    (hstray : ∀ pre a post, before ++ current ++ rest = pre ++ a :: post →
      ¬Stray start stop floor pre a)
    (hsorted : rest.Pairwise fun a b => start a ≤ start b)
    (hbefore : ∀ a ∈ before, ∀ b ∈ rest, stop a ≤ start b)
    (hempty : current = [] → before = [])
    (hreach : ∀ x, reach ≤ x ↔
      floor ≤ x ∧ ∀ a ∈ before ++ current, stop a ≤ x)
    (hcurrent : ∀ a ∈ current, ∀ b ∈ current,
      Connected start stop (before ++ current ++ rest) a b) :
    ∀ g ∈ groupsFrom start stop reach current rest, ∀ a ∈ g, ∀ b ∈ g,
      Connected start stop (before ++ current ++ rest) a b := by
  induction rest generalizing reach before current with
  | nil =>
      intro g hg
      rw [groupsFrom] at hg
      split at hg
      · simp at hg
      · rw [List.mem_singleton.mp hg]
        exact hcurrent
  | cons c rest ih =>
      rw [List.pairwise_cons] at hsorted
      have hreach' (x : κ) : max reach (stop c) ≤ x ↔
          floor ≤ x ∧ ∀ a ∈ before ++ current ++ [c], stop a ≤ x := by
        rw [max_le_iff, hreach, and_assoc]
        simp only [List.mem_append, List.mem_singleton, or_imp,
          forall_and, forall_eq]
      rw [groupsFrom]
      split
      · -- `c` opens a group: what was open has ended
        rename_i hopen
        rw [Bool.and_eq_true, decide_eq_true_eq, hreach] at hopen
        have hwhole : before ++ current ++ c :: rest
            = (before ++ current) ++ [c] ++ rest := by simp
        intro g hg
        rcases List.mem_cons.mp hg with rfl | hg
        · exact hcurrent
        · rw [hwhole] at hstray ⊢
          refine ih hstray hsorted.2 ?_ (by simp) hreach' ?_ g hg
          · intro a ha b hb
            exact (hopen.2.2 a ha).trans (hsorted.1 b hb)
          · intro a ha b hb
            rw [List.mem_singleton.mp ha, List.mem_singleton.mp hb]
            exact ReflTransGen.refl
      · -- `c` joins the open group: it overlaps a member of it
        rename_i hjoin
        have hwhole : before ++ current ++ c :: rest
            = before ++ (current ++ [c]) ++ rest := by simp
        have hone : ∀ a ∈ current,
            Connected start stop (before ++ current ++ c :: rest) a c := by
          intro a ha
          have hne : current ≠ [] := List.ne_nil_of_mem ha
          have hlow : ¬reach ≤ start c := by
            intro h
            exact hjoin (by simp [hne, h])
          have hstrayed := hstray (before ++ current) c rest rfl
          have hlinked : ∃ b ∈ before ++ current,
              Linked start stop b c := by
            by_contra hnone
            refine hstrayed ⟨by simp [hne], ?_, ?_⟩
            · intro b hb hbc
              exact hnone ⟨b, hb, hbc⟩
            · rw [hreach, not_and_or, not_le] at hlow
              refine hlow.imp_right fun h => ?_
              push Not at h
              exact h
          obtain ⟨b, hb, hbc⟩ := hlinked
          rcases List.mem_append.mp hb with hold | hnow
          · exact absurd hbc.2
              (not_lt.mpr (hbefore b hold c List.mem_cons_self))
          · refine (hcurrent a ha b hnow).tail ⟨?_, ?_, hbc⟩
            · simp [hnow]
            · simp
        rw [hwhole] at hstray hone ⊢
        rw [List.append_assoc] at hreach'
        refine ih hstray hsorted.2 ?_ (by simp) hreach' ?_
        · intro a ha b hb
          exact hbefore a ha b (List.mem_cons_of_mem _ hb)
        · rw [← hwhole] at hone ⊢
          intro a ha b hb
          rw [List.mem_append, List.mem_singleton] at ha hb
          rcases ha with ha | rfl
          · rcases hb with hb | rfl
            · exact hcurrent a ha b hb
            · exact hone a ha
          · rcases hb with hb | rfl
            · exact (hone b hb).symm
            · exact ReflTransGen.refl

/-- A stray interval is connected to none before it. -/
theorem not_connected_of_stray {pre post : List α} {k p : α}
    (hsorted : (pre ++ k :: post).Pairwise fun a b => start a ≤ start b)
    (hproper : start k ≤ stop k) (hnodup : (pre ++ k :: post).Nodup)
    (hapart : ∀ b ∈ pre, ¬Linked start stop b k) (hp : p ∈ pre) :
    ¬Connected start stop (pre ++ k :: post) p k := by
  obtain ⟨_, hsuffix, hacross⟩ := List.pairwise_append.mp hsorted
  rw [List.pairwise_cons] at hsuffix
  have hk : k ∉ pre := by
    intro h
    exact (List.nodup_append.mp hnodup).2.2 k h k List.mem_cons_self rfl
  intro hconnected
  by_cases hwide : start k < stop k
  · -- a wide interval: all before it end before it starts
    have hin {q : α} (hq : Connected start stop (pre ++ k :: post) p q) :
        q ∈ pre := by
      induction hq with
      | refl => exact hp
      | @tail c d _ hstep hc =>
          have hend : stop c ≤ start k := by
            by_contra hlt
            exact hapart c hc ⟨(hacross c hc k List.mem_cons_self).trans_lt
              hwide, not_le.mp hlt⟩
          rcases List.mem_append.mp hstep.2.1 with h | h
          · exact h
          · have hd : start k ≤ start d := by
              rcases List.mem_cons.mp h with rfl | h
              · exact le_rfl
              · exact hsuffix.1 d h
            exact absurd hstep.2.2.2 (not_lt.mpr (hend.trans hd))
    exact hk (hin hconnected)
  · -- an empty interval: none overlaps it
    have hflat : stop k = start k := le_antisymm (not_lt.mp hwide) hproper
    cases hconnected with
    | refl => exact hk hp
    | tail _ hstep =>
        rename_i c hc
        rcases List.mem_append.mp hstep.1 with h | h
        · exact hapart c h hstep.2.2
        · have hd : start k ≤ start c := by
            rcases List.mem_cons.mp h with rfl | h
            · exact le_rfl
            · exact hsuffix.1 c h
          have hbelow := hstep.2.2.1
          rw [hflat] at hbelow
          exact absurd hbelow (not_lt.mpr hd)

/-- The groups are the connected components exactly where no interval
strays. -/
theorem together_iff (floor : κ)
    (hsorted : l.Pairwise fun a b => start a ≤ start b)
    (hproper : ∀ a, start a ≤ stop a) (hnodup : l.Nodup) :
    (∀ a ∈ l, ∀ b ∈ l, Together (groupsFrom start stop floor [] l) a b ↔
      Connected start stop l a b)
      ↔ ∀ pre a post, l = pre ++ a :: post →
        ¬Stray start stop floor pre a := by
  constructor
  · rintro h pre k post rfl ⟨hne, hapart, hreach⟩
    obtain ⟨pre, p, rfl⟩ := List.eq_nil_or_concat' pre |>.resolve_left hne
    have hjoined : Together (groupsFrom start stop floor []
        (pre ++ [p] ++ k :: post)) p k := by
      have hlist : pre ++ [p] ++ k :: post = pre ++ p :: k :: post := by simp
      rw [hlist]
      exact together_joined hreach
    have hp : p ∈ pre ++ [p] := by simp
    refine not_connected_of_stray hsorted (hproper k) hnodup hapart hp ?_
    exact (h p (by simp) k (by simp)).mp hjoined
  · intro hstray a ha b _
    constructor
    · rintro ⟨g, hg, hag, hbg⟩
      have hstart : ∀ pre a post, [] ++ [] ++ l = pre ++ a :: post →
          ¬Stray start stop floor pre a := hstray
      exact connected_of_together hstart hsorted (by simp) (by simp)
        (by simp) (by simp) g hg a hag b hbg
    · exact together_of_connected hsorted ha

/-- A sweep over values is the sweep over what stands for them. -/
theorem groupsFrom_map {β : Type*} (start stop : β → κ) (f : α → β)
    (reach : κ) (current rest : List α) :
    groupsFrom start stop reach (current.map f) (rest.map f)
      = (groupsFrom (start ∘ f) (stop ∘ f) reach current rest).map
        (List.map f) := by
  induction rest generalizing reach current with
  | nil =>
      simp only [List.map_nil, groupsFrom, List.isEmpty_map]
      split
      · rfl
      · rfl
  | cons a rest ih =>
      simp only [List.map_cons, groupsFrom, List.isEmpty_map,
        Function.comp_apply]
      split
      · rw [List.map_cons, ← ih, List.map_singleton]
      · rw [← ih, List.map_append, List.map_singleton]

end Components

end Exolon.Sweep

/-
The beam fields: which marker boxes are one beam.

`groups` sweeps over the boxes from left to right and closes a group at a
box that starts behind everything before it. The sweep is that of
`Lib.Sweep`, with its floor at zero: `currentMaxX` starts there, and a
level with boxes at negative x merges beams that do not touch.

`Stray` names the boxes where that happens, `beam_groups_iff` is the rest:
without them the groups are the connected components of strict overlap.
-/
import Exolon.Lib.Sorting
import Exolon.Lib.Sweep
import Exolon.CoreGraphics

namespace Exolon.Tmx

open Relation

namespace TMXBeamGrouping

/-- The variables of the loop in `groups(for:)`. -/
structure Grouping where
  groups : List (List Nat)
  current : List Nat
  currentMaxX : Rat

/-- A box of `boxes.enumerated()`, its index behind it. -/
abbrev Indexed := CGRect × Nat

/-- `minX` first, then the index. -/
def order (e : Indexed) : Rat ×ₗ Nat := toLex (e.1.minX, e.2)

/-- `boxes.enumerated().sorted` -/
def indexed (boxes : List CGRect) : List Indexed :=
  sortedBy order boxes.zipIdx

/-- The body of the loop. -/
def Grouping.step (s : Grouping) (e : Indexed) : Grouping :=
  let (box, index) := e
  let s :=
    if !s.current.isEmpty && decide (box.minX ≥ s.currentMaxX) then
      { s with groups := s.groups ++ [s.current], current := [] }
    else s
  { s with
    current := s.current ++ [index]
    currentMaxX := max s.currentMaxX box.maxX }

/-- `groups(for:)` -/
def groups (boxes : List CGRect) : List (List Nat) :=
  let s := (indexed boxes).foldl Grouping.step ⟨[], [], 0⟩
  if !s.current.isEmpty then s.groups ++ [s.current] else s.groups

-- ====================================================== what it is for

/-- Two boxes that overlap strictly in x. -/
def Linked (boxes : List CGRect) (i j : Nat) : Prop :=
  ∃ a b, boxes[i]? = some a ∧ boxes[j]? = some b
    ∧ a.minX < b.maxX ∧ b.minX < a.maxX

/-- Two boxes in one group. -/
def Together (boxes : List CGRect) (i j : Nat) : Prop :=
  ∃ g ∈ groups boxes, i ∈ g ∧ j ∈ g

/-- The groups, by their boxes. -/
def named (boxes : List CGRect) : List (List (Option CGRect)) :=
  (groups boxes).map fun g => g.map fun i => boxes[i]?

/-- The groups are the connected components of strict overlap, and do not
depend on the order of boxes with distinct `minX`. -/
structure Components (boxes : List CGRect) : Prop where
  once : (groups boxes).flatten.Perm (List.range boxes.length)
  together : ∀ i < boxes.length, ∀ j < boxes.length,
    Together boxes i j ↔ ReflTransGen (Linked boxes) i j
  reordered : ∀ other : List CGRect,
    (∀ x, other.filter (fun b => b.minX = x)
      = boxes.filter fun b => b.minX = x) →
    named other = named boxes

/-- A box before another one, from left to right. -/
def Before (boxes : List CGRect) (i j : Nat) : Prop :=
  ∃ a b, boxes[i]? = some a ∧ boxes[j]? = some b ∧ order (a, i) < order (b, j)

/-- A box that overlaps none before it, and starts at a negative x or
before the end of one of them. -/
def Stray (boxes : List CGRect) (k : Nat) : Prop :=
  ∃ box, boxes[k]? = some box ∧ (∃ j, Before boxes j k)
    ∧ (∀ j, Before boxes j k → ¬Linked boxes j k)
    ∧ (box.minX < 0
      ∨ ∃ j b, Before boxes j k ∧ boxes[j]? = some b ∧ box.minX < b.maxX)

-- ============================================================ the sweep

def start (e : Indexed) : Rat := e.1.minX

def stop (e : Indexed) : Rat := e.1.maxX

section Loop

variable {closed : List (List Nat)} {current : List Nat} {reach : Rat}
  {box : CGRect} {index : Nat}

theorem step_opens
    (h : (!current.isEmpty && decide (reach ≤ box.minX)) = true) :
    Grouping.step ⟨closed, current, reach⟩ (box, index)
      = ⟨closed ++ [current], [index], max reach box.maxX⟩ := by
  simp only [Grouping.step, ge_iff_le, if_pos h, List.nil_append]

theorem step_joins
    (h : ¬(!current.isEmpty && decide (reach ≤ box.minX)) = true) :
    Grouping.step ⟨closed, current, reach⟩ (box, index)
      = ⟨closed, current ++ [index], max reach box.maxX⟩ := by
  simp only [Grouping.step, ge_iff_le, if_neg h]

end Loop

theorem groups_foldl (closed : List (List Nat)) (reach : Rat)
    (current rest : List Indexed) :
    (let s := rest.foldl Grouping.step
        ⟨closed, current.map Prod.snd, reach⟩
      if !s.current.isEmpty then s.groups ++ [s.current] else s.groups)
      = closed ++ (Sweep.groupsFrom start stop reach current rest).map
        (List.map Prod.snd) := by
  induction rest generalizing closed reach current with
  | nil =>
      simp only [List.foldl_nil, List.isEmpty_map, Sweep.groupsFrom]
      by_cases h : current.isEmpty
      · simp [h]
      · simp [h]
  | cons e rest ih =>
      obtain ⟨box, index⟩ := e
      have hmap : (current.map Prod.snd).isEmpty = current.isEmpty :=
        List.isEmpty_map
      rw [List.foldl_cons, Sweep.groupsFrom]
      by_cases h : (!current.isEmpty
          && decide (reach ≤ start (box, index))) = true
      · have hih := ih (closed ++ [current.map Prod.snd])
          (max reach box.maxX) [(box, index)]
        rw [List.append_assoc, List.singleton_append] at hih
        rw [step_opens (by rw [hmap]; exact h), if_pos h, List.map_cons]
        exact hih
      · have hih := ih closed (max reach box.maxX)
          (current ++ [(box, index)])
        rw [List.map_append] at hih
        rw [step_joins (by rw [hmap]; exact h), if_neg h]
        exact hih

theorem groups_eq (boxes : List CGRect) :
    groups boxes = (Sweep.groupsFrom start stop 0 [] (indexed boxes)).map
      (List.map Prod.snd) :=
  groups_foldl [] 0 [] (indexed boxes)

section Indexed

variable {boxes : List CGRect}

theorem mem_indexed {e : Indexed} :
    e ∈ indexed boxes ↔ boxes[e.2]? = some e.1 := by
  rw [indexed, mem_sortedBy, List.mem_zipIdx_iff_getElem?]

theorem nodup_indexed_index (boxes : List CGRect) :
    ((indexed boxes).map Prod.snd).Nodup := by
  have hperm := (sortedBy_perm_self order boxes.zipIdx).map Prod.snd
  rw [indexed, hperm.nodup_iff, List.zipIdx_map_snd]
  exact List.nodup_range'

theorem nodup_indexed (boxes : List CGRect) : (indexed boxes).Nodup :=
  (nodup_indexed_index boxes).of_map _

/-- From left to right, each box once. -/
theorem pairwise_indexed (boxes : List CGRect) :
    (indexed boxes).Pairwise fun e f => order e < order f := by
  have hdistinct := List.pairwise_map.mp (nodup_indexed_index boxes)
  refine ((pairwise_sortedBy order boxes.zipIdx).and hdistinct).imp ?_
  rintro ⟨a, i⟩ ⟨b, j⟩ ⟨hle, hne⟩
  refine lt_of_le_of_ne hle ?_
  intro heq
  exact hne (congrArg (fun p => (ofLex p).2) heq)

theorem start_le_of_order {e f : Indexed} (h : order e < order f) :
    start e ≤ start f := by
  rcases (Prod.Lex.toLex_lt_toLex.mp h) with hlt | ⟨heq, _⟩
  · exact hlt.le
  · exact heq.le

theorem sorted_indexed (boxes : List CGRect) :
    (indexed boxes).Pairwise fun e f => start e ≤ start f :=
  (pairwise_indexed boxes).imp start_le_of_order

/-- What stands before a box of the sweep is what is left of it. -/
theorem mem_before {pre post : List Indexed} {e f : Indexed}
    (h : indexed boxes = pre ++ f :: post) :
    e ∈ pre ↔ e ∈ indexed boxes ∧ order e < order f := by
  have hsorted := pairwise_indexed boxes
  rw [h] at hsorted
  obtain ⟨_, hsuffix, hacross⟩ := List.pairwise_append.mp hsorted
  constructor
  · intro he
    rw [h]
    exact ⟨List.mem_append_left _ he, hacross e he f List.mem_cons_self⟩
  · rintro ⟨he, hlt⟩
    rw [h, List.mem_append, List.mem_cons] at he
    rcases he with he | rfl | he
    · exact he
    · exact absurd hlt (lt_irrefl _)
    · have hgt := (List.pairwise_cons.mp hsuffix).1 e he
      exact absurd hlt hgt.asymm

theorem linked_iff {e f : Indexed} (he : e ∈ indexed boxes)
    (hf : f ∈ indexed boxes) :
    Linked boxes e.2 f.2 ↔ Sweep.Linked start stop e f := by
  rw [mem_indexed] at he hf
  constructor
  · rintro ⟨a, b, ha, hb, hlinked⟩
    rw [he] at ha
    rw [hf] at hb
    cases ha
    cases hb
    exact hlinked
  · intro h
    exact ⟨e.1, f.1, he, hf, h⟩

theorem connected_iff {e f : Indexed} (he : e ∈ indexed boxes)
    (hf : f ∈ indexed boxes) :
    ReflTransGen (Linked boxes) e.2 f.2 ↔
      Sweep.Connected start stop (indexed boxes) e f := by
  constructor
  · intro h
    have hchain {j : Nat} (hj : ReflTransGen (Linked boxes) e.2 j) :
        ∀ g ∈ indexed boxes, g.2 = j →
          Sweep.Connected start stop (indexed boxes) e g := by
      induction hj with
      | refl =>
          intro g hg hindex
          rw [mem_indexed] at he hg
          rw [hindex, he] at hg
          cases g
          cases hg
          cases hindex
          exact ReflTransGen.refl
      | @tail i j _ hstep ih =>
          intro g hg hindex
          obtain ⟨a, b, ha, hb, hlinked⟩ := hstep
          have hi : (a, i) ∈ indexed boxes := mem_indexed.mpr ha
          have hstep : Linked boxes (a, i).2 g.2 := by
            rw [hindex]
            exact ⟨a, b, ha, hb, hlinked⟩
          exact (ih (a, i) hi rfl).tail
            ⟨hi, hg, (linked_iff hi hg).mp hstep⟩
    exact hchain h f hf rfl
  · intro h
    refine h.lift Prod.snd ?_
    rintro c d ⟨hc, hd, hlinked⟩
    exact (linked_iff hc hd).mpr hlinked

theorem together_iff {e f : Indexed} (he : e ∈ indexed boxes)
    (hf : f ∈ indexed boxes) :
    Together boxes e.2 f.2 ↔ Sweep.Together
      (Sweep.groupsFrom start stop 0 [] (indexed boxes)) e f := by
  have hindex {e e' : Indexed} (he : e ∈ indexed boxes)
      (he' : e' ∈ indexed boxes) (h : e'.2 = e.2) : e' = e :=
    List.inj_on_of_nodup_map (nodup_indexed_index boxes) he' he h
  have hmem {g : List Indexed} {e : Indexed}
      (hg : g ∈ Sweep.groupsFrom start stop 0 [] (indexed boxes))
      (he : e ∈ g) : e ∈ indexed boxes :=
    (Sweep.mem_groupsFrom hg he).resolve_left (by simp)
  unfold Together
  rw [groups_eq]
  constructor
  · rintro ⟨_, hgroup, hie, hjf⟩
    obtain ⟨g, hg, rfl⟩ := List.mem_map.mp hgroup
    obtain ⟨e', he', heq⟩ := List.mem_map.mp hie
    obtain ⟨f', hf', hfq⟩ := List.mem_map.mp hjf
    rw [hindex he (hmem hg he') heq] at he'
    rw [hindex hf (hmem hg hf') hfq] at hf'
    exact ⟨g, hg, he', hf'⟩
  · rintro ⟨g, hg, heg, hfg⟩
    exact ⟨g.map Prod.snd, List.mem_map_of_mem hg,
      List.mem_map_of_mem heg, List.mem_map_of_mem hfg⟩

theorem before_iff {e : Indexed} (he : e ∈ indexed boxes) {j : Nat} :
    Before boxes j e.2 ↔
      ∃ b, (b, j) ∈ indexed boxes ∧ order (b, j) < order e := by
  rw [mem_indexed] at he
  constructor
  · rintro ⟨a, b, ha, hb, hlt⟩
    rw [he] at hb
    cases hb
    exact ⟨a, mem_indexed.mpr ha, hlt⟩
  · rintro ⟨b, hb, hlt⟩
    exact ⟨b, e.1, mem_indexed.mp hb, he, hlt⟩

/-- A stray box is a stray interval of the sweep. -/
theorem stray_iff {pre post : List Indexed} {e : Indexed}
    (h : indexed boxes = pre ++ e :: post) :
    Stray boxes e.2 ↔ Sweep.Stray start stop 0 pre e := by
  have he : e ∈ indexed boxes := by
    rw [h]
    simp
  have hbox := mem_indexed.mp he
  have hpre (b : CGRect) (j : Nat) : (b, j) ∈ pre ↔
      boxes[j]? = some b ∧ Before boxes j e.2 := by
    rw [mem_before h, before_iff he]
    constructor
    · rintro ⟨hb, hlt⟩
      exact ⟨mem_indexed.mp hb, b, hb, hlt⟩
    · rintro ⟨hb, b', hb', hlt⟩
      have hsame := mem_indexed.mp hb'
      rw [hb] at hsame
      cases hsame
      exact ⟨hb', hlt⟩
  constructor
  · rintro ⟨box, hfound, ⟨j, hj⟩, hapart, hstart⟩
    rw [hbox] at hfound
    cases hfound
    refine ⟨?_, ?_, ?_⟩
    · obtain ⟨b, hb, _⟩ := (before_iff he).mp hj
      exact List.ne_nil_of_mem ((hpre b j).mpr ⟨mem_indexed.mp hb, hj⟩)
    · rintro ⟨b, i⟩ hb hlinked
      obtain ⟨hi, hbefore⟩ := (hpre b i).mp hb
      exact hapart i hbefore ((linked_iff (mem_indexed.mpr hi) he).mpr hlinked)
    · refine hstart.imp_right ?_
      rintro ⟨i, b, hbefore, hb, hlt⟩
      exact ⟨(b, i), (hpre b i).mpr ⟨hb, hbefore⟩, hlt⟩
  · rintro ⟨hne, hapart, hstart⟩
    refine ⟨e.1, hbox, ?_, ?_, ?_⟩
    · obtain ⟨⟨b, j⟩, hb⟩ := List.exists_mem_of_ne_nil pre hne
      exact ⟨j, ((hpre b j).mp hb).2⟩
    · intro j hj hlinked
      obtain ⟨b, hb, _⟩ := (before_iff he).mp hj
      exact hapart (b, j) ((hpre b j).mpr ⟨mem_indexed.mp hb, hj⟩)
        ((linked_iff hb he).mp hlinked)
    · refine hstart.imp_right ?_
      rintro ⟨⟨b, i⟩, hb, hlt⟩
      obtain ⟨hi, hbefore⟩ := (hpre b i).mp hb
      exact ⟨i, b, hbefore, hi, hlt⟩

/-- Each index once. -/
theorem groups_once (boxes : List CGRect) :
    (groups boxes).flatten.Perm (List.range boxes.length) := by
  have hflat : (groups boxes).flatten = (indexed boxes).map Prod.snd := by
    rw [groups_eq, ← List.map_flatten, Sweep.flatten_groupsFrom,
      List.nil_append]
  rw [hflat, List.range_eq_range', ← List.zipIdx_map_snd 0 boxes]
  exact (sortedBy_perm_self order boxes.zipIdx).map Prod.snd

/-- The boxes of the sweep: those of each `minX` stay in their order. -/
theorem filter_indexed (boxes : List CGRect) (x : Rat) :
    ((indexed boxes).map Prod.fst).filter (fun b => b.minX = x)
      = boxes.filter fun b => b.minX = x := by
  have hperm : ((indexed boxes).filter fun e => e.1.minX = x).Perm
      (boxes.zipIdx.filter fun e => e.1.minX = x) :=
    (sortedBy_perm_self order boxes.zipIdx).filter _
  -- of one `minX`, the order is that of the index on either side
  have hindex (l : List Indexed)
      (hl : l.Pairwise fun e f => e.1.minX = f.1.minX → e.2 < f.2) :
      (l.filter fun e => e.1.minX = x).Pairwise fun e f => e.2 ≤ f.2 := by
    rw [List.pairwise_filter]
    refine hl.imp ?_
    intro e f h he hf
    rw [decide_eq_true_eq] at he hf
    exact (h (he.trans hf.symm)).le
  have hsame : ((indexed boxes).filter fun e => e.1.minX = x)
      = boxes.zipIdx.filter fun e => e.1.minX = x := by
    refine eq_of_sorted hperm ?_ (hindex _ ?_) (hindex _ ?_)
    · exact (nodup_indexed_index boxes).sublist
        (List.filter_sublist.map Prod.snd)
    · refine (pairwise_indexed boxes).imp ?_
      intro e f h heq
      rcases Prod.Lex.toLex_lt_toLex.mp h with hlt | ⟨_, hlt⟩
      · exact absurd heq hlt.ne
      · exact hlt
    · have hrange : (boxes.zipIdx.map Prod.snd).Pairwise (· < ·) := by
        rw [List.zipIdx_map_snd]
        exact List.pairwise_lt_range'
      refine (List.pairwise_map.mp hrange).imp ?_
      intro e f h _
      exact h
  have hfst (l : List Indexed) :
      (l.map Prod.fst).filter (fun b => b.minX = x)
        = (l.filter fun e => e.1.minX = x).map Prod.fst := by
    rw [List.filter_map]
    rfl
  rw [hfst, hsame, ← hfst, List.zipIdx_map_fst]

/-- The groups by their boxes: the sweep over the boxes alone. -/
theorem named_eq (boxes : List CGRect) :
    named boxes = (Sweep.groupsFrom CGRect.minX CGRect.maxX 0 []
      ((indexed boxes).map Prod.fst)).map (List.map some) := by
  have hmap := Sweep.groupsFrom_map CGRect.minX CGRect.maxX Prod.fst 0 []
    (indexed boxes)
  rw [List.map_nil] at hmap
  rw [hmap, named, groups_eq, List.map_map, List.map_map]
  refine List.map_congr_left ?_
  intro g hg
  rw [Function.comp_apply, Function.comp_apply, List.map_map, List.map_map]
  refine List.map_congr_left ?_
  intro e he
  exact mem_indexed.mp ((Sweep.mem_groupsFrom hg he).resolve_left (by simp))

theorem named_reordered {boxes other : List CGRect}
    (h : ∀ x, other.filter (fun b => b.minX = x)
      = boxes.filter fun b => b.minX = x) :
    named other = named boxes := by
  have hsorted (l : List CGRect) :
      ((indexed l).map Prod.fst).Pairwise fun a b => a.minX ≤ b.minX :=
    List.pairwise_map.mpr (sorted_indexed l)
  have hsame : (indexed other).map Prod.fst
      = (indexed boxes).map Prod.fst := by
    refine eq_of_filter (hsorted other) (hsorted boxes) ?_
    intro x
    rw [filter_indexed, filter_indexed, h x]
  rw [named_eq, named_eq, hsame]

end Indexed

/-- The groups are the connected components exactly where no box
strays. -/
theorem beam_groups_iff (boxes : List CGRect) :
    Components boxes ↔ ∀ k < boxes.length, ¬Stray boxes k := by
  have hproper (e : Indexed) : start e ≤ stop e :=
    CGRect.minX_le_maxX e.1
  have hsweep := Sweep.together_iff 0 (sorted_indexed boxes) hproper
    (nodup_indexed boxes)
  have hitem {i : Nat} (hi : i < boxes.length) :
      (boxes[i], i) ∈ indexed boxes :=
    mem_indexed.mpr (List.getElem?_eq_getElem hi)
  have hlt {e : Indexed} (he : e ∈ indexed boxes) : e.2 < boxes.length :=
    (List.getElem?_eq_some_iff.mp (mem_indexed.mp he)).1
  constructor
  · intro h k hk hstray
    obtain ⟨pre, post, hsplit⟩ := List.append_of_mem (hitem hk)
    refine hsweep.mp ?_ pre _ post hsplit ((stray_iff hsplit).mp hstray)
    intro e he f hf
    rw [← together_iff he hf, ← connected_iff he hf]
    exact h.together e.2 (hlt he) f.2 (hlt hf)
  · intro h
    refine ⟨groups_once boxes, ?_, fun _ => named_reordered⟩
    have hgood := hsweep.mpr ?_
    · intro i hi j hj
      have hsame := hgood _ (hitem hi) _ (hitem hj)
      rw [← together_iff (hitem hi) (hitem hj),
        ← connected_iff (hitem hi) (hitem hj)] at hsame
      exact hsame
    · intro pre e post hsplit hstray
      have he : e ∈ indexed boxes := by
        rw [hsplit]
        simp
      exact h e.2 (hlt he) ((stray_iff hsplit).mpr hstray)

/-- Two beams left of the origin that do not touch, in one group. -/
theorem beam_groups_merged :
    groups [⟨-10, 0, 2, 8⟩, ⟨-4, 0, 2, 8⟩] = [[0, 1]]
      ∧ ¬Components [⟨-10, 0, 2, 8⟩, ⟨-4, 0, 2, 8⟩] := by
  have hgroups : groups [⟨-10, 0, 2, 8⟩, ⟨-4, 0, 2, 8⟩] = [[0, 1]] := by
    decide +kernel
  refine ⟨hgroups, ?_⟩
  intro h
  have hconnected := (h.together 0 (by simp) 1 (by simp)).mp (by
    refine ⟨[0, 1], ?_, ?_⟩
    · rw [hgroups]
      exact List.mem_singleton_self _
    · simp)
  have hfirst {j : Nat} (hj : ReflTransGen
      (Linked [⟨-10, 0, 2, 8⟩, ⟨-4, 0, 2, 8⟩]) 0 j) : j = 0 := by
    induction hj with
    | refl => rfl
    | @tail i j _ hstep ih =>
        obtain ⟨a, b, ha, hb, _, hlinked⟩ := hstep
        rw [ih] at ha
        cases ha
        match j, hb with
        | 0, _ => rfl
        | 1, hb =>
            cases hb
            norm_num [CGRect.minX, CGRect.maxX] at hlinked
  exact absurd (hfirst hconnected) (by simp)

end TMXBeamGrouping

end Exolon.Tmx

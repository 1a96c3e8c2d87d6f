/-
The generations of a log on disk, and what a rotation retires of them.

Every run of the game writes its own files into one shared directory: a
common prefix, the token of the run, the index of the rotation. A rotation
deletes what is too old by the index in a file's name, under the prefix;
it does not ask for the token. So it also deletes the files of other runs,
and whatever else parses (`Stray`).

The directory is a set of names, and an action is a rotation of any of the
runs or a change that others make. The promise is that a prune retires its
own old generations and nothing else, and that the newest ones stay
(`Kept`); it is kept in every state of exactly the runs in which no prune
meets a stray file and nobody else touches a generation
(`kept_iff_unmixed`). A name is the list of its characters.
-/
import Exolon.EventLog.Writer
import Exolon.Lib.Run
import Exolon.Tmx.LayerData

namespace Exolon.Generations

open Tmx (fixedWidth)

-- ============================================================= file names

/-- The runs that share a directory, each with its own token. -/
structure Runs (W : Type) where
  filePrefix : Text
  runToken : W → Text
  keptFiles : W → Int
  distinct : Function.Injective runToken

/-- `split(separator:)`: empty pieces are left out. -/
def pieces (separator : Char) (text : Text) : List Text :=
  (text.splitOn separator).filter fun piece => piece ≠ []

/-- The index in a name: the digits before the first dot of what follows
the last dash. -/
def rotationSuffix (name : Text) : Option Int :=
  (pieces '-' name).getLast?.bind fun body =>
    fixedWidth (-2 ^ 63) (2 ^ 63 - 1) ((pieces '.' body).head?.getD [])

namespace Runs

variable {W : Type} (r : Runs W)

/-- The last component of `path(forRotation:)`. -/
def fileName (w : W) (rot : Nat) : Text :=
  r.filePrefix ++ r.runToken w ++ '-' :: natText rot ++ ".jsonl".toList

/-- The oldest generation a rotation keeps; the bound is clamped. -/
def keepFrom (w : W) (rotation : Nat) : Int :=
  rotation - (max 1 (r.keptFiles w) - 1)

/-- What the prune of a rotation deletes. -/
def retires (w : W) (rotation : Nat) (name : Text) : Bool :=
  r.filePrefix.isPrefixOf name && ".jsonl".toList.isSuffixOf name
    && match rotationSuffix name with
      | some index => decide (index < r.keepFrom w rotation)
      | none => false

def pruneOldFiles (w : W) (rotation : Nat) (names : Finset Text) :
    Finset Text :=
  names.filter fun name => r.retires w rotation name = false

/-- A generation of the run, older than it keeps. -/
def Old (w : W) (rotation : Nat) (name : Text) : Prop :=
  ∃ k : Nat, name = r.fileName w k ∧ (k : Int) < r.keepFrom w rotation

/-- A name the prune deletes that is none of the run's own. -/
def Stray (w : W) (rotation : Nat) (name : Text) : Prop :=
  r.retires w rotation name = true ∧ ∀ k, name ≠ r.fileName w k

-- ------------------------------------------------------------- own names

theorem dash_notMem_digits (k : Nat) : '-' ∉ natText k := by
  intro h
  exact absurd (natText_isDigit h) (by decide)

theorem dot_notMem_digits (k : Nat) : '.' ∉ natText k := by
  intro h
  exact absurd (natText_isDigit h) (by decide)

/-- A printed number is read back where it fits. -/
theorem fixedWidth_natText (k : Nat) :
    fixedWidth (-2 ^ 63) (2 ^ 63 - 1) (natText k)
      = if k < 2 ^ 63 then some (k : Int) else none := by
  have hdigits : (natText k).any (fun c => !c.isDigit) = false := by
    rw [List.any_eq_false]
    intro c hc
    simp [natText_isDigit hc]
  have hsign : ∀ rest, natText k ≠ '-' :: rest ∧ natText k ≠ '+' :: rest := by
    intro rest
    constructor
    · intro heq
      exact dash_notMem_digits k (heq ▸ List.mem_cons_self)
    · intro heq
      have hplus : '+' ∈ natText k := heq ▸ List.mem_cons_self
      exact absurd (natText_isDigit hplus) (by decide)
  unfold fixedWidth
  split
  rename_i negative digits hsplit
  have hplain : negative = false ∧ digits = natText k := by
    revert hsplit
    split
    case h_1 rest heq => exact absurd heq (hsign rest).1
    case h_2 rest heq => exact absurd heq (hsign rest).2
    case h_3 =>
      intro hsplit
      cases hsplit
      exact ⟨rfl, rfl⟩
  obtain ⟨rfl, rfl⟩ := hplain
  rw [if_neg (by simp [natText_ne_nil, hdigits]), natText_value]
  show (if -2 ^ 63 ≤ (k : Int) ∧ (k : Int) ≤ 2 ^ 63 - 1 then some (k : Int)
    else none) = _
  by_cases hk : k < 2 ^ 63
  · rw [if_pos hk, if_pos (by omega)]
  · rw [if_neg hk, if_neg (by omega)]

theorem rotationSuffix_fileName (w : W) (k : Nat) :
    rotationSuffix (r.fileName w k)
      = if k < 2 ^ 63 then some (k : Int) else none := by
  have hbody : '-' ∉ natText k ++ ".jsonl".toList := by
    rw [List.mem_append]
    rintro (hdigit | hsuffix)
    · exact dash_notMem_digits k hdigit
    · exact absurd hsuffix (by decide)
  have hlast : (pieces '-' (r.fileName w k)).getLast?
      = some (natText k ++ ".jsonl".toList) := by
    unfold pieces fileName
    rw [List.append_assoc, List.cons_append,
      List.splitOn_append_cons_self, List.splitOn_eq_singleton hbody,
      List.filter_append, List.filter_cons_of_pos (by simp [natText_ne_nil])]
    simp
  have hfirst : (pieces '.' (natText k ++ ".jsonl".toList)).head?
      = some (natText k) := by
    unfold pieces
    show (((natText k ++ '.' :: "jsonl".toList).splitOn '.').filter
      _).head? = _
    rw [List.splitOn_append_cons_self_of_not_mem (dot_notMem_digits k),
      List.filter_cons_of_pos (by simp [natText_ne_nil])]
    rfl
  unfold rotationSuffix
  rw [hlast, Option.bind_some, hfirst, Option.getD_some,
    fixedWidth_natText]

/-- Of its own generations a prune deletes the old ones. -/
theorem retires_fileName (w : W) {rotation : Nat} (h : rotation < 2 ^ 63)
    (k : Nat) :
    r.retires w rotation (r.fileName w k) = true
      ↔ (k : Int) < r.keepFrom w rotation := by
  have hpre : r.filePrefix.isPrefixOf (r.fileName w k) = true := by
    rw [List.isPrefixOf_iff_prefix]
    unfold fileName
    rw [List.append_assoc, List.append_assoc]
    exact List.prefix_append _ _
  have hsuffix : ".jsonl".toList.isSuffixOf (r.fileName w k) = true := by
    rw [List.isSuffixOf_iff_suffix]
    exact List.suffix_append _ _
  unfold retires
  rw [hpre, hsuffix, Bool.true_and, Bool.true_and]
  rw [r.rotationSuffix_fileName w k]
  by_cases hk : k < 2 ^ 63
  · rw [if_pos hk]
    exact decide_eq_true_iff
  · have hkeep : ¬(k : Int) < r.keepFrom w rotation := by
      unfold keepFrom
      omega
    rw [if_neg hk]
    simp [hkeep]

/-- The last dash of a name is the one before its digits. -/
theorem split_last_dash (before : Text) (k : Nat) :
    (before ++ '-' :: natText k).reverse.takeWhile (· ≠ '-')
        = (natText k).reverse
      ∧ (before ++ '-' :: natText k).reverse.dropWhile (· ≠ '-')
        = '-' :: before.reverse := by
  have hreverse : (before ++ '-' :: natText k).reverse
      = (natText k).reverse ++ '-' :: before.reverse := by simp
  have hdigits : ∀ c ∈ (natText k).reverse, decide (c ≠ '-') = true := by
    intro c hc
    rw [List.mem_reverse] at hc
    apply decide_eq_true
    intro heq
    exact dash_notMem_digits k (heq ▸ hc)
  rw [hreverse, List.takeWhile_append_of_pos hdigits,
    List.dropWhile_append_of_pos hdigits]
  simp

theorem digits_append_inj {before before' : Text} {k k' : Nat}
    (h : before ++ '-' :: natText k = before' ++ '-' :: natText k') :
    before = before' ∧ k = k' := by
  obtain ⟨htake, hdrop⟩ := split_last_dash before k
  obtain ⟨htake', hdrop'⟩ := split_last_dash before' k'
  rw [h] at htake hdrop
  have hdigits := List.reverse_injective (htake.symm.trans htake')
  have hbefore := List.cons_injective (hdrop.symm.trans hdrop')
  refine ⟨List.reverse_injective hbefore, ?_⟩
  rw [← natText_value k, ← natText_value k', hdigits]

/-- A name tells its run and its index. -/
theorem fileName_inj {w w' : W} {k k' : Nat}
    (h : r.fileName w k = r.fileName w' k') : w = w' ∧ k = k' := by
  unfold fileName at h
  have hbody := List.append_cancel_right h
  rw [List.append_assoc, List.append_assoc] at hbody
  obtain ⟨htoken, hindex⟩ :=
    digits_append_inj (List.append_cancel_left hbody)
  exact ⟨r.distinct htoken, hindex⟩

/-- A file's path is its name in the directory. -/
theorem path_eq (w : W) (writer : GameplayEventFileWriter)
    (hpre : writer.filePrefix = r.filePrefix)
    (htoken : writer.runToken = r.runToken w) (rot : Nat) :
    writer.path rot = writer.directoryPath ++ '/' :: r.fileName w rot := by
  unfold GameplayEventFileWriter.path fileName
  rw [hpre, htoken]
  have hindex : intText (rot : Int) = natText rot := rfl
  rw [hindex]
  simp

-- ============================================================== one prune

/-- A prune deletes its own old generations and nothing else exactly when
it meets no stray file. -/
theorem prunes_own_iff (w : W) {rotation : Nat} (h : rotation < 2 ^ 63)
    (names : Finset Text) :
    (∀ name ∈ names, name ∉ r.pruneOldFiles w rotation names
        ↔ r.Old w rotation name)
      ↔ ∀ name ∈ names, ¬r.Stray w rotation name := by
  have hold (name : Text) (hown : r.Old w rotation name) :
      r.retires w rotation name = true := by
    obtain ⟨k, rfl, hk⟩ := hown
    exact (r.retires_fileName w h k).mpr hk
  have hpruned (name : Text) (hname : name ∈ names) :
      name ∉ r.pruneOldFiles w rotation names
        ↔ r.retires w rotation name = true := by
    unfold pruneOldFiles
    simp [hname]
  constructor
  · rintro hall name hname ⟨hretires, hforeign⟩
    obtain ⟨k, heq, _⟩ :=
      (hall name hname).mp ((hpruned name hname).mpr hretires)
    exact hforeign k heq
  · intro hstray name hname
    rw [hpruned name hname]
    refine ⟨?_, hold name⟩
    intro hretires
    have hown : ∃ k, name = r.fileName w k := by
      by_contra hnone
      push Not at hnone
      exact hstray name hname ⟨hretires, hnone⟩
    obtain ⟨k, rfl⟩ := hown
    exact ⟨k, rfl, (r.retires_fileName w h k).mp hretires⟩

end Runs

-- ========================================================== the directory

/-- The shared directory, with what every run has rotated to. -/
structure Directory (W : Type) where
  names : Finset Text
  rotation : W → Nat
  /-- The generations of a run that were there or have been opened. -/
  made : W → Nat → Prop
  /-- The run that pruned last, with the names before and after. -/
  pruned : Option (W × Finset Text × Finset Text)

/-- What happens to the directory. -/
inductive Action (W : Type) where
  | openFirstFile (w : W) (opened : Bool)
  | rotateToNextFile (w : W) (opened : Bool)
  /-- Anybody else adds and removes files. -/
  | others (added removed : Finset Text)

namespace Directory

variable {W : Type} (r : Runs W)

/-- Any directory, before any of the runs has opened a file. -/
def start (names : Finset Text) : Directory W where
  names := names
  rotation := fun _ => 0
  made := fun w k => r.fileName w k ∈ names
  pruned := none

/-- A generation's file is created, if the file system grants it. -/
def create (d : Directory W) (w : W) (rot : Nat) (opened : Bool) :
    Directory W :=
  { d with
    names := if opened then insert (r.fileName w rot) d.names else d.names
    made := fun w' k => d.made w' k ∨ (opened = true ∧ w' = w ∧ k = rot) }

/-- The prune of the rotation a run has just entered. -/
def prune (d : Directory W) (w : W) : Directory W :=
  let kept := r.pruneOldFiles w (d.rotation w) d.names
  { d with
    names := kept
    pruned := some (w, d.names, kept) }

/-- A run opens its first file once; a rotation past `Int.max` traps. -/
def step [DecidableEq W] (d : Directory W) : Action W → Option (Directory W)
  | .openFirstFile w opened =>
      if d.rotation w = 0 then some (d.create r w 0 opened) else none
  | .rotateToNextFile w opened =>
      let rot := d.rotation w + 1
      if rot < 2 ^ 63 then
        let entered := { d with
          rotation := Function.update d.rotation w rot }
        some ((entered.prune r w).create r w rot opened)
      else none
  | .others added removed =>
      some { d with names := (d.names \ removed) ∪ added }

/-- A prune retires its own old generations and nothing else, and of every
run the newest generations stay. -/
structure Kept (d : Directory W) : Prop where
  retired : ∀ w before after, d.pruned = some (w, before, after) →
    ∀ name ∈ before, name ∉ after ↔ r.Old w (d.rotation w) name
  newest : ∀ w k, r.fileName w k ∈ d.names
    ↔ d.made w k ∧ r.keepFrom w (d.rotation w) ≤ k

/-- A rotation meets no stray file, and nobody else touches a
generation. -/
def Unmixed (d : Directory W) : Action W → Prop
  | .openFirstFile _ _ => True
  | .rotateToNextFile w _ => d.rotation w + 1 < 2 ^ 63 →
      ∀ name ∈ d.names, ¬r.Stray w (d.rotation w + 1) name
  | .others added removed => ∀ w k,
      r.fileName w k ∈ (d.names \ removed) ∪ added
        ↔ r.fileName w k ∈ d.names

section Steps

variable {r} {d : Directory W}

theorem kept_start (names : Finset Text) : (start r names).Kept r where
  retired := by
    intro w before after h
    cases h
  newest := by
    intro w k
    have hkeep : r.keepFrom w 0 ≤ (k : Int) := by
      unfold Runs.keepFrom
      omega
    show _ ↔ _ ∧ r.keepFrom w 0 ≤ (k : Int)
    exact (and_iff_left hkeep).symm

/-- A file of the run's newest rotation is created. -/
theorem Kept.create (h : d.Kept r) (w : W) {rot : Nat}
    (hrot : r.keepFrom w (d.rotation w) ≤ rot) (opened : Bool) :
    (d.create r w rot opened).Kept r where
  retired := h.retired
  newest := by
    intro w' k
    have hbefore := h.newest w' k
    cases opened with
    | false => simpa [Directory.create] using hbefore
    | true =>
        have hsame : r.fileName w' k = r.fileName w rot
            ↔ w' = w ∧ k = rot := by
          constructor
          · exact r.fileName_inj
          · rintro ⟨rfl, rfl⟩
            rfl
        simp only [Directory.create, if_true, Finset.mem_insert, hsame,
          hbefore, true_and]
        constructor
        · rintro (⟨rfl, rfl⟩ | ⟨hmade, hkeep⟩)
          · exact ⟨.inr ⟨rfl, rfl⟩, hrot⟩
          · exact ⟨.inl hmade, hkeep⟩
        · rintro ⟨hmade | hnew, hkeep⟩
          · exact .inr ⟨hmade, hkeep⟩
          · exact .inl hnew

variable [DecidableEq W]

/-- A rotation that meets no stray file. -/
theorem Kept.prune (h : d.Kept r) (w : W)
    (hrot : d.rotation w + 1 < 2 ^ 63)
    (hstray : ∀ name ∈ d.names, ¬r.Stray w (d.rotation w + 1) name) :
    (Directory.prune r { d with
      rotation := Function.update d.rotation w (d.rotation w + 1) } w).Kept
        r where
  retired := by
    intro w' before after hpruned
    simp only [Directory.prune, Function.update_self, Option.some.injEq,
      Prod.mk.injEq] at hpruned
    obtain ⟨rfl, rfl, rfl⟩ := hpruned
    simp only [Directory.prune, Function.update_self]
    exact (r.prunes_own_iff w hrot d.names).mpr hstray
  newest := by
    intro w' k
    have hbefore := h.newest w' k
    have hown := (r.prunes_own_iff w hrot d.names).mpr hstray
    simp only [Directory.prune, Function.update_self]
    by_cases hw : w' = w
    · subst hw
      rw [Function.update_self]
      have hkeep : r.keepFrom w' (d.rotation w')
          ≤ r.keepFrom w' (d.rotation w' + 1) := by
        unfold Runs.keepFrom
        omega
      have hretires := r.retires_fileName w' hrot k
      unfold Runs.pruneOldFiles
      rw [Finset.mem_filter, ← Bool.not_eq_true, hretires, hbefore]
      constructor
      · rintro ⟨⟨hmade, _⟩, hnew⟩
        exact ⟨hmade, by omega⟩
      · rintro ⟨hmade, hnew⟩
        exact ⟨⟨hmade, by omega⟩, by omega⟩
    · rw [Function.update_of_ne hw, ← hbefore]
      constructor
      · intro hmem
        exact (Finset.mem_filter.mp hmem).1
      · intro hmem
        by_contra hgone
        obtain ⟨k', heq, _⟩ := (hown _ hmem).mp hgone
        exact hw (r.fileName_inj heq).1

theorem Kept.step (h : d.Kept r) {a : Action W} {d' : Directory W}
    (hunmixed : d.Unmixed r a) (hstep : d.step r a = some d') :
    d'.Kept r := by
  cases a with
  | openFirstFile w opened =>
      simp only [Directory.step, Option.ite_none_right_eq_some] at hstep
      obtain ⟨hfirst, hstep⟩ := hstep
      cases hstep
      apply h.create w
      rw [hfirst]
      unfold Runs.keepFrom
      omega
  | rotateToNextFile w opened =>
      simp only [Directory.step, Option.ite_none_right_eq_some] at hstep
      obtain ⟨hrot, hstep⟩ := hstep
      cases hstep
      apply (h.prune w hrot (hunmixed hrot)).create w
      simp only [Directory.prune, Function.update_self]
      unfold Runs.keepFrom
      omega
  | others added removed =>
      cases hstep
      refine ⟨h.retired, ?_⟩
      intro w k
      rw [hunmixed w k]
      exact h.newest w k

/-- A step that keeps the promise is unmixed. -/
theorem unmixed_of_kept {a : Action W} (h : d.Kept r)
    (hnext : ∀ d', d.step r a = some d' → d'.Kept r) : d.Unmixed r a := by
  cases a with
  | openFirstFile w opened => trivial
  | rotateToNextFile w opened =>
      intro hrot
      have hkept := hnext _ (if_pos hrot)
      rw [← r.prunes_own_iff w hrot d.names]
      have hretired := hkept.retired w d.names
        (r.pruneOldFiles w (d.rotation w + 1) d.names)
      simp only [Directory.create, Directory.prune, Function.update_self,
        forall_const] at hretired
      exact hretired
  | others added removed =>
      intro w k
      have hkept := (hnext _ rfl).newest w k
      rw [h.newest w k]
      exact hkept

end Steps

/-- From any directory, prunes retire their own old generations only and the
newest generations of every run stay, in every state of exactly the runs in
which no rotation meets a stray file and nobody else touches a
generation. -/
theorem kept_iff_unmixed [DecidableEq W] (names : Finset Text)
    (acts : List (Action W)) :
    (∀ d, Run.Visits (step r) (start r names) acts d → d.Kept r)
      ↔ Run.Along (step r) (Unmixed r) (start r names) acts := by
  refine Run.visits_iff_along (J := Kept r) ?_ (fun h => h) ?_
    (kept_start names)
  · intro d d' a h hunmixed hstep
    exact h.step hunmixed hstep
  · intro d a h hnext
    exact unmixed_of_kept h hnext

-- ----------------------------------------------- two runs, one directory

/-- Two runs of the game; each keeps the live file alone. -/
def twoRuns : Runs Bool where
  filePrefix := "gameplay-".toList
  runToken := fun w => if w then "1a2b3c4d".toList else "5e6f7a8b".toList
  keptFiles := fun _ => 1
  distinct := by decide

/-- Both runs open their first file, and one of them rotates. -/
def rotatedBeside : List (Action Bool) :=
  [.openFirstFile true true, .openFirstFile false true,
    .rotateToNextFile true true]

/-- The rotation deletes the live file of the other run. -/
theorem not_kept_rotatedBeside : ∃ d,
    Run.Visits (step twoRuns) (start twoRuns ∅) rotatedBeside d
      ∧ d.made false 0 ∧ twoRuns.fileName false 0 ∉ d.names
      ∧ ¬d.Kept twoRuns := by
  have hmade : twoRuns.keepFrom false 0 ≤ ((0 : Nat) : Int) := by decide
  refine ⟨_, ⟨_, List.prefix_refl _, rfl⟩, .inl (.inr ⟨rfl, rfl, rfl⟩), ?_,
    ?_⟩
  · decide +kernel
  · intro h
    have hlive := (h.newest false 0).mpr ⟨.inl (.inr ⟨rfl, rfl, rfl⟩), hmade⟩
    revert hlive
    decide +kernel

end Directory

end Exolon.Generations

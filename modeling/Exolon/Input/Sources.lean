/-
Who holds which action: the input state behind every snapshot.

Four sources press and release actions. `InputState` keeps what each source
holds and, in a second map, the source that reported each action last. The
lock makes every operation one step, so a run is a list of operations.

The snapshot is right in every run (`snapshot_reports`). The attribution is
not: a release by the source it names forgets the ones that still hold the
action. `source_attributed` says what it is in every run in which that does
not happen (`HandsOver`).
-/
import Exolon.EventLog.Vocabulary
import Exolon.Scene.Scene

namespace Exolon.Input

-- ============================================================= the state

structure InputState where
  pressedBySource : InputSource → Finset GameAction := fun _ => ∅
  /-- Which source most recently reported each held action. -/
  sourceByAction : GameAction → Option InputSource := fun _ => none
  pausePressPending : Bool := false

/-- The keys of `pressedBySource`. -/
def sources : List InputSource :=
  [.keyboard, .gamepadDPad, .gamepadStick, .gamepadButtons]

def gamepadSources : List InputSource :=
  [.gamepadDPad, .gamepadStick, .gamepadButtons]

namespace InputState

/-- A source holds an action. -/
def Holds (s : InputState) (source : InputSource) (action : GameAction) :
    Prop :=
  action ∈ s.pressedBySource source

instance (s : InputState) (source : InputSource) (action : GameAction) :
    Decidable (s.Holds source action) := by
  unfold Holds
  infer_instance

def press (s : InputState) (action : GameAction) (source : InputSource) :
    InputState :=
  let actions := s.pressedBySource source
  { pressedBySource :=
      Function.update s.pressedBySource source (insert action actions)
    sourceByAction :=
      Function.update s.sourceByAction action (some source)
    pausePressPending := s.pausePressPending
      || decide (action = .pause ∧ GameAction.pause ∉ actions) }

def release (s : InputState) (action : GameAction) (source : InputSource) :
    InputState :=
  { s with
    pressedBySource := Function.update s.pressedBySource source
      ((s.pressedBySource source).erase action)
    sourceByAction :=
      if s.sourceByAction action = some source then
        Function.update s.sourceByAction action none
      else s.sourceByAction }

/-- `set(_:pressed:source:)` -/
def set (s : InputState) (action : GameAction) (isPressed : Bool)
    (source : InputSource) : InputState :=
  if isPressed then s.press action source else s.release action source

/-- `source(for:)` -/
def sourceFor (s : InputState) (action : GameAction) : Option InputSource :=
  s.sourceByAction action

/-- `reset(source:)` -/
def reset (s : InputState) (source : InputSource) : InputState :=
  { s with
    pressedBySource := Function.update s.pressedBySource source ∅
    sourceByAction := fun action =>
      if action ∈ s.pressedBySource source
          ∧ s.sourceByAction action = some source then none
      else s.sourceByAction action }

def resetAll (_ : InputState) : InputState := {}

/-- The loop over the gamepad's sources does what `reset` does to one. -/
def resetGamepad (s : InputState) : InputState :=
  gamepadSources.foldl reset s

def consumePausePress (s : InputState) : InputState :=
  { s with pausePressPending := false }

def snapshot (s : InputState) : InputSnapshot :=
  let pressed := sources.foldl
    (fun result source => result ∪ s.pressedBySource source) ∅
  { moveLeft := .moveLeft ∈ pressed
    moveRight := .moveRight ∈ pressed
    jump := .jump ∈ pressed
    crouch := .crouch ∈ pressed
    fire := .fire ∈ pressed
    grenade := .grenade ∈ pressed
    pause := .pause ∈ pressed
    menuUp := .menuUp ∈ pressed
    menuDown := .menuDown ∈ pressed
    debugHitboxes := .debugHitboxes ∈ pressed }

end InputState

/-- What a snapshot says of an action. -/
def reports (i : InputSnapshot) : GameAction → Bool
  | .moveLeft => i.moveLeft
  | .moveRight => i.moveRight
  | .jump => i.jump
  | .crouch => i.crouch
  | .fire => i.fire
  | .grenade => i.grenade
  | .pause => i.pause
  | .menuUp => i.menuUp
  | .menuDown => i.menuDown
  | .debugHitboxes => i.debugHitboxes

-- ========================================================= the operations

inductive Op where
  | set (action : GameAction) (isPressed : Bool) (source : InputSource)
  | reset (source : InputSource)
  | resetAll
  | resetGamepad
  | consumePausePress

namespace Op

def apply (s : InputState) : Op → InputState
  | .set action isPressed source => s.set action isPressed source
  | .reset source => s.reset source
  | .resetAll => s.resetAll
  | .resetGamepad => s.resetGamepad
  | .consumePausePress => s.consumePausePress

/-- The report an operation makes of an action. -/
def report (action : GameAction) : Op → Option InputSource
  | .set other true source => if other = action then some source else none
  | _ => none

/-- The operation makes the source let go of the action. -/
def Releases (source : InputSource) (action : GameAction) : Op → Prop
  | .set other isPressed other' =>
      isPressed = false ∧ other = action ∧ other' = source
  | .reset other => other = source
  | .resetAll => True
  | .resetGamepad => source ∈ gamepadSources
  | .consumePausePress => False

end Op

/-- The state a list of operations leads to. -/
def after (ops : List Op) : InputState := ops.foldl Op.apply {}

/-- The sources that reported an action, in order. -/
def reporters (ops : List Op) (action : GameAction) : List InputSource :=
  ops.filterMap (Op.report action)

/-- The one that reported it most recently among those still holding it. -/
def lastHolder (ops : List Op) (s : InputState) (action : GameAction) :
    Option InputSource :=
  (reporters ops action).reverse.find? fun source => s.Holds source action

/-- When the source an action is attributed to lets go of it, no other
source keeps holding it. -/
def HandsOver (s : InputState) (op : Op) : Prop :=
  ∀ action source, s.sourceFor action = some source →
    op.Releases source action →
    ∀ other, s.Holds other action → op.Releases other action

-- ===================================================== what one step does

section Steps

variable {s : InputState} {action : GameAction} {source : InputSource}

/-- The source an action is attributed to holds it. -/
def Sound (s : InputState) : Prop :=
  ∀ action source, s.sourceFor action = some source →
    s.Holds source action

theorem holds_reset (other : InputSource) :
    (s.reset other).Holds source action ↔
      s.Holds source action ∧ other ≠ source := by
  unfold InputState.Holds InputState.reset
  by_cases h : source = other
  · subst h
    simp
  · simp [h, Ne.symm h]

theorem holds_resets (others : List InputSource) :
    (others.foldl InputState.reset s).Holds source action ↔
      s.Holds source action ∧ source ∉ others := by
  induction others generalizing s with
  | nil => simp
  | cons other others ih =>
      rw [List.foldl_cons, ih, holds_reset, List.mem_cons, not_or]
      constructor
      · rintro ⟨⟨hheld, hne⟩, hrest⟩
        exact ⟨hheld, Ne.symm hne, hrest⟩
      · rintro ⟨hheld, hne, hrest⟩
        exact ⟨⟨hheld, Ne.symm hne⟩, hrest⟩

theorem sound_reset (h : Sound s) (other : InputSource) :
    Sound (s.reset other) := by
  intro action source hsource
  unfold InputState.sourceFor InputState.reset at hsource
  simp only at hsource
  by_cases hcleared : action ∈ s.pressedBySource other
      ∧ s.sourceByAction action = some other
  · rw [if_pos hcleared] at hsource
    cases hsource
  · rw [if_neg hcleared] at hsource
    rw [holds_reset]
    refine ⟨h action source hsource, ?_⟩
    intro heq
    subst heq
    exact hcleared ⟨h action other hsource, hsource⟩

/-- A reset takes an action from the source it names, and from no other. -/
theorem sourceFor_reset (h : Sound s) (other : InputSource) :
    (s.reset other).sourceFor action
      = if s.sourceFor action = some other then none
        else s.sourceFor action := by
  show (if action ∈ s.pressedBySource other
      ∧ s.sourceByAction action = some other then none
    else s.sourceByAction action) = _
  by_cases hsource : s.sourceFor action = some other
  · rw [if_pos hsource, if_pos ⟨h action other hsource, hsource⟩]
  · have hkept : ¬(action ∈ s.pressedBySource other
        ∧ s.sourceByAction action = some other) := by
      intro hboth
      exact hsource hboth.2
    rw [if_neg hsource, if_neg hkept]
    rfl

theorem sourceFor_resets (h : Sound s) (others : List InputSource) :
    Sound (others.foldl InputState.reset s)
      ∧ (others.foldl InputState.reset s).sourceFor action
        = if ∃ source ∈ others, s.sourceFor action = some source then none
          else s.sourceFor action := by
  induction others generalizing s with
  | nil => simp [h]
  | cons other others ih =>
      obtain ⟨hsound, hsource⟩ := ih (sound_reset h other)
      refine ⟨hsound, ?_⟩
      rw [List.foldl_cons, hsource, sourceFor_reset h]
      by_cases hfirst : s.sourceFor action = some other
      · simp [hfirst]
      · simp [hfirst]

/-- Who holds an action after an operation. -/
theorem holds_apply (op : Op) :
    (op.apply s).Holds source action ↔
      op.report action = some source
        ∨ (s.Holds source action ∧ ¬op.Releases source action) := by
  cases op with
  | set other isPressed other' =>
      cases isPressed with
      | true =>
          show action ∈ Function.update s.pressedBySource other'
            (insert other (s.pressedBySource other')) source ↔ _
          by_cases hsource : source = other'
          · subst hsource
            by_cases haction : other = action
            · simp [Op.report, haction]
            · simp [Op.report, Op.Releases, haction, Ne.symm haction,
                InputState.Holds]
          · simp [Op.report, Op.Releases, hsource, Ne.symm hsource,
              InputState.Holds]
      | false =>
          show action ∈ Function.update s.pressedBySource other'
            ((s.pressedBySource other').erase other) source ↔ _
          by_cases hsource : source = other'
          · subst hsource
            by_cases haction : other = action
            · simp [Op.report, Op.Releases, haction]
            · simp [Op.report, Op.Releases, haction, Ne.symm haction,
                InputState.Holds]
          · simp [Op.report, Op.Releases, hsource, Ne.symm hsource,
              InputState.Holds]
  | reset other =>
      show (s.reset other).Holds source action ↔ _
      rw [holds_reset]
      simp [Op.report, Op.Releases]
  | resetAll =>
      show action ∈ (∅ : Finset GameAction) ↔ _
      simp [Op.report, Op.Releases]
  | resetGamepad =>
      show (gamepadSources.foldl InputState.reset s).Holds source action ↔ _
      rw [holds_resets]
      simp [Op.report, Op.Releases]
  | consumePausePress =>
      show s.Holds source action ↔ _
      simp [Op.report, Op.Releases]

/-- A report attributes its action. -/
theorem sourceFor_of_report {op : Op} (h : op.report action = some source) :
    (op.apply s).sourceFor action = some source := by
  cases op with
  | set other isPressed other' =>
      cases isPressed with
      | true =>
          simp only [Op.report] at h
          by_cases haction : other = action
          · rw [if_pos haction] at h
            subst haction
            show Function.update s.sourceByAction other (some other') other
              = some source
            rw [Function.update_self]
            exact h
          · rw [if_neg haction] at h
            cases h
      | false => cases h
  | reset _ | resetAll | resetGamepad | consumePausePress => cases h

/-- A release by the source an action is attributed to forgets it. -/
theorem sourceFor_of_releases (hsound : Sound s) {op : Op}
    (h : s.sourceFor action = some source)
    (hreleases : op.Releases source action) :
    (op.apply s).sourceFor action = none := by
  cases op with
  | set other isPressed other' =>
      obtain ⟨rfl, rfl, rfl⟩ := hreleases
      have hnamed : s.sourceByAction other = some other' := h
      show (if s.sourceByAction other = some other' then
          Function.update s.sourceByAction other none
        else s.sourceByAction) other = none
      rw [if_pos hnamed, Function.update_self]
  | reset other =>
      obtain rfl : other = source := hreleases
      show (s.reset other).sourceFor action = none
      rw [sourceFor_reset hsound, if_pos h]
  | resetAll => rfl
  | resetGamepad =>
      show (gamepadSources.foldl InputState.reset s).sourceFor action = none
      rw [(sourceFor_resets hsound _).2, if_pos ⟨source, hreleases, h⟩]
  | consumePausePress => exact absurd hreleases id

/-- Any other operation leaves the attribution. -/
theorem sourceFor_of_kept (hsound : Sound s) {op : Op}
    (hreport : op.report action = none)
    (hkept : ∀ source, s.sourceFor action = some source →
      ¬op.Releases source action) :
    (op.apply s).sourceFor action = s.sourceFor action := by
  cases op with
  | set other isPressed other' =>
      cases isPressed with
      | true =>
          have haction : other ≠ action := by
            intro heq
            simp [Op.report, heq] at hreport
          show Function.update s.sourceByAction other (some other') action
            = s.sourceByAction action
          rw [Function.update_of_ne (Ne.symm haction)]
      | false =>
          show (if s.sourceByAction other = some other' then
              Function.update s.sourceByAction other none
            else s.sourceByAction) action = s.sourceByAction action
          by_cases hnamed : s.sourceByAction other = some other'
          · have haction : other ≠ action := by
              intro heq
              subst heq
              exact hkept other' hnamed ⟨rfl, rfl, rfl⟩
            rw [if_pos hnamed, Function.update_of_ne (Ne.symm haction)]
          · rw [if_neg hnamed]
  | reset other =>
      have hother : s.sourceFor action ≠ some other := by
        intro heq
        exact hkept other heq rfl
      show (s.reset other).sourceFor action = _
      rw [sourceFor_reset hsound, if_neg hother]
  | resetAll =>
      show none = s.sourceFor action
      cases hsource : s.sourceFor action with
      | none => rfl
      | some source => exact absurd trivial (hkept source hsource)
  | resetGamepad =>
      have hother : ¬∃ source ∈ gamepadSources,
          s.sourceFor action = some source := by
        rintro ⟨source, hmem, heq⟩
        exact hkept source heq hmem
      show (gamepadSources.foldl InputState.reset s).sourceFor action = _
      rw [(sourceFor_resets hsound _).2, if_neg hother]
  | consumePausePress => rfl

end Steps

-- ================================================================== runs

/-- The state after a list of operations, whatever they are. -/
structure Kept (ops : List Op) (s : InputState) : Prop where
  sound : Sound s
  reported : ∀ action source, s.Holds source action →
    source ∈ reporters ops action
  attributed : ∀ action, s.sourceFor action = lastHolder ops s action

theorem after_concat (ops : List Op) (op : Op) :
    after (ops ++ [op]) = op.apply (after ops) := by
  unfold after
  rw [List.foldl_append]
  rfl

theorem reporters_concat (ops : List Op) (op : Op) (action : GameAction) :
    reporters (ops ++ [op]) action
      = reporters ops action ++ (op.report action).toList := by
  unfold reporters
  rw [List.filterMap_append]
  cases h : op.report action with
  | none => simp [h]
  | some source => simp [h]

/-- Who reported an action last, when the last operation did not. -/
theorem lastHolder_of_kept {ops : List Op} {s : InputState} {op : Op}
    {action : GameAction} (hreport : op.report action = none)
    {source : InputSource} (h : lastHolder ops s action = some source)
    (hkept : ¬op.Releases source action) :
    lastHolder (ops ++ [op]) (op.apply s) action = some source := by
  unfold lastHolder at h ⊢
  rw [reporters_concat, hreport, Option.toList_none, List.append_nil]
  rw [List.find?_eq_some_iff_append] at h ⊢
  obtain ⟨hheld, later, earlier, hsplit, hgone⟩ := h
  have hholds := of_decide_eq_true hheld
  refine ⟨decide_eq_true ?_, later, earlier, hsplit, ?_⟩
  · rw [holds_apply]
    exact .inr ⟨hholds, hkept⟩
  · intro other hother
    have hbefore : ¬s.Holds other action := by
      have hnot := hgone other hother
      simpa using hnot
    have hafter : ¬(op.apply s).Holds other action := by
      rw [holds_apply, hreport]
      rintro (hnone | ⟨hheld', _⟩)
      · cases hnone
      · exact hbefore hheld'
    simpa using hafter

theorem lastHolder_eq_none {ops : List Op} {s : InputState}
    {action : GameAction} (h : ∀ source, ¬s.Holds source action) :
    lastHolder ops s action = none := by
  unfold lastHolder
  rw [List.find?_eq_none]
  intro source _
  have hsource := h source
  simpa using hsource

theorem Kept.none_holds {ops : List Op} {s : InputState} (h : Kept ops s)
    {action : GameAction} (hnone : s.sourceFor action = none)
    (source : InputSource) : ¬s.Holds source action := by
  intro hheld
  rw [h.attributed] at hnone
  unfold lastHolder at hnone
  rw [List.find?_eq_none] at hnone
  have hmem := List.mem_reverse.mpr (h.reported action source hheld)
  exact hnone source hmem (decide_eq_true hheld)

/-- One more operation that hands over. -/
theorem Kept.step {ops : List Op} {s : InputState} (h : Kept ops s) {op : Op}
    (hover : HandsOver s op) : Kept (ops ++ [op]) (op.apply s) := by
  have hattributed : ∀ action, (op.apply s).sourceFor action
      = lastHolder (ops ++ [op]) (op.apply s) action := by
    intro action
    cases hreport : op.report action with
    | some source =>
        have hheld : (op.apply s).Holds source action := by
          rw [holds_apply]
          exact .inl hreport
        rw [sourceFor_of_report hreport]
        unfold lastHolder
        rw [reporters_concat, hreport]
        simp [hheld]
    | none =>
        cases hsource : s.sourceFor action with
        | none =>
            have hkept := sourceFor_of_kept h.sound hreport (by simp [hsource])
            rw [hkept, hsource, lastHolder_eq_none]
            intro source hheld
            rw [holds_apply, hreport] at hheld
            rcases hheld with hheld | ⟨hheld, _⟩
            · cases hheld
            · exact h.none_holds hsource source hheld
        | some source =>
            by_cases hreleases : op.Releases source action
            · rw [sourceFor_of_releases h.sound hsource hreleases,
                lastHolder_eq_none]
              intro other hheld
              rw [holds_apply, hreport] at hheld
              rcases hheld with hheld | ⟨hheld, hkept⟩
              · cases hheld
              · exact hkept (hover action source hsource hreleases other
                  hheld)
            · have hlast := h.attributed action
              rw [hsource] at hlast
              rw [lastHolder_of_kept hreport hlast.symm hreleases,
                sourceFor_of_kept h.sound hreport, hsource]
              intro other hother
              rw [hsource] at hother
              rw [← Option.some.inj hother]
              exact hreleases
  refine ⟨?_, ?_, hattributed⟩
  · intro action source hsource
    rw [hattributed] at hsource
    have hheld := List.find?_some hsource
    exact of_decide_eq_true hheld
  · intro action source hheld
    rw [reporters_concat, List.mem_append]
    rw [holds_apply] at hheld
    rcases hheld with hreport | ⟨hheld, _⟩
    · right
      rw [hreport]
      exact List.mem_singleton.mpr rfl
    · left
      exact h.reported action source hheld

/-- What is said of an action after any run. -/
theorem snapshot_reports (s : InputState) (action : GameAction) :
    reports s.snapshot action = true ↔
      ∃ source, s.Holds source action := by
  have hmerged : reports s.snapshot action
      = decide (action ∈ sources.foldl
        (fun result source => result ∪ s.pressedBySource source) ∅) := by
    cases action <;> rfl
  rw [hmerged, decide_eq_true_eq]
  unfold InputState.Holds sources
  simp only [List.foldl_cons, List.foldl_nil, Finset.empty_union,
    Finset.mem_union]
  constructor
  · rintro (((h | h) | h) | h)
    · exact ⟨_, h⟩
    · exact ⟨_, h⟩
    · exact ⟨_, h⟩
    · exact ⟨_, h⟩
  · rintro ⟨source, h⟩
    cases source
    · exact .inl (.inl (.inl h))
    · exact .inl (.inl (.inr h))
    · exact .inl (.inr h)
    · exact .inr h

/-- What a state says of every action, after the operations that led to
it: whether it is held, and by whom it was reported last. -/
def Attributed (ops : List Op) (s : InputState) : Prop :=
  ∀ action,
    (reports s.snapshot action = true ↔ ∃ source, s.Holds source action)
      ∧ (s.sourceFor action = none ↔ ∀ source, ¬s.Holds source action)
      ∧ (∀ source, s.sourceFor action = some source →
        s.Holds source action)
      ∧ s.sourceFor action = lastHolder ops s action

theorem Kept.tells {ops : List Op} {s : InputState} (h : Kept ops s) :
    Attributed ops s := by
  intro action
  refine ⟨snapshot_reports s action, ⟨h.none_holds, ?_⟩, h.sound action,
    h.attributed action⟩
  intro hnone
  cases hsource : s.sourceFor action with
  | none => rfl
  | some source => exact absurd (h.sound action source hsource) (hnone source)

/-- In a run whose operations hand over, every state is attributed to the
sources that hold. -/
theorem source_attributed (ops : List Op)
    (h : ∀ before op, before ++ [op] <+: ops →
      HandsOver (after before) op) :
    ∀ before, before <+: ops → Attributed before (after before) := by
  have hkept : ∀ before, before <+: ops → Kept before (after before) := by
    intro before
    induction before using List.reverseRecOn with
    | nil =>
        intro _
        refine ⟨?_, ?_, ?_⟩
        · intro action source hsource
          cases hsource
        · intro action source hheld
          exact absurd hheld (Finset.notMem_empty action)
        · intro action
          rfl
    | append_singleton before op ih =>
        intro hfront
        rw [after_concat]
        have hbefore := (List.prefix_append before [op]).trans hfront
        exact (ih hbefore).step (h before op hfront)
  intro before hbefore
  exact (hkept before hbefore).tells

/-- FIRE from the keyboard, then from the gamepad, and released there. -/
def takenOver : List Op :=
  [.set .fire true .keyboard, .set .fire true .gamepadButtons,
    .set .fire false .gamepadButtons]

/-- The keyboard holds FIRE, and no source is named. -/
theorem source_forgotten :
    (after takenOver).Holds .keyboard .fire
      ∧ (after takenOver).sourceFor .fire = none := by
  decide

/-- The same presses, and the first of the two lets go. -/
def handedOver : List Op :=
  [.set .fire true .keyboard, .set .fire true .gamepadButtons,
    .set .fire false .keyboard]

theorem source_attributed_handedOver :
    Attributed handedOver (after handedOver)
      ∧ (after handedOver).sourceFor .fire = some .gamepadButtons := by
  refine ⟨source_attributed handedOver ?_ handedOver (List.prefix_refl _),
    by decide⟩
  intro before op hfront action source hsource hreleases other hheld
  obtain ⟨rest, hrest⟩ := hfront
  match before, hrest, hsource, hheld with
  | [], hrest, hsource, _ => cases hsource
  | [first], hrest, _, _ =>
      obtain ⟨_, rfl, _⟩ : _ = _ ∧ op = _ ∧ _ := by
        simpa [handedOver] using hrest
      exact absurd hreleases.1 (by decide)
  | [first, second], hrest, hsource, _ =>
      obtain ⟨rfl, rfl, rfl, _⟩ : first = _ ∧ second = _ ∧ op = _ ∧ _ := by
        simpa [handedOver] using hrest
      obtain ⟨_, rfl, rfl⟩ := hreleases
      exact absurd hsource (by decide)
  | first :: second :: third :: more, hrest, _, _ =>
      have hlength := congrArg List.length hrest
      simp [handedOver] at hlength

end Exolon.Input

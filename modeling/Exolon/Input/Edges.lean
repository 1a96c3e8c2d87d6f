/-
The edge stream: presses and releases as the fixed steps saw them.

`emitInputEdges` compares the snapshot of a step with that of the step
before, and writes a record for every action that changed. A gap is the
list of operations on the input state since the step before; the
attribution is looked up when the snapshot is taken, after the gap.

The stream gives the snapshots back in every run that starts with nothing
pressed, and its edges alternate and count what they end. What a record
does not know is who let go: by then the attribution is forgotten, and the
record names the keyboard. `Plain` is when the named source is the one
that caused the change (`reconstructs_iff_plain`).
-/
import Exolon.EventLog.RoundTrip
import Exolon.Input.Sources

namespace Exolon.Input

open GameplayEventSink GameplayWireEnum

-- ============================================================ the emitter

/-- What the scene keeps to tell the edges. -/
structure EdgeEmitter where
  previousTickInput : Option InputSnapshot := none
  heldStepsByAction : GameAction → Nat := fun _ => 0

/-- The actions in the order of their codes. -/
def trackedActions : List GameAction := allCases

namespace EdgeEmitter

/-- Saturating: a long hold must not wrap the millisecond lane. -/
def count (heldBefore : Nat) (isPressed : Bool) : Nat :=
  if isPressed then
    if heldBefore < 1000000 then heldBefore + 1 else heldBefore
  else 0

def milliseconds (heldSteps : Nat) : Int :=
  (GameplayEvent.microseconds heldSteps).tdiv 1000

/-- The record of an action, if it changed. A press has held nothing yet;
a release reports the run that just ended. -/
def edge? (e : EdgeEmitter) (inputState : InputState)
    (previous current : InputSnapshot) (action : GameAction) :
    Option Emission :=
  let wasPressed := reports previous action
  let isPressed := reports current action
  if wasPressed = isPressed then none
  else
    let heldSteps := if isPressed then 0 else e.heldStepsByAction action
    some (emitActionEdge action ((inputState.sourceFor action).getD .keyboard)
      isPressed (milliseconds heldSteps))

/-- The first step only leaves its snapshot. -/
def emitInputEdges (e : EdgeEmitter) (inputState : InputState)
    (current : InputSnapshot) : EdgeEmitter × List Emission :=
  match e.previousTickInput with
  | none => ({ e with previousTickInput := some current }, [])
  | some previous =>
      ({ previousTickInput := some current
         heldStepsByAction := fun action =>
           count (e.heldStepsByAction action) (reports current action) },
        trackedActions.filterMap (e.edge? inputState previous current))

end EdgeEmitter

/-- The input state and the emitter between two fixed steps. -/
structure EdgeState where
  inputState : InputState := {}
  emitter : EdgeEmitter := {}

/-- The operations of a gap, and the step after it. -/
def EdgeState.step (s : EdgeState) (gap : List Op) :
    EdgeState × List Emission :=
  let inputState := gap.foldl Op.apply s.inputState
  let emitted := s.emitter.emitInputEdges inputState inputState.snapshot
  (⟨inputState, emitted.1⟩, emitted.2)

/-- The state after some gaps, each with its step, and every record so
far. -/
def play (gaps : List (List Op)) : EdgeState × List Emission :=
  gaps.foldl (fun played gap =>
    let next := played.1.step gap
    (next.1, played.2 ++ next.2)) ({}, [])

-- ============================================================ the records

/-- What an edge record tells. -/
structure Edge where
  action : GameAction
  source : InputSource
  pressed : Bool
  heldMilliseconds : Int
  deriving DecidableEq, Repr

open GameplayEvent in
/-- Read a record as the formatter does. -/
def readEdge (record : Emission) : Option Edge :=
  if record.kind = .inputActionEdge then
    (ofWireCode GameAction (bits record.entity 0 0b111111)).bind fun action =>
      (ofWireCode InputSource (bits record.entity 6 0b11)).map fun source =>
        { action := action
          source := source
          pressed := record.b != 0
          heldMilliseconds := record.a.toInt }
  else none

/-- The edges of a run. -/
def edges (gaps : List (List Op)) : List Edge :=
  (play gaps).2.filterMap readEdge

/-- The edges the last of the steps emits. -/
def lastEdges (before : List (List Op)) (gap : List Op) : List Edge :=
  ((play before).1.step gap).2.filterMap readEdge

/-- What an edge makes of an action. -/
def Edge.leaves (action : GameAction) (pressed : Bool) (edge : Edge) : Bool :=
  if edge.action = action then edge.pressed else pressed

/-- Replay edges from the state in which everything is released. -/
def replay (edges : List Edge) (action : GameAction) : Bool :=
  edges.foldl (Edge.leaves action) false

/-- The edges of an action, as presses and releases. -/
def flags (edges : List Edge) (action : GameAction) : List Bool :=
  (edges.filter (·.action = action)).map Edge.pressed

/-- Alternately a flag and its opposite. -/
def Alternates : Bool → List Bool → Prop
  | _, [] => True
  | flag, first :: rest => first = flag ∧ Alternates (!flag) rest

-- ====================================================== what they promise

/-- The input state after some gaps. -/
def afterGaps (gaps : List (List Op)) : InputState := after gaps.flatten

/-- Whether the action is held, step by step. -/
def seen (action : GameAction) : InputState → List (List Op) → List Bool
  | _, [] => []
  | s, gap :: rest =>
      let next := gap.foldl Op.apply s
      reports next.snapshot action :: seen action next rest

/-- For how many steps up to now the action has been held. -/
def heldFor (gaps : List (List Op)) (action : GameAction) : Nat :=
  ((seen action {} gaps).reverse.takeWhile id).length

/-- The source made the last change of the action in the gap. -/
def Causes (s : InputState) (gap : List Op) (action : GameAction)
    (source : InputSource) : Prop :=
  ∃ earlier op later, gap = earlier ++ op :: later ∧
    let before := earlier.foldl Op.apply s
    let changed := op.apply before
    reports changed.snapshot action ≠ reports before.snapshot action
      ∧ (changed.Holds source action ↔ ¬before.Holds source action)
      ∧ ∀ more, more <+: later →
        reports (more.foldl Op.apply changed).snapshot action
          = reports changed.snapshot action

/-- The stream up to a step gives the input back. -/
structure Reconstructs (before : List (List Op)) (gap : List Op) :
    Prop where
  readable : ∀ record ∈ (play (before ++ [gap])).2,
    (readEdge record).isSome
  replays : ∀ action, replay (edges (before ++ [gap])) action
    = reports (afterGaps (before ++ [gap])).snapshot action
  alternates : ∀ action,
    Alternates true (flags (edges (before ++ [gap])) action)
  held : ∀ edge ∈ lastEdges before gap, edge.pressed = false →
    edge.heldMilliseconds
      = min 32767 (EdgeEmitter.milliseconds (heldFor before edge.action))
  caused : ∀ edge ∈ lastEdges before gap,
    Causes (afterGaps before) gap edge.action edge.source

instance (source : InputSource) (action : GameAction) (op : Op) :
    Decidable (op.Releases source action) := by
  cases op <;> unfold Op.Releases <;> infer_instance

/-- The source a gap leaves an action attributed to: the last to report it,
unless it let go since. -/
def speaks (action : GameAction) (named : Option InputSource) (op : Op) :
    Option InputSource :=
  match op.report action with
  | some source => some source
  | none => named.bind fun source =>
      if op.Releases source action then none else some source

/-- Nothing is pressed at the first step. After it, an action is pressed by
the source that reported it last and still holds it, or by the keyboard if
that one let go; and it is released by the keyboard. -/
def Plain (before : List (List Op)) (gap : List Op) : Prop :=
  ∀ action,
    let was := reports (afterGaps before).snapshot action
    let now := reports (afterGaps (before ++ [gap])).snapshot action
    (before = [] → now = false)
      ∧ (was ≠ now → Causes (afterGaps before) gap action
        (if now then (gap.foldl (speaks action) none).getD .keyboard
          else .keyboard))

-- ====================================================== the attribution

section Attribution

variable {s : InputState} {action : GameAction}

theorem sound_apply (h : Sound s) (op : Op) : Sound (op.apply s) := by
  intro action source hsource
  rw [holds_apply]
  cases hreport : op.report action with
  | some other =>
      rw [sourceFor_of_report hreport] at hsource
      exact .inl hsource
  | none =>
      right
      by_cases hreleases : ∃ other, s.sourceFor action = some other
          ∧ op.Releases other action
      · obtain ⟨other, hother, hlets⟩ := hreleases
        rw [sourceFor_of_releases h hother hlets] at hsource
        cases hsource
      · push Not at hreleases
        rw [sourceFor_of_kept h hreport hreleases] at hsource
        exact ⟨h action source hsource, hreleases source hsource⟩

/-- What an operation does to the attribution of an action. -/
theorem sourceFor_apply (h : Sound s) (op : Op) :
    (op.apply s).sourceFor action
      = speaks action (s.sourceFor action) op := by
  unfold speaks
  cases hreport : op.report action with
  | some source => exact sourceFor_of_report hreport
  | none =>
      show _ = (s.sourceFor action).bind _
      cases hsource : s.sourceFor action with
      | none =>
          rw [sourceFor_of_kept h hreport (by simp [hsource]), hsource]
          rfl
      | some source =>
          by_cases hreleases : op.Releases source action
          · rw [sourceFor_of_releases h hsource hreleases]
            simp [hreleases]
          · rw [sourceFor_of_kept h hreport, hsource]
            · simp [hreleases]
            · intro other hother
              rw [hsource] at hother
              rw [← Option.some.inj hother]
              exact hreleases

theorem sound_gap (h : Sound s) (gap : List Op) :
    Sound (gap.foldl Op.apply s) := by
  induction gap generalizing s with
  | nil => exact h
  | cons op gap ih => exact ih (sound_apply h op)

theorem sourceFor_gap (h : Sound s) (gap : List Op) :
    (gap.foldl Op.apply s).sourceFor action
      = gap.foldl (speaks action) (s.sourceFor action) := by
  induction gap generalizing s with
  | nil => rfl
  | cons op gap ih =>
      rw [List.foldl_cons, ih (sound_apply h op), sourceFor_apply h]
      rfl

theorem sound_afterGaps (gaps : List (List Op)) : Sound (afterGaps gaps) := by
  apply sound_gap
  intro action source hsource
  cases hsource

/-- An action nobody holds is attributed to nobody. -/
theorem sourceFor_eq_none (h : Sound s)
    (hreleased : reports s.snapshot action = false) :
    s.sourceFor action = none := by
  cases hsource : s.sourceFor action with
  | none => rfl
  | some source =>
      have hheld := (snapshot_reports s action).mpr
        ⟨source, h action source hsource⟩
      rw [hheld] at hreleased
      cases hreleased

end Attribution

-- ========================================================== one more step

section Step

variable (before : List (List Op)) (gap : List Op) (action : GameAction)

theorem afterGaps_concat :
    afterGaps (before ++ [gap]) = gap.foldl Op.apply (afterGaps before) := by
  unfold afterGaps after
  rw [List.flatten_append, List.foldl_append]
  simp

theorem play_concat :
    play (before ++ [gap])
      = (((play before).1.step gap).1,
        (play before).2 ++ ((play before).1.step gap).2) := by
  unfold play
  rw [List.foldl_append]
  rfl

theorem play_inputState (gaps : List (List Op)) :
    (play gaps).1.inputState = afterGaps gaps := by
  induction gaps using List.reverseRecOn with
  | nil => rfl
  | append_singleton before gap ih =>
      rw [play_concat, afterGaps_concat, ← ih]
      rfl

theorem edges_concat :
    edges (before ++ [gap]) = edges before ++ lastEdges before gap := by
  unfold edges lastEdges
  rw [play_concat, List.filterMap_append]

theorem step_previous (s : EdgeState) :
    (s.step gap).1.emitter.previousTickInput
      = some (gap.foldl Op.apply s.inputState).snapshot := by
  unfold EdgeState.step EdgeEmitter.emitInputEdges
  cases s.emitter.previousTickInput <;> rfl

theorem play_previous (hbefore : before ≠ []) :
    (play before).1.emitter.previousTickInput
      = some (afterGaps before).snapshot := by
  obtain ⟨earlier, last, rfl⟩ :=
    (List.eq_nil_or_concat' before).resolve_left hbefore
  rw [play_concat, step_previous, play_inputState, afterGaps_concat]

/-- The first step has nothing to compare with. -/
theorem play_first : play [gap] = (((({} : EdgeState)).step gap).1, []) := by
  rfl

theorem seen_concat (s : InputState) :
    seen action s (before ++ [gap])
      = seen action s before
        ++ [reports (gap.foldl Op.apply
          (before.flatten.foldl Op.apply s)).snapshot action] := by
  induction before generalizing s with
  | nil => rfl
  | cons first rest ih =>
      rw [List.cons_append]
      unfold seen
      dsimp only
      rw [ih, List.flatten_cons, List.foldl_append]
      rfl

theorem heldFor_concat :
    heldFor (before ++ [gap]) action
      = if reports (afterGaps (before ++ [gap])).snapshot action then
          heldFor before action + 1
        else 0 := by
  unfold heldFor
  rw [seen_concat, afterGaps_concat, List.reverse_append]
  show ((reports (gap.foldl Op.apply (afterGaps before)).snapshot action
    :: (seen action {} before).reverse).takeWhile id).length = _
  cases reports (gap.foldl Op.apply (afterGaps before)).snapshot action with
  | true => simp
  | false => simp

end Step

-- ============================================== the edges of the last step

/-- An edge record is read back, its time within the lane. -/
theorem readEdge_emitActionEdge (action : GameAction) (source : InputSource)
    (pressed : Bool) (held : Int) :
    readEdge (emitActionEdge action source pressed held)
      = some ⟨action, source, pressed, min 32767 (max 0 held)⟩ := by
  obtain ⟨haction, hsource⟩ := GameplayPack.bits_edge action source
  have hlane : GameplayEvent.FitsLane (min 32767 (max 0 held)) := by
    unfold GameplayEvent.FitsLane
    omega
  have hflag : (flagLane pressed != 0) = pressed := by
    cases pressed <;> decide
  unfold readEdge emitActionEdge emit
  rw [if_pos rfl]
  simp only [haction, hsource, ofWireCode_wireCode, Option.bind_some,
    Option.map_some, hflag, GameplayEvent.toInt_truncating hlane]

section LastEdges

variable {before : List (List Op)} (gap : List Op) (action : GameAction)

/-- The edge of an action in the step after a gap, if there is one. -/
def changeOf (before : List (List Op)) (gap : List Op)
    (action : GameAction) : Option Edge :=
  let was := reports (afterGaps before).snapshot action
  let now := reports (afterGaps (before ++ [gap])).snapshot action
  if was = now then none
  else some
    { action := action
      source := ((afterGaps (before ++ [gap])).sourceFor action).getD
        .keyboard
      pressed := now
      heldMilliseconds := min 32767 (max 0 (EdgeEmitter.milliseconds
        (if now then 0
          else (play before).1.emitter.heldStepsByAction action))) }

theorem step_records (hbefore : before ≠ []) :
    ((play before).1.step gap).2
      = trackedActions.filterMap ((play before).1.emitter.edge?
        (afterGaps (before ++ [gap])) (afterGaps before).snapshot
        (afterGaps (before ++ [gap])).snapshot) := by
  unfold EdgeState.step EdgeEmitter.emitInputEdges
  rw [play_inputState, play_previous before hbefore, afterGaps_concat]

theorem edge?_read :
    ((play before).1.emitter.edge? (afterGaps (before ++ [gap]))
        (afterGaps before).snapshot (afterGaps (before ++ [gap])).snapshot
        action).bind readEdge
      = changeOf before gap action := by
  unfold EdgeEmitter.edge? changeOf
  dsimp only
  split
  · rfl
  · exact readEdge_emitActionEdge ..

theorem step_readable (hbefore : before ≠ []) {record : Emission}
    (h : record ∈ ((play before).1.step gap).2) :
    (readEdge record).isSome := by
  rw [step_records gap hbefore] at h
  obtain ⟨action, _, hrecord⟩ := List.mem_filterMap.mp h
  unfold EdgeEmitter.edge? at hrecord
  dsimp only at hrecord
  split at hrecord
  · cases hrecord
  · cases hrecord
    rw [readEdge_emitActionEdge]
    rfl

theorem lastEdges_eq (hbefore : before ≠ []) :
    lastEdges before gap = trackedActions.filterMap (changeOf before gap) := by
  unfold lastEdges
  rw [step_records gap hbefore, List.filterMap_filterMap]
  congr 1
  funext action
  exact edge?_read gap action

theorem lastEdges_first : lastEdges [] gap = [] := rfl

theorem changeOf_action {edge : Edge}
    (h : changeOf before gap action = some edge) : edge.action = action := by
  unfold changeOf at h
  dsimp only at h
  split at h
  · cases h
  · cases h
    rfl

/-- Each action has its own edge among the edges of a step. -/
theorem filter_filterMap {actions : List GameAction} (hnodup : actions.Nodup)
    (hmem : action ∈ actions) :
    (actions.filterMap (changeOf before gap)).filter (·.action = action)
      = (changeOf before gap action).toList := by
  have hothers : ∀ {others : List GameAction}, action ∉ others →
      (others.filterMap (changeOf before gap)).filter (·.action = action)
        = [] := by
    intro others hnot
    rw [List.filter_eq_nil_iff]
    intro edge hedge
    obtain ⟨other, hother, hchange⟩ := List.mem_filterMap.mp hedge
    have hne : edge.action ≠ action := by
      rw [changeOf_action gap other hchange]
      intro heq
      exact hnot (heq ▸ hother)
    simpa using hne
  induction actions with
  | nil => cases hmem
  | cons first rest ih =>
      obtain ⟨hfirst, hrest⟩ := List.nodup_cons.mp hnodup
      rcases List.mem_cons.mp hmem with heq | hmem
      · subst heq
        cases hchange : changeOf before gap action with
        | none => simp [hchange, hothers hfirst]
        | some edge =>
            have hnamed := changeOf_action gap action hchange
            simp [hchange, hnamed, hothers hfirst]
      · have hne : first ≠ action := by
          intro heq
          exact hfirst (heq ▸ hmem)
        rw [List.filterMap_cons]
        cases hchange : changeOf before gap first with
        | none => exact ih hrest hmem
        | some edge =>
            have hnamed := changeOf_action gap first hchange
            rw [List.filter_cons_of_neg (by simp [hnamed, hne])]
            exact ih hrest hmem

theorem mem_trackedActions : action ∈ trackedActions :=
  GameplayWireEnum.complete action

theorem flags_lastEdges (hbefore : before ≠ []) :
    flags (lastEdges before gap) action
      = if reports (afterGaps before).snapshot action
          = reports (afterGaps (before ++ [gap])).snapshot action then []
        else [reports (afterGaps (before ++ [gap])).snapshot action] := by
  unfold flags
  rw [lastEdges_eq gap hbefore,
    filter_filterMap gap action (by decide) (mem_trackedActions action)]
  unfold changeOf
  dsimp only
  split <;> rfl

end LastEdges

-- ================================================================= replays

section Replays

theorem alternates_concat {flag x : Bool} {flags : List Bool}
    (h : Alternates flag flags) (hx : x = !flags.getLastD (!flag)) :
    Alternates flag (flags ++ [x]) := by
  induction flags generalizing flag with
  | nil => exact ⟨by simpa using hx, trivial⟩
  | cons first rest ih =>
      obtain ⟨rfl, hrest⟩ := h
      refine ⟨rfl, ih hrest ?_⟩
      rw [Bool.not_not]
      cases rest with
      | nil => exact hx
      | cons next more => exact hx

theorem flags_append (edges more : List Edge) (action : GameAction) :
    flags (edges ++ more) action
      = flags edges action ++ flags more action := by
  unfold flags
  rw [List.filter_append, List.map_append]

/-- The last edge of an action decides what a replay makes of it. -/
theorem replay_eq (edges : List Edge) (action : GameAction) :
    replay edges action = (flags edges action).getLastD false := by
  unfold replay
  induction edges using List.reverseRecOn with
  | nil => rfl
  | append_singleton edges edge ih =>
      rw [List.foldl_append, List.foldl_cons, List.foldl_nil, flags_append,
        ih]
      unfold Edge.leaves flags
      by_cases h : edge.action = action
      · simp [h]
      · simp [h]

end Replays

-- ==================================================================== runs

/-- What every run keeps that starts with nothing pressed. -/
structure Counted (gaps : List (List Op)) : Prop where
  held : ∀ action, (play gaps).1.emitter.heldStepsByAction action
    = min 1000000 (heldFor gaps action)
  readable : ∀ record ∈ (play gaps).2, (readEdge record).isSome
  last : ∀ action, (flags (edges gaps) action).getLastD false
    = reports (afterGaps gaps).snapshot action
  alternates : ∀ action, Alternates true (flags (edges gaps) action)

theorem counted_nil : Counted [] where
  held := fun _ => rfl
  readable := fun _ h => by cases h
  last := by
    intro action
    cases action <;> rfl
  alternates := fun _ => trivial

theorem counted_first {gap : List Op}
    (h : ∀ action, reports (afterGaps [gap]).snapshot action = false) :
    Counted [gap] where
  held := by
    intro action
    have hfor := heldFor_concat [] gap action
    rw [List.nil_append, h action] at hfor
    rw [hfor]
    rfl
  readable := fun _ hrecord => by cases hrecord
  last := fun action => (h action).symm
  alternates := fun _ => trivial

/-- One more step after the first. -/
theorem Counted.step {before : List (List Op)} (h : Counted before)
    (hbefore : before ≠ []) (gap : List Op) : Counted (before ++ [gap]) where
  held := by
    intro action
    have hcount : (play (before ++ [gap])).1.emitter.heldStepsByAction action
        = EdgeEmitter.count
          ((play before).1.emitter.heldStepsByAction action)
          (reports (afterGaps (before ++ [gap])).snapshot action) := by
      rw [play_concat, afterGaps_concat, ← play_inputState]
      unfold EdgeState.step EdgeEmitter.emitInputEdges
      rw [play_previous before hbefore]
    rw [hcount, h.held, heldFor_concat]
    unfold EdgeEmitter.count
    split
    · split <;> omega
    · rfl
  readable := by
    intro record hrecord
    rw [play_concat, List.mem_append] at hrecord
    rcases hrecord with hrecord | hrecord
    · exact h.readable record hrecord
    · exact step_readable gap hbefore hrecord
  last := by
    intro action
    rw [edges_concat, flags_append, flags_lastEdges gap action hbefore]
    split
    case isTrue hsame =>
      rw [List.append_nil, h.last, hsame]
    case isFalse =>
      rw [List.getLastD_concat]
  alternates := by
    intro action
    rw [edges_concat, flags_append, flags_lastEdges gap action hbefore]
    split
    case isTrue =>
      rw [List.append_nil]
      exact h.alternates action
    case isFalse hchanged =>
      apply alternates_concat (h.alternates action)
      rw [Bool.not_true, h.last]
      exact Bool.eq_not_of_ne (Ne.symm hchanged)

theorem counted {gaps : List (List Op)}
    (h : ∀ gap, [gap] <+: gaps → ∀ action,
      reports (afterGaps [gap]).snapshot action = false) :
    Counted gaps := by
  induction gaps using List.reverseRecOn with
  | nil => exact counted_nil
  | append_singleton before gap ih =>
      by_cases hbefore : before = []
      · subst hbefore
        exact counted_first (h gap (List.prefix_refl _))
      · refine (ih ?_).step hbefore gap
        intro first hfirst
        exact h first (hfirst.trans (List.prefix_append before [gap]))

theorem milliseconds_eq (steps : Nat) :
    EdgeEmitter.milliseconds steps
      = ((steps : Int) * 1000000 + 30) / 60 / 1000 := by
  unfold EdgeEmitter.milliseconds GameplayEvent.microseconds
  have hsum : (0 : Int) ≤ (steps : Int) * 1000000 + 30 := by omega
  rw [Int.tdiv_eq_ediv_of_nonneg hsum,
    Int.tdiv_eq_ediv_of_nonneg (Int.ediv_nonneg hsum (by omega))]

/-- The time of a run of steps, within the lane: the counter saturates
only where the lane does. -/
theorem milliseconds_saturates (steps : Nat) :
    min 32767 (max 0 (EdgeEmitter.milliseconds (min 1000000 steps)))
      = min 32767 (EdgeEmitter.milliseconds steps) := by
  rw [milliseconds_eq, milliseconds_eq]
  omega

/-- The source an edge names, from the operations of its gap. -/
theorem sourceFor_changed {before : List (List Op)} {gap : List Op}
    {action : GameAction}
    (hchanged : reports (afterGaps before).snapshot action
      ≠ reports (afterGaps (before ++ [gap])).snapshot action) :
    ((afterGaps (before ++ [gap])).sourceFor action).getD .keyboard
      = if reports (afterGaps (before ++ [gap])).snapshot action then
          (gap.foldl (speaks action) none).getD .keyboard
        else .keyboard := by
  cases hnow : reports (afterGaps (before ++ [gap])).snapshot action with
  | false =>
      rw [sourceFor_eq_none (sound_afterGaps _) hnow]
      rfl
  | true =>
      rw [hnow] at hchanged
      have hwas := Bool.eq_false_iff.mpr hchanged
      rw [afterGaps_concat, sourceFor_gap (sound_afterGaps before),
        sourceFor_eq_none (sound_afterGaps before) hwas]
      rfl

/-- The edges of a step name the sources that caused them exactly when
every change is made by the source its gap leaves it attributed to. -/
theorem caused_iff {before : List (List Op)} {gap : List Op}
    (hbefore : before ≠ []) :
    (∀ edge ∈ lastEdges before gap,
      Causes (afterGaps before) gap edge.action edge.source)
      ↔ Plain before gap := by
  constructor
  · intro h action
    refine ⟨fun hnil => absurd hnil hbefore, ?_⟩
    intro hchanged
    rw [← sourceFor_changed hchanged]
    have hedge : ∃ edge ∈ lastEdges before gap, edge.action = action
        ∧ edge.source = ((afterGaps (before ++ [gap])).sourceFor
          action).getD .keyboard := by
      rw [lastEdges_eq gap hbefore]
      exact ⟨_, List.mem_filterMap.mpr
        ⟨action, mem_trackedActions action, if_neg hchanged⟩, rfl, rfl⟩
    obtain ⟨edge, hmem, hnamed, hsource⟩ := hedge
    rw [← hsource, ← hnamed]
    exact h edge hmem
  · intro h edge hedge
    rw [lastEdges_eq gap hbefore, List.mem_filterMap] at hedge
    obtain ⟨action, _, hedge⟩ := hedge
    unfold changeOf at hedge
    dsimp only at hedge
    split at hedge
    case isTrue => cases hedge
    case isFalse hchanged =>
      cases hedge
      show Causes _ _ action _
      rw [sourceFor_changed hchanged]
      exact (h action).2 hchanged

theorem held_of_counted {before : List (List Op)} (h : Counted before)
    {gap : List Op} {edge : Edge} (hedge : edge ∈ lastEdges before gap)
    (hreleased : edge.pressed = false) :
    edge.heldMilliseconds
      = min 32767
        (EdgeEmitter.milliseconds (heldFor before edge.action)) := by
  by_cases hbefore : before = []
  · subst hbefore
    cases hedge
  · rw [lastEdges_eq gap hbefore, List.mem_filterMap] at hedge
    obtain ⟨action, _, hedge⟩ := hedge
    unfold changeOf at hedge
    dsimp only at hedge
    split at hedge
    case isTrue => cases hedge
    case isFalse =>
      cases hedge
      simp only at hreleased
      simp only [hreleased, Bool.false_eq_true, if_false, h.held]
      exact milliseconds_saturates _

/-- The stream gives the input back at every step of exactly the runs that
start with nothing pressed and whose changes are made by the sources their
gaps leave them attributed to. -/
theorem reconstructs_iff_plain (gaps : List (List Op)) :
    (∀ before gap, before ++ [gap] <+: gaps → Reconstructs before gap)
      ↔ ∀ before gap, before ++ [gap] <+: gaps → Plain before gap := by
  constructor
  · intro h before gap hfront
    have hstep := h before gap hfront
    by_cases hbefore : before = []
    · subst hbefore
      intro action
      have hnow : reports (afterGaps [gap]).snapshot action = false :=
        (hstep.replays action).symm
      have hwas : reports (afterGaps []).snapshot action = false := by
        cases action <;> rfl
      refine ⟨fun _ => hnow, ?_⟩
      intro hchanged
      exact absurd (hwas.trans hnow.symm) hchanged
    · exact (caused_iff hbefore).mp hstep.caused
  · intro h before gap hfront
    have hfirst : ∀ first, [first] <+: before ++ [gap] → ∀ action,
        reports (afterGaps [first]).snapshot action = false := by
      intro first hfirst action
      exact (h [] first (hfirst.trans hfront) action).1 rfl
    have hbefore : Counted before := by
      apply counted
      intro first hpre
      exact hfirst first (hpre.trans (List.prefix_append before [gap]))
    have hall := counted hfirst
    refine ⟨hall.readable, ?_, hall.alternates, ?_, ?_⟩
    · intro action
      rw [replay_eq]
      exact hall.last action
    · intro edge hedge hreleased
      exact held_of_counted hbefore hedge hreleased
    · by_cases hnil : before = []
      · subst hnil
        intro edge hedge
        cases hedge
      · exact (caused_iff hnil).mpr (h before gap hfront)

/-- FIRE on the gamepad, pressed in one gap and released in the next. -/
def gamepadShot : List (List Op) :=
  [[], [.set .fire true .gamepadButtons]]

/-- The release names the keyboard, which never held FIRE. -/
theorem not_reconstructs_gamepadShot :
    ¬Reconstructs gamepadShot [.set .fire false .gamepadButtons] := by
  intro h
  have hedge : (⟨.fire, .keyboard, false, 16⟩ : Edge)
      ∈ lastEdges gamepadShot [.set .fire false .gamepadButtons] := by
    decide +kernel
  obtain ⟨earlier, op, later, hgap, _, hcause, _⟩ := h.caused _ hedge
  cases earlier with
  | cons first rest =>
      have hlength := congrArg List.length hgap
      simp at hlength
  | nil =>
      obtain ⟨rfl, rfl⟩ : op = _ ∧ later = _ := by
        simpa [eq_comm] using hgap
      revert hcause
      decide +kernel

end Exolon.Input

/-
The port's input: keys, gamepads, and the flags that should fire once.

`InputManager` keeps what is held and three edge flags. A key sets its
flag when it goes down, a poll when it finds a button pressed that was not
pressed in `prev`. A tick reads the flags of a copy, and the renderer
clears them on a copy as well: `state` answers a new object at every
read. So no flag is ever cleared, and `prev` is never written.

`Play` counts the presses whose tick was played and the played ticks that
saw the flag. They are equal in every state of exactly the runs in which
every played tick after an action's first press has one press of its own
(`once_iff_pressed`).
-/
import Exolon.Port.Game

namespace Exolon.Port

-- ============================================================= the actions

/-- What can be held. -/
inductive InputAction where
  | left | right | up | down | fire | grenade | pause | uiUp
  deriving DecidableEq, Repr

/-- What has an edge flag. -/
inductive InputEdge where
  | fire | grenade | uiUp
  deriving DecidableEq, Repr

def InputEdge.action : InputEdge → InputAction
  | .fire => .fire
  | .grenade => .grenade
  | .uiUp => .uiUp

structure InputState where
  held : InputAction → Bool := fun _ => false
  pressed : InputEdge → Bool := fun _ => false

/-- A connected gamepad: its axes, and which buttons are pressed. -/
structure Gamepad where
  axes : List Rat
  buttons : List Bool

namespace Gamepad

/-- An axis that is not there compares as false. -/
def axisBelow (gp : Gamepad) (n : Nat) (bound : Rat) : Bool :=
  match gp.axes[n]? with
  | some value => decide (value < bound)
  | none => false

def axisAbove (gp : Gamepad) (n : Nat) (bound : Rat) : Bool :=
  match gp.axes[n]? with
  | some value => decide (bound < value)
  | none => false

def button (gp : Gamepad) (n : Nat) : Bool := gp.buttons.getD n false

/-- What a poll makes held. -/
def holds (gp : Gamepad) : InputAction → Bool
  | .left => gp.axisBelow 0 (-1 / 2)
  | .right => gp.axisAbove 0 (1 / 2)
  | .up => gp.axisBelow 1 (-1 / 2)
  | .down => gp.axisAbove 1 (1 / 2)
  | .fire => gp.button 0
  | .grenade => gp.button 1
  | .pause => gp.button 8
  | .uiUp => gp.button 12

end Gamepad

-- ============================================================= the manager

structure InputManager where
  prev : InputState := {}
  current : InputState := {}
  gamepadIndex : Option Nat := none

namespace InputManager

def keyToAction (code : String) : Option InputAction :=
  match code with
  | "ArrowLeft" | "KeyA" => some .left
  | "ArrowRight" | "KeyD" => some .right
  | "ArrowUp" | "KeyW" => some .up
  | "ArrowDown" | "KeyS" => some .down
  | "Space" | "KeyJ" => some .fire
  | "KeyK" => some .grenade
  | "Escape" | "KeyP" => some .pause
  | "Enter" | "KeyU" => some .uiUp
  | _ => none

/-- A key that goes down; a repeated one is held already. -/
def handleDown (m : InputManager) (code : String) : InputManager :=
  match keyToAction code with
  | none => m
  | some action =>
      if m.current.held action then m
      else { m with current := {
        held := Function.update m.current.held action true
        pressed := fun edge =>
          m.current.pressed edge || decide (edge.action = action) } }

def handleUp (m : InputManager) (code : String) : InputManager :=
  match keyToAction code with
  | none => m
  | some action => { m with current := { m.current with
      held := Function.update m.current.held action false } }

/-- The gamepad a poll reads: the one it is connected to, else the first
there is. -/
def connected (index : Option Nat) :
    Nat → List (Option Gamepad) → Option (Nat × Gamepad)
  | _, [] => none
  | i, none :: rest => connected index (i + 1) rest
  | i, some gp :: rest =>
      if i = index.getD i then some (i, gp)
      else connected index (i + 1) rest

/-- `update()`: what the gamepad holds replaces what is held. -/
def pollGamepad (m : InputManager) (gamepads : List (Option Gamepad)) :
    InputManager :=
  match connected m.gamepadIndex 0 gamepads with
  | none => { m with gamepadIndex := none }
  | some (i, gp) =>
      { m with
        gamepadIndex := some i
        current := {
          held := gp.holds
          pressed := fun edge => m.current.pressed edge
            || (gp.holds edge.action && !m.prev.held edge.action) } }

/-- The getter copies. -/
def state (m : InputManager) : InputState := m.current

/-- An assignment to a field of `input.state`: the copy is written, and
the manager is as it was. -/
def assign (m : InputManager) (write : InputState → InputState) :
    InputState × InputManager :=
  (write m.state, m)

def cleared (edge : InputEdge) (s : InputState) : InputState :=
  { s with pressed := Function.update s.pressed edge false }

/-- The end of `onRender`. -/
def clearEdges (m : InputManager) : InputManager :=
  let m := (m.assign (cleared .fire)).2
  let m := (m.assign (cleared .grenade)).2
  (m.assign (cleared .uiUp)).2

end InputManager

-- ================================================================== events

/-- What the page and the driver do. -/
inductive InputEvent where
  | keydown (code : String)
  | keyup (code : String)
  | tick (gamepads : List (Option Gamepad)) (flow : GameFlowState)
  | render

/-- A press of the action: it is released, and held after. -/
def isPress (before after : InputManager) (edge : InputEdge) : Nat :=
  if !before.current.held edge.action && after.current.held edge.action
  then 1 else 0

/-- The manager, with the presses so far. -/
structure Play where
  input : InputManager := {}
  /-- The presses so far. -/
  presses : InputEdge → Nat := fun _ => 0
  /-- Those since the last tick. -/
  waiting : InputEdge → Nat := fun _ => 0
  /-- Those whose tick was played. -/
  owed : InputEdge → Nat := fun _ => 0
  /-- The played ticks that saw the flag. -/
  fired : InputEdge → Nat := fun _ => 0

namespace Play

/-- The manager changes; a press waits for its tick. -/
def change (s : Play) (after : InputManager) : Play :=
  { s with
    input := after
    presses := fun edge => s.presses edge + isPress s.input after edge
    waiting := fun edge => s.waiting edge + isPress s.input after edge }

/-- The tick of what waits: only a played one reads the flags. -/
def serve (s : Play) (flow : GameFlowState) : Play :=
  let s' := { s with waiting := fun _ => 0 }
  if flow ≠ .playing then s'
  else { s' with
    owed := fun edge => s.owed edge + s.waiting edge
    fired := fun edge =>
      s.fired edge + if s.input.state.pressed edge then 1 else 0 }

def step (s : Play) : InputEvent → Option Play
  | .keydown code => some (s.change (s.input.handleDown code))
  | .keyup code => some (s.change (s.input.handleUp code))
  | .tick gamepads flow =>
      some ((s.change (s.input.pollGamepad gamepads)).serve flow)
  | .render => some { s with input := s.input.clearEdges }

/-- The flags a tick reads. -/
def shots : List InputEdge := [.fire, .grenade]

/-- An action fires once per press. -/
def Once (s : Play) : Prop := ∀ edge ∈ shots, s.fired edge = s.owed edge

/-- A played tick after an action's first press has one press of its own,
its poll's included. -/
def Pressed (s : Play) : InputEvent → Prop
  | .tick gamepads .playing =>
      ∀ edge ∈ shots,
        let polled := s.change (s.input.pollGamepad gamepads)
        0 < polled.presses edge → polled.waiting edge = 1
  | _ => True

-- ================================================================== a flag

/-- A flag is set from the first press on, and `prev` holds nothing. -/
structure Stuck (s : Play) : Prop where
  prev : ∀ action, s.input.prev.held action = false
  flag : ∀ edge, s.input.current.pressed edge = true ↔ 0 < s.presses edge
  held : ∀ edge, s.input.current.held edge.action = true →
    0 < s.presses edge
  waiting : ∀ edge, s.waiting edge ≤ s.presses edge

theorem stuck_start : Stuck {} where
  prev := fun _ => rfl
  flag := by simp
  held := by simp
  waiting := fun _ => Nat.le_refl _

theorem isPress_pos {before after : InputManager} {edge : InputEdge} :
    0 < isPress before after edge
      ↔ before.current.held edge.action = false
        ∧ after.current.held edge.action = true := by
  unfold isPress
  split
  case isTrue h => simpa using h
  case isFalse h => simpa using h

section Steps

variable {s : Play}

theorem Stuck.change (h : s.Stuck) {after : InputManager}
    (hprev : after.prev = s.input.prev)
    (hflag : ∀ edge, after.current.pressed edge = true ↔
      0 < s.presses edge ∨ 0 < isPress s.input after edge) :
    (s.change after).Stuck where
  prev := by
    intro action
    show after.prev.held action = false
    rw [hprev]
    exact h.prev action
  flag := by
    intro edge
    show after.current.pressed edge = true
      ↔ 0 < s.presses edge + isPress s.input after edge
    rw [hflag]
    omega
  held := by
    intro edge hheld
    show 0 < s.presses edge + isPress s.input after edge
    by_cases hbefore : s.input.current.held edge.action = true
    · have hpresses := h.held edge hbefore
      omega
    · have hpress : 0 < isPress s.input after edge :=
        isPress_pos.mpr ⟨by simpa using hbefore, hheld⟩
      omega
  waiting := by
    intro edge
    exact Nat.add_le_add_right (h.waiting edge) _

/-- A manager that holds no more and keeps its flags. -/
theorem Stuck.change_kept (h : s.Stuck) {after : InputManager}
    (hprev : after.prev = s.input.prev)
    (hpressed : after.current.pressed = s.input.current.pressed)
    (hheld : ∀ action, after.current.held action = true →
      s.input.current.held action = true) : (s.change after).Stuck := by
  apply h.change hprev
  intro edge
  have hnone : ¬0 < isPress s.input after edge := by
    rw [isPress_pos]
    rintro ⟨hbefore, hafter⟩
    rw [hheld _ hafter] at hbefore
    cases hbefore
  rw [hpressed, h.flag]
  exact (or_iff_left hnone).symm

theorem Stuck.handleDown (h : s.Stuck) (code : String) :
    (s.change (s.input.handleDown code)).Stuck := by
  unfold InputManager.handleDown
  split
  · exact h.change_kept rfl rfl (fun _ hheld => hheld)
  · rename_i action _
    split
    case isTrue => exact h.change_kept rfl rfl (fun _ hheld => hheld)
    case isFalse hreleased =>
      refine h.change (by rfl) ?_
      intro edge
      rw [isPress_pos]
      simp only [Bool.or_eq_true, h.flag, decide_eq_true_eq]
      refine or_congr_right ?_
      by_cases haction : edge.action = action
      · subst haction
        simpa using hreleased
      · rw [Function.update_of_ne haction]
        simp only [haction, false_iff]
        rintro ⟨hbefore, hafter⟩
        rw [hbefore] at hafter
        cases hafter

theorem Stuck.handleUp (h : s.Stuck) (code : String) :
    (s.change (s.input.handleUp code)).Stuck := by
  unfold InputManager.handleUp
  split
  · exact h.change_kept rfl rfl (fun _ hheld => hheld)
  · rename_i action _
    refine h.change_kept (by rfl) (by rfl) ?_
    intro other hheld
    by_cases hother : other = action
    · subst hother
      simp at hheld
    · simpa [Function.update_of_ne hother] using hheld

/-- A poll sets the flag of every button it finds pressed. -/
theorem Stuck.pollGamepad (h : s.Stuck)
    (gamepads : List (Option Gamepad)) :
    (s.change (s.input.pollGamepad gamepads)).Stuck := by
  unfold InputManager.pollGamepad
  split
  · exact h.change_kept rfl rfl (fun _ hheld => hheld)
  · rename_i i gp _
    refine h.change (by rfl) ?_
    intro edge
    rw [isPress_pos]
    simp only [Bool.or_eq_true, h.flag, h.prev, Bool.not_false,
      Bool.and_true]
    constructor
    · rintro (hpresses | hholds)
      · exact .inl hpresses
      · cases hbefore : s.input.current.held edge.action with
        | false => exact .inr ⟨rfl, hholds⟩
        | true => exact .inl (h.held edge hbefore)
    · rintro (hpresses | ⟨_, hholds⟩)
      · exact .inl hpresses
      · exact .inr hholds

theorem Stuck.serve (h : s.Stuck) (flow : GameFlowState) :
    (s.serve flow).Stuck := by
  unfold Play.serve
  dsimp only
  split
  · exact ⟨h.prev, h.flag, h.held, fun _ => Nat.zero_le _⟩
  · exact ⟨h.prev, h.flag, h.held, fun _ => Nat.zero_le _⟩

theorem Stuck.step (h : s.Stuck) {event : InputEvent} {t : Play}
    (hstep : s.step event = some t) : t.Stuck := by
  cases event with
  | keydown code =>
      obtain rfl := Option.some.inj hstep
      exact h.handleDown code
  | keyup code =>
      obtain rfl := Option.some.inj hstep
      exact h.handleUp code
  | tick gamepads flow =>
      obtain rfl := Option.some.inj hstep
      exact (h.pollGamepad gamepads).serve flow
  | render =>
      obtain rfl := Option.some.inj hstep
      exact { h with }

-- ============================================================ once a press

/-- Nothing but a played tick counts. -/
theorem serve_idle {flow : GameFlowState} (hflow : flow ≠ .playing) :
    (s.serve flow).fired = s.fired ∧ (s.serve flow).owed = s.owed := by
  unfold Play.serve
  dsimp only
  rw [if_pos hflow]
  exact ⟨rfl, rfl⟩

/-- A played tick keeps the counts equal exactly when it has one press of
its own, or none has ever been made. -/
theorem serve_playing (h : s.Stuck) {edge : InputEdge}
    (hequal : s.fired edge = s.owed edge) :
    (s.serve .playing).fired edge = (s.serve .playing).owed edge
      ↔ (0 < s.presses edge → s.waiting edge = 1) := by
  have hwaiting := h.waiting edge
  show s.fired edge + (if s.input.current.pressed edge then 1 else 0)
    = s.owed edge + s.waiting edge ↔ _
  rw [hequal]
  by_cases hpresses : 0 < s.presses edge
  · rw [if_pos ((h.flag edge).mpr hpresses)]
    omega
  · rw [if_neg (fun hflag => hpresses ((h.flag edge).mp hflag))]
    omega

/-- One event keeps an action firing once per press exactly when it is
pressed for. -/
theorem once_step_iff (h : s.Stuck) (honce : s.Once) (event : InputEvent)
    {t : Play} (hstep : s.step event = some t) :
    t.Once ↔ s.Pressed event := by
  cases event with
  | keydown code =>
      obtain rfl := Option.some.inj hstep
      exact iff_of_true honce trivial
  | keyup code =>
      obtain rfl := Option.some.inj hstep
      exact iff_of_true honce trivial
  | render =>
      obtain rfl := Option.some.inj hstep
      exact iff_of_true honce trivial
  | tick gamepads flow =>
      obtain rfl := Option.some.inj hstep
      by_cases hflow : flow = .playing
      · subst hflow
        unfold Once Pressed
        refine forall₂_congr fun edge hedge => ?_
        exact serve_playing (h.pollGamepad gamepads) (honce edge hedge)
      · obtain ⟨hfired, howed⟩ := serve_idle
          (s := s.change (s.input.pollGamepad gamepads)) hflow
        refine iff_of_true ?_ ?_
        · intro edge hedge
          rw [hfired, howed]
          exact honce edge hedge
        · unfold Pressed
          split
          · rename_i hplaying
            cases hplaying
            exact absurd rfl hflow
          · trivial

end Steps

/-- Fire and grenade fire once per press in every state of exactly the runs
in which every played tick after an action's first press has one press of
its own. -/
theorem once_iff_pressed (events : List InputEvent) :
    (∀ s, Run.Visits step {} events s → s.Once)
      ↔ Run.Along step Pressed {} events := by
  refine Run.visits_iff_along_of_invariant (K := Stuck) (J := Once)
    (fun h hstep => h.step hstep) ?_ (fun _ h => h) ?_ stuck_start
    (fun _ _ => rfl)
  · intro s s' event hstuck honce hpressed hstep
    exact (once_step_iff hstuck honce event hstep).mpr hpressed
  · intro s event hstuck honce hnext
    obtain ⟨t, hstep⟩ : ∃ t, s.step event = some t := by
      cases event <;> exact ⟨_, rfl⟩
    exact (once_step_iff hstuck honce event hstep).mp (hnext t hstep)

/-- Space on the title, and two ticks of play with a frame between. -/
def spaceHeld : List InputEvent :=
  [.keydown "Space", .tick [] .playing, .render, .tick [] .playing]

/-- One press, two shots. -/
theorem not_once_spaceHeld : ∃ s, Run.Visits step {} spaceHeld s
    ∧ s.fired .fire = 2 ∧ s.owed .fire = 1 ∧ ¬s.Once := by
  refine ⟨_, ⟨_, List.prefix_refl _, rfl⟩, by decide +kernel,
    by decide +kernel, ?_⟩
  intro honce
  have hfire := honce .fire List.mem_cons_self
  revert hfire
  decide +kernel

end Play

end Exolon.Port

/-
A press of UP that was used for something else.

The latches of UP are read by `startsJump` and written by few operations:
an update that reads UP, a use of the press (`Operation.consumes`), and
what puts the player back (`Operation.resets`). Everything else keeps them
(`latches_apply`).

Between a use and the release both are set (`Held`), unless the player is
put back in between. From a release on both are clear (`Free`).
-/
import Exolon.Lib.Run
import Exolon.Player.Player

namespace Exolon.Motion

open Motion.Player

/-- What an operation reads of UP: an update of a player alive reads it. -/
def Player.reads (p : Player) : Operation → Option Bool
  | .update input _ => if p.isDying then none else some input.jump
  | _ => none

theorem reads_update (p : Player) (input : InputSnapshot) (dt : Rat) :
    p.reads (.update input dt)
      = if p.isDying then none else some input.jump := rfl

/-- The press is used for something else. -/
def Operation.consumes : Operation → Bool
  | .teleport _ | .consumeContextualJumpPress => true
  | _ => false

/-- The player is put back, and the latches with him. -/
def Operation.resets : Operation → Bool
  | .configure _ _ | .beginDeath | .finishDeathAndRespawn | .respawn => true
  | _ => false

-- ============================================================ the latches

/-- What decides on a press of UP besides the ground. -/
structure Latches where
  isDying : Bool
  jumpWasPressed : Bool
  contextHoldsJumpLatch : Bool
  deriving DecidableEq

def Player.latches (p : Player) : Latches where
  isDying := p.isDying
  jumpWasPressed := p.jumpWasPressed
  contextHoldsJumpLatch := p.contextHoldsJumpLatch

section Frame

variable (p : Player)

@[simp] theorem latches_walk (input : InputSnapshot) :
    (p.walk input).latches = p.latches := by
  unfold walk
  simp only
  split
  · rfl
  · split
    · rfl
    · split
      · rfl
      · rfl

@[simp] theorem latches_jump (input : InputSnapshot) :
    (p.jump input).latches = p.latches := by
  unfold jump
  split
  · rfl
  · rfl

@[simp] theorem latches_fall (step : Rat) :
    (p.fall step).latches = p.latches := by
  unfold fall
  split
  · rfl
  · rfl

@[simp] theorem latches_move (step : Rat) :
    (p.move step).latches = p.latches := rfl

@[simp] theorem latches_land :
    p.landOnFallbackFloorIfNeeded.latches = p.latches := by
  unfold landOnFallbackFloorIfNeeded
  simp only
  split
  · rfl
  · rfl

@[simp] theorem latches_finalize (input : InputSnapshot) :
    (p.finalizeMotionState input).latches = p.latches := rfl

@[simp] theorem latches_resolve (previousPosition : CGPoint) (solid : CGRect) :
    (p.resolveSolidCollision previousPosition solid).latches = p.latches := by
  unfold resolveSolidCollision
  split
  · cases p.contact previousPosition solid with
    | land => rfl
    | ceiling => rfl
    | side x => rfl
    | fallback => rfl
    | none => rfl
  · rfl

@[simp] theorem latches_refresh (solids : List CGRect) :
    (p.refreshGroundSupport solids).latches = p.latches := by
  unfold refreshGroundSupport
  simp only
  split
  · rfl
  · rfl

@[simp] theorem latches_toggle :
    p.toggleExoskeleton.latches = p.latches := by
  unfold toggleExoskeleton
  split
  · rfl
  · rfl

/-- The latches after a step that reads UP. -/
def Latches.sample (l : Latches) (jump : Bool) : Latches where
  isDying := l.isDying
  jumpWasPressed := jump
  contextHoldsJumpLatch := l.contextHoldsJumpLatch && jump

theorem latches_sampleJump (input : InputSnapshot) :
    (p.sampleJump input).latches = p.latches.sample input.jump := by
  unfold sampleJump latches Latches.sample
  cases p.contextHoldsJumpLatch with
  | false => rfl
  | true =>
      cases hjump : input.jump with
      | false => simp
      | true => simp

theorem latches_updateDying (dt : Rat) :
    (p.updateDying dt).latches = p.latches := by
  unfold updateDying
  simp only
  split
  · show (Player.landOnFallbackFloorIfNeeded _).latches = _
    rw [latches_land]
    rfl
  · show (Player.landOnFallbackFloorIfNeeded _).latches = _
    rw [latches_land]
    show (Player.fall _ _).latches = _
    rw [latches_fall]
    rfl

/-- An update samples UP, or the player is dying and it does not. -/
theorem latches_update (input : InputSnapshot) (dt : Rat) :
    (p.update input dt).latches =
      if p.isDying then p.latches else p.latches.sample input.jump := by
  unfold update
  split
  · rename_i hdying
    exact latches_updateDying p dt
  · simp only [latches_finalize, latches_land, latches_move, latches_fall,
      latches_sampleJump, latches_jump, latches_walk]

theorem jumps_walk (input : InputSnapshot) :
    (p.walk input).jumps input = p.jumps input := by
  unfold walk
  simp only
  split
  · rfl
  · split
    · rfl
    · split
      · rfl
      · rfl

/-- A step leaves the ground with the speed of a jump where it starts one,
and nowhere else. -/
theorem jump_walk (hliving : p.isDying = false) (input : InputSnapshot) :
    (p.walk input).jump input =
      if p.startsJump input then
        { p.walk input with
          velocity := ⟨(p.walk input).velocity.dx, jumpVelocity⟩
          isGrounded := false }
      else p.walk input := by
  unfold jump startsJump
  rw [jumps_walk, hliving]
  rfl

end Frame

-- ========================================================= one operation

/-- The press was used, and UP has not been released since. -/
def Held (l : Latches) : Prop :=
  l.isDying ∨ (l.jumpWasPressed ∧ l.contextHoldsJumpLatch)

/-- UP has been released, and not pressed since. -/
def Free (l : Latches) : Prop :=
  l.isDying ∨ (l.jumpWasPressed = false ∧ l.contextHoldsJumpLatch = false)

variable {p : Player} {op : Operation}

/-- What neither reads UP nor writes the latches keeps them. -/
theorem latches_apply (hreads : p.reads op = none)
    (hconsumes : op.consumes = false) (hresets : op.resets = false) :
    (p.apply op).latches = p.latches := by
  cases op with
  | update input dt =>
      have hdying : p.isDying = true := by
        by_contra hliving
        rw [reads_update, if_neg hliving] at hreads
        cases hreads
      show (p.update input dt).latches = _
      rw [latches_update, if_pos hdying]
  | resolveSolidCollision previousPosition solid => exact latches_resolve ..
  | refreshGroundSupport solids => exact latches_refresh ..
  | finalizeMotionState input => exact latches_finalize ..
  | teleport center => cases hconsumes
  | consumeContextualJumpPress => cases hconsumes
  | configure spawnCenter groundY => cases hresets
  | beginDeath => cases hresets
  | finishDeathAndRespawn => cases hresets
  | respawn => cases hresets
  | toggleExoskeleton => exact latches_toggle ..
  | setExoskeleton enabled => rfl

/-- An update that reads UP samples it. -/
theorem latches_of_reads {jump : Bool} (h : p.reads op = some jump) :
    (p.apply op).latches = p.latches.sample jump := by
  cases op with
  | update input dt =>
      rw [reads_update] at h
      by_cases hdying : p.isDying = true
      · rw [if_pos hdying] at h
        cases h
      · rw [if_neg hdying] at h
        cases h
        show (p.update input dt).latches = _
        rw [latches_update, if_neg hdying]
  | _ => cases h

theorem held_of_consumes (h : op.consumes) : Held (p.apply op).latches := by
  cases op with
  | teleport center =>
      show Held (p.teleport center).latches
      unfold teleport
      by_cases hdying : p.isDying = true
      · rw [if_pos hdying]
        exact .inl hdying
      · rw [if_neg hdying]
        exact .inr ⟨rfl, rfl⟩
  | consumeContextualJumpPress => exact .inr ⟨rfl, rfl⟩
  | _ => cases h

theorem free_of_resets (h : op.resets) : Free (p.apply op).latches := by
  cases op with
  | beginDeath =>
      show Free p.beginDeath.latches
      unfold beginDeath
      by_cases hdying : p.isDying = true
      · rw [if_pos hdying]
        exact .inl hdying
      · rw [if_neg hdying]
        exact .inl rfl
  | configure spawnCenter groundY => exact .inr ⟨rfl, rfl⟩
  | finishDeathAndRespawn => exact .inr ⟨rfl, rfl⟩
  | respawn => exact .inr ⟨rfl, rfl⟩
  | _ => cases h

/-- Until UP is read as released, the press stays used. -/
theorem held_apply (h : Held p.latches) (hresets : op.resets = false)
    (hreads : p.reads op ≠ some false) : Held (p.apply op).latches := by
  by_cases hconsumes : op.consumes = true
  · exact held_of_consumes hconsumes
  · cases hread : p.reads op with
    | none =>
        rw [latches_apply hread (by simpa using hconsumes) hresets]
        exact h
    | some jump =>
        cases jump with
        | false => exact absurd hread hreads
        | true =>
            rw [latches_of_reads hread]
            rcases h with hdying | ⟨_, hcontext⟩
            · exact .inl hdying
            · refine .inr ⟨rfl, ?_⟩
              show (p.latches.contextHoldsJumpLatch && true) = true
              rw [hcontext]
              rfl

/-- Until UP is read as held, the next press is a fresh one. -/
theorem free_apply (h : Free p.latches) (hconsumes : op.consumes = false)
    (hreads : p.reads op ≠ some true) : Free (p.apply op).latches := by
  by_cases hresets : op.resets = true
  · exact free_of_resets hresets
  · cases hread : p.reads op with
    | none =>
        rw [latches_apply hread hconsumes (by simpa using hresets)]
        exact h
    | some jump =>
        cases jump with
        | true => exact absurd hread hreads
        | false =>
            rw [latches_of_reads hread]
            exact .inr ⟨rfl, Bool.and_false _⟩

-- ================================================================= runs

theorem startsJump_of_held (h : Held p.latches) (input : InputSnapshot) :
    p.startsJump input = false := by
  unfold startsJump jumps jumpJustPressed
  rcases h with hdying | ⟨hpressed, _⟩
  · have hdying' : p.isDying = true := hdying
    rw [hdying']
    rfl
  · have hpressed' : p.jumpWasPressed = true := hpressed
    rw [hpressed']
    simp

theorem startsJump_of_free (h : Free p.latches) (hliving : p.isDying = false)
    (hgrounded : p.isGrounded = true) {input : InputSnapshot}
    (hjump : input.jump = true) (hcrouch : input.crouch = false) :
    p.startsJump input = true := by
  have hpressed : p.jumpWasPressed = false := by
    rcases h with hdying | ⟨hpressed, _⟩
    · exact absurd (hdying.symm.trans hliving) (by decide)
    · exact hpressed
  unfold startsJump jumps jumpJustPressed isCrouching
  rw [hliving, hgrounded, hpressed, hjump, hcrouch]
  rfl

/-- Between the use of a press and the release of UP: the player is not put
back, and no update reads UP as released. -/
def StillHeld (p : Player) (op : Operation) : Prop :=
  op.resets = false ∧ p.reads op ≠ some false

/-- Between the release of UP and the next press: no press is used, and no
update reads UP as held. -/
def StillFree (p : Player) (op : Operation) : Prop :=
  op.consumes = false ∧ p.reads op ≠ some true

/-- A press that was used starts no jump until UP is read as released,
where the player is not put back in between; a fresh press on the ground
starts one then, where he does not crouch. -/
theorem consumed_press (p t : Player) (op : Operation)
    (between : List Operation) (hrun : Run.run step (p.apply op) between
      = some t) (input : InputSnapshot) :
    (op.consumes = true → Run.Along step StillHeld (p.apply op) between →
      t.startsJump input = false)
      ∧ (p.reads op = some false →
        Run.Along step StillFree (p.apply op) between →
        t.isDying = false → t.isGrounded = true → input.jump = true →
        input.crouch = false → t.startsJump input = true) := by
  constructor
  · intro hconsumes halong
    have hheld : Held t.latches := by
      refine Run.run_invariant_along (I := fun p => Held p.latches) ?_
        (held_of_consumes hconsumes) halong hrun
      intro s s' op h hstill hstep
      cases hstep
      exact held_apply h hstill.1 hstill.2
    exact startsJump_of_held hheld input
  · intro hreads halong hliving hgrounded hjump hcrouch
    have hreleased : Free (p.apply op).latches := by
      rw [latches_of_reads hreads]
      exact .inr ⟨rfl, Bool.and_false _⟩
    have hfree : Free t.latches := by
      refine Run.run_invariant_along (I := fun p => Free p.latches) ?_
        hreleased halong hrun
      intro s s' op h hstill hstep
      cases hstep
      exact free_apply h hstill.1 hstill.2
    exact startsJump_of_free hfree hliving hgrounded hjump hcrouch

/-- A press used in a changing room and held; and one after a release. -/
theorem consumed_press_example :
    (({} : Player).apply .consumeContextualJumpPress).startsJump
        { jump := true } = false
      ∧ ((({} : Player).apply .consumeContextualJumpPress).apply
        (.update {} 0)).startsJump { jump := true } = true :=
  ⟨(consumed_press {} _ .consumeContextualJumpPress [] rfl
      { jump := true }).1 rfl trivial,
    (consumed_press (({} : Player).apply .consumeContextualJumpPress) _
      (.update {} 0) [] rfl { jump := true }).2 rfl trivial
      (by decide +kernel) (by decide +kernel) rfl rfl⟩

/-- A press that was used jumps in the next zone, UP being held all the
time; and a fresh press on the ground does not jump out of a crouch. -/
theorem consumed_press_jumps :
    ((({} : Player).apply .consumeContextualJumpPress).apply
        (.configure ⟨88, 128⟩ 96)).startsJump { jump := true } = true
      ∧ (({} : Player).apply .consumeContextualJumpPress).reads
        (.update {} 0) = some false
      ∧ ((({} : Player).apply .consumeContextualJumpPress).apply
        (.update {} 0)).isGrounded = true
      ∧ ((({} : Player).apply .consumeContextualJumpPress).apply
        (.update {} 0)).startsJump { jump := true, crouch := true }
        = false := by
  refine ⟨rfl, rfl, ?_, ?_⟩
  · decide +kernel
  · decide +kernel

end Exolon.Motion

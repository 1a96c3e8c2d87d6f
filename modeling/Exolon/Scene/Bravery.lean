/-
The bravery latch: whether the suit was taken in the current stage.

A changing room that puts the suit on notes the activation on the ledger;
taking it off notes nothing. The ledger keeps a latch and the step of the
first activation, and three operations clear them: a new stage clears
both, a playthrough that is armed or closed clears the latch alone.

`sinceClear` and `sinceStart` are the activations noted since the latch
was cleared and since the stage began. The latch is the first of them in
every run, and the step belongs to the second (`Booked`), so the two are
one record exactly as long as no playthrough is armed or closed over a
noted activation (`latched_iff_undisturbed`).
-/
import Exolon.Lib.Run
import Exolon.Scene.Ledger

namespace Exolon

/-- What the award contributes by one component. -/
def StageBoundaryAward.pointsOf (award : StageBoundaryAward)
    (component : GameplayStageComponent) : Int :=
  ((award.components.filter (·.id = component)).map
    StageAwardComponent.points).sum

namespace Bravery

open GameplayStageComponentSequence

-- =============================================================== the stage

/-- The ledger and the suit, with the activations noted so far. -/
structure Stage where
  ledger : StageBoundaryLedger := {}
  hasExoskeleton : Bool := false
  sinceClear : List Int := []
  sinceStart : List Int := []

/-- What happens to the ledger, and to the suit. -/
inductive Operation where
  | beginPlaythrough
  | endPlaythrough
  | noteStageStarted (step : Int)
  | noteExoskeletonActivated (step : Int)
  | outcome (zone lives maxLives startingAmmo startingGrenades : Int)
      (context : StageBoundaryContext)
      (awardSequence : List GameplayStageComponent)
  /-- UP in a changing room, by a player who is not dying. -/
  | changingRoom (step : Int)
  /-- The suit is taken off: at a boundary, or by a reset. -/
  | takeOff

namespace Stage

def noteExoskeletonActivated (s : Stage) (step : Int) : Stage :=
  { s with
    ledger := s.ledger.noteExoskeletonActivated step
    sinceClear := s.sinceClear ++ [step]
    sinceStart := s.sinceStart ++ [step] }

/-- The suit is toggled, and only putting it on is noted. -/
def changingRoom (s : Stage) (step : Int) : Stage :=
  let toggled := { s with hasExoskeleton := !s.hasExoskeleton }
  if toggled.hasExoskeleton then toggled.noteExoskeletonActivated step
  else toggled

def step (s : Stage) : Operation → Option Stage
  | .beginPlaythrough =>
      some { s with ledger := s.ledger.beginPlaythrough, sinceClear := [] }
  | .endPlaythrough =>
      some { s with ledger := s.ledger.endPlaythrough, sinceClear := [] }
  | .noteStageStarted step =>
      some { s with
        ledger := s.ledger.noteStageStarted step
        sinceClear := []
        sinceStart := [] }
  | .noteExoskeletonActivated step => some (s.noteExoskeletonActivated step)
  | .outcome zone lives maxLives ammo grenades context awardSequence =>
      some { s with
        ledger := (s.ledger.outcome zone lives maxLives ammo grenades context
          awardSequence).2 }
  | .changingRoom step => some (s.changingRoom step)
  | .takeOff => some { s with hasExoskeleton := false }

/-- The step of the first of some activations. -/
def firstStep (activations : List Int) : Option Int :=
  activations.head?.map (max 0)

/-- What a boundary pays for bravery, for every zone, purse and sequence
it is awarded under. -/
def Pays (s : Stage) (bonus : Int) : Prop :=
  ∀ zone lives maxLives ammo grenades step awardSequence award counted,
    s.ledger.outcome zone lives maxLives ammo grenades
        (s.ledger.context step) awardSequence = (.awarded award, counted) →
      award.pointsOf .braveryNoExoskeleton
        = awardSequence.count .braveryNoExoskeleton * bonus

/-- The latch is the record of the activations of the stage. -/
structure Latched (s : Stage) : Prop where
  took : s.ledger.tookExoskeletonInStage = true ↔ s.sinceClear ≠ []
  activated : s.ledger.exoskeletonActivatedAtStep = firstStep s.sinceClear
  pays : s.Pays (if s.sinceStart = [] then GameConstants.braveryBonus else 0)

/-- No playthrough is armed or closed over a noted activation. -/
def Undisturbed (s : Stage) (op : Operation) : Prop :=
  (op = .beginPlaythrough ∨ op = .endPlaythrough) → s.sinceStart = []

-- =============================================================== in any run

/-- What the two fields are in every run. -/
structure Booked (s : Stage) : Prop where
  took : s.ledger.tookExoskeletonInStage = true ↔ s.sinceClear ≠ []
  activated : s.ledger.exoskeletonActivatedAtStep = firstStep s.sinceStart

theorem firstStep_concat (activations : List Int) (step : Int) :
    firstStep (activations ++ [step])
      = match firstStep activations with
        | none => some (max 0 step)
        | some first => some first := by
  cases activations <;> rfl

section Steps

variable {s : Stage}

theorem Booked.note (h : s.Booked) (step : Int) :
    (s.noteExoskeletonActivated step).Booked where
  took := by
    simp [noteExoskeletonActivated,
      StageBoundaryLedger.noteExoskeletonActivated]
  activated := by
    show (match s.ledger.exoskeletonActivatedAtStep with
      | none => some (max 0 step)
      | some first => some first) = firstStep (s.sinceStart ++ [step])
    rw [firstStep_concat, h.activated]

/-- A trigger counts what it pays, and touches neither field. -/
theorem outcome_latch (ledger : StageBoundaryLedger)
    (zone lives maxLives ammo grenades : Int)
    (context : StageBoundaryContext)
    (awardSequence : List GameplayStageComponent) :
    let after := (ledger.outcome zone lives maxLives ammo grenades context
      awardSequence).2
    after.tookExoskeletonInStage = ledger.tookExoskeletonInStage
      ∧ after.exoskeletonActivatedAtStep
        = ledger.exoskeletonActivatedAtStep := by
  unfold StageBoundaryLedger.outcome
  split
  · cases ledger.accept zone lives context awardSequence with
    | none => exact ⟨rfl, rfl⟩
    | some accepted =>
        dsimp only
        split
        · exact ⟨rfl, rfl⟩
        · exact ⟨rfl, rfl⟩
  · exact ⟨rfl, rfl⟩

theorem Booked.step (h : s.Booked) {op : Operation} {t : Stage}
    (hstep : s.step op = some t) : t.Booked := by
  cases op with
  | beginPlaythrough =>
      obtain rfl := Option.some.inj hstep
      exact ⟨by simp [StageBoundaryLedger.beginPlaythrough], h.activated⟩
  | endPlaythrough =>
      obtain rfl := Option.some.inj hstep
      exact ⟨by simp [StageBoundaryLedger.endPlaythrough], h.activated⟩
  | noteStageStarted step =>
      obtain rfl := Option.some.inj hstep
      exact ⟨by simp [StageBoundaryLedger.noteStageStarted], rfl⟩
  | noteExoskeletonActivated step =>
      obtain rfl := Option.some.inj hstep
      exact h.note step
  | outcome zone lives maxLives ammo grenades context awardSequence =>
      obtain rfl := Option.some.inj hstep
      obtain ⟨htook, hactivated⟩ := outcome_latch s.ledger zone lives
        maxLives ammo grenades context awardSequence
      refine ⟨?_, ?_⟩
      · rw [htook]
        exact h.took
      · rw [hactivated]
        exact h.activated
  | changingRoom step =>
      obtain rfl := Option.some.inj hstep
      have htoggled : Booked
          { s with hasExoskeleton := !s.hasExoskeleton } := { h with }
      unfold changingRoom
      dsimp only
      split
      · exact htoggled.note step
      · exact htoggled
  | takeOff =>
      obtain rfl := Option.some.inj hstep
      exact { h with }

/-- What a sequence accepts is the sequence, priced. -/
theorem accept_eq {ledger : StageBoundaryLedger} {zone lives : Int}
    {context : StageBoundaryContext}
    {awardSequence : List GameplayStageComponent}
    {accepted : List StageAwardComponent}
    (h : ledger.accept zone lives context awardSequence = some accepted) :
    accepted = awardSequence.map fun component =>
      ⟨component, points component lives context⟩ := by
  induction awardSequence generalizing accepted with
  | nil =>
      cases h
      rfl
  | cons component rest ih =>
      unfold StageBoundaryLedger.accept at h
      split at h
      · cases h
      · obtain ⟨later, hlater, rfl⟩ := Option.map_eq_some_iff.mp h
        rw [ih hlater]
        rfl

/-- What the components of bravery come to. -/
theorem sum_bravery (lives : Int) (context : StageBoundaryContext)
    (awardSequence : List GameplayStageComponent) :
    (((awardSequence.map fun component =>
        StageAwardComponent.mk component
          (points component lives context)).filter
            (·.id = .braveryNoExoskeleton)).map
              StageAwardComponent.points).sum
      = awardSequence.count .braveryNoExoskeleton
        * (if context.tookExoskeletonInStage then 0
          else GameConstants.braveryBonus) := by
  induction awardSequence with
  | nil => simp
  | cons component rest ih =>
      by_cases hbravery : component = .braveryNoExoskeleton
      · subst hbravery
        rw [List.map_cons, List.filter_cons_of_pos (by simp), List.map_cons,
          List.sum_cons, ih, List.count_cons_self]
        push_cast
        rw [Int.add_mul, Int.one_mul, Int.add_comm]
        rfl
      · rw [List.map_cons, List.filter_cons_of_neg (by simpa using hbravery),
          ih, List.count_cons_of_ne hbravery]

/-- Bravery is priced by the latch alone. -/
theorem pays_of_latch (s : Stage) :
    s.Pays (if s.ledger.tookExoskeletonInStage then 0
      else GameConstants.braveryBonus) := by
  intro zone lives maxLives ammo grenades step awardSequence award counted h
  have hcomponents : award.components = awardSequence.map fun component =>
      ⟨component, points component lives (s.ledger.context step)⟩ := by
    unfold StageBoundaryLedger.outcome at h
    split at h
    case isFalse => cases h
    case isTrue =>
      cases haccept : s.ledger.accept zone lives (s.ledger.context step)
          awardSequence with
      | none =>
          rw [haccept] at h
          cases h
      | some accepted =>
          rw [haccept] at h
          dsimp only at h
          split at h
          · cases h
          · cases h
            exact accept_eq haccept
  unfold StageBoundaryAward.pointsOf
  rw [hcomponents]
  exact sum_bravery lives (s.ledger.context step) awardSequence

end Steps

-- ================================================ in an undisturbed run

/-- Both histories are one. -/
def Agreed (s : Stage) : Prop := s.sinceClear = s.sinceStart

theorem Agreed.step {s t : Stage} {op : Operation} (h : s.Agreed)
    (hundisturbed : s.Undisturbed op) (hstep : s.step op = some t) :
    t.Agreed := by
  cases op with
  | beginPlaythrough =>
      obtain rfl := Option.some.inj hstep
      exact (hundisturbed (.inl rfl)).symm
  | endPlaythrough =>
      obtain rfl := Option.some.inj hstep
      exact (hundisturbed (.inr rfl)).symm
  | noteStageStarted step =>
      obtain rfl := Option.some.inj hstep
      rfl
  | noteExoskeletonActivated step =>
      obtain rfl := Option.some.inj hstep
      exact congrArg (· ++ [step]) h
  | outcome =>
      obtain rfl := Option.some.inj hstep
      exact h
  | changingRoom step =>
      obtain rfl := Option.some.inj hstep
      unfold changingRoom
      dsimp only
      split
      · exact congrArg (· ++ [step]) h
      · exact h
  | takeOff =>
      obtain rfl := Option.some.inj hstep
      exact h

theorem Agreed.latched {s : Stage} (h : s.Agreed) (hbooked : s.Booked) :
    s.Latched := by
  have htook := hbooked.took
  have hactivated := hbooked.activated
  rw [← show s.sinceClear = s.sinceStart from h] at hactivated
  refine ⟨htook, hactivated, ?_⟩
  have hpays := s.pays_of_latch
  rw [show s.sinceClear = s.sinceStart from h] at htook
  by_cases hnone : s.sinceStart = []
  · rw [if_pos hnone]
    rw [if_neg (by simp [htook, hnone])] at hpays
    exact hpays
  · rw [if_neg hnone]
    rw [if_pos (htook.mpr hnone)] at hpays
    exact hpays

/-- Arming or closing a playthrough over an activation leaves its step
behind. -/
theorem undisturbed_of_latched {s : Stage} {op : Operation} (h : s.Booked)
    (hnext : ∀ t, s.step op = some t → t.Latched) : s.Undisturbed op := by
  intro hop
  have hstep : ∃ t, s.step op = some t ∧ t.sinceClear = []
      ∧ t.sinceStart = s.sinceStart := by
    rcases hop with rfl | rfl
    · exact ⟨_, rfl, rfl, rfl⟩
    · exact ⟨_, rfl, rfl, rfl⟩
  obtain ⟨t, hstep, hclear, hstart⟩ := hstep
  have hactivated := (h.step hstep).activated
  rw [(hnext t hstep).activated, hclear, hstart] at hactivated
  cases hfirst : s.sinceStart with
  | nil => rfl
  | cons first rest =>
      rw [hfirst] at hactivated
      cases hactivated

/-- The latch, its step and what a boundary pays are the record of the
activations of the stage, in every state of exactly the runs that arm and
close no playthrough over a noted activation. -/
theorem latched_iff_undisturbed (ops : List Operation) :
    (∀ s, Run.Visits step {} ops s → s.Latched)
      ↔ Run.Along step Undisturbed {} ops := by
  have hstart : Booked {} := ⟨by simp, rfl⟩
  refine Run.visits_iff_along_of_invariant (K := Booked) (J := Agreed)
    (fun h hstep => h.step hstep) ?_ ?_ ?_ hstart rfl
  · intro s s' op _ hagreed hundisturbed hstep
    exact hagreed.step hundisturbed hstep
  · intro s hbooked hagreed
    exact hagreed.latched hbooked
  · intro s op hbooked _ hnext
    exact undisturbed_of_latched hbooked hnext

/-- The suit is put on at step 5, and the game is over. -/
theorem not_latched_gameOver : ∃ s,
    Run.Visits step {} [.changingRoom 5, .endPlaythrough] s
      ∧ s.ledger.tookExoskeletonInStage = false
      ∧ s.ledger.exoskeletonActivatedAtStep = some 5 ∧ ¬s.Latched := by
  refine ⟨_, ⟨_, List.prefix_refl _, rfl⟩, rfl, rfl, ?_⟩
  intro h
  have hstale : (some 5 : Option Int) = none := h.activated
  cases hstale

end Stage

end Bravery

end Exolon

/-
The stage boundary: what it pays, and the ledger that pays it once.

The award of a boundary is a list of components; the product's sequence is
lives, bravery and the timed ladder. The ledger counts, for each zone and
component, what it has paid since the counts were last cleared, and
answers a trigger at a stage end with the award or with a suppression.

# Once

`PaidAtMostOnce` is the state of the counts the product reaches: the three
components of a zone have been paid together, once or not at all. On such
counts a trigger is awarded when the zone has not been paid
(`outcome_unpaid`) and suppressed, with the ledger as it was, when it has
(`outcome_paid`).
-/
import Exolon.EventLog.Vocabulary

namespace Exolon

-- ============================================================= constants

namespace GameConstants

/-- Hard cap on lives. -/
def maxLives : Int := 9

/-- For a stage without the exoskeleton. -/
def braveryBonus : Int := 10000

/-- Fixed steps a timed phase lasts. -/
def phaseTicks : Int := 1800

/-- The timed bonus by phase, best first. -/
def timedBonusLadder : List Int := [7000, 5000, 3000, 1000, 0]

end GameConstants

-- ============================================================== the award

/-- What a boundary knew when it was evaluated. -/
structure StageBoundaryContext where
  /-- Steps since the stage started; none if the caller saw no clock. -/
  stageElapsedSteps : Option Int
  tookExoskeletonInStage : Bool
  deriving DecidableEq, Repr

namespace GameplayStageComponentSequence

/-- The award sequence of the product. -/
def waveD : List GameplayStageComponent :=
  [.livesTimes1000, .braveryNoExoskeleton, .timedPhaseLadder]

/-- The ladder's phase: none without a clock, the last one saturates. -/
def phase (context : StageBoundaryContext) : Option Nat :=
  match context.stageElapsedSteps with
  | none => none
  | some elapsed =>
      if GameConstants.phaseTicks > 0 then
        some (min (GameConstants.timedBonusLadder.length - 1)
          (max 0 elapsed / GameConstants.phaseTicks).toNat)
      else none

/-- What a component contributes. -/
def points (component : GameplayStageComponent) (lives : Int)
    (context : StageBoundaryContext) : Int :=
  match component with
  | .livesTimes1000 => lives * 1000
  | .braveryNoExoskeleton =>
      if context.tookExoskeletonInStage then 0 else GameConstants.braveryBonus
  | .timedPhaseLadder =>
      match phase context with
      | none => 0
      | some phase => GameConstants.timedBonusLadder.getD phase 0

end GameplayStageComponentSequence

/-- One component of an awarded boundary. -/
structure StageAwardComponent where
  id : GameplayStageComponent
  points : Int
  deriving DecidableEq, Repr

/-- Everything the scene has to apply for one awarded boundary. -/
structure StageBoundaryAward where
  completedZone : Int
  components : List StageAwardComponent
  livesBefore : Int
  livesAfter : Int
  refillsAmmoAndGrenades : Bool
  startingAmmo : Int
  startingGrenades : Int
  clearsExoskeleton : Bool
  timedPhase : Option Nat
  deriving DecidableEq, Repr

/-- The sum of the components. -/
def StageBoundaryAward.points (award : StageBoundaryAward) : Int :=
  (award.components.map StageAwardComponent.points).sum

/-- The outcome of one boundary trigger. -/
inductive StageBoundaryOutcome where
  | awarded (award : StageBoundaryAward)
  | suppressed (zone : Int) (reason : GameplayStageSuppressionReason)
  | notApplicable
  deriving DecidableEq, Repr

-- ============================================================= the ledger

/-- The ledger of the product: one award a component, zone and
playthrough. -/
structure StageBoundaryLedger where
  playthroughIndex : Int := 1
  awardedCounts : Int → GameplayStageComponent → Nat := fun _ _ => 0
  tookExoskeletonInStage : Bool := false
  stageStartStep : Int := 0
  exoskeletonActivatedAtStep : Option Int := none

namespace StageBoundaryLedger

/-- Zones that end a stage. -/
def stageEndZones : List Int := [24, 49, 74, 99, 124]

def awardsPerComponentPerZone : Nat := 1

/-- Arm a fresh playthrough. -/
def beginPlaythrough (ledger : StageBoundaryLedger) : StageBoundaryLedger :=
  { ledger with
    awardedCounts := fun _ _ => 0
    tookExoskeletonInStage := false
    playthroughIndex := ledger.playthroughIndex + 1 }

/-- Close the current playthrough. -/
def endPlaythrough (ledger : StageBoundaryLedger) : StageBoundaryLedger :=
  { ledger with
    awardedCounts := fun _ _ => 0
    tookExoskeletonInStage := false }

/-- A changing room put the suit on. -/
def noteExoskeletonActivated (ledger : StageBoundaryLedger) (step : Int) :
    StageBoundaryLedger :=
  { ledger with
    exoskeletonActivatedAtStep :=
      match ledger.exoskeletonActivatedAtStep with
      | none => some (max 0 step)
      | some first => some first
    tookExoskeletonInStage := true }

/-- A new stage began. -/
def noteStageStarted (ledger : StageBoundaryLedger) (step : Int) :
    StageBoundaryLedger :=
  { ledger with
    stageStartStep := max 0 step
    tookExoskeletonInStage := false
    exoskeletonActivatedAtStep := none }

/-- Steps elapsed inside the stage, never negative. -/
def stageElapsedSteps (ledger : StageBoundaryLedger) (step : Int) : Int :=
  max 0 (step - ledger.stageStartStep)

/-- The context a trigger is evaluated under. -/
def context (ledger : StageBoundaryLedger) (step : Int) :
    StageBoundaryContext where
  stageElapsedSteps := some (ledger.stageElapsedSteps step)
  tookExoskeletonInStage := ledger.tookExoskeletonInStage

/-- The components a trigger accepts, or none when one of them has been
paid. -/
def accept (ledger : StageBoundaryLedger) (zone lives : Int)
    (context : StageBoundaryContext) :
    List GameplayStageComponent → Option (List StageAwardComponent)
  | [] => some []
  | component :: rest =>
      if awardsPerComponentPerZone > 0 ∧
          ledger.awardedCounts zone component ≥ awardsPerComponentPerZone then
        none
      else
        (ledger.accept zone lives context rest).map fun accepted =>
          { id := component
            points := GameplayStageComponentSequence.points component lives
              context } :: accepted

/-- Count the components paid. -/
def count (ledger : StageBoundaryLedger) (zone : Int)
    (accepted : List StageAwardComponent) : StageBoundaryLedger :=
  { ledger with
    awardedCounts := fun z c =>
      ledger.awardedCounts z c
        + if z = zone then accepted.countP (·.id = c) else 0 }

/-- Evaluate one trigger: the outcome, and the ledger after it. -/
def outcome (ledger : StageBoundaryLedger)
    (zone lives maxLives startingAmmo startingGrenades : Int)
    (context : StageBoundaryContext)
    (awardSequence : List GameplayStageComponent) :
    StageBoundaryOutcome × StageBoundaryLedger :=
  if zone ∈ stageEndZones then
    match ledger.accept zone lives context awardSequence with
    | none => (.suppressed zone .alreadyAwarded, ledger)
    | some accepted =>
        let counted := ledger.count zone accepted
        if accepted.isEmpty then (.suppressed zone .notStageEnd, counted)
        else (.awarded {
          completedZone := zone
          components := accepted
          livesBefore := lives
          livesAfter := min maxLives (lives + 1)
          refillsAmmoAndGrenades := true
          startingAmmo := startingAmmo
          startingGrenades := startingGrenades
          clearsExoskeleton := true
          timedPhase := GameplayStageComponentSequence.phase context }, counted)
  else (.notApplicable, ledger)

-- =================================================================== once

/-- The zone has been paid. -/
def Paid (ledger : StageBoundaryLedger) (zone : Int) : Prop :=
  ∀ component ∈ GameplayStageComponentSequence.waveD,
    ledger.awardedCounts zone component = 1

/-- The zone has not been paid. -/
def Unpaid (ledger : StageBoundaryLedger) (zone : Int) : Prop :=
  ∀ component ∈ GameplayStageComponentSequence.waveD,
    ledger.awardedCounts zone component = 0

/-- Each zone has been paid as a whole, once or not at all. -/
def PaidAtMostOnce (ledger : StageBoundaryLedger) : Prop :=
  ∀ zone, ledger.Paid zone ∨ ledger.Unpaid zone

theorem not_paid_of_unpaid {ledger : StageBoundaryLedger} {zone : Int}
    (h : ledger.Unpaid zone) : ¬ledger.Paid zone := by
  intro hpaid
  have hone := hpaid .livesTimes1000 List.mem_cons_self
  have hzero := h .livesTimes1000 List.mem_cons_self
  omega

theorem cleared_unpaid {ledger : StageBoundaryLedger}
    (h : ledger.awardedCounts = fun _ _ => 0) (zone : Int) :
    ledger.Unpaid zone := by
  intro component _
  rw [h]

/-- What the product's sequence accepts at an unpaid zone. -/
theorem accept_unpaid {ledger : StageBoundaryLedger} {zone : Int}
    (h : ledger.Unpaid zone) (lives : Int) (context : StageBoundaryContext) :
    ledger.accept zone lives context GameplayStageComponentSequence.waveD
      = some (GameplayStageComponentSequence.waveD.map fun component =>
        ⟨component, GameplayStageComponentSequence.points component lives
          context⟩) := by
  have hlives := h .livesTimes1000 (by decide)
  have hbravery := h .braveryNoExoskeleton (by decide)
  have hladder := h .timedPhaseLadder (by decide)
  simp [accept, GameplayStageComponentSequence.waveD, hlives, hbravery,
    hladder, awardsPerComponentPerZone]

theorem accept_paid {ledger : StageBoundaryLedger} {zone : Int}
    (h : ledger.Paid zone) (lives : Int) (context : StageBoundaryContext) :
    ledger.accept zone lives context GameplayStageComponentSequence.waveD
      = none := by
  have hlives := h .livesTimes1000 (by decide)
  simp [accept, GameplayStageComponentSequence.waveD, hlives,
    awardsPerComponentPerZone]

/-- The award of the product for a zone. -/
def award (zone lives maxLives startingAmmo startingGrenades : Int)
    (context : StageBoundaryContext) : StageBoundaryAward where
  completedZone := zone
  components := GameplayStageComponentSequence.waveD.map fun component =>
    ⟨component, GameplayStageComponentSequence.points component lives context⟩
  livesBefore := lives
  livesAfter := min maxLives (lives + 1)
  refillsAmmoAndGrenades := true
  startingAmmo := startingAmmo
  startingGrenades := startingGrenades
  clearsExoskeleton := true
  timedPhase := GameplayStageComponentSequence.phase context

/-- It pays a thousand a life held, bravery, and the ladder's phase. -/
theorem award_points (zone lives maxLives startingAmmo startingGrenades : Int)
    (elapsed : Int) (took : Bool) :
    (award zone lives maxLives startingAmmo startingGrenades
        ⟨some elapsed, took⟩).points
      = lives * 1000 + (if took then 0 else 10000)
        + GameConstants.timedBonusLadder.getD
          (min 4 (max 0 elapsed / 1800).toNat) 0 := by
  simp [award, StageBoundaryAward.points, GameplayStageComponentSequence.waveD,
    GameplayStageComponentSequence.points,
    GameplayStageComponentSequence.phase, GameConstants.phaseTicks,
    GameConstants.braveryBonus, GameConstants.timedBonusLadder]
  exact (Int.add_assoc _ _ _).symm

section Outcome

variable {ledger : StageBoundaryLedger} {zone : Int}
  (lives maxLives startingAmmo startingGrenades : Int)
  (context : StageBoundaryContext)

theorem outcome_notEnd (ledger : StageBoundaryLedger)
    (h : zone ∉ stageEndZones) :
    ledger.outcome zone lives maxLives startingAmmo startingGrenades context
      GameplayStageComponentSequence.waveD = (.notApplicable, ledger) :=
  if_neg h

/-- A paid zone is suppressed, and the ledger stays. -/
theorem outcome_paid (hend : zone ∈ stageEndZones) (h : ledger.Paid zone) :
    ledger.outcome zone lives maxLives startingAmmo startingGrenades context
        GameplayStageComponentSequence.waveD
      = (.suppressed zone .alreadyAwarded, ledger) := by
  unfold outcome
  rw [if_pos hend, accept_paid h]

/-- An unpaid zone is awarded, and counted. -/
theorem outcome_unpaid (hend : zone ∈ stageEndZones)
    (h : ledger.Unpaid zone) :
    ∃ counted, ledger.outcome zone lives maxLives startingAmmo
        startingGrenades context GameplayStageComponentSequence.waveD
      = (.awarded (award zone lives maxLives startingAmmo startingGrenades
        context), counted)
      ∧ counted.Paid zone
      ∧ (∀ other, other ≠ zone →
        counted.awardedCounts other = ledger.awardedCounts other)
      ∧ counted.stageStartStep = ledger.stageStartStep
      ∧ counted.tookExoskeletonInStage = ledger.tookExoskeletonInStage := by
  refine ⟨ledger.count zone (award zone lives maxLives startingAmmo
    startingGrenades context).components, ?_, ?_, ?_, rfl, rfl⟩
  · unfold outcome
    rw [if_pos hend, accept_unpaid h]
    rfl
  · intro component hcomponent
    have hzero := h component hcomponent
    simp only [count, hzero, if_true, award]
    cases component <;> rfl
  · intro other hother
    funext component
    simp [count, hother]

end Outcome

end StageBoundaryLedger

end Exolon

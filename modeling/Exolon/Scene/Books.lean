/-
The books of the scene, kept by every operation.

`Books` is the invariant of the whole development of the scene: the bounds
of what the HUD shows, what is stored, which flow the player is in, and
what the history says of deaths and of stage awards. Each operation keeps
it, most of them because they touch a few of its parts.

# Deaths and awards

The history is read by two machines. `deathPhase` accepts the moments of
deaths only in the order begun, life lost, ended, with one life less at
the end. `paidZones` collects the zones paid since the last start of a
playthrough, and refuses to pay one of them again. Both read the history
from its start (`List.foldlM`), so one more moment is one more step.
-/
import Exolon.Scene.World

namespace Exolon

-- ================================================================ machines

/-- Where the deaths of a history stand. -/
inductive DeathPhase where
  | idle
  | dying (lives : Int)
  | lost (lives : Int)
  deriving DecidableEq, Repr

/-- One more moment. -/
def DeathPhase.read : DeathPhase → Moment → Option DeathPhase
  | .idle, .deathBegan lives => some (.dying lives)
  | .dying lives, .lifeLost before after =>
      if before = lives ∧ after = lives - 1 then some (.lost after) else none
  | .lost lives, .deathEnded final =>
      if final = lives then some .idle else none
  | _, .deathBegan _ | _, .lifeLost .. | _, .deathEnded _ => none
  | phase, .playthrough | phase, .boundary .. | phase, .gameOver _ =>
      some phase

def deathPhase (history : List Moment) : Option DeathPhase :=
  history.foldlM DeathPhase.read .idle

/-- One more moment of the zones paid in a playthrough. -/
def payZone (paid : List Int) : Moment → Option (List Int)
  | .playthrough => some []
  | .boundary _ zone (.awarded _) _ _ =>
      if zone ∈ paid then none else some (zone :: paid)
  | _ => some paid

/-- The zones paid since the last start of a playthrough; none when one of
them was paid twice. -/
def paidZones (history : List Moment) : Option (List Int) :=
  history.foldlM payZone []

theorem deathPhase_note (history : List Moment) (moment : Moment) :
    deathPhase (history ++ [moment])
      = (deathPhase history).bind (·.read moment) := by
  simp only [deathPhase, List.foldlM_append, List.foldlM_cons,
    List.foldlM_nil]
  cases h : history.foldlM DeathPhase.read .idle with
  | none => rfl
  | some phase => cases hread : phase.read moment <;> simp [hread]

theorem paidZones_note (history : List Moment) (moment : Moment) :
    paidZones (history ++ [moment])
      = (paidZones history).bind (payZone · moment) := by
  simp only [paidZones, List.foldlM_append, List.foldlM_cons,
    List.foldlM_nil]
  cases h : history.foldlM payZone [] with
  | none => rfl
  | some paid => cases hpay : payZone paid moment <;> simp [hpay]

@[simp] theorem DeathPhase.read_playthrough (phase : DeathPhase) :
    phase.read .playthrough = some phase := by
  cases phase <;> rfl

@[simp] theorem DeathPhase.read_boundary (phase : DeathPhase)
    (step zone : Int) (outcome : StageBoundaryOutcome)
    (before after : Snapshot) :
    phase.read (.boundary step zone outcome before after) = some phase := by
  cases phase <;> rfl

@[simp] theorem DeathPhase.read_gameOver (phase : DeathPhase)
    (final : GameState) : phase.read (.gameOver final) = some phase := by
  cases phase <;> rfl

/-- What a boundary trigger may do. -/
def Moment.Lawful : Moment → Prop
  | .boundary step zone outcome before after =>
      match outcome with
      | .awarded award =>
          zone ∈ StageBoundaryLedger.stageEndZones
          ∧ award.points = before.gameState.lives * 1000
            + (if before.stageBoundaries.tookExoskeletonInStage then 0
              else 10000)
            + GameConstants.timedBonusLadder.getD (min 4
              (before.stageBoundaries.stageElapsedSteps step / 1800).toNat) 0
          ∧ after.gameState.points
            = min 999999 (before.gameState.points + award.points)
          ∧ after.gameState.lives = min 9 (before.gameState.lives + 1)
      | .suppressed .. => after = before
      | .notApplicable => after = before
  | _ => True

namespace Scene

-- ============================================================== the books

/-- What holds in every state of every run. -/
structure Books (s : Scene) : Prop where
  points : 0 ≤ s.gameState.points ∧ s.gameState.points ≤ 999999
  high : s.gameState.points ≤ s.gameState.highScore
  saved : s.gameState.highScore = s.persistence.loadHighScore
  ammo : 0 ≤ s.gameState.ammo ∧ s.gameState.ammo ≤ 99
  grenades : 0 ≤ s.gameState.grenades ∧ s.gameState.grenades ≤ 10
  lives : 0 ≤ s.gameState.lives ∧ s.gameState.lives ≤ 9
  alive : s.flowState ≠ .gameOver → 1 ≤ s.gameState.lives
  dying : s.player.isDying = true
    ↔ s.flowState = .playerDead ∨ s.flowState = .gameOver
  oneGrenade : s.grenades ≤ 1
  checkpoint : s.hasSavedCheckpoint = s.persistence.checkpoint.isSome
  resumes : s.flowState = .paused →
    s.stateBeforePause = .playing ∨ s.stateBeforePause = .respawning
  phase : deathPhase s.history = some
    (if s.flowState = .playerDead then .dying s.gameState.lives else .idle)
  ledger : s.stageBoundaries.PaidAtMostOnce
  paid : ∃ paid, paidZones s.history = some paid
    ∧ (s.flowState ≠ .gameOver → ∀ zone ∈ paid, s.stageBoundaries.Paid zone)
  lawful : ∀ moment ∈ s.history, moment.Lawful

namespace Books

variable {s : Scene}

/-- A player that is not dying is in no flow of the dead. -/
theorem living (h : s.Books) (hlive : s.player.isDying = false) :
    s.flowState ≠ .playerDead ∧ s.flowState ≠ .gameOver := by
  have hflow : ¬(s.flowState = .playerDead ∨ s.flowState = .gameOver) := by
    rw [← h.dying, hlive]
    exact Bool.false_ne_true
  exact ⟨fun hdead => hflow (.inl hdead), fun hover => hflow (.inr hover)⟩

/-- In every other flow the player is alive. -/
theorem not_dying (h : s.Books) (hdead : s.flowState ≠ .playerDead)
    (hover : s.flowState ≠ .gameOver) : s.player.isDying = false := by
  rw [Bool.eq_false_iff]
  intro hdying
  rcases h.dying.mp hdying with hflow | hflow
  · exact hdead hflow
  · exact hover hflow

/-- Points only grow, up to the cap, and the high score with them. -/
theorem awardPoints (h : s.Books) (value : Int) :
    (s.awardPoints value).Books := by
  have hpoints := h.points
  have hhigh := h.high
  unfold Scene.awardPoints
  split
  case isFalse => exact h
  case isTrue hvalue =>
    simp only
    split
    case isTrue hnew =>
      exact { h with
        points := by
          simp only
          omega
        high := le_refl _
        saved := by
          simp only [GamePersistence.loadHighScore,
            GamePersistence.saveHighScore]
          omega }
    case isFalse hold =>
      exact { h with
        points := by
          simp only
          omega
        high := by
          simp only
          omega }

/-- A change of flow of a living player. -/
theorem changeFlow (h : s.Books) (hlive : s.player.isDying = false)
    (next : GameFlowState) (hdead : next ≠ .playerDead)
    (hover : next ≠ .gameOver)
    (hpaused : next = .paused →
      s.stateBeforePause = .playing ∨ s.stateBeforePause = .respawning) :
    (s.changeFlow next).Books := by
  obtain ⟨hnotDead, hnotOver⟩ := h.living hlive
  have hphase := h.phase
  obtain ⟨paid, hpaid, hall⟩ := h.paid
  rw [if_neg hnotDead] at hphase
  exact { h with
    alive := fun _ => h.alive hnotOver
    dying := by
      simp [Scene.changeFlow, hlive, hdead, hover]
    resumes := hpaused
    phase := by simp [Scene.changeFlow, hphase, hdead]
    paid := ⟨paid, hpaid, fun _ => hall hnotOver⟩ }

theorem saveCheckpoint (h : s.Books) : s.saveCheckpoint.Books :=
  { h with checkpoint := rfl }

theorem clearTransientObjects (h : s.Books) :
    s.clearTransientObjects.Books :=
  { h with oneGrenade := Nat.zero_le 1 }

theorem latchActions (h : s.Books) (input : InputSnapshot) :
    (s.latchActions input).Books := { h with }

theorem latchPauseMenu (h : s.Books) (input : InputSnapshot) :
    (s.latchPauseMenu input).Books := { h with }

-- ------------------------------------------------------- starts of play

theorem beginPlaythrough (h : s.Books) : s.beginPlaythrough.Books := by
  have hcleared (zone : Int) : (s.stageBoundaries.beginPlaythrough
      |>.noteStageStarted s.stepCount).Unpaid zone :=
    StageBoundaryLedger.cleared_unpaid rfl zone
  obtain ⟨paid, hpaid, _⟩ := h.paid
  exact { h with
    phase := by
      simp only [Scene.beginPlaythrough, note, deathPhase_note, h.phase,
        Option.bind_some, DeathPhase.read_playthrough]
      rfl
    ledger := fun zone => .inr (hcleared zone)
    paid := by
      refine ⟨[], ?_, nofun⟩
      simp only [Scene.beginPlaythrough, note, paidZones_note, hpaid,
        Option.bind_some, payZone]
    lawful := by
      intro moment hmoment
      rcases List.mem_append.mp hmoment with hmoment | hmoment
      · exact h.lawful moment hmoment
      · obtain rfl := List.mem_singleton.mp hmoment
        trivial }

theorem openPlaythrough (h : s.Books) : s.openPlaythrough.Books := by
  unfold Scene.openPlaythrough
  split
  · exact h
  · exact h.beginPlaythrough

theorem ensureCheckpoint (h : s.Books) : s.ensureCheckpoint.Books := by
  unfold Scene.ensureCheckpoint
  split
  · exact h
  · exact h.saveCheckpoint

theorem openPlaythrough_isDying (s : Scene) :
    s.openPlaythrough.player.isDying = s.player.isDying := by
  unfold Scene.openPlaythrough
  split <;> rfl

theorem beginFromTitle (h : s.Books) (hlive : s.player.isDying = false)
    (input : InputSnapshot) : (s.beginFromTitle input).Books := by
  have hlive' := (openPlaythrough_isDying s).trans hlive
  have hplaying := h.openPlaythrough.changeFlow hlive' .playing
    nofun nofun nofun
  exact ensureCheckpoint { hplaying.latchActions input with }

theorem enterContentComplete (h : s.Books)
    (hlive : s.player.isDying = false) (later : InputSnapshot) :
    (s.enterContentComplete later).Books :=
  { (h.changeFlow hlive .contentComplete nofun nofun
      nofun).saveCheckpoint with }

theorem showTitleAfterContentComplete (h : s.Books)
    (hlive : s.player.isDying = false) (input : InputSnapshot) :
    (s.showTitleAfterContentComplete input).Books :=
  { h.changeFlow hlive .title nofun nofun nofun with }

theorem enterPause (h : s.Books) (input : InputSnapshot) :
    (s.enterPause input).Books := by
  unfold Scene.enterPause
  split
  case isFalse => exact h
  case isTrue hflow =>
    have hlive : s.player.isDying = false := by
      apply h.not_dying
      · intro hdead
        simp [hdead] at hflow
      · intro hover
        simp [hover] at hflow
    have hkept : ({ s with
        stateBeforePause := s.flowState
        pauseSelectedIndex := 0 } : Scene).Books :=
      { h with
        resumes := fun (hpaused : s.flowState = .paused) => by
          rw [hpaused] at hflow
          simp at hflow }
    exact (hkept.changeFlow hlive .paused nofun nofun
      fun _ => hflow).latchPauseMenu input

theorem leavePause (h : s.Books) (input : InputSnapshot) :
    (s.leavePause input).Books := by
  unfold Scene.leavePause
  split
  case isFalse => exact h
  case isTrue hpaused =>
    have hresumes := h.resumes hpaused
    have hlive : s.player.isDying = false := by
      apply h.not_dying
      · rw [hpaused]
        nofun
      · rw [hpaused]
        nofun
    have hflow : (s.changeFlow s.stateBeforePause).Books := by
      apply h.changeFlow hlive s.stateBeforePause
      · rcases hresumes with h | h <;> simp [h]
      · rcases hresumes with h | h <;> simp [h]
      · exact fun _ => hresumes
    exact (hflow.latchActions input).latchPauseMenu input

/-- A restart opens new books. -/
theorem restartFromBeginning (h : s.Books) (levels : Text → Level)
    (hdead : s.flowState ≠ .playerDead) (input : InputSnapshot) :
    (s.restartFromBeginning levels input).Books := by
  have hphase : deathPhase (s.history ++ [.playthrough]) = some .idle := by
    rw [deathPhase_note, h.phase, if_neg hdead]
    rfl
  have hpaid : paidZones (s.history ++ [.playthrough]) = some [] := by
    obtain ⟨paid, hpaid, _⟩ := h.paid
    rw [paidZones_note, hpaid]
    rfl
  exact {
    points := ⟨le_refl 0, (by decide : (0 : Int) ≤ 999999)⟩
    high := le_max_left _ _
    saved := rfl
    ammo := ⟨(by decide : (0 : Int) ≤ 99), le_refl 99⟩
    grenades := ⟨(by decide : (0 : Int) ≤ 10), le_refl 10⟩
    lives := ⟨(by decide : (0 : Int) ≤ 9), le_refl 9⟩
    alive := fun _ => (by decide : (1 : Int) ≤ 9)
    dying := iff_of_false Bool.false_ne_true nofun
    oneGrenade := Nat.zero_le 1
    checkpoint := rfl
    resumes := nofun
    phase := hphase
    ledger := fun zone => .inr (StageBoundaryLedger.cleared_unpaid rfl zone)
    paid := ⟨[], hpaid, nofun⟩
    lawful := h.beginPlaythrough.lawful }

-- --------------------------------------------------------------- zones

/-- The start of a stage only moves the clock. -/
theorem noteStageStart (h : s.Books) : s.noteStageStart.Books := by
  unfold Scene.noteStageStart
  split
  · exact { h with }
  · exact h

theorem noteStageStart_isDying (s : Scene) :
    s.noteStageStart.player.isDying = s.player.isDying := by
  unfold Scene.noteStageStart
  split <;> rfl

theorem configurePlayer (h : s.Books) (hlive : s.player.isDying = false)
    (spawnX : Rat) : (s.configurePlayer spawnX).Books := by
  obtain ⟨hdead, hover⟩ := h.living hlive
  exact { h with
    dying := iff_of_false Bool.false_ne_true (not_or.mpr ⟨hdead, hover⟩) }

/-- A living player enters a zone alive. -/
theorem transition (h : s.Books) (hlive : s.player.isDying = false)
    (levels : Text → Level) (levelName : Text) (later : InputSnapshot) :
    (s.transition levels levelName later).Books := by
  have hmoved : ({ s.clearTransientObjects with
      currentLevelName := levelName
      gameState := { s.gameState with
        zone := zoneNumber levelName } } : Scene).Books :=
    { h.clearTransientObjects with }
  have hlive' := (noteStageStart_isDying { s.clearTransientObjects with
    currentLevelName := levelName
    gameState := { s.gameState with zone := zoneNumber levelName } }).trans
      hlive
  have hconfigured := hmoved.noteStageStart.configurePlayer hlive'
    (levels levelName).spawnX
  have hplaying := hconfigured.changeFlow rfl .playing nofun nofun
    nofun
  exact saveCheckpoint { hplaying with }

theorem transition_isDying (s : Scene) (levels : Text → Level)
    (levelName : Text) (later : InputSnapshot) :
    (s.transition levels levelName later).player.isDying = false := rfl

-- ---------------------------------------------------------- boundaries

/-- One more moment the two machines pass over. -/
theorem note (h : s.Books) {moment : Moment}
    (hread : ∀ phase : DeathPhase, phase.read moment = some phase)
    (hpay : ∀ paid, payZone paid moment = some paid)
    (hlawful : moment.Lawful) : (s.note moment).Books := by
  obtain ⟨paid, hpaid, hall⟩ := h.paid
  exact { h with
    phase := by
      rw [Scene.note, deathPhase_note, h.phase, Option.bind_some, hread]
    paid := by
      refine ⟨paid, ?_, hall⟩
      rw [Scene.note, paidZones_note, hpaid, Option.bind_some, hpay]
    lawful := by
      intro m hm
      rcases List.mem_append.mp hm with hm | hm
      · exact h.lawful m hm
      · obtain rfl := List.mem_singleton.mp hm
        exact hlawful }

theorem awardPoints_frame (s : Scene) (value : Int) :
    (s.awardPoints value).flowState = s.flowState
      ∧ (s.awardPoints value).player = s.player
      ∧ (s.awardPoints value).history = s.history
      ∧ (s.awardPoints value).stageBoundaries = s.stageBoundaries
      ∧ (s.awardPoints value).gameState.lives = s.gameState.lives
      ∧ (s.awardPoints value).stepCount = s.stepCount
      ∧ (s.awardPoints value).invulnerability = s.invulnerability := by
  unfold Scene.awardPoints
  split
  · simp only
    split <;> exact ⟨rfl, rfl, rfl, rfl, rfl, rfl, rfl⟩
  · exact ⟨rfl, rfl, rfl, rfl, rfl, rfl, rfl⟩

theorem awardPoints_points (s : Scene) {value : Int} (hvalue : 0 < value) :
    (s.awardPoints value).gameState.points
      = min 999999 (s.gameState.points + value) := by
  unfold Scene.awardPoints
  rw [if_pos hvalue]
  simp only
  split <;> rfl

/-- A boundary that pays nothing is only noted. -/
theorem boundary_unchanged {zone : Int} {outcome : StageBoundaryOutcome}
    (houtcome : s.stageBoundaries.outcome zone s.gameState.lives
      GameConstants.maxLives GameState.startingAmmo
      GameState.startingGrenades (s.stageBoundaries.context s.stepCount)
      GameplayStageComponentSequence.waveD = (outcome, s.stageBoundaries))
    (hnone : ∀ award, outcome ≠ .awarded award) :
    s.applyOriginalStageBoundaryIfNeeded zone
      = s.note (.boundary s.stepCount zone outcome s.snapshot
        s.snapshot) := by
  unfold Scene.applyOriginalStageBoundaryIfNeeded
  rw [houtcome]
  cases outcome with
  | awarded award => exact absurd rfl (hnone award)
  | suppressed zone reason => rfl
  | notApplicable => rfl

/-- The award the product pays in a state. -/
def productAward (s : Scene) (zone : Int) : StageBoundaryAward :=
  StageBoundaryLedger.award zone s.gameState.lives GameConstants.maxLives
    GameState.startingAmmo GameState.startingGrenades
    (s.stageBoundaries.context s.stepCount)

theorem productAward_points (s : Scene) (zone : Int) :
    (productAward s zone).points = s.gameState.lives * 1000
      + (if s.stageBoundaries.tookExoskeletonInStage then 0 else 10000)
      + GameConstants.timedBonusLadder.getD (min 4
        (s.stageBoundaries.stageElapsedSteps s.stepCount / 1800).toNat)
        0 := by
  have helapsed : max 0 (s.stageBoundaries.stageElapsedSteps s.stepCount)
      = s.stageBoundaries.stageElapsedSteps s.stepCount :=
    max_eq_right (le_max_left _ _)
  have hvalue := StageBoundaryLedger.award_points zone s.gameState.lives
    GameConstants.maxLives GameState.startingAmmo GameState.startingGrenades
    (s.stageBoundaries.stageElapsedSteps s.stepCount)
    s.stageBoundaries.tookExoskeletonInStage
  rw [helapsed] at hvalue
  exact hvalue

theorem productAward_pos (hlives : 1 ≤ s.gameState.lives) (zone : Int) :
    0 < (productAward s zone).points := by
  have hrung : ∀ rung < 5,
      0 ≤ GameConstants.timedBonusLadder.getD rung 0 := by decide
  have hladder := hrung (min 4
    (s.stageBoundaries.stageElapsedSteps s.stepCount / 1800).toNat) (by omega)
  rw [productAward_points]
  split <;> omega

/-- A zone newly paid joins the ones paid before. -/
theorem countAward (h : s.Books) (hover : s.flowState ≠ .gameOver)
    {zone : Int} {counted : StageBoundaryLedger} {paid : List Int}
    (hzones : paidZones s.history = some paid) (hpaid : counted.Paid zone)
    (hothers : ∀ other, other ≠ zone →
      counted.awardedCounts other = s.stageBoundaries.awardedCounts other) :
    counted.PaidAtMostOnce ∧ ∀ z ∈ zone :: paid, counted.Paid z := by
  obtain ⟨paid', hzones', hall⟩ := h.paid
  obtain rfl := Option.some.inj (hzones.symm.trans hzones')
  constructor
  · intro z
    by_cases hz : z = zone
    · exact .inl (hz ▸ hpaid)
    · rcases h.ledger z with hp | hu
      · exact .inl fun c hc => by rw [hothers z hz]; exact hp c hc
      · exact .inr fun c hc => by rw [hothers z hz]; exact hu c hc
  · intro z hz
    by_cases heq : z = zone
    · exact heq ▸ hpaid
    · rcases List.mem_cons.mp hz with hz | hz
      · exact absurd hz heq
      · exact fun c hc => by
          rw [hothers z heq]
          exact hall hover z hz c hc

/-- An award applied: the books are kept, and this is what it paid. -/
theorem applyAward (h : s.Books) (hlive : s.player.isDying = false)
    (zone : Int) :
    (s.applyAward (productAward s zone)).Books
      ∧ (s.applyAward (productAward s zone)).player.isDying = false
      ∧ (s.applyAward (productAward s zone)).history = s.history
      ∧ (s.applyAward (productAward s zone)).flowState = s.flowState
      ∧ (s.applyAward (productAward s zone)).stageBoundaries
        = s.stageBoundaries
      ∧ (s.applyAward (productAward s zone)).gameState.points = min 999999
        (s.gameState.points + (productAward s zone).points)
      ∧ (s.applyAward (productAward s zone)).gameState.lives
        = min 9 (s.gameState.lives + 1) := by
  obtain ⟨hdead, hover⟩ := h.living hlive
  obtain ⟨hflow, hplayer, hhistory, hboundaries, _, _⟩ :=
    awardPoints_frame s (productAward s zone).points
  have hscore := awardPoints_points s (productAward_pos (h.alive hover) zone)
  have hpaid := h.awardPoints (productAward s zone).points
  have hlives := h.lives
  have hphase := hpaid.phase
  rw [hflow, if_neg hdead] at hphase
  have hdead' : (s.applyAward (productAward s zone)).flowState
      ≠ .playerDead := by
    show (s.awardPoints (productAward s zone).points).flowState ≠ _
    rw [hflow]
    exact hdead
  refine ⟨{ hpaid with
      ammo := ⟨(by decide : (0 : Int) ≤ 99), le_refl 99⟩
      grenades := ⟨(by decide : (0 : Int) ≤ 10), le_refl 10⟩
      lives := ?_
      alive := ?_
      phase := ?_ }, ?_, hhistory, hflow, hboundaries, hscore, rfl⟩
  · show 0 ≤ min 9 (s.gameState.lives + 1)
      ∧ min 9 (s.gameState.lives + 1) ≤ 9
    omega
  · intro _
    show 1 ≤ min 9 (s.gameState.lives + 1)
    omega
  · rw [if_neg hdead']
    exact hphase
  · show (s.awardPoints (productAward s zone).points).player.isDying = false
    rw [hplayer]
    exact hlive

/-- An award is kept in the books. -/
theorem boundary_awarded (h : s.Books) (hlive : s.player.isDying = false)
    {zone : Int} (hend : zone ∈ StageBoundaryLedger.stageEndZones)
    (hunpaid : s.stageBoundaries.Unpaid zone) :
    (s.applyOriginalStageBoundaryIfNeeded zone).Books
      ∧ (s.applyOriginalStageBoundaryIfNeeded zone).player.isDying
        = false := by
  obtain ⟨hdead, hover⟩ := h.living hlive
  obtain ⟨counted, houtcome, hpaid, hothers, hstart, htook⟩ :=
    StageBoundaryLedger.outcome_unpaid s.gameState.lives
      GameConstants.maxLives GameState.startingAmmo
      GameState.startingGrenades (s.stageBoundaries.context s.stepCount)
      hend hunpaid
  obtain ⟨paid, hzones, hall⟩ := h.paid
  have hnotIn : zone ∉ paid := fun hin =>
    StageBoundaryLedger.not_paid_of_unpaid hunpaid (hall hover zone hin)
  obtain ⟨hledger, hkept⟩ := h.countAward hover hzones hpaid hothers
  have hcounted : ({ s with stageBoundaries := counted } : Scene).Books :=
    { h with
      ledger := hledger
      paid := ⟨paid, hzones, fun _ z hz =>
        hkept z (List.mem_cons_of_mem _ hz)⟩ }
  have haward : productAward { s with stageBoundaries := counted } zone
      = productAward s zone := by
    simp only [productAward, StageBoundaryLedger.context,
      StageBoundaryLedger.stageElapsedSteps, hstart, htook]
  have happlied := hcounted.applyAward hlive zone
  rw [haward] at happlied
  obtain ⟨hbooks, hlive', hhistory, hflow, hboundaries, hpoints, hlives⟩ :=
    happlied
  have heq : s.applyOriginalStageBoundaryIfNeeded zone
      = (({ s with stageBoundaries := counted } : Scene).applyAward
        (productAward s zone)).note (.boundary s.stepCount zone
          (.awarded (productAward s zone)) s.snapshot
          (({ s with stageBoundaries := counted } : Scene).applyAward
            (productAward s zone)).snapshot) := by
    unfold Scene.applyOriginalStageBoundaryIfNeeded
    rw [houtcome]
    rfl
  rw [heq]
  refine ⟨{ hbooks with phase := ?_, paid := ?_, lawful := ?_ }, hlive'⟩
  · rw [Scene.note, deathPhase_note, hbooks.phase, Option.bind_some,
      DeathPhase.read_boundary]
  · refine ⟨zone :: paid, ?_, fun _ => ?_⟩
    · simp only [Scene.note, paidZones_note]
      rw [hhistory, hzones, Option.bind_some]
      exact if_neg hnotIn
    · show ∀ z ∈ zone :: paid, StageBoundaryLedger.Paid
        (Scene.applyAward _ (productAward s zone)).stageBoundaries z
      rw [hboundaries]
      exact hkept
  · intro moment hmoment
    rcases List.mem_append.mp hmoment with hmoment | hmoment
    · exact hbooks.lawful moment hmoment
    · obtain rfl := List.mem_singleton.mp hmoment
      exact ⟨hend, productAward_points s zone, hpoints, hlives⟩

/-- A boundary pays an unpaid stage end, and nothing else. -/
theorem applyOriginalStageBoundaryIfNeeded (h : s.Books)
    (hlive : s.player.isDying = false) (zone : Int) :
    (s.applyOriginalStageBoundaryIfNeeded zone).Books
      ∧ (s.applyOriginalStageBoundaryIfNeeded zone).player.isDying
        = false := by
  by_cases hend : zone ∈ StageBoundaryLedger.stageEndZones
  · rcases h.ledger zone with hpaid | hunpaid
    · -- a repeated trigger
      have houtcome := StageBoundaryLedger.outcome_paid s.gameState.lives
        GameConstants.maxLives GameState.startingAmmo
        GameState.startingGrenades (s.stageBoundaries.context s.stepCount)
        hend hpaid
      rw [boundary_unchanged houtcome nofun]
      exact ⟨h.note (fun _ => DeathPhase.read_boundary _ _ _ _ _ _)
        (fun _ => rfl) rfl, hlive⟩
    · exact h.boundary_awarded hlive hend hunpaid
  · have houtcome := s.stageBoundaries.outcome_notEnd s.gameState.lives
      GameConstants.maxLives GameState.startingAmmo
      GameState.startingGrenades (s.stageBoundaries.context s.stepCount) hend
    rw [boundary_unchanged houtcome nofun]
    exact ⟨h.note (fun _ => DeathPhase.read_boundary _ _ _ _ _ _)
      (fun _ => rfl) rfl, hlive⟩

theorem checkScreenExit (h : s.Books) (hlive : s.player.isDying = false)
    (levels : Text → Level) (later : InputSnapshot) :
    (s.checkScreenExit levels later).Books := by
  obtain ⟨hboundary, hlive'⟩ :=
    h.applyOriginalStageBoundaryIfNeeded hlive s.gameState.zone
  unfold Scene.checkScreenExit
  split
  case isFalse => exact h
  case isTrue =>
    simp only
    split
    · exact hboundary.transition hlive' levels _ later
    · exact hboundary.enterContentComplete hlive' later

-- -------------------------------------------------------------- deaths

/-- A hit is blocked, or begins a death. -/
theorem hitPlayer (h : s.Books) : s.hitPlayer.Books := by
  unfold Scene.hitPlayer
  split
  · exact h
  split
  · exact h
  case isFalse hhurt =>
    have hlive : s.player.isDying = false := by
      rw [Bool.eq_false_iff]
      exact fun hdying => hhurt (.inl hdying)
    obtain ⟨hdead, hover⟩ := h.living hlive
    obtain ⟨paid, hzones, hall⟩ := h.paid
    have hphase := h.phase
    rw [if_neg hdead] at hphase
    exact { h with
      alive := fun _ => h.alive hover
      dying := by
        simp [Scene.note, Scene.changeFlow, Player.beginDeath, hlive]
      resumes := nofun
      phase := by
        simp only [Scene.note, Scene.changeFlow, deathPhase_note, hphase,
          Option.bind_some]
        rfl
      paid := by
        refine ⟨paid, ?_, fun _ => hall hover⟩
        simp only [Scene.note, Scene.changeFlow, paidZones_note, hzones,
          Option.bind_some]
        rfl
      lawful := by
        intro m hm
        rcases List.mem_append.mp hm with hm | hm
        · exact h.lawful m hm
        · obtain rfl := List.mem_singleton.mp hm
          trivial }

/-- With the books kept there is no high score left to record. -/
theorem enterGameOver_eq (hhigh : s.gameState.points
    ≤ s.gameState.highScore) (later : InputSnapshot) :
    s.enterGameOver later = { s with
      flowState := .gameOver
      invulnerability := 0
      persistence := s.persistence.clearCheckpoint
      hasSavedCheckpoint := false
      stageBoundaries := s.stageBoundaries.endPlaythrough
      history := s.history ++ [.gameOver s.gameState]
      menuFireWasPressed := later.fire } := by
  have hrecord (t : Scene) (ht : t.gameState = s.gameState) :
      t.recordHighScore = t := by
    unfold Scene.recordHighScore
    rw [ht, if_neg (by omega)]
  unfold Scene.enterGameOver
  simp only
  rw [hrecord]
  · rfl
  · rfl

/-- A settled death that takes the last life. -/
theorem settleDeath_last (hhigh : s.gameState.points
    ≤ s.gameState.highScore) (hlast : s.gameState.lives = 1)
    (later : InputSnapshot) :
    s.settleDeath later = { s with
      flowState := .gameOver
      gameState := { s.gameState with lives := 0 }
      invulnerability := 0
      deathGroundTimer := 0
      persistence := s.persistence.clearCheckpoint
      hasSavedCheckpoint := false
      stageBoundaries := s.stageBoundaries.endPlaythrough
      history := s.history ++ [.lifeLost s.gameState.lives 0]
        ++ [.gameOver { s.gameState with lives := 0 }] ++ [.deathEnded 0]
      menuFireWasPressed := later.fire } := by
  have hlose : max 0 (s.gameState.lives - 1) = 0 := by omega
  unfold Scene.settleDeath
  simp only [Scene.loseLife, Scene.note, hlose, if_true]
  rw [enterGameOver_eq (by exact hhigh)]

/-- The last life is lost. -/
theorem settleDeath_over (h : s.Books) (hdead : s.flowState = .playerDead)
    (hlast : s.gameState.lives = 1) (later : InputSnapshot) :
    (s.settleDeath later).Books := by
  have hphase := h.phase
  rw [if_pos hdead, hlast] at hphase
  obtain ⟨paid, hzones, _⟩ := h.paid
  rw [settleDeath_last h.high hlast]
  exact { h with
    lives := ⟨le_refl 0, (by decide : (0 : Int) ≤ 9)⟩
    alive := fun hflow => absurd rfl hflow
    dying := iff_of_true (h.dying.mpr (.inl hdead)) (.inr rfl)
    checkpoint := rfl
    resumes := nofun
    phase := by
      simp only [deathPhase_note, hphase, Option.bind_some, hlast]
      rfl
    ledger := fun zone => .inr (StageBoundaryLedger.cleared_unpaid rfl zone)
    paid := by
      refine ⟨paid, ?_, fun hflow => absurd rfl hflow⟩
      simp only [paidZones_note, hzones, Option.bind_some, payZone]
    lawful := by
      simp only [List.forall_mem_append, List.forall_mem_singleton]
      exact ⟨⟨⟨h.lawful, trivial⟩, trivial⟩, trivial⟩ }

/-- A settled death that leaves lives. -/
theorem settleDeath_more (hmore : 1 < s.gameState.lives)
    (later : InputSnapshot) :
    s.settleDeath later = s.loseLife.respawnPlayer.note
      (.deathEnded (s.gameState.lives - 1)) := by
  have hlose : max 0 (s.gameState.lives - 1) = s.gameState.lives - 1 := by
    omega
  unfold Scene.settleDeath
  simp only [Scene.loseLife, Scene.note, hlose,
    if_neg (show s.gameState.lives - 1 ≠ 0 by omega)]
  rfl

/-- A life is lost, and there are more. -/
theorem settleDeath_respawn (h : s.Books)
    (hdead : s.flowState = .playerDead) (hmore : 1 < s.gameState.lives)
    (later : InputSnapshot) : (s.settleDeath later).Books := by
  have hlives := h.lives
  have hlose : max 0 (s.gameState.lives - 1) = s.gameState.lives - 1 := by
    omega
  have hphase := h.phase
  rw [if_pos hdead] at hphase
  obtain ⟨paid, hzones, hall⟩ := h.paid
  have hpaid := hall (by rw [hdead]; nofun)
  rw [settleDeath_more hmore]
  simp only [Scene.loseLife, Scene.note, hlose]
  exact { h with
    ammo := ⟨(by decide : (0 : Int) ≤ 99), le_refl 99⟩
    grenades := ⟨(by decide : (0 : Int) ≤ 10), le_refl 10⟩
    lives := by
      show 0 ≤ s.gameState.lives - 1 ∧ s.gameState.lives - 1 ≤ 9
      omega
    alive := by
      intro _
      show 1 ≤ s.gameState.lives - 1
      omega
    dying := iff_of_false Bool.false_ne_true nofun
    checkpoint := rfl
    resumes := nofun
    phase := by
      simp only [respawnPlayer, Scene.changeFlow, Scene.saveCheckpoint,
        deathPhase_note, hphase, Option.bind_some]
      simp [DeathPhase.read]
    paid := by
      refine ⟨paid, ?_, fun _ => hpaid⟩
      simp only [respawnPlayer, Scene.changeFlow, Scene.saveCheckpoint,
        paidZones_note, hzones, Option.bind_some, payZone]
    lawful := by
      simp only [respawnPlayer, Scene.changeFlow, Scene.saveCheckpoint,
        List.forall_mem_append, List.forall_mem_singleton]
      exact ⟨⟨h.lawful, trivial⟩, trivial⟩ }

/-- A death is settled: the life is paid, and the player respawns or the
game is over. -/
theorem settleDeath (h : s.Books) (hdead : s.flowState = .playerDead)
    (later : InputSnapshot) : (s.settleDeath later).Books := by
  have halive := h.alive (by rw [hdead]; nofun)
  by_cases hlast : s.gameState.lives = 1
  · exact h.settleDeath_over hdead hlast later
  · exact h.settleDeath_respawn hdead (by omega) later

theorem updateDeathSequence (h : s.Books) (hover : s.flowState ≠ .gameOver)
    (dt : Rat) (later : InputSnapshot) :
    (s.updateDeathSequence dt later).Books := by
  unfold Scene.updateDeathSequence
  split
  case isFalse => exact h
  case isTrue hdying =>
    have hdead : s.flowState = .playerDead := by
      rcases h.dying.mp hdying with hdead | hgone
      · exact hdead
      · exact absurd hgone hover
    split
    · simp only
      split
      · exact h.settleDeath hdead later
      · exact { h with }
    · exact { h with }

-- ------------------------------------------------------------- weapons

theorem fireBlaster (h : s.Books) (input : InputSnapshot) :
    (s.fireBlaster input).Books := by
  have hammo := h.ammo
  unfold Scene.fireBlaster
  split
  case isFalse => exact h
  case isTrue hfire =>
    simp only [Bool.and_eq_true, decide_eq_true_eq] at hfire
    exact { h with
      ammo := by
        simp only
        omega }

theorem throwGrenade (h : s.Books) (input : InputSnapshot) :
    (s.throwGrenade input).Books := by
  have hgrenades := h.grenades
  unfold Scene.throwGrenade
  split
  case isFalse => exact h
  case isTrue hthrow =>
    simp only [Bool.and_eq_true, decide_eq_true_eq] at hthrow
    exact { h with
      grenades := by
        simp only
        omega
      oneGrenade := by
        simp only
        omega }

theorem updateWeapons (h : s.Books) (input : InputSnapshot) :
    (s.updateWeapons input).Books :=
  { (h.fireBlaster input).throwGrenade input with }

-- ------------------------------------------ projectiles, pickups, hazards

/-- Nothing that happens to a scene in between breaks its books. -/
theorem worldInvariant : WorldInvariant Books where
  awardPoints := fun h value => h.awardPoints value
  hitPlayer := fun h => h.hitPlayer
  refillGrenades := fun h =>
    { h with grenades := ⟨(by decide : (0 : Int) ≤ 10), le_refl 10⟩ }
  refillAmmo := fun h =>
    { h with ammo := ⟨(by decide : (0 : Int) ≤ 99), le_refl 99⟩ }
  shots := fun h _ _ _ hcount =>
    { h with oneGrenade := hcount.trans h.oneGrenade }

-- --------------------------------------------------------------- menus

theorem updateTitle (h : s.Books) (htitle : s.flowState = .title)
    (input : InputSnapshot) : (s.updateTitle input).Books := by
  have hlive : s.player.isDying = false := by
    apply h.not_dying
    · rw [htitle]
      nofun
    · rw [htitle]
      nofun
  have hlatched : ({ s with
      menuFireWasPressed := input.fire } : Scene).Books := { h with }
  unfold Scene.updateTitle
  simp only
  split
  · exact hlatched.beginFromTitle hlive input
  · exact hlatched

theorem updatePaused (h : s.Books) (hpaused : s.flowState = .paused)
    (levels : Text → Level) (input : InputSnapshot) :
    (s.updatePaused levels input).Books := by
  have hselected : (s.selectPauseLine input).Books := { h with }
  have hlatched : ({ s.selectPauseLine input with
      pauseConfirmWasPressed := input.fire } : Scene).Books :=
    { hselected with }
  have hdead : s.flowState ≠ .playerDead := by
    rw [hpaused]
    nofun
  unfold Scene.updatePaused
  simp only
  split
  · unfold Scene.confirmPauseLine
    split
    · exact hlatched.restartFromBeginning levels hdead input
    · exact { hlatched with }
  · exact hlatched

theorem updateGameOver (h : s.Books) (hover : s.flowState = .gameOver)
    (levels : Text → Level) (input : InputSnapshot) :
    (s.updateGameOver levels input).Books := by
  have hlatched : ({ s with
      menuFireWasPressed := input.fire } : Scene).Books := { h with }
  have hdead : s.flowState ≠ .playerDead := by
    rw [hover]
    nofun
  unfold Scene.updateGameOver
  simp only
  split
  · exact hlatched.restartFromBeginning levels hdead input
  · exact hlatched

theorem updateContentComplete (h : s.Books)
    (hcomplete : s.flowState = .contentComplete) (input : InputSnapshot) :
    (s.updateContentComplete input).Books := by
  have hlive : s.player.isDying = false := by
    apply h.not_dying
    · rw [hcomplete]
      nofun
    · rw [hcomplete]
      nofun
  have hlatched : ({ s with
      menuFireWasPressed := input.fire } : Scene).Books := { h with }
  unfold Scene.updateContentComplete
  simp only
  split
  · exact hlatched.showTitleAfterContentComplete hlive input
  · exact hlatched

theorem consumePausePress (h : s.Books) (input : InputSnapshot) :
    (s.consumePausePress input).Books := by
  unfold Scene.consumePausePress
  split
  · exact h.enterPause input
  split
  · exact h.leavePause input
  · exact h

-- -------------------------------------------------------- a step of play

theorem updateInvulnerability (h : s.Books) (dt : Rat) :
    (s.updateInvulnerability dt).Books := by
  have hrun : ({ s with
      invulnerability := max 0 (s.invulnerability - dt) } : Scene).Books :=
    { h with }
  unfold Scene.updateInvulnerability
  split
  case isFalse => exact h
  case isTrue =>
    unfold Scene.endRespawn
    split
    case isFalse => exact hrun
    case isTrue hend =>
      have hflow : s.flowState = .respawning := hend.2
      apply hrun.changeFlow _ .playing nofun nofun nofun
      apply h.not_dying
      · rw [hflow]
        nofun
      · rw [hflow]
        nofun

theorem changeSuit (h : s.Books) : s.changeSuit.Books := by
  have hdying : s.player.toggleExoskeleton.isDying = s.player.isDying := by
    unfold Player.toggleExoskeleton
    split <;> rfl
  obtain ⟨paid, hzones, hall⟩ := h.paid
  unfold Scene.changeSuit
  simp only
  split
  · exact { h with
      dying := by
        rw [hdying]
        exact h.dying
      paid := ⟨paid, hzones, hall⟩ }
  · exact { h with
      dying := by
        rw [hdying]
        exact h.dying }

theorem updateContext (h : s.Books) (input : InputSnapshot)
    (around : Surroundings) : (s.updateContext input around).Books := by
  have hlatched : ({ s with
      sceneJumpWasPressed := input.jump } : Scene).Books := { h with }
  unfold Scene.updateContext
  simp only
  split
  · exact hlatched.changeSuit
  · exact hlatched

theorem updateMotion (h : s.Books) (dt : Rat) (i : StepInput) :
    (s.updateMotion dt i).Books := by
  have hkeys : ({ s.updateInvulnerability dt with
      showHitboxes := if i.rawInput.debugHitboxes && !(s.updateInvulnerability
        dt).debugWasPressed then !(s.updateInvulnerability dt).showHitboxes
        else (s.updateInvulnerability dt).showHitboxes
      debugWasPressed := i.rawInput.debugHitboxes } : Scene).Books :=
    { h.updateInvulnerability dt with }
  exact { hkeys.updateContext i.rawInput i.around with }

/-- What precedes the projectiles ends no game. -/
theorem updateMotion_notOver (hover : s.flowState ≠ .gameOver) (dt : Rat)
    (i : StepInput) : (s.updateMotion dt i).flowState ≠ .gameOver := by
  have hcontext (t : Scene) (input : InputSnapshot) (around : Surroundings) :
      (t.updateContext input around).flowState = t.flowState := by
    unfold Scene.updateContext
    simp only
    split <;> rfl
  show (Scene.updateContext _ i.rawInput i.around).flowState ≠ _
  rw [hcontext]
  show (s.updateInvulnerability dt).flowState ≠ _
  unfold Scene.updateInvulnerability Scene.endRespawn
  split
  case isFalse => exact hover
  case isTrue =>
    split
    · nofun
    · exact hover

theorem updateBody (h : s.Books) (hover : s.flowState ≠ .gameOver)
    (dt : Rat) (i : StepInput) : (s.updateBody dt i).Books := by
  have hlatched : ({ s with
      fireWasPressed := i.rawInput.fire
      grenadeWasPressed := i.rawInput.grenade } : Scene).Books := { h with }
  have halive : ({ s with deathGroundTimer := 0 } : Scene).Books :=
    { h with }
  unfold Scene.updateBody
  split
  · exact hlatched.updateDeathSequence hover dt i.laterInput
  · exact halive.updateWeapons i.rawInput

theorem meetWorld (h : s.Books) (around : Surroundings) :
    (s.meetWorld around).Books :=
  worldInvariant.meetWorld h around

theorem updateWorld (h : s.Books) (levels : Text → Level) (i : StepInput) :
    (s.updateWorld levels i).Books := by
  have hmet := h.meetWorld i.around
  unfold Scene.updateWorld
  simp only
  split
  case isTrue => exact hmet
  case isFalse hlive =>
    rw [Bool.not_eq_true] at hlive
    exact hmet.checkScreenExit hlive levels i.laterInput

theorem fixedUpdate (h : s.Books) (levels : Text → Level) (dt : Rat)
    (i : StepInput) : (s.fixedUpdate levels dt i).Books := by
  have hplay (hover : s.flowState ≠ .gameOver) :
      (s.updatePlay levels dt i).Books :=
    ((h.updateMotion dt i).updateBody (updateMotion_notOver hover dt i) dt
      i).updateWorld levels i
  unfold Scene.fixedUpdate
  split
  case isTrue => exact h.consumePausePress i.rawInput
  case isFalse =>
    split
    case h_1 htitle => exact h.updateTitle htitle i.rawInput
    case h_2 hpaused => exact h.updatePaused hpaused levels i.rawInput
    case h_3 hover => exact h.updateGameOver hover levels i.rawInput
    case h_4 hcomplete => exact h.updateContentComplete hcomplete i.rawInput
    case h_5 hplaying => exact hplay (by rw [hplaying]; nofun)
    case h_6 hdead => exact hplay (by rw [hdead]; nofun)
    case h_7 hrespawning => exact hplay (by rw [hrespawning]; nofun)

-- ------------------------------------------------------------------ runs

theorem didMove_warp (levels : Text → Level) (persistence : GamePersistence)
    (target : Text) (later : InputSnapshot) :
    Scene.didMove levels persistence (some target) later
      = if includedLevels.contains target then
          ((Scene.didMove levels persistence none later).transition levels
            target later).changeFlow .title
        else Scene.didMove levels persistence none later := rfl

/-- A launch opens the books. -/
theorem didMove (levels : Text → Level) (persistence : GamePersistence)
    (warp : Option Text) (later : InputSnapshot) :
    (Scene.didMove levels persistence warp later).Books := by
  have hnone : (Scene.didMove levels persistence none later).Books := {
    points := ⟨le_refl 0, (by decide : (0 : Int) ≤ 999999)⟩
    high := le_max_left _ _
    saved := rfl
    ammo := ⟨(by decide : (0 : Int) ≤ 99), le_refl 99⟩
    grenades := ⟨(by decide : (0 : Int) ≤ 10), le_refl 10⟩
    lives := ⟨(by decide : (0 : Int) ≤ 9), le_refl 9⟩
    alive := fun _ => (by decide : (1 : Int) ≤ 9)
    dying := iff_of_false Bool.false_ne_true nofun
    oneGrenade := Nat.zero_le 1
    checkpoint := rfl
    resumes := nofun
    phase := rfl
    ledger := fun zone => .inr (StageBoundaryLedger.cleared_unpaid rfl zone)
    paid := ⟨[], rfl, fun _ => List.forall_mem_nil _⟩
    lawful := List.forall_mem_nil Moment.Lawful }
  cases warp with
  | none => exact hnone
  | some target =>
      rw [didMove_warp]
      split
      · have hlive : (Scene.didMove levels persistence none
            later).player.isDying = false := rfl
        have hentered := hnone.transition hlive levels target later
        have hlive' := transition_isDying (Scene.didMove levels persistence
          none later) levels target later
        exact hentered.changeFlow hlive' .title nofun nofun nofun
      · exact hnone

theorem step {levels : Text → Level} {s t : Scene} {i : StepInput}
    (h : s.Books) (hstep : Scene.step levels s i = some t) : t.Books := by
  obtain rfl := Option.some.inj hstep
  have hcounted : ({ s with stepCount := s.stepCount + 1 } : Scene).Books :=
    { h with }
  exact hcounted.fixedUpdate levels GameConstants.fixedTimeStep i

/-- Every state of every run keeps the books. -/
theorem of_reaches {levels : Text → Level} {persistence : GamePersistence}
    {warp : Option Text} {later : InputSnapshot} {inputs : List StepInput}
    {s : Scene} (h : Reaches levels persistence warp later inputs s) :
    s.Books :=
  Run.run_invariant (fun hbooks hstep => hbooks.step hstep)
    (didMove levels persistence warp later) h

end Books

end Scene

end Exolon

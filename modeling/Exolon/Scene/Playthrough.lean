/-
What the books say of whole runs.

The stage bonus of a zone is paid at most once between two starts of a
playthrough, a repeated trigger changes nothing, and every payment is the
product's amount at the lives held before the life it gives. The resources
of the HUD stay in their bounds, and the deaths of a run are complete:
begun, one life lost, ended.

Both results are read off `Books`; what is left to show is what the two
machines that read a history accept.
-/
import Exolon.Scene.Books

namespace Exolon

-- =========================================================== stage bonuses

/-- A moment that starts no playthrough takes no zone from the paid. -/
theorem payZone_keeps {paid paid' : List Int} {moment : Moment} {zone : Int}
    (hmoment : moment ≠ .playthrough) (hpay : payZone paid moment = some paid')
    (hzone : zone ∈ paid) : zone ∈ paid' := by
  cases moment with
  | playthrough => exact absurd rfl hmoment
  | boundary step other outcome before after =>
      cases outcome with
      | awarded award =>
          simp only [payZone] at hpay
          split at hpay
          case isTrue => cases hpay
          case isFalse =>
            obtain rfl := Option.some.inj hpay
            exact List.mem_cons_of_mem _ hzone
      | suppressed completed reason =>
          obtain rfl := Option.some.inj hpay
          exact hzone
      | notApplicable =>
          obtain rfl := Option.some.inj hpay
          exact hzone
  | deathBegan lives =>
      obtain rfl := Option.some.inj hpay
      exact hzone
  | lifeLost before after =>
      obtain rfl := Option.some.inj hpay
      exact hzone
  | deathEnded lives =>
      obtain rfl := Option.some.inj hpay
      exact hzone
  | gameOver final =>
      obtain rfl := Option.some.inj hpay
      exact hzone

theorem payZones_keep {zone : Int} :
    ∀ {between : List Moment} {paid paid' : List Int},
      (∀ moment ∈ between, moment ≠ .playthrough) →
      between.foldlM payZone paid = some paid' → zone ∈ paid →
      zone ∈ paid' := by
  intro between
  induction between with
  | nil =>
      intro paid paid' _ hfold hzone
      obtain rfl := Option.some.inj hfold
      exact hzone
  | cons moment rest ih =>
      intro paid paid' hnone hfold hzone
      obtain ⟨paid₁, hpay, hrest⟩ := Option.bind_eq_some_iff.mp hfold
      have hzone₁ := payZone_keeps (hnone moment List.mem_cons_self) hpay
        hzone
      exact ih (fun m hm => hnone m (List.mem_cons_of_mem _ hm)) hrest hzone₁

/-- The machine refuses a zone paid in the same playthrough. -/
theorem not_paid_twice {earlier between rest : List Moment}
    {step again zone : Int} {award award' : StageBoundaryAward}
    {before after before' after' : Snapshot} {paid : List Int}
    (hnone : ∀ moment ∈ between, moment ≠ .playthrough)
    (hzones : paidZones (earlier
      ++ .boundary step zone (.awarded award) before after
      :: (between ++ .boundary again zone (.awarded award') before' after'
      :: rest)) = some paid) : False := by
  rw [paidZones, List.foldlM_append] at hzones
  obtain ⟨paid₁, _, hzones⟩ := Option.bind_eq_some_iff.mp hzones
  rw [List.foldlM_cons] at hzones
  obtain ⟨paid₂, hpay, hzones⟩ := Option.bind_eq_some_iff.mp hzones
  have hin : zone ∈ paid₂ := by
    simp only [payZone] at hpay
    split at hpay
    · cases hpay
    · obtain rfl := Option.some.inj hpay
      exact List.mem_cons_self
  rw [List.foldlM_append] at hzones
  obtain ⟨paid₃, hbetween, hzones⟩ := Option.bind_eq_some_iff.mp hzones
  rw [List.foldlM_cons] at hzones
  obtain ⟨paid₄, hpay', _⟩ := Option.bind_eq_some_iff.mp hzones
  have hin' := payZones_keep hnone hbetween hin
  simp only [payZone] at hpay'
  rw [if_pos hin'] at hpay'
  cases hpay'

/-- A lawful trigger that pays nothing changes nothing. -/
theorem Moment.Lawful.unchanged {step zone : Int}
    {outcome : StageBoundaryOutcome} {before after : Snapshot}
    (h : (Moment.boundary step zone outcome before after).Lawful)
    (hnone : ∀ award, outcome ≠ .awarded award) : after = before := by
  cases outcome with
  | awarded award => exact absurd rfl (hnone award)
  | suppressed completed reason => exact h
  | notApplicable => exact h

-- ================================================================== deaths

/-- The moments of a death that takes the last of `lives`. -/
def death (lives : Int) : List Moment :=
  [.deathBegan lives, .lifeLost lives (lives - 1), .deathEnded (lives - 1)]

/-- The moments deaths are made of. -/
def Moment.ofDeath : Moment → Bool
  | .deathBegan _ | .lifeLost .. | .deathEnded _ => true
  | .playthrough | .boundary .. | .gameOver _ => false

/-- What a death that has not ended has shown. -/
def DeathPhase.shown : DeathPhase → List Moment
  | .idle => []
  | .dying lives => [.deathBegan lives]
  | .lost lives => [.deathBegan (lives + 1), .lifeLost (lives + 1) lives]

/-- One more moment of complete deaths and an open one. -/
theorem DeathPhase.read_shown {phase phase' : DeathPhase} {moment : Moment}
    (hread : phase.read moment = some phase') (hdeath : moment.ofDeath) :
    ∃ deaths : List Int, phase.shown ++ [moment]
      = deaths.flatMap death ++ phase'.shown := by
  cases phase with
  | idle =>
      cases moment with
      | deathBegan lives =>
          obtain rfl := Option.some.inj hread
          exact ⟨[], rfl⟩
      | lifeLost before after => cases hread
      | deathEnded final => cases hread
      | playthrough => cases hdeath
      | boundary step zone outcome before after =>
          cases hdeath
      | gameOver final => cases hdeath
  | dying lives =>
      cases moment with
      | deathBegan lives => cases hread
      | lifeLost before after =>
          simp only [DeathPhase.read] at hread
          split at hread
          case isFalse => cases hread
          case isTrue hone =>
            obtain ⟨rfl, rfl⟩ := hone
            obtain rfl := Option.some.inj hread
            refine ⟨[], ?_⟩
            simp [DeathPhase.shown]
      | deathEnded final => cases hread
      | playthrough => cases hdeath
      | boundary step zone outcome before after =>
          cases hdeath
      | gameOver final => cases hdeath
  | lost lives =>
      cases moment with
      | deathBegan lives => cases hread
      | lifeLost before after => cases hread
      | deathEnded final =>
          simp only [DeathPhase.read] at hread
          split at hread
          case isFalse => cases hread
          case isTrue hfinal =>
            obtain rfl := hfinal
            obtain rfl := Option.some.inj hread
            refine ⟨[final + 1], ?_⟩
            simp [DeathPhase.shown, death]
      | playthrough => cases hdeath
      | boundary step zone outcome before after =>
          cases hdeath
      | gameOver final => cases hdeath

/-- A moment of no death is passed over. -/
theorem DeathPhase.read_other {phase phase' : DeathPhase} {moment : Moment}
    (hread : phase.read moment = some phase') (hdeath : ¬moment.ofDeath) :
    phase' = phase := by
  cases moment with
  | deathBegan lives => exact absurd rfl hdeath
  | lifeLost before after => exact absurd rfl hdeath
  | deathEnded final => exact absurd rfl hdeath
  | playthrough =>
      rw [DeathPhase.read_playthrough] at hread
      exact (Option.some.inj hread).symm
  | boundary step zone outcome before after =>
      rw [DeathPhase.read_boundary] at hread
      exact (Option.some.inj hread).symm
  | gameOver final =>
      rw [DeathPhase.read_gameOver] at hread
      exact (Option.some.inj hread).symm

/-- An accepted history is complete deaths, and at most one open. -/
theorem deaths_complete {history : List Moment} {phase : DeathPhase}
    (h : deathPhase history = some phase) :
    ∃ deaths : List Int, history.filter Moment.ofDeath
      = deaths.flatMap death ++ phase.shown := by
  induction history using List.reverseRecOn generalizing phase with
  | nil =>
      obtain rfl := Option.some.inj h
      exact ⟨[], rfl⟩
  | append_singleton history moment ih =>
      rw [deathPhase_note] at h
      obtain ⟨before, hbefore, hread⟩ := Option.bind_eq_some_iff.mp h
      obtain ⟨deaths, hdeaths⟩ := ih hbefore
      rw [List.filter_append, hdeaths]
      by_cases hdeath : moment.ofDeath = true
      · obtain ⟨more, hmore⟩ := DeathPhase.read_shown hread hdeath
        refine ⟨deaths ++ more, ?_⟩
        rw [List.filter_cons_of_pos hdeath, List.filter_nil,
          List.append_assoc, hmore, List.flatMap_append, List.append_assoc]
      · obtain rfl := DeathPhase.read_other hread hdeath
        refine ⟨deaths, ?_⟩
        rw [List.filter_cons_of_neg hdeath, List.filter_nil, List.append_nil]

namespace Scene

section Runs

variable {levels : Text → Level} {persistence : GamePersistence}
  {warp : Option Text} {later : InputSnapshot} {inputs : List StepInput}
  {s : Scene}

-- ==================================================================== runs

/-- A zone that has paid its bonus pays no other, and changes nothing,
until a playthrough starts; and what it pays is a thousand for each life
held before the trigger, bravery, and the ladder. -/
theorem stageBonus_once
    (h : Reaches levels persistence warp later inputs s) :
    (∀ earlier between rest step again zone award outcome before after
        before' after',
      s.history = earlier
        ++ .boundary step zone (.awarded award) before after
        :: (between ++ .boundary again zone outcome before' after' :: rest) →
      (∀ moment ∈ between, moment ≠ .playthrough) →
      (∀ award', outcome ≠ .awarded award') ∧ after' = before')
    ∧ ∀ step zone award before after,
      .boundary step zone (.awarded award) before after ∈ s.history →
      zone ∈ StageBoundaryLedger.stageEndZones
      ∧ award.points = before.gameState.lives * 1000
        + (if before.stageBoundaries.tookExoskeletonInStage then 0
          else 10000)
        + GameConstants.timedBonusLadder.getD (min 4
          (before.stageBoundaries.stageElapsedSteps step / 1800).toNat) 0
      ∧ after.gameState.points
        = min 999999 (before.gameState.points + award.points)
      ∧ after.gameState.lives = min 9 (before.gameState.lives + 1) := by
  have hbooks := Books.of_reaches h
  obtain ⟨paid, hzones, _⟩ := hbooks.paid
  constructor
  · intro earlier between rest step again zone award outcome before after
      before' after' hhistory hnone
    have hunpaid : ∀ award', outcome ≠ .awarded award' := by
      rintro award' rfl
      rw [hhistory] at hzones
      exact not_paid_twice hnone hzones
    have hmember : .boundary again zone outcome before' after'
        ∈ s.history := by
      rw [hhistory]
      simp
    exact ⟨hunpaid, (hbooks.lawful _ hmember).unchanged hunpaid⟩
  · intro step zone award before after hmember
    exact hbooks.lawful _ hmember

/-- A player that stands at `x`, with FIRE held or not. -/
private def standing (x : Rat) (fire : Bool) : StepInput where
  rawInput := { fire := fire }
  around := { x := x, isGrounded := true }

/-- A player parked beyond the exit of the last zone of a stage goes
through the title and triggers again: two triggers, one bonus. -/
theorem stageBonus_once_parked : ∃ s,
    Reaches (fun _ => ⟨[], 16⟩) ⟨none, 0⟩
      (some ['L', '0', '1', 'S', '2', '5']) {}
      [standing 16 true, standing 511 false, standing 511 true,
        standing 511 false, standing 511 true, standing 511 false] s
    ∧ s.history.length = 2 ∧ s.gameState.points = 26000
    ∧ ∀ step zone award before after,
      .boundary step zone (.awarded award) before after ∈ s.history →
      zone ∈ StageBoundaryLedger.stageEndZones := by
  have hend : (Run.run (step fun _ => ⟨[], 16⟩)
      (didMove (fun _ => ⟨[], 16⟩) ⟨none, 0⟩
        (some ['L', '0', '1', 'S', '2', '5']) {})
      [standing 16 true, standing 511 false, standing 511 true,
        standing 511 false, standing 511 true, standing 511 false]).map
      (fun s => (s.history.length, s.gameState.points))
      = some (2, 26000) := by decide +kernel
  obtain ⟨s, hrun, hvalues⟩ := Option.map_eq_some_iff.mp hend
  obtain ⟨hlength, hpoints⟩ := Prod.mk.inj hvalues
  refine ⟨s, hrun, hlength, hpoints, ?_⟩
  intro step zone award before after hmember
  exact ((stageBonus_once hrun).2 step zone award before after hmember).1

/-- The resources of the HUD, what is stored and the flow of the dead, in
every state; and every death takes exactly one life. -/
theorem resources_bounded
    (h : Reaches levels persistence warp later inputs s) :
    (0 ≤ s.gameState.points ∧ s.gameState.points ≤ 999999)
    ∧ s.gameState.points ≤ s.gameState.highScore
    ∧ s.gameState.highScore = s.persistence.loadHighScore
    ∧ (0 ≤ s.gameState.ammo ∧ s.gameState.ammo ≤ 99)
    ∧ (0 ≤ s.gameState.grenades ∧ s.gameState.grenades ≤ 10)
    ∧ (0 ≤ s.gameState.lives ∧ s.gameState.lives ≤ 9)
    ∧ (s.flowState ≠ .gameOver → 1 ≤ s.gameState.lives)
    ∧ (s.player.isDying = true
      ↔ s.flowState = .playerDead ∨ s.flowState = .gameOver)
    ∧ s.grenades ≤ 1
    ∧ s.hasSavedCheckpoint = s.persistence.checkpoint.isSome
    ∧ ∃ deaths : List Int, s.history.filter Moment.ofDeath
      = deaths.flatMap death ++ if s.flowState = .playerDead
        then [.deathBegan s.gameState.lives] else [] := by
  have hbooks := Books.of_reaches h
  obtain ⟨deaths, hdeaths⟩ := deaths_complete hbooks.phase
  refine ⟨hbooks.points, hbooks.high, hbooks.saved, hbooks.ammo,
    hbooks.grenades, hbooks.lives, hbooks.alive, hbooks.dying,
    hbooks.oneGrenade, hbooks.checkpoint, deaths, ?_⟩
  rw [hdeaths]
  by_cases hdead : s.flowState = .playerDead
  · rw [if_pos hdead, if_pos hdead]
    rfl
  · rw [if_neg hdead, if_neg hdead]
    rfl

end Runs

/-- A game in its first death. -/
theorem resources_bounded_firstDeath : ∃ s,
    Reaches (fun _ => ⟨[], 16⟩) ⟨none, 0⟩ none {}
      [standing 16 true, { standing 16 false with
        around := { (standing 16 false).around with
          inSourceHazard := true } }] s
    ∧ s.flowState = .playerDead ∧ 1 ≤ s.gameState.lives := by
  have hend : (Run.run (step fun _ => ⟨[], 16⟩)
      (didMove (fun _ => ⟨[], 16⟩) ⟨none, 0⟩ none {})
      [standing 16 true, { standing 16 false with
        around := { (standing 16 false).around with
          inSourceHazard := true } }]).map flowState
      = some .playerDead := by decide +kernel
  obtain ⟨s, hrun, hdead⟩ := Option.map_eq_some_iff.mp hend
  refine ⟨s, hrun, hdead, ?_⟩
  exact (resources_bounded hrun).2.2.2.2.2.2.1 (by rw [hdead]; nofun)

end Scene

end Exolon

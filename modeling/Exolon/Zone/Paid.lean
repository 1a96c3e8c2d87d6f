/-
What a zone pays.

A hit takes objects: the projectile, and the entity unless it is a beam
field. Objects are taken while they are live and are never live again, so no
object is taken twice (`Spend.Spent`). `payments` is the price list; the
invariant `Paid` says that what was awarded is what the hits are worth, that
what was hit is gone, and that the pools of the beam fields are what their
hits have left.
-/
import Exolon.Zone.Zone

namespace Exolon.Zones

open Spend (Holding Later Spent)

-- ============================================================= the prices

namespace Hit

/-- The objects that a hit takes. -/
def takes : Hit → List Ref
  | .grenade id block => [⟨.grenade, id⟩, block]
  | .guidance id station _ => [⟨.grenade, id⟩, ⟨.guidance, station⟩]
  | .beam id _ => [⟨.bullet, id⟩]
  | .shot id hostile => [⟨.bullet, id⟩, ⟨.enemyBullet, hostile⟩]
  | .creature (some id) met => [⟨.bullet, id⟩, met]
  | .creature none met => [met]
  | .launcher id => [⟨.doubleLauncher, id⟩]

/-- A hit of this beam field, by any side. -/
def isBeam (field : Nat) : Hit → Bool
  | .beam _ hit => hit = field
  | _ => false

end Hit

/-- How often a beam field was hit. -/
def beamHits (field : Nat) (hits : List Hit) : Nat :=
  hits.countP (Hit.isBeam field)

/-- What a hit is worth after the ones before it. -/
def price (earlier : List Hit) : Hit → List (Int × Reason)
  | .grenade _ _ => [(150, .grenadeKill)]
  | .guidance _ _ missile =>
      [(if missile then 150 + 850 else 150, .guidance)]
  | .beam _ field =>
      if beamHits field earlier + 1 = 25 then [(1000, .forceField)] else []
  | .shot _ _ => [(50, .blasterShotdown)]
  | .creature _ creature =>
      if creature.kind = .egg then [(50, .egg)] else [(150, .bubble)]
  | .launcher _ => [(1000, .launcher)]

/-- What hits are worth, the latest first. -/
def payments : List Hit → List (Int × Reason)
  | [] => []
  | hit :: earlier => price earlier hit ++ payments earlier

-- =============================================================== references

namespace Zone

variable {s t u : Zone}

/-- The object can still be struck; of a launcher, its region still pays. -/
def Live (s : Zone) (r : Ref) : Prop :=
  if r.kind = .doubleLauncher then
    ∃ launcher ∈ s.doubleLaunchers, launcher.id = r.id
      ∧ launcher.bonusState.bonusCollected = false
  else s.alive r = true

def holding (s : Zone) : Holding Ref where
  Known := fun r => r.id < s.next
  Live := s.Live

theorem live_iff {r : Ref} (h : r.kind ≠ .doubleLauncher) :
    s.Live r ↔ ∃ o ∈ s.objects r.kind, o.id = r.id ∧ o.isAlive = true := by
  unfold Live alive
  rw [if_neg h]
  simp

@[simp] theorem setObjects_same (s : Zone) (kind : Kind)
    (list : List Object) : (s.setObjects kind list).objects kind = list :=
  Function.update_self ..

theorem setObjects_ne (s : Zone) {kind other : Kind} (list : List Object)
    (h : other ≠ kind) :
    (s.setObjects kind list).objects other = s.objects other :=
  Function.update_of_ne h ..

/-- Liveness only reads the objects of the kind. -/
theorem live_congr {r : Ref} (hobjects : t.objects r.kind = s.objects r.kind)
    (hlaunchers : t.doubleLaunchers = s.doubleLaunchers) :
    t.Live r ↔ s.Live r := by
  unfold Live alive
  rw [hobjects, hlaunchers]

theorem alive_live {r : Ref} (hkind : r.kind ≠ .doubleLauncher) :
    s.alive r = true ↔ s.Live r := by
  unfold Live
  rw [if_neg hkind]

theorem destroy_live {r x : Ref} (hkind : r.kind ≠ .doubleLauncher) :
    (s.destroy r).Live x ↔ s.Live x ∧ x ≠ r := by
  unfold destroy
  by_cases hsame : x.kind = r.kind
  · rw [live_iff (by rw [hsame]; exact hkind),
      live_iff (by rw [hsame]; exact hkind), hsame, setObjects_same]
    constructor
    · rintro ⟨o, ho, hid, halive⟩
      obtain ⟨old, hold, rfl⟩ := List.mem_map.mp ho
      by_cases heq : old.id = r.id
      · rw [if_pos heq] at halive
        cases halive
      · rw [if_neg heq] at hid halive
        refine ⟨⟨old, hold, hid, halive⟩, ?_⟩
        intro hx
        rw [hx] at hid
        exact heq hid
    · rintro ⟨⟨o, ho, hid, halive⟩, hne⟩
      have hother : o.id ≠ r.id := by
        intro heq
        apply hne
        cases x
        cases r
        simp_all
      refine ⟨o, List.mem_map.mpr ⟨o, ho, ?_⟩, hid, halive⟩
      rw [if_neg hother]
  · have hne : x ≠ r := by
      intro heq
      rw [heq] at hsame
      exact hsame rfl
    rw [live_congr (setObjects_ne _ _ hsame) rfl]
    exact ⟨fun h => ⟨h, hne⟩, fun h => h.1⟩

theorem sweep_live {kind : Kind} {x : Ref}
    (hkind : kind ≠ .doubleLauncher) : (s.sweep kind).Live x ↔ s.Live x := by
  unfold sweep
  by_cases hsame : x.kind = kind
  · rw [live_iff (by rw [hsame]; exact hkind),
      live_iff (by rw [hsame]; exact hkind), hsame, setObjects_same]
    constructor
    · rintro ⟨o, ho, hid, halive⟩
      exact ⟨o, (List.mem_filter.mp ho).1, hid, halive⟩
    · rintro ⟨o, ho, hid, halive⟩
      exact ⟨o, List.mem_filter.mpr ⟨ho, halive⟩, hid, halive⟩
  · exact live_congr (setObjects_ne _ _ hsame) rfl

theorem append_live {kind : Kind} {shot : ShotKind} {x : Ref}
    (hkind : kind ≠ .doubleLauncher) :
    (s.append kind shot).Live x ↔ s.Live x ∨ x = ⟨kind, s.next⟩ := by
  by_cases hsame : x.kind = kind
  · have hobjects : (s.append kind shot).objects x.kind
        = s.objects kind ++ [{ id := s.next, shot := shot }] := by
      rw [hsame]
      exact setObjects_same ..
    rw [live_iff (by rw [hsame]; exact hkind),
      live_iff (by rw [hsame]; exact hkind), hobjects, hsame]
    have hx : x = ⟨kind, s.next⟩ ↔ s.next = x.id := by
      cases x
      subst hsame
      simp [eq_comm]
    rw [hx]
    constructor
    · rintro ⟨o, ho, hid, halive⟩
      rcases List.mem_append.mp ho with hold | hnew
      · exact .inl ⟨o, hold, hid, halive⟩
      · rw [List.mem_singleton] at hnew
        rw [hnew] at hid
        exact .inr hid
    · rintro (⟨o, ho, hid, halive⟩ | hid)
      · exact ⟨o, List.mem_append_left _ ho, hid, halive⟩
      · exact ⟨_, List.mem_append_right _ (List.mem_singleton_self _), hid,
          rfl⟩
  · have hne : x ≠ ⟨kind, s.next⟩ := by
      intro heq
      rw [heq] at hsame
      exact hsame rfl
    have hobjects : (s.append kind shot).objects x.kind = s.objects x.kind :=
      setObjects_ne _ _ hsame
    rw [live_congr hobjects rfl]
    exact ⟨.inl, fun h => h.resolve_right hne⟩

/-- The first object that is found is live, and passes the test. -/
theorem first_some {kind : Kind} {test : Object → Bool} {o : Object}
    (h : s.first kind test = some o) (hkind : kind ≠ .doubleLauncher) :
    s.Live ⟨kind, o.id⟩ ∧ test o = true := by
  unfold first at h
  have hpasses := List.find?_some h
  rw [Bool.and_eq_true] at hpasses
  refine ⟨?_, hpasses.2⟩
  rw [live_iff (show (⟨kind, o.id⟩ : Ref).kind ≠ _ from hkind)]
  exact ⟨o, List.mem_of_find?_eq_some h, rfl, hpasses.1⟩

-- =============================================================== changes

/-- The kinds whose objects only a hit takes. -/
def Steady (kind : Kind) : Prop :=
  kind = .turret ∨ kind = .destructibleObstacle ∨ kind = .incubator
    ∨ kind = .egg ∨ kind = .guidance ∨ kind = .doubleLauncher

instance (kind : Kind) : Decidable (Steady kind) := by
  unfold Steady
  infer_instance

/-- A change that takes these objects, and may make new ones. -/
structure Takes (taken : List Ref) (s t : Zone) : Prop where
  next : s.next ≤ t.next
  live : ∀ r, t.Live r → (s.Live r ∧ r ∉ taken)
    ∨ (s.next ≤ r.id ∧ r.id < t.next)
  steady : ∀ r, Steady r.kind → s.Live r → t.Live r ∨ r ∈ taken
  hits : t.hits = s.hits
  awards : t.awards = s.awards
  beamFields : t.beamFields = s.beamFields
  forceFields : t.forceFields = s.forceFields
  launchers : t.doubleLaunchers.map DoubleLauncherObstacle.id
    = s.doubleLaunchers.map DoubleLauncherObstacle.id

theorem Takes.refl (s : Zone) : Takes [] s s where
  next := le_refl _
  live := fun _ h => .inl ⟨h, by simp⟩
  steady := fun _ _ h => .inl h
  hits := rfl
  awards := rfl
  beamFields := rfl
  forceFields := rfl
  launchers := rfl

theorem Takes.trans {taken more : List Ref} (hst : Takes taken s t)
    (htu : Takes more t u) : Takes (taken ++ more) s u where
  next := hst.next.trans htu.next
  live := by
    intro r hr
    rcases htu.live r hr with ⟨ht, hmore⟩ | hnew
    · rcases hst.live r ht with ⟨hs, htaken⟩ | hnew
      · exact .inl ⟨hs, by simp [htaken, hmore]⟩
      · exact .inr ⟨hnew.1, lt_of_lt_of_le hnew.2 htu.next⟩
    · exact .inr ⟨hst.next.trans hnew.1, hnew.2⟩
  steady := by
    intro r hsteady hs
    rcases hst.steady r hsteady hs with ht | htaken
    · rcases htu.steady r hsteady ht with hu | hmore
      · exact .inl hu
      · exact .inr (List.mem_append_right _ hmore)
    · exact .inr (List.mem_append_left _ htaken)
  hits := htu.hits.trans hst.hits
  awards := htu.awards.trans hst.awards
  beamFields := htu.beamFields.trans hst.beamFields
  forceFields := htu.forceFields.trans hst.forceFields
  launchers := htu.launchers.trans hst.launchers

/-- An object is taken. -/
theorem destroy_takes (s : Zone) {r : Ref}
    (hkind : r.kind ≠ .doubleLauncher) : Takes [r] s (s.destroy r) where
  next := le_refl _
  live := by
    intro x hx
    rw [destroy_live hkind] at hx
    exact .inl ⟨hx.1, by simp [hx.2]⟩
  steady := by
    intro x _ hx
    by_cases heq : x = r
    · right
      simp [heq]
    · left
      rw [destroy_live hkind]
      exact ⟨hx, heq⟩
  hits := rfl
  awards := rfl
  beamFields := rfl
  forceFields := rfl
  launchers := rfl

/-- An object that is not steady is lost without a hit. -/
theorem destroy_quiet (s : Zone) {r : Ref} (hkind : ¬ Steady r.kind) :
    Takes [] s (s.destroy r) := by
  have hlauncher : r.kind ≠ .doubleLauncher := by
    intro heq
    apply hkind
    rw [heq]
    decide
  have htakes := destroy_takes s hlauncher
  refine { htakes with live := ?_, steady := ?_ }
  · intro x hx
    rcases htakes.live x hx with ⟨hs, _⟩ | hnew
    · exact .inl ⟨hs, by simp⟩
    · exact .inr hnew
  · intro x hsteady hx
    left
    rw [destroy_live hlauncher]
    refine ⟨hx, ?_⟩
    intro heq
    rw [heq] at hsteady
    exact hkind hsteady

theorem sweep_quiet (s : Zone) {kind : Kind}
    (hkind : kind ≠ .doubleLauncher) : Takes [] s (s.sweep kind) where
  next := le_refl _
  live := fun _ hx => .inl ⟨(sweep_live hkind).mp hx, by simp⟩
  steady := fun _ _ hx => .inl ((sweep_live hkind).mpr hx)
  hits := rfl
  awards := rfl
  beamFields := rfl
  forceFields := rfl
  launchers := rfl

theorem append_quiet (s : Zone) {kind : Kind} (shot : ShotKind)
    (hkind : kind ≠ .doubleLauncher) :
    Takes [] s (s.append kind shot) where
  next := Nat.le_succ _
  live := by
    intro x hx
    rcases (append_live hkind).mp hx with hold | hnew
    · exact .inl ⟨hold, by simp⟩
    · right
      rw [hnew]
      exact ⟨le_refl _, Nat.lt_succ_self _⟩
  steady := fun _ _ hx => .inl ((append_live hkind).mpr (.inl hx))
  hits := rfl
  awards := rfl
  beamFields := rfl
  forceFields := rfl
  launchers := rfl

/-- The player is no object. -/
theorem player_quiet (s : Zone) (player : Player) :
    Takes [] s { s with player := player } where
  next := le_refl _
  live := fun _ hx => .inl ⟨hx, by simp⟩
  steady := fun _ _ hx => .inl hx
  hits := rfl
  awards := rfl
  beamFields := rfl
  forceFields := rfl
  launchers := rfl

theorem move_quiet (s : Zone) (c : Contacts) {r : Ref}
    (hkind : ¬ Steady r.kind) : Takes [] s (s.move c r) := by
  unfold move
  by_cases hstays : c.stays r = true
  · rw [if_pos hstays]
    exact Takes.refl s
  · rw [if_neg hstays]
    exact destroy_quiet s hkind

/-- A loop of changes without a hit. -/
theorem foldl_quiet {α : Type} {f : Zone → α → Zone}
    {list : List α} (hstep : ∀ s, ∀ a ∈ list, Takes [] s (f s a))
    (s : Zone) : Takes [] s (list.foldl f s) := by
  induction list generalizing s with
  | nil => exact Takes.refl s
  | cons a list ih =>
      have hfirst := hstep s a (List.mem_cons_self ..)
      exact hfirst.trans (ih (fun s b hb =>
        hstep s b (List.mem_cons_of_mem _ hb)) (f s a))

theorem moveAll_quiet (s : Zone) (c : Contacts) {kind : Kind}
    (hkind : ¬ Steady kind) : Takes [] s (s.moveAll c kind) := by
  refine foldl_quiet ?_ s
  intro t r hr
  obtain ⟨o, _, rfl⟩ := List.mem_map.mp hr
  exact move_quiet t c hkind

-- ============================================================ beam fields

/-- The pool of a beam field after so many hits. -/
structure Pool (hits : Nat) (field : BeamFieldModel) : Prop where
  left : field.remainingHitPoints = 25 - hits
  most : hits ≤ 25
  notified : field.destructionNotified = true ↔ hits = 25

theorem Pool.isActive {hits : Nat} {field : BeamFieldModel}
    (h : Pool hits field) : field.isActive = true ↔ hits < 25 := by
  unfold BeamFieldModel.isActive
  rw [h.left]
  simp only [decide_eq_true_eq]
  omega

/-- A hit of an active field; the one that empties the pool says so. -/
theorem Pool.registerHit {hits : Nat} {field : BeamFieldModel}
    (h : Pool hits field) (hactive : field.isActive = true) :
    Pool (hits + 1) field.registerHit.2
      ∧ (field.registerHit.1 = true ↔ hits + 1 = 25) := by
  have hless := h.isActive.mp hactive
  have hnot : field.destructionNotified = false := by
    cases hn : field.destructionNotified with
    | false => rfl
    | true =>
        have := h.notified.mp hn
        omega
  have hleft := h.left
  unfold BeamFieldModel.registerHit
  rw [hactive, if_neg (by simp)]
  dsimp only
  rw [hnot]
  by_cases hlast : hits + 1 = 25
  · rw [if_neg (by simp; omega)]
    refine ⟨⟨?_, by omega, ?_⟩, ?_⟩
    · show field.remainingHitPoints - 1 = _
      rw [hleft]
      push_cast
      omega
    · simp [hlast]
    · simp [hlast]
  · rw [if_pos (by simp; omega)]
    refine ⟨⟨?_, by omega, ?_⟩, ?_⟩
    · show field.remainingHitPoints - 1 = _
      rw [hleft]
      push_cast
      omega
    · simp [hlast]
    · simp [hlast]

-- ============================================================ the invariant

/-- The objects that hits have taken. -/
def taken (s : Zone) : List Ref := s.hits.flatMap Hit.takes

/-- What holds of a zone of the map `m`. -/
structure Paid (m : MapObjects) (s : Zone) : Prop where
  spent : Spent s.holding s.taken
  known : ∀ r, s.Live r → r.id < s.next
  launchers : (s.doubleLaunchers.map DoubleLauncherObstacle.id).Nodup
  paid : s.awards = payments s.hits
  pools : ∀ field, Pool (beamHits field s.hits) (s.beamFields field)
  /-- A steady object of the map stands until it is hit. -/
  stands : ∀ r, Steady r.kind → m.load.Live r → s.Live r ∨ r ∈ s.taken

variable {m : MapObjects}

theorem Takes.later {r : List Ref} (h : Takes r s t) :
    Later s.holding t.holding := by
  intro x hknown
  refine ⟨lt_of_lt_of_le hknown h.next, ?_⟩
  intro hlive
  rcases h.live x hlive with ⟨hs, _⟩ | hnew
  · exact hs
  · exact absurd hknown (not_lt_of_ge hnew.1)

/-- A change without a hit. -/
theorem Paid.quiet (h : Paid m s) (hquiet : Takes [] s t) : Paid m t := by
  have htaken : t.taken = s.taken := by
    unfold taken
    rw [hquiet.hits]
  constructor
  · rw [htaken]
    exact h.spent.later hquiet.later
  · intro r hr
    rcases hquiet.live r hr with ⟨hs, _⟩ | hnew
    · exact lt_of_lt_of_le (h.known r hs) hquiet.next
    · exact hnew.2
  · rw [hquiet.launchers]
    exact h.launchers
  · rw [hquiet.awards, hquiet.hits]
    exact h.paid
  · rw [hquiet.beamFields, hquiet.hits]
    exact h.pools
  · intro r hsteady hm
    rw [htaken]
    rcases h.stands r hsteady hm with hs | hgone
    · rcases hquiet.steady r hsteady hs with ht | hnone
      · exact .inl ht
      · cases hnone
    · exact .inr hgone

/-- What a hit takes was live and is gone. -/
theorem Paid.gone {r : List Ref} (h : Paid m s) (htakes : Takes r s t)
    (hlive : ∀ x ∈ r, s.Live x) :
    ∀ x ∈ r, s.holding.Known x ∧ s.holding.Live x ∧ ¬ t.holding.Live x := by
  intro x hx
  have hknown := h.known x (hlive x hx)
  refine ⟨hknown, hlive x hx, ?_⟩
  intro ht
  rcases htakes.live x ht with ⟨_, hnot⟩ | hnew
  · exact hnot hx
  · exact absurd hknown (not_lt_of_ge hnew.1)

theorem isBeam_of_takes {hit : Hit} (h : ∀ bullet field,
    hit ≠ .beam bullet field) (field : Nat) : hit.isBeam field = false := by
  cases hit with
  | beam bullet other => exact absurd rfl (h bullet other)
  | grenade => rfl
  | guidance => rfl
  | shot => rfl
  | creature => rfl
  | launcher => rfl

theorem beamHits_cons {hit : Hit} (h : ∀ bullet field,
    hit ≠ .beam bullet field) (field : Nat) (hits : List Hit) :
    beamHits field (hit :: hits) = beamHits field hits := by
  unfold beamHits
  rw [List.countP_cons_of_neg]
  rw [isBeam_of_takes h]
  decide

/-- A hit of an entity: what it takes was live, and what is awarded is its
price. -/
theorem Paid.strike (h : Paid m s) (hit : Hit)
    (hbeam : ∀ bullet field, hit ≠ .beam bullet field)
    (htakes : Takes hit.takes s t) (hnodup : hit.takes.Nodup)
    (hlive : ∀ x ∈ hit.takes, s.Live x) {value : Int} {reason : Reason}
    (hprice : price s.hits hit = [(value, reason)]) :
    Paid m ((t.note hit).awardPoints value reason) := by
  have hhits : ((t.note hit).awardPoints value reason).hits
      = hit :: s.hits := by
    show hit :: t.hits = _
    rw [htakes.hits]
  have htaken : ((t.note hit).awardPoints value reason).taken
      = hit.takes ++ s.taken := by
    unfold taken
    rw [hhits]
    rfl
  constructor
  · rw [htaken]
    have hgone := h.gone htakes hlive
    exact h.spent.spend htakes.later hnodup hgone
  · intro r hr
    rcases htakes.live r hr with ⟨hs, _⟩ | hnew
    · exact lt_of_lt_of_le (h.known r hs) htakes.next
    · exact hnew.2
  · show (t.doubleLaunchers.map DoubleLauncherObstacle.id).Nodup
    rw [htakes.launchers]
    exact h.launchers
  · rw [hhits]
    show (value, reason) :: t.awards = price s.hits hit ++ payments s.hits
    rw [hprice, htakes.awards, h.paid]
    rfl
  · intro field
    rw [hhits, beamHits_cons hbeam]
    show Pool _ (t.beamFields field)
    rw [htakes.beamFields]
    exact h.pools field
  · intro r hsteady hm
    rw [htaken]
    rcases h.stands r hsteady hm with hs | hgone
    · rcases htakes.steady r hsteady hs with ht | hnow
      · exact .inl ht
      · exact .inr (List.mem_append_left _ hnow)
    · exact .inr (List.mem_append_right _ hgone)

theorem price_beam (earlier : List Hit) (id field : Nat) :
    price earlier (.beam id field)
      = if beamHits field earlier + 1 = 25 then [(1000, .forceField)]
        else [] := rfl

/-- A bullet hits a side of a beam field. -/
theorem Paid.hitByBlaster (h : Paid m s) {id : Nat}
    (htakes : Takes [⟨.bullet, id⟩] s t) (hlive : s.Live ⟨.bullet, id⟩)
    {side : ForceFieldBarrier} (hactive : s.sideActive side = true) :
    Paid m (t.hitByBlaster id side) := by
  have hfield : t.beamFields side.field = s.beamFields side.field := by
    rw [htakes.beamFields]
  obtain ⟨hpool, hlast⟩ := (h.pools side.field).registerHit hactive
  have hcount : ∀ field, beamHits field (.beam id side.field :: s.hits)
      = beamHits field s.hits + if side.field = field then 1 else 0 := by
    intro field
    unfold beamHits
    rw [List.countP_cons]
    congr 1
    simp [Hit.isBeam]
  -- the zone but for the award
  have hstruck : ∀ {after : Zone}, after.Live = t.Live →
      after.next = t.next →
      after.doubleLaunchers = t.doubleLaunchers →
      after.hits = .beam id side.field :: t.hits →
      after.beamFields = Function.update t.beamFields side.field
        (t.beamFields side.field).registerHit.2 →
      after.awards = price s.hits (.beam id side.field) ++ t.awards →
      Paid m after := by
    intro after hafter hnext hlaunchers hhits hfields hawards
    rw [htakes.hits] at hhits
    have htaken : after.taken = ⟨.bullet, id⟩ :: s.taken := by
      unfold taken
      rw [hhits]
      rfl
    have hheld : after.holding = t.holding := by
      unfold holding
      rw [hafter, hnext]
    constructor
    · rw [htaken, hheld]
      refine h.spent.spend htakes.later (List.nodup_singleton _) ?_
      exact h.gone htakes (by simpa using hlive)
    · intro r hr
      rw [hafter] at hr
      rw [hnext]
      rcases htakes.live r hr with ⟨hs, _⟩ | hnew
      · exact lt_of_lt_of_le (h.known r hs) htakes.next
      · exact hnew.2
    · rw [hlaunchers, htakes.launchers]
      exact h.launchers
    · rw [hhits, hawards, htakes.awards, h.paid]
      rfl
    · intro field
      rw [hhits, hcount, hfields, hfield]
      by_cases heq : field = side.field
      · rw [heq, Function.update_self, if_pos rfl]
        exact hpool
      · rw [Function.update_of_ne heq, if_neg (Ne.symm heq),
          htakes.beamFields]
        exact h.pools field
    · intro r hsteady hm
      rw [htaken, hafter]
      rcases h.stands r hsteady hm with hs | hgone
      · rcases htakes.steady r hsteady hs with ht | hnow
        · exact .inl ht
        · exact .inr (List.mem_cons.mpr (.inl (List.mem_singleton.mp hnow)))
      · exact .inr (List.mem_cons_of_mem _ hgone)
  unfold Zone.hitByBlaster
  dsimp only
  by_cases hdestroyed : beamHits side.field s.hits + 1 = 25
  · rw [hfield, hlast.mpr hdestroyed, if_pos rfl]
    refine hstruck rfl rfl rfl rfl ?_ ?_
    · rw [hfield]
      rfl
    · rw [price_beam, if_pos hdestroyed]
      rfl
  · have hnot : (s.beamFields side.field).registerHit.1 = false := by
      rw [← Bool.not_eq_true, hlast]
      exact hdestroyed
    rw [hfield, hnot, if_neg (by decide)]
    refine hstruck rfl rfl rfl rfl ?_ ?_
    · rw [hfield]
      rfl
    · rw [price_beam, if_neg hdestroyed]
      rfl

-- ========================================================== the operations

theorem Takes.congr {taken other : List Ref} (h : Takes taken s t)
    (hsame : ∀ x, x ∈ taken ↔ x ∈ other) : Takes other s t :=
  { h with
    live := by
      intro r hr
      rw [← hsame]
      exact h.live r hr
    steady := by
      intro r hsteady hr
      rw [← hsame]
      exact h.steady r hsteady hr }

/-- Objects that are not steady are dropped. -/
theorem clear_quiet (s : Zone) {kind : Kind} (hkind : ¬ Steady kind) :
    Takes [] s (s.setObjects kind []) where
  next := le_refl _
  live := by
    intro r hr
    by_cases hsame : r.kind = kind
    · have hlauncher : r.kind ≠ .doubleLauncher := by
        intro heq
        apply hkind
        rw [← hsame, heq]
        decide
      rw [live_iff hlauncher, hsame, setObjects_same] at hr
      obtain ⟨o, ho, _⟩ := hr
      cases ho
    · rw [live_congr (setObjects_ne _ _ hsame) rfl] at hr
      exact .inl ⟨hr, by simp⟩
  steady := by
    intro r hsteady hr
    left
    have hne : r.kind ≠ kind := by
      intro heq
      rw [heq] at hsteady
      exact hkind hsteady
    rw [live_congr (setObjects_ne _ _ hne) rfl]
    exact hr
  hits := rfl
  awards := rfl
  beamFields := rfl
  forceFields := rfl
  launchers := rfl

theorem hitPlayer_quiet (s : Zone) : Takes [] s s.hitPlayer := by
  unfold hitPlayer
  split
  · exact Takes.refl s
  · split
    · exact Takes.refl s
    · exact player_quiet s _

/-- A bullet and what it meets are taken. -/
theorem destroy_both (s : Zone) {r x : Ref}
    (hr : r.kind ≠ .doubleLauncher) (hx : x.kind ≠ .doubleLauncher) :
    Takes [r, x] s ((s.destroy r).destroy x) :=
  (destroy_takes s hr).trans (destroy_takes _ hx)

theorem pair_live {r x : Ref} (hr : s.Live r) (hx : s.Live x) :
    ∀ y ∈ [r, x], s.Live y := by
  intro y hy
  rcases List.mem_cons.mp hy with rfl | hy
  · exact hr
  · rw [List.mem_singleton] at hy
    rw [hy]
    exact hx

theorem pair_nodup {r x : Ref} (h : r.kind ≠ x.kind) : [r, x].Nodup := by
  rw [List.nodup_cons]
  refine ⟨?_, List.nodup_singleton _⟩
  rw [List.mem_singleton]
  intro heq
  exact h (congrArg Ref.kind heq)

theorem updateBullet_paid (h : Paid m s) (c : Contacts) (id : Nat) :
    Paid m (s.updateBullet c id) := by
  have hmoved : Paid m (s.move c ⟨.bullet, id⟩) :=
    h.quiet (move_quiet s c (by simp [Steady]))
  unfold updateBullet
  dsimp only
  generalize s.move c ⟨.bullet, id⟩ = s at hmoved
  by_cases halive : s.alive ⟨.bullet, id⟩ = true
  swap
  · rw [if_pos (by simpa using halive)]
    exact hmoved
  rw [if_neg (by simpa using halive)]
  have hbullet : s.Live ⟨.bullet, id⟩ := (alive_live (by simp)).mp halive
  -- what is met first, in the order of the source
  cases hshot : s.first .enemyBullet fun o => o.shot.canBeShotDown
      && c.meets ⟨.bullet, id⟩ ⟨.enemyBullet, o.id⟩ with
  | some hostile =>
      dsimp only
      obtain ⟨hlive, htest⟩ := first_some hshot (by decide)
      have hpoints : hostile.shot.pointsWhenShotDown = 50 := by
        cases hkind : hostile.shot with
        | turret =>
            rw [hkind] at htest
            cases htest
        | doubleLauncher => rfl
      rw [hpoints]
      exact hmoved.strike (.shot id hostile.id)
        (by intro _ _ heq; cases heq) (destroy_both s (by simp) (by simp))
        (pair_nodup (by simp)) (pair_live hbullet hlive) rfl
  | none =>
  cases hbubble : s.first .bubble
      fun o => c.meets ⟨.bullet, id⟩ ⟨.bubble, o.id⟩ with
  | some bubble =>
      obtain ⟨hlive, _⟩ := first_some hbubble (by decide)
      exact hmoved.strike (.creature (some id) ⟨.bubble, bubble.id⟩)
        (by intro _ _ heq; cases heq) (destroy_both s (by simp) (by simp))
        (pair_nodup (by simp)) (pair_live hbullet hlive) rfl
  | none =>
  cases hegg : s.first .egg
      fun o => c.meets ⟨.bullet, id⟩ ⟨.egg, o.id⟩ with
  | some egg =>
      obtain ⟨hlive, _⟩ := first_some hegg (by decide)
      exact hmoved.strike (.creature (some id) ⟨.egg, egg.id⟩)
        (by intro _ _ heq; cases heq) (destroy_both s (by simp) (by simp))
        (pair_nodup (by simp)) (pair_live hbullet hlive) rfl
  | none =>
  cases hside : s.forceFields.find? fun side => s.sideActive side
      && c.meets ⟨.bullet, id⟩ ⟨.forceField, side.id⟩ with
  | some side =>
      have hactive := List.find?_some hside
      rw [Bool.and_eq_true] at hactive
      exact hmoved.hitByBlaster (destroy_takes s (by simp)) hbullet
        hactive.1
  | none =>
      dsimp only
      split
      · exact hmoved.quiet (destroy_quiet s (by simp [Steady]))
      · exact hmoved

/-- A loop keeps the invariant. -/
theorem Paid.foldl {α : Type} {f : Zone → α → Zone}
    (hstep : ∀ s a, Paid m s → Paid m (f s a)) (h : Paid m s)
    (list : List α) : Paid m (list.foldl f s) := by
  induction list generalizing s with
  | nil => exact h
  | cons a list ih => exact ih (hstep s a h)

theorem updateBullets_paid (h : Paid m s) (c : Contacts) :
    Paid m (s.updateBullets c) :=
  (Paid.foldl (fun _ r hs => updateBullet_paid hs c r.id) h _).quiet
    (sweep_quiet _ (by decide))

theorem destroyWithGrenade_paid (h : Paid m s) {id : Nat} {block : Ref}
    (hgrenade : s.Live ⟨.grenade, id⟩) (hblock : s.Live block)
    (hlauncher : block.kind ≠ .doubleLauncher)
    (hother : block.kind ≠ .grenade) :
    Paid m (s.destroyWithGrenade id block) := by
  unfold destroyWithGrenade
  rw [if_neg (by simpa using (alive_live (by simp)).mpr hgrenade)]
  exact h.strike (.grenade id block) (by intro _ _ heq; cases heq)
    (destroy_both s (by simp) hlauncher) (pair_nodup (Ne.symm hother))
    (pair_live hgrenade hblock) rfl

theorem updateGrenade_paid (h : Paid m s) (c : Contacts) (id : Nat) :
    Paid m (s.updateGrenade c id) := by
  have hmoved : Paid m (s.move c ⟨.grenade, id⟩) :=
    h.quiet (move_quiet s c (by simp [Steady]))
  unfold updateGrenade
  dsimp only
  generalize s.move c ⟨.grenade, id⟩ = s at hmoved
  by_cases halive : s.alive ⟨.grenade, id⟩ = true
  swap
  · rw [if_pos (by simpa using halive)]
    exact hmoved
  rw [if_neg (by simpa using halive)]
  have hgrenade : s.Live ⟨.grenade, id⟩ := (alive_live (by simp)).mp halive
  cases hturret : s.first .turret
      fun o => c.meets ⟨.grenade, id⟩ ⟨.turret, o.id⟩ with
  | some turret =>
      exact destroyWithGrenade_paid hmoved hgrenade
        (first_some hturret (by decide)).1 (by simp) (by simp)
  | none =>
  cases hobstacle : s.first .destructibleObstacle
      fun o => c.meets ⟨.grenade, id⟩ ⟨.destructibleObstacle, o.id⟩ with
  | some obstacle =>
      exact destroyWithGrenade_paid hmoved hgrenade
        (first_some hobstacle (by decide)).1 (by simp) (by simp)
  | none =>
  cases hincubator : s.first .incubator
      fun o => c.meets ⟨.grenade, id⟩ ⟨.incubator, o.id⟩ with
  | some incubator =>
      exact destroyWithGrenade_paid hmoved hgrenade
        (first_some hincubator (by decide)).1 (by simp) (by simp)
  | none =>
  cases hstation : s.first .guidance
      fun o => c.meets ⟨.grenade, id⟩ ⟨.guidance, o.id⟩ with
  | some station =>
      dsimp only
      obtain ⟨hlive, _⟩ := first_some hstation (by decide)
      have htakes : Takes [⟨.grenade, id⟩, ⟨.guidance, station.id⟩] s
          ((s.destroyMissileGuidance station.id).2.destroy
            ⟨.grenade, id⟩) := by
        refine (((destroy_takes s (by simp)).trans
          (clear_quiet _ (by decide))).trans
            (destroy_takes _ (by simp))).congr ?_
        intro x
        simp [or_comm]
      have hprice : price s.hits
          (.guidance id station.id s.missileAlive)
          = [((s.destroyMissileGuidance station.id).1, .guidance)] := by
        unfold destroyMissileGuidance price
        cases s.missileAlive with
        | false => rfl
        | true => rfl
      exact hmoved.strike (.guidance id station.id s.missileAlive)
        (by intro _ _ heq; cases heq) htakes
        (pair_nodup (by simp)) (pair_live hgrenade hlive) hprice
  | none =>
      dsimp only
      split
      · exact hmoved.quiet (destroy_quiet s (by simp [Steady]))
      · exact hmoved

theorem updateGrenades_paid (h : Paid m s) (c : Contacts) :
    Paid m (s.updateGrenades c) :=
  (Paid.foldl (fun _ r hs => updateGrenade_paid hs c r.id) h _).quiet
    (sweep_quiet _ (by decide))

theorem levelUpdate_quiet (s : Zone) (c : Contacts) :
    Takes [] s (s.levelUpdate c).2 := by
  unfold levelUpdate
  dsimp only
  have hbubbles : Takes [] s ((List.range s.bubbleSpawners).foldl
      (fun s spawner => s.spawnBubble c spawner) s) := by
    refine foldl_quiet ?_ s
    intro t spawner _
    unfold spawnBubble
    split
    · exact Takes.refl t
    · split
      · exact append_quiet t .turret (by decide)
      · exact Takes.refl t
  have hmissile : ∀ t : Zone, Takes [] t t.spawnMissile := by
    intro t
    unfold spawnMissile
    split
    · exact append_quiet t .turret (by decide)
    · exact Takes.refl t
  exact (((((hbubbles.trans (moveAll_quiet _ c (by decide))).trans
    (sweep_quiet _ (by decide))).trans (sweep_quiet _ (by decide))).trans
      (hmissile _)).trans (moveAll_quiet _ c (by decide))).trans
        (sweep_quiet _ (by decide))

theorem addShots_quiet (s : Zone) (shots : List ShotKind) :
    Takes [] s (s.addShots shots) :=
  foldl_quiet (fun t shot _ => append_quiet t shot (by decide)) s

theorem updateEnemyBullet_quiet (s : Zone) (c : Contacts) (id : Nat) :
    Takes [] s (s.updateEnemyBullet c id) := by
  have hmoved : Takes [] s (s.move c ⟨.enemyBullet, id⟩) :=
    move_quiet s c (by simp [Steady])
  have hgone : Takes [] s ((s.move c ⟨.enemyBullet, id⟩).destroy
      ⟨.enemyBullet, id⟩) := hmoved.trans (destroy_quiet _ (by simp [Steady]))
  unfold updateEnemyBullet
  dsimp only
  split
  · exact hmoved
  · split
    · exact hgone
    · split
      · exact hgone
      · split
        · exact hgone.trans (hitPlayer_quiet _)
        · exact hmoved

theorem updateEnemyBullets_quiet (s : Zone) (c : Contacts) :
    Takes [] s (s.updateEnemyBullets c) := by
  have hloop := foldl_quiet (fun t (r : Ref) (_ : r ∈ s.refs .enemyBullet) =>
    updateEnemyBullet_quiet t c r.id) s
  exact hloop.trans (sweep_quiet _ (by decide))

/-- A launcher whose region still pays. -/
def pays (launchers : List DoubleLauncherObstacle) (id : Nat) : Prop :=
  ∃ launcher ∈ launchers, launcher.id = id
    ∧ launcher.bonusState.bonusCollected = false

theorem pays_cons (launcher : DoubleLauncherObstacle)
    (rest : List DoubleLauncherObstacle) (id : Nat) :
    pays (launcher :: rest) id ↔ (launcher.id = id
      ∧ launcher.bonusState.bonusCollected = false) ∨ pays rest id := by
  unfold pays
  simp

/-- A state that does not pay is as it was, one that does is spent. -/
theorem payBonus_cases (state : LauncherBonusState) (touches : Bool) :
    state.payBonus touches = (false, state)
      ∨ state.bonusCollected = false
        ∧ state.payBonus touches
          = (true, { state with bonusCollected := true }) := by
  unfold LauncherBonusState.payBonus
  by_cases hpays : (state.isActive && !state.bonusCollected && touches) = true
  · right
    rw [hpays]
    simp only [Bool.and_eq_true, Bool.not_eq_true'] at hpays
    exact ⟨hpays.1.2, rfl⟩
  · left
    rw [Bool.not_eq_true] at hpays
    rw [hpays]
    rfl

theorem payFirst_ids (c : Contacts)
    (launchers : List DoubleLauncherObstacle) :
    (payFirst c launchers).2.map DoubleLauncherObstacle.id
      = launchers.map DoubleLauncherObstacle.id := by
  induction launchers with
  | nil => rfl
  | cons launcher rest ih =>
      unfold payFirst
      rcases payBonus_cases launcher.bonusState
        (c.touches ⟨.doubleLauncher, launcher.id⟩) with hnot | ⟨_, hpaid⟩
      · rw [hnot]
        simp [ih]
      · rw [hpaid]
        simp

theorem payFirst_none {c : Contacts}
    {launchers : List DoubleLauncherObstacle}
    (h : (payFirst c launchers).1 = none) :
    (payFirst c launchers).2 = launchers := by
  induction launchers with
  | nil => rfl
  | cons launcher rest ih =>
      unfold payFirst at h ⊢
      rcases payBonus_cases launcher.bonusState
        (c.touches ⟨.doubleLauncher, launcher.id⟩) with hnot | ⟨_, hpaid⟩
      · rw [hnot] at h ⊢
        simp only [Bool.false_eq_true, if_false] at h ⊢
        rw [ih h]
      · rw [hpaid] at h
        simp at h

/-- The launcher that pays did not before, and it alone is spent. -/
theorem payFirst_some {c : Contacts}
    {launchers : List DoubleLauncherObstacle} {paid : Nat}
    (hnodup : (launchers.map DoubleLauncherObstacle.id).Nodup)
    (h : (payFirst c launchers).1 = some paid) :
    pays launchers paid ∧ ∀ id, pays (payFirst c launchers).2 id
      ↔ pays launchers id ∧ id ≠ paid := by
  induction launchers with
  | nil => cases h
  | cons launcher rest ih =>
      rw [List.map_cons, List.nodup_cons] at hnodup
      unfold payFirst at h ⊢
      rcases payBonus_cases launcher.bonusState
        (c.touches ⟨.doubleLauncher, launcher.id⟩) with hnot | ⟨hopen, hpaid⟩
      · rw [hnot] at h ⊢
        simp only [Bool.false_eq_true, if_false] at h ⊢
        obtain ⟨hrest, hafter⟩ := ih hnodup.2 h
        refine ⟨(pays_cons _ _ _).mpr (.inr hrest), ?_⟩
        intro id
        rw [pays_cons, pays_cons, hafter]
        have hother : launcher.id ≠ paid := by
          intro heq
          obtain ⟨other, hmem, hid, _⟩ := hrest
          apply hnodup.1
          rw [heq, ← hid]
          exact List.mem_map_of_mem hmem
        constructor
        · rintro (⟨hid, hnew⟩ | ⟨hold, hne⟩)
          · refine ⟨.inl ⟨hid, hnew⟩, ?_⟩
            rw [← hid]
            exact hother
          · exact ⟨.inr hold, hne⟩
        · rintro ⟨hhead | hold, hne⟩
          · exact .inl hhead
          · exact .inr ⟨hold, hne⟩
      · rw [hpaid] at h ⊢
        simp only [if_true, Option.some.injEq] at h ⊢
        refine ⟨(pays_cons _ _ _).mpr (.inl ⟨h, hopen⟩), ?_⟩
        intro id
        rw [pays_cons, pays_cons]
        have hrest : pays rest id → id ≠ paid := by
          rintro ⟨other, hmem, hid, _⟩ heq
          apply hnodup.1
          rw [h, ← heq, ← hid]
          exact List.mem_map_of_mem hmem
        constructor
        · rintro (⟨_, hspent⟩ | hold)
          · cases hspent
          · exact ⟨.inr hold, hrest hold⟩
        · rintro ⟨⟨hid, _⟩ | hold, hne⟩
          · exact absurd (hid.symm.trans h) hne
          · exact .inr hold

theorem live_launcher (s : Zone) (id : Nat) :
    s.Live ⟨.doubleLauncher, id⟩ ↔ pays s.doubleLaunchers id := by
  unfold Live pays
  rw [if_pos rfl]

theorem live_launchers {launchers : List DoubleLauncherObstacle} {r : Ref}
    (hkind : r.kind ≠ .doubleLauncher) :
    { s with doubleLaunchers := launchers }.Live r ↔ s.Live r := by
  rw [← alive_live hkind, ← alive_live hkind]
  rfl

theorem collectDoubleLauncherBonus_paid (h : Paid m s) (c : Contacts) :
    Paid m (s.collectDoubleLauncherBonus c) := by
  unfold collectDoubleLauncherBonus
  have hids := payFirst_ids c s.doubleLaunchers
  cases hpaid : (payFirst c s.doubleLaunchers).1 with
  | none =>
      have hsame := payFirst_none hpaid
      dsimp only
      rw [hpaid, hsame]
      exact h
  | some paid =>
      obtain ⟨hopen, hafter⟩ := payFirst_some h.launchers hpaid
      dsimp only
      rw [hpaid]
      have hlive : ∀ r, { s with doubleLaunchers :=
          (payFirst c s.doubleLaunchers).2 }.Live r
          ↔ s.Live r ∧ r ≠ ⟨.doubleLauncher, paid⟩ := by
        intro r
        by_cases hkind : r.kind = .doubleLauncher
        · obtain ⟨kind, id⟩ := r
          cases hkind
          rw [live_launcher, live_launcher]
          simpa using hafter id
        · rw [live_launchers hkind]
          constructor
          · intro hr
            refine ⟨hr, ?_⟩
            intro heq
            rw [heq] at hkind
            exact hkind rfl
          · exact fun hr => hr.1
      have htakes : Takes [⟨.doubleLauncher, paid⟩] s { s with
          doubleLaunchers := (payFirst c s.doubleLaunchers).2 } := by
        constructor
        · exact le_refl _
        · intro r hr
          rw [hlive] at hr
          exact .inl ⟨hr.1, by simpa using hr.2⟩
        · intro r _ hr
          rw [hlive]
          by_cases heq : r = ⟨.doubleLauncher, paid⟩
          · exact .inr (by simp [heq])
          · exact .inl ⟨hr, heq⟩
        · rfl
        · rfl
        · rfl
        · rfl
        · exact hids
      refine h.strike (.launcher paid) (by intro _ _ heq; cases heq) htakes
        (List.nodup_singleton _) ?_ rfl
      intro x hx
      rw [show x = ⟨.doubleLauncher, paid⟩ from List.mem_singleton.mp hx,
        live_launcher]
      exact hopen

theorem meetMissile_quiet (s : Zone) (c : Contacts) :
    Takes [] s (s.meetMissile c).2 := by
  unfold meetMissile
  split
  · exact ((destroy_quiet s (by simp [Steady])).trans
      (sweep_quiet _ (by decide))).trans (hitPlayer_quiet _)
  · exact Takes.refl s

theorem meetMines_quiet (c : Contacts) (s : Zone) {mines : List Ref}
    (hmines : ∀ mine ∈ mines, mine.kind = .mine) :
    Takes [] s (meetMines c s mines).2 := by
  induction mines generalizing s with
  | nil => exact Takes.refl s
  | cons mine rest ih =>
      have hrest : ∀ mine ∈ rest, mine.kind = .mine :=
        fun other hother => hmines other (List.mem_cons_of_mem _ hother)
      have hkind : ¬ Steady mine.kind := by
        rw [hmines mine (List.mem_cons_self ..)]
        decide
      unfold meetMines
      split
      · dsimp only
        split
        · exact (destroy_quiet s hkind).trans (hitPlayer_quiet _)
        · exact (destroy_quiet s hkind).trans (ih _ hrest)
      · exact ih s hrest

theorem meetCreature_paid (h : Paid m s) (c : Contacts) {kind : Kind}
    {points : Int} {reason : Reason} (hkind : kind ≠ .doubleLauncher)
    (hprice : ∀ earlier id, price earlier (.creature none ⟨kind, id⟩)
      = [(points, reason)]) :
    Paid m (s.meetCreature c kind points reason).2 := by
  unfold meetCreature
  cases hfirst : s.first kind fun o => c.hurts ⟨kind, o.id⟩ with
  | none => exact h
  | some creature =>
      obtain ⟨hlive, _⟩ := first_some hfirst hkind
      refine Paid.quiet ?_ (hitPlayer_quiet _)
      refine h.strike (.creature none ⟨kind, creature.id⟩)
        (by intro _ _ heq; cases heq) (destroy_takes s hkind)
        (List.nodup_singleton _) ?_ (hprice _ _)
      intro x hx
      rw [show x = ⟨kind, creature.id⟩ from List.mem_singleton.mp hx]
      exact hlive

theorem updateLethalEntities_paid (h : Paid m s) (c : Contacts) :
    Paid m (s.updateLethalEntities c) := by
  unfold updateLethalEntities
  dsimp only
  have hmissile : Paid m (s.meetMissile c).2 :=
    h.quiet (meetMissile_quiet s c)
  generalize s.meetMissile c = met at hmissile
  obtain ⟨hit, s⟩ := met
  dsimp only at hmissile ⊢
  split
  · exact hmissile
  have hmines : ∀ mine ∈ s.refs .mine, mine.kind = .mine := by
    intro mine hmine
    obtain ⟨o, _, rfl⟩ := List.mem_map.mp hmine
    rfl
  have hmined : Paid m (meetMines c s (s.refs .mine)).2 :=
    hmissile.quiet (meetMines_quiet c s hmines)
  generalize meetMines c s (s.refs .mine) = mined at hmined
  obtain ⟨exploded, s⟩ := mined
  dsimp only at hmined ⊢
  split
  · exact hmined
  split
  · exact hmined.quiet (hitPlayer_quiet _)
  have hbubble : Paid m (s.meetCreature c .bubble 150 .bubble).2 :=
    meetCreature_paid hmined c (by decide) (fun _ _ => rfl)
  split
  · exact hbubble
  · exact meetCreature_paid hbubble c (by decide) (fun _ _ => rfl)

theorem updateWeapons_quiet (s : Zone) (fire grenade : Bool) :
    Takes [] s (s.updateWeapons fire grenade) := by
  have hfired : Takes [] s (if fire then
      if (s.append .bullet .turret).player.hasExoskeleton then
        (s.append .bullet .turret).append .bullet .turret
      else s.append .bullet .turret
    else s) := by
    split
    · split
      · exact (append_quiet s .turret (by decide)).trans
          (append_quiet _ .turret (by decide))
      · exact append_quiet s .turret (by decide)
    · exact Takes.refl s
  have hthrown : ∀ t : Zone, Takes [] t
      (if grenade && (t.objects .grenade).isEmpty then
        t.append .grenade .turret
      else t) := by
    intro t
    split
    · exact append_quiet t .turret (by decide)
    · exact Takes.refl t
  exact hfired.trans (hthrown _)

/-- One fixed step. -/
theorem step_paid (h : Paid m s) (action : Action) :
    Paid m (s.step action) := by
  cases action with
  | waits => exact h
  | plays player settled fire grenade c =>
      show Paid m (s.fixedUpdate player settled fire grenade c)
      unfold fixedUpdate
      dsimp only
      have hstart : Paid m (if player.isDying then
          { s with player := settled }
        else { s with player := player }.updateWeapons fire grenade) := by
        split
        · exact h.quiet (player_quiet s settled)
        · exact h.quiet ((player_quiet s player).trans
            (updateWeapons_quiet _ fire grenade))
      have hend : ∀ (t : Zone) (shots : List ShotKind), Paid m t →
          Paid m ((((t.addShots shots).updateEnemyBullets
            c).collectDoubleLauncherBonus c).updateLethalEntities c) := by
        intro t shots ht
        have hshots := ht.quiet ((addShots_quiet t shots).trans
          (updateEnemyBullets_quiet _ c))
        exact updateLethalEntities_paid
          (collectDoubleLauncherBonus_paid hshots c) c
      exact hend _ _ ((updateGrenades_paid (updateBullets_paid hstart c)
        c).quiet (levelUpdate_quiet _ c))

-- ================================================================ the runs

theorem count_le_bound (m : MapObjects) (kind : Kind) :
    m.count kind ≤ m.bound := by
  unfold MapObjects.bound
  cases kind <;> simp only [MapObjects.count] <;> omega

/-- A new instance. -/
theorem load_paid (m : MapObjects) : Paid m m.load where
  spent := Spent.nil _
  known := by
    intro r hr
    by_cases hkind : r.kind = .doubleLauncher
    · obtain ⟨kind, id⟩ := r
      cases hkind
      rw [live_launcher] at hr
      obtain ⟨launcher, hlauncher, hid, _⟩ := hr
      obtain ⟨n, hn, rfl⟩ := List.mem_map.mp hlauncher
      have hrange := List.mem_range.mp hn
      change n = id at hid
      show id < m.bound
      unfold MapObjects.bound
      omega
    · rw [live_iff hkind] at hr
      obtain ⟨o, ho, hid, _⟩ := hr
      obtain ⟨n, hn, rfl⟩ := List.mem_map.mp ho
      have hrange := List.mem_range.mp hn
      change n = r.id at hid
      have hbound := count_le_bound m r.kind
      show r.id < m.bound
      omega
  launchers := by
    show (((List.range m.doubleLaunchers).map
      fun id => ({ id := id } : DoubleLauncherObstacle)).map
        DoubleLauncherObstacle.id).Nodup
    rw [List.map_map]
    have hid : (DoubleLauncherObstacle.id ∘ fun id =>
        ({ id := id } : DoubleLauncherObstacle)) = id := rfl
    rw [hid, List.map_id]
    exact List.nodup_range
  paid := rfl
  pools := fun _ => ⟨rfl, Nat.zero_le _, by simp [MapObjects.load, beamHits]⟩
  stands := fun _ _ h => .inl h

/-- The instance after some fixed steps. -/
def after (m : MapObjects) (actions : List Action) : Zone :=
  actions.foldl step m.load

theorem after_paid (m : MapObjects) (actions : List Action) :
    Paid m (after m actions) :=
  (load_paid m).foldl (fun _ action h => step_paid h action) actions

-- ======================================================= a destroyed field

/-- The surroundings are the same but for the sides of this field. -/
structure SameApart (sides : List ForceFieldBarrier) (field : Nat)
    (c d : Contacts) : Prop where
  stays : c.stays = d.stays
  meetsTerrain : c.meetsTerrain = d.meetsTerrain
  fires : c.fires = d.fires
  launches : c.launches = d.launches
  touches : c.touches = d.touches
  pistons : c.pistons = d.pistons
  sourceHazard : c.sourceHazard = d.sourceHazard
  meets : ∀ kind, kind ≠ .forceField → ∀ r id,
    c.meets r ⟨kind, id⟩ = d.meets r ⟨kind, id⟩
  hurts : ∀ kind, kind ≠ .forceField → ∀ id,
    c.hurts ⟨kind, id⟩ = d.hurts ⟨kind, id⟩
  meetsSide : ∀ r, ∀ side ∈ sides, side.field ≠ field →
    c.meets r ⟨.forceField, side.id⟩ = d.meets r ⟨.forceField, side.id⟩
  hurtsSide : ∀ side ∈ sides, side.field ≠ field →
    c.hurts ⟨.forceField, side.id⟩ = d.hurts ⟨.forceField, side.id⟩

/-- The sides stay, and this field stays destroyed. -/
structure Dead (sides : List ForceFieldBarrier) (field : Nat) (s : Zone) :
    Prop where
  sides_eq : s.forceFields = sides
  inactive : (s.beamFields field).isActive = false

variable {sides : List ForceFieldBarrier} {field : Nat} {c d : Contacts}

theorem Dead.congr (h : Dead sides field s)
    (hfields : t.beamFields = s.beamFields)
    (hsides : t.forceFields = s.forceFields) : Dead sides field t where
  sides_eq := hsides.trans h.sides_eq
  inactive := by
    rw [hfields]
    exact h.inactive

theorem Dead.quiet (h : Dead sides field s) {r : List Ref}
    (hquiet : Takes r s t) : Dead sides field t :=
  h.congr hquiet.beamFields hquiet.forceFields

theorem Dead.hitByBlaster (h : Dead sides field s) (id : Nat)
    (side : ForceFieldBarrier) :
    Dead sides field (s.hitByBlaster id side) := by
  have hfield : (Function.update s.beamFields side.field
      (s.beamFields side.field).registerHit.2 field).isActive = false := by
    by_cases heq : field = side.field
    · rw [heq, Function.update_self]
      rw [heq] at h
      unfold BeamFieldModel.registerHit
      rw [h.inactive]
      exact h.inactive
    · rw [Function.update_of_ne heq]
      exact h.inactive
  unfold Zone.hitByBlaster
  dsimp only
  split
  · exact ⟨h.sides_eq, hfield⟩
  · exact ⟨h.sides_eq, hfield⟩

theorem move_congr (h : SameApart sides field c d) (s : Zone) (r : Ref) :
    s.move c r = s.move d r := by
  unfold move
  rw [h.stays]

theorem find_congr {α : Type} {p q : α → Bool} {list : List α}
    (h : ∀ a ∈ list, p a = q a) : list.find? p = list.find? q := by
  induction list with
  | nil => rfl
  | cons a list ih =>
      rw [List.find?_cons, List.find?_cons, h a (List.mem_cons_self ..),
        ih fun b hb => h b (List.mem_cons_of_mem _ hb)]

/-- A side of a destroyed field is as good as not there. -/
theorem Dead.side_congr (h : Dead sides field s)
    {p q : ForceFieldBarrier → Bool}
    (hother : ∀ side ∈ sides, side.field ≠ field → p side = q side) :
    ∀ side ∈ s.forceFields, (s.sideActive side && p side)
      = (s.sideActive side && q side) := by
  intro side hside
  rw [h.sides_eq] at hside
  by_cases heq : side.field = field
  · have hdead : s.sideActive side = false := by
      unfold sideActive
      rw [heq]
      exact h.inactive
    rw [hdead]
    rfl
  · rw [hother side hside heq]

theorem updateBullet_dead (hdead : Dead sides field s) (c : Contacts)
    (id : Nat) : Dead sides field (s.updateBullet c id) := by
  have hmoved : Dead sides field (s.move c ⟨.bullet, id⟩) :=
    hdead.quiet (move_quiet s c (by simp [Steady]))
  unfold updateBullet
  dsimp only
  generalize s.move c ⟨.bullet, id⟩ = s at hmoved
  split
  · exact hmoved
  split
  · exact hmoved.congr rfl rfl
  split
  · exact hmoved.congr rfl rfl
  split
  · exact hmoved.congr rfl rfl
  split
  · have hfree : Dead sides field (s.destroy ⟨.bullet, id⟩) :=
      hmoved.congr rfl rfl
    exact hfree.hitByBlaster id _
  split
  · exact hmoved.congr rfl rfl
  · exact hmoved

theorem updateBullet_congr (h : SameApart sides field c d)
    (hdead : Dead sides field s) (id : Nat) :
    s.updateBullet c id = s.updateBullet d id := by
  have hmoved : Dead sides field (s.move d ⟨.bullet, id⟩) :=
    hdead.quiet (move_quiet s d (by simp [Steady]))
  unfold updateBullet
  dsimp only
  rw [move_congr h]
  generalize s.move d ⟨.bullet, id⟩ = s at hmoved
  have hside := find_congr (hmoved.side_congr
    (h.meetsSide (⟨.bullet, id⟩ : Ref)))
  have hfirst : ∀ kind, kind ≠ .forceField → ∀ test : Object → Bool,
      (s.first kind fun o => test o && c.meets ⟨.bullet, id⟩ ⟨kind, o.id⟩)
        = s.first kind fun o =>
          test o && d.meets ⟨.bullet, id⟩ ⟨kind, o.id⟩ := by
    intro kind hkind test
    simp only [h.meets kind hkind]
  have hmeets : ∀ kind, kind ≠ .forceField →
      (s.first kind fun o => c.meets ⟨.bullet, id⟩ ⟨kind, o.id⟩)
        = s.first kind fun o => d.meets ⟨.bullet, id⟩ ⟨kind, o.id⟩ := by
    intro kind hkind
    simp only [h.meets kind hkind]
  have hany : ([Kind.turret, .destructibleObstacle, .incubator].any
        fun kind => (s.first kind fun o =>
          c.meets ⟨.bullet, id⟩ ⟨kind, o.id⟩).isSome)
      = [Kind.turret, .destructibleObstacle, .incubator].any fun kind =>
        (s.first kind fun o =>
          d.meets ⟨.bullet, id⟩ ⟨kind, o.id⟩).isSome := by
    simp only [List.any_cons, List.any_nil, hmeets .turret (by decide),
      hmeets .destructibleObstacle (by decide),
      hmeets .incubator (by decide)]
  rw [hfirst .enemyBullet (by decide), hmeets .bubble (by decide),
    hmeets .egg (by decide), hside, hany, h.meetsTerrain]

theorem updateBullets_congr (h : SameApart sides field c d)
    (hdead : Dead sides field s) :
    s.updateBullets c = s.updateBullets d
      ∧ Dead sides field (s.updateBullets d) := by
  have hloop : ∀ (list : List Ref) (s : Zone), Dead sides field s →
      list.foldl (fun s r => s.updateBullet c r.id) s
        = list.foldl (fun s r => s.updateBullet d r.id) s
      ∧ Dead sides field (list.foldl (fun s r => s.updateBullet d r.id) s)
      := by
    intro list
    induction list with
    | nil => exact fun s hs => ⟨rfl, hs⟩
    | cons r list ih =>
        intro s hs
        rw [List.foldl_cons, List.foldl_cons, updateBullet_congr h hs r.id]
        exact ih _ (updateBullet_dead hs d r.id)
  obtain ⟨hsame, hafter⟩ := hloop (s.refs .bullet) s hdead
  unfold updateBullets
  rw [hsame]
  exact ⟨rfl, hafter.congr rfl rfl⟩

theorem updateGrenade_congr (h : SameApart sides field c d) (s : Zone)
    (id : Nat) : s.updateGrenade c id = s.updateGrenade d id := by
  unfold updateGrenade
  dsimp only
  rw [move_congr h]
  simp only [h.meets .turret (by decide),
    h.meets .destructibleObstacle (by decide),
    h.meets .incubator (by decide), h.meets .guidance (by decide),
    h.meetsTerrain]

theorem updateGrenade_dead (hdead : Dead sides field s) (c : Contacts)
    (id : Nat) : Dead sides field (s.updateGrenade c id) := by
  have hmoved : Dead sides field (s.move c ⟨.grenade, id⟩) :=
    hdead.quiet (move_quiet s c (by simp [Steady]))
  have hblock : ∀ block, Dead sides field
      ((s.move c ⟨.grenade, id⟩).destroyWithGrenade id block) := by
    intro block
    unfold destroyWithGrenade
    split
    · exact hmoved
    · exact hmoved.congr rfl rfl
  unfold updateGrenade
  dsimp only
  split
  · exact hmoved
  split
  · exact hblock _
  split
  · exact hblock _
  split
  · exact hblock _
  split
  · exact hmoved.congr rfl rfl
  split
  · exact hmoved.congr rfl rfl
  · exact hmoved

theorem updateGrenades_congr (h : SameApart sides field c d)
    (hdead : Dead sides field s) :
    s.updateGrenades c = s.updateGrenades d
      ∧ Dead sides field (s.updateGrenades d) := by
  have hsame : (fun (s : Zone) (r : Ref) => s.updateGrenade c r.id)
      = fun s r => s.updateGrenade d r.id := by
    funext s r
    exact updateGrenade_congr h s r.id
  have hloop : ∀ (list : List Ref) (s : Zone), Dead sides field s →
      Dead sides field (list.foldl (fun s r => s.updateGrenade d r.id) s)
      := by
    intro list
    induction list with
    | nil => exact fun s hs => hs
    | cons r list ih =>
        exact fun s hs => ih _ (updateGrenade_dead hs d r.id)
  unfold updateGrenades
  rw [hsame]
  exact ⟨rfl, (hloop _ s hdead).congr rfl rfl⟩

theorem levelUpdate_congr (h : SameApart sides field c d) (s : Zone) :
    s.levelUpdate c = s.levelUpdate d := by
  unfold levelUpdate newShots spawnBubble moveAll move
  rw [h.fires, h.launches, h.stays]

theorem updateEnemyBullets_congr (h : SameApart sides field c d)
    (s : Zone) : s.updateEnemyBullets c = s.updateEnemyBullets d := by
  unfold updateEnemyBullets updateEnemyBullet move
  simp only [h.stays, h.meets .destructibleObstacle (by decide),
    h.meetsTerrain, h.hurts .enemyBullet (by decide)]

theorem payFirst_congr (h : c.touches = d.touches)
    (launchers : List DoubleLauncherObstacle) :
    payFirst c launchers = payFirst d launchers := by
  induction launchers with
  | nil => rfl
  | cons launcher rest ih =>
      unfold payFirst
      rw [h, ih]

theorem meetMines_congr (h : c.touches = d.touches) (s : Zone)
    (mines : List Ref) : meetMines c s mines = meetMines d s mines := by
  induction mines generalizing s with
  | nil => rfl
  | cons mine rest ih =>
      unfold meetMines
      rw [h]
      simp only [ih]

theorem updateLethalEntities_congr (h : SameApart sides field c d)
    (hdead : Dead sides field s) :
    s.updateLethalEntities c = s.updateLethalEntities d := by
  have hmissile : ∀ s : Zone, s.meetMissile c = s.meetMissile d := by
    intro s
    unfold meetMissile
    simp only [h.hurts .missile (by decide)]
  have hcreature : ∀ (s : Zone) (points : Int) (reason : Reason) (kind),
      kind ≠ .forceField → s.meetCreature c kind points reason
        = s.meetCreature d kind points reason := by
    intro s points reason kind hkind
    unfold meetCreature
    simp only [h.hurts kind hkind]
  have hstruck : ∀ s : Zone, Dead sides field s →
      s.struck c = s.struck d := by
    intro s hs
    have hany : (s.forceFields.any fun side => s.sideActive side
        && c.hurts ⟨.forceField, side.id⟩)
        = s.forceFields.any fun side => s.sideActive side
        && d.hurts ⟨.forceField, side.id⟩ := by
      have hsides := hs.side_congr h.hurtsSide
      generalize s.forceFields = list at hsides
      induction list with
      | nil => rfl
      | cons side list ih =>
          rw [List.any_cons, List.any_cons,
            hsides side (List.mem_cons_self ..),
            ih fun other hother => hsides other (List.mem_cons_of_mem _ hother)]
    unfold struck
    rw [h.pistons, h.sourceHazard, hany]
  have hmet : Dead sides field (s.meetMissile d).2 :=
    hdead.quiet (meetMissile_quiet s d)
  unfold updateLethalEntities
  rw [hmissile]
  dsimp only
  generalize s.meetMissile d = met at hmet
  obtain ⟨hit, s⟩ := met
  dsimp only at hmet ⊢
  have hmines : ∀ mine ∈ s.refs .mine, mine.kind = .mine := by
    intro mine hmine
    obtain ⟨o, _, rfl⟩ := List.mem_map.mp hmine
    rfl
  have hmined : Dead sides field (meetMines d s (s.refs .mine)).2 :=
    hmet.quiet (meetMines_quiet d s hmines)
  rw [meetMines_congr h.touches]
  generalize meetMines d s (s.refs .mine) = mined at hmined
  obtain ⟨exploded, s⟩ := mined
  dsimp only at hmined ⊢
  rw [hstruck s hmined, hcreature s 150 .bubble .bubble (by decide),
    hcreature _ 50 .egg .egg (by decide)]

/-- Once a beam field is destroyed, it makes no difference to a step what
meets one of its sides, or whom one of them would hurt. -/
theorem fixedUpdate_congr (h : SameApart s.forceFields field c d)
    (hinactive : (s.beamFields field).isActive = false)
    (player settled : Player) (fire grenade : Bool) :
    s.fixedUpdate player settled fire grenade c
      = s.fixedUpdate player settled fire grenade d := by
  unfold fixedUpdate
  dsimp only
  have hstart : Dead s.forceFields field (if player.isDying then
      { s with player := settled }
    else { s with player := player }.updateWeapons fire grenade) := by
    have hdead : Dead s.forceFields field s := ⟨rfl, hinactive⟩
    split
    · exact hdead.congr rfl rfl
    · exact (hdead.congr rfl rfl : Dead s.forceFields field
        { s with player := player }).quiet (updateWeapons_quiet _ fire grenade)
  obtain ⟨hbullets, hdead⟩ := updateBullets_congr h hstart
  rw [hbullets]
  obtain ⟨hgrenades, hdead⟩ := updateGrenades_congr h hdead
  rw [hgrenades, levelUpdate_congr h]
  have hlevel := hdead.quiet (levelUpdate_quiet _ d)
  rw [updateEnemyBullets_congr h]
  have hend : ∀ (t : Zone) (shots : List ShotKind),
      Dead s.forceFields field t →
      ((((t.addShots shots).updateEnemyBullets d).collectDoubleLauncherBonus
          c).updateLethalEntities c)
        = ((((t.addShots shots).updateEnemyBullets
          d).collectDoubleLauncherBonus d).updateLethalEntities d) := by
    intro t shots ht
    have hshots := ht.quiet ((addShots_quiet t shots).trans
      (updateEnemyBullets_quiet _ d))
    have hbonus : ∀ u : Zone, u.collectDoubleLauncherBonus c
        = u.collectDoubleLauncherBonus d := by
      intro u
      unfold collectDoubleLauncherBonus
      rw [payFirst_congr h.touches]
    rw [hbonus]
    refine updateLethalEntities_congr h ?_
    unfold collectDoubleLauncherBonus
    dsimp only
    split
    · exact hshots.congr rfl rfl
    · exact hshots.congr rfl rfl
  exact hend _ _ hlevel

-- =============================================================== the result

/-- Every entity of the zone has paid its points at most once. -/
structure PaysOnce (m : MapObjects) (s : Zone) : Prop where
  /-- What was awarded is what the hits are worth. -/
  worth : s.awards = payments s.hits
  /-- No entity, no bullet and no grenade is in two hits. -/
  once : (s.hits.flatMap Hit.takes).Nodup
  /-- A block, an egg, a station and a region stands exactly until it is
  hit. -/
  stands : ∀ r, Steady r.kind → m.load.Live r →
    (s.Live r ↔ r ∉ s.hits.flatMap Hit.takes)
  /-- The sides of a beam field stand for 25 hits of any of them. -/
  sides : ∀ side, beamHits side.field s.hits ≤ 25
    ∧ (s.sideActive side = true ↔ beamHits side.field s.hits < 25)
  /-- From then on none of them stops a bullet or hurts the player. -/
  inert : ∀ field, beamHits field s.hits = 25 → ∀ c d,
    SameApart s.forceFields field c d → ∀ player settled fire grenade,
      s.step (.plays player settled fire grenade c)
        = s.step (.plays player settled fire grenade d)

/-- In every instance of every map, after every sequence of fixed steps. -/
theorem zone_pays_once (m : MapObjects) (actions : List Action) :
    PaysOnce m (after m actions) := by
  have h := after_paid m actions
  constructor
  · exact h.paid
  · exact h.spent.nodup
  · intro r hsteady hm
    constructor
    · intro hlive hgone
      exact (h.spent.gone r hgone).2 hlive
    · intro hnot
      exact (h.stands r hsteady hm).resolve_right hnot
  · intro side
    have hpool := h.pools side.field
    exact ⟨hpool.most, hpool.isActive⟩
  · intro field hfull c d hsame player settled fire grenade
    refine fixedUpdate_congr hsame ?_ player settled fire grenade
    have hpool := h.pools field
    rw [← Bool.not_eq_true, hpool.isActive, hfull]
    decide

/-- A turret, and a grenade that meets it in two steps. -/
example : (after ⟨1, 0, 0, 0, 0, 0, 0, []⟩
    [.plays {} {} false true {},
      .plays {} {} false true
        { meets := fun r x => r.kind = .grenade && x = ⟨.turret, 0⟩ }]).awards
    = [(150, .grenadeKill)] := by decide +kernel

end Zone

end Exolon.Zones

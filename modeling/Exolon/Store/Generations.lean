/-
Generations: each piece of work is one task, and of the tasks of one source
only the newest is open.

An intake numbers the tasks of its source from one, and queues a new one only
after the older ones are terminal, which they stay (`Change.terminal`). So in
every reachable state the generations of a source are `1, 2, …, n` in the
order of their creation, and all but the last are over (`Generations`).

What a change leaves alone of a row is in `Keeps`; what the invariant looks at
is all there, except for the states.
-/
import Exolon.Store.Leases

namespace Exolon.Store

open Factory Contracts Transaction Relation

variable {digests : Digests} {call : Call} {db db' : Db} {t t' : Task}
  {h h' : Held}

-- ========================================================= terminal states

theorem not_terminal_of_queued {status : TaskStatus} (hqueued : status.isQueued)
    (hterminal : status.isTerminal) : False := by
  revert status
  decide

theorem not_terminal_of_leased {status : TaskStatus} (hleased : status.isLeased)
    (hterminal : status.isTerminal) : False := by
  revert status
  decide

theorem closeActiveLease_state {clock : Clock}
    (hcloses : closeActiveLease h clock = .ok h') :
    h'.task.state = h.task.state := by
  rcases closeActiveLease_ok hcloses with rfl | hclosed
  · rfl
  · obtain ⟨_, _, _, _, _, _, _, rfl⟩ := hclosed
    rfl

/-- A terminal task stays in its state. -/
theorem Change.terminal (change : Change h h')
    (hterminal : h.task.state.isTerminal) : h'.task.state = h.task.state := by
  cases change with
  | recorded _ => exact record_state _ _ _ _ _ _
  | exhausted hqueued _ _ =>
      exact (not_terminal_of_queued hqueued hterminal).elim
  | renewed => rfl
  | phased hedge =>
      exact (not_terminal_of_leased (leased_of_phaseEdge hedge).1
        hterminal).elim
  | released hlocked _ _ _ =>
      obtain ⟨_, _, _, _, _, _, _, _, _, _, _, _, _, hleased, _⟩ :=
        lockGrant_eq_ok hlocked
      exact (not_terminal_of_leased hleased hterminal).elim
  | @expired runId repairs =>
      unfold Task.expireRun
      split
      · rfl
      · rfl
  | closed _ hcloses => exact closeActiveLease_state hcloses
  | terminated _ hcloses hactive =>
      rw [closeActiveLease_state hcloses, hterminal] at hactive
      cases hactive.2
  | orphaned _ _ _ hcloses =>
      obtain ⟨_, _, _, rfl⟩ := closeRun_eq_ok.mp hcloses
      rfl
  | overdue hqueued => exact (not_terminal_of_queued hqueued hterminal).elim
  | reserved _ hreserves => exact (reserve_ok hreserves).2.2.1
  | observed _ _ hreleases => exact (observe_queue hreleases).1
  | blocked _ => rfl
  | finalized _ hfound _ _ =>
      obtain ⟨_, _, _, _, _, _, _, _, hleased, _⟩ := hfound
      rw [hleased] at hterminal
      cases hterminal

-- ============================================================= invariants

/-- The tasks are of one source. -/
def SameSource (t t' : Task) : Prop :=
  t'.OfIdentity t.repositoryId t.sourceType t.sourceId

/-- The tasks of a source, each with the number of its generation. -/
def Db.generationsOf (db : Db) (repositoryId sourceType sourceId : Text) :
    List Nat :=
  (db.tasks.filter fun t => t.OfIdentity repositoryId sourceType sourceId).map
    Task.generation

/-- The generations of every source, and the keys of the work. -/
structure Db.Generations (db : Db) : Prop where
  numbered : ∀ repositoryId sourceType sourceId,
    Numbered (db.generationsOf repositoryId sourceType sourceId)
  older : db.tasks.Pairwise fun t t' => SameSource t t' → t.state.isTerminal
  work : (db.tasks.map Task.workKey).Nodup
  intents : (db.tasks.map Task.intentDigest).Nodup

theorem taskId_of_created (hsame : t'.created = t.created) :
    t'.taskId = t.taskId := by
  show t'.created.taskId = t.created.taskId
  rw [hsame]

/-- What a row was created with, it is written back with. -/
theorem put_created (hkeyed : db.Keyed) (hfound : db.task? t.taskId = some t)
    (hsame : h.task.created = t.created) :
    (db.put h).tasks.map Task.created = db.tasks.map Task.created := by
  apply Table.map_update
  intro a ha hrow
  have hid : a.taskId = t.taskId :=
    (of_decide_eq_true hrow).trans (taskId_of_created hsame)
  rw [List.inj_on_of_nodup_map hkeyed.tasks ha (task?_some hfound).1 hid]
  exact hsame

theorem generationsOf_created (repositoryId sourceType sourceId : Text) :
    db.generationsOf repositoryId sourceType sourceId
      = ((db.tasks.map Task.created).filter fun t =>
        t.OfIdentity repositoryId sourceType sourceId).map
          Task.generation := by
  unfold Db.generationsOf
  rw [List.filter_map, List.map_map]
  rfl

theorem map_created {α : Type} (f : Task → α) (hf : ∀ t, f t = f t.created)
    (tasks : List Task) : tasks.map f = (tasks.map Task.created).map f := by
  rw [List.map_map]
  exact List.map_congr_left fun t _ => hf t

/-- A task that is written back keeps its generation, and a terminal one its
state. -/
theorem Db.Generations.put (hg : db.Generations) (hkeyed : db.Keyed)
    (hfound : db.task? t.taskId = some t)
    (hrows : h.task.created = t.created)
    (hterminal : t.state.isTerminal → h.task.state.isTerminal) :
    (db.put h).Generations := by
  have hcreated := put_created hkeyed hfound hrows
  refine ⟨?_, ?_, ?_, ?_⟩
  · intro repositoryId sourceType sourceId
    rw [generationsOf_created, hcreated, ← generationsOf_created]
    exact hg.numbered _ _ _
  · have hrow : ∀ a ∈ db.tasks,
        (if decide (a.taskId = h.task.taskId) then h.task else a).created
          = a.created
        ∧ (a.state.isTerminal →
          (if decide (a.taskId = h.task.taskId) then h.task
            else a).state.isTerminal) := by
      intro a ha
      by_cases hid : a.taskId = h.task.taskId
      · rw [if_pos (decide_eq_true hid)]
        have hsame := hid.trans (taskId_of_created hrows)
        rw [List.inj_on_of_nodup_map hkeyed.tasks ha (task?_some hfound).1
          hsame]
        exact ⟨hrows, hterminal⟩
      · rw [if_neg (by rw [decide_eq_true_eq]; exact hid)]
        exact ⟨rfl, id⟩
    show (Table.update _ _ db.tasks).Pairwise _
    unfold Table.update
    rw [List.pairwise_map]
    refine hg.older.imp_of_mem ?_
    intro a b ha hb hover hsame
    obtain ⟨hca, hta⟩ := hrow a ha
    obtain ⟨hcb, _⟩ := hrow b hb
    apply hta
    apply hover
    show SameSource a.created b.created
    rw [← hca, ← hcb]
    exact hsame
  · rw [map_created Task.workKey (fun _ => rfl), hcreated,
      ← map_created Task.workKey fun _ => rfl]
    exact hg.work
  · rw [map_created Task.intentDigest (fun _ => rfl), hcreated,
      ← map_created Task.intentDigest fun _ => rfl]
    exact hg.intents

/-- A new task has the next generation of its source, and the older ones are
over. -/
theorem Db.Generations.append (hg : db.Generations)
    (hchecked : db.checkTask t = .ok ()) (hkeeps : Keeps t t')
    (hnext : t.generation
      = (db.generationsOf t.repositoryId t.sourceType t.sourceId).foldr max 0
        + 1) : Db.Generations { db with tasks := db.tasks ++ [t'] } := by
  obtain ⟨hfresh, hover⟩ := checkTask_eq_ok.mp hchecked
  have hcreated := hkeeps.1
  have hfield : ∀ {α : Type} (f : Task → α), (∀ t, f t = f t.created) →
      f t' = f t := by
    intro α f hf
    rw [hf t', hcreated, ← hf t]
  have hsource : ∀ a b c, t'.OfIdentity a b c ↔ t.OfIdentity a b c := by
    intro a b c
    exact iff_of_eq (hfield (fun t => t.OfIdentity a b c) fun _ => rfl)
  refine ⟨?_, ?_, ?_, ?_⟩
  · intro a b c
    unfold Db.generationsOf
    rw [List.filter_append, List.map_append]
    by_cases hof : t.OfIdentity a b c
    · rw [List.filter_cons_of_pos
          (by exact decide_eq_true ((hsource a b c).mpr hof)), List.filter_nil, List.map_singleton,
        hfield Task.generation fun _ => rfl, hnext]
      obtain ⟨rfl, rfl, rfl⟩ := hof
      exact (hg.numbered _ _ _).append
    · rw [List.filter_cons_of_neg (by simpa [hsource] using hof),
        List.filter_nil, List.map_nil, List.append_nil]
      exact hg.numbered a b c
  · show (db.tasks ++ [t']).Pairwise _
    rw [List.pairwise_append]
    refine ⟨hg.older, List.pairwise_singleton _ _, ?_⟩
    intro a ha b hb hsame
    rw [List.mem_singleton.mp hb] at hsame
    have hof := (hsource _ _ _).mp hsame
    refine (hover a ha ?_).2
    exact ⟨hof.1.symm, hof.2.1.symm, hof.2.2.symm⟩
  · show ((db.tasks ++ [t']).map Task.workKey).Nodup
    rw [List.map_append, List.nodup_append]
    refine ⟨hg.work, List.nodup_singleton _, ?_⟩
    intro a ha b hb
    obtain ⟨s, hs, rfl⟩ := List.mem_map.mp ha
    rw [List.mem_singleton.mp hb, hfield Task.workKey fun _ => rfl]
    exact (hfresh s hs).2.2
  · show ((db.tasks ++ [t']).map Task.intentDigest).Nodup
    rw [List.map_append, List.nodup_append]
    refine ⟨hg.intents, List.nodup_singleton _, ?_⟩
    intro a ha b hb
    obtain ⟨s, hs, rfl⟩ := List.mem_map.mp ha
    rw [List.mem_singleton.mp hb, hfield Task.intentDigest fun _ => rfl]
    exact (hfresh s hs).2.1

theorem Move.generations (move : Move call db db') (hkeyed : db.Keyed)
    (hg : db.Generations) : db'.Generations := by
  cases move with
  | changed found change =>
      refine hg.put hkeyed found change.keeps.1 ?_
      intro hterminal
      rw [change.terminal hterminal]
      exact hterminal
  | leased found hqueued _ _ _ _ _ _ =>
      refine hg.put hkeyed found rfl ?_
      intro hterminal
      exact (not_terminal_of_queued hqueued hterminal).elim
  | created _ hnext hchecked hqueued =>
      obtain ⟨_, rfl⟩ := event_eq_ok.mp hqueued
      exact hg.append hchecked (keeps_record _ _ _ _ _ _) hnext
  | recorded _ => exact ⟨hg.numbered, hg.older, hg.work, hg.intents⟩
  | switched _ => exact ⟨hg.numbered, hg.older, hg.work, hg.intents⟩

theorem generations_empty : Db.Generations {} :=
  ⟨fun _ _ _ => .nil, .nil, List.nodup_nil, List.nodup_nil⟩

/-- In every reachable state the tasks of each source have the generations
`1, 2, …, n` in the order of their creation, all but the newest of them are
over, and no two tasks are of the same work or intent. -/
theorem one_open_generation {digests : Digests} {db : Db}
    (hreach : Run.Reachable (step digests) {} db) :
    (∀ repositoryId sourceType sourceId,
      db.generationsOf repositoryId sourceType sourceId
        = List.range' 1
          (db.generationsOf repositoryId sourceType sourceId).length)
      ∧ (db.tasks.Pairwise fun t t' =>
        t'.OfIdentity t.repositoryId t.sourceType t.sourceId →
          t.state.isTerminal)
      ∧ (db.tasks.map Task.workKey).Nodup
      ∧ (db.tasks.map Task.intentDigest).Nodup := by
  have hg := (reachable_preserves (I := Db.Generations)
    (fun hkeyed hg move => move.generations hkeyed hg) generations_empty
    hreach).2
  exact ⟨hg.numbered, hg.older, hg.work, hg.intents⟩

theorem one_open_generation_sample :
    ∃ db, Run.Reachable (step sampleDigests) {} db
      ∧ Run.run (step sampleDigests) {} [sampleCall 2 (by decide), sampleClaim]
        = some db
      ∧ (db.tasks.map Task.workKey).Nodup := by
  have hreach : Run.Reachable (step sampleDigests) {}
      (Db.after sampleDigests
        (Db.after sampleDigests {} (sampleCall 2 (by decide))) sampleClaim) :=
    ⟨[sampleCall 2 (by decide), sampleClaim], rfl⟩
  exact ⟨_, hreach, rfl, (one_open_generation hreach).2.2.1⟩

-- ============================================================ superseded

/-- A terminal task is found in its state after every move. -/
theorem Move.terminal (move : Move call db db') {taskId : Uuid}
    (hfound : db.task? taskId = some t) (hterminal : t.state.isTerminal) :
    ∃ t', db'.task? taskId = some t' ∧ t'.state = t.state := by
  cases move with
  | @changed s h found change =>
      have hsame : h.task.taskId = s.taskId := change.keeps.taskId
      by_cases hid : taskId = s.taskId
      · have hput := task?_put found hsame
        rw [hid, found] at hfound
        cases hfound
        rw [hsame, ← hid] at hput
        exact ⟨h.task, hput, change.terminal hterminal⟩
      · refine ⟨t, ?_, rfl⟩
        rw [task?_put_of_ne (by rw [hsame]; exact hid)]
        exact hfound
  | @leased s request reads hleft found hqueued _ _ _ _ _ _ =>
      by_cases hid : taskId = s.taskId
      · rw [hid, found] at hfound
        cases hfound
        exact (not_terminal_of_queued hqueued hterminal).elim
      · refine ⟨t, ?_, rfl⟩
        rw [task?_put_of_ne (by exact hid)]
        exact hfound
  | created _ _ _ _ =>
      refine ⟨t, ?_, rfl⟩
      unfold Db.task? at hfound ⊢
      rw [List.find?_append, hfound]
      rfl
  | recorded _ => exact ⟨t, hfound, rfl⟩
  | switched _ => exact ⟨t, hfound, rfl⟩

theorem Moves.terminal (moves : Moves call db db') {taskId : Uuid}
    (hfound : db.task? taskId = some t) (hterminal : t.state.isTerminal) :
    ∃ t', db'.task? taskId = some t' ∧ t'.state = t.state := by
  induction moves with
  | refl => exact ⟨t, hfound, rfl⟩
  | tail _ move ih =>
      obtain ⟨t₁, ht₁, hstate⟩ := ih
      rw [← hstate] at hterminal
      obtain ⟨t₂, ht₂, hstate'⟩ := move.terminal ht₁ hterminal
      exact ⟨t₂, ht₂, hstate'.trans hstate⟩

/-- A task that is terminated is left in the target, a terminal one as it
was. -/
theorem terminalizeTask_state {target : TaskStatus} {clock : Clock}
    {attempts : Nat} {result : Option Terminalization}
    (hdone : terminalizeTask target clock attempts h = .ok (result, h')) :
    h'.task.state = target ∨ result = none ∧ h.task.state.isTerminal := by
  induction attempts with
  | zero => cases hdone
  | succ attempts ih =>
      unfold terminalizeTask at hdone
      rw [bind_eq_ok] at hdone
      obtain ⟨⟨turn, h₁⟩, hturn, hdone⟩ := hdone
      have hok := terminalizeTurn_ok hturn
      cases turn with
      | changed _ =>
          cases hdone
          obtain ⟨closed, _, _, _, rfl⟩ := hok
          exact .inl rfl
      | terminal =>
          cases hdone
          obtain ⟨closed, hcloses, hterminal, rfl⟩ := hok
          rw [closeActiveLease_state hcloses] at hterminal
          exact .inr ⟨rfl, hterminal⟩
      | leased =>
          rw [terminalizeTurn_leased hturn] at hdone
          exact ih hdone

/-- An open task of the source is superseded. -/
theorem supersedeTask_state {intake : TaskIntakeV1} {actor : Actor}
    {reads : IntakeReadings} {oldId : Uuid} {answer : Unit}
    (hactive : h.task.state.isTerminal = false)
    (hok : supersedeTask digests intake actor reads oldId h
      = .ok (answer, h')) : h'.task.state = .superseded := by
  unfold supersedeTask at hok
  rw [bind_eq_ok] at hok
  obtain ⟨⟨result, h₁⟩, hdone, hok⟩ := hok
  obtain hstate | ⟨_, hterminal⟩ := terminalizeTask_state hdone
  · cases result with
    | none =>
        cases hok
        exact hstate
    | some result =>
        simp only [bind_eq_ok, event_eq_ok] at hok
        obtain ⟨_, _, t, ⟨_, rfl⟩, hok⟩ := hok
        cases hok
        show (Task.record _ _ _ _ _ _).state = _
        rw [record_state]
        exact hstate
  · rw [hactive] at hterminal
    cases hterminal

/-- All the open tasks of the list are superseded. -/
theorem supersedeAll_state {i : TaskIntakeV1} {actor : Actor}
    {reads : IntakeReadings} {oldIds : List Uuid} (hkeyed : db.Keyed)
    (hok : supersedeAll digests i actor reads oldIds db = .ok db')
    {oldId : Uuid} (hold : oldId ∈ oldIds) (hfound : db.task? oldId = some t)
    (hactive : t.state.isTerminal = false) :
    ∃ t', db'.task? oldId = some t' ∧ t'.state = .superseded := by
  induction oldIds generalizing db with
  | nil => cases hold
  | cons firstId rest ih =>
      unfold supersedeAll supersede Db.onTask at hok
      simp only [bind_eq_ok, fetch_eq_ok] at hok
      obtain ⟨db₁, ⟨_, ⟨s, hs, ⟨_, h⟩, hanswer, hput⟩, hdb₁⟩, hok⟩ := hok
      cases hput
      cases hdb₁
      have hkeeps : Keeps s h.task :=
        (changes_supersedeTask hanswer).keeps
      have hput := hs
      rw [← (task?_some hs).2] at hput
      have hmoves : Moves (.intake i actor reads) db (db.put h) :=
        moves_put hkeyed hput (changes_supersedeTask hanswer)
      have hkeyed₁ := hmoves.keyed hkeyed
      by_cases hfirst : oldId = firstId
      · rw [← hfirst] at hs
        rw [hfound] at hs
        cases hs
        have hstate := supersedeTask_state hactive hanswer
        have hfound₁ : (db.put h).task? oldId = some h.task := by
          rw [← (task?_some hfound).2, ← hkeeps.taskId]
          exact task?_put hput hkeeps.taskId
        have hlater : Moves (.intake i actor reads) (db.put h) db' :=
          moves_supersedeAll hkeyed₁ hok
        obtain ⟨t', ht', hstate'⟩ := hlater.terminal hfound₁ (by
          rw [hstate]
          rfl)
        exact ⟨t', ht', hstate'.trans hstate⟩
      · have hrest : oldId ∈ rest := by
          rcases List.mem_cons.mp hold with hold | hold
          · exact absurd hold hfirst
          · exact hold
        refine ih hkeyed₁ hok hrest ?_
        rw [task?_put_of_ne]
        · exact hfound
        · rw [hkeeps.taskId, (task?_some hs).2]
          exact hfirst

/-- An intake that queues a task has superseded the open ones of its
source. -/
theorem intake_queued {i : TaskIntakeV1} {actor : Actor} {reads : IntakeReadings}
    {answer : IntakeResult}
    (hok : intake digests i actor reads db = .ok (answer, db'))
    (hqueued : db.tasks.length < db'.tasks.length) :
    ∃ db₁ s, supersedeAll digests i actor reads
        ((db.tasks.filter fun t =>
          t.IsOf i ∧ t.state.isTerminal = false).map Task.taskId) db = .ok db₁
      ∧ db'.tasks = db₁.tasks ++ [s] := by
  rcases keyed_ok hok with rfl | hran
  · exact absurd hqueued (lt_irrefl _)
  obtain ⟨db₂, hbody, hrecord⟩ := hran
  simp only [bind_eq_ok] at hbody
  obtain ⟨_, _, _, _, hbody⟩ := hbody
  have hrows : db'.tasks = db₂.tasks := by
    unfold Db.recordCommand at hrecord
    simp only [bind_eq_ok] at hrecord
    obtain ⟨_, _, hrecord⟩ := hrecord
    cases hrecord
    rfl
  rw [hrows] at hqueued ⊢
  cases hfound : db.tasks.find? fun t => t.workKey = i.idempotencyKey with
  | some _ =>
      rw [hfound] at hbody
      cases hbody
      exact absurd hqueued (lt_irrefl _)
  | none =>
      rw [hfound] at hbody
      simp only [bind_eq_ok] at hbody
      obtain ⟨_, _, hbody⟩ := hbody
      unfold createGeneration at hbody
      simp only [bind_eq_ok] at hbody
      obtain ⟨db₁, hall, _, _, s, _, hbody⟩ := hbody
      cases hbody
      exact ⟨db₁, s, hall, rfl⟩

theorem reachable_after (hreach : Run.Reachable (step digests) {} db)
    (call : Call) :
    Run.Reachable (step digests) {} (db.after digests call) := by
  obtain ⟨calls, hrun⟩ := hreach
  refine ⟨calls ++ [call], ?_⟩
  rw [Run.run_append, hrun]
  rfl

/-- An intake that queues a task leaves every open task of its source
superseded, without a lease and without capacity. -/
theorem superseded_released {digests : Digests} {db : Db} {i : TaskIntakeV1}
    {actor : Actor} {reads : IntakeReadings}
    (hreach : Run.Reachable (step digests) {} db)
    (hqueued : db.tasks.length
      < (db.after digests (.intake i actor reads)).tasks.length) :
    ∀ t ∈ db.tasks, t.IsOf i → t.state.isTerminal = false →
      ∃ t', (db.after digests (.intake i actor reads)).task? t.taskId = some t'
        ∧ t'.state = .superseded ∧ t'.currentRunId = none
        ∧ ∀ r ∈ t'.runs,
          r.releasedAt ≠ none ∧ r.allocation.releasedAt ≠ none := by
  intro t ht hof hactive
  have hkeyed := (reachable_leasing hreach).1
  have hleasing := (reachable_leasing
    (reachable_after hreach (.intake i actor reads))).2
  have hsuperseded : ∃ t', (db.after digests
      (.intake i actor reads)).task? t.taskId = some t'
        ∧ t'.state = .superseded := by
    revert hqueued
    refine commit_preserves (I := fun db' : Db =>
      db.tasks.length < db'.tasks.length →
        ∃ t', db'.task? t.taskId = some t' ∧ t'.state = .superseded) ?_ ?_
    · intro answer db' hok hqueued
      obtain ⟨db₁, s, hall, hrows⟩ := intake_queued hok hqueued
      have hold : t.taskId ∈ (db.tasks.filter fun t =>
          t.IsOf i ∧ t.state.isTerminal = false).map Task.taskId :=
        List.mem_map_of_mem (List.mem_filter.mpr
          ⟨ht, decide_eq_true ⟨hof, hactive⟩⟩)
      obtain ⟨t', ht', hstate⟩ := supersedeAll_state hkeyed hall hold
        (task?_mem hkeyed ht) hactive
      refine ⟨t', ?_, hstate⟩
      unfold Db.task? at ht' ⊢
      rw [hrows, List.find?_append, ht']
      rfl
    · intro hsame
      exact absurd hsame (lt_irrefl _)
  obtain ⟨t', ht', hstate⟩ := hsuperseded
  have hl := hleasing.tasks t' (task?_some ht').1
  have hfree : t'.state.isLeased = false := by
    rw [hstate]
    rfl
  refine ⟨t', ht', hstate, (hl.free hfree).1, ?_⟩
  intro r hr
  have hnone := hl.none_holds hfree r hr
  unfold Run.Holds at hnone
  push Not at hnone
  exact hnone

/-- Two digests, by the request. -/
def twoDigests : Digests where
  event := fun _ => .genesis
  request := fun _ => .genesis
  intakeCommandKey := fun requestId =>
    if requestId = "request".toList then .genesis else sampleKey
  usageObservationKey := fun key => key

/-- Another intake of the same source. -/
def nextCall : Call :=
  .intake
    { sampleIntake 2 (by decide) with
      requestId := "next".toList
      intentDigest := sampleKey
      idempotencyKey := sampleKey }
    { actorId := "intake".toList, kind := .controlPlane }
    { clock := sampleClock
      taskId := {
        text := "00000000-0000-4000-8000-000000000002".toList
        canonical := rfl }
      trusted := true
      repairStatus := .ordinary
      projected := fun _ => true }

theorem superseded_released_sample :
    ∃ db t t', Run.Reachable (step twoDigests) {} db ∧ t ∈ db.tasks
      ∧ db.tasks.length < (db.after twoDigests nextCall).tasks.length
      ∧ (db.after twoDigests nextCall).task? t.taskId = some t'
      ∧ t'.state = .superseded := by
  have hreach : Run.Reachable (step twoDigests) {}
      (Db.after twoDigests {} (sampleCall 2 (by decide))) :=
    ⟨[sampleCall 2 (by decide)], rfl⟩
  have hqueued : (Db.after twoDigests {} (sampleCall 2 (by decide))).tasks.length
      < ((Db.after twoDigests {} (sampleCall 2 (by decide))).after twoDigests
        nextCall).tasks.length :=
    Nat.lt_succ_self 1
  obtain ⟨t', ht', hstate, _⟩ := superseded_released hreach hqueued _
    (List.Mem.head _) ⟨rfl, rfl, rfl⟩ rfl
  exact ⟨_, _, t', hreach, List.Mem.head _, hqueued, ht', hstate⟩

end Exolon.Store

/-
The history of a task: its events, read page by page.

The events of a task are numbered from one, and no event is written again or
taken away (`Change.events`, `Move.events`). So a reader that follows the
cursors gets every event once and in order, whatever page sizes it asks for,
and whatever the store does between two pages (`Reader`).

A page is refused where one of its rows, or the row behind it, is not a
history event (`Event.isSnapshot`). The event of a finalization has the digest
of its result in its metadata, which is not one of the fields that are
allowed; so from the finalization of a run on, the end of the history of its
task cannot be read.
-/
import Exolon.Lib.Pages
import Exolon.Store.Fencing
import Exolon.Store.Generations

namespace Exolon.Store

open Factory Contracts Transaction Relation

-- =============================================================== snapshots

/-- `_history_text`, of up to 128 bytes -/
def isHistoryText (text : Text) : Bool :=
  text ≠ [] && (utf8 text).length ≤ 128 && text.all fun c => 32 ≤ c.toNat

/-- A field that `_validate_event_metadata` allows. -/
def isMetadataField : String × MetadataValue → Bool
  | ("generation", .number n) => 1 ≤ n && n ≤ 2147483647
  | ("run_id", .uuid _) => true
  | ("fence", .number n) => 1 ≤ n && n ≤ 9223372036854775807
  | ("role", .role _) => true
  | ("attempts", .number n) => n ≤ 3
  | ("infrastructure_retries", .number n) => n ≤ 2
  | ("replacement_intent_digest", .digest _) => true
  | ("accounting_quarantined", .flag _) => true
  | ("from_state", .status _) => true
  | ("target", .status _) => true
  | ("reason", .text text) => isHistoryText text
  | ("operation", .operation _) => true
  | _ => false

/-- `_event_snapshot` takes the row. -/
def Event.isSnapshot (e : Event) : Bool :=
  1 ≤ e.sequence && e.sequence ≤ 9223372036854775807
    && e.metadata.all isMetadataField && isHistoryText e.actorId

/-- What `list_task_events` raises: a `ValueError`, or an error of the
store. -/
inductive ListFailure
  | value (reason : String)
  | store (failure : Failure)
  deriving DecidableEq

/-- `list_task_events` -/
def listTaskEvents (taskId : Uuid) (limit : Nat) (cursor : Option Nat)
    (authorized : Text → Bool) (db : Db) :
    Except ListFailure (List Event × Option Nat) := do
  check (1 ≤ limit ∧ limit ≤ 100) (.value "limit must be 1..100")
  check (∀ c ∈ cursor, c ≤ 9223372036854775807)
    (.value "cursor must be nonnegative")
  let t ← fetch (db.task? taskId) (.store (.key taskId))
  check (authorized t.repositoryId)
    (.store (.authority "repository is not authorized"))
  let rows := (Pages.behind Event.sequence cursor t.events).take (limit + 1)
  check (∀ e ∈ rows, e.isSnapshot)
    (.store (.unavailable "event history invariant failed"))
  let items := rows.take limit
  return (items,
    if limit < rows.length then items.getLast?.map Event.sequence else none)

variable {digests : Digests} {call : Call} {db db' : Db} {t t' : Task}
  {h h' : Held}

/-- A page that is answered is a page of the events. -/
theorem listTaskEvents_eq_ok {taskId : Uuid} {limit : Nat}
    {cursor : Option Nat} {authorized : Text → Bool}
    {answer : List Event × Option Nat}
    (hok : listTaskEvents taskId limit cursor authorized db = .ok answer) :
    ∃ t, db.task? taskId = some t ∧ 1 ≤ limit
      ∧ (∀ e ∈ (Pages.behind Event.sequence cursor t.events).take (limit + 1),
        e.isSnapshot)
      ∧ answer = Pages.page Event.sequence limit cursor t.events := by
  unfold listTaskEvents at hok
  simp only [bind_eq_ok, check_eq_ok, fetch_eq_ok] at hok
  obtain ⟨_, hlimit, _, _, t, ht, _, _, _, hrows, hok⟩ := hok
  refine ⟨t, ht, hlimit.1, hrows, ?_⟩
  cases hok
  unfold Pages.page
  dsimp only
  rw [List.take_take, Nat.min_eq_left (Nat.le_succ limit), List.length_take]
  have hmore : limit < min (limit + 1)
      (Pages.behind Event.sequence cursor t.events).length
      ↔ limit < (Pages.behind Event.sequence cursor t.events).length := by
    omega
  simp only [hmore]

-- ================================================================== events

/-- Events are added behind the others, each with the next number. -/
structure Grows (t t' : Task) : Prop where
  events : t.events <+: t'.events
  numbered : Numbered (t.events.map Event.sequence) →
    Numbered (t'.events.map Event.sequence)

theorem grows_of_events (hsame : t'.events = t.events) : Grows t t' := by
  refine ⟨?_, ?_⟩
  · rw [hsame]
  · rw [hsame]
    exact id

theorem grows_record (t : Task) (actor : Actor) (action : EventAction)
    (key : Digest) (metadata : List (String × MetadataValue))
    (mandatory : Bool) :
    Grows t (t.record actor action key metadata mandatory) := by
  unfold Task.record
  split
  · exact grows_of_events rfl
  · refine ⟨List.prefix_append _ _, ?_⟩
    intro hnumbered
    show Numbered ((t.events ++ [_]).map Event.sequence)
    rw [List.map_append]
    exact hnumbered.append

theorem record_events (t : Task) (actor : Actor) (action : EventAction)
    (key : Digest) (metadata : List (String × MetadataValue))
    (mandatory : Bool) :
    (t.record actor action key metadata mandatory).events = t.events
      ∨ ∃ e : Event, e.metadata = metadata
        ∧ (t.record actor action key metadata mandatory).events
          = t.events ++ [e] := by
  unfold Task.record
  split
  · exact .inl rfl
  · exact .inr ⟨_, rfl, rfl⟩

/-- A change adds to the events of a task. -/
theorem Change.grows (change : Change h h') : Grows h.task h'.task := by
  have hclosed : ∀ {h h' : Held} {clock : Clock},
      closeActiveLease h clock = .ok h' → h'.task.events = h.task.events := by
    intro h h' clock hcloses
    exact (closeActiveLease_queue hcloses).2.1
  cases change with
  | recorded _ => exact grows_record _ _ _ _ _ _
  | exhausted _ _ _ => exact grows_of_events rfl
  | renewed => exact grows_of_events rfl
  | phased _ => exact grows_of_events rfl
  | released _ _ _ _ => exact grows_of_events rfl
  | @expired runId repairs =>
      refine grows_of_events ?_
      unfold Task.expireRun
      split
      · rfl
      · rfl
  | closed _ hcloses => exact grows_of_events (hclosed hcloses)
  | terminated _ hcloses _ =>
      have hevents := hclosed hcloses
      exact grows_of_events hevents
  | orphaned _ _ _ hcloses =>
      obtain ⟨_, _, _, rfl⟩ := closeRun_eq_ok.mp hcloses
      exact grows_of_events rfl
  | overdue _ => exact grows_of_events rfl
  | reserved _ hreserves => exact grows_of_events (reserve_ok hreserves).2.2.2
  | observed _ _ hreleases =>
      exact grows_of_events (observe_queue hreleases).2.1
  | blocked _ => exact grows_of_events rfl
  | finalized _ _ _ hcommits =>
      obtain ⟨_, _, rfl, hevents⟩ := finalizeCommit_ok hcommits
      exact grows_of_events hevents

/-- The events of every task are numbered. -/
def Db.Histories (db : Db) : Prop :=
  ∀ t ∈ db.tasks, Numbered (t.events.map Event.sequence)

theorem Move.histories (move : Move call db db') (hn : db.Histories) :
    db'.Histories := by
  cases move with
  | changed found change =>
      intro t' ht'
      rcases mem_put ht' with rfl | ⟨ht', _⟩
      · exact change.grows.numbered (hn _ (task?_some found).1)
      · exact hn t' ht'
  | @leased t _ _ _ found _ _ _ _ _ _ _ =>
      intro t' ht'
      rcases mem_put ht' with rfl | ⟨ht', _⟩
      · exact hn t (task?_some found).1
      · exact hn t' ht'
  | created _ _ _ hqueued =>
      intro t' ht'
      rcases List.mem_append.mp ht' with ht' | ht'
      · exact hn t' ht'
      · obtain ⟨_, rfl⟩ := event_eq_ok.mp hqueued
        rw [List.mem_singleton.mp ht']
        exact (grows_record _ _ _ _ _ _).numbered .nil
  | recorded _ => exact hn
  | switched _ => exact hn

theorem after_histories (digests : Digests) (call : Call)
    (hkeyed : db.Keyed) (hn : db.Histories) :
    (db.after digests call).Keyed ∧ (db.after digests call).Histories :=
  after_preserves hkeyed (fun _ hn move => move.histories hn) hn

/-- The events of a task are there after every move, behind them new ones. -/
theorem Move.events (move : Move call db db') {taskId : Uuid}
    (hfound : db.task? taskId = some t) :
    ∃ t', db'.task? taskId = some t' ∧ t.events <+: t'.events := by
  cases move with
  | @changed s h found change =>
      have hsame : h.task.taskId = s.taskId := change.keeps.taskId
      by_cases hid : taskId = s.taskId
      · have hput := task?_put found hsame
        rw [hid, found] at hfound
        cases hfound
        rw [hsame, ← hid] at hput
        exact ⟨h.task, hput, change.grows.events⟩
      · refine ⟨t, ?_, List.prefix_rfl⟩
        rw [task?_put_of_ne (by rw [hsame]; exact hid)]
        exact hfound
  | @leased s request reads hleft found _ _ _ _ _ _ _ =>
      by_cases hid : taskId = s.taskId
      · have hput := task?_put (h := (db.held s).leased
          (leasedRun s request reads hleft)) found rfl
        rw [hid, found] at hfound
        cases hfound
        refine ⟨((db.held t).leased (leasedRun t request reads hleft)).task,
          ?_, List.prefix_rfl⟩
        rw [hid]
        exact hput
      · refine ⟨t, ?_, List.prefix_rfl⟩
        rw [task?_put_of_ne (by exact hid)]
        exact hfound
  | created _ _ _ _ =>
      refine ⟨t, ?_, List.prefix_rfl⟩
      unfold Db.task? at hfound ⊢
      rw [List.find?_append, hfound]
      rfl
  | recorded _ => exact ⟨t, hfound, List.prefix_rfl⟩
  | switched _ => exact ⟨t, hfound, List.prefix_rfl⟩

theorem after_events (hkeyed : db.Keyed) (call : Call) {taskId : Uuid}
    (hfound : db.task? taskId = some t) :
    ∃ t', (db.after digests call).task? taskId = some t'
      ∧ t.events <+: t'.events := by
  have hmoves := after_moves digests call hkeyed
  generalize db.after digests call = db' at hmoves
  induction hmoves with
  | refl => exact ⟨t, hfound, List.prefix_rfl⟩
  | tail _ move ih =>
      obtain ⟨t₁, ht₁, hevents⟩ := ih
      obtain ⟨t₂, ht₂, hevents'⟩ := move.events ht₁
      exact ⟨t₂, ht₂, hevents.trans hevents'⟩

-- ================================================================== readers

/-- A client that lists the events of a task, beside the calls of others. -/
structure Reader where
  db : Db
  seen : List Event := []
  cursor : Option Nat := none
  done : Bool := false

/-- A call of the store, or the next page. -/
inductive Listing
  | call (call : Call)
  | page (limit : Nat)

/-- A step of the reader; it stops at a page that is refused, and after the
last one. -/
def Reader.step (digests : Digests) (taskId : Uuid)
    (authorized : Text → Bool) (r : Reader) : Listing → Option Reader
  | .call call => some { r with db := r.db.after digests call }
  | .page limit =>
      if r.done then none
      else
        match listTaskEvents taskId limit r.cursor authorized r.db with
        | .error _ => none
        | .ok (items, next) =>
            some { r with
              seen := r.seen ++ items
              cursor := next
              done := next.isNone }

/-- The events of a task; none where the task is not there. -/
def Db.eventsOf (db : Db) (taskId : Uuid) : List Event :=
  ((db.task? taskId).map Task.events).getD []

theorem eventsOf_eq {taskId : Uuid} (hfound : db.task? taskId = some t) :
    db.eventsOf taskId = t.events := by
  unfold Db.eventsOf
  rw [hfound]
  rfl

/-- A call adds to the events of a task. -/
theorem after_eventsOf (hkeyed : db.Keyed) (call : Call) (taskId : Uuid) :
    db.eventsOf taskId <+: (db.after digests call).eventsOf taskId := by
  cases hfound : db.task? taskId with
  | none =>
      unfold Db.eventsOf
      rw [hfound]
      exact List.nil_prefix
  | some t =>
      obtain ⟨t', ht', hevents⟩ := after_events hkeyed call hfound
      rw [eventsOf_eq hfound, eventsOf_eq ht']
      exact hevents

theorem Db.Histories.numbered (hn : db.Histories) (taskId : Uuid) :
    Numbered ((db.eventsOf taskId).map Event.sequence) := by
  cases hfound : db.task? taskId with
  | none =>
      unfold Db.eventsOf
      rw [hfound]
      exact .nil
  | some t =>
      rw [eventsOf_eq hfound]
      exact hn t (task?_some hfound).1

theorem Db.Histories.sorted (hn : db.Histories) (taskId : Uuid) :
    (db.eventsOf taskId).Pairwise fun a b => a.sequence < b.sequence :=
  List.pairwise_map.mp (hn.numbered taskId).pairwise

/-- What a reader has seen are the first events of the task; before the last
page, the ones up to its cursor. -/
structure Reader.Follows (taskId : Uuid) (r : Reader) : Prop where
  keyed : r.db.Keyed
  histories : r.db.Histories
  first : r.seen <+: r.db.eventsOf taskId
  read : r.done = false →
    Pages.Read Event.sequence (r.db.eventsOf taskId) r.seen r.cursor

theorem histories_empty : Db.Histories {} := by
  intro t ht
  cases ht

variable {taskId : Uuid} {authorized : Text → Bool} {r r' : Reader}

/-- A page that the reader gets: the next events, and all that are left if it
is the last one. -/
theorem Reader.Follows.page {limit : Nat} (hr : r.Follows taskId)
    (hstep : r.step digests taskId authorized (.page limit) = some r') :
    r'.Follows taskId ∧ r'.db = r.db
      ∧ (r'.done → r'.seen = r.db.eventsOf taskId) := by
  unfold Reader.step at hstep
  dsimp only at hstep
  split at hstep
  case isTrue => cases hstep
  case isFalse hopen =>
    rw [Bool.not_eq_true] at hopen
    cases hpage : listTaskEvents taskId limit r.cursor authorized r.db with
    | error e =>
        rw [hpage] at hstep
        cases hstep
    | ok answer =>
        rw [hpage] at hstep
        cases hstep
        obtain ⟨t, ht, hlimit, _, hanswer⟩ := listTaskEvents_eq_ok hpage
        have hsorted := hr.histories.sorted taskId
        have hread := hr.read hopen
        rw [eventsOf_eq ht] at hsorted hread
        have hmore : answer.2 ≠ none →
            Pages.Read Event.sequence t.events (r.seen ++ answer.1)
              answer.2 := by
          rw [hanswer]
          exact hread.page hsorted
        have hall : answer.2 = none → r.seen ++ answer.1 = t.events := by
          rw [hanswer]
          exact hread.page_all hsorted hlimit
        refine ⟨⟨hr.keyed, hr.histories, ?_, ?_⟩, rfl, ?_⟩
        · show r.seen ++ answer.1 <+: r.db.eventsOf taskId
          rw [eventsOf_eq ht]
          by_cases hnone : answer.2 = none
          · rw [hall hnone]
          · exact (hmore hnone).first
        · intro hgoes
          rw [eventsOf_eq ht]
          apply hmore
          intro hnone
          change answer.2.isNone = false at hgoes
          rw [hnone] at hgoes
          cases hgoes
        · intro hdone
          rw [eventsOf_eq ht]
          exact hall (Option.isNone_iff_eq_none.mp hdone)

theorem Reader.Follows.step {action : Listing} (hr : r.Follows taskId)
    (hstep : r.step digests taskId authorized action = some r') :
    r'.Follows taskId := by
  cases action with
  | page limit => exact (hr.page hstep).1
  | call call =>
      cases hstep
      have hgrow : r.db.eventsOf taskId
          <+: (r.db.after digests call).eventsOf taskId :=
        after_eventsOf hr.keyed call taskId
      obtain ⟨hkeyed, hhistories⟩ := after_histories digests call hr.keyed
        hr.histories
      exact ⟨hkeyed, hhistories, hr.first.trans hgrow,
        fun hopen => (hr.read hopen).grow hgrow⟩

/-- A reader that follows the cursors, with any page sizes and any calls in
between, has seen the events of the task from the first one on, each once and
without a gap, and with the page that has no cursor all there are. -/
theorem history_listed {digests : Digests} {taskId : Uuid}
    {authorized : Text → Bool} {actions : List Listing} {r : Reader}
    (hrun : Run.run (Reader.step digests taskId authorized) { db := {} } actions
      = some r) :
    r.seen <+: r.db.eventsOf taskId
      ∧ r.seen.map Event.sequence = List.range' 1 r.seen.length
      ∧ ∀ limit r', r.step digests taskId authorized (.page limit) = some r' →
        r'.done → r'.seen = r.db.eventsOf taskId := by
  have hr : r.Follows taskId := by
    refine Run.run_invariant (I := Reader.Follows taskId)
      (fun hr hstep => hr.step hstep) ?_ hrun
    exact ⟨keyed_empty, histories_empty, List.nil_prefix, fun _ => .start _⟩
  refine ⟨hr.first, ?_, fun limit r' hstep => (hr.page hstep).2.2⟩
  obtain ⟨rest, hrest⟩ := hr.first
  have hnumbered := hr.histories.numbered taskId
  unfold Numbered at hnumbered
  rw [← hrest, List.map_append, List.length_append, List.length_map,
    List.length_map, List.range'_append_1.symm] at hnumbered
  exact (List.append_inj hnumbered (by simp)).1

/-- Digests that keep a claim and a finalization apart. -/
def eventDigests : Digests := { sampleDigests with
  event := fun
    | .executionFinalize _ _ _ => { sampleKey with
        text := List.replicate 64 'b'
        hex := by simp }
    | _ => sampleKey }

theorem history_listed_sample :
    ∃ r, Run.run (Reader.step eventDigests sampleId fun _ => true) { db := {} }
        [.call (sampleCall 2 (by decide)), .call sampleClaim, .page 1,
          .page 1] = some r
      ∧ r.done = true
      ∧ r.seen.map Event.sequence = List.range' 1 r.seen.length := by
  have hread : ∃ r, Run.run (Reader.step eventDigests sampleId fun _ => true)
      { db := {} } [.call (sampleCall 2 (by decide)), .call sampleClaim,
        .page 1, .page 1] = some r ∧ r.done = true := ⟨_, rfl, rfl⟩
  obtain ⟨r, hrun, hdone⟩ := hread
  exact ⟨r, hrun, hdone, (history_listed hrun).2.1⟩

-- =========================================================== finalizations

/-- A finalization adds no event, or one whose metadata a history event
cannot have. -/
theorem finalizeExecution_events {grant : LeaseGrant} {packetDigest : Digest}
    {plane : ExecutionPlane} {actor : Actor} {key : Option Digest}
    {clock : Clock} {result : WorkspaceResult} (hkeyed : db.Keyed)
    (hok : finalizeExecution digests grant packetDigest plane actor key clock
      db = .ok (result, db')) :
    db'.eventsOf grant.taskId = db.eventsOf grant.taskId
      ∨ ∃ e : Event, e.isSnapshot = false
        ∧ db'.eventsOf grant.taskId = db.eventsOf grant.taskId ++ [e] := by
  rcases keyed_ok hok with rfl | ⟨db₁, hbody, hrecord⟩
  · exact .inl rfl
  · have hrecorded : db'.eventsOf grant.taskId = db₁.eventsOf grant.taskId := by
      unfold Db.recordCommand at hrecord
      cases key with
      | none =>
          cases hrecord
          rfl
      | some key =>
          simp only [bind_eq_ok] at hrecord
          obtain ⟨_, _, hrecord⟩ := hrecord
          cases hrecord
          rfl
    rw [hrecorded]
    unfold Db.onTask at hbody
    simp only [bind_eq_ok, fetch_eq_ok] at hbody
    obtain ⟨t, ht, ⟨answer, h⟩, hanswer, hbody⟩ := hbody
    cases hbody
    have hid := (task?_some ht).2
    have hput : h.task.taskId = t.taskId →
        (db.put h).eventsOf grant.taskId = h.task.events := by
      intro hsame
      apply eventsOf_eq
      rw [← hid] at ht ⊢
      rw [← hsame]
      exact task?_put ht hsame
    rw [eventsOf_eq ht]
    split at hanswer
    · rw [bind_eq_ok] at hanswer
      obtain ⟨_, _, hanswer⟩ := hanswer
      cases hanswer
      exact .inl (hput rfl)
    · have hkeeps := (changes_finalizeLocked hanswer).keeps
      rw [hput hkeeps.taskId]
      unfold finalizeLocked at hanswer
      simp only [bind_eq_ok, fetch_eq_ok, event_eq_ok] at hanswer
      obtain ⟨_, _, r, _, terminal, _, status, _, _, _, _, _, h₁, hcommits,
        t', ⟨_, rfl⟩, hanswer⟩ := hanswer
      cases hanswer
      obtain ⟨_, _, rfl, hevents⟩ := finalizeCommit_ok hcommits
      rw [← show _ = t.events from hevents]
      rcases record_events _ actor .released _ _ true
        with hsame | ⟨e, hmetadata, hadded⟩
      · exact .inl hsame
      · refine .inr ⟨e, ?_, hadded⟩
        unfold Event.isSnapshot
        rw [hmetadata]
        simp [isMetadataField]

/-- A reader behind an event that is not a history event. -/
structure Reader.Stuck (taskId : Uuid) (old : List Event) (e : Event)
    (r : Reader) : Prop where
  follows : r.Follows taskId
  snapshots : ∀ e ∈ r.seen, e.isSnapshot
  written : old ++ [e] <+: r.db.eventsOf taskId
  unread : r.done = false

variable {old : List Event} {e : Event}

theorem Reader.Stuck.step {action : Listing} (he : e.isSnapshot = false)
    (hr : r.Stuck taskId old e)
    (hstep : r.step digests taskId authorized action = some r') :
    r'.Stuck taskId old e := by
  have hfollows := hr.follows.step hstep
  cases action with
  | call call =>
      cases hstep
      have hgrow : r.db.eventsOf taskId
          <+: (r.db.after digests call).eventsOf taskId :=
        after_eventsOf hr.follows.keyed call taskId
      exact ⟨hfollows, hr.snapshots, hr.written.trans hgrow, hr.unread⟩
  | page limit =>
      obtain ⟨_, hdb, hall⟩ := hr.follows.page hstep
      have hsnapshots : ∀ e ∈ r'.seen, e.isSnapshot := by
        unfold Reader.step at hstep
        dsimp only at hstep
        rw [hr.unread] at hstep
        cases hpage : listTaskEvents taskId limit r.cursor authorized r.db with
        | error e =>
            rw [hpage] at hstep
            cases hstep
        | ok answer =>
            rw [hpage] at hstep
            cases hstep
            obtain ⟨t, _, _, hrows, rfl⟩ := listTaskEvents_eq_ok hpage
            intro e hmem
            rcases List.mem_append.mp hmem with hmem | hmem
            · exact hr.snapshots e hmem
            · exact hrows e (List.take_subset_take_left _ (Nat.le_succ _) hmem)
      have hwritten : old ++ [e] <+: r'.db.eventsOf taskId := by
        rw [hdb]
        exact hr.written
      refine ⟨hfollows, hsnapshots, hwritten, ?_⟩
      by_contra hdone
      rw [Bool.not_eq_false] at hdone
      have hseen := hall hdone
      rw [← hdb] at hseen
      rw [← hseen] at hwritten
      have hmem : e ∈ r'.seen := hwritten.subset (by simp)
      rw [hsnapshots e hmem] at he
      cases he

/-- What such a reader has seen is from before the event. -/
theorem Reader.Stuck.seen (he : e.isSnapshot = false)
    (hr : r.Stuck taskId old e) : r.seen <+: old := by
  have hnot : e ∉ r.seen := by
    intro hmem
    rw [hr.snapshots e hmem] at he
    cases he
  rcases List.prefix_or_prefix_of_prefix hr.follows.first hr.written
    with hseen | hseen
  · rcases List.prefix_concat_iff.mp hseen with hseen | hseen
    · rw [hseen] at hnot
      exact absurd (by simp) hnot
    · exact hseen
  · exact absurd (hseen.subset (by simp)) hnot

/-- After a finalization that writes its event, no reader gets to the end of
the history of the task, whatever it asks for and whatever the store does in
between: it sees events from before the finalization only, and the page with
the event of the finalization is refused. -/
theorem finalized_history_unread {digests : Digests} {calls : List Call}
    {db db' : Db} {grant : LeaseGrant} {packetDigest : Digest}
    {plane : ExecutionPlane} {actor : Actor} {key : Option Digest}
    {clock : Clock} {result : WorkspaceResult}
    (hrun : Run.run (step digests) {} calls = some db)
    (hok : finalizeExecution digests grant packetDigest plane actor key clock
      db = .ok (result, db'))
    (hwritten : db'.eventsOf grant.taskId ≠ db.eventsOf grant.taskId)
    {authorized : Text → Bool} {actions : List Listing} {r : Reader}
    (hreads : Run.run (Reader.step digests grant.taskId authorized)
      { db := db' } actions = some r) :
    r.done = false ∧ r.seen <+: db.eventsOf grant.taskId := by
  have hI : db.Keyed ∧ db.Histories :=
    reachable_preserves (fun _ hn move => move.histories hn) histories_empty
      ⟨calls, hrun⟩
  obtain ⟨hkeyed, hhistories⟩ := hI
  rcases finalizeExecution_events hkeyed hok with hsame | ⟨e, he, hevents⟩
  · exact absurd hsame hwritten
  · have hstart : Reader.Stuck grant.taskId (db.eventsOf grant.taskId) e
        { db := db' } := by
      have hafter : db.after digests
          (.finalizeExecution grant packetDigest plane actor key clock)
          = db' := by
        show commit (finalizeExecution digests grant packetDigest plane actor
          key clock) db = db'
        unfold commit
        rw [hok]
      obtain ⟨hkeyed', hhistories'⟩ := after_histories digests
        (.finalizeExecution grant packetDigest plane actor key clock)
        hkeyed hhistories
      rw [hafter] at hkeyed' hhistories'
      refine ⟨?_, ?_, ?_, rfl⟩
      · exact ⟨hkeyed', hhistories', List.nil_prefix, fun _ => .start _⟩
      · intro e hmem
        cases hmem
      · exact hevents.symm ▸ List.prefix_rfl
    have hr : r.Stuck grant.taskId (db.eventsOf grant.taskId) e := by
      refine Run.run_invariant (I := Reader.Stuck _ _ e)
        (fun hr hstep => hr.step he hstep) hstart hreads
    exact ⟨hr.unread, hr.seen he⟩

def samplePlane : ExecutionPlane where
  terminal := some (.failed .validation)
  snapshotBinds := true
  commits := true
  workspaceResultDigest := .genesis
  workspaceSnapshotDigest := .genesis

/-- A task is queued, claimed and finalized; the reader is stopped. -/
theorem finalized_history_unread_sample :
    ∃ db db' result r, Run.run (step eventDigests) {}
        [sampleCall 2 (by decide), sampleClaim] = some db
      ∧ finalizeExecution eventDigests sampleLease .genesis samplePlane
          sampleWorker none sampleClock db = .ok (result, db')
      ∧ Run.run (Reader.step eventDigests sampleLease.taskId fun _ => true)
          { db := db' } [.page 1] = some r
      ∧ r.done = false := by
  have hcalls : ∃ db db' result, Run.run (step eventDigests) {}
        [sampleCall 2 (by decide), sampleClaim] = some db
      ∧ finalizeExecution eventDigests sampleLease .genesis samplePlane
          sampleWorker none sampleClock db = .ok (result, db')
      ∧ (db.eventsOf sampleLease.taskId).length = 2
      ∧ (db'.eventsOf sampleLease.taskId).length = 3
      ∧ ∃ r, Run.run (Reader.step eventDigests sampleLease.taskId
          fun _ => true) { db := db' } [.page 1] = some r := by
    refine ⟨_, _, _, rfl, rfl, rfl, rfl, ?_⟩
    exact ⟨_, rfl⟩
  obtain ⟨db, db', result, hrun, hok, hold, hnew, r, hreads⟩ := hcalls
  have hwritten : db'.eventsOf sampleLease.taskId
      ≠ db.eventsOf sampleLease.taskId := by
    intro hsame
    have hlength := congrArg List.length hsame
    omega
  exact ⟨db, db', result, r, hrun, hok, hreads,
    (finalized_history_unread hrun hok hwritten hreads).1⟩

end Exolon.Store

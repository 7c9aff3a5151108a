import Notetaker.CallWrites
import Notetaker.RunnerInvariant
import Notetaker.WebhookDelivery

/-!
# The runner with its deliveries

A dispatch builds the payload from the row and then writes the columns of the delivery. Two ghost
fields record the `audio_url` that a committed `done` wrote, and the payloads.

`RowChange` says once what a step can do to a row, and `TaskMove` what it can do to a task.
-/

open PythonText PythonFloat PythonUuid JsonText

namespace Notetaker

structure WorkerState where
  runner : RunnerState
  doneUrl : Uuid → Option Text
  payloads : List (Uuid × WebhookPayload)

inductive WorkerEvent where
  /-- A step of a task. A dispatch among them ends without a delivery. -/
  | runner (e : RunnerEvent)
  /-- `dispatch_webhook` of task `j`, in a transaction that begins at `txNow`. -/
  | deliver (j : ℕ) (receiver : ℕ → Attempt) (txNow now : Timestamp)

/-- The step of the task, whether it delivers or not. -/
def WorkerEvent.event : WorkerEvent → RunnerEvent
  | runner e => e
  | deliver j _ _ _ => .dispatch j

/-- The call and the URI of a `_finish_done_call` that commits. -/
def RunnerState.doneWrite (s : RunnerState) : RunnerEvent → Option (Uuid × Text)
  | .transact j _ =>
      match (s.tasks j).work with
      | some (id, .finishDoneCall _ audioUrl _) =>
          match findRow s.rows id with
          | some row => if CallStatus.Legal row.status .done then some (id, audioUrl) else none
          | none => none
      | _ => none
  | _ => none

namespace WorkerState

def recordDone (s : WorkerState) : Option (Uuid × Text) → WorkerState
  | none => s
  | some (id, audioUrl) => { s with doneUrl := Function.update s.doneUrl id (some audioUrl) }

def deliver (cfg : WorkerSettings) (s : WorkerState) (j : ℕ) (receiver : ℕ → Attempt)
    (txNow now : Timestamp) : Option WorkerState :=
  match s.runner.tasks j with
  | .dispatching id next =>
      let runner := { s.runner.setTask j (Task.afterDispatch next) with
        dispatched := (id, j) :: s.runner.dispatched }
      match findRow s.runner.rows id with
      | none => some { s with runner := runner }
      | some row =>
          match dispatchWebhook cfg.codec cfg.webhookMaxAttempts receiver txNow now (some row) with
          | none => some { s with runner := runner }
          | some delivery => some { s with
              runner := { runner with rows := modifyRow s.runner.rows id fun _ => delivery.call }
              payloads := (id, buildPayload row) :: s.payloads }
  | _ => none

def step (cfg : WorkerSettings) (s : WorkerState) : WorkerEvent → Option WorkerState
  | .runner e => (s.runner.step cfg.runner e).map fun t =>
      { s with runner := t }.recordDone (s.runner.doneWrite e)
  | .deliver j receiver txNow now => s.deliver cfg j receiver txNow now

end WorkerState

def workerSystem (cfg : WorkerSettings) : TransitionSystem WorkerState WorkerEvent where
  init s := (runnerSystem cfg.runner).init s.runner ∧ (∀ id, s.doneUrl id = none) ∧ s.payloads = []
  step s e := s.step cfg e

/-! ## What a step does to a row -/

def RunnerState.transaction (s : RunnerState) : RunnerEvent → Uuid → Transition → Prop
  | .poll _ _ _ _, _, tr => ∃ active diskOk, tr = .pollOnce active diskOk
  | .transact j _, id, tr => (s.tasks j).work = some (id, tr)
  | _, _, _ => False

inductive RowChange (s : WorkerState) (e : WorkerEvent) (row : Call) : Call → Prop where
  | kept : RowChange s e row row
  | written (event : RunnerEvent) (tr : Transition) (now : Timestamp) (new : Call)
      (hevent : e = .runner event) (htr : s.runner.transaction event row.id tr)
      (hwritten : Written row now tr new) : RowChange s e row new
  | reclaimed (j : ℕ) (ids : List Uuid) (now : Timestamp)
      (hevent : e = .runner (.retentionRow j (.reclaimed now)))
      (hphase : s.runner.tasks j = .retaining (row.id :: ids)) :
      RowChange s e row { row with audioUrl := none, updatedAt := now }
  | delivered (j : ℕ) (receiver : ℕ → Attempt) (txNow now : Timestamp) (next : Sweep) (new : Call)
      (hevent : e = .deliver j receiver txNow now)
      (hphase : s.runner.tasks j = .dispatching row.id next) (hterminal : row.status.Terminal)
      (hpending : row.webhookDeliveredAt = none) (hnew : SameButDelivery row new) :
      RowChange s e row new

theorem RowChange.id_eq {s : WorkerState} {e : WorkerEvent} {row new : Call}
    (h : RowChange s e row new) : new.id = row.id := by
  cases h with
  | kept => rfl
  | written event tr now new hevent htr hwritten => exact hwritten.id_eq
  | reclaimed => rfl
  | delivered j receiver txNow now next new hevent hphase hterminal hpending hnew => exact hnew.id_eq

structure Created (cfg : WorkerSettings) (s : WorkerState) (new : Call) : Prop where
  service : ∃ active data id now,
    CallService.create cfg.runner.callConcurrencyLimit active data id now = .ok new
  fresh : ∀ row ∈ s.runner.rows, row.id ≠ new.id

section Rows

variable {cfg : WorkerSettings} {s t : WorkerState}

theorem runner_recordDone (s : WorkerState) (w : Option (Uuid × Text)) :
    (s.recordDone w).runner = s.runner := by
  cases w <;> rfl

theorem payloads_recordDone (s : WorkerState) (w : Option (Uuid × Text)) :
    (s.recordDone w).payloads = s.payloads := by
  cases w <;> rfl

def RunnerState.endDispatch (s : RunnerState) (j : ℕ) (id : Uuid) (next : Sweep) : RunnerState :=
  { s.setTask j (Task.afterDispatch next) with dispatched := (id, j) :: s.dispatched }

/-- What a delivery does: the dispatch ends, and it rewrites the columns of the delivery if the row is
terminal and has not been delivered. -/
theorem deliver_cases {j : ℕ} {receiver : ℕ → Attempt} {txNow now : Timestamp}
    (h : s.deliver cfg j receiver txNow now = some t) :
    ∃ id next, s.runner.tasks j = .dispatching id next ∧
      (t = { s with runner := s.runner.endDispatch j id next } ∨
        ∃ row new, row ∈ s.runner.rows ∧ row.id = id ∧ row.status.Terminal ∧
          row.webhookDeliveredAt = none ∧ SameButDelivery row new ∧
          t = { s with
            runner := { s.runner.endDispatch j id next with
              rows := modifyRow s.runner.rows id fun _ => new }
            payloads := (id, buildPayload row) :: s.payloads }) := by
  unfold WorkerState.deliver at h
  split at h
  · rename_i id next hphase
    refine ⟨id, next, hphase, ?_⟩
    dsimp only at h
    split at h
    · cases h
      exact .inl rfl
    · rename_i row hrow
      obtain ⟨hmem, hid⟩ := findRow_mem hrow
      split at h
      · cases h
        exact .inl rfl
      · rename_i delivery hdelivery
        cases h
        unfold dispatchWebhook at hdelivery
        dsimp only at hdelivery
        split_ifs at hdelivery with hskip
        cases hdelivery
        rw [not_or, not_not, Bool.not_eq_true, Option.isSome_eq_false_iff, Option.isNone_iff_eq_none]
          at hskip
        exact .inr ⟨row, _, hmem, hid, hskip.2, hskip.1, sameButDelivery_deliver _ _ _ _ _ _, rfl⟩
  · cases h

theorem mem_modifyRow_cases {rows : List Call} {row new : Call} {f : Call → Call}
    (h : new ∈ modifyRow rows row.id f) : new ∈ rows ∨ ∃ c ∈ rows, c.id = row.id ∧ new = f c := by
  obtain ⟨c, hc, hnew⟩ := mem_modifyRow h
  split_ifs at hnew with hid
  · exact .inr ⟨c, hc, hid, hnew⟩
  · exact .inl (hnew ▸ hc)

def RowOrigin (cfg : WorkerSettings) (s : WorkerState) (e : WorkerEvent) (new : Call) : Prop :=
  (∃ row ∈ s.runner.rows, RowChange s e row new) ∨ Created cfg s new

theorem RowOrigin.kept {e : WorkerEvent} {row : Call} (h : row ∈ s.runner.rows) :
    RowOrigin cfg s e row := .inl ⟨row, h, .kept⟩

theorem RowOrigin.of_rows_eq {e : WorkerEvent} {u : RunnerState} (h : u.rows = s.runner.rows)
    {new : Call} (hnew : new ∈ u.rows) : RowOrigin cfg s e new := by
  rw [h] at hnew
  exact .kept hnew

theorem rowOrigin_of_create {data : CallCreate} {id : Uuid} {now : Timestamp} {u : RunnerState}
    (h : s.runner.create cfg.runner data id now = some u) {new : Call} (hnew : new ∈ u.rows) :
    RowOrigin cfg s (.runner (.create data id now)) new := by
  unfold RunnerState.create at h
  split at h
  · rename_i row hrow hcreate
    cases h
    rcases List.mem_append.1 hnew with hold | hcreated
    · exact .kept hold
    · rw [List.mem_singleton.1 hcreated]
      have hid := (AdmissionState.queued_of_create hcreate).1
      exact .inr ⟨⟨_, _, _, _, hcreate⟩, hid ▸ findRow_eq_none hrow⟩
  · cases h
    exact .kept hnew
  · cases h

theorem written_of_pollPayload {limit : ℤ} {active : ℕ} {diskOk : Bool} {row : Call}
    {payload : Changes} (h : pollPayload limit active diskOk row = .ok payload) (now : Timestamp) :
    Written row now (.pollOnce active diskOk) (row.update payload now) := by
  have hbody : (Transition.pollOnce active diskOk).body limit now row = some [⟨payload, now⟩] := by
    change statements now (pollPayload limit active diskOk row) [] = _
    rw [h]
    rfl
  exact Transition.written hbody

theorem rows_of_poll {j k : ℕ} {diskOk : Bool} {now : Timestamp} {u : RunnerState}
    (h : s.runner.poll cfg.runner j k diskOk now = some u) :
    u.rows = s.runner.rows ∨ ∃ row payload, row ∈ s.runner.rows ∧
      pollPayload cfg.runner.callConcurrencyLimit (countActive s.runner.rows) diskOk row =
        .ok payload ∧
      u.rows = modifyRow s.runner.rows row.id fun _ => row.update payload now := by
  unfold RunnerState.poll at h
  split at h
  · rename_i row hidle hold
    obtain ⟨hrow, -⟩ := oldest_queued hold
    split at h
    · rename_i payload hpayload
      refine .inr ⟨row, payload, hrow, hpayload, ?_⟩
      by_cases hadmits : admits cfg.runner.callConcurrencyLimit (countActive s.runner.rows) diskOk
      · rw [if_pos hadmits] at h
        split at h
        · split_ifs at h
          cases h
          rfl
        · cases h
      · rw [if_neg hadmits] at h
        cases h
        unfold RunnerState.recordWinner
        split_ifs <;> rfl
    · cases h
      exact .inl rfl
  · cases h
    exact .inl rfl
  · cases h

theorem rowOrigin_of_poll {j k : ℕ} {diskOk : Bool} {now : Timestamp} {u : RunnerState}
    (h : s.runner.poll cfg.runner j k diskOk now = some u) {new : Call} (hnew : new ∈ u.rows) :
    RowOrigin cfg s (.runner (.poll j k diskOk now)) new := by
  rcases rows_of_poll h with hrows | ⟨row, payload, hrow, hpayload, hrows⟩
  · exact .of_rows_eq hrows hnew
  · rw [hrows] at hnew
    rcases mem_modifyRow_cases hnew with hold | ⟨c, -, -, rfl⟩
    · exact .kept hold
    · exact .inl ⟨row, hrow, .written _ _ now _ rfl ⟨_, _, rfl⟩ (written_of_pollPayload hpayload now)⟩

theorem rowOrigin_of_retentionRow {j : ℕ} {outcome : RetentionOutcome} {u : RunnerState}
    (h : s.runner.retentionRow j outcome = some u) {new : Call} (hnew : new ∈ u.rows) :
    RowOrigin cfg s (.runner (.retentionRow j outcome)) new := by
  unfold RunnerState.retentionRow at h
  split at h
  · rename_i id ids hphase
    cases outcome with
    | skipped =>
        cases h
        exact .kept hnew
    | deleted =>
        cases h
        exact .kept hnew
    | reclaimed now =>
        cases h
        obtain ⟨c, hc, hcnew⟩ := mem_modifyRow hnew
        split_ifs at hcnew with hid
        · subst hid hcnew
          exact .inl ⟨c, hc, .reclaimed j ids now rfl hphase⟩
        · rw [hcnew]
          exact .kept hc
  · cases h

theorem rowOrigin_of_runner_step {e : RunnerEvent} {u : RunnerState}
    (h : (runnerSystem cfg.runner).step s.runner e = some u) {new : Call} (hnew : new ∈ u.rows) :
    RowOrigin cfg s (.runner e) new := by
  cases effect_of_step h with
  | unchanged => exact .kept hnew
  | quiet => exact .kept hnew
  | create => exact rowOrigin_of_create h hnew
  | claim => exact rowOrigin_of_poll h hnew
  | refuse => exact rowOrigin_of_poll h hnew
  | commit j now id tr row todo hwork hrow hid hbody =>
      have hrows : new ∈ modifyRow s.runner.rows id fun _ => applyStatements row todo := by
        unfold RunnerState.recordWinner at hnew
        split_ifs at hnew <;> exact hnew
      subst hid
      rcases mem_modifyRow_cases hrows with hold | ⟨c, -, -, rfl⟩
      · exact .kept hold
      · exact .inl ⟨row, hrow, .written _ tr now _ rfl hwork (Transition.written hbody)⟩
  | refused => exact .kept hnew
  | upload => exact .kept hnew
  | dispatch => exact .kept hnew
  | list => exact .kept hnew
  | delete => exact rowOrigin_of_retentionRow h hnew
  | crash => exact .kept hnew

theorem rowOrigin_of_deliver {j : ℕ} {receiver : ℕ → Attempt} {txNow now : Timestamp}
    (h : s.deliver cfg j receiver txNow now = some t) {new : Call} (hnew : new ∈ t.runner.rows) :
    RowOrigin cfg s (.deliver j receiver txNow now) new := by
  obtain ⟨id, next, hphase, rfl | ⟨row, delivered, hmem, rfl, hterminal, hpending, hsame, rfl⟩⟩ :=
    deliver_cases h
  · exact .kept hnew
  · rcases mem_modifyRow_cases hnew with hold | ⟨c, -, -, rfl⟩
    · exact .kept hold
    · exact .inl ⟨row, hmem,
        .delivered j receiver txNow now next _ rfl hphase hterminal hpending hsame⟩

theorem rowOrigin_of_step {e : WorkerEvent} (h : (workerSystem cfg).step s e = some t) {new : Call}
    (hnew : new ∈ t.runner.rows) : RowOrigin cfg s e new := by
  cases e with
  | runner e =>
      obtain ⟨u, hu, rfl⟩ := Option.map_eq_some_iff.1 h
      rw [runner_recordDone] at hnew
      exact rowOrigin_of_runner_step hu hnew
  | deliver j receiver txNow now => exact rowOrigin_of_deliver h hnew

end Rows

/-! ## What a step does to a task -/

/-- A `run_call` task goes on without the table. -/
inductive Task.Follows (cfg : RunnerSettings) : Task → Task → Prop where
  | start (id : Uuid) : Follows cfg (.claimed id) (.running id false)
  | signal (id : Uuid) : Follows cfg (.running id false) (.signalling id)
  | exit (id : Uuid) (signalled : Bool) (exitCode : ExitCode) (result : Option ResultPayload) :
      Follows cfg (.running id signalled) (.exited id exitCode result)
  | upload (id : Uuid) (endReason : Text) :
      Follows cfg (.uploading id endReason) (.sourcing id endReason (cfg.storage.objectUri id))
  | uploadFailed (id : Uuid) (endReason : Text) :
      Follows cfg (.uploading id endReason) (.uploadFailed id)
  | source (id : Uuid) (endReason audioUrl : Text) :
      Follows cfg (.sourcing id endReason audioUrl) (.transcribing id endReason audioUrl)
  | sourceFailed (id : Uuid) (endReason audioUrl detail : Text) :
      Follows cfg (.sourcing id endReason audioUrl) (.transcriptionFailed id detail audioUrl)
  | transcribe (id : Uuid) (endReason audioUrl : Text) (segments : List SpeakerSegment) :
      Follows cfg (.transcribing id endReason audioUrl) (.finishing id endReason audioUrl segments)
  | transcribeFailed (id : Uuid) (endReason audioUrl detail : Text) :
      Follows cfg (.transcribing id endReason audioUrl) (.transcriptionFailed id detail audioUrl)

namespace Task

/-- A rollback ends the task, except that the output pump and the sweeps go on. -/
theorem refused_cases (task : Task) : task.refused = idle ∨
    (∃ id, task.refused = running id true) ∨ ∃ next, task.refused = sweeping next := by
  cases task with
  | signalling id => exact .inr (.inl ⟨id, rfl⟩)
  | sweeping sweep =>
      cases sweep with
      | finished => exact .inl rfl
      | stale ids =>
          cases ids with
          | nil => exact .inl rfl
          | cons id ids => exact .inr (.inr ⟨_, rfl⟩)
      | orphan ids =>
          cases ids with
          | nil => exact .inl rfl
          | cons id ids => exact .inr (.inr ⟨_, rfl⟩)
  | _ => exact .inl rfl

theorem missing_cases (task : Task) :
    task.missing = idle ∨ ∃ next, task.missing = sweeping next := by
  cases task with
  | sweeping sweep =>
      cases sweep with
      | orphan ids =>
          cases ids with
          | nil => exact .inl rfl
          | cons id ids => exact .inr ⟨_, rfl⟩
      | _ => exact .inl rfl
  | _ => exact .inl rfl

end Task

/-- The step `e` from `s` to `t` takes task `j` to the given task. -/
inductive TaskMove (cfg : RunnerSettings) (s t : RunnerState) (e : RunnerEvent) (j : ℕ) :
    Task → Prop where
  | kept : TaskMove cfg s t e j (s.tasks j)
  | ended : TaskMove cfg s t e j .idle
  | claimed (id : Uuid) : TaskMove cfg s t e j (.claimed id)
  | refusedClaim (row new : Call) (hrow : row ∈ s.rows) (hqueued : row.status = .queued)
      (hnew : new ∈ t.rows) (hid : new.id = row.id) (hfailed : new.status = .failed) :
      TaskMove cfg s t e j (.dispatching row.id .finished)
  | follows (task : Task) (hmove : Task.Follows cfg (s.tasks j) task) : TaskMove cfg s t e j task
  | committed (now : Timestamp) (id : Uuid) (tr : Transition) (row : Call) (todo : List Statement)
      (hevent : e = .transact j now) (hwork : (s.tasks j).work = some (id, tr))
      (hrow : findRow s.rows id = some row)
      (hbody : tr.body cfg.callConcurrencyLimit now row = some todo)
      (hnew : applyStatements row todo ∈ t.rows) : TaskMove cfg s t e j ((s.tasks j).committed row)
  | refused : TaskMove cfg s t e j (s.tasks j).refused
  | missing : TaskMove cfg s t e j (s.tasks j).missing
  | dispatched (id : Uuid) (next : Sweep) (hphase : s.tasks j = .dispatching id next) :
      TaskMove cfg s t e j (Task.afterDispatch next)
  | stale (now : Timestamp) (hevent : e = .staleStart j now) :
      TaskMove cfg s t e j (.sweeping (.stale ((staleIds cfg now s.rows).getD [])))
  | orphan (stdout : Text) (hevent : e = .orphanStart j stdout) :
      TaskMove cfg s t e j (.sweeping (.orphan (orphanCalls stdout)))
  | listed (now : Timestamp) (hevent : e = .retentionStart j now) :
      TaskMove cfg s t e j (.retaining ((expiredIds cfg now s.rows).getD []))
  | retained (id : Uuid) (ids : List Uuid) (hphase : s.tasks j = .retaining (id :: ids)) :
      TaskMove cfg s t e j (.retaining ids)

namespace Task

variable {task : Task}

theorem refused_ne_retaining (ids : List Uuid) : task.refused ≠ retaining ids := by
  rcases refused_cases task with h | ⟨_, h⟩ | ⟨_, h⟩ <;> rw [h] <;> exact nofun

theorem missing_ne_retaining (ids : List Uuid) : task.missing ≠ retaining ids := by
  rcases missing_cases task with h | ⟨_, h⟩ <;> rw [h] <;> exact nofun

theorem Follows.ne_retaining {cfg : RunnerSettings} {new : Task} (h : Follows cfg task new)
    (ids : List Uuid) : new ≠ retaining ids := by
  rintro rfl
  cases h

theorem committed_ne_retaining {id : Uuid} {tr : Transition} (limit : ℤ) (row : Call)
    (h : task.work = some (id, tr)) (ids : List Uuid) : task.committed row ≠ retaining ids := by
  intro hnew
  rcases committed_cases limit row h with ⟨-, -, howes⟩ | ⟨-, -, hdriven, -⟩
  · rw [hnew] at howes
    cases howes
  · rw [hnew] at hdriven
    cases hdriven

theorem listed_of_move {cfg : RunnerSettings} {s t : RunnerState} {e : RunnerEvent} {j : ℕ}
    {ids : List Uuid} (h : TaskMove cfg s t e j (retaining ids)) {id : Uuid} (hid : id ∈ ids) :
    (∃ ids', s.tasks j = retaining ids' ∧ id ∈ ids') ∨
      ∃ now ids', e = .retentionStart j now ∧ expiredIds cfg now s.rows = some ids' ∧ id ∈ ids' := by
  generalize htask : retaining ids = task at h
  cases h with
  | kept => exact .inl ⟨ids, htask.symm, hid⟩
  | retained id' ids' hphase =>
      cases htask
      exact .inl ⟨_, hphase, List.mem_cons_of_mem _ hid⟩
  | listed now hevent =>
      right
      cases htask
      cases hids : expiredIds cfg now s.rows with
      | none =>
          rw [hids] at hid
          cases hid
      | some ids =>
          rw [hids] at hid
          exact ⟨now, ids, hevent, hids, hid⟩
  | follows task hmove => exact absurd htask.symm (hmove.ne_retaining _)
  | committed now id' tr row todo hevent hwork =>
      exact absurd htask.symm (committed_ne_retaining cfg.callConcurrencyLimit row hwork _)
  | refused => exact absurd htask.symm (refused_ne_retaining _)
  | missing => exact absurd htask.symm (missing_ne_retaining _)
  | dispatched id' next hphase => cases next <;> cases htask
  | _ => cases htask

end Task

section Tasks

variable {cfg : RunnerSettings} {s t : RunnerState} {e : RunnerEvent}

theorem TaskMove.of_update {k : ℕ} {task : Task} (hmove : TaskMove cfg s t e k task) (j : ℕ) :
    TaskMove cfg s t e j (Function.update s.tasks k task j) := by
  by_cases hj : j = k
  · subst hj
    rw [Function.update_self]
    exact hmove
  · rw [Function.update_of_ne hj]
    exact .kept

theorem TaskMove.following {k : ℕ} {old task : Task} (hold : s.tasks k = old)
    (hmove : Task.Follows cfg old task) (j : ℕ) :
    TaskMove cfg s t e j ((s.setTask k task).tasks j) :=
  of_update (.follows task (hold ▸ hmove)) j

theorem taskMove_of_poll {j k : ℕ} {diskOk : Bool} {now : Timestamp}
    (h : s.poll cfg j k diskOk now = some t) (i : ℕ) :
    TaskMove cfg s t (.poll j k diskOk now) i (t.tasks i) := by
  unfold RunnerState.poll at h
  split at h
  · rename_i row hidle hold
    obtain ⟨hrow, hqueued⟩ := oldest_queued hold
    split at h
    · rename_i payload hpayload
      by_cases hadmits : admits cfg.callConcurrencyLimit (countActive s.rows) diskOk
      · rw [if_pos hadmits] at h
        split at h
        · split_ifs at h
          cases h
          exact .of_update (.claimed row.id) i
        · cases h
      · rw [if_neg hadmits] at h
        have hstatus := AdmissionState.status_of_pollPayload hpayload row now
        rw [Transition.target, if_neg hadmits] at hstatus
        cases h
        unfold RunnerState.recordWinner
        split_ifs <;>
          exact .of_update (.refusedClaim row (row.update payload now) hrow hqueued
            (AdmissionState.mem_modifyRow_of_eq hrow rfl) (Call.id_updateRow row row payload now)
            hstatus) i
    · cases h
      exact .kept
  · cases h
    exact .kept
  · cases h

theorem taskMove_of_transact {j : ℕ} {now : Timestamp} (h : s.transact cfg j now = some t) (i : ℕ) :
    TaskMove cfg s t (.transact j now) i (t.tasks i) := by
  unfold RunnerState.transact at h
  split at h
  · cases h
  · rename_i id tr hwork
    split at h
    · cases h
      exact .of_update .missing i
    · rename_i row hrow
      split at h
      · rename_i todo hbody
        cases h
        obtain ⟨hmem, hid⟩ := findRow_mem hrow
        unfold RunnerState.recordWinner
        split_ifs <;>
          exact .of_update (.committed now id tr row todo rfl hwork hrow hbody
            (AdmissionState.mem_modifyRow_of_eq hmem hid)) i
      · split_ifs at h <;> cases h <;> exact .of_update .refused i

theorem taskMove_of_retentionRow {j : ℕ} {outcome : RetentionOutcome}
    (h : s.retentionRow j outcome = some t) (i : ℕ) :
    TaskMove cfg s t (.retentionRow j outcome) i (t.tasks i) := by
  unfold RunnerState.retentionRow at h
  split at h
  · rename_i id ids hphase
    cases outcome <;> cases h <;> exact .of_update (.retained id ids hphase) i
  · cases h

theorem taskMove_of_step (h : s.step cfg e = some t) (j : ℕ) : TaskMove cfg s t e j (t.tasks j) := by
  cases e with
  | create data id now =>
      change s.create cfg data id now = some t at h
      unfold RunnerState.create at h
      split at h <;> cases h <;> exact .kept
  | poll j' k diskOk now => exact taskMove_of_poll h j
  | transact j' now => exact taskMove_of_transact h j
  | retentionRow j' outcome => exact taskMove_of_retentionRow h j
  | crash =>
      cases h
      exact .ended
  | start k =>
      cases hk : s.tasks k <;> simp only [RunnerState.step, hk] at h <;> try cases h
      rename_i id
      split at h <;> cases h
      · split_ifs
        · exact .following hk (.start id) j
        · exact .of_update .ended j
      · exact .of_update .ended j
  | signal k =>
      cases hk : s.tasks k <;> simp only [RunnerState.step, hk] at h <;> try cases h
      rename_i id signalled
      cases signalled <;> cases h
      exact .following hk (.signal id) j
  | exit k exitCode result =>
      cases hk : s.tasks k <;> simp only [RunnerState.step, hk] at h <;> cases h
      exact .following hk (.exit _ _ exitCode result) j
  | upload k succeeds =>
      cases hk : s.tasks k <;> simp only [RunnerState.step, hk] at h <;> try cases h
      cases succeeds <;> cases h
      · exact .following hk (.uploadFailed _ _) j
      · exact .following hk (.upload _ _) j
  | source k outcome =>
      cases hk : s.tasks k <;> simp only [RunnerState.step, hk] at h <;> try cases h
      cases outcome <;> cases h
      · exact .following hk (.source _ _ _) j
      · exact .following hk (.sourceFailed _ _ _ _) j
      · exact .following hk (.sourceFailed _ _ _ _) j
  | transcribe k outcome =>
      cases hk : s.tasks k <;> simp only [RunnerState.step, hk] at h <;> try cases h
      cases outcome <;> cases h
      · exact .following hk (.transcribe _ _ _ _) j
      · exact .following hk (.transcribeFailed _ _ _ _) j
      · exact .following hk (.transcribeFailed _ _ _ _) j
  | fault k =>
      obtain ⟨rfl, -⟩ := fault_cases h
      exact .of_update .ended j
  | dispatch k =>
      cases hk : s.tasks k <;> simp only [RunnerState.step, hk] at h <;> cases h
      exact .of_update (.dispatched _ _ hk) j
  | staleStart k now =>
      cases hk : s.tasks k <;> simp only [RunnerState.step, hk] at h <;> cases h
      exact .of_update (.stale now rfl) j
  | orphanStart k stdout =>
      cases hk : s.tasks k <;> simp only [RunnerState.step, hk] at h <;> cases h
      exact .of_update (.orphan stdout rfl) j
  | sweepEnd k =>
      have hidle : t = s.setTask k .idle := by
        unfold RunnerState.step at h
        dsimp only at h
        split at h <;> cases h <;> rfl
      rw [hidle]
      exact .of_update .ended j
  | retentionStart k now =>
      cases hk : s.tasks k <;> simp only [RunnerState.step, hk] at h <;> cases h
      exact .of_update (.listed now rfl) j

theorem taskMove_of_worker_step {cfg : WorkerSettings} {s t : WorkerState} {e : WorkerEvent}
    (h : (workerSystem cfg).step s e = some t) (j : ℕ) :
    TaskMove cfg.runner s.runner t.runner e.event j (t.runner.tasks j) := by
  cases e with
  | runner e =>
      obtain ⟨u, hu, rfl⟩ := Option.map_eq_some_iff.1 h
      rw [runner_recordDone]
      exact taskMove_of_step hu j
  | deliver k receiver txNow now =>
      obtain ⟨id, next, hphase, rfl | ⟨row, new, -, -, -, -, -, rfl⟩⟩ := deliver_cases h
      · exact .of_update (.dispatched id next hphase) j
      · exact .of_update (.dispatched id next hphase) j

end Tasks

/-! ## Terminal rows -/

section Terminal

variable {cfg : WorkerSettings} {s t : WorkerState} {e : WorkerEvent}

theorem consistent_deliver {j : ℕ} {receiver : ℕ → Attempt} {txNow now : Timestamp}
    (hs : Consistent s.runner) (h : s.deliver cfg j receiver txNow now = some t) :
    Consistent t.runner := by
  obtain ⟨id, next, hphase, hcases⟩ := deliver_cases h
  have hundriven : ∀ id', (Task.afterDispatch next).driven ≠ some id' := by
    intro id' hdriven
    cases next <;> cases hdriven
  obtain rfl | ⟨row, new, hmem, hid, -, -, ⟨attempts, delivered, updated, hnew⟩, rfl⟩ := hcases
  · exact hs.quiet rfl rfl fun id' hdriven => absurd hdriven (hundriven id')
  · have hkept : ∀ id' statuses, RowIn s.runner.rows id' statuses →
        RowIn (modifyRow s.runner.rows id fun _ => new) id' statuses := by
      rintro id' statuses ⟨row', hmem', hid', hst⟩
      by_cases heq : row'.id = id
      · obtain rfl := hs.row_unique hmem' hmem (heq.trans hid.symm)
        refine ⟨_, AdmissionState.mem_modifyRow_of_eq hmem' heq, ?_, ?_⟩
        · rw [hnew]
          exact hid'
        · rw [hnew]
          exact hst
      · exact ⟨row', AdmissionState.mem_modifyRow_of_ne hmem' heq, hid', hst⟩
    refine hs.move rfl ?_ (fun k id' _ _ => hkept id' _) fun id' hdriven =>
      absurd hdriven (hundriven id')
    refine map_id_modifyRow _ fun c _ hc => ?_
    rw [hnew]
    exact hid.trans hc.symm

theorem consistent_worker_step (s : WorkerState) (e : WorkerEvent) (t : WorkerState)
    (hs : Consistent s.runner) (h : (workerSystem cfg).step s e = some t) :
    Consistent t.runner := by
  cases e with
  | runner e =>
      obtain ⟨u, hu, rfl⟩ := Option.map_eq_some_iff.1 h
      rw [runner_recordDone]
      exact Consistent.step cfg.runner s.runner e u hs hu
  | deliver j receiver txNow now => exact consistent_deliver hs h

theorem mem_id_modifyRow {rows : List Call} {row : Call} (hrow : row ∈ rows) (id : Uuid)
    {f : Call → Call} (hf : ∀ c ∈ rows, c.id = id → (f c).id = c.id) :
    ∃ new ∈ modifyRow rows id f, new.id = row.id := by
  by_cases hid : row.id = id
  · exact ⟨f row, AdmissionState.mem_modifyRow_of_eq hrow hid, hf row hrow hid⟩
  · exact ⟨row, AdmissionState.mem_modifyRow_of_ne hrow hid, rfl⟩

theorem exists_row_of_step (h : (workerSystem cfg).step s e = some t) {row : Call}
    (hrow : row ∈ s.runner.rows) : ∃ new ∈ t.runner.rows, new.id = row.id := by
  cases e with
  | runner e =>
      obtain ⟨u, hu, rfl⟩ := Option.map_eq_some_iff.1 h
      rw [runner_recordDone]
      change ∃ new ∈ u.rows, new.id = row.id
      cases effect_of_step hu with
      | create data id now created hfresh hqueued => exact ⟨row, List.mem_append_left _ hrow, rfl⟩
      | claim j k diskOk now claimed new hidle hclaimed hqueued hid hnew =>
          exact mem_id_modifyRow hrow claimed.id fun c _ hc => hid.trans hc.symm
      | refuse j k diskOk now refused new hidle hrefused hqueued hid hnew =>
          unfold RunnerState.recordWinner
          split_ifs <;> exact mem_id_modifyRow hrow refused.id fun c _ hc => hid.trans hc.symm
      | commit j now id tr read todo hwork hread hid hbody =>
          have hids : ∀ c ∈ s.runner.rows, c.id = id → (applyStatements read todo).id = c.id :=
            fun c _ hc => (id_applyStatements read todo).trans (hid.trans hc.symm)
          unfold RunnerState.recordWinner
          split_ifs <;> exact mem_id_modifyRow hrow id hids
      | delete j outcome id task f hmove hf =>
          exact mem_id_modifyRow hrow id fun c _ _ => (hf c).1
      | _ => exact ⟨row, hrow, rfl⟩
  | deliver j receiver txNow now =>
      obtain ⟨id, next, -, rfl | ⟨read, new, -, hid, -, -, hsame, rfl⟩⟩ := deliver_cases h
      · exact ⟨row, hrow, rfl⟩
      · exact mem_id_modifyRow hrow _ fun c _ hc => hsame.id_eq.trans (hid.trans hc.symm)

def Reclaims (s : WorkerState) (e : WorkerEvent) (id : Uuid) : Prop :=
  ∃ j ids now, e = .runner (.retentionRow j (.reclaimed now)) ∧
    s.runner.tasks j = .retaining (id :: ids)

theorem rowChange_of_step (hs : Consistent s.runner) (h : (workerSystem cfg).step s e = some t)
    {row : Call} (hrow : row ∈ s.runner.rows) : ∃ new ∈ t.runner.rows, RowChange s e row new := by
  obtain ⟨new, hnew, hid⟩ := exists_row_of_step h hrow
  refine ⟨new, hnew, ?_⟩
  rcases rowOrigin_of_step h hnew with ⟨old, hold, hchange⟩ | hcreated
  · obtain rfl := hs.row_unique hold hrow (hchange.id_eq.symm.trans hid)
    exact hchange
  · exact absurd hid.symm (hcreated.fresh row hrow)

/-- A terminal row keeps its status, and its `audio_url` unless a pass reclaims it. -/
theorem terminal_row_of_step (hs : Consistent s.runner) (h : (workerSystem cfg).step s e = some t)
    {row : Call} (hrow : row ∈ s.runner.rows) (hterminal : row.status.Terminal) :
    ∃ new ∈ t.runner.rows, new.id = row.id ∧ new.status = row.status ∧
      (new.audioUrl = row.audioUrl ∨ Reclaims s e row.id) := by
  obtain ⟨new, hnew, hchange⟩ := rowChange_of_step hs h hrow
  refine ⟨new, hnew, hchange.id_eq, ?_⟩
  cases hchange with
  | kept => exact ⟨rfl, .inl rfl⟩
  | written event tr now new hevent htr hwritten => exact absurd hterminal hwritten.live
  | reclaimed j ids now hevent hphase => exact ⟨rfl, .inr ⟨j, ids, now, hevent, hphase⟩⟩
  | delivered j receiver txNow now next new hevent hphase hterminal hpending hsame =>
      obtain ⟨_, _, _, rfl⟩ := hsame
      exact ⟨rfl, .inl rfl⟩

end Terminal

/-! ## A call from its creation to its webhook -/

def sampleWorker : WorkerSettings where
  runner := sampleSettings
  webhookMaxAttempts := 5
  codec := sampleCodec

def emptyWorker : WorkerState := ⟨emptyRunner, fun _ => none, []⟩

theorem emptyWorker_init (cfg : WorkerSettings) : (workerSystem cfg).init emptyWorker :=
  ⟨emptyRunner_init cfg.runner, fun _ => rfl, rfl⟩

/-- Task 1 records call 7 and finishes it at time 700. -/
def finishedCall : List WorkerEvent :=
  [.runner (.create sampleCreate 7 0), .runner (.poll 0 1 true 1), .runner (.start 1),
    .runner (.signal 1), .runner (.transact 1 30), .runner (.exit 1 (some 0) none),
    .runner (.transact 1 600), .runner (.upload 1 true), .runner (.source 1 .ready),
    .runner (.transcribe 1 (.transcript [])), .runner (.transact 1 700)]

def deliveredCall : List WorkerEvent := finishedCall ++ [.deliver 1 (answersAtOnce 200) 701 701]

theorem deliveredCall_isSome :
    ((workerSystem sampleWorker).run emptyWorker deliveredCall).isSome := by decide +kernel

def deliveredCallState : WorkerState :=
  ((workerSystem sampleWorker).run emptyWorker deliveredCall).get deliveredCall_isSome

theorem deliveredCall_reachable : (workerSystem sampleWorker).Reachable deliveredCallState :=
  ⟨emptyWorker, deliveredCall, emptyWorker_init sampleWorker,
    (Option.some_get deliveredCall_isSome).symm⟩

end Notetaker

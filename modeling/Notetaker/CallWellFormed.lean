import Notetaker.WorkerSystem

/-!
# The columns of a call agree with its status

`Call.WellFormed` relates the nullable columns to the status. A transition brings its columns with
it; the end reason of `done` has been in the hands of the task since the bot's exit, where it was
one of the valid reasons.
-/

open PythonText PythonFloat PythonUuid JsonText

namespace Notetaker

structure Call.WellFormed (row : Call) : Prop where
  queued : row.status = .queued → row.botContainerName = none
  named : row.status ∈ [.joining, .recording, .processing, .done] →
    row.botContainerName = some (containerName row.id)
  live : ¬ row.status.Terminal → row.endReason = none ∧ row.failureReason = none ∧
    row.transcript = none ∧ row.audioUrl = none
  done : row.status = .done → (∃ reason ∈ validEndReasons, row.endReason = some reason) ∧
    row.transcript ≠ none ∧ row.failureReason = none
  failed : row.status = .failed → row.failureReason ≠ none ∧ row.endReason = none ∧
    row.transcript = none ∧
    (row.audioUrl ≠ none → ∃ reason, row.failureReason = some reason ∧
      transcriptionFailedPrefix <+: reason)
  delivered : row.webhookDeliveredAt ≠ none → row.status.Terminal

def Task.endReason : Task → Option Text
  | uploading _ endReason | sourcing _ endReason _ | transcribing _ endReason _
  | finishing _ endReason _ _ => some endReason
  | _ => none

def Transition.endReason : Transition → Option Text
  | finishDoneCall endReason _ _ => some endReason
  | _ => none

namespace Call.WellFormed

variable {row new : Call}

theorem of_created {cfg : WorkerSettings} {s : WorkerState} (h : Created cfg s new) :
    new.WellFormed := by
  obtain ⟨active, data, id, now, hcreate⟩ := h.service
  unfold CallService.create at hcreate
  split_ifs at hcreate
  cases hcreate
  constructor <;> simp

theorem written {now : Timestamp} {tr : Transition} (h : row.WellFormed)
    (hwritten : Written row now tr new)
    (hreason : ∀ reason ∈ tr.endReason, reason ∈ validEndReasons) : new.WellFormed := by
  have hpending : ¬ row.status.Terminal → row.webhookDeliveredAt = none := by
    intro hlive
    by_contra hdelivered
    exact hlive (h.delivered hdelivered)
  cases hwritten with
  | joining active diskOk hstatus =>
      have hlive : ¬ row.status.Terminal := by rw [hstatus]; decide
      constructor
      case live => exact fun _ => h.live hlive
      case delivered => exact fun hd => absurd (hpending hlive) hd
      all_goals simp
  | recording hstatus =>
      have hlive : ¬ row.status.Terminal := by rw [hstatus]; decide
      constructor
      case live => exact fun _ => h.live hlive
      case named => exact fun _ => h.named (by simp [hstatus])
      case delivered => exact fun hd => absurd (hpending hlive) hd
      all_goals simp
  | processing exitCode result hstatus =>
      have hlive : ¬ row.status.Terminal := by rw [hstatus]; decide
      constructor
      case live => exact fun _ => h.live hlive
      case named => exact fun _ => h.named (by simp [hstatus])
      case delivered => exact fun hd => absurd (hpending hlive) hd
      all_goals simp
  | done endReason audioUrl transcript hstatus =>
      have hlive : ¬ row.status.Terminal := by rw [hstatus]; decide
      obtain ⟨-, hfailure, -, -⟩ := h.live hlive
      constructor
      case live => exact fun hnot => absurd CallStatus.terminal_done hnot
      case named => exact fun _ => h.named (by simp [hstatus])
      case done => exact fun _ => ⟨⟨endReason, hreason _ rfl, rfl⟩, Option.some_ne_none _, hfailure⟩
      case delivered => exact fun _ => CallStatus.terminal_done
      all_goals simp
  | failed tr reason audioUrl hlive haudio =>
      obtain ⟨hend, -, htranscript, hurl⟩ := h.live hlive
      constructor
      case live => exact fun hnot => absurd CallStatus.terminal_failed hnot
      case failed =>
        intro _
        refine ⟨Option.some_ne_none _, hend, htranscript, fun hne => ⟨reason, rfl, ?_⟩⟩
        rcases haudio with hsame | hprefix
        · exact absurd (hsame.trans hurl) hne
        · exact hprefix
      case delivered => exact fun _ => CallStatus.terminal_failed
      all_goals simp

/-- Retention takes the `audio_url` away, and no column depends on having one. -/
theorem reclaimed (h : row.WellFormed) (now : Timestamp) :
    WellFormed { row with audioUrl := none, updatedAt := now } where
  queued := h.queued
  named := h.named
  live hlive := by
    obtain ⟨hend, hfailure, htranscript, -⟩ := h.live hlive
    exact ⟨hend, hfailure, htranscript, rfl⟩
  done := h.done
  failed hfailed := by
    obtain ⟨hfailure, hend, htranscript, -⟩ := h.failed hfailed
    exact ⟨hfailure, hend, htranscript, fun hne => absurd rfl hne⟩
  delivered := h.delivered

theorem delivery (h : row.WellFormed) (hterminal : row.status.Terminal)
    (hnew : SameButDelivery row new) : new.WellFormed := by
  obtain ⟨attempts, delivered, updated, rfl⟩ := hnew
  exact ⟨h.queued, h.named, h.live, h.done, h.failed, fun _ => hterminal⟩

end Call.WellFormed

structure RowsWellFormed (s : WorkerState) : Prop where
  rows : ∀ row ∈ s.runner.rows, row.WellFormed
  reasons : ∀ j, ∀ reason ∈ (s.runner.tasks j).endReason, reason ∈ validEndReasons

theorem exitEndReason_mem (exitCode : ExitCode) (status : CallStatus)
    (result : Option ResultPayload) : exitEndReason exitCode status result ∈ validEndReasons := by
  unfold exitEndReason
  split_ifs
  · decide
  · decide
  · unfold resultEndReason
    split
    · split_ifs with hvalid
      · exact hvalid
      · decide
    · decide

namespace Task

theorem endReason_committed {task : Task} {row : Call} {reason : Text}
    (h : (task.committed row).endReason = some reason) :
    task.endReason = some reason ∨ reason ∈ validEndReasons := by
  cases task with
  | exited id exitCode result =>
      simp only [committed] at h
      split_ifs at h
      · cases h
        exact .inr (exitEndReason_mem _ _ _)
      · cases h
  | sweeping next =>
      cases next with
      | finished => cases h
      | stale ids => cases ids <;> cases h
      | orphan ids => cases ids <;> cases h
  | signalling => cases h
  | uploadFailed => cases h
  | transcriptionFailed => cases h
  | finishing => cases h
  | _ => exact .inl h

theorem endReason_refused (task : Task) : task.refused.endReason = none := by
  rcases refused_cases task with h | ⟨_, h⟩ | ⟨_, h⟩ <;> rw [h] <;> rfl

theorem endReason_missing (task : Task) : task.missing.endReason = none := by
  rcases missing_cases task with h | ⟨_, h⟩ <;> rw [h] <;> rfl

theorem Follows.endReason_eq {cfg : RunnerSettings} {old new : Task} (h : Follows cfg old new)
    {reason : Text} (hnew : new.endReason = some reason) : old.endReason = some reason := by
  cases h <;> first | exact hnew | cases hnew

theorem endReason_of_work {task : Task} {id : Uuid} {tr : Transition}
    (h : task.work = some (id, tr)) {reason : Text} (htr : tr.endReason = some reason) :
    task.endReason = some reason := by
  cases task with
  | sweeping next =>
      cases next with
      | finished => cases h
      | stale ids =>
          cases ids <;> cases h
          cases htr
      | orphan ids =>
          cases ids <;> cases h
          cases htr
  | finishing =>
      cases h
      exact htr
  | signalling => cases h; cases htr
  | exited => cases h; cases htr
  | uploadFailed => cases h; cases htr
  | transcriptionFailed => cases h; cases htr
  | _ => cases h

end Task

theorem TaskMove.endReason {cfg : RunnerSettings} {s t : RunnerState} {e : RunnerEvent} {j : ℕ}
    {task : Task} (h : TaskMove cfg s t e j task) {reason : Text} (hnew : task.endReason = some reason) :
    (s.tasks j).endReason = some reason ∨ reason ∈ validEndReasons := by
  cases h with
  | kept => exact .inl hnew
  | follows task hmove => exact .inl (hmove.endReason_eq hnew)
  | committed now id tr row todo hevent hwork hrow hbody hnew' => exact Task.endReason_committed hnew
  | refused =>
      rw [Task.endReason_refused] at hnew
      cases hnew
  | missing =>
      rw [Task.endReason_missing] at hnew
      cases hnew
  | dispatched id next hphase => cases next <;> cases hnew
  | _ => cases hnew

namespace RowsWellFormed

variable {cfg : WorkerSettings}

theorem of_init {s : WorkerState} (h : (workerSystem cfg).init s) : RowsWellFormed s := by
  obtain ⟨⟨hrows, htasks, -⟩, -⟩ := h
  refine ⟨?_, ?_⟩
  · rw [hrows]
    intro row hrow
    cases hrow
  · intro j reason hreason
    rw [htasks j] at hreason
    cases hreason

theorem endReason_of_transaction {s : WorkerState} (hs : RowsWellFormed s) {e : RunnerEvent}
    {id : Uuid} {tr : Transition} (htr : s.runner.transaction e id tr) :
    ∀ reason ∈ tr.endReason, reason ∈ validEndReasons := by
  intro reason hreason
  cases e with
  | poll j k diskOk now =>
      obtain ⟨active, diskOk, rfl⟩ := htr
      cases hreason
  | transact j now => exact hs.reasons j reason (Task.endReason_of_work htr hreason)
  | _ => cases htr

theorem step (s : WorkerState) (e : WorkerEvent) (t : WorkerState) (hs : RowsWellFormed s)
    (h : (workerSystem cfg).step s e = some t) : RowsWellFormed t := by
  refine ⟨?_, ?_⟩
  · intro new hnew
    rcases rowOrigin_of_step h hnew with ⟨row, hrow, hchange⟩ | hcreated
    · have hold := hs.rows row hrow
      cases hchange with
      | kept => exact hold
      | written event tr now new hevent htr hwritten =>
          exact hold.written hwritten (hs.endReason_of_transaction htr)
      | reclaimed j ids now => exact hold.reclaimed now
      | delivered j receiver txNow now next new hevent hphase hterminal hpending hsame =>
          exact hold.delivery hterminal hsame
    · exact .of_created hcreated
  · intro j reason hreason
    rcases (taskMove_of_worker_step h j).endReason hreason with hold | hvalid
    · exact hs.reasons j reason hold
    · exact hvalid

end RowsWellFormed

/-- In every reachable state every row is well-formed. -/
theorem rows_wellFormed (cfg : WorkerSettings) {s : WorkerState}
    (hs : (workerSystem cfg).Reachable s) : ∀ row ∈ s.runner.rows, row.WellFormed :=
  ((workerSystem cfg).reachable_invariant (fun _ => RowsWellFormed.of_init) RowsWellFormed.step
    hs).rows

theorem rows_wellFormed_deliveredCall :
    ∃ row ∈ deliveredCallState.runner.rows, row.status = .done ∧ row.WellFormed := by
  have hdone : ∃ row ∈ deliveredCallState.runner.rows, row.status = .done := by decide +kernel
  obtain ⟨row, hrow, hstatus⟩ := hdone
  exact ⟨row, hrow, hstatus, rows_wellFormed sampleWorker deliveredCall_reachable row hrow⟩

end Notetaker

import Notetaker.BotResult
import Notetaker.CallWrites
import Notetaker.StoredAudio
import Notetaker.TerminalNotices

/-!
# From the bot's outcome to the row

The runner maps the exit of a bot through the exit-code table of `bot/README.md`. With the upload and
the transcription succeeding, the row of a recording call ends as the table says, except after an
operator stop with a good recording: there the table has no end reason, and the runner puts `call_ended`.
-/

open PythonText PythonFloat PythonUuid JsonText

namespace Notetaker

/-- The exit-code table, for a call that was recording. -/
def Prescribed (exitCode : BotExit) (endReason : Option EndReason) (row : Call) : Prop :=
  match exitCode with
  | .ok => row.status = .done ∧ row.endReason = endReason.map EndReason.text
  | .neverAdmitted => row.status = .failed ∧ row.failureReason = some "never_admitted".toList
  | .removed => row.status = .done ∧ row.endReason = some "removed".toList
  | .joinTimeout => row.status = .failed ∧ row.failureReason = some "no_show".toList
  | .botError =>
      row.status = .failed ∧ ∃ detail, row.failureReason = some ("bot_error:".toList ++ detail)
  | .consentMissing => row.status = .failed ∧ row.failureReason = some "consent_missing".toList
  | .silentRecording =>
      if endReason = some .alone then row.status = .done ∧ row.endReason = some "alone".toList
      else row.status = .failed ∧ row.failureReason = some "silent_recording".toList

/-! ## The runner's side -/

section Apply

variable (cfg : RunnerSettings) (s : RunnerState) (k : ℕ) (exitCode : ExitCode)
  (result : Option ResultPayload) (now : Timestamp) (segments : List SpeakerSegment)
  (later : Timestamp)

def exitEvents : List RunnerEvent := [.exit k exitCode result, .transact k now]

def pipelineEvents : List RunnerEvent :=
  [.upload k true, .source k .ready, .transcribe k (.transcript segments), .transact k later]

/-- `apply_exit_status`, with nobody else at the row. -/
def applyExitStatus : Option RunnerState :=
  ((runnerSystem cfg).run s (exitEvents k exitCode result now)).bind fun applied =>
    match applied.tasks k with
    | .uploading _ _ => (runnerSystem cfg).run applied (pipelineEvents k segments later)
    | _ => some applied

end Apply

section Rows

variable {limit : ℤ} {now : Timestamp} {row : Call} {exitCode : ExitCode}
  {result : Option ResultPayload}

theorem body_processing (hstatus : row.status = .recording)
    (h : entersPipeline exitCode row.status result) :
    (Transition.applyExitStatus exitCode result).body limit now row =
      some [⟨[.status .processing], now⟩] := by
  have hlegal : CallStatus.Legal row.status .processing := by
    rw [hstatus]
    decide
  have hlive : ¬ row.status.Terminal := CallStatus.not_terminal_of_legal hlegal
  rw [Transition.body, if_neg hlive, exitPayload, if_pos h]
  change statements now (CallService.transition row .processing []) [] = _
  rw [transition_eq_ok hlegal]
  rfl

theorem body_failed (hstatus : row.status = .recording)
    (h : ¬ entersPipeline exitCode row.status result) :
    (Transition.applyExitStatus exitCode result).body limit now row =
      some [⟨[.status .failed, .failureReason (failureReason exitCode row.status)], now⟩] := by
  have hlegal : CallStatus.Legal row.status .failed := by
    rw [hstatus]
    decide
  have hlive : ¬ row.status.Terminal := CallStatus.not_terminal_of_legal hlegal
  rw [Transition.body, if_neg hlive, exitPayload, if_neg h]
  change statements now (CallService.transition row .failed _) [] = _
  rw [transition_eq_ok hlegal]
  rfl

theorem body_done (hstatus : row.status = .processing) (endReason audioUrl : Text)
    (transcript : List SpeakerSegment) :
    (Transition.finishDoneCall endReason audioUrl transcript).body limit now row =
      some [⟨[.status .done, .endReason endReason, .transcript transcript, .audioUrl audioUrl],
        now⟩] := by
  have hlegal : CallStatus.Legal row.status .done := by
    rw [hstatus]
    decide
  change statements now (CallService.transition row .done _) [] = _
  rw [transition_eq_ok hlegal]
  rfl

end Rows

section Steps

variable (cfg : RunnerSettings) {s : RunnerState} {k : ℕ} {id : Uuid} {row : Call}
  (exitCode : ExitCode) (result : Option ResultPayload) (now later : Timestamp)
  (segments : List SpeakerSegment)

theorem exists_step_transact {tr : Transition} {todo : List Statement}
    (hwork : (s.tasks k).work = some (id, tr)) (hrow : findRow s.rows id = some row)
    (hbody : tr.body cfg.callConcurrencyLimit now row = some todo) :
    ∃ t, s.step cfg (.transact k now) = some t ∧ t.tasks k = (s.tasks k).committed row ∧
      findRow t.rows id = some (applyStatements row todo) := by
  obtain ⟨t, ht⟩ : ∃ t, t = ({ s with
      rows := modifyRow s.rows id fun _ => applyStatements row todo }.setTask k
        ((s.tasks k).committed row)).recordWinner id (applyStatements row todo).status k := ⟨_, rfl⟩
  have hid : (applyStatements row todo).id = id :=
    (id_applyStatements row todo).trans (findRow_mem hrow).2
  refine ⟨t, ?_, ?_, ?_⟩
  · change s.transact cfg k now = some t
    simp only [RunnerState.transact, hwork, hrow, hbody, ht]
  · rw [ht, RunnerState.tasks_recordWinner]
    exact Function.update_self k _ s.tasks
  · rw [ht, RunnerState.rows_recordWinner]
    exact findRow_modifyRow hrow hid

theorem exists_step_exit {signalled : Bool} (hk : s.tasks k = .running id signalled) :
    ∃ t, s.step cfg (.exit k exitCode result) = some t ∧
      t.tasks k = .exited id exitCode result ∧ t.rows = s.rows := by
  refine ⟨s.setTask k (.exited id exitCode result), ?_, ?_, rfl⟩
  · simp only [RunnerState.step, hk]
  · exact Function.update_self k _ s.tasks

theorem applyExitStatus_failed {signalled : Bool} (hk : s.tasks k = .running id signalled)
    (hrow : findRow s.rows id = some row) (hstatus : row.status = .recording)
    (h : ¬ entersPipeline exitCode .recording result) :
    ∃ t, applyExitStatus cfg s k exitCode result now segments later = some t ∧
      findRow t.rows id = some { row with
        status := .failed
        failureReason := some (failureReason exitCode .recording)
        updatedAt := now } := by
  rw [← hstatus] at h ⊢
  obtain ⟨exited, hexit, hexited, hrows⟩ :=
    exists_step_exit cfg exitCode result hk
  obtain ⟨applied, happly, happlied, hfinal⟩ := exists_step_transact cfg now
    (by rw [hexited]; rfl) (hrows ▸ hrow) (body_failed hstatus h)
  have hrun : (runnerSystem cfg).run s (exitEvents k exitCode result now) = some applied :=
    (runnerSystem cfg).run_cons_eq_some.2 ⟨exited, hexit,
      (runnerSystem cfg).run_cons_eq_some.2 ⟨applied, happly, rfl⟩⟩
  rw [hexited, Task.committed, if_neg h] at happlied
  refine ⟨applied, ?_, ?_⟩
  · rw [applyExitStatus, hrun, Option.bind_some, happlied]
  · rw [hfinal]
    have hlegal : CallStatus.Legal row.status .failed := by
      rw [hstatus]
      decide
    exact congrArg some (Call.update_status now hlegal (by simp [FieldChange.column]))

theorem pipeline_done {endReason : Text} (hk : s.tasks k = .uploading id endReason)
    (hrow : findRow s.rows id = some row) (hstatus : row.status = .processing) :
    ∃ t, (runnerSystem cfg).run s (pipelineEvents k segments later) = some t ∧
      findRow t.rows id = some { row with
        status := .done
        endReason := some endReason
        transcript := some segments
        audioUrl := some (cfg.storage.objectUri id)
        updatedAt := later } := by
  obtain ⟨uploaded, huploaded⟩ : ∃ t, t = { s.setTask k
    (.sourcing id endReason (cfg.storage.objectUri id)) with
      stored := Function.update s.stored id true } := ⟨_, rfl⟩
  have hupload : s.step cfg (.upload k true) = some uploaded := by
    simp only [RunnerState.step, hk, huploaded, if_pos]
  have hsourcing : uploaded.tasks k = .sourcing id endReason (cfg.storage.objectUri id) := by
    rw [huploaded]
    exact Function.update_self k _ s.tasks
  obtain ⟨ready, hready⟩ : ∃ t, t = uploaded.setTask k
    (.transcribing id endReason (cfg.storage.objectUri id)) := ⟨_, rfl⟩
  have hsource : uploaded.step cfg (.source k .ready) = some ready := by
    simp only [RunnerState.step, hsourcing, hready]
  have htranscribing : ready.tasks k = .transcribing id endReason (cfg.storage.objectUri id) := by
    rw [hready]
    exact Function.update_self k _ uploaded.tasks
  obtain ⟨heard, hheard⟩ : ∃ t, t = ready.setTask k
    (.finishing id endReason (cfg.storage.objectUri id) segments) := ⟨_, rfl⟩
  have htranscribe : ready.step cfg (.transcribe k (.transcript segments)) = some heard := by
    simp only [RunnerState.step, htranscribing, hheard]
  have hfinishing : heard.tasks k =
      .finishing id endReason (cfg.storage.objectUri id) segments := by
    rw [hheard]
    exact Function.update_self k _ ready.tasks
  have hrows : heard.rows = s.rows := by
    rw [hheard, hready, huploaded]
    rfl
  obtain ⟨done, hfinish, -, hfinal⟩ := exists_step_transact cfg later (by rw [hfinishing]; rfl)
    (hrows ▸ hrow) (body_done hstatus _ _ _)
  refine ⟨done, ?_, ?_⟩
  · exact (runnerSystem cfg).run_cons_eq_some.2 ⟨uploaded, hupload,
      (runnerSystem cfg).run_cons_eq_some.2 ⟨ready, hsource,
        (runnerSystem cfg).run_cons_eq_some.2 ⟨heard, htranscribe,
          (runnerSystem cfg).run_cons_eq_some.2 ⟨done, hfinish, rfl⟩⟩⟩⟩
  · rw [hfinal]
    have hlegal : CallStatus.Legal row.status .done := by
      rw [hstatus]
      decide
    exact congrArg some (Call.update_status later hlegal (by simp [FieldChange.column]))

theorem applyExitStatus_done {signalled : Bool} (hk : s.tasks k = .running id signalled)
    (hrow : findRow s.rows id = some row) (hstatus : row.status = .recording)
    (h : entersPipeline exitCode .recording result) :
    ∃ t, applyExitStatus cfg s k exitCode result now segments later = some t ∧
      findRow t.rows id = some { row with
        status := .done
        endReason := some (exitEndReason exitCode .recording result)
        transcript := some segments
        audioUrl := some (cfg.storage.objectUri id)
        updatedAt := later } := by
  rw [← hstatus] at h ⊢
  obtain ⟨exited, hexit, hexited, hrows⟩ := exists_step_exit cfg exitCode result hk
  obtain ⟨applied, happly, happlied, hprocessing⟩ := exists_step_transact cfg now
    (by rw [hexited]; rfl) (hrows ▸ hrow) (body_processing hstatus h)
  have hrun : (runnerSystem cfg).run s (exitEvents k exitCode result now) = some applied :=
    (runnerSystem cfg).run_cons_eq_some.2 ⟨exited, hexit,
      (runnerSystem cfg).run_cons_eq_some.2 ⟨applied, happly, rfl⟩⟩
  rw [hexited, Task.committed, if_pos h] at happlied
  have hlegal : CallStatus.Legal row.status .processing := by
    rw [hstatus]
    decide
  have hnew : applyStatements row [⟨[.status .processing], now⟩] =
      { row with status := .processing, updatedAt := now } :=
    Call.update_status now hlegal (by simp [FieldChange.column])
  rw [hnew] at hprocessing
  obtain ⟨t, hpipeline, hfinal⟩ := pipeline_done cfg later segments happlied hprocessing rfl
  refine ⟨t, ?_, hfinal⟩
  rw [applyExitStatus, hrun, Option.bind_some, happlied]
  exact hpipeline

end Steps

/-! ## The bot's side -/

theorem lookup_endReason (report : BotReport) (callId : Text) :
    (((report.payload callId).map toJsonMember).lookup "end_reason".toList) =
      some ((report.endReason.map fun reason => Scalar.str reason.text).getD .null).toJson := rfl

/-- The runner reads the bot's own end reason out of the payload. -/
theorem resultEndReason_payload (report : BotReport) (callId : Text) :
    resultEndReason (some ((report.payload callId).map toJsonMember)) =
      report.endReason.map EndReason.text := by
  rw [resultEndReason, Option.bind_some, lookup_endReason]
  cases report.endReason with
  | none => rfl
  | some reason => cases reason <;> rfl

theorem entersPipeline_code_iff (exitCode : BotExit) (result : Option ResultPayload) :
    entersPipeline (some exitCode.code) .recording result ↔
      exitCode = .ok ∨ exitCode = .removed ∨
        exitCode = .silentRecording ∧ resultEndReason result = some "alone".toList := by
  cases exitCode <;> simp [entersPipeline, cleanExit, aloneViaSilence, BotExit.code]

theorem text_eq_alone_iff (endReason : Option EndReason) :
    endReason.map EndReason.text = some "alone".toList ↔ endReason = some .alone := by
  cases endReason with
  | none => simp
  | some reason => cases reason <;> decide

theorem prescribed_of_failed {exitCode : BotExit} {endReason : Option EndReason} {row : Call}
    (h : ¬ (exitCode = .ok ∨ exitCode = .removed ∨
      exitCode = .silentRecording ∧ endReason = some .alone)) (hstatus : row.status = .failed)
    (hreason : row.failureReason = some (failureReason (some exitCode.code) .recording)) :
    Prescribed exitCode endReason row := by
  push Not at h
  obtain ⟨hok, hremoved, halone⟩ := h
  cases exitCode with
  | ok => exact absurd rfl hok
  | removed => exact absurd rfl hremoved
  | neverAdmitted | joinTimeout | consentMissing => exact ⟨hstatus, hreason⟩
  | botError => exact ⟨hstatus, "exit_5".toList, hreason⟩
  | silentRecording =>
      rw [Prescribed, if_neg (halone rfl)]
      exact ⟨hstatus, hreason⟩

theorem exitEndReason_alone {result : Option ResultPayload}
    (h : resultEndReason result = some "alone".toList) :
    exitEndReason (some BotExit.silentRecording.code) .recording result = "alone".toList := by
  have hsilence : aloneViaSilence (some BotExit.silentRecording.code) .recording result := by
    rw [aloneViaSilence, h]
    decide
  rw [exitEndReason, if_pos hsilence]

theorem prescribed_done_iff {exitCode : BotExit} {endReason : Option EndReason} {row : Call}
    {result : Option ResultPayload}
    (h : exitCode = .ok ∨ exitCode = .removed ∨
      exitCode = .silentRecording ∧ endReason = some .alone)
    (hread : resultEndReason result = endReason.map EndReason.text) (hstatus : row.status = .done)
    (hreason : row.endReason = some (exitEndReason (some exitCode.code) .recording result)) :
    Prescribed exitCode endReason row ↔ ¬ (exitCode = .ok ∧ endReason = none) := by
  rcases h with rfl | rfl | ⟨rfl, rfl⟩
  · change row.endReason = some ((resultEndReason result).getD "call_ended".toList) at hreason
    rw [Prescribed, hreason, hread]
    cases endReason with
    | none => simp
    | some reason => simp [hstatus]
  · change row.endReason = some "removed".toList at hreason
    exact iff_of_true ⟨hstatus, hreason⟩ (by simp)
  · rw [exitEndReason_alone hread] at hreason
    rw [Prescribed, if_pos rfl]
    exact iff_of_true ⟨hstatus, hreason⟩ (by simp)

section Report

variable (cfg : RunnerSettings) {s : RunnerState} {k : ℕ} {id : Uuid} {row : Call}
  (now later : Timestamp) (segments : List SpeakerSegment)

/-- Every exit of a recording bot lands as the table says, but for a clean exit without an end reason. -/
theorem exists_prescribed_iff (report : BotReport) (callId : Text) {signalled : Bool}
    (hk : s.tasks k = .running id signalled) (hrow : findRow s.rows id = some row)
    (hstatus : row.status = .recording) :
    ∃ t final, applyExitStatus cfg s k (some report.exitCode.code)
        (some ((report.payload callId).map toJsonMember)) now segments later = some t ∧
      findRow t.rows id = some final ∧
      (Prescribed report.exitCode report.endReason final ↔
        ¬ (report.exitCode = .ok ∧ report.endReason = none)) := by
  obtain ⟨result, hresult⟩ : ∃ result, result = some ((report.payload callId).map toJsonMember) :=
    ⟨_, rfl⟩
  have hread : resultEndReason result = report.endReason.map EndReason.text := by
    rw [hresult]
    exact resultEndReason_payload report callId
  rw [← hresult]
  generalize report.exitCode = exitCode, report.endReason = endReason at *
  by_cases henters : entersPipeline (some exitCode.code) .recording result
  · obtain ⟨t, ht, hfinal⟩ := applyExitStatus_done cfg _ result now later segments hk hrow hstatus
      henters
    refine ⟨t, _, ht, hfinal, ?_⟩
    rw [entersPipeline_code_iff, hread, text_eq_alone_iff] at henters
    exact prescribed_done_iff henters hread rfl rfl
  · obtain ⟨t, ht, hfinal⟩ := applyExitStatus_failed cfg _ result now later segments hk hrow hstatus
      henters
    refine ⟨t, _, ht, hfinal, ?_⟩
    rw [entersPipeline_code_iff, hread, text_eq_alone_iff] at henters
    have hok : exitCode ≠ .ok := fun h => henters (.inl h)
    exact iff_of_true (prescribed_of_failed henters rfl rfl) fun h => hok h.1

end Report

/-! ## Operator stops -/

/-- On the way out the leave control is absent or clicked, and `Recorder.stop` does not raise. -/
def Poll.LeavesAndStops (poll : Poll) : Prop :=
  (poll.leaveButton = .ok false ∨ poll.leaveButton = .ok true ∧ poll.leaveClick = .ok ()) ∧
    ∃ report, poll.recorderStop = .ok report

section Runs

variable (cfg : LoopConfig) (start : ℚ) (polls : List MeetPoll)

def StartsRecording : Prop :=
  ∃ before after t, polls = before ++ after ∧
    (Meet.runCallLoop cfg start before).2 = .polling t ∧ t.recordingStarted

/-- A stop is requested while the loop records, and carried out. -/
def OperatorStop : Prop :=
  ∃ before poll after t, polls = before ++ poll :: after ∧
    (Meet.runCallLoop cfg start before).2 = .polling t ∧ t.recordingStarted ∧
    poll.stopRequested ∧ poll.LeavesAndStops

end Runs

namespace Meet

variable {cfg : LoopConfig} {start : ℚ} {polls : List MeetPoll} {s : LoopState} {poll : MeetPoll}

theorem leavesAndStops_of_handleStop {poll : Poll} {next : LoopState ⊕ BotOutcome}
    (hs : s.recordingStarted) (h : (handleStop side cfg s poll).result = .ok next) :
    poll.LeavesAndStops := by
  rw [handleStop, if_pos hs] at h
  obtain ⟨u, hensure, -⟩ := EventLog.result_bind_eq_ok.1 h
  obtain ⟨hleave, hstop⟩ := EventLog.result_ensure_eq_ok.1 hensure
  exact ⟨(result_leaveMeet_iff poll).1 hleave, exists_report_of_stopRecording hstop⟩

theorem handleStop_eq_ok (cfg : LoopConfig) {poll : Poll} (hs : s.recordingStarted) (h : poll.LeavesAndStops) :
    ∃ outcome, (handleStop side cfg s poll).result = .ok (.inr outcome) ∧
      outcome.exitCode = .ok ∧ outcome.endReason = none ∧ outcome.recordingStarted := by
  obtain ⟨hleave, report, hreport⟩ := h
  have hensure : ((side.leave poll).ensure (stopRecording side poll)).result = .ok () :=
    EventLog.result_ensure_eq_ok.2
      ⟨(result_leaveMeet_iff poll).2 hleave, stopRecording_eq_ok hreport⟩
  refine ⟨⟨.ok, none, "stop requested", true, by decide, trivial⟩, ?_, rfl, rfl, rfl⟩
  rw [handleStop, if_pos hs, finishRecording, EventLog.bind_of_ok hensure, BotOutcome.make,
    dif_pos ⟨by decide, trivial⟩]
  rfl

theorem step_of_stopRequested (h : poll.stopRequested) :
    step cfg s poll = handleStop side cfg s poll.toPoll := if_pos h

theorem exists_recordingEnd {outcome : BotOutcome}
    (hrun : (runCallLoop cfg start polls).2 = .returned outcome)
    (hstarted : StartsRecording cfg start polls) :
    ∃ before poll after t, polls = before ++ poll :: after ∧
      (runCallLoop cfg start before).2 = .polling t ∧ t.recordingStarted ∧
      (step cfg t poll).result = .ok (.inr outcome) ∧ outcome.recordingStarted ∧
      RecordingEnd cfg t poll.toPoll (ControlsAbsent poll) outcome.exitCode outcome.endReason := by
  obtain ⟨begun, rest, u, rfl, hbegun, hu⟩ := hstarted
  change ((loop cfg).run (.initial start) begun).2 = .polling u at hbegun
  have hrest : ((loop cfg).run u rest).2 = .returned outcome := by
    rw [← (loop cfg).run_append_of_polling hbegun]
    exact hrun
  obtain ⟨before, poll, after, t, rfl, hbefore, hstep, -⟩ := (loop cfg).exists_returning_poll hrest
  have ht : t.recordingStarted := by
    refine (loop cfg).run_invariant (P := fun s => s.recordingStarted) ?_ hu hbefore
    intro s poll t hs hresult
    exact step_ensures hs _ hresult
  refine ⟨begun ++ before, poll, after, t, by simp, ?_, ht, hstep, step_ensures ht _ hstep⟩
  change ((loop cfg).run (.initial start) (begun ++ before)).2 = .polling t
  rw [(loop cfg).run_append_of_polling hbegun]
  exact hbefore

theorem runCallLoop_of_operatorStop (h : OperatorStop cfg start polls) :
    ∃ outcome, (runCallLoop cfg start polls).2 = .returned outcome ∧ outcome.exitCode = .ok ∧
      outcome.endReason = none ∧ outcome.recordingStarted := by
  obtain ⟨before, poll, after, t, rfl, hbefore, ht, hstop, hleaves⟩ := h
  obtain ⟨outcome, hresult, hexit, hreason, hrecording⟩ := handleStop_eq_ok cfg ht hleaves
  refine ⟨outcome, ?_, hexit, hreason, hrecording⟩
  change ((loop cfg).run (.initial start) (before ++ poll :: after)).2 = .returned outcome
  rw [(loop cfg).run_append_of_polling hbefore]
  have hstep : ((loop cfg).step t poll).result = .ok (.inr outcome) := by
    change (step cfg t poll).result = _
    rw [step_of_stopRequested hstop]
    exact hresult
  rw [(loop cfg).run_cons_returned hstep]

end Meet

section Agreement

variable (cfg : LoopConfig) (start : ℚ) (polls : List MeetPoll) (close : Reading Unit)
  (check : RecordingStatus)

/-- The exit code and the result payload of the bot, applied to the row of its call, give the row that
the table prescribes. -/
def OutcomeAgreement (runner : RunnerSettings) (s : RunnerState) (k : ℕ) (id : Uuid)
    (now later : Timestamp) (segments : List SpeakerSegment) : Prop :=
  ∃ ended report t final, runEnd (Meet.runCallLoop cfg start polls).2 close = some ended ∧
    report = exitReport ended check ∧
    applyExitStatus runner s k (some report.exitCode.code)
      (some ((report.payload cfg.callId).map toJsonMember)) now segments later = some t ∧
    findRow t.rows id = some final ∧ Prescribed report.exitCode report.endReason final

variable {cfg start polls close check} {runner : RunnerSettings} {s : RunnerState} {k : ℕ}
  {id : Uuid} {row : Call} {now later : Timestamp} {segments : List SpeakerSegment}

theorem exitReport_clean_iff {ended : Reading BotOutcome}
    (hended : runEnd (Meet.runCallLoop cfg start polls).2 close = some ended)
    (hstarted : StartsRecording cfg start polls) :
    ((exitReport ended check).exitCode = .ok ∧ (exitReport ended check).endReason = none) ↔
      OperatorStop cfg start polls ∧ close = .ok () ∧ check = .ok := by
  constructor
  · rintro ⟨hexit, hreason⟩
    cases ended with
    | error e => cases hexit
    | ok outcome =>
        obtain ⟨hrun, hclose⟩ : (Meet.runCallLoop cfg start polls).2 = .returned outcome ∧
            close = .ok () := by
          cases hstatus : (Meet.runCallLoop cfg start polls).2 <;> cases close <;>
            rw [hstatus] at hended <;> cases hended
          exact ⟨rfl, rfl⟩
        obtain ⟨before, poll, after, t, hpolls, hbefore, ht, hstep, hrecording, hend⟩ :=
          Meet.exists_recordingEnd hrun hstarted
        change finalizeRecording outcome check = .ok at hexit
        change outcome.endReason = none at hreason
        obtain ⟨hok, hcheck⟩ := (finalizeRecording_eq_ok_iff hrecording check).1 hexit
        rw [hok, hreason] at hend
        obtain ⟨hstop⟩ := hend
        rw [Meet.step_of_stopRequested hstop] at hstep
        exact ⟨⟨before, poll, after, t, hpolls, hbefore, ht, hstop,
          Meet.leavesAndStops_of_handleStop ht hstep⟩, hclose, hcheck⟩
  · rintro ⟨hstop, rfl, rfl⟩
    obtain ⟨outcome, hrun, hexit, hreason, hrecording⟩ := Meet.runCallLoop_of_operatorStop hstop
    rw [hrun] at hended
    cases hended
    exact ⟨(finalizeRecording_eq_ok_iff hrecording .ok).2 ⟨hexit, rfl⟩, hreason⟩

theorem outcomeAgreement_of_ended {ended : Reading BotOutcome}
    (hended : runEnd (Meet.runCallLoop cfg start polls).2 close = some ended) {signalled : Bool}
    (hk : s.tasks k = .running id signalled) (hrow : findRow s.rows id = some row)
    (hstatus : row.status = .recording) :
    OutcomeAgreement cfg start polls close check runner s k id now later segments ↔
      ¬ ((exitReport ended check).exitCode = .ok ∧ (exitReport ended check).endReason = none) := by
  obtain ⟨t, final, ht, hfinal, hprescribed⟩ := exists_prescribed_iff runner now later segments
    (exitReport ended check) cfg.callId hk hrow hstatus
  rw [← hprescribed]
  constructor
  · rintro ⟨ended', report, t', final', hended', rfl, ht', hfinal', h⟩
    obtain rfl : ended' = ended := Option.some.inj (hended'.symm.trans hended)
    obtain rfl : t' = t := Option.some.inj (ht'.symm.trans ht)
    obtain rfl : final' = final := Option.some.inj (hfinal'.symm.trans hfinal)
    exact h
  · intro h
    exact ⟨ended, _, t, final, hended, rfl, ht, hfinal, h⟩

/-- For a call that was recording, the row agrees with the table unless an operator stop ended a good
recording. -/
theorem outcomeAgreement_iff
    (hended : (runEnd (Meet.runCallLoop cfg start polls).2 close).isSome)
    (hstarted : StartsRecording cfg start polls) {signalled : Bool}
    (hk : s.tasks k = .running id signalled) (hrow : findRow s.rows id = some row)
    (hstatus : row.status = .recording) :
    OutcomeAgreement cfg start polls close check runner s k id now later segments ↔
      ¬ (OperatorStop cfg start polls ∧ close = .ok () ∧ check = .ok) := by
  obtain ⟨ended, hended⟩ := Option.isSome_iff_exists.1 hended
  rw [← exitReport_clean_iff hended hstarted]
  exact outcomeAgreement_of_ended hended hk hrow hstatus

end Agreement

def recordingRunner : RunnerState :=
  { emptyRunner with rows := [sampleCall .recording] }.setTask 0 (.running 0 true)

def endedCall : List MeetPoll :=
  [admittedPoll 2, { admittedPoll 4 with ended := .ok (true, "call ended: The call has ended") }]

def stoppedCall : List MeetPoll := [admittedPoll 2, { admittedPoll 4 with stopRequested := true }]

theorem startsRecording_admittedPoll (polls : List MeetPoll) :
    StartsRecording sampleConfig 0 (admittedPoll 2 :: polls) :=
  ⟨[admittedPoll 2], polls, _, rfl, rfl, rfl⟩

theorem outcomeAgreement_endedCall :
    OutcomeAgreement sampleConfig 0 endedCall (.ok ()) .ok sampleSettings recordingRunner 0 0 10 20
      [] := by
  have hstarted : StartsRecording sampleConfig 0 endedCall := startsRecording_admittedPoll _
  refine (outcomeAgreement_iff rfl hstarted rfl rfl rfl).2 ?_
  rintro ⟨⟨before, poll, after, t, hpolls, -, -, hstop, -⟩, -, -⟩
  have hpoll : poll ∈ endedCall := by
    rw [hpolls]
    exact List.mem_append_right _ List.mem_cons_self
  simp only [endedCall, List.mem_cons, List.not_mem_nil, or_false] at hpoll
  rcases hpoll with rfl | rfl <;> cases hstop

/-- The operator stops a bot that has recorded well, and the runner puts `call_ended`. -/
theorem not_outcomeAgreement_stoppedCall :
    ¬ OutcomeAgreement sampleConfig 0 stoppedCall (.ok ()) .ok sampleSettings recordingRunner 0 0 10
      20 [] := by
  have hstop : OperatorStop sampleConfig 0 stoppedCall :=
    ⟨[admittedPoll 2], { admittedPoll 4 with stopRequested := true }, [], _, rfl, rfl, rfl, rfl,
      .inr ⟨rfl, rfl⟩, _, rfl⟩
  obtain ⟨outcome, hrun, -⟩ := Meet.runCallLoop_of_operatorStop hstop
  have hended : runEnd (Meet.runCallLoop sampleConfig 0 stoppedCall).2 (.ok ()) =
      some (.ok outcome) := by
    rw [hrun]
    rfl
  rw [outcomeAgreement_of_ended hended rfl rfl rfl, not_not]
  exact (exitReport_clean_iff hended (startsRecording_admittedPoll _)).2 ⟨hstop, rfl, rfl⟩

end Notetaker

import Notetaker.MeetLoop
import Notetaker.ZoomLoop

/-!
# How the loops end a recording

While recording, a turn either goes on polling or ends the recording for one of nine causes. The exit
and the end reason of the outcome are those of the cause, on both platforms.
-/

open PythonText PythonFloat

namespace Notetaker

/-- The causes with what they report. `absent` says that the in-call controls are gone at the poll. -/
inductive RecordingEnd (cfg : LoopConfig) (s : LoopState) (poll : Poll) (absent : Prop) :
    BotExit → Option EndReason → Prop where
  | stopped (h : poll.stopRequested) : RecordingEnd cfg s poll absent .ok none
  | removed {detail : Text} (h : poll.removed = .ok (true, detail)) :
      RecordingEnd cfg s poll absent .removed (some .removed)
  | ended {detail : Text} (h : poll.ended = .ok (true, detail)) :
      RecordingEnd cfg s poll absent .ok (some .callEnded)
  | recorderDied (h : poll.recorderRunning = false) : RecordingEnd cfg s poll absent .botError none
  | maxDuration (h : cfg.timeouts.maxRecordS ≤ poll.now - s.admittedAt) :
      RecordingEnd cfg s poll absent .ok (some .giveUp)
  | alone {since : ℚ} {detail : Text} (hbot : poll.botAlone = .ok (true, detail))
      (hothers : s.sawOthers) (hsince : s.aloneSince = some since)
      (h : cfg.timeouts.aloneGraceS ≤ poll.now - since) :
      RecordingEnd cfg s poll absent .ok (some .alone)
  | emptyRoom {detail : Text} (hbot : poll.botAlone = .ok (true, detail))
      (hothers : s.sawOthers = false) (h : cfg.timeouts.emptyRoomS ≤ poll.now - s.admittedAt) :
      RecordingEnd cfg s poll absent .joinTimeout none
  | unknownRoom {detail : Text} (hbot : poll.botAlone = .ok (false, detail))
      (hothers : s.sawOthers = false)
      (h : cfg.timeouts.emptyRoomS ≤ poll.now - s.unknownSince.getD poll.now) :
      RecordingEnd cfg s poll absent .botError none
  | controlsGone (h : absent) (hmissed : endedConfirmationPolls ≤ s.missedControls + 1) :
      RecordingEnd cfg s poll absent .ok (some .callEnded)

/-- A removal or the end of the call needs a notice, or the controls gone. -/
theorem RecordingEnd.of_terminal {cfg : LoopConfig} {s : LoopState} {poll : Poll} {absent : Prop}
    {exitCode : BotExit} {endReason : Option EndReason}
    (h : RecordingEnd cfg s poll absent exitCode endReason)
    (hterminal : endReason = some .removed ∨ endReason = some .callEnded) :
    (∃ detail, poll.removed = .ok (true, detail)) ∨ (∃ detail, poll.ended = .ok (true, detail)) ∨
      absent := by
  cases h with
  | removed hremoved => exact .inl ⟨_, hremoved⟩
  | ended hended => exact .inr (.inl ⟨_, hended⟩)
  | controlsGone habsent => exact .inr (.inr habsent)
  | _ => simp at hterminal

/-- A turn goes on recording, or it reports a recording that ended for a cause. -/
def EndsBy (cause : BotExit → Option EndReason → Prop) : LoopState ⊕ BotOutcome → Prop
  | .inl t => t.recordingStarted
  | .inr outcome => outcome.recordingStarted ∧ cause outcome.exitCode outcome.endReason

section Turns

variable {side : LoopSide} {cfg : LoopConfig} {s : LoopState} {poll : Poll} {absent : Prop}
  {cause : BotExit → Option EndReason → Prop}

theorem keepPolling_ensures (hs : s.recordingStarted) :
    (keepPolling poll s).Ensures (EndsBy cause) :=
  EventLog.Ensures.read_bind fun _ _ => EventLog.Ensures.pure hs

theorem report_ensures {exitCode : BotExit} {endReason : Option EndReason} {reason : Text}
    (h : cause exitCode endReason) :
    (do return .inr (← BotOutcome.make exitCode endReason reason true) : Turn).Ensures
      (EndsBy cause) := by
  apply EventLog.Ensures.bind
  intro outcome houtcome
  obtain ⟨hexit, hreason, -, hrecording⟩ := BotOutcome.of_make houtcome
  apply EventLog.Ensures.pure
  change outcome.recordingStarted ∧ cause outcome.exitCode outcome.endReason
  rw [hexit, hreason]
  exact ⟨hrecording, h⟩

theorem finishRecording_ensures {toState reason : Text} {exitCode : BotExit}
    {endReason : Option EndReason} (h : cause exitCode endReason) :
    (finishRecording side cfg s poll toState reason exitCode endReason).Ensures (EndsBy cause) :=
  EventLog.Ensures.bind fun _ _ => EventLog.Ensures.bind fun _ _ => report_ensures h

theorem endOnNotice_ensures {toState reason lastLine : Text} {exitCode : BotExit}
    {endReason : EndReason} (h : cause exitCode (some endReason)) :
    (endOnNotice side cfg s poll toState reason lastLine exitCode endReason).Ensures
      (EndsBy cause) :=
  EventLog.Ensures.bind fun _ _ => EventLog.Ensures.bind fun _ _ => report_ensures h

theorem handleStop_ensures (hs : s.recordingStarted) (hstop : poll.stopRequested) :
    (handleStop side cfg s poll).Ensures (EndsBy (RecordingEnd cfg s poll absent)) := by
  rw [handleStop, if_pos hs]
  exact finishRecording_ensures (.stopped hstop)

theorem recorderDied_ensures (h : poll.recorderRunning = false) :
    (recorderDied side cfg s poll).Ensures (EndsBy (RecordingEnd cfg s poll absent)) :=
  EventLog.Ensures.bind fun _ _ => EventLog.Ensures.bind fun _ _ =>
    finishRecording_ensures (.recorderDied h)

theorem maxDurationReached_ensures (h : cfg.timeouts.maxRecordS ≤ poll.now - s.admittedAt) :
    (maxDurationReached side cfg s poll).Ensures (EndsBy (RecordingEnd cfg s poll absent)) :=
  EventLog.Ensures.bind fun _ _ => finishRecording_ensures (.maxDuration h)

theorem participantTurn_ensures (hs : s.recordingStarted) :
    (participantTurn side cfg s poll).Ensures (EndsBy (RecordingEnd cfg s poll absent)) := by
  apply EventLog.Ensures.read_bind
  rintro ⟨count, countDetail⟩ -
  apply EventLog.Ensures.read_bind
  rintro ⟨alone, aloneDetail⟩ hbot
  dsimp only
  split_ifs with hcount halone hothers hothers'
  · exact keepPolling_ensures hs
  · obtain rfl : alone = true := halone
    unfold aloneTurn
    dsimp only
    split
    · exact EventLog.Ensures.bind fun _ _ => keepPolling_ensures hs
    · rename_i since hsince
      split_ifs with hgrace
      · exact finishRecording_ensures (.alone hbot hothers hsince hgrace)
      · exact keepPolling_ensures hs
  · obtain rfl : alone = true := halone
    unfold emptyRoomTurn
    split_ifs with hempty
    · exact EventLog.Ensures.bind fun _ _ =>
        finishRecording_ensures (.emptyRoom hbot (by simpa using hothers) hempty)
    · exact keepPolling_ensures hs
  · exact keepPolling_ensures hs
  · obtain rfl : alone = false := by simpa using halone
    unfold unknownRoomTurn
    dsimp only
    split_ifs with hempty hevidence
    · exact EventLog.Ensures.bind fun _ _ => EventLog.Ensures.bind fun _ _ =>
        finishRecording_ensures (.unknownRoom hbot (by simpa using hothers') hempty)
    · exact EventLog.Ensures.bind fun _ _ => EventLog.Ensures.bind fun _ _ =>
        keepPolling_ensures hs
    · exact keepPolling_ensures hs

theorem missedControlsTurn_ensures (hs : s.recordingStarted) (habsent : absent) :
    (missedControlsTurn side cfg s poll).Ensures (EndsBy (RecordingEnd cfg s poll absent)) := by
  unfold missedControlsTurn
  dsimp only
  split_ifs with hmissed
  · exact EventLog.Ensures.bind fun _ _ => endOnNotice_ensures (.controlsGone habsent hmissed)
  · exact keepPolling_ensures hs

theorem recordingChecks_ensures (hs : s.recordingStarted) {removed ended : Bool × Text}
    (hremoved : poll.removed = .ok removed) (hended : poll.ended = .ok ended) {controls : Bool}
    {otherwise : Turn}
    (hotherwise : controls = false → otherwise.Ensures (EndsBy (RecordingEnd cfg s poll absent))) :
    (recordingChecks side cfg s poll removed ended controls otherwise).Ensures
      (EndsBy (RecordingEnd cfg s poll absent)) := by
  obtain ⟨removed, removedDetail⟩ := removed
  obtain ⟨ended, endedDetail⟩ := ended
  unfold recordingChecks
  split_ifs with h1 h2 h3 h4 h5
  · obtain rfl : removed = true := h1
    exact endOnNotice_ensures (.removed hremoved)
  · obtain rfl : ended = true := h2
    exact endOnNotice_ensures (.ended hended)
  · exact maxDurationReached_ensures h4
  · exact participantTurn_ensures hs
  · exact hotherwise ((Bool.not_eq_true _).mp h5)
  · exact recorderDied_ensures (by simpa using h3)

/-! ## Returning turns -/

theorem result_recorderStop (report : StopReport) : (recorderStop (.ok report)).result = .ok () := by
  unfold recorderStop
  rw [EventLog.result_emit_bind]
  dsimp only
  split_ifs <;> cases report.size <;> rfl

theorem stopRecording_eq_ok {report : StopReport} (h : poll.recorderStop = .ok report) :
    (stopRecording side poll).result = .ok () := by
  unfold stopRecording
  rw [h, EventLog.bind_of_ok (result_recorderStop report)]
  rfl

theorem exists_report_of_stopRecording {u : Unit}
    (h : (stopRecording side poll).result = .ok u) : ∃ report, poll.recorderStop = .ok report := by
  unfold stopRecording at h
  obtain ⟨u, hstop, -⟩ := EventLog.result_bind_eq_ok.1 h
  cases hreport : poll.recorderStop with
  | ok report => exact ⟨report, rfl⟩
  | error e =>
      rw [hreport] at hstop
      cases hstop

theorem endOnNotice_eq_ok {toState reason lastLine : Text} {exitCode : BotExit}
    {endReason : EndReason} {report : StopReport} (h : poll.recorderStop = .ok report)
    (hreason : reason ≠ []) (hfits : EndReason.Fits exitCode (some endReason)) :
    (endOnNotice side cfg s poll toState reason lastLine exitCode endReason).result =
      .ok (.inr ⟨exitCode, some endReason, reason, true, hreason, hfits⟩) := by
  have hstop : ((stopRecording side poll).ensure
      (logTransition side.logger cfg.callId s.phase.text toState reason)).result = .ok () :=
    EventLog.result_ensure_eq_ok.2 ⟨stopRecording_eq_ok h, rfl⟩
  unfold endOnNotice BotOutcome.make
  rw [EventLog.bind_of_ok hstop, dif_pos ⟨hreason, hfits⟩]
  rfl

theorem exists_report_of_endOnNotice {toState reason lastLine : Text} {exitCode : BotExit}
    {endReason : EndReason} {next : LoopState ⊕ BotOutcome}
    (h : (endOnNotice side cfg s poll toState reason lastLine exitCode endReason).result =
      .ok next) : ∃ report, poll.recorderStop = .ok report := by
  unfold endOnNotice at h
  obtain ⟨u, hstop, -⟩ := EventLog.result_bind_eq_ok.1 h
  exact exists_report_of_stopRecording (EventLog.result_ensure_eq_ok.1 hstop).1

end Turns

namespace Meet

variable {cfg : LoopConfig} {s : LoopState} {poll : MeetPoll}

/-- Neither the admission is evident nor the leave control there. -/
def ControlsAbsent (poll : MeetPoll) : Prop :=
  (∃ detail, poll.admitted = .ok (false, detail)) ∧ poll.leaveVisible = .ok false

theorem step_ensures (hs : s.recordingStarted) :
    (step cfg s poll).Ensures
      (EndsBy (RecordingEnd cfg s poll.toPoll (ControlsAbsent poll))) := by
  rw [step_eq]
  apply phasedTurn_ensures
  case hstop => exact handleStop_ensures hs
  case hadmission => exact fun h => absurd (h.symm.trans hs) Bool.false_ne_true
  case hwaiting => exact fun h => absurd (h.symm.trans hs) Bool.false_ne_true
  rintro - removed ended ⟨admitted, admittedDetail⟩ hremoved hended hadmitted
  rw [recordingTurn_eq]
  apply recordingChecks_ensures hs hremoved hended
  intro hgone
  obtain rfl : admitted = false := hgone
  apply EventLog.Ensures.read_bind
  intro visible hvisible
  split_ifs with hleave
  · exact EventLog.Ensures.bind fun _ _ => keepPolling_ensures hs
  · obtain rfl : visible = false := by simpa using hleave
    exact missedControlsTurn_ensures hs ⟨⟨admittedDetail, hadmitted⟩, hvisible⟩

end Meet

namespace Zoom

variable {cfg : LoopConfig} {s : LoopState} {poll : ZoomPoll}

def ControlsAbsent (poll : ZoomPoll) : Prop :=
  ∃ detail, poll.inCallControls = .ok (false, detail)

theorem step_ensures (hs : s.recordingStarted) :
    (step cfg s poll).Ensures
      (EndsBy (RecordingEnd cfg s poll.toPoll (ControlsAbsent poll))) := by
  rw [step_eq]
  apply phasedTurn_ensures
  case hstop => exact handleStop_ensures hs
  case hadmission => exact fun h => absurd (h.symm.trans hs) Bool.false_ne_true
  case hwaiting => exact fun h => absurd (h.symm.trans hs) Bool.false_ne_true
  rintro - removed ended - hremoved hended -
  rw [recordingTurn_eq]
  apply EventLog.Ensures.read_bind
  rintro ⟨anchor, anchorDetail⟩ hanchor
  apply recordingChecks_ensures hs hremoved hended
  intro hgone
  obtain rfl : anchor = false := hgone
  exact missedControlsTurn_ensures hs ⟨anchorDetail, hanchor⟩

end Zoom
end Notetaker

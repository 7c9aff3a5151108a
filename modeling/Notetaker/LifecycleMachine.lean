import Mathlib.Tactic.FinCases
import Notetaker.TerminalNotices

/-!
# The machine behind both loops

The Meet loop and the Zoom loop put different questions to different pages. What they decide depends on
ten facts of each poll alone, and `Lifecycle.machine` decides it from these facts. Both loops refine the
machine as long as the recorder and the leaving do not fail, and no notice of a waiting room contradicts
the controls while recording. So they return at the same poll, with the same verdict.
-/

open PythonText PythonFloat PythonUuid JsonText

namespace Notetaker

structure AbstractPoll where
  now : ℚ
  stopRequested : Bool
  admitted : Bool
  /-- A wall blocks the join. -/
  blocked : Bool
  removed : Bool
  ended : Bool
  /-- The in-call controls are visible. -/
  controls : Bool
  count : Option ℕ
  alone : Bool
  recorderAlive : Bool

structure BotVerdict where
  exitCode : BotExit
  endReason : Option EndReason
  recordingStarted : Bool

def BotOutcome.verdict (outcome : BotOutcome) : BotVerdict :=
  ⟨outcome.exitCode, outcome.endReason, outcome.recordingStarted⟩

namespace Lifecycle

/-- When the periodic evidence is due next. -/
def nextEvidence (due now : ℚ) : ℚ := if due ≤ now then now + 30 else due

variable (timeouts : Timeouts) (s : LoopState) (poll : AbstractPoll)

def waiting : LoopState ⊕ BotVerdict :=
  if poll.blocked then .inr ⟨.botError, none, false⟩
  else if timeouts.waitingRoomS ≤ poll.now - s.start then .inr ⟨.neverAdmitted, none, false⟩
  else .inl { s with nextAdmissionEvidence := nextEvidence s.nextAdmissionEvidence poll.now }

def begun : LoopState :=
  { s with
    phase := .inCall
    recordingStarted := true
    admittedAt := poll.now
    unknownSince := some poll.now
    nextUnknownEvidence := poll.now + 30 }

def aloneWithHistory : LoopState ⊕ BotVerdict :=
  match s.aloneSince with
  | none => .inl { s with aloneSince := some poll.now }
  | some since =>
      if timeouts.aloneGraceS ≤ poll.now - since then .inr ⟨.ok, some .alone, true⟩ else .inl s

def emptyRoom : LoopState ⊕ BotVerdict :=
  if timeouts.emptyRoomS ≤ poll.now - s.admittedAt then .inr ⟨.joinTimeout, none, true⟩
  else .inl { s with unknownSince := none }

def unknownRoom : LoopState ⊕ BotVerdict :=
  let since := s.unknownSince.getD poll.now
  if timeouts.emptyRoomS ≤ poll.now - since then .inr ⟨.botError, none, true⟩
  else .inl { s with
    unknownSince := some since
    nextUnknownEvidence := nextEvidence s.nextUnknownEvidence poll.now }

def participants : LoopState ⊕ BotVerdict :=
  let s := { s with missedControls := 0 }
  if poll.count.any (2 ≤ ·) then
    .inl { s with sawOthers := true, aloneSince := none, unknownSince := none }
  else if poll.alone then
    if s.sawOthers then aloneWithHistory timeouts s poll else emptyRoom timeouts s poll
  else if s.sawOthers then .inl { s with aloneSince := none, unknownSince := none }
  else unknownRoom timeouts s poll

def controlsGone : LoopState ⊕ BotVerdict :=
  if endedConfirmationPolls ≤ s.missedControls + 1 then .inr ⟨.ok, some .callEnded, true⟩
  else .inl { s with missedControls := s.missedControls + 1 }

def recording : LoopState ⊕ BotVerdict :=
  if poll.removed then .inr ⟨.removed, some .removed, true⟩
  else if poll.ended then .inr ⟨.ok, some .callEnded, true⟩
  else if ¬ poll.recorderAlive then .inr ⟨.botError, none, true⟩
  else if timeouts.maxRecordS ≤ poll.now - s.admittedAt then .inr ⟨.ok, some .giveUp, true⟩
  else if poll.controls then participants timeouts s poll
  else controlsGone s

def machine : PollingMachine LoopState AbstractPoll BotVerdict where
  step s poll :=
    if poll.stopRequested then .inr ⟨.ok, none, s.recordingStarted⟩
    else if s.recordingStarted then recording timeouts s poll
    else if poll.admitted then .inl (begun s poll)
    else waiting timeouts s poll

end Lifecycle

/-! ## What a poll shows -/

/-- The shared part of a poll shows the facts, and neither the recorder nor the leaving fails. The
announcement may fail. -/
structure Poll.Shows (poll : Poll) (facts : AbstractPoll) : Prop where
  stopRequested : poll.stopRequested = facts.stopRequested
  now : poll.now = facts.now
  removed : ∃ detail, poll.removed = .ok (facts.removed, detail) ∧ (facts.removed → detail ≠ [])
  ended : ∃ detail, poll.ended = .ok (facts.ended, detail) ∧ (facts.ended → detail ≠ [])
  admitted : ∃ detail, poll.admitted = .ok (facts.admitted, detail)
  count : ∃ detail, poll.participantCount = .ok (facts.count, detail)
  alone : ∃ detail, poll.botAlone = .ok (facts.alone, detail)
  recorderStart : ∃ pid, poll.recorderStart = .ok pid
  recorderRunning : poll.recorderRunning = facts.recorderAlive
  recorderStop : ∃ report, poll.recorderStop = .ok report
  leaveButton : ∃ found, poll.leaveButton = .ok found
  leaveClick : poll.leaveClick = .ok ()
  wait : poll.wait = .ok ()

structure MeetPoll.Shows (poll : MeetPoll) (facts : AbstractPoll) : Prop where
  shared : poll.toPoll.Shows facts
  blocked : poll.joinBlocked = .ok facts.blocked
  knocking : ∃ knocking, poll.knocking = .ok knocking
  controls : poll.leaveVisible = .ok facts.controls

/-- The computer audio may fail. -/
structure ZoomPoll.Shows (poll : ZoomPoll) (facts : AbstractPoll) : Prop where
  shared : poll.toPoll.Shows facts
  walls : ∀ wall ∈ Zoom.fatalWalls poll, ∃ shown, wall.1 = .ok shown
  blocked : facts.blocked ↔ ∃ wall ∈ Zoom.fatalWalls poll, ∃ detail, wall.1 = .ok (true, detail)
  inWaitingRoom : ∃ shown, poll.inWaitingRoom = .ok shown
  meetingNotStarted : ∃ shown, poll.meetingNotStarted = .ok shown
  controls : ∃ detail, poll.inCallControls = .ok (facts.controls, detail)

/-- The details that `Poll.Shows` asks for are there on every Meet page. -/
theorem Meet.observe_detail_ne_nil {page : Page} {isAlnum : Char → Bool} {rest : Poll}
    {detail : Text}
    (h : (Meet.observe page isAlnum rest).removed = .ok (true, detail) ∨
      (Meet.observe page isAlnum rest).ended = .ok (true, detail)) : detail ≠ [] := by
  rcases h with hremoved | hended
  · exact noticeState_ne_nil (by decide) hremoved
  · exact noticeState_ne_nil (by decide) hended

theorem Zoom.terminalState_ne_nil {page : Page} {selectorSet : SelectorSet}
    {dialogQuery noticeQuery : SelectorQuery}
    {dialogHeading noticeHeading absent ambiguous detail : Text} (hdialog : dialogHeading ≠ [])
    (hnotice : noticeHeading ≠ [])
    (h : terminalState page selectorSet dialogQuery noticeQuery dialogHeading noticeHeading absent
      ambiguous = .ok (true, detail)) : detail ≠ [] := by
  have hheaded : ∀ {heading : Text} {element : Element}, heading ≠ [] →
      (locatorDetail element >>= fun d => pure (true, concat [heading, d]) :
        Reading (Bool × Text)) = .ok (true, detail) → detail ≠ [] := by
    intro heading element hheading hdetail
    cases hlocator : locatorDetail element with
    | error e =>
        rw [hlocator] at hdetail
        cases hdetail
    | ok d =>
        rw [hlocator] at hdetail
        cases hdetail
        exact concat_ne_nil hheading [d]
  unfold terminalState at h
  cases hdialogRead : dialogQuery page with
  | error e =>
      rw [hdialogRead] at h
      cases h
  | ok dialog =>
      rw [hdialogRead] at h
      cases dialog with
      | some element => exact hheaded hdialog h
      | none =>
          cases hnoticeRead : noticeQuery page with
          | error e =>
              simp only [hnoticeRead] at h
              cases h
          | ok notice =>
              cases notice with
              | none =>
                  simp only [hnoticeRead] at h
                  cases h
              | some element =>
                  cases hcontrols : inCallControls page selectorSet with
                  | error e =>
                      simp only [hnoticeRead, hcontrols] at h
                      cases h
                  | ok controls =>
                      obtain ⟨visible, controlsDetail⟩ := controls
                      cases visible with
                      | true =>
                          simp only [hnoticeRead, hcontrols] at h
                          cases h
                      | false =>
                          simp only [hnoticeRead, hcontrols] at h
                          exact hheaded hnotice h

theorem Zoom.observe_detail_ne_nil {page : Page} {isAlnum : Char → Bool} {rest : ZoomPoll}
    {detail : Text}
    (h : (Zoom.observe page isAlnum rest).removed = .ok (true, detail) ∨
      (Zoom.observe page isAlnum rest).ended = .ok (true, detail)) : detail ≠ [] := by
  rcases h with hremoved | hended
  · exact Zoom.terminalState_ne_nil (by decide) (by decide) hremoved
  · exact Zoom.terminalState_ne_nil (by decide) (by decide) hended

/-- One abstract poll as it is met on either platform. -/
structure PairedPoll where
  facts : AbstractPoll
  meet : MeetPoll
  zoom : ZoomPoll
  meet_shows : meet.Shows facts
  zoom_shows : zoom.Shows facts

/-- Every abstract poll can be met. -/
def AbstractPoll.paired (facts : AbstractPoll) : PairedPoll :=
  let poll : Poll := { samplePoll facts.now with
    stopRequested := facts.stopRequested
    removed := .ok (facts.removed, "removed from call: You've been removed")
    ended := .ok (facts.ended, "call ended: The call has ended")
    admitted := .ok (facts.admitted, [])
    participantCount := .ok (facts.count, [])
    botAlone := .ok (facts.alone, [])
    recorderRunning := facts.recorderAlive }
  have hshared : poll.Shows facts :=
    { stopRequested := rfl, now := rfl, removed := ⟨_, rfl, fun _ => by decide⟩
      ended := ⟨_, rfl, fun _ => by decide⟩, admitted := ⟨_, rfl⟩, count := ⟨_, rfl⟩
      alone := ⟨_, rfl⟩, recorderStart := ⟨_, rfl⟩, recorderRunning := rfl
      recorderStop := ⟨_, rfl⟩, leaveButton := ⟨_, rfl⟩, leaveClick := rfl, wait := rfl }
  { facts := facts
    meet := { toPoll := poll
              joinBlocked := .ok facts.blocked
              knocking := .ok false
              leaveVisible := .ok facts.controls }
    zoom := { sampleRest facts.now with
              toPoll := poll
              signInRequired := .ok (facts.blocked, "sign-in required: Sign in to join")
              inCallControls := .ok (facts.controls, []) }
    meet_shows := { shared := hshared, blocked := rfl, knocking := ⟨_, rfl⟩, controls := rfl }
    zoom_shows :=
      { shared := hshared, walls := by simp [Zoom.fatalWalls, sampleRest]
        blocked := by simp [Zoom.fatalWalls, sampleRest]
        inWaitingRoom := ⟨_, rfl⟩, meetingNotStarted := ⟨_, rfl⟩, controls := ⟨_, rfl⟩ } }

/-! ## Turns that do not fail -/

/-- The turn returns, with the given state or verdict. -/
def Turn.Reports (turn : Turn) (next : LoopState ⊕ BotVerdict) : Prop :=
  turn.result.map (Sum.map id BotOutcome.verdict) = .ok next

namespace Turn.Reports

variable {next : LoopState ⊕ BotVerdict}

theorem of_ok {turn : Turn} {said : LoopState ⊕ BotOutcome} (h : turn.result = .ok said)
    (hnext : Sum.map id BotOutcome.verdict said = next) : turn.Reports next := by
  unfold Turn.Reports
  rw [h, ← hnext]
  rfl

theorem bind {α : Type} {x : Bot α} {a : α} {f : α → Turn} (hx : x.result = .ok a)
    (hf : (f a).Reports next) : Turn.Reports (x >>= f) next := by
  unfold Turn.Reports at hf ⊢
  rw [EventLog.bind_of_ok hx]
  exact hf

theorem read_bind {α : Type} {reading : Reading α} {a : α} {f : α → Turn} (hx : reading = .ok a)
    (hf : (f a).Reports next) : Turn.Reports (EventLog.read reading >>= f) next :=
  bind hx hf

theorem closing {exitCode : BotExit} {endReason : Option EndReason} {reason : Text}
    {recordingStarted : Bool} (hreason : reason ≠ []) (hfits : EndReason.Fits exitCode endReason) :
    Turn.Reports (do return .inr (← BotOutcome.make exitCode endReason reason recordingStarted))
      (.inr ⟨exitCode, endReason, recordingStarted⟩) := by
  unfold BotOutcome.make
  rw [dif_pos ⟨hreason, hfits⟩]
  exact of_ok rfl rfl

end Turn.Reports

theorem result_debugScreenshot (isPrintable : Char → Bool) (evidence : Evidence) (reason : Text) :
    (debugScreenshot isPrintable evidence reason).result = .ok () := by
  cases evidence <;> rfl

section Turns

variable {side : LoopSide} {cfg : LoopConfig} {s : LoopState} {poll : Poll} {facts : AbstractPoll}

theorem keepPolling_reports (h : poll.wait = .ok ()) : (keepPolling poll s).Reports (.inl s) :=
  .read_bind h (.of_ok rfl rfl)

theorem finishRecording_reports (h : poll.Shows facts) (hleave : (side.leave poll).result = .ok ())
    {toState reason : Text} {exitCode : BotExit} {endReason : Option EndReason}
    (hreason : reason ≠ []) (hfits : EndReason.Fits exitCode endReason) :
    (finishRecording side cfg s poll toState reason exitCode endReason).Reports
      (.inr ⟨exitCode, endReason, true⟩) := by
  obtain ⟨report, hreport⟩ := h.recorderStop
  have hstop : ((side.leave poll).ensure (stopRecording side poll)).result = .ok () :=
    EventLog.result_ensure_eq_ok.2 ⟨hleave, stopRecording_eq_ok hreport⟩
  exact .bind hstop (.bind (EventLog.result_emit _) (.closing hreason hfits))

theorem endOnNotice_reports (h : poll.Shows facts) {toState reason lastLine : Text}
    {exitCode : BotExit} {endReason : EndReason} (hreason : reason ≠ [])
    (hfits : EndReason.Fits exitCode (some endReason)) :
    (endOnNotice side cfg s poll toState reason lastLine exitCode endReason).Reports
      (.inr ⟨exitCode, some endReason, true⟩) := by
  obtain ⟨report, hreport⟩ := h.recorderStop
  exact .of_ok (endOnNotice_eq_ok hreport hreason hfits) rfl

theorem handleStop_reports (h : poll.Shows facts) (hleave : (side.leave poll).result = .ok ()) :
    (handleStop side cfg s poll).Reports (.inr ⟨.ok, none, s.recordingStarted⟩) := by
  unfold handleStop
  split_ifs with hs
  · rw [hs]
    exact finishRecording_reports h hleave (by decide) trivial
  · rw [Bool.not_eq_true] at hs
    rw [hs]
    exact .bind (EventLog.result_emit _) (.bind (EventLog.result_emit _)
      (.closing (by decide) trivial))

theorem recorderDied_reports (h : poll.Shows facts) (hleave : (side.leave poll).result = .ok ()) :
    (recorderDied side cfg s poll).Reports (.inr ⟨.botError, none, true⟩) := by
  apply Turn.Reports.bind (result_debugScreenshot _ _ _)
  apply Turn.Reports.bind (EventLog.result_emit _)
  exact finishRecording_reports h hleave (by decide) trivial

theorem maxDurationReached_reports (h : poll.Shows facts)
    (hleave : (side.leave poll).result = .ok ()) :
    (maxDurationReached side cfg s poll).Reports (.inr ⟨.ok, some .giveUp, true⟩) := by
  apply Turn.Reports.bind (EventLog.result_emit _)
  exact finishRecording_reports h hleave (concat_ne_nil (by decide) _) rfl

theorem aloneTurn_reports (h : poll.Shows facts) (hleave : (side.leave poll).result = .ok ())
    (detail : Text) :
    (aloneTurn side cfg s poll detail).Reports (Lifecycle.aloneWithHistory cfg.timeouts s facts) := by
  unfold aloneTurn Lifecycle.aloneWithHistory
  rw [← h.now]
  cases s.aloneSince with
  | none => exact .bind (EventLog.result_emit _) (keepPolling_reports h.wait)
  | some since =>
      dsimp only
      split_ifs with hgrace
      · exact finishRecording_reports h hleave (concat_ne_nil (by decide) _) rfl
      · exact keepPolling_reports h.wait

theorem emptyRoomTurn_reports (h : poll.Shows facts) (hleave : (side.leave poll).result = .ok ()) :
    (emptyRoomTurn side cfg s poll).Reports (Lifecycle.emptyRoom cfg.timeouts s facts) := by
  unfold emptyRoomTurn Lifecycle.emptyRoom
  rw [← h.now]
  split_ifs with hempty
  · apply Turn.Reports.bind (EventLog.result_emit _)
    exact finishRecording_reports h hleave (concat_ne_nil (by decide) _) trivial
  · exact keepPolling_reports h.wait

theorem unknownRoomTurn_reports (h : poll.Shows facts) (hleave : (side.leave poll).result = .ok ())
    (detail : Text) :
    (unknownRoomTurn side cfg s poll detail).Reports
      (Lifecycle.unknownRoom cfg.timeouts s facts) := by
  unfold unknownRoomTurn Lifecycle.unknownRoom Lifecycle.nextEvidence
  rw [← h.now]
  dsimp only
  split_ifs with hempty hevidence
  · apply Turn.Reports.bind (result_debugScreenshot _ _ _)
    apply Turn.Reports.bind (EventLog.result_emit _)
    exact finishRecording_reports h hleave (concat_ne_nil (by decide) _) trivial
  · apply Turn.Reports.bind (result_debugScreenshot _ _ _)
    apply Turn.Reports.bind (EventLog.result_emit _)
    exact keepPolling_reports h.wait
  · exact keepPolling_reports h.wait

theorem participantTurn_reports (h : poll.Shows facts)
    (hleave : (side.leave poll).result = .ok ()) :
    (participantTurn side cfg s poll).Reports (Lifecycle.participants cfg.timeouts s facts) := by
  obtain ⟨countDetail, hcount⟩ := h.count
  obtain ⟨aloneDetail, halone⟩ := h.alone
  apply Turn.Reports.read_bind hcount
  apply Turn.Reports.read_bind halone
  unfold Lifecycle.participants
  dsimp only
  split_ifs
  · exact keepPolling_reports h.wait
  · exact aloneTurn_reports h hleave aloneDetail
  · exact emptyRoomTurn_reports h hleave
  · exact keepPolling_reports h.wait
  · exact unknownRoomTurn_reports h hleave countDetail

theorem missedControlsTurn_reports (h : poll.Shows facts) :
    (missedControlsTurn side cfg s poll).Reports (Lifecycle.controlsGone s) := by
  unfold missedControlsTurn Lifecycle.controlsGone
  dsimp only
  split_ifs with hmissed
  · apply Turn.Reports.bind (result_debugScreenshot _ _ _)
    exact endOnNotice_reports h (concat_ne_nil (by decide) _) rfl
  · exact keepPolling_reports h.wait

theorem recordingChecks_reports (h : poll.Shows facts)
    (hleave : (side.leave poll).result = .ok ()) {removed ended : Bool × Text}
    (hremoved : removed.1 = facts.removed) (hremovedDetail : facts.removed → removed.2 ≠ [])
    (hended : ended.1 = facts.ended) (hendedDetail : facts.ended → ended.2 ≠ []) {absent : Turn}
    (habsent : facts.controls = false → absent.Reports (Lifecycle.controlsGone s)) :
    (recordingChecks side cfg s poll removed ended facts.controls absent).Reports
      (Lifecycle.recording cfg.timeouts s facts) := by
  unfold recordingChecks Lifecycle.recording
  rw [hremoved, hended, h.recorderRunning, ← h.now]
  split_ifs with h1 h2 h3 h4 h5
  · exact endOnNotice_reports h (hremovedDetail h1) rfl
  · exact endOnNotice_reports h (hendedDetail h2) rfl
  · exact maxDurationReached_reports h hleave
  · exact participantTurn_reports h hleave
  · exact habsent ((Bool.not_eq_true _).mp h5)
  · exact recorderDied_reports h hleave

theorem recordingBegan_begun (h : poll.Shows facts) (pid : ℕ) :
    (recordingBegan side s poll pid).result = .ok (Lifecycle.begun s facts) := by
  rw [result_recordingBegan, h.now]
  rfl

end Turns

/-! ## The Meet loop -/

namespace Meet

variable {cfg : LoopConfig} {s : LoopState} {poll : MeetPoll} {facts : AbstractPoll}

theorem result_leave (h : poll.toPoll.Shows facts) : (side.leave poll.toPoll).result = .ok () := by
  apply (result_leaveMeet_iff poll.toPoll).2
  obtain ⟨found, hfound⟩ := h.leaveButton
  cases found with
  | false => exact .inl hfound
  | true => exact .inr ⟨hfound, h.leaveClick⟩

theorem admissionTurn_reports (h : poll.Shows facts) (detail : Text) :
    (admissionTurn cfg s poll detail).Reports (.inl (Lifecycle.begun s facts)) := by
  obtain ⟨pid, hpid⟩ := h.shared.recorderStart
  apply Turn.Reports.bind (EventLog.result_emit _)
  rw [hpid]
  exact .bind (recordingBegan_begun h.shared pid) (.of_ok rfl rfl)

theorem result_waitingEvidence (h : poll.Shows facts) :
    (waitingEvidence cfg s poll).result =
      .ok (Lifecycle.nextEvidence s.nextAdmissionEvidence poll.now) := by
  obtain ⟨knocking, hknocking⟩ := h.knocking
  unfold waitingEvidence Lifecycle.nextEvidence
  rw [hknocking]
  split_ifs
  · rw [EventLog.bind_of_ok (result_debugScreenshot _ _ _)]
    cases knocking <;> rfl
  · rfl

theorem waitingTurn_reports (h : poll.Shows facts) :
    (waitingTurn cfg s poll).Reports (Lifecycle.waiting cfg.timeouts s facts) := by
  apply Turn.Reports.read_bind h.blocked
  unfold Lifecycle.waiting
  rw [← h.shared.now]
  split_ifs with hblocked hwait
  · apply Turn.Reports.bind (result_debugScreenshot _ _ _)
    apply Turn.Reports.bind (EventLog.result_emit _)
    exact .bind (EventLog.result_emit _) (.closing (by decide) trivial)
  · apply Turn.Reports.bind (result_debugScreenshot _ _ _)
    apply Turn.Reports.bind (EventLog.result_emit _)
    exact .bind (EventLog.result_emit _) (.closing (concat_ne_nil (by decide) _) trivial)
  · exact .bind (result_waitingEvidence h) (keepPolling_reports h.shared.wait)

theorem unadmittedTurn_reports (h : poll.Shows facts) (hcontrols : facts.controls = false) :
    (unadmittedTurn cfg s poll).Reports (Lifecycle.controlsGone s) := by
  apply Turn.Reports.read_bind h.controls
  rw [hcontrols]
  exact missedControlsTurn_reports h.shared

theorem recordingTurn_reports (h : poll.Shows facts) (hquiet : facts.admitted = facts.controls)
    {removed ended admitted : Bool × Text} (hremoved : removed.1 = facts.removed)
    (hremovedDetail : facts.removed → removed.2 ≠ []) (hended : ended.1 = facts.ended)
    (hendedDetail : facts.ended → ended.2 ≠ []) (hadmitted : admitted.1 = facts.admitted) :
    (recordingTurn cfg s poll removed ended admitted).Reports
      (Lifecycle.recording cfg.timeouts s facts) := by
  rw [recordingTurn_eq, hadmitted, hquiet]
  exact recordingChecks_reports h.shared (result_leave h.shared) hremoved hremovedDetail hended
    hendedDetail (unadmittedTurn_reports h)

/-- While recording, no knocking notice contradicts the leave control. -/
theorem step_reports (h : poll.Shows facts)
    (hquiet : s.recordingStarted → facts.admitted = facts.controls) :
    (step cfg s poll).Reports ((Lifecycle.machine cfg.timeouts).step s facts) := by
  obtain ⟨removedDetail, hremoved, hremovedDetail⟩ := h.shared.removed
  obtain ⟨endedDetail, hended, hendedDetail⟩ := h.shared.ended
  obtain ⟨admittedDetail, hadmitted⟩ := h.shared.admitted
  rw [step_eq, phasedTurn_of_reads hremoved hended hadmitted, h.shared.stopRequested]
  unfold Lifecycle.machine
  dsimp only
  split_ifs with hstop hs hadmit
  · exact handleStop_reports h.shared (result_leave h.shared)
  · exact recordingTurn_reports h (hquiet hs) rfl hremovedDetail rfl hendedDetail rfl
  · exact admissionTurn_reports h admittedDetail
  · exact waitingTurn_reports h

end Meet

/-! ## The Zoom loop -/

namespace Zoom

variable {cfg : LoopConfig} {s : LoopState} {poll : ZoomPoll} {facts : AbstractPoll}

theorem result_leave (h : poll.toPoll.Shows facts) : (side.leave poll.toPoll).result = .ok () := by
  exact (result_leaveZoom_iff poll.toPoll).2 h.leaveButton

theorem exists_result_detectFatalWall (cfg : LoopConfig) (poll : ZoomPoll)
    {walls : List (Reading (Bool × Text) × Text)} (hreason : ∀ wall ∈ walls, wall.2 ≠ [])
    (hread : ∀ wall ∈ walls, ∃ shown, wall.1 = .ok shown) :
    ∃ found, (detectFatalWall cfg poll walls).result = .ok found ∧
      (found.isSome ↔ ∃ wall ∈ walls, ∃ detail, wall.1 = .ok (true, detail)) ∧
      ∀ outcome ∈ found, outcome.verdict = ⟨.botError, none, false⟩ := by
  induction walls with
  | nil => exact ⟨none, rfl, by simp, by simp⟩
  | cons wall walls ih =>
      obtain ⟨reading, reason⟩ := wall
      obtain ⟨hhead, htail⟩ := List.forall_mem_cons.1 hreason
      obtain ⟨⟨⟨detected, detail⟩, hreading⟩, hreadings⟩ := List.forall_mem_cons.1 hread
      obtain rfl : reading = .ok (detected, detail) := hreading
      rw [detectFatalWall, EventLog.read_ok_bind]
      dsimp only
      cases detected with
      | true =>
          refine ⟨some ⟨.botError, none, reason, false, hhead, trivial⟩, ?_, by simp, ?_⟩
          · rw [if_pos rfl, EventLog.bind_of_ok (result_debugScreenshot _ _ _)]
            unfold BotOutcome.make
            rw [dif_pos ⟨hhead, trivial⟩]
            rfl
          · rintro outcome ⟨⟩
            rfl
      | false =>
          obtain ⟨found, hfound, hwall, houtcome⟩ := ih htail hreadings
          refine ⟨found, ?_, ?_, houtcome⟩
          · rw [if_neg Bool.false_ne_true]
            exact hfound
          · simpa using hwall

theorem fatalWalls_ne_nil (poll : ZoomPoll) : ∀ wall ∈ fatalWalls poll, wall.2 ≠ [] := by
  unfold fatalWalls
  simp only [List.forall_mem_cons]
  exact ⟨concat_ne_nil (by decide) _, by decide, by decide, by decide⟩

theorem neverAdmittedReason_ne_nil (notStarted : Bool) :
    neverAdmittedReason cfg notStarted ≠ [] := by
  cases notStarted <;> exact concat_ne_nil (by decide) _

theorem admissionTurn_reports (h : poll.Shows facts) (detail : Text) :
    (admissionTurn cfg s poll detail).Reports (.inl (Lifecycle.begun s facts)) := by
  obtain ⟨pid, hpid⟩ := h.shared.recorderStart
  apply Turn.Reports.bind (EventLog.result_emit _)
  rw [hpid]
  apply Turn.Reports.bind (recordingBegan_begun h.shared pid)
  exact .bind (result_audio cfg poll) (.of_ok rfl rfl)

theorem result_waitingEvidence (h : poll.Shows facts) :
    (waitingEvidence cfg s poll).result =
      .ok (Lifecycle.nextEvidence s.nextAdmissionEvidence poll.now) := by
  obtain ⟨waiting, hwaiting⟩ := h.inWaitingRoom
  obtain ⟨notStarted, hnotStarted⟩ := h.meetingNotStarted
  unfold waitingEvidence Lifecycle.nextEvidence
  rw [hwaiting, hnotStarted]
  simp only [EventLog.read_ok_bind]
  split_ifs
  all_goals first
    | rfl
    | rw [EventLog.bind_of_ok (result_debugScreenshot _ _ _)]; rfl

theorem waitingTurn_reports (h : poll.Shows facts) :
    (waitingTurn cfg s poll).Reports (Lifecycle.waiting cfg.timeouts s facts) := by
  obtain ⟨found, hfound, hwall, houtcome⟩ :=
    exists_result_detectFatalWall cfg poll (fatalWalls_ne_nil poll) h.walls
  rw [← h.blocked] at hwall
  apply Turn.Reports.bind hfound
  unfold Lifecycle.waiting
  rw [← h.shared.now]
  cases found with
  | some outcome =>
      rw [if_pos (hwall.1 rfl)]
      exact .bind (EventLog.result_emit _) (.of_ok rfl (congrArg Sum.inr (houtcome outcome rfl)))
  | none =>
      rw [if_neg fun hblocked => Bool.false_ne_true (hwall.2 hblocked)]
      dsimp only
      split_ifs with hwait
      · obtain ⟨notStarted, hnotStarted⟩ := h.meetingNotStarted
        apply Turn.Reports.bind (result_debugScreenshot _ _ _)
        apply Turn.Reports.read_bind hnotStarted
        apply Turn.Reports.bind (EventLog.result_emit _)
        exact .bind (EventLog.result_emit _) (.closing (neverAdmittedReason_ne_nil _) trivial)
      · exact .bind (result_waitingEvidence h) (keepPolling_reports h.shared.wait)

theorem recordingTurn_reports (h : poll.Shows facts) {removed ended : Bool × Text}
    (hremoved : removed.1 = facts.removed) (hremovedDetail : facts.removed → removed.2 ≠ [])
    (hended : ended.1 = facts.ended) (hendedDetail : facts.ended → ended.2 ≠ []) :
    (recordingTurn cfg s poll removed ended).Reports
      (Lifecycle.recording cfg.timeouts s facts) := by
  obtain ⟨detail, hcontrols⟩ := h.controls
  rw [recordingTurn_eq]
  apply Turn.Reports.read_bind hcontrols
  exact recordingChecks_reports h.shared (result_leave h.shared) hremoved hremovedDetail hended
    hendedDetail fun _ => missedControlsTurn_reports h.shared

theorem step_reports (h : poll.Shows facts) :
    (step cfg s poll).Reports ((Lifecycle.machine cfg.timeouts).step s facts) := by
  obtain ⟨removedDetail, hremoved, hremovedDetail⟩ := h.shared.removed
  obtain ⟨endedDetail, hended, hendedDetail⟩ := h.shared.ended
  obtain ⟨admittedDetail, hadmitted⟩ := h.shared.admitted
  rw [step_eq, phasedTurn_of_reads hremoved hended hadmitted, h.shared.stopRequested]
  unfold Lifecycle.machine
  dsimp only
  split_ifs with hstop hs hadmit
  · exact handleStop_reports h.shared (result_leave h.shared)
  · exact recordingTurn_reports h rfl hremovedDetail rfl hendedDetail
  · exact admissionTurn_reports h admittedDetail
  · exact waitingTurn_reports h

end Zoom

/-! ## The same machine -/

/-- While recording, no notice of a waiting room contradicts the in-call controls. -/
def Lifecycle.Quiet (s : LoopState) (facts : AbstractPoll) : Prop :=
  s.recordingStarted → facts.admitted = facts.controls

theorem Meet.refines (cfg : LoopConfig) :
    ((Meet.loop cfg).comap PairedPoll.meet).Refines (Lifecycle.machine cfg.timeouts)
      PairedPoll.facts BotOutcome.verdict Lifecycle.Quiet :=
  fun _ poll hquiet => Meet.step_reports poll.meet_shows hquiet

theorem Zoom.refines (cfg : LoopConfig) :
    ((Zoom.loop cfg).comap PairedPoll.zoom).Refines (Lifecycle.machine cfg.timeouts)
      PairedPoll.facts BotOutcome.verdict Lifecycle.Quiet :=
  fun _ poll _ => Zoom.step_reports poll.zoom_shows

section Runs

variable (cfg : LoopConfig) (start : ℚ) (polls : List PairedPoll)

/-- While the Meet loop records, no waiting or knocking notice is visible: the admission is as evident as
the in-call controls. -/
def NoNoticeWhileRecording : Prop :=
  ∀ before poll after t, polls = before ++ poll :: after →
    (Meet.runCallLoop cfg start (before.map PairedPoll.meet)).2 = .polling t →
    t.recordingStarted → poll.facts.admitted = poll.facts.controls

variable {cfg start polls}

theorem NoNoticeWhileRecording.take (h : NoNoticeWhileRecording cfg start polls) (n : ℕ) :
    NoNoticeWhileRecording cfg start (polls.take n) := by
  intro before poll after t hpolls
  apply h before poll (after ++ polls.drop n) t
  calc polls = polls.take n ++ polls.drop n := (List.take_append_drop n polls).symm
    _ = before ++ poll :: (after ++ polls.drop n) := by simp [hpolls]

theorem NoNoticeWhileRecording.along (h : NoNoticeWhileRecording cfg start polls) :
    (Lifecycle.machine cfg.timeouts).Along Lifecycle.Quiet (.initial start)
      (polls.map PairedPoll.facts) := by
  apply (Meet.refines cfg).along
  intro before poll after t hpolls hrun
  rw [PollingLoop.run_comap] at hrun
  exact h before poll after t hpolls hrun

/-- After any number of polls both loops still poll in one state, or both have returned with one
verdict. -/
theorem loops_agree (h : NoNoticeWhileRecording cfg start polls) (n : ℕ) :
    ∃ said,
      (Meet.runCallLoop cfg start ((polls.take n).map PairedPoll.meet)).2.report BotOutcome.verdict =
        some said ∧
      (Zoom.runCallLoop cfg start ((polls.take n).map PairedPoll.zoom)).2.report BotOutcome.verdict =
        some said := by
  have hquiet := (h.take n).along
  refine ⟨(Lifecycle.machine cfg.timeouts).run (.initial start)
    ((polls.take n).map PairedPoll.facts), ?_, ?_⟩
  · have hmeet := (Meet.refines cfg).report_run hquiet
    rw [PollingLoop.run_comap] at hmeet
    exact hmeet
  · have hzoom := (Zoom.refines cfg).report_run hquiet
    rw [PollingLoop.run_comap] at hzoom
    exact hzoom

end Runs

/-- A call with one other participant, which the host ends. -/
def hostedCall : List PairedPoll :=
  [⟨2, false, false, false, false, false, false, none, false, true⟩,
    ⟨4, false, true, false, false, false, true, none, false, true⟩,
    ⟨6, false, true, false, false, false, true, some 2, false, true⟩,
    ⟨8, false, true, false, false, true, true, some 2, false, true⟩].map AbstractPoll.paired

theorem loops_agree_hostedCall :
    ∃ said,
      (Meet.runCallLoop sampleConfig 0 ((hostedCall.take 4).map PairedPoll.meet)).2.report
        BotOutcome.verdict = some said ∧
      (Zoom.runCallLoop sampleConfig 0 ((hostedCall.take 4).map PairedPoll.zoom)).2.report
        BotOutcome.verdict = some said := by
  apply loops_agree
  intro before poll after t hpolls _ _
  have hpoll : poll ∈ hostedCall := by
    rw [hpolls]
    exact List.mem_append_right _ List.mem_cons_self
  obtain ⟨facts, hfacts, rfl⟩ := List.mem_map.1 hpoll
  change facts.admitted = facts.controls
  fin_cases hfacts <;> rfl

end Notetaker

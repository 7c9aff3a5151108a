import Notetaker.RecorderUse

/-!
# The recorder over a whole run

From the order that the monitor accepts: over one run of `_join_and_record` the recorder is started at
most once, the announcement follows a start that has succeeded, and behind the run the recorder is not
running. A started recorder has been stopped, unless `parec` has exited by itself and the loop raised
before it found out.
-/

open PythonText PythonFloat

namespace Notetaker

/-! ## The way to the join click -/

theorem plain_joinError (reason : Text) : Plain (joinError reason) :=
  .bind (plain_make _ _ _ _) fun _ => .pure _

namespace Meet

variable (isPrintable : Char → Bool) (join : MeetJoin)

theorem plain_muteMedia (toggle : MediaToggle) (label : Text) (required : Bool) :
    Plain (muteMedia toggle label required) := by
  apply Plain.bind (.read _)
  intro found
  apply Plain.ite
  · exact fun _ => .ite (fun _ => .bind (.log _) fun _ => .pure _)
      fun _ => .bind (.log _) fun _ => .pure _
  · intro _
    apply Plain.bind (.read _)
    intro aria
    exact .ite (fun _ => .bind (.read _) fun _ => .bind (.log _) fun _ => .pure _)
      fun _ => .bind (.log _) fun _ => .pure _

theorem plain_enterName : Plain (enterName join) := by
  apply Plain.ite
  · exact fun _ => .log _
  · exact fun _ => .bind (.read _) fun _ =>
      .ite (fun _ => .bind (.read _) fun _ => .log _) fun _ => .log _

theorem plain_clickJoin : Plain (clickJoin isPrintable join) := by
  apply Plain.bind (.read _)
  intro found
  apply Plain.ite
  · intro _
    apply Plain.bind (.read _)
    intro label
    refine .bind (.read _) fun _ => .bind (.read _) fun _ => .bind (.log _) fun _ => ?_
    exact .ite (fun _ => .bind (.log _) fun _ => .pure _) fun _ => .pure _
  · exact fun _ => .bind (plain_debugScreenshot _ _ _) fun _ => .bind (.log _) fun _ =>
      plain_joinError _

theorem plain_greenRoom : Plain (greenRoom isPrintable join) := by
  refine .bind (.read _) fun _ => .bind (plain_enterName join) fun _ => .bind (.read _) fun _ => ?_
  apply Plain.bind (plain_muteMedia _ _ _)
  intro muted
  apply Plain.ite
  · exact fun _ => .bind (.read _) fun _ => .bind (plain_muteMedia _ _ _) fun _ =>
      plain_clickJoin isPrintable join
  · exact fun _ => .bind (plain_debugScreenshot _ _ _) fun _ => plain_joinError _

theorem plain_joinCall : Plain (joinCall isPrintable join) := by
  refine .bind (.log _) fun _ => .bind (.read _) fun _ => .bind (.read _) fun blocked => ?_
  apply Plain.ite
  · exact fun _ => .bind (plain_debugScreenshot _ _ _) fun _ => .bind (.log _) fun _ =>
      plain_joinError _
  · exact fun _ => plain_greenRoom isPrintable join

end Meet

namespace Zoom

variable (cfg : LoopConfig) (join : ZoomJoin)

theorem plain_attempt (step : Reading Unit) {done : Bot Unit} (hdone : Plain done) (failed : Text) :
    Plain (attempt step done failed) := by
  unfold attempt
  cases step with
  | ok u => exact hdone
  | error e => exact .log _

theorem plain_orElse {part rest : Bot (Option BotOutcome)} (hpart : Plain part) (hrest : Plain rest) :
    Plain (orElse part rest) := by
  apply Plain.bind hpart
  intro found
  cases found with
  | some outcome => exact .pure _
  | none => exact hrest

theorem plain_openBrowserLink : Plain (openBrowserLink join) := by
  refine .bind (.read _) fun _ => .bind (.read _) fun _ => .bind (.log _) fun _ =>
    .bind (.read _) fun _ => ?_
  apply Plain.bind
  · exact .ite (fun _ => .pure _) fun _ => .read _
  · intro started
    exact .ite (fun _ => .bind (.log _) fun _ =>
      .bind (plain_attempt _ (.pure _) _) fun _ => .pure _) fun _ => .pure _

theorem plain_browserJoin : Plain (browserJoin cfg join) := by
  apply Plain.bind (.read _)
  intro found
  apply Plain.ite
  · exact fun _ => plain_openBrowserLink join
  · intro _
    apply Plain.bind (plain_detectFatalWall _ _ _)
    intro wall
    cases wall with
    | some wall => exact .pure _
    | none => exact .bind (plain_debugScreenshot _ _ _) fun _ => .bind (.log _) fun _ =>
        plain_joinError _

theorem plain_openWebClient : Plain (openWebClient cfg join) := by
  apply Plain.ite
  · exact fun _ => .bind (.log _) fun _ => .pure _
  · intro _
    apply Plain.bind (.read _)
    intro cookie
    have hjoin := plain_browserJoin cfg join
    exact .ite (fun _ => .bind (plain_attempt _ (.log _) _) fun _ => hjoin) fun _ => hjoin

theorem plain_waitForPrejoin (rounds : List PrejoinRound) (last : PrejoinRound) :
    Plain (waitForPrejoin rounds last) := by
  induction rounds with
  | nil => exact .bind (.read _) fun _ => .ite (fun _ => .pure _) fun _ => .read _
  | cons round rounds ih =>
      apply Plain.bind (.read _)
      intro name
      apply Plain.ite
      · exact fun _ => .pure _
      · intro _
        apply Plain.bind (.read _)
        intro button
        exact .ite (fun _ => .pure _) fun _ => .bind (.read _) fun _ => ih

theorem plain_enterName : Plain (enterName cfg join) := by
  apply Plain.bind (.read _)
  intro found
  exact .ite (fun _ => .bind (.read _) fun _ => .log _)
    fun _ => .bind (plain_debugScreenshot _ _ _) fun _ => .log _

theorem plain_runPrejoin : Plain (runPrejoin cfg join) := by
  refine .bind (.read _) fun _ => .bind (plain_enterName cfg join) fun _ =>
    .bind (.read _) fun _ => ?_
  apply Plain.bind (plain_muteMedia _ _ _ _)
  intro muted
  apply Plain.ite
  · exact fun _ => .bind (.read _) fun _ => .bind (plain_muteMedia _ _ _ _) fun _ => .pure _
  · exact fun _ => .bind (plain_debugScreenshot _ _ _) fun _ => plain_joinError _

theorem plain_confirmJoin : Plain (confirmJoin join) := by
  apply Plain.bind (.read _)
  intro _
  apply Plain.bind
  · exact .bind (.read _) fun _ => .ite (fun _ => .pure _) fun _ => .read _
  · intro still
    have hlast : Plain (do
        info joinLogger "join clicked (direct)"
        return none : Bot (Option BotOutcome)) := .bind (.log _) fun _ => .pure _
    exact .ite (fun _ => .bind (.log _) fun _ => .bind (plain_attempt _ (.pure _) _) fun _ =>
      .bind (.read _) fun _ => hlast) fun _ => hlast

theorem plain_clickJoin : Plain (clickJoin cfg join) := by
  apply Plain.bind (.read _)
  intro found
  apply Plain.ite
  · intro _
    cases join.joinClick with
    | ok u => exact plain_confirmJoin join
    | error e => exact .bind (plain_debugScreenshot _ _ _) fun _ => .bind (.log _) fun _ =>
        plain_joinError _
  · exact fun _ => .bind (plain_debugScreenshot _ _ _) fun _ => .bind (.log _) fun _ =>
      plain_joinError _

theorem plain_joinPrejoin : Plain (joinPrejoin cfg join) := by
  apply Plain.bind (plain_waitForPrejoin _ _)
  intro ready
  apply Plain.ite
  · exact fun _ => plain_orElse (plain_runPrejoin cfg join) (plain_clickJoin cfg join)
  · exact fun _ => .bind (plain_debugScreenshot _ _ _) fun _ => .bind (.log _) fun _ =>
      plain_joinError _

theorem plain_joinCall : Plain (joinCall cfg join) := by
  refine .bind (.log _) fun _ => .bind (.read _) fun _ => ?_
  apply plain_orElse (plain_detectFatalWall _ _ _)
  apply plain_orElse (plain_openWebClient cfg join)
  exact plain_orElse (plain_detectFatalWall _ _ _) (plain_joinPrejoin cfg join)

end Zoom

/-! ## What the monitor's order means -/

def BotEvent.isStart : BotEvent → Bool
  | .recorderStart _ => true
  | _ => false

def BotEvent.isAnnounce : BotEvent → Bool
  | .announce => true
  | _ => false

section Order

variable {phase next : RecorderPhase} {events : List BotEvent}

theorem countP_isStart_le (h : recorderUse.run phase events = some next) :
    events.countP BotEvent.isStart ≤ if phase = .idle then 1 else 0 := by
  refine recorderUse.countP_le_of_run (fun φ => if φ = .idle then 1 else 0) ?_ h
  intro φ event ψ hstep
  cases RecorderStep.of_step hstep with
  | stopped announced => exact Nat.zero_le _
  | _ => exact le_rfl

theorem countP_isAnnounce_le (h : recorderUse.run phase events = some next) :
    events.countP BotEvent.isAnnounce ≤
      if phase = .idle ∨ phase = .recording false then 1 else 0 := by
  refine recorderUse.countP_le_of_run
    (fun φ => if φ = .idle ∨ φ = .recording false then 1 else 0) ?_ h
  intro φ event ψ hstep
  cases RecorderStep.of_step hstep with
  | failed => exact Nat.zero_le _
  | stopped announced => exact Nat.zero_le _
  | _ => exact le_rfl

theorem start_mem (h : recorderUse.run phase events = some next)
    (hphase : ¬ phase.isRecording) (hnext : next.isRecording) : .recorderStart true ∈ events := by
  obtain ⟨event, hmem, φ, ψ, hstep, hφ, hψ⟩ :=
    recorderUse.exists_event_of_run (P := fun φ => φ.isRecording) h hphase hnext
  cases RecorderStep.of_step hstep with
  | started => exact hmem
  | announced => exact absurd rfl hφ
  | failed => cases hψ
  | stopped announced => cases hψ
  | _ => exact absurd hψ hφ

theorem stop_mem (h : recorderUse.run phase events = some next)
    (hphase : phase.isRecording) (hnext : ¬ next.isRecording) : .recorderStop ∈ events := by
  obtain ⟨event, hmem, φ, ψ, hstep, hφ, hψ⟩ :=
    recorderUse.exists_event_of_run (P := fun φ => ¬ φ.isRecording) h (not_not.2 hphase) hnext
  cases RecorderStep.of_step hstep with
  | stopped announced => exact hmem
  | started => exact absurd rfl hψ
  | announced => exact absurd rfl hψ
  | failed => exact absurd Bool.false_ne_true hφ
  | _ => exact absurd hψ hφ

theorem recorderProc_of_run (h : recorderUse.run .idle events = some next) :
    recorderProc events = next.isRecording := by
  have hfold : ∀ phase, recorderUse.run phase events = some next →
      events.foldl procAfter phase.isRecording = next.isRecording := by
    clear h
    induction events with
    | nil =>
        intro phase h
        obtain rfl : phase = next := by simpa using h
        rfl
    | cons event events ih =>
        intro phase h
        obtain ⟨ψ, hstep, hrest⟩ := recorderUse.run_cons_eq_some.1 h
        have hproc : procAfter phase.isRecording event = ψ.isRecording := by
          cases RecorderStep.of_step hstep <;> rfl
        rw [List.foldl_cons, hproc]
        exact ih ψ hrest
  exact hfold .idle h

end Order

/-! ## Runs -/

section Runs

variable {P : Type} {loop : PollingLoop LoopState P BotEvent PageError BotOutcome}

theorem runLoop_uses (hloop : ∀ s p, TurnUses s.recorderPhase (loop.step s p)) (logger callId : Text)
    (start : ℚ) (polls : List P) :
    ∃ phase, recorderUse.run .idle (runLoop loop logger callId start polls).1 = some phase ∧
      ∀ outcome, (runLoop loop logger callId start polls).2 = .returned outcome →
        phase.isRecording = false := by
  have hstep : ∀ s p φ, φ = LoopState.recorderPhase s → EventLog.Monitored recorderUse φ
      (loop.step s p) (fun next ψ => Sum.elim (fun t => ψ = LoopState.recorderPhase t)
        (fun _ => ψ.isRecording = false) next) fun _ _ => True := by
    rintro s p φ rfl
    exact hloop s p
  obtain ⟨phase, hrun, -, hreturned, -⟩ :=
    loop.run_monitored (Q := fun _ (ψ : RecorderPhase) => ψ.isRecording = false) hstep
      (s := .initial start) (φ := RecorderPhase.idle) rfl polls
  refine ⟨phase, ?_, hreturned⟩
  change recorderUse.run .idle (_ ++ _) = some phase
  exact recorderUse.run_append_eq_some.2 ⟨.idle, rfl, hrun⟩

theorem stopOnError_run (logger : Text) {alive : Bool} (stop : Reading StopReport)
    {events : List BotEvent} {phase : RecorderPhase}
    (h : recorderUse.run .idle events = some phase) :
    ∃ next, recorderUse.run .idle
        (events ++ (stopOnError logger (isRunning events alive) stop).events) = some next ∧
      (next.isRecording → alive = false) := by
  unfold isRunning
  rw [recorderProc_of_run h]
  cases phase with
  | recording announced =>
      cases alive with
      | false => exact ⟨_, recorderUse.run_append_eq_some.2 ⟨_, h, rfl⟩, fun _ => rfl⟩
      | true =>
          have hstop : EventLog.Monitored recorderUse (.recording announced)
              (stopOnError logger true stop) (fun _ next => ¬ next.isRecording)
              fun _ next => ¬ next.isRecording := by
            apply EventLog.Monitored.rescue
            apply EventLog.Monitored.bind
            apply recorderStop_monitored
            · exact Plain.monitored (.log _) (fun _ _ => Bool.false_ne_true) fun _ _ =>
                Plain.monitored (.log _) (fun _ _ => Bool.false_ne_true) fun _ _ =>
                  Bool.false_ne_true
            · exact fun _ => Plain.monitored (.log _) (fun _ _ => Bool.false_ne_true) fun _ _ =>
                Bool.false_ne_true
          obtain ⟨next, hnext, hresult⟩ := hstop
          refine ⟨next, recorderUse.run_append_eq_some.2 ⟨_, h, hnext⟩, fun hrecording => ?_⟩
          cases hok : (stopOnError logger true stop).result with
          | ok u => exact absurd hrecording (hresult.returns u hok)
          | error e => exact absurd hrecording (hresult.raises e hok)
  | _ => exact ⟨_, recorderUse.run_append_eq_some.2 ⟨_, h, rfl⟩, fun hrecording => by cases hrecording⟩

/-- Once a run is over, the recorder records at most where the handler has found `parec` gone. -/
theorem recordCall_uses {logger : Text} {join : Bot (Option BotOutcome)} {callLoop : JoinRun}
    {alive : Bool} {stop : Reading StopReport} (hjoin : Plain join) {phase : RecorderPhase}
    (hloop : recorderUse.run .idle callLoop.1 = some phase)
    (hreturned : ∀ outcome, callLoop.2 = .returned outcome → phase.isRecording = false) :
    ∃ next, recorderUse.run .idle (recordCall logger join callLoop alive stop).1 = some next ∧
      ((∀ t, (recordCall logger join callLoop alive stop).2 ≠ .polling t) → next.isRecording →
        (∃ e, (recordCall logger join callLoop alive stop).2 = .raised e) ∧ alive = false) := by
  have hidle : recorderUse.run .idle join.events = some .idle :=
    recorderUse.run_eq_self fun event hevent => step_of_plain (hjoin event hevent) .idle
  have hevents : recorderUse.run .idle (join.events ++ callLoop.1) = some phase :=
    recorderUse.run_append_eq_some.2 ⟨.idle, hidle, hloop⟩
  unfold recordCall
  cases join.result with
  | error e => exact ⟨.idle, hidle, fun _ hrecording => by cases hrecording⟩
  | ok found =>
      cases found with
      | some outcome => exact ⟨.idle, hidle, fun _ hrecording => by cases hrecording⟩
      | none =>
          cases hstatus : callLoop.2 with
          | polling t => exact ⟨phase, hevents, fun hended => absurd rfl (hended t)⟩
          | returned outcome =>
              refine ⟨phase, hevents, fun _ hrecording => ?_⟩
              rw [hreturned outcome hstatus] at hrecording
              cases hrecording
          | raised e =>
              obtain ⟨next, hnext, hgone⟩ := stopOnError_run logger stop hevents
              exact ⟨next, hnext, fun _ hrecording => ⟨⟨e, rfl⟩, hgone hrecording⟩⟩

end Runs

/-! ## The recorder of a run -/

/-- Over a run, the recorder is started at most once, and the announcement comes at most once, behind a
start that has succeeded. -/
structure RecorderInOrder (events : List BotEvent) : Prop where
  startsOnce : events.countP BotEvent.isStart ≤ 1
  announcesOnce : events.countP BotEvent.isAnnounce ≤ 1
  announcesBehind : ∀ before after, events = before ++ .announce :: after →
    .recorderStart true ∈ before

/-- The loop starts the recorder at polls that read admitted. -/
def StartsAdmitted {P : Type} (loop : PollingLoop LoopState P BotEvent PageError BotOutcome)
    (view : LoopView P) (start : ℚ) (polls : List P) : Prop :=
  ∀ before p after t, polls = before ++ p :: after →
    (loop.run (.initial start) before).2 = .polling t →
    ∀ event ∈ (loop.step t p).events, event.isStart → (view.poll p).readsAdmitted

/-- A run that is over has stopped the recorder it has started, unless it raised and `parec` had exited
by itself. In either case the recorder is not running, then or later. -/
structure RecorderFinalised (run : JoinRun) (alive : Bool) : Prop where
  stopped : (∀ t, run.2 ≠ .polling t) → ∀ before after,
    run.1 = before ++ .recorderStart true :: after →
      .recorderStop ∈ after ∨ (∃ e, run.2 = .raised e) ∧ alive = false
  notRunning : (∀ t, run.2 ≠ .polling t) → ∀ later : Bool, (later → alive) →
    isRunning run.1 later = false

theorem recorderInOrder_of_run {events : List BotEvent} {next : RecorderPhase}
    (h : recorderUse.run .idle events = some next) : RecorderInOrder events where
  startsOnce := countP_isStart_le h
  announcesOnce := countP_isAnnounce_le h
  announcesBehind := by
    rintro before after rfl
    obtain ⟨phase, hbefore, hafter⟩ := recorderUse.run_append_eq_some.1 h
    obtain ⟨ψ, hstep, -⟩ := recorderUse.run_cons_eq_some.1 hafter
    cases RecorderStep.of_step hstep with
    | announced => exact start_mem hbefore Bool.false_ne_true rfl

theorem recorderFinalised_of_run {run : JoinRun} {alive : Bool} {next : RecorderPhase}
    (h : recorderUse.run .idle run.1 = some next)
    (hover : (∀ t, run.2 ≠ .polling t) → next.isRecording →
      (∃ e, run.2 = .raised e) ∧ alive = false) : RecorderFinalised run alive where
  stopped := by
    intro hended before after hevents
    rw [hevents] at h
    obtain ⟨phase, -, hafter⟩ := recorderUse.run_append_eq_some.1 h
    obtain ⟨ψ, hstep, hrest⟩ := recorderUse.run_cons_eq_some.1 hafter
    cases RecorderStep.of_step hstep with
    | started =>
        by_cases hrecording : next.isRecording
        · exact .inr (hover hended hrecording)
        · exact .inl (stop_mem hrest rfl hrecording)
  notRunning := by
    intro hended later hlater
    rw [isRunning, recorderProc_of_run h]
    cases hrecording : next.isRecording with
    | false => rfl
    | true =>
        obtain ⟨-, hgone⟩ := hover hended hrecording
        rw [hgone] at hlater
        cases later with
        | false => rfl
        | true => cases hlater rfl

theorem startsAdmitted {P : Type} {loop : PollingLoop LoopState P BotEvent PageError BotOutcome}
    {view : LoopView P} (hloop : ∀ s p, TurnUses s.recorderPhase (loop.step s p))
    (hplain : ∀ s p, ¬ s.recordingStarted → (view.poll p).readsAdmitted = false →
      Plain (loop.step s p)) (start : ℚ) (polls : List P) :
    StartsAdmitted loop view start polls := by
  intro before p after t _ _ event hevent hstart
  by_contra hadmitted
  rw [Bool.not_eq_true] at hadmitted
  by_cases ht : t.recordingStarted
  · obtain ⟨next, hrun, -⟩ := hloop t p
    rw [LoopState.recorderPhase_eq_recording ht] at hrun
    have hcount := countP_isStart_le hrun
    have hpos : 0 < (loop.step t p).events.countP BotEvent.isStart :=
      List.countP_pos_iff.2 ⟨event, hevent, hstart⟩
    exact absurd hcount (not_le.2 hpos)
  · have hevent := hplain t p ht hadmitted event hevent
    cases event with
    | recorderStart succeeds => cases hevent
    | _ => cases hstart

/-- Whatever the pages raise, a run uses its recorder in order, starts it at polls that read admitted, and
does not end with it running. -/
theorem recording_finalised (cfg : LoopConfig) (start : ℚ) (alive : Bool)
    (stop : Reading StopReport) :
    (∀ join polls, RecorderInOrder (Meet.joinAndRecord cfg start alive stop join polls).1 ∧
      StartsAdmitted (Meet.loop cfg) Meet.view start polls ∧
      RecorderFinalised (Meet.joinAndRecord cfg start alive stop join polls) alive) ∧
    (∀ join polls, RecorderInOrder (Zoom.joinAndRecordZoom cfg start alive stop join polls).1 ∧
      StartsAdmitted (Zoom.loop cfg) Zoom.view start polls ∧
      RecorderFinalised (Zoom.joinAndRecordZoom cfg start alive stop join polls) alive) := by
  constructor
  · intro join polls
    have hloop : ∀ s p, TurnUses s.recorderPhase ((Meet.loop cfg).step s p) := Meet.step_uses cfg
    obtain ⟨phase, hrun, hreturned⟩ := runLoop_uses hloop statesLogger cfg.callId start polls
    obtain ⟨next, hnext, hover⟩ :=
      recordCall_uses (Meet.plain_joinCall cfg.isPrintable join) hrun hreturned
    exact ⟨recorderInOrder_of_run hnext,
      startsAdmitted hloop (fun _ _ => Meet.plain_step) start polls,
      recorderFinalised_of_run hnext hover⟩
  · intro join polls
    have hloop : ∀ s p, TurnUses s.recorderPhase ((Zoom.loop cfg).step s p) := Zoom.step_uses cfg
    obtain ⟨phase, hrun, hreturned⟩ := runLoop_uses hloop Zoom.zoomLogger cfg.callId start polls
    obtain ⟨next, hnext, hover⟩ := recordCall_uses (Zoom.plain_joinCall cfg join) hrun hreturned
    exact ⟨recorderInOrder_of_run hnext,
      startsAdmitted hloop (fun _ _ => Zoom.plain_step) start polls,
      recorderFinalised_of_run hnext hover⟩

/-! ### A recorder that dies before a page does -/

def pageClosed : PageError := ⟨"TargetClosedError: Page.locator: Target page has been closed"⟩

def closedPage : List MeetPoll :=
  [admittedPoll 2, { admittedPoll 4 with removed := .error pageClosed, recorderRunning := false }]

def BotEvent.isStop : BotEvent → Bool
  | .recorderStop => true
  | _ => false

/-- The recorder has been started, and nobody has stopped it. -/
theorem not_stopped_closedPage :
    (Meet.joinAndRecord sampleConfig 0 false (.ok ⟨false, 0, none⟩) sampleJoin closedPage).2 =
        .raised pageClosed ∧
      (Meet.joinAndRecord sampleConfig 0 false (.ok ⟨false, 0, none⟩) sampleJoin closedPage).1.countP
        BotEvent.isStart = 1 ∧
      (Meet.joinAndRecord sampleConfig 0 false (.ok ⟨false, 0, none⟩) sampleJoin closedPage).1.countP
        BotEvent.isStop = 0 := by
  refine ⟨rfl, rfl, rfl⟩

end Notetaker

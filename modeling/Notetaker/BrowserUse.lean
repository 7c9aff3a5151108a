import Notetaker.BotMain
import Notetaker.EventMonitor
import Notetaker.RecordingFinalised

/-!
# How a bot process uses its browser

`browserUse` is the order in which a process uses its browser, its recorder and its result line. A browser
is started, hands out its page, and is left through `close` and the exit of Playwright; every part of the
process keeps to the order, whatever it meets.
-/

open PythonText PythonFloat PythonUuid JsonText

namespace Notetaker

inductive BrowserPhase where
  | idle | starting | up | joined | closing | closed | exited | reported
  deriving DecidableEq

namespace BrowserPhase

/-- Records are logged at any time. A browser is started at most once. Once its page is handed out it is
left through `close`; until then, and when `close` raises, only the exit of Playwright is left to end it.
The recorder runs in a meeting that was joined, and the result goes out once, outside of Playwright. -/
def next : BrowserPhase → MainEvent → Option BrowserPhase
  | phase, .bot (.log _) => some phase
  | joined, .bot _ => some joined
  | idle, .launch _ => some starting
  | starting, .page => some up
  | up, .visitSession => some up
  | up, .join _ => some joined
  | up, .close | joined, .close => some closing
  | closing, .closed => some closed
  | idle, .exit | starting, .exit | closing, .exit | closed, .exit => some exited
  | idle, .result _ _ | exited, .result _ _ => some reported
  | _, _ => none

end BrowserPhase

def browserUse : TransitionSystem BrowserPhase MainEvent where
  init phase := phase = .idle
  step := BrowserPhase.next

inductive BrowserStep : BrowserPhase → MainEvent → BrowserPhase → Prop where
  | log (phase : BrowserPhase) (record : LogRecord) : BrowserStep phase (.bot (.log record)) phase
  | meeting (event : BotEvent) : BrowserStep .joined (.bot event) .joined
  | launch (dir : Option Text) : BrowserStep .idle (.launch dir) .starting
  | page : BrowserStep .starting .page .up
  | visit : BrowserStep .up .visitSession .up
  | join (url : Text) : BrowserStep .up (.join url) .joined
  | closeUp : BrowserStep .up .close .closing
  | closeJoined : BrowserStep .joined .close .closing
  | closed : BrowserStep .closing .closed .closed
  | exit {phase : BrowserPhase} (h : phase ≠ .up ∧ phase ≠ .joined) : BrowserStep phase .exit .exited
  | result {phase : BrowserPhase} (h : phase = .idle ∨ phase = .exited) (callId : Text)
      (report : BotReport) : BrowserStep phase (.result callId report) .reported

theorem BrowserStep.of_step {phase next : BrowserPhase} {event : MainEvent}
    (h : browserUse.step phase event = some next) : BrowserStep phase event next := by
  change phase.next event = some next at h
  cases event with
  | bot event =>
      by_cases hlog : ∃ record, event = .log record
      · obtain ⟨record, rfl⟩ := hlog
        obtain rfl : phase = next := by cases phase <;> exact Option.some.inj h
        exact .log phase record
      · cases phase with
        | joined =>
            obtain rfl : .joined = next := by cases event <;> exact Option.some.inj h
            exact .meeting event
        | _ => cases event <;> first | exact absurd ⟨_, rfl⟩ hlog | cases h
  | launch dir =>
      cases phase <;> cases h
      exact .launch dir
  | page =>
      cases phase <;> cases h
      exact .page
  | visitSession =>
      cases phase <;> cases h
      exact .visit
  | join url =>
      cases phase <;> cases h
      exact .join url
  | close =>
      cases phase <;> cases h
      · exact .closeUp
      · exact .closeJoined
  | closed =>
      cases phase <;> cases h
      exact .closed
  | exit => cases phase <;> cases h <;> exact .exit (by decide)
  | result callId report => cases phase <;> cases h <;> exact .result (by decide) callId report

section Order

variable {environ : Environ} {b : BrowserRun} {joined : Bot BotOutcome} {phase : BrowserPhase}

def Logs {α : Type} (x : Bot α) : Prop := x.Emits fun event => ∃ record, event = .log record

theorem monitored_of_logs {α : Type} {x : Bot α} (h : Logs x) {Q : α → BrowserPhase → Prop}
    {E : PageError → BrowserPhase → Prop} (hreturns : ∀ a, x.result = .ok a → Q a phase)
    (hraises : ∀ e, x.result = .error e → E e phase) :
    EventLog.Monitored browserUse phase (process x) Q E := by
  refine EventLog.Monitored.steady ?_ hreturns hraises
  intro event hevent
  obtain ⟨e, he, rfl⟩ := List.mem_map.1 hevent
  obtain ⟨record, rfl⟩ := h e he
  cases phase <;> rfl

theorem monitored_joined {α : Type} (x : Bot α) :
    EventLog.Monitored browserUse .joined (process x) (fun _ t => t = .joined) (fun _ t => t = .joined) := by
  refine EventLog.Monitored.steady ?_ (fun _ _ => rfl) fun _ _ => rfl
  intro event hevent
  obtain ⟨e, he, rfl⟩ := List.mem_map.1 hevent
  cases e <;> rfl

theorem logs_info (logger message : Text) : Logs (info logger message) := EventLog.Emits.emit ⟨_, rfl⟩

theorem logs_warning (logger message : Text) : Logs (warning logger message) :=
  EventLog.Emits.emit ⟨_, rfl⟩

theorem logs_error (logger message : Text) : Logs (error logger message) :=
  EventLog.Emits.emit ⟨_, rfl⟩

theorem logs_make (exitCode : BotExit) (endReason : Option EndReason) (reason : Text)
    (started : Bool) : Logs (BotOutcome.make exitCode endReason reason started) := by
  unfold BotOutcome.make
  split_ifs
  · exact EventLog.Emits.pure
  · exact EventLog.Emits.read

theorem logs_joinError (reason : Text) : Logs (joinError reason) :=
  EventLog.Emits.bind (logs_make _ _ _ _) fun _ _ => EventLog.Emits.pure

theorem logs_verifyConsentIdentity (name : Option Text) (environment : Text) :
    Logs (verifyConsentIdentity name environment) := by
  unfold verifyConsentIdentity
  refine EventLog.Emits.ite (fun _ => EventLog.Emits.pure) fun _ => ?_
  refine EventLog.Emits.ite (fun _ => EventLog.Emits.pure) fun _ => ?_
  exact EventLog.Emits.bind (logs_warning _ _) fun _ _ => EventLog.Emits.pure

theorem logs_checkIdentity : Logs (checkIdentity environ b) := by
  refine EventLog.Emits.read_bind fun name _ => ?_
  refine EventLog.Emits.bind (logs_verifyConsentIdentity _ _) fun problem _ => ?_
  cases problem with
  | some problem => exact EventLog.Emits.bind (logs_error _ _) fun _ _ => logs_joinError _
  | none =>
      dsimp only
      split_ifs
      · exact EventLog.Emits.bind (logs_info _ _) fun _ _ => EventLog.Emits.pure
      · exact EventLog.Emits.pure

theorem logs_checkSignedIn (reached : Reading Unit) : Logs (checkSignedIn environ b reached) := by
  unfold checkSignedIn
  cases reached with
  | error e => exact EventLog.Emits.bind (logs_error _ _) fun _ _ => logs_joinError _
  | ok _ =>
      refine EventLog.Emits.read_bind fun signed _ => ?_
      refine EventLog.Emits.ite (fun _ => ?_) fun _ => ?_
      · exact EventLog.Emits.bind (logs_info _ _) fun _ _ => logs_checkIdentity
      · exact EventLog.Emits.bind (logs_error _ _) fun _ _ => logs_joinError _

/-- A part of the run inside the browser. -/
def UsesBrowser {α : Type} (phase : BrowserPhase) (x : Process α) : Prop :=
  EventLog.Monitored browserUse phase x (fun _ t => t = .up ∨ t = .joined)
    fun _ t => t = .up ∨ t = .joined

/-- A part of the run after which Playwright may be left. -/
def LeavesBrowser {α : Type} (phase : BrowserPhase) (x : Process α) : Prop :=
  EventLog.Monitored browserUse phase x (fun _ t => browserUse.step t .exit = some .exited)
    fun _ t => browserUse.step t .exit = some .exited

/-- A part of the run around it. -/
def UsesNone (x : Process BotOutcome) : Prop :=
  EventLog.Monitored browserUse .idle x (fun _ t => t = .idle ∨ t = .exited)
    fun _ t => t = .idle ∨ t = .exited

/-- The page of a new browser is handed out, or the browser is left to Playwright. -/
def StartsBrowser (x : Process Unit) : Prop :=
  EventLog.Monitored browserUse .idle x (fun _ t => t = .up)
    fun _ t => browserUse.step t .exit = some .exited

theorem joinMeeting_uses : UsesBrowser .up (joinMeeting environ joined) := by
  apply EventLog.Monitored.bind
  refine EventLog.Monitored.emit rfl ?_
  obtain ⟨t, hrun, hreturns, hraises⟩ := monitored_joined joined
  exact ⟨t, hrun, fun a ha => .inr (hreturns a ha), fun e he => .inr (hraises e he)⟩

theorem launchAnonymous_starts : StartsBrowser (launchAnonymous b) := by
  refine .read_bind (fun _ _ => .bind (.emit rfl ?_)) fun _ _ => rfl
  refine .read_bind (fun _ _ => ?_) fun _ _ => rfl
  refine .read_bind (fun _ _ => ?_) fun _ _ => rfl
  exact .read_bind (fun _ _ => .emit rfl rfl) fun _ _ => rfl

theorem launchAuthenticated_starts (dir : Text) : StartsBrowser (launchAuthenticated b dir) := by
  refine .read_bind (fun _ _ => .bind (.emit rfl ?_)) fun _ _ => rfl
  refine .read_bind (fun _ _ => ?_) fun _ _ => rfl
  refine .read_bind (fun found _ => ?_) fun _ _ => rfl
  cases found with
  | true => exact .emit rfl rfl
  | false => exact .read_bind (fun _ _ => .emit rfl rfl) fun _ _ => rfl

theorem closeAnonymous_leaves (h : phase = .up ∨ phase = .joined) :
    LeavesBrowser phase (closeAnonymous b) := by
  have hstep : browserUse.step phase .close = some .closing := by rcases h with rfl | rfl <;> rfl
  refine .bind (.emit hstep ?_)
  exact .read_bind (fun _ _ => .read_bind (fun _ _ => .emit rfl rfl) fun _ _ => rfl)
    fun _ _ => rfl

theorem closeAuthenticated_leaves (h : phase = .up ∨ phase = .joined) :
    LeavesBrowser phase (closeAuthenticated b) := by
  have hstep : browserUse.step phase .close = some .closing := by rcases h with rfl | rfl <;> rfl
  refine .bind (.emit hstep ?_)
  exact .read_bind (fun _ _ => .emit rfl rfl) fun _ _ => rfl

theorem inBrowser_leaves {launch close : Process Unit} {body : Process BotOutcome}
    (hlaunch : StartsBrowser launch) (hbody : UsesBrowser .up body)
    (hclose : ∀ t, t = .up ∨ t = .joined → LeavesBrowser t close) :
    LeavesBrowser .idle (inBrowser launch close body) := by
  apply EventLog.Monitored.bind
  obtain ⟨u, hstart, hstarted, hfailed⟩ := hlaunch
  refine ⟨u, hstart, fun a ha => ?_, hfailed⟩
  obtain rfl := hstarted a ha
  apply EventLog.Monitored.ensure
  obtain ⟨t, hrun, hreturns, hraises⟩ := hbody
  exact ⟨t, hrun, fun a ha => hclose t (hreturns a ha), fun e he => hclose t (hraises e he)⟩

theorem runAnonymous_leaves : LeavesBrowser .idle (runAnonymous environ b joined) :=
  inBrowser_leaves launchAnonymous_starts joinMeeting_uses fun _ => closeAnonymous_leaves

theorem withPlaywright_uses {body : Process BotOutcome} (h : LeavesBrowser .idle body) :
    UsesNone (withPlaywright b body) := by
  refine EventLog.Monitored.read_bind (fun _ _ => ?_) fun _ _ => .inl rfl
  apply EventLog.Monitored.ensure
  have hexit : ∀ t, browserUse.step t .exit = some .exited → EventLog.Monitored browserUse t
      (do .emit .exit; .read b.exit : Process Unit) (fun _ u => u = .idle ∨ u = .exited)
        fun _ u => u = .idle ∨ u = .exited := by
    intro t ht
    refine .bind (.emit ht ?_)
    exact .steady nofun (fun _ _ => .inr rfl) fun _ _ => .inr rfl
  obtain ⟨t, hrun, hreturns, hraises⟩ := h
  exact ⟨t, hrun, fun a ha => hexit t (hreturns a ha), fun e he => hexit t (hraises e he)⟩

theorem Meet.runAuthenticated_leaves :
    LeavesBrowser .idle (Meet.runAuthenticated environ b joined) := by
  unfold Meet.runAuthenticated
  split
  · exact monitored_of_logs (logs_make _ _ _ _) (fun _ _ => rfl) fun _ _ => rfl
  · refine inBrowser_leaves (launchAuthenticated_starts _) ?_ fun _ => closeAuthenticated_leaves
    apply EventLog.Monitored.bind
    apply EventLog.Monitored.bind
    refine EventLog.Monitored.emit rfl ?_
    refine monitored_of_logs (logs_checkSignedIn _) (fun error _ => ?_) fun _ _ => .inl rfl
    cases error with
    | some error => exact EventLog.Monitored.steady nofun (fun _ _ => .inl rfl) fun _ _ => .inl rfl
    | none => exact joinMeeting_uses

theorem Meet.run_uses (mode : AuthMode) : UsesNone (Meet.run environ b joined mode) := by
  apply withPlaywright_uses
  cases mode with
  | anonymous => exact runAnonymous_leaves
  | authenticated => exact Meet.runAuthenticated_leaves

theorem Zoom.run_uses : UsesNone (Zoom.run environ b joined) :=
  withPlaywright_uses runAnonymous_leaves

/-- A part of `main` up to its end; it does not raise. -/
def Reports (phase : BrowserPhase) (x : Process BotExit) : Prop :=
  EventLog.Monitored browserUse phase x (fun _ t => t = .reported) fun _ _ => False

theorem monitored_emitAll {records : List LogRecord} {Q : Unit → BrowserPhase → Prop}
    (h : Q () phase) : EventLog.Monitored browserUse phase (emitAll records) Q fun _ _ => False := by
  refine EventLog.Monitored.steady ?_ (fun _ _ => h) nofun
  intro event hevent
  obtain ⟨record, -, rfl⟩ := List.mem_map.1 hevent
  cases phase <;> rfl

theorem refuse_reports (logger message : Text) (exitCode : BotExit) :
    Reports .idle (refuse environ logger message exitCode) := by
  apply EventLog.Monitored.bind
  refine EventLog.Monitored.emit rfl ?_
  apply EventLog.Monitored.bind
  exact EventLog.Monitored.emit rfl (EventLog.Monitored.steady nofun (fun _ _ => rfl) nofun)

theorem sendReport_reports (logger : Text) (report : BotReport) (h : phase = .idle ∨ phase = .exited) :
    Reports phase (sendReport environ logger report) := by
  have hstep : browserUse.step phase (.result (callIdOf environ) report) = some .reported := by
    rcases h with rfl | rfl <;> rfl
  apply EventLog.Monitored.bind
  refine EventLog.Monitored.emit hstep (EventLog.Monitored.bind (monitored_emitAll ?_))
  exact EventLog.Monitored.steady nofun (fun _ _ => rfl) nofun

theorem finish_reports (logger : Text) {run : Process BotOutcome} (h : UsesNone run) :
    Reports .idle (finish environ b logger run) := by
  obtain ⟨t, hrun, hreturns, hraises⟩ := h
  have hover : t = .idle ∨ t = .exited := by
    cases hresult : run.result with
    | ok outcome => exact hreturns outcome hresult
    | error e => exact hraises e hresult
  apply EventLog.Monitored.bind
  refine ⟨t, hrun, fun ended _ => ?_, nofun⟩
  apply EventLog.Monitored.bind
  cases ended with
  | ok outcome => exact monitored_emitAll (sendReport_reports logger _ hover)
  | error e =>
      refine EventLog.Monitored.emit ?_ (sendReport_reports logger _ hover)
      cases t <;> rfl

theorem guarded_reports (logger : Text) {run : Process BotOutcome} (h : UsesNone run) :
    Reports .idle (guarded environ b logger run) := by
  unfold guarded
  split_ifs
  · exact refuse_reports _ _ _
  · exact refuse_reports _ _ _
  · exact finish_reports logger h

theorem logs_resolveBotName (isPrintable : Char → Bool) : Logs (resolveBotName environ isPrintable) := by
  refine EventLog.Emits.ite (fun _ => EventLog.Emits.pure) fun _ => ?_
  exact EventLog.Emits.bind (logs_warning _ _) fun _ _ => EventLog.Emits.pure

theorem logs_parseAuthMode (isPrintable : Char → Bool) (raw : Text) :
    Logs (parseAuthMode isPrintable raw) := by
  unfold parseAuthMode
  dsimp only
  split_ifs
  · exact EventLog.Emits.pure
  · exact EventLog.Emits.bind (logs_warning _ _) fun _ _ => EventLog.Emits.pure

/-- The first lines of `main` only log, and the rest runs with what they find. -/
theorem EventLog.Monitored.process_bind {α β : Type} {x : Bot α} {a : α} (hlogs : Logs x)
    (hresult : x.result = .ok a) {f : α → Process β} {Q : β → BrowserPhase → Prop}
    {E : PageError → BrowserPhase → Prop} (h : EventLog.Monitored browserUse phase (f a) Q E) :
    EventLog.Monitored browserUse phase (process x >>= f) Q E := by
  apply EventLog.Monitored.bind
  refine monitored_of_logs hlogs (fun a' ha' => ?_) fun e he => ?_
  · rw [hresult] at ha'
    cases ha'
    exact h
  · rw [hresult] at he
    cases he

theorem Meet.main_reports : Reports .idle (Meet.main environ b joined) := by
  refine EventLog.Monitored.process_bind (logs_resolveBotName _) (result_resolveBotName _) ?_
  refine EventLog.Monitored.process_bind (logs_parseAuthMode _ _) (result_parseAuthMode _ _) ?_
  exact EventLog.Monitored.process_bind (logs_info _ _) rfl (guarded_reports _ (Meet.run_uses _))

theorem Zoom.main_reports : Reports .idle (Zoom.main environ b joined) := by
  refine EventLog.Monitored.process_bind (logs_resolveBotName _) (result_resolveBotName _) ?_
  exact EventLog.Monitored.process_bind (logs_info _ _) rfl (guarded_reports _ Zoom.run_uses)

end Order

end Notetaker

import Notetaker.BrowserUse
import Notetaker.LoopDecisions

/-!
# What a bot process may do

The contract of a process adds to the order of its events what stands in front of the browser and of the
meeting, and what the process reports.
-/

open PythonText PythonFloat PythonUuid JsonText

namespace Notetaker

/-! ## What a process may do -/

def SignedIn (environ : Environ) (b : BrowserRun) : Prop :=
  (∃ detail, isSignedIn b.session.signedIn = .ok (true, detail)) ∧
    ∃ name, accountDisplayName b.isAlnum b.session.account = .ok name ∧
      (name = some botNameFixed ∨ environmentName environ ≠ "production".toList)

def ProfileOf (environ : Environ) (b : BrowserRun) : AuthMode → Option Text → Prop
  | .anonymous, dir => dir = none
  | .authenticated, dir => dir = some (profileDirOf environ) ∧ b.profileDir.isDir = true ∧
      b.profileDir.accessible = true

/-- The browser starts and the meeting is joined only with the consent, and in authenticated mode with a
signed-in profile. -/
def MainPermitted (environ : Environ) (b : BrowserRun) (mode : AuthMode) : MainEvent → Prop
  | .launch dir => consentGranted environ ∧ meetingUrlOf environ ≠ [] ∧ ProfileOf environ b mode dir
  | .visitSession => mode = .authenticated
  | .join url => consentGranted environ ∧ url = meetingUrlOf environ ∧ url ≠ [] ∧
      (mode = .authenticated → SignedIn environ b)
  | .result callId _ => callId = callIdOf environ
  | .bot _ | .page | .close | .closed | .exit => True

section MainPermitted

variable {environ : Environ} {b : BrowserRun} {joined : Bot BotOutcome} {mode : AuthMode}

theorem permitted_process {α : Type} (x : Bot α) :
    (process x).Emits (MainPermitted environ b mode) := by
  intro event hevent
  obtain ⟨e, -, rfl⟩ := List.mem_map.1 hevent
  trivial

theorem permitted_emitAll (records : List LogRecord) :
    (emitAll records).Emits (MainPermitted environ b mode) := by
  intro event hevent
  obtain ⟨record, -, rfl⟩ := List.mem_map.1 hevent
  trivial

theorem signedIn_of_checkSignedIn {reached : Reading Unit}
    (h : (checkSignedIn environ b reached).result = .ok none) : SignedIn environ b := by
  have hfailed : ∀ reason message, ((do
      error mainLogger message
      joinError reason : Bot (Option BotOutcome)).result) ≠ .ok none := by
    intro reason message heq
    obtain ⟨u, -, hjoin⟩ := EventLog.result_bind_eq_ok.1 heq
    obtain ⟨outcome, -, hnone⟩ := EventLog.result_bind_eq_ok.1 hjoin
    cases hnone
  unfold checkSignedIn at h
  cases reached with
  | error e => exact absurd h (hfailed _ _)
  | ok _ =>
      obtain ⟨⟨signed, detail⟩, hsigned, h⟩ := EventLog.result_bind_eq_ok.1 h
      dsimp only at h
      split_ifs at h with hsignedIn
      · obtain ⟨u, -, h⟩ := EventLog.result_bind_eq_ok.1 h
        obtain ⟨name, hname, h⟩ := EventLog.result_bind_eq_ok.1 h
        obtain ⟨problem, hproblem, h⟩ := EventLog.result_bind_eq_ok.1 h
        cases problem with
        | some problem => exact absurd h (hfailed _ _)
        | none =>
            rw [hsignedIn] at hsigned
            exact ⟨⟨detail, hsigned⟩, name, hname, (result_verifyConsentIdentity _ _).1 hproblem⟩
      · exact absurd h (hfailed _ _)

/-- A part of the run behind the two checks of `main`. -/
def RunPermitted (environ : Environ) (b : BrowserRun) (mode : AuthMode) {α : Type} (x : Process α) :
    Prop :=
  consentGranted environ → meetingUrlOf environ ≠ [] → x.Emits (MainPermitted environ b mode)

theorem joinMeeting_permitted (h : mode = .authenticated → SignedIn environ b) :
    RunPermitted environ b mode (joinMeeting environ joined) := fun hconsent hurl =>
  EventLog.Emits.emit_bind ⟨hconsent, rfl, hurl, h⟩ (permitted_process _)

theorem ensure_permitted {α : Type} {x : Process α} {last : Process Unit}
    (hx : x.Emits (MainPermitted environ b mode)) (hlast : last.Emits (MainPermitted environ b mode)) :
    (x.ensure last).Emits (MainPermitted environ b mode) := by
  intro event hevent
  exact (List.mem_append.1 hevent).elim (hx event) (hlast event)

theorem inBrowser_permitted {launch close : Process Unit} {body : Process BotOutcome}
    (hlaunch : RunPermitted environ b mode launch) (hclose : close.Emits (MainPermitted environ b mode))
    (hbody : RunPermitted environ b mode body) :
    RunPermitted environ b mode (inBrowser launch close body) := fun hconsent hurl =>
  EventLog.Emits.bind (hlaunch hconsent hurl) fun _ _ =>
    ensure_permitted (hbody hconsent hurl) hclose

theorem launchAnonymous_permitted (hdir : ProfileOf environ b mode none) :
    RunPermitted environ b mode (launchAnonymous b) := fun hconsent hurl =>
  EventLog.Emits.read_bind fun _ _ => EventLog.Emits.emit_bind ⟨hconsent, hurl, hdir⟩
    (EventLog.Emits.read_bind fun _ _ => EventLog.Emits.read_bind fun _ _ =>
      EventLog.Emits.read_bind fun _ _ => EventLog.Emits.emit trivial)

theorem launchAuthenticated_permitted {dir : Text} (hdir : ProfileOf environ b mode (some dir)) :
    RunPermitted environ b mode (launchAuthenticated b dir) := by
  intro hconsent hurl
  refine EventLog.Emits.read_bind fun _ _ => EventLog.Emits.emit_bind ⟨hconsent, hurl, hdir⟩ ?_
  refine EventLog.Emits.read_bind fun _ _ => EventLog.Emits.read_bind fun found _ => ?_
  cases found with
  | true => exact EventLog.Emits.emit trivial
  | false => exact EventLog.Emits.read_bind fun _ _ => EventLog.Emits.emit trivial

theorem closeAnonymous_permitted : (closeAnonymous b).Emits (MainPermitted environ b mode) :=
  EventLog.Emits.emit_bind trivial (EventLog.Emits.read_bind fun _ _ =>
    EventLog.Emits.read_bind fun _ _ => EventLog.Emits.emit trivial)

theorem closeAuthenticated_permitted : (closeAuthenticated b).Emits (MainPermitted environ b mode) :=
  EventLog.Emits.emit_bind trivial
    (EventLog.Emits.read_bind fun _ _ => EventLog.Emits.emit trivial)

theorem withPlaywright_permitted {body : Process BotOutcome} (h : RunPermitted environ b mode body) :
    RunPermitted environ b mode (withPlaywright b body) := fun hconsent hurl =>
  EventLog.Emits.read_bind fun _ _ => ensure_permitted (h hconsent hurl)
    (EventLog.Emits.emit_bind trivial EventLog.Emits.read)

theorem runAnonymous_permitted : RunPermitted environ b .anonymous (runAnonymous environ b joined) :=
  inBrowser_permitted (launchAnonymous_permitted rfl) closeAnonymous_permitted
    (joinMeeting_permitted nofun)

theorem validateProfileDir_eq_none {path : Text} {dir : ProfileDir}
    (h : validateProfileDir path dir = none) : dir.isDir = true ∧ dir.accessible = true := by
  unfold validateProfileDir at h
  split_ifs at h with hpath hdir haccess
  exact ⟨(Bool.not_eq_false _).mp hdir, (Bool.not_eq_false _).mp haccess⟩

theorem Meet.runAuthenticated_permitted :
    RunPermitted environ b .authenticated (Meet.runAuthenticated environ b joined) := by
  unfold Meet.runAuthenticated
  split
  · exact fun _ _ => permitted_process _
  · rename_i hvalid
    refine inBrowser_permitted (launchAuthenticated_permitted ⟨rfl, validateProfileDir_eq_none hvalid⟩)
      closeAuthenticated_permitted fun hconsent hurl => ?_
    have hcheck : (checkSession environ b).Emits (MainPermitted environ b .authenticated) :=
      EventLog.Emits.emit_bind rfl (permitted_process _)
    refine EventLog.Emits.bind hcheck fun error herror => ?_
    cases error with
    | some error => exact EventLog.Emits.pure
    | none =>
        obtain ⟨u, -, hpassed⟩ := EventLog.result_bind_eq_ok.1 herror
        exact joinMeeting_permitted (fun _ => signedIn_of_checkSignedIn hpassed) hconsent hurl

theorem Meet.run_permitted (mode : AuthMode) :
    RunPermitted environ b mode (Meet.run environ b joined mode) := by
  apply withPlaywright_permitted
  cases mode with
  | anonymous => exact runAnonymous_permitted
  | authenticated => exact Meet.runAuthenticated_permitted

theorem Zoom.run_permitted : RunPermitted environ b .anonymous (Zoom.run environ b joined) :=
  withPlaywright_permitted runAnonymous_permitted

theorem guarded_permitted (logger : Text) {run : Process BotOutcome}
    (h : RunPermitted environ b mode run) :
    (guarded environ b logger run).Emits (MainPermitted environ b mode) := by
  have hrefuse : ∀ message exitCode,
      (refuse environ logger message exitCode).Emits (MainPermitted environ b mode) := fun _ _ =>
    EventLog.Emits.bind (permitted_process _) fun _ _ =>
      EventLog.Emits.emit_bind rfl EventLog.Emits.pure
  unfold guarded
  refine EventLog.Emits.ite (fun _ => hrefuse _ _) fun hconsent => ?_
  refine EventLog.Emits.ite (fun _ => hrefuse _ _) fun hurl => ?_
  have hrun : (caught run).Emits (MainPermitted environ b mode) :=
    h ((Bool.not_eq_false _).mp hconsent) hurl
  refine EventLog.Emits.bind hrun fun ended _ => ?_
  refine EventLog.Emits.bind ?_ fun _ _ => EventLog.Emits.emit_bind rfl
    (EventLog.Emits.bind (permitted_emitAll _) fun _ _ => EventLog.Emits.pure)
  cases ended with
  | ok outcome => exact permitted_emitAll _
  | error e => exact permitted_process _

theorem Meet.main_permitted :
    (Meet.main environ b joined).Emits (MainPermitted environ b (authMode environ)) := by
  refine EventLog.Emits.bind (permitted_process _) fun _ _ => ?_
  refine EventLog.Emits.bind (permitted_process _) fun mode hmode => ?_
  obtain rfl : authMode environ = mode := Except.ok.inj ((result_parseAuthMode _ _).symm.trans hmode)
  exact EventLog.Emits.bind (permitted_process _) fun _ _ =>
    guarded_permitted _ (Meet.run_permitted _)

theorem Zoom.main_permitted :
    (Zoom.main environ b joined).Emits (MainPermitted environ b .anonymous) :=
  EventLog.Emits.bind (permitted_process _) fun _ _ =>
    EventLog.Emits.bind (permitted_process _) fun _ _ => guarded_permitted _ Zoom.run_permitted

end MainPermitted

/-! ## The exit codes of the join -/

def GivesUp (x : Bot (Option BotOutcome)) : Prop :=
  x.Ensures fun found => ∀ outcome ∈ found, outcome.exitCode = .botError

section GivesUp

theorem givesUp_none : GivesUp (pure none) := EventLog.Ensures.pure (by simp)

theorem givesUp_joinError (reason : Text) : GivesUp (joinError reason) := by
  refine EventLog.Ensures.bind fun outcome houtcome => EventLog.Ensures.pure ?_
  rintro _ ⟨⟩
  exact (BotOutcome.of_make houtcome).1

theorem GivesUp.bind {α : Type} {x : Bot α} {f : α → Bot (Option BotOutcome)}
    (h : ∀ a, GivesUp (f a)) : GivesUp (x >>= f) := EventLog.Ensures.bind fun a _ => h a

theorem GivesUp.ite {p : Prop} [Decidable p] {x y : Bot (Option BotOutcome)} (hx : GivesUp x)
    (hy : GivesUp y) : GivesUp (if p then x else y) := by
  split_ifs
  · exact hx
  · exact hy

namespace Meet

variable (isPrintable : Char → Bool) (join : MeetJoin)

theorem givesUp_clickJoin : GivesUp (clickJoin isPrintable join) :=
  .bind fun _ => .ite
    (.bind fun _ => .bind fun _ => .bind fun _ => .bind fun _ =>
      .ite (.bind fun _ => givesUp_none) givesUp_none)
    (.bind fun _ => .bind fun _ => givesUp_joinError _)

theorem givesUp_greenRoom : GivesUp (greenRoom isPrintable join) :=
  .bind fun _ => .bind fun _ => .bind fun _ => .bind fun _ => .ite
    (.bind fun _ => .bind fun _ => givesUp_clickJoin isPrintable join)
    (.bind fun _ => givesUp_joinError _)

theorem givesUp_joinCall : GivesUp (joinCall isPrintable join) :=
  .bind fun _ => .bind fun _ => .bind fun _ => .ite
    (.bind fun _ => .bind fun _ => givesUp_joinError _) (givesUp_greenRoom isPrintable join)

end Meet

namespace Zoom

variable (cfg : LoopConfig) (join : ZoomJoin)

theorem givesUp_detectFatalWall (poll : ZoomPoll) (walls : List (Reading (Bool × Text) × Text)) :
    GivesUp (detectFatalWall cfg poll walls) := by
  induction walls with
  | nil => exact givesUp_none
  | cons wall walls ih =>
      obtain ⟨predicate, reason⟩ := wall
      refine EventLog.Ensures.read_bind fun found _ => GivesUp.ite ?_ ih
      exact GivesUp.bind fun _ => GivesUp.bind fun _ => givesUp_joinError reason

theorem givesUp_orElse {part rest : Bot (Option BotOutcome)} (hpart : GivesUp part)
    (hrest : GivesUp rest) : GivesUp (orElse part rest) := by
  refine EventLog.Ensures.bind fun found hfound => ?_
  cases found with
  | some outcome => exact EventLog.Ensures.pure (hpart _ hfound)
  | none => exact hrest

theorem givesUp_openBrowserLink : GivesUp (openBrowserLink join) :=
  .bind fun _ => .bind fun _ => .bind fun _ => .bind fun _ => .bind fun _ =>
    .ite (.bind fun _ => .bind fun _ => givesUp_none) givesUp_none

theorem givesUp_browserJoin : GivesUp (browserJoin cfg join) := by
  refine .bind fun _ => .ite (givesUp_openBrowserLink join) ?_
  refine givesUp_orElse (givesUp_detectFatalWall cfg _ _) ?_
  exact .bind fun _ => .bind fun _ => givesUp_joinError _

theorem givesUp_openWebClient : GivesUp (openWebClient cfg join) :=
  .ite (.bind fun _ => givesUp_none)
    (.bind fun _ => .ite (.bind fun _ => givesUp_browserJoin cfg join) (givesUp_browserJoin cfg join))

theorem givesUp_runPrejoin : GivesUp (runPrejoin cfg join) :=
  .bind fun _ => .bind fun _ => .bind fun _ => .bind fun _ => .ite
    (.bind fun _ => .bind fun _ => givesUp_none) (.bind fun _ => givesUp_joinError _)

theorem givesUp_confirmJoin : GivesUp (confirmJoin join) :=
  .bind fun _ => .bind fun _ => .ite
    (.bind fun _ => .bind fun _ => .bind fun _ => .bind fun _ => givesUp_none)
    (.bind fun _ => givesUp_none)

theorem givesUp_clickJoin : GivesUp (clickJoin cfg join) := by
  refine .bind fun _ => .ite ?_ (.bind fun _ => .bind fun _ => givesUp_joinError _)
  cases join.joinClick with
  | error e => exact .bind fun _ => .bind fun _ => givesUp_joinError _
  | ok _ => exact givesUp_confirmJoin join

theorem givesUp_joinPrejoin : GivesUp (joinPrejoin cfg join) :=
  .bind fun _ => .ite (givesUp_orElse (givesUp_runPrejoin cfg join) (givesUp_clickJoin cfg join))
    (.bind fun _ => .bind fun _ => givesUp_joinError _)

theorem givesUp_joinCall : GivesUp (joinCall cfg join) :=
  .bind fun _ => .bind fun _ => givesUp_orElse (givesUp_detectFatalWall cfg _ _) <|
    givesUp_orElse (givesUp_openWebClient cfg join) <|
      givesUp_orElse (givesUp_detectFatalWall cfg _ _) (givesUp_joinPrejoin cfg join)

end Zoom

end GivesUp

/-- `joined` is a run of `_join_and_record` that is over. -/
structure Over (run : JoinRun) (joined : Bot BotOutcome) : Prop where
  events : joined.events = run.1
  result : runEnd run.2 (.ok ()) = some joined.result

/-- With the arguments and the environment of `main`. -/
def Meet.Joins (environ : Environ) (joined : Bot BotOutcome) : Prop :=
  ∃ cfg start alive stop join polls, cfg.callId = callIdOf environ ∧
    cfg.timeouts = timeoutsFromEnv environ ∧ join.botName = botNameFixed ∧
    (join.authenticated ↔ authMode environ = .authenticated) ∧
    Over (Meet.joinAndRecord cfg start alive stop join polls) joined

def Zoom.Joins (environ : Environ) (joined : Bot BotOutcome) : Prop :=
  ∃ cfg start alive stop join polls, cfg.callId = callIdOf environ ∧
    cfg.timeouts = timeoutsFromEnv environ ∧ join.botName = botNameFixed ∧
    Over (Zoom.joinAndRecordZoom cfg start alive stop join polls) joined

section Exits

variable {environ : Environ} {b : BrowserRun} {joined : Bot BotOutcome}

/-- The loops never refuse for want of consent. -/
theorem Follows.exitCode_ne {P : Type} {loop : PollingLoop LoopState P BotEvent PageError BotOutcome}
    {view : LoopView P} {cfg : LoopConfig} (hloop : Follows loop view cfg) {s : LoopState}
    {polls : List P} {outcome : BotOutcome} (h : (loop.run s polls).2 = .returned outcome) :
    outcome.exitCode ≠ .consentMissing := by
  obtain ⟨before, p, after, t, -, -, hstep, -⟩ := loop.exists_returning_poll h
  have hdecides : Decides cfg t (view.poll p) (view.controls p) (view.gone p) outcome.exitCode
      outcome.endReason outcome.reason outcome.recordingStarted := hloop t p (.inr outcome) hstep
  intro hexit
  rw [hexit] at hdecides
  cases hdecides

theorem Over.exitCode_ne {logger : Text} {join : Bot (Option BotOutcome)} {callLoop : JoinRun}
    {alive : Bool} {stop : Reading StopReport} (hjoin : GivesUp join)
    (hloop : ∀ outcome, callLoop.2 = .returned outcome → outcome.exitCode ≠ .consentMissing)
    (hover : Over (recordCall logger join callLoop alive stop) joined) :
    joined.Ensures fun outcome => outcome.exitCode ≠ .consentMissing := by
  intro outcome houtcome
  have hreturned : (recordCall logger join callLoop alive stop).2 = .returned outcome := by
    have hresult := hover.result
    rw [houtcome] at hresult
    cases hstatus : (recordCall logger join callLoop alive stop).2 with
    | polling t => rw [hstatus] at hresult; cases hresult
    | raised e => rw [hstatus] at hresult; cases hresult
    | returned outcome' => rw [hstatus] at hresult; cases hresult; rfl
  unfold recordCall at hreturned
  cases hresult : join.result with
  | error e =>
      rw [hresult] at hreturned
      cases hreturned
  | ok found =>
      rw [hresult] at hreturned
      cases found with
      | some outcome' =>
          cases hreturned
          rw [hjoin _ hresult outcome rfl]
          decide
      | none =>
          cases hstatus : callLoop.2 with
          | raised e =>
              dsimp only at hreturned
              rw [hstatus] at hreturned
              cases hreturned
          | polling t =>
              dsimp only at hreturned
              rw [hstatus] at hreturned
              cases hreturned
          | returned outcome' =>
              dsimp only at hreturned
              rw [hstatus] at hreturned
              cases hreturned
              exact hloop outcome hstatus

theorem Meet.Joins.exitCode_ne (h : Meet.Joins environ joined) :
    joined.Ensures fun outcome => outcome.exitCode ≠ .consentMissing := by
  obtain ⟨cfg, start, alive, stop, join, polls, -, -, -, -, hover⟩ := h
  have hloop : ∀ outcome, (Meet.runCallLoop cfg start polls).2 = .returned outcome →
      outcome.exitCode ≠ .consentMissing := fun _ hrun => (Meet.follows cfg).exitCode_ne hrun
  exact Over.exitCode_ne (Meet.givesUp_joinCall cfg.isPrintable join) hloop hover

theorem Zoom.Joins.exitCode_ne (h : Zoom.Joins environ joined) :
    joined.Ensures fun outcome => outcome.exitCode ≠ .consentMissing := by
  obtain ⟨cfg, start, alive, stop, join, polls, -, -, -, hover⟩ := h
  have hloop : ∀ outcome, (Zoom.runCallLoop cfg start polls).2 = .returned outcome →
      outcome.exitCode ≠ .consentMissing := fun _ hrun => (Zoom.follows cfg).exitCode_ne hrun
  exact Over.exitCode_ne (Zoom.givesUp_joinCall cfg join) hloop hover

def Admits (x : Process BotOutcome) : Prop := x.Ensures fun outcome => outcome.exitCode ≠ .consentMissing

theorem Admits.ensure {x : Process BotOutcome} (h : Admits x) (last : Process Unit) :
    Admits (x.ensure last) := fun outcome houtcome =>
  h outcome (EventLog.result_ensure_eq_ok.1 houtcome).1

theorem admits_joinMeeting (h : joined.Ensures fun outcome => outcome.exitCode ≠ .consentMissing) :
    Admits (joinMeeting environ joined) := EventLog.Ensures.bind fun _ _ => h

theorem admits_inBrowser {launch close : Process Unit} {body : Process BotOutcome} (h : Admits body) :
    Admits (inBrowser launch close body) :=
  EventLog.Ensures.bind fun _ _ => h.ensure _

theorem admits_withPlaywright {body : Process BotOutcome} (h : Admits body) :
    Admits (withPlaywright b body) := EventLog.Ensures.bind fun _ _ => h.ensure _

theorem givesUp_checkSignedIn (reached : Reading Unit) : GivesUp (checkSignedIn environ b reached) := by
  unfold checkSignedIn
  cases reached with
  | error e => exact .bind fun _ => givesUp_joinError _
  | ok _ =>
      refine .bind fun _ => .ite (.bind fun _ => .bind fun name => .bind fun problem => ?_)
        (.bind fun _ => givesUp_joinError _)
      cases problem with
      | some problem => exact .bind fun _ => givesUp_joinError _
      | none => exact .ite (.bind fun _ => givesUp_none) givesUp_none

theorem Meet.admits_run (h : joined.Ensures fun outcome => outcome.exitCode ≠ .consentMissing)
    (mode : AuthMode) : Admits (Meet.run environ b joined mode) := by
  apply admits_withPlaywright
  cases mode with
  | anonymous => exact admits_inBrowser (admits_joinMeeting h)
  | authenticated =>
      change Admits (Meet.runAuthenticated environ b joined)
      unfold Meet.runAuthenticated
      split
      · intro outcome houtcome
        rw [(BotOutcome.of_make houtcome).1]
        decide
      · refine admits_inBrowser (EventLog.Ensures.bind fun error herror => ?_)
        cases error with
        | none => exact admits_joinMeeting h
        | some error =>
            obtain ⟨u, -, hcheck⟩ := EventLog.result_bind_eq_ok.1 herror
            refine EventLog.Ensures.pure ?_
            rw [givesUp_checkSignedIn _ _ hcheck error rfl]
            decide

theorem Zoom.admits_run (h : joined.Ensures fun outcome => outcome.exitCode ≠ .consentMissing) :
    Admits (Zoom.run environ b joined) :=
  admits_withPlaywright (admits_inBrowser (admits_joinMeeting h))

/-- The process returns what its report says, and it says that the consent is missing when it is. -/
structure Answers (environ : Environ) (x : Process BotExit) : Prop where
  reported : ∃ report, .result (callIdOf environ) report ∈ x.events ∧ x.result = .ok report.exitCode
  refused : x.result = .ok .consentMissing ↔ consentGranted environ = false

theorem Answers.bind {α : Type} {x : Process α} {a : α} (hresult : x.result = .ok a)
    {f : α → Process BotExit} (h : Answers environ (f a)) : Answers environ (x >>= f) := by
  obtain ⟨report, hreport, hexit⟩ := h.reported
  rw [EventLog.bind_of_ok hresult]
  exact ⟨⟨report, List.mem_append_right _ hreport, hexit⟩, h.refused⟩

theorem answers_refuse {logger message : Text} {exitCode : BotExit}
    (h : exitCode = .consentMissing ↔ consentGranted environ = false) :
    Answers environ (refuse environ logger message exitCode) :=
  Answers.bind rfl ⟨⟨⟨exitCode, none⟩, List.mem_cons_self, rfl⟩,
    ⟨fun heq => h.1 (Except.ok.inj heq), fun hconsent => congrArg _ (h.2 hconsent)⟩⟩

theorem exitCode_exitReport_ne {run : Process BotOutcome} (h : Admits run) (check : RecordingStatus) :
    (exitReport run.result check).exitCode ≠ .consentMissing := by
  cases hresult : run.result with
  | error e => exact nofun
  | ok outcome =>
      have hexit := h outcome hresult
      change finalizeRecording outcome check ≠ _
      unfold finalizeRecording
      split_ifs
      · exact hexit
      · cases check <;> exact nofun

theorem answers_guarded (logger : Text) {run : Process BotOutcome} (h : Admits run) :
    Answers environ (guarded environ b logger run) := by
  unfold guarded
  split_ifs with hconsent hurl
  · exact answers_refuse (iff_of_true rfl hconsent)
  · exact answers_refuse (iff_of_false nofun hconsent)
  · have hne := exitCode_exitReport_ne h (checkRecording b.wav (silenceFloorFromEnv environ))
    have hend : Answers environ (sendReport environ logger
        (exitReport run.result (checkRecording b.wav (silenceFloorFromEnv environ)))) := by
      refine ⟨⟨_, List.mem_cons_self, rfl⟩, ?_⟩
      exact iff_of_false (fun heq => hne (Except.ok.inj heq)) hconsent
    have hlogged : (endRecords b logger (checkRecording b.wav (silenceFloorFromEnv environ))
        run.result).result = .ok () := by
      cases run.result <;> rfl
    exact Answers.bind rfl (Answers.bind hlogged hend)

theorem Meet.answers_main (h : Meet.Joins environ joined) :
    Answers environ (Meet.main environ b joined) :=
  Answers.bind (result_resolveBotName _) <| Answers.bind (result_parseAuthMode _ _) <|
    Answers.bind rfl (answers_guarded _ (Meet.admits_run h.exitCode_ne _))

theorem Zoom.answers_main (h : Zoom.Joins environ joined) :
    Answers environ (Zoom.main environ b joined) :=
  Answers.bind (result_resolveBotName _) <|
    Answers.bind rfl (answers_guarded _ (Zoom.admits_run h.exitCode_ne))

end Exits

/-! ## When the meeting is joined -/

/-- The page of the browser is handed out. -/
def Launches (b : BrowserRun) : AuthMode → Prop
  | .anonymous => b.launch = .ok () ∧ b.newContext = .ok () ∧ b.applyStealth = .ok () ∧ b.newPage = .ok ()
  | .authenticated => b.launch = .ok () ∧ b.applyStealth = .ok () ∧
      (b.pages = .ok true ∨ b.pages = .ok false ∧ b.newPage = .ok ())

/-- `close` closes the browser. -/
def Closes (b : BrowserRun) : AuthMode → Prop
  | .anonymous => b.contextClose = .ok () ∧ b.browserClose = .ok ()
  | .authenticated => b.contextClose = .ok ()

/-- What stands between the consent and a page. -/
structure GetsPage (b : BrowserRun) (mode : AuthMode) : Prop where
  enter : b.enter = .ok ()
  profile : mode = .authenticated → b.profileDir.isDir = true ∧ b.profileDir.accessible = true
  launch : Launches b mode

/-- What stands between the consent and the meeting. -/
structure Reaches (environ : Environ) (b : BrowserRun) (mode : AuthMode) : Prop where
  page : GetsPage b mode
  session : mode = .authenticated → b.session.goto = .ok () ∧ SignedIn environ b

/-- What a run does with its page. -/
def InPage (environ : Environ) (b : BrowserRun) (mode : AuthMode) : MainEvent → Prop
  | .page => True
  | .join url => url = meetingUrlOf environ ∧
      (mode = .authenticated → b.session.goto = .ok () ∧ SignedIn environ b)
  | .closed => Closes b mode
  | _ => False

/-- Between the launch and `close`. -/
def MainEvent.Inner : MainEvent → Prop
  | .page | .join _ | .closed => True
  | _ => False

theorem inPage_iff {environ : Environ} {b : BrowserRun} {mode : AuthMode} {event : MainEvent}
    (h : event.Inner) : InPage environ b mode event ↔ event = .page ∨
      (event = .join (meetingUrlOf environ) ∧
        (mode = .authenticated → b.session.goto = .ok () ∧ SignedIn environ b)) ∨
      event = .closed ∧ Closes b mode := by
  cases event with
  | page => simp [InPage]
  | join url => simp [InPage]
  | closed => simp [InPage]
  | _ => exact h.elim

section Joins

variable {environ : Environ} {b : BrowserRun} {joined : Bot BotOutcome} {url : Text}
  {event : MainEvent}

theorem mem_events_bind {ε err α β : Type} {x : EventLog ε err α} {f : α → EventLog ε err β}
    {event : ε} : event ∈ (x >>= f).events ↔
      event ∈ x.events ∨ ∃ a, x.result = .ok a ∧ event ∈ (f a).events := by
  cases hresult : x.result with
  | ok a => simp [EventLog.bind_of_ok hresult]
  | error e => simp [EventLog.bind_of_error hresult]

theorem notMem_process (h : event.Inner) {α : Type} (x : Bot α) : event ∉ (process x).events := by
  intro hevent
  obtain ⟨e, -, rfl⟩ := List.mem_map.1 hevent
  exact h

theorem notMem_emitAll (h : event.Inner) (records : List LogRecord) :
    event ∉ (emitAll records).events := by
  intro hevent
  obtain ⟨record, -, rfl⟩ := List.mem_map.1 hevent
  exact h

theorem mem_read_bind {α β : Type} {reading : Reading α} {f : α → Process β} :
    event ∈ (EventLog.read reading >>= f).events ↔ ∃ a, reading = .ok a ∧ event ∈ (f a).events := by
  simp [mem_events_bind]

theorem mem_emit_bind {α : Type} {e : MainEvent} {f : Unit → Process α} :
    event ∈ (EventLog.emit e >>= f).events ↔ event = e ∨ event ∈ (f ()).events := by
  simp [mem_events_bind, Unique.exists_iff]

theorem mem_emit {e : MainEvent} : event ∈ (EventLog.emit e : Process Unit).events ↔ event = e :=
  List.mem_singleton

theorem mem_inBrowser {launch close : Process Unit} {body : Process BotOutcome} :
    event ∈ (inBrowser launch close body).events ↔ event ∈ launch.events ∨
      launch.result = .ok () ∧ (event ∈ body.events ∨ event ∈ close.events) := by
  simp [inBrowser, mem_events_bind, EventLog.ensure, Unique.exists_iff]

theorem mem_withPlaywright (h : event.Inner) {body : Process BotOutcome} :
    event ∈ (withPlaywright b body).events ↔ b.enter = .ok () ∧ event ∈ body.events := by
  have hexit : event ≠ .exit := by
    rintro rfl
    exact h
  simp [withPlaywright, mem_read_bind, mem_emit_bind, EventLog.ensure, Unique.exists_iff, hexit]

theorem result_launchAnonymous_iff :
    (launchAnonymous b).result = .ok () ↔ Launches b .anonymous := by
  simp [launchAnonymous, Launches, EventLog.result_bind_eq_ok, Unique.exists_iff]

theorem mem_launchAnonymous (h : event.Inner) :
    event ∈ (launchAnonymous b).events ↔ event = .page ∧ Launches b .anonymous := by
  have hlaunch : ∀ dir, event ≠ .launch dir := by
    rintro dir rfl
    exact h
  simp only [launchAnonymous, Launches, mem_read_bind, mem_emit_bind, mem_emit, Unique.exists_iff,
    hlaunch, false_or]
  tauto

theorem mem_closeAnonymous (h : event.Inner) :
    event ∈ (closeAnonymous b).events ↔ event = .closed ∧ Closes b .anonymous := by
  have hclose : event ≠ .close := by
    rintro rfl
    exact h
  simp only [closeAnonymous, Closes, mem_read_bind, mem_emit_bind, mem_emit, Unique.exists_iff, hclose,
    false_or]
  tauto

theorem result_launchAuthenticated_iff {dir : Text} :
    (launchAuthenticated b dir).result = .ok () ↔ Launches b .authenticated := by
  simp only [launchAuthenticated, Launches, EventLog.result_bind_eq_ok, EventLog.result_read,
    EventLog.result_emit, Unique.exists_iff, true_and]
  cases b.pages with
  | error e => simp
  | ok found => cases found <;> simp [EventLog.result_bind_eq_ok, Unique.exists_iff]

theorem mem_launchAuthenticated (h : event.Inner) {dir : Text} :
    event ∈ (launchAuthenticated b dir).events ↔ event = .page ∧ Launches b .authenticated := by
  have hlaunch : ∀ dir, event ≠ .launch dir := by
    rintro dir rfl
    exact h
  simp only [launchAuthenticated, Launches, mem_read_bind, mem_emit_bind, Unique.exists_iff, hlaunch,
    false_or]
  cases b.pages with
  | error e => simp
  | ok found =>
      cases found with
      | true =>
          simp
          tauto
      | false =>
          simp [mem_read_bind, Unique.exists_iff]
          tauto

theorem mem_closeAuthenticated (h : event.Inner) :
    event ∈ (closeAuthenticated b).events ↔ event = .closed ∧ Closes b .authenticated := by
  have hclose : event ≠ .close := by
    rintro rfl
    exact h
  simp only [closeAuthenticated, Closes, mem_read_bind, mem_emit_bind, mem_emit, Unique.exists_iff, hclose,
    false_or]
  exact and_comm

/-! ### What happens in the browser -/

theorem mem_joinMeeting (h : event.Inner) :
    event ∈ (joinMeeting environ joined).events ↔ event = .join (meetingUrlOf environ) := by
  rw [joinMeeting, mem_emit_bind, or_iff_left (notMem_process h joined)]

theorem result_checkSignedIn_iff {reached : Reading Unit} :
    (checkSignedIn environ b reached).result = .ok none ↔ reached = .ok () ∧ SignedIn environ b := by
  constructor
  · intro h
    refine ⟨?_, signedIn_of_checkSignedIn h⟩
    cases reached with
    | ok _ => rfl
    | error e =>
        obtain ⟨u, -, hjoin⟩ := EventLog.result_bind_eq_ok.1 h
        obtain ⟨outcome, -, hnone⟩ := EventLog.result_bind_eq_ok.1 hjoin
        cases hnone
  · rintro ⟨rfl, ⟨detail, hsigned⟩, name, hname, hidentity⟩
    refine EventLog.result_bind_eq_ok.2 ⟨(true, detail), hsigned, ?_⟩
    refine EventLog.result_bind_eq_ok.2 ⟨(), rfl, EventLog.result_bind_eq_ok.2 ⟨name, hname, ?_⟩⟩
    refine EventLog.result_bind_eq_ok.2
      ⟨none, (result_verifyConsentIdentity name _).2 hidentity, ?_⟩
    dsimp only
    split_ifs <;> rfl

theorem mem_joinSignedIn (h : event.Inner) :
    event ∈ (joinSignedIn environ b joined).events ↔
      event = .join (meetingUrlOf environ) ∧ b.session.goto = .ok () ∧ SignedIn environ b := by
  have hresult : (checkSession environ b).result = (checkSignedIn environ b b.session.goto).result :=
    EventLog.result_emit_bind _ _
  have hvisit : event ≠ .visitSession := by
    rintro rfl
    exact h
  have hcheck : event ∉ (checkSession environ b).events := by
    simp [checkSession, mem_emit_bind, notMem_process h, hvisit]
  unfold joinSignedIn
  rw [mem_events_bind, hresult, or_iff_right hcheck, ← result_checkSignedIn_iff]
  constructor
  · rintro ⟨error, herror, hjoin⟩
    cases error with
    | some error => cases hjoin
    | none => exact ⟨(mem_joinMeeting h).1 hjoin, herror⟩
  · rintro ⟨hurl, hpassed⟩
    exact ⟨none, hpassed, (mem_joinMeeting h).2 hurl⟩

theorem validateProfileDir_eq_none_iff {dir : ProfileDir} :
    validateProfileDir (profileDirOf environ) dir = none ↔
      dir.isDir = true ∧ dir.accessible = true := by
  refine ⟨validateProfileDir_eq_none, fun ⟨hdir, haccess⟩ => ?_⟩
  have hpath : profileDirOf environ ≠ [] := by
    unfold profileDirOf
    dsimp only
    split_ifs with hempty
    · decide
    · exact hempty
  rw [validateProfileDir, if_neg hpath, if_neg (by simp [hdir]), if_neg (by simp [haccess])]

theorem mem_runAnonymous (h : event.Inner) :
    event ∈ (runAnonymous environ b joined).events ↔
      Launches b .anonymous ∧ InPage environ b .anonymous event := by
  rw [runAnonymous, mem_inBrowser, mem_launchAnonymous h, result_launchAnonymous_iff,
    mem_joinMeeting h, mem_closeAnonymous h, inPage_iff h]
  simp only [reduceCtorEq, false_implies, and_true]
  tauto

theorem Meet.mem_runAuthenticated (h : event.Inner) :
    event ∈ (Meet.runAuthenticated environ b joined).events ↔
      (b.profileDir.isDir = true ∧ b.profileDir.accessible = true) ∧
        Launches b .authenticated ∧ InPage environ b .authenticated event := by
  unfold Meet.runAuthenticated
  split
  · rename_i problem hproblem
    refine iff_of_false (notMem_process h _) ?_
    rintro ⟨hdir, -⟩
    rw [validateProfileDir_eq_none_iff.2 hdir] at hproblem
    cases hproblem
  · rename_i hvalid
    rw [mem_inBrowser, mem_launchAuthenticated h, result_launchAuthenticated_iff, mem_joinSignedIn h,
      mem_closeAuthenticated h, and_iff_right (validateProfileDir_eq_none hvalid), inPage_iff h]
    simp only [forall_const]
    tauto

theorem Meet.mem_run (h : event.Inner) {mode : AuthMode} :
    event ∈ (Meet.run environ b joined mode).events ↔ GetsPage b mode ∧ InPage environ b mode event := by
  unfold Meet.run
  rw [mem_withPlaywright h]
  cases mode with
  | anonymous =>
      rw [mem_runAnonymous h]
      exact ⟨fun ⟨henter, hlaunch, hin⟩ => ⟨⟨henter, nofun, hlaunch⟩, hin⟩,
        fun ⟨hpage, hin⟩ => ⟨hpage.enter, hpage.launch, hin⟩⟩
  | authenticated =>
      rw [Meet.mem_runAuthenticated h]
      exact ⟨fun ⟨henter, hprofile, hlaunch, hin⟩ => ⟨⟨henter, fun _ => hprofile, hlaunch⟩, hin⟩,
        fun ⟨hpage, hin⟩ => ⟨hpage.enter, hpage.profile rfl, hpage.launch, hin⟩⟩

theorem Zoom.mem_run (h : event.Inner) : event ∈ (Zoom.run environ b joined).events ↔
    GetsPage b .anonymous ∧ InPage environ b .anonymous event := by
  have hrun : event ∈ (Meet.run environ b joined .anonymous).events ↔
      GetsPage b .anonymous ∧ InPage environ b .anonymous event := Meet.mem_run h
  exact hrun

/-- Behind the two checks of `main` there is what the run does. -/
theorem mem_guarded (h : event.Inner) {logger : Text} {run : Process BotOutcome} :
    event ∈ (guarded environ b logger run).events ↔
      consentGranted environ ∧ meetingUrlOf environ ≠ [] ∧ event ∈ run.events := by
  have hresult : ∀ callId report, event ≠ .result callId report := by
    rintro callId report rfl
    exact h
  have hrefuse : ∀ message exitCode, event ∉ (refuse environ logger message exitCode).events := by
    simp [refuse, mem_events_bind, notMem_process h, hresult]
  have hsend : ∀ report, event ∉ (sendReport environ logger report).events := by
    simp [sendReport, mem_events_bind, notMem_emitAll h, hresult]
  have hrecords : ∀ check ended, event ∉ (endRecords b logger check ended).events := by
    intro check ended
    cases ended with
    | ok outcome => exact notMem_emitAll h _
    | error e => exact notMem_process h _
  unfold guarded
  split_ifs with hconsent hurl
  · exact iff_of_false (hrefuse _ _) fun hmem => by simp [hconsent] at hmem
  · exact iff_of_false (hrefuse _ _) fun hmem => hmem.2.1 hurl
  · have hfinish : event ∈ (finish environ b logger run).events ↔ event ∈ run.events := by
      simp [finish, mem_events_bind, hrecords, hsend, caught]
    rw [hfinish]
    simp [hconsent, hurl]

theorem mem_process_bind (h : event.Inner) {α β : Type} {x : Bot α} {a : α} (hresult : x.result = .ok a)
    {f : α → Process β} : event ∈ (process x >>= f).events ↔ event ∈ (f a).events := by
  rw [mem_events_bind, or_iff_right (notMem_process h x)]
  exact ⟨fun ⟨a', ha', h⟩ => Except.ok.inj (hresult.symm.trans ha') ▸ h, fun h => ⟨a, hresult, h⟩⟩

theorem Meet.mem_main (h : event.Inner) : event ∈ (Meet.main environ b joined).events ↔
    consentGranted environ ∧ meetingUrlOf environ ≠ [] ∧ GetsPage b (authMode environ) ∧
      InPage environ b (authMode environ) event := by
  unfold Meet.main
  rw [mem_process_bind h (result_resolveBotName _), mem_process_bind h (result_parseAuthMode _ _),
    mem_process_bind h rfl, mem_guarded h, Meet.mem_run h]
  rfl

theorem Zoom.mem_main (h : event.Inner) : event ∈ (Zoom.main environ b joined).events ↔
    consentGranted environ ∧ meetingUrlOf environ ≠ [] ∧ GetsPage b .anonymous ∧
      InPage environ b .anonymous event := by
  unfold Zoom.main
  rw [mem_process_bind h (result_resolveBotName _), mem_process_bind h rfl, mem_guarded h,
    Zoom.mem_run h]

end Joins

def MainEvent.isLaunch : MainEvent → Bool
  | .launch _ => true
  | _ => false

def MainEvent.isPage : MainEvent → Bool
  | .page => true
  | _ => false

def MainEvent.isClose : MainEvent → Bool
  | .close => true
  | _ => false

/-- What holds of a process, whatever its browser, its pages and its recorder do. -/
structure ProcessContract (environ : Environ) (b : BrowserRun) (mode : AuthMode)
    (x : Process BotExit) : Prop where
  inOrder : browserUse.run .idle x.events = some .reported
  permitted : ∀ event ∈ x.events, MainPermitted environ b mode event
  launches : x.events.countP MainEvent.isLaunch ≤ 1
  pages : .page ∈ x.events ↔
    consentGranted environ ∧ meetingUrlOf environ ≠ [] ∧ GetsPage b mode
  joins : ∀ url, .join url ∈ x.events ↔ consentGranted environ ∧ meetingUrlOf environ ≠ [] ∧
    url = meetingUrlOf environ ∧ Reaches environ b mode
  /-- `close` is called once for a browser whose page was handed out, and for no other. -/
  closes : x.events.countP MainEvent.isClose = x.events.countP MainEvent.isPage
  closed : .closed ∈ x.events ↔ .page ∈ x.events ∧ Closes b mode
  /-- Whatever was started, the exit of Playwright is behind it. -/
  exits : ∀ dir, .launch dir ∈ x.events → .exit ∈ x.events
  /-- The recorder is started only behind the join of the meeting. -/
  recorded : ∀ before succeeds after, x.events = before ++ .bot (.recorderStart succeeds) :: after →
    .join (meetingUrlOf environ) ∈ before
  answers : Answers environ x

/-- The monitor is in a meeting only behind a join. -/
theorem join_mem_of_run {events : List MainEvent} (h : browserUse.run .idle events = some .joined) :
    ∃ url, .join url ∈ events := by
  obtain ⟨event, hevent, u, v, hstep, hu, hv⟩ :=
    browserUse.exists_event_of_run (P := fun phase => phase = .joined) h nofun rfl
  cases BrowserStep.of_step hstep with
  | log => exact absurd hv hu
  | meeting => exact absurd rfl hu
  | join url => exact ⟨url, hevent⟩
  | _ => cases hv

/-- One launch, as long as the monitor is idle. -/
theorem countP_isLaunch_le {phase t : BrowserPhase} {events : List MainEvent}
    (h : browserUse.run phase events = some t) : events.countP MainEvent.isLaunch ≤ 1 := by
  have hcount := browserUse.countP_le_of_run (fun phase => if phase = .idle then 1 else 0)
    (p := MainEvent.isLaunch) ?_ h
  · split_ifs at hcount <;> omega
  · intro s e t hstep
    cases BrowserStep.of_step hstep with
    | log => exact le_rfl
    | launch => exact le_rfl
    | _ => exact Nat.zero_le _

theorem countP_isClose {events : List MainEvent} (h : browserUse.run .idle events = some .reported) :
    events.countP MainEvent.isClose = events.countP MainEvent.isPage := by
  have hcount := browserUse.countP_add_of_run
    (fun phase => if phase = .up ∨ phase = .joined then 1 else 0)
    (p := MainEvent.isClose) (q := MainEvent.isPage) ?_ h
  · simpa using hcount
  · intro s e t hstep
    cases BrowserStep.of_step hstep with
    | log => rfl
    | meeting event => cases event <;> rfl
    | exit h => simp [h.1, h.2, MainEvent.isClose, MainEvent.isPage]
    | result h => rcases h with rfl | rfl <;> rfl
    | _ => rfl

/-- From a launch on, the result is behind the exit. -/
theorem exit_mem_of_launch_mem {events : List MainEvent}
    (h : browserUse.run .idle events = some .reported) {dir : Option Text}
    (hlaunch : .launch dir ∈ events) : .exit ∈ events := by
  obtain ⟨before, after, rfl⟩ := List.append_of_mem hlaunch
  obtain ⟨u, -, hafter⟩ := browserUse.run_append_eq_some.1 h
  obtain ⟨v, hstep, hrest⟩ := browserUse.run_cons_eq_some.1 hafter
  obtain rfl : v = .starting := by
    cases BrowserStep.of_step hstep
    rfl
  obtain ⟨event, hevent, w, z, hlast, hw, hz⟩ := browserUse.exists_event_of_run
    (P := fun phase => phase = .idle ∨ phase = .exited ∨ phase = .reported) hrest (by decide)
    (by decide)
  have hmem := List.mem_append_right before (List.mem_cons_of_mem (.launch dir) hevent)
  cases BrowserStep.of_step hlast with
  | log => exact absurd hz hw
  | exit => exact hmem
  | result h => exact absurd (h.imp_right .inl) hw
  | _ => simp at hz

theorem processContract_of {environ : Environ} {b : BrowserRun} {mode : AuthMode}
    {x : Process BotExit} (hreports : Reports .idle x) (hpermitted : x.Emits (MainPermitted environ b mode))
    (hinner : ∀ event : MainEvent, event.Inner → (event ∈ x.events ↔ consentGranted environ ∧
      meetingUrlOf environ ≠ [] ∧ GetsPage b mode ∧ InPage environ b mode event))
    (hanswers : Answers environ x) : ProcessContract environ b mode x := by
  obtain ⟨t, hrun, hreturns, hraises⟩ := hreports
  obtain ⟨report, hreport, hexit⟩ := hanswers.reported
  obtain rfl := hreturns _ hexit
  have hpages : .page ∈ x.events ↔
      consentGranted environ ∧ meetingUrlOf environ ≠ [] ∧ GetsPage b mode := by
    rw [hinner .page trivial, InPage, and_true]
  refine ⟨hrun, hpermitted, countP_isLaunch_le hrun, hpages, ?_, countP_isClose hrun, ?_,
    fun _ => exit_mem_of_launch_mem hrun, ?_, hanswers⟩
  · intro url
    rw [hinner (.join url) trivial]
    exact ⟨fun ⟨hconsent, hne, hpage, hurl, hsession⟩ => ⟨hconsent, hne, hurl, hpage, hsession⟩,
      fun ⟨hconsent, hne, hurl, hreaches⟩ =>
        ⟨hconsent, hne, hreaches.page, hurl, hreaches.session⟩⟩
  · rw [hpages, hinner .closed trivial, InPage]
    tauto
  · intro before succeeds after hevents
    rw [hevents] at hrun
    obtain ⟨phase, hbefore, hafter⟩ := browserUse.run_append_eq_some.1 hrun
    obtain ⟨ψ, hstep, -⟩ := browserUse.run_cons_eq_some.1 hafter
    obtain rfl : phase = .joined := by
      cases BrowserStep.of_step hstep
      rfl
    obtain ⟨url, hurl⟩ := join_mem_of_run hbefore
    have hmem : .join url ∈ x.events := by
      rw [hevents]
      exact List.mem_append_left _ hurl
    obtain ⟨-, rfl, -⟩ := hpermitted _ hmem
    exact hurl

/-- The processes of both bots keep the contract, whatever happens on the way: a browser is started at
most once, only with an acknowledged consent, and in production under the bot's own name; `close` is
called once its page was handed out, and Playwright is left behind it in any case; the recorder runs only
in the meeting of the call; one result goes out at the end, with the exit code of the process, which is 6
exactly when the consent is missing. -/
theorem main_contract (environ : Environ) (b : BrowserRun) (joined : Bot BotOutcome) :
    (Meet.Joins environ joined →
      ProcessContract environ b (authMode environ) (Meet.main environ b joined)) ∧
    (Zoom.Joins environ joined → ProcessContract environ b .anonymous (Zoom.main environ b joined)) :=
  ⟨fun h => processContract_of Meet.main_reports Meet.main_permitted (fun _ => Meet.mem_main)
      (Meet.answers_main h),
    fun h => processContract_of Zoom.main_reports Zoom.main_permitted (fun _ => Zoom.mem_main)
      (Zoom.answers_main h)⟩

/-! ### A call that is recorded to its end -/

/-- The environment of a bot that is started by hand. -/
def handEnviron : Environ := fun key =>
  [("CONSENT_ACK".toList, " YES ".toList),
    ("MEETING_URL".toList, "https://meet.google.com/abc-defg-hij\n".toList)].lookup key

def guestJoin : MeetJoin := { sampleJoin with authenticated := false, botName := botNameFixed }

def guestPolls : List MeetPoll :=
  [admittedPoll 2, { admittedPoll 4 with ended := .ok (true, "call ended: The call has ended") }]

def guestConfig (environ : Environ) : LoopConfig :=
  ⟨callIdOf environ, timeoutsFromEnv environ, fun _ => true⟩

def guestRun (environ : Environ) : JoinRun :=
  Meet.joinAndRecord (guestConfig environ) 0 true (.ok ⟨false, 0, none⟩) guestJoin guestPolls

def guestJoined (environ : Environ) (h : (runEnd (guestRun environ).2 (.ok ())).isSome) :
    Bot BotOutcome := ⟨(guestRun environ).1, (runEnd (guestRun environ).2 (.ok ())).get h⟩

theorem joins_guestJoined {environ : Environ} (h : (runEnd (guestRun environ).2 (.ok ())).isSome)
    (hmode : authMode environ = .anonymous) : Meet.Joins environ (guestJoined environ h) :=
  ⟨guestConfig environ, 0, true, .ok ⟨false, 0, none⟩, guestJoin, guestPolls, rfl, rfl, rfl,
    iff_of_false nofun (by simp [hmode]), rfl, (Option.some_get h).symm⟩

theorem handEnviron_isSome : (runEnd (guestRun handEnviron).2 (.ok ())).isSome := by
  decide +kernel

theorem main_contract_guestJoined :
    ProcessContract handEnviron smoothBrowser .anonymous
        (Meet.main handEnviron smoothBrowser (guestJoined handEnviron handEnviron_isSome)) ∧
      .join "https://meet.google.com/abc-defg-hij".toList ∈
        (Meet.main handEnviron smoothBrowser (guestJoined handEnviron handEnviron_isSome)).events := by
  have hcontract := (main_contract handEnviron smoothBrowser _).1
    (joins_guestJoined handEnviron_isSome (by decide))
  have hpage : GetsPage smoothBrowser .anonymous := ⟨rfl, nofun, rfl, rfl, rfl, rfl⟩
  exact ⟨hcontract, (hcontract.joins _).2 ⟨by decide, by decide, by decide, hpage, nofun⟩⟩

end Notetaker

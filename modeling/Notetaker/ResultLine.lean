import Notetaker.BotMain
import Notetaker.StreamOutput

/-!
# The result line in the log stream

`_emit_result` puts the payload on a line of the log, and the runner keeps the last line that parses as a
result. What the bot logs before is overwritten, unless a line makes the reader raise. Nothing is logged
behind the result line when `main` refuses; otherwise one more record quotes the reason of the outcome,
which may quote the meeting page.
-/

open PythonText PythonFloat PythonUuid JsonText

namespace Notetaker

def resultPayload (callId : Text) (report : BotReport) : ResultPayload :=
  (report.payload callId).map toJsonMember

/-! ## What a process prints -/

def MainEvent.record : MainEvent → Option LogRecord
  | .bot (.log record) => some record
  | .result callId report => some (resultRecord callId report)
  | _ => none

/-- What `_emit_result` is called with. -/
def MainEvent.sent : MainEvent → Option (Text × BotReport)
  | .result callId report => some (callId, report)
  | _ => none

section Output

variable (lim : Limits) (isAlnum : Char → Bool) (upper : Text → Text) (environ : Environ)
  (stamps : ℕ → Stamp)

def shownRecords (events : List MainEvent) : List LogRecord :=
  (events.filterMap MainEvent.record).filter fun record => configureLogging upper environ ≤ record.level

def botOutput (x : Process BotExit) : List Text := printed stamps (shownRecords upper environ x.events)

/-- One result goes out, and the runner returns the payload that the bot has serialised. -/
def ResultSurvives (x : Process BotExit) : Prop :=
  ∃ callId report, x.events.filterMap MainEvent.sent = [(callId, report)] ∧
    (streamOutput lim isAlnum (botOutput upper environ stamps x)).returned =
      some (some (resultPayload callId report))

/-- Every line can be read, and the reason quotes no other result. -/
structure Transmissible (x : Process BotExit) : Prop where
  readable : ∀ raw ∈ botOutput upper environ stamps x, Readable lim isAlnum raw
  unquoted : ∀ callId report, .result callId report ∈ x.events →
    ∀ quoted ∈ lastResult lim isAlnum (physicalLines report.reason),
      quoted = resultPayload callId report

end Output

section Lines

variable {lim : Limits} {isAlnum : Char → Bool} {stamp : Stamp} {callId : Text} {report : BotReport}

theorem newline_notMem_recordHead {logger : Text} (hlogger : '\n' ∉ logger) :
    '\n' ∉ recordHead stamp infoLevel logger :=
  notMem_recordHead rfl (by decide) stamp (by decide) hlogger

theorem unmarked_recordHead {logger : Text} (hlogger : 'R' ∉ logger) :
    Unmarked (recordHead stamp infoLevel logger) := by
  refine ⟨notMem_recordHead rfl (by decide) stamp (by decide) hlogger, ?_⟩
  obtain ⟨before, hbefore⟩ := recordHead_eq stamp infoLevel logger
  rw [hbefore, List.getLast?_concat]
  decide

theorem fits_payload : ∀ m ∈ report.payload callId, m.2.Fits lim := by
  have hcode : (natText report.exitCode.code.natAbs).length = 1 := by
    cases report.exitCode <;> decide
  have hreason : Scalar.Fits lim ((report.endReason.map fun reason =>
      Scalar.str reason.text).getD .null) := by
    cases report.endReason <;> trivial
  intro m hm
  simp only [BotReport.payload, List.mem_cons, List.not_mem_nil, or_false] at hm
  rcases hm with rfl | rfl | rfl
  · trivial
  · exact hreason
  · change (natText report.exitCode.code.natAbs).length ≤ lim.intDigits
    rw [hcode]
    exact lim.intDigits_pos

theorem loads_payload (lim : Limits) (callId : Text) (report : BotReport) :
    loads lim (dumps (report.payload callId)) = .ok (.obj (resultPayload callId report)) := by
  have hkeys : ((report.payload callId).map Prod.fst).Nodup := by
    change ["call_id".toList, "end_reason".toList, "exit_code".toList].Nodup
    decide
  exact loads_dumps lim hkeys fits_payload

/-- A marked dictionary behind an unmarked head is one line, and reads as the dictionary. -/
theorem physicalLines_marked (lim : Limits) (isAlnum : Char → Bool) {head : Text}
    (hunmarked : Unmarked head) (hhead : '\n' ∉ head) {ms : List (Text × Scalar)}
    (hload : loads lim (dumps ms) = .ok (.obj (ms.map toJsonMember))) :
    ∃ raw, physicalLines (head ++ (resultMark ++ dumps ms)) = [raw] ∧
      parseResultLine lim isAlnum (rstrip raw) = .ok (some (ms.map toJsonMember)) := by
  obtain ⟨mid, hmid⟩ : ∃ mid, mid = ", ".toList.intercalate (ms.map dumpsMember) := ⟨_, rfl⟩
  have hnewline : '\n' ∉ mid := hmid ▸ newline_notMem_members ms
  have hdumps : dumps ms = '{' :: (mid ++ ['}']) := by
    rw [dumps, hmid]
    rfl
  rw [hdumps] at hload ⊢
  refine ⟨_, physicalLines_eq_singleton ?_, ?_⟩
  · have hmark : '\n' ∉ resultMark := by decide
    simp [hhead, hmark, hnewline]
  · have hsplit : head ++ (resultMark ++ '{' :: (mid ++ ['}'])) =
        (head ++ (resultMark ++ '{' :: mid)) ++ ['}'] := by simp
    rw [hsplit, rstrip_append_singleton _ (by decide), ← hsplit, hunmarked.parseResultLine_append]
    exact parseResultLine_of_loads hnewline hload

theorem physicalLines_resultRecord (lim : Limits) (isAlnum : Char → Bool) (stamp : Stamp)
    (callId : Text) (report : BotReport) :
    ∃ raw, physicalLines (formatRecord stamp (resultRecord callId report)) = [raw] ∧
      parseResultLine lim isAlnum (rstrip raw) = .ok (some (resultPayload callId report)) :=
  have hunmarked : Unmarked (recordHead stamp infoLevel resultLogger) :=
    unmarked_recordHead (by decide)
  physicalLines_marked lim isAlnum hunmarked (newline_notMem_recordHead (by decide))
    (loads_payload lim callId report)

theorem finishHead_clean (report : BotReport) :
    ∃ before, finishHead report = before ++ ['='] ∧ 'R' ∉ finishHead report ∧
      '\n' ∉ finishHead report := by
  obtain ⟨code, hcode⟩ : ∃ code, code = intText report.exitCode.code := ⟨_, rfl⟩
  obtain ⟨reason, hreason⟩ :
      ∃ reason, reason = (report.endReason.map EndReason.text).getD "None".toList := ⟨_, rfl⟩
  have hcodes : 'R' ∉ code ∧ '\n' ∉ code := by
    rw [hcode]
    cases report.exitCode <;> decide
  have hreasons : 'R' ∉ reason ∧ '\n' ∉ reason := by
    rw [hreason]
    rcases report.endReason with _ | reason
    · decide
    · cases reason <;> decide
  have hhead : finishHead report =
      "bot finished: exit_code=".toList ++ code ++ " end_reason=".toList ++ reason ++
        " reason".toList ++ ['='] := by
    rw [finishHead, hcode, hreason]
    simp [concat]
  have hfixed : 'R' ∉ "bot finished: exit_code=".toList ∧ '\n' ∉ "bot finished: exit_code=".toList ∧
      'R' ∉ " end_reason=".toList ∧ '\n' ∉ " end_reason=".toList ∧ 'R' ∉ " reason".toList ∧
      '\n' ∉ " reason".toList ∧ 'R' ∉ ['='] ∧ '\n' ∉ ['='] := by decide
  obtain ⟨h1, h2, h3, h4, h5, h6, h7, h8⟩ := hfixed
  refine ⟨_, hhead, ?_, ?_⟩
  · rw [hhead]
    simp only [List.mem_append, not_or]
    exact ⟨⟨⟨⟨⟨h1, hcodes.1⟩, h3⟩, hreasons.1⟩, h5⟩, h7⟩
  · rw [hhead]
    simp only [List.mem_append, not_or]
    exact ⟨⟨⟨⟨⟨h2, hcodes.2⟩, h4⟩, hreasons.2⟩, h6⟩, h8⟩

theorem lastResult_finishRecord {logger : Text} (hR' : 'R' ∉ logger) (hnewline' : '\n' ∉ logger) :
    lastResult lim isAlnum (physicalLines (formatRecord stamp
      { finishRecord report with logger := logger })) =
      lastResult lim isAlnum (physicalLines report.reason) := by
  obtain ⟨before, hbefore, hR, hnewline⟩ := finishHead_clean report
  obtain ⟨head, hhead⟩ : ∃ head, head = recordHead stamp infoLevel logger ++ finishHead report :=
    ⟨_, rfl⟩
  have hline : formatRecord stamp { finishRecord report with logger := logger } =
      head ++ report.reason := by
    rw [formatRecord, finishRecord, hhead, List.append_assoc]
  have hlast : head = recordHead stamp infoLevel logger ++ before ++ ['='] := by
    rw [hhead, hbefore, List.append_assoc]
  have hunmarked : Unmarked head := by
    constructor
    · rw [hhead, List.mem_append, not_or]
      exact ⟨(unmarked_recordHead hR').notMem, hR⟩
    · rw [hlast, List.getLast?_concat]
      decide
  have hnone : '\n' ∉ head := by
    rw [hhead, List.mem_append, not_or]
    exact ⟨newline_notMem_recordHead hnewline', hnewline⟩
  rw [hline, physicalLines_append hnone]
  cases physicalLines report.reason with
  | nil => rfl
  | cons first rest =>
      have hstrip : rstrip (head ++ first) = head ++ rstrip first := by
        rw [hlast]
        exact rstrip_append _ first (by decide)
      rw [List.modifyHead_cons, lastResult, hstrip, hunmarked.parseResultLine_append, lastResult]

end Lines

/-! ## How a process ends -/

def Unsent {α : Type} (x : Process α) : Prop := x.Emits fun event => event.sent = none

/-- The result is the last thing that a process logs, or the record of the reason comes behind it. -/
def EndsWith (callId : Text) (report : BotReport) (x : Process BotExit) : Prop :=
  ∃ before after, x.events = before ++ .result callId report :: after ∧
    (∀ event ∈ before, event.sent = none) ∧
    (after = [] ∧ report.outcome = none ∨
      ∃ logger, 'R' ∉ logger ∧ '\n' ∉ logger ∧
        after = [.bot (.log { finishRecord report with logger := logger })])

section Ends

variable {environ : Environ} {b : BrowserRun} {joined : Bot BotOutcome} {callId : Text}
  {report : BotReport}

theorem unsent_process {α : Type} (x : Bot α) : Unsent (process x) := by
  intro event hevent
  obtain ⟨e, -, rfl⟩ := List.mem_map.1 hevent
  rfl

theorem unsent_emitAll (records : List LogRecord) : Unsent (emitAll records) := by
  intro event hevent
  obtain ⟨record, -, rfl⟩ := List.mem_map.1 hevent
  rfl

theorem Unsent.ensure {α : Type} {x : Process α} {last : Process Unit} (hx : Unsent x)
    (hlast : Unsent last) : Unsent (x.ensure last) := fun event hevent =>
  (List.mem_append.1 hevent).elim (hx event) (hlast event)

theorem unsent_joinMeeting : Unsent (joinMeeting environ joined) :=
  EventLog.Emits.emit_bind rfl (unsent_process joined)

theorem unsent_runAnonymous : Unsent (runAnonymous environ b joined) := by
  have hlaunch : Unsent (launchAnonymous b) :=
    EventLog.Emits.read_bind fun _ _ => EventLog.Emits.emit_bind rfl
      (EventLog.Emits.read_bind fun _ _ => EventLog.Emits.read_bind fun _ _ =>
        EventLog.Emits.read_bind fun _ _ => EventLog.Emits.emit rfl)
  have hclose : Unsent (closeAnonymous b) :=
    EventLog.Emits.emit_bind rfl (EventLog.Emits.read_bind fun _ _ =>
      EventLog.Emits.read_bind fun _ _ => EventLog.Emits.emit rfl)
  exact EventLog.Emits.bind hlaunch fun _ _ => unsent_joinMeeting.ensure hclose

theorem Meet.unsent_runAuthenticated : Unsent (Meet.runAuthenticated environ b joined) := by
  unfold Meet.runAuthenticated
  split
  · exact unsent_process _
  · have hlaunch : Unsent (launchAuthenticated b (profileDirOf environ)) := by
      refine EventLog.Emits.read_bind fun _ _ => EventLog.Emits.emit_bind rfl ?_
      refine EventLog.Emits.read_bind fun _ _ => EventLog.Emits.read_bind fun found _ => ?_
      cases found with
      | true => exact EventLog.Emits.emit rfl
      | false => exact EventLog.Emits.read_bind fun _ _ => EventLog.Emits.emit rfl
    have hclose : Unsent (closeAuthenticated b) :=
      EventLog.Emits.emit_bind rfl (EventLog.Emits.read_bind fun _ _ => EventLog.Emits.emit rfl)
    have hcheck : Unsent (checkSession environ b) :=
      EventLog.Emits.emit_bind rfl (unsent_process _)
    have hbody : Unsent (joinSignedIn environ b joined) := by
      refine EventLog.Emits.bind hcheck fun error _ => ?_
      cases error with
      | some error => exact EventLog.Emits.pure
      | none => exact unsent_joinMeeting
    exact EventLog.Emits.bind hlaunch fun _ _ => hbody.ensure hclose

theorem unsent_withPlaywright {body : Process BotOutcome} (h : Unsent body) :
    Unsent (withPlaywright b body) :=
  EventLog.Emits.read_bind fun _ _ => h.ensure (EventLog.Emits.emit_bind rfl EventLog.Emits.read)

theorem Meet.unsent_run (mode : AuthMode) : Unsent (Meet.run environ b joined mode) := by
  apply unsent_withPlaywright
  cases mode with
  | anonymous => exact unsent_runAnonymous
  | authenticated => exact Meet.unsent_runAuthenticated

theorem EndsWith.bind {α : Type} {x : Process α} (hx : Unsent x) {a : α} (hresult : x.result = .ok a)
    {f : α → Process BotExit} (h : EndsWith callId report (f a)) :
    EndsWith callId report (x >>= f) := by
  obtain ⟨before, after, hevents, hbefore, hafter⟩ := h
  refine ⟨x.events ++ before, after, ?_, ?_, hafter⟩
  · rw [EventLog.bind_of_ok hresult, List.append_assoc, ← hevents]
  · intro event hevent
    exact (List.mem_append.1 hevent).elim (hx event) (hbefore event)

/-- What `main` reports, of a run behind its two checks. -/
def mainReport (environ : Environ) (b : BrowserRun) (run : Process BotOutcome) : BotReport :=
  if consentGranted environ = false then ⟨.consentMissing, none⟩
  else if meetingUrlOf environ = [] then ⟨.botError, none⟩
  else exitReport run.result (checkRecording b.wav (silenceFloorFromEnv environ))

theorem endsWith_refuse (logger message : Text) (exitCode : BotExit) :
    EndsWith (callIdOf environ) ⟨exitCode, none⟩ (refuse environ logger message exitCode) :=
  EndsWith.bind (unsent_process _) rfl ⟨[], [], rfl, by simp, .inl ⟨rfl, rfl⟩⟩

theorem endsWith_guarded {logger : Text} (hR : 'R' ∉ logger) (hnewline : '\n' ∉ logger)
    {run : Process BotOutcome} (hrun : Unsent run) :
    EndsWith (callIdOf environ) (mainReport environ b run) (guarded environ b logger run) := by
  unfold guarded mainReport
  split_ifs
  · exact endsWith_refuse _ _ _
  · exact endsWith_refuse _ _ _
  · have hcaught : Unsent (caught run) := hrun
    have hlogged : (endRecords b logger (checkRecording b.wav (silenceFloorFromEnv environ))
        run.result).result = .ok () := by
      cases run.result <;> rfl
    have hunsent : Unsent (endRecords b logger (checkRecording b.wav (silenceFloorFromEnv environ))
        run.result) := by
      cases run.result with
      | ok outcome => exact unsent_emitAll _
      | error e => exact unsent_process _
    exact EndsWith.bind hcaught rfl (EndsWith.bind hunsent hlogged
      ⟨[], _, rfl, by simp, .inr ⟨logger, hR, hnewline, rfl⟩⟩)

theorem Meet.endsWith_main : EndsWith (callIdOf environ)
    (mainReport environ b (Meet.run environ b joined (authMode environ)))
    (Meet.main environ b joined) :=
  EndsWith.bind (unsent_process _) (result_resolveBotName _) <|
    EndsWith.bind (unsent_process _) (result_parseAuthMode _ _) <|
      EndsWith.bind (unsent_process _) rfl
        (endsWith_guarded (by decide) (by decide) (Meet.unsent_run _))

theorem Zoom.endsWith_main : EndsWith (callIdOf environ)
    (mainReport environ b (Zoom.run environ b joined)) (Zoom.main environ b joined) := by
  have hrun : Unsent (Zoom.run environ b joined) := unsent_withPlaywright unsent_runAnonymous
  exact EndsWith.bind (unsent_process _) (result_resolveBotName _) (EndsWith.bind (unsent_process _)
    rfl (endsWith_guarded (by decide) (by decide) hrun))

end Ends

section Survival

variable {lim : Limits} {isAlnum : Char → Bool} {upper : Text → Text} {environ : Environ}
  {stamps : ℕ → Stamp} {x : Process BotExit} {callId : Text} {report : BotReport}

theorem filterMap_sent (h : EndsWith callId report x) :
    x.events.filterMap MainEvent.sent = [(callId, report)] := by
  obtain ⟨before, after, hevents, hbefore, hafter⟩ := h
  have hnone : before.filterMap MainEvent.sent = [] := List.filterMap_eq_nil_iff.2 hbefore
  have hlast : after.filterMap MainEvent.sent = [] := by
    rcases hafter with ⟨rfl, -⟩ | ⟨logger, -, -, rfl⟩ <;> rfl
  have hresult : (MainEvent.result callId report).sent = some (callId, report) := rfl
  rw [hevents, List.filterMap_append, hnone, List.filterMap_cons_some hresult, hlast, List.nil_append]

theorem EndsWith.eq_of_result_mem (h : EndsWith callId report x) {callId' : Text}
    {report' : BotReport} (hresult : .result callId' report' ∈ x.events) :
    callId' = callId ∧ report' = report := by
  have hfound : (callId', report') ∈ x.events.filterMap MainEvent.sent :=
    List.mem_filterMap.2 ⟨_, hresult, rfl⟩
  rw [filterMap_sent h, List.mem_singleton, Prod.mk.injEq] at hfound
  exact hfound

theorem lastResult_startupFailed :
    lastResult lim isAlnum (physicalLines "startup failed".toList) = none := by
  have hlines : physicalLines "startup failed".toList = ["startup failed".toList] :=
    physicalLines_eq_singleton (by decide)
  have hunmarked : Unmarked "startup failed".toList := ⟨by decide, by decide⟩
  have hstrip : rstrip "startup failed".toList = "startup failed".toList ++ [] := by decide
  rw [hlines, lastResult, hstrip, hunmarked.parseResultLine_append]
  rfl

theorem exists_shownRecords (hinfo : configureLogging upper environ ≤ infoLevel)
    (h : EndsWith callId report x) :
    ∃ before after, shownRecords upper environ x.events = before ++ resultRecord callId report :: after ∧
      ∀ stamps, lastResult lim isAlnum (printed stamps after) =
        lastResult lim isAlnum (physicalLines report.reason) := by
  obtain ⟨before, after, hevents, -, hafter⟩ := h
  have hshown : configureLogging upper environ ≤ (resultRecord callId report).level := hinfo
  have hrecord : (MainEvent.result callId report).record = some (resultRecord callId report) := rfl
  have hsplit : shownRecords upper environ x.events = shownRecords upper environ before ++
      resultRecord callId report :: shownRecords upper environ after := by
    unfold shownRecords
    rw [hevents, List.filterMap_append, List.filterMap_cons_some hrecord, List.filter_append,
      List.filter_cons_of_pos (by simpa using hshown)]
  refine ⟨_, _, hsplit, fun stamps => ?_⟩
  rcases hafter with ⟨rfl, houtcome⟩ | ⟨logger, hR, hnewline, rfl⟩
  · have hreason : report.reason = "startup failed".toList := by rw [BotReport.reason, houtcome]; rfl
    rw [hreason, lastResult_startupFailed]
    rfl
  · have hlevel : configureLogging upper environ ≤
        ({ finishRecord report with logger := logger } : LogRecord).level := hinfo
    have hrecords : shownRecords upper environ
        [.bot (.log { finishRecord report with logger := logger })] =
          [{ finishRecord report with logger := logger }] :=
      List.filter_cons_of_pos (by simpa using hlevel)
    rw [hrecords, printed, printed, List.append_nil, lastResult_finishRecord hR hnewline]

theorem lastResult_botOutput (hinfo : configureLogging upper environ ≤ infoLevel)
    (h : EndsWith callId report x) :
    lastResult lim isAlnum (botOutput upper environ stamps x) =
      (lastResult lim isAlnum (physicalLines report.reason)).or
        (some (resultPayload callId report)) := by
  obtain ⟨before, after, hrecords, hafter⟩ := exists_shownRecords hinfo h
  unfold botOutput
  rw [hrecords, printed_append, lastResult_append, printed, lastResult_append, hafter]
  obtain ⟨raw, hraw, hparse⟩ := physicalLines_resultRecord lim isAlnum
    (stamps (0 + before.length)) callId report
  rw [hraw, lastResult, lastResult, hparse, Option.or_assoc, Option.or_assoc]
  rfl

theorem resultSurvives_of_endsWith (hinfo : configureLogging upper environ ≤ infoLevel)
    (h : EndsWith callId report x) :
    ResultSurvives lim isAlnum upper environ stamps x ↔
      Transmissible lim isAlnum upper environ stamps x := by
  have hsent := filterMap_sent h
  have hsurvives : ResultSurvives lim isAlnum upper environ stamps x ↔
      (∀ raw ∈ botOutput upper environ stamps x, Readable lim isAlnum raw) ∧
        (lastResult lim isAlnum (physicalLines report.reason)).or
          (some (resultPayload callId report)) = some (resultPayload callId report) := by
    rw [← lastResult_botOutput hinfo h, ← returned_streamOutput_iff]
    constructor
    · rintro ⟨callId', report', hsent', hreturned⟩
      rw [hsent, List.cons.injEq, Prod.mk.injEq] at hsent'
      obtain ⟨⟨rfl, rfl⟩, -⟩ := hsent'
      exact hreturned
    · exact fun hreturned => ⟨callId, report, hsent, hreturned⟩
  rw [hsurvives]
  constructor
  · rintro ⟨hreadable, hlast⟩
    refine ⟨hreadable, fun callId' report' hresult quoted hquoted => ?_⟩
    obtain ⟨rfl, rfl⟩ := h.eq_of_result_mem hresult
    rw [hquoted] at hlast
    exact Option.some.inj hlast
  · rintro ⟨hreadable, hunquoted⟩
    refine ⟨hreadable, ?_⟩
    obtain ⟨before, after, hevents, -⟩ := h
    have hresult : .result callId report ∈ x.events := by
      rw [hevents]
      simp
    cases hquoted : lastResult lim isAlnum (physicalLines report.reason) with
    | none => rfl
    | some quoted => rw [hunquoted callId report hresult quoted hquoted]; rfl

end Survival

def quotedMembers : List (Text × Scalar) := [("end_reason".toList, .str "alone".toList)]

def noticeText : Text :=
  "You've been removed from the meeting ".toList ++ (resultMark ++ dumps quotedMembers)

def noticeDocument : Document where
  nodes := [⟨none, [], noticeText, [], none, noticeText, [], true⟩]
  frames := []

/-- The bot is in the call, and then the notice appears. -/
def noticePolls : List MeetPoll :=
  [admittedPoll 2, Meet.observe noticeDocument.page (fun _ => false) (samplePoll 4)]

def noticeRun : JoinRun :=
  Meet.joinAndRecord sampleConfig 0 true (.ok ⟨false, 0, none⟩)
    { sampleJoin with authenticated := false, botName := botNameFixed } noticePolls

theorem noticeRun_isSome : (runEnd noticeRun.2 (.ok ())).isSome := by decide +kernel

def noticeJoined : Bot BotOutcome := ⟨noticeRun.1, (runEnd noticeRun.2 (.ok ())).get noticeRun_isSome⟩

def noticeEnviron : Environ := fun key =>
  [("CONSENT_ACK".toList, "true".toList),
    ("MEETING_URL".toList, "https://meet.google.com/abc-defg-hij".toList)].lookup key

/-- What `is_removed` says about the page is the reason of the outcome. -/
def quotingReason : Text := "removed from call: ".toList ++ noticeText

theorem reason_mainReport_notice :
    (mainReport noticeEnviron smoothBrowser
      (Meet.run noticeEnviron smoothBrowser noticeJoined .anonymous)).reason = quotingReason := by
  decide +kernel

theorem lastResult_quotingReason (isAlnum : Char → Bool) :
    lastResult pythonLimits isAlnum (physicalLines quotingReason) =
      some (quotedMembers.map toJsonMember) := by
  have hhead : quotingReason = "removed from call: You've been removed from the meeting ".toList ++
      (resultMark ++ dumps quotedMembers) := rfl
  have hunmarked : Unmarked "removed from call: You've been removed from the meeting ".toList :=
    ⟨by decide, by decide⟩
  have hload : loads pythonLimits (dumps quotedMembers) =
      .ok (.obj (quotedMembers.map toJsonMember)) :=
    loads_dumps pythonLimits (by decide) (by simp [quotedMembers, Scalar.Fits])
  obtain ⟨raw, hraw, hparse⟩ := physicalLines_marked pythonLimits isAlnum hunmarked (by decide)
    hload
  rw [hhead, hraw]
  unfold lastResult
  rw [hparse]
  rfl

end Notetaker

import Notetaker.OutcomeAgreement
import Notetaker.WaitingRecords

/-!
# Whether the runner hears that a bot records

`on_recording` fires at the first line with the signal. The bot gives it with an `INFO` record when its
recorder has started. So the runner and the bot agree when `LOG_LEVEL` lets the record through, every
line up to it can be read, and no record before quotes the signal.
-/

open PythonText PythonFloat PythonUuid JsonText

namespace Notetaker

/-! ## Records that fire -/

section Records

variable (lim : Limits) (isAlnum : Char → Bool)

/-- A line of the record alone would fire. -/
def RecordFires (stamp : Stamp) (record : LogRecord) : Prop :=
  (streamOutput lim isAlnum (physicalLines (formatRecord stamp record))).recordingFired

variable {lim isAlnum} {stamps : ℕ → Stamp}

/-- The lines of records fire when one of the records does, and every line before can be read. -/
theorem recordingFired_printed_iff {records : List LogRecord} :
    (streamOutput lim isAlnum (printed stamps records)).recordingFired ↔
      ∃ pre record post, records = pre ++ record :: post ∧
        (∀ raw ∈ printed stamps pre, Readable lim isAlnum raw) ∧
        RecordFires lim isAlnum (stamps pre.length) record := by
  constructor
  · intro h
    induction records generalizing stamps with
    | nil => cases h
    | cons record records ih =>
        rw [printed, recordingFired_append] at h
        rcases h with h | ⟨hread, h⟩
        · exact ⟨[], record, records, rfl, by simp [printed], h⟩
        · obtain ⟨pre, record', post, rfl, hpre, hfires⟩ := ih h
          refine ⟨record :: pre, record', post, rfl, ?_, hfires⟩
          rw [printed]
          exact List.forall_mem_append.2 ⟨hread, hpre⟩
  · rintro ⟨pre, record, post, rfl, hpre, hfires⟩
    rw [printed_append, recordingFired_append, printed, recordingFired_append]
    right
    refine ⟨hpre, .inl ?_⟩
    rw [Nat.zero_add]
    exact hfires

theorem recordingFired_printed_append {before : List LogRecord} (after : List LogRecord)
    (h : (streamOutput lim isAlnum (printed stamps before)).recordingFired) :
    (streamOutput lim isAlnum (printed stamps (before ++ after))).recordingFired := by
  rw [printed_append, recordingFired_append]
  exact .inl h

theorem LogRecord.Own.not_fires {record : LogRecord} (h : record.Own) (stamp : Stamp) :
    ¬ RecordFires lim isAlnum stamp record := by
  apply not_recordingFired_of_infix
  intro raw hraw hsignal
  obtain ⟨before, hbefore⟩ := recordHead_eq stamp record.level record.logger
  have hhead : 'g' ∉ before := by
    have hg := notMem_recordHead rfl (by decide) stamp h.level h.logger
    rw [hbefore, List.mem_append, not_or] at hg
    exact hg.1
  have hformat : formatRecord stamp record = before ++ ' ' :: record.message := by
    rw [formatRecord, hbefore, List.append_assoc]
    rfl
  have hquiet : Signalless (formatRecord stamp record) := by
    rw [hformat]
    exact Signalless.append_space hhead h.message
  exact hquiet (hsignal.trans (infix_of_mem_physicalLines hraw))

theorem signal_startedRecord (stamp : Stamp) :
    recordingSignal isAlnum (rstrip (formatRecord stamp startedRecord)) := by
  obtain ⟨before, hbefore⟩ := recordHead_eq stamp infoLevel statesLogger
  have hstrip : rstrip (formatRecord stamp startedRecord) =
      before ++ [' '] ++ (signalText ++ []) := by
    have hsplit : formatRecord stamp startedRecord =
        (before ++ " recording starte".toList) ++ ['d'] := by
      change recordHead stamp infoLevel statesLogger ++ _ = _
      rw [hbefore, List.append_assoc, List.append_assoc]
      rfl
    rw [hsplit, rstrip_append_singleton _ (by decide), List.append_assoc, List.append_assoc]
    rfl
  rw [recordingSignal, hstrip]
  apply TextRegex.search_word (TextRegex.exact_pythonRegex isAlnum)
  · rw [List.getLast?_concat]
    rfl
  · rfl

theorem startedRecord_fires_iff (stamp : Stamp) :
    RecordFires lim isAlnum stamp startedRecord ↔
      ∀ raw ∈ physicalLines (formatRecord stamp startedRecord), Readable lim isAlnum raw := by
  have hlogger : '\n' ∉ statesLogger := by decide
  have hhead : '\n' ∉ recordHead stamp infoLevel statesLogger :=
    notMem_recordHead rfl (by decide) stamp (by decide) hlogger
  have hnewline : '\n' ∉ formatRecord stamp startedRecord := by
    rw [formatRecord, List.mem_append, not_or]
    exact ⟨hhead, by decide⟩
  rw [RecordFires, physicalLines_eq_singleton hnewline, recordingFired_singleton,
    List.forall_mem_singleton]
  exact and_iff_left (signal_startedRecord stamp)

end Records

/-! ## Runs -/

def BotEvent.startsRecorder : BotEvent → Bool
  | .recorderStart true => true
  | _ => false

def beforeStart (events : List BotEvent) : List BotEvent := events.takeWhile (!·.startsRecorder)

theorem BotEvent.Voices.not_starts {P : LogRecord → Prop} {event : BotEvent} (h : event.Voices P) :
    event.startsRecorder = false := by
  cases event with
  | recorderStart succeeds =>
      obtain rfl : succeeds = false := h
      rfl
  | _ => rfl

theorem BotEvent.Voices.mono {P Q : LogRecord → Prop} {event : BotEvent} (h : event.Voices P)
    (hPQ : ∀ record, P record → Q record) : event.Voices Q := by
  cases event with
  | log record => exact hPQ record h
  | _ => exact h

theorem beforeStart_append_start {head rest : List BotEvent}
    (hhead : ∀ event ∈ head, event.startsRecorder = false) :
    beforeStart (head ++ .recorderStart true :: rest) = head := by
  rw [beforeStart, List.takeWhile_append_of_pos fun event hevent => by simp [hhead event hevent]]
  simp [BotEvent.startsRecorder]

theorem beforeStart_of_forall {events : List BotEvent}
    (h : ∀ event ∈ events, event.startsRecorder = false) : beforeStart events = events :=
  List.takeWhile_eq_self_iff.2 fun event hevent => by simp [h event hevent]

namespace Meet

/-- The run from `s` quotes the record before it records. -/
def QuotesFrom (cfg : LoopConfig) (s : LoopState) (polls : List MeetPoll) (record : LogRecord) : Prop :=
  ∃ before poll after t, polls = before ++ poll :: after ∧
    ((loop cfg).run s before).2 = .polling t ∧ t.recordingStarted = false ∧
    record ∈ quotedRecords cfg t poll

/-- A run that does not record. -/
structure WaitingRun (quoted : LogRecord → Prop)
    (run : List BotEvent × PollingLoop.Status LoopState PageError BotOutcome) : Prop where
  voices : ∀ event ∈ run.1, event.Voices fun record => quoted record ∨ record.Own
  ends : ∀ outcome, run.2 = .returned outcome → outcome.Unrecorded

/-- A run that records, from behind its `head` on. -/
structure RecordingRun (quoted : LogRecord → Prop)
    (run : List BotEvent × PollingLoop.Status LoopState PageError BotOutcome) (head : List BotEvent)
    (pid : ℕ) (rest : List BotEvent) : Prop where
  events : run.1 = head ++ .recorderStart true :: .log (pidRecord pid) :: .log startedRecord :: rest
  voices : ∀ event ∈ head, event.Voices fun record => quoted record ∨ record.Own
  ends : ∀ outcome, run.2 = .returned outcome → outcome.recordingStarted

section Runs

variable {cfg : LoopConfig} {s t : LoopState} {poll : MeetPoll} {polls : List MeetPoll}

theorem QuotesFrom.cons {record : LogRecord} (h : QuotesFrom cfg t polls record)
    (hstep : ((loop cfg).step s poll).result = .ok (.inl t)) :
    QuotesFrom cfg s (poll :: polls) record := by
  obtain ⟨before, poll', after, u, rfl, hrun, hu, hrecord⟩ := h
  refine ⟨poll :: before, poll', after, u, rfl, ?_, hu, hrecord⟩
  rw [(loop cfg).run_cons_polling hstep]
  exact hrun

theorem quotesFrom_head {record : LogRecord} (hs : s.recordingStarted = false)
    (hrecord : record ∈ quotedRecords cfg s poll) (polls : List MeetPoll) :
    QuotesFrom cfg s (poll :: polls) record := ⟨[], poll, polls, s, rfl, rfl, hs, hrecord⟩

theorem recordingStarted_of_returned {outcome : BotOutcome} (ht : t.recordingStarted)
    (hrun : ((loop cfg).run t polls).2 = .returned outcome) : outcome.recordingStarted := by
  obtain ⟨before, poll, after, u, rfl, hbefore, hstep, -⟩ := (loop cfg).exists_returning_poll hrun
  have hu : u.recordingStarted := by
    refine (loop cfg).run_invariant (P := fun s => s.recordingStarted) ?_ ht hbefore
    intro s poll t hs hresult
    exact step_ensures hs _ hresult
  exact (step_ensures hu _ hstep).1

theorem run_waiting_or_recording (hid : 'g' ∉ cfg.callId) (hs : s.recordingStarted = false)
    (polls : List MeetPoll) :
    WaitingRun (QuotesFrom cfg s polls) ((loop cfg).run s polls) ∨
      ∃ head pid rest, RecordingRun (QuotesFrom cfg s polls) ((loop cfg).run s polls) head pid rest := by
  induction polls generalizing s with
  | nil =>
      left
      exact ⟨by simp [PollingLoop.run], by simp [PollingLoop.run]⟩
  | cons poll polls ih =>
      rcases step_waiting_or_begins hid hs poll with hturn | ⟨detail, pid, hbegins⟩
      · have hvoices : ∀ event ∈ ((loop cfg).step s poll).events, event.Voices fun record =>
            QuotesFrom cfg s (poll :: polls) record ∨ record.Own := by
          intro event hevent
          apply (hturn.voices event hevent).mono
          rintro record (hrecord | hown)
          · exact .inl (quotesFrom_head hs hrecord polls)
          · exact .inr hown
        cases hresult : ((loop cfg).step s poll).result with
        | error e =>
            left
            rw [(loop cfg).run_cons_raised hresult]
            refine ⟨hvoices, ?_⟩
            rintro outcome ⟨⟩
        | ok next =>
            cases next with
            | inr outcome =>
                left
                rw [(loop cfg).run_cons_returned hresult]
                refine ⟨hvoices, ?_⟩
                rintro outcome' ⟨⟩
                exact hturn.ends _ hresult
            | inl t =>
                have ht : t.recordingStarted = false := hturn.ends _ hresult
                have hmore : ∀ events : List BotEvent, (∀ event ∈ events, event.Voices fun record =>
                    QuotesFrom cfg t polls record ∨ record.Own) →
                    ∀ event ∈ ((loop cfg).step s poll).events ++ events, event.Voices fun record =>
                      QuotesFrom cfg s (poll :: polls) record ∨ record.Own := by
                  intro events hevents event hevent
                  rcases List.mem_append.1 hevent with hmem | hmem
                  · exact hvoices event hmem
                  · apply (hevents event hmem).mono
                    rintro record (hrecord | hown)
                    · exact .inl (hrecord.cons hresult)
                    · exact .inr hown
                rw [(loop cfg).run_cons_polling hresult]
                rcases ih ht with hwaiting | ⟨head, pid, rest, hrecording⟩
                · left
                  exact ⟨hmore _ hwaiting.voices, hwaiting.ends⟩
                · right
                  refine ⟨((loop cfg).step s poll).events ++ head, pid, rest, ?_, ?_, ?_⟩
                  · rw [hrecording.events, List.append_assoc]
                  · exact hmore _ hrecording.voices
                  · exact hrecording.ends
      · right
        obtain ⟨rest, hevents⟩ := hbegins.events
        obtain ⟨t, hresult, ht⟩ := hbegins.result
        rw [(loop cfg).run_cons_polling hresult]
        refine ⟨[.log (transitionRecord statesLogger cfg.callId "waiting_room" "in_call" detail)], pid,
          rest ++ ((loop cfg).run t polls).1, ?_, ?_, ?_⟩
        · change (step cfg s poll).events ++ _ = _
          rw [hevents]
          rfl
        · intro event hevent
          rw [List.mem_singleton.1 hevent]
          left
          apply quotesFrom_head hs
          rw [hbegins.quoted]
          exact List.mem_cons_self
        · exact fun outcome hrun => recordingStarted_of_returned ht hrun

end Runs

end Meet

/-! ## The runner and the bot -/

/-- The row behind `_on_recording` when nothing else writes it. -/
def rowAfterSignal (now : Timestamp) (row : Call) (stream : StreamState) : Call :=
  if stream.recordingFired then
    match CallService.markRecording row.id (some row) with
    | .ok changes => row.update changes now
    | .error _ => row
  else row

section Agreement

variable (lim : Limits) (isAlnum : Char → Bool) (stamps : ℕ → Stamp) (level : ℕ)
  (earlier : List LogRecord) (cfg : LoopConfig) (start : ℚ) (polls : List MeetPoll)

/-- What the runner has read once the bot has said so much. -/
def heard (events : List BotEvent) : StreamState :=
  streamOutput lim isAlnum (printed stamps (emitted level events))

/-- What the bot says until its loop ends, behind the records of its start. -/
def spoken : List BotEvent := earlier.map .log ++ (Meet.runCallLoop cfg start polls).1

def farewell (callId : Text) (outcome : BotOutcome) (check : RecordingStatus) (levels : Text) :
    List BotEvent :=
  let report := exitReport (.ok outcome) check
  (finalizeRecords outcome check levels ++ [resultRecord callId report, finishRecord report]).map .log

/-- The records that are not the bot's own, until it records. -/
def Quoted (record : LogRecord) : Prop :=
  record ∈ earlier ∨ Meet.QuotesFrom cfg (.initial start) polls record

/-- `on_recording` does not fire before the recorder starts. It has fired when the bot has said that it
records, and at the exit the call is recording exactly when the outcome tells so. -/
structure SignalAgreement (row : Call) (now : Timestamp) (check : RecordingStatus) (levels : Text) :
    Prop where
  before : ¬ (heard lim isAlnum stamps level
    (beforeStart (spoken earlier cfg start polls))).recordingFired
  after : ∀ head pid rest, spoken earlier cfg start polls =
      head ++ .recorderStart true :: .log (pidRecord pid) :: .log startedRecord :: rest →
    (∀ event ∈ head, event.startsRecorder = false) →
    (heard lim isAlnum stamps level
      (head ++ [.recorderStart true, .log (pidRecord pid), .log startedRecord])).recordingFired
  exit : ∀ outcome, (Meet.runCallLoop cfg start polls).2 = .returned outcome →
    ((rowAfterSignal now row (heard lim isAlnum stamps level
      (spoken earlier cfg start polls ++ farewell cfg.callId outcome check levels))).status =
        .recording ↔ outcome.recordingStarted)

/-- No record that quotes fires before the recorder starts, unless the reader has raised before. When the
recorder starts, `INFO` records get through and every line up to the signal can be read. -/
structure SignalClear : Prop where
  quotes : ∀ before record after,
    emitted level (beforeStart (spoken earlier cfg start polls)) = before ++ record :: after →
    (∀ raw ∈ printed stamps before, Readable lim isAlnum raw) → Quoted earlier cfg start polls record →
    ¬ RecordFires lim isAlnum (stamps before.length) record
  signal : ∀ head pid rest, spoken earlier cfg start polls =
      head ++ .recorderStart true :: .log (pidRecord pid) :: .log startedRecord :: rest →
    (∀ event ∈ head, event.startsRecorder = false) →
    level ≤ infoLevel ∧ ∀ raw ∈ printed stamps (emitted level
      (head ++ [.recorderStart true, .log (pidRecord pid), .log startedRecord])),
      Readable lim isAlnum raw

end Agreement

section Agreement

variable {lim : Limits} {isAlnum : Char → Bool} {stamps : ℕ → Stamp} {level : ℕ}
  {earlier : List LogRecord} {cfg : LoopConfig} {start : ℚ} {polls : List MeetPoll}

theorem status_rowAfterSignal {row : Call} (hrow : row.status = .joining) (now : Timestamp)
    (stream : StreamState) :
    (rowAfterSignal now row stream).status = .recording ↔ stream.recordingFired := by
  have hmark : CallService.markRecording row.id (some row) = .ok [.status .recording] := by
    change CallService.transition row .recording [] = _
    rw [CallService.transition, hrow, if_pos (by decide)]
  unfold rowAfterSignal
  rw [hmark]
  split_ifs with hfired
  · have hlegal : CallStatus.Legal row.status .recording := by rw [hrow]; decide
    have hupdate : row.update [.status .recording] now = _ :=
      Call.update_status now hlegal (by decide)
    dsimp only
    rw [hupdate]
    exact iff_of_true rfl hfired
  · rw [hrow]
    exact iff_of_false (by decide) hfired

theorem emitted_append (before after : List BotEvent) :
    emitted level (before ++ after) = emitted level before ++ emitted level after :=
  List.filterMap_append

theorem mem_emitted {record : LogRecord} {events : List BotEvent}
    (h : record ∈ emitted level events) : .log record ∈ events := by
  obtain ⟨event, hevent, hrecord⟩ := List.mem_filterMap.1 h
  cases event with
  | log record' =>
      dsimp only at hrecord
      split_ifs at hrecord
      cases hrecord
      exact hevent
  | _ => cases hrecord

theorem spoken_waiting_or_recording (hid : 'g' ∉ cfg.callId) :
    Meet.WaitingRun (Quoted earlier cfg start polls)
        (spoken earlier cfg start polls, (Meet.runCallLoop cfg start polls).2) ∨
      ∃ head pid rest, Meet.RecordingRun (Quoted earlier cfg start polls)
        (spoken earlier cfg start polls, (Meet.runCallLoop cfg start polls).2) head pid rest := by
  obtain ⟨submitted, hsubmitted⟩ : ∃ submitted, submitted = transitionRecord statesLogger cfg.callId
    "join_clicked" "waiting_room" "join request submitted" := ⟨_, rfl⟩
  have hown : submitted.Own := by
    rw [hsubmitted]
    exact own_transitionRecord hid (by decide) (by decide) (by decide)
  have hspoken : spoken earlier cfg start polls =
      (earlier ++ [submitted]).map .log ++ ((Meet.loop cfg).run (.initial start) polls).1 := by
    rw [hsubmitted, List.map_append, List.append_assoc]
    rfl
  have hmore : ∀ events : List BotEvent, (∀ event ∈ events, event.Voices fun record =>
      Meet.QuotesFrom cfg (.initial start) polls record ∨ record.Own) →
      ∀ event ∈ (earlier ++ [submitted]).map .log ++ events, event.Voices fun record =>
        Quoted earlier cfg start polls record ∨ record.Own := by
    intro events hevents event hevent
    rcases List.mem_append.1 hevent with hmem | hmem
    · obtain ⟨record, hrecord, rfl⟩ := List.mem_map.1 hmem
      rcases List.mem_append.1 hrecord with hearlier | hlast
      · exact Or.inl (.inl hearlier)
      · rw [List.mem_singleton.1 hlast]
        exact Or.inr hown
    · apply (hevents event hmem).mono
      rintro record (hrecord | hown)
      · exact .inl (.inr hrecord)
      · exact .inr hown
  have hinitial : (LoopState.initial start).recordingStarted = false := rfl
  rcases Meet.run_waiting_or_recording hid hinitial polls with hwaiting | ⟨head, pid, rest, hrecording⟩
  · left
    refine ⟨?_, hwaiting.ends⟩
    rw [hspoken]
    exact hmore _ hwaiting.voices
  · right
    refine ⟨(earlier ++ [submitted]).map .log ++ head, pid, rest, ?_, ?_, hrecording.ends⟩
    · rw [hspoken, hrecording.events, List.append_assoc]
    · exact hmore _ hrecording.voices

theorem Meet.RecordingRun.beforeStart_eq {quoted : LogRecord → Prop}
    {run : List BotEvent × PollingLoop.Status LoopState PageError BotOutcome} {head rest : List BotEvent}
    {pid : ℕ} (h : Meet.RecordingRun quoted run head pid rest) : beforeStart run.1 = head := by
  rw [h.events]
  exact beforeStart_append_start fun event hevent => (h.voices event hevent).not_starts

theorem Meet.WaitingRun.beforeStart_eq {quoted : LogRecord → Prop}
    {run : List BotEvent × PollingLoop.Status LoopState PageError BotOutcome}
    (h : Meet.WaitingRun quoted run) : beforeStart run.1 = run.1 :=
  beforeStart_of_forall fun event hevent => (h.voices event hevent).not_starts

theorem voices_beforeStart (hid : 'g' ∉ cfg.callId) :
    ∀ event ∈ beforeStart (spoken earlier cfg start polls),
      event.Voices fun record => Quoted earlier cfg start polls record ∨ record.Own := by
  rcases spoken_waiting_or_recording hid with hwaiting | ⟨head, pid, rest, hrecording⟩
  · have hbefore : beforeStart (spoken earlier cfg start polls) = _ := hwaiting.beforeStart_eq
    rw [hbefore]
    exact hwaiting.voices
  · have hbefore : beforeStart (spoken earlier cfg start polls) = _ := hrecording.beforeStart_eq
    rw [hbefore]
    exact hrecording.voices

theorem heard_append {before : List BotEvent} (after : List BotEvent)
    (h : (heard lim isAlnum stamps level before).recordingFired) :
    (heard lim isAlnum stamps level (before ++ after)).recordingFired := by
  rw [heard, emitted_append]
  exact recordingFired_printed_append _ h

/-- Nothing fires before the recorder starts exactly when no quotation does. -/
theorem not_heard_beforeStart_iff (hid : 'g' ∉ cfg.callId) :
    ¬ (heard lim isAlnum stamps level
        (beforeStart (spoken earlier cfg start polls))).recordingFired ↔
      ∀ before record after,
        emitted level (beforeStart (spoken earlier cfg start polls)) = before ++ record :: after →
        (∀ raw ∈ printed stamps before, Readable lim isAlnum raw) →
        Quoted earlier cfg start polls record →
        ¬ RecordFires lim isAlnum (stamps before.length) record := by
  rw [heard, recordingFired_printed_iff]
  constructor
  · intro h before record after hsplit hread _ hfires
    exact h ⟨before, record, after, hsplit, hread, hfires⟩
  · rintro h ⟨before, record, after, hsplit, hread, hfires⟩
    have hrecord : record ∈ emitted level (beforeStart (spoken earlier cfg start polls)) := by
      rw [hsplit]
      exact List.mem_append_right _ List.mem_cons_self
    have hvoices : Quoted earlier cfg start polls record ∨ record.Own :=
      voices_beforeStart hid _ (mem_emitted hrecord)
    rcases hvoices with hquoted | hown
    · exact h before record after hsplit hread hquoted hfires
    · exact hown.not_fires _ hfires

theorem emitted_begun (head : List BotEvent) (pid : ℕ) :
    emitted level (head ++ [.recorderStart true, .log (pidRecord pid), .log startedRecord]) =
      emitted level head ++ if level ≤ infoLevel then [pidRecord pid, startedRecord] else [] := by
  rw [emitted_append]
  congr 1
  by_cases hlevel : level ≤ infoLevel
  · simp [emitted, pidRecord, startedRecord, hlevel]
  · simp [emitted, pidRecord, startedRecord, hlevel]

theorem own_pidRecord (pid : ℕ) : (pidRecord pid).Own := by
  have hpid : 'g' ∉ natText pid := fun h => absurd (isDigit_of_mem_natText h) (by decide)
  have hmessage : (pidRecord pid).message =
      "parec running ".toList ++ '(' :: ("pid ".toList ++ natText pid ++ [')']) := by
    simp [pidRecord, concat]
  constructor
  · change 'g' ∉ levelName infoLevel
    decide
  · change 'g' ∉ recordLogger
    decide
  · rw [hmessage]
    apply Signalless.append_cons (by decide) (by decide)
    apply signalless_of_notMem
    simp only [List.mem_append, not_or]
    exact ⟨⟨by decide, hpid⟩, by decide⟩

theorem heard_begun_iff {head : List BotEvent} {pid : ℕ}
    (hquiet : ¬ (heard lim isAlnum stamps level head).recordingFired) :
    (heard lim isAlnum stamps level
        (head ++ [.recorderStart true, .log (pidRecord pid), .log startedRecord])).recordingFired ↔
      level ≤ infoLevel ∧ ∀ raw ∈ printed stamps (emitted level
        (head ++ [.recorderStart true, .log (pidRecord pid), .log startedRecord])),
        Readable lim isAlnum raw := by
  rw [heard, emitted_begun]
  by_cases hlevel : level ≤ infoLevel
  · obtain ⟨before, hbefore⟩ : ∃ before, before = emitted level head ++ [pidRecord pid] := ⟨_, rfl⟩
    have hsplit : emitted level head ++ [pidRecord pid, startedRecord] =
        before ++ [startedRecord] := by rw [hbefore, List.append_assoc]; rfl
    have hpid : ¬ (streamOutput lim isAlnum (printed stamps before)).recordingFired := by
      rw [hbefore, printed_append, recordingFired_append, printed, printed, List.append_nil]
      rintro (h | ⟨-, h⟩)
      · exact hquiet h
      · exact (own_pidRecord pid).not_fires _ h
    rw [if_pos hlevel, hsplit, printed_append, recordingFired_append, printed, printed,
      List.append_nil, List.forall_mem_append]
    have hstarted := @startedRecord_fires_iff lim isAlnum (stamps (0 + before.length))
    constructor
    · rintro (h | ⟨hread, h⟩)
      · exact absurd h hpid
      · exact ⟨hlevel, hread, hstarted.1 h⟩
    · rintro ⟨-, hread, h⟩
      exact .inr ⟨hread, hstarted.2 h⟩
  · rw [if_neg hlevel, List.append_nil]
    exact iff_of_false hquiet fun h => hlevel h.1

/-! ### The exit -/

theorem notMem_text (id : Uuid) : 'g' ∉ id.text := by
  intro h
  have hne := Uuid.forall_mem_text (P := fun c => c ≠ 'g') (by decide) (by decide) id 'g' h
  exact hne rfl

theorem own_resultRecord (id : Uuid) {report : BotReport} (hend : report.endReason = none) :
    (resultRecord id.text report).Own := by
  have hcode : 'g' ∉ intText report.exitCode.code := by
    cases report.exitCode <;> decide
  have hid : 'g' ∉ dumpsString id.text := by
    have hescaped := Uuid.forall_mem_text (P := fun c => 'g' ∉ escapeChar c) (by decide) (by decide) id
    simpa [dumpsString] using hescaped
  have hmembers : ∀ m ∈ report.payload id.text, 'g' ∉ dumpsMember m := by
    have hpayload : report.payload id.text = [("call_id".toList, .str id.text),
        ("end_reason".toList, .null), ("exit_code".toList, .int report.exitCode.code)] := by
      rw [BotReport.payload, hend]
      rfl
    have hpair : ∀ (key : Text) (value : Scalar), 'g' ∉ dumpsString key → 'g' ∉ value.dumps →
        'g' ∉ dumpsMember (key, value) := by
      intro key value hkey hvalue
      simp only [dumpsMember, List.mem_append, not_or]
      exact ⟨⟨hkey, by decide⟩, hvalue⟩
    rw [hpayload]
    simp only [List.forall_mem_cons]
    refine ⟨hpair _ _ (by decide) hid, hpair _ _ (by decide) (by decide),
      hpair _ _ (by decide) hcode, by simp⟩
  have hdumps : 'g' ∉ dumps (report.payload id.text) := by
    have hquiet := notMem_members (by decide) hmembers
    rw [dumps, List.cons_append, List.mem_cons, List.mem_append, not_or, not_or]
    exact ⟨by decide, hquiet, by decide⟩
  constructor
  · change 'g' ∉ levelName infoLevel
    decide
  · change 'g' ∉ resultLogger
    decide
  · apply signalless_of_notMem
    change 'g' ∉ "OREEAI_BOT_RESULT ".toList ++ dumps (report.payload id.text)
    rw [List.mem_append, not_or]
    exact ⟨by decide, hdumps⟩

theorem own_finishRecord {report : BotReport} (hend : report.endReason = none)
    (hreason : Signalless report.reason) : (finishRecord report).Own := by
  have hcode : 'g' ∉ intText report.exitCode.code := by
    cases report.exitCode <;> decide
  have hmessage : (finishRecord report).message =
      ("bot finished: exit_code=".toList ++ intText report.exitCode.code ++
        " end_reason=None reason".toList) ++ '=' :: report.reason := by
    rw [finishRecord, finishHead, hend]
    simp [concat]
  constructor
  · change 'g' ∉ levelName infoLevel
    decide
  · change 'g' ∉ mainLogger
    decide
  · rw [hmessage]
    refine Signalless.append_cons (by decide) (signalless_of_notMem ?_) hreason
    simp only [List.mem_append, not_or]
    exact ⟨⟨by decide, hcode⟩, by decide⟩

theorem own_farewell (id : Uuid) {outcome : BotOutcome} (h : outcome.Unrecorded)
    (check : RecordingStatus) (levels : Text) :
    ∀ event ∈ farewell id.text outcome check levels, event.Voices LogRecord.Own := by
  have hnone : finalizeRecords outcome check levels = [] := if_pos (.inr (by simp [h.recordingStarted]))
  intro event hevent
  obtain ⟨record, hrecord, rfl⟩ := List.mem_map.1 hevent
  rw [hnone, List.nil_append] at hrecord
  have hend : (exitReport (.ok outcome) check).endReason = none := h.endReason
  simp only [List.mem_cons, List.not_mem_nil, or_false] at hrecord
  rcases hrecord with rfl | rfl
  · exact own_resultRecord id hend
  · exact own_finishRecord hend h.reason

theorem heard_exit_iff (id : Uuid) (hid : cfg.callId = id.text) {outcome : BotOutcome}
    (hrun : (Meet.runCallLoop cfg start polls).2 = .returned outcome) (check : RecordingStatus)
    (levels : Text)
    (hbefore : ¬ (heard lim isAlnum stamps level
      (beforeStart (spoken earlier cfg start polls))).recordingFired)
    (hafter : ∀ head pid rest, spoken earlier cfg start polls =
        head ++ .recorderStart true :: .log (pidRecord pid) :: .log startedRecord :: rest →
      (∀ event ∈ head, event.startsRecorder = false) →
      (heard lim isAlnum stamps level
        (head ++ [.recorderStart true, .log (pidRecord pid), .log startedRecord])).recordingFired) :
    (heard lim isAlnum stamps level (spoken earlier cfg start polls ++
        farewell cfg.callId outcome check levels)).recordingFired ↔ outcome.recordingStarted := by
  have hquiet : 'g' ∉ cfg.callId := by
    rw [hid]
    exact notMem_text id
  rcases spoken_waiting_or_recording hquiet with hwaiting | ⟨head, pid, rest, hrecording⟩
  · have hunrecorded := hwaiting.ends outcome hrun
    have hself : beforeStart (spoken earlier cfg start polls) = _ := hwaiting.beforeStart_eq
    rw [hself] at hbefore
    refine iff_of_false ?_ (by simp [hunrecorded.recordingStarted])
    rw [heard, emitted_append, printed_append, recordingFired_append]
    rintro (h | ⟨-, h⟩)
    · exact hbefore h
    · obtain ⟨pre, record, post, hsplit, -, hfires⟩ := recordingFired_printed_iff.1 h
      have hrecord : record ∈ emitted level (farewell cfg.callId outcome check levels) := by
        rw [hsplit]
        exact List.mem_append_right _ List.mem_cons_self
      have hown : record.Own := by
        have hmem := mem_emitted hrecord
        rw [hid] at hmem
        exact own_farewell id hunrecorded check levels _ hmem
      exact hown.not_fires _ hfires
  · refine iff_of_true ?_ (hrecording.ends outcome hrun)
    have hstarts : ∀ event ∈ head, event.startsRecorder = false := fun event hevent =>
      (hrecording.voices event hevent).not_starts
    have hbegun := hafter head pid rest hrecording.events hstarts
    have hsplit : spoken earlier cfg start polls ++ farewell cfg.callId outcome check levels =
        (head ++ [.recorderStart true, .log (pidRecord pid), .log startedRecord]) ++
          (rest ++ farewell cfg.callId outcome check levels) := by
      have hevents : spoken earlier cfg start polls = _ := hrecording.events
      rw [hevents]
      simp
    rw [hsplit]
    exact heard_append _ hbegun

theorem signalAgreement_iff_of_level {row : Call} (hid : cfg.callId = row.id.text)
    (hrow : row.status = .joining) (now : Timestamp) (check : RecordingStatus) (levels : Text) :
    SignalAgreement lim isAlnum stamps level earlier cfg start polls row now check levels ↔
      SignalClear lim isAlnum stamps level earlier cfg start polls := by
  have hquiet : 'g' ∉ cfg.callId := by
    rw [hid]
    exact notMem_text row.id
  constructor
  · intro h
    constructor
    · exact (not_heard_beforeStart_iff hquiet).1 h.before
    · intro head pid rest hspoken hstarts
      have hbefore := h.before
      rw [hspoken, beforeStart_append_start hstarts] at hbefore
      exact (heard_begun_iff hbefore).1 (h.after head pid rest hspoken hstarts)
  · intro h
    have hbefore := (not_heard_beforeStart_iff hquiet).2 h.quotes
    have hafter : ∀ head pid rest, spoken earlier cfg start polls =
        head ++ .recorderStart true :: .log (pidRecord pid) :: .log startedRecord :: rest →
        (∀ event ∈ head, event.startsRecorder = false) →
        (heard lim isAlnum stamps level
          (head ++ [.recorderStart true, .log (pidRecord pid), .log startedRecord])).recordingFired := by
      intro head pid rest hspoken hstarts
      have hhead := hbefore
      rw [hspoken, beforeStart_append_start hstarts] at hhead
      exact (heard_begun_iff hhead).2 (h.signal head pid rest hspoken hstarts)
    constructor
    · exact hbefore
    · exact hafter
    · intro outcome hrun
      rw [status_rowAfterSignal hrow]
      exact heard_exit_iff row.id hid hrun check levels hbefore hafter

end Agreement

/-- The runner and the bot agree about the recording exactly when the signal gets through and nothing
before is mistaken for it. -/
theorem signalAgreement_iff (lim : Limits) (isAlnum : Char → Bool) (stamps : ℕ → Stamp)
    (upper : Text → Text) (environ : Environ) (profileHostPath : Option Text) {row : Call}
    (hrow : row.status = .joining) (timeouts : Timeouts) (isPrintable : Char → Bool)
    (earlier : List LogRecord) (start : ℚ) (polls : List MeetPoll) (now : Timestamp)
    (check : RecordingStatus) (levels : Text) :
    SignalAgreement lim isAlnum stamps (configureLogging upper (botEnviron environ row profileHostPath))
        earlier ⟨row.id.text, timeouts, isPrintable⟩ start polls row now check levels ↔
      SignalClear lim isAlnum stamps (configureLogging upper (botEnviron environ row profileHostPath))
        earlier ⟨row.id.text, timeouts, isPrintable⟩ start polls := by
  have hid : (⟨row.id.text, timeouts, isPrintable⟩ : LoopConfig).callId = row.id.text := rfl
  exact signalAgreement_iff_of_level hid hrow now check levels

/-! ### A bot that warns only -/

def warningEnviron : Environ := fun key =>
  if key = "LOG_LEVEL".toList then some "WARNING".toList else none

/-- The bot is admitted, and a stop is requested 2 s later. -/
def stoppedRecording : List MeetPoll :=
  [admittedPoll 2, { admittedPoll 4 with stopRequested := true }]

def sampleSession : LoopConfig :=
  ⟨(sampleCall .joining).id.text, sampleConfig.timeouts, sampleConfig.isPrintable⟩

theorem signalAgreement_iff_stoppedRecording :
    SignalAgreement pythonLimits Char.isAlphanum (fun _ => sampleStamp)
        (configureLogging id (botEnviron (fun _ => none) (sampleCall .joining) none)) [] sampleSession 0
        stoppedRecording (sampleCall .joining) 10 .ok [] ∧
      (heard pythonLimits Char.isAlphanum (fun _ => sampleStamp)
        (configureLogging id (botEnviron (fun _ => none) (sampleCall .joining) none))
        (spoken [] sampleSession 0 stoppedRecording)).recordingFired := by
  have hlevel : configureLogging id (botEnviron (fun _ => none) (sampleCall .joining) none) =
      infoLevel := rfl
  refine ⟨(signalAgreement_iff _ _ _ _ _ _ rfl _ _ _ _ _ _ _ _).2 ⟨?_, ?_⟩, by decide +kernel⟩
  · intro before record after hbefore _ _
    have hmute : (emitted infoLevel (beforeStart (spoken [] sampleSession 0 stoppedRecording))).all
        (fun record => !(streamOutput pythonLimits Char.isAlphanum
          (physicalLines (formatRecord sampleStamp record))).recordingFired) = true := by
      decide +kernel
    have hmem : record ∈ before ++ record :: after := List.mem_append_right _ List.mem_cons_self
    rw [← hbefore] at hmem
    have hquiet := List.all_eq_true.1 hmute record hmem
    rw [Bool.not_eq_true'] at hquiet
    rw [RecordFires, hquiet]
    decide
  · intro head pid rest hspoken _
    refine ⟨by rw [hlevel], fun raw hraw => ?_⟩
    have hall : ∀ raw ∈ printed (fun _ => sampleStamp)
        (emitted infoLevel (spoken [] sampleSession 0 stoppedRecording)),
          Readable pythonLimits Char.isAlphanum raw :=
      readable_of_all (by decide +kernel)
    have hparts : spoken [] sampleSession 0 stoppedRecording =
        (head ++ [.recorderStart true, .log (pidRecord pid), .log startedRecord]) ++ rest := by
      rw [List.append_assoc]
      exact hspoken
    apply hall
    rw [hparts, emitted_append, printed_append]
    exact List.mem_append_left _ hraw

theorem not_signalAgreement_warning :
    ¬ SignalAgreement ⟨1000, 4300, by decide, Limits.intMaxStrDigits_pos⟩ (fun _ => true)
      (fun _ => sampleStamp)
      (configureLogging id (botEnviron warningEnviron (sampleCall .joining) none))
      [] sampleSession 0 [admittedPoll 2] (sampleCall .joining) 10 .ok [] := by
  intro h
  have hlevel : configureLogging id (botEnviron warningEnviron (sampleCall .joining) none) =
      warningLevel := rfl
  rw [hlevel] at h
  obtain ⟨submitted, hsubmitted⟩ : ∃ submitted, submitted = transitionRecord statesLogger
    sampleSession.callId "join_clicked" "waiting_room" "join request submitted" := ⟨_, rfl⟩
  obtain ⟨admission, hadmission⟩ : ∃ admission, admission = transitionRecord statesLogger
    sampleSession.callId "waiting_room" "in_call" "leave control visible" := ⟨_, rfl⟩
  have hspoken : spoken [] sampleSession 0 [admittedPoll 2] =
      [.log submitted, .log admission] ++ .recorderStart true :: .log (pidRecord 41) ::
        .log startedRecord :: [.announce] := by
    rw [hsubmitted, hadmission]
    rfl
  have hfired := h.after _ _ _ hspoken (by simp [BotEvent.startsRecorder])
  have hnone : emitted warningLevel ([.log submitted, .log admission] ++
      [.recorderStart true, .log (pidRecord 41), .log startedRecord]) = [] := by
    rw [hsubmitted, hadmission]
    rfl
  rw [heard, hnone] at hfired
  cases hfired

end Notetaker

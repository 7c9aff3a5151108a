import Notetaker.BotLog
import Notetaker.LoopDecisions
import Notetaker.StreamOutput

/-!
# What a bot logs before it records

Until the recorder runs, a turn of the Meet loop logs records of its own, none of which has the signal,
and records that quote the meeting page or an exception.
-/

open PythonText PythonFloat PythonUuid JsonText

namespace Notetaker

/-! ## Texts without the signal -/

def Signalless (s : Text) : Prop := ¬ signalText <:+: s

instance (s : Text) : Decidable (Signalless s) := inferInstanceAs (Decidable (¬ _))

theorem signalless_of_notMem {s : Text} (h : 'g' ∉ s) : Signalless s := by
  intro hsignal
  apply h
  exact hsignal.subset (by decide)

theorem Signalless.append_cons {before after : Text} {c : Char} (hc : c ∉ signalText)
    (hbefore : Signalless before) (hafter : Signalless after) :
    Signalless (before ++ c :: after) := by
  intro h
  rcases infix_append_cons hc h with h | h
  · exact hbefore h
  · exact hafter h

/-- The signal does not begin in a head that has no `g` and ends in a space. -/
theorem Signalless.append_space {before after : Text} (hbefore : 'g' ∉ before)
    (hafter : Signalless after) : Signalless (before ++ ' ' :: after) := by
  intro h
  rcases List.infix_append_iff.1 h with h | h | ⟨first, second, hsplit, hfirst, hsecond⟩
  · exact signalless_of_notMem hbefore h
  · rcases List.infix_cons_iff.1 h with h | h
    · rcases List.prefix_cons_iff.1 h with h | ⟨rest, h, -⟩ <;> cases h
    · exact hafter h
  · have hg : 'g' ∉ first := fun hmem => hbefore (hfirst.subset hmem)
    rcases List.prefix_cons_iff.1 hsecond with rfl | ⟨rest, rfl, -⟩
    · rw [List.append_nil] at hsplit
      exact hg (hsplit ▸ by decide)
    · change "recording".toList ++ ' ' :: "started".toList = _ at hsplit
      rcases List.append_eq_append_iff.1 hsplit with ⟨tail, rfl, -⟩ | ⟨tail, hword, htail⟩
      · exact hg (List.mem_append_left _ (by decide))
      · cases tail with
        | nil =>
            rw [List.append_nil] at hword
            exact hg (hword ▸ by decide)
        | cons x tail =>
            obtain ⟨rfl, -⟩ := List.cons.inj htail
            have hspace : ' ' ∉ "recording".toList := by decide
            apply hspace
            rw [hword]
            simp

/-! ## The records of a turn -/

def transitionRecord (logger callId fromState toState reason : Text) : LogRecord :=
  ⟨infoLevel, logger, concat ["call_id=", callId, " from_state=", fromState, " to_state=", toState,
    " reason=", reason]⟩

def exceptionRecord (logger message : Text) (e : PageError) : LogRecord :=
  ⟨errorLevel, logger, concat [message, "\n", e.traceback]⟩

def evidenceRecord (isPrintable : Char → Bool) (evidence : Evidence) (reason : Text) : LogRecord :=
  match evidence with
  | .failed e =>
      exceptionRecord statesLogger (concat ["failed to save debug screenshot (", reason, ")"]) e
  | .saved debugDir timestamp url bodyText =>
      ⟨warningLevel, statesLogger,
        evidenceMessage isPrintable reason debugDir timestamp url bodyText⟩

def pidRecord (pid : ℕ) : LogRecord :=
  ⟨infoLevel, recordLogger, concat ["parec running (pid ", natText pid, ")"]⟩

def startedRecord : LogRecord := ⟨infoLevel, statesLogger, "recording started"⟩

namespace Meet

variable (cfg : LoopConfig) (s : LoopState) (poll : MeetPoll)

/-- What a turn that meets the admission quotes. -/
def admissionRecords (detail : Text) : List LogRecord :=
  transitionRecord statesLogger cfg.callId "waiting_room" "in_call" detail ::
    match poll.recorderStart with
    | .ok _ => []
    | .error e =>
        [evidenceRecord cfg.isPrintable poll.evidence "recording failed to start",
          exceptionRecord statesLogger "recorder failed to start" e]

/-- What a turn without admission quotes. -/
def waitingRecords : List LogRecord :=
  match poll.joinBlocked with
  | .error _ => []
  | .ok true => [evidenceRecord cfg.isPrintable poll.evidence "meet blocked the join attempt"]
  | .ok false =>
      if cfg.timeouts.waitingRoomS ≤ poll.now - s.start then
        [evidenceRecord cfg.isPrintable poll.evidence "never admitted"]
      else if s.nextAdmissionEvidence ≤ poll.now then
        [evidenceRecord cfg.isPrintable poll.evidence "waiting for admission (periodic evidence)"]
      else []

/-- The records of a turn before the recording whose text is not the bot's own. -/
def quotedRecords : List LogRecord :=
  if poll.stopRequested then []
  else
    match poll.removed, poll.ended, poll.admitted with
    | .ok _, .ok _, .ok (true, detail) => admissionRecords cfg poll detail
    | .ok _, .ok _, .ok (false, _) => waitingRecords cfg s poll
    | _, _, _ => []

end Meet

/-- A record whose text is the bot's own. -/
structure LogRecord.Own (record : LogRecord) : Prop where
  level : 'g' ∉ levelName record.level
  logger : 'g' ∉ record.logger
  message : Signalless record.message

/-- A record of the given kind, or another event than the start of the recorder. -/
def BotEvent.Voices (P : LogRecord → Prop) : BotEvent → Prop
  | .log record => P record
  | .recorderStart succeeds => succeeds = false
  | _ => True

theorem own_states {level : ℕ} {message : Text} (hlevel : 'g' ∉ levelName level)
    (hmessage : Signalless message) : (⟨level, statesLogger, message⟩ : LogRecord).Own := by
  have hlogger : 'g' ∉ statesLogger := by decide
  exact ⟨hlevel, hlogger, hmessage⟩

theorem own_transitionRecord {callId fromState toState reason : Text} (hid : 'g' ∉ callId)
    (hfrom : Signalless (fromState ++ " to_state".toList))
    (hto : Signalless (toState ++ " reason".toList)) (hreason : Signalless reason) :
    (transitionRecord statesLogger callId fromState toState reason).Own := by
  apply own_states (by decide)
  have hmessage : concat ["call_id=", callId, " from_state=", fromState, " to_state=", toState,
      " reason=", reason] = "call_id".toList ++ '=' :: (callId ++ " from_state".toList ++ '=' ::
        (fromState ++ " to_state".toList ++ '=' :: (toState ++ " reason".toList ++ '=' ::
          reason))) := by
    simp [concat]
  have hcall : Signalless (callId ++ " from_state".toList) := by
    apply signalless_of_notMem
    rw [List.mem_append, not_or]
    exact ⟨hid, by decide⟩
  have hequals : '=' ∉ signalText := by decide
  rw [hmessage]
  apply Signalless.append_cons hequals (by decide)
  apply Signalless.append_cons hequals hcall
  apply Signalless.append_cons hequals hfrom
  exact Signalless.append_cons hequals hto hreason

theorem own_waiting {callId toState reason : Text} (hid : 'g' ∉ callId) (phase : Phase)
    (hto : Signalless (toState ++ " reason".toList)) (hreason : Signalless reason) :
    (transitionRecord statesLogger callId phase.text toState reason).Own := by
  apply own_transitionRecord hid _ hto hreason
  cases phase <;> decide

theorem debugScreenshot_eq (isPrintable : Char → Bool) (evidence : Evidence) (reason : Text) :
    debugScreenshot isPrintable evidence reason =
      .emit (.log (evidenceRecord isPrintable evidence reason)) := by
  cases evidence <;> rfl

/-! ## Turns that do not record -/

structure BotOutcome.Unrecorded (outcome : BotOutcome) : Prop where
  recordingStarted : outcome.recordingStarted = false
  endReason : outcome.endReason = none
  reason : Signalless outcome.reason

def Unstarted : LoopState ⊕ BotOutcome → Prop
  | .inl t => t.recordingStarted = false
  | .inr outcome => outcome.Unrecorded

/-- A turn that does not start the recorder. Its records are the quoted ones and the bot's own. -/
structure WaitingTurn (quoted : List LogRecord) (turn : Turn) : Prop where
  voices : turn.Emits (BotEvent.Voices fun record => record ∈ quoted ∨ record.Own)
  ends : turn.Ensures Unstarted

namespace WaitingTurn

variable {quoted : List LogRecord}

theorem read_bind {α : Type} {reading : Reading α} {f : α → Turn}
    (h : ∀ a, reading = .ok a → WaitingTurn quoted (f a)) :
    WaitingTurn quoted (EventLog.read reading >>= f) := by
  constructor
  · exact EventLog.Emits.read_bind fun a ha => (h a ha).voices
  · exact EventLog.Ensures.read_bind fun a ha => (h a ha).ends

theorem emit_bind {event : BotEvent} {f : Unit → Turn}
    (hevent : event.Voices fun record => record ∈ quoted ∨ record.Own)
    (h : WaitingTurn quoted (f ())) : WaitingTurn quoted (EventLog.emit event >>= f) := by
  constructor
  · exact EventLog.Emits.emit_bind hevent h.voices
  · exact EventLog.Ensures.bind fun _ _ => h.ends

theorem quote_bind {record : LogRecord} {f : Unit → Turn} (hrecord : record ∈ quoted)
    (h : WaitingTurn quoted (f ())) : WaitingTurn quoted (EventLog.emit (.log record) >>= f) :=
  emit_bind (.inl hrecord) h

theorem own_bind {record : LogRecord} {f : Unit → Turn} (hrecord : record.Own)
    (h : WaitingTurn quoted (f ())) : WaitingTurn quoted (EventLog.emit (.log record) >>= f) :=
  emit_bind (.inr hrecord) h

theorem failed_bind {f : Unit → Turn} (h : WaitingTurn quoted (f ())) :
    WaitingTurn quoted (EventLog.emit (.recorderStart false) >>= f) := emit_bind rfl h

theorem read_error {α : Type} {e : PageError} {f : α → Turn} :
    WaitingTurn quoted (EventLog.read (.error e) >>= f) := by
  apply read_bind
  rintro a ⟨⟩

theorem closing {exitCode : BotExit} {reason : Text} (hreason : Signalless reason) :
    WaitingTurn quoted
      (do return .inr (← BotOutcome.make exitCode none reason false)) := by
  constructor
  · apply EventLog.Emits.bind
    · unfold BotOutcome.make
      split_ifs
      · exact EventLog.Emits.pure
      · exact EventLog.Emits.read
    · exact fun _ _ => EventLog.Emits.pure
  · apply EventLog.Ensures.bind
    intro outcome houtcome
    obtain ⟨-, hend, hmade, hstarted⟩ := BotOutcome.of_make houtcome
    apply EventLog.Ensures.pure
    exact ⟨hstarted, hend, hmade ▸ hreason⟩

theorem keepPolling {poll : Poll} {t : LoopState} (ht : t.recordingStarted = false) :
    WaitingTurn quoted (keepPolling poll t) := by
  apply read_bind
  intro _ _
  exact ⟨EventLog.Emits.pure, EventLog.Ensures.pure ht⟩

end WaitingTurn

namespace Meet

section Turns

variable {cfg : LoopConfig} {s : LoopState} {poll : MeetPoll} {quoted : List LogRecord}

theorem handleStop_waiting (hid : 'g' ∉ cfg.callId) (hs : s.recordingStarted = false)
    (poll : Poll) : WaitingTurn quoted (handleStop side cfg s poll) := by
  have hreason : Signalless "stop requested".toList := by decide
  unfold handleStop
  rw [if_neg (by simp [hs])]
  apply WaitingTurn.own_bind (own_waiting hid s.phase (by decide) hreason)
  apply WaitingTurn.own_bind (own_states (by decide) (by decide))
  exact WaitingTurn.closing hreason

theorem recorderFailed_waiting (hid : 'g' ∉ cfg.callId) {poll : Poll} {e : PageError}
    (hevidence : evidenceRecord cfg.isPrintable poll.evidence "recording failed to start" ∈ quoted)
    (hexception : exceptionRecord statesLogger "recorder failed to start" e ∈ quoted) :
    WaitingTurn quoted (recorderFailed side cfg poll e) := by
  have hreason : Signalless "recorder failed to start".toList := by decide
  unfold recorderFailed
  rw [debugScreenshot_eq]
  apply WaitingTurn.failed_bind
  apply WaitingTurn.quote_bind hevidence
  apply WaitingTurn.own_bind (own_waiting hid .inCall (by decide) hreason)
  apply WaitingTurn.quote_bind hexception
  exact WaitingTurn.closing hreason

theorem signalless_neverAdmittedReason (cfg : LoopConfig) :
    Signalless (neverAdmittedReason cfg) := by
  have hseconds : 'g' ∉ reprFloat cfg.timeouts.waitingRoomS :=
    notMem_reprFloat (by unfold FloatChar; decide)
  have hsplit : neverAdmittedReason cfg = "waiting".toList ++ '-' :: ("room timeout after ".toList ++
      reprFloat cfg.timeouts.waitingRoomS ++ " seconds".toList) := by
    simp [neverAdmittedReason, concat]
  rw [hsplit]
  apply Signalless.append_cons (by decide) (by decide)
  apply signalless_of_notMem
  simp only [List.mem_append, not_or]
  exact ⟨⟨by decide, hseconds⟩, by decide⟩

theorem own_notAdmitted : (⟨errorLevel, statesLogger, concat ["not admitted within ",
    reprFloat cfg.timeouts.waitingRoomS, " seconds"]⟩ : LogRecord).Own := by
  have hseconds : 'g' ∉ reprFloat cfg.timeouts.waitingRoomS :=
    notMem_reprFloat (by unfold FloatChar; decide)
  apply own_states (by decide)
  apply signalless_of_notMem
  simp only [concat, List.flatten_cons, List.flatten_nil, List.mem_append, not_or]
  exact ⟨by decide, hseconds, by decide, by simp⟩

theorem waitingEvidence_waiting {f : ℚ → Turn}
    (hevidence : s.nextAdmissionEvidence ≤ poll.now → evidenceRecord cfg.isPrintable poll.evidence
      "waiting for admission (periodic evidence)" ∈ quoted)
    (hf : ∀ next, WaitingTurn quoted (f next)) :
    WaitingTurn quoted (waitingEvidence cfg s poll >>= f) := by
  have hvoices : (waitingEvidence cfg s poll).Emits
      (BotEvent.Voices fun record => record ∈ quoted ∨ record.Own) := by
    refine EventLog.Emits.ite (fun hdue => ?_) fun _ => EventLog.Emits.pure
    rw [debugScreenshot_eq]
    refine EventLog.Emits.emit_bind (Or.inl (hevidence hdue)) ?_
    refine EventLog.Emits.read_bind fun knocking _ => ?_
    dsimp only
    split_ifs
    · exact EventLog.Emits.emit_bind (Or.inr (own_states (by decide) (by decide)))
        EventLog.Emits.pure
    · exact EventLog.Emits.pure
  constructor
  · exact EventLog.Emits.bind hvoices fun next _ => (hf next).voices
  · exact EventLog.Ensures.bind fun next _ => (hf next).ends

theorem waitingTurn_waiting (hid : 'g' ∉ cfg.callId) (hs : s.recordingStarted = false) :
    WaitingTurn (waitingRecords cfg s poll) (waitingTurn cfg s poll) := by
  apply WaitingTurn.read_bind
  intro blocked hblocked
  rw [waitingRecords, hblocked, debugScreenshot_eq, debugScreenshot_eq]
  cases blocked with
  | true =>
      have hreason : Signalless joinBlockedReason := by decide
      rw [if_pos rfl]
      apply WaitingTurn.quote_bind (by simp)
      apply WaitingTurn.own_bind (own_waiting hid s.phase (by decide) hreason)
      apply WaitingTurn.own_bind (own_states (by decide) hreason)
      exact WaitingTurn.closing hreason
  | false =>
      rw [if_neg Bool.false_ne_true]
      dsimp only
      split_ifs with htimeout hdue
      · have hreason := signalless_neverAdmittedReason cfg
        apply WaitingTurn.quote_bind (by simp)
        apply WaitingTurn.own_bind (own_waiting hid s.phase (by decide) hreason)
        apply WaitingTurn.own_bind own_notAdmitted
        exact WaitingTurn.closing hreason
      · apply waitingEvidence_waiting
        · intro _
          simp
        · exact fun next => WaitingTurn.keepPolling hs
      · apply waitingEvidence_waiting
        · exact fun h => absurd h hdue
        · exact fun next => WaitingTurn.keepPolling hs

theorem admissionTurn_waiting (hid : 'g' ∉ cfg.callId) {e : PageError}
    (hstart : poll.recorderStart = .error e) (detail : Text) :
    WaitingTurn (admissionRecords cfg poll detail) (admissionTurn cfg s poll detail) := by
  rw [admissionRecords, admissionTurn, hstart]
  apply WaitingTurn.quote_bind List.mem_cons_self
  apply recorderFailed_waiting hid
  · simp
  · simp

/-- A turn that starts the recorder quotes the detail of the admission before. -/
structure Begins (cfg : LoopConfig) (s : LoopState) (poll : MeetPoll) (detail : Text) (pid : ℕ) :
    Prop where
  quoted : quotedRecords cfg s poll = [transitionRecord statesLogger cfg.callId "waiting_room"
    "in_call" detail]
  events : ∃ rest, (step cfg s poll).events =
    .log (transitionRecord statesLogger cfg.callId "waiting_room" "in_call" detail) ::
      .recorderStart true :: .log (pidRecord pid) :: .log startedRecord :: rest
  result : ∃ t, (step cfg s poll).result = .ok (.inl t) ∧ t.recordingStarted

theorem admissionTurn_begins (cfg : LoopConfig) (s : LoopState) {pid : ℕ}
    (hstart : poll.recorderStart = .ok pid) (detail : Text) :
    (∃ rest, (admissionTurn cfg s poll detail).events =
      .log (transitionRecord statesLogger cfg.callId "waiting_room" "in_call" detail) ::
        .recorderStart true :: .log (pidRecord pid) :: .log startedRecord :: rest) ∧
    ∃ t, (admissionTurn cfg s poll detail).result = .ok (.inl t) ∧ t.recordingStarted := by
  unfold admissionTurn recordingBegan
  rw [hstart]
  cases poll.announce with
  | ok u => exact ⟨⟨_, rfl⟩, _, rfl, rfl⟩
  | error e => exact ⟨⟨_, rfl⟩, _, rfl, rfl⟩

theorem step_waiting_or_begins (hid : 'g' ∉ cfg.callId) (hs : s.recordingStarted = false)
    (poll : MeetPoll) :
    WaitingTurn (quotedRecords cfg s poll) (step cfg s poll) ∨
      ∃ detail pid, Begins cfg s poll detail pid := by
  by_cases hstop : poll.stopRequested
  · left
    rw [step, if_pos hstop]
    exact handleStop_waiting hid hs _
  have hstep : step cfg s poll = _ := if_neg hstop
  have hquoted : quotedRecords cfg s poll = _ := if_neg hstop
  cases hremoved : poll.removed with
  | error e =>
      left
      rw [hstep, hremoved]
      exact .read_error
  | ok removed =>
  cases hended : poll.ended with
  | error e =>
      left
      rw [hstep, hremoved, hended, EventLog.read_ok_bind]
      exact .read_error
  | ok ended =>
  cases hadmitted : poll.admitted with
  | error e =>
      left
      rw [hstep, hremoved, hended, hadmitted, EventLog.read_ok_bind, EventLog.read_ok_bind]
      exact .read_error
  | ok reading =>
      obtain ⟨admitted, detail⟩ := reading
      rw [hremoved, hended, hadmitted] at hstep hquoted
      simp only [EventLog.read_ok_bind] at hstep
      rw [if_neg (by simp [hs])] at hstep
      cases admitted with
      | false =>
          left
          rw [hstep, hquoted]
          exact waitingTurn_waiting hid hs
      | true =>
          change step cfg s poll = admissionTurn cfg s poll detail at hstep
          change quotedRecords cfg s poll = admissionRecords cfg poll detail at hquoted
          cases hstart : poll.recorderStart with
          | error e =>
              left
              rw [hstep, hquoted]
              exact admissionTurn_waiting hid hstart detail
          | ok pid =>
              right
              obtain ⟨hevents, hresult⟩ := admissionTurn_begins cfg s hstart detail
              refine ⟨detail, pid, ?_, ?_, ?_⟩
              · rw [hquoted, admissionRecords, hstart]
              · rw [hstep]
                exact hevents
              · rw [hstep]
                exact hresult

end Turns

end Meet

end Notetaker

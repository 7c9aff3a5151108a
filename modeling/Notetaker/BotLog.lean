import Notetaker.BotResult

/-!
# What the bot prints

Python's logging drops the records below the level that `LOG_LEVEL` sets. Every other record is printed
behind its time, level and logger, and takes one line or, with line breaks in its message, several.
-/

open PythonText PythonFloat PythonUuid JsonText

namespace Notetaker

/-- The integer attributes of `logging` in capitals. -/
def loggingLevels : List (Text × ℕ) :=
  [("CRITICAL".toList, 50), ("FATAL".toList, 50), ("ERROR".toList, errorLevel),
    ("WARN".toList, warningLevel), ("WARNING".toList, warningLevel), ("INFO".toList, infoLevel),
    ("DEBUG".toList, 10), ("NOTSET".toList, 0)]

/-- The level that `_configure_logging` sets; `upper` is `str.upper`. -/
def configureLogging (upper : Text → Text) (environ : Environ) : ℕ :=
  (loggingLevels.lookup (upper ((environ "LOG_LEVEL".toList).getD "INFO".toList))).getD infoLevel

def levelNames : List (ℕ × Text) :=
  [(50, "CRITICAL".toList), (errorLevel, "ERROR".toList), (warningLevel, "WARNING".toList),
    (infoLevel, "INFO".toList), (10, "DEBUG".toList), (0, "NOTSET".toList)]

/-- `logging.getLevelName`. -/
def levelName (level : ℕ) : Text :=
  (levelNames.lookup level).getD ("Level ".toList ++ natText level)

/-- `%(asctime)s`. -/
structure Stamp where
  text : Text
  digits : ∀ c ∈ text, c.isDigit ∨ c ∈ " -:,".toList
  length : text.length = 23

def sampleStamp : Stamp := ⟨"2026-01-05 09:00:00,000".toList, forall_mem_of_all (by decide), rfl⟩

/-- `%(asctime)s %(levelname)s %(name)s ` -/
def recordHead (stamp : Stamp) (level : ℕ) (logger : Text) : Text :=
  concat [stamp.text, " ", levelName level, " ", logger, " "]

/-- `%(asctime)s %(levelname)s %(name)s %(message)s` -/
def formatRecord (stamp : Stamp) (record : LogRecord) : Text :=
  recordHead stamp record.level record.logger ++ record.message

/-- The lines of the records, each with the time at which it is printed. -/
def printed (stamps : ℕ → Stamp) : List LogRecord → List Text
  | [] => []
  | record :: records =>
      physicalLines (formatRecord (stamps 0) record) ++ printed (fun i => stamps (i + 1)) records

def emitted (level : ℕ) (events : List BotEvent) : List LogRecord :=
  events.filterMap fun event => match event with
    | .log record => if level ≤ record.level then some record else none
    | _ => none

/-! ## The last records of `main` -/

def mainLogger : Text := "oreeai.bot"

def resultLogger : Text := "oreeai.bot.result"

/-- What `_finalize_recording` logs; `levels` are the level and the floor of a silent recording. -/
def finalizeRecords (outcome : BotOutcome) (check : RecordingStatus) (levels : Text) :
    List LogRecord :=
  if outcome.exitCode ≠ .ok ∨ ¬ outcome.recordingStarted then []
  else
    match check with
    | .ok => []
    | .silent => [⟨errorLevel, mainLogger, concat ["recording below silence floor: ", levels]⟩]
    | .missing =>
        [⟨errorLevel, mainLogger, "cannot verify finished recording: recording file missing"⟩]
    | .unreadable => [⟨errorLevel, mainLogger, concat ["cannot verify finished recording: ",
        "recording file unreadable or has unsupported format"]⟩]

def resultRecord (callId : Text) (report : BotReport) : LogRecord :=
  ⟨infoLevel, resultLogger, "OREEAI_BOT_RESULT ".toList ++ dumps (report.payload callId)⟩

def BotReport.reason (report : BotReport) : Text :=
  (report.outcome.map BotOutcome.reason).getD "startup failed".toList

/-- `bot finished: exit_code=%s end_reason=%s reason=` -/
def finishHead (report : BotReport) : Text :=
  concat ["bot finished: exit_code=", intText report.exitCode.code, " end_reason=",
    (report.endReason.map EndReason.text).getD "None".toList, " reason="]

def finishRecord (report : BotReport) : LogRecord :=
  ⟨infoLevel, mainLogger, finishHead report ++ report.reason⟩

theorem printed_append (stamps : ℕ → Stamp) (before after : List LogRecord) :
    printed stamps (before ++ after) =
      printed stamps before ++ printed (fun i => stamps (i + before.length)) after := by
  induction before generalizing stamps with
  | nil => rfl
  | cons record before ih =>
      rw [List.cons_append, printed, printed, ih, List.append_assoc]
      rfl

/-! ## The characters of a line -/

theorem notMem_recordHead {c : Char} (hdigit : c.isDigit = false) (hstamp : c ∉ " -:,".toList)
    (stamp : Stamp) {level : ℕ} {logger : Text} (hlevel : c ∉ levelName level)
    (hlogger : c ∉ logger) : c ∉ recordHead stamp level logger := by
  have htext : c ∉ stamp.text := by
    intro h
    rcases stamp.digits c h with hdigit' | hstamp'
    · rw [hdigit] at hdigit'
      cases hdigit'
    · exact hstamp hstamp'
  have hspace : c ≠ ' ' := fun h => hstamp (by simp [h])
  simp [recordHead, concat, htext, hspace, hlevel, hlogger]

theorem recordHead_eq (stamp : Stamp) (level : ℕ) (logger : Text) :
    ∃ before, recordHead stamp level logger = before ++ [' '] :=
  ⟨concat [stamp.text, " ", levelName level, " ", logger], by simp [recordHead, concat]⟩

end Notetaker

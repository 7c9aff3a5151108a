import Notetaker.CallService
import Notetaker.JsonText

/-!
# The runner's reading of a bot exit

The pure part of `apply_exit_status`: how the exit code, the result payload and the status of the
row select between the pipeline and a failure, and with which reason.
-/

open PythonText PythonFloat PythonUuid JsonText

namespace Notetaker

/-- `int | None`. -/
abbrev ExitCode := Option ℤ

/-- The parsed dictionary of a result line. -/
abbrev ResultPayload := List (Text × Json)

def validEndReasons : List Text :=
  ["call_ended".toList, "removed".toList, "alone".toList, "give_up".toList]

def resultEndReason (result : Option ResultPayload) : Option Text :=
  match result.bind fun members => members.lookup "end_reason".toList with
  | some (.str value) => if value ∈ validEndReasons then some value else none
  | _ => none

def exitCodeText : ExitCode → Text
  | none => "None".toList
  | some code => intText code

def failureReason (exitCode : ExitCode) (status : CallStatus) : Text :=
  if exitCode = some 2 then "never_admitted".toList
  else if exitCode = some 4 then
    if status = .recording then "no_show".toList else "join_timeout".toList
  else if exitCode = some 6 then "consent_missing".toList
  else if exitCode = some 7 then "silent_recording".toList
  else "bot_error:exit_".toList ++ exitCodeText exitCode

def cleanExit (exitCode : ExitCode) (status : CallStatus) : Bool :=
  (exitCode = some 0 || exitCode = some 3) && status = .recording

def aloneViaSilence (exitCode : ExitCode) (status : CallStatus) (result : Option ResultPayload) :
    Bool :=
  exitCode = some 7 && status = .recording && resultEndReason result = some "alone".toList

/-- Whether the recording goes through the upload and transcription pipeline. -/
def entersPipeline (exitCode : ExitCode) (status : CallStatus) (result : Option ResultPayload) :
    Bool :=
  cleanExit exitCode status || aloneViaSilence exitCode status result

def exitEndReason (exitCode : ExitCode) (status : CallStatus) (result : Option ResultPayload) :
    Text :=
  if aloneViaSilence exitCode status result then "alone".toList
  else if exitCode = some 3 then "removed".toList
  else (resultEndReason result).getD "call_ended".toList

/-- The transition of the first transaction of `apply_exit_status`. -/
def exitPayload (id : Uuid) (call : Call) (exitCode : ExitCode) (result : Option ResultPayload) :
    Except ServiceError Changes :=
  if entersPipeline exitCode call.status result then CallService.markProcessing id (some call)
  else CallService.markFailed id (some call) (failureReason exitCode call.status)

theorem recording_of_entersPipeline {exitCode : ExitCode} {status : CallStatus}
    {result : Option ResultPayload} (h : entersPipeline exitCode status result) :
    status = .recording := by
  simp only [entersPipeline, cleanExit, aloneViaSilence, Bool.or_eq_true, Bool.and_eq_true,
    decide_eq_true_eq] at h
  rcases h with h | h
  · exact h.2
  · exact h.1.2

end Notetaker

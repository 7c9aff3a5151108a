import Notetaker.JsonRoundTrip
import Notetaker.RecordingEnds

/-!
# How the bot exits

The end of `main`: the loop has returned or raised, the browser is closed, a clean recording is checked
for silence, and the exit code goes out with the payload of the result line.
-/

open PythonText PythonFloat PythonUuid JsonText

namespace Notetaker

inductive RecordingStatus where
  | ok | silent | missing | unreadable
  deriving DecidableEq

def finalizeRecording (outcome : BotOutcome) (check : RecordingStatus) : BotExit :=
  if outcome.exitCode ≠ .ok ∨ ¬ outcome.recordingStarted then outcome.exitCode
  else
    match check with
    | .ok => .ok
    | .silent => .silentRecording
    | .missing | .unreadable => .botError

theorem finalizeRecording_eq_ok_iff {outcome : BotOutcome} (h : outcome.recordingStarted)
    (check : RecordingStatus) :
    finalizeRecording outcome check = .ok ↔ outcome.exitCode = .ok ∧ check = .ok := by
  unfold finalizeRecording
  by_cases hexit : outcome.exitCode = .ok
  · rw [if_neg (by simp [hexit, h])]
    cases check <;> simp [hexit]
  · rw [if_pos (.inl hexit)]
    simp [hexit]

/-- What `main` knows when it exits: no outcome if the run raised. -/
structure BotReport where
  exitCode : BotExit
  outcome : Option BotOutcome

namespace BotReport

def endReason (report : BotReport) : Option EndReason := report.outcome.bind BotOutcome.endReason

/-- The payload of `_emit_result`, with its keys sorted. -/
def payload (report : BotReport) (callId : Text) : List (Text × Scalar) :=
  [("call_id".toList, .str callId),
    ("end_reason".toList, (report.endReason.map fun reason => .str reason.text).getD .null),
    ("exit_code".toList, .int report.exitCode.code)]

end BotReport

def exitReport (ended : Reading BotOutcome) (check : RecordingStatus) : BotReport :=
  match ended with
  | .ok outcome => ⟨finalizeRecording outcome check, some outcome⟩
  | .error _ => ⟨.botError, none⟩

/-- How `_run` ends when the loop does: `close` runs in any case, and its own error hides the outcome. -/
def runEnd (status : PollingLoop.Status LoopState PageError BotOutcome) (close : Reading Unit) :
    Option (Reading BotOutcome) :=
  match status, close with
  | .polling _, _ => none
  | .returned outcome, .ok () => some (.ok outcome)
  | .raised e, .ok () => some (.error e)
  | _, .error e => some (.error e)

end Notetaker

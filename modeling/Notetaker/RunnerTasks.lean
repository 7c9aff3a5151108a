import Notetaker.Admission
import Notetaker.BotContainers
import Notetaker.StaleSweep

/-!
# The runner's tasks

Every asyncio task of a runner is a small program over the table: `poll_once` claims a call and
starts its `run_call` task, which follows the bot and takes the call through upload, transcription
and `done`; the sweeps walk over a list of calls; a retention pass over expired rows. A transaction is
one step. A task that has committed a terminal transition goes on to `dispatch_webhook`. A crash
drops every task and leaves the table and the storage as they are.

Three ghost fields record which task made a call terminal, the webhook dispatches, and the
transitions that raised `ConflictError`.
-/

open PythonText PythonFloat PythonUuid JsonText

namespace Notetaker

inductive Sweep where
  | finished
  | stale (ids : List Uuid)
  | orphan (ids : List Uuid)

inductive Task where
  | idle
  /-- Created by a claim, not yet run. -/
  | claimed (id : Uuid)
  | running (id : Uuid) (signalled : Bool)
  /-- Inside `on_recording`. -/
  | signalling (id : Uuid)
  | exited (id : Uuid) (exitCode : ExitCode) (result : Option ResultPayload)
  | uploading (id : Uuid) (endReason : Text)
  | uploadFailed (id : Uuid)
  | sourcing (id : Uuid) (endReason audioUrl : Text)
  | transcribing (id : Uuid) (endReason audioUrl : Text)
  | transcriptionFailed (id : Uuid) (detail audioUrl : Text)
  | finishing (id : Uuid) (endReason audioUrl : Text) (transcript : List SpeakerSegment)
  | dispatching (id : Uuid) (next : Sweep)
  | sweeping (next : Sweep)
  | retaining (ids : List Uuid)

namespace Task

/-- The next transaction of the task, when it is at one. -/
def work : Task → Option (Uuid × Transition)
  | signalling id => some (id, .markRecording)
  | exited id exitCode result => some (id, .applyExitStatus exitCode result)
  | uploadFailed id => some (id, .markUploadFailed)
  | transcriptionFailed id detail audioUrl => some (id, .markTranscriptionFailed detail audioUrl)
  | finishing id endReason audioUrl transcript =>
      some (id, .finishDoneCall endReason audioUrl transcript)
  | sweeping (.stale (id :: _)) => some (id, .staleSweep)
  | sweeping (.orphan (id :: _)) => some (id, .orphanSweep)
  | _ => none

/-- After the commit of `work` on `row`. -/
def committed (row : Call) : Task → Task
  | signalling id => running id true
  | exited id exitCode result =>
      if entersPipeline exitCode row.status result then
        uploading id (exitEndReason exitCode row.status result)
      else dispatching id .finished
  | uploadFailed id | transcriptionFailed id _ _ | finishing id _ _ _ => dispatching id .finished
  | sweeping (.stale (id :: ids)) => dispatching id (.stale ids)
  | sweeping (.orphan (id :: ids)) => dispatching id (.orphan ids)
  | task => task

def refused : Task → Task
  | signalling id => running id true
  | sweeping (.stale (_ :: ids)) => sweeping (.stale ids)
  | sweeping (.orphan (_ :: ids)) => sweeping (.orphan ids)
  | _ => idle

/-- The row is gone: a sweep of orphans goes on, every other task ends. -/
def missing : Task → Task
  | sweeping (.orphan (_ :: ids)) => sweeping (.orphan ids)
  | _ => idle

def afterDispatch : Sweep → Task
  | .finished => idle
  | next => sweeping next

end Task

/-- A call site that looks at the status before it asks the service. -/
def Transition.returnsEarly (row : Call) : Transition → Bool
  | applyExitStatus _ _ | orphanSweep => row.status.Terminal
  | _ => false

inductive SourceOutcome where
  | ready
  | misconfigured
  | unavailable

inductive TranscriptionOutcome where
  | transcript (segments : List SpeakerSegment)
  | misconfigured (message : Text)
  | error (message : Text)

inductive RetentionOutcome where
  /-- Locked row, or an error before or in the deletion. -/
  | skipped
  /-- The object is deleted, the transaction rolled back. -/
  | deleted
  | reclaimed (now : Timestamp)

structure RunnerState where
  rows : List Call
  tasks : ℕ → Task
  /-- The calls with an object in storage. -/
  stored : Uuid → Bool
  winner : Uuid → Option ℕ
  dispatched : List (Uuid × ℕ)
  conflicts : List (Uuid × ℕ)

inductive RunnerEvent where
  | create (data : CallCreate) (id : Uuid) (now : Timestamp)
  /-- Task `j` polls; task `k` runs the call it may claim. -/
  | poll (j k : ℕ) (diskOk : Bool) (now : Timestamp)
  | start (k : ℕ)
  | signal (k : ℕ)
  | exit (k : ℕ) (exitCode : ExitCode) (result : Option ResultPayload)
  | transact (j : ℕ) (now : Timestamp)
  | upload (k : ℕ) (succeeds : Bool)
  | source (k : ℕ) (outcome : SourceOutcome)
  | transcribe (k : ℕ) (outcome : TranscriptionOutcome)
  /-- An exception nobody catches ends the `run_call` task, and one in a stale sweep the sweep. -/
  | fault (k : ℕ)
  | dispatch (j : ℕ)
  | staleStart (j : ℕ) (now : Timestamp)
  | orphanStart (j : ℕ) (stdout : Text)
  | sweepEnd (j : ℕ)
  | retentionStart (j : ℕ) (now : Timestamp)
  | retentionRow (j : ℕ) (outcome : RetentionOutcome)
  | crash

/-- The calls of the bots in a container listing. -/
def orphanCalls (stdout : Text) : List Uuid :=
  (listedContainers stdout).filterMap fun container => match container with
    | .bot _ id => some id
    | _ => none

namespace RunnerState

def setTask (s : RunnerState) (j : ℕ) (task : Task) : RunnerState :=
  { s with tasks := Function.update s.tasks j task }

/-- A commit by task `j` that leaves call `id` in `status`. -/
def recordWinner (s : RunnerState) (id : Uuid) (status : CallStatus) (j : ℕ) : RunnerState :=
  if status.Terminal then { s with winner := Function.update s.winner id (some j) } else s

def create (cfg : RunnerSettings) (s : RunnerState) (data : CallCreate) (id : Uuid)
    (now : Timestamp) : Option RunnerState :=
  match findRow s.rows id, CallService.create cfg.callConcurrencyLimit (countActive s.rows) data id now with
  | none, .ok row => some { s with rows := s.rows ++ [row] }
  | none, .error _ => some s
  | some _, _ => none

def poll (cfg : RunnerSettings) (s : RunnerState) (j k : ℕ) (diskOk : Bool) (now : Timestamp) :
    Option RunnerState :=
  match s.tasks j, oldest (s.rows.filter fun row => row.status = .queued) with
  | .idle, some row =>
      match pollPayload cfg.callConcurrencyLimit (countActive s.rows) diskOk row with
      | .ok payload =>
          let t := { s with rows := modifyRow s.rows row.id fun _ => row.update payload now }
          if admits cfg.callConcurrencyLimit (countActive s.rows) diskOk then
            match s.tasks k with
            | .idle => if k = j then none else some (t.setTask k (.claimed row.id))
            | _ => none
          else some ((t.setTask j (.dispatching row.id .finished)).recordWinner row.id .failed j)
      | .error _ => some s
  | .idle, none => some s
  | _, _ => none

def transact (cfg : RunnerSettings) (s : RunnerState) (j : ℕ) (now : Timestamp) :
    Option RunnerState :=
  match (s.tasks j).work with
  | none => none
  | some (id, tr) =>
      match findRow s.rows id with
      | none => some (s.setTask j (s.tasks j).missing)
      | some row =>
          match tr.body cfg.callConcurrencyLimit now row with
          | some todo =>
              let new := applyStatements row todo
              some (({ s with rows := modifyRow s.rows id fun _ => new }.setTask j
                ((s.tasks j).committed row)).recordWinner id new.status j)
          | none =>
              let t := s.setTask j (s.tasks j).refused
              some (if tr.returnsEarly row then t else { t with conflicts := (id, j) :: s.conflicts })

def retentionRow (s : RunnerState) (j : ℕ) (outcome : RetentionOutcome) : Option RunnerState :=
  match s.tasks j with
  | .retaining (id :: ids) =>
      let t := s.setTask j (.retaining ids)
      match outcome with
      | .skipped => some t
      | .deleted => some { t with stored := Function.update s.stored id false }
      | .reclaimed now => some { t with
          stored := Function.update s.stored id false
          rows := modifyRow s.rows id fun row => { row with audioUrl := none, updatedAt := now } }
  | _ => none

def step (cfg : RunnerSettings) (s : RunnerState) : RunnerEvent → Option RunnerState
  | .create data id now => s.create cfg data id now
  | .poll j k diskOk now => s.poll cfg j k diskOk now
  | .start k =>
      match s.tasks k with
      | .claimed id =>
          match findRow s.rows id with
          | some row => some (s.setTask k (if row.status = .joining then .running id false else .idle))
          | none => some (s.setTask k .idle)
      | _ => none
  | .signal k =>
      match s.tasks k with
      | .running id false => some (s.setTask k (.signalling id))
      | _ => none
  | .exit k exitCode result =>
      match s.tasks k with
      | .running id _ => some (s.setTask k (.exited id exitCode result))
      | _ => none
  | .transact j now => s.transact cfg j now
  | .upload k succeeds =>
      match s.tasks k with
      | .uploading id endReason =>
          if succeeds then
            some { s.setTask k (.sourcing id endReason (cfg.storage.objectUri id)) with
              stored := Function.update s.stored id true }
          else some (s.setTask k (.uploadFailed id))
      | _ => none
  | .source k outcome =>
      match s.tasks k with
      | .sourcing id endReason audioUrl =>
          match outcome with
          | .ready => some (s.setTask k (.transcribing id endReason audioUrl))
          | .misconfigured => some (s.setTask k
              (.transcriptionFailed id "storage_misconfigured".toList audioUrl))
          | .unavailable => some (s.setTask k
              (.transcriptionFailed id "source_unavailable".toList audioUrl))
      | _ => none
  | .transcribe k outcome =>
      match s.tasks k with
      | .transcribing id endReason audioUrl =>
          match outcome with
          | .transcript segments => some (s.setTask k (.finishing id endReason audioUrl segments))
          | .misconfigured message => some (s.setTask k
              (.transcriptionFailed id ("misconfigured: ".toList ++ message) audioUrl))
          | .error message => some (s.setTask k (.transcriptionFailed id message audioUrl))
      | _ => none
  | .fault k =>
      match s.tasks k with
      | .claimed _ | .running _ _ | .uploading _ _ | .sourcing _ _ _ | .transcribing _ _ _ |
        .sweeping (.stale _) => some (s.setTask k .idle)
      | _ => none
  | .dispatch j =>
      match s.tasks j with
      | .dispatching id next =>
          some { s.setTask j (Task.afterDispatch next) with dispatched := (id, j) :: s.dispatched }
      | _ => none
  | .staleStart j now =>
      match s.tasks j with
      | .idle => some (s.setTask j (.sweeping (.stale ((staleIds cfg now s.rows).getD []))))
      | _ => none
  | .orphanStart j stdout =>
      match s.tasks j with
      | .idle => some (s.setTask j (.sweeping (.orphan (orphanCalls stdout))))
      | _ => none
  | .sweepEnd j =>
      match s.tasks j with
      | .sweeping .finished | .sweeping (.stale []) | .sweeping (.orphan []) | .retaining [] =>
          some (s.setTask j .idle)
      | _ => none
  | .retentionStart j now =>
      match s.tasks j with
      | .idle => some (s.setTask j (.retaining ((expiredIds cfg now s.rows).getD [])))
      | _ => none
  | .retentionRow j outcome => s.retentionRow j outcome
  | .crash => some { s with tasks := fun _ => .idle }

end RunnerState

/-- The runner starts with an empty table, an empty storage and no task. -/
def runnerSystem (cfg : RunnerSettings) : TransitionSystem RunnerState RunnerEvent where
  init s := s.rows = [] ∧ (∀ j, s.tasks j = .idle) ∧ (∀ id, s.stored id = false) ∧
    (∀ id, s.winner id = none) ∧ s.dispatched = [] ∧ s.conflicts = []
  step s e := s.step cfg e

def sampleSettings : RunnerSettings where
  callConcurrencyLimit := 3
  botMaxRecordDuration := 10800
  audioRetentionDays := 0
  failedAudioRetentionDays := 7
  storage := .s3 "bucket".toList

def emptyRunner : RunnerState where
  rows := []
  tasks _ := .idle
  stored _ := false
  winner _ := none
  dispatched := []
  conflicts := []

theorem emptyRunner_init (cfg : RunnerSettings) : (runnerSystem cfg).init emptyRunner :=
  ⟨rfl, fun _ => rfl, fun _ => rfl, fun _ => rfl, rfl, rfl⟩

end Notetaker

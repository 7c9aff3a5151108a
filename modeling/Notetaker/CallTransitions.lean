import Mathlib.Data.List.Chain
import Notetaker.BotContainers
import Notetaker.RowTransactions
import Notetaker.ExitStatus

/-!
# The transitions of one call, interleaved

Every call site opens a session, reads the row by id, lets the service check the table against the
status it read, and updates the row by id. Only the claim of `poll_once` reads `FOR UPDATE`. The
session's identity map answers every later `get`, so a call site reads once. Any number of
transactions run on the row at the same time.

A run keeps to the table exactly when every commit still finds the status its transaction read, or
fails a call that has not ended in the meantime.
-/

open PythonText PythonFloat PythonUuid JsonText

namespace Notetaker

inductive Transition where
  | pollOnce (active : ℕ) (diskOk : Bool)
  | markRecording
  | applyExitStatus (exitCode : ExitCode) (result : Option ResultPayload)
  | finishDoneCall (endReason audioUrl : Text) (transcript : List SpeakerSegment)
  | markTranscriptionFailed (detail audioUrl : Text)
  | markUploadFailed
  | orphanSweep
  | staleSweep

/-- The three outcomes of a claim: the ceiling, the disk, the bot. -/
def pollPayload (limit : ℤ) (active : ℕ) (diskOk : Bool) (call : Call) :
    Except ServiceError Changes :=
  if limit < active then CallService.markFailed call.id (some call) "concurrency_limit".toList
  else if ¬ diskOk then CallService.markFailed call.id (some call) "disk_full".toList
  else CallService.markBotStarted call.id (some call) (containerName call.id)

/-- A claim that the ceiling and the disk let through. -/
def admits (limit : ℤ) (active : ℕ) (diskOk : Bool) : Bool := ¬ (limit < active) && diskOk

/-- One `UPDATE` with the start time of its transaction. -/
structure Statement where
  changes : Changes
  now : Timestamp

def statements (now : Timestamp) (payload : Except ServiceError Changes) (more : List Changes) :
    Option (List Statement) :=
  match payload with
  | .ok changes => some ((changes :: more).map fun c => ⟨c, now⟩)
  | .error _ => none

namespace Transition

/-- The statements a call site sends after reading `call`; `none` when it rolls back. -/
def body (limit : ℤ) (now : Timestamp) (call : Call) : Transition → Option (List Statement)
  | pollOnce active diskOk => statements now (pollPayload limit active diskOk call) []
  | markRecording => statements now (CallService.markRecording call.id (some call)) []
  | applyExitStatus exitCode result =>
      if call.status.Terminal then none
      else statements now (exitPayload call.id call exitCode result) []
  | finishDoneCall endReason audioUrl transcript =>
      statements now
        (CallService.markDone call.id (some call) endReason (some transcript) (some audioUrl)) []
  | markTranscriptionFailed detail audioUrl =>
      statements now
        (CallService.markFailed call.id (some call) ("transcription_failed:".toList ++ detail))
        (if audioUrl = [] then [] else [[.audioUrl audioUrl]])
  | markUploadFailed =>
      statements now (CallService.markFailed call.id (some call) "upload_failed".toList) []
  | orphanSweep =>
      if call.status.Terminal then none
      else statements now (CallService.markFailed call.id (some call) "worker_restart".toList) []
  | staleSweep =>
      statements now (CallService.markFailed call.id (some call) "stale_call".toList) []

/-- The status a call site moves `call` to, when the table allows it. -/
def target (limit : ℤ) (call : Call) : Transition → CallStatus
  | pollOnce active diskOk => if admits limit active diskOk then .joining else .failed
  | markRecording => .recording
  | applyExitStatus exitCode result =>
      if entersPipeline exitCode call.status result then .processing else .failed
  | finishDoneCall _ _ _ => .done
  | markTranscriptionFailed _ _ | markUploadFailed | orphanSweep | staleSweep => .failed

/-- `with_for_update(skip_locked=True)`. -/
def locks : Transition → Bool
  | pollOnce _ _ => true
  | _ => false

def selects (call : Call) : Transition → Bool
  | pollOnce _ _ => call.status = .queued
  | _ => true

end Transition

def callProgram (limit : ℤ) : RowProgram (Transition × Timestamp) Call Statement where
  locks op := op.1.locks
  selects op call := op.1.selects call
  body op call := op.1.body limit op.2 call
  write read row st := row.updateRow read st.changes st.now

/-- Any number of transactions on one call. -/
abbrev callSystem (limit : ℤ) := (callProgram limit).system ℕ

/-! ## What a transaction carries -/

/-- The first statement moves the row to `target`; the others leave the status alone. -/
def MovesTo (target : CallStatus) (todo : List Statement) : Prop :=
  ∃ first rest changes, todo = first :: rest ∧ first.changes = .status target :: changes ∧
    (∀ change ∈ changes, change.writesStatus = false) ∧
    ∀ st ∈ rest, ∀ change ∈ st.changes, change.writesStatus = false

/-- What a call site does with the row it read is decided by the table. -/
def Decided (call : Call) (target : CallStatus) (body : Option (List Statement)) : Prop :=
  (¬ CallStatus.Legal call.status target ∧ body = none) ∨
    (CallStatus.Legal call.status target ∧ ∃ todo, body = some todo ∧ MovesTo target todo)

theorem decided_statements (call : Call) (target : CallStatus) (now : Timestamp)
    {changes : Changes} {more : List Changes}
    (hchanges : ∀ change ∈ changes, change.writesStatus = false)
    (hmore : ∀ changes ∈ more, ∀ change ∈ changes, change.writesStatus = false) :
    Decided call target (statements now (CallService.transition call target changes) more) := by
  by_cases hlegal : CallStatus.Legal call.status target
  · refine Or.inr ⟨hlegal, ((.status target :: changes) :: more).map fun c => ⟨c, now⟩, ?_, ?_⟩
    · rw [CallService.transition, if_pos hlegal]
      rfl
    · refine ⟨⟨.status target :: changes, now⟩, more.map fun c => ⟨c, now⟩, changes, rfl, rfl,
        hchanges, fun st hst => ?_⟩
      obtain ⟨c, hc, rfl⟩ := List.mem_map.1 hst
      exact hmore c hc
  · refine Or.inl ⟨hlegal, ?_⟩
    rw [CallService.transition, if_neg hlegal]
    rfl

theorem decided_markFailed (call : Call) (now : Timestamp) (reason : Text) :
    Decided call .failed
      (statements now (CallService.markFailed call.id (some call) reason) []) :=
  decided_statements call .failed now (by simp [FieldChange.writesStatus]) (by simp)

theorem Transition.decided_body (limit : ℤ) (now : Timestamp) (call : Call) (tr : Transition) :
    Decided call (tr.target limit call) (tr.body limit now call) := by
  have hguard : ∀ (target : CallStatus) (body : Option (List Statement)),
      Decided call target body →
        Decided call target (if call.status.Terminal then none else body) := by
    intro target body h
    by_cases hterminal : call.status.Terminal
    · rw [if_pos hterminal]
      exact Or.inl ⟨fun hlegal => CallStatus.not_terminal_of_legal hlegal hterminal, rfl⟩
    · rwa [if_neg hterminal]
  cases tr with
  | pollOnce active diskOk =>
      change Decided call (if admits limit active diskOk then .joining else .failed)
        (statements now (pollPayload limit active diskOk call) [])
      by_cases hlimit : limit < active
      · have hadmits : admits limit active diskOk = false := by simp [admits, hlimit]
        rw [hadmits, pollPayload, if_pos hlimit]
        exact decided_markFailed call now _
      · cases diskOk with
        | false =>
            have hadmits : admits limit active false = false := by simp [admits]
            rw [hadmits, pollPayload, if_neg hlimit]
            exact decided_markFailed call now _
        | true =>
            have hadmits : admits limit active true = true := by simp [admits, hlimit]
            rw [hadmits, pollPayload, if_neg hlimit]
            exact decided_statements call .joining now (by simp [FieldChange.writesStatus]) (by simp)
  | markRecording => exact decided_statements call .recording now (by simp) (by simp)
  | applyExitStatus exitCode result =>
      refine hguard _ _ ?_
      change Decided call (if entersPipeline exitCode call.status result then .processing
        else .failed) (statements now (exitPayload call.id call exitCode result) [])
      by_cases hclean : entersPipeline exitCode call.status result
      · rw [exitPayload, if_pos hclean, if_pos hclean]
        exact decided_statements call .processing now (by simp) (by simp)
      · rw [exitPayload, if_neg hclean, if_neg hclean]
        exact decided_markFailed call now _
  | finishDoneCall endReason audioUrl transcript =>
      exact decided_statements call .done now (by simp [FieldChange.writesStatus]) (by simp)
  | markTranscriptionFailed detail audioUrl =>
      refine decided_statements call .failed now (by simp [FieldChange.writesStatus]) ?_
      split_ifs <;> simp [FieldChange.writesStatus]
  | markUploadFailed => exact decided_markFailed call now _
  | orphanSweep => exact hguard _ _ (decided_markFailed call now _)
  | staleSweep => exact decided_markFailed call now _

theorem Transition.body_eq_none_iff {limit : ℤ} {now : Timestamp} {call : Call} {tr : Transition} :
    tr.body limit now call = none ↔ ¬ CallStatus.Legal call.status (tr.target limit call) := by
  rcases tr.decided_body limit now call with ⟨hillegal, hnone⟩ | ⟨hlegal, todo, hsome, -⟩
  · simp [hillegal, hnone]
  · simp [hlegal, hsome]

theorem Transition.body_eq_some {limit : ℤ} {now : Timestamp} {call : Call} {tr : Transition}
    {todo : List Statement} (h : tr.body limit now call = some todo) :
    CallStatus.Legal call.status (tr.target limit call) ∧ MovesTo (tr.target limit call) todo := by
  rcases tr.decided_body limit now call with ⟨-, hnone⟩ | ⟨hlegal, todo', hsome, hmoves⟩
  · rw [hnone] at h
    cases h
  · rw [hsome] at h
    cases h
    exact ⟨hlegal, hmoves⟩

theorem Transition.target_ne_joining {tr : Transition} (h : tr.locks = false) (limit : ℤ)
    (call : Call) : tr.target limit call ≠ .joining := by
  cases tr with
  | pollOnce => cases h
  | applyExitStatus exitCode result =>
      simp only [target]
      split_ifs <;> decide
  | _ => simp [target]

def applyStatements (call : Call) (todo : List Statement) : Call :=
  todo.foldl (fun row st => row.update st.changes st.now) call

theorem id_applyStatements (call : Call) (todo : List Statement) :
    (applyStatements call todo).id = call.id := by
  induction todo generalizing call with
  | nil => rfl
  | cons st todo ih => exact (ih _).trans (Call.id_updateRow call call st.changes st.now)

theorem status_applyStatements_of_forall (call : Call) {todo : List Statement}
    (h : ∀ st ∈ todo, ∀ change ∈ st.changes, change.writesStatus = false) :
    (applyStatements call todo).status = call.status := by
  induction todo generalizing call with
  | nil => rfl
  | cons st todo ih =>
      have hrest := ih (call.update st.changes st.now) fun s hs => h s (List.mem_cons_of_mem st hs)
      exact hrest.trans (Call.status_updateRow_of_forall call call st.now (h st (by simp)))

theorem MovesTo.status_applyStatements {target : CallStatus} {todo : List Statement} {call : Call}
    (h : MovesTo target todo) (hlegal : CallStatus.Legal call.status target) :
    (applyStatements call todo).status = target := by
  obtain ⟨first, rest, changes, rfl, hfirst, hchanges, hrest⟩ := h
  change (applyStatements (call.update first.changes first.now) rest).status = target
  rw [status_applyStatements_of_forall _ hrest, hfirst]
  exact Call.status_updateRow call call first.now hlegal.ne.symm hchanges

theorem Transition.status_of_body {limit : ℤ} {now : Timestamp} {call : Call} {tr : Transition}
    {todo : List Statement} (h : tr.body limit now call = some todo) :
    (applyStatements call todo).status = tr.target limit call := by
  obtain ⟨hlegal, hmoves⟩ := Transition.body_eq_some h
  exact hmoves.status_applyStatements hlegal

/-! ## The discipline of the transactions -/

def LegalStatements (_op : Transition × Timestamp) (read : Call) (todo : List Statement) : Prop :=
  ∃ target, CallStatus.Legal read.status target ∧ MovesTo target todo

/-- The version written is in a status that is legal from the one read, and stays in it. -/
def LegalVersion (_op : Transition × Timestamp) (read : Call) (todo : List Statement)
    (version : Call) : Prop :=
  CallStatus.Legal read.status version.status ∧
    ∀ st ∈ todo, ∀ change ∈ st.changes, change.writesStatus = false

theorem callProgram_discipline (limit : ℤ) :
    (callProgram limit).Discipline LegalStatements LegalVersion where
  body op call todo _ h := ⟨_, Transition.body_eq_some h⟩
  first op read d todo row h := by
    obtain ⟨target, hlegal, first, rest, changes, heq, hfirst, hchanges, hrest⟩ := h
    cases heq
    refine ⟨?_, hrest⟩
    change CallStatus.Legal read.status (row.updateRow read d.changes d.now).status
    rw [hfirst, Call.status_updateRow row read d.now hlegal.ne.symm hchanges]
    exact hlegal
  next op read d todo version h := by
    refine ⟨?_, fun st hst => h.2 st (List.mem_cons_of_mem d hst)⟩
    change CallStatus.Legal read.status (version.updateRow version d.changes d.now).status
    rw [Call.status_updateRow_of_forall version version d.now (h.2 d (by simp))]
    exact h.1

/-! ## The committed statuses -/

abbrev CallState := RowState ℕ (Transition × Timestamp) Call Statement

/-- Consecutive committed statuses are legal transitions. -/
def LegalPath (versions : List Call) : Prop :=
  versions.IsChain fun new old => CallStatus.Legal old.status new.status

/-- A committed terminal row keeps its status and its failure reason. -/
def TerminalKept (versions : List Call) : Prop :=
  versions.IsChain fun new old => old.status.Terminal →
    new.status = old.status ∧ new.failureReason = old.failureReason

/-- The commit finds the status its transaction read, or fails a call that has not ended. -/
def Undisturbed (s : CallState) : TxnEvent ℕ (Transition × Timestamp) → Prop
  | .commit i => ∀ op read version, s.phase i = .written op read [] version →
      s.committed.status = read.status ∨
        (version.status = .failed ∧ ¬ s.committed.status.Terminal)
  | _ => True

theorem terminalKept_of_legalPath {versions : List Call} (h : LegalPath versions) :
    TerminalKept versions :=
  h.imp fun _ _ hlegal hterminal => absurd hterminal (CallStatus.not_terminal_of_legal hlegal)

/-- For a disciplined transaction the table and `Undisturbed` say the same of a commit. -/
theorem commitOk_iff_undisturbed {s : CallState}
    (hs : RowProgram.Disciplined LegalStatements LegalVersion s)
    (e : TxnEvent ℕ (Transition × Timestamp)) :
    RowProgram.CommitOk (fun old new => CallStatus.Legal old.status new.status) s e ↔
      Undisturbed s e := by
  cases e with
  | commit i =>
      refine forall_congr' fun op => forall_congr' fun read => forall_congr' fun version => ?_
      refine forall_congr' fun hphase => ?_
      obtain ⟨⟨hlegal, -⟩, -⟩ := hs.written i op read [] version hphase
      exact CallStatus.legal_iff_of_legal_seen hlegal
  | _ => exact Iff.rfl

/-- A run keeps to the transition table, and never overwrites a terminal row, exactly when every
commit is undisturbed. -/
theorem legalPath_iff_undisturbed (limit : ℤ) {s t : CallState}
    {es : List (TxnEvent ℕ (Transition × Timestamp))} (hs : (callSystem limit).init s)
    (hrun : (callSystem limit).run s es = some t) :
    (LegalPath t.history ∧ TerminalKept t.history) ↔ (callSystem limit).Meets Undisturbed s es := by
  have hpath := RowProgram.isChain_history_iff (callProgram_discipline limit)
    (fun old new => CallStatus.Legal old.status new.status) hs hrun
  have hcongr := TransitionSystem.meets_congr
    (RowProgram.disciplined_step (callProgram_discipline limit))
    (fun s e hs => commitOk_iff_undisturbed hs e) (RowProgram.disciplined_of_init hs) es
  rw [and_iff_left_of_imp terminalKept_of_legalPath, ← hcongr]
  exact hpath

/-! ## A lost race -/

def sampleCall (status : CallStatus) : Call where
  id := 0
  createdAt := 0
  updatedAt := 0
  meetingUrl := "https://meet.google.com/abc-defg-hij".toList
  userRef := "user".toList
  consentAck := true
  platform := .googleMeet
  status := status
  failureReason := none
  endReason := none
  audioUrl := none
  transcript := none
  webhookUrl := "https://example.org/hook".toList
  webhookSecret := "0123456789abcdef".toList
  webhookDeliveredAt := none
  webhookAttempts := 0
  botContainerName := some (containerName 0)

def initialState (call : Call) : CallState where
  committed := call
  lock := none
  phase _ := .idle
  history := [call]

theorem init_initialState (limit : ℤ) (call : Call) :
    (callSystem limit).init (initialState call) := ⟨rfl, fun _ => rfl, rfl⟩

/-- The stale sweep reads `processing`, the pipeline lands `done`, the sweep writes `failed`. -/
def lostRace : List (TxnEvent ℕ (Transition × Timestamp)) :=
  [.select 0 (.staleSweep, 2401),
    .select 1 (.finishDoneCall "call_ended".toList "s3://bucket/audio.wav".toList [], 2401),
    .update 1, .commit 1, .update 0, .commit 0]

theorem lostRace_statuses :
    ((callSystem 3).run (initialState (sampleCall .processing)) lostRace).map
      (fun t => t.history.map Call.status) = some [.failed, .done, .processing] := by
  decide

theorem legalPath_iff_statuses (versions : List Call) :
    LegalPath versions ↔
      (versions.map Call.status).IsChain fun new old => CallStatus.Legal old new :=
  (List.isChain_map (R := fun new old => CallStatus.Legal old new) Call.status).symm

theorem not_legalPath_of_interleaving :
    ¬ ∀ (limit : ℤ) (s t : CallState) (es : List (TxnEvent ℕ (Transition × Timestamp))),
      (callSystem limit).init s → (callSystem limit).run s es = some t →
        LegalPath t.history ∧ TerminalKept t.history := by
  intro h
  obtain ⟨t, hrun, hstatuses⟩ := Option.map_eq_some_iff.1 lostRace_statuses
  have hpath := (h 3 _ t lostRace (init_initialState 3 _) hrun).1
  rw [legalPath_iff_statuses, hstatuses] at hpath
  revert hpath
  decide

def undisturbedRun : List (TxnEvent ℕ (Transition × Timestamp)) :=
  [.select 0 (.applyExitStatus (some 2) none, 700), .update 0, .commit 0]

theorem undisturbedRun_isSome :
    ((callSystem 3).run (initialState (sampleCall .joining)) undisturbedRun).isSome := by
  decide

theorem undisturbedRun_legalPath_iff :
    (LegalPath (((callSystem 3).run (initialState (sampleCall .joining)) undisturbedRun).get
        undisturbedRun_isSome).history ∧
      TerminalKept (((callSystem 3).run (initialState (sampleCall .joining)) undisturbedRun).get
        undisturbedRun_isSome).history) ↔
    (callSystem 3).Meets Undisturbed (initialState (sampleCall .joining)) undisturbedRun :=
  legalPath_iff_undisturbed 3 (init_initialState 3 _) (Option.some_get _).symm

end Notetaker

import Notetaker.CallTransitions

/-!
# What a transition writes

An `UPDATE` sends the changes that differ from the loaded row. As no payload writes a column twice,
the row ends up with all of them, and each transition of the service has one form of row to leave
behind.
-/

open PythonText PythonUuid

namespace Notetaker

inductive Column where
  | status | failureReason | endReason | audioUrl | transcript | botContainerName
  deriving DecidableEq

namespace FieldChange

def column : FieldChange → Column
  | status _ => .status
  | failureReason _ => .failureReason
  | endReason _ => .endReason
  | audioUrl _ => .audioUrl
  | transcript _ => .transcript
  | botContainerName _ => .botContainerName

theorem assign_comm {c d : FieldChange} (h : c.column ≠ d.column) (call : Call) :
    c.assign (d.assign call) = d.assign (c.assign call) := by
  cases c <;> cases d <;> first | rfl | exact absurd rfl h

end FieldChange

namespace Call

theorem assign_dirty (loaded : Call) {changes : Changes} {call : Call}
    (hcolumns : (changes.map FieldChange.column).Nodup)
    (hclean : ∀ change ∈ changes, change.assign loaded = loaded → change.assign call = call) :
    call.assign (loaded.dirty changes) = call.assign changes := by
  induction changes generalizing call with
  | nil => rfl
  | cons change changes ih =>
      rw [List.map_cons, List.nodup_cons] at hcolumns
      obtain ⟨hnew, hcolumns⟩ := hcolumns
      obtain ⟨hhead, hrest⟩ := List.forall_mem_cons.1 hclean
      by_cases hsame : change.assign loaded = loaded
      · have hdirty : loaded.dirty (change :: changes) = loaded.dirty changes :=
          List.filter_cons_of_neg (by simp [hsame])
        rw [hdirty, ih hcolumns hrest, assign_cons, hhead hsame]
      · have hdirty : loaded.dirty (change :: changes) = change :: loaded.dirty changes :=
          List.filter_cons_of_pos (by simp [hsame])
        rw [hdirty, assign_cons, assign_cons]
        apply ih hcolumns
        intro later hlater hsame'
        have hne : later.column ≠ change.column := by
          intro heq
          exact hnew (heq ▸ List.mem_map_of_mem hlater)
        rw [FieldChange.assign_comm hne, hrest later hlater hsame']

theorem update_of_ne {call : Call} {changes : Changes} (now : Timestamp)
    (hcolumns : (changes.map FieldChange.column).Nodup)
    (hdirty : ∃ change ∈ changes, change.assign call ≠ call) :
    call.update changes now = { call.assign changes with updatedAt := now } := by
  obtain ⟨change, hmem, hne⟩ := hdirty
  have hsent : change ∈ call.dirty changes := List.mem_filter.2 ⟨hmem, by simpa using hne⟩
  rw [update, updateRow, if_neg (List.ne_nil_of_mem hsent), assign_dirty call hcolumns fun _ _ h => h]

theorem update_status {call : Call} {s : CallStatus} {changes : Changes} (now : Timestamp)
    (hs : CallStatus.Legal call.status s)
    (hcolumns : ((.status s :: changes).map FieldChange.column).Nodup) :
    call.update (.status s :: changes) now =
      { call.assign (.status s :: changes) with updatedAt := now } := by
  refine update_of_ne now hcolumns ⟨.status s, List.mem_cons_self, fun heq => ?_⟩
  exact hs.ne (congrArg Call.status heq).symm

end Call

/-- The prefix of the failures that keep the stored object. -/
def transcriptionFailedPrefix : Text := "transcription_failed:"

/-- The row that a transition leaves behind, written at time `now`. -/
inductive Written (row : Call) (now : Timestamp) : Transition → Call → Prop where
  | joining (active : ℕ) (diskOk : Bool) (hstatus : row.status = .queued) :
      Written row now (.pollOnce active diskOk) { row with
        status := .joining
        botContainerName := some (containerName row.id)
        updatedAt := now }
  | recording (hstatus : row.status = .joining) :
      Written row now .markRecording { row with status := .recording, updatedAt := now }
  | processing (exitCode : ExitCode) (result : Option ResultPayload)
      (hstatus : row.status = .recording) :
      Written row now (.applyExitStatus exitCode result)
        { row with status := .processing, updatedAt := now }
  | done (endReason audioUrl : Text) (transcript : List SpeakerSegment)
      (hstatus : row.status = .processing) :
      Written row now (.finishDoneCall endReason audioUrl transcript) { row with
        status := .done
        endReason := some endReason
        transcript := some transcript
        audioUrl := some audioUrl
        updatedAt := now }
  | failed (tr : Transition) (reason : Text) (audioUrl : Option Text)
      (hstatus : ¬ row.status.Terminal)
      (haudio : audioUrl = row.audioUrl ∨ transcriptionFailedPrefix <+: reason) :
      Written row now tr { row with
        status := .failed
        failureReason := some reason
        audioUrl := audioUrl
        updatedAt := now }

theorem Written.id_eq {row new : Call} {now : Timestamp} {tr : Transition}
    (h : Written row now tr new) : new.id = row.id := by
  cases h <;> rfl

theorem Written.updatedAt_eq {row new : Call} {now : Timestamp} {tr : Transition}
    (h : Written row now tr new) : new.updatedAt = now := by
  cases h <;> rfl

theorem Written.live {row new : Call} {now : Timestamp} {tr : Transition}
    (h : Written row now tr new) : ¬ row.status.Terminal := by
  cases h with
  | joining active diskOk hstatus => rw [hstatus]; decide
  | recording hstatus => rw [hstatus]; decide
  | processing exitCode result hstatus => rw [hstatus]; decide
  | done endReason audioUrl transcript hstatus => rw [hstatus]; decide
  | failed tr reason audioUrl hlive haudio => exact hlive

section Body

variable {limit : ℤ} {now : Timestamp} {row : Call} {todo : List Statement}

theorem todo_of_statements {payload : Except ServiceError Changes} {changes : Changes}
    {more : List Changes} (hpayload : payload = .ok changes)
    (h : statements now payload more = some todo) : todo = (changes :: more).map fun c => ⟨c, now⟩ := by
  rw [hpayload] at h
  exact (Option.some.inj h).symm

theorem transition_eq_ok {s : CallStatus} (hlegal : CallStatus.Legal row.status s)
    (changes : Changes) : CallService.transition row s changes = .ok (.status s :: changes) :=
  if_pos hlegal

theorem written_markFailed (tr : Transition) {reason : Text}
    (hlegal : CallStatus.Legal row.status .failed)
    (h : statements now (CallService.markFailed row.id (some row) reason) [] = some todo) :
    Written row now tr (applyStatements row todo) := by
  have htodo := todo_of_statements (transition_eq_ok hlegal _) h
  subst htodo
  change Written row now tr (row.update [.status .failed, .failureReason reason] now)
  rw [Call.update_status now hlegal (by simp [FieldChange.column])]
  exact .failed tr reason row.audioUrl (CallStatus.not_terminal_of_legal hlegal) (.inl rfl)

theorem Transition.written {tr : Transition} (h : tr.body limit now row = some todo) :
    Written row now tr (applyStatements row todo) := by
  have hlegal := (Transition.body_eq_some h).1
  have hsource : ∀ {s t}, t ≠ .failed → CallStatus.Legal s t →
      CallStatus.Legal row.status t → row.status = s := fun ht hs hrow =>
    CallStatus.Legal.source_unique ht hrow hs
  cases tr with
  | pollOnce active diskOk =>
      change statements now (pollPayload limit active diskOk row) [] = some todo at h
      by_cases hlimit : limit < active
      · have hadmits : admits limit active diskOk = false := by simp [admits, hlimit]
        rw [target, hadmits] at hlegal
        rw [pollPayload, if_pos hlimit] at h
        exact written_markFailed _ hlegal h
      · cases diskOk with
        | false =>
            have hadmits : admits limit active false = false := by simp [admits]
            rw [target, hadmits] at hlegal
            rw [pollPayload, if_neg hlimit] at h
            exact written_markFailed _ hlegal h
        | true =>
            have hadmits : admits limit active true = true := by simp [admits, hlimit]
            rw [target, hadmits, if_pos rfl] at hlegal
            rw [pollPayload, if_neg hlimit] at h
            have htodo := todo_of_statements (transition_eq_ok hlegal _) h
            subst htodo
            change Written row now _ (row.update
              [.status .joining, .botContainerName (containerName row.id)] now)
            rw [Call.update_status now hlegal (by simp [FieldChange.column])]
            exact .joining active true (hsource (by decide) (by decide) hlegal)
  | markRecording =>
      replace hlegal : CallStatus.Legal row.status .recording := hlegal
      have htodo := todo_of_statements (transition_eq_ok hlegal _) h
      subst htodo
      change Written row now _ (row.update [.status .recording] now)
      rw [Call.update_status now hlegal (by simp)]
      exact .recording (hsource (by decide) (by decide) hlegal)
  | applyExitStatus exitCode result =>
      have hlive := CallStatus.not_terminal_of_legal hlegal
      rw [body, if_neg hlive] at h
      by_cases hpipeline : entersPipeline exitCode row.status result
      · rw [target, if_pos hpipeline] at hlegal
        rw [exitPayload, if_pos hpipeline] at h
        have htodo := todo_of_statements (transition_eq_ok hlegal _) h
        subst htodo
        change Written row now _ (row.update [.status .processing] now)
        rw [Call.update_status now hlegal (by simp)]
        exact .processing exitCode result (recording_of_entersPipeline hpipeline)
      · rw [target, if_neg hpipeline] at hlegal
        rw [exitPayload, if_neg hpipeline] at h
        exact written_markFailed _ hlegal h
  | finishDoneCall endReason audioUrl transcript =>
      replace hlegal : CallStatus.Legal row.status .done := hlegal
      have htodo := todo_of_statements (transition_eq_ok hlegal _) h
      subst htodo
      change Written row now _ (row.update [.status .done, .endReason endReason,
        .transcript transcript, .audioUrl audioUrl] now)
      rw [Call.update_status now hlegal (by simp [FieldChange.column])]
      exact .done endReason audioUrl transcript (hsource (by decide) (by decide) hlegal)
  | markTranscriptionFailed detail audioUrl =>
      replace hlegal : CallStatus.Legal row.status .failed := hlegal
      have htodo := todo_of_statements (transition_eq_ok hlegal _) h
      subst htodo
      have hprefix : transcriptionFailedPrefix <+: transcriptionFailedPrefix ++ detail :=
        List.prefix_append _ _
      have hlive := CallStatus.not_terminal_of_legal hlegal
      obtain ⟨failed, hfailed⟩ : ∃ failed : Call, failed = { row with
          status := .failed
          failureReason := some (transcriptionFailedPrefix ++ detail)
          updatedAt := now } := ⟨_, rfl⟩
      have hfirst : row.update
          [.status .failed, .failureReason (transcriptionFailedPrefix ++ detail)] now = failed := by
        rw [Call.update_status now hlegal (by simp [FieldChange.column]), hfailed]
        rfl
      by_cases hurl : audioUrl = []
      · rw [if_pos hurl]
        change Written row now _ (row.update
          [.status .failed, .failureReason (transcriptionFailedPrefix ++ detail)] now)
        rw [hfirst, hfailed]
        exact .failed _ _ row.audioUrl hlive (.inl rfl)
      · rw [if_neg hurl]
        change Written row now _ ((row.update [.status .failed,
          .failureReason (transcriptionFailedPrefix ++ detail)] now).update [.audioUrl audioUrl] now)
        rw [hfirst]
        by_cases hsame : row.audioUrl = some audioUrl
        · -- The second statement has nothing to send.
          have hclean : ∀ call : Call, call.audioUrl = some audioUrl →
              call.update [.audioUrl audioUrl] now = call := by
            intro call hcall
            have hassign : FieldChange.assign call (.audioUrl audioUrl) = call := by
              rw [FieldChange.assign, ← hcall]
            have hnone : call.dirty [.audioUrl audioUrl] = [] :=
              List.filter_cons_of_neg (by simp [hassign])
            rw [Call.update, Call.updateRow, if_pos hnone]
          rw [hclean failed (by rw [hfailed]; exact hsame), hfailed]
          exact .failed _ _ row.audioUrl hlive (.inl rfl)
        · have hdirty : FieldChange.assign failed (.audioUrl audioUrl) ≠ failed := by
            intro heq
            have hurl : some audioUrl = failed.audioUrl := congrArg Call.audioUrl heq
            rw [hfailed] at hurl
            exact hsame hurl.symm
          rw [Call.update_of_ne now (by simp) ⟨_, List.mem_singleton_self _, hdirty⟩, hfailed]
          exact .failed _ _ (some audioUrl) hlive (.inr hprefix)
  | markUploadFailed => exact written_markFailed _ hlegal h
  | orphanSweep =>
      have hlive := CallStatus.not_terminal_of_legal hlegal
      rw [body, if_neg hlive] at h
      exact written_markFailed _ hlegal h
  | staleSweep => exact written_markFailed _ hlegal h

end Body

end Notetaker

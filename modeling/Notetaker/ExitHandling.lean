import Notetaker.AdmissionSafety
import Notetaker.CallWrites
import Notetaker.RunnerTasks
import Notetaker.WebhookDelivery

/-!
# Exit handling from end to end

`apply_exit_status` with the coroutines behind it, for one call whose row nobody else touches. Each
stage that fails marks the call, dispatches the webhook and ends the handling. The scratch WAV goes once
the stored object is on record. Behind the webhook of a `done` call a retention pass runs over the whole
table, and with `AUDIO_RETENTION_DAYS=0` it takes the `audio_url` of the call itself.
-/

open PythonText PythonFloat PythonUuid JsonText

namespace Notetaker.ExitHandling

inductive UploadOutcome where
  | uploaded
  /-- `ConfigurationError` -/
  | misconfigured
  /-- `UploadFailed` -/
  | failed
  deriving DecidableEq

inductive UnlinkOutcome where
  | removed | osError
  deriving DecidableEq

/-- What the adapters, the disk and the receiver of the webhook answer, and the times of the
transactions. -/
structure ExitEnv where
  upload : UploadOutcome
  source : SourceOutcome
  transcription : TranscriptionOutcome
  unlink : UnlinkOutcome
  receiver : ℕ → Attempt
  /-- `none` when the storage of the retention pass is misconfigured. -/
  retention : Option (Uuid → RetentionOutcome)
  exitNow : Timestamp
  outcomeNow : Timestamp
  dispatchTx : Timestamp
  dispatchNow : Timestamp
  retentionNow : Timestamp

inductive ExitAct where
  | commit (row : Call)
  /-- `dispatch_webhook`, with the row it reads. -/
  | dispatch (read : Option Call) (delivery : Option Delivery)
  | reclaim (id : Uuid)

structure ExitWorld where
  rows : List Call
  /-- `AUDIO_HOST_PATH/<call_id>.wav` exists. -/
  wav : Bool
  acts : List ExitAct

section Coroutines

variable (cfg : WorkerSettings) (env : ExitEnv) (id : Uuid)

/-- The transaction of a call site; `none` when it is rolled back or has no row. -/
def transact (tr : Transition) (now : Timestamp) (w : ExitWorld) : Option ExitWorld :=
  (findRow w.rows id).bind fun row =>
    (tr.body cfg.runner.callConcurrencyLimit now row).map fun todo =>
      { w with
        rows := modifyRow w.rows id fun _ => applyStatements row todo
        acts := w.acts ++ [.commit (applyStatements row todo)] }

def dispatch (w : ExitWorld) : ExitWorld :=
  let read := findRow w.rows id
  let delivery := dispatchWebhook cfg.codec cfg.webhookMaxAttempts env.receiver env.dispatchTx
    env.dispatchNow read
  { w with
    rows := match delivery with
      | some delivery => modifyRow w.rows id fun _ => delivery.call
      | none => w.rows
    acts := w.acts ++ [.dispatch read delivery] }

/-- A file that cannot be removed is logged and stays. -/
def deleteLocalWav (w : ExitWorld) : ExitWorld :=
  match env.unlink with
  | .removed => { w with wav := false }
  | .osError => w

def markUploadFailed (w : ExitWorld) : ExitWorld :=
  match transact cfg id .markUploadFailed env.outcomeNow w with
  | none => w
  | some w => dispatch cfg env id w

def markTranscriptionFailed (detail audioUrl : Text) (w : ExitWorld) : ExitWorld :=
  match transact cfg id (.markTranscriptionFailed detail audioUrl) env.outcomeNow w with
  | none => w
  | some w => dispatch cfg env id (deleteLocalWav env w)

def withoutAudio (now : Timestamp) (row : Call) : Call :=
  { row with audioUrl := none, updatedAt := now }

def reclaimRow (outcome : Uuid → RetentionOutcome) (w : ExitWorld) (expired : Uuid) : ExitWorld :=
  match outcome expired with
  | .skipped | .deleted => w
  | .reclaimed now => { w with
      rows := modifyRow w.rows expired (withoutAudio now)
      acts := w.acts ++ [.reclaim expired] }

/-- `_run_retention_sweep`, whose errors are logged. -/
def runRetentionSweep (w : ExitWorld) : ExitWorld :=
  match env.retention, expiredIds cfg.runner env.retentionNow w.rows with
  | some outcome, some ids => ids.foldl (reclaimRow outcome) w
  | _, _ => w

def finishDoneCall (endReason audioUrl : Text) (transcript : List SpeakerSegment)
    (w : ExitWorld) : ExitWorld :=
  match transact cfg id (.finishDoneCall endReason audioUrl transcript) env.outcomeNow w with
  | none => w
  | some w => runRetentionSweep cfg env (dispatch cfg env id (deleteLocalWav env w))

/-- The URI of the stored object, unless the call has been marked. -/
def uploadCallAudio (w : ExitWorld) : ExitWorld × Option Text :=
  if ¬ w.wav then (markUploadFailed cfg env id w, none)
  else
    match env.upload with
    | .misconfigured | .failed => (markUploadFailed cfg env id w, none)
    | .uploaded => (w, some (cfg.runner.storage.objectUri id))

/-- Whether there is a source; otherwise the call has been marked. -/
def transcribableSource (audioUrl : Text) (w : ExitWorld) : ExitWorld × Bool :=
  match env.source with
  | .ready => (w, true)
  | .misconfigured =>
      (markTranscriptionFailed cfg env id "storage_misconfigured".toList audioUrl w, false)
  | .unavailable =>
      (markTranscriptionFailed cfg env id "source_unavailable".toList audioUrl w, false)

def transcribeCall (audioUrl : Text) (w : ExitWorld) :
    ExitWorld × Option (List SpeakerSegment) :=
  match env.transcription with
  | .transcript segments => (w, some segments)
  | .misconfigured message =>
      (markTranscriptionFailed cfg env id ("misconfigured: ".toList ++ message) audioUrl w, none)
  | .error message => (markTranscriptionFailed cfg env id message audioUrl w, none)

/-- What follows the commit of `processing`. -/
def runPipeline (endReason : Text) (w : ExitWorld) : ExitWorld :=
  match uploadCallAudio cfg env id w with
  | (w, none) => w
  | (w, some audioUrl) =>
      match transcribableSource cfg env id audioUrl w with
      | (w, false) => w
      | (w, true) =>
          match transcribeCall cfg env id audioUrl w with
          | (w, none) => w
          | (w, some transcript) => finishDoneCall cfg env id endReason audioUrl transcript w

def applyExitStatus (exitCode : ExitCode) (result : Option ResultPayload) (w : ExitWorld) :
    ExitWorld :=
  match findRow w.rows id with
  | none => w
  | some call =>
      if call.status.Terminal then w
      else
        match transact cfg id (.applyExitStatus exitCode result) env.exitNow w with
        | none => w
        | some w =>
            if entersPipeline exitCode call.status result then
              runPipeline cfg env id (exitEndReason exitCode call.status result) w
            else dispatch cfg env id w

end Coroutines

/-! ## What each coroutine leaves behind -/

structure Shows (id : Uuid) (w : ExitWorld) (row : Call) (wav : Bool) (acts : List ExitAct) :
    Prop where
  row : findRow w.rows id = some row
  wav : w.wav = wav
  acts : w.acts = acts

section Specs

variable {cfg : WorkerSettings} {env : ExitEnv} {id : Uuid} {w : ExitWorld} {row : Call}
  {wav : Bool} {acts : List ExitAct}

theorem Shows.transact (h : Shows id w row wav acts) {tr : Transition} {now : Timestamp}
    (hlegal : CallStatus.Legal row.status (tr.target cfg.runner.callConcurrencyLimit row)) :
    ∃ todo t, tr.body cfg.runner.callConcurrencyLimit now row = some todo ∧
      transact cfg id tr now w = some t ∧
      Shows id t (applyStatements row todo) wav (acts ++ [.commit (applyStatements row todo)]) := by
  cases hbody : tr.body cfg.runner.callConcurrencyLimit now row with
  | none => exact absurd hlegal (Transition.body_eq_none_iff.1 hbody)
  | some todo =>
      obtain ⟨t, ht⟩ : ∃ t : ExitWorld, t = { w with
          rows := modifyRow w.rows id fun _ => applyStatements row todo
          acts := w.acts ++ [.commit (applyStatements row todo)] } := ⟨_, rfl⟩
      refine ⟨todo, t, rfl, ?_, ?_, ?_, ?_⟩
      · rw [ExitHandling.transact, h.row, Option.bind_some, hbody, ht]
        rfl
      · rw [ht]
        exact findRow_modifyRow h.row
          ((id_applyStatements row todo).trans (findRow_mem h.row).2)
      · rw [ht]
        exact h.wav
      · rw [ht, ← h.acts]

theorem Shows.dispatch (h : Shows id w row wav acts) :
    ∃ delivered delivery, SameButDelivery row delivered ∧
      Shows id (dispatch cfg env id w) delivered wav (acts ++ [.dispatch (some row) delivery]) := by
  obtain ⟨delivery, hdelivery⟩ : ∃ delivery, delivery = dispatchWebhook cfg.codec
    cfg.webhookMaxAttempts env.receiver env.dispatchTx env.dispatchNow (some row) := ⟨_, rfl⟩
  unfold ExitHandling.dispatch
  rw [h.row]
  dsimp only
  rw [← hdelivery, h.acts]
  cases delivery with
  | none => exact ⟨row, none, .refl row, h.row, h.wav, rfl⟩
  | some delivery =>
      have hsame : SameButDelivery row delivery.call := by
        unfold dispatchWebhook at hdelivery
        dsimp only at hdelivery
        split_ifs at hdelivery
        rw [Option.some.inj hdelivery]
        exact sameButDelivery_deliver _ _ _ _ _ row
      refine ⟨delivery.call, some delivery, hsame, ?_, h.wav, rfl⟩
      exact findRow_modifyRow h.row (hsame.id_eq.trans (findRow_mem h.row).2)

theorem Shows.deleteLocalWav (h : Shows id w row wav acts) :
    Shows id (deleteLocalWav env w) row (wav && env.unlink = .osError) acts := by
  unfold ExitHandling.deleteLocalWav
  cases env.unlink with
  | removed => exact ⟨h.row, by simp, h.acts⟩
  | osError => exact ⟨h.row, by simp [h.wav], h.acts⟩

theorem Shows.reclaimRows (h : Shows id w row wav acts) (outcome : Uuid → RetentionOutcome)
    (ids : List Uuid) :
    ∃ (kept : Call) (reclaimed : List Uuid), Shows id (ids.foldl (reclaimRow outcome) w) kept wav
        (acts ++ reclaimed.map ExitAct.reclaim) ∧
      (∀ i ∈ reclaimed, i ∈ ids) ∧ kept.status = row.status ∧
      kept.audioUrl = if id ∈ reclaimed then none else row.audioUrl := by
  induction ids generalizing w row acts with
  | nil => exact ⟨row, [], by simpa using h, by simp, rfl, by simp⟩
  | cons i ids ih =>
      rw [List.foldl_cons]
      cases houtcome : outcome i with
      | reclaimed now =>
          obtain ⟨next, hnext⟩ : ∃ next : Call, next =
              if id = i then withoutAudio now row else row := ⟨_, rfl⟩
          have hshows : Shows id (reclaimRow outcome w i) next wav (acts ++ [.reclaim i]) := by
            unfold reclaimRow
            rw [houtcome]
            refine ⟨?_, h.wav, ?_⟩
            · dsimp only
              rw [findRow_modifyRow_of_id (f := withoutAudio now) fun _ hrow => hrow, h.row, hnext]
              split_ifs <;> rfl
            · dsimp only
              rw [h.acts]
          obtain ⟨kept, reclaimed, hkept, hmem, hstatus, hurl⟩ := ih hshows
          refine ⟨kept, i :: reclaimed, ?_, ?_, ?_, ?_⟩
          · rw [List.map_cons, List.append_cons]
            exact hkept
          · intro j hj
            rcases List.mem_cons.1 hj with rfl | hj
            · exact List.mem_cons_self
            · exact List.mem_cons_of_mem i (hmem j hj)
          · rw [hstatus, hnext]
            split_ifs <;> rfl
          · rw [hurl, hnext]
            by_cases hid : id = i <;> simp [hid, withoutAudio]
      | skipped | deleted =>
          have hshows : Shows id (reclaimRow outcome w i) row wav acts := by
            unfold reclaimRow
            rw [houtcome]
            exact h
          obtain ⟨kept, reclaimed, hkept, hmem, hstatus, hurl⟩ := ih hshows
          exact ⟨kept, reclaimed, hkept, fun j hj => List.mem_cons_of_mem i (hmem j hj), hstatus, hurl⟩

theorem Shows.runRetentionSweep (h : Shows id w row wav acts) :
    ∃ (kept : Call) (reclaimed : List Uuid), Shows id (runRetentionSweep cfg env w) kept wav
        (acts ++ reclaimed.map ExitAct.reclaim) ∧
      (∀ i ∈ reclaimed, ∃ ids, expiredIds cfg.runner env.retentionNow w.rows = some ids ∧ i ∈ ids) ∧
      kept.status = row.status ∧ kept.audioUrl = if id ∈ reclaimed then none else row.audioUrl := by
  unfold ExitHandling.runRetentionSweep
  cases env.retention with
  | none => exact ⟨row, [], by simpa using h, by simp, rfl, by simp⟩
  | some outcome =>
      cases hids : expiredIds cfg.runner env.retentionNow w.rows with
      | none => exact ⟨row, [], by simpa using h, by simp, rfl, by simp⟩
      | some ids =>
          obtain ⟨kept, reclaimed, hkept, hmem, hstatus, hurl⟩ := h.reclaimRows outcome ids
          exact ⟨kept, reclaimed, hkept, fun i hi => ⟨ids, rfl, hmem i hi⟩, hstatus, hurl⟩

end Specs

theorem audioUrl_update (call : Call) (url : Text) (now : Timestamp) :
    (call.update [.audioUrl url] now).audioUrl = some url := by
  obtain ⟨updatedAt, hupdate⟩ := call.exists_update_single (.audioUrl url) now
  rw [hupdate]
  rfl

theorem audioUrl_markTranscriptionFailed {limit : ℤ} {now : Timestamp} {row : Call}
    {detail url : Text} {todo : List Statement} (hurl : url ≠ [])
    (h : (Transition.markTranscriptionFailed detail url).body limit now row = some todo) :
    (applyStatements row todo).audioUrl = some url := by
  have hlegal : CallStatus.Legal row.status .failed := (Transition.body_eq_some h).1
  have htodo := todo_of_statements (transition_eq_ok hlegal _) h
  rw [if_neg hurl] at htodo
  subst htodo
  exact audioUrl_update _ url now

theorem audioUrl_markFailed {now : Timestamp} {row : Call} {reason : Text} {todo : List Statement}
    (hlegal : CallStatus.Legal row.status .failed)
    (h : statements now (CallService.markFailed row.id (some row) reason) [] = some todo) :
    (applyStatements row todo).audioUrl = row.audioUrl := by
  have htodo := todo_of_statements (transition_eq_ok hlegal _) h
  subst htodo
  change (row.update [.status .failed, .failureReason reason] now).audioUrl = row.audioUrl
  rw [Call.update_status now hlegal (by simp [FieldChange.column])]
  rfl

/-! ## The handling of an exit -/

section Completion

variable (cfg : WorkerSettings) (env : ExitEnv) (id : Uuid) (exitCode : ExitCode)
  (result : Option ResultPayload) (row : Call) (wav : Bool)

def Uploads : Prop := entersPipeline exitCode row.status result ∧ wav ∧ env.upload = .uploaded

def Succeeds : Prop :=
  Uploads env exitCode result row wav ∧ env.source = .ready ∧
    ∃ segments, env.transcription = .transcript segments

instance : Decidable (Uploads env exitCode result row wav) :=
  inferInstanceAs (Decidable (_ ∧ _ ∧ _))

/-- The handling has ended: `committed` is the terminal row, behind whose commit the one dispatch of the
webhook reads it, and `new` the row at the return. -/
structure ExitCompleted (t : ExitWorld) (commits : List Call) (committed new : Call)
    (delivery : Option Delivery) (reclaimed : List Uuid) : Prop where
  acts : t.acts = (commits ++ [committed]).map ExitAct.commit ++
    .dispatch (some committed) delivery :: reclaimed.map ExitAct.reclaim
  live : ∀ c ∈ commits, ¬ c.status.Terminal
  found : findRow t.rows id = some new
  status : new.status = committed.status
  ended : new.status = .done ∨ new.status = .failed
  done_iff : new.status = .done ↔ Succeeds env exitCode result row wav
  stored : committed.audioUrl = if Uploads env exitCode result row wav then
    some (cfg.runner.storage.objectUri id) else row.audioUrl
  audioUrl : new.audioUrl = if id ∈ reclaimed then none else committed.audioUrl
  /-- Only behind a `done` call is there a pass, and what it reclaims is expired by then. -/
  expired : ∀ i ∈ reclaimed, new.status = .done ∧ ∃ rows ids delivered,
    findRow rows id = some delivered ∧ SameButDelivery committed delivered ∧
      expiredIds cfg.runner env.retentionNow rows = some ids ∧ i ∈ ids
  removed : (wav ∧ t.wav = false) ↔ Uploads env exitCode result row wav ∧ env.unlink = .removed

end Completion

section Completion

variable {cfg : WorkerSettings} {env : ExitEnv} {id : Uuid} {exitCode : ExitCode}
  {result : Option ResultPayload} {row : Call} {wav : Bool}

theorem completed_of_failed {w t : ExitWorld} {commits : List Call} {committed : Call} {left : Bool}
    (h : Shows id w committed left ((commits ++ [committed]).map ExitAct.commit))
    (ht : t = dispatch cfg env id w) (hlive : ∀ c ∈ commits, ¬ c.status.Terminal)
    (hstatus : committed.status = .failed) (hstops : ¬ Succeeds env exitCode result row wav)
    (hstored : committed.audioUrl = if Uploads env exitCode result row wav then
      some (cfg.runner.storage.objectUri id) else row.audioUrl)
    (hwav : (wav ∧ left = false) ↔ Uploads env exitCode result row wav ∧ env.unlink = .removed) :
    ∃ commits committed new delivery reclaimed, ExitCompleted cfg env id exitCode result row wav t
      commits committed new delivery reclaimed := by
  obtain ⟨delivered, delivery, hsame, hshows⟩ : ∃ delivered delivery,
      SameButDelivery committed delivered ∧ Shows id (dispatch cfg env id w) delivered left _ :=
    h.dispatch
  rw [← ht] at hshows
  have hfailed : delivered.status = .failed := hsame.status_eq.trans hstatus
  refine ⟨commits, committed, delivered, delivery, [], ?_⟩
  exact {
    acts := hshows.acts
    live := hlive
    found := hshows.row
    status := hsame.status_eq
    ended := .inr hfailed
    done_iff := by simp [hfailed, hstops]
    stored := hstored
    audioUrl := by
      obtain ⟨_, _, _, hnew⟩ := hsame
      rw [hnew]
      rfl
    expired := by simp
    removed := by
      rw [hshows.wav]
      exact hwav }

theorem legal_failed_of_processing {processing : Call} (h : processing.status = .processing) :
    CallStatus.Legal processing.status .failed := by
  rw [h]
  exact CallStatus.legal_processing_failed

theorem live_of_processing {processing : Call} (h : processing.status = .processing) :
    ∀ c ∈ [processing], ¬ c.status.Terminal := by
  intro c hc
  rw [List.mem_singleton.1 hc, h]
  decide

theorem completed_of_uploadFailed {w t : ExitWorld} {processing : Call}
    (h : Shows id w processing wav [.commit processing]) (hstatus : processing.status = .processing)
    (haudio : processing.audioUrl = row.audioUrl) (ht : t = markUploadFailed cfg env id w)
    (hstops : ¬ Uploads env exitCode result row wav) :
    ∃ commits committed new delivery reclaimed, ExitCompleted cfg env id exitCode result row wav t
      commits committed new delivery reclaimed := by
  have hlegal := legal_failed_of_processing hstatus
  obtain ⟨todo, marked, hbody, htransact, hshows⟩ : ∃ todo marked,
      Transition.markUploadFailed.body cfg.runner.callConcurrencyLimit env.outcomeNow processing =
        some todo ∧ transact cfg id .markUploadFailed env.outcomeNow w = some marked ∧
      Shows id marked (applyStatements processing todo) wav _ := h.transact hlegal
  rw [markUploadFailed, htransact] at ht
  have hfailed : (applyStatements processing todo).status = .failed :=
    Transition.status_of_body hbody
  have hurl : (applyStatements processing todo).audioUrl = row.audioUrl :=
    (audioUrl_markFailed hlegal hbody).trans haudio
  refine completed_of_failed hshows ht (live_of_processing hstatus) hfailed (fun hs => hstops hs.1)
    ?_ ?_
  · rw [hurl, if_neg hstops]
  · constructor
    · rintro ⟨hwav, hgone⟩
      rw [hwav] at hgone
      cases hgone
    · exact fun hs => absurd hs.1 hstops

theorem completed_of_transcriptionFailed {w t : ExitWorld} {processing : Call} {detail : Text}
    (h : Shows id w processing wav [.commit processing]) (hstatus : processing.status = .processing)
    (hup : Uploads env exitCode result row wav)
    (ht : t = markTranscriptionFailed cfg env id detail (cfg.runner.storage.objectUri id) w)
    (hstops : ¬ Succeeds env exitCode result row wav) :
    ∃ commits committed new delivery reclaimed, ExitCompleted cfg env id exitCode result row wav t
      commits committed new delivery reclaimed := by
  have hlegal := legal_failed_of_processing hstatus
  obtain ⟨uri, huri⟩ : ∃ uri, uri = cfg.runner.storage.objectUri id := ⟨_, rfl⟩
  have hne : uri ≠ [] := huri ▸ cfg.runner.storage.objectUri_ne_nil id
  rw [← huri] at ht
  obtain ⟨todo, marked, hbody, htransact, hshows⟩ : ∃ todo marked,
      (Transition.markTranscriptionFailed detail uri).body cfg.runner.callConcurrencyLimit
        env.outcomeNow processing = some todo ∧
      transact cfg id (.markTranscriptionFailed detail uri) env.outcomeNow w = some marked ∧
      Shows id marked (applyStatements processing todo) wav _ := h.transact hlegal
  rw [markTranscriptionFailed, htransact] at ht
  have hfailed : (applyStatements processing todo).status = .failed :=
    Transition.status_of_body hbody
  have hcleaned : Shows id (deleteLocalWav env marked) _ _ _ := hshows.deleteLocalWav
  refine completed_of_failed hcleaned ht (live_of_processing hstatus) hfailed hstops ?_ ?_
  · rw [audioUrl_markTranscriptionFailed hne hbody, if_pos hup, huri]
  · have hwav : wav = true := hup.2.1
    rw [hwav]
    cases env.unlink <;> simp [hup, ← hwav]

theorem completed_of_done {w t : ExitWorld} {processing : Call} {endReason : Text}
    {segments : List SpeakerSegment} (h : Shows id w processing wav [.commit processing])
    (hstatus : processing.status = .processing) (hall : Succeeds env exitCode result row wav)
    (ht : t = finishDoneCall cfg env id endReason (cfg.runner.storage.objectUri id) segments w) :
    ∃ commits committed new delivery reclaimed, ExitCompleted cfg env id exitCode result row wav t
      commits committed new delivery reclaimed := by
  have hlegal : CallStatus.Legal processing.status .done := by
    rw [hstatus]
    exact CallStatus.legal_processing_done
  obtain ⟨uri, huri⟩ : ∃ uri, uri = cfg.runner.storage.objectUri id := ⟨_, rfl⟩
  rw [← huri] at ht
  obtain ⟨todo, marked, hbody, htransact, hshows⟩ : ∃ todo marked,
      (Transition.finishDoneCall endReason uri segments).body cfg.runner.callConcurrencyLimit
        env.outcomeNow processing = some todo ∧
      transact cfg id (.finishDoneCall endReason uri segments) env.outcomeNow w = some marked ∧
      Shows id marked (applyStatements processing todo) wav _ := h.transact hlegal
  rw [finishDoneCall, htransact] at ht
  dsimp only at ht
  have hdone : (applyStatements processing todo).status = .done := Transition.status_of_body hbody
  have hurl : (applyStatements processing todo).audioUrl = some uri := by
    have hwritten := Transition.written hbody
    generalize applyStatements processing todo = committed at hwritten hdone
    cases hwritten with
    | done => rfl
    | failed => cases hdone
  have hcleaned : Shows id (deleteLocalWav env marked) _ _ _ := hshows.deleteLocalWav
  obtain ⟨delivered, delivery, hsame, hdispatched⟩ : ∃ delivered delivery,
      SameButDelivery (applyStatements processing todo) delivered ∧
      Shows id (dispatch cfg env id (deleteLocalWav env marked)) delivered _ _ := hcleaned.dispatch
  obtain ⟨new, reclaimed, hswept, hexpired, hkept, hnew⟩ : ∃ new reclaimed,
      Shows id (runRetentionSweep cfg env _) new _ _ ∧ _ := hdispatched.runRetentionSweep
  rw [← ht] at hswept
  have hstatus' : new.status = (applyStatements processing todo).status :=
    hkept.trans hsame.status_eq
  have hwav : wav = true := hall.1.2.1
  refine ⟨[processing], applyStatements processing todo, new, delivery, reclaimed, ?_⟩
  exact {
    acts := by
      rw [hswept.acts]
      simp
    live := live_of_processing hstatus
    found := hswept.row
    status := hstatus'
    ended := .inl (hstatus'.trans hdone)
    done_iff := iff_of_true (hstatus'.trans hdone) hall
    stored := by rw [hurl, if_pos hall.1, huri]
    audioUrl := by
      obtain ⟨_, _, _, hdelivered⟩ := hsame
      rw [hnew, hdelivered]
    expired := by
      intro i hi
      obtain ⟨ids, hids, hmem⟩ := hexpired i hi
      exact ⟨hstatus'.trans hdone, _, ids, delivered, hdispatched.row, hsame, hids, hmem⟩
    removed := by
      rw [hswept.wav, hwav]
      have hup := hall.1
      rw [hwav] at hup
      cases env.unlink <;> simp [hup] }

theorem completed_of_pipeline {w t : ExitWorld} {processing : Call} {endReason : Text}
    (h : Shows id w processing wav [.commit processing]) (hstatus : processing.status = .processing)
    (haudio : processing.audioUrl = row.audioUrl)
    (hpipeline : entersPipeline exitCode row.status result)
    (ht : t = runPipeline cfg env id endReason w) :
    ∃ commits committed new delivery reclaimed, ExitCompleted cfg env id exitCode result row wav t
      commits committed new delivery reclaimed := by
  unfold runPipeline uploadCallAudio at ht
  rw [h.wav] at ht
  cases wav with
  | false =>
      exact completed_of_uploadFailed h hstatus haudio ht fun hup => by cases hup.2.1
  | true =>
      rw [if_neg (by simp)] at ht
      cases hupload : env.upload with
      | misconfigured | failed =>
          rw [hupload] at ht
          refine completed_of_uploadFailed h hstatus haudio ht fun hup => ?_
          rw [hup.2.2] at hupload
          cases hupload
      | uploaded =>
          have hup : Uploads env exitCode result row true := ⟨hpipeline, rfl, hupload⟩
          rw [hupload] at ht
          unfold transcribableSource at ht
          cases hsource : env.source with
          | misconfigured | unavailable =>
              rw [hsource] at ht
              refine completed_of_transcriptionFailed h hstatus hup ht fun hall => ?_
              rw [hall.2.1] at hsource
              cases hsource
          | ready =>
              rw [hsource] at ht
              unfold transcribeCall at ht
              cases htranscription : env.transcription with
              | misconfigured message | error message =>
                  rw [htranscription] at ht
                  refine completed_of_transcriptionFailed h hstatus hup ht fun hall => ?_
                  obtain ⟨segments, hsegments⟩ := hall.2.2
                  rw [hsegments] at htranscription
                  cases htranscription
              | transcript segments =>
                  rw [htranscription] at ht
                  exact completed_of_done h hstatus ⟨hup, hsource, segments, htranscription⟩ ht

variable (cfg env exitCode result) in
/-- Every exit of a call that is joining or recording is handled to the end. -/
theorem applyExitStatus_completes (rows : List Call) (hrow : findRow rows id = some row)
    (hstatus : row.status = .joining ∨ row.status = .recording) :
    ∃ commits committed new delivery reclaimed, ExitCompleted cfg env id exitCode result row wav
      (applyExitStatus cfg env id exitCode result ⟨rows, wav, []⟩) commits committed new delivery
      reclaimed := by
  have hlive : ¬ row.status.Terminal := by
    rcases hstatus with hstatus | hstatus <;> rw [hstatus] <;> decide
  have hstart : Shows id ⟨rows, wav, []⟩ row wav [] := ⟨hrow, rfl, rfl⟩
  have hlegal : CallStatus.Legal row.status
      ((Transition.applyExitStatus exitCode result).target cfg.runner.callConcurrencyLimit row) := by
    rw [Transition.target]
    split_ifs with hpipeline
    · rw [recording_of_entersPipeline hpipeline]
      decide
    · exact (CallStatus.legal_failed_iff _).2 hlive
  obtain ⟨todo, w, hbody, htransact, hshows⟩ : ∃ todo w,
      (Transition.applyExitStatus exitCode result).body cfg.runner.callConcurrencyLimit env.exitNow
        row = some todo ∧
      transact cfg id (.applyExitStatus exitCode result) env.exitNow ⟨rows, wav, []⟩ = some w ∧
      Shows id w (applyStatements row todo) wav _ := hstart.transact hlegal
  have hmoved := Transition.status_of_body hbody
  rw [Transition.target] at hmoved
  have hrun : applyExitStatus cfg env id exitCode result ⟨rows, wav, []⟩ =
      if entersPipeline exitCode row.status result then
        runPipeline cfg env id (exitEndReason exitCode row.status result) w
      else dispatch cfg env id w := by
    rw [applyExitStatus, hstart.row]
    dsimp only
    rw [if_neg hlive, htransact]
  rw [hrun]
  by_cases hpipeline : entersPipeline exitCode row.status result
  · rw [if_pos hpipeline] at hmoved ⊢
    have haudio : (applyStatements row todo).audioUrl = row.audioUrl := by
      have hwritten := Transition.written hbody
      generalize applyStatements row todo = processing at hwritten hmoved
      cases hwritten with
      | processing => rfl
      | failed => cases hmoved
    exact completed_of_pipeline hshows hmoved haudio hpipeline rfl
  · rw [if_neg hpipeline] at hmoved ⊢
    have hstops : ¬ Uploads env exitCode result row wav := fun hup => hpipeline hup.1
    have hfailing : CallStatus.Legal row.status .failed := (CallStatus.legal_failed_iff _).2 hlive
    rw [Transition.body, if_neg hlive, exitPayload, if_neg hpipeline] at hbody
    have hfirst : Shows id w (applyStatements row todo) wav
        (([] ++ [applyStatements row todo]).map ExitAct.commit) := hshows
    refine completed_of_failed hfirst rfl (by simp) hmoved (fun hs => hstops hs.1) ?_ ?_
    · rw [audioUrl_markFailed hfailing hbody, if_neg hstops]
    · constructor
      · rintro ⟨hwav, hgone⟩
        rw [hwav] at hgone
        cases hgone
      · exact fun hs => absurd hs.1 hstops

end Completion

/-! ## The audio of a call that is done -/

def sampleWorkers : WorkerSettings where
  runner := sampleSettings
  webhookMaxAttempts := 7
  codec := sampleCodec

def smoothEnv (unlink : UnlinkOutcome) : ExitEnv where
  upload := .uploaded
  source := .ready
  transcription := .transcript []
  unlink := unlink
  receiver := answersAtOnce 200
  retention := some fun _ => .reclaimed 50
  exitNow := 10
  outcomeNow := 20
  dispatchTx := 30
  dispatchNow := 30
  retentionNow := 40

def smoothExit (unlink : UnlinkOutcome) : ExitWorld :=
  applyExitStatus sampleWorkers (smoothEnv unlink) 0 (some 0) none ⟨[sampleCall .recording], true, []⟩

/-- The upload succeeds, but the retention pass has taken the URI by the return, and a disk that does not
remove the WAV leaves it there. -/
theorem not_audioUrl_smoothExit :
    ¬ (((findRow (smoothExit .removed).rows 0).bind Call.audioUrl).isSome ↔
        Uploads (smoothEnv .removed) (some 0) none (sampleCall .recording) true) ∧
      ¬ ((smoothExit .osError).wav = false ↔
        Uploads (smoothEnv .osError) (some 0) none (sampleCall .recording) true) := by
  decide +kernel

theorem applyExitStatus_completes_smoothExit :
    ∃ commits committed new delivery reclaimed, ExitCompleted sampleWorkers (smoothEnv .removed) 0
      (some 0) none (sampleCall .recording) true (smoothExit .removed) commits committed new delivery
      reclaimed :=
  applyExitStatus_completes sampleWorkers (smoothEnv .removed) (some 0) none
    [sampleCall .recording] rfl (.inr rfl)

end Notetaker.ExitHandling

import Notetaker.CallWrites
import Notetaker.ResponseShape
import Notetaker.TranscriptionService

/-!
# What a failed transcription tells about the recording

The transcription stage of `workers/bot_runner.py` from the storage adapter to the row: presigned URL,
stored path, API key, the texts of the libraries' exceptions and the transcript are all there. Of these
nothing gets into `failure_reason`: it is a function of what `StageRun.observed` says about a run, the size
of the audio, the kinds of the exceptions, the HTTP statuses and the shapes of the bodies.
-/

open PythonText PythonFloat PythonUuid JsonText

namespace Notetaker.FailureReason

open Deepgram TranscriptionService

/-! ## The stored object -/

/-- The exceptions that `transcribable_source` distinguishes. -/
inductive StorageKind where
  /-- `BotoCoreError` -/
  | botoCore
  /-- `ClientError` -/
  | client
  /-- `OSError` -/
  | os
  /-- `KeyError` -/
  | key
  | other
  deriving DecidableEq

structure StorageException where
  kind : StorageKind
  text : Text

inductive AudioLocation where
  | url (presigned : Text)
  | localPath (path : Text)

structure AudioSource where
  location : AudioLocation
  sizeBytes : ℤ

inductive AdapterKind where
  | s3 | disk
  deriving DecidableEq

/-- An adapter with what the bucket or the disk answers: `int(head["ContentLength"])` and the presigned
URL, or the size of the file. -/
inductive StorageAdapter where
  | s3 (head : Except StorageException ℤ) (presign : Except StorageException Text)
  | disk (target : Text) (stat : Except StorageException ℤ)

/-- The `except` clauses of the two adapters. -/
def AdapterKind.catches : AdapterKind → StorageKind → Bool
  | s3, kind => kind ≠ .other
  | disk, kind => kind = .os

inductive SourceError where
  /-- `SourceUnavailable` -/
  | unavailable (message : Text)
  | escaped (e : StorageException)

def sourceError (callId : Uuid) (adapter : AdapterKind) (e : StorageException) : SourceError :=
  if adapter.catches e.kind then
    .unavailable (concat ["stored audio unavailable for call ", callId.text])
  else .escaped e

def StorageAdapter.transcribableSource (callId : Uuid) :
    StorageAdapter → Except SourceError AudioSource
  | s3 head presign =>
      match head with
      | .error e => .error (sourceError callId .s3 e)
      | .ok size =>
          match presign with
          | .error e => .error (sourceError callId .s3 e)
          | .ok url => .ok ⟨.url url, size⟩
  | disk target stat =>
      match stat with
      | .error e => .error (sourceError callId .disk e)
      | .ok size => .ok ⟨.localPath target, size⟩

/-- `build_object_storage_service` raises `ConfigurationError`, or something else. -/
structure BuildException where
  configuration : Bool
  text : Text

/-! ## The provider -/

inductive ProviderKind where
  /-- `httpx.TimeoutException` -/
  | timeout
  /-- `httpx.TransportError` -/
  | transport
  /-- `OSError` -/
  | os
  | other
  deriving DecidableEq

structure ProviderException where
  kind : ProviderKind
  text : Text

inductive ProviderAnswer where
  | raised (e : ProviderException)
  | response (status : ℕ) (body : Text)

inductive RequestBody where
  /-- `json={"url": …}` -/
  | url (presigned : Text)
  /-- The chunks of the file. -/
  | file (path : Text)

structure DeepgramRequest where
  url : Text
  params : List (Text × Text)
  headers : List (Text × Text)
  body : RequestBody

def deepgramListenUrl : Text := "https://api.deepgram.com/v1/listen"

def params : List (Text × Text) :=
  [("model", "nova-3"), ("diarize_model", "latest"), ("utterances", "true"), ("punctuate", "true"),
    ("smart_format", "true")]

def deepgramRequest (apiKey : Text) (source : AudioSource) : DeepgramRequest :=
  let auth : Text × Text := ("Authorization", concat ["Token ", apiKey])
  match source.location with
  | .url presigned => ⟨deepgramListenUrl, params, [auth], .url presigned⟩
  | .localPath path =>
      ⟨deepgramListenUrl, params, [auth, ("Content-Type", "audio/wav")], .file path⟩

/-- What the `except` clauses make of an answer; `none` escapes. -/
def ProviderAnswer.httpResult : ProviderAnswer → Option HttpResult
  | raised e =>
      match e.kind with
      | .timeout => some .timeout
      | .transport => some .transportError
      | .os => some .unreadableAudio
      | .other => none
  | response status body => some (.response status body)

/-! ## The service -/

inductive Client where
  | deepgram (apiKey : Text)
  | stub

inductive ProviderSetting where
  | deepgram | stub
  deriving DecidableEq

structure TranscriptionSettings where
  provider : Option ProviderSetting
  /-- `ENVIRONMENT == "production"` -/
  production : Bool
  deepgramApiKey : Option Text
  audioMaxBytes : ℤ

/-- `not settings.deepgram_api_key` is false. -/
def TranscriptionSettings.keyConfigured (settings : TranscriptionSettings) : Bool :=
  settings.deepgramApiKey.getD [] ≠ []

/-- The client of the service that is built or cached; the error is a `ConfigurationError`. -/
def buildTranscriptionService (cached : Option Client) (settings : TranscriptionSettings) :
    Except Text Client :=
  match cached with
  | some client => .ok client
  | none =>
      match settings.provider with
      | some .deepgram =>
          if settings.keyConfigured then .ok (.deepgram (settings.deepgramApiKey.getD []))
          else .error "DEEPGRAM_API_KEY is not configured (TRANSCRIPTION_PROVIDER=deepgram)"
      | some .stub =>
          if settings.production then
            .error (concat ["TRANSCRIPTION_PROVIDER=stub is not valid in production: ",
              "configure the real provider"])
          else .ok .stub
      | none =>
          if settings.production then
            .error (concat ["TRANSCRIPTION_PROVIDER is not configured: production requires ",
              "a transcription provider (deepgram)"])
          else .ok .stub

/-- The answers of the provider, and how the transcription ends; `none` is an exception of a library that
escapes. -/
structure Attempts where
  answers : List ProviderAnswer
  ended : Option (Except Failure Transcript)

section Service

variable (isPrintable : Char → Bool) (lim : Limits)

/-- One request; `none` is an exception of a library that escapes. -/
def answered (answer : ProviderAnswer) : Option (Except DeepgramError Transcript) :=
  answer.httpResult.map fun result => (Deepgram.transcribe isPrintable lim result).result

/-- `_transcribe_with_retries` from number `attempt` on, with `left` requests left. -/
def attempts (answer : ℕ → ProviderAnswer) : (left attempt : ℕ) → (lastError : Text) → Attempts
  | 0, _, lastError => ⟨[], some (.error (.client (.permanent (concat
      ["transcription failed after ", natText retryAttempts, " attempts: ", lastError]))))⟩
  | left + 1, attempt, _ =>
      match answered isPrintable lim (answer attempt) with
      | none => ⟨[answer attempt], none⟩
      | some (.error (.transient message)) =>
          let rest := attempts answer left (attempt + 1) message
          { rest with answers := answer attempt :: rest.answers }
      | some (.error e) => ⟨[answer attempt], some (.error (.client e))⟩
      | some (.ok transcript) => ⟨[answer attempt], some (.ok transcript)⟩

/-- `TranscriptionService.transcribe` with the size guard. -/
def serve (send : ℕ → DeepgramRequest → ProviderAnswer) (audioMaxBytes : ℤ) (client : Client)
    (source : AudioSource) : Attempts :=
  if audioMaxBytes < source.sizeBytes then
    ⟨[], some (.error (.audioTooLarge (concat ["audio too large: ", intText source.sizeBytes,
      " bytes > AUDIO_MAX_BYTES (", intText audioMaxBytes, ")"])))⟩
  else
    match client with
    | .stub => ⟨[], some (.ok [])⟩
    | .deepgram apiKey =>
        attempts isPrintable lim (fun attempt => send attempt (deepgramRequest apiKey source))
          retryAttempts 0 "None"

end Service

/-! ## The stage -/

inductive StageEnd where
  /-- `_mark_transcription_failed` -/
  | marked (detail : Text)
  | transcript (segments : Transcript)
  /-- An exception that no clause catches. -/
  | escaped

/-- `_failure_detail` of a `TranscriptionError`; other exceptions go on. -/
def endOfFailure : Failure → StageEnd
  | .audioTooLarge message => .marked message
  | .client (.permanent message) => .marked message
  | .client (.transient message) => .marked message
  | .client .overflow => .escaped
  | .client .recursion => .escaped

def Attempts.stageEnd (run : Attempts) : StageEnd :=
  match run.ended with
  | none => .escaped
  | some (.error failure) => endOfFailure failure
  | some (.ok segments) => .transcript segments

/-- A run of the stage, with what its surroundings are and answer. -/
structure StageRun where
  callId : Uuid
  audioUrl : Text
  storage : Except BuildException StorageAdapter
  cached : Option Client
  settings : TranscriptionSettings
  /-- The answer to the request of a number. -/
  send : ℕ → DeepgramRequest → ProviderAnswer
  /-- The row that the marking transaction reads, and its time. -/
  row : Option Call
  now : Timestamp
  callConcurrencyLimit : ℤ

namespace StageRun

def transcribableSource (run : StageRun) : Except StageEnd AudioSource :=
  match run.storage with
  | .error e => .error (if e.configuration then .marked "storage_misconfigured" else .escaped)
  | .ok adapter =>
      match adapter.transcribableSource run.callId with
      | .error (.unavailable _) => .error (.marked "source_unavailable")
      | .error (.escaped _) => .error .escaped
      | .ok source => .ok source

section Stage

variable (isPrintable : Char → Bool) (lim : Limits)

/-- `_transcribe_call`, with the answers of the provider. -/
def transcribeCall (run : StageRun) (source : AudioSource) : List ProviderAnswer × StageEnd :=
  match buildTranscriptionService run.cached run.settings with
  | .error message => ([], .marked (concat ["misconfigured: ", message]))
  | .ok client =>
      let served := serve isPrintable lim run.send run.settings.audioMaxBytes client source
      (served.answers, served.stageEnd)

def stage (run : StageRun) : List ProviderAnswer × StageEnd :=
  match run.transcribableSource with
  | .error ended => ([], ended)
  | .ok source => run.transcribeCall isPrintable lim source

/-- The transaction of `_mark_transcription_failed`; `none` when it is rolled back or finds no row. -/
def markTranscriptionFailed (run : StageRun) (detail : Text) : Option Call :=
  run.row.bind fun row =>
    ((Transition.markTranscriptionFailed detail run.audioUrl).body run.callConcurrencyLimit run.now
      row).map (applyStatements row)

def persistedReason (run : StageRun) : Option Text :=
  match (run.stage isPrintable lim).2 with
  | .marked detail => (run.markTranscriptionFailed detail).bind Call.failureReason
  | _ => none

end Stage

end StageRun

/-! ## What may show -/

inductive SourceView where
  | buildRaised (configuration : Bool)
  | raised (adapter : AdapterKind) (kind : StorageKind)
  | size (bytes : ℤ)
  deriving DecidableEq

def viewSource : Except BuildException StorageAdapter → SourceView
  | .error e => .buildRaised e.configuration
  | .ok (.s3 (.error e) _) => .raised .s3 e.kind
  | .ok (.s3 (.ok _) (.error e)) => .raised .s3 e.kind
  | .ok (.s3 (.ok size) (.ok _)) => .size size
  | .ok (.disk _ (.error e)) => .raised .disk e.kind
  | .ok (.disk _ (.ok size)) => .size size

inductive AnswerView where
  | raised (kind : ProviderKind)
  | response (status : ℕ) (shape : Except JsonError Json)

/-- An answer without the text of its exception and without the texts in its body. -/
def viewAnswer (lim : Limits) : ProviderAnswer → AnswerView
  | .raised e => .raised e.kind
  | .response status body => .response status ((loads lim body).map Json.eraseStrings)

def Client.isStub : Client → Bool
  | deepgram _ => false
  | stub => true

structure Observed where
  source : SourceView
  cached : Option Bool
  provider : Option ProviderSetting
  production : Bool
  keyConfigured : Bool
  audioMaxBytes : ℤ
  /-- The answers that the run receives. -/
  answers : List AnswerView
  /-- The status of the row that the marking transaction reads. -/
  status : Option CallStatus

/-- Everything about a run except the presigned URL, the stored path, the API key, the texts of the
exceptions and the texts of the responses. -/
def StageRun.observed (isPrintable : Char → Bool) (lim : Limits) (run : StageRun) : Observed where
  source := viewSource run.storage
  cached := run.cached.map Client.isStub
  provider := run.settings.provider
  production := run.settings.production
  keyConfigured := run.settings.keyConfigured
  audioMaxBytes := run.settings.audioMaxBytes
  answers := (run.stage isPrintable lim).1.map (viewAnswer lim)
  status := run.row.map Call.status

/-! ## The answers -/

section Answers

variable (isPrintable : Char → Bool) (lim : Limits)

def answerVerdict (answer : ProviderAnswer) : Deepgram.Verdict :=
  ((answered isPrintable lim answer).map verdict).getD .silent

theorem answerVerdict_response (status : ℕ) (body : Text) :
    answerVerdict isPrintable lim (.response status body) =
      verdict (Deepgram.transcribe isPrintable lim (.response status body)).result := rfl

theorem answerVerdict_congr {x y : ProviderAnswer} (h : viewAnswer lim x = viewAnswer lim y) :
    answerVerdict isPrintable lim x = answerVerdict isPrintable lim y := by
  cases x with
  | raised e =>
      cases y with
      | raised e' =>
          obtain ⟨kind, text⟩ := e
          obtain ⟨kind', text'⟩ := e'
          obtain rfl : kind = kind' := AnswerView.raised.inj h
          rfl
      | response => cases h
  | response status body =>
      cases y with
      | raised => cases h
      | response status' body' =>
          obtain ⟨rfl, hshape⟩ := AnswerView.response.inj h
          rw [answerVerdict_response, answerVerdict_response]
          exact verdict_transcribe_congr isPrintable hshape status

def StageEnd.detail : StageEnd → Option Text
  | marked detail => some detail
  | _ => none

variable {isPrintable lim}

theorem attempts_of_retry {answer : ℕ → ProviderAnswer} {attempt : ℕ} {message : Text}
    (h : answerVerdict isPrintable lim (answer attempt) = .retry message) (left : ℕ)
    (lastError : Text) :
    (attempts isPrintable lim answer (left + 1) attempt lastError).answers =
        answer attempt :: (attempts isPrintable lim answer left (attempt + 1) message).answers ∧
      (attempts isPrintable lim answer (left + 1) attempt lastError).stageEnd =
        (attempts isPrintable lim answer left (attempt + 1) message).stageEnd := by
  unfold answerVerdict at h
  rw [attempts]
  cases hanswered : answered isPrintable lim (answer attempt) with
  | none =>
      rw [hanswered] at h
      cases h
  | some ended =>
      rw [hanswered] at h
      cases ended with
      | ok transcript => cases h
      | error e =>
          cases e with
          | transient text =>
              cases h
              exact ⟨rfl, rfl⟩
          | _ => cases h

def finalDetail : Deepgram.Verdict → Option Text
  | .refused message => some message
  | _ => none

theorem attempts_of_final {answer : ℕ → ProviderAnswer} {attempt : ℕ}
    (h : ∀ message, answerVerdict isPrintable lim (answer attempt) ≠ .retry message) (left : ℕ)
    (lastError : Text) :
    (attempts isPrintable lim answer (left + 1) attempt lastError).answers = [answer attempt] ∧
      (attempts isPrintable lim answer (left + 1) attempt lastError).stageEnd.detail =
        finalDetail (answerVerdict isPrintable lim (answer attempt)) := by
  unfold answerVerdict at h ⊢
  rw [attempts]
  cases hanswered : answered isPrintable lim (answer attempt) with
  | none => exact ⟨rfl, rfl⟩
  | some ended =>
      rw [hanswered] at h
      cases ended with
      | ok transcript => exact ⟨rfl, rfl⟩
      | error e =>
          cases e with
          | transient message => exact absurd rfl (h message)
          | _ => exact ⟨rfl, rfl⟩

theorem detail_attempts_congr {f g : ℕ → ProviderAnswer} {left attempt : ℕ} {lastError : Text}
    (h : (attempts isPrintable lim f left attempt lastError).answers.map (viewAnswer lim) =
      (attempts isPrintable lim g left attempt lastError).answers.map (viewAnswer lim)) :
    (attempts isPrintable lim f left attempt lastError).stageEnd.detail =
      (attempts isPrintable lim g left attempt lastError).stageEnd.detail := by
  induction left generalizing attempt lastError with
  | zero => rfl
  | succ left ih =>
      have hfirst : ∀ answer : ℕ → ProviderAnswer, ∃ rest,
          (attempts isPrintable lim answer (left + 1) attempt lastError).answers =
            answer attempt :: rest := by
        intro answer
        by_cases hretry : ∃ message, answerVerdict isPrintable lim (answer attempt) = .retry message
        · obtain ⟨message, hretry⟩ := hretry
          exact ⟨_, (attempts_of_retry hretry left lastError).1⟩
        · exact ⟨[], (attempts_of_final (not_exists.1 hretry) left lastError).1⟩
      have hverdict : answerVerdict isPrintable lim (f attempt) =
          answerVerdict isPrintable lim (g attempt) := by
        obtain ⟨restF, hf⟩ := hfirst f
        obtain ⟨restG, hg⟩ := hfirst g
        rw [hf, hg, List.map_cons, List.map_cons] at h
        exact answerVerdict_congr isPrintable lim (List.cons.inj h).1
      by_cases hretry : ∃ message, answerVerdict isPrintable lim (f attempt) = .retry message
      · obtain ⟨message, hf⟩ := hretry
        have hg : answerVerdict isPrintable lim (g attempt) = .retry message := hverdict ▸ hf
        obtain ⟨hanswersF, hendF⟩ := attempts_of_retry hf left lastError
        obtain ⟨hanswersG, hendG⟩ := attempts_of_retry hg left lastError
        rw [hanswersF, hanswersG, List.map_cons, List.map_cons] at h
        rw [hendF, hendG]
        exact ih (List.cons.inj h).2
      · have hf := not_exists.1 hretry
        have hg : ∀ message, answerVerdict isPrintable lim (g attempt) ≠ .retry message := by
          intro message
          rw [← hverdict]
          exact hf message
        rw [(attempts_of_final hf left lastError).2, (attempts_of_final hg left lastError).2,
          hverdict]

theorem attempts_eq_requestsFrom {answer : ℕ → ProviderAnswer} {provider : ℕ → HttpResult}
    (h : ∀ attempt, (answer attempt).httpResult = some (provider attempt)) (left attempt : ℕ)
    (lastError : Text) :
    (attempts isPrintable lim answer left attempt lastError).ended =
      some (requestsFrom isPrintable lim provider left attempt lastError).result := by
  induction left generalizing attempt lastError with
  | zero => rfl
  | succ left ih =>
      have hanswered : answered isPrintable lim (answer attempt) =
          some (Deepgram.transcribe isPrintable lim (provider attempt)).result := by
        rw [answered, h, Option.map_some]
      rw [attempts, requestsFrom, hanswered]
      cases (Deepgram.transcribe isPrintable lim (provider attempt)).result with
      | ok transcript => rfl
      | error e =>
          cases e with
          | transient message => exact ih (attempt + 1) message
          | _ => rfl

end Answers

/-! ## The stage -/

section Stage

variable {isPrintable : Char → Bool} {lim : Limits} {a b : StageRun}

/-- The end of `_transcribable_source`, or the size of the source. -/
def sourceEnd : SourceView → Except StageEnd ℤ
  | .buildRaised configuration =>
      .error (if configuration then .marked "storage_misconfigured" else .escaped)
  | .raised adapter kind =>
      .error (if adapter.catches kind then .marked "source_unavailable" else .escaped)
  | .size bytes => .ok bytes

theorem sizeBytes_transcribableSource (run : StageRun) :
    run.transcribableSource.map AudioSource.sizeBytes = sourceEnd (viewSource run.storage) := by
  have hfault : ∀ adapter e, sourceError run.callId adapter e =
      if adapter.catches e.kind then
        .unavailable (concat ["stored audio unavailable for call ", run.callId.text])
      else .escaped e := fun _ _ => rfl
  unfold StageRun.transcribableSource StorageAdapter.transcribableSource
  cases run.storage with
  | error e => rfl
  | ok adapter =>
      cases adapter with
      | s3 head presign =>
          cases head with
          | error e =>
              change _ = Except.error (if AdapterKind.s3.catches e.kind then _ else _)
              dsimp only
              rw [hfault]
              split_ifs <;> rfl
          | ok size =>
              cases presign with
              | error e =>
                  change _ = Except.error (if AdapterKind.s3.catches e.kind then _ else _)
                  dsimp only
                  rw [hfault]
                  split_ifs <;> rfl
              | ok url => rfl
      | disk target stat =>
          cases stat with
          | error e =>
              change _ = Except.error (if AdapterKind.disk.catches e.kind then _ else _)
              dsimp only
              rw [hfault]
              split_ifs <;> rfl
          | ok size => rfl

theorem serve_congr {x y : AudioSource} {c d : Client} (hsize : x.sizeBytes = y.sizeBytes)
    (hlimit : a.settings.audioMaxBytes = b.settings.audioMaxBytes) (hclient : c.isStub = d.isStub)
    (h : (serve isPrintable lim a.send a.settings.audioMaxBytes c x).answers.map (viewAnswer lim) =
      (serve isPrintable lim b.send b.settings.audioMaxBytes d y).answers.map (viewAnswer lim)) :
    (serve isPrintable lim a.send a.settings.audioMaxBytes c x).stageEnd.detail =
      (serve isPrintable lim b.send b.settings.audioMaxBytes d y).stageEnd.detail := by
  unfold serve at h ⊢
  rw [hsize, hlimit] at h ⊢
  by_cases hlarge : b.settings.audioMaxBytes < y.sizeBytes
  · rw [if_pos hlarge, if_pos hlarge]
  · rw [if_neg hlarge, if_neg hlarge] at h ⊢
    cases c with
    | stub =>
        cases d with
        | stub => rfl
        | deepgram apiKey => cases hclient
    | deepgram apiKey =>
        cases d with
        | stub => cases hclient
        | deepgram apiKey' => exact detail_attempts_congr h

theorem buildTranscriptionService_congr
    (hcached : a.cached.map Client.isStub = b.cached.map Client.isStub)
    (hprovider : a.settings.provider = b.settings.provider)
    (hproduction : a.settings.production = b.settings.production)
    (hkey : a.settings.keyConfigured = b.settings.keyConfigured) :
    (buildTranscriptionService a.cached a.settings).map Client.isStub =
      (buildTranscriptionService b.cached b.settings).map Client.isStub := by
  unfold buildTranscriptionService
  cases hca : a.cached with
  | some client =>
      cases hcb : b.cached with
      | some client' =>
          rw [hca, hcb] at hcached
          exact congrArg Except.ok (Option.some.inj hcached)
      | none =>
          rw [hca, hcb] at hcached
          cases hcached
  | none =>
      cases hcb : b.cached with
      | some client' =>
          rw [hca, hcb] at hcached
          cases hcached
      | none =>
          dsimp only
          rw [hprovider, hproduction, hkey]
          cases b.settings.provider with
          | none => split_ifs <;> rfl
          | some provider =>
              cases provider with
              | deepgram =>
                  dsimp only
                  split_ifs <;> rfl
              | stub => rfl

theorem detail_transcribeCall_congr {x y : AudioSource} (hsize : x.sizeBytes = y.sizeBytes)
    (hcached : a.cached.map Client.isStub = b.cached.map Client.isStub)
    (hprovider : a.settings.provider = b.settings.provider)
    (hproduction : a.settings.production = b.settings.production)
    (hkey : a.settings.keyConfigured = b.settings.keyConfigured)
    (hlimit : a.settings.audioMaxBytes = b.settings.audioMaxBytes)
    (h : (a.transcribeCall isPrintable lim x).1.map (viewAnswer lim) =
      (b.transcribeCall isPrintable lim y).1.map (viewAnswer lim)) :
    (a.transcribeCall isPrintable lim x).2.detail =
      (b.transcribeCall isPrintable lim y).2.detail := by
  have hbuild := buildTranscriptionService_congr hcached hprovider hproduction hkey
  unfold StageRun.transcribeCall at h ⊢
  cases ha : buildTranscriptionService a.cached a.settings with
  | error message =>
      cases hb : buildTranscriptionService b.cached b.settings with
      | error message' =>
          rw [ha, hb] at hbuild
          cases hbuild
          rfl
      | ok client =>
          rw [ha, hb] at hbuild
          cases hbuild
  | ok client =>
      cases hb : buildTranscriptionService b.cached b.settings with
      | error message =>
          rw [ha, hb] at hbuild
          cases hbuild
      | ok client' =>
          rw [ha, hb] at hbuild h
          exact serve_congr hsize hlimit (Except.ok.inj hbuild) h

theorem detail_stage_congr (h : a.observed isPrintable lim = b.observed isPrintable lim) :
    (a.stage isPrintable lim).2.detail = (b.stage isPrintable lim).2.detail := by
  obtain ⟨hsource, hcached, hprovider, hproduction, hkey, hlimit, hanswers, -⟩ := Observed.mk.inj h
  have hsizes : a.transcribableSource.map AudioSource.sizeBytes =
      b.transcribableSource.map AudioSource.sizeBytes := by
    rw [sizeBytes_transcribableSource, sizeBytes_transcribableSource, hsource]
  unfold StageRun.stage at hanswers ⊢
  cases ha : a.transcribableSource with
  | error ended =>
      cases hb : b.transcribableSource with
      | error ended' =>
          rw [ha, hb] at hsizes
          cases hsizes
          rfl
      | ok y =>
          rw [ha, hb] at hsizes
          cases hsizes
  | ok x =>
      cases hb : b.transcribableSource with
      | error ended =>
          rw [ha, hb] at hsizes
          cases hsizes
      | ok y =>
          rw [ha, hb] at hsizes hanswers
          exact detail_transcribeCall_congr (Except.ok.inj hsizes) hcached hprovider hproduction
            hkey hlimit hanswers

theorem failureReason_update_audioUrl (call : Call) (url : Text) (now : Timestamp) :
    (call.update [.audioUrl url] now).failureReason = call.failureReason := by
  obtain ⟨updatedAt, hupdate⟩ := call.exists_update_single (.audioUrl url) now
  rw [hupdate]
  rfl

/-- The marking writes the detail on a row that the table lets fail, and nothing on any other. -/
theorem failureReason_markTranscriptionFailed (run : StageRun) (detail : Text) :
    (run.markTranscriptionFailed detail).bind Call.failureReason =
      (run.row.map Call.status).bind fun status =>
        if CallStatus.Legal status .failed then some (transcriptionFailedPrefix ++ detail)
        else none := by
  unfold StageRun.markTranscriptionFailed
  cases run.row with
  | none => rfl
  | some row =>
      rw [Option.bind_some, Option.map_some, Option.bind_some]
      by_cases hlegal : CallStatus.Legal row.status .failed
      · rw [if_pos hlegal]
        have hmarked : (row.update [.status .failed, .failureReason (transcriptionFailedPrefix ++
            detail)] run.now).failureReason = some (transcriptionFailedPrefix ++ detail) := by
          rw [Call.update_status run.now hlegal (by simp [FieldChange.column])]
          rfl
        cases hbody : (Transition.markTranscriptionFailed detail run.audioUrl).body
            run.callConcurrencyLimit run.now row with
        | none => exact absurd hlegal (Transition.body_eq_none_iff.1 hbody)
        | some todo =>
            have htodo := todo_of_statements (transition_eq_ok hlegal _) hbody
            subst htodo
            by_cases hurl : run.audioUrl = []
            · rw [if_pos hurl]
              exact hmarked
            · rw [if_neg hurl]
              exact (failureReason_update_audioUrl _ _ _).trans hmarked
      · rw [if_neg hlegal, Transition.body_eq_none_iff.2 hlegal]
        rfl

/-- The reason depends on what is observed of the run only. -/
theorem persistedReason_congr (h : a.observed isPrintable lim = b.observed isPrintable lim) :
    a.persistedReason isPrintable lim = b.persistedReason isPrintable lim := by
  have hstatus : a.row.map Call.status = b.row.map Call.status := congrArg Observed.status h
  have hreason : ∀ run : StageRun, run.persistedReason isPrintable lim =
      (run.stage isPrintable lim).2.detail.bind fun detail =>
        (run.markTranscriptionFailed detail).bind Call.failureReason := by
    intro run
    unfold StageRun.persistedReason
    cases (run.stage isPrintable lim).2 <;> rfl
  rw [hreason, hreason, detail_stage_congr h]
  cases (b.stage isPrintable lim).2.detail with
  | none => rfl
  | some detail =>
      rw [Option.bind_some, Option.bind_some, failureReason_markTranscriptionFailed,
        failureReason_markTranscriptionFailed, hstatus]

end Stage

def speakerlessBody (secret : Text) : Text :=
  concat ["\x7b\"results\": \x7b\"utterances\": [\x7b\"transcript\": \"", secret, "\"\x7d]\x7d\x7d"]

/-- The first request times out and the second gets utterances without speakers; the exception and the
transcript hold a secret. -/
def leakingRun (adapter : StorageAdapter) (apiKey secret : Text) : StageRun where
  callId := 0
  audioUrl := concat ["s3://bucket/", secret]
  storage := .ok adapter
  cached := none
  settings := ⟨some .deepgram, true, some apiKey, 2147483648⟩
  send attempt request :=
    if attempt = 0 then .raised ⟨.timeout, concat [request.url, secret]⟩
    else .response 200 (speakerlessBody secret)
  row := some (sampleCall .processing)
  now := 1
  callConcurrencyLimit := 4

def presignedRun : StageRun :=
  leakingRun (.s3 (.ok 64000) (.ok "https://bucket/audio.wav?X-Amz-Signature=ab12")) "key-1"
    "we sold it"

def storedRun : StageRun :=
  leakingRun (.disk "/srv/objects/audio.wav" (.ok 64000)) "key-2" "nobody knows"

def leakingObserved : Observed where
  source := .size 64000
  cached := none
  provider := some .deepgram
  production := true
  keyConfigured := true
  audioMaxBytes := 2147483648
  answers := [.raised .timeout, .response 200 (.ok (.obj [("results",
    .obj [("utterances", .arr [.obj [("transcript", .str [])]])])]))]
  status := some .processing

theorem observed_leakingRun {adapter : StorageAdapter} {apiKey secret : Text}
    (hsource : viewSource (.ok adapter) = .size 64000) (hkey : apiKey ≠ [])
    (hanswers : ((leakingRun adapter apiKey secret).stage (fun _ => true) defaultLimits).1 =
      [.raised ⟨.timeout, concat [deepgramListenUrl, secret]⟩,
        .response 200 (speakerlessBody secret)])
    (hbody : loads defaultLimits (speakerlessBody secret) = .ok (.obj [("results",
      .obj [("utterances", .arr [.obj [("transcript", .str secret)]])])])) :
    (leakingRun adapter apiKey secret).observed (fun _ => true) defaultLimits = leakingObserved := by
  have hconfigured :
      (leakingRun adapter apiKey secret).settings.keyConfigured = true := decide_eq_true hkey
  have hstorage : viewSource (leakingRun adapter apiKey secret).storage = .size 64000 := hsource
  rw [StageRun.observed, hanswers, hconfigured, hstorage, List.map_cons, List.map_singleton,
    viewAnswer, viewAnswer, hbody]
  rfl

theorem persistedReason_congr_leaking :
    presignedRun.observed (fun _ => true) defaultLimits =
        storedRun.observed (fun _ => true) defaultLimits ∧
      presignedRun.persistedReason (fun _ => true) defaultLimits =
        storedRun.persistedReason (fun _ => true) defaultLimits :=
  have ha : presignedRun.observed (fun _ => true) defaultLimits = leakingObserved :=
    observed_leakingRun rfl (by decide) rfl rfl
  have hb : storedRun.observed (fun _ => true) defaultLimits = leakingObserved :=
    observed_leakingRun rfl (by decide) rfl rfl
  ⟨ha.trans hb.symm, persistedReason_congr (ha.trans hb.symm)⟩

example : (presignedRun.stage (fun _ => true) defaultLimits).2.detail =
    some "deepgram response has utterances but none parsed as segments" := by decide +kernel

end Notetaker.FailureReason

import Notetaker.ObjectStorage

/-!
# Both storage adapters are faulty stores of recordings
-/

open PythonText PythonUuid PythonBytes FaultyStore

namespace Notetaker.ObjectStorage

variable {σ : Type}

/-! ## Both adapters are faulty stores of recordings -/

theorem audioKey_injective : Function.Injective audioKey := by
  intro id id' h
  have htext : id.text = id'.text := by
    unfold audioKey at h
    exact List.append_cancel_left (List.append_cancel_right h)
  have hparse := congrArg PythonUuid.parse htext
  rwa [parse_text, parse_text, Option.some.injEq] at hparse

theorem LocalObjectStorageClient.target_injective (c : LocalObjectStorageClient) :
    Function.Injective c.target := by
  intro id id' h
  apply audioKey_injective
  simpa [target, concat] using h

def StorageClient.recordings (objects : σ → Text × Text → Option S3Object) :
    StorageClient → StorageWorld σ → Uuid → Option Bytes
  | s3 c, w => view (fun id => (c.bucket, audioKey id)) S3Object.body (objects w.remote)
  | disk c, w => view c.target (fun body => body) w.disk.files

/-- What a failed upload can leave: the local copy may break off. -/
def StorageClient.residue : StorageClient → Bytes → Set Bytes
  | s3 _, _ => ∅
  | disk _, recording => {part | part <+: recording}

inductive StorageCall where
  | upload (callId : Uuid) (file : Option Bytes)
  | delete (callId : Uuid)
  | presign (callId : Uuid) (ttlSeconds : Option ℤ)
  | source (callId : Uuid) (ttlSeconds : Option ℤ)

inductive StorageAnswer where
  | uri (uri : Text)
  | deleted
  | source (source : AudioSource)

/-- The request to the store of recordings; an upload without a scratch file makes none. -/
def StorageCall.request : StorageCall → Option (Request Uuid Bytes)
  | upload id (some recording) => some (.put id recording)
  | delete id => some (.delete id)
  | _ => none

def answering {ε τ α : Type} (tag : α → StorageAnswer) (x : Effectful ε τ α) :
    Effectful ε τ StorageAnswer := fun s => ((x s).1.map tag, (x s).2)

def StorageClient.perform (client : S3Client σ) (cfg : StorageSettings) (c : StorageClient) :
    StorageCall → Effectful ObjectStorageError (StorageWorld σ) StorageAnswer
  | .upload id file => answering .uri (c.uploadForCall client id file)
  | .delete id => answering (fun _ => .deleted) (c.deleteForCall client id)
  | .presign id ttl => answering .uri (c.presignedUrlForCall client cfg id ttl)
  | .source id ttl => answering .source (c.transcribableSourceForCall client cfg id ttl)

section Answers

variable {τ α : Type} {caught : List S3Kind} {typed : ObjectStorageError} (s : τ)

@[simp] theorem isOk_raiseFrom (x : Effectful S3Exception τ α) :
    (raiseFrom caught typed x s).1.isOk = (x s).1.isOk := by
  unfold raiseFrom
  rcases x s with ⟨_ | _, t⟩ <;> rfl

@[simp] theorem snd_raiseFrom (x : Effectful S3Exception τ α) :
    (raiseFrom caught typed x s).2 = (x s).2 := by
  unfold raiseFrom
  rcases x s with ⟨_ | _, t⟩ <;> rfl

@[simp] theorem isOk_answering (tag : α → StorageAnswer) (x : Effectful ObjectStorageError τ α) :
    (answering tag x s).1.isOk = (x s).1.isOk := by
  unfold answering
  rcases x s with ⟨_ | _, t⟩ <;> rfl

@[simp] theorem snd_answering (tag : α → StorageAnswer) (x : Effectful ObjectStorageError τ α) :
    (answering tag x s).2 = (x s).2 := rfl

@[simp] theorem isOk_bind_pure {ε β : Type} (x : Effectful ε τ α) (f : α → β) :
    ((x >>= fun a => pure (f a)) s).1.isOk = (x s).1.isOk := by
  dsimp only [Bind.bind]
  rcases x s with ⟨_ | _, t⟩ <;> rfl

@[simp] theorem snd_bind_pure {ε β : Type} (x : Effectful ε τ α) (f : α → β) :
    ((x >>= fun a => pure (f a)) s).2 = (x s).2 := by
  dsimp only [Bind.bind]
  rcases x s with ⟨_ | _, t⟩ <;> rfl

end Answers

/-! ### The disk -/

theorem Disk.effect_copy (recording : Bytes) (path : Text) (d : Disk) :
    StoreEffect (fun v => {part | part <+: v}) (.put path recording) d.files
      (copy (some recording) path d).1.isOk (copy (some recording) path d).2.files := by
  unfold copy
  cases d.nextFault with
  | none => exact .applied _
  | some fault =>
      dsimp only
      cases fault.written with
      | none => exact .ignored
      | some n => exact .torn rfl (List.take_prefix n recording)

theorem Disk.effect_unlink (path : Text) (d : Disk) :
    StoreEffect (fun v => {part | part <+: v}) (.delete path) d.files
      (unlinkMissingOk path d).1.isOk (unlinkMissingOk path d).2.files := by
  unfold unlinkMissingOk
  cases d.nextFault with
  | none => exact .applied _
  | some fault => exact .ignored

@[simp] theorem Disk.files_statSize (path : Text) (d : Disk) : (statSize path d).2.files = d.files := by
  unfold statSize
  split <;> rfl

theorem Disk.statSize_ok {path : Text} {d d' : Disk} {n : ℤ} (h : statSize path d = (.ok n, d')) :
    ∃ body, d.files path = some body ∧ n = body.length := by
  unfold statSize at h
  split at h
  · rename_i body _ hbody
    exact ⟨body, hbody, (Except.ok.inj (Prod.ext_iff.1 h).1).symm⟩
  · cases (Prod.ext_iff.1 h).1
  · cases (Prod.ext_iff.1 h).1

@[simp] theorem Disk.files_copy_none (path : Text) (d : Disk) : (copy none path d).2.files = d.files :=
  rfl

/-! ### The calls -/

section Perform

variable {client : S3Client σ} {objects : σ → Text × Text → Option S3Object}
  {honoured : Text → Option Text} {cfg : StorageSettings}

theorem objectKey_injective (bucket : Text) :
    Function.Injective fun id => (bucket, audioKey id) := fun _ _ h =>
  audioKey_injective (Prod.ext_iff.1 h).2

theorem S3ObjectStorageClient.effect_view (c : S3ObjectStorageClient) {r : Request (Text × Text) S3Object}
    {q : Request Uuid Bytes} {m m' : Text × Text → Option S3Object} {acknowledged : Bool}
    (residue : Bytes → Set Bytes) (hkey : r.key = (c.bucket, audioKey q.key))
    (hvalue : r.value.map S3Object.body = q.value) (h : StoreEffect (fun _ => ∅) r m acknowledged m') :
    StoreEffect residue q (view (fun id => (c.bucket, audioKey id)) S3Object.body m) acknowledged
      (view (fun id => (c.bucket, audioKey id)) S3Object.body m') :=
  h.viewed (objectKey_injective c.bucket) hkey hvalue fun _ _ hw => absurd hw (Set.notMem_empty _)

theorem LocalObjectStorageClient.effect_view (c : LocalObjectStorageClient) {r : Request Text Bytes}
    {q : Request Uuid Bytes} {m m' : Text → Option Bytes} {acknowledged : Bool}
    (hkey : r.key = c.target q.key) (hvalue : r.value = q.value)
    (h : StoreEffect (fun v => {part | part <+: v}) r m acknowledged m') :
    StoreEffect (StorageClient.disk c).residue q (view c.target (fun body => body) m) acknowledged
      (view c.target (fun body => body) m') :=
  h.viewed c.target_injective hkey (by rw [← hvalue]; exact Option.map_id') fun _ _ hw => hw

theorem StorageClient.effect_perform (hlaw : client.Lawful objects honoured) (cfg : StorageSettings)
    (c : StorageClient) {call : StorageCall} {q : Request Uuid Bytes}
    (hq : call.request = some q) (w : StorageWorld σ) :
    StoreEffect c.residue q (c.recordings objects w) (c.perform client cfg call w).1.isOk
      (c.recordings objects (c.perform client cfg call w).2) := by
  cases call with
  | presign => cases hq
  | source => cases hq
  | upload id file =>
      cases file with
      | none => cases hq
      | some recording =>
          obtain rfl := Option.some.inj hq
          cases c with
          | s3 c =>
              have heffect := c.effect_view (q := .put id recording) (s3 c).residue rfl rfl
                (hlaw.uploadFile recording c.bucket (audioKey id)
                  (if c.sse = [] then none else some c.sse) w.remote)
              simpa only [perform, uploadForCall, S3ObjectStorageClient.uploadAudio, recordings, remotely,
                isOk_answering, snd_answering, isOk_bind_pure, snd_bind_pure, isOk_raiseFrom,
                snd_raiseFrom] using heffect
          | disk c =>
              have heffect := c.effect_view (q := .put id recording) rfl rfl
                (Disk.effect_copy recording (c.target id) w.disk)
              simpa only [perform, uploadForCall, LocalObjectStorageClient.uploadAudio, recordings, locally,
                isOk_answering, snd_answering, isOk_bind_pure, snd_bind_pure, isOk_raiseFrom,
                snd_raiseFrom] using heffect
  | delete id =>
      obtain rfl := Option.some.inj hq
      cases c with
      | s3 c =>
          have heffect := c.effect_view (q := .delete id) (s3 c).residue rfl rfl
            (hlaw.deleteObject c.bucket (audioKey id) w.remote)
          simpa only [perform, deleteForCall, S3ObjectStorageClient.deleteAudio, recordings, remotely,
            isOk_answering, snd_answering, isOk_raiseFrom, snd_raiseFrom] using heffect
      | disk c =>
          have heffect := c.effect_view (q := .delete id) rfl rfl
            (Disk.effect_unlink (c.target id) w.disk)
          simpa only [perform, deleteForCall, LocalObjectStorageClient.deleteAudio, recordings, locally,
            isOk_answering, snd_answering, isOk_raiseFrom, snd_raiseFrom] using heffect

theorem S3ObjectStorageClient.source_cases (client : S3Client σ) (c : S3ObjectStorageClient) (id : Uuid)
    (ttl : ℤ) (s : σ) :
    (∃ e t, client.headObject c.bucket (audioKey id) s = (.error e, t) ∧
        c.transcribableSource client id ttl s =
          (.error (if e.kind ∈ sourceErrors then
            .sourceUnavailable (concat ["stored audio unavailable for call ", id.text])
            else .escaped e), t)) ∨
      ∃ head t, client.headObject c.bucket (audioKey id) s = (.ok head, t) ∧
        ((head.contentLength = none ∧ c.transcribableSource client id ttl s =
            (.error (.sourceUnavailable (concat ["stored audio unavailable for call ", id.text])), t)) ∨
          ∃ n, head.contentLength = some n ∧ c.transcribableSource client id ttl s =
            raiseFrom sourceErrors
              (.sourceUnavailable (concat ["stored audio unavailable for call ", id.text]))
              (do return ⟨.url (← c.presignedUrl client id ttl), n⟩) t) := by
  rcases hhead : client.headObject c.bucket (audioKey id) s with ⟨e | head, t⟩
  · refine .inl ⟨e, t, rfl, ?_⟩
    unfold transcribableSource raiseFrom
    rw [Effectful.bind_of_error hhead]
  · refine .inr ⟨head, t, rfl, ?_⟩
    cases hlength : head.contentLength with
    | none =>
        refine .inl ⟨rfl, ?_⟩
        have hsize : headSize head = .error ⟨.key, "'ContentLength'".toList⟩ := by
          unfold headSize
          rw [hlength]
        unfold transcribableSource raiseFrom
        rw [Effectful.bind_of_ok hhead, Effectful.attempt_bind_of_error hsize]
        rfl
    | some n =>
        refine .inr ⟨n, rfl, ?_⟩
        have hsize : headSize head = .ok n := by
          unfold headSize
          rw [hlength]
        unfold transcribableSource raiseFrom
        rw [Effectful.bind_of_ok hhead, Effectful.attempt_bind_of_ok hsize]

theorem LocalObjectStorageClient.source_cases (c : LocalObjectStorageClient) (id : Uuid) {d : Disk}
    {source : AudioSource} (h : (c.transcribableSource id d).1 = .ok source) :
    ∃ n d', Disk.statSize (c.target id) d = (.ok n, d') ∧ source = ⟨.localPath (c.target id), n⟩ := by
  unfold transcribableSource at h
  rcases hstat : Disk.statSize (c.target id) d with ⟨e | n, d'⟩
  · rw [Effectful.bind_of_error (by unfold raiseFrom; rw [hstat])] at h
    cases h
  · rw [Effectful.bind_of_ok (t := d') (a := n) (by unfold raiseFrom; rw [hstat])] at h
    exact ⟨n, d', rfl, (Except.ok.inj h).symm⟩

/-! ### The transcription stage -/

def S3Kind.stage : S3Kind → FailureReason.StorageKind
  | .botoCore => .botoCore
  | .client => .client
  | .os => .os
  | .key => .key
  | .uploadFailed | .other => .other

def S3Exception.stage (e : S3Exception) : FailureReason.StorageException := ⟨e.kind.stage, e.text⟩

/-- What `_transcribable_source` makes of an exception: every `ObjectStorageError` is caught. -/
def ObjectStorageError.stage : ObjectStorageError → FailureReason.SourceError
  | configuration message | uploadFailed message | deleteFailed message
  | sourceUnavailable message => .unavailable message
  | escaped e => .escaped e.stage

theorem stage_source (id : Uuid) (adapter : FailureReason.AdapterKind) {caught : List S3Kind}
    (hcaught : ∀ kind : S3Kind, kind ∈ caught ↔ adapter.catches kind.stage) (e : S3Exception) :
    (if e.kind ∈ caught then ObjectStorageError.sourceUnavailable
        (concat ["stored audio unavailable for call ", id.text]) else .escaped e).stage =
      FailureReason.sourceError id adapter e.stage := by
  unfold FailureReason.sourceError
  by_cases h : e.kind ∈ caught
  · rw [if_pos h, if_pos (show adapter.catches e.stage.kind from (hcaught e.kind).1 h)]
    rfl
  · rw [if_neg h, if_neg (show ¬ adapter.catches e.stage.kind from fun hk => h ((hcaught e.kind).2 hk))]
    rfl

/-- The S3 adapter is the adapter of the transcription stage, on what the bucket answers. -/
theorem S3ObjectStorageClient.source_stage (client : S3Client σ) (c : S3ObjectStorageClient) (id : Uuid)
    (ttl : ℤ) (s : σ) :
    (c.transcribableSource client id ttl s).1.mapError ObjectStorageError.stage =
      (FailureReason.StorageAdapter.s3
        (((client.headObject c.bucket (audioKey id) s).1.bind headSize).mapError S3Exception.stage)
        ((c.presignedUrl client id ttl (client.headObject c.bucket (audioKey id) s).2).1.mapError
          S3Exception.stage)).transcribableSource id := by
  have hcaught : ∀ kind : S3Kind,
      kind ∈ sourceErrors ↔ FailureReason.AdapterKind.s3.catches kind.stage := by
    rintro (_ | _ | _ | _ | _ | _) <;> decide
  rcases c.source_cases client id ttl s with ⟨e, t, hhead, h⟩ | ⟨head, t, hhead, ⟨hnone, h⟩ | ⟨n, hn, h⟩⟩
  · rw [h, hhead]
    exact congrArg Except.error (stage_source id .s3 hcaught e)
  · have hsize : headSize head = .error ⟨.key, "'ContentLength'".toList⟩ := by
      unfold headSize
      rw [hnone]
    rw [h, hhead, show (Except.ok head).bind headSize = headSize head from rfl, hsize]
    rfl
  · have hsize : headSize head = .ok n := by
      unfold headSize
      rw [hn]
    rw [h, hhead, show (Except.ok head).bind headSize = headSize head from rfl, hsize]
    dsimp only
    rcases hurl : c.presignedUrl client id ttl t with ⟨e | url, u⟩
    · unfold raiseFrom
      rw [Effectful.bind_of_error hurl]
      exact congrArg Except.error (stage_source id .s3 hcaught e)
    · unfold raiseFrom
      rw [Effectful.bind_of_ok hurl]
      rfl

/-- The local adapter is the adapter of the transcription stage, on what the disk answers. -/
theorem LocalObjectStorageClient.source_stage (c : LocalObjectStorageClient) (id : Uuid) (d : Disk) :
    (c.transcribableSource id d).1.mapError ObjectStorageError.stage =
      (FailureReason.StorageAdapter.disk (c.target id)
        ((Disk.statSize (c.target id) d).1.mapError S3Exception.stage)).transcribableSource id := by
  have hcaught : ∀ kind : S3Kind,
      kind ∈ [S3Kind.os] ↔ FailureReason.AdapterKind.disk.catches kind.stage := by
    rintro (_ | _ | _ | _ | _ | _) <;> decide
  unfold transcribableSource
  rcases hstat : Disk.statSize (c.target id) d with ⟨e | n, d'⟩
  · rw [Effectful.bind_of_error (by unfold raiseFrom; rw [hstat])]
    exact congrArg Except.error (stage_source id .disk hcaught e)
  · rw [Effectful.bind_of_ok (t := d') (a := n) (by unfold raiseFrom; rw [hstat])]
    rfl

/-! ### Sources and recordings -/

theorem objects_source (hlaw : client.Lawful objects honoured) (c : S3ObjectStorageClient) (id : Uuid)
    (ttl : ℤ) (s : σ) : objects (c.transcribableSource client id ttl s).2 = objects s := by
  have hkept := hlaw.headObject c.bucket (audioKey id) s
  rcases c.source_cases client id ttl s with
    ⟨e, t, hhead, h⟩ | ⟨head, t, hhead, ⟨-, h⟩ | ⟨n, -, h⟩⟩
  · rw [h, ← hkept, hhead]
  · rw [h, ← hkept, hhead]
  · rw [h, snd_raiseFrom, snd_bind_pure]
    rw [hhead] at hkept
    exact (hlaw.generatePresignedUrl c.bucket (audioKey id) ttl t).trans hkept

/-- Where the transcription provider gets a call's audio from. -/
def StorageClient.Locates (client : S3Client σ) (id : Uuid) (ttl : ℤ) :
    StorageClient → FailureReason.AudioLocation → Prop
  | s3 c, .url url => ∃ s t, client.generatePresignedUrl c.bucket (audioKey id) ttl s = (.ok url, t)
  | disk c, .localPath path => path = c.target id
  | _, _ => False

theorem StorageClient.source_ok (hlaw : client.Lawful objects honoured) (c : StorageClient) {id : Uuid}
    {ttl : Option ℤ} {w w' : StorageWorld σ} {source : AudioSource}
    (h : c.transcribableSourceForCall client cfg id ttl w = (.ok source, w')) :
    ∃ recording, c.recordings objects w id = some recording ∧ source.sizeBytes = recording.length ∧
      c.Locates client id (ttl.getD cfg.s3PresignTtlSeconds) source.location := by
  cases c with
  | s3 c =>
      have hanswer := (Prod.ext_iff.1 h).1
      change (c.transcribableSource client id (ttl.getD cfg.s3PresignTtlSeconds) w.remote).1 = _
        at hanswer
      rcases c.source_cases client id (ttl.getD cfg.s3PresignTtlSeconds) w.remote with
        ⟨e, t, -, heq⟩ | ⟨head, t, hhead, ⟨-, heq⟩ | ⟨n, hn, heq⟩⟩
      · rw [heq] at hanswer
        cases hanswer
      · rw [heq] at hanswer
        cases hanswer
      · rw [heq] at hanswer
        obtain ⟨object, hobject, -, hlength⟩ := hlaw.headObject_ok hhead
        rcases hurl : c.presignedUrl client id (ttl.getD cfg.s3PresignTtlSeconds) t with ⟨e | url, u⟩
        · unfold raiseFrom at hanswer
          rw [Effectful.bind_of_error hurl] at hanswer
          cases hanswer
        · unfold raiseFrom at hanswer
          rw [Effectful.bind_of_ok hurl] at hanswer
          obtain rfl := Except.ok.inj hanswer
          exact ⟨object.body, by simp [recordings, view, hobject], hlength n hn, t, u, hurl⟩
  | disk c =>
      have hanswer := (Prod.ext_iff.1 h).1
      change (c.transcribableSource id w.disk).1 = _ at hanswer
      obtain ⟨n, d, hstat, rfl⟩ := c.source_cases id hanswer
      obtain ⟨body, hbody, hn⟩ := Disk.statSize_ok hstat
      exact ⟨body, by simp [recordings, view, hbody], hn, rfl⟩

theorem StorageClient.recordings_perform (hlaw : client.Lawful objects honoured)
    (cfg : StorageSettings) (c : StorageClient) {call : StorageCall} (hcall : call.request = none)
    (w : StorageWorld σ) :
    c.recordings objects (c.perform client cfg call w).2 = c.recordings objects w := by
  cases call with
  | delete => cases hcall
  | upload id file =>
      cases file with
      | some => cases hcall
      | none =>
          cases c with
          | s3 c =>
              have hkept := (hlaw.uploadFile_missing c.bucket (audioKey id)
                (if c.sse = [] then none else some c.sse) w.remote).2
              simp only [perform, uploadForCall, S3ObjectStorageClient.uploadAudio, recordings, remotely,
                snd_answering, snd_bind_pure, snd_raiseFrom, hkept]
          | disk c =>
              simp only [perform, uploadForCall, LocalObjectStorageClient.uploadAudio, recordings,
                locally, snd_answering, snd_bind_pure, snd_raiseFrom, Disk.files_copy_none]
  | presign id ttl =>
      cases c with
      | s3 c =>
          have hkept := hlaw.generatePresignedUrl c.bucket (audioKey id)
            (ttl.getD cfg.s3PresignTtlSeconds) w.remote
          simp only [perform, presignedUrlForCall, S3ObjectStorageClient.presignedUrl, recordings,
            remotely, snd_answering, snd_raiseFrom, hkept]
      | disk c => rfl
  | source id ttl =>
      cases c with
      | s3 c =>
          simp only [perform, transcribableSourceForCall, recordings, remotely, snd_answering,
            objects_source hlaw]
      | disk c =>
          simp only [perform, transcribableSourceForCall, LocalObjectStorageClient.transcribableSource,
            recordings, locally, snd_answering, snd_bind_pure, snd_raiseFrom, Disk.files_statSize]

/-! ## Runs -/

def StorageClient.run (client : S3Client σ) (cfg : StorageSettings) (c : StorageClient)
    (w : StorageWorld σ) : List StorageCall →
    List (StorageCall × Except ObjectStorageError StorageAnswer) × StorageWorld σ
  | [] => ([], w)
  | call :: calls =>
      let (answer, w') := c.perform client cfg call w
      let (log, w'') := run client cfg c w' calls
      ((call, answer) :: log, w'')

/-- The requests that the calls made, with whether they were acknowledged. -/
def requests (log : List (StorageCall × Except ObjectStorageError StorageAnswer)) :
    List (Request Uuid Bytes × Bool) :=
  log.filterMap fun e => e.1.request.map fun q => (q, e.2.isOk)

/-- The run rule: after any run a call has a recording that its own requests leave possible. -/
theorem StorageClient.mem_possible_run (hlaw : client.Lawful objects honoured) (cfg : StorageSettings)
    (c : StorageClient)
    (calls : List StorageCall) (w : StorageWorld σ) (id : Uuid) {P : Set (Option Bytes)}
    (hP : c.recordings objects w id ∈ P) :
    c.recordings objects (c.run client cfg w calls).2 id ∈
      possible c.residue id P (requests (c.run client cfg w calls).1) := by
  induction calls generalizing w P with
  | nil => exact hP
  | cons call calls ih =>
      cases hcall : call.request with
      | none =>
          have hkept := c.recordings_perform hlaw cfg hcall w
          have hrequests : requests (c.run client cfg w (call :: calls)).1 =
              requests (c.run client cfg (c.perform client cfg call w).2 calls).1 := by
            simp [requests, run, hcall]
          rw [hrequests]
          exact ih _ (by rw [hkept]; exact hP)
      | some q =>
          have heffect := c.effect_perform hlaw cfg hcall w
          have hrequests : requests (c.run client cfg w (call :: calls)).1 =
              (q, (c.perform client cfg call w).1.isOk) ::
                requests (c.run client cfg (c.perform client cfg call w).2 calls).1 := by
            simp [requests, run, hcall]
          rw [hrequests]
          exact ih _ (mem_settle heffect hP)

/-! ## The startup -/

theorem audioKey_ne_probeKey (id : Uuid) (pid : ℕ) : audioKey id ≠ probeKey pid := by
  intro h
  have hcall : (audioKey id).head? = some 'c' := rfl
  have hprobe : (probeKey pid).head? = some '.' := rfl
  rw [h, hprobe] at hcall
  cases hcall

theorem view_of_probe {bucket bucket' : Text} {pid : ℕ} {r : Request (Text × Text) S3Object}
    {m m' : Text × Text → Option S3Object} {acknowledged : Bool} (hkey : r.key = (bucket', probeKey pid))
    (h : StoreEffect (fun _ => ∅) r m acknowledged m') :
    view (fun id => (bucket, audioKey id)) S3Object.body m' =
      view (fun id => (bucket, audioKey id)) S3Object.body m :=
  h.view_eq fun id heq => audioKey_ne_probeKey id pid (Prod.ext_iff.1 (heq.trans hkey)).2

theorem keeps_raiseFrom {τ α : Type} {inv : τ → Prop} {caught : List S3Kind}
    {typed : ObjectStorageError} {x : Effectful S3Exception τ α} (h : Effectful.Keeps inv x) :
    Effectful.Keeps inv (raiseFrom caught typed x) := by
  intro s hs
  rw [snd_raiseFrom]
  exact h s hs

section Probe

variable (isPrintable : Char → Bool) (pid : ℕ) (c : S3ObjectStorageClient) (bucket : Text)
  (recorded : Uuid → Option Bytes)

def Shows (objects : σ → Text × Text → Option S3Object) (bucket : Text)
    (recorded : Uuid → Option Bytes) (s : σ) : Prop :=
  view (fun id => (bucket, audioKey id)) S3Object.body (objects s) = recorded

theorem keeps_probeWrite (hlaw : client.Lawful objects honoured) :
    Effectful.Keeps (Shows objects bucket recorded) (c.probeWrite client pid) := by
  refine keeps_raiseFrom fun s hs => ?_
  exact (view_of_probe rfl (hlaw.putObject c.bucket (probeKey pid) probeBody c.sse s)).trans hs

theorem keeps_probeRead (hlaw : client.Lawful objects honoured) :
    Effectful.Keeps (Shows objects bucket recorded) (c.probeRead isPrintable client pid) := by
  refine Effectful.Keeps.bind (keeps_raiseFrom fun s hs => ?_) fun head => ?_
  · unfold Shows
    rw [hlaw.headObject]
    exact hs
  · split_ifs
    · exact fun s hs => hs
    · exact Effectful.keeps_pure ()

theorem keeps_probeCleanup (hlaw : client.Lawful objects honoured) :
    Effectful.Keeps (Shows objects bucket recorded) (c.probeCleanup client pid) := by
  intro s hs
  have hkept : Shows objects bucket recorded (client.deleteObject c.bucket (probeKey pid) s).2 :=
    (view_of_probe rfl (hlaw.deleteObject c.bucket (probeKey pid) s)).trans hs
  unfold S3ObjectStorageClient.probeCleanup
  rcases hdelete : client.deleteObject c.bucket (probeKey pid) s with ⟨_ | _, t⟩ <;>
    rwa [hdelete] at hkept

theorem keeps_startupSseProbe (hlaw : client.Lawful objects honoured) :
    Effectful.Keeps (Shows objects bucket recorded) (c.startupSseProbe isPrintable client pid) := by
  unfold S3ObjectStorageClient.startupSseProbe
  have hprobe : Effectful.Keeps (Shows objects bucket recorded) (do
      c.probeWrite client pid
      c.probeRead isPrintable client pid
      c.probeCleanup client pid) :=
    (keeps_probeWrite pid c bucket recorded hlaw).bind fun _ =>
      (keeps_probeRead isPrintable pid c bucket recorded hlaw).bind fun _ =>
        keeps_probeCleanup pid c bucket recorded hlaw
  split_ifs
  · exact hprobe
  · exact fun s hs => hs

end Probe

/-- What `build_object_storage_service` builds from the settings. -/
def StorageSettings.backend (cfg : StorageSettings) : StorageClient :=
  if isUnset cfg.s3Bucket then .disk (localFromSettings cfg) else .s3 ⟨cfg.s3Bucket.getD [], cfg.s3Sse⟩

theorem fromSettings_ok {isPrintable : Char → Bool} {pid : ℕ} {s t : σ} {c : S3ObjectStorageClient}
    (h : fromSettings isPrintable client cfg pid s = (.ok c, t)) :
    c = ⟨cfg.s3Bucket.getD [], cfg.s3Sse⟩ ∧ c.startupSseProbe isPrintable client pid s = (.ok (), t) := by
  unfold fromSettings at h
  by_cases hbucket : isUnset cfg.s3Bucket
  · rw [if_pos hbucket] at h
    cases (Prod.ext_iff.1 h).1
  rw [if_neg hbucket] at h
  by_cases hkeys : isUnset cfg.s3AccessKeyId ∨ isUnset cfg.s3SecretAccessKey
  · rw [if_pos hkeys] at h
    cases (Prod.ext_iff.1 h).1
  rw [if_neg hkeys] at h
  replace h : (do
      S3ObjectStorageClient.startupSseProbe isPrintable client pid ⟨cfg.s3Bucket.getD [], cfg.s3Sse⟩
      pure ⟨cfg.s3Bucket.getD [], cfg.s3Sse⟩ : Effectful ObjectStorageError σ S3ObjectStorageClient) s =
      (.ok c, t) := h
  rcases hprobe : S3ObjectStorageClient.startupSseProbe isPrintable client pid
    ⟨cfg.s3Bucket.getD [], cfg.s3Sse⟩ s with ⟨e | _, u⟩
  · rw [Effectful.bind_of_error hprobe] at h
    cases (Prod.ext_iff.1 h).1
  · rw [Effectful.bind_of_ok hprobe] at h
    obtain ⟨hc, rfl⟩ := Prod.ext_iff.1 h
    obtain rfl := Except.ok.inj hc
    exact ⟨rfl, hprobe⟩

/-- A fresh process builds the backend of its settings, and in production that is the bucket. -/
theorem build_ok {isPrintable : Char → Bool} {pid : ℕ} {w w' : StorageWorld σ} {c : StorageClient}
    (hfresh : w.service = none)
    (h : buildObjectStorageService isPrintable client cfg pid w = (.ok c, w')) :
    c = cfg.backend ∧ (cfg.environment = "production".toList → isUnset cfg.s3Bucket = false) ∧
      w'.service = some c ∧ w'.disk = w.disk ∧
      (w'.remote = w.remote ∨ ∃ s3 : S3ObjectStorageClient,
        s3.startupSseProbe isPrintable client pid w.remote = (.ok (), w'.remote)) := by
  unfold buildObjectStorageService at h
  rw [Effectful.bind_of_ok (Effectful.current_apply w), hfresh] at h
  dsimp only at h
  by_cases hbucket : isUnset cfg.s3Bucket = false
  · rw [if_pos hbucket] at h
    rcases hsettings : fromSettings isPrintable client cfg pid w.remote with ⟨e | s3, s⟩
    · have hraised : remotely (do return StorageClient.s3 (← fromSettings isPrintable client cfg pid)) w =
          (.error e, { w with remote := s }) := by
        unfold remotely
        rw [Effectful.bind_of_error hsettings]
      rw [Effectful.bind_of_error hraised] at h
      cases (Prod.ext_iff.1 h).1
    · have hbuilt : remotely (do return StorageClient.s3 (← fromSettings isPrintable client cfg pid)) w =
          (.ok (StorageClient.s3 s3), { w with remote := s }) := by
        unfold remotely
        rw [Effectful.bind_of_ok hsettings]
        rfl
      rw [Effectful.bind_of_ok hbuilt] at h
      obtain ⟨hc, rfl⟩ := Prod.ext_iff.1 h
      obtain rfl := Except.ok.inj hc
      obtain ⟨hs3, hprobe⟩ := fromSettings_ok hsettings
      refine ⟨?_, fun _ => hbucket, rfl, rfl, .inr ⟨s3, hprobe⟩⟩
      rw [StorageSettings.backend, hbucket, hs3]
      rfl
  · rw [if_neg hbucket] at h
    by_cases hproduction : cfg.environment = "production".toList
    · rw [if_pos hproduction] at h
      cases (Prod.ext_iff.1 h).1
    · rw [if_neg hproduction] at h
      obtain ⟨hc, rfl⟩ := Prod.ext_iff.1 h
      obtain rfl := Except.ok.inj hc
      refine ⟨?_, fun hp => absurd hp hproduction, rfl, rfl, .inl rfl⟩
      rw [StorageSettings.backend, if_pos (by simpa using hbucket)]

theorem recordings_build (hlaw : client.Lawful objects honoured) {isPrintable : Char → Bool} {pid : ℕ}
    {w w' : StorageWorld σ} {c : StorageClient} (hfresh : w.service = none)
    (h : buildObjectStorageService isPrintable client cfg pid w = (.ok c, w')) (d : StorageClient) :
    d.recordings objects w' = d.recordings objects w := by
  obtain ⟨-, -, -, hdisk, hremote | ⟨s3, hprobe⟩⟩ := build_ok hfresh h
  · cases d with
    | s3 d => simp only [StorageClient.recordings, hremote]
    | disk d => simp only [StorageClient.recordings, hdisk]
  · cases d with
    | s3 d =>
        have hkept := keeps_startupSseProbe isPrintable pid s3 d.bucket _ hlaw w.remote rfl
        rw [hprobe] at hkept
        exact hkept
    | disk d => simp only [StorageClient.recordings, hdisk]

/-- Whatever service a fresh process builds, after any run of its operations, with any failures, the
audio source that it gives for a call is a recording of this very call; it is whole, except for what a
broken local copy has left, and an acknowledged request settles it. -/
theorem source_of_run (hlaw : client.Lawful objects honoured) {isPrintable : Char → Bool} {pid : ℕ}
    {w w' t t' : StorageWorld σ} {c : StorageClient} (hfresh : w.service = none)
    (hbuild : buildObjectStorageService isPrintable client cfg pid w = (.ok c, w'))
    {calls : List StorageCall} {log : List (StorageCall × Except ObjectStorageError StorageAnswer)}
    (hrun : c.run client cfg w' calls = (log, t)) {id : Uuid} {ttl : Option ℤ} {source : AudioSource}
    (hsource : c.transcribableSourceForCall client cfg id ttl t = (.ok source, t')) :
    ∃ recording, c.recordings objects t id = some recording ∧
      source.sizeBytes = recording.length ∧
      c.Locates client id (ttl.getD cfg.s3PresignTtlSeconds) source.location ∧
      (c.recordings objects w id = some recording ∨
        ∃ uploaded, (∃ ok, (.put id uploaded, ok) ∈ requests log) ∧
          (recording = uploaded ∨
            cfg.environment ≠ "production".toList ∧ recording <+: uploaded)) ∧
      ∀ before q after, requests log = before ++ (q, true) :: after → q.key = id →
        (∀ e ∈ after, e.1.key ≠ id) → q = .put id recording := by
  obtain ⟨recording, hrecording, hsize, hlocation⟩ := c.source_ok hlaw hsource
  have hstart : c.recordings objects w' id ∈ ({c.recordings objects w id} : Set (Option Bytes)) := by
    rw [recordings_build hlaw hfresh hbuild]
    rfl
  have hmem := c.mem_possible_run hlaw cfg calls w' id hstart
  rw [hrun, hrecording] at hmem
  refine ⟨recording, hrecording, hsize, hlocation, ?_, ?_⟩
  · rcases origin_of_mem_possible hmem with hold | ⟨uploaded, hput, hvalue⟩
    · exact .inl hold.symm
    · refine .inr ⟨uploaded, hput, hvalue.imp_right fun hpart => ?_⟩
      obtain ⟨rfl, hproduction, -⟩ := build_ok hfresh hbuild
      unfold StorageSettings.backend at hpart
      split_ifs at hpart with hunset
      · exact ⟨fun hp => by simp [hproduction hp] at hunset, hpart⟩
      · cases hpart
  · intro before q after hlog hq hafter
    rw [hlog, possible_of_acknowledged hq hafter] at hmem
    cases q with
    | delete key => cases hmem
    | put key value =>
        obtain rfl : key = id := hq
        rw [Option.some.inj hmem]

end Perform

/-- A provider that never fails and applies the encryption that is requested. -/
def memoryClient : S3Client (Text × Text → Option S3Object) where
  uploadFile file bucket key encryption := fun s =>
    match file with
    | some body => (.ok (), Function.update s (bucket, key) (some ⟨body, encryption⟩))
    | none => (.error ⟨.os, "No such file or directory"⟩, s)
  putObject bucket key body encryption := fun s =>
    (.ok (), Function.update s (bucket, key) (some ⟨body, some encryption⟩))
  headObject bucket key := fun s =>
    match s (bucket, key) with
    | some object => (.ok ⟨some object.body.length, object.encryption⟩, s)
    | none => (.error ⟨.client, "Not Found"⟩, s)
  deleteObject bucket key := fun s => (.ok (), Function.update s (bucket, key) none)
  generatePresignedUrl bucket key _ := fun s => (.ok (concat ["https://", bucket, "/", key]), s)

theorem memoryClient_lawful : memoryClient.Lawful (fun s => s) some where
  uploadFile body bucket key encryption s := by
    have hencryption : encryption.bind some = encryption := Option.bind_fun_some encryption
    rw [hencryption]
    exact .applied _
  uploadFile_missing bucket key encryption s := ⟨rfl, rfl⟩
  putObject bucket key body encryption s := .applied _
  deleteObject bucket key s := .applied _
  headObject bucket key s := by
    unfold memoryClient
    dsimp only
    split <;> rfl
  headObject_ok := by
    intro bucket key s t head h
    unfold memoryClient at h
    dsimp only at h
    split at h
    · rename_i object hobject
      obtain rfl := Except.ok.inj (Prod.ext_iff.1 h).1
      exact ⟨object, hobject, rfl, fun n hn => (Option.some.inj hn).symm⟩
    · cases (Prod.ext_iff.1 h).1
  generatePresignedUrl bucket key expiresIn s := rfl

def sampleStorage : StorageSettings where
  environment := "production"
  audioHostPath := "/var/lib/oreeai/audio"
  s3Bucket := some "audio"
  s3AccessKeyId := some "id"
  s3SecretAccessKey := some "secret"
  s3Sse := "AES256"
  s3PresignTtlSeconds := 3600

def emptyStorage : StorageWorld (Text × Text → Option S3Object) :=
  ⟨fun _ => none, ⟨fun _ => none, []⟩, none⟩

def sampleStarted : StorageWorld (Text × Text → Option S3Object) :=
  (buildObjectStorageService (fun _ => true) memoryClient sampleStorage 1 emptyStorage).2

/-- The recording of call 7 is uploaded and a source is built for it, after call 8 was given up. -/
def sampleCalls : List StorageCall :=
  [.upload 8 (some [0]), .delete 8, .upload 7 none, .upload 7 (some [1, 2, 3])]

theorem source_of_run_sampleCalls :
    ∃ recording : Bytes, recording.length = 3 ∧
      (StorageClient.s3 ⟨"audio", "AES256"⟩).recordings (fun s => s)
        ((StorageClient.s3 ⟨"audio", "AES256"⟩).run memoryClient sampleStorage sampleStarted
          sampleCalls).2 7 = some recording := by
  have hbuild : buildObjectStorageService (fun _ => true) memoryClient sampleStorage 1 emptyStorage =
      (.ok (.s3 ⟨"audio", "AES256"⟩), sampleStarted) := Prod.ext rfl rfl
  have hsource : (StorageClient.s3 ⟨"audio", "AES256"⟩).transcribableSourceForCall memoryClient
      sampleStorage 7 none ((StorageClient.s3 ⟨"audio", "AES256"⟩).run memoryClient sampleStorage
        sampleStarted sampleCalls).2 =
      (.ok ⟨.url (concat ["https://audio/", audioKey 7]), 3⟩,
        ((StorageClient.s3 ⟨"audio", "AES256"⟩).run memoryClient sampleStorage sampleStarted
          sampleCalls).2) := Prod.ext rfl rfl
  obtain ⟨recording, hrecording, hsize, -⟩ := source_of_run memoryClient_lawful rfl hbuild rfl hsource
  exact ⟨recording, Nat.cast_injective hsize.symm, hrecording⟩

end Notetaker.ObjectStorage

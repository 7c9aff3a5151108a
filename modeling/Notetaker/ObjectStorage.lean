import Notetaker.Effectful
import Notetaker.FailureReason
import Notetaker.FaultyStore
import Notetaker.PythonBytes
import Notetaker.StaleSweep

/-!
# The object storage

`integrations/object_storage` and the facade of `services/storage.py`: the adapter over an S3 client, the
local stand-in, the startup probe and the choice between the two. Any request to the bucket or the disk
may fail, with or without its effect. For the calls both adapters are a faulty store of recordings, and
what the source of a call's audio answers is what the answers about this call alone leave possible.
-/

open PythonText PythonUuid PythonBytes FaultyStore

namespace Notetaker.ObjectStorage

/-! ## The S3 client -/

inductive S3Kind where
  /-- `BotoCoreError` -/
  | botoCore
  /-- `ClientError` -/
  | client
  /-- `S3UploadFailedError` -/
  | uploadFailed
  /-- `OSError` -/
  | os
  /-- `KeyError` -/
  | key
  | other
  deriving DecidableEq

structure S3Exception where
  kind : S3Kind
  text : Text

structure S3Object where
  body : Bytes
  encryption : Option Text

structure S3Head where
  contentLength : Option ℤ
  serverSideEncryption : Option Text

/-- The boto3 client. `file` is what the scratch file holds, if there is one. -/
structure S3Client (σ : Type) where
  uploadFile (file : Option Bytes) (bucket key : Text) (encryption : Option Text) :
    Effectful S3Exception σ Unit
  putObject (bucket key : Text) (body : Bytes) (encryption : Text) : Effectful S3Exception σ Unit
  headObject (bucket key : Text) : Effectful S3Exception σ S3Head
  deleteObject (bucket key : Text) : Effectful S3Exception σ Unit
  generatePresignedUrl (bucket key : Text) (expiresIn : ℤ) : Effectful S3Exception σ Text

variable {σ : Type}

/-- What the provider documents: an object is replaced or deleted whole, a request that failed may have
taken effect, `head_object` describes the object that is there, and a missing object is an error.
`honoured` is the encryption that the provider applies when one is requested. -/
structure S3Client.Lawful (client : S3Client σ) (objects : σ → Text × Text → Option S3Object)
    (honoured : Text → Option Text) : Prop where
  uploadFile (body : Bytes) (bucket key : Text) (encryption : Option Text) (s : σ) :
    StoreEffect (fun _ => ∅) (.put (bucket, key) ⟨body, encryption.bind honoured⟩) (objects s)
      (client.uploadFile (some body) bucket key encryption s).1.isOk
      (objects (client.uploadFile (some body) bucket key encryption s).2)
  uploadFile_missing (bucket key : Text) (encryption : Option Text) (s : σ) :
    (client.uploadFile none bucket key encryption s).1.isOk = false ∧
      objects (client.uploadFile none bucket key encryption s).2 = objects s
  putObject (bucket key : Text) (body : Bytes) (encryption : Text) (s : σ) :
    StoreEffect (fun _ => ∅) (.put (bucket, key) ⟨body, honoured encryption⟩) (objects s)
      (client.putObject bucket key body encryption s).1.isOk
      (objects (client.putObject bucket key body encryption s).2)
  deleteObject (bucket key : Text) (s : σ) :
    StoreEffect (fun _ => ∅) (.delete (bucket, key)) (objects s)
      (client.deleteObject bucket key s).1.isOk (objects (client.deleteObject bucket key s).2)
  headObject (bucket key : Text) (s : σ) :
    objects (client.headObject bucket key s).2 = objects s
  headObject_ok {bucket key : Text} {s t : σ} {head : S3Head}
    (h : client.headObject bucket key s = (.ok head, t)) :
    ∃ object, objects s (bucket, key) = some object ∧
      head.serverSideEncryption = object.encryption ∧
      ∀ n, head.contentLength = some n → n = object.body.length
  generatePresignedUrl (bucket key : Text) (expiresIn : ℤ) (s : σ) :
    objects (client.generatePresignedUrl bucket key expiresIn s).2 = objects s

/-! ## The local disk -/

/-- An `OSError` with its text; a copy may have written the first bytes. -/
structure DiskFault where
  text : Text
  written : Option ℕ

structure Disk where
  files : Text → Option Bytes
  faults : List (Option DiskFault)

namespace Disk

def nextFault (d : Disk) : Option DiskFault := d.faults.head?.join

def afterFault (d : Disk) : Disk := { d with faults := d.faults.tail }

/-- `_copy` of a file that holds `file`. -/
def copy (file : Option Bytes) (target : Text) : Effectful S3Exception Disk Unit := fun d =>
  match file, d.nextFault with
  | none, _ => (.error ⟨.os, "No such file or directory"⟩, d.afterFault)
  | some body, none =>
      (.ok (), { d.afterFault with files := Function.update d.files target (some body) })
  | some body, some fault =>
      (.error ⟨.os, fault.text⟩, match fault.written with
        | none => d.afterFault
        | some n =>
            { d.afterFault with files := Function.update d.files target (some (body.take n)) })

/-- `_unlink_missing_ok` -/
def unlinkMissingOk (path : Text) : Effectful S3Exception Disk Unit := fun d =>
  match d.nextFault with
  | none => (.ok (), { d.afterFault with files := Function.update d.files path none })
  | some fault => (.error ⟨.os, fault.text⟩, d.afterFault)

/-- `path.stat().st_size` -/
def statSize (path : Text) : Effectful S3Exception Disk ℤ := fun d =>
  match d.nextFault, d.files path with
  | none, some body => (.ok body.length, d.afterFault)
  | none, none => (.error ⟨.os, "No such file or directory"⟩, d.afterFault)
  | some fault, _ => (.error ⟨.os, fault.text⟩, d.afterFault)

end Disk

/-! ## The adapters -/

inductive ObjectStorageError where
  /-- `ConfigurationError` -/
  | configuration (message : Text)
  /-- `UploadFailed` -/
  | uploadFailed (message : Text)
  /-- `DeleteFailed` -/
  | deleteFailed (message : Text)
  /-- `SourceUnavailable` -/
  | sourceUnavailable (message : Text)
  | escaped (e : S3Exception)

/-- `try: x; except caught as exc: raise typed from exc`. -/
def raiseFrom {τ α : Type} (caught : List S3Kind) (typed : ObjectStorageError)
    (x : Effectful S3Exception τ α) : Effectful ObjectStorageError τ α := fun s =>
  match x s with
  | (.ok a, t) => (.ok a, t)
  | (.error e, t) => (.error (if e.kind ∈ caught then typed else .escaped e), t)

def uploadErrors : List S3Kind := [.botoCore, .client, .uploadFailed, .os]

def deleteErrors : List S3Kind := [.botoCore, .client]

def sourceErrors : List S3Kind := [.botoCore, .client, .os, .key]

def probeErrors : List S3Kind := [.botoCore, .client, .os]

/-- The sources of audio, as the transcription stage has them. -/
abbrev AudioSource := FailureReason.AudioSource

/-- `s3_uri` -/
def s3Uri (bucket key : Text) : Text := concat ["s3://", bucket, "/", key]

/-- `S3ObjectStorageClient`, for one bucket and one `S3_SSE`. -/
structure S3ObjectStorageClient where
  bucket : Text
  sse : Text

namespace S3ObjectStorageClient

variable (client : S3Client σ) (c : S3ObjectStorageClient) (callId : Uuid)

def uploadAudio (file : Option Bytes) : Effectful ObjectStorageError σ Text := do
  raiseFrom uploadErrors (.uploadFailed (concat ["s3 upload failed for call ", callId.text]))
    (client.uploadFile file c.bucket (audioKey callId) (if c.sse = [] then none else some c.sse))
  return s3Uri c.bucket (audioKey callId)

def deleteAudio : Effectful ObjectStorageError σ Unit :=
  raiseFrom deleteErrors (.deleteFailed (concat ["s3 delete failed for call ", callId.text]))
    (client.deleteObject c.bucket (audioKey callId))

def presignedUrl (ttlSeconds : ℤ) : Effectful S3Exception σ Text :=
  client.generatePresignedUrl c.bucket (audioKey callId) ttlSeconds

/-- `int(head["ContentLength"])` -/
def headSize (head : S3Head) : Except S3Exception ℤ :=
  match head.contentLength with
  | some n => .ok n
  | none => .error ⟨.key, "'ContentLength'"⟩

def transcribableSource (ttlSeconds : ℤ) : Effectful ObjectStorageError σ AudioSource :=
  raiseFrom sourceErrors
    (.sourceUnavailable (concat ["stored audio unavailable for call ", callId.text])) do
      let head ← client.headObject c.bucket (audioKey callId)
      let size ← Effectful.attempt (headSize head)
      let url ← c.presignedUrl client callId ttlSeconds
      return ⟨.url url, size⟩

end S3ObjectStorageClient

/-- `LocalObjectStorageClient`, with its resolved root. -/
structure LocalObjectStorageClient where
  root : Text

namespace LocalObjectStorageClient

variable (c : LocalObjectStorageClient) (callId : Uuid)

/-- `self.root / audio_key(call_id)` -/
def target : Text := concat [c.root, "/", audioKey callId]

def uploadAudio (file : Option Bytes) : Effectful ObjectStorageError Disk Text := do
  raiseFrom [.os] (.uploadFailed (concat ["local upload failed for call ", callId.text]))
    (Disk.copy file (c.target callId))
  return concat ["file://", c.target callId]

def deleteAudio : Effectful ObjectStorageError Disk Unit :=
  raiseFrom [] (.deleteFailed []) (Disk.unlinkMissingOk (c.target callId))

def presignedUrl : Effectful ObjectStorageError Disk Text := return concat ["file://", c.target callId]

def transcribableSource : Effectful ObjectStorageError Disk AudioSource := do
  let size ← raiseFrom [.os]
    (.sourceUnavailable (concat ["stored audio unavailable for call ", callId.text]))
    (Disk.statSize (c.target callId))
  return ⟨.localPath (c.target callId), size⟩

end LocalObjectStorageClient

/-! ## The service -/

inductive StorageClient where
  | s3 (c : S3ObjectStorageClient)
  | disk (c : LocalObjectStorageClient)

structure StorageSettings where
  environment : Text
  audioHostPath : Text
  s3Bucket : Option Text
  s3AccessKeyId : Option Text
  s3SecretAccessKey : Option Text
  s3Sse : Text
  s3PresignTtlSeconds : ℤ

/-- The bucket, the disk and `_storage_service`. -/
structure StorageWorld (σ : Type) where
  remote : σ
  disk : Disk
  service : Option StorageClient

section Lift

variable {ε α : Type}

def remotely (x : Effectful ε σ α) : Effectful ε (StorageWorld σ) α := fun w =>
  ((x w.remote).1, { w with remote := (x w.remote).2 })

def locally (x : Effectful ε Disk α) : Effectful ε (StorageWorld σ) α := fun w =>
  ((x w.disk).1, { w with disk := (x w.disk).2 })

end Lift

namespace StorageClient

variable (client : S3Client σ) (cfg : StorageSettings)

def uploadForCall (callId : Uuid) (file : Option Bytes) :
    StorageClient → Effectful ObjectStorageError (StorageWorld σ) Text
  | s3 c => remotely (c.uploadAudio client callId file)
  | disk c => locally (c.uploadAudio callId file)

def deleteForCall (callId : Uuid) :
    StorageClient → Effectful ObjectStorageError (StorageWorld σ) Unit
  | s3 c => remotely (c.deleteAudio client callId)
  | disk c => locally (c.deleteAudio callId)

def presignedUrlForCall (callId : Uuid) (ttlSeconds : Option ℤ) :
    StorageClient → Effectful ObjectStorageError (StorageWorld σ) Text
  | s3 c => remotely (raiseFrom [] (.configuration [])
      (c.presignedUrl client callId (ttlSeconds.getD cfg.s3PresignTtlSeconds)))
  | disk c => locally (c.presignedUrl callId)

def transcribableSourceForCall (callId : Uuid) (ttlSeconds : Option ℤ) :
    StorageClient → Effectful ObjectStorageError (StorageWorld σ) AudioSource
  | s3 c => remotely (c.transcribableSource client callId (ttlSeconds.getD cfg.s3PresignTtlSeconds))
  | disk c => locally (c.transcribableSource callId)

end StorageClient

/-! ## Building the service -/

/-- `SSE_ALGORITHMS` -/
def sseAlgorithms : List Text := ["AES256", "aws:kms", "aws:kms:dsse", "aws:backup", "aws:fsx"]

def probeKey (pid : ℕ) : Text := concat [".oreeai-startup-probe-", natText pid]

/-- `b"ok"` -/
def probeBody : Bytes := [111, 107]

def reprEcho (isPrintable : Char → Bool) : Option Text → Text
  | some echoed => reprText isPrintable echoed
  | none => "None"

namespace S3ObjectStorageClient

variable (isPrintable : Char → Bool) (client : S3Client σ) (pid : ℕ) (c : S3ObjectStorageClient)

def probeFailed : ObjectStorageError :=
  .configuration (concat ["object storage startup probe failed for bucket ", c.bucket,
    ": endpoint unreachable, credentials rejected, or SSE unsupported"])

def notHonoured (echoed : Option Text) : ObjectStorageError :=
  .configuration (concat ["bucket ", c.bucket, " did not honor ServerSideEncryption=", c.sse,
    " (provider echoed ", reprEcho isPrintable echoed, ")"])

def unknownSse : ObjectStorageError :=
  .configuration (concat ["S3_SSE must be one of ", List.intercalate ", ".toList sseAlgorithms, "; got ",
    reprText isPrintable c.sse])

def probeWrite : Effectful ObjectStorageError σ Unit :=
  raiseFrom probeErrors c.probeFailed (client.putObject c.bucket (probeKey pid) probeBody c.sse)

def probeRead : Effectful ObjectStorageError σ Unit := do
  let head ← raiseFrom probeErrors c.probeFailed (client.headObject c.bucket (probeKey pid))
  if head.serverSideEncryption ≠ some c.sse then
    Effectful.raise (c.notHonoured isPrintable head.serverSideEncryption)

/-- The best-effort deletion. -/
def probeCleanup : Effectful ObjectStorageError σ Unit := fun s =>
  match client.deleteObject c.bucket (probeKey pid) s with
  | (.ok (), t) => (.ok (), t)
  | (.error e, t) => (if e.kind ∈ probeErrors then .ok () else .error (.escaped e), t)

def startupSseProbe : Effectful ObjectStorageError σ Unit := do
  if c.sse ∉ sseAlgorithms then Effectful.raise (c.unknownSse isPrintable)
  c.probeWrite client pid
  c.probeRead isPrintable client pid
  c.probeCleanup client pid

end S3ObjectStorageClient

def isUnset (value : Option Text) : Bool := value.getD [] = []

/-- `S3ObjectStorageClient.from_settings` -/
def fromSettings (isPrintable : Char → Bool) (client : S3Client σ) (cfg : StorageSettings) (pid : ℕ) :
    Effectful ObjectStorageError σ S3ObjectStorageClient := do
  if isUnset cfg.s3Bucket then Effectful.raise (.configuration "S3_BUCKET is not configured")
  if isUnset cfg.s3AccessKeyId ∨ isUnset cfg.s3SecretAccessKey then
    Effectful.raise (.configuration "S3_ACCESS_KEY_ID / S3_SECRET_ACCESS_KEY are not configured")
  let adapter : S3ObjectStorageClient := ⟨cfg.s3Bucket.getD [], cfg.s3Sse⟩
  adapter.startupSseProbe isPrintable client pid
  return adapter

/-- `LocalObjectStorageClient.from_settings` -/
def localFromSettings (cfg : StorageSettings) : LocalObjectStorageClient :=
  ⟨concat [cfg.audioHostPath, "/objects"]⟩

def buildObjectStorageService (isPrintable : Char → Bool) (client : S3Client σ) (cfg : StorageSettings)
    (pid : ℕ) : Effectful ObjectStorageError (StorageWorld σ) StorageClient := do
  let w ← Effectful.current
  match w.service with
  | some service => return service
  | none =>
      let service ←
        if isUnset cfg.s3Bucket = false then
          remotely (do return .s3 (← fromSettings isPrintable client cfg pid))
        else if cfg.environment = "production".toList then
          Effectful.raise (.configuration (concat ["S3_BUCKET is not configured: production cannot ",
            "upload audio without object storage"]))
        else
          pure (.disk (localFromSettings cfg))
      Effectful.update fun w => { w with service := some service }
      return service

end Notetaker.ObjectStorage

import Notetaker.CallRecord

/-!
# The call service

Every `mark_*` method requires the row, checks the table against the status it loaded and returns
the payload of its `UPDATE`, which starts with the new status. What becomes of that payload is the
transaction's business.
-/

open PythonText PythonFloat PythonUuid

namespace Notetaker

def CallStatus.value : CallStatus → Text
  | queued => "queued".toList
  | joining => "joining".toList
  | recording => "recording".toList
  | processing => "processing".toList
  | done => "done".toList
  | failed => "failed".toList

inductive ServiceError where
  | conflict (message : Text)
  | notFound (message : Text)
  deriving DecidableEq

structure CallCreate where
  meetingUrl : Text
  userRef : Text
  consentAck : Bool
  webhookUrl : Text
  webhookSecret : Text
  platform : Option CallPlatform

def countActive (rows : List Call) : ℕ := rows.countP fun call => call.status.Active

namespace CallService

/-- The insert of a create request that counted `active` rows. -/
def create (limit : ℤ) (active : ℕ) (data : CallCreate) (id : Uuid) (now : Timestamp) :
    Except ServiceError Call :=
  if limit ≤ active then .error (.conflict "CALL_CONCURRENCY_LIMIT reached".toList)
  else .ok {
    id := id
    createdAt := now
    updatedAt := now
    meetingUrl := data.meetingUrl
    userRef := data.userRef
    consentAck := data.consentAck
    platform := data.platform.getD .googleMeet
    status := .queued
    failureReason := none
    endReason := none
    audioUrl := none
    transcript := none
    webhookUrl := data.webhookUrl
    webhookSecret := data.webhookSecret
    webhookDeliveredAt := none
    webhookAttempts := 0
    botContainerName := none }

def requireCall (id : Uuid) : Option Call → Except ServiceError Call
  | some call => .ok call
  | none => .error (.notFound ("Call ".toList ++ id.text ++ " not found".toList))

def transition (call : Call) (new : CallStatus) (changes : Changes) : Except ServiceError Changes :=
  if CallStatus.Legal call.status new then .ok (.status new :: changes)
  else .error (.conflict ("illegal transition ".toList ++ call.status.value ++ " -> ".toList ++
    new.value))

def markBotStarted (id : Uuid) (row : Option Call) (containerName : Text) :
    Except ServiceError Changes := do
  let call ← requireCall id row
  transition call .joining [.botContainerName containerName]

def markRecording (id : Uuid) (row : Option Call) : Except ServiceError Changes := do
  let call ← requireCall id row
  transition call .recording []

def markProcessing (id : Uuid) (row : Option Call) : Except ServiceError Changes := do
  let call ← requireCall id row
  transition call .processing []

def markDone (id : Uuid) (row : Option Call) (endReason : Text)
    (transcript : Option (List SpeakerSegment)) (audioUrl : Option Text) :
    Except ServiceError Changes := do
  let call ← requireCall id row
  transition call .done
    (.endReason endReason :: ((transcript.map FieldChange.transcript).toList ++
      (audioUrl.map FieldChange.audioUrl).toList))

def markFailed (id : Uuid) (row : Option Call) (failureReason : Text) :
    Except ServiceError Changes := do
  let call ← requireCall id row
  transition call .failed [.failureReason failureReason]

end CallService

end Notetaker

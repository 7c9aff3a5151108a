import Notetaker.CallStatus
import Notetaker.PythonUuid

/-!
# Call rows

`Call` is a row of the table `calls`, with times in seconds. An `UPDATE` assigns a list of fields;
`update` is the repository's update of one object: when the assignments change nothing no statement
is sent, and otherwise `updated_at` is refreshed by the column's `onupdate`.
-/

open PythonText PythonFloat PythonUuid

namespace Notetaker

abbrev Timestamp := ℚ

inductive CallPlatform where
  | googleMeet
  deriving DecidableEq

structure SpeakerSegment where
  speaker : Text
  start : PyFloat
  stop : PyFloat
  text : Text
  deriving DecidableEq

structure Call where
  id : Uuid
  createdAt : Timestamp
  updatedAt : Timestamp
  meetingUrl : Text
  userRef : Text
  consentAck : Bool
  platform : CallPlatform
  status : CallStatus
  failureReason : Option Text
  endReason : Option Text
  audioUrl : Option Text
  transcript : Option (List SpeakerSegment)
  webhookUrl : Text
  webhookSecret : Text
  webhookDeliveredAt : Option Timestamp
  webhookAttempts : ℕ
  botContainerName : Option Text
  deriving DecidableEq

/-- One entry of a `changes` dictionary. -/
inductive FieldChange where
  | status (s : CallStatus)
  | failureReason (reason : Text)
  | endReason (reason : Text)
  | audioUrl (url : Text)
  | transcript (segments : List SpeakerSegment)
  | botContainerName (name : Text)
  deriving DecidableEq

abbrev Changes := List FieldChange

namespace FieldChange

/-- `setattr(obj, field, value)`. -/
def assign (call : Call) : FieldChange → Call
  | status s => { call with status := s }
  | failureReason reason => { call with failureReason := some reason }
  | endReason reason => { call with endReason := some reason }
  | audioUrl url => { call with audioUrl := some url }
  | transcript segments => { call with transcript := some segments }
  | botContainerName name => { call with botContainerName := some name }

def writesStatus : FieldChange → Bool
  | status _ => true
  | _ => false

end FieldChange

namespace Call

def assign (call : Call) (changes : Changes) : Call := changes.foldl FieldChange.assign call

/-- The changes that differ from the loaded object, which are the ones the flush sends. -/
def dirty (loaded : Call) (changes : Changes) : Changes :=
  changes.filter fun change => change.assign loaded ≠ loaded

/-- `UPDATE calls SET …` sent by a flush of `loaded`, against the row as it stands by then. -/
def updateRow (row loaded : Call) (changes : Changes) (now : Timestamp) : Call :=
  if loaded.dirty changes = [] then row
  else { row.assign (loaded.dirty changes) with updatedAt := now }

/-- `BaseRepository.update` of an object whose row nobody else has touched. -/
def update (call : Call) (changes : Changes) (now : Timestamp) : Call :=
  call.updateRow call changes now

@[simp] theorem assign_nil (call : Call) : call.assign [] = call := rfl

@[simp] theorem assign_cons (call : Call) (change : FieldChange) (changes : Changes) :
    call.assign (change :: changes) = (change.assign call).assign changes := rfl

theorem status_assign_of_forall (call : Call) {changes : Changes}
    (h : ∀ change ∈ changes, change.writesStatus = false) : (call.assign changes).status = call.status := by
  induction changes generalizing call with
  | nil => rfl
  | cons change changes ih =>
      have hhead : (change.assign call).status = call.status := by
        have hwrites := h change (by simp)
        cases change with
        | status s => cases hwrites
        | _ => rfl
      rw [assign_cons, ih _ fun c hc => h c (List.mem_cons_of_mem change hc), hhead]

@[simp] theorem id_assign (call : Call) (changes : Changes) :
    (call.assign changes).id = call.id := by
  induction changes generalizing call with
  | nil => rfl
  | cons change changes ih =>
      rw [assign_cons, ih]
      cases change <;> rfl

@[simp] theorem id_updateRow (row loaded : Call) (changes : Changes) (now : Timestamp) :
    (row.updateRow loaded changes now).id = row.id := by
  unfold updateRow
  split_ifs
  · rfl
  · exact id_assign row _

theorem mem_of_mem_dirty {loaded : Call} {changes : Changes} {change : FieldChange}
    (h : change ∈ loaded.dirty changes) : change ∈ changes := List.mem_of_mem_filter h

theorem status_updateRow_of_forall (row loaded : Call) {changes : Changes} (now : Timestamp)
    (h : ∀ change ∈ changes, change.writesStatus = false) :
    (row.updateRow loaded changes now).status = row.status := by
  unfold updateRow
  split_ifs
  · rfl
  · exact status_assign_of_forall row fun c hc => h c (mem_of_mem_dirty hc)

theorem status_updateRow (row loaded : Call) {s : CallStatus} {changes : Changes} (now : Timestamp)
    (hs : s ≠ loaded.status) (h : ∀ change ∈ changes, change.writesStatus = false) :
    (row.updateRow loaded (.status s :: changes) now).status = s := by
  have hdirty : loaded.dirty (.status s :: changes) = .status s :: loaded.dirty changes := by
    have hne : FieldChange.assign loaded (.status s) ≠ loaded := fun he =>
      hs (congrArg Call.status he)
    exact List.filter_cons_of_pos (by simpa using hne)
  rw [updateRow, hdirty, if_neg (List.cons_ne_nil _ _)]
  exact status_assign_of_forall _ fun c hc => h c (mem_of_mem_dirty hc)

theorem exists_update_single (call : Call) (change : FieldChange) (now : Timestamp) :
    ∃ updatedAt, call.update [change] now = { change.assign call with updatedAt := updatedAt } := by
  by_cases hsame : change.assign call = call
  · have hdirty : call.dirty [change] = [] := List.filter_cons_of_neg (by simp [hsame])
    rw [update, updateRow, if_pos hdirty, hsame]
    exact ⟨call.updatedAt, rfl⟩
  · have hdirty : call.dirty [change] = [change] := List.filter_cons_of_pos (by simp [hsame])
    rw [update, updateRow, hdirty, if_neg (List.cons_ne_nil _ _)]
    exact ⟨now, rfl⟩

end Call
end Notetaker

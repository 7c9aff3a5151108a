import Notetaker.AdmissionSafety
import Notetaker.CallWrites
import Notetaker.StoredAudio
import Notetaker.WebhookDelivery

/-!
# Retention passes

`enforce_retention` in its steps: one transaction lists the expired rows that nobody has locked; then
each row is locked again or skipped, its object deleted, its `audio_url` nulled, and the transaction
committed. An exception rolls the row back and the pass goes on with the next one. Any number of passes
run between creates, uploads, transitions and deliveries, which are single steps on rows that no pass
has locked. Every step has a time, and time does not go back.

Ghost fields record when a call ended, and for which calls an object has been deleted.
-/

open PythonText PythonUuid

namespace Notetaker

inductive PassPhase where
  | idle
  /-- Between two rows; the count is the value the pass will return. -/
  | scanning (ids : List Uuid) (reclaimed : ℕ)
  | locked (id : Uuid) (txStart : Timestamp) (ids : List Uuid) (reclaimed : ℕ)
  | deleted (id : Uuid) (txStart : Timestamp) (ids : List Uuid) (reclaimed : ℕ)
  | updated (id : Uuid) (txStart : Timestamp) (ids : List Uuid) (reclaimed : ℕ)

namespace PassPhase

/-- The row lock of the pass, with the start of its transaction. -/
def claim : PassPhase → Option (Uuid × Timestamp)
  | locked id txStart _ _ | deleted id txStart _ _ | updated id txStart _ _ => some (id, txStart)
  | _ => none

def listed : PassPhase → List Uuid
  | idle => []
  | scanning ids _ => ids
  | locked id _ ids _ | deleted id _ ids _ | updated id _ ids _ => id :: ids

def hasDeleted : PassPhase → Option Uuid
  | deleted id _ _ _ | updated id _ _ _ => some id
  | _ => none

end PassPhase

inductive DeleteOutcome where
  | succeeded
  /-- The adapter raised; the object may be gone all the same. -/
  | failed (gone : Bool)

structure RetentionState where
  clock : Timestamp
  rows : List Call
  lock : Uuid → Option ℕ
  stored : Uuid → Bool
  pass : ℕ → PassPhase
  endedAt : Uuid → Option Timestamp
  deletedObjects : List Uuid

inductive RetentionEvent where
  | create (data : CallCreate) (id : Uuid)
  | transition (id : Uuid) (tr : Transition)
  | upload (id : Uuid)
  | deliver (id : Uuid) (receiver : ℕ → Attempt)
  | list (i : ℕ)
  | relock (i : ℕ) (succeeds : Bool)
  | delete (i : ℕ) (outcome : DeleteOutcome)
  | update (i : ℕ) (succeeds : Bool)
  | commit (i : ℕ) (succeeds : Bool)
  | finish (i : ℕ)

namespace RetentionState

def setPass (s : RetentionState) (i : ℕ) (phase : PassPhase) : RetentionState :=
  { s with pass := Function.update s.pass i phase }

/-- The end of a row's transaction. -/
def release (s : RetentionState) (i : ℕ) (id : Uuid) (ids : List Uuid) (reclaimed : ℕ) :
    RetentionState :=
  { s.setPass i (.scanning ids reclaimed) with lock := Function.update s.lock id none }

def write (s : RetentionState) (id : Uuid) (new : Call) (now : Timestamp) : RetentionState :=
  { s with
    rows := modifyRow s.rows id fun _ => new
    endedAt := if new.status.Terminal ∧ s.endedAt id = none then
        Function.update s.endedAt id (some now)
      else s.endedAt }

def act (cfg : WorkerSettings) (s : RetentionState) (now : Timestamp) :
    RetentionEvent → Option RetentionState
  | .create data id =>
      match findRow s.rows id, CallService.create cfg.runner.callConcurrencyLimit
          (countActive s.rows) data id now with
      | none, .ok row => some { s with rows := s.rows ++ [row] }
      | none, .error _ => some s
      | some _, _ => none
  | .transition id tr =>
      match findRow s.rows id, s.lock id with
      | some row, none =>
          match tr.body cfg.runner.callConcurrencyLimit now row with
          | some todo => some (s.write id (applyStatements row todo) now)
          | none => some s
      | _, _ => none
  | .upload id => some { s with stored := Function.update s.stored id true }
  | .deliver id receiver =>
      match findRow s.rows id, s.lock id with
      | some row, none =>
          match dispatchWebhook cfg.codec cfg.webhookMaxAttempts receiver now now (some row) with
          | some delivery => some (s.write id delivery.call now)
          | none => some s
      | _, _ => none
  | .list i =>
      match s.pass i with
      | .idle => (expiredIds cfg.runner now (s.rows.filter fun row => s.lock row.id = none)).map
          fun ids => s.setPass i (.scanning ids 0)
      | _ => none
  | .relock i succeeds =>
      match s.pass i with
      | .scanning (id :: ids) reclaimed =>
          if succeeds ∧ s.lock id = none ∧ (findRow s.rows id).isSome then
            some { s.setPass i (.locked id now ids reclaimed) with
              lock := Function.update s.lock id (some i) }
          else some (s.setPass i (.scanning ids reclaimed))
      | _ => none
  | .delete i outcome =>
      match s.pass i with
      | .locked id txStart ids reclaimed =>
          match outcome with
          | .succeeded => some { s.setPass i (.deleted id txStart ids reclaimed) with
              stored := Function.update s.stored id false
              deletedObjects := id :: s.deletedObjects }
          | .failed gone => some { s.release i id ids reclaimed with
              stored := if gone then Function.update s.stored id false else s.stored }
      | _ => none
  | .update i succeeds =>
      match s.pass i with
      | .deleted id txStart ids reclaimed =>
          if succeeds then some (s.setPass i (.updated id txStart ids reclaimed))
          else some (s.release i id ids reclaimed)
      | _ => none
  | .commit i succeeds =>
      match s.pass i with
      | .updated id txStart ids reclaimed =>
          if succeeds then some { s.release i id ids (reclaimed + 1) with
            rows := modifyRow s.rows id fun row =>
              { row with audioUrl := none, updatedAt := txStart } }
          else some (s.release i id ids reclaimed)
      | _ => none
  | .finish i =>
      match s.pass i with
      | .scanning [] _ => some (s.setPass i .idle)
      | _ => none

def step (cfg : WorkerSettings) (s : RetentionState) (e : Timestamp × RetentionEvent) :
    Option RetentionState :=
  if s.clock ≤ e.1 then { s with clock := e.1 }.act cfg e.1 e.2 else none

end RetentionState

/-- The passes start on an empty table. -/
def retentionSystem (cfg : WorkerSettings) :
    TransitionSystem RetentionState (Timestamp × RetentionEvent) where
  init s := s.rows = [] ∧ (∀ id, s.lock id = none) ∧ (∀ i, s.pass i = .idle) ∧
    (∀ id, s.endedAt id = none) ∧ s.deletedObjects = []
  step s e := s.step cfg e

namespace RetentionEvent

def owner : RetentionEvent → Option ℕ
  | list i | relock i _ | delete i _ | update i _ | commit i _ | finish i => some i
  | _ => none

end RetentionEvent

/-- The retention window of a terminal status, in days. -/
def retentionDays (cfg : RunnerSettings) : CallStatus → Option ℤ
  | .done => some cfg.audioRetentionDays
  | .failed => some cfg.failedAudioRetentionDays
  | _ => none

/-! ## What a step can do -/

inductive PassStep (cfg : WorkerSettings) (s : RetentionState) (now : Timestamp) (i : ℕ) :
    RetentionEvent → RetentionState → Prop where
  | listed (ids : List Uuid) (hphase : s.pass i = .idle)
      (hids : expiredIds cfg.runner now (s.rows.filter fun row => s.lock row.id = none) = some ids) :
      PassStep cfg s now i (.list i) (s.setPass i (.scanning ids 0))
  | locked (id : Uuid) (ids : List Uuid) (reclaimed : ℕ)
      (hphase : s.pass i = .scanning (id :: ids) reclaimed) (hfree : s.lock id = none) :
      PassStep cfg s now i (.relock i true) { s.setPass i (.locked id now ids reclaimed) with
        lock := Function.update s.lock id (some i) }
  | skipped (id : Uuid) (ids : List Uuid) (reclaimed : ℕ) (succeeds : Bool)
      (hphase : s.pass i = .scanning (id :: ids) reclaimed)
      (hfails : ¬ (succeeds ∧ s.lock id = none ∧ (findRow s.rows id).isSome)) :
      PassStep cfg s now i (.relock i succeeds) (s.setPass i (.scanning ids reclaimed))
  | deleted (id : Uuid) (txStart : Timestamp) (ids : List Uuid) (reclaimed : ℕ)
      (hphase : s.pass i = .locked id txStart ids reclaimed) :
      PassStep cfg s now i (.delete i .succeeded) { s.setPass i (.deleted id txStart ids reclaimed) with
        stored := Function.update s.stored id false
        deletedObjects := id :: s.deletedObjects }
  | deleteFailed (id : Uuid) (txStart : Timestamp) (ids : List Uuid) (reclaimed : ℕ) (gone : Bool)
      (hphase : s.pass i = .locked id txStart ids reclaimed) :
      PassStep cfg s now i (.delete i (.failed gone)) { s.release i id ids reclaimed with
        stored := if gone then Function.update s.stored id false else s.stored }
  | updated (id : Uuid) (txStart : Timestamp) (ids : List Uuid) (reclaimed : ℕ)
      (hphase : s.pass i = .deleted id txStart ids reclaimed) :
      PassStep cfg s now i (.update i true) (s.setPass i (.updated id txStart ids reclaimed))
  | updateFailed (id : Uuid) (txStart : Timestamp) (ids : List Uuid) (reclaimed : ℕ)
      (hphase : s.pass i = .deleted id txStart ids reclaimed) :
      PassStep cfg s now i (.update i false) (s.release i id ids reclaimed)
  | committed (id : Uuid) (txStart : Timestamp) (ids : List Uuid) (reclaimed : ℕ)
      (hphase : s.pass i = .updated id txStart ids reclaimed) :
      PassStep cfg s now i (.commit i true) { s.release i id ids (reclaimed + 1) with
        rows := modifyRow s.rows id fun row => { row with audioUrl := none, updatedAt := txStart } }
  | commitFailed (id : Uuid) (txStart : Timestamp) (ids : List Uuid) (reclaimed : ℕ)
      (hphase : s.pass i = .updated id txStart ids reclaimed) :
      PassStep cfg s now i (.commit i false) (s.release i id ids reclaimed)
  | finished (reclaimed : ℕ) (hphase : s.pass i = .scanning [] reclaimed) :
      PassStep cfg s now i (.finish i) (s.setPass i .idle)

theorem passStep_of_act {cfg : WorkerSettings} {s t : RetentionState} {now : Timestamp}
    {e : RetentionEvent} {i : ℕ} (h : s.act cfg now e = some t) (howner : e.owner = some i) :
    PassStep cfg s now i e t := by
  unfold RetentionState.act at h
  cases e with
  | list j =>
      obtain rfl := Option.some.inj howner
      dsimp only at h
      split at h
      · rename_i hphase
        obtain ⟨ids, hids, rfl⟩ := Option.map_eq_some_iff.1 h
        exact .listed ids hphase hids
      · cases h
  | relock j succeeds =>
      obtain rfl := Option.some.inj howner
      dsimp only at h
      split at h
      · rename_i id ids reclaimed hphase
        split_ifs at h with hfree
        · cases h
          obtain ⟨rfl, hlock, -⟩ := hfree
          exact .locked id ids reclaimed hphase hlock
        · cases h
          exact .skipped id ids reclaimed succeeds hphase hfree
      · cases h
  | delete j outcome =>
      obtain rfl := Option.some.inj howner
      dsimp only at h
      split at h
      · rename_i id txStart ids reclaimed hphase
        cases outcome with
        | succeeded =>
            cases h
            exact .deleted id txStart ids reclaimed hphase
        | failed gone =>
            cases h
            exact .deleteFailed id txStart ids reclaimed gone hphase
      · cases h
  | update j succeeds =>
      obtain rfl := Option.some.inj howner
      dsimp only at h
      split at h
      · rename_i id txStart ids reclaimed hphase
        cases succeeds with
        | true =>
            cases h
            exact .updated id txStart ids reclaimed hphase
        | false =>
            cases h
            exact .updateFailed id txStart ids reclaimed hphase
      · cases h
  | commit j succeeds =>
      obtain rfl := Option.some.inj howner
      dsimp only at h
      split at h
      · rename_i id txStart ids reclaimed hphase
        cases succeeds with
        | true =>
            cases h
            exact .committed id txStart ids reclaimed hphase
        | false =>
            cases h
            exact .commitFailed id txStart ids reclaimed hphase
      · cases h
  | finish j =>
      obtain rfl := Option.some.inj howner
      dsimp only at h
      split at h
      · rename_i reclaimed hphase
        cases h
        exact .finished reclaimed hphase
      · cases h
  | _ => cases howner

inductive TableStep (s : RetentionState) (now : Timestamp) : RetentionState → Prop where
  | kept : TableStep s now s
  | created (row : Call) (hfresh : findRow s.rows row.id = none) (hqueued : row.status = .queued) :
      TableStep s now { s with rows := s.rows ++ [row] }
  | uploaded (id : Uuid) : TableStep s now { s with stored := Function.update s.stored id true }
  | wrote (row new : Call) (hrow : row ∈ s.rows) (hid : new.id = row.id)
      (hstatus : row.status.Terminal → new.status = row.status)
      (hupdated : new.updatedAt = row.updatedAt ∨ new.updatedAt = now)
      (hend : ¬ row.status.Terminal → new.status.Terminal → new.updatedAt = now)
      (haudio : row.audioUrl ≠ none → new.audioUrl ≠ none) :
      TableStep s now (s.write row.id new now)

theorem tableStep_of_act {cfg : WorkerSettings} {s t : RetentionState} {now : Timestamp}
    {e : RetentionEvent} (h : s.act cfg now e = some t) (howner : e.owner = none) :
    TableStep s now t := by
  unfold RetentionState.act at h
  cases e with
  | create data id =>
      dsimp only at h
      split at h
      · rename_i row hfresh hcreate
        cases h
        obtain ⟨rfl, hqueued⟩ := AdmissionState.queued_of_create hcreate
        exact .created row hfresh hqueued
      · cases h
        exact .kept
      · cases h
  | transition id tr =>
      dsimp only at h
      split at h
      · rename_i row hrow _
        obtain ⟨hmem, rfl⟩ := findRow_mem hrow
        split at h
        · rename_i todo hbody
          cases h
          have hwritten := Transition.written hbody
          exact .wrote row _ hmem hwritten.id_eq (fun h => absurd h hwritten.live)
            (.inr hwritten.updatedAt_eq) (fun _ _ => hwritten.updatedAt_eq)
            fun h => audioUrl_applyStatements_ne_none h todo
        · cases h
          exact .kept
      · cases h
  | upload id =>
      cases h
      exact .uploaded id
  | deliver id receiver =>
      dsimp only at h
      split at h
      · rename_i row hrow _
        obtain ⟨hmem, rfl⟩ := findRow_mem hrow
        split at h
        · rename_i delivery hdelivery
          cases h
          unfold dispatchWebhook at hdelivery
          dsimp only at hdelivery
          split_ifs at hdelivery with hready
          cases hdelivery
          have hsame := sameButDelivery_deliver cfg.codec cfg.webhookMaxAttempts receiver now now row
          refine .wrote row _ hmem hsame.id_eq (fun _ => hsame.status_eq)
            (updatedAt_deliver cfg.codec cfg.webhookMaxAttempts receiver now now row) ?_ ?_
          · intro hlive
            exact absurd (not_not.1 (not_or.1 hready).2) hlive
          · intro haudio
            obtain ⟨_, _, _, hcall⟩ := hsame
            rw [hcall]
            exact haudio
        · cases h
          exact .kept
      · cases h
  | _ => cases howner

end Notetaker

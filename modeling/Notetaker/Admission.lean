import Notetaker.CallTransitions

/-!
# Admission under concurrent claims and creates

Any number of claims (`poll_once`) and of API creates run on one table, each in its separate steps:
a claim locks the oldest unlocked queued row, counts the active rows of the committed state, decides,
and commits; a create counts and then inserts. Every other transition is one step on an unlocked
row. A committed claim leaves a task behind, which spawns the bot when it finds the call joining.

A counted claim that the ceiling admits holds a reservation. The rows in flight and the reservations
together never exceed the ceiling: they are all among the active rows that the latest admitted count
saw.
-/

open PythonText PythonFloat PythonUuid JsonText

namespace Notetaker

inductive PollPhase where
  | idle
  | locked (read : Call)
  | counted (read : Call) (active : ℕ)
  /-- The `UPDATE` is sent; the commit is outstanding. -/
  | decided (read : Call) (active : ℕ) (diskOk : Bool) (payload : Changes) (now : Timestamp)

def PollPhase.read : PollPhase → Option Call
  | idle => none
  | locked read | counted read _ | decided read _ _ _ _ => some read

inductive CreatePhase where
  | idle
  | counted (active : ℕ)

structure AdmissionState where
  rows : List Call
  lock : Uuid → Option ℕ
  poll : ℕ → PollPhase
  create : ℕ → CreatePhase
  /-- The call ids of the committed claims, newest first. -/
  claims : List Uuid
  /-- Claimed calls whose task has not started. -/
  tasks : List Uuid
  spawned : List Uuid

inductive AdmissionEvent where
  | pollSelect (i : ℕ)
  | pollCount (i : ℕ)
  | pollDecide (i : ℕ) (diskOk : Bool) (now : Timestamp)
  | pollCommit (i : ℕ)
  | pollAbort (i : ℕ)
  | createCount (j : ℕ)
  | createInsert (j : ℕ) (data : CallCreate) (id : Uuid) (now : Timestamp)
  | transition (id : Uuid) (tr : Transition) (now : Timestamp)
  | runCall (id : Uuid)

def findRow (rows : List Call) (id : Uuid) : Option Call := rows.find? (·.id = id)

def modifyRow (rows : List Call) (id : Uuid) (f : Call → Call) : List Call :=
  rows.map fun c => if c.id = id then f c else c

/-- `ORDER BY created_at, id`. -/
def olderThan (c d : Call) : Bool :=
  c.createdAt < d.createdAt || (c.createdAt = d.createdAt && c.id.toNat ≤ d.id.toNat)

/-- The first of the rows in claim order. -/
def oldest : List Call → Option Call
  | [] => none
  | c :: cs => match oldest cs with
      | none => some c
      | some d => some (if olderThan c d then c else d)

namespace AdmissionState

def setPoll (s : AdmissionState) (i : ℕ) (p : PollPhase) : AdmissionState :=
  { s with poll := Function.update s.poll i p }

def unlock (s : AdmissionState) (id : Uuid) : AdmissionState :=
  { s with lock := Function.update s.lock id none }

def candidate (s : AdmissionState) : Option Call :=
  oldest (s.rows.filter fun c => c.status = .queued && s.lock c.id = none)

def step (limit : ℤ) (s : AdmissionState) : AdmissionEvent → Option AdmissionState
  | .pollSelect i =>
      match s.poll i, s.candidate with
      | .idle, some read =>
          some { s.setPoll i (.locked read) with lock := Function.update s.lock read.id (some i) }
      | .idle, none => some s
      | _, _ => none
  | .pollCount i =>
      match s.poll i with
      | .locked read => some (s.setPoll i (.counted read (countActive s.rows)))
      | _ => none
  | .pollDecide i diskOk now =>
      match s.poll i with
      | .counted read active =>
          match pollPayload limit active diskOk read with
          | .ok payload =>
              some (s.setPoll i (.decided read active diskOk payload now))
          | .error _ => some ((s.setPoll i .idle).unlock read.id)
      | _ => none
  | .pollCommit i =>
      match s.poll i with
      | .decided read active diskOk payload now =>
          let t := { (s.setPoll i .idle).unlock read.id with
            rows := modifyRow s.rows read.id fun row => row.updateRow read payload now }
          if admits limit active diskOk then
            some { t with claims := read.id :: s.claims, tasks := read.id :: s.tasks }
          else some t
      | _ => none
  | .pollAbort i =>
      (s.poll i).read.map fun read => (s.setPoll i .idle).unlock read.id
  | .createCount j =>
      match s.create j with
      | .idle => some { s with create := Function.update s.create j (.counted (countActive s.rows)) }
      | _ => none
  | .createInsert j data id now =>
      match s.create j with
      | .counted active =>
          if findRow s.rows id = none then
            let t := { s with create := Function.update s.create j .idle }
            match CallService.create limit active data id now with
            | .ok row => some { t with rows := s.rows ++ [row] }
            | .error _ => some t
          else none
      | _ => none
  | .transition id tr now =>
      match findRow s.rows id with
      | some row =>
          if s.lock id = none ∧ tr.locks = false then
            match tr.body limit now row with
            | some todo => some { s with rows := modifyRow s.rows id fun _ => applyStatements row todo }
            | none => some s
          else none
      | none => none
  | .runCall id =>
      if id ∈ s.tasks then
        let t := { s with tasks := s.tasks.erase id }
        match findRow s.rows id with
        | some row => some (if row.status = .joining then { t with spawned := id :: s.spawned } else t)
        | none => some t
      else none

end AdmissionState

/-- The table is empty and nobody is at work. -/
def admissionSystem (limit : ℤ) : TransitionSystem AdmissionState AdmissionEvent where
  init s := s.rows = [] ∧ (∀ id, s.lock id = none) ∧ (∀ i, s.poll i = .idle) ∧
    (∀ j, s.create j = .idle) ∧ s.claims = [] ∧ s.tasks = [] ∧ s.spawned = []
  step s e := s.step limit e

def countInFlight (rows : List Call) : ℕ := rows.countP fun call => call.status.InFlight

end Notetaker

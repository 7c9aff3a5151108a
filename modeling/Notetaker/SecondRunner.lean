import Notetaker.WorkerSystem

/-!
# Two runners on one database and one docker host

The tasks of the system are split between two instances of the runner. A poll locks the queued row that
it selects and decides on it in a later step. The docker host knows the containers of the bots by
their calls: a spawn adds one, and the exit of a bot takes it away, as `docker kill` and `docker rm -f`
do. The startup sweep kills behind its transaction, the stale sweep ahead of it. A step of the worker
system is one step here; `orphan_sweep` reads what `docker ps` lists on this host.
-/

open PythonText PythonUuid

namespace Notetaker

inductive Instance where
  | a | b
  deriving DecidableEq

structure HostState where
  clock : Timestamp
  worker : WorkerState
  /-- The polls under way, each with the row it has locked. -/
  polls : List (ℕ × Uuid)
  /-- The calls whose container is on the host. -/
  bots : List Uuid
  /-- The call for which a sweep issues its docker commands next. -/
  docker : ℕ → Option Uuid

inductive HostEvent where
  /-- A step that is neither a poll nor the start of an orphan sweep. -/
  | worker (e : WorkerEvent)
  | select (j : ℕ)
  /-- The poll of task `j` decides; task `k` runs the call it may claim. -/
  | finishPoll (j k : ℕ) (diskOk : Bool)
  /-- `orphan_sweep`; the listing may fail. -/
  | orphanSweep (j : ℕ) (listed : Bool)
  | docker (j : ℕ)
  | crash (r : Instance)

def RunnerEvent.actor : RunnerEvent → Option ℕ
  | create _ _ _ | crash => none
  | poll j _ _ _ | start j | signal j | exit j _ _ | transact j _ | upload j _ | source j _
  | transcribe j _ | fault j | dispatch j | staleStart j _ | orphanStart j _ | sweepEnd j
  | retentionStart j _ | retentionRow j _ => some j

def RunnerEvent.time : RunnerEvent → Option Timestamp
  | create _ _ now | poll _ _ _ now | transact _ now | staleStart _ now | retentionStart _ now
  | retentionRow _ (.reclaimed now) => some now
  | _ => none

def RunnerEvent.plain : RunnerEvent → Bool
  | poll _ _ _ _ | orphanStart _ _ | crash => false
  | _ => true

def HostEvent.actor : HostEvent → Option ℕ
  | worker e => e.event.actor
  | select j | finishPoll j _ _ | orphanSweep j _ | docker j => some j
  | crash _ => none

/-- The rest of a poll that has locked the row of call `id`. -/
def RunnerState.finishPoll (cfg : RunnerSettings) (s : RunnerState) (id : Uuid) (j k : ℕ)
    (diskOk : Bool) (now : Timestamp) : Option RunnerState :=
  match s.tasks j, findRow s.rows id with
  | .idle, some row =>
      match pollPayload cfg.callConcurrencyLimit (countActive s.rows) diskOk row with
      | .ok payload =>
          let t := { s with rows := modifyRow s.rows id fun _ => row.update payload now }
          if admits cfg.callConcurrencyLimit (countActive s.rows) diskOk then
            match s.tasks k with
            | .idle => if k = j then none else some (t.setTask k (.claimed id))
            | _ => none
          else some ((t.setTask j (.dispatching id .finished)).recordWinner id .failed j)
      | .error _ => some s
  | _, _ => none

namespace HostState

def Locked (s : HostState) (id : Uuid) : Prop := ∃ p ∈ s.polls, p.2 = id

def Polling (s : HostState) (j : ℕ) : Prop := ∃ p ∈ s.polls, p.1 = j

instance (s : HostState) (id : Uuid) : Decidable (s.Locked id) :=
  inferInstanceAs (Decidable (∃ p ∈ s.polls, p.2 = id))

instance (s : HostState) (j : ℕ) : Decidable (s.Polling j) :=
  inferInstanceAs (Decidable (∃ p ∈ s.polls, p.1 = j))

/-- The task goes on with nothing but its own program. -/
def Free (s : HostState) (j : ℕ) : Prop := s.docker j = none ∧ ¬ s.Polling j

instance (s : HostState) (j : ℕ) : Decidable (s.Free j) := inferInstanceAs (Decidable (_ ∧ _))

end HostState

/-- A stale sweep kills the container before its transaction. -/
def Task.killsNext : Task → Option Uuid
  | sweeping (.stale (id :: _)) => some id
  | _ => none

/-- The docker commands that follow when the task has moved from `old` to `new`. -/
def Task.killsAfter (old new : Task) : Option Uuid :=
  match old with
  | sweeping (.orphan (id :: _)) => some id
  | _ => new.killsNext

namespace HostState

def kill (s : HostState) (id : Uuid) : List Uuid := s.bots.filter fun id' => id' ≠ id

def botsAfter (s : HostState) (t : WorkerState) : RunnerEvent → List Uuid
  | .start k =>
      match t.runner.tasks k with
      | .running id _ => id :: s.bots
      | _ => s.bots
  | .exit k _ _ =>
      match s.worker.runner.tasks k with
      | .running id _ => s.kill id
      | _ => s.bots
  | _ => s.bots

def Waits (s : HostState) (j : ℕ) : RunnerEvent → Prop
  | .transact _ _ => ∃ w ∈ (s.worker.runner.tasks j).work, s.Locked w.1
  | _ => False

instance (s : HostState) (j : ℕ) (e : RunnerEvent) : Decidable (s.Waits j e) := by
  cases e <;> unfold Waits <;> infer_instance

/-- What `docker ps` lists under the prefix of the calls. The runners' own containers, which carry the
prefix too, are left out: their removal is a crash of their runner, which can happen at any step. -/
def listing (s : HostState) : Text := dockerPs (s.bots.map containerName)

def advance (s : HostState) (j : ℕ) (e : RunnerEvent) (t : WorkerState) : HostState :=
  { s with
    worker := t
    bots := s.botsAfter t e
    docker := Function.update s.docker j
      ((s.worker.runner.tasks j).killsAfter (t.runner.tasks j)) }

variable (cfg : WorkerSettings) (owner : ℕ → Instance)

def act (s : HostState) (now : Timestamp) : HostEvent → Option HostState
  | .worker e =>
      if e.event.plain ∧ ∀ time ∈ e.event.time, time = now then
        match e.event.actor with
        | none => (s.worker.step cfg e).map fun t => { s with worker := t }
        | some j =>
            if s.Free j ∧ ¬ s.Waits j e.event then
              (s.worker.step cfg e).map (s.advance j e.event)
            else none
      else none
  | .select j =>
      match s.worker.runner.tasks j with
      | .idle =>
          if s.Free j then
            match oldest (s.worker.runner.rows.filter fun row =>
                row.status = .queued ∧ ¬ s.Locked row.id) with
            | some row => some { s with polls := (j, row.id) :: s.polls }
            | none => some s
          else none
      | _ => none
  | .finishPoll j k diskOk =>
      match s.polls.find? fun p => p.1 = j with
      | some p =>
          if owner k = owner j ∧ (s.Free k ∨ k = j) then
            (s.worker.runner.finishPoll cfg.runner p.2 j k diskOk now).map fun t => { s with
              worker := { s.worker with runner := t }
              polls := s.polls.filter fun p => p.1 ≠ j }
          else none
      | none => none
  | .orphanSweep j listed =>
      if s.Free j then
        if listed then (s.worker.step cfg (.runner (.orphanStart j s.listing))).map
          (s.advance j (.orphanStart j s.listing))
        else some s
      else none
  | .docker j =>
      match s.docker j with
      | some id => some { s with
          bots := s.kill id
          docker := Function.update s.docker j none }
      | none => none
  | .crash r => some { s with
      worker := { s.worker with runner := { s.worker.runner with
        tasks := fun j => if owner j = r then .idle else s.worker.runner.tasks j } }
      polls := s.polls.filter fun p => owner p.1 ≠ r
      docker := fun j => if owner j = r then none else s.docker j }

def step (s : HostState) (e : Timestamp × HostEvent) : Option HostState :=
  if s.clock ≤ e.1 then { s with clock := e.1 }.act cfg owner e.1 e.2 else none

end HostState

/-- The host without containers, before the first task of either instance. -/
def hostSystem (cfg : WorkerSettings) (owner : ℕ → Instance) :
    TransitionSystem HostState (Timestamp × HostEvent) where
  init s := (workerSystem cfg).init s.worker ∧ s.polls = [] ∧ s.bots = [] ∧ ∀ j, s.docker j = none
  step s e := s.step cfg owner e

/-! ## What a step can do -/

inductive PollEnd (cfg : RunnerSettings) (s : RunnerState) (id : Uuid) (j k : ℕ) (now : Timestamp) :
    RunnerState → Prop where
  | unchanged : PollEnd cfg s id j k now s
  | claimed (row new : Call) (hidle : s.tasks k = .idle) (hrow : row ∈ s.rows) (hid : row.id = id)
      (hnew : new.id = id) (hstatus : new.status = .joining) :
      PollEnd cfg s id j k now
        ({ s with rows := modifyRow s.rows id fun _ => new }.setTask k (.claimed id))
  | refused (row new : Call) (hidle : s.tasks j = .idle) (hrow : row ∈ s.rows) (hid : row.id = id)
      (hnew : new.id = id) (hstatus : new.status = .failed) :
      PollEnd cfg s id j k now
        (({ s with rows := modifyRow s.rows id fun _ => new }.setTask j
          (.dispatching id .finished)).recordWinner id .failed j)

theorem pollEnd_of_finishPoll {cfg : RunnerSettings} {s t : RunnerState} {id : Uuid} {j k : ℕ}
    {diskOk : Bool} {now : Timestamp} (h : s.finishPoll cfg id j k diskOk now = some t) :
    PollEnd cfg s id j k now t := by
  unfold RunnerState.finishPoll at h
  split at h
  · rename_i row hidle hfind
    obtain ⟨hrow, hid⟩ := findRow_mem hfind
    split at h
    · rename_i payload hpayload
      have hstatus := AdmissionState.status_of_pollPayload hpayload row now
      have hnew : (row.update payload now).id = id :=
        (Call.id_updateRow row row payload now).trans hid
      by_cases hadmits : admits cfg.callConcurrencyLimit (countActive s.rows) diskOk
      · rw [Transition.target, if_pos hadmits] at hstatus
        rw [if_pos hadmits] at h
        split at h
        · rename_i hidle'
          split_ifs at h
          cases h
          exact .claimed row _ hidle' hrow hid hnew hstatus
        · cases h
      · rw [Transition.target, if_neg hadmits] at hstatus
        rw [if_neg hadmits] at h
        cases h
        exact .refused row _ hidle hrow hid hnew hstatus
    · cases h
      exact .unchanged
  · cases h

inductive HostStep (cfg : WorkerSettings) (owner : ℕ → Instance) (s : HostState) (now : Timestamp) :
    HostEvent → HostState → Prop where
  | unchanged (e : HostEvent) : HostStep cfg owner s now e s
  | created (e : WorkerEvent) (t : WorkerState) (hplain : e.event.plain)
      (hactor : e.event.actor = none) (hstep : s.worker.step cfg e = some t) :
      HostStep cfg owner s now (.worker e) { s with worker := t }
  | worked (e : WorkerEvent) (j : ℕ) (t : WorkerState) (hplain : e.event.plain)
      (htime : ∀ time ∈ e.event.time, time = now) (hactor : e.event.actor = some j)
      (hfree : s.Free j) (hwaits : ¬ s.Waits j e.event) (hstep : s.worker.step cfg e = some t) :
      HostStep cfg owner s now (.worker e) (s.advance j e.event t)
  | selected (j : ℕ) (row : Call) (hfree : s.Free j) (hrow : row ∈ s.worker.runner.rows)
      (hqueued : row.status = .queued) (hunlocked : ¬ s.Locked row.id) :
      HostStep cfg owner s now (.select j) { s with polls := (j, row.id) :: s.polls }
  | polled (j k : ℕ) (diskOk : Bool) (id : Uuid) (t : RunnerState) (hpoll : (j, id) ∈ s.polls)
      (howner : owner k = owner j) (hend : PollEnd cfg.runner s.worker.runner id j k now t) :
      HostStep cfg owner s now (.finishPoll j k diskOk) { s with
        worker := { s.worker with runner := t }
        polls := s.polls.filter fun p => p.1 ≠ j }
  | listed (j : ℕ) (t : WorkerState) (hfree : s.Free j)
      (hstep : s.worker.step cfg (.runner (.orphanStart j s.listing)) = some t) :
      HostStep cfg owner s now (.orphanSweep j true) (s.advance j (.orphanStart j s.listing) t)
  | killed (j : ℕ) (id : Uuid) (hdocker : s.docker j = some id) :
      HostStep cfg owner s now (.docker j) { s with
        bots := s.kill id
        docker := Function.update s.docker j none }
  | crashed (r : Instance) : HostStep cfg owner s now (.crash r) { s with
      worker := { s.worker with runner := { s.worker.runner with
        tasks := fun j => if owner j = r then .idle else s.worker.runner.tasks j } }
      polls := s.polls.filter fun p => owner p.1 ≠ r
      docker := fun j => if owner j = r then none else s.docker j }

theorem hostStep_of_act {cfg : WorkerSettings} {owner : ℕ → Instance} {s t : HostState}
    {now : Timestamp} {e : HostEvent} (h : s.act cfg owner now e = some t) :
    HostStep cfg owner s now e t := by
  unfold HostState.act at h
  cases e with
  | worker e =>
      dsimp only at h
      split_ifs at h with hguard
      split at h
      · rename_i hactor
        obtain ⟨u, hu, rfl⟩ := Option.map_eq_some_iff.1 h
        exact .created e u hguard.1 hactor hu
      · rename_i j hactor
        split_ifs at h with hfree
        obtain ⟨u, hu, rfl⟩ := Option.map_eq_some_iff.1 h
        exact .worked e j u hguard.1 hguard.2 hactor hfree.1 hfree.2 hu
  | select j =>
      dsimp only at h
      split at h
      · split_ifs at h with hfree
        split at h
        · rename_i row hrow
          cases h
          obtain ⟨hmem, hselect⟩ := List.mem_filter.1 (oldest_mem hrow)
          obtain ⟨hqueued, hunlocked⟩ := of_decide_eq_true hselect
          exact .selected j row hfree hmem hqueued hunlocked
        · cases h
          exact .unchanged _
      · cases h
  | finishPoll j k diskOk =>
      dsimp only at h
      split at h
      · rename_i p hfind
        split_ifs at h with hguard
        obtain ⟨u, hu, rfl⟩ := Option.map_eq_some_iff.1 h
        have hp : p.1 = j := by simpa using List.find?_some hfind
        have hmem : (j, p.2) ∈ s.polls := by
          rw [← hp]
          exact List.mem_of_find?_eq_some hfind
        exact .polled j k diskOk p.2 u hmem hguard.1 (pollEnd_of_finishPoll hu)
      · cases h
  | orphanSweep j listed =>
      dsimp only at h
      split_ifs at h with hfree hlisted
      · obtain ⟨u, hu, rfl⟩ := Option.map_eq_some_iff.1 h
        subst hlisted
        exact .listed j u hfree hu
      · cases h
        exact .unchanged _
  | docker j =>
      dsimp only at h
      split at h
      · rename_i id hdocker
        cases h
        exact .killed j id hdocker
      · cases h
  | crash r =>
      cases h
      exact .crashed r

end Notetaker

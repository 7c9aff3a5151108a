import Notetaker.StaleCutoff
import Notetaker.SecondRunner

/-!
# How long a call can be in flight

The stale sweep is the watchdog of the calls that nobody drives any more. The worker runs here under a
clock, with one task for the main loop. `covered` is the start of the last sweep of this task that went
through, and `current` that of the sweep under way; a crash, or an error in a sweep, gives the sweep up.
As long as a sweep goes through every `window` seconds, no call stays in a status for longer than the
cutoff of the status and the window, whatever becomes of its bot, its task or the runner.
-/

open PythonText PythonUuid

namespace Notetaker

/-- The calls that a stale sweep has still to fail. -/
def Task.staleLeft : Task → Option (List Uuid)
  | sweeping (.stale ids) | dispatching _ (.stale ids) => some ids
  | _ => none

theorem Task.staleLeft_eq_some {task : Task} {ids : List Uuid} (h : task.staleLeft = some ids) :
    task = sweeping (.stale ids) ∨ ∃ id, task = dispatching id (.stale ids) := by
  unfold staleLeft at h
  split at h
  · exact .inl (by rw [Option.some.inj h])
  · exact .inr ⟨_, by rw [Option.some.inj h]⟩
  · cases h

def WorkerEvent.time : WorkerEvent → Option Timestamp
  | runner e => e.time
  | deliver _ _ _ now => some now

def WorkerEvent.startsSweep (m : ℕ) : WorkerEvent → Option Timestamp
  | runner (.staleStart j start) => if j = m then some start else none
  | _ => none

def WorkerEvent.endsSweep (m : ℕ) : WorkerEvent → Bool
  | runner (.sweepEnd j) => j = m
  | _ => false

structure WatchState where
  worker : WorkerState
  clock : Timestamp
  covered : Timestamp
  current : Option Timestamp

namespace WatchState

/-- The ghost fields behind a step to `t`. A cutoff out of range raises. -/
def advance (cfg : WorkerSettings) (m : ℕ) (s : WatchState) (now : Timestamp) (e : WorkerEvent)
    (t : WorkerState) : WatchState where
  worker := t
  clock := now
  covered := if e.endsSweep m then s.current.getD s.covered else s.covered
  current :=
    match e.startsSweep m with
    | some start => (staleIds cfg.runner start s.worker.runner.rows).map fun _ => start
    | none => if (t.runner.tasks m).staleLeft.isSome then s.current else none

def step (cfg : WorkerSettings) (m : ℕ) (s : WatchState) (e : Timestamp × WorkerEvent) :
    Option WatchState :=
  if s.clock ≤ e.1 ∧ ∀ time ∈ e.2.time, time = e.1 then
    (s.worker.step cfg e.2).map (s.advance cfg m e.1 e.2)
  else none

end WatchState

def watchSystem (cfg : WorkerSettings) (m : ℕ) :
    TransitionSystem WatchState (Timestamp × WorkerEvent) where
  init s := (workerSystem cfg).init s.worker ∧ s.covered = s.clock ∧ s.current = none
  step s e := s.step cfg m e

/-- A sweep went through in the last `window` seconds. -/
def Watched (window : ℚ) (s : WatchState) (e : Timestamp × WorkerEvent) : Prop :=
  e.1 ≤ s.covered + window

instance (window : ℚ) (s : WatchState) (e : Timestamp × WorkerEvent) : Decidable (Watched window s e) :=
  inferInstanceAs (Decidable (_ ≤ _))

/-- How long the sweep leaves a call in a status alone. -/
def inFlightBound (cfg : RunnerSettings) : CallStatus → Option ℚ
  | .joining | .recording => some (max 0 (cfg.botMaxRecordDuration + staleCallGraceS : ℤ))
  | .processing => some processingStaleCutoffS
  | _ => none

theorem inFlightBound_nonneg {cfg : RunnerSettings} {status : CallStatus} {bound : ℚ}
    (h : inFlightBound cfg status = some bound) : 0 ≤ bound := by
  cases status <;> cases h
  · exact le_max_left _ _
  · exact le_max_left _ _
  · norm_num [processingStaleCutoffS]

theorem not_terminal_of_inFlightBound {cfg : RunnerSettings} {status : CallStatus} {bound : ℚ}
    (h : inFlightBound cfg status = some bound) : ¬ status.Terminal := by
  cases status <;> cases h <;> decide

theorem le_updatedAt_of_notMem_staleIds {cfg : RunnerSettings} {start : Timestamp} {rows : List Call}
    {ids : List Uuid} (h : staleIds cfg start rows = some ids) {row : Call} (hrow : row ∈ rows)
    (hid : row.id ∉ ids) {bound : ℚ} (hbound : inFlightBound cfg row.status = some bound) :
    start - bound ≤ row.updatedAt := by
  obtain ⟨recordingCutoff, processingCutoff, hrecording, hprocessing, rfl⟩ := staleIds_eq_some.1 h
  obtain ⟨rfl, -⟩ := beforeNow_eq_some.1 hrecording
  obtain ⟨rfl, -⟩ := beforeNow_eq_some.1 hprocessing
  have hstale : ¬ isStale (start - (cfg.botMaxRecordDuration + staleCallGraceS : ℤ))
      (start - processingStaleCutoffS) row := fun hstale =>
    hid (List.mem_map_of_mem (List.mem_filter.2 ⟨hrow, hstale⟩))
  simp only [isStale, Bool.or_eq_true, Bool.and_eq_true, decide_eq_true_eq] at hstale
  have hmax := le_max_right (0 : ℚ) (cfg.botMaxRecordDuration + staleCallGraceS : ℤ)
  cases hstatus : row.status with
  | joining =>
      rw [hstatus] at hbound
      cases hbound
      have hrecent := not_lt.1 fun hlt => hstale (.inl ⟨.inl hstatus, hlt⟩)
      linarith
  | recording =>
      rw [hstatus] at hbound
      cases hbound
      have hrecent := not_lt.1 fun hlt => hstale (.inl ⟨.inr hstatus, hlt⟩)
      linarith
  | processing =>
      rw [hstatus] at hbound
      cases hbound
      exact not_lt.1 fun hlt => hstale (.inr ⟨hstatus, hlt⟩)
  | _ =>
      rw [hstatus] at hbound
      cases hbound

/-! ## What a step does to the rows -/

section Step

variable {cfg : WorkerSettings} {s t : WorkerState} {e : WorkerEvent}

def RetainsEnded (s : WorkerState) : Prop :=
  ∀ j ids, s.runner.tasks j = .retaining ids → ∀ id ∈ ids,
    ∃ row ∈ s.runner.rows, row.id = id ∧ row.status.Terminal

theorem retainsEnded_of_step (hs : Consistent s.runner) (hretains : RetainsEnded s)
    (h : (workerSystem cfg).step s e = some t) : RetainsEnded t := by
  intro j ids hphase id hid
  have hold : ∃ row ∈ s.runner.rows, row.id = id ∧ row.status.Terminal := by
    have hmove := taskMove_of_worker_step h j
    rw [hphase] at hmove
    rcases Task.listed_of_move hmove hid with ⟨ids', hphase', hmem⟩ | ⟨now, ids', -, hids, hmem⟩
    · exact hretains j ids' hphase' id hmem
    · obtain ⟨row, hrow, hrowid, hterminal, -⟩ := mem_expiredIds hids hmem
      exact ⟨row, hrow, hrowid, hterminal⟩
  obtain ⟨row, hrow, hrowid, hterminal⟩ := hold
  obtain ⟨new, hnew, hnewid, hstatus, -⟩ := terminal_row_of_step hs h hrow hterminal
  exact ⟨new, hnew, hnewid.trans hrowid, by rwa [hstatus]⟩

/-- A row in flight behind a step was so before, with the same stamp, or the step has stamped it. -/
inductive Stamped (s : WorkerState) (e : WorkerEvent) (new : Call) : Prop where
  | kept (row : Call) (hrow : row ∈ s.runner.rows) (hid : row.id = new.id)
      (hstatus : row.status = new.status) (hupdated : row.updatedAt = new.updatedAt)
  | written (event : RunnerEvent) (row : Call) (tr : Transition) (time : Timestamp)
      (hevent : e = .runner event) (htime : event.time = some time) (hrow : row ∈ s.runner.rows)
      (hwritten : Written row time tr new)
  | ended (hterminal : new.status.Terminal)
  | created (hqueued : new.status = .queued) (hfresh : ∀ row ∈ s.runner.rows, row.id ≠ new.id)

theorem stamped_of_transact {j : ℕ} {now : Timestamp} {u : RunnerState}
    (h : (runnerSystem cfg.runner).step s.runner (.transact j now) = some u) {new : Call}
    (hnew : new ∈ u.rows) :
    Stamped s (.runner (.transact j now)) new := by
  cases effect_of_step h with
  | commit j now id tr row todo hwork hrow hid hbody =>
      have hrows : new ∈ modifyRow s.runner.rows id fun _ => applyStatements row todo := by
        unfold RunnerState.recordWinner at hnew
        split_ifs at hnew <;> exact hnew
      subst hid
      rcases mem_modifyRow_cases hrows with hold | ⟨c, -, -, rfl⟩
      · exact .kept new hold rfl rfl rfl
      · exact .written _ row tr now rfl rfl hrow (Transition.written hbody)
  | unchanged => exact .kept new hnew rfl rfl rfl
  | quiet => exact .kept new hnew rfl rfl rfl
  | refused => exact .kept new hnew rfl rfl rfl
  | list => exact .kept new hnew rfl rfl rfl

theorem stamped_of_poll {j k : ℕ} {diskOk : Bool} {now : Timestamp} {u : RunnerState}
    (h : s.runner.poll cfg.runner j k diskOk now = some u) {new : Call} (hnew : new ∈ u.rows) :
    Stamped s (.runner (.poll j k diskOk now)) new := by
  rcases rows_of_poll h with hrows | ⟨row, payload, hrow, hpayload, hrows⟩
  · rw [hrows] at hnew
    exact .kept new hnew rfl rfl rfl
  · rw [hrows] at hnew
    rcases mem_modifyRow_cases hnew with hold | ⟨c, -, -, rfl⟩
    · exact .kept new hold rfl rfl rfl
    · exact .written _ row _ now rfl rfl hrow (written_of_pollPayload hpayload now)

theorem queued_of_created {new : Call} (h : Created cfg s new) : new.status = .queued := by
  obtain ⟨active, data, id, now, hcreate⟩ := h.service
  exact (AdmissionState.queued_of_create hcreate).2

theorem stamped_of_origin (hs : Consistent s.runner) (hretains : RetainsEnded s) {new : Call}
    (h : RowOrigin cfg s e new)
    (hevent : ∀ event id tr, e = .runner event → ¬ s.runner.transaction event id tr) :
    Stamped s e new := by
  rcases h with ⟨row, hrow, hchange⟩ | hcreated
  · cases hchange with
    | kept => exact .kept new hrow rfl rfl rfl
    | written event tr now new hrunner htr hwritten => exact absurd htr (hevent event row.id tr hrunner)
    | reclaimed j ids now hrunner hphase =>
        obtain ⟨ended, hended, hid, hterminal⟩ := hretains j _ hphase row.id List.mem_cons_self
        obtain rfl := hs.row_unique hended hrow hid
        exact .ended hterminal
    | delivered j receiver txNow now next new hrunner hphase hterminal hpending hsame =>
        obtain ⟨_, _, _, rfl⟩ := hsame
        exact .ended hterminal
  · exact .created (queued_of_created hcreated) hcreated.fresh

theorem stamped_of_step (hs : Consistent s.runner) (hretains : RetainsEnded s)
    (h : (workerSystem cfg).step s e = some t) {new : Call} (hnew : new ∈ t.runner.rows) :
    Stamped s e new := by
  have horigin := rowOrigin_of_step h hnew
  cases e with
  | deliver j receiver txNow now => exact stamped_of_origin hs hretains horigin fun _ _ _ he => by cases he
  | runner event =>
      have hother : (∀ id tr, ¬ s.runner.transaction event id tr) → Stamped s (.runner event) new :=
        fun hnone => stamped_of_origin hs hretains horigin fun event' id tr he => by
          cases he
          exact hnone id tr
      obtain ⟨u, hu, rfl⟩ := Option.map_eq_some_iff.1 h
      rw [runner_recordDone] at hnew
      cases event with
      | transact j now => exact stamped_of_transact hu hnew
      | poll j k diskOk now => exact stamped_of_poll hu hnew
      | _ => exact hother fun _ _ hfalse => hfalse

end Step

/-! ## What a step leaves of a sweep -/

section Sweep

variable {cfg : RunnerSettings} {s t : RunnerState} {m : ℕ}

/-- A task at a transaction waits for it, or it is given up. -/
theorem tasks_of_waiting {e : RunnerEvent} (hwork : (s.tasks m).work ≠ none)
    (h : s.step cfg e = some t) :
    t.tasks m = .idle ∨ (∃ now, e = .transact m now) ∨ t.tasks m = s.tasks m := by
  have hkeep : ∀ k task, (s.tasks k).work = none → (s.setTask k task).tasks m = s.tasks m := by
    intro k task hk
    have hne : m ≠ k := fun heq => hwork (heq ▸ hk)
    exact Function.update_of_ne hne _ _
  cases e with
  | crash =>
      cases h
      exact .inl rfl
  | fault j =>
      obtain ⟨rfl, -⟩ := fault_cases h
      by_cases hj : j = m
      · exact .inl (hj ▸ Function.update_self j _ s.tasks)
      · exact .inr (.inr (Function.update_of_ne (Ne.symm hj) _ _))
  | transact j now =>
      by_cases hj : j = m
      · exact .inr (.inl ⟨now, by rw [hj]⟩)
      · refine .inr (.inr ?_)
        have hne : m ≠ j := Ne.symm hj
        simp only [RunnerState.step, RunnerState.transact] at h
        split at h
        · cases h
        · split at h
          · cases h
            exact Function.update_of_ne hne _ _
          · split at h
            · cases h
              unfold RunnerState.recordWinner
              split_ifs <;> exact Function.update_of_ne hne _ _
            · cases h
              split_ifs <;> exact Function.update_of_ne hne _ _
  | create data id now =>
      simp only [RunnerState.step, RunnerState.create] at h
      split at h <;> cases h <;> exact .inr (.inr rfl)
  | poll j k diskOk now =>
      refine .inr (.inr ?_)
      simp only [RunnerState.step, RunnerState.poll] at h
      split at h
      · rename_i row hidle hold
        split at h
        · by_cases hadmits : admits cfg.callConcurrencyLimit (countActive s.rows) diskOk
          · rw [if_pos hadmits] at h
            split at h
            · rename_i hk
              split_ifs at h
              cases h
              exact hkeep k _ (by rw [hk]; rfl)
            · cases h
          · rw [if_neg hadmits] at h
            cases h
            unfold RunnerState.recordWinner
            split_ifs <;> exact hkeep j _ (by rw [hidle]; rfl)
        · cases h
          rfl
      · cases h
        rfl
      · cases h
  | retentionRow j outcome =>
      refine .inr (.inr ?_)
      simp only [RunnerState.step, RunnerState.retentionRow] at h
      split at h
      · rename_i hphase
        split at h <;> cases h <;> exact hkeep j _ (by rw [hphase]; rfl)
      · cases h
  | start k =>
      refine .inr (.inr ?_)
      simp only [RunnerState.step] at h
      split at h
      · rename_i hphase
        split at h <;> cases h <;> exact hkeep k _ (by rw [hphase]; rfl)
      · cases h
  | upload k succeeds =>
      refine .inr (.inr ?_)
      simp only [RunnerState.step] at h
      split at h
      · rename_i hphase
        split_ifs at h <;> cases h <;> exact hkeep k _ (by rw [hphase]; rfl)
      · cases h
  | source k outcome =>
      refine .inr (.inr ?_)
      simp only [RunnerState.step] at h
      split at h
      · rename_i hphase
        split at h <;> cases h <;> exact hkeep k _ (by rw [hphase]; rfl)
      · cases h
  | transcribe k outcome =>
      refine .inr (.inr ?_)
      simp only [RunnerState.step] at h
      split at h
      · rename_i hphase
        split at h <;> cases h <;> exact hkeep k _ (by rw [hphase]; rfl)
      · cases h
  | _ =>
      refine .inr (.inr ?_)
      simp only [RunnerState.step] at h
      split at h <;> cases h <;> rename_i hphase <;> exact hkeep _ _ (by rw [hphase]; rfl)

theorem idle_of_staleStart {now : Timestamp} (h : s.step cfg (.staleStart m now) = some t) :
    s.tasks m = .idle := by
  simp only [RunnerState.step] at h
  split at h
  · assumption
  · cases h

theorem left_of_transact {now : Timestamp} {id : Uuid} {ids : List Uuid}
    (hphase : s.tasks m = .sweeping (.stale (id :: ids)))
    (h : (runnerSystem cfg).step s (.transact m now) = some t) :
    (t.tasks m).staleLeft = none ∨ ((t.tasks m).staleLeft = some ids ∧
      (Consistent s → Consistent t → ∀ row ∈ t.rows, row.id = id → row.status.Terminal)) := by
  have hwork : (s.tasks m).work = some (id, .staleSweep) := by rw [hphase]; rfl
  change s.transact cfg m now = some t at h
  unfold RunnerState.transact at h
  rw [hwork] at h
  dsimp only at h
  split at h
  · obtain rfl := Option.some.inj h
    rw [hphase]
    exact .inl (congrArg Task.staleLeft (Function.update_self m _ s.tasks))
  · rename_i row hrow
    obtain ⟨hmem, hid⟩ := findRow_mem hrow
    right
    split at h
    · rename_i todo hbody
      obtain rfl := Option.some.inj h
      have htask : (s.tasks m).committed row = .dispatching id (.stale ids) := by rw [hphase]; rfl
      have hnew := AdmissionState.mem_modifyRow_of_eq (f := fun _ => applyStatements row todo) hmem hid
      have hfailed : (applyStatements row todo).status.Terminal := by
        rw [Transition.status_of_body hbody]
        exact CallStatus.terminal_failed
      rw [htask]
      refine ⟨?_, fun _ ht row' hrow' hid' => ?_⟩
      · rw [RunnerState.recordWinner, if_pos hfailed]
        exact congrArg Task.staleLeft (Function.update_self m _ s.tasks)
      · have hsame : row' = applyStatements row todo := by
          refine ht.row_unique hrow' ?_ ((id_applyStatements row todo).trans (hid.trans hid'.symm)).symm
          rw [RunnerState.recordWinner, if_pos hfailed]
          exact hnew
        rw [hsame]
        exact hfailed
    · rename_i hbody
      have hillegal := Transition.body_eq_none_iff.1 hbody
      obtain rfl := Option.some.inj h
      have htask : (s.tasks m).refused = .sweeping (.stale ids) := by rw [hphase]; rfl
      have hended : row.status.Terminal :=
        not_not.1 fun hlive => hillegal ((CallStatus.legal_failed_iff row.status).2 hlive)
      rw [htask]
      refine ⟨?_, fun hs _ row' hrow' hid' => ?_⟩
      · split_ifs <;> exact congrArg Task.staleLeft (Function.update_self m _ s.tasks)
      · have hsame : row' = row := by
          refine hs.row_unique ?_ hmem (hid'.trans hid.symm)
          split_ifs at hrow' <;> exact hrow'
        rw [hsame]
        exact hended

end Sweep

section Left

variable {cfg : WorkerSettings} {s t : WorkerState} {e : WorkerEvent} {m : ℕ} {ids : List Uuid}

theorem staleLeft_of_idle (h : (workerSystem cfg).step s e = some t)
    (hleft : (s.runner.tasks m).staleLeft = some ids) (hwork : (s.runner.tasks m).work = none) :
    (t.runner.tasks m).staleLeft = none ∨ (t.runner.tasks m).staleLeft = some ids := by
  have hbusy : s.runner.tasks m ≠ .idle := by
    intro hidle
    rw [hidle] at hleft
    cases hleft
  have hmove := taskMove_of_worker_step h m
  generalize t.runner.tasks m = task at hmove
  cases hmove with
  | kept => exact .inr hleft
  | stale now hevent =>
      cases e with
      | deliver => cases hevent
      | runner event =>
          obtain rfl : event = .staleStart m now := hevent
          obtain ⟨u, hu, -⟩ := Option.map_eq_some_iff.1 h
          exact absurd (idle_of_staleStart hu) hbusy
  | follows task hmove =>
      generalize s.runner.tasks m = old at hmove hleft
      cases hmove <;> cases hleft
  | committed now id tr row todo hevent hwork' =>
      rw [hwork] at hwork'
      cases hwork'
  | refused =>
      rcases Task.staleLeft_eq_some hleft with hphase | ⟨id, hphase⟩
      · rw [hphase] at hwork ⊢
        cases ids with
        | nil => exact .inl rfl
        | cons => cases hwork
      · rw [hphase]
        exact .inl rfl
  | missing =>
      rcases Task.staleLeft_eq_some hleft with hphase | ⟨id, hphase⟩
      · rw [hphase]
        exact .inl rfl
      · rw [hphase]
        exact .inl rfl
  | dispatched id next hphase =>
      rw [hphase] at hleft
      cases next <;> cases hleft
      exact .inr rfl
  | _ => exact .inl rfl

/-- A sweep keeps its calls, or it ends, or it is done with the first one, whose row has ended. -/
theorem staleLeft_of_step (hs : Consistent s.runner) (h : (workerSystem cfg).step s e = some t)
    (hleft : (s.runner.tasks m).staleLeft = some ids) :
    (t.runner.tasks m).staleLeft = none ∨ (t.runner.tasks m).staleLeft = some ids ∨
      ∃ id ids', ids = id :: ids' ∧ (t.runner.tasks m).staleLeft = some ids' ∧
        ∀ row ∈ t.runner.rows, row.id = id → row.status.Terminal := by
  rcases hwork : (s.runner.tasks m).work with _ | ⟨id, tr⟩
  · exact (staleLeft_of_idle h hleft hwork).imp_right .inl
  have hphase : s.runner.tasks m = .sweeping (.stale ids) := by
    rcases Task.staleLeft_eq_some hleft with hphase | ⟨_, hphase⟩
    · exact hphase
    · rw [hphase] at hwork
      cases hwork
  have ht := consistent_worker_step s e t hs h
  cases e with
  | deliver j receiver txNow now =>
      obtain ⟨_, next, hdispatching, hrunner⟩ := deliver_cases h
      have hne : m ≠ j := by
        rintro rfl
        rw [hphase] at hdispatching
        cases hdispatching
      have hkept : t.runner.tasks m = s.runner.tasks m := by
        rcases hrunner with rfl | ⟨_, _, -, -, -, -, -, rfl⟩ <;> exact Function.update_of_ne hne _ _
      rw [hkept]
      exact .inr (.inl hleft)
  | runner event =>
      obtain ⟨u, hu, rfl⟩ := Option.map_eq_some_iff.1 h
      rw [runner_recordDone] at ht ⊢
      rcases tasks_of_waiting (by rw [hwork]; exact Option.some_ne_none _) hu with
        hidle | ⟨now, rfl⟩ | hkept
      · rw [hidle]
        exact .inl rfl
      · cases ids with
        | nil =>
            rw [hphase] at hwork
            cases hwork
        | cons id ids =>
            refine (left_of_transact hphase hu).imp_right fun ⟨hleft', hended⟩ => ?_
            exact .inr ⟨id, ids, rfl, hleft', hended hs ht⟩
      · exact .inr (.inl (hkept ▸ hleft))

end Left

/-! ## The watchdog -/

/-- What the sweeps guarantee: a call in flight was recent when the last sweep began, and recent when
the current one began unless this one has still to fail it. -/
structure Watching (cfg : WorkerSettings) (m : ℕ) (window : ℚ) (s : WatchState) : Prop where
  consistent : Consistent s.worker.runner
  retains : RetainsEnded s.worker
  covered_le : s.covered ≤ s.clock
  current_le : ∀ start ∈ s.current, start ≤ s.clock
  covered : ∀ row ∈ s.worker.runner.rows, ∀ bound ∈ inFlightBound cfg.runner row.status,
    s.covered - bound ≤ row.updatedAt
  current : ∀ start ∈ s.current, ∃ ids, (s.worker.runner.tasks m).staleLeft = some ids ∧
    ∀ row ∈ s.worker.runner.rows, row.id ∉ ids → ∀ bound ∈ inFlightBound cfg.runner row.status,
      start - bound ≤ row.updatedAt
  recent : ∀ row ∈ s.worker.runner.rows, ∀ bound ∈ inFlightBound cfg.runner row.status,
    s.clock ≤ row.updatedAt + bound + window
  window_nonneg : s.worker.runner.rows ≠ [] → 0 ≤ window

section Watching

variable {cfg : WorkerSettings} {m : ℕ} {window : ℚ} {s t : WatchState} {e : Timestamp × WorkerEvent}

theorem watching_of_init (h : (watchSystem cfg m).init s) : Watching cfg m window s := by
  obtain ⟨hworker, hcovered, hcurrent⟩ := h
  obtain ⟨hrunner, -, -⟩ := id hworker
  obtain ⟨hrows, htasks, -⟩ := id hrunner
  have hnone : ∀ row, row ∉ s.worker.runner.rows := by simp [hrows]
  refine ⟨.of_init hrunner, ?_, hcovered.le, ?_, ?_, ?_, ?_, fun hrow => absurd hrows hrow⟩
  · intro j ids hphase
    rw [htasks j] at hphase
    cases hphase
  · rw [hcurrent]
    exact nofun
  · exact fun row hrow => absurd hrow (hnone row)
  · rw [hcurrent]
    exact nofun
  · exact fun row hrow => absurd hrow (hnone row)

theorem step_cases (h : (watchSystem cfg m).step s e = some t) :
    s.clock ≤ e.1 ∧ (∀ time ∈ e.2.time, time = e.1) ∧
      ∃ u, (workerSystem cfg).step s.worker e.2 = some u ∧ t = s.advance cfg m e.1 e.2 u := by
  change s.step cfg m e = some t at h
  unfold WatchState.step at h
  split_ifs at h with htime
  obtain ⟨u, hu, rfl⟩ := Option.map_eq_some_iff.1 h
  exact ⟨htime.1, htime.2, u, hu, rfl⟩

theorem current_cases {now : Timestamp} {event : WorkerEvent} {u : WorkerState}
    {start : Timestamp} (hstart : start ∈ (s.advance cfg m now event u).current) :
    (∃ ids, event = .runner (.staleStart m start) ∧
        staleIds cfg.runner start s.worker.runner.rows = some ids) ∨
      (s.current = some start ∧ (u.runner.tasks m).staleLeft.isSome) := by
  simp only [WatchState.advance] at hstart
  split at hstart
  · rename_i start' hstarts
    obtain ⟨ids, hids, rfl⟩ := Option.map_eq_some_iff.1 hstart
    refine .inl ⟨ids, ?_, hids⟩
    unfold WorkerEvent.startsSweep at hstarts
    split at hstarts
    · split_ifs at hstarts with hj
      rw [hj, Option.some.inj hstarts]
    · cases hstarts
  · split_ifs at hstart with hbusy
    · exact .inr ⟨hstart, hbusy⟩
    · cases hstart

theorem left_of_staleStart {u v : WorkerState} {start : Timestamp} {ids : List Uuid}
    (h : (workerSystem cfg).step u (.runner (.staleStart m start)) = some v)
    (hids : staleIds cfg.runner start u.runner.rows = some ids) :
    v.runner.rows = u.runner.rows ∧ (v.runner.tasks m).staleLeft = some ids := by
  obtain ⟨w, hw, rfl⟩ := Option.map_eq_some_iff.1 h
  rw [runner_recordDone]
  change u.runner.step cfg.runner (.staleStart m start) = some w at hw
  simp only [RunnerState.step] at hw
  split at hw
  · obtain rfl := Option.some.inj hw
    rw [hids]
    exact ⟨rfl, congrArg Task.staleLeft (Function.update_self m _ u.runner.tasks)⟩
  · cases hw

theorem rows_of_endsSweep {u v : WorkerState} {event : WorkerEvent}
    (h : (workerSystem cfg).step u event = some v) (hends : event.endsSweep m) :
    v.runner.rows = u.runner.rows ∧
      ∀ ids, (u.runner.tasks m).staleLeft = some ids → ids = [] := by
  unfold WorkerEvent.endsSweep at hends
  split at hends
  · rename_i j
    obtain rfl : j = m := of_decide_eq_true hends
    obtain ⟨w, hw, rfl⟩ := Option.map_eq_some_iff.1 h
    rw [runner_recordDone]
    change u.runner.step cfg.runner (.sweepEnd j) = some w at hw
    simp only [RunnerState.step] at hw
    split at hw
    · rename_i hphase
      obtain rfl := Option.some.inj hw
      refine ⟨rfl, fun ids hleft => ?_⟩
      rw [hphase] at hleft
      cases hleft
    · rename_i hphase
      obtain rfl := Option.some.inj hw
      refine ⟨rfl, fun ids hleft => ?_⟩
      rw [hphase] at hleft
      exact (Option.some.inj hleft).symm
    · rename_i hphase
      obtain rfl := Option.some.inj hw
      refine ⟨rfl, fun ids hleft => ?_⟩
      rw [hphase] at hleft
      cases hleft
    · rename_i hphase
      obtain rfl := Option.some.inj hw
      refine ⟨rfl, fun ids hleft => ?_⟩
      rw [hphase] at hleft
      cases hleft
    · cases hw
  · cases hends

theorem row_cases (hs : Watching cfg m window s) {u : WorkerState}
    (hu : (workerSystem cfg).step s.worker e.2 = some u) (htime : ∀ time ∈ e.2.time, time = e.1)
    {new : Call} (hnew : new ∈ u.runner.rows) {bound : ℚ}
    (hbound : bound ∈ inFlightBound cfg.runner new.status) :
    (∃ row ∈ s.worker.runner.rows, row.id = new.id ∧ row.status = new.status ∧
      row.updatedAt = new.updatedAt) ∨ new.updatedAt = e.1 := by
  cases stamped_of_step hs.consistent hs.retains hu hnew with
  | kept row hrow hid hstatus hupdated => exact .inl ⟨row, hrow, hid, hstatus, hupdated⟩
  | written event row tr time hevent htime' hrow hwritten =>
      right
      rw [hwritten.updatedAt_eq]
      exact htime time (by rw [hevent]; exact htime')
  | ended hterminal => exact absurd hterminal (not_terminal_of_inFlightBound hbound)
  | created hqueued hfresh =>
      rw [hqueued] at hbound
      cases hbound

theorem watching_step (hs : Watching cfg m window s) (hwatched : Watched window s e)
    (h : (watchSystem cfg m).step s e = some t) : Watching cfg m window t := by
  obtain ⟨hclock, htime, u, hu, rfl⟩ := step_cases h
  have hconsistent := consistent_worker_step s.worker e.2 u hs.consistent hu
  have hwindow : 0 ≤ window := by
    have hcovered := hs.covered_le
    unfold Watched at hwatched
    linarith
  have hcovered : ∀ row ∈ u.runner.rows, ∀ bound ∈ inFlightBound cfg.runner row.status,
      s.covered - bound ≤ row.updatedAt := by
    intro new hnew bound hbound
    rcases row_cases hs hu htime hnew hbound with ⟨row, hrow, hid, hstatus, hupdated⟩ | hstamp
    · rw [← hupdated]
      exact hs.covered row hrow bound (by rw [hstatus]; exact hbound)
    · have hnonneg := inFlightBound_nonneg hbound
      have hle := hs.covered_le
      rw [hstamp]
      linarith
  refine ⟨hconsistent, retainsEnded_of_step hs.consistent hs.retains hu, ?_, ?_, ?_, ?_, ?_,
    fun _ => hwindow⟩
  · simp only [WatchState.advance]
    split_ifs
    · cases hcurrent : s.current with
      | none => exact hs.covered_le.trans hclock
      | some start => exact (hs.current_le start hcurrent).trans hclock
    · exact hs.covered_le.trans hclock
  · intro start hstart
    rcases current_cases hstart with ⟨ids, hevent, hids⟩ | ⟨hcurrent, -⟩
    · exact (htime start (by rw [hevent]; rfl)).le
    · exact (hs.current_le start hcurrent).trans hclock
  · intro new hnew bound hbound
    simp only [WatchState.advance]
    split_ifs with hends
    · cases hcurrent : s.current with
      | none => exact hcovered new hnew bound hbound
      | some start =>
          obtain ⟨hrows, hnil⟩ := rows_of_endsSweep hu hends
          obtain ⟨ids, hleft, hrecent⟩ := hs.current start hcurrent
          rw [hnil ids hleft] at hrecent
          change new ∈ u.runner.rows at hnew
          rw [hrows] at hnew
          exact hrecent new hnew List.not_mem_nil bound hbound
    · exact hcovered new hnew bound hbound
  · intro start hstart
    rcases current_cases hstart with ⟨ids, hevent, hids⟩ | ⟨hcurrent, hbusy⟩
    · obtain ⟨hrows, hleft⟩ := left_of_staleStart (by rw [← hevent]; exact hu) hids
      refine ⟨ids, hleft, fun new hnew hid bound hbound => ?_⟩
      change new ∈ u.runner.rows at hnew
      rw [hrows] at hnew
      exact le_updatedAt_of_notMem_staleIds hids hnew hid hbound
    · obtain ⟨ids, hleft, hrecent⟩ := hs.current start hcurrent
      have hkept : ∀ new ∈ u.runner.rows, new.id ∉ ids →
          ∀ bound ∈ inFlightBound cfg.runner new.status, start - bound ≤ new.updatedAt := by
        intro new hnew hid bound hbound
        rcases row_cases hs hu htime hnew hbound with ⟨row, hrow, hrowid, hstatus, hupdated⟩ | hstamp
        · rw [← hupdated]
          exact hrecent row hrow (hrowid ▸ hid) bound (by rw [hstatus]; exact hbound)
        · have hnonneg := inFlightBound_nonneg hbound
          have hle := hs.current_le start hcurrent
          rw [hstamp]
          linarith
      rcases staleLeft_of_step hs.consistent hu hleft with hnone | hsame | ⟨id, ids', rfl, hrest, hended⟩
      · rw [hnone] at hbusy
        cases hbusy
      · exact ⟨ids, hsame, hkept⟩
      · refine ⟨ids', hrest, fun new hnew hid bound hbound => hkept new hnew ?_ bound hbound⟩
        rintro (_ | _)
        · exact not_terminal_of_inFlightBound hbound (hended new hnew rfl)
        · contradiction
  · intro new hnew bound hbound
    have hle := hcovered new hnew bound hbound
    unfold Watched at hwatched
    change e.1 ≤ _
    linarith

theorem watching_of_run {es : List (Timestamp × WorkerEvent)} (hs : (watchSystem cfg m).init s)
    (hrun : (watchSystem cfg m).run s es = some t)
    (hwatched : (watchSystem cfg m).Meets (Watched window) s es) : Watching cfg m window t :=
  TransitionSystem.run_invariant_of_meets (fun _ _ _ hs hwatched h => watching_step hs hwatched h)
    (watching_of_init hs) hwatched hrun

def botBound (cfg : RunnerSettings) : ℚ := max 0 (cfg.botMaxRecordDuration + staleCallGraceS : ℤ)

def ClaimedAt (cfg : RunnerSettings) (window : ℚ) (claimed : Timestamp) (row : Call) : Prop :=
  match row.status with
  | .queued => False
  | .joining => row.updatedAt ≤ claimed
  | .recording => row.updatedAt ≤ claimed + (botBound cfg + window)
  | .processing => row.updatedAt ≤ claimed + 2 * (botBound cfg + window)
  | .done | .failed => True

theorem claimedAt_of_terminal {claimed : Timestamp} {row : Call} (h : row.status.Terminal) :
    ClaimedAt cfg.runner window claimed row := by
  unfold ClaimedAt
  cases hstatus : row.status with
  | done => trivial
  | failed => trivial
  | _ =>
      rw [hstatus] at h
      exact absurd h (by decide)

theorem claimedAt_step (hs : Watching cfg m window s) (hwatched : Watched window s e)
    (h : (watchSystem cfg m).step s e = some t) {claimed : Timestamp} {row new : Call}
    (hrow : row ∈ s.worker.runner.rows) (hnew : new ∈ t.worker.runner.rows) (hid : new.id = row.id)
    (hclaimed : ClaimedAt cfg.runner window claimed row) : ClaimedAt cfg.runner window claimed new := by
  obtain ⟨-, htime, u, hu, rfl⟩ := step_cases h
  cases stamped_of_step hs.consistent hs.retains hu hnew with
  | kept old hold hold_id hstatus hupdated =>
      obtain rfl := hs.consistent.row_unique hold hrow (hold_id.trans hid)
      unfold ClaimedAt at hclaimed ⊢
      rwa [← hstatus, ← hupdated]
  | ended hterminal => exact claimedAt_of_terminal hterminal
  | created hqueued hfresh => exact absurd hid.symm (hfresh row hrow)
  | written event old tr time hevent htime' hold hwritten =>
      obtain rfl := hs.consistent.row_unique hold hrow (hwritten.id_eq.symm.trans hid)
      have hnow : time = e.1 := htime time (by rw [hevent]; exact htime')
      have hcovered := hs.covered old hrow
      unfold Watched at hwatched
      unfold ClaimedAt at hclaimed
      cases hwritten with
      | joining active diskOk hstatus =>
          rw [hstatus] at hclaimed
          exact hclaimed.elim
      | recording hstatus =>
          rw [hstatus] at hclaimed hcovered
          have hle := hcovered _ rfl
          change time ≤ claimed + (botBound cfg.runner + window)
          unfold botBound
          linarith
      | processing exitCode result hstatus =>
          rw [hstatus] at hclaimed hcovered
          have hle := hcovered _ rfl
          change time ≤ claimed + 2 * (botBound cfg.runner + window)
          unfold botBound at hclaimed ⊢
          linarith
      | done => trivial
      | failed => trivial

theorem claimedAt_of_run (hs : Watching cfg m window s) {es : List (Timestamp × WorkerEvent)}
    (hrun : (watchSystem cfg m).run s es = some t)
    (hwatched : (watchSystem cfg m).Meets (Watched window) s es) {claimed : Timestamp} {row new : Call}
    (hrow : row ∈ s.worker.runner.rows) (hclaimed : ClaimedAt cfg.runner window claimed row)
    (hnew : new ∈ t.worker.runner.rows) (hid : new.id = row.id) :
    Watching cfg m window t ∧ ClaimedAt cfg.runner window claimed new := by
  have hinvariant : Watching cfg m window t ∧ (∃ old ∈ t.worker.runner.rows, old.id = row.id ∧
      ClaimedAt cfg.runner window claimed old) := by
    refine TransitionSystem.run_invariant_of_meets
      (P := fun u => Watching cfg m window u ∧ ∃ old ∈ u.worker.runner.rows, old.id = row.id ∧
        ClaimedAt cfg.runner window claimed old)
      ?_ ⟨hs, row, hrow, rfl, hclaimed⟩ hwatched hrun
    rintro u e v ⟨hu, old, hold, hold_id, hold_claimed⟩ hwatched h
    obtain ⟨-, -, w, hw, hv⟩ := step_cases h
    obtain ⟨next, hnext, hnext_id⟩ := exists_row_of_step hw hold
    have hmem : next ∈ v.worker.runner.rows := by rw [hv]; exact hnext
    exact ⟨watching_step hu hwatched h, next, hmem, hnext_id.trans hold_id,
      claimedAt_step hu hwatched h hold hmem hnext_id hold_claimed⟩
  obtain ⟨ht, old, hold, hold_id, hold_claimed⟩ := hinvariant
  obtain rfl := ht.consistent.row_unique hold hnew (hold_id.trans hid.symm)
  exact ⟨ht, hold_claimed⟩

/-- While a sweep goes through in every window, a call is in a status for no longer than the cutoff of
the status and the window, and it has ended when all the cutoffs and windows behind its claim are
over, whatever becomes of its bot, of its task and of the runner. -/
theorem inFlight_bounded {es es' : List (Timestamp × WorkerEvent)} {u : WatchState}
    (hs : (watchSystem cfg m).init s) (hrun : (watchSystem cfg m).run s es = some t)
    (hwatched : (watchSystem cfg m).Meets (Watched window) s es) {row : Call}
    (hrow : row ∈ t.worker.runner.rows) (hjoining : row.status = .joining)
    (hrun' : (watchSystem cfg m).run t es' = some u)
    (hwatched' : (watchSystem cfg m).Meets (Watched window) t es') {new : Call}
    (hnew : new ∈ u.worker.runner.rows) (hid : new.id = row.id) (hlive : ¬ new.status.Terminal) :
    (∃ bound ∈ inFlightBound cfg.runner new.status, u.clock ≤ new.updatedAt + bound + window) ∧
      u.clock ≤ row.updatedAt + 2 * (botBound cfg.runner + window) +
        (processingStaleCutoffS + window) := by
  have ht := watching_of_run hs hrun hwatched
  have hclaimed : ClaimedAt cfg.runner window row.updatedAt row := by
    unfold ClaimedAt
    rw [hjoining]
  obtain ⟨hu, hnewClaimed⟩ := claimedAt_of_run ht hrun' hwatched' hrow hclaimed hnew hid
  have hwindow := hu.window_nonneg (List.ne_nil_of_mem hnew)
  have hbot : 0 ≤ botBound cfg.runner := le_max_left _ _
  have hcutoff : (0 : ℚ) ≤ processingStaleCutoffS := by norm_num [processingStaleCutoffS]
  have hrecent := hu.recent new hnew
  unfold ClaimedAt at hnewClaimed
  cases hstatus : new.status with
  | queued =>
      rw [hstatus] at hnewClaimed
      exact hnewClaimed.elim
  | joining =>
      rw [hstatus] at hnewClaimed hrecent
      have hle : u.clock ≤ new.updatedAt + botBound cfg.runner + window := hrecent _ rfl
      exact ⟨⟨_, rfl, hle⟩, by linarith⟩
  | recording =>
      rw [hstatus] at hnewClaimed hrecent
      have hle : u.clock ≤ new.updatedAt + botBound cfg.runner + window := hrecent _ rfl
      exact ⟨⟨_, rfl, hle⟩, by linarith⟩
  | processing =>
      rw [hstatus] at hnewClaimed hrecent
      have hle : u.clock ≤ new.updatedAt + processingStaleCutoffS + window := hrecent _ rfl
      exact ⟨⟨_, rfl, hle⟩, by linarith⟩
  | done =>
      rw [hstatus] at hlive
      exact absurd CallStatus.terminal_done hlive
  | failed =>
      rw [hstatus] at hlive
      exact absurd CallStatus.terminal_failed hlive

end Watching

/-! ## A call whose bot hangs -/

def emptyWatch : WatchState := ⟨emptyWorker, 0, 0, none⟩

/-- Call 7 is claimed at time 1, and its bot never reports. -/
def claimedCall : List (Timestamp × WorkerEvent) :=
  [(0, .runner (.create sampleCreate 7 0)), (1, .runner (.poll 0 1 true 1))]

/-- The sweep of the main loop, task 5, leaves it alone for the time being. -/
def sparedCall : List (Timestamp × WorkerEvent) :=
  [(11000, .runner (.staleStart 5 11000)), (11001, .runner (.sweepEnd 5))]

theorem claimedCall_isSome : ((watchSystem sampleWorker 5).run emptyWatch claimedCall).isSome := by
  decide +kernel

def claimedCallState : WatchState :=
  ((watchSystem sampleWorker 5).run emptyWatch claimedCall).get claimedCall_isSome

theorem sparedCall_isSome :
    ((watchSystem sampleWorker 5).run claimedCallState sparedCall).isSome := by decide +kernel

def sparedCallState : WatchState :=
  ((watchSystem sampleWorker 5).run claimedCallState sparedCall).get sparedCall_isSome

theorem inFlight_bounded_sparedCall :
    ∃ row ∈ claimedCallState.worker.runner.rows, row.status = .joining ∧
      sparedCallState.clock ≤ row.updatedAt + 2 * (botBound sampleSettings + 12000) +
        (processingStaleCutoffS + 12000) := by
  have hclaimed : (findRow claimedCallState.worker.runner.rows 7).map Call.status = some .joining := by
    decide +kernel
  have hspared : (findRow sparedCallState.worker.runner.rows 7).map Call.status = some .joining := by
    decide +kernel
  obtain ⟨row, hrow, hjoining⟩ := Option.map_eq_some_iff.1 hclaimed
  obtain ⟨new, hnew, hnewJoining⟩ := Option.map_eq_some_iff.1 hspared
  obtain ⟨hmem, hid⟩ := findRow_mem hrow
  obtain ⟨hnewMem, hnewId⟩ := findRow_mem hnew
  have hrun : (watchSystem sampleWorker 5).run emptyWatch claimedCall = some claimedCallState :=
    (Option.some_get claimedCall_isSome).symm
  have hrun' : (watchSystem sampleWorker 5).run claimedCallState sparedCall = some sparedCallState :=
    (Option.some_get sparedCall_isSome).symm
  have hwatched : (watchSystem sampleWorker 5).Meets (Watched 12000) emptyWatch claimedCall := by
    decide +kernel
  have hwatched' : (watchSystem sampleWorker 5).Meets (Watched 12000) claimedCallState sparedCall := by
    decide +kernel
  have hlive : ¬ new.status.Terminal := by
    rw [hnewJoining]
    decide
  exact ⟨row, hmem, hjoining, (inFlight_bounded ⟨emptyWorker_init sampleWorker, rfl, rfl⟩ hrun hwatched
    hmem hjoining hrun' hwatched' hnewMem (hnewId.trans hid.symm) hlive).2⟩

end Notetaker

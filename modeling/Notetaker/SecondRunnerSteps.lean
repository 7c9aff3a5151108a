import Notetaker.SecondRunner
import Notetaker.StoredAudio

/-!
# What one instance does to the calls of the other

A step of the host changes a row in one of four ways, and a call gets into the hands of an instance out
of the queue only. A sweep acts on the calls it has selected, and it selects at its start.
-/

open PythonText PythonUuid

namespace Notetaker

/-- The calls that a sweep has selected and not dealt with yet. -/
def Task.selected : Task → List Uuid
  | sweeping (.stale ids) | sweeping (.orphan ids) | dispatching _ (.stale ids)
  | dispatching _ (.orphan ids) => ids
  | _ => []

def Overdue (cfg : RunnerSettings) (now : Timestamp) (row : Call) : Prop :=
  (row.status = .joining ∨ row.status = .recording) ∧
      row.updatedAt + (cfg.botMaxRecordDuration + staleCallGraceS) < now ∨
    row.status = .processing ∧ row.updatedAt + processingStaleCutoffS < now

instance (cfg : RunnerSettings) (now : Timestamp) (row : Call) : Decidable (Overdue cfg now row) :=
  inferInstanceAs (Decidable (_ ∨ _))

namespace HostState

variable (cfg : WorkerSettings) (owner : ℕ → Instance)

/-- A task of the instance drives the call, or one of its polls has locked it. -/
def InHand (r : Instance) (s : HostState) (id : Uuid) : Prop :=
  ∃ j, owner j = r ∧ ((s.worker.runner.tasks j).driven = some id ∨ (j, id) ∈ s.polls)

def WithinLimits (s : HostState) (now : Timestamp) (id : Uuid) : Prop :=
  ∃ row ∈ s.worker.runner.rows, row.id = id ∧ ¬ row.status.Terminal ∧ ¬ Overdue cfg.runner now row

instance (s : HostState) (now : Timestamp) (id : Uuid) : Decidable (s.WithinLimits cfg now id) :=
  inferInstanceAs (Decidable (∃ row ∈ s.worker.runner.rows, _))

/-- A sweep of the instance is about to act on the call. -/
def Selected (r : Instance) (s : HostState) (id : Uuid) : Prop :=
  ∃ j, owner j = r ∧ (s.docker j = some id ∨ id ∈ (s.worker.runner.tasks j).selected)

/-- The next transaction of task `j` takes the call on to `recording` or `processing`. -/
def TakesOn (s : HostState) (j : ℕ) (id : Uuid) : Prop :=
  ∃ tr, (s.worker.runner.tasks j).work = some (id, tr) ∧ ∃ row ∈ s.worker.runner.rows, row.id = id ∧
    ¬ (tr.target cfg.runner.callConcurrencyLimit row).Terminal

/-- No step of instance `b` fails a call that `a` has in hand within its limits, or kills its
container. -/
def Spares (s : HostState) (e : Timestamp × HostEvent) : Prop :=
  ∀ t, (hostSystem cfg owner).step s e = some t → e.2.actor.map owner = some .b →
    ∀ id, s.InHand owner .a id → s.WithinLimits cfg e.1 id →
      (∀ row ∈ t.worker.runner.rows, row.id = id → row.status ≠ .failed) ∧ (id ∈ s.bots → id ∈ t.bots)

/-- The listing of `b` shows no container of such a call, and `a` takes on no call that a sweep of `b`
has selected. -/
def KeepsApart (s : HostState) (e : Timestamp × HostEvent) : Prop :=
  match e.2 with
  | .orphanSweep j true => owner j = .b →
      ∀ id ∈ s.bots, s.InHand owner .a id → ¬ s.WithinLimits cfg e.1 id
  | .worker (.runner (.transact j _)) => owner j = .a →
      ∀ id, s.TakesOn cfg j id → ¬ s.Selected owner .b id
  | _ => True

end HostState

/-! ## The tasks of a step -/

section Tasks

variable {cfg : WorkerSettings}

theorem tasks_of_runner_step {s t : RunnerState} {e : RunnerEvent} {j : ℕ}
    (h : s.step cfg.runner e = some t) (hpoll : ∀ j k diskOk now, e ≠ .poll j k diskOk now)
    (hactor : e.actor = some j) {i : ℕ} (hi : i ≠ j) : t.tasks i = s.tasks i := by
  have hset : ∀ {u : RunnerState} {task : Task}, u.tasks = Function.update s.tasks j task →
      u.tasks i = s.tasks i := by
    intro u task hu
    rw [hu, Function.update_of_ne hi]
  cases e with
  | create => cases hactor
  | crash => cases hactor
  | poll j k diskOk now => exact absurd rfl (hpoll j k diskOk now)
  | transact k now =>
      obtain rfl := Option.some.inj hactor
      change s.transact cfg.runner k now = some t at h
      unfold RunnerState.transact at h
      split at h
      · cases h
      · split at h
        · cases h
          exact hset rfl
        · split at h
          · cases h
            rw [RunnerState.tasks_recordWinner]
            exact hset rfl
          · split_ifs at h <;> cases h <;> exact hset rfl
  | retentionRow k outcome =>
      obtain rfl := Option.some.inj hactor
      change s.retentionRow k outcome = some t at h
      unfold RunnerState.retentionRow at h
      split at h
      · cases outcome <;> cases h <;> exact hset rfl
      · cases h
  | start k =>
      obtain rfl := Option.some.inj hactor
      unfold RunnerState.step at h
      dsimp only at h
      split at h
      · split at h <;> cases h <;> exact hset rfl
      · cases h
  | upload k succeeds =>
      obtain rfl := Option.some.inj hactor
      unfold RunnerState.step at h
      dsimp only at h
      split at h
      · split_ifs at h <;> cases h <;> exact hset rfl
      · cases h
  | source k outcome =>
      obtain rfl := Option.some.inj hactor
      unfold RunnerState.step at h
      dsimp only at h
      split at h
      · cases outcome <;> cases h <;> exact hset rfl
      · cases h
  | transcribe k outcome =>
      obtain rfl := Option.some.inj hactor
      unfold RunnerState.step at h
      dsimp only at h
      split at h
      · cases outcome <;> cases h <;> exact hset rfl
      · cases h
  | _ =>
      obtain rfl := Option.some.inj hactor
      unfold RunnerState.step at h
      dsimp only at h
      split at h <;> cases h <;> exact hset rfl

theorem tasks_of_deliver {s t : WorkerState} {j : ℕ} {receiver : ℕ → Attempt}
    {txNow now : Timestamp} (h : s.deliver cfg j receiver txNow now = some t) :
    ∃ next, t.runner.tasks = Function.update s.runner.tasks j (Task.afterDispatch next) := by
  unfold WorkerState.deliver at h
  split at h
  · rename_i id next hphase
    refine ⟨next, ?_⟩
    dsimp only at h
    split at h
    · cases h
      rfl
    · split at h <;> cases h <;> rfl
  · cases h

theorem tasks_of_worker_step {s t : WorkerState} {e : WorkerEvent} {j : ℕ}
    (h : s.step cfg e = some t) (hpoll : ∀ j k diskOk now, e.event ≠ .poll j k diskOk now)
    (hactor : e.event.actor = some j) {i : ℕ} (hi : i ≠ j) :
    t.runner.tasks i = s.runner.tasks i := by
  cases e with
  | runner e =>
      obtain ⟨u, hu, rfl⟩ := Option.map_eq_some_iff.1 h
      rw [runner_recordDone]
      exact tasks_of_runner_step hu hpoll hactor hi
  | deliver k receiver txNow now =>
      obtain rfl := Option.some.inj hactor
      obtain ⟨next, htasks⟩ := tasks_of_deliver h
      rw [htasks, Function.update_of_ne hi]

theorem driven_of_worker_step {s t : WorkerState} {e : WorkerEvent}
    (h : s.step cfg e = some t) (hpoll : ∀ j k diskOk now, e.event ≠ .poll j k diskOk now) {j : ℕ}
    {id : Uuid} (hj : (t.runner.tasks j).driven = some id) :
    (s.runner.tasks j).driven = some id := by
  cases e with
  | runner e =>
      obtain ⟨u, hu, rfl⟩ := Option.map_eq_some_iff.1 h
      rw [runner_recordDone] at hj
      exact driven_of_step hpoll hu hj
  | deliver k receiver txNow now =>
      obtain ⟨next, htasks⟩ := tasks_of_deliver h
      rw [htasks] at hj
      by_cases hjk : j = k
      · subst hjk
        rw [Function.update_self, Task.afterDispatch_driven] at hj
        cases hj
      · rwa [Function.update_of_ne hjk] at hj

namespace Task

theorem selected_committed (task : Task) (row : Call) :
    (task.committed row).selected ⊆ task.selected := by
  cases task with
  | exited id exitCode result =>
      simp only [committed]
      split_ifs <;> exact List.nil_subset _
  | sweeping next =>
      cases next with
      | finished => exact List.Subset.refl _
      | stale ids => cases ids <;> simp [committed, selected]
      | orphan ids => cases ids <;> simp [committed, selected]
  | _ => first | exact List.nil_subset _ | exact List.Subset.refl _

theorem selected_refused (task : Task) : task.refused.selected ⊆ task.selected := by
  cases task with
  | sweeping next =>
      cases next with
      | finished => exact List.nil_subset _
      | stale ids => cases ids <;> simp [refused, selected]
      | orphan ids => cases ids <;> simp [refused, selected]
  | _ => exact List.nil_subset _

theorem selected_missing (task : Task) : task.missing.selected ⊆ task.selected := by
  cases task with
  | sweeping next =>
      cases next with
      | orphan ids => cases ids <;> simp [missing, selected]
      | _ => exact List.nil_subset _
  | _ => exact List.nil_subset _

theorem selected_afterDispatch (id : Uuid) (next : Sweep) :
    (afterDispatch next).selected ⊆ (dispatching id next).selected := by
  cases next <;> exact List.Subset.refl _

theorem selected_of_move {cfg : RunnerSettings} {s t : RunnerState} {e : RunnerEvent} {j : ℕ}
    {task : Task} (h : TaskMove cfg s t e j task) {id : Uuid} (hid : id ∈ task.selected) :
    id ∈ (s.tasks j).selected ∨
      (∃ now ids, e = .staleStart j now ∧ staleIds cfg now s.rows = some ids ∧ id ∈ ids) ∨
      ∃ stdout, e = .orphanStart j stdout ∧ id ∈ orphanCalls stdout := by
  cases h with
  | kept => exact .inl hid
  | committed now id' tr row todo => exact .inl (selected_committed _ row hid)
  | refused => exact .inl (selected_refused _ hid)
  | missing => exact .inl (selected_missing _ hid)
  | dispatched id' next hphase =>
      rw [hphase]
      exact .inl (selected_afterDispatch id' next hid)
  | stale now hevent =>
      right
      left
      cases hids : staleIds cfg now s.rows with
      | none =>
          rw [hids] at hid
          cases hid
      | some ids =>
          rw [hids] at hid
          exact ⟨now, ids, hevent, hids, hid⟩
  | orphan stdout hevent => exact .inr (.inr ⟨stdout, hevent, hid⟩)
  | follows task hmove =>
      exfalso
      generalize s.tasks j = old at hmove
      cases hmove <;> cases hid
  | _ => cases hid

theorem mem_selected_of_killsAfter {old new : Task} {id : Uuid} (h : old.killsAfter new = some id) :
    id ∈ old.selected ∨ id ∈ new.selected := by
  unfold killsAfter at h
  split at h
  · cases h
    exact .inl List.mem_cons_self
  · right
    unfold killsNext at h
    split at h
    · cases h
      exact List.mem_cons_self
    · cases h

end Task

end Tasks

/-! ## The rows of a step -/

inductive HostRow (cfg : WorkerSettings) (s : HostState) (e : HostEvent) (row : Call) : Call → Prop where
  | kept : HostRow cfg s e row row
  | settled (new : Call) (hid : new.id = row.id) (hterminal : row.status.Terminal)
      (hstatus : new.status = row.status) : HostRow cfg s e row new
  | written (j : ℕ) (now : Timestamp) (tr : Transition) (new : Call)
      (hevent : e = .worker (.runner (.transact j now)))
      (hwork : (s.worker.runner.tasks j).work = some (row.id, tr)) (hunlocked : ¬ s.Locked row.id)
      (hid : new.id = row.id) (hlegal : CallStatus.Legal row.status new.status)
      (hstatus : new.status = tr.target cfg.runner.callConcurrencyLimit row) :
      HostRow cfg s e row new
  | polled (j k : ℕ) (diskOk : Bool) (new : Call) (hevent : e = .finishPoll j k diskOk)
      (hpoll : (j, row.id) ∈ s.polls) (hid : new.id = row.id) (hnew : new.status ≠ .queued) :
      HostRow cfg s e row new

theorem HostRow.id_eq {cfg : WorkerSettings} {s : HostState} {e : HostEvent} {row new : Call}
    (h : HostRow cfg s e row new) : new.id = row.id := by
  cases h with
  | kept => rfl
  | settled new hid => exact hid
  | written j now tr new hevent hwork hunlocked hid => exact hid
  | polled j k diskOk new hevent hpoll hid => exact hid

structure Separate (cfg : WorkerSettings) (owner : ℕ → Instance) (s : HostState) : Prop where
  consistent : Consistent s.worker.runner
  /-- No two polls have locked the same row. -/
  exclusive : (s.polls.map Prod.snd).Nodup
  queued : ∀ p ∈ s.polls, ∃ row ∈ s.worker.runner.rows, row.id = p.2 ∧ row.status = .queued
  retained : ∀ j ids, s.worker.runner.tasks j = .retaining ids → ∀ id ∈ ids,
    ∃ row ∈ s.worker.runner.rows, row.id = id ∧ row.status.Terminal
  /-- The containers and the selected calls are past the queue. -/
  started : ∀ id, id ∈ s.bots ∨ s.Selected owner .b id →
    ∃ row ∈ s.worker.runner.rows, row.id = id ∧ row.status ≠ .queued
  spared : ∀ id, s.Selected owner .b id → s.InHand owner .a id → ¬ s.WithinLimits cfg s.clock id

section Rows

variable {cfg : WorkerSettings} {owner : ℕ → Instance} {s t : HostState} {e : HostEvent}
  {now : Timestamp}

theorem HostRow.of_worker (hs : Separate cfg owner s) {e : WorkerEvent} {u : WorkerState}
    (hplain : ∀ j k diskOk now, e.event ≠ .poll j k diskOk now)
    (hwaits : ∀ j, e.event.actor = some j → ¬ s.Waits j e.event)
    (hstep : s.worker.step cfg e = some u) {row : Call} (hrow : row ∈ s.worker.runner.rows) :
    ∃ new ∈ u.runner.rows, HostRow cfg s (.worker e) row new := by
  obtain ⟨new, hnew, hchange⟩ := rowChange_of_step hs.consistent hstep hrow
  refine ⟨new, hnew, ?_⟩
  cases hchange with
  | kept => exact .kept
  | reclaimed j ids now hevent hphase =>
      obtain ⟨row', hrow', hid, hterminal⟩ :=
        hs.retained j _ hphase row.id List.mem_cons_self
      obtain rfl := hs.consistent.row_unique hrow' hrow hid
      exact .settled _ rfl hterminal rfl
  | delivered j receiver txNow now next new hevent hphase hterminal hpending hsame =>
      exact .settled new hsame.id_eq hterminal hsame.status_eq
  | written event tr now new hevent htr hwritten =>
      subst hevent
      cases event with
      | poll j k diskOk now => exact absurd rfl (hplain j k diskOk now)
      | transact j now' =>
          have hid := hwritten.id_eq
          obtain ⟨v, hv, rfl⟩ := Option.map_eq_some_iff.1 hstep
          rw [runner_recordDone] at hnew
          have hsame : new ∈ s.worker.runner.rows → HostRow cfg s (.worker (.runner (.transact j now')))
              row new := by
            intro hmem
            obtain rfl := hs.consistent.row_unique hmem hrow hid
            exact .kept
          have heffect : Effect cfg.runner s.worker.runner (.transact j now') v := effect_of_transact hv
          cases heffect with
          | unchanged => exact hsame hnew
          | quiet => exact hsame hnew
          | refused => exact hsame hnew
          | list => exact hsame hnew
          | commit j now' id' tr' row' todo hwork hrow' hid' hbody =>
              rw [RunnerState.rows_recordWinner] at hnew
              obtain ⟨rfl, rfl⟩ := Prod.mk.inj (Option.some.inj (hwork.symm.trans htr))
              obtain rfl := hs.consistent.row_unique hrow' hrow hid'
              obtain ⟨c, hc, hcnew⟩ := mem_modifyRow hnew
              split_ifs at hcnew with hcid
              · rw [hcnew] at hid ⊢
                have hstatus := Transition.status_of_body hbody
                refine .written j now' tr' _ rfl hwork ?_ hid ?_ hstatus
                · intro hlocked
                  exact hwaits j rfl ⟨_, hwork, hlocked⟩
                · rw [hstatus]
                  exact (Transition.body_eq_some hbody).1
              · exact hsame (hcnew ▸ hc)
      | _ => exact htr.elim

theorem ne_poll_of_plain {e : RunnerEvent} (h : e.plain) (j k : ℕ) (diskOk : Bool)
    (now : Timestamp) : e ≠ .poll j k diskOk now := by
  rintro rfl
  cases h

theorem rows_of_orphanStart {s t : WorkerState} {j : ℕ} {stdout : Text}
    (h : s.step cfg (.runner (.orphanStart j stdout)) = some t) : t.runner.rows = s.runner.rows := by
  obtain ⟨u, hu, rfl⟩ := Option.map_eq_some_iff.1 h
  rw [runner_recordDone]
  unfold RunnerState.step at hu
  dsimp only at hu
  split at hu <;> cases hu
  rfl

theorem rows_of_staleStart {s t : WorkerState} {j : ℕ} {now : Timestamp}
    (h : s.step cfg (.runner (.staleStart j now)) = some t) : t.runner.rows = s.runner.rows := by
  obtain ⟨u, hu, rfl⟩ := Option.map_eq_some_iff.1 h
  rw [runner_recordDone]
  unfold RunnerState.step at hu
  dsimp only at hu
  split at hu <;> cases hu
  rfl

theorem hostRow_of_modifyRow {j k : ℕ} {diskOk : Bool} {id : Uuid} {new row : Call}
    (hpoll : (j, id) ∈ s.polls) (hid : new.id = id) (hnew : new.status ≠ .queued)
    (hrow : row ∈ s.worker.runner.rows) :
    ∃ new' ∈ modifyRow s.worker.runner.rows id fun _ => new,
      HostRow cfg s (.finishPoll j k diskOk) row new' := by
  by_cases heq : row.id = id
  · refine ⟨new, AdmissionState.mem_modifyRow_of_eq hrow heq, ?_⟩
    exact .polled j k diskOk new rfl (heq ▸ hpoll) (hid.trans heq.symm) hnew
  · exact ⟨row, AdmissionState.mem_modifyRow_of_ne hrow heq, .kept⟩

theorem hostRow_of_step (hs : Separate cfg owner s) (h : HostStep cfg owner s now e t) {row : Call}
    (hrow : row ∈ s.worker.runner.rows) : ∃ new ∈ t.worker.runner.rows, HostRow cfg s e row new := by
  cases h with
  | created e u hplain hactor hstep =>
      refine HostRow.of_worker hs (ne_poll_of_plain hplain) (fun j hj => ?_) hstep hrow
      rw [hactor] at hj
      cases hj
  | worked e j u hplain htime hactor hfree hwaits hstep =>
      refine HostRow.of_worker hs (ne_poll_of_plain hplain) (fun k hk => ?_) hstep hrow
      obtain rfl := Option.some.inj (hactor.symm.trans hk)
      exact hwaits
  | polled j k diskOk id u hpoll howner hend =>
      cases hend with
      | unchanged => exact ⟨row, hrow, .kept⟩
      | claimed read new hidle hread hid hnew hstatus =>
          exact hostRow_of_modifyRow hpoll hnew (by rw [hstatus]; decide) hrow
      | refused read new hidle hread hid hnew hstatus =>
          rw [RunnerState.rows_recordWinner]
          exact hostRow_of_modifyRow hpoll hnew (by rw [hstatus]; decide) hrow
  | listed j u hfree hstep =>
      refine ⟨row, ?_, .kept⟩
      change row ∈ u.runner.rows
      rw [rows_of_orphanStart hstep]
      exact hrow
  | _ => exact ⟨row, hrow, .kept⟩

theorem consistent_of_hostStep (hs : Separate cfg owner s) (h : HostStep cfg owner s now e t) :
    Consistent t.worker.runner := by
  cases h with
  | created e u hplain hactor hstep => exact consistent_worker_step s.worker e u hs.consistent hstep
  | worked e j u hplain htime hactor hfree hwaits hstep =>
      exact consistent_worker_step s.worker e u hs.consistent hstep
  | listed j u hfree hstep =>
      exact consistent_worker_step s.worker (.runner (.orphanStart j s.listing)) u hs.consistent hstep
  | polled j k diskOk id u hpoll howner hend =>
      have hqueued : ∀ row ∈ s.worker.runner.rows, row.id = id → row.status = .queued := by
        intro row hrow hid
        obtain ⟨row', hrow', hid', hstatus⟩ := hs.queued _ hpoll
        obtain rfl := hs.consistent.row_unique hrow' hrow (hid'.trans hid.symm)
        exact hstatus
      cases hend with
      | unchanged => exact hs.consistent
      | claimed row new hidle hrow hid hnew hstatus =>
          subst hid
          exact hs.consistent.claim hidle hrow (hqueued row hrow rfl) hnew hstatus
      | refused row new hidle hrow hid hnew hstatus =>
          change Consistent
            ((RunnerState.setTask _ j (.dispatching id .finished)).recordWinner id .failed j)
          refine Consistent.recordWinner (hs.consistent.commit hnew rfl rfl (Or.inl ⟨?_, rfl⟩))
          rw [hstatus]
          exact CallStatus.terminal_failed
  | crashed r =>
      have hdriven : ∀ j id, (if owner j = r then Task.idle else s.worker.runner.tasks j).driven =
          some id → (s.worker.runner.tasks j).driven = some id ∧
            (if owner j = r then Task.idle else s.worker.runner.tasks j) =
              s.worker.runner.tasks j := by
        intro j id hj
        split_ifs at hj ⊢
        · cases hj
        · exact ⟨hj, rfl⟩
      refine ⟨hs.consistent.nodup, ?_, ?_⟩
      · intro j k id hj hk
        exact hs.consistent.unique j k id (hdriven j id hj).1 (hdriven k id hk).1
      · intro j id hj
        obtain ⟨hold, heq⟩ := hdriven j id hj
        change RowIn _ id (if owner j = r then Task.idle else s.worker.runner.tasks j).expects
        rw [heq]
        exact hs.consistent.status j id hold
  | _ => exact hs.consistent

end Rows

/-! ## The hands of a step -/

section Hands

variable {cfg : WorkerSettings} {owner : ℕ → Instance} {s t : HostState} {e : HostEvent}
  {now : Timestamp}

theorem inHand_of_hostStep (h : HostStep cfg owner s now e t) {r : Instance} {id : Uuid}
    (hin : t.InHand owner r id) : s.InHand owner r id ∨
      ∃ row ∈ s.worker.runner.rows, row.id = id ∧ row.status = .queued := by
  obtain ⟨j, hj, hhand⟩ := hin
  have hworker : ∀ {e : WorkerEvent} {u : WorkerState},
      (∀ j k diskOk now, e.event ≠ .poll j k diskOk now) → s.worker.step cfg e = some u →
      (u.runner.tasks j).driven = some id ∨ (j, id) ∈ s.polls → s.InHand owner r id := by
    intro e u hpoll hstep hor
    rcases hor with hdriven | hpolls
    · exact ⟨j, hj, .inl (driven_of_worker_step hstep hpoll hdriven)⟩
    · exact ⟨j, hj, .inr hpolls⟩
  cases h with
  | created e u hplain hactor hstep => exact .inl (hworker (ne_poll_of_plain hplain) hstep hhand)
  | worked e k u hplain htime hactor hfree hwaits hstep =>
      exact .inl (hworker (ne_poll_of_plain hplain) hstep hhand)
  | listed k u hfree hstep =>
      refine .inl (hworker ?_ hstep hhand)
      exact fun _ _ _ _ => nofun
  | selected k row hfree hrow hqueued hunlocked =>
      rcases hhand with hdriven | hpolls
      · exact .inl ⟨j, hj, .inl hdriven⟩
      · rcases List.mem_cons.1 hpolls with heq | hold
        · cases heq
          exact .inr ⟨row, hrow, rfl, hqueued⟩
        · exact .inl ⟨j, hj, .inr hold⟩
  | polled k l diskOk id' u hpoll howner hend =>
      left
      rcases hhand with hdriven | hpolls
      · cases hend with
        | unchanged => exact ⟨j, hj, .inl hdriven⟩
        | claimed row new hidle hrow hid hnew hstatus =>
            change (Function.update s.worker.runner.tasks l (.claimed id') j).driven = some id
              at hdriven
            by_cases hjl : j = l
            · subst hjl
              rw [Function.update_self] at hdriven
              cases hdriven
              exact ⟨k, howner.symm.trans hj, .inr hpoll⟩
            · rw [Function.update_of_ne hjl] at hdriven
              exact ⟨j, hj, .inl hdriven⟩
        | refused row new hidle hrow hid hnew hstatus =>
            dsimp only at hdriven
            rw [RunnerState.tasks_recordWinner] at hdriven
            change (Function.update s.worker.runner.tasks k _ j).driven = some id at hdriven
            by_cases hjk : j = k
            · subst hjk
              rw [Function.update_self] at hdriven
              cases hdriven
            · rw [Function.update_of_ne hjk] at hdriven
              exact ⟨j, hj, .inl hdriven⟩
      · exact ⟨j, hj, .inr (List.mem_of_mem_filter hpolls)⟩
  | crashed r' =>
      left
      rcases hhand with hdriven | hpolls
      · dsimp only at hdriven
        split_ifs at hdriven
        · cases hdriven
        · exact ⟨j, hj, .inl hdriven⟩
      · exact ⟨j, hj, .inr (List.mem_of_mem_filter hpolls)⟩
  | _ => exact .inl ⟨j, hj, hhand⟩

theorem selected_of_advance {e : RunnerEvent} {w : WorkerEvent} {j : ℕ} {u : WorkerState}
    (hevent : w.event = e) (hactor : e.actor = some j)
    (hpoll : ∀ j k diskOk now, e ≠ .poll j k diskOk now) (hstep : s.worker.step cfg w = some u)
    {r : Instance} {id : Uuid} (hsel : (s.advance j e u).Selected owner r id) :
    s.Selected owner r id ∨ owner j = r ∧
      ((∃ now ids, e = .staleStart j now ∧ staleIds cfg.runner now s.worker.runner.rows = some ids ∧
        id ∈ ids) ∨ ∃ stdout, e = .orphanStart j stdout ∧ id ∈ orphanCalls stdout) := by
  subst hevent
  obtain ⟨i, hi, hpart⟩ := hsel
  have hmove := taskMove_of_worker_step hstep i
  have hlist : i = j → id ∈ (u.runner.tasks i).selected →
      s.Selected owner r id ∨ owner j = r ∧
        ((∃ now ids, w.event = .staleStart j now ∧
          staleIds cfg.runner now s.worker.runner.rows = some ids ∧ id ∈ ids) ∨
        ∃ stdout, w.event = .orphanStart j stdout ∧ id ∈ orphanCalls stdout) := by
    intro hij hmem
    subst hij
    rcases Task.selected_of_move hmove hmem with hold | hnew
    · exact .inl ⟨i, hi, .inr hold⟩
    · exact .inr ⟨hi, hnew⟩
  by_cases hij : i = j
  · rcases hpart with hdocker | hmem
    · subst hij
      change Function.update s.docker i _ i = some id at hdocker
      rw [Function.update_self] at hdocker
      rcases Task.mem_selected_of_killsAfter hdocker with hold | hnew
      · exact .inl ⟨i, hi, .inr hold⟩
      · exact hlist rfl hnew
    · exact hlist hij hmem
  · left
    refine ⟨i, hi, ?_⟩
    rcases hpart with hdocker | hmem
    · left
      change Function.update s.docker j _ i = some id at hdocker
      rwa [Function.update_of_ne hij] at hdocker
    · right
      rwa [← tasks_of_worker_step hstep hpoll hactor hij]

theorem mem_orphanCalls_listing {id : Uuid} (h : id ∈ orphanCalls s.listing) : id ∈ s.bots := by
  have hplain : ∀ name ∈ s.bots.map containerName, ∀ c ∈ name, isDockerNameChar c := by
    intro name hname
    obtain ⟨id', -, rfl⟩ := List.mem_map.1 hname
    exact isDockerNameChar_of_mem_containerName id'
  obtain ⟨container, hcontainer, hbot⟩ := List.mem_filterMap.1 h
  rw [listedContainers, HostState.listing, splitLines_dockerPs hplain] at hcontainer
  obtain ⟨name, hname, rfl⟩ := List.mem_map.1 hcontainer
  obtain ⟨id', hid', rfl⟩ := List.mem_map.1 (List.mem_of_mem_filter hname)
  rw [classify_containerName] at hbot
  obtain rfl := Option.some.inj hbot
  exact hid'

theorem tasks_of_create {w : WorkerEvent} {u : WorkerState} (hplain : w.event.plain)
    (hactor : w.event.actor = none) (hstep : s.worker.step cfg w = some u) :
    u.runner.tasks = s.worker.runner.tasks := by
  cases w with
  | deliver => cases hactor
  | runner w =>
      obtain ⟨v, hv, rfl⟩ := Option.map_eq_some_iff.1 hstep
      rw [runner_recordDone]
      cases w with
      | create data id now =>
          change RunnerState.create _ _ data id now = some v at hv
          unfold RunnerState.create at hv
          split at hv <;> cases hv <;> rfl
      | crash => cases hplain
      | _ => cases hactor

theorem selected_of_hostStep (h : HostStep cfg owner s now e t) {r : Instance} {id : Uuid}
    (hsel : t.Selected owner r id) : s.Selected owner r id ∨
      t.worker.runner.rows = s.worker.runner.rows ∧
        ((∃ ids, staleIds cfg.runner now s.worker.runner.rows = some ids ∧ id ∈ ids) ∨
          ∃ j, owner j = r ∧ e = .orphanSweep j true ∧ id ∈ s.bots) := by
  cases h with
  | unchanged => exact .inl hsel
  | created w u hplain hactor hstep =>
      left
      obtain ⟨j, hj, hpart⟩ := hsel
      refine ⟨j, hj, ?_⟩
      dsimp only at hpart
      rwa [tasks_of_create hplain hactor hstep] at hpart
  | worked w j u hplain htime hactor hfree hwaits hstep =>
      rcases selected_of_advance rfl hactor (ne_poll_of_plain hplain) hstep hsel with hold |
        ⟨hj, ⟨now', ids, hevent, hids, hid⟩ | ⟨stdout, hevent, -⟩⟩
      · exact .inl hold
      · right
        have hnow : now' = now := htime now' (by rw [hevent]; rfl)
        subst hnow
        cases w with
        | deliver => cases hevent
        | runner w =>
            obtain rfl : w = .staleStart j now' := hevent
            exact ⟨rows_of_staleStart hstep, .inl ⟨ids, hids, hid⟩⟩
      · rw [hevent] at hplain
        cases hplain
  | selected j row hfree hrow hqueued hunlocked => exact .inl hsel
  | polled j k diskOk id' u hpoll howner hend =>
      left
      obtain ⟨i, hi, hdocker | hmem⟩ := hsel
      · exact ⟨i, hi, .inl hdocker⟩
      · have hold : ∀ (l : ℕ) (task : Task), task.selected = [] →
            id ∈ (Function.update s.worker.runner.tasks l task i).selected →
            id ∈ (s.worker.runner.tasks i).selected := by
          intro l task hnone h
          by_cases hil : i = l
          · subst hil
            rw [Function.update_self, hnone] at h
            cases h
          · rwa [Function.update_of_ne hil] at h
        refine ⟨i, hi, .inr ?_⟩
        cases hend with
        | unchanged => exact hmem
        | claimed row new hidle hrow hid hnew hstatus => exact hold k _ rfl hmem
        | refused row new hidle hrow hid hnew hstatus =>
            dsimp only at hmem
            rw [RunnerState.tasks_recordWinner] at hmem
            exact hold j _ rfl hmem
  | listed j u hfree hstep =>
      rcases selected_of_advance (w := .runner (.orphanStart j s.listing)) rfl rfl
        (fun _ _ _ _ => nofun) hstep hsel with hold | ⟨hj, ⟨now', ids, hevent, -⟩ | ⟨stdout, hevent, hid⟩⟩
      · exact .inl hold
      · cases hevent
      · cases hevent
        exact .inr ⟨rows_of_orphanStart hstep, .inr ⟨j, hj, rfl, mem_orphanCalls_listing hid⟩⟩
  | killed j id' hdocker =>
      left
      obtain ⟨i, hi, hpart | hmem⟩ := hsel
      · refine ⟨i, hi, .inl ?_⟩
        change Function.update s.docker j none i = some id at hpart
        by_cases hij : i = j
        · subst hij
          rw [Function.update_self] at hpart
          cases hpart
        · rwa [Function.update_of_ne hij] at hpart
      · exact ⟨i, hi, .inr hmem⟩
  | crashed r' =>
      left
      obtain ⟨i, hi, hpart⟩ := hsel
      dsimp only at hpart
      split_ifs at hpart
      · rcases hpart with hnone | hnil
        · cases hnone
        · cases hnil
      · exact ⟨i, hi, hpart⟩

theorem bots_of_hostStep (h : HostStep cfg owner s now e t) {id : Uuid} (hid : id ∈ t.bots) :
    id ∈ s.bots ∨ ∃ j, (s.worker.runner.tasks j).driven = some id := by
  cases h with
  | worked w j u hplain htime hactor hfree hwaits hstep =>
      change id ∈ s.botsAfter u w.event at hid
      unfold HostState.botsAfter at hid
      split at hid
      · rename_i k _
        split at hid
        · rename_i id' signalled hrunning
          rcases List.mem_cons.1 hid with rfl | hold
          · refine .inr ⟨k, driven_of_worker_step hstep (ne_poll_of_plain hplain) ?_⟩
            rw [hrunning]
            rfl
          · exact .inl hold
        · exact .inl hid
      · split at hid
        · exact .inl (List.mem_of_mem_filter hid)
        · exact .inl hid
      · exact .inl hid
  | killed j id' hdocker => exact .inl (List.mem_of_mem_filter hid)
  | _ => exact .inl hid

end Hands

end Notetaker

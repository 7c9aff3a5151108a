import Mathlib.Tactic.Linarith
import Notetaker.SecondRunnerSteps

/-!
# What a second runner may harm

The sweeps of an instance act on every call they find, whoever drives it. So the second instance spares
the calls of the first one as long as its startup listing shows no container of a call that the first
one drives within its limits, and no call that it has selected as stale is taken on by its driver.
-/

open PythonText PythonUuid

namespace Notetaker

namespace Separate

variable {cfg : WorkerSettings} {owner : ℕ → Instance} {s t : HostState} {e : HostEvent}
  {now : Timestamp}

theorem of_init (h : (hostSystem cfg owner).init s) : Separate cfg owner s := by
  obtain ⟨hworker, hpolls, hbots, hdocker⟩ := h
  have hconsistent := Consistent.of_init hworker.1
  obtain ⟨hrows, htasks, -⟩ := hworker.1
  have hselected : ∀ r id, ¬ s.Selected owner r id := by
    rintro r id ⟨j, -, hj | hj⟩
    · rw [hdocker j] at hj
      cases hj
    · rw [htasks j] at hj
      cases hj
  refine ⟨hconsistent, by simp [hpolls], by simp [hpolls], ?_, ?_, ?_⟩
  · intro j ids hj
    rw [htasks j] at hj
    cases hj
  · rintro id (hid | hid)
    · rw [hbots] at hid
      cases hid
    · exact absurd hid (hselected .b id)
  · intro id hid
    exact absurd hid (hselected .b id)

theorem not_inHand (hs : Separate cfg owner s) {r : Instance} {j : ℕ} {id : Uuid}
    (hj : (s.worker.runner.tasks j).driven = some id) (howner : owner j ≠ r) :
    ¬ s.InHand owner r id := by
  rintro ⟨i, hi, hdriven | hpoll⟩
  · obtain rfl := hs.consistent.unique i j id hdriven hj
    exact howner hi
  · obtain ⟨row, hrow, rfl, hqueued⟩ := hs.queued _ hpoll
    exact hs.consistent.not_driven_of_queued hrow hqueued j hj

theorem not_inHand_of_poll (hs : Separate cfg owner s) {r : Instance} {j : ℕ} {id : Uuid}
    (hj : (j, id) ∈ s.polls) (howner : owner j ≠ r) : ¬ s.InHand owner r id := by
  rintro ⟨i, hi, hdriven | hpoll⟩
  · obtain ⟨row, hrow, rfl, hqueued⟩ := hs.queued _ hj
    exact hs.consistent.not_driven_of_queued hrow hqueued i hdriven
  · obtain ⟨rfl, -⟩ := Prod.mk.inj (List.inj_on_of_nodup_map hs.exclusive hpoll hj rfl)
    exact howner hi

theorem selected_of_work (owner : ℕ → Instance) {j : ℕ} {id : Uuid} {tr : Transition}
    (hwork : (s.worker.runner.tasks j).work = some (id, tr)) :
    (s.worker.runner.tasks j).driven = some id ∨
      s.Selected owner (owner j) id ∧ ∀ limit row, (tr.target limit row).Terminal := by
  rcases Task.work_cases hwork with hdriven | ⟨ids, htask, rfl⟩ | ⟨ids, htask, rfl⟩
  · exact .inl hdriven
  · refine .inr ⟨⟨j, rfl, .inr ?_⟩, fun limit row => CallStatus.terminal_failed⟩
    rw [htask]
    exact List.mem_cons_self
  · refine .inr ⟨⟨j, rfl, .inr ?_⟩, fun limit row => CallStatus.terminal_failed⟩
    rw [htask]
    exact List.mem_cons_self

theorem spares (hs : Separate cfg owner s) (h : HostStep cfg owner s s.clock e t)
    (hactor : e.actor.map owner = some .b) {id : Uuid} (hin : s.InHand owner .a id)
    (hlimits : s.WithinLimits cfg s.clock id) :
    (∀ row ∈ t.worker.runner.rows, row.id = id → row.status ≠ .failed) ∧
      (id ∈ s.bots → id ∈ t.bots) := by
  have hselected : ¬ s.Selected owner .b id := fun h => hs.spared id h hin hlimits
  have hb : ∀ {j : ℕ}, e.actor = some j → owner j = .b := by
    intro j hj
    rw [hj] at hactor
    exact Option.some.inj hactor
  have hne : ∀ {j : ℕ}, e.actor = some j → owner j ≠ .a := by
    intro j hj
    rw [hb hj]
    decide
  obtain ⟨row, hrow, rfl, hlive, -⟩ := hlimits
  refine ⟨?_, ?_⟩
  · intro new' hnew' hid
    obtain ⟨new, hnew, hchange⟩ := hostRow_of_step hs h hrow
    obtain rfl := (consistent_of_hostStep hs h).row_unique hnew' hnew (hid.trans hchange.id_eq.symm)
    cases hchange with
    | kept =>
        intro hfailed
        rw [hfailed] at hlive
        exact hlive CallStatus.terminal_failed
    | settled new hid hterminal => exact absurd hterminal hlive
    | written j now tr new hevent hwork =>
        subst hevent
        rcases selected_of_work owner hwork with hdriven | ⟨hsel, -⟩
        · exact absurd hin (hs.not_inHand hdriven (hne rfl))
        · rw [hb rfl] at hsel
          exact absurd hsel hselected
    | polled j k diskOk new hevent hpoll =>
        subst hevent
        exact absurd hin (hs.not_inHand_of_poll hpoll (hne rfl))
  · intro hbot
    cases h with
    | worked w j u hplain htime hj hfree hwaits hstep =>
        change row.id ∈ s.botsAfter u w.event
        unfold HostState.botsAfter
        split
        · split
          · exact List.mem_cons_of_mem _ hbot
          · exact hbot
        · rename_i k exitCode result hexit
          split
          · rename_i id' signalled hrunning
            refine List.mem_filter.2 ⟨hbot, ?_⟩
            by_contra heq
            have heq' : row.id = id' := by simpa using heq
            have hk : k = j := by
              rw [hexit] at hj
              exact Option.some.inj hj
            refine hs.not_inHand (r := .a) ?_ (hne hj) hin
            rw [← hk, hrunning, heq']
            rfl
          · exact hbot
        · exact hbot
    | killed j id' hdocker =>
        refine List.mem_filter.2 ⟨hbot, ?_⟩
        by_contra heq
        have heq' : row.id = id' := by simpa using heq
        exact hselected ⟨j, hb rfl, .inl (heq' ▸ hdocker)⟩
    | _ => exact hbot

theorem tick (hs : Separate cfg owner s) (hnow : s.clock ≤ now) :
    Separate cfg owner { s with clock := now } := by
  refine ⟨hs.consistent, hs.exclusive, hs.queued, hs.retained, hs.started, ?_⟩
  rintro id hsel hin ⟨row, hrow, hid, hlive, hlimits⟩
  refine hs.spared id hsel hin ⟨row, hrow, hid, hlive, fun hover => hlimits ?_⟩
  rcases hover with ⟨hstatus, hlate⟩ | ⟨hstatus, hlate⟩
  · exact .inl ⟨hstatus, hlate.trans_le hnow⟩
  · exact .inr ⟨hstatus, hlate.trans_le hnow⟩

theorem retained_of_hostStep (hs : Separate cfg owner s) (h : HostStep cfg owner s now e t) {j : ℕ}
    {ids : List Uuid} (hphase : t.worker.runner.tasks j = .retaining ids) {id : Uuid}
    (hid : id ∈ ids) : ∃ row ∈ s.worker.runner.rows, row.id = id ∧ row.status.Terminal := by
  have hworker : ∀ {w : WorkerEvent} {u : WorkerState}, s.worker.step cfg w = some u →
      u.runner.tasks j = .retaining ids →
      ∃ row ∈ s.worker.runner.rows, row.id = id ∧ row.status.Terminal := by
    intro w u hstep hphase
    have hmove := taskMove_of_worker_step hstep j
    rw [hphase] at hmove
    rcases Task.listed_of_move hmove hid with ⟨ids', hphase', hmem⟩ | ⟨now, ids', -, hids, hmem⟩
    · exact hs.retained j ids' hphase' id hmem
    · obtain ⟨row, hrow, hrowId, hterminal, -⟩ := mem_expiredIds hids hmem
      exact ⟨row, hrow, hrowId, hterminal⟩
  cases h with
  | created w u hplain hactor hstep => exact hworker hstep hphase
  | worked w k u hplain htime hactor hfree hwaits hstep => exact hworker hstep hphase
  | listed k u hfree hstep => exact hworker hstep hphase
  | polled k l diskOk id' u hpoll howner hend =>
      have hold : ∀ (m : ℕ) (task : Task), task ≠ .retaining ids →
          Function.update s.worker.runner.tasks m task j = .retaining ids →
          s.worker.runner.tasks j = .retaining ids := by
        intro m task hne h
        by_cases hjm : j = m
        · subst hjm
          rw [Function.update_self] at h
          exact absurd h hne
        · rwa [Function.update_of_ne hjm] at h
      refine hs.retained j ids ?_ id hid
      cases hend with
      | unchanged => exact hphase
      | claimed row new hidle hrow hrowId hnew hstatus => exact hold l (.claimed id') nofun hphase
      | refused row new hidle hrow hrowId hnew hstatus =>
          dsimp only at hphase
          rw [RunnerState.tasks_recordWinner] at hphase
          exact hold k (.dispatching id' .finished) nofun hphase
  | crashed r =>
      dsimp only at hphase
      split_ifs at hphase
      exact hs.retained j ids hphase id hid
  | _ => exact hs.retained j ids hphase id hid

theorem clock_of_hostStep (h : HostStep cfg owner s now e t) : t.clock = s.clock := by
  cases h <;> rfl

theorem exclusive_of_hostStep (hs : Separate cfg owner s) (h : HostStep cfg owner s now e t) :
    (t.polls.map Prod.snd).Nodup := by
  cases h with
  | selected j row hfree hrow hqueued hunlocked =>
      change (row.id :: s.polls.map Prod.snd).Nodup
      refine List.nodup_cons.2 ⟨fun hmem => ?_, hs.exclusive⟩
      obtain ⟨p, hp, hid⟩ := List.mem_map.1 hmem
      exact hunlocked ⟨p, hp, hid⟩
  | polled => exact hs.exclusive.sublist (List.filter_sublist.map Prod.snd)
  | crashed => exact hs.exclusive.sublist (List.filter_sublist.map Prod.snd)
  | _ => exact hs.exclusive

theorem queued_of_hostStep (hs : Separate cfg owner s) (h : HostStep cfg owner s now e t)
    {p : ℕ × Uuid} (hp : p ∈ t.polls) :
    ∃ row ∈ t.worker.runner.rows, row.id = p.2 ∧ row.status = .queued := by
  have hold : p ∈ s.polls ∨ (∃ j, e = .select j) ∧
      ∃ row ∈ s.worker.runner.rows, row.id = p.2 ∧ row.status = .queued := by
    cases h with
    | selected j row hfree hrow hqueued hunlocked =>
        rcases List.mem_cons.1 hp with rfl | hmem
        · exact .inr ⟨⟨j, rfl⟩, row, hrow, rfl, hqueued⟩
        · exact .inl hmem
    | polled => exact .inl (List.mem_of_mem_filter hp)
    | crashed => exact .inl (List.mem_of_mem_filter hp)
    | _ => exact .inl hp
  obtain ⟨row, hrow, hid, hqueued⟩ :
      ∃ row ∈ s.worker.runner.rows, row.id = p.2 ∧ row.status = .queued := by
    rcases hold with hmem | ⟨-, hnew⟩
    · exact hs.queued p hmem
    · exact hnew
  obtain ⟨new, hnew, hchange⟩ := hostRow_of_step hs h hrow
  cases hchange with
  | kept => exact ⟨row, hnew, hid, hqueued⟩
  | settled new hid hterminal =>
      rw [hqueued] at hterminal
      exact absurd hterminal (by decide)
  | written j now' tr new hevent hwork hunlocked =>
      rcases hold with hmem | ⟨⟨k, hselect⟩, -⟩
      · exact absurd ⟨p, hmem, hid.symm⟩ hunlocked
      · rw [hevent] at hselect
        cases hselect
  | polled j k diskOk new hevent hpoll =>
      rcases hold with hmem | ⟨⟨l, hselect⟩, -⟩
      · obtain rfl : p = (j, row.id) := List.inj_on_of_nodup_map hs.exclusive hmem hpoll hid.symm
        subst hevent
        cases h with
        | unchanged =>
            exact ⟨row, hrow, rfl, hqueued⟩
        | polled => exact absurd rfl (of_decide_eq_true (List.mem_filter.1 hp).2)
      · rw [hevent] at hselect
        cases hselect

theorem overdue_of_mem_staleIds {cfg : RunnerSettings} {rows : List Call} {ids : List Uuid}
    (h : staleIds cfg now rows = some ids) {id : Uuid} (hid : id ∈ ids) :
    ∃ row ∈ rows, row.id = id ∧ Overdue cfg now row := by
  simp only [staleIds, Option.bind_eq_bind, Option.bind_eq_some_iff, Option.pure_def,
    Option.some.injEq] at h
  obtain ⟨recordingCutoff, hrecording, processingCutoff, hprocessing, rfl⟩ := h
  obtain ⟨row, hrow, rfl⟩ := List.mem_map.1 hid
  obtain ⟨hmem, hstale⟩ := List.mem_filter.1 hrow
  refine ⟨row, hmem, rfl, ?_⟩
  unfold beforeNow at hrecording hprocessing
  split_ifs at hrecording
  split_ifs at hprocessing
  cases hrecording
  cases hprocessing
  simp only [isStale, Bool.or_eq_true, Bool.and_eq_true, decide_eq_true_eq] at hstale
  rcases hstale with ⟨hstatus, hlate⟩ | ⟨hstatus, hlate⟩
  · refine .inl ⟨hstatus, ?_⟩
    push_cast at hlate
    linarith
  · refine .inr ⟨hstatus, ?_⟩
    linarith

theorem not_queued_of_overdue {cfg : RunnerSettings} {row : Call} (h : Overdue cfg now row) :
    row.status ≠ .queued := by
  rcases h with ⟨hstatus | hstatus, -⟩ | ⟨hstatus, -⟩ <;> rw [hstatus] <;> decide

theorem started_of_hostStep (hs : Separate cfg owner s) (h : HostStep cfg owner s now e t) {id : Uuid}
    (hid : id ∈ t.bots ∨ t.Selected owner .b id) :
    ∃ row ∈ s.worker.runner.rows, row.id = id ∧ row.status ≠ .queued := by
  rcases hid with hbot | hsel
  · rcases bots_of_hostStep h hbot with hold | ⟨j, hdriven⟩
    · exact hs.started id (.inl hold)
    · obtain ⟨row, hrow, rfl, -⟩ := hs.consistent.status j id hdriven
      exact ⟨row, hrow, rfl, fun hqueued =>
        hs.consistent.not_driven_of_queued hrow hqueued j hdriven⟩
  · rcases selected_of_hostStep h hsel with hold | ⟨-, ⟨ids, hids, hmem⟩ | ⟨j, -, -, hbot⟩⟩
    · exact hs.started id (.inr hold)
    · obtain ⟨row, hrow, hrowId, hover⟩ := overdue_of_mem_staleIds hids hmem
      exact ⟨row, hrow, hrowId, not_queued_of_overdue hover⟩
    · exact hs.started id (.inl hbot)

theorem spared_of_hostStep (hs : Separate cfg owner s) (h : HostStep cfg owner s s.clock e t)
    (hapart : s.KeepsApart cfg owner (s.clock, e)) {id : Uuid} (hsel : t.Selected owner .b id)
    (hin : t.InHand owner .a id) : ¬ t.WithinLimits cfg s.clock id := by
  obtain ⟨row, hrow, rfl, hstarted⟩ := started_of_hostStep hs h (.inr hsel)
  have hold : s.InHand owner .a row.id := by
    rcases inHand_of_hostStep h hin with hold | ⟨row', hrow', hid', hqueued⟩
    · exact hold
    · obtain rfl := hs.consistent.row_unique hrow' hrow hid'
      exact absurd hqueued hstarted
  have hbefore : s.WithinLimits cfg s.clock row.id → ¬ row.status.Terminal ∧
      ¬ Overdue cfg.runner s.clock row := by
    rintro ⟨row', hrow', hid', hlimits⟩
    rwa [← hs.consistent.row_unique hrow' hrow hid']
  rintro ⟨new', hnew', hid, hlive, hlimits⟩
  rcases selected_of_hostStep h hsel with hsel' | ⟨hrows, ⟨ids, hids, hmem⟩ | ⟨j, hj, rfl, hbot⟩⟩
  · obtain ⟨new, hnew, hchange⟩ := hostRow_of_step hs h hrow
    obtain rfl := (consistent_of_hostStep hs h).row_unique hnew' hnew (hid.trans hchange.id_eq.symm)
    cases hchange with
    | kept => exact hs.spared row.id hsel' hold ⟨_, hrow, rfl, hlive, hlimits⟩
    | settled new hid hterminal hstatus =>
        rw [hstatus] at hlive
        exact hlive hterminal
    | written j now tr new hevent hwork hunlocked hid' hlegal hstatus =>
        subst hevent
        rcases selected_of_work owner hwork with hdriven | ⟨-, hterminal⟩
        · by_cases hj : owner j = .a
          · refine hapart hj row.id ⟨tr, hwork, row, hrow, rfl, ?_⟩ hsel'
            rwa [← hstatus]
          · exact hs.not_inHand hdriven hj hold
        · rw [hstatus] at hlive
          exact hlive (hterminal _ _)
    | polled j k diskOk new hevent hpoll =>
        obtain ⟨row', hrow', hid', hqueued⟩ := hs.queued _ hpoll
        obtain rfl := hs.consistent.row_unique hrow' hrow hid'
        exact hstarted hqueued
  · obtain ⟨row', hrow', hid', hover⟩ := overdue_of_mem_staleIds hids hmem
    rw [hrows] at hnew'
    obtain rfl := hs.consistent.row_unique hrow' hnew' (hid'.trans hid.symm)
    exact hlimits hover
  · rw [hrows] at hnew'
    exact hapart hj row.id hbot hold ⟨new', hnew', hid, hlive, hlimits⟩

theorem of_hostStep (hs : Separate cfg owner s) (h : HostStep cfg owner s s.clock e t)
    (hapart : s.KeepsApart cfg owner (s.clock, e)) : Separate cfg owner t := by
  have hconsistent := consistent_of_hostStep hs h
  refine ⟨hconsistent, exclusive_of_hostStep hs h, fun p => queued_of_hostStep hs h, ?_, ?_, ?_⟩
  · intro j ids hphase id hid
    obtain ⟨row, hrow, rfl, hterminal⟩ := retained_of_hostStep hs h hphase hid
    obtain ⟨new, hnew, hchange⟩ := hostRow_of_step hs h hrow
    refine ⟨new, hnew, hchange.id_eq, ?_⟩
    cases hchange with
    | kept => exact hterminal
    | settled new hid hterminal hstatus => rwa [hstatus]
    | written j now tr new hevent hwork hunlocked hid' hlegal =>
        exact absurd hterminal (CallStatus.not_terminal_of_legal hlegal)
    | polled j k diskOk new hevent hpoll =>
        obtain ⟨row', hrow', hid', hqueued⟩ := hs.queued _ hpoll
        obtain rfl := hs.consistent.row_unique hrow' hrow hid'
        rw [hqueued] at hterminal
        exact absurd hterminal (by decide)
  · intro id hid
    obtain ⟨row, hrow, rfl, hstarted⟩ := started_of_hostStep hs h hid
    obtain ⟨new, hnew, hchange⟩ := hostRow_of_step hs h hrow
    refine ⟨new, hnew, hchange.id_eq, ?_⟩
    cases hchange with
    | kept => exact hstarted
    | settled new hid hterminal hstatus => rwa [hstatus]
    | written j now tr new hevent hwork hunlocked hid' hlegal =>
        exact CallStatus.not_queued_of_legal hlegal
    | polled j k diskOk new hevent hpoll hid' hnew' => exact hnew'
  · intro id hsel hin
    rw [clock_of_hostStep h]
    exact spared_of_hostStep hs h hapart hsel hin

theorem step (s : HostState) (e : Timestamp × HostEvent) (t : HostState)
    (hs : Separate cfg owner s) (hapart : s.KeepsApart cfg owner e)
    (h : (hostSystem cfg owner).step s e = some t) : Separate cfg owner t := by
  change s.step cfg owner e = some t at h
  unfold HostState.step at h
  split_ifs at h with hclock
  exact (hs.tick hclock).of_hostStep (hostStep_of_act h) hapart

theorem spares_step (hs : Separate cfg owner s) (e : Timestamp × HostEvent) :
    s.Spares cfg owner e := by
  intro t h hactor id hin hlimits
  change s.step cfg owner e = some t at h
  unfold HostState.step at h
  split_ifs at h with hclock
  exact (hs.tick hclock).spares (hostStep_of_act h) hactor hin hlimits

end Separate

/-- In a run whose steps keep the instances apart, the second one harms no call of the first one. -/
theorem second_runner_spares (cfg : WorkerSettings) (owner : ℕ → Instance) {s : HostState}
    {es : List (Timestamp × HostEvent)} (hs : (hostSystem cfg owner).init s)
    (hapart : (hostSystem cfg owner).Meets (HostState.KeepsApart cfg owner) s es) :
    (hostSystem cfg owner).Meets (HostState.Spares cfg owner) s es :=
  TransitionSystem.meets_of_invariant Separate.step (fun _ e hs _ => hs.spares_step e)
    (Separate.of_init hs) hapart

/-! ## A second instance starts while a call is recorded -/

/-- Even tasks belong to `a`, odd ones to `b`. -/
def byParity (j : ℕ) : Instance := if j % 2 = 0 then .a else .b

def emptyHost : HostState where
  clock := 0
  worker := emptyWorker
  polls := []
  bots := []
  docker _ := none

theorem emptyHost_init (cfg : WorkerSettings) (owner : ℕ → Instance) :
    (hostSystem cfg owner).init emptyHost :=
  ⟨emptyWorker_init cfg, rfl, rfl, fun _ => rfl⟩

def joiningCall : List (Timestamp × HostEvent) :=
  [(0, .worker (.runner (.create sampleCreate 7 0))), (1, .select 0), (1, .finishPoll 0 2 true),
    (2, .worker (.runner (.start 2)))]

/-- The startup sweep of `b` cannot list the containers. Its loop sweeps, and claims another call. -/
def secondPolls : List (Timestamp × HostEvent) :=
  joiningCall ++ [(60, .orphanSweep 1 false), (60, .worker (.runner (.staleStart 1 60))),
    (60, .worker (.runner (.sweepEnd 1))), (61, .worker (.runner (.create sampleCreate 8 61))),
    (62, .select 1), (62, .finishPoll 1 3 true)]

theorem second_runner_spares_secondPolls :
    (hostSystem sampleWorker byParity).Meets (HostState.Spares sampleWorker byParity) emptyHost
        secondPolls ∧
      ((hostSystem sampleWorker byParity).run emptyHost secondPolls).map (fun t =>
        (t.bots, t.worker.runner.rows.map Call.status)) = some ([7], [.joining, .joining]) := by
  refine ⟨second_runner_spares sampleWorker byParity (emptyHost_init _ _) ?_, by decide +kernel⟩
  apply TransitionSystem.meets_of_forall
  intro e he s
  simp only [secondPolls, joiningCall, List.cons_append, List.nil_append, List.mem_cons,
    List.not_mem_nil, or_false] at he
  rcases he with rfl | rfl | rfl | rfl | rfl | rfl | rfl | rfl | rfl | rfl <;> trivial

/-- Call 7 is recorded, and the startup sweep of `b` has listed its container. -/
def listedCall : List (Timestamp × HostEvent) :=
  joiningCall ++ [(30, .worker (.runner (.signal 2))), (30, .worker (.runner (.transact 2 30))),
    (60, .orphanSweep 1 true)]

def secondStart : List (Timestamp × HostEvent) :=
  listedCall ++ [(60, .worker (.runner (.transact 1 60))), (60, .docker 1)]

theorem listedCall_isSome :
    ((hostSystem sampleWorker byParity).run emptyHost listedCall).isSome := by decide +kernel

def listedCallState : HostState :=
  ((hostSystem sampleWorker byParity).run emptyHost listedCall).get listedCall_isSome

/-- The second instance fails the call that the first one records. -/
theorem not_spares_secondStart :
    ¬ (hostSystem sampleWorker byParity).Meets (HostState.Spares sampleWorker byParity) emptyHost
      secondStart := by
  intro h
  have hrun : (hostSystem sampleWorker byParity).run emptyHost listedCall = some listedCallState :=
    (Option.some_get listedCall_isSome).symm
  obtain ⟨hspares, -⟩ := ((TransitionSystem.meets_append hrun).1 h).2
  obtain ⟨t, ht⟩ := Option.isSome_iff_exists.1 (by decide +kernel :
    ((hostSystem sampleWorker byParity).step listedCallState
      (60, .worker (.runner (.transact 1 60)))).isSome)
  have hfailed : ∃ row ∈ t.worker.runner.rows, row.id = 7 ∧ row.status = .failed := by
    have hrows : (((hostSystem sampleWorker byParity).step listedCallState
        (60, .worker (.runner (.transact 1 60)))).map fun t => t.worker.runner.rows.map fun row =>
          (row.id, row.status)) = some [(7, .failed)] := by decide +kernel
    rw [ht] at hrows
    have hfinal : t.worker.runner.rows.map (fun row => (row.id, row.status)) = [(7, .failed)] :=
      Option.some.inj hrows
    obtain ⟨row, hrow, heq⟩ := List.mem_map.1 (hfinal ▸ List.mem_singleton_self _)
    exact ⟨row, hrow, congrArg Prod.fst heq, congrArg Prod.snd heq⟩
  obtain ⟨row, hrow, hid, hstatus⟩ := hfailed
  have hlimits : listedCallState.WithinLimits sampleWorker 60 7 := by decide +kernel
  exact (hspares t ht (by decide) 7 ⟨2, by decide, .inl (by decide +kernel)⟩ hlimits).1 row hrow hid
    hstatus

end Notetaker

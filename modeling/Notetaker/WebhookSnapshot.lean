import Notetaker.WorkerSystem

/-!
# The audio URI in the webhook of a done call

A call is done from the commit of `_finish_done_call` on, and its payload is built later, by the same
task. A retention pass is global: when it lists the call in between, it may null `audio_url` before the
payload is built. Without such a listing the payload has the URI, since a pass works only on the calls
it has listed, and a call that has ended is never dispatched anew.
-/

open PythonText PythonFloat PythonUuid JsonText

namespace Notetaker

section DoneUrl

variable {cfg : WorkerSettings} {s t : WorkerState} {e : WorkerEvent}

theorem doneWrite_cases {s : RunnerState} {e : RunnerEvent} {id : Uuid} {audioUrl : Text}
    (h : s.doneWrite e = some (id, audioUrl)) :
    ∃ row, findRow s.rows id = some row ∧ ¬ row.status.Terminal := by
  cases e with
  | transact j now =>
      unfold RunnerState.doneWrite at h
      dsimp only at h
      split at h
      · split at h
        · rename_i row hrow
          split_ifs at h with hlegal
          cases h
          exact ⟨row, hrow, CallStatus.not_terminal_of_legal hlegal⟩
        · cases h
      · cases h
  | _ => cases h

theorem doneUrl_of_terminal (hs : Consistent s.runner) (h : (workerSystem cfg).step s e = some t)
    {row : Call} (hrow : row ∈ s.runner.rows) (hterminal : row.status.Terminal) :
    t.doneUrl row.id = s.doneUrl row.id := by
  cases e with
  | runner e =>
      obtain ⟨u, hu, rfl⟩ := Option.map_eq_some_iff.1 h
      cases hwrite : s.runner.doneWrite e with
      | none => rfl
      | some w =>
          obtain ⟨id, audioUrl⟩ := w
          obtain ⟨live, hlive, hstatus⟩ := doneWrite_cases hwrite
          obtain ⟨hmem, hid⟩ := findRow_mem hlive
          refine Function.update_of_ne ?_ _ _
          intro heq
          obtain rfl := hs.row_unique hmem hrow (hid.trans heq.symm)
          exact hstatus hterminal
  | deliver j receiver txNow now =>
      obtain ⟨id, next, -, rfl | ⟨row, new, -, -, -, -, -, rfl⟩⟩ := deliver_cases h
      · rfl
      · rfl

theorem doneUrl_of_finish {j : ℕ} {now : Timestamp} {id : Uuid} {endReason audioUrl : Text}
    {transcript : List SpeakerSegment} {row : Call}
    (h : (workerSystem cfg).step s (.runner (.transact j now)) = some t)
    (hwork : (s.runner.tasks j).work = some (id, .finishDoneCall endReason audioUrl transcript))
    (hrow : findRow s.runner.rows id = some row) (hlegal : CallStatus.Legal row.status .done) :
    t.doneUrl id = some audioUrl := by
  obtain ⟨u, hu, rfl⟩ := Option.map_eq_some_iff.1 h
  have hwrite : s.runner.doneWrite (.transact j now) = some (id, audioUrl) := by
    unfold RunnerState.doneWrite
    dsimp only
    rw [hwork]
    dsimp only
    rw [hrow]
    dsimp only
    rw [if_pos hlegal]
  rw [hwrite]
  exact Function.update_self id _ _

end DoneUrl

namespace Task

variable {task : Task}

theorem refused_ne_dispatching (id : Uuid) (next : Sweep) : task.refused ≠ dispatching id next := by
  rcases refused_cases task with h | ⟨_, h⟩ | ⟨_, h⟩ <;> rw [h] <;> exact nofun

theorem missing_ne_dispatching (id : Uuid) (next : Sweep) : task.missing ≠ dispatching id next := by
  rcases missing_cases task with h | ⟨_, h⟩ <;> rw [h] <;> exact nofun

theorem Follows.ne_dispatching {cfg : RunnerSettings} {new : Task} (h : Follows cfg task new)
    (id : Uuid) (next : Sweep) : new ≠ dispatching id next := by
  rintro rfl
  cases h

end Task

def WebhookPending (s : WorkerState) (id : Uuid) : Prop :=
  ∃ k next, s.runner.tasks k = .dispatching id next

/-- A retention pass lists no done call whose webhook is pending. -/
def ListsNoPending (cfg : WorkerSettings) (s : WorkerState) : WorkerEvent → Prop
  | .runner (.retentionStart _ now) => ∀ row ∈ s.runner.rows, row.status = .done →
      WebhookPending s row.id → row.id ∉ (expiredIds cfg.runner now s.runner.rows).getD []
  | _ => True

/-- The row still has the URI that `done` wrote. -/
def NamesDoneUrl (s : WorkerState) (id : Uuid) (audioUrl : Option Text) : Prop :=
  audioUrl ≠ none ∧ audioUrl = s.doneUrl id

structure SnapshotKept (s : WorkerState) : Prop where
  consistent : Consistent s.runner
  pending : ∀ id, WebhookPending s id → ∃ row ∈ s.runner.rows, row.id = id ∧
    row.status.Terminal ∧ (row.status = .done → NamesDoneUrl s id row.audioUrl)
  listed : ∀ j ids, s.runner.tasks j = .retaining ids → ∀ id ∈ ids, ∃ row ∈ s.runner.rows,
    row.id = id ∧ row.status.Terminal ∧ (row.status = .done → ¬ WebhookPending s id)
  payloads : ∀ p ∈ s.payloads, (∃ row ∈ s.runner.rows, row.id = p.1 ∧ row.status.Terminal) ∧
    (p.2.status = .done → NamesDoneUrl s p.1 p.2.audioUrl)

namespace SnapshotKept

variable {cfg : WorkerSettings} {s t : WorkerState} {e : WorkerEvent}

theorem of_init (h : (workerSystem cfg).init s) : SnapshotKept s := by
  obtain ⟨hrunner, -, hpayloads⟩ := h
  obtain ⟨-, htasks, -⟩ := id hrunner
  refine ⟨.of_init hrunner, ?_, ?_, ?_⟩
  · rintro id ⟨k, next, hphase⟩
    rw [htasks k] at hphase
    cases hphase
  · intro j ids hphase
    rw [htasks j] at hphase
    cases hphase
  · rw [hpayloads]
    intro p hp
    cases hp

theorem pending_of_step (h : (workerSystem cfg).step s e = some t) {id : Uuid}
    (hpending : WebhookPending t id) :
    WebhookPending s id ∨ ∃ old ∈ s.runner.rows, old.id = id ∧ ¬ old.status.Terminal ∧
      ∃ new ∈ t.runner.rows, new.id = id ∧ new.status.Terminal ∧
        (new.status = .done → NamesDoneUrl t id new.audioUrl) := by
  obtain ⟨k, next, hphase⟩ := hpending
  have hmove := taskMove_of_worker_step h k
  rw [hphase] at hmove
  generalize htask : Task.dispatching id next = task at hmove
  cases hmove with
  | kept => exact .inl ⟨k, next, htask.symm⟩
  | refusedClaim row new hrow hqueued hnew hid hfailed =>
      cases htask
      refine .inr ⟨row, hrow, rfl, by rw [hqueued]; decide, new, hnew, hid, ?_, ?_⟩
      · rw [hfailed]
        decide
      · intro hdone
        rw [hfailed] at hdone
        cases hdone
  | follows task hmove => exact absurd htask.symm (hmove.ne_dispatching _ _)
  | committed now id' tr row todo hevent hwork hrow hbody hnew =>
      obtain ⟨hmem, hid⟩ := findRow_mem hrow
      have hlegal := (Transition.body_eq_some hbody).1
      have howes : ((s.runner.tasks k).committed row).owes = some id := by
        rw [← htask]
        rfl
      rcases Task.committed_cases cfg.runner.callConcurrencyLimit row hwork with
        ⟨hterminal, -, howes'⟩ | ⟨-, -, -, howes', -⟩
      · rw [howes'] at howes
        cases howes
        refine .inr ⟨row, hmem, hid, CallStatus.not_terminal_of_legal hlegal, _, hnew,
          (id_applyStatements row todo).trans hid, ?_, ?_⟩
        · rw [Transition.status_of_body hbody]
          exact hterminal
        · intro hdone
          have hwritten := Transition.written hbody
          have hnamed : ∀ new, Written row now tr new → new.status = .done →
              NamesDoneUrl t id new.audioUrl := by
            intro new hwritten hnewDone
            cases hwritten with
            | done endReason audioUrl transcript hstatus =>
                have hstep : e = .runner (.transact k now) := by
                  cases e with
                  | runner e => exact congrArg WorkerEvent.runner hevent
                  | deliver => cases hevent
                subst hstep
                have hurl := doneUrl_of_finish h hwork hrow (by rw [hstatus]; decide)
                exact ⟨Option.some_ne_none _, hurl.symm⟩
            | _ => cases hnewDone
          exact hnamed _ hwritten hdone
      · rw [howes'] at howes
        cases howes
  | refused => exact absurd htask.symm (Task.refused_ne_dispatching _ _)
  | missing => exact absurd htask.symm (Task.missing_ne_dispatching _ _)
  | dispatched id' next' hphase' => cases next' <;> cases htask
  | _ => cases htask

theorem settled_of_step (hs : SnapshotKept s) (h : (workerSystem cfg).step s e = some t) {row : Call}
    (hrow : row ∈ s.runner.rows) (hterminal : row.status.Terminal)
    (hsettled : row.status = .done → ¬ WebhookPending s row.id) :
    ∃ new ∈ t.runner.rows, new.id = row.id ∧ new.status.Terminal ∧
      (new.status = .done → ¬ WebhookPending t row.id) := by
  obtain ⟨new, hnew, hid, hstatus, -⟩ := terminal_row_of_step hs.consistent h hrow hterminal
  refine ⟨new, hnew, hid, by rwa [hstatus], fun hdone hpending => ?_⟩
  rcases pending_of_step h hpending with hold | ⟨old, hold, holdId, hlive, -⟩
  · exact hsettled (by rwa [hstatus] at hdone) hold
  · obtain rfl := hs.consistent.row_unique hold hrow holdId
    exact hlive hterminal

theorem payloads_of_step (h : (workerSystem cfg).step s e = some t) :
    t.payloads = s.payloads ∨ ∃ row ∈ s.runner.rows, WebhookPending s row.id ∧
      t.payloads = (row.id, buildPayload row) :: s.payloads := by
  cases e with
  | runner e =>
      obtain ⟨u, hu, rfl⟩ := Option.map_eq_some_iff.1 h
      exact .inl (payloads_recordDone _ _)
  | deliver j receiver txNow now =>
      obtain ⟨id, next, hphase, rfl | ⟨row, new, hmem, rfl, -, -, -, rfl⟩⟩ := deliver_cases h
      · exact .inl rfl
      · exact .inr ⟨row, hmem, ⟨j, next, hphase⟩, rfl⟩

theorem step (s : WorkerState) (e : WorkerEvent) (t : WorkerState) (hs : SnapshotKept s)
    (hlists : ListsNoPending cfg s e) (h : (workerSystem cfg).step s e = some t) :
    SnapshotKept t := by
  have hdoneUrl : ∀ row ∈ s.runner.rows, row.status.Terminal → ∀ audioUrl,
      NamesDoneUrl s row.id audioUrl → NamesDoneUrl t row.id audioUrl := by
    intro row hrow hterminal audioUrl hnamed
    rwa [NamesDoneUrl, doneUrl_of_terminal hs.consistent h hrow hterminal]
  refine ⟨consistent_worker_step s e t hs.consistent h, ?_, ?_, ?_⟩
  · intro id hpending
    rcases pending_of_step h hpending with hold | ⟨-, -, -, -, new, hnew, hid, hended⟩
    · obtain ⟨row, hrow, rfl, hterminal, hnamed⟩ := hs.pending id hold
      obtain ⟨new, hnew, hid, hstatus, haudio⟩ :=
        terminal_row_of_step hs.consistent h hrow hterminal
      refine ⟨new, hnew, hid, by rwa [hstatus], fun hdone => ?_⟩
      rw [hstatus] at hdone
      rcases haudio with hsame | ⟨j, ids, now, -, hphase⟩
      · rw [hsame]
        exact hdoneUrl row hrow hterminal _ (hnamed hdone)
      · -- A pass that reclaims the call has listed it.
        exfalso
        obtain ⟨row', hrow', hid', -, hsettled⟩ :=
          hs.listed j _ hphase row.id List.mem_cons_self
        obtain rfl := hs.consistent.row_unique hrow' hrow hid'
        exact hsettled hdone hold
    · exact ⟨new, hnew, hid, hended⟩
  · intro j ids hphase id hid
    have hold : ∃ row ∈ s.runner.rows, row.id = id ∧ row.status.Terminal ∧
        (row.status = .done → ¬ WebhookPending s row.id) := by
      have hmove := taskMove_of_worker_step h j
      rw [hphase] at hmove
      rcases Task.listed_of_move hmove hid with ⟨ids', hphase', hmem⟩ | ⟨now, ids', hevent, hids, hmem⟩
      · obtain ⟨row, hrow, rfl, hrest⟩ := hs.listed j ids' hphase' id hmem
        exact ⟨row, hrow, rfl, hrest⟩
      · have hstep : e = .runner (.retentionStart j now) := by
          cases e with
          | runner e => exact congrArg WorkerEvent.runner hevent
          | deliver => cases hevent
        subst hstep
        obtain ⟨row, hrow, rfl, hterminal, -⟩ := mem_expiredIds hids hmem
        refine ⟨row, hrow, rfl, hterminal, fun hdone hpending => hlists row hrow hdone hpending ?_⟩
        rw [hids]
        exact hmem
    obtain ⟨row, hrow, rfl, hterminal, hsettled⟩ := hold
    exact settled_of_step hs h hrow hterminal hsettled
  · have hkept : ∀ p ∈ s.payloads, (∃ row ∈ t.runner.rows, row.id = p.1 ∧ row.status.Terminal) ∧
        (p.2.status = .done → NamesDoneUrl t p.1 p.2.audioUrl) := by
      intro p hp
      obtain ⟨⟨row, hrow, hid, hterminal⟩, hnamed⟩ := hs.payloads p hp
      obtain ⟨new, hnew, hnewId, hstatus, -⟩ :=
        terminal_row_of_step hs.consistent h hrow hterminal
      refine ⟨⟨new, hnew, hnewId.trans hid, by rwa [hstatus]⟩, fun hdone => ?_⟩
      have hnamed := hnamed hdone
      rw [← hid] at hnamed ⊢
      exact hdoneUrl row hrow hterminal _ hnamed
    rcases payloads_of_step h with hsame | ⟨row, hrow, hpending, hsent⟩
    · rw [hsame]
      exact hkept
    · rw [hsent]
      refine List.forall_mem_cons.2 ⟨?_, hkept⟩
      obtain ⟨row', hrow', hid, hterminal, hnamed⟩ := hs.pending row.id hpending
      obtain rfl := hs.consistent.row_unique hrow' hrow hid
      obtain ⟨new, hnew, hnewId, hstatus, -⟩ :=
        terminal_row_of_step hs.consistent h hrow hterminal
      exact ⟨⟨new, hnew, hnewId, by rwa [hstatus]⟩,
        fun hdone => hdoneUrl row' hrow hterminal _ (hnamed hdone)⟩

end SnapshotKept

/-- In a run in which no retention pass lists a done call before its webhook, every payload of a done
call has the `audio_url` that its transition wrote. -/
theorem payload_namesDoneUrl (cfg : WorkerSettings) {s t : WorkerState} {es : List WorkerEvent}
    (hinit : (workerSystem cfg).init s) (hlists : (workerSystem cfg).Meets (ListsNoPending cfg) s es)
    (hrun : (workerSystem cfg).run s es = some t) :
    ∀ p ∈ t.payloads, p.2.status = .done → NamesDoneUrl t p.1 p.2.audioUrl := fun p hp =>
  ((TransitionSystem.run_invariant_of_meets SnapshotKept.step (.of_init hinit) hlists
    hrun).payloads p hp).2

theorem payload_namesDoneUrl_deliveredCall :
    deliveredCallState.payloads ≠ [] ∧ ∀ p ∈ deliveredCallState.payloads, p.2.status = .done →
      NamesDoneUrl deliveredCallState p.1 p.2.audioUrl := by
  have hsent : deliveredCallState.payloads.isEmpty = false := by decide +kernel
  refine ⟨by simpa using hsent, ?_⟩
  refine payload_namesDoneUrl sampleWorker (emptyWorker_init sampleWorker) ?_
    (Option.some_get deliveredCall_isSome).symm
  apply TransitionSystem.meets_of_forall
  intro e he s
  simp only [deliveredCall, finishedCall, List.mem_append, List.mem_cons, List.not_mem_nil,
    or_false] at he
  rcases he with (rfl | rfl | rfl | rfl | rfl | rfl | rfl | rfl | rfl | rfl | rfl) | rfl <;> trivial

/-- A periodic pass lists and reclaims the done call before its webhook. -/
def passBeforeWebhook : List WorkerEvent :=
  finishedCall ++ [.runner (.retentionStart 2 701), .runner (.retentionRow 2 (.reclaimed 702)),
    .deliver 1 (answersAtOnce 200) 703 703]

theorem passBeforeWebhook_isSome :
    ((workerSystem sampleWorker).run emptyWorker passBeforeWebhook).isSome := by decide +kernel

theorem not_namesDoneUrl_passBeforeWebhook :
    ¬ ∀ (cfg : WorkerSettings) (s t : WorkerState) (es : List WorkerEvent),
      (workerSystem cfg).init s → (workerSystem cfg).run s es = some t →
        ∀ p ∈ t.payloads, p.2.status = .done → NamesDoneUrl t p.1 p.2.audioUrl := by
  intro hnamed
  have hlost : ∃ p ∈ (((workerSystem sampleWorker).run emptyWorker passBeforeWebhook).get
      passBeforeWebhook_isSome).payloads, p.2.status = .done ∧ p.2.audioUrl = none := by
    decide +kernel
  obtain ⟨p, hp, hdone, hnone⟩ := hlost
  exact (hnamed sampleWorker emptyWorker _ passBeforeWebhook (emptyWorker_init sampleWorker)
    (Option.some_get passBeforeWebhook_isSome).symm p hp hdone).1 hnone

end Notetaker

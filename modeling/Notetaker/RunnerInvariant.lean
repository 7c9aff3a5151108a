import Mathlib.Data.List.Nodup
import Notetaker.AdmissionSafety
import Notetaker.RunnerTasks

/-!
# Who drives a call

At most one task drives a call, and the row of a driven call is either terminal or in a status that
the driver's position expects. `Consistent` says so of a state; every step of the runner keeps it, a
crash included.
-/

open PythonText PythonFloat PythonUuid JsonText

namespace Notetaker

namespace Task

def driven : Task → Option Uuid
  | claimed id | running id _ | signalling id | exited id _ _ | uploading id _ | uploadFailed id
  | sourcing id _ _ | transcribing id _ _ | transcriptionFailed id _ _ | finishing id _ _ _ => some id
  | _ => none

/-- The statuses of the driven row if nobody has ended the call. -/
def expects : Task → List CallStatus
  | claimed _ | running _ false | signalling _ => [.joining]
  | running _ true => [.recording]
  | exited _ _ _ => [.joining, .recording]
  | _ => [.processing]

theorem queued_notMem_expects (task : Task) : .queued ∉ task.expects := by
  cases task with
  | running id signalled => cases signalled <;> simp [expects]
  | _ => simp [expects]

def owes : Task → Option Uuid
  | dispatching id _ => some id
  | _ => none

def sweepIds : Task → List Uuid
  | dispatching _ (.stale ids) | sweeping (.stale ids) => ids
  | _ => []

/-- The calls on which the task may yet raise `ConflictError`. -/
def contested (task : Task) : List Uuid := task.driven.toList ++ task.sweepIds

/-- The object URI the driver has got from the upload. -/
def uploaded : Task → Option Text
  | sourcing _ _ audioUrl | transcribing _ _ audioUrl | transcriptionFailed _ _ audioUrl
  | finishing _ _ audioUrl _ => some audioUrl
  | _ => none

/-- A task moves on without a transaction: it may drop its call or keep it. -/
structure QuietMove (old new : Task) : Prop where
  owes_old : old.owes = none
  owes_new : new.owes = none
  driven : ∀ id, new.driven = some id →
    old.driven = some id ∧ old.expects ⊆ new.expects ∧ new.uploaded = old.uploaded
  contested : new.contested.Sublist old.contested

theorem quietMove_idle {old : Task} (h : old.owes = none) : QuietMove old idle :=
  ⟨h, rfl, fun _ h => (by cases h), List.nil_sublist _⟩

theorem quietMove_driven {old new : Task} {id : Uuid} (hold : old.driven = some id)
    (hnew : new.driven = some id) (howes : old.owes = none) (howes' : new.owes = none)
    (hexpects : old.expects ⊆ new.expects) (huploaded : new.uploaded = old.uploaded)
    (hsweep : new.sweepIds = []) : QuietMove old new := by
  refine ⟨howes, howes', fun id' h => ?_, ?_⟩
  · rw [hnew] at h
    cases h
    exact ⟨hold, hexpects, huploaded⟩
  · rw [Task.contested, Task.contested, hold, hnew, hsweep]
    exact List.sublist_append_left _ _

theorem quietMove_missing {task : Task} (h : task.work ≠ none) : QuietMove task task.missing := by
  cases task with
  | sweeping next =>
      cases next with
      | finished => exact absurd rfl h
      | stale ids => exact quietMove_idle rfl
      | orphan ids =>
          cases ids with
          | nil => exact absurd rfl h
          | cons id ids => exact ⟨rfl, rfl, fun _ h => (by cases h), List.Sublist.refl _⟩
  | dispatching => exact absurd rfl h
  | _ => exact quietMove_idle rfl

theorem work_cases {task : Task} {id : Uuid} {tr : Transition} (h : task.work = some (id, tr)) :
    task.driven = some id ∨ (∃ ids, task = sweeping (.stale (id :: ids)) ∧ tr = .staleSweep) ∨
      ∃ ids, task = sweeping (.orphan (id :: ids)) ∧ tr = .orphanSweep := by
  cases task with
  | sweeping next =>
      cases next with
      | finished => cases h
      | stale ids =>
          cases ids with
          | nil => cases h
          | cons id' ids =>
              cases h
              exact Or.inr (Or.inl ⟨ids, rfl, rfl⟩)
      | orphan ids =>
          cases ids with
          | nil => cases h
          | cons id' ids =>
              cases h
              exact Or.inr (Or.inr ⟨ids, rfl, rfl⟩)
  | signalling => cases h; exact Or.inl rfl
  | exited => cases h; exact Or.inl rfl
  | uploadFailed => cases h; exact Or.inl rfl
  | transcriptionFailed => cases h; exact Or.inl rfl
  | finishing => cases h; exact Or.inl rfl
  | _ => cases h

theorem committed_cases {task : Task} {id : Uuid} {tr : Transition} (limit : ℤ) (row : Call)
    (h : task.work = some (id, tr)) :
    ((tr.target limit row).Terminal ∧ (task.committed row).driven = none ∧
      (task.committed row).owes = some id) ∨
    (¬ (tr.target limit row).Terminal ∧ task.driven = some id ∧
      (task.committed row).driven = some id ∧ (task.committed row).owes = none ∧
      tr.target limit row ∈ (task.committed row).expects) := by
  cases task with
  | sweeping next =>
      cases next with
      | finished => cases h
      | stale ids => cases ids <;> cases h; exact Or.inl ⟨CallStatus.terminal_failed, rfl, rfl⟩
      | orphan ids => cases ids <;> cases h; exact Or.inl ⟨CallStatus.terminal_failed, rfl, rfl⟩
  | signalling =>
      cases h
      exact Or.inr ⟨CallStatus.not_terminal_recording, rfl, rfl, rfl, List.mem_singleton_self _⟩
  | exited id exitCode result =>
      cases h
      simp only [Transition.target, committed]
      split_ifs
      · exact Or.inr ⟨by decide, rfl, rfl, rfl, List.mem_singleton_self _⟩
      · exact Or.inl ⟨by decide, rfl, rfl⟩
  | uploadFailed => cases h; exact Or.inl ⟨CallStatus.terminal_failed, rfl, rfl⟩
  | transcriptionFailed => cases h; exact Or.inl ⟨CallStatus.terminal_failed, rfl, rfl⟩
  | finishing => cases h; exact Or.inl ⟨CallStatus.terminal_done, rfl, rfl⟩
  | _ => cases h

theorem terminal_of_refused {task : Task} {id : Uuid} {tr : Transition} {limit : ℤ} {row : Call}
    (h : task.work = some (id, tr)) (hdriven : task.driven = some id)
    (hstatus : row.status.Terminal ∨ row.status ∈ task.expects)
    (hrefused : ¬ CallStatus.Legal row.status (tr.target limit row)) : row.status.Terminal := by
  rcases hstatus with hterminal | hexpected
  · exact hterminal
  · exfalso
    apply hrefused
    cases task with
    | sweeping => cases hdriven
    | signalling =>
        cases h
        rw [List.mem_singleton.1 hexpected]
        exact List.mem_cons_self
    | exited id exitCode result =>
        cases h
        simp only [Transition.target]
        split_ifs with hpipeline
        · rw [recording_of_entersPipeline hpipeline]
          decide
        · rcases List.mem_cons.1 hexpected with hjoining | hrecording
          · rw [hjoining]
            decide
          · rw [List.mem_singleton.1 hrecording]
            decide
    | uploadFailed => cases h; rw [List.mem_singleton.1 hexpected]; exact CallStatus.legal_processing_failed
    | transcriptionFailed => cases h; rw [List.mem_singleton.1 hexpected]; exact CallStatus.legal_processing_failed
    | finishing => cases h; rw [List.mem_singleton.1 hexpected]; exact CallStatus.legal_processing_done
    | _ => cases h

end Task

/-! ## What a step can do -/

/-- The effects of the runner's events, one constructor for each kind. -/
inductive Effect (cfg : RunnerSettings) (s : RunnerState) : RunnerEvent → RunnerState → Prop where
  | unchanged (e : RunnerEvent) : Effect cfg s e s
  | quiet (e : RunnerEvent) (j : ℕ) (task : Task) (hmove : Task.QuietMove (s.tasks j) task) :
      Effect cfg s e (s.setTask j task)
  | create (data : CallCreate) (id : Uuid) (now : Timestamp) (row : Call)
      (hfresh : ∀ c ∈ s.rows, c.id ≠ row.id) (hqueued : row.status = .queued) :
      Effect cfg s (.create data id now) { s with rows := s.rows ++ [row] }
  | claim (j k : ℕ) (diskOk : Bool) (now : Timestamp) (row new : Call) (hidle : s.tasks k = .idle)
      (hrow : row ∈ s.rows) (hqueued : row.status = .queued) (hid : new.id = row.id)
      (hnew : new.status = .joining) :
      Effect cfg s (.poll j k diskOk now)
        ({ s with rows := modifyRow s.rows row.id fun _ => new }.setTask k (.claimed row.id))
  | refuse (j k : ℕ) (diskOk : Bool) (now : Timestamp) (row new : Call) (hidle : s.tasks j = .idle)
      (hrow : row ∈ s.rows) (hqueued : row.status = .queued) (hid : new.id = row.id)
      (hnew : new.status = .failed) :
      Effect cfg s (.poll j k diskOk now)
        (({ s with rows := modifyRow s.rows row.id fun _ => new }.setTask j
          (.dispatching row.id .finished)).recordWinner row.id .failed j)
  | commit (j : ℕ) (now : Timestamp) (id : Uuid) (tr : Transition) (row : Call)
      (todo : List Statement) (hwork : (s.tasks j).work = some (id, tr)) (hrow : row ∈ s.rows)
      (hid : row.id = id) (hbody : tr.body cfg.callConcurrencyLimit now row = some todo) :
      Effect cfg s (.transact j now)
        (({ s with rows := modifyRow s.rows id fun _ => applyStatements row todo }.setTask j
          ((s.tasks j).committed row)).recordWinner id (applyStatements row todo).status j)
  | refused (j : ℕ) (now : Timestamp) (id : Uuid) (tr : Transition) (row : Call)
      (conflicts : List (Uuid × ℕ)) (hwork : (s.tasks j).work = some (id, tr))
      (hrow : row ∈ s.rows) (hid : row.id = id)
      (hillegal : ¬ CallStatus.Legal row.status (tr.target cfg.callConcurrencyLimit row))
      (hconflicts : conflicts = s.conflicts ∨
        (tr.returnsEarly row = false ∧ conflicts = (id, j) :: s.conflicts)) :
      Effect cfg s (.transact j now)
        { s.setTask j (s.tasks j).refused with conflicts := conflicts }
  | upload (k : ℕ) (id : Uuid) (endReason : Text) (hphase : s.tasks k = .uploading id endReason) :
      Effect cfg s (.upload k true)
        { s.setTask k (.sourcing id endReason (cfg.storage.objectUri id)) with
          stored := Function.update s.stored id true }
  | dispatch (j : ℕ) (id : Uuid) (next : Sweep) (hphase : s.tasks j = .dispatching id next) :
      Effect cfg s (.dispatch j)
        { s.setTask j (Task.afterDispatch next) with dispatched := (id, j) :: s.dispatched }
  | list (e : RunnerEvent) (j : ℕ) (task : Task) (hidle : s.tasks j = .idle)
      (hdriven : task.driven = none) (howes : task.owes = none)
      (hlive : ∀ id ∈ task.contested, ∃ row ∈ s.rows, row.id = id ∧ ¬ row.status.Terminal)
      (hnodup : (s.rows.map Call.id).Nodup → task.contested.Nodup) :
      Effect cfg s e (s.setTask j task)
  | delete (j : ℕ) (outcome : RetentionOutcome) (id : Uuid) (task : Task) (f : Call → Call)
      (hmove : Task.QuietMove (s.tasks j) task)
      (hf : ∀ row, (f row).id = row.id ∧ (f row).status = row.status) :
      Effect cfg s (.retentionRow j outcome)
        { s.setTask j task with
          stored := Function.update s.stored id false
          rows := modifyRow s.rows id f }
  | crash : Effect cfg s .crash { s with tasks := fun _ => .idle }

theorem oldest_queued {rows : List Call} {row : Call}
    (h : oldest (rows.filter fun row => row.status = .queued) = some row) :
    row ∈ rows ∧ row.status = .queued := by
  obtain ⟨hmem, hqueued⟩ := List.mem_filter.1 (oldest_mem h)
  exact ⟨hmem, of_decide_eq_true hqueued⟩

section Steps

variable {cfg : RunnerSettings} {s t : RunnerState}

theorem effect_of_create {data : CallCreate} {id : Uuid} {now : Timestamp}
    (h : s.create cfg data id now = some t) : Effect cfg s (.create data id now) t := by
  unfold RunnerState.create at h
  cases hrow : findRow s.rows id with
  | some row => simp [hrow] at h
  | none =>
      cases hcreate : CallService.create cfg.callConcurrencyLimit (countActive s.rows) data id now with
      | error e =>
          simp only [hrow, hcreate, Option.some.injEq] at h
          exact h ▸ .unchanged _
      | ok row =>
          simp only [hrow, hcreate, Option.some.injEq] at h
          obtain ⟨hid, hqueued⟩ := AdmissionState.queued_of_create hcreate
          exact h ▸ .create data id now row (hid ▸ findRow_eq_none hrow) hqueued

theorem effect_of_poll {j k : ℕ} {diskOk : Bool} {now : Timestamp}
    (h : s.poll cfg j k diskOk now = some t) : Effect cfg s (.poll j k diskOk now) t := by
  unfold RunnerState.poll at h
  split at h
  · rename_i row hidle hold
    obtain ⟨hrow, hqueued⟩ := oldest_queued hold
    split at h
    · rename_i payload hpayload
      have hstatus := AdmissionState.status_of_pollPayload hpayload row now
      have hid : (row.update payload now).id = row.id := Call.id_updateRow row row payload now
      by_cases hadmits : admits cfg.callConcurrencyLimit (countActive s.rows) diskOk
      · rw [Transition.target, if_pos hadmits] at hstatus
        rw [if_pos hadmits] at h
        split at h
        · rename_i hidle'
          split_ifs at h
          cases h
          exact .claim j k diskOk now row _ hidle' hrow hqueued hid hstatus
        · cases h
      · rw [Transition.target, if_neg hadmits] at hstatus
        rw [if_neg hadmits] at h
        cases h
        exact .refuse j k diskOk now row _ hidle hrow hqueued hid hstatus
    · cases h
      exact .unchanged _
  · cases h
    exact .unchanged _
  · cases h

theorem effect_of_transact {j : ℕ} {now : Timestamp} (h : s.transact cfg j now = some t) :
    Effect cfg s (.transact j now) t := by
  unfold RunnerState.transact at h
  split at h
  · cases h
  · rename_i id tr hwork
    split at h
    · cases h
      exact .quiet _ j _ (Task.quietMove_missing (by rw [hwork]; exact Option.some_ne_none _))
    · rename_i row hfind
      obtain ⟨hrow, hid⟩ := findRow_mem hfind
      split at h
      · rename_i todo hbody
        cases h
        exact .commit j now id tr row todo hwork hrow hid hbody
      · rename_i hbody
        have hillegal := Transition.body_eq_none_iff.1 hbody
        split_ifs at h with hearly <;> cases h
        · exact .refused j now id tr row s.conflicts hwork hrow hid hillegal (Or.inl rfl)
        · exact .refused j now id tr row _ hwork hrow hid hillegal
            (Or.inr ⟨by simpa using hearly, rfl⟩)

theorem effect_of_retentionRow {j : ℕ} {outcome : RetentionOutcome}
    (h : s.retentionRow j outcome = some t) : Effect cfg s (.retentionRow j outcome) t := by
  unfold RunnerState.retentionRow at h
  split at h
  · rename_i id ids hphase
    have hmove : Task.QuietMove (s.tasks j) (.retaining ids) := by
      rw [hphase]
      exact ⟨rfl, rfl, fun _ h => (by cases h), List.Sublist.refl _⟩
    cases outcome with
    | skipped =>
        cases h
        exact .quiet _ j _ hmove
    | deleted =>
        cases h
        have heffect : Effect cfg s _ _ :=
          .delete j .deleted id _ (fun row => row) hmove fun _ => ⟨rfl, rfl⟩
        rw [AdmissionState.modifyRow_id] at heffect
        exact heffect
    | reclaimed now =>
        cases h
        exact .delete j _ id _ _ hmove fun _ => ⟨rfl, rfl⟩
  · cases h

theorem Effect.drive {e : RunnerEvent} {k : ℕ} {id : Uuid} {task : Task}
    (hold : (s.tasks k).driven = some id) (hnew : task.driven = some id)
    (howes : (s.tasks k).owes = none) (howes' : task.owes = none)
    (hexpects : (s.tasks k).expects ⊆ task.expects)
    (huploaded : task.uploaded = (s.tasks k).uploaded) (hsweep : task.sweepIds = []) :
    Effect cfg s e (s.setTask k task) :=
  .quiet e k task (Task.quietMove_driven hold hnew howes howes' hexpects huploaded hsweep)

theorem Effect.stop {e : RunnerEvent} {k : ℕ} (howes : (s.tasks k).owes = none) :
    Effect cfg s e (s.setTask k .idle) := .quiet e k .idle (Task.quietMove_idle howes)

/-- An exception leaves its task idle; no webhook was on the way. -/
theorem fault_cases {k : ℕ} (h : s.step cfg (.fault k) = some t) :
    t = s.setTask k .idle ∧ (s.tasks k).owes = none := by
  unfold RunnerState.step at h
  dsimp only at h
  split at h <;> cases h <;> exact ⟨rfl, by simp only [*]; rfl⟩

theorem effect_of_step {e : RunnerEvent} (h : (runnerSystem cfg).step s e = some t) :
    Effect cfg s e t := by
  change s.step cfg e = some t at h
  cases e with
  | create data id now => exact effect_of_create h
  | poll j k diskOk now => exact effect_of_poll h
  | transact j now => exact effect_of_transact h
  | retentionRow j outcome => exact effect_of_retentionRow h
  | crash =>
      cases h
      exact .crash
  | start k =>
      cases hk : s.tasks k <;> simp only [RunnerState.step, hk] at h <;> try cases h
      rename_i id
      have howes : (s.tasks k).owes = none := by rw [hk]; rfl
      cases hrow : findRow s.rows id with
      | none =>
          simp only [hrow, Option.some.injEq] at h
          exact h ▸ .stop howes
      | some row =>
          simp only [hrow, Option.some.injEq] at h
          subst h
          split_ifs
          · exact .drive (by rw [hk]; rfl) rfl howes rfl (by rw [hk]; exact List.Subset.refl _)
              (by rw [hk]; rfl) rfl
          · exact .stop howes
  | signal k =>
      cases hk : s.tasks k <;> simp only [RunnerState.step, hk] at h <;> try cases h
      rename_i id signalled
      cases signalled <;> cases h
      exact .drive (by rw [hk]; rfl) rfl (by rw [hk]; rfl) rfl (by rw [hk]; exact List.Subset.refl _)
        (by rw [hk]; rfl) rfl
  | exit k exitCode result =>
      cases hk : s.tasks k <;> simp only [RunnerState.step, hk] at h <;> cases h
      rename_i id signalled
      refine .drive (by rw [hk]; rfl) rfl (by rw [hk]; rfl) rfl ?_ (by rw [hk]; rfl) rfl
      rw [hk]
      cases signalled <;> simp [Task.expects]
  | upload k succeeds =>
      cases hk : s.tasks k <;> simp only [RunnerState.step, hk] at h <;> try cases h
      rename_i id endReason
      cases succeeds <;> cases h
      · exact .drive (by rw [hk]; rfl) rfl (by rw [hk]; rfl) rfl
          (by rw [hk]; exact List.Subset.refl _) (by rw [hk]; rfl) rfl
      · exact .upload k id endReason hk
  | source k outcome =>
      cases hk : s.tasks k <;> simp only [RunnerState.step, hk] at h <;> try cases h
      cases outcome <;> cases h <;>
        exact .drive (by rw [hk]; rfl) rfl (by rw [hk]; rfl) rfl
          (by rw [hk]; exact List.Subset.refl _) (by rw [hk]; rfl) rfl
  | transcribe k outcome =>
      cases hk : s.tasks k <;> simp only [RunnerState.step, hk] at h <;> try cases h
      cases outcome <;> cases h <;>
        exact .drive (by rw [hk]; rfl) rfl (by rw [hk]; rfl) rfl
          (by rw [hk]; exact List.Subset.refl _) (by rw [hk]; rfl) rfl
  | fault k =>
      obtain ⟨rfl, howes⟩ := fault_cases h
      exact .stop howes
  | dispatch j =>
      cases hj : s.tasks j <;> simp only [RunnerState.step, hj] at h <;> cases h
      exact .dispatch j _ _ hj
  | staleStart j now =>
      cases hj : s.tasks j <;> simp only [RunnerState.step, hj] at h <;> cases h
      refine .list _ j _ hj rfl rfl ?_ ?_
      · intro id hid
        change id ∈ (staleIds cfg now s.rows).getD [] at hid
        cases hids : staleIds cfg now s.rows with
        | none => simp [hids] at hid
        | some ids =>
            rw [hids] at hid
            exact mem_staleIds hids hid
      · intro hnodup
        change ((staleIds cfg now s.rows).getD []).Nodup
        cases hids : staleIds cfg now s.rows with
        | none => exact List.nodup_nil
        | some ids => exact staleIds_nodup hids hnodup
  | orphanStart j stdout =>
      cases hj : s.tasks j <;> simp only [RunnerState.step, hj] at h <;> cases h
      exact .list _ j _ hj rfl rfl (fun _ hid => absurd hid List.not_mem_nil) fun _ => List.nodup_nil
  | sweepEnd j =>
      cases hj : s.tasks j with
      | sweeping next =>
          have hidle : t = s.setTask j .idle := by
            cases next with
            | finished => simpa [RunnerState.step, hj, eq_comm] using h
            | stale ids => cases ids <;> simp_all [RunnerState.step]
            | orphan ids => cases ids <;> simp_all [RunnerState.step]
          exact hidle ▸ .stop (by rw [hj]; rfl)
      | retaining ids =>
          have hidle : t = s.setTask j .idle := by
            cases ids <;> simp_all [RunnerState.step]
          exact hidle ▸ .stop (by rw [hj]; rfl)
      | _ => simp [RunnerState.step, hj] at h
  | retentionStart j now =>
      cases hj : s.tasks j <;> simp only [RunnerState.step, hj] at h <;> cases h
      exact .list _ j _ hj rfl rfl (fun _ hid => absurd hid List.not_mem_nil) fun _ => List.nodup_nil

end Steps

def RowIn (rows : List Call) (id : Uuid) (statuses : List CallStatus) : Prop :=
  ∃ row ∈ rows, row.id = id ∧ (row.status.Terminal ∨ row.status ∈ statuses)

theorem RowIn.modifyRow {rows : List Call} {id id' : Uuid} {f : Call → Call}
    {statuses : List CallStatus} (h : RowIn rows id' statuses) (hid : ∀ row, (f row).id = row.id)
    (hstatus : id' = id → ∀ row ∈ rows, row.id = id → row.status.Terminal ∨ row.status ∈ statuses →
      (f row).status.Terminal ∨ (f row).status ∈ statuses) :
    RowIn (modifyRow rows id f) id' statuses := by
  obtain ⟨row, hrow, hrowid, hst⟩ := h
  by_cases heq : row.id = id
  · refine ⟨f row, AdmissionState.mem_modifyRow_of_eq hrow heq, (hid row).trans hrowid, ?_⟩
    exact hstatus (hrowid.symm.trans heq) row hrow heq hst
  · exact ⟨row, AdmissionState.mem_modifyRow_of_ne hrow heq, hrowid, hst⟩

structure Consistent (s : RunnerState) : Prop where
  nodup : (s.rows.map Call.id).Nodup
  unique : ∀ j k id, (s.tasks j).driven = some id → (s.tasks k).driven = some id → j = k
  status : ∀ j id, (s.tasks j).driven = some id → RowIn s.rows id (s.tasks j).expects

namespace Consistent

theorem of_init {cfg : RunnerSettings} {s : RunnerState} (h : (runnerSystem cfg).init s) :
    Consistent s := by
  obtain ⟨hrows, htasks, -⟩ := h
  refine ⟨by simp [hrows], ?_, ?_⟩
  · intro j k id hj
    rw [htasks j] at hj
    cases hj
  · intro j id hj
    rw [htasks j] at hj
    cases hj

theorem row_unique {s : RunnerState} (hs : Consistent s) {row row' : Call} (h : row ∈ s.rows)
    (h' : row' ∈ s.rows) (hid : row.id = row'.id) : row = row' :=
  List.inj_on_of_nodup_map hs.nodup h h' hid

/-- Task `j` moves, keeping or dropping the call it drives; the rows of driven calls stay within
what their drivers expect. -/
theorem move {s t : RunnerState} (hs : Consistent s) {j : ℕ} {task : Task}
    (htasks : t.tasks = Function.update s.tasks j task)
    (hids : t.rows.map Call.id = s.rows.map Call.id)
    (hother : ∀ k id, k ≠ j → (s.tasks k).driven = some id →
      RowIn s.rows id (s.tasks k).expects → RowIn t.rows id (s.tasks k).expects)
    (hself : ∀ id, task.driven = some id → (s.tasks j).driven = some id ∧
      (RowIn s.rows id (s.tasks j).expects → RowIn t.rows id task.expects)) : Consistent t := by
  have hdriven : ∀ k id, (t.tasks k).driven = some id → (s.tasks k).driven = some id := by
    intro k id hk
    rw [htasks] at hk
    by_cases hkj : k = j
    · subst hkj
      rw [Function.update_self] at hk
      exact (hself id hk).1
    · rwa [Function.update_of_ne hkj] at hk
  refine ⟨hids ▸ hs.nodup, ?_, ?_⟩
  · intro k l id hk hl
    exact hs.unique k l id (hdriven k id hk) (hdriven l id hl)
  · intro k id hk
    by_cases hkj : k = j
    · subst hkj
      rw [htasks, Function.update_self] at hk ⊢
      obtain ⟨hold, hrow⟩ := hself id hk
      exact hrow (hs.status k id hold)
    · rw [htasks, Function.update_of_ne hkj] at hk ⊢
      exact hother k id hkj hk (hs.status k id hk)

theorem quiet {s t : RunnerState} (hs : Consistent s) {j : ℕ} {task : Task}
    (htasks : t.tasks = Function.update s.tasks j task) (hrows : t.rows = s.rows)
    (hself : ∀ id, task.driven = some id → (s.tasks j).driven = some id ∧
      ((s.tasks j).expects ⊆ task.expects ∨ RowIn s.rows id [])) : Consistent t := by
  refine hs.move htasks (by rw [hrows]) (fun k id _ _ h => hrows ▸ h) fun id hid => ?_
  obtain ⟨hold, hrow⟩ := hself id hid
  refine ⟨hold, fun h => hrows ▸ ?_⟩
  rcases hrow with hsub | ⟨row, hmem, hrowid, hterminal⟩
  · obtain ⟨row, hmem, hrowid, hst⟩ := h
    exact ⟨row, hmem, hrowid, hst.imp_right fun h => hsub h⟩
  · exact ⟨row, hmem, hrowid, Or.inl (hterminal.resolve_right List.not_mem_nil)⟩

theorem commit {s t : RunnerState} (hs : Consistent s) {j : ℕ} {id : Uuid} {new : Call} {task : Task}
    (hid : new.id = id) (htasks : t.tasks = Function.update s.tasks j task)
    (hrows : t.rows = modifyRow s.rows id fun _ => new)
    (hnew : new.status.Terminal ∧ task.driven = none ∨
      (s.tasks j).driven = some id ∧ task.driven = some id ∧ new.status ∈ task.expects) :
    Consistent t := by
  refine hs.move htasks ?_ ?_ ?_
  · rw [hrows]
    exact map_id_modifyRow s.rows fun c _ h => hid.trans h.symm
  · intro k id' hkj hk hrow
    obtain ⟨row, hmem, hrowid, hst⟩ := hrow
    by_cases heq : row.id = id
    · refine ⟨new, hrows ▸ AdmissionState.mem_modifyRow_of_eq hmem heq,
        (hid.trans heq.symm).trans hrowid, ?_⟩
      rcases hnew with ⟨hterminal, -⟩ | ⟨hdriven, -, -⟩
      · exact Or.inl hterminal
      · exact absurd (hs.unique k j id' hk (by rw [hdriven, ← heq, hrowid])) hkj
    · exact ⟨row, hrows ▸ AdmissionState.mem_modifyRow_of_ne hmem heq, hrowid, hst⟩
  · intro id' hid'
    rcases hnew with ⟨-, hnone⟩ | ⟨hdriven, hdriven', hexpects⟩
    · rw [hnone] at hid'
      cases hid'
    · rw [hdriven'] at hid'
      cases hid'
      refine ⟨hdriven, fun hrow => ?_⟩
      obtain ⟨row, hmem, hrowid, -⟩ := hrow
      exact ⟨new, hrows ▸ AdmissionState.mem_modifyRow_of_eq hmem hrowid, hid, Or.inr hexpects⟩

theorem not_driven_of_queued {s : RunnerState} (hs : Consistent s) {row : Call} (hrow : row ∈ s.rows)
    (hqueued : row.status = .queued) (k : ℕ) : (s.tasks k).driven ≠ some row.id := by
  intro hk
  obtain ⟨row', hmem, hid, hst⟩ := hs.status k row.id hk
  obtain rfl := hs.row_unique hmem hrow hid
  rw [hqueued] at hst
  rcases hst with hst | hst
  · exact absurd hst (by decide)
  · exact Task.queued_notMem_expects (s.tasks k) hst

theorem claim {s : RunnerState} (hs : Consistent s) {k : ℕ} {row new : Call}
    (hidle : s.tasks k = .idle) (hrow : row ∈ s.rows) (hqueued : row.status = .queued)
    (hid : new.id = row.id) (hnew : new.status = .joining) :
    Consistent ({ s with rows := modifyRow s.rows row.id fun _ => new }.setTask k
      (.claimed row.id)) := by
  set t := { s with rows := modifyRow s.rows row.id fun _ => new }.setTask k (.claimed row.id) with ht
  have hself : t.tasks k = .claimed row.id := Function.update_self k _ _
  have hother : ∀ l, l ≠ k → t.tasks l = s.tasks l := fun l hl => Function.update_of_ne hl _ _
  have hfree := hs.not_driven_of_queued hrow hqueued
  have hdriven : ∀ l id, (t.tasks l).driven = some id →
      (l = k ∧ id = row.id) ∨ (l ≠ k ∧ id ≠ row.id ∧ (s.tasks l).driven = some id) := by
    intro l id hl
    by_cases hlk : l = k
    · subst hlk
      rw [hself] at hl
      cases hl
      exact Or.inl ⟨rfl, rfl⟩
    · rw [hother l hlk] at hl
      refine Or.inr ⟨hlk, ?_, hl⟩
      rintro rfl
      exact hfree l hl
  refine ⟨?_, ?_, ?_⟩
  · change ((modifyRow s.rows row.id fun _ => new).map Call.id).Nodup
    rw [map_id_modifyRow s.rows fun c _ h => hid.trans h.symm]
    exact hs.nodup
  · intro l m id hl hm
    rcases hdriven l id hl with ⟨rfl, rfl⟩ | ⟨hlk, hne, hl'⟩
    · rcases hdriven m _ hm with ⟨rfl, -⟩ | ⟨-, hne, -⟩
      · rfl
      · exact absurd rfl hne
    · rcases hdriven m id hm with ⟨-, rfl⟩ | ⟨-, -, hm'⟩
      · exact absurd rfl hne
      · exact hs.unique l m id hl' hm'
  · intro l id hl
    rcases hdriven l id hl with ⟨rfl, rfl⟩ | ⟨hlk, hne, hl'⟩
    · rw [hself]
      refine ⟨new, AdmissionState.mem_modifyRow_of_eq hrow rfl, hid, Or.inr ?_⟩
      rw [hnew]
      exact List.mem_singleton_self _
    · rw [hother l hlk]
      obtain ⟨row', hmem, hid', hst⟩ := hs.status l id hl'
      exact ⟨row', AdmissionState.mem_modifyRow_of_ne hmem (hid' ▸ hne), hid', hst⟩

theorem insert {s : RunnerState} (hs : Consistent s) {row : Call}
    (hfresh : ∀ c ∈ s.rows, c.id ≠ row.id) : Consistent { s with rows := s.rows ++ [row] } := by
  refine ⟨?_, hs.unique, fun j id hj => ?_⟩
  · rw [List.map_append, List.nodup_append]
    refine ⟨hs.nodup, List.nodup_singleton _, ?_⟩
    intro a ha b hb
    obtain ⟨c, hc, rfl⟩ := List.mem_map.1 ha
    obtain rfl : b = row.id := by simpa using hb
    exact hfresh c hc
  · obtain ⟨row', hmem, hrest⟩ := hs.status j id hj
    exact ⟨row', List.mem_append_left _ hmem, hrest⟩

theorem recordWinner {s : RunnerState} {id : Uuid} {status : CallStatus} {j : ℕ}
    (hs : Consistent s) : Consistent (s.recordWinner id status j) := by
  unfold RunnerState.recordWinner
  split_ifs
  · exact ⟨hs.nodup, hs.unique, hs.status⟩
  · exact hs

theorem refused {s : RunnerState} (hs : Consistent s) {cfg : RunnerSettings} {j : ℕ} {id : Uuid}
    {tr : Transition} {row : Call} (hwork : (s.tasks j).work = some (id, tr)) (hrow : row ∈ s.rows)
    (hid : row.id = id)
    (hillegal : ¬ CallStatus.Legal row.status (tr.target cfg.callConcurrencyLimit row)) :
    row.status.Terminal ∧ ∀ id', (s.tasks j).refused.driven = some id' → id' = id ∧
      (s.tasks j).driven = some id := by
  refine ⟨?_, ?_⟩
  · rcases Task.work_cases hwork with hdriven | ⟨ids, -, rfl⟩ | ⟨ids, -, rfl⟩
    · obtain ⟨row', hmem, hrowid, hst⟩ := hs.status j id hdriven
      obtain rfl := hs.row_unique hmem hrow (hrowid.trans hid.symm)
      exact Task.terminal_of_refused hwork hdriven hst hillegal
    · by_contra hlive
      exact hillegal ((CallStatus.legal_failed_iff _).2 hlive)
    · by_contra hlive
      exact hillegal ((CallStatus.legal_failed_iff _).2 hlive)
  · intro id' hdriven
    cases htask : s.tasks j <;> rw [htask] at hdriven hwork <;> try cases hdriven
    · cases hwork
      exact ⟨rfl, rfl⟩
    · rename_i next
      cases next with
      | finished => cases hdriven
      | stale ids => cases ids <;> cases hdriven
      | orphan ids => cases ids <;> cases hdriven

theorem step (cfg : RunnerSettings) (s : RunnerState) (e : RunnerEvent) (t : RunnerState)
    (hs : Consistent s) (h : (runnerSystem cfg).step s e = some t) : Consistent t := by
  cases effect_of_step h with
  | unchanged => exact hs
  | quiet _ j task hmove =>
      refine hs.quiet rfl rfl fun id hid => ?_
      obtain ⟨hold, hexpects, -⟩ := hmove.driven id hid
      exact ⟨hold, Or.inl hexpects⟩
  | create data id now row hfresh hqueued => exact hs.insert hfresh
  | claim j k diskOk now row new hidle hrow hqueued hid hnew =>
      exact hs.claim hidle hrow hqueued hid hnew
  | refuse j k diskOk now row new hidle hrow hqueued hid hnew =>
      refine recordWinner (hs.commit hid rfl rfl (Or.inl ⟨?_, rfl⟩))
      rw [hnew]
      exact CallStatus.terminal_failed
  | commit j now id tr row todo hwork hrow hid hbody =>
      refine recordWinner (hs.commit ((id_applyStatements row todo).trans hid) rfl rfl ?_)
      rw [Transition.status_of_body hbody]
      rcases Task.committed_cases cfg.callConcurrencyLimit row hwork with
        ⟨hterminal, hnone, -⟩ | ⟨-, hdriven, hdriven', -, hexpects⟩
      · exact Or.inl ⟨hterminal, hnone⟩
      · exact Or.inr ⟨hdriven, hdriven', hexpects⟩
  | refused j now id tr row conflicts hwork hrow hid hillegal hconflicts =>
      obtain ⟨hterminal, hdriven⟩ := hs.refused hwork hrow hid hillegal
      refine hs.quiet rfl rfl fun id' hid' => ?_
      obtain ⟨rfl, hold⟩ := hdriven id' hid'
      exact ⟨hold, Or.inr ⟨row, hrow, hid, Or.inl hterminal⟩⟩
  | upload k id endReason hphase =>
      refine hs.quiet rfl rfl fun id' hid' => ?_
      cases hid'
      exact ⟨by rw [hphase]; rfl, Or.inl (by rw [hphase]; exact List.Subset.refl _)⟩
  | dispatch j id next hphase =>
      refine hs.quiet rfl rfl fun id' hid' => ?_
      cases next <;> cases hid'
  | list _ j task hidle hdriven howes hlive hnodup =>
      refine hs.quiet rfl rfl fun id' hid' => ?_
      rw [hdriven] at hid'
      cases hid'
  | delete j outcome id task f hmove hf =>
      have hrows : ∀ id' statuses, RowIn s.rows id' statuses →
          RowIn (modifyRow s.rows id f) id' statuses := fun id' statuses hrow =>
        hrow.modifyRow (fun row => (hf row).1) fun _ row _ _ hst => by rwa [(hf row).2]
      refine hs.move rfl (map_id_modifyRow s.rows fun c _ _ => (hf c).1) ?_ ?_
      · exact fun k id' _ _ hrow => hrows id' _ hrow
      · intro id' hid'
        obtain ⟨hold, hexpects, -⟩ := hmove.driven id' hid'
        refine ⟨hold, fun hrow => hrows id' _ ?_⟩
        obtain ⟨row, hmem, hrowid, hst⟩ := hrow
        exact ⟨row, hmem, hrowid, hst.imp_right fun h => hexpects h⟩
  | crash =>
      refine ⟨hs.nodup, ?_, ?_⟩
      · intro j k id hj
        cases hj
      · intro j id hj
        cases hj

end Consistent
end Notetaker

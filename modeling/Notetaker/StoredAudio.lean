import Notetaker.RunnerInvariant

/-!
# Stored recordings and retention

A retention pass selects a terminal row by its `audio_url`, so an object without one is never
reclaimed. The driver of a call writes `audio_url` in the transaction that ends the call, long after
the upload. Nothing is lost as long as no sweep ends a call whose object is stored, and no upload
completes after the call has ended: then a stored object belongs to a call in `processing`, or to an
ended call whose row names it.
-/

open PythonText PythonFloat PythonUuid JsonText

namespace Notetaker

namespace Call

theorem audioUrl_assign_ne_none {call : Call} (h : call.audioUrl ≠ none) (changes : Changes) :
    (call.assign changes).audioUrl ≠ none := by
  induction changes generalizing call with
  | nil => exact h
  | cons change changes ih =>
      apply ih
      cases change with
      | audioUrl url => exact Option.some_ne_none url
      | _ => exact h

theorem audioUrl_assign_of_mem (call : Call) {changes : Changes} {url : Text}
    (h : .audioUrl url ∈ changes) : (call.assign changes).audioUrl ≠ none := by
  induction changes generalizing call with
  | nil => cases h
  | cons change changes ih =>
      rcases List.mem_cons.1 h with rfl | hmem
      · exact audioUrl_assign_ne_none (Option.some_ne_none url) changes
      · exact ih (change.assign call) hmem

theorem audioUrl_update_ne_none {call : Call} (h : call.audioUrl ≠ none) (changes : Changes)
    (now : Timestamp) : (call.update changes now).audioUrl ≠ none := by
  unfold update updateRow
  split_ifs
  · exact h
  · exact audioUrl_assign_ne_none h _

theorem audioUrl_update_of_mem (call : Call) {changes : Changes} {url : Text} (now : Timestamp)
    (h : .audioUrl url ∈ changes) : (call.update changes now).audioUrl ≠ none := by
  by_cases hnone : call.audioUrl = none
  · have hdirty : .audioUrl url ∈ call.dirty changes := by
      refine List.mem_filter.2 ⟨h, decide_eq_true fun heq => ?_⟩
      have hurl : some url = call.audioUrl := congrArg Call.audioUrl heq
      rw [hnone] at hurl
      cases hurl
    unfold update updateRow
    rw [if_neg (List.ne_nil_of_mem hdirty)]
    exact audioUrl_assign_of_mem call hdirty
  · exact audioUrl_update_ne_none hnone changes now

end Call

theorem audioUrl_applyStatements_ne_none {call : Call} (h : call.audioUrl ≠ none)
    (todo : List Statement) : (applyStatements call todo).audioUrl ≠ none := by
  induction todo generalizing call with
  | nil => exact h
  | cons st todo ih => exact ih (Call.audioUrl_update_ne_none h st.changes st.now)

theorem audioUrl_applyStatements_of_mem (call : Call) {todo : List Statement} {st : Statement}
    (url : Text) (hst : st ∈ todo) (h : .audioUrl url ∈ st.changes) :
    (applyStatements call todo).audioUrl ≠ none := by
  induction todo generalizing call with
  | nil => cases hst
  | cons st' todo ih =>
      rcases List.mem_cons.1 hst with rfl | hmem
      · exact audioUrl_applyStatements_ne_none (Call.audioUrl_update_of_mem call st.now h) todo
      · exact ih (call.update st'.changes st'.now) hmem

/-- The `audio_url` that a call site writes. -/
def Transition.storedUrl : Transition → Option Text
  | finishDoneCall _ audioUrl _ | markTranscriptionFailed _ audioUrl => some audioUrl
  | _ => none

theorem Transition.audioUrl_of_body {limit : ℤ} {now : Timestamp} {call : Call} {tr : Transition}
    {todo : List Statement} {url : Text} (hbody : tr.body limit now call = some todo)
    (htr : tr.storedUrl = some url) (hurl : url ≠ []) :
    (applyStatements call todo).audioUrl ≠ none := by
  have hlegal := (Transition.body_eq_some hbody).1
  cases tr with
  | finishDoneCall endReason audioUrl transcript =>
      obtain rfl := Option.some.inj htr
      have hdone : CallStatus.Legal call.status .done := hlegal
      have htodo : Transition.body limit now call (.finishDoneCall endReason audioUrl transcript) =
          some [⟨[.status .done, .endReason endReason, .transcript transcript, .audioUrl audioUrl],
            now⟩] := by
        change statements now (CallService.transition call .done _) [] = _
        rw [CallService.transition, if_pos hdone]
        rfl
      obtain rfl := Option.some.inj (htodo.symm.trans hbody)
      refine audioUrl_applyStatements_of_mem call audioUrl (List.mem_singleton_self _) ?_
      simp
  | markTranscriptionFailed detail audioUrl =>
      obtain rfl := Option.some.inj htr
      have hfailed : CallStatus.Legal call.status .failed := hlegal
      have htodo : Transition.body limit now call (.markTranscriptionFailed detail audioUrl) =
          some [⟨[.status .failed, .failureReason ("transcription_failed:".toList ++ detail)], now⟩,
            ⟨[.audioUrl audioUrl], now⟩] := by
        change statements now (CallService.transition call .failed _) _ = _
        rw [CallService.transition, if_pos hfailed, if_neg hurl]
        rfl
      obtain rfl := Option.some.inj (htodo.symm.trans hbody)
      exact audioUrl_applyStatements_of_mem call audioUrl (List.mem_cons_of_mem _ (List.mem_singleton_self _))
        (List.mem_singleton_self _)
  | _ => cases htr

def Transition.isSweep : Transition → Bool
  | orphanSweep | staleSweep => true
  | _ => false

/-! ## The condition on the steps -/

/-- No sweep ends a call whose object is stored, and no upload completes after its call has ended. -/
def AudioCovered (s : RunnerState) : RunnerEvent → Prop
  | .transact j _ => ∀ w ∈ (s.tasks j).work, w.2.isSweep → s.stored w.1 →
      ∀ row ∈ s.rows, row.id = w.1 → row.status.Terminal
  | .upload k true => ∀ row ∈ s.rows, (s.tasks k).driven = some row.id → ¬ row.status.Terminal
  | _ => True

instance (s : RunnerState) : DecidablePred (AudioCovered s)
  | .transact j _ => inferInstanceAs (Decidable (∀ w ∈ (s.tasks j).work, w.2.isSweep →
      s.stored w.1 → ∀ row ∈ s.rows, row.id = w.1 → row.status.Terminal))
  | .upload k true => inferInstanceAs (Decidable (∀ row ∈ s.rows,
      (s.tasks k).driven = some row.id → ¬ row.status.Terminal))
  | .upload _ false | .create _ _ _ | .poll _ _ _ _ | .start _ | .signal _ | .exit _ _ _
  | .source _ _ | .transcribe _ _ | .fault _ | .dispatch _ | .staleStart _ _ | .orphanStart _ _
  | .sweepEnd _ | .retentionStart _ _ | .retentionRow _ _ | .crash => .isTrue trivial

/-- A row that may have a stored object: retention will see it, or its driver has yet to end it. -/
def Call.Covers (row : Call) : Prop :=
  row.status = .processing ∨ (row.status.Terminal ∧ row.audioUrl ≠ none)

theorem Call.Covers.status_ne_queued {row : Call} (h : row.Covers) : row.status ≠ .queued := by
  rintro hqueued
  rcases h with hprocessing | ⟨hterminal, -⟩
  · rw [hqueued] at hprocessing
    cases hprocessing
  · rw [hqueued] at hterminal
    exact absurd hterminal (by decide)

structure AudioKept (s : RunnerState) : Prop where
  consistent : Consistent s
  stored : ∀ id, s.stored id → ∃ row ∈ s.rows, row.id = id ∧ row.Covers
  /-- Nothing is stored before the upload. -/
  driven : ∀ j id, (s.tasks j).driven = some id → (s.tasks j).uploaded = none → s.stored id = false
  uploaded : ∀ j url, (s.tasks j).uploaded = some url → url ≠ []

namespace Task

theorem driven_of_uploaded {task : Task} {url : Text} (h : task.uploaded = some url) :
    ∃ id, task.driven = some id := by
  cases task with
  | sourcing id => exact ⟨id, rfl⟩
  | transcribing id => exact ⟨id, rfl⟩
  | transcriptionFailed id => exact ⟨id, rfl⟩
  | finishing id => exact ⟨id, rfl⟩
  | _ => cases h

theorem storedUrl_of_work {task : Task} {id : Uuid} {tr : Transition} {url : Text}
    (hwork : task.work = some (id, tr)) (huploaded : task.uploaded = some url) :
    tr.storedUrl = some url := by
  cases task with
  | transcriptionFailed => cases hwork; exact huploaded
  | finishing => cases hwork; exact huploaded
  | sourcing => cases hwork
  | transcribing => cases hwork
  | _ => cases huploaded

theorem committed_driven {task : Task} {id id' : Uuid} {tr : Transition} {row : Call}
    (hwork : task.work = some (id, tr)) (h : (task.committed row).driven = some id') :
    task.driven = some id' ∧ (task.committed row).uploaded = task.uploaded := by
  cases task with
  | signalling => exact ⟨h, rfl⟩
  | exited id exitCode result =>
      simp only [committed] at h ⊢
      split_ifs at h ⊢
      · exact ⟨h, rfl⟩
      · cases h
  | sweeping next =>
      cases next with
      | finished => cases h
      | stale ids => cases ids <;> cases h
      | orphan ids => cases ids <;> cases h
  | uploadFailed => cases h
  | transcriptionFailed => cases h
  | finishing => cases h
  | _ => cases hwork

theorem refused_driven {task : Task} {id : Uuid} (h : task.refused.driven = some id) :
    task.driven = some id ∧ task.refused.uploaded = task.uploaded := by
  cases task with
  | signalling => exact ⟨h, rfl⟩
  | sweeping next =>
      cases next with
      | finished => cases h
      | stale ids => cases ids <;> cases h
      | orphan ids => cases ids <;> cases h
  | _ => cases h

theorem afterDispatch_driven (next : Sweep) : (afterDispatch next).driven = none := by
  cases next <;> rfl

end Task

namespace RunnerState

variable (s : RunnerState) (id : Uuid) (status : CallStatus) (j : ℕ)

@[simp] theorem tasks_recordWinner : (s.recordWinner id status j).tasks = s.tasks := by
  unfold recordWinner
  split_ifs <;> rfl

@[simp] theorem rows_recordWinner : (s.recordWinner id status j).rows = s.rows := by
  unfold recordWinner
  split_ifs <;> rfl

@[simp] theorem stored_recordWinner : (s.recordWinner id status j).stored = s.stored := by
  unfold recordWinner
  split_ifs <;> rfl

end RunnerState

namespace AudioKept

theorem of_init {cfg : RunnerSettings} {s : RunnerState} (h : (runnerSystem cfg).init s) :
    AudioKept s := by
  obtain ⟨-, htasks, hstored, -⟩ := id h
  refine ⟨Consistent.of_init h, fun id hid => ?_, fun j id hj => ?_, fun j url hj => ?_⟩
  · rw [hstored id] at hid
    cases hid
  · rw [htasks j] at hj
    cases hj
  · rw [htasks j] at hj
    cases hj

theorem move {s t : RunnerState} (hs : AudioKept s) (ht : Consistent t) (j : ℕ) (task : Task)
    (htasks : t.tasks = Function.update s.tasks j task)
    (hself : ∀ id, task.driven = some id →
      (s.tasks j).driven = some id ∧ task.uploaded = (s.tasks j).uploaded)
    (hstored : ∀ id, t.stored id → s.stored id ∧
      ∀ row ∈ s.rows, row.id = id → row.Covers → ∃ new ∈ t.rows, new.id = id ∧ new.Covers) :
    AudioKept t := by
  have hfalse : ∀ id, s.stored id = false → t.stored id = false := by
    intro id hid
    by_contra hne
    have hold := (hstored id (by simpa using hne)).1
    rw [hid] at hold
    cases hold
  refine ⟨ht, fun id hid => ?_, fun k id hk hnone => hfalse id ?_, fun k url hk => ?_⟩
  · obtain ⟨hold, hkeep⟩ := hstored id hid
    obtain ⟨row, hrow, hrowid, hcovers⟩ := hs.stored id hold
    exact hkeep row hrow hrowid hcovers
  · rw [htasks] at hk hnone
    by_cases hkj : k = j
    · subst hkj
      rw [Function.update_self] at hk hnone
      obtain ⟨hdriven, huploaded⟩ := hself id hk
      exact hs.driven k id hdriven (huploaded.symm.trans hnone)
    · rw [Function.update_of_ne hkj] at hk hnone
      exact hs.driven k id hk hnone
  · rw [htasks] at hk
    by_cases hkj : k = j
    · subst hkj
      rw [Function.update_self] at hk
      obtain ⟨id, hdriven⟩ := Task.driven_of_uploaded hk
      exact hs.uploaded k url ((hself id hdriven).2.symm.trans hk)
    · rw [Function.update_of_ne hkj] at hk
      exact hs.uploaded k url hk

theorem not_stored_of_queued {s : RunnerState} (hs : AudioKept s) {row : Call} (hrow : row ∈ s.rows)
    (hqueued : row.status = .queued) : s.stored row.id = false := by
  by_contra hne
  obtain ⟨row', hrow', hid, hcovers⟩ := hs.stored row.id (by simpa using hne)
  obtain rfl := hs.consistent.row_unique hrow' hrow hid
  exact hcovers.status_ne_queued hqueued

theorem covers_modifyRow {rows : List Call} {id id' : Uuid} {f : Call → Call} (hne : id' ≠ id) :
    ∀ row ∈ rows, row.id = id' → row.Covers →
      ∃ new ∈ modifyRow rows id f, new.id = id' ∧ new.Covers := by
  rintro row hrow rfl hcovers
  exact ⟨row, AdmissionState.mem_modifyRow_of_ne hrow hne, rfl, hcovers⟩

theorem covers_of_body {s : RunnerState} (hs : AudioKept s) {cfg : RunnerSettings} {j : ℕ}
    {now : Timestamp} {id : Uuid} {tr : Transition} {row : Call} {todo : List Statement}
    (hcovered : AudioCovered s (.transact j now)) (hwork : (s.tasks j).work = some (id, tr))
    (hrow : row ∈ s.rows) (hid : row.id = id) (hstored : s.stored id)
    (hbody : tr.body cfg.callConcurrencyLimit now row = some todo) :
    (applyStatements row todo).Covers := by
  obtain ⟨hlegal, -⟩ := Transition.body_eq_some hbody
  have hlive : ¬ row.status.Terminal := CallStatus.not_terminal_of_legal hlegal
  have hnosweep : ¬ tr.isSweep := fun hsweep =>
    hlive (hcovered (id, tr) hwork hsweep hstored row hrow hid)
  rcases Task.work_cases hwork with hdriven | ⟨ids, -, rfl⟩ | ⟨ids, -, rfl⟩
  · cases huploaded : (s.tasks j).uploaded with
    | none =>
        rw [hs.driven j id hdriven huploaded] at hstored
        cases hstored
    | some url =>
        have hurl := Task.storedUrl_of_work hwork huploaded
        refine Or.inr ⟨?_, Transition.audioUrl_of_body hbody hurl (hs.uploaded j url huploaded)⟩
        rw [Transition.status_of_body hbody]
        cases tr with
        | finishDoneCall => exact CallStatus.terminal_done
        | markTranscriptionFailed => exact CallStatus.terminal_failed
        | _ => cases hurl
  · exact absurd rfl hnosweep
  · exact absurd rfl hnosweep

theorem claim {s : RunnerState} (hs : AudioKept s) {k : ℕ} {row new : Call}
    (ht : Consistent ({ s with rows := modifyRow s.rows row.id fun _ => new }.setTask k
      (.claimed row.id))) (hrow : row ∈ s.rows) (hqueued : row.status = .queued) :
    AudioKept ({ s with rows := modifyRow s.rows row.id fun _ => new }.setTask k
      (.claimed row.id)) := by
  have hfree := hs.not_stored_of_queued hrow hqueued
  refine ⟨ht, ?_, ?_, ?_⟩
  · intro id hid
    change s.stored id at hid
    obtain ⟨row', hrow', hrowid, hcovers⟩ := hs.stored id hid
    refine covers_modifyRow ?_ row' hrow' hrowid hcovers
    rintro rfl
    exact absurd hid (by simpa using hfree)
  · intro l id hl hnone
    change (Function.update s.tasks k (.claimed row.id) l).driven = some id at hl
    change (Function.update s.tasks k (.claimed row.id) l).uploaded = none at hnone
    by_cases hlk : l = k
    · subst hlk
      rw [Function.update_self] at hl
      cases hl
      exact hfree
    · rw [Function.update_of_ne hlk] at hl hnone
      exact hs.driven l id hl hnone
  · intro l url hl
    change (Function.update s.tasks k (.claimed row.id) l).uploaded = some url at hl
    by_cases hlk : l = k
    · subst hlk
      rw [Function.update_self] at hl
      cases hl
    · rw [Function.update_of_ne hlk] at hl
      exact hs.uploaded l url hl

theorem upload {cfg : RunnerSettings} {s : RunnerState} (hs : AudioKept s) {k : ℕ} {id : Uuid}
    {endReason : Text} (hcovered : AudioCovered s (.upload k true))
    (hphase : s.tasks k = .uploading id endReason)
    (ht : Consistent { s.setTask k (.sourcing id endReason (cfg.storage.objectUri id)) with
      stored := Function.update s.stored id true }) :
    AudioKept { s.setTask k (.sourcing id endReason (cfg.storage.objectUri id)) with
      stored := Function.update s.stored id true } := by
  have hdriven : (s.tasks k).driven = some id := by rw [hphase]; rfl
  refine ⟨ht, ?_, ?_, ?_⟩
  · intro id' hid'
    by_cases hne : id' = id
    · subst hne
      obtain ⟨row, hrow, hrowid, hstatus⟩ := hs.consistent.status k id' hdriven
      have hprocessing := hstatus.resolve_left (hcovered row hrow (hrowid ▸ hdriven))
      rw [hphase] at hprocessing
      exact ⟨row, hrow, hrowid, Or.inl (List.mem_singleton.1 hprocessing)⟩
    · change Function.update s.stored id true id' = true at hid'
      rw [Function.update_of_ne hne] at hid'
      exact hs.stored id' hid'
  · intro l id' hl hnone
    change (Function.update s.tasks k _ l).driven = some id' at hl
    change (Function.update s.tasks k _ l).uploaded = none at hnone
    by_cases hlk : l = k
    · subst hlk
      rw [Function.update_self] at hnone
      cases hnone
    · rw [Function.update_of_ne hlk] at hl hnone
      have hne : id' ≠ id := by
        rintro rfl
        exact hlk (hs.consistent.unique l k id' hl hdriven)
      change Function.update s.stored id true id' = false
      rw [Function.update_of_ne hne]
      exact hs.driven l id' hl hnone
  · intro l url hl
    change (Function.update s.tasks k _ l).uploaded = some url at hl
    by_cases hlk : l = k
    · subst hlk
      rw [Function.update_self] at hl
      obtain rfl := Option.some.inj hl
      exact cfg.storage.objectUri_ne_nil id
    · rw [Function.update_of_ne hlk] at hl
      exact hs.uploaded l url hl

theorem step {cfg : RunnerSettings} (s : RunnerState) (e : RunnerEvent) (t : RunnerState)
    (hs : AudioKept s) (hcovered : AudioCovered s e) (h : (runnerSystem cfg).step s e = some t) :
    AudioKept t := by
  have ht := Consistent.step cfg s e t hs.consistent h
  have hsame : ∀ id, s.stored id → s.stored id ∧
      ∀ row ∈ s.rows, row.id = id → row.Covers → ∃ new ∈ s.rows, new.id = id ∧ new.Covers :=
    fun id hid => ⟨hid, fun row hrow hrowid hcovers => ⟨row, hrow, hrowid, hcovers⟩⟩
  cases effect_of_step h with
  | unchanged => exact hs
  | quiet _ j task hmove =>
      refine hs.move ht j _ rfl (fun id hid => ?_) hsame
      obtain ⟨hold, -, huploaded⟩ := hmove.driven id hid
      exact ⟨hold, huploaded⟩
  | create data id now row hfresh hqueued =>
      refine ⟨ht, fun id hid => ?_, hs.driven, hs.uploaded⟩
      obtain ⟨row', hrow', hrest⟩ := hs.stored id hid
      exact ⟨row', List.mem_append_left _ hrow', hrest⟩
  | claim j k diskOk now row new hidle hrow hqueued hid hnew => exact hs.claim ht hrow hqueued
  | refuse j k diskOk now row new hidle hrow hqueued hid hnew =>
      have hfree := hs.not_stored_of_queued hrow hqueued
      refine hs.move ht j (.dispatching row.id .finished) ?_
        (fun id' hid' => by cases hid') fun id' hid' => ?_
      · rw [RunnerState.tasks_recordWinner]
        rfl
      · rw [RunnerState.stored_recordWinner] at hid'
        rw [RunnerState.rows_recordWinner]
        change s.stored id' = true at hid'
        refine ⟨hid', covers_modifyRow ?_⟩
        rintro rfl
        exact absurd hid' (by simpa using hfree)
  | commit j now id tr row todo hwork hrow hid hbody =>
      refine hs.move ht j ((s.tasks j).committed row) ?_ ?_ fun id' hid' => ?_
      · rw [RunnerState.tasks_recordWinner]
        rfl
      · exact fun id' hid' => Task.committed_driven hwork hid'
      · rw [RunnerState.stored_recordWinner] at hid'
        rw [RunnerState.rows_recordWinner]
        refine ⟨hid', ?_⟩
        by_cases hne : id' = id
        · subst hne
          rintro row' hrow' hrowid -
          refine ⟨_, AdmissionState.mem_modifyRow_of_eq hrow' hrowid,
            (id_applyStatements row todo).trans hid, ?_⟩
          exact hs.covers_of_body hcovered hwork hrow hid hid' hbody
        · exact covers_modifyRow hne
  | refused j now id tr row conflicts hwork hrow hid hillegal hconflicts =>
      exact hs.move ht j _ rfl (fun id' hid' => Task.refused_driven hid') hsame
  | upload k id endReason hphase => exact hs.upload hcovered hphase ht
  | dispatch j id next hphase =>
      refine hs.move ht j _ rfl (fun id' hid' => ?_) hsame
      rw [Task.afterDispatch_driven] at hid'
      cases hid'
  | list _ j task hidle hdriven howes hlive hnodup =>
      refine hs.move ht j _ rfl (fun id' hid' => ?_) hsame
      rw [hdriven] at hid'
      cases hid'
  | delete j outcome id task f hmove hf =>
      refine hs.move ht j _ rfl (fun id' hid' => ?_) fun id' hid' => ?_
      · obtain ⟨hold, -, huploaded⟩ := hmove.driven id' hid'
        exact ⟨hold, huploaded⟩
      · change Function.update s.stored id false id' = true at hid'
        have hne : id' ≠ id := by
          rintro rfl
          rw [Function.update_self] at hid'
          cases hid'
        rw [Function.update_of_ne hne] at hid'
        exact ⟨hid', covers_modifyRow hne⟩
  | crash =>
      refine ⟨ht, hs.stored, fun j id hj => ?_, fun j url hj => ?_⟩
      · cases hj
      · cases hj

end AudioKept

theorem driven_of_step {cfg : RunnerSettings} {s t : RunnerState} {e : RunnerEvent}
    (hpoll : ∀ j k diskOk now, e ≠ .poll j k diskOk now)
    (h : (runnerSystem cfg).step s e = some t) {j : ℕ} {id : Uuid}
    (hj : (t.tasks j).driven = some id) : (s.tasks j).driven = some id := by
  have hmoved : ∀ k task, t.tasks = Function.update s.tasks k task →
      (task.driven = some id → (s.tasks k).driven = some id) → (s.tasks j).driven = some id := by
    intro k task htasks hself
    rw [htasks] at hj
    by_cases hjk : j = k
    · subst hjk
      rw [Function.update_self] at hj
      exact hself hj
    · rwa [Function.update_of_ne hjk] at hj
  cases effect_of_step h with
  | unchanged => exact hj
  | create => exact hj
  | claim j k diskOk now => exact absurd rfl (hpoll j k diskOk now)
  | refuse j k diskOk now => exact absurd rfl (hpoll j k diskOk now)
  | quiet _ k task hmove => exact hmoved k task rfl fun hid => (hmove.driven id hid).1
  | commit k now id' tr row todo hwork hrow hid hbody =>
      refine hmoved k ((s.tasks k).committed row) ?_ fun h => (Task.committed_driven hwork h).1
      rw [RunnerState.tasks_recordWinner]
      rfl
  | refused k now id' tr row conflicts hwork hrow hid hillegal hconflicts =>
      exact hmoved k _ rfl fun h => (Task.refused_driven h).1
  | upload k id' endReason hphase => exact hmoved k _ rfl fun h => by rw [hphase]; exact h
  | dispatch k id' next hphase =>
      refine hmoved k _ rfl fun h => ?_
      rw [Task.afterDispatch_driven] at h
      cases h
  | list _ k task hidle hdriven =>
      refine hmoved k task rfl fun h => ?_
      rw [hdriven] at h
      cases h
  | delete k outcome id' task f hmove hf =>
      exact hmoved k task rfl fun hid => (hmove.driven id hid).1
  | crash => cases hj

theorem driven_of_run {cfg : RunnerSettings} {s t : RunnerState} {es : List RunnerEvent}
    (hpoll : ∀ e ∈ es, ∀ j k diskOk now, e ≠ .poll j k diskOk now)
    (hrun : (runnerSystem cfg).run s es = some t) {j : ℕ} {id : Uuid}
    (hj : (t.tasks j).driven = some id) : (s.tasks j).driven = some id := by
  induction es generalizing s with
  | nil =>
      cases hrun
      exact hj
  | cons e es ih =>
      obtain ⟨u, hu, hrest⟩ := (runnerSystem cfg).run_cons_eq_some.1 hrun
      have hu' := ih (fun e' he' => hpoll e' (List.mem_cons_of_mem e he')) hrest
      exact driven_of_step (hpoll e List.mem_cons_self) hu hu'

/-- In a run whose steps keep the audio covered, retention can see every stored object of an ended
call. -/
theorem audioUrl_of_stored (cfg : RunnerSettings) {s t : RunnerState} {es : List RunnerEvent}
    (hs : (runnerSystem cfg).init s) (hrun : (runnerSystem cfg).run s es = some t)
    (hcovered : (runnerSystem cfg).Meets AudioCovered s es) {row : Call} (hrow : row ∈ t.rows)
    (hterminal : row.status.Terminal) (hstored : t.stored row.id) : row.audioUrl ≠ none := by
  have ht : AudioKept t := (runnerSystem cfg).run_invariant_of_meets AudioKept.step
    (AudioKept.of_init hs) hcovered hrun
  obtain ⟨row', hrow', hid, hcovers⟩ := ht.stored row.id hstored
  obtain rfl := ht.consistent.row_unique hrow' hrow hid
  rcases hcovers with hprocessing | ⟨-, hurl⟩
  · rw [hprocessing] at hterminal
    exact absurd hterminal (by decide)
  · exact hurl

/-! ## A crash after the upload -/

/-- A call up to the upload of its recording. -/
def recordedAndUploaded : List RunnerEvent :=
  [.create sampleCreate 7 0, .poll 0 1 true 1, .start 1, .signal 1, .transact 1 30,
    .exit 1 (some 0) none, .transact 1 600, .upload 1 true]

def uploadThenDone : List RunnerEvent :=
  recordedAndUploaded ++ [.source 1 .ready, .transcribe 1 (.transcript []), .transact 1 700]

theorem uploadThenDone_isSome :
    ((runnerSystem sampleSettings).run emptyRunner uploadThenDone).isSome := by decide +kernel

def uploadThenDoneState : RunnerState :=
  ((runnerSystem sampleSettings).run emptyRunner uploadThenDone).get uploadThenDone_isSome

theorem uploadThenDone_covered :
    (runnerSystem sampleSettings).Meets AudioCovered emptyRunner uploadThenDone := by decide +kernel

theorem audioUrl_of_stored_uploadThenDone :
    ∃ row ∈ uploadThenDoneState.rows, row.status.Terminal ∧ uploadThenDoneState.stored row.id ∧
      row.audioUrl ≠ none := by
  have hended : ∃ row ∈ uploadThenDoneState.rows, row.status.Terminal ∧
      uploadThenDoneState.stored row.id := by decide +kernel
  obtain ⟨row, hrow, hterminal, hstored⟩ := hended
  have hrun : (runnerSystem sampleSettings).run emptyRunner uploadThenDone =
      some uploadThenDoneState := (Option.some_get uploadThenDone_isSome).symm
  exact ⟨row, hrow, hterminal, hstored, audioUrl_of_stored sampleSettings
    (emptyRunner_init sampleSettings) hrun uploadThenDone_covered hrow hterminal hstored⟩

/-- The restarted runner ends the call it finds in `processing`. -/
def uploadThenCrash : List RunnerEvent :=
  recordedAndUploaded ++ [.crash, .staleStart 0 4000, .transact 0 4001, .dispatch 0, .sweepEnd 0]

theorem uploadThenCrash_isSome :
    ((runnerSystem sampleSettings).run emptyRunner uploadThenCrash).isSome := by decide +kernel

def uploadThenCrashState : RunnerState :=
  ((runnerSystem sampleSettings).run emptyRunner uploadThenCrash).get uploadThenCrash_isSome

theorem not_driven_uploadThenCrashState (j : ℕ) (id : Uuid) :
    (uploadThenCrashState.tasks j).driven ≠ some id := by
  have hrun : (runnerSystem sampleSettings).run emptyRunner uploadThenCrash =
      some uploadThenCrashState := (Option.some_get uploadThenCrash_isSome).symm
  rw [uploadThenCrash, TransitionSystem.run_append, Option.bind_eq_some_iff] at hrun
  obtain ⟨s, -, hrest⟩ := hrun
  obtain ⟨u, hcrash, hsweep⟩ := (runnerSystem sampleSettings).run_cons_eq_some.1 hrest
  cases hcrash
  intro hj
  cases driven_of_run (by simp) hsweep hj

/-- A failed call of which no task is left has an object that no retention pass will select. -/
theorem not_audioUrl_of_uploadThenCrash :
    ¬ ∀ (cfg : RunnerSettings) (s t : RunnerState) (es : List RunnerEvent),
      (runnerSystem cfg).init s → (runnerSystem cfg).run s es = some t →
        ∀ row ∈ t.rows, (∀ j, (t.tasks j).driven ≠ some row.id) → row.status.Terminal →
          t.stored row.id → row.audioUrl ≠ none := by
  intro h
  have hended : ∃ row ∈ uploadThenCrashState.rows, row.status.Terminal ∧
      uploadThenCrashState.stored row.id ∧ row.audioUrl = none := by decide +kernel
  obtain ⟨row, hrow, hterminal, hstored, hnone⟩ := hended
  have hrun : (runnerSystem sampleSettings).run emptyRunner uploadThenCrash =
      some uploadThenCrashState := (Option.some_get uploadThenCrash_isSome).symm
  refine h _ _ _ _ (emptyRunner_init sampleSettings) hrun row hrow ?_ hterminal hstored hnone
  exact fun j => not_driven_uploadThenCrashState j row.id

end Notetaker

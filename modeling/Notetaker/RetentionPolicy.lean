import Mathlib.Tactic.Linarith
import Notetaker.Retention

/-!
# What the retention passes may do

Eligibility is decided in the listing transaction and not checked again. It lasts, because a call that
has ended keeps its status, and its `updated_at` is never before its end. The lock keeps the passes
apart, so that `audio_url` is nulled by the pass that has deleted the object.
-/

open PythonText PythonUuid

namespace Notetaker

theorem terminal_of_retentionDays {cfg : RunnerSettings} {status : CallStatus} {days : ℤ}
    (h : retentionDays cfg status = some days) : status.Terminal := by
  cases status with
  | done => exact CallStatus.terminal_done
  | failed => exact CallStatus.terminal_failed
  | _ => cases h

/-- The call has been in its terminal status for longer than the window. -/
def EndedLongAgo (cfg : WorkerSettings) (s : RetentionState) (id : Uuid) : Prop :=
  ∃ row ∈ s.rows, row.id = id ∧ ∃ days endedAt, retentionDays cfg.runner row.status = some days ∧
    s.endedAt id = some endedAt ∧ endedAt + days * 86400 < s.clock

theorem mem_listed_of_claim {phase : PassPhase} {id : Uuid} {txStart : Timestamp}
    (h : phase.claim = some (id, txStart)) : id ∈ phase.listed := by
  cases phase with
  | idle => cases h
  | scanning ids reclaimed => cases h
  | _ =>
      cases h
      exact List.mem_cons_self

structure Policed (cfg : WorkerSettings) (s : RetentionState) : Prop where
  nodup : (s.rows.map Call.id).Nodup
  ended : ∀ row ∈ s.rows, row.status.Terminal →
    ∃ endedAt, s.endedAt row.id = some endedAt ∧ endedAt ≤ row.updatedAt ∧ endedAt ≤ s.clock
  endedRow : ∀ id, s.endedAt id ≠ none → ∃ row ∈ s.rows, row.id = id ∧ row.status.Terminal
  listed : ∀ i, ∀ id ∈ (s.pass i).listed, EndedLongAgo cfg s id
  started : ∀ i id txStart, (s.pass i).claim = some (id, txStart) →
    ∀ endedAt, s.endedAt id = some endedAt → endedAt ≤ txStart
  lock : ∀ i id, s.lock id = some i ↔ ∃ txStart, (s.pass i).claim = some (id, txStart)
  deleted : ∀ i id, (s.pass i).hasDeleted = some id → id ∈ s.deletedObjects

namespace Policed

variable {cfg : WorkerSettings} {s : RetentionState}

theorem of_init (h : (retentionSystem cfg).init s) : Policed cfg s := by
  obtain ⟨hrows, hlock, hpass, hended, -⟩ := h
  refine ⟨by simp [hrows], by simp [hrows], ?_, ?_, ?_, ?_, ?_⟩
  · intro id h
    exact absurd (hended id) h
  · intro i id h
    rw [hpass i] at h
    cases h
  · intro i id txStart h
    rw [hpass i] at h
    cases h
  · intro i id
    rw [hpass i, hlock id]
    simp [PassPhase.claim]
  · intro i id h
    rw [hpass i] at h
    cases h

theorem row_unique (hs : Policed cfg s) {row row' : Call} (h : row ∈ s.rows) (h' : row' ∈ s.rows)
    (hid : row.id = row'.id) : row = row' :=
  List.inj_on_of_nodup_map hs.nodup h h' hid

theorem tick (hs : Policed cfg s) {now : Timestamp} (hnow : s.clock ≤ now) :
    Policed cfg { s with clock := now } := by
  refine ⟨hs.nodup, ?_, hs.endedRow, ?_, hs.started, hs.lock, hs.deleted⟩
  · intro row hrow hterminal
    obtain ⟨endedAt, hended, hupdated, hclock⟩ := hs.ended row hrow hterminal
    exact ⟨endedAt, hended, hupdated, hclock.trans hnow⟩
  · intro i id hid
    obtain ⟨row, hrow, hrowId, days, endedAt, hdays, hended, hlong⟩ := hs.listed i id hid
    exact ⟨row, hrow, hrowId, days, endedAt, hdays, hended, hlong.trans_le hnow⟩

/-- A pass moves on: what it lists and holds is justified by the state, and the lock follows it. -/
theorem movePass (hs : Policed cfg s) {t : RetentionState} {i : ℕ} {phase : PassPhase}
    (hclock : t.clock = s.clock) (hrows : t.rows = s.rows) (hended : t.endedAt = s.endedAt)
    (hpass : t.pass = Function.update s.pass i phase)
    (hlisted : ∀ id ∈ phase.listed, EndedLongAgo cfg s id)
    (hstarted : ∀ id txStart, phase.claim = some (id, txStart) →
      (s.pass i).claim = some (id, txStart) ∨ txStart = s.clock)
    (hlock : ∀ id, t.lock id = some i ↔ ∃ txStart, phase.claim = some (id, txStart))
    (hothers : ∀ j id, j ≠ i → (t.lock id = some j ↔ s.lock id = some j))
    (hobjects : s.deletedObjects ⊆ t.deletedObjects)
    (hdeleted : ∀ id, phase.hasDeleted = some id → id ∈ t.deletedObjects) : Policed cfg t := by
  have hself : t.pass i = phase := by rw [hpass, Function.update_self]
  have hother : ∀ j, j ≠ i → t.pass j = s.pass j := fun j hj => by
    rw [hpass, Function.update_of_ne hj]
  have hlong : ∀ id, EndedLongAgo cfg s id → EndedLongAgo cfg t id := by
    intro id h
    rwa [EndedLongAgo, hrows, hended, hclock]
  refine ⟨by rw [hrows]; exact hs.nodup, ?_, ?_, ?_, ?_, ?_, ?_⟩
  · rw [hrows, hended, hclock]
    exact hs.ended
  · rw [hrows, hended]
    exact hs.endedRow
  · intro j id hid
    by_cases hj : j = i
    · subst hj
      rw [hself] at hid
      exact hlong id (hlisted id hid)
    · rw [hother j hj] at hid
      exact hlong id (hs.listed j id hid)
  · intro j id txStart hclaim endedAt hend
    rw [hended] at hend
    by_cases hj : j = i
    · subst hj
      rw [hself] at hclaim
      rcases hstarted id txStart hclaim with hold | rfl
      · exact hs.started j id txStart hold endedAt hend
      · obtain ⟨row, hrow, rfl, hterminal⟩ := hs.endedRow id (by rw [hend]; exact Option.some_ne_none _)
        obtain ⟨endedAt', hend', -, hle⟩ := hs.ended row hrow hterminal
        rw [hend] at hend'
        cases hend'
        exact hle
    · rw [hother j hj] at hclaim
      exact hs.started j id txStart hclaim endedAt hend
  · intro j id
    by_cases hj : j = i
    · subst hj
      rw [hself]
      exact hlock id
    · rw [hother j hj, hothers j id hj]
      exact hs.lock j id
  · intro j id hid
    by_cases hj : j = i
    · subst hj
      rw [hself] at hid
      exact hdeleted id hid
    · rw [hother j hj] at hid
      exact hobjects (hs.deleted j id hid)

/-- The row of one call is rewritten. A call that has ended keeps its status; its `updated_at` is not
before its end. -/
theorem rewrite (hs : Policed cfg s) {t : RetentionState} {row new : Call} (hrow : row ∈ s.rows)
    (hid : new.id = row.id) (hclock : t.clock = s.clock)
    (hrows : t.rows = modifyRow s.rows row.id fun _ => new)
    (hended : t.endedAt = if new.status.Terminal ∧ s.endedAt row.id = none then
      Function.update s.endedAt row.id (some s.clock) else s.endedAt)
    (hstatus : row.status.Terminal → new.status = row.status)
    (hupdated : ∀ endedAt, s.endedAt row.id = some endedAt → endedAt ≤ new.updatedAt)
    (hend : ¬ row.status.Terminal → new.status.Terminal → new.updatedAt = s.clock)
    (hpass : t.pass = s.pass) (hlock : t.lock = s.lock)
    (hobjects : t.deletedObjects = s.deletedObjects) : Policed cfg t := by
  have hkept : ∀ id endedAt, s.endedAt id = some endedAt → t.endedAt id = some endedAt := by
    intro id endedAt h
    rw [hended]
    split_ifs with hnew
    · rw [Function.update_of_ne, h]
      rintro rfl
      rw [hnew.2] at h
      cases h
    · exact h
  have hother : ∀ id, id ≠ row.id → t.endedAt id = s.endedAt id := by
    intro id hne
    rw [hended]
    split_ifs with hnew
    · rw [Function.update_of_ne hne]
    · rfl
  have hterminal : s.endedAt row.id ≠ none → row.status.Terminal := by
    intro h
    obtain ⟨row', hrow', hid', hterminal'⟩ := hs.endedRow row.id h
    rwa [← hs.row_unique hrow' hrow hid']
  have hnewMem : new ∈ t.rows := by
    rw [hrows]
    exact AdmissionState.mem_modifyRow_of_eq hrow rfl
  have hrowMem : ∀ row' ∈ s.rows, row'.id ≠ row.id → row' ∈ t.rows := by
    intro row' hrow' hne
    rw [hrows]
    exact AdmissionState.mem_modifyRow_of_ne hrow' hne
  refine ⟨?_, ?_, ?_, ?_, ?_, ?_, ?_⟩
  · have hids : t.rows.map Call.id = s.rows.map Call.id := by
      rw [hrows]
      exact map_id_modifyRow s.rows fun c _ hc => hid.trans hc.symm
    rw [hids]
    exact hs.nodup
  · intro row' hrow' hterminal'
    rw [hclock]
    rw [hrows] at hrow'
    obtain ⟨c, hc, rfl⟩ := mem_modifyRow hrow'
    split_ifs at hterminal' ⊢ with hcid
    swap
    · rw [hother c.id hcid]
      exact hs.ended c hc hterminal'
    · rw [hid]
      by_cases hbefore : row.status.Terminal
      · obtain ⟨endedAt, hend', -, hle⟩ := hs.ended row hrow hbefore
        exact ⟨endedAt, hkept row.id endedAt hend', hupdated endedAt hend', hle⟩
      · have hnone : s.endedAt row.id = none := by
          by_contra h
          exact hbefore (hterminal h)
        refine ⟨s.clock, ?_, (hend hbefore hterminal').ge, le_rfl⟩
        rw [hended, if_pos ⟨hterminal', hnone⟩, Function.update_self]
  · intro id hid'
    by_cases heq : id = row.id
    · subst heq
      refine ⟨new, hnewMem, hid, ?_⟩
      by_cases hbefore : s.endedAt row.id = none
      · by_contra hlive
        rw [hended, if_neg fun h => hlive h.1] at hid'
        exact hid' hbefore
      · rw [hstatus (hterminal hbefore)]
        exact hterminal hbefore
    · rw [hother id heq] at hid'
      obtain ⟨row', hrow', rfl, hterminal'⟩ := hs.endedRow id hid'
      exact ⟨row', hrowMem row' hrow' heq, rfl, hterminal'⟩
  · intro i id hlisted
    rw [hpass] at hlisted
    obtain ⟨row', hrow', rfl, days, endedAt, hdays, hend', hlong⟩ := hs.listed i id hlisted
    by_cases heq : row'.id = row.id
    · obtain rfl := hs.row_unique hrow' hrow heq
      refine ⟨new, hnewMem, hid, days, endedAt, ?_, hkept _ _ hend', by rwa [hclock]⟩
      rwa [hstatus (terminal_of_retentionDays hdays)]
    · exact ⟨row', hrowMem row' hrow' heq, rfl, days, endedAt, hdays, hkept _ _ hend', by rwa [hclock]⟩
  · intro i id txStart hclaim endedAt hend'
    rw [hpass] at hclaim
    obtain ⟨-, -, -, -, endedAt', -, hend'', -⟩ := hs.listed i id (mem_listed_of_claim hclaim)
    rw [hkept id endedAt' hend''] at hend'
    cases hend'
    exact hs.started i id txStart hclaim _ hend''
  · intro i id
    rw [hpass, hlock]
    exact hs.lock i id
  · intro i id hid'
    rw [hpass] at hid'
    rw [hobjects]
    exact hs.deleted i id hid'

theorem write (hs : Policed cfg s) {row new : Call} (hrow : row ∈ s.rows) (hid : new.id = row.id)
    (hstatus : row.status.Terminal → new.status = row.status)
    (hupdated : new.updatedAt = row.updatedAt ∨ new.updatedAt = s.clock)
    (hend : ¬ row.status.Terminal → new.status.Terminal → new.updatedAt = s.clock) :
    Policed cfg (s.write row.id new s.clock) := by
  refine hs.rewrite hrow hid rfl rfl rfl hstatus ?_ hend rfl rfl rfl
  intro endedAt hended
  obtain ⟨row', hrow', hid', hterminal⟩ := hs.endedRow row.id (by rw [hended]; exact Option.some_ne_none _)
  obtain rfl := hs.row_unique hrow' hrow hid'
  obtain ⟨endedAt', hended', hle, hclock⟩ := hs.ended row' hrow' hterminal
  rw [hended] at hended'
  cases hended'
  rcases hupdated with h | h
  · rwa [h]
  · rwa [h]

theorem insert (hs : Policed cfg s) {row : Call} (hfresh : findRow s.rows row.id = none)
    (hqueued : row.status = .queued) : Policed cfg { s with rows := s.rows ++ [row] } := by
  have hlong : ∀ id, EndedLongAgo cfg s id → EndedLongAgo cfg { s with rows := s.rows ++ [row] } id := by
    rintro id ⟨old, hold, rest⟩
    exact ⟨old, List.mem_append_left _ hold, rest⟩
  refine ⟨?_, ?_, ?_, fun i id hid => hlong id (hs.listed i id hid), hs.started, hs.lock, hs.deleted⟩
  · rw [List.map_append, List.nodup_append]
    refine ⟨hs.nodup, List.nodup_singleton _, ?_⟩
    rintro id hid _ hid' rfl
    obtain ⟨old, hold, rfl⟩ := List.mem_map.1 hid
    exact findRow_eq_none hfresh old hold (List.mem_singleton.1 hid')
  · intro row' hrow' hterminal
    rcases List.mem_append.1 hrow' with hold | hnew
    · exact hs.ended row' hold hterminal
    · rw [List.mem_singleton.1 hnew, hqueued] at hterminal
      exact absurd hterminal (by decide)
  · intro id hid
    obtain ⟨old, hold, rest⟩ := hs.endedRow id hid
    exact ⟨old, List.mem_append_left _ hold, rest⟩

theorem endedLongAgo_of_expired (hs : Policed cfg s) {rows : List Call} {ids : List Uuid}
    (hrows : ∀ row ∈ rows, row ∈ s.rows) (h : expiredIds cfg.runner s.clock rows = some ids)
    {id : Uuid} (hid : id ∈ ids) : EndedLongAgo cfg s id := by
  simp only [expiredIds, Option.bind_eq_bind, Option.bind_eq_some_iff, Option.pure_def,
    Option.some.injEq] at h
  obtain ⟨doneCutoff, hdone, failedCutoff, hfailed, rfl⟩ := h
  obtain ⟨row, hrow, rfl⟩ := List.mem_map.1 hid
  have hexpired : ∀ status days cutoff, retentionDays cfg.runner status = some days →
      beforeNow s.clock (days * 86400) = some cutoff → row ∈ rows.filter (isExpired status cutoff) →
      EndedLongAgo cfg s row.id := by
    intro status days cutoff hdays hcutoff hfilter
    obtain ⟨hmem, hrow⟩ := List.mem_filter.1 hfilter
    simp only [isExpired, Bool.and_eq_true, decide_eq_true_eq] at hrow
    obtain ⟨⟨rfl, -⟩, hold⟩ := hrow
    unfold beforeNow at hcutoff
    split_ifs at hcutoff
    cases hcutoff
    obtain ⟨endedAt, hended, hupdated, -⟩ := hs.ended row (hrows row hmem)
      (terminal_of_retentionDays hdays)
    refine ⟨row, hrows row hmem, rfl, days, endedAt, hdays, hended, ?_⟩
    rw [Int.cast_mul, Int.cast_ofNat] at hold
    linarith
  rcases List.mem_append.1 hrow with hmem | hmem
  · exact hexpired .done _ _ rfl hdone hmem
  · exact hexpired .failed _ _ rfl hfailed hmem

theorem release (hs : Policed cfg s) {i : ℕ} {id : Uuid} {txStart : Timestamp} {ids : List Uuid}
    (reclaimed : ℕ) (hclaim : (s.pass i).claim = some (id, txStart))
    (hlisted : ∀ id ∈ ids, EndedLongAgo cfg s id) : Policed cfg (s.release i id ids reclaimed) := by
  have hheld : s.lock id = some i := (hs.lock i id).2 ⟨txStart, hclaim⟩
  refine hs.movePass rfl rfl rfl rfl hlisted (fun _ _ h => by cases h) ?_ ?_
    (fun _ h => h) fun _ h => by cases h
  · intro id'
    change Function.update s.lock id none id' = some i ↔ _
    by_cases heq : id' = id
    · subst heq
      simp [PassPhase.claim]
    · rw [Function.update_of_ne heq]
      refine ⟨fun h => ?_, fun ⟨_, h⟩ => by cases h⟩
      obtain ⟨txStart', h⟩ := (hs.lock i id').1 h
      rw [hclaim] at h
      cases h
      exact absurd rfl heq
  · intro j id' hj
    change Function.update s.lock id none id' = some j ↔ _
    by_cases heq : id' = id
    · subst heq
      rw [Function.update_self, hheld]
      simp [Ne.symm hj]
    · rw [Function.update_of_ne heq]

theorem advance (hs : Policed cfg s) {t : RetentionState} {i : ℕ} {phase : PassPhase}
    (hclock : t.clock = s.clock) (hrows : t.rows = s.rows) (hended : t.endedAt = s.endedAt)
    (hpass : t.pass = Function.update s.pass i phase) (hlock : t.lock = s.lock)
    (hlisted : ∀ id ∈ phase.listed, EndedLongAgo cfg s id)
    (hclaim : phase.claim = (s.pass i).claim) (hobjects : s.deletedObjects ⊆ t.deletedObjects)
    (hdeleted : ∀ id, phase.hasDeleted = some id → id ∈ t.deletedObjects) : Policed cfg t := by
  refine hs.movePass hclock hrows hended hpass hlisted ?_ ?_ ?_ hobjects hdeleted
  · intro id txStart h
    exact .inl (hclaim ▸ h)
  · intro id
    rw [hlock, hclaim]
    exact hs.lock i id
  · intro j id _
    rw [hlock]

theorem reclaim (hs : Policed cfg s) {i : ℕ} {id : Uuid} {txStart : Timestamp}
    (hclaim : (s.pass i).claim = some (id, txStart)) :
    Policed cfg { s with rows := modifyRow s.rows id fun row =>
      { row with audioUrl := none, updatedAt := txStart } } := by
  obtain ⟨row, hrow, rfl, days, endedAt, hdays, hended, -⟩ :=
    hs.listed i id (mem_listed_of_claim hclaim)
  have hterminal := terminal_of_retentionDays hdays
  obtain ⟨nulled, hnulled⟩ : ∃ nulled : Call,
      nulled = { row with audioUrl := none, updatedAt := txStart } := ⟨_, rfl⟩
  have hrows : (modifyRow s.rows row.id fun row => { row with audioUrl := none, updatedAt := txStart }) =
      modifyRow s.rows row.id fun _ => nulled := by
    refine List.map_congr_left fun c hc => ?_
    by_cases heq : c.id = row.id
    · rw [if_pos heq, if_pos heq, hs.row_unique hc hrow heq, hnulled]
    · rw [if_neg heq, if_neg heq]
  refine hs.rewrite hrow (by rw [hnulled]) rfl hrows ?_ (fun _ => by rw [hnulled]) ?_
    (fun h => absurd hterminal h) rfl rfl rfl
  · rw [if_neg]
    rw [hended]
    exact fun h => Option.some_ne_none _ h.2
  · rw [hnulled]
    exact hs.started i row.id txStart hclaim

theorem act_pass (hs : Policed cfg s) {i : ℕ} {e : RetentionEvent} {t : RetentionState}
    (h : PassStep cfg s s.clock i e t) : Policed cfg t := by
  have hlisted : ∀ {id : Uuid} {ids : List Uuid}, (s.pass i).listed = id :: ids →
      ∀ id' ∈ ids, EndedLongAgo cfg s id' := by
    intro id ids hphase id' hid'
    exact hs.listed i id' (by rw [hphase]; exact List.mem_cons_of_mem _ hid')
  have hkeeps : ∀ {phase : PassPhase}, phase.listed = (s.pass i).listed →
      ∀ id ∈ phase.listed, EndedLongAgo cfg s id := by
    intro phase heq id hid
    exact hs.listed i id (heq ▸ hid)
  cases h with
  | listed ids hphase hids =>
      refine hs.advance rfl rfl rfl rfl rfl ?_ (by rw [hphase]; rfl) (fun _ h => h)
        fun _ h => by cases h
      intro id hid
      exact hs.endedLongAgo_of_expired (fun row hrow => List.mem_of_mem_filter hrow) hids hid
  | locked id ids reclaimed hphase hfree =>
      refine hs.movePass rfl rfl rfl rfl (hkeeps (by rw [hphase]; rfl)) ?_ ?_ ?_ (fun _ h => h)
        fun _ h => by cases h
      · intro id' txStart h
        cases h
        exact .inr rfl
      · intro id'
        change Function.update s.lock id (some i) id' = some i ↔ _
        by_cases heq : id' = id
        · subst heq
          simp [PassPhase.claim]
        · rw [Function.update_of_ne heq, hs.lock i id', hphase]
          simp [PassPhase.claim, Ne.symm heq]
      · intro j id' hj
        change Function.update s.lock id (some i) id' = some j ↔ _
        by_cases heq : id' = id
        · subst heq
          simp [hfree, Ne.symm hj]
        · rw [Function.update_of_ne heq]
  | skipped id ids reclaimed succeeds hphase hfails =>
      exact hs.advance rfl rfl rfl rfl rfl (hlisted (by rw [hphase]; rfl)) (by rw [hphase]; rfl)
        (fun _ h => h) fun _ h => by cases h
  | deleted id txStart ids reclaimed hphase =>
      refine hs.advance rfl rfl rfl rfl rfl (hkeeps (by rw [hphase]; rfl)) (by rw [hphase]; rfl)
        (fun _ h => List.mem_cons_of_mem _ h) ?_
      intro id' h
      cases h
      exact List.mem_cons_self
  | deleteFailed id txStart ids reclaimed gone hphase =>
      have hclaim : (s.pass i).claim = some (id, txStart) := by rw [hphase]; rfl
      have hreleased := hs.release reclaimed hclaim (hlisted (by rw [hphase]; rfl))
      exact ⟨hreleased.nodup, hreleased.ended, hreleased.endedRow, hreleased.listed,
        hreleased.started, hreleased.lock, hreleased.deleted⟩
  | updated id txStart ids reclaimed hphase =>
      refine hs.advance rfl rfl rfl rfl rfl (hkeeps (by rw [hphase]; rfl)) (by rw [hphase]; rfl)
        (fun _ h => h) ?_
      intro id' h
      cases h
      exact hs.deleted i id (by rw [hphase]; rfl)
  | updateFailed id txStart ids reclaimed hphase =>
      exact hs.release reclaimed (by rw [hphase]; rfl) (hlisted (by rw [hphase]; rfl))
  | committed id txStart ids reclaimed hphase =>
      have hclaim : (s.pass i).claim = some (id, txStart) := by rw [hphase]; rfl
      have hnulled := hs.reclaim hclaim
      refine hnulled.release (reclaimed + 1) hclaim ?_
      intro id' hid'
      exact hnulled.listed i id' (by
        change id' ∈ (s.pass i).listed
        rw [hphase]
        exact List.mem_cons_of_mem _ hid')
  | commitFailed id txStart ids reclaimed hphase =>
      exact hs.release reclaimed (by rw [hphase]; rfl) (hlisted (by rw [hphase]; rfl))
  | finished reclaimed hphase =>
      exact hs.advance rfl rfl rfl rfl rfl (fun _ h => by cases h) (by rw [hphase]; rfl)
        (fun _ h => h) fun _ h => by cases h

theorem act (hs : Policed cfg s) {e : RetentionEvent} {t : RetentionState}
    (h : s.act cfg s.clock e = some t) : Policed cfg t := by
  cases howner : e.owner with
  | some i => exact hs.act_pass (passStep_of_act h howner)
  | none =>
      cases tableStep_of_act h howner with
      | kept => exact hs
      | created row hfresh hqueued => exact hs.insert hfresh hqueued
      | uploaded id =>
          exact ⟨hs.nodup, hs.ended, hs.endedRow, hs.listed, hs.started, hs.lock, hs.deleted⟩
      | wrote row new hrow hid hstatus hupdated hend haudio =>
          exact hs.write hrow hid hstatus hupdated hend

theorem step (s : RetentionState) (e : Timestamp × RetentionEvent) (t : RetentionState)
    (hs : Policed cfg s) (h : (retentionSystem cfg).step s e = some t) : Policed cfg t := by
  change s.step cfg e = some t at h
  unfold RetentionState.step at h
  split_ifs at h with hclock
  exact (hs.tick hclock).act h

theorem of_reachable {s : RetentionState} (hs : (retentionSystem cfg).Reachable s) : Policed cfg s :=
  (retentionSystem cfg).reachable_invariant (fun _ => of_init) step hs

end Policed

end Notetaker

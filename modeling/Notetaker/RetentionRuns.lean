import Notetaker.RetentionPolicy
import Notetaker.WorkerSystem

/-!
# What the retention passes reclaim

A pass takes its rows in turn. A row whose turn fails keeps its `audio_url`, and the turn goes to the
next row whatever happened; so every listed row is either reclaimed or has failed itself.
-/

open PythonText PythonUuid

namespace Notetaker

namespace PassPhase

def turn (phase : PassPhase) : Option Uuid := phase.listed.head?

/-- An upper bound of the steps that the pass still takes. -/
def left : PassPhase → ℕ
  | idle => 0
  | scanning ids _ => 4 * ids.length + 1
  | updated _ _ ids _ => 4 * ids.length + 2
  | deleted _ _ ids _ => 4 * ids.length + 3
  | locked _ _ ids _ => 4 * ids.length + 4

end PassPhase

namespace RetentionState

def Fails (s : RetentionState) : RetentionEvent → Prop
  | .relock i succeeds => ¬ (succeeds ∧ ∀ id ∈ (s.pass i).turn, s.lock id = none)
  | .delete _ (.failed _) | .update _ false | .commit _ false => True
  | _ => False

end RetentionState

/-- Nothing but `audio_url` and `updated_at` differs. -/
def SameButAudio (old new : Call) : Prop :=
  ∃ audioUrl updatedAt, new = { old with audioUrl := audioUrl, updatedAt := updatedAt }

theorem SameButAudio.refl (call : Call) : SameButAudio call call := ⟨_, _, rfl⟩

structure Permitted (cfg : WorkerSettings) (s : RetentionState) (e : Timestamp × RetentionEvent)
    (t : RetentionState) : Prop where
  deletes : ∀ id, s.stored id → ¬ t.stored id → EndedLongAgo cfg t id
  nulls : ∀ row ∈ s.rows, row.audioUrl ≠ none → ∀ new ∈ t.rows, new.id = row.id →
    new.audioUrl = none → row.id ∈ s.deletedObjects
  keeps : e.2.owner ≠ none → List.Forall₂ SameButAudio s.rows t.rows
  fails : ∀ i, e.2.owner = some i → s.Fails e.2 → t.rows = s.rows ∧
    ∃ id ids reclaimed, (s.pass i).listed = id :: ids ∧ t.pass i = .scanning ids reclaimed
  others : ∀ i, e.2.owner ≠ some i → t.pass i = s.pass i

/-- Row `id` has had its turn in pass `i`: either its own step failed, or it is reclaimed. -/
def Served (cfg : WorkerSettings) (s : RetentionState) (es : List (Timestamp × RetentionEvent))
    (i : ℕ) (id : Uuid) : Prop :=
  ∃ es₁ e es₂ u v, es = es₁ ++ e :: es₂ ∧ (retentionSystem cfg).run s es₁ = some u ∧
    (retentionSystem cfg).step u e = some v ∧ e.2.owner = some i ∧ (u.pass i).turn = some id ∧
    (u.Fails e.2 ∨ id ∈ v.deletedObjects ∧ ∃ row ∈ v.rows, row.id = id ∧ row.audioUrl = none)

section Step

variable {cfg : WorkerSettings} {s t : RetentionState} {now : Timestamp}

theorem forall₂_modifyRow {R : Call → Call → Prop} {f : Call → Call} {id : Uuid}
    (hrefl : ∀ row, R row row) (hf : ∀ row, R row (f row)) (rows : List Call) :
    List.Forall₂ R rows (modifyRow rows id f) := by
  induction rows with
  | nil => exact .nil
  | cons row rows ih =>
      refine .cons ?_ ih
      change R row (if row.id = id then f row else row)
      split_ifs
      · exact hf row
      · exact hrefl row

theorem rows_passStep {i : ℕ} {e : RetentionEvent} (h : PassStep cfg s now i e t) :
    t.rows = s.rows ∨ ∃ id txStart ids reclaimed, s.pass i = .updated id txStart ids reclaimed ∧
      t.rows = modifyRow s.rows id fun row =>
        { row with audioUrl := none, updatedAt := txStart } := by
  cases h with
  | committed id txStart ids reclaimed hphase => exact .inr ⟨id, txStart, ids, reclaimed, hphase, rfl⟩
  | _ => exact .inl rfl

theorem stored_passStep {i : ℕ} {e : RetentionEvent} (h : PassStep cfg s now i e t) {id : Uuid}
    (hbefore : s.stored id) (hafter : ¬ t.stored id) :
    t.rows = s.rows ∧ t.endedAt = s.endedAt ∧ t.clock = s.clock ∧ id ∈ (s.pass i).listed := by
  cases h with
  | deleted id' txStart ids reclaimed hphase =>
      refine ⟨rfl, rfl, rfl, ?_⟩
      rw [hphase]
      by_contra hlisted
      have hne : id ≠ id' := fun heq => hlisted (heq ▸ List.mem_cons_self)
      apply hafter
      change Function.update s.stored id' false id = true
      rw [Function.update_of_ne hne]
      exact hbefore
  | deleteFailed id' txStart ids reclaimed gone hphase =>
      refine ⟨rfl, rfl, rfl, ?_⟩
      rw [hphase]
      by_contra hlisted
      have hne : id ≠ id' := fun heq => hlisted (heq ▸ List.mem_cons_self)
      apply hafter
      change (if gone then Function.update s.stored id' false else s.stored) id = true
      split_ifs
      · rw [Function.update_of_ne hne]
        exact hbefore
      · exact hbefore
  | _ => exact absurd hbefore hafter

theorem pass_passStep {i : ℕ} {e : RetentionEvent} (h : PassStep cfg s now i e t) {j : ℕ}
    (hj : j ≠ i) : t.pass j = s.pass j := by
  cases h <;> exact Function.update_of_ne hj _ _

theorem fails_passStep {i : ℕ} {e : RetentionEvent} (h : PassStep cfg s now i e t)
    (hfails : s.Fails e) : t.rows = s.rows ∧
      ∃ id ids reclaimed, (s.pass i).listed = id :: ids ∧ t.pass i = .scanning ids reclaimed := by
  cases h with
  | locked id ids reclaimed hphase hfree =>
      refine absurd ⟨rfl, ?_⟩ hfails
      intro id' hid'
      rw [hphase] at hid'
      obtain rfl := Option.some.inj hid'
      exact hfree
  | skipped id ids reclaimed succeeds hphase hskips =>
      exact ⟨rfl, id, ids, reclaimed, by rw [hphase]; rfl, Function.update_self ..⟩
  | deleteFailed id txStart ids reclaimed gone hphase =>
      exact ⟨rfl, id, ids, reclaimed, by rw [hphase]; rfl, Function.update_self ..⟩
  | updateFailed id txStart ids reclaimed hphase =>
      exact ⟨rfl, id, ids, reclaimed, by rw [hphase]; rfl, Function.update_self ..⟩
  | commitFailed id txStart ids reclaimed hphase =>
      exact ⟨rfl, id, ids, reclaimed, by rw [hphase]; rfl, Function.update_self ..⟩
  | _ => exact hfails.elim

theorem served_passStep (hs : Policed cfg s) {i : ℕ} {e : RetentionEvent}
    (h : PassStep cfg s now i e t) {id : Uuid} (hbefore : id ∈ (s.pass i).listed)
    (hafter : id ∉ (t.pass i).listed) : (s.pass i).turn = some id ∧
      (s.Fails e ∨ id ∈ t.deletedObjects ∧ ∃ row ∈ t.rows, row.id = id ∧ row.audioUrl = none) := by
  have hrow : ∃ row ∈ s.rows, row.id = id := by
    obtain ⟨row, hrow, hid, -⟩ := hs.listed i id hbefore
    exact ⟨row, hrow, hid⟩
  have hhead : ∀ {id' : Uuid} {ids : List Uuid}, (s.pass i).listed = id' :: ids →
      (t.pass i).listed = ids → id' = id ∧ (s.pass i).turn = some id := by
    intro id' ids hold hnew
    rw [hnew] at hafter
    rw [hold] at hbefore
    rcases List.mem_cons.1 hbefore with rfl | hmem
    · exact ⟨rfl, by rw [PassPhase.turn, hold]; rfl⟩
    · exact absurd hmem hafter
  have hkept : ∀ phase, t.pass i = phase → phase.listed ≠ (s.pass i).listed := by
    intro phase hphase heq
    rw [hphase, heq] at hafter
    exact hafter hbefore
  cases h with
  | listed ids hphase hids =>
      rw [hphase] at hbefore
      cases hbefore
  | skipped id' ids reclaimed succeeds hphase hskips =>
      obtain ⟨rfl, hturn⟩ := hhead (by rw [hphase]; rfl)
        (congrArg PassPhase.listed (Function.update_self ..))
      refine ⟨hturn, .inl fun ⟨hsucceeds, hlock⟩ => hskips ⟨hsucceeds, hlock id' hturn, ?_⟩⟩
      obtain ⟨row, hmem, hid⟩ := hrow
      by_contra hnone
      exact findRow_eq_none (Option.not_isSome_iff_eq_none.1 hnone) row hmem hid
  | committed id' txStart ids reclaimed hphase =>
      obtain ⟨rfl, hturn⟩ := hhead (by rw [hphase]; rfl)
        (congrArg PassPhase.listed (Function.update_self ..))
      refine ⟨hturn, .inr ⟨hs.deleted i id' (by rw [hphase]; rfl), ?_⟩⟩
      obtain ⟨row, hmem, hid⟩ := hrow
      exact ⟨_, AdmissionState.mem_modifyRow_of_eq hmem hid, hid, rfl⟩
  | deleteFailed id' txStart ids reclaimed gone hphase =>
      obtain ⟨rfl, hturn⟩ := hhead (by rw [hphase]; rfl)
        (congrArg PassPhase.listed (Function.update_self ..))
      exact ⟨hturn, .inl trivial⟩
  | updateFailed id' txStart ids reclaimed hphase =>
      obtain ⟨rfl, hturn⟩ := hhead (by rw [hphase]; rfl)
        (congrArg PassPhase.listed (Function.update_self ..))
      exact ⟨hturn, .inl trivial⟩
  | commitFailed id' txStart ids reclaimed hphase =>
      obtain ⟨rfl, hturn⟩ := hhead (by rw [hphase]; rfl)
        (congrArg PassPhase.listed (Function.update_self ..))
      exact ⟨hturn, .inl trivial⟩
  | finished reclaimed hphase =>
      rw [hphase] at hbefore
      cases hbefore
  | locked id' ids reclaimed hphase hfree =>
      exact absurd (by rw [hphase]; rfl) (hkept (.locked id' now ids reclaimed) (Function.update_self ..))
  | deleted id' txStart ids reclaimed hphase =>
      exact absurd (by rw [hphase]; rfl) (hkept (.deleted id' txStart ids reclaimed) (Function.update_self ..))
  | updated id' txStart ids reclaimed hphase =>
      exact absurd (by rw [hphase]; rfl) (hkept (.updated id' txStart ids reclaimed) (Function.update_self ..))

theorem tableStep_audioUrl (hs : Policed cfg s) (h : TableStep s now t) {row new : Call}
    (hrow : row ∈ s.rows) (hnew : new ∈ t.rows) (hid : new.id = row.id)
    (haudio : row.audioUrl ≠ none) : new.audioUrl ≠ none := by
  have hsame : new ∈ s.rows → new.audioUrl ≠ none := by
    intro hmem
    rwa [hs.row_unique hmem hrow hid]
  cases h with
  | kept => exact hsame hnew
  | uploaded id => exact hsame hnew
  | created created hfresh hqueued =>
      rcases List.mem_append.1 hnew with hold | hmem
      · exact hsame hold
      · obtain rfl := List.mem_singleton.1 hmem
        exact absurd hid.symm (findRow_eq_none hfresh row hrow)
  | wrote old written hold hidWritten hstatus hupdated hend hkeeps =>
      obtain ⟨c, hc, rfl⟩ := mem_modifyRow hnew
      split_ifs at hid ⊢ with hcid
      · obtain rfl := hs.row_unique hold hrow (hidWritten.symm.trans hid)
        exact hkeeps haudio
      · rwa [hs.row_unique hc hrow hid]

theorem permitted_of_act (hs : Policed cfg s) {e : RetentionEvent} (hnow : now = s.clock)
    (h : s.act cfg now e = some t) : Permitted cfg s (now, e) t := by
  subst hnow
  cases howner : e.owner with
  | none =>
      have htable := tableStep_of_act h howner
      refine ⟨?_, ?_, fun hne => absurd howner hne, ?_, ?_⟩
      · intro id hbefore hafter
        cases htable with
        | uploaded id' =>
            refine absurd ?_ hafter
            change Function.update s.stored id' true id = true
            by_cases heq : id = id'
            · rw [heq, Function.update_self]
            · rw [Function.update_of_ne heq]
              exact hbefore
        | _ => exact absurd hbefore hafter
      · intro row hrow haudio new hnew hid hnone
        exact absurd hnone (tableStep_audioUrl hs htable hrow hnew hid haudio)
      · intro i hi
        rw [howner] at hi
        cases hi
      · intro i _
        cases htable <;> rfl
  | some i =>
      have hpass := passStep_of_act h howner
      refine ⟨?_, ?_, ?_, ?_, ?_⟩
      · intro id hbefore hafter
        obtain ⟨hrows, hended, hclock, hlisted⟩ := stored_passStep hpass hbefore hafter
        rw [EndedLongAgo, hrows, hended, hclock]
        exact hs.listed i id hlisted
      · intro row hrow haudio new hnew hid hnone
        rcases rows_passStep hpass with heq | ⟨id, txStart, ids, reclaimed, hphase, heq⟩
        · rw [heq] at hnew
          rw [hs.row_unique hnew hrow hid] at hnone
          exact absurd hnone haudio
        · rw [heq] at hnew
          obtain ⟨c, hc, rfl⟩ := mem_modifyRow hnew
          split_ifs at hid hnone with hcid
          · have hrowId : row.id = id := hid.symm.trans hcid
            rw [hrowId]
            exact hs.deleted i id (by rw [hphase]; rfl)
          · rw [hs.row_unique hc hrow hid] at hnone
            exact absurd hnone haudio
      · intro _
        rcases rows_passStep hpass with heq | ⟨id, txStart, ids, reclaimed, hphase, heq⟩
        · rw [heq]
          exact List.forall₂_same.2 fun row _ => .refl row
        · rw [heq]
          exact forall₂_modifyRow .refl (fun row => ⟨_, _, rfl⟩) s.rows
      · intro j hj hfails
        obtain rfl := Option.some.inj (howner.symm.trans hj)
        exact fails_passStep hpass hfails
      · intro j hj
        exact pass_passStep hpass fun heq => hj (heq ▸ howner)

theorem permitted_of_step (hs : Policed cfg s) {e : Timestamp × RetentionEvent}
    (h : (retentionSystem cfg).step s e = some t) : Permitted cfg s e t := by
  change s.step cfg e = some t at h
  unfold RetentionState.step at h
  split_ifs at h with hclock
  have hact := permitted_of_act (hs.tick hclock) rfl h
  exact ⟨hact.deletes, hact.nulls, hact.keeps, hact.fails, hact.others⟩

theorem served_of_step (hs : Policed cfg s) {e : Timestamp × RetentionEvent}
    (h : (retentionSystem cfg).step s e = some t) {i : ℕ} {id : Uuid}
    (hbefore : id ∈ (s.pass i).listed) (hafter : id ∉ (t.pass i).listed) :
    e.2.owner = some i ∧ (s.pass i).turn = some id ∧
      (s.Fails e.2 ∨ id ∈ t.deletedObjects ∧ ∃ row ∈ t.rows, row.id = id ∧ row.audioUrl = none) := by
  have howner : e.2.owner = some i := by
    by_contra hne
    rw [(permitted_of_step hs h).others i hne] at hafter
    exact hafter hbefore
  change s.step cfg e = some t at h
  unfold RetentionState.step at h
  split_ifs at h with hclock
  exact ⟨howner, served_passStep (hs.tick hclock) (passStep_of_act h howner) hbefore hafter⟩

end Step

section Run

variable {cfg : WorkerSettings} {s t : RetentionState}

theorem served_of_run (hs : Policed cfg s) {es : List (Timestamp × RetentionEvent)}
    (hrun : (retentionSystem cfg).run s es = some t) {i : ℕ} {id : Uuid}
    (hbefore : id ∈ (s.pass i).listed) (hafter : id ∉ (t.pass i).listed) : Served cfg s es i id := by
  induction es generalizing s with
  | nil =>
      obtain rfl : s = t := by simpa using hrun
      exact absurd hbefore hafter
  | cons e es ih =>
      obtain ⟨u, hu, hrest⟩ := (retentionSystem cfg).run_cons_eq_some.1 hrun
      by_cases hnext : id ∈ (u.pass i).listed
      · obtain ⟨es₁, e', es₂, v, w, hsplit, hrun₁, hstep⟩ :=
          ih (Policed.step s e u hs hu) hrest hnext
        refine ⟨e :: es₁, e', es₂, v, w, by rw [hsplit, List.cons_append], ?_, hstep⟩
        exact (retentionSystem cfg).run_cons_eq_some.2 ⟨u, hu, hrun₁⟩
      · exact ⟨[], e, es, s, u, rfl, rfl, hu, served_of_step hs hu hbefore hnext⟩

theorem left_passStep {i : ℕ} {now : Timestamp} {e : RetentionEvent}
    (h : PassStep cfg s now i e t) (hpass : s.pass i ≠ .idle) :
    (t.pass i).left < (s.pass i).left := by
  have hself : ∀ {phase : PassPhase}, t.pass i = phase → phase.left < (s.pass i).left →
      (t.pass i).left < (s.pass i).left := by
    intro phase heq hlt
    rwa [heq]
  cases h with
  | listed ids hphase hids => exact absurd hphase hpass
  | skipped id ids reclaimed succeeds hphase hskips =>
      apply hself (Function.update_self ..)
      rw [hphase, PassPhase.left, PassPhase.left, List.length_cons]
      omega
  | locked id ids reclaimed hphase hfree =>
      apply hself (Function.update_self ..)
      rw [hphase, PassPhase.left, PassPhase.left, List.length_cons]
      omega
  | _ =>
      apply hself (Function.update_self ..)
      simp only [*, PassPhase.left]
      omega

theorem exists_act (cfg : WorkerSettings) {i : ℕ} (hpass : s.pass i ≠ .idle) (now : Timestamp) (succeeds : Bool)
    (outcome : DeleteOutcome) :
    ∃ e ∈ [RetentionEvent.relock i succeeds, .delete i outcome, .update i succeeds,
        .commit i succeeds, .finish i], (s.act cfg now e).isSome := by
  cases hphase : s.pass i with
  | idle => exact absurd hphase hpass
  | scanning ids reclaimed =>
      cases ids with
      | nil => exact ⟨.finish i, by simp, by simp [RetentionState.act, hphase]⟩
      | cons id ids =>
          refine ⟨.relock i succeeds, by simp, ?_⟩
          simp only [RetentionState.act, hphase]
          split_ifs <;> rfl
  | locked id txStart ids reclaimed =>
      refine ⟨.delete i outcome, by simp, ?_⟩
      simp only [RetentionState.act, hphase]
      cases outcome <;> rfl
  | deleted id txStart ids reclaimed =>
      refine ⟨.update i succeeds, by simp, ?_⟩
      simp only [RetentionState.act, hphase]
      split_ifs <;> rfl
  | updated id txStart ids reclaimed =>
      refine ⟨.commit i succeeds, by simp, ?_⟩
      simp only [RetentionState.act, hphase]
      split_ifs <;> rfl

theorem exists_passStep {i : ℕ} (hpass : s.pass i ≠ .idle) {now : Timestamp} (hnow : s.clock ≤ now)
    (succeeds : Bool) (outcome : DeleteOutcome) :
    ∃ e ∈ [RetentionEvent.relock i succeeds, .delete i outcome, .update i succeeds,
        .commit i succeeds, .finish i], ∃ t, (retentionSystem cfg).step s (now, e) = some t ∧
      (t.pass i).left < (s.pass i).left := by
  obtain ⟨u, hu⟩ : ∃ u, u = { s with clock := now } := ⟨_, rfl⟩
  have hupass : u.pass i = s.pass i := by rw [hu]
  obtain ⟨e, hmem, henabled⟩ := exists_act cfg (hupass ▸ hpass) now succeeds outcome
  obtain ⟨t, ht⟩ := Option.isSome_iff_exists.1 henabled
  have howner : e.owner = some i := by
    simp only [List.mem_cons, List.not_mem_nil, or_false] at hmem
    rcases hmem with rfl | rfl | rfl | rfl | rfl <;> rfl
  refine ⟨e, hmem, t, ?_, ?_⟩
  · change s.step cfg (now, e) = some t
    rw [RetentionState.step, if_pos hnow, ← hu]
    exact ht
  · rw [← hupass]
    exact left_passStep (passStep_of_act ht howner) (hupass ▸ hpass)

/-- In every run, the passes delete only objects whose window is over, null `audio_url` only behind the
deletion, and touch nothing else. Every row that a pass has listed is reclaimed or fails in its own
turn, and the pass reaches its end whatever the rows do. -/
theorem retention_policy (cfg : WorkerSettings) {s : RetentionState}
    (hs : (retentionSystem cfg).Reachable s) :
    (∀ e t, (retentionSystem cfg).step s e = some t → Permitted cfg s e t) ∧
    (∀ es t, (retentionSystem cfg).run s es = some t → ∀ i, ∀ id ∈ (s.pass i).listed,
      id ∉ (t.pass i).listed → Served cfg s es i id) ∧
    ∀ i now succeeds outcome, s.pass i ≠ .idle → s.clock ≤ now →
      ∃ e ∈ [RetentionEvent.relock i succeeds, .delete i outcome, .update i succeeds,
          .commit i succeeds, .finish i], ∃ t, (retentionSystem cfg).step s (now, e) = some t ∧
        (t.pass i).left < (s.pass i).left := by
  have hpoliced := Policed.of_reachable hs
  refine ⟨fun e t => permitted_of_step hpoliced, ?_, ?_⟩
  · intro es t hrun i id hbefore hafter
    exact served_of_run hpoliced hrun hbefore hafter
  · intro i now succeeds outcome hpass hnow
    exact exists_passStep hpass hnow succeeds outcome

end Run

/-! ## Two passes over two ended calls -/

def emptyRetention : RetentionState where
  clock := 0
  rows := []
  lock _ := none
  stored _ := false
  pass _ := .idle
  endedAt _ := none
  deletedObjects := []

/-- The life of a call whose recording is stored at time 600. -/
def storedCall (id : Uuid) : List (Timestamp × RetentionEvent) :=
  [(0, .create sampleCreate id), (1, .transition id (.pollOnce 1 true)),
    (30, .transition id .markRecording), (600, .transition id (.applyExitStatus (some 0) none)),
    (600, .upload id),
    (600, .transition id (.finishDoneCall "call_ended".toList (StorageBackend.objectUri
      sampleSettings.storage id) []))]

/-- Call 8 is a minute behind call 7. Both passes list both calls. -/
def listedTwice : List (Timestamp × RetentionEvent) :=
  storedCall 7 ++ (storedCall 8).map (fun e => (e.1 + 600, e.2)) ++ [(1300, .list 0), (1300, .list 1)]

/-- Pass 1 holds call 7 while pass 0 works. -/
def skippedRow : List (Timestamp × RetentionEvent) :=
  [(1301, .relock 1 true), (1302, .relock 0 true), (1302, .relock 0 true), (1303, .delete 0 .succeeded),
    (1303, .update 0 true), (1303, .commit 0 true)]

theorem listedTwice_isSome :
    ((retentionSystem sampleWorker).run emptyRetention listedTwice).isSome := by decide +kernel

def listedTwiceState : RetentionState :=
  ((retentionSystem sampleWorker).run emptyRetention listedTwice).get listedTwice_isSome

theorem skippedRow_isSome :
    ((retentionSystem sampleWorker).run listedTwiceState skippedRow).isSome := by decide +kernel

def skippedRowState : RetentionState :=
  ((retentionSystem sampleWorker).run listedTwiceState skippedRow).get skippedRow_isSome

theorem listedTwice_reachable : (retentionSystem sampleWorker).Reachable listedTwiceState :=
  ⟨emptyRetention, listedTwice, ⟨rfl, fun _ => rfl, fun _ => rfl, fun _ => rfl, rfl⟩,
    (Option.some_get listedTwice_isSome).symm⟩

/-- The locked row keeps its `audio_url`, and the row behind it is reclaimed. -/
theorem retention_policy_skippedRow :
    Served sampleWorker listedTwiceState skippedRow 0 7 ∧
      Served sampleWorker listedTwiceState skippedRow 0 8 ∧
      skippedRowState.rows.map (fun row => (row.id, row.audioUrl.isSome)) = [(7, true), (8, false)] := by
  have hpolicy := retention_policy sampleWorker listedTwice_reachable
  have hrun : (retentionSystem sampleWorker).run listedTwiceState skippedRow = some skippedRowState :=
    (Option.some_get skippedRow_isSome).symm
  have hbefore : (listedTwiceState.pass 0).listed = [7, 8] := by decide +kernel
  have hafter : (skippedRowState.pass 0).listed = [] := by decide +kernel
  have hserved : ∀ id ∈ [7, 8], Served sampleWorker listedTwiceState skippedRow 0 id := by
    intro id hid
    apply hpolicy.2.1 skippedRow skippedRowState hrun 0 id
    · rwa [hbefore]
    · rw [hafter]
      exact List.not_mem_nil
  exact ⟨hserved 7 (by simp), hserved 8 (by simp), by decide +kernel⟩

end Notetaker

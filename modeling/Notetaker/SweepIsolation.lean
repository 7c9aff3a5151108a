import Notetaker.AdmissionSafety
import Notetaker.CallWrites
import Notetaker.Effectful
import Notetaker.WebhookDelivery

/-!
# A pass of the stale sweep that meets faults

`stale_sweep` with everything that may raise on a call: the two docker commands, the transaction and the
webhook dispatch. The guard stands around the whole pass, so that the first fault ends it; then it is
logged. A fault in docker keeps the call itself in its status.
-/

open PythonText PythonUuid

namespace Notetaker.SweepIsolation

/-- What an effect comes to; one that raises may have taken place all the same. -/
inductive EffectOutcome where
  | returns
  | raises (done : Bool)
  deriving DecidableEq

/-- What docker, the database and the dispatch answer for each call, the receivers of the webhooks, and
the times. -/
structure SweepEnv where
  kill : Uuid → EffectOutcome
  remove : Uuid → EffectOutcome
  update : Uuid → EffectOutcome
  dispatch : Uuid → EffectOutcome
  receiver : Uuid → ℕ → Attempt
  now : Timestamp
  updateNow : Uuid → Timestamp
  dispatchTx : Uuid → Timestamp
  dispatchNow : Uuid → Timestamp

inductive SweepAct where
  | docker (command : DockerCommand)
  | commit (row : Call)
  /-- `dispatch_webhook`, with the row it reads. -/
  | dispatch (read : Option Call) (delivery : Option Delivery)

structure SweepWorld where
  rows : List Call
  acts : List SweepAct

inductive SweepError where
  /-- `OverflowError` of a cutoff. -/
  | overflow
  | docker | notFound | update | dispatch
  deriving DecidableEq

abbrev Sweeping := Effectful SweepError SweepWorld

section Sweep

variable (cfg : WorkerSettings) (env : SweepEnv)

def effect (outcome : EffectOutcome) (e : SweepError) (act : SweepWorld → SweepWorld) :
    Sweeping Unit :=
  match outcome with
  | .returns => .update act
  | .raises true => do
      .update act
      .raise e
  | .raises false => .raise e

def runDocker (outcome : EffectOutcome) (command : DockerCommand) : Sweeping Unit :=
  effect outcome .docker fun w => { w with acts := w.acts ++ [.docker command] }

def writeRow (new : Call) (w : SweepWorld) : SweepWorld where
  rows := modifyRow w.rows new.id fun _ => new
  acts := w.acts ++ [.commit new]

/-- `mark_failed(call_id, "stale_call")` with its commit; a conflict is rolled back. -/
def markStale (id : Uuid) : Sweeping Bool := do
  match findRow (← .current).rows id with
  | none => .raise .notFound
  | some row =>
      match Transition.staleSweep.body cfg.runner.callConcurrencyLimit (env.updateNow id) row with
      | none => return false
      | some todo =>
          effect (env.update id) .update (writeRow (applyStatements row todo))
          return true

/-- `dispatch_webhook` -/
def deliverTo (id : Uuid) (w : SweepWorld) : SweepWorld :=
  let read := findRow w.rows id
  let delivery := dispatchWebhook cfg.codec cfg.webhookMaxAttempts (env.receiver id)
    (env.dispatchTx id) (env.dispatchNow id) read
  { rows := match delivery with
      | some delivery => modifyRow w.rows id fun _ => delivery.call
      | none => w.rows
    acts := w.acts ++ [.dispatch read delivery] }

def dispatch (id : Uuid) : Sweeping Unit :=
  effect (env.dispatch id) .dispatch (deliverTo cfg env id)

/-- The body of the loop of `_stale_sweep_inner`. -/
def sweepCall (id : Uuid) : Sweeping Unit := do
  runDocker (env.kill id) (.kill (containerName id))
  runDocker (env.remove id) (.rmForce (containerName id))
  if ← markStale cfg env id then dispatch cfg env id

def staleSweepInner : Sweeping Unit := do
  match staleIds cfg.runner env.now (← .current).rows with
  | none => .raise .overflow
  | some ids => .forEach (sweepCall cfg env) ids

/-- `except Exception: logger.exception(...)` -/
def staleSweep : Sweeping Unit := .rescue (staleSweepInner cfg env) fun _ => pure ()

end Sweep

/-! ## Isolation -/

section Isolation

variable (cfg : WorkerSettings) (env : SweepEnv)

def EffectOutcome.Raises (outcome : EffectOutcome) : Prop := outcome ≠ .returns

instance (outcome : EffectOutcome) : Decidable outcome.Raises :=
  inferInstanceAs (Decidable (_ ≠ _))

namespace SweepEnv

def DockerRaises (id : Uuid) : Prop := (env.kill id).Raises ∨ (env.remove id).Raises

def Faulty (id : Uuid) : Prop :=
  env.DockerRaises id ∨ (env.update id).Raises ∨ (env.dispatch id).Raises

instance (id : Uuid) : Decidable (env.DockerRaises id) := inferInstanceAs (Decidable (_ ∨ _))

instance (id : Uuid) : Decidable (env.Faulty id) := inferInstanceAs (Decidable (_ ∨ _ ∨ _))

end SweepEnv

def HasRow (id : Uuid) (kind : Call → Prop) (w : SweepWorld) : Prop :=
  ∃ row, findRow w.rows id = some row ∧ kind row

def FailedStale (id : Uuid) : SweepWorld → Prop :=
  HasRow id fun row => row.status = .failed ∧ row.failureReason = some "stale_call".toList

/-- The webhook of the failed row has been dispatched; it is delivered unless it was before. -/
def DispatchedStale (id : Uuid) (w : SweepWorld) : Prop :=
  ∃ row delivery, SweepAct.dispatch (some row) delivery ∈ w.acts ∧ row.id = id ∧
    row.status = .failed ∧ (row.webhookDeliveredAt = none → delivery.isSome)

/-- The calls that a pass finds stale. -/
def swept (rows : List Call) : List Uuid := (staleIds cfg.runner env.now rows).getD []

/-- The pass returns, the calls without a fault are failed and their webhooks dispatched, and a fault in
docker alone does not keep a call from being failed. -/
structure IsolatesFaults (rows : List Call) : Prop where
  returns : (staleSweep cfg env ⟨rows, []⟩).1 = .ok ()
  others : ∀ id ∈ swept cfg env rows, ¬ env.Faulty id →
    FailedStale id (staleSweep cfg env ⟨rows, []⟩).2 ∧
      DispatchedStale id (staleSweep cfg env ⟨rows, []⟩).2
  ownRow : ∀ id ∈ swept cfg env rows, env.DockerRaises id → ¬ (env.update id).Raises →
    FailedStale id (staleSweep cfg env ⟨rows, []⟩).2

/-- Docker fails only where the transaction would fail as well, and the calls with a fault come last. -/
structure FaultsLast (rows : List Call) : Prop where
  docker : ∀ id ∈ swept cfg env rows, env.DockerRaises id → (env.update id).Raises
  order : (swept cfg env rows).Pairwise fun id later => env.Faulty id → env.Faulty later

end Isolation

/-! ## What the effects leave behind -/

section Effects

variable {cfg : WorkerSettings} {env : SweepEnv} {id other : Uuid} {w : SweepWorld} {row : Call}

theorem effect_of_returns {outcome : EffectOutcome} (h : ¬ outcome.Raises) (e : SweepError)
    (act : SweepWorld → SweepWorld) (w : SweepWorld) : effect outcome e act w = (.ok (), act w) := by
  obtain rfl : outcome = .returns := not_not.1 h
  rfl

theorem effect_of_raises {outcome : EffectOutcome} (h : outcome.Raises) (e : SweepError)
    (act : SweepWorld → SweepWorld) (w : SweepWorld) :
    ∃ t, effect outcome e act w = (.error e, t) := by
  cases outcome with
  | returns => exact absurd rfl h
  | raises done => cases done <;> exact ⟨_, rfl⟩

theorem keeps_effect {inv : SweepWorld → Prop} {act : SweepWorld → SweepWorld}
    (h : ∀ w, inv w → inv (act w)) (outcome : EffectOutcome) (e : SweepError) :
    Effectful.Keeps inv (effect outcome e act) := by
  intro w hw
  rcases outcome with - | done
  · exact h w hw
  · cases done with
    | false => exact hw
    | true => exact h w hw

theorem hasRow_writeRow {kind : Call → Prop} {new : Call} (hne : new.id ≠ id)
    (h : HasRow id kind w) : HasRow id kind (writeRow new w) := by
  obtain ⟨row, hrow, hkind⟩ := h
  refine ⟨row, ?_, hkind⟩
  change findRow (modifyRow w.rows new.id fun _ => new) id = some row
  rw [findRow_modifyRow_of_id fun _ _ => rfl, if_neg hne.symm, hrow]

variable (cfg env) in
theorem rows_deliverTo (id : Uuid) (w : SweepWorld) :
    (deliverTo cfg env id w).rows = w.rows ∨
      ∃ row new, findRow w.rows id = some row ∧ SameButDelivery row new ∧
        (deliverTo cfg env id w).rows = modifyRow w.rows id fun _ => new := by
  unfold deliverTo
  dsimp only
  cases hrow : findRow w.rows id with
  | none => exact .inl rfl
  | some row =>
      unfold dispatchWebhook
      dsimp only
      split_ifs
      · exact .inl rfl
      · exact .inr ⟨row, _, rfl, sameButDelivery_deliver _ _ _ _ _ row, rfl⟩

theorem hasRow_deliverTo {kind : Call → Prop} (hne : other ≠ id) (h : HasRow id kind w) :
    HasRow id kind (deliverTo cfg env other w) := by
  obtain ⟨row, hrow, hkind⟩ := h
  refine ⟨row, ?_, hkind⟩
  rcases rows_deliverTo cfg env other w with hsame | ⟨read, new, hread, hnew, hrows⟩
  · rw [hsame, hrow]
  · have hid : new.id = other := hnew.id_eq.trans (findRow_mem hread).2
    rw [hrows, findRow_modifyRow_of_id fun _ _ => hid, if_neg hne.symm, hrow]

theorem failedStale_deliverTo (h : FailedStale id w) : FailedStale id (deliverTo cfg env id w) := by
  obtain ⟨row, hrow, hstatus, hreason⟩ := h
  rcases rows_deliverTo cfg env id w with hsame | ⟨read, new, hread, hnew, hrows⟩
  · exact ⟨row, by rw [hsame, hrow], hstatus, hreason⟩
  · obtain rfl : row = read := Option.some.inj (hrow.symm.trans hread)
    have hid : new.id = id := hnew.id_eq.trans (findRow_mem hread).2
    refine ⟨new, ?_, hnew.status_eq.trans hstatus, ?_⟩
    · rw [hrows]
      exact findRow_modifyRow hrow hid
    · obtain ⟨_, _, _, rfl⟩ := hnew
      exact hreason

theorem dispatchedStale_deliverTo (h : FailedStale id w) :
    DispatchedStale id (deliverTo cfg env id w) := by
  obtain ⟨row, hrow, hstatus, -⟩ := h
  refine ⟨row, dispatchWebhook cfg.codec cfg.webhookMaxAttempts (env.receiver id)
    (env.dispatchTx id) (env.dispatchNow id) (some row), ?_, (findRow_mem hrow).2, hstatus, ?_⟩
  · unfold deliverTo
    rw [hrow]
    exact List.mem_append_right _ (List.mem_singleton_self _)
  · intro hpending
    unfold dispatchWebhook
    dsimp only
    have hterminal : row.status.Terminal := by
      rw [hstatus]
      decide
    rw [if_neg (by simp [hpending, hterminal])]
    rfl

theorem dispatchedStale_of_acts {t : SweepWorld} (hacts : w.acts <+: t.acts)
    (h : DispatchedStale id w) : DispatchedStale id t := by
  obtain ⟨row, delivery, hmem, hrow⟩ := h
  exact ⟨row, delivery, hacts.subset hmem, hrow⟩

end Effects

/-! ## One call -/

section Call

variable {cfg : WorkerSettings} {env : SweepEnv} {id other : Uuid} {w : SweepWorld} {row : Call}

variable (cfg env) in
theorem markStale_of_live (hrow : findRow w.rows id = some row) (hlive : ¬ row.status.Terminal) :
    ∃ new, new.id = id ∧ new.status = .failed ∧ new.failureReason = some "stale_call".toList ∧
      markStale cfg env id w =
        (effect (env.update id) .update (writeRow new) >>= fun _ => pure true) w := by
  have hlegal : CallStatus.Legal row.status .failed := (CallStatus.legal_failed_iff _).2 hlive
  obtain ⟨todo, htodo⟩ : ∃ todo, Transition.staleSweep.body cfg.runner.callConcurrencyLimit
      (env.updateNow id) row = some todo := by
    rcases hbody : Transition.staleSweep.body cfg.runner.callConcurrencyLimit (env.updateNow id) row
      with - | todo
    · exact absurd hlegal (Transition.body_eq_none_iff.1 hbody)
    · exact ⟨todo, rfl⟩
  have hnew : applyStatements row todo =
      { row.assign [.status .failed, .failureReason "stale_call".toList] with
        updatedAt := env.updateNow id } := by
    have hstatements := todo_of_statements (transition_eq_ok hlegal _) htodo
    subst hstatements
    exact Call.update_status (env.updateNow id) hlegal (by simp [FieldChange.column])
  refine ⟨applyStatements row todo, ?_, ?_, ?_, ?_⟩
  · rw [id_applyStatements, (findRow_mem hrow).2]
  · rw [hnew]
    rfl
  · rw [hnew]
    rfl
  · unfold markStale
    rw [Effectful.bind_of_ok (Effectful.current_apply w), hrow]
    dsimp only
    rw [htodo]

def Pending (id : Uuid) : SweepWorld → Prop := HasRow id fun row => ¬ row.status.Terminal

theorem runDocker_rows (outcome : EffectOutcome) (command : DockerCommand) (w : SweepWorld) :
    ∃ t, t.rows = w.rows ∧
      runDocker outcome command w = (if outcome.Raises then .error .docker else .ok (), t) := by
  rcases outcome with - | done
  · exact ⟨{ w with acts := w.acts ++ [.docker command] }, rfl, rfl⟩
  · cases done with
    | false => exact ⟨w, rfl, rfl⟩
    | true => exact ⟨{ w with acts := w.acts ++ [.docker command] }, rfl, rfl⟩

variable (cfg) in
theorem sweepCall_of_docker (h : ¬ env.DockerRaises id) (w : SweepWorld) :
    ∃ t, t.rows = w.rows ∧ sweepCall cfg env id w =
      (markStale cfg env id >>= fun marked => if marked then dispatch cfg env id else pure ()) t := by
  obtain ⟨hkill, hremove⟩ := not_or.1 h
  obtain ⟨killed, hkilled, hfirst⟩ := runDocker_rows (env.kill id) (.kill (containerName id)) w
  obtain ⟨removed, hremoved, hsecond⟩ :=
    runDocker_rows (env.remove id) (.rmForce (containerName id)) killed
  rw [if_neg hkill] at hfirst
  rw [if_neg hremove] at hsecond
  refine ⟨removed, hremoved.trans hkilled, ?_⟩
  unfold sweepCall
  rw [Effectful.bind_of_ok hfirst, Effectful.bind_of_ok hsecond]

variable (cfg) in
theorem sweepCall_of_dockerRaises (h : env.DockerRaises id) (w : SweepWorld) :
    ∃ t, t.rows = w.rows ∧ sweepCall cfg env id w = (.error .docker, t) := by
  obtain ⟨killed, hkilled, hfirst⟩ := runDocker_rows (env.kill id) (.kill (containerName id)) w
  unfold sweepCall
  by_cases hkill : (env.kill id).Raises
  · rw [if_pos hkill] at hfirst
    exact ⟨killed, hkilled, Effectful.bind_of_error hfirst⟩
  · obtain ⟨removed, hremoved, hsecond⟩ :=
      runDocker_rows (env.remove id) (.rmForce (containerName id)) killed
    rw [if_neg hkill] at hfirst
    rw [if_pos (h.resolve_left hkill)] at hsecond
    refine ⟨removed, hremoved.trans hkilled, ?_⟩
    rw [Effectful.bind_of_ok hfirst, Effectful.bind_of_error hsecond]

theorem sweepCall_returns (hpending : Pending id w) (h : ¬ env.Faulty id) :
    ∃ t, sweepCall cfg env id w = (.ok (), t) ∧ FailedStale id t ∧ DispatchedStale id t := by
  obtain ⟨hdocker, hrest⟩ := not_or.1 h
  obtain ⟨hupdate, hdispatch⟩ := not_or.1 hrest
  obtain ⟨row, hrow, hlive⟩ := hpending
  obtain ⟨ready, hrows, hcall⟩ := sweepCall_of_docker cfg hdocker w
  rw [← hrows] at hrow
  obtain ⟨new, hid, hstatus, hreason, hmark⟩ := markStale_of_live cfg env hrow hlive
  have hmarked : markStale cfg env id ready = (.ok true, writeRow new ready) := by
    rw [hmark, Effectful.bind_of_ok (effect_of_returns hupdate _ _ ready)]
    rfl
  have hfailed : FailedStale id (writeRow new ready) := by
    refine ⟨new, ?_, hstatus, hreason⟩
    change findRow (modifyRow ready.rows new.id fun _ => new) id = some new
    rw [hid]
    exact findRow_modifyRow hrow hid
  refine ⟨deliverTo cfg env id (writeRow new ready), ?_, failedStale_deliverTo hfailed,
    dispatchedStale_deliverTo hfailed⟩
  rw [hcall, Effectful.bind_of_ok hmarked]
  exact effect_of_returns hdispatch _ _ _

theorem sweepCall_raises (hpending : Pending id w) (h : env.Faulty id) :
    ∃ e t, sweepCall cfg env id w = (.error e, t) := by
  by_cases hdocker : env.DockerRaises id
  · obtain ⟨t, -, ht⟩ := sweepCall_of_dockerRaises cfg hdocker w
    exact ⟨_, t, ht⟩
  · have hrest := h.resolve_left hdocker
    obtain ⟨row, hrow, hlive⟩ := hpending
    obtain ⟨ready, hrows, hcall⟩ := sweepCall_of_docker cfg hdocker w
    rw [← hrows] at hrow
    obtain ⟨new, -, -, -, hmark⟩ := markStale_of_live cfg env hrow hlive
    rw [hcall]
    by_cases hupdate : (env.update id).Raises
    · obtain ⟨t, ht⟩ := effect_of_raises hupdate .update (writeRow new) ready
      have hmarked : markStale cfg env id ready = (.error .update, t) := by
        rw [hmark, Effectful.bind_of_error ht]
      exact ⟨_, t, Effectful.bind_of_error hmarked⟩
    · have hmarked : markStale cfg env id ready = (.ok true, writeRow new ready) := by
        rw [hmark, Effectful.bind_of_ok (effect_of_returns hupdate _ _ ready)]
        rfl
      obtain ⟨t, ht⟩ := effect_of_raises (hrest.resolve_left hupdate) .dispatch
        (deliverTo cfg env id) (writeRow new ready)
      rw [Effectful.bind_of_ok hmarked]
      exact ⟨_, t, ht⟩

theorem keeps_sweepCall {inv : SweepWorld → Prop}
    (hdocker : ∀ (w : SweepWorld) command, inv w → inv { w with acts := w.acts ++ [.docker command] })
    (hwrite : ∀ (w : SweepWorld) (new : Call), new.id = id → inv w → inv (writeRow new w))
    (hdeliver : ∀ w, inv w → inv (deliverTo cfg env id w)) :
    Effectful.Keeps inv (sweepCall cfg env id) := by
  have hcommand : ∀ outcome command, Effectful.Keeps inv (runDocker outcome command) :=
    fun outcome command => keeps_effect (fun w hw => hdocker w command hw) outcome .docker
  have hmark : Effectful.Keeps inv (markStale cfg env id) := by
    intro w hw
    unfold markStale
    rw [Effectful.bind_of_ok (Effectful.current_apply w)]
    cases hrow : findRow w.rows id with
    | none => exact hw
    | some row =>
        dsimp only
        cases hbody : Transition.staleSweep.body cfg.runner.callConcurrencyLimit (env.updateNow id)
          row with
        | none => exact hw
        | some todo =>
            have hid : (applyStatements row todo).id = id :=
              (id_applyStatements row todo).trans (findRow_mem hrow).2
            exact ((keeps_effect (fun w hw => hwrite w _ hid hw) _ _).bind
              fun _ => Effectful.keeps_pure true) w hw
  refine (hcommand _ _).bind fun _ => (hcommand _ _).bind fun _ => hmark.bind fun marked => ?_
  split_ifs
  · exact keeps_effect hdeliver _ _
  · exact Effectful.keeps_pure ()

theorem keeps_hasRow {kind : Call → Prop} (hne : other ≠ id) :
    Effectful.Keeps (HasRow id kind) (sweepCall cfg env other) :=
  keeps_sweepCall (fun _ _ hw => hw) (fun _ _ hid hw => hasRow_writeRow (by rwa [hid]) hw)
    fun _ hw => hasRow_deliverTo hne hw

theorem keeps_dispatchedStale : Effectful.Keeps (DispatchedStale id) (sweepCall cfg env other) :=
  keeps_sweepCall (fun w _ hw => dispatchedStale_of_acts (List.prefix_append w.acts _) hw)
    (fun w _ _ hw => dispatchedStale_of_acts (List.prefix_append w.acts _) hw)
    fun w hw => dispatchedStale_of_acts (List.prefix_append w.acts _) hw

theorem not_failedStale_of_pending (h : Pending id w) : ¬ FailedStale id w := by
  obtain ⟨row, hrow, hlive⟩ := h
  rintro ⟨row', hrow', hstatus, -⟩
  obtain rfl : row = row' := Option.some.inj (hrow.symm.trans hrow')
  rw [hstatus] at hlive
  exact hlive (by decide)

variable (cfg env) in
theorem stopsAtFaults_sweepCall :
    Effectful.StopsAtFaults (sweepCall cfg env) env.Faulty Pending
      fun id w => FailedStale id w ∧ DispatchedStale id w where
  returns _ _ h hpending := sweepCall_returns hpending h
  raises _ _ h hpending := sweepCall_raises hpending h
  leavesPending _ _ hne := keeps_hasRow hne
  leavesDone _ _ hne := fun w hw =>
    ⟨keeps_hasRow hne w hw.1, keeps_dispatchedStale w hw.2⟩
  notDone _ _ hpending hdone := not_failedStale_of_pending hpending hdone.1

end Call

/-! ## The pass -/

section Pass

variable {cfg : WorkerSettings} {env : SweepEnv} {rows : List Call}

theorem staleSweep_eq (cfg : WorkerSettings) (env : SweepEnv) (rows : List Call) :
    staleSweep cfg env ⟨rows, []⟩ =
      (.ok (), (Effectful.forEach (sweepCall cfg env) (swept cfg env rows) ⟨rows, []⟩).2) := by
  have hinner : (staleSweepInner cfg env ⟨rows, []⟩).2 =
      (Effectful.forEach (sweepCall cfg env) (swept cfg env rows) ⟨rows, []⟩).2 := by
    unfold staleSweepInner swept
    rw [Effectful.bind_of_ok (Effectful.current_apply _)]
    cases staleIds cfg.runner env.now rows <;> rfl
  unfold staleSweep
  rw [← hinner]
  rcases h : staleSweepInner cfg env ⟨rows, []⟩ with ⟨e | u, t⟩
  · exact Effectful.rescue_of_error h
  · exact Effectful.rescue_of_ok h

theorem findRow_of_mem (hrows : (rows.map Call.id).Nodup) {row : Call} (hmem : row ∈ rows) :
    findRow rows row.id = some row := by
  cases hfound : findRow rows row.id with
  | none => exact absurd rfl (findRow_eq_none hfound row hmem)
  | some found =>
      obtain ⟨hfoundMem, hid⟩ := findRow_mem hfound
      rw [List.inj_on_of_nodup_map hrows hfoundMem hmem hid]

theorem pending_of_swept (hrows : (rows.map Call.id).Nodup) {id : Uuid}
    (hid : id ∈ swept cfg env rows) : Pending id ⟨rows, []⟩ := by
  unfold swept at hid
  cases hids : staleIds cfg.runner env.now rows with
  | none =>
      rw [hids] at hid
      cases hid
  | some ids =>
      rw [hids] at hid
      obtain ⟨row, hmem, rfl, hlive⟩ := mem_staleIds hids hid
      exact ⟨row, findRow_of_mem hrows hmem, hlive⟩

theorem nodup_swept (hrows : (rows.map Call.id).Nodup) : (swept cfg env rows).Nodup := by
  unfold swept
  cases hids : staleIds cfg.runner env.now rows with
  | none => exact List.nodup_nil
  | some ids => exact staleIds_nodup hids hrows

variable (cfg env) in
/-- The pass isolates the faults exactly when none of them comes before a call that has none, and docker
fails for no call whose row could be written. -/
theorem isolatesFaults_iff (hrows : (rows.map Call.id).Nodup) :
    IsolatesFaults cfg env rows ↔ FaultsLast cfg env rows := by
  have hpending : ∀ id ∈ swept cfg env rows, Pending id ⟨rows, []⟩ :=
    fun id hid => pending_of_swept hrows hid
  have hdone := (stopsAtFaults_sweepCall cfg env).done_iff (nodup_swept hrows) hpending
  have hrun := staleSweep_eq cfg env rows
  constructor
  · rintro ⟨-, hothers, hown⟩
    rw [hrun] at hothers hown
    refine ⟨?_, hdone.1 hothers⟩
    intro id hid hdocker
    by_contra hupdate
    have hkept : Effectful.Keeps (Pending id)
        (Effectful.forEach (sweepCall cfg env) (swept cfg env rows)) := by
      apply Effectful.keeps_forEach
      intro other _
      by_cases hother : other = id
      · subst hother
        intro w hw
        obtain ⟨t, ht, hcall⟩ := sweepCall_of_dockerRaises cfg hdocker w
        rw [hcall]
        unfold Pending HasRow
        rwa [ht]
      · exact keeps_hasRow hother
    exact not_failedStale_of_pending (hkept _ (hpending id hid)) (hown id hid hdocker hupdate)
  · rintro ⟨hdocker, horder⟩
    refine ⟨by rw [hrun], ?_, ?_⟩
    · rw [hrun]
      exact hdone.2 horder
    · intro id hid hraises hupdate
      exact absurd (hdocker id hid hraises) hupdate

end Pass

/-! ## A docker that is missing for the first of two calls -/

def killFails (id : Uuid) : SweepEnv where
  kill other := if other = id then .raises false else .returns
  remove _ := .returns
  update _ := .returns
  dispatch _ := .returns
  receiver _ := answersAtOnce 200
  now := 100000
  updateNow _ := 100000
  dispatchTx _ := 100001
  dispatchNow _ := 100001

def sampleWorker : WorkerSettings where
  runner := ⟨3, 10800, 0, 7, .localDir []⟩
  webhookMaxAttempts := 7
  codec := sampleCodec

def twoStaleCalls : List Call :=
  [sampleCall .processing, { sampleCall .recording with id := 1 }]

theorem swept_twoStaleCalls (id : Uuid) : swept sampleWorker (killFails id) twoStaleCalls = [0, 1] := by
  have hids : staleIds sampleWorker.runner 100000 twoStaleCalls = some [0, 1] := by decide +kernel
  change (staleIds sampleWorker.runner 100000 twoStaleCalls).getD [] = [0, 1]
  rw [hids]
  rfl

/-- The second call stays in `recording`, although nothing fails for it, and the first in `processing`. -/
theorem not_isolatesFaults_killFails :
    (staleSweep sampleWorker (killFails 0) ⟨twoStaleCalls, []⟩).2.rows = twoStaleCalls ∧
      ¬ IsolatesFaults sampleWorker (killFails 0) twoStaleCalls := by
  have hrows : (staleSweep sampleWorker (killFails 0) ⟨twoStaleCalls, []⟩).2.rows =
      twoStaleCalls := by
    rw [staleSweep_eq, swept_twoStaleCalls]
    rfl
  refine ⟨hrows, fun h => ?_⟩
  have hmem : (1 : Uuid) ∈ swept sampleWorker (killFails 0) twoStaleCalls := by
    rw [swept_twoStaleCalls]
    decide
  obtain ⟨⟨row, hrow, hstatus, -⟩, -⟩ := h.others 1 hmem (by decide)
  have hfound : findRow twoStaleCalls 1 = some { sampleCall .recording with id := 1 } := rfl
  rw [hrows, hfound] at hrow
  obtain rfl := Option.some.inj hrow
  cases hstatus

theorem isolatesFaults_iff_killFails :
    IsolatesFaults sampleWorker (killFails 2) twoStaleCalls ↔
      FaultsLast sampleWorker (killFails 2) twoStaleCalls :=
  isolatesFaults_iff sampleWorker (killFails 2) (by decide)

end Notetaker.SweepIsolation

import Mathlib.Algebra.BigOperators.Group.List.Basic
import Mathlib.Algebra.Order.BigOperators.Group.Finset
import Mathlib.Algebra.Order.BigOperators.Group.List
import Mathlib.Data.List.Chain
import Mathlib.Data.NNRat.Defs
import Mathlib.Tactic.Linarith
import Mathlib.Tactic.NormNum
import Mathlib.Tactic.Ring
import Notetaker.Admission
import Notetaker.TransitionSystem
import Notetaker.WebhookDelivery

/-!
# The main loop's clock

`main` of the runner: one sequential loop writes the heartbeat, sweeps stale calls, enforces
retention and polls. The sweep and the poll await the webhook of every call they fail. An `Iteration`
holds what the loop meets: the tables, the rows behind the conflicts, the receivers, and how long
everything else takes. Times are those of the event loop's clock.

The budget of an iteration adds up what it may have to wait for. A loop whose iterations keep to their
budgets never lets the key of its heartbeat expire.
-/

open PythonText PythonUuid

namespace Notetaker

def heartbeatIntervalS : ℚ := 10

def heartbeatTtlS : ℚ := 60

def staleSweepIntervalS : ℚ := 60

def retentionIntervalS : ℚ := 60

def pollIntervalS : ℚ := 2

structure DispatchVisit where
  row : Option Call
  transactions : NNRat
  txNow : Timestamp
  now : Timestamp
  receiver : ℕ → Attempt
  seconds_nonneg : ∀ k, 0 ≤ (receiver k).seconds

/-- What the stale sweep meets at one call: the row that `mark_failed` reads. -/
structure StaleVisit where
  row : Option Call
  docker : NNRat
  transaction : NNRat
  dispatch : DispatchVisit

structure Iteration where
  /-- Until the heartbeat's `SET` runs in Redis, and from there until its answer. -/
  heartbeatSent : NNRat
  heartbeatReply : NNRat
  staleTable : List Call
  staleNow : Timestamp
  staleSelect : NNRat
  staleVisit : Uuid → StaleVisit
  retention : NNRat
  /-- The rows that are not locked. -/
  queue : List Call
  active : ℕ
  diskOk : Bool
  pollTransaction : NNRat
  pollDispatch : DispatchVisit

section Seconds

variable (cfg : WorkerSettings)

def DispatchVisit.seconds (visit : DispatchVisit) : ℚ :=
  visit.transactions +
    match dispatchWebhook cfg.codec cfg.webhookMaxAttempts visit.receiver visit.txNow visit.now
      visit.row with
    | none => 0
    | some delivery => delivery.clock - visit.now

/-- The loop of the stale sweep. A missing row raises, which `stale_sweep` catches. -/
def staleCallsSeconds (visit : Uuid → StaleVisit) : List Uuid → ℚ
  | [] => 0
  | id :: ids =>
      (visit id).docker + (visit id).transaction +
        match CallService.markFailed id (visit id).row "stale_call" with
        | .ok _ => (visit id).dispatch.seconds cfg + staleCallsSeconds visit ids
        | .error (.conflict _) => staleCallsSeconds visit ids
        | .error (.notFound _) => 0

/-- A cutoff out of range raises before the select. -/
def staleSweepSeconds (e : Iteration) : ℚ :=
  match staleIds cfg.runner e.staleNow e.staleTable with
  | none => 0
  | some ids => (e.staleSelect : ℚ) + staleCallsSeconds cfg e.staleVisit ids

/-- A refused call is dispatched inline; a claimed one gets a task. -/
def pollSeconds (e : Iteration) : ℚ :=
  e.pollTransaction +
    match oldest (e.queue.filter fun call => call.status = .queued) with
    | none => 0
    | some _ =>
        if admits cfg.runner.callConcurrencyLimit e.active e.diskOk then 0
        else e.pollDispatch.seconds cfg

end Seconds

structure MainLoopState where
  clock : ℚ
  nextHeartbeat : ℚ
  nextStaleSweep : ℚ
  nextRetention : ℚ
  /-- The times of the heartbeat writes, newest first. -/
  heartbeats : List ℚ

namespace MainLoopState

def beat (s : MainLoopState) (now : ℚ) (e : Iteration) : MainLoopState :=
  if s.nextHeartbeat ≤ now then
    { s with
      nextHeartbeat := now + heartbeatIntervalS
      heartbeats := (now + e.heartbeatSent) :: s.heartbeats
      clock := s.clock + e.heartbeatSent + e.heartbeatReply }
  else s

def sweep (cfg : WorkerSettings) (s : MainLoopState) (now : ℚ) (e : Iteration) : MainLoopState :=
  if s.nextStaleSweep ≤ now then
    { s with
      nextStaleSweep := now + staleSweepIntervalS
      clock := s.clock + staleSweepSeconds cfg e }
  else s

def retain (s : MainLoopState) (now : ℚ) (e : Iteration) : MainLoopState :=
  if s.nextRetention ≤ now then
    { s with
      nextRetention := now + retentionIntervalS
      clock := s.clock + e.retention }
  else s

def pollAndSleep (cfg : WorkerSettings) (s : MainLoopState) (e : Iteration) : MainLoopState :=
  { s with clock := s.clock + pollSeconds cfg e + pollIntervalS }

/-- One iteration. All three checks compare with the time at its top. -/
def iterate (cfg : WorkerSettings) (s : MainLoopState) (e : Iteration) : MainLoopState :=
  (((s.beat s.clock e).sweep cfg s.clock e).retain s.clock e).pollAndSleep cfg e

end MainLoopState

def mainLoop (cfg : WorkerSettings) : TransitionSystem MainLoopState Iteration where
  init s := 0 ≤ s.clock ∧ s.nextHeartbeat = 0 ∧ s.nextStaleSweep = 0 ∧ s.nextRetention = 0 ∧
    s.heartbeats = []
  step s e := some (s.iterate cfg e)

/-! ## Heartbeats -/

/-- Consecutive writes are less than the TTL apart, and the last one has not expired. -/
structure KeyHeld (s : MainLoopState) : Prop where
  gaps : s.heartbeats.IsChain fun later earlier => later - earlier < heartbeatTtlS
  alive : ∀ last ∈ s.heartbeats.head?, s.clock - last < heartbeatTtlS

def Iteration.seconds (cfg : WorkerSettings) (s : MainLoopState) (e : Iteration) : ℚ :=
  (if s.nextHeartbeat ≤ s.clock then (e.heartbeatSent + e.heartbeatReply : ℚ) else 0) +
    (if s.nextStaleSweep ≤ s.clock then staleSweepSeconds cfg e else 0) +
    (if s.nextRetention ≤ s.clock then (e.retention : ℚ) else 0) + pollSeconds cfg e + pollIntervalS

theorem iterate_eq (cfg : WorkerSettings) (s : MainLoopState) (e : Iteration) : s.iterate cfg e =
    { clock := s.clock + e.seconds cfg s
      nextHeartbeat :=
        if s.nextHeartbeat ≤ s.clock then s.clock + heartbeatIntervalS else s.nextHeartbeat
      nextStaleSweep :=
        if s.nextStaleSweep ≤ s.clock then s.clock + staleSweepIntervalS else s.nextStaleSweep
      nextRetention :=
        if s.nextRetention ≤ s.clock then s.clock + retentionIntervalS else s.nextRetention
      heartbeats :=
        if s.nextHeartbeat ≤ s.clock then (s.clock + e.heartbeatSent) :: s.heartbeats
        else s.heartbeats } := by
  unfold MainLoopState.iterate MainLoopState.beat Iteration.seconds
  by_cases hbeat : s.nextHeartbeat ≤ s.clock <;>
    by_cases hsweep : s.nextStaleSweep ≤ s.clock <;>
      by_cases hretain : s.nextRetention ≤ s.clock <;>
        simp [MainLoopState.sweep, MainLoopState.retain, MainLoopState.pollAndSleep, hbeat, hsweep, hretain,
          add_assoc]

/-! ## Budgets -/

section Budgets

variable (cfg : WorkerSettings)

def DispatchVisit.posts (visit : DispatchVisit) : Bool :=
  visit.row.any fun call => call.status.Terminal ∧ call.webhookDeliveredAt = none

/-- The requests of a delivery: up to the first final answer, or as many as the settings allow. -/
def DispatchVisit.requests (visit : DispatchVisit) : ℕ :=
  requestsMade visit.receiver cfg.webhookMaxAttempts.toNat 0

/-- The transactions, and for a webhook that is still pending its requests with the pauses between
them. -/
def DispatchVisit.budget (visit : DispatchVisit) : ℚ :=
  visit.transactions +
    if visit.posts then
      ∑ k ∈ Finset.range (visit.requests cfg), (visit.receiver k).seconds +
        ∑ k ∈ Finset.range (visit.requests cfg - 1), backoffS k
    else 0

theorem DispatchVisit.seconds_eq_budget (visit : DispatchVisit) :
    visit.seconds cfg = visit.budget cfg := by
  have hsum := attemptSeconds_eq_sum visit.receiver cfg.webhookMaxAttempts.toNat 0
  simp only [zero_add] at hsum
  unfold seconds budget posts requests
  rw [← hsum]
  cases visit.row with
  | none => simp [dispatchWebhook]
  | some call =>
      rw [dispatchWebhook]
      by_cases hskip : call.webhookDeliveredAt.isSome ∨ ¬ call.status.Terminal
      · have hposts : ¬ (call.status.Terminal ∧ call.webhookDeliveredAt = none) := by
          rintro ⟨hterminal, hpending⟩
          rw [hpending] at hskip
          simp [hterminal] at hskip
        simp [hskip, hposts]
      · rw [if_neg hskip]
        rw [not_or, not_not, Bool.not_eq_true, Option.isSome_eq_false_iff, Option.isNone_iff_eq_none]
          at hskip
        obtain ⟨hpending, hterminal⟩ := hskip
        dsimp only
        rw [clock_deliver _ _ _ _ _ hpending]
        simp [hterminal, hpending]

theorem DispatchVisit.budget_nonneg (visit : DispatchVisit) : 0 ≤ visit.budget cfg := by
  have htransactions := visit.transactions.coe_nonneg
  have hrequests := Finset.sum_nonneg fun k (_ : k ∈ Finset.range (visit.requests cfg)) =>
    visit.seconds_nonneg k
  have hpauses := Finset.sum_nonneg fun k (_ : k ∈ Finset.range (visit.requests cfg - 1)) =>
    backoffS_nonneg k
  unfold budget
  split_ifs <;> linarith

def StaleVisit.fails (visit : StaleVisit) : Bool := visit.row.any fun call => ¬ call.status.Terminal

def StaleVisit.budget (visit : StaleVisit) : ℚ :=
  visit.docker + visit.transaction + if visit.fails then visit.dispatch.budget cfg else 0

theorem StaleVisit.budget_nonneg (visit : StaleVisit) : 0 ≤ visit.budget cfg := by
  have hdocker := visit.docker.coe_nonneg
  have htransaction := visit.transaction.coe_nonneg
  have hdispatch := visit.dispatch.budget_nonneg cfg
  unfold budget
  split_ifs <;> linarith

theorem staleCallsSeconds_le (visit : Uuid → StaleVisit) (ids : List Uuid) :
    staleCallsSeconds cfg visit ids ≤ (ids.map fun id => (visit id).budget cfg).sum := by
  induction ids with
  | nil => exact le_refl 0
  | cons id ids ih =>
      have hrest : 0 ≤ (ids.map fun id => (visit id).budget cfg).sum := by
        refine List.sum_nonneg fun x hx => ?_
        obtain ⟨id, -, rfl⟩ := List.mem_map.1 hx
        exact (visit id).budget_nonneg cfg
      rw [List.map_cons, List.sum_cons, staleCallsSeconds, StaleVisit.budget, StaleVisit.fails]
      rw [(visit id).dispatch.seconds_eq_budget cfg]
      cases hrow : (visit id).row with
      | none =>
          change _ + 0 ≤ _ + 0 + _
          linarith
      | some call =>
          have hmark : CallService.markFailed id (some call) "stale_call" =
              if CallStatus.Legal call.status .failed then .ok _ else .error (.conflict _) := rfl
          rw [hmark]
          by_cases hterminal : call.status.Terminal
          · rw [if_neg fun h => (CallStatus.legal_failed_iff _).1 h hterminal]
            simp only [Option.any_some, hterminal, not_true, decide_false, Bool.false_eq_true, if_false]
            linarith
          · rw [if_pos ((CallStatus.legal_failed_iff _).2 hterminal)]
            simp only [Option.any_some, hterminal, not_false_eq_true, decide_true, if_true]
            linarith

/-- The poll finds a queued call, and the ceiling or the disk refuses it. -/
def Iteration.refuses (e : Iteration) : Bool :=
  (oldest (e.queue.filter fun call => call.status = .queued)).isSome &&
    ¬ admits cfg.runner.callConcurrencyLimit e.active e.diskOk

def Iteration.sweepBudget (e : Iteration) : ℚ :=
  e.staleSelect + (((staleIds cfg.runner e.staleNow e.staleTable).getD []).map fun id =>
    (e.staleVisit id).budget cfg).sum

/-- What the iteration has to wait for besides its heartbeat: the sweep and the retention pass that are
due, the claim with the webhook of a call that it refuses, and the sleep. -/
def Iteration.budget (s : MainLoopState) (e : Iteration) : ℚ :=
  (if s.nextStaleSweep ≤ s.clock then e.sweepBudget cfg else 0) +
    (if s.nextRetention ≤ s.clock then (e.retention : ℚ) else 0) +
    e.pollTransaction + (if e.refuses cfg then e.pollDispatch.budget cfg else 0) + pollIntervalS

theorem staleSweepSeconds_le (e : Iteration) : staleSweepSeconds cfg e ≤ e.sweepBudget cfg := by
  have hselect := e.staleSelect.coe_nonneg
  unfold staleSweepSeconds Iteration.sweepBudget
  cases staleIds cfg.runner e.staleNow e.staleTable with
  | none => simp
  | some ids =>
      have hle := staleCallsSeconds_le cfg e.staleVisit ids
      dsimp only [Option.getD_some]
      linarith

theorem pollSeconds_eq (e : Iteration) : pollSeconds cfg e =
    e.pollTransaction + if e.refuses cfg then e.pollDispatch.budget cfg else 0 := by
  unfold pollSeconds Iteration.refuses
  rw [e.pollDispatch.seconds_eq_budget cfg]
  cases oldest (e.queue.filter fun call => call.status = .queued) with
  | none => simp
  | some call => cases admits cfg.runner.callConcurrencyLimit e.active e.diskOk <;> simp

theorem Iteration.seconds_le (s : MainLoopState) (e : Iteration) : e.seconds cfg s ≤
    (if s.nextHeartbeat ≤ s.clock then (e.heartbeatSent + e.heartbeatReply : ℚ) else 0) +
      e.budget cfg s := by
  have hsweep := staleSweepSeconds_le cfg e
  unfold seconds budget
  rw [pollSeconds_eq]
  split_ifs <;> linarith

end Budgets

/-! ## A loop that keeps to its budgets -/

/-- The `SET` of a heartbeat runs within a second, and the rest of the iteration fits into 59 s behind it,
or into 49 s when no heartbeat is due. -/
def Prompt (cfg : WorkerSettings) (s : MainLoopState) (e : Iteration) : Prop :=
  e.heartbeatSent ≤ 1 ∧
    if s.nextHeartbeat ≤ s.clock then e.heartbeatReply + e.budget cfg s < 59 else e.budget cfg s < 49

instance (cfg : WorkerSettings) (s : MainLoopState) (e : Iteration) : Decidable (Prompt cfg s e) :=
  inferInstanceAs (Decidable (e.heartbeatSent ≤ 1 ∧
    if s.nextHeartbeat ≤ s.clock then e.heartbeatReply + e.budget cfg s < 59 else e.budget cfg s < 49))

/-- The last heartbeat leaves the next one a second, which is due at most 10 s behind it. -/
structure Beating (s : MainLoopState) : Prop where
  gaps : s.heartbeats.IsChain fun later earlier => later - earlier < heartbeatTtlS
  due : s.heartbeats = [] → s.nextHeartbeat ≤ s.clock
  recent : ∀ last ∈ s.heartbeats.head?, s.clock - last < 59 ∧ s.nextHeartbeat ≤ last + 10

theorem Beating.keyHeld {s : MainLoopState} (h : Beating s) : KeyHeld s := by
  refine ⟨h.gaps, fun last hlast => ?_⟩
  have hrecent := (h.recent last hlast).1
  rw [heartbeatTtlS]
  linarith

theorem beating_iterate {cfg : WorkerSettings} {s : MainLoopState} {e : Iteration} (h : Beating s)
    (hprompt : Prompt cfg s e) : Beating (s.iterate cfg e) := by
  obtain ⟨hsent, hbudget⟩ := hprompt
  have hseconds := e.seconds_le cfg s
  have hsentNonneg := e.heartbeatSent.coe_nonneg
  rw [iterate_eq]
  by_cases hdue : s.nextHeartbeat ≤ s.clock
  · rw [if_pos hdue] at hbudget hseconds
    rw [if_pos hdue, if_pos hdue]
    refine ⟨?_, fun hnone => absurd hnone (List.cons_ne_nil _ _), ?_⟩
    · -- The gap is what was left of the last heartbeat's time, and the second for this one.
      refine List.isChain_cons.2 ⟨fun last hlast => ?_, h.gaps⟩
      have hrecent := (h.recent last hlast).1
      have hsent' : (e.heartbeatSent : ℚ) ≤ 1 := by exact_mod_cast hsent
      rw [heartbeatTtlS]
      linarith
    · rintro last ⟨⟩
      constructor
      · dsimp only
        linarith
      · rw [heartbeatIntervalS]
        linarith
  · rw [if_neg hdue] at hbudget hseconds
    rw [if_neg hdue, if_neg hdue]
    refine ⟨h.gaps, fun hnone => absurd (h.due hnone) hdue, fun last hlast => ?_⟩
    obtain ⟨-, hnext⟩ := h.recent last hlast
    refine ⟨?_, hnext⟩
    have hclock := not_le.1 hdue
    dsimp only
    linarith

def sampleLoop : WorkerSettings where
  runner :=
    { callConcurrencyLimit := 3
      botMaxRecordDuration := 10800
      audioRetentionDays := 0
      failedAudioRetentionDays := 7
      storage := .s3 "bucket" }
  webhookMaxAttempts := 5
  codec := sampleCodec

def freshLoop : MainLoopState := ⟨0, 0, 0, 0, []⟩

/-- A receiver that answers 503 to its first `failures` requests, and 200 from then on. -/
def recovering (failures : ℕ) : ℕ → Attempt := fun k => ⟨0, 0, .status (if k < failures then 503 else 200)⟩

/-- An iteration in which everything but the webhook takes no time: one call is queued, and the disk
is full unless `diskOk`. -/
def instantIteration (diskOk : Bool) (failures : ℕ) : Iteration :=
  let dispatch : DispatchVisit :=
    { row := some (sampleCall .failed)
      transactions := 0
      txNow := 0
      now := 0
      receiver := recovering failures
      seconds_nonneg := fun _ => le_of_eq (add_zero 0).symm }
  { heartbeatSent := 0
    heartbeatReply := 0
    staleTable := []
    staleNow := 0
    staleSelect := 0
    staleVisit := fun _ => ⟨none, 0, 0, dispatch⟩
    retention := 0
    queue := [sampleCall .queued]
    active := 1
    diskOk := diskOk
    pollTransaction := 0
    pollDispatch := dispatch }

/-- The receiver of a refused call answers its fourth request: the loop comes back 23 s later. -/
def refusedThenClaimed : List Iteration := [instantIteration false 3, instantIteration true 0]

end Notetaker

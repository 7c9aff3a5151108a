import Notetaker.ApiSystem
import Notetaker.BotEnvironment
import Notetaker.LockStep
import Notetaker.WebhookFreshness

/-!
# Where the webhook secrets go

`Call.redact` hides the secret of a row, for the calls of a given kind. Every step of the API and of the
worker does with the redacted rows what it does with the rows, so two runs that differ in these secrets
alone stay in lockstep: they give the same answers, start the same bots, and post the same bodies at the
same times. What is left for a secret to decide is the signature. A body that is refused is answered
with its errors, which quote it, so the bodies that may differ are valid ones.
-/

open PythonText PythonUuid JsonText

namespace Notetaker

/-- The row without its secret, if the call is among the hidden ones. -/
def Call.redact (hidden : Uuid → Bool) (call : Call) : Call :=
  { call with webhookSecret := if hidden call.id then [] else call.webhookSecret }

def CallCreate.redact (data : CallCreate) : CallCreate := { data with webhookSecret := [] }

def RunnerState.redact (hidden : Uuid → Bool) (s : RunnerState) : RunnerState :=
  { s with rows := s.rows.map (Call.redact hidden) }

def WorkerState.redact (hidden : Uuid → Bool) (s : WorkerState) : WorkerState :=
  { s with runner := s.runner.redact hidden }

variable {hidden : Uuid → Bool}

/-! ## The updates of a row -/

theorem FieldChange.assign_redact (change : FieldChange) (call : Call) :
    change.assign (call.redact hidden) = (change.assign call).redact hidden := by
  cases change <;> rfl

theorem FieldChange.webhookSecret_assign (change : FieldChange) (call : Call) :
    (change.assign call).webhookSecret = call.webhookSecret := by
  cases change <;> rfl

namespace Call

theorem redact_inj {a b : Call} (hsecret : a.webhookSecret = b.webhookSecret)
    (h : a.redact hidden = b.redact hidden) : a = b := by
  cases a
  cases b
  simp only [redact, mk.injEq] at h ⊢
  simp_all

theorem assign_redact (call : Call) (changes : Changes) :
    (call.redact hidden).assign changes = (call.assign changes).redact hidden := by
  induction changes generalizing call with
  | nil => rfl
  | cons change changes ih => rw [assign_cons, assign_cons, change.assign_redact, ih]

theorem dirty_redact (loaded : Call) (changes : Changes) :
    (loaded.redact hidden).dirty changes = loaded.dirty changes := by
  refine List.filter_congr fun change _ => ?_
  have hiff : change.assign (loaded.redact hidden) = loaded.redact hidden ↔
      change.assign loaded = loaded := by
    rw [change.assign_redact]
    exact ⟨redact_inj (change.webhookSecret_assign loaded), congrArg (redact hidden)⟩
  simp only [ne_eq, hiff]

theorem update_redact (call : Call) (changes : Changes) (now : Timestamp) :
    (call.redact hidden).update changes now = (call.update changes now).redact hidden := by
  unfold update updateRow
  rw [dirty_redact, assign_redact]
  split_ifs <;> rfl

end Call

theorem applyStatements_redact (call : Call) (todo : List Statement) :
    applyStatements (call.redact hidden) todo = (applyStatements call todo).redact hidden := by
  induction todo generalizing call with
  | nil => rfl
  | cons st todo ih =>
      change applyStatements ((call.redact hidden).update st.changes st.now) todo = _
      rw [call.update_redact]
      exact ih _

theorem body_redact (limit : ℤ) (now : Timestamp) (call : Call) (tr : Transition) :
    tr.body limit now (call.redact hidden) = tr.body limit now call := by
  cases tr <;> rfl

/-! ## The table -/

section Rows

variable {rows : List Call}

theorem findRow_redact (rows : List Call) (id : Uuid) :
    findRow (rows.map (Call.redact hidden)) id = (findRow rows id).map (Call.redact hidden) :=
  List.find?_map

theorem filter_redact {p : Call → Bool} (hp : ∀ call : Call, p (call.redact hidden) = p call) :
    (rows.map (Call.redact hidden)).filter p = (rows.filter p).map (Call.redact hidden) := by
  rw [List.filter_map]
  exact congrArg _ (List.filter_congr fun call _ => hp call)

theorem modifyRow_redact {f g : Call → Call} (id : Uuid)
    (h : ∀ row ∈ rows, row.id = id → g (row.redact hidden) = (f row).redact hidden) :
    modifyRow (rows.map (Call.redact hidden)) id g =
      (modifyRow rows id f).map (Call.redact hidden) := by
  unfold modifyRow
  rw [List.map_map, List.map_map]
  refine List.map_congr_left fun row hrow => ?_
  change (if row.id = id then g (row.redact hidden) else row.redact hidden) =
    Call.redact hidden (if row.id = id then f row else row)
  by_cases hid : row.id = id
  · rw [if_pos hid, if_pos hid, h row hrow hid]
  · rw [if_neg hid, if_neg hid]

theorem oldest_redact (rows : List Call) :
    oldest (rows.map (Call.redact hidden)) = (oldest rows).map (Call.redact hidden) := by
  induction rows with
  | nil => rfl
  | cons row rows ih =>
      rw [List.map_cons, oldest, oldest, ih]
      cases oldest rows with
      | none => rfl
      | some other =>
          change some (if olderThan row other then row.redact hidden else (other.redact hidden)) =
            some ((Call.redact hidden) (if olderThan row other then row else other))
          split_ifs <;> rfl

theorem countActive_redact (rows : List Call) :
    countActive (rows.map (Call.redact hidden)) = countActive rows := List.countP_map

theorem ids_redact (rows : List Call) :
    (rows.map (Call.redact hidden)).map Call.id = rows.map Call.id := by
  rw [List.map_map]
  rfl

theorem staleIds_redact (cfg : RunnerSettings) (now : Timestamp) (rows : List Call) :
    staleIds cfg now (rows.map (Call.redact hidden)) = staleIds cfg now rows := by
  unfold staleIds
  refine bind_congr fun recordingCutoff => bind_congr fun processingCutoff => ?_
  rw [filter_redact fun _ => rfl, ids_redact]

theorem expiredIds_redact (cfg : RunnerSettings) (now : Timestamp) (rows : List Call) :
    expiredIds cfg now (rows.map (Call.redact hidden)) = expiredIds cfg now rows := by
  unfold expiredIds
  refine bind_congr fun doneCutoff => bind_congr fun failedCutoff => ?_
  rw [filter_redact fun _ => rfl, filter_redact fun _ => rfl, ← List.map_append, ids_redact]

end Rows

/-! ## The steps of the worker -/

section Steps

variable {s : RunnerState}

@[simp] theorem RunnerState.tasks_redact (s : RunnerState) : (s.redact hidden).tasks = s.tasks := rfl

@[simp] theorem RunnerState.rows_redact (s : RunnerState) :
    (s.redact hidden).rows = s.rows.map (Call.redact hidden) := rfl

variable (hidden) in
theorem recordWinner_redact (s : RunnerState) (id : Uuid) (status : CallStatus) (j : ℕ) :
    (s.redact hidden).recordWinner id status j = (s.recordWinner id status j).redact hidden := by
  unfold RunnerState.recordWinner
  split_ifs <;> rfl

theorem poll_redact (cfg : RunnerSettings) (s : RunnerState) (j k : ℕ) (diskOk : Bool)
    (now : Timestamp) : (s.redact hidden).poll cfg j k diskOk now =
      (s.poll cfg j k diskOk now).map (RunnerState.redact hidden) := by
  have hqueued : oldest ((s.redact hidden).rows.filter fun row => row.status = .queued) =
      (oldest (s.rows.filter fun row => row.status = .queued)).map (Call.redact hidden) := by
    rw [← oldest_redact]
    exact congrArg oldest (filter_redact fun _ => rfl)
  unfold RunnerState.poll
  rw [hqueued, s.tasks_redact, s.rows_redact, countActive_redact]
  cases s.tasks j with
  | idle =>
      cases oldest (s.rows.filter fun row => row.status = .queued) with
      | none => rfl
      | some row =>
          have hpayload : pollPayload cfg.callConcurrencyLimit (countActive s.rows) diskOk
              (row.redact hidden) =
              pollPayload cfg.callConcurrencyLimit (countActive s.rows) diskOk row := rfl
          dsimp only [Option.map_some]
          rw [hpayload]
          cases pollPayload cfg.callConcurrencyLimit (countActive s.rows) diskOk row with
          | error e => rfl
          | ok payload =>
              have hrows : modifyRow (s.rows.map (Call.redact hidden)) (row.redact hidden).id
                  (fun _ => (row.redact hidden).update payload now) =
                  (modifyRow s.rows row.id fun _ => row.update payload now).map (Call.redact hidden) :=
                modifyRow_redact row.id fun _ _ _ => row.update_redact payload now
              dsimp only
              rw [hrows]
              split_ifs with hadmits hsame
              · cases s.tasks k <;> rfl
              · cases s.tasks k <;> rfl
              · have hwinner := recordWinner_redact hidden (RunnerState.setTask
                  { s with rows := modifyRow s.rows row.id fun _ => row.update payload now } j
                  (.dispatching row.id .finished)) row.id .failed j
                exact congrArg some hwinner
  | _ => rfl

theorem transact_redact (cfg : RunnerSettings) (s : RunnerState) (j : ℕ) (now : Timestamp) :
    (s.redact hidden).transact cfg j now = (s.transact cfg j now).map (RunnerState.redact hidden) := by
  unfold RunnerState.transact
  rw [s.tasks_redact, s.rows_redact]
  cases (s.tasks j).work with
  | none => rfl
  | some work =>
      obtain ⟨id, tr⟩ := work
      dsimp only
      rw [findRow_redact]
      cases findRow s.rows id with
      | none => rfl
      | some row =>
          dsimp only [Option.map_some]
          rw [body_redact]
          cases tr.body cfg.callConcurrencyLimit now row with
          | none =>
              have hearly : tr.returnsEarly (row.redact hidden) = tr.returnsEarly row := by
                cases tr <;> rfl
              dsimp only
              rw [hearly]
              split_ifs <;> rfl
          | some todo =>
              have hrows : modifyRow (s.rows.map (Call.redact hidden)) id
                  (fun _ => applyStatements (row.redact hidden) todo) =
                  (modifyRow s.rows id fun _ => applyStatements row todo).map (Call.redact hidden) :=
                modifyRow_redact id fun _ _ _ => applyStatements_redact row todo
              have hcommitted : (s.tasks j).committed (row.redact hidden) =
                  (s.tasks j).committed row := by
                cases s.tasks j <;> rfl
              dsimp only
              rw [hrows, hcommitted, applyStatements_redact]
              have hwinner := recordWinner_redact hidden (RunnerState.setTask
                { s with rows := modifyRow s.rows id fun _ => applyStatements row todo } j
                ((s.tasks j).committed row)) id (applyStatements row todo).status j
              exact congrArg some hwinner

theorem retentionRow_redact (s : RunnerState) (j : ℕ) (outcome : RetentionOutcome) :
    (s.redact hidden).retentionRow j outcome =
      (s.retentionRow j outcome).map (RunnerState.redact hidden) := by
  unfold RunnerState.retentionRow
  rw [s.tasks_redact, s.rows_redact]
  cases s.tasks j with
  | retaining ids =>
      cases ids with
      | nil => rfl
      | cons id ids =>
          cases outcome with
          | reclaimed now =>
              have hrows : modifyRow (s.rows.map (Call.redact hidden)) id
                  (fun row => { row with audioUrl := none, updatedAt := now }) =
                  (modifyRow s.rows id fun row =>
                    { row with audioUrl := none, updatedAt := now }).map (Call.redact hidden) :=
                modifyRow_redact id fun _ _ _ => rfl
              dsimp only
              rw [hrows]
              rfl
          | _ => rfl
  | _ => rfl

theorem step_redact (cfg : RunnerSettings) (s : RunnerState) {e : RunnerEvent}
    (h : (WorkerEvent.runner e).creates = false) :
    (s.redact hidden).step cfg e = (s.step cfg e).map (RunnerState.redact hidden) := by
  cases e with
  | create data id now => cases h
  | poll j k diskOk now => exact poll_redact cfg s j k diskOk now
  | transact j now => exact transact_redact cfg s j now
  | retentionRow j outcome => exact retentionRow_redact s j outcome
  | start k =>
      simp only [RunnerState.step, s.tasks_redact, s.rows_redact]
      cases s.tasks k with
      | claimed id =>
          dsimp only
          rw [findRow_redact]
          cases findRow s.rows id <;> rfl
      | _ => rfl
  | staleStart j now =>
      simp only [RunnerState.step, s.tasks_redact, s.rows_redact, staleIds_redact]
      cases s.tasks j <;> rfl
  | retentionStart j now =>
      simp only [RunnerState.step, s.tasks_redact, s.rows_redact, expiredIds_redact]
      cases s.tasks j <;> rfl
  | upload k succeeds =>
      simp only [RunnerState.step, s.tasks_redact]
      cases s.tasks k with
      | uploading id endReason => cases succeeds <;> rfl
      | _ => rfl
  | source k outcome =>
      simp only [RunnerState.step, s.tasks_redact]
      cases s.tasks k with
      | sourcing id endReason audioUrl => cases outcome <;> rfl
      | _ => rfl
  | transcribe k outcome =>
      simp only [RunnerState.step, s.tasks_redact]
      cases s.tasks k with
      | transcribing id endReason audioUrl => cases outcome <;> rfl
      | _ => rfl
  | signal k =>
      simp only [RunnerState.step, s.tasks_redact]
      cases s.tasks k with
      | running id signalled => cases signalled <;> rfl
      | _ => rfl
  | sweepEnd j =>
      simp only [RunnerState.step, s.tasks_redact]
      cases s.tasks j with
      | sweeping next => cases next with
          | finished => rfl
          | stale ids => cases ids <;> rfl
          | orphan ids => cases ids <;> rfl
      | retaining ids => cases ids <;> rfl
      | _ => rfl
  | fault j =>
      simp only [RunnerState.step, s.tasks_redact]
      cases s.tasks j with
      | sweeping next => cases next <;> rfl
      | _ => rfl
  | exit j _ _ | dispatch j | orphanStart j _ =>
      simp only [RunnerState.step, s.tasks_redact]
      cases s.tasks j <;> rfl
  | crash => rfl

theorem doneWrite_redact (s : RunnerState) (e : RunnerEvent) :
    (s.redact hidden).doneWrite e = s.doneWrite e := by
  unfold RunnerState.doneWrite
  cases e with
  | transact j now =>
      dsimp only
      rw [s.tasks_redact, s.rows_redact]
      cases (s.tasks j).work with
      | none => rfl
      | some work =>
          obtain ⟨id, tr⟩ := work
          cases tr with
          | finishDoneCall endReason audioUrl transcript =>
              dsimp only
              rw [findRow_redact]
              cases findRow s.rows id <;> rfl
          | _ => rfl
  | _ => rfl

end Steps

/-! ## Deliveries -/

section Deliveries

variable (receiver : ℕ → Attempt) (txNow : Timestamp)

theorem call_attemptFrom_redact (request request' : WebhookRequest) (left attempt : ℕ) (call : Call)
    (clock : Timestamp) :
    (attemptFrom receiver request' txNow left attempt (call.redact hidden) clock).call =
      (attemptFrom receiver request txNow left attempt call clock).call.redact hidden := by
  induction left generalizing attempt call clock with
  | zero => rfl
  | succ left ih =>
      rw [attemptFrom, attemptFrom]
      cases (receiver attempt).answer.verdict with
      | retry => exact ih (attempt + 1) (call.countAttempt txNow) _
      | _ => rfl

/-- A post as the others see it: without its signature, if the call is hidden. -/
structure ShownPost where
  sentAt : Timestamp
  url : Text
  timestamp : Text
  body : Text
  signature : Option Text
  deriving DecidableEq

def Post.shown (secretly : Bool) (post : Post) : ShownPost where
  sentAt := post.sentAt
  url := post.request.url
  timestamp := post.request.timestamp
  body := post.request.body
  signature := if secretly then none else some post.request.signature

theorem shown_attemptFrom {request request' : WebhookRequest} {secretly : Bool}
    (h : ∀ sentAt, Post.shown secretly ⟨sentAt, request'⟩ = Post.shown secretly ⟨sentAt, request⟩)
    (left attempt : ℕ) (call call' : Call) (clock : Timestamp) :
    (attemptFrom receiver request' txNow left attempt call' clock).posts.map (Post.shown secretly) =
      (attemptFrom receiver request txNow left attempt call clock).posts.map (Post.shown secretly) := by
  induction left generalizing attempt call call' clock with
  | zero => rfl
  | succ left ih =>
      rw [attemptFrom, attemptFrom]
      cases (receiver attempt).answer.verdict with
      | retry =>
          dsimp only
          rw [posts_retry, posts_retry, List.map_cons, List.map_cons, ih, h]
      | _ => exact congrArg (fun post => [post]) (h _)

theorem shown_deliver (codec : WebhookCodec) (maxAttempts : ℤ) (now : Timestamp) (call : Call) :
    (deliver codec maxAttempts receiver txNow now (call.redact hidden)).posts.map
        (Post.shown (hidden call.id)) =
      (deliver codec maxAttempts receiver txNow now call).posts.map (Post.shown (hidden call.id)) := by
  unfold deliver
  change (if call.webhookDeliveredAt.isSome then _ else _ : Delivery).posts.map _ = _
  split_ifs
  · rfl
  · refine shown_attemptFrom receiver txNow (fun sentAt => ?_) _ _ _ _ _
    unfold Post.shown webhookRequest Call.redact
    cases hidden call.id <;> rfl

theorem dispatchWebhook_redact (hidden : Uuid → Bool) (codec : WebhookCodec) (maxAttempts : ℤ)
    (now : Timestamp) (call : Call) :
    Option.Rel (fun redacted delivery => redacted.call = delivery.call.redact hidden ∧
        redacted.posts.map (Post.shown (hidden call.id)) =
          delivery.posts.map (Post.shown (hidden call.id)))
      (dispatchWebhook codec maxAttempts receiver txNow now (some (call.redact hidden)))
      (dispatchWebhook codec maxAttempts receiver txNow now (some call)) := by
  unfold dispatchWebhook
  change Option.Rel _ (if call.webhookDeliveredAt.isSome ∨ ¬ call.status.Terminal then _ else _) _
  dsimp only
  split_ifs with hskip
  · exact .none
  · refine .some ⟨?_, shown_deliver receiver txNow codec maxAttempts now call⟩
    unfold deliver
    change (if call.webhookDeliveredAt.isSome then _ else _ : Delivery).call = _
    split_ifs
    · rfl
    · exact call_attemptFrom_redact receiver txNow _ _ _ _ call now

end Deliveries

/-! ## The worker -/

section Worker

variable (cfg : WorkerSettings) (s : WorkerState)

theorem deliver_redact (j : ℕ) (receiver : ℕ → Attempt) (txNow now : Timestamp) :
    (s.redact hidden).deliver cfg j receiver txNow now =
      (s.deliver cfg j receiver txNow now).map (WorkerState.redact hidden) := by
  have htasks : (s.redact hidden).runner.tasks = s.runner.tasks := rfl
  unfold WorkerState.deliver
  rw [htasks]
  cases s.runner.tasks j with
  | dispatching id next =>
      have hfind : findRow (s.redact hidden).runner.rows id =
          (findRow s.runner.rows id).map (Call.redact hidden) := findRow_redact s.runner.rows id
      dsimp only
      rw [hfind]
      cases findRow s.runner.rows id with
      | none => rfl
      | some row =>
          have hdispatch := dispatchWebhook_redact receiver txNow hidden cfg.codec
            cfg.webhookMaxAttempts now row
          dsimp only [Option.map_some]
          generalize dispatchWebhook cfg.codec cfg.webhookMaxAttempts receiver txNow now
            (some (row.redact hidden)) = redacted at hdispatch ⊢
          generalize dispatchWebhook cfg.codec cfg.webhookMaxAttempts receiver txNow now
            (some row) = delivery at hdispatch ⊢
          cases hdispatch with
          | none => rfl
          | @some redacted delivery h =>
              have hrows : modifyRow (s.redact hidden).runner.rows id (fun _ => redacted.call) =
                  (modifyRow s.runner.rows id fun _ => delivery.call).map (Call.redact hidden) :=
                modifyRow_redact id fun _ _ _ => h.1
              dsimp only
              rw [hrows]
              rfl
  | _ => rfl

theorem workerStep_redact {e : WorkerEvent} (h : e.creates = false) :
    (s.redact hidden).step cfg e = (s.step cfg e).map (WorkerState.redact hidden) := by
  cases e with
  | deliver j receiver txNow now => exact deliver_redact cfg s j receiver txNow now
  | runner e =>
      change ((s.runner.redact hidden).step cfg.runner e).map _ =
        ((s.runner.step cfg.runner e).map _).map _
      rw [step_redact cfg.runner s.runner h, Option.map_map, Option.map_map]
      congr 1
      funext t
      change WorkerState.recordDone _ ((s.runner.redact hidden).doneWrite e) = _
      rw [doneWrite_redact]
      cases s.runner.doneWrite e <;> rfl

end Worker

/-! ## What leaves the service -/

structure BotHost where
  spawn : SpawnSettings
  environ : Environ
  /-- The copy of the profile that `run_call` makes for a call. -/
  profile : Uuid → Option Text

inductive Observation where
  | response (response : ApiResponse)
  /-- The arguments of `docker run`. -/
  | spawned (args : List Text)
  | posted (post : ShownPost)
  deriving DecidableEq

section Observations

variable (cfg : ApiSettings) (host : BotHost) (hidden : Uuid → Bool)

/-- The bot that a task starts, if it finds its call joining. -/
def RunnerState.spawned (s : RunnerState) : RunnerEvent → List Observation
  | .start k =>
      match s.tasks k with
      | .claimed id =>
          match findRow s.rows id with
          | some row =>
              if row.status = .joining then
                [.spawned (buildSpawnArgs host.spawn host.environ row (host.profile id) none [])]
              else []
          | none => []
      | _ => []
  | _ => []

def WorkerState.posted (s : WorkerState) (j : ℕ) (receiver : ℕ → Attempt) (txNow now : Timestamp) :
    List Observation :=
  match s.runner.tasks j with
  | .dispatching id _ =>
      match dispatchWebhook cfg.worker.codec cfg.worker.webhookMaxAttempts receiver txNow now
          (findRow s.runner.rows id) with
      | some delivery => delivery.posts.map fun post => .posted (post.shown (hidden id))
      | none => []
  | _ => []

/-- What a step lets out: the response to a client, the command line of a bot, or the posts of a
webhook, those of the hidden calls without their signatures. -/
def ApiState.observe (s : ApiState) : ApiEvent → List Observation
  | .createCall xApiKey body active id now _ =>
      [.response (createCall cfg xApiKey body active id now).1]
  | .getCall xApiKey callId _ => [.response (getCall cfg s.worker.runner.rows xApiKey callId)]
  | .worker (.runner e) => s.worker.runner.spawned host e
  | .worker (.deliver j receiver txNow now) => s.worker.posted cfg hidden j receiver txNow now

theorem spawned_redact (s : RunnerState) (e : RunnerEvent) :
    (s.redact hidden).spawned host e = s.spawned host e := by
  unfold RunnerState.spawned
  cases e with
  | start k =>
      dsimp only
      rw [s.tasks_redact, s.rows_redact]
      cases s.tasks k with
      | claimed id =>
          dsimp only
          rw [findRow_redact]
          cases findRow s.rows id <;> rfl
      | _ => rfl
  | _ => rfl

theorem posted_redact (s : WorkerState) (j : ℕ) (receiver : ℕ → Attempt) (txNow now : Timestamp) :
    (s.redact hidden).posted cfg hidden j receiver txNow now =
      s.posted cfg hidden j receiver txNow now := by
  have htasks : (s.redact hidden).runner.tasks = s.runner.tasks := rfl
  unfold WorkerState.posted
  rw [htasks]
  cases s.runner.tasks j with
  | dispatching id next =>
      have hfind : findRow (s.redact hidden).runner.rows id =
          (findRow s.runner.rows id).map (Call.redact hidden) := findRow_redact s.runner.rows id
      dsimp only
      rw [hfind]
      cases hrow : findRow s.runner.rows id with
      | none => rfl
      | some row =>
          obtain ⟨-, rfl⟩ := findRow_mem hrow
          have hdispatch := dispatchWebhook_redact receiver txNow hidden cfg.worker.codec
            cfg.worker.webhookMaxAttempts now row
          dsimp only [Option.map_some]
          generalize dispatchWebhook _ _ _ _ _ (some (row.redact hidden)) = redacted at hdispatch ⊢
          generalize dispatchWebhook _ _ _ _ _ (some row) = delivery at hdispatch ⊢
          cases hdispatch with
          | none => rfl
          | @some redacted delivery h =>
              have hposts := congrArg (List.map Observation.posted) h.2
              rw [List.map_map, List.map_map] at hposts
              exact hposts
  | _ => rfl

theorem getCall_redact (rows : List Call) (xApiKey : Option Text) (callId : Text) :
    getCall cfg (rows.map (Call.redact hidden)) xApiKey callId = getCall cfg rows xApiKey callId := by
  unfold getCall
  cases requireApiKey cfg xApiKey with
  | some response => rfl
  | none =>
      cases cfg.coercions.uuid callId with
      | none => rfl
      | some id =>
          dsimp only
          rw [findRow_redact]
          cases findRow rows id <;> rfl

end Observations

/-! ## Two runs -/

/-- The states are the same but for the secrets of the hidden calls and the bodies that clients have
sent. -/
def SameButSecrets (hidden : Uuid → Bool) (s t : ApiState) : Prop :=
  s.worker.redact hidden = t.worker.redact hidden

/-- The events are the same, or creates of one hidden call whose valid bodies differ in the secret. -/
inductive Alike (cfg : ApiSettings) (hidden : Uuid → Bool) : ApiEvent → ApiEvent → Prop
  | same (e : ApiEvent) : Alike cfg hidden e e
  | secrets (xApiKey : Option Text) {v v' : Json} {data data' : CallCreate} (active : ℕ) (id : Uuid)
      (now : Timestamp) (committed : Bool) (hid : hidden id)
      (hdata : CallCreate.validate cfg.coercions v = .ok data)
      (hdata' : CallCreate.validate cfg.coercions v' = .ok data')
      (hsame : data.redact = data'.redact) :
      Alike cfg hidden (.createCall xApiKey (.json v) active id now committed)
        (.createCall xApiKey (.json v') active id now committed)

section TwoRuns

variable {cfg : ApiSettings} {host : BotHost} {s t : ApiState}

theorem createCall_alike {v v' : Json} {data data' : CallCreate} {id : Uuid} (hid : hidden id)
    (hdata : CallCreate.validate cfg.coercions v = .ok data)
    (hdata' : CallCreate.validate cfg.coercions v' = .ok data') (hsame : data.redact = data'.redact)
    (xApiKey : Option Text) (active : ℕ) (now : Timestamp) :
    (createCall cfg xApiKey (.json v) active id now).1 =
        (createCall cfg xApiKey (.json v') active id now).1 ∧
      (createCall cfg xApiKey (.json v) active id now).2.map (Call.redact hidden) =
        (createCall cfg xApiKey (.json v') active id now).2.map (Call.redact hidden) := by
  have hbody : validateBody cfg (.json v) = .ok data := CallCreate.mapError_eq_ok_iff.2 hdata
  have hbody' : validateBody cfg (.json v') = .ok data' := CallCreate.mapError_eq_ok_iff.2 hdata'
  unfold createCall
  dsimp only
  cases requireApiKey cfg xApiKey with
  | some response => exact ⟨rfl, rfl⟩
  | none =>
      dsimp only
      rw [hbody, hbody']
      unfold CallService.create
      dsimp only
      split_ifs
      · exact ⟨rfl, rfl⟩
      · cases data
        cases data'
        simp only [CallCreate.redact, CallCreate.mk.injEq] at hsame
        obtain ⟨rfl, rfl, rfl, rfl, -, rfl⟩ := hsame
        refine ⟨rfl, ?_⟩
        simp only [Option.map_some, Call.redact, hid, if_true]

theorem rel_of_answers (hs : SameButSecrets hidden s t) (xApiKey : Option Text)
    {body body' : RequestBody} (active : ℕ) (id : Uuid) (now : Timestamp) (committed : Bool)
    (hanswer : (createCall cfg xApiKey body active id now).1 =
      (createCall cfg xApiKey body' active id now).1)
    (hrow : (createCall cfg xApiKey body active id now).2.map (Call.redact hidden) =
      (createCall cfg xApiKey body' active id now).2.map (Call.redact hidden)) :
    Option.Rel (SameButSecrets hidden) (s.step cfg (.createCall xApiKey body active id now committed))
      (t.step cfg (.createCall xApiKey body' active id now committed)) := by
  have hrows : s.worker.runner.rows.map (Call.redact hidden) =
      t.worker.runner.rows.map (Call.redact hidden) := congrArg (fun w => w.runner.rows) hs
  unfold ApiState.step
  dsimp only
  generalize createCall cfg xApiKey body active id now = answer at hanswer hrow ⊢
  generalize createCall cfg xApiKey body' active id now = answer' at hanswer hrow ⊢
  obtain ⟨response, row⟩ := answer
  obtain ⟨response', row'⟩ := answer'
  obtain rfl : response = response' := hanswer
  cases row with
  | none =>
      cases row' with
      | none => exact .some hs
      | some row' => cases hrow
  | some row =>
      cases row' with
      | none => cases hrow
      | some row' =>
          replace hrow : row.redact hidden = row'.redact hidden := Option.some.inj hrow
          have hid : (row.redact hidden).id = (row'.redact hidden).id := congrArg Call.id hrow
          replace hid : row.id = row'.id := hid
          have hfind : (findRow s.worker.runner.rows row.id).map (Call.redact hidden) =
              (findRow t.worker.runner.rows row'.id).map (Call.redact hidden) := by
            rw [← findRow_redact, ← findRow_redact, hrows, hid]
          dsimp only
          cases hold : findRow s.worker.runner.rows row.id with
          | some old =>
              cases hold' : findRow t.worker.runner.rows row'.id with
              | some old' => exact .none
              | none =>
                  rw [hold, hold'] at hfind
                  cases hfind
          | none =>
              cases hold' : findRow t.worker.runner.rows row'.id with
              | some old' =>
                  rw [hold, hold'] at hfind
                  cases hfind
              | none =>
                  refine .some ?_
                  cases committed with
                  | false => exact hs
                  | true =>
                      have hinsert : (s.worker.runner.rows ++ [row]).map (Call.redact hidden) =
                          (t.worker.runner.rows ++ [row']).map (Call.redact hidden) := by
                        rw [List.map_append, List.map_append, hrows, List.map_singleton,
                          List.map_singleton, hrow]
                      have hworker : s.worker.redact hidden = t.worker.redact hidden := hs
                      change { s.worker.redact hidden with
                          runner := { (s.worker.redact hidden).runner with
                            rows := (s.worker.runner.rows ++ [row]).map (Call.redact hidden) } } =
                        { t.worker.redact hidden with
                          runner := { (t.worker.redact hidden).runner with
                            rows := (t.worker.runner.rows ++ [row']).map (Call.redact hidden) } }
                      rw [hworker, hinsert]

theorem rel_of_map_eq {α β : Type} {f : α → β} {x y : Option α} (h : x.map f = y.map f) :
    Option.Rel (fun a b => f a = f b) x y := by
  cases x with
  | none => cases y with
      | none => exact .none
      | some b => cases h
  | some a => cases y with
      | none => cases h
      | some b => exact .some (Option.some.inj h)

theorem lockStep_of_secrets : TransitionSystem.LockStep (apiSystem cfg) (apiSystem cfg)
    (ApiState.observe cfg host hidden) (ApiState.observe cfg host hidden) (SameButSecrets hidden)
    (Alike cfg hidden) where
  output {s t e f} hs he := by
    have hrunner : s.worker.runner.redact hidden = t.worker.runner.redact hidden :=
      congrArg WorkerState.runner hs
    cases he with
    | secrets xApiKey active id now committed hid hdata hdata' hsame =>
        have hanswer := (createCall_alike hid hdata hdata' hsame xApiKey active now).1
        exact congrArg (fun response => [Observation.response response]) hanswer
    | same =>
        cases e with
        | createCall => rfl
        | getCall xApiKey callId now =>
            have hrows := congrArg RunnerState.rows hrunner
            change [_] = [_]
            rw [← getCall_redact, ← getCall_redact cfg hidden t.worker.runner.rows]
            exact congrArg (fun rows => [Observation.response (getCall cfg rows xApiKey callId)]) hrows
        | worker e =>
            cases e with
            | runner e =>
                change s.worker.runner.spawned host e = t.worker.runner.spawned host e
                rw [← spawned_redact, hrunner, spawned_redact]
            | deliver j receiver txNow now =>
                change s.worker.posted cfg hidden j receiver txNow now =
                  t.worker.posted cfg hidden j receiver txNow now
                rw [← posted_redact, show s.worker.redact hidden = t.worker.redact hidden from hs,
                  posted_redact]
  step {s t e f} hs he := by
    cases he with
    | secrets xApiKey active id now committed hid hdata hdata' hsame =>
        obtain ⟨hanswer, hrow⟩ := createCall_alike hid hdata hdata' hsame xApiKey active now
        exact rel_of_answers hs xApiKey active id now committed hanswer hrow
    | same =>
        cases e with
        | createCall xApiKey body active id now committed =>
            exact rel_of_answers hs xApiKey active id now committed rfl rfl
        | getCall xApiKey callId now => exact .some hs
        | worker e =>
            change Option.Rel (SameButSecrets hidden) (if e.creates then none else _)
              (if e.creates then none else _)
            cases hcreates : e.creates with
            | true => exact .none
            | false =>
                have hstep : (s.worker.step cfg.worker e).map (WorkerState.redact hidden) =
                    (t.worker.step cfg.worker e).map (WorkerState.redact hidden) := by
                  rw [← workerStep_redact cfg.worker s.worker hcreates,
                    ← workerStep_redact cfg.worker t.worker hcreates,
                    show s.worker.redact hidden = t.worker.redact hidden from hs]
                have hrel := rel_of_map_eq hstep
                rw [if_neg (by decide), if_neg (by decide)]
                generalize s.worker.step cfg.worker e = next at hrel ⊢
                generalize t.worker.step cfg.worker e = next' at hrel ⊢
                cases hrel with
                | some h => exact .some h
                | none => exact .none

/-- Whatever the secrets of the hidden calls are: two runs of the API and the runner with creates that
differ in them alone, and the same events besides, are enabled alike and end in states that differ in
them alone. They let out the same responses, the same command lines of bots and the same posts, but for
the signatures of the hidden calls. -/
theorem outputs_of_secrets (host : BotHost) (hs : SameButSecrets hidden s t) {es es' : List ApiEvent}
    (hes : List.Forall₂ (Alike cfg hidden) es es') :
    Option.Rel (SameButSecrets hidden) ((apiSystem cfg).run s es) ((apiSystem cfg).run t es') ∧
      (apiSystem cfg).outputs (ApiState.observe cfg host hidden) s es =
        (apiSystem cfg).outputs (ApiState.observe cfg host hidden) t es' :=
  lockStep_of_secrets.run hs hes

end TwoRuns

/-! ## A call under two secrets -/

def keyedBody (secret : Text) : Json := .obj
  [("meeting_url".toList, .str "https://meet.google.com/abc-defg-hij".toList),
    ("user_ref".toList, .str "user".toList), ("consent_ack".toList, .bool true),
    ("webhook_url".toList, .str "https://example.org/hook".toList),
    ("webhook_secret".toList, .str secret)]

def keyedCreate (secret : Text) : CallCreate where
  meetingUrl := "https://meet.google.com/abc-defg-hij".toList
  userRef := "user".toList
  consentAck := true
  webhookUrl := "https://example.org/hook".toList
  webhookSecret := secret
  platform := some .googleMeet

theorem redact_keyedCreate (secret secret' : Text) :
    (keyedCreate secret).redact = (keyedCreate secret').redact := rfl

def sampleHost : BotHost where
  spawn := ⟨"local".toList, "network".toList, "/audio".toList⟩
  environ _ := none
  profile _ := none

def keyedCall (secret : Text) : List ApiEvent :=
  .createCall (some "key".toList) (.json (keyedBody secret)) 0 7 0 true ::
    deliveredCall.tail.map .worker

def firstSecret : Text := "0123456789abcdef".toList

def secondSecret : Text := "fedcba9876543210".toList

theorem validate_firstSecret : CallCreate.validate sampleCoercions (keyedBody firstSecret) =
    .ok (keyedCreate firstSecret) := by rfl

theorem validate_secondSecret : CallCreate.validate sampleCoercions (keyedBody secondSecret) =
    .ok (keyedCreate secondSecret) := by rfl

def sampleOutputs (hidden : Uuid → Bool) (secret : Text) : List Observation :=
  (apiSystem sampleApi).outputs (ApiState.observe sampleApi sampleHost hidden) emptyApi
    (keyedCall secret)

/-- With the secret of call 7 hidden nothing tells the runs apart, and otherwise a signature does. -/
theorem outputs_of_secrets_keyedCall :
    sampleOutputs (fun id => id = 7) firstSecret = sampleOutputs (fun id => id = 7) secondSecret ∧
      sampleOutputs (fun _ => false) firstSecret ≠ sampleOutputs (fun _ => false) secondSecret := by
  have hcreate : Alike sampleApi (fun id => id = 7)
      (.createCall (some "key".toList) (.json (keyedBody firstSecret)) 0 7 0 true)
      (.createCall (some "key".toList) (.json (keyedBody secondSecret)) 0 7 0 true) :=
    .secrets _ 0 7 0 true (by decide) validate_firstSecret validate_secondSecret
      (redact_keyedCreate _ _)
  have hrest : List.Forall₂ (Alike sampleApi fun id => id = 7) (deliveredCall.tail.map .worker)
      (deliveredCall.tail.map .worker) := List.forall₂_same.2 fun e _ => .same e
  have hsecrets : SameButSecrets (fun id => id = 7) emptyApi emptyApi := rfl
  have hevents : List.Forall₂ (Alike sampleApi fun id => id = 7) (keyedCall firstSecret)
      (keyedCall secondSecret) := .cons hcreate hrest
  refine ⟨(outputs_of_secrets sampleHost hsecrets hevents).2, ?_⟩
  decide +kernel

end Notetaker

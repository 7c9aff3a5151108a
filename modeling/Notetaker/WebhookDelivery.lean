import Mathlib.Algebra.BigOperators.Group.Finset.Basic
import Notetaker.StaleSweep

/-!
# Webhook delivery

`workers/webhook_dispatcher.py`: one request, signed once, is posted until the receiver answers below
500 or the attempts run out. The receiver is a function from the number of an attempt to what that
attempt comes to. HMAC-SHA256 and the serialisation of the payload are parameters.
-/

open PythonText PythonUuid

namespace Notetaker

structure WebhookPayload where
  callId : Text
  status : CallStatus
  endReason : Option Text
  failureReason : Option Text
  userRef : Text
  transcript : Option (List SpeakerSegment)
  audioUrl : Option Text
  createdAt : Timestamp
  finishedAt : Timestamp

def buildPayload (call : Call) : WebhookPayload where
  callId := call.id.text
  status := call.status
  endReason := call.endReason
  failureReason := call.failureReason
  userRef := call.userRef
  transcript := call.transcript
  audioUrl := call.audioUrl
  createdAt := call.createdAt
  finishedAt := call.updatedAt

/-- The signing and the serialisation that the dispatcher uses. -/
structure WebhookCodec where
  hmacSha256Hex : Text → Text → Text
  dumpsPayload : WebhookPayload → Text

def WebhookCodec.buildSignature (codec : WebhookCodec) (secret timestamp body : Text) : Text :=
  codec.hmacSha256Hex secret (concat [timestamp, ":", body])

structure WorkerSettings where
  runner : RunnerSettings
  webhookMaxAttempts : ℤ
  codec : WebhookCodec

structure WebhookRequest where
  url : Text
  body : Text
  timestamp : Text
  signature : Text
  deriving DecidableEq

/-- `int(x)` of a float. -/
def truncate (x : ℚ) : ℤ := if 0 ≤ x then x.floor else x.ceil

/-- The request is built once, before the first attempt. -/
def webhookRequest (codec : WebhookCodec) (call : Call) (now : Timestamp) : WebhookRequest :=
  let body := codec.dumpsPayload (buildPayload call)
  let timestamp := intText (truncate now)
  { url := call.webhookUrl
    body := body
    timestamp := timestamp
    signature := codec.buildSignature call.webhookSecret timestamp body }

/-! ## Attempts -/

inductive Answer where
  /-- `httpx.HTTPError`. -/
  | networkError
  /-- Any other exception of the client. -/
  | unexpected
  | status (code : ℕ)

inductive Verdict where
  | delivered | rejected | raised | retry
  deriving DecidableEq

def Answer.verdict : Answer → Verdict
  | networkError => .retry
  | unexpected => .raised
  | status code =>
      if 200 ≤ code ∧ code < 300 then .delivered else if code < 500 then .rejected else .retry

/-- One attempt: the flush before the request, the request, and how it ended. -/
structure Attempt where
  flush : ℚ
  request : ℚ
  answer : Answer

namespace Attempt

def seconds (attempt : Attempt) : ℚ := attempt.flush + attempt.request

def Retries (attempt : Attempt) : Prop := attempt.answer.verdict = .retry

instance (attempt : Attempt) : Decidable attempt.Retries :=
  inferInstanceAs (Decidable (attempt.answer.verdict = .retry))

end Attempt

/-- `DEFAULT_BACKOFF_S`. -/
def defaultBackoffS : List ℚ := [1, 4, 16, 64, 256]

/-- `backoff[min(attempt, len(backoff) - 1)]`. -/
def backoffS (attempt : ℕ) : ℚ := defaultBackoffS.getD (min attempt (defaultBackoffS.length - 1)) 0

structure Post where
  sentAt : Timestamp
  request : WebhookRequest

inductive DeliveryAction where
  | post (sent : Post)
  | sleep (seconds : ℚ)

def DeliveryAction.sent : DeliveryAction → Option Post
  | .post sent => some sent
  | .sleep _ => none

/-- What a delivery leaves behind: the row as last flushed, the time, what it did in order, and the
returned value unless the client raised. -/
structure Delivery where
  call : Call
  clock : Timestamp
  actions : List DeliveryAction
  returned : Option Bool

def Delivery.posts (delivery : Delivery) : List Post :=
  delivery.actions.filterMap DeliveryAction.sent

/-- `UPDATE calls SET webhook_attempts = …`, with `updated_at` set to the time of the transaction. -/
def Call.countAttempt (call : Call) (txNow : Timestamp) : Call :=
  { call with webhookAttempts := call.webhookAttempts + 1, updatedAt := txNow }

def Call.recordDelivery (call : Call) (txNow now : Timestamp) : Call :=
  { call with webhookDeliveredAt := some now, updatedAt := txNow }

section Attempts

variable (receiver : ℕ → Attempt) (request : WebhookRequest) (txNow : Timestamp)

/-- The attempts from number `attempt` on, of which `left` are left. -/
def attemptFrom : (left attempt : ℕ) → Call → Timestamp → Delivery
  | 0, _, call, clock => ⟨call, clock, [], some false⟩
  | left + 1, attempt, call, clock =>
      let counted := call.countAttempt txNow
      let post : Post := ⟨clock + (receiver attempt).flush, request⟩
      let answered := clock + (receiver attempt).seconds
      match (receiver attempt).answer.verdict with
      | .delivered => ⟨counted.recordDelivery txNow answered, answered, [.post post], some true⟩
      | .rejected => ⟨counted, answered, [.post post], some false⟩
      | .raised => ⟨counted, answered, [.post post], none⟩
      | .retry =>
          -- No pause behind the last attempt.
          let pause := if left = 0 then 0 else backoffS attempt
          let sleeps := if left = 0 then [] else [.sleep (backoffS attempt)]
          let rest := attemptFrom left (attempt + 1) counted (answered + pause)
          { rest with actions := .post post :: (sleeps ++ rest.actions) }

end Attempts

/-- `deliver`, called at time `now` in a transaction that began at `txNow`. -/
def deliver (codec : WebhookCodec) (maxAttempts : ℤ) (receiver : ℕ → Attempt)
    (txNow now : Timestamp) (call : Call) : Delivery :=
  if call.webhookDeliveredAt.isSome then ⟨call, now, [], some true⟩
  else attemptFrom receiver (webhookRequest codec call now) txNow maxAttempts.toNat 0 call now

/-- `dispatch_webhook` on the row it reads; `none` when it returns at once. -/
def dispatchWebhook (codec : WebhookCodec) (maxAttempts : ℤ) (receiver : ℕ → Attempt)
    (txNow now : Timestamp) (row : Option Call) : Option Delivery :=
  match row with
  | none => none
  | some call =>
      if call.webhookDeliveredAt.isSome ∨ ¬ call.status.Terminal then none
      else some (deliver codec maxAttempts receiver txNow now call)

def answersAtOnce (code : ℕ) : ℕ → Attempt := fun _ => ⟨0, 0, .status code⟩

def sampleCodec : WebhookCodec where
  hmacSha256Hex secret message := secret ++ message
  dumpsPayload payload := payload.callId

/-! ## What a delivery takes -/

theorem backoffS_nonneg (attempt : ℕ) : 0 ≤ backoffS attempt := by
  have hall : ∀ i < 5, 0 ≤ defaultBackoffS.getD i 0 := by decide
  apply hall
  have hlength : defaultBackoffS.length = 5 := rfl
  omega

/-- How long a receiver keeps the attempts busy from number `attempt` on. -/
def attemptSeconds (receiver : ℕ → Attempt) : (left attempt : ℕ) → ℚ
  | 0, _ => 0
  | left + 1, attempt =>
      (receiver attempt).seconds +
        if (receiver attempt).Retries ∧ left ≠ 0 then
          backoffS attempt + attemptSeconds receiver left (attempt + 1)
        else 0

theorem clock_attemptFrom (receiver : ℕ → Attempt) (request : WebhookRequest) (txNow : Timestamp)
    (left attempt : ℕ) (call : Call) (clock : Timestamp) :
    (attemptFrom receiver request txNow left attempt call clock).clock =
      clock + attemptSeconds receiver left attempt := by
  induction left generalizing attempt call clock with
  | zero => exact (add_zero clock).symm
  | succ left ih =>
      rw [attemptFrom, attemptSeconds]
      cases hverdict : (receiver attempt).answer.verdict with
      | retry =>
          have hretries : (receiver attempt).Retries := hverdict
          dsimp only
          rw [ih]
          cases left with
          | zero => rw [if_pos rfl, if_neg (by simp), attemptSeconds, add_zero, add_zero, add_zero]
          | succ left =>
              rw [if_neg (Nat.succ_ne_zero left), if_pos ⟨hretries, Nat.succ_ne_zero left⟩, add_assoc,
                add_assoc]
      | _ =>
          have hends : ¬ (receiver attempt).Retries := by
            rw [Attempt.Retries, hverdict]
            decide
          dsimp only
          rw [if_neg (fun h => hends h.1), add_zero]

theorem clock_deliver (codec : WebhookCodec) (maxAttempts : ℤ) (receiver : ℕ → Attempt)
    (txNow now : Timestamp) {call : Call} (hpending : call.webhookDeliveredAt = none) :
    (deliver codec maxAttempts receiver txNow now call).clock =
      now + attemptSeconds receiver maxAttempts.toNat 0 := by
  rw [deliver, hpending, if_neg (by simp), clock_attemptFrom]

/-- The requests that are made from number `attempt` on: up to the first that is not retried. -/
def requestsMade (receiver : ℕ → Attempt) : (left attempt : ℕ) → ℕ
  | 0, _ => 0
  | left + 1, attempt =>
      if (receiver attempt).Retries then requestsMade receiver left (attempt + 1) + 1 else 1

theorem requestsMade_pos (receiver : ℕ → Attempt) (left attempt : ℕ) :
    0 < requestsMade receiver (left + 1) attempt := by
  rw [requestsMade]
  split_ifs <;> omega

theorem attemptSeconds_eq_sum (receiver : ℕ → Attempt) (left attempt : ℕ) :
    attemptSeconds receiver left attempt =
      ∑ k ∈ Finset.range (requestsMade receiver left attempt), (receiver (attempt + k)).seconds +
        ∑ k ∈ Finset.range (requestsMade receiver left attempt - 1), backoffS (attempt + k) := by
  induction left generalizing attempt with
  | zero => simp [attemptSeconds, requestsMade]
  | succ left ih =>
      rw [attemptSeconds, requestsMade]
      by_cases hretries : (receiver attempt).Retries
      · rw [if_pos hretries, Finset.sum_range_succ']
        cases left with
        | zero => simp [requestsMade]
        | succ left =>
            have hpos := requestsMade_pos receiver left (attempt + 1)
            obtain ⟨made, hmade⟩ : ∃ made, requestsMade receiver (left + 1) (attempt + 1) = made + 1 :=
              ⟨_, (Nat.sub_add_cancel hpos).symm⟩
            have hshift : ∀ k, attempt + 1 + k = attempt + (k + 1) := fun k => by omega
            rw [if_pos ⟨hretries, Nat.succ_ne_zero left⟩, ih, hmade, Nat.add_sub_cancel,
              Nat.add_sub_cancel, Finset.sum_range_succ' fun k => backoffS (attempt + k)]
            simp only [hshift, add_zero]
            ring
      · rw [if_neg hretries, if_neg fun h => hretries h.1]
        simp

/-! ## What a delivery writes -/

/-- Only the delivery's own columns differ. -/
def SameButDelivery (old new : Call) : Prop :=
  ∃ attempts delivered updated, new = { old with
    webhookAttempts := attempts, webhookDeliveredAt := delivered, updatedAt := updated }

theorem SameButDelivery.refl (call : Call) : SameButDelivery call call := ⟨_, _, _, rfl⟩

theorem SameButDelivery.id_eq {row new : Call} (h : SameButDelivery row new) : new.id = row.id := by
  obtain ⟨_, _, _, rfl⟩ := h
  rfl

theorem SameButDelivery.status_eq {row new : Call} (h : SameButDelivery row new) :
    new.status = row.status := by
  obtain ⟨_, _, _, rfl⟩ := h
  rfl

theorem SameButDelivery.trans {a b c : Call} (hab : SameButDelivery a b)
    (hbc : SameButDelivery b c) : SameButDelivery a c := by
  obtain ⟨_, _, _, rfl⟩ := hab
  obtain ⟨_, _, _, rfl⟩ := hbc
  exact ⟨_, _, _, rfl⟩

theorem sameButDelivery_attemptFrom (receiver : ℕ → Attempt) (request : WebhookRequest)
    (txNow : Timestamp) (left attempt : ℕ) (call : Call) (clock : Timestamp) :
    SameButDelivery call (attemptFrom receiver request txNow left attempt call clock).call := by
  induction left generalizing attempt call clock with
  | zero => exact .refl call
  | succ left ih =>
      have hcounted : SameButDelivery call (call.countAttempt txNow) := ⟨_, _, _, rfl⟩
      rw [attemptFrom]
      cases (receiver attempt).answer.verdict with
      | delivered => exact ⟨_, _, _, rfl⟩
      | rejected => exact hcounted
      | raised => exact hcounted
      | retry => exact hcounted.trans (ih (attempt + 1) _ _)

theorem sameButDelivery_deliver (codec : WebhookCodec) (maxAttempts : ℤ) (receiver : ℕ → Attempt)
    (txNow now : Timestamp) (call : Call) :
    SameButDelivery call (deliver codec maxAttempts receiver txNow now call).call := by
  unfold deliver
  split_ifs
  · exact .refl call
  · apply sameButDelivery_attemptFrom

theorem updatedAt_attemptFrom (receiver : ℕ → Attempt) (request : WebhookRequest)
    (txNow : Timestamp) (left attempt : ℕ) (call : Call) (clock : Timestamp) :
    let new := (attemptFrom receiver request txNow left attempt call clock).call
    new.updatedAt = call.updatedAt ∨ new.updatedAt = txNow := by
  induction left generalizing attempt call clock with
  | zero => exact .inl rfl
  | succ left ih =>
      rw [attemptFrom]
      cases (receiver attempt).answer.verdict with
      | retry =>
          right
          rcases ih (attempt + 1) (call.countAttempt txNow) _ with h | h
          · exact h
          · exact h
      | _ => exact .inr rfl

theorem updatedAt_deliver (codec : WebhookCodec) (maxAttempts : ℤ) (receiver : ℕ → Attempt)
    (txNow now : Timestamp) (call : Call) :
    let new := (deliver codec maxAttempts receiver txNow now call).call
    new.updatedAt = call.updatedAt ∨ new.updatedAt = txNow := by
  unfold deliver
  split_ifs
  · exact .inl rfl
  · apply updatedAt_attemptFrom

end Notetaker

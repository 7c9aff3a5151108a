import Notetaker.BoundedRetry
import Notetaker.WebhookFreshness

/-!
# The retry contract of a delivery

A delivery posts one signed request until an answer is final or the attempts run out, pauses between
consecutive attempts only, and leaves behind a row that counts the attempts and knows whether the last one
was accepted.
-/

open PythonText BoundedRetry

namespace Notetaker

namespace Answer

/-- A 2xx response. -/
def Accepts : Answer → Prop
  | status code => 200 ≤ code ∧ code < 300
  | _ => False

/-- No response, or a 5xx one. A status from 600 on is none that HTTP knows, and a client is to read it as
a 5xx. -/
def Unavailable : Answer → Prop
  | networkError => True
  | unexpected => False
  | status code => 500 ≤ code

theorem verdict_eq_delivered_iff (answer : Answer) : answer.verdict = .delivered ↔ answer.Accepts := by
  cases answer with
  | status code =>
      change (if 200 ≤ code ∧ code < 300 then Verdict.delivered else _) = _ ↔ 200 ≤ code ∧ code < 300
      split_ifs with haccepts hrejects <;> simp [haccepts]
  | _ => simp [verdict, Accepts]

theorem verdict_eq_retry_iff (answer : Answer) : answer.verdict = .retry ↔ answer.Unavailable := by
  cases answer with
  | status code =>
      change (if 200 ≤ code ∧ code < 300 then Verdict.delivered else if code < 500 then _ else _) = _ ↔
        500 ≤ code
      split_ifs with haccepts hrejects <;> simp <;> omega
  | _ => simp [verdict, Unavailable]

end Answer

def LastAccepted (receiver : ℕ → Attempt) (attempt made : ℕ) : Prop :=
  ∃ k, made = k + 1 ∧ (receiver (attempt + k)).answer.Accepts

section Attempts

variable {receiver : ℕ → Attempt} {request : WebhookRequest} {txNow start : Timestamp}

variable (receiver request start) in
def attemptPost (attempt : ℕ) : DeliveryAction :=
  .post ⟨start + attemptOffset receiver attempt + (receiver attempt).flush, request⟩

theorem lastAccepted_one_iff (attempt : ℕ) :
    LastAccepted receiver attempt 1 ↔ (receiver attempt).answer.verdict = .delivered := by
  rw [Answer.verdict_eq_delivered_iff]
  constructor
  · rintro ⟨k, hk, haccepts⟩
    obtain rfl : k = 0 := by omega
    exact haccepts
  · exact fun h => ⟨0, rfl, h⟩

theorem lastAccepted_succ_iff {attempt made : ℕ} (hmade : 0 < made) :
    LastAccepted receiver attempt (made + 1) ↔ LastAccepted receiver (attempt + 1) made := by
  have hshift : ∀ k, attempt + 1 + k = attempt + (k + 1) := fun k => by omega
  constructor
  · rintro ⟨k, hk, haccepts⟩
    obtain ⟨j, rfl⟩ : ∃ j, k = j + 1 := ⟨k - 1, by omega⟩
    exact ⟨j, by omega, by rw [hshift]; exact haccepts⟩
  · rintro ⟨k, hk, haccepts⟩
    exact ⟨k + 1, by omega, by rw [← hshift]; exact haccepts⟩

variable (request txNow start) in
/-- What the attempts do, from number `attempt` on, when the client raises nothing unexpected. -/
theorem attemptFrom_spec (hanswers : ∀ k, (receiver k).answer.verdict ≠ .raised)
    (left attempt : ℕ) (call : Call) :
    ∃ made delivery, attemptFrom receiver request txNow left attempt call
        (start + attemptOffset receiver attempt) = delivery ∧
      StopsAfter (fun k => (receiver k).Retries) attempt left made ∧
      delivery.actions = trace (attemptPost receiver request start)
        (fun k => .sleep (backoffS k)) attempt made ∧
      delivery.call.webhookAttempts = call.webhookAttempts + made ∧
      (LastAccepted receiver attempt made → delivery.call.webhookDeliveredAt.isSome ∧
        delivery.returned = some true) ∧
      (¬ LastAccepted receiver attempt made →
        delivery.call.webhookDeliveredAt = call.webhookDeliveredAt ∧
          delivery.returned = some false) := by
  induction left generalizing attempt call with
  | zero =>
      refine ⟨0, _, rfl, stopsAfter_zero, rfl, rfl, ?_, fun _ => ⟨rfl, rfl⟩⟩
      rintro ⟨k, hk, -⟩
      omega
  | succ left ih =>
      have hfinal : (receiver attempt).answer.verdict ≠ .retry →
          StopsAfter (fun k => (receiver k).Retries) attempt (left + 1) 1 :=
        fun h => stopsAfter_final h
      rw [attemptFrom]
      cases hverdict : (receiver attempt).answer.verdict with
      | raised => exact absurd hverdict (hanswers attempt)
      | delivered =>
          refine ⟨1, _, rfl, hfinal (by rw [hverdict]; decide), rfl, rfl, fun _ => ⟨rfl, rfl⟩, ?_⟩
          rw [lastAccepted_one_iff]
          exact fun h => absurd hverdict h
      | rejected =>
          refine ⟨1, _, rfl, hfinal (by rw [hverdict]; decide), rfl, rfl, ?_, fun _ => ⟨rfl, rfl⟩⟩
          rw [lastAccepted_one_iff, hverdict]
          exact fun h => absurd h (by decide)
      | retry =>
          cases left with
          | zero =>
              refine ⟨1, _, rfl, stopsAfter_last, rfl, rfl, ?_, fun _ => ⟨rfl, rfl⟩⟩
              rw [lastAccepted_one_iff, hverdict]
              exact fun h => absurd h (by decide)
          | succ left =>
              have hoffset : start + attemptOffset receiver attempt + (receiver attempt).seconds +
                  backoffS attempt = start + attemptOffset receiver (attempt + 1) := by
                rw [attemptOffset, add_assoc, add_assoc, add_assoc]
              obtain ⟨made, rest, hrest, hstops, hactions, hcount, haccepted, hrefused⟩ :=
                ih (attempt + 1) (call.countAttempt txNow)
              dsimp only
              rw [if_neg (Nat.succ_ne_zero left), if_neg (Nat.succ_ne_zero left), hoffset, hrest]
              refine ⟨made + 1, _, rfl, hstops.retry hverdict, ?_, ?_, ?_, ?_⟩
              · rw [trace_succ, if_neg (Nat.ne_of_gt hstops.pos), ← hactions]
                rfl
              · change rest.call.webhookAttempts = _
                rw [hcount]
                change call.webhookAttempts + 1 + made = _
                omega
              · rw [lastAccepted_succ_iff hstops.pos]
                exact haccepted
              · rw [lastAccepted_succ_iff hstops.pos]
                exact hrefused

end Attempts

/-- A delivery of `made` requests, all the same and signed, with pauses between consecutive ones only: up
to the first response that is no 5xx, or as many as there are attempts. -/
structure RetryContract (codec : WebhookCodec) (receiver : ℕ → Attempt) (attempts : ℕ)
    (now : Timestamp) (call : Call) (delivery : Delivery) (made : ℕ) : Prop where
  stops : StopsAfter (fun k => (receiver k).answer.Unavailable) 0 attempts made
  sent : delivery.posts.length = made
  actions : ∃ request, delivery.actions = trace (attemptPost receiver request now)
      (fun k => .sleep (backoffS k)) 0 made ∧
    request.body = codec.dumpsPayload (buildPayload call) ∧
    request.signature =
      codec.buildSignature call.webhookSecret request.timestamp request.body
  counted : delivery.call.webhookAttempts = call.webhookAttempts + made
  delivered : delivery.call.webhookDeliveredAt.isSome ↔ LastAccepted receiver 0 made
  returned : ∃ accepted, delivery.returned = some accepted ∧
    (accepted = true ↔ LastAccepted receiver 0 made)

section Contract

variable (codec : WebhookCodec) (receiver : ℕ → Attempt) (attempts : ℕ) (txNow now : Timestamp)
  (call : Call)

/-- Every answer is a status or an `httpx.HTTPError`. An undelivered call is delivered by the contract, a
delivered one is left alone. -/
theorem deliver_contract (hanswers : ∀ k, (receiver k).answer ≠ .unexpected) :
    (call.webhookDeliveredAt = none →
      ∃ made, RetryContract codec receiver attempts now call
        (deliver codec attempts receiver txNow now call) made) ∧
    (call.webhookDeliveredAt.isSome →
      deliver codec attempts receiver txNow now call = ⟨call, now, [], some true⟩) := by
  have hverdicts : ∀ k, (receiver k).answer.verdict ≠ .raised := by
    intro k
    cases hanswer : (receiver k).answer with
    | networkError => decide
    | unexpected => exact absurd hanswer (hanswers k)
    | status code =>
        rw [Answer.verdict]
        split_ifs <;> decide
  constructor
  · intro hpending
    obtain ⟨made, delivery, hdelivery, hstops, hactions, hcounted, haccepted, hrefused⟩ :=
      attemptFrom_spec (webhookRequest codec call now) txNow now hverdicts attempts 0 call
    have hdeliver : deliver codec attempts receiver txNow now call = delivery := by
      rw [deliver, hpending, if_neg (by simp), Int.toNat_natCast, ← hdelivery, attemptOffset,
        add_zero]
    have hretries : (fun k => (receiver k).Retries) = fun k => (receiver k).answer.Unavailable :=
      funext fun k => propext (receiver k).answer.verdict_eq_retry_iff
    rw [hretries] at hstops
    rw [hdeliver]
    refine ⟨made, hstops, ?_, ⟨_, hactions, rfl, rfl⟩, hcounted, ?_, ?_⟩
    · rw [Delivery.posts, hactions]
      exact length_filterMap_trace _ _ (fun _ => rfl) (fun _ => rfl) 0 made
    · by_cases hlast : LastAccepted receiver 0 made
      · exact iff_of_true (haccepted hlast).1 hlast
      · refine iff_of_false ?_ hlast
        rw [(hrefused hlast).1, hpending]
        decide
    · by_cases hlast : LastAccepted receiver 0 made
      · exact ⟨true, (haccepted hlast).2, iff_of_true rfl hlast⟩
      · exact ⟨false, (hrefused hlast).2, iff_of_false (by decide) hlast⟩
  · intro hdelivered
    rw [deliver, if_pos hdelivered]

end Contract

def acceptedCall : Call := { sampleCall .done with webhookDeliveredAt := some 5 }

theorem deliver_contract_unavailable :
    (∃ made, RetryContract sampleCodec (answersAtOnce 503) 7 0 (sampleCall .done)
      (deliver sampleCodec 7 (answersAtOnce 503) 0 0 (sampleCall .done)) made) ∧
    deliver sampleCodec 7 (answersAtOnce 503) 0 9 acceptedCall = ⟨acceptedCall, 9, [], some true⟩ :=
  ⟨(deliver_contract sampleCodec (answersAtOnce 503) 7 0 0 (sampleCall .done) (fun _ => nofun)).1
      rfl,
    (deliver_contract sampleCodec (answersAtOnce 503) 7 0 9 acceptedCall (fun _ => nofun)).2 rfl⟩

end Notetaker

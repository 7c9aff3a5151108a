import Mathlib.Order.Monotone.Basic
import Mathlib.Tactic.Linarith
import Mathlib.Tactic.NormNum
import Notetaker.CallTransitions
import Notetaker.WebhookDelivery

/-!
# Freshness of the delivery attempts

All attempts carry the timestamp of the first one, so their age is the time that the earlier attempts
and the pauses took. Attempt number 5 (the sixth) comes after the pause of 256 s.
-/

open PythonText

namespace Notetaker

/-- From the start of the delivery to the start of an attempt that is reached. -/
def attemptOffset (receiver : ℕ → Attempt) : ℕ → ℚ
  | 0 => 0
  | attempt + 1 => attemptOffset receiver attempt + (receiver attempt).seconds + backoffS attempt

section Posts

variable {receiver : ℕ → Attempt} {request : WebhookRequest} {txNow start : Timestamp}

theorem posts_singleton (call : Call) (clock : Timestamp) (sent : Post) (returned : Option Bool) :
    (Delivery.mk call clock [.post sent] returned).posts = [sent] := rfl

theorem posts_retry (rest : Delivery) (sent : Post) (left attempt : ℕ) :
    { rest with actions := .post sent ::
      ((if left = 0 then [] else [DeliveryAction.sleep (backoffS attempt)]) ++ rest.actions) }.posts =
      sent :: rest.posts := by
  unfold Delivery.posts
  split_ifs <;> rfl

theorem mem_posts_attemptFrom {left attempt : ℕ} {call : Call} {post : Post} :
    post ∈ (attemptFrom receiver request txNow left attempt call
        (start + attemptOffset receiver attempt)).posts ↔
      ∃ j, attempt ≤ j ∧ j < attempt + left ∧
        (∀ k, attempt ≤ k → k < j → (receiver k).Retries) ∧
        post = ⟨start + attemptOffset receiver j + (receiver j).flush, request⟩ := by
  induction left generalizing attempt call with
  | zero =>
      constructor
      · intro h
        cases h
      · rintro ⟨j, hle, hlt, -⟩
        omega
  | succ left ih =>
      have hfirst : ∀ j, attempt ≤ j → (∀ k, attempt ≤ k → k < j → (receiver k).Retries) →
          ¬ (receiver attempt).Retries → j = attempt := by
        intro j hle hretries hstops
        by_contra hne
        exact hstops (hretries attempt (Nat.le_refl _) (by omega))
      have hstopped : ¬ (receiver attempt).Retries →
          (post = ⟨start + attemptOffset receiver attempt + (receiver attempt).flush, request⟩ ↔
            ∃ j, attempt ≤ j ∧ j < attempt + (left + 1) ∧
              (∀ k, attempt ≤ k → k < j → (receiver k).Retries) ∧
              post = ⟨start + attemptOffset receiver j + (receiver j).flush, request⟩) := by
        intro hstops
        constructor
        · intro hpost
          exact ⟨attempt, Nat.le_refl _, by omega, fun k hk hk' => by omega, hpost⟩
        · rintro ⟨j, hle, -, hretries, hpost⟩
          rw [hfirst j hle hretries hstops] at hpost
          exact hpost
      rw [attemptFrom]
      cases hverdict : (receiver attempt).answer.verdict with
      | delivered =>
          rw [posts_singleton, List.mem_singleton]
          exact hstopped (by rw [Attempt.Retries, hverdict]; decide)
      | rejected =>
          rw [posts_singleton, List.mem_singleton]
          exact hstopped (by rw [Attempt.Retries, hverdict]; decide)
      | raised =>
          rw [posts_singleton, List.mem_singleton]
          exact hstopped (by rw [Attempt.Retries, hverdict]; decide)
      | retry =>
          -- The clock of the next attempt is its offset; without a next attempt it is not used.
          have hrest : (attemptFrom receiver request txNow left (attempt + 1)
              (call.countAttempt txNow) (start + attemptOffset receiver attempt +
                (receiver attempt).seconds + if left = 0 then 0 else backoffS attempt)).posts =
              (attemptFrom receiver request txNow left (attempt + 1) (call.countAttempt txNow)
                (start + attemptOffset receiver (attempt + 1))).posts := by
            cases left with
            | zero => rfl
            | succ left =>
                rw [if_neg (Nat.succ_ne_zero left), attemptOffset, add_assoc, add_assoc, add_assoc]
          dsimp only
          rw [posts_retry, List.mem_cons, hrest, ih]
          constructor
          · rintro (hpost | ⟨j, hle, hlt, hretries, hpost⟩)
            · exact ⟨attempt, Nat.le_refl _, by omega, fun k hk hk' => by omega, hpost⟩
            · refine ⟨j, by omega, by omega, ?_, hpost⟩
              intro k hk hk'
              rcases Nat.eq_or_lt_of_le hk with rfl | hk
              · exact hverdict
              · exact hretries k hk hk'
          · rintro ⟨j, hle, hlt, hretries, hpost⟩
            rcases Nat.eq_or_lt_of_le hle with rfl | hlt'
            · exact .inl hpost
            · exact .inr ⟨j, hlt', by omega, fun k hk hk' => hretries k (by omega) hk', hpost⟩

end Posts

/-- A receiver that checks the signature and the age of the timestamp accepts the request. -/
def Post.Fresh (codec : WebhookCodec) (secret : Text) (skew : ℤ) (post : Post) : Prop :=
  ∃ stamp : ℤ, post.request.timestamp = intText stamp ∧
    post.request.signature =
      codec.buildSignature secret post.request.timestamp post.request.body ∧
    post.sentAt - stamp ≤ skew

/-- `WEBHOOK_TIMESTAMP_SKEW`. -/
def defaultTimestampSkew : ℤ := 300

section Freshness

variable {receiver : ℕ → Attempt}

theorem mem_posts_deliver {codec : WebhookCodec} {maxAttempts : ℤ} {txNow now : Timestamp}
    {call : Call} {post : Post} (hpending : call.webhookDeliveredAt = none) :
    post ∈ (deliver codec maxAttempts receiver txNow now call).posts ↔
      ∃ j : ℕ, j < maxAttempts ∧ (∀ k < j, (receiver k).Retries) ∧
        post = ⟨now + attemptOffset receiver j + (receiver j).flush,
          webhookRequest codec call now⟩ := by
  have hstart : now = now + attemptOffset receiver 0 := (add_zero now).symm
  rw [deliver, hpending, if_neg (by simp)]
  nth_rewrite 2 [hstart]
  rw [mem_posts_attemptFrom]
  constructor
  · rintro ⟨j, -, hlt, hretries, hpost⟩
    exact ⟨j, by omega, fun k hk => hretries k (Nat.zero_le k) hk, hpost⟩
  · rintro ⟨j, hlt, hretries, hpost⟩
    exact ⟨j, Nat.zero_le j, by omega, fun k _ hk => hretries k hk, hpost⟩

theorem abs_sub_truncate_lt (x : ℚ) : |x - truncate x| < 1 := by
  unfold truncate
  rw [abs_lt]
  split_ifs
  · have hle := Rat.floor_le x
    have hlt := Rat.lt_floor_add_one x
    push_cast at hlt
    constructor <;> linarith
  · have hle := Rat.le_ceil (x := x)
    have hlt := Rat.ceil_lt (x := x)
    constructor <;> linarith

/-- Every attempt takes at most the configured 10 s. -/
def TimelyAttempts (receiver : ℕ → Attempt) : Prop :=
  ∀ k, 0 ≤ (receiver k).flush ∧ 0 ≤ (receiver k).request ∧ (receiver k).seconds ≤ 10

theorem attemptOffset_mono (htimely : TimelyAttempts receiver) : Monotone (attemptOffset receiver) := by
  apply monotone_nat_of_le_succ
  intro attempt
  obtain ⟨hflush, hrequest, -⟩ := htimely attempt
  have hbackoff := backoffS_nonneg attempt
  rw [attemptOffset, Attempt.seconds]
  linarith

theorem attemptOffset_four_le (htimely : TimelyAttempts receiver) : attemptOffset receiver 4 ≤ 125 := by
  obtain ⟨-, -, h0⟩ := htimely 0
  obtain ⟨-, -, h1⟩ := htimely 1
  obtain ⟨-, -, h2⟩ := htimely 2
  obtain ⟨-, -, h3⟩ := htimely 3
  have hpauses : backoffS 0 + backoffS 1 + backoffS 2 + backoffS 3 = 85 := by decide +kernel
  simp only [attemptOffset]
  linarith

theorem le_attemptOffset_five (htimely : TimelyAttempts receiver) : 341 ≤ attemptOffset receiver 5 := by
  have hseconds : ∀ k, 0 ≤ (receiver k).seconds := fun k => by
    obtain ⟨hflush, hrequest, -⟩ := htimely k
    exact add_nonneg hflush hrequest
  have h0 := hseconds 0
  have h1 := hseconds 1
  have h2 := hseconds 2
  have h3 := hseconds 3
  have h4 := hseconds 4
  have hpauses : backoffS 0 + backoffS 1 + backoffS 2 + backoffS 3 + backoffS 4 = 341 := by
    decide +kernel
  simp only [attemptOffset]
  linarith

theorem fresh_iff_lt_five (htimely : TimelyAttempts receiver) (codec : WebhookCodec) (call : Call)
    (now : Timestamp) (j : ℕ) :
    Post.Fresh codec call.webhookSecret defaultTimestampSkew
        ⟨now + attemptOffset receiver j + (receiver j).flush, webhookRequest codec call now⟩ ↔
      j < 5 := by
  obtain ⟨hflush, hrequest, hseconds⟩ := htimely j
  rw [Attempt.seconds] at hseconds
  have htruncate := abs_lt.1 (abs_sub_truncate_lt now)
  constructor
  · rintro ⟨stamp, htimestamp, -, hage⟩
    obtain rfl : truncate now = stamp := intText_injective htimestamp
    by_contra hlate
    have hoffset := attemptOffset_mono htimely (Nat.le_of_not_lt hlate)
    have hfive := le_attemptOffset_five htimely
    rw [defaultTimestampSkew] at hage
    push_cast at hage
    linarith
  · intro hearly
    have hoffset := attemptOffset_mono htimely (show j ≤ 4 by omega)
    have hfour := attemptOffset_four_le htimely
    refine ⟨truncate now, rfl, rfl, ?_⟩
    rw [defaultTimestampSkew]
    push_cast
    linarith

/-- Every request of a delivery is fresh exactly when the sixth attempt is not made: the call was
delivered before, at most five attempts are allowed, or one of the first five ends the delivery. -/
theorem deliver_fresh_iff (codec : WebhookCodec) (maxAttempts : ℤ) (txNow now : Timestamp)
    (call : Call) (htimely : TimelyAttempts receiver) :
    (∀ post ∈ (deliver codec maxAttempts receiver txNow now call).posts,
        post.Fresh codec call.webhookSecret defaultTimestampSkew) ↔
      call.webhookDeliveredAt.isSome ∨ maxAttempts ≤ 5 ∨ ∃ k < 5, ¬ (receiver k).Retries := by
  cases hdelivered : call.webhookDeliveredAt with
  | some t =>
      refine iff_of_true ?_ (.inl rfl)
      intro post hpost
      rw [deliver, hdelivered, Option.isSome_some, if_pos rfl] at hpost
      cases hpost
  | none =>
      constructor
      · intro hfresh
        by_contra hsixth
        push Not at hsixth
        obtain ⟨-, hmax, hretries⟩ := hsixth
        have hpost : ⟨now + attemptOffset receiver 5 + (receiver 5).flush,
            webhookRequest codec call now⟩ ∈
              (deliver codec maxAttempts receiver txNow now call).posts :=
          (mem_posts_deliver hdelivered).2 ⟨5, by omega, hretries, rfl⟩
        exact absurd ((fresh_iff_lt_five htimely codec call now 5).1 (hfresh _ hpost)) (by decide)
      · intro hcondition post hpost
        obtain ⟨j, hlt, hretries, rfl⟩ := (mem_posts_deliver hdelivered).1 hpost
        apply (fresh_iff_lt_five htimely codec call now j).2
        rcases hcondition with hsome | hmax | ⟨k, hk, hends⟩
        · cases hsome
        · omega
        · by_contra hj
          exact hends (hretries k (by omega))

theorem timelyAttempts_answersAtOnce (code : ℕ) : TimelyAttempts (answersAtOnce code) := fun _ =>
  ⟨le_refl 0, le_refl 0, by rw [Attempt.seconds, answersAtOnce]; norm_num⟩

theorem deliver_fresh_iff_unavailable :
    (∀ post ∈ (deliver sampleCodec 5 (answersAtOnce 503) 0 0 (sampleCall .done)).posts,
        post.Fresh sampleCodec (sampleCall .done).webhookSecret defaultTimestampSkew) ↔
      (sampleCall .done).webhookDeliveredAt.isSome ∨ (5 : ℤ) ≤ 5 ∨
        ∃ k < 5, ¬ (answersAtOnce 503 k).Retries :=
  deliver_fresh_iff sampleCodec 5 0 0 (sampleCall .done) (timelyAttempts_answersAtOnce 503)

/-- With six attempts, a receiver that is down for six minutes gets a request that is 341 s old. -/
theorem not_fresh_sixthAttempt :
    TimelyAttempts (answersAtOnce 503) ∧
      ¬ ∀ post ∈ (deliver sampleCodec 6 (answersAtOnce 503) 0 0 (sampleCall .done)).posts,
        post.Fresh sampleCodec (sampleCall .done).webhookSecret defaultTimestampSkew := by
  refine ⟨timelyAttempts_answersAtOnce 503, fun hfresh => ?_⟩
  have hpost : ⟨0 + attemptOffset (answersAtOnce 503) 5 + (answersAtOnce 503 5).flush,
      webhookRequest sampleCodec (sampleCall .done) 0⟩ ∈
        (deliver sampleCodec 6 (answersAtOnce 503) 0 0 (sampleCall .done)).posts :=
    (mem_posts_deliver rfl).2 ⟨5, by decide, fun k _ => rfl, rfl⟩
  exact absurd ((fresh_iff_lt_five (timelyAttempts_answersAtOnce 503) sampleCodec
    (sampleCall .done) 0 5).1 (hfresh _ hpost)) (by decide)

end Freshness
end Notetaker

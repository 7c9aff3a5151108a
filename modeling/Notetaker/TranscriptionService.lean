import Notetaker.BoundedRetry
import Notetaker.WordSegments

/-!
# The transcription service

`services/transcription.py` over the Deepgram client: the size guard, and at most three requests with a
pause between any two of them. The provider is a function from the number of a request to what that
request comes to.
-/

open PythonText PythonFloat JsonText BoundedRetry MaximalRuns

namespace Notetaker.TranscriptionService

open Deepgram

def retryAttempts : ℕ := 3

def backoffS : List ℚ := [1, 4, 16]

inductive Action where
  | request
  | sleep (seconds : ℚ)
  deriving DecidableEq

/-- What the service raises: its own `AudioTooLarge`, or one of the exceptions of the client. -/
inductive Failure where
  | audioTooLarge (message : Text)
  | client (e : DeepgramError)

structure Run where
  actions : List Action
  result : Except Failure Transcript

section Service

variable (isPrintable : Char → Bool) (lim : Limits) (provider : ℕ → HttpResult)

def requestsFrom : (left attempt : ℕ) → (lastError : Text) → Run
  | 0, _, lastError => ⟨[], .error (.client (.permanent (concat ["transcription failed after ",
      natText retryAttempts, " attempts: ", lastError])))⟩
  | left + 1, attempt, _ =>
      match (Deepgram.transcribe isPrintable lim (provider attempt)).result with
      | .error (.transient message) =>
          let sleeps :=
            if attempt < retryAttempts - 1 then [.sleep (backoffS.getD attempt 0)] else []
          let rest := requestsFrom left (attempt + 1) message
          { rest with actions := .request :: (sleeps ++ rest.actions) }
      | .error e => ⟨[.request], .error (.client e)⟩
      | .ok transcript => ⟨[.request], .ok transcript⟩

def transcribeWithRetries : Run := requestsFrom isPrintable lim provider retryAttempts 0 "None"

def transcribe (audioMaxBytes sizeBytes : ℤ) : Run :=
  if audioMaxBytes < sizeBytes then
    ⟨[], .error (.audioTooLarge (concat ["audio too large: ", intText sizeBytes,
      " bytes > AUDIO_MAX_BYTES (", intText audioMaxBytes, ")"]))⟩
  else transcribeWithRetries isPrintable lim provider

end Service

/-! ## The bodies -/

/-- A result that asks for another attempt. As in the code, every status from 500 on counts as 5xx. -/
def Transient : HttpResult → Prop
  | .timeout | .transportError => True
  | .unreadableAudio => False
  | .response status _ => status = 429 ∨ 500 ≤ status

section Bodies

variable (isPrintable : Char → Bool) (lim : Limits)

def TimesConvert (results : List (Text × Json)) : Prop :=
  match field "utterances" results with
  | .arr utterances => ∀ entry ∈ utterances.filterMap utteranceEntry,
      (toFloat entry.start).isSome ∧ (toFloat entry.stop).isSome
  | _ => ∀ run ∈ wordRuns isPrintable (rawWords (alternativesOf results)), RunConverts run

/-- A body with results whose entries, if there are any, are not all ill-typed. -/
def HoldsTranscript (body : Text) : Prop :=
  ∃ payload results, loads lim body = .ok (.obj payload) ∧
    field "results" payload = .obj results ∧ TimesConvert isPrintable results ∧
    (rawEntries results = [] ∨ typedEntries isPrintable results ≠ [])

/-- A body that makes the decoder or a conversion raise. -/
def BreaksParser (body : Text) : Prop :=
  loads lim body = .error .recursion ∨
    ∃ payload results, loads lim body = .ok (.obj payload) ∧
      field "results" payload = .obj results ∧ ¬ TimesConvert isPrintable results

end Bodies

section Parsing

variable {isPrintable : Char → Bool} {lim : Limits}

theorem isSome_segmentsOf_iff (results : List (Text × Json)) :
    (segmentsOf isPrintable results).isSome ↔ TimesConvert isPrintable results := by
  unfold segmentsOf TimesConvert
  cases field "utterances" results with
  | arr utterances =>
      dsimp only
      rw [mapM_isSome_iff]
      refine forall₂_congr fun entry _ => ?_
      unfold Entry.segment
      cases toFloat entry.start <;> cases toFloat entry.stop <;> simp
  | _ =>
      dsimp only
      rw [mapM_isSome_iff]
      exact forall₂_congr fun run hrun =>
        isSome_runSegment_iff (ne_nil_of_mem_runs Entry.speaker hrun)

theorem parseResponse_cases {payload results : List (Text × Json)}
    (hresults : field "results" payload = .obj results) :
    (TimesConvert isPrintable results ∧
        (rawEntries results = [] ∨ typedEntries isPrintable results ≠ []) ∧
        ∃ transcript, (parseResponse isPrintable payload).result = .ok transcript) ∨
      (¬ TimesConvert isPrintable results ∧
        (parseResponse isPrintable payload).result = .error .overflow) ∨
      (TimesConvert isPrintable results ∧
        ¬ (rawEntries results = [] ∨ typedEntries isPrintable results ≠ []) ∧
        ∃ message, (parseResponse isPrintable payload).result = .error (.permanent message)) := by
  obtain ⟨message, hresult⟩ := result_parseResponse isPrintable hresults
  rw [hresult]
  by_cases htimes : TimesConvert isPrintable results
  · obtain ⟨segments, hsegments⟩ := Option.isSome_iff_exists.1
      ((isSome_segmentsOf_iff results).2 htimes)
    have hnil : segments = [] ↔ typedEntries isPrintable results = [] := by
      rw [← segmentsOf_eq_nil_iff, hsegments, Option.some.injEq]
    have hempty : (segments = [] ∧ (rawEntries results).length ≠ 0) ↔
        ¬ (rawEntries results = [] ∨ typedEntries isPrintable results ≠ []) := by
      rw [hnil, ne_eq, List.length_eq_zero_iff]
      tauto
    rw [hsegments, concluded_some]
    by_cases hrefused : segments = [] ∧ (rawEntries results).length ≠ 0
    · rw [if_pos hrefused]
      exact .inr (.inr ⟨htimes, hempty.1 hrefused, message, rfl⟩)
    · rw [if_neg hrefused]
      exact .inl ⟨htimes, not_not.1 (mt hempty.2 hrefused), segments, rfl⟩
  · have hnone : segmentsOf isPrintable results = none := by
      rw [← Option.not_isSome_iff_eq_none, isSome_segmentsOf_iff]
      exact htimes
    rw [hnone]
    exact .inr (.inl ⟨htimes, rfl⟩)

variable (isPrintable lim) in
theorem parseBody_cases (body : Text) :
    (HoldsTranscript isPrintable lim body ∧ ¬ BreaksParser isPrintable lim body ∧
        ∃ transcript, (parseBody isPrintable lim body).result = .ok transcript) ∨
      (BreaksParser isPrintable lim body ∧
        ((parseBody isPrintable lim body).result = .error .overflow ∨
          (parseBody isPrintable lim body).result = .error .recursion)) ∨
      (¬ HoldsTranscript isPrintable lim body ∧ ¬ BreaksParser isPrintable lim body ∧
        ∃ message, (parseBody isPrintable lim body).result = .error (.permanent message)) := by
  by_cases hobject : ∃ payload results, loads lim body = .ok (.obj payload) ∧
      field "results" payload = .obj results
  · obtain ⟨payload, results, hload, hresults⟩ := hobject
    have hparse : parseBody isPrintable lim body = parseResponse isPrintable payload := by
      rw [parseBody, hload]
    have hunique : ∀ {payload' results'}, loads lim body = .ok (.obj payload') →
        field "results" payload' = .obj results' → results' = results := by
      intro payload' results' hload' hresults'
      rw [hload] at hload'
      cases hload'
      rw [hresults] at hresults'
      exact (Json.obj.inj hresults').symm
    have hbreaks : BreaksParser isPrintable lim body ↔ ¬ TimesConvert isPrintable results := by
      constructor
      · rintro (hrecursion | ⟨payload', results', hload', hresults', htimes⟩)
        · rw [hload] at hrecursion
          cases hrecursion
        · rwa [hunique hload' hresults'] at htimes
      · exact fun htimes => .inr ⟨payload, results, hload, hresults, htimes⟩
    have hholds : HoldsTranscript isPrintable lim body ↔ TimesConvert isPrintable results ∧
        (rawEntries results = [] ∨ typedEntries isPrintable results ≠ []) := by
      constructor
      · rintro ⟨payload', results', hload', hresults', h⟩
        rwa [hunique hload' hresults'] at h
      · exact fun h => ⟨payload, results, hload, hresults, h⟩
    rw [hparse, hbreaks, hholds]
    rcases parseResponse_cases hresults with
      ⟨htimes, hentries, hok⟩ | ⟨htimes, hoverflow⟩ | ⟨htimes, hentries, hpermanent⟩
    · exact .inl ⟨⟨htimes, hentries⟩, not_not.2 htimes, hok⟩
    · exact .inr (.inl ⟨htimes, .inl hoverflow⟩)
    · exact .inr (.inr ⟨fun h => hentries h.2, not_not.2 htimes, hpermanent⟩)
  · have hholds : ¬ HoldsTranscript isPrintable lim body := by
      rintro ⟨payload, results, hload, hresults, -⟩
      exact hobject ⟨payload, results, hload, hresults⟩
    have hbreaks : BreaksParser isPrintable lim body ↔ loads lim body = .error .recursion := by
      constructor
      · rintro (hrecursion | ⟨payload, results, hload, hresults, -⟩)
        · exact hrecursion
        · exact absurd ⟨payload, results, hload, hresults⟩ hobject
      · exact .inl
    rw [hbreaks]
    unfold parseBody
    cases hload : loads lim body with
    | error e =>
        cases e with
        | recursion => exact .inr (.inl ⟨rfl, .inr rfl⟩)
        | _ => exact .inr (.inr ⟨hholds, by simp, _, rfl⟩)
    | ok value =>
        refine .inr (.inr ⟨hholds, by simp, ?_⟩)
        cases value with
        | obj payload =>
            have hfield : ∀ results, field "results" payload ≠ .obj results :=
              fun results hresults => hobject ⟨payload, results, hload, hresults⟩
            dsimp only
            unfold parseResponse
            split
            · exact absurd ‹_› (hfield _)
            · exact ⟨_, rfl⟩
        | _ => exact ⟨_, rfl⟩

end Parsing

/-! ## The requests -/

/-- What the runs of the service are documented to be, with `made` requests. -/
structure DocumentedRun (provider : ℕ → HttpResult) (run : Run) (made : ℕ) : Prop where
  stops : StopsAfter (fun k => Transient (provider k)) 0 retryAttempts made
  actions : run.actions = trace (fun _ => .request) (fun k => .sleep (backoffS.getD k 0)) 0 made
  returned : ∀ transcript, run.result = .ok transcript →
    ∃ k body, made = k + 1 ∧ provider k = .response 200 body
  raised : (∀ transcript, run.result ≠ .ok transcript) →
    ∃ message, run.result = .error (.client (.permanent message))

section Requests

variable (isPrintable : Char → Bool) (lim : Limits) (provider : ℕ → HttpResult)

/-- No request above the size limit, and a documented run below it. -/
def TranscribesAsDocumented (audioMaxBytes sizeBytes : ℤ) : Prop :=
  let run := transcribe isPrintable lim provider audioMaxBytes sizeBytes
  if audioMaxBytes < sizeBytes then
    run.actions = [] ∧ ∃ message, run.result = .error (.audioTooLarge message)
  else ∃ made, DocumentedRun provider run made

/-- A response that decides the run below 300 either is a 200 that the parser takes or refuses, or is
refused. -/
def SoundResult : HttpResult → Prop
  | .response status body => status < 300 →
      ¬ BreaksParser isPrintable lim body ∧
        (status = 200 ∨ ¬ HoldsTranscript isPrintable lim body)
  | _ => True

variable {isPrintable lim provider}

theorem transcribe_response (status : ℕ) (body : Text) :
    Deepgram.transcribe isPrintable lim (.response status body) =
      if status = 429 ∨ 500 ≤ status then .read (.error (.transient (statusDetail status)))
      else if 300 ≤ status then
        permanent (match statusHint status with
          | some hint => concat [statusDetail status, " (", hint, ")"]
          | none => statusDetail status)
      else parseBody isPrintable lim body := rfl

variable (isPrintable lim) in
theorem result_of_transient {result : HttpResult} (h : Transient result) :
    ∃ message, (Deepgram.transcribe isPrintable lim result).result =
      .error (.transient message) := by
  cases result with
  | timeout => exact ⟨_, rfl⟩
  | transportError => exact ⟨_, rfl⟩
  | unreadableAudio => cases h
  | response status body =>
      have hstatus : status = 429 ∨ 500 ≤ status := h
      rw [transcribe_response, if_pos hstatus]
      exact ⟨_, rfl⟩

variable (isPrintable lim) in
theorem result_ne_transient {result : HttpResult} (h : ¬ Transient result) (message : Text) :
    (Deepgram.transcribe isPrintable lim result).result ≠ .error (.transient message) := by
  cases result with
  | timeout => exact absurd trivial h
  | transportError => exact absurd trivial h
  | unreadableAudio => exact nofun
  | response status body =>
      have hstatus : ¬ (status = 429 ∨ 500 ≤ status) := h
      rw [transcribe_response, if_neg hstatus]
      split_ifs
      · exact nofun
      · rcases parseBody_cases isPrintable lim body with ⟨-, -, t, h⟩ | ⟨-, h | h⟩ | ⟨-, -, m, h⟩ <;>
          rw [h] <;> exact nofun

def EndsAsDocumented (result : HttpResult) (ended : Except DeepgramError Transcript) : Prop :=
  (∀ transcript, ended = .ok transcript → ∃ body, result = .response 200 body) ∧
    ((∀ transcript, ended ≠ .ok transcript) → ∃ message, ended = .error (.permanent message))

theorem endsAsDocumented_permanent (result : HttpResult) (message : Text) :
    EndsAsDocumented result (.error (.permanent message)) :=
  ⟨nofun, fun _ => ⟨message, rfl⟩⟩

theorem endsAsDocumented_iff {result : HttpResult} (h : ¬ Transient result) :
    EndsAsDocumented result (Deepgram.transcribe isPrintable lim result).result ↔
      SoundResult isPrintable lim result := by
  cases result with
  | timeout => exact absurd trivial h
  | transportError => exact absurd trivial h
  | unreadableAudio => exact iff_of_true (endsAsDocumented_permanent _ _) trivial
  | response status body =>
      have hfinal : ¬ (status = 429 ∨ 500 ≤ status) := h
      rw [transcribe_response, if_neg hfinal]
      by_cases hstatus : 300 ≤ status
      · rw [if_pos hstatus]
        exact iff_of_true (endsAsDocumented_permanent _ _)
          fun hlt => absurd hstatus (Nat.not_le.2 hlt)
      · rw [if_neg hstatus]
        have hsound : SoundResult isPrintable lim (.response status body) ↔
            ¬ BreaksParser isPrintable lim body ∧
              (status = 200 ∨ ¬ HoldsTranscript isPrintable lim body) :=
          ⟨fun hsound => hsound (Nat.not_le.1 hstatus), fun hsound _ => hsound⟩
        rw [hsound]
        rcases parseBody_cases isPrintable lim body with
          ⟨hholds, hbreaks, transcript, hok⟩ | ⟨hbreaks, herror⟩ | ⟨hholds, hbreaks, message, hmessage⟩
        · rw [hok]
          constructor
          · rintro ⟨hreturned, -⟩
            obtain ⟨body', hbody⟩ := hreturned transcript rfl
            cases hbody
            exact ⟨hbreaks, .inl rfl⟩
          · rintro ⟨-, rfl | hnot⟩
            · exact ⟨fun _ _ => ⟨body, rfl⟩, fun hnone => absurd rfl (hnone transcript)⟩
            · exact absurd hholds hnot
        · refine iff_of_false ?_ fun hsound => hsound.1 hbreaks
          rintro ⟨-, hraised⟩
          rcases herror with herror | herror
          all_goals
            rw [herror] at hraised
            obtain ⟨message, hmessage⟩ := hraised nofun
            cases hmessage
        · rw [hmessage]
          exact iff_of_true (endsAsDocumented_permanent _ _) ⟨hbreaks, .inr hholds⟩

theorem pause_eq {attempt left : ℕ} (h : attempt + (left + 1) = retryAttempts) :
    (if attempt < retryAttempts - 1 then [Action.sleep (backoffS.getD attempt 0)] else []) =
      if left = 0 then [] else [Action.sleep (backoffS.getD attempt 0)] := by
  by_cases hleft : left = 0
  · rw [if_pos hleft, if_neg (by omega)]
  · rw [if_neg hleft, if_pos (by omega)]

variable (isPrintable lim provider) in
theorem requestsFrom_spec {left attempt : ℕ} (h : attempt + left = retryAttempts)
    (lastError : Text) :
    ∃ made run, requestsFrom isPrintable lim provider left attempt lastError = run ∧
      StopsAfter (fun k => Transient (provider k)) attempt left made ∧
      run.actions = trace (fun _ => .request) (fun k => .sleep (backoffS.getD k 0)) attempt made ∧
      ((∃ k, made = k + 1 ∧ ¬ Transient (provider (attempt + k)) ∧
          run.result = (Deepgram.transcribe isPrintable lim (provider (attempt + k))).result.mapError
            .client) ∨
        (∀ k < made, Transient (provider (attempt + k))) ∧
          ∃ message, run.result = .error (.client (.permanent message))) := by
  induction left generalizing attempt lastError with
  | zero =>
      refine ⟨0, _, rfl, stopsAfter_zero, rfl, .inr ⟨fun k hk => by omega, _, rfl⟩⟩
  | succ left ih =>
      rw [requestsFrom]
      by_cases htransient : Transient (provider attempt)
      · have hnext : attempt + 1 + left = retryAttempts := by omega
        have hshift : ∀ k, attempt + 1 + k = attempt + (k + 1) := fun k => by omega
        obtain ⟨message, hresult⟩ := result_of_transient isPrintable lim htransient
        obtain ⟨made, rest, hrest, hstops, hactions, hended⟩ := ih hnext message
        have hnone : left = 0 ↔ made = 0 := by
          constructor
          · rintro rfl
            have hle := hstops.le
            omega
          · rintro rfl
            by_contra hleft
            obtain ⟨more, rfl⟩ := Nat.exists_eq_succ_of_ne_zero hleft
            exact absurd hstops.pos (Nat.lt_irrefl 0)
        rw [hresult]
        dsimp only
        rw [hrest, pause_eq h]
        refine ⟨made + 1, _, rfl, hstops.retry htransient, ?_, ?_⟩
        · rw [trace_succ, ← hactions]
          simp only [hnone]
        · rcases hended with ⟨k, rfl, hfinal, hrun⟩ | ⟨hall, hrun⟩
          · refine .inl ⟨k + 1, rfl, ?_, ?_⟩
            · rw [← hshift]
              exact hfinal
            · rw [← hshift]
              exact hrun
          · refine .inr ⟨?_, hrun⟩
            intro k hk
            cases k with
            | zero => exact htransient
            | succ k =>
                rw [← hshift]
                exact hall k (by omega)
      · have hne := result_ne_transient isPrintable lim htransient
        refine ⟨1, _, rfl, stopsAfter_final htransient, ?_, .inl ⟨0, rfl, htransient, ?_⟩⟩
        all_goals
          rw [Nat.add_zero] at *
          cases hresult : (Deepgram.transcribe isPrintable lim (provider attempt)).result with
          | ok transcript => rfl
          | error e =>
              cases e with
              | transient message => exact absurd hresult (hne message)
              | _ => rfl

end Requests

section Documented

variable (isPrintable : Char → Bool) (lim : Limits) (provider : ℕ → HttpResult)

/-- The service does what is documented exactly when the result that decides the run is sound. -/
theorem transcribesAsDocumented_iff (audioMaxBytes sizeBytes : ℤ) :
    TranscribesAsDocumented isPrintable lim provider audioMaxBytes sizeBytes ↔
      (sizeBytes ≤ audioMaxBytes → ∀ k < retryAttempts, (∀ j < k, Transient (provider j)) →
        ¬ Transient (provider k) → SoundResult isPrintable lim (provider k)) := by
  unfold TranscribesAsDocumented transcribe
  by_cases hsize : audioMaxBytes < sizeBytes
  · rw [if_pos hsize, if_pos hsize]
    exact iff_of_true ⟨rfl, _, rfl⟩ fun hle => absurd hle (Int.not_le.2 hsize)
  · rw [if_neg hsize, if_neg hsize]
    obtain ⟨made, run, hrun, hstops, hactions, hended⟩ :=
      requestsFrom_spec isPrintable lim provider (Nat.zero_add retryAttempts) "None".toList
    have hretries : transcribeWithRetries isPrintable lim provider = run := hrun
    rw [hretries]
    rcases hended with ⟨last, rfl, hfinal, hresult⟩ | ⟨hall, message, hresult⟩
    · rw [Nat.zero_add] at hfinal hresult
      have hdecides : (sizeBytes ≤ audioMaxBytes → ∀ k < retryAttempts,
          (∀ j < k, Transient (provider j)) → ¬ Transient (provider k) →
            SoundResult isPrintable lim (provider k)) ↔
          SoundResult isPrintable lim (provider last) := by
        have hbefore : ∀ j < last, Transient (provider j) := by
          intro j hj
          have hretried := hstops.retried j (by omega)
          rwa [Nat.zero_add] at hretried
        constructor
        · intro hsound
          exact hsound (Int.not_lt.1 hsize) last hstops.le hbefore hfinal
        · intro hsound _ k _ hk hkfinal
          rcases Nat.lt_trichotomy k last with hlt | rfl | hgt
          · exact absurd (hbefore k hlt) hkfinal
          · exact hsound
          · exact absurd (hk last hgt) hfinal
      rw [hdecides, ← endsAsDocumented_iff hfinal]
      cases hclient : (Deepgram.transcribe isPrintable lim (provider last)).result with
      | ok transcript =>
          rw [hclient] at hresult
          constructor
          · rintro ⟨made, hmade, -, hreturned, -⟩
            obtain ⟨k, body, hk, hbody⟩ := hreturned transcript hresult
            obtain rfl : k = last := by
              have hunique := hmade.unique hstops
              omega
            exact ⟨fun _ _ => ⟨body, hbody⟩, fun hnone => absurd rfl (hnone transcript)⟩
          · rintro ⟨hreturned, -⟩
            obtain ⟨body, hbody⟩ := hreturned transcript rfl
            exact ⟨last + 1, hstops, hactions, fun _ _ => ⟨last, body, rfl, hbody⟩,
              fun hnone => absurd hresult (hnone transcript)⟩
      | error e =>
          rw [hclient] at hresult
          have hnone : ∀ transcript, run.result ≠ .ok transcript := by
            intro transcript htranscript
            rw [htranscript] at hresult
            cases hresult
          constructor
          · rintro ⟨made, -, -, -, hraised⟩
            refine ⟨nofun, fun _ => ?_⟩
            obtain ⟨message, hmessage⟩ := hraised hnone
            rw [hresult] at hmessage
            cases hmessage
            exact ⟨message, rfl⟩
          · rintro ⟨-, hraised⟩
            obtain ⟨message, hmessage⟩ := hraised nofun
            cases hmessage
            exact ⟨last + 1, hstops, hactions,
              fun transcript htranscript => absurd htranscript (hnone transcript),
              fun _ => ⟨message, hresult⟩⟩
    · -- Every request came to a transient error.
      refine iff_of_true ⟨made, hstops, hactions, ?_, fun _ => ⟨message, hresult⟩⟩ ?_
      · intro transcript htranscript
        rw [htranscript] at hresult
        cases hresult
      · intro _ k hk hbefore hfinal
        have hmade : made = retryAttempts := by
          by_contra hne
          have hle := hstops.le
          obtain ⟨j, hj, hjfinal⟩ := hstops.final (by omega)
          exact hjfinal (hall j (by omega))
        have htransient := hall k (by omega)
        rw [Nat.zero_add] at htransient
        exact absurd htransient hfinal

end Documented

/-- A 202 whose body has no results is refused, one with results is taken. -/
def acceptedBody : Text := "\x7b\"results\": \x7b\"utterances\": []\x7d\x7d"

theorem not_transcribesAsDocumented_accepted :
    ¬ TranscribesAsDocumented (fun _ => true) defaultLimits (fun _ => .response 202 acceptedBody)
      2000000000 1000 := by
  rw [transcribesAsDocumented_iff]
  intro h
  have hfinal : ¬ Transient (.response 202 acceptedBody) := by
    rintro (h | h) <;> omega
  have hload : loads defaultLimits acceptedBody =
      .ok (.obj [("results", .obj [("utterances", .arr [])])]) := rfl
  have hholds : HoldsTranscript (fun _ => true) defaultLimits acceptedBody := by
    refine ⟨_, _, hload, rfl, ?_, .inl rfl⟩
    intro entry hentry
    cases hentry
  obtain ⟨-, hstatus | hnot⟩ := h (by decide) 0 (by decide) (fun j hj => absurd hj (Nat.not_lt_zero j))
    hfinal (by decide)
  · cases hstatus
  · exact hnot hholds

end Notetaker.TranscriptionService

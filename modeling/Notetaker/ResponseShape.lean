import Notetaker.TranscriptParsing

/-!
# What a response decides without its texts

`eraseStrings` leaves out the contents of the string values of a JSON value. The kind of failure of a
Deepgram response and its message are the same for every two bodies that agree up to that: the parser
looks at types, at numbers and at keys, and the texts only go into the transcript.
-/

open PythonText PythonFloat JsonText

namespace JsonText.Json

mutual

/-- The value with the contents of its strings left out; the keys stay. -/
def eraseStrings : Json → Json
  | str _ => .str []
  | arr xs => .arr (eraseItems xs)
  | obj members => .obj (eraseMembers members)
  | v => v

def eraseItems : List Json → List Json
  | [] => []
  | x :: xs => eraseStrings x :: eraseItems xs

def eraseMembers : List (Text × Json) → List (Text × Json)
  | [] => []
  | (key, v) :: members => (key, eraseStrings v) :: eraseMembers members

end

theorem eraseItems_eq (xs : List Json) : eraseItems xs = xs.map eraseStrings := by
  induction xs with
  | nil => rfl
  | cons x xs ih => rw [eraseItems, ih, List.map_cons]

end JsonText.Json

/-- The bodies are the same JSON up to the contents of string values, or fail to decode alike. -/
def JsonText.SameUpToStrings (lim : Limits) (body body' : Text) : Prop :=
  (loads lim body).map Json.eraseStrings = (loads lim body').map Json.eraseStrings

namespace Notetaker.Deepgram

/-! ## What the parser sees of an erased value -/

theorem field_eraseMembers (key : Text) (members : List (Text × Json)) :
    field key (Json.eraseMembers members) = (field key members).eraseStrings := by
  unfold field
  induction members with
  | nil => rfl
  | cons member members ih =>
      obtain ⟨k, v⟩ := member
      rw [Json.eraseMembers]
      by_cases hk : key = k
      · subst hk
        rw [List.lookup_cons_self, List.lookup_cons_self]
        rfl
      · have hne : (key == k) = false := beq_false_of_ne hk
        rw [List.lookup_cons, hne, List.lookup_cons, hne]
        exact ih

theorem speakerLabel_eraseStrings (v : Json) : speakerLabel v.eraseStrings = speakerLabel v := by
  cases v <;> rfl

theorem isNumber_eraseStrings (v : Json) : isNumber v.eraseStrings = isNumber v := by
  cases v <;> rfl

theorem isSome_utteranceEntry_eraseStrings (v : Json) :
    (utteranceEntry v.eraseStrings).isSome = (utteranceEntry v).isSome := by
  cases v with
  | obj members =>
      rw [Json.eraseStrings, utteranceEntry, utteranceEntry, field_eraseMembers, field_eraseMembers,
        field_eraseMembers, field_eraseMembers, speakerLabel_eraseStrings, isNumber_eraseStrings,
        isNumber_eraseStrings]
      cases speakerLabel (field "speaker" members) with
      | none => rfl
      | some speaker =>
          cases field "transcript" members with
          | str text =>
              dsimp only [Json.eraseStrings]
              split_ifs <;> rfl
          | _ => rfl
  | _ => rfl

theorem isSome_wordEntry_eraseStrings (isPrintable : Char → Bool) (v : Json) :
    (wordEntry isPrintable v.eraseStrings).isSome = (wordEntry isPrintable v).isSome := by
  cases v with
  | obj members =>
      rw [Json.eraseStrings, wordEntry, wordEntry, field_eraseMembers, field_eraseMembers,
        field_eraseMembers, speakerLabel_eraseStrings, isNumber_eraseStrings, isNumber_eraseStrings]
      cases speakerLabel (field "speaker" members) with
      | none => rfl
      | some speaker =>
          dsimp only
          split_ifs <;> rfl
  | _ => rfl

theorem asDicts_eraseStrings (v : Json) :
    asDicts v.eraseStrings = (asDicts v).map Json.eraseMembers := by
  cases v with
  | arr items =>
      change asDicts (.arr (Json.eraseItems items)) = _
      induction items with
      | nil => rfl
      | cons item items ih =>
          cases item with
          | obj members => exact congrArg (Json.eraseMembers members :: ·) ih
          | _ => exact ih
  | _ => rfl

theorem rawWords_map_eraseMembers (alternatives : List (List (Text × Json))) :
    rawWords (alternatives.map Json.eraseMembers) =
      (rawWords alternatives).map Json.eraseStrings := by
  unfold rawWords
  rw [List.flatMap_map, List.map_flatMap]
  apply List.flatMap_congr
  intro alternative _
  rw [field_eraseMembers]
  cases field "words" alternative with
  | arr words => exact Json.eraseItems_eq words
  | _ => rfl

theorem alternativesOf_eraseMembers (results : List (Text × Json)) :
    alternativesOf (Json.eraseMembers results) =
      (alternativesOf results).map Json.eraseMembers := by
  unfold alternativesOf
  rw [field_eraseMembers, asDicts_eraseStrings, List.flatMap_map, List.map_flatMap]
  apply List.flatMap_congr
  intro channel _
  rw [field_eraseMembers, asDicts_eraseStrings]

theorem rawEntries_eraseMembers (results : List (Text × Json)) :
    rawEntries (Json.eraseMembers results) = (rawEntries results).map Json.eraseStrings := by
  unfold rawEntries
  rw [field_eraseMembers]
  cases field "utterances" results with
  | arr utterances => exact Json.eraseItems_eq utterances
  | _ =>
      change rawWords (alternativesOf (Json.eraseMembers results)) = _
      rw [alternativesOf_eraseMembers]
      exact rawWords_map_eraseMembers _

theorem filterMap_eraseStrings_eq_nil_iff {parse : Json → Option Entry}
    (h : ∀ v : Json, (parse v.eraseStrings).isSome = (parse v).isSome) (entries : List Json) :
    (entries.map Json.eraseStrings).filterMap parse = [] ↔ entries.filterMap parse = [] := by
  rw [List.filterMap_eq_nil_iff, List.filterMap_eq_nil_iff, List.forall_mem_map]
  refine forall₂_congr fun entry _ => ?_
  rw [← Option.not_isSome_iff_eq_none, h, Option.not_isSome_iff_eq_none]

theorem typedEntries_eraseMembers_eq_nil_iff (isPrintable : Char → Bool)
    (results : List (Text × Json)) :
    typedEntries isPrintable (Json.eraseMembers results) = [] ↔
      typedEntries isPrintable results = [] := by
  have hraw := rawEntries_eraseMembers results
  unfold rawEntries at hraw
  unfold typedEntries
  rw [field_eraseMembers] at hraw ⊢
  cases field "utterances" results with
  | arr utterances =>
      change (Json.eraseItems utterances).filterMap utteranceEntry = [] ↔ _
      rw [Json.eraseItems_eq]
      exact filterMap_eraseStrings_eq_nil_iff isSome_utteranceEntry_eraseStrings utterances
  | _ =>
      change (rawWords (alternativesOf (Json.eraseMembers results))).filterMap _ = [] ↔ _
      rw [alternativesOf_eraseMembers, rawWords_map_eraseMembers]
      exact filterMap_eraseStrings_eq_nil_iff (isSome_wordEntry_eraseStrings isPrintable) _

/-! ## The verdict on a response -/

/-- What the retry policy sees of the end of a request. -/
inductive Verdict where
  | retry (message : Text)
  | refused (message : Text)
  /-- A transcript, or an exception that nobody catches. -/
  | silent
  deriving DecidableEq

def verdict : Except DeepgramError Transcript → Verdict
  | .error (.transient message) => .retry message
  | .error (.permanent message) => .refused message
  | _ => .silent

def unparsedMessage (results : List (Text × Json)) : Text :=
  match field "utterances" results with
  | .arr _ => "deepgram response has utterances but none parsed as segments"
  | _ => "deepgram response has words but none parsed as segments"

theorem unparsedMessage_eraseMembers (results : List (Text × Json)) :
    unparsedMessage (Json.eraseMembers results) = unparsedMessage results := by
  unfold unparsedMessage
  rw [field_eraseMembers]
  cases field "utterances" results <;> rfl

theorem verdict_concluded (message : Text) (total : ℕ) (segments : Option Transcript) :
    verdict (concluded message total segments) =
      if segments = some [] ∧ total ≠ 0 then .refused message else .silent := by
  cases segments with
  | none => rfl
  | some found =>
      rw [concluded_some]
      by_cases hnothing : found = [] ∧ total ≠ 0
      · rw [if_pos hnothing, if_pos ⟨congrArg some hnothing.1, hnothing.2⟩]
        rfl
      · rw [if_neg hnothing, if_neg fun h => hnothing ⟨Option.some.inj h.1, h.2⟩]
        rfl

section Response

variable (isPrintable : Char → Bool)

def resultsVerdict (results : List (Text × Json)) : Verdict :=
  if typedEntries isPrintable results = [] ∧ (rawEntries results).length ≠ 0 then
    .refused (unparsedMessage results)
  else .silent

theorem resultsVerdict_eraseMembers (results : List (Text × Json)) :
    resultsVerdict isPrintable (Json.eraseMembers results) = resultsVerdict isPrintable results := by
  unfold resultsVerdict
  rw [unparsedMessage_eraseMembers]
  apply if_congr _ rfl rfl
  rw [typedEntries_eraseMembers_eq_nil_iff, rawEntries_eraseMembers, List.length_map]

theorem verdict_parseResponse {payload results : List (Text × Json)}
    (h : field "results" payload = .obj results) :
    verdict (parseResponse isPrintable payload).result = resultsVerdict isPrintable results := by
  have hresult : (parseResponse isPrintable payload).result =
      concluded (unparsedMessage results) (rawEntries results).length
        (segmentsOf isPrintable results) := by
    unfold parseResponse rawEntries segmentsOf unparsedMessage
    rw [h]
    dsimp only
    cases field "utterances" results with
    | arr utterances => exact result_parseUtterances utterances
    | _ => exact result_parseWords isPrintable (alternativesOf results)
  rw [hresult, verdict_concluded, resultsVerdict]
  apply if_congr _ rfl rfl
  rw [segmentsOf_eq_nil_iff]

theorem verdict_parseResponse_eraseMembers (payload : List (Text × Json)) :
    verdict (parseResponse isPrintable (Json.eraseMembers payload)).result =
      verdict (parseResponse isPrintable payload).result := by
  cases hresults : field "results" payload with
  | obj results =>
      have herased : field "results" (Json.eraseMembers payload) =
          .obj (Json.eraseMembers results) := by
        rw [field_eraseMembers, hresults, Json.eraseStrings]
      rw [verdict_parseResponse isPrintable hresults, verdict_parseResponse isPrintable herased]
      exact resultsVerdict_eraseMembers isPrintable results
  | _ =>
      unfold parseResponse
      rw [field_eraseMembers, hresults]
      rfl

def decodedVerdict : Except JsonError Json → Verdict
  | .error .recursion => .silent
  | .error _ => .refused "deepgram returned a non-JSON body"
  | .ok (.obj payload) => verdict (parseResponse isPrintable payload).result
  | .ok _ => .refused "deepgram response shape unexpected"

theorem verdict_parseBody (lim : Limits) (body : Text) :
    verdict (parseBody isPrintable lim body).result = decodedVerdict isPrintable (loads lim body) := by
  unfold parseBody
  cases loads lim body with
  | error e => cases e <;> rfl
  | ok v => cases v <;> rfl

theorem decodedVerdict_eraseStrings (decoded : Except JsonError Json) :
    decodedVerdict isPrintable (decoded.map Json.eraseStrings) =
      decodedVerdict isPrintable decoded := by
  cases decoded with
  | error e => rfl
  | ok v =>
      cases v with
      | obj payload => exact verdict_parseResponse_eraseMembers isPrintable payload
      | _ => rfl

/-- Bodies that differ in the contents of their strings only get the same verdict. -/
theorem verdict_transcribe_congr {lim : Limits} {body body' : Text}
    (h : SameUpToStrings lim body body') (status : ℕ) :
    verdict (transcribe isPrintable lim (.response status body)).result =
      verdict (transcribe isPrintable lim (.response status body')).result := by
  have hbody : verdict (parseBody isPrintable lim body).result =
      verdict (parseBody isPrintable lim body').result := by
    rw [verdict_parseBody, verdict_parseBody, ← decodedVerdict_eraseStrings, h,
      decodedVerdict_eraseStrings]
  unfold transcribe
  dsimp only
  split_ifs
  · rfl
  · rfl
  · exact hbody

end Response

end Notetaker.Deepgram

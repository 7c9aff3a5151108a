import Mathlib.Data.List.Forall2
import Notetaker.Deepgram
import Notetaker.MaximalRuns

/-!
# What becomes of a Deepgram response

The parser as a map over the well-typed entries: the utterances one by one, the words run by run. From
this follow the exact conditions under which a body cannot strand a call, an empty transcript means
silence, and the segments are those of the utterances.
-/

open PythonText PythonFloat JsonText MaximalRuns

namespace Notetaker.Deepgram

/-! ## Partial maps -/

section MapM

variable {α β : Type} {f : α → Option β} {xs : List α}

theorem exists_mapM_forall_iff {P : β → Prop} :
    (∃ ys, xs.mapM f = some ys ∧ ∀ y ∈ ys, P y) ↔ ∀ x ∈ xs, ∃ y, f x = some y ∧ P y := by
  induction xs with
  | nil => simp
  | cons x xs ih =>
      rw [List.forall_mem_cons, ← ih, List.mapM_cons]
      constructor
      · rintro ⟨ys, hys, hP⟩
        obtain ⟨y, hy, hys⟩ := Option.bind_eq_some_iff.1 hys
        obtain ⟨zs, hzs, hys⟩ := Option.bind_eq_some_iff.1 hys
        cases hys
        exact ⟨⟨y, hy, hP y (by simp)⟩, zs, hzs, fun z hz => hP z (List.mem_cons_of_mem y hz)⟩
      · rintro ⟨⟨y, hy, hPy⟩, zs, hzs, hP⟩
        exact ⟨y :: zs, by simp [hy, hzs], List.forall_mem_cons.2 ⟨hPy, hP⟩⟩

theorem mapM_isSome_iff : (xs.mapM f).isSome ↔ ∀ x ∈ xs, (f x).isSome := by
  have h : (∃ ys, xs.mapM f = some ys ∧ ∀ y ∈ ys, True) ↔ ∀ x ∈ xs, ∃ y, f x = some y ∧ True :=
    exists_mapM_forall_iff
  simpa [Option.isSome_iff_exists] using h

theorem length_mapM {ys : List β} (h : xs.mapM f = some ys) : ys.length = xs.length := by
  induction xs generalizing ys with
  | nil =>
      cases h
      rfl
  | cons x xs ih =>
      rw [List.mapM_cons] at h
      obtain ⟨y, -, h⟩ := Option.bind_eq_some_iff.1 h
      obtain ⟨zs, hzs, h⟩ := Option.bind_eq_some_iff.1 h
      cases h
      rw [List.length_cons, List.length_cons, ih hzs]

theorem mapM_reverse : xs.reverse.mapM f = (xs.mapM f).map List.reverse := by
  induction xs with
  | nil => rfl
  | cons x xs ih =>
      rw [List.reverse_cons, List.mapM_append, ih, List.mapM_cons]
      cases hx : f x <;> cases hxs : xs.mapM f <;> simp [hx, hxs]

theorem length_filterMap_add_countP (xs : List α) (f : α → Option β) :
    (xs.filterMap f).length + xs.countP (fun x => (f x).isNone) = xs.length := by
  induction xs with
  | nil => rfl
  | cons x xs ih =>
      cases hx : f x with
      | none =>
          rw [List.filterMap_cons_none hx, List.countP_cons_of_pos (by simp [hx]), List.length_cons]
          omega
      | some y =>
          rw [List.filterMap_cons_some hx, List.countP_cons_of_neg (by simp [hx]), List.length_cons,
            List.length_cons]
          omega

theorem length_filterMap_le_of_admits {γ : Type} {h : α → Option γ}
    (hadmits : ∀ x, f x = none → h x = none) :
    (xs.filterMap h).length ≤ (xs.filterMap f).length := by
  induction xs with
  | nil => exact Nat.le_refl 0
  | cons x xs ih =>
      cases hf : f x with
      | none => rwa [List.filterMap_cons_none hf, List.filterMap_cons_none (hadmits x hf)]
      | some y =>
          rw [List.filterMap_cons_some hf, List.length_cons]
          cases hh : h x with
          | none =>
              rw [List.filterMap_cons_none hh]
              omega
          | some z =>
              rw [List.filterMap_cons_some hh, List.length_cons]
              omega

/-- When as many elements have a value under `h` as `f` admits, each admitted one has. -/
theorem isSome_of_length_filterMap_le {γ : Type} {h : α → Option γ}
    (hadmits : ∀ x, f x = none → h x = none)
    (hlength : (xs.filterMap f).length ≤ (xs.filterMap h).length) :
    ∀ x ∈ xs, (f x).isSome → (h x).isSome := by
  induction xs with
  | nil => simp
  | cons x xs ih =>
      cases hf : f x with
      | none =>
          rw [List.filterMap_cons_none hf, List.filterMap_cons_none (hadmits x hf)] at hlength
          refine List.forall_mem_cons.2 ⟨?_, ih hlength⟩
          rw [hf]
          nofun
      | some y =>
          rw [List.filterMap_cons_some hf, List.length_cons] at hlength
          cases hh : h x with
          | none =>
              rw [List.filterMap_cons_none hh] at hlength
              have hle : (xs.filterMap h).length ≤ (xs.filterMap f).length :=
                length_filterMap_le_of_admits hadmits
              omega
          | some z =>
              rw [List.filterMap_cons_some hh, List.length_cons] at hlength
              refine List.forall_mem_cons.2 ⟨fun _ => by rw [hh]; rfl, ih (by omega)⟩

theorem mapM_filterMap_eq_filterMap_iff {γ : Type} {g : β → Option γ} {h : α → Option γ}
    (hadmits : ∀ x, f x = none → h x = none) :
    (xs.filterMap f).mapM g = some (xs.filterMap h) ↔
      ∀ x ∈ xs, ∀ y, f x = some y → ∃ z, g y = some z ∧ h x = some z := by
  induction xs with
  | nil => simp
  | cons x xs ih =>
      rw [List.forall_mem_cons, ← ih]
      cases hf : f x with
      | none =>
          rw [List.filterMap_cons_none hf, List.filterMap_cons_none (hadmits x hf)]
          simp
      | some y =>
          rw [List.filterMap_cons_some hf, List.mapM_cons]
          constructor
          · intro hmap
            obtain ⟨z, hz, hmap⟩ := Option.bind_eq_some_iff.1 hmap
            obtain ⟨zs, hzs, hmap⟩ := Option.bind_eq_some_iff.1 hmap
            replace hmap : z :: zs = (x :: xs).filterMap h := Option.some.inj hmap
            cases hh : h x with
            | none =>
                -- One value too many: `h` admits no more elements than `f`.
                exfalso
                rw [List.filterMap_cons_none hh] at hmap
                have hlength := congrArg List.length hmap
                rw [List.length_cons, length_mapM hzs] at hlength
                have hle : (xs.filterMap h).length ≤ (xs.filterMap f).length :=
                  length_filterMap_le_of_admits hadmits
                omega
            | some w =>
                rw [List.filterMap_cons_some hh] at hmap
                obtain ⟨rfl, rfl⟩ := List.cons.inj hmap
                refine ⟨?_, hzs⟩
                rintro _ ⟨⟩
                exact ⟨z, hz, rfl⟩
          · rintro ⟨hhead, hrest⟩
            obtain ⟨z, hz, hh⟩ := hhead y rfl
            rw [List.filterMap_cons_some hh, hz, hrest]
            rfl

end MapM

/-! ## Utterances and words -/

def dropCount (parse : Json → Option Entry) (entries : List Json) : ℕ :=
  entries.countP fun entry => (parse entry).isNone

theorem dropCount_cons_none {parse : Json → Option Entry} {entry : Json} (entries : List Json)
    (h : parse entry = none) : dropCount parse (entry :: entries) = dropCount parse entries + 1 :=
  List.countP_cons_of_pos (by rw [h]; rfl)

theorem dropCount_cons_some {parse : Json → Option Entry} {entry : Json} {typed : Entry}
    (entries : List Json) (h : parse entry = some typed) :
    dropCount parse (entry :: entries) = dropCount parse entries :=
  List.countP_cons_of_neg (by rw [h]; simp)

theorem segmentsFromUtterances_eq (utterances : List Json) :
    segmentsFromUtterances utterances =
      ((utterances.filterMap utteranceEntry).mapM Entry.segment).map fun segments =>
        (segments, dropCount utteranceEntry utterances) := by
  induction utterances with
  | nil => rfl
  | cons utterance utterances ih =>
      unfold segmentsFromUtterances
      rw [ih]
      cases hentry : utteranceEntry utterance with
      | none =>
          rw [List.filterMap_cons_none hentry, dropCount_cons_none utterances hentry]
          cases (utterances.filterMap utteranceEntry).mapM Entry.segment <;> rfl
      | some entry =>
          rw [List.filterMap_cons_some hentry, dropCount_cons_some utterances hentry,
            List.mapM_cons]
          dsimp only
          cases entry.segment <;>
            cases (utterances.filterMap utteranceEntry).mapM Entry.segment <;> rfl

section Words

variable (isPrintable : Char → Bool)

/-- The well-typed words, in maximal runs of one speaker. -/
def wordRuns (words : List Json) : List (List Entry) :=
  runs Entry.speaker (words.filterMap (wordEntry isPrintable))

def runSegment (run : List Entry) : Option SpeakerSegment := value Entry.segment mergeWord run

theorem speaker_segment {entry : Entry} {segment : SpeakerSegment}
    (h : entry.segment = some segment) : segment.speaker = entry.speaker := by
  obtain ⟨start, -, h⟩ := Option.bind_eq_some_iff.1 h
  obtain ⟨stop, -, h⟩ := Option.bind_eq_some_iff.1 h
  cases h
  rfl

theorem speaker_mergeWord {last merged : SpeakerSegment} {word : Entry}
    (h : mergeWord last word = some merged) : merged.speaker = last.speaker := by
  obtain ⟨stop, -, h⟩ := Option.bind_eq_some_iff.1 h
  cases h
  rfl

theorem foldlM_addWord (words : List Json) (reversed : List SpeakerSegment) (dropped seen : ℕ) :
    words.foldlM (addWord isPrintable) ⟨reversed, dropped, seen⟩ =
      ((words.filterMap (wordEntry isPrintable)).foldlM addSegment reversed).map fun segments =>
        ⟨segments, dropped + dropCount (wordEntry isPrintable) words, seen + words.length⟩ := by
  induction words generalizing reversed dropped seen with
  | nil => rfl
  | cons word words ih =>
      rw [List.foldlM_cons, addWord]
      cases hentry : wordEntry isPrintable word with
      | none =>
          rw [List.filterMap_cons_none hentry, dropCount_cons_none words hentry, List.length_cons]
          change words.foldlM (addWord isPrintable) ⟨reversed, dropped + 1, seen + 1⟩ = _
          rw [ih]
          rw [Nat.add_right_comm dropped, Nat.add_assoc dropped, Nat.add_right_comm seen,
            Nat.add_assoc seen]
      | some entry =>
          rw [List.filterMap_cons_some hentry, dropCount_cons_some words hentry, List.length_cons,
            List.foldlM_cons]
          dsimp only
          cases hadd : addSegment reversed entry with
          | none => rfl
          | some segments =>
              change words.foldlM (addWord isPrintable) ⟨segments, dropped, seen + 1⟩ = _
              rw [ih, Nat.add_right_comm seen, Nat.add_assoc seen]
              rfl

theorem addSegment_eq_gather :
    addSegment = gather Entry.speaker Entry.segment mergeWord SpeakerSegment.speaker := by
  funext reversed word
  cases reversed <;> rfl

/-- The loop over the words gives one segment for each run. -/
theorem segmentsFromWords_eq (alternatives : List (List (Text × Json))) :
    segmentsFromWords isPrintable alternatives =
      ((wordRuns isPrintable (rawWords alternatives)).mapM runSegment).map fun segments =>
        (segments, dropCount (wordEntry isPrintable) (rawWords alternatives),
          (rawWords alternatives).length) := by
  have hstart : ∀ entry segment, Entry.segment entry = some segment →
      segment.speaker = entry.speaker := fun _ _ => speaker_segment
  have hmerge : ∀ last word merged, mergeWord last word = some merged →
      merged.speaker = last.speaker := fun _ _ _ => speaker_mergeWord
  have hruns : ((rawWords alternatives).filterMap (wordEntry isPrintable)).foldlM addSegment [] =
      (wordRuns isPrintable (rawWords alternatives)).reverse.mapM runSegment := by
    rw [addSegment_eq_gather]
    exact foldlM_gather_nil hstart hmerge _
  rw [segmentsFromWords, foldlM_addWord, hruns, mapM_reverse]
  cases (wordRuns isPrintable (rawWords alternatives)).mapM runSegment with
  | none => rfl
  | some segments => simp

end Words

/-! ## Landing -/

/-- The transcript can be stored, or the call is marked as failed. -/
def Lands (parsing : Parsing Transcript) : Prop :=
  match parsing.result with
  | .ok segments => ∀ segment ∈ segments, segment.start.isFinite ∧ segment.stop.isFinite
  | .error (.transient _) | .error (.permanent _) => True
  | .error .overflow | .error .recursion => False

instance (parsing : Parsing Transcript) : Decidable (Lands parsing) :=
  match h : parsing.result with
  | .ok segments => decidable_of_iff
      (∀ segment ∈ segments, segment.start.isFinite ∧ segment.stop.isFinite) (by rw [Lands, h])
  | .error (.transient _) | .error (.permanent _) => .isTrue (by rw [Lands, h]; trivial)
  | .error .overflow | .error .recursion => .isFalse (by rw [Lands, h]; exact id)

def Convertible (v : Json) : Prop := ∃ x, toFloat v = some x ∧ x.isFinite

/-- The times that a run of words contributes: the first start and the last end. The ends in between are
converted as well. -/
structure RunTimes (run : List Entry) : Prop where
  start : ∀ word ∈ run.head?, Convertible word.start
  stop : ∀ word ∈ run.getLast?, Convertible word.stop
  stops : ∀ word ∈ run, (toFloat word.stop).isSome

def FiniteTimes (isPrintable : Char → Bool) : Json → Prop
  | .obj payload =>
      match field "results" payload with
      | .obj results =>
          match field "utterances" results with
          | .arr utterances => ∀ entry ∈ utterances.filterMap utteranceEntry,
              Convertible entry.start ∧ Convertible entry.stop
          | _ => ∀ run ∈ wordRuns isPrintable (rawWords (alternativesOf results)), RunTimes run
      | _ => True
  | _ => True

theorem segment_finite_iff (entry : Entry) :
    (∃ segment, entry.segment = some segment ∧ segment.start.isFinite ∧ segment.stop.isFinite) ↔
      Convertible entry.start ∧ Convertible entry.stop := by
  unfold Entry.segment Convertible
  cases toFloat entry.start <;> cases toFloat entry.stop <;> simp

theorem foldlM_mergeWord_finite_iff (last : SpeakerSegment) (words : List Entry) :
    (∃ merged, words.foldlM mergeWord last = some merged ∧ merged.start.isFinite ∧
      merged.stop.isFinite) ↔
      last.start.isFinite ∧ (∀ word ∈ words, (toFloat word.stop).isSome) ∧
        (words = [] → last.stop.isFinite) ∧ ∀ word ∈ words.getLast?, Convertible word.stop := by
  induction words generalizing last with
  | nil => simp
  | cons word words ih =>
      rw [List.foldlM_cons, List.forall_mem_cons]
      cases hstop : toFloat word.stop with
      | none => simp [mergeWord, hstop]
      | some x =>
          obtain ⟨merged, hmerged, hstart, hx⟩ : ∃ merged, mergeWord last word = some merged ∧
              merged.start = last.start ∧ merged.stop = x := by
            simp [mergeWord, hstop]
          rw [hmerged]
          change (∃ m, words.foldlM mergeWord merged = some m ∧ _) ↔ _
          rw [ih, hstart, hx]
          cases words with
          | nil => simp [Convertible, hstop]
          | cons next words =>
              rw [List.getLast?_cons_cons]
              simp

theorem runSegment_finite_iff {run : List Entry} (h : run ≠ []) :
    (∃ segment, runSegment run = some segment ∧ segment.start.isFinite ∧
      segment.stop.isFinite) ↔ RunTimes run := by
  cases run with
  | nil => exact absurd rfl h
  | cons word words =>
      have hmerge : ∀ last, word.segment = some last →
          runSegment (word :: words) = words.foldlM mergeWord last := fun last hlast => by
        rw [runSegment, value, hlast, Option.bind_some]
      constructor
      · rintro ⟨segment, hrun, hfinite⟩
        obtain ⟨last, hlast, -⟩ := Option.bind_eq_some_iff.1 hrun
        rw [hmerge last hlast] at hrun
        obtain ⟨hstart, hstops, hstop, hlater⟩ :=
          (foldlM_mergeWord_finite_iff last words).1 ⟨segment, hrun, hfinite⟩
        obtain ⟨start, hs, hlast⟩ := Option.bind_eq_some_iff.1 hlast
        obtain ⟨stop, hp, hlast⟩ := Option.bind_eq_some_iff.1 hlast
        cases hlast
        refine ⟨?_, ?_, List.forall_mem_cons.2 ⟨by simp [hp], hstops⟩⟩
        · simpa [Convertible, hs] using hstart
        · cases words with
          | nil => simpa [Convertible, hp] using hstop
          | cons next words => rwa [List.getLast?_cons_cons]
      · rintro ⟨hstart, hstop, hstops⟩
        obtain ⟨start, hs, hfinite⟩ := hstart word rfl
        obtain ⟨stop, hp⟩ := Option.isSome_iff_exists.1 (hstops word (by simp))
        have hlast : word.segment = some ⟨word.speaker, start, stop, word.text⟩ := by
          simp [Entry.segment, hs, hp]
        rw [hmerge _ hlast]
        refine (foldlM_mergeWord_finite_iff _ words).2
          ⟨hfinite, (List.forall_mem_cons.1 hstops).2, ?_⟩
        cases words with
        | nil => simpa [Convertible, hp] using hstop
        | cons next words => exact ⟨by simp, by rwa [List.getLast?_cons_cons] at hstop⟩

/-! ## The result of a response -/

/-- How both parsers conclude: entries without a segment are an error. -/
def concluded (message : Text) (total : ℕ) : Option Transcript → Except DeepgramError Transcript
  | none => .error .overflow
  | some segments =>
      if segments = [] ∧ total ≠ 0 then .error (.permanent message) else .ok segments

theorem concluded_some (message : Text) (total : ℕ) (segments : Transcript) :
    concluded message total (some segments) =
      if segments = [] ∧ total ≠ 0 then .error (.permanent message) else .ok segments := rfl

theorem result_reportDropped_bind {α : Type} (kind : EntryKind) (dropped : ℕ) (rest : Parsing α) :
    (reportDropped kind dropped >>= fun _ => rest).result = rest.result := by
  unfold reportDropped
  split_ifs
  · rfl
  · exact EventLog.result_emit_bind _ _

theorem result_ite_permanent {total : ℕ} {segments : Transcript} {message : Text} {p : Prop}
    [Decidable p] (hp : p ↔ segments = [] ∧ total ≠ 0) :
    (if p then permanent message else pure segments : Parsing Transcript).result =
      concluded message total (some segments) := by
  rw [concluded_some]
  by_cases h : p
  · rw [if_pos h, if_pos (hp.1 h)]
    rfl
  · rw [if_neg h, if_neg (mt hp.2 h)]
    rfl

theorem result_parseUtterances (utterances : List Json) :
    (parseUtterances utterances).result =
      concluded "deepgram response has utterances but none parsed as segments" utterances.length
        ((utterances.filterMap utteranceEntry).mapM Entry.segment) := by
  unfold parseUtterances
  rw [segmentsFromUtterances_eq]
  cases (utterances.filterMap utteranceEntry).mapM Entry.segment with
  | none => rfl
  | some segments =>
      change (reportDropped _ _ >>= fun _ => _).result = _
      rw [result_reportDropped_bind]
      exact result_ite_permanent (by simp)

theorem result_parseWords (isPrintable : Char → Bool)
    (alternatives : List (List (Text × Json))) :
    (parseWords isPrintable alternatives).result =
      concluded "deepgram response has words but none parsed as segments"
        (rawWords alternatives).length
        ((wordRuns isPrintable (rawWords alternatives)).mapM runSegment) := by
  unfold parseWords
  rw [segmentsFromWords_eq]
  cases (wordRuns isPrintable (rawWords alternatives)).mapM runSegment with
  | none => rfl
  | some segments =>
      change (reportDropped _ _ >>= fun _ => _).result = _
      rw [result_reportDropped_bind]
      exact result_ite_permanent Iff.rfl

/-! ## No body strands a call -/

theorem lands_concluded_iff {x : Parsing Transcript} {message : Text} {total : ℕ}
    {segments : Option Transcript} (hx : x.result = concluded message total segments) :
    Lands x ↔ ∃ found, segments = some found ∧
      ∀ segment ∈ found, segment.start.isFinite ∧ segment.stop.isFinite := by
  unfold Lands
  rw [hx]
  cases segments with
  | none => simp [concluded]
  | some found =>
      rw [concluded_some]
      split_ifs with h
      · simp [h.1]
      · simp

/-- A body that Python decodes lands exactly when its times are finite floats: in the utterances those
of every well-typed entry, in the words those that a run of one speaker contributes. -/
theorem transcribe_lands_iff (isPrintable : Char → Bool) (lim : Limits) (body : Text)
    {value : Json} (h : loads lim body = .ok value) :
    Lands (transcribe isPrintable lim (.response 200 body)) ↔ FiniteTimes isPrintable value := by
  have hbody : transcribe isPrintable lim (.response 200 body) = parseBody isPrintable lim body := rfl
  rw [hbody, parseBody, h]
  cases value with
  | obj payload =>
      change Lands (parseResponse isPrintable payload) ↔ _
      simp only [FiniteTimes, parseResponse]
      cases field "results" payload with
      | obj results =>
          dsimp only
          cases field "utterances" results with
          | arr utterances =>
              rw [lands_concluded_iff (result_parseUtterances utterances), exists_mapM_forall_iff]
              exact forall₂_congr fun entry _ => segment_finite_iff entry
          | _ =>
              rw [lands_concluded_iff (result_parseWords isPrintable _), exists_mapM_forall_iff]
              exact forall₂_congr fun run hrun =>
                runSegment_finite_iff (ne_nil_of_mem_runs Entry.speaker hrun)
      | _ => exact iff_of_true trivial trivial
  | _ => exact iff_of_true trivial trivial

def defaultLimits : Limits := ⟨900, 4300, by decide, Limits.intMaxStrDigits_pos⟩

/-- A body with one utterance that starts at the given literal. -/
def utteranceBody (start : Text) : Text :=
  concat ["\x7b\"results\": \x7b\"utterances\": [\x7b\"speaker\": 0, \"start\": ", start,
    ", \"end\": 1, \"transcript\": \"hi\"\x7d]\x7d\x7d"]

def hugeInteger : Text := '1' :: List.replicate 309 '0'

theorem transcribe_lands_iff_oneUtterance :
    ∃ value, loads defaultLimits (utteranceBody "0.5") = .ok value ∧
      (Lands (transcribe (fun _ => true) defaultLimits (.response 200 (utteranceBody "0.5"))) ↔
        FiniteTimes (fun _ => true) value) ∧
      (transcribe (fun _ => true) defaultLimits (.response 200
        (utteranceBody "0.5"))).result.toOption = some [⟨"S0", .finite (1 / 2), .finite 1, "hi"⟩] := by
  obtain ⟨value, hvalue⟩ : ∃ value, loads defaultLimits (utteranceBody "0.5") = .ok value :=
    ⟨_, rfl⟩
  refine ⟨value, hvalue, transcribe_lands_iff (fun _ => true) defaultLimits _ hvalue, ?_⟩
  decide +kernel

/-- An integer beyond the floats escapes as an `OverflowError`, a `NaN` goes into the transcript. -/
theorem not_lands_utteranceBody :
    (loads defaultLimits (utteranceBody hugeInteger)).isOk ∧
      ¬ Lands (transcribe (fun _ => true) defaultLimits
        (.response 200 (utteranceBody hugeInteger))) ∧
    (loads defaultLimits (utteranceBody "NaN")).isOk ∧
      ¬ Lands (transcribe (fun _ => true) defaultLimits (.response 200 (utteranceBody "NaN"))) := by
  decide +kernel

/-! ## An empty transcript is silence -/

def Silent (payload : List (Text × Json)) : Prop :=
  ∃ results, field "results" payload = .obj results ∧
    (field "utterances" results = .arr [] ∨
      (∀ utterances, field "utterances" results ≠ .arr utterances) ∧
        alternativesOf results ≠ [] ∧
        ∀ alternative ∈ alternativesOf results, field "words" alternative = .arr [])

def rawEntries (results : List (Text × Json)) : List Json :=
  match field "utterances" results with
  | .arr utterances => utterances
  | _ => rawWords (alternativesOf results)

section Honesty

variable (isPrintable : Char → Bool)

def typedEntries (results : List (Text × Json)) : List Entry :=
  match field "utterances" results with
  | .arr utterances => utterances.filterMap utteranceEntry
  | _ => (rawWords (alternativesOf results)).filterMap (wordEntry isPrintable)

def BuildsSegment (payload : List (Text × Json)) : Prop :=
  ∃ results, field "results" payload = .obj results ∧
    ∃ entry ∈ typedEntries isPrintable results, entry.segment.isSome

/-- There are no results, or entries of which none has the right types. -/
def NothingParses (payload : List (Text × Json)) : Prop :=
  ∀ results, field "results" payload = .obj results →
    rawEntries results ≠ [] ∧ typedEntries isPrintable results = []

/-- A response without segments is accepted only if it reports silence, and a response from which no
segment can be built is a permanent error otherwise. -/
def EmptyOnlyIfSilent (payload : List (Text × Json)) : Prop :=
  ((parseResponse isPrintable payload).result = .ok [] → Silent payload) ∧
    (¬ Silent payload → ¬ BuildsSegment isPrintable payload →
      ∃ message, (parseResponse isPrintable payload).result = .error (.permanent message))

/-- The segments of the results, unless a time does not convert. -/
def segmentsOf (results : List (Text × Json)) : Option Transcript :=
  match field "utterances" results with
  | .arr utterances => (utterances.filterMap utteranceEntry).mapM Entry.segment
  | _ => (wordRuns isPrintable (rawWords (alternativesOf results))).mapM runSegment

theorem result_parseResponse {payload results : List (Text × Json)}
    (h : field "results" payload = .obj results) :
    ∃ message, (parseResponse isPrintable payload).result =
      concluded message (rawEntries results).length (segmentsOf isPrintable results) := by
  unfold parseResponse rawEntries segmentsOf
  rw [h]
  dsimp only
  cases field "utterances" results with
  | arr utterances => exact ⟨_, result_parseUtterances utterances⟩
  | _ => exact ⟨_, result_parseWords isPrintable (alternativesOf results)⟩

theorem segmentsOf_eq_nil_iff (results : List (Text × Json)) :
    segmentsOf isPrintable results = some [] ↔ typedEntries isPrintable results = [] := by
  have hempty : ∀ {α : Type} {f : α → Option SpeakerSegment} {xs : List α},
      xs.mapM f = some [] ↔ xs = [] := by
    intro α f xs
    constructor
    · intro h
      simpa using (length_mapM h).symm
    · rintro rfl
      rfl
  unfold segmentsOf typedEntries
  cases field "utterances" results with
  | arr utterances => exact hempty
  | _ =>
      dsimp only
      rw [hempty]
      constructor
      · intro h
        rw [← flatten_runs Entry.speaker
          ((rawWords (alternativesOf results)).filterMap (wordEntry isPrintable))]
        change (wordRuns isPrintable _).flatten = []
        rw [h]
        rfl
      · intro h
        rw [wordRuns, h]
        rfl

theorem segmentsOf_eq_none {results : List (Text × Json)}
    (hne : typedEntries isPrintable results ≠ [])
    (h : ∀ entry ∈ typedEntries isPrintable results, entry.segment = none) :
    segmentsOf isPrintable results = none := by
  unfold typedEntries at hne h
  unfold segmentsOf
  rw [← Option.not_isSome_iff_eq_none]
  cases hutterances : field "utterances" results with
  | arr utterances =>
      rw [hutterances] at hne h
      dsimp only at hne h ⊢
      rw [mapM_isSome_iff]
      intro hsome
      obtain ⟨entry, hentry⟩ := List.exists_mem_of_ne_nil _ hne
      simpa [h entry hentry] using hsome entry hentry
  | _ =>
      rw [hutterances] at hne h
      dsimp only at hne h ⊢
      rw [mapM_isSome_iff]
      intro hsome
      have hflatten := flatten_runs Entry.speaker
        ((rawWords (alternativesOf results)).filterMap (wordEntry isPrintable))
      have hruns : wordRuns isPrintable (rawWords (alternativesOf results)) ≠ [] := by
        intro hnil
        rw [wordRuns] at hnil
        rw [hnil] at hflatten
        exact hne hflatten.symm
      obtain ⟨run, hrun⟩ := List.exists_mem_of_ne_nil _ hruns
      cases run with
      | nil => exact ne_nil_of_mem_runs Entry.speaker hrun rfl
      | cons word words =>
          have hword := h word (hflatten ▸ List.mem_flatten.2 ⟨_, hrun, by simp⟩)
          simpa [runSegment, value, hword] using hsome _ hrun

/-- An empty result means silence exactly when the payload reports silence, or holds an entry that can be
built, or holds entries of which none is well typed. -/
theorem emptyOnlyIfSilent_iff (payload : List (Text × Json)) :
    EmptyOnlyIfSilent isPrintable payload ↔
      Silent payload ∨ BuildsSegment isPrintable payload ∨ NothingParses isPrintable payload := by
  by_cases hobject : ∃ results, field "results" payload = .obj results
  · obtain ⟨results, hresults⟩ := hobject
    obtain ⟨message, hresult⟩ := result_parseResponse isPrintable hresults
    have hunique : ∀ {others}, field "results" payload = .obj others → others = results := by
      intro others hothers
      rw [hresults] at hothers
      exact (Json.obj.inj hothers).symm
    unfold EmptyOnlyIfSilent
    rw [hresult]
    by_cases htyped : typedEntries isPrintable results = []
    · rw [(segmentsOf_eq_nil_iff isPrintable results).2 htyped, concluded_some]
      by_cases hraw : rawEntries results = []
      · -- Nothing was read at all: the result is empty, whatever the payload says.
        rw [if_neg (by simp [hraw])]
        constructor
        · rintro ⟨hsilent, -⟩
          exact .inl (hsilent rfl)
        · rintro (hsilent | ⟨others, hothers, entry, hentry, -⟩ | hnothing)
          · exact ⟨fun _ => hsilent, fun hnot => absurd hsilent hnot⟩
          · rw [hunique hothers, htyped] at hentry
            cases hentry
          · exact absurd hraw (hnothing results hresults).1
      · rw [if_pos ⟨rfl, by simpa using hraw⟩]
        constructor
        · intro _
          refine .inr (.inr fun others hothers => ?_)
          rw [hunique hothers]
          exact ⟨hraw, htyped⟩
        · intro _
          exact ⟨fun h => (nomatch h), fun _ _ => ⟨message, rfl⟩⟩
    · have hnil : segmentsOf isPrintable results ≠ some [] :=
        mt (segmentsOf_eq_nil_iff isPrintable results).1 htyped
      by_cases hbuilds : BuildsSegment isPrintable payload
      · refine iff_of_true ⟨?_, fun _ hnot => absurd hbuilds hnot⟩ (.inr (.inl hbuilds))
        intro hempty
        cases hsegments : segmentsOf isPrintable results with
        | none =>
            rw [hsegments] at hempty
            cases hempty
        | some segments =>
            rw [hsegments, concluded_some] at hempty
            split_ifs at hempty
            cases hempty
            exact absurd hsegments hnil
      · -- No entry converts: the `OverflowError` escapes.
        have hnone : segmentsOf isPrintable results = none := by
          apply segmentsOf_eq_none isPrintable htyped
          intro entry hentry
          rw [← Option.not_isSome_iff_eq_none]
          intro hsome
          exact hbuilds ⟨results, hresults, entry, hentry, hsome⟩
        rw [hnone]
        constructor
        · rintro ⟨-, hpermanent⟩
          by_cases hsilent : Silent payload
          · exact .inl hsilent
          · obtain ⟨_, h⟩ := hpermanent hsilent hbuilds
            cases h
        · rintro (hsilent | hbuild | hnothing)
          · exact ⟨fun h => (nomatch h), fun hnot => absurd hsilent hnot⟩
          · exact absurd hbuild hbuilds
          · exact absurd (hnothing results hresults).2 htyped
  · -- Without a results object there is nothing to read, and the parser says so.
    have hresult : (parseResponse isPrintable payload).result =
        .error (.permanent "deepgram response missing results object") := by
      unfold parseResponse
      split
      · exact absurd ⟨_, ‹_›⟩ hobject
      · rfl
    refine iff_of_true ⟨?_, fun _ _ => ⟨_, hresult⟩⟩
      (.inr (.inr fun results hresults => absurd ⟨results, hresults⟩ hobject))
    rw [hresult]
    exact fun h => (nomatch h)

/-- A response without channels is taken for silence. -/
theorem not_emptyOnlyIfSilent_noChannels :
    ¬ EmptyOnlyIfSilent (fun _ => true) [("results", .obj [])] := by
  have hresults : field "results" [("results", Json.obj [])] = .obj [] := rfl
  rintro ⟨hsilent, -⟩
  obtain ⟨results, hobject, hsilence⟩ := hsilent rfl
  rw [hresults] at hobject
  obtain rfl := Json.obj.inj hobject
  rcases hsilence with hutterances | ⟨-, halternatives, -⟩
  · cases hutterances
  · exact halternatives rfl

end Honesty

/-! ## Utterance by utterance -/

/-- A JSON number as it stands; a boolean is none. -/
def jsonNumber : Json → Option PyFloat
  | .int n => some (.finite n)
  | .float x => some x
  | _ => none

/-- The segment of a well-formed utterance: an integer speaker, numbers for the times and a string. -/
def faithfulSegment : Json → Option SpeakerSegment
  | .obj members =>
      match field "speaker" members, jsonNumber (field "start" members),
        jsonNumber (field "end" members), field "transcript" members with
      | .int n, some start, some stop, .str text => some ⟨'S' :: intText n, start, stop, text⟩
      | _, _, _, _ => none
  | _ => none

def reportedDropped (reports : List DropReport) : ℕ := (reports.map DropReport.dropped).sum

/-- The response is the segments of the well-formed utterances, and the others are reported. -/
def MapsFaithfully (isPrintable : Char → Bool) (payload : List (Text × Json))
    (utterances : List Json) : Prop :=
  (parseResponse isPrintable payload).result = .ok (utterances.filterMap faithfulSegment) ∧
    (utterances.filterMap faithfulSegment).length +
      reportedDropped (parseResponse isPrintable payload).events = utterances.length

def isBoolean : Json → Bool
  | .bool _ => true
  | _ => false

def HasBoolean (entry : Json) : Prop :=
  ∃ members, entry = .obj members ∧ ∃ key ∈ (["speaker", "start", "end"] : List Text),
    isBoolean (field key members)

/-- Integer times are binary64 values. -/
def ExactTimes (entry : Json) : Prop :=
  ∃ members, entry = .obj members ∧ ∀ key ∈ (["start", "end"] : List Text), ∀ n,
    field key members = .int n → intToFloat n = some (.finite n)

theorem isNumber_of_jsonNumber {v : Json} {x : PyFloat} (h : jsonNumber v = some x) :
    isNumber v = true := by
  cases v with
  | int n => rfl
  | float x => rfl
  | _ => cases h

theorem toFloat_eq_jsonNumber_iff {v : Json} (h : isNumber v) :
    (∃ x, toFloat v = some x ∧ jsonNumber v = some x) ↔
      isBoolean v = false ∧ ∀ n, v = .int n → intToFloat n = some (.finite n) := by
  cases v with
  | int n =>
      constructor
      · rintro ⟨x, hx, ⟨⟩⟩
        refine ⟨rfl, ?_⟩
        rintro _ ⟨⟩
        exact hx
      · rintro ⟨-, hexact⟩
        exact ⟨_, hexact n rfl, rfl⟩
  | bool b =>
      constructor
      · rintro ⟨x, -, hx⟩
        cases hx
      · rintro ⟨hb, -⟩
        cases hb
  | float x => exact iff_of_true ⟨x, rfl, rfl⟩ ⟨rfl, fun _ h => (nomatch h)⟩
  | _ => cases h

theorem utteranceEntry_eq_some {entry : Json} {typed : Entry} (h : utteranceEntry entry = some typed) :
    ∃ members, entry = .obj members ∧
      speakerLabel (field "speaker" members) = some typed.speaker ∧
      field "start" members = typed.start ∧ field "end" members = typed.stop ∧
      field "transcript" members = .str typed.text ∧ isNumber typed.start ∧ isNumber typed.stop := by
  unfold utteranceEntry at h
  cases entry with
  | obj members =>
      dsimp only at h
      split at h
      · split_ifs at h with hnumbers
        cases h
        obtain ⟨hstart, hstop⟩ := (Bool.and_eq_true _ _).mp hnumbers
        exact ⟨members, rfl, ‹_›, rfl, rfl, ‹_›, hstart, hstop⟩
      · cases h
  | _ => cases h

theorem faithfulSegment_eq_none {entry : Json} (h : utteranceEntry entry = none) :
    faithfulSegment entry = none := by
  cases entry with
  | obj members =>
      unfold utteranceEntry at h
      unfold faithfulSegment
      dsimp only at h ⊢
      split
      · rename_i n start stop text hspeaker hstart hstop htext
        rw [hspeaker, htext] at h
        dsimp only [speakerLabel] at h
        rw [isNumber_of_jsonNumber hstart, isNumber_of_jsonNumber hstop] at h
        cases h
      · rfl
  | _ => rfl

theorem segment_eq_faithfulSegment_iff {entry : Json} {typed : Entry}
    (h : utteranceEntry entry = some typed) :
    (∃ segment, typed.segment = some segment ∧ faithfulSegment entry = some segment) ↔
      ¬ HasBoolean entry ∧ ExactTimes entry := by
  obtain ⟨members, rfl, hspeaker, hstart, hstop, htext, hstartNumber, hstopNumber⟩ :=
    utteranceEntry_eq_some h
  have hbooleans : ¬ HasBoolean (.obj members) ↔ isBoolean (field "speaker" members) = false ∧
      isBoolean typed.start = false ∧ isBoolean typed.stop = false := by
    simp [HasBoolean, ← hstart, ← hstop]
  have hexact : ExactTimes (.obj members) ↔
      (∀ n, typed.start = .int n → intToFloat n = some (.finite n)) ∧
        ∀ n, typed.stop = .int n → intToFloat n = some (.finite n) := by
    simp [ExactTimes, ← hstart, ← hstop]
  rw [hbooleans, hexact]
  have hstarts := toFloat_eq_jsonNumber_iff hstartNumber
  have hstops := toFloat_eq_jsonNumber_iff hstopNumber
  unfold faithfulSegment
  dsimp only
  rw [hstart, hstop, htext]
  constructor
  · rintro ⟨segment, hsegment, hfaithful⟩
    obtain ⟨start, hx, hsegment⟩ := Option.bind_eq_some_iff.1 hsegment
    obtain ⟨stop, hy, hsegment⟩ := Option.bind_eq_some_iff.1 hsegment
    cases hsegment
    split at hfaithful
    · rename_i n x y text hn hstartValue hstopValue htextValue
      have hsegment := Option.some.inj hfaithful
      obtain rfl : x = start := congrArg SpeakerSegment.start hsegment
      obtain rfl : y = stop := congrArg SpeakerSegment.stop hsegment
      obtain ⟨hstartPlain, hstartExact⟩ := hstarts.1 ⟨_, hx, hstartValue⟩
      obtain ⟨hstopPlain, hstopExact⟩ := hstops.1 ⟨_, hy, hstopValue⟩
      rw [hn]
      exact ⟨⟨rfl, hstartPlain, hstopPlain⟩, hstartExact, hstopExact⟩
    · cases hfaithful
  · rintro ⟨⟨hspeakerPlain, hstartPlain, hstopPlain⟩, hstartExact, hstopExact⟩
    obtain ⟨x, hx, hstartValue⟩ := hstarts.2 ⟨hstartPlain, hstartExact⟩
    obtain ⟨y, hy, hstopValue⟩ := hstops.2 ⟨hstopPlain, hstopExact⟩
    cases hv : field "speaker" members with
    | int n =>
        rw [hv] at hspeaker
        have hlabel : 'S' :: intText n = typed.speaker := Option.some.inj hspeaker
        rw [hstartValue, hstopValue]
        refine ⟨⟨typed.speaker, x, y, typed.text⟩, by simp [Entry.segment, hx, hy], ?_⟩
        dsimp only
        rw [hlabel]
    | bool b =>
        rw [hv] at hspeakerPlain
        cases hspeakerPlain
    | _ =>
        rw [hv] at hspeaker
        cases hspeaker

theorem reportedDropped_parseUtterances {utterances : List Json} {segments : Transcript}
    (h : (utterances.filterMap utteranceEntry).mapM Entry.segment = some segments) :
    reportedDropped (parseUtterances utterances).events = dropCount utteranceEntry utterances := by
  unfold parseUtterances
  rw [segmentsFromUtterances_eq, h]
  change reportedDropped (reportDropped .utterances (dropCount utteranceEntry utterances) >>=
    fun _ => _).events = _
  unfold reportDropped
  split_ifs with hzero hempty
  · rw [hzero]
    rfl
  · rw [hzero]
    rfl
  · exact Nat.add_zero _
  · exact Nat.add_zero _

/-- Given a well-formed utterance, the map is faithful exactly when no accepted entry has a boolean
for a number or an integer time that is not a binary64 value. -/
theorem mapsFaithfully_iff (isPrintable : Char → Bool) {payload results : List (Text × Json)}
    {utterances : List Json} (hresults : field "results" payload = .obj results)
    (hutterances : field "utterances" results = .arr utterances)
    (hwellFormed : ∃ entry ∈ utterances, (faithfulSegment entry).isSome) :
    MapsFaithfully isPrintable payload utterances ↔
      ∀ entry ∈ utterances, (utteranceEntry entry).isSome →
        ¬ HasBoolean entry ∧ ExactTimes entry := by
  have hresponse : parseResponse isPrintable payload = parseUtterances utterances := by
    unfold parseResponse
    rw [hresults]
    dsimp only
    rw [hutterances]
  have hfaithful : (∀ entry ∈ utterances, (utteranceEntry entry).isSome →
      ¬ HasBoolean entry ∧ ExactTimes entry) ↔
      (utterances.filterMap utteranceEntry).mapM Entry.segment =
        some (utterances.filterMap faithfulSegment) := by
    rw [mapM_filterMap_eq_filterMap_iff (fun _ => faithfulSegment_eq_none)]
    refine forall₂_congr fun entry _ => ?_
    constructor
    · intro h typed htyped
      exact (segment_eq_faithfulSegment_iff htyped).2 (h (by rw [htyped]; rfl))
    · intro h hsome
      obtain ⟨typed, htyped⟩ := Option.isSome_iff_exists.1 hsome
      exact (segment_eq_faithfulSegment_iff htyped).1 (h typed htyped)
  obtain ⟨entry, hentry, hsome⟩ := hwellFormed
  obtain ⟨segment, hsegment⟩ := Option.isSome_iff_exists.1 hsome
  have hne : utterances.filterMap faithfulSegment ≠ [] :=
    List.ne_nil_of_mem (List.mem_filterMap.2 ⟨entry, hentry, hsegment⟩)
  rw [MapsFaithfully, hresponse, hfaithful, result_parseUtterances]
  constructor
  · rintro ⟨hresult, -⟩
    cases hmap : (utterances.filterMap utteranceEntry).mapM Entry.segment with
    | none =>
        rw [hmap] at hresult
        cases hresult
    | some segments =>
        rw [hmap, concluded_some] at hresult
        split_ifs at hresult
        exact congrArg some (Except.ok.inj hresult)
  · intro hmap
    rw [reportedDropped_parseUtterances hmap, hmap, concluded_some, if_neg (fun h => hne h.1),
      length_mapM hmap]
    exact ⟨rfl, length_filterMap_add_countP utterances utteranceEntry⟩

def utterance (speaker start : Json) : Json :=
  .obj [("speaker", speaker), ("start", start), ("end", .float (.finite (3 / 2))),
    ("transcript", .str "hi")]

def utterancesPayload (utterances : List Json) : List (Text × Json) :=
  [("results", .obj [("utterances", .arr utterances)])]

theorem mapsFaithfully_iff_withDropped :
    MapsFaithfully (fun _ => true)
        (utterancesPayload [utterance (.int 0) (.int 1), utterance .null (.int 1)])
        [utterance (.int 0) (.int 1), utterance .null (.int 1)] ↔
      ∀ entry ∈ [utterance (.int 0) (.int 1), utterance .null (.int 1)],
        (utteranceEntry entry).isSome → ¬ HasBoolean entry ∧ ExactTimes entry :=
  mapsFaithfully_iff (fun _ => true) rfl rfl ⟨_, List.mem_cons_self, rfl⟩

/-- An entry with the speaker `true` becomes a segment of the speaker `STrue`. -/
theorem not_mapsFaithfully_booleanSpeaker :
    (faithfulSegment (utterance (.int 0) (.int 1))).isSome ∧
      ¬ MapsFaithfully (fun _ => true)
        (utterancesPayload [utterance (.int 0) (.int 1), utterance (.bool true) (.int 1)])
        [utterance (.int 0) (.int 1), utterance (.bool true) (.int 1)] := by
  refine ⟨rfl, ?_⟩
  rintro ⟨-, hlength⟩
  exact absurd hlength (by decide)

end Notetaker.Deepgram

import Notetaker.TranscriptParsing

/-!
# The word fallback

Without utterances the words are grouped by `_segments_from_words`. A word is well formed when its
speaker is an integer and its times are numbers; the type tests of the code let booleans through as
well, and `float` rounds the integers that are no binary64 values, or raises beyond the largest. The
grouping gives the maximal runs of the well-formed words exactly when none of this happens to a word
that matters.
-/

open PythonText PythonFloat JsonText MaximalRuns

namespace Notetaker.Deepgram

/-! ## Well-formed words -/

section WellFormed

variable (isPrintable : Char → Bool)

/-- A well-formed word as it stands. -/
def faithfulWord : Json → Option SpeakerSegment
  | .obj members =>
      match field "speaker" members, jsonNumber (field "start" members),
        jsonNumber (field "end" members) with
      | .int n, some start, some stop =>
          some ⟨'S' :: intText n, start, stop, wordText isPrintable members⟩
      | _, _, _ => none
  | _ => none

def faithfulWords (alternatives : List (List (Text × Json))) : List SpeakerSegment :=
  (rawWords alternatives).filterMap (faithfulWord isPrintable)

end WellFormed

/-- `start_i <= end_i <= start_{i+1}` -/
structure InTimeOrder (segments : List SpeakerSegment) : Prop where
  within : ∀ segment ∈ segments, FloatLe segment.start segment.stop
  between : segments.IsChain fun segment next => FloatLe segment.stop next.start

/-- The segment spans a run of words of its speaker. -/
structure Spans (segment : SpeakerSegment) (run : List SpeakerSegment) : Prop where
  speaker : ∀ word ∈ run, word.speaker = segment.speaker
  start : ∃ word ∈ run.head?, word.start = segment.start
  stop : ∃ word ∈ run.getLast?, word.stop = segment.stop

structure GroupedIntoRuns (words segments : List SpeakerSegment) : Prop where
  speakers : segments.IsChain fun segment next => segment.speaker ≠ next.speaker
  partition : ∃ runs, runs.flatten = words ∧ List.Forall₂ Spans segments runs
  tokens : segments.flatMap (fun segment => splitWords segment.text) =
    words.flatMap fun word => splitWords word.text
  ordered : InTimeOrder words → InTimeOrder segments

/-- `_segments_from_words` returns, and groups the well-formed words. -/
def GroupsWords (isPrintable : Char → Bool) (alternatives : List (List (Text × Json))) : Prop :=
  ∃ segments dropped wordsSeen,
    segmentsFromWords isPrintable alternatives = some (segments, dropped, wordsSeen) ∧
    GroupedIntoRuns (faithfulWords isPrintable alternatives) segments ∧
    dropped + (faithfulWords isPrintable alternatives).length = wordsSeen

/-! ## Accepted words -/

/-- `float` keeps the number. -/
def ExactTime (v : Json) : Prop := ∀ n, v = .int n → intToFloat n = some (.finite n)

/-- The times that `float` changes are of no consequence: they are neither the first start nor the last
end of a run, and every end converts. -/
structure ExactRun (run : List Entry) : Prop where
  start : ∀ word ∈ run.head?, ExactTime word.start
  stop : ∀ word ∈ run.getLast?, ExactTime word.stop
  stops : ∀ word ∈ run, (toFloat word.stop).isSome

structure Entry.Plain (word : Entry) : Prop where
  start : (jsonNumber word.start).isSome
  stop : (jsonNumber word.stop).isSome

/-- A word with its times as they stand; only a boolean has no value. -/
def Entry.asWord (word : Entry) : SpeakerSegment :=
  ⟨word.speaker, (jsonNumber word.start).getD .nan, (jsonNumber word.stop).getD .nan, word.text⟩

theorem toFloat_eq_some_iff {v : Json} {x : PyFloat} (h : jsonNumber v = some x) :
    toFloat v = some x ↔ ExactTime v := by
  cases v with
  | int n =>
      cases h
      constructor
      · rintro hx _ ⟨⟩
        exact hx
      · exact fun hexact => hexact n rfl
  | float y =>
      cases h
      exact iff_of_true rfl fun _ h => (nomatch h)
  | _ => cases h

theorem getD_jsonNumber_eq_iff {v : Json} (h : (jsonNumber v).isSome) {x : PyFloat}
    (hx : toFloat v = some x) : (jsonNumber v).getD .nan = x ↔ ExactTime v := by
  obtain ⟨y, hy⟩ := Option.isSome_iff_exists.1 h
  rw [← toFloat_eq_some_iff hy, hy, Option.getD_some, hx, Option.some.injEq, eq_comm]

section Accepted

variable {isPrintable : Char → Bool} {word : Json} {typed : Entry}

theorem wordEntry_eq_some (h : wordEntry isPrintable word = some typed) :
    ∃ members, word = .obj members ∧
      speakerLabel (field "speaker" members) = some typed.speaker ∧
      field "start" members = typed.start ∧ field "end" members = typed.stop ∧
      wordText isPrintable members = typed.text ∧ isNumber typed.start ∧ isNumber typed.stop := by
  unfold wordEntry at h
  cases word with
  | obj members =>
      dsimp only at h
      split at h
      · split_ifs at h with hnumbers
        cases h
        obtain ⟨hstart, hstop⟩ := (Bool.and_eq_true _ _).mp hnumbers
        exact ⟨members, rfl, ‹_›, rfl, rfl, rfl, hstart, hstop⟩
      · cases h
  | _ => cases h

theorem faithfulWord_eq_none (h : wordEntry isPrintable word = none) :
    faithfulWord isPrintable word = none := by
  cases word with
  | obj members =>
      unfold wordEntry at h
      unfold faithfulWord
      dsimp only at h ⊢
      split
      · rename_i n start stop hspeaker hstart hstop
        rw [hspeaker] at h
        dsimp only [speakerLabel] at h
        rw [isNumber_of_jsonNumber hstart, isNumber_of_jsonNumber hstop] at h
        cases h
      · rfl
  | _ => rfl

theorem isSome_jsonNumber {v : Json} (h : isNumber v) (hplain : isBoolean v = false) :
    (jsonNumber v).isSome := by
  cases v with
  | int n => rfl
  | float x => rfl
  | bool b => cases hplain
  | _ => cases h

/-- An accepted word without booleans is well formed. -/
theorem faithfulWord_eq_asWord (h : wordEntry isPrintable word = some typed)
    (hplain : ¬ HasBoolean word) :
    typed.Plain ∧ faithfulWord isPrintable word = some typed.asWord := by
  obtain ⟨members, rfl, hspeaker, hstart, hstop, htext, hstartNumber, hstopNumber⟩ :=
    wordEntry_eq_some h
  have hbooleans : isBoolean (field "speaker" members) = false ∧
      isBoolean typed.start = false ∧ isBoolean typed.stop = false := by
    simpa [HasBoolean, ← hstart, ← hstop] using hplain
  obtain ⟨hspeakerPlain, hstartPlain, hstopPlain⟩ := hbooleans
  have htimes : typed.Plain :=
    ⟨isSome_jsonNumber hstartNumber hstartPlain, isSome_jsonNumber hstopNumber hstopPlain⟩
  refine ⟨htimes, ?_⟩
  obtain ⟨x, hx⟩ := Option.isSome_iff_exists.1 htimes.start
  obtain ⟨y, hy⟩ := Option.isSome_iff_exists.1 htimes.stop
  unfold faithfulWord
  dsimp only
  rw [hstart, hstop, hx, hy, htext]
  cases hv : field "speaker" members with
  | int n =>
      rw [hv] at hspeaker
      have hlabel : 'S' :: intText n = typed.speaker := Option.some.inj hspeaker
      simp [Entry.asWord, hx, hy, hlabel]
  | bool b =>
      rw [hv] at hspeakerPlain
      cases hspeakerPlain
  | _ =>
      rw [hv] at hspeaker
      cases hspeaker

theorem not_hasBoolean_of_isSome (h : (faithfulWord isPrintable word).isSome) :
    ¬ HasBoolean word := by
  rintro ⟨members, rfl, key, hkey, hboolean⟩
  obtain ⟨segment, hsegment⟩ := Option.isSome_iff_exists.1 h
  unfold faithfulWord at hsegment
  dsimp only at hsegment
  split at hsegment
  · rename_i n start stop hspeaker hstart hstop
    have hnumber : ∀ {v x}, jsonNumber v = some x → isBoolean v = false := by
      intro v x hv
      cases v with
      | bool b => cases hv
      | _ => rfl
    simp only [List.mem_cons, List.not_mem_nil, or_false] at hkey
    rcases hkey with rfl | rfl | rfl
    · rw [hspeaker] at hboolean
      cases hboolean
    · rw [hnumber hstart] at hboolean
      cases hboolean
    · rw [hnumber hstop] at hboolean
      cases hboolean
  · cases hsegment

theorem filterMap_faithfulWord {words : List Json}
    (h : ∀ word ∈ words, (wordEntry isPrintable word).isSome → ¬ HasBoolean word) :
    words.filterMap (faithfulWord isPrintable) =
      (words.filterMap (wordEntry isPrintable)).map Entry.asWord := by
  rw [List.map_filterMap]
  apply List.filterMap_congr
  intro word hword
  cases hentry : wordEntry isPrintable word with
  | none => exact faithfulWord_eq_none hentry
  | some typed => exact (faithfulWord_eq_asWord hentry (h word hword (by rw [hentry]; rfl))).2

theorem plain_of_mem_filterMap {words : List Json}
    (h : ∀ word ∈ words, (wordEntry isPrintable word).isSome → ¬ HasBoolean word)
    (hmem : typed ∈ words.filterMap (wordEntry isPrintable)) : typed.Plain := by
  obtain ⟨word, hword, hentry⟩ := List.mem_filterMap.1 hmem
  exact (faithfulWord_eq_asWord hentry (h word hword (by rw [hentry]; rfl))).1

end Accepted

/-! ## Segments of runs -/

/-- The segment has the speaker of a run, and its outer times as floats. -/
structure CoversRun (segment : SpeakerSegment) (run : List Entry) : Prop where
  speaker : ∀ word ∈ run, word.speaker = segment.speaker
  start : ∃ word ∈ run.head?, toFloat word.start = some segment.start
  stop : ∃ word ∈ run.getLast?, toFloat word.stop = some segment.stop

structure RunConverts (run : List Entry) : Prop where
  start : ∀ word ∈ run.head?, (toFloat word.start).isSome
  stops : ∀ word ∈ run, (toFloat word.stop).isSome

section Runs

variable {run : List Entry} {segment : SpeakerSegment}

theorem splitWords_mergeWord {last merged : SpeakerSegment} {word : Entry}
    (h : mergeWord last word = some merged) :
    merged.start = last.start ∧ toFloat word.stop = some merged.stop ∧
      splitWords merged.text = splitWords last.text ++ splitWords word.text := by
  obtain ⟨stop, hstop, h⟩ := Option.bind_eq_some_iff.1 h
  cases h
  refine ⟨rfl, hstop, ?_⟩
  have htext : concat [last.text, " ", word.text] = last.text ++ ' ' :: word.text := by
    simp [concat]
  rw [splitWords_strip, htext, splitWords_append_cons]
  decide

/-- Merging words keeps the start, takes over the last end and adds the tokens. -/
theorem foldlM_mergeWord_eq_some {last merged : SpeakerSegment} {words : List Entry}
    (h : words.foldlM mergeWord last = some merged) :
    merged.start = last.start ∧ (words = [] → merged.stop = last.stop) ∧
      (∀ word ∈ words.getLast?, toFloat word.stop = some merged.stop) ∧
      splitWords merged.text =
        splitWords last.text ++ words.flatMap fun word => splitWords word.text := by
  induction words generalizing last with
  | nil =>
      cases h
      simp
  | cons word words ih =>
      obtain ⟨next, hnext, hrest⟩ := Option.bind_eq_some_iff.1 h
      obtain ⟨hstart, hstop, htext⟩ := splitWords_mergeWord hnext
      obtain ⟨ihstart, ihnil, ihlast, ihtext⟩ := ih hrest
      refine ⟨ihstart.trans hstart, by simp, ?_, ?_⟩
      · cases words with
        | nil =>
            rintro _ ⟨⟩
            rw [ihnil rfl]
            exact hstop
        | cons second words =>
            rw [List.getLast?_cons_cons]
            exact ihlast
      · rw [ihtext, htext, List.flatMap_cons, List.append_assoc]

theorem coversRun_of_runSegment (hrun : Uniform Entry.speaker run)
    (h : runSegment run = some segment) :
    CoversRun segment run ∧
      splitWords segment.text = run.flatMap fun word => splitWords word.text := by
  have hlabel : run.head?.map Entry.speaker = some segment.speaker :=
    label_value (fun _ _ => speaker_segment) (fun _ _ _ => speaker_mergeWord) h
  cases run with
  | nil => cases h
  | cons word words =>
      obtain ⟨first, hfirst, hmerge⟩ := Option.bind_eq_some_iff.1 h
      obtain ⟨hstart, hnil, hlast, htext⟩ := foldlM_mergeWord_eq_some hmerge
      obtain ⟨start, hx, hfirst⟩ := Option.bind_eq_some_iff.1 hfirst
      obtain ⟨stop, hy, hfirst⟩ := Option.bind_eq_some_iff.1 hfirst
      cases hfirst
      refine ⟨⟨?_, ⟨word, rfl, ?_⟩, ?_⟩, htext⟩
      · intro other hother
        exact Option.some.inj ((hrun other hother).symm.trans hlabel)
      · rw [hstart]
        exact hx
      · cases words with
        | nil =>
            refine ⟨word, rfl, ?_⟩
            rw [hnil rfl]
            exact hy
        | cons second words =>
            rw [List.getLast?_cons_cons]
            obtain ⟨other, hother⟩ : ∃ other, (second :: words).getLast? = some other :=
              ⟨_, List.getLast?_eq_some_getLast (List.cons_ne_nil second words)⟩
            exact ⟨other, hother, hlast other hother⟩

theorem isSome_foldlM_mergeWord_iff (last : SpeakerSegment) (words : List Entry) :
    (words.foldlM mergeWord last).isSome ↔ ∀ word ∈ words, (toFloat word.stop).isSome := by
  induction words generalizing last with
  | nil => simp
  | cons word words ih =>
      rw [List.foldlM_cons, List.forall_mem_cons]
      cases hstop : toFloat word.stop with
      | none => simp [mergeWord, hstop]
      | some x =>
          obtain ⟨merged, hmerged⟩ : ∃ merged, mergeWord last word = some merged := by
            simp [mergeWord, hstop]
          rw [hmerged]
          change (words.foldlM mergeWord merged).isSome ↔ _
          rw [ih]
          simp

theorem isSome_runSegment_iff (h : run ≠ []) : (runSegment run).isSome ↔ RunConverts run := by
  cases run with
  | nil => exact absurd rfl h
  | cons word words =>
      have hconverts : RunConverts (word :: words) ↔ (toFloat word.start).isSome ∧
          (toFloat word.stop).isSome ∧ ∀ other ∈ words, (toFloat other.stop).isSome := by
        constructor
        · rintro ⟨hstart, hstops⟩
          exact ⟨hstart word rfl, List.forall_mem_cons.1 hstops⟩
        · rintro ⟨hstart, hstops⟩
          refine ⟨?_, List.forall_mem_cons.2 hstops⟩
          rintro _ ⟨⟩
          exact hstart
      rw [hconverts, runSegment, value]
      cases hfirst : word.segment with
      | none =>
          unfold Entry.segment at hfirst
          cases hstart : toFloat word.start <;> cases hstop : toFloat word.stop <;>
            simp_all
      | some first =>
          rw [Option.bind_some, isSome_foldlM_mergeWord_iff]
          obtain ⟨start, hstart, hfirst⟩ := Option.bind_eq_some_iff.1 hfirst
          obtain ⟨stop, hstop, -⟩ := Option.bind_eq_some_iff.1 hfirst
          simp [hstart, hstop]

end Runs

/-! ## All runs -/

section Segments

variable {segments : List SpeakerSegment} {runs : List (List Entry)}

theorem forall₂_of_mapM {α β : Type} {f : α → Option β} {xs : List α} {ys : List β}
    (h : xs.mapM f = some ys) : List.Forall₂ (fun y x => f x = some y) ys xs := by
  induction xs generalizing ys with
  | nil =>
      cases h
      exact .nil
  | cons x xs ih =>
      rw [List.mapM_cons] at h
      obtain ⟨y, hy, h⟩ := Option.bind_eq_some_iff.1 h
      obtain ⟨zs, hzs, h⟩ := Option.bind_eq_some_iff.1 h
      cases h
      exact .cons hy (ih hzs)

theorem forall_of_forall₂ {α β : Type} {R : α → β → Prop} {xs : List α} {ys : List β}
    (h : List.Forall₂ R xs ys) : ∀ y ∈ ys, ∃ x, R x y := by
  induction h with
  | nil => simp
  | cons hxy _ ih => exact List.forall_mem_cons.2 ⟨⟨_, hxy⟩, ih⟩

theorem InTimeOrder.append {words rest : List SpeakerSegment} (h : InTimeOrder (words ++ rest)) :
    InTimeOrder words ∧ InTimeOrder rest ∧
      ∀ word ∈ words.getLast?, ∀ next ∈ rest.head?, FloatLe word.stop next.start := by
  obtain ⟨hwords, hrest, hbetween⟩ := List.isChain_append.1 h.between
  refine ⟨⟨?_, hwords⟩, ⟨?_, hrest⟩, hbetween⟩
  · exact fun word hword => h.within word (List.mem_append_left rest hword)
  · exact fun word hword => h.within word (List.mem_append_right words hword)

theorem InTimeOrder.span {words : List SpeakerSegment} (h : InTimeOrder words)
    {first last : SpeakerSegment} (hfirst : words.head? = some first)
    (hlast : words.getLast? = some last) : FloatLe first.start last.stop := by
  induction words generalizing first with
  | nil => cases hfirst
  | cons word words ih =>
      obtain rfl : word = first := Option.some.inj hfirst
      have hword := h.within word (by simp)
      cases words with
      | nil =>
          obtain rfl : word = last := Option.some.inj hlast
          exact hword
      | cons second words =>
          rw [List.getLast?_cons_cons] at hlast
          obtain ⟨hnext, hchain⟩ := List.isChain_cons_cons.1 h.between
          have hrest : InTimeOrder (second :: words) :=
            ⟨fun other hother => h.within other (List.mem_cons_of_mem word hother), hchain⟩
          exact hword.trans (hnext.trans (ih hrest rfl hlast))

theorem inTimeOrder_of_spans {runs : List (List SpeakerSegment)}
    (hspans : List.Forall₂ Spans segments runs) (h : InTimeOrder runs.flatten) :
    InTimeOrder segments := by
  induction hspans with
  | nil => exact ⟨by simp, List.isChain_nil⟩
  | @cons segment run segments runs hrun hrest ih =>
      rw [List.flatten_cons] at h
      obtain ⟨hordered, hlater, hbetween⟩ := h.append
      obtain ⟨first, hfirst, hstart⟩ := hrun.start
      obtain ⟨last, hlast, hstop⟩ := hrun.stop
      obtain ⟨hwithin, hchain⟩ := ih hlater
      constructor
      · refine List.forall_mem_cons.2 ⟨?_, hwithin⟩
        rw [← hstart, ← hstop]
        exact hordered.span hfirst hlast
      · cases hrest with
        | nil => exact List.isChain_singleton segment
        | @cons next nextRun segments runs hnext hrest =>
            obtain ⟨nextFirst, hnextFirst, hnextStart⟩ := hnext.start
            have hhead : nextFirst ∈ (nextRun :: runs).flatten.head? := by
              rw [List.flatten_cons, List.head?_append, hnextFirst]
              rfl
            rw [List.isChain_cons_cons, ← hstop, ← hnextStart]
            exact ⟨hbetween last hlast nextFirst hhead, hchain⟩

/-- Segments of different speakers span the maximal runs. -/
theorem runs_of_spans {runs : List (List SpeakerSegment)}
    (hspans : List.Forall₂ Spans segments runs)
    (hspeakers : segments.IsChain fun segment next => segment.speaker ≠ next.speaker) :
    MaximalRuns.runs SpeakerSegment.speaker runs.flatten = runs := by
  have hhead : ∀ {segment run}, Spans segment run →
      run.head?.map SpeakerSegment.speaker = some segment.speaker := by
    intro segment run hrun
    obtain ⟨first, hfirst, -⟩ := hrun.start
    rw [hfirst, Option.map_some, hrun.speaker first (List.mem_of_mem_head? hfirst)]
  have hspan : ∀ run ∈ runs, ∃ segment, Spans segment run := forall_of_forall₂ hspans
  apply runs_flatten
  · rintro _ hrun rfl
    obtain ⟨segment, hrun⟩ := hspan _ hrun
    obtain ⟨first, hfirst, -⟩ := hrun.start
    cases hfirst
  · intro run hrun word hword
    obtain ⟨segment, hrun⟩ := hspan run hrun
    rw [hhead hrun, hrun.speaker word hword]
  · clear hspan
    induction hspans with
    | nil => exact List.isChain_nil
    | @cons segment run segments runs hrun hrest ih =>
        cases hrest with
        | nil => exact List.isChain_singleton run
        | @cons next nextRun segments runs hnext hrest =>
            rw [List.isChain_cons_cons] at hspeakers ⊢
            refine ⟨?_, ih hspeakers.2⟩
            rw [Separated, hhead hrun, hhead hnext]
            exact fun h => hspeakers.1 (Option.some.inj h)

theorem spans_map_asWord_iff {segment : SpeakerSegment} {run : List Entry}
    (hcovers : CoversRun segment run) (hplain : ∀ word ∈ run, word.Plain) :
    Spans segment (run.map Entry.asWord) ↔
      (∀ word ∈ run.head?, ExactTime word.start) ∧ ∀ word ∈ run.getLast?, ExactTime word.stop := by
  obtain ⟨first, hfirst, hstart⟩ := hcovers.start
  obtain ⟨last, hlast, hstop⟩ := hcovers.stop
  have hfirstExact : first.asWord.start = segment.start ↔ ExactTime first.start :=
    getD_jsonNumber_eq_iff (hplain first (List.mem_of_mem_head? hfirst)).start hstart
  have hlastExact : last.asWord.stop = segment.stop ↔ ExactTime last.stop :=
    getD_jsonNumber_eq_iff (hplain last (List.mem_of_mem_getLast? hlast)).stop hstop
  rw [Option.mem_def] at hfirst hlast
  simp only [hfirst, hlast, Option.mem_some_iff, forall_eq']
  rw [← hfirstExact, ← hlastExact]
  constructor
  · rintro ⟨-, hhead, hend⟩
    rw [List.head?_map, hfirst] at hhead
    rw [List.getLast?_map, hlast] at hend
    obtain ⟨_, ⟨⟩, hhead⟩ := hhead
    obtain ⟨_, ⟨⟩, hend⟩ := hend
    exact ⟨hhead, hend⟩
  · rintro ⟨hhead, hend⟩
    refine ⟨?_, ⟨first.asWord, ?_, hhead⟩, ⟨last.asWord, ?_, hend⟩⟩
    · intro word hword
      obtain ⟨entry, hentry, rfl⟩ := List.mem_map.1 hword
      exact hcovers.speaker entry hentry
    · rw [List.head?_map, hfirst]
      rfl
    · rw [List.getLast?_map, hlast]
      rfl

theorem speakers_of_covers (hcovers : List.Forall₂ CoversRun segments runs)
    (h : runs.IsChain (Separated Entry.speaker)) :
    segments.IsChain fun segment next => segment.speaker ≠ next.speaker := by
  have hhead : ∀ {segment run}, CoversRun segment run →
      run.head?.map Entry.speaker = some segment.speaker := by
    intro segment run hrun
    obtain ⟨first, hfirst, -⟩ := hrun.start
    rw [hfirst, Option.map_some, hrun.speaker first (List.mem_of_mem_head? hfirst)]
  induction hcovers with
  | nil => exact List.isChain_nil
  | @cons segment run segments runs hrun hrest ih =>
      cases hrest with
      | nil => exact List.isChain_singleton segment
      | @cons next nextRun segments runs hnext hrest =>
          rw [List.isChain_cons_cons] at h ⊢
          refine ⟨?_, ih h.2⟩
          intro heq
          apply h.1
          rw [hhead hrun, hhead hnext, heq]

theorem spans_of_runSegments (hruns : ∀ run ∈ runs, Uniform Entry.speaker run)
    (h : List.Forall₂ (fun segment run => runSegment run = some segment) segments runs) :
    List.Forall₂ (fun segment run => CoversRun segment run ∧
      splitWords segment.text = run.flatMap fun word => splitWords word.text) segments runs := by
  induction h with
  | nil => exact .nil
  | cons hsegment _ ih =>
      obtain ⟨hrun, hrest⟩ := List.forall_mem_cons.1 hruns
      exact .cons (coversRun_of_runSegment hrun hsegment) (ih hrest)

theorem tokens_of_spans (h : List.Forall₂ (fun segment run =>
    splitWords segment.text = run.flatMap fun word => splitWords word.text) segments runs) :
    segments.flatMap (fun segment => splitWords segment.text) =
      runs.flatten.flatMap fun word => splitWords word.text := by
  induction h with
  | nil => rfl
  | cons hsegment _ ih =>
      rw [List.flatMap_cons, List.flatten_cons, List.flatMap_append, hsegment, ih]

end Segments

section Fallback

variable {isPrintable : Char → Bool} {alternatives : List (List (Text × Json))}

theorem covers_of_mapM {words : List Json} {segments : List SpeakerSegment}
    (h : (wordRuns isPrintable words).mapM runSegment = some segments) :
    List.Forall₂ CoversRun segments (wordRuns isPrintable words) ∧
      segments.flatMap (fun segment => splitWords segment.text) =
        (words.filterMap (wordEntry isPrintable)).flatMap fun word => splitWords word.text := by
  have hflatten : (wordRuns isPrintable words).flatten = words.filterMap (wordEntry isPrintable) :=
    flatten_runs Entry.speaker _
  have hruns : ∀ run ∈ wordRuns isPrintable words, Uniform Entry.speaker run :=
    fun run hrun => uniform_of_mem_runs Entry.speaker hrun
  have hspans := spans_of_runSegments hruns (forall₂_of_mapM h)
  refine ⟨hspans.imp fun _ _ h => h.1, ?_⟩
  rw [← hflatten]
  exact tokens_of_spans (hspans.imp fun _ _ h => h.2)

theorem flatten_map_asWord (isPrintable : Char → Bool) (words : List Json) :
    ((wordRuns isPrintable words).map (List.map Entry.asWord)).flatten =
      (words.filterMap (wordEntry isPrintable)).map Entry.asWord := by
  rw [← List.map_flatten, wordRuns, flatten_runs]

theorem runs_map_asWord (words : List Json) :
    runs SpeakerSegment.speaker ((words.filterMap (wordEntry isPrintable)).map Entry.asWord) =
      (wordRuns isPrintable words).map (List.map Entry.asWord) := by
  apply runs_map
  exact fun _ => rfl

theorem spans_map_iff {runs : List (List Entry)} {segments : List SpeakerSegment}
    (hcovers : List.Forall₂ CoversRun segments runs)
    (hplain : ∀ run ∈ runs, ∀ word ∈ run, word.Plain) :
    List.Forall₂ Spans segments (runs.map (List.map Entry.asWord)) ↔
      ∀ run ∈ runs, (∀ word ∈ run.head?, ExactTime word.start) ∧
        ∀ word ∈ run.getLast?, ExactTime word.stop := by
  induction hcovers with
  | nil => simp
  | cons hrun _ ih =>
      obtain ⟨hword, hrest⟩ := List.forall_mem_cons.1 hplain
      rw [List.map_cons, List.forall₂_cons, List.forall_mem_cons, spans_map_asWord_iff hrun hword,
        ih hrest]

theorem plain_of_mem_wordRuns {words : List Json}
    (h : ∀ word ∈ words, (wordEntry isPrintable word).isSome → ¬ HasBoolean word) :
    ∀ run ∈ wordRuns isPrintable words, ∀ word ∈ run, word.Plain := by
  intro run hrun word hword
  apply plain_of_mem_filterMap h
  rw [← flatten_runs Entry.speaker (words.filterMap (wordEntry isPrintable))]
  exact List.mem_flatten.2 ⟨run, hrun, hword⟩

/-- No accepted word has a boolean when the counts add up. -/
theorem not_hasBoolean_of_counts
    (h : dropCount (wordEntry isPrintable) (rawWords alternatives) +
      (faithfulWords isPrintable alternatives).length = (rawWords alternatives).length) :
    ∀ word ∈ rawWords alternatives, (wordEntry isPrintable word).isSome → ¬ HasBoolean word := by
  intro word hword haccepted
  have htotal : ((rawWords alternatives).filterMap (wordEntry isPrintable)).length +
      dropCount (wordEntry isPrintable) (rawWords alternatives) = (rawWords alternatives).length :=
    length_filterMap_add_countP _ _
  have hle : ((rawWords alternatives).filterMap (wordEntry isPrintable)).length ≤
      ((rawWords alternatives).filterMap (faithfulWord isPrintable)).length := by
    change _ ≤ (faithfulWords isPrintable alternatives).length
    omega
  exact not_hasBoolean_of_isSome
    (isSome_of_length_filterMap_le (fun _ => faithfulWord_eq_none) hle word hword haccepted)

theorem groupedIntoRuns_of_exact {segments : List SpeakerSegment}
    (hsegments : (wordRuns isPrintable (rawWords alternatives)).mapM runSegment = some segments)
    (hplain : ∀ word ∈ rawWords alternatives, (wordEntry isPrintable word).isSome →
      ¬ HasBoolean word)
    (hexact : ∀ run ∈ wordRuns isPrintable (rawWords alternatives), ExactRun run) :
    GroupedIntoRuns (faithfulWords isPrintable alternatives) segments := by
  obtain ⟨hcovers, htokens⟩ := covers_of_mapM hsegments
  have hspans := (spans_map_iff hcovers (plain_of_mem_wordRuns hplain)).2
    fun run hrun => ⟨(hexact run hrun).start, (hexact run hrun).stop⟩
  have hflatten := flatten_map_asWord isPrintable (rawWords alternatives)
  rw [faithfulWords, filterMap_faithfulWord hplain]
  refine ⟨speakers_of_covers hcovers (runs_separated Entry.speaker _), ⟨_, hflatten, hspans⟩, ?_, ?_⟩
  · rw [htokens, List.flatMap_map]
    rfl
  · rw [← hflatten]
    exact inTimeOrder_of_spans hspans

theorem exact_of_groupedIntoRuns {segments : List SpeakerSegment}
    (hsegments : (wordRuns isPrintable (rawWords alternatives)).mapM runSegment = some segments)
    (hplain : ∀ word ∈ rawWords alternatives, (wordEntry isPrintable word).isSome →
      ¬ HasBoolean word)
    (h : GroupedIntoRuns (faithfulWords isPrintable alternatives) segments) :
    ∀ run ∈ wordRuns isPrintable (rawWords alternatives), ExactRun run := by
  obtain ⟨hcovers, -⟩ := covers_of_mapM hsegments
  obtain ⟨found, hflatten, hspans⟩ := h.partition
  -- The runs that the segments span are the maximal ones.
  have hfound : found = (wordRuns isPrintable (rawWords alternatives)).map (List.map Entry.asWord) := by
    rw [← runs_of_spans hspans h.speakers, hflatten, faithfulWords, filterMap_faithfulWord hplain,
      runs_map_asWord]
  rw [hfound] at hspans
  have htimes := (spans_map_iff hcovers (plain_of_mem_wordRuns hplain)).1 hspans
  intro run hrun
  have hsome : (runSegment run).isSome :=
    mapM_isSome_iff.1 (by rw [hsegments]; rfl) run hrun
  have hconverts := (isSome_runSegment_iff (ne_nil_of_mem_runs Entry.speaker hrun)).1 hsome
  exact ⟨(htimes run hrun).1, (htimes run hrun).2, hconverts.stops⟩

theorem isSome_mapM_runSegment {words : List Json}
    (hplain : ∀ word ∈ words, (wordEntry isPrintable word).isSome → ¬ HasBoolean word)
    (hexact : ∀ run ∈ wordRuns isPrintable words, ExactRun run) :
    ((wordRuns isPrintable words).mapM runSegment).isSome := by
  rw [mapM_isSome_iff]
  intro run hrun
  rw [isSome_runSegment_iff (ne_nil_of_mem_runs Entry.speaker hrun)]
  refine ⟨?_, (hexact run hrun).stops⟩
  intro word hword
  have htimes := plain_of_mem_wordRuns hplain run hrun word (List.mem_of_mem_head? hword)
  obtain ⟨x, hx⟩ := Option.isSome_iff_exists.1 htimes.start
  rw [(toFloat_eq_some_iff hx).2 ((hexact run hrun).start word hword)]
  rfl

/-- The grouping returns, and groups the well-formed words, exactly when no accepted word has a boolean
for its speaker or a time, and the times that `float` changes do not matter. -/
theorem groupsWords_iff (isPrintable : Char → Bool) (alternatives : List (List (Text × Json))) :
    GroupsWords isPrintable alternatives ↔
      (∀ word ∈ rawWords alternatives, (wordEntry isPrintable word).isSome → ¬ HasBoolean word) ∧
        ∀ run ∈ wordRuns isPrintable (rawWords alternatives), ExactRun run := by
  unfold GroupsWords
  rw [segmentsFromWords_eq]
  constructor
  · rintro ⟨segments, dropped, wordsSeen, hreturns, hgrouped, hcounts⟩
    obtain ⟨found, hsegments, heq⟩ := Option.map_eq_some_iff.1 hreturns
    cases heq
    have hplain := not_hasBoolean_of_counts hcounts
    exact ⟨hplain, exact_of_groupedIntoRuns hsegments hplain hgrouped⟩
  · rintro ⟨hplain, hexact⟩
    obtain ⟨segments, hsegments⟩ :=
      Option.isSome_iff_exists.1 (isSome_mapM_runSegment hplain hexact)
    refine ⟨segments, _, _, by rw [hsegments]; rfl,
      groupedIntoRuns_of_exact hsegments hplain hexact, ?_⟩
    rw [faithfulWords, filterMap_faithfulWord hplain, List.length_map, Nat.add_comm]
    exact length_filterMap_add_countP _ _

end Fallback

def oneWord (start : Json) : List (List (Text × Json)) :=
  [[("words", .arr [.obj [("speaker", .int 0), ("start", start), ("end", .int 1),
    ("word", .str "hi")]])]]

/-- An integer beyond the floats raises. -/
theorem not_groupsWords_hugeStart :
    ¬ GroupsWords (fun _ => true) (oneWord (.int (10 ^ 309))) := by
  rintro ⟨segments, dropped, wordsSeen, hreturns, -⟩
  have hraises : (segmentsFromWords (fun _ => true) (oneWord (.int (10 ^ 309)))).isSome = false := by
    decide +kernel
  rw [hreturns] at hraises
  cases hraises

end Notetaker.Deepgram

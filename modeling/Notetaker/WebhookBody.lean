import Notetaker.JsonFloats
import Notetaker.SecondRunnerSteps
import Notetaker.TranscriptionService
import Notetaker.WebhookFreshness

/-!
# The body of a webhook

The dispatcher serialises the payload with `json.dumps` and signs the timestamp and the body. A receiver
that loads the body gets the payload back: the times of a transcript come out of a response of the
provider, so they are values of binary64 in every row. The signed message therefore names the timestamp
and the payload.
-/

open PythonText PythonFloat PythonUuid JsonText

namespace Notetaker

/-! ## The payload as a dictionary -/

def SpeakerSegment.modelDump (segment : SpeakerSegment) : List (Text × Json) :=
  [("speaker", .str segment.speaker), ("start", .float segment.start),
    ("end", .float segment.stop), ("text", .str segment.text)]

theorem SpeakerSegment.keys_modelDump (segment : SpeakerSegment) :
    segment.modelDump.map Prod.fst = ["speaker".toList, "start".toList, "end".toList, "text".toList] :=
  rfl

/-- How the times and the transcript reach the payload. The column of the transcript gives the keys of a
dictionary back in an order of its own. -/
structure PayloadFormat where
  isoformat : Timestamp → Text
  column : SpeakerSegment → List (Text × Json)
  column_perm : ∀ segment, (column segment).Perm segment.modelDump

def optionalText (s : Option Text) : Json := s.elim .null .str

namespace WebhookPayload

variable (format : PayloadFormat)

def transcriptJson (transcript : Option (List SpeakerSegment)) : Json :=
  transcript.elim .null fun segments => .arr (segments.map fun g => .obj (format.column g))

def members (payload : WebhookPayload) : List (Text × Json) :=
  [("call_id", .str payload.callId), ("status", .str payload.status.value),
    ("end_reason", optionalText payload.endReason),
    ("failure_reason", optionalText payload.failureReason), ("user_ref", .str payload.userRef),
    ("transcript", transcriptJson format payload.transcript),
    ("audio_url", optionalText payload.audioUrl),
    ("created_at", .str (format.isoformat payload.createdAt)),
    ("finished_at", .str (format.isoformat payload.finishedAt))]

theorem keys_members (payload : WebhookPayload) : (payload.members format).map Prod.fst =
    ["call_id".toList, "status".toList, "end_reason".toList, "failure_reason".toList,
      "user_ref".toList, "transcript".toList, "audio_url".toList, "created_at".toList,
      "finished_at".toList] := rfl

def toJson (payload : WebhookPayload) : Json := .obj (payload.members format)

end WebhookPayload

/-- `json.dumps(build_payload(call), default=str)`. -/
def PayloadFormat.codec (format : PayloadFormat) (hmacSha256Hex : Text → Text → Text) : WebhookCodec where
  hmacSha256Hex := hmacSha256Hex
  dumpsPayload payload := (payload.toJson format).dumps

/-! ## Reading it back -/

def Binary64Times (segments : List SpeakerSegment) : Prop :=
  ∀ segment ∈ segments, segment.start.Binary64 ∧ segment.stop.Binary64

section Reading

variable {lim : Limits}

theorem fits_optionalText (level : ℕ) (s : Option Text) : (optionalText s).Fits lim level := by
  cases s <;> trivial

theorem fits_float {level : ℕ} {x : PyFloat} (h : x.Binary64) : (Json.float x).Fits lim level := by
  cases x with
  | finite q => exact h
  | _ => trivial

theorem fits_column (format : PayloadFormat) {level : ℕ} (hlevel : level < lim.depth)
    {segment : SpeakerSegment} (hstart : segment.start.Binary64) (hstop : segment.stop.Binary64) :
    (Json.obj (format.column segment)).Fits lim level := by
  have hperm := format.column_perm segment
  have hkeys : ((format.column segment).map Prod.fst).Nodup := by
    rw [(hperm.map Prod.fst).nodup_iff, segment.keys_modelDump]
    decide
  refine ⟨hlevel, hkeys, Json.fitsMembers_iff.2 fun m hm => ?_⟩
  have hm := hperm.subset hm
  simp only [SpeakerSegment.modelDump, List.mem_cons, List.not_mem_nil, or_false] at hm
  rcases hm with rfl | rfl | rfl | rfl
  · trivial
  · exact fits_float hstart
  · exact fits_float hstop
  · trivial

theorem fits_toJson (format : PayloadFormat) (hdepth : 2 < lim.depth) {payload : WebhookPayload}
    (htimes : ∀ segments ∈ payload.transcript, Binary64Times segments) :
    (payload.toJson format).Fits lim 0 := by
  have htranscript : (WebhookPayload.transcriptJson format payload.transcript).Fits lim 1 := by
    cases htext : payload.transcript with
    | none => trivial
    | some segments =>
        refine ⟨by omega, Json.fitsItems_iff.2 fun x hx => ?_⟩
        obtain ⟨segment, hsegment, rfl⟩ := List.mem_map.1 hx
        obtain ⟨hstart, hstop⟩ := htimes segments htext segment hsegment
        exact fits_column format hdepth hstart hstop
  have hkeys : ((payload.members format).map Prod.fst).Nodup := by
    rw [payload.keys_members format]
    decide
  refine ⟨by omega, hkeys, Json.fitsMembers_iff.2 fun m hm => ?_⟩
  simp only [WebhookPayload.members, List.mem_cons, List.not_mem_nil, or_false] at hm
  rcases hm with rfl | rfl | rfl | rfl | rfl | rfl | rfl | rfl | rfl
  case inr.inr.inr.inr.inr.inl => exact htranscript
  all_goals first | trivial | exact fits_optionalText _ _

theorem loads_dumpsPayload (format : PayloadFormat) (hmacSha256Hex : Text → Text → Text)
    (hdepth : 2 < lim.depth) {payload : WebhookPayload}
    (htimes : ∀ segments ∈ payload.transcript, Binary64Times segments) :
    loads lim ((format.codec hmacSha256Hex).dumpsPayload payload) = .ok (payload.toJson format) :=
  Json.loads_dumps (fits_toJson format hdepth htimes)

end Reading

/-! ## Times out of a response -/

section Times

open Deepgram

theorem exists_of_mem_mapM {α β : Type} {f : α → Option β} {xs : List α} {ys : List β}
    (h : xs.mapM f = some ys) {y : β} (hy : y ∈ ys) : ∃ x ∈ xs, f x = some y := by
  have hpairs := forall₂_of_mapM h
  clear h
  induction hpairs with
  | nil => exact absurd hy List.not_mem_nil
  | @cons y' x ys xs hx hpairs ih =>
      rcases List.mem_cons.1 hy with rfl | hy
      · exact ⟨x, List.mem_cons_self, hx⟩
      · obtain ⟨x', hx', hy'⟩ := ih hy
        exact ⟨x', List.mem_cons_of_mem x hx', hy'⟩

theorem isDouble_one : IsDouble 1 :=
  ⟨2 ^ 52, -52, by decide, by decide, by decide, .inl le_rfl, by norm_num⟩

theorem binary64_toFloat {v : Json} (hv : v.Binary64) {x : PyFloat} (h : toFloat v = some x) :
    x.Binary64 := by
  cases v with
  | int n =>
      have hdouble := binary64_toDouble (decide (n < 0)) (n := n.natAbs) Nat.one_pos
      change intToFloat n = some x at h
      unfold intToFloat at h
      split at h
      · cases h
      · obtain rfl := Option.some.inj h
        exact hdouble
  | bool b =>
      obtain rfl := Option.some.inj h
      cases b with
      | true => exact isDouble_one
      | false => exact isDouble_zero
  | float y =>
      obtain rfl := Option.some.inj h
      exact hv
  | _ => cases h

theorem binary64_field {members : List (Text × Json)} (h : (Json.obj members).Binary64)
    (key : Text) : (field key members).Binary64 := by
  unfold field
  cases hlookup : members.lookup key with
  | none => trivial
  | some v =>
      obtain ⟨before, after, rfl, -⟩ := List.lookup_eq_some_iff.1 hlookup
      exact Json.binary64_obj.1 h (key, v) (by simp)

theorem binary64_asDicts {v : Json} (hv : v.Binary64) {members : List (Text × Json)}
    (h : members ∈ asDicts v) : (Json.obj members).Binary64 := by
  cases v with
  | arr items =>
      obtain ⟨item, hitem, hmembers⟩ := List.mem_filterMap.1 h
      have hbinary := Json.binary64_arr.1 hv item hitem
      cases item with
      | obj members' =>
          obtain rfl := Option.some.inj hmembers
          exact hbinary
      | _ => cases hmembers
  | _ => exact absurd h List.not_mem_nil

theorem binary64_of_mem_alternativesOf {results : List (Text × Json)}
    (hresults : (Json.obj results).Binary64) {alternative : List (Text × Json)}
    (h : alternative ∈ alternativesOf results) : (Json.obj alternative).Binary64 := by
  obtain ⟨channel, hchannel, halternative⟩ := List.mem_flatMap.1 h
  have hdict := binary64_asDicts (binary64_field hresults "channels") hchannel
  exact binary64_asDicts (binary64_field hdict "alternatives") halternative

theorem binary64_of_mem_rawWords {alternatives : List (List (Text × Json))}
    (halternatives : ∀ alternative ∈ alternatives, (Json.obj alternative).Binary64) {word : Json}
    (h : word ∈ rawWords alternatives) : word.Binary64 := by
  obtain ⟨alternative, hmem, hword⟩ := List.mem_flatMap.1 h
  have hwords := binary64_field (halternatives alternative hmem) "words"
  cases hfield : field "words" alternative with
  | arr words =>
      rw [hfield] at hword hwords
      exact Json.binary64_arr.1 hwords word hword
  | _ =>
      rw [hfield] at hword
      exact absurd hword List.not_mem_nil

structure Deepgram.Entry.Binary64 (entry : Entry) : Prop where
  start : entry.start.Binary64
  stop : entry.stop.Binary64

theorem binary64_utteranceEntry {entry : Json} (hentry : entry.Binary64) {typed : Entry}
    (h : utteranceEntry entry = some typed) : typed.Binary64 := by
  obtain ⟨members, rfl, -, hstart, hstop, -⟩ := utteranceEntry_eq_some h
  exact ⟨hstart ▸ binary64_field hentry _, hstop ▸ binary64_field hentry _⟩

variable {isPrintable : Char → Bool} {lim : Limits}

theorem binary64_wordEntry {entry : Json} (hentry : entry.Binary64) {typed : Entry}
    (h : wordEntry isPrintable entry = some typed) : typed.Binary64 := by
  cases entry with
  | obj members =>
      unfold wordEntry at h
      dsimp only at h
      split at h
      · split_ifs at h
        obtain rfl := Option.some.inj h
        exact ⟨binary64_field hentry _, binary64_field hentry _⟩
      · cases h
  | _ => cases h

theorem binary64_entry_segment {entry : Entry} (hentry : entry.Binary64) {segment : SpeakerSegment}
    (h : entry.segment = some segment) : segment.start.Binary64 ∧ segment.stop.Binary64 := by
  obtain ⟨start, hstart, h⟩ := Option.bind_eq_some_iff.1 h
  obtain ⟨stop, hstop, h⟩ := Option.bind_eq_some_iff.1 h
  obtain rfl := Option.some.inj h
  exact ⟨binary64_toFloat hentry.start hstart, binary64_toFloat hentry.stop hstop⟩

theorem binary64_of_coversRun {run : List Entry} (hrun : ∀ word ∈ run, word.Binary64)
    {segment : SpeakerSegment} (h : CoversRun segment run) :
    segment.start.Binary64 ∧ segment.stop.Binary64 := by
  obtain ⟨first, hfirst, hstart⟩ := h.start
  obtain ⟨last, hlast, hstop⟩ := h.stop
  exact ⟨binary64_toFloat (hrun first (List.mem_of_mem_head? hfirst)).start hstart,
    binary64_toFloat (hrun last (List.mem_of_mem_getLast? hlast)).stop hstop⟩

theorem binary64Times_segmentsOf {results : List (Text × Json)}
    (hresults : (Json.obj results).Binary64) {segments : Transcript}
    (h : segmentsOf isPrintable results = some segments) : Binary64Times segments := by
  intro segment hsegment
  have hutterances := binary64_field hresults "utterances"
  unfold segmentsOf at h
  split at h
  · rename_i utterances hfield
    rw [hfield] at hutterances
    obtain ⟨typed, htyped, hsegment⟩ := exists_of_mem_mapM h hsegment
    obtain ⟨entry, hentry, htyped⟩ := List.mem_filterMap.1 htyped
    have hbinary := Json.binary64_arr.1 hutterances entry hentry
    exact binary64_entry_segment (binary64_utteranceEntry hbinary htyped) hsegment
  · obtain ⟨run, hrun, hsegment⟩ := exists_of_mem_mapM h hsegment
    apply binary64_of_coversRun ?_ (coversRun_of_runSegment (MaximalRuns.uniform_of_mem_runs _ hrun) hsegment).1
    intro word hword
    have hflat : word ∈ (wordRuns isPrintable (rawWords (alternativesOf results))).flatten :=
      List.mem_flatten.2 ⟨run, hrun, hword⟩
    rw [wordRuns, MaximalRuns.flatten_runs] at hflat
    obtain ⟨entry, hentry, htyped⟩ := List.mem_filterMap.1 hflat
    refine binary64_wordEntry (binary64_of_mem_rawWords ?_ hentry) htyped
    exact fun alternative halternative => binary64_of_mem_alternativesOf hresults halternative

theorem binary64Times_transcribe {answer : HttpResult} {segments : Transcript}
    (h : (Deepgram.transcribe isPrintable lim answer).result = .ok segments) :
    Binary64Times segments := by
  cases answer with
  | response status body =>
      unfold Deepgram.transcribe at h
      dsimp only at h
      split_ifs at h with htransient hpermanent
      · cases h
      · cases h
      unfold parseBody at h
      split at h
      · cases h
      · cases h
      · rename_i payload hload
        have hpayload := binary64_of_loads hload
        by_cases hresults : ∃ results, field "results" payload = .obj results
        · obtain ⟨results, hresults⟩ := hresults
          have hbinary := binary64_field hpayload "results"
          rw [hresults] at hbinary
          obtain ⟨message, hresult⟩ := result_parseResponse isPrintable hresults
          rw [hresult] at h
          cases hsegments : segmentsOf isPrintable results with
          | none =>
              rw [hsegments] at h
              cases h
          | some parsed =>
              rw [hsegments, concluded_some] at h
              split_ifs at h
              obtain rfl := Except.ok.inj h
              exact binary64Times_segmentsOf hbinary hsegments
        · unfold parseResponse at h
          split at h
          · exact absurd ⟨_, ‹_›⟩ hresults
          · cases h
      · cases h
  | _ => cases h

end Times

/-! ## In every row -/

/-- The transcript of the step comes out of an answer of the provider. -/
def WorkerEvent.Answered (isPrintable : Char → Bool) (lim : Limits) : WorkerEvent → Prop
  | .runner (.transcribe _ (.transcript segments)) =>
      ∃ answer, (Deepgram.transcribe isPrintable lim answer).result = .ok segments
  | _ => True

/-- The transcripts in the table, and the ones on their way there. -/
structure TimesKept (s : WorkerState) : Prop where
  rows : ∀ row ∈ s.runner.rows, ∀ segments ∈ row.transcript, Binary64Times segments
  finishing : ∀ j id endReason audioUrl segments,
    s.runner.tasks j = .finishing id endReason audioUrl segments → Binary64Times segments

section Rows

variable {cfg : WorkerSettings} {isPrintable : Char → Bool} {lim : Limits}

/-- A commit leads to the bot, to the upload or to a dispatch. -/
theorem Task.committed_ne_finishing {task : Task} (row : Call) {w : Uuid × Transition}
    (h : task.work = some w) {id : Uuid} {endReason audioUrl : Text} {segments : List SpeakerSegment} :
    task.committed row ≠ finishing id endReason audioUrl segments := by
  cases task with
  | exited id' exitCode result =>
      unfold committed
      dsimp only
      split_ifs <;> exact nofun
  | sweeping next =>
      cases next with
      | finished => cases h
      | stale ids =>
          cases ids with
          | nil => cases h
          | cons id' ids => exact nofun
      | orphan ids =>
          cases ids with
          | nil => cases h
          | cons id' ids => exact nofun
  | signalling id' => exact nofun
  | uploadFailed id' => exact nofun
  | transcriptionFailed id' detail url => exact nofun
  | finishing id' endReason' url segments' => exact nofun
  | _ => cases h

/-- A poll uses idle tasks only. -/
theorem tasks_of_poll {s t : RunnerState} {i j k : ℕ} {diskOk : Bool} {now : Timestamp}
    (h : s.poll cfg.runner i k diskOk now = some t) (hbusy : s.tasks j ≠ .idle) :
    t.tasks j = s.tasks j := by
  unfold RunnerState.poll at h
  split at h
  · rename_i row hidle hold
    split at h
    · rename_i payload hpayload
      by_cases hadmits : admits cfg.runner.callConcurrencyLimit (countActive s.rows) diskOk
      · rw [if_pos hadmits] at h
        split at h
        · rename_i hfree
          split_ifs at h
          cases h
          have hne : j ≠ k := fun heq => hbusy (heq ▸ hfree)
          exact Function.update_of_ne hne _ _
        · cases h
      · rw [if_neg hadmits] at h
        cases h
        have hne : j ≠ i := fun heq => hbusy (heq ▸ hidle)
        rw [RunnerState.tasks_recordWinner]
        exact Function.update_of_ne hne _ _
    · cases h
      rfl
  · cases h
    rfl
  · cases h

/-- Behind the transcription there is the answer of the provider. -/
theorem finishing_of_transcribing {s t : RunnerState} {e : RunnerEvent}
    (h : s.step cfg.runner e = some t) {j : ℕ} {id : Uuid} {endReason audioUrl : Text}
    {segments : List SpeakerSegment} (hphase : s.tasks j = .transcribing id endReason audioUrl)
    (hnew : t.tasks j = .finishing id endReason audioUrl segments) :
    e = .transcribe j (.transcript segments) := by
  have hmoved : t.tasks j ≠ s.tasks j := by
    rw [hnew, hphase]
    exact nofun
  by_cases hpoll : ∃ i k diskOk now, e = .poll i k diskOk now
  · obtain ⟨i, k, diskOk, now, rfl⟩ := hpoll
    exact absurd (tasks_of_poll h (by rw [hphase]; exact nofun)) hmoved
  push Not at hpoll
  cases hactor : e.actor with
  | none =>
      cases e with
      | create data id now =>
          change s.create cfg.runner data id now = some t at h
          unfold RunnerState.create at h
          split at h <;> cases h <;> exact absurd rfl hmoved
      | crash =>
          cases h
          cases hnew
      | _ => cases hactor
  | some i =>
      obtain rfl : i = j := by
        by_contra hne
        exact hmoved (tasks_of_runner_step h hpoll hactor (Ne.symm hne))
      cases e with
      | transcribe k outcome =>
          obtain rfl := Option.some.inj hactor
          simp only [RunnerState.step, hphase] at h
          cases outcome <;> cases h <;> have hnew := (Function.update_self _ _ _).symm.trans hnew <;>
            cases hnew
          rfl
      | fault k =>
          obtain rfl := Option.some.inj hactor
          simp only [RunnerState.step, hphase] at h
          cases h
          have hnew := (Function.update_self _ _ _).symm.trans hnew
          cases hnew
      | poll i k diskOk now => exact absurd rfl (hpoll i k diskOk now)
      | create => cases hactor
      | crash => cases hactor
      | _ =>
          obtain rfl := Option.some.inj hactor
          simp [RunnerState.step, RunnerState.transact, RunnerState.retentionRow, Task.work, hphase]
            at h

/-- A task gets its transcript from the provider. -/
theorem finishing_of_step {s t : RunnerState} {e : RunnerEvent} (h : s.step cfg.runner e = some t)
    {j : ℕ} {id : Uuid} {endReason audioUrl : Text} {segments : List SpeakerSegment}
    (hnew : t.tasks j = .finishing id endReason audioUrl segments) :
    s.tasks j = .finishing id endReason audioUrl segments ∨
      e = .transcribe j (.transcript segments) := by
  have hmove := taskMove_of_step h j
  rw [hnew] at hmove
  generalize htask : Task.finishing id endReason audioUrl segments = task at hmove
  cases hmove with
  | kept => exact .inl rfl
  | follows task hmove =>
      subst htask
      generalize hphase : s.tasks j = old at hmove
      cases hmove
      exact .inr (finishing_of_transcribing h hphase hnew)
  | committed now id' tr row todo hevent hwork hrow hbody hcommitted =>
      exact absurd htask.symm (Task.committed_ne_finishing row hwork)
  | refused =>
      rcases Task.refused_cases (s.tasks j) with hr | ⟨_, hr⟩ | ⟨_, hr⟩ <;> rw [hr] at htask <;>
        cases htask
  | missing =>
      rcases Task.missing_cases (s.tasks j) with hr | ⟨_, hr⟩ <;> rw [hr] at htask <;> cases htask
  | dispatched id' next hphase => cases next <;> cases htask
  | _ => cases htask

theorem TimesKept.of_init {s : WorkerState} (h : (workerSystem cfg).init s) : TimesKept s := by
  obtain ⟨⟨hrows, htasks, -⟩, -⟩ := h
  refine ⟨by simp [hrows], fun j id endReason audioUrl segments hphase => ?_⟩
  rw [htasks j] at hphase
  cases hphase

theorem TimesKept.written {s : WorkerState} (hs : TimesKept s) {event : RunnerEvent} {row new : Call}
    {tr : Transition} {now : Timestamp} (hrow : row ∈ s.runner.rows)
    (htr : s.runner.transaction event row.id tr) (h : Written row now tr new) :
    ∀ segments ∈ new.transcript, Binary64Times segments := by
  have hkept := hs.rows row hrow
  cases h with
  | done endReason audioUrl transcript hstatus =>
      rintro segments ⟨⟩
      cases event with
      | transact j now' =>
          have hwork : (s.runner.tasks j).work = some (row.id, .finishDoneCall endReason audioUrl transcript) :=
            htr
          cases hphase : s.runner.tasks j with
          | finishing id endReason' audioUrl' segments =>
              rw [hphase] at hwork
              cases hwork
              exact hs.finishing j _ _ _ _ hphase
          | sweeping next =>
              rw [hphase] at hwork
              cases next with
              | finished => cases hwork
              | stale ids => cases ids <;> cases hwork
              | orphan ids => cases ids <;> cases hwork
          | _ =>
              rw [hphase] at hwork
              cases hwork
      | poll i k diskOk now' =>
          obtain ⟨active, diskOk', heq⟩ := htr
          cases heq
      | _ => cases htr
  | _ => exact hkept

theorem TimesKept.step {s t : WorkerState} {e : WorkerEvent} (hs : TimesKept s)
    (he : e.Answered isPrintable lim) (h : (workerSystem cfg).step s e = some t) : TimesKept t := by
  refine ⟨fun new hnew => ?_, fun j id endReason audioUrl segments hphase => ?_⟩
  · rcases rowOrigin_of_step h hnew with ⟨row, hrow, hchange⟩ | hcreated
    · cases hchange with
      | kept => exact hs.rows _ hrow
      | written event tr now new hevent htr hwritten => exact hs.written hrow htr hwritten
      | reclaimed => exact hs.rows row hrow
      | delivered j receiver txNow now next new hevent hphase hterminal hpending hsame =>
          obtain ⟨_, _, _, rfl⟩ := hsame
          exact hs.rows row hrow
    · obtain ⟨active, data, id, now, hcreate⟩ := hcreated.service
      unfold CallService.create at hcreate
      split_ifs at hcreate
      cases hcreate
      rintro segments ⟨⟩
  · cases e with
    | runner e =>
        obtain ⟨u, hu, rfl⟩ := Option.map_eq_some_iff.1 h
        rw [runner_recordDone] at hphase
        rcases finishing_of_step hu hphase with hold | rfl
        · exact hs.finishing j _ _ _ _ hold
        · obtain ⟨answer, hanswer⟩ := he
          exact binary64Times_transcribe hanswer
    | deliver k receiver txNow now =>
        obtain ⟨next, htasks⟩ := tasks_of_deliver h
        rw [htasks] at hphase
        by_cases hj : j = k
        · subst hj
          rw [Function.update_self] at hphase
          cases next <;> cases hphase
        · rw [Function.update_of_ne hj] at hphase
          exact hs.finishing j _ _ _ _ hphase

theorem TimesKept.run {s t : WorkerState} {es : List WorkerEvent} (hinit : (workerSystem cfg).init s)
    (hanswered : ∀ e ∈ es, e.Answered isPrintable lim) (hrun : (workerSystem cfg).run s es = some t) :
    TimesKept t :=
  TransitionSystem.run_invariant_of_meets (C := fun _ e => e.Answered isPrintable lim)
    (fun _ _ _ hs he h => hs.step he h) (.of_init hinit)
    (TransitionSystem.meets_of_forall fun e he _ => hanswered e he) hrun

end Rows

/-! ## What a receiver gets -/

/-- What the signature covers. -/
def WebhookRequest.signedMessage (request : WebhookRequest) : Text :=
  concat [request.timestamp, ":", request.body]

/-- The signature is the one of the call's secret, and the body reads as the payload of the call. -/
structure WebhookRequest.Conveys (request : WebhookRequest) (format : PayloadFormat)
    (hmacSha256Hex : Text → Text → Text) (lim : Limits) (call : Call) : Prop where
  signed : request.signature = hmacSha256Hex call.webhookSecret request.signedMessage
  loaded : loads lim request.body = .ok ((buildPayload call).toJson format)

/-- Up to times that are written alike, the two payloads are the same. -/
structure SamePayload (format : PayloadFormat) (p q : WebhookPayload) : Prop where
  callId : p.callId = q.callId
  status : p.status = q.status
  endReason : p.endReason = q.endReason
  failureReason : p.failureReason = q.failureReason
  userRef : p.userRef = q.userRef
  transcript : p.transcript = q.transcript
  audioUrl : p.audioUrl = q.audioUrl
  createdAt : format.isoformat p.createdAt = format.isoformat q.createdAt
  finishedAt : format.isoformat p.finishedAt = format.isoformat q.finishedAt

section Receiver

variable (format : PayloadFormat) (hmacSha256Hex : Text → Text → Text)

theorem optionalText_injective {s s' : Option Text} (h : optionalText s = optionalText s') : s = s' := by
  cases s <;> cases s' <;> cases h
  · rfl
  · rfl

theorem CallStatus.value_injective {s s' : CallStatus} (h : s.value = s'.value) : s = s' := by
  revert h
  cases s <;> cases s' <;> decide

/-- A segment is known from its dictionary, whatever the order of the keys. -/
theorem column_injective {segment segment' : SpeakerSegment}
    (h : format.column segment = format.column segment') : segment = segment' := by
  have hperm : segment.modelDump.Perm segment'.modelDump :=
    (format.column_perm segment).symm.trans (h ▸ format.column_perm segment')
  have hkeys : ∀ {m : Text × Json}, m ∈ segment.modelDump → m ∈ segment'.modelDump :=
    fun hm => hperm.subset hm
  have hspeaker := hkeys (m := ("speaker", .str segment.speaker)) (by simp [SpeakerSegment.modelDump])
  have hstart := hkeys (m := ("start", .float segment.start)) (by simp [SpeakerSegment.modelDump])
  have hstop := hkeys (m := ("end", .float segment.stop)) (by simp [SpeakerSegment.modelDump])
  have htext := hkeys (m := ("text", .str segment.text)) (by simp [SpeakerSegment.modelDump])
  simp [SpeakerSegment.modelDump] at hspeaker hstart hstop htext
  obtain ⟨speaker, start, stop, text⟩ := segment
  obtain ⟨speaker', start', stop', text'⟩ := segment'
  simp_all

theorem transcriptJson_injective {segments segments' : Option (List SpeakerSegment)}
    (h : WebhookPayload.transcriptJson format segments =
      WebhookPayload.transcriptJson format segments') : segments = segments' := by
  cases segments with
  | none =>
      cases segments' <;> cases h
      rfl
  | some segments =>
      cases segments' with
      | none => cases h
      | some segments' =>
          have hinj : Function.Injective fun g => Json.obj (format.column g) :=
            fun g g' hg => column_injective format (Json.obj.inj hg)
          rw [List.map_injective_iff.2 hinj (Json.arr.inj h)]

theorem samePayload_of_toJson {p q : WebhookPayload} (h : p.toJson format = q.toJson format) :
    SamePayload format p q := by
  have hmembers := Json.obj.inj h
  simp only [WebhookPayload.members, List.cons.injEq, Prod.mk.injEq, Json.str.injEq, true_and,
    and_true] at hmembers
  obtain ⟨hid, hstatus, hend, hfailure, huser, htranscript, haudio, hcreated, hfinished⟩ := hmembers
  exact ⟨hid, CallStatus.value_injective hstatus, optionalText_injective hend,
    optionalText_injective hfailure, huser, transcriptJson_injective format htranscript,
    optionalText_injective haudio, hcreated, hfinished⟩

/-- A separator that is in neither head. -/
theorem append_cons_inj {c : Char} {a a' b b' : Text} (ha : c ∉ a) (ha' : c ∉ a')
    (h : a ++ c :: b = a' ++ c :: b') : a = a' ∧ b = b' := by
  induction a generalizing a' with
  | nil =>
      cases a' with
      | nil => exact ⟨rfl, (List.cons.inj h).2⟩
      | cons x a' =>
          obtain rfl := (List.cons.inj h).1
          exact absurd List.mem_cons_self ha'
  | cons x a ih =>
      cases a' with
      | nil =>
          obtain rfl := (List.cons.inj h).1
          exact absurd List.mem_cons_self ha
      | cons y a' =>
          obtain ⟨rfl, hrest⟩ := List.cons.inj h
          obtain ⟨rfl, hb⟩ := ih (fun hc => ha (List.mem_cons_of_mem x hc))
            (fun hc => ha' (List.mem_cons_of_mem x hc)) hrest
          exact ⟨rfl, hb⟩

theorem notMem_intText (n : ℤ) : ':' ∉ intText n :=
  fun h => absurd (isAtomChar_of_mem_intText h) (by decide)

/-- The message that is signed names the timestamp and the body. -/
theorem signedMessage_injective {codec : WebhookCodec} {call call' : Call} {now now' : Timestamp}
    (h : (webhookRequest codec call now).signedMessage =
      (webhookRequest codec call' now').signedMessage) :
    truncate now = truncate now' ∧
      codec.dumpsPayload (buildPayload call) = codec.dumpsPayload (buildPayload call') := by
  have hsplit : intText (truncate now) ++ ':' :: codec.dumpsPayload (buildPayload call) =
      intText (truncate now') ++ ':' :: codec.dumpsPayload (buildPayload call') := by
    simpa [WebhookRequest.signedMessage, webhookRequest, concat] using h
  obtain ⟨htime, hbody⟩ := append_cons_inj (notMem_intText _) (notMem_intText _) hsplit
  exact ⟨intText_injective htime, hbody⟩

variable {cfg : WorkerSettings} {isPrintable : Char → Bool} {lim lim' : Limits}
  {s t : WorkerState} {es : List WorkerEvent}

/-- In every state of a run whose transcripts the provider has given, each request that a delivery of a
row posts carries the signature of the row's secret, and its body reads as the payload of the row. -/
theorem posts_convey (hcodec : cfg.codec = format.codec hmacSha256Hex) (hdepth : 2 < lim.depth)
    (hinit : (workerSystem cfg).init s) (hanswered : ∀ e ∈ es, e.Answered isPrintable lim')
    (hrun : (workerSystem cfg).run s es = some t) :
    ∀ row ∈ t.runner.rows, ∀ receiver txNow now,
      ∀ post ∈ (deliver cfg.codec cfg.webhookMaxAttempts receiver txNow now row).posts,
        post.request.Conveys format hmacSha256Hex lim row := by
  intro row hrow receiver txNow now post hpost
  have hpending : row.webhookDeliveredAt = none := by
    by_contra hdelivered
    rw [deliver, if_pos (Option.isSome_iff_ne_none.2 hdelivered)] at hpost
    exact absurd hpost List.not_mem_nil
  obtain ⟨j, -, -, rfl⟩ := (mem_posts_deliver hpending).1 hpost
  have htimes := (TimesKept.run hinit hanswered hrun).rows row hrow
  rw [hcodec]
  exact ⟨rfl, loads_dumpsPayload format hmacSha256Hex hdepth htimes⟩

/-- One message is signed for one payload and one second only, in all states of all such runs. -/
theorem samePayload_of_signedMessage (hcodec : cfg.codec = format.codec hmacSha256Hex)
    {s' t' : WorkerState} {es' : List WorkerEvent}
    (hinit : (workerSystem cfg).init s) (hanswered : ∀ e ∈ es, e.Answered isPrintable lim')
    (hrun : (workerSystem cfg).run s es = some t)
    (hinit' : (workerSystem cfg).init s') (hanswered' : ∀ e ∈ es', e.Answered isPrintable lim')
    (hrun' : (workerSystem cfg).run s' es' = some t') :
    ∀ row ∈ t.runner.rows, ∀ row' ∈ t'.runner.rows, ∀ now now',
      (webhookRequest cfg.codec row now).signedMessage =
        (webhookRequest cfg.codec row' now').signedMessage →
      truncate now = truncate now' ∧ SamePayload format (buildPayload row) (buildPayload row') := by
  intro row hrow row' hrow' now now' hmessage
  obtain ⟨htime, hbody⟩ := signedMessage_injective hmessage
  refine ⟨htime, samePayload_of_toJson format ?_⟩
  rw [hcodec] at hbody
  have hdepth : 2 < Deepgram.defaultLimits.depth := by decide
  have hload : loads Deepgram.defaultLimits ((format.codec hmacSha256Hex).dumpsPayload (buildPayload row)) =
      .ok ((buildPayload row).toJson format) :=
    loads_dumpsPayload format hmacSha256Hex hdepth ((TimesKept.run hinit hanswered hrun).rows row hrow)
  have htimes := (TimesKept.run hinit' hanswered' hrun').rows row' hrow'
  rw [hbody, loads_dumpsPayload format hmacSha256Hex hdepth htimes] at hload
  exact (Except.ok.inj hload).symm

end Receiver

/-! ## One utterance -/

def sampleFormat : PayloadFormat where
  isoformat now := intText now.floor
  column := SpeakerSegment.modelDump
  column_perm _ := List.Perm.refl _

def signingWorker : WorkerSettings :=
  { sampleWorker with codec := sampleFormat.codec fun secret message => secret ++ message }

def utteredBody : Text :=
  "\x7b\"results\": \x7b\"utterances\": [\x7b\"speaker\": 0, \"start\": 0.5, \"end\": 1.25, \"transcript\": \"hi\"\x7d]\x7d\x7d"

def utteredSegments : List SpeakerSegment := [⟨"S0", .finite (1 / 2), .finite (5 / 4), "hi"⟩]

theorem transcribe_utteredBody :
    (Deepgram.transcribe (fun _ => true) Deepgram.defaultLimits (.response 200 utteredBody)).result =
      .ok utteredSegments := by
  have hsome : (Deepgram.transcribe (fun _ => true) Deepgram.defaultLimits
      (.response 200 utteredBody)).result.toOption = some utteredSegments := by decide +kernel
  revert hsome
  cases (Deepgram.transcribe (fun _ => true) Deepgram.defaultLimits
      (.response 200 utteredBody)).result with
  | error e => exact nofun
  | ok segments =>
      intro hsome
      rw [Option.some.inj hsome]

def utteredCall : List WorkerEvent :=
  [.runner (.create sampleCreate 7 0), .runner (.poll 0 1 true 1), .runner (.start 1),
    .runner (.signal 1), .runner (.transact 1 30), .runner (.exit 1 (some 0) none),
    .runner (.transact 1 600), .runner (.upload 1 true), .runner (.source 1 .ready),
    .runner (.transcribe 1 (.transcript utteredSegments)), .runner (.transact 1 700)]

theorem utteredCall_isSome : ((workerSystem signingWorker).run emptyWorker utteredCall).isSome := by
  decide +kernel

theorem utteredCall_answered :
    ∀ e ∈ utteredCall, e.Answered (fun _ => true) Deepgram.defaultLimits := by
  intro e he
  simp only [utteredCall, List.mem_cons, List.not_mem_nil, or_false] at he
  rcases he with rfl | rfl | rfl | rfl | rfl | rfl | rfl | rfl | rfl | rfl | rfl
  case inr.inr.inr.inr.inr.inr.inr.inr.inr.inl => exact ⟨_, transcribe_utteredBody⟩
  all_goals trivial

def utteredState : WorkerState :=
  ((workerSystem signingWorker).run emptyWorker utteredCall).get utteredCall_isSome

theorem utteredCall_run : (workerSystem signingWorker).run emptyWorker utteredCall = some utteredState :=
  (Option.some_get utteredCall_isSome).symm

theorem utteredState_posts : ∃ row ∈ utteredState.runner.rows,
    (deliver signingWorker.codec 5 (answersAtOnce 200) 701 701 row).posts ≠ [] := by
  have hany : (utteredState.runner.rows.any fun row =>
      (deliver signingWorker.codec 5 (answersAtOnce 200) 701 701 row).posts.length = 1) = true := by
    decide +kernel
  obtain ⟨row, hrow, hposts⟩ := List.any_eq_true.1 hany
  refine ⟨row, hrow, fun hnil => ?_⟩
  rw [hnil] at hposts
  cases hposts

theorem posts_convey_utteredCall : ∃ row ∈ utteredState.runner.rows,
    ∃ posts, posts = (deliver signingWorker.codec 5 (answersAtOnce 200) 701 701 row).posts ∧
      posts ≠ [] ∧ ∀ post ∈ posts, post.request.Conveys sampleFormat
        (fun secret message => secret ++ message) Deepgram.defaultLimits row := by
  obtain ⟨row, hrow, hposts⟩ := utteredState_posts
  exact ⟨row, hrow, _, rfl, hposts, posts_convey sampleFormat _ rfl (by decide)
    (emptyWorker_init signingWorker) utteredCall_answered utteredCall_run row hrow _ _ _⟩

/-- The same call, done half a second later. -/
def laterCall : List WorkerEvent := utteredCall.dropLast ++ [.runner (.transact 1 (1401 / 2))]

theorem laterCall_isSome : ((workerSystem signingWorker).run emptyWorker laterCall).isSome := by
  decide +kernel

def laterState : WorkerState :=
  ((workerSystem signingWorker).run emptyWorker laterCall).get laterCall_isSome

theorem laterCall_run : (workerSystem signingWorker).run emptyWorker laterCall = some laterState :=
  (Option.some_get laterCall_isSome).symm

theorem laterCall_answered :
    ∀ e ∈ laterCall, e.Answered (fun _ => true) Deepgram.defaultLimits := by
  intro e he
  rcases List.mem_append.1 he with he | he
  · exact utteredCall_answered e (List.mem_of_mem_dropLast he)
  · rw [List.mem_singleton.1 he]
    trivial

/-- The two rows give one message at two times within one second. -/
theorem samePayload_of_signedMessage_laterCall :
    ∃ row ∈ utteredState.runner.rows, ∃ row' ∈ laterState.runner.rows,
      row.updatedAt ≠ row'.updatedAt ∧ truncate (2805 / 4) = truncate (2807 / 4) ∧
        SamePayload sampleFormat (buildPayload row) (buildPayload row') := by
  have hany : (utteredState.runner.rows.any fun row => laterState.runner.rows.any fun row' =>
      decide (row.updatedAt ≠ row'.updatedAt) &&
        decide ((webhookRequest signingWorker.codec row (2805 / 4)).signedMessage =
          (webhookRequest signingWorker.codec row' (2807 / 4)).signedMessage)) = true := by
    decide +kernel
  obtain ⟨row, hrow, hany⟩ := List.any_eq_true.1 hany
  obtain ⟨row', hrow', hboth⟩ := List.any_eq_true.1 hany
  obtain ⟨hdiffer, hmessage⟩ := (Bool.and_eq_true _ _).mp hboth
  exact ⟨row, hrow, row', hrow', of_decide_eq_true hdiffer,
    samePayload_of_signedMessage sampleFormat _ rfl (emptyWorker_init signingWorker)
      utteredCall_answered utteredCall_run (emptyWorker_init signingWorker) laterCall_answered
      laterCall_run row hrow row' hrow' _ _ (of_decide_eq_true hmessage)⟩

end Notetaker

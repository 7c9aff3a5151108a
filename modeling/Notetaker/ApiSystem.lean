import Notetaker.CreateRequest
import Notetaker.StoredAudio
import Notetaker.WorkerSystem

/-!
# The API over the table

A request is authenticated, validated and answered within one session, and the handlers of the
application turn its errors into responses. The session commits behind the response, so a call that was
answered `201` may still be lost. Beside the requests the worker goes on.

`Call.submission` is what a row keeps for ever. The table is the map of the committed submissions: a
create adds one, and no step takes one back or rewrites it.
-/

open PythonText PythonFloat PythonUuid JsonText

namespace Notetaker

structure ApiSettings where
  apiKey : Text
  coercions : Coercions
  worker : WorkerSettings

/-! ## Requests and responses -/

/-- The body of a request, as the framework hands it on. -/
inductive RequestBody where
  | undecodable
  | absent
  /-- Of another content type. -/
  | raw
  | json (v : Json)

inductive ApiRequest where
  | createCall (xApiKey : Option Text) (body : RequestBody)
  | getCall (xApiKey : Option Text) (callId : Text)

structure CallRead where
  id : Uuid
  meetingUrl : Text
  userRef : Text
  consentAck : Bool
  platform : CallPlatform
  status : CallStatus
  failureReason : Option Text
  endReason : Option Text
  audioUrl : Option Text
  transcript : Option (List SpeakerSegment)
  webhookUrl : Text
  webhookDeliveredAt : Option Timestamp
  webhookAttempts : ℕ
  botContainerName : Option Text
  createdAt : Timestamp
  updatedAt : Timestamp
  deriving DecidableEq

/-- `CallRead.model_validate(call)`. -/
def CallRead.of (call : Call) : CallRead where
  id := call.id
  meetingUrl := call.meetingUrl
  userRef := call.userRef
  consentAck := call.consentAck
  platform := call.platform
  status := call.status
  failureReason := call.failureReason
  endReason := call.endReason
  audioUrl := call.audioUrl
  transcript := call.transcript
  webhookUrl := call.webhookUrl
  webhookDeliveredAt := call.webhookDeliveredAt
  webhookAttempts := call.webhookAttempts
  botContainerName := call.botContainerName
  createdAt := call.createdAt
  updatedAt := call.updatedAt

inductive ApiContent where
  | created (callId : Uuid) (status : CallStatus)
  | call (read : CallRead)
  | detail (message : Text)
  /-- `detail` and `failure_reason` are the code. -/
  | contract (code : Text)
  | errors (errors : List FieldError)
  deriving DecidableEq

structure ApiResponse where
  status : ℕ
  content : ApiContent
  deriving DecidableEq

/-! ## Handlers -/

/-- `app_error_handler`. -/
def appErrorHandler : ServiceError → ApiResponse
  | .conflict message => ⟨409, .detail message⟩
  | .notFound message => ⟨404, .detail message⟩

/-- `request_validation_error_handler`. -/
def requestValidationErrorHandler (errors : List FieldError) : ApiResponse :=
  match contractCode errors with
  | some code => ⟨422, .contract code⟩
  | none => ⟨422, .errors errors⟩

def FieldError.inBody (e : FieldError) : FieldError := { e with loc := "body".toList :: e.loc }

section Handlers

variable (cfg : ApiSettings)

/-- `require_api_key`; the keys are compared as a whole. -/
def requireApiKey (xApiKey : Option Text) : Option ApiResponse :=
  if xApiKey = some cfg.apiKey then none
  else some ⟨401, .detail "Invalid or missing API key"⟩

def validateBody : RequestBody → Except (List FieldError) CallCreate
  | .undecodable => .error [⟨["body"], "json_invalid"⟩]
  | .absent => .error [⟨["body"], "missing"⟩]
  | .raw => .error [⟨["body"], "model_attributes_type"⟩]
  | .json v => (CallCreate.validate cfg.coercions v).mapError (List.map FieldError.inBody)

/-- `create_call`, with the number of active calls that the session has read. The row is the one of the
insert. -/
def createCall (xApiKey : Option Text) (body : RequestBody) (active : ℕ) (id : Uuid)
    (now : Timestamp) : ApiResponse × Option Call :=
  -- The framework decodes the body before it asks the dependencies.
  match body with
  | .undecodable => (requestValidationErrorHandler [⟨["body"], "json_invalid"⟩], none)
  | _ =>
      match requireApiKey cfg xApiKey with
      | some response => (response, none)
      | none =>
          match validateBody cfg body with
          | .error errors => (requestValidationErrorHandler errors, none)
          | .ok data =>
              match CallService.create cfg.worker.runner.callConcurrencyLimit active data id now with
              | .error e => (appErrorHandler e, none)
              | .ok call => (⟨201, .created call.id call.status⟩, some call)

/-- `get_call`. -/
def getCall (rows : List Call) (xApiKey : Option Text) (callId : Text) : ApiResponse :=
  match requireApiKey cfg xApiKey with
  | some response => response
  | none =>
      match cfg.coercions.uuid callId with
      | none => requestValidationErrorHandler [⟨["path", "call_id"], "uuid_parsing"⟩]
      | some id =>
          match CallService.requireCall id (findRow rows id) with
          | .error e => appErrorHandler e
          | .ok call => ⟨200, .call (CallRead.of call)⟩

end Handlers

/-! ## The system -/

/-- A request that has been answered, and whether its session was committed. -/
structure Exchange where
  request : ApiRequest
  response : ApiResponse
  time : Timestamp
  committed : Bool

structure ApiState where
  worker : WorkerState
  /-- The oldest first. -/
  exchanges : List Exchange

inductive ApiEvent where
  /-- A step of the worker, which creates no call. -/
  | worker (e : WorkerEvent)
  | createCall (xApiKey : Option Text) (body : RequestBody) (active : ℕ) (id : Uuid)
      (now : Timestamp) (committed : Bool)
  | getCall (xApiKey : Option Text) (callId : Text) (now : Timestamp)

def WorkerEvent.creates : WorkerEvent → Bool
  | .runner (.create _ _ _) => true
  | _ => false

namespace ApiState

def answer (s : ApiState) (request : ApiRequest) (response : ApiResponse) (now : Timestamp)
    (committed : Bool) : ApiState :=
  { s with exchanges := s.exchanges ++ [⟨request, response, now, committed⟩] }

def insert (s : ApiState) (row : Call) : ApiState :=
  { s with worker := { s.worker with
      runner := { s.worker.runner with rows := s.worker.runner.rows ++ [row] } } }

def step (cfg : ApiSettings) (s : ApiState) : ApiEvent → Option ApiState
  | .worker e =>
      if e.creates then none else (s.worker.step cfg.worker e).map fun w => { s with worker := w }
  | .createCall xApiKey body active id now committed =>
      match Notetaker.createCall cfg xApiKey body active id now with
      | (response, none) => some (s.answer (.createCall xApiKey body) response now committed)
      | (response, some row) =>
          match findRow s.worker.runner.rows row.id with
          -- The identifier is drawn at random, and is new.
          | some _ => none
          | none =>
              let t := s.answer (.createCall xApiKey body) response now committed
              some (if committed then t.insert row else t)
  | .getCall xApiKey callId now =>
      some (s.answer (.getCall xApiKey callId)
        (Notetaker.getCall cfg s.worker.runner.rows xApiKey callId) now true)

end ApiState

def apiSystem (cfg : ApiSettings) : TransitionSystem ApiState ApiEvent where
  init s := (workerSystem cfg.worker).init s.worker ∧ s.exchanges = []
  step s e := s.step cfg e

/-! ## What a row keeps -/

/-- The columns that only the insert writes. -/
structure Submission where
  id : Uuid
  createdAt : Timestamp
  meetingUrl : Text
  userRef : Text
  consentAck : Bool
  platform : CallPlatform
  webhookUrl : Text
  webhookSecret : Text
  deriving DecidableEq

def Call.submission (call : Call) : Submission where
  id := call.id
  createdAt := call.createdAt
  meetingUrl := call.meetingUrl
  userRef := call.userRef
  consentAck := call.consentAck
  platform := call.platform
  webhookUrl := call.webhookUrl
  webhookSecret := call.webhookSecret

/-- What a request submits under the identifier it is answered. -/
def CallCreate.submission (data : CallCreate) (id : Uuid) (now : Timestamp) : Submission where
  id := id
  createdAt := now
  meetingUrl := data.meetingUrl
  userRef := data.userRef
  consentAck := data.consentAck
  platform := data.platform.getD .googleMeet
  webhookUrl := data.webhookUrl
  webhookSecret := data.webhookSecret

def Exchange.submission (cfg : ApiSettings) (x : Exchange) : Option Submission :=
  match x.request, x.response.content with
  | .createCall _ body, .created id _ =>
      match x.committed, validateBody cfg body with
      | true, .ok data => some (data.submission id x.time)
      | _, _ => none
  | _, _ => none

def submitted (cfg : ApiSettings) (exchanges : List Exchange) (id : Uuid) : Option Submission :=
  (exchanges.filterMap (Exchange.submission cfg)).find? fun submission => submission.id = id

section Kept

theorem Written.submission_eq {row new : Call} {now : Timestamp} {tr : Transition}
    (h : Written row now tr new) : new.submission = row.submission := by
  cases h <;> rfl

theorem RowChange.submission_eq {s : WorkerState} {e : WorkerEvent} {row new : Call}
    (h : RowChange s e row new) : new.submission = row.submission := by
  cases h with
  | kept => rfl
  | written event tr now new hevent htr hwritten => exact hwritten.submission_eq
  | reclaimed => rfl
  | delivered j receiver txNow now next new hevent hphase hterminal hpending hsame =>
      obtain ⟨_, _, _, rfl⟩ := hsame
      rfl

variable {cfg : WorkerSettings} {s t : WorkerState} {e : WorkerEvent}

theorem old_of_modifyRow {rows : List Call} {id : Uuid} {f : Call → Call} {new : Call}
    (h : new ∈ modifyRow rows id f) (hf : ∀ c ∈ rows, c.id = id → (f c).id = c.id) :
    ∃ row ∈ rows, row.id = new.id := by
  obtain ⟨c, hc, hnew⟩ := mem_modifyRow h
  split_ifs at hnew with hid
  · exact ⟨c, hc, by rw [hnew, hf c hc hid]⟩
  · exact ⟨c, hc, by rw [hnew]⟩

theorem exists_old_of_step (h : (workerSystem cfg).step s e = some t) (hcreates : e.creates = false)
    {new : Call} (hnew : new ∈ t.runner.rows) : ∃ row ∈ s.runner.rows, row.id = new.id := by
  cases e with
  | runner e =>
      obtain ⟨u, hu, rfl⟩ := Option.map_eq_some_iff.1 h
      rw [runner_recordDone] at hnew
      replace hnew : new ∈ u.rows := hnew
      cases effect_of_step hu with
      | create data id now created hfresh hqueued => cases hcreates
      | claim j k diskOk now claimed changed hidle hclaimed hqueued hid hstatus =>
          exact old_of_modifyRow hnew fun c _ hc => hid.trans hc.symm
      | refuse j k diskOk now refused changed hidle hrefused hqueued hid hstatus =>
          rw [RunnerState.rows_recordWinner] at hnew
          exact old_of_modifyRow hnew fun c _ hc => hid.trans hc.symm
      | commit j now id tr read todo hwork hread hid hbody =>
          rw [RunnerState.rows_recordWinner] at hnew
          exact old_of_modifyRow hnew fun c _ hc =>
            (id_applyStatements read todo).trans (hid.trans hc.symm)
      | delete j outcome id task f hmove hf => exact old_of_modifyRow hnew fun c _ _ => (hf c).1
      | _ => exact ⟨new, hnew, rfl⟩
  | deliver j receiver txNow now =>
      obtain ⟨id, next, -, rfl | ⟨read, changed, -, hid, -, -, hsame, rfl⟩⟩ := deliver_cases h
      · exact ⟨new, hnew, rfl⟩
      · exact old_of_modifyRow hnew fun c _ hc => hsame.id_eq.trans (hid.trans hc.symm)

theorem findRow_eq_some {rows : List Call} (hnodup : (rows.map Call.id).Nodup) {row : Call}
    (hrow : row ∈ rows) : findRow rows row.id = some row := by
  cases hfind : findRow rows row.id with
  | none => exact absurd rfl (findRow_eq_none hfind row hrow)
  | some found =>
      obtain ⟨hmem, hid⟩ := findRow_mem hfind
      rw [List.inj_on_of_nodup_map hnodup hmem hrow hid]

theorem submission_of_step (hs : Consistent s.runner) (h : (workerSystem cfg).step s e = some t)
    (hcreates : e.creates = false) (id : Uuid) :
    (findRow t.runner.rows id).map Call.submission = (findRow s.runner.rows id).map Call.submission := by
  have ht := consistent_worker_step s e t hs h
  cases hrow : findRow s.runner.rows id with
  | some row =>
      obtain ⟨hmem, rfl⟩ := findRow_mem hrow
      obtain ⟨new, hnew, hchange⟩ := rowChange_of_step hs h hmem
      rw [← hchange.id_eq, findRow_eq_some ht.nodup hnew]
      exact congrArg some hchange.submission_eq
  | none =>
      cases hnew : findRow t.runner.rows id with
      | none => rfl
      | some new =>
          obtain ⟨hmem, rfl⟩ := findRow_mem hnew
          obtain ⟨row, hold, hid⟩ := exists_old_of_step h hcreates hmem
          exact absurd hid (findRow_eq_none hrow row hold)

end Kept

/-! ## The table is the map of the submissions -/

structure SubmittedBy (cfg : ApiSettings) (x : Exchange) (submission : Submission) : Prop where
  response : x.response = ⟨201, .created submission.id .queued⟩
  request : ∃ v data, x.request = .createCall (some cfg.apiKey) (.json v) ∧
    CallCreate.validate cfg.coercions v = .ok data ∧
    submission = data.submission submission.id x.time

structure TableKept (cfg : ApiSettings) (s : ApiState) : Prop where
  consistent : Consistent s.worker.runner
  submissions : ∀ id, (findRow s.worker.runner.rows id).map Call.submission =
    submitted cfg s.exchanges id
  nodup : ((s.exchanges.filterMap (Exchange.submission cfg)).map Submission.id).Nodup
  authorised : ∀ x ∈ s.exchanges, ∀ submission ∈ x.submission cfg, SubmittedBy cfg x submission

section Table

variable {cfg : ApiSettings} {s t : ApiState}

theorem submitted_append (exchanges : List Exchange) (x : Exchange) (id : Uuid) :
    submitted cfg (exchanges ++ [x]) id = (submitted cfg exchanges id).or
      ((x.submission cfg).filter fun submission => submission.id = id) := by
  unfold submitted
  rw [List.filterMap_append, List.find?_append]
  congr 1
  cases hx : x.submission cfg with
  | none => simp [hx]
  | some submission =>
      by_cases hid : submission.id = id
      · simp [hx, Option.filter, hid]
      · simp [hx, Option.filter, hid]

theorem not_created_requestValidationErrorHandler (errors : List FieldError) (id : Uuid)
    (status : CallStatus) : (requestValidationErrorHandler errors).content ≠ .created id status := by
  unfold requestValidationErrorHandler
  split <;> exact nofun

theorem not_created_appErrorHandler (e : ServiceError) (id : Uuid) (status : CallStatus) :
    (appErrorHandler e).content ≠ .created id status := by
  cases e <;> exact nofun

theorem requireApiKey_eq_none {xApiKey : Option Text} (h : requireApiKey cfg xApiKey = none) :
    xApiKey = some cfg.apiKey := by
  unfold requireApiKey at h
  split_ifs at h with hkey
  exact hkey

theorem not_created_requireApiKey {xApiKey : Option Text} {response : ApiResponse}
    (h : requireApiKey cfg xApiKey = some response) (id : Uuid) (status : CallStatus) :
    response.content ≠ .created id status := by
  unfold requireApiKey at h
  split_ifs at h
  cases h
  exact nofun

variable (cfg) in
theorem createCall_cases (xApiKey : Option Text) (body : RequestBody) (active : ℕ) (id : Uuid)
    (now : Timestamp) :
    (∃ response, createCall cfg xApiKey body active id now = (response, none) ∧
      ∀ id status, response.content ≠ .created id status) ∨
    ∃ v data row, xApiKey = some cfg.apiKey ∧ body = .json v ∧
      CallCreate.validate cfg.coercions v = .ok data ∧ row.status = .queued ∧
      row.submission = data.submission id now ∧
      createCall cfg xApiKey body active id now = (⟨201, .created id .queued⟩, some row) := by
  unfold createCall
  split
  · exact .inl ⟨_, rfl, not_created_requestValidationErrorHandler _⟩
  · split
    · exact .inl ⟨_, rfl, not_created_requireApiKey ‹_›⟩
    · rename_i hkey
      split
      · exact .inl ⟨_, rfl, not_created_requestValidationErrorHandler _⟩
      · rename_i data hvalid
        split
        · exact .inl ⟨_, rfl, not_created_appErrorHandler _⟩
        · rename_i row hcreate
          unfold CallService.create at hcreate
          split_ifs at hcreate
          cases hcreate
          cases body with
          | json v =>
              have hvalidate := CallCreate.mapError_eq_ok_iff.1 hvalid
              exact .inr ⟨v, data, _, requireApiKey_eq_none hkey, rfl, hvalidate, rfl, rfl, rfl⟩
          | _ => cases hvalid

theorem not_created_getCall (rows : List Call) (xApiKey : Option Text) (callId : Text) (id : Uuid)
    (status : CallStatus) : (getCall cfg rows xApiKey callId).content ≠ .created id status := by
  unfold getCall
  split
  · exact not_created_requireApiKey ‹_› id status
  · split
    · exact not_created_requestValidationErrorHandler _ id status
    · split
      · exact not_created_appErrorHandler _ id status
      · exact nofun

theorem submission_eq_none {x : Exchange}
    (h : ∀ id status, x.response.content ≠ .created id status) : x.submission cfg = none := by
  unfold Exchange.submission
  split
  · rename_i id status hrequest hcontent
    exact absurd hcontent (h id status)
  · rfl

theorem TableKept.answer (hs : TableKept cfg s) (request : ApiRequest) {response : ApiResponse}
    (now : Timestamp) (committed : Bool)
    (h : Exchange.submission cfg ⟨request, response, now, committed⟩ = none) :
    TableKept cfg (s.answer request response now committed) := by
  refine ⟨hs.consistent, fun id => ?_, ?_, ?_⟩
  · change _ = submitted cfg (s.exchanges ++ [_]) id
    rw [submitted_append, h, Option.filter_none, Option.or_none]
    exact hs.submissions id
  · change ((List.filterMap _ (s.exchanges ++ [_])).map _).Nodup
    rw [List.filterMap_append, List.filterMap_cons_none h, List.filterMap_nil, List.append_nil]
    exact hs.nodup
  · intro x hx submission hsubmission
    rcases List.mem_append.1 hx with hx | hx
    · exact hs.authorised x hx submission hsubmission
    · rw [List.mem_singleton.1 hx, h] at hsubmission
      cases hsubmission

theorem findRow_append (rows : List Call) (row : Call) (id : Uuid) :
    findRow (rows ++ [row]) id = (findRow rows id).or (if row.id = id then some row else none) := by
  unfold findRow
  rw [List.find?_append]
  congr 1
  by_cases hid : row.id = id
  · simp [hid]
  · simp [hid]

theorem TableKept.of_init (h : (apiSystem cfg).init s) : TableKept cfg s := by
  obtain ⟨⟨hrunner, -⟩, hexchanges⟩ := h
  refine ⟨Consistent.of_init hrunner, fun id => ?_, ?_, ?_⟩
  · rw [hrunner.1, hexchanges]
    rfl
  · rw [hexchanges]
    exact List.nodup_nil
  · rw [hexchanges]
    exact fun x hx => absurd hx List.not_mem_nil

theorem TableKept.createCall {xApiKey : Option Text} {body : RequestBody} {active : ℕ} {id : Uuid}
    {now : Timestamp} {committed : Bool} (hs : TableKept cfg s)
    (h : s.step cfg (.createCall xApiKey body active id now committed) = some t) :
    TableKept cfg t := by
  unfold ApiState.step at h
  dsimp only at h
  rcases createCall_cases cfg xApiKey body active id now with
    ⟨response, hcreate, hcontent⟩ | ⟨v, data, row, rfl, rfl, hvalid, hqueued, hrow, hcreate⟩
  · rw [hcreate] at h
    cases h
    exact hs.answer _ now committed (submission_eq_none hcontent)
  · rw [hcreate] at h
    dsimp only at h
    split at h
    · cases h
    · rename_i hnew
      have hid : row.id = id := congrArg Submission.id hrow
      have hvalidBody : validateBody cfg (.json v) = .ok data := CallCreate.mapError_eq_ok_iff.2 hvalid
      cases committed with
      | false =>
          cases h
          exact hs.answer _ now false rfl
      | true =>
          cases h
          have hsubmission : Exchange.submission cfg ⟨.createCall (some cfg.apiKey) (.json v),
              ⟨201, .created id .queued⟩, now, true⟩ = some (data.submission id now) := by
            unfold Exchange.submission
            dsimp only
            rw [hvalidBody]
          refine ⟨hs.consistent.insert fun c hc => findRow_eq_none hnew c hc, fun id' => ?_, ?_,
            ?_⟩
          · change (findRow (s.worker.runner.rows ++ [row]) id').map _ =
              submitted cfg (s.exchanges ++ [_]) id'
            rw [submitted_append, hsubmission, findRow_append, ← hs.submissions id']
            by_cases hsame : row.id = id'
            · have hnone : findRow s.worker.runner.rows id' = none := hsame ▸ hnew
              have hkey : (data.submission id now).id = id' := hid.symm.trans hsame
              rw [hnone, if_pos hsame, Option.none_or, Option.map_some, hrow, Option.map_none,
                Option.none_or, Option.filter_some, if_pos (decide_eq_true hkey)]
            · have hkey : (data.submission id now).id ≠ id' := fun heq => hsame (hid.trans heq)
              rw [if_neg hsame, Option.or_none, Option.filter_some,
                if_neg (by simpa using hkey), Option.or_none]
          · change ((List.filterMap _ (s.exchanges ++ [_])).map _).Nodup
            rw [List.filterMap_append, List.filterMap_cons_some hsubmission, List.filterMap_nil,
              List.map_append, List.nodup_append]
            refine ⟨hs.nodup, List.nodup_singleton _, ?_⟩
            intro a ha b hb heq
            obtain ⟨submission, hmem, rfl⟩ := List.mem_map.1 ha
            obtain rfl : b = id := List.mem_singleton.1 hb
            have hfree : submitted cfg s.exchanges b = none := by
              rw [← hs.submissions b, ← hid, hnew]
              rfl
            exact List.find?_eq_none.1 hfree submission hmem (decide_eq_true heq)
          · intro x hx submission hx'
            rcases List.mem_append.1 hx with hx | hx
            · exact hs.authorised x hx submission hx'
            · obtain rfl := List.mem_singleton.1 hx
              rw [hsubmission] at hx'
              cases hx'
              exact ⟨rfl, v, data, rfl, hvalid, rfl⟩

theorem TableKept.step {e : ApiEvent} (hs : TableKept cfg s)
    (h : (apiSystem cfg).step s e = some t) : TableKept cfg t := by
  cases e with
  | worker e =>
      change (if e.creates then none else _) = some t at h
      split_ifs at h with hcreates
      obtain ⟨w, hw, rfl⟩ := Option.map_eq_some_iff.1 h
      refine ⟨consistent_worker_step s.worker e w hs.consistent hw, fun id => ?_, hs.nodup, hs.authorised⟩
      rw [← hs.submissions id]
      exact submission_of_step hs.consistent hw ((Bool.not_eq_true _).mp hcreates) id
  | createCall xApiKey body active id now committed => exact hs.createCall h
  | getCall xApiKey callId now =>
      cases h
      exact hs.answer _ now true (submission_eq_none (not_created_getCall _ xApiKey callId))

theorem tableKept_of_reachable (h : (apiSystem cfg).Reachable s) : TableKept cfg s :=
  (apiSystem cfg).reachable_invariant (fun _ => .of_init) (fun _ _ _ hs h => hs.step h) h

theorem TableKept.submitted_eq (hs : TableKept cfg s) {x : Exchange} (hx : x ∈ s.exchanges)
    {submission : Submission} (h : submission ∈ x.submission cfg) :
    submitted cfg s.exchanges submission.id = some submission := by
  have hmem : submission ∈ s.exchanges.filterMap (Exchange.submission cfg) :=
    List.mem_filterMap.2 ⟨x, hx, h⟩
  unfold submitted
  cases hfind : (s.exchanges.filterMap (Exchange.submission cfg)).find?
      fun other => other.id = submission.id with
  | none => exact absurd (decide_eq_true rfl) (List.find?_eq_none.1 hfind submission hmem)
  | some other =>
      have hid : other.id = submission.id := by simpa using List.find?_some hfind
      rw [List.inj_on_of_nodup_map hs.nodup (List.mem_of_find?_eq_some hfind) hmem hid]

theorem TableKept.exists_exchange (hs : TableKept cfg s) {row : Call}
    (hrow : row ∈ s.worker.runner.rows) :
    ∃ x ∈ s.exchanges, row.submission ∈ x.submission cfg := by
  have hsubmitted := hs.submissions row.id
  rw [findRow_eq_some hs.consistent.nodup hrow] at hsubmitted
  exact List.mem_filterMap.1 (List.mem_of_find?_eq_some hsubmitted.symm)

/-- A create that a client has made with the key, and that met the contract. -/
structure Consented (cfg : ApiSettings) (exchanges : List Exchange) (row : Call) : Prop where
  exchange : ∃ x ∈ exchanges, x.committed = true ∧ x.response = ⟨201, .created row.id .queued⟩ ∧
    ∃ v data, x.request = .createCall (some cfg.apiKey) (.json v) ∧
      CallCreate.validate cfg.coercions v = .ok data ∧ row.submission = data.submission row.id x.time
  consentAck : row.consentAck = true
  isMeetUrl : IsMeetUrl row.meetingUrl
  userRef_ne_nil : row.userRef ≠ []
  secret_length : minWebhookSecretLength ≤ row.webhookSecret.length

theorem committed_of_submission {x : Exchange} {submission : Submission}
    (h : submission ∈ x.submission cfg) : x.committed = true := by
  unfold Exchange.submission at h
  split at h
  · split at h
    · assumption
    · cases h
  · cases h

theorem TableKept.consented (hs : TableKept cfg s) {row : Call}
    (hrow : row ∈ s.worker.runner.rows) : Consented cfg s.exchanges row := by
  obtain ⟨x, hx, hsubmission⟩ := hs.exists_exchange hrow
  obtain ⟨hresponse, v, data, hrequest, hvalid, heq⟩ := hs.authorised x hx _ hsubmission
  obtain ⟨members, read, rfl, hread, hconsent, hdata⟩ := CallCreate.validate_eq_ok_iff.1 hvalid
  have hfield : ∀ {α : Type} (f : Submission → α),
      f row.submission = f (data.submission row.id x.time) := fun f => congrArg f heq
  refine ⟨⟨x, hx, committed_of_submission hsubmission, hresponse, _, data, hrequest, hvalid, heq⟩,
    ?_, ?_, ?_, ?_⟩
  · exact (hfield Submission.consentAck).trans (hdata ▸ hconsent)
  · have hurl : row.meetingUrl = read.meetingUrl := (hfield Submission.meetingUrl).trans (hdata ▸ rfl)
    exact hurl ▸ hread.isMeetUrl
  · have huser : row.userRef = read.userRef := (hfield Submission.userRef).trans (hdata ▸ rfl)
    exact huser ▸ hread.userRef_ne_nil
  · have hsecret : row.webhookSecret = read.webhookSecret :=
      (hfield Submission.webhookSecret).trans (hdata ▸ rfl)
    exact hsecret ▸ hread.secret_length

theorem exchanges_prefix_of_run {es : List ApiEvent} (h : (apiSystem cfg).run s es = some t) :
    s.exchanges <+: t.exchanges := by
  refine (apiSystem cfg).run_invariant (P := fun u => s.exchanges <+: u.exchanges) ?_
    (List.prefix_refl _) h
  intro u e v hu hstep
  refine hu.trans ?_
  cases e with
  | worker e =>
      change (if e.creates then none else _) = some v at hstep
      split_ifs at hstep
      obtain ⟨w, -, rfl⟩ := Option.map_eq_some_iff.1 hstep
      exact List.prefix_refl _
  | createCall xApiKey body active id now committed =>
      change ApiState.step cfg u (.createCall xApiKey body active id now committed) = some v at hstep
      unfold ApiState.step at hstep
      dsimp only at hstep
      split at hstep
      · cases hstep
        exact List.prefix_append _ _
      · split at hstep
        · cases hstep
        · cases hstep
          split_ifs <;> exact List.prefix_append _ _
  | getCall xApiKey callId now =>
      cases hstep
      exact List.prefix_append _ _

end Table

/-! ## A call from its request to its end -/

def sampleApi : ApiSettings where
  apiKey := "key"
  coercions := sampleCoercions
  worker := sampleWorker

def emptyApi : ApiState := ⟨emptyWorker, []⟩

/-- A create without the key, and one whose session is not committed, before the one of call 7. -/
def createdCall : List ApiEvent :=
  [.createCall none (.json sampleBody) 0 5 0 true,
    .createCall (some "key".toList) (.json sampleBody) 0 6 0 false,
    .createCall (some "key".toList) (.json sampleBody) 0 7 0 true]

theorem createdCall_isSome : ((apiSystem sampleApi).run emptyApi createdCall).isSome := by
  decide +kernel

def createdCallState : ApiState :=
  ((apiSystem sampleApi).run emptyApi createdCall).get createdCall_isSome

theorem createdCall_reachable : (apiSystem sampleApi).Reachable createdCallState :=
  ⟨emptyApi, createdCall, ⟨emptyWorker_init sampleWorker, rfl⟩,
    (Option.some_get createdCall_isSome).symm⟩

/-- The events of `finishedCall` behind the create. -/
def workedCall : List ApiEvent := finishedCall.tail.map .worker

theorem workedCall_isSome : ((apiSystem sampleApi).run createdCallState workedCall).isSome := by
  decide +kernel

def workedCallState : ApiState :=
  ((apiSystem sampleApi).run createdCallState workedCall).get workedCall_isSome

theorem workedCall_reachable : (apiSystem sampleApi).Reachable workedCallState := by
  refine ⟨emptyApi, createdCall ++ workedCall, ⟨emptyWorker_init sampleWorker, rfl⟩, ?_⟩
  rw [TransitionSystem.run_append, ← Option.some_get createdCall_isSome]
  exact (Option.some_get workedCall_isSome).symm

/-! ## What the clients rely on -/

section Clients

variable {cfg : ApiSettings} {s t : ApiState}

/-- In every reachable state each row comes from one create request, made with the API key, answered
`201` and committed, whose body had the consent, a Meet URL, a user and a secret of 16 characters. No
task drives a call without such a row. -/
theorem rows_consented (h : (apiSystem cfg).Reachable s) :
    (∀ row ∈ s.worker.runner.rows, Consented cfg s.exchanges row) ∧
      ∀ j id, (s.worker.runner.tasks j).driven = some id →
        ∃ row ∈ s.worker.runner.rows, row.id = id ∧ Consented cfg s.exchanges row := by
  have hs := tableKept_of_reachable h
  refine ⟨fun row hrow => hs.consented hrow, fun j id hdriven => ?_⟩
  obtain ⟨row, hrow, hid, -⟩ := hs.consistent.status j id hdriven
  exact ⟨row, hrow, hid, hs.consented hrow⟩

theorem rows_consented_workedCall :
    ∃ row ∈ workedCallState.worker.runner.rows,
      row.status = .done ∧ Consented sampleApi workedCallState.exchanges row := by
  have hrow : (findRow workedCallState.worker.runner.rows 7).map Call.status = some .done := by
    decide +kernel
  obtain ⟨row, hfind, hdone⟩ := Option.map_eq_some_iff.1 hrow
  have hmem := (findRow_mem hfind).1
  exact ⟨row, hmem, hdone, (rows_consented workedCall_reachable).1 row hmem⟩

/-- What a client with the key reads: under the identifier of a create that was committed its
submission, from then on and for ever, and a `404` under an identifier that none was answered with. -/
theorem getCall_of_run (hreachable : (apiSystem cfg).Reachable s) {es : List ApiEvent}
    (hrun : (apiSystem cfg).run s es = some t) {callId : Text} {id : Uuid}
    (hid : cfg.coercions.uuid callId = some id) :
    (∀ x ∈ s.exchanges, ∀ submission ∈ x.submission cfg, submission.id = id →
      ∃ call, getCall cfg t.worker.runner.rows (some cfg.apiKey) callId = ⟨200, .call (.of call)⟩ ∧
        call.submission = submission) ∧
    ((∀ x ∈ t.exchanges, ∀ submission ∈ x.submission cfg, submission.id ≠ id) →
      getCall cfg t.worker.runner.rows (some cfg.apiKey) callId =
        ⟨404, .detail ("Call ".toList ++ id.text ++ " not found".toList)⟩) := by
  have ht : TableKept cfg t :=
    (apiSystem cfg).run_invariant (fun _ _ _ hs h => hs.step h) (tableKept_of_reachable hreachable) hrun
  have hkey : requireApiKey cfg (some cfg.apiKey) = none := if_pos rfl
  have hget : getCall cfg t.worker.runner.rows (some cfg.apiKey) callId =
      match CallService.requireCall id (findRow t.worker.runner.rows id) with
      | .error e => appErrorHandler e
      | .ok call => ⟨200, .call (CallRead.of call)⟩ := by
    unfold getCall
    rw [hkey, hid]
  have hrow := ht.submissions id
  constructor
  · rintro x hx submission hsubmission rfl
    have hx := (exchanges_prefix_of_run hrun).subset hx
    rw [ht.submitted_eq hx hsubmission] at hrow
    obtain ⟨call, hcall, hcolumns⟩ := Option.map_eq_some_iff.1 hrow
    rw [hget, hcall]
    exact ⟨call, rfl, hcolumns⟩
  · intro hfree
    have hnone : submitted cfg t.exchanges id = none := by
      apply List.find?_eq_none.2
      intro submission hsubmission
      obtain ⟨x, hx, hmem⟩ := List.mem_filterMap.1 hsubmission
      simpa using hfree x hx submission hmem
    rw [hnone] at hrow
    rw [hget, Option.map_eq_none_iff.1 hrow]
    rfl

theorem getCall_of_run_workedCall : ∃ call,
    getCall sampleApi workedCallState.worker.runner.rows (some "key".toList) (Uuid.text 7) =
      ⟨200, .call (.of call)⟩ ∧ call.submission = sampleCreate.submission 7 0 := by
  have hexchange : ∃ x ∈ createdCallState.exchanges,
      x.submission sampleApi = some (sampleCreate.submission 7 0) := by decide +kernel
  obtain ⟨x, hx, hsubmission⟩ := hexchange
  exact (getCall_of_run createdCall_reachable (Option.some_get workedCall_isSome).symm
    (by decide +kernel)).1 x hx _ hsubmission rfl

end Clients

end Notetaker

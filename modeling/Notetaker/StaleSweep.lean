import Notetaker.CallService

/-!
# What the periodic sweeps select

The stale sweep compares `updated_at` with two cutoffs, one for `joining` and `recording` and one for
`processing`; the retention pass compares it with the window of the terminal status. A cutoff outside
the range of `datetime` raises `OverflowError`, and the sweep selects nothing.
-/

open PythonText PythonFloat PythonUuid

namespace Notetaker

/-- Where the recordings go: the S3 adapter, or the local stand-in with its resolved root. -/
inductive StorageBackend where
  | s3 (bucket : Text)
  | localDir (root : Text)

structure RunnerSettings where
  callConcurrencyLimit : ℤ
  botMaxRecordDuration : ℤ
  audioRetentionDays : ℤ
  failedAudioRetentionDays : ℤ
  storage : StorageBackend

def staleCallGraceS : ℤ := 300

def processingStaleCutoffS : ℤ := 2400

/-- `datetime.min` and the end of `datetime.max`, in seconds of the Unix epoch. -/
def datetimeMin : Timestamp := -62135596800

def datetimeEnd : Timestamp := 253402300800

/-- `now - timedelta(seconds=seconds)`; `none` is the `OverflowError`. -/
def beforeNow (now : Timestamp) (seconds : ℤ) : Option Timestamp :=
  if datetimeMin ≤ now - seconds ∧ now - seconds < datetimeEnd then some (now - seconds) else none

/-- The `WHERE` clause of the stale sweep. -/
def isStale (recordingCutoff processingCutoff : Timestamp) (call : Call) : Bool :=
  ((call.status = .joining || call.status = .recording) && call.updatedAt < recordingCutoff) ||
    (call.status = .processing && call.updatedAt < processingCutoff)

/-- The ids that `_stale_sweep_inner` selects at time `now`. -/
def staleIds (cfg : RunnerSettings) (now : Timestamp) (rows : List Call) : Option (List Uuid) := do
  let recordingCutoff ← beforeNow now (cfg.botMaxRecordDuration + staleCallGraceS)
  let processingCutoff ← beforeNow now processingStaleCutoffS
  return (rows.filter fun call => isStale recordingCutoff processingCutoff call).map Call.id

/-- The `WHERE` clause of `_expired_rows`. -/
def isExpired (status : CallStatus) (cutoff : Timestamp) (call : Call) : Bool :=
  call.status = status && call.audioUrl.isSome && call.updatedAt < cutoff

/-- The ids a retention pass selects: done rows first, then failed rows. -/
def expiredIds (cfg : RunnerSettings) (now : Timestamp) (rows : List Call) : Option (List Uuid) := do
  let doneCutoff ← beforeNow now (cfg.audioRetentionDays * 86400)
  let failedCutoff ← beforeNow now (cfg.failedAudioRetentionDays * 86400)
  return (rows.filter (isExpired .done doneCutoff) ++
    rows.filter (isExpired .failed failedCutoff)).map Call.id

def audioKey (id : Uuid) : Text := "calls/".toList ++ id.text ++ "/audio.wav".toList

/-- The URI `upload_audio` returns. -/
def StorageBackend.objectUri (backend : StorageBackend) (id : Uuid) : Text :=
  match backend with
  | s3 bucket => "s3://".toList ++ bucket ++ '/' :: audioKey id
  | localDir root => "file://".toList ++ root ++ '/' :: audioKey id

theorem StorageBackend.objectUri_ne_nil (backend : StorageBackend) (id : Uuid) :
    backend.objectUri id ≠ [] := by
  cases backend with
  | s3 bucket => exact List.append_ne_nil_of_right_ne_nil _ (List.cons_ne_nil _ _)
  | localDir root => exact List.append_ne_nil_of_right_ne_nil _ (List.cons_ne_nil _ _)

theorem active_of_isStale {recordingCutoff processingCutoff : Timestamp} {call : Call}
    (h : isStale recordingCutoff processingCutoff call) : ¬ call.status.Terminal := by
  simp only [isStale, Bool.or_eq_true, Bool.and_eq_true, decide_eq_true_eq] at h
  rcases h with ⟨hstatus | hstatus, -⟩ | ⟨hstatus, -⟩ <;> rw [hstatus] <;> decide

theorem mem_staleIds {cfg : RunnerSettings} {now : Timestamp} {rows : List Call} {ids : List Uuid}
    (h : staleIds cfg now rows = some ids) {id : Uuid} (hid : id ∈ ids) :
    ∃ call ∈ rows, call.id = id ∧ ¬ call.status.Terminal := by
  simp only [staleIds, Option.bind_eq_bind, Option.bind_eq_some_iff, Option.pure_def,
    Option.some.injEq] at h
  obtain ⟨_, -, _, -, rfl⟩ := h
  obtain ⟨call, hcall, rfl⟩ := List.mem_map.1 hid
  obtain ⟨hmem, hstale⟩ := List.mem_filter.1 hcall
  exact ⟨call, hmem, rfl, active_of_isStale hstale⟩

theorem staleIds_nodup {cfg : RunnerSettings} {now : Timestamp} {rows : List Call} {ids : List Uuid}
    (h : staleIds cfg now rows = some ids) (hrows : (rows.map Call.id).Nodup) : ids.Nodup := by
  simp only [staleIds, Option.bind_eq_bind, Option.bind_eq_some_iff, Option.pure_def,
    Option.some.injEq] at h
  obtain ⟨_, -, _, -, rfl⟩ := h
  exact hrows.sublist (List.filter_sublist.map Call.id)

theorem mem_expiredIds {cfg : RunnerSettings} {now : Timestamp} {rows : List Call} {ids : List Uuid}
    (h : expiredIds cfg now rows = some ids) {id : Uuid} (hid : id ∈ ids) :
    ∃ call ∈ rows, call.id = id ∧ call.status.Terminal ∧ call.audioUrl.isSome := by
  simp only [expiredIds, Option.bind_eq_bind, Option.bind_eq_some_iff, Option.pure_def,
    Option.some.injEq] at h
  obtain ⟨_, -, _, -, rfl⟩ := h
  obtain ⟨call, hcall, rfl⟩ := List.mem_map.1 hid
  rcases List.mem_append.1 hcall with hcall | hcall <;>
    obtain ⟨hmem, hexpired⟩ := List.mem_filter.1 hcall <;>
    simp only [isExpired, Bool.and_eq_true, decide_eq_true_eq] at hexpired <;>
    exact ⟨call, hmem, rfl, by rw [hexpired.1.1]; decide, hexpired.1.2⟩

end Notetaker

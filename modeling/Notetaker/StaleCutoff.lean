import Mathlib.Algebra.Order.Field.Basic
import Mathlib.Algebra.Order.Field.Rat
import Mathlib.Tactic.Linarith
import Mathlib.Tactic.NormNum
import Notetaker.BotEnvironment
import Notetaker.CallTransitions
import Notetaker.StaleSweep

/-!
# The stale sweep and a healthy bot

The sweep allows a call `BOT_MAX_RECORD_DURATION` and a grace in `joining` as well as in
`recording`. A bot that obeys its own timeouts may stay in `joining` for the whole waiting-room
timeout, and it reads the two timeouts with a parser of its own. So the sweep spares every healthy bot
exactly when both of the bot's effective timeouts are at most the runner's setting, or when the setting
is so far out that the cutoff is no date at all.
-/

open PythonText PythonFloat PythonUuid JsonText

namespace Notetaker

/-- A bot's life, from the commit of its claim. Pre-join includes the start of the container. -/
structure BotRun where
  call : Uuid
  claimedAt : Timestamp
  preJoin : ℚ
  waiting : ℚ
  /-- The length of the recording, if the bot was admitted. -/
  recorded : Option ℚ
  shutdown : ℚ

namespace BotRun

def admittedAt (run : BotRun) : Timestamp := run.claimedAt + run.preJoin + run.waiting

/-- A bot that never records leaves `joining` with its exit. -/
def joinedUntil (run : BotRun) : Timestamp :=
  if run.recorded.isSome then run.admittedAt else run.admittedAt + run.shutdown

structure Obeys (timeouts : Timeouts) (run : BotRun) : Prop where
  preJoin : 0 ≤ run.preJoin
  waiting : 0 ≤ run.waiting
  shutdown : 0 ≤ run.shutdown
  grace : run.preJoin + run.shutdown ≤ staleCallGraceS
  admitted : run.waiting ≤ timeouts.waitingRoomS
  recorded : ∀ r ∈ run.recorded, 0 ≤ r ∧ r ≤ timeouts.maxRecordS

def Shows (run : BotRun) (now : Timestamp) (row : Call) : Prop :=
  (row.status = .joining ∧ row.updatedAt = run.claimedAt ∧
    run.claimedAt ≤ now ∧ now < run.joinedUntil) ∨
  (row.status = .recording ∧ row.updatedAt = run.admittedAt ∧
    run.admittedAt ≤ now ∧ ∃ r ∈ run.recorded, now < run.admittedAt + r + run.shutdown)

/-- The two phases stay within the longer of the two timeouts, and the grace. -/
theorem within {timeouts : Timeouts} {run : BotRun} (h : run.Obeys timeouts) {now : Timestamp}
    {row : Call} (hrow : run.Shows now row) {limit : ℚ} (hwaiting : timeouts.waitingRoomS ≤ limit)
    (hrecord : timeouts.maxRecordS ≤ limit) : now - row.updatedAt < limit + staleCallGraceS := by
  have hpre := h.preJoin
  have hshutdown := h.shutdown
  have hgrace := h.grace
  have hadmitted := h.admitted
  rcases hrow with ⟨-, hupdated, -, hnow⟩ | ⟨-, hupdated, -, r, hr, hnow⟩
  · rw [hupdated]
    unfold joinedUntil admittedAt at hnow
    split_ifs at hnow <;> linarith
  · obtain ⟨-, hmax⟩ := h.recorded r hr
    rw [hupdated]
    linarith

end BotRun

/-- The grace and the setting together leave the range of the dates that the sweep can compute. -/
def CutoffOutOfRange (seconds : ℤ) : Prop :=
  seconds + staleCallGraceS ≤ processingStaleCutoffS - 315537897600 ∨
    315537897600 ≤ seconds + staleCallGraceS

theorem beforeNow_eq_some {now before : Timestamp} {seconds : ℤ} :
    beforeNow now seconds = some before ↔
      before = now - seconds ∧ datetimeMin ≤ now - seconds ∧ now - seconds < datetimeEnd := by
  unfold beforeNow
  split_ifs with h
  · rw [Option.some.injEq, eq_comm]
    exact ⟨fun hbefore => ⟨hbefore, h⟩, fun hbefore => hbefore.1⟩
  · exact iff_of_false (fun hnone => by cases hnone) fun hrange => h hrange.2

theorem staleIds_eq_some {cfg : RunnerSettings} {now : Timestamp} {rows : List Call}
    {ids : List Uuid} :
    staleIds cfg now rows = some ids ↔ ∃ recordingCutoff processingCutoff,
      beforeNow now (cfg.botMaxRecordDuration + staleCallGraceS) = some recordingCutoff ∧
      beforeNow now processingStaleCutoffS = some processingCutoff ∧
      ids = (rows.filter fun call => isStale recordingCutoff processingCutoff call).map Call.id := by
  constructor
  · intro h
    simp only [staleIds, Option.bind_eq_bind, Option.bind_eq_some_iff, Option.pure_def,
      Option.some.injEq] at h
    obtain ⟨recordingCutoff, hrecording, processingCutoff, hprocessing, rfl⟩ := h
    exact ⟨recordingCutoff, processingCutoff, hrecording, hprocessing, rfl⟩
  · rintro ⟨recordingCutoff, processingCutoff, hrecording, hprocessing, rfl⟩
    unfold staleIds
    rw [hrecording, hprocessing]
    rfl

theorem expired_of_mem_staleIds {cfg : RunnerSettings} {now : Timestamp} {rows : List Call}
    {ids : List Uuid} {run : BotRun} (h : staleIds cfg now rows = some ids) (hid : run.call ∈ ids)
    (hrows : ∀ row ∈ rows, row.id = run.call → run.Shows now row) :
    ∃ row, run.Shows now row ∧
      row.updatedAt < now - (cfg.botMaxRecordDuration + staleCallGraceS : ℤ) := by
  obtain ⟨recordingCutoff, processingCutoff, hrecording, -, rfl⟩ := staleIds_eq_some.1 h
  obtain ⟨row, hrow, hrowid⟩ := List.mem_map.1 hid
  obtain ⟨hmem, hstale⟩ := List.mem_filter.1 hrow
  have hshows := hrows row hmem hrowid
  refine ⟨row, hshows, ?_⟩
  obtain ⟨rfl, -⟩ := beforeNow_eq_some.1 hrecording
  simp only [isStale, Bool.or_eq_true, Bool.and_eq_true, decide_eq_true_eq] at hstale
  rcases hstale with ⟨-, hexpired⟩ | ⟨hprocessing, -⟩
  · exact hexpired
  · rcases hshows with ⟨hjoining, -⟩ | ⟨hrecording, -⟩
    · rw [hprocessing] at hjoining
      cases hjoining
    · rw [hprocessing] at hrecording
      cases hrecording

theorem inRange_of_staleIds {cfg : RunnerSettings} {now : Timestamp} {rows : List Call}
    {ids : List Uuid} (h : staleIds cfg now rows = some ids) (hend : now < datetimeEnd) :
    ¬ CutoffOutOfRange cfg.botMaxRecordDuration := by
  obtain ⟨recordingCutoff, processingCutoff, hrecording, hprocessing, -⟩ := staleIds_eq_some.1 h
  obtain ⟨-, hmin, hmax⟩ := beforeNow_eq_some.1 hrecording
  obtain ⟨-, hprocessingMin, -⟩ := beforeNow_eq_some.1 hprocessing
  unfold datetimeMin datetimeEnd at *
  rintro (hlow | hhigh)
  · have hlow' : ((cfg.botMaxRecordDuration + staleCallGraceS : ℤ) : ℚ) ≤
        ((processingStaleCutoffS - 315537897600 : ℤ) : ℚ) := Int.cast_le.2 hlow
    push_cast at hlow' hmax hprocessingMin
    linarith
  · have hhigh' : ((315537897600 : ℤ) : ℚ) ≤
        ((cfg.botMaxRecordDuration + staleCallGraceS : ℤ) : ℚ) := Int.cast_le.2 hhigh
    push_cast at hhigh' hmin
    linarith

theorem exists_expired {seconds : ℤ} {limit : ℚ} (hlimit : 0 < limit) (h : seconds < limit)
    (hlow : -(315537897600 - 2400) < seconds) (hhigh : seconds < 315537897600) :
    ∃ since now : Timestamp, datetimeMin ≤ since ∧ since ≤ now ∧ now < datetimeEnd ∧
      now < since + limit ∧ since < now - seconds ∧ beforeNow now seconds = some (now - seconds) ∧
      beforeNow now processingStaleCutoffS = some (now - processingStaleCutoffS) := by
  -- How long the phase has lasted; then the earliest instant from which both cutoffs are dates.
  obtain ⟨elapsed, hpos, hexpired, hwithin, hdates, hnegative⟩ : ∃ elapsed : ℚ, 0 ≤ elapsed ∧
      seconds < elapsed ∧ elapsed < limit ∧ elapsed < 315537897600 ∧
      (seconds < 0 → elapsed < 2400) := by
    have hlast : (seconds : ℚ) ≤ 315537897599 := by exact_mod_cast Int.le_sub_one_of_lt hhigh
    rcases lt_or_ge seconds 0 with hneg | hnonneg
    · have hneg' : (seconds : ℚ) < 0 := by exact_mod_cast hneg
      exact ⟨0, le_refl 0, hneg', hlimit, by norm_num, fun _ => by norm_num⟩
    · have hnonneg' : (0 : ℚ) ≤ seconds := by exact_mod_cast hnonneg
      obtain ⟨elapsed, hlow, hup⟩ := exists_between
        (lt_min h (lt_of_le_of_lt hlast (show (315537897599 : ℚ) < 315537897600 by norm_num)))
      obtain ⟨hwithin, hdates⟩ := lt_min_iff.1 hup
      exact ⟨elapsed, by linarith, hlow, hwithin, hdates, fun hneg => absurd hneg (by omega)⟩
  have hlow' : (-(315537897600 - 2400) : ℚ) < seconds := by exact_mod_cast hlow
  have hself : elapsed ≤ max elapsed 2400 := le_max_left _ _
  have hcutoff : 2400 ≤ max elapsed 2400 := le_max_right _ _
  have hmax : max elapsed 2400 < 315537897600 := max_lt hdates (by norm_num)
  have hback : max elapsed 2400 - seconds < 315537897600 := by
    rcases lt_or_ge seconds 0 with hneg | hnonneg
    · rw [max_eq_right (hnegative hneg).le]
      linarith
    · have hnonneg' : (0 : ℚ) ≤ seconds := by exact_mod_cast hnonneg
      linarith
  refine ⟨datetimeMin + max elapsed 2400 - elapsed, datetimeMin + max elapsed 2400, ?_, ?_, ?_, ?_,
    ?_, beforeNow_eq_some.2 ⟨rfl, ?_, ?_⟩, beforeNow_eq_some.2 ⟨rfl, ?_, ?_⟩⟩
  all_goals
    simp only [datetimeMin, datetimeEnd, processingStaleCutoffS]
    push_cast
    linarith

/-- No sweep, at any time and whatever else is in the table, selects the call of a bot that obeys its
timeouts. -/
def SparesHealthyBots (cfg : RunnerSettings) (timeouts : Timeouts) : Prop :=
  ∀ (run : BotRun) (now : Timestamp) (rows : List Call) (ids : List Uuid), run.Obeys timeouts →
    datetimeMin ≤ run.claimedAt → now < datetimeEnd →
    (∀ row ∈ rows, row.id = run.call → run.Shows now row) →
    staleIds cfg now rows = some ids → run.call ∉ ids

theorem sparesHealthyBots_of_covered {cfg : RunnerSettings} {timeouts : Timeouts}
    (hwaiting : timeouts.waitingRoomS ≤ cfg.botMaxRecordDuration)
    (hrecord : timeouts.maxRecordS ≤ cfg.botMaxRecordDuration) :
    SparesHealthyBots cfg timeouts := by
  intro run now rows ids hobeys _ _ hrows hids hmem
  obtain ⟨row, hshows, hexpired⟩ := expired_of_mem_staleIds hids hmem hrows
  have hwithin := BotRun.within hobeys hshows hwaiting hrecord
  push_cast at hexpired
  linarith

theorem not_sparesHealthyBots_of_expired {cfg : RunnerSettings} {timeouts : Timeouts} {run : BotRun}
    {now : Timestamp} {row : Call} (hobeys : run.Obeys timeouts) (hmin : datetimeMin ≤ run.claimedAt)
    (hend : now < datetimeEnd) (hid : row.id = run.call) (hshows : run.Shows now row)
    {cutoff processingCutoff : Timestamp}
    (hcutoff : beforeNow now (cfg.botMaxRecordDuration + staleCallGraceS) = some cutoff)
    (hprocessing : beforeNow now processingStaleCutoffS = some processingCutoff)
    (hexpired : row.updatedAt < cutoff) : ¬ SparesHealthyBots cfg timeouts := by
  have hstale : isStale cutoff processingCutoff row := by
    rcases hshows with ⟨hstatus, -⟩ | ⟨hstatus, -⟩ <;> simp [isStale, hstatus, hexpired]
  have hids : staleIds cfg now [row] = some [row.id] := by
    refine staleIds_eq_some.2 ⟨cutoff, processingCutoff, hcutoff, hprocessing, ?_⟩
    rw [List.filter_cons_of_pos hstale]
    rfl
  intro hspares
  refine hspares run now [row] [row.id] hobeys hmin hend ?_ hids (by simp [hid])
  rintro row' hrow' -
  rwa [List.mem_singleton.1 hrow']

theorem exists_swept {cfg : RunnerSettings} {timeouts : Timeouts} (call : Call)
    (hwaiting : 0 < timeouts.waitingRoomS) (hrecord : 0 < timeouts.maxRecordS)
    (hrange : ¬ CutoffOutOfRange cfg.botMaxRecordDuration)
    (hexceeds : cfg.botMaxRecordDuration < timeouts.waitingRoomS ∨
      cfg.botMaxRecordDuration < timeouts.maxRecordS) : ¬ SparesHealthyBots cfg timeouts := by
  simp only [CutoffOutOfRange, processingStaleCutoffS, not_or, not_le] at hrange
  obtain ⟨hlow, hhigh⟩ := hrange
  have hlow' : -(315537897600 - 2400) < cfg.botMaxRecordDuration + staleCallGraceS := by linarith
  have hgrace : (staleCallGraceS : ℚ) = 300 := by norm_num [staleCallGraceS]
  have hlimit : ∀ {t : ℚ}, cfg.botMaxRecordDuration < t →
      ((cfg.botMaxRecordDuration + staleCallGraceS : ℤ) : ℚ) < t + 300 := by
    intro t ht
    push_cast
    linarith
  rcases hexceeds with hexceeds | hexceeds
  · obtain ⟨since, now, hmin, hsince, hend, hnow, hexpired, hcutoff, hprocessing⟩ :=
      exists_expired (by linarith) (hlimit hexceeds) hlow' hhigh
    -- Never admitted: the bot gives up at its waiting-room timeout and takes the grace to leave.
    let run : BotRun := ⟨call.id, since, 0, timeouts.waitingRoomS, none, 300⟩
    have hobeys : run.Obeys timeouts :=
      ⟨le_refl 0, hwaiting.le, by norm_num [run], by simp [run, hgrace], le_refl _, by simp [run]⟩
    let row : Call := { call with status := .joining, updatedAt := since }
    have hid : row.id = run.call := rfl
    have hshows : run.Shows now row := by
      refine Or.inl ⟨rfl, rfl, hsince, ?_⟩
      simp only [run, BotRun.joinedUntil, BotRun.admittedAt, Option.isSome_none]
      simp only [Bool.false_eq_true, if_false]
      linarith
    exact not_sparesHealthyBots_of_expired hobeys hmin hend hid hshows hcutoff hprocessing hexpired
  · obtain ⟨since, now, hmin, hsince, hend, hnow, hexpired, hcutoff, hprocessing⟩ :=
      exists_expired (by linarith) (hlimit hexceeds) hlow' hhigh
    -- Admitted at once: the bot records up to its cap.
    let run : BotRun := ⟨call.id, since, 0, 0, some timeouts.maxRecordS, 300⟩
    have hobeys : run.Obeys timeouts :=
      ⟨le_refl 0, le_refl 0, by norm_num [run], by simp [run, hgrace], hwaiting.le,
        by simp [run, hrecord.le]⟩
    have hadmitted : run.admittedAt = since := by simp [run, BotRun.admittedAt]
    let row : Call := { call with status := .recording, updatedAt := since }
    have hid : row.id = run.call := rfl
    have hshows : run.Shows now row := by
      refine Or.inr ⟨rfl, hadmitted.symm, by rwa [hadmitted], timeouts.maxRecordS, rfl, ?_⟩
      rw [hadmitted]
      change now < since + timeouts.maxRecordS + 300
      linarith
    exact not_sparesHealthyBots_of_expired hobeys hmin hend hid hshows hcutoff hprocessing hexpired

/-- The sweep spares every healthy bot exactly when the waiting-room timeout and the recording cap that
the bot takes from the runner's environment are both at most the runner's own setting, or the cutoff is
no date. The setting is whatever the settings library has read. -/
theorem sparesHealthyBots_iff (cfg : RunnerSettings) (environ : Environ) (call : Call)
    (profileHostPath : Option Text) :
    SparesHealthyBots cfg (timeoutsFromEnv (botEnviron environ call profileHostPath)) ↔
      (envFloat environ "BOT_WAITING_ROOM_TIMEOUT".toList 600 none ≤ cfg.botMaxRecordDuration ∧
        envFloat environ "BOT_MAX_RECORD_DURATION".toList 10800 none ≤ cfg.botMaxRecordDuration) ∨
      CutoffOutOfRange cfg.botMaxRecordDuration := by
  have hwaiting := timeoutsFromEnv_waitingRoomS environ call profileHostPath
  have hrecord := timeoutsFromEnv_maxRecordS environ call profileHostPath
  have hpos : 0 < envFloat environ "BOT_WAITING_ROOM_TIMEOUT".toList 600 none :=
    envFloat_pos environ _ (by norm_num) none
  have hpos' : 0 < envFloat environ "BOT_MAX_RECORD_DURATION".toList 10800 none :=
    envFloat_pos environ _ (by norm_num) none
  rw [← hwaiting] at hpos ⊢
  rw [← hrecord] at hpos' ⊢
  constructor
  · intro hspares
    by_contra hnot
    rw [not_or, not_and_or, not_le, not_le] at hnot
    exact exists_swept call hpos hpos' hnot.2 hnot.1 hspares
  · rintro (⟨hle, hle'⟩ | hrange)
    · exact sparesHealthyBots_of_covered hle hle'
    · intro run now rows ids _ _ hend _ hids _
      exact inRange_of_staleIds hids hend hrange

/-! ## A short recording cap -/

def shortCapEnviron : Environ := fun key =>
  if key = "BOT_MAX_RECORD_DURATION".toList then some "60".toList else none

def shortCapSettings : RunnerSettings where
  callConcurrencyLimit := 3
  botMaxRecordDuration := 60
  audioRetentionDays := 0
  failedAudioRetentionDays := 7
  storage := .localDir []

def patientRun : BotRun where
  call := 0
  claimedAt := 0
  preJoin := 10
  waiting := 600
  recorded := none
  shutdown := 10

theorem shortCap_waitingRoomS :
    (timeoutsFromEnv (botEnviron shortCapEnviron (sampleCall .joining) none)).waitingRoomS = 600 := by
  decide +kernel

/-- Six minutes and a bit in, the sweep takes the call of a bot that may wait for ten. -/
theorem not_sparesHealthyBots_shortCap :
    ¬ SparesHealthyBots shortCapSettings
      (timeoutsFromEnv (botEnviron shortCapEnviron (sampleCall .joining) none)) := by
  have hobeys : patientRun.Obeys
      (timeoutsFromEnv (botEnviron shortCapEnviron (sampleCall .joining) none)) := by
    refine ⟨by decide, by decide, by decide, by decide +kernel, ?_, ?_⟩
    · rw [shortCap_waitingRoomS]
      exact le_refl 600
    · intro r hr
      cases hr
  have hshows : patientRun.Shows 400 (sampleCall .joining) := by
    refine Or.inl ⟨rfl, rfl, by decide, by decide +kernel⟩
  exact not_sparesHealthyBots_of_expired hobeys (by decide +kernel) (by decide +kernel) rfl hshows
    (beforeNow_eq_some.2 ⟨rfl, by decide +kernel, by decide +kernel⟩)
    (beforeNow_eq_some.2 ⟨rfl, by decide +kernel, by decide +kernel⟩) (by decide +kernel)

end Notetaker

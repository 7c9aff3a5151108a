import Notetaker.BotContainers
import Notetaker.CallRecord
import Notetaker.JsonText

/-!
# The bot's environment

`build_spawn_args` sets the variables of the call and forwards the ones of its allowlist that are set
and not empty in the runner's own environment. The runner's `Settings` and the bot's `_env_float` then
read the same variables, each in its own way and with its own default. What the settings library has
read is a value of the runner's settings here; the bot's parser is part of the model.
-/

open PythonText PythonFloat PythonUuid JsonText

namespace Notetaker

/-- `os.environ`. -/
abbrev Environ := Text → Option Text

def envPassthrough : List Text :=
  ["BOT_AUTH_MODE".toList, "BOT_PROFILE_DIR".toList, "ENVIRONMENT".toList, "LOG_LEVEL".toList,
    "TZ".toList, "PAREC_DEVICE".toList, "BOT_WAITING_ROOM_TIMEOUT".toList,
    "BOT_EMPTY_ROOM_TIMEOUT".toList, "BOT_ALONE_GRACE".toList, "BOT_MAX_RECORD_DURATION".toList,
    "BOT_SILENCE_RMS_FLOOR".toList]

structure SpawnSettings where
  botImageTag : Text
  botDockerNetwork : Text
  audioHostPath : Text

/-- A string or `None`, as a condition. -/
def truthy (s : Option Text) : Option Text := s.filter (· ≠ [])

def callVariables (call : Call) : List (Text × Text) :=
  [("MEETING_URL".toList, call.meetingUrl), ("CALL_ID".toList, call.id.text),
    ("CONSENT_ACK".toList, "true".toList)]

/-- One turn of the loop over the allowlist. -/
def forward (environ : Environ) (values : List (Text × Text)) (key : Text) : List (Text × Text) :=
  match truthy (environ key) with
  | some value => setMember key value values
  | none => values

/-- `env_values`. -/
def envValues (environ : Environ) (call : Call) (profileHostPath : Option Text) :
    List (Text × Text) :=
  let values := envPassthrough.foldl (forward environ) (callVariables call)
  match truthy profileHostPath with
  | some _ => setMember "BOT_PROFILE_DIR".toList "/profile".toList values
  | none => values

def buildSpawnArgs (cfg : SpawnSettings) (environ : Environ) (call : Call)
    (profileHostPath image : Option Text) (command : List Text) : List Text :=
  ["docker".toList, "run".toList, "--rm".toList, "--init".toList, "--shm-size=1g".toList,
    "--name=".toList ++ containerName call.id, "--memory=2g".toList, "--cpus=1.5".toList,
    "--pids-limit=512".toList, "--log-driver".toList, "json-file".toList, "--log-opt".toList,
    "max-size=10m".toList, "--log-opt".toList, "max-file=3".toList, "--network".toList,
    cfg.botDockerNetwork] ++
  (envValues environ call profileHostPath).flatMap (fun (key, value) =>
    ["-e".toList, key ++ '=' :: value]) ++
  ["-v".toList, cfg.audioHostPath ++ ":/audio".toList] ++
  (match truthy profileHostPath with
    | some path => ["-v".toList, path ++ ":/profile".toList]
    | none => []) ++
  [(truthy image).getD ("oreeai-bot:".toList ++ cfg.botImageTag)] ++ command

/-- What the spawned bot finds in its own `os.environ`; its image sets none of these variables. -/
def botEnviron (environ : Environ) (call : Call) (profileHostPath : Option Text) : Environ :=
  fun key => (envValues environ call profileHostPath).lookup key

/-! ## The readers -/

def envFloat (environ : Environ) (name : Text) (default : ℚ) (maximum : Option ℚ) : ℚ :=
  match strip ((environ name).getD []) with
  | [] => default
  | raw => match pyFloat raw with
    | some (.finite value) =>
        if value ≤ 0 ∨ maximum.any (· < value) then default else value
    | _ => default

structure Timeouts where
  waitingRoomS : ℚ
  emptyRoomS : ℚ
  aloneGraceS : ℚ
  maxRecordS : ℚ

def timeoutsFromEnv (environ : Environ) : Timeouts where
  waitingRoomS := envFloat environ "BOT_WAITING_ROOM_TIMEOUT".toList 600 none
  emptyRoomS := envFloat environ "BOT_EMPTY_ROOM_TIMEOUT".toList 300 none
  aloneGraceS := envFloat environ "BOT_ALONE_GRACE".toList 60 none
  maxRecordS := envFloat environ "BOT_MAX_RECORD_DURATION".toList 10800 none

theorem envFloat_pos (environ : Environ) (name : Text) {default : ℚ} (hdefault : 0 < default)
    (maximum : Option ℚ) : 0 < envFloat environ name default maximum := by
  unfold envFloat
  split
  · exact hdefault
  · split
    · split_ifs with hvalue
      · exact hdefault
      · push Not at hvalue
        exact hvalue.1
    · exact hdefault

/-! ## What the bot is given -/

theorem lookup_member_cons {α : Type*} (k k' : Text) (v : α) (members : List (Text × α)) :
    ((k', v) :: members).lookup k = if k = k' then some v else members.lookup k := by
  rw [List.lookup_cons]
  by_cases h : k = k'
  · rw [if_pos h, beq_iff_eq.2 h]
  · rw [if_neg h, beq_eq_false_iff_ne.2 h]

theorem lookup_setMember {α : Type*} (k k' : Text) (v : α) (members : List (Text × α)) :
    (setMember k' v members).lookup k = if k = k' then some v else members.lookup k := by
  induction members with
  | nil => exact lookup_member_cons k k' v []
  | cons m members ih =>
      obtain ⟨key, value⟩ := m
      rw [setMember]
      by_cases hkey : key = k'
      · rw [if_pos hkey, lookup_member_cons, lookup_member_cons, hkey]
        split_ifs <;> rfl
      · rw [if_neg hkey, lookup_member_cons, lookup_member_cons, ih]
        by_cases hk : k = key
        · have hne : k ≠ k' := fun h => hkey (hk.symm.trans h)
          rw [if_pos hk, if_pos hk, if_neg hne]
        · rw [if_neg hk, if_neg hk]

theorem lookup_forward (environ : Environ) (values : List (Text × Text)) (key k : Text) :
    (forward environ values key).lookup k =
      if k = key then (truthy (environ key)).or (values.lookup k) else values.lookup k := by
  unfold forward
  cases htruthy : truthy (environ key) with
  | none => simp
  | some value => rw [lookup_setMember]; simp

theorem lookup_foldl_forward (environ : Environ) (keys : List Text) (values : List (Text × Text))
    (k : Text) : (keys.foldl (forward environ) values).lookup k =
      if k ∈ keys then (truthy (environ k)).or (values.lookup k) else values.lookup k := by
  induction keys generalizing values with
  | nil => rfl
  | cons key keys ih =>
      rw [List.foldl_cons, ih, lookup_forward]
      by_cases hkey : k = key
      · subst hkey
        simp only [List.mem_cons_self, if_true]
        split_ifs
        · cases truthy (environ k) <;> simp
        · rfl
      · simp [hkey]

theorem ne_of_mem_envPassthrough : ∀ key ∈ envPassthrough,
    key ≠ "MEETING_URL".toList ∧ key ≠ "CALL_ID".toList ∧ key ≠ "CONSENT_ACK".toList := by
  decide

/-- The bot has a forwarded variable exactly when it is set and not empty in the runner's
environment. -/
theorem botEnviron_of_mem (environ : Environ) (call : Call) (profileHostPath : Option Text)
    {key : Text} (hkey : key ∈ envPassthrough) (hprofile : key ≠ "BOT_PROFILE_DIR".toList) :
    botEnviron environ call profileHostPath key = truthy (environ key) := by
  have hcall : (callVariables call).lookup key = none := by
    obtain ⟨hurl, hid, hconsent⟩ := ne_of_mem_envPassthrough key hkey
    rw [callVariables, lookup_member_cons, if_neg hurl, lookup_member_cons, if_neg hid,
      lookup_member_cons, if_neg hconsent]
    rfl
  have hvalues : (envPassthrough.foldl (forward environ) (callVariables call)).lookup key =
      truthy (environ key) := by
    rw [lookup_foldl_forward, if_pos hkey, hcall, Option.or_none]
  unfold botEnviron envValues
  cases truthy profileHostPath with
  | none => exact hvalues
  | some path =>
      change (setMember _ _ _).lookup key = _
      rw [lookup_setMember, if_neg hprofile, hvalues]

theorem envFloat_congr {environ environ' : Environ} {name : Text}
    (h : environ' name = truthy (environ name)) (default : ℚ) (maximum : Option ℚ) :
    envFloat environ' name default maximum = envFloat environ name default maximum := by
  have hraw : (environ' name).getD [] = (environ name).getD [] := by
    rw [h]
    cases environ name with
    | none => rfl
    | some value =>
        by_cases hvalue : value = []
        · rw [hvalue]
          rfl
        · rw [truthy, Option.filter_some_pos (by simpa using hvalue)]
  rw [envFloat, envFloat, hraw]

theorem timeoutsFromEnv_waitingRoomS (environ : Environ) (call : Call)
    (profileHostPath : Option Text) :
    (timeoutsFromEnv (botEnviron environ call profileHostPath)).waitingRoomS =
      envFloat environ "BOT_WAITING_ROOM_TIMEOUT".toList 600 none :=
  envFloat_congr (botEnviron_of_mem environ call profileHostPath (by decide) (by decide)) 600 none

theorem timeoutsFromEnv_maxRecordS (environ : Environ) (call : Call)
    (profileHostPath : Option Text) :
    (timeoutsFromEnv (botEnviron environ call profileHostPath)).maxRecordS =
      envFloat environ "BOT_MAX_RECORD_DURATION".toList 10800 none :=
  envFloat_congr (botEnviron_of_mem environ call profileHostPath (by decide) (by decide)) 10800 none

end Notetaker

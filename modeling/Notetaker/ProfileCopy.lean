import Notetaker.CallTransitions
import Notetaker.Effectful

/-!
# The copy of the signed-in profile

`run_call` with the helpers that copy the profile for the call and remove the copy. `shutil.copytree`
notes the `OSError` of an entry, goes on with the next one and raises at its end; any other exception
leaves it at once. Nothing takes back what it has copied. `_copy_profile` hands out the directory only
when the copy is complete, and the removal goes by what it hands out.

The state is the files under `AUDIO_HOST_PATH/.profile-<call_id>`, as paths below that directory.
-/

open PythonText PythonUuid

namespace Notetaker.ProfileCopy

abbrev Path := List Text

inductive ProfileEntry where
  | file (name : Text)
  /-- Copied as a link. -/
  | symlink (name : Text)
  | directory (name : Text) (entries : List ProfileEntry)

inductive HostError where
  | osError
  | other
  deriving DecidableEq

/-- What an operation on the disk comes to; a file may be there although the copy of it failed. -/
inductive DiskOutcome where
  | succeeds
  | fails (e : HostError) (created : Bool)

/-- The failure points of a copy, by the path below the profile directory. -/
structure CopyFaults where
  /-- `shutil.copy2`, or `os.symlink` with `copystat`. -/
  copy : Path → DiskOutcome
  scandir : Path → Except HostError Unit
  makedirs : Path → Except HostError Unit
  copystat : Path → Except HostError Unit

abbrev Copying := Effectful HostError (List Path)

section CopyTree

variable (faults : CopyFaults)

def copyFile (path : Path) : Copying Unit :=
  match faults.copy path with
  | .succeeds => .update (· ++ [path])
  | .fails e true => do
      .update (· ++ [path])
      .raise e
  | .fails e false => .raise e

/-- Whether an error was noted: `except OSError as why: errors.append(...)`. -/
def noting (x : Copying Unit) : Copying Bool :=
  .rescue (do x; return false) fun e =>
    match e with
    | .osError => return true
    | .other => .raise .other

/-- `copytree` of one directory around the loop over its entries. -/
def copyDirectory (path : Path) (loop : Copying Bool) : Copying Unit := do
  .attempt (faults.scandir path)
  .attempt (faults.makedirs path)
  let failed ← loop
  let statFailed ← noting (.attempt (faults.copystat path))
  if failed || statFailed then .raise .osError

mutual

def copyEntry (parent : Path) : ProfileEntry → Copying Bool
  | .file name | .symlink name => noting (copyFile faults (parent ++ [name]))
  | .directory name entries =>
      noting (copyDirectory faults (parent ++ [name]) (copyEntries (parent ++ [name]) entries))

def copyEntries (parent : Path) : List ProfileEntry → Copying Bool
  | [] => return false
  | entry :: entries => do
      let failed ← copyEntry parent entry
      let moreFailed ← copyEntries parent entries
      return failed || moreFailed

end

/-- `shutil.copytree(source, target, symlinks=True, dirs_exist_ok=False)` -/
def copytree (entries : List ProfileEntry) : Copying Unit :=
  copyDirectory faults [] (copyEntries faults [] entries)

end CopyTree

structure RunCallEnv where
  audioHostPath : Text
  botProfile : Text
  /-- `Path(source).exists()` -/
  profileExists : Except HostError Bool
  profile : List ProfileEntry
  faults : CopyFaults
  /-- The row of the call, as the session reads it. -/
  row : Except HostError (Option Call)
  buildSpawnArgs : Except HostError Unit
  /-- What the bot writes into the profile that is mounted. -/
  botWrites : List Path
  spawnBot : Except HostError (ExitCode × Option ResultPayload)
  applyExitStatus : Except HostError Unit

section RunCall

variable (env : RunCallEnv) (id : Uuid)

def profileTarget : Text := concat [env.audioHostPath, "/.profile-", id.text]

/-- `_copy_profile` -/
def copyProfile : Copying (Option Text) := do
  if env.botProfile = [] then return none
  if ¬ (← .attempt env.profileExists) then return none
  .rescue
    (do
      copytree env.faults env.profile
      return some (profileTarget env id))
    fun e =>
      match e with
      | .osError => return none
      | .other => .raise .other

/-- `_discard_profile`; the removal succeeds. -/
def discardProfile : Option Text → Copying Unit
  | none => pure ()
  | some _ => .update fun _ => []

/-- The `try` block; `none` when the call is not joinable any more. -/
def spawnCall (profileDir : Option Text) : Copying (Option (ExitCode × Option ResultPayload)) := do
  match ← .attempt env.row with
  | none => return none
  | some call =>
      if call.status ≠ .joining then return none
      .attempt env.buildSpawnArgs
      if profileDir.isSome then .update (· ++ env.botWrites)
      return some (← .attempt env.spawnBot)

def runCall : Copying Unit := do
  let profileDir ← copyProfile env id
  match ← (spawnCall env profileDir).ensure (discardProfile profileDir) with
  | none => return
  | some _ => .attempt env.applyExitStatus

end RunCall

/-! ## What is left of the copy -/

/-- No file remains when `run_call` has returned or raised. -/
def LeavesNoCopy (env : RunCallEnv) (id : Uuid) : Prop := (runCall env id []).2 = []

def Attempted (env : RunCallEnv) : Prop := env.botProfile ≠ [] ∧ env.profileExists = .ok true

def FailsHalfway (faults : CopyFaults) (entries : List ProfileEntry) : Prop :=
  (∃ e, (copytree faults entries []).1 = .error e) ∧ (copytree faults entries []).2 ≠ []

section Specs

variable {env : RunCallEnv} {id : Uuid} {files : List Path}

theorem spawnCall_none (env : RunCallEnv) (files : List Path) :
    (spawnCall env none files).2 = files := by
  have hkeeps : Effectful.Keeps (· = files) (spawnCall env none) := by
    unfold spawnCall
    refine (Effectful.keeps_attempt _).bind fun row => ?_
    cases row with
    | none => exact Effectful.keeps_pure _
    | some call =>
        dsimp only
        split_ifs with hstatus hmounted
        · exact Effectful.keeps_pure _
        · cases hmounted
        · refine (Effectful.keeps_attempt _).bind fun _ => ?_
          exact (Effectful.keeps_attempt _).bind fun _ => Effectful.keeps_pure _
  exact hkeeps files rfl

variable (env files) in
/-- The `finally` clause removes the copy that was handed out, and no other. -/
theorem spawnCall_ensure (profileDir : Option Text) :
    ∃ r, (spawnCall env profileDir).ensure (discardProfile profileDir) files =
      (r, if profileDir.isSome then [] else files) := by
  cases profileDir with
  | none =>
      have hspawn : spawnCall env none files = ((spawnCall env none files).1, files) :=
        Prod.ext rfl (spawnCall_none env files)
      exact ⟨_, Effectful.ensure_of_ok hspawn rfl⟩
  | some target => exact ⟨_, Effectful.ensure_of_ok (Prod.eta _).symm rfl⟩

theorem runCall_of_copied {profileDir : Option Text}
    (h : copyProfile env id [] = (.ok profileDir, files)) :
    (runCall env id []).2 = if profileDir.isSome then [] else files := by
  obtain ⟨r, hspawn⟩ := spawnCall_ensure env files profileDir
  unfold runCall
  rw [Effectful.bind_of_ok h]
  rcases r with e | exit
  · rw [Effectful.bind_of_error hspawn]
  · rw [Effectful.bind_of_ok hspawn]
    cases exit <;> rfl

variable (id) in
theorem copyProfile_of_not_attempted (h : ¬ Attempted env) :
    (∃ e, copyProfile env id [] = (.error e, [])) ∨ copyProfile env id [] = (.ok none, []) := by
  unfold copyProfile
  by_cases hprofile : env.botProfile = []
  · rw [if_pos hprofile]
    exact .inr rfl
  · rw [if_neg hprofile]
    cases hexists : env.profileExists with
    | error e => exact .inl ⟨e, rfl⟩
    | ok found =>
        cases found with
        | true => exact absurd ⟨hprofile, hexists⟩ h
        | false => exact .inr rfl

variable (id) in
theorem copyProfile_of_attempted (h : Attempted env) {r : Except HostError Unit}
    (hcopy : copytree env.faults env.profile [] = (r, files)) :
    (r = .ok () ∧ copyProfile env id [] = (.ok (some (profileTarget env id)), files)) ∨
      (∃ e, r = .error e ∧
        (copyProfile env id [] = (.ok none, files) ∨ copyProfile env id [] = (.error e, files))) := by
  obtain ⟨hprofile, hexists⟩ := h
  unfold copyProfile
  rw [if_neg hprofile, hexists]
  rcases r with e | u
  · right
    have hbody : (do copytree env.faults env.profile; return some (profileTarget env id) :
        Copying (Option Text)) [] = (.error e, files) := Effectful.bind_of_error hcopy
    refine ⟨e, rfl, ?_⟩
    cases e with
    | osError => exact .inl (Effectful.rescue_of_error hbody)
    | other => exact .inr (Effectful.rescue_of_error hbody)
  · left
    have hbody : (do copytree env.faults env.profile; return some (profileTarget env id) :
        Copying (Option Text)) [] = (.ok (some (profileTarget env id)), files) :=
      Effectful.bind_of_ok hcopy
    exact ⟨rfl, Effectful.rescue_of_ok hbody⟩

theorem runCall_of_error {e : HostError} (h : copyProfile env id [] = (.error e, files)) :
    (runCall env id []).2 = files := by
  unfold runCall
  rw [Effectful.bind_of_error h]

end Specs

/-- No copy outlives its call exactly when none fails with files of it on the disk. -/
theorem leavesNoCopy_iff (env : RunCallEnv) (id : Uuid) :
    LeavesNoCopy env id ↔ ¬ (Attempted env ∧ FailsHalfway env.faults env.profile) := by
  unfold LeavesNoCopy FailsHalfway
  by_cases hattempted : Attempted env
  · rcases hcopy : copytree env.faults env.profile [] with ⟨r, files⟩
    rcases copyProfile_of_attempted id hattempted hcopy with ⟨rfl, hcopied⟩ | ⟨e, rfl, hfailed⟩
    · rw [runCall_of_copied hcopied]
      simp
    · have hleft : (runCall env id []).2 = files := by
        rcases hfailed with hnone | herror
        · exact runCall_of_copied hnone
        · exact runCall_of_error herror
      rw [hleft]
      simp [hattempted]
  · have hleft : (runCall env id []).2 = [] := by
      rcases copyProfile_of_not_attempted id hattempted with ⟨e, herror⟩ | hnone
      · exact runCall_of_error herror
      · exact runCall_of_copied hnone
    simp [hleft, hattempted]

/-! ## A full disk -/

def fullDisk : RunCallEnv where
  audioHostPath := "/var/lib/oreeai/audio"
  botProfile := "/srv/profile"
  profileExists := .ok true
  profile := [.file "Cookies", .file "History"]
  faults := {
    copy := fun path => if path = [("History" : Text)] then .fails .osError true else .succeeds
    scandir := fun _ => .ok ()
    makedirs := fun _ => .ok ()
    copystat := fun _ => .ok () }
  row := .ok (some (sampleCall .joining))
  buildSpawnArgs := .ok ()
  botWrites := []
  spawnBot := .ok (some 0, none)
  applyExitStatus := .ok ()

/-- The bot runs without a profile, and the cookies stay. -/
theorem not_leavesNoCopy_fullDisk : ¬ LeavesNoCopy fullDisk 0 := by
  have hleft : (runCall fullDisk 0 []).2 = ([["Cookies"], ["History"]] : List Path) := rfl
  unfold LeavesNoCopy
  rw [hleft]
  exact List.cons_ne_nil _ _

end Notetaker.ProfileCopy

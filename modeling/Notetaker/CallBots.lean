import Notetaker.ApiSystem
import Notetaker.BotProcess

/-!
# The bots of the table's calls

A bot that the runner starts for a call of the table finds the variables of the call in its environment. So
it always has the consent of the request behind the row, and joins the meeting of this row only.
-/

open PythonText PythonFloat PythonUuid JsonText

namespace Notetaker

section Spawned

/-- The variables of the call reach the bot as they are. -/
theorem botEnviron_of_notMem (environ : Environ) (call : Call) (profileHostPath : Option Text)
    {key : Text} (hkey : key ∉ envPassthrough) :
    botEnviron environ call profileHostPath key = (callVariables call).lookup key := by
  have hne : key ≠ "BOT_PROFILE_DIR".toList := fun h => hkey (h ▸ by decide)
  have hvalues : (envPassthrough.foldl (forward environ) (callVariables call)).lookup key =
      (callVariables call).lookup key := by
    rw [lookup_foldl_forward, if_neg hkey]
  unfold botEnviron envValues
  cases truthy profileHostPath with
  | none => exact hvalues
  | some path =>
      change (setMember _ _ _).lookup key = _
      rw [lookup_setMember, if_neg hne, hvalues]

variable (environ : Environ) (row : Call) (profileHostPath : Option Text)

theorem consentGranted_botEnviron : consentGranted (botEnviron environ row profileHostPath) = true := by
  unfold consentGranted
  rw [botEnviron_of_notMem environ row profileHostPath (by decide)]
  rfl

theorem meetingUrlOf_botEnviron :
    meetingUrlOf (botEnviron environ row profileHostPath) = strip row.meetingUrl := by
  unfold meetingUrlOf stripped
  rw [botEnviron_of_notMem environ row profileHostPath (by decide)]
  rfl

theorem callIdOf_botEnviron : callIdOf (botEnviron environ row profileHostPath) = row.id.text := by
  have hspace : ∀ c ∈ row.id.text, isSpace c = false :=
    Uuid.forall_mem_text (by decide) (by decide) row.id
  have hstrip : stripped (botEnviron environ row profileHostPath) "CALL_ID" = row.id.text := by
    unfold stripped
    rw [botEnviron_of_notMem environ row profileHostPath (by decide)]
    exact strip_of_forall hspace
  have hne : row.id.text ≠ [] := by simp [Uuid.text]
  unfold callIdOf
  rw [hstrip]
  exact if_neg hne

theorem getD_truthy (s : Option Text) : (truthy s).getD [] = s.getD [] := by
  cases s with
  | none => rfl
  | some value =>
      by_cases hvalue : value = []
      · rw [hvalue]
        rfl
      · rw [truthy, Option.filter_some_pos (by simpa using hvalue)]

theorem authMode_botEnviron :
    authMode (botEnviron environ row profileHostPath) = authMode environ := by
  unfold authMode
  rw [botEnviron_of_mem environ row profileHostPath (by decide) (by decide), getD_truthy]

theorem environmentName_botEnviron :
    environmentName (botEnviron environ row profileHostPath) = environmentName environ := by
  unfold environmentName
  rw [botEnviron_of_mem environ row profileHostPath (by decide) (by decide)]
  cases environ "ENVIRONMENT".toList with
  | none => rfl
  | some value =>
      by_cases hvalue : value = []
      · rw [hvalue]
        rfl
      · rw [truthy, Option.filter_some_pos (by simpa using hvalue)]

/-- The URL of a meeting is not blank. -/
theorem strip_ne_nil_of_isMeetUrl {s : Text} (h : IsMeetUrl s) : strip s ≠ [] := by
  obtain ⟨a, b, c, query, rfl, -⟩ := h
  have hhead : "https://meet.google.com/".toList ++ (a ++ '-' :: (b ++ '-' :: (c ++ query))) =
      [] ++ ['h'] ++ ("ttps://meet.google.com/".toList ++
        (a ++ '-' :: (b ++ '-' :: (c ++ query)))) := rfl
  have hlstrip : ∀ t : Text, lstrip ([] ++ ['h'] ++ t) = [] ++ ['h'] ++ t := fun t =>
    List.dropWhile_cons_of_neg (by decide)
  rw [hhead, strip, hlstrip, rstrip_append _ _ rfl]
  exact List.cons_ne_nil _ _

end Spawned

/-- What a bot of the runner does for a row. -/
structure SpawnedBot (row : Call) (environ : Environ) (profileHostPath : Option Text) (b : BrowserRun)
    (x : Process BotExit) : Prop where
  /-- The result line is the one of the call, and never says that the consent is missing. -/
  reported : ∃ report, .result row.id.text report ∈ x.events ∧ x.result = .ok report.exitCode ∧
    report.exitCode ≠ .consentMissing
  joins : ∀ url, .join url ∈ x.events ↔ url = strip row.meetingUrl ∧
    Reaches (botEnviron environ row profileHostPath) b (authMode environ)
  /-- In the production of the runner a signed-in bot joins under its own name only. -/
  identity : ∀ url, .join url ∈ x.events → authMode environ = .authenticated →
    environmentName environ = "production".toList →
      accountDisplayName b.isAlnum b.session.account = .ok (some botNameFixed)

/-- Every bot that the runner starts for a call of a reachable state joins that call's meeting, for which a
client with the key has submitted the consent, or fails with another exit code than the one of a missing
consent. -/
theorem spawnedBot_of_reachable {cfg : ApiSettings} {s : ApiState} (h : (apiSystem cfg).Reachable s)
    {row : Call} (hrow : row ∈ s.worker.runner.rows) (environ : Environ)
    (profileHostPath : Option Text) (b : BrowserRun) {joined : Bot BotOutcome}
    (hjoined : Meet.Joins (botEnviron environ row profileHostPath) joined) :
    Consented cfg s.exchanges row ∧
      SpawnedBot row environ profileHostPath b
        (Meet.main (botEnviron environ row profileHostPath) b joined) := by
  have hconsented := (tableKept_of_reachable h).consented hrow
  have hanswers : Answers _ (Meet.main (botEnviron environ row profileHostPath) b joined) :=
    Meet.answers_main hjoined
  have hgranted := consentGranted_botEnviron environ row profileHostPath
  have hurl := meetingUrlOf_botEnviron environ row profileHostPath
  have hjoins : ∀ url, .join url ∈
      (Meet.main (botEnviron environ row profileHostPath) b joined).events ↔
        url = strip row.meetingUrl ∧
          Reaches (botEnviron environ row profileHostPath) b (authMode environ) := by
    intro url
    have hinner : (MainEvent.join url).Inner := trivial
    rw [Meet.mem_main hinner, InPage, hurl, authMode_botEnviron]
    constructor
    · rintro ⟨-, -, hpage, heq, hsession⟩
      exact ⟨heq, hpage, hsession⟩
    · rintro ⟨heq, hreaches⟩
      exact ⟨hgranted, strip_ne_nil_of_isMeetUrl hconsented.isMeetUrl, hreaches.page, heq,
        hreaches.session⟩
  refine ⟨hconsented, ?_, hjoins, ?_⟩
  · obtain ⟨report, hreport, hexit⟩ := hanswers.reported
    rw [callIdOf_botEnviron] at hreport
    refine ⟨report, hreport, hexit, fun hmissing => ?_⟩
    rw [hmissing] at hexit
    exact absurd (hanswers.refused.1 hexit) (by rw [hgranted]; decide)
  · intro url hjoin hmode hproduction
    obtain ⟨-, hreaches⟩ := (hjoins url).1 hjoin
    obtain ⟨-, -, name, hname, hidentity⟩ := hreaches.session hmode
    rw [environmentName_botEnviron] at hidentity
    rcases hidentity with rfl | hother
    · exact hname
    · exact absurd hproduction hother

theorem workedRow_isSome : (findRow workedCallState.worker.runner.rows 7).isSome := by decide +kernel

def workedRow : Call := (findRow workedCallState.worker.runner.rows 7).get workedRow_isSome

def workedEnviron : Environ := botEnviron (fun _ => none) workedRow none

theorem workedEnviron_isSome : (runEnd (guestRun workedEnviron).2 (.ok ())).isSome := by
  decide +kernel

theorem spawnedBot_of_reachable_workedRow :
    SpawnedBot workedRow (fun _ => none) none smoothBrowser
      (Meet.main workedEnviron smoothBrowser (guestJoined workedEnviron workedEnviron_isSome)) := by
  have hrow : findRow workedCallState.worker.runner.rows 7 = some workedRow :=
    (Option.some_get workedRow_isSome).symm
  have hmode : authMode workedEnviron = .anonymous := authMode_botEnviron _ _ _
  exact (spawnedBot_of_reachable workedCall_reachable (findRow_mem hrow).1 _ none smoothBrowser
    (joins_guestJoined workedEnviron_isSome hmode)).2

end Notetaker

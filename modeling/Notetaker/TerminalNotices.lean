import Notetaker.MeetStates
import Notetaker.RecordingEnds
import Notetaker.ZoomStates

/-!
# Notices in a live call

A call is live at a poll if the in-call control is visible and no dialog says that the call is over. The
Zoom loop never ends a live call as removed or ended. The Meet loop does so whenever a visible text reads
like a notice.
-/

open PythonText PythonFloat TextRegex

namespace Notetaker

/-- What a turn meets: the page, and the part of the poll that is not read from it. -/
structure Encounter where
  page : Page
  rest : ZoomPoll

inductive Platform where
  | meet | zoom
  deriving DecidableEq

namespace Platform

def loop (platform : Platform) (cfg : LoopConfig) (isAlnum : Char → Bool) :
    PollingLoop LoopState Encounter BotEvent PageError BotOutcome :=
  match platform with
  | .meet => (Meet.loop cfg).comap fun e => Meet.observe e.page isAlnum e.rest.toPoll
  | .zoom => (Zoom.loop cfg).comap fun e => Zoom.observe e.page isAlnum e.rest

def ControlVisible : Platform → Page → Prop
  | .meet, page => ∃ button, Meet.selectors.leaveCallButton page = .ok (some button)
  | .zoom, page => ∃ detail, Zoom.inCallControls page Zoom.selectors = .ok (true, detail)

def terminalDialog : Platform → Page → Reading (Option Element)
  | .meet, page => firstVisible page none [.role .dialog Meet.removed, .role .dialog Meet.callEnded]
  | .zoom, page => Zoom.client [.role .dialog Zoom.removed, .role .dialog Zoom.callEnded] page

structure LiveCall (platform : Platform) (page : Page) : Prop where
  control : platform.ControlVisible page
  dialog : platform.terminalDialog page = .ok none

end Platform

def BotOutcome.Terminal (outcome : BotOutcome) : Prop :=
  outcome.endReason = some .removed ∨ outcome.endReason = some .callEnded

section Runs

variable (platform : Platform) (cfg : LoopConfig) (isAlnum : Char → Bool) (start : ℚ)

/-- `e` is met while recording, with the loop in the state `t`. -/
def MetRecording (encounters : List Encounter) (e : Encounter) (t : LoopState) : Prop :=
  ∃ before after, encounters = before ++ e :: after ∧
    ((platform.loop cfg isAlnum).run (.initial start) before).2 = .polling t ∧ t.recordingStarted

/-- At no poll of a live call does the loop report a removal or the end of the call. -/
def KeepsLiveCalls (encounters : List Encounter) : Prop :=
  ∀ e t, MetRecording platform cfg isAlnum start encounters e t → platform.LiveCall e.page →
    ∀ outcome, ((platform.loop cfg isAlnum).step t e).result = .ok (.inr outcome) →
      ¬ outcome.Terminal

end Runs

/-! ## Dialogs and notices -/

theorem firstVisible_cons (page : Page) (root : Option Text) (locator : Locator)
    (locators : List Locator) :
    firstVisible page root (locator :: locators) = firstVisible page root [locator] >>= fun found =>
      match found with
      | some element => .ok (some element)
      | none => firstVisible page root locators := by
  rw [firstVisible, firstVisible]
  cases page.query root locator with
  | error e => rfl
  | ok found =>
      cases hhead : found.head? with
      | none =>
          simp only [bind, Except.bind, hhead]
          rfl
      | some element =>
          simp only [bind, Except.bind, hhead]
          cases element.visible with
          | error e => rfl
          | ok visible => cases visible <;> rfl

theorem firstVisible_pair_eq_none {page : Page} {root : Option Text} {first second : Locator}
    (h : firstVisible page root [first, second] = .ok none) :
    firstVisible page root [first] = .ok none ∧ firstVisible page root [second] = .ok none := by
  rw [firstVisible_cons] at h
  cases hfirst : firstVisible page root [first] with
  | error e =>
      rw [hfirst] at h
      cases h
  | ok found =>
      rw [hfirst] at h
      cases found with
      | none => exact ⟨rfl, h⟩
      | some element => cases h

theorem noticeState_ne_nil {page : Page} {query : SelectorQuery} {heading absent detail : Text}
    (hheading : heading ≠ []) (h : noticeState page query heading absent = .ok (true, detail)) :
    detail ≠ [] := by
  unfold noticeState at h
  cases hquery : query page with
  | error e =>
      rw [hquery] at h
      cases h
  | ok found =>
      rw [hquery] at h
      cases found with
      | none => cases h
      | some notice =>
          change (locatorDetail notice >>= fun d => pure (true, concat [heading, d])) = _ at h
          cases hdetail : locatorDetail notice with
          | error e =>
              rw [hdetail] at h
              cases h
          | ok d =>
              rw [hdetail] at h
              cases h
              simp [concat, hheading]

namespace Zoom

variable {page : Page}

/-- Without a dialog the in-call controls overrule every text. -/
theorem terminalState_ne_of_controls {selectorSet : SelectorSet}
    {dialogQuery noticeQuery : SelectorQuery}
    {dialogHeading noticeHeading absent ambiguous controlsDetail : Text}
    (hdialog : dialogQuery page = .ok none)
    (hcontrols : inCallControls page selectorSet = .ok (true, controlsDetail)) (detail : Text) :
    terminalState page selectorSet dialogQuery noticeQuery dialogHeading noticeHeading absent
      ambiguous ≠ .ok (true, detail) := by
  intro h
  unfold terminalState at h
  rw [hdialog] at h
  change noticeQuery page >>= _ = _ at h
  cases hnotice : noticeQuery page with
  | error e =>
      rw [hnotice] at h
      cases h
  | ok notice =>
      rw [hnotice] at h
      cases notice with
      | none => cases h
      | some notice =>
          change inCallControls page selectorSet >>= _ = _ at h
          rw [hcontrols] at h
          cases h

theorem not_isRemoved (hlive : Platform.zoom.LiveCall page) (detail : Text) :
    isRemoved page selectors ≠ .ok (true, detail) := by
  obtain ⟨⟨controls, hcontrols⟩, hdialog⟩ := hlive
  exact terminalState_ne_of_controls (firstVisible_pair_eq_none hdialog).1 hcontrols detail

theorem not_isCallEnded (hlive : Platform.zoom.LiveCall page) (detail : Text) :
    isCallEnded page selectors ≠ .ok (true, detail) := by
  obtain ⟨⟨controls, hcontrols⟩, hdialog⟩ := hlive
  exact terminalState_ne_of_controls (firstVisible_pair_eq_none hdialog).2 hcontrols detail

end Zoom

/-! ## The Meet loop -/

namespace Meet

/-- A visible text reads like a removal or like the end of the call, and the turn gets as far as
reporting it. -/
structure TextEndsCall (e : Encounter) : Prop where
  notStopped : e.rest.stopRequested = false
  admission : ∃ admitted, isAdmitted e.page selectors = .ok admitted
  notice : ∃ removed ended, isRemoved e.page selectors = .ok removed ∧
    isCallEnded e.page selectors = .ok ended ∧ (removed.1 ∨ ended.1)
  recorderStops : ∃ report, e.rest.recorderStop = .ok report

variable {cfg : LoopConfig} {isAlnum : Char → Bool} {s : LoopState} {e : Encounter}

theorem not_controlsAbsent (hlive : Platform.meet.LiveCall e.page) :
    ¬ ControlsAbsent (observe e.page isAlnum e.rest.toPoll) := by
  rintro ⟨-, habsent⟩
  obtain ⟨button, hbutton⟩ := hlive.control
  change (selectors.leaveCallButton e.page >>= _) = _ at habsent
  rw [hbutton] at habsent
  cases habsent

theorem textEndsCall_of_terminal (hs : s.recordingStarted)
    (hlive : Platform.meet.LiveCall e.page) {outcome : BotOutcome}
    (hstep : (step cfg s (observe e.page isAlnum e.rest.toPoll)).result = .ok (.inr outcome))
    (hterminal : outcome.Terminal) : TextEndsCall e := by
  have hend := (step_ensures hs _ hstep).2
  have hstop : e.rest.stopRequested = false := by
    by_contra h
    have hstopped := hstep
    rw [step, if_pos (by simpa [observe] using h), handleStop, if_pos hs] at hstopped
    have hends : (finishRecording side cfg s (observe e.page isAlnum e.rest.toPoll).toPoll
        "stopped" "stop requested" .ok none).Ensures (EndsBy fun _ endReason => endReason = none) :=
      finishRecording_ensures rfl
    have hnone : outcome.endReason = none := (hends _ hstopped).2
    rcases hterminal with h' | h' <;> rw [hnone] at h' <;> cases h'
  rw [step, if_neg (by simp [observe, hstop])] at hstep
  obtain ⟨removed, hremoved, hstep⟩ := EventLog.result_bind_eq_ok.1 hstep
  obtain ⟨ended, hended, hstep⟩ := EventLog.result_bind_eq_ok.1 hstep
  obtain ⟨admitted, hadmitted, hstep⟩ := EventLog.result_bind_eq_ok.1 hstep
  rw [if_pos hs] at hstep
  have hnotice : removed.1 ∨ ended.1 := by
    rcases hend.of_terminal hterminal with ⟨detail, hdetail⟩ | ⟨detail, hdetail⟩ | habsent
    · cases hremoved.symm.trans hdetail
      exact .inl rfl
    · cases hended.symm.trans hdetail
      exact .inr rfl
    · exact absurd habsent (not_controlsAbsent hlive)
  refine ⟨hstop, ⟨admitted, hadmitted⟩, ⟨removed, ended, hremoved, hended, hnotice⟩, ?_⟩
  rw [recordingTurn] at hstep
  split_ifs at hstep with h1 h2
  · exact exists_report_of_endOnNotice hstep
  · exact exists_report_of_endOnNotice hstep
  all_goals exact absurd hnotice (not_or.2 ⟨h1, h2⟩)

theorem exists_terminal_of_textEndsCall (hs : s.recordingStarted) (h : TextEndsCall e) :
    ∃ outcome, (step cfg s (observe e.page isAlnum e.rest.toPoll)).result = .ok (.inr outcome) ∧
      outcome.Terminal := by
  obtain ⟨hstop, ⟨admitted, hadmitted⟩, ⟨⟨removed, removedDetail⟩, ⟨ended, endedDetail⟩, hremoved,
    hended, hnotice⟩, ⟨report, hreport⟩⟩ := h
  have hstep : step cfg s (observe e.page isAlnum e.rest.toPoll) = recordingTurn cfg s
      (observe e.page isAlnum e.rest.toPoll) (removed, removedDetail) (ended, endedDetail)
      admitted := by
    rw [step, if_neg (by simp [observe, hstop])]
    change EventLog.read (isRemoved e.page selectors) >>= _ = _
    rw [hremoved, EventLog.read_ok_bind]
    change EventLog.read (isCallEnded e.page selectors) >>= _ = _
    rw [hended, EventLog.read_ok_bind]
    change EventLog.read (isAdmitted e.page selectors) >>= _ = _
    rw [hadmitted, EventLog.read_ok_bind, if_pos hs]
  rw [hstep, recordingTurn]
  by_cases h1 : removed = true
  · subst h1
    rw [if_pos rfl]
    refine ⟨_, endOnNotice_eq_ok hreport (noticeState_ne_nil ?_ hremoved) ?_, .inl rfl⟩
    · decide
    · rfl
  · have h2 : ended = true := hnotice.resolve_left h1
    subst h2
    rw [if_neg h1, if_pos rfl]
    refine ⟨_, endOnNotice_eq_ok hreport (noticeState_ne_nil ?_ hended) ?_, .inr rfl⟩
    · decide
    · rfl

end Meet

/-! ## Both platforms -/

theorem Zoom.not_terminal {cfg : LoopConfig} {isAlnum : Char → Bool} {s : LoopState} {e : Encounter}
    (hs : s.recordingStarted) (hlive : Platform.zoom.LiveCall e.page) {outcome : BotOutcome}
    (hstep : (step cfg s (observe e.page isAlnum e.rest)).result = .ok (.inr outcome)) :
    ¬ outcome.Terminal := by
  have hend := (step_ensures hs _ hstep).2
  intro hterminal
  rcases hend.of_terminal hterminal with ⟨detail, hdetail⟩ | ⟨detail, hdetail⟩ | ⟨detail, habsent⟩
  · exact not_isRemoved hlive detail hdetail
  · exact not_isCallEnded hlive detail hdetail
  · obtain ⟨controls, hcontrols⟩ := hlive.control
    cases habsent.symm.trans hcontrols

/-- A run keeps every live call exactly when none of its polls while recording is a poll of the Meet
loop at which a visible text of a live call reads like a notice. -/
theorem keepsLiveCalls_iff (platform : Platform) (cfg : LoopConfig) (isAlnum : Char → Bool)
    (start : ℚ) (encounters : List Encounter) :
    KeepsLiveCalls platform cfg isAlnum start encounters ↔
      ∀ e t, MetRecording platform cfg isAlnum start encounters e t → platform.LiveCall e.page →
        ¬ (platform = .meet ∧ Meet.TextEndsCall e) := by
  constructor
  · rintro h e t hmet hlive ⟨rfl, htext⟩
    obtain ⟨before, after, hsplit, hrun, hs⟩ := hmet
    obtain ⟨outcome, hstep, hterminal⟩ := Meet.exists_terminal_of_textEndsCall hs htext
    exact h e t ⟨before, after, hsplit, hrun, hs⟩ hlive outcome hstep hterminal
  · intro h e t hmet hlive outcome hstep
    obtain ⟨before, after, hsplit, hrun, hs⟩ := id hmet
    cases platform with
    | meet =>
        intro hterminal
        exact h e t hmet hlive ⟨rfl, Meet.textEndsCall_of_terminal hs hlive hstep hterminal⟩
    | zoom => exact Zoom.not_terminal hs hlive hstep

/-! ## A chat message that ends a call -/

def leaveCallNode : Node where
  role := some .button
  name := "Leave call"
  text := []
  childTexts := []
  ariaLabel := some "Leave call"
  innerText := []
  selectors := []
  visible := true

def chatMessage (message : Text) : Node where
  role := none
  name := []
  text := message
  childTexts := []
  ariaLabel := none
  innerText := message
  selectors := []
  visible := true

def meetCall (messages : List Text) : Page :=
  Document.page ⟨leaveCallNode :: messages.map chatMessage, []⟩

def removalGossip : Encounter where
  page := meetCall ["Ana: she removed you from the list"]
  rest := sampleRest 4

/-- A chat message about a removal ends the recording of a call that goes on. -/
theorem not_keepsLiveCalls_chat :
    ¬ KeepsLiveCalls .meet sampleConfig (fun _ => false) 0
      [⟨meetCall [], sampleRest 2⟩, removalGossip] := by
  intro h
  have hlive : Platform.meet.LiveCall removalGossip.page := ⟨⟨_, rfl⟩, rfl⟩
  have htext : Meet.TextEndsCall removalGossip :=
    ⟨rfl, ⟨_, rfl⟩, ⟨_, _, rfl, rfl, .inl rfl⟩, ⟨_, rfl⟩⟩
  have hmet : ∃ t : LoopState, t.recordingStarted ∧ MetRecording .meet sampleConfig
      (fun _ => false) 0 [⟨meetCall [], sampleRest 2⟩, removalGossip] removalGossip t :=
    ⟨_, rfl, [_], [], rfl, rfl, rfl⟩
  obtain ⟨t, hs, hmet⟩ := hmet
  obtain ⟨outcome, hstep, hterminal⟩ := Meet.exists_terminal_of_textEndsCall hs htext
  exact h removalGossip t hmet hlive outcome hstep hterminal

end Notetaker

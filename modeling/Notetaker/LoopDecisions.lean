import Notetaker.RecordingEnds

/-!
# What a turn of the loops decides

A turn goes on polling in one of nine ways or ends with an outcome for one of eleven causes, on both
platforms alike. `GoesOn` and `Decides` say what each of them requires of the poll and does to the
variables of the loop. What holds over whole runs follows from them.
-/

open PythonText PythonFloat

namespace Notetaker

/-! ## Readings -/

/-- What a count and the text about being alone tell of the room. -/
inductive RoomReading where
  | others | alone | unknown
  deriving DecidableEq

def roomReading (count : Option ℕ) (alone : Bool) : RoomReading :=
  if count.any (2 ≤ ·) then .others else if alone then .alone else .unknown

/-- The participant reading of a poll, when neither part of it raises. -/
def Poll.room (poll : Poll) : Option RoomReading :=
  match poll.participantCount, poll.botAlone with
  | .ok (count, _), .ok (alone, _) => some (roomReading count alone)
  | _, _ => none

/-- In the Meet loop these are the in-call controls too. -/
def Poll.readsAdmitted (poll : Poll) : Bool :=
  match poll.admitted with
  | .ok (admitted, _) => admitted
  | .error _ => false

def ZoomPoll.readsControls (poll : ZoomPoll) : Bool :=
  match poll.inCallControls with
  | .ok (visible, _) => visible
  | .error _ => false

theorem Poll.readsAdmitted_of_ok {poll : Poll} {admitted : Bool × Text}
    (h : poll.admitted = .ok admitted) : poll.readsAdmitted = admitted.1 := by
  rw [Poll.readsAdmitted, h]

theorem ZoomPoll.readsControls_of_ok {poll : ZoomPoll} {anchor : Bool × Text}
    (h : poll.inCallControls = .ok anchor) : poll.readsControls = anchor.1 := by
  rw [ZoomPoll.readsControls, h]

/-- What the loops read alike. A participant reading is taken where the in-call `controls` show; where
they are `gone`, the poll counts towards the end of the call. -/
structure LoopView (P : Type) where
  poll : P → Poll
  controls : P → Bool
  gone : P → Prop

def Meet.view : LoopView MeetPoll where
  poll := MeetPoll.toPoll
  controls poll := poll.readsAdmitted
  gone := Meet.ControlsAbsent

def Zoom.view : LoopView ZoomPoll where
  poll := ZoomPoll.toPoll
  controls := ZoomPoll.readsControls
  gone := Zoom.ControlsAbsent

/-! ## The ways of a turn -/

def unavailableReason (cfg : LoopConfig) : Text :=
  concat ["participant count unavailable; empty-room timeout of ",
    reprFloat cfg.timeouts.emptyRoomS, " seconds elapsed"]

section Ways

variable (cfg : LoopConfig) (s : LoopState) (poll : Poll) (controls : Bool) (gone : Prop)

/-- A poll while recording that neither a notice nor the recorder nor the clock ends. -/
structure KeepsRecording : Prop where
  recording : s.recordingStarted
  time : poll.now - s.admittedAt < cfg.timeouts.maxRecordS

inductive GoesOn : LoopState → Prop where
  | waits (next : ℚ) (hs : s.recordingStarted = false) (hadmitted : poll.readsAdmitted = false)
      (htime : poll.now - s.start < cfg.timeouts.waitingRoomS) :
      GoesOn { s with nextAdmissionEvidence := next }
  | began (hs : s.recordingStarted = false) (hadmitted : poll.readsAdmitted) :
      GoesOn { s with
        phase := .inCall
        recordingStarted := true
        admittedAt := poll.now
        unknownSince := some poll.now
        nextUnknownEvidence := poll.now + 30 }
  | others (h : KeepsRecording cfg s poll) (hcontrols : controls) (hroom : poll.room = some .others) :
      GoesOn { s with
        missedControls := 0
        sawOthers := true
        aloneSince := none
        unknownSince := none }
  | aloneWithHistory (h : KeepsRecording cfg s poll) (hcontrols : controls)
      (hroom : poll.room = some .alone) (hothers : s.sawOthers)
      (htime : ∀ since ∈ s.aloneSince, poll.now - since < cfg.timeouts.aloneGraceS) :
      GoesOn { s with missedControls := 0, aloneSince := some (s.aloneSince.getD poll.now) }
  | emptyRoom (h : KeepsRecording cfg s poll) (hcontrols : controls)
      (hroom : poll.room = some .alone) (hothers : s.sawOthers = false)
      (htime : poll.now - s.admittedAt < cfg.timeouts.emptyRoomS) :
      GoesOn { s with missedControls := 0, unknownSince := none }
  | lostCount (h : KeepsRecording cfg s poll) (hcontrols : controls)
      (hroom : poll.room = some .unknown) (hothers : s.sawOthers) :
      GoesOn { s with missedControls := 0, aloneSince := none, unknownSince := none }
  | unknownRoom (next : ℚ) (h : KeepsRecording cfg s poll) (hcontrols : controls)
      (hroom : poll.room = some .unknown) (hothers : s.sawOthers = false)
      (htime : poll.now - s.unknownSince.getD poll.now < cfg.timeouts.emptyRoomS) :
      GoesOn { s with
        missedControls := 0
        unknownSince := some (s.unknownSince.getD poll.now)
        nextUnknownEvidence := next }
  /-- Meet's knocking text while the leave control is there. -/
  | contradicted (h : KeepsRecording cfg s poll) (hcontrols : controls = false) :
      GoesOn { s with missedControls := 0 }
  | missed (h : KeepsRecording cfg s poll) (hcontrols : controls = false) (hgone : gone)
      (hmissed : s.missedControls + 1 < endedConfirmationPolls) :
      GoesOn { s with missedControls := s.missedControls + 1 }

inductive Decides : BotExit → Option EndReason → Text → Bool → Prop where
  | stopped (reason : Text) (h : poll.stopRequested) : Decides .ok none reason s.recordingStarted
  /-- The walls before the admission, and a recorder that does not start. -/
  | refused (reason : Text) (hs : s.recordingStarted = false) (h : reason ≠ unavailableReason cfg) :
      Decides .botError none reason false
  | neverAdmitted (reason : Text) (hs : s.recordingStarted = false)
      (hadmitted : poll.readsAdmitted = false)
      (htime : cfg.timeouts.waitingRoomS ≤ poll.now - s.start) :
      Decides .neverAdmitted none reason false
  | removed (detail : Text) (hs : s.recordingStarted) (h : poll.removed = .ok (true, detail)) :
      Decides .removed (some .removed) detail true
  | ended (detail : Text) (hs : s.recordingStarted) (h : poll.ended = .ok (true, detail)) :
      Decides .ok (some .callEnded) detail true
  | recorderDied (reason : Text) (hs : s.recordingStarted) (h : poll.recorderRunning = false)
      (hreason : reason ≠ unavailableReason cfg) : Decides .botError none reason true
  | maxDuration (reason : Text) (hs : s.recordingStarted)
      (htime : cfg.timeouts.maxRecordS ≤ poll.now - s.admittedAt) :
      Decides .ok (some .giveUp) reason true
  | alone (reason : Text) (since : ℚ) (hs : s.recordingStarted) (hcontrols : controls)
      (hroom : poll.room = some .alone) (hothers : s.sawOthers) (hsince : s.aloneSince = some since)
      (htime : cfg.timeouts.aloneGraceS ≤ poll.now - since) : Decides .ok (some .alone) reason true
  | emptyRoom (reason : Text) (hs : s.recordingStarted) (hcontrols : controls)
      (hroom : poll.room = some .alone) (hothers : s.sawOthers = false)
      (htime : cfg.timeouts.emptyRoomS ≤ poll.now - s.admittedAt) :
      Decides .joinTimeout none reason true
  | unknownRoom (hs : s.recordingStarted) (hcontrols : controls)
      (hroom : poll.room = some .unknown) (hothers : s.sawOthers = false)
      (htime : cfg.timeouts.emptyRoomS ≤ poll.now - s.unknownSince.getD poll.now) :
      Decides .botError none (unavailableReason cfg) true
  | controlsGone (reason : Text) (hs : s.recordingStarted) (hcontrols : controls = false)
      (hgone : gone) (hmissed : endedConfirmationPolls ≤ s.missedControls + 1) :
      Decides .ok (some .callEnded) reason true

end Ways

def TurnDecided (cfg : LoopConfig) (s : LoopState) (poll : Poll) (controls : Bool) (gone : Prop) :
    LoopState ⊕ BotOutcome → Prop
  | .inl t => GoesOn cfg s poll controls gone t
  | .inr outcome => Decides cfg s poll controls gone outcome.exitCode outcome.endReason outcome.reason
      outcome.recordingStarted

def Follows {P : Type} (loop : PollingLoop LoopState P BotEvent PageError BotOutcome)
    (view : LoopView P) (cfg : LoopConfig) : Prop :=
  ∀ s p, (loop.step s p).Ensures (TurnDecided cfg s (view.poll p) (view.controls p) (view.gone p))

/-! ## The shared turns -/

section Turns

variable {side : LoopSide} {cfg : LoopConfig} {s : LoopState} {poll : Poll} {controls : Bool}
  {gone : Prop}

theorem keepPolling_decides {t : LoopState} (h : GoesOn cfg s poll controls gone t) :
    (keepPolling poll t).Ensures (TurnDecided cfg s poll controls gone) :=
  EventLog.Ensures.read_bind fun _ _ => EventLog.Ensures.pure h

theorem make_decides {exitCode : BotExit} {endReason : Option EndReason} {reason : Text}
    {started : Bool} (h : Decides cfg s poll controls gone exitCode endReason reason started) :
    (do return .inr (← BotOutcome.make exitCode endReason reason started) : Turn).Ensures
      (TurnDecided cfg s poll controls gone) := by
  apply EventLog.Ensures.bind
  intro outcome houtcome
  obtain ⟨hexit, hend, hreason, hstarted⟩ := BotOutcome.of_make houtcome
  apply EventLog.Ensures.pure
  change Decides _ _ _ _ _ outcome.exitCode outcome.endReason outcome.reason outcome.recordingStarted
  rw [hexit, hend, hreason, hstarted]
  exact h

theorem finishRecording_decides {toState reason : Text} {exitCode : BotExit}
    {endReason : Option EndReason} {s' : LoopState}
    (h : Decides cfg s poll controls gone exitCode endReason reason true) :
    (finishRecording side cfg s' poll toState reason exitCode endReason).Ensures
      (TurnDecided cfg s poll controls gone) :=
  EventLog.Ensures.bind fun _ _ => EventLog.Ensures.bind fun _ _ => make_decides h

theorem endOnNotice_decides {toState reason lastLine : Text} {exitCode : BotExit}
    {endReason : EndReason}
    (h : Decides cfg s poll controls gone exitCode (some endReason) reason true) :
    (endOnNotice side cfg s poll toState reason lastLine exitCode endReason).Ensures
      (TurnDecided cfg s poll controls gone) :=
  EventLog.Ensures.bind fun _ _ => EventLog.Ensures.bind fun _ _ => make_decides h

theorem handleStop_decides (hstop : poll.stopRequested) :
    (handleStop side cfg s poll).Ensures (TurnDecided cfg s poll controls gone) := by
  have hstopped : Decides cfg s poll controls gone .ok none "stop requested".toList
      s.recordingStarted := .stopped _ hstop
  unfold handleStop
  split_ifs with hs
  · rw [hs] at hstopped
    exact finishRecording_decides hstopped
  · rw [Bool.not_eq_true] at hs
    rw [hs] at hstopped
    exact EventLog.Ensures.bind fun _ _ => EventLog.Ensures.bind fun _ _ => make_decides hstopped

/-- The text of the outcome tells a missing count from every other failure. -/
theorem ne_unavailableReason {reason : Text} (h : reason.take 12 ≠ "participant ".toList) :
    reason ≠ unavailableReason cfg := by
  rintro rfl
  apply h
  unfold unavailableReason concat
  rw [List.flatten_cons]
  rfl

theorem recorderFailed_decides (hs : s.recordingStarted = false) (e : PageError) :
    (recorderFailed side cfg poll e).Ensures (TurnDecided cfg s poll controls gone) := by
  refine EventLog.Ensures.bind fun _ _ => EventLog.Ensures.bind fun _ _ =>
    EventLog.Ensures.bind fun _ _ => EventLog.Ensures.bind fun _ _ =>
      make_decides (.refused _ hs ?_)
  exact ne_unavailableReason (by decide)

theorem recorderDied_decides (hs : s.recordingStarted)
    (h : poll.recorderRunning = false) :
    (recorderDied side cfg s poll).Ensures (TurnDecided cfg s poll controls gone) := by
  refine EventLog.Ensures.bind fun _ _ => EventLog.Ensures.bind fun _ _ =>
    finishRecording_decides (.recorderDied _ hs h ?_)
  exact ne_unavailableReason (by decide)

theorem maxDurationReached_decides (hs : s.recordingStarted)
    (h : cfg.timeouts.maxRecordS ≤ poll.now - s.admittedAt) :
    (maxDurationReached side cfg s poll).Ensures (TurnDecided cfg s poll controls gone) :=
  EventLog.Ensures.bind fun _ _ => finishRecording_decides (.maxDuration _ hs h)

theorem recordingBegan_result {pid : ℕ} {poll : Poll} {t : LoopState}
    (h : (recordingBegan side s poll pid).result = .ok t) :
    t = { s with
      phase := .inCall
      recordingStarted := true
      admittedAt := poll.now
      unknownSince := some poll.now
      nextUnknownEvidence := poll.now + 30 } := by
  rw [result_recordingBegan] at h
  exact (Except.ok.inj h).symm

theorem participantTurn_decides (h : KeepsRecording cfg s poll) (hcontrols : controls) :
    (participantTurn side cfg s poll).Ensures (TurnDecided cfg s poll controls gone) := by
  apply EventLog.Ensures.read_bind
  rintro ⟨count, countDetail⟩ hcount
  apply EventLog.Ensures.read_bind
  rintro ⟨alone, aloneDetail⟩ halone
  have hroom : poll.room = some (roomReading count alone) := by
    rw [Poll.room, hcount, halone]
  dsimp only
  split_ifs with htwo hbot hothers hothers'
  · rw [roomReading, if_pos htwo] at hroom
    exact keepPolling_decides (.others h hcontrols hroom)
  · rw [roomReading, if_neg htwo, if_pos hbot] at hroom
    unfold aloneTurn
    dsimp only
    split
    · rename_i hsince
      refine EventLog.Ensures.bind fun _ _ => keepPolling_decides ?_
      have hgoes : GoesOn cfg s poll controls gone _ :=
        .aloneWithHistory h hcontrols hroom hothers (by simp [hsince])
      rw [hsince] at hgoes
      exact hgoes
    · rename_i since hsince
      split_ifs with hgrace
      · exact finishRecording_decides
          (.alone _ since h.recording hcontrols hroom hothers hsince hgrace)
      · apply keepPolling_decides
        have hgoes : GoesOn cfg s poll controls gone _ :=
          .aloneWithHistory h hcontrols hroom hothers (by simpa [hsince] using hgrace)
        have hkept : some (s.aloneSince.getD poll.now) = s.aloneSince := by
          rw [hsince]
          rfl
        rw [hkept] at hgoes
        exact hgoes
  · rw [roomReading, if_neg htwo, if_pos hbot] at hroom
    rw [Bool.not_eq_true] at hothers
    unfold emptyRoomTurn
    split_ifs with hempty
    · exact EventLog.Ensures.bind fun _ _ =>
        finishRecording_decides (.emptyRoom _ h.recording hcontrols hroom hothers hempty)
    · exact keepPolling_decides (.emptyRoom h hcontrols hroom hothers (not_le.1 hempty))
  · rw [roomReading, if_neg htwo, if_neg hbot] at hroom
    exact keepPolling_decides (.lostCount h hcontrols hroom hothers')
  · rw [roomReading, if_neg htwo, if_neg hbot] at hroom
    rw [Bool.not_eq_true] at hothers'
    unfold unknownRoomTurn
    dsimp only
    split_ifs with hempty hevidence
    · exact EventLog.Ensures.bind fun _ _ => EventLog.Ensures.bind fun _ _ =>
        finishRecording_decides (.unknownRoom h.recording hcontrols hroom hothers' hempty)
    · exact EventLog.Ensures.bind fun _ _ => EventLog.Ensures.bind fun _ _ =>
        keepPolling_decides (.unknownRoom _ h hcontrols hroom hothers' (not_le.1 hempty))
    · exact keepPolling_decides
        (.unknownRoom s.nextUnknownEvidence h hcontrols hroom hothers' (not_le.1 hempty))

theorem missedControlsTurn_decides (h : KeepsRecording cfg s poll)
    (hcontrols : controls = false) (hgone : gone) :
    (missedControlsTurn side cfg s poll).Ensures (TurnDecided cfg s poll controls gone) := by
  unfold missedControlsTurn
  dsimp only
  split_ifs with hmissed
  · exact EventLog.Ensures.bind fun _ _ =>
      endOnNotice_decides (.controlsGone _ h.recording hcontrols hgone hmissed)
  · exact keepPolling_decides (.missed h hcontrols hgone (not_le.1 hmissed))

theorem recordingChecks_decides (hs : s.recordingStarted) {removed ended : Bool × Text}
    (hremoved : poll.removed = .ok removed) (hended : poll.ended = .ok ended) {shown : Bool}
    (hcontrols : controls = shown) {absent : Turn}
    (habsent : KeepsRecording cfg s poll → controls = false →
      absent.Ensures (TurnDecided cfg s poll controls gone)) :
    (recordingChecks side cfg s poll removed ended shown absent).Ensures
      (TurnDecided cfg s poll controls gone) := by
  obtain ⟨removed, removedDetail⟩ := removed
  obtain ⟨ended, endedDetail⟩ := ended
  unfold recordingChecks
  split_ifs with h1 h2 h3 h4 h5
  · obtain rfl : removed = true := h1
    exact endOnNotice_decides (.removed _ hs hremoved)
  · obtain rfl : ended = true := h2
    exact endOnNotice_decides (.ended _ hs hended)
  · exact maxDurationReached_decides hs h4
  · exact participantTurn_decides ⟨hs, not_le.1 h4⟩ (hcontrols.trans h5)
  · exact habsent ⟨hs, not_le.1 h4⟩ (hcontrols.trans ((Bool.not_eq_true _).mp h5))
  · exact recorderDied_decides hs (by simpa using h3)

end Turns

/-! ## Both loops -/

namespace Meet

variable {cfg : LoopConfig} {s : LoopState} {poll : MeetPoll}

theorem waitingTurn_decides (hs : s.recordingStarted = false)
    (hadmitted : poll.readsAdmitted = false) :
    (waitingTurn cfg s poll).Ensures
      (TurnDecided cfg s poll.toPoll poll.readsAdmitted (ControlsAbsent poll)) := by
  apply EventLog.Ensures.read_bind
  intro blocked _
  split_ifs with hblocked htime
  · refine EventLog.Ensures.bind fun _ _ => EventLog.Ensures.bind fun _ _ =>
      EventLog.Ensures.bind fun _ _ => make_decides (.refused _ hs ?_)
    exact ne_unavailableReason (by decide)
  · exact EventLog.Ensures.bind fun _ _ => EventLog.Ensures.bind fun _ _ =>
      EventLog.Ensures.bind fun _ _ => make_decides (.neverAdmitted _ hs hadmitted htime)
  · exact EventLog.Ensures.bind fun next _ =>
      keepPolling_decides (.waits next hs hadmitted (not_le.1 htime))

theorem admissionTurn_decides (hs : s.recordingStarted = false)
    (hadmitted : poll.readsAdmitted) (detail : Text) :
    (admissionTurn cfg s poll detail).Ensures
      (TurnDecided cfg s poll.toPoll poll.readsAdmitted (ControlsAbsent poll)) := by
  apply EventLog.Ensures.bind
  intro _ _
  cases poll.recorderStart with
  | error e => exact recorderFailed_decides hs e
  | ok pid =>
      apply EventLog.Ensures.bind
      intro t ht
      rw [recordingBegan_result ht]
      exact EventLog.Ensures.pure (.began hs hadmitted)

theorem follows (cfg : LoopConfig) : Follows (loop cfg) view cfg := by
  intro s poll
  change (step cfg s poll).Ensures
    (TurnDecided cfg s poll.toPoll poll.readsAdmitted (ControlsAbsent poll))
  rw [step_eq]
  apply phasedTurn_ensures
  · exact handleStop_decides
  · rintro hs removed ended ⟨admitted, admittedDetail⟩ hremoved hended hadmitted
    have hcontrols : poll.readsAdmitted = admitted := Poll.readsAdmitted_of_ok hadmitted
    rw [recordingTurn_eq]
    apply recordingChecks_decides hs hremoved hended hcontrols
    intro hkeeps hgone
    apply EventLog.Ensures.read_bind
    intro visible hvisible
    split_ifs with hleave
    · exact EventLog.Ensures.bind fun _ _ => keepPolling_decides (.contradicted hkeeps hgone)
    · obtain rfl : visible = false := by simpa using hleave
      obtain rfl : admitted = false := hcontrols.symm.trans hgone
      exact missedControlsTurn_decides hkeeps hgone ⟨⟨admittedDetail, hadmitted⟩, hvisible⟩
  · exact fun hs admitted hadmitted hseen =>
      admissionTurn_decides hs ((Poll.readsAdmitted_of_ok hadmitted).trans hseen) _
  · exact fun hs admitted hadmitted hseen =>
      waitingTurn_decides hs ((Poll.readsAdmitted_of_ok hadmitted).trans hseen)

end Meet

namespace Zoom

variable {cfg : LoopConfig} {s : LoopState} {poll : ZoomPoll}

theorem detectFatalWall_ensures {walls : List (Reading (Bool × Text) × Text)}
    (hwalls : ∀ wall ∈ walls, wall.2 ≠ unavailableReason cfg) :
    (detectFatalWall cfg poll walls).Ensures fun found => ∀ outcome ∈ found,
      outcome.exitCode = .botError ∧ outcome.endReason = none ∧
        outcome.reason ≠ unavailableReason cfg ∧ outcome.recordingStarted = false := by
  induction walls with
  | nil => exact EventLog.Ensures.pure (by simp)
  | cons wall walls ih =>
      obtain ⟨predicate, reason⟩ := wall
      obtain ⟨hhead, htail⟩ := List.forall_mem_cons.1 hwalls
      apply EventLog.Ensures.read_bind
      rintro ⟨detected, detail⟩ -
      dsimp only
      split_ifs
      · refine EventLog.Ensures.bind fun _ _ => EventLog.Ensures.bind fun _ _ =>
          EventLog.Ensures.bind fun outcome houtcome => EventLog.Ensures.pure ?_
        obtain ⟨hexit, hend, hreason, hstarted⟩ := BotOutcome.of_make houtcome
        intro found hfound
        obtain rfl := Option.some.inj hfound
        exact ⟨hexit, hend, hreason ▸ hhead, hstarted⟩
      · exact ih htail

theorem waitingTurn_decides (hs : s.recordingStarted = false)
    (hadmitted : poll.readsAdmitted = false) :
    (waitingTurn cfg s poll).Ensures
      (TurnDecided cfg s poll.toPoll poll.readsControls (ControlsAbsent poll)) := by
  have hwalls : ∀ wall ∈ fatalWalls poll, wall.2 ≠ unavailableReason cfg := by
    intro wall hwall
    apply ne_unavailableReason
    simp only [fatalWalls, List.mem_cons, List.not_mem_nil, or_false] at hwall
    rcases hwall with rfl | rfl | rfl | rfl <;> dsimp only <;> decide
  apply EventLog.Ensures.bind
  intro found hfound
  have hrefused := detectFatalWall_ensures hwalls found hfound
  cases found with
  | some outcome =>
      obtain ⟨hexit, hend, hreason, hstarted⟩ := hrefused outcome rfl
      refine EventLog.Ensures.bind fun _ _ => EventLog.Ensures.pure ?_
      change Decides _ _ _ _ _ outcome.exitCode outcome.endReason outcome.reason
        outcome.recordingStarted
      rw [hexit, hend, hstarted]
      exact .refused _ hs hreason
  | none =>
      dsimp only
      split_ifs with htime
      · apply EventLog.Ensures.bind
        intro _ _
        apply EventLog.Ensures.read_bind
        rintro ⟨notStarted, detail⟩ -
        exact EventLog.Ensures.bind fun _ _ => EventLog.Ensures.bind fun _ _ =>
          make_decides (.neverAdmitted _ hs hadmitted htime)
      · exact EventLog.Ensures.bind fun next _ =>
          keepPolling_decides (.waits next hs hadmitted (not_le.1 htime))

theorem admissionTurn_decides (hs : s.recordingStarted = false)
    (hadmitted : poll.readsAdmitted) (detail : Text) :
    (admissionTurn cfg s poll detail).Ensures
      (TurnDecided cfg s poll.toPoll poll.readsControls (ControlsAbsent poll)) := by
  apply EventLog.Ensures.bind
  intro _ _
  cases poll.recorderStart with
  | error e => exact recorderFailed_decides hs e
  | ok pid =>
      apply EventLog.Ensures.bind
      intro t ht
      rw [recordingBegan_result ht]
      exact EventLog.Ensures.bind fun _ _ => EventLog.Ensures.pure (.began hs hadmitted)

theorem follows (cfg : LoopConfig) : Follows (loop cfg) view cfg := by
  intro s poll
  change (step cfg s poll).Ensures
    (TurnDecided cfg s poll.toPoll poll.readsControls (ControlsAbsent poll))
  rw [step_eq]
  apply phasedTurn_ensures
  · exact handleStop_decides
  · rintro hs removed ended - hremoved hended -
    rw [recordingTurn_eq]
    apply EventLog.Ensures.read_bind
    rintro ⟨anchor, anchorDetail⟩ hanchor
    have hcontrols : poll.readsControls = anchor := ZoomPoll.readsControls_of_ok hanchor
    apply recordingChecks_decides hs hremoved hended hcontrols
    intro hkeeps hgone
    obtain rfl : anchor = false := hcontrols.symm.trans hgone
    exact missedControlsTurn_decides hkeeps hgone ⟨anchorDetail, hanchor⟩
  · exact fun hs admitted hadmitted hseen =>
      admissionTurn_decides hs ((Poll.readsAdmitted_of_ok hadmitted).trans hseen) _
  · exact fun hs admitted hadmitted hseen =>
      waitingTurn_decides hs ((Poll.readsAdmitted_of_ok hadmitted).trans hseen)

end Zoom

end Notetaker

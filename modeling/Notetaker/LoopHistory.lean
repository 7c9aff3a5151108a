import Notetaker.LoopDecisions

/-!
# What the loops remember

The variables of the loops summarise the polls taken so far: when the bot was admitted, whether others
have been seen, since when every reading says that the bot is alone or that nothing is known, and how
many polls in a row have no controls. So every outcome is justified by the polls.
-/

open PythonText PythonFloat

namespace Notetaker

namespace LoopView

variable {P : Type} (view : LoopView P)

def inCall : List P → List P
  | [] => []
  | p :: polls => if (view.poll p).readsAdmitted then polls else inCall polls

/-- The polls at which a participant reading is taken. -/
def readings (polls : List P) : List P := (view.inCall polls).filter view.controls

/-- The bot is admitted at time `adm`: at the first poll that reads so. -/
def AdmittedAt (polls : List P) (adm : ℚ) : Prop :=
  ∃ pre p post, polls = pre ++ p :: post ∧ (∀ q ∈ pre, (view.poll q).readsAdmitted = false) ∧
    (view.poll p).readsAdmitted ∧ (view.poll p).now = adm

/-- Every reading taken from a poll at time `since` on is of one kind. -/
def HeldSince (kind : RoomReading) (polls : List P) (since : ℚ) : Prop :=
  ∃ pre p post window, polls = pre ++ p :: post ∧ (view.poll p).now = since ∧
    view.readings polls = view.readings pre ++ window ∧
    ∀ q ∈ window, (view.poll q).room = some kind

def GoneFor (polls : List P) (n : ℕ) : Prop :=
  ∃ pre last, polls = pre ++ last ∧ last.length = n ∧ ∀ p ∈ last, view.gone p

variable {view}

theorem inCall_of_forall {polls : List P} (h : ∀ p ∈ polls, (view.poll p).readsAdmitted = false) :
    view.inCall polls = [] := by
  induction polls with
  | nil => rfl
  | cons p polls ih =>
      obtain ⟨hhead, htail⟩ := List.forall_mem_cons.1 h
      rw [inCall, if_neg (by simp [hhead])]
      exact ih htail

theorem inCall_append {pre post : List P} {p : P}
    (hpre : ∀ q ∈ pre, (view.poll q).readsAdmitted = false) (hp : (view.poll p).readsAdmitted) :
    view.inCall (pre ++ p :: post) = post := by
  induction pre with
  | nil => exact if_pos hp
  | cons q pre ih =>
      obtain ⟨hhead, htail⟩ := List.forall_mem_cons.1 hpre
      rw [List.cons_append, inCall, if_neg (by simp [hhead])]
      exact ih htail

theorem readings_of_forall {polls : List P}
    (h : ∀ p ∈ polls, (view.poll p).readsAdmitted = false) : view.readings polls = [] := by
  rw [readings, inCall_of_forall h]
  rfl

theorem readings_admission {polls : List P} {p : P}
    (h : ∀ q ∈ polls, (view.poll q).readsAdmitted = false) (hp : (view.poll p).readsAdmitted) :
    view.readings (polls ++ [p]) = [] := by
  rw [readings, inCall_append h hp]
  rfl

theorem AdmittedAt.append {polls : List P} {adm : ℚ} (h : view.AdmittedAt polls adm)
    (more : List P) : view.AdmittedAt (polls ++ more) adm := by
  obtain ⟨pre, p, post, rfl, hpre, hp, hnow⟩ := h
  exact ⟨pre, p, post ++ more, by simp, hpre, hp, hnow⟩

theorem AdmittedAt.readings_append {polls : List P} {adm : ℚ} (h : view.AdmittedAt polls adm)
    (more : List P) :
    view.readings (polls ++ more) = view.readings polls ++ more.filter view.controls := by
  obtain ⟨pre, p, post, rfl, hpre, hp, -⟩ := h
  rw [List.append_assoc, List.cons_append, readings, readings, inCall_append hpre hp,
    inCall_append hpre hp, List.filter_append]

theorem mem_readings {polls : List P} {p : P} (h : p ∈ view.readings polls) : p ∈ polls := by
  have hmem : p ∈ view.inCall polls := List.mem_of_mem_filter h
  clear h
  induction polls with
  | nil => cases hmem
  | cons q polls ih =>
      rw [inCall] at hmem
      split_ifs at hmem
      · exact List.mem_cons_of_mem q hmem
      · exact List.mem_cons_of_mem q (ih hmem)

/-- On a clock that advances between the polls, these are all readings in the time from `since` on. -/
theorem HeldSince.room_of_clock {kind : RoomReading} {polls : List P} {since : ℚ}
    (h : view.HeldSince kind polls since)
    (hclock : polls.Pairwise fun p q => (view.poll p).now < (view.poll q).now) {q : P}
    (hq : q ∈ view.readings polls) (htime : since ≤ (view.poll q).now) :
    (view.poll q).room = some kind := by
  obtain ⟨pre, p, post, window, hpolls, rfl, hreadings, hwindow⟩ := h
  rw [hreadings] at hq
  rcases List.mem_append.1 hq with hmem | hmem
  · rw [hpolls] at hclock
    have hbefore := (List.pairwise_append.1 hclock).2.2 q (mem_readings hmem) p List.mem_cons_self
    exact absurd htime (not_le.2 hbefore)
  · exact hwindow q hmem

theorem HeldSince.opens {kind : RoomReading} {polls : List P} {p : P}
    (hreadings : view.readings (polls ++ [p]) = view.readings polls ++ [p])
    (hroom : (view.poll p).room = some kind) :
    view.HeldSince kind (polls ++ [p]) (view.poll p).now := by
  refine ⟨polls, p, [], [p], rfl, rfl, hreadings, fun q hq => ?_⟩
  rw [List.mem_singleton.1 hq]
  exact hroom

theorem HeldSince.append {kind : RoomReading} {polls : List P} {since adm : ℚ}
    (h : view.HeldSince kind polls since) (hadmitted : view.AdmittedAt polls adm) {p : P}
    (hp : view.controls p → (view.poll p).room = some kind) :
    view.HeldSince kind (polls ++ [p]) since := by
  obtain ⟨pre, q, post, window, hpolls, hsince, hreadings, hwindow⟩ := h
  refine ⟨pre, q, post ++ [p], window ++ [p].filter view.controls, ?_, hsince, ?_, ?_⟩
  · rw [hpolls]
    simp
  · rw [hadmitted.readings_append, hreadings, List.append_assoc]
  · intro r hr
    rcases List.mem_append.1 hr with hr | hr
    · exact hwindow r hr
    · obtain ⟨hmem, hcontrols⟩ := List.mem_filter.1 hr
      rw [List.mem_singleton.1 hmem] at hcontrols ⊢
      exact hp hcontrols

theorem goneFor_zero (polls : List P) : view.GoneFor polls 0 := ⟨polls, [], by simp, rfl, by simp⟩

theorem GoneFor.succ {polls : List P} {n : ℕ} (h : view.GoneFor polls n) {p : P} (hp : view.gone p) :
    view.GoneFor (polls ++ [p]) (n + 1) := by
  obtain ⟨pre, last, rfl, rfl, hlast⟩ := h
  refine ⟨pre, last ++ [p], by simp, by simp, fun q hq => ?_⟩
  rcases List.mem_append.1 hq with hq | hq
  · exact hlast q hq
  · rw [List.mem_singleton.1 hq]
    exact hp

end LoopView

/-! ## The invariant -/

section History

variable {P : Type} (view : LoopView P) (start : ℚ)

/-- What the variables of the loop say about the polls taken so far. -/
structure Remembers (polls : List P) (s : LoopState) : Prop where
  start : s.start = start
  waiting : s.recordingStarted = false → (∀ p ∈ polls, (view.poll p).readsAdmitted = false) ∧
    s.sawOthers = false ∧ s.missedControls = 0
  admitted : s.recordingStarted → view.AdmittedAt polls s.admittedAt
  others : s.sawOthers ↔ ∃ p ∈ view.readings polls, (view.poll p).room = some .others
  read : ∀ p ∈ view.readings polls, (view.poll p).room ≠ none
  strangers : s.sawOthers = false → s.aloneSince = none
  known : s.sawOthers → s.unknownSince = none
  alone : ∀ since ∈ s.aloneSince, view.HeldSince .alone polls since
  unknown : s.recordingStarted → ∀ since ∈ s.unknownSince, view.HeldSince .unknown polls since
  missed : view.GoneFor polls s.missedControls

end History

section History

variable {P : Type} {view : LoopView P} {start : ℚ} {cfg : LoopConfig} {polls : List P}
  {s t : LoopState} {p : P}

theorem remembers_initial (view : LoopView P) (start : ℚ) :
    Remembers view start [] (.initial start) where
  start := rfl
  waiting _ := ⟨by simp, rfl, rfl⟩
  admitted h := by cases h
  others := by simp [LoopState.initial, LoopView.readings, LoopView.inCall]
  read := by simp [LoopView.readings, LoopView.inCall]
  strangers _ := rfl
  known h := by cases h
  alone since h := by cases h
  unknown h := by cases h
  missed := LoopView.goneFor_zero []

namespace Remembers

theorem waits (h : Remembers view start polls s) (hs : s.recordingStarted = false)
    (hadmitted : (view.poll p).readsAdmitted = false) (next : ℚ) :
    Remembers view start (polls ++ [p]) { s with nextAdmissionEvidence := next } := by
  obtain ⟨hbefore, hothers, hmissed⟩ := h.waiting hs
  have hall : ∀ q ∈ polls ++ [p], (view.poll q).readsAdmitted = false := by
    intro q hq
    rcases List.mem_append.1 hq with hq | hq
    · exact hbefore q hq
    · rw [List.mem_singleton.1 hq]
      exact hadmitted
  exact {
    start := h.start
    waiting := fun _ => ⟨hall, hothers, hmissed⟩
    admitted := fun hrec => absurd (hs.symm.trans hrec) Bool.false_ne_true
    others := by simp [hothers, LoopView.readings_of_forall hall]
    read := by simp [LoopView.readings_of_forall hall]
    strangers := h.strangers
    known := h.known
    alone := by simp [h.strangers hothers]
    unknown := fun hrec => absurd (hs.symm.trans hrec) Bool.false_ne_true
    missed := by
      rw [hmissed]
      exact LoopView.goneFor_zero _ }

theorem began (h : Remembers view start polls s) (hs : s.recordingStarted = false)
    (hadmitted : (view.poll p).readsAdmitted) :
    Remembers view start (polls ++ [p]) { s with
      phase := .inCall
      recordingStarted := true
      admittedAt := (view.poll p).now
      unknownSince := some (view.poll p).now
      nextUnknownEvidence := (view.poll p).now + 30 } := by
  obtain ⟨hbefore, hothers, hmissed⟩ := h.waiting hs
  have hreadings := LoopView.readings_admission hbefore hadmitted
  exact {
    start := h.start
    waiting := fun hrec => by cases hrec
    admitted := fun _ => ⟨polls, p, [], rfl, hbefore, hadmitted, rfl⟩
    others := by simp [hothers, hreadings]
    read := by simp [hreadings]
    strangers := h.strangers
    known := fun hseen => absurd (hothers.symm.trans hseen) Bool.false_ne_true
    alone := by simp [h.strangers hothers]
    unknown := fun _ since hsince => by
      obtain rfl := Option.some.inj hsince
      refine ⟨polls, p, [], [], rfl, rfl, ?_, by simp⟩
      rw [hreadings, LoopView.readings_of_forall hbefore]
      rfl
    missed := by
      change view.GoneFor (polls ++ [p]) s.missedControls
      rw [hmissed]
      exact LoopView.goneFor_zero _ }

theorem reading (h : Remembers view start polls s) (hs : s.recordingStarted)
    (hcontrols : view.controls p) :
    view.readings (polls ++ [p]) = view.readings polls ++ [p] := by
  rw [(h.admitted hs).readings_append, List.filter_singleton, hcontrols]
  rfl

theorem others_reading (h : Remembers view start polls s) (hs : s.recordingStarted)
    (hcontrols : view.controls p) (hroom : (view.poll p).room ≠ some .others) :
    s.sawOthers ↔ ∃ q ∈ view.readings (polls ++ [p]), (view.poll q).room = some .others := by
  rw [h.others, h.reading hs hcontrols]
  simp [or_and_right, exists_or, hroom]

theorem read_reading (h : Remembers view start polls s) (hs : s.recordingStarted)
    (hcontrols : view.controls p) (hroom : (view.poll p).room ≠ none) :
    ∀ q ∈ view.readings (polls ++ [p]), (view.poll q).room ≠ none := by
  rw [h.reading hs hcontrols]
  intro q hq
  rcases List.mem_append.1 hq with hq | hq
  · exact h.read q hq
  · rw [List.mem_singleton.1 hq]
    exact hroom

/-- A poll without controls takes no reading, and every window stays. -/
theorem without_reading (h : Remembers view start polls s) (hs : s.recordingStarted)
    (hcontrols : view.controls p = false) {missed : ℕ} (hmissed : view.GoneFor (polls ++ [p]) missed) :
    Remembers view start (polls ++ [p]) { s with missedControls := missed } := by
  have hreadings : view.readings (polls ++ [p]) = view.readings polls := by
    rw [(h.admitted hs).readings_append, List.filter_singleton, hcontrols]
    exact List.append_nil _
  exact {
    start := h.start
    waiting := fun hrec => absurd (hrec.symm.trans hs) Bool.false_ne_true
    admitted := fun _ => (h.admitted hs).append [p]
    others := by
      rw [hreadings]
      exact h.others
    read := by
      rw [hreadings]
      exact h.read
    strangers := h.strangers
    known := h.known
    alone := fun since hsince =>
      (h.alone since hsince).append (h.admitted hs) (by simp [hcontrols])
    unknown := fun _ since hsince =>
      (h.unknown hs since hsince).append (h.admitted hs) (by simp [hcontrols])
    missed := hmissed }

/-- What is remembered of the polls stays true of them at every poll that goes on. -/
theorem goesOn (h : Remembers view start polls s)
    (hgoes : GoesOn cfg s (view.poll p) (view.controls p) (view.gone p) t) :
    Remembers view start (polls ++ [p]) t := by
  cases hgoes with
  | waits next hs hadmitted htime => exact h.waits hs hadmitted next
  | began hs hadmitted => exact h.began hs hadmitted
  | others hkeeps hcontrols hroom =>
      have hs := hkeeps.recording
      exact {
        start := h.start
        waiting := fun hrec => absurd (hrec.symm.trans hs) Bool.false_ne_true
        admitted := fun _ => (h.admitted hs).append [p]
        others := by
          rw [h.reading hs hcontrols]
          simp [or_and_right, exists_or, hroom]
        read := h.read_reading hs hcontrols (by simp [hroom])
        strangers := fun hseen => by cases hseen
        known := fun _ => rfl
        alone := fun since hsince => by cases hsince
        unknown := fun _ since hsince => by cases hsince
        missed := LoopView.goneFor_zero _ }
  | aloneWithHistory hkeeps hcontrols hroom hothers htime =>
      have hs := hkeeps.recording
      exact {
        start := h.start
        waiting := fun hrec => absurd (hrec.symm.trans hs) Bool.false_ne_true
        admitted := fun _ => (h.admitted hs).append [p]
        others := h.others_reading hs hcontrols (by simp [hroom])
        read := h.read_reading hs hcontrols (by simp [hroom])
        strangers := fun hseen => absurd (hseen.symm.trans hothers) Bool.false_ne_true
        known := h.known
        alone := fun since hsince => by
          obtain rfl := Option.some.inj hsince
          cases hold : s.aloneSince with
          | none => exact .opens (h.reading hs hcontrols) hroom
          | some since =>
              exact (h.alone since hold).append (h.admitted hs) fun _ => hroom
        unknown := fun _ since hsince => by
          change since ∈ s.unknownSince at hsince
          rw [h.known hothers] at hsince
          cases hsince
        missed := LoopView.goneFor_zero _ }
  | emptyRoom hkeeps hcontrols hroom hothers htime =>
      have hs := hkeeps.recording
      exact {
        start := h.start
        waiting := fun hrec => absurd (hrec.symm.trans hs) Bool.false_ne_true
        admitted := fun _ => (h.admitted hs).append [p]
        others := h.others_reading hs hcontrols (by simp [hroom])
        read := h.read_reading hs hcontrols (by simp [hroom])
        strangers := h.strangers
        known := fun _ => rfl
        alone := by simp [h.strangers hothers]
        unknown := fun _ since hsince => by cases hsince
        missed := LoopView.goneFor_zero _ }
  | lostCount hkeeps hcontrols hroom hothers =>
      have hs := hkeeps.recording
      exact {
        start := h.start
        waiting := fun hrec => absurd (hrec.symm.trans hs) Bool.false_ne_true
        admitted := fun _ => (h.admitted hs).append [p]
        others := h.others_reading hs hcontrols (by simp [hroom])
        read := h.read_reading hs hcontrols (by simp [hroom])
        strangers := fun _ => rfl
        known := fun _ => rfl
        alone := fun since hsince => by cases hsince
        unknown := fun _ since hsince => by cases hsince
        missed := LoopView.goneFor_zero _ }
  | unknownRoom next hkeeps hcontrols hroom hothers htime =>
      have hs := hkeeps.recording
      exact {
        start := h.start
        waiting := fun hrec => absurd (hrec.symm.trans hs) Bool.false_ne_true
        admitted := fun _ => (h.admitted hs).append [p]
        others := h.others_reading hs hcontrols (by simp [hroom])
        read := h.read_reading hs hcontrols (by simp [hroom])
        strangers := h.strangers
        known := fun hseen => absurd (hothers.symm.trans hseen) Bool.false_ne_true
        alone := by simp [h.strangers hothers]
        unknown := fun _ since hsince => by
          obtain rfl := Option.some.inj hsince
          cases hold : s.unknownSince with
          | none => exact .opens (h.reading hs hcontrols) hroom
          | some since =>
              exact (h.unknown hs since hold).append (h.admitted hs) fun _ => hroom
        missed := LoopView.goneFor_zero _ }
  | contradicted hkeeps hcontrols =>
      exact h.without_reading hkeeps.recording hcontrols (LoopView.goneFor_zero _)
  | missed hkeeps hcontrols hgone hmissed =>
      exact h.without_reading hkeeps.recording hcontrols (h.missed.succ hgone)

end Remembers

end History

end Notetaker

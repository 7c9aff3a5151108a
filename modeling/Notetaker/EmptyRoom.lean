import Mathlib.Data.List.Chain
import Mathlib.Data.List.DropRight
import Notetaker.JustifiedOutcomes

/-!
# The empty-room exit

The loops leave a room in which nobody else has ever been seen once the empty-room deadline has passed
since the admission and a reading shows the bot alone. The clock is not set back while the count is
unknown. So the room need not have been seen empty for the whole deadline.
-/

open PythonText PythonFloat

namespace Notetaker

section Rooms

variable {P : Type} (view : LoopView P) (cfg : LoopConfig) (before : List P) (p : P)

/-- The clock of the loop does not go back. -/
def LoopView.Timed (polls : List P) : Prop :=
  polls.Pairwise fun q r => (view.poll q).now ≤ (view.poll r).now

/-- When the last `empty_room_s` seconds before the return at `p` begin. -/
def deadlineStart : ℚ := (view.poll p).now - cfg.timeouts.emptyRoomS

/-- The room is empty throughout the deadline, as far as the readings tell. From a reading without a
count until the next reading the count is unknown. -/
structure ConfirmedEmpty : Prop where
  alone : ∀ q ∈ view.readings (before ++ [p]),
    deadlineStart view cfg p < (view.poll q).now → (view.poll q).room = some .alone
  known : (view.readings (before ++ [p])).IsChain fun q r =>
    (view.poll q).room = some .unknown → (view.poll r).now ≤ deadlineStart view cfg p

/-- The count has been there at all readings, or the series of readings that show the bot alone has
lasted for the deadline. -/
def SettledEmpty : Prop :=
  ∃ earlier first series, view.readings (before ++ [p]) = earlier ++ first :: series ∧
    (∀ q ∈ first :: series, (view.poll q).room = some .alone) ∧
    (earlier = [] ∨ cfg.timeouts.emptyRoomS ≤ (view.poll p).now - (view.poll first).now)

end Rooms

/-- The last items of a list that meet a condition, behind one that does not. -/
theorem exists_last_series {α : Type} (good : α → Prop) [DecidablePred good] (l : List α) :
    ∃ earlier series, l = earlier ++ series ∧ (∀ x ∈ series, good x) ∧
      (earlier = [] ∨ ∃ most last, earlier = most ++ [last] ∧ ¬ good last) := by
  refine ⟨l.rdropWhile good, l.rtakeWhile good, ?_, ?_, ?_⟩
  · exact (List.rdropWhile_append_rtakeWhile (p := fun x => decide (good x)) (l := l)).symm
  · intro x hx
    simpa using List.mem_rtakeWhile_imp hx
  · by_cases hnil : l.rdropWhile good = []
    · exact .inl hnil
    · right
      refine ⟨(l.rdropWhile good).dropLast, (l.rdropWhile good).getLast hnil, ?_, ?_⟩
      · exact (List.dropLast_append_getLast hnil).symm
      · simpa using List.rdropWhile_last_not (fun x => decide (good x)) l hnil

section Rooms

variable {P : Type} {view : LoopView P} {cfg : LoopConfig} {before : List P} {p : P}

theorem LoopView.readings_sublist (view : LoopView P) (polls : List P) :
    (view.readings polls).Sublist polls := by
  have hcall : (view.inCall polls).Sublist polls := by
    induction polls with
    | nil => exact List.Sublist.refl _
    | cons q polls ih =>
        rw [LoopView.inCall]
        split_ifs
        · exact List.sublist_cons_self q polls
        · exact ih.cons q
  exact List.filter_sublist.trans hcall

theorem LoopView.Timed.readings {polls : List P} (h : view.Timed polls) :
    view.Timed (view.readings polls) := List.Pairwise.sublist (view.readings_sublist polls) h

theorem SettledEmpty.confirmed (h : SettledEmpty view cfg before p)
    (htimed : view.Timed (before ++ [p])) : ConfirmedEmpty view cfg before p := by
  obtain ⟨earlier, first, series, hreadings, halone, hlasted⟩ := h
  have hclock := htimed.readings
  rw [hreadings] at hclock
  obtain ⟨hearlier, -, hcross⟩ := List.pairwise_append.1 hclock
  have hpast : ∀ q ∈ earlier, (view.poll first).now ≤ deadlineStart view cfg p := by
    intro q hq
    rcases hlasted with rfl | hlasted
    · cases hq
    · unfold deadlineStart
      linarith
  constructor
  · rw [hreadings]
    intro q hq hlate
    rcases List.mem_append.1 hq with hq | hq
    · have hbefore := hcross q hq first List.mem_cons_self
      exact absurd hlate (not_lt.2 (hbefore.trans (hpast q hq)))
    · exact halone q hq
  · rw [hreadings]
    apply List.isChain_split.2
    constructor
    · apply List.Pairwise.isChain
      apply List.pairwise_of_forall_mem_list
      intro q hq r hr hunknown
      rcases List.mem_append.1 hq with hq | hq
      · rcases List.mem_append.1 hr with hr | hr
        · exact (hcross r hr first List.mem_cons_self).trans (hpast r hr)
        · rw [List.mem_singleton.1 hr]
          exact hpast q hq
      · rw [List.mem_singleton.1 hq, halone first List.mem_cons_self] at hunknown
        cases hunknown
    · apply List.Pairwise.isChain
      apply List.pairwise_of_forall_mem_list
      intro q hq r hr hunknown
      rw [halone q hq] at hunknown
      cases hunknown

theorem ConfirmedEmpty.settled (h : ConfirmedEmpty view cfg before p)
    (hempty : ∀ q ∈ view.readings (before ++ [p]),
      (view.poll q).room = some .alone ∨ (view.poll q).room = some .unknown)
    {earlier : List P} (hlast : view.readings (before ++ [p]) = earlier ++ [p])
    (hroom : (view.poll p).room = some .alone) : SettledEmpty view cfg before p := by
  obtain ⟨most, series, hsplit, halone, hmost⟩ :=
    exists_last_series (fun q => (view.poll q).room = some .alone) (view.readings (before ++ [p]))
  cases series with
  | nil =>
      rw [List.append_nil] at hsplit
      rcases hmost with hnil | ⟨rest, last, hrest, hnot⟩
      · rw [hsplit, hnil] at hlast
        simp at hlast
      · rw [hsplit, hrest] at hlast
        obtain ⟨-, hp⟩ := List.append_inj' hlast rfl
        rw [List.singleton_inj.1 hp] at hnot
        exact absurd hroom hnot
  | cons first series =>
      refine ⟨most, first, series, hsplit, halone, ?_⟩
      rcases hmost with hnil | ⟨rest, last, hrest, hnot⟩
      · exact .inl hnil
      · right
        have hmem : last ∈ view.readings (before ++ [p]) := by simp [hsplit, hrest]
        have hunknown := (hempty last hmem).resolve_left hnot
        have hknown := h.known
        rw [hsplit, hrest, List.append_assoc] at hknown
        have hpast := (List.isChain_append_cons_cons.1 hknown).2.1 hunknown
        unfold deadlineStart at hpast
        linarith

variable {start : ℚ} {loop : PollingLoop LoopState P BotEvent PageError BotOutcome}
  {outcome : BotOutcome}

theorem ReturnsAt.empty_readings (h : ReturnsAt loop start before p outcome)
    (hloop : Follows loop view cfg) (hexit : outcome.exitCode = .joinTimeout) :
    view.readings (before ++ [p]) = view.readings before ++ [p] ∧ (view.poll p).room = some .alone ∧
      ∀ q ∈ view.readings (before ++ [p]),
        (view.poll q).room = some .alone ∨ (view.poll q).room = some .unknown := by
  obtain ⟨t, hbefore, hstep⟩ := h
  have hremembers := remembers_of_run hloop hbefore
  have hdecides : Decides cfg t (view.poll p) (view.controls p) (view.gone p) outcome.exitCode
      outcome.endReason outcome.reason outcome.recordingStarted := hloop t p (.inr outcome) hstep
  obtain ⟨hs, hcontrols, hroom, hothers, -⟩ := hdecides.of_joinTimeout hexit
  have hread := hremembers.read_reading hs hcontrols (by simp [hroom])
  have hunseen := hremembers.no_others hs hothers hcontrols (by simp [hroom])
  refine ⟨hremembers.reading hs hcontrols, hroom, fun q hq => ?_⟩
  cases hreading : (view.poll q).room with
  | none => exact absurd hreading (hread q hq)
  | some reading =>
      cases reading with
      | others => exact absurd hreading (hunseen q hq)
      | alone => exact .inl rfl
      | unknown => exact .inr rfl

theorem ReturnsAt.unseen_iff (h : ReturnsAt loop start before p outcome)
    (hloop : Follows loop view cfg) (hexit : outcome.exitCode = .joinTimeout)
    (htimed : view.Timed (before ++ [p])) :
    ConfirmedEmpty view cfg before p ↔ SettledEmpty view cfg before p := by
  obtain ⟨hreadings, hroom, hempty⟩ := h.empty_readings hloop hexit
  constructor
  · intro hconfirmed
    exact hconfirmed.settled hempty hreadings hroom
  · intro hsettled
    exact hsettled.confirmed htimed

theorem ReturnsAt.confirmed_of_known (h : ReturnsAt loop start before p outcome)
    (hloop : Follows loop view cfg) (hexit : outcome.exitCode = .joinTimeout)
    (htimed : view.Timed (before ++ [p]))
    (hknown : ∀ q ∈ view.readings (before ++ [p]), (view.poll q).room ≠ some .unknown) :
    ConfirmedEmpty view cfg before p := by
  obtain ⟨hreadings, -, hempty⟩ := h.empty_readings hloop hexit
  have halone : ∀ q ∈ view.readings (before ++ [p]), (view.poll q).room = some .alone := fun q hq =>
    (hempty q hq).resolve_right (hknown q hq)
  obtain ⟨first, series, hsplit⟩ : ∃ first series, view.readings (before ++ [p]) = first :: series :=
    List.exists_cons_of_ne_nil (by simp [hreadings])
  exact SettledEmpty.confirmed ⟨[], first, series, hsplit, hsplit ▸ halone, .inl rfl⟩ htimed

end Rooms

/-- With a count at every reading, an empty-room exit finds the room confirmed empty. -/
theorem confirmedEmpty_of_known (cfg : LoopConfig) (start : ℚ) (outcome : BotOutcome)
    (hexit : outcome.exitCode = .joinTimeout) :
    (∀ before p, ReturnsAt (Meet.loop cfg) start before p outcome →
      Meet.view.Timed (before ++ [p]) →
      (∀ q ∈ Meet.view.readings (before ++ [p]), (Meet.view.poll q).room ≠ some .unknown) →
      ConfirmedEmpty Meet.view cfg before p) ∧
    (∀ before p, ReturnsAt (Zoom.loop cfg) start before p outcome →
      Zoom.view.Timed (before ++ [p]) →
      (∀ q ∈ Zoom.view.readings (before ++ [p]), (Zoom.view.poll q).room ≠ some .unknown) →
      ConfirmedEmpty Zoom.view cfg before p) :=
  ⟨fun _ _ hreturns => hreturns.confirmed_of_known (Meet.follows cfg) hexit,
    fun _ _ hreturns => hreturns.confirmed_of_known (Zoom.follows cfg) hexit⟩

def emptyRoomReason : Text :=
  concat ["room remained empty; empty-room timeout of ",
    reprFloat sampleConfig.timeouts.emptyRoomS, " seconds elapsed"]

def emptyRoomOutcome : BotOutcome :=
  ⟨.joinTimeout, none, emptyRoomReason, true, concat_ne_nil (by decide) _, trivial⟩

def unseenInMeet : List MeetPoll := [admittedPoll 2, admittedPoll 4, admittedPoll 300]

def aloneInMeet : MeetPoll :=
  { admittedPoll 302 with participantCount := .ok (some 1, []), botAlone := .ok (true, []) }

def unseenInZoom : List ZoomPoll := [zoomCallPoll 2, zoomCallPoll 4, zoomCallPoll 300]

def aloneInZoom : ZoomPoll :=
  { zoomCallPoll 302 with participantCount := .ok (some 1, []), botAlone := .ok (true, []) }

theorem meet_returnsAt_alone :
    ReturnsAt (Meet.loop sampleConfig) 0 unseenInMeet aloneInMeet emptyRoomOutcome :=
  ⟨_, by with_unfolding_all rfl, by with_unfolding_all rfl⟩

theorem zoom_returnsAt_alone :
    ReturnsAt (Zoom.loop sampleConfig) 0 unseenInZoom aloneInZoom emptyRoomOutcome :=
  ⟨_, by with_unfolding_all rfl, by with_unfolding_all rfl⟩

theorem timed_unseenInMeet : Meet.view.Timed (unseenInMeet ++ [aloneInMeet]) := by
  have hclock : ([2, 4, 300, 302] : List ℚ).Pairwise (· ≤ ·) := by norm_num
  have hmap : ((unseenInMeet ++ [aloneInMeet]).map fun q => (Meet.view.poll q).now).Pairwise (· ≤ ·) := hclock
  exact List.pairwise_map.1 hmap

theorem timed_unseenInZoom : Zoom.view.Timed (unseenInZoom ++ [aloneInZoom]) := by
  have hclock : ([2, 4, 300, 302] : List ℚ).Pairwise (· ≤ ·) := by norm_num
  have hmap : ((unseenInZoom ++ [aloneInZoom]).map fun q => (Zoom.view.poll q).now).Pairwise (· ≤ ·) := hclock
  exact List.pairwise_map.1 hmap

end Notetaker

import Mathlib.Data.List.Basic

/-!
# Call statuses and the legal transitions between them

`legalTransitions` is the table `_LEGAL_TRANSITIONS`, with the empty set for the statuses the table
does not list. `failed` is legal exactly from the active statuses and every other status has at most
one predecessor, so a stale read can lead to a legal step only when the target is `failed`.
-/

namespace Notetaker

inductive CallStatus where
  | queued | joining | recording | processing | done | failed
  deriving DecidableEq, Repr

namespace CallStatus

def activeStatuses : List CallStatus := [queued, joining, recording, processing]

def terminalStatuses : List CallStatus := [done, failed]

def legalTransitions : CallStatus → List CallStatus
  | queued => [joining, failed]
  | joining => [recording, failed]
  | recording => [processing, failed]
  | processing => [done, failed]
  | done | failed => []

abbrev Terminal (s : CallStatus) : Prop := s ∈ terminalStatuses

abbrev Active (s : CallStatus) : Prop := s ∈ activeStatuses

abbrev InFlight (s : CallStatus) : Prop := s ∈ [joining, recording, processing]

abbrev Legal (s t : CallStatus) : Prop := t ∈ legalTransitions s

theorem terminal_done : done.Terminal := by decide

theorem terminal_failed : failed.Terminal := by decide

theorem not_terminal_recording : ¬ recording.Terminal := by decide

theorem legal_processing_done : Legal processing done := by decide

theorem legal_processing_failed : Legal processing failed := by decide

theorem active_iff_not_terminal (s : CallStatus) : s.Active ↔ ¬ s.Terminal := by
  cases s <;> decide

theorem legal_failed_iff (s : CallStatus) : Legal s failed ↔ ¬ s.Terminal := by
  cases s <;> decide

theorem not_terminal_of_legal {s t : CallStatus} (h : Legal s t) : ¬ s.Terminal := by
  revert h; cases s <;> cases t <;> decide

theorem Legal.ne {s t : CallStatus} (h : Legal s t) : s ≠ t := by
  revert h; cases s <;> cases t <;> decide

theorem not_queued_of_legal {s t : CallStatus} (h : Legal s t) : t ≠ queued := by
  revert h; cases s <;> cases t <;> decide

theorem InFlight.active {s : CallStatus} (h : s.InFlight) : s.Active := by
  revert h; cases s <;> decide

/-- Away from `failed` the table is injective: a target determines the status it is left from. -/
theorem Legal.source_unique {s s' t : CallStatus} (ht : t ≠ failed) (h : Legal s t)
    (h' : Legal s' t) : s = s' := by
  revert ht h h'; cases s <;> cases s' <;> cases t <;> decide

/-- What a transition checked against the status `seen` does to a row whose status is `s`. -/
theorem legal_iff_of_legal_seen {seen s t : CallStatus} (h : Legal seen t) :
    Legal s t ↔ s = seen ∨ (t = failed ∧ ¬ s.Terminal) := by
  constructor
  · intro hs
    by_cases ht : t = failed
    · subst ht
      exact Or.inr ⟨rfl, (legal_failed_iff s).1 hs⟩
    · exact Or.inl (hs.source_unique ht h)
  · rintro (rfl | ⟨rfl, hs⟩)
    · exact h
    · exact (legal_failed_iff s).2 hs

end CallStatus
end Notetaker

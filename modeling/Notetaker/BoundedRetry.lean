import Mathlib.Data.List.Range

/-!
# Retrying a bounded number of times

Attempts are numbered. `again k` says that attempt `k` asks for another one, and `StopsAfter` how many
attempts are made when `left` are left. `trace` is what they leave behind when there is a pause between
any two of them.
-/

namespace BoundedRetry

/-- The attempts from number `first` on end at the first one that is final, or when none are left. -/
structure StopsAfter (again : ℕ → Prop) (first left made : ℕ) : Prop where
  le : made ≤ left
  retried : ∀ k, k + 1 < made → again (first + k)
  final : made < left → ∃ k, made = k + 1 ∧ ¬ again (first + k)

section Stops

variable {again : ℕ → Prop} {first left made : ℕ}

theorem stopsAfter_zero : StopsAfter again first 0 0 :=
  ⟨Nat.le_refl 0, fun _ h => by omega, fun h => by omega⟩

theorem stopsAfter_last : StopsAfter again first 1 1 :=
  ⟨Nat.le_refl 1, fun _ h => by omega, fun h => by omega⟩

theorem stopsAfter_final (h : ¬ again first) : StopsAfter again first (left + 1) 1 :=
  ⟨by omega, fun _ h => by omega, fun _ => ⟨0, rfl, h⟩⟩

theorem StopsAfter.pos (h : StopsAfter again first (left + 1) made) : 0 < made := by
  by_contra hmade
  obtain ⟨k, hk, -⟩ := h.final (by omega)
  omega

theorem StopsAfter.retry (hagain : again first) (h : StopsAfter again (first + 1) left made) :
    StopsAfter again first (left + 1) (made + 1) := by
  have hshift : ∀ k, first + 1 + k = first + (k + 1) := fun k => by omega
  constructor
  · exact Nat.succ_le_succ h.le
  · intro k hk
    cases k with
    | zero => exact hagain
    | succ k =>
        rw [← hshift]
        exact h.retried k (by omega)
  · intro hlt
    obtain ⟨k, hk, hfinal⟩ := h.final (by omega)
    refine ⟨k + 1, by omega, ?_⟩
    rw [← hshift]
    exact hfinal

theorem StopsAfter.not_lt {other : ℕ} (h : StopsAfter again first left made)
    (hother : StopsAfter again first left other) : ¬ made < other := by
  intro hlt
  have hle := hother.le
  obtain ⟨k, hk, hfinal⟩ := h.final (by omega)
  exact hfinal (hother.retried k (by omega))

theorem StopsAfter.unique {other : ℕ} (h : StopsAfter again first left made)
    (hother : StopsAfter again first left other) : made = other := by
  have hlt := h.not_lt hother
  have hgt := hother.not_lt h
  omega

end Stops

section Trace

variable {ε : Type*} (attempt pause : ℕ → ε)

/-- The `made` attempts from number `first` on, with the pauses between them. -/
def trace (first made : ℕ) : List ε :=
  (List.range made).flatMap fun k =>
    attempt (first + k) :: if k + 1 < made then [pause (first + k)] else []

theorem trace_succ (first made : ℕ) :
    trace attempt pause first (made + 1) =
      attempt first :: ((if made = 0 then [] else [pause first]) ++
        trace attempt pause (first + 1) made) := by
  have hrest : (List.range made).flatMap (fun k => attempt (first + k.succ) ::
      if k.succ + 1 < made + 1 then [pause (first + k.succ)] else []) =
      trace attempt pause (first + 1) made := by
    apply List.flatMap_congr
    intro k _
    have hshift : first + k.succ = first + 1 + k := by omega
    rw [hshift]
    by_cases hk : k + 1 < made
    · rw [if_pos hk, if_pos (by omega)]
    · rw [if_neg hk, if_neg (by omega)]
  rw [← hrest, trace, List.range_succ_eq_map, List.flatMap_cons, List.flatMap_map, Nat.add_zero]
  by_cases hmade : made = 0
  · rw [if_pos hmade, if_neg (by omega)]
    rfl
  · rw [if_neg hmade, if_pos (by omega)]
    rfl

theorem length_filterMap_trace {α : Type*} {f : ε → Option α}
    (hattempt : ∀ k, (f (attempt k)).isSome) (hpause : ∀ k, f (pause k) = none) (first made : ℕ) :
    ((trace attempt pause first made).filterMap f).length = made := by
  induction made generalizing first with
  | zero => rfl
  | succ made ih =>
      obtain ⟨a, ha⟩ := Option.isSome_iff_exists.1 (hattempt first)
      rw [trace_succ, List.filterMap_cons_some ha, List.length_cons, List.filterMap_append,
        List.length_append, ih]
      split_ifs with hmade
      · rw [List.filterMap_nil, List.length_nil, Nat.zero_add]
      · rw [List.filterMap_cons_none (hpause first), List.filterMap_nil, List.length_nil,
          Nat.zero_add]

end Trace
end BoundedRetry

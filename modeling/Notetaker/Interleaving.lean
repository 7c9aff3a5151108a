import Mathlib.Data.List.Basic
import Mathlib.Data.Option.Basic

/-!
# Two workers that take turns

A `Gather` is two workers on one state. At each turn the schedule names a worker; when that one cannot
go on, the other one does. The run is over once a worker has raised or neither can go on, and as each
turn has a smaller weight it is over for every schedule. `Interleaves` is the order in which the work
of the two comes together.
-/

inductive Side where
  | left | right
  deriving DecidableEq

def Side.other : Side → Side
  | .left => .right
  | .right => .left

theorem Side.eq_or_eq_other (side side' : Side) : side = side' ∨ side = side'.other := by
  cases side <;> cases side' <;> decide

structure Gather (σ : Type*) where
  turn : Side → σ → Option σ
  raised : σ → Bool
  weight : σ → ℕ
  decreases : ∀ side s t, turn side s = some t → weight t < weight s

namespace Gather

variable {σ : Type*} (G : Gather σ)

def next (side : Side) (s : σ) : Option σ :=
  if G.raised s then none else (G.turn side s).or (G.turn side.other s)

theorem next_cases {side : Side} {s t : σ} (h : G.next side s = some t) :
    G.raised s = false ∧ ∃ side', G.turn side' s = some t := by
  unfold next at h
  split_ifs at h with hraised
  refine ⟨by simpa using hraised, ?_⟩
  rcases Option.or_eq_some_iff.1 h with hturn | ⟨-, hturn⟩
  · exact ⟨side, hturn⟩
  · exact ⟨side.other, hturn⟩

theorem weight_next {side : Side} {s t : σ} (h : G.next side s = some t) :
    G.weight t < G.weight s := by
  obtain ⟨-, side', hturn⟩ := G.next_cases h
  exact G.decreases side' s t hturn

def run (order : ℕ → Side) (s : σ) : σ :=
  match _h : G.next (order 0) s with
  | none => s
  | some t => run (fun n => order (n + 1)) t
termination_by G.weight s
decreasing_by exact G.weight_next _h

variable {G}

theorem run_of_none {order : ℕ → Side} {s : σ} (h : G.next (order 0) s = none) :
    G.run order s = s := by
  rw [run]
  split
  · rfl
  · rename_i hnext
    rw [h] at hnext
    cases hnext

theorem run_of_next {order : ℕ → Side} {s t : σ} (h : G.next (order 0) s = some t) :
    G.run order s = G.run (fun n => order (n + 1)) t := by
  rw [run]
  split
  · rename_i hnext
    rw [h] at hnext
    cases hnext
  · rename_i t' hnext
    rw [h, Option.some.injEq] at hnext
    rw [hnext]

theorem run_invariant {P : σ → Prop}
    (hturn : ∀ side s t, P s → G.raised s = false → G.turn side s = some t → P t)
    (order : ℕ → Side) {s : σ} (hs : P s) : P (G.run order s) := by
  induction order, s using Gather.run.induct G with
  | case1 order s hnext =>
      rw [run_of_none hnext]
      exact hs
  | case2 order s t hnext ih =>
      obtain ⟨hraised, side, hside⟩ := G.next_cases hnext
      rw [run_of_next hnext]
      exact ih (hturn side s t hs hraised hside)

/-- At the end of the run a worker has raised or neither goes on. -/
theorem run_settled (order : ℕ → Side) (s : σ) :
    G.raised (G.run order s) ∨ ∀ side, G.turn side (G.run order s) = none := by
  induction order, s using Gather.run.induct G with
  | case1 order s hnext =>
      rw [run_of_none hnext]
      unfold next at hnext
      split_ifs at hnext with hraised
      · exact .inl hraised
      · right
        obtain ⟨hside, hother⟩ := Option.or_eq_none_iff.1 hnext
        intro side
        rcases side.eq_or_eq_other (order 0) with rfl | rfl
        · exact hside
        · exact hother
  | case2 order s t hnext ih =>
      rw [run_of_next hnext]
      exact ih

end Gather

/-- The items of two lists in one order that keeps the order of each. -/
inductive Interleaves {α : Type*} : List α → List α → List α → Prop where
  | nil : Interleaves [] [] []
  | left {xs ys zs : List α} (x : α) (h : Interleaves xs ys zs) :
      Interleaves (xs ++ [x]) ys (zs ++ [x])
  | right {xs ys zs : List α} (y : α) (h : Interleaves xs ys zs) :
      Interleaves xs (ys ++ [y]) (zs ++ [y])

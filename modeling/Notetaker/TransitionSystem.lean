import Mathlib.Data.List.Basic
import Mathlib.Data.Option.Basic

/-!
# Guarded transition systems and their runs

A step function answers `none` when an event is not enabled, so one definition serves the replay
of a concrete schedule and the induction over every schedule. `run` replays a list of events,
`Reachable` collects the end states of the runs from an initial state, and `Meets` says that every
step of a schedule meets a condition on the state before the step.
-/

structure TransitionSystem (σ ε : Type*) where
  init : σ → Prop
  step : σ → ε → Option σ

namespace TransitionSystem

variable {σ ε : Type*} (T : TransitionSystem σ ε)

def run (s : σ) : List ε → Option σ
  | [] => some s
  | e :: es => (T.step s e).bind fun t => run t es

def Reachable (t : σ) : Prop := ∃ s es, T.init s ∧ T.run s es = some t

@[simp] theorem run_nil (s : σ) : T.run s [] = some s := rfl

theorem run_cons_eq_some {s u : σ} {e : ε} {es : List ε} :
    T.run s (e :: es) = some u ↔ ∃ t, T.step s e = some t ∧ T.run t es = some u := by
  simp [run, Option.bind_eq_some_iff]

theorem run_append (s : σ) (es es' : List ε) :
    T.run s (es ++ es') = (T.run s es).bind fun t => T.run t es' := by
  induction es generalizing s with
  | nil => rfl
  | cons e es ih =>
      cases h : T.step s e with
      | none => simp [run, h]
      | some t => simp [run, h, ih]

/-- The run rule: what one step preserves, a whole run preserves. -/
theorem run_invariant {P : σ → Prop}
    (hstep : ∀ s e t, P s → T.step s e = some t → P t)
    {s t : σ} {es : List ε} (hs : P s) (hrun : T.run s es = some t) : P t := by
  induction es generalizing s with
  | nil =>
      obtain rfl : s = t := by simpa using hrun
      exact hs
  | cons e es ih =>
      obtain ⟨u, hu, hrest⟩ := T.run_cons_eq_some.1 hrun
      exact ih (hstep s e u hs hu) hrest

theorem reachable_invariant {P : σ → Prop} (hinit : ∀ s, T.init s → P s)
    (hstep : ∀ s e t, P s → T.step s e = some t → P t) {t : σ} (ht : T.Reachable t) : P t := by
  obtain ⟨s, es, hs, hrun⟩ := ht
  exact T.run_invariant hstep (hinit s hs) hrun

/-- Every step of the schedule is taken in a state in which `C` holds of it. -/
def Meets (C : σ → ε → Prop) : σ → List ε → Prop
  | _, [] => True
  | s, e :: es => C s e ∧ ∀ t, T.step s e = some t → Meets C t es

section Meets

variable {T} {C : σ → ε → Prop}

theorem meets_cons {s t : σ} {e : ε} {es : List ε} (he : T.step s e = some t) :
    T.Meets C s (e :: es) ↔ C s e ∧ T.Meets C t es := by
  simp [Meets, he]

instance decidableMeets [∀ s e, Decidable (C s e)] : ∀ s es, Decidable (T.Meets C s es)
  | _, [] => .isTrue trivial
  | s, e :: es =>
      match h : T.step s e with
      | none => decidable_of_iff (C s e) (by simp [Meets, h])
      | some t =>
          have := decidableMeets t es
          decidable_of_iff (C s e ∧ T.Meets C t es) (meets_cons h).symm

theorem meets_append {s t : σ} {es es' : List ε} (hrun : T.run s es = some t) :
    T.Meets C s (es ++ es') ↔ T.Meets C s es ∧ T.Meets C t es' := by
  induction es generalizing s with
  | nil =>
      obtain rfl : s = t := by simpa using hrun
      simp [Meets]
  | cons e es ih =>
      obtain ⟨u, hu, hrest⟩ := T.run_cons_eq_some.1 hrun
      rw [List.cons_append, meets_cons hu, meets_cons hu, ih hrest, and_assoc]

theorem meets_congr {P : σ → Prop} {C' : σ → ε → Prop}
    (hP : ∀ s e t, P s → T.step s e = some t → P t) (hC : ∀ s e, P s → (C s e ↔ C' s e))
    {s : σ} (hs : P s) (es : List ε) : T.Meets C s es ↔ T.Meets C' s es := by
  induction es generalizing s with
  | nil => exact Iff.rfl
  | cons e es ih =>
      refine and_congr (hC s e hs) (forall_congr' fun t => forall_congr' fun ht => ?_)
      exact ih (hP s e t hs ht)

theorem meets_of_forall {s : σ} {es : List ε} (h : ∀ e ∈ es, ∀ s, C s e) : T.Meets C s es := by
  induction es generalizing s with
  | nil => trivial
  | cons e es ih =>
      exact ⟨h e (by simp) s, fun t _ => ih fun e' he => h e' (List.mem_cons_of_mem e he)⟩

/-- The run rule for schedules whose steps meet a condition. -/
theorem run_invariant_of_meets {P : σ → Prop}
    (hstep : ∀ s e t, P s → C s e → T.step s e = some t → P t)
    {s t : σ} {es : List ε} (hs : P s) (hC : T.Meets C s es) (hrun : T.run s es = some t) :
    P t := by
  induction es generalizing s with
  | nil =>
      obtain rfl : s = t := by simpa using hrun
      exact hs
  | cons e es ih =>
      obtain ⟨u, hu, hrest⟩ := T.run_cons_eq_some.1 hrun
      obtain ⟨he, hmeets⟩ := (meets_cons hu).1 hC
      exact ih (hstep s e u hs he hu) hmeets hrest

/-- What an invariant gives each step, it gives all steps of a schedule. -/
theorem meets_of_invariant {P : σ → Prop} {C' : σ → ε → Prop}
    (hstep : ∀ s e t, P s → C s e → T.step s e = some t → P t)
    (hC : ∀ s e, P s → C s e → C' s e) {s : σ} {es : List ε} (hs : P s) (h : T.Meets C s es) :
    T.Meets C' s es := by
  induction es generalizing s with
  | nil => trivial
  | cons e es ih =>
      obtain ⟨he, hrest⟩ := h
      exact ⟨hC s e hs he, fun t ht => ih (hstep s e t hs he ht) (hrest t ht)⟩

/-- When each step keeps `Q` exactly if it meets `C`, a run keeps `Q` exactly if all its steps
meet `C`. -/
theorem run_iff_meets {P Q : σ → Prop} (hP : ∀ s e t, P s → T.step s e = some t → P t)
    (hQ : ∀ s e t, P s → T.step s e = some t → (Q t ↔ Q s ∧ C s e))
    {s t : σ} {es : List ε} (hs : P s) (hrun : T.run s es = some t) :
    Q t ↔ Q s ∧ T.Meets C s es := by
  induction es generalizing s with
  | nil =>
      obtain rfl : s = t := by simpa using hrun
      simp [Meets]
  | cons e es ih =>
      obtain ⟨u, hu, hrest⟩ := T.run_cons_eq_some.1 hrun
      rw [ih (hP s e u hs hu) hrest, hQ s e u hs hu, meets_cons hu, and_assoc]

end Meets

end TransitionSystem

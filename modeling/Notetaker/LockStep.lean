import Notetaker.TransitionSystem

/-!
# Two systems in lockstep

`outputs` collects what the steps of a schedule let out. Two systems are in lockstep when related events
take related states to related states, or are enabled in neither, and let out the same. They stay so
over whole schedules. With one system on both sides this is noninterference, for the part of the state
and of the events that the relations leave open.
-/

namespace TransitionSystem

variable {σ ε τ η ω : Type*} (T : TransitionSystem σ ε) (U : TransitionSystem τ η)

/-- What the steps of a schedule let out, up to the first that is not enabled. -/
def outputs (out : σ → ε → List ω) : σ → List ε → List ω
  | _, [] => []
  | s, e :: es =>
      match T.step s e with
      | some t => out s e ++ outputs out t es
      | none => []

structure LockStep (outT : σ → ε → List ω) (outU : τ → η → List ω) (R : σ → τ → Prop)
    (E : ε → η → Prop) : Prop where
  output : ∀ {s t e f}, R s t → E e f → outT s e = outU t f
  step : ∀ {s t e f}, R s t → E e f → Option.Rel R (T.step s e) (U.step t f)

namespace LockStep

variable {T U} {outT : σ → ε → List ω} {outU : τ → η → List ω} {R : σ → τ → Prop} {E : ε → η → Prop}

/-- Related schedules end in related states, or fail together, and let out the same. -/
theorem run (h : LockStep T U outT outU R E) {s : σ} {t : τ} (hs : R s t) {es : List ε}
    {fs : List η} (hes : List.Forall₂ E es fs) :
    Option.Rel R (T.run s es) (U.run t fs) ∧ T.outputs outT s es = U.outputs outU t fs := by
  induction hes generalizing s t with
  | nil => exact ⟨.some hs, rfl⟩
  | cons he hrest ih =>
      have hstep := h.step hs he
      rw [outputs, outputs, TransitionSystem.run, TransitionSystem.run]
      generalize T.step s _ = next at hstep ⊢
      generalize U.step t _ = next' at hstep ⊢
      cases hstep with
      | none => exact ⟨.none, rfl⟩
      | some hnext =>
          obtain ⟨hend, houtputs⟩ := ih hnext
          refine ⟨hend, ?_⟩
          dsimp only
          rw [h.output hs he, houtputs]

end LockStep

end TransitionSystem

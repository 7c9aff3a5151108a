import Notetaker.PollingLoop
import Notetaker.TransitionSystem

/-!
# Event logs under a monitor

A transition system over the events of a computation is a monitor: it accepts the order of the events or
gets stuck. `Monitored` is a triple. The monitor accepts what is emitted from the given state on, and
the state it reaches meets one condition when the computation returns and another when it raises.
-/

namespace TransitionSystem

variable {σ ε : Type} (T : TransitionSystem σ ε)

theorem run_eq_self {s : σ} {es : List ε} (h : ∀ e ∈ es, T.step s e = some s) :
    T.run s es = some s := by
  induction es with
  | nil => rfl
  | cons e es ih =>
      obtain ⟨hhead, htail⟩ := List.forall_mem_cons.1 h
      exact T.run_cons_eq_some.2 ⟨s, hhead, ih htail⟩

theorem run_append_eq_some {s u : σ} {es es' : List ε} :
    T.run s (es ++ es') = some u ↔ ∃ t, T.run s es = some t ∧ T.run t es' = some u := by
  rw [run_append, Option.bind_eq_some_iff]

/-- Events that use up a potential are not more than there is of it. -/
theorem countP_le_of_run (potential : σ → ℕ) {p : ε → Bool}
    (hstep : ∀ s e t, T.step s e = some t →
      potential t + (if p e then 1 else 0) ≤ potential s) {s t : σ} {es : List ε}
    (hrun : T.run s es = some t) : es.countP p ≤ potential s := by
  induction es generalizing s with
  | nil => exact Nat.zero_le _
  | cons e es ih =>
      obtain ⟨u, hu, hrest⟩ := T.run_cons_eq_some.1 hrun
      have htail := ih hrest
      have hhead := hstep s e u hu
      rw [List.countP_cons]
      omega

/-- Events of one kind pay for those of another, up to what the state still owes. -/
theorem countP_add_of_run (owed : σ → ℕ) {p q : ε → Bool}
    (hstep : ∀ s e t, T.step s e = some t →
      owed t + (if p e then 1 else 0) = owed s + if q e then 1 else 0) {s t : σ} {es : List ε}
    (hrun : T.run s es = some t) : owed t + es.countP p = owed s + es.countP q := by
  induction es generalizing s with
  | nil =>
      obtain rfl : s = t := by simpa using hrun
      rfl
  | cons e es ih =>
      obtain ⟨u, hu, hrest⟩ := T.run_cons_eq_some.1 hrun
      have htail := ih hrest
      have hhead := hstep s e u hu
      rw [List.countP_cons, List.countP_cons]
      omega

theorem exists_event_of_run {P : σ → Prop} {s t : σ} {es : List ε} (hrun : T.run s es = some t)
    (hs : ¬ P s) (ht : P t) :
    ∃ e ∈ es, ∃ u v, T.step u e = some v ∧ ¬ P u ∧ P v := by
  induction es generalizing s with
  | nil =>
      obtain rfl : s = t := by simpa using hrun
      exact absurd ht hs
  | cons e es ih =>
      obtain ⟨u, hu, hrest⟩ := T.run_cons_eq_some.1 hrun
      by_cases hP : P u
      · exact ⟨e, List.mem_cons_self, s, u, hu, hs, hP⟩
      · obtain ⟨e', he', hchange⟩ := ih hrest hP
        exact ⟨e', List.mem_cons_of_mem e he', hchange⟩

end TransitionSystem

namespace EventLog

variable {σ ε err α β : Type} (T : TransitionSystem σ ε)

structure MonitoredTo (t : σ) (x : EventLog ε err α) (Q : α → σ → Prop) (E : err → σ → Prop) :
    Prop where
  returns : ∀ a, x.result = .ok a → Q a t
  raises : ∀ e, x.result = .error e → E e t

def Monitored (s : σ) (x : EventLog ε err α) (Q : α → σ → Prop) (E : err → σ → Prop) : Prop :=
  ∃ t, T.run s x.events = some t ∧ MonitoredTo t x Q E

variable {T} {s t : σ} {x : EventLog ε err α} {Q : α → σ → Prop} {E : err → σ → Prop}

namespace Monitored

theorem emit {event : ε} {Q : Unit → σ → Prop} (hstep : T.step s event = some t) (h : Q () t) :
    Monitored T s (EventLog.emit event) Q E := by
  refine ⟨t, ?_, ?_, ?_⟩
  · exact T.run_cons_eq_some.2 ⟨t, hstep, rfl⟩
  · rintro u ⟨⟩
    exact h
  · rintro e ⟨⟩

theorem steady (h : ∀ event ∈ x.events, T.step s event = some s)
    (hreturns : ∀ a, x.result = .ok a → Q a s) (hraises : ∀ e, x.result = .error e → E e s) :
    Monitored T s x Q E := ⟨s, T.run_eq_self h, hreturns, hraises⟩

theorem bind {f : α → EventLog ε err β} {R : β → σ → Prop}
    (h : Monitored T s x (fun a t => Monitored T t (f a) R E) E) : Monitored T s (x >>= f) R E := by
  obtain ⟨t, hrun, hx⟩ := h
  cases hresult : x.result with
  | ok a =>
      rw [bind_of_ok hresult]
      obtain ⟨u, hrest, hf⟩ := hx.returns a hresult
      refine ⟨u, ?_, hf.returns, hf.raises⟩
      rw [T.run_append, hrun]
      exact hrest
  | error e =>
      rw [bind_of_error hresult]
      refine ⟨t, hrun, ?_, ?_⟩
      · rintro b ⟨⟩
      · rintro e' ⟨⟩
        exact hx.raises e hresult

theorem read_bind {reading : Except err β} {f : β → EventLog ε err α}
    (hreturns : ∀ b, reading = .ok b → Monitored T s (f b) Q E)
    (hraises : ∀ e, reading = .error e → E e s) : Monitored T s (EventLog.read reading >>= f) Q E :=
  bind (steady nofun hreturns hraises)

theorem ensure {last : EventLog ε err Unit}
    (h : Monitored T s x (fun a t => Monitored T t last (fun _ u => Q a u) E)
      (fun e t => Monitored T t last (fun _ u => E e u) E)) :
    Monitored T s (x.ensure last) Q E := by
  obtain ⟨t, hrun, hx⟩ := h
  have hlast : ∃ u, T.run t last.events = some u ∧
      (∀ e, last.result = .error e → E e u) ∧
      (last.result = .ok () → (∀ a, x.result = .ok a → Q a u) ∧ ∀ e, x.result = .error e → E e u) := by
    cases hresult : x.result with
    | ok a =>
        obtain ⟨u, hlast, hu⟩ := hx.returns a hresult
        refine ⟨u, hlast, hu.raises, fun hok => ⟨?_, ?_⟩⟩
        · rintro b ⟨⟩
          exact hu.returns () hok
        · rintro e ⟨⟩
    | error e =>
        obtain ⟨u, hlast, hu⟩ := hx.raises e hresult
        refine ⟨u, hlast, hu.raises, fun hok => ⟨?_, ?_⟩⟩
        · rintro b ⟨⟩
        · rintro e' ⟨⟩
          exact hu.returns () hok
  obtain ⟨u, hu, hraises, hreturns⟩ := hlast
  refine ⟨u, ?_, ?_⟩
  · unfold EventLog.ensure
    rw [T.run_append, hrun]
    exact hu
  · unfold EventLog.ensure
    cases hresult : last.result with
    | ok v => exact ⟨(hreturns hresult).1, (hreturns hresult).2⟩
    | error e =>
        constructor
        · rintro b ⟨⟩
        · rintro e' ⟨⟩
          exact hraises e hresult

theorem rescue {handler : err → EventLog ε err α}
    (h : Monitored T s x Q fun e t => Monitored T t (handler e) Q E) :
    Monitored T s (x.rescue handler) Q E := by
  obtain ⟨t, hrun, hx⟩ := h
  unfold EventLog.rescue
  cases hresult : x.result with
  | ok a =>
      refine ⟨t, hrun, ?_, ?_⟩
      · rintro b ⟨⟩
        exact hx.returns a hresult
      · rintro e ⟨⟩
  | error e =>
      obtain ⟨u, hrest, hu⟩ := hx.raises e hresult
      refine ⟨u, ?_, hu.returns, hu.raises⟩
      dsimp only
      rw [T.run_append, hrun]
      exact hrest

end Monitored

end EventLog

namespace PollingLoop

variable {σ τ α ε err ρ : Type} {T : TransitionSystem τ ε} (loop : PollingLoop σ α ε err ρ)

/-- The rule of a loop, with an invariant between its state and the one of the monitor. -/
theorem run_monitored {I : σ → τ → Prop} {Q : ρ → τ → Prop} {E : err → τ → Prop}
    (hstep : ∀ s poll φ, I s φ → EventLog.Monitored T φ (loop.step s poll)
      (fun next ψ => Sum.elim (fun t => I t ψ) (fun r => Q r ψ) next) E)
    {s : σ} {φ : τ} (hs : I s φ) (polls : List α) :
    ∃ ψ, T.run φ (loop.run s polls).1 = some ψ ∧
      (∀ t, (loop.run s polls).2 = .polling t → I t ψ) ∧
      (∀ r, (loop.run s polls).2 = .returned r → Q r ψ) ∧
      ∀ e, (loop.run s polls).2 = .raised e → E e ψ := by
  induction polls generalizing s φ with
  | nil =>
      refine ⟨φ, rfl, ?_, ?_, ?_⟩
      · rintro t ⟨⟩
        exact hs
      · rintro r ⟨⟩
      · rintro e ⟨⟩
  | cons poll polls ih =>
      obtain ⟨χ, hrun, hturn⟩ := hstep s poll φ hs
      cases hresult : (loop.step s poll).result with
      | error e =>
          rw [loop.run_cons_raised hresult]
          refine ⟨χ, hrun, ?_, ?_, ?_⟩
          · rintro t ⟨⟩
          · rintro r ⟨⟩
          · rintro e' ⟨⟩
            exact hturn.raises e hresult
      | ok next =>
          have hnext := hturn.returns next hresult
          cases next with
          | inr r =>
              rw [loop.run_cons_returned hresult]
              refine ⟨χ, hrun, ?_, ?_, ?_⟩
              · rintro t ⟨⟩
              · rintro r' ⟨⟩
                exact hnext
              · rintro e ⟨⟩
          | inl t =>
              rw [loop.run_cons_polling hresult]
              obtain ⟨ψ, hrest, hpolling, hreturned, hraised⟩ := ih hnext
              refine ⟨ψ, ?_, hpolling, hreturned, hraised⟩
              rw [T.run_append, hrun]
              exact hrest

end PollingLoop

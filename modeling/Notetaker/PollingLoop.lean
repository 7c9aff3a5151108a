import Mathlib.Data.List.Basic

/-!
# Polling loops that emit events and may raise

`EventLog` is a computation that emits events in order and then returns a value or raises. A
`PollingLoop` takes one step for each input: it goes on with a new state, returns, or raises. `run`
feeds it a list of inputs and ignores those behind the step that ends it.
-/

structure EventLog (ε err α : Type) where
  events : List ε
  result : Except err α

namespace EventLog

variable {ε err α β : Type}

instance : Monad (EventLog ε err) where
  pure a := ⟨[], .ok a⟩
  bind x f :=
    match x.result with
    | .ok a => ⟨x.events ++ (f a).events, (f a).result⟩
    | .error e => ⟨x.events, .error e⟩

def emit (event : ε) : EventLog ε err Unit := ⟨[event], .ok ()⟩

/-- A reading that may raise. -/
def read (x : Except err α) : EventLog ε err α := ⟨[], x⟩

/-- `try: x; except: handler`. -/
def rescue (x : EventLog ε err α) (handler : err → EventLog ε err α) : EventLog ε err α :=
  match x.result with
  | .ok a => ⟨x.events, .ok a⟩
  | .error e => ⟨x.events ++ (handler e).events, (handler e).result⟩

/-- `try: x; finally: last`. -/
def ensure (x : EventLog ε err α) (last : EventLog ε err Unit) : EventLog ε err α :=
  ⟨x.events ++ last.events, match last.result with
    | .ok () => x.result
    | .error e => .error e⟩

@[simp] theorem events_pure (a : α) : (pure a : EventLog ε err α).events = [] := rfl

@[simp] theorem result_pure (a : α) : (pure a : EventLog ε err α).result = .ok a := rfl

@[simp] theorem events_emit (event : ε) : (emit event : EventLog ε err Unit).events = [event] := rfl

@[simp] theorem result_emit (event : ε) : (emit event : EventLog ε err Unit).result = .ok () := rfl

@[simp] theorem events_read (x : Except err α) : (read x : EventLog ε err α).events = [] := rfl

@[simp] theorem result_read (x : Except err α) : (read x : EventLog ε err α).result = x := rfl

theorem bind_of_ok {x : EventLog ε err α} {a : α} (h : x.result = .ok a) (f : α → EventLog ε err β) :
    x >>= f = ⟨x.events ++ (f a).events, (f a).result⟩ := by
  change (match x.result with | .ok a => _ | .error e => _) = _
  rw [h]

theorem bind_of_error {x : EventLog ε err α} {e : err} (h : x.result = .error e)
    (f : α → EventLog ε err β) : x >>= f = ⟨x.events, .error e⟩ := by
  change (match x.result with | .ok a => _ | .error e => _) = _
  rw [h]

@[simp] theorem pure_bind (a : α) (f : α → EventLog ε err β) : (pure a : EventLog ε err α) >>= f = f a :=
  bind_of_ok rfl f

@[simp] theorem read_ok_bind (a : α) (f : α → EventLog ε err β) :
    (read (.ok a) : EventLog ε err α) >>= f = f a := bind_of_ok rfl f

theorem result_bind (x : EventLog ε err α) (f : α → EventLog ε err β) :
    (x >>= f).result = x.result >>= fun a => (f a).result := by
  cases hx : x.result with
  | ok a => rw [bind_of_ok hx]; rfl
  | error e => rw [bind_of_error hx]; rfl

theorem result_bind_eq_ok {x : EventLog ε err α} {f : α → EventLog ε err β} {b : β} :
    (x >>= f).result = .ok b ↔ ∃ a, x.result = .ok a ∧ (f a).result = .ok b := by
  cases hx : x.result with
  | ok a => simp [bind_of_ok hx]
  | error e => simp [bind_of_error hx]

theorem result_emit_bind (event : ε) (f : Unit → EventLog ε err β) :
    (emit event >>= f).result = (f ()).result := by
  rw [bind_of_ok (result_emit event)]

theorem result_ensure_eq_ok {x : EventLog ε err α} {last : EventLog ε err Unit} {a : α} :
    (x.ensure last).result = .ok a ↔ x.result = .ok a ∧ last.result = .ok () := by
  unfold ensure
  cases hlast : last.result with
  | ok u => simp
  | error e => simp

theorem result_bind_congr {x y : EventLog ε err α} {f g : α → EventLog ε err β}
    (h : x.result = y.result) (hf : ∀ a, x.result = .ok a → (f a).result = (g a).result) :
    (x >>= f).result = (y >>= g).result := by
  cases hx : x.result with
  | ok a =>
      rw [bind_of_ok hx, bind_of_ok (h.symm.trans hx)]
      exact hf a hx
  | error e => rw [bind_of_error hx, bind_of_error (h.symm.trans hx)]

theorem result_ensure_congr {x y : EventLog ε err α} {last last' : EventLog ε err Unit}
    (h : x.result = y.result) (hlast : last.result = last'.result) :
    (x.ensure last).result = (y.ensure last').result := by
  unfold ensure
  rw [h, hlast]

/-! ### Events of a kind -/

def Emits (P : ε → Prop) (x : EventLog ε err α) : Prop := ∀ event ∈ x.events, P event

namespace Emits

variable {P : ε → Prop} {x : EventLog ε err α}

theorem pure {a : α} : Emits P (Pure.pure a : EventLog ε err α) := by
  rintro event ⟨⟩

theorem read {reading : Except err α} : Emits P (EventLog.read reading : EventLog ε err α) := by
  rintro event ⟨⟩

theorem emit {event : ε} (h : P event) : Emits P (EventLog.emit event : EventLog ε err Unit) := by
  intro event' hevent
  rw [List.mem_singleton.1 hevent]
  exact h

theorem bind {f : α → EventLog ε err β} (hx : Emits P x)
    (hf : ∀ a, x.result = .ok a → Emits P (f a)) : Emits P (x >>= f) := by
  cases hresult : x.result with
  | ok a =>
      rw [Emits, bind_of_ok hresult]
      intro event hevent
      rcases List.mem_append.1 hevent with hmem | hmem
      · exact hx event hmem
      · exact hf a hresult event hmem
  | error e =>
      rw [Emits, bind_of_error hresult]
      exact hx

theorem head_of_bind {f : α → EventLog ε err β} (h : Emits P (x >>= f)) : Emits P x := by
  cases hresult : x.result with
  | ok a =>
      rw [Emits, bind_of_ok hresult] at h
      exact fun event hevent => h event (List.mem_append_left _ hevent)
  | error e =>
      rw [bind_of_error hresult] at h
      exact h

theorem rest_of_bind {f : α → EventLog ε err β} {a : α} (hresult : x.result = .ok a)
    (h : Emits P (x >>= f)) : Emits P (f a) := by
  rw [Emits, bind_of_ok hresult] at h
  exact fun event hevent => h event (List.mem_append_right _ hevent)

theorem read_bind {reading : Except err α} {f : α → EventLog ε err β}
    (hf : ∀ a, reading = .ok a → Emits P (f a)) : Emits P (EventLog.read reading >>= f) :=
  bind read hf

theorem emit_bind {event : ε} {f : Unit → EventLog ε err β} (h : P event) (hf : Emits P (f ())) :
    Emits P (EventLog.emit event >>= f) := bind (emit h) fun _ _ => hf

theorem rescue {handler : err → EventLog ε err α} (hx : Emits P x)
    (hhandler : ∀ e, Emits P (handler e)) : Emits P (x.rescue handler) := by
  unfold EventLog.rescue
  cases x.result with
  | ok a => exact hx
  | error e =>
      intro event hevent
      rcases List.mem_append.1 hevent with hmem | hmem
      · exact hx event hmem
      · exact hhandler e event hmem

theorem ite {p : Prop} [Decidable p] {y : EventLog ε err α} (hx : p → Emits P x)
    (hy : ¬ p → Emits P y) : Emits P (if p then x else y) := by
  split_ifs with h
  · exact hx h
  · exact hy h

end Emits

/-! ### Partial correctness -/

/-- Whenever the computation returns, the value meets the postcondition. -/
def Ensures (x : EventLog ε err α) (P : α → Prop) : Prop := ∀ a, x.result = .ok a → P a

variable {x : EventLog ε err α} {P : α → Prop}

theorem Ensures.pure {a : α} (h : P a) : (Pure.pure a : EventLog ε err α).Ensures P := by
  rintro b hb
  cases hb
  exact h

/-- The rule of a sequence, whose second part may use how the first one returned. -/
theorem Ensures.bind {f : α → EventLog ε err β} {R : β → Prop}
    (h : ∀ a, x.result = .ok a → (f a).Ensures R) : (x >>= f).Ensures R := by
  intro b hb
  obtain ⟨a, ha, hf⟩ := result_bind_eq_ok.1 hb
  exact h a ha b hf

theorem Ensures.read_bind {reading : Except err α} {f : α → EventLog ε err β} {R : β → Prop}
    (h : ∀ a, reading = .ok a → (f a).Ensures R) :
    ((read reading : EventLog ε err α) >>= f).Ensures R := Ensures.bind h

end EventLog

structure PollingLoop (σ α ε err ρ : Type) where
  step : σ → α → EventLog ε err (σ ⊕ ρ)

namespace PollingLoop

inductive Status (σ err ρ : Type) where
  | polling (s : σ)
  | returned (r : ρ)
  | raised (e : err)

variable {σ α ε err ρ : Type} (loop : PollingLoop σ α ε err ρ)

def comap {β : Type} (f : β → α) : PollingLoop σ β ε err ρ where
  step s b := loop.step s (f b)

/-- The events of a run over the given polls, and where the loop stands after them. -/
def run (s : σ) : List α → List ε × Status σ err ρ
  | [] => ([], .polling s)
  | poll :: polls =>
      match (loop.step s poll).result with
      | .ok (.inl t) => ((loop.step s poll).events ++ (run t polls).1, (run t polls).2)
      | .ok (.inr r) => ((loop.step s poll).events, .returned r)
      | .error e => ((loop.step s poll).events, .raised e)

theorem run_cons_polling {s t : σ} {poll : α} (h : (loop.step s poll).result = .ok (.inl t))
    (polls : List α) :
    loop.run s (poll :: polls) = ((loop.step s poll).events ++ (loop.run t polls).1,
      (loop.run t polls).2) := by
  rw [run, h]

theorem run_cons_returned {s : σ} {poll : α} {r : ρ} (h : (loop.step s poll).result = .ok (.inr r))
    (polls : List α) : loop.run s (poll :: polls) = ((loop.step s poll).events, .returned r) := by
  rw [run, h]

theorem run_cons_raised {s : σ} {poll : α} {e : err} (h : (loop.step s poll).result = .error e)
    (polls : List α) : loop.run s (poll :: polls) = ((loop.step s poll).events, .raised e) := by
  rw [run, h]

theorem run_comap {β : Type} (f : β → α) (s : σ) (polls : List β) :
    (loop.comap f).run s polls = loop.run s (polls.map f) := by
  induction polls generalizing s with
  | nil => rfl
  | cons poll polls ih =>
      have hstep : (loop.comap f).step s poll = loop.step s (f poll) := rfl
      rw [List.map_cons, run, run, hstep]
      cases (loop.step s (f poll)).result with
      | error e => rfl
      | ok next =>
          cases next with
          | inl t =>
              dsimp only
              rw [ih]
          | inr r => rfl

theorem run_append_of_polling {s t : σ} {before : List α} (h : (loop.run s before).2 = .polling t)
    (polls : List α) : (loop.run s (before ++ polls)).2 = (loop.run t polls).2 := by
  induction before generalizing s with
  | nil =>
      cases h
      rfl
  | cons poll before ih =>
      rw [List.cons_append]
      cases hresult : (loop.step s poll).result with
      | error e =>
          rw [loop.run_cons_raised hresult] at h
          cases h
      | ok next =>
          cases next with
          | inl u =>
              rw [loop.run_cons_polling hresult] at h ⊢
              exact ih h
          | inr r =>
              rw [loop.run_cons_returned hresult] at h
              cases h

theorem exists_polling_of_append {s t : σ} {before polls : List α}
    (h : (loop.run s (before ++ polls)).2 = .polling t) :
    ∃ u, (loop.run s before).2 = .polling u ∧ (loop.run u polls).2 = .polling t := by
  induction before generalizing s with
  | nil => exact ⟨s, rfl, h⟩
  | cons poll before ih =>
      rw [List.cons_append] at h
      cases hresult : (loop.step s poll).result with
      | error e =>
          rw [loop.run_cons_raised hresult] at h
          cases h
      | ok next =>
          cases next with
          | inr r =>
              rw [loop.run_cons_returned hresult] at h
              cases h
          | inl u =>
              rw [loop.run_cons_polling hresult] at h ⊢
              exact ih h

theorem step_of_run_singleton {s t : σ} {poll : α} (h : (loop.run s [poll]).2 = .polling t) :
    (loop.step s poll).result = .ok (.inl t) := by
  cases hresult : (loop.step s poll).result with
  | error e =>
      rw [loop.run_cons_raised hresult] at h
      cases h
  | ok next =>
      cases next with
      | inr r =>
          rw [loop.run_cons_returned hresult] at h
          cases h
      | inl u =>
          rw [loop.run_cons_polling hresult] at h
          cases h
          rfl

theorem exists_last_step {s t : σ} {before : List α} {poll : α}
    (h : (loop.run s (before ++ [poll])).2 = .polling t) :
    ∃ u, (loop.run s before).2 = .polling u ∧ (loop.step u poll).result = .ok (.inl t) := by
  obtain ⟨u, hbefore, hlast⟩ := loop.exists_polling_of_append h
  exact ⟨u, hbefore, loop.step_of_run_singleton hlast⟩

theorem returned_of_not_polling {s : σ} {polls : List α}
    (hstep : ∀ s, ∀ poll ∈ polls, ∃ next, (loop.step s poll).result = .ok next)
    (hover : ∀ t, (loop.run s polls).2 ≠ .polling t) : ∃ r, (loop.run s polls).2 = .returned r := by
  induction polls generalizing s with
  | nil => exact absurd rfl (hover s)
  | cons poll polls ih =>
      obtain ⟨next, hresult⟩ := hstep s poll List.mem_cons_self
      cases next with
      | inr r => exact ⟨r, by rw [loop.run_cons_returned hresult]⟩
      | inl t =>
          rw [loop.run_cons_polling hresult] at hover ⊢
          exact ih (fun s poll hpoll => hstep s poll (List.mem_cons_of_mem _ hpoll)) hover

theorem exists_result_of_returned {s t : σ} {before after : List α} {poll : α} {r : ρ}
    (hrun : (loop.run s (before ++ poll :: after)).2 = .returned r)
    (hbefore : (loop.run s before).2 = .polling t) :
    ∃ next, (loop.step t poll).result = .ok next := by
  rw [loop.run_append_of_polling hbefore] at hrun
  cases hresult : (loop.step t poll).result with
  | ok next => exact ⟨next, rfl⟩
  | error e =>
      rw [loop.run_cons_raised hresult] at hrun
      cases hrun

theorem run_map_congr (f : α → α) {s : σ} {polls : List α}
    (h : ∀ before poll after t, polls = before ++ poll :: after →
      (loop.run s before).2 = .polling t →
      (loop.step t poll).result = (loop.step t (f poll)).result) :
    (loop.run s polls).2 = (loop.run s (polls.map f)).2 := by
  induction polls generalizing s with
  | nil => rfl
  | cons poll polls ih =>
      have hhead := h [] poll polls s rfl rfl
      rw [List.map_cons, run, run, ← hhead]
      cases hresult : (loop.step s poll).result with
      | error e => rfl
      | ok next =>
          cases next with
          | inr r => rfl
          | inl t =>
              apply ih
              intro before next after u hpolls hbefore
              apply h (poll :: before) next after u
              · rw [hpolls, List.cons_append]
              · rw [loop.run_cons_polling hresult]
                exact hbefore

/-- What every poll preserves holds as long as the loop polls. -/
theorem run_invariant {P : σ → Prop}
    (hstep : ∀ s poll t, P s → (loop.step s poll).result = .ok (.inl t) → P t) {s t : σ}
    {polls : List α} (hs : P s) (hrun : (loop.run s polls).2 = .polling t) : P t := by
  induction polls generalizing s with
  | nil =>
      cases hrun
      exact hs
  | cons poll polls ih =>
      cases hresult : (loop.step s poll).result with
      | error e =>
          rw [loop.run_cons_raised hresult] at hrun
          cases hrun
      | ok next =>
          cases next with
          | inr r =>
              rw [loop.run_cons_returned hresult] at hrun
              cases hrun
          | inl u =>
              rw [loop.run_cons_polling hresult] at hrun
              exact ih (hstep s poll u hs hresult) hrun

/-- What every poll preserves of the polls taken so far holds as long as the loop polls. -/
theorem run_history {P : List α → σ → Prop}
    (hstep : ∀ before s poll t, P before s → (loop.step s poll).result = .ok (.inl t) →
      P (before ++ [poll]) t) {before : List α} {s t : σ} {polls : List α} (hs : P before s)
    (hrun : (loop.run s polls).2 = .polling t) : P (before ++ polls) t := by
  induction polls generalizing before s with
  | nil =>
      cases hrun
      rw [List.append_nil]
      exact hs
  | cons poll polls ih =>
      cases hresult : (loop.step s poll).result with
      | error e =>
          rw [loop.run_cons_raised hresult] at hrun
          cases hrun
      | ok next =>
          cases next with
          | inr r =>
              rw [loop.run_cons_returned hresult] at hrun
              cases hrun
          | inl u =>
              rw [loop.run_cons_polling hresult] at hrun
              rw [List.append_cons]
              exact ih (hstep before s poll u hs hresult) hrun

/-- A run that returns does so at one of its polls, and has been polling up to it. -/
theorem exists_returning_poll {s : σ} {polls : List α} {r : ρ}
    (h : (loop.run s polls).2 = .returned r) :
    ∃ before poll after t, polls = before ++ poll :: after ∧
      (loop.run s before).2 = .polling t ∧ (loop.step t poll).result = .ok (.inr r) ∧
      (loop.run s polls).1 = (loop.run s before).1 ++ (loop.step t poll).events := by
  induction polls generalizing s with
  | nil => cases h
  | cons poll polls ih =>
      cases hresult : (loop.step s poll).result with
      | error e =>
          rw [loop.run_cons_raised hresult] at h
          cases h
      | ok next =>
          cases next with
          | inr r' =>
              rw [loop.run_cons_returned hresult] at h ⊢
              cases h
              exact ⟨[], poll, polls, s, rfl, rfl, hresult, rfl⟩
          | inl u =>
              rw [loop.run_cons_polling hresult] at h ⊢
              obtain ⟨before, poll', after, t, rfl, hbefore, hstep, hevents⟩ := ih h
              refine ⟨poll :: before, poll', after, t, rfl, ?_, hstep, ?_⟩
              · rw [loop.run_cons_polling hresult]
                exact hbefore
              · rw [loop.run_cons_polling hresult, hevents, List.append_assoc]

end PollingLoop

/-! ### Refinement of a machine -/

/-- A loop without events that never raises. -/
structure PollingMachine (σ α ρ : Type) where
  step : σ → α → σ ⊕ ρ

namespace PollingMachine

variable {σ α ρ : Type} (machine : PollingMachine σ α ρ)

/-- Where the machine stands after the given polls. -/
def run (s : σ) : List α → σ ⊕ ρ
  | [] => .inl s
  | poll :: polls =>
      match machine.step s poll with
      | .inl t => run t polls
      | .inr r => .inr r

theorem run_cons_polling {s t : σ} {poll : α} (h : machine.step s poll = .inl t)
    (polls : List α) : machine.run s (poll :: polls) = machine.run t polls := by
  rw [run, h]

theorem run_cons_returned {s : σ} {poll : α} {r : ρ} (h : machine.step s poll = .inr r)
    (polls : List α) : machine.run s (poll :: polls) = .inr r := by
  rw [run, h]

/-- Every poll that a run takes meets the condition, in the state at which it is taken. -/
def Along (P : σ → α → Prop) (s : σ) : List α → Prop
  | [] => True
  | poll :: polls => P s poll ∧ ∀ t, machine.step s poll = .inl t → Along P t polls

end PollingMachine

namespace PollingLoop

variable {σ α ε err ρ κ ν : Type}

/-- The state of a loop that polls, or the verdict on what it returned. -/
def Status.report (verdict : ρ → ν) : Status σ err ρ → Option (σ ⊕ ν)
  | .polling s => some (.inl s)
  | .returned r => some (.inr (verdict r))
  | .raised _ => none

/-- Under the condition a turn of the loop does what the machine does with the poll shown to it. -/
def Refines (loop : PollingLoop σ α ε err ρ) (machine : PollingMachine σ κ ν) (shown : α → κ)
    (verdict : ρ → ν) (P : σ → κ → Prop) : Prop :=
  ∀ s poll, P s (shown poll) →
    (loop.step s poll).result.map (Sum.map id verdict) = .ok (machine.step s (shown poll))

namespace Refines

variable {loop : PollingLoop σ α ε err ρ} {machine : PollingMachine σ κ ν} {shown : α → κ}
  {verdict : ρ → ν} {P : σ → κ → Prop}

theorem step_polling_iff (h : loop.Refines machine shown verdict P) {s t : σ} {poll : α}
    (hP : P s (shown poll)) :
    (loop.step s poll).result = .ok (.inl t) ↔ machine.step s (shown poll) = .inl t := by
  have hstep := h s poll hP
  cases hresult : (loop.step s poll).result with
  | error e =>
      rw [hresult] at hstep
      cases hstep
  | ok next =>
      rw [hresult] at hstep
      have hnext : Sum.map id verdict next = machine.step s (shown poll) := Except.ok.inj hstep
      rw [← hnext]
      cases next with
      | inl u => simp
      | inr r => simp

theorem along (h : loop.Refines machine shown verdict P) {s : σ} {polls : List α}
    (hP : ∀ before poll after t, polls = before ++ poll :: after →
      (loop.run s before).2 = .polling t → P t (shown poll)) :
    machine.Along P s (polls.map shown) := by
  induction polls generalizing s with
  | nil => trivial
  | cons poll polls ih =>
      have hhead : P s (shown poll) := hP [] poll polls s rfl rfl
      refine ⟨hhead, fun t ht => ih ?_⟩
      have hstep : (loop.step s poll).result = .ok (.inl t) := (h.step_polling_iff hhead).2 ht
      intro before next after u hpolls hrun
      apply hP (poll :: before) next after u
      · rw [hpolls, List.cons_append]
      · rw [loop.run_cons_polling hstep]
        exact hrun

theorem report_run (h : loop.Refines machine shown verdict P) {s : σ} {polls : List α}
    (hP : machine.Along P s (polls.map shown)) :
    (loop.run s polls).2.report verdict = some (machine.run s (polls.map shown)) := by
  induction polls generalizing s with
  | nil => rfl
  | cons poll polls ih =>
      obtain ⟨hhead, htail⟩ := hP
      have hstep := h s poll hhead
      rw [List.map_cons]
      cases hresult : (loop.step s poll).result with
      | error e =>
          rw [hresult] at hstep
          cases hstep
      | ok next =>
          rw [hresult] at hstep
          have hnext : Sum.map id verdict next = machine.step s (shown poll) := Except.ok.inj hstep
          cases next with
          | inl t =>
              rw [loop.run_cons_polling hresult, machine.run_cons_polling hnext.symm]
              exact ih (htail t hnext.symm)
          | inr r =>
              rw [loop.run_cons_returned hresult, machine.run_cons_returned hnext.symm]
              rfl

end Refines
end PollingLoop

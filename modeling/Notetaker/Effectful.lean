import Mathlib.Tactic.Common

/-!
# Programs that raise

A program reads and writes a state, and it returns or raises; the state outlives what is raised. The
rules are those of sequencing, of `try` with `except` or `finally`, and of a loop that stops at the
first element for which its body raises.
-/

/-- Raises `ε`, or returns `α`, in a state `σ`. -/
def Effectful (ε σ α : Type) : Type := σ → Except ε α × σ

namespace Effectful

variable {ε σ α β ι : Type}

instance : Monad (Effectful ε σ) where
  pure a := fun s => (.ok a, s)
  bind x f := fun s =>
    match x s with
    | (.ok a, t) => f a t
    | (.error e, t) => (.error e, t)

def raise (e : ε) : Effectful ε σ α := fun s => (.error e, s)

def update (f : σ → σ) : Effectful ε σ Unit := fun s => (.ok (), f s)

def current : Effectful ε σ σ := fun s => (.ok s, s)

def attempt (x : Except ε α) : Effectful ε σ α := fun s => (x, s)

/-- `try: x; except: handler`. -/
def rescue (x : Effectful ε σ α) (handler : ε → Effectful ε σ α) : Effectful ε σ α := fun s =>
  match x s with
  | (.ok a, t) => (.ok a, t)
  | (.error e, t) => handler e t

/-- `try: x; finally: last`. -/
def ensure (x : Effectful ε σ α) (last : Effectful ε σ Unit) : Effectful ε σ α := fun s =>
  match last (x s).2 with
  | (.ok (), t) => ((x s).1, t)
  | (.error e, t) => (.error e, t)

/-- `for i in items: body(i)`. -/
def forEach (body : ι → Effectful ε σ Unit) : List ι → Effectful ε σ Unit
  | [] => pure ()
  | i :: items => do
      body i
      forEach body items

@[simp] theorem pure_apply (a : α) (s : σ) : (pure a : Effectful ε σ α) s = (.ok a, s) := rfl

@[simp] theorem raise_apply (e : ε) (s : σ) : (raise e : Effectful ε σ α) s = (.error e, s) := rfl

@[simp] theorem update_apply (f : σ → σ) (s : σ) :
    (update f : Effectful ε σ Unit) s = (.ok (), f s) := rfl

@[simp] theorem current_apply (s : σ) : (current : Effectful ε σ σ) s = (.ok s, s) := rfl

@[simp] theorem attempt_apply (x : Except ε α) (s : σ) :
    (attempt x : Effectful ε σ α) s = (x, s) := rfl

section Sequence

variable {x : Effectful ε σ α} {f : α → Effectful ε σ β} {s t : σ}

theorem bind_of_ok {a : α} (h : x s = (.ok a, t)) : (x >>= f) s = f a t := by
  dsimp only [Bind.bind]
  rw [h]

theorem bind_of_error {e : ε} (h : x s = (.error e, t)) : (x >>= f) s = (.error e, t) := by
  dsimp only [Bind.bind]
  rw [h]

theorem attempt_bind_of_ok {r : Except ε α} {a : α} (h : r = .ok a) :
    (attempt r >>= f) s = f a s := by
  subst h
  rfl

theorem attempt_bind_of_error {r : Except ε α} {e : ε} (h : r = .error e) :
    (attempt r >>= f) s = (.error e, s) := by
  subst h
  rfl

theorem rescue_of_ok {handler : ε → Effectful ε σ α} {a : α} (h : x s = (.ok a, t)) :
    rescue x handler s = (.ok a, t) := by
  unfold rescue
  rw [h]

theorem rescue_of_error {handler : ε → Effectful ε σ α} {e : ε} (h : x s = (.error e, t)) :
    rescue x handler s = handler e t := by
  unfold rescue
  rw [h]

theorem ensure_of_ok {last : Effectful ε σ Unit} {u : σ} {r : Except ε α} (h : x s = (r, t))
    (hlast : last t = (.ok (), u)) : ensure x last s = (r, u) := by
  unfold ensure
  rw [h]
  dsimp only
  rw [hlast]

end Sequence

section Loop

variable {body : ι → Effectful ε σ Unit} {i : ι} {items : List ι} {s t : σ}

theorem forEach_cons_of_ok (h : body i s = (.ok (), t)) :
    forEach body (i :: items) s = forEach body items t := bind_of_ok h

theorem forEach_cons_of_error {e : ε} (h : body i s = (.error e, t)) :
    forEach body (i :: items) s = (.error e, t) := bind_of_error h

theorem forEach_of_forall_ok {f : σ → ι → σ} (h : ∀ i ∈ items, ∀ s, body i s = (.ok (), f s i)) :
    forEach body items s = (.ok (), items.foldl f s) := by
  induction items generalizing s with
  | nil => rfl
  | cons i items ih =>
      obtain ⟨hi, hitems⟩ := List.forall_mem_cons.1 h
      rw [forEach_cons_of_ok (hi s), List.foldl_cons]
      exact ih hitems

theorem forEach_raises {i : ι} (hi : i ∈ items) (h : ∀ s, ∃ e t, body i s = (.error e, t)) (s : σ) :
    ∃ e t, forEach body items s = (.error e, t) := by
  induction items generalizing s with
  | nil => cases hi
  | cons j items ih =>
      rcases hj : body j s with ⟨e | a, t⟩
      · exact ⟨e, t, forEach_cons_of_error hj⟩
      · rw [forEach_cons_of_ok hj]
        rcases List.mem_cons.1 hi with rfl | hi
        · obtain ⟨e, u, hraise⟩ := h s
          rw [hj] at hraise
          cases hraise
        · exact ih hi t

end Loop

/-! ## Invariants -/

/-- The invariant outlives the program, whether it returns or raises. -/
def Keeps (inv : σ → Prop) (x : Effectful ε σ α) : Prop := ∀ s, inv s → inv (x s).2

section Keeps

variable {inv : σ → Prop}

theorem keeps_pure (a : α) : Keeps inv (pure a : Effectful ε σ α) := fun _ h => h

theorem keeps_attempt (x : Except ε α) : Keeps inv (attempt x : Effectful ε σ α) := fun _ h => h

theorem Keeps.bind {x : Effectful ε σ α} {f : α → Effectful ε σ β} (hx : Keeps inv x)
    (hf : ∀ a, Keeps inv (f a)) : Keeps inv (x >>= f) := by
  intro s hs
  have ht := hx s hs
  rcases h : x s with ⟨e | a, t⟩
  · rw [bind_of_error h]
    rwa [h] at ht
  · rw [bind_of_ok h]
    rw [h] at ht
    exact hf a t ht

theorem keeps_forEach {body : ι → Effectful ε σ Unit} {items : List ι}
    (h : ∀ i ∈ items, Keeps inv (body i)) : Keeps inv (forEach body items) := by
  induction items with
  | nil => exact keeps_pure ()
  | cons i items ih =>
      obtain ⟨hi, hitems⟩ := List.forall_mem_cons.1 h
      exact hi.bind fun _ => ih hitems

end Keeps

/-! ## Loops that a faulty element stops -/

section Faults

variable {body : ι → Effectful ε σ Unit} {faulty : ι → Prop} {pending done : ι → σ → Prop}

/-- How the loop treats its elements: a faulty one stops it, any other is dealt with, and what is
pending or done stays so while other elements are looked at. -/
structure StopsAtFaults (body : ι → Effectful ε σ Unit) (faulty : ι → Prop)
    (pending done : ι → σ → Prop) : Prop where
  returns : ∀ i s, ¬ faulty i → pending i s → ∃ t, body i s = (.ok (), t) ∧ done i t
  raises : ∀ i s, faulty i → pending i s → ∃ e t, body i s = (.error e, t)
  leavesPending : ∀ i j, i ≠ j → Keeps (pending j) (body i)
  leavesDone : ∀ i j, i ≠ j → Keeps (done j) (body i)
  notDone : ∀ i s, pending i s → ¬ done i s

/-- Everything without a fault gets done exactly when nothing without a fault stands behind something
with one. -/
theorem StopsAtFaults.done_iff (h : StopsAtFaults body faulty pending done) {items : List ι}
    (hnodup : items.Nodup) {s : σ} (hpending : ∀ i ∈ items, pending i s) :
    (∀ i ∈ items, ¬ faulty i → done i (forEach body items s).2) ↔
      items.Pairwise fun i j => faulty i → faulty j := by
  induction items generalizing s with
  | nil => simp
  | cons i items ih =>
      obtain ⟨hnot, hnodup⟩ := List.nodup_cons.1 hnodup
      obtain ⟨hi, hitems⟩ := List.forall_mem_cons.1 hpending
      have hne : ∀ j ∈ items, i ≠ j := fun j hj hij => hnot (hij ▸ hj)
      have hkept : ∀ j ∈ items, pending j (body i s).2 := fun j hj =>
        h.leavesPending i j (hne j hj) s (hitems j hj)
      rw [List.pairwise_cons]
      by_cases hfaulty : faulty i
      · obtain ⟨e, t, hbody⟩ := h.raises i s hfaulty hi
        rw [hbody] at hkept
        rw [forEach_cons_of_error hbody]
        constructor
        · intro hdone
          have hall : ∀ j ∈ items, faulty j := by
            intro j hj
            by_contra hj'
            exact h.notDone j t (hkept j hj) (hdone j (List.mem_cons_of_mem i hj) hj')
          refine ⟨fun j hj _ => hall j hj, ?_⟩
          exact List.pairwise_of_forall_mem_list fun j _ k hk _ => hall k hk
        · rintro ⟨hall, -⟩ j hj hj'
          rcases List.mem_cons.1 hj with rfl | hj
          · exact absurd hfaulty hj'
          · exact absurd (hall j hj hfaulty) hj'
      · obtain ⟨t, hbody, hdone⟩ := h.returns i s hfaulty hi
        rw [hbody] at hkept
        rw [forEach_cons_of_ok hbody, ← ih hnodup hkept]
        constructor
        · intro hall
          refine ⟨fun j _ hi => absurd hi hfaulty, ?_⟩
          intro j hj hj'
          exact hall j (List.mem_cons_of_mem i hj) hj'
        · rintro ⟨-, hall⟩ j hj hj'
          rcases List.mem_cons.1 hj with rfl | hj
          · have hframe : Keeps (done j) (forEach body items) := by
              apply keeps_forEach
              intro k hk
              exact h.leavesDone k j (hne k hk).symm
            exact hframe t hdone
          · exact hall j hj hj'

end Faults

end Effectful

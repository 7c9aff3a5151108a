import Mathlib.Data.Set.Insert
import Mathlib.Logic.Function.Basic

/-!
# Stores whose requests may fail

A request that the store acknowledges has taken effect. One that fails may have taken effect all the
same, or not at all, and a failed `put` may have left something of its value. `possible` is what the
answers leave open about one key. A store seen through an injection of keys is again such a store.
-/

namespace FaultyStore

inductive Request (κ ν : Type*) where
  | put (key : κ) (value : ν)
  | delete (key : κ)

namespace Request

variable {κ ν : Type*}

def key : Request κ ν → κ
  | put k _ | delete k => k

def value : Request κ ν → Option ν
  | put _ v => some v
  | delete _ => none

def apply [DecidableEq κ] (r : Request κ ν) (m : κ → Option ν) : κ → Option ν :=
  Function.update m r.key r.value

end Request

variable {κ ν : Type*} [DecidableEq κ]

/-- What a request may do to a store that answers it; `residue v` is what a failed `put` of `v` can
leave besides `v`. -/
inductive StoreEffect (residue : ν → Set ν) (r : Request κ ν) (m : κ → Option ν) :
    Bool → (κ → Option ν) → Prop where
  | applied (acknowledged : Bool) : StoreEffect residue r m acknowledged (r.apply m)
  | ignored : StoreEffect residue r m false m
  | torn {v w : ν} (hvalue : r.value = some v) (hw : w ∈ residue v) :
      StoreEffect residue r m false (Function.update m r.key (some w))

variable {residue : ν → Set ν} {r : Request κ ν} {m m' : κ → Option ν} {acknowledged : Bool}

namespace StoreEffect

theorem frame (h : StoreEffect residue r m acknowledged m') {k : κ} (hk : k ≠ r.key) : m' k = m k := by
  cases h with
  | applied => exact Function.update_of_ne hk _ _
  | ignored => rfl
  | torn => exact Function.update_of_ne hk _ _

theorem of_acknowledged (h : StoreEffect residue r m true m') : m' = r.apply m := by
  cases h
  rfl

/-- A failed request leaves the old value, the new one or a residue. -/
theorem value_cases (h : StoreEffect residue r m acknowledged m') :
    m' r.key = r.value ∨ m' r.key = m r.key ∨
      ∃ v w, r.value = some v ∧ w ∈ residue v ∧ m' r.key = some w := by
  cases h with
  | applied => exact .inl (Function.update_self _ _ _)
  | ignored => exact .inr (.inl rfl)
  | torn hvalue hw => exact .inr (.inr ⟨_, _, hvalue, hw, Function.update_self _ _ _⟩)

end StoreEffect

/-! ## What the answers say -/

/-- What key `k` may hold after a request, if `P` is what it may hold before. -/
def settle (residue : ν → Set ν) (k : κ) (P : Set (Option ν)) (e : Request κ ν × Bool) :
    Set (Option ν) :=
  if e.1.key ≠ k then P
  else if e.2 then {e.1.value}
  else {x | x = e.1.value ∨ x ∈ P ∨ ∃ v w, e.1.value = some v ∧ w ∈ residue v ∧ x = some w}

def possible (residue : ν → Set ν) (k : κ) (P : Set (Option ν)) (log : List (Request κ ν × Bool)) :
    Set (Option ν) :=
  log.foldl (settle residue k) P

theorem mem_settle {k : κ} {P : Set (Option ν)} (h : StoreEffect residue r m acknowledged m')
    (hm : m k ∈ P) : m' k ∈ settle residue k P (r, acknowledged) := by
  unfold settle
  by_cases hk : r.key = k
  · subst hk
    cases acknowledged with
    | true =>
        rw [h.of_acknowledged]
        simp [Request.apply]
    | false =>
        simp only [ne_eq, not_true_eq_false, if_false, Bool.false_eq_true, Set.mem_ofPred_eq]
        rcases h.value_cases with hnew | hold | htorn
        · exact .inl hnew
        · exact .inr (.inl (hold ▸ hm))
        · exact .inr (.inr htorn)
  · rw [if_pos hk, h.frame (Ne.symm hk)]
    exact hm

theorem possible_of_acknowledged {k : κ} {P : Set (Option ν)} {log log' : List (Request κ ν × Bool)}
    (hr : r.key = k) (hlog : ∀ e ∈ log', e.1.key ≠ k) :
    possible residue k P (log ++ (r, true) :: log') = {r.value} := by
  have hsettled : settle residue k (possible residue k P log) (r, true) = {r.value} := by
    simp [settle, hr]
  unfold possible at hsettled ⊢
  rw [List.foldl_append, List.foldl_cons, hsettled]
  clear hsettled
  induction log' with
  | nil => rfl
  | cons e log' ih =>
      have hother : settle residue k {r.value} e = {r.value} := if_pos (hlog e (by simp))
      rw [List.foldl_cons, hother]
      exact ih fun e' he' => hlog e' (List.mem_cons_of_mem e he')

/-- Nothing is possible that was neither there before nor put under this very key. -/
theorem origin_of_mem_possible {k : κ} {P : Set (Option ν)} {log : List (Request κ ν × Bool)} {x : ν}
    (hx : some x ∈ possible residue k P log) :
    some x ∈ P ∨ ∃ v, (∃ ok, (.put k v, ok) ∈ log) ∧ (x = v ∨ x ∈ residue v) := by
  induction log generalizing P with
  | nil => exact .inl hx
  | cons e log ih =>
      rcases ih hx with hP | ⟨v, ⟨ok, hmem⟩, hv⟩
      · obtain ⟨r, ok⟩ := e
        unfold settle at hP
        split_ifs at hP with hk hok
        · exact .inl hP
        · cases r with
          | delete => cases hP
          | put key v =>
              obtain rfl : key = k := not_not.1 hk
              obtain rfl : x = v := Option.some.inj hP
              exact .inr ⟨x, ⟨ok, by simp⟩, .inl rfl⟩
        · obtain rfl : r.key = k := not_not.1 hk
          have hput : ∀ v, r.value = some v → (r, ok) = (.put r.key v, ok) := by
            intro v hv
            cases r with
            | delete => cases hv
            | put key v' => rw [← Option.some.inj hv]; rfl
          rcases hP with hnew | hold | ⟨v, w, hvalue, hw, hxw⟩
          · exact .inr ⟨x, ⟨ok, by rw [← hput x hnew.symm]; simp⟩, .inl rfl⟩
          · exact .inl hold
          · obtain rfl := Option.some.inj hxw
            exact .inr ⟨v, ⟨ok, by rw [← hput v hvalue]; simp⟩, .inr hw⟩
      · exact .inr ⟨v, ⟨ok, List.mem_cons_of_mem e hmem⟩, hv⟩

/-! ## A store seen through its keys -/

section View

variable {ι ω : Type*} {f : ι → κ} {g : ν → ω}

def view (f : ι → κ) (g : ν → ω) (m : κ → Option ν) (i : ι) : Option ω := (m (f i)).map g

theorem StoreEffect.view_eq (hkey : ∀ i, f i ≠ r.key) (h : StoreEffect residue r m acknowledged m') :
    view f g m' = view f g m := by
  funext i
  unfold FaultyStore.view
  rw [h.frame (hkey i)]

variable [DecidableEq ι]

theorem view_update (hf : Function.Injective f) (m : κ → Option ν) (i : ι) (x : Option ν) :
    view f g (Function.update m (f i) x) = Function.update (view f g m) i (x.map g) := by
  funext j
  unfold view
  by_cases hj : j = i
  · subst hj
    simp
  · rw [Function.update_of_ne (hf.ne hj), Function.update_of_ne hj]

theorem StoreEffect.viewed (hf : Function.Injective f) {q : Request ι ω} {residue' : ω → Set ω}
    (hkey : r.key = f q.key) (hvalue : r.value.map g = q.value)
    (hresidue : ∀ v, ∀ w ∈ residue v, g w ∈ residue' (g v)) (h : StoreEffect residue r m acknowledged m') :
    StoreEffect residue' q (view f g m) acknowledged (view f g m') := by
  cases h with
  | applied =>
      have happly : view f g (r.apply m) = q.apply (view f g m) := by
        unfold Request.apply
        rw [hkey, view_update hf, hvalue]
      rw [happly]
      exact .applied _
  | ignored => exact .ignored
  | @torn v w hv hw =>
      rw [hkey, view_update hf]
      refine .torn (v := g v) ?_ (hresidue v w hw)
      rw [← hvalue, hv]
      rfl

end View

end FaultyStore

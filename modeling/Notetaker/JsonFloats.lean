import Notetaker.JsonTree

/-!
# The floats of a loaded value

Every float that `loads` builds comes from a literal, so it is a value of binary64. The stack machine
keeps this of the values it has completed, and hands it to the value it returns.
-/

open PythonText PythonFloat

namespace PythonFloat

/-- A value that a float can have. -/
def PyFloat.Binary64 : PyFloat → Prop
  | .finite q => IsDouble q
  | _ => True

theorem binary64_toDouble (negative : Bool) {n d : ℕ} (hd : 0 < d) :
    (toDouble negative n d).Binary64 := by
  cases h : toDouble negative n d with
  | finite q => exact isDouble_of_toDouble _ hd h
  | _ => trivial

theorem binary64_decimalToDouble (negative : Bool) (digits : Text) (x : ℤ) :
    (decimalToDouble negative digits x).Binary64 := by
  cases h : decimalToDouble negative digits x with
  | finite q => exact isDouble_of_decimalToDouble h
  | _ => trivial

theorem binary64_of_readExponent {negative : Bool} {digits : Text} {scale : ℤ} {s : Text}
    {x : PyFloat} (h : readExponent negative digits scale s = some x) : x.Binary64 := by
  cases s with
  | nil =>
      obtain rfl := Option.some.inj h
      exact binary64_decimalToDouble _ _ _
  | cons c cs =>
      unfold readExponent at h
      dsimp only at h
      split_ifs at h <;> obtain rfl := Option.some.inj h <;> exact binary64_decimalToDouble _ _ _

theorem binary64_of_decimalLiteral {negative : Bool} {s : Text} {x : PyFloat}
    (h : decimalLiteral negative s = some x) : x.Binary64 := by
  rw [decimalLiteral_eq] at h
  split_ifs at h
  exact binary64_of_readExponent h

end PythonFloat

namespace JsonText

namespace Json

mutual

/-- All floats of the value are values of binary64. -/
def Binary64 : Json → Prop
  | float x => x.Binary64
  | arr xs => Binary64Items xs
  | obj members => Binary64Members members
  | _ => True

def Binary64Items : List Json → Prop
  | [] => True
  | x :: xs => x.Binary64 ∧ Binary64Items xs

def Binary64Members : List (Text × Json) → Prop
  | [] => True
  | (_, v) :: members => v.Binary64 ∧ Binary64Members members

end

theorem binary64Items_iff {xs : List Json} : Binary64Items xs ↔ ∀ x ∈ xs, x.Binary64 := by
  induction xs with
  | nil => exact iff_of_true trivial (by simp)
  | cons x xs ih =>
      rw [List.forall_mem_cons, ← ih]
      rfl

theorem binary64Members_iff {members : List (Text × Json)} :
    Binary64Members members ↔ ∀ m ∈ members, m.2.Binary64 := by
  induction members with
  | nil => exact iff_of_true trivial (by simp)
  | cons m members ih =>
      rw [List.forall_mem_cons, ← ih]
      rfl

theorem binary64_arr {xs : List Json} : (arr xs).Binary64 ↔ ∀ x ∈ xs, x.Binary64 :=
  binary64Items_iff

theorem binary64_obj {members : List (Text × Json)} :
    (obj members).Binary64 ↔ ∀ m ∈ members, m.2.Binary64 := binary64Members_iff

end Json

variable {lim : Limits}

theorem binary64_of_unsignedValue {negative : Bool} {s : Text} {v : Json}
    (h : unsignedValue lim negative s = .ok v) : v.Binary64 := by
  unfold unsignedValue at h
  dsimp only at h
  split_ifs at h
  · split at h
    · rename_i x hx
      obtain rfl := Except.ok.inj h
      exact binary64_of_decimalLiteral hx
    · cases h
  all_goals
    obtain rfl := Except.ok.inj h
    trivial

theorem binary64_of_atomValue {w : Text} {v : Json} (h : atomValue lim w = .ok v) : v.Binary64 := by
  unfold atomValue at h
  split_ifs at h
  iterate 6
    · obtain rfl := Except.ok.inj h
      trivial
  · unfold numberValue at h
    split at h <;> exact binary64_of_unsignedValue h

/-! ## Inside the stack machine -/

def Frame.Binary64 : Frame → Prop
  | .arr acc => ∀ x ∈ acc, x.Binary64
  | .obj acc _ => ∀ m ∈ acc, m.2.Binary64

def Expect.Binary64 : Expect → Prop
  | .afterElement acc => ∀ x ∈ acc, x.Binary64
  | .key acc | .colon acc _ | .afterMember acc => ∀ m ∈ acc, m.2.Binary64
  | .done v => v.Binary64
  | _ => True

/-- The values that the machine has completed. -/
structure Machine.Binary64 (m : Machine) : Prop where
  stack : ∀ frame ∈ m.stack, frame.Binary64
  expect : m.expect.Binary64

theorem forall_mem_setMember {α : Type*} {P : α → Prop} {k : Text} {v : α} {acc : List (Text × α)}
    (hacc : ∀ m ∈ acc, P m.2) (hv : P v) : ∀ m ∈ setMember k v acc, P m.2 := by
  induction acc with
  | nil =>
      intro m hm
      obtain rfl := List.mem_singleton.1 hm
      exact hv
  | cons m acc ih =>
      obtain ⟨hm, hacc⟩ := List.forall_mem_cons.1 hacc
      unfold setMember
      split_ifs
      · exact List.forall_mem_cons.2 ⟨hv, hacc⟩
      · exact List.forall_mem_cons.2 ⟨hm, ih hacc⟩

theorem binary64_complete {stack : List Frame} (hstack : ∀ frame ∈ stack, frame.Binary64) {v : Json}
    (hv : v.Binary64) : (complete stack v).Binary64 := by
  cases stack with
  | nil => exact ⟨hstack, hv⟩
  | cons frame stack =>
      obtain ⟨hframe, houter⟩ := List.forall_mem_cons.1 hstack
      cases frame with
      | arr acc =>
          refine ⟨houter, fun x hx => ?_⟩
          rcases List.mem_append.1 hx with hx | hx
          · exact hframe x hx
          · obtain rfl := List.mem_singleton.1 hx
            exact hv
      | obj acc k => exact ⟨houter, forall_mem_setMember hframe hv⟩

theorem binary64_valueToken {m m' : Machine} {stack : List Frame} {t : Token}
    (hstack : ∀ frame ∈ stack, frame.Binary64) (h : valueToken lim m stack t = .ok m') :
    m'.Binary64 := by
  cases t with
  | «open» object =>
      change openContainer lim m stack object = .ok m' at h
      unfold openContainer at h
      split_ifs at h <;> obtain rfl := Except.ok.inj h <;> exact ⟨hstack, trivial⟩
  | string s =>
      obtain rfl := Except.ok.inj h
      exact binary64_complete hstack trivial
  | atom w =>
      change (atomValue lim w).map (complete stack) = .ok m' at h
      cases hw : atomValue lim w with
      | error e =>
          rw [hw] at h
          cases h
      | ok v =>
          rw [hw] at h
          obtain rfl := Except.ok.inj h
          exact binary64_complete hstack (binary64_of_atomValue hw)
  | _ => cases h

theorem binary64_machineStep {m m' : Machine} {t : Token} (hm : m.Binary64)
    (h : machineStep lim m t = .ok m') : m'.Binary64 := by
  obtain ⟨stack, expect⟩ := m
  obtain ⟨hstack, hexpect⟩ := hm
  have hinside : ∀ frame ∈ Frame.arr [] :: stack, frame.Binary64 :=
    List.forall_mem_cons.2 ⟨fun x hx => absurd hx List.not_mem_nil, hstack⟩
  unfold machineStep at h
  dsimp only at h
  split at h
  · exact binary64_valueToken hstack h
  · obtain rfl := Except.ok.inj h
    exact binary64_complete hstack (Json.binary64_arr.2 fun x hx => absurd hx List.not_mem_nil)
  · exact binary64_valueToken hinside h
  · obtain rfl := Except.ok.inj h
    exact ⟨hstack, hexpect⟩
  · obtain rfl := Except.ok.inj h
    exact ⟨hstack, fun m hm => absurd hm List.not_mem_nil⟩
  · obtain rfl := Except.ok.inj h
    exact binary64_complete hstack (Json.binary64_obj.2 fun m hm => absurd hm List.not_mem_nil)
  · obtain rfl := Except.ok.inj h
    exact ⟨List.forall_mem_cons.2 ⟨hexpect, hstack⟩, trivial⟩
  · obtain rfl := Except.ok.inj h
    exact ⟨List.forall_mem_cons.2 ⟨hexpect, hstack⟩, trivial⟩
  · obtain rfl := Except.ok.inj h
    exact binary64_complete hstack (Json.binary64_arr.2 hexpect)
  · obtain rfl := Except.ok.inj h
    exact ⟨hstack, hexpect⟩
  · obtain rfl := Except.ok.inj h
    exact binary64_complete hstack (Json.binary64_obj.2 hexpect)
  · cases h

theorem binary64_runMachine {m : Machine} {ts : List Token} {v : Json} (hm : m.Binary64)
    (h : runMachine lim m ts = .ok v) : v.Binary64 := by
  induction ts generalizing m with
  | nil =>
      unfold runMachine at h
      split at h
      · rename_i w hw
        obtain rfl := Except.ok.inj h
        have hexpect := hm.expect
        rw [hw] at hexpect
        exact hexpect
      · cases h
  | cons t ts ih =>
      rw [runMachine_cons] at h
      cases hstep : machineStep lim m t with
      | error e =>
          rw [hstep] at h
          cases h
      | ok m' =>
          rw [hstep] at h
          exact ih (binary64_machineStep hm hstep) h

theorem binary64_of_loads {s : Text} {v : Json} (h : loads lim s = .ok v) : v.Binary64 := by
  have hstart : (⟨[], .value⟩ : Machine).Binary64 :=
    ⟨fun frame hframe => absurd hframe List.not_mem_nil, trivial⟩
  exact binary64_runMachine hstart h

end JsonText

import Mathlib.Data.List.Nodup
import Notetaker.Admission

/-!
# The ceiling and the claims are safe

The invariant `Admitted` holds of every reachable state: call ids are distinct, a claim at work holds
the lock of a queued row, the busy rows (in flight or reserved) respect the ceiling, and a claimed
call never returns to the queue. Each event keeps it; a count that the ceiling admits is the only one
that adds a busy row, and it has just seen all of them.
-/

open PythonText PythonFloat PythonUuid JsonText

namespace Notetaker

theorem oldest_mem {rows : List Call} {c : Call} (h : oldest rows = some c) : c ∈ rows := by
  induction rows generalizing c with
  | nil => cases h
  | cons d rows ih =>
      unfold oldest at h
      cases hrest : oldest rows with
      | none =>
          rw [hrest] at h
          cases h
          exact List.mem_cons_self
      | some e =>
          rw [hrest] at h
          simp only [Option.some.injEq] at h
          split_ifs at h
          · exact h ▸ List.mem_cons_self
          · exact List.mem_cons_of_mem d (ih (h ▸ hrest))

theorem findRow_mem {rows : List Call} {id : Uuid} {c : Call} (h : findRow rows id = some c) :
    c ∈ rows ∧ c.id = id :=
  ⟨List.mem_of_find?_eq_some h, by simpa using List.find?_some h⟩

theorem findRow_eq_none {rows : List Call} {id : Uuid} (h : findRow rows id = none) :
    ∀ c ∈ rows, c.id ≠ id := fun c hc => by
  simpa using List.find?_eq_none.1 h c hc

theorem findRow_modifyRow_of_id {rows : List Call} {id id' : Uuid} {f : Call → Call}
    (hf : ∀ row, row.id = id' → (f row).id = id') :
    findRow (modifyRow rows id' f) id =
      if id = id' then (findRow rows id).map f else findRow rows id := by
  induction rows with
  | nil => simp [findRow, modifyRow]
  | cons c rows ih =>
      unfold findRow modifyRow at *
      rw [List.map_cons]
      by_cases hc : c.id = id'
      · rw [if_pos hc]
        by_cases hid : id = id'
        · subst hid
          rw [if_pos rfl] at ih ⊢
          rw [List.find?_cons_of_pos (by simpa using hf c hc), List.find?_cons_of_pos (by simpa using hc)]
          rfl
        · rw [if_neg hid] at ih ⊢
          have hne : (f c).id ≠ id := by
            rw [hf c hc]
            exact Ne.symm hid
          rw [List.find?_cons_of_neg (by simpa using hne),
            List.find?_cons_of_neg (by simpa [hc] using Ne.symm hid), ih]
      · rw [if_neg hc]
        by_cases hcid : c.id = id
        · have hid : id ≠ id' := hcid ▸ hc
          rw [if_neg hid, List.find?_cons_of_pos (by simpa using hcid),
            List.find?_cons_of_pos (by simpa using hcid)]
        · rw [List.find?_cons_of_neg (by simpa using hcid),
            List.find?_cons_of_neg (by simpa using hcid), ih]

theorem findRow_modifyRow {rows : List Call} {id : Uuid} {row new : Call}
    (hrow : findRow rows id = some row) (hnew : new.id = id) :
    findRow (modifyRow rows id fun _ => new) id = some new := by
  rw [findRow_modifyRow_of_id fun _ _ => hnew, if_pos rfl, hrow]
  rfl

theorem map_id_modifyRow (rows : List Call) {id : Uuid} {f : Call → Call}
    (hf : ∀ c ∈ rows, c.id = id → (f c).id = c.id) :
    (modifyRow rows id f).map Call.id = rows.map Call.id := by
  rw [modifyRow, List.map_map]
  refine List.map_congr_left fun c hc => ?_
  change (if c.id = id then f c else c).id = c.id
  split_ifs with h
  · exact hf c hc h
  · rfl

theorem mem_modifyRow {rows : List Call} {id : Uuid} {f : Call → Call} {d : Call}
    (h : d ∈ modifyRow rows id f) : ∃ c ∈ rows, d = if c.id = id then f c else c := by
  obtain ⟨c, hc, rfl⟩ := List.mem_map.1 h
  exact ⟨c, hc, rfl⟩

theorem countP_map_le {rows : List Call} {p q : Call → Bool} {f : Call → Call}
    (h : ∀ c ∈ rows, q (f c) → p c) : (rows.map f).countP q ≤ rows.countP p := by
  rw [List.countP_map]
  exact List.countP_mono_left fun c hc hq => h c hc hq

/-- The row a claim has counted for, and the count. -/
def PollPhase.count : PollPhase → Option (Call × ℕ)
  | counted read active | decided read active _ _ _ => some (read, active)
  | _ => none

theorem PollPhase.read_of_count {p : PollPhase} {read : Call} {active : ℕ}
    (h : p.count = some (read, active)) : p.read = some read := by
  cases p with
  | counted => cases h; rfl
  | decided => cases h; rfl
  | _ => cases h

namespace AdmissionState

/-- The row is locked by a claim that counted at most the ceiling. -/
def reserved (limit : ℤ) (s : AdmissionState) (c : Call) : Bool :=
  ((s.lock c.id).bind fun i => (s.poll i).count).any fun (read, active) =>
    read.id = c.id && active ≤ limit

def busy (limit : ℤ) (s : AdmissionState) (c : Call) : Bool :=
  c.status.InFlight || s.reserved limit c

structure Admitted (limit : ℤ) (s : AdmissionState) : Prop where
  nodup : (s.rows.map Call.id).Nodup
  holds : ∀ i read, (s.poll i).read = some read → s.lock read.id = some i ∧
    read.status = .queued ∧ ∃ c ∈ s.rows, c.id = read.id ∧ c.status = .queued
  payload : ∀ i read active diskOk payload now, s.poll i = .decided read active diskOk payload now →
    pollPayload limit active diskOk read = .ok payload
  bound : (s.rows.countP (s.busy limit) : ℤ) ≤ max limit 0
  claims_nodup : s.claims.Nodup
  claims_left : ∀ id ∈ s.claims, ∃ c ∈ s.rows, c.id = id ∧ c.status ≠ .queued
  tasks_nodup : (s.tasks ++ s.spawned).Nodup
  tasks_claims : ∀ id ∈ s.tasks ++ s.spawned, id ∈ s.claims

theorem admitted_of_init {limit : ℤ} {s : AdmissionState} (h : (admissionSystem limit).init s) :
    s.Admitted limit := by
  obtain ⟨hrows, hlock, hpoll, -, hclaims, htasks, hspawned⟩ := h
  refine ⟨by simp [hrows], ?_, ?_, by simp [hrows], by simp [hclaims], by simp [hclaims],
    by simp [htasks, hspawned], by simp [htasks, hspawned]⟩
  · intro i read h
    rw [hpoll i] at h
    cases h
  · intro i read active diskOk payload now h
    rw [hpoll i] at h
    cases h

theorem reserved_iff {limit : ℤ} {s : AdmissionState} {c : Call} :
    s.reserved limit c ↔ ∃ (i : ℕ) (read : Call) (active : ℕ), s.lock c.id = some i ∧
      (s.poll i).count = some (read, active) ∧ read.id = c.id ∧ (active : ℤ) ≤ limit := by
  unfold reserved
  cases hlock : s.lock c.id with
  | none => simp
  | some i =>
      cases hcount : (s.poll i).count with
      | none => simp [hcount]
      | some rc =>
          obtain ⟨read, active⟩ := rc
          simp [hcount]

theorem Admitted.queued_of_holds {limit : ℤ} {s : AdmissionState} (hs : s.Admitted limit) {i : ℕ}
    {read c : Call} (hread : (s.poll i).read = some read) (hc : c ∈ s.rows) (hid : c.id = read.id) :
    c.status = .queued := by
  obtain ⟨-, -, d, hd, hdid, hdstatus⟩ := hs.holds i read hread
  have hcd : c = d := List.inj_on_of_nodup_map hs.nodup hc hd (hid.trans hdid.symm)
  rw [hcd, hdstatus]

theorem Admitted.notMem_claims {limit : ℤ} {s : AdmissionState} (hs : s.Admitted limit) {i : ℕ}
    {read : Call} (hread : (s.poll i).read = some read) : read.id ∉ s.claims := by
  intro hclaim
  obtain ⟨c, hc, hid, hleft⟩ := hs.claims_left read.id hclaim
  exact hleft (hs.queued_of_holds hread hc hid)

theorem Admitted.id_ne_of_ne {limit : ℤ} {s : AdmissionState} (hs : s.Admitted limit) {i j : ℕ}
    {read read' : Call} (hread : (s.poll i).read = some read)
    (hread' : (s.poll j).read = some read') (hne : j ≠ i) : read'.id ≠ read.id := by
  intro hid
  have hi := (hs.holds i read hread).1
  have hj := (hs.holds j read' hread').1
  rw [hid, hi] at hj
  exact hne (Option.some.inj hj).symm

theorem mem_modifyRow_of_ne {rows : List Call} {id : Uuid} {f : Call → Call} {c : Call}
    (hc : c ∈ rows) (hne : c.id ≠ id) : c ∈ modifyRow rows id f :=
  List.mem_map.2 ⟨c, hc, if_neg hne⟩

theorem mem_modifyRow_of_eq {rows : List Call} {id : Uuid} {f : Call → Call} {c : Call}
    (hc : c ∈ rows) (heq : c.id = id) : f c ∈ modifyRow rows id f :=
  List.mem_map.2 ⟨c, hc, if_pos heq⟩

theorem Admitted.finish {limit : ℤ} {s : AdmissionState} (hs : s.Admitted limit) {i : ℕ}
    {read : Call} (hread : (s.poll i).read = some read) {f : Call → Call}
    (hid : ∀ c, (f c).id = c.id)
    (hbusy : ∀ c ∈ s.rows, c.id = read.id → (f c).status.InFlight → s.busy limit c) :
    Admitted limit { (s.setPoll i .idle).unlock read.id with rows := modifyRow s.rows read.id f } := by
  set t : AdmissionState :=
    { (s.setPoll i .idle).unlock read.id with rows := modifyRow s.rows read.id f } with ht
  have hpoll : ∀ j, j ≠ i → t.poll j = s.poll j := fun j hj => Function.update_of_ne hj _ _
  have hidle : t.poll i = .idle := Function.update_self i _ _
  have hlock : ∀ id, id ≠ read.id → t.lock id = s.lock id := fun id h =>
    Function.update_of_ne h _ _
  have hfree : t.lock read.id = none := Function.update_self read.id _ _
  refine ⟨?_, ?_, ?_, ?_, hs.claims_nodup, ?_, hs.tasks_nodup, hs.tasks_claims⟩
  · rw [map_id_modifyRow s.rows fun c _ _ => hid c]
    exact hs.nodup
  · intro j read' hread'
    have hj : j ≠ i := by
      rintro rfl
      rw [hidle] at hread'
      cases hread'
    rw [hpoll j hj] at hread'
    have hne := hs.id_ne_of_ne hread hread' hj
    obtain ⟨hheld, hqueued, c, hc, hcid, hcstatus⟩ := hs.holds j read' hread'
    refine ⟨(hlock _ hne).trans hheld, hqueued, c, ?_, hcid, hcstatus⟩
    exact mem_modifyRow_of_ne hc (hcid ▸ hne)
  · intro j read' active diskOk payload now h
    have hj : j ≠ i := by
      rintro rfl
      rw [hidle] at h
      cases h
    exact hs.payload j read' active diskOk payload now (hpoll j hj ▸ h)
  · refine le_trans (Int.ofNat_le.2 (countP_map_le fun c hc h => ?_)) hs.bound
    by_cases hcid : c.id = read.id
    · rw [if_pos hcid] at h
      rcases Bool.or_eq_true_iff.1 h with h | h
      · exact hbusy c hc hcid (by simpa using h)
      · obtain ⟨j, _, _, hlockj, -⟩ := reserved_iff.1 h
        rw [hid, hcid, hfree] at hlockj
        cases hlockj
    · rw [if_neg hcid] at h
      rcases Bool.or_eq_true_iff.1 h with h | h
      · exact Bool.or_eq_true_iff.2 (Or.inl h)
      · refine Bool.or_eq_true_iff.2 (Or.inr (reserved_iff.2 ?_))
        obtain ⟨j, read', active, hlockj, hcount, hidj, hle⟩ := reserved_iff.1 h
        have hj : j ≠ i := by
          rintro rfl
          rw [hidle] at hcount
          cases hcount
        rw [hlock _ hcid] at hlockj
        rw [hpoll j hj] at hcount
        exact ⟨j, read', active, hlockj, hcount, hidj, hle⟩
  · intro id hclaim
    obtain ⟨c, hc, hcid, hleft⟩ := hs.claims_left id hclaim
    refine ⟨c, mem_modifyRow_of_ne hc ?_, hcid, hleft⟩
    intro h
    exact hleft (hs.queued_of_holds hread hc h)

theorem modifyRow_id (rows : List Call) (id : Uuid) : modifyRow rows id (fun c => c) = rows := by
  simp [modifyRow]

theorem Admitted.abandon {limit : ℤ} {s : AdmissionState} (hs : s.Admitted limit) {i : ℕ}
    {read : Call} (hread : (s.poll i).read = some read) :
    Admitted limit ((s.setPoll i .idle).unlock read.id) := by
  have h := hs.finish hread (f := fun c => c) (fun _ => rfl) (fun c _ _ h => by
    exact Bool.or_eq_true_iff.2 (Or.inl (by simpa using h)))
  rw [modifyRow_id] at h
  exact h

theorem Admitted.select {limit : ℤ} {s : AdmissionState} (hs : s.Admitted limit) {i : ℕ}
    {read : Call} (hidle : s.poll i = .idle) (hread : s.candidate = some read) :
    Admitted limit { s.setPoll i (.locked read) with
      lock := Function.update s.lock read.id (some i) } := by
  obtain ⟨hmem, hqueued⟩ := List.mem_filter.1 (oldest_mem hread)
  simp only [Bool.and_eq_true, decide_eq_true_eq] at hqueued
  obtain ⟨hstatus, hfree⟩ := hqueued
  set t : AdmissionState := { s.setPoll i (.locked read) with
    lock := Function.update s.lock read.id (some i) } with ht
  have hpoll : ∀ j, j ≠ i → t.poll j = s.poll j := fun j hj => Function.update_of_ne hj _ _
  have hlocked : t.poll i = .locked read := Function.update_self i _ _
  have hlock : ∀ id, id ≠ read.id → t.lock id = s.lock id := fun id h =>
    Function.update_of_ne h _ _
  have hheld : t.lock read.id = some i := Function.update_self read.id _ _
  refine ⟨hs.nodup, ?_, ?_, ?_, hs.claims_nodup, hs.claims_left, hs.tasks_nodup, hs.tasks_claims⟩
  · intro j read' hread'
    by_cases hj : j = i
    · subst hj
      rw [hlocked] at hread'
      cases hread'
      exact ⟨hheld, hstatus, read, hmem, rfl, hstatus⟩
    · rw [hpoll j hj] at hread'
      obtain ⟨hheld', hrest⟩ := hs.holds j read' hread'
      have hne : read'.id ≠ read.id := by
        intro h
        rw [h, hfree] at hheld'
        cases hheld'
      exact ⟨(hlock _ hne).trans hheld', hrest⟩
  · intro j read' active diskOk payload now h
    have hj : j ≠ i := by
      rintro rfl
      rw [hlocked] at h
      cases h
    exact hs.payload j read' active diskOk payload now (hpoll j hj ▸ h)
  · refine le_trans (Int.ofNat_le.2 (List.countP_mono_left fun c hc h => ?_)) hs.bound
    rcases Bool.or_eq_true_iff.1 h with h | h
    · exact Bool.or_eq_true_iff.2 (Or.inl h)
    · refine Bool.or_eq_true_iff.2 (Or.inr (reserved_iff.2 ?_))
      obtain ⟨j, read', active, hlockj, hcount, hidj, hle⟩ := reserved_iff.1 h
      have hj : j ≠ i := by
        rintro rfl
        rw [hlocked] at hcount
        cases hcount
      have hcid : c.id ≠ read.id := by
        intro h
        rw [h, hheld] at hlockj
        exact hj (Option.some.inj hlockj).symm
      rw [hlock _ hcid] at hlockj
      rw [hpoll j hj] at hcount
      exact ⟨j, read', active, hlockj, hcount, hidj, hle⟩

theorem Admitted.advance {limit : ℤ} {s : AdmissionState} (hs : s.Admitted limit) {i : ℕ}
    {p : PollPhase} (hread : p.read = (s.poll i).read)
    (hpayload : ∀ read active diskOk payload now, p = .decided read active diskOk payload now →
      pollPayload limit active diskOk read = .ok payload)
    (hbound : (s.rows.countP ((s.setPoll i p).busy limit) : ℤ) ≤ max limit 0) :
    Admitted limit (s.setPoll i p) := by
  have hpoll : ∀ j, j ≠ i → (s.setPoll i p).poll j = s.poll j := fun j hj =>
    Function.update_of_ne hj _ _
  have hself : (s.setPoll i p).poll i = p := Function.update_self i _ _
  refine ⟨hs.nodup, ?_, ?_, hbound, hs.claims_nodup, hs.claims_left, hs.tasks_nodup,
    hs.tasks_claims⟩
  · intro j read' hread'
    by_cases hj : j = i
    · subst hj
      rw [hself, hread] at hread'
      exact hs.holds j read' hread'
    · rw [hpoll j hj] at hread'
      exact hs.holds j read' hread'
  · intro j read' active diskOk payload now h
    by_cases hj : j = i
    · subst hj
      exact hpayload read' active diskOk payload now (hself ▸ h)
    · exact hs.payload j read' active diskOk payload now (hpoll j hj ▸ h)

theorem Admitted.count {limit : ℤ} {s : AdmissionState} (hs : s.Admitted limit) {i : ℕ}
    {read : Call} (hphase : s.poll i = .locked read) :
    Admitted limit (s.setPoll i (.counted read (countActive s.rows))) := by
  have hread : (PollPhase.counted read (countActive s.rows)).read = (s.poll i).read := by
    rw [hphase]
    rfl
  refine hs.advance hread (fun _ _ _ _ _ h => by cases h) ?_
  set t := s.setPoll i (.counted read (countActive s.rows)) with ht
  have hpoll : ∀ j, j ≠ i → t.poll j = s.poll j := fun j hj => Function.update_of_ne hj _ _
  have hself : t.poll i = .counted read (countActive s.rows) := Function.update_self i _ _
  by_cases hlimit : (countActive s.rows : ℤ) ≤ limit
  · have hle : s.rows.countP (t.busy limit) ≤ countActive s.rows := by
      refine List.countP_mono_left fun c hc h => ?_
      rcases Bool.or_eq_true_iff.1 h with h | h
      · exact decide_eq_true (CallStatus.InFlight.active (by simpa using h))
      · obtain ⟨j, read', active, -, hcount, hid, -⟩ := reserved_iff.1 h
        have hread' : (s.poll j).read = some read' := by
          by_cases hj : j = i
          · subst hj
            rw [hself] at hcount
            cases hcount
            rw [hphase]
            rfl
          · rw [hpoll j hj] at hcount
            exact PollPhase.read_of_count hcount
        rw [hs.queued_of_holds hread' hc hid.symm]
        rfl
    exact le_max_of_le_left (le_trans (Int.ofNat_le.2 hle) hlimit)
  · refine le_trans (Int.ofNat_le.2 (List.countP_mono_left fun c hc h => ?_)) hs.bound
    rcases Bool.or_eq_true_iff.1 h with h | h
    · exact Bool.or_eq_true_iff.2 (Or.inl h)
    · refine Bool.or_eq_true_iff.2 (Or.inr (reserved_iff.2 ?_))
      obtain ⟨j, read', active, hlock, hcount, hid, hle⟩ := reserved_iff.1 h
      have hj : j ≠ i := by
        rintro rfl
        rw [hself] at hcount
        cases hcount
        exact hlimit hle
      rw [hpoll j hj] at hcount
      exact ⟨j, read', active, hlock, hcount, hid, hle⟩

theorem Admitted.decide {limit : ℤ} {s : AdmissionState} (hs : s.Admitted limit) {i : ℕ}
    {read : Call} {active : ℕ} {diskOk : Bool} {payload : Changes} {now : Timestamp}
    (hphase : s.poll i = .counted read active)
    (hpayload : pollPayload limit active diskOk read = .ok payload) :
    Admitted limit (s.setPoll i (.decided read active diskOk payload now)) := by
  have hread : (PollPhase.decided read active diskOk payload now).read = (s.poll i).read := by
    rw [hphase]
    rfl
  refine hs.advance hread (fun _ _ _ _ _ h => by cases h; exact hpayload) ?_
  have hcount : ∀ j, ((s.setPoll i (.decided read active diskOk payload now)).poll j).count =
      (s.poll j).count := by
    intro j
    by_cases hj : j = i
    · subst hj
      have hself : (s.setPoll j (.decided read active diskOk payload now)).poll j =
          .decided read active diskOk payload now := Function.update_self j _ _
      rw [hself, hphase]
      rfl
    · exact congrArg PollPhase.count (Function.update_of_ne hj _ _)
  refine le_trans (Int.ofNat_le.2 (List.countP_mono_left fun c _ h => ?_)) hs.bound
  simp only [busy, reserved, hcount] at h
  exact h

theorem status_of_pollPayload {limit : ℤ} {active : ℕ} {diskOk : Bool} {call : Call}
    {payload : Changes} (h : pollPayload limit active diskOk call = .ok payload) (row : Call)
    (now : Timestamp) : (row.updateRow call payload now).status =
      (Transition.pollOnce active diskOk).target limit call := by
  have hbody : (Transition.pollOnce active diskOk).body limit now call = some [⟨payload, now⟩] := by
    change statements now (pollPayload limit active diskOk call) [] = _
    rw [h]
    rfl
  obtain ⟨hlegal, first, rest, changes, heq, hfirst, hchanges, -⟩ := Transition.body_eq_some hbody
  obtain ⟨rfl, -⟩ := List.cons.inj heq
  have hpayload : payload = .status ((Transition.pollOnce active diskOk).target limit call) ::
      changes := hfirst
  rw [hpayload]
  exact Call.status_updateRow row call now hlegal.ne.symm hchanges

section Commit

variable {limit : ℤ} {s : AdmissionState} {i : ℕ} {read : Call} {active : ℕ} {diskOk : Bool}
  {payload : Changes} {now : Timestamp}

theorem Admitted.reserved_of_admits (hs : s.Admitted limit)
    (hphase : s.poll i = .decided read active diskOk payload now)
    (hadmits : admits limit active diskOk) {c : Call} (hid : c.id = read.id) :
    s.reserved limit c := by
  have hheld := (hs.holds i read (by rw [hphase]; rfl)).1
  have hle : (active : ℤ) ≤ limit := by
    simp only [admits, Bool.and_eq_true, decide_eq_true_eq, not_lt] at hadmits
    exact hadmits.1
  exact reserved_iff.2 ⟨i, read, active, hid ▸ hheld, by rw [hphase]; rfl, hid.symm, hle⟩

theorem Admitted.finish_commit (hs : s.Admitted limit)
    (hphase : s.poll i = .decided read active diskOk payload now) :
    Admitted limit { (s.setPoll i .idle).unlock read.id with
      rows := modifyRow s.rows read.id fun row => row.updateRow read payload now } := by
  have hread : (s.poll i).read = some read := by rw [hphase]; rfl
  refine hs.finish hread (fun c => Call.id_updateRow c read payload now) fun c _ hid hflight => ?_
  rw [status_of_pollPayload (hs.payload i _ _ _ _ _ hphase), Transition.target] at hflight
  split_ifs at hflight with hadmits
  · exact Bool.or_eq_true_iff.2 (Or.inr (hs.reserved_of_admits hphase hadmits hid))
  · exact absurd hflight (by decide)

theorem Admitted.claim (hs : s.Admitted limit)
    (hphase : s.poll i = .decided read active diskOk payload now)
    (hadmits : admits limit active diskOk) :
    Admitted limit { (s.setPoll i .idle).unlock read.id with
      rows := modifyRow s.rows read.id fun row => row.updateRow read payload now
      claims := read.id :: s.claims
      tasks := read.id :: s.tasks } := by
  have hread : (s.poll i).read = some read := by rw [hphase]; rfl
  have hnew := hs.notMem_claims hread
  have hfinish := hs.finish_commit hphase
  refine ⟨hfinish.nodup, hfinish.holds, hfinish.payload, hfinish.bound,
    List.nodup_cons.2 ⟨hnew, hs.claims_nodup⟩, ?_, ?_, ?_⟩
  · intro id hid
    rcases List.mem_cons.1 hid with rfl | hid
    · obtain ⟨-, -, c, hc, hcid, -⟩ := hs.holds i read hread
      refine ⟨c.updateRow read payload now, mem_modifyRow_of_eq hc hcid, ?_, ?_⟩
      · rw [Call.id_updateRow, hcid]
      · rw [status_of_pollPayload (hs.payload i _ _ _ _ _ hphase), Transition.target,
          if_pos hadmits]
        decide
    · exact hfinish.claims_left id hid
  · exact List.nodup_cons.2 ⟨fun h => hnew (hs.tasks_claims _ h), hs.tasks_nodup⟩
  · intro id hid
    rcases List.mem_cons.1 hid with rfl | hid
    · exact List.mem_cons_self
    · exact List.mem_cons_of_mem _ (hs.tasks_claims id hid)

end Commit

theorem queued_of_create {limit : ℤ} {active : ℕ} {data : CallCreate} {id : Uuid} {now : Timestamp}
    {row : Call} (h : CallService.create limit active data id now = .ok row) :
    row.id = id ∧ row.status = .queued := by
  unfold CallService.create at h
  split_ifs at h
  cases h
  exact ⟨rfl, rfl⟩

theorem Admitted.insert {limit : ℤ} {s : AdmissionState} (hs : s.Admitted limit) {row : Call}
    {create : ℕ → CreatePhase} (hfresh : ∀ c ∈ s.rows, c.id ≠ row.id)
    (hqueued : row.status = .queued) :
    Admitted limit { s with create := create, rows := s.rows ++ [row] } := by
  have hidle : s.busy limit row = false := by
    rw [busy, hqueued, Bool.or_eq_false_iff]
    refine ⟨by decide, Bool.eq_false_iff.2 fun h => ?_⟩
    obtain ⟨i, read, active, -, hcount, hid, -⟩ := reserved_iff.1 h
    obtain ⟨-, -, c, hc, hcid, -⟩ := hs.holds i read (PollPhase.read_of_count hcount)
    exact hfresh c hc (hcid.trans hid)
  refine ⟨?_, ?_, hs.payload, ?_, hs.claims_nodup, ?_, hs.tasks_nodup, hs.tasks_claims⟩
  · rw [List.map_append, List.nodup_append]
    refine ⟨hs.nodup, List.nodup_singleton _, ?_⟩
    intro a ha b hb
    obtain ⟨c, hc, rfl⟩ := List.mem_map.1 ha
    obtain rfl : b = row.id := by simpa using hb
    exact hfresh c hc
  · intro i read hread
    obtain ⟨hheld, hq, c, hc, hrest⟩ := hs.holds i read hread
    exact ⟨hheld, hq, c, List.mem_append_left _ hc, hrest⟩
  · have hcount : (s.rows ++ [row]).countP (s.busy limit) = s.rows.countP (s.busy limit) := by
      simp [List.countP_append, hidle]
    change ((s.rows ++ [row]).countP (s.busy limit) : ℤ) ≤ max limit 0
    rw [hcount]
    exact hs.bound
  · intro id hid
    obtain ⟨c, hc, hrest⟩ := hs.claims_left id hid
    exact ⟨c, List.mem_append_left _ hc, hrest⟩

theorem inFlight_of_legal {a b : CallStatus} (h : CallStatus.Legal a b) (hb : b ≠ .joining)
    (hflight : b.InFlight) : a.InFlight := by
  revert h hb hflight
  cases a <;> cases b <;> decide

theorem Admitted.transition {limit : ℤ} {s : AdmissionState} (hs : s.Admitted limit) {id : Uuid}
    {row : Call} {tr : Transition} {now : Timestamp} {todo : List Statement}
    (hrow : findRow s.rows id = some row) (hfree : s.lock id = none) (hlocks : tr.locks = false)
    (hbody : tr.body limit now row = some todo) :
    Admitted limit { s with rows := modifyRow s.rows id fun _ => applyStatements row todo } := by
  obtain ⟨hmem, rfl⟩ := findRow_mem hrow
  have hlegal : CallStatus.Legal row.status (applyStatements row todo).status := by
    rw [Transition.status_of_body hbody]
    exact (Transition.body_eq_some hbody).1
  have hnew : (applyStatements row todo).status ≠ .joining := by
    rw [Transition.status_of_body hbody]
    exact Transition.target_ne_joining hlocks limit row
  have hself : ∀ c ∈ s.rows, c.id = row.id → c = row := fun c hc h =>
    List.inj_on_of_nodup_map hs.nodup hc hmem h
  refine ⟨?_, ?_, hs.payload, ?_, hs.claims_nodup, ?_, hs.tasks_nodup, hs.tasks_claims⟩
  · rw [map_id_modifyRow s.rows fun c _ h => (id_applyStatements row todo).trans h.symm]
    exact hs.nodup
  · intro i read hread
    obtain ⟨hheld, hq, c, hc, hcid, hstatus⟩ := hs.holds i read hread
    refine ⟨hheld, hq, c, mem_modifyRow_of_ne hc ?_, hcid, hstatus⟩
    intro h
    rw [← hcid, h, hfree] at hheld
    cases hheld
  · refine le_trans (Int.ofNat_le.2 (countP_map_le fun c hc h => ?_)) hs.bound
    by_cases hcid : c.id = row.id
    · rw [if_pos hcid] at h
      rcases Bool.or_eq_true_iff.1 h with h | h
      · refine Bool.or_eq_true_iff.2 (Or.inl ?_)
        rw [hself c hc hcid]
        exact decide_eq_true (inFlight_of_legal hlegal hnew (by simpa using h))
      · obtain ⟨j, _, _, hlock, -⟩ := reserved_iff.1 h
        rw [id_applyStatements] at hlock
        change s.lock row.id = some j at hlock
        rw [hfree] at hlock
        cases hlock
    · rw [if_neg hcid] at h
      exact h
  · intro id' hid'
    obtain ⟨c, hc, hcid, hleft⟩ := hs.claims_left id' hid'
    by_cases hceq : c.id = row.id
    · refine ⟨_, mem_modifyRow_of_eq hc hceq, ?_, CallStatus.not_queued_of_legal hlegal⟩
      rw [id_applyStatements, ← hceq, hcid]
    · exact ⟨c, mem_modifyRow_of_ne hc hceq, hcid, hleft⟩

theorem Admitted.runCall {limit : ℤ} {s : AdmissionState} (hs : s.Admitted limit) {id : Uuid}
    (hid : id ∈ s.tasks) :
    Admitted limit { s with tasks := s.tasks.erase id } ∧
      Admitted limit { s with tasks := s.tasks.erase id, spawned := id :: s.spawned } := by
  have hperm : (s.tasks.erase id ++ id :: s.spawned).Perm (s.tasks ++ s.spawned) :=
    List.perm_middle.trans ((List.perm_cons_erase hid).symm.append_right s.spawned)
  have hsub : (s.tasks.erase id ++ s.spawned).Sublist (s.tasks ++ s.spawned) :=
    (List.erase_sublist).append_right s.spawned
  refine ⟨⟨hs.nodup, hs.holds, hs.payload, hs.bound, hs.claims_nodup, hs.claims_left, ?_, ?_⟩,
    ⟨hs.nodup, hs.holds, hs.payload, hs.bound, hs.claims_nodup, hs.claims_left, ?_, ?_⟩⟩
  · exact hs.tasks_nodup.sublist hsub
  · exact fun x hx => hs.tasks_claims x (hsub.subset hx)
  · exact hperm.nodup_iff.2 hs.tasks_nodup
  · exact fun x hx => hs.tasks_claims x (hperm.mem_iff.1 hx)

theorem admitted_step (limit : ℤ) (s : AdmissionState) (e : AdmissionEvent) (t : AdmissionState)
    (hs : s.Admitted limit) (h : (admissionSystem limit).step s e = some t) : t.Admitted limit := by
  change s.step limit e = some t at h
  cases e with
  | pollSelect i =>
      cases hphase : s.poll i <;> cases hread : s.candidate <;> simp only [step, hphase, hread] at h <;>
        cases h
      · exact hs
      · exact hs.select hphase hread
  | pollCount i =>
      cases hphase : s.poll i <;> simp only [step, hphase] at h <;> cases h
      exact hs.count hphase
  | pollDecide i diskOk now =>
      cases hphase : s.poll i <;> simp only [step, hphase] at h <;> try cases h
      rename_i read active
      cases hpayload : pollPayload limit active diskOk read <;> simp only [hpayload] at h <;> cases h
      · exact hs.abandon (by rw [hphase]; rfl)
      · exact hs.decide hphase hpayload
  | pollCommit i =>
      cases hphase : s.poll i <;> simp only [step, hphase] at h <;> try cases h
      rename_i read active diskOk payload now
      split_ifs at h with hadmits <;> cases h
      · exact hs.claim hphase hadmits
      · exact hs.finish_commit hphase
  | pollAbort i =>
      obtain ⟨read, hread, rfl⟩ := Option.map_eq_some_iff.1 h
      exact hs.abandon hread
  | createCount j =>
      cases hphase : s.create j <;> simp only [step, hphase] at h <;> cases h
      exact ⟨hs.nodup, hs.holds, hs.payload, hs.bound, hs.claims_nodup, hs.claims_left,
        hs.tasks_nodup, hs.tasks_claims⟩
  | createInsert j data id now =>
      cases hphase : s.create j <;> simp only [step, hphase] at h <;> try cases h
      rename_i active
      split_ifs at h with hfresh
      cases hcreate : CallService.create limit active data id now <;> simp only [hcreate] at h <;>
        cases h
      · exact ⟨hs.nodup, hs.holds, hs.payload, hs.bound, hs.claims_nodup, hs.claims_left,
          hs.tasks_nodup, hs.tasks_claims⟩
      · obtain ⟨hid, hqueued⟩ := queued_of_create hcreate
        exact hs.insert (hid ▸ findRow_eq_none hfresh) hqueued
  | transition id tr now =>
      cases hrow : findRow s.rows id <;> simp only [step, hrow] at h <;> try cases h
      rename_i row
      split_ifs at h with hguard
      cases hbody : tr.body limit now row <;> simp only [hbody] at h <;> cases h
      · exact hs
      · exact hs.transition hrow hguard.1 hguard.2 hbody
  | runCall id =>
      simp only [step] at h
      split_ifs at h with hid
      obtain ⟨hskip, hspawn⟩ := hs.runCall hid
      cases hrow : findRow s.rows id <;> simp only [hrow] at h <;> cases h
      · exact hskip
      · split_ifs
        · exact hspawn
        · exact hskip

theorem admitted_of_reachable {limit : ℤ} {s : AdmissionState}
    (hs : (admissionSystem limit).Reachable s) : s.Admitted limit :=
  (admissionSystem limit).reachable_invariant (fun _ => admitted_of_init) (admitted_step limit) hs

theorem Admitted.countInFlight_le {limit : ℤ} {s : AdmissionState} (hs : s.Admitted limit) :
    (countInFlight s.rows : ℤ) ≤ max limit 0 := by
  refine le_trans (Int.ofNat_le.2 (List.countP_mono_left fun c _ h => ?_)) hs.bound
  exact Bool.or_eq_true_iff.2 (Or.inl h)

end AdmissionState

/-- In every reachable state the calls in flight respect the ceiling, no call is claimed twice, and
only claimed calls are spawned, each at most once. A negative ceiling admits nothing. -/
theorem admission_safe (limit : ℤ) {s : AdmissionState}
    (hs : (admissionSystem limit).Reachable s) :
    (countInFlight s.rows : ℤ) ≤ max limit 0 ∧ s.claims.Nodup ∧ s.spawned.Nodup ∧
      ∀ id ∈ s.spawned, id ∈ s.claims := by
  have h := AdmissionState.admitted_of_reachable hs
  refine ⟨h.countInFlight_le, h.claims_nodup, ?_, ?_⟩
  · exact h.tasks_nodup.sublist (List.sublist_append_right s.tasks s.spawned)
  · exact fun id hid => h.tasks_claims id (List.mem_append_right s.tasks hid)

/-! ## A claim from create to spawn -/

def emptyAdmission : AdmissionState where
  rows := []
  lock _ := none
  poll _ := .idle
  create _ := .idle
  claims := []
  tasks := []
  spawned := []

def sampleCreate : CallCreate where
  meetingUrl := "https://meet.google.com/abc-defg-hij".toList
  userRef := "user".toList
  consentAck := true
  webhookUrl := "https://example.org/hook".toList
  webhookSecret := "0123456789abcdef".toList
  platform := none

def createToSpawn : List AdmissionEvent :=
  [.createCount 0, .createInsert 0 sampleCreate 7 0, .pollSelect 0, .pollCount 0,
    .pollDecide 0 true 1, .pollCommit 0, .runCall 7]

theorem createToSpawn_isSome : ((admissionSystem 1).run emptyAdmission createToSpawn).isSome := by
  decide

def spawnedState : AdmissionState :=
  ((admissionSystem 1).run emptyAdmission createToSpawn).get createToSpawn_isSome

theorem admission_safe_spawnedState :
    (countInFlight spawnedState.rows : ℤ) ≤ max 1 0 ∧ spawnedState.claims.Nodup ∧
      spawnedState.spawned.Nodup ∧ ∀ id ∈ spawnedState.spawned, id ∈ spawnedState.claims :=
  admission_safe 1 ⟨emptyAdmission, createToSpawn, ⟨rfl, fun _ => rfl, fun _ => rfl, fun _ => rfl,
    rfl, rfl, rfl⟩, (Option.some_get _).symm⟩

end Notetaker

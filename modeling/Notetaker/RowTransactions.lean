import Notetaker.TransitionSystem

/-!
# Transactions on one row under READ COMMITTED

A transaction reads the committed version of the row, decides on a list of statements, sends them
one by one and commits. The first statement takes the row lock, which the commit or the rollback
releases; a reader of the `FOR UPDATE SKIP LOCKED` kind takes it with the read. A plain read takes no
lock, and the statements carry no version predicate, so other transactions may commit between the
read and the first statement.

`history` records the committed versions, newest first. The main result says when consecutive
versions of a run stand in a given relation: exactly when every commit finds its predecessor in it.
-/

/-- What the transactions do: `write object row d` is the version that statement `d` of a session
holding `object` makes of `row`. -/
structure RowProgram (ω ρ δ : Type*) where
  locks : ω → Bool
  selects : ω → ρ → Bool
  body : ω → ρ → Option (List δ)
  write : ρ → ρ → δ → ρ

inductive TxnPhase (ω ρ δ : Type*) where
  | idle
  | loaded (op : ω) (read : ρ) (todo : List δ)
  | written (op : ω) (read : ρ) (todo : List δ) (version : ρ)

inductive TxnEvent (ι ω : Type*) where
  | select (i : ι) (op : ω)
  | update (i : ι)
  | commit (i : ι)
  | abort (i : ι)

structure RowState (ι ω ρ δ : Type*) where
  committed : ρ
  lock : Option ι
  phase : ι → TxnPhase ω ρ δ
  history : List ρ

namespace RowState

variable {ι ω ρ δ : Type*} [DecidableEq ι]

def setPhase (s : RowState ι ω ρ δ) (i : ι) (p : TxnPhase ω ρ δ) : RowState ι ω ρ δ :=
  { s with phase := Function.update s.phase i p }

def release (s : RowState ι ω ρ δ) (i : ι) : RowState ι ω ρ δ :=
  { s.setPhase i .idle with lock := if s.lock = some i then none else s.lock }

/-- The read has happened, with the row lock when it is a locking one. -/
def load (s : RowState ι ω ρ δ) (i : ι) (op : ω) (todo : List δ) (locks : Bool) :
    RowState ι ω ρ δ :=
  { s.setPhase i (.loaded op s.committed todo) with lock := if locks then some i else s.lock }

def send (s : RowState ι ω ρ δ) (i : ι) (op : ω) (read : ρ) (todo : List δ) (version : ρ) :
    RowState ι ω ρ δ :=
  { s.setPhase i (.written op read todo version) with lock := some i }

def install (s : RowState ι ω ρ δ) (version : ρ) : RowState ι ω ρ δ :=
  { s with committed := version, history := version :: s.history }

end RowState

namespace RowProgram

variable {ι ω ρ δ : Type*} [DecidableEq ι] (prog : RowProgram ω ρ δ)

def step (s : RowState ι ω ρ δ) : TxnEvent ι ω → Option (RowState ι ω ρ δ)
  | .select i op =>
      match s.phase i with
      | .idle =>
          if prog.selects op s.committed ∧ (prog.locks op → s.lock = none) then
            match prog.body op s.committed with
            | none => some s
            | some todo => some (s.load i op todo (prog.locks op))
          else none
      | _ => none
  | .update i =>
      match s.phase i with
      | .loaded op read (d :: todo) =>
          if s.lock = none ∨ s.lock = some i then
            some (s.send i op read todo (prog.write read s.committed d))
          else none
      | .written op read (d :: todo) version =>
          some (s.send i op read todo (prog.write version version d))
      | _ => none
  | .commit i =>
      match s.phase i with
      | .loaded _ _ [] => some (s.release i)
      | .written _ _ [] version => some ((s.release i).install version)
      | _ => none
  | .abort i =>
      match s.phase i with
      | .idle => none
      | _ => some (s.release i)

def system (ι : Type*) [DecidableEq ι] (prog : RowProgram ω ρ δ) :
    TransitionSystem (RowState ι ω ρ δ) (TxnEvent ι ω) where
  init s := s.lock = none ∧ (∀ i, s.phase i = .idle) ∧ s.history = [s.committed]
  step := prog.step

/-! ## What a step can do -/

section Step

variable {prog} {s t : RowState ι ω ρ δ} {i : ι} {op : ω}

theorem step_select_cases (hstep : prog.step s (.select i op) = some t) :
    s.phase i = .idle ∧ prog.selects op s.committed ∧ (prog.locks op → s.lock = none) ∧
      (t = s ∨ ∃ todo, prog.body op s.committed = some todo ∧
        t = s.load i op todo (prog.locks op)) := by
  cases hphase : s.phase i with
  | loaded => simp [step, hphase] at hstep
  | written => simp [step, hphase] at hstep
  | idle =>
      by_cases hguard : prog.selects op s.committed ∧ (prog.locks op → s.lock = none)
      · refine ⟨rfl, hguard.1, hguard.2, ?_⟩
        simp only [step, hphase, if_pos hguard] at hstep
        cases hbody : prog.body op s.committed with
        | none =>
            left
            simpa [hbody, eq_comm] using hstep
        | some todo =>
            right
            exact ⟨todo, rfl, by simpa [hbody, eq_comm] using hstep⟩
      · simp only [step, hphase, if_neg hguard] at hstep
        cases hstep

theorem step_update_cases (hstep : prog.step s (.update i) = some t) :
    (∃ op read d todo, s.phase i = .loaded op read (d :: todo) ∧
      (s.lock = none ∨ s.lock = some i) ∧
      t = s.send i op read todo (prog.write read s.committed d)) ∨
    ∃ op read d todo version, s.phase i = .written op read (d :: todo) version ∧
      t = s.send i op read todo (prog.write version version d) := by
  cases hphase : s.phase i with
  | idle => simp [step, hphase] at hstep
  | loaded op read todo =>
      cases todo with
      | nil => simp [step, hphase] at hstep
      | cons d todo =>
          by_cases hfree : s.lock = none ∨ s.lock = some i
          · simp only [step, hphase, if_pos hfree, Option.some.injEq] at hstep
            exact Or.inl ⟨op, read, d, todo, rfl, hfree, hstep.symm⟩
          · simp only [step, hphase, if_neg hfree] at hstep
            cases hstep
  | written op read todo version =>
      cases todo with
      | nil => simp [step, hphase] at hstep
      | cons d todo =>
          simp only [step, hphase, Option.some.injEq] at hstep
          exact Or.inr ⟨op, read, d, todo, version, rfl, hstep.symm⟩

theorem step_commit_eq_some :
    prog.step s (.commit i) = some t ↔
      (∃ op read, s.phase i = .loaded op read [] ∧ t = s.release i) ∨
      ∃ op read version, s.phase i = .written op read [] version ∧
        t = (s.release i).install version := by
  cases hphase : s.phase i with
  | idle => simp [step, hphase]
  | loaded op read todo => cases todo <;> simp [step, hphase, eq_comm]
  | written op read todo version => cases todo <;> simp [step, hphase, eq_comm]

theorem step_abort_cases (hstep : prog.step s (.abort i) = some t) : t = s.release i := by
  cases hphase : s.phase i with
  | idle => simp [step, hphase] at hstep
  | loaded => simpa [step, hphase, eq_comm] using hstep
  | written => simpa [step, hphase, eq_comm] using hstep

end Step

/-! ## What the program establishes about its transactions -/

/-- `onLoad` holds of every read with its statements; `onWrite` of every read with the statements
left and the version written so far. -/
structure Discipline (onLoad : ω → ρ → List δ → Prop) (onWrite : ω → ρ → List δ → ρ → Prop) :
    Prop where
  body : ∀ op row todo, prog.selects op row → prog.body op row = some todo → onLoad op row todo
  first : ∀ op read d todo row, onLoad op read (d :: todo) →
    onWrite op read todo (prog.write read row d)
  next : ∀ op read d todo version, onWrite op read (d :: todo) version →
    onWrite op read todo (prog.write version version d)

/-- The state keeps a discipline, and its history ends in the committed version. -/
structure Disciplined (onLoad : ω → ρ → List δ → Prop) (onWrite : ω → ρ → List δ → ρ → Prop)
    (s : RowState ι ω ρ δ) : Prop where
  loaded : ∀ i op read todo, s.phase i = .loaded op read todo → onLoad op read todo
  written : ∀ i op read todo version, s.phase i = .written op read todo version →
    onWrite op read todo version ∧ s.lock = some i
  head : s.history.head? = some s.committed

section Discipline

variable {prog} {onLoad : ω → ρ → List δ → Prop} {onWrite : ω → ρ → List δ → ρ → Prop}

theorem disciplined_of_init {s : RowState ι ω ρ δ} (hs : (prog.system ι).init s) :
    Disciplined onLoad onWrite s := by
  obtain ⟨-, hidle, hhistory⟩ := hs
  refine ⟨?_, ?_, ?_⟩
  · intro i op read todo h
    rw [hidle i] at h
    cases h
  · intro i op read todo version h
    rw [hidle i] at h
    cases h
  · rw [hhistory]
    rfl

theorem Disciplined.update {s t : RowState ι ω ρ δ} (hs : Disciplined onLoad onWrite s) {i : ι}
    {p : TxnPhase ω ρ δ} (hphase : t.phase = Function.update s.phase i p)
    (hlock : ∀ j, j ≠ i → s.lock = some j → t.lock = some j)
    (hload : ∀ op read todo, p = .loaded op read todo → onLoad op read todo)
    (hwrite : ∀ op read todo version, p = .written op read todo version →
      onWrite op read todo version ∧ t.lock = some i)
    (hhead : t.history.head? = some t.committed) : Disciplined onLoad onWrite t := by
  refine ⟨?_, ?_, hhead⟩
  · intro j op read todo h
    rw [hphase] at h
    by_cases hj : j = i
    · subst hj
      exact hload op read todo (by simpa using h)
    · exact hs.loaded j op read todo (by simpa [Function.update_of_ne hj] using h)
  · intro j op read todo version h
    rw [hphase] at h
    by_cases hj : j = i
    · subst hj
      exact hwrite op read todo version (by simpa using h)
    · have hold := hs.written j op read todo version (by simpa [Function.update_of_ne hj] using h)
      exact ⟨hold.1, hlock j hj hold.2⟩

theorem Disciplined.release {s : RowState ι ω ρ δ} (hs : Disciplined onLoad onWrite s) (i : ι) :
    Disciplined onLoad onWrite (s.release i) := by
  refine hs.update rfl ?_ (fun _ _ _ h => by cases h) (fun _ _ _ _ h => by cases h) hs.head
  intro j hj hlock
  have hne : s.lock ≠ some i := by
    rw [hlock]
    exact fun h => hj (Option.some.inj h)
  change (if s.lock = some i then none else s.lock) = some j
  rw [if_neg hne, hlock]

omit [DecidableEq ι] in
theorem Disciplined.install {s : RowState ι ω ρ δ} (hs : Disciplined onLoad onWrite s)
    (version : ρ) : Disciplined onLoad onWrite (s.install version) := ⟨hs.loaded, hs.written, rfl⟩

theorem Disciplined.load {s : RowState ι ω ρ δ} (hs : Disciplined onLoad onWrite s) {i : ι}
    {op : ω} {todo : List δ} {locks : Bool} (hfree : locks → s.lock = none)
    (hload : onLoad op s.committed todo) :
    Disciplined onLoad onWrite (s.load i op todo locks) := by
  refine hs.update rfl ?_ ?_ (fun _ _ _ _ h => by cases h) hs.head
  · intro j hj hlock
    change (if locks then some i else s.lock) = some j
    by_cases hl : locks = true
    · rw [hfree hl] at hlock
      cases hlock
    · rw [if_neg hl, hlock]
  · intro op' read todo' h
    cases h
    exact hload

theorem Disciplined.send {s : RowState ι ω ρ δ} (hs : Disciplined onLoad onWrite s) {i : ι}
    {op : ω} {read version : ρ} {todo : List δ} (hfree : s.lock = none ∨ s.lock = some i)
    (hwrite : onWrite op read todo version) :
    Disciplined onLoad onWrite (s.send i op read todo version) := by
  refine hs.update rfl ?_ (fun _ _ _ h => by cases h) ?_ hs.head
  · intro j hj hlock
    rcases hfree with hnone | hown
    · rw [hnone] at hlock
      cases hlock
    · exact absurd (Option.some.inj (hlock.symm.trans hown)) hj
  · intro op' read' todo' version' h
    cases h
    exact ⟨hwrite, rfl⟩

theorem disciplined_step (hprog : prog.Discipline onLoad onWrite) (s : RowState ι ω ρ δ)
    (e : TxnEvent ι ω) (t : RowState ι ω ρ δ) (hs : Disciplined onLoad onWrite s)
    (hstep : (prog.system ι).step s e = some t) : Disciplined onLoad onWrite t := by
  change prog.step s e = some t at hstep
  cases e with
  | select i op =>
      obtain ⟨-, hselects, hfree, rfl | ⟨todo, hbody, rfl⟩⟩ := step_select_cases hstep
      · exact hs
      · exact hs.load hfree (hprog.body op s.committed todo hselects hbody)
  | update i =>
      obtain ⟨op, read, d, todo, hphase, hfree, rfl⟩ | ⟨op, read, d, todo, version, hphase, rfl⟩ :=
        step_update_cases hstep
      · exact hs.send hfree (hprog.first op read d todo _ (hs.loaded i _ _ _ hphase))
      · obtain ⟨hwrite, hlock⟩ := hs.written i _ _ _ _ hphase
        exact hs.send (Or.inr hlock) (hprog.next op read d todo version hwrite)
  | commit i =>
      rcases step_commit_eq_some.1 hstep with ⟨_, _, _, rfl⟩ | ⟨_, _, version, _, rfl⟩
      · exact hs.release i
      · exact (hs.release i).install version
  | abort i =>
      obtain rfl := step_abort_cases hstep
      exact hs.release i

end Discipline

/-! ## The history of a run -/

section History

variable {prog}

/-- A step that commits a new version finds its predecessor in the relation. -/
def CommitOk (ok : ρ → ρ → Prop) (s : RowState ι ω ρ δ) : TxnEvent ι ω → Prop
  | .commit i => ∀ op read version, s.phase i = .written op read [] version → ok s.committed version
  | _ => True

theorem history_eq_or_commit {s t : RowState ι ω ρ δ} {e : TxnEvent ι ω}
    (hstep : prog.step s e = some t) : t.history = s.history ∨
      ∃ i op read version, e = .commit i ∧ s.phase i = .written op read [] version ∧
        t.history = version :: s.history := by
  cases e with
  | select i op =>
      obtain ⟨-, -, -, rfl | ⟨todo, -, rfl⟩⟩ := step_select_cases hstep <;> exact Or.inl rfl
  | update i =>
      rcases step_update_cases hstep with ⟨_, _, _, _, _, _, rfl⟩ | ⟨_, _, _, _, _, _, rfl⟩ <;>
        exact Or.inl rfl
  | commit i =>
      rcases step_commit_eq_some.1 hstep with ⟨_, _, _, rfl⟩ | ⟨op, read, version, hphase, rfl⟩
      · exact Or.inl rfl
      · exact Or.inr ⟨i, op, read, version, rfl, hphase, rfl⟩
  | abort i =>
      obtain rfl := step_abort_cases hstep
      exact Or.inl rfl

/-- Consecutive committed versions of a run are related exactly when every commit is. -/
theorem isChain_history_iff {onLoad : ω → ρ → List δ → Prop}
    {onWrite : ω → ρ → List δ → ρ → Prop} (hprog : prog.Discipline onLoad onWrite)
    (ok : ρ → ρ → Prop) {s t : RowState ι ω ρ δ} {es : List (TxnEvent ι ω)}
    (hs : (prog.system ι).init s) (hrun : (prog.system ι).run s es = some t) :
    t.history.IsChain (fun new old => ok old new) ↔
      (prog.system ι).Meets (CommitOk ok) s es := by
  have hinit : s.history.IsChain (fun new old => ok old new) := by
    rw [hs.2.2]
    exact List.IsChain.singleton _
  have hrule := TransitionSystem.run_iff_meets (T := prog.system ι) (C := CommitOk ok)
    (Q := fun s => s.history.IsChain (fun new old => ok old new))
    (disciplined_step hprog) ?_ (disciplined_of_init hs) hrun
  · rw [hrule]
    exact and_iff_right hinit
  · intro s e t hdisc hstep
    change prog.step s e = some t at hstep
    rcases history_eq_or_commit hstep with hsame | ⟨i, op, read, version, rfl, hphase, hnew⟩
    · rw [hsame]
      refine (and_iff_left ?_).symm
      cases e with
      | commit i =>
          intro op read version hphase
          exfalso
          rcases step_commit_eq_some.1 hstep with ⟨_, _, h, _⟩ | ⟨_, _, v, _, rfl⟩
          · rw [hphase] at h
            cases h
          · exact List.cons_ne_self v s.history hsame
      | _ => trivial
    · obtain ⟨rest, hrest⟩ : ∃ rest, s.history = s.committed :: rest := by
        cases hh : s.history with
        | nil => simpa [hh] using hdisc.head
        | cons x rest => exact ⟨rest, by simpa [hh] using hdisc.head⟩
      rw [hnew, hrest, List.isChain_cons_cons, and_comm]
      refine and_congr_right fun _ => ?_
      constructor
      · intro h op' read' version' hphase'
        rw [hphase] at hphase'
        cases hphase'
        exact h
      · exact fun h => h op read version hphase

end History

end RowProgram

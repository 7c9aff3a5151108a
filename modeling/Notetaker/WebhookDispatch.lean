import Notetaker.RunnerInvariant

/-!
# One webhook dispatch for each terminal call

`Accounted` relates the ghost fields to the tasks. A call is terminal exactly when a task has won it;
the winner has dispatched its webhook or is at the dispatch; no other task ever dispatches for it, and
a task that lost a call to another one has no way to win it. Without a crash every step keeps this.
-/

open PythonText PythonFloat PythonUuid JsonText

namespace Notetaker

namespace Task

theorem owes_of_work {task : Task} (h : task.work ≠ none) : task.owes = none := by
  cases task with
  | dispatching => exact absurd rfl h
  | _ => rfl

theorem mem_contested_of_driven {task : Task} {id : Uuid} (h : task.driven = some id) :
    id ∈ task.contested := by
  rw [contested, h]
  exact List.mem_cons_self

/-- A winner has nothing left that it could lose on the call it won. -/
theorem contested_committed {task : Task} {id : Uuid} {tr : Transition} (row : Call)
    (h : task.work = some (id, tr)) (hnodup : task.contested.Nodup) :
    (task.committed row).contested.Sublist task.contested ∧
      ((task.committed row).owes ≠ none → id ∉ (task.committed row).contested) := by
  cases task with
  | sweeping next =>
      cases next with
      | finished => cases h
      | stale ids =>
          cases ids with
          | nil => cases h
          | cons id' ids =>
              cases h
              exact ⟨List.sublist_cons_self id ids, fun _ => (List.nodup_cons.1 hnodup).1⟩
      | orphan ids =>
          cases ids with
          | nil => cases h
          | cons id' ids =>
              cases h
              exact ⟨List.Sublist.refl _, fun _ => List.not_mem_nil⟩
  | signalling => cases h; exact ⟨List.Sublist.refl _, fun h => absurd rfl h⟩
  | exited id' exitCode result =>
      cases h
      simp only [committed]
      split_ifs
      · exact ⟨List.Sublist.refl _, fun h => absurd rfl h⟩
      · exact ⟨List.nil_sublist _, fun _ => List.not_mem_nil⟩
  | uploadFailed => cases h; exact ⟨List.nil_sublist _, fun _ => List.not_mem_nil⟩
  | transcriptionFailed => cases h; exact ⟨List.nil_sublist _, fun _ => List.not_mem_nil⟩
  | finishing => cases h; exact ⟨List.nil_sublist _, fun _ => List.not_mem_nil⟩
  | _ => cases h

theorem contested_refused {task : Task} (h : task.work ≠ none) :
    task.refused.contested.Sublist task.contested ∧ task.refused.owes = none := by
  cases task with
  | sweeping next =>
      cases next with
      | finished => exact absurd rfl h
      | stale ids =>
          cases ids with
          | nil => exact absurd rfl h
          | cons id ids => exact ⟨List.sublist_cons_self id ids, rfl⟩
      | orphan ids =>
          cases ids with
          | nil => exact absurd rfl h
          | cons id ids => exact ⟨List.Sublist.refl _, rfl⟩
  | signalling => exact ⟨List.Sublist.refl _, rfl⟩
  | _ => exact ⟨List.nil_sublist _, rfl⟩

/-- An early return is not a conflict; a transition that can raise one is contested. -/
theorem mem_contested_of_conflict {task : Task} {id : Uuid} {tr : Transition} {row : Call}
    (h : task.work = some (id, tr)) (hterminal : row.status.Terminal)
    (hearly : tr.returnsEarly row = false) : id ∈ task.contested := by
  rcases work_cases h with hdriven | ⟨ids, rfl, rfl⟩ | ⟨ids, rfl, rfl⟩
  · exact mem_contested_of_driven hdriven
  · exact List.mem_cons_self
  · simp [Transition.returnsEarly, hterminal] at hearly

end Task

structure Accounted (s : RunnerState) : Prop where
  winner_iff : ∀ row ∈ s.rows, row.status.Terminal ↔ s.winner row.id ≠ none
  winner_row : ∀ id, s.winner id ≠ none → ∃ row ∈ s.rows, row.id = id
  dispatched : ∀ id j, (id, j) ∈ s.dispatched → s.winner id = some j
  dispatched_nodup : (s.dispatched.map Prod.fst).Nodup
  owes : ∀ j id, (s.tasks j).owes = some id →
    s.winner id = some j ∧ id ∉ s.dispatched.map Prod.fst
  settled : ∀ id j, s.winner id = some j →
    (id, j) ∈ s.dispatched ∨ (s.tasks j).owes = some id
  contested : ∀ j, ∀ id ∈ (s.tasks j).contested, s.winner id ≠ some j
  contested_nodup : ∀ j, (s.tasks j).contested.Nodup
  conflicts : ∀ id j, (id, j) ∈ s.conflicts → ∃ k, s.winner id = some k ∧ k ≠ j

namespace Accounted

theorem of_init {cfg : RunnerSettings} {s : RunnerState} (h : (runnerSystem cfg).init s) :
    Accounted s := by
  obtain ⟨hrows, htasks, -, hwinner, hdispatched, hconflicts⟩ := h
  refine ⟨by simp [hrows], fun id h => absurd (hwinner id) h, by simp [hdispatched],
    by simp [hdispatched], ?_, ?_, ?_, ?_, by simp [hconflicts]⟩
  · intro j id hj
    rw [htasks j] at hj
    cases hj
  · intro id j hj
    rw [hwinner id] at hj
    cases hj
  · intro j id hj
    rw [htasks j] at hj
    cases hj
  · intro j
    rw [htasks j]
    exact List.nodup_nil

theorem winner_eq_none {s : RunnerState} (hs : Accounted s) {row : Call} (hrow : row ∈ s.rows)
    (hlive : ¬ row.status.Terminal) : s.winner row.id = none := by
  by_contra h
  exact hlive ((hs.winner_iff row hrow).2 h)

/-- Tables with the same identifiers have rows of the same calls. -/
theorem exists_row_of_ids {rows rows' : List Call} (hids : rows'.map Call.id = rows.map Call.id)
    {id : Uuid} (h : ∃ row ∈ rows, row.id = id) : ∃ row ∈ rows', row.id = id := by
  have hmem : id ∈ rows.map Call.id := List.mem_map.2 h
  rw [← hids] at hmem
  exact List.mem_map.1 hmem

theorem contested_nodup_update {s : RunnerState} (hs : Accounted s) (j : ℕ) {task : Task}
    (h : task.contested.Nodup) (k : ℕ) : (Function.update s.tasks j task k).contested.Nodup := by
  revert k
  exact (Function.forall_update_iff s.tasks fun _ task => task.contested.Nodup).2
    ⟨h, fun k _ => hs.contested_nodup k⟩

/-- A move of task `j` that wins nothing. -/
theorem move {s t : RunnerState} (hs : Accounted s) {j : ℕ} {task : Task}
    (htasks : t.tasks = Function.update s.tasks j task) (hwinner : t.winner = s.winner)
    (hdispatched : t.dispatched = s.dispatched)
    (hconflicts : ∀ id k, (id, k) ∈ t.conflicts → ∃ l, s.winner id = some l ∧ l ≠ k)
    (hrows : ∀ row ∈ t.rows, row.status.Terminal ↔ s.winner row.id ≠ none)
    (hids : t.rows.map Call.id = s.rows.map Call.id) (howes : (s.tasks j).owes = none)
    (howes' : task.owes = none) (hcontested : ∀ id ∈ task.contested, s.winner id ≠ some j)
    (hnodup : task.contested.Nodup) : Accounted t := by
  have hself : t.tasks j = task := by rw [htasks, Function.update_self]
  have hother : ∀ k, k ≠ j → t.tasks k = s.tasks k := fun k hk => by
    rw [htasks, Function.update_of_ne hk]
  refine ⟨by rwa [hwinner], ?_, by rw [hwinner, hdispatched]; exact hs.dispatched,
    by rw [hdispatched]; exact hs.dispatched_nodup, ?_, ?_, ?_, ?_, by rwa [hwinner]⟩
  · exact fun id h => exists_row_of_ids hids (hs.winner_row id (hwinner ▸ h))
  · intro k id hk
    by_cases hkj : k = j
    · subst hkj
      rw [hself, howes'] at hk
      cases hk
    · rw [hother k hkj] at hk
      rw [hwinner, hdispatched]
      exact hs.owes k id hk
  · intro id k hk
    rw [hwinner] at hk
    rw [hdispatched]
    rcases hs.settled id k hk with hdone | howed
    · exact Or.inl hdone
    · by_cases hkj : k = j
      · subst hkj
        rw [howes] at howed
        cases howed
      · exact Or.inr (by rwa [hother k hkj])
  · intro k id hk
    rw [hwinner]
    by_cases hkj : k = j
    · subst hkj
      rw [hself] at hk
      exact hcontested id hk
    · rw [hother k hkj] at hk
      exact hs.contested k id hk
  · rw [htasks]
    exact hs.contested_nodup_update j hnodup

/-- A move that leaves table and ghost fields alone. -/
theorem quiet {s t : RunnerState} (hs : Accounted s) {j : ℕ} {task : Task}
    (htasks : t.tasks = Function.update s.tasks j task) (hrows : t.rows = s.rows)
    (hwinner : t.winner = s.winner) (hdispatched : t.dispatched = s.dispatched)
    (hconflicts : t.conflicts = s.conflicts) (howes : (s.tasks j).owes = none)
    (howes' : task.owes = none) (hcontested : task.contested.Sublist (s.tasks j).contested) :
    Accounted t :=
  hs.move htasks hwinner hdispatched (by rw [hconflicts]; exact hs.conflicts)
    (by rw [hrows]; exact hs.winner_iff) (by rw [hrows]) howes howes'
    (fun id hid => hs.contested j id (hcontested.subset hid))
    ((hs.contested_nodup j).sublist hcontested)

/-- Task `j` makes the live call `id` terminal and goes on to its dispatch. -/
theorem win {s t : RunnerState} (hs : Accounted s) {j : ℕ} {id : Uuid} {task : Task} {new : Call}
    (htasks : t.tasks = Function.update s.tasks j task)
    (hwinner : t.winner = Function.update s.winner id (some j))
    (hdispatched : t.dispatched = s.dispatched) (hconflicts : t.conflicts = s.conflicts)
    (hrows : t.rows = modifyRow s.rows id fun _ => new) (hid : new.id = id)
    (hterminal : new.status.Terminal) (hexists : ∃ row ∈ s.rows, row.id = id)
    (hlive : s.winner id = none) (howes : (s.tasks j).owes = none) (howes' : task.owes = some id)
    (hcontested : task.contested.Sublist (s.tasks j).contested) (hnot : id ∉ task.contested) :
    Accounted t := by
  have hself : t.tasks j = task := by rw [htasks, Function.update_self]
  have hother : ∀ k, k ≠ j → t.tasks k = s.tasks k := fun k hk => by
    rw [htasks, Function.update_of_ne hk]
  have hwon : t.winner id = some j := by rw [hwinner, Function.update_self]
  have hkept : ∀ id', id' ≠ id → t.winner id' = s.winner id' := fun id' h => by
    rw [hwinner, Function.update_of_ne h]
  have hmono : ∀ id' k, s.winner id' = some k → t.winner id' = some k := by
    intro id' k hk
    rw [hkept id' ?_, hk]
    rintro rfl
    rw [hlive] at hk
    cases hk
  have hids : t.rows.map Call.id = s.rows.map Call.id := by
    rw [hrows]
    exact map_id_modifyRow s.rows fun c _ h => hid.trans h.symm
  refine ⟨?_, ?_, fun id' k hk => hmono id' k (hs.dispatched id' k (hdispatched ▸ hk)),
    by rw [hdispatched]; exact hs.dispatched_nodup, ?_, ?_, ?_, ?_, ?_⟩
  · intro row' hrow'
    rw [hrows] at hrow'
    obtain ⟨c, hc, rfl⟩ := mem_modifyRow hrow'
    by_cases hcid : c.id = id
    · rw [if_pos hcid, hid, hwon]
      exact iff_of_true hterminal (Option.some_ne_none _)
    · rw [if_neg hcid, hkept c.id hcid]
      exact hs.winner_iff c hc
  · intro id' h
    apply exists_row_of_ids hids
    by_cases heq : id' = id
    · exact heq ▸ hexists
    · exact hs.winner_row id' (hkept id' heq ▸ h)
  · intro k id' hk
    rw [hdispatched]
    by_cases hkj : k = j
    · subst hkj
      rw [hself, howes'] at hk
      cases hk
      refine ⟨hwon, fun h => ?_⟩
      obtain ⟨⟨_, l⟩, hmem, rfl⟩ := List.mem_map.1 h
      rw [hs.dispatched _ l hmem] at hlive
      cases hlive
    · rw [hother k hkj] at hk
      obtain ⟨hwin, hnew⟩ := hs.owes k id' hk
      exact ⟨hmono id' k hwin, hnew⟩
  · intro id' k hk
    rw [hdispatched]
    by_cases heq : id' = id
    · subst heq
      rw [hwon] at hk
      cases hk
      exact Or.inr (by rw [hself, howes'])
    · rw [hkept id' heq] at hk
      rcases hs.settled id' k hk with hdone | howed
      · exact Or.inl hdone
      · by_cases hkj : k = j
        · subst hkj
          rw [howes] at howed
          cases howed
        · exact Or.inr (by rwa [hother k hkj])
  · intro k id' hk
    by_cases hkj : k = j
    · subst hkj
      rw [hself] at hk
      have hne : id' ≠ id := by
        rintro rfl
        exact hnot hk
      rw [hkept id' hne]
      exact hs.contested k id' (hcontested.subset hk)
    · rw [hother k hkj] at hk
      by_cases heq : id' = id
      · subst heq
        rw [hwon]
        exact fun h => hkj (Option.some.inj h).symm
      · rw [hkept id' heq]
        exact hs.contested k id' hk
  · rw [htasks]
    exact hs.contested_nodup_update j ((hs.contested_nodup j).sublist hcontested)
  · intro id' k hk
    obtain ⟨l, hl, hne⟩ := hs.conflicts id' k (hconflicts ▸ hk)
    exact ⟨l, hmono id' l hl, hne⟩

theorem dispatch {s : RunnerState} (hs : Accounted s) {j : ℕ} {id : Uuid} {next : Sweep}
    (hphase : s.tasks j = .dispatching id next) :
    Accounted { s.setTask j (Task.afterDispatch next) with
      dispatched := (id, j) :: s.dispatched } := by
  have howes : (s.tasks j).owes = some id := by rw [hphase]; rfl
  obtain ⟨hwon, hnew⟩ := hs.owes j id howes
  have hcontested : (Task.afterDispatch next).contested.Sublist (s.tasks j).contested := by
    rw [hphase]
    cases next <;> exact List.Sublist.refl _
  have howes' : (Task.afterDispatch next).owes = none := by cases next <;> rfl
  set t : RunnerState := { s.setTask j (Task.afterDispatch next) with
    dispatched := (id, j) :: s.dispatched } with ht
  have hself : t.tasks j = Task.afterDispatch next := Function.update_self j _ _
  have hother : ∀ k, k ≠ j → t.tasks k = s.tasks k := fun k hk => Function.update_of_ne hk _ _
  refine ⟨hs.winner_iff, hs.winner_row, ?_, List.nodup_cons.2 ⟨hnew, hs.dispatched_nodup⟩, ?_, ?_,
    ?_, ?_, hs.conflicts⟩
  · intro id' k hk
    rcases List.mem_cons.1 hk with heq | hk
    · cases heq
      exact hwon
    · exact hs.dispatched id' k hk
  · intro k id' hk
    by_cases hkj : k = j
    · subst hkj
      rw [hself, howes'] at hk
      cases hk
    · rw [hother k hkj] at hk
      obtain ⟨hwin, hold⟩ := hs.owes k id' hk
      refine ⟨hwin, fun h => ?_⟩
      rcases List.mem_cons.1 h with rfl | h
      · rw [hwon] at hwin
        exact hkj (Option.some.inj hwin).symm
      · exact hold h
  · intro id' k hk
    rcases hs.settled id' k hk with hdone | howed
    · exact Or.inl (List.mem_cons_of_mem _ hdone)
    · by_cases hkj : k = j
      · subst hkj
        rw [howes] at howed
        cases howed
        exact Or.inl List.mem_cons_self
      · exact Or.inr (by rwa [hother k hkj])
  · intro k id' hk
    by_cases hkj : k = j
    · subst hkj
      rw [hself] at hk
      exact hs.contested k id' (hcontested.subset hk)
    · rw [hother k hkj] at hk
      exact hs.contested k id' hk
  · exact hs.contested_nodup_update j ((hs.contested_nodup j).sublist hcontested)

theorem insert {s : RunnerState} (hs : Accounted s) {row : Call}
    (hfresh : ∀ c ∈ s.rows, c.id ≠ row.id) (hqueued : row.status = .queued) :
    Accounted { s with rows := s.rows ++ [row] } := by
  refine ⟨?_, ?_, hs.dispatched, hs.dispatched_nodup, hs.owes, hs.settled, hs.contested,
    hs.contested_nodup, hs.conflicts⟩
  · intro c hc
    rcases List.mem_append.1 hc with hc | hc
    · exact hs.winner_iff c hc
    · obtain rfl : c = row := by simpa using hc
      refine iff_of_false (by rw [hqueued]; decide) fun h => ?_
      obtain ⟨c', hc', hid⟩ := hs.winner_row c.id h
      exact hfresh c' hc' hid
  · intro id h
    obtain ⟨c, hc, hid⟩ := hs.winner_row id h
    exact ⟨c, List.mem_append_left _ hc, hid⟩

/-- Rewriting one row within its liveness keeps the ghost fields right. -/
theorem winner_iff_modifyRow {s : RunnerState} (hs : Accounted s) {id : Uuid} {f : Call → Call}
    (hid : ∀ c ∈ s.rows, c.id = id → (f c).id = c.id)
    (hstatus : ∀ c ∈ s.rows, c.id = id → ((f c).status.Terminal ↔ c.status.Terminal)) :
    ∀ row ∈ modifyRow s.rows id f, row.status.Terminal ↔ s.winner row.id ≠ none := by
  intro row hrow
  obtain ⟨c, hc, rfl⟩ := mem_modifyRow hrow
  by_cases hcid : c.id = id
  · rw [if_pos hcid, hid c hc hcid, hstatus c hc hcid]
    exact hs.winner_iff c hc
  · rw [if_neg hcid]
    exact hs.winner_iff c hc

theorem step (cfg : RunnerSettings) (s : RunnerState) (e : RunnerEvent) (t : RunnerState)
    (hcons : Consistent s) (hs : Accounted s) (he : e ≠ .crash)
    (h : (runnerSystem cfg).step s e = some t) : Accounted t := by
  cases effect_of_step h with
  | unchanged => exact hs
  | quiet _ j task hmove =>
      exact hs.quiet rfl rfl rfl rfl rfl hmove.owes_old hmove.owes_new hmove.contested
  | create data id now row hfresh hqueued => exact hs.insert hfresh hqueued
  | claim j k diskOk now row new hidle hrow hqueued hid hnew =>
      have hfree : s.winner row.id = none :=
        hs.winner_eq_none hrow (by rw [hqueued]; decide)
      have hself : ∀ c ∈ s.rows, c.id = row.id → c = row := fun c hc h => hcons.row_unique hc hrow h
      refine hs.move rfl rfl rfl hs.conflicts ?_ ?_ (by rw [hidle]; rfl) rfl ?_
        (List.nodup_singleton _)
      · refine hs.winner_iff_modifyRow (fun c _ h => hid.trans h.symm) fun c hc h => ?_
        rw [hself c hc h, hnew, hqueued]
        decide
      · exact map_id_modifyRow s.rows fun c _ h => hid.trans h.symm
      · intro id' hid'
        obtain rfl : id' = row.id := List.mem_singleton.1 hid'
        rw [hfree]
        exact fun h => by cases h
  | refuse j k diskOk now row new hidle hrow hqueued hid hnew =>
      have hfree : s.winner row.id = none :=
        hs.winner_eq_none hrow (by rw [hqueued]; decide)
      have hterminal : new.status.Terminal := by rw [hnew]; exact CallStatus.terminal_failed
      have howes : (s.tasks j).owes = none := by rw [hidle]; rfl
      rw [RunnerState.recordWinner, if_pos CallStatus.terminal_failed]
      exact hs.win rfl rfl rfl rfl rfl hid hterminal ⟨row, hrow, rfl⟩ hfree howes rfl
        (List.nil_sublist _) List.not_mem_nil
  | commit j now id tr row todo hwork hrow hid hbody =>
      have hlegal := (Transition.body_eq_some hbody).1
      have hlive : s.winner id = none :=
        hid ▸ hs.winner_eq_none hrow (CallStatus.not_terminal_of_legal hlegal)
      have hnewid : (applyStatements row todo).id = id := (id_applyStatements row todo).trans hid
      have hstatus := Transition.status_of_body hbody
      have howes : (s.tasks j).owes = none :=
        Task.owes_of_work (by rw [hwork]; exact Option.some_ne_none _)
      obtain ⟨hsub, hnot⟩ := Task.contested_committed row hwork (hs.contested_nodup j)
      rcases Task.committed_cases cfg.callConcurrencyLimit row hwork with
        ⟨hterminal, -, howes'⟩ | ⟨hnonterminal, hdriven, -, howes', -⟩
      · rw [RunnerState.recordWinner, if_pos (by rwa [hstatus])]
        exact hs.win rfl rfl rfl rfl rfl hnewid (by rwa [hstatus]) ⟨row, hrow, hid⟩ hlive howes
          howes' hsub (hnot (by rw [howes']; exact Option.some_ne_none _))
      · rw [RunnerState.recordWinner, if_neg (by rwa [hstatus])]
        refine hs.move rfl rfl rfl hs.conflicts ?_ ?_ howes howes'
          (fun id' hid' => hs.contested j id' (hsub.subset hid'))
          ((hs.contested_nodup j).sublist hsub)
        · refine hs.winner_iff_modifyRow (fun c _ h => hnewid.trans h.symm) fun c hc h => ?_
          rw [hcons.row_unique hc hrow (h.trans hid.symm), hstatus]
          exact iff_of_false hnonterminal (CallStatus.not_terminal_of_legal hlegal)
        · exact map_id_modifyRow s.rows fun c _ h => hnewid.trans h.symm
  | refused j now id tr row conflicts hwork hrow hid hillegal hconflicts =>
      obtain ⟨hterminal, -⟩ := hcons.refused hwork hrow hid hillegal
      have hwork' : (s.tasks j).work ≠ none := by rw [hwork]; exact Option.some_ne_none _
      obtain ⟨hsub, howes'⟩ := Task.contested_refused hwork'
      refine hs.move rfl rfl rfl ?_ hs.winner_iff rfl (Task.owes_of_work hwork') howes'
        (fun id' hid' => hs.contested j id' (hsub.subset hid'))
        ((hs.contested_nodup j).sublist hsub)
      intro id' k hk
      rcases hconflicts with rfl | ⟨hearly, rfl⟩
      · exact hs.conflicts id' k hk
      · rcases List.mem_cons.1 hk with heq | hk
        · cases heq
          have hlost := hs.contested j id (Task.mem_contested_of_conflict hwork hterminal hearly)
          obtain ⟨l, hl⟩ := Option.ne_none_iff_exists'.1
            (hid ▸ (hs.winner_iff row hrow).1 hterminal)
          exact ⟨l, hl, fun h => hlost (h ▸ hl)⟩
        · exact hs.conflicts id' k hk
  | upload k id endReason hphase =>
      refine hs.quiet rfl rfl rfl rfl rfl (by rw [hphase]; rfl) rfl ?_
      rw [hphase]
      exact List.Sublist.refl _
  | dispatch j id next hphase => exact hs.dispatch hphase
  | list _ j task hidle hdriven howes hlive hnodup =>
      refine hs.move rfl rfl rfl hs.conflicts hs.winner_iff rfl (by rw [hidle]; rfl) howes ?_
        (hnodup hcons.nodup)
      intro id hid
      obtain ⟨row, hrow, rfl, hnot⟩ := hlive id hid
      rw [hs.winner_eq_none hrow hnot]
      exact fun h => by cases h
  | delete j outcome id task f hmove hf =>
      refine hs.move rfl rfl rfl hs.conflicts ?_ ?_ hmove.owes_old hmove.owes_new
        (fun id' hid' => hs.contested j id' (hmove.contested.subset hid'))
        ((hs.contested_nodup j).sublist hmove.contested)
      · exact hs.winner_iff_modifyRow (fun c _ _ => (hf c).1) fun c _ _ => by rw [(hf c).2]
      · exact map_id_modifyRow s.rows fun c _ _ => (hf c).1
  | crash => exact absurd rfl he

end Accounted

theorem accounted_of_run (cfg : RunnerSettings) {s t : RunnerState} {es : List RunnerEvent}
    (hs : (runnerSystem cfg).init s) (hrun : (runnerSystem cfg).run s es = some t)
    (hcrash : .crash ∉ es) : Consistent t ∧ Accounted t := by
  have hmeets : (runnerSystem cfg).Meets (fun _ e => e ≠ .crash) s es :=
    TransitionSystem.meets_of_forall fun e he _ h => hcrash (h ▸ he)
  refine TransitionSystem.run_invariant_of_meets (P := fun s => Consistent s ∧ Accounted s) ?_
    ⟨Consistent.of_init hs, Accounted.of_init hs⟩ hmeets hrun
  intro s e t hs he hstep
  exact ⟨Consistent.step cfg s e t hs.1 hstep, Accounted.step cfg s e t hs.1 hs.2 he hstep⟩

/-- The webhook of a call has one sender: the task that made the call terminal. It has dispatched once,
or the dispatch is its next step. -/
def DispatchedOnce (t : RunnerState) (id : Uuid) : Prop :=
  ∃ j, t.winner id = some j ∧ (∀ k, (id, k) ∈ t.dispatched → k = j) ∧
    (((id, j) ∈ t.dispatched ∧ (t.dispatched.map Prod.fst).count id = 1 ∧
        (t.tasks j).owes ≠ some id) ∨
      ((t.tasks j).owes = some id ∧ (t.dispatched.map Prod.fst).count id = 0))

/-- Without a crash: every terminal call is dispatched once and by its winner, a dispatch is only ever
made for a terminal call, a task that lost a call neither dispatched for it nor will, and an owed
dispatch is always enabled. -/
theorem webhook_dispatched_once (cfg : RunnerSettings) {s t : RunnerState} {es : List RunnerEvent}
    (hs : (runnerSystem cfg).init s) (hrun : (runnerSystem cfg).run s es = some t)
    (hcrash : .crash ∉ es) :
    (∀ row ∈ t.rows, row.status.Terminal → DispatchedOnce t row.id) ∧
    (∀ id j, (id, j) ∈ t.dispatched → t.winner id = some j ∧
      ∃ row ∈ t.rows, row.id = id ∧ row.status.Terminal) ∧
    (∀ id j, (id, j) ∈ t.conflicts → (id, j) ∉ t.dispatched ∧ (t.tasks j).owes ≠ some id) ∧
    (∀ id j, (t.tasks j).owes = some id →
      ∃ u, (runnerSystem cfg).step t (.dispatch j) = some u ∧ (id, j) ∈ u.dispatched) := by
  obtain ⟨-, ht⟩ := accounted_of_run cfg hs hrun hcrash
  refine ⟨?_, ?_, ?_, ?_⟩
  · intro row hrow hterminal
    obtain ⟨j, hj⟩ := Option.ne_none_iff_exists'.1 ((ht.winner_iff row hrow).1 hterminal)
    have hsole : ∀ k, (row.id, k) ∈ t.dispatched → k = j := fun k hk =>
      Option.some.inj ((ht.dispatched row.id k hk).symm.trans hj)
    refine ⟨j, hj, hsole, ?_⟩
    by_cases howes : (t.tasks j).owes = some row.id
    · exact Or.inr ⟨howes, List.count_eq_zero.2 (ht.owes j row.id howes).2⟩
    · have hdone := (ht.settled row.id j hj).resolve_right howes
      have hmem : row.id ∈ t.dispatched.map Prod.fst := List.mem_map.2 ⟨_, hdone, rfl⟩
      exact Or.inl ⟨hdone, List.count_eq_one_of_mem ht.dispatched_nodup hmem, howes⟩
  · intro id j hdone
    have hwon := ht.dispatched id j hdone
    obtain ⟨row, hrow, rfl⟩ := ht.winner_row id (by rw [hwon]; exact Option.some_ne_none _)
    exact ⟨hwon, row, hrow, rfl, (ht.winner_iff row hrow).2 (by rw [hwon]; exact Option.some_ne_none _)⟩
  · intro id j hlost
    obtain ⟨k, hk, hne⟩ := ht.conflicts id j hlost
    refine ⟨fun h => ?_, fun h => ?_⟩
    · exact hne (Option.some.inj (hk.symm.trans (ht.dispatched id j h)))
    · exact hne (Option.some.inj (hk.symm.trans (ht.owes j id h).1))
  · intro id j howes
    cases hj : t.tasks j with
    | dispatching id' next =>
        rw [hj] at howes
        cases howes
        refine ⟨{ t.setTask j (Task.afterDispatch next) with
          dispatched := (id, j) :: t.dispatched }, ?_, List.mem_cons_self⟩
        change t.step cfg (.dispatch j) = _
        simp only [RunnerState.step, hj]
    | _ => rw [hj] at howes; cases howes

/-! ## A join that times out -/

def joinTimeout : List RunnerEvent :=
  [.create sampleCreate 7 0, .poll 0 1 true 1, .start 1, .exit 1 (some 4) none, .transact 1 600,
    .dispatch 1]

theorem joinTimeout_isSome :
    ((runnerSystem sampleSettings).run emptyRunner joinTimeout).isSome := by decide

def joinTimeoutState : RunnerState :=
  ((runnerSystem sampleSettings).run emptyRunner joinTimeout).get joinTimeout_isSome

theorem webhook_dispatched_once_joinTimeout :
    (∀ row ∈ joinTimeoutState.rows, row.status.Terminal →
      DispatchedOnce joinTimeoutState row.id) ∧
    (∀ id j, (id, j) ∈ joinTimeoutState.dispatched → joinTimeoutState.winner id = some j ∧
      ∃ row ∈ joinTimeoutState.rows, row.id = id ∧ row.status.Terminal) ∧
    (∀ id j, (id, j) ∈ joinTimeoutState.conflicts →
      (id, j) ∉ joinTimeoutState.dispatched ∧ (joinTimeoutState.tasks j).owes ≠ some id) ∧
    (∀ id j, (joinTimeoutState.tasks j).owes = some id →
      ∃ u, (runnerSystem sampleSettings).step joinTimeoutState (.dispatch j) = some u ∧
        (id, j) ∈ u.dispatched) :=
  webhook_dispatched_once sampleSettings (emptyRunner_init sampleSettings) (Option.some_get _).symm
    (by simp [joinTimeout])

end Notetaker

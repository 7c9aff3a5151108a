import Mathlib.Data.List.Basic
import Mathlib.Data.List.Chain

/-!
# Maximal runs of equal keys

`runs` cuts a list into its maximal runs of elements with one key. `extend` adds an element at the
end; it keeps the runs in reverse, so that the last run is the first of the list. `gather` is the loop
that keeps one value for each run, and merges an element into the last value or starts a new one.
-/

namespace MaximalRuns

variable {α κ : Type*} [DecidableEq κ] (key : α → κ)

def extend (reversed : List (List α)) (a : α) : List (List α) :=
  match reversed with
  | [] => [[a]]
  | run :: rest =>
      if run.head?.map key = some (key a) then (run ++ [a]) :: rest else [a] :: run :: rest

def runs (xs : List α) : List (List α) := (xs.foldl (extend key) []).reverse

theorem flatten_extend (reversed : List (List α)) (a : α) :
    (extend key reversed a).reverse.flatten = reversed.reverse.flatten ++ [a] := by
  unfold extend
  cases reversed with
  | nil => rfl
  | cons run rest =>
      dsimp only
      split_ifs <;> simp

theorem flatten_foldl_extend (xs : List α) (reversed : List (List α)) :
    (xs.foldl (extend key) reversed).reverse.flatten = reversed.reverse.flatten ++ xs := by
  induction xs generalizing reversed with
  | nil => simp
  | cons a xs ih => rw [List.foldl_cons, ih, flatten_extend, List.append_assoc, List.singleton_append]

theorem flatten_runs (xs : List α) : (runs key xs).flatten = xs := by
  rw [runs, flatten_foldl_extend]
  rfl

theorem extend_ne_nil {reversed : List (List α)} (h : ∀ run ∈ reversed, run ≠ []) (a : α) :
    ∀ run ∈ extend key reversed a, run ≠ [] := by
  unfold extend
  cases reversed with
  | nil => simp
  | cons run rest =>
      dsimp only
      split_ifs with hkey
      · intro run' hrun'
        rcases List.mem_cons.1 hrun' with rfl | hmem
        · simp
        · exact h run' (List.mem_cons_of_mem run hmem)
      · intro run' hrun'
        rcases List.mem_cons.1 hrun' with rfl | hmem
        · simp
        · exact h run' hmem

theorem foldl_extend_ne_nil (xs : List α) {reversed : List (List α)}
    (h : ∀ run ∈ reversed, run ≠ []) : ∀ run ∈ xs.foldl (extend key) reversed, run ≠ [] := by
  induction xs generalizing reversed with
  | nil => exact h
  | cons a xs ih => exact ih (extend_ne_nil key h a)

theorem ne_nil_of_mem_runs {xs run : List α} (h : run ∈ runs key xs) : run ≠ [] :=
  foldl_extend_ne_nil key xs (by simp) run (List.mem_reverse.1 h)

/-- What `extend` preserves holds of the runs, in reverse. -/
theorem foldl_extend_induction {P : List (List α) → Prop} (hnil : P [])
    (hextend : ∀ reversed a, P reversed → P (extend key reversed a)) (xs : List α) :
    P (xs.foldl (extend key) []) := by
  have hfold : ∀ reversed, P reversed → P (xs.foldl (extend key) reversed) := by
    induction xs with
    | nil => exact fun _ h => h
    | cons a xs ih => exact fun reversed h => ih _ (hextend reversed a h)
  exact hfold [] hnil

/-- All elements of a run have the key of its first. -/
def Uniform (run : List α) : Prop := ∀ a ∈ run, run.head?.map key = some (key a)

theorem extend_uniform {reversed : List (List α)} (h : ∀ run ∈ reversed, Uniform key run) (a : α) :
    ∀ run ∈ extend key reversed a, Uniform key run := by
  have hsingle : Uniform key [a] := by
    intro b hb
    rw [List.mem_singleton.1 hb]
    rfl
  unfold extend
  cases reversed with
  | nil => simpa using hsingle
  | cons run rest =>
      obtain ⟨hrun, hrest⟩ := List.forall_mem_cons.1 h
      dsimp only
      split_ifs with hkey
      · refine List.forall_mem_cons.2 ⟨?_, hrest⟩
        have hhead : (run ++ [a]).head?.map key = some (key a) := by
          cases run with
          | nil => rfl
          | cons b run => exact hkey
        intro b hb
        rcases List.mem_append.1 hb with hb | hb
        · rw [hhead, ← hkey, hrun b hb]
        · rw [hhead, List.mem_singleton.1 hb]
      · exact List.forall_mem_cons.2 ⟨hsingle, h⟩

theorem uniform_of_mem_runs {xs run : List α} (h : run ∈ runs key xs) : Uniform key run := by
  have hall : ∀ run ∈ xs.foldl (extend key) [], Uniform key run := by
    apply foldl_extend_induction key (P := fun reversed => ∀ run ∈ reversed, Uniform key run)
    · simp
    · exact fun _ a h => extend_uniform key h a
  exact hall run (List.mem_reverse.1 h)

/-- Neighbouring runs differ in their keys. -/
def Separated (run next : List α) : Prop := run.head?.map key ≠ next.head?.map key

theorem extend_separated {reversed : List (List α)} (hne : ∀ run ∈ reversed, run ≠ [])
    (h : reversed.IsChain (Separated key)) (a : α) :
    (extend key reversed a).IsChain (Separated key) := by
  unfold extend
  cases reversed with
  | nil => exact List.isChain_singleton _
  | cons run rest =>
      dsimp only
      split_ifs with hkey
      · have hhead : (run ++ [a]).head? = run.head? := by
          rw [List.head?_append_of_ne_nil _ (hne run (by simp))]
        cases rest with
        | nil => exact List.isChain_singleton _
        | cons next rest =>
            rw [List.isChain_cons_cons] at h ⊢
            refine ⟨?_, h.2⟩
            rw [Separated, hhead]
            exact h.1
      · rw [List.isChain_cons_cons]
        exact ⟨Ne.symm hkey, h⟩

theorem runs_separated (xs : List α) : (runs key xs).IsChain (Separated key) := by
  have hchain := foldl_extend_induction key
    (P := fun reversed => (∀ run ∈ reversed, run ≠ []) ∧ reversed.IsChain (Separated key))
    ⟨by simp, List.isChain_nil⟩
    (fun _ a h => ⟨extend_ne_nil key h.1 a, extend_separated key h.1 h.2 a⟩) xs
  rw [runs, List.isChain_reverse]
  apply List.IsChain.imp _ hchain.2
  exact fun _ _ => Ne.symm

/-- The elements of a run join it one by one. -/
theorem foldl_extend_same {run as : List α} {k : κ} (hrun : run.head?.map key = some k)
    (has : ∀ a ∈ as, key a = k) (reversed : List (List α)) :
    as.foldl (extend key) (run :: reversed) = (run ++ as) :: reversed := by
  induction as generalizing run with
  | nil => rw [List.append_nil, List.foldl_nil]
  | cons a as ih =>
      obtain ⟨ha, hrest⟩ := List.forall_mem_cons.1 has
      have hjoin : extend key (run :: reversed) a = (run ++ [a]) :: reversed := by
        unfold extend
        dsimp only
        rw [if_pos (by rw [hrun, ha])]
      have hhead : (run ++ [a]).head?.map key = some k := by
        cases run with
        | nil => cases hrun
        | cons b run => exact hrun
      rw [List.foldl_cons, hjoin, ih hhead hrest, List.append_assoc, List.singleton_append]

theorem foldl_extend_run {run : List α} (hne : run ≠ []) (hrun : Uniform key run)
    {reversed : List (List α)} (hlast : ∀ last ∈ reversed.head?, Separated key last run) :
    run.foldl (extend key) reversed = run :: reversed := by
  cases run with
  | nil => exact absurd rfl hne
  | cons a as =>
      have hstart : extend key reversed a = [a] :: reversed := by
        unfold extend
        cases reversed with
        | nil => rfl
        | cons last rest => exact if_neg (hlast last rfl)
      rw [List.foldl_cons, hstart]
      refine foldl_extend_same key (k := key a) rfl ?_ reversed
      intro b hb
      exact (Option.some.inj (hrun b (List.mem_cons_of_mem a hb))).symm

theorem foldl_extend_flatten {found reversed : List (List α)} (hne : ∀ run ∈ found, run ≠ [])
    (hfound : ∀ run ∈ found, Uniform key run) (hchain : found.IsChain (Separated key))
    (hlast : ∀ last ∈ reversed.head?, ∀ next ∈ found.head?, Separated key last next) :
    found.flatten.foldl (extend key) reversed = found.reverse ++ reversed := by
  induction found generalizing reversed with
  | nil => rfl
  | cons run found ih =>
      obtain ⟨hrunne, hne⟩ := List.forall_mem_cons.1 hne
      obtain ⟨hrun, hfound⟩ := List.forall_mem_cons.1 hfound
      rw [List.flatten_cons, List.foldl_append,
        foldl_extend_run key hrunne hrun fun last hmem => hlast last hmem run rfl]
      rw [List.isChain_cons] at hchain
      have hnext : ∀ last ∈ (run :: reversed).head?, ∀ next ∈ found.head?,
          Separated key last next := by
        rintro _ ⟨⟩
        exact hchain.1
      rw [ih hne hfound hchain.2 hnext, List.reverse_cons, List.append_assoc, List.singleton_append]

/-- There is no other way to cut a list into separated runs of one key. -/
theorem runs_flatten {found : List (List α)} (hne : ∀ run ∈ found, run ≠ [])
    (hfound : ∀ run ∈ found, Uniform key run) (hchain : found.IsChain (Separated key)) :
    runs key found.flatten = found := by
  rw [runs, foldl_extend_flatten key hne hfound hchain (by simp), List.append_nil,
    List.reverse_reverse]

/-- Runs of the images under a map that keeps the keys. -/
theorem runs_map {β : Type*} {f : α → β} {label : β → κ} (hlabel : ∀ a, label (f a) = key a)
    (xs : List α) : runs label (xs.map f) = (runs key xs).map (List.map f) := by
  have hhead : ∀ run : List α, (run.map f).head?.map label = run.head?.map key := by
    intro run
    cases run with
    | nil => rfl
    | cons a run => exact congrArg some (hlabel a)
  have hflatten : ((runs key xs).map (List.map f)).flatten = xs.map f := by
    rw [← List.map_flatten, flatten_runs]
  rw [← hflatten]
  apply runs_flatten
  · intro run hrun
    obtain ⟨run', hrun', rfl⟩ := List.mem_map.1 hrun
    exact mt List.map_eq_nil_iff.1 (ne_nil_of_mem_runs key hrun')
  · intro run hrun
    obtain ⟨run', hrun', rfl⟩ := List.mem_map.1 hrun
    intro b hb
    obtain ⟨a, ha, rfl⟩ := List.mem_map.1 hb
    rw [hhead, hlabel]
    exact uniform_of_mem_runs key hrun' a ha
  · rw [List.isChain_map]
    apply List.IsChain.imp _ (runs_separated key xs)
    intro run next hne
    rwa [Separated, hhead, hhead]

/-! ## Values of runs -/

section Gather

variable {β : Type*} (start : α → Option β) (merge : β → α → Option β) (label : β → κ)

def gather (reversed : List β) (a : α) : Option (List β) :=
  match reversed with
  | [] => do return [← start a]
  | last :: rest =>
      if label last = key a then do return (← merge last a) :: rest
      else do return (← start a) :: last :: rest

def value : List α → Option β
  | [] => none
  | a :: as => (start a).bind fun b => as.foldlM merge b

theorem value_append {run : List α} (h : run ≠ []) (a : α) :
    value start merge (run ++ [a]) = (value start merge run).bind fun b => merge b a := by
  cases run with
  | nil => exact absurd rfl h
  | cons b run =>
      cases hstart : start b with
      | none => simp [value, hstart]
      | some c =>
          rw [List.cons_append, value, value, hstart, Option.bind_some, Option.bind_some,
            List.foldlM_append]
          cases hfold : List.foldlM merge c run with
          | none => rfl
          | some d => cases hmerge : merge d a <;> simp [hmerge]

variable {key start merge label}

omit [DecidableEq κ] in
theorem label_foldlM (hmerge : ∀ b a c, merge b a = some c → label c = label b) {b c : β}
    {as : List α} (h : as.foldlM merge b = some c) : label c = label b := by
  induction as generalizing b with
  | nil =>
      cases h
      rfl
  | cons a as ih =>
      obtain ⟨d, hd, hrest⟩ := Option.bind_eq_some_iff.1 h
      rw [ih hrest, hmerge b a d hd]

omit [DecidableEq κ] in
theorem label_value (hstart : ∀ a b, start a = some b → label b = key a)
    (hmerge : ∀ b a c, merge b a = some c → label c = label b) {run : List α} {b : β}
    (h : value start merge run = some b) : run.head?.map key = some (label b) := by
  cases run with
  | nil => cases h
  | cons a as =>
      obtain ⟨c, hc, hfold⟩ := Option.bind_eq_some_iff.1 h
      rw [label_foldlM hmerge hfold, hstart a c hc]
      rfl

theorem gather_eq_mapM (hstart : ∀ a b, start a = some b → label b = key a)
    (hmerge : ∀ b a c, merge b a = some c → label c = label b) {reversed : List (List α)}
    (hne : ∀ run ∈ reversed, run ≠ []) {values : List β}
    (h : reversed.mapM (value start merge) = some values) (a : α) :
    gather key start merge label values a =
      (extend key reversed a).mapM (value start merge) := by
  cases reversed with
  | nil =>
      cases h
      cases hs : start a <;> simp [gather, extend, value, hs]
  | cons run rest =>
      rw [List.mapM_cons] at h
      obtain ⟨last, hlast, h⟩ := Option.bind_eq_some_iff.1 h
      obtain ⟨others, hothers, h⟩ := Option.bind_eq_some_iff.1 h
      cases h
      have hlabel := label_value hstart hmerge hlast
      have hiff : run.head?.map key = some (key a) ↔ label last = key a := by
        rw [hlabel, Option.some.injEq]
      unfold gather extend
      dsimp only
      by_cases hkey : label last = key a
      · rw [if_pos hkey, if_pos (hiff.2 hkey), List.mapM_cons,
          value_append start merge (hne run (by simp)), hlast, hothers]
        cases hm : merge last a <;> simp [hm]
      · rw [if_neg hkey, if_neg (mt hiff.1 hkey), List.mapM_cons, List.mapM_cons, hlast, hothers]
        cases hs : start a <;> simp [value, hs]

theorem mapM_extend_eq_none {reversed : List (List α)} (hne : ∀ run ∈ reversed, run ≠ [])
    (h : reversed.mapM (value start merge) = none) (a : α) :
    (extend key reversed a).mapM (value start merge) = none := by
  cases reversed with
  | nil => cases h
  | cons run rest =>
      unfold extend
      dsimp only
      rw [List.mapM_cons] at h
      split_ifs
      · rw [List.mapM_cons, value_append start merge (hne run (by simp))]
        cases hrun : value start merge run with
        | none => rfl
        | some b =>
            have hrest : rest.mapM (value start merge) = none := by
              cases hr : rest.mapM (value start merge) with
              | none => rfl
              | some values => simp [hrun, hr] at h
            cases hm : merge b a <;> simp [hm, hrest]
      · rw [List.mapM_cons, List.mapM_cons, h]
        cases value start merge [a] <;> rfl

theorem mapM_foldl_extend_eq_none (xs : List α) {reversed : List (List α)}
    (hne : ∀ run ∈ reversed, run ≠ []) (h : reversed.mapM (value start merge) = none) :
    (xs.foldl (extend key) reversed).mapM (value start merge) = none := by
  induction xs generalizing reversed with
  | nil => exact h
  | cons a xs ih => exact ih (extend_ne_nil key hne a) (mapM_extend_eq_none hne h a)

theorem foldlM_gather (hstart : ∀ a b, start a = some b → label b = key a)
    (hmerge : ∀ b a c, merge b a = some c → label c = label b) (xs : List α)
    {reversed : List (List α)} (hne : ∀ run ∈ reversed, run ≠ []) {values : List β}
    (h : reversed.mapM (value start merge) = some values) :
    xs.foldlM (gather key start merge label) values =
      (xs.foldl (extend key) reversed).mapM (value start merge) := by
  induction xs generalizing reversed values with
  | nil => exact h.symm
  | cons a xs ih =>
      have hne' := extend_ne_nil key hne a
      rw [List.foldlM_cons, List.foldl_cons, gather_eq_mapM hstart hmerge hne h a]
      cases hstep : (extend key reversed a).mapM (value start merge) with
      | some values' => exact ih hne' hstep
      | none =>
          rw [mapM_foldl_extend_eq_none xs hne' hstep]
          rfl

/-- The loop computes the values of the maximal runs. -/
theorem foldlM_gather_nil (hstart : ∀ a b, start a = some b → label b = key a)
    (hmerge : ∀ b a c, merge b a = some c → label c = label b) (xs : List α) :
    xs.foldlM (gather key start merge label) [] =
      (runs key xs).reverse.mapM (value start merge) := by
  have hne : ∀ run ∈ ([] : List (List α)), run ≠ [] := by simp
  rw [runs, List.reverse_reverse]
  exact foldlM_gather hstart hmerge xs hne rfl

end Gather
end MaximalRuns

import Mathlib.Data.List.Forall2
import Notetaker.TextRegex

/-!
# What a match spans

`Spans r p w t` says that `r` may match the text `w` between the character `p` and the rest `t`. Each
end that the engine finds spans what it consumes; where nothing is spanned there is no match. In the
other direction come the first ends of the expressions that are used greedily.
-/

open PythonText

namespace TextRegex

variable {d : Dialect}

/-- The rounds of a repetition are taken apart from their surroundings. -/
def Spans (d : Dialect) : TextRegex → Option Char → Text → Text → Prop
  | empty, _, w, _ => w = []
  | atom a, _, w, _ => ∃ x, w = [x] ∧ d.accepts a x
  | seq r s, p, w, t => ∃ u v, w = u ++ v ∧ Spans d r p u (v ++ t) ∧
      Spans d s (u.getLast?.or p) v t
  | alt r s, p, w, t => Spans d r p w t ∨ Spans d s p w t
  | star r, _, w, _ => ∃ us : List Text, w = us.flatten ∧ ∀ u ∈ us, ∃ p t, Spans d r p u t
  | group r, p, w, t => Spans d r p w t
  | start, p, w, _ => w = [] ∧ p = none
  | stop, _, w, t => w = [] ∧ d.atStop t
  | boundary, p, w, t => w = [] ∧ atBoundary d ⟨p, t, none⟩

/-- The end is behind a text that the expression spans. -/
def EndsBehind (d : Dialect) (r : TextRegex) (c e : Cursor) : Prop :=
  ∃ w, c.rest = w ++ e.rest ∧ e.previous = w.getLast?.or c.previous ∧
    Spans d r c.previous w e.rest

theorem endsBehind_starFrom {r : TextRegex}
    (h : ∀ {c e : Cursor}, e ∈ r.ends d c → EndsBehind d r c e) {n : ℕ} {c e : Cursor}
    (he : e ∈ starFrom (r.ends d) n c) : EndsBehind d (star r) c e := by
  have hnone : EndsBehind d (star r) c c :=
    ⟨[], rfl, by simp, [], rfl, fun u hu => absurd hu List.not_mem_nil⟩
  induction n generalizing c with
  | zero =>
      obtain rfl := List.mem_singleton.1 he
      exact hnone
  | succ n ih =>
      rw [starFrom_succ, List.mem_append, List.mem_flatMap] at he
      rcases he with ⟨m, hm, he⟩ | he
      · obtain ⟨u, hu, hprevious, hspans⟩ := h (List.mem_of_mem_filter hm)
        have hstop : EndsBehind d (star r) m m :=
          ⟨[], rfl, by simp, [], rfl, fun u hu => absurd hu List.not_mem_nil⟩
        obtain ⟨v, hv, hlast, us, rfl, hus⟩ := ih he hstop
        refine ⟨u ++ us.flatten, ?_, ?_, u :: us, rfl, ?_⟩
        · rw [hu, hv, List.append_assoc]
        · rw [hlast, hprevious, List.getLast?_append, Option.or_assoc]
        · exact List.forall_mem_cons.2 ⟨⟨_, _, hspans⟩, hus⟩
      · obtain rfl := List.mem_singleton.1 he
        exact hnone

theorem endsBehind_of_mem {r : TextRegex} {c e : Cursor} (h : e ∈ r.ends d c) :
    EndsBehind d r c e := by
  induction r generalizing c e with
  | empty =>
      obtain rfl := List.mem_singleton.1 h
      exact ⟨[], rfl, by simp, rfl⟩
  | atom a =>
      obtain ⟨previous, rest, captured⟩ := c
      cases rest with
      | nil => cases h
      | cons x rest =>
          rw [ends_atom_cons] at h
          split_ifs at h with hx
          · obtain rfl := List.mem_singleton.1 h
            exact ⟨[x], rfl, rfl, x, rfl, hx⟩
          · cases h
  | seq r s ihr ihs =>
      obtain ⟨m, hm, he⟩ := List.mem_flatMap.1 h
      obtain ⟨u, hu, hprevious, hr⟩ := ihr hm
      obtain ⟨v, hv, hlast, hs⟩ := ihs he
      refine ⟨u ++ v, ?_, ?_, u, v, rfl, ?_, ?_⟩
      · rw [hu, hv, List.append_assoc]
      · rw [hlast, hprevious, List.getLast?_append, Option.or_assoc]
      · rwa [← hv]
      · rwa [← hprevious]
  | alt r s ihr ihs =>
      rcases List.mem_append.1 h with h | h
      · obtain ⟨w, hw, hprevious, hr⟩ := ihr h
        exact ⟨w, hw, hprevious, .inl hr⟩
      · obtain ⟨w, hw, hprevious, hs⟩ := ihs h
        exact ⟨w, hw, hprevious, .inr hs⟩
  | star r ih => exact endsBehind_starFrom ih h
  | group r ih =>
      obtain ⟨m, hm, rfl⟩ := List.mem_map.1 h
      obtain ⟨w, hw, hprevious, hr⟩ := ih hm
      exact ⟨w, hw, hprevious, hr⟩
  | start =>
      rw [ends_start] at h
      split_ifs at h with hstart
      · obtain rfl := List.mem_singleton.1 h
        exact ⟨[], rfl, by simp, rfl, hstart⟩
      · cases h
  | stop =>
      rw [ends_stop] at h
      split_ifs at h with hstop
      · obtain rfl := List.mem_singleton.1 h
        exact ⟨[], rfl, by simp, rfl, hstop⟩
      · cases h
  | boundary =>
      rw [ends_boundary] at h
      split_ifs at h with hboundary
      · obtain rfl := List.mem_singleton.1 h
        exact ⟨[], rfl, by simp, rfl, hboundary⟩
      · cases h

/-! ## The parts of an expression -/

theorem spans_literal_cons {c : Char} {cs : Text} {p : Option Char} {w t : Text}
    (h : Spans d (literal (c :: cs)) p w t) :
    ∃ x v, w = x :: v ∧ d.accepts (.char c) x ∧ ∃ q, Spans d (literal cs) q v t := by
  cases cs with
  | nil =>
      obtain ⟨x, rfl, hx⟩ := h
      exact ⟨x, [], rfl, hx, none, rfl⟩
  | cons c' cs =>
      obtain ⟨u, v, rfl, ⟨x, rfl, hx⟩, hs⟩ := h
      exact ⟨x, v, rfl, hx, _, hs⟩

theorem forall₂_of_spans_literal {cs : Text} {p : Option Char} {w t : Text}
    (h : Spans d (literal cs) p w t) : List.Forall₂ (fun c x => d.accepts (.char c) x) cs w := by
  induction cs generalizing p w with
  | nil =>
      obtain rfl : w = [] := h
      exact .nil
  | cons c cs ih =>
      obtain ⟨x, v, rfl, hx, q, hs⟩ := spans_literal_cons h
      exact .cons hx (ih hs)

theorem eq_of_spans_literal (hd : Exact d) {cs : Text} {p : Option Char} {w t : Text}
    (h : Spans d (literal cs) p w t) : w = cs := by
  have hall : List.Forall₂ (· = ·) cs w := by
    refine (forall₂_of_spans_literal h).imp fun c x hx => ?_
    rw [hd] at hx
    exact of_decide_eq_true hx
  rw [List.forall₂_eq_eq_eq] at hall
  exact hall.symm

theorem forall_of_spans_star_atom {a : Atom} {p : Option Char} {w t : Text}
    (h : Spans d (star (atom a)) p w t) : ∀ x ∈ w, d.accepts a x := by
  obtain ⟨us, rfl, hus⟩ := h
  intro x hx
  obtain ⟨u, hu, hxu⟩ := List.mem_flatten.1 hx
  obtain ⟨p, t, y, rfl, hy⟩ := hus u hu
  obtain rfl := List.mem_singleton.1 hxu
  exact hy

theorem spans_plus_atom {a : Atom} {p : Option Char} {w t : Text}
    (h : Spans d (plus (atom a)) p w t) : ∃ x v, w = x :: v ∧ ∀ y ∈ w, d.accepts a y := by
  obtain ⟨u, v, rfl, ⟨x, rfl, hx⟩, hv⟩ := h
  exact ⟨x, v, rfl, List.forall_mem_cons.2 ⟨hx, forall_of_spans_star_atom hv⟩⟩

theorem spans_upToThree_atom {a : Atom} {p : Option Char} {w t : Text}
    (h : Spans d (upToThree (atom a)) p w t) :
    w ≠ [] ∧ w.length ≤ 3 ∧ ∀ x ∈ w, d.accepts a x := by
  obtain ⟨u, v, rfl, ⟨x, rfl, hx⟩, hv⟩ := h
  rcases hv with ⟨u, v, rfl, ⟨y, rfl, hy⟩, hv⟩ | hv
  · rcases hv with ⟨z, rfl, hz⟩ | hv
    · simp [hx, hy, hz]
    · obtain rfl : v = [] := hv
      simp [hx, hy]
  · obtain rfl : v = [] := hv
    simp [hx]

/-! ## Searches -/

theorem spans_of_isSome_search {r : TextRegex} {s : Text} (h : (search d r s).isSome) :
    ∃ pre w post, s = pre ++ (w ++ post) ∧ Spans d r pre.getLast? w post := by
  obtain ⟨pre, post, rfl, hends⟩ := isSome_searchFrom_iff.1 h
  obtain ⟨e, he⟩ := List.exists_mem_of_ne_nil _ hends
  obtain ⟨w, hw, -, hspans⟩ := endsBehind_of_mem he
  rw [Option.or_none] at hspans
  exact ⟨pre, w, e.rest, by rw [← hw], hspans⟩

theorem spans_of_isSome_matchStart {r : TextRegex} {s : Text} (h : (matchStart d r s).isSome) :
    ∃ w post, s = w ++ post ∧ Spans d r none w post := by
  obtain ⟨e, he⟩ := List.exists_mem_of_ne_nil _ (List.isSome_head?.1 h)
  obtain ⟨w, hw, -, hspans⟩ := endsBehind_of_mem he
  exact ⟨w, e.rest, hw, hspans⟩

theorem spans_of_isSome_search_start {r : TextRegex} {s : Text}
    (h : (search d (seq start r) s).isSome) :
    ∃ w post, s = w ++ post ∧ Spans d r none w post := by
  obtain ⟨pre, w, post, rfl, u, v, rfl, ⟨rfl, hpre⟩, hspans⟩ := spans_of_isSome_search h
  obtain rfl : pre = [] := List.getLast?_eq_none_iff.1 hpre
  exact ⟨v, post, rfl, hspans⟩

/-! ## First ends -/

theorem head?_flatMap_of_cons {α β : Type} {xs ys : List α} {x : α} {f : α → List β} {b : β}
    (hxs : xs = x :: ys) (hb : (f x).head? = some b) : (xs.flatMap f).head? = some b := by
  rw [hxs, List.flatMap_cons, List.head?_append, hb]
  rfl

theorem ends_optional (r : TextRegex) (c : Cursor) :
    (optional r).ends d c = r.ends d c ++ [c] := rfl

theorem ends_group_of_cons {r : TextRegex} {p q : Option Char} {w rest : Text}
    {captured : Option Text} {cursors : List Cursor}
    (h : r.ends d ⟨p, w ++ rest, captured⟩ = ⟨q, rest, captured⟩ :: cursors) :
    ∃ others, (group r).ends d ⟨p, w ++ rest, captured⟩ = ⟨q, rest, some w⟩ :: others := by
  have htake : (w ++ rest).take ((w ++ rest).length - rest.length) = w := by
    rw [List.length_append, Nat.add_sub_cancel, List.take_left]
  rw [ends_group, h, List.map_cons]
  dsimp only
  rw [htake]
  exact ⟨_, rfl⟩

theorem ends_atom_of_not {a : Atom} {c : Cursor} (h : ∀ x ∈ c.rest.head?, d.accepts a x = false) :
    (atom a).ends d c = [] := by
  obtain ⟨previous, rest, captured⟩ := c
  cases rest with
  | nil => rfl
  | cons x rest =>
      have hx : d.accepts a x = false := h x rfl
      rw [ends_atom_cons, hx]
      rfl

theorem ends_star_atom_of_not {a : Atom} {c : Cursor}
    (h : ∀ x ∈ c.rest.head?, d.accepts a x = false) : (star (atom a)).ends d c = [c] := by
  rw [ends_star]
  cases c.rest.length with
  | zero => rfl
  | succ n =>
      rw [starFrom_succ, ends_atom_of_not h]
      rfl

theorem ends_upToThree_atom {a : Atom} {ds rest : Text} (hne : ds ≠ []) (hlength : ds.length ≤ 3)
    (hds : ∀ x ∈ ds, d.accepts a x) (hrest : ∀ x ∈ rest.head?, d.accepts a x = false)
    (previous : Option Char) (captured : Option Text) :
    ∃ cursors, (upToThree (atom a)).ends d ⟨previous, ds ++ rest, captured⟩ =
      ⟨ds.getLast?, rest, captured⟩ :: cursors := by
  have hstop : ∀ previous, (atom a).ends d ⟨previous, rest, captured⟩ = [] := fun _ =>
    ends_atom_of_not hrest
  rw [upToThree, ends_seq]
  rcases ds with - | ⟨x, - | ⟨y, - | ⟨z, - | ⟨w, ds⟩⟩⟩⟩
  · exact absurd rfl hne
  · refine ⟨[], ?_⟩
    rw [List.singleton_append, ends_atom_of_accepts (hds x (by simp)), List.flatMap_singleton,
      ends_optional, ends_seq, hstop, List.flatMap_nil]
    rfl
  · refine ⟨[⟨some x, y :: rest, captured⟩], ?_⟩
    rw [List.cons_append, ends_atom_of_accepts (hds x (by simp)), List.flatMap_singleton,
      ends_optional, ends_seq, List.singleton_append, ends_atom_of_accepts (hds y (by simp)),
      List.flatMap_singleton, ends_optional, hstop]
    rfl
  · refine ⟨[⟨some y, z :: rest, captured⟩, ⟨some x, y :: z :: rest, captured⟩], ?_⟩
    rw [List.cons_append, ends_atom_of_accepts (hds x (by simp)), List.flatMap_singleton,
      ends_optional, ends_seq, List.cons_append, ends_atom_of_accepts (hds y (by simp)),
      List.flatMap_singleton, ends_optional, List.singleton_append,
      ends_atom_of_accepts (hds z (by simp))]
    rfl
  · simp only [List.length_cons] at hlength
    omega

end TextRegex

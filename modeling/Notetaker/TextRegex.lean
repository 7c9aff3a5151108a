import Mathlib.Data.List.Forall2
import Notetaker.PythonText

/-!
# Regular expressions with backtracking

`ends` lists where a match from a position may end, the preferred end first, so that the head of the
list is the match that a backtracking engine reports. What a literal, a class and an anchor accept is
the `Dialect` of the engine. One group is captured.
-/

open PythonText

/-- What stands for one character. -/
inductive Atom where
  | char (c : Char)
  | oneOf (cs : Text)
  | dot | digit | space | notSpace

inductive TextRegex where
  | empty
  | atom (a : Atom)
  | seq (r s : TextRegex)
  | alt (r s : TextRegex)
  | star (r : TextRegex)
  | group (r : TextRegex)
  | start | stop | boundary

structure Dialect where
  accepts : Atom → Char → Bool
  /-- The characters of words, for `\b`. -/
  isWord : Char → Bool
  /-- Whether `$` matches before this rest. -/
  atStop : Text → Bool

structure Cursor where
  previous : Option Char
  rest : Text
  captured : Option Text

namespace TextRegex

def literal : Text → TextRegex
  | [] => empty
  | [c] => atom (.char c)
  | c :: cs => seq (atom (.char c)) (literal cs)

instance : Coe String TextRegex := ⟨fun s => literal s.toList⟩

def sequence : List TextRegex → TextRegex
  | [] => empty
  | [r] => r
  | r :: rs => seq r (sequence rs)

def anyOf : List TextRegex → TextRegex
  | [] => empty
  | [r] => r
  | r :: rs => alt r (anyOf rs)

/-- `r?` -/
def optional (r : TextRegex) : TextRegex := alt r empty

/-- `r+` -/
def plus (r : TextRegex) : TextRegex := seq r (star r)

/-- `r{1,3}` -/
def upToThree (r : TextRegex) : TextRegex := seq r (optional (seq r (optional r)))

/-- `.*` -/
def anything : TextRegex := star (atom .dot)

/-- `\s*` -/
def spaces : TextRegex := star (atom .space)

variable (d : Dialect)

def atBoundary (c : Cursor) : Bool := c.previous.any d.isWord != c.rest.head?.any d.isWord

/-- The greedy repetition, whose rounds all make progress. -/
def starFrom (step : Cursor → List Cursor) : ℕ → Cursor → List Cursor
  | 0, c => [c]
  | n + 1, c =>
      ((step c).filter (·.rest.length < c.rest.length)).flatMap (starFrom step n) ++ [c]

def ends : TextRegex → Cursor → List Cursor
  | empty, c => [c]
  | atom a, c =>
      match c.rest with
      | [] => []
      | x :: rest => if d.accepts a x then [{ c with previous := some x, rest := rest }] else []
  | seq r s, c => (ends r c).flatMap (ends s)
  | alt r s, c => ends r c ++ ends s c
  | star r, c => starFrom (ends r) c.rest.length c
  | group r, c =>
      (ends r c).map fun e =>
        { e with captured := some (c.rest.take (c.rest.length - e.rest.length)) }
  | start, c => if c.previous = none then [c] else []
  | stop, c => if d.atStop c.rest then [c] else []
  | boundary, c => if atBoundary d c then [c] else []

def matchStart (r : TextRegex) (s : Text) : Option Cursor := (r.ends d ⟨none, s, none⟩).head?

def searchFrom (r : TextRegex) : Option Char → Text → Option Cursor
  | previous, [] => (r.ends d ⟨previous, [], none⟩).head?
  | previous, x :: rest =>
      (r.ends d ⟨previous, x :: rest, none⟩).head?.or (searchFrom r (some x) rest)

def search (r : TextRegex) (s : Text) : Option Cursor := searchFrom d r none s

end TextRegex

/-! ## Dialects -/

/-- Equal up to the case of the letters of ASCII. -/
def sameLetter (c x : Char) : Bool := c.toLower = x.toLower

def javascriptSpace (c : Char) : Bool :=
  c.toNat = 0xfeff ∨ isSpace c ∧ c.toNat ∉ [0x1c, 0x1d, 0x1e, 0x1f, 0x85]

/-- A JavaScript regular expression with the flag `i`. -/
def javascriptIgnoreCase : Dialect where
  accepts
    | .char c, x => sameLetter c x
    | .oneOf cs, x => cs.any (sameLetter · x)
    | .dot, x => x.toNat ∉ [0xa, 0xd, 0x2028, 0x2029]
    | .digit, x => x.isDigit
    | .space, x => javascriptSpace x
    | .notSpace, x => !javascriptSpace x
  isWord := fun x => x.isAlphanum || x = '_'
  atStop := (· = [])

/-- Python's characters for `\w`; beyond ASCII they are a matter of the Unicode tables. -/
def pythonWord (isAlnum : Char → Bool) (c : Char) : Bool :=
  c.isAlphanum || c = '_' || 128 ≤ c.toNat && isAlnum c

def pythonAccepts (same : Char → Char → Bool) : Atom → Char → Bool
  | .char c, x => same c x
  | .oneOf cs, x => cs.any (same · x)
  | .dot, x => x ≠ '\n'
  | .digit, x => (digitValue x).isSome
  | .space, x => isSpace x
  | .notSpace, x => !isSpace x

def pythonRegex (isAlnum : Char → Bool) : Dialect where
  accepts := pythonAccepts (· = ·)
  isWord := pythonWord isAlnum
  atStop := fun rest => rest = [] ∨ rest = ['\n']

/-- With `re.IGNORECASE`, four letters beyond ASCII match an ASCII letter. -/
def pythonSameLetter (c x : Char) : Bool :=
  sameLetter c x || (c.toLower, x.toNat) ∈ [('i', 0x130), ('i', 0x131), ('s', 0x17f), ('k', 0x212a)]

def pythonIgnoreCase (isAlnum : Char → Bool) : Dialect :=
  { pythonRegex isAlnum with accepts := pythonAccepts pythonSameLetter }

namespace TextRegex

variable {d : Dialect}

/-! ### Case by case -/

theorem literal_singleton (c : Char) : literal [c] = atom (.char c) := rfl

theorem literal_cons_cons (c c' : Char) (cs : Text) :
    literal (c :: c' :: cs) = seq (atom (.char c)) (literal (c' :: cs)) := rfl

theorem starFrom_succ (step : Cursor → List Cursor) (n : ℕ) (c : Cursor) :
    starFrom step (n + 1) c =
      ((step c).filter (·.rest.length < c.rest.length)).flatMap (starFrom step n) ++ [c] := rfl

theorem ends_atom_cons (a : Atom) (x : Char) (previous : Option Char) (rest : Text)
    (captured : Option Text) :
    (atom a).ends d ⟨previous, x :: rest, captured⟩ =
      if d.accepts a x then [⟨some x, rest, captured⟩] else [] := rfl

theorem ends_seq (r s : TextRegex) (c : Cursor) :
    (seq r s).ends d c = (r.ends d c).flatMap (s.ends d) := rfl

theorem ends_star (r : TextRegex) (c : Cursor) :
    (star r).ends d c = starFrom (r.ends d) c.rest.length c := rfl

theorem ends_group (r : TextRegex) (c : Cursor) :
    (group r).ends d c = (r.ends d c).map fun e =>
      { e with captured := some (c.rest.take (c.rest.length - e.rest.length)) } := rfl

theorem ends_start (c : Cursor) : start.ends d c = if c.previous = none then [c] else [] := rfl

theorem ends_stop (c : Cursor) : stop.ends d c = if d.atStop c.rest then [c] else [] := rfl

theorem ends_boundary (c : Cursor) : boundary.ends d c = if atBoundary d c then [c] else [] := rfl

theorem searchFrom_nil (r : TextRegex) (previous : Option Char) :
    searchFrom d r previous [] = (r.ends d ⟨previous, [], none⟩).head? := rfl

theorem searchFrom_cons (r : TextRegex) (previous : Option Char) (x : Char) (rest : Text) :
    searchFrom d r previous (x :: rest) =
      (r.ends d ⟨previous, x :: rest, none⟩).head?.or (searchFrom d r (some x) rest) := rfl

/-! ### Searches -/

theorem getLast?_cons_or (x : Char) (pre : Text) (previous : Option Char) :
    (x :: pre).getLast?.or previous = pre.getLast?.or (some x) := by
  cases pre with
  | nil => rfl
  | cons y pre =>
      rw [List.getLast?_cons_cons, List.getLast?_eq_some_getLast (List.cons_ne_nil y pre)]
      rfl

theorem isSome_searchFrom_iff {r : TextRegex} {previous : Option Char} {s : Text} :
    (searchFrom d r previous s).isSome ↔ ∃ pre post, s = pre ++ post ∧
      r.ends d ⟨pre.getLast?.or previous, post, none⟩ ≠ [] := by
  induction s generalizing previous with
  | nil =>
      rw [searchFrom_nil, List.isSome_head?]
      constructor
      · intro h
        exact ⟨[], [], rfl, h⟩
      · rintro ⟨pre, post, hs, h⟩
        obtain ⟨rfl, rfl⟩ := List.append_eq_nil_iff.1 hs.symm
        exact h
  | cons x rest ih =>
      rw [searchFrom_cons, Option.isSome_or, Bool.or_eq_true, List.isSome_head?, ih]
      constructor
      · rintro (h | ⟨pre, post, rfl, h⟩)
        · exact ⟨[], x :: rest, rfl, h⟩
        · rw [← getLast?_cons_or x pre previous] at h
          exact ⟨x :: pre, post, rfl, h⟩
      · rintro ⟨pre, post, hs, h⟩
        cases pre with
        | nil =>
            obtain rfl : x :: rest = post := hs
            exact .inl h
        | cons y pre =>
            obtain ⟨rfl, rfl⟩ := List.cons.inj hs
            rw [getLast?_cons_or x pre previous] at h
            exact .inr ⟨pre, post, rfl, h⟩

/-- Where the expression matches behind no character of the head, the search starts behind it. -/
theorem searchFrom_append_of_skip {r : TextRegex} {previous : Option Char} {pre post : Text}
    (h : ∀ pre₁ pre₂, pre = pre₁ ++ pre₂ → pre₂ ≠ [] →
      r.ends d ⟨pre₁.getLast?.or previous, pre₂ ++ post, none⟩ = []) :
    searchFrom d r previous (pre ++ post) = searchFrom d r (pre.getLast?.or previous) post := by
  induction pre generalizing previous with
  | nil => rfl
  | cons x pre ih =>
      have hhead : r.ends d ⟨previous, x :: (pre ++ post), none⟩ = [] :=
        h [] (x :: pre) rfl (List.cons_ne_nil x pre)
      rw [List.cons_append, searchFrom_cons, hhead, List.head?_nil, Option.none_or, getLast?_cons_or]
      apply ih
      intro pre₁ pre₂ hpre hne
      have htail := h (x :: pre₁) pre₂ (by rw [hpre, List.cons_append]) hne
      rwa [getLast?_cons_or] at htail

theorem searchFrom_of_ends {r : TextRegex} {previous : Option Char} {s : Text} {c : Cursor}
    (h : (r.ends d ⟨previous, s, none⟩).head? = some c) : searchFrom d r previous s = some c := by
  cases s with
  | nil => exact h
  | cons x rest => rw [searchFrom_cons, h, Option.some_or]

theorem searchFrom_congr_previous {r : TextRegex}
    (h : ∀ p q s, r.ends d ⟨p, s, none⟩ = r.ends d ⟨q, s, none⟩) (p q : Option Char) (s : Text) :
    searchFrom d r p s = searchFrom d r q s := by
  cases s with
  | nil => rw [searchFrom_nil, searchFrom_nil, h p q]
  | cons x rest => rw [searchFrom_cons, searchFrom_cons, h p q]

/-! ### Literals and greedy repetitions -/

/-- A dialect in which a literal character stands for itself. -/
def Exact (d : Dialect) : Prop := ∀ c x, d.accepts (.char c) x = decide (c = x)

theorem exact_pythonRegex (isAlnum : Char → Bool) : Exact (pythonRegex isAlnum) := fun _ _ => rfl

theorem ends_char (hd : Exact d) (c x : Char) (previous : Option Char) (rest : Text)
    (captured : Option Text) :
    (atom (.char c)).ends d ⟨previous, x :: rest, captured⟩ =
      if c = x then [⟨some x, rest, captured⟩] else [] := by
  rw [ends_atom_cons, hd]
  simp

theorem ends_atom_of_accepts {a : Atom} {x : Char} (hx : d.accepts a x) (previous : Option Char)
    (rest : Text) (captured : Option Text) :
    (atom a).ends d ⟨previous, x :: rest, captured⟩ = [⟨some x, rest, captured⟩] := by
  rw [ends_atom_cons, if_pos hx]

theorem ends_literal_of_forall₂ {cs w : Text}
    (h : List.Forall₂ (fun c x => d.accepts (.char c) x) cs w) (rest : Text)
    (previous : Option Char) (captured : Option Text) :
    (literal cs).ends d ⟨previous, w ++ rest, captured⟩ =
      [⟨w.getLast?.or previous, rest, captured⟩] := by
  induction h generalizing previous with
  | nil => rfl
  | @cons c x cs w hx _ ih =>
      have hstep := ends_atom_of_accepts hx previous (w ++ rest) captured
      cases cs with
      | nil =>
          have hnil : [Cursor.mk (some x) (w ++ rest) captured] =
              [⟨w.getLast?.or (some x), rest, captured⟩] := ih (some x)
          rw [literal_singleton, List.cons_append, hstep, getLast?_cons_or, hnil]
      | cons c' cs =>
          rw [literal_cons_cons, ends_seq, List.cons_append, hstep, List.flatMap_singleton, ih,
            getLast?_cons_or]

theorem ends_literal (hd : Exact d) (cs rest : Text) (previous : Option Char)
    (captured : Option Text) :
    (literal cs).ends d ⟨previous, cs ++ rest, captured⟩ =
      [⟨cs.getLast?.or previous, rest, captured⟩] := by
  have hself : List.Forall₂ (fun c x => d.accepts (.char c) x) cs cs := by
    apply List.forall₂_same.2
    intro c _
    rw [hd c c]
    exact decide_eq_true rfl
  exact ends_literal_of_forall₂ hself rest previous captured

theorem prefix_of_ends_literal (hd : Exact d) {cs : Text} {cursor : Cursor}
    (h : (literal cs).ends d cursor ≠ []) : cs <+: cursor.rest := by
  obtain ⟨previous, s, captured⟩ := cursor
  induction cs generalizing previous s with
  | nil => exact List.nil_prefix
  | cons c cs ih =>
      cases s with
      | nil =>
          cases cs <;> exact absurd rfl h
      | cons x s =>
          by_cases hx : c = x
          · obtain rfl := hx
            cases cs with
            | nil => exact ⟨s, rfl⟩
            | cons c' cs =>
                rw [literal_cons_cons, ends_seq, ends_char hd, if_pos rfl, List.flatMap_singleton] at h
                exact (List.prefix_cons_inj c).2 (ih _ _ h)
          · cases cs with
            | nil =>
                rw [literal_singleton, ends_char hd, if_neg hx] at h
                exact absurd rfl h
            | cons c' cs =>
                rw [literal_cons_cons, ends_seq, ends_char hd, if_neg hx] at h
                exact absurd rfl h

theorem starFrom_atom {a : Atom} {z : Char} {xs : Text} (hxs : ∀ x ∈ xs, d.accepts a x)
    (hz : d.accepts a z) (previous captured) {n : ℕ} (hn : xs.length + 1 ≤ n) :
    ∃ cursors, starFrom ((atom a).ends d) n ⟨previous, xs ++ [z], captured⟩ =
      ⟨some z, [], captured⟩ :: ⟨xs.getLast?.or previous, [z], captured⟩ :: cursors := by
  have hstep : ∀ x (previous : Option Char) rest, d.accepts a x →
      ((atom a).ends d ⟨previous, x :: rest, captured⟩).filter
        (·.rest.length < (x :: rest).length) = [⟨some x, rest, captured⟩] := by
    intro x previous rest hx
    rw [ends_atom_of_accepts hx]
    simp
  induction xs generalizing previous n with
  | nil =>
      rw [List.length_nil] at hn
      obtain ⟨m, rfl⟩ : ∃ m, n = m + 1 := ⟨n - 1, by omega⟩
      have hend : starFrom ((atom a).ends d) m ⟨some z, [], captured⟩ =
          [⟨some z, [], captured⟩] := by
        cases m with
        | zero => rfl
        | succ m => rfl
      refine ⟨[], ?_⟩
      rw [List.nil_append, starFrom_succ, hstep z previous [] hz, List.flatMap_singleton, hend]
      rfl
  | cons x xs ih =>
      rw [List.length_cons] at hn
      obtain ⟨m, rfl⟩ : ∃ m, n = m + 1 := ⟨n - 1, by omega⟩
      have hm : xs.length + 1 ≤ m := by omega
      obtain ⟨hx, hxs⟩ := List.forall_mem_cons.1 hxs
      obtain ⟨cursors, hcursors⟩ := ih hxs (some x) hm
      refine ⟨cursors ++ [⟨previous, x :: (xs ++ [z]), captured⟩], ?_⟩
      rw [List.cons_append, starFrom_succ, hstep x previous (xs ++ [z]) hx, List.flatMap_singleton,
        hcursors, getLast?_cons_or]
      rfl

theorem head?_ends_star_char (hd : Exact d) {a : Atom} {z : Char} {xs : Text}
    (hxs : ∀ x ∈ xs, d.accepts a x) (hz : d.accepts a z) (previous : Option Char)
    (captured : Option Text) :
    ((seq (star (atom a)) (atom (.char z))).ends d ⟨previous, xs ++ [z], captured⟩).head? =
      some ⟨some z, [], captured⟩ := by
  have hlength : xs.length + 1 ≤ (xs ++ [z]).length := by simp
  obtain ⟨cursors, hcursors⟩ := starFrom_atom hxs hz previous captured hlength
  rw [ends_seq, ends_star, hcursors, List.flatMap_cons, List.flatMap_cons, ends_char hd, if_pos rfl]
  rfl

theorem ends_seq_congr {r s : TextRegex} {c c' : Cursor} (h : r.ends d c = r.ends d c') :
    (seq r s).ends d c = (seq r s).ends d c' := by
  rw [ends_seq, ends_seq, h]

theorem ends_literal_congr (c : Char) (cs : Text) (p q : Option Char) (s : Text)
    (captured : Option Text) :
    (literal (c :: cs)).ends d ⟨p, s, captured⟩ = (literal (c :: cs)).ends d ⟨q, s, captured⟩ := by
  have hletter : (atom (.char c)).ends d ⟨p, s, captured⟩ =
      (atom (.char c)).ends d ⟨q, s, captured⟩ := by
    cases s <;> rfl
  cases cs with
  | nil => exact hletter
  | cons c' cs =>
      rw [literal_cons_cons]
      exact ends_seq_congr hletter

/-! ### A literal between word boundaries -/

theorem infix_of_search_word (hd : Exact d) {cs s : Text}
    (h : (search d (.seq .boundary (.seq (literal cs) .boundary)) s).isSome) : cs <:+: s := by
  obtain ⟨pre, post, rfl, hends⟩ := isSome_searchFrom_iff.1 h
  have hliteral : (literal cs).ends d ⟨pre.getLast?.or none, post, none⟩ ≠ [] := by
    intro hnil
    apply hends
    rw [ends_seq, ends_boundary]
    split_ifs
    · rw [List.flatMap_singleton, ends_seq, hnil, List.flatMap_nil]
    · rfl
  exact (prefix_of_ends_literal hd hliteral).isInfix.trans ⟨pre, [], by simp⟩

theorem search_word (hd : Exact d) {pre cs post : Text}
    (hleft : atBoundary d ⟨pre.getLast?, cs ++ post, none⟩)
    (hright : atBoundary d ⟨cs.getLast?.or pre.getLast?, post, none⟩) :
    (search d (.seq .boundary (.seq (literal cs) .boundary)) (pre ++ (cs ++ post))).isSome := by
  apply isSome_searchFrom_iff.2
  refine ⟨pre, cs ++ post, rfl, ?_⟩
  rw [Option.or_none, ends_seq, ends_boundary, if_pos hleft, List.flatMap_singleton, ends_seq,
    ends_literal hd, List.flatMap_singleton, ends_boundary, if_pos hright]
  exact List.cons_ne_nil _ _

end TextRegex

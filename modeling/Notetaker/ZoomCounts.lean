import Mathlib.Data.List.Chain
import Notetaker.RegexSpans
import Notetaker.ZoomStates

/-!
# The participant counts that Zoom renders

The participants control shows its count in the accessible name, as `[n]`, or in its text, as `n` on a
line before `Participants`. Both forms are read back for counts of at most three digits. Nothing in the
patterns reads a larger count from them.
-/

open PythonText TextRegex

namespace Notetaker.Zoom

/-! ## Digits -/

/-- `\d` -/
def isDecimal (x : Char) : Bool := (digitValue x).isSome

theorem digitValue_of_isDigit {c : Char} (h : c.isDigit) : digitValue c = some (c.toNat - '0'.toNat) := by
  have hrange : 48 ≤ c.toNat ∧ c.toNat < 48 + 10 := by
    have hdigit := Char.isDigit_iff_toNat.1 h
    have hzero : '0'.toNat = 48 := rfl
    have hnine : '9'.toNat = 57 := rfl
    omega
  unfold digitValue decimalZeros
  rw [List.find?_cons_of_pos (by simpa using hrange)]
  rfl

theorem isDecimal_of_mem_natText {n : ℕ} {c : Char} (h : c ∈ natText n) : isDecimal c := by
  rw [isDecimal, digitValue_of_isDigit (isDigit_of_mem_natText h)]
  rfl

theorem intOfDigits_natText (n : ℕ) : intOfDigits (natText n) = n := by
  have hfold : ∀ (s : Text) (m : ℕ), (∀ c ∈ s, c.isDigit) →
      s.foldl (fun n c => 10 * n + (digitValue c).getD 0) m = Nat.ofDigitChars 10 s m := by
    intro s
    induction s with
    | nil => exact fun m _ => Nat.ofDigitChars_nil.symm
    | cons c s ih =>
        intro m hs
        obtain ⟨hc, hs⟩ := List.forall_mem_cons.1 hs
        rw [List.foldl_cons, Nat.ofDigitChars_cons, ih _ hs, digitValue_of_isDigit hc]
        rfl
  rw [intOfDigits, hfold _ _ fun c hc => isDigit_of_mem_natText hc, ofDigitChars_natText]

theorem length_natText_le_three_iff (n : ℕ) : (natText n).length ≤ 3 ↔ n < 1000 :=
  Nat.length_toDigits_le_iff (by decide) (by decide)

theorem isDecimal_of_isSpace {c : Char} (h : isSpace c) : isDecimal c = false := by
  have hspaces : ∀ m ∈ whitespace,
      (decimalZeros.find? fun z => z ≤ m ∧ m < z + 10) = none := by decide
  have hc : c.toNat ∈ whitespace := of_decide_eq_true h
  rw [isDecimal, digitValue, hspaces _ hc]
  rfl

/-- A decimal digit is no capital letter. -/
theorem toLower_of_isDecimal {c : Char} (h : isDecimal c) : c.toLower = c := by
  have hzeros : ∀ z ∈ decimalZeros, z + 10 ≤ 58 ∨ 91 ≤ z := by decide
  unfold isDecimal digitValue at h
  rw [Option.isSome_map] at h
  obtain ⟨z, hfind⟩ := Option.isSome_iff_exists.1 h
  have hz := hzeros z (List.mem_of_find?_eq_some hfind)
  have hfound := List.find?_some hfind
  have hrange : z ≤ c.toNat ∧ c.toNat < z + 10 := of_decide_eq_true hfound
  have hletter : ¬ (c.val ≥ 'A'.val ∧ c.val ≤ 'Z'.val) := by
    rintro ⟨hlow, hhigh⟩
    have hlow : 65 ≤ c.toNat := hlow
    have hhigh : c.toNat ≤ 90 := hhigh
    omega
  exact dif_neg hletter

/-! ## What the patterns span -/

/-- Neither a digit nor the bracket before one. -/
def Plain (x : Char) : Prop := isDecimal x = false ∧ x ≠ '['

instance (x : Char) : Decidable (Plain x) := inferInstanceAs (Decidable (_ ∧ _))

theorem plain_of_same {c x : Char} (hc : Plain c.toLower) (h : pythonSameLetter c x) : Plain x := by
  rw [pythonSameLetter, Bool.or_eq_true] at h
  rcases h with hsame | hspecial
  · replace hsame : c.toLower = x.toLower := of_decide_eq_true hsame
    rw [hsame] at hc
    constructor
    · by_contra hx
      have hdecimal : isDecimal x = true := (Bool.not_eq_false _).mp hx
      rw [toLower_of_isDecimal hdecimal] at hc
      exact hx hc.1
    · rintro rfl
      exact hc.2 rfl
  · replace hspecial := of_decide_eq_true hspecial
    have hcodes : ∀ m ∈ [0x130, 0x131, 0x17f, 0x212a],
        (decimalZeros.find? fun z => z ≤ m ∧ m < z + 10) = none ∧ m ≠ '['.toNat := by decide
    have hcode : x.toNat ∈ [0x130, 0x131, 0x17f, 0x212a] := by
      simp only [List.mem_cons, Prod.mk.injEq, List.not_mem_nil, or_false] at hspecial ⊢
      tauto
    obtain ⟨hfind, hne⟩ := hcodes _ hcode
    refine ⟨?_, fun hx => hne (congrArg Char.toNat hx)⟩
    rw [isDecimal, digitValue, hfind]
    rfl

theorem plain_of_isSpace {x : Char} (h : isSpace x) : Plain x := by
  refine ⟨isDecimal_of_isSpace h, ?_⟩
  rintro rfl
  exact absurd h (by decide)

/-- Every digit follows another digit or an opening bracket. -/
def Shielded (s : Text) : Prop :=
  s.IsChain fun z x => isDecimal x → z = '[' ∨ isDecimal z

section Patterns

variable {isAlnum : Char → Bool} {s : Text}

theorem plain_of_spans_literal {cs : Text} {p : Option Char} {w t : Text}
    (hcs : ∀ c ∈ cs, Plain c.toLower)
    (h : Spans (pythonIgnoreCase isAlnum) (literal cs) p w t) : ∀ x ∈ w, Plain x := by
  have hall := forall₂_of_spans_literal h
  clear h
  induction hall with
  | nil => exact fun x hx => absurd hx List.not_mem_nil
  | cons hx _ ih =>
      obtain ⟨hc, hcs⟩ := List.forall_mem_cons.1 hcs
      exact List.forall_mem_cons.2 ⟨plain_of_same hc hx, ih hcs⟩

theorem plain_of_spans_optional {cs : Text} {p : Option Char} {w t : Text}
    (hcs : ∀ c ∈ cs, Plain c.toLower)
    (h : Spans (pythonIgnoreCase isAlnum) (optional (literal cs)) p w t) : ∀ x ∈ w, Plain x := by
  rcases h with h | h
  · exact plain_of_spans_literal hcs h
  · obtain rfl : w = [] := h
    exact fun x hx => absurd hx List.not_mem_nil

/-- `participants?\s*\(?(\d+)\)?` needs a digit that follows a letter, a space or a parenthesis. -/
theorem search_participantCountText_eq_none (h : Shielded s) :
    search (pythonIgnoreCase isAlnum) participantCountText s = none := by
  rw [← Option.not_isSome_iff_eq_none]
  intro hfound
  obtain ⟨pre, w, post, rfl, u, v, rfl, hword, u', v', rfl, hs, u₃, v₃, rfl, hspaces, u₄, v₄, rfl,
    hparen, u₅, v₅, rfl, hdigits, -⟩ := spans_of_isSome_search hfound
  obtain ⟨x, ds, rfl, hdecimal⟩ := spans_plus_atom hdigits
  have hx : isDecimal x := hdecimal x List.mem_cons_self
  have hplain : ∀ y ∈ u ++ u' ++ u₃ ++ u₄, Plain y := by
    simp only [List.forall_mem_append]
    refine ⟨⟨⟨plain_of_spans_literal (forall_mem_of_all (by decide)) hword,
      plain_of_spans_optional (forall_mem_of_all (by decide)) hs⟩, ?_⟩,
      plain_of_spans_optional (forall_mem_of_all (by decide)) hparen⟩
    intro y hy
    exact plain_of_isSpace (forall_of_spans_star_atom hspaces y hy)
  have hne : u ++ u' ++ u₃ ++ u₄ ≠ [] := by
    obtain ⟨y, ys, rfl, -⟩ := spans_literal_cons hword
    simp
  obtain ⟨q, z, hq⟩ : ∃ q z, u ++ u' ++ u₃ ++ u₄ = q ++ [z] :=
    ⟨_, _, (List.dropLast_concat_getLast hne).symm⟩
  have hz : Plain z := hplain z (by rw [hq]; simp)
  have hsplit : pre ++ ((u ++ (u' ++ (u₃ ++ (u₄ ++ (x :: ds ++ v₅))))) ++ post) =
      (pre ++ q) ++ z :: x :: (ds ++ v₅ ++ post) := by
    rw [show u ++ (u' ++ (u₃ ++ (u₄ ++ (x :: ds ++ v₅)))) = u ++ u' ++ u₃ ++ u₄ ++ (x :: ds ++ v₅) by
      simp only [List.append_assoc], hq]
    simp
  rw [Shielded, hsplit, List.isChain_append_cons_cons] at h
  rcases h.2.1 hx with hbracket | hdecimal
  · exact hz.2 hbracket
  · rw [hz.1] at hdecimal
    cases hdecimal

/-- What `\[(\d{1,3})\]` finds. -/
theorem participantBracket_shape (h : (search (pythonRegex isAlnum) participantBracket s).isSome) :
    ∃ pre ds post, s = pre ++ '[' :: (ds ++ ']' :: post) ∧ ds ≠ [] ∧ ds.length ≤ 3 ∧
      ∀ x ∈ ds, isDecimal x := by
  obtain ⟨pre, w, post, rfl, u, v, rfl, hopen, ds, v', rfl, hdigits, hclose⟩ :=
    spans_of_isSome_search h
  obtain rfl := eq_of_spans_literal (exact_pythonRegex isAlnum) hopen
  obtain rfl := eq_of_spans_literal (exact_pythonRegex isAlnum) hclose
  obtain ⟨hne, hlength, hdecimal⟩ := spans_upToThree_atom hdigits
  refine ⟨pre, ds, post, ?_, hne, hlength, hdecimal⟩
  simp

/-- What `^\s*(\d{1,3})\s+participants?\b` finds. -/
theorem participantLeading_shape
    (h : (search (pythonIgnoreCase isAlnum) participantLeading s).isSome) :
    ∃ spaces ds x post, s = spaces ++ (ds ++ x :: post) ∧ (∀ y ∈ spaces, isSpace y) ∧ ds ≠ [] ∧
      ds.length ≤ 3 ∧ (∀ y ∈ ds, isDecimal y) ∧ isSpace x := by
  obtain ⟨w, post, rfl, u, v, rfl, hspaces, ds, v', rfl, hdigits, u₃, v₃, rfl, hgap, -⟩ :=
    spans_of_isSome_search_start h
  obtain ⟨hne, hlength, hdecimal⟩ := spans_upToThree_atom hdigits
  obtain ⟨x, gap, rfl, hall⟩ := spans_plus_atom hgap
  refine ⟨u, ds, x, gap ++ v₃ ++ post, by simp, forall_of_spans_star_atom hspaces, hne, hlength,
    hdecimal, hall x List.mem_cons_self⟩

/-- What `^\s*\(?\s*(\d{1,3})\s*\)?\s*$` finds. -/
theorem bareCount_shape (h : (matchStart (pythonRegex isAlnum) bareCount s).isSome) :
    ∃ head ds tail, s = head ++ (ds ++ tail) ∧ (∀ y ∈ head, isSpace y ∨ y = '(') ∧ ds ≠ [] ∧
      ds.length ≤ 3 ∧ (∀ y ∈ ds, isDecimal y) ∧ ∀ y ∈ tail, isSpace y ∨ y = ')' := by
  have hspaces : ∀ {p : Option Char} {w t : Text}, Spans (pythonRegex isAlnum) spaces p w t →
      ∀ y ∈ w, isSpace y := fun h => forall_of_spans_star_atom h
  have hoptional : ∀ {c : Char} {p : Option Char} {w t : Text},
      Spans (pythonRegex isAlnum) (optional (literal [c])) p w t → ∀ y ∈ w, y = c := by
    intro c p w t hspans y hy
    rcases hspans with hspans | hspans
    · obtain rfl := eq_of_spans_literal (exact_pythonRegex isAlnum) hspans
      exact List.mem_singleton.1 hy
    · obtain rfl : w = [] := hspans
      cases hy
  obtain ⟨w, post, rfl, u₁, v₁, rfl, ⟨rfl, -⟩, u₂, v₂, rfl, h₂, u₃, v₃, rfl, h₃, u₄, v₄, rfl, h₄,
    ds, v₅, rfl, hdigits, u₆, v₆, rfl, h₆, u₇, v₇, rfl, h₇, u₈, v₈, rfl, h₈, rfl, hstop⟩ :=
    spans_of_isSome_matchStart h
  obtain ⟨hne, hlength, hdecimal⟩ := spans_upToThree_atom hdigits
  have hpost : ∀ y ∈ post, isSpace y := by
    rcases of_decide_eq_true hstop with rfl | rfl
    · exact fun y hy => absurd hy List.not_mem_nil
    · intro y hy
      obtain rfl := List.mem_singleton.1 hy
      decide
  refine ⟨u₂ ++ u₃ ++ u₄, ds, u₆ ++ u₇ ++ u₈ ++ post, by simp, ?_, hne, hlength, hdecimal, ?_⟩
  · simp only [List.forall_mem_append]
    exact ⟨⟨fun y hy => .inl (hspaces h₂ y hy), fun y hy => .inr (hoptional h₃ y hy)⟩,
      fun y hy => .inl (hspaces h₄ y hy)⟩
  · simp only [List.forall_mem_append]
    exact ⟨⟨⟨fun y hy => .inl (hspaces h₆ y hy), fun y hy => .inr (hoptional h₇ y hy)⟩,
      fun y hy => .inl (hspaces h₈ y hy)⟩, fun y hy => .inl (hpost y hy)⟩

end Patterns

/-! ## The renderings -/

/-- The accessible name, with Zoom's spelling. -/
def participantsName (manage : Bool) (n : ℕ) : Text :=
  concat ["open the ", if manage then "manage " else "", "participants list pane,[", natText n,
    "] particpants"]

/-- The text of the control. -/
def participantsText (n : ℕ) : Text := concat [natText n, "\nParticipants"]

def nameHead (manage : Bool) : Text :=
  concat ["open the ", if manage then "manage " else "", "participants list pane,"]

theorem participantsName_eq (manage : Bool) (n : ℕ) :
    participantsName manage n =
      nameHead manage ++ '[' :: (natText n ++ ']' :: " particpants".toList) := by
  cases manage <;> simp [participantsName, nameHead, concat]

theorem participantsText_eq (n : ℕ) :
    participantsText n = natText n ++ '\n' :: "Participants".toList := by
  simp [participantsText, concat]

theorem forall_mem_nameHead (manage : Bool) : ∀ x ∈ nameHead manage, Plain x := by
  apply forall_mem_of_all
  cases manage <;> decide

theorem shielded_of_forall {s : Text} (h : ∀ x ∈ s, isDecimal x = false) : Shielded s := by
  apply List.isChain_iff_forall_rel_of_append_cons_cons.2
  rintro z x pre post rfl hx
  rw [h x (by simp)] at hx
  cases hx

theorem Shielded.append {s t : Text} (hs : Shielded s) (ht : Shielded t)
    (hhead : ∀ x ∈ t.head?, isDecimal x = false) : Shielded (s ++ t) := by
  refine List.isChain_append.2 ⟨hs, ht, fun z _ x hx hdecimal => ?_⟩
  rw [hhead x hx] at hdecimal
  cases hdecimal

theorem shielded_natText (n : ℕ) : Shielded (natText n) := by
  apply List.isChain_iff_forall_rel_of_append_cons_cons.2
  intro z x pre post h _
  exact .inr (isDecimal_of_mem_natText (n := n) (by rw [h]; simp))

theorem shielded_participantsName (manage : Bool) (n : ℕ) :
    Shielded (participantsName manage n) := by
  rw [participantsName_eq]
  have htail : Shielded (natText n ++ ']' :: " particpants".toList) := by
    apply (shielded_natText n).append (shielded_of_forall (forall_mem_of_all (by decide)))
    rintro _ ⟨⟩
    decide
  have hopen : ∀ x ∈ ('[' :: (natText n ++ ']' :: " particpants".toList)).head?,
      isDecimal x = false := by
    rintro _ ⟨⟩
    decide
  refine (shielded_of_forall fun x hx => (forall_mem_nameHead manage x hx).1).append ?_ hopen
  exact List.isChain_cons.2 ⟨fun x _ _ => .inl rfl, htail⟩

theorem shielded_participantsText (n : ℕ) : Shielded (participantsText n) := by
  rw [participantsText_eq]
  apply (shielded_natText n).append (shielded_of_forall (forall_mem_of_all (by decide)))
  rintro _ ⟨⟩
  decide

/-- Two runs of digits that begin a text are the same when no digit follows either of them. -/
theorem eq_of_digits {ds ds' t t' : Text} (h : ds ++ t = ds' ++ t') (hds : ∀ x ∈ ds, isDecimal x)
    (hds' : ∀ x ∈ ds', isDecimal x) (ht : ∀ x ∈ t.head?, isDecimal x = false)
    (ht' : ∀ x ∈ t'.head?, isDecimal x = false) : ds = ds' := by
  have htake : ∀ {ds t : Text}, (∀ x ∈ ds, isDecimal x) → (∀ x ∈ t.head?, isDecimal x = false) →
      (ds ++ t).takeWhile isDecimal = ds := by
    intro ds t hds ht
    rw [List.takeWhile_append_of_pos hds]
    cases t with
    | nil => exact List.append_nil ds
    | cons x t => rw [List.takeWhile_cons_of_neg (by rw [ht x rfl]; exact Bool.false_ne_true),
        List.append_nil]
  rw [← htake hds ht, h, htake hds' ht']

/-! ## Reading them -/

section Reading

variable (isAlnum : Char → Bool)

/-- None of the patterns reads the text. -/
def Unread (s : Text) : Prop :=
  countIn isAlnum s = none ∧ matchStart (pythonRegex isAlnum) bareCount s = none

theorem countIn_eq_none {s : Text} (hshielded : Shielded s)
    (hbracket : search (pythonRegex isAlnum) participantBracket s = none)
    (hleading : search (pythonIgnoreCase isAlnum) participantLeading s = none) :
    countIn isAlnum s = none := by
  unfold countIn
  rw [hbracket, search_participantCountText_eq_none hshielded, hleading]
  rfl

theorem unread_of_forall {s : Text} (h : ∀ x ∈ s, isDecimal x = false) : Unread isAlnum s := by
  have hnone : ∀ {ds : Text}, ds ≠ [] → (∀ x ∈ ds, isDecimal x) → ¬ ds ⊆ s := by
    intro ds hne hds hsub
    obtain ⟨x, hx⟩ := List.exists_mem_of_ne_nil _ hne
    have hdecimal := hds x hx
    rw [h x (hsub hx)] at hdecimal
    cases hdecimal
  refine ⟨countIn_eq_none isAlnum (shielded_of_forall h) ?_ ?_, ?_⟩
  · rw [← Option.not_isSome_iff_eq_none]
    intro hfound
    obtain ⟨pre, ds, post, rfl, hne, -, hds⟩ := participantBracket_shape hfound
    exact hnone hne hds fun x hx => by simp [hx]
  · rw [← Option.not_isSome_iff_eq_none]
    intro hfound
    obtain ⟨spaces, ds, x, post, rfl, -, hne, -, hds, -⟩ := participantLeading_shape hfound
    exact hnone hne hds fun x hx => by simp [hx]
  · rw [← Option.not_isSome_iff_eq_none]
    intro hfound
    obtain ⟨head, ds, tail, rfl, -, hne, -, hds, -⟩ := bareCount_shape hfound
    exact hnone hne hds fun x hx => by simp [hx]

theorem participantsName_head (manage : Bool) (n : ℕ) :
    ∃ rest, participantsName manage n = 'o' :: rest := by
  rw [participantsName_eq]
  cases manage <;> exact ⟨_, rfl⟩

/-- A text that begins with `\s*` or a parenthesis and then a digit begins with one of these. -/
theorem first_cases {P : Char → Prop} {x : Char} {rest head ds tail : Text}
    (h : x :: rest = head ++ (ds ++ tail)) (hhead : ∀ y ∈ head, P y) (hne : ds ≠ [])
    (hds : ∀ y ∈ ds, isDecimal y) : P x ∨ isDecimal x := by
  cases head with
  | nil =>
      cases ds with
      | nil => exact absurd rfl hne
      | cons y ds =>
          obtain rfl := (List.cons.inj h).1
          exact .inr (hds x List.mem_cons_self)
  | cons y head =>
      obtain rfl := (List.cons.inj h).1
      exact .inl (hhead x List.mem_cons_self)

/-- A count of four digits or more in the name is not read. -/
theorem unread_participantsName (manage : Bool) {n : ℕ} (hn : 1000 ≤ n) :
    Unread isAlnum (participantsName manage n) := by
  have hlong : ¬ (natText n).length ≤ 3 := by
    rw [length_natText_le_three_iff]
    omega
  obtain ⟨rest, hfirst⟩ := participantsName_head manage n
  refine ⟨countIn_eq_none isAlnum (shielded_participantsName manage n) ?_ ?_, ?_⟩
  · rw [← Option.not_isSome_iff_eq_none]
    intro hfound
    obtain ⟨pre, ds, post, hs, -, hlength, hds⟩ := participantBracket_shape hfound
    rw [participantsName_eq] at hs
    have hhead : '[' ∉ nameHead manage := fun h => (forall_mem_nameHead manage _ h).2 rfl
    have htail : '[' ∉ natText n ++ ']' :: " particpants".toList := by
      rw [List.mem_append]
      rintro (h | h)
      · exact absurd (isDecimal_of_mem_natText h) (by decide)
      · exact absurd h (by decide)
    obtain ⟨-, -, hdigits⟩ := (List.append_cons_inj_of_notMem hhead htail).1 hs
    have heq : natText n = ds := by
      refine eq_of_digits hdigits (fun x hx => isDecimal_of_mem_natText hx) hds ?_ ?_
      · rintro _ ⟨⟩
        decide
      · rintro _ ⟨⟩
        decide
    exact hlong (heq ▸ hlength)
  · rw [← Option.not_isSome_iff_eq_none]
    intro hfound
    obtain ⟨spaces, ds, x, post, hs, hspaces, hne, -, hds, -⟩ := participantLeading_shape hfound
    rw [hfirst] at hs
    rcases first_cases hs hspaces hne hds with h | h
    · exact absurd h (by decide)
    · exact absurd h (by decide)
  · rw [← Option.not_isSome_iff_eq_none]
    intro hfound
    obtain ⟨head, ds, tail, hs, hhead, hne, -, hds, -⟩ := bareCount_shape hfound
    rw [hfirst] at hs
    rcases first_cases hs hhead hne hds with h | h
    · exact absurd h (by decide)
    · exact absurd h (by decide)

theorem ends_participantBracket {n : ℕ} (hn : n < 1000) (previous : Option Char) (rest : Text) :
    (participantBracket.ends (pythonRegex isAlnum)
      ⟨previous, '[' :: (natText n ++ ']' :: rest), none⟩).head? =
        some ⟨some ']', rest, some (natText n)⟩ := by
  have hclose : ∀ x ∈ (']' :: rest).head?, (pythonRegex isAlnum).accepts .digit x = false := by
    rintro _ ⟨⟩
    rfl
  obtain ⟨cursors, hdigits⟩ := ends_upToThree_atom (natText_ne_nil n)
    ((length_natText_le_three_iff n).2 hn) (fun x hx => isDecimal_of_mem_natText hx) hclose
    (some '[') none
  obtain ⟨others, hgroup⟩ := ends_group_of_cons hdigits
  change ((seq (atom (.char '[')) (seq (group (upToThree (atom .digit)))
    (atom (.char ']')))).ends (pythonRegex isAlnum) _).head? = _
  rw [ends_seq, ends_atom_of_accepts rfl, List.flatMap_singleton, ends_seq]
  exact head?_flatMap_of_cons hgroup rfl

theorem countIn_participantsName (manage : Bool) {n : ℕ} (hn : n < 1000) :
    countIn isAlnum (participantsName manage n) = some (natText n) := by
  have hskip : ∀ pre₁ pre₂ : Text, nameHead manage = pre₁ ++ pre₂ → pre₂ ≠ [] →
      participantBracket.ends (pythonRegex isAlnum) ⟨pre₁.getLast?.or none, pre₂ ++ '[' ::
        (natText n ++ ']' :: " particpants".toList), none⟩ = [] := by
    intro pre₁ pre₂ hpre hne
    by_contra hends
    obtain ⟨e, he⟩ := List.exists_mem_of_ne_nil _ hends
    obtain ⟨w, hw, -, u, v, rfl, hopen, -⟩ := endsBehind_of_mem he
    obtain rfl := eq_of_spans_literal (exact_pythonRegex isAlnum) hopen
    obtain ⟨x, xs, rfl⟩ := List.exists_cons_of_ne_nil hne
    obtain rfl : x = '[' := (List.cons.inj hw).1
    exact (forall_mem_nameHead manage '[' (by rw [hpre]; simp)).2 rfl
  have hsearch : search (pythonRegex isAlnum) participantBracket (participantsName manage n) =
      some ⟨some ']', " particpants".toList, some (natText n)⟩ := by
    rw [search, participantsName_eq, searchFrom_append_of_skip hskip]
    exact searchFrom_of_ends (ends_participantBracket isAlnum hn _ _)
  unfold countIn
  rw [hsearch]
  rfl

theorem ends_participantLeading {n : ℕ} (hn : n < 1000) :
    (participantLeading.ends (pythonIgnoreCase isAlnum) ⟨none, participantsText n, none⟩).head? =
      some ⟨some 's', [], some (natText n)⟩ := by
  have hline : ∀ x ∈ ('\n' :: "Participants".toList).head?,
      (pythonIgnoreCase isAlnum).accepts .digit x = false := by
    rintro _ ⟨⟩
    rfl
  obtain ⟨cursors, hdigits⟩ := ends_upToThree_atom (natText_ne_nil n)
    ((length_natText_le_three_iff n).2 hn) (fun x hx => isDecimal_of_mem_natText hx) hline none none
  obtain ⟨others, hgroup⟩ := ends_group_of_cons hdigits
  have hspaces : ∀ x ∈ (natText n ++ '\n' :: "Participants".toList).head?,
      (pythonIgnoreCase isAlnum).accepts .space x = false := by
    intro x hx
    obtain ⟨y, ys, hy⟩ := List.exists_cons_of_ne_nil (natText_ne_nil n)
    rw [hy] at hx
    cases hx
    have hdecimal : isDecimal x := isDecimal_of_mem_natText (n := n) (by rw [hy]; simp)
    by_contra hspace
    rw [isDecimal_of_isSpace ((Bool.not_eq_false _).mp hspace)] at hdecimal
    cases hdecimal
  change ((seq start (seq (star (atom .space)) (seq (group (upToThree (atom .digit)))
    (seq (plus (atom .space)) (seq (literal "participant".toList)
      (seq (optional (literal "s".toList)) boundary)))))).ends (pythonIgnoreCase isAlnum) _).head? = _
  rw [participantsText_eq, ends_seq, ends_start, if_pos rfl, List.flatMap_singleton, ends_seq,
    ends_star_atom_of_not hspaces, List.flatMap_singleton, ends_seq]
  refine head?_flatMap_of_cons hgroup ?_
  have hword : List.Forall₂ (fun c x => (pythonIgnoreCase isAlnum).accepts (.char c) x)
      "participant".toList "Participant".toList := by
    change List.Forall₂ (fun c x => pythonSameLetter c x = true) _ _
    decide
  have hletter : ∀ x ∈ "Participants".toList.head?,
      (pythonIgnoreCase isAlnum).accepts .space x = false := by
    rintro _ ⟨⟩
    rfl
  rw [ends_seq, plus, ends_seq, ends_atom_of_accepts rfl, List.flatMap_singleton,
    ends_star_atom_of_not hletter, List.flatMap_singleton, ends_seq]
  change (List.flatMap _ (ends _ _ ⟨_, "Participant".toList ++ "s".toList, _⟩)).head? = _
  rw [ends_literal_of_forall₂ hword, List.flatMap_singleton]
  rfl

theorem search_participantBracket_participantsText (n : ℕ) :
    search (pythonRegex isAlnum) participantBracket (participantsText n) = none := by
  rw [← Option.not_isSome_iff_eq_none]
  intro hfound
  obtain ⟨pre, ds, post, hs, -⟩ := participantBracket_shape hfound
  have hmem : '[' ∈ participantsText n := by
    rw [hs]
    simp
  rw [participantsText_eq, List.mem_append] at hmem
  rcases hmem with hmem | hmem
  · exact absurd (isDecimal_of_mem_natText hmem) (by decide)
  · exact absurd hmem (by decide)

theorem countIn_participantsText {n : ℕ} (hn : n < 1000) :
    countIn isAlnum (participantsText n) = some (natText n) := by
  have hleading : search (pythonIgnoreCase isAlnum) participantLeading (participantsText n) =
      some ⟨some 's', [], some (natText n)⟩ :=
    searchFrom_of_ends (ends_participantLeading isAlnum hn)
  unfold countIn
  rw [search_participantBracket_participantsText,
    search_participantCountText_eq_none (shielded_participantsText n), hleading]
  rfl

/-- A count of four digits or more before the line is not read. -/
theorem unread_participantsText {n : ℕ} (hn : 1000 ≤ n) :
    Unread isAlnum (participantsText n) := by
  have hlong : ¬ (natText n).length ≤ 3 := by
    rw [length_natText_le_three_iff]
    omega
  -- The digits of a match are those of the count, and these are too many.
  have hno : ∀ {P : Char → Prop} {head ds tail : Text},
      participantsText n = head ++ (ds ++ tail) → (∀ y ∈ head, P y) →
      (∀ y, P y → isDecimal y = false) → ds.length ≤ 3 → (∀ y ∈ ds, isDecimal y) →
      (∀ y ∈ tail.head?, isDecimal y = false) → False := by
    intro P head ds tail hs hhead hP hlength hds htail
    rw [participantsText_eq] at hs
    obtain rfl : head = [] := by
      cases head with
      | nil => rfl
      | cons y head =>
          obtain ⟨x, xs, hx⟩ := List.exists_cons_of_ne_nil (natText_ne_nil n)
          rw [hx] at hs
          obtain rfl := (List.cons.inj hs).1
          have hdecimal : isDecimal x := isDecimal_of_mem_natText (n := n) (by rw [hx]; simp)
          rw [hP x (hhead x List.mem_cons_self)] at hdecimal
          cases hdecimal
    have heq : natText n = ds := by
      refine eq_of_digits hs (fun x hx => isDecimal_of_mem_natText hx) hds ?_ htail
      rintro _ ⟨⟩
      decide
    exact hlong (heq ▸ hlength)
  refine ⟨countIn_eq_none isAlnum (shielded_participantsText n)
    (search_participantBracket_participantsText isAlnum n) ?_, ?_⟩
  · rw [← Option.not_isSome_iff_eq_none]
    intro hfound
    obtain ⟨spaces, ds, x, post, hs, hspaces, -, hlength, hds, hx⟩ :=
      participantLeading_shape hfound
    refine hno hs hspaces (fun y hy => isDecimal_of_isSpace hy) hlength hds ?_
    rintro _ ⟨⟩
    exact isDecimal_of_isSpace hx
  · rw [← Option.not_isSome_iff_eq_none]
    intro hfound
    obtain ⟨head, ds, tail, hs, hhead, -, hlength, hds, htail⟩ := bareCount_shape hfound
    refine hno hs hhead ?_ hlength hds ?_
    · rintro y (hy | rfl)
      · exact isDecimal_of_isSpace hy
      · decide
    · intro y hy
      rcases htail y (List.mem_of_mem_head? hy) with hy | rfl
      · exact isDecimal_of_isSpace hy
      · decide

end Reading

/-! ## The count of the control -/

/-- The control shows `n` in its name, whatever its text is, or in its text below a name without digits. -/
inductive RendersCount (n : ℕ) : Element → Prop where
  | name (visible : Reading Bool) (manage : Bool) (innerText : Reading Text) :
      RendersCount n ⟨visible, .ok (some (participantsName manage n)), innerText⟩
  | text (visible : Reading Bool) (label : Option Text)
      (h : ∀ x ∈ label.getD [], isDecimal x = false) :
      RendersCount n ⟨visible, .ok label, .ok (participantsText n)⟩

section Count

variable {isAlnum : Char → Bool} {page : Page} {selectorSet : SelectorSet} {n : ℕ}

/-- The patterns find digits in the two sources, and the digits stand for `n`. -/
def ReadsAs (isAlnum : Char → Bool) (label text : Text) (n : ℕ) : Prop :=
  ∃ digits, countText isAlnum label text = some digits ∧ digits.length ≤ maxIntDigits ∧
    intOfDigits digits = n

theorem readsAs_of_natText {label text : Text} (hn : n < 1000)
    (h : countText isAlnum label text = some (natText n)) : ReadsAs isAlnum label text n := by
  have hlength := (length_natText_le_three_iff n).2 hn
  refine ⟨natText n, h, ?_, intOfDigits_natText n⟩
  unfold maxIntDigits
  omega

theorem countText_of_unread {label : Text} (h : Unread isAlnum label) (text : Text) :
    countText isAlnum label text = countText isAlnum [] text := by
  have hnil : Unread isAlnum [] := unread_of_forall isAlnum fun x hx => absurd hx List.not_mem_nil
  unfold countText capture
  rw [h.1, h.2, hnil.1, hnil.2]

theorem readsAs_participantsText_iff :
    ReadsAs isAlnum [] (participantsText n) n ↔ n < 1000 := by
  have hnil : Unread isAlnum [] := unread_of_forall isAlnum fun x hx => absurd hx List.not_mem_nil
  constructor
  · rintro ⟨digits, hdigits, -⟩
    by_contra hn
    have hunread := unread_participantsText isAlnum (Nat.not_lt.1 hn)
    unfold countText capture at hdigits
    rw [hnil.1, hnil.2, hunread.1, hunread.2] at hdigits
    cases hdigits
  · intro hn
    apply readsAs_of_natText hn
    rw [countText, hnil.1, countIn_participantsText isAlnum hn]
    rfl

section Control

variable {button : Element} {detail : Text} {label : Option Text}

theorem participantCount_of_countText_eq_none
    (hcontrols : inCallControls page selectorSet = .ok (true, detail))
    (hbutton : selectorSet.participantCountButton page = .ok (some button))
    (hlabel : button.ariaLabel = .ok label)
    (h : countText isAlnum (label.getD []) (safeInnerText button) = none) :
    ∃ shown, participantCount page selectorSet isAlnum = .ok (none, shown) := by
  unfold participantCount countSources locatorDetail
  simp only [hcontrols, hbutton, hlabel, h, bind, Except.bind, pure, Except.pure]
  exact ⟨_, rfl⟩

theorem participantCount_of_countText_eq_some {digits : Text}
    (hcontrols : inCallControls page selectorSet = .ok (true, detail))
    (hbutton : selectorSet.participantCountButton page = .ok (some button))
    (hlabel : button.ariaLabel = .ok label)
    (h : countText isAlnum (label.getD []) (safeInnerText button) = some digits) :
    participantCount page selectorSet isAlnum =
      (parseCount digits).map fun count => (some count, countDetail count) := by
  unfold participantCount countSources
  simp only [hcontrols, hbutton, hlabel, h, bind, Except.bind, pure, Except.pure]
  cases parseCount digits <;> rfl

theorem participantCount_eq_some_iff
    (hcontrols : inCallControls page selectorSet = .ok (true, detail))
    (hbutton : selectorSet.participantCountButton page = .ok (some button))
    (hlabel : button.ariaLabel = .ok label) :
    (∃ shown, participantCount page selectorSet isAlnum = .ok (some n, shown)) ↔
      ReadsAs isAlnum (label.getD []) (safeInnerText button) n := by
  unfold ReadsAs
  cases hdigits : countText isAlnum (label.getD []) (safeInnerText button) with
  | none =>
      obtain ⟨shown, hnone⟩ := participantCount_of_countText_eq_none hcontrols hbutton hlabel hdigits
      rw [hnone]
      simp
  | some digits =>
      rw [participantCount_of_countText_eq_some hcontrols hbutton hlabel hdigits, parseCount]
      by_cases hlength : maxIntDigits < digits.length
      · rw [if_pos hlength]
        constructor
        · rintro ⟨shown, hshown⟩
          cases hshown
        · rintro ⟨_, ⟨⟩, hle, -⟩
          exact absurd hle (Nat.not_le.2 hlength)
      · rw [if_neg hlength]
        constructor
        · rintro ⟨shown, hshown⟩
          obtain ⟨hcount, -⟩ := Prod.mk.inj (Except.ok.inj hshown)
          exact ⟨digits, rfl, Nat.not_lt.1 hlength, Option.some.inj hcount⟩
        · rintro ⟨_, ⟨⟩, -, rfl⟩
          exact ⟨_, rfl⟩

end Control

/-- A rendered count is read back exactly when it has at most three digits, or when the text beside a
name with a longer one reads as that number by another pattern. -/
theorem participantCount_roundTrip_iff {button : Element} {detail : Text}
    (hcontrols : inCallControls page selectorSet = .ok (true, detail))
    (hbutton : selectorSet.participantCountButton page = .ok (some button))
    (h : RendersCount n button) :
    (∃ shown, participantCount page selectorSet isAlnum = .ok (some n, shown)) ↔
      n < 1000 ∨ ReadsAs isAlnum [] (safeInnerText button) n := by
  cases h with
  | name visible manage innerText =>
      rw [participantCount_eq_some_iff hcontrols hbutton rfl, Option.getD_some]
      by_cases hn : n < 1000
      · refine iff_of_true (readsAs_of_natText hn ?_) (.inl hn)
        rw [countText, countIn_participantsName isAlnum manage hn]
        rfl
      · have hunread := unread_participantsName isAlnum manage (Nat.not_lt.1 hn)
        rw [ReadsAs, countText_of_unread hunread]
        exact (or_iff_right hn).symm
  | text visible label hlabel =>
      rw [participantCount_eq_some_iff hcontrols hbutton rfl, ReadsAs,
        countText_of_unread (unread_of_forall isAlnum hlabel)]
      change ReadsAs isAlnum [] (participantsText n) n ↔
        n < 1000 ∨ ReadsAs isAlnum [] (participantsText n) n
      rw [readsAs_participantsText_iff, or_self]

end Count

/-! ## The live shapes -/

def controlNode (name : Text) (text : Text) : Node where
  role := some .button
  name := name
  text := text
  childTexts := []
  ariaLabel := some name
  innerText := text
  selectors := []
  visible := true

/-- The toolbar with both renderings. -/
def toolbar (manage : Bool) (n : ℕ) : Document where
  nodes := [controlNode "Leave" "Leave", controlNode (participantsName manage n) (participantsText n)]
  frames := []

theorem participantCount_roundTrip_iff_two :
    (∃ shown, participantCount (toolbar false 2).page selectors (fun _ => false) =
        .ok (some 2, shown)) ↔
      2 < 1000 ∨ ReadsAs (fun _ => false) [] (participantsText 2) 2 :=
  have hcontrols : inCallControls (toolbar false 2).page selectors =
      .ok (true, "in call: Leave") := rfl
  have hbutton : selectors.participantCountButton (toolbar false 2).page =
      .ok (some (controlNode (participantsName false 2) (participantsText 2)).element) := rfl
  have hrenders : RendersCount 2
      (controlNode (participantsName false 2) (participantsText 2)).element :=
    .name (.ok true) false (.ok (participantsText 2))
  participantCount_roundTrip_iff hcontrols hbutton hrenders

/-- With a thousand participants the count is unknown. -/
theorem not_participantCount_thousand :
    ¬ ∃ shown, participantCount (toolbar false 1000).page selectors (fun _ => false) =
      .ok (some 1000, shown) := by
  have hcount : (participantCount (toolbar false 1000).page selectors (fun _ => false)).map
      Prod.fst = .ok none := rfl
  rintro ⟨shown, hshown⟩
  rw [hshown] at hcount
  cases hcount

end Notetaker.Zoom

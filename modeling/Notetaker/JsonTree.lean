import Notetaker.FloatRepr
import Notetaker.JsonRoundTrip

/-!
# `loads` inverts `dumps` on every value

`json.dumps` of a nested value, in its default form. The text of a value is followed through the scanner
to its tokens, and the tokens through the stack machine back to the value, both by induction on the value
together with its lists of items and members. The value has to fit the reader: the nesting and the digits
of its integers stay within the limits, its floats are values of binary64, and the keys of an object are
distinct.
-/

open PythonText PythonFloat

namespace JsonText

namespace Json

def dumpsFloat : PyFloat → Text
  | .nan => "NaN"
  | .inf negative => if negative then "-Infinity" else "Infinity"
  | .finite q => if q < 0 then '-' :: reprFloat (-q) else reprFloat q

mutual

/-- `json.dumps` of a value. -/
def dumps : Json → Text
  | null => "null"
  | bool b => if b then "true" else "false"
  | int n => intText n
  | float x => dumpsFloat x
  | str s => dumpsString s
  | arr [] => "[]"
  | arr (x :: xs) => '[' :: (x.dumps ++ dumpsItems xs ++ [']'])
  | obj [] => "\x7b\x7d"
  | obj ((k, v) :: members) =>
      '{' :: (dumpsString k ++ ": ".toList ++ v.dumps ++ dumpsMembers members ++ ['}'])

def dumpsItems : List Json → Text
  | [] => []
  | x :: xs => ", ".toList ++ x.dumps ++ dumpsItems xs

def dumpsMembers : List (Text × Json) → Text
  | [] => []
  | (k, v) :: members =>
      ", ".toList ++ dumpsString k ++ ": ".toList ++ v.dumps ++ dumpsMembers members

end

mutual

def tokens : Json → List Token
  | null => [.atom "null"]
  | bool b => [.atom (if b then "true" else "false")]
  | int n => [.atom (intText n)]
  | float x => [.atom (dumpsFloat x)]
  | str s => [.string s]
  | arr [] => [.open false, .close false]
  | arr (x :: xs) => .open false :: (x.tokens ++ itemsTokens xs ++ [.close false])
  | obj [] => [.open true, .close true]
  | obj ((k, v) :: members) =>
      .open true :: .string k :: .colon :: (v.tokens ++ membersTokens members ++ [.close true])

def itemsTokens : List Json → List Token
  | [] => []
  | x :: xs => .comma :: (x.tokens ++ itemsTokens xs)

def membersTokens : List (Text × Json) → List Token
  | [] => []
  | (k, v) :: members => .comma :: .string k :: .colon :: (v.tokens ++ membersTokens members)

end

mutual

/-- The value fits a reader that has `level` containers open. -/
def Fits (lim : Limits) (level : ℕ) : Json → Prop
  | int n => (natText n.natAbs).length ≤ lim.intDigits
  | float (.finite q) => IsDouble q
  | arr xs => level < lim.depth ∧ FitsItems lim (level + 1) xs
  | obj members =>
      level < lim.depth ∧ (members.map Prod.fst).Nodup ∧ FitsMembers lim (level + 1) members
  | _ => True

def FitsItems (lim : Limits) (level : ℕ) : List Json → Prop
  | [] => True
  | x :: xs => x.Fits lim level ∧ FitsItems lim level xs

def FitsMembers (lim : Limits) (level : ℕ) : List (Text × Json) → Prop
  | [] => True
  | (_, v) :: members => v.Fits lim level ∧ FitsMembers lim level members

end

section Equations

variable (x : Json) (xs : List Json) (k : Text) (members : List (Text × Json))

theorem dumps_arr_cons : dumps (arr (x :: xs)) = '[' :: (x.dumps ++ dumpsItems xs ++ [']']) := rfl

theorem dumps_obj_cons : dumps (obj ((k, x) :: members)) =
    '{' :: (dumpsString k ++ ": ".toList ++ x.dumps ++ dumpsMembers members ++ ['}']) := rfl

theorem dumpsItems_cons : dumpsItems (x :: xs) = ", ".toList ++ x.dumps ++ dumpsItems xs := rfl

theorem dumpsMembers_cons : dumpsMembers ((k, x) :: members) =
    ", ".toList ++ dumpsString k ++ ": ".toList ++ x.dumps ++ dumpsMembers members := rfl

theorem tokens_arr_cons : tokens (arr (x :: xs)) =
    .open false :: (x.tokens ++ itemsTokens xs ++ [.close false]) := rfl

theorem tokens_obj_cons : tokens (obj ((k, x) :: members)) =
    .open true :: .string k :: .colon :: (x.tokens ++ membersTokens members ++ [.close true]) := rfl

theorem itemsTokens_cons : itemsTokens (x :: xs) = .comma :: (x.tokens ++ itemsTokens xs) := rfl

theorem membersTokens_cons : membersTokens ((k, x) :: members) =
    .comma :: .string k :: .colon :: (x.tokens ++ membersTokens members) := rfl

end Equations

section Fits

variable {lim : Limits} {level : ℕ}

theorem fitsItems_iff {xs : List Json} : FitsItems lim level xs ↔ ∀ x ∈ xs, x.Fits lim level := by
  induction xs with
  | nil => exact iff_of_true trivial (by simp)
  | cons x xs ih =>
      rw [List.forall_mem_cons, ← ih]
      rfl

theorem fitsMembers_iff {members : List (Text × Json)} :
    FitsMembers lim level members ↔ ∀ m ∈ members, m.2.Fits lim level := by
  induction members with
  | nil => exact iff_of_true trivial (by simp)
  | cons m members ih =>
      rw [List.forall_mem_cons, ← ih]
      rfl

end Fits

end Json

/-! ## Scanning a value -/

/-- No number or literal goes on into the text. -/
def Breaks (rest : Text) : Prop := ∀ c ∈ rest.head?, isAtomChar c = false

theorem breaks_nil : Breaks [] := by simp [Breaks]

theorem breaks_cons {c : Char} (hc : isAtomChar c = false) (rest : Text) : Breaks (c :: rest) := by
  simpa [Breaks] using hc

theorem scan_inAtom_end (acc w : Text) (hw : ∀ c ∈ w, isAtomChar c) :
    scan (.inAtom acc) w = [.atom (acc.reverse ++ w)] := by
  induction w generalizing acc with
  | nil => simp [scan, scanEnd]
  | cons c w ih =>
      have hc : isAtomChar c = true := hw c (by simp)
      simp [scan_cons, scanStep, hc, ih (c :: acc) (fun x hx => hw x (by simp [hx]))]

theorem scan_lexeme {w rest : Text} (hne : w ≠ []) (hw : ∀ c ∈ w, isAtomChar c)
    (hrest : Breaks rest) : scan .idle (w ++ rest) = .atom w :: scan .idle rest := by
  cases rest with
  | cons d rest => exact scan_atom hne hw (hrest d rfl) rest
  | nil =>
      have hspace := scan_atom hne hw (d := ' ') (by decide) []
      obtain ⟨c, w, rfl⟩ := List.exists_cons_of_ne_nil hne
      have hopen : scanStep .idle c = (.inAtom [c], []) := by
        have hc : isAtomChar c = true := hw c (by simp)
        have hs : isJsonSpace c = false := by
          by_contra h
          simp only [isJsonSpace, Bool.not_eq_false, Bool.or_eq_true, decide_eq_true_eq] at h
          rcases h with ((rfl | rfl) | rfl) | rfl <;> revert hc <;> decide
        have hq : c ≠ '"' := by rintro rfl; revert hc; decide
        simp [scanStep, scanIdle, hs, hq, hc]
      rw [List.append_nil, scan_cons, hopen, scan_inAtom_end _ _ fun x hx => hw x (by simp [hx])]
      rfl

theorem isAtomChar_of_floatChar {c : Char} (h : FloatChar c) : isAtomChar c := by
  rcases h with h | h
  · exact isAtomChar_of_isDigit h
  · have hall : ∀ c ∈ ".e+-".toList, isAtomChar c := forall_mem_of_all (by decide)
    exact hall c h

theorem isAtomChar_of_mem_dumpsFloat {x : PyFloat} {c : Char} (h : c ∈ Json.dumpsFloat x) :
    isAtomChar c := by
  have hnan : ∀ c ∈ "NaN".toList, isAtomChar c := forall_mem_of_all (by decide)
  have hinf : ∀ c ∈ "-Infinity".toList, isAtomChar c := forall_mem_of_all (by decide)
  cases x with
  | nan => exact hnan c h
  | inf negative =>
      cases negative with
      | true => exact hinf c h
      | false => exact hinf c (List.mem_cons_of_mem '-' h)
  | finite q =>
      unfold Json.dumpsFloat at h
      dsimp only at h
      split_ifs at h
      · rcases List.mem_cons.1 h with rfl | h
        · decide
        · exact isAtomChar_of_floatChar (floatChar_of_mem_reprFloat h)
      · exact isAtomChar_of_floatChar (floatChar_of_mem_reprFloat h)

theorem reprFloat_ne_nil (q : ℚ) : reprFloat q ≠ [] := by
  unfold reprFloat
  split_ifs
  · exact List.cons_ne_nil _ _
  · unfold placePoint
    dsimp only
    split_ifs <;> simp

theorem dumpsFloat_ne_nil (x : PyFloat) : Json.dumpsFloat x ≠ [] := by
  cases x with
  | nan => exact List.cons_ne_nil _ _
  | inf negative => cases negative <;> exact List.cons_ne_nil _ _
  | finite q =>
      unfold Json.dumpsFloat
      dsimp only
      split_ifs
      · exact List.cons_ne_nil _ _
      · exact reprFloat_ne_nil q

namespace Json

theorem breaks_items (xs : List Json) {rest : Text} (hrest : Breaks rest) :
    Breaks (dumpsItems xs ++ rest) := by
  cases xs with
  | nil => exact hrest
  | cons x xs => exact breaks_cons (by decide) _

theorem breaks_members (members : List (Text × Json)) {rest : Text} (hrest : Breaks rest) :
    Breaks (dumpsMembers members ++ rest) := by
  cases members with
  | nil => exact hrest
  | cons m members => exact breaks_cons (by decide) _

theorem scan_colon (rest : Text) : scan .idle (": ".toList ++ rest) = .colon :: scan .idle rest := rfl

theorem scan_comma (rest : Text) : scan .idle (", ".toList ++ rest) = .comma :: scan .idle rest := rfl

mutual

theorem scan_value (v : Json) {rest : Text} (hrest : Breaks rest) :
    scan .idle (v.dumps ++ rest) = v.tokens ++ scan .idle rest := by
  cases v with
  | null => exact scan_lexeme (by decide) (forall_mem_of_all (by decide)) hrest
  | bool b => cases b <;> exact scan_lexeme (by decide) (forall_mem_of_all (by decide)) hrest
  | int n => exact scan_lexeme (intText_ne_nil n) (fun c => isAtomChar_of_mem_intText) hrest
  | float x =>
      exact scan_lexeme (dumpsFloat_ne_nil x) (fun c => isAtomChar_of_mem_dumpsFloat) hrest
  | str s => exact scan_dumpsString s rest
  | arr xs =>
      cases xs with
      | nil => rfl
      | cons x xs =>
          have hclose : Breaks (']' :: rest) := breaks_cons (by decide) rest
          have hopen : scan .idle (dumps (arr (x :: xs)) ++ rest) =
              .open false :: scan .idle (x.dumps ++ (dumpsItems xs ++ ']' :: rest)) := by
            rw [dumps_arr_cons, List.cons_append, List.append_assoc, List.append_assoc]
            rfl
          rw [hopen, scan_value x (breaks_items xs hclose), scan_items xs hclose, tokens_arr_cons]
          simp only [List.cons_append, List.append_assoc, List.nil_append]
          rfl
  | obj members =>
      cases members with
      | nil => rfl
      | cons m members =>
          obtain ⟨k, v⟩ := m
          have hclose : Breaks ('}' :: rest) := breaks_cons (by decide) rest
          have hopen : scan .idle (dumps (obj ((k, v) :: members)) ++ rest) = .open true ::
              scan .idle (dumpsString k ++ (": ".toList ++ (v.dumps ++
                (dumpsMembers members ++ '}' :: rest)))) := by
            rw [dumps_obj_cons]
            simp only [List.cons_append, List.append_assoc, List.nil_append]
            rfl
          rw [hopen, scan_dumpsString, scan_colon, scan_value v (breaks_members members hclose),
            scan_members members hclose, tokens_obj_cons]
          simp only [List.cons_append, List.append_assoc, List.nil_append]
          rfl

theorem scan_items (xs : List Json) {rest : Text} (hrest : Breaks rest) :
    scan .idle (dumpsItems xs ++ rest) = itemsTokens xs ++ scan .idle rest := by
  cases xs with
  | nil => rfl
  | cons x xs =>
      rw [dumpsItems_cons, List.append_assoc, List.append_assoc, scan_comma,
        scan_value x (breaks_items xs hrest), scan_items xs hrest, itemsTokens_cons,
        List.cons_append, List.append_assoc]

theorem scan_members (members : List (Text × Json)) {rest : Text} (hrest : Breaks rest) :
    scan .idle (dumpsMembers members ++ rest) = membersTokens members ++ scan .idle rest := by
  cases members with
  | nil => rfl
  | cons m members =>
      obtain ⟨k, v⟩ := m
      rw [dumpsMembers_cons]
      simp only [List.append_assoc]
      rw [scan_comma, scan_dumpsString, scan_colon, scan_value v (breaks_members members hrest),
        scan_members members hrest, membersTokens_cons]
      simp only [List.cons_append, List.append_assoc]

end

end Json

/-! ## Reading a float -/

theorem startsFloat_layout {fraction : Text} (hfraction : ∀ c ∈ fraction, c.isDigit) {x : Option ℤ}
    (hfloat : fraction ≠ [] ∨ x ≠ none) :
    startsFloat (fractionPart fraction ++ exponentPart x) = true := by
  cases fraction with
  | cons c fraction => exact hfraction c (by simp)
  | nil =>
      cases x with
      | none => simp at hfloat
      | some x =>
          obtain ⟨d, ds, hds⟩ := List.exists_cons_of_ne_nil (exponentDigits_ne_nil x)
          have hd : d.isDigit := isDigit_of_mem_exponentDigits (x := x) (by rw [hds]; simp)
          change startsFloat ('e' :: exponentText x) = true
          rw [exponentText_eq, hds]
          split_ifs <;> simp [startsFloat, hd]

theorem unsignedValue_layout (lim : Limits) (negative : Bool) {s whole fraction : Text}
    {x : Option ℤ} (h : FloatLayout s whole fraction x) : unsignedValue lim negative s =
      .ok (.float (decimalToDouble negative (whole ++ fraction) (-fraction.length + x.getD 0))) := by
  obtain ⟨htake, hdrop⟩ := span_isDigit h.whole_digits (head?_fractionPart fraction x)
  have hgood : ¬ (whole = [] ∨ (whole.head? = some '0' ∧ whole ≠ ['0'])) := by
    rintro (hempty | ⟨hzero, hmore⟩)
    · exact h.ne_nil hempty
    · exact hmore (h.leading hzero)
  unfold unsignedValue
  dsimp only
  rw [h.text, htake, hdrop, if_neg hgood, if_pos (startsFloat_layout h.fraction_digits h.float),
    decimalLiteral_layout negative h.ne_nil h.whole_digits h.fraction_digits x]

theorem unsignedValue_reprFloat (lim : Limits) {q : ℚ} (hq : IsDouble q) (hpos : 0 ≤ q) :
    unsignedValue lim false (reprFloat q) = .ok (.float (.finite q)) ∧
      unsignedValue lim true (reprFloat q) = .ok (.float (.finite (-q))) := by
  obtain ⟨whole, fraction, x, hlayout, hvalue⟩ := exists_layout_reprFloat hq hpos
  rw [unsignedValue_layout lim false hlayout, unsignedValue_layout lim true hlayout, hvalue,
    decimalToDouble_neg hvalue]
  exact ⟨rfl, rfl⟩

/-- A literal that starts with a digit is a number, also behind a minus sign. -/
theorem atomValue_of_isDigit (lim : Limits) {c : Char} (hc : c.isDigit) (w : Text) :
    atomValue lim (c :: w) = unsignedValue lim false (c :: w) ∧
      atomValue lim ('-' :: c :: w) = unsignedValue lim true (c :: w) := by
  have hword : ∀ v : Text, (v.head?.any fun d => !d.isDigit) = true → c :: w ≠ v := by
    rintro v hv rfl
    simp [hc] at hv
  have hminus : ∀ v : Text, (v.head?.any fun d => d ≠ '-') = true → '-' :: c :: w ≠ v := by
    rintro v hv rfl
    simp at hv
  have hinf : '-' :: c :: w ≠ "-Infinity".toList :=
    fun h => hword "Infinity".toList (by decide) (List.cons.inj h).2
  constructor
  · have hnumber : numberValue lim (c :: w) = unsignedValue lim false (c :: w) := by
      unfold numberValue
      split
      · rename_i heq
        exact absurd heq (hword _ rfl)
      · rfl
    rw [atomValue, if_neg (hword _ (by decide)), if_neg (hword _ (by decide)),
      if_neg (hword _ (by decide)), if_neg (hword _ (by decide)), if_neg (hword _ (by decide)),
      if_neg (hword _ (by decide)), hnumber]
  · rw [atomValue, if_neg (hminus _ (by decide)), if_neg (hminus _ (by decide)),
      if_neg (hminus _ (by decide)), if_neg (hminus _ (by decide)), if_neg (hminus _ (by decide)),
      if_neg hinf]
    rfl

theorem exists_reprFloat_eq_cons {q : ℚ} (hq : IsDouble q) (hpos : 0 ≤ q) :
    ∃ c w, c.isDigit = true ∧ reprFloat q = c :: w := by
  obtain ⟨whole, fraction, x, hlayout, -⟩ := exists_layout_reprFloat hq hpos
  obtain ⟨c, w, hwhole⟩ := List.exists_cons_of_ne_nil hlayout.ne_nil
  refine ⟨c, w ++ (fractionPart fraction ++ exponentPart x), ?_, ?_⟩
  · exact hlayout.whole_digits c (by rw [hwhole]; simp)
  · rw [hlayout.text, hwhole, List.cons_append]

theorem atomValue_dumpsFloat (lim : Limits) {x : PyFloat} {level : ℕ}
    (hx : (Json.float x).Fits lim level) : atomValue lim (Json.dumpsFloat x) = .ok (.float x) := by
  cases x with
  | nan => rfl
  | inf negative => cases negative <;> rfl
  | finite q =>
      have hq : IsDouble q := hx
      unfold Json.dumpsFloat
      dsimp only
      by_cases hneg : q < 0
      · have hpos : 0 ≤ -q := by linarith
        obtain ⟨c, w, hc, hw⟩ := exists_reprFloat_eq_cons hq.neg hpos
        rw [if_pos hneg, hw, (atomValue_of_isDigit lim hc w).2, ← hw,
          (unsignedValue_reprFloat lim hq.neg hpos).2, neg_neg]
      · obtain ⟨c, w, hc, hw⟩ := exists_reprFloat_eq_cons hq (not_lt.1 hneg)
        rw [if_neg hneg, hw, (atomValue_of_isDigit lim hc w).1, ← hw,
          (unsignedValue_reprFloat lim hq (not_lt.1 hneg)).1]

/-! ## Building a value -/

theorem runMachine_cons (lim : Limits) (m : Machine) (t : Token) (ts : List Token) :
    runMachine lim m (t :: ts) = (machineStep lim m t).bind fun m' => runMachine lim m' ts := rfl

theorem machineStep_valueOrClose (lim : Limits) (stack : List Frame) {t : Token}
    (ht : t ≠ .close false) : machineStep lim ⟨stack, .valueOrClose⟩ t =
      machineStep lim ⟨.arr [] :: stack, .value⟩ t := by
  cases t with
  | close object =>
      cases object with
      | false => exact absurd rfl ht
      | true => rfl
  | _ => rfl

namespace Json

theorem exists_tokens_eq_cons (v : Json) : ∃ t ts, v.tokens = t :: ts ∧ t ≠ .close false := by
  cases v with
  | arr xs => cases xs <;> exact ⟨_, _, rfl, by decide⟩
  | obj members => cases members <;> exact ⟨_, _, rfl, by decide⟩
  | _ => exact ⟨_, _, rfl, by simp⟩

variable {lim : Limits}

theorem runMachine_atom {stack : List Frame} {w : Text} {v : Json} (hw : atomValue lim w = .ok v)
    (ts : List Token) : runMachine lim ⟨stack, .value⟩ (.atom w :: ts) =
      runMachine lim (complete stack v) ts := by
  rw [runMachine_cons]
  change ((atomValue lim w).map (complete stack)).bind _ = _
  rw [hw]
  rfl

mutual

theorem runMachine_value (v : Json) {stack : List Frame} (hv : v.Fits lim stack.length)
    (ts : List Token) : runMachine lim ⟨stack, .value⟩ (v.tokens ++ ts) =
      runMachine lim (complete stack v) ts := by
  cases v with
  | null => rfl
  | bool b => cases b <;> rfl
  | int n => exact runMachine_atom (atomValue_intText lim hv) ts
  | float x => exact runMachine_atom (atomValue_dumpsFloat lim hv) ts
  | str s => rfl
  | arr xs =>
      obtain ⟨hdepth, hitems⟩ := hv
      have hopen : ∀ us, runMachine lim ⟨stack, .value⟩ (.open false :: us) =
          runMachine lim ⟨stack, .valueOrClose⟩ us := by
        intro us
        rw [runMachine_cons]
        change (openContainer lim ⟨stack, .value⟩ stack false).bind _ = _
        have hm : ¬ lim.depth ≤ (⟨stack, .value⟩ : Machine).depth := Nat.not_le.2 hdepth
        unfold openContainer
        rw [if_neg hm]
        rfl
      cases xs with
      | nil => exact hopen (.close false :: ts)
      | cons x xs =>
          obtain ⟨hx, hrest⟩ := hitems
          obtain ⟨t, us, htokens, ht⟩ := exists_tokens_eq_cons x
          have hvalue := @runMachine_value x (.arr [] :: stack) hx
            (itemsTokens xs ++ .close false :: ts)
          rw [htokens, List.cons_append, runMachine_cons, ← machineStep_valueOrClose lim stack ht,
            ← runMachine_cons, ← List.cons_append, ← htokens] at hvalue
          rw [tokens_arr_cons, List.cons_append, hopen, List.append_assoc, List.append_assoc]
          refine hvalue.trans ?_
          exact runMachine_items xs [x] hrest ts
  | obj members =>
      obtain ⟨hdepth, hkeys, hmembers⟩ := hv
      have hopen : ∀ us, runMachine lim ⟨stack, .value⟩ (.open true :: us) =
          runMachine lim ⟨stack, .keyOrClose⟩ us := by
        intro us
        rw [runMachine_cons]
        change (openContainer lim ⟨stack, .value⟩ stack true).bind _ = _
        have hm : ¬ lim.depth ≤ (⟨stack, .value⟩ : Machine).depth := Nat.not_le.2 hdepth
        unfold openContainer
        rw [if_neg hm]
        rfl
      cases members with
      | nil => exact hopen (.close true :: ts)
      | cons m members =>
          obtain ⟨k, v⟩ := m
          obtain ⟨hfits, hrest⟩ := hmembers
          have hvalue := @runMachine_value v (.obj [] k :: stack) hfits
            (membersTokens members ++ .close true :: ts)
          rw [tokens_obj_cons, List.cons_append, hopen]
          simp only [List.cons_append, List.append_assoc, List.nil_append]
          refine hvalue.trans ?_
          exact runMachine_members members [(k, v)] hkeys hrest ts

theorem runMachine_items (xs : List Json) {stack : List Frame} (acc : List Json)
    (hxs : FitsItems lim (stack.length + 1) xs) (ts : List Token) :
    runMachine lim ⟨stack, .afterElement acc⟩ (itemsTokens xs ++ .close false :: ts) =
      runMachine lim (complete stack (.arr (acc ++ xs))) ts := by
  cases xs with
  | nil =>
      rw [List.append_nil]
      rfl
  | cons x xs =>
      obtain ⟨hx, hrest⟩ := hxs
      have hvalue := @runMachine_value x (.arr acc :: stack) hx
        (itemsTokens xs ++ .close false :: ts)
      have hitems := runMachine_items xs (acc ++ [x]) hrest ts
      rw [List.append_assoc] at hitems
      rw [itemsTokens_cons, List.cons_append, List.append_assoc]
      exact hvalue.trans hitems

theorem runMachine_members (members : List (Text × Json)) {stack : List Frame}
    (acc : List (Text × Json)) (hkeys : (acc.map Prod.fst ++ members.map Prod.fst).Nodup)
    (hmembers : FitsMembers lim (stack.length + 1) members) (ts : List Token) :
    runMachine lim ⟨stack, .afterMember acc⟩ (membersTokens members ++ .close true :: ts) =
      runMachine lim (complete stack (.obj (acc ++ members))) ts := by
  cases members with
  | nil =>
      rw [List.append_nil]
      rfl
  | cons m members =>
      obtain ⟨k, v⟩ := m
      obtain ⟨hfits, hrest⟩ := hmembers
      have hkey : k ∉ acc.map Prod.fst := fun h =>
        (List.nodup_append.1 hkeys).2.2 _ h _ (by simp) rfl
      have hvalue := @runMachine_value v (.obj acc k :: stack) hfits
        (membersTokens members ++ .close true :: ts)
      have hkeys' : ((acc ++ [(k, v)]).map Prod.fst ++ members.map Prod.fst).Nodup := by
        rw [List.map_append, List.append_assoc]
        exact hkeys
      have hitems := runMachine_members members (acc ++ [(k, v)]) hkeys' hrest ts
      rw [List.append_assoc] at hitems
      have hcomplete : complete (.obj acc k :: stack) v = ⟨stack, .afterMember (acc ++ [(k, v)])⟩ := by
        change (⟨stack, .afterMember (setMember k v acc)⟩ : Machine) = _
        rw [setMember_of_notMem v hkey]
      rw [hcomplete] at hvalue
      rw [membersTokens_cons]
      simp only [List.cons_append, List.append_assoc]
      exact hvalue.trans hitems

end

/-- What is dumped is loaded again. -/
theorem loads_dumps {v : Json} (hv : v.Fits lim 0) : loads lim v.dumps = .ok v := by
  have hscan := scan_value v breaks_nil
  rw [List.append_nil, show scan .idle [] = [] from rfl] at hscan
  unfold loads
  rw [hscan]
  exact @runMachine_value lim v [] hv []

end Json

end JsonText

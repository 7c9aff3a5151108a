import Notetaker.JsonText

/-!
# `loads` inverts `dumps`

The scanner is followed through one escape, one string and one member of the rendered dictionary;
the stack machine then reads the members back one at a time. The keys have to be distinct, and the
integers have to stay within the digit limit of the reader.
-/

open PythonText PythonFloat

namespace JsonText

theorem scan_cons (st : Scan) (c : Char) (cs : Text) :
    scan st (c :: cs) = (scanStep st c).2 ++ scan (scanStep st c).1 cs := rfl

theorem scan_hexDigit (acc : Text) (high : Option ℕ) {left : ℕ} (hleft : 1 < left) (v : ℕ) {d : ℕ}
    (hd : d < 16) (rest : Text) :
    scan (.inHex acc high left v) (hexDigit d :: rest) =
      scan (.inHex acc high (left - 1) (v * 16 + d)) rest := by
  have hl : ¬ left ≤ 1 := by omega
  simp only [scan_cons, scanStep, hexValue_hexDigit d hd, if_neg hl, List.nil_append]

theorem scan_lastHexDigit (acc : Text) (high : Option ℕ) (v : ℕ) {d : ℕ} (hd : d < 16)
    (rest : Text) :
    scan (.inHex acc high 1 v) (hexDigit d :: rest) =
      scan (finishHex acc high (v * 16 + d)) rest := by
  simp only [scan_cons, scanStep, hexValue_hexDigit d hd, le_refl, if_true, List.nil_append]

/-- The four digits of an escape assemble its code unit. -/
theorem scan_unicodeEscape (acc : Text) (high : Option ℕ) {n : ℕ} (hn : n < 65536) (rest : Text) :
    scan (.inEscape acc high) ((unicodeEscape n).tail ++ rest) =
      scan (finishHex acc high n) rest := by
  have hn' : (((0 * 16 + n / 4096) * 16 + n / 256 % 16) * 16 + n / 16 % 16) * 16 + n % 16 = n := by
    omega
  change scan (.inHex acc high 4 0) (hexDigit (n / 4096) :: hexDigit (n / 256 % 16) ::
    hexDigit (n / 16 % 16) :: hexDigit (n % 16) :: rest) = _
  rw [scan_hexDigit acc high (by decide) 0 (by omega),
    scan_hexDigit acc high (by decide) _ (by omega),
    scan_hexDigit acc high (by decide) _ (by omega), scan_lastHexDigit acc high _ (by omega), hn']

theorem char_toNat_valid (c : Char) :
    c.toNat < 0xd800 ∨ (0xdfff < c.toNat ∧ c.toNat < 0x110000) := c.valid

theorem finishHex_basic (acc : Text) {c : Char} (hc : c.toNat < 65536) :
    finishHex acc none c.toNat = .inString (c :: acc) := by
  have hvalid := char_toNat_valid c
  have hh : ¬ (0xd800 ≤ c.toNat ∧ c.toNat ≤ 0xdbff) := by omega
  have hl : ¬ (0xdc00 ≤ c.toNat ∧ c.toNat ≤ 0xdfff) := by omega
  simp only [finishHex, if_neg hh, if_neg hl, Char.ofNat_toNat]

theorem finishHex_high (acc : Text) {v : ℕ} (hv : v < 1024) :
    finishHex acc none (0xd800 + v) = .afterHigh acc (0xd800 + v) := by
  have h : 0xd800 ≤ 0xd800 + v ∧ 0xd800 + v ≤ 0xdbff := by omega
  simp only [finishHex, if_pos h]

theorem finishHex_low (acc : Text) (c : Char) {v w : ℕ} (hw : w < 1024)
    (hc : 65536 + v * 1024 + w = c.toNat) :
    finishHex acc (some (0xd800 + v)) (0xdc00 + w) = .inString (c :: acc) := by
  have h : 0xdc00 ≤ 0xdc00 + w ∧ 0xdc00 + w ≤ 0xdfff := by omega
  simp only [finishHex, if_pos h, Nat.add_sub_cancel_left, hc, Char.ofNat_toNat]

theorem unicodeEscape_eq (n : ℕ) : unicodeEscape n = '\\' :: (unicodeEscape n).tail := rfl

theorem scan_inString_backslash (acc cs : Text) :
    scan (.inString acc) ('\\' :: cs) = scan (.inEscape acc none) cs := rfl

theorem scan_afterHigh_backslash (acc : Text) (high : ℕ) (cs : Text) :
    scan (.afterHigh acc high) ('\\' :: cs) = scan (.inEscape acc (some high)) cs := rfl

theorem scan_escapeChar (acc : Text) (c : Char) (rest : Text) :
    scan (.inString acc) (escapeChar c ++ rest) = scan (.inString (c :: acc)) rest := by
  unfold escapeChar
  split_ifs with h₁ h₂ h₃ h₄ h₅ h₆ h₇ h₈ h₉
  · subst h₁; rfl
  · subst h₂; rfl
  · subst h₃; rfl
  · subst h₄; rfl
  · subst h₅; rfl
  · obtain rfl : c = Char.ofNat 8 := by rw [← h₆, Char.ofNat_toNat]
    rfl
  · obtain rfl : c = Char.ofNat 12 := by rw [← h₇, Char.ofNat_toNat]
    rfl
  · have h32 : ¬ c.toNat < 32 := by omega
    simp [scan_cons, scanStep, scanString, h₁, h₂, h32]
  · rw [unicodeEscape_eq, List.cons_append, scan_inString_backslash,
      scan_unicodeEscape acc none h₉, finishHex_basic acc h₉]
  · have hvalid := char_toNat_valid c
    have hv : (c.toNat - 65536) / 1024 < 1024 := by omega
    have hw : (c.toNat - 65536) % 1024 < 1024 := by omega
    change scan _ ((unicodeEscape (0xd800 + (c.toNat - 65536) / 1024) ++
      unicodeEscape (0xdc00 + (c.toNat - 65536) % 1024)) ++ rest) = _
    rw [unicodeEscape_eq, unicodeEscape_eq (0xdc00 + _), List.append_assoc, List.cons_append,
      scan_inString_backslash, scan_unicodeEscape acc none (by omega), finishHex_high acc hv,
      List.cons_append, scan_afterHigh_backslash, scan_unicodeEscape acc _ (by omega),
      finishHex_low acc c hw (by omega)]

theorem scan_stringBody (acc s rest : Text) :
    scan (.inString acc) (s.flatMap escapeChar ++ '"' :: rest) =
      .string (acc.reverse ++ s) :: scan .idle rest := by
  induction s generalizing acc with
  | nil => simp [scan_cons, scanStep, scanString]
  | cons c s ih =>
      rw [List.flatMap_cons, List.append_assoc, scan_escapeChar, ih]
      simp

theorem scan_dumpsString (s rest : Text) :
    scan .idle (dumpsString s ++ rest) = .string s :: scan .idle rest := by
  have h := scan_stringBody [] s rest
  rw [List.reverse_nil, List.nil_append] at h
  rw [← h]
  simp [dumpsString, scan_cons, scanStep, scanIdle, isJsonSpace]

theorem scan_inAtom (acc w : Text) (hw : ∀ c ∈ w, isAtomChar c) {d : Char}
    (hd : isAtomChar d = false) (rest : Text) :
    scan (.inAtom acc) (w ++ d :: rest) = .atom (acc.reverse ++ w) :: scan .idle (d :: rest) := by
  induction w generalizing acc with
  | nil => simp [scan_cons, scanStep, hd]
  | cons c w ih =>
      have hc : isAtomChar c = true := hw c (by simp)
      simp [scan_cons, scanStep, hc, ih (c :: acc) (fun x hx => hw x (by simp [hx]))]

theorem scan_atom {w : Text} (hne : w ≠ []) (hw : ∀ c ∈ w, isAtomChar c) {d : Char}
    (hd : isAtomChar d = false) (rest : Text) :
    scan .idle (w ++ d :: rest) = .atom w :: scan .idle (d :: rest) := by
  obtain ⟨c, w, rfl⟩ := List.exists_cons_of_ne_nil hne
  have hc : isAtomChar c = true := hw c (by simp)
  have hs : isJsonSpace c = false := by
    by_contra h
    simp only [isJsonSpace, Bool.not_eq_false, Bool.or_eq_true, decide_eq_true_eq] at h
    rcases h with ((rfl | rfl) | rfl) | rfl <;> revert hc <;> decide
  have hq : c ≠ '"' := by rintro rfl; revert hc; decide
  have h := scan_inAtom [c] w (fun x hx => hw x (by simp [hx])) hd rest
  simpa [scan_cons, scanStep, scanIdle, hs, hq, hc] using h

theorem isAtomChar_of_isDigit {c : Char} (h : c.isDigit) : isAtomChar c := by
  simp [isAtomChar, Char.isAlphanum, h]

theorem isAtomChar_of_mem_intText {n : ℤ} {c : Char} (h : c ∈ intText n) : isAtomChar c := by
  cases n with
  | ofNat n => exact isAtomChar_of_isDigit (isDigit_of_mem_natText h)
  | negSucc n =>
      rcases List.mem_cons.1 h with rfl | h
      · decide
      · exact isAtomChar_of_isDigit (isDigit_of_mem_natText h)

theorem intText_ne_nil (n : ℤ) : intText n ≠ [] := by
  cases n with
  | ofNat n => exact natText_ne_nil n
  | negSucc n => simp [intText]

def Scalar.token : Scalar → Token
  | null => .atom "null".toList
  | int n => .atom (intText n)
  | str s => .string s

theorem scan_scalar (v : Scalar) {d : Char} (hd : isAtomChar d = false) (rest : Text) :
    scan .idle (v.dumps ++ d :: rest) = v.token :: scan .idle (d :: rest) := by
  cases v with
  | null => exact scan_atom (by decide) (forall_mem_of_all (by decide)) hd rest
  | int n => exact scan_atom (intText_ne_nil n) (fun c => isAtomChar_of_mem_intText) hd rest
  | str s => exact scan_dumpsString s (d :: rest)

theorem scan_dumpsMember (m : Text × Scalar) {d : Char} (hd : isAtomChar d = false)
    (rest : Text) :
    scan .idle (dumpsMember m ++ d :: rest) =
      .string m.1 :: .colon :: m.2.token :: scan .idle (d :: rest) := by
  rw [dumpsMember, List.append_assoc, List.append_assoc, scan_dumpsString]
  change Token.string m.1 :: Token.colon :: scan .idle (m.2.dumps ++ d :: rest) = _
  rw [scan_scalar m.2 hd]

def memberTokens (m : Text × Scalar) : List Token := [.string m.1, .colon, m.2.token]

/-- The tokens behind the opening brace of a non-empty object. -/
def membersTokens : List (Text × Scalar) → List Token
  | [] => [.close true]
  | [m] => memberTokens m ++ [.close true]
  | m :: ms => memberTokens m ++ .comma :: membersTokens ms

theorem scan_members (ms : List (Text × Scalar)) :
    scan .idle (", ".toList.intercalate (ms.map dumpsMember) ++ ['}']) = membersTokens ms := by
  induction ms with
  | nil => rfl
  | cons m ms ih =>
      cases ms with
      | nil =>
          have h := scan_dumpsMember m (d := '}') (by decide) []
          have hone : ", ".toList.intercalate ([m].map dumpsMember) = dumpsMember m := by
            simp [List.intercalate]
          rw [hone, h]
          rfl
      | cons m' ms =>
          have h := scan_dumpsMember m (d := ',') (by decide)
            (' ' :: (", ".toList.intercalate ((m' :: ms).map dumpsMember) ++ ['}']))
          have hsplit : ", ".toList.intercalate ((m :: m' :: ms).map dumpsMember) ++ ['}'] =
              dumpsMember m ++ ',' :: ' ' ::
                (", ".toList.intercalate ((m' :: ms).map dumpsMember) ++ ['}']) := by
            simp [List.intercalate]
          rw [hsplit, h]
          change _ :: _ :: _ :: Token.comma ::
            scan .idle (", ".toList.intercalate ((m' :: ms).map dumpsMember) ++ ['}']) = _
          rw [ih]
          rfl

theorem scan_dumps (ms : List (Text × Scalar)) :
    scan .idle (dumps ms) = .open true :: membersTokens ms := by
  rw [← scan_members]
  rfl

/-- The integers among the members stay within the digit limit. -/
def Scalar.Fits (lim : Limits) : Scalar → Prop
  | int n => (natText n.natAbs).length ≤ lim.intDigits
  | _ => True

theorem takeWhile_isDigit_natText (n : ℕ) : (natText n).takeWhile Char.isDigit = natText n :=
  List.takeWhile_eq_self_iff.2 fun _ h => isDigit_of_mem_natText h

theorem dropWhile_isDigit_natText (n : ℕ) : (natText n).dropWhile Char.isDigit = [] :=
  List.dropWhile_eq_nil_iff.2 fun _ h => isDigit_of_mem_natText h

theorem unsignedValue_natText (lim : Limits) (negative : Bool) {n : ℕ}
    (h : (natText n).length ≤ lim.intDigits) :
    unsignedValue lim negative (natText n) = .ok (.int (if negative then -n else n)) := by
  have hzero : ¬ (natText n = [] ∨ ((natText n).head? = some '0' ∧ natText n ≠ ['0'])) := by
    rintro (h | ⟨h, h'⟩)
    · exact natText_ne_nil n h
    · exact h' (head?_natText n h)
  simp only [unsignedValue, takeWhile_isDigit_natText, dropWhile_isDigit_natText, if_neg hzero,
    startsFloat, if_neg (Nat.not_lt.2 h), ofDigitChars_natText]
  simp

theorem atomValue_intText (lim : Limits) {n : ℤ} (h : (natText n.natAbs).length ≤ lim.intDigits) :
    atomValue lim (intText n) = .ok (.int n) := by
  have hnumber : numberValue lim (intText n) = .ok (.int n) := by
    cases n with
    | ofNat n =>
        have hunsigned : numberValue lim (natText n) = unsignedValue lim false (natText n) := by
          unfold numberValue
          split
          · rename_i heq
            exact absurd heq (natText_head_ne (by decide) _)
          · rfl
        exact hunsigned.trans (unsignedValue_natText lim false h)
    | negSucc n => exact unsignedValue_natText lim true h
  have hword : ∀ w : Text, (w.head?.any fun c => c ≠ '-' && !c.isDigit) = true →
      intText n ≠ w := by
    rintro (_ | ⟨c, w⟩) hw
    · exact intText_ne_nil n
    · have hc : c ≠ '-' ∧ c.isDigit = false := by simpa using hw
      cases n with
      | ofNat n => exact natText_head_ne hc.2 w
      | negSucc n => exact fun h => hc.1 (List.cons.inj h).1.symm
  have hinf : intText n ≠ "-Infinity".toList := by
    cases n with
    | ofNat n => exact natText_head_ne (by decide) _
    | negSucc n => exact fun h => natText_head_ne (by decide) _ (List.cons.inj h).2
  rw [atomValue, if_neg (hword _ (by decide)), if_neg (hword _ (by decide)),
    if_neg (hword _ (by decide)), if_neg (hword _ (by decide)), if_neg (hword _ (by decide)),
    if_neg hinf, hnumber]

theorem machineStep_scalar (lim : Limits) {v : Scalar} (hv : v.Fits lim) (stack : List Frame) :
    machineStep lim ⟨stack, .value⟩ v.token = .ok (complete stack v.toJson) := by
  cases v with
  | null => rfl
  | int n =>
      change (atomValue lim (intText n)).map (complete stack) = _
      rw [atomValue_intText lim hv]
      rfl
  | str s => rfl

theorem setMember_of_notMem {α : Type*} {k : Text} (v : α) {acc : List (Text × α)}
    (h : k ∉ acc.map Prod.fst) : setMember k v acc = acc ++ [(k, v)] := by
  induction acc with
  | nil => rfl
  | cons m acc ih =>
      have hk : m.1 ≠ k := fun he => h (by simp [he])
      have htail : k ∉ acc.map Prod.fst := fun hm => h (by simp [hm])
      simp [setMember, hk, ih htail]

def toJsonMember (m : Text × Scalar) : Text × Json := (m.1, m.2.toJson)

theorem runMachine_member (lim : Limits) {m : Text × Scalar} (hm : m.2.Fits lim)
    {acc : List (Text × Json)} (hkey : m.1 ∉ acc.map Prod.fst) (ts : List Token) :
    runMachine lim ⟨[], .key acc⟩ (memberTokens m ++ ts) =
      runMachine lim ⟨[], .afterMember (acc ++ [toJsonMember m])⟩ ts := by
  have hvalue := machineStep_scalar lim hm [.obj acc m.1]
  change (machineStep lim ⟨[.obj acc m.1], .value⟩ m.2.token).bind _ = _
  rw [hvalue]
  change runMachine lim ⟨[], .afterMember (setMember m.1 m.2.toJson acc)⟩ ts = _
  rw [setMember_of_notMem _ hkey]
  rfl

theorem runMachine_members (lim : Limits) {ms : List (Text × Scalar)} (hne : ms ≠ [])
    (hfit : ∀ m ∈ ms, m.2.Fits lim) (acc : List (Text × Json))
    (hkeys : (acc.map Prod.fst ++ ms.map Prod.fst).Nodup) :
    runMachine lim ⟨[], .key acc⟩ (membersTokens ms) =
      .ok (.obj (acc ++ ms.map toJsonMember)) := by
  induction ms generalizing acc with
  | nil => exact absurd rfl hne
  | cons m ms ih =>
      have hkey : m.1 ∉ acc.map Prod.fst := fun h =>
        (List.nodup_append.1 hkeys).2.2 _ h _ (by simp) rfl
      have hm := hfit m (by simp)
      cases ms with
      | nil =>
          change runMachine lim _ (memberTokens m ++ [.close true]) = _
          rw [runMachine_member lim hm hkey]
          rfl
      | cons m' ms =>
          change runMachine lim _ (memberTokens m ++ .comma :: membersTokens (m' :: ms)) = _
          rw [runMachine_member lim hm hkey]
          have hkeys' : ((acc ++ [toJsonMember m]).map Prod.fst ++
              (m' :: ms).map Prod.fst).Nodup := by
            simpa [toJsonMember] using hkeys
          have hrest := ih (by simp) (fun x hx => hfit x (by simp [hx])) _ hkeys'
          change runMachine lim ⟨[], .key (acc ++ [toJsonMember m])⟩ _ = _
          rw [hrest]
          simp

/-! ### No line breaks -/

theorem newline_notMem_escapeChar (c : Char) : '\n' ∉ escapeChar c := by
  have hunicode : ∀ n, '\n' ∉ unicodeEscape n := by
    intro n
    simp [unicodeEscape, newline_ne_hexDigit]
  unfold escapeChar
  split_ifs with hquote hbackslash hnewline hreturn htab hback hfeed hplain hbasic
  · decide
  · decide
  · decide
  · decide
  · decide
  · decide
  · decide
  · simpa using Ne.symm hnewline
  · exact hunicode c.toNat
  · simp [hunicode]

theorem newline_notMem_dumpsString (s : Text) : '\n' ∉ dumpsString s := by
  simp [dumpsString, newline_notMem_escapeChar]

theorem newline_notMem_scalar (v : Scalar) : '\n' ∉ v.dumps := by
  cases v with
  | null => decide
  | int n =>
      intro h
      exact absurd (isAtomChar_of_mem_intText h) (by decide)
  | str s => exact newline_notMem_dumpsString s

theorem newline_notMem_dumpsMember (m : Text × Scalar) : '\n' ∉ dumpsMember m := by
  simp [dumpsMember, newline_notMem_dumpsString, newline_notMem_scalar]

theorem notMem_members {c : Char} (hc : c ∉ ", ".toList) {ms : List (Text × Scalar)}
    (h : ∀ m ∈ ms, c ∉ dumpsMember m) : c ∉ ", ".toList.intercalate (ms.map dumpsMember) := by
  induction ms with
  | nil => exact List.not_mem_nil
  | cons m ms ih =>
      obtain ⟨hhead, htail⟩ := List.forall_mem_cons.1 h
      cases ms with
      | nil => simpa using hhead
      | cons m' ms =>
          rw [List.map_cons, List.map_cons, List.intercalate_cons_cons]
          rw [List.mem_append, List.mem_append, not_or, not_or]
          exact ⟨⟨hhead, hc⟩, ih htail⟩

theorem newline_notMem_members (ms : List (Text × Scalar)) :
    '\n' ∉ ", ".toList.intercalate (ms.map dumpsMember) :=
  notMem_members (by decide) fun m _ => newline_notMem_dumpsMember m

/-- `json.loads` inverts `json.dumps` on a dictionary of distinct keys. -/
theorem loads_dumps (lim : Limits) {ms : List (Text × Scalar)} (hkeys : (ms.map Prod.fst).Nodup)
    (hfit : ∀ m ∈ ms, m.2.Fits lim) :
    loads lim (dumps ms) = .ok (.obj (ms.map toJsonMember)) := by
  have hopen : openContainer lim ⟨[], .value⟩ [] true = .ok ⟨[], .keyOrClose⟩ := by
    have hdepth : ¬ lim.depth ≤ (⟨[], .value⟩ : Machine).depth := Nat.not_le.2 lim.depth_pos
    rw [openContainer, if_neg hdepth]
    rfl
  rw [loads, scan_dumps]
  change (openContainer lim ⟨[], .value⟩ [] true).bind
    (fun m => runMachine lim m (membersTokens ms)) = _
  rw [hopen]
  cases ms with
  | nil => rfl
  | cons m ms =>
      have hrun := runMachine_members lim (by simp) hfit [] (by simpa using hkeys)
      rw [List.nil_append] at hrun
      rw [← hrun]
      cases ms <;> rfl

end JsonText

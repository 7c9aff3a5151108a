import Notetaker.ExitStatus
import Notetaker.TextRegex

/-!
# How the runner reads a bot

`_stream_output` reads the lines of the bot, keeps the last result that it can parse and fires
`on_recording` at the first line with the signal. A line beyond the limit of the reader raises, and so
does a result whose JSON breaks a limit of the interpreter. Nothing is read after that.
-/

open PythonText PythonFloat PythonUuid JsonText

namespace Notetaker

/-- `OREEAI_BOT_RESULT (\{.*\})` -/
def resultLineRe : TextRegex :=
  .seq "OREEAI_BOT_RESULT "
    (.group (.seq (.atom (.char '{')) (.seq TextRegex.anything (.atom (.char '}')))))

/-- `\brecording started\b` -/
def recordingSignalRe : TextRegex := .seq .boundary (.seq "recording started" .boundary)

/-- The limit of an `asyncio.StreamReader`, in bytes. -/
def readerLimit : ℕ := 65536

def utf8Size (line : Text) : ℕ := (line.map Char.utf8Size).sum

/-- What `_stream_output` holds; `failed` once it has raised. -/
structure StreamState where
  result : Option ResultPayload
  recordingFired : Bool
  failed : Bool

section Stream

variable (lim : Limits) (isAlnum : Char → Bool)

/-- An error is one that `parse_result_line` does not catch. -/
def parseResultLine (line : Text) : Except JsonError (Option ResultPayload) :=
  match TextRegex.search (pythonRegex isAlnum) resultLineRe line with
  | none => .ok none
  | some found =>
      match loads lim (found.captured.getD []) with
      | .ok (.obj members) => .ok (some members)
      | .ok _ | .error .decode => .ok none
      | .error e => .error e

def recordingSignal (line : Text) : Bool :=
  (TextRegex.search (pythonRegex isAlnum) recordingSignalRe line).isSome

/-- One turn of `pump`, with the line that is read without its line break. -/
def pump (s : StreamState) (raw : Text) : StreamState :=
  if s.failed then s
  else if readerLimit < utf8Size raw then { s with failed := true }
  else
    match parseResultLine lim isAlnum (rstrip raw) with
    | .error _ => { s with failed := true }
    | .ok parsed => { s with
        result := parsed.or s.result
        recordingFired := s.recordingFired || recordingSignal isAlnum (rstrip raw) }

def streamOutput (lines : List Text) : StreamState :=
  lines.foldl (pump lim isAlnum) ⟨none, false, false⟩

/-- The line is read and neither limit is broken. -/
def Readable (raw : Text) : Prop :=
  utf8Size raw ≤ readerLimit ∧ ∀ e, parseResultLine lim isAlnum (rstrip raw) ≠ .error e

variable {lim isAlnum} in
/-- A check over concrete lines. -/
theorem readable_of_all {lines : List Text} (h : (lines.all fun raw =>
    decide (utf8Size raw ≤ readerLimit) && (parseResultLine lim isAlnum (rstrip raw)).isOk) = true) :
    ∀ raw ∈ lines, Readable lim isAlnum raw := by
  intro raw hraw
  obtain ⟨hsize, hparse⟩ := (Bool.and_eq_true _ _).mp (List.all_eq_true.1 h raw hraw)
  refine ⟨of_decide_eq_true hsize, fun e he => ?_⟩
  rw [he] at hparse
  cases hparse

def lastResult : List Text → Option ResultPayload
  | [] => none
  | raw :: lines =>
      (lastResult lines).or (parseResultLine lim isAlnum (rstrip raw)).toOption.join

end Stream

def StreamState.returned (s : StreamState) : Option (Option ResultPayload) :=
  if s.failed then none else some s.result

section Laws

variable {lim : Limits} {isAlnum : Char → Bool}

theorem pump_of_failed {s : StreamState} (h : s.failed) (raw : Text) :
    pump lim isAlnum s raw = s := if_pos h

theorem pump_cases {s : StreamState} (hs : s.failed = false) (raw : Text) :
    (¬ Readable lim isAlnum raw ∧ (pump lim isAlnum s raw).failed ∧
      (pump lim isAlnum s raw).recordingFired = s.recordingFired) ∨
    (Readable lim isAlnum raw ∧ (pump lim isAlnum s raw).failed = false ∧
      (pump lim isAlnum s raw).recordingFired =
        (s.recordingFired || recordingSignal isAlnum (rstrip raw)) ∧
      ∃ parsed, parseResultLine lim isAlnum (rstrip raw) = .ok parsed ∧
        (pump lim isAlnum s raw).result = parsed.or s.result) := by
  unfold pump
  rw [if_neg (by simp [hs])]
  by_cases hsize : readerLimit < utf8Size raw
  · rw [if_pos hsize]
    exact .inl ⟨fun h => absurd h.1 (not_le.2 hsize), rfl, rfl⟩
  · rw [if_neg hsize]
    cases hparse : parseResultLine lim isAlnum (rstrip raw) with
    | error e => exact .inl ⟨fun h => h.2 e hparse, rfl, rfl⟩
    | ok parsed =>
        refine .inr ⟨⟨not_lt.1 hsize, fun e he => ?_⟩, hs, rfl, parsed, rfl, rfl⟩
        rw [hparse] at he
        cases he

theorem foldl_pump_of_failed {s : StreamState} (h : s.failed) (lines : List Text) :
    lines.foldl (pump lim isAlnum) s = s := by
  induction lines with
  | nil => rfl
  | cons raw lines ih => rw [List.foldl_cons, pump_of_failed h, ih]

theorem failed_foldl_pump {s : StreamState} (hs : s.failed = false) (lines : List Text) :
    (lines.foldl (pump lim isAlnum) s).failed = false ↔ ∀ raw ∈ lines, Readable lim isAlnum raw := by
  induction lines generalizing s with
  | nil => simp [hs]
  | cons raw lines ih =>
      rw [List.foldl_cons, List.forall_mem_cons]
      rcases pump_cases hs raw with ⟨hraw, hfailed, -⟩ | ⟨hraw, hfailed, -⟩
      · rw [foldl_pump_of_failed hfailed]
        simp [hraw, hfailed]
      · rw [ih hfailed]
        simp [hraw]

theorem result_foldl_pump {s : StreamState} (hs : s.failed = false) {lines : List Text}
    (hlines : ∀ raw ∈ lines, Readable lim isAlnum raw) :
    (lines.foldl (pump lim isAlnum) s).result = (lastResult lim isAlnum lines).or s.result := by
  induction lines generalizing s with
  | nil => rfl
  | cons raw lines ih =>
      obtain ⟨hhead, htail⟩ := List.forall_mem_cons.1 hlines
      rcases pump_cases hs raw with ⟨hraw, -⟩ | ⟨-, hfailed, -, parsed, hparse, hresult⟩
      · exact absurd hhead hraw
      · rw [List.foldl_cons, ih hfailed htail, hresult, lastResult, hparse, Option.or_assoc]
        rfl

theorem lastResult_append (before after : List Text) :
    lastResult lim isAlnum (before ++ after) =
      (lastResult lim isAlnum after).or (lastResult lim isAlnum before) := by
  induction before with
  | nil => simp [lastResult]
  | cons raw before ih => rw [List.cons_append, lastResult, ih, lastResult, Option.or_assoc]

/-! ### The result line -/

def resultMark : Text := "OREEAI_BOT_RESULT ".toList

/-- A head in which the mark does not begin: it has no `R` and does not end in an `O`. -/
structure Unmarked (head : Text) : Prop where
  notMem : 'R' ∉ head
  last : head.getLast? ≠ some 'O'

theorem Unmarked.ends_resultLineRe {head pre₁ pre₂ post : Text} (hhead : Unmarked head)
    (hsplit : head = pre₁ ++ pre₂) (hne : pre₂ ≠ []) (previous : Option Char) :
    resultLineRe.ends (pythonRegex isAlnum) ⟨previous, pre₂ ++ post, none⟩ = [] := by
  have hmark : (TextRegex.literal resultMark).ends (pythonRegex isAlnum)
      ⟨previous, pre₂ ++ post, none⟩ = [] := by
    by_contra h
    obtain ⟨rest, hrest⟩ :=
      TextRegex.prefix_of_ends_literal (TextRegex.exact_pythonRegex isAlnum) h
    change 'O' :: 'R' :: "EEAI_BOT_RESULT ".toList ++ rest = pre₂ ++ post at hrest
    cases pre₂ with
    | nil => exact hne rfl
    | cons x pre₃ =>
        cases pre₃ with
        | cons y pre₃ =>
            simp only [List.cons_append, List.cons.injEq] at hrest
            apply hhead.notMem
            rw [hsplit, ← hrest.2.1]
            simp
        | nil =>
            have hlast : head.getLast? = some x := by rw [hsplit, List.getLast?_append_cons]; rfl
            simp only [List.cons_append, List.cons.injEq] at hrest
            exact hhead.last (hlast.trans (congrArg some hrest.1.symm))
  change ((TextRegex.literal resultMark).ends _ _).flatMap _ = []
  rw [hmark, List.flatMap_nil]

theorem Unmarked.search_append {head : Text} (hhead : Unmarked head) (s : Text) :
    TextRegex.search (pythonRegex isAlnum) resultLineRe (head ++ s) =
      TextRegex.search (pythonRegex isAlnum) resultLineRe s := by
  rw [TextRegex.search, TextRegex.searchFrom_append_of_skip fun pre₁ pre₂ hsplit hne =>
    hhead.ends_resultLineRe hsplit hne _]
  apply TextRegex.searchFrom_congr_previous
  intro p q s
  exact TextRegex.ends_seq_congr (TextRegex.ends_literal_congr 'O' "REEAI_BOT_RESULT ".toList p q s
    none)

theorem Unmarked.parseResultLine_append {head : Text} (hhead : Unmarked head) (s : Text) :
    parseResultLine lim isAlnum (head ++ s) = parseResultLine lim isAlnum s := by
  unfold parseResultLine
  rw [hhead.search_append]

theorem search_resultMark {mid : Text} (hmid : '\n' ∉ mid) :
    TextRegex.search (pythonRegex isAlnum) resultLineRe (resultMark ++ '{' :: (mid ++ ['}'])) =
      some ⟨some '}', [], some ('{' :: (mid ++ ['}']))⟩ := by
  have hexact := TextRegex.exact_pythonRegex isAlnum
  apply TextRegex.searchFrom_of_ends
  have hdots : ∀ x ∈ mid, (pythonRegex isAlnum).accepts .dot x := by
    intro x hx
    have hne : x ≠ '\n' := fun h => hmid (h ▸ hx)
    simpa [pythonRegex, pythonAccepts] using hne
  have hgreedy := TextRegex.head?_ends_star_char hexact (z := '}') hdots rfl (some '{') none
  have hbrace := TextRegex.ends_char hexact '{' '{' (resultMark.getLast?.or none) (mid ++ ['}'])
    none
  rw [if_pos rfl] at hbrace
  have hmark := TextRegex.ends_literal hexact resultMark ('{' :: (mid ++ ['}'])) none none
  change (((TextRegex.literal resultMark).ends _ _).flatMap _).head? = _
  rw [hmark, List.flatMap_singleton, TextRegex.ends_group, List.head?_map, TextRegex.ends_seq, hbrace,
    List.flatMap_singleton]
  change Option.map _ ((TextRegex.seq (.star (.atom .dot)) _).ends _ _).head? = _
  rw [hgreedy]
  simp

theorem parseResultLine_of_loads {mid : Text} {payload : ResultPayload} (hmid : '\n' ∉ mid)
    (hload : loads lim ('{' :: (mid ++ ['}'])) = .ok (.obj payload)) :
    parseResultLine lim isAlnum (resultMark ++ '{' :: (mid ++ ['}'])) = .ok (some payload) := by
  rw [parseResultLine, search_resultMark hmid]
  dsimp only [Option.getD]
  rw [hload]

theorem returned_streamOutput_iff (lines : List Text) (result : Option ResultPayload) :
    (streamOutput lim isAlnum lines).returned = some result ↔
      (∀ raw ∈ lines, Readable lim isAlnum raw) ∧ lastResult lim isAlnum lines = result := by
  unfold StreamState.returned
  by_cases hlines : ∀ raw ∈ lines, Readable lim isAlnum raw
  · have hfailed := (failed_foldl_pump (s := ⟨none, false, false⟩) rfl lines).2 hlines
    have hresult := result_foldl_pump (s := ⟨none, false, false⟩) rfl hlines
    rw [Option.or_none] at hresult
    rw [streamOutput, if_neg (by simp [hfailed]), hresult, Option.some.injEq]
    exact (and_iff_right hlines).symm
  · have hfailed := mt (failed_foldl_pump (s := ⟨none, false, false⟩) rfl lines).1 hlines
    rw [Bool.not_eq_false] at hfailed
    rw [streamOutput, if_pos hfailed]
    exact iff_of_false (by simp) fun h => hlines h.1

/-! ### The signal -/

def signalText : Text := "recording started".toList

theorem infix_of_signal {line : Text} (h : recordingSignal isAlnum line) : signalText <:+: line :=
  TextRegex.infix_of_search_word (TextRegex.exact_pythonRegex isAlnum) h

theorem recordingFired_foldl {s : StreamState} (hs : s.failed = false) (lines : List Text) :
    (lines.foldl (pump lim isAlnum) s).recordingFired =
      (s.recordingFired || (streamOutput lim isAlnum lines).recordingFired) := by
  induction lines generalizing s with
  | nil => exact (Bool.or_false _).symm
  | cons raw lines ih =>
      have hstart : (⟨none, false, false⟩ : StreamState).failed = false := rfl
      rw [streamOutput, List.foldl_cons, List.foldl_cons]
      rcases @pump_cases lim isAlnum _ hs raw with
        ⟨hraw, hfailed, hfired⟩ | ⟨hraw, hfailed, hfired, -⟩
      · rcases @pump_cases lim isAlnum _ hstart raw with
          ⟨-, hfailed', hfired'⟩ | ⟨hraw', -⟩
        · rw [foldl_pump_of_failed hfailed, foldl_pump_of_failed hfailed', hfired, hfired',
            Bool.or_false]
        · exact absurd hraw' hraw
      · rcases @pump_cases lim isAlnum _ hstart raw with
          ⟨hraw', -⟩ | ⟨-, hfailed', hfired', -⟩
        · exact absurd hraw hraw'
        · rw [ih hfailed, ih hfailed', hfired, hfired', Bool.false_or, Bool.or_assoc]

theorem recordingFired_append (before after : List Text) :
    (streamOutput lim isAlnum (before ++ after)).recordingFired ↔
      (streamOutput lim isAlnum before).recordingFired ∨
        (∀ raw ∈ before, Readable lim isAlnum raw) ∧
          (streamOutput lim isAlnum after).recordingFired := by
  have hstart : (⟨none, false, false⟩ : StreamState).failed = false := rfl
  have hreads := @failed_foldl_pump lim isAlnum _ hstart before
  rw [streamOutput, List.foldl_append]
  by_cases hbefore : ∀ raw ∈ before, Readable lim isAlnum raw
  · rw [recordingFired_foldl (hreads.2 hbefore), Bool.or_eq_true]
    constructor
    · rintro (h | h)
      · exact .inl h
      · exact .inr ⟨hbefore, h⟩
    · rintro (h | ⟨-, h⟩)
      · exact .inl h
      · exact .inr h
  · have hfailed := mt hreads.1 hbefore
    rw [Bool.not_eq_false] at hfailed
    rw [foldl_pump_of_failed hfailed]
    constructor
    · exact .inl
    · rintro (h | ⟨hall, -⟩)
      · exact h
      · exact absurd hall hbefore

theorem recordingFired_singleton (raw : Text) :
    (streamOutput lim isAlnum [raw]).recordingFired ↔
      Readable lim isAlnum raw ∧ recordingSignal isAlnum (rstrip raw) := by
  have hstart : (⟨none, false, false⟩ : StreamState).failed = false := rfl
  change (pump lim isAlnum ⟨none, false, false⟩ raw).recordingFired ↔ _
  rcases @pump_cases lim isAlnum _ hstart raw with
    ⟨hraw, -, hfired⟩ | ⟨hraw, -, hfired, -⟩
  · rw [hfired]
    simp [hraw]
  · rw [hfired]
    simp [hraw]

theorem not_recordingFired_of_infix {lines : List Text}
    (hlines : ∀ raw ∈ lines, ¬ signalText <:+: raw) :
    ¬ (streamOutput lim isAlnum lines).recordingFired := by
  induction lines with
  | nil => exact Bool.false_ne_true
  | cons raw lines ih =>
      obtain ⟨hhead, htail⟩ := List.forall_mem_cons.1 hlines
      rw [← List.singleton_append, recordingFired_append, recordingFired_singleton]
      rintro (⟨-, hsignal⟩ | ⟨-, hfired⟩)
      · apply hhead
        exact (infix_of_signal hsignal).trans (List.rdropWhile_prefix _ _).isInfix
      · exact ih htail hfired

end Laws

end Notetaker

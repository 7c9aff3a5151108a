import Notetaker.Interleaving
import Notetaker.PythonBytes
import Notetaker.ResultLine

/-!
# A spawned bot

`_stream_output` runs a pump for each of the two streams of the bot. They share the result and the flag
of `on_recording`, and between two awaits one pump goes on alone. What raises in a pump comes out of
`gather` at once, and `spawn_bot` never waits for the process then. A line beyond the limit of the
reader raises, and so do a result whose JSON breaks a limit of the interpreter and a callback that fails.
-/

open PythonText PythonFloat PythonUuid PythonBytes JsonText

namespace Notetaker

inductive CallbackEnd where
  | returns | raises | hangs
  deriving DecidableEq

/-- A pump with the lines that are still to be read; `firing` awaits `on_recording`. -/
inductive Pump where
  | reading (lines : List Bytes)
  | firing (lines : List Bytes)
  | finished | raised
  deriving DecidableEq

/-- The left stream is `stdout`, the right one `stderr`. -/
structure BotProcess where
  stream : Side → Bytes
  exitCode : ℤ

structure OutputState where
  pumps : Side → Pump
  result : Option ResultPayload
  recordingFired : Bool
  /-- The lines that the runner has logged. -/
  logged : List Text

def OutputState.setPump (s : OutputState) (side : Side) (pump : Pump) : OutputState :=
  { s with pumps := Function.update s.pumps side pump }

/-- `raw.decode(errors="replace").rstrip()` -/
def decodedLine (raw : Bytes) : Text := rstrip (decodeUtf8 raw)

def botLines (bot : BotProcess) (side : Side) : List Bytes := byteLines (bot.stream side)

def Pump.weight : Pump → ℕ
  | .reading lines => 2 * lines.length + 1
  | .firing lines => 2 * lines.length + 2
  | .finished | .raised => 0

def OutputState.weight (s : OutputState) : ℕ := (s.pumps .left).weight + (s.pumps .right).weight

section Pumps

variable (lim : Limits) (isAlnum : Char → Bool) (onRecording : Option CallbackEnd)

/-- What a pump does with a line until it awaits again. -/
def pumpLine (side : Side) (s : OutputState) (raw : Bytes) (lines : List Bytes) : OutputState :=
  if readerLimit < lineSize raw then s.setPump side .raised
  else
    let line := decodedLine raw
    let s := { s with logged := s.logged ++ [line] }
    match parseResultLine lim isAlnum line with
    | .error _ => s.setPump side .raised
    | .ok parsed =>
        let s := { s with result := parsed.or s.result }
        if onRecording.isSome && !s.recordingFired && recordingSignal isAlnum line then
          { s with recordingFired := true }.setPump side (.firing lines)
        else s.setPump side (.reading lines)

def pumpTurn (side : Side) (s : OutputState) : Option OutputState :=
  match s.pumps side with
  | .reading [] => some (s.setPump side .finished)
  | .reading (raw :: lines) => some (pumpLine lim isAlnum onRecording side s raw lines)
  | .firing lines =>
      match onRecording with
      | some .returns => some (s.setPump side (.reading lines))
      | some .raises => some (s.setPump side .raised)
      | some .hangs | none => none
  | .finished | .raised => none

end Pumps

theorem weight_setPump {s : OutputState} {side : Side} {pump : Pump}
    (h : pump.weight < (s.pumps side).weight) : (s.setPump side pump).weight < s.weight := by
  unfold OutputState.weight OutputState.setPump
  cases side <;> simp [Function.update] <;> exact h

section Pumps

variable {lim : Limits} {isAlnum : Char → Bool} {onRecording : Option CallbackEnd}

variable (lim isAlnum onRecording) in
theorem pumpLine_cases (side : Side) (s : OutputState) (raw : Bytes) (lines : List Bytes) :
    (readerLimit < lineSize raw ∧
      pumpLine lim isAlnum onRecording side s raw lines = s.setPump side .raised) ∨
    (∃ e, parseResultLine lim isAlnum (decodedLine raw) = .error e ∧
      pumpLine lim isAlnum onRecording side s raw lines =
        { s with logged := s.logged ++ [decodedLine raw] }.setPump side .raised) ∨
    (∃ parsed, lineSize raw ≤ readerLimit ∧
      parseResultLine lim isAlnum (decodedLine raw) = .ok parsed ∧
      ((onRecording.isSome ∧ s.recordingFired = false ∧ recordingSignal isAlnum (decodedLine raw) ∧
          pumpLine lim isAlnum onRecording side s raw lines =
            { s with
              result := parsed.or s.result
              recordingFired := true
              logged := s.logged ++ [decodedLine raw] }.setPump side (.firing lines)) ∨
        ((s.recordingFired = false → onRecording.isSome →
            recordingSignal isAlnum (decodedLine raw) = false) ∧
          pumpLine lim isAlnum onRecording side s raw lines =
            { s with
              result := parsed.or s.result
              logged := s.logged ++ [decodedLine raw] }.setPump side (.reading lines)))) := by
  unfold pumpLine
  by_cases hsize : readerLimit < lineSize raw
  · exact .inl ⟨hsize, if_pos hsize⟩
  · rw [if_neg hsize]
    dsimp only
    cases hparse : parseResultLine lim isAlnum (decodedLine raw) with
    | error e => exact .inr (.inl ⟨e, rfl, rfl⟩)
    | ok parsed =>
        refine .inr (.inr ⟨parsed, not_lt.1 hsize, rfl, ?_⟩)
        by_cases hfire : (onRecording.isSome && !s.recordingFired &&
            recordingSignal isAlnum (decodedLine raw)) = true
        · left
          have hall := hfire
          simp only [Bool.and_eq_true, Bool.not_eq_true'] at hall
          exact ⟨hall.1.1, hall.1.2, hall.2, if_pos hfire⟩
        · right
          refine ⟨fun hfired hcallback => ?_, if_neg hfire⟩
          simpa [hfired, hcallback] using hfire

theorem weight_pumpTurn {side : Side} {s t : OutputState}
    (h : pumpTurn lim isAlnum onRecording side s = some t) : t.weight < s.weight := by
  unfold pumpTurn at h
  cases hpump : s.pumps side with
  | reading lines =>
      rw [hpump] at h
      cases lines with
      | nil =>
          obtain rfl := Option.some.inj h
          apply weight_setPump
          rw [hpump]
          exact Nat.zero_lt_one
      | cons raw lines =>
          obtain rfl := Option.some.inj h
          have hraised : (Pump.raised).weight < (s.pumps side).weight := by simp [hpump, Pump.weight]
          have hfiring : (Pump.firing lines).weight < (s.pumps side).weight := by
            simp only [hpump, Pump.weight, List.length_cons]
            omega
          have hreading : (Pump.reading lines).weight < (s.pumps side).weight := by
            simp [hpump, Pump.weight]
          rcases pumpLine_cases lim isAlnum onRecording side s raw lines with
            ⟨-, heq⟩ | ⟨e, -, heq⟩ | ⟨parsed, -, -, ⟨-, -, -, heq⟩ | ⟨-, heq⟩⟩ <;> rw [heq]
          · exact weight_setPump hraised
          · exact weight_setPump hraised
          · exact weight_setPump hfiring
          · exact weight_setPump hreading
  | firing lines =>
      rw [hpump] at h
      rcases onRecording with - | callback
      · cases h
      · cases callback with
        | hangs => cases h
        | returns | raises =>
            obtain rfl := Option.some.inj h
            apply weight_setPump
            rw [hpump]
            simp [Pump.weight]
  | finished | raised =>
      rw [hpump] at h
      cases h

end Pumps

section Spawn

variable (lim : Limits) (isAlnum : Char → Bool) (onRecording : Option CallbackEnd)

/-- `asyncio.gather(pump(proc.stdout), pump(proc.stderr))` -/
def pumpGather : Gather OutputState where
  turn := pumpTurn lim isAlnum onRecording
  raised s := s.pumps .left = .raised || s.pumps .right = .raised
  weight := OutputState.weight
  decreases _ _ _ := weight_pumpTurn

def outputStart (bot : BotProcess) : OutputState :=
  ⟨fun side => .reading (botLines bot side), none, false, []⟩

def outputEnd (order : ℕ → Side) (bot : BotProcess) : OutputState :=
  (pumpGather lim isAlnum onRecording).run order (outputStart bot)

/-- What `spawn_bot` comes to; `pending` awaits a callback that does not end. -/
inductive SpawnEnd where
  | returned (code : ExitCode) (result : Option ResultPayload)
  | raised | pending

/-- `none` for a process that cannot be created. -/
def spawnBot (order : ℕ → Side) : Option BotProcess → SpawnEnd
  | none => .returned (some (-1)) none
  | some bot =>
      let s := outputEnd lim isAlnum onRecording order bot
      if s.pumps .left = .raised || s.pumps .right = .raised then .raised
      else if s.pumps .left = .finished && s.pumps .right = .finished then
        .returned (some bot.exitCode) s.result
      else .pending

/-- What `run_call` does behind the spawn. -/
inductive RunCallAct where
  | discardProfile
  | applyExitStatus (code : ExitCode) (result : Option ResultPayload)

def runCall (callback : CallbackEnd) (order : ℕ → Side) (row : Option Call)
    (process : Option BotProcess) : List RunCallAct :=
  if row.map Call.status = some .joining then
    match spawnBot lim isAlnum (some callback) order process with
    | .returned code result => [.discardProfile, .applyExitStatus code result]
    | .raised => [.discardProfile]
    | .pending => []
  else [.discardProfile]

end Spawn

/-! ## Every exit is handled -/

section Exits

variable (lim : Limits) (isAlnum : Char → Bool) (onRecording : Option CallbackEnd)

def botTexts (bot : BotProcess) (side : Side) : List Text := (botLines bot side).map decodedLine

/-- The exit code comes back with the last result among the lines in the order in which they are read,
and `run_call` hands both on. -/
structure ExitKept (order : ℕ → Side) (bot : BotProcess) : Prop where
  complete : Interleaves (botTexts bot .left) (botTexts bot .right)
    (outputEnd lim isAlnum onRecording order bot).logged
  returned : spawnBot lim isAlnum onRecording order (some bot) = .returned (some bot.exitCode)
    (lastResult lim isAlnum (outputEnd lim isAlnum onRecording order bot).logged)
  handled : ∀ callback ∈ onRecording, ∀ row : Call, row.status = .joining →
    .applyExitStatus (some bot.exitCode)
        (lastResult lim isAlnum (outputEnd lim isAlnum onRecording order bot).logged) ∈
      runCall lim isAlnum callback order (some row) (some bot)

/-- The line is within the limit of the reader and its result breaks no limit of the interpreter. -/
structure LineReadable (raw : Bytes) : Prop where
  size : lineSize raw ≤ readerLimit
  parses : ∀ e, parseResultLine lim isAlnum (decodedLine raw) ≠ .error e

/-- Every line can be read, and a callback that is called returns. -/
structure Attended (bot : BotProcess) : Prop where
  readable : ∀ side, ∀ raw ∈ botLines bot side, LineReadable lim isAlnum raw
  returns : ∀ callback ∈ onRecording, ∀ side, ∀ raw ∈ botLines bot side,
    recordingSignal isAlnum (decodedLine raw) → callback = .returns

def Pump.rest : Pump → List Bytes
  | .reading lines | .firing lines => lines
  | .finished | .raised => []

structure ReadSoFar (bot : BotProcess) (read : Side → List Bytes) (s : OutputState) : Prop where
  split : ∀ side, botLines bot side = read side ++ (s.pumps side).rest
  readable : ∀ side, ∀ raw ∈ read side, LineReadable lim isAlnum raw
  logged : Interleaves ((read .left).map decodedLine) ((read .right).map decodedLine) s.logged
  result : s.result = lastResult lim isAlnum s.logged

structure FiredSoFar (read : Side → List Bytes) (s : OutputState) : Prop where
  fired : s.recordingFired → onRecording.isSome ∧
    ∃ side, ∃ raw ∈ read side, recordingSignal isAlnum (decodedLine raw)
  silent : s.recordingFired = false → onRecording.isSome → ∀ side, ∀ raw ∈ read side,
    recordingSignal isAlnum (decodedLine raw) = false
  awaited : s.recordingFired →
    (∃ side lines, s.pumps side = .firing lines) ∨ onRecording = some .returns
  firing : ∀ side lines, s.pumps side = .firing lines → s.recordingFired

/-- Either the pumps go on or one has raised for a reason. -/
def OutputInv (bot : BotProcess) (s : OutputState) : Prop :=
  ((∃ side, s.pumps side = .raised) ∧ ¬ Attended lim isAlnum onRecording bot) ∨
    ((∀ side, s.pumps side ≠ .raised) ∧ ∃ read, ReadSoFar lim isAlnum bot read s ∧
      FiredSoFar isAlnum onRecording read s)

end Exits

section Exits

variable {lim : Limits} {isAlnum : Char → Bool} {onRecording : Option CallbackEnd}
  {bot : BotProcess}

@[simp] theorem setPump_pumps_self (s : OutputState) (side : Side) (pump : Pump) :
    (s.setPump side pump).pumps side = pump := Function.update_self _ _ _

@[simp] theorem setPump_pumps_of_ne {s : OutputState} {side side' : Side} (h : side' ≠ side)
    (pump : Pump) : (s.setPump side pump).pumps side' = s.pumps side' := Function.update_of_ne h _ _

theorem decodedLine_rstrip (raw : Bytes) : rstrip (decodedLine raw) = decodedLine raw :=
  List.rdropWhile_idempotent _ _

theorem lastResult_concat (lines : List Text) (raw : Bytes) :
    lastResult lim isAlnum (lines ++ [decodedLine raw]) =
      (parseResultLine lim isAlnum (decodedLine raw)).toOption.join.or
        (lastResult lim isAlnum lines) := by
  rw [lastResult_append, lastResult, lastResult, decodedLine_rstrip, Option.none_or]

theorem outputInv_start : OutputInv lim isAlnum onRecording bot (outputStart bot) := by
  right
  refine ⟨fun side => by simp [outputStart], fun _ => [], ?_, ?_⟩
  · exact {
      split := fun side => rfl
      readable := fun side raw h => by cases h
      logged := .nil
      result := rfl }
  · exact {
      fired := fun h => by cases h
      silent := fun _ _ side raw h => by cases h
      awaited := fun h => by cases h
      firing := fun side lines h => by cases h }

def readOne (read : Side → List Bytes) (side : Side) (raw : Bytes) : Side → List Bytes :=
  Function.update read side (read side ++ [raw])

theorem mem_readOne {read : Side → List Bytes} {side side' : Side} {raw raw' : Bytes} :
    raw' ∈ readOne read side raw side' ↔ raw' ∈ read side' ∨ (side' = side ∧ raw' = raw) := by
  unfold readOne
  rcases eq_or_ne side' side with rfl | hne
  · simp
  · simp [hne]

theorem ReadSoFar.setPump {read : Side → List Bytes} {s : OutputState}
    (h : ReadSoFar lim isAlnum bot read s) {side : Side} {pump : Pump}
    (hrest : pump.rest = (s.pumps side).rest) :
    ReadSoFar lim isAlnum bot read (s.setPump side pump) where
  split side' := by
    rcases eq_or_ne side' side with rfl | hne
    · rw [setPump_pumps_self, hrest]
      exact h.split side'
    · rw [setPump_pumps_of_ne hne]
      exact h.split side'
  readable := h.readable
  logged := h.logged
  result := h.result

theorem ReadSoFar.line {read : Side → List Bytes} {s : OutputState}
    (h : ReadSoFar lim isAlnum bot read s) {side : Side} {raw : Bytes} {lines : List Bytes}
    (hpump : s.pumps side = .reading (raw :: lines)) (hsize : lineSize raw ≤ readerLimit)
    {parsed : Option ResultPayload}
    (hparse : parseResultLine lim isAlnum (decodedLine raw) = .ok parsed) {pump : Pump}
    (hrest : pump.rest = lines) (fired : Bool) :
    ReadSoFar lim isAlnum bot (readOne read side raw)
      ({ s with
        result := parsed.or s.result
        recordingFired := fired
        logged := s.logged ++ [decodedLine raw] }.setPump side pump) where
  split side' := by
    have hsplit := h.split side'
    rcases eq_or_ne side' side with rfl | hne
    · rw [hpump] at hsplit
      rw [setPump_pumps_self, hrest, hsplit, readOne, Function.update_self, List.append_assoc]
      rfl
    · rw [setPump_pumps_of_ne hne, readOne, Function.update_of_ne hne]
      exact hsplit
  readable side' raw' hmem := by
    rcases mem_readOne.1 hmem with hmem | ⟨-, rfl⟩
    · exact h.readable side' raw' hmem
    · refine ⟨hsize, fun e he => ?_⟩
      rw [hparse] at he
      cases he
  logged := by
    have hlogged := h.logged
    cases side with
    | left =>
        have hleft := hlogged.left (decodedLine raw)
        simpa [readOne, Function.update, OutputState.setPump] using hleft
    | right =>
        have hright := hlogged.right (decodedLine raw)
        simpa [readOne, Function.update, OutputState.setPump] using hright
  result := by
    change parsed.or s.result = lastResult lim isAlnum (s.logged ++ [decodedLine raw])
    rw [lastResult_concat, hparse, h.result]
    rfl

theorem not_raised_setPump {s : OutputState} (h : ∀ side, s.pumps side ≠ .raised) {side : Side}
    {pump : Pump} (hpump : pump ≠ .raised) (side' : Side) :
    (s.setPump side pump).pumps side' ≠ .raised := by
  rcases eq_or_ne side' side with rfl | hne
  · rw [setPump_pumps_self]
    exact hpump
  · rw [setPump_pumps_of_ne hne]
    exact h side'

theorem FiredSoFar.setPump {read : Side → List Bytes} {s : OutputState}
    (h : FiredSoFar isAlnum onRecording read s) {side : Side} {pump : Pump}
    (hpump : ∀ lines, pump ≠ .firing lines)
    (hawaits : (∀ lines, s.pumps side ≠ .firing lines) ∨ onRecording = some .returns) :
    FiredSoFar isAlnum onRecording read (s.setPump side pump) where
  fired := h.fired
  silent := h.silent
  awaited hfired := by
    rcases hawaits with hawaits | hreturns
    · rcases h.awaited hfired with ⟨side', lines', hfiring⟩ | hreturns
      · have hne : side' ≠ side := by
          rintro rfl
          exact hawaits lines' hfiring
        exact .inl ⟨side', lines', (setPump_pumps_of_ne hne _).trans hfiring⟩
      · exact .inr hreturns
    · exact .inr hreturns
  firing side' lines' hfiring := by
    rcases eq_or_ne side' side with rfl | hne
    · rw [setPump_pumps_self] at hfiring
      exact absurd hfiring (hpump lines')
    · rw [setPump_pumps_of_ne hne] at hfiring
      exact h.firing side' lines' hfiring

theorem outputInv_raised {s : OutputState} (side : Side)
    (h : ¬ Attended lim isAlnum onRecording bot) :
    OutputInv lim isAlnum onRecording bot (s.setPump side .raised) :=
  .inl ⟨⟨side, setPump_pumps_self s side .raised⟩, h⟩

theorem outputInv_line {read : Side → List Bytes} {s : OutputState}
    (hreads : ReadSoFar lim isAlnum bot read s) (hfires : FiredSoFar isAlnum onRecording read s)
    (hraised : ∀ side, s.pumps side ≠ .raised) {side : Side} {raw : Bytes} {lines : List Bytes}
    (hpump : s.pumps side = .reading (raw :: lines)) :
    OutputInv lim isAlnum onRecording bot
      (pumpLine lim isAlnum onRecording side s raw lines) := by
  have hmem : raw ∈ botLines bot side := by
    rw [hreads.split side, hpump]
    simp [Pump.rest]
  rcases pumpLine_cases lim isAlnum onRecording side s raw lines with
    ⟨hsize, heq⟩ | ⟨e, hparse, heq⟩ | ⟨parsed, hsize, hparse, hcases⟩
  · rw [heq]
    exact outputInv_raised side fun h => absurd (h.readable side raw hmem).size (not_le.2 hsize)
  · rw [heq]
    exact outputInv_raised side fun h => (h.readable side raw hmem).parses e hparse
  · right
    rcases hcases with ⟨hcallback, hfired, hsignal, heq⟩ | ⟨hsilent, heq⟩
    · rw [heq]
      refine ⟨not_raised_setPump hraised (by simp), readOne read side raw,
        hreads.line hpump hsize hparse rfl true, ?_⟩
      exact {
        fired := fun _ => ⟨hcallback, side, raw, mem_readOne.2 (.inr ⟨rfl, rfl⟩), hsignal⟩
        silent := fun h => by cases h
        awaited := fun _ => .inl ⟨side, lines, setPump_pumps_self _ side _⟩
        firing := fun _ _ _ => rfl }
    · rw [heq]
      refine ⟨not_raised_setPump hraised (by simp), readOne read side raw,
        hreads.line hpump hsize hparse rfl s.recordingFired, ?_⟩
      exact {
        fired := fun hfired => by
          obtain ⟨hcallback, side', raw', hmem', hsignal⟩ := hfires.fired hfired
          exact ⟨hcallback, side', raw', mem_readOne.2 (.inl hmem'), hsignal⟩
        silent := fun hfired hcallback side' raw' hmem' => by
          rcases mem_readOne.1 hmem' with hold | ⟨-, rfl⟩
          · exact hfires.silent hfired hcallback side' raw' hold
          · exact hsilent hfired hcallback
        awaited := fun hfired => by
          rcases hfires.awaited hfired with ⟨side', lines', hfiring⟩ | hreturns
          · have hne : side' ≠ side := by
              rintro rfl
              rw [hpump] at hfiring
              cases hfiring
            exact .inl ⟨side', lines', (setPump_pumps_of_ne hne _).trans hfiring⟩
          · exact .inr hreturns
        firing := fun side' lines' hfiring => by
          rcases eq_or_ne side' side with rfl | hne
          · rw [setPump_pumps_self] at hfiring
            cases hfiring
          · rw [setPump_pumps_of_ne hne] at hfiring
            exact hfires.firing side' lines' hfiring }

theorem outputInv_turn {s t : OutputState} {side : Side}
    (hinv : OutputInv lim isAlnum onRecording bot s)
    (hgo : ((pumpGather lim isAlnum onRecording).raised s) = false)
    (hturn : pumpTurn lim isAlnum onRecording side s = some t) :
    OutputInv lim isAlnum onRecording bot t := by
  simp only [pumpGather, Bool.or_eq_false_iff, decide_eq_false_iff_not] at hgo
  rcases hinv with ⟨⟨side', hraised⟩, -⟩ | ⟨hraised, read, hreads, hfires⟩
  · cases side' with
    | left => exact absurd hraised hgo.1
    | right => exact absurd hraised hgo.2
  · unfold pumpTurn at hturn
    cases hpump : s.pumps side with
    | reading lines =>
        rw [hpump] at hturn
        cases lines with
        | cons raw lines =>
            obtain rfl := Option.some.inj hturn
            exact outputInv_line hreads hfires hraised hpump
        | nil =>
            obtain rfl := Option.some.inj hturn
            refine .inr ⟨not_raised_setPump hraised (by simp), read, ?_, ?_⟩
            · apply hreads.setPump
              rw [hpump]
              rfl
            · exact hfires.setPump (by simp) (.inl (by simp [hpump]))
    | firing lines =>
        have hfired := hfires.firing side lines hpump
        obtain ⟨-, side', raw, hmem, hsignal⟩ := hfires.fired hfired
        have hmem' : raw ∈ botLines bot side' := by
          rw [hreads.split side']
          exact List.mem_append_left _ hmem
        rw [hpump] at hturn
        rcases honRecording : onRecording with - | callback
        · rw [honRecording] at hturn
          cases hturn
        · rw [honRecording] at hturn
          cases callback with
          | hangs => cases hturn
          | raises =>
              obtain rfl := Option.some.inj hturn
              refine outputInv_raised side fun h => ?_
              cases h.returns .raises rfl side' raw hmem' hsignal
          | returns =>
              obtain rfl := Option.some.inj hturn
              rw [honRecording] at hfires
              refine .inr ⟨not_raised_setPump hraised (by simp), read, ?_, ?_⟩
              · apply hreads.setPump
                rw [hpump]
                rfl
              · exact hfires.setPump (by simp) (.inr rfl)
    | finished | raised =>
        rw [hpump] at hturn
        cases hturn

variable (lim isAlnum onRecording bot) in
theorem outputInv_end (order : ℕ → Side) :
    OutputInv lim isAlnum onRecording bot (outputEnd lim isAlnum onRecording order bot) := by
  apply Gather.run_invariant
  · intro side s t hinv hgo hturn
    exact outputInv_turn hinv hgo hturn
  · exact outputInv_start

inductive OutputOutcome (lim : Limits) (isAlnum : Char → Bool) (onRecording : Option CallbackEnd)
    (bot : BotProcess) (s : OutputState) : Prop where
  | raised (side : Side) (h : s.pumps side = .raised)
      (hbot : ¬ Attended lim isAlnum onRecording bot)
  | hung (side : Side) (lines : List Bytes) (h : s.pumps side = .firing lines)
      (hbot : ¬ Attended lim isAlnum onRecording bot)
  | finished (h : ∀ side, s.pumps side = .finished)
      (hbot : Attended lim isAlnum onRecording bot)
      (hlogged : Interleaves (botTexts bot .left) (botTexts bot .right) s.logged)
      (hresult : s.result = lastResult lim isAlnum s.logged)

variable (lim isAlnum onRecording bot) in
theorem outputOutcome_end (order : ℕ → Side) :
    OutputOutcome lim isAlnum onRecording bot (outputEnd lim isAlnum onRecording order bot) := by
  obtain ⟨s, hs⟩ : ∃ s, s = outputEnd lim isAlnum onRecording order bot := ⟨_, rfl⟩
  have hinv := outputInv_end lim isAlnum onRecording bot order
  have hsettled := (pumpGather lim isAlnum onRecording).run_settled order (outputStart bot)
  change (pumpGather lim isAlnum onRecording).raised (outputEnd lim isAlnum onRecording order bot) ∨
    ∀ side, pumpTurn lim isAlnum onRecording side
      (outputEnd lim isAlnum onRecording order bot) = none at hsettled
  rw [← hs] at hinv hsettled ⊢
  rcases hinv with ⟨⟨side, hraised⟩, hbot⟩ | ⟨hraised, read, hreads, hfires⟩
  · exact .raised side hraised hbot
  · have hstuck : ∀ side, pumpTurn lim isAlnum onRecording side s = none := by
      rcases hsettled with hend | hstuck
      · simp only [pumpGather, Bool.or_eq_true, decide_eq_true_eq] at hend
        rcases hend with hend | hend
        · exact absurd hend (hraised .left)
        · exact absurd hend (hraised .right)
      · exact hstuck
    by_cases hfiring : ∃ side lines, s.pumps side = .firing lines
    · obtain ⟨side, lines, hfiring⟩ := hfiring
      refine .hung side lines hfiring fun hbot => ?_
      obtain ⟨hcallback, side', raw, hmem, hsignal⟩ :=
        hfires.fired (hfires.firing side lines hfiring)
      obtain ⟨callback, hcallback⟩ := Option.isSome_iff_exists.1 hcallback
      have hmem' : raw ∈ botLines bot side' := by
        rw [hreads.split side']
        exact List.mem_append_left _ hmem
      have hreturns := hbot.returns callback hcallback side' raw hmem' hsignal
      have hnone := hstuck side
      rw [pumpTurn, hfiring, hcallback, hreturns] at hnone
      cases hnone
    · have hfinished : ∀ side, s.pumps side = .finished := by
        intro side
        have hnone := hstuck side
        unfold pumpTurn at hnone
        cases hpump : s.pumps side with
        | finished => rfl
        | raised => exact absurd hpump (hraised side)
        | firing lines => exact absurd ⟨side, lines, hpump⟩ hfiring
        | reading lines =>
            rw [hpump] at hnone
            cases lines <;> cases hnone
      have hread : ∀ side, read side = botLines bot side := by
        intro side
        have hsplit := hreads.split side
        rw [hfinished side] at hsplit
        rw [hsplit]
        exact (List.append_nil _).symm
      refine .finished hfinished ⟨?_, ?_⟩ ?_ hreads.result
      · intro side raw hmem
        rw [← hread side] at hmem
        exact hreads.readable side raw hmem
      · intro callback hcallback side raw hmem hsignal
        rw [← hread side] at hmem
        rw [Option.mem_def] at hcallback
        cases hfired : s.recordingFired with
        | false =>
            have hsilent := hfires.silent hfired (by simp [hcallback]) side raw hmem
            rw [hsignal] at hsilent
            cases hsilent
        | true =>
            rcases hfires.awaited hfired with hawaits | hreturns
            · exact absurd hawaits hfiring
            · rw [hcallback] at hreturns
              exact Option.some.inj hreturns
      · have hlogged := hreads.logged
        rw [hread, hread] at hlogged
        exact hlogged

theorem spawnBot_of_finished {order : ℕ → Side}
    (h : ∀ side, (outputEnd lim isAlnum onRecording order bot).pumps side = .finished) :
    spawnBot lim isAlnum onRecording order (some bot) = .returned (some bot.exitCode)
      (outputEnd lim isAlnum onRecording order bot).result := by
  simp [spawnBot, h]

theorem pumps_of_spawnBot {order : ℕ → Side} {code : ExitCode} {result : Option ResultPayload}
    (h : spawnBot lim isAlnum onRecording order (some bot) = .returned code result) (side : Side) :
    (outputEnd lim isAlnum onRecording order bot).pumps side = .finished := by
  unfold spawnBot at h
  dsimp only at h
  split_ifs at h with hraised hfinished
  simp only [Bool.and_eq_true, decide_eq_true_eq] at hfinished
  cases side with
  | left => exact hfinished.1
  | right => exact hfinished.2

theorem attended_of_exitKept {order : ℕ → Side}
    (h : ExitKept lim isAlnum onRecording order bot) : Attended lim isAlnum onRecording bot := by
  have hfinished := pumps_of_spawnBot h.returned
  cases outputOutcome_end lim isAlnum onRecording bot order with
  | raised side hraised =>
      rw [hfinished side] at hraised
      cases hraised
  | hung side lines hfiring =>
      rw [hfinished side] at hfiring
      cases hfiring
  | finished _ hbot => exact hbot

/-- An exit is kept exactly when the bot can be attended to, whatever the order of its streams. -/
theorem exitKept_iff (lim : Limits) (isAlnum : Char → Bool) (onRecording : Option CallbackEnd)
    (order : ℕ → Side) (bot : BotProcess) :
    ExitKept lim isAlnum onRecording order bot ↔ Attended lim isAlnum onRecording bot := by
  constructor
  · exact attended_of_exitKept
  · intro hbot
    cases outputOutcome_end lim isAlnum onRecording bot order with
    | raised _ _ hnot => exact absurd hbot hnot
    | hung _ _ _ hnot => exact absurd hbot hnot
    | finished hfinished _ hlogged hresult =>
        have hreturned := spawnBot_of_finished hfinished
        rw [hresult] at hreturned
        refine ⟨hlogged, hreturned, fun callback hcallback row hrow => ?_⟩
        obtain rfl : onRecording = some callback := hcallback
        rw [runCall, if_pos (by simp [hrow]), hreturned]
        simp

end Exits

/-! ## A line that is too long -/

def longLine : Bytes := List.replicate (readerLimit + 1) 120

def longLineBot : BotProcess where
  stream
    | .left => []
    | .right => longLine
  exitCode := 0

theorem not_exitKept_longLineBot :
    ¬ ExitKept pythonLimits (fun _ => false) (some .returns) (fun _ => .left) longLineBot := by
  intro h
  have hfeed : lineFeed ∉ longLine := by
    rw [longLine, List.mem_replicate]
    decide
  have hne : longLine ≠ [] := by
    rw [longLine, List.replicate_succ]
    exact List.cons_ne_nil _ _
  have hlines : botLines longLineBot .right = [longLine] := byteLines_eq_singleton hne hfeed
  have hmem : longLine ∈ botLines longLineBot .right := by
    rw [hlines]
    exact List.mem_singleton_self _
  have hsize := ((attended_of_exitKept h).readable .right longLine hmem).size
  rw [lineSize_eq_length hfeed, longLine, List.length_replicate] at hsize
  omega

end Notetaker

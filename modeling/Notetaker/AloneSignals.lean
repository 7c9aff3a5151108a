import Notetaker.MeetStates
import Notetaker.ZoomStates

/-!
# The alone verdict through a selector set

`bot_alone_in_call` of both platforms reads three signals through a selector set: that the in-call
control is shown, the participant count and the alone hint. `AloneSignals.verdict` is the function of
the signals that both compute, and `Asking` records which selectors are consulted for it.

The Zoom verdict follows its selector set. The Meet verdict takes the count from the default selectors,
so it follows only the sets that agree with them, or that do not show the in-call control.
-/

open PythonText

namespace Notetaker

/-! ## Signals -/

/-- What a page shows through a selector set. -/
structure AloneSignals where
  inCall : Reading Bool
  count : Reading (Option ℕ × Text)
  hint : Reading (Option Element)

namespace AloneSignals

variable (signals : AloneSignals)

def Counts (count : Option ℕ) : Prop := ∃ detail, signals.count = .ok (count, detail)

def Hinted : Prop := ∃ hint, signals.hint = .ok (some hint)

def Alone : Prop :=
  signals.inCall = .ok true ∧
    (signals.Counts (some 1) ∨ (signals.Counts none ∨ signals.Counts (some 0)) ∧ signals.Hinted)

/-- No read of a signal raises. -/
structure Readable : Prop where
  inCall : ∃ shown, signals.inCall = .ok shown
  count : ∃ count, signals.count = .ok count
  hint : ∃ hint, signals.hint = .ok hint
  label : ∀ hint, signals.hint = .ok (some hint) → ∃ label, hint.ariaLabel = .ok label

def verdict : Reading (Bool × Text) := do
  if ¬ (← signals.inCall) then return (false, "not in a call")
  let (count, detail) ← signals.count
  aloneVerdict count detail (← signals.hint)

end AloneSignals

/-! ## The verdict on the signals -/

section Verdict

variable (count : Option ℕ) (detail : Text) (element : Element)

theorem aloneVerdict_without_hint :
    ∃ shown, aloneVerdict count detail none = .ok (decide (count = some 1), shown) := by
  unfold aloneVerdict
  by_cases hone : count = some 1
  · rw [if_pos hone, decide_eq_true hone]
    exact ⟨_, rfl⟩
  · rw [if_neg hone, decide_eq_false hone]
    split_ifs with hmany
    · exact ⟨_, rfl⟩
    · exact ⟨_, rfl⟩

variable {count}

theorem aloneVerdict_of_many (hint : Option Element) (h : count.any (1 < ·)) :
    ∃ shown, aloneVerdict count detail hint = .ok (false, shown) := by
  have hone : count ≠ some 1 := by
    rintro rfl
    cases h
  unfold aloneVerdict
  rw [if_neg hone, if_pos h]
  exact ⟨_, rfl⟩

theorem aloneVerdict_of_hint (h : ¬ count.any (1 < ·)) :
    ∃ shown : Text → Text, aloneVerdict count detail (some element) =
      (locatorDetail element).map fun hintDetail => (true, shown hintDetail) := by
  unfold aloneVerdict
  by_cases hone : count = some 1
  · rw [if_pos hone]
    exact ⟨_, rfl⟩
  · rw [if_neg hone, if_neg h]
    exact ⟨_, rfl⟩

theorem not_many_iff : ¬ count.any (1 < ·) ↔ count = some 1 ∨ count = none ∨ count = some 0 := by
  cases count with
  | none => simp
  | some n =>
      simp only [Option.any_some, decide_eq_true_eq, Option.some.injEq, reduceCtorEq, false_or]
      omega

theorem exists_locatorDetail {element : Element} (h : ∃ label, element.ariaLabel = .ok label) :
    ∃ hintDetail, locatorDetail element = .ok hintDetail := by
  obtain ⟨label, hlabel⟩ := h
  unfold locatorDetail
  rw [hlabel]
  exact ⟨_, rfl⟩

variable {detail} {hint : Option Element}

theorem aloneVerdict_sound {v : Bool × Text} (h : aloneVerdict count detail hint = .ok v) :
    v.1 = true ↔ count = some 1 ∨ (count = none ∨ count = some 0) ∧ ∃ element, hint = some element := by
  by_cases hmany : count.any (1 < ·)
  · obtain ⟨shown, hverdict⟩ := aloneVerdict_of_many detail hint hmany
    rw [hverdict] at h
    cases h
    have hfew : ¬ (count = some 1 ∨ count = none ∨ count = some 0) := fun hfew =>
      not_many_iff.2 hfew hmany
    simp only [Bool.false_eq_true, false_iff]
    rintro (hone | ⟨hfew', -⟩)
    · exact hfew (.inl hone)
    · exact hfew (.inr hfew')
  · cases hint with
    | none =>
        obtain ⟨shown, hverdict⟩ := aloneVerdict_without_hint count detail
        rw [hverdict] at h
        cases h
        simp
    | some element =>
        obtain ⟨shown, hverdict⟩ := aloneVerdict_of_hint detail element hmany
        rw [hverdict] at h
        cases hdetail : locatorDetail element with
        | error e =>
            rw [hdetail] at h
            cases h
        | ok hintDetail =>
            rw [hdetail] at h
            cases h
            have hfew := not_many_iff.1 hmany
            simp [hfew]

theorem aloneVerdict_returns (count : Option ℕ) (detail : Text)
    (h : ∀ element, hint = some element → ∃ label, element.ariaLabel = .ok label) :
    ∃ v, aloneVerdict count detail hint = .ok v := by
  by_cases hmany : count.any (1 < ·)
  · obtain ⟨shown, hverdict⟩ := aloneVerdict_of_many detail hint hmany
    exact ⟨_, hverdict⟩
  · cases hint with
    | none =>
        obtain ⟨shown, hverdict⟩ := aloneVerdict_without_hint count detail
        exact ⟨_, hverdict⟩
    | some element =>
        obtain ⟨shown, hverdict⟩ := aloneVerdict_of_hint detail element hmany
        obtain ⟨hintDetail, hdetail⟩ := exists_locatorDetail (h element rfl)
        rw [hverdict, hdetail]
        exact ⟨_, rfl⟩

end Verdict

namespace AloneSignals

variable {signals : AloneSignals}

theorem verdict_of_not_inCall (h : signals.inCall = .ok false) :
    ∃ shown, signals.verdict = .ok (false, shown) := by
  unfold verdict
  rw [h]
  exact ⟨_, rfl⟩

theorem verdict_of_inCall (h : signals.inCall = .ok true) :
    signals.verdict = signals.count >>= fun count => signals.hint >>= fun hint =>
      aloneVerdict count.1 count.2 hint := by
  unfold verdict
  rw [h]
  rfl

theorem verdict_eq_ok {v : Bool × Text} (h : signals.verdict = .ok v) :
    (signals.inCall = .ok false ∧ v.1 = false) ∨
      signals.inCall = .ok true ∧ ∃ count detail hint, signals.count = .ok (count, detail) ∧
        signals.hint = .ok hint ∧ aloneVerdict count detail hint = .ok v := by
  cases hinCall : signals.inCall with
  | error e =>
      unfold verdict at h
      rw [hinCall] at h
      cases h
  | ok shown =>
      cases shown with
      | false =>
          obtain ⟨shown, hverdict⟩ := verdict_of_not_inCall hinCall
          rw [hverdict] at h
          cases h
          exact .inl ⟨rfl, rfl⟩
      | true =>
          rw [verdict_of_inCall hinCall] at h
          cases hcount : signals.count with
          | error e =>
              rw [hcount] at h
              cases h
          | ok count =>
              cases hhint : signals.hint with
              | error e =>
                  rw [hcount, hhint] at h
                  cases h
              | ok hint =>
                  rw [hcount, hhint] at h
                  exact .inr ⟨rfl, count.1, count.2, hint, rfl, rfl, h⟩

theorem verdict_sound {v : Bool × Text} (h : signals.verdict = .ok v) :
    v.1 = true ↔ signals.Alone := by
  unfold Alone Counts Hinted
  obtain ⟨hinCall, hv⟩ | ⟨hinCall, count, detail, hint, hcount, hhint, hverdict⟩ := verdict_eq_ok h
  · simp [hinCall, hv]
  · rw [aloneVerdict_sound hverdict]
    simp [hinCall, hcount, hhint]

theorem verdict_returns (h : signals.Readable) : ∃ v, signals.verdict = .ok v := by
  obtain ⟨shown, hinCall⟩ := h.inCall
  cases shown with
  | false =>
      obtain ⟨shown, hverdict⟩ := verdict_of_not_inCall hinCall
      exact ⟨_, hverdict⟩
  | true =>
      obtain ⟨⟨count, detail⟩, hcount⟩ := h.count
      obtain ⟨hint, hhint⟩ := h.hint
      rw [verdict_of_inCall hinCall, hcount, hhint]
      apply aloneVerdict_returns
      rintro element rfl
      exact h.label element hhint

end AloneSignals

/-! ## Consulted selectors -/

inductive SelectorName where
  | leaveCallButton | leaveButton | endButton | participantCountButton | aloneHint
  deriving DecidableEq

/-- A selector with the name under which a set has it. -/
structure NamedSelector where
  name : SelectorName
  query : SelectorQuery

/-- A reading that records the selectors it consults. -/
abbrev Asking := EventLog NamedSelector PageError

def ask (page : Page) (name : SelectorName) (query : SelectorQuery) : Asking (Option Element) := do
  .emit ⟨name, query⟩
  .read (query page)

def shownCount (countText : Text → Text → Option Text) (button : Element) :
    Reading (Option ℕ × Text) := do
  let (label, text) ← countSources button
  match countText label text with
  | none =>
      let detail ← locatorDetail button
      return (none, concat ["participant count unavailable (", detail, ")"])
  | some digits =>
      let count ← parseCount digits
      return (some count, countDetail count)

@[simp] theorem result_ask (page : Page) (name : SelectorName) (query : SelectorQuery) :
    (ask page name query).result = query page := rfl

/-- The selectors that a set has under their names are the only ones consulted. -/
def ConsultsOnly {α : Type} (named : SelectorName → Option SelectorQuery) (x : Asking α) : Prop :=
  x.Emits fun asked => named asked.name = some asked.query

namespace ConsultsOnly

variable {named : SelectorName → Option SelectorQuery} {α β : Type} {page : Page}
  {name : SelectorName} {query : SelectorQuery}

theorem ask (h : named name = some query) : ConsultsOnly named (ask page name query) :=
  EventLog.Emits.emit_bind h EventLog.Emits.read

theorem named_of_ask_bind {f : Option Element → Asking β}
    (h : ConsultsOnly named (Notetaker.ask page name query >>= f)) : named name = some query := by
  apply h ⟨name, query⟩
  cases hresult : query page with
  | error e =>
      rw [EventLog.bind_of_error (x := Notetaker.ask page name query) hresult]
      exact List.mem_singleton.2 rfl
  | ok found =>
      rw [EventLog.bind_of_ok (x := Notetaker.ask page name query) hresult]
      exact List.mem_cons_self

end ConsultsOnly

/-! ## The promise -/

namespace AloneSignals

/-- The verdict is the function of the signals, true exactly when they show the bot alone. -/
structure Followed (signals : AloneSignals) (verdict : Reading (Bool × Text)) : Prop where
  verdict_eq : verdict = signals.verdict
  sound : ∀ v, verdict = .ok v → (v.1 = true ↔ signals.Alone)
  returns : signals.Readable → ∃ v, verdict = .ok v
  others : ∀ n, 2 ≤ n → signals.Counts (some n) → ∀ v, verdict = .ok v → v.1 = false

theorem not_alone_of_counts {signals : AloneSignals} {n : ℕ} (hn : 2 ≤ n)
    (h : signals.Counts (some n)) : ¬ signals.Alone := by
  obtain ⟨detail, hcount⟩ := h
  have hfew : ∀ m, signals.Counts m → m = some n := by
    rintro m ⟨detail', hm⟩
    rw [hcount] at hm
    cases hm
    rfl
  rintro ⟨-, hone | ⟨hnone | hzero, -⟩⟩
  · cases hfew _ hone
    omega
  · cases hfew _ hnone
  · cases hfew _ hzero
    omega

theorem followed_verdict (signals : AloneSignals) : signals.Followed signals.verdict where
  verdict_eq := rfl
  sound _ h := verdict_sound h
  returns := verdict_returns
  others _ hn hcount _ h :=
    Bool.eq_false_iff.2 fun htrue => not_alone_of_counts hn hcount ((verdict_sound h).1 htrue)

end AloneSignals

/-! ## Meet -/

namespace Meet

variable (page : Page) (selectorSet : SelectorSet) (isAlnum : Char → Bool)

def SelectorSet.named : SelectorName → Option SelectorQuery
  | .leaveCallButton => some selectorSet.leaveCallButton
  | .participantCountButton => some selectorSet.participantCountButton
  | .aloneHint => some selectorSet.aloneHint
  | .leaveButton | .endButton => none

def signals : AloneSignals where
  inCall := return (← selectorSet.leaveCallButton page).isSome
  count := participantCount page selectorSet isAlnum
  hint := selectorSet.aloneHint page

/-- `participantCount` with what it consults. -/
def participantCountAsking : Asking (Option ℕ × Text) := do
  if (← ask page .leaveCallButton selectorSet.leaveCallButton).isNone then
    return (none, "not in a call")
  match ← ask page .participantCountButton selectorSet.participantCountButton with
  | none => return (none, "participant-count control absent")
  | some button => .read (shownCount (countText isAlnum) button)

/-- `botAloneInCall` with what it consults. -/
def botAloneInCallAsking : Asking (Bool × Text) := do
  if (← ask page .leaveCallButton selectorSet.leaveCallButton).isNone then
    return (false, "not in a call")
  let (count, detail) ← participantCountAsking page selectors isAlnum
  let hint ← ask page .aloneHint selectorSet.aloneHint
  .read (aloneVerdict count detail hint)

def FollowsSelectorSet : Prop :=
  (signals page selectorSet isAlnum).Followed (botAloneInCall page selectorSet isAlnum) ∧
    ConsultsOnly selectorSet.named (botAloneInCallAsking page selectorSet isAlnum)

theorem result_participantCountAsking :
    (participantCountAsking page selectorSet isAlnum).result =
      participantCount page selectorSet isAlnum := by
  unfold participantCountAsking participantCount
  rw [EventLog.result_bind, result_ask]
  apply bind_congr
  intro leave
  cases leave with
  | none => rfl
  | some leave =>
      simp only [Option.isNone_some, Bool.false_eq_true, if_false]
      rw [EventLog.result_bind, result_ask]
      apply bind_congr
      intro button
      cases button with
      | none => rfl
      | some button => rfl

theorem result_botAloneInCallAsking :
    (botAloneInCallAsking page selectorSet isAlnum).result =
      botAloneInCall page selectorSet isAlnum := by
  unfold botAloneInCallAsking botAloneInCall
  rw [EventLog.result_bind, result_ask]
  apply bind_congr
  intro leave
  cases leave with
  | none => rfl
  | some leave =>
      simp only [Option.isNone_some, Bool.false_eq_true, if_false]
      rw [EventLog.result_bind, result_participantCountAsking]
      apply bind_congr
      intro count
      rw [EventLog.result_bind, result_ask]
      rfl

variable {page selectorSet isAlnum}

theorem botAloneInCall_of_count_eq
    (h : participantCount page selectors isAlnum = participantCount page selectorSet isAlnum) :
    botAloneInCall page selectorSet isAlnum = (signals page selectorSet isAlnum).verdict := by
  unfold botAloneInCall AloneSignals.verdict signals
  rw [h]
  cases selectorSet.leaveCallButton page with
  | error e => rfl
  | ok leave =>
      cases leave with
      | none => rfl
      | some leave => rfl

theorem botAloneInCall_of_absent
    (h : ∀ leave, selectorSet.leaveCallButton page ≠ .ok (some leave)) :
    botAloneInCall page selectorSet isAlnum = (signals page selectorSet isAlnum).verdict := by
  unfold botAloneInCall AloneSignals.verdict signals
  cases hleave : selectorSet.leaveCallButton page with
  | error e => rfl
  | ok leave =>
      cases leave with
      | none => rfl
      | some leave => exact absurd hleave (h leave)

theorem participantCount_congr {other : SelectorSet}
    (hleave : selectorSet.leaveCallButton = other.leaveCallButton)
    (hcount : selectorSet.participantCountButton = other.participantCountButton) :
    participantCount page selectorSet isAlnum = participantCount page other isAlnum := by
  unfold participantCount
  rw [hleave, hcount]

theorem consultsOnly_participantCount {other : SelectorSet}
    (hleave : selectorSet.leaveCallButton = other.leaveCallButton)
    (hcount : selectorSet.participantCountButton = other.participantCountButton) :
    ConsultsOnly selectorSet.named (participantCountAsking page other isAlnum) := by
  apply EventLog.Emits.bind (ConsultsOnly.ask (congrArg some hleave))
  intro leave _
  apply EventLog.Emits.ite
  · intro _
    exact EventLog.Emits.pure
  · intro _
    apply EventLog.Emits.bind (ConsultsOnly.ask (congrArg some hcount))
    intro button _
    cases button with
    | none => exact EventLog.Emits.pure
    | some button => exact EventLog.Emits.read

theorem consultsOnly_botAloneInCall
    (h : ∀ leave, selectorSet.leaveCallButton page = .ok (some leave) →
      ConsultsOnly selectorSet.named (participantCountAsking page selectors isAlnum)) :
    ConsultsOnly selectorSet.named (botAloneInCallAsking page selectorSet isAlnum) := by
  apply EventLog.Emits.bind (ConsultsOnly.ask rfl)
  intro leave hleave
  cases leave with
  | none => exact EventLog.Emits.pure
  | some leave =>
      apply EventLog.Emits.bind (h leave hleave)
      intro count _
      apply EventLog.Emits.bind (ConsultsOnly.ask rfl)
      intro hint _
      exact EventLog.Emits.read

theorem eq_selectors_of_consultsOnly {leave : Element}
    (hleave : selectorSet.leaveCallButton page = .ok (some leave))
    (h : ConsultsOnly selectorSet.named (botAloneInCallAsking page selectorSet isAlnum)) :
    selectorSet.leaveCallButton = selectors.leaveCallButton ∧
      selectorSet.participantCountButton = selectors.participantCountButton := by
  have hcount : ConsultsOnly selectorSet.named (participantCountAsking page selectors isAlnum) :=
    (h.rest_of_bind (x := ask page .leaveCallButton selectorSet.leaveCallButton) hleave).head_of_bind
  have hsame : selectorSet.leaveCallButton = selectors.leaveCallButton :=
    Option.some.inj hcount.named_of_ask_bind
  have hdefault : selectors.leaveCallButton page = .ok (some leave) := hsame ▸ hleave
  have hbutton := hcount.rest_of_bind
    (x := ask page .leaveCallButton selectors.leaveCallButton) hdefault
  exact ⟨hsame, Option.some.inj (ConsultsOnly.named_of_ask_bind hbutton)⟩

theorem followsSelectorSet_iff :
    FollowsSelectorSet page selectorSet isAlnum ↔
      ((∃ leave, selectorSet.leaveCallButton page = .ok (some leave)) →
        selectorSet.leaveCallButton = selectors.leaveCallButton ∧
          selectorSet.participantCountButton = selectors.participantCountButton) := by
  constructor
  · rintro ⟨-, hconsults⟩ ⟨leave, hleave⟩
    exact eq_selectors_of_consultsOnly hleave hconsults
  · intro h
    constructor
    · have hverdict : botAloneInCall page selectorSet isAlnum =
          (signals page selectorSet isAlnum).verdict := by
        by_cases hshown : ∃ leave, selectorSet.leaveCallButton page = .ok (some leave)
        · obtain ⟨hleave, hcount⟩ := h hshown
          exact botAloneInCall_of_count_eq (participantCount_congr hleave.symm hcount.symm)
        · exact botAloneInCall_of_absent (not_exists.1 hshown)
      rw [hverdict]
      exact AloneSignals.followed_verdict _
    · apply consultsOnly_botAloneInCall
      intro leave hleave
      obtain ⟨hsame, hcount⟩ := h ⟨leave, hleave⟩
      exact consultsOnly_participantCount hsame hcount

theorem botAlone_observe (rest : Poll) :
    (observe page isAlnum rest).botAlone = (signals page selectors isAlnum).verdict :=
  botAloneInCall_of_count_eq rfl

end Meet

/-! ## Zoom -/

namespace Zoom

variable (page : Page) (selectorSet : SelectorSet) (isAlnum : Char → Bool)

def SelectorSet.named : SelectorName → Option SelectorQuery
  | .leaveButton => some selectorSet.leaveButton
  | .endButton => some selectorSet.endButton
  | .participantCountButton => some selectorSet.participantCountButton
  | .aloneHint => some selectorSet.aloneHint
  | .leaveCallButton => none

def signals : AloneSignals where
  inCall := return (← inCallControls page selectorSet).1
  count := participantCount page selectorSet isAlnum
  hint := selectorSet.aloneHint page

/-- `inCallControls` with what it consults. -/
def inCallControlsAsking : Asking (Bool × Text) := do
  match ← ask page .leaveButton selectorSet.leaveButton with
  | some leave => .read do return (true, concat ["in call: ", ← locatorDetail leave])
  | none =>
      match ← ask page .endButton selectorSet.endButton with
      | some endButton => .read do return (true, concat ["in call: ", ← locatorDetail endButton])
      | none => return (false, "leave/end control absent")

/-- `participantCount` with what it consults. -/
def participantCountAsking : Asking (Option ℕ × Text) := do
  let (controls, _) ← inCallControlsAsking page selectorSet
  if ¬ controls then return (none, "not in a call")
  match ← ask page .participantCountButton selectorSet.participantCountButton with
  | none => return (none, "participant-count control absent")
  | some button => .read (shownCount (countText isAlnum) button)

/-- `botAloneInCall` with what it consults. -/
def botAloneInCallAsking : Asking (Bool × Text) := do
  let (controls, _) ← inCallControlsAsking page selectorSet
  if ¬ controls then return (false, "not in a call")
  let (count, detail) ← participantCountAsking page selectorSet isAlnum
  let hint ← ask page .aloneHint selectorSet.aloneHint
  .read (aloneVerdict count detail hint)

def FollowsSelectorSet : Prop :=
  (signals page selectorSet isAlnum).Followed (botAloneInCall page selectorSet isAlnum) ∧
    ConsultsOnly selectorSet.named (botAloneInCallAsking page selectorSet isAlnum)

theorem result_inCallControlsAsking :
    (inCallControlsAsking page selectorSet).result = inCallControls page selectorSet := by
  unfold inCallControlsAsking inCallControls
  rw [EventLog.result_bind, result_ask]
  apply bind_congr
  intro leave
  cases leave with
  | some leave => rfl
  | none =>
      dsimp only
      rw [EventLog.result_bind, result_ask]
      apply bind_congr
      intro endButton
      cases endButton with
      | none => rfl
      | some endButton => rfl

theorem result_participantCountAsking :
    (participantCountAsking page selectorSet isAlnum).result =
      participantCount page selectorSet isAlnum := by
  unfold participantCountAsking participantCount
  rw [EventLog.result_bind, result_inCallControlsAsking]
  apply bind_congr
  rintro ⟨controls, shown⟩
  cases controls with
  | false => rfl
  | true =>
      simp only [not_true_eq_false, if_false]
      rw [EventLog.result_bind, result_ask]
      apply bind_congr
      intro button
      cases button with
      | none => rfl
      | some button => rfl

theorem result_botAloneInCallAsking :
    (botAloneInCallAsking page selectorSet isAlnum).result =
      botAloneInCall page selectorSet isAlnum := by
  unfold botAloneInCallAsking botAloneInCall
  rw [EventLog.result_bind, result_inCallControlsAsking]
  apply bind_congr
  rintro ⟨controls, shown⟩
  cases controls with
  | false => rfl
  | true =>
      simp only [not_true_eq_false, if_false]
      rw [EventLog.result_bind, result_participantCountAsking]
      apply bind_congr
      intro count
      rw [EventLog.result_bind, result_ask]
      rfl

theorem botAloneInCall_eq_verdict :
    botAloneInCall page selectorSet isAlnum = (signals page selectorSet isAlnum).verdict := by
  unfold botAloneInCall AloneSignals.verdict signals
  cases inCallControls page selectorSet with
  | error e => rfl
  | ok controls => rfl

theorem consultsOnly_inCallControls :
    ConsultsOnly selectorSet.named (inCallControlsAsking page selectorSet) := by
  apply EventLog.Emits.bind (ConsultsOnly.ask rfl)
  intro leave _
  cases leave with
  | some leave => exact EventLog.Emits.read
  | none =>
      apply EventLog.Emits.bind (ConsultsOnly.ask rfl)
      intro endButton _
      cases endButton with
      | none => exact EventLog.Emits.pure
      | some endButton => exact EventLog.Emits.read

theorem consultsOnly_participantCount :
    ConsultsOnly selectorSet.named (participantCountAsking page selectorSet isAlnum) := by
  apply EventLog.Emits.bind (consultsOnly_inCallControls page selectorSet)
  intro controls _
  apply EventLog.Emits.ite
  · intro _
    exact EventLog.Emits.pure
  · intro _
    apply EventLog.Emits.bind (ConsultsOnly.ask rfl)
    intro button _
    cases button with
    | none => exact EventLog.Emits.pure
    | some button => exact EventLog.Emits.read

theorem consultsOnly_botAloneInCall :
    ConsultsOnly selectorSet.named (botAloneInCallAsking page selectorSet isAlnum) := by
  apply EventLog.Emits.bind (consultsOnly_inCallControls page selectorSet)
  intro controls _
  apply EventLog.Emits.ite
  · intro _
    exact EventLog.Emits.pure
  · intro _
    apply EventLog.Emits.bind (consultsOnly_participantCount page selectorSet isAlnum)
    intro count _
    apply EventLog.Emits.bind (ConsultsOnly.ask rfl)
    intro hint _
    exact EventLog.Emits.read

theorem followsSelectorSet : FollowsSelectorSet page selectorSet isAlnum := by
  constructor
  · rw [botAloneInCall_eq_verdict]
    exact AloneSignals.followed_verdict _
  · exact consultsOnly_botAloneInCall page selectorSet isAlnum

end Zoom

/-! ## Both platforms -/

theorem followsSelectorSets_iff (isAlnum : Char → Bool) (meetPage zoomPage : Page)
    (meetSet : Meet.SelectorSet) (zoomSet : Zoom.SelectorSet) :
    (Meet.FollowsSelectorSet meetPage meetSet isAlnum ∧
        Zoom.FollowsSelectorSet zoomPage zoomSet isAlnum) ↔
      ((∃ leave, meetSet.leaveCallButton meetPage = .ok (some leave)) →
        meetSet.leaveCallButton = Meet.selectors.leaveCallButton ∧
          meetSet.participantCountButton = Meet.selectors.participantCountButton) := by
  rw [Meet.followsSelectorSet_iff]
  exact and_iff_left (Zoom.followsSelectorSet zoomPage zoomSet isAlnum)

namespace Meet

def namedButton (name : Text) (selectors : List Text) : Node where
  role := some .button
  name := name
  text := name
  childTexts := []
  ariaLabel := some name
  innerText := name
  selectors := selectors
  visible := true

/-- A call whose side panel has a count of its own. -/
def sidePanelPage : Page :=
  Document.page ⟨[namedButton "Leave call" [], namedButton "People (1)" [],
    namedButton "2" [".toolbar-count"]], []⟩

def toolbarSelectors : SelectorSet :=
  { selectors with
    participantCountButton := fun page => firstVisible page none [.css ".toolbar-count"] }

theorem participantCount_toolbarSelectors :
    participantCount sidePanelPage toolbarSelectors (fun _ => false) =
      .ok (some 2, "2 participants in call") := rfl

theorem botAloneInCall_toolbarSelectors :
    botAloneInCall sidePanelPage toolbarSelectors (fun _ => false) =
      .ok (true, "only the bot remains (1 participant in call)") := rfl

/-- The bot counts as alone with two participants shown by the selector set. -/
theorem not_followsSelectorSet_toolbarSelectors :
    ¬ FollowsSelectorSet sidePanelPage toolbarSelectors fun _ => false := by
  rintro ⟨hfollowed, -⟩
  have hcount : (signals sidePanelPage toolbarSelectors fun _ => false).Counts (some 2) :=
    ⟨_, participantCount_toolbarSelectors⟩
  have hfalse := hfollowed.others 2 le_rfl hcount _ botAloneInCall_toolbarSelectors
  cases hfalse

end Meet

end Notetaker

import Notetaker.CallRecord
import Notetaker.JsonText
import Notetaker.PollingLoop

/-!
# The Deepgram client

`integrations/transcription/deepgram.py`: the status of a response, its JSON body, and the segments, from
the utterances or, without them, from runs of words of one speaker. The parser tests types as Python
does, so that a boolean is an integer. The events are the warnings about dropped entries.
-/

open PythonText PythonFloat JsonText

namespace Notetaker

abbrev Transcript := List SpeakerSegment

inductive DeepgramError where
  | transient (message : Text)
  | permanent (message : Text)
  /-- `OverflowError` of `float(n)`. -/
  | overflow
  /-- `RecursionError` of `json.loads`. -/
  | recursion

inductive EntryKind where
  | utterances | words

/-- The warning `deepgram …: dropped=… unparseable entries`. -/
structure DropReport where
  kind : EntryKind
  dropped : ℕ

abbrev Parsing := EventLog DropReport DeepgramError

namespace Deepgram

/-! ## Typed fields -/

/-- `f"S{speaker}"` of an `int`. -/
def speakerLabel : Json → Option Text
  | .int n => some ('S' :: intText n)
  | .bool b => some ('S' :: if b then "True" else "False")
  | _ => none

def isNumber : Json → Bool
  | .int _ | .bool _ | .float _ => true
  | _ => false

/-- `float(n)`; `none` is the `OverflowError`. -/
def intToFloat (n : ℤ) : Option PyFloat :=
  match toDouble (n < 0) n.natAbs 1 with
  | .inf _ => none
  | x => some x

/-- `float(v)` of a number. -/
def toFloat : Json → Option PyFloat
  | .int n => intToFloat n
  | .bool b => some (.finite (if b then 1 else 0))
  | .float x => some x
  | _ => none

/-- `d.get(key)`, where a missing key reads as `None`. -/
def field (key : Text) (members : List (Text × Json)) : Json := (members.lookup key).getD .null

/-- What an entry says before its times are converted. -/
structure Entry where
  speaker : Text
  start : Json
  stop : Json
  text : Text

def Entry.segment (entry : Entry) : Option SpeakerSegment := do
  return ⟨entry.speaker, ← toFloat entry.start, ← toFloat entry.stop, entry.text⟩

/-! ## Utterances -/

/-- An utterance whose fields have the right types. -/
def utteranceEntry : Json → Option Entry
  | .obj members =>
      match speakerLabel (field "speaker" members), field "transcript" members with
      | some speaker, .str text =>
          if isNumber (field "start" members) && isNumber (field "end" members) then
            some ⟨speaker, field "start" members, field "end" members, text⟩
          else none
      | _, _ => none
  | _ => none

def segmentsFromUtterances : List Json → Option (List SpeakerSegment × ℕ)
  | [] => some ([], 0)
  | utterance :: utterances =>
      match utteranceEntry utterance with
      | none => do
          let (segments, dropped) ← segmentsFromUtterances utterances
          return (segments, dropped + 1)
      | some entry => do
          let segment ← entry.segment
          let (segments, dropped) ← segmentsFromUtterances utterances
          return (segment :: segments, dropped)

/-! ## Words -/

variable (isPrintable : Char → Bool)

/-- `str(word.get("punctuated_word") or word.get("word") or "")` -/
def wordText (members : List (Text × Json)) : Text :=
  let punctuated := field "punctuated_word" members
  let plain := field "word" members
  if punctuated.truthy then punctuated.toText isPrintable
  else if plain.truthy then plain.toText isPrintable
  else []

def wordEntry : Json → Option Entry
  | .obj members =>
      match speakerLabel (field "speaker" members) with
      | some speaker =>
          if isNumber (field "start" members) && isNumber (field "end" members) then
            some ⟨speaker, field "start" members, field "end" members,
              wordText isPrintable members⟩
          else none
      | none => none
  | _ => none

/-- A word of the same speaker goes on with the last segment. -/
def mergeWord (last : SpeakerSegment) (word : Entry) : Option SpeakerSegment := do
  return { last with
    stop := ← toFloat word.stop
    text := strip (concat [last.text, " ", word.text]) }

/-- The segments are in reverse. -/
def addSegment (reversed : List SpeakerSegment) (word : Entry) : Option (List SpeakerSegment) :=
  match reversed with
  | [] => do return [← word.segment]
  | last :: rest =>
      if last.speaker = word.speaker then do return (← mergeWord last word) :: rest
      else do return (← word.segment) :: last :: rest

structure WordScan where
  reversed : List SpeakerSegment
  dropped : ℕ
  wordsSeen : ℕ

def addWord (scan : WordScan) (word : Json) : Option WordScan :=
  match wordEntry isPrintable word with
  | none => some ⟨scan.reversed, scan.dropped + 1, scan.wordsSeen + 1⟩
  | some entry => do
      return ⟨← addSegment scan.reversed entry, scan.dropped, scan.wordsSeen + 1⟩

def asDicts : Json → List (List (Text × Json))
  | .arr items => items.filterMap fun item => match item with
      | .obj members => some members
      | _ => none
  | _ => []

/-- The words of the alternatives, in the order of the two loops. -/
def rawWords (alternatives : List (List (Text × Json))) : List Json :=
  alternatives.flatMap fun alternative => match field "words" alternative with
    | .arr words => words
    | _ => []

def segmentsFromWords (alternatives : List (List (Text × Json))) :
    Option (List SpeakerSegment × ℕ × ℕ) := do
  let scan ← (rawWords alternatives).foldlM (addWord isPrintable) ⟨[], 0, 0⟩
  return (scan.reversed.reverse, scan.dropped, scan.wordsSeen)

/-! ## The response -/

def orOverflow {α : Type} (x : Option α) : Parsing α :=
  .read (x.elim (.error .overflow) .ok)

def permanent {α : Type} (message : Text) : Parsing α := .read (.error (.permanent message))

def reportDropped (kind : EntryKind) (dropped : ℕ) : Parsing Unit :=
  if dropped = 0 then pure () else .emit ⟨kind, dropped⟩

def alternativesOf (results : List (Text × Json)) : List (List (Text × Json)) :=
  (asDicts (field "channels" results)).flatMap fun channel =>
    asDicts (field "alternatives" channel)

def parseUtterances (utterances : List Json) : Parsing Transcript := do
  let (segments, dropped) ← orOverflow (segmentsFromUtterances utterances)
  reportDropped .utterances dropped
  if segments = [] ∧ utterances ≠ [] then
    permanent "deepgram response has utterances but none parsed as segments"
  else return segments

def parseWords (alternatives : List (List (Text × Json))) : Parsing Transcript := do
  let (segments, dropped, wordsSeen) ← orOverflow (segmentsFromWords isPrintable alternatives)
  reportDropped .words dropped
  if segments = [] ∧ wordsSeen ≠ 0 then
    permanent "deepgram response has words but none parsed as segments"
  else return segments

def parseResponse (payload : List (Text × Json)) : Parsing Transcript :=
  match field "results" payload with
  | .obj results =>
      match field "utterances" results with
      | .arr utterances => parseUtterances utterances
      | _ => parseWords isPrintable (alternativesOf results)
  | _ => permanent "deepgram response missing results object"

def statusHint (status : ℕ) : Option Text :=
  if status = 401 then some "auth rejected — check DEEPGRAM_API_KEY"
  else if status = 400 then some "request rejected — bad parameters or audio"
  else if status = 402 then some "insufficient credits — operator action required"
  else none

def statusDetail (status : ℕ) : Text := concat ["deepgram returned HTTP ", natText status]

/-- What one request comes to. -/
inductive HttpResult where
  | timeout
  | transportError
  | unreadableAudio
  /-- `body` is the text that `json.loads` decodes from the bytes: UTF-8, UTF-16 or UTF-32, without a
  byte order mark. -/
  | response (status : ℕ) (body : Text)

def parseBody (lim : Limits) (body : Text) : Parsing Transcript :=
  match loads lim body with
  | .error .recursion => .read (.error .recursion)
  | .error _ => permanent "deepgram returned a non-JSON body"
  | .ok (.obj payload) => parseResponse isPrintable payload
  | .ok _ => permanent "deepgram response shape unexpected"

/-- `DeepgramTranscriptionClient.transcribe`. -/
def transcribe (lim : Limits) : HttpResult → Parsing Transcript
  | .timeout => .read (.error (.transient "deepgram request timed out"))
  | .transportError => .read (.error (.transient "deepgram connection failed"))
  | .unreadableAudio => permanent "stored audio unreadable"
  | .response status body =>
      if status = 429 ∨ 500 ≤ status then .read (.error (.transient (statusDetail status)))
      else if 300 ≤ status then
        permanent (match statusHint status with
          | some hint => concat [statusDetail status, " (", hint, ")"]
          | none => statusDetail status)
      else parseBody isPrintable lim body

end Deepgram
end Notetaker
